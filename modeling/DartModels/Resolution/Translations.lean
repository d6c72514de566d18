import DartModels.Catalog.Dependency
import DartModels.Dart.Type
import DartModels.Diagnostic
import DartModels.Json.Reader
import DartModels.Text.Blank
import DartModels.Text.Sorted
import DartModels.Traced

namespace DartModels

/-- What is wrong with the labels that the comment of an enum gives. -/
inductive LabelFault where
  | commentNotObject
  | missingTranslations
  | notTable
  | labelNotText
  | unsupportedLocales (locales : List String)
  | missingLocale (locale : String)
  | unknownValues (locale : String) (values : List String)
deriving DecidableEq, Repr

/-- The words for it. -/
def LabelFault.message : LabelFault → String
  | .commentNotObject => "Input should be a valid dictionary or instance of EnumComment"
  | .missingTranslations => "Field required"
  | .notTable => "Input should be a valid dictionary"
  | .labelNotText => "Input should be a valid string"
  | .unsupportedLocales locales =>
    "Value error, unsupported locales: " ++ Text.joined ", " locales
  | .missingLocale locale => "Value error, missing locale '" ++ locale ++ "'"
  | .unknownValues locale values =>
    "Value error, locale '" ++ locale ++ "' labels unknown values: " ++ Text.joined ", " values

namespace Translations

/-- What is wrong with the table of one locale, label by label. -/
def tableFaults : Json → List LabelFault
  | .object labels => labels.filterMap fun (_, label) =>
    if label.isText then none else some .labelNotText
  | _ => [.notTable]

/-- What is wrong with the shape of a comment, in the order in which it is
    written. -/
def shapeFaults : Json → List LabelFault
  | .object members =>
    match members.lookup "translations" with
    | none => [.missingTranslations]
    | some (.object locales) => locales.flatMap fun (_, table) => tableFaults table
    | some _ => [.notTable]
  | _ => [.commentNotObject]

/-- The members of an object; any other value has none. -/
def membersOf : Json → Json.Members
  | .object members => members
  | _ => []

/-- The labels of a comment of the right shape. -/
def ofShape (comment : Json) : Translations :=
  let locales := membersOf (((membersOf comment).lookup "translations").getD .null)
  locales.map fun (locale, table) =>
    (locale, (membersOf table).map fun (value, label) => (value, label.spelling))

/-- What is wrong with the labels of one locale that must be there. -/
def localeFault? (values : List Json.Key) (translations : Translations) (locale : String) :
    Option LabelFault :=
  match translations.lookup locale with
  | none => some (.missingLocale locale)
  | some labels =>
    match (labels.map Prod.fst).filter fun value => !values.contains (.text value) with
    | [] => none
    | unknown => some (.unknownValues locale (Text.sorted unknown))

/-- What is wrong with labels, which have to cover exactly the supported locales
    and to name only values that there are. -/
def contentFault? (values : List Json.Key) (locales : List String)
    (translations : Translations) : Option LabelFault :=
  match (translations.map Prod.fst).filter fun locale => !locales.contains locale with
  | [] => locales.findSome? (localeFault? values translations)
  | unsupported => some (.unsupportedLocales (Text.sorted unsupported))

/-- The comment of an enum is not JSON. -/
def commentInvalid (type : CatalogType) (fault : Json.SyntaxFault) : Diagnostic :=
  { code := "enum_comment_invalid"
    message := "Comment of enum " ++ type.name.display ++
      " is not JSON, skipping translations: " ++ fault.message
    subject := type.name
    level := .info }

/-- The comment of an enum does not hold proper labels. -/
def labelsInvalid (type : CatalogType) (faults : List LabelFault) : Diagnostic :=
  { code := "enum_translations_invalid"
    message := "Ignoring translations of enum " ++ type.name.display ++ ": " ++
      Text.joined "; " (faults.map LabelFault.message)
    subject := type.name }

/-- The labels that a comment in JSON gives, or what is wrong with them. -/
def ofJson (enums : List Json) (locales : List String) (comment : Json) :
    Except Fault (Except (List LabelFault) Translations) :=
  match shapeFaults comment with
  | [] => do
    let values ← enums.mapM fun value => do return (← Catalog.label value).key
    let translations := ofShape comment
    match contentFault? values locales translations with
    | some fault => return .error [fault]
    | none => return .ok translations
  | faults => return .error faults

/-- The labels of an enum, if its comment gives valid ones. A comment with a whole number of
    too many digits stops the run. -/
def ofComment [Text.HalfBlock] (type : CatalogType) (locales : List String) :
    Traced Diagnostic Fault (Option Translations) :=
  match type.comment with
  | .text comment =>
    if Text.isBlankText comment then pure none
    else
      match Json.load comment with
      | .error .tooManyDigits => .lift (.error .tooManyDigits)
      | .error (.malformed error) => do
        .tell (commentInvalid type error.fault)
        return none
      | .ok value => do
        match ← .lift (ofJson type.enums locales value) with
        | .ok translations => return some translations
        | .error faults => do
          .tell (labelsInvalid type faults)
          return none
  | comment => if comment.isTruthy then .lift (.error .commentNotText) else pure none

end Translations
end DartModels
