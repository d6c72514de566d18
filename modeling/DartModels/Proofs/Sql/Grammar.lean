import DartModels.Sql.Statement

namespace DartModels.Sql

namespace Shape

/-- The text that a shape is, plain or marked as JSON. -/
def content? : Shape → Option String
  | .literal content | .json content => some content
  | _ => none

/-- A shape that is no text and no call whose first argument is one, in parentheses or not. -/
def IsDull (shape : Shape) : Prop :=
  shape.content? = none ∧
    ∀ function first, shape.stripped = .call function (some first) → first.content? = none

end Shape

/-- A token that may stand in a place that is left empty. -/
def Token.IsFiller (token : Token) : Prop :=
  token ∈ [.mark "+", .mark "*", .mark "\x7b", .mark "\x7d"] ∨ token.capitals = "FN" ∨
    token.isKeyword "ALL" ∨ token.isKeyword "AS"

/-- Some tokens up to the rest are an empty place. -/
def Empty (tokens rest : List Token) : Prop :=
  ∃ fillers, tokens = fillers ++ rest ∧ ∀ token ∈ fillers, token.IsFiller

/-- Some tokens up to the rest are empty places, each with a comma behind it. -/
inductive EmptyPlaces : List Token → List Token → Prop where
  | none (tokens : List Token) : EmptyPlaces tokens tokens
  | more {tokens behind rest : List Token} (place : Empty tokens (.mark "," :: behind))
      (places : EmptyPlaces behind rest) : EmptyPlaces tokens rest

/-- Some tokens up to the rest are what one of the rules for types reads as JSON. -/
def TypesJson (tokens rest : List Token) : Prop :=
  ∃ depth mayBeCall hasParameters,
    read depth (.dataType mayBeCall) tokens = .ok (some (.dataType true hasParameters), rest)

/-- Some tokens up to the rest are what a rule reads, each time behind a comma. -/
inductive Items (item : Reading (Option Shape)) : List Token → List Token → Prop where
  | none (tokens : List Token) : Items item tokens tokens
  | more {found : Option Shape} {tokens behind rest : List Token}
      (reads : item tokens = .ok (found, behind)) (items : Items item behind rest) :
      Items item (.mark "," :: tokens) rest

/-- Some tokens up to the rest are further arguments, each behind a comma. -/
def FurtherArguments (tokens rest : List Token) : Prop :=
  ∃ depth isAliased, Items (read depth (.argument isAliased)) tokens rest

/-- Some tokens up to the rest are what may be told of a cast behind its type. -/
def TellsOfCast (tokens rest : List Token) : Prop :=
  ∃ depth isCharacter hasType,
    castOptions (read depth) isCharacter hasType tokens = .ok ((), rest)

/-- The functions that cast a value to a type behind `AS`. -/
def castFunctions : List String := ["CAST", "SAFE_CAST", "TRY_CAST"]

/-- The functions that cast a value to a type behind a comma. -/
def conversionFunctions : List String := ["CONVERT", "TRY_CONVERT"]

/-- Some tokens up to the rest spell a text, a text that is marked as JSON once, or a call whose
    first argument is such a text, in parentheses or not. -/
inductive Spells : List Token → List Token → Shape → Prop where
  | text (content : String) (rest : List Token) :
      Spells (.text content :: rest) rest (.literal content)
  /-- A type behind a text. -/
  | cast {tokens behind rest : List Token} {content : String}
      (value : Spells tokens (.mark "::" :: behind) (.literal content))
      (type : TypesJson behind rest) : Spells tokens rest (.json content)
  /-- A type in front of a text. -/
  | typed {tokens behind rest : List Token} {content : String} (type : TypesJson tokens behind)
      (value : Spells behind rest (.literal content)) : Spells tokens rest (.json content)
  | castCall {function word : Token} {tokens behind options rest : List Token} {content : String}
      (name : inCapitals function.name ∈ castFunctions)
      (value : Spells tokens (word :: behind) (.literal content)) (as : word.isKeyword "AS")
      (type : TypesJson behind options) (told : TellsOfCast options (.mark ")" :: rest)) :
      Spells (function :: .mark "(" :: tokens) rest (.json content)
  | conversion {function : Token} {tokens behind rest : List Token} {content : String}
      (name : inCapitals function.name ∈ conversionFunctions)
      (value : Spells tokens (.mark "," :: behind) (.literal content))
      (type : TypesJson behind (.mark ")" :: rest)) :
      Spells (function :: .mark "(" :: tokens) rest (.json content)
  /-- A call that reads a text as JSON. -/
  | parsed {function : Token} {tokens behindPlaces behind rest : List Token} {content : String}
      (name : inCapitals function.name ∈ jsonFunctions)
      (places : EmptyPlaces tokens behindPlaces)
      (value : Spells behindPlaces behind (.literal content))
      (arguments : FurtherArguments behind (.mark ")" :: rest)) :
      Spells (function :: .mark "(" :: tokens) rest (.json content)
  | call {function : Token} {tokens behindPlaces behind rest : List Token} {first : Shape}
      (name : function.isCallable) (places : EmptyPlaces tokens behindPlaces)
      (isText : first.content?.isSome) (value : Spells behindPlaces behind first)
      (arguments : FurtherArguments behind (.mark ")" :: rest)) :
      Spells (function :: .mark "(" :: tokens) rest (.call function.name (some first))
  | parenthesized {tokens behindPlaces rest : List Token} {shape : Shape}
      (places : EmptyPlaces tokens behindPlaces)
      (inner : Spells behindPlaces (.mark ")" :: rest) shape) :
      Spells (.mark "(" :: tokens) rest (.parenthesized shape)
  | plus {tokens rest : List Token} {shape : Shape} (inner : Spells tokens rest shape) :
      Spells (.mark "+" :: tokens) rest shape
  | all {word : Token} {tokens rest : List Token} {shape : Shape} (all : word.isKeyword "ALL")
      (inner : Spells tokens rest shape) : Spells (word :: tokens) rest shape
  /-- A word for an alias that is not there. -/
  | as {word : Token} {tokens rest : List Token} {shape : Shape} (as : word.isKeyword "AS")
      (inner : Spells tokens (word :: rest) shape) : Spells tokens rest shape
  /-- A call with a star in front, which is there for the functions that name columns. -/
  | star {function : Token} {tokens rest : List Token} {shape : Shape}
      (columns : function.spells "COLUMNS") (inner : Spells (function :: tokens) rest shape) :
      Spells (.mark "*" :: function :: tokens) rest shape
  /-- A call behind a brace and the letters `fn`. -/
  | opened {letters : Token} {tokens rest : List Token} {shape : Shape}
      (fn : letters.capitals = "FN") (inner : Spells tokens rest shape) :
      Spells (.mark "\x7b" :: letters :: tokens) rest shape
  | braces {letters : Token} {tokens rest : List Token} {shape : Shape}
      (fn : letters.capitals = "FN") (inner : Spells tokens (.mark "\x7d" :: rest) shape) :
      Spells (.mark "\x7b" :: letters :: tokens) rest shape

/-- What a rule may find in some tokens up to the rest: an empty place, a shape that is dull, or
    one that is spelled there. -/
def Outcome (tokens : List Token) : Option Shape → List Token → Prop
  | none, rest => Empty tokens rest
  | some shape, rest => shape.IsDull ∨ Spells tokens rest shape

end DartModels.Sql
