import DartModels.Sql.Lexer
import DartModels.Sql.TableAlias

namespace DartModels.Sql

open Reading

/-- The types of JSON. -/
def jsonTypes : List String := ["JSON", "JSONB"]

/-- The types that stand by themselves, without parameters. -/
def bareTypes : List String :=
  ["CSTRING", "OID", "REGCLASS", "REGCOLLATION", "REGCONFIG", "REGDICTIONARY", "REGNAMESPACE",
    "REGOPER", "REGOPERATOR", "REGPROC", "REGPROCEDURE", "REGROLE", "REGTYPE"]

/-- The types whose parameters are types. -/
def nestedTypes : List String := ["ARRAY", "LIST", "MAP", "NULLABLE", "RANGE"]

/-- The types whose parameters are fields. -/
def recordTypes : List String := ["OBJECT", "STRUCT", "UNION"]

/-- The types of moments, which may have a time zone. -/
def momentTypes : List String :=
  ["TIME", "TIMESTAMP", "TIMESTAMPLTZ", "TIMESTAMPNTZ", "TIMESTAMPTZ", "TIMESTAMP_LTZ",
    "TIMESTAMP_NTZ", "TIMETZ"]

/-- The types of numbers that have a form without sign. -/
def signedTypes : List String :=
  ["BIGINT", "BYTE", "DEC", "DECIMAL", "DOUBLE", "DOUBLE PRECISION", "FIXED", "FLOAT", "FLOAT8",
    "INT", "INT1", "INT16", "INT2", "INT32", "INT4", "INT64", "INT8", "INTEGER", "LONG",
    "MEDIUMINT", "NUMBER", "NUMERIC", "SHORT", "SMALLINT", "TINYINT"]

/-- The keyword of a type that a name in quotes starts with. -/
def quotedType? (spelling : String) : Option String :=
  match tokens? spelling.toList with
  | some ({ token := .word _ capitals, .. } :: _) =>
    if typeWords.contains capitals then some capitals else none
  | _ => none

/-- Reads a size of a type, and the word behind it. -/
def typeSize (read : Reader) : Reading (Option Shape) := do
  let size ← read .operand
  if size.isSome then
    let _ ← takeIf Token.isAnyName
  return size

/-- Reads a field of a record: its type, or its name and its type. -/
def field (read : Reader) : Reading (Option Shape) := do
  let named ← orBack do
    if (← name read).isNone then return none
    let _ ← mark ":"
    if !(← isNext Token.isType) then return none
    columnDetails read
    return some .other
  if named.isSome then return named
  read (.dataType false)

/-- Reads the parameters of a type up to their parenthesis. -/
def typeParameters (read : Reader) (mayBeCall : Bool) (keyword : Option String) :
    Reading (List Shape) :=
  match keyword with
  | some keyword =>
    if recordTypes.contains keyword then list (field read)
    else if nestedTypes.contains keyword then list (read (.dataType mayBeCall))
    else if keyword = "ENUM" then list (read .equality)
    else list (typeSize read)
  | none => list (typeSize read)

/-- Reads the types of what a type holds between angle brackets, if they are given. -/
def elementTypes (read : Reader) (mayBeCall isRecord : Bool) : Reading Bool := do
  let isGiven ← mark "<"
  if isGiven then
    let _ ← list (if isRecord then field read else read (.dataType mayBeCall))
    expectMark ">"
  return isGiven

/-- Reads the values behind a type that tells what it holds, if they are given. -/
def heldValues (read : Reader) (isRecord : Bool) : Reading Bool := do
  let values ← orBack do
    if ← either (mark "[") (mark "(") then
      let values ← list (read .disjunction)
      if values.isEmpty && isRecord then return none
      let _ ← either (mark "]") (mark ")")
      return some values
    else return none
  return values.isSome

/-- Reads the time zone of a moment, if it is given. -/
def timeZone : Reading Bool :=
  either (words ["WITH", "TIME", "ZONE"])
    (either (words ["WITH", "LOCAL", "TIME", "ZONE"]) (words ["WITHOUT", "TIME", "ZONE"]))

/-- Reads the units of an interval, if they are given. -/
def intervalFields (read : Reader) : Reading Unit := do
  if ← plainWord read then
    if ← words ["TO"] then
      expect (.lacking "expression" "datatypes.IntervalSpan") (plainWord read)

/-- How a type is used. -/
structure TypeUse where
  /-- Where it may turn out to be a call, a text has to follow parameters. -/
  mayBeCall : Bool
  /-- The type of a column may give the sizes of its arrays. -/
  takesSizes : Bool

/-- Reads the marks of an array behind a type. Where they take no sizes, brackets that
    hold something belong to what follows the type, and so do then all brackets. -/
def arrayMarks (read : Reader) (use : TypeUse) (followsArray : Bool) : Reading Bool := do
  let start ← get
  let hasWord ← keyword "ARRAY"
  let step (state : Bool × Bool × Bool) : Reading (Option (Bool × Bool × Bool)) := do
    let (_, followsArray, hasWord) := state
    let hasBracket ← mark "["
    if !hasBracket && !hasWord then return none
    if followsArray then
      if ← mark "]" then return none
    let values ← list (read .disjunction)
    if values.isEmpty || use.takesSizes then
      let _ ← mark "]"
      return some (true, false, false)
    else
      set start
      return none
  return (← iterate step (false, followsArray || hasWord, hasWord)).1

/-- Whether a text comes next, which tells a type with parameters from a call. -/
def isTextNext (read : Reader) : Reading Bool := do
  let tokens ← get
  let isText ← anyText read
  set tokens
  return isText

/-- Reads the type of a map in brackets. -/
def mapTypes (read : Reader) (mayBeCall : Bool) : Reading (Option Shape) := do
  let _ ← read (.dataType mayBeCall)
  if !(← mark "=>") then return none
  let _ ← read (.dataType mayBeCall)
  return if ← mark "]" then some (.dataType false true) else none

/-- What is told of a type in front of its marks. -/
structure TypeDetails where
  /-- Parentheses follow its name. -/
  hasParentheses : Bool
  parameters : List Shape
  /-- It tells between angle brackets what it holds, and values may follow. -/
  hasElements : Bool
  hasValues : Bool
  hasZone : Bool

/-- Reads what marks a type as one without sign, as one of lists or as one of arrays. -/
def typeMarks (read : Reader) (use : TypeUse) (type : Option String) (details : TypeDetails) :
    Reading (Option Shape) := do
  if let some type := type then
    if !details.hasZone && type != "INTERVAL" then
      if ← words ["UNSIGNED"] then
        if !signedTypes.contains type then fail (.alwaysSigned type)
    if type = "NULLABLE" && details.parameters.isEmpty && !details.hasElements then return none
  let isList ← iterate (fun _ => do return if ← keyword "LIST" then some true else none) false
  let isArray ← arrayMarks read use
    (type = some "ARRAY" && !details.hasParentheses && !details.hasElements)
  if details.hasValues && !isList && !isArray then return some .other
  let hasParameters := !details.parameters.isEmpty || details.hasElements || isList || isArray
  return some (.dataType (type.any jsonTypes.contains && !isList && !isArray) hasParameters)

/-- Reads what goes on the parameters of a type. -/
def typeDetails (read : Reader) (use : TypeUse) (type : Option String) (hasParentheses : Bool)
    (parameters : List Shape) : Reading (Option Shape) := do
  let isOf (types : List String) : Bool := type.any types.contains
  let isRecord := isOf recordTypes
  let hasElements ←
    if isOf (nestedTypes ++ recordTypes) then elementTypes read use.mayBeCall isRecord
    else pure false
  let hasValues ← if hasElements then heldValues read isRecord else pure false
  let hasZone ← if isOf momentTypes then timeZone else pure false
  if type = some "INTERVAL" then intervalFields read
  if use.mayBeCall && hasParentheses && !hasZone then
    if !(← isTextNext read) then return none
  typeMarks read use type { hasParentheses, parameters, hasElements, hasValues, hasZone }

/-- Reads what goes on the name of a type. -/
def typeBehind (read : Reader) (use : TypeUse) (type : Option String) :
    Reading (Option Shape) := do
  if type = some "MAP" then
    if ← mark "[" then return ← mapTypes read use.mayBeCall
  let hasParentheses ← mark "("
  let parameters ← if hasParentheses then typeParameters read use.mayBeCall type else pure []
  if type = some "NULLABLE" then
    if let [inner] := parameters then
      expectMark ")"
      return some inner
  if hasParentheses then
    if !(← mark ")") then return none
  typeDetails read use type hasParentheses parameters

/-- Reads a type. A word that is no keyword names one only where no call may stand. -/
def dataType (read : Reader) (use : TypeUse) : Reading (Option Shape) := orBack do
  match ← get with
  | .word _ capitals :: rest =>
    if typeWords.contains capitals then
      set rest
      known capitals
    else if !use.mayBeCall && (Token.ofWord capitals).isPlainWord then
      set rest
      userType
    else return none
  | .quoted spelling :: rest =>
    if use.mayBeCall then return none
    set rest
    match quotedType? spelling with
    | some type => known type
    | none => userType
  | _ => return none
where
  /-- Reads what goes on the name of a type that the language defines. -/
  known (type : String) : Reading (Option Shape) :=
    if bareTypes.contains type then pure (some (.dataType false false))
    else typeBehind read use (some type)
  /-- Reads what goes on the name of another type. -/
  userType : Reading (Option Shape) := do
    iterate (fun _ => do
      if ← mark "." then
        let _ ← takeIf fun token => token.isQuoted || token.isAnyName
        return some ()
      else return none) ()
    typeBehind read use none

end DartModels.Sql
