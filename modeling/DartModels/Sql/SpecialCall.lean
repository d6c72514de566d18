import DartModels.Sql.DataType
import DartModels.Sql.QueryClause

namespace DartModels.Sql

open Reading

/-- Takes a plain text. -/
def plainText : Reading Bool :=
  takeIf Token.isText

/-- Reads the time zone that a moment is moved to, if it is given. -/
def atTimeZone (read : Reader) (shape : Option Shape) : Reading (Option Shape) :=
  iterate (fun shape => do
    if ← words ["AT", "TIME", "ZONE"] then
      let zone ← read .unary
      let _ ← need "this" "core.AtTimeZone" shape
      let _ ← need "zone" "core.AtTimeZone" zone
      return some (some .other)
    else return none) shape

/-- Reads what else is told of a cast behind its type. -/
def castOptions (read : Reader) (isCharacter hasType : Bool) : Reading Unit := do
  if ← keyword "COLLATE" then
    let _ ← read .column
  if ← keyword "DEFAULT" then
    let _ ← read .bitwise
    let _ ← words ["ON", "CONVERSION", "ERROR"]
  let hasFormat ← either (keyword "FORMAT") (mark ",")
  if hasFormat then
    let isGiven ← anyText read
    let _ ← atTimeZone read (if isGiven then some .other else none)
  else
    if !hasType then fail (.expected "TYPE after CAST")
    let hasCharacters ← if isCharacter then keyword "CHARACTER SET" else pure false
    if hasCharacters then
      let _ ← either (anyText read) (takeIf Token.isAnyName)
    else
      let _ ← either (words ["RENAME", "FIELDS"]) (words ["ADD", "FIELDS"])

/-- Reads a cast: a value and the type that it is cast to. -/
def castCall (read : Reader) (construct : String) : Reading Shape := do
  let value ← read .assignment
  if ← keyword "AS" then
    let isCharacter ← isNext (·.isOneOf ["CHAR", "CHARACTER"])
    let type ← read (.dataType false)
    castOptions read isCharacter type.isSome
    match ← need "this" construct value, type with
    | value, some (.dataType isJson _) => return value.castTo isJson
    | _, _ => return .other
  else
    expect (.expected "AS after CAST") (mark ",")
    let isGiven ← anyText read
    let _ ← need "this" "functions.CastToStrType" value
    expect (.lacking "to" "functions.CastToStrType") (pure isGiven)
    return .other

/-- Reads a conversion: a value, and the type or the encoding that it gets. -/
def conversionCall (read : Reader) (construct : String) : Reading Shape := do
  let value ← read .bitwise
  if ← keyword "USING" then
    expect (.lacking "this" "core.CharacterSet") (either (keyword "BINARY") (plainWord read))
    let _ ← need "this" construct value
    return .other
  else
    let type ← if ← mark "," then read (.dataType false) else pure none
    match ← need "this" construct value, ← need "to" construct type with
    | value, .dataType isJson _ => return value.castTo isJson
    | _, _ => return .other

/-- Reads the part of a moment that is asked for, and the moment. -/
def extractCall (read : Reader) : Reading Shape := do
  let function ← read .function
  let hasPart ←
    if function.isSome then pure true else either (anyText read) (takeIf Token.isAnyName)
  if !(← either (keyword "FROM") (mark ",")) then
    failBefore (.expected "FROM or comma after EXTRACT")
  let moment ← read .bitwise
  expect (.lacking "this" "temporal.Extract") (pure hasPart)
  let _ ← need "expression" "temporal.Extract" moment
  return .other

/-- Reads what is to come where something is empty or wrong, if it is given. -/
def handling (read : Reader) (values : List String) (occasion : String) : Reading Bool := do
  let isGiven ← iterateUpTo (fun (isGiven, values) => do
    match values with
    | value :: rest =>
      if isGiven then return none
      return some (← words [value, "ON", occasion], rest)
    | [] => return none) values.length (false, values)
  if isGiven.1 then return true
  let found ← orBack do
    if ← keyword "DEFAULT" then
      let _ ← read .bitwise
      return if ← words ["ON", occasion] then some () else none
    else return none
  return found.isSome

/-- Reads that a value is in JSON, if this is told. -/
def formatMark : Reading Unit := do
  let _ ← words ["FORMAT", "JSON"]

/-- Reads a member of an object: its name and its value. -/
def member (read : Reader) : Reading (Option Shape) := do
  let _ ← words ["KEY"]
  let key ← read .column
  let _ ← takeIf fun token => token == .mark ":" || token == .mark "," || token.isKeyword "IS"
  let _ ← words ["VALUE"]
  let value ← read .bitwise
  if key.isNone && value.isNone then return none
  let _ ← need "this" "json.JSONKeyValue" key
  let _ ← need "expression" "json.JSONKeyValue" value
  formatMark
  return some .other

/-- Reads an object, member by member. -/
def objectCall (read : Reader) : Reading Shape := do
  if ← isNext (· == .mark "*") then
    let _ ← read .primary
  else
    let _ ← list (member read)
  let _ ← handling read ["NULL", "ABSENT"] "NULL"
  let _ ← either (words ["WITH", "UNIQUE"]) (words ["WITHOUT", "UNIQUE"])
  let _ ← words ["KEYS"]
  if ← words ["RETURNING"] then
    let _ ← read .operand
    formatMark
  if ← words ["ENCODING"] then
    let _ ← plainWord read
  return .other

/-- Reads what is looked up in a JSON value, and what is made of it. -/
def jsonValueCall (read : Reader) : Reading Shape := do
  let value ← read .bitwise
  let _ ← mark ","
  let _ ← read .bitwise
  if ← keyword "RETURNING" then
    let _ ← read .operand
  let values := ["ERROR", "NULL", "TRUE", "FALSE", "EMPTY"]
  let _ ← handling read values "EMPTY"
  let _ ← handling read values "ERROR"
  let _ ← handling read values "NULL"
  let _ ← need "this" "json.JSONValue" value
  return .other

/-- Reads the columns that a JSON value is taken apart into. Columns may be nested so
    deep at most. -/
def jsonColumns (read : Reader) : (depth : Nat) → Reading Unit
  | 0 => pure ()
  | depth + 1 => do
    let _ ← words ["COLUMNS"]
    let columns ← maybeWrapped do
      list do
        let isNested ← words ["NESTED"]
        if !isNested then
          let _ ← anyName read
          let _ ← words ["FOR", "ORDINALITY"]
          if ← isNext Token.isType then
            let _ ← read (.dataType false)
        if ← words ["PATH"] then
          let _ ← anyText read
        if isNested then jsonColumns read depth
        return some Shape.other
    let _ ← need "expressions" "json.JSONSchema" columns.head?

/-- Reads a JSON value and the columns of the table that is made of it. -/
def jsonTableCall (read : Reader) : Reading Shape := do
  let _ ← read .bitwise
  formatMark
  if ← mark "," then
    let _ ← anyText read
  let _ ← handling read ["ERROR", "NULL"] "ERROR"
  let _ ← handling read ["ERROR", "NULL"] "EMPTY"
  jsonColumns read (← get).length
  return .other

/-- Reads a further argument behind a comma or a word, if there is one. -/
def furtherArgument (read : Reader) (word : String) : Reading (Option Shape) := do
  if ← either (mark ",") (words [word]) then read .bitwise else return none

/-- Reads a text, what replaces a part of it, and where that part starts and ends. -/
def overlayCall (read : Reader) : Reading Shape := do
  let text ← read .bitwise
  let replacement ← furtherArgument read "PLACING"
  let start ← furtherArgument read "FROM"
  let _ ← furtherArgument read "FOR"
  let _ ← need "this" "string.Overlay" text
  let _ ← need "expression" "string.Overlay" replacement
  let _ ← need "from_" "string.Overlay" start
  return .other

/-- Reads a text and the text that it is looked for in. -/
def positionCall (read : Reader) : Reading Shape := do
  let arguments ← list (read .bitwise)
  let isInside ← keyword "IN"
  let whole ← if isInside then read .bitwise else pure arguments[1]?
  let _ ← need "this" "string.StrPosition" whole
  let _ ← need "substr" "string.StrPosition" arguments.head?
  return .other

/-- Reads what is to be done where a joined text grows too long, if it is given. -/
def overflowClause (read : Reader) : Reading Unit := do
  if ← words ["ON", "OVERFLOW"] then
    if !(← words ["ERROR"]) then
      let _ ← words ["TRUNCATE"]
      let _ ← anyText read
      let _ ← either (words ["WITH", "COUNT"]) (words ["WITHOUT", "COUNT"])

/-- Reads the texts that are joined, what stands between them, and their order. -/
def joinedTextsCall (read : Reader) : Reading Shape := do
  let isDistinct ← keyword "DISTINCT"
  let _ ← keyword "ALL"
  let arguments ← list (read .disjunction)
  let first := if isDistinct then some Shape.other else arguments.head?
  let needsText := need "this" "aggregate.GroupConcat" first
  overflowClause read
  if !(← isNext (· == .mark ")")) && (isDistinct || !arguments.isEmpty) then
    let _ ← orderClause read
    let _ ← either (limitClause read) (fetchClause read)
    let _ ← needsText
  else
    let isGrouped ← orBack do
      let _ ← mark ")"
      return if ← words ["WITHIN", "GROUP"] then some () else none
    if isGrouped.isSome then
      expectMark "("
      let _ ← orderClause read
      let _ ← needsText
    else
      let _ ← needsText
      if 3 < arguments.length then fail (.tooMany arguments.length 3)
  return .aggregate

/-- Reads a text, and where the part of it that is asked for starts and ends. -/
def substringCall (read : Reader) : Reading Shape := do
  let arguments ← list (read .bitwise)
  let (hasStart, hasLength) ← iterate (fun (_, hasLength) => do
    if ← keyword "FROM" then return some ((← read .bitwise).isSome, hasLength)
    if ← keyword "FOR" then return some (true, (← read .bitwise).isSome)
    return none) (false, false)
  let count := arguments.length + hasStart.toNat + hasLength.toNat
  if count < 1 then fail (.lacking "this" "string.Substring")
  if 4 < count then fail (.tooMany count 4)
  return .other

/-- Reads a text, and what is cut off from its ends. -/
def trimCall (read : Reader) : Reading Shape := do
  let _ ← wordAmong ["BOTH", "LEADING", "TRAILING"]
  let first ← read .bitwise
  let isFrom ← keyword "FROM"
  let hasSecond ← if isFrom then pure true else mark ","
  let second ← if hasSecond then read .bitwise else pure none
  let text := if isFrom then second else first
  if ← keyword "COLLATE" then
    let _ ← read .bitwise
  let _ ← need "this" "string.Trim" text
  return .other

/-- Reads the name of an element and what is in it. -/
def elementCall (read : Reader) : Reading Shape := do
  let isComputed ← words ["EVALNAME"]
  if !isComputed then
    let _ ← words ["NAME"]
  let element ← if isComputed then read .bitwise else anyName read
  if ← mark "," then
    let _ ← list (read .bitwise)
  let _ ← need "this" "functions.XMLElement" element
  return .other

/-- Reads the names of the spaces that elements are from, if they are given. -/
def elementSpaces (read : Reader) : Reading Unit := do
  if ← words ["XMLNAMESPACES", "("] then
    let _ ← list do
      if ← keyword "DEFAULT" then
        let _ ← anyText read
      else
        let isGiven ← anyText read
        let _ ← aliased read false (if isGiven then some .other else none)
      return some Shape.other
    let _ ← words [")", ","]

/-- Reads which elements are rows, and what else is told about them. -/
def elementsCall (read : Reader) : Reading Shape := do
  elementSpaces read
  let isGiven ← anyText read
  if ← words ["PASSING"] then
    let _ ← words ["BY", "VALUE"]
    let _ ← list (read .column)
  let _ ← words ["RETURNING", "SEQUENCE", "BY", "REF"]
  if ← words ["COLUMNS"] then
    let _ ← list (columnDefinition read)
  expect (.lacking "this" "functions.XMLTable") (pure isGiven)
  return .other

/-- Reads a JSON value and the columns of the table behind it. -/
def openJsonCall (read : Reader) : Reading Shape := do
  let value ← read .bitwise
  if ← mark "," then
    let _ ← anyText read
  if ← words [")", "WITH"] then
    expectMark "("
    let _ ← list do
      let column ← anyName read
      if column.isSome then
        let _ ← read (.dataType false)
        let _ ← anyText read
        let _ ← words ["AS", "JSON"]
      return column
  let _ ← need "this" "json.OpenJSON" value
  return .other

/-- Reads a table whose gaps are filled, and how they are. -/
def gapCall (read : Reader) : Reading Shape := do
  let _ ← keyword "TABLE"
  let _ ← read .table
  let _ ← mark ","
  let arguments ← list (read (.argument false))
  let count := arguments.length + 1
  if count < 2 then fail (.lacking "ts_column" "functions.GapFill")
  if count < 3 then fail (.lacking "bucket_width" "functions.GapFill")
  if 7 < count then fail (.tooMany count 7)
  return .other

/-- Reads the columns that words are looked for in, and the words. -/
def matchCall (read : Reader) : Reading Shape := do
  let columns ← list (read .column)
  let _ ← words [")", "AGAINST", "("]
  let isGiven ← anyText read
  if ← words ["IN", "NATURAL", "LANGUAGE", "MODE"] then
    let _ ← words ["WITH", "QUERY", "EXPANSION"]
  else
    let _ ← either (words ["IN", "BOOLEAN", "MODE"]) (words ["WITH", "QUERY", "EXPANSION"])
  expect (.lacking "this" "string.MatchAgainst") (pure isGiven)
  let _ ← need "expressions" "string.MatchAgainst" columns.head?
  return .other

/-- Reads two arguments at least. -/
def twoArguments (item : Reading (Option Shape)) (first second construct : String) :
    Reading Shape := do
  let arguments ← list item
  let _ ← need first construct arguments.head?
  let _ ← need second construct arguments[1]?
  return .other

/-- Reads the value of a group that is found where another one is greatest or least. -/
def extremeCall (read : Reader) (construct : String) : Reading Shape := do
  let _ ← keyword "DISTINCT"
  let _ ← twoArguments (read (.argument false)) "this" "expression" construct
  return .aggregate

/-- The rules for the arguments of functions that have rules of their own. The
    closing parenthesis is left. -/
def specialCall? (read : Reader) (function : String) : Option (Reading Shape) :=
  match function with
  | "CAST" => some (castCall read "functions.Cast")
  | "SAFE_CAST" | "TRY_CAST" => some (castCall read "functions.TryCast")
  | "CONVERT" => some (conversionCall read "functions.Cast")
  | "TRY_CONVERT" => some (conversionCall read "functions.TryCast")
  | "CEIL" | "FLOOR" => some do
    let _ ← list (read (.argument false))
    if ← words ["TO"] then
      let _ ← plainWord read
    return .other
  | "CHAR" | "CHR" => some do
    let arguments ← list (read .assignment)
    if ← keyword "USING" then
      let _ ← either (takeIf fun token => token.isQuoted || token.isText) (plainWord read)
    let _ ← need "expressions" "string.Chr" arguments.head?
    return .other
  | "DATE_PART" => some do
    let part ← read .operand
    let _ ← mark ","
    let moment ← read .bitwise
    let _ ← need "this" "temporal.Extract" part
    let _ ← need "expression" "temporal.Extract" moment
    return .other
  | "DECODE" => some (twoArguments (read .disjunction) "this" "charset" "string.Decode")
  | "EXTRACT" => some (extractCall read)
  | "INITCAP" => some do
    let _ ← list (read (.argument false))
    return .other
  | "ARGMAX" | "ARG_MAX" | "MAX_BY" => some (extremeCall read "aggregate.ArgMax")
  | "ARGMIN" | "ARG_MIN" | "MIN_BY" => some (extremeCall read "aggregate.ArgMin")
  | "JSONB_EXISTS" => some do
    let value ← read .bitwise
    if ← mark "," then
      let _ ← read .bitwise
    let _ ← need "this" "json.JSONBExists" value
    return .other
  | "JSON_AGG" => some do
    let value ← read (.argument false)
    let _ ← orderClause read
    let _ ← need "this" "json.JSONArrayAgg" value
    return .other
  | "JSON_OBJECT" => some (objectCall read)
  | "JSON_OBJECTAGG" => some do
    let _ ← objectCall read
    return .aggregate
  | "JSON_VALUE" => some (jsonValueCall read)
  | "JSON_TABLE" => some (jsonTableCall read)
  | "MATCH" => some (matchCall read)
  | "NORMALIZE" => some do
    let text ← read .bitwise
    if ← mark "," then
      let _ ← plainWord read
    let _ ← need "this" "string.Normalize" text
    return .other
  | "OPENJSON" => some (openJsonCall read)
  | "OVERLAY" => some (overlayCall read)
  | "POSITION" => some (positionCall read)
  | "STRING_AGG" => some (joinedTextsCall read)
  | "SUBSTRING" => some (substringCall read)
  | "TRIM" => some (trimCall read)
  | "XMLELEMENT" => some (elementCall read)
  | "XMLTABLE" => some (elementsCall read)
  | "GAP_FILL" => some (gapCall read)
  | _ => none

end DartModels.Sql
