import DartModels.Sql.Call
import DartModels.Sql.DataType
import DartModels.Sql.Pivot
import DartModels.Text.Blank

namespace DartModels.Sql

open Reading

/-- A call that stands by itself. -/
def plainStyle : CallStyle := { isQualified := false, needsParentheses := false }

/-- A call behind a dot. -/
def qualifiedStyle : CallStyle := { isQualified := true, needsParentheses := false }

/-- Reads columns that are left out or replaced, behind the word for it. -/
def starColumns (read : Reader) (words : List String) : Reading Unit := do
  if ← wordAmong words then
    if ← isNext (· == .mark "(") then
      let _ ← wrapped (list (read .expression))
    else
      let _ ← aliased read true (← read .assignment)

/-- Reads what may stand between a query and the parenthesis that ends it. -/
def rowsEnd (read : Reader) : Reading Shape := do
  pivots read
  let _ ← sampleClause read
  return .rows

/-- Reads what is between parentheses: a query, an expression, or several. -/
def parenthesized (read : Reader) : Reading Shape := do
  let (shapes, endsInComma) ←
    match ← read (.query .alone) with
    | some shape => pure ([shape], false)
    | none => items (read .expression)
  let shape : Shape ←
    match shapes with
    | [] =>
      if endsInComma || (← isNext (· == .mark ")")) then pure .other
      else fail (.lacking "this" "core.Paren")
    | [.query] => rowsEnd read
    | .rows :: _ => do
      let _ ← joinedQueries read .rows
      queryClauses read
      rowsEnd read
    | [shape] => pure (if endsInComma then .other else .parenthesized shape)
    | _ => pure .other
  expectMark ")"
  match shape with
  | .parenthesized .aggregate => windowed read shape
  | _ => return shape

/-- Reads a value by itself: a text, a number, a constant, or something between
    parentheses. -/
def primary (read : Reader) : Reading (Option Shape) := do
  match ← get with
  | .text content :: rest =>
    set rest
    let isJoined ← iterate (fun _ => do return if ← plainText then some true else none) false
    return some (if isJoined then .other else .literal content)
  | .otherText :: rest | .bytes :: rest =>
    set rest
    return some .other
  | .number :: rest =>
    set rest
    return some .number
  | .mark "." :: .number :: rest =>
    set rest
    return some .number
  | .mark "*" :: rest =>
    set rest
    let isPattern := (← isNext (·.spells "COLUMNS")) && (← isSecond (· == .mark "("))
    if isPattern then return ← read .function
    starColumns read ["EXCEPT", "EXCLUDE"]
    starColumns read ["REPLACE"]
    starColumns read ["RENAME"]
    return some .other
  | .mark "(" :: rest =>
    set rest
    return some (← parenthesized read)
  | token :: rest =>
    if token.isOneOf ["FALSE", "NULL", "TRUE"] then
      set rest
      return some .other
    else return none
  | [] => return none

/-- Reads the end of a slice, and its step. The value of a member of a record has the
    same form, but it has to be given. -/
def slice (read : Reader) (isMember : Bool) (shape : Option Shape) : Reading (Option Shape) := do
  if ← mark ":" then
    let isToLast := (← isNext (· == .mark "-")) && (← isSecond (· == .mark ":"))
    if isToLast then
      let _ ← mark "-"
    else
      let stop ← read .assignment
      if isMember then
        let _ ← need "expression" "core.PropertyEQ" stop
    if ← mark ":" then
      let _ ← read .unary
    return some .other
  else return shape

/-- Reads the subscripts and members in brackets. By themselves they make an array
    or a record; behind a value, a subscript has to be given. -/
def bracketed (read : Reader) (shape : Option Shape) : Reading (Option Shape) :=
  iterate (fun shape => do
    let inside (isRecord : Bool) : Reading (List Shape) :=
      list do slice read isRecord (← aliased read true (← read .assignment))
    if ← mark "[" then
      let subscripts ← inside false
      expect (.expected "]") (mark "]")
      let isArray :=
        match shape with
        | none => true
        | some (.name spelling _) | some (.literal spelling) =>
          ["ARRAY", "LIST"].contains (inCapitals spelling)
        | some _ => false
      if subscripts.isEmpty && !isArray then fail (.lacking "expressions" "core.Bracket")
      return some (some .other)
    else if ← mark "\x7b" then
      if ← isNext fun token => token.isPlainWord && ["D", "T", "TS"].contains token.capitals then
        let _ ← takeIf fun _ => true
        let _ ← plainText
      else
        let _ ← inside true
      expect (.expected "\x7d") (mark "\x7d")
      return some (some .other)
    else return none) shape

/-- Reads a value, a call or a name. -/
def columnBase (read : Reader) : Reading (Option Shape) := do
  if let some shape ← primary read then return some shape
  if let some shape ← function read plainStyle then return some shape
  if let some shape ← name read then return some shape
  let isValues := (← isNext (·.isKeyword "VALUES")) && !(← isSecond (· == .mark "("))
  if isValues then
    let _ ← keyword "VALUES"
    return some (.name "VALUES" true)
  else return none

/-- Reads a field of a value: a call, a value, or a name. -/
def fieldOf (read : Reader) (shape : Shape) : Reading Shape := do
  if (← function read qualifiedStyle).isSome then return .other
  if (← primary read).isSome then return .other
  let found ← anyName read
  let found ←
    match shape with
    | .name _ _ => need "this" "core.Column" found
    | _ => need "expression" "core.Dot" found
  match found with
  | .name spelling _ => return .name spelling false
  | _ => return .other

/-- Reads what goes on a value: subscripts, casts and fields. -/
def columnOperators (read : Reader) (shape : Shape) : Reading Shape := do
  let start ← bracketed read (some shape)
  iterate (fun shape => do
    let isCast ← mark "::"
    let isField ← if isCast then pure false else mark "."
    if isCast then
      match ← read (.dataType false) with
      | none => fail (.expected "type")
      | some type =>
        let cast :=
          match type with
          | .dataType isJson _ => shape.castTo isJson
          | _ => .other
        return some ((← bracketed read (some cast)).getD .other)
    else if isField then
      return some ((← bracketed read (some (← fieldOf read shape))).getD .other)
    else return none)
    (start.getD .other)

/-- Reads a value, a call or a name with what goes on it. -/
def column (read : Reader) : Reading (Option Shape) := do
  match ← columnBase read with
  | some shape => return some (← columnOperators read shape)
  | none => bracketed read none

/-- Whether a number with a unit occurs in a text. -/
def holdsAmount : List Char → Bool
  | [] => false
  | c :: rest =>
    c.isDigit && (rest.dropWhile Text.isBlank).head?.any Char.isAlpha || holdsAmount rest

/-- What follows some digits, if there are any. -/
def afterDigits (cs : List Char) : Option (List Char) :=
  if cs.head?.any Char.isDigit then some (cs.dropWhile Char.isDigit) else none

/-- What follows a minus sign, if there is one. -/
def afterMinus : List Char → List Char
  | '-' :: rest => rest
  | cs => cs

/-- Whether a text starts with a number of days and a time behind it. -/
def startsWithDayTime (cs : List Char) : Bool :=
  let start := (afterMinus (cs.dropWhile Text.isBlank)).dropWhile Text.isBlank
  let afterDays :=
    match afterDigits start with
    | some ('.' :: rest) => some ((afterDigits rest).getD ('.' :: rest))
    | found => found
  match afterDays with
  | some (c :: rest) =>
    Text.isBlank c &&
      match afterDigits (afterMinus (rest.dropWhile Text.isBlank)) with
      | some (':' :: d :: _) => d.isDigit
      | _ => false
  | _ => false

/-- Whether a first and a last unit come next. -/
def areUnitsNext : Reading Bool := fun tokens =>
  match tokens with
  | first :: word :: last :: _ =>
    .ok (first.isPlainWord && word.spells "TO" && last.isPlainWord, tokens)
  | _ => .ok (false, tokens)

/-- Reads the unit of an interval: a call, or a word that is no keyword. -/
def intervalUnit (read : Reader) : Reading Bool := do
  if (← function read plainStyle).isSome then return true
  plainWord read

/-- Reads the amount and the unit of an interval. What has its unit inside takes
    none behind it, and neither do days with a time. Further intervals may be added
    without a word in front. -/
def intervalBehind (read : Reader) : Reading (Option Shape) := do
  let amount ← if ← isNext Token.isText then primary read else read .sum
  let isUnitless ← isNext fun token => !intervalUnits.contains token.capitals
  match amount with
  | none => return none
  | some (.name _ true) => if isUnitless then return none
  | some _ => pure ()
  let beforeUnit ← get
  let content := match amount with
    | some (.literal content) => content.toList
    | _ => []
  if !startsWithDayTime content || (← areUnitsNext) then
    let hasUnit ← intervalUnit read
    if hasUnit && holdsAmount content then
      let behind ← get
      set (beforeUnit.drop (beforeUnit.length - behind.length - 1))
  if ← words ["TO"] then
    expect (.lacking "expression" "datatypes.IntervalSpan") (intervalUnit read)
  let _ ← orBack do
    let _ ← mark "+"
    if ← isNext fun token => token.isText || token == .number then read .furtherInterval
    else return none
  return some .other

/-- Reads an interval. -/
def interval (read : Reader) : Reading (Option Shape) := orBack do
  if ← keyword "INTERVAL" then intervalBehind read else return none

/-- Reads an operand: an interval, a value behind its type, a type, or a value, a
    call or a name with what goes on it. A missing value has no type. -/
def operand (read : Reader) : Reading (Option Shape) := do
  if let some shape ← interval read then return some (← columnOperators read shape)
  let start ← get
  let isTyped := !start.head?.any (·.isKeyword "NULL")
  match ← if isTyped then read (.dataType true) else pure none with
  | some (.dataType isJson hasParameters) =>
    let rest ← get
    match ← primary read with
    | some (.literal content) =>
      return some ((← columnOperators read (.literal content)).castTo isJson)
    | some .number =>
      let _ ← columnOperators read .number
      return some .other
    | _ =>
      if hasParameters && rest.length + 1 < start.length then
        set rest
        return some (← columnOperators read (.dataType isJson hasParameters))
      else set start
  | some shape => return some (← columnOperators read shape)
  | none => pure ()
  match ← column read with
  | some shape => return some (← columnOperators read shape)
  | none => return none

end DartModels.Sql
