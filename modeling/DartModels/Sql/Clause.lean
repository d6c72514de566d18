import DartModels.Sql.TableAlias

namespace DartModels.Sql

open Reading

/-- Reads an expression to sort by. -/
def ordered (read : Reader) : Reading (Option Shape) := do
  let shape ← read .disjunction
  if shape.isSome then
    let _ ← keyword "ASC"
    let _ ← keyword "DESC"
    let _ ← words ["NULLS", "FIRST"]
    let _ ← words ["NULLS", "LAST"]
    if ← words ["WITH", "FILL"] then
      if ← keyword "FROM" then
        let _ ← read .bitwise
      if ← words ["TO"] then
        let _ ← read .bitwise
      if ← words ["STEP"] then
        let _ ← read .bitwise
  return shape

/-- Reads what is sorted by, if it is given. -/
def orderClause (read : Reader) : Reading Bool := do
  if ← keyword "ORDER BY" then
    let _ ← need "expressions" "query.Order" (← list (ordered read)).head?
    return true
  else return false

/-- Reads which of the first rows are fetched, if it is given. -/
def fetchClause (read : Reader) : Reading Bool := do
  if ← keyword "FETCH" then
    let _ ← keywordAmong ["FIRST", "NEXT"]
    let isCount (token : Token) : Bool := token.isName && !token.isOneOf ["PERCENT", "ROW", "ROWS"]
    if (← read .primary).isNone then
      if (← read .function).isNone then
        let _ ← nameAmong read isCount
    rowOptions
    return true
  else return false

/-- Reads what is to become of missing values, if it is given. -/
def nullTreatment (shape : Option Shape) : Reading (Option Shape) := do
  if ← either (words ["IGNORE", "NULLS"]) (words ["RESPECT", "NULLS"]) then
    let _ ← need "this" "core.IgnoreNulls" shape
    return some .other
  else return shape

/-- Reads the clauses that may go on an argument of a call. -/
def argumentClauses (read : Reader) (shape : Option Shape) : Reading (Option Shape) := do
  let shape ← nullTreatment shape
  let hasExtreme ← keyword "HAVING"
  if hasExtreme then
    let _ ← wordAmong ["MAX", "MIN"]
    let extreme ← read .column
    let _ ← need "this" "core.HavingMax" shape
    let _ ← need "expression" "core.HavingMax" extreme
  let hasOrder ← orderClause read
  let hasCount ← either (limitClause read) (fetchClause read)
  return if hasExtreme || hasOrder || hasCount then some .other else shape

/-- Reads the arrays the items of which are taken for rows, if they are given. -/
def unnested (read : Reader) : Reading Bool := do
  let isGiven := (← isNext (·.isKeyword "UNNEST")) && (← isSecond (· == .mark "("))
  if isGiven then
    let _ ← keyword "UNNEST"
    let arrays ← wrapped (list (read .equality))
    let _ ← words ["WITH", "ORDINALITY"]
    let _ ← need "expressions" "array.Unnest" arrays.head?
  return isGiven

/-- Reads an edge of the frame of a window. -/
def frameEdge (read : Reader) : Reading Unit := do
  let _ ← keyword "BETWEEN"
  if !(← either (words ["UNBOUNDED"]) (words ["CURRENT", "ROW"])) then
    let _ ← read .bitwise
  let _ ← wordAmong ["FOLLOWING", "PRECEDING"]

/-- Reads the frame of a window, if it is given. -/
def frameClause (read : Reader) : Reading Unit := do
  if ← either (keywordAmong ["RANGE", "ROWS"]) (words ["GROUPS"]) then
    frameEdge read
    if ← keyword "AND" then frameEdge read
    if ← words ["EXCLUDE"] then
      let word := ((← get).head?.map Token.name).getD ""
      expect (.unknownOption word) (either (words ["NO", "OTHERS"])
        (either (words ["CURRENT", "ROW"]) (wordAmong ["GROUP", "TIES"])))

/-- The keywords in front of what rows are set apart by. -/
def partitionWords : List String := ["PARTITION BY", "PARTITIONED BY", "PARTITIONED_BY"]

/-- Reads a window between parentheses. -/
def windowFrame (read : Reader) : Reading Unit := do
  let _ ← nameAmong read fun token => token.isName && !token.isOneOf ["RANGE", "ROWS"]
  let _ ← wordAmong ["FIRST"]
  let _ ← words ["LAST"]
  if ← keywordAmong partitionWords then
    let _ ← list (read .disjunction)
  let _ ← orderClause read
  frameClause read
  expectMark ")"

/-- Reads a window over which a function is taken, if it is given, and tells whether it is
    in parentheses. -/
def window (read : Reader) : Reading (Option Bool) := do
  if ← keyword "OVER" then
    if ← mark "(" then
      windowFrame read
      return some true
    else
      let _ ← name read
      return some false
  else return none

/-- Reads what goes on a call of a function: which rows count and the window over
    which it is taken. Further windows may follow one in parentheses. -/
def windowed (read : Reader) (shape : Shape) : Reading Shape := do
  let isGrouped ← words ["WITHIN", "GROUP"]
  if isGrouped then
    let _ ← wrapped (orderClause read)
  let hasFilter := (← isNext (·.isKeyword "FILTER")) && (← isSecond (· == .mark "("))
  if hasFilter then
    let _ ← keyword "FILTER"
    wrapped do
      let _ ← keyword "WHERE"
      let _ ← needed "this" "query.Where" (read .disjunction)
  let shape := if isGrouped || hasFilter then .other else shape
  let treated ← nullTreatment (some shape)
  let (shape, _) ← iterate (fun (_, mayFollow) => do
    if !mayFollow then return none
    return (← window read).map fun isBracketed => (Shape.other, isBracketed))
    (treated.getD .other, true)
  return shape

end DartModels.Sql
