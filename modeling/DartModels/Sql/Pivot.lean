import DartModels.Sql.QueryClause

namespace DartModels.Sql

open Reading

/-- Reads a value that becomes a column, or a column the name of which becomes a value, with
    its alias. -/
def pivotValue (read : Reader) : Reading (Option Shape) := do
  let value ← expressionOrQuery read false
  let hasWord ← keyword "AS"
  let aliasName ← read .bitwise
  if aliasName.isSome then
    let _ ← need "this" "core.PivotAlias" value
  return if hasWord then some .other else value

/-- Reads the values of a column, which are names behind `IN` or stand in parentheses. -/
def pivotField (read : Reader) : Reading (Option Unit) := do
  let _ ← read .column
  expect (.expecting "IN") (keyword "IN")
  if ← mark "(" then
    if ← keyword "ANY" then
      let _ ← orderClause read
    else
      let _ ← list (pivotValue read)
    expectMark ")"
  else
    let _ ← anyName read
  return some ()

/-- Reads how values of rows become columns, or how columns become values, if it is told. -/
def pivot (read : Reader) : Reading (Option Unit) := orBack do
  let isBack ← isNext (·.isKeyword "UNPIVOT")
  if !(← keywordAmong ["PIVOT", "UNPIVOT"]) then return none
  if isBack then
    let _ ← either (words ["INCLUDE", "NULLS"]) (words ["EXCLUDE", "NULLS"])
  if !(← mark "(") then return none
  let measures ← list (if isBack then read .column else do aliased read false (← read .function))
  if measures.isEmpty then fail .nothingToPivot
  expect (.expecting "FOR") (keyword "FOR")
  iterate (fun _ => attempt (pivotField read)) ()
  if ← words ["DEFAULT", "ON", "NULL"] then
    let _ ← wrapped (read .bitwise)
  let _ ← groupClause read
  expectMark ")"
  if !(← isNext (·.isOneOf ["PIVOT", "UNPIVOT"])) then
    let _ ← tableAlias read
  return some ()

/-- Reads how values of rows become columns, or the other way round, as often as it is
    told. -/
def pivots (read : Reader) : Reading Unit :=
  iterate (fun _ => pivot read) ()

end DartModels.Sql
