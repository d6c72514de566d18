import DartModels.Sql.Clause

namespace DartModels.Sql

open Reading

/-- What the words in front of `JOIN` tell. -/
structure JoinStyle where
  /-- There is a word for how rows are matched. -/
  hasMethod : Bool
  isCross : Bool
  /-- The words stand for `JOIN` by themselves. -/
  isComplete : Bool

/-- Reads the words in front of `JOIN`. -/
def joinStyle : Reading JoinStyle := do
  let hasMethod ← keywordAmong ["ASOF", "NATURAL"]
  let _ ← keywordAmong ["FULL", "LEFT", "RIGHT"]
  let isCross ← keyword "CROSS"
  let hasKind ← if isCross then pure true else keywordAmong ["ANTI", "INNER", "OUTER", "SEMI"]
  let isComplete ← if hasKind then pure false else keyword "STRAIGHT_JOIN"
  return { hasMethod, isCross, isComplete }

/-- Reads on what columns tables are joined, and tells whether it is given. -/
def joinCondition (read : Reader) : Reading Bool := do
  if ← keyword "ON" then
    let _ ← read .disjunction
    return true
  if ← keyword "USING" then
    let _ ← maybeWrapped (list (read .column))
    return true
  return false

/-- Reads a further table: behind a comma, or behind `JOIN`. Further tables may be
    joined to it before the condition comes. -/
def join (read : Reader) : Reading (Option Shape) := do
  if ← mark "," then attempt (read .table)
  else
    let style ← orBack do
      let style ← joinStyle
      let _ ← words ["DIRECTED"]
      if style.isComplete then return some style
      return if ← keyword "JOIN" then some style else none
    let isApplied := (← isNext (·.isOneOf ["CROSS", "OUTER"])) && (← isSecond (·.isKeyword "APPLY"))
    if style.isNone && !isApplied then return none
    let _ ← read .table
    if !(← joinCondition read) then
      if style.any fun style => !style.hasMethod && !style.isCross then
        let _ ← orBack do
          let further ← iterate (fun _ => do return (← read .join).map fun _ => true) false
          return if further && (← joinCondition read) then some () else none
    return some .rows

/-- Reads what rows are grouped by several times over, if this is asked for. -/
def manifoldGroups (read : Reader) : Reading Bool := do
  let isGiven ← keywordAmong ["CUBE", "ROLLUP"]
  if isGiven then
    let _ ← wrapped (list (read .bitwise))
  return isGiven

/-- Reads the sets that rows are grouped by one after the other, if they are given. -/
def groupingSets (read : Reader) : Reading Bool := do
  let isGiven ← keyword "GROUPING SETS"
  if isGiven then
    let _ ← wrapped (list do
      if ← manifoldGroups read then return some .other
      read .bitwise)
  return isGiven

/-- Reads what rows are grouped by, if it is given. Several groupings may follow each other
    without a comma. -/
def groupClause (read : Reader) : Reading Bool := do
  let isGiven ← keyword "GROUP BY"
  if isGiven then
    let _ ← either (keyword "ALL") (keyword "DISTINCT")
    iterate (fun _ => do
      let _ ← list do
        if ← isNext (·.isOneOf ["CUBE", "ROLLUP"]) then return none
        read .disjunction
      orBack do
        let groups ←
          if ← keyword "WITH" then
            either (keywordAmong ["CUBE", "ROLLUP"])
              (either (groupingSets read) (words ["TOTALS"]))
          else either (manifoldGroups read) (groupingSets read)
        return if groups then some () else none) ()
  return isGiven

/-- Reads the definition of a window. -/
def namedWindow (read : Reader) : Reading (Option Shape) := do
  let windowName ← anyName read
  let _ ← keyword "AS"
  if ← mark "(" then windowFrame read
  else
    let _ ← name read
  return windowName

/-- Reads how rows are locked, if it is given. -/
def lock (read : Reader) : Reading (Option Unit) := do
  let isLock ← either
    (either (words ["FOR", "UPDATE"]) (words ["FOR", "SHARE"]))
    (either (words ["FOR", "KEY", "SHARE"])
      (either (words ["FOR", "NO", "KEY", "UPDATE"]) (words ["LOCK", "IN", "SHARE", "MODE"])))
  if !isLock then return none
  if ← words ["OF"] then
    let _ ← list (read .describedTable)
  if !(← either (words ["NOWAIT"]) (words ["SKIP", "LOCKED"])) then
    if ← words ["WAIT"] then
      let _ ← read .primary
  return some ()

/-- Reads a number, or a placeholder. -/
def plainNumber (read : Reader) : Reading Bool := do
  if ← takeIf fun token => token == .number || token == .bytes then return true
  return (← read .placeholder).isSome

/-- Reads which rows of a table are in a sample of it: their number or their share, or
    one of some buckets. -/
def sampleSize (read : Reader) : Reading Unit := do
  if ← isNext (· == .number) then
    let _ ← read .product
  else if (← read .primary).isNone then
    let _ ← read .placeholder
  if ← words ["BUCKET"] then
    let _ ← plainNumber read
    let _ ← words ["OUT", "OF"]
    let _ ← plainNumber read
    if ← keyword "ON" then
      if (← read .primary).isNone then
        if (← read .function).isNone then
          let _ ← name read
  else
    let _ ← takeIf fun token => token.isOneOf ["PERCENT", "ROWS"] || token == .mark "%"

/-- Reads a sample of a table, if it is given. -/
def sampleClause (read : Reader) : Reading Bool := do
  let isGiven ← keyword "TABLESAMPLE"
  if isGiven then sample read
  return isGiven
where
  /-- Reads how a sample is taken. -/
  sample (read : Reader) : Reading Unit := do
    if !(← keyword "ROW") then
      let _ ← plainWord read
    maybeWrapped (sampleSize read)
    if ← mark "(" then
      let _ ← plainWord read
      if ← mark "," then
        let _ ← plainNumber read
      expectMark ")"
    else if ← wordAmong ["REPEATABLE", "SEED"] then
      let _ ← wrapped (plainNumber read)

/-- Reads a condition in which `PRIOR` may stand in front of an operand, as `ANY` may in
    all conditions. -/
def conditionWithPrior (read : Reader) : Reading (Option Shape) := do
  modify fun tokens => tokens.map fun token =>
    if token.isKeyword "PRIOR" then .word token.name "ANY" else token
  let condition ← read .disjunction
  modify fun tokens => tokens.map fun token =>
    if token.isKeyword "ANY" then Token.ofWord token.name else token
  return condition

/-- Reads how rows follow from each other, if it is given. The condition for the first ones
    may come before or behind. -/
def connectClause (read : Reader) : Reading Bool := do
  let startsWith ← keyword "START WITH"
  let start ← if startsWith then read .disjunction else pure none
  let connects ← keyword "CONNECT BY"
  if startsWith || connects then
    let _ ← words ["NOCYCLE"]
    let condition ← conditionWithPrior read
    if start.isNone then
      if ← keyword "START WITH" then
        let _ ← read .disjunction
    let _ ← need "connect" "query.Connect" condition
  return startsWith || connects

/-- Reads a clause of a query, and tells which one it is. -/
def clause (read : Reader) : Reading (Option String) := do
  if ← keyword "WHERE" then
    let _ ← needed "this" "query.Where" (read .disjunction)
    return some "where"
  if ← groupClause read then return some "group"
  if ← keyword "HAVING" then
    let _ ← needed "this" "query.Having" (read .disjunction)
    return some "having"
  if ← keyword "QUALIFY" then
    let _ ← needed "this" "query.Qualify" (read .disjunction)
    return some "qualify"
  if ← keyword "WINDOW" then
    let _ ← list (namedWindow read)
    return some "windows"
  if ← orderClause read then return some "order"
  if ← either (limitClause read) (fetchClause read) then return some "limit"
  if ← offsetClause read then return some "offset"
  if ← sampleClause read then return some "sample"
  if ← words ["USING", "SAMPLE"] then
    sampleClause.sample read
    return some "sample"
  if ← iterate (fun _ => do return (← lock read).map fun _ => true) false then
    return some "locks"
  if ← connectClause read then return some "connect"
  if ← keyword "CLUSTER BY" then
    let _ ← list (ordered read)
    return some "cluster"
  if ← keyword "DISTRIBUTE BY" then
    let _ ← list (ordered read)
    return some "distribute"
  if ← keyword "SORT BY" then
    let _ ← list (ordered read)
    return some "sort"
  return none

/-- Reads the clauses of a query. None of them may be given twice. -/
def queryClauses (read : Reader) : Reading Unit := do
  iterate (fun _ => do return (← read .join).map fun _ => ()) ()
  iterate (fun _ => do
    if ← isNext (·.isKeyword "LATERAL") then return (← read .table).map fun _ => ()
    else return none) ()
  let _ ← iterate (fun seen => do
    let tokens ← get
    match ← clause read with
    | none => return none
    | some key =>
      if seen.contains key then
        set tokens
        fail (.repeated ((tokens.head?.map Token.capitals).getD ""))
      else return some (key :: seen)) []

/-- What queries make that a keyword joins. -/
def joinedBy? (token : Token) : Option String :=
  [("UNION", "query.Union"), ("EXCEPT", "query.Except"), ("INTERSECT", "query.Intersect")].findSome?
    fun (keyword, construct) => if token.isKeyword keyword then some construct else none

/-- Reads a query that is joined to the one in front. -/
def joinedQuery (read : Reader) : Reading (Option Shape) := orBack do
  let _ ← joinStyle
  let some construct := (← get).head?.bind joinedBy? | return none
  let _ ← takeIf fun _ => true
  let _ ← either (keyword "DISTINCT") (keyword "ALL")
  let isByName ← either (words ["BY", "NAME"]) (words ["STRICT", "CORRESPONDING"])
  let isByName := (← words ["CORRESPONDING"]) || isByName
  if isByName then
    if ← wordAmong ["BY", "ON"] then
      let _ ← wrapped (list (read .column))
  let _ ← needed "expression" construct (read (.query .joined))
  return some .query

/-- Reads the queries that are joined to what is in front. -/
def joinedQueries (read : Reader) (shape : Shape) : Reading Shape :=
  iterate (fun _ => joinedQuery read) shape

/-- Reads an expression or, if there is none, a query. -/
def expressionOrQuery (read : Reader) (isAliased : Bool) : Reading (Option Shape) := do
  let shape ← read .assignment
  let shape ← if isAliased then aliased read true shape else pure shape
  match shape with
  | some shape => return some (← joinedQueries read shape)
  | none => read (.query .alone)

end DartModels.Sql
