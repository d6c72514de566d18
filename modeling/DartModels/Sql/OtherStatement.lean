import DartModels.Sql.Query

namespace DartModels.Sql

open Reading

/-- Takes all tokens that are left, whatever they are. -/
def takeAll : Reading Unit :=
  set ([] : List Token)

/-- The keywords for what can be created, changed and dropped. -/
def creatableWords : List String :=
  ["COLUMN", "CONSTRAINT", "DATABASE", "FOREIGN KEY", "FUNCTION", "INDEX", "NAMESPACE", "PROCEDURE",
    "SCHEMA", "SEQUENCE", "TABLE", "VIEW"]

/-- Takes the condition that something exists, or that it does not. -/
def existenceClause : Reading Bool :=
  either (words ["IF", "EXISTS"]) (words ["IF", "NOT", "EXISTS"])

/-- Reads a table with the tables that are joined to it. Some keywords cannot stand for the
    alias of the table. -/
def joinedTable (read : Reader) (keywords : List String) : Reading Unit := do
  let _ ← tableWith read (.aliased keywords)
  iterate (fun _ => do return (← read .join).map fun _ => ()) ()

/-- Reads which rows a statement is about, if it is told. -/
def whereClause (read : Reader) : Reading Bool := do
  let isGiven ← keyword "WHERE"
  if isGiven then
    let _ ← needed "this" "query.Where" (read .disjunction)
  return isGiven

/-- Reads what a statement gives back, if it is told. -/
def returningClause (read : Reader) : Reading Bool := do
  let isGiven ← keyword "RETURNING"
  if isGiven then
    let _ ← list (read .expression)
    if ← keyword "INTO" then
      let _ ← tablePart read false
  return isGiven

/-- Reads the values that columns get. -/
def assignments (read : Reader) : Reading Unit := do
  let _ ← list (read .equality)

/-- Reads how rows of a table are changed. -/
def updateStatement (read : Reader) : Reading Unit := do
  joinedTable read ["SET"]
  iterate (fun _ => do
    if ← keyword "SET" then
      assignments read
      return some ()
    if ← keyword "FROM" then
      joinedTable read []
      return some ()
    let isClause ← either (either (returningClause read) (whereClause read))
      (either (orderClause read) (limitClause read))
    return if isClause then some () else none) ()

/-- Reads which rows of a table are deleted. -/
def deleteStatement (read : Reader) : Reading Unit := do
  if !(← isNext (·.isKeyword "FROM")) then
    let _ ← list (read .table)
  let _ ← returningClause read
  if ← keyword "FROM" then joinedTable read []
  if ← keyword "USING" then
    let _ ← list do
      joinedTable read []
      return some ()
  let _ ← whereClause read
  let _ ← returningClause read
  let _ ← orderClause read
  let _ ← limitClause read

/-- Reads what is to be done with a row that is there already. -/
def conflictAction (read : Reader) : Reading Unit := do
  let word := ((← get).head?.map Token.name).getD ""
  let isUpdate ← either (words ["DO", "UPDATE"]) (words ["UPDATE"])
  if isUpdate then
    let _ ← keyword "SET"
    assignments read
  else
    expect (.unknownOption word) (either (words ["DO", "NOTHING"])
      (wordAmong ["ABORT", "FAIL", "IGNORE", "REPLACE", "ROLLBACK"]))

/-- Reads what is to be done where a row is there already, if it is told. -/
def conflictClause (read : Reader) : Reading Unit := do
  let isConflict ← words ["ON", "CONFLICT"]
  let isDuplicate ← if isConflict then pure false else words ["ON", "DUPLICATE", "KEY"]
  if isConflict then
    if ← words ["ON", "CONSTRAINT"] then
      let _ ← anyName read
    else if ← isNext (· == .mark "(") then
      let _ ← wrapped (list (ordered read))
  if isConflict || isDuplicate then
    let _ ← whereClause read
    conflictAction read
    let _ ← whereClause read

/-- Reads which rows are put into a table. -/
def insertStatement (read : Reader) : Reading Unit := do
  let _ ← keyword "OVERWRITE"
  let _ ← words ["IGNORE"]
  if ← words ["OR"] then
    let _ ← wordAmong ["ABORT", "FAIL", "IGNORE", "REPLACE", "ROLLBACK"]
  let _ ← keyword "INTO"
  let _ ← keyword "TABLE"
  if ← keyword "FUNCTION" then
    let _ ← read .function
  else
    let _ ← tableWith read .described
    if ← isNext (·.isKeyword "AS") then
      let _ ← tableAlias read
  let _ ← returningClause read
  let _ ← words ["BY", "NAME"]
  let _ ← existenceClause
  let _ ← words ["DEFAULT", "VALUES"]
  if let some shape ← read (.query .joined) then
    let _ ← joinedQueries read shape
    queryClauses read
  conflictClause read
  let _ ← returningClause read

/-- Reads what is done with rows of which another table has some, or has none. -/
def mergeBranch (read : Reader) : Reading (Option Bool) := do
  if !(← keyword "WHEN") then return none
  let _ ← keyword "NOT"
  let _ ← words ["MATCHED"]
  let _ ← either (words ["BY", "TARGET"]) (words ["BY", "SOURCE"])
  if ← keyword "AND" then
    let _ ← read .disjunction
  let _ ← keyword "THEN"
  let isAll := (← isSecond (· == .mark "*"))
  if ← keyword "INSERT" then
    if isAll then
      let _ ← read .primary
    else
      if !(← words ["ROW"]) then
        let _ ← row read
      if ← words ["VALUES"] then
        let _ ← row read
  else if ← keyword "UPDATE" then
    if isAll then
      let _ ← read .primary
    else if ← keyword "SET" then assignments read
  else if !(← keyword "DELETE") then conflictAction read
  return some true

/-- Reads how a table is put into another one. -/
def mergeStatement (read : Reader) : Reading Unit := do
  let _ ← keyword "INTO"
  let _ ← read .table
  let _ ← keyword "USING"
  let _ ← read .table
  if ← keyword "ON" then
    let _ ← read .disjunction
  if ← keyword "USING" then
    let _ ← maybeWrapped (list (read .column))
  let hasBranch ← iterate (fun _ => mergeBranch read) false
  expect (.lacking "expressions" "dml.Whens") (pure hasBranch)
  let _ ← returningClause read

/-- Reads how rows become columns, or columns rows. -/
def pivotStatement (read : Reader) : Reading Unit := do
  let _ ← read .table
  if ← keyword "ON" then
    let _ ← list do
      let shape ← read .bitwise
      if ← keyword "IN" then
        membership read
      return shape
  if ← keyword "USING" then
    let _ ← list do aliased read false (← read .function)
  let _ ← groupClause read

/-- Reads the table whose values are gathered, if one is named. -/
def analyzeStatement (read : Reader) : Reading Unit := do
  if (← get).isEmpty then return
  iterate (fun _ => do
    let isStyle ← wordAmong
      ["FULL", "LOCAL", "NO_WRITE_TO_BINLOG", "SAMPLE", "SKIP_LOCKED", "VERBOSE"]
    return if isStyle then some () else none) ()
  if ← words ["TABLES"] then
    if ← keywordAmong ["FROM", "IN"] then tableName read true
  else
    let _ ← keywordAmong ["DATABASE", "INDEX", "TABLE"]
    tableName read false

/-- Reads what is said about something. -/
def commentStatement (read : Reader) : Reading Unit := do
  let _ ← existenceClause
  let _ ← keyword "ON"
  let _ ← words ["MATERIALIZED"]
  if ← keyword "COLUMN" then
    let _ ← read .column
  else if ← keyword "TABLE" then
    let _ ← tableWith read (.aliased ["IS"])
  else if ← keywordAmong creatableWords then tableName read true
  else return ← takeAll
  let _ ← keyword "IS"
  expect (.lacking "expression" "ddl.Comment") (anyText read)

/-- Reads what is dropped. -/
def dropStatement (read : Reader) : Reading Unit := do
  let _ ← keywordAmong ["TEMP", "TEMPORARY"]
  let _ ← words ["MATERIALIZED"]
  let isColumn ← keyword "COLUMN"
  let isNamed ← if isColumn then pure true else keywordAmong creatableWords
  if !isNamed then return ← takeAll
  let _ ← words ["CONCURRENTLY"]
  let _ ← existenceClause
  if isColumn then
    let _ ← read .column
  else tableName read true
  if ← isNext (· == .mark "(") then
    let _ ← wrapped (list (read (.dataType false)))
  let _ ← wordAmong ["CASCADE"]
  let _ ← wordAmong ["CONSTRAINTS"]
  let _ ← wordAmong ["PURGE"]

/-- Reads what is copied into or out of a table. -/
def copyStatement (read : Reader) : Reading Unit := do
  let _ ← keyword "INTO"
  if ← isNext (· == .mark "(") then
    let _ ← needed "this" "dml.Copy" (read (.query .joined))
  else
    let _ ← tableWith read .described
  takeAll

/-- Reads which tables lose all their rows. -/
def truncateStatement (read : Reader) : Reading Unit := do
  let _ ← keyword "DATABASE"
  let _ ← keyword "TABLE"
  let _ ← words ["IF", "EXISTS"]
  let _ ← list (tableWith read .described)
  takeAll

/-- Reads which table is kept at hand. -/
def cacheStatement (read : Reader) : Reading Unit := do
  let _ ← words ["LAZY"]
  let _ ← keyword "TABLE"
  let _ ← tableWith read .described
  let _ ← keyword "AS"
  let _ ← read (.query .joined)

/-- Reads which table is no longer kept at hand. -/
def uncacheStatement (read : Reader) : Reading Unit := do
  expect (.expecting "TABLE after UNCACHE") (keyword "TABLE")
  let _ ← existenceClause
  let _ ← tableWith read .described

/-- Reads what is used from now on. -/
def useStatement (read : Reader) : Reading Unit := do
  let _ ← wordAmong ["CATALOG", "DATABASE", "ROLE", "SCHEMA", "WAREHOUSE"]
  let _ ← read .table

/-- Reads how a table is changed. -/
def alterStatement (read : Reader) : Reading Unit := do
  if ← keywordAmong ["DATABASE", "SCHEMA", "SEQUENCE", "TABLE", "VIEW"] then
    let _ ← existenceClause
    let _ ← words ["ONLY"]
    let _ ← tableWith read .described
  takeAll

/-- Reads the end of a transaction. -/
def transactionEnd (read : Reader) : Reading Unit := do
  let _ ← wordAmong ["TRANSACTION", "WORK"]
  if ← words ["TO"] then
    let _ ← words ["SAVEPOINT"]
    let _ ← anyName read
  if ← keyword "AND" then
    let _ ← words ["NO"]
    let _ ← words ["CHAIN"]

/-- Reads the start of a transaction, with the ways it works. -/
def transactionStart : Reading Unit := do
  let _ ← list do
    let isTold ← iterate (fun _ => do
      return if ← takeIf Token.isPlainWord then some true else none) false
    return if isTold then some Shape.other else none

/-- Reads which run is to end. -/
def killStatement (read : Reader) : Reading Unit := do
  let _ ← wordAmong ["CONNECTION", "QUERY"]
  let _ ← needed "this" "ddl.Kill" (read .primary)

/-- Reads an item that is set, if its value follows a sign or the word for it. -/
def settingItem (read : Reader) : Reading (Option Unit) := orBack do
  let _ ← wordAmong ["GLOBAL", "LOCAL", "SESSION"]
  let left ←
    match ← read .primary with
    | some shape => pure (some shape)
    | none => read .column
  let hasSign ← either (mark "=") (words ["TO"])
  if left.isNone || !hasSign then return none
  let right ←
    match ← read .statement with
    | some shape => pure (some shape)
    | none => anyName read
  let _ ← need "expression" "core.EQ" right
  return some ()

/-- Reads what is set. What is set otherwise is taken as it is. -/
def setStatement (read : Reader) : Reading Unit := do
  let _ ← list (settingItem read)
  takeAll

/-- What a statement that is no query is read by behind its first word, if the word starts
    one. -/
def otherStatement? (read : Reader) (word : String) : Option (Reading Unit) :=
  match word with
  | "ALTER" => some (alterStatement read)
  | "ANALYZE" => some (analyzeStatement read)
  | "BEGIN" => some transactionStart
  | "CACHE" => some (cacheStatement read)
  | "COMMENT" => some (commentStatement read)
  | "COMMIT" | "END" | "ROLLBACK" => some (transactionEnd read)
  | "COPY" => some (copyStatement read)
  | "CREATE" | "GRANT" | "LOAD" | "REVOKE" => some takeAll
  | "DELETE" => some (deleteStatement read)
  | "DESC" | "DESCRIBE" => some do let _ ← read .description
  | "DROP" => some (dropStatement read)
  | "INSERT" => some (insertStatement read)
  | "KILL" => some (killStatement read)
  | "MERGE" => some (mergeStatement read)
  | "PIVOT" | "UNPIVOT" => some (pivotStatement read)
  | "PRAGMA" => some do let _ ← needed "this" "ddl.Pragma" (read .expression)
  | "SET" => some (setStatement read)
  | "TRUNCATE" => some (truncateStatement read)
  | "UNCACHE" => some (uncacheStatement read)
  | "UPDATE" => some (updateStatement read)
  | "USE" => some (useStatement read)
  | _ => none

/-- Reads what is told about a table or another statement. -/
def description (read : Reader) : Reading (Option Shape) := do
  let _ ← keywordAmong creatableWords
  if !(← isSecond (· == .mark ".")) then
    let _ ← wordAmong ["ANALYZE", "EXTENDED", "FORMATTED", "HISTORY"]
  let startsStatement ← isNext fun token =>
    match token with
    | .word _ capitals => (otherStatement? read capitals).isSome
    | _ => false
  if startsStatement then
    let _ ← read .statement
  else
    let _ ← tableWith read .described
  let _ ← words ["AS", "JSON"]
  return some .other

end DartModels.Sql
