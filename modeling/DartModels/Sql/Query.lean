import DartModels.Sql.Expression
import DartModels.Sql.Pivot

namespace DartModels.Sql

open Reading

/-- Reads the definition of a table that only a query knows: a name, and the
    statement that gives the rows. -/
def namedQuery (read : Reader) : Reading (Option Shape) := orBack do
  let isNamed ← isNext fun token => token.isName || token.isQuoted || token.isText
  let hasAlias ← tableAliasAmong read Token.isName
  if !isNamed || !hasAlias then fail (.expected "CTE to have alias")
  if ← words ["USING", "KEY"] then
    let _ ← wrapped (list (anyName read))
  if ← keyword "AS" then
    let _ ← either (words ["NOT", "MATERIALIZED"]) (words ["MATERIALIZED"])
    let rows ← wrapped (read .statement)
    let _ ← need "this" "query.CTE" rows
    return rows
  else return none

/-- Reads in what order rows that follow from each other are found, or how circles among
    them are, if it is told. -/
def searchClause (read : Reader) : Reading Unit := do
  let _ ← words ["SEARCH"]
  if ← wordAmong ["BREADTH", "CYCLE", "DEPTH"] then
    let _ ← words ["FIRST", "BY"]
    let column ← anyName read
    let order ← if ← words ["SET"] then anyName read else pure none
    if ← words ["USING"] then
      let _ ← anyName read
    let _ ← need "this" "query.RecursiveWithSearch" column
    let _ ← need "expression" "query.RecursiveWithSearch" order

/-- What a shape is called where it cannot have tables that only it knows. -/
def unnamedKind : Shape → String
  | .call _ _ => "anonymous"
  | .name _ _ => "column"
  | .literal _ | .number => "literal"
  | .parenthesized _ => "paren"
  | .rows => "values"
  | _ => "command"

/-- Reads a query behind the tables that only it knows. -/
def withQuery (read : Reader) : Reading Shape := do
  let _ ← keyword "RECURSIVE"
  let first ← namedQuery read
  let found ← iterate (fun found => do
    if ← either (mark ",") (keyword "WITH") then
      let _ ← keyword "WITH"
      return some ((← namedQuery read) <|> found)
    else return none) first
  searchClause read
  let _ ← need "expressions" "query.With" found
  let isValues ← isNext (·.isKeyword "VALUES")
  match ← read .statement with
  | none => fail .nothingNamedFor
  | some .query => return .query
  | some shape =>
    let takesNames :=
      match shape with
      | .rows => !isValues
      | _ => false
    if takesNames then return shape else fail (.takesNoNames (unnamedKind shape))

/-- Reads a row of values, in parentheses or a single one. In parentheses a value may be
    left to its default. -/
def row (read : Reader) : Reading (Option Shape) := do
  if ← isNext (· == .mark "(") then
    let _ ← wrapped (list do
      if ← keyword "DEFAULT" then return some .other
      read .expression)
    return some .other
  else read .expression

/-- Reads what is selected. A single token that is left is a column. -/
def selection (read : Reader) : Reading Unit := do
  let hasWords := 2 ≤ (← get).length && !(← isSecond (· == .mark "."))
  if hasWords then
    let isAll ← keyword "ALL"
    let isDistinct ← keyword "DISTINCT"
    if isDistinct then
      if ← keyword "ON" then
        let _ ← row read
    if isAll && isDistinct then fail .allAndDistinct
  if ← keyword "AS" then
    let _ ← wordAmong ["STRUCT", "VALUE"]
  let _ ← list (read .expression)
  if ← keyword "INTO" then
    let _ ← keywordAmong ["TEMP", "TEMPORARY"]
    let _ ← words ["UNLOGGED"]
    let _ ← keyword "TABLE"
    let _ ← read .describedTable

/-- Reads rows of values, and whether they have an alias. -/
def rowsOfValues (read : Reader) : Reading Bool := do
  let rows ← list (row read)
  let hasAlias ← tableAlias read
  let _ ← need "expressions" "query.Values" rows.head?
  return hasAlias

/-- Reads a query behind an opening parenthesis, and whether it has an alias. -/
def bracketedQuery (read : Reader) (place : QueryPlace) : Reading (Option Bool) := do
  let inner ← read (if place = .inTable then .table else .query .joined)
  if let some shape := inner then
    let _ ← joinedQueries read shape
    queryClauses read
  expectMark ")"
  if inner.isNone then return none
  pivots read
  let hasAlias ← tableAlias read
  let _ ← sampleClause read
  return some hasAlias

/-- Reads a query that is in no parentheses. The table that is selected from may
    come first. -/
def bareQuery (read : Reader) : Reading (Option Shape) := do
  let startsWithTable ← keyword "FROM"
  if startsWithTable then
    let _ ← read .table
    iterate (fun _ => do return (← read .join).map fun _ => ()) ()
  if ← keyword "SELECT" then
    selection read
    if !startsWithTable then
      if ← keyword "FROM" then
        let _ ← read .table
    queryClauses read
    return some .query
  if ← keyword "VALUES" then
    let _ ← rowsOfValues read
    return some .rows
  if startsWithTable then return some .query
  if ← keyword "DESCRIBE" then return ← read .description
  return none

/-- Reads a query. Only in some places it may be in parentheses. -/
def query (read : Reader) (place : QueryPlace) : Reading (Option Shape) := do
  if ← keyword "WITH" then return some (← withQuery read)
  match ← bareQuery read with
  | some shape =>
    if place = .joined then return some shape
    return some (← joinedQueries read shape)
  | none =>
    if place = .alone then return none
    if ← mark "(" then return (← bracketedQuery read place).map fun _ => .rows
    else return none

/-- Reads a part of the name of a table, or a call that gives a table. Where columns
    may be named behind the table, parentheses make no call. -/
def tablePart (read : Reader) (hasColumns : Bool) : Reading (Option Shape) := do
  if !hasColumns then
    if let some shape ← function read { plainStyle with needsParentheses := true } then
      return some shape
  if let some shape ← name read then return some shape
  if ← takeIf Token.isText then return some .other
  placeholder read

/-- Reads the name of a table. Parts in front of the last one may be left out. -/
def tableName (read : Reader) (hasColumns : Bool) : Reading Unit := do
  let first ← tablePart read hasColumns
  let last ← iterate (fun _ => do
    if ← mark "." then return some (← tablePart read hasColumns) else return none) first
  if last.isNone then
    let next := ((← get).head?.map Token.name).getD "None"
    fail (.expected ("table name but got " ++ next))
  pivots read
  let _ ← bracketed read last

/-- Reads the columns of a table in parentheses, if they are given. -/
def tableColumns (read : Reader) : Reading Unit := do
  let startsQuery (token : Token) : Bool :=
    token == .mark "(" || token.isOneOf ["SELECT", "WITH"]
  if (← isNext (· == .mark "(")) && !(← isSecond startsQuery) then
    let _ ← wrapped (list (columnDefinition read))

/-- Reads at what time or in which version a table is asked for, if this is told. -/
def versionClause (read : Reader) : Reading Unit := do
  if ← keywordAmong ["FOR TIMESTAMP", "FOR VERSION"] then
    if ← keywordAmong ["BETWEEN", "FROM"] then
      let _ ← read .bitwise
      let _ ← wordAmong ["AND", "TO"]
      let _ ← read .bitwise
    else if ← words ["CONTAINED", "IN"] then
      let _ ← wrapped (list (read .bitwise))
    else if !(← keyword "ALL") then
      let _ ← words ["AS", "OF"]
      let _ ← read .operand

/-- Reads the alias of items that are taken for rows, if it is given, and the name of the
    column that counts them. -/
def unnestedAlias (read : Reader) : Reading Bool := do
  let hasAlias ← tableAlias read
  if ← words ["WITH", "OFFSET"] then
    let _ ← keyword "AS"
    let _ ← nameAmong read fun token => token.isName && !token.isOneOf ["SET"]
  return hasAlias

/-- Reads what is said about the indexes to use, if anything is. -/
def indexHints (read : Reader) : Reading Unit := do
  if ← words ["WITH", "("] then
    let _ ← list do
      if let some shape ← read .function then return some shape
      return if ← takeIf Token.isAnyName then some .other else none
    expectMark ")"
  else
    iterate (fun _ => do
      if !(← keyword "USE") then return none
      let _ ← keyword "INDEX"
      if ← keyword "FOR" then
        let _ ← takeIf Token.isAnyName
      let _ ← wrapped (list (anyName read))
      return some ()) ()

/-- Reads rows that may depend on the tables in front. -/
def lateralRows (read : Reader) (isApplied : Bool) : Reading Unit := do
  let part : Reading (Option Shape) := do
    if let some shape ← function read plainStyle then return some shape
    name read
  let rows ←
    if ← mark "(" then bracketedQuery read .inTable
    else pure ((← read (.query .inTable)).map fun _ => false)
  let isView ← if isApplied then pure false else keyword "VIEW"
  if !isApplied then
    let _ ← keyword "OUTER"
  let hasAlias ←
    match rows with
    | some hasAlias => pure hasAlias
    | none =>
      if ← unnested read then unnestedAlias read
      else
        let first ← part
        let last ← iterate (fun _ => do
          if ← mark "." then return some (← part) else return none) first
        let _ ← need "this" "query.Lateral" last
        pure false
  if isView then
    let _ ← name read
    if ← keyword "AS" then
      let _ ← list (anyName read)
  else if !hasAlias then
    let _ ← words ["WITH", "ORDINALITY"]
    let _ ← tableAlias read

/-- What may follow a table. -/
inductive TableUse where
  /-- Its alias, for which some keywords cannot stand. -/
  | aliased (keywords : List String)
  /-- Its columns. -/
  | described
deriving DecidableEq, Repr

/-- Reads a table: by its name, or by what gives its rows. -/
def tableWith (read : Reader) (use : TableUse) : Reading (Option Shape) := do
  if ← either (words ["OUTER", "APPLY"]) (words ["CROSS", "APPLY"]) then
    lateralRows read true
    return some .rows
  if ← keyword "LATERAL" then
    lateralRows read false
    return some .rows
  if ← unnested read then
    let _ ← unnestedAlias read
    return some .rows
  let isBracketed := (← isNext (· == .mark "(")) && (← isSecond (·.isKeyword "VALUES"))
  if isBracketed then
    let hasAlias ← wrapped (do let _ ← keyword "VALUES"; rowsOfValues read)
    if !hasAlias then
      let _ ← tableAlias read
    return some .rows
  if ← either (words ["VALUES"]) (words ["FORMAT", "VALUES"]) then
    let _ ← rowsOfValues read
    return some .rows
  if (← read (.query .inTable)).isSome then
    pivots read
    return some .rows
  if ← words ["ROWS", "FROM"] then
    let _ ← wrapped (list (read .table))
  else
    let _ ← keyword "ONLY"
    tableName read (use = .described)
    let _ ← mark "*"
  match use with
  | .described =>
    tableColumns read
    return some .rows
  | .aliased keywords =>
    versionClause read
    let _ ← tableAliasAmong read fun token => isTableAlias token && !token.isOneOf keywords
    let _ ← words ["NOT", "INDEXED"]
    if ← words ["AT"] then
      let _ ← anyName read
      return some .rows
    indexHints read
    pivots read
    let _ ← sampleClause read
    if ← words ["WITH", "ORDINALITY"] then
      let _ ← tableAlias read
    return some .rows

/-- Reads a table that rows are selected from. -/
def table (read : Reader) : Reading (Option Shape) :=
  tableWith read (.aliased [])

end DartModels.Sql
