import DartModels.Sql.Name

namespace DartModels.Sql

open Reading

/-- Reads what holds for a column, if something is told. -/
def columnRule (read : Reader) : Reading (Option Unit) := do
  if ← words ["PATH"] then
    let _ ← anyText read
    return some ()
  if ← keyword "DEFAULT" then
    let _ ← read .bitwise
    return some ()
  if ← words ["NOT", "NULL"] then return some ()
  if ← either (keyword "NULL") (either (keyword "UNIQUE") (keyword "PRIMARY KEY")) then
    return some ()
  return none

/-- Reads what is told of a column behind its name: its type and what holds for it. -/
def columnDetails (read : Reader) : Reading Unit := do
  let type ← read .columnType
  if !(← words ["FOR", "ORDINALITY"]) then
    let hasWord ← if type.isNone then keyword "AS" else pure false
    if ← if hasWord then pure true else wordAmong ["ALIAS", "MATERIALIZED"] then
      let _ ← read .disjunction
      let _ ← words ["PERSISTED"]
    iterate (fun _ => columnRule read) ()

/-- Reads the definition of a column: its name, its type and what holds for it. -/
def columnDefinition (read : Reader) : Reading (Option Shape) := do
  let column ←
    match ← read .primary with
    | some shape => pure (some shape)
    | none =>
      match ← read .function with
      | some shape => pure (some shape)
      | none => anyName read
  columnDetails read
  return column

/-- Whether a token may be the alias of a table without the word for it. -/
def isTableAlias (token : Token) : Bool :=
  token.isName &&
    !token.isOneOf ["ANTI", "ASOF", "FULL", "LEFT", "LOCK", "NATURAL", "RIGHT", "SEMI", "WINDOW"]

/-- Reads the alias of a table, which may name its columns. Without the word for it, not
    every name is one. -/
def tableAliasAmong (read : Reader) (isAlias : Token → Bool) : Reading Bool := do
  if ← isCountNext read then return false
  let hasWord ← keyword "AS"
  let found ← nameAmong read (if hasWord then Token.isAnyName else isAlias)
  let found := found.isSome || (← takeIf Token.isText)
  let columns ← orBack do
    if ← mark "(" then
      let columns ← list do
        let column ← anyName read
        let _ ← keyword "AS"
        columnDetails read
        return column
      if columns.isEmpty then return none
      expectMark ")"
      return some columns
    else return none
  return found || columns.isSome

/-- Reads the alias of a table. -/
def tableAlias (read : Reader) : Reading Bool :=
  tableAliasAmong read isTableAlias

end DartModels.Sql
