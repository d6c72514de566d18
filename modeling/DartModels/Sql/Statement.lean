import DartModels.Sql.OtherStatement

namespace DartModels.Sql

open Reading

/-- The words that start a command, in which there may be anything. -/
def commandWords : List String :=
  ["CALL", "CONSTRAINT TRIGGER", "DECLARE", "DO", "EXEC", "EXECUTE", "EXPLAIN", "FETCH", "LOCK",
    "OPTIMIZE", "PREPARE", "REFRESH", "REINDEX", "RENAME", "RESET", "SHOW", "VACUUM"]

/-- Whether some tokens are a command. -/
def areCommand : List Token → Bool
  | [] => false
  | first :: rest =>
    first.isOneOf commandWords || first.isKeyword "IF" && rest.head? != some (.mark "(")

/-- Reads an expression or a query as a statement of its own. -/
def queryStatement (read : Reader) : Reading (Option Shape) := do
  let shape ←
    match ← read .expression with
    | some shape => pure (some (← joinedQueries read shape))
    | none => read (.query .alone)
  if shape.any Shape.takesClauses then queryClauses read
  return shape

/-- Reads a statement. Inside another one, a command takes no more than a text. -/
def statement (read : Reader) : Reading (Option Shape) := do
  match ← get with
  | .word _ first :: rest =>
    if commandWords.contains first then
      set rest
      let _ ← anyText read
      return some .query
    else if first = "TRUNCATE" && rest.head? == some (.mark "(") then function read plainStyle
    else
      match otherStatement? read first with
      | some other =>
        set rest
        other
        return some .query
      | none => queryStatement read
  | _ => queryStatement read

/-- What each part is read by, given how the parts in it are read. -/
def rule (read : Reader) : Reader
  | .expression => expression read
  | .assignment => assignment read
  | .disjunction => disjunction read
  | .equality => equality read
  | .bitwise => bitwise read
  | .sum => sum read
  | .product => product read
  | .unary => unary read
  | .operand => operand read
  | .column => column read
  | .primary => primary read
  | .furtherInterval => orBack do
    let _ ← keyword "INTERVAL"
    intervalBehind read
  | .function => function read plainStyle
  | .placeholder => placeholder read
  | .argument isAliased => argument read isAliased
  | .dataType mayBeCall => dataType read { mayBeCall, takesSizes := false }
  | .columnType => dataType read { mayBeCall := false, takesSizes := true }
  | .query place => query read place
  | .table => table read
  | .describedTable => tableWith read .described
  | .join => join read
  | .description => description read
  | .statement => statement read

/-- Reads a part in which parts are nested up to some depth. -/
def read : (depth : Nat) → Reader
  | 0, _ => fail .leftover
  | depth + 1, part => rule (read depth) part

/-- The shape of a whole statement, if there is one. Between two tokens parts nest only a
    few levels deep, so the depth suffices. -/
def statementShape (tokens : List Token) : Except Refusal (Option Shape) :=
  if areCommand tokens then .ok (some .other)
  else
    match read (8 * (tokens.length + 2)) .statement tokens with
    | .ok (shape, []) => .ok shape
    | .ok (_, rest) => .error ⟨.leftover, rest.length⟩
    | .error refusal => .error refusal

end DartModels.Sql
