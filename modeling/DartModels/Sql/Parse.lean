import DartModels.Sql.Statement

namespace DartModels.Sql

/-- How many characters are shown in front of the end of a text that ends too early. -/
def shownBeforeEnd : Nat := 50

/-- What is said about a text a token of which has no end. The last character is left
    out. -/
def endless (text : List Char) : String :=
  let shown := (text.take (text.length - 1)).drop (text.length - shownBeforeEnd)
  "Error tokenizing '" ++ String.ofList shown ++ "'"

/-- What is said about a text in which there is no statement. -/
def nothingRead (text : List Char) : String :=
  "No expression was parsed from '" ++ String.ofList text ++ "'"

/-- What is said about tokens of a text that follow no rule. It shows where there is the
    first token that is left, or the last one if none is. -/
def Refusal.report (refusal : Refusal) (text : List Char) (tokens : List Placed) : String :=
  let next := tokens[tokens.length - refusal.left]?
  match next.orElse fun () => tokens.getLast? with
  | none => refusal.objection.message
  | some placed =>
    refusal.objection.report text (text.length - placed.ahead.length)
      (text.length - placed.behind.length)

/-- The tokens between the semicolons. -/
def chunks : List Placed → List (List Placed)
  | [] => [[]]
  | placed :: rest =>
    if placed.token == .mark ";" then [] :: chunks rest
    else
      match chunks rest with
      | [] => [[placed]]
      | first :: more => (placed :: first) :: more

/-- The shape of a text, which one semicolon may end, or what is said about a text that
    cannot be read. More than one statement has no shape of interest. -/
def parse (text : List Char) : Except String Shape := do
  match tokens? text with
  | none => throw (endless text)
  | some tokens =>
    let isUncommented := (tokens.reverse.takeWhile (·.token != .mark ";")).isEmpty
    let parts := chunks (tokens.filter (·.token != .comment))
    let shapes ← parts.mapM fun part =>
      (statementShape (part.map Placed.token)).mapError (·.report text part)
    match shapes, parts with
    | some shape :: [], _ => return shape
    | some shape :: _, [_, []] => return if isUncommented then shape else .other
    | some _ :: _, _ => return .other
    | _, _ => throw (nothingRead text)

end DartModels.Sql
