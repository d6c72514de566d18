import DartModels.Sql.Keyword
import DartModels.Sql.Objection
import DartModels.Sql.Shape

namespace DartModels.Sql

/-- Tokens that follow no rule, and how many of them are left where this shows. -/
structure Refusal where
  objection : Objection
  left : Nat
deriving Repr

/-- A rule at work on the tokens ahead. It takes some of them, or finds that they
    follow no rule. -/
abbrev Reading := StateT (List Token) (Except Refusal)

namespace Reading

/-- Finds that the tokens ahead follow no rule. -/
def fail {α : Type} (objection : Objection) : Reading α :=
  fun tokens => .error ⟨objection, tokens.length⟩

/-- Finds that the token behind which it is follows no rule. -/
def failBefore {α : Type} (objection : Objection) : Reading α :=
  fun tokens => .error ⟨objection, tokens.length + 1⟩

/-- Takes the next token if it is one of those that are looked for. -/
def takeIf (isWanted : Token → Bool) : Reading Bool
  | [] => .ok (false, [])
  | token :: rest => .ok (if isWanted token then (true, rest) else (false, token :: rest))

/-- Takes the next token if it is a certain mark. -/
def mark (spelling : String) : Reading Bool :=
  takeIf fun token => token == .mark spelling

/-- Takes the next token if it is a certain keyword. -/
def keyword (capitals : String) : Reading Bool :=
  takeIf fun token => token.isKeyword capitals

/-- Takes the next token if it is one of some keywords. -/
def keywordAmong (capitals : List String) : Reading Bool :=
  takeIf fun token => token.isOneOf capitals

/-- Takes the next token if it says one of some words. -/
def wordAmong (words : List String) : Reading Bool :=
  takeIf fun token => words.any token.spells

/-- Takes the next tokens if they say some words in a row. -/
def words (expected : List String) : Reading Bool := fun tokens =>
  if expected.length ≤ tokens.length ∧
      (tokens.zip expected).all fun (token, word) => token.spells word then
    .ok (true, tokens.drop expected.length)
  else .ok (false, tokens)

/-- Whether the next token is one of those that are looked for. -/
def isNext (isWanted : Token → Bool) : Reading Bool := fun tokens =>
  .ok (tokens.head?.any isWanted, tokens)

/-- Whether the token behind the next one is one of those that are looked for. -/
def isSecond (isWanted : Token → Bool) : Reading Bool := fun tokens =>
  .ok (tokens.tail.head?.any isWanted, tokens)

/-- Takes what the first of two rules is about, or else the second one. -/
def either (first second : Reading Bool) : Reading Bool := do
  if ← first then return true
  second

/-- Insists on something. -/
def expect (objection : Objection) (reading : Reading Bool) : Reading Unit := do
  if ← reading then return else fail objection

/-- Insists on a mark. -/
def expectMark (spelling : String) : Reading Unit :=
  expect (.expecting spelling) (mark spelling)

/-- Insists on a part of a construct. -/
def need {α : Type} (part construct : String) : Option α → Reading α
  | some value => pure value
  | none => fail (.lacking part construct)

/-- Insists that a part of a construct is read. -/
def needed {α : Type} (part construct : String) (reading : Reading (Option α)) : Reading α := do
  need part construct (← reading)

/-- Puts all tokens back if nothing is read. -/
def orBack {α : Type} (reading : Reading (Option α)) : Reading (Option α) := fun tokens =>
  match reading tokens with
  | .ok (none, _) => .ok (none, tokens)
  | read => read

/-- Puts all tokens back if nothing is read or if the tokens follow no rule. -/
def attempt {α : Type} (reading : Reading (Option α)) : Reading (Option α) := fun tokens =>
  match reading tokens with
  | .ok (some value, rest) => .ok (some value, rest)
  | _ => .ok (none, tokens)

/-- Goes on from a value as long as a step gives a next one, so many times at most. -/
def iterateUpTo {α : Type} (step : α → Reading (Option α)) : Nat → α → Reading α
  | 0, value => pure value
  | limit + 1, value => do
    match ← step value with
    | none => return value
    | some next => iterateUpTo step limit next

/-- Goes on from a value as long as a step gives a next one. A step takes a token at
    least, which bounds their number. -/
def iterate {α : Type} (step : α → Reading (Option α)) (start : α) : Reading α := do
  iterateUpTo step (← get).length start

/-- Reads items between commas, and whether a comma comes last. A place between
    commas may be empty. -/
def items {α : Type} (item : Reading (Option α)) : Reading (List α × Bool) := do
  let first ← item
  iterate (fun (found, _) => do
    if ← mark "," then
      let next ← item
      return some (found ++ next.toList, next.isNone)
    else return none) (first.toList, false)

/-- Reads items between commas. -/
def list {α : Type} (item : Reading (Option α)) : Reading (List α) := do
  return (← items item).1

/-- Reads something between parentheses. -/
def wrapped {α : Type} (reading : Reading α) : Reading α := do
  expectMark "("
  let value ← reading
  expectMark ")"
  return value

/-- Reads something between parentheses, or without them. -/
def maybeWrapped {α : Type} (reading : Reading α) : Reading α := do
  if ← isNext (· == .mark "(") then wrapped reading else reading

end Reading

/-- Where a query stands. -/
inductive QueryPlace where
  /-- By itself, where other queries may be joined to it. -/
  | alone
  /-- Behind the word that joins it to another query. -/
  | joined
  /-- In the place of a table. -/
  | inTable
deriving DecidableEq, Repr

/-- The parts that rules refer to before they are defined. -/
inductive Part where
  /-- An expression with its alias, if it has one. -/
  | expression
  /-- An expression without alias. -/
  | assignment
  /-- An expression of conditions. -/
  | disjunction
  /-- An expression of comparisons. -/
  | equality
  /-- An expression of bits, or of stronger operators. -/
  | bitwise
  | sum
  | product
  /-- A signed operand. -/
  | unary
  | operand
  /-- A name or a value with what goes on it. -/
  | column
  | primary
  /-- An interval without the word in front. -/
  | furtherInterval
  /-- A call of a function. -/
  | function
  /-- What a value is to be put in the place of. -/
  | placeholder
  /-- An argument of a call. Only functions that the language does not define take
      aliases. -/
  | argument (isAliased : Bool)
  /-- A type. Where it may turn out to be a call, a text has to follow parameters. -/
  | dataType (mayBeCall : Bool)
  /-- The type of a column, whose arrays may have sizes. -/
  | columnType
  | query (place : QueryPlace)
  | table
  /-- A table without alias, whose columns may be told. -/
  | describedTable
  /-- A further table, with what it is joined by. -/
  | join
  /-- What is told about a table, behind the word that asks for it. -/
  | description
  | statement
deriving DecidableEq, Repr

/-- Reads a part, if there is one. -/
abbrev Reader := Part → Reading (Option Shape)

end DartModels.Sql
