namespace DartModels.Sql

/-- What is wrong with tokens that follow no rule. -/
inductive Objection where
  /-- Tokens are left that belong to nothing. -/
  | leftover
  /-- Something has to come next and does not. -/
  | expecting (sign : String)
  /-- A construct lacks one of its parts. -/
  | lacking (part construct : String)
  /-- A function has more arguments than it takes. -/
  | tooMany (given most : Nat)
  /-- A keyword has to come next and does not. -/
  | expected (what : String)
  /-- A word is none of those that may come next. -/
  | unknownOption (word : String)
  /-- A type has no form without sign. -/
  | alwaysSigned (type : String)
  /-- Both words for which rows count are given. -/
  | allAndDistinct
  /-- Nothing follows the tables that only a query knows. -/
  | nothingNamedFor
  /-- A statement takes no tables that only it knows. -/
  | takesNoNames (statement : String)
  /-- No values are named that are to become columns. -/
  | nothingToPivot
  /-- A clause of a query is given twice. -/
  | repeated (clause : String)
deriving DecidableEq, Repr

/-- What is said about an objection. -/
def Objection.message : Objection → String
  | .leftover => "Invalid expression / Unexpected token"
  | .expecting sign => "Expecting " ++ sign
  | .lacking part construct =>
    "Required keyword: '" ++ part ++ "' missing for <class 'sqlglot.expressions." ++ construct ++
      "'>"
  | .tooMany given most =>
    "The number of provided arguments (" ++ toString given ++
      ") is greater than the maximum number of supported arguments (" ++ toString most ++ ")"
  | .expected what => "Expected " ++ what
  | .unknownOption word => "Unknown option " ++ word
  | .alwaysSigned type => "Cannot convert " ++ type ++ " to unsigned."
  | .allAndDistinct => "Cannot specify both ALL and DISTINCT after SELECT"
  | .nothingNamedFor => "Failed to parse any statement following CTE"
  | .takesNoNames statement => statement ++ " does not support CTE"
  | .nothingToPivot => "Failed to parse PIVOT's aggregation list"
  | .repeated clause => "Found multiple '" ++ clause ++ "' clauses"

/-- How many characters around a place are shown. -/
def shownAround : Nat := 100

/-- The line of a place among some characters, and its column in that line. Both count
    from one. A line ends behind a line feed or a carriage return, or behind both
    together. -/
def lineAndColumn : (line column : Nat) → List Char → Nat × Nat
  | line, column, [] => (line, column)
  | line, column, [_] => (line, column + 1)
  | line, column, c :: d :: rest =>
    if c = '\n' ∨ c = '\r' ∧ d ≠ '\n' then lineAndColumn (line + 1) 0 (d :: rest)
    else lineAndColumn line (column + 1) (d :: rest)

/-- An objection to the tokens at a place in a text, with the characters around the place.
    The place itself is underlined where that can be shown. -/
def Objection.report (objection : Objection) (text : List Char) (start stop : Nat) : String :=
  let (line, column) := lineAndColumn 1 0 (text.take stop)
  let before := (text.take start).drop (start - shownAround)
  let place := (text.take stop).drop start
  let behind := (text.drop stop).take shownAround
  objection.message ++ ". Line " ++ toString line ++ ", Col: " ++ toString column ++ ".\n  " ++
    String.ofList before ++ "\x1b[4m" ++ String.ofList place ++ "\x1b[0m" ++ String.ofList behind

end DartModels.Sql
