namespace DartModels.Sql

/-- What an expression looks like, as far as it matters for what it may stand in. -/
inductive Shape where
  /-- A plain text. -/
  | literal (content : String)
  /-- A plain text that is marked as JSON once, by a cast or by a type in front. -/
  | json (content : String)
  | number
  /-- A name: plain by itself, or in quotes or behind another one. -/
  | name (spelling : String) (isPlain : Bool)
  /-- A call of a function that the language does not define, with the first of its
      arguments. -/
  | call (function : String) (first : Option Shape)
  /-- A call of a function of many rows. -/
  | aggregate
  /-- An expression in parentheses. -/
  | parenthesized (inner : Shape)
  /-- A query that is in no parentheses. -/
  | query
  /-- Something with rows that clauses of a query may go on: a query in parentheses,
      a list of rows, a table. -/
  | rows
  /-- A type, which may be JSON and may have parameters or elements. -/
  | dataType (isJson hasParameters : Bool)
  | other
deriving Inhabited

namespace Shape

/-- The shape of a value that is cast to a type. A plain text that is cast to JSON
    is marked as such. -/
def castTo (isJson : Bool) : Shape → Shape
  | .literal content => if isJson then .json content else .other
  | _ => .other

/-- The shape inside all parentheses around it. -/
def stripped : Shape → Shape
  | .parenthesized inner => inner.stripped
  | shape => shape

/-- Whether the clauses of a query may go on it. -/
def takesClauses : Shape → Bool
  | .query | .rows => true
  | _ => false

end Shape
end DartModels.Sql
