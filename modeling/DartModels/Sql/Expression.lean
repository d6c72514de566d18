import DartModels.Sql.Operand

namespace DartModels.Sql

open Reading

/-- Checks that there is something on both sides of an operator. -/
def bothSides (construct : String) (left right : Option Shape) : Reading (Option Shape) := do
  let _ ← need "this" construct left
  let _ ← need "expression" construct right
  return some .other

/-- The construct of an operator that is a mark. -/
def ofMark? (operators : List (String × String)) : Token → Option String
  | .mark spelling => operators.lookup spelling
  | _ => none

/-- The construct of an operator that is a mark or a keyword. -/
def ofSign? (marks keywords : List (String × String)) : Token → Option String
  | .word _ capitals => keywords.lookup capitals
  | token => ofMark? marks token

/-- Takes the next token if it is an operator, and tells what it makes. -/
def operator (construct? : Token → Option String) : Reading (Option String) := do
  match (← get).head?.bind construct? with
  | some construct =>
    let _ ← takeIf fun _ => true
    return some construct
  | none => return none

/-- Reads operands and the operators of one strength between them. An operator has
    to stand between two operands. -/
def operatorsFrom (first operand : Reading (Option Shape)) (construct? : Token → Option String) :
    Reading (Option Shape) := do
  iterate (fun shape => do
    match ← operator construct? with
    | some construct => return some (← bothSides construct shape (← operand))
    | none => return none) (← first)

/-- Reads operands and the operators of one strength between them. -/
def operators (operand : Reading (Option Shape)) (construct? : Token → Option String) :
    Reading (Option Shape) :=
  operatorsFrom operand operand construct?

/-- The operators in front of an operand. -/
def signs : Token → Option String :=
  ofSign? [("-", "core.Neg"), ("~", "core.BitwiseNot"), ("|/", "math.Sqrt"), ("||/", "math.Cbrt")]
    [("REGEXP", "core.BitwiseNot"), ("RLIKE", "core.BitwiseNot")]

/-- Reads an operand and the operators in front of it. A plus sign changes nothing. -/
def unary (read : Reader) : Reading (Option Shape) := do
  if ← mark "+" then return ← read .unary
  if ← either (keyword "NOT") (mark "!") then
    let _ ← needed "this" "core.Not" (read .equality)
    return some .other
  match ← operator signs with
  | some construct =>
    let _ ← needed "this" construct (read .unary)
    return some .other
  | none => operand read

/-- Reads powers. -/
def power (read : Reader) : Reading (Option Shape) :=
  operators (unary read) (ofMark? [("^", "math.Pow")])

/-- Reads products. Only their first factor may be moved to a time zone. -/
def product (read : Reader) : Reading (Option Shape) :=
  operatorsFrom (do atTimeZone read (← power read)) (power read)
    (ofMark? [("*", "core.Mul"), ("/", "core.Div"), ("<->", "core.Distance")])

/-- Reads sums. -/
def sum (read : Reader) : Reading (Option Shape) :=
  operators (product read)
    (ofSign? [("+", "core.Add"), ("-", "core.Sub"), ("%", "core.Mod")]
      [("COLLATE", "core.Collate")])

/-- The operators of bits, of joined texts, and those that look into a JSON value. -/
def bitOperators : Token → Option String :=
  ofMark?
    [("&", "core.BitwiseAnd"), ("|", "core.BitwiseOr"), ("#", "core.BitwiseXor"),
      ("||", "core.DPipe"), ("->", "json.JSONExtract"), ("->>", "json.JSONExtractScalar"),
      ("#>", "json.JSONBExtract"), ("#>>", "json.JSONBExtractScalar"), ("?", "json.JSONBContains")]

/-- Takes a mark that is written twice. -/
def doubled (spelling : String) : Reading Bool := do
  if (← isNext (· == .mark spelling)) && (← isSecond (· == .mark spelling)) then
    let _ ← mark spelling
    mark spelling
  else return false

/-- Reads expressions of bits, and others that are as strong. -/
def bitwise (read : Reader) : Reading (Option Shape) := do
  iterate (fun shape => do
    if ← mark "??" then
      let _ ← sum read
      let _ ← need "this" "functions.Coalesce" shape
      return some (some .other)
    if ← doubled "<" then
      return some (← bothSides "core.BitwiseLeftShift" shape (← sum read))
    if ← doubled ">" then
      return some (← bothSides "core.BitwiseRightShift" shape (← sum read))
    match ← operator bitOperators with
    | some construct => return some (← bothSides construct shape (← sum read))
    | none => return none) (← sum read)

/-- Reads a missing or an unknown value, or a placeholder. -/
def missing (read : Reader) : Reading Bool := do
  if ← keywordAmong ["NULL", "UNKNOWN"] then return true
  return (← read .placeholder).isSome

/-- Reads the character that escapes others in a pattern, if it is given. -/
def escapeClause (read : Reader) : Reading Unit := do
  if ← keyword "ESCAPE" then
    expect (.lacking "expression" "core.Escape") (either (anyText read) (missing read))

/-- Reads what a value is said to be behind `IS`. -/
def isPredicate (read : Reader) (shape : Option Shape) : Reading (Option Shape) := orBack do
  let _ ← keyword "IS"
  let isNegated ← either (keyword "NOT") (mark "!")
  if ← words ["DISTINCT", "FROM"] then
    let construct := if isNegated then "core.NullSafeEQ" else "core.NullSafeNEQ"
    return ← bothSides construct shape (← bitwise read)
  if ← keyword "JSON" then
    let _ ← wordAmong ["ARRAY", "OBJECT", "SCALAR", "VALUE"]
    let _ ← wordAmong ["WITH", "WITHOUT"]
    let _ ← keyword "UNIQUE"
    let _ ← words ["KEYS"]
  else if !(← missing read) then
    if (← bitwise read).isNone then return none
  let _ ← need "this" "core.Is" shape
  return some (← columnOperators read .other)

/-- Reads the values that one is looked for among. -/
def membership (read : Reader) : Reading Unit := do
  let items := list (expressionOrQuery read false)
  if ← unnested read then return
  if ← mark "(" then
    let shapes ← items
    if let [shape] := shapes then
      if shape.takesClauses then queryClauses read
    expectMark ")"
  else if ← mark "[" then
    let _ ← items
    expectMark "]"
  else
    let _ ← column read

/-- Reads an operator that is named in parentheses with its right side, and further ones. -/
def namedOperators (read : Reader) (shape : Option Shape) : Reading (Option Shape) :=
  iterate (fun shape => do
    let isNamed := (← isNext (·.isKeyword "OPERATOR")) && (← isSecond (· == .mark "("))
    if isNamed then
      let _ ← keyword "OPERATOR"
      iterate (fun _ => do
        return if ← takeIf (· != .mark ")") then some () else none) ()
      let _ ← mark ")"
      return some (← bothSides "core.Operator" shape (← bitwise read))
    else return none) shape

/-- Reads the items that a value is taken from for a list, if they follow. -/
def comprehension (read : Reader) (shape : Option Shape) : Reading (Option Shape) := orBack do
  let _ ← keyword "FOR"
  let item ← column read
  if ← mark "," then
    let _ ← column read
  if ← keyword "IN" then
    let items ← column read
    if ← words ["IF"] then
      let _ ← read .disjunction
    let _ ← need "this" "core.Comprehension" shape
    let _ ← need "expression" "core.Comprehension" item
    let _ ← need "iterator" "core.Comprehension" items
    return some .other
  else return none

/-- The operators that compare a value with another, as strong as `LIKE`. -/
def matchOperators : Token → Option String :=
  ofSign?
    [("~", "core.RegexpLike"), ("~*", "core.RegexpILike"), ("~~", "core.Like"),
      ("~~*", "core.ILike"), ("~~~", "core.Glob"), ("@>", "array.ArrayContainsAll"),
      ("<@", "array.ArrayContainedBy"), ("?&", "json.JSONBContainsAllTopKeys"),
      ("?|", "json.JSONBContainsAnyTopKeys"), ("#-", "json.JSONBDeleteAtPath"),
      ("@?", "json.JSONBPathExists"), ("^@", "string.StartsWith"),
      ("-|-", "core.Adjacent"), ("&<", "core.ExtendsLeft"), ("&>", "core.ExtendsRight"),
      ("&&", "array.ArrayOverlaps")]
    [("GLOB", "core.Glob"), ("ILIKE", "core.ILike"), ("LIKE", "core.Like"),
      ("OVERLAPS", "core.Overlaps"), ("REGEXP", "core.RegexpLike"), ("RLIKE", "core.RegexpLike"),
      ("SIMILAR TO", "core.SimilarTo")]

/-- Reads the right side of an operator. Behind `LIKE`, a word for which rows it holds
    goes in front of an expression in parentheses. -/
def matched (read : Reader) (construct : String) : Reading (Option Shape) := do
  match ← get with
  | word :: .mark "(" :: inner :: rest =>
    let isLike := ["core.Like", "core.ILike"].contains construct
    let isQuery := inner.isOneOf ["SELECT", "WITH"]
    if isLike && word.isOneOf ["ALL", "EXISTS", "SOME"] && !isQuery then
      set (Token.mark "(" :: inner :: rest)
      bitwise read
    else bitwise read
  | _ => bitwise read

/-- Reads an operator that tells where a value lies or what it is like, if there is
    one. -/
def predicate (read : Reader) (shape : Option Shape) : Reading (Option Shape) := do
  if ← keyword "BETWEEN" then
    let _ ← wordAmong ["ASYMMETRIC", "SYMMETRIC"]
    let low ← bitwise read
    let _ ← keyword "AND"
    let high ← bitwise read
    let _ ← need "this" "core.Between" shape
    let _ ← need "low" "core.Between" low
    let _ ← need "high" "core.Between" high
    return some .other
  if ← keyword "IN" then
    membership read
    let _ ← need "this" "core.In" shape
    return some .other
  if ← mark "@@" then
    let _ ← needed "this" "string.MatchAgainst" (bitwise read)
    return some .other
  if ← isNext (·.isKeyword "OPERATOR") then
    return ← if ← isSecond (· == .mark "(") then namedOperators read shape else pure none
  if ← isNext (·.isKeyword "IS") then return ← isPredicate read shape
  if ← isNext (·.isKeyword "FOR") then return ← comprehension read shape
  match ← operator matchOperators with
  | some construct =>
    let right ← matched read construct
    let found ←
      if construct = "array.ArrayContainedBy" then bothSides "array.ArrayContainsAll" right shape
      else bothSides construct shape right
    escapeClause read
    return found
  | none => return none

/-- Reads what is said about a value: where it lies, what it is like, or whether it is
    missing. -/
def rangeStep (read : Reader) (shape : Option Shape) : Reading (Option (Option Shape)) := orBack do
  let isNegated ← either (keyword "NOT") (mark "!")
  if let some found ← predicate read shape then return some (some found)
  let isMissing ← either (keywordAmong ["ISNULL", "NOTNULL"])
    (if isNegated then keyword "NULL" else pure false)
  if isMissing then
    let _ ← need "this" "core.Is" shape
    return some (some .other)
  else return none

/-- Reads a value and all that is said about it. -/
def range (read : Reader) : Reading (Option Shape) := do
  iterate (rangeStep read) (← bitwise read)

/-- Reads comparisons by order. -/
def comparison (read : Reader) : Reading (Option Shape) :=
  operators (range read)
    (ofMark? [("<", "core.LT"), (">", "core.GT"), ("<=", "core.LTE"), (">=", "core.GTE")])

/-- Reads comparisons. -/
def equality (read : Reader) : Reading (Option Shape) :=
  operators (comparison read)
    (ofMark? [("=", "core.EQ"), ("==", "core.EQ"), ("<>", "core.NEQ"), ("!=", "core.NEQ"),
      ("<=>", "core.NullSafeEQ")])

/-- Reads conditions of which all have to hold. -/
def conjunction (read : Reader) : Reading (Option Shape) :=
  operators (equality read) (ofSign? [] [("AND", "core.And")])

/-- Reads conditions of which one has to hold. -/
def disjunction (read : Reader) : Reading (Option Shape) :=
  operators (conjunction read) (ofSign? [] [("OR", "core.Or")])

/-- Reads an expression, and what may be assigned to it. -/
def assignment (read : Reader) : Reading (Option Shape) := do
  let isAssigned ← isSecond (· == .mark ":=")
  let shape ← disjunction read
  let isBare := shape.isNone && isAssigned
  if isBare then
    let _ ← takeIf fun _ => true
  let shape := if isBare then some .other else shape
  if ← mark ":=" then bothSides "core.PropertyEQ" shape (← read .assignment)
  else return shape

/-- Reads an expression with its alias, if it has one. -/
def expression (read : Reader) : Reading (Option Shape) := do
  aliased read false (← assignment read)

end DartModels.Sql
