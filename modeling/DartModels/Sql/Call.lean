import DartModels.Sql.Signature
import DartModels.Sql.SpecialCall

namespace DartModels.Sql

open Reading

/-- Reads names, an arrow and what is made of the names, if this is what comes
    next. -/
def lambda (read : Reader) : Reading (Option Shape) := orBack do
  let start ← get
  let names ←
    if ← mark "(" then do
      let names ← list (anyName read)
      if !(← mark ")") then set start
      pure names
    else do pure (← anyName read).toList
  let isLambda ← mark "->"
  let isNamed ← if isLambda then pure false else mark "=>"
  if !isLambda && !isNamed then return none
  let body ← read .disjunction
  if isLambda then
    let _ ← need "this" "core.Lambda" body
    let _ ← need "expressions" "core.Lambda" names.head?
  else
    let _ ← need "this" "core.Kwarg" names.head?
    let _ ← need "expression" "core.Kwarg" body
  return some .other

/-- Reads an argument of a call with its clauses. -/
def argument (read : Reader) (isAliased : Bool) : Reading (Option Shape) := do
  if let some shape ← lambda read then return some shape
  if ← keyword "DISTINCT" then
    let _ ← list (read .disjunction)
    argumentClauses read (some .other)
  else
    let _ ← keyword "ALL"
    argumentClauses read (← expressionOrQuery read isAliased)

/-- Reads what holds in all other cases, and tells whether the word that ends the cases was
    taken for the amount of an interval. -/
def elseBranch (read : Reader) : Reading Bool := do
  let start ← get
  let startsInterval := (← isNext (·.isKeyword "INTERVAL")) && (← isSecond (·.isKeyword "END"))
  let _ ← read .disjunction
  return startsInterval && [2, 3].contains (start.length - (← get).length)

/-- Reads the branches of a case distinction. -/
def caseDistinction (read : Reader) : Reading Shape := do
  let _ ← read .disjunction
  let hasBranch ← iterate (fun _ => do
    if ← keyword "WHEN" then
      let condition ← read .disjunction
      let _ ← keyword "THEN"
      let value ← read .disjunction
      let _ ← need "this" "functions.If" condition
      let _ ← need "true" "functions.If" value
      return some true
    else return none) false
  let endsWithin ← if ← keyword "ELSE" then elseBranch read else pure false
  let isEnded ← keyword "END"
  if !isEnded && !endsWithin then failBefore (.expected "END after CASE")
  expect (.lacking "ifs" "functions.Case") (pure hasBranch)
  return .other

/-- Reads what comes behind `IF`: arguments in parentheses, or conditions set apart
    by words. -/
def ifDistinction (read : Reader) : Reading (Option Shape) := do
  if ← mark "(" then
    let arguments ← list do aliased read true (← read .assignment)
    let _ ← need "this" "functions.If" arguments.head?
    let _ ← need "true" "functions.If" arguments[1]?
    if 3 < arguments.length then fail (.tooMany arguments.length 3)
    expectMark ")"
    return some .other
  else
    match ← read .disjunction with
    | none => return none
    | some _ =>
      let _ ← keyword "THEN"
      let value ← read .disjunction
      if ← keyword "ELSE" then
        let _ ← read .disjunction
      let _ ← keyword "END"
      let _ ← need "true" "functions.If" value
      return some .other

/-- Reads what goes on a word that does without parentheses. -/
def bareCall (read : Reader) (function : String) : Reading (Option Shape) := do
  match function with
  | "ANY" =>
    let _ ← needed "this" "core.Any" (read .bitwise)
    return some (← windowed read .other)
  | "VARIADIC" =>
    let _ ← needed "this" "core.Variadic" (read .bitwise)
    return some (← windowed read .other)
  | "CASE" =>
    if ← isNext (· == .mark ".") then return none
    return some (← windowed read (← caseDistinction read))
  | "CONNECT_BY_ROOT" =>
    let _ ← needed "this" "core.ConnectByRoot" (read .column)
    return some (← windowed read .other)
  | "IF" =>
    match ← ifDistinction read with
    | none => return none
    | some shape => return some (← windowed read shape)
  | "NEXT" =>
    if ← words ["VALUE", "FOR"] then
      let sequence ← read .column
      if ← keyword "OVER" then
        let _ ← wrapped (orderClause read)
      let _ ← need "this" "functions.NextValueFor" sequence
      return some (← windowed read .other)
    else return none
  | _ => return none

/-- The words that do without parentheses. -/
def bareWords : List String := ["ANY", "CASE", "CONNECT_BY_ROOT", "IF", "NEXT", "VARIADIC"]

/-- Checks that a function has the arguments that it needs, and no more than it takes. -/
def checkCount (signature : Signature) (count : Nat) : Reading Unit := do
  if let some part := signature.required[count]? then fail (.lacking part signature.construct)
  if let some most := signature.most then
    if most < count then fail (.tooMany count most)

/-- Reads the arguments of a function that has no rule of its own. -/
def commonCall (read : Reader) (name : String) (isQualified : Bool) : Reading Shape := do
  let function := inCapitals name
  match if isQualified then none else signature? function with
  | some signature =>
    let arguments ← list (read (.argument (function = "STRUCT")))
    checkCount signature arguments.length
    if jsonFunctions.contains function then
      return (arguments.head?.getD .other).castTo true
    return if isAggregate function then .aggregate else .other
  | none =>
    let arguments ← list (read (.argument true))
    return .call name arguments.head?

/-- How a function may be called in some place. -/
structure CallStyle where
  /-- Behind a dot any name may name a function, and no function is a defined one. -/
  isQualified : Bool
  needsParentheses : Bool

/-- The words that tell for which rows of a query a comparison holds. -/
def rowWords : List String := ["ALL", "ANY", "EXISTS", "SOME"]

/-- Reads a call behind the name of the function and the opening parenthesis. -/
def callBehind (read : Reader) (style : CallStyle) (token : Token) : Reading Shape := do
  let function := inCapitals token.name
  match if style.isQualified then none else specialCall? read function with
  | some special =>
    let shape ← special
    expectMark ")"
    windowed read shape
  | none =>
    if token.isOneOf rowWords && (← isNext (·.isOneOf ["SELECT", "WITH"])) then
      let _ ← read (.query .alone)
      expectMark ")"
      return .other
    else
      let shape ← commonCall read token.name style.isQualified
      expectMark ")"
      windowed read shape

/-- Reads a call that has parentheses, or one of a function that does without. -/
def usualCall (read : Reader) (style : CallStyle) : Reading (Option Shape) := do
  match ← get with
  | [] => return none
  | token :: .mark "(" :: arguments =>
    if if style.isQualified then token.isAnyName else token.isCallable then
      set arguments
      return some (← callBehind read style token)
    else return none
  | token :: rest =>
    if !style.needsParentheses && token.isOneOf bareFunctions then
      set rest
      return some .other
    else return none

/-- Reads a call, if there is one. -/
def call (read : Reader) (style : CallStyle) : Reading (Option Shape) := do
  match ← get with
  | .word _ function :: rest =>
    if !style.isQualified && !style.needsParentheses && bareWords.contains function then
      let bare ← orBack do
        set rest
        bareCall read function
      if bare.isSome then return bare
  | _ => pure ()
  usualCall read style

/-- Reads a call, which may be in braces behind the letters `fn`. -/
def function (read : Reader) (style : CallStyle) : Reading (Option Shape) := do
  match ← get with
  | .mark "\x7b" :: token :: rest =>
    if token.capitals = "FN" then
      set rest
      let shape ← call read style
      let _ ← mark "\x7d"
      return shape
    else return none
  | _ => call read style

end DartModels.Sql
