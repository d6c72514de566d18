import DartModels.Sql.Reading

namespace DartModels.Sql

open Reading

/-- Reads what a value is to be put in the place of: a question mark, a parameter,
    or a name behind a colon or a percent sign. -/
def placeholder (read : Reader) : Reading (Option Shape) := orBack do
  if ← mark "?" then return some .other
  if ← takeIf Token.marksParameter then
    if ← takeIf Token.isQuoted then return some .other
    if (← read .placeholder).isSome then return some .other
    if (← read .primary).isSome then return some .other
    expect (.lacking "this" "core.Parameter") (takeIf Token.isAnyName)
    return some .other
  if ← mark ":" then
    if ← takeIf Token.isName then return some .other
    return none
  if ← mark "%" then
    if ← isNext (· == .mark "(") then
      wrapped do
        let _ ← takeIf fun token => token.isQuoted || token.isAnyName
    let _ ← words ["S"]
    return some .other
  return none

/-- Reads a name: one in quotes, a placeholder, or a token that may be a name. -/
def nameAmong (read : Reader) (isAllowed : Token → Bool) : Reading (Option Shape) := do
  if let .quoted spelling :: rest ← get then
    set rest
    return some (.name spelling false)
  if let some shape ← read .placeholder then return some shape
  match ← get with
  | token :: rest =>
    if isAllowed token then
      set rest
      return some (.name token.name (!token.isText))
    else return none
  | [] => return none

/-- Reads a name, which no keyword is that names nothing. -/
def name (read : Reader) : Reading (Option Shape) :=
  nameAmong read Token.isName

/-- Reads a name where one has to come. -/
def anyName (read : Reader) : Reading (Option Shape) :=
  nameAmong read Token.isAnyName

/-- Reads a word that is no keyword, or a placeholder. -/
def plainWord (read : Reader) : Reading Bool := do
  if ← takeIf Token.isPlainWord then return true
  return (← read .placeholder).isSome

/-- Reads a text in any notation, or a placeholder. -/
def anyText (read : Reader) : Reading Bool := do
  if ← takeIf Token.isAnyText then return true
  return (← read .placeholder).isSome

/-- Reads by what rows are counted. -/
def countedBy (read : Reader) : Reading Unit := do
  if ← words ["BY"] then
    let _ ← list (read .bitwise)

/-- Reads what goes on a number of rows that are kept. -/
def rowOptions : Reading Unit := do
  let _ ← takeIf fun token => token.isKeyword "PERCENT" || token == .mark "%"
  let _ ← keywordAmong ["ROW", "ROWS"]
  let _ ← words ["ONLY"]
  let _ ← words ["WITH", "TIES"]

/-- Whether the last operator of the sum ahead is a percent sign. -/
def endsInRemainder (read : Reader) : Reading Bool := do
  let start ← get
  let _ ← read .product
  let found ← iterate (fun _ => do
    let sign := (← get).head?.getD .comment
    if [.mark "+", .mark "-", .mark "%"].contains sign || sign.isKeyword "COLLATE" then
      let _ ← takeIf fun _ => true
      let _ ← read .product
      return some (sign == .mark "%")
    else return none) false
  set start
  return found

/-- Reads a number of rows. A percent sign behind it belongs to the number only if
    another operator follows. -/
def rowCount (read : Reader) : Reading (Option Shape) := do
  let start ← get
  let count ← attempt (read .sum)
  let behind ← get
  set start
  let taken := start.take (start.length - behind.length)
  let isRemainder ← if taken.contains (.mark "%") then endsInRemainder read else pure false
  if count.isSome && !isRemainder then
    set behind
    return count
  else read .product

/-- Reads the number of rows that are kept, if it is given. -/
def limitClause (read : Reader) : Reading Bool := do
  if ← keyword "LIMIT" then
    let count ← rowCount read
    rowOptions
    let count ← if ← mark "," then read .sum else pure count
    let _ ← need "expression" "query.Limit" count
    countedBy read
    return true
  else return false

/-- Reads the number of rows that are left out, if it is given. -/
def offsetClause (read : Reader) : Reading Bool := do
  if ← keyword "OFFSET" then
    let _ ← needed "expression" "query.Offset" (read .sum)
    let _ ← keywordAmong ["ROW", "ROWS"]
    countedBy read
    return true
  else return false

/-- Whether a number of rows is given next. -/
def isCountNext (read : Reader) : Reading Bool := do
  let tokens ← get
  let found ← attempt do
    if ← limitClause read then return some ()
    if ← offsetClause read then return some ()
    return none
  set tokens
  return found.isSome

/-- Reads the alias of an expression, if there is one: behind `AS`, or by itself
    where no `AS` is asked for. An `AS` with nothing behind it is passed over. -/
def aliased (read : Reader) (needsWord : Bool) (shape : Option Shape) :
    Reading (Option Shape) := do
  if ← isCountNext read then return shape
  let hasWord ← keyword "AS"
  if needsWord && !hasWord then return shape
  let aliasName := if hasWord then anyName read else name read
  if ← mark "(" then
    let names ← list aliasName
    let _ ← need "this" "core.Aliases" shape
    let _ ← need "expressions" "core.Aliases" names.head?
    expectMark ")"
    return some .other
  match ← aliasName with
  | none => return shape
  | some _ =>
    let _ ← need "this" "core.Alias" shape
    return some .other

end DartModels.Sql
