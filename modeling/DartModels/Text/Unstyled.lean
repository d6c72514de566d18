namespace DartModels.Text

/-- The character that starts a sequence which styles text on a terminal. -/
def styleEscape : Char := '\x1b'

/-- Whether a character can stand between the bracket and the letter of a sequence. -/
def isStyleParameter (c : Char) : Bool :=
  c.isDigit || c == ';' || c == '?'

/-- What is left of an escape character and the piece behind it: a bracket, parameters and
    the letter that ends them are left out. Without that letter it is no sequence. -/
def afterEscape (piece : List Char) : List Char :=
  match piece with
  | '[' :: rest =>
    match rest.dropWhile isStyleParameter with
    | [] => styleEscape :: piece
    | c :: rest => if c.isAlpha then rest else styleEscape :: piece
  | _ => styleEscape :: piece

/-- A text without the sequences that style it on a terminal. -/
def unstyled (text : String) : String :=
  match text.toList.splitOn styleEscape with
  | [] => ""
  | first :: pieces => String.ofList (first ++ pieces.flatMap afterEscape)

end DartModels.Text
