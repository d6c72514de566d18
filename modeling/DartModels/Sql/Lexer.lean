import DartModels.Sql.Token
import DartModels.Text.Blank
import DartModels.Text.Digit

namespace DartModels.Sql

/-- The characters that end a word, and are tokens by themselves where no longer
    token fits. -/
def markCharacters : List Char := "()[]\x7b\x7d&^:,-.=><%!|+;/\\*~?@#'`\"".toList

/-- The tokens of more than one character that are no words. -/
def longMarks : List String :=
  ["::", "?::", "||", "||/", "|/", "|>", "->", "->>", "=>", "#>", "#>>", "#-", "<=", ">=", "<>",
    "!=", "<=>", "<->", "==", ":=", "&&", "&<", "&>", "-|-", "@>", "<@", "@@", "?&", "?|", "??",
    "@?", "^@", "~~", "~~~", "~~*", "~*", "\x7b%", "\x7b%+", "\x7b%-", "%\x7d", "+%\x7d", "-%\x7d",
    "\x7b\x7b+", "\x7b\x7b-", "+\x7d\x7d", "-\x7d\x7d"]

/-- The keywords that are two words. -/
def compoundKeywords : List (List Char × List Char) :=
  [("CHAR", "VARYING"), ("CHARACTER", "SET"), ("CHARACTER", "VARYING"), ("CLUSTER", "BY"),
    ("CONNECT", "BY"), ("CONSTRAINT", "TRIGGER"), ("DISTRIBUTE", "BY"), ("DOUBLE", "PRECISION"),
    ("FOR", "TIMESTAMP"), ("FOR", "VERSION"), ("FOREIGN", "KEY"), ("GROUP", "BY"),
    ("GROUPING", "SETS"), ("ORDER", "BY"), ("PARTITION", "BY"), ("PARTITIONED", "BY"),
    ("PRIMARY", "KEY"), ("SIMILAR", "TO"), ("SORT", "BY"), ("START", "WITH")].map
    fun (first, second) => (first.toList, second.toList)

/-- The keyword that has a hyphen inside. -/
def hyphenKeyword : String := "USER-DEFINED"

/-- Whether a character goes on a word. -/
def continuesWord (c : Char) : Bool :=
  !Text.isBlank c && !markCharacters.contains c

/-- Whether a character goes on a number in another base. -/
def continuesDigits (c : Char) : Bool :=
  continuesWord c && c != '$'

/-- Whether a word may end in front of some characters. -/
def isWordEnd : List Char → Bool
  | [] => true
  | c :: _ => !continuesDigits c

/-- What follows a word in capitals, whatever the case in which it is written. -/
def afterWord : (capitals : List Char) → List Char → Option (List Char)
  | [], cs => some cs
  | _ :: _, [] => none
  | expected, c :: rest =>
    if (capitalsOf c).isPrefixOf expected then
      afterWord (expected.drop (capitalsOf c).length) rest
    else none

/-- The keyword of more than one word that some characters start with, and what
    follows it. One with a hyphen ends wherever it does. -/
def compound? (cs : List Char) : Option (String × List Char) :=
  match afterWord hyphenKeyword.toList cs with
  | some rest => some (hyphenKeyword, rest)
  | none =>
    compoundKeywords.findSome? fun (first, second) =>
      match afterWord first cs with
      | some (c :: rest) =>
        if Text.isBlank c then
          match afterWord second (rest.dropWhile Text.isBlank) with
          | some rest =>
            if isWordEnd rest then some (String.ofList (first ++ ' ' :: second), rest) else none
          | none => none
        else none
      | _ => none

/-- The inside of a quoted run, in which a quote is written twice, and what follows
    its end. -/
def readQuoted (quote : Char) : List Char → Option (List Char × List Char)
  | [] => none
  | [c] => if c = quote then some ([], []) else none
  | c :: d :: rest =>
    if c = quote then
      if d = quote then
        (readQuoted quote rest).map fun (content, rest) => (quote :: content, rest)
      else some ([], d :: rest)
    else (readQuoted quote (d :: rest)).map fun (content, rest) => (c :: content, rest)

/-- What follows a quoted run in which a backslash may escape a quote or another
    backslash. -/
def skipEscaped : List Char → Option (List Char)
  | [] => none
  | '\\' :: '\\' :: rest => skipEscaped rest
  | '\\' :: '\'' :: rest => skipEscaped rest
  | '\'' :: '\'' :: rest => skipEscaped rest
  | '\'' :: rest => some rest
  | _ :: rest => skipEscaped rest

/-- What follows the next occurrence of some characters. -/
def skipPast (stop : List Char) : List Char → Option (List Char)
  | [] => none
  | c :: rest =>
    if stop.isPrefixOf (c :: rest) then some ((c :: rest).drop stop.length)
    else skipPast stop rest

/-- What follows a comment between two pairs of characters. A comment inside counts
    only if it does not come first. Without an end the comment takes the rest. -/
def skipComment (opening closing : Char × Char) : (nesting : Nat) → List Char → List Char
  | _, [] => []
  | _, [_] => []
  | nesting, c :: d :: rest =>
    let nesting := if (c, d) = closing then nesting - 1 else nesting
    if nesting = 0 then rest
    else
      match rest with
      | e :: after =>
        if (d, e) = opening then skipComment opening closing (nesting + 1) after
        else skipComment opening closing nesting (d :: e :: after)
      | [] => []
termination_by _ cs => cs.length

/-- The value of a digit. -/
def digitValue? (c : Char) : Option Nat :=
  if c.isDigit then some (c.toNat - '0'.toNat)
  else if 'a' ≤ c ∧ c ≤ 'z' then some (c.toNat - 'a'.toNat + 10)
  else if 'A' ≤ c ∧ c ≤ 'Z' then some (c.toNat - 'A'.toNat + 10)
  else none

/-- Whether some characters are digits of a base. An underscore may stand between
    two of them. -/
def areDigits (base : Nat) : List Char → Bool
  | [] => false
  | [c] => (digitValue? c).any (· < base)
  | c :: '_' :: rest => (digitValue? c).any (· < base) && areDigits base rest
  | c :: rest => (digitValue? c).any (· < base) && areDigits base rest

/-- Whether some characters are a number of a base: digits, behind a sign and the
    mark of the base if these are there, between blanks. -/
def isNumberOf (base : Nat) (letters : List Char) (cs : List Char) : Bool :=
  let cs := Text.trimBlanks cs
  let cs :=
    match cs with
    | '+' :: rest | '-' :: rest => rest
    | cs => cs
  match cs with
  | '0' :: letter :: '_' :: rest =>
    areDigits base (if letters.contains letter then rest else cs)
  | '0' :: letter :: rest => areDigits base (if letters.contains letter then rest else cs)
  | cs => areDigits base cs

/-- What follows a number: its digits, with one point and one exponent in any place
    among them. Behind the mark of a parameter there is no point. -/
def skipNumber (hasPoint : Bool) : (exponentSigns : Option Nat) → List Char → List Char
  | _, [] => []
  | exponentSigns, c :: rest =>
    if c.isDigit then skipNumber hasPoint exponentSigns rest
    else if c = '.' ∧ !hasPoint then skipNumber true exponentSigns rest
    else
      match exponentSigns with
      | none => if c = 'e' ∨ c = 'E' then skipNumber hasPoint (some 0) rest else c :: rest
      | some 0 =>
        if (c = '-' ∨ c = '+') ∧ rest.head?.any Char.isDigit then
          skipNumber hasPoint (some 1) rest
        else c :: rest
      | some _ => c :: rest

/-- Reads a number, the first digit of which is there. A number in base two or sixteen that is
    none is a name. -/
def readNumber (afterParameter : Bool) (first : Char) (rest : List Char) : Token × List Char :=
  let inBase (base : Nat) (letters : List Char) : Token × List Char :=
    let digits := first :: rest.takeWhile continuesDigits
    let token := if isNumberOf base letters digits then .bytes else .quoted (String.ofList digits)
    (token, rest.dropWhile continuesDigits)
  match first, rest with
  | '0', 'b' :: _ | '0', 'B' :: _ => inBase 2 ['b', 'B']
  | '0', 'x' :: _ | '0', 'X' :: _ => inBase 16 ['x', 'X']
  | _, rest => (.number, skipNumber afterParameter none rest)

/-- Reads what a dollar sign starts: a text between dollar signs, which may hold a
    tag, or else the mark of a parameter. -/
def readDollar (rest : List Char) : Option (Token × List Char) :=
  let tag := rest.takeWhile (· != '$')
  match rest.dropWhile (· != '$') with
  | '$' :: body =>
    if tag != [] ∧ (body.isEmpty ∨ tag.all Text.isDigit ∨ tag.any Text.isBlank) then
      some (.mark "$", rest)
    else (skipPast ('$' :: (tag ++ ['$'])) body).map fun rest => (.otherText, rest)
  | _ => if rest.isEmpty then none else some (.mark "$", rest)

/-- Reads a text with a letter in front that tells its notation. -/
def readLettered (letter : Char) (rest : List Char) : Option (Token × List Char) :=
  if letter = 'E' then (skipEscaped rest).map fun rest => (.bytes, rest)
  else
    match readQuoted '\'' rest with
    | none => none
    | some (content, rest) =>
      if letter = 'B' ∧ content != [] ∧ !isNumberOf 2 ['b', 'B'] content then none
      else if letter = 'X' ∧ content != [] ∧ !isNumberOf 16 ['x', 'X'] content then none
      else some (if letter = 'N' then .otherText else .bytes, rest)

/-- Reads a word. Behind the mark of a parameter it is no keyword. -/
def readWord (afterParameter : Bool) (cs : List Char) : Token × List Char :=
  let spelling := String.ofList (cs.take 1 ++ (cs.drop 1).takeWhile continuesWord)
  let token :=
    if afterParameter then .parameter spelling (inCapitals spelling) else Token.ofWord spelling
  (token, (cs.drop 1).dropWhile continuesWord)

/-- The longest of the marks that some characters start with. -/
def longMark? (cs : List Char) : Option String :=
  longMarks.foldl (fun found mark =>
    if mark.toList.isPrefixOf cs ∧ found.all (·.length < mark.length) then some mark else found)
    none

/-- Reads the token that some characters start with, which is no blank. A text
    without an end is no token. -/
def readToken (afterParameter : Bool) (cs : List Char) : Option (Token × List Char) :=
  match cs with
  | [] => none
  | '-' :: '-' :: rest => some (.comment, rest.dropWhile fun c => c != '\n' && c != '\r')
  | '/' :: '*' :: rest => some (.comment, skipComment ('/', '*') ('*', '/') 1 rest)
  | '\x7b' :: '#' :: rest => some (.comment, skipComment ('\x7b', '#') ('#', '\x7d') 1 rest)
  | '\'' :: rest =>
    (readQuoted '\'' rest).map fun (content, rest) => (.text (String.ofList content), rest)
  | '"' :: rest =>
    (readQuoted '"' rest).map fun (content, rest) => (.quoted (String.ofList content), rest)
  | '$' :: rest => readDollar rest
  | c :: rest =>
    match rest with
    | '\'' :: inside =>
      if ['B', 'E', 'N', 'X'].contains c.toUpper then readLettered c.toUpper inside
      else if c.isDigit then some (readNumber afterParameter c rest)
      else if continuesWord c then some (readWord afterParameter cs)
      else some (.mark (String.ofList [c]), rest)
    | _ =>
      if c.isDigit then some (readNumber afterParameter c rest)
      else
        match longMark? cs with
        | some mark => some (.mark mark, cs.drop mark.length)
        | none =>
          if continuesWord c then
            match compound? cs with
            | some (keyword, rest) => some (.word keyword keyword, rest)
            | none => some (readWord afterParameter cs)
          else some (.mark (String.ofList [c]), rest)

/-- The tokens of a text, comments among them, or none where a text has no end. Each
    step takes a character at least, which bounds their number. -/
def readTokens : (limit : Nat) → (afterParameter : Bool) → List Char → Option (List Placed)
  | 0, _, _ => some []
  | _ + 1, _, [] => some []
  | limit + 1, afterParameter, c :: rest =>
    if Text.isBlank c then readTokens limit afterParameter rest
    else
      match readToken afterParameter (c :: rest) with
      | none => none
      | some (token, behind) =>
        let afterParameter := token.marksParameter || (token == .comment && afterParameter)
        (readTokens limit afterParameter behind).map
          ({ token, ahead := c :: rest, behind } :: ·)

/-- The tokens of an expression, comments among them. -/
def tokens? (expression : List Char) : Option (List Placed) :=
  readTokens (expression.length + 1) false expression

end DartModels.Sql
