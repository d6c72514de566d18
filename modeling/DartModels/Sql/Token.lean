namespace DartModels.Sql

/-- The letters that stand for a letter when words are compared without regard to
    case. A few letters outside the Latin alphabet count as Latin ones. -/
def capitalsOf (c : Char) : List Char :=
  match c with
  | 'ß' => ['S', 'S']
  | 'ı' => ['I']
  | 'ſ' => ['S']
  | 'ﬀ' => ['F', 'F']
  | 'ﬁ' => ['F', 'I']
  | 'ﬂ' => ['F', 'L']
  | 'ﬃ' => ['F', 'F', 'I']
  | 'ﬄ' => ['F', 'F', 'L']
  | 'ﬅ' => ['S', 'T']
  | 'ﬆ' => ['S', 'T']
  | c => [c.toUpper]

/-- A word in capitals. -/
def inCapitals (word : String) : String :=
  String.ofList (word.toList.flatMap capitalsOf)

/-- The smallest parts that an expression is made of. -/
inductive Token where
  /-- A word, as it is written and in capitals. -/
  | word (spelling capitals : String)
  /-- A word behind the mark of a parameter, where no word is a keyword. -/
  | parameter (spelling capitals : String)
  /-- A name in quotes. -/
  | quoted (name : String)
  /-- A plain text. -/
  | text (content : String)
  /-- A text in another notation: national, or between dollars. -/
  | otherText
  /-- A value that is written as bytes: with escapes, in base two or sixteen. -/
  | bytes
  | number
  /-- One or more characters that are neither word nor text. -/
  | mark (spelling : String)
  | comment
deriving DecidableEq, Repr, Inhabited

namespace Token

/-- A word, which may be a keyword. -/
def ofWord (spelling : String) : Token :=
  .word spelling (inCapitals spelling)

/-- What a token says as a name. -/
def name : Token → String
  | .word spelling _ | .parameter spelling _ | .quoted spelling => spelling
  | .text content => content
  | .mark spelling => spelling
  | .otherText | .bytes | .number | .comment => ""

/-- What a token says in capitals. -/
def capitals : Token → String
  | .word _ capitals | .parameter _ capitals => capitals
  | token => inCapitals token.name

/-- Whether a token is a certain keyword. -/
def isKeyword (token : Token) (keyword : String) : Bool :=
  match token with
  | .word _ capitals => capitals == keyword
  | _ => false

/-- Whether a token is one of some keywords. -/
def isOneOf (token : Token) (keywords : List String) : Bool :=
  match token with
  | .word _ capitals => keywords.contains capitals
  | _ => false

/-- Whether a token says a word, as a keyword, a name or a name in quotes. -/
def spells (token : Token) (word : String) : Bool :=
  match token with
  | .text _ => false
  | token => token.capitals == word

/-- Whether a token is a name in quotes. -/
def isQuoted : Token → Bool
  | .quoted _ => true
  | _ => false

/-- Whether a token is a plain text. -/
def isText : Token → Bool
  | .text _ => true
  | _ => false

/-- Whether a token is a text in any notation. -/
def isAnyText : Token → Bool
  | .text _ | .otherText => true
  | _ => false

/-- Whether a token is the mark of a parameter. -/
def marksParameter (token : Token) : Bool :=
  token == .mark "@" || token == .mark "$"

end Token

/-- A token with the characters from its start on, and those behind it. -/
structure Placed where
  token : Token
  ahead : List Char
  behind : List Char
deriving Repr, Inhabited

end DartModels.Sql
