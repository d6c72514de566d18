import DartModels.Json.Basic
import DartModels.Text.Quoted

namespace DartModels.Json

/-- How a written value is laid out: on one line, or with every item and member
    on a line of its own, indented by a number of spaces for each level. -/
inductive Layout where
  | oneLine
  | indented (width : Nat)

/-- What stands in front of an item at some level. -/
def Layout.lineBreak (layout : Layout) (level : Nat) : List Char :=
  match layout with
  | .oneLine => []
  | .indented width => '\n' :: List.replicate (width * level) ' '

/-- What stands between two items at some level. -/
def Layout.separator (layout : Layout) (level : Nat) : List Char :=
  match layout with
  | .oneLine => [',', ' ']
  | .indented _ => ',' :: layout.lineBreak level

/-- The escape of one code unit. -/
def unitEscape (unit : Nat) : List Char :=
  '\\' :: 'u' :: Text.hexDigits 4 unit

/-- The spelling of a character in a written text, which is plain ASCII. A
    character beyond the basic plane is written as two halves. -/
def escaped (c : Char) : List Char :=
  let n := c.toNat
  if c == '"' || c == '\\' then ['\\', c]
  else if 0x20 ≤ n && n ≤ 0x7e then [c]
  else if c == '\n' then ['\\', 'n']
  else if c == '\r' then ['\\', 'r']
  else if c == '\t' then ['\\', 't']
  else if c == '\x0c' then ['\\', 'f']
  else if c == '\x08' then ['\\', 'b']
  else if n < 0x10000 then unitEscape n
  else unitEscape (0xd800 + (n - 0x10000) / 0x400) ++ unitEscape (0xdc00 + (n - 0x10000) % 0x400)

/-- A written text. -/
def writeText (s : String) : List Char :=
  '"' :: (s.toList.flatMap escaped ++ ['"'])

/-- A written whole number. -/
def writeInt (n : Int) : List Char :=
  if n < 0 then '-' :: Nat.toDigits 10 n.natAbs else Nat.toDigits 10 n.natAbs

/-- A written number with a fraction or exponent, and the names of those that
    have no digits. -/
def writeFloat : Binary64 → List Char
  | .nan => ['N', 'a', 'N']
  | .infinite false => "Infinity".toList
  | .infinite true => "-Infinity".toList
  | x => x.text.toList

mutual

/-- Writes a value that stands at some level. -/
def write (layout : Layout) (level : Nat) : Json → List Char
  | .null => ['n', 'u', 'l', 'l']
  | .bool true => ['t', 'r', 'u', 'e']
  | .bool false => ['f', 'a', 'l', 's', 'e']
  | .int value => writeInt value
  | .float value => writeFloat value
  | .text value => writeText value
  | .array [] => ['[', ']']
  | .array (item :: items) =>
    '[' :: (layout.lineBreak (level + 1) ++ (write layout (level + 1) item ++
      (writeItems layout (level + 1) items ++ (layout.lineBreak level ++ [']']))))
  | .object [] => ['\x7b', '\x7d']
  | .object ((name, value) :: members) =>
    '\x7b' :: (layout.lineBreak (level + 1) ++ (writeText name ++ (':' :: ' ' ::
      (write layout (level + 1) value ++
        (writeMembers layout (level + 1) members ++ (layout.lineBreak level ++ ['\x7d']))))))

/-- Writes the items behind the first one, each after a separator. -/
def writeItems (layout : Layout) (level : Nat) : List Json → List Char
  | [] => []
  | item :: items =>
    layout.separator level ++ (write layout level item ++ writeItems layout level items)

/-- Writes the members behind the first one, each after a separator. -/
def writeMembers (layout : Layout) (level : Nat) : Members → List Char
  | [] => []
  | (name, value) :: members =>
    layout.separator level ++ (writeText name ++ (':' :: ' ' ::
      (write layout level value ++ writeMembers layout level members)))

end

/-- The text of a value. -/
def print (layout : Layout) (value : Json) : String :=
  String.ofList (write layout 0 value)

end DartModels.Json
