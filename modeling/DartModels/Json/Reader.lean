import DartModels.Json.Basic
import DartModels.Text.Half

namespace DartModels.Json

/-- Why a text is not JSON. -/
inductive SyntaxFault where
  | byteOrderMark
  | expectingValue
  | expectingName
  | expectingColon
  | expectingComma
  | extraData
  | unterminatedText
  | controlCharacter
  | invalidEscape
  | invalidCodeEscape
deriving DecidableEq, Repr

/-- What the fault is called. -/
def SyntaxFault.message : SyntaxFault → String
  | .byteOrderMark => "Unexpected UTF-8 BOM (decode using utf-8-sig)"
  | .expectingValue => "Expecting value"
  | .expectingName => "Expecting property name enclosed in double quotes"
  | .expectingColon => "Expecting ':' delimiter"
  | .expectingComma => "Expecting ',' delimiter"
  | .extraData => "Extra data"
  | .unterminatedText => "Unterminated string starting at"
  | .controlCharacter => "Invalid control character at"
  | .invalidEscape => "Invalid \\escape"
  | .invalidCodeEscape => "Invalid \\uXXXX escape"

/-- A fault and the text from the place of the fault on. -/
structure SyntaxError where
  fault : SyntaxFault
  rest : List Char

/-- Why a text cannot be read: it is no JSON, or a whole number in it has too many digits. -/
inductive ReadError where
  | malformed (error : SyntaxError)
  | tooManyDigits

/-- Whether a value is anything but a whole number of too many digits, if there is a limit
    to them. -/
def hasFewDigits (limit : Option Nat) : Json → Bool
  | .int value => limit.all fun most => (Nat.toDigits 10 value.natAbs).length ≤ most
  | _ => true

variable [Text.HalfBlock]

/-- The blanks that may stand between the parts of a value. -/
def isGap (c : Char) : Bool :=
  c == ' ' || c == '\t' || c == '\n' || c == '\r'

/-- The text without the blanks at its start. -/
def skipGap (cs : List Char) : List Char :=
  cs.dropWhile isGap

/-- The value of a hexadecimal digit. -/
def hexDigit? (c : Char) : Option Nat :=
  if '0' ≤ c && c ≤ '9' then some (c.toNat - '0'.toNat)
  else if 'a' ≤ c && c ≤ 'f' then some (c.toNat - 'a'.toNat + 10)
  else if 'A' ≤ c && c ≤ 'F' then some (c.toNat - 'A'.toNat + 10)
  else none

/-- The code unit of four hexadecimal digits. -/
def codeUnit? (a b c d : Char) : Option Nat :=
  match hexDigit? a, hexDigit? b, hexDigit? c, hexDigit? d with
  | some a, some b, some c, some d => some (((a * 16 + b) * 16 + c) * 16 + d)
  | _, _, _, _ => none

/-- The first half of a character beyond the basic plane. -/
def isHighSurrogate (unit : Nat) : Bool :=
  0xd800 ≤ unit && unit ≤ 0xdbff

/-- The second half of a character beyond the basic plane. -/
def isLowSurrogate (unit : Nat) : Bool :=
  0xdc00 ≤ unit && unit ≤ 0xdfff

/-- The character of two surrogate halves. -/
def joinSurrogates (high low : Nat) : Char :=
  Char.ofNat (0x10000 + (high - 0xd800) * 0x400 + (low - 0xdc00))

/-- The character of one code unit. For a half that stands alone it is a stand-in. -/
def ofCodeUnit (unit : Nat) : Char :=
  if isHighSurrogate unit || isLowSurrogate unit then Text.ofHalf unit else Char.ofNat unit

/-- The character of a one-letter escape. -/
def simpleEscape? : Char → Option Char
  | '"' => some '"'
  | '\\' => some '\\'
  | '/' => some '/'
  | 'b' => some '\x08'
  | 'f' => some '\x0c'
  | 'n' => some '\n'
  | 'r' => some '\r'
  | 't' => some '\t'
  | _ => none

/-- What follows the first half of a character. -/
inductive FollowingUnit where
  | absent
  | malformed
  | unit (value : Nat)

/-- The code escape at the start of a text, if something follows it. -/
def followingUnit : List Char → FollowingUnit
  | '\\' :: 'u' :: a :: b :: c :: d :: _ :: _ =>
    match codeUnit? a b c d with
    | some value => .unit value
    | none => .malformed
  | _ => .absent

/-- Puts a character in front of what the rest of a text reads as. -/
def prepend (c : Char) (reading : Except SyntaxError (List Char × List Char)) :
    Except SyntaxError (List Char × List Char) :=
  reading.map fun (cs, rest) => (c :: cs, rest)

/-- Reads the inside of a text and its closing quote. A code escape is complete
    only if something follows it. -/
def readText : List Char → Except SyntaxError (List Char × List Char)
  | [] => .error ⟨.unterminatedText, []⟩
  | '"' :: rest => .ok ([], rest)
  | '\\' :: 'u' :: a :: b :: c :: d :: e :: rest =>
    match codeUnit? a b c d with
    | none => .error ⟨.invalidCodeEscape, '\\' :: 'u' :: a :: b :: c :: d :: e :: rest⟩
    | some unit =>
      if isHighSurrogate unit then
        match followingUnit (e :: rest) with
        | .malformed => .error ⟨.invalidCodeEscape, e :: rest⟩
        | .unit low =>
          if isLowSurrogate low then
            prepend (joinSurrogates unit low) (readText (rest.drop 5))
          else prepend (ofCodeUnit unit) (readText (e :: rest))
        | .absent => prepend (ofCodeUnit unit) (readText (e :: rest))
      else prepend (ofCodeUnit unit) (readText (e :: rest))
  | '\\' :: 'u' :: rest => .error ⟨.invalidCodeEscape, '\\' :: 'u' :: rest⟩
  | '\\' :: c :: rest =>
    match simpleEscape? c with
    | none => .error ⟨.invalidEscape, '\\' :: c :: rest⟩
    | some escaped => prepend escaped (readText rest)
  | '\\' :: [] => .error ⟨.unterminatedText, []⟩
  | c :: rest =>
    if c.toNat < 0x20 then .error ⟨.controlCharacter, c :: rest⟩
    else prepend c (readText rest)
termination_by cs => cs.length

/-- The digits at the start of a text, and what follows them. -/
def spanDigits (cs : List Char) : List Char × List Char :=
  (cs.takeWhile Char.isDigit, cs.dropWhile Char.isDigit)

/-- The whole part of a number: a zero, or digits that do not start with one. -/
def readWhole : List Char → Option (List Char × List Char)
  | '0' :: rest => some (['0'], rest)
  | cs =>
    match spanDigits cs with
    | ([], _) => none
    | (digits, rest) => some (digits, rest)

/-- The digits behind a decimal point, none if no digit follows it. -/
def readFraction : List Char → List Char × List Char
  | '.' :: rest =>
    match spanDigits rest with
    | ([], _) => ([], '.' :: rest)
    | (digits, rest) => (digits, rest)
  | cs => ([], cs)

/-- The sign in front of an exponent's digits. -/
def readSign : List Char → Bool × List Char
  | '-' :: rest => (true, rest)
  | '+' :: rest => (false, rest)
  | cs => (false, cs)

/-- The exponent, if a complete one follows. -/
def readExponent (cs : List Char) : Option Int × List Char :=
  match cs with
  | c :: rest =>
    if c = 'e' ∨ c = 'E' then
      let (negative, unsigned) := readSign rest
      match spanDigits unsigned with
      | ([], _) => (none, cs)
      | (digits, rest) =>
        let size : Int := Nat.ofDigitChars 10 digits 0
        (some (if negative then -size else size), rest)
    else (none, cs)
  | [] => (none, [])

/-- Reads the magnitude of a number. -/
def readMagnitude (negative : Bool) (cs : List Char) : Option (Json × List Char) :=
  (readWhole cs).map fun (whole, rest) =>
    let (fraction, rest) := readFraction rest
    let (exponent, rest) := readExponent rest
    if fraction.isEmpty && exponent.isNone then
      let size : Int := Nat.ofDigitChars 10 whole 0
      (.int (if negative then -size else size), rest)
    else
      let digits := Nat.ofDigitChars 10 (whole ++ fraction) 0
      (.float (.ofDecimal negative digits (exponent.getD 0 - fraction.length)), rest)

/-- Reads a number. -/
def readNumber : List Char → Option (Json × List Char)
  | '-' :: rest => readMagnitude true rest
  | cs => readMagnitude false cs

/-- Reads a value that is neither text, array nor object. -/
def readPlain : List Char → Option (Json × List Char)
  | 'n' :: 'u' :: 'l' :: 'l' :: rest => some (.null, rest)
  | 't' :: 'r' :: 'u' :: 'e' :: rest => some (.bool true, rest)
  | 'f' :: 'a' :: 'l' :: 's' :: 'e' :: rest => some (.bool false, rest)
  | 'N' :: 'a' :: 'N' :: rest => some (.float .nan, rest)
  | 'I' :: 'n' :: 'f' :: 'i' :: 'n' :: 'i' :: 't' :: 'y' :: rest =>
    some (.float (.infinite false), rest)
  | '-' :: 'I' :: 'n' :: 'f' :: 'i' :: 'n' :: 'i' :: 't' :: 'y' :: rest =>
    some (.float (.infinite true), rest)
  | cs => readNumber cs

/-- Reads the inside of a text, as part of a value. -/
def readSpelling (cs : List Char) : Except ReadError (String × List Char) :=
  ((readText cs).map fun (chars, rest) => (String.ofList chars, rest)).mapError .malformed

mutual

/-- Reads a value that starts at once. Every call reads a character or is one of
    two for the same one, which bounds the depth. -/
def readValue (limit : Option Nat) : Nat → List Char → Except ReadError (Json × List Char)
  | 0, cs => .error (.malformed ⟨.expectingValue, cs⟩)
  | _ + 1, '"' :: rest =>
    (readSpelling rest).map fun (spelling, rest) => (.text spelling, rest)
  | depth + 1, '[' :: rest =>
    match skipGap rest with
    | ']' :: rest => .ok (.array [], rest)
    | rest => (readItems limit depth rest).map fun (items, rest) => (.array items, rest)
  | depth + 1, '\x7b' :: rest =>
    match skipGap rest with
    | '\x7d' :: rest => .ok (.object [], rest)
    | rest =>
      (readMembers limit depth rest).map fun (members, rest) => (.object (assign members), rest)
  | _ + 1, cs =>
    match readPlain cs with
    | some (value, rest) =>
      if value.hasFewDigits limit then .ok (value, rest) else .error .tooManyDigits
    | none => .error (.malformed ⟨.expectingValue, cs⟩)

/-- Reads the items of an array that has some, and its closing bracket. -/
def readItems (limit : Option Nat) : Nat → List Char → Except ReadError (List Json × List Char)
  | 0, cs => .error (.malformed ⟨.expectingValue, cs⟩)
  | depth + 1, cs => do
    let (item, rest) ← readValue limit depth cs
    match skipGap rest with
    | ']' :: rest => .ok ([item], rest)
    | ',' :: rest =>
      let (items, rest) ← readItems limit depth (skipGap rest)
      .ok (item :: items, rest)
    | rest => .error (.malformed ⟨.expectingComma, rest⟩)

/-- Reads the members of an object that has some, and its closing brace. -/
def readMembers (limit : Option Nat) : Nat → List Char → Except ReadError (Members × List Char)
  | 0, cs => .error (.malformed ⟨.expectingName, cs⟩)
  | depth + 1, '"' :: rest => do
    let (name, rest) ← readSpelling rest
    match skipGap rest with
    | ':' :: rest =>
      let (value, rest) ← readValue limit depth (skipGap rest)
      match skipGap rest with
      | '\x7d' :: rest => .ok ([(name, value)], rest)
      | ',' :: rest =>
        let (members, rest) ← readMembers limit depth (skipGap rest)
        .ok ((name, value) :: members, rest)
      | rest => .error (.malformed ⟨.expectingComma, rest⟩)
    | rest => .error (.malformed ⟨.expectingColon, rest⟩)
  | _ + 1, cs => .error (.malformed ⟨.expectingName, cs⟩)

end

/-- Reads a text that holds one value and nothing else but blanks, and no whole number of
    more digits than a limit allows. -/
def parseWithin (limit : Option Nat) (text : String) : Except ReadError Json :=
  let cs := text.toList
  match cs with
  | '\ufeff' :: _ => .error (.malformed ⟨.byteOrderMark, cs⟩)
  | _ => do
    let (value, rest) ← readValue limit (2 * cs.length + 2) (skipGap cs)
    match skipGap rest with
    | [] => .ok value
    | rest => .error (.malformed ⟨.extraData, rest⟩)

/-- Reads a text that holds one value, with numbers of any length. -/
def parse (text : String) : Except ReadError Json :=
  parseWithin none text

/-- The most digits of the whole numbers in a text that is loaded. -/
def digitLimit : Option Nat := some 4300

/-- Reads a text that a run is given. -/
def load (text : String) : Except ReadError Json :=
  parseWithin digitLimit text

/-- The number of the line, counted from one, on which the fault lies in the
    text that was read. -/
def SyntaxError.line (error : SyntaxError) (text : String) : Nat :=
  1 + (text.toList.take (text.toList.length - error.rest.length)).count '\n'

end DartModels.Json
