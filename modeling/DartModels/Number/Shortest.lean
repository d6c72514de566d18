import DartModels.Number.Binary64

namespace DartModels.Binary64

/-- The reals that round to `mantissa · 2 ^ exponent`, and that value itself, as
    numerators over one denominator. -/
structure Neighbourhood where
  low : Nat
  value : Nat
  high : Nat
  denominator : Nat
  closed : Bool

/-- The lower half of the neighbourhood is half as wide where the binary order
    changes, and the ends belong to it when the mantissa is even. -/
def neighbourhood (mantissa : Nat) (exponent : Int) : Neighbourhood :=
  let unit := if 0 ≤ exponent then Nat.pow 2 exponent.toNat else 1
  let denominator := if 0 ≤ exponent then 1 else Nat.pow 2 (-exponent).toNat
  let below := if mantissa = Nat.pow 2 52 ∧ leastExponent < exponent then unit else 2 * unit
  let value := 4 * mantissa * unit
  { low := value - below, value, high := value + 2 * unit, denominator := 4 * denominator,
    closed := mantissa % 2 = 0 }

/-- The multiple of `10 ^ place` that lies in the neighbourhood, if one does: of
    two such neighbours of the value the nearer, an exact tie going to the even one. -/
def Neighbourhood.onGrid (n : Neighbourhood) (place : Int) : Option Nat :=
  let step := n.denominator * (if 0 ≤ place then Nat.pow 10 place.toNat else 1)
  let scale := if 0 ≤ place then 1 else Nat.pow 10 (-place).toNat
  let within (c : Nat) : Bool :=
    if n.closed then n.low * scale ≤ c * step && c * step ≤ n.high * scale
    else n.low * scale < c * step && c * step < n.high * scale
  let lower := n.value * scale / step
  let upper := lower + 1
  match within lower, within upper with
  | true, true =>
    let below := n.value * scale - lower * step
    let above := upper * step - n.value * scale
    if below < above then some lower
    else if above < below then some upper
    else some (lower + lower % 2)
  | true, false => some lower
  | false, true => some upper
  | false, false => none

/-- The number of digits before the decimal point, negative or zero when the
    first digit stands behind it. -/
def decimalOrder (mantissa : Nat) (exponent : Int) : Int :=
  let shifted :=
    if 0 ≤ exponent then mantissa * Nat.pow 2 exponent.toNat * Nat.pow 10 400
    else mantissa * Nat.pow 10 400 / Nat.pow 2 (-exponent).toNat
  ((Nat.toDigits 10 shifted).length : Int) - 400

/-- The decimal with the fewest digits that rounds to `mantissa · 2 ^ exponent`,
    as whole digits and the power of ten that they are multiplied with. -/
def shortest (mantissa : Nat) (exponent : Int) : Nat × Int :=
  let n := neighbourhood mantissa exponent
  let order := decimalOrder mantissa exponent
  let found := (List.range 17).findSome? fun (count : Nat) =>
    let place := order - (count + 1)
    (n.onGrid place).map fun digits => (digits, place)
  found.getD (0, 0)

/-- The digits without the zeros at their end. -/
def significantDigits (digits : Nat) : List Char :=
  ((Nat.toDigits 10 digits).reverse.dropWhile (· == '0')).reverse

/-- The exponent of a number in scientific notation: its sign and at least two
    digits. -/
def exponentText (exponent : Int) : List Char :=
  let digits := Nat.toDigits 10 exponent.natAbs
  (if exponent < 0 then '-' else '+') :: (List.replicate (2 - digits.length) '0' ++ digits)

/-- The text of a positive number: positional from `10 ^ -4` up to, but without,
    `10 ^ 16`, always with a digit behind the point; otherwise scientific, where a
    single digit has no point. -/
def magnitudeText (mantissa : Nat) (exponent : Int) : List Char :=
  let (value, place) := shortest mantissa exponent
  let digits := significantDigits value
  let point : Int := (Nat.toDigits 10 value).length + place
  if -4 < point ∧ point ≤ 16 then
    if point ≤ 0 then '0' :: '.' :: (List.replicate (-point).toNat '0' ++ digits)
    else
      let whole := digits.take point.toNat
      let padding := List.replicate (point.toNat - digits.length) '0'
      let fraction := digits.drop point.toNat
      whole ++ padding ++ '.' :: (if fraction.isEmpty then ['0'] else fraction)
  else
    let head := digits.take 1
    let tail := digits.drop 1
    head ++ (if tail.isEmpty then [] else '.' :: tail) ++ 'e' :: exponentText (point - 1)

/-- The sign of a number in front of its text. -/
def signed (negative : Bool) (text : List Char) : String :=
  String.ofList (if negative then '-' :: text else text)

/-- The shortest text that reads back as the number. -/
def text : Binary64 → String
  | .nan => "nan"
  | .infinite negative => signed negative ['i', 'n', 'f']
  | .finite negative 0 _ => signed negative ['0', '.', '0']
  | .finite negative mantissa exponent => signed negative (magnitudeText mantissa exponent)

end DartModels.Binary64
