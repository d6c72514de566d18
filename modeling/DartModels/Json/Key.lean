import DartModels.Json.Basic

namespace DartModels.Json

/-- What decides whether two values name the same entry of a table. Numbers are
    compared by value, so `1`, `1.0` and `true` are one key: `numerator / 2 ^ halvings`
    in lowest terms. -/
inductive Key where
  | null
  | number (numerator : Int) (halvings : Nat)
  | infinite (negative : Bool)
  | nan
  | text (value : String)
deriving DecidableEq, Repr

/-- Lowest terms of `numerator / 2 ^ halvings`. -/
def lowestTerms (numerator : Nat) : Nat → Nat × Nat
  | 0 => (numerator, 0)
  | halvings + 1 =>
    if numerator % 2 = 0 then lowestTerms (numerator / 2) halvings
    else (numerator, halvings + 1)

/-- The key of a number. -/
def Key.ofBinary64 : Binary64 → Key
  | .nan => .nan
  | .infinite negative => .infinite negative
  | .finite negative mantissa exponent =>
    let (numerator, halvings) :=
      if 0 ≤ exponent then (mantissa * Nat.pow 2 exponent.toNat, 0)
      else lowestTerms mantissa (-exponent).toNat
    .number (if negative then -numerator else numerator) halvings

/-- The key of a value; arrays and objects have none. -/
def key? : Json → Option Key
  | .null => some .null
  | .bool value => some (.number (if value then 1 else 0) 0)
  | .int value => some (.number value 0)
  | .float value => some (.ofBinary64 value)
  | .text value => some (.text value)
  | .array _ => none
  | .object _ => none

mutual

/-- Whether two values are the same item: numbers by value, objects whatever the
    order of their members. As an item, `nan` is the same as itself. -/
def same : Json → Json → Bool
  | .array xs, .array ys => sameItems xs ys
  | .object xs, .object ys => xs.length == ys.length && sameMembers xs ys
  | x, y =>
    match x.key?, y.key? with
    | some k, some l => k == l
    | _, _ => false

/-- Whether two arrays have the same items. -/
def sameItems : List Json → List Json → Bool
  | [], [] => true
  | x :: xs, y :: ys => same x y && sameItems xs ys
  | _, _ => false

/-- Whether every member of the first object is the same in the second. -/
def sameMembers : Members → Members → Bool
  | [], _ => true
  | (name, x) :: xs, ys =>
    (match ys.lookup name with
      | some y => same x y
      | none => false) && sameMembers xs ys

end

/-- Equality of two values as they stand. By itself, `nan` is equal to nothing. -/
def equals : Json → Json → Bool
  | .float .nan, _ => false
  | x, y => x.same y

/-- Whether the first of two keys comes before the second; `none` where values
    of their kinds have no order. -/
def Key.precedes? : Key → Key → Option Bool
  | .text x, .text y => some (x < y)
  | .number n a, .number m b => some (n * Nat.pow 2 b < m * Nat.pow 2 a)
  | .number _ _, .infinite negative => some !negative
  | .infinite negative, .number _ _ => some negative
  | .infinite x, .infinite y => some (x && !y)
  | .nan, .number _ _ | .nan, .infinite _ | .nan, .nan => some false
  | .number _ _, .nan | .infinite _, .nan => some false
  | _, _ => none

mutual

/-- Whether the first of two values comes before the second; `none` where values
    of their kinds have no order. Texts are ordered by code points and arrays by
    their first difference. -/
def precedes? : Json → Json → Option Bool
  | .array xs, .array ys => precedesItems? xs ys
  | x, y =>
    match x.key?, y.key? with
    | some k, some l => k.precedes? l
    | _, _ => none

/-- The order of arrays: the first items that differ decide. -/
def precedesItems? : List Json → List Json → Option Bool
  | [], ys => some !ys.isEmpty
  | _ :: _, [] => some false
  | x :: xs, y :: ys => if same x y then precedesItems? xs ys else precedes? x y

end

end DartModels.Json
