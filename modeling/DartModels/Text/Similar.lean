import DartModels.Text.Sorted

namespace DartModels.Text

/-- The number of characters that two texts have in common at their start. -/
def commonStart : List Char → List Char → Nat
  | x :: xs, y :: ys => if x = y then commonStart xs ys + 1 else 0
  | _, _ => 0

/-- A run of characters that occurs in two texts: where it starts in each, and how
    long it is. -/
structure Overlap where
  first : Nat
  second : Nat
  length : Nat

/-- The longer of two runs, the first one if they are equally long. -/
def Overlap.longer (x y : Overlap) : Overlap :=
  if x.length < y.length then y else x

/-- The longest run that starts at the start of the first text. -/
def longestAt (xs : List Char) (first : Nat) : (second : Nat) → List Char → Overlap
  | second, [] => ⟨first, second, 0⟩
  | second, y :: ys =>
    let here : Overlap := ⟨first, second, commonStart xs (y :: ys)⟩
    here.longer (longestAt xs first (second + 1) ys)

/-- The longest run that occurs in two texts, the one that starts first if there
    are several. -/
def longestOverlap (ys : List Char) : (first : Nat) → List Char → Overlap
  | first, [] => ⟨first, 0, 0⟩
  | first, x :: xs =>
    Overlap.longer (longestAt (x :: xs) first 0 ys) (longestOverlap ys (first + 1) xs)

/-- The number of characters that two texts share: those of their longest common
    run, and those that the parts before it and the parts after it share. -/
def shared (xs ys : List Char) : Nat :=
  match longestOverlap ys 0 xs with
  | ⟨first, second, length⟩ =>
    if _ : first < xs.length ∧ 0 < length then
      length + shared (xs.take first) (ys.take second) +
        shared (xs.drop (first + length)) (ys.drop (second + length))
    else 0
termination_by xs.length
decreasing_by
  · simp only [List.length_take]
    omega
  · simp only [List.length_drop]
    omega

/-- Whether at least three fifths of two texts are shared. -/
def isSimilar (x y : String) : Bool :=
  6 * (x.length + y.length) ≤ 20 * shared x.toList y.toList

/-- Whether the first of two candidates is the better match for a word: it shares
    more of the characters, or, with the same share, it is the later text. -/
def isCloser (word x y : String) : Bool :=
  let first := shared x.toList word.toList * (y.length + word.length)
  let second := shared y.toList word.toList * (x.length + word.length)
  second < first || (first == second && y < x)

/-- The candidates that are similar to a word, the best three of them, in the order
    of texts. -/
def similarTo (word : String) (candidates : List String) : List String :=
  sorted (((candidates.filter (isSimilar · word)).mergeSort (isCloser word)).take 3)

end DartModels.Text
