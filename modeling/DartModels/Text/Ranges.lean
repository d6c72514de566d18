namespace DartModels.Text

/-- Whether the code point of a character lies in one of the ranges, given by
    their first and last members. -/
def isWithin (ranges : List (Nat × Nat)) (c : Char) : Bool :=
  ranges.any fun range => range.1 ≤ c.toNat && c.toNat ≤ range.2

end DartModels.Text
