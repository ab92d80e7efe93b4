/-!
Sets of characters written as ascending lists of inclusive code point ranges. The character
classes of this library (blanks, letters and numerals, printable characters, decimal digits)
are tables of this form, and membership is a scan of the list.
-/

namespace SheetFormula.Text

abbrev CodeRanges := List (Nat × Nat)

def CodeRanges.contains (rs : CodeRanges) (n : Nat) : Bool :=
  rs.any fun r => r.1 ≤ n && n ≤ r.2

@[simp]
theorem CodeRanges.contains_iff (rs : CodeRanges) (n : Nat) :
    rs.contains n = true ↔ ∃ r ∈ rs, r.1 ≤ n ∧ n ≤ r.2 := by
  simp [CodeRanges.contains]

end SheetFormula.Text
