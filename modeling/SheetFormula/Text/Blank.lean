import SheetFormula.Text.CodeRanges
/-!
Blank characters. A blank separates tokens and is trimmed from the ends of a line: the
characters of general category Zs, and those of bidirectional class B, S or WS, which adds the
ASCII tab and line controls, the four information separators U+001C to U+001F, U+0085 and the
line and paragraph separators. The table follows Unicode 14.0.
-/

namespace SheetFormula.Text

def blankRanges : CodeRanges := [
  (0x9, 0xD), (0x1C, 0x20), (0x85, 0x85), (0xA0, 0xA0), (0x1680, 0x1680), (0x2000, 0x200A),
  (0x2028, 0x2029), (0x202F, 0x202F), (0x205F, 0x205F), (0x3000, 0x3000)
]

def isBlank (c : Char) : Bool :=
  blankRanges.contains c.toNat

theorem isBlank_of_isWhitespace (c : Char) (h : c.isWhitespace = true) : isBlank c = true := by
  simp only [Char.isWhitespace, Bool.or_eq_true, decide_eq_true_eq] at h
  rcases h with ((h | h) | h) | h <;> subst h <;> decide

def trimBlanks (cs : List Char) : List Char :=
  ((cs.dropWhile isBlank).reverse.dropWhile isBlank).reverse

def trimBlank (s : String) : String :=
  String.ofList (trimBlanks s.toList)

example : trimBlank "　 =A1\x1f\n" = "=A1" := by decide
example : isBlank '\u3000' = true ∧ isBlank '\x1c' = true ∧ isBlank '\u200b' = false := by decide

end SheetFormula.Text
