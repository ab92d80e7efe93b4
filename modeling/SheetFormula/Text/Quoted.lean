import SheetFormula.Text.Printable
/-!
Quoted text as messages show it. A text stands between single quotes, or between double quotes
when it holds a single quote and no double quote. Inside, the backslash and the chosen quote are
escaped by a backslash, tab, line feed and carriage return by their letters, and every other
character that is not printable by its code in lowercase hexadecimal: two digits below 0x100,
four below 0x10000, eight above.
-/

namespace SheetFormula.Text

def hexDigits (width n : Nat) : List Char :=
  let ds := Nat.toDigits 16 n
  List.replicate (width - ds.length) '0' ++ ds

def escapeChar (q c : Char) : List Char :=
  if c = q ∨ c = '\\' then ['\\', c]
  else if c = '\t' then ['\\', 't']
  else if c = '\n' then ['\\', 'n']
  else if c = '\r' then ['\\', 'r']
  else if isPrintable c then [c]
  else if c.toNat < 0x100 then '\\' :: 'x' :: hexDigits 2 c.toNat
  else if c.toNat < 0x10000 then '\\' :: 'u' :: hexDigits 4 c.toNat
  else '\\' :: 'U' :: hexDigits 8 c.toNat

def quoteMark (cs : List Char) : Char :=
  if '\'' ∈ cs ∧ '"' ∉ cs then '"' else '\''

def quote (s : String) : String :=
  let cs := s.toList
  let q := quoteMark cs
  String.ofList (q :: cs.flatMap (escapeChar q) ++ [q])

def quoteChar (c : Char) : String :=
  quote (String.singleton c)

example : quoteChar '~' = "'~'" ∧ quoteChar '\'' = "\"'\"" ∧ quoteChar '\\' = "'\\\\'" ∧
    quoteChar '"' = "'\"'" := by decide +kernel
example : quoteChar '\x00' = "'\\x00'" ∧ quoteChar '​' = "'\\u200b'" ∧
    quoteChar '😀' = "'😀'" := by decide +kernel

end SheetFormula.Text
