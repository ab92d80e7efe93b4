/-!
Markers: a formula on one line and carets under a span of it. Tabs, line feeds and carriage
returns show as spaces, so the formula keeps one line and the carets stay under their
characters. At least one caret is drawn, past the end of the text if need be.
-/

namespace SheetFormula

def flatLine (formula : String) : String :=
  String.ofList (formula.toList.map fun c => if c = '\t' ∨ c = '\n' ∨ c = '\r' then ' ' else c)

def markedStop (start : Int) (stop : Option Int) : Int :=
  match stop with
  | some e => if e ≤ start then start + 1 else e
  | none => start + 1

def caretLine (start stop : Int) : String :=
  String.ofList (List.replicate start.toNat ' ' ++ List.replicate (stop - start).toNat '^')

def mark (formula : String) (start : Int) (stop : Option Int) : String :=
  flatLine formula ++ "\n" ++ caretLine start (markedStop start stop)

example : mark "a\tb\nc\rd" 3 (some 5) = "a b c d\n   ^^" ∧ mark "x" (-2) (some 1) = "x\n^^^" ∧
    mark "x" (-2) (some (-5)) = "x\n^" ∧ mark "" 0 none = "\n^" := by decide

end SheetFormula
