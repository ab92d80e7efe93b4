import SheetFormula.Text.ColumnWidth
/-!
Clusters: the units in which a terminal line is cut. A character that takes a column opens a
cluster; a character that takes none joins the cluster before it; a zero-width joiner joins the
cluster before it together with the character after it; the emoji variation selector joins the
cluster before it and makes it two columns wide when the character that opened it has an emoji
form. The clusters of a run, read in order, give back the run.
-/

namespace SheetFormula.Text

structure Cluster where
  chars : List Char
  width : Nat
  deriving DecidableEq, Repr

def clustersFrom (last : Option Char) (acc : List Cluster) : List Char → List Cluster
  | [] => acc.reverse.map fun k => ⟨k.chars.reverse, k.width⟩
  | c :: r =>
    if c = joiner then
      match acc with
      | [] => clustersFrom last [⟨[c], 0⟩] r
      | k :: acc =>
        match r with
        | [] => clustersFrom last (⟨c :: k.chars, k.width⟩ :: acc) []
        | d :: r => clustersFrom last (⟨d :: c :: k.chars, k.width⟩ :: acc) r
    else if c = emojiSelector then
      match acc, last with
      | [], _ => clustersFrom last [⟨[c], 0⟩] r
      | k :: acc, some p =>
        let w := if selectorWidenedRanges.contains p.toNat then 2 else k.width
        clustersFrom none (⟨c :: k.chars, w⟩ :: acc) r
      | k :: acc, none => clustersFrom none (⟨c :: k.chars, k.width⟩ :: acc) r
    else if columnWidth c = 0 then
      match acc with
      | [] => clustersFrom last [⟨[c], 0⟩] r
      | k :: acc => clustersFrom last (⟨c :: k.chars, k.width⟩ :: acc) r
    else clustersFrom (some c) (⟨[c], columnWidth c⟩ :: acc) r

def clusters (cs : List Char) : List Cluster :=
  clustersFrom none [] cs

example : clusters ['a', joiner, 'b', 'c'] = [⟨['a', joiner, 'b'], 1⟩, ⟨['c'], 1⟩] := by
  decide +kernel
example : clusters ['#', emojiSelector, '中', '́'] = [⟨['#', emojiSelector], 2⟩, ⟨['中', '́'], 2⟩] := by
  decide +kernel

end SheetFormula.Text
