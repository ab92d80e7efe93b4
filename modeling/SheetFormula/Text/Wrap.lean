import SheetFormula.Text.Blank
import SheetFormula.Text.Cluster
/-!
Wrapping a terminal line to a width: words laid out left to right, a word too wide for any line
cut cluster by cluster, and the blanks that run past the width dropped.
-/

namespace SheetFormula.Text

inductive WordPart where
  | lead
  | body
  | tail
  deriving DecidableEq, Repr

def wordsFrom (part : WordPart) (cur : List Char) : List Char → List (List Char)
  | [] => if part = .lead then [] else [cur.reverse]
  | c :: r =>
    if isBlank c then
      match part with
      | .lead => wordsFrom .lead (c :: cur) r
      | _ => wordsFrom .tail (c :: cur) r
    else
      match part with
      | .tail => cur.reverse :: wordsFrom .body [c] r
      | _ => wordsFrom .body (c :: cur) r

def words (line : List Char) : List (List Char) :=
  wordsFrom .lead [] line

def dropTrailingBlanks (w : List Char) : List Char :=
  (w.reverse.dropWhile isBlank).reverse

def chopFrom (width used : Nat) (cur : List Char) : List Cluster → List (List Char)
  | [] => [cur]
  | k :: ks =>
    if used + k.width > width then cur :: chopFrom width k.width k.chars ks
    else chopFrom width (used + k.width) (cur ++ k.chars) ks

def chop (width : Nat) (w : List Char) : List (List Char) :=
  chopFrom width 0 [] (clusters w)

structure Layout where
  done : List (List Char)
  current : List Char
  used : Nat
  deriving Repr

def Layout.fold (l : Layout) (first : Bool) : List (List Char) → Layout
  | [] => l
  | [p] => if first then ⟨l.done, l.current ++ p, columns p⟩ else ⟨l.current :: l.done, p, columns p⟩
  | p :: ps =>
    if first then Layout.fold ⟨l.done, l.current ++ p, l.used⟩ false ps
    else Layout.fold ⟨l.current :: l.done, p, l.used⟩ false ps

def Layout.place (width : Nat) (l : Layout) (first : Bool) (w : List Char) : Layout :=
  let body := columns (dropTrailingBlanks w)
  if l.used + body ≤ width then ⟨l.done, l.current ++ w, l.used + columns w⟩
  else if body > width then l.fold first (chop width w)
  else if l.used ≠ 0 ∧ !first then ⟨l.current :: l.done, w, columns w⟩
  else ⟨l.done, l.current ++ w, l.used⟩

def Layout.placeAll (width : Nat) (l : Layout) (first : Bool) : List (List Char) → Layout
  | [] => l
  | w :: ws => (l.place width first w).placeAll width false ws

def dropExcessBlanks (width : Nat) (line : List Char) : List Char :=
  if line.length > width then
    let trailing := (line.reverse.takeWhile isBlank).length
    line.take (line.length - min trailing (line.length - width))
  else line

def cropFrom (total used : Nat) : List Cluster → List Char
  | [] => []
  | k :: ks =>
    if used + k.width > total then List.replicate (total - used) ' '
    else k.chars ++ cropFrom total (used + k.width) ks

def fitColumns (width : Nat) (line : List Char) : List Char :=
  if columns line ≤ width then line else cropFrom width 0 (clusters line)

def wrap (width : Nat) (line : List Char) : List (List Char) :=
  let l := Layout.placeAll width ⟨[], [], 0⟩ true (words line)
  let lines := match words line with
    | [] => [line]
    | _ => (l.current :: l.done).reverse
  lines.map fun p => fitColumns width (dropExcessBlanks width p)

example : words "  ab c  d".toList = ["  ab ".toList, "c  ".toList, "d".toList] := by decide +kernel
example : words "   ".toList = [] := by decide +kernel
example : wrap 4 "ab cd ef".toList = ["ab ".toList, "cd ".toList, "ef".toList] := by decide +kernel
example : wrap 3 "abcdefg".toList = ["abc".toList, "def".toList, "g".toList] := by decide +kernel
example : wrap 3 "a bcdefg".toList = ["a ".toList, "bcd".toList, "efg".toList] := by decide +kernel

end SheetFormula.Text
