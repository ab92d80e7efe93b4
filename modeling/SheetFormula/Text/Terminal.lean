import SheetFormula.Text.ColumnWidth
import SheetFormula.Text.Wrap
/-!
How text shows on a plain terminal of a thousand columns. The control characters bell,
backspace, vertical tab, form feed and carriage return are dropped and a line feed ends a line.
In each line, a tab becomes a space and then spaces up to the next multiple of eight columns,
the columns counted over each piece of the line between tabs; the line is then wrapped to the
width of the terminal.
-/

namespace SheetFormula.Text

def terminalWidth : Nat := 1000

def isDroppedControl (c : Char) : Bool :=
  c = '\x07' || c = '\x08' || c = '\x0b' || c = '\x0c' || c = '\r'

def expandPieces : Nat → List (List Char) → List Char
  | _, [] => []
  | _, [p] => p
  | col, p :: ps =>
    let q := p ++ [' ']
    let stop := col + columns q
    let pad := (8 - stop % 8) % 8
    q ++ List.replicate pad ' ' ++ expandPieces (stop + pad) ps

def expandTabs (line : List Char) : List Char :=
  expandPieces 0 (line.splitOn '\t')

def terminalLines (s : String) : List String :=
  ((s.toList.filter fun c => !isDroppedControl c).splitOn '\n').flatMap
    fun l => (wrap terminalWidth (expandTabs l)).map String.ofList

def terminalText (s : String) : String :=
  String.join ((terminalLines s).map (· ++ "\n"))

example : terminalText "a\tb\x07\nc" = "a       b\nc\n" := by decide +kernel
example : terminalText "中\tx" = "中      x\n" := by decide +kernel

end SheetFormula.Text
