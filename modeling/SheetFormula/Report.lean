import SheetFormula.Fault
import SheetFormula.Marker
import SheetFormula.Text.Terminal
import SheetFormula.Token.Fault
/-!
Reports of formula faults: the stage that stopped, the kind, the message and the span, and the
formula when it is known. A report prints as its message, then the formula with a marker under
the span, or the offset when the formula is unknown.
-/

namespace SheetFormula

inductive Stage where
  | scan | parse
  deriving DecidableEq, Repr

structure Report where
  stage : Stage
  kind : FaultKind
  message : String
  start : Int
  stop : Int
  formula : Option String
  deriving DecidableEq, Repr

def Stage.admits : Stage → FaultKind → Bool
  | .scan, k => k.isLexical
  | .parse, k => !k.isLexical

namespace Report

def make (stage : Stage) (kind : FaultKind) (message : String) (start : Int)
    (stop : Option Int) (formula : Option String) : Report :=
  ⟨stage, kind, message, start, stop.getD (start + 1), formula⟩

def summary (r : Report) : String :=
  r.message ++ " (at offset " ++ toString r.start ++ ")"

def marker? (r : Report) : Option String :=
  r.formula.map fun f => mark f r.start (some r.stop)

def lines (r : Report) : List String :=
  ("error: " ++ r.message) ::
    match r.formula with
    | none => ["at offset " ++ toString r.start]
    | some f => [flatLine f, caretLine r.start (markedStop r.start (some r.stop))]

def render (r : Report) : String :=
  String.join (r.lines.map Text.terminalText)

end Report

def ScanFault.report (f : ScanFault) (formula : Option String) : Report :=
  ⟨.scan, f.kind, f.message, f.start, f.stop, formula⟩

end SheetFormula
