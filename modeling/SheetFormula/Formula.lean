import SheetFormula.Expr.Parse
import SheetFormula.Report
import SheetFormula.Text.Blank
/-!
Formulas end to end: the text of a formula is scanned into tokens and the tokens are parsed
into one expression, or into nothing when the formula holds no token. A fault of either stage is
reported with the formula, when the formula is known.
-/

namespace SheetFormula

def FormulaFault.report (f : FormulaFault) (formula : Option String) : Report :=
  match f with
  | .scan f => f.report formula
  | .parse f => ⟨.parse, f.kind, f.message, f.start, f.stop, formula⟩

namespace Formula

def parse (formula : String) : Except FormulaFault (Option Expr) :=
  (TokenStream.scan formula).parse

def ofCellText (text : String) : String :=
  match Text.trimBlanks text.toList with
  | '=' :: rest => String.ofList rest
  | cs => String.ofList cs

def check (formula : String) : Option String :=
  match parse formula with
  | .ok _ => none
  | .error f => some (f.report (some formula)).render

example : ofCellText "  ==A1 " = "=A1" := by decide

end Formula

end SheetFormula
