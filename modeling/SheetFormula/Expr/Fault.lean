import SheetFormula.Token.Fault
import SheetFormula.Token
/-!
Why a parse stops: the causes, the message and kind of each, and the span of tokens it blames. A
closing bracket that nothing expected is reported as unbalanced; any other unexpected token as
unexpected.
-/

namespace SheetFormula

inductive Operand where
  | negated
  | sheetTarget
  | joined
  | rightSide (op : Token)
  | rangeEnd
  deriving DecidableEq, Repr

def Operand.message : Operand → String
  | .negated => "nothing to negate after '-'"
  | .sheetTarget => "nothing after '!'"
  | .joined => "nothing to join after '&'"
  | .rightSide op => "missing the right hand side of '" ++ op.spelling ++ "'"
  | .rangeEnd => "no right hand side to ':'"

inductive Place where
  | afterEnd
  | inList (opener : Token)
  deriving DecidableEq, Repr

inductive SyntaxFault where
  | missing (what : Operand) (after : Token)
  | blocked (what : Operand) (found : Token)
  | unclosedBrackets (opener : Token)
  | unclosedList (opener : Token)
  | stray (t : Token) (place : Place)
  deriving DecidableEq, Repr

namespace SyntaxFault

def closes (t : Token) : Bool :=
  (t.symbol?.map Symbol.isClosing).getD false

def kind : SyntaxFault → FaultKind
  | .missing .. => .missingOperand
  | .blocked .. => .unexpectedToken
  | .unclosedBrackets _ | .unclosedList _ => .unbalancedBracket
  | .stray t _ => if closes t then .unbalancedBracket else .unexpectedToken

def message : SyntaxFault → String
  | .missing what _ => what.message
  | .blocked what t => what.message ++ ", found " ++ t.spelling
  | .unclosedBrackets _ => "brackets not closed"
  | .unclosedList o => o.spelling ++ " is never closed"
  | .stray t place =>
    if closes t then "unmatched " ++ t.spelling
    else match place with
      | .afterEnd => "unexpected token after the end of the expression"
      | .inList o => "unexpected " ++ t.spelling ++ " in list opened by " ++ o.spelling

def start : SyntaxFault → Int
  | .missing _ after => after.stop
  | .blocked _ t | .unclosedBrackets t | .unclosedList t | .stray t _ => t.start

def stop : SyntaxFault → Int
  | .missing _ after => after.stop + 1
  | .blocked _ t | .unclosedBrackets t | .unclosedList t | .stray t _ => t.stop

end SyntaxFault

inductive FormulaFault where
  | scan (f : ScanFault)
  | parse (f : SyntaxFault)
  deriving DecidableEq, Repr

end SheetFormula
