/-!
The kinds of faults in a formula: three that stop the scan, three that stop the parse. Every
fault of the library reports one of them.
-/

namespace SheetFormula

inductive FaultKind where
  | unrecognizedCharacter | invalidNumber | unterminatedLiteral
  | unbalancedBracket | missingOperand | unexpectedToken
  deriving DecidableEq, Repr

def FaultKind.text : FaultKind → String
  | .unrecognizedCharacter => "unrecognized_character"
  | .invalidNumber => "invalid_number"
  | .unterminatedLiteral => "unterminated_literal"
  | .unbalancedBracket => "unbalanced_bracket"
  | .missingOperand => "missing_operand"
  | .unexpectedToken => "unexpected_token"

def FaultKind.all : List FaultKind :=
  [.unrecognizedCharacter, .invalidNumber, .unterminatedLiteral, .unbalancedBracket,
   .missingOperand, .unexpectedToken]

def FaultKind.ofText? (s : String) : Option FaultKind :=
  FaultKind.all.find? (·.text = s)

def FaultKind.isLexical : FaultKind → Bool
  | .unrecognizedCharacter | .invalidNumber | .unterminatedLiteral => true
  | _ => false

end SheetFormula
