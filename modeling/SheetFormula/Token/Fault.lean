import SheetFormula.Fault
import SheetFormula.Text.Quoted
/-!
Why a scan stops: the causes, each with the span of the formula that it blames, and the message
and kind by which it is reported.
-/

namespace SheetFormula

inductive ScanFault where
  | unknownErrorCode (text : String) (start stop : Nat)
  | strayChar (c : Char) (pos : Nat)
  | strayColumnChar (c : Char) (pos : Nat)
  | badNumber (text : String) (start stop : Nat)
  | unclosedString (quote : Char) (start stop : Nat)
  | unclosedColumn (start stop : Nat)
  | danglingEscape (pos : Nat)
  deriving DecidableEq, Repr

namespace ScanFault

def kind : ScanFault → FaultKind
  | .unknownErrorCode .. | .strayChar .. | .strayColumnChar .. => .unrecognizedCharacter
  | .badNumber .. => .invalidNumber
  | .unclosedString .. | .unclosedColumn .. | .danglingEscape .. => .unterminatedLiteral

def message : ScanFault → String
  | .unknownErrorCode t .. => "could not convert " ++ Text.quote t ++ " into an error code"
  | .strayChar c _ => "could not identify first character of the token: " ++ Text.quoteChar c
  | .strayColumnChar c _ =>
    "could not identify first character of the structured reference token: " ++
      Text.quoteChar c
  | .badNumber t .. => "could not convert " ++ Text.quote t ++ " into a number"
  | .unclosedString q .. => "literal opened with " ++ String.singleton q ++ " is never closed"
  | .unclosedColumn .. => "structured reference column is never closed"
  | .danglingEscape _ => "escape character at end of structured reference"

def start : ScanFault → Nat
  | .unknownErrorCode _ s _ | .strayChar _ s | .strayColumnChar _ s | .badNumber _ s _
  | .unclosedString _ s _ | .unclosedColumn s _ | .danglingEscape s => s

def stop : ScanFault → Nat
  | .unknownErrorCode _ _ e | .badNumber _ _ e | .unclosedString _ _ e | .unclosedColumn _ e => e
  | .strayChar _ s | .strayColumnChar _ s | .danglingEscape s => s + 1

end ScanFault

end SheetFormula
