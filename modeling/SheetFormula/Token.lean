import SheetFormula.Decimal.Notation
/-!
Tokens of spreadsheet formulas: names, quoted strings, error codes, numbers and symbols, each
with the span of the formula that it covers. Symbols carry the binding strength that the
grammar gives their operators.
-/

namespace SheetFormula

inductive ArithOp where
  | add | subtract | multiply | divide | power
  deriving DecidableEq, Repr

inductive CompareOp where
  | eq | ne | lt | gt | le | ge
  deriving DecidableEq, Repr

inductive Symbol where
  | arith (op : ArithOp)
  | compare (op : CompareOp)
  | openParen | closeParen | openBracket | closeBracket
  | ampersand | comma | bang | colon | percent
  deriving DecidableEq, Repr

inductive ErrorCode where
  | ref | name | value | divZero | notAvailable | num
  deriving DecidableEq, Repr

namespace ArithOp

def text : ArithOp → String
  | .add => "+" | .subtract => "-" | .multiply => "*" | .divide => "/" | .power => "^"

def precedence : ArithOp → Nat
  | .add | .subtract => 10
  | .multiply | .divide => 20
  | .power => 30

end ArithOp

def CompareOp.text : CompareOp → String
  | .eq => "=" | .ne => "<>" | .lt => "<" | .gt => ">" | .le => "<=" | .ge => ">="

namespace Symbol

def text : Symbol → String
  | .arith op => op.text
  | .compare op => op.text
  | .openParen => "(" | .closeParen => ")" | .openBracket => "[" | .closeBracket => "]"
  | .ampersand => "&" | .comma => "," | .bang => "!" | .colon => ":" | .percent => "%"

def all : List Symbol :=
  [.arith .add, .arith .subtract, .arith .multiply, .arith .divide, .arith .power,
   .openParen, .closeParen, .openBracket, .closeBracket, .ampersand, .comma, .bang, .colon,
   .percent, .compare .eq, .compare .ne, .compare .lt, .compare .gt, .compare .le,
   .compare .ge]

def ofText? (s : String) : Option Symbol :=
  all.find? (·.text = s)

def ofChar? (c : Char) : Option Symbol :=
  ofText? (String.singleton c)

def precedence : Symbol → Nat
  | .bang => 2000
  | .openParen | .closeParen | .openBracket | .closeBracket => 1000
  | .comma => 500
  | .colon => 400
  | .percent => 100
  | .arith op => op.precedence
  | .ampersand => 1
  | .compare _ => 0

def isClosing : Symbol → Bool
  | .closeParen | .closeBracket => true
  | _ => false

end Symbol

namespace ErrorCode

def text : ErrorCode → String
  | .ref => "#REF!" | .name => "#NAME?" | .value => "#VALUE!" | .divZero => "#DIV/0!"
  | .notAvailable => "#N/A" | .num => "#NUM!"

def all : List ErrorCode :=
  [.value, .divZero, .name, .ref, .num, .notAvailable]

def ofText? (s : String) : Option ErrorCode :=
  all.find? (·.text = s)

def isCodeChar (c : Char) : Bool :=
  all.any fun e => e.text.toList.contains c

end ErrorCode

inductive Lexeme where
  | name (text : String)
  | string (text : String)
  | error (code : ErrorCode)
  | number (value : Decimal)
  | symbol (s : Symbol)
  deriving DecidableEq, Repr

def Lexeme.spelling : Lexeme → String
  | .name t | .string t => t
  | .error e => e.text
  | .number d => d.toText
  | .symbol s => s.text

structure Token where
  lexeme : Lexeme
  start : Int
  stop : Int
  deriving DecidableEq, Repr

def Token.symbol? (t : Token) : Option Symbol :=
  match t.lexeme with
  | .symbol s => some s
  | _ => none

def Token.spelling (t : Token) : String :=
  t.lexeme.spelling

example : Symbol.ofText? "<>" = some (.compare .ne) ∧ Symbol.ofChar? '~' = none ∧
    ErrorCode.ofText? "#N/A" = some .notAvailable := by decide

end SheetFormula
