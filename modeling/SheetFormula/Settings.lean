import SheetFormula.Text.Blank
/-!
Settings: the log level and whether a marker is logged under a fault, read from `KEY=VALUE`
lines of a configuration text and then from environment entries, which win. A value that cannot
be read is a fault of its field, and every such field is reported.
-/

namespace SheetFormula

inductive LogLevel where
  | critical | error | warning | info | debug
  deriving DecidableEq, Repr

namespace LogLevel

def text : LogLevel → String
  | .critical => "CRITICAL" | .error => "ERROR" | .warning => "WARNING" | .info => "INFO"
  | .debug => "DEBUG"

def all : List LogLevel :=
  [.critical, .error, .warning, .info, .debug]

def ofText? (s : String) : Option LogLevel :=
  all.find? (·.text = s)

end LogLevel

structure Settings where
  logLevel : LogLevel
  showMarkers : Bool
  deriving DecidableEq, Repr

inductive SettingsFault where
  | logLevel | showMarkers
  deriving DecidableEq, Repr

def SettingsFault.message : SettingsFault → String
  | .logLevel => "log_level: literal_error"
  | .showMarkers => "show_markers: bool_parsing"

namespace Settings

def default : Settings :=
  ⟨.warning, false⟩

def logLevelKey : String := "FORMULATREE_LOG_LEVEL"

def showMarkersKey : String := "FORMULATREE_SHOW_MARKERS"

def lines (cs : List Char) : List (List Char) :=
  cs.splitOn '\n' |>.flatMap (·.splitOn '\r')

def entry? (line : List Char) : Option (String × String) :=
  match Text.trimBlanks line with
  | [] | '#' :: _ => none
  | cs =>
    if '=' ∈ cs then
      let key := cs.takeWhile (· ≠ '=')
      let value := (cs.dropWhile (· ≠ '=')).drop 1
      some (String.ofList (Text.trimBlanks key), String.ofList (Text.trimBlanks value))
    else none

def entries (text : String) : List (String × String) :=
  (lines text.toList).filterMap entry?

def lookup (es : List (String × String)) (key : String) : Option String :=
  (es.reverse.find? (·.1 = key)).map (·.2)

def upperChar (c : Char) : Char :=
  if c = 'ı' then 'I' else if c = 'ſ' then 'S' else c.toUpper

def readLogLevel (s : String) : Option LogLevel :=
  LogLevel.ofText? (String.ofList (s.toList.map upperChar))

def readFlag (s : String) : Option Bool :=
  let w := String.ofList (s.toList.map Char.toLower)
  if w ∈ ["1", "t", "true", "y", "yes", "on"] then some true
  else if w ∈ ["0", "f", "false", "n", "no", "off"] then some false
  else none

def field {α : Type} (value : Option String) (read : String → Option α) (default : α) :
    Option α :=
  match value with
  | none => some default
  | some v => read v

def load (config : Option String) (env : List (String × String)) :
    Except (List SettingsFault) Settings :=
  let es := (config.map entries).getD [] ++ env
  let level := field (lookup es logLevelKey) readLogLevel default.logLevel
  let markers := field (lookup es showMarkersKey) readFlag default.showMarkers
  match level, markers with
  | some l, some m => .ok ⟨l, m⟩
  | l, m => .error ((if l.isNone then [.logLevel] else []) ++ (if m.isNone then [.showMarkers] else []))

example : load (some "  FORMULATREE_LOG_LEVEL  =  info  \r\nFORMULATREE_SHOW_MARKERS=on")
    [] = .ok ⟨.info, true⟩ := by rfl
example : load none [("FORMULATREE_LOG_LEVEL", " debug"), ("FORMULATREE_SHOW_MARKERS", "2")] =
    .error [.logLevel, .showMarkers] := by rfl

end Settings

end SheetFormula
