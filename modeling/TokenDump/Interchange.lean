import TokenDump.Span
import TokenDump.Token.Basic
import TokenDump.Settings.Environment
import TokenDump.Json.Decode

/-! # Interchange forms

The JSON forms of kinds, tokens, positions, spans, located tokens and settings, with their fields
in a fixed order, and how they are read back. -/
namespace TokenDump.Interchange

open Json

def greatestOffset : Nat := 18446744073709551615

/-- Greatest line and greatest column. -/
def greatestLine : Nat := 4294967295

def ofKind (k : Kind) : Value := .ofString k.name

def kind? (v : Value) : Option Kind := do Kind.ofName? (← choice? v)

def ofToken (t : Token) : Value := .record [("kind", ofKind t.kind), ("text", .ofString t.text)]

def token? (v : Value) : Option Token := do
  let [kind, text] ← required? ["kind", "text"] v | none
  return ⟨← kind? kind, ← string? text⟩

def ofPosition (p : Position) : Value :=
  .record [("offset", .ofNat p.offset), ("line", .ofNat p.line), ("column", .ofNat p.column)]

def position? (v : Value) : Option Position := do
  let [offset, line, column] ← required? ["offset", "line", "column"] v | none
  return ⟨← nat? greatestOffset offset, ← nat? greatestLine line, ← nat? greatestLine column⟩

def ofSpan (s : Span) : Value := .record [("start", ofPosition s.start), ("end", ofPosition s.stop)]

def span? (v : Value) : Option Span := do
  let [start, stop] ← required? ["start", "end"] v | none
  return ⟨← position? start, ← position? stop⟩

def ofLocated (t : Located Token) : Value :=
  .record [("value", ofToken t.value), ("span", ofSpan t.span)]

def located? (v : Value) : Option (Located Token) := do
  let [value, span] ← required? ["value", "span"] v | none
  return ⟨← token? value, ← span? span⟩

def ofScanning (s : Settings.Scanning) : Value :=
  .record [("trivia_mode", .ofString s.trivia.name), ("collect_metrics", .boolean s.collectMetrics),
    ("log_illegal_tokens", .boolean s.logIllegal)]

def ofDumping (s : Settings.Dumping) : Value :=
  .record [("output_format", .ofString s.format.name), ("include_positions", .boolean s.positions),
    ("fail_on_illegal", .boolean s.failOnIllegal)]

def ofLogging (s : Settings.Logging) : Value :=
  .record [("use_structured_logging", .boolean s.structured),
    ("enable_console_logging", .boolean s.console),
    ("min_log_level", .ofString s.threshold.plainName)]

def ofSettings (s : Settings) : Value :=
  .record [("scanner", ofScanning s.scanning), ("driver", ofDumping s.dumping),
    ("logging", ofLogging s.logging)]

/-- What a field gives, or the usual value if the field is not there. -/
def optional {α : Type} (read : Value → Option α) (usual : α) : Option Value → Option α
  | none => some usual
  | some v => read v

/-- One of the names that stand for values. -/
def named? {α : Type} (spellings : List (String × α)) (v : Value) : Option α := do
  spellings.lookup (← choice? v)

def scanning? (usual : Settings.Scanning) (v : Value) : Option Settings.Scanning := do
  let [trivia, metrics, log] ←
    fields? ["trivia_mode", "collect_metrics", "log_illegal_tokens"] v | none
  return ⟨← optional (named? Trivia.spellings) usual.trivia trivia,
    ← optional boolean? usual.collectMetrics metrics, ← optional boolean? usual.logIllegal log⟩

def dumping? (usual : Settings.Dumping) (v : Value) : Option Settings.Dumping := do
  let [format, positions, fail] ←
    fields? ["output_format", "include_positions", "fail_on_illegal"] v | none
  return ⟨← optional (named? Format.spellings) usual.format format,
    ← optional boolean? usual.positions positions, ← optional boolean? usual.failOnIllegal fail⟩

def logging? (usual : Settings.Logging) (v : Value) : Option Settings.Logging := do
  let [structured, console, level] ←
    fields? ["use_structured_logging", "enable_console_logging", "min_log_level"] v | none
  return ⟨← optional boolean? usual.structured structured,
    ← optional boolean? usual.console console,
    ← optional (named? Log.Level.spellings) usual.threshold level⟩

/-- Settings in which every field, and every group of fields, may be missing. -/
def settings? (usual : Settings) (v : Value) : Option Settings := do
  let [scanning, dumping, logging] ← fields? ["scanner", "driver", "logging"] v | none
  return ⟨← optional (scanning? usual.scanning) usual.scanning scanning,
    ← optional (dumping? usual.dumping) usual.dumping dumping,
    ← optional (logging? usual.logging) usual.logging logging⟩

end TokenDump.Interchange
