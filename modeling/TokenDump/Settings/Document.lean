import TokenDump.Settings.Environment
import TokenDump.Toml.Parser
import TokenDump.Decimal.Shortest
import TokenDump.Text.Escape
import TokenDump.Fault
import TokenDump.Log.Code

/-! # Settings from a document

A TOML document names its settings in three tables. Keys that are not known are passed over, and
what is not given keeps its value. A group may also be given as an array of its values in order.
The first value of a wrong shape decides what is reported. -/
namespace TokenDump

/-- What is wrong with the shape of a value in a document. -/
inductive ShapeError where
  /-- A name that is none of those expected. -/
  | unknownName (name : String) (expected : List String)
  /-- Neither a name nor a table that has a name as its key. -/
  | notAName
  | noName
  | manyNames
  /-- Something stands behind a name that stands for itself. -/
  | nameWithTable
  | nameWithTables
  | nameWithValue (type : String)
  | wrongType (found expected : String)
deriving DecidableEq

namespace ShapeError

/-- Names in backquotes, as a message lists them. -/
def listed : List String → String
  | [] => "there are no variants"
  | [a] => "expected " ++ quoted a
  | [a, b] => "expected " ++ quoted a ++ " or " ++ quoted b
  | names => "expected one of " ++ String.intercalate ", " (names.map quoted)
where
  quoted (name : String) : String := "\x60" ++ name ++ "\x60"

def message : ShapeError → String
  | .unknownName name expected =>
    "unknown variant \x60" ++ name ++ "\x60, " ++ listed expected
  | .notAName => "wanted string or table"
  | .noName => "wanted exactly 1 element, found 0 elements"
  | .manyNames => "wanted exactly 1 element, more than 1 element"
  | .nameWithTable => "expected empty table"
  | .nameWithTables => "expected empty array"
  | .nameWithValue type => "expected table, found " ++ type
  | .wrongType found expected => "invalid type: " ++ found ++ ", expected " ++ expected

end ShapeError

namespace Toml

def Real.render : Real → String
  | .number value => value.render
  | .notANumber => "NaN"

/-- A value as messages about its type describe it. -/
def Value.description : Value → String
  | .string text => "string " ++ Text.quote text
  | .integer value => s!"integer \x60{value}\x60"
  | .float value => "floating point \x60" ++ value.render ++ "\x60"
  | .boolean b => "boolean \x60" ++ (if b then "true" else "false") ++ "\x60"
  | .datetime => "map"
  | .array _ => "sequence"
  | .table _ => "map"
  | .tables _ => "sequence"

/-- Refuses what does not go with a name that stands for itself. -/
def Value.checkEmpty : Value → Except ShapeError Unit
  | .array items => if items.isEmpty then .ok () else .error .nameWithTable
  | .table entries => if entries.isEmpty then .ok () else .error .nameWithTable
  | .tables items => if items.isEmpty then .ok () else .error .nameWithTables
  | .string _ => .error (.nameWithValue "string")
  | .integer _ => .error (.nameWithValue "integer")
  | .float _ => .error (.nameWithValue "float")
  | .boolean _ => .error (.nameWithValue "boolean")
  | .datetime => .error (.nameWithValue "datetime")

def Value.boolean? : Value → Except ShapeError Bool
  | .boolean b => .ok b
  | v => .error (.wrongType v.description "a boolean")

/-- What a name stands for. -/
def named {α : Type} (spellings : List (String × α)) (name : String) : Except ShapeError α :=
  match spellings.lookup name with
  | some a => .ok a
  | none => .error (.unknownName name (spellings.map (·.1)))

/-- A value given by name: a string, or a table with the name as its only key. -/
def Value.choice {α : Type} (spellings : List (String × α)) : Value → Except ShapeError α
  | .string name => named spellings name
  | .table [] => .error .noName
  | .table [(name, behind)] => do
    let a ← named spellings name
    behind.checkEmpty
    return a
  | .table _ => .error .manyNames
  | _ => .error .notAName

/-- A place in a record: its key, and how a value changes the record. -/
abbrev Slot (α : Type) := String × (α → Value → Except ShapeError α)

/-- Changes a record by the entries of a table, in the order of the document. -/
def readEntries {α : Type} (fields : List (Slot α)) (a : α) (entries : Document) :
    Except ShapeError α :=
  entries.foldlM (fun a (key, v) =>
    match fields.lookup key with
    | some read => read a v
    | none => .ok a) a

/-- Changes a record by the items of an array, in the order of its fields. -/
def readItems {α : Type} (fields : List (Slot α)) (a : α) (items : List Value) :
    Except ShapeError α :=
  (fields.zip items).foldlM (fun a ((_, read), v) => read a v) a

/-- Changes a record by a value that gives some of its fields. -/
def Value.record {α : Type} (name : String) (fields : List (Slot α)) (a : α) :
    Value → Except ShapeError α
  | .table entries => readEntries fields a entries
  | .array items => readItems fields a items
  | .tables items => readItems fields a (items.map .table)
  | .datetime => .ok a
  | v => .error (.wrongType v.description ("struct " ++ name))

end Toml

namespace Settings

open Toml

def Scanning.fields : List (Slot Scanning) :=
  [("trivia_mode", fun s v => do return { s with trivia := ← v.choice Trivia.spellings }),
   ("collect_metrics", fun s v => do return { s with collectMetrics := ← v.boolean? }),
   ("log_illegal_tokens", fun s v => do return { s with logIllegal := ← v.boolean? })]

def Dumping.fields : List (Slot Dumping) :=
  [("output_format", fun s v => do return { s with format := ← v.choice Format.spellings }),
   ("include_positions", fun s v => do return { s with positions := ← v.boolean? }),
   ("fail_on_illegal", fun s v => do return { s with failOnIllegal := ← v.boolean? })]

def Logging.fields : List (Slot Logging) :=
  [("use_structured_logging", fun s v => do return { s with structured := ← v.boolean? }),
   ("enable_console_logging", fun s v => do return { s with console := ← v.boolean? }),
   ("min_log_level", fun s v => do return { s with threshold := ← v.choice Log.Level.spellings })]

def fields : List (Slot Settings) :=
  [("scanner", fun s v => do
      return { s with scanning := ← v.record "ScannerPreferences" Scanning.fields s.scanning }),
   ("driver", fun s v => do
      return { s with dumping := ← v.record "DriverPreferences" Dumping.fields s.dumping }),
   ("logging", fun s v => do
      return { s with logging := ← v.record "LoggingPreferences" Logging.fields s.logging })]

/-- The settings that a document gives, over those that hold without it. -/
def ofDocument (usual : Settings) (document : Document) : Except ShapeError Settings :=
  readEntries fields usual document

end Settings

/-- Why there are no settings. -/
inductive SettingsError where
  | unreadable (path : String) (fault : Fault)
  /-- The text is no TOML. -/
  | malformed
  | misshapen (error : ShapeError)
deriving DecidableEq

namespace SettingsError

def message : SettingsError → String
  | .unreadable path fault => "Cannot read configuration file " ++ path ++ ": " ++ fault.reason
  | .malformed => "Invalid configuration: not a TOML document"
  | .misshapen error => "Invalid configuration: " ++ error.message

def code : SettingsError → Log.Code
  | .unreadable _ _ => .configUnreadable
  | .malformed | .misshapen _ => .configInvalid

end SettingsError

namespace Settings

/-- The settings that the text of a document gives. -/
def ofText (usual : Settings) (text : String) : Except SettingsError Settings :=
  match Toml.parse? text with
  | none => .error .malformed
  | some document => (ofDocument usual document).mapError .misshapen

def notText : Fault := .invalidData "stream did not contain valid UTF-8"

/-- The settings that a configuration file gives, from what reading it has led to. -/
def ofFile (usual : Settings) (path : String) (content : Except Fault Bytes) :
    Except SettingsError Settings :=
  match content with
  | .error fault => .error (.unreadable path fault)
  | .ok bytes =>
    match Utf8.decode? bytes with
    | none => .error (.unreadable path notText)
    | some text => ofText usual (String.ofList text)

end Settings
end TokenDump
