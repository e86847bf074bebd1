import TokenDump.Span
import TokenDump.Json.Value
import TokenDump.Log.Level
import TokenDump.Log.Code
import TokenDump.Log.Details
import TokenDump.Log.Timestamp

/-! # Events

A notice says what happened; an event is a notice with the time at which it was posted. Events are
written as one line, as a line with what the registry knows about the code, or as a JSON object. -/
namespace TokenDump.Log

structure Notice where
  level : Level
  code : Code
  message : String
  span : Option Span
  details : Details
deriving DecidableEq

structure Event extends Notice where
  time : Timestamp
deriving DecidableEq

/-- The key under which an event names the file that it belongs to. -/
def fileKey : String := "file"

/-- Longest message that is shown, in bytes. -/
def messageLimit : Nat := 4096

/-- The longest beginning of a text whose characters fit in `limit` bytes. -/
def fitting : Nat → List Char → List Char
  | _, [] => []
  | limit, c :: text =>
    if c.utf8Size ≤ limit then c :: fitting (limit - c.utf8Size) text else []

/-- A message cut to the limit, between characters. -/
def cut (message : String) : String := String.ofList (fitting messageLimit message.toList)

namespace Notice

def error (code : Code) (message : String) : Notice := ⟨.error, code, message, none, .empty⟩
def warning (code : Code) (message : String) : Notice := ⟨.warning, code, message, none, .empty⟩
def success (code : Code) (message : String) : Notice := ⟨.info, code, message, none, .empty⟩
def info (message : String) : Notice := ⟨.info, .info, message, none, .empty⟩
def debug (message : String) : Notice := ⟨.debug, .debug, message, none, .empty⟩

/-- Places the notice in the source. -/
def spanning (n : Notice) (span : Span) : Notice := { n with span := some span }

def set (n : Notice) (key value : String) : Notice :=
  { n with details := n.details.insert key value }

/-- Adds details; the last value of a key stays. -/
def saying (n : Notice) (pairs : List (String × String)) : Notice :=
  { n with details := n.details.insertAll pairs }

/-- Names the file that the notice belongs to. -/
def inFile (n : Notice) (file : String) : Notice := n.set fileKey file

/-- The notice in one line: level, code, message, start of the span, details, file. -/
def render (n : Notice) : String :=
  let place := match n.span with
    | some span => " at " ++ span.start.render
    | none => ""
  let shown := n.details.entries.filter (·.1 ≠ fileKey)
    |>.map fun (key, value) => key ++ "=" ++ value
  let details := if shown.isEmpty then "" else " (" ++ String.intercalate ", " shown ++ ")"
  let file := match n.details.lookup fileKey with
    | some file => " in " ++ file
    | none => ""
  "[" ++ n.level.name ++ "] " ++ n.code.text ++ " - " ++ cut n.message ++ place ++ details ++ file

def isError (n : Notice) : Bool := n.level == .error

def flag (b : Bool) : String := if b then "true" else "false"

/-- The line of a notice, followed by lines with what the registry knows about its code. -/
def renderDetailed (n : Notice) : String :=
  match n.code.lookup with
  | none => n.render
  | some entry =>
    let effect := if n.isError then
        "\n  recoverable=" ++ flag entry.recoverable ++ " halt=" ++ flag entry.halts
      else ""
    n.render ++ "\n  " ++ entry.category ++ " / " ++ entry.severity.name ++ effect ++
      "\n  " ++ entry.description ++ "\n  Action: " ++ entry.action

end Notice

open Json in
/-- A position with its keys in alphabetical order. -/
def positionValue (p : Position) : Value :=
  .record [("column", .ofNat p.column), ("line", .ofNat p.line), ("offset", .ofNat p.offset)]

open Json in
def spanValue (s : Span) : Value :=
  .record [("end", positionValue s.stop), ("start", positionValue s.start)]

open Json in
/-- The event as an object with its keys in alphabetical order. What does not apply is left out. -/
def Event.value (e : Event) : Value :=
  let entry := e.code.lookup
  let known (key : String) (f : Entry → Value) : List (String × Value) :=
    match entry with
    | some entry => [(key, f entry)]
    | none => []
  let problem (key : String) (f : Entry → Bool) : List (String × Value) :=
    if e.isError then known key (fun entry => .boolean (f entry)) else []
  .record <|
    known "category" (fun entry => .ofString entry.category) ++
    [("code", .ofString e.code.text)] ++
    (if e.details.isEmpty then [] else
      [("context", .record (e.details.map fun (key, text) => (key, .ofString text)))]) ++
    [("level", .ofString e.level.name), ("message", .ofString (cut e.message))] ++
    problem "recoverable" (·.recoverable) ++
    problem "requires_halt" (·.halts) ++
    known "severity" (fun entry => .ofString entry.severity.name) ++
    (match e.span with
      | some span => [("span", spanValue span)]
      | none => []) ++
    [("timestamp", .ofString e.time.render)]

/-- The event as one line of JSON. -/
def Event.renderJson (e : Event) : String := e.value.compact

end TokenDump.Log
