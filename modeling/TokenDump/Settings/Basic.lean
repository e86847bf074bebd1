import TokenDump.Log.Level
import TokenDump.Unicode.Lowercase

/-! # Settings

The nine settings of a run, in three groups, and the names by which their values are given. -/
namespace TokenDump

/-- How blanks and comments before a token are skipped. -/
inductive Trivia where
  /-- All of them; a block comment that nothing closes is an illegal token. -/
  | strict
  /-- One block comment and one line comment at most, blanks around them; a block comment that
  nothing closes runs to the end of the source. -/
  | compatible
deriving DecidableEq

/-- How tokens are written. -/
inductive Format where
  | text
  /-- One JSON object per line. -/
  | json
deriving DecidableEq

namespace Settings

structure Scanning where
  trivia : Trivia
  collectMetrics : Bool
  logIllegal : Bool
deriving DecidableEq

structure Dumping where
  format : Format
  positions : Bool
  failOnIllegal : Bool
deriving DecidableEq

structure Logging where
  structured : Bool
  console : Bool
  threshold : Log.Level
deriving DecidableEq

end Settings

structure Settings where
  scanning : Settings.Scanning
  dumping : Settings.Dumping
  logging : Settings.Logging
deriving DecidableEq

/-- A text in lower case. -/
def lowercased (text : String) : String :=
  String.ofList (text.toList.flatMap Unicode.lowercase)

namespace Trivia

def name : Trivia → String
  | .strict => "strict"
  | .compatible => "compatible"

/-- The names that users may give, in any case. -/
def ofName? (text : String) : Option Trivia :=
  match lowercased text with
  | "strict" => some .strict
  | "compatible" => some .compatible
  | "compat" => some .compatible
  | _ => none

/-- The names that configuration documents may give, exactly. -/
def spellings : List (String × Trivia) := [("strict", .strict), ("compatible", .compatible)]

end Trivia

namespace Format

def name : Format → String
  | .text => "text"
  | .json => "json"

def ofName? (text : String) : Option Format :=
  match lowercased text with
  | "text" => some .text
  | "json" => some .json
  | "jsonl" => some .json
  | "jsonlines" => some .json
  | _ => none

def spellings : List (String × Format) := [("text", .text), ("json", .json), ("jsonlines", .json)]

end Format

namespace Log.Level

def ofName? (text : String) : Option Level :=
  match lowercased text with
  | "error" => some .error
  | "0" => some .error
  | "warning" => some .warning
  | "warn" => some .warning
  | "1" => some .warning
  | "info" => some .info
  | "2" => some .info
  | "debug" => some .debug
  | "3" => some .debug
  | _ => none

def spellings : List (String × Level) :=
  [("error", .error), ("warn", .warning), ("warning", .warning), ("info", .info), ("debug", .debug)]

/-- The name that configuration documents use. -/
def plainName : Level → String
  | .error => "error"
  | .warning => "warning"
  | .info => "info"
  | .debug => "debug"

end Log.Level

namespace Settings

/-- A truth value, spelled exactly. -/
def flag? (text : String) : Option Bool :=
  match text with
  | "true" => some true
  | "false" => some false
  | _ => none

end Settings
end TokenDump
