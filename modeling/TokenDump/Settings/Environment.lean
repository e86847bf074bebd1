import TokenDump.Settings.Basic
import TokenDump.Text.Utf8

/-! # Settings from the environment

Each setting has a variable. A variable that is missing, is not text or says nothing that makes
sense leaves its setting at the built-in value. -/
namespace TokenDump

/-- The variables of the environment, by their names. -/
abbrev Environment := List (String × Bytes)

namespace Environment

/-- Beginning of the names of all variables that are looked at. -/
def family : String := "MINIC_"

/-- What the names of the variables that are looked at end in. -/
def names : List String :=
  ["SCANNER_TRIVIA_MODE", "SCANNER_COLLECT_METRICS", "SCANNER_LOG_ILLEGAL",
   "DRIVER_OUTPUT_FORMAT", "DRIVER_INCLUDE_POSITIONS", "DRIVER_FAIL_ON_ILLEGAL",
   "LOGGING_USE_STRUCTURED", "LOGGING_ENABLE_CONSOLE", "LOGGING_MIN_LEVEL"]

/-- The text of a variable. -/
def text? (env : Environment) (name : String) : Option String :=
  (env.lookup (family ++ name)).bind fun bytes => (Utf8.decode? bytes).map String.ofList

/-- What a variable says, or `usual`. -/
def get {α : Type} (env : Environment) (name : String) (read : String → Option α) (usual : α) : α :=
  ((env.text? name).bind read).getD usual

end Environment

namespace Settings

def Scanning.ofEnvironment (env : Environment) : Scanning where
  trivia := env.get "SCANNER_TRIVIA_MODE" Trivia.ofName? .strict
  collectMetrics := env.get "SCANNER_COLLECT_METRICS" flag? true
  logIllegal := env.get "SCANNER_LOG_ILLEGAL" flag? true

def Dumping.ofEnvironment (env : Environment) : Dumping where
  format := env.get "DRIVER_OUTPUT_FORMAT" Format.ofName? .text
  positions := env.get "DRIVER_INCLUDE_POSITIONS" flag? false
  failOnIllegal := env.get "DRIVER_FAIL_ON_ILLEGAL" flag? false

def Logging.ofEnvironment (env : Environment) : Logging where
  structured := env.get "LOGGING_USE_STRUCTURED" flag? false
  console := env.get "LOGGING_ENABLE_CONSOLE" flag? true
  threshold := env.get "LOGGING_MIN_LEVEL" Log.Level.ofName? .warning

/-- The settings that hold when nothing else is said. -/
def ofEnvironment (env : Environment) : Settings where
  scanning := .ofEnvironment env
  dumping := .ofEnvironment env
  logging := .ofEnvironment env

end Settings
end TokenDump
