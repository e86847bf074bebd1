/-! # Codes

A code names what an event is about. The codes of problems are registered with what is known about
them and what to do. -/
namespace TokenDump.Log

structure Code where
  text : String
deriving DecidableEq

inductive Severity where
  | critical | high | medium | low
deriving DecidableEq

namespace Severity

def name : Severity → String
  | .critical => "Critical"
  | .high => "High"
  | .medium => "Medium"
  | .low => "Low"

/-- Place in the order of urgency, the most urgent first. -/
def rank : Severity → Nat
  | .critical => 0
  | .high => 1
  | .medium => 2
  | .low => 3

end Severity

namespace Code

def internalError : Code := ⟨"ERR001"⟩
def setupFailed : Code := ⟨"ERR002"⟩
def openFailed : Code := ⟨"E005"⟩
def readFailed : Code := ⟨"E006"⟩
def badEncoding : Code := ⟨"E007"⟩
def illegalCharacter : Code := ⟨"W020"⟩
def unclosedString : Code := ⟨"W021"⟩
def unclosedComment : Code := ⟨"W022"⟩
def createFailed : Code := ⟨"E040"⟩
def writeFailed : Code := ⟨"E041"⟩
def serializeFailed : Code := ⟨"E042"⟩
def illegalTokens : Code := ⟨"E043"⟩
def configUnreadable : Code := ⟨"E060"⟩
def configInvalid : Code := ⟨"E061"⟩

def info : Code := ⟨"I000"⟩
def debug : Code := ⟨"D000"⟩
def loggingReady : Code := ⟨"I004"⟩
def sourceOpened : Code := ⟨"I006"⟩
def scanComplete : Code := ⟨"I020"⟩
def dumpComplete : Code := ⟨"I040"⟩

end Code

/-- What is known about a registered code. -/
structure Entry where
  code : Code
  category : String
  severity : Severity
  recoverable : Bool
  halts : Bool
  description : String
  action : String

/-- The registered codes. -/
def registry : List Entry := [
  { code := .internalError, category := "System", severity := .critical
    recoverable := false, halts := true
    description := "Critical internal error"
    action := "File a bug report with the input that triggered it" },
  { code := .setupFailed, category := "System", severity := .critical
    recoverable := false, halts := true
    description := "Initialization failure"
    action := "Check configuration and environment variables" },
  { code := .openFailed, category := "Source", severity := .high
    recoverable := false, halts := true
    description := "Source file could not be opened"
    action := "Check the path exists and is readable" },
  { code := .readFailed, category := "Source", severity := .high
    recoverable := false, halts := true
    description := "I/O error while reading source text"
    action := "Check the file system and retry" },
  { code := .badEncoding, category := "Source", severity := .high
    recoverable := false, halts := true
    description := "Source text is not valid UTF-8"
    action := "Convert the file to UTF-8" },
  { code := .illegalCharacter, category := "Lexical", severity := .low
    recoverable := true, halts := false
    description := "Character is not part of any token"
    action := "Remove the character or check for a typo such as a bare '!'" },
  { code := .unclosedString, category := "Lexical", severity := .low
    recoverable := true, halts := false
    description := "String literal not terminated before end of input"
    action := "Add the closing double quote" },
  { code := .unclosedComment, category := "Lexical", severity := .low
    recoverable := true, halts := false
    description := "Block comment not terminated before end of input"
    action := "Add the closing '*/'" },
  { code := .createFailed, category := "Driver", severity := .high
    recoverable := false, halts := true
    description := "Token dump destination could not be created"
    action := "Check the destination directory exists and is writable" },
  { code := .writeFailed, category := "Driver", severity := .high
    recoverable := false, halts := true
    description := "Writing to the token dump destination failed"
    action := "Check disk space and permissions" },
  { code := .serializeFailed, category := "Driver", severity := .medium
    recoverable := false, halts := true
    description := "Token could not be serialized"
    action := "Switch to text output and file a bug report" },
  { code := .illegalTokens, category := "Driver", severity := .medium
    recoverable := true, halts := false
    description := "Source contains ILLEGAL tokens"
    action := "Inspect the dump for ILLEGAL entries and fix the source" },
  { code := .configUnreadable, category := "Config", severity := .medium
    recoverable := false, halts := true
    description := "Configuration file could not be read"
    action := "Check the --config path" },
  { code := .configInvalid, category := "Config", severity := .medium
    recoverable := false, halts := true
    description := "Configuration file is not valid"
    action := "Fix the TOML syntax or the offending key" }]

/-- The entry of a code, if the code is registered. -/
def Code.lookup (c : Code) : Option Entry := registry.find? (·.code == c)

/-- The codes that scanning needs entries for. -/
def scanningCodes : List Code :=
  [.illegalCharacter, .unclosedString, .unclosedComment, .openFailed, .readFailed, .badEncoding]

theorem scanningCodes_registered : scanningCodes.all (·.lookup.isSome) = true := by decide

end TokenDump.Log
