import TokenDump.Position
import TokenDump.Fault
import TokenDump.Log.Code

/-! # Source errors

A source fails when it cannot be opened, or when a character of it cannot be read. Text that makes
no sense is no error. -/
namespace TokenDump

/-- A character that could not be read, and where it would have stood. -/
structure ReadError where
  position : Position
  fault : Fault
deriving DecidableEq

inductive SourceError where
  | unopened (path : String) (fault : Fault)
  | unread (error : ReadError)
deriving DecidableEq

namespace ReadError

def message (e : ReadError) : String :=
  s!"Failed to read source at line {e.position.line}, column {e.position.column}: {e.fault.reason}"

/-- Bytes that are no text have a code of their own. -/
def code (e : ReadError) : Log.Code :=
  if e.fault.kind = .invalidData then .badEncoding else .readFailed

end ReadError

namespace SourceError

def message : SourceError → String
  | .unopened path fault => "Cannot open source file " ++ path ++ ": " ++ fault.reason
  | .unread error => error.message

def code : SourceError → Log.Code
  | .unopened _ _ => .openFailed
  | .unread error => error.code

def fault : SourceError → Fault
  | .unopened _ fault => fault
  | .unread error => error.fault

end SourceError
end TokenDump
