import TokenDump.Source.Error

/-! # Dump errors

What keeps a dump from being complete and clean. -/
namespace TokenDump

inductive DumpError where
  | unopened (path : String) (fault : Fault)
  | unread (error : SourceError)
  | uncreated (path : String) (fault : Fault)
  | unwritten (fault : Fault)
  | unserialized (reason : String)
  /-- The dump is complete, but holds illegal tokens that were not to be tolerated. -/
  | illegalTokens (count : Nat)
deriving DecidableEq

namespace DumpError

def ofSourceError : SourceError → DumpError
  | .unopened path fault => .unopened path fault
  | .unread error => .unread (.unread error)

def message : DumpError → String
  | .unopened path fault => "Cannot open source file " ++ path ++ ": " ++ fault.reason
  | .unread error => "Failed to scan source: " ++ error.message
  | .uncreated path fault => "Cannot create destination " ++ path ++ ": " ++ fault.reason
  | .unwritten fault => "Failed to write token dump: " ++ fault.reason
  | .unserialized reason => "Failed to serialize token: " ++ reason
  | .illegalTokens count => s!"Source contains {count} illegal token(s)"

def code : DumpError → Log.Code
  | .unopened _ _ => .openFailed
  | .unread error => error.code
  | .uncreated _ _ => .createFailed
  | .unwritten _ => .writeFailed
  | .unserialized _ => .serializeFailed
  | .illegalTokens _ => .illegalTokens

end DumpError
end TokenDump
