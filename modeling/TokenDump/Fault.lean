/-! # Faults

What can go wrong in reading, writing or opening: a kind, and the reason given for it. -/
namespace TokenDump

inductive Fault.Kind where
  /-- Nothing was done; the same call may be made again. -/
  | interrupted
  /-- The bytes are there but do not mean what they should. -/
  | invalidData
  | invalidInput
  | unexpectedEnd
  | brokenPipe
  | timedOut
  | notFound
  | permissionDenied
  | isADirectory
  | notADirectory
  | nameTooLong
  | fileTooLarge
  | storageFull
  | writeZero
  | other
deriving DecidableEq

structure Fault where
  kind : Fault.Kind
  reason : String
deriving DecidableEq

namespace Fault

def invalidData (reason : String) : Fault := ⟨.invalidData, reason⟩

/-- A writer that takes no more bytes without saying why. -/
def writeZero : Fault := ⟨.writeZero, "failed to write whole buffer"⟩

/-- A refusal by the operating system, with its number. -/
def system (kind : Kind) (text : String) (number : Nat) : Fault :=
  ⟨kind, s!"{text} (os error {number})"⟩

def notFound : Fault := system .notFound "No such file or directory" 2
def notADirectory : Fault := system .notADirectory "Not a directory" 20
def isADirectory : Fault := system .isADirectory "Is a directory" 21
def fileTooLarge : Fault := system .fileTooLarge "File too large" 27
def storageFull : Fault := system .storageFull "No space left on device" 28
def nameTooLong : Fault := system .nameTooLong "File name too long" 36

def nulInName : Fault := ⟨.invalidInput, "file name contained an unexpected NUL byte"⟩

end Fault
end TokenDump
