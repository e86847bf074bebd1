/-! # Levels

How urgent an event is. A threshold admits the levels that are at most as verbose as itself. -/
namespace TokenDump.Log

inductive Level where
  | error | warning | info | debug
deriving DecidableEq

namespace Level

/-- Verbosity: the higher, the less urgent. -/
def verbosity : Level → Nat
  | .error => 0
  | .warning => 1
  | .info => 2
  | .debug => 3

def admits (threshold level : Level) : Bool := level.verbosity ≤ threshold.verbosity

def name : Level → String
  | .error => "ERROR"
  | .warning => "WARN"
  | .info => "INFO"
  | .debug => "DEBUG"

theorem admits_trans {a b c : Level} (h : a.admits b = true) (h' : b.admits c = true) :
    a.admits c = true := by
  simp only [admits, decide_eq_true_eq] at *
  omega

end Level
end TokenDump.Log
