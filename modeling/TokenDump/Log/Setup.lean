import TokenDump.Settings.Basic
import TokenDump.Log.Recorder

/-! # Setting logging up

A process installs its logging settings once and its service once; a second attempt is refused. -/
namespace TokenDump.Log

structure Setup where
  settings : Option Settings.Logging
  /-- The threshold of the installed service. -/
  service : Option Level
deriving DecidableEq

inductive SetupError where
  | settingsInstalled
  | serviceInstalled
deriving DecidableEq

def SetupError.message : SetupError → String
  | .settingsInstalled => "Runtime preferences already initialized"
  | .serviceInstalled => "Global logger already initialized"

namespace Setup

def none : Setup := ⟨.none, .none⟩

def installSettings (s : Setup) (settings : Settings.Logging) : Except SetupError Setup :=
  if s.settings.isSome then .error .settingsInstalled else .ok { s with settings := some settings }

def installService (s : Setup) (threshold : Level) : Except SetupError Setup :=
  if s.service.isSome then .error .serviceInstalled else .ok { s with service := some threshold }

/-- Whether events for debugging would be accepted. -/
def admitsDebug (s : Setup) : Bool := s.service.any (·.admits .debug)

end Setup

/-- Whether the built-in limits make sense. -/
def limitsValid : Bool :=
  100 ≤ Recorder.usualCapacity && Recorder.usualCapacity ≤ 100000 && 0 < messageLimit

end TokenDump.Log
