import TokenDump.CommandLine.Run
import Std.Time.DateTime.Timestamp

/-! # The program

Gathers the environment, the time and the files that the arguments name, runs on them, and carries
out what the run leaves behind. -/
namespace TokenDump.CommandLine

/-- The paths that are passed on the way from a directory to what a name leads to. -/
def visited (here : Path) (name : String) : List Path :=
  let start := if name.startsWith "/" then [] else here
  let step := fun (path, passed) part =>
    let path := if part = "." then path else if part = ".." then path.dropLast else path ++ [part]
    (path, path :: passed)
  (((name.splitOn "/").filter (· ≠ "")).foldl step (start, ([] : List Path))).2

def fullName (path : Path) : String := "/" ++ String.intercalate "/" path

/-- What is at a path. What cannot be read counts as missing. -/
def nodeAt (path : Path) : IO (Option Node) := do
  if let some device := Folder.devices.lookup path then return some device
  match ← (IO.FS.readBinFile (fullName path)).toBaseIO with
  | .ok content => return some (.file content.toList)
  | .error (.inappropriateType ..) => return some .directory
  | .error _ => return none

/-- The part of the file system that names lead through. -/
def gather (names : List String) : IO Folder := do
  let here := ((← IO.currentDir).toString.splitOn "/").filter (· ≠ "")
  let nodes ← (names.flatMap (visited here)).eraseDups.filterMapM fun path => do
    return (← nodeAt path).map (path, ·)
  return ⟨here, nodes⟩

def environment : IO Environment :=
  Environment.names.filterMapM fun name => do
    let name := Environment.family ++ name
    return (← IO.getEnv name).map fun text => (name, Utf8.encode text.toList)

/-- The time that a run starts at. How long it takes is not known before it. -/
def clock : IO Clock := do
  let passed := (← Std.Time.Timestamp.now).toDurationSinceUnixEpoch
  return ⟨⟨passed.second.val, passed.nano.val.toNat⟩, 0⟩

end TokenDump.CommandLine

open TokenDump CommandLine in
def main (arguments : List String) : IO UInt32 := do
  let before ← gather (request arguments).files
  let outcome := run (← environment) (← clock) before arguments
  for (path, content) in Folder.changes before outcome.folder do
    IO.FS.writeBinFile (fullName path) ⟨content.toArray⟩
  let out ← IO.getStdout
  out.write ⟨outcome.output.toArray⟩
  out.flush
  for line in outcome.diagnostics do
    IO.eprintln line
  return UInt32.ofNat outcome.exitCode
