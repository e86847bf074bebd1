import TokenDump.Fault
import TokenDump.Text.Utf8
import TokenDump.Source.Feed

/-! # Folders

A folder is a tree of files and directories with a place in it that names are relative to. Names are
resolved part by part, as the operating system does it. -/
namespace TokenDump

/-- A file that keeps no content. -/
inductive Device where
  /-- Is empty, and takes every byte. -/
  | null
  /-- Hands out zeros, and takes every byte. -/
  | zero
  /-- Hands out zeros, and has no room for a byte. -/
  | full
  /-- Passes every byte on to standard output. -/
  | output
deriving DecidableEq

/-- The zeros that stand for what a device hands out that has no end. Reading the device itself would
go on for ever; what is made of these zeros says nothing about it. -/
def Device.zeros : Nat := 262144

/-- What is read from a device. -/
def Device.content : Device → Bytes
  | .null | .output => []
  | .zero | .full => List.replicate zeros 0

inductive Node where
  | file (content : Bytes)
  | directory
  | device (device : Device)
deriving DecidableEq

/-- The parts of a name, from the root of the tree. -/
abbrev Path := List String

structure Folder where
  /-- The directory that names are relative to. -/
  here : Path
  /-- The nodes of the tree by their paths. -/
  nodes : List (Path × Node)
deriving DecidableEq

namespace Folder

/-- What is at a path. Directories on the way to a node need no entry of their own. -/
def node? (f : Folder) (path : Path) : Option Node :=
  match f.nodes.lookup path with
  | some node => some node
  | none =>
    if path.isPrefixOf f.here || f.nodes.any (fun (p, _) => path.isPrefixOf p) then some .directory
    else none

/-- Puts a node at a path, in place of what is there. -/
def put (f : Folder) (path : Path) (node : Node) : Folder :=
  { f with nodes := replace f.nodes }
where
  replace : List (Path × Node) → List (Path × Node)
    | [] => [(path, node)]
    | (p, n) :: rest => if p = path then (path, node) :: rest else (p, n) :: replace rest

/-- The devices that every system has, by all their names. -/
def devices : List (Path × Node) :=
  [(["dev", "null"], .device .null), (["dev", "zero"], .device .zero),
   (["dev", "full"], .device .full), (["dev", "stdout"], .device .output),
   (["dev", "fd", "1"], .device .output), (["proc", "self", "fd", "1"], .device .output)]

/-- The folder after bytes were written to a path. -/
def write (f : Folder) (path : Path) (content : Bytes) : Folder :=
  match f.node? path with
  | some (.device _) => f
  | _ => f.put path (.file content)

/-- Longest part of a name, and longest name, in bytes. -/
def partLimit : Nat := 255
def nameLimit : Nat := 4095

/-- Follows the parts of a name from a path. Above the root there is only the root. -/
def follow (f : Folder) (path : Path) : List String → Except Fault Path
  | [] => .ok path
  | part :: rest =>
    match f.node? path with
    | none => .error .notFound
    | some .directory =>
      if partLimit < Utf8.size part.toList then .error .nameTooLong
      else if part = "." then follow f path rest
      else if part = ".." then follow f path.dropLast rest
      else follow f (path ++ [part]) rest
    | some _ => .error .notADirectory

/-- A name taken apart. -/
structure Route where
  /-- Where the name is followed from: the root if it starts with a slash. -/
  start : Path
  parts : List String
  /-- Whether the name ends in a slash and so asks for a directory. -/
  wantsDirectory : Bool

def route (f : Folder) (name : String) : Except Fault Route := do
  if name.toList.contains '\x00' then throw .nulInName
  if name = "" then throw .notFound
  if nameLimit < Utf8.size name.toList then throw .nameTooLong
  let start := if name.toList.head? = some '/' then [] else f.here
  return ⟨start, (name.splitOn "/").filter (· ≠ ""), name.toList.getLast? = some '/'⟩

/-- Where a name leads: a path, and what is there if anything is. -/
structure Place where
  path : Path
  node : Option Node
  wantsDirectory : Bool

/-- Resolves a name. -/
def resolve (f : Folder) (name : String) : Except Fault Place := do
  let route ← f.route name
  let path ← f.follow route.start route.parts
  return ⟨path, f.node? path, route.wantsDirectory⟩

/-- Bytes that one fill of an open file holds at most. -/
def readBuffer : Nat := 8192

/-- Bytes that a file being written collects before they are passed on. -/
def writeBuffer : Nat := 8192

/-- Most bytes that a file can hold. -/
def fileLimit : Nat := 9223372036854775807

/-- Cuts bytes into pieces of `size` bytes, the last one possibly shorter. -/
def pieces (size : Nat) (bytes : Bytes) : List Bytes :=
  if _h : bytes = [] || size = 0 then [] else bytes.take size :: pieces size (bytes.drop size)
termination_by bytes.length
decreasing_by
  simp only [Bool.or_eq_true, decide_eq_true_eq, not_or] at _h
  have := List.length_pos_iff.2 _h.1
  simp only [List.length_drop]; omega

/-- Opens a file for reading. A directory can be opened, but not read. -/
def openFile (f : Folder) (name : String) : Except Fault Feed := do
  let place ← f.resolve name
  match place.node with
  | none => throw .notFound
  | some .directory => return [.fault .isADirectory]
  | some (.file content) =>
    if place.wantsDirectory then throw .notADirectory
    return .ofChunks (pieces readBuffer content)
  | some (.device device) =>
    if place.wantsDirectory then throw .notADirectory
    return .ofChunks (pieces readBuffer device.content)

/-- The whole content of a file. -/
def contentOf (f : Folder) (name : String) : Except Fault Bytes := do
  let place ← f.resolve name
  match place.node with
  | none => throw .notFound
  | some .directory => throw .isADirectory
  | some (.file content) =>
    if place.wantsDirectory then throw .notADirectory
    return content
  | some (.device device) =>
    if place.wantsDirectory then throw .notADirectory
    return device.content

/-- Creates a file, or empties the one that is there; the path is where it is to be written. A name
that asks for a directory is refused once there is a directory for its last part, whatever that part
is. -/
def createFile (f : Folder) (name : String) : Except Fault Path := do
  let route ← f.route name
  if route.wantsDirectory then
    let _ ← f.follow route.start (route.parts.dropLast ++ ["."])
    throw .isADirectory
  let path ← f.follow route.start route.parts
  if f.node? path = some .directory then throw .isADirectory
  return path

/-- The files of a folder, by their paths. -/
def files (f : Folder) : List (Path × Bytes) :=
  f.nodes.filterMap fun (path, node) =>
    match node with
    | .file content => some (path, content)
    | _ => none

/-- The files of `after` that are not in `before` or have another content there. -/
def changes (before after : Folder) : List (Path × Bytes) :=
  after.files.filter fun (path, content) => before.nodes.lookup path ≠ some (.file content)

end Folder
end TokenDump
