import TokenDump.Toml.Value

/-! # Defining tables

Statements define tables step by step. No key is defined twice, no table is opened twice, and a
table that has a header is not extended by dotted keys from elsewhere. -/
namespace TokenDump.Toml

mutual

/-- A table under definition. -/
inductive Table where
  /-- `implied` holds of tables that were only named on the way to another one, `dotted` of those
  among them that a dotted key named. -/
  | mk (implied dotted : Bool) (entries : List (String × Item))

inductive Item where
  | value (v : Value)
  | table (t : Table)
  /-- An array of tables, the latest one first. -/
  | tables (ts : List Table)

end

namespace Table

def implied : Table → Bool
  | mk i _ _ => i

def dotted : Table → Bool
  | mk _ d _ => d

def entries : Table → List (String × Item)
  | mk _ _ es => es

def empty : Table := mk false false []

/-- A table that is named on the way. -/
def passed (dotted : Bool) : Table := mk true dotted []

def get? (t : Table) (key : String) : Option Item := t.entries.lookup key

/-- Replaces the item of a key, or adds it at the end. -/
def set (t : Table) (key : String) (item : Item) : Table :=
  let rec go : List (String × Item) → List (String × Item)
    | [] => [(key, item)]
    | (k, i) :: rest => if k = key then (k, item) :: rest else (k, i) :: go rest
  mk t.implied t.dotted (go t.entries)

def erase (t : Table) (key : String) : Table :=
  mk t.implied t.dotted (t.entries.filter (·.1 ≠ key))

/-- Assigns a value to a key, the tables on its path being made as needed. Only tables that dotted
keys have made may be extended. -/
def assign (top : Bool) (t : Table) : List String → String → Value → Option Table
  | [], key, v =>
    if (top || t.dotted) && (t.get? key).isNone then some (t.set key (.value v)) else none
  | part :: path, key, v =>
    match t.get? part with
    | none => (assign false (passed true) path key v).map fun s => t.set part (.table s)
    | some (.value _) => none
    | some (.table s) =>
      if s.implied then (assign false s path key v).map fun s => t.set part (.table s) else none
    | some (.tables ts) =>
      match ts with
      | [] => none
      | s :: earlier => (assign false s path key v).map fun s => t.set part (.tables (s :: earlier))

/-- Changes the table at a path that a header names; the tables on the way are made as needed. -/
def modify {α : Type} (f : Table → Option (α × Table)) (t : Table) :
    List String → Option (α × Table)
  | [] => f t
  | part :: path =>
    match t.get? part with
    | none => (modify f (passed false) path).map fun (a, s) => (a, t.set part (.table s))
    | some (.value _) => none
    | some (.table s) => (modify f s path).map fun (a, s) => (a, t.set part (.table s))
    | some (.tables ts) =>
      match ts with
      | [] => none
      | s :: earlier => (modify f s path).map fun (a, s) => (a, t.set part (.tables (s :: earlier)))

end Table

/-- A document under definition: the root, and the table that assignments go to. -/
structure Draft where
  root : Table
  /-- Where the open table belongs; `none` as long as it is the root itself. -/
  place : Option (List String × String)
  isArray : Bool
  opened : Table

namespace Draft

def start : Draft := ⟨.empty, none, false, .empty⟩

/-- The root with the open table put in its place. -/
def close (d : Draft) : Option Table :=
  match d.place with
  | none => some d.opened
  | some (path, key) =>
    (d.root.modify (fun parent =>
      if d.isArray then
        match parent.get? key with
        | none => some ((), parent.set key (.tables [d.opened]))
        | some (.tables ts) => some ((), parent.set key (.tables (d.opened :: ts)))
        | some _ => none
      else some ((), parent.set key (.table d.opened))) path).map (·.2)

/-- Takes out of its parent the table that a header opens. Only a table that other headers have
named on their way may be there already. -/
def claim (key : String) (parent : Table) : Option (Table × Table) :=
  match parent.get? key with
  | none => some (.empty, parent)
  | some (.table (.mk true false entries)) => some (.mk false false entries, parent.erase key)
  | some _ => none

/-- Makes sure that the key stands for an array of tables. -/
def claimArray (key : String) (parent : Table) : Option (Unit × Table) :=
  match parent.get? key with
  | none => some ((), parent.set key (.tables []))
  | some (.tables _) => some ((), parent)
  | some _ => none

def perform (d : Draft) : Statement → Option Draft
  | .assign path key v => (d.opened.assign true path key v).map fun t => { d with opened := t }
  | .header path key => do
    let root ← d.close
    let (opened, root) ← root.modify (claim key) path
    return ⟨root, some (path, key), false, opened⟩
  | .arrayHeader path key => do
    let root ← d.close
    let (_, root) ← root.modify (claimArray key) path
    return ⟨root, some (path, key), true, .empty⟩

end Draft

mutual

/-- The entries of a finished table. -/
def Table.finished : Table → List (String × Value)
  | .mk _ _ entries => finishedEntries entries

def Item.finished : Item → Value
  | .value v => v
  | .table t => .table t.finished
  | .tables ts => .tables (finishedTables ts).reverse

def finishedEntries : List (String × Item) → List (String × Value)
  | [] => []
  | (key, item) :: rest => (key, item.finished) :: finishedEntries rest

def finishedTables : List Table → List (List (String × Value))
  | [] => []
  | t :: rest => t.finished :: finishedTables rest

end

/-- The document that statements define. -/
def define? (statements : List Statement) : Option Document := do
  let draft ← statements.foldlM Draft.perform .start
  let root ← draft.close
  return root.finished

/-- The table that the assignments between braces define. -/
def defineInline? (assignments : List (List String × String × Value)) :
    Option (List (String × Value)) := do
  let t ← assignments.foldlM (fun t (path, key, v) => t.assign true path key v) Table.empty
  return t.finished

end TokenDump.Toml
