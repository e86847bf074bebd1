/-! # Details

What a notice says besides its message: keys with values, each key once, in the order of the
keys. -/
namespace TokenDump.Log

/-- Keys with values, in the order of the keys, no key twice. -/
@[ext]
structure Details where
  entries : List (String × String)
  ordered : entries.Pairwise fun a b => a.1 < b.1
deriving DecidableEq

namespace Details

def empty : Details := ⟨[], .nil⟩

@[simp]
theorem entries_empty : empty.entries = [] := rfl

/-- Sets a key among entries; an earlier value of it is gone. -/
def setEntry (key value : String) : List (String × String) → List (String × String)
  | [] => [(key, value)]
  | (k, v) :: rest =>
    if key = k then (key, value) :: rest
    else if key < k then (key, value) :: (k, v) :: rest
    else (k, v) :: setEntry key value rest

theorem mem_setEntry {key value : String} {entry : String × String}
    {entries : List (String × String)} (h : entry ∈ setEntry key value entries) :
    entry = (key, value) ∨ entry ∈ entries := by
  induction entries with
  | nil => exact .inl (List.mem_singleton.mp h)
  | cons first rest ih =>
    rw [setEntry] at h
    split at h
    · exact (List.mem_cons.mp h).imp_right (List.mem_cons_of_mem _)
    · split at h
      · exact List.mem_cons.mp h
      · rcases List.mem_cons.mp h with rfl | h
        · exact .inr List.mem_cons_self
        · exact (ih h).imp_right (List.mem_cons_of_mem _)

theorem ordered_setEntry {entries : List (String × String)} (key value : String)
    (h : entries.Pairwise fun a b => a.1 < b.1) :
    (setEntry key value entries).Pairwise fun a b => a.1 < b.1 := by
  induction entries with
  | nil => exact List.pairwise_singleton _ _
  | cons first rest ih =>
    obtain ⟨hfirst, hrest⟩ := List.pairwise_cons.mp h
    rw [setEntry]
    split
    · rename_i heq
      exact List.pairwise_cons.mpr ⟨heq ▸ hfirst, hrest⟩
    · rename_i hne
      split
      · rename_i hlt
        refine List.pairwise_cons.mpr ⟨fun entry hentry => ?_, h⟩
        rcases List.mem_cons.mp hentry with rfl | hentry
        · exact hlt
        · exact String.lt_trans hlt (hfirst entry hentry)
      · rename_i hnot
        refine List.pairwise_cons.mpr ⟨fun entry hentry => ?_, ih hrest⟩
        rcases mem_setEntry hentry with rfl | hentry
        · exact Std.lt_of_le_of_ne (String.not_lt.mp hnot) (Ne.symm hne)
        · exact hfirst entry hentry

/-- Sets a key; an earlier value of it is gone. -/
def insert (key value : String) (details : Details) : Details :=
  ⟨setEntry key value details.entries, ordered_setEntry key value details.ordered⟩

/-- Sets keys one after the other, so that the last value of a key stays. -/
def insertAll (details : Details) (pairs : List (String × String)) : Details :=
  pairs.foldl (fun ds (key, value) => ds.insert key value) details

def ofList (pairs : List (String × String)) : Details := insertAll empty pairs

/-- Pairs give the details that they come to when they are set one after the other. -/
instance : Coe (List (String × String)) Details := ⟨ofList⟩

/-- The value of a key. -/
def lookup (details : Details) (key : String) : Option String := details.entries.lookup key

@[simp]
theorem lookup_empty (key : String) : empty.lookup key = none := rfl

def isEmpty (details : Details) : Bool := details.entries.isEmpty

/-- What is made of each key with its value, in the order of the keys. -/
def map {α : Type} (details : Details) (f : String × String → α) : List α := details.entries.map f

end Details
end TokenDump.Log
