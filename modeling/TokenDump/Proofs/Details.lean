import Mathlib.Data.List.Induction
import Mathlib.Data.String.Basic
import TokenDump.Log.Event

/-! # Details

The details of a notice hold each key once. Setting a key replaces its value and leaves the other
keys alone, so that of pairs set one after the other the last value of each key stays. -/
namespace TokenDump.Log.Details

variable {ds : Details} {other key value : String}

theorem lookup_insert_self (key value : String) (ds : Details) :
    (ds.insert key value).lookup key = some value := by
  change (setEntry key value ds.entries).lookup key = some value
  induction ds.entries with
  | nil => simp [setEntry]
  | cons entry rest ih =>
    obtain ⟨k, v⟩ := entry
    rw [setEntry]
    split
    · simp
    · split
      · simp
      · rename_i hne _
        simp [List.lookup_cons, beq_eq_false_iff_ne.mpr hne, ih]

theorem lookup_insert_of_ne (h : other ≠ key) (value : String) (ds : Details) :
    (ds.insert key value).lookup other = ds.lookup other := by
  change (setEntry key value ds.entries).lookup other = ds.entries.lookup other
  have hother : (other == key) = false := beq_eq_false_iff_ne.mpr h
  induction ds.entries with
  | nil => simp [setEntry, List.lookup_cons, hother]
  | cons entry rest ih =>
    obtain ⟨k, v⟩ := entry
    rw [setEntry]
    split
    · rename_i heq
      subst heq
      simp [List.lookup_cons, hother]
    · split
      · simp [List.lookup_cons, hother]
      · simp only [List.lookup_cons, ih]

/-- Setting a key leaves the other keys alone. -/
theorem lookup_insert (key other value : String) (ds : Details) :
    (ds.insert key value).lookup other = if other = key then some value else ds.lookup other := by
  by_cases h : other = key
  · rw [if_pos h, h, lookup_insert_self]
  · rw [if_neg h, lookup_insert_of_ne h]

theorem nodup_keys (ds : Details) : (ds.map Prod.fst).Nodup :=
  List.pairwise_map.mpr (ds.ordered.imp fun hlt => hlt.ne)

theorem isEmpty_iff : ds.isEmpty = true ↔ ds = .empty := by
  obtain ⟨entries, ordered⟩ := ds
  simp [isEmpty, empty]

/-! ## Setting one key after the other -/

theorem ofList_concat (pairs : List (String × String)) (pair : String × String) :
    ofList (pairs ++ [pair]) = (ofList pairs).insert pair.1 pair.2 := by
  simp [ofList, insertAll]

/-- The last value of a key is the one that stays. -/
theorem lookup_ofList (pairs : List (String × String)) (key : String) :
    (ofList pairs).lookup key = pairs.reverse.lookup key := by
  induction pairs using List.reverseRecOn with
  | nil => rfl
  | append_singleton pairs pair ih =>
    rw [ofList_concat, lookup_insert, ih, List.reverse_append, List.reverse_singleton,
      List.singleton_append, List.lookup_cons]
    by_cases h : key = pair.1
    · simp [h]
    · rw [if_neg h, beq_eq_false_iff_ne.mpr h]

theorem ofList_eq_empty (pairs : List (String × String)) : ofList pairs = .empty ↔ pairs = [] := by
  induction pairs using List.reverseRecOn with
  | nil => exact iff_of_true rfl rfl
  | append_singleton pairs pair ih =>
    have hlookup := lookup_insert_self pair.1 pair.2 (ofList pairs)
    refine iff_of_false (fun hempty => ?_) (by simp)
    rw [← ofList_concat, hempty] at hlookup
    simp at hlookup

end TokenDump.Log.Details
