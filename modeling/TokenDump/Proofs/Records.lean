import Mathlib.Data.List.Pairwise
import Mathlib.Tactic.MkIffOfInductiveProp
import TokenDump.Proofs.UniqueKeys
import TokenDump.Settings.Document

/-! # Records from documents

The entries of a table change a record place by place: what stands behind a known key changes the
place of this key and no other one, and unknown keys change nothing. An array stands for the table
of its items under the keys of the record, in order. -/
namespace TokenDump.Toml

variable {α β : Type}

/-- A place of a record: its key, what it holds, and how a value changes that. -/
structure Place (α : Type) where
  Content : Type
  key : String
  get : α → Content
  put : α → Content → α
  read : Content → Value → Except ShapeError Content
  get_put : ∀ a c, get (put a c) = c
  /-- Whether a value is taken does not depend on what the place holds. -/
  steady : ∀ c c' v d, read c v = .ok d → ∃ d', read c' v = .ok d'

namespace Place

def slot (p : Place α) : Slot α := (p.key, fun a v => do return p.put a (← p.read (p.get a) v))

/-- A place whose content is replaced by what the value stands for. -/
def replaced (key : String) (get : α → β) (put : α → β → α) (read : Value → Except ShapeError β)
    (get_put : ∀ a c, get (put a c) = c) : Place α where
  Content := β
  key := key
  get := get
  put := put
  read _ := read
  get_put := get_put
  steady _ _ _ d h := ⟨d, h⟩

def Takes (p : Place α) (v : Value) : Prop := ∃ c d, p.read c v = .ok d

/-- Places with different keys, neither of which is part of the other one. -/
@[mk_iff] structure Apart (p q : Place α) : Prop where
  key : p.key ≠ q.key
  left : ∀ a c, p.get (q.put a c) = p.get a
  right : ∀ a c, q.get (p.put a c) = q.get a

instance : @Std.Symm (Place α) Apart where
  symm _ _ h := ⟨h.key.symm, h.right, h.left⟩

end Place

/-- The slots of all places. -/
def slots (places : List (Place α)) : List (Slot α) := places.map Place.slot

/-- The entries that a value stands for in a record with these keys. A point in time is a table
without entries. -/
def Value.entries? (keys : List String) : Value → Option (List (String × Value))
  | .table entries => some entries
  | .array items => some (keys.zip items)
  | .tables items => some (keys.zip (items.map .table))
  | .datetime => some []
  | .string _ | .integer _ | .float _ | .boolean _ => none

variable {places : List (Place α)} {p q : Place α} {a b : α} {entries : List (String × Value)}
  {entry : String × Value} {fields : List (Slot α)} {key name : String} {v : Value}

theorem keys_slots (places : List (Place α)) : keys (slots places) = places.map Place.key :=
  List.map_map

theorem slot_ok_iff :
    p.slot.2 a v = .ok b ↔ ∃ c, p.read (p.get a) v = .ok c ∧ p.put a c = b := by
  have hslot : p.slot.2 a v = p.read (p.get a) v >>= fun c => pure (p.put a c) := rfl
  rw [hslot]
  cases p.read (p.get a) v with
  | error e => simp [bind, Except.bind]
  | ok c => simp [bind, Except.bind, pure, Except.pure]

theorem nodup_slots (h : places.Pairwise Place.Apart) : (keys (slots places)).Nodup := by
  rw [keys_slots, List.Nodup, List.pairwise_map]
  exact h.imp Place.Apart.key

/-- What changes one place leaves the places with other keys as they are. -/
theorem get_put_of_ne (h : places.Pairwise Place.Apart) (hp : p ∈ places) (hq : q ∈ places)
    (hne : q.key ≠ p.key) (a : α) (c : q.Content) : p.get (q.put a c) = p.get a := by
  have hpq : p ≠ q := by
    rintro rfl
    exact hne rfl
  exact (h.forall hp hq hpq).left a c

theorem mem_of_lookup {γ : Type} {items : List (String × γ)} {item : γ}
    (h : items.lookup key = some item) : (key, item) ∈ items := by
  obtain ⟨before, after, hsplit, -⟩ := List.lookup_eq_some_iff.mp h
  simp [hsplit]

theorem lookup_of_mem {γ : Type} {items : List (String × γ)} {item : γ}
    (hn : (keys items).Nodup) (h : (key, item) ∈ items) : items.lookup key = some item := by
  induction items with
  | nil => simp at h
  | cons first items ih =>
    obtain ⟨hfirst, hrest⟩ := List.nodup_cons.mp hn
    rcases List.mem_cons.mp h with rfl | h
    · simp
    · have hne : key ≠ first.1 := by
        rintro rfl
        exact hfirst (mem_keys h)
      rw [List.lookup_cons, beq_false_of_ne hne]
      exact ih hrest h

/-- What one entry does to a record. -/
def readEntry (fields : List (Slot α)) (a : α) (entry : String × Value) : Except ShapeError α :=
  match fields.lookup entry.1 with
  | some read => read a entry.2
  | none => .ok a

theorem readEntries_cons (fields : List (Slot α)) (a : α) (entry : String × Value)
    (entries : List (String × Value)) : readEntries fields a (entry :: entries) =
      readEntry fields a entry >>= fun a => readEntries fields a entries := rfl

theorem readEntries_cons_ok {entry : String × Value}
    (h : readEntries fields a (entry :: entries) = .ok b) :
    ∃ c, readEntry fields a entry = .ok c ∧ readEntries fields c entries = .ok b := by
  rw [readEntries_cons] at h
  cases hc : readEntry fields a entry with
  | error error => simp [hc, bind, Except.bind] at h
  | ok c => exact ⟨c, rfl, by simpa [hc, bind, Except.bind] using h⟩

theorem readEntry_of_mem {slot : Slot α} (hn : (keys fields).Nodup) (h : slot ∈ fields) (a : α)
    (v : Value) : readEntry fields a (slot.1, v) = slot.2 a v := by
  rw [readEntry, lookup_of_mem hn h]

theorem readEntry_known (h : places.Pairwise Place.Apart) (hp : p ∈ places) (a : α) (v : Value) :
    readEntry (slots places) a (p.key, v) = p.slot.2 a v :=
  readEntry_of_mem (nodup_slots h) (List.mem_map_of_mem hp) a v

theorem readEntry_unknown (h : ∀ p ∈ places, p.key ≠ key) (a : α) (v : Value) :
    readEntry (slots places) a (key, v) = .ok a := by
  have hnone : (slots places).lookup key = none := by
    rw [List.lookup_eq_none_iff]
    intro slot hslot
    obtain ⟨p, hp, rfl⟩ := List.mem_map.mp hslot
    exact bne_iff_ne.mpr (h p hp).symm
  simp only [readEntry, hnone]

theorem readEntry_place (h : places.Pairwise Place.Apart) (hp : p ∈ places)
    (hr : readEntry (slots places) a entry = .ok b) :
    (entry.1 = p.key → p.read (p.get a) entry.2 = .ok (p.get b)) ∧
      (entry.1 ≠ p.key → p.get b = p.get a) := by
  obtain ⟨k, v⟩ := entry
  refine ⟨?_, fun hne => ?_⟩
  · rintro rfl
    rw [readEntry_known h hp] at hr
    obtain ⟨c, hc, rfl⟩ := slot_ok_iff.mp hr
    rw [p.get_put]
    exact hc
  · by_cases hk : ∃ q ∈ places, q.key = k
    · obtain ⟨q, hq, rfl⟩ := hk
      rw [readEntry_known h hq] at hr
      obtain ⟨c, -, rfl⟩ := slot_ok_iff.mp hr
      exact get_put_of_ne h hp hq hne a c
    · have hnone : ∀ q ∈ places, q.key ≠ k := fun q hq hkey => hk ⟨q, hq, hkey⟩
      rw [readEntry_unknown hnone] at hr
      rw [Except.ok.inj hr]

/-- A place holds what the entry for its key makes of it, or what it held before. -/
theorem readEntries_place (h : places.Pairwise Place.Apart) (hp : p ∈ places)
    (hn : (keys entries).Nodup) (hr : readEntries (slots places) a entries = .ok b) :
    (∀ v, (p.key, v) ∈ entries → p.read (p.get a) v = .ok (p.get b)) ∧
      ((∀ v, (p.key, v) ∉ entries) → p.get b = p.get a) := by
  induction entries generalizing a with
  | nil =>
    obtain rfl : a = b := Except.ok.inj hr
    simp
  | cons entry entries ih =>
    obtain ⟨c, hentry, hrest⟩ := readEntries_cons_ok hr
    obtain ⟨hfresh, hn⟩ := List.nodup_cons.mp hn
    obtain ⟨hown, hother⟩ := readEntry_place h hp hentry
    obtain ⟨hgiven, hsame⟩ := ih hn hrest
    refine ⟨fun v hv => ?_, fun hno => ?_⟩
    · rcases List.mem_cons.mp hv with rfl | hv
      · rw [hsame fun w hw => hfresh (mem_keys hw)]
        exact hown rfl
      · have hne : entry.1 ≠ p.key := fun heq => hfresh (heq ▸ mem_keys hv)
        rw [← hother hne]
        exact hgiven v hv
    · have hne : entry.1 ≠ p.key := by
        rintro heq
        exact hno entry.2 (heq ▸ List.mem_cons_self)
      rw [hsame fun v hv => hno v (List.mem_cons_of_mem _ hv), hother hne]

/-- Entries are refused just if a place does not take what stands behind its key. -/
theorem readEntries_ok_iff (h : places.Pairwise Place.Apart) (a : α) :
    (∃ b, readEntries (slots places) a entries = .ok b) ↔
      ∀ p ∈ places, ∀ v, (p.key, v) ∈ entries → p.Takes v := by
  induction entries generalizing a with
  | nil => exact ⟨fun _ => by simp, fun _ => ⟨a, rfl⟩⟩
  | cons entry entries ih =>
    constructor
    · rintro ⟨b, hr⟩ p hp v hv
      obtain ⟨c, hentry, hrest⟩ := readEntries_cons_ok hr
      rcases List.mem_cons.mp hv with rfl | hv
      · rw [readEntry_known h hp] at hentry
        obtain ⟨d, hd, -⟩ := slot_ok_iff.mp hentry
        exact ⟨_, d, hd⟩
      · exact (ih c).mp ⟨b, hrest⟩ p hp v hv
    · intro htakes
      obtain ⟨k, v⟩ := entry
      have hentry : ∃ c, readEntry (slots places) a (k, v) = .ok c := by
        by_cases hk : ∃ p ∈ places, p.key = k
        · obtain ⟨p, hp, rfl⟩ := hk
          obtain ⟨c, d, hd⟩ := htakes p hp v List.mem_cons_self
          obtain ⟨d', hd'⟩ := p.steady c (p.get a) v d hd
          rw [readEntry_known h hp]
          exact ⟨_, slot_ok_iff.mpr ⟨d', hd', rfl⟩⟩
        · exact ⟨a, readEntry_unknown (fun p hp hkey => hk ⟨p, hp, hkey⟩) a v⟩
      obtain ⟨c, hc⟩ := hentry
      obtain ⟨b, hb⟩ := (ih c).mpr fun p hp v hv => htakes p hp v (List.mem_cons_of_mem _ hv)
      refine ⟨b, ?_⟩
      rw [readEntries_cons, hc]
      exact hb

theorem foldlM_zip {part : List (Slot α)} (hn : (keys fields).Nodup)
    (hpart : ∀ slot ∈ part, slot ∈ fields) (items : List Value) (a : α) :
    (part.zip items).foldlM (fun a item => item.1.2 a item.2) a =
      readEntries fields a ((keys part).zip items) := by
  induction part generalizing items a with
  | nil => rfl
  | cons slot part ih =>
    cases items with
    | nil => rfl
    | cons v items =>
      obtain ⟨hslot, hpart⟩ := List.forall_mem_cons.mp hpart
      have hentry := readEntry_of_mem hn hslot a v
      rw [keys_cons, List.zip_cons_cons, List.zip_cons_cons, List.foldlM_cons, readEntries_cons,
        hentry]
      exact congrArg (slot.2 a v >>= ·) (funext fun a => ih hpart items a)

theorem readItems_eq (hn : (keys fields).Nodup) (a : α) (items : List Value) :
    readItems fields a items = readEntries fields a ((keys fields).zip items) :=
  foldlM_zip hn (fun _ h => h) items a

theorem record_ok_iff (hn : (keys fields).Nodup) : v.record name fields a = .ok b ↔
    ∃ entries, v.entries? (keys fields) = some entries ∧ readEntries fields a entries = .ok b := by
  cases v with
  | table entries => simp [Value.record, Value.entries?]
  | array items => simp [Value.record, Value.entries?, readItems_eq hn]
  | tables items => simp [Value.record, Value.entries?, readItems_eq hn]
  | datetime => simp [Value.record, Value.entries?, readEntries, pure, Except.pure]
  | _ => simp [Value.record, Value.entries?]

theorem keys_zip_isPrefix (names : List String) (items : List Value) :
    keys (names.zip items) <+: names := by
  induction names generalizing items with
  | nil => exact List.prefix_rfl
  | cons name names ih =>
    cases items with
    | nil => exact List.nil_prefix
    | cons v items => exact List.cons_prefix_cons.mpr ⟨rfl, ih items⟩

theorem nodup_entries (hn : (keys fields).Nodup) (hv : v.Tidy)
    (h : v.entries? (keys fields) = some entries) : (keys entries).Nodup := by
  have hzip (items : List Value) : (keys ((keys fields).zip items)).Nodup :=
    hn.sublist (keys_zip_isPrefix _ items).sublist
  cases hv with
  | table distinct tidy =>
    obtain rfl := Option.some.inj h
    exact distinct
  | array =>
    obtain rfl := Option.some.inj h
    exact hzip _
  | tables =>
    obtain rfl := Option.some.inj h
    exact hzip _
  | datetime =>
    obtain rfl := Option.some.inj h
    exact List.nodup_nil
  | _ => simp [Value.entries?] at h

namespace Place

/-- A place that holds a record. -/
def nested (key : String) (get : α → β) (put : α → β → α) (name : String) (places : List (Place β))
    (apart : places.Pairwise Apart) (get_put : ∀ a c, get (put a c) = c) : Place α where
  Content := β
  key := key
  get := get
  put := put
  read c v := v.record name (slots places) c
  get_put := get_put
  steady c c' v d h := by
    obtain ⟨entries, hentries, hread⟩ := (record_ok_iff (nodup_slots apart)).mp h
    have htakes := (readEntries_ok_iff apart c).mp ⟨d, hread⟩
    obtain ⟨d', hd'⟩ := (readEntries_ok_iff apart c').mpr htakes
    exact ⟨d', (record_ok_iff (nodup_slots apart)).mpr ⟨entries, hentries, hd'⟩⟩

theorem takes_replaced {get : α → β} {put : α → β → α} {read : Value → Except ShapeError β}
    {get_put : ∀ a c, get (put a c) = c} :
    (replaced key get put read get_put).Takes v ↔ ∃ c, read v = .ok c :=
  ⟨fun ⟨_, d, h⟩ => ⟨d, h⟩, fun ⟨c, h⟩ => ⟨c, c, h⟩⟩

theorem takes_nested {get : α → β} {put : α → β → α} {places : List (Place β)}
    {apart : places.Pairwise Apart} {get_put : ∀ a c, get (put a c) = c} (c : β) :
    (nested key get put name places apart get_put).Takes v ↔
      ∃ entries, v.entries? (keys (slots places)) = some entries ∧
        ∀ p ∈ places, ∀ w, (p.key, w) ∈ entries → p.Takes w := by
  constructor
  · rintro ⟨c, d, h⟩
    obtain ⟨entries, hentries, hread⟩ := (record_ok_iff (nodup_slots apart)).mp h
    exact ⟨entries, hentries, (readEntries_ok_iff apart c).mp ⟨d, hread⟩⟩
  · rintro ⟨entries, hentries, htakes⟩
    obtain ⟨d, hread⟩ := (readEntries_ok_iff apart c).mpr htakes
    exact ⟨c, d, (record_ok_iff (nodup_slots apart)).mpr ⟨entries, hentries, hread⟩⟩

end Place

end TokenDump.Toml
