import Mathlib.Data.List.Nodup
import TokenDump.Toml.Parser

/-! # Keys of documents

What is read from a text has no key twice in any of its tables, however deep they are and whether
they were written between braces, with headers or with dotted keys. -/
namespace TokenDump.Toml

def keys {α : Type} (entries : List (String × α)) : List String := entries.map Prod.fst

@[simp] theorem keys_nil {α : Type} : keys ([] : List (String × α)) = [] := rfl

@[simp] theorem keys_cons {α : Type} (entry : String × α) (entries : List (String × α)) :
    keys (entry :: entries) = entry.1 :: keys entries := rfl

theorem mem_keys {α : Type} {key : String} {a : α} {entries : List (String × α)}
    (h : (key, a) ∈ entries) : key ∈ keys entries := List.mem_map_of_mem h

/-- No table in the value has a key twice. -/
inductive Value.Tidy : Value → Prop
  | string (text : String) : Tidy (.string text)
  | integer (n : Int) : Tidy (.integer n)
  | float (value : Real) : Tidy (.float value)
  | boolean (b : Bool) : Tidy (.boolean b)
  | datetime : Tidy .datetime
  | array {items : List Value} (tidy : ∀ v ∈ items, v.Tidy) : Tidy (.array items)
  | table {entries : List (String × Value)} (distinct : (keys entries).Nodup)
      (tidy : ∀ entry ∈ entries, Value.Tidy entry.2) : Tidy (.table entries)
  | tables {items : List (List (String × Value))}
      (tidy : ∀ entries ∈ items, Value.Tidy (.table entries)) : Tidy (.tables items)

mutual

/-- The same of a table under definition. -/
inductive Table.Tidy : Table → Prop
  | mk {implied dotted : Bool} {entries : List (String × Item)} (distinct : (keys entries).Nodup)
      (tidy : ∀ entry ∈ entries, Item.Tidy entry.2) : Table.Tidy (.mk implied dotted entries)

inductive Item.Tidy : Item → Prop
  | value {v : Value} (tidy : v.Tidy) : Item.Tidy (.value v)
  | table {t : Table} (tidy : t.Tidy) : Item.Tidy (.table t)
  | tables {ts : List Table} (tidy : ∀ t ∈ ts, t.Tidy) : Item.Tidy (.tables ts)

end

/-- What holds of a result, if there is one. -/
def Yields {α : Type} (x : Option α) (P : α → Prop) : Prop := ∀ a, x = some a → P a

variable {α β : Type} {P : α → Prop} {Q : β → Prop} {x : Option α} {t s : Table} {item : Item}
  {key : String} {path : List String} {v : Value}

theorem yields_none : Yields none P := fun _ h => by simp at h

theorem yields_some {a : α} (h : P a) : Yields (some a) P := fun b hb => by
  obtain rfl := Option.some.inj hb
  exact h

theorem Yields.bind {f : α → Option β} (hx : Yields x P) (hf : ∀ a, P a → Yields (f a) Q) :
    Yields (x >>= f) Q := by
  cases x with
  | none => exact yields_none
  | some a => exact hf a (hx a rfl)

theorem Yields.map {f : α → β} (hx : Yields x P) (hf : ∀ a, P a → Q (f a)) :
    Yields (x.map f) Q := by
  cases x with
  | none => exact yields_none
  | some a => exact yields_some (hf a (hx a rfl))

theorem yields_foldlM {f : β → α → Option β} {items : List α} (h : ∀ a ∈ items, P a)
    (hf : ∀ b a, Q b → P a → Yields (f b a) Q) {b : β} (hb : Q b) :
    Yields (items.foldlM f b) Q := by
  induction items generalizing b with
  | nil => exact yields_some hb
  | cons a items ih =>
    rw [List.foldlM_cons]
    have hstep := hf b a hb (h a List.mem_cons_self)
    exact hstep.bind fun b hb => ih (fun a ha => h a (List.mem_cons_of_mem _ ha)) hb

namespace Table

theorem Tidy.distinct (h : t.Tidy) : (keys t.entries).Nodup := by
  cases h with
  | mk distinct tidy => exact distinct

theorem Tidy.items (h : t.Tidy) : ∀ entry ∈ t.entries, entry.2.Tidy := by
  cases h with
  | mk distinct tidy => exact tidy

theorem tidy_empty : empty.Tidy := .mk List.nodup_nil (by simp)

theorem tidy_passed (dotted : Bool) : (passed dotted).Tidy := .mk List.nodup_nil (by simp)

theorem keys_go (key : String) (item : Item) (entries : List (String × Item)) :
    keys (set.go key item entries) =
      if key ∈ keys entries then keys entries else keys entries ++ [key] := by
  induction entries with
  | nil => simp [set.go]
  | cons entry entries ih =>
    obtain ⟨k, i⟩ := entry
    rw [set.go]
    by_cases hk : k = key
    · simp [hk]
    · have hne : ¬ key = k := fun h => hk h.symm
      simp only [hk, if_false, keys_cons, List.mem_cons, hne, false_or, ih]
      split
      · rfl
      · rfl

theorem mem_go {entry : String × Item} {entries : List (String × Item)}
    (h : entry ∈ set.go key item entries) : entry = (key, item) ∨ entry ∈ entries := by
  induction entries with
  | nil => simpa [set.go] using h
  | cons first entries ih =>
    obtain ⟨k, i⟩ := first
    rw [set.go] at h
    split at h
    · subst k
      rcases List.mem_cons.mp h with rfl | h
      · exact .inl rfl
      · exact .inr (List.mem_cons_of_mem _ h)
    · rcases List.mem_cons.mp h with rfl | h
      · exact .inr List.mem_cons_self
      · exact (ih h).imp_right (List.mem_cons_of_mem _)

theorem Tidy.set (h : t.Tidy) (hi : item.Tidy) : (t.set key item).Tidy := by
  refine .mk ?_ fun entry he => ?_
  · rw [keys_go]
    split
    · exact h.distinct
    · rename_i hkey
      exact List.nodup_append.mpr ⟨h.distinct, List.nodup_singleton _, by
        rintro a ha b hb rfl
        exact hkey (List.mem_singleton.mp hb ▸ ha)⟩
  · rcases mem_go he with rfl | he
    · exact hi
    · exact h.items entry he

theorem Tidy.erase (h : t.Tidy) : (t.erase key).Tidy :=
  .mk (h.distinct.sublist (List.filter_sublist.map Prod.fst))
    fun entry he => h.items entry (List.mem_of_mem_filter he)

theorem Tidy.get? (h : t.Tidy) (hg : t.get? key = some item) : item.Tidy := by
  obtain ⟨before, after, hsplit, -⟩ := List.lookup_eq_some_iff.mp hg
  exact h.items (key, item) (by simp [hsplit])

theorem Tidy.assign {top : Bool} (h : t.Tidy) (hv : v.Tidy) :
    Yields (t.assign top path key v) Table.Tidy := by
  induction path generalizing t top with
  | nil =>
    rw [Table.assign]
    split
    · exact yields_some (h.set (.value hv))
    · exact yields_none
  | cons part path ih =>
    rw [Table.assign]
    split
    · exact (ih (tidy_passed true)).map fun s hs => h.set (.table hs)
    · exact yields_none
    · rename_i s hs
      cases h.get? hs with
      | table tidy =>
        split
        · exact (ih tidy).map fun s hs => h.set (.table hs)
        · exact yields_none
    · rename_i ts hts
      cases h.get? hts with
      | tables tidy =>
        split
        · exact yields_none
        · rename_i s earlier
          refine (ih (tidy s List.mem_cons_self)).map fun s hs => h.set (.tables ?_)
          exact List.forall_mem_cons.mpr ⟨hs, fun t ht => tidy t (List.mem_cons_of_mem _ ht)⟩

theorem Tidy.modify {f : Table → Option (α × Table)}
    (hf : ∀ t, t.Tidy → Yields (f t) fun r => P r.1 ∧ r.2.Tidy) (h : t.Tidy) :
    Yields (t.modify f path) fun r => P r.1 ∧ r.2.Tidy := by
  induction path generalizing t with
  | nil => exact hf t h
  | cons part path ih =>
    rw [Table.modify]
    split
    · exact (ih (tidy_passed false)).map fun r hr => ⟨hr.1, h.set (.table hr.2)⟩
    · exact yields_none
    · rename_i s hs
      cases h.get? hs with
      | table tidy => exact (ih tidy).map fun r hr => ⟨hr.1, h.set (.table hr.2)⟩
    · rename_i ts hts
      cases h.get? hts with
      | tables tidy =>
        split
        · exact yields_none
        · rename_i s earlier
          refine (ih (tidy s List.mem_cons_self)).map fun r hr => ⟨hr.1, h.set (.tables ?_)⟩
          exact List.forall_mem_cons.mpr ⟨hr.2, fun t ht => tidy t (List.mem_cons_of_mem _ ht)⟩

end Table

theorem keys_finishedEntries (entries : List (String × Item)) :
    keys (finishedEntries entries) = keys entries := by
  induction entries with
  | nil => simp [finishedEntries]
  | cons entry entries ih =>
    obtain ⟨key, item⟩ := entry
    rw [finishedEntries, keys_cons, keys_cons, ih]

mutual

theorem Table.Tidy.finished : (t : Table) → t.Tidy → Value.Tidy (.table t.finished)
  | .mk _ _ entries, h => by
    rw [Table.finished]
    refine .table ?_ (tidy_finishedEntries entries h.items)
    rw [keys_finishedEntries]
    exact h.distinct

theorem Item.Tidy.finished : (item : Item) → item.Tidy → item.finished.Tidy
  | .value v, h => by
    cases h with
    | value tidy =>
      rw [Item.finished]
      exact tidy
  | .table t, h => by
    cases h with
    | table tidy =>
      rw [Item.finished]
      exact Table.Tidy.finished t tidy
  | .tables ts, h => by
    cases h with
    | tables tidy =>
      rw [Item.finished]
      exact .tables fun entries he => tidy_finishedTables ts tidy entries (List.mem_reverse.mp he)

theorem tidy_finishedEntries : (entries : List (String × Item)) →
    (∀ entry ∈ entries, entry.2.Tidy) → ∀ entry ∈ finishedEntries entries, entry.2.Tidy
  | [], _ => by simp [finishedEntries]
  | (key, item) :: rest, h => by
    obtain ⟨hitem, hrest⟩ := List.forall_mem_cons.mp h
    rw [finishedEntries]
    exact List.forall_mem_cons.mpr
      ⟨Item.Tidy.finished item hitem, tidy_finishedEntries rest hrest⟩

theorem tidy_finishedTables : (ts : List Table) → (∀ t ∈ ts, t.Tidy) →
    ∀ entries ∈ finishedTables ts, Value.Tidy (.table entries)
  | [], _ => by simp [finishedTables]
  | t :: rest, h => by
    obtain ⟨ht, hrest⟩ := List.forall_mem_cons.mp h
    rw [finishedTables]
    exact List.forall_mem_cons.mpr ⟨Table.Tidy.finished t ht, tidy_finishedTables rest hrest⟩

end

namespace Draft

/-- The tables of a document under definition, and the one that is open. -/
structure Tidy (d : Draft) : Prop where
  root : d.root.Tidy
  opened : d.opened.Tidy

variable {d : Draft}

theorem tidy_start : start.Tidy := ⟨Table.tidy_empty, Table.tidy_empty⟩

theorem Tidy.close (h : d.Tidy) : Yields d.close Table.Tidy := by
  rw [Draft.close]
  split
  · exact yields_some h.opened
  · rename_i path key hplace
    refine Yields.map (P := fun r => True ∧ r.2.Tidy)
      (Table.Tidy.modify (P := fun _ => True) (fun parent hparent => ?_) h.root) fun r hr => hr.2
    split
    · split
      · exact yields_some ⟨trivial, hparent.set (.tables (by simpa using h.opened))⟩
      · rename_i ts hts
        cases hparent.get? hts with
        | tables tidy =>
          exact yields_some ⟨trivial, hparent.set (.tables (List.forall_mem_cons.mpr
            ⟨h.opened, tidy⟩))⟩
      · exact yields_none
    · exact yields_some ⟨trivial, hparent.set (.table h.opened)⟩

theorem tidy_claim (h : t.Tidy) : Yields (claim key t) fun r => r.1.Tidy ∧ r.2.Tidy := by
  rw [claim]
  split
  · exact yields_some ⟨Table.tidy_empty, h⟩
  · rename_i entries hentries
    cases h.get? hentries with
    | table tidy => exact yields_some ⟨.mk tidy.distinct tidy.items, h.erase⟩
  · exact yields_none

theorem tidy_claimArray (h : t.Tidy) : Yields (claimArray key t) fun r => True ∧ r.2.Tidy := by
  rw [claimArray]
  split
  · exact yields_some ⟨trivial, h.set (.tables (by simp))⟩
  · exact yields_some ⟨trivial, h⟩
  · exact yields_none

end Draft

/-- The value that a statement assigns is tidy. -/
def Statement.Tidy : Statement → Prop
  | .assign _ _ v => v.Tidy
  | .header _ _ => True
  | .arrayHeader _ _ => True

theorem Draft.Tidy.perform {d : Draft} {statement : Statement} (h : d.Tidy)
    (hs : statement.Tidy) : Yields (d.perform statement) Draft.Tidy := by
  cases statement with
  | assign path key v => exact (h.opened.assign hs).map fun t ht => ⟨h.root, ht⟩
  | header path key =>
    refine h.close.bind fun root hroot => ?_
    exact (hroot.modify fun t => tidy_claim).bind fun r hr => yields_some ⟨hr.2, hr.1⟩
  | arrayHeader path key =>
    refine h.close.bind fun root hroot => ?_
    refine (hroot.modify (P := fun _ => True) fun t => tidy_claimArray).bind fun r hr => ?_
    exact yields_some ⟨hr.2, Table.tidy_empty⟩

theorem tidy_define {ss : List Statement} (h : ∀ statement ∈ ss, statement.Tidy) :
    Yields (define? ss) fun document => Value.Tidy (.table document) := by
  refine (yields_foldlM h (fun d s hd hs => hd.perform hs) Draft.tidy_start).bind fun d hd => ?_
  exact hd.close.bind fun root hroot => yields_some (hroot.finished root)

theorem tidy_defineInline {assignments : List (List String × String × Value)}
    (h : ∀ a ∈ assignments, a.2.2.Tidy) :
    Yields (defineInline? assignments) fun entries => Value.Tidy (.table entries) := by
  refine (yields_foldlM h (fun t a ht ha => ht.assign ha) Table.tidy_empty).bind fun t ht => ?_
  exact yields_some (ht.finished t)

/-- Whatever the attempt finds is tidy. -/
def Attempt.Tidy (x : Attempt Value) : Prop := ∀ v rest, x = .found v rest → v.Tidy

/-- Whatever the reader reads is tidy. -/
def Reader.Tidy (read : Reader Value) : Prop := ∀ cs, Yields (read cs) fun r => r.1.Tidy

variable {cs rest : List Char}

theorem tidy_absent : Attempt.absent.Tidy := fun _ _ h => by simp at h

theorem tidy_broken : Attempt.broken.Tidy := fun _ _ h => by simp at h

theorem tidy_found (h : v.Tidy) : (Attempt.found v rest).Tidy := fun w _ he => by
  obtain ⟨rfl, -⟩ := Attempt.found.inj he
  exact h

theorem yields_anything {α : Type} (x : Option α) : Yields x fun _ => True := fun _ _ => trivial

theorem tidy_based (base : Nat) : (based base).Tidy := fun _ =>
  (yields_anything _).bind fun _ _ => (yields_anything _).bind fun _ _ =>
    yields_some (.integer _)

theorem tidy_integer : integer.Tidy := by
  intro cs
  rw [Toml.integer.eq_def]
  split
  · exact tidy_based 16 _
  · exact tidy_based 8 _
  · exact tidy_based 2 _
  · split
    · exact (yields_anything _).bind fun _ _ => yields_some (.integer _)
    · exact yields_none

theorem tidy_realOf (w : Whole) (fraction : List Char) (exponent : Int) (rest : List Char) :
    (found? (realOf w fraction exponent) rest).Tidy := by
  rw [realOf]
  split
  · exact tidy_broken
  · exact tidy_found (.float _)

theorem tidy_specialFloat (cs : List Char) : (specialFloat cs).Tidy := by
  rw [specialFloat]
  simp only
  split
  · exact tidy_found (.float _)
  · exact tidy_found (.float _)
  · exact tidy_absent

theorem tidy_float (cs : List Char) : (Toml.float cs).Tidy := by
  rw [Toml.float]
  split
  · exact tidy_broken
  · exact tidy_specialFloat cs
  · split
    · exact tidy_broken
    · exact tidy_realOf _ _ _ _
    · split
      · split
        · exact tidy_broken
        · split
          · exact tidy_broken
          · exact tidy_realOf _ _ _ _
          · exact tidy_realOf _ _ _ _
      · exact tidy_specialFloat cs

theorem tidy_datetime (cs : List Char) : (Toml.datetime cs).Tidy := by
  intro v rest h
  obtain rfl : v = .datetime := by
    rw [Toml.datetime] at h
    split at h
    · split at h
      · simp at h
      · split at h
        · split at h
          · split at h
            · exact (Attempt.found.inj h).1.symm
            · simp at h
            · split at h
              · exact (Attempt.found.inj h).1.symm
              · simp at h
          · exact (Attempt.found.inj h).1.symm
        · exact (Attempt.found.inj h).1.symm
    · split at h
      · exact (Attempt.found.inj h).1.symm
      · simp at h
      · simp at h
  exact .datetime

theorem tidy_numeric : numeric.Tidy := by
  intro cs
  rw [numeric]
  split
  · rename_i v rest hv
    exact yields_some (tidy_datetime cs v rest hv)
  · exact yields_none
  · split
    · rename_i v rest hv
      exact yields_some (tidy_float cs v rest hv)
    · exact yields_none
    · exact tidy_integer cs

theorem tidy_scalar : scalar.Tidy := by
  intro cs
  rw [scalar.eq_def]
  simp only
  split
  · exact (yields_anything _).map fun _ _ => .string _
  · exact (yields_anything _).map fun _ _ => .string _
  · exact yields_some (.boolean _)
  · exact yields_some (.boolean _)
  · exact yields_some (.float _)
  · exact yields_some (.float _)
  · split
    · exact tidy_numeric _
    · exact yields_none
  · exact yields_none

theorem tidy_arrayItems {read : Reader Value} (h : read.Tidy) (most : Nat) (cs : List Char) :
    Yields (arrayItems read most cs) fun r => ∀ v ∈ r.1, v.Tidy := by
  induction most generalizing cs with
  | zero => exact yields_none
  | succ most ih =>
    rw [arrayItems]
    split
    · exact yields_some (by simp)
    · refine (h _).bind fun r hr => ?_
      obtain ⟨v, rest⟩ := r
      simp only
      split
      · exact yields_some (by simpa using hr)
      · refine (ih _).bind fun r hmore => ?_
        exact yields_some (List.forall_mem_cons.mpr ⟨hr, hmore⟩)
      · exact yields_none

theorem tidy_assignment {read : Reader Value} (h : read.Tidy) (cs : List Char) :
    Yields (assignment read cs) fun r => r.1.2.2.Tidy := by
  refine (yields_anything _).bind fun r _ => ?_
  obtain ⟨⟨path, name⟩, rest⟩ := r
  simp only
  split
  · exact (h _).bind fun r hr => yields_some hr
  · exact yields_none

theorem tidy_inlineItems {read : Reader Value} (h : read.Tidy) (most : Nat) (cs : List Char) :
    Yields (inlineItems read most cs) fun r => ∀ a ∈ r.1, a.2.2.Tidy := by
  induction most generalizing cs with
  | zero => exact yields_none
  | succ most ih =>
    rw [inlineItems]
    refine (tidy_assignment h cs).bind fun r hr => ?_
    obtain ⟨a, rest⟩ := r
    simp only
    split
    · exact yields_some (by simpa using hr)
    · refine (ih _).bind fun r hmore => ?_
      exact yields_some (List.forall_mem_cons.mpr ⟨hr, hmore⟩)
    · exact yields_none

theorem tidy_value (size depth : Nat) : (value size depth).Tidy := by
  induction depth with
  | zero => exact tidy_scalar
  | succ depth ih =>
    intro cs
    rw [value]
    simp only
    split
    · refine (tidy_arrayItems ih size _).bind fun r hr => ?_
      exact yields_some (.array hr)
    · split
      · exact yields_some (.table List.nodup_nil (by simp))
      · refine (tidy_inlineItems ih size _).bind fun r hr => ?_
        exact (tidy_defineInline hr).bind fun entries hentries => yields_some hentries
    · exact tidy_scalar _

theorem tidy_statement (size : Nat) (cs : List Char) :
    Yields (statement size cs) fun r => r.1.Tidy := by
  rw [statement.eq_def]
  split
  · refine (yields_anything _).bind fun r _ => ?_
    obtain ⟨⟨path, name⟩, rest⟩ := r
    simp only
    split
    · exact yields_some trivial
    · exact yields_none
  · refine (yields_anything _).bind fun r _ => ?_
    obtain ⟨⟨path, name⟩, rest⟩ := r
    simp only
    split
    · exact yields_some trivial
    · exact yields_none
  · exact (tidy_assignment (tidy_value size depthLimit) _).bind fun r hr => yields_some hr

theorem tidy_statements (size most : Nat) (cs : List Char) :
    Yields (statements size most cs) fun ss => ∀ s ∈ ss, s.Tidy := by
  induction most generalizing cs with
  | zero => exact yields_none
  | succ most ih =>
    rw [statements]
    split
    · exact yields_some (by simp)
    · split
      · exact (yields_anything _).bind fun rest _ => ih rest
      · refine (tidy_statement size _).bind fun r hr => ?_
        refine (yields_anything _).bind fun rest _ => (ih rest).bind fun ss hss => ?_
        exact yields_some (List.forall_mem_cons.mpr ⟨hr, hss⟩)

/-- A document has no key twice in any of its tables. -/
theorem tidy_parse {text : String} {document : Document} (h : parse? text = some document) :
    Value.Tidy (.table document) := by
  have hparse : Yields (parse? text) fun document => Value.Tidy (.table document) :=
    (tidy_statements _ _ _).bind fun ss hss => tidy_define hss
  exact hparse document h

end TokenDump.Toml
