import TokenDump.Proofs.Records

/-! # Documents of the right shape

A document gives settings if what stands behind the known keys has the right shape: truth values,
and names of what the setting can be. -/
namespace TokenDump

open Toml

namespace Toml

variable {α : Type} {spellings : List (String × α)} {name : String} {a b : α} {v w : Value}

def Value.Empty (v : Value) : Prop := v = .array [] ∨ v = .table [] ∨ v = .tables []

/-- The value is a name of `a`: a string, or a table with the name as its only key and nothing
behind it. -/
inductive Names (spellings : List (String × α)) : Value → α → Prop
  | string {name : String} {a : α} (known : (name, a) ∈ spellings) :
      Names spellings (.string name) a
  | key {name : String} {a : α} {behind : Value} (known : (name, a) ∈ spellings)
      (empty : behind.Empty) : Names spellings (.table [(name, behind)]) a

theorem named_ok_iff (hn : (keys spellings).Nodup) :
    named spellings name = .ok a ↔ (name, a) ∈ spellings := by
  constructor
  · intro h
    rw [named] at h
    split at h
    · obtain rfl := Except.ok.inj h
      exact mem_of_lookup ‹_›
    · cases h
  · intro h
    rw [named, lookup_of_mem hn h]

theorem checkEmpty_ok_iff : v.checkEmpty = .ok ⟨⟩ ↔ v.Empty := by
  cases v <;> simp [Value.checkEmpty, Value.Empty]

theorem choice_ok_iff (hn : (keys spellings).Nodup) :
    v.choice spellings = .ok a ↔ Names spellings v a := by
  constructor
  · intro h
    match v, h with
    | .string name, h => exact .string ((named_ok_iff hn).mp h)
    | .table [(name, behind)], h =>
      simp only [Value.choice] at h
      cases hname : named spellings name with
      | error error => simp [hname, bind, Except.bind] at h
      | ok b =>
        cases hempty : behind.checkEmpty with
        | error error => simp [hname, hempty, bind, Except.bind] at h
        | ok u =>
          obtain rfl : b = a := by simpa [hname, hempty, bind, Except.bind, pure, Except.pure] using h
          exact .key ((named_ok_iff hn).mp hname) (checkEmpty_ok_iff.mp hempty)
  · rintro (known | ⟨known, empty⟩)
    · exact (named_ok_iff hn).mpr known
    · simp [Value.choice, (named_ok_iff hn).mpr known, checkEmpty_ok_iff.mpr empty]
      rfl

theorem boolean?_ok_iff {b : Bool} : v.boolean? = .ok b ↔ v = .boolean b := by
  cases v <;> simp [Value.boolean?]

end Toml

theorem Trivia.nodup_spellings : (keys Trivia.spellings).Nodup := by decide

theorem Format.nodup_spellings : (keys Format.spellings).Nodup := by decide

theorem Log.Level.nodup_spellings : (keys Log.Level.spellings).Nodup := by decide

namespace Settings

/-- Keys, and the shape of what may stand behind each of them. -/
abbrev Shapes := List (String × (Value → Prop))

def Shapes.Fit (shapes : Shapes) (entries : List (String × Value)) : Prop :=
  ∀ shape ∈ shapes, ∀ v, (shape.1, v) ∈ entries → shape.2 v

def IsName {α : Type} (spellings : List (String × α)) (v : Value) : Prop := ∃ a, Names spellings v a

def IsBoolean (v : Value) : Prop := ∃ b, v = .boolean b

/-- A table of settings. -/
structure Group where
  name : String
  shapes : Shapes

namespace Group

def scanner : Group where
  name := "scanner"
  shapes := [("trivia_mode", IsName Trivia.spellings), ("collect_metrics", IsBoolean),
    ("log_illegal_tokens", IsBoolean)]

def driver : Group where
  name := "driver"
  shapes := [("output_format", IsName Format.spellings), ("include_positions", IsBoolean),
    ("fail_on_illegal", IsBoolean)]

def logging : Group where
  name := "logging"
  shapes := [("use_structured_logging", IsBoolean), ("enable_console_logging", IsBoolean),
    ("min_log_level", IsName Log.Level.spellings)]

def Fits (g : Group) (v : Value) : Prop :=
  ∃ entries, v.entries? (keys g.shapes) = some entries ∧ g.shapes.Fit entries

end Group

/-- Each known key of the document has a value of the right shape. -/
def RightShape (document : Document) : Prop :=
  Shapes.Fit ([Group.scanner, .driver, .logging].map fun g => (g.name, g.Fits)) document

open Place

def Scanning.places : List (Place Scanning) :=
  [replaced "trivia_mode" (·.trivia) (fun s c => { s with trivia := c })
      (·.choice Trivia.spellings) fun _ _ => rfl,
   replaced "collect_metrics" (·.collectMetrics) (fun s c => { s with collectMetrics := c })
      (·.boolean?) fun _ _ => rfl,
   replaced "log_illegal_tokens" (·.logIllegal) (fun s c => { s with logIllegal := c })
      (·.boolean?) fun _ _ => rfl]

def Dumping.places : List (Place Dumping) :=
  [replaced "output_format" (·.format) (fun s c => { s with format := c })
      (·.choice Format.spellings) fun _ _ => rfl,
   replaced "include_positions" (·.positions) (fun s c => { s with positions := c })
      (·.boolean?) fun _ _ => rfl,
   replaced "fail_on_illegal" (·.failOnIllegal) (fun s c => { s with failOnIllegal := c })
      (·.boolean?) fun _ _ => rfl]

def Logging.places : List (Place Logging) :=
  [replaced "use_structured_logging" (·.structured) (fun s c => { s with structured := c })
      (·.boolean?) fun _ _ => rfl,
   replaced "enable_console_logging" (·.console) (fun s c => { s with console := c })
      (·.boolean?) fun _ _ => rfl,
   replaced "min_log_level" (·.threshold) (fun s c => { s with threshold := c })
      (·.choice Log.Level.spellings) fun _ _ => rfl]

theorem Scanning.apart : Scanning.places.Pairwise Apart := by
  simp [Scanning.places, replaced, apart_iff]

theorem Dumping.apart : Dumping.places.Pairwise Apart := by
  simp [Dumping.places, replaced, apart_iff]

theorem Logging.apart : Logging.places.Pairwise Apart := by
  simp [Logging.places, replaced, apart_iff]

def places : List (Place Settings) :=
  [nested "scanner" (·.scanning) (fun s c => { s with scanning := c }) "ScannerPreferences"
      Scanning.places Scanning.apart fun _ _ => rfl,
   nested "driver" (·.dumping) (fun s c => { s with dumping := c }) "DriverPreferences"
      Dumping.places Dumping.apart fun _ _ => rfl,
   nested "logging" (·.logging) (fun s c => { s with logging := c }) "LoggingPreferences"
      Logging.places Logging.apart fun _ _ => rfl]

theorem apart : places.Pairwise Apart := by
  simp [places, nested, apart_iff]

theorem fields_eq : fields = slots places := rfl

section Takes

variable {α β : Type} {places : List (Place β)} {g : Group} {shapes : Shapes} {key name : String}
  {v : Value} {entries : List (String × Value)} {spellings : List (String × α)}

/-- The places take what has the right shape, key by key. -/
def Shapes.Describe (shapes : Shapes) (places : List (Place β)) : Prop :=
  List.Forall₂ (fun shape p => shape.1 = p.key ∧ ∀ v, shape.2 v ↔ p.Takes v) shapes places

theorem Shapes.Describe.keys_eq (h : shapes.Describe places) :
    keys shapes = keys (slots places) := by
  rw [keys_slots, keys, ← List.forall₂_eq_eq_eq, List.forall₂_map_left_iff,
    List.forall₂_map_right_iff]
  exact h.imp fun _ _ => And.left

theorem Shapes.Describe.fit_iff (h : shapes.Describe places) :
    shapes.Fit entries ↔ ∀ p ∈ places, ∀ v, (p.key, v) ∈ entries → p.Takes v := by
  unfold Fit
  induction h with
  | nil => simp
  | cons first rest ih =>
    obtain ⟨hkey, htakes⟩ := first
    simp only [List.forall_mem_cons, ih, hkey, htakes]

theorem isName_iff {get : β → α} {put : β → α → β} {get_put : ∀ b c, get (put b c) = c}
    (hn : (keys spellings).Nodup) :
    IsName spellings v ↔ (replaced key get put (·.choice spellings) get_put).Takes v := by
  rw [takes_replaced]
  exact exists_congr fun a => (choice_ok_iff hn).symm

theorem isBoolean_iff {get : β → Bool} {put : β → Bool → β} {get_put : ∀ b c, get (put b c) = c} :
    IsBoolean v ↔ (replaced key get put (·.boolean?) get_put).Takes v := by
  rw [takes_replaced]
  exact exists_congr fun b => boolean?_ok_iff.symm

theorem fits_iff {get : α → β} {put : α → β → α} {apart : places.Pairwise Apart}
    {get_put : ∀ a c, get (put a c) = c} (h : g.shapes.Describe places) (c : β) :
    g.Fits v ↔ (nested key get put name places apart get_put).Takes v := by
  rw [takes_nested c, ← h.keys_eq]
  exact exists_congr fun entries => and_congr_right fun _ => h.fit_iff

end Takes

theorem scanner_describe : Group.scanner.shapes.Describe Scanning.places :=
  .cons ⟨rfl, fun _ => isName_iff Trivia.nodup_spellings⟩
    (.cons ⟨rfl, fun _ => isBoolean_iff⟩ (.cons ⟨rfl, fun _ => isBoolean_iff⟩ .nil))

theorem driver_describe : Group.driver.shapes.Describe Dumping.places :=
  .cons ⟨rfl, fun _ => isName_iff Format.nodup_spellings⟩
    (.cons ⟨rfl, fun _ => isBoolean_iff⟩ (.cons ⟨rfl, fun _ => isBoolean_iff⟩ .nil))

theorem logging_describe : Group.logging.shapes.Describe Logging.places :=
  .cons ⟨rfl, fun _ => isBoolean_iff⟩
    (.cons ⟨rfl, fun _ => isBoolean_iff⟩
      (.cons ⟨rfl, fun _ => isName_iff Log.Level.nodup_spellings⟩ .nil))

/-- A document is refused just if some known key has a value of a wrong shape. -/
theorem ofDocument_ok_iff (usual : Settings) (document : Document) :
    (∃ s, ofDocument usual document = .ok s) ↔ RightShape document := by
  have hgroups : Shapes.Describe ([Group.scanner, .driver, .logging].map fun g => (g.name, g.Fits))
      places :=
    .cons ⟨rfl, fun _ => fits_iff scanner_describe usual.scanning⟩
      (.cons ⟨rfl, fun _ => fits_iff driver_describe usual.dumping⟩
        (.cons ⟨rfl, fun _ => fits_iff logging_describe usual.logging⟩ .nil))
  rw [RightShape, hgroups.fit_iff, ofDocument, fields_eq]
  exact readEntries_ok_iff apart usual

end Settings
end TokenDump
