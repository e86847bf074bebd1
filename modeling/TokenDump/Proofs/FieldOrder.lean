import Mathlib.Data.List.Induction
import Mathlib.Data.List.Nodup
import TokenDump.Interchange
import TokenDump.Proofs.LogLines

/-! # Fields in any order

What was written as JSON is read again, in whatever order the fields of its objects stand and
whatever other fields stand among them. An object in which a field is missing or stands twice is
refused, at any depth. -/
namespace TokenDump

namespace Decimal

theorem ofDigitChars_toString {limit n : Nat} (h : n ≤ limit) :
    ofDigitChars limit (toString n).toList = n := by
  have hexact : ((toString n).toList.map fun c => c.toNat - '0'.toNat).foldl
      (fun n d => n * 10 + d) 0 = n := by
    rw [List.foldl_map, Nat.toString_eq_repr, Nat.toList_repr]
    simpa only [Nat.ofDigitChars, Nat.mul_comm] using Nat.ofDigitChars_ten_toDigits (n := n)
  rw [ofDigitChars, ofDigits_of_le (by omega) (hexact.trans_le h), hexact]

end Decimal

namespace Json

/-- The second value is the first one with the fields of its objects in any order, and others among
them that have none of their keys. -/
inductive Rearranged : Value → Value → Prop
  | same (v : Value) : Rearranged v v
  | record {fields foreign members : List (String × Value)} {moved : String → Value}
      (each : ∀ f ∈ fields, Rearranged f.2 (moved f.1))
      (others : ∀ f ∈ foreign, f.1 ∉ fields.map Prod.fst)
      (order : members.Perm ((fields.map fun f => (f.1, moved f.1)) ++ foreign)) :
      Rearranged (.record fields) (.record members)

/-- Somewhere in the second value is an object in which a field that the first value has there is
missing or stands more than once. The two may differ in anything else. -/
inductive Damaged : Value → Value → Prop
  | count {fields : List (String × Value)} {members : List (Literal × Value)} {f : String × Value}
      (known : f ∈ fields) (times : members.countP (·.1 = .text f.1) ≠ 1) :
      Damaged (.record fields) (.object members)
  | inside {fields : List (String × Value)} {members : List (Literal × Value)} {f : String × Value}
      {w : Value} (known : f ∈ fields) (given : (.text f.1, w) ∈ members) (inner : Damaged f.2 w) :
      Damaged (.record fields) (.object members)

variable {v w : Value} {vs : List Value} {names : List String}
  {fields foreign members : List (String × Value)} {entries : List (Literal × Value)}

theorem record_inj (h : Value.record fields = .record members) : fields = members := by
  have hmember : Function.Injective member := by
    rintro ⟨key, v⟩ ⟨key', v'⟩ h
    simpa [member] using h
  exact List.map_injective_iff.mpr hmember (Value.object.inj h)

/-- What is no object is left as it is. -/
theorem Rearranged.eq (h : Rearranged v w) (hv : ∀ entries, v ≠ .object entries) : w = v := by
  cases h with
  | same => rfl
  | record => exact absurd rfl (hv _)

theorem not_damaged (hv : ∀ entries, v ≠ .object entries) : ¬ Damaged v w := by
  rintro (_ | _)
  all_goals exact absurd rfl (hv _)

theorem not_damaged_of_some {α : Type} {read : Value → Option α} {a : α}
    (h : ∀ w, Damaged v w → read w = none) (hread : read w = some a) : ¬ Damaged v w := by
  intro hdamaged
  simp [h w hdamaged] at hread

/-! ## The values of one key -/

theorem length_valuesOf (key : String) (entries : List (Literal × Value)) :
    (valuesOf key entries).length = entries.countP (·.1 = .text key) := by
  induction entries with
  | nil => rfl
  | cons entry entries ih =>
    by_cases h : entry.1 = .text key <;> simp_all [valuesOf]

theorem mem_valuesOf {key : String} (h : (.text key, w) ∈ entries) : w ∈ valuesOf key entries :=
  List.mem_filterMap.mpr ⟨_, h, by simp⟩

theorem valuesOf_moved (key : String) (moved : String → Value) (names : List String) :
    valuesOf key ((names.map fun name => (name, moved name)).map member) =
      List.replicate (names.count key) (moved key) := by
  induction names with
  | nil => rfl
  | cons name names ih =>
    by_cases h : name = key <;> simp_all [valuesOf, member, List.replicate_succ]

theorem valuesOf_foreign {key : String} (h : ∀ f ∈ foreign, f.1 ≠ key) :
    valuesOf key (foreign.map member) = [] := by
  rw [valuesOf, List.filterMap_eq_nil_iff]
  intro entry hentry
  obtain ⟨f, hf, rfl⟩ := List.mem_map.mp hentry
  simp [member, h f hf]

/-- A key of the record stands once in it, wherever that is. -/
theorem valuesOf_rearranged {moved : String → Value} {name : String} (hn : names.Nodup)
    (hname : name ∈ names) (others : ∀ f ∈ foreign, f.1 ∉ names)
    (order : members.Perm ((names.map fun name => (name, moved name)) ++ foreign)) :
    valuesOf name (members.map member) = [moved name] := by
  have hperm := (order.map member).filterMap
    fun (entry : Literal × Value) => if entry.1 = .text name then some entry.2 else none
  have hforeign : valuesOf name (foreign.map member) = [] :=
    valuesOf_foreign fun f hf heq => others f hf (heq ▸ hname)
  have hmoved := valuesOf_moved name moved names
  rw [List.count_eq_one_of_mem hn hname] at hmoved
  rw [List.map_append, List.filterMap_append] at hperm
  exact List.perm_singleton.mp ((hperm.trans (.of_eq (congrArg₂ _ hmoved hforeign))))

/-! ## Records -/

theorem required?_of_valuesOf {moved : String → Value}
    (h : ∀ name ∈ names, valuesOf name (members.map member) = [moved name]) :
    required? names (.record members) = some (names.map moved) := by
  have hkeys : (members.map member).any (·.1 = .unpaired) = false := by
    simp [member]
  have hfields : fields? names (.record members) = some (names.map (some ∘ moved)) := by
    rw [record_eq, fields?, hkeys, if_neg Bool.false_ne_true]
    refine (congrArg (List.mapM _) (List.map_id names).symm).trans
      (mapM_of_forall fun name hname => ?_)
    rw [id, h name hname]
    rfl
  rw [required?, hfields]
  exact mapM_of_forall fun _ _ => rfl

theorem exists_moved (hn : (fields.map Prod.fst).Nodup) :
    ∃ moved : String → Value, ∀ f ∈ fields, moved f.1 = f.2 := by
  induction fields with
  | nil => exact ⟨fun _ => .null, by simp⟩
  | cons f fields ih =>
    obtain ⟨hf, hn⟩ := List.nodup_cons.mp hn
    obtain ⟨moved, hmoved⟩ := ih hn
    refine ⟨Function.update moved f.1 f.2, List.forall_mem_cons.mpr ⟨by simp, fun g hg => ?_⟩⟩
    have hne : g.1 ≠ f.1 := fun heq => hf (heq ▸ List.mem_map_of_mem hg)
    rw [Function.update_of_ne hne, hmoved g hg]

/-- The fields of a record are found, each rearranged at most. -/
theorem Rearranged.required? (h : Rearranged (.record fields) w)
    (hn : (fields.map Prod.fst).Nodup) : ∃ moved : String → Value,
      (∀ f ∈ fields, Rearranged f.2 (moved f.1)) ∧
      required? (fields.map Prod.fst) w = some ((fields.map Prod.fst).map moved) := by
  generalize hv : Value.record fields = v at h
  cases h with
  | same =>
    subst hv
    obtain ⟨moved, hmoved⟩ := exists_moved hn
    have hfields : fields = (fields.map Prod.fst).map (fun name => (name, moved name)) ++ [] := by
      rw [List.append_nil, List.map_map]
      refine (List.map_id fields).symm.trans (List.map_congr_left fun f hf => ?_)
      simp [hmoved f hf]
    refine ⟨moved, fun f hf => hmoved f hf ▸ .same _, required?_of_valuesOf fun name hname => ?_⟩
    exact valuesOf_rearranged hn hname (by simp) (.of_eq hfields)
  | @record fields' foreign members moved each others order =>
    obtain rfl := record_inj hv
    refine ⟨moved, each, required?_of_valuesOf fun name hname => ?_⟩
    refine valuesOf_rearranged hn hname others ?_
    rwa [List.map_map]

theorem mapM_cons_eq_some {α β : Type} {f : α → Option β} {a : α} {as : List α} {bs : List β} :
    (a :: as).mapM f = some bs ↔
      ∃ b rest, f a = some b ∧ as.mapM f = some rest ∧ b :: rest = bs := by
  simp [List.mapM_cons, Option.bind_eq_some_iff]

/-- Each field of a record that is read stands in it once. -/
theorem forall₂_required? (h : required? names (.object entries) = some vs) :
    List.Forall₂ (fun name v => valuesOf name entries = [v]) names vs := by
  obtain ⟨found, hfound, hvs⟩ := Option.bind_eq_some_iff.mp h
  rw [fields?] at hfound
  split at hfound
  · cases hfound
  · clear h
    induction names generalizing found vs with
    | nil =>
      obtain rfl : [] = found := by simpa using hfound
      obtain rfl : [] = vs := by simpa using hvs
      exact .nil
    | cons name names ih =>
      obtain ⟨one, rest, hone, hrest, rfl⟩ := mapM_cons_eq_some.mp hfound
      obtain ⟨v, vs, rfl, hmore, rfl⟩ := mapM_cons_eq_some.mp hvs
      refine .cons ?_ (ih rest hmore hrest)
      split at hone <;> simp_all

/-- A record is refused if a reader takes each of its fields from a place of its own. -/
theorem Damaged.eq_none {α : Type} {read : Value → Option α} (h : Damaged (.record fields) w)
    (hread : ∀ entries a, read (.object entries) = some a →
      ∀ f ∈ fields, ∃ v, valuesOf f.1 entries = [v] ∧ ¬ Damaged f.2 v) : read w = none := by
  generalize hv : Value.record fields = v at h
  rw [Option.eq_none_iff_forall_ne_some]
  intro a ha
  cases h with
  | count known times =>
    obtain rfl := record_inj hv
    obtain ⟨v, hv, -⟩ := hread _ a ha _ known
    rw [← length_valuesOf, hv] at times
    exact times rfl
  | inside known given inner =>
    obtain rfl := record_inj hv
    obtain ⟨v, hv, hsound⟩ := hread _ a ha _ known
    obtain rfl : _ = v := by simpa [hv] using mem_valuesOf given
    exact hsound inner

end Json

/-- Offset, line and column are not past the greatest ones. -/
structure Position.Fits (p : Position) : Prop where
  offset : p.offset ≤ Interchange.greatestOffset
  line : p.line ≤ Interchange.greatestLine
  column : p.column ≤ Interchange.greatestLine

structure Span.Fits (s : Span) : Prop where
  start : s.start.Fits
  stop : s.stop.Fits

namespace Interchange

open Json

/-- How values are written as JSON, and how they are read from it. -/
structure Form (α : Type) where
  write : α → Value
  read? : Value → Option α

namespace Form

variable {α : Type}

/-- What a text says in this form. -/
def ofText? (form : Form α) (text : String) : Option α := (parse? text).bind form.read?

/-- What is written in the form is read again, whatever the order of the fields and whatever other
fields there are, but not if a field is missing or stands twice. -/
structure Faithful (form : Form α) (proper : α → Prop) : Prop where
  written : ∀ a, proper a → form.ofText? (form.write a).compact = some a
  rearranged : ∀ a w text, proper a → Rearranged (form.write a) w → parse? text = some w →
    form.ofText? text = some a
  damaged : ∀ a w text, Damaged (form.write a) w → parse? text = some w → form.ofText? text = none

def token : Form Token := ⟨ofToken, token?⟩
def position : Form Position := ⟨ofPosition, position?⟩
def span : Form Span := ⟨ofSpan, span?⟩
def located : Form (Located Token) := ⟨ofLocated, located?⟩

/-- It is enough to look at what the texts are read as. -/
theorem faithful_of_values {form : Form α} {proper : α → Prop}
    (plain : ∀ a, Plain (form.write a))
    (rearranged : ∀ a w, proper a → Rearranged (form.write a) w → form.read? w = some a)
    (damaged : ∀ a w, Damaged (form.write a) w → form.read? w = none) :
    form.Faithful proper where
  written a ha := by
    rw [ofText?, (plain a).parse?_compact]
    exact rearranged a _ ha (.same _)
  rearranged a w text ha h htext := by
    rw [ofText?, htext]
    exact rearranged a w ha h
  damaged a w text h htext := by
    rw [ofText?, htext]
    exact damaged a w h

end Form

variable {w : Value} {entries : List (Literal × Value)}

/-! ## Tokens -/

theorem plain_ofToken (t : Token) : Plain (ofToken t) :=
  .record (by simpa using ⟨.ofString _, .ofString _⟩)

theorem token?_rearranged {t : Token} (h : Rearranged (ofToken t) w) : token? w = some t := by
  obtain ⟨moved, heach, hfields⟩ := h.required? (by simp)
  have hkind := (heach ("kind", .ofString t.kind.name) (by simp [ofKind])).eq
    (by simp [Value.ofString])
  have htext := (heach ("text", .ofString t.text) (by simp)).eq (by simp [Value.ofString])
  have hfound : required? ["kind", "text"] w = some [.ofString t.kind.name, .ofString t.text] := by
    simpa [hkind, htext] using hfields
  simp [token?, hfound, kind?, choice?, string?, Value.ofString, Kind.ofName?_name]

theorem not_damaged_ofString (s : String) : ¬ Damaged (.ofString s) w :=
  not_damaged (by simp [Value.ofString])

theorem not_damaged_ofNat (n : Nat) : ¬ Damaged (.ofNat n) w := not_damaged (by simp [Value.ofNat])

theorem token?_damaged {t : Token} (h : Damaged (ofToken t) w) : token? w = none := by
  refine h.eq_none fun entries a ha => ?_
  obtain ⟨vs, hfound, -⟩ := Option.bind_eq_some_iff.mp ha
  obtain _ | ⟨hkind, _ | ⟨htext, _⟩⟩ := forall₂_required? hfound
  simpa using ⟨⟨_, hkind, not_damaged_ofString _⟩, _, htext, not_damaged_ofString _⟩

/-! ## Positions and spans -/

theorem nat?_ofNat {limit n : Nat} (h : n ≤ limit) : nat? limit (.ofNat n) = some n := by
  have hdigits : (toString n).toList.all Char.isDigit = true :=
    List.all_eq_true.mpr (isDigit_toString n)
  rw [Value.ofNat, nat?, if_pos hdigits, Decimal.ofDigitChars_toString h]
  exact if_pos h

theorem plain_ofPosition (p : Position) : Plain (ofPosition p) :=
  .record (by simpa using ⟨.ofNat _, .ofNat _, .ofNat _⟩)

theorem position?_rearranged {p : Position} (hp : p.Fits) (h : Rearranged (ofPosition p) w) :
    position? w = some p := by
  obtain ⟨moved, heach, hfields⟩ := h.required? (by simp)
  have hoffset := (heach ("offset", .ofNat p.offset) (by simp)).eq (by simp [Value.ofNat])
  have hline := (heach ("line", .ofNat p.line) (by simp)).eq (by simp [Value.ofNat])
  have hcolumn := (heach ("column", .ofNat p.column) (by simp)).eq (by simp [Value.ofNat])
  have hfound : required? ["offset", "line", "column"] w =
      some [.ofNat p.offset, .ofNat p.line, .ofNat p.column] := by
    simpa [hoffset, hline, hcolumn] using hfields
  simp [position?, hfound, nat?_ofNat hp.offset, nat?_ofNat hp.line, nat?_ofNat hp.column]

theorem position?_damaged {p : Position} (h : Damaged (ofPosition p) w) : position? w = none := by
  refine h.eq_none fun entries a ha => ?_
  obtain ⟨vs, hfound, -⟩ := Option.bind_eq_some_iff.mp ha
  obtain _ | ⟨hoffset, _ | ⟨hline, _ | ⟨hcolumn, _⟩⟩⟩ := forall₂_required? hfound
  simpa using ⟨⟨_, hoffset, not_damaged_ofNat _⟩, ⟨_, hline, not_damaged_ofNat _⟩, _, hcolumn,
    not_damaged_ofNat _⟩

theorem plain_ofSpan (s : Span) : Plain (ofSpan s) :=
  .record (by simpa using ⟨plain_ofPosition _, plain_ofPosition _⟩)

theorem span?_rearranged {s : Span} (hs : s.Fits) (h : Rearranged (ofSpan s) w) :
    span? w = some s := by
  obtain ⟨moved, heach, hfields⟩ := h.required? (by simp)
  have hstart := position?_rearranged hs.start (heach ("start", ofPosition s.start) (by simp))
  have hstop := position?_rearranged hs.stop (heach ("end", ofPosition s.stop) (by simp))
  have hfound : required? ["start", "end"] w = some [moved "start", moved "end"] := hfields
  simp [span?, hfound, hstart, hstop]

theorem span?_damaged {s : Span} (h : Damaged (ofSpan s) w) : span? w = none := by
  refine h.eq_none fun entries a ha => ?_
  obtain ⟨vs, hfound, hread⟩ := Option.bind_eq_some_iff.mp ha
  obtain _ | ⟨hstart, _ | ⟨hstop, _ | _⟩⟩ := forall₂_required? hfound
  obtain ⟨start, hreadStart, hread⟩ := Option.bind_eq_some_iff.mp hread
  obtain ⟨stop, hreadStop, -⟩ := Option.bind_eq_some_iff.mp hread
  have hstartSound := not_damaged_of_some (v := ofPosition s.start)
    (fun _ => position?_damaged) hreadStart
  have hstopSound := not_damaged_of_some (v := ofPosition s.stop)
    (fun _ => position?_damaged) hreadStop
  simpa using ⟨⟨_, hstart, hstartSound⟩, _, hstop, hstopSound⟩

/-! ## Located tokens -/

theorem plain_ofLocated (t : Located Token) : Plain (ofLocated t) :=
  .record (by simpa using ⟨plain_ofToken _, plain_ofSpan _⟩)

theorem located?_rearranged {t : Located Token} (ht : t.span.Fits)
    (h : Rearranged (ofLocated t) w) : located? w = some t := by
  obtain ⟨moved, heach, hfields⟩ := h.required? (by simp)
  have hvalue := token?_rearranged (heach ("value", ofToken t.value) (by simp))
  have hspan := span?_rearranged ht (heach ("span", ofSpan t.span) (by simp))
  have hfound : required? ["value", "span"] w = some [moved "value", moved "span"] := hfields
  simp [located?, hfound, hvalue, hspan]

theorem located?_damaged {t : Located Token} (h : Damaged (ofLocated t) w) :
    located? w = none := by
  refine h.eq_none fun entries a ha => ?_
  obtain ⟨vs, hfound, hread⟩ := Option.bind_eq_some_iff.mp ha
  obtain _ | ⟨hvalue, _ | ⟨hspan, _ | _⟩⟩ := forall₂_required? hfound
  obtain ⟨value, hreadValue, hread⟩ := Option.bind_eq_some_iff.mp hread
  obtain ⟨span, hreadSpan, -⟩ := Option.bind_eq_some_iff.mp hread
  have hvalueSound := not_damaged_of_some (v := ofToken t.value)
    (fun _ => token?_damaged) hreadValue
  have hspanSound := not_damaged_of_some (v := ofSpan t.span) (fun _ => span?_damaged) hreadSpan
  simpa using ⟨⟨_, hvalue, hvalueSound⟩, _, hspan, hspanSound⟩

/-! ## All forms -/

/-- Tokens, positions, spans and located tokens are read again from what was written for them, also
with the fields of every object in another order and with other fields among them, and not if one of
their own fields is missing or repeated. Whatever such a field holds, there is a text for it. -/
theorem forms_faithful :
    (∀ w, Legible w → parse? w.compact = some w) ∧
    Form.token.Faithful (fun _ => True) ∧ Form.position.Faithful Position.Fits ∧
    Form.span.Faithful Span.Fits ∧ Form.located.Faithful fun t => t.span.Fits := by
  refine ⟨fun w h => h.parse?_compact, ?_, ?_, ?_, ?_⟩
  · exact Form.faithful_of_values plain_ofToken (fun _ _ _ => token?_rearranged)
      fun _ _ => token?_damaged
  · exact Form.faithful_of_values plain_ofPosition (fun _ _ => position?_rearranged)
      fun _ _ => position?_damaged
  · exact Form.faithful_of_values plain_ofSpan (fun _ _ => span?_rearranged)
      fun _ _ => span?_damaged
  · exact Form.faithful_of_values plain_ofLocated (fun _ _ => located?_rearranged)
      fun _ _ => located?_damaged

/-- A span with its end in front, behind another field that holds a negative fraction and a string
without a text; and the same span with a start that has no line. -/
theorem forms_faithful_backwards :
    let s : Span := ⟨⟨4, 2, 3⟩, ⟨9, 2, 8⟩⟩
    let text := "\x7b\"of\":[-1.5e+3,\"\\ud800\"]," ++
      "\"end\":\x7b\"offset\":9,\"line\":2,\"column\":8\x7d," ++
      "\"start\":\x7b\"offset\":4,\"line\":2,\"column\":3\x7d\x7d"
    let short := "\x7b\"end\":\x7b\"offset\":9,\"line\":2,\"column\":8\x7d," ++
      "\"start\":\x7b\"column\":3,\"offset\":4\x7d\x7d"
    s.Fits ∧ Form.span.ofText? text = some s ∧ Form.span.ofText? short = none := by
  intro s text short
  obtain ⟨hread, -, -, hspan, -⟩ := forms_faithful
  have hs : s.Fits := ⟨⟨by decide, by decide, by decide⟩, ⟨by decide, by decide, by decide⟩⟩
  have hdigit : ∀ c : Char, c.isDigit = true → Digits [c] :=
    fun c hc => ⟨List.cons_ne_nil c [], List.forall_mem_singleton.mpr hc⟩
  have hnumeral : Numeral "-1.5e+3".toList :=
    @Numeral.intro ['-'] ['1'] ['.', '5'] ['e', '+', '3'] (.inr rfl)
      (.digits (hdigit '1' rfl) (by decide)) (.digits (hdigit '5' rfl))
      (@Exponent.digits 'e' ['+'] ['3'] (.inl rfl) (.inr (.inl rfl)) (hdigit '3' rfl))
  have hnote : Legible (.array [.number "-1.5e+3", .string .unpaired]) :=
    .array (by simpa using ⟨.number hnumeral, .string _⟩)
  have hplace : ∀ p : Position, Legible (ofPosition p) := fun p => (plain_ofPosition p).legible
  have hcut : Legible (.record [("column", .ofNat 3), ("offset", .ofNat 4)]) :=
    .record (by simpa using ⟨.number (numeral_toString 3), .number (numeral_toString 4)⟩)
  have htext : parse? text = some (.record [("of", .array [.number "-1.5e+3", .string .unpaired]),
      ("end", ofPosition s.stop), ("start", ofPosition s.start)]) := by
    rw [← hread _ (.record (by simpa using ⟨hnote, hplace _, hplace _⟩))]
    refine congrArg parse? ?_
    decide +kernel
  have hshort : parse? short = some (.record [("end", ofPosition s.stop),
      ("start", .record [("column", .ofNat 3), ("offset", .ofNat 4)])]) := by
    rw [← hread _ (.record (by simpa using ⟨hplace _, hcut⟩))]
    refine congrArg parse? ?_
    decide +kernel
  refine ⟨hs, hspan.rearranged s _ text hs ?_ htext, hspan.damaged s _ short ?_ hshort⟩
  · let moved : String → Value := fun key => ofPosition (if key = "start" then s.start else s.stop)
    refine @Rearranged.record _ [("of", .array [.number "-1.5e+3", .string .unpaired])] _ moved
      (by simp [moved, Rearranged.same]) (by simp) ?_
    have hreverse := List.reverse_perm [("start", ofPosition s.start), ("end", ofPosition s.stop)]
    exact (hreverse.cons _).trans (List.perm_append_singleton _ _).symm
  · have hcount : Damaged (ofPosition s.start)
        (.record [("column", .ofNat 3), ("offset", .ofNat 4)]) :=
      .count (f := ("line", .ofNat 2)) (by simp [s]) (by decide)
    exact .inside (f := ("start", ofPosition s.start)) (by simp) (by simp) hcount

end Interchange
end TokenDump
