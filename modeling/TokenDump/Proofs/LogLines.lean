import TokenDump.Json.Decode
import TokenDump.Proofs.Details
import TokenDump.Proofs.JsonRoundTrip
import TokenDump.Proofs.Timestamps
import TokenDump.Text.Utf8

/-! # Log lines read back

What an event says is read again from its line of JSON: the parts that are always there, those that
depend on its code and its level, its place in the source and its details. -/
namespace TokenDump

namespace Json

/-! ## Fields that may be left out -/

/-- The fields that have a value. -/
def present (fields : List (String × Option Value)) : List (String × Value) :=
  fields.filterMap fun (key, value) => value.map (key, ·)

/-- What is read from a field, if it is there. -/
def optionally? {α : Type} (read : Value → Option α) : Option Value → Option (Option α)
  | none => some none
  | some v => (read v).map some

/-- A count of any size. -/
def natural? : Value → Option Nat
  | .number spelling =>
    if spelling.toList.all Char.isDigit then some (Nat.ofDigitChars 10 spelling.toList 0) else none
  | _ => none

variable {fields : List (String × Option Value)} {field : String × Option Value} {key : String}

theorem valuesOf_cons (key : String) (field : String × Option Value)
    (fields : List (String × Option Value)) :
    valuesOf key ((present (field :: fields)).map member) =
      (if field.1 = key then field.2.toList else []) ++
        valuesOf key ((present fields).map member) := by
  obtain ⟨k, _ | v⟩ := field
  · simp [present]
  · by_cases h : k = key <;> simp [present, valuesOf, member, h]

theorem valuesOf_of_not_mem (h : key ∉ fields.map Prod.fst) :
    valuesOf key ((present fields).map member) = [] := by
  induction fields with
  | nil => rfl
  | cons field fields ih =>
    rw [List.map_cons, List.mem_cons, not_or] at h
    rw [valuesOf_cons, if_neg (Ne.symm h.1), ih h.2, List.append_nil]

theorem valuesOf_present (hn : (fields.map Prod.fst).Nodup) (h : field ∈ fields) :
    valuesOf field.1 ((present fields).map member) = field.2.toList := by
  induction fields with
  | nil => simp at h
  | cons f fields ih =>
    obtain ⟨hf, hn⟩ := List.nodup_cons.mp hn
    rw [valuesOf_cons]
    rcases List.mem_cons.mp h with rfl | h
    · rw [if_pos rfl, valuesOf_of_not_mem hf, List.append_nil]
    · have hne : f.1 ≠ field.1 := fun heq => hf (heq ▸ List.mem_map_of_mem h)
      rw [if_neg hne, ih hn h, List.nil_append]

theorem mapM_of_forall {α β γ : Type} {f : α → Option β} {k : γ → α} {v : γ → β}
    {items : List γ} (h : ∀ item ∈ items, f (k item) = some (v item)) :
    (items.map k).mapM f = some (items.map v) := by
  induction items with
  | nil => rfl
  | cons item items ih =>
    obtain ⟨hitem, hitems⟩ := List.forall_mem_cons.mp h
    simp [hitem, ih hitems]

/-- A record is read as it was made, whichever of its fields are there. -/
theorem fields?_present (hn : (fields.map Prod.fst).Nodup) :
    fields? (fields.map Prod.fst) (.record (present fields)) = some (fields.map Prod.snd) := by
  have hkeys : ((present fields).map member).any (·.1 = .unpaired) = false := by
    simp [member]
  rw [record_eq, fields?, hkeys, if_neg Bool.false_ne_true]
  refine mapM_of_forall fun field hfield => ?_
  rw [valuesOf_present hn hfield]
  cases field.2 <;> rfl

theorem optionally?_map {α β : Type} {read : Value → Option β} {write : α → Value} {f : α → β}
    (h : ∀ a, read (write a) = some (f a)) (a : Option α) :
    optionally? read (a.map write) = some (a.map f) := by
  cases a with
  | none => rfl
  | some a => simp [optionally?, h]

theorem plain_present (h : ∀ field ∈ fields, ∀ v ∈ field.2, Plain v) :
    Plain (.record (present fields)) := by
  refine .record fun entry hentry => ?_
  obtain ⟨⟨key, value⟩, hfield, hv⟩ := List.mem_filterMap.mp hentry
  obtain ⟨v, rfl, rfl⟩ := Option.map_eq_some_iff.mp hv
  exact h (key, some v) hfield v rfl

theorem plain_map {α : Type} {w : α → Value} (h : ∀ a, Plain (w a)) (a : Option α) :
    ∀ v ∈ a.map w, Plain v := by
  intro v hv
  obtain ⟨a, -, rfl⟩ := Option.mem_map.mp hv
  exact h a

theorem natural?_ofNat (n : Nat) : natural? (.ofNat n) = some n := by
  have hdigits : (toString n).toList.all Char.isDigit = true :=
    List.all_eq_true.mpr (isDigit_toString n)
  rw [Value.ofNat, natural?, if_pos hdigits, Nat.toString_eq_repr, Nat.toList_repr,
    Nat.ofDigitChars_ten_toDigits]

end Json

namespace Log

open Json

/-! ## Messages -/

theorem fitting_isPrefix (limit : Nat) (text : List Char) : fitting limit text <+: text := by
  induction text generalizing limit with
  | nil => exact List.prefix_rfl
  | cons c text ih =>
    rw [fitting]
    split
    · exact (List.prefix_cons_inj c).mpr (ih _)
    · exact List.nil_prefix

theorem size_fitting_le (limit : Nat) (text : List Char) :
    Utf8.size (fitting limit text) ≤ limit := by
  induction text generalizing limit with
  | nil => exact Nat.zero_le _
  | cons c text ih =>
    rw [fitting]
    split
    · have hrest := ih (limit - c.utf8Size)
      rw [Utf8.size]
      omega
    · exact Nat.zero_le _

/-- The longest beginning of a text that has at most `limit` bytes. -/
def LongestWithin (limit : Nat) (text start : List Char) : Prop :=
  start <+: text ∧ Utf8.size start ≤ limit ∧
    ∀ other, other <+: text → Utf8.size other ≤ limit → other <+: start

theorem isPrefix_fitting {limit : Nat} {start text : List Char} (h : start <+: text)
    (hsize : Utf8.size start ≤ limit) : start <+: fitting limit text := by
  induction start generalizing limit text with
  | nil => exact List.nil_prefix
  | cons c start ih =>
    obtain ⟨rest, rfl⟩ := h
    rw [Utf8.size] at hsize
    rw [List.cons_append, fitting, if_pos (by omega), List.prefix_cons_inj]
    exact ih (List.prefix_append _ _) (by omega)

theorem longestWithin_cut (message : String) :
    LongestWithin messageLimit message.toList (cut message).toList := by
  rw [cut, String.toList_ofList]
  exact ⟨fitting_isPrefix _ _, size_fitting_le _ _, fun _ hprefix hsize =>
    isPrefix_fitting hprefix hsize⟩

/-! ## Reading -/

/-- What a line says. -/
structure Report where
  level : Level
  code : Code
  /-- Counted from the start of 1970. -/
  millisecond : Int
  message : String
  span : Option Span
  context : Option Details
  category : Option String
  severity : Option String
  recoverable : Option Bool
  requiresHalt : Option Bool
deriving DecidableEq

def position? (v : Value) : Option Position := do
  let [column, line, offset] ← required? ["column", "line", "offset"] v | none
  return ⟨← natural? offset, ← natural? line, ← natural? column⟩

def span? (v : Value) : Option Span := do
  let [stop, start] ← required? ["end", "start"] v | none
  return ⟨← position? start, ← position? stop⟩

def level? (v : Value) : Option Level := do
  let name ← string? v
  [Level.error, .warning, .info, .debug].find? (·.name == name)

/-- The members of an object in which every value is a text. -/
def texts? : Value → Option (List (String × String))
  | .object members => members.mapM fun
    | (.text key, v) => (string? v).map (key, ·)
    | (.unpaired, _) => none
  | _ => none

/-- An object in which every value is a text and the keys are in order, none of them twice. -/
def details? (v : Value) : Option Details := do
  let entries ← texts? v
  if ordered : entries.Pairwise fun a b => a.1 < b.1 then some ⟨entries, ordered⟩ else none

def reportKeys : List String :=
  ["category", "code", "context", "level", "message", "recoverable", "requires_halt", "severity",
    "span", "timestamp"]

/-- No key may stand there twice, and of what every event has nothing may be missing. -/
def report? (v : Value) : Option Report := do
  let [category, code, context, level, message, recoverable, requiresHalt, severity, span,
    timestamp] ← fields? reportKeys v | none
  return {
    level := ← level? (← level)
    code := ⟨← string? (← code)⟩
    millisecond := ← Timestamp.read? (← string? (← timestamp))
    message := ← string? (← message)
    span := ← optionally? span? span
    context := ← optionally? details? context
    category := ← optionally? string? category
    severity := ← optionally? string? severity
    recoverable := ← optionally? boolean? recoverable
    requiresHalt := ← optionally? boolean? requiresHalt }

namespace Event

/-- The details, if there are any. -/
def context (e : Event) : Option Details := if e.details = .empty then none else some e.details

/-- What the registry knows about the code of an error. -/
def problem (e : Event) : Option Entry := if e.isError then e.code.lookup else none

/-- What the line of an event is to say. -/
def report (e : Event) : Report where
  level := e.level
  code := e.code
  millisecond := e.time.milliseconds
  message := cut e.message
  span := e.span
  context := e.context
  category := e.code.lookup.map (·.category)
  severity := e.code.lookup.map (·.severity.name)
  recoverable := e.problem.map (·.recoverable)
  requiresHalt := e.problem.map (·.halts)

def detailsValue (ds : Details) : Value := .record (ds.map fun (key, text) => (key, .ofString text))

/-- Every field that the line of an event can have. -/
def fields (e : Event) : List (String × Option Value) :=
  [("category", e.code.lookup.map fun entry => .ofString entry.category),
    ("code", some (.ofString e.code.text)),
    ("context", e.context.map detailsValue),
    ("level", some (.ofString e.level.name)),
    ("message", some (.ofString (cut e.message))),
    ("recoverable", e.problem.map fun entry => .boolean entry.recoverable),
    ("requires_halt", e.problem.map fun entry => .boolean entry.halts),
    ("severity", e.code.lookup.map fun entry => .ofString entry.severity.name),
    ("span", e.span.map spanValue),
    ("timestamp", some (.ofString e.time.render))]

theorem value_eq (e : Event) : e.value = .record (present e.fields) := by
  rw [value]
  refine congrArg Value.record ?_
  simp only [fields, context, problem, Details.isEmpty_iff]
  cases e.code.lookup <;> cases e.isError <;> cases e.span <;> by_cases h : e.details = .empty <;>
    simp [h, present, detailsValue]

end Event

/-! ## Each field is read back -/

theorem position?_positionValue (p : Position) : position? (positionValue p) = some p := by
  have hkeys : required? ["column", "line", "offset"] (positionValue p) =
      some [.ofNat p.column, .ofNat p.line, .ofNat p.offset] := by
    simp [required?, fields?, positionValue, Value.record, valuesOf]
  simp [position?, hkeys, natural?_ofNat]

theorem span?_spanValue (s : Span) : span? (spanValue s) = some s := by
  have hkeys : required? ["end", "start"] (spanValue s) =
      some [positionValue s.stop, positionValue s.start] := by
    simp [required?, fields?, spanValue, Value.record, valuesOf]
  simp [span?, hkeys, position?_positionValue]

theorem level?_name (level : Level) : level? (.ofString level.name) = some level := by
  cases level <;> decide

theorem texts?_detailsValue (ds : Details) :
    texts? (Event.detailsValue ds) = some ds.entries := by
  rw [Event.detailsValue, Details.map, record_eq, texts?, List.map_map]
  refine (mapM_of_forall (v := id) fun entry _ => ?_).trans (by rw [List.map_id])
  rfl

theorem details?_detailsValue (ds : Details) : details? (Event.detailsValue ds) = some ds := by
  rw [details?, texts?_detailsValue, Option.bind_eq_bind, Option.bind_some, dif_pos ds.ordered]

theorem plain_positionValue (p : Position) : Plain (positionValue p) :=
  .record (by simpa using ⟨Plain.ofNat _, Plain.ofNat _, Plain.ofNat _⟩)

theorem plain_spanValue (s : Span) : Plain (spanValue s) :=
  .record (by simpa using ⟨plain_positionValue _, plain_positionValue _⟩)

theorem plain_detailsValue (ds : Details) : Plain (Event.detailsValue ds) := by
  refine .record fun field hfield => ?_
  obtain ⟨entry, -, rfl⟩ := List.mem_map.mp hfield
  exact .ofString _

namespace Event

theorem plain_value (e : Event) : Plain e.value := by
  rw [value_eq]
  refine plain_present ?_
  simp only [fields, List.forall_mem_cons, List.not_mem_nil, false_implies, implies_true, and_true]
  have hstring : ∀ s : String, ∀ v ∈ some (Value.ofString s), Plain v :=
    fun s => plain_map (w := .ofString) .ofString (some s)
  exact ⟨plain_map (fun _ => .ofString _) _, hstring _, plain_map plain_detailsValue _, hstring _,
    hstring _, plain_map (fun _ => .boolean _) _, plain_map (fun _ => .boolean _) _,
    plain_map (fun _ => .ofString _) _, plain_map plain_spanValue _, hstring _⟩

/-- The object that is written for an event says what it is to say. -/
theorem report?_value (e : Event) (h : e.time.Ordinary) : report? e.value = some e.report := by
  have hkeys : e.fields.map Prod.fst = reportKeys := rfl
  have hfields : fields? reportKeys e.value = some (e.fields.map Prod.snd) := by
    rw [value_eq, ← hkeys]
    exact fields?_present (hkeys ▸ by decide)
  have hstring : ∀ s, string? (.ofString s) = some s := fun _ => rfl
  have hboolean : ∀ b, boolean? (.boolean b) = some b := fun _ => rfl
  have hcategory := optionally?_map (fun entry : Entry => hstring entry.category) e.code.lookup
  have hseverity := optionally?_map (fun entry : Entry => hstring entry.severity.name) e.code.lookup
  have hrecoverable := optionally?_map (fun entry : Entry => hboolean entry.recoverable) e.problem
  have hhalts := optionally?_map (fun entry : Entry => hboolean entry.halts) e.problem
  have hspan := optionally?_map span?_spanValue e.span
  have hcontext := optionally?_map details?_detailsValue e.context
  rw [Option.map_id'] at hspan hcontext
  rw [report?, hfields, fields]
  dsimp only [List.map, Option.bind_eq_bind, Option.bind_some]
  simp only [level?_name, hstring, Timestamp.read?_render h, hspan, hcontext, hcategory, hseverity,
    hrecoverable, hhalts, Option.bind_some]
  rfl

theorem context_eq_none (e : Event) : e.context = none ↔ e.details = .empty := by
  by_cases h : e.details = .empty <;> simp [context, h]

theorem details_of_context {e f : Event} (h : e.context = f.context) : e.details = f.details := by
  have hgetD : ∀ e : Event, e.context.getD .empty = e.details := by
    intro e
    by_cases h : e.details = .empty <;> simp [context, h]
  rw [← hgetD e, h, hgetD f]

theorem parse?_renderJson (e : Event) : parse? e.renderJson = some e.value :=
  e.plain_value.parse?_compact

/-- What two events are to say is the same if their lines are. -/
theorem report_of_renderJson {e f : Event} (he : e.time.Ordinary) (hf : f.time.Ordinary)
    (h : f.renderJson = e.renderJson) : f.report = e.report := by
  have hvalue : f.value = e.value := by
    rw [← Option.some_inj, ← parse?_renderJson, h, parse?_renderJson]
  rw [← Option.some_inj, ← report?_value f hf, hvalue, report?_value e he]

/-- An event gives one line without control characters. The line is an object, from which what the
event is to say is read again, with the message cut to 4096 bytes and the last value of each key
that was set. Events that say different things give different lines. -/
theorem renderJson_reads_back (e : Event) (pairs : List (String × String))
    (hdetails : e.details = Details.ofList pairs) (htime : e.time.Ordinary) :
    Visible e.renderJson.toList ∧
    (∃ members, parse? e.renderJson = some (.object members) ∧
      report? (.object members) = some e.report) ∧
    LongestWithin 4096 e.message.toList e.report.message.toList ∧
    (e.report.context = none ↔ pairs = []) ∧
    (e.details.map Prod.fst).Nodup ∧
    (∀ key, e.details.lookup key = pairs.reverse.lookup key) ∧
    ∀ f : Event, f.time.Ordinary → f.renderJson = e.renderJson →
      f.level = e.level ∧ f.code = e.code ∧ f.time.milliseconds = e.time.milliseconds ∧
        cut f.message = cut e.message ∧ f.span = e.span ∧ f.details = e.details := by
  refine ⟨?_, ⟨_, e.parse?_renderJson, e.report?_value htime⟩, longestWithin_cut e.message, ?_, ?_,
    ?_, ?_⟩
  · rw [renderJson, Value.compact, String.toList_ofList]
    exact e.plain_value.visible
  · exact (context_eq_none e).trans (hdetails ▸ Details.ofList_eq_empty pairs)
  · exact e.details.nodup_keys
  · exact fun key => hdetails ▸ Details.lookup_ofList pairs key
  · intro f hf hline
    have hreport := report_of_renderJson htime hf hline
    exact ⟨congrArg Report.level hreport, congrArg Report.code hreport,
      congrArg Report.millisecond hreport, congrArg Report.message hreport,
      congrArg Report.span hreport, details_of_context (congrArg Report.context hreport)⟩

/-- A quote, a newline and a letter of two bytes in the message; a key that is set twice, and a
value with a control character. Without that character the line is another one. -/
theorem renderJson_reads_back_full_disk :
    let span : Span := ⟨⟨4, 2, 3⟩, ⟨5, 2, 4⟩⟩
    let pairs := [("to", "a.txt"), ("reason", "no\x01 room"), ("to", "ö\\")]
    let e : Event := ⟨⟨.error, .writeFailed, "\"Disk\"\né", some span, Details.ofList pairs⟩,
      ⟨1700000000, 123456789⟩⟩
    let f : Event := { e with details := [("reason", "no room"), ("to", "ö\\")] }
    e.time.Ordinary ∧ Visible e.renderJson.toList ∧
    (∃ members, parse? e.renderJson = some (.object members) ∧
      report? (.object members) = some {
        level := .error
        code := .writeFailed
        millisecond := 1700000000123
        message := "\"Disk\"\né"
        span := span
        context := some ⟨[("reason", "no\x01 room"), ("to", "ö\\")], by decide +kernel⟩
        category := "Driver"
        severity := "High"
        recoverable := false
        requiresHalt := true }) ∧
    f.renderJson ≠ e.renderJson := by
  intro span pairs e f
  have htime : e.time.Ordinary := ⟨by decide, by decide, by decide⟩
  obtain ⟨hvisible, ⟨members, hparse, hread⟩, -, -, -, -, hdistinct⟩ :=
    renderJson_reads_back e pairs rfl htime
  refine ⟨htime, hvisible, ⟨members, hparse, hread.trans (congrArg some ?_)⟩, fun hline => ?_⟩
  · decide +kernel
  · obtain ⟨-, -, -, -, -, hdetails⟩ := hdistinct f htime hline
    revert hdetails
    decide +kernel

end Event

end Log
end TokenDump
