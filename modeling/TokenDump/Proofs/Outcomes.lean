import TokenDump.Proofs.Contents
import TokenDump.Proofs.Courses

/-! # Outcomes of runs

A run for a source ends well, or with one failure: of its settings, of the source, of the destination,
or over illegal tokens. Which one it is depends on how far the run gets, and each is reported under a
code of its own with what the registry knows about it. -/
namespace TokenDump

namespace Dump

open Lexer

variable {σ : Type} {c : Channel σ} {settings : Settings.Dumping} {s : Settings} {elapsed : Nat}
  {l last : Lexer} {d e : Delivery σ} {ts : List (Located Token)} {stop : Stop} {f : Folder}
  {source destination : String} {target : Path} {output : Option String}

/-- What a dump stops at once its last bytes are passed on as well. -/
def Stop.flushed (e : Delivery σ) : Stop → Stop
  | .ended line =>
    match e.flush.1 with
    | .ok _ => .ended line
    | .error fault => .refused fault
  | .unread error => .unread error
  | .refused fault => .refused fault

/-- What a dump comes to that has delivered the lines of these tokens. -/
def Stop.verdict (settings : Settings.Dumping) (ts : List (Located Token)) :
    Stop → Except DumpError Summary
  | .ended line =>
    if settings.failOnIllegal && 0 < illegals ts then .error (.illegalTokens (illegals ts))
    else .ok ⟨ts.length, illegals ts, line⟩
  | .unread error => .error (.unread (.unread error))
  | .refused fault => .error (.unwritten fault)

/-- A dump of a source, from a lexer that was opened on it to where its output goes: it delivers the
lines of these tokens, and then it stops. A destination may be the file that is the source. -/
inductive Delivered (s : Settings) (f : Folder) (source : String) (l : Lexer) :
    Option String → List (Located Token) → Stop → Prop
  | shown {ts : List (Located Token)} {stop : Stop} {last : Lexer} {e : Delivery Unit}
      (course : Course (.plain s.dumping) (l.withOrigin (some source)) (.start .memory ⟨⟩) ts stop
        last e) : Delivered s f source l none ts (stop.flushed e)
  | full {destination : String} {target : Path} {ts : List (Located Token)} {stop : Stop}
      {last : Lexer} {e : Delivery FileProgress} (created : f.createFile destination = .ok target)
      (noRoom : f.node? target = some (.device .full))
      (course : Course (.plain s.dumping) (l.withOrigin (some source)) (.start .full .start) ts stop
        last e) : Delivered s f source l (some destination) ts (stop.flushed e)
  | apart {destination : String} {target : Path} {ts : List (Located Token)} {stop : Stop}
      {last : Lexer} {e : Delivery Unit} (created : f.createFile destination = .ok target)
      (room : f.node? target ≠ some (.device .full))
      (apart : sharedContent f source target = none)
      (course : Course (.plain s.dumping) (l.withOrigin (some source)) (.start .memory ⟨⟩) ts stop
        last e) : Delivered s f source l (some destination) ts (stop.flushed e)
  | shared {destination : String} {target : Path} {content : Bytes} {ts : List (Located Token)}
      {stop : Stop} {last : Lexer} {e : Delivery FileProgress}
      (created : f.createFile destination = .ok target)
      (room : f.node? target ≠ some (.device .full))
      (shared : sharedContent f source target = some content)
      (course : Course (.inPlace s.dumping (content.take Folder.readBuffer))
        (lookAgain (content.take Folder.readBuffer) (.start .file .start)
          (l.withOrigin (some source))) (.start .file .start) ts stop last e) :
      Delivered s f source l (some destination) ts (stop.flushed e)

theorem Course.finish {lines : Lexer → Delivery σ → Nat → Nat → Outcome σ}
    (h : Course c l d ts stop last e) (hc : c.Through lines) (settings : Settings.Dumping)
    (elapsed : Nat) :
    (finish settings elapsed (lines l d 0 0)).result = (stop.flushed e).verdict settings ts := by
  obtain ⟨hresult, -, hdelivery⟩ := h.outcome hc 0 0
  rw [Nat.zero_add, Nat.zero_add] at hresult
  rw [Dump.finish, hresult, hdelivery]
  cases stop with
  | ended line =>
    simp only [Stop.result, Stop.flushed]
    generalize e.flush = r
    obtain ⟨flushed, e'⟩ := r
    cases flushed <;> rfl
  | unread error => exact hresult
  | refused fault => exact hresult

theorem Course.run (h : Course (.plain settings) l d ts stop last e) (elapsed : Nat) :
    (run settings elapsed l d).result = (stop.flushed e).verdict settings ts :=
  h.finish (through_putLines settings) settings elapsed

/-- What comes of the dump of a source, wherever its output goes. -/
def result (s : Settings) (elapsed : Nat) (f : Folder) (source : String) :
    Option String → Except DumpError Summary
  | some destination => (betweenFiles s elapsed f source destination).result
  | none => (toOutput s elapsed f source).result

theorem openLexer_of_opens (h : Opens f source s.scanning l) :
    ∃ notices, openLexer f source s.scanning = (.ok (l.withOrigin (some source)), notices) := by
  obtain ⟨feed, hopen, hprime⟩ := h
  generalize hr : Lexer.ofFeed feed s.scanning = r at hprime
  obtain ⟨primed, notices⟩ := r
  obtain rfl : primed = .ok l := hprime
  simp only [openLexer, hopen, ofFile, hr]
  exact ⟨_, rfl⟩

theorem Delivered.result (h : Delivered s f source l output ts stop)
    (hl : Opens f source s.scanning l) (elapsed : Nat) :
    result s elapsed f source output = stop.verdict s.dumping ts := by
  obtain ⟨notices, hopen⟩ := openLexer_of_opens hl
  cases h with
  | shown course =>
    simp only [Dump.result, toOutput, hopen]
    exact course.run elapsed
  | full created noRoom course =>
    simp only [Dump.result, betweenFiles, hopen, created, noRoom, if_true]
    exact course.run elapsed
  | apart created room apart course =>
    simp only [Dump.result, betweenFiles, hopen, created, if_neg room, apart]
    exact course.run elapsed
  | shared created room shared course =>
    simp only [Dump.result, betweenFiles, hopen, created, if_neg room, shared]
    exact course.finish (through_putLinesInPlace _ _) s.dumping elapsed

theorem result_of_error {error : SourceError} (elapsed : Nat) (output : Option String)
    (h : (openLexer f source s.scanning).1 = .error error) :
    result s elapsed f source output = .error (.ofSourceError error) := by
  generalize hr : openLexer f source s.scanning = r at h
  obtain ⟨opened, notices⟩ := r
  obtain rfl : opened = .error error := h
  cases output with
  | none => simp only [Dump.result, toOutput, hr]
  | some destination => simp only [Dump.result, betweenFiles, hr]

theorem result_uncreated {fault : Fault} (elapsed : Nat) (hl : Opens f source s.scanning l)
    (h : f.createFile destination = .error fault) :
    result s elapsed f source (some destination) = .error (.uncreated destination fault) := by
  obtain ⟨notices, hopen⟩ := openLexer_of_opens hl
  simp only [Dump.result, betweenFiles, hopen, h]

theorem openLexer_unopened {fault : Fault} (h : f.openFile source = .error fault)
    (settings : Settings.Scanning) :
    (openLexer f source settings).1 = .error (.unopened source fault) := by
  rw [openLexer, h, ofFile]

theorem openLexer_unprimed {feed : Feed} {error : ReadError} {settings : Settings.Scanning}
    (hopen : f.openFile source = .ok feed)
    (h : (Lexer.ofFeed feed settings).1 = .error error) :
    (openLexer f source settings).1 = .error (.unread error) := by
  generalize hr : Lexer.ofFeed feed settings = r at h
  obtain ⟨primed, notices⟩ := r
  obtain rfl : primed = .error error := h
  rw [openLexer, hopen]
  simp only [ofFile, hr]

theorem exists_delivered (s : Settings) (f : Folder) (source : String) (l : Lexer)
    (hcreated : ∀ destination, output = some destination →
      ∃ target, f.createFile destination = .ok target) :
    ∃ ts stop, Delivered s f source l output ts stop := by
  cases output with
  | none =>
    obtain ⟨ts, stop, last, e, hcourse⟩ :=
      exists_course_plain s.dumping (l.withOrigin (some source)) (.start .memory ⟨⟩)
    exact ⟨ts, _, .shown hcourse⟩
  | some destination =>
    obtain ⟨target, hcreate⟩ := hcreated destination rfl
    by_cases hfull : f.node? target = some (.device .full)
    · obtain ⟨ts, stop, last, e, hcourse⟩ :=
        exists_course_plain s.dumping (l.withOrigin (some source)) (.start .full .start)
      exact ⟨ts, _, .full hcreate hfull hcourse⟩
    · cases hshared : sharedContent f source target with
      | none =>
        obtain ⟨ts, stop, last, e, hcourse⟩ :=
          exists_course_plain s.dumping (l.withOrigin (some source)) (.start .memory ⟨⟩)
        exact ⟨ts, _, .apart hcreate hfull hshared hcourse⟩
      | some content =>
        obtain ⟨ts, stop, last, e, hcourse⟩ :=
          exists_course_inPlace s.dumping (content.take Folder.readBuffer)
            (lookAgain (content.take Folder.readBuffer) (.start .file .start)
              (l.withOrigin (some source))) (.start .file .start)
        exact ⟨ts, _, .shared hcreate hfull hshared hcourse⟩

theorem Delivered.created (h : Delivered s f source l output ts stop) :
    ∀ destination, output = some destination →
      ∃ target, f.createFile destination = .ok target := by
  rintro destination rfl
  cases h with
  | full created | apart created | shared created => exact ⟨_, created⟩

/-- The destination is not the source, and it has room for every byte. -/
def Apart (f : Folder) (source : String) (output : Option String) : Prop :=
  ∀ destination, output = some destination →
    (∀ a b, f.resolve source = .ok a → f.resolve destination = .ok b → a.path ≠ b.path) ∧
    ∀ target, f.createFile destination = .ok target → f.node? target ≠ some (.device .full)

theorem result_apart (elapsed : Nat) (h : Apart f source output)
    (hl : Opens f source s.scanning l)
    (hcreated : ∀ destination, output = some destination →
      ∃ target, f.createFile destination = .ok target) :
    result s elapsed f source output = verdict s.dumping l.drain.1 l.drain.2.1 := by
  cases output with
  | none => exact (toOutput_opened elapsed hl).1
  | some destination =>
    obtain ⟨apart, room⟩ := h destination rfl
    obtain ⟨target, hcreate⟩ := hcreated destination rfl
    have hfile := betweenFiles_apart s elapsed f source destination apart room
    exact (toOutput_written elapsed hcreate hl hfile).1.symm.trans (toOutput_opened elapsed hl).1

theorem illegals_proper (ts : List (Located Token)) : illegals (proper ts) = illegals ts := by
  rw [illegals, illegals, proper, List.countP_filter]
  refine List.countP_congr fun t _ => ?_
  cases hkind : t.value.kind <;> simp [Token.isIllegal, Token.isEof, hkind]

theorem verdict_ok_iff {settings : Settings.Dumping} {error : Option ReadError} :
    (∃ summary, verdict settings ts error = .ok summary) ↔
      error = none ∧ ¬ (settings.failOnIllegal = true ∧ 0 < illegals ts) := by
  rw [verdict.eq_def, illegals_proper]
  cases error with
  | some error => simp
  | none =>
    by_cases h : settings.failOnIllegal = true ∧ 0 < illegals ts <;> simp [h]

end Dump

namespace CommandLine

open Dump Log

/-- The code of a source that can be opened but not read. -/
def readCode (error : ReadError) : String :=
  if error.fault.kind = .invalidData then "E007" else "E006"

/-- How a run for a source ends: well, or with a failure that is reported under this code. -/
inductive Fate (env : Environment) (f : Folder) (source : String) (o : Options) :
    Option (Failure × String) → Prop
  | unreadableSettings {path : String} {fault : Fault}
      (failed : settings env f o = .error (.unreadable path fault)) :
      Fate env f source o (some (.settings (.unreadable path fault), "E060"))
  | invalidSettings {error : SettingsError} (failed : settings env f o = .error error)
      (readable : ∀ path fault, error ≠ .unreadable path fault) :
      Fate env f source o (some (.settings error, "E061"))
  | unopened {s : Settings} {fault : Fault} (configured : settings env f o = .ok s)
      (failed : f.openFile source = .error fault) :
      Fate env f source o (some (.dump (.unopened source fault), "E005"))
  | unprimed {s : Settings} {feed : Feed} {error : ReadError}
      (configured : settings env f o = .ok s) (opened : f.openFile source = .ok feed)
      (failed : (Lexer.ofFeed feed s.scanning).1 = .error error) :
      Fate env f source o (some (.dump (.unread (.unread error)), readCode error))
  | uncreated {s : Settings} {l : Lexer} {destination : String} {fault : Fault}
      (configured : settings env f o = .ok s) (opens : Opens f source s.scanning l)
      (wanted : o.output = some destination) (failed : f.createFile destination = .error fault) :
      Fate env f source o (some (.dump (.uncreated destination fault), "E040"))
  | unread {s : Settings} {l : Lexer} {ts : List (Located Token)} {error : ReadError}
      (configured : settings env f o = .ok s) (opens : Opens f source s.scanning l)
      (delivered : Delivered s f source l o.output ts (.unread error)) :
      Fate env f source o (some (.dump (.unread (.unread error)), readCode error))
  | unwritten {s : Settings} {l : Lexer} {ts : List (Located Token)} {fault : Fault}
      (configured : settings env f o = .ok s) (opens : Opens f source s.scanning l)
      (delivered : Delivered s f source l o.output ts (.refused fault)) :
      Fate env f source o (some (.dump (.unwritten fault), "E041"))
  | illegal {s : Settings} {l : Lexer} {ts : List (Located Token)} {line : Nat}
      (configured : settings env f o = .ok s) (opens : Opens f source s.scanning l)
      (delivered : Delivered s f source l o.output ts (.ended line))
      (asked : s.dumping.failOnIllegal = true) (found : 0 < illegals ts) :
      Fate env f source o (some (.dump (.illegalTokens (illegals ts)), "E043"))
  | complete {s : Settings} {l : Lexer} {ts : List (Located Token)} {line : Nat}
      (configured : settings env f o = .ok s) (opens : Opens f source s.scanning l)
      (delivered : Delivered s f source l o.output ts (.ended line))
      (tolerated : ¬ (s.dumping.failOnIllegal = true ∧ 0 < illegals ts)) :
      Fate env f source o none

/-- The report of a failure with this message, under a code with this entry. -/
def registered (entry : Entry) (message : String) : String :=
  "[ERROR] " ++ entry.code.text ++ " - " ++ cut message ++
    "\n  " ++ entry.category ++ " / " ++ entry.severity.name ++
    ("\n  recoverable=" ++ Notice.flag entry.recoverable ++ " halt=" ++ Notice.flag entry.halts) ++
    "\n  " ++ entry.description ++
    "\n  Action: " ++ entry.action

/-- The run fails, and the last thing that it says is the report of the failure, after the events
that it has logged. -/
structure Reports (failure : Failure) (code : String) (out : Outcome) : Prop where
  exitCode : out.exitCode = 1
  noInternalError : code ≠ "ERR001"
  diagnostics : ∃ (s : Settings.Logging) (events : List Event) (entry : Entry),
    entry ∈ registry ∧ entry.code.text = code ∧
    out.diagnostics = diagnostics s events ++ [registered entry failure.message]

variable {env : Environment} {clock : Clock} {f : Folder} {source : String} {o : Options}
  {arguments : List String} {fate fate' : Option (Failure × String)} {s : Settings}

/-- Why the run fails, if it does. -/
def failure? (env : Environment) (clock : Clock) (f : Folder) (source : String) (o : Options) :
    Option Failure :=
  match settings env f o with
  | .error error => some (.settings error)
  | .ok s => Failure.ofDump (result s clock.elapsed f source o.output)

theorem dump_result (s : Settings) (clock : Clock) (f : Folder) (source : String) (o : Options) :
    (dump s clock f source o).1 = result s clock.elapsed f source o.output := by
  rw [dump]
  cases o.output <;> rfl

theorem run_concludes (env : Environment) (clock : Clock) (f : Folder)
    (hr : request arguments = .dump source o) :
    ∃ logging, Concludes logging (failure? env clock f source o) (run env clock f arguments) := by
  cases hs : settings env f o with
  | error error =>
    have hfailure : failure? env clock f source o = some (.settings error) := by rw [failure?, hs]
    rw [run_eq_of_error clock hr hs, hfailure]
    exact ⟨⟨false, false, .error⟩, rfl, [], rfl⟩
  | ok s =>
    have hconcludes := (run_of_settings (f := f) clock hr hs).1
    rw [dump_result] at hconcludes
    exact ⟨s.logging, by simpa [failure?, hs] using hconcludes⟩

theorem failure?_of_ok (clock : Clock) (hs : settings env f o = .ok s) :
    failure? env clock f source o =
      Failure.ofDump (result s clock.elapsed f source o.output) := by
  rw [failure?, hs]

theorem code_readError (error : ReadError) :
    (Failure.dump (.unread (.unread error))).code.text = readCode error := by
  change error.code.text = readCode error
  rw [ReadError.code, readCode]
  split <;> rfl

/-- A run has one fate, the failure that it reports, and the failure decides on the code. -/
theorem Fate.eq (h : Fate env f source o fate) (clock : Clock) :
    fate = (failure? env clock f source o).map fun failure => (failure, failure.code.text) := by
  cases h with
  | unreadableSettings failed =>
    rw [failure?, failed]
    rfl
  | @invalidSettings error failed readable =>
    rw [failure?, failed]
    cases error with
    | unreadable path fault => exact absurd rfl (readable path fault)
    | malformed => rfl
    | misshapen error => rfl
  | unopened configured failed =>
    rw [failure?_of_ok clock configured, result_of_error _ _ (openLexer_unopened failed _)]
    rfl
  | unprimed configured opened failed =>
    rw [failure?_of_ok clock configured, result_of_error _ _ (openLexer_unprimed opened failed),
      ← code_readError]
    rfl
  | uncreated configured opens wanted failed =>
    rw [failure?_of_ok clock configured, wanted, result_uncreated _ opens failed]
    rfl
  | unread configured opens delivered =>
    rw [failure?_of_ok clock configured, delivered.result opens, ← code_readError]
    rfl
  | unwritten configured opens delivered =>
    rw [failure?_of_ok clock configured, delivered.result opens]
    rfl
  | illegal configured opens delivered asked found =>
    rw [failure?_of_ok clock configured, delivered.result opens]
    simp only [Stop.verdict, asked, found, decide_true, Bool.and_self, if_true]
    rfl
  | complete configured opens delivered tolerated =>
    rw [failure?_of_ok clock configured, delivered.result opens]
    simp only [Stop.verdict]
    rw [if_neg (by simpa using tolerated)]
    rfl

theorem exists_fate (env : Environment) (f : Folder) (source : String) (o : Options) :
    ∃ fate, Fate env f source o fate := by
  cases hs : settings env f o with
  | error error =>
    cases error with
    | unreadable path fault => exact ⟨_, .unreadableSettings hs⟩
    | malformed => exact ⟨_, .invalidSettings hs (by simp)⟩
    | misshapen error => exact ⟨_, .invalidSettings hs (by simp)⟩
  | ok s =>
    cases hopen : f.openFile source with
    | error fault => exact ⟨_, .unopened hs hopen⟩
    | ok feed =>
      cases hprime : (Lexer.ofFeed feed s.scanning).1 with
      | error error => exact ⟨_, .unprimed hs hopen hprime⟩
      | ok l =>
        have hopens : Opens f source s.scanning l := ⟨feed, hopen, hprime⟩
        by_cases hcreated : ∀ destination, o.output = some destination →
            ∃ target, f.createFile destination = .ok target
        · obtain ⟨ts, stop, hdelivered⟩ := exists_delivered s f source l hcreated
          cases stop with
          | unread error => exact ⟨_, .unread hs hopens hdelivered⟩
          | refused fault => exact ⟨_, .unwritten hs hopens hdelivered⟩
          | ended line =>
            by_cases hbad : s.dumping.failOnIllegal = true ∧ 0 < illegals ts
            · exact ⟨_, .illegal hs hopens hdelivered hbad.1 hbad.2⟩
            · exact ⟨_, .complete hs hopens hdelivered hbad⟩
        · obtain ⟨destination, hdestination⟩ := not_forall.mp hcreated
          obtain ⟨hwanted, hfailed⟩ := Classical.not_imp.mp hdestination
          cases hcreate : f.createFile destination with
          | error fault => exact ⟨_, .uncreated hs hopens hwanted hcreate⟩
          | ok target => exact absurd ⟨target, hcreate⟩ hfailed

theorem fate_none_iff (clock : Clock) :
    Fate env f source o none ↔ failure? env clock f source o = none := by
  refine ⟨fun h => by simpa using h.eq clock, fun h => ?_⟩
  obtain ⟨fate, hfate⟩ := exists_fate env f source o
  have heq := hfate.eq clock
  rw [h, Option.map_none] at heq
  exact heq ▸ hfate

/-- The codes of all failures. -/
def failureCodes : List Code :=
  [.configUnreadable, .configInvalid, .openFailed, .readFailed, .badEncoding, .createFailed,
    .writeFailed, .serializeFailed, .illegalTokens]

theorem code_mem (failure : Failure) : failure.code ∈ failureCodes := by
  cases failure with
  | settings error => cases error <;> simp [failureCodes, Failure.code, SettingsError.code]
  | dump error =>
    cases error with
    | unread error =>
      cases error with
      | unopened path fault => simp [failureCodes, Failure.code, DumpError.code, SourceError.code]
      | unread error =>
        by_cases hkind : error.fault.kind = .invalidData <;>
          simp [failureCodes, Failure.code, DumpError.code, SourceError.code, ReadError.code, hkind]
    | _ => simp [failureCodes, Failure.code, DumpError.code]

/-- Every failure is registered, and none of them as an internal error. -/
theorem exists_entry (failure : Failure) :
    ∃ entry ∈ registry, failure.code.lookup = some entry ∧ entry.code = failure.code ∧
      failure.code.text ≠ "ERR001" := by
  have hall : ∀ code ∈ failureCodes, code.lookup.isSome = true ∧ code.text ≠ "ERR001" := by decide
  obtain ⟨hregistered, hinternal⟩ := hall _ (code_mem failure)
  obtain ⟨entry, hentry⟩ := Option.isSome_iff_exists.mp hregistered
  have hlookup := hentry
  rw [Code.lookup] at hentry
  have hcode := List.find?_some (p := fun x : Entry => x.code == failure.code) hentry
  exact ⟨entry, List.mem_of_find?_eq_some hentry, hlookup, by simpa using hcode, hinternal⟩

theorem render_error (code : Code) (message : String) :
    (Notice.error code message).render = "[ERROR] " ++ code.text ++ " - " ++ cut message := by
  simp [Notice.render, Notice.error, Level.name]

theorem report_eq {entry : Entry} (failure : Failure) (h : failure.code.lookup = some entry)
    (hcode : entry.code = failure.code) :
    failure.report = registered entry failure.message := by
  have hsame : (Notice.error failure.code failure.message).code = failure.code := rfl
  have herror : (Notice.error failure.code failure.message).isError = true := rfl
  rw [Failure.report, Notice.renderDetailed, hsame, h]
  dsimp only
  rw [render_error, if_pos herror, ← hcode]
  unfold registered
  rfl

/-- There are settings, the source holds a text, the destination can be created, and no token of the
text counts as a failure. -/
def Faultless (env : Environment) (f : Folder) (source : String) (o : Options) : Prop :=
  ∃ (s : Settings) (text : String) (ts : List (Located Token)), settings env f o = .ok s ∧
    f.contentOf source = .ok (Utf8.encode text.toList) ∧
    (∀ destination, o.output = some destination →
      ∃ target, f.createFile destination = .ok target) ∧
    Lexer.Segmentation s.scanning.trivia .start text.toList ts ∧
    ¬ (s.dumping.failOnIllegal = true ∧ 0 < illegals ts)

theorem Fate.faultless (h : Fate env f source o none) (ha : Apart f source o.output) :
    Faultless env f source o := by
  cases h with
  | @complete s l ts line configured opens delivered tolerated =>
    have hresult := delivered.result opens 0
    rw [result_apart 0 ha opens delivered.created, Stop.verdict,
      if_neg (by simpa using tolerated)] at hresult
    obtain ⟨hnone, hcounts⟩ := verdict_ok_iff.mp ⟨_, hresult⟩
    obtain ⟨text, hcontent⟩ := opens.exists_text hnone
    obtain ⟨tokens, htokens⟩ := Lexer.exists_segmentation s.scanning.trivia .start text.toList
    rw [(opens.drain_text hcontent htokens).1] at hcounts
    exact ⟨s, text, tokens, configured, hcontent, delivered.created, htokens, hcounts⟩

theorem Faultless.endsWell (h : Faultless env f source o) (ha : Apart f source o.output) :
    Fate env f source o none := by
  obtain ⟨s, text, ts, hs, hcontent, hcreated, hts, hcounts⟩ := h
  obtain ⟨l, hl⟩ := exists_opens s.scanning hcontent
  obtain ⟨htokens, hnone⟩ := hl.drain_text hcontent hts
  obtain ⟨summary, hsummary⟩ := verdict_ok_iff.mpr ⟨hnone, htokens ▸ hcounts⟩
  refine (fate_none_iff ⟨.epoch, 0⟩).mpr ?_
  rw [failure?_of_ok _ hs, result_apart _ ha hl hcreated, hsummary]
  rfl

theorem Concludes.reports {logging : Settings.Logging} {failure : Failure} {out : Outcome}
    (h : Concludes logging (some failure) out) : Reports failure failure.code.text out := by
  obtain ⟨events, hdiagnostics⟩ := h.diagnostics
  obtain ⟨entry, hentry, hlookup, hcode, hinternal⟩ := exists_entry failure
  rw [Option.map_some, report_eq failure hlookup hcode] at hdiagnostics
  exact ⟨h.exitCode, hinternal, logging, events, entry, hentry, congrArg _ hcode, hdiagnostics⟩

/-- A run for a source has one fate. It exits with 0 exactly if all goes well, and else the failure
is reported at the end, under its code. Where the destination is not the source, what goes well
depends on the settings, the text in the source and the name of the destination alone. -/
theorem run_fate (env : Environment) (clock : Clock) (f : Folder)
    (hr : request arguments = .dump source o) :
    let out := run env clock f arguments
    (∃! fate, Fate env f source o fate) ∧
    (out.exitCode = 0 ↔ Fate env f source o none) ∧
    (∀ failure code, Fate env f source o (some (failure, code)) → Reports failure code out) ∧
    (Apart f source o.output → (out.exitCode = 0 ↔ Faultless env f source o)) := by
  intro out
  obtain ⟨logging, hconcludes⟩ := run_concludes env clock f hr
  obtain ⟨fate, hfate⟩ := exists_fate env f source o
  have hzero : out.exitCode = 0 ↔ Fate env f source o none := by
    rw [hconcludes.exitCode, fate_none_iff clock]
    simp
  refine ⟨⟨fate, hfate, fun other h => (h.eq clock).trans (hfate.eq clock).symm⟩, hzero,
    fun failure code h => ?_, fun ha => hzero.trans ⟨fun h => h.faultless ha, fun h => h.endsWell ha⟩⟩
  have hsome := h.eq clock
  cases hfailure : failure? env clock f source o with
  | none => simp [hfailure] at hsome
  | some reason =>
    rw [hfailure, Option.map_some, Option.some.injEq, Prod.mk.injEq] at hsome
    obtain ⟨rfl, rfl⟩ := hsome
    rw [hfailure] at hconcludes
    exact hconcludes.reports

/-- The source can be read, and the destination is a directory. -/
theorem run_fate_directory :
    let f : Folder := ⟨[], [(["in"], .file [0x61, 0x2B, 0x62]), (["out"], .directory)]⟩
    let o : Options := { Options.none with source := some "in", output := some "out" }
    let out := run [] ⟨.epoch, 0⟩ f ["-o", "out", "in"]
    request ["-o", "out", "in"] = .dump "in" o ∧
      out.exitCode ≠ 0 ∧ ¬ Fate [] f "in" o none ∧ ¬ Faultless [] f "in" o ∧
      Reports (.dump (.uncreated "out" .isADirectory)) "E040" out := by
  intro f o out
  let s : Settings := ⟨⟨.strict, true, true⟩, ⟨.text, false, false⟩, ⟨false, true, .warning⟩⟩
  let c : Cursor := ⟨[.char 'b'], some 'a', some '+', .start, false⟩
  have hr : request ["-o", "out", "in"] = .dump "in" o := by decide +kernel
  have hs : settings [] f o = .ok s := by decide +kernel
  have hopen : f.openFile "in" = .ok [.bytes [0x61, 0x2B, 0x62]] := by cbv
  have hprime : (Lexer.ofFeed [.bytes [0x61, 0x2B, 0x62]] s.scanning).1 =
      .ok (.ofCursor c s.scanning) := by decide +kernel
  have hsource : f.resolve "in" = .ok ⟨["in"], some (.file [0x61, 0x2B, 0x62]), false⟩ := by cbv
  have hdestination : f.resolve "out" = .ok ⟨["out"], some .directory, false⟩ := by cbv
  have hcreate : f.createFile "out" = .error .isADirectory := by cbv
  have hfate : Fate [] f "in" o (some (.dump (.uncreated "out" .isADirectory), "E040")) :=
    .uncreated hs ⟨_, hopen, hprime⟩ rfl hcreate
  have hapart : Apart f "in" o.output := by
    rintro destination hwanted
    obtain rfl : "out" = destination := Option.some.inj hwanted
    refine ⟨fun a b ha hb => ?_, fun target htarget => by simp [hcreate] at htarget⟩
    obtain rfl := Except.ok.inj (hsource.symm.trans ha)
    obtain rfl := Except.ok.inj (hdestination.symm.trans hb)
    simp
  obtain ⟨hone, hzero, hreports, hexact⟩ := run_fate [] ⟨.epoch, 0⟩ f hr
  have hnone : ¬ Fate [] f "in" o none := fun h => by simpa using hone.unique h hfate
  exact ⟨hr, mt hzero.mp hnone, hnone, fun h => hnone (hzero.mp ((hexact hapart).mpr h)),
    hreports _ _ hfate⟩

end CommandLine
end TokenDump
