import TokenDump.Proofs.Observation
import TokenDump.Proofs.Reporting

/-! # Verbosity

A service with a lower threshold accepts the same events less the ones that it does not admit: the
same programs, run under two services, differ in nothing else that is logged. What the clock says is
left out of the comparison, since two runs do not take the same time. -/
namespace TokenDump

namespace Log

variable {j k : Journal} {n : Notice} {notices notices' : List Notice} {quiet loud : Level}

/-- The key under which the end of a dump tells how long it took. -/
def clockKey : String := "duration_ms"

/-- A value, left out if the clock has given it. -/
def masked (key value : String) : String := if key = clockKey then "" else value

def Details.timeless (ds : Details) : Details where
  entries := ds.map fun (key, value) => (key, masked key value)
  ordered := List.pairwise_map.mpr ds.ordered

/-- The notice without what the clock says. -/
def Notice.timeless (n : Notice) : Notice := { n with details := n.details.timeless }

/-- The event without what the clock says. -/
def Event.timeless (e : Event) : Notice := e.toNotice.timeless

/-- The journal `j` has the threshold `quiet` and `k` the threshold `loud`; `j` has accepted what `k`
has accepted and `quiet` admits, clock values aside. -/
structure Journal.Quieter (quiet loud : Level) (j k : Journal) : Prop where
  lower : j.threshold = some quiet
  upper : k.threshold = some loud
  file : j.file = k.file
  accepted : j.accepted.map Event.timeless =
    (k.accepted.filter (quiet.admits ·.level)).map Event.timeless

theorem Details.map_masked_setEntry (key value : String) (entries : List (String × String)) :
    (setEntry key value entries).map (fun (key, value) => (key, masked key value)) =
      setEntry key (masked key value)
        (entries.map fun (key, value) => (key, masked key value)) := by
  induction entries with
  | nil => rfl
  | cons entry rest ih =>
    obtain ⟨k, v⟩ := entry
    rw [List.map_cons, setEntry, setEntry]
    split
    · rfl
    · split
      · rfl
      · rw [List.map_cons, ih]

theorem Details.timeless_insert (key value : String) (ds : Details) :
    (ds.insert key value).timeless = ds.timeless.insert key (masked key value) :=
  Details.ext (map_masked_setEntry key value ds.entries)

theorem Details.timeless_insertAll (ds : Details) (pairs : List (String × String)) :
    (ds.insertAll pairs).timeless =
      ds.timeless.insertAll (pairs.map fun (key, value) => (key, masked key value)) := by
  induction pairs generalizing ds with
  | nil => rfl
  | cons pair pairs ih =>
    have hrest := ih (ds.insert pair.1 pair.2)
    rw [timeless_insert] at hrest
    exact hrest

theorem Notice.timeless_saying (n : Notice) (pairs : List (String × String)) :
    (n.saying pairs).timeless =
      n.timeless.saying (pairs.map fun (key, value) => (key, masked key value)) := by
  unfold Notice.timeless saying
  rw [Details.timeless_insertAll]

/-- The file being processed is no matter of the clock. -/
theorem Journal.timeless_placed (j : Journal) (n : Notice) :
    (j.placed n).timeless = j.placed n.timeless := by
  unfold Journal.placed
  cases j.file with
  | none => rfl
  | some file =>
    have hfile : masked fileKey file = file := if_neg (by decide)
    have hdetails := Details.timeless_insert fileKey file n.details
    rw [hfile] at hdetails
    simp only [Notice.inFile, Notice.set, Notice.timeless, hdetails]

/-- The events that come of notices, without their times. -/
theorem Journal.timeless_stamped (j : Journal) (notices : List Notice) :
    (notices.filterMap j.stamp?).map Event.timeless =
      ((notices.map Notice.timeless).filter (j.accepts ·.level)).map j.placed := by
  induction notices with
  | nil => rfl
  | cons n notices ih =>
    have hlevel : n.timeless.level = n.level := rfl
    cases ha : j.accepts n.level with
    | true =>
      rw [List.filterMap_cons, Journal.stamp?_of_accepts ha, List.map_cons, List.map_cons,
        List.filter_cons_of_pos (by rw [hlevel, ha]), List.map_cons, ih]
      exact congrArg (· :: _) (j.timeless_placed n)
    | false =>
      rw [List.filterMap_cons, Journal.stamp?_of_refused ha, List.map_cons,
        List.filter_cons_of_neg (by rw [hlevel, ha]; decide), ih]

theorem Journal.Quieter.accepts (h : Quieter quiet loud j k) (hl : loud.admits quiet = true)
    (level : Level) : j.accepts level = (k.accepts level && quiet.admits level) := by
  rw [Journal.accepts, Journal.accepts, h.lower, h.upper, Option.any_some, Option.any_some]
  cases hquiet : quiet.admits level with
  | true => rw [Level.admits_trans hl hquiet, Bool.true_and]
  | false => rw [Bool.and_false]

/-- Of the same notices, the two journals accept the same except for what the threshold of the lower
one takes out. -/
theorem Journal.Quieter.stamped (h : Quieter quiet loud j k) (hl : loud.admits quiet = true)
    (hn : notices.map Notice.timeless = notices'.map Notice.timeless) :
    (notices.filterMap j.stamp?).map Event.timeless =
      ((notices'.filterMap k.stamp?).filter (quiet.admits ·.level)).map Event.timeless := by
  have hplaced : j.placed = k.placed := by
    funext n
    rw [Journal.placed, Journal.placed, h.file]
  have hchosen : (notices'.filter (quiet.admits ·.level)).map Notice.timeless =
      (notices'.map Notice.timeless).filter (quiet.admits ·.level) := by
    rw [List.filter_map]
    rfl
  have hfiltered := k.filter_stamped (quiet.admits ·.level)
    (fun n => congrArg quiet.admits (k.level_placed n)) notices'
  rw [hfiltered, timeless_stamped, timeless_stamped, hn, hchosen, List.filter_filter, hplaced]
  simp only [h.accepts hl]

theorem Journal.Quieter.postAll (h : Quieter quiet loud j k) (hl : loud.admits quiet = true)
    (hn : notices.map Notice.timeless = notices'.map Notice.timeless) :
    Quieter quiet loud (j.postAll notices) (k.postAll notices') := by
  refine ⟨h.lower, h.upper, h.file, ?_⟩
  simp only [Journal.postAll, List.map_append, List.filter_append]
  rw [h.accepted, h.stamped hl hn]

theorem Journal.Quieter.within (h : Quieter quiet loud j k) (hl : loud.admits quiet = true)
    (file : String) (hn : notices.map Notice.timeless = notices'.map Notice.timeless) :
    Quieter quiet loud (j.within file (·.postAll notices)) (k.within file (·.postAll notices')) := by
  have hentered : Quieter quiet loud (j.enter file) (k.enter file) :=
    ⟨h.lower, h.upper, rfl, h.accepted⟩
  have hposted := hentered.postAll hl hn
  exact ⟨hposted.lower, hposted.upper, h.file, hposted.accepted⟩

/-- To prepare notices for debugging only if they would be accepted, to prepare them all, and to post
them together comes to the same. -/
theorem Journal.foldl_post (j : Journal) (notices : List Notice) :
    notices.foldl post j = j.postAll notices ∧ notices.foldl dispatch j = j.postAll notices := by
  induction notices generalizing j with
  | nil => exact ⟨j.postAll_nil.symm, j.postAll_nil.symm⟩
  | cons n notices ih =>
    obtain ⟨hpost, hdispatch⟩ := ih (j.post n)
    rw [List.foldl_cons, List.foldl_cons, ← j.post_eq_dispatch, j.postAll_cons]
    exact ⟨hpost, hdispatch⟩

end Log

namespace Dump

open Log

variable {σ : Type}

/-- Two outcomes that differ only in what the clock says. -/
structure Outcome.Alike (o o' : Outcome σ) : Prop where
  result : o.result = o'.result
  lexer : o.lexer = o'.lexer
  delivery : o.delivery = o'.delivery
  notices : o.notices.map Notice.timeless = o'.notices.map Notice.timeless

structure FileOutcome.Alike (o o' : FileOutcome) : Prop where
  result : o.result = o'.result
  output : o.output = o'.output
  folder : o.folder = o'.folder
  notices : o.notices.map Notice.timeless = o'.notices.map Notice.timeless

theorem timeless_completionNotice (summary : Summary) (settings : Settings.Dumping)
    (elapsed elapsed' : Nat) : (completionNotice summary settings elapsed).timeless =
      (completionNotice summary settings elapsed').timeless := by
  have hclock (value : String) : masked "duration_ms" value = "" := if_pos rfl
  rw [completionNotice, completionNotice, Notice.timeless_saying, Notice.timeless_saying]
  simp only [List.map_cons, hclock]

theorem alike_finish (settings : Settings.Dumping) (elapsed elapsed' : Nat) (o : Outcome σ) :
    (finish settings elapsed o).Alike (finish settings elapsed' o) := by
  rw [finish, finish]
  cases o.result with
  | error error => exact ⟨rfl, rfl, rfl, rfl⟩
  | ok summary =>
    simp only
    generalize o.delivery.flush = r
    obtain ⟨flushed, d⟩ := r
    cases flushed with
    | error fault => exact ⟨rfl, rfl, rfl, rfl⟩
    | ok u =>
      refine ⟨rfl, rfl, rfl, ?_⟩
      rw [List.map_append, List.map_append, List.map_singleton, List.map_singleton,
        timeless_completionNotice summary settings elapsed elapsed']

theorem alike_run (settings : Settings.Dumping) (elapsed elapsed' : Nat) (l : Lexer)
    (d : Delivery σ) : (run settings elapsed l d).Alike (run settings elapsed' l d) := by
  have h := alike_finish settings elapsed elapsed' (putLines settings l d 0 0)
  exact ⟨h.result, h.lexer, h.delivery, congrArg (_ :: ·) h.notices⟩

theorem alike_inPlace (settings : Settings.Dumping) (elapsed elapsed' : Nat) (content : Bytes)
    (l : Lexer) :
    (inPlace settings elapsed content l).Alike (inPlace settings elapsed' content l) := by
  have h := alike_finish settings elapsed elapsed' (putLinesInPlace settings
    (content.take Folder.readBuffer) (lookAgain (content.take Folder.readBuffer)
      (.start .file .start) l) (.start .file .start) 0 0)
  exact ⟨h.result, h.lexer, h.delivery, congrArg (_ :: ·) h.notices⟩

theorem alike_left {o o' : Outcome σ} (h : o.Alike o') (f : Folder) (target : Path)
    (notices : List Notice) :
    (betweenFiles.left f target notices o).Alike (betweenFiles.left f target notices o') := by
  simp only [betweenFiles.left, h.result, h.lexer, h.delivery]
  refine ⟨rfl, rfl, rfl, ?_⟩
  simp only [List.map_append, h.notices]

/-- The settings for logging do not touch a dump between files. -/
theorem alike_betweenFiles (scanning : Settings.Scanning) (dumping : Settings.Dumping)
    (logging logging' : Settings.Logging) (elapsed elapsed' : Nat) (f : Folder)
    (source destination : String) :
    (betweenFiles ⟨scanning, dumping, logging⟩ elapsed f source destination).Alike
      (betweenFiles ⟨scanning, dumping, logging'⟩ elapsed' f source destination) := by
  rw [betweenFiles, betweenFiles]
  cases openLexer f source scanning with | mk opened notices =>
  cases opened with
  | error error => exact ⟨rfl, rfl, rfl, rfl⟩
  | ok lexer =>
    simp only
    cases f.createFile destination with
    | error fault => exact ⟨rfl, rfl, rfl, rfl⟩
    | ok target =>
      simp only
      split
      · exact alike_left (alike_run dumping elapsed elapsed' lexer _) f target _
      · split
        · exact alike_left (alike_run dumping elapsed elapsed' lexer _) f target _
        · exact alike_left (alike_inPlace dumping elapsed elapsed' _ lexer) f target _

theorem alike_toOutput (scanning : Settings.Scanning) (dumping : Settings.Dumping)
    (logging logging' : Settings.Logging) (elapsed elapsed' : Nat) (f : Folder) (source : String) :
    (toOutput ⟨scanning, dumping, logging⟩ elapsed f source).notices.map Notice.timeless =
      (toOutput ⟨scanning, dumping, logging'⟩ elapsed' f source).notices.map Notice.timeless := by
  rw [toOutput, toOutput]
  cases openLexer f source scanning with | mk opened notices =>
  cases opened with
  | error error => rfl
  | ok lexer =>
    have h := alike_run (σ := Unit) dumping elapsed elapsed' lexer (.start .memory ⟨⟩)
    simp only [toMemory, List.map_append, h.notices, h.lexer]

end Dump

namespace Observation

open Log Dump

variable {σ : Type} {s s' : State σ} {quiet loud : Level}

def State.after (s : State σ) (w : Watcher) (uses : List (Use σ)) : State σ :=
  uses.foldl (fun s use => (s.use w use).2) s

/-- All events that are accepted while a program makes a lexer and goes on with these uses. -/
def events (w : Watcher) (trivia : Trivia) (f : Folder) (origin : Origin) (d : Delivery σ)
    (uses : List (Use σ)) : List Event :=
  match origin.lexer f (w.scanning trivia) with
  | (.error _, notices) => (w.journal.postAll notices).accepted
  | (.ok lexer, notices) =>
    (State.after ⟨lexer, d, f, w.journal.postAll notices⟩ w uses).journal.accepted

/-- The watcher with a service of this threshold that has accepted nothing yet, and with a clock of
its own. -/
def Watcher.at (w : Watcher) (threshold : Level) (now : Timestamp) (elapsed : Nat) : Watcher :=
  { w with
    logging := { w.logging with threshold }
    journal := ⟨some threshold, w.journal.file, now, []⟩
    elapsed }

/-- Two states of a program that differ only in what their journals have accepted. -/
structure State.Quieter (quiet loud : Level) (s s' : State σ) : Prop where
  lexer : s.lexer = s'.lexer
  delivery : s.delivery = s'.delivery
  folder : s.folder = s'.folder
  journal : s.journal.Quieter quiet loud s'.journal

theorem State.Quieter.use (h : Quieter quiet loud s s') (hl : loud.admits quiet = true)
    (w : Watcher) (now now' : Timestamp) (elapsed elapsed' : Nat) (use : Use σ) :
    Quieter quiet loud (s.use (w.at quiet now elapsed) use).2
      (s'.use (w.at loud now' elapsed') use).2 := by
  obtain ⟨lexer, delivery, folder, journal⟩ := s
  obtain ⟨lexer', delivery', folder', journal'⟩ := s'
  obtain ⟨rfl, rfl, rfl, hj⟩ := h
  cases use with
  | call call => exact ⟨rfl, rfl, rfl, hj.postAll hl rfl⟩
  | dump settings =>
    have hrun := alike_run settings elapsed elapsed' lexer delivery
    exact ⟨hrun.lexer, hrun.delivery, rfl, hj.postAll hl hrun.notices⟩
  | replace d => exact ⟨rfl, rfl, rfl, hj⟩
  | dumpFile trivia settings source destination =>
    have hdump := alike_betweenFiles (w.scanning trivia) settings (w.at quiet now elapsed).logging
      (w.at loud now' elapsed').logging elapsed elapsed' folder source destination
    exact ⟨rfl, rfl, hdump.folder, hj.within hl source hdump.notices⟩
  | dumpOutput trivia settings source =>
    have hdump := alike_toOutput (w.scanning trivia) settings (w.at quiet now elapsed).logging
      (w.at loud now' elapsed').logging elapsed elapsed' folder source
    exact ⟨rfl, rfl, rfl, hj.within hl source hdump⟩

theorem State.Quieter.after (h : Quieter quiet loud s s') (hl : loud.admits quiet = true)
    (w : Watcher) (now now' : Timestamp) (elapsed elapsed' : Nat) (uses : List (Use σ)) :
    Quieter quiet loud (s.after (w.at quiet now elapsed) uses)
      (s'.after (w.at loud now' elapsed') uses) := by
  induction uses generalizing s s' with
  | nil => exact h
  | cons use uses ih => exact ih (h.use hl w now now' elapsed elapsed' use)

/-- A lower threshold only removes events. Whatever a program does with lexers, dumps and files, and
however that ends, the events that it has accepted at a lower threshold are those that it has
accepted at a higher one and the lower one admits, the same and in the same order, clock values
aside. It makes no difference whether notices for debugging are prepared in vain. -/
theorem events_quieter (hl : loud.admits quiet = true) (w : Watcher) (now now' : Timestamp)
    (elapsed elapsed' : Nat) (trivia : Trivia) (f : Folder) (origin : Origin) (d : Delivery σ)
    (uses : List (Use σ)) :
    (events (w.at quiet now elapsed) trivia f origin d uses).map Event.timeless =
        ((events (w.at loud now' elapsed') trivia f origin d uses).filter
          (quiet.admits ·.level)).map Event.timeless ∧
      ∀ (j : Journal) (notices : List Notice), notices.foldl Journal.post j = j.postAll notices ∧
        notices.foldl Journal.dispatch j = j.postAll notices := by
  refine ⟨?_, Journal.foldl_post⟩
  have hempty : Journal.Quieter quiet loud (w.at quiet now elapsed).journal
      (w.at loud now' elapsed').journal := ⟨rfl, rfl, rfl, rfl⟩
  have hscanning : (w.at quiet now elapsed).scanning trivia =
      (w.at loud now' elapsed').scanning trivia := rfl
  rw [events, events, hscanning]
  cases origin.lexer f ((w.at loud now' elapsed').scanning trivia) with | mk made notices =>
  cases made with
  | error error => exact (hempty.postAll hl rfl).accepted
  | ok lexer =>
    have hstart : State.Quieter quiet loud
        ⟨lexer, d, f, (w.at quiet now elapsed).journal.postAll notices⟩
        ⟨lexer, d, f, (w.at loud now' elapsed').journal.postAll notices⟩ :=
      ⟨rfl, rfl, rfl, hempty.postAll hl rfl⟩
    exact (hstart.after hl w now now' elapsed elapsed' uses).journal.accepted

/-- Two illegal tokens, logged in full and for warnings only: the end of the lexer is left out. -/
theorem events_quieter_warning :
    let w : Watcher := ⟨true, true, ⟨false, true, .info⟩, .ofThreshold none .epoch, 0⟩
    let uses : List (Use Unit) := [.call .next, .call .next, .call .close]
    let events (threshold : Level) (now : Timestamp) (elapsed : Nat) : List Event :=
      events (w.at threshold now elapsed) .strict ⟨[], []⟩ (.text "# #") (.start .memory ⟨⟩) uses
    (events .debug ⟨9, 0⟩ 5).map (·.code) = [.illegalCharacter, .illegalCharacter, .debug] ∧
      (events .warning .epoch 0).map (·.code) = [.illegalCharacter, .illegalCharacter] ∧
      (events .warning .epoch 0).map Event.timeless =
        ((events .debug ⟨9, 0⟩ 5).filter (Level.warning.admits ·.level)).map Event.timeless := by
  intro w uses events
  refine ⟨by decide +kernel, by decide +kernel, ?_⟩
  exact (events_quieter (by decide) w .epoch ⟨9, 0⟩ 0 5 .strict ⟨[], []⟩ (.text "# #")
    (.start .memory ⟨⟩) uses).1

end Observation
end TokenDump
