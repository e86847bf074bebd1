import TokenDump.Proofs.Reporting
import TokenDump.Proofs.Unmetered
import TokenDump.Proofs.Willing

/-! # The completion events of a dump

The lexer reports the end of the source and the dump reports its own end. The lexer takes its numbers
from its tally, the dump counts for itself. Both name the line of the end token, and where the lexer
collects metrics they also agree on the tokens and the illegal ones. -/
namespace TokenDump

namespace Log

variable {j : Journal}

theorem filter_stamped (j : Journal) (notices : List Notice) (code : Code) :
    (notices.filterMap j.stamp?).filter (·.code = code) =
      (notices.filter (·.code = code)).filterMap j.stamp? :=
  Journal.filter_stamped (·.code = code) (fun n => by rw [j.code_placed]) notices

end Log

namespace Dump

open Log Lexer

/-- What the dump has logged to the journal. -/
def Outcome.events {σ : Type} (o : Outcome σ) (j : Journal) : List Event :=
  o.notices.filterMap j.stamp?

/-- There is one event for the end of the source and one for the end of the dump, and they say the
same under these keys. -/
def CompletionsAgree (keys : List String) (events : List Event) : Prop :=
  ∃ scan dump, events.filter (·.code = .scanComplete) = [scan] ∧
    events.filter (·.code = .dumpComplete) = [dump] ∧
    ∀ key ∈ keys, scan.details.lookup key = dump.details.lookup key

variable {σ : Type} {settings : Settings.Scanning} {l last : Lexer} {d : Delivery σ}
  {eof : Located Token} {ts : List (Located Token)} {code : Code} {j : Journal}

theorem unmetered_of_finishes (h : Finishes l ts eof last) (hl : Unmetered l) : Unmetered last := by
  induction h with
  | eof underway given isEof => exact hl.next
  | token given proper more ih => exact ih hl.next

/-- All that is reported while the lines are delivered to a writer that never refuses. -/
theorem notices_putLines (dumping : Settings.Dumping) (h : Finishes l ts eof last)
    (hw : d.writer.Willing) (n k : Nat) : (putLines dumping l d n k).notices =
      ts.flatMap (fun t => warnings l.settings [t] ++ [tokenNotice t]) ++
        [last.completionNotice eof.span.stop.line] := by
  induction h generalizing d n k with
  | eof underway given isEof =>
    rw [putLines_of_eof given isEof]
    exact notices_of_eof underway given isEof
  | @token l last t eof ts given proper more ih =>
    obtain ⟨requests, hasks, hhands⟩ := putLine_asks dumping t d
    obtain ⟨hput, -⟩ := hw.hands hasks.answers hhands
    have hwriter : (putLine dumping t d).2.writer.Willing := hasks.writer ▸ hw
    have hrest := ih hwriter (n + 1) (if t.value.isIllegal then k + 1 else k)
    rw [settings_next] at hrest
    rw [putLines_of_ok given proper, List.flatMap_cons, ← notices_of_proper given proper,
      List.append_assoc _ _ [_], ← hrest]
    generalize putLine dumping t d = r at hput ⊢
    obtain ⟨put, e⟩ := r
    obtain rfl : put = .ok ⟨⟩ := hput
    rfl

theorem result_putLines (dumping : Settings.Dumping) (h : Finishes l ts eof last)
    (hw : d.writer.Willing) :
    (putLines dumping l d 0 0).result = .ok ⟨ts.length, illegals ts, eof.span.stop.line⟩ := by
  obtain ⟨-, -, hends⟩ := hw.putLines dumping l 0 0
  obtain ⟨htokens, hfailure⟩ := h.drain
  have hproper : proper (ts ++ [eof]) = ts := by
    rw [proper, List.filter_append, List.filter_eq_self.mpr (by simpa using h.proper)]
    simp [h.isEof]
  rw [htokens, hfailure] at hends
  generalize (putLines dumping l d 0 0).result = result at hends ⊢
  cases hends with
  | eof heof =>
    rw [hproper] at heof ⊢
    obtain rfl := (List.append_singleton_inj.mp heof).2
    rw [Nat.zero_add, Nat.zero_add]

theorem notices_run (dumping : Settings.Dumping) (elapsed : Nat) (h : Finishes l ts eof last)
    (hw : d.writer.Willing) :
    (run dumping elapsed l d).notices = startNotice dumping ::
      (ts.flatMap (fun t => warnings l.settings [t] ++ [tokenNotice t]) ++
        [last.completionNotice eof.span.stop.line] ++
        [completionNotice ⟨ts.length, illegals ts, eof.span.stop.line⟩ dumping elapsed]) := by
  obtain ⟨hwriter, -, -⟩ := hw.putLines dumping l 0 0
  have hflush : (putLines dumping l d 0 0).delivery.flush.1 = .ok ⟨⟩ :=
    Writer.Willing.flush_ok (hwriter ▸ hw)
  have hresult := result_putLines dumping h hw
  rw [run, finish, hresult, ← notices_putLines dumping h hw 0 0]
  simp only
  generalize (putLines dumping l d 0 0).delivery.flush = r at hflush ⊢
  obtain ⟨flushed, e⟩ := r
  obtain rfl : flushed = .ok ⟨⟩ := hflush
  rfl

theorem tally_of_metered (h : Finishes l ts eof last) (hl : Metered [] [] l) :
    last.tally.total = ts.length ∧ last.tally.illegals = illegals ts := by
  rw [h.tally hl]
  simp [Tally.ofTokens, illegals, List.countP_map, Function.comp_def]

theorem tally_of_unmetered (h : Finishes l ts eof last) (hl : Unmetered l) :
    last.tally.total = 0 ∧ last.tally.illegals = 0 := by
  rw [(unmetered_of_finishes h hl).tally]
  exact ⟨rfl, rfl⟩

/-- Neither a warning nor a notice about a token is about completion. -/
theorem filter_tokens (hc : code = .scanComplete ∨ code = .dumpComplete)
    (settings : Settings.Scanning) (ts : List (Located Token)) :
    (ts.flatMap fun t => warnings settings [t] ++ [tokenNotice t]).filter (·.code = code) = [] := by
  have hwarning (t : Located Token) : (illegalNotice t).code ≠ code := by
    change illegalCode t.value.text ≠ code
    rw [illegalCode]
    rcases hc with rfl | rfl <;> split <;> try split
    all_goals decide
  have htoken (t : Located Token) : (tokenNotice t).code ≠ code := by
    change Code.debug ≠ code
    rcases hc with rfl | rfl <;> decide
  rw [List.filter_eq_nil_iff]
  intro notice hnotice
  obtain ⟨t, -, ht⟩ := List.mem_flatMap.mp hnotice
  rcases List.mem_append.mp ht with ht | ht
  · rw [warnings] at ht
    split at ht
    · obtain ⟨u, -, rfl⟩ := List.mem_map.mp ht
      simp [hwarning u]
    · simp at ht
  · obtain rfl := List.mem_singleton.mp ht
    simp [htoken t]

theorem lookup_dumpCompletion (summary : Summary) (dumping : Settings.Dumping) (elapsed : Nat) :
    let details := (completionNotice summary dumping elapsed).details
    details.lookup "tokens" = some (toString summary.tokens) ∧
      details.lookup "illegal" = some (toString summary.illegal) ∧
      details.lookup "lines" = some (toString summary.lines) := by
  simp [completionNotice, Notice.saying, Details.insertAll, Details.lookup_insert]

/-- The two events, one after the other. -/
theorem events_run (dumping : Settings.Dumping) (elapsed : Nat) (h : Finishes l ts eof last)
    (hw : d.writer.Willing) (hj : j.accepts .info = true) :
    let events := (run dumping elapsed l d).events j
    let scan := last.completionNotice eof.span.stop.line
    let dump := completionNotice ⟨ts.length, illegals ts, eof.span.stop.line⟩ dumping elapsed
    events.filter (·.code = .scanComplete) = [⟨j.placed scan, j.now⟩] ∧
      events.filter (·.code = .dumpComplete) = [⟨j.placed dump, j.now⟩] := by
  intro events scan dump
  have hscan : j.stamp? scan = some ⟨j.placed scan, j.now⟩ := Journal.stamp?_of_accepts hj
  have hdump : j.stamp? dump = some ⟨j.placed dump, j.now⟩ := Journal.stamp?_of_accepts hj
  have hstart : (startNotice dumping).code = .info := rfl
  have hscanCode : scan.code = .scanComplete := rfl
  have hdumpCode : dump.code = .dumpComplete := rfl
  have hfilter (code : Code) : events.filter (·.code = code) =
      ((startNotice dumping :: (ts.flatMap (fun t => warnings l.settings [t] ++ [tokenNotice t]) ++
        [scan] ++ [dump])).filter (·.code = code)).filterMap j.stamp? := by
    rw [← notices_run dumping elapsed h hw, ← filter_stamped]
    rfl
  rw [hfilter, hfilter, List.filter_cons, List.filter_cons, List.filter_append, List.filter_append,
    List.filter_append, List.filter_append, filter_tokens (.inl rfl), filter_tokens (.inr rfl),
    hstart]
  have hdistinct : Code.info ≠ .scanComplete ∧ Code.info ≠ .dumpComplete ∧
      Code.scanComplete ≠ .dumpComplete := by decide
  constructor
  · simp [hscanCode, hdumpCode, hdistinct, hdistinct.2.2.symm, hscan]
  · simp [hscanCode, hdumpCode, hdistinct, hdump]

theorem eq_of_filter_eq {events : List Event} {e only : Event}
    (h : events.filter (·.code = code) = [only]) (he : e ∈ events) (hcode : e.code = code) :
    e = only := by
  have hmem : e ∈ events.filter (·.code = code) := List.mem_filter.mpr ⟨he, by simpa using hcode⟩
  rw [h] at hmem
  exact List.mem_singleton.mp hmem

/-- What the two events say, whatever file the journal is in. -/
theorem completionsAgree_run {keys : List String} (dumping : Settings.Dumping) (elapsed : Nat)
    (h : Finishes l ts eof last) (hw : d.writer.Willing) (hj : j.accepts .info = true)
    (hfile : fileKey ∉ keys) (hsame : ∀ key ∈ keys,
      (last.completionNotice eof.span.stop.line).details.lookup key =
        (completionNotice ⟨ts.length, illegals ts, eof.span.stop.line⟩ dumping
          elapsed).details.lookup key) :
    CompletionsAgree keys ((run dumping elapsed l d).events j) := by
  obtain ⟨hscan, hdump⟩ := events_run dumping elapsed h hw hj
  refine ⟨_, _, hscan, hdump, fun key hkey => ?_⟩
  have hplaced : key ≠ fileKey := fun heq => hfile (heq ▸ hkey)
  simp only [j.lookup_placed _ hplaced]
  exact hsame key hkey

/-- A dump to a writer that takes everything logs one event for the end of the source and one for
its own end. They agree on the lines, and on the tokens and the illegal ones where the lexer collects
metrics; without metrics the lexer has counted neither. The event of the dump always counts what the
text holds. -/
theorem run_events {text : String} (hl : FreshOn settings text l) (hw : d.writer.Willing)
    (dumping : Settings.Dumping) (elapsed : Nat) (j : Journal) (hj : j.accepts .info = true) :
    let events := (run dumping elapsed l d).events j
    CompletionsAgree ["lines"] events ∧
      (settings.collectMetrics = true → CompletionsAgree ["tokens", "illegal", "lines"] events) ∧
      (settings.collectMetrics = false → ∀ scan ∈ events, scan.code = .scanComplete →
        scan.details.lookup "tokens" = some "0" ∧ scan.details.lookup "illegal" = some "0") ∧
      ∃ tokens eof, Segmentation settings.trivia .start text.toList (tokens ++ [eof]) ∧
        ∀ dump ∈ events, dump.code = .dumpComplete →
          dump.details.lookup "tokens" = some (toString tokens.length) ∧
          dump.details.lookup "illegal" = some (toString (illegals tokens)) ∧
          dump.details.lookup "lines" = some (toString eof.span.stop.line) := by
  intro events
  obtain ⟨tokens, eof, last, hsegmentation, hfinishes, -⟩ := hl.finishes
  obtain ⟨hscan, hdump⟩ := events_run dumping elapsed hfinishes hw hj
  obtain ⟨htotal, hillegal, -, hlines⟩ := last.lookup_completionNotice eof.span.stop.line
  obtain ⟨htotal', hillegal', hlines'⟩ :=
    lookup_dumpCompletion ⟨tokens.length, illegals tokens, eof.span.stop.line⟩ dumping elapsed
  refine ⟨?_, fun hm => ?_, fun hm scan hmem hcode => ?_, tokens, eof, hsegmentation,
    fun dump hmem hcode => ?_⟩
  · refine completionsAgree_run dumping elapsed hfinishes hw hj (by decide) ?_
    simp [hlines, hlines']
  · have hcounted := tally_of_metered hfinishes (hl.fresh.metered hm)
    refine completionsAgree_run dumping elapsed hfinishes hw hj (by decide) ?_
    simp [htotal, htotal', hillegal, hillegal', hlines, hlines', hcounted]
  · obtain rfl := eq_of_filter_eq hscan hmem hcode
    have hnothing := tally_of_unmetered hfinishes (hl.fresh.unmetered hm)
    simp only [j.lookup_placed _ (show "tokens" ≠ fileKey by decide),
      j.lookup_placed _ (show "illegal" ≠ fileKey by decide), htotal, hillegal, hnothing]
    exact ⟨rfl, rfl⟩
  · obtain rfl := eq_of_filter_eq hdump hmem hcode
    simp only [j.lookup_placed _ (show "tokens" ≠ fileKey by decide),
      j.lookup_placed _ (show "illegal" ≠ fileKey by decide),
      j.lookup_placed _ (show "lines" ≠ fileKey by decide)]
    exact ⟨htotal', hillegal', hlines'⟩

/-- An illegal token in the second line, into the buffer of a file. -/
theorem run_events_buffered :
    let settings : Settings.Scanning := ⟨.compatible, true, false⟩
    let l := Lexer.ofText "a\n#" settings
    let o := run ⟨.json, true, true⟩ 7 l (.start .file .start)
    CompletionsAgree ["tokens", "illegal", "lines"] (o.events ⟨some .info, some "a", .epoch, []⟩) := by
  intro settings l o
  have hl : FreshOn settings "a\n#" l := .ofText
  have hw : (Delivery.start Writer.file .start).writer.Willing := willing_file
  exact (run_events hl hw ⟨.json, true, true⟩ 7 ⟨some .info, some "a", .epoch, []⟩ rfl).2.1 rfl

/-- Without metrics the lexer reports no token, and the dump reports one. -/
theorem not_completionsAgree_unmetered :
    let l := Lexer.ofText "a" ⟨.strict, false, true⟩
    let o := run ⟨.text, false, false⟩ 0 l (.start .memory ⟨⟩)
    ¬ CompletionsAgree ["tokens", "illegal", "lines"] (o.events (.ofThreshold (some .info) .epoch)) := by
  rintro l o ⟨scan, dump, hscan, hdump, hsame⟩
  let a : Located Token := ⟨⟨.identifier, "a"⟩, .start, ⟨1, 1, 2⟩⟩
  let eof : Located Token := ⟨.eof, .point ⟨1, 1, 2⟩⟩
  let last := l.next.lexer.next.lexer
  have hfinishes : Finishes l [a] eof last :=
    .token (by decide +kernel) rfl (.eof (by decide +kernel) (by decide +kernel) rfl)
  obtain ⟨hscan', hdump'⟩ := events_run (d := .start .memory ⟨⟩) ⟨.text, false, false⟩ 0 hfinishes
    willing_memory (j := .ofThreshold (some .info) .epoch) rfl
  obtain rfl := List.singleton_inj.mp (hscan.symm.trans hscan')
  obtain rfl := List.singleton_inj.mp (hdump.symm.trans hdump')
  have htotal : last.tally.total = 0 := by decide +kernel
  have hsame' := hsame "tokens" List.mem_cons_self
  have hscanned := (last.lookup_completionNotice 1).1
  have hdumped := (lookup_dumpCompletion ⟨1, 0, 1⟩ ⟨.text, false, false⟩ 0).1
  rw [htotal] at hscanned
  have heq : some (toString 0) = some (toString 1) := hscanned.symm.trans (hsame'.trans hdumped)
  exact absurd heq (by decide)

end Dump
end TokenDump
