import TokenDump.Log.Journal
import TokenDump.Proofs.Comments
import TokenDump.Proofs.Details

/-! # What a scan reports

A lexer that comes to its end has warned of the illegal tokens, if it is to log them, and then it has
reported once that the source is complete, with what it has counted by then. -/
namespace TokenDump

namespace Log

variable {key : String} {j : Journal} {n : Notice}

/-- The name of the file being processed does not hide what a notice says. -/
theorem Journal.lookup_placed (j : Journal) (n : Notice) (h : key ≠ fileKey) :
    (j.placed n).details.lookup key = n.details.lookup key := by
  rw [placed]
  split
  · exact Details.lookup_insert_of_ne h _ _
  · rfl

theorem Journal.code_placed (j : Journal) (n : Notice) : (j.placed n).code = n.code := by
  rw [placed]
  split <;> rfl

theorem Journal.span_placed (j : Journal) (n : Notice) : (j.placed n).span = n.span := by
  rw [placed]
  split <;> rfl

theorem Journal.stamp?_of_accepts (h : j.accepts n.level = true) :
    j.stamp? n = some ⟨j.placed n, j.now⟩ := by
  rw [stamp?, if_pos h]

theorem Journal.stamp?_of_refused (h : j.accepts n.level = false) : j.stamp? n = none := by
  rw [stamp?, if_neg (by rw [h]; decide)]

/-- A choice of notices for what the file being processed does not change can be made before they are
posted, or of the events that come of them. -/
theorem Journal.filter_stamped (p : Notice → Bool) (hp : ∀ n, p (j.placed n) = p n)
    (notices : List Notice) :
    (notices.filterMap j.stamp?).filter (p ·.toNotice) = (notices.filter p).filterMap j.stamp? := by
  induction notices with
  | nil => rfl
  | cons n notices ih =>
    cases ha : j.accepts n.level with
    | true =>
      have hchosen := hp n
      rw [List.filterMap_cons, stamp?_of_accepts ha]
      cases hn : p n <;> simp [hchosen, hn, ih, stamp?_of_accepts ha]
    | false =>
      have hnone := stamp?_of_refused ha
      cases hn : p n <;> simp [hnone, hn, ih]

end Log

namespace Lexer

open Log

/-- The lexer gives these tokens and then the end token, after which it is `last`. -/
inductive Finishes : Lexer → List (Located Token) → Located Token → Lexer → Prop
  | eof {l : Lexer} {t : Located Token} (underway : l.isDone = false)
      (given : l.next.result = .ok t) (isEof : t.value.isEof = true) :
      Finishes l [] t l.next.lexer
  | token {l last : Lexer} {t eof : Located Token} {ts : List (Located Token)}
      (given : l.next.result = .ok t) (proper : t.value.isEof = false)
      (more : Finishes l.next.lexer ts eof last) : Finishes l (t :: ts) eof last

/-- The warnings about tokens before the end. -/
def warnings (settings : Settings.Scanning) (ts : List (Located Token)) : List Notice :=
  if settings.logIllegal then (ts.filter (·.value.isIllegal)).map illegalNotice else []

variable {settings : Settings.Scanning} {trivia : Trivia} {l last : Lexer} {t eof : Located Token}
  {ts scanned : List (Located Token)} {given : List Token} {p stop : Position} {text : List Char}
  {total : Nat}

theorem isDone_of_proper (h : l.next.result = .ok t) (ht : t.value.isEof = false) :
    l.failure = none ∧ l.isDone = false := by
  rcases l.next_cases with ⟨e, hf, hn⟩ | ⟨hf, hd, hn⟩ | ⟨hf, hd, -⟩ | ⟨hf, hd, -⟩
  · simp [hn] at h
  · rw [hn] at h
    obtain rfl := Except.ok.inj h
    simp [eofHere, Token.isEof, Token.eof] at ht
  · exact ⟨hf, hd⟩
  · exact ⟨hf, hd⟩

theorem Finishes.isOpen (h : Finishes l ts eof last) : l.failure = none ∧ l.isDone = false := by
  cases h with
  | eof underway given isEof => exact ⟨(next_of_result_ok given).1, underway⟩
  | token given proper more => exact isDone_of_proper given proper

theorem Finishes.isEof (h : Finishes l ts eof last) : eof.value.isEof = true := by
  induction h with
  | eof underway given isEof => exact isEof
  | token given proper more ih => exact ih

theorem Finishes.proper (h : Finishes l ts eof last) : ∀ t ∈ ts, t.value.isEof = false := by
  induction h with
  | eof underway given isEof => simp
  | token given proper more ih => exact List.forall_mem_cons.mpr ⟨proper, ih⟩

theorem Finishes.ended (h : Finishes l ts eof last) : Ended last := by
  induction h with
  | eof underway given isEof =>
    obtain ⟨-, hf, hd, -⟩ := next_of_result_ok given
    exact ⟨hf, by rw [hd, isEof, Bool.or_true]⟩
  | token given proper more ih => exact ih

theorem Finishes.drain (h : Finishes l ts eof last) :
    l.drain.1 = ts ++ [eof] ∧ l.drain.2.1 = none := by
  induction h with
  | eof underway given isEof =>
    rw [drain_of_eof given isEof]
    exact ⟨rfl, rfl⟩
  | @token l last t eof ts given proper more ih =>
    rw [drain_of_ok given proper]
    exact ⟨congrArg (t :: ·) ih.1, ih.2⟩

theorem Segmentation.finishes (h : Segmentation trivia p text ts) (hl : l.Reads none p text)
    (hs : l.settings.trivia = trivia) :
    ∃ tokens eof last, ts = tokens ++ [eof] ∧ Finishes l tokens eof last ∧ last.eofHere = eof := by
  induction h generalizing l with
  | @eof p gap n skipped =>
    subst hs
    rw [← List.append_nil gap] at hl
    obtain ⟨q, -, hpos, -, hnext⟩ := hl.next_ok (passes_scanToken_eof skipped) (by simp)
    refine ⟨[], _, _, rfl, .eof hl.isDone (congrArg Step.result hnext) rfl, ?_⟩
    rw [hnext, record_lexer, eofHere, position]
    exact congrArg (fun p => (⟨.eof, .point p⟩ : Located Token)) hpos
  | @token p gap lexeme rest n t ts skipped read more ih =>
    subst hs
    obtain ⟨n, hp⟩ := passes_scanToken skipped read
    obtain ⟨hr, hnext, hset⟩ := hl.next hp read.isEof (by simp)
    obtain ⟨tokens, eof, last, rfl, hrest, hhere⟩ := ih hnext (by rw [hset])
    exact ⟨_ :: tokens, eof, last, rfl, .token hr read.isEof hrest, hhere⟩

theorem FreshOn.fresh {text : String} (h : FreshOn settings text l) : Fresh settings l := by
  cases h with
  | ofFeed delivered made => exact .ofFeed made
  | ofText => exact .ofText text

/-- A lexer on a text comes to its end, and stays there. -/
theorem FreshOn.finishes {text : String} (h : FreshOn settings text l) :
    ∃ tokens eof last, Segmentation settings.trivia .start text.toList (tokens ++ [eof]) ∧
      Finishes l tokens eof last ∧ last.eofHere = eof := by
  obtain ⟨ts, hts⟩ := exists_segmentation settings.trivia .start text.toList
  obtain ⟨hreads, hsettings, -⟩ := h.reads
  obtain ⟨tokens, eof, last, rfl, hfinishes, hhere⟩ :=
    hts.finishes hreads (congrArg _ hsettings)
  exact ⟨tokens, eof, last, hts, hfinishes, hhere⟩

theorem Finishes.metered (h : Finishes l ts eof last) (hm : Metered given scanned l) :
    Metered (given ++ ts.map (·.value)) (scanned ++ ts ++ [eof]) last := by
  induction h generalizing given scanned with
  | @eof l t underway hgiven isEof =>
    have hscan := hm.scan (next_of_result_ok hgiven).1 underway
    simpa [hgiven, Except.toOption, isEof] using hscan
  | @token l last t eof ts hgiven proper more ih =>
    obtain ⟨hf, hd⟩ := isDone_of_proper hgiven proper
    have hscan := ih (hm.scan hf hd)
    simpa [hgiven, Except.toOption, proper] using hscan

/-- The tally at the end: the tokens, and the line of the end token. -/
theorem Finishes.tally (h : Finishes l ts eof last) (hm : Metered [] [] l) :
    last.tally = .ofTokens (ts.map (·.value)) eof.span.stop.line last.tally.comments := by
  simpa [lastLine] using (h.metered hm).tally

theorem Finishes.comments (h : Finishes l ts eof last) (hu : Underway trivia total stop l) :
    last.tally.comments = total := by
  induction h with
  | eof underway given isEof =>
    obtain ⟨u, hu, ⟨hproper, -⟩ | ⟨-, -, -, hcomments⟩⟩ := hu.next
    · obtain rfl := Except.ok.inj (given.symm.trans hu)
      simp [isEof] at hproper
    · exact hcomments
  | token given proper more ih =>
    obtain ⟨u, hu, ⟨-, hmore⟩ | ⟨heof, -⟩⟩ := hu.next
    · exact ih hmore
    · obtain rfl := Except.ok.inj (given.symm.trans hu)
      simp [proper] at heof

theorem warnings_cons (settings : Settings.Scanning) (t : Located Token)
    (ts : List (Located Token)) :
    warnings settings (t :: ts) = warnings settings [t] ++ warnings settings ts := by
  rw [warnings, warnings, warnings]
  cases settings.logIllegal <;> cases ht : t.value.isIllegal <;> simp [ht]

theorem notices_of_proper (h : l.next.result = .ok t) (ht : t.value.isEof = false) :
    l.next.notices = warnings l.settings [t] := by
  obtain ⟨hf, hd⟩ := isDone_of_proper h ht
  obtain ⟨q, -, ⟨u, hn, -⟩ | ⟨error, hn⟩⟩ := next_scans hf hd
  · rw [hn] at h ⊢
    obtain rfl := Except.ok.inj h
    have hlog : (l.passed q).settings.logIllegal = l.settings.logIllegal := rfl
    simp only [record, ht, Bool.false_eq_true, if_false, warnings]
    cases hi : u.value.isIllegal <;> cases hs : l.settings.logIllegal <;>
      cases (l.passed q).settings.collectMetrics <;> simp [hi, hlog, hs]
  · simp [hn] at h

/-- The end is reported by the call that comes to it. -/
theorem notices_of_eof (hd : l.isDone = false) (h : l.next.result = .ok t)
    (ht : t.value.isEof = true) :
    l.next.notices = [l.next.lexer.completionNotice t.span.stop.line] := by
  have hf := (next_of_result_ok h).1
  obtain ⟨q, -, ⟨u, hn, -⟩ | ⟨error, hn⟩⟩ := next_scans hf hd
  · rw [hn] at h ⊢
    obtain rfl := Except.ok.inj h
    simp only [record, ht, if_true]
    rfl
  · simp [hn] at h

/-- All that is reported up to the end. -/
theorem Finishes.notices (h : Finishes l ts eof last) :
    l.drain.2.2.2 = warnings l.settings ts ++ [last.completionNotice eof.span.stop.line] := by
  induction h with
  | @eof l t underway given isEof =>
    rw [drain_of_eof given isEof]
    have hnone : warnings l.settings [] = [] := by simp [warnings]
    rw [hnone, List.nil_append]
    exact notices_of_eof underway given isEof
  | @token l last t eof ts given proper more ih =>
    rw [drain_of_ok given proper, warnings_cons l.settings t ts, List.append_assoc]
    rw [settings_next] at ih
    rw [← notices_of_proper given proper, ← ih]

/-- What the report at the end says about what was counted. -/
theorem lookup_completionNotice (l : Lexer) (line : Nat) :
    let details := (l.completionNotice line).details
    details.lookup "tokens" = some (toString l.tally.total) ∧
      details.lookup "illegal" = some (toString l.tally.illegals) ∧
      details.lookup "comments" = some (toString l.tally.comments) ∧
      details.lookup "lines" = some (toString line) := by
  simp [completionNotice, Notice.saying, Details.insertAll, Details.lookup_insert]

end Lexer
end TokenDump
