import TokenDump.Proofs.Session

/-! # Terminal states

A lexer that has met an error gives the error for ever; one that has come to its end, or was
closed, gives the end token for ever. Both stay where they are, and pulling ends once. -/
namespace TokenDump.Lexer

open Log

variable {l : Lexer} {error : ReadError} {t : Located Token}

/-- The lexer has met the error and has let go of its source. -/
structure Stuck (error : ReadError) (l : Lexer) : Prop where
  failure : l.failure = some error
  closed : l.cursor.close = l.cursor

structure Ended (l : Lexer) : Prop where
  failure : l.failure = none
  isDone : l.isDone = true

/-- What holds of every lexer that calls have brought about. -/
structure Coherent (l : Lexer) : Prop where
  failed : ∀ error, l.failure = some error → Stuck error l
  drained : l.isDrained = true → l.failure = none → l.isDone = true

theorem next_of_result_error (h : l.next.result = .error error) :
    (Coherent l → Stuck error l.next.lexer) ∧ l.next.lexer.isDone = l.isDone ∧
      l.next.lexer.tally = { l.tally with comments := l.next.lexer.tally.comments } ∧
      l.next.lexer.isDrained = l.isDrained := by
  rcases l.next_cases with ⟨e, hf, hn⟩ | ⟨hf, hd, hn⟩ | ⟨hf, hd, q, t, hn⟩ | ⟨hf, hd, q, e, hn⟩
  · rw [hn] at h ⊢
    obtain rfl := Except.error.inj h
    exact ⟨fun hc => hc.failed _ hf, rfl, rfl, rfl⟩
  · simp [hn] at h
  · simp [hn] at h
  · rw [hn] at h ⊢
    obtain rfl := Except.error.inj h
    exact ⟨fun _ => ⟨rfl, rfl⟩, rfl, rfl, rfl⟩

theorem next_of_result_ok (h : l.next.result = .ok t) :
    l.failure = none ∧ l.next.lexer.failure = none ∧
      l.next.lexer.isDone = (l.isDone || t.value.isEof) ∧
      l.next.lexer.isDrained = l.isDrained := by
  rcases l.next_cases with ⟨e, hf, hn⟩ | ⟨hf, hd, hn⟩ | ⟨hf, hd, q, u, hn⟩ | ⟨hf, hd, q, e, hn⟩
  · simp [hn] at h
  · rw [hn] at h ⊢
    obtain rfl := Except.ok.inj h
    exact ⟨hf, hf, by simp [hd], rfl⟩
  · rw [hn] at h ⊢
    obtain rfl := Except.ok.inj h
    rw [record_lexer]
    exact ⟨hf, hf, rfl, rfl⟩
  · simp [hn] at h

variable {call : Call} {e : Entry}

theorem Stuck.perform (h : Stuck error l) (call : Call) :
    Stuck error (l.perform call).after ∧ (l.perform call).after.cursor = l.cursor ∧
      (l.perform call).after.tally = l.tally ∧
      (call = .next → (l.perform call).answer = .located (.error error)) ∧
      (call = .nextToken → (l.perform call).answer = .token (.error error)) := by
  have hnext := next_of_failed h.failure
  have hresult : l.next.result = .error error := congrArg Step.result hnext
  have hlexer : l.next.lexer = l := congrArg Step.lexer hnext
  have hafter : (l.perform call).after.failure = l.failure ∧
      (l.perform call).after.cursor = l.cursor ∧ (l.perform call).after.tally = l.tally := by
    rcases l.perform_cases call with hs | rfl | hi
    · rw [hs.failure, hs.cursor, hs.tally, hlexer]
      exact ⟨rfl, rfl, rfl⟩
    · exact ⟨rfl, h.closed, rfl⟩
    · rw [hi.lexer]
      exact ⟨rfl, rfl, rfl⟩
  obtain ⟨hfailure, hcursor, htally⟩ := hafter
  refine ⟨⟨hfailure.trans h.failure, ?_⟩, hcursor, htally, ?_, ?_⟩
  · rw [hcursor, h.closed]
  · rintro rfl
    exact congrArg Answer.located hresult
  · rintro rfl
    exact congrArg (fun r => Answer.token (r.map (·.value))) hresult

theorem Ended.perform (h : Ended l) (call : Call) :
    Ended (l.perform call).after ∧
      ((l.perform call).after.cursor = l.cursor ∨ (l.perform call).after.cursor = l.cursor.close) ∧
      (l.perform call).after.tally = l.tally ∧
      (call = .next → (l.perform call).answer = .located (.ok l.eofHere)) ∧
      (call = .nextToken → (l.perform call).answer = .token (.ok .eof)) ∧
      (call = .pull → (l.perform call).answer = .pulled none) ∧
      (l.perform call).completions = [] := by
  have hnext := next_of_done h.failure h.isDone
  have hresult : l.next.result = .ok l.eofHere := congrArg Step.result hnext
  have hlexer : l.next.lexer = l := congrArg Step.lexer hnext
  have hafter : Ended (l.perform call).after ∧
      ((l.perform call).after.cursor = l.cursor ∨
        (l.perform call).after.cursor = l.cursor.close) ∧
      (l.perform call).after.tally = l.tally ∧ (l.perform call).completions = [] := by
    rcases l.perform_cases call with hs | rfl | hi
    · refine ⟨⟨?_, ?_⟩, .inl ?_, ?_, ?_⟩
      · rw [hs.failure, hlexer, h.failure]
      · rw [hs.isDone, hlexer, h.isDone]
      · rw [hs.cursor, hlexer]
      · rw [hs.tally, hlexer]
      · rw [Entry.completions, hs.notices, hnext]
        rfl
    · exact ⟨⟨h.failure, rfl⟩, .inr rfl, rfl, l.completions_close⟩
    · rw [Entry.completions, hi.lexer, hi.notices]
      exact ⟨h, .inl rfl, rfl, rfl⟩
  obtain ⟨hended, hcursor, htally, hcompleted⟩ := hafter
  refine ⟨hended, hcursor, htally, ?_, ?_, ?_, hcompleted⟩
  · rintro rfl
    exact congrArg Answer.located hresult
  · rintro rfl
    exact congrArg (fun r => Answer.token (r.map (·.value))) hresult
  · rintro rfl
    by_cases hq : l.isDrained = true
    · rw [perform_drained hq]
    · simp only [Lexer.perform, pull_of_ok (by simpa using hq) hresult]
      rfl

theorem Scanned.stuck (h : Scanned l e) (hc : Coherent l) (hr : l.next.result = .error error) :
    Stuck error e.after := by
  have hs := (next_of_result_error hr).1 hc
  refine ⟨h.failure.trans hs.failure, ?_⟩
  rw [h.cursor, hs.closed]

theorem Stuck.coherent (h : Stuck error l) : Coherent l := by
  refine ⟨fun e he => ?_, fun _ hf => ?_⟩
  · obtain rfl : error = e := by simpa [h.failure] using he
    exact h
  · simp [h.failure] at hf

theorem coherent_of_done (hf : l.failure = none) (hd : l.isDrained = true → l.isDone = true) :
    Coherent l :=
  ⟨fun e he => by simp [hf] at he, fun h _ => hd h⟩

theorem Coherent.perform (h : Coherent l) (call : Call) : Coherent (l.perform call).after := by
  rcases l.perform_cases call with hs | rfl | hi
  · cases hr : l.next.result with
    | error error => exact (hs.stuck h hr).coherent
    | ok t =>
      obtain ⟨hf, hf', hd, -⟩ := next_of_result_ok hr
      refine coherent_of_done (hs.failure.trans hf') fun hq => ?_
      rw [hs.isDone, hd]
      rcases hs.drained hq with hq | ht
      · rw [h.drained hq hf, Bool.true_or]
      · rw [ht t hr, Bool.or_true]
  · exact ⟨fun e he => ⟨he, rfl⟩, fun _ _ => rfl⟩
  · rwa [hi.lexer]

/-- An answer with an error leaves the lexer stuck, and counts no token. -/
theorem perform_error (hc : Coherent l) (h : (l.perform call).answer.error? = some error) :
    Stuck error (l.perform call).after ∧ (l.perform call).after.isDone = l.isDone ∧
      (l.perform call).after.tally =
        { l.tally with comments := (l.perform call).after.tally.comments } := by
  rcases l.perform_cases call with hs | rfl | hi
  · have hr := (hs.error error).mp h
    obtain ⟨-, hd, ht, -⟩ := next_of_result_error hr
    refine ⟨hs.stuck hc hr, hs.isDone.trans hd, ?_⟩
    rw [hs.tally]
    exact ht
  · simp [perform, Answer.error?] at h
  · simp [hi.error] at h

theorem perform_failure (hf : l.failure = none)
    (h : (l.perform call).answer.error? = none) : (l.perform call).after.failure = none := by
  rcases l.perform_cases call with hs | rfl | hi
  · cases hr : l.next.result with
    | error error => simp [(hs.error error).mpr hr] at h
    | ok t => exact hs.failure.trans (next_of_result_ok hr).2.1
  · exact hf
  · rwa [hi.lexer]

theorem perform_ends (hc : Coherent l) (hf : l.failure = none) (h : (l.perform call).ends) :
    Ended (l.perform call).after := by
  rcases l.perform_cases call with hs | rfl | hi
  · obtain ⟨t, hr, ht⟩ := hs.ends.mp h
    obtain ⟨-, hf', hd, -⟩ := next_of_result_ok hr
    refine ⟨hs.failure.trans hf', ?_⟩
    rw [hs.isDone, hd, ht, Bool.or_true]
  · exact ⟨hf, rfl⟩
  · rw [hi.lexer]
    exact ⟨hf, hc.drained (hi.ends h) hf⟩

theorem perform_isDrained (h : l.isDrained = true) (call : Call) :
    (l.perform call).after.isDrained = true := by
  cases call with
  | next => exact l.next_isDrained.trans h
  | nextToken => exact l.next_isDrained.trans h
  | pull =>
    rw [perform_drained h]
    exact h
  | close => exact h
  | look => exact h

theorem perform_pulled_none (h : (l.perform call).answer = .pulled none) :
    (l.perform call).after.isDrained = true := by
  cases call with
  | pull =>
    by_cases hq : l.isDrained = true
    · rw [perform_drained hq]
      exact hq
    · rw [Bool.not_eq_true] at hq
      cases hr : l.next.result with
      | error e => simp [perform, pull_of_error hq hr] at h
      | ok t =>
        simp only [perform, pull_of_ok hq hr] at h ⊢
        split <;> simp_all
  | _ => simp [perform] at h

theorem perform_pulled_ok {t : Token}
    (h : (l.perform call).answer = .pulled (some (.ok t))) : t.isEof = false := by
  cases call with
  | pull =>
    by_cases hq : l.isDrained = true
    · simp [perform_drained hq] at h
    · rw [Bool.not_eq_true] at hq
      cases hr : l.next.result with
      | error e => simp [perform, pull_of_error hq hr] at h
      | ok u =>
        simp only [perform, pull_of_ok hq hr] at h
        split at h
        · simp at h
        · rename_i hu
          obtain rfl : u.value = t := by simpa using h
          simpa using hu
  | _ => simp [perform] at h

theorem pulledErrors_le (l : Lexer) (call : Call) :
    (l.perform call).pulledErrors.length +
        (if (l.perform call).after.isDrained then 0 else 1) ≤
      if l.isDrained then 0 else 1 := by
  cases hq : l.isDrained with
  | true =>
    rw [perform_isDrained hq]
    cases call with
    | pull => rw [perform_drained hq]; rfl
    | _ => rfl
  | false =>
    cases call with
    | pull =>
      cases hr : l.next.result with
      | error e => simp [perform, pull_of_error hq hr, Entry.pulledErrors]
      | ok t =>
        simp only [perform, pull_of_ok hq hr]
        split <;> simp [Entry.pulledErrors, next_isDrained, hq]
    | next => simp [perform, Entry.pulledErrors, next_isDrained, hq]
    | nextToken => simp [perform, Entry.pulledErrors, nextToken, Step.map, next_isDrained, hq]
    | close => simp [perform, Entry.pulledErrors, close, hq]
    | look => simp [perform, Entry.pulledErrors, hq]

theorem record_completions (l : Lexer) (t : Located Token) :
    ((l.record t).2.filter (·.code = .scanComplete)).length ≤ if t.value.isEof then 1 else 0 := by
  have hcode : (illegalNotice t).code ≠ .scanComplete := by
    change illegalCode t.value.text ≠ .scanComplete
    rw [illegalCode]
    split
    · decide
    · split <;> decide
  unfold record
  cases l.settings.collectMetrics <;> simp only [Bool.false_eq_true, if_false, if_true] <;>
    split
  · exact List.length_filter_le _ _
  · split <;> simp [hcode]
  · exact List.length_filter_le _ _
  · split <;> simp [hcode]

theorem next_completions (l : Lexer) :
    (l.next.notices.filter (·.code = .scanComplete)).length +
        (if l.next.lexer.isDone then 0 else 1) ≤
      if l.isDone then 0 else 1 := by
  rcases l.next_cases with ⟨e, hf, hn⟩ | ⟨hf, hd, hn⟩ | ⟨hf, hd, q, t, hn⟩ | ⟨hf, hd, q, e, hn⟩
  · simp [hn]
  · simp [hn, hd]
  · have hle := record_completions (l.passed q) t
    rw [hn, record_lexer]
    have hd' : (l.passed q).isDone = false := hd
    simp only [hd, hd', Bool.false_or]
    split at hle <;> simp_all
  · have hcode : ((l.passed q).failureNotice e).code ≠ .scanComplete := by
      change e.code ≠ .scanComplete
      rw [ReadError.code]
      split <;> decide
    have hd' : (l.failed q e).isDone = false := hd
    simp [hn, hd, hd', hcode]

theorem completions_le (l : Lexer) (call : Call) :
    (l.perform call).completions.length + (if (l.perform call).after.isDone then 0 else 1) ≤
      if l.isDone then 0 else 1 := by
  rcases l.perform_cases call with hs | rfl | hi
  · rw [Entry.completions, hs.notices, hs.isDone]
    exact l.next_completions
  · rw [completions_close]
    exact Nat.zero_le _
  · rw [Entry.completions, hi.notices, hi.lexer]
    exact Nat.le_of_eq (Nat.zero_add _)

/-- What is final in the entries of a session. -/
structure Final (entries : List Entry) : Prop where
  /-- An error is given for ever, and nothing that the lexer shows changes any more. The call that
  met it has counted no token. -/
  failed : ∀ past e rest error, entries = past ++ e :: rest → e.answer.error? = some error →
    e.after.isDone = e.before.isDone ∧
    e.after.tally = { e.before.tally with comments := e.after.tally.comments } ∧
    ∀ f ∈ rest, (f.call = .next → f.answer = .located (.error error)) ∧
      (f.call = .nextToken → f.answer = .token (.error error)) ∧
      f.after.cursor = e.after.cursor ∧ f.after.tally = e.after.tally
  /-- While there was no error, the end is given for ever where the lexer stands, and nothing is
  read, counted or reported any more. -/
  ended : ∀ past e rest, entries = past ++ e :: rest → (∀ x ∈ past, x.answer.error? = none) →
    e.ends →
    e.after.isDone = true ∧
    ∀ f ∈ rest,
      (f.call = .next → f.answer = .located (.ok ⟨.eof, .point e.after.position⟩)) ∧
      (f.call = .nextToken → f.answer = .token (.ok .eof)) ∧
      (f.call = .pull → f.answer = .pulled none) ∧
      f.after.isDone = true ∧ f.after.position = e.after.position ∧
      (f.after.cursor = e.after.cursor ∨ f.after.cursor = e.after.cursor.close) ∧
      f.after.tally = e.after.tally ∧ f.completions = []
  completed : (entries.flatMap Entry.completions).length ≤ 1
  pulledErrors : (entries.flatMap Entry.pulledErrors).length ≤ 1
  pulledTokens : ∀ e ∈ entries, ∀ t, e.answer = .pulled (some (.ok t)) → t.isEof = false
  exhausted : ∀ past e rest, entries = past ++ e :: rest → e.answer = .pulled none →
    ∀ f ∈ rest, f.call = .pull → f.answer = .pulled none

variable {calls : List Call} {past rest : List Entry} {e f : Entry}

theorem Stuck.session (h : Stuck error l) (hf : f ∈ l.session calls) :
    (f.call = .next → f.answer = .located (.error error)) ∧
      (f.call = .nextToken → f.answer = .token (.error error)) ∧
      f.after.cursor = l.cursor ∧ f.after.tally = l.tally := by
  have hstep : ∀ (m : Lexer) (call : Call),
      Stuck error m ∧ m.cursor = l.cursor ∧ m.tally = l.tally →
      Stuck error (m.perform call).after ∧ (m.perform call).after.cursor = l.cursor ∧
        (m.perform call).after.tally = l.tally := by
    rintro m call ⟨hm, hcursor, htally⟩
    obtain ⟨hm', hcursor', htally', -⟩ := hm.perform call
    exact ⟨hm', hcursor'.trans hcursor, htally'.trans htally⟩
  obtain ⟨m, call, ⟨hm, -⟩, rfl, -, hcursor, htally⟩ := session_forall hstep ⟨h, rfl, rfl⟩ hf
  obtain ⟨-, -, -, hnext, htoken⟩ := hm.perform call
  rw [perform_call]
  exact ⟨hnext, htoken, hcursor, htally⟩

theorem Ended.session (h : Ended l) (hf : f ∈ l.session calls) :
    (f.call = .next → f.answer = .located (.ok l.eofHere)) ∧
      (f.call = .nextToken → f.answer = .token (.ok .eof)) ∧
      (f.call = .pull → f.answer = .pulled none) ∧
      f.after.isDone = true ∧ f.after.position = l.position ∧
      (f.after.cursor = l.cursor ∨ f.after.cursor = l.cursor.close) ∧
      f.after.tally = l.tally ∧ f.completions = [] := by
  have hstep : ∀ (m : Lexer) (call : Call),
      Ended m ∧ (m.cursor = l.cursor ∨ m.cursor = l.cursor.close) ∧ m.tally = l.tally →
      Ended (m.perform call).after ∧ ((m.perform call).after.cursor = l.cursor ∨
        (m.perform call).after.cursor = l.cursor.close) ∧
        (m.perform call).after.tally = l.tally := by
    rintro m call ⟨hm, hcursor, htally⟩
    obtain ⟨hm', hcursor', htally', -⟩ := hm.perform call
    refine ⟨hm', ?_, htally'.trans htally⟩
    rcases hcursor with hc | hc <;> rcases hcursor' with hc' | hc' <;> rw [hc', hc]
    · exact .inl rfl
    · exact .inr rfl
    · exact .inr rfl
    · exact .inr rfl
  have hposition {m : Lexer} (hm : m.cursor = l.cursor ∨ m.cursor = l.cursor.close) :
      m.position = l.position := by
    rcases hm with hm | hm <;> simp [position, hm, Cursor.close]
  obtain ⟨m, call, ⟨hm, hcursor, -⟩, rfl, ha, hcursor', htally'⟩ :=
    session_forall hstep ⟨h, .inl rfl, rfl⟩ hf
  obtain ⟨-, -, -, hnext, htoken, hpull, hcompleted⟩ := hm.perform call
  rw [perform_call]
  refine ⟨fun hc => ?_, htoken, hpull, ha.isDone, hposition hcursor', hcursor', htally', hcompleted⟩
  rw [hnext hc, eofHere, hposition hcursor]
  rfl

theorem coherent_ofFeed {feed : Feed} {settings : Settings.Scanning}
    (h : (ofFeed feed settings).1 = .ok l) :
    Coherent l ∧ l.failure = none ∧ l.isDone = false ∧ l.isDrained = false := by
  rw [ofFeed] at h
  generalize (Cursor.unprimed feed).prime = r at h
  obtain ⟨result, c⟩ := r
  cases result with
  | error fault => simp at h
  | ok u =>
    obtain rfl := Except.ok.inj h
    exact ⟨coherent_of_done rfl (by simp [ofCursor]), rfl, rfl, rfl⟩

/-- However a lexer on a feed is used, an error and the end are final. -/
theorem session_final (feed : Feed) (settings : Settings.Scanning) (l : Lexer)
    (h : (ofFeed feed settings).1 = .ok l) (calls : List Call) : Final (l.session calls) := by
  obtain ⟨hc, hf, hd, hq⟩ := coherent_ofFeed h
  refine ⟨?_, ?_, ?_, ?_, ?_, ?_⟩
  · intro past e rest error hs herror
    obtain ⟨before, call, later, hbefore, rfl, rfl⟩ :=
      session_split (fun l call _ h => h.perform call) hc hs
    obtain ⟨hstuck, hdone, htally⟩ := perform_error hbefore herror
    rw [perform_before]
    exact ⟨hdone, htally, fun f hm => hstuck.session hm⟩
  · intro past e rest hs hpast hends
    obtain ⟨before, call, later, ⟨hbefore, hfailure⟩, rfl, rfl⟩ :=
      session_split (P := fun l => Coherent l ∧ l.failure = none)
        (fun l call hm h => ⟨h.1.perform call, perform_failure h.2 (hpast _ hm)⟩) ⟨hc, hf⟩ hs
    have hended := perform_ends hbefore hfailure hends
    exact ⟨hended.isDone, fun f hm => hended.session hm⟩
  · rw [List.length_flatMap]
    have hsum := @session_sum_le (fun e => e.completions.length)
      (fun l => if l.isDone then 0 else 1) completions_le l calls
    simpa [hd] using hsum
  · rw [List.length_flatMap]
    have hsum := @session_sum_le (fun e => e.pulledErrors.length)
      (fun l => if l.isDrained then 0 else 1) pulledErrors_le l calls
    simpa [hq] using hsum
  · intro e he t hp
    obtain ⟨before, call, -, rfl, -⟩ := session_forall (fun _ call h => h.perform call) hc he
    exact perform_pulled_ok hp
  · intro past e rest hs hp f hm hcall
    obtain ⟨before, call, later, -, rfl, rfl⟩ :=
      session_split (fun l call _ h => h.perform call) hc hs
    obtain ⟨m, call', hdrained, rfl, -⟩ :=
      session_forall (P := fun l => l.isDrained = true) (fun _ call h => perform_isDrained h call)
        (perform_pulled_none hp) hm
    rw [perform_call] at hcall
    subst hcall
    rw [perform_drained hdrained]

theorem session_final_late :
    let feed : Feed := [.bytes [0x61, 0x2B, 0x62], .fault ⟨.timedOut, "too late"⟩]
    ∃ l, (ofFeed feed ⟨.compatible, true, true⟩).1 = .ok l ∧
      Final (l.session [.next, .next, .close, .pull, .nextToken, .look]) := by
  intro feed
  have hlast : feed.read.2.read.2.read.2.read.2 = [] := rfl
  have hreadings : feed.readings =
      [.char 'a', .char '+', .char 'b', .fault ⟨.timedOut, "too late"⟩] := by
    rw [Feed.readings_of_ne_nil (by decide), Feed.readings_of_ne_nil (by decide),
      Feed.readings_of_ne_nil (by decide), Feed.readings_of_ne_nil (by decide), hlast,
      Feed.readings_nil]
    rfl
  have h : (ofFeed feed ⟨.compatible, true, true⟩).1 =
      .ok (ofCursor ⟨[.char 'b', .fault ⟨.timedOut, "too late"⟩], some 'a', some '+', .start, false⟩
        ⟨.compatible, true, true⟩) := by
    rw [ofFeed, Cursor.unprimed, hreadings]
    rfl
  exact ⟨_, h, session_final feed ⟨.compatible, true, true⟩ _ h _⟩

end TokenDump.Lexer
