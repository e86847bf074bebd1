import TokenDump.Proofs.Comments

/-! # Lexers without metrics

A lexer that collects no metrics counts no token and no line, in whatever order it is called. The
comments that it enters are counted all the same, so that its tally stays at zero over a text just
if there are no comments in the text. -/
namespace TokenDump.Lexer

structure Unmetered (l : Lexer) : Prop where
  collects : l.settings.collectMetrics = false
  tally : l.tally = { Tally.zero with comments := l.tally.comments }

/-- The lexer goes on in a text of `total` comments, or has come to its end, or was closed. -/
def Bounded (trivia : Trivia) (total : Nat) (stop : Position) (l : Lexer) : Prop :=
  Underway trivia total stop l ∨ Ended l ∧ l.tally.comments ≤ total

variable {trivia : Trivia} {total n : Nat} {stop : Position} {settings : Settings.Scanning}
  {l : Lexer} {e : Entry} {calls : List Call} {text : String}

theorem Unmetered.next (h : Unmetered l) : Unmetered l.next.lexer := by
  have hpassed (q : Progress) : (l.passed q).tally = { Tally.zero with comments := q.comments } :=
    congrArg (fun m : Tally => { m with comments := q.comments }) h.tally
  rcases l.next_cases with ⟨error, -, hn⟩ | ⟨-, -, hn⟩ | ⟨-, -, q, t, hn⟩ | ⟨-, -, q, error, hn⟩
  · rw [hn]
    exact h
  · rw [hn]
    exact h
  · have hcollects : (l.passed q).settings.collectMetrics = false := h.collects
    rw [hn, record_lexer]
    refine ⟨h.collects, ?_⟩
    simp only [hcollects, hpassed, Bool.false_eq_true, if_false]
  · rw [hn]
    exact ⟨h.collects, hpassed q⟩

theorem Unmetered.perform (h : Unmetered l) (call : Call) : Unmetered (l.perform call).after := by
  have hcollects : (l.perform call).after.settings.collectMetrics = false := by
    rw [settings_perform]
    exact h.collects
  refine ⟨hcollects, ?_⟩
  rcases l.perform_cases call with hs | rfl | hi
  · rw [hs.tally]
    exact h.next.tally
  · exact h.tally
  · rw [hi.lexer]
    exact h.tally

theorem unmetered_ofCursor (cursor : Cursor) (hm : settings.collectMetrics = false) :
    Unmetered (ofCursor cursor settings) := ⟨hm, rfl⟩

theorem Fresh.unmetered (h : Fresh settings l) (hm : settings.collectMetrics = false) :
    Unmetered l := by
  cases h with
  | @ofFeed feed l made =>
    rw [Lexer.ofFeed] at made
    generalize (Cursor.unprimed feed).prime = r at made
    obtain ⟨result, c⟩ := r
    cases result with
    | error fault => simp at made
    | ok u =>
      obtain rfl := Except.ok.inj made
      exact unmetered_ofCursor c hm
  | ofText text => exact unmetered_ofCursor _ hm

theorem Bounded.comments_le (h : Bounded trivia total stop l) : l.tally.comments ≤ total := by
  rcases h with ⟨p, rest, m, -, -, -, htotal, -⟩ | ⟨-, hle⟩
  · omega
  · exact hle

theorem Bounded.next (h : Underway trivia total stop l) : Bounded trivia total stop l.next.lexer := by
  obtain ⟨t, -, ⟨-, hmore⟩ | ⟨-, -, hended, hcomments⟩⟩ := h.next
  · exact .inl hmore
  · exact .inr ⟨hended, Nat.le_of_eq hcomments⟩

theorem Bounded.perform (h : Bounded trivia total stop l) (call : Call) :
    Bounded trivia total stop (l.perform call).after := by
  rcases h with hl | ⟨hl, hle⟩
  · rcases l.perform_cases call with hs | rfl | hi
    · have hsettings := (l.settings_perform call).trans l.settings_next.symm
      rcases Bounded.next hl with hmore | ⟨hended, hle⟩
      · exact .inl (hmore.same hsettings hs.cursor hs.tally hs.failure hs.isDone)
      · refine .inr ⟨⟨hs.failure.trans hended.failure, hs.isDone.trans hended.isDone⟩, ?_⟩
        rwa [hs.tally]
    · have hle : l.tally.comments ≤ total := Bounded.comments_le (.inl hl)
      exact .inr ⟨⟨hl.isOpen.1, rfl⟩, hle⟩
    · rw [hi.lexer]
      exact .inl hl
  · obtain ⟨hended, -, htally, -⟩ := hl.perform call
    exact .inr ⟨hended, htally ▸ hle⟩

/-- Asking for tokens up to the end brings up all comments. -/
theorem Underway.exists_session (h : Underway trivia total stop l) :
    ∃ calls, ∃ e ∈ l.session calls, e.after.tally.comments = total := by
  induction l using Lexer.drain.induct with
  | case1 l error herror =>
    obtain ⟨t, ht, -⟩ := h.next
    simp [herror] at ht
  | case2 l t hr heof =>
    obtain ⟨u, hu, ⟨hproper, -⟩ | ⟨-, -, -, hcomments⟩⟩ := h.next
    · obtain rfl : t = u := Except.ok.inj (hr.symm.trans hu)
      simp [heof] at hproper
    · exact ⟨[.next], l.perform .next, List.mem_singleton_self _, hcomments⟩
  | case3 l t hr hproper _ _ _ _ _ ih =>
    obtain ⟨u, hu, ⟨-, hmore⟩ | ⟨heof, -⟩⟩ := h.next
    · obtain ⟨calls, e, he, hcomments⟩ := ih hmore
      exact ⟨.next :: calls, e, List.mem_cons_of_mem _ he, hcomments⟩
    · obtain rfl : t = u := Except.ok.inj (hr.symm.trans hu)
      exact absurd heof hproper

/-- A lexer without metrics counts nothing but comments, and of a text never more than there are in
it. Its tally stays at zero over a text just if there are none. -/
theorem session_unmetered (hm : settings.collectMetrics = false) (hl : Fresh settings l) :
    (∀ calls, ∀ e ∈ l.session calls,
      e.after.tally = { Tally.zero with comments := e.after.tally.comments }) ∧
    ∀ text, FreshOn settings text l →
      (∀ n, Commented settings.trivia text.toList n →
        ∀ calls, ∀ e ∈ l.session calls, e.after.tally.comments ≤ n) ∧
      ((∀ calls, ∀ e ∈ l.session calls, e.after.tally = .zero) ↔
        Commented settings.trivia text.toList 0) := by
  have hshape : ∀ calls, ∀ e ∈ l.session calls,
      e.after.tally = { Tally.zero with comments := e.after.tally.comments } := by
    intro calls e he
    obtain ⟨before, call, -, -, hafter⟩ :=
      session_forall (P := Unmetered) (fun _ call h => h.perform call) (hl.unmetered hm) he
    exact hafter.tally
  refine ⟨hshape, fun text htext => ?_⟩
  have hbound : ∀ n, Commented settings.trivia text.toList n →
      ∀ calls, ∀ e ∈ l.session calls, e.after.tally.comments ≤ n := by
    intro n hn calls e he
    obtain ⟨before, call, -, -, hafter⟩ :=
      session_forall (P := Bounded settings.trivia n (Position.start.advanceOver text.toList))
        (fun _ call h => h.perform call) (.inl (htext.underway hn)) he
    exact hafter.comments_le
  refine ⟨hbound, fun hzero => ?_, fun hnone calls e he => ?_⟩
  · obtain ⟨ts, hts⟩ := exists_segmentation settings.trivia .start text.toList
    obtain ⟨n, hn⟩ := hts.exists_commented
    obtain ⟨calls, e, he, hcomments⟩ := (htext.underway hn).exists_session
    obtain rfl : 0 = n := by rw [← hcomments, hzero calls e he]; rfl
    exact hn
  · have hcomments : e.after.tally.comments = 0 := Nat.le_zero.mp (hbound 0 hnone calls e he)
    rw [hshape calls e he, hcomments]
    rfl

/-- Two slashes in a string are no comment. -/
theorem session_unmetered_slashes :
    let l := ofText "\"//\"" ⟨.compatible, false, true⟩
    Commented .compatible "\"//\"".toList 0 ∧
      ∀ calls, ∀ e ∈ l.session calls, e.after.tally = .zero := by
  intro l
  let first := l.perform .next
  let second := first.after.perform .next
  have hs : l.session [.next, .next] = [first] ++ second :: [] := rfl
  have heof : ∃ t ∈ [first, second].flatMap Entry.scanned, t.value.isEof = true := by
    decide +kernel
  have hnone : Commented .compatible "\"//\"".toList 0 := by
    obtain ⟨ts, hts⟩ := exists_segmentation .compatible .start "\"//\"".toList
    obtain ⟨n, hn⟩ := hts.exists_commented
    obtain ⟨t, ht, hisEof⟩ := heof
    cases (FreshOn.ofText.stage hn).session hs with
    | underway goesOn noEof => simp [noEof t ht] at hisEof
    | closed ended noEof => simp [noEof t ht] at hisEof
    | finished ended last stops comments =>
      have hzero : second.after.tally.comments = 0 := by decide +kernel
      rwa [← hzero, comments]
  have hl : Fresh ⟨.compatible, false, true⟩ l := .ofText _
  obtain ⟨-, htext⟩ := session_unmetered rfl hl
  exact ⟨hnone, (htext _ .ofText).2.mpr hnone⟩

/-- Without metrics a comment is counted as it is entered. -/
theorem exists_session_unmetered_comment :
    ∃ e ∈ (ofText "// c" ⟨.strict, false, true⟩).session [.next], e.after.tally ≠ .zero := by
  decide +kernel

end TokenDump.Lexer
