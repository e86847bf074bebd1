import TokenDump.Proofs.Passing

/-! # Passing gaps

Both ways of skipping trivia pass exactly the gaps of the grammar, and count their comments. -/
namespace TokenDump.Lexer

open Scan Cursor

variable {start : Position} {blanks comment gap rest body : List Char} {n : Nat}

theorem passes_skipBlanks (h : Blanks blanks rest) :
    skipBlanks.Passes () start blanks rest 0 :=
  (passes_takeWhile (runs_iff.mpr h)).bind_nil (passes_pure () _ _)

theorem runs_line (h : '\n' ∉ body) (hr : ∀ d ∈ rest.head?, d = '\n') :
    Runs (fun c _ => c != '\n') body rest := by
  refine runs_iff.mpr ⟨fun d hd => ?_, fun d hd => ?_⟩
  · have : d ≠ '\n' := fun he => h (he ▸ hd)
    simpa using this
  · simp [hr d hd]

theorem passes_skipLineComment (h : LineComment comment rest) :
    skipLineComment.Passes () start comment rest 1 := by
  cases h with
  | line first =>
    refine passes_enterComment (passes_step '/' (passes_step '/' ?_))
    exact passes_run (runs_line first (by simp)) (passes_advance '\n')
  | @lastLine body never =>
    refine passes_enterComment (passes_step '/' (passes_step '/' ?_))
    rw [← List.append_nil body]
    exact passes_run (runs_line never (by simp)) passes_advance_nil

/-- Whether a block comment goes on at a character with another one behind it. -/
abbrev inComment (c : Char) (next : Option Char) : Bool := !(c == '*' && next == some '/')

theorem inComment_iff {c : Char} {text : List Char} :
    inComment c text.head? = true ↔ ¬ ['*', '/'] <+: c :: text := by
  cases text with
  | nil => simp [inComment]
  | cons d text => simp [inComment, eq_comm (b := c), eq_comm (b := d), ← imp_iff_not_or]

theorem runs_closed (h : ¬ ['*', '/'] <:+: body ++ ['*']) :
    Runs inComment body ('*' :: '/' :: rest) := by
  induction body with
  | nil => simp [Runs, inComment]
  | cons c body ih =>
    rw [List.cons_append, List.infix_cons_iff, not_or] at h
    refine ⟨inComment_iff.mpr fun hp => h.1 ?_, ih h.2⟩
    cases body with
    | nil => simp at hp
    | cons d body => simpa using hp

theorem runs_unclosed (h : ¬ ['*', '/'] <:+: body) : Runs inComment body [] := by
  induction body with
  | nil => simp [Runs]
  | cons c body ih =>
    rw [List.infix_cons_iff, not_or] at h
    exact ⟨inComment_iff.mpr (by simpa using h.1), ih h.2⟩

theorem passes_closed (h : BlockComment comment) :
    skipBlockComment.Passes true start comment rest 1 := by
  obtain ⟨first⟩ := h
  refine passes_enterComment (passes_step '/' (passes_step '*' ?_))
  refine passes_run (runs_closed first) (passes_cursor fun stop c hs _ => ?_)
  have hc : c.isExhausted = false := hs.isExhausted
  rw [hc]
  exact passes_step '*' (passes_step '/' (passes_pure true _ _))

theorem passes_unclosed (h : UnclosedComment comment) :
    skipBlockComment.Passes false start comment [] 1 := by
  obtain @⟨body, never⟩ := h
  refine passes_enterComment (passes_step '/' (passes_step '*' ?_))
  rw [← List.append_nil body]
  refine passes_run (runs_unclosed never) (passes_cursor fun stop c hs _ => ?_)
  have hc : c.isExhausted = true := hs.isExhausted
  rw [hc]
  exact passes_pure false _ _

theorem BlockComment.mark (h : BlockComment comment) (rest : List Char) :
    ['/', '*'] <+: comment ++ rest := by
  obtain ⟨first⟩ := h
  exact ⟨_, rfl⟩

theorem UnclosedComment.mark (h : UnclosedComment comment) : ['/', '*'] <+: comment := by
  obtain ⟨never⟩ := h
  exact ⟨_, rfl⟩

theorem LineComment.mark {after : List Char} (h : LineComment comment after) (rest : List Char) :
    ['/', '/'] <+: comment ++ rest := by
  cases h <;> exact ⟨_, rfl⟩

theorem not_block_of_line {text : List Char} (h : ['/', '/'] <+: text) : ¬ ['/', '*'] <+: text := by
  obtain ⟨tail, rfl⟩ := h
  simp

def unclosedFrom (start : Position) : Scan (Option (Located Token)) := do
  return some ⟨.unclosedComment, start, (← cursor).position⟩

theorem passes_unclosedFrom (p start : Position) :
    (unclosedFrom p).Passes (some ⟨.unclosedComment, p, start⟩) start [] [] 0 :=
  passes_cursor fun _ c _ hp => by
    rw [hp]
    exact passes_pure _ _ _

/-- What skipping does behind the blanks, when the cursor is `c`. -/
def skipRound (c : Cursor) : Scan (Option (Located Token)) :=
  if c.isAt '/' '*' then do
    if ← skipBlockComment then skipAll else unclosedFrom c.position
  else if c.isAt '/' '/' then do
    skipLineComment
    skipAll
  else return none

theorem skipAll_eq :
    (skipAll : Scan (Option (Located Token))) = skipBlanks >>= fun _ => cursor >>= skipRound := by
  funext p
  rw [skipAll]
  simp only [bind_apply, cursor_apply]
  cases skipBlanks p with | mk result p' =>
  cases result with
  | error cause => rfl
  | ok u =>
    simp only [skipRound]
    by_cases hb : p'.cursor.isAt '/' '*' = true
    · rw [dif_pos hb, if_pos hb, bind_apply]
      cases skipBlockComment p' with | mk closed p'' =>
      cases closed with
      | error cause => rfl
      | ok found => cases found <;> rfl
    · by_cases hl : p'.cursor.isAt '/' '/' = true
      · rw [dif_neg hb, dif_pos hl, if_neg hb, if_pos hl]
        refine Eq.trans ?_ (bind_apply skipLineComment (fun _ => skipAll) p').symm
        cases skipLineComment p' with | mk ended p'' => cases ended <;> rfl
      · rw [dif_neg hb, dif_neg hl, if_neg hb, if_neg hl]
        rfl

theorem passes_skipAll {value : Option (Located Token)} {text : List Char}
    (hb : Blanks blanks (text ++ rest))
    (h : ∀ (stop : Option Fault) (c : Cursor), c.Shows stop (text ++ rest) →
      c.position = start.advanceOver blanks →
      (skipRound c).Passes value (start.advanceOver blanks) text rest n) :
    Scan.Passes skipAll value start (blanks ++ text) rest n := by
  rw [skipAll_eq]
  simpa using (passes_skipBlanks hb).bind (f := fun _ => cursor >>= skipRound) (passes_cursor h)

theorem passes_skipRound {value : Option (Located Token)} {text : List Char} {stop : Option Fault}
    {c : Cursor} (hc : Comment comment (text ++ rest)) (hs : c.Shows stop (comment ++ text ++ rest))
    (h : Scan.Passes skipAll value (start.advanceOver comment) text rest n) :
    (skipRound c).Passes value start (comment ++ text) rest (n + 1) := by
  rw [List.append_assoc] at hs
  rw [skipRound, Nat.add_comm]
  rcases hc with hblock | hline
  · rw [if_pos ((hs.isAt _ _).mpr (hblock.mark _))]
    exact (passes_closed hblock).bind h
  · have hb : ¬ c.isAt '/' '*' = true := fun h =>
      not_block_of_line (hline.mark _) ((hs.isAt _ _).mp h)
    rw [if_neg hb, if_pos ((hs.isAt _ _).mpr (hline.mark _))]
    exact (passes_skipLineComment hline).bind h

theorem passes_skipAll_none (h : StrictGap gap n rest) (hc : ¬ ['/', '*'] <+: rest) :
    Scan.Passes skipAll none start gap rest n := by
  induction h generalizing start with
  | @blanks blanks rest all last =>
    rw [← List.append_nil blanks]
    refine passes_skipAll all fun stop c hs _ => ?_
    have hl : ¬ ['/', '/'] <+: rest := by
      rintro ⟨text, rfl⟩
      obtain ⟨comment, after, he, hline⟩ := exists_lineComment text
      exact last comment after he (.inr hline)
    have hb : ¬ c.isAt '/' '*' = true := fun h => hc ((hs.isAt _ _).mp h)
    have hl : ¬ c.isAt '/' '/' = true := fun h => hl ((hs.isAt _ _).mp h)
    rw [skipRound, if_neg hb, if_neg hl]
    exact passes_pure none _ _
  | comment all isComment more ih =>
    rw [List.append_assoc]
    exact passes_skipAll all fun stop c hs _ => passes_skipRound isComment hs (ih hc)

/-- A comment that nothing closes is passed with the gap before it, and becomes a token. -/
theorem passes_skipAll_some (h : StrictGap gap n comment) (hc : UnclosedComment comment) :
    Scan.Passes skipAll
      (some ⟨.unclosedComment, start.advanceOver gap, start.advanceOver (gap ++ comment)⟩)
      start (gap ++ comment) [] (n + 1) := by
  induction h generalizing start with
  | @blanks blanks comment all last =>
    refine passes_skipAll (by simpa using all) fun stop c hs hp => ?_
    rw [skipRound, if_pos ((hs.isAt _ _).mpr (by simpa using hc.mark)), hp,
      Position.advanceOver_append]
    exact (passes_unclosed hc).bind_nil (passes_unclosedFrom _ _)
  | @comment blanks comment gap rest n all isComment more ih =>
    have hround : Scan.Passes skipAll _ start (blanks ++ (comment ++ (gap ++ rest))) [] _ :=
      passes_skipAll (by simpa using all) fun stop c hs _ =>
        passes_skipRound (by simpa using isComment) (by simpa using hs) (ih hc)
    simpa [Position.advanceOver_append] using hround

theorem passes_linePart (h : LinePart gap n rest) :
    Scan.Passes (do
      if (← cursor).isAt '/' '/' then
        skipLineComment
        skipBlanks) () start gap rest n := by
  refine passes_cursor fun stop c hs _ => ?_
  cases h with
  | absent h =>
    have hl : ¬ c.isAt '/' '/' = true := fun hl => h ((hs.isAt _ _).mp hl)
    rw [if_neg hl]
    exact passes_pure () _ _
  | present h all =>
    rw [List.append_assoc] at hs
    rw [if_pos ((hs.isAt _ _).mpr (h.mark _))]
    exact (passes_skipLineComment h).bind_free (passes_skipBlanks all)

theorem passes_skipOnce (h : CompatibleGap gap n rest) :
    skipOnce.Passes () start gap rest n := by
  obtain @⟨blanks, block, line, rest, m, k, all, blockPart, linePart⟩ := h
  rw [List.append_assoc] at all ⊢
  rw [← Nat.zero_add (m + k)]
  refine (passes_skipBlanks (by simpa using all)).bind (passes_cursor fun stop c hs _ => ?_)
  generalize hr : line ++ rest = after at blockPart
  cases blockPart with
  | absent h =>
    have hb : ¬ c.isAt '/' '*' = true := fun hb => h (by simpa [hr] using (hs.isAt _ _).mp hb)
    rw [if_neg hb, Nat.zero_add]
    exact passes_linePart linePart
  | closed h all =>
    simp only [List.append_assoc] at hs ⊢
    rw [if_pos ((hs.isAt _ _).mpr (h.mark _)), ← Nat.zero_add k]
    subst hr
    exact (passes_closed h).bind ((passes_skipBlanks all).bind (passes_linePart linePart))
  | unclosed h =>
    obtain ⟨rfl, rfl⟩ := List.append_eq_nil_iff.mp hr
    rw [if_pos ((hs.isAt _ _).mpr (by simpa using h.mark)), ← Nat.zero_add k]
    have hb : Blanks [] [] := by simp [Blanks]
    refine (passes_unclosed h).bind ?_
    rw [← List.append_nil ([] : List Char)]
    exact (passes_skipBlanks hb).bind (passes_linePart linePart)

end TokenDump.Lexer
