import TokenDump.Proofs.Lines

/-! # What scanning preserves

A scan does nothing to its progress but advance the cursor and enter comments, so it preserves
whatever these two preserve. From two progresses that show the same it does the same, until a fault
stops one of them. Lines only grow, and a token stops where its scan has come to. -/
namespace TokenDump.Lexer

open Scan

/-- What advancing preserves, and entering a comment. -/
structure Stable (P : Progress → Prop) : Prop where
  advance : ∀ p, P p → P { p with cursor := p.cursor.advance.2 }
  enter : ∀ p, P p → P { p with comments := p.comments + 1 }

def Scan.Preserves {α : Type} (m : Scan α) (P : Progress → Prop) : Prop := ∀ p, P p → P (m p).2

/-- Two cursors that a scan cannot tell apart until it moves them. -/
structure SameSight (c d : Cursor) : Prop where
  current : c.current = d.current
  lookahead : c.lookahead = d.lookahead
  position : c.position = d.position

/-- How two runs end that began in step: with the same result and in step, or the first one stopped
by a fault, and the second one past that place. -/
inductive Alike {α : Type} (R : Progress → Progress → Prop) (F : Fault → Progress → Prop)
    (P : Progress → Prop) : Except Fault α × Progress → Except Fault α × Progress → Prop
  | same {result : Except Fault α} {p q : Progress} (inStep : R p q) :
      Alike R F P (result, p) (result, q)
  | apart {fault : Fault} {result : Except Fault α} {p q : Progress} (stopped : F fault p)
      (past : P q) : Alike R F P (.error fault, p) (result, q)

/-- Progresses in step stay in step when they advance, or a fault of `F` stops the first one where
the second one gets to `P`. -/
structure Paired (R : Progress → Progress → Prop) (F : Fault → Progress → Prop)
    (P : Progress → Prop) : Prop where
  stable : Stable P
  sight : ∀ p q, R p q → SameSight p.cursor q.cursor
  enter : ∀ p q, R p q → R { p with comments := p.comments + 1 } { q with comments := q.comments + 1 }
  advance : ∀ p q, R p q → Alike R F P (move Cursor.advance p) (move Cursor.advance q)

/-- The scan preserves `P`, and from progresses in step it ends alike. -/
structure Scan.Parallel {α : Type} (m : Scan α) (R : Progress → Progress → Prop)
    (F : Fault → Progress → Prop) (P : Progress → Prop) : Prop where
  preserves : m.Preserves P
  alike : ∀ p q, R p q → Alike R F P (m p) (m q)

variable {α β : Type} {R : Progress → Progress → Prop} {F : Fault → Progress → Prop}
  {P : Progress → Prop} {m : Scan α} {f : α → Scan β}

theorem SameSight.isAt {c d : Cursor} (h : SameSight c d) (first second : Char) :
    c.isAt first second = d.isAt first second := by
  rw [Cursor.isAt, Cursor.isAt, h.current, h.lookahead]

theorem SameSight.isExhausted {c d : Cursor} (h : SameSight c d) :
    c.isExhausted = d.isExhausted := by
  rw [Cursor.isExhausted, Cursor.isExhausted, h.current]

/-- With nothing in step, all that is left is what is preserved. -/
theorem paired_of_stable (hP : Stable P) : Paired (fun _ _ => False) (fun _ _ => False) P :=
  ⟨hP, fun _ _ h => h.elim, fun _ _ h => h.elim, fun _ _ h => h.elim⟩

theorem Scan.Preserves.bind (hm : m.Preserves P) (hf : ∀ a, (f a).Preserves P) :
    (m >>= f).Preserves P := by
  intro p hp
  have hq := hm p hp
  rw [bind_apply]
  generalize m p = r at hq ⊢
  obtain ⟨result, q⟩ := r
  cases result with
  | ok a => exact hf a q hq
  | error cause => exact hq

theorem Alike.bind {p q : Progress} (hm : Alike R F P (m p) (m q))
    (hP : ∀ a, (f a).Preserves P)
    (hf : ∀ a p' q', m p = (.ok a, p') → R p' q' → Alike R F P (f a p') (f a q')) :
    Alike R F P ((m >>= f) p) ((m >>= f) q) := by
  rw [bind_apply, bind_apply]
  generalize hp : m p = r at hm
  generalize m q = s at hm
  cases hm with
  | @same result p' q' inStep =>
    cases result with
    | ok a => exact hf a p' q' hp inStep
    | error fault => exact .same inStep
  | @apart fault result p' q' stopped past =>
    cases result with
    | ok a => exact .apart stopped (hP a q' past)
    | error cause => exact .apart stopped past

theorem parallel_pure (a : α) : (pure a : Scan α).Parallel R F P :=
  ⟨fun _ h => h, fun _ _ h => .same h⟩

theorem Scan.Parallel.bind (hm : m.Parallel R F P) (hf : ∀ a, (f a).Parallel R F P) :
    (m >>= f).Parallel R F P :=
  ⟨hm.preserves.bind fun a => (hf a).preserves, fun p q h =>
    (hm.alike p q h).bind (fun a => (hf a).preserves) fun a p' q' _ h' => (hf a).alike p' q' h'⟩

variable (hR : Paired R F P)
include hR

/-- A scan may look at its cursor as long as it does not look at what is pending. -/
theorem parallel_cursor {f : Cursor → Scan β} (hs : ∀ c d, SameSight c d → f c = f d)
    (hf : ∀ c, (f c).Parallel R F P) : (Scan.cursor >>= f).Parallel R F P := by
  refine ⟨fun p hp => (hf p.cursor).preserves p hp, fun p q h => ?_⟩
  change Alike R F P (f p.cursor p) (f q.cursor q)
  rw [hs _ _ (hR.sight p q h)]
  exact (hf q.cursor).alike p q h

theorem parallel_enterComment : enterComment.Parallel R F P :=
  ⟨hR.stable.enter, fun p q h => .same (hR.enter p q h)⟩

theorem parallel_advance : Scan.advance.Parallel R F P :=
  Scan.Parallel.bind ⟨hR.stable.advance, hR.advance⟩ fun _ => parallel_pure _

theorem Scan.Parallel.located (h : m.Parallel R F P) : (Scan.located m).Parallel R F P := by
  refine parallel_cursor hR (fun c d hcd => by rw [hcd.position]) fun c => h.bind fun a => ?_
  exact parallel_cursor hR (fun c d hcd => by rw [hcd.position]) fun _ => parallel_pure _

omit hR in
theorem takeWhile_eq (q : Char → Option Char → Bool) :
    Scan.takeWhile q = Scan.cursor >>= fun c => match c.current with
      | none => pure []
      | some ch => if q ch c.lookahead then
          move Cursor.advance >>= fun _ => Scan.takeWhile q >>= fun taken => pure (ch :: taken)
        else pure [] := by
  funext p
  rw [bind_apply, cursor_apply]
  simp only [Scan.takeWhile, move]
  rw [Cursor.takeWhile]
  split
  case h_1 hc => simp [hc]
  case h_2 ch hc =>
    simp only [hc]
    by_cases hq : q ch p.cursor.lookahead = true
    · simp only [hq, if_true, bind_apply, move]
      generalize p.cursor.advance = r
      obtain ⟨result, c⟩ := r
      cases result with
      | error cause => rfl
      | ok x => cases hrest : (c.takeWhile q).1 <;> simp [Except.map, hrest]
    · simp [hq]

theorem preserves_takeWhile (q : Char → Option Char → Bool) :
    (Scan.takeWhile q).Preserves P := by
  intro p hp
  obtain ⟨c, n⟩ := p
  change P ⟨(c.takeWhile q).2, n⟩
  fun_induction Cursor.takeWhile q c with
  | case1 => exact hp
  | case2 c ch h hq cause he => exact hR.stable.advance _ hp
  | case3 c ch h hq x he taken rest ht ih =>
    rw [ht] at ih
    exact ih (hR.stable.advance _ hp)
  | case4 => exact hp

theorem alike_takeWhile (r : Char → Option Char → Bool) (p q : Progress) (h : R p q) :
    Alike R F P (Scan.takeWhile r p) (Scan.takeWhile r q) := by
  have hsight := hR.sight p q h
  rw [takeWhile_eq, bind_apply, bind_apply, cursor_apply, cursor_apply]
  simp only [← hsight.current, ← hsight.lookahead]
  cases hc : p.cursor.current with
  | none => exact .same h
  | some ch =>
    simp only
    split
    · have hrest : ∀ taken : List Char, (pure (ch :: taken) : Scan (List Char)).Preserves P :=
        fun _ _ hp => hp
      refine (hR.advance p q h).bind (fun _ => (preserves_takeWhile hR r).bind hrest) ?_
      intro _ p' q' hp' h'
      have hlt : p'.cursor.remaining < p.cursor.remaining := by
        have hp' : p' = { p with cursor := p.cursor.advance.2 } := congrArg Prod.snd hp'.symm
        rw [hp']
        exact Cursor.remaining_advance_lt (by simp [hc])
      exact (alike_takeWhile r p' q' h').bind hrest fun _ _ _ _ h'' => .same h''
    · exact .same h
termination_by p.cursor.remaining

theorem parallel_takeWhile (r : Char → Option Char → Bool) : (Scan.takeWhile r).Parallel R F P :=
  ⟨preserves_takeWhile hR r, alike_takeWhile hR r⟩

theorem parallel_skipBlanks : skipBlanks.Parallel R F P :=
  (parallel_takeWhile hR _).bind fun _ => parallel_pure _

theorem parallel_skipLineComment : skipLineComment.Parallel R F P :=
  (parallel_enterComment hR).bind fun _ => (parallel_advance hR).bind fun _ =>
    (parallel_advance hR).bind fun _ => (parallel_takeWhile hR _).bind fun _ =>
      parallel_advance hR

theorem parallel_skipBlockComment : skipBlockComment.Parallel R F P := by
  refine (parallel_enterComment hR).bind fun _ => (parallel_advance hR).bind fun _ =>
    (parallel_advance hR).bind fun _ => (parallel_takeWhile hR _).bind fun _ =>
      parallel_cursor hR (fun c d hcd => by rw [hcd.isExhausted]) fun c => ?_
  split
  · exact parallel_pure _
  · exact (parallel_advance hR).bind fun _ => (parallel_advance hR).bind fun _ =>
      parallel_pure _

theorem preserves_skipAll : Scan.Preserves skipAll P := by
  intro p hp
  have hblanks := (parallel_skipBlanks hR).preserves p hp
  fun_induction skipAll p with
  | case1 p cause he => exact hblanks
  | case2 p u he p' hat p'' cause hc =>
    exact (parallel_skipBlockComment hR).preserves p' hblanks
  | case3 p u he p' hat p'' hc ih =>
    have hcomment := (parallel_skipBlockComment hR).preserves p' hblanks
    exact ih hcomment ((parallel_skipBlanks hR).preserves p'' hcomment)
  | case4 p u he p' hat p'' hc => exact (parallel_skipBlockComment hR).preserves p' hblanks
  | case5 p u he p' hat hl cause hc => exact (parallel_skipLineComment hR).preserves p' hblanks
  | case6 p u he p' hat hl x hc ih =>
    have hcomment := (parallel_skipLineComment hR).preserves p' hblanks
    exact ih hcomment ((parallel_skipBlanks hR).preserves _ hcomment)
  | case7 p u he p' hat hl => exact hblanks

theorem parallel_unclosedFrom (start : Position) : (unclosedFrom start).Parallel R F P :=
  parallel_cursor hR (fun c d hcd => by rw [hcd.position]) fun _ => parallel_pure _

omit hR in
theorem SameSight.skipRound {c d : Cursor} (h : SameSight c d) : skipRound c = skipRound d := by
  rw [Lexer.skipRound, Lexer.skipRound, h.isAt, h.isAt, h.position]

theorem preserves_closed (start : Position) (closed : Bool) :
    Scan.Preserves (if closed then skipAll else unclosedFrom start) P := by
  cases closed with
  | true => exact preserves_skipAll hR
  | false => exact (parallel_unclosedFrom hR start).preserves

theorem preserves_skipRound (c : Cursor) : (skipRound c).Preserves P := by
  rw [skipRound]
  split
  · exact (parallel_skipBlockComment hR).preserves.bind fun closed => preserves_closed hR _ closed
  · split
    · exact (parallel_skipLineComment hR).preserves.bind fun _ => preserves_skipAll hR
    · exact fun _ hp => hp

theorem alike_skipAll (p q : Progress) (h : R p q) : Alike R F P (skipAll p) (skipAll q) := by
  rw [skipAll_eq]
  have hround : (Scan.cursor >>= skipRound).Preserves P := fun p hp =>
    preserves_skipRound hR p.cursor p hp
  refine ((parallel_skipBlanks hR).alike p q h).bind (fun _ => hround) fun _ p' q' hp' h' => ?_
  change Alike R F P (skipRound p'.cursor p') (skipRound q'.cursor q')
  have hle : p'.cursor.remaining ≤ p.cursor.remaining := by
    have hforward := forward_skipBlanks p
    rwa [hp'] at hforward
  rw [← (hR.sight p' q' h').skipRound, skipRound]
  split
  · rename_i hat
    refine ((parallel_skipBlockComment hR).alike p' q' h').bind
      (fun closed => preserves_closed hR _ closed) fun closed p'' q'' hp'' h'' => ?_
    have hlt : p''.cursor.remaining < p'.cursor.remaining := by
      have hconsumes := consumes_skipBlockComment p' (current_of_isAt hat)
      rwa [hp''] at hconsumes
    cases closed with
    | true => exact alike_skipAll p'' q'' h''
    | false => exact (parallel_unclosedFrom hR _).alike p'' q'' h''
  · split
    · rename_i hat
      refine ((parallel_skipLineComment hR).alike p' q' h').bind
        (fun _ => preserves_skipAll hR) fun _ p'' q'' hp'' h'' => ?_
      have hlt : p''.cursor.remaining < p'.cursor.remaining := by
        have hconsumes := consumes_skipLineComment p' (current_of_isAt hat)
        rwa [hp''] at hconsumes
      exact alike_skipAll p'' q'' h''
    · exact .same h'
termination_by p.cursor.remaining

theorem parallel_skipOnce : skipOnce.Parallel R F P := by
  have hline : ∀ u : PUnit, Scan.Parallel (do
      if (← Scan.cursor).isAt '/' '/' then
        skipLineComment
        skipBlanks) R F P := by
    intro _
    refine parallel_cursor hR (fun c d hcd => by rw [hcd.isAt]) fun c => ?_
    split
    · exact (parallel_skipLineComment hR).bind fun _ => parallel_skipBlanks hR
    · exact parallel_pure _
  refine (parallel_skipBlanks hR).bind fun _ =>
    parallel_cursor hR (fun c d hcd => by rw [hcd.isAt]) fun c => ?_
  split
  · exact (parallel_skipBlockComment hR).bind fun _ => (parallel_skipBlanks hR).bind hline
  · exact hline ⟨⟩

theorem parallel_single (t : Token) : (single t).Parallel R F P :=
  (parallel_advance hR).bind fun _ => parallel_pure _

theorem parallel_oneOrTwo (rule : OperatorRule) : (oneOrTwo rule).Parallel R F P := by
  refine parallel_cursor hR (fun c d hcd => by rw [hcd.lookahead]) fun c => ?_
  split
  · exact (parallel_advance hR).bind fun _ => (parallel_advance hR).bind fun _ =>
      parallel_pure _
  · exact (parallel_advance hR).bind fun _ => parallel_pure _

theorem parallel_string : string.Parallel R F P := by
  refine (parallel_advance hR).bind fun _ => (parallel_takeWhile hR _).bind fun _ =>
    parallel_cursor hR (fun c d hcd => by rw [hcd.isExhausted]) fun c => ?_
  split
  · exact parallel_pure _
  · exact (parallel_advance hR).bind fun _ => parallel_pure _

theorem parallel_lexeme : lexeme.Parallel R F P := by
  refine parallel_cursor hR (fun c d hcd => by rw [hcd.current]) fun c => ?_
  split
  · exact parallel_pure _
  · rw [lexemeAt]
    split
    · exact parallel_single hR _
    · split
      · exact parallel_oneOrTwo hR _
      · split
        · exact parallel_string hR
        · split
          · exact (parallel_takeWhile hR _).bind fun _ => parallel_pure _
          · split
            · exact (parallel_takeWhile hR _).bind fun _ => parallel_pure _
            · exact parallel_single hR _

theorem parallel_skipTrivia (trivia : Trivia) : (skipTrivia trivia).Parallel R F P := by
  cases trivia with
  | strict => exact ⟨preserves_skipAll hR, alike_skipAll hR⟩
  | compatible => exact (parallel_skipOnce hR).bind fun _ => parallel_pure _

theorem parallel_scanToken (trivia : Trivia) : (scanToken trivia).Parallel R F P := by
  refine (parallel_skipTrivia hR trivia).bind fun found => ?_
  cases found with
  | some token => exact parallel_pure _
  | none => exact (parallel_lexeme hR).located hR

omit hR

variable {trivia : Trivia} {p : Progress} {t : Located Token}

theorem position_read (c : Cursor) : c.read.2.position = c.position := by
  rw [Cursor.read]
  split <;> rfl

theorem line_advance_le (c : Cursor) : c.position.line ≤ c.advance.2.position.line := by
  have hread := position_read c
  rw [Cursor.advance]
  split
  · exact Nat.le_refl _
  · split
    case h_1 heq =>
      rw [heq] at hread
      exact Nat.le_of_eq (congrArg Position.line hread).symm
    case h_2 ch _ _ d heq =>
      rw [heq] at hread
      have hposition : d.position = c.position := hread
      simp only [hposition, Position.line_advance]
      exact Nat.le_add_right _ _

theorem stable_line (n : Nat) : Stable fun p => n ≤ p.cursor.position.line :=
  ⟨fun p hp => Nat.le_trans hp (line_advance_le p.cursor), fun _ hp => hp⟩

theorem line_scanToken_le (trivia : Trivia) (p : Progress) :
    p.cursor.position.line ≤ (scanToken trivia p).2.cursor.position.line :=
  (parallel_scanToken (paired_of_stable (stable_line _)) trivia).preserves p (Nat.le_refl _)

theorem stop_skipAll (h : (skipAll p).1 = .ok (some t)) :
    t.span.stop = (skipAll p).2.cursor.position := by
  fun_induction skipAll p with
  | case3 p u he p' hat p'' hc ih => exact ih h
  | case4 p u he p' hat p'' hc =>
    obtain rfl := Option.some.inj (Except.ok.inj h)
    rfl
  | case6 p u he p' hat hl x hc ih => exact ih h
  | _ => simp at h

theorem stop_located {m : Scan Token} (h : (Scan.located m p).1 = .ok t) :
    t.span.stop = (Scan.located m p).2.cursor.position := by
  simp only [Scan.located, bind_apply, cursor_apply] at h ⊢
  generalize m p = r at h ⊢
  obtain ⟨result, q⟩ := r
  cases result with
  | error cause => simp at h
  | ok value =>
    obtain rfl := Except.ok.inj h
    rfl

/-- The token stops where its scan does. -/
theorem stop_scanToken (h : (scanToken trivia p).1 = .ok t) :
    t.span.stop = (scanToken trivia p).2.cursor.position := by
  have hskipped : ∀ u, (skipTrivia trivia p).1 = .ok (some u) →
      u.span.stop = (skipTrivia trivia p).2.cursor.position := by
    intro u hu
    cases trivia with
    | strict => exact stop_skipAll hu
    | compatible =>
      simp only [skipTrivia, bind_apply] at hu
      split at hu <;> simp at hu
  rw [scanToken, bind_apply] at h ⊢
  generalize skipTrivia trivia p = r at hskipped h ⊢
  obtain ⟨result, q⟩ := r
  cases result with
  | error cause => simp at h
  | ok found =>
    cases found with
    | some u =>
      obtain rfl := Except.ok.inj h
      exact hskipped _ rfl
    | none => exact stop_located h

end TokenDump.Lexer
