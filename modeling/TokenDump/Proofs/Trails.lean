import TokenDump.Proofs.Retrying
import TokenDump.Proofs.Segmentation
import TokenDump.Proofs.Stability
import TokenDump.Proofs.Walking

/-! # The trail of a scan

A scan that succeeds passes the next characters of its source, one after the other, and does
nothing else to its cursor. The span of its token covers the last of them, at least one unless the
token is the end token. However a scan ends, it has made finitely many steps. -/
namespace TokenDump

namespace Cursor

/-- The characters not passed yet. -/
def ahead (c : Cursor) : List Char := c.window ++ Reading.chars c.pending

/-- The second cursor has passed these characters since the first one. -/
structure Trail (c d : Cursor) (passed : List Char) : Prop where
  ahead : c.ahead = passed ++ d.ahead
  position : d.position = c.position.advanceOver passed
  still : passed = [] → d = c

variable {c d e : Cursor} {passed more : List Char} {r : Except Fault (Option Char)}

theorem trail_refl (c : Cursor) : c.Trail c [] := ⟨rfl, rfl, fun _ => rfl⟩

theorem Trail.trans (h : c.Trail d passed) (h' : d.Trail e more) :
    c.Trail e (passed ++ more) := by
  refine ⟨?_, ?_, fun hnil => ?_⟩
  · rw [h.ahead, h'.ahead, List.append_assoc]
  · rw [h'.position, h.position, Position.advanceOver_append]
  · obtain ⟨hpassed, hmore⟩ := List.append_eq_nil_iff.mp hnil
    rw [h'.still hmore, h.still hpassed]

theorem Trail.offset (h : c.Trail d passed) :
    d.position.offset = c.position.offset + Utf8.size passed := by
  rw [h.position, Position.offset_advanceOver]

theorem trail_advance {taken : Option Char} (h : c.advance = (.ok taken, d)) :
    c.Trail d taken.toList := by
  obtain ⟨pending, current, lookahead, position, isClosed⟩ := c
  cases current with
  | none =>
    obtain ⟨htaken, rfl⟩ := Prod.mk.inj h
    obtain rfl : none = taken := Except.ok.inj htaken
    exact trail_refl _
  | some ch =>
    match pending with
    | [] | .char _ :: _ | .finish :: _ =>
      simp only [advance, read, Prod.mk.injEq, Except.ok.injEq] at h
      obtain ⟨rfl, rfl⟩ := h
      refine ⟨?_, rfl, by simp⟩
      simp [Cursor.ahead, window, Reading.chars]
    | .fault _ :: _ => simp [advance, read] at h

/-- The cursor has come here in steps that the length of the source bounds. -/
def Reaches (c d : Cursor) : Prop := ∃ k, d = c.after k ∧ k + d.remaining ≤ c.remaining

theorem reaches_refl (c : Cursor) : c.Reaches c := ⟨0, rfl, by omega⟩

theorem Reaches.advance (h : c.Reaches d) : c.Reaches d.advance.2 := by
  obtain ⟨k, hk, hle⟩ := h
  cases hd : d.current with
  | none =>
    have hstay : d.advance.2 = d := by rw [Cursor.advance, hd]
    exact ⟨k, by rw [hstay, hk], by rw [hstay]; exact hle⟩
  | some ch =>
    have hlt := remaining_advance_lt (c := d) (by simp [hd])
    refine ⟨k + 1, ?_, by omega⟩
    rw [hk, after_succ]

theorem pending_advance (c : Cursor) : c.advance.2.pending <:+ c.pending := by
  obtain ⟨pending, current, lookahead, position, isClosed⟩ := c
  cases current with
  | none => exact List.suffix_refl _
  | some ch =>
    match pending with
    | [] => exact List.suffix_refl _
    | .char _ :: _ | .finish :: _ | .fault _ :: _ => exact List.suffix_cons _ _

theorem pending_after (c : Cursor) (k : Nat) : (c.after k).pending <:+ c.pending := by
  induction k with
  | zero => exact List.suffix_refl _
  | succ k ih =>
    rw [after_succ]
    exact (pending_advance _).trans ih

theorem Reaches.pending (h : c.Reaches d) : d.pending <:+ c.pending := by
  obtain ⟨k, rfl, -⟩ := h
  exact pending_after c k

end Cursor

namespace Lexer

open Scan Cursor

/-- A progress in step with itself that has a trail behind it. -/
def Treads (c : Cursor) (p q : Progress) : Prop := p = q ∧ ∃ passed, c.Trail p.cursor passed

/-- A token was scanned between the two cursors: a gap was passed and then what the token covers. -/
def Finds (c d : Cursor) (t : Located Token) : Prop :=
  ∃ m gap covered, c.Trail m gap ∧ m.Trail d covered ∧ t.span = ⟨m.position, d.position⟩ ∧
    (t.value.isEof = false → covered ≠ [])

variable {α : Type} {c d e : Cursor} {passed : List Char} {p : Progress} {t : Located Token}
  {trivia : Trivia}

theorem paired_treads (c : Cursor) :
    Paired (Treads c) (fun _ _ => True) (fun _ => True) := by
  refine ⟨⟨fun _ _ => trivial, fun _ _ => trivial⟩, ?_, ?_, ?_⟩
  · rintro p q ⟨rfl, -⟩
    exact ⟨rfl, rfl, rfl⟩
  · rintro p q ⟨rfl, htrail⟩
    exact ⟨rfl, htrail⟩
  · rintro p q ⟨rfl, passed, htrail⟩
    rw [move]
    cases hr : p.cursor.advance with | mk result d =>
    cases result with
    | error fault => exact .apart trivial trivial
    | ok taken => exact .same ⟨rfl, _, htrail.trans (trail_advance hr)⟩

/-- A scan that succeeds leaves a trail. -/
theorem Scan.Parallel.trail {m : Scan α} {a : α}
    (hm : ∀ c, m.Parallel (Treads c) (fun _ _ => True) (fun _ => True)) (h : (m p).1 = .ok a) :
    ∃ passed, p.cursor.Trail (m p).2.cursor passed := by
  have halike := (hm p.cursor).alike p p ⟨rfl, [], trail_refl _⟩
  generalize m p = r at halike h ⊢
  cases halike with
  | same inStep => exact inStep.2
  | apart stopped past => simp at h

/-- What gets a scan nearer to the end is more than nothing. -/
theorem ne_nil_of_remaining_lt (h : c.Trail d passed) (hlt : d.remaining < c.remaining) :
    passed ≠ [] := by
  intro hnil
  rw [h.still hnil] at hlt
  exact Nat.lt_irrefl _ hlt

theorem Finds.trans (h : Finds d e t) (hc : c.Trail d passed) : Finds c e t := by
  obtain ⟨m, gap, covered, hgap, hcovered, hspan⟩ := h
  exact ⟨m, passed ++ gap, covered, hc.trans hgap, hcovered, hspan⟩

theorem finds_skipAll (h : (skipAll p).1 = .ok (some t)) :
    Finds p.cursor (skipAll p).2.cursor t := by
  have hblanks : ∀ p u, (skipBlanks p).1 = .ok u →
      ∃ passed, p.cursor.Trail (skipBlanks p).2.cursor passed := fun p u hu =>
    Scan.Parallel.trail (fun c => parallel_skipBlanks (paired_treads c)) hu
  have hblock : ∀ p closed, (skipBlockComment p).1 = .ok closed →
      ∃ passed, p.cursor.Trail (skipBlockComment p).2.cursor passed := fun p closed hc =>
    Scan.Parallel.trail (fun c => parallel_skipBlockComment (paired_treads c)) hc
  have hline : ∀ p u, (skipLineComment p).1 = .ok u →
      ∃ passed, p.cursor.Trail (skipLineComment p).2.cursor passed := fun p u hu =>
    Scan.Parallel.trail (fun c => parallel_skipLineComment (paired_treads c)) hu
  fun_induction skipAll p with
  | case3 p u he p' hat p'' hc ih =>
    obtain ⟨passed, htrail⟩ := hblanks p u he
    obtain ⟨comment, hcomment⟩ := hblock p' true hc
    exact ((ih h).trans hcomment).trans htrail
  | case4 p u he p' hat p'' hc =>
    obtain ⟨passed, htrail⟩ := hblanks p u he
    obtain ⟨covered, hcovered⟩ := hblock p' false hc
    obtain rfl := Option.some.inj (Except.ok.inj h)
    refine ⟨p'.cursor, passed, covered, htrail, hcovered, rfl, fun _ => ?_⟩
    exact ne_nil_of_remaining_lt hcovered
      (consumes_skipBlockComment p' (current_of_isAt hat))
  | case6 p u he p' hat hl x hc ih =>
    obtain ⟨passed, htrail⟩ := hblanks p u he
    obtain ⟨comment, hcomment⟩ := hline p' x hc
    exact ((ih h).trans hcomment).trans htrail
  | _ => simp at h

theorem finds_lexeme (h : (located lexeme p).1 = .ok t) :
    Finds p.cursor (located lexeme p).2.cursor t := by
  have htrail : ∀ u, (lexeme p).1 = .ok u →
      ∃ covered, p.cursor.Trail (lexeme p).2.cursor covered := fun u hu =>
    Scan.Parallel.trail (fun c => parallel_lexeme (paired_treads c)) hu
  have hlt : ∀ u, (lexeme p).1 = .ok u → u.isEof = false →
      (lexeme p).2.cursor.remaining < p.cursor.remaining := by
    intro u hu hne
    rw [lexeme_apply] at hu ⊢
    cases hc : p.cursor.current with
    | none =>
      simp only [hc] at hu
      obtain rfl := Except.ok.inj hu
      simp [Token.isEof, Token.eof] at hne
    | some c => exact remaining_lexemeAt_lt hc
  simp only [located, bind_apply, cursor_apply] at h ⊢
  generalize lexeme p = r at htrail hlt h ⊢
  obtain ⟨result, q⟩ := r
  cases result with
  | error cause => simp at h
  | ok u =>
    obtain rfl := Except.ok.inj h
    obtain ⟨covered, hcovered⟩ := htrail u rfl
    exact ⟨p.cursor, [], covered, trail_refl _, hcovered, rfl, fun hne =>
      ne_nil_of_remaining_lt hcovered (hlt u rfl hne)⟩

/-- A scan that gives a token has found it on its way. -/
theorem finds_scanToken (h : (scanToken trivia p).1 = .ok t) :
    Finds p.cursor (scanToken trivia p).2.cursor t := by
  have hfound : ∀ u, (skipTrivia trivia p).1 = .ok (some u) →
      Finds p.cursor (skipTrivia trivia p).2.cursor u := by
    intro u hu
    cases trivia with
    | strict => exact finds_skipAll hu
    | compatible =>
      simp only [skipTrivia, bind_apply] at hu
      split at hu <;> simp at hu
  have htrail : ∀ found, (skipTrivia trivia p).1 = .ok found →
      ∃ gap, p.cursor.Trail (skipTrivia trivia p).2.cursor gap := fun found hf =>
    Scan.Parallel.trail (fun c => parallel_skipTrivia (paired_treads c) trivia) hf
  rw [scanToken, bind_apply] at h ⊢
  generalize skipTrivia trivia p = r at hfound htrail h ⊢
  obtain ⟨result, q⟩ := r
  cases result with
  | error cause => simp at h
  | ok found =>
    obtain ⟨gap, hgap⟩ := htrail found rfl
    cases found with
    | some u =>
      obtain rfl := Except.ok.inj h
      exact hfound _ rfl
    | none => exact (finds_lexeme h).trans hgap

theorem reaches_scanToken (trivia : Trivia) (p : Progress) :
    p.cursor.Reaches (scanToken trivia p).2.cursor := by
  have hstable : Stable fun q => p.cursor.Reaches q.cursor :=
    ⟨fun _ hq => hq.advance, fun _ hq => hq⟩
  exact (parallel_scanToken (paired_of_stable hstable) trivia).preserves p (reaches_refl _)

end Lexer
end TokenDump
