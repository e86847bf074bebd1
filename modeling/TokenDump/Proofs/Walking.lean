import Mathlib.Logic.Function.Iterate
import TokenDump.Proofs.Window

/-! # Walking over a text

A cursor with nothing but ends behind its text goes over the text step by step, however often it
is moved. -/
namespace TokenDump.Cursor

/-- The cursor is on the first character of the text, and behind the text there are only ends. -/
structure Holds (c : Cursor) (text : List Char) : Prop where
  pending : ∃ n, c.pending = (text.drop 2).map .char ++ List.replicate n .finish
  current : c.current = text[0]?
  lookahead : c.lookahead = text[1]?
  isClosed : c.isClosed = false

/-- The cursor after `k` steps. -/
def after (c : Cursor) (k : Nat) : Cursor := (fun d => d.advance.2)^[k] c

/-- After `k` steps the cursor is on the character of the text with the number `k`. -/
def Walks (c : Cursor) (text : List Char) : Prop :=
  ∀ k, (c.after k).current = text[k]? ∧ (c.after k).lookahead = text[k + 1]? ∧
    (c.after k).position = Position.start.advanceOver (text.take k) ∧
    (c.after k).advance.1 = .ok text[k]?

variable {c : Cursor} {text : List Char}

theorem after_succ (c : Cursor) (k : Nat) : c.after (k + 1) = (c.after k).advance.2 :=
  Function.iterate_succ_apply' _ k c

theorem Holds.advance (h : c.Holds text) : c.advance.1 = .ok text[0]? ∧
    c.advance.2.Holds text.tail ∧ c.advance.2.position = c.position.advanceOver (text.take 1) := by
  obtain ⟨pending, current, lookahead, position, isClosed⟩ := c
  obtain ⟨⟨n, hp⟩, hc, hl, hcl⟩ := h
  simp only at hp hc hl hcl
  subst hp hc hl hcl
  match text with
  | [] => exact ⟨rfl, ⟨⟨n, rfl⟩, rfl, rfl, rfl⟩, rfl⟩
  | [a] => cases n with
    | zero => exact ⟨rfl, ⟨⟨0, rfl⟩, rfl, rfl, rfl⟩, rfl⟩
    | succ n => exact ⟨rfl, ⟨⟨n, rfl⟩, rfl, rfl, rfl⟩, rfl⟩
  | [a, b] => cases n with
    | zero => exact ⟨rfl, ⟨⟨0, rfl⟩, rfl, rfl, rfl⟩, rfl⟩
    | succ n => exact ⟨rfl, ⟨⟨n, rfl⟩, rfl, rfl, rfl⟩, rfl⟩
  | a :: b :: d :: rest => exact ⟨rfl, ⟨⟨n, rfl⟩, rfl, rfl, rfl⟩, rfl⟩

theorem Holds.after (h : c.Holds text) (k : Nat) : (c.after k).Holds (text.drop k) ∧
    (c.after k).position = c.position.advanceOver (text.take k) := by
  induction k with
  | zero => exact ⟨h, rfl⟩
  | succ k ih =>
    obtain ⟨hk, hpos⟩ := ih
    obtain ⟨-, hstep, hpos'⟩ := hk.advance
    rw [after_succ, hpos', hpos, ← Position.advanceOver_append, ← List.take_add]
    exact ⟨by simpa using hstep, rfl⟩

theorem Holds.walks (h : c.Holds text) (hp : c.position = .start) : c.Walks text := by
  intro k
  obtain ⟨hk, hpos⟩ := h.after k
  refine ⟨?_, ?_, by rw [hpos, hp], ?_⟩
  · simpa using hk.current
  · simpa using hk.lookahead
  · simpa using hk.advance.1

theorem Holds.shows (h : c.Holds text) : c.Shows none text := by
  obtain ⟨pending, current, lookahead, position, isClosed⟩ := c
  obtain ⟨⟨n, hp⟩, hc, hl, hcl⟩ := h
  simp only at hp hc hl hcl
  subst hp hc hl hcl
  match text with
  | [] => exact .empty rfl
  | [a] =>
    refine .last rfl fun cause => ?_
    cases n <;> simp [List.replicate_succ]
  | a :: b :: rest =>
    refine .ahead ?_
    cases n with
    | zero => exact .inl rfl
    | succ n =>
      refine .inr ⟨_, rfl, fun cause => ?_⟩
      cases n <;> simp [List.replicate_succ]

theorem holds_ofText (text : List Char) : (Cursor.ofText text).Holds text :=
  ⟨⟨0, by simp [Cursor.ofText]⟩, rfl, rfl, rfl⟩

end TokenDump.Cursor
