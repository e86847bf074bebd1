import TokenDump.Span
import TokenDump.Source.Cursor

/-! # Scans

A scan moves a cursor and ends with a result or with the fault that stopped it; either way the
cursor stays where the scan left it. On its way it counts the comments that it enters. -/
namespace TokenDump.Lexer

structure Progress where
  cursor : Cursor
  /-- Comments entered so far. -/
  comments : Nat
deriving DecidableEq

def Scan (α : Type) : Type := Progress → Except Fault α × Progress

namespace Scan

instance : Monad Scan where
  pure a := fun p => (.ok a, p)
  bind m f := fun p =>
    match m p with
    | (.ok a, p) => f a p
    | (.error cause, p) => (.error cause, p)

/-- A movement of the cursor. -/
def move {α : Type} (f : Cursor → Except Fault α × Cursor) : Scan α := fun p =>
  ((f p.cursor).1, { p with cursor := (f p.cursor).2 })

/-- Passes the current character, if there is one. -/
def advance : Scan Unit := do
  let _ ← move Cursor.advance
  return ()

/-- Passes characters as long as `p` holds of the current one and the one after it. -/
def takeWhile (p : Char → Option Char → Bool) : Scan (List Char) := move (Cursor.takeWhile p)

def cursor : Scan Cursor := fun p => (.ok p.cursor, p)

def enterComment : Scan Unit := fun p => (.ok (), { p with comments := p.comments + 1 })

/-- The value that `m` gives, with the stretch that `m` passes. -/
def located {α : Type} (m : Scan α) : Scan (Located α) := do
  let start := (← cursor).position
  let value ← m
  return ⟨value, start, (← cursor).position⟩

@[simp] theorem pure_apply {α : Type} (a : α) (p : Progress) : (pure a : Scan α) p = (.ok a, p) :=
  rfl

theorem bind_apply {α β : Type} (m : Scan α) (f : α → Scan β) (p : Progress) :
    (m >>= f) p = match m p with
      | (.ok a, p) => f a p
      | (.error cause, p) => (.error cause, p) := rfl

@[simp] theorem cursor_apply (p : Progress) : cursor p = (.ok p.cursor, p) := rfl

/-- A scan that never moves its cursor back. -/
def Forward {α : Type} (m : Scan α) : Prop :=
  ∀ p, (m p).2.cursor.remaining ≤ p.cursor.remaining

/-- A scan that passes a character, or loses a fault, whenever there is a current character. -/
def Consumes {α : Type} (m : Scan α) : Prop :=
  ∀ p, p.cursor.current ≠ none → (m p).2.cursor.remaining < p.cursor.remaining

theorem forward_pure {α : Type} (a : α) : Forward (pure a : Scan α) := fun _ => Nat.le_refl _

theorem forward_cursor : Forward cursor := fun _ => Nat.le_refl _

theorem forward_enterComment : Forward enterComment := fun _ => Nat.le_refl _

theorem forward_bind {α β : Type} {m : Scan α} {f : α → Scan β} (hm : Forward m)
    (hf : ∀ a, Forward (f a)) : Forward (m >>= f) := by
  intro p
  have h := hm p
  rw [bind_apply]
  split <;> rename_i heq <;> rw [heq] at h
  · exact Nat.le_trans (hf _ _) h
  · exact h

theorem consumes_bind {α β : Type} {m : Scan α} {f : α → Scan β} (hm : Consumes m)
    (hf : ∀ a, Forward (f a)) : Consumes (m >>= f) := by
  intro p hp
  have h := hm p hp
  rw [bind_apply]
  split <;> rename_i heq <;> rw [heq] at h
  · exact Nat.lt_of_le_of_lt (hf _ _) h
  · exact h

theorem forward_advance : Forward advance := by
  apply forward_bind
  · intro p
    exact Cursor.remaining_advance_le p.cursor
  · exact fun _ => forward_pure _

theorem consumes_advance : Consumes advance := by
  apply consumes_bind
  · intro p hp
    exact Cursor.remaining_advance_lt hp
  · exact fun _ => forward_pure _

theorem forward_takeWhile (p : Char → Option Char → Bool) : Forward (takeWhile p) := fun q =>
  Cursor.remaining_takeWhile_le p q.cursor

end Scan
end TokenDump.Lexer
