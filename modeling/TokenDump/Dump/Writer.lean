import TokenDump.Fault
import TokenDump.Text.Utf8

/-! # Writers

A writer takes as many bytes of a chunk as it likes, or fails. It may ask for the call to be made
again, but not for ever. A delivery keeps account of what a writer has taken. -/
namespace TokenDump.Dump

/-- How a writer answers to a chunk that is not empty. -/
inductive Answer where
  /-- Bytes taken from the front of the chunk; more than there are means all of them. -/
  | took (count : Nat)
  /-- Nothing was taken; the call may be made again. -/
  | again
  | failed (cause : Fault)
deriving DecidableEq

structure Writer (σ : Type) where
  write : σ → Bytes → Answer × σ
  flush : σ → Option Fault × σ
  /-- Bounds the calls that have to be made again from a state. -/
  patience : σ → Nat
  patience_lt : ∀ s chunk, (write s chunk).1 = .again →
    patience (write s chunk).2 < patience s

/-- A writer in use. -/
structure Delivery (σ : Type) where
  writer : Writer σ
  state : σ
  /-- The bytes taken so far, as an array because more are added at its end. -/
  received : Array UInt8
  /-- Calls to flush so far. -/
  flushes : Nat

namespace Delivery

variable {σ : Type}

def start (writer : Writer σ) (state : σ) : Delivery σ := ⟨writer, state, #[], 0⟩

/-- The bytes taken so far. -/
def taken (d : Delivery σ) : Bytes := d.received.toList

/-- Hands a chunk over until all of it is taken. Taking nothing counts as a failure. -/
def put (d : Delivery σ) (chunk : Bytes) : Except Fault Unit × Delivery σ :=
  match chunk with
  | [] => (.ok ⟨⟩, d)
  | b :: rest =>
    match _h : d.writer.write d.state (b :: rest) with
    | (.took 0, state) => (.error .writeZero, { d with state })
    | (.took (n + 1), state) =>
      put { d with state, received := d.received ++ b :: rest.take n } (rest.drop n)
    | (.again, state) => put { d with state } (b :: rest)
    | (.failed cause, state) => (.error cause, { d with state })
termination_by (chunk.length, d.writer.patience d.state)
decreasing_by
  · apply Prod.Lex.left
    simp only [List.length_drop, List.length_cons]; omega
  · apply Prod.Lex.right
    have := d.writer.patience_lt d.state (b :: rest) (by rw [_h])
    rwa [_h] at this

/-- A chunk that was handed over was taken as a whole. -/
theorem size_put {d : Delivery σ} {chunk : Bytes} (h : (d.put chunk).1 = .ok ⟨⟩) :
    (d.put chunk).2.received.size = d.received.size + chunk.length := by
  fun_induction put d chunk with
  | case1 => simp
  | case2 => simp at h
  | case3 d b rest n state hw ih =>
    rw [ih h]
    simp only [← Array.length_toList, Array.toList_appendList, List.length_append,
      List.length_cons, List.length_take, List.length_drop]
    omega
  | case4 d b rest state hw ih => exact ih h
  | case5 => simp at h

/-- Asks the writer to pass on what it has taken. -/
def flush (d : Delivery σ) : Except Fault Unit × Delivery σ :=
  let (fault, state) := d.writer.flush d.state
  let d := { d with state, flushes := d.flushes + 1 }
  match fault with
  | none => (.ok ⟨⟩, d)
  | some cause => (.error cause, d)

end Delivery

/-- A writer that takes everything. -/
def Writer.memory : Writer Unit where
  write _ chunk := (.took chunk.length, ⟨⟩)
  flush _ := (none, ⟨⟩)
  patience _ := 0
  patience_lt := by simp

/-- Limits of a writer. -/
structure Throttle where
  /-- Most bytes taken in one call. -/
  chunk : Option Nat
  /-- Most bytes taken in all. -/
  limit : Option Nat
  /-- How a call ends when the limit is reached; without it nothing is taken. -/
  atLimit : Option Fault
  /-- Whether every other call, the first one among them, has to be made again. -/
  interrupts : Bool
  /-- How flushing ends, if not well. -/
  atFlush : Option Fault

/-- What a throttled writer remembers: the bytes taken and the calls made. -/
structure Throttle.State where
  taken : Nat
  calls : Nat

/-- A writer with limits. -/
def Writer.throttled (t : Throttle) : Writer Throttle.State where
  write s chunk :=
    let s' := { s with calls := s.calls + 1 }
    if t.interrupts && s.calls % 2 == 0 then (.again, s')
    else
      let count := min chunk.length (t.chunk.getD chunk.length)
      match t.limit with
      | none => (.took count, { s' with taken := s.taken + count })
      | some limit =>
        if limit ≤ s.taken then
          match t.atLimit with
          | some cause => (.failed cause, s')
          | none => (.took 0, s')
        else
          let count := min count (limit - s.taken)
          (.took count, { s' with taken := s.taken + count })
  flush s := (t.atFlush, s)
  patience s := if s.calls % 2 == 0 then 1 else 0
  patience_lt s chunk h := by
    simp only at h ⊢
    split at h
    · rename_i hi
      simp only [Bool.and_eq_true, beq_iff_eq] at hi
      have : (s.calls + 1) % 2 = 1 := by omega
      simp [hi.1, hi.2, this]
    · split at h
      · simp at h
      · split at h
        · split at h <;> simp at h
        · simp at h

end TokenDump.Dump
