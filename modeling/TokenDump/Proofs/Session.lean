import Mathlib.Algebra.GroupWithZero.Nat
import Mathlib.Data.List.Basic
import TokenDump.Proofs.Calls

/-! # Sessions

A session is any sequence of calls of one lexer, with what each call answered and what it left
behind. What every call preserves holds all through a session. A call scans one token, or closes
the source, or does nothing. -/
namespace TokenDump.Lexer

open Log

inductive Call where
  | next
  | nextToken
  | pull
  | close
  /-- Looks at what the lexer shows, without changing it. -/
  | look
deriving DecidableEq

inductive Answer where
  | located (result : Except ReadError (Located Token))
  | token (result : Except ReadError Token)
  | pulled (result : Option (Except ReadError Token))
  | closed
  | seen (position : Position) (tally : Tally) (isDone : Bool) (origin : Option String)
      (settings : Settings.Scanning) (description : String)

def Answer.error? : Answer → Option ReadError
  | .located (.error error) | .token (.error error) | .pulled (some (.error error)) => some error
  | _ => none

structure Entry where
  call : Call
  before : Lexer
  answer : Answer
  after : Lexer
  notices : List Notice

def perform (l : Lexer) (call : Call) : Entry :=
  match call with
  | .next => ⟨call, l, .located l.next.result, l.next.lexer, l.next.notices⟩
  | .nextToken => ⟨call, l, .token l.nextToken.result, l.nextToken.lexer, l.nextToken.notices⟩
  | .pull => ⟨call, l, .pulled l.pull.1, l.pull.2.1, l.pull.2.2⟩
  | .close => ⟨call, l, .closed, l.close.1, l.close.2⟩
  | .look => ⟨call, l, .seen l.position l.tally l.isDone l.origin l.settings l.describe, l, []⟩

@[simp] theorem perform_before (l : Lexer) (call : Call) : (l.perform call).before = l := by
  cases call <;> rfl

@[simp] theorem perform_call (l : Lexer) (call : Call) : (l.perform call).call = call := by
  cases call <;> rfl

def session (l : Lexer) : List Call → List Entry
  | [] => []
  | call :: calls => l.perform call :: session (l.perform call).after calls

variable {l : Lexer} {calls : List Call} {past rest : List Entry} {e : Entry}

/-- What follows an entry is a session of the lexer that the entry has left. What the calls before
the entry preserve holds of the lexer before the entry. -/
theorem session_split {P : Lexer → Prop}
    (hstep : ∀ l call, l.perform call ∈ past → P l → P (l.perform call).after) (h : P l)
    (hs : session l calls = past ++ e :: rest) :
    ∃ before call later, P before ∧ e = before.perform call ∧ rest = session e.after later := by
  induction past generalizing l calls with
  | nil =>
    cases calls with
    | nil => simp [session] at hs
    | cons call calls =>
      obtain ⟨rfl, rfl⟩ := List.cons.inj hs
      exact ⟨l, call, calls, h, rfl, rfl⟩
  | cons first past ih =>
    cases calls with
    | nil => simp [session] at hs
    | cons call calls =>
      obtain ⟨rfl, htail⟩ := List.cons.inj hs
      refine ih (fun l call hm => hstep l call (List.mem_cons_of_mem _ hm)) ?_ htail
      exact hstep l call List.mem_cons_self h

theorem session_forall {P : Lexer → Prop} (hstep : ∀ l call, P l → P (l.perform call).after)
    (h : P l) (he : e ∈ session l calls) :
    ∃ before call, P before ∧ e = before.perform call ∧ P e.after := by
  obtain ⟨past, rest, hs⟩ := List.append_of_mem he
  obtain ⟨before, call, -, hbefore, rfl, -⟩ :=
    session_split (fun l call _ => hstep l call) h hs
  exact ⟨before, call, hbefore, rfl, hstep before call hbefore⟩

/-- What every call pays from a budget stays within the budget of the first lexer. -/
theorem session_sum_le {weight : Entry → Nat} {budget : Lexer → Nat}
    (hstep : ∀ l call, weight (l.perform call) + budget (l.perform call).after ≤ budget l)
    (l : Lexer) (calls : List Call) : ((session l calls).map weight).sum ≤ budget l := by
  induction calls generalizing l with
  | nil => exact Nat.zero_le _
  | cons call calls ih =>
    have hcall := hstep l call
    have hrest := ih (l.perform call).after
    simp only [session, List.map_cons, List.sum_cons]
    omega

variable {error : ReadError} {t : Located Token}

theorem pull_of_drained (h : l.isDrained = true) : l.pull = (none, l, []) := by
  rw [pull, if_pos h]

theorem pull_of_error (hd : l.isDrained = false) (h : l.next.result = .error error) :
    l.pull =
      (some (.error error), { l.next.lexer with isDrained := true }, l.next.notices) := by
  rw [pull, if_neg (by simp [hd])]
  simp [nextToken, Step.map, h, Except.map]

theorem pull_of_ok (hd : l.isDrained = false) (h : l.next.result = .ok t) :
    l.pull = if t.value.isEof then (none, { l.next.lexer with isDrained := true }, l.next.notices)
      else (some (.ok t.value), l.next.lexer, l.next.notices) := by
  rw [pull, if_neg (by simp [hd])]
  simp [nextToken, Step.map, h, Except.map]

theorem perform_drained (h : l.isDrained = true) :
    l.perform .pull = ⟨.pull, l, .pulled none, l, []⟩ := by
  simp only [perform, pull_of_drained h]

theorem next_isDrained (l : Lexer) : l.next.lexer.isDrained = l.isDrained := by
  rcases l.next_cases with ⟨e, hf, hn⟩ | ⟨hf, hd, hn⟩ | ⟨hf, hd, q, t, hn⟩ | ⟨hf, hd, q, e, hn⟩
  · rw [hn]
  · rw [hn]
  · rw [hn, record_lexer]
    rfl
  · rw [hn]
    rfl

/-- The answer says that the lexer has come to its end, or that it was closed. -/
def Entry.ends (e : Entry) : Prop :=
  match e.answer with
  | .located (.ok t) => t.value.isEof = true
  | .token (.ok t) => t.isEof = true
  | .pulled none => True
  | .closed => True
  | _ => False

def Entry.pulledErrors (e : Entry) : List ReadError :=
  match e.answer with
  | .pulled (some (.error error)) => [error]
  | _ => []

def Entry.completions (e : Entry) : List Notice := e.notices.filter (·.code = .scanComplete)

/-- An entry of a call that scans one token. Only pulling marks the lexer as drained, at the end and
at an error. -/
structure Scanned (l : Lexer) (e : Entry) : Prop where
  cursor : e.after.cursor = l.next.lexer.cursor
  tally : e.after.tally = l.next.lexer.tally
  failure : e.after.failure = l.next.lexer.failure
  isDone : e.after.isDone = l.next.lexer.isDone
  notices : e.notices = l.next.notices
  error : ∀ error, e.answer.error? = some error ↔ l.next.result = .error error
  ends : e.ends ↔ ∃ t, l.next.result = .ok t ∧ t.value.isEof = true
  drained : e.after.isDrained = true → l.isDrained = true ∨
    ∀ t, l.next.result = .ok t → t.value.isEof = true

structure Idle (l : Lexer) (e : Entry) : Prop where
  lexer : e.after = l
  notices : e.notices = []
  error : e.answer.error? = none
  ends : e.ends → l.isDrained = true

theorem scanned_next (l : Lexer) : Scanned l (l.perform .next) := by
  refine ⟨rfl, rfl, rfl, rfl, rfl, ?_, ?_, fun h => .inl (l.next_isDrained ▸ h)⟩ <;>
    cases hr : l.next.result <;> simp [perform, Answer.error?, Entry.ends, hr]

theorem scanned_nextToken (l : Lexer) : Scanned l (l.perform .nextToken) := by
  refine ⟨rfl, rfl, rfl, rfl, rfl, ?_, ?_, fun h => .inl (l.next_isDrained ▸ h)⟩ <;>
    cases hr : l.next.result <;>
      simp [perform, Answer.error?, Entry.ends, nextToken, Step.map, Except.map, hr]

theorem scanned_pull (hq : l.isDrained = false) : Scanned l (l.perform .pull) := by
  cases hr : l.next.result with
  | error e =>
    simp only [perform, pull_of_error hq hr]
    exact ⟨rfl, rfl, rfl, rfl, rfl, by simp [Answer.error?, hr], by simp [Entry.ends, hr],
      fun _ => .inr (by simp [hr])⟩
  | ok t =>
    cases ht : t.value.isEof with
    | true =>
      simp only [perform, pull_of_ok hq hr, ht, if_true]
      exact ⟨rfl, rfl, rfl, rfl, rfl, by simp [Answer.error?, hr], by simp [Entry.ends, hr, ht],
        fun _ => .inr (by simp [hr, ht])⟩
    | false =>
      simp only [perform, pull_of_ok hq hr, ht, Bool.false_eq_true, if_false]
      exact ⟨rfl, rfl, rfl, rfl, rfl, by simp [Answer.error?, hr], by simp [Entry.ends, hr, ht],
        fun h => .inl (l.next_isDrained ▸ h)⟩

/-- What a call can do: scan one token, close, or nothing. -/
theorem perform_cases (l : Lexer) (call : Call) :
    Scanned l (l.perform call) ∨ call = .close ∨ Idle l (l.perform call) := by
  cases call with
  | next => exact .inl (scanned_next l)
  | nextToken => exact .inl (scanned_nextToken l)
  | pull =>
    by_cases hq : l.isDrained = true
    · rw [perform_drained hq]
      exact .inr (.inr ⟨rfl, rfl, rfl, fun _ => hq⟩)
    · exact .inl (scanned_pull (by simpa using hq))
  | close => exact .inr (.inl rfl)
  | look => exact .inr (.inr ⟨rfl, rfl, rfl, fun h => by simp [Entry.ends, perform] at h⟩)

theorem completions_close (l : Lexer) : (l.perform .close).completions = [] := by
  simp only [Entry.completions, perform, close]
  split <;> rfl

end TokenDump.Lexer
