import Mathlib.Data.List.Basic
import TokenDump.Source.Cursor

/-! # What a cursor shows

A cursor has decoded two characters of a text, and the rest of the text is pending. Behind the
text stands its end, or a fault. Moving over characters does the same in both cases, but a fault
is met as soon as only two characters are left before it. -/
namespace TokenDump.Cursor

/-- What stands behind a text. The last character is passed by reading once more after the end, so
an end that a fault follows at once is none. -/
def StopsAt : Option Fault → List Reading → Prop
  | none, pending =>
    pending = [] ∨ ∃ more, pending = .finish :: more ∧ ∀ cause, more.head? ≠ some (.fault cause)
  | some fault, pending => ∃ more, pending = .fault fault :: more

/-- An open cursor on the first character of a text, with `stop` behind the text. A cursor that
meets a fault never gets past the last two characters. -/
inductive Shows (stop : Option Fault) : Cursor → List Char → Prop
  | ahead {a b : Char} {rest : List Char} {pending : List Reading} {position : Position}
      (behind : StopsAt stop pending) :
      Shows stop ⟨rest.map .char ++ pending, some a, some b, position, false⟩ (a :: b :: rest)
  | last {a : Char} {pending : List Reading} {position : Position} (calm : stop = none)
      (noFault : ∀ cause, pending.head? ≠ some (.fault cause)) :
      Shows stop ⟨pending, some a, none, position, false⟩ [a]
  | empty {pending : List Reading} {lookahead : Option Char} {position : Position}
      (calm : stop = none) : Shows stop ⟨pending, none, lookahead, position, false⟩ []

variable {stop : Option Fault} {c : Cursor} {text : List Char}

theorem Shows.current (h : c.Shows stop text) : c.current = text.head? := by
  cases h <;> rfl

theorem Shows.lookahead {a : Char} (h : c.Shows stop (a :: text)) : c.lookahead = text.head? := by
  cases h <;> rfl

theorem Shows.isExhausted (h : c.Shows stop text) : c.isExhausted = text.isEmpty := by
  cases h <;> rfl

theorem Shows.two_le (h : c.Shows stop text) (hs : stop ≠ none) : 2 ≤ text.length := by
  cases h with
  | ahead behind => simp
  | last calm _ => exact absurd calm hs
  | empty calm => exact absurd calm hs

theorem Shows.isAt (h : c.Shows stop text) (first second : Char) :
    c.isAt first second = true ↔ [first, second] <+: text := by
  cases h with
  | ahead behind => simp [Cursor.isAt, eq_comm (b := first), eq_comm (b := second)]
  | last calm noFault => simp [Cursor.isAt]
  | empty calm => simp [Cursor.isAt]

theorem Shows.advance {a : Char} (h : c.Shows stop (a :: text))
    (ht : stop ≠ none → 2 ≤ text.length) :
    c.advance.1 = .ok (some a) ∧ c.advance.2.Shows stop text ∧
      c.advance.2.position = c.position.advance a := by
  cases h with
  | @ahead _ b rest pending position behind =>
    cases rest with
    | cons d rest => exact ⟨rfl, .ahead behind, rfl⟩
    | nil =>
      have hs : stop = none := by
        by_contra hs
        simpa using ht hs
      subst hs
      rcases behind with rfl | ⟨more, rfl, hm⟩
      · exact ⟨rfl, .last rfl (by simp), rfl⟩
      · exact ⟨rfl, .last rfl hm, rfl⟩
  | @last _ pending position calm noFault =>
    cases pending with
    | nil => exact ⟨rfl, .empty calm, rfl⟩
    | cons r pending =>
      cases r with
      | fault cause => exact absurd rfl (noFault cause)
      | char d => exact ⟨rfl, .empty calm, rfl⟩
      | finish => exact ⟨rfl, .empty calm, rfl⟩

/-- The end of a move that was to go from `start` over `taken`, with `rest` behind it: it has come
there, or a fault has stopped it two characters before the end of the text. -/
inductive Moved {α : Type} (stop : Option Fault) (value : α) (start : Position)
    (taken rest : List Char) : Except Fault α × Cursor → Prop
  | done {c : Cursor} (shown : c.Shows stop rest)
      (position : c.position = start.advanceOver taken) :
      Moved stop value start taken rest (.ok value, c)
  | stopped {fault : Fault} {c : Cursor} {a b : Char} (before : List Char)
      (faulty : stop = some fault) (short : rest.length < 2)
      (split : taken ++ rest = before ++ [a, b])
      (position : c.position = start.advanceOver before)
      (current : c.current = some a) (lookahead : c.lookahead = some b) :
      Moved stop value start taken rest (.error fault, c)

theorem Moved.prepend {α : Type} {value : α} {start : Position} {taken more rest : List Char}
    {r : Except Fault α × Cursor}
    (h : Moved stop value (start.advanceOver taken) more rest r) :
    Moved stop value start (taken ++ more) rest r := by
  cases h with
  | done hs hpos => exact .done hs (by rw [hpos, Position.advanceOver_append])
  | stopped before hf hr he hpos hc hl =>
    refine .stopped (taken ++ before) hf hr ?_ (by rw [hpos, Position.advanceOver_append]) hc hl
    rw [List.append_assoc, he, List.append_assoc]

theorem Shows.advance_stopped {a : Char} {fault : Fault} (h : c.Shows (some fault) (a :: text))
    (ht : text.length < 2) :
    ∃ b, text = [b] ∧ c.advance.1 = .error fault ∧ c.advance.2.current = some a ∧
      c.advance.2.lookahead = some b ∧ c.advance.2.position = c.position := by
  cases h with
  | @ahead _ b rest pending position behind =>
    obtain ⟨more, rfl⟩ := behind
    cases rest with
    | nil => exact ⟨b, rfl, rfl, rfl, rfl, rfl⟩
    | cons d rest => simp only [List.length_cons] at ht; omega
  | last calm _ => simp at calm

/-- The characters of `taken` satisfy `p`, each with the character after it, and the first one of
`rest` does not. -/
def Runs (p : Char → Option Char → Bool) : List Char → List Char → Prop
  | [], rest => ∀ d ∈ rest.head?, p d rest.tail.head? = false
  | d :: taken, rest => p d (taken ++ rest).head? = true ∧ Runs p taken rest

theorem runs_iff {p : Char → Bool} {taken rest : List Char} :
    Runs (fun d _ => p d) taken rest ↔
      (∀ d ∈ taken, p d = true) ∧ ∀ d ∈ rest.head?, p d = false := by
  induction taken with
  | nil => simp [Runs]
  | cons d taken ih => simp [Runs, ih, and_assoc]

theorem Shows.takeWhile_cons {p : Char → Option Char → Bool} {d : Char} {rest : List Char}
    (h : c.Shows stop (d :: rest)) (hp : p d rest.head? = true) : c.takeWhile p =
      match c.advance.1 with
      | .error cause => (.error cause, c.advance.2)
      | .ok _ => ((c.advance.2.takeWhile p).1.map (d :: ·), (c.advance.2.takeWhile p).2) := by
  rw [Cursor.takeWhile]
  split
  · rename_i hc
    simp [h.current] at hc
  · rename_i ch hc
    obtain rfl : d = ch := by simpa [h.current] using hc
    have hl : p d c.lookahead = true := by
      rw [h.lookahead]
      exact hp
    exact if_pos hl

theorem Shows.takeWhile {p : Char → Option Char → Bool} {taken rest : List Char}
    (h : c.Shows stop (taken ++ rest)) (hr : Runs p taken rest) :
    Moved stop taken c.position taken rest (c.takeWhile p) := by
  induction taken generalizing c with
  | nil =>
    have hdone : c.takeWhile p = (.ok [], c) := by
      rw [Cursor.takeWhile]
      split
      · rfl
      · rename_i ch hc
        cases rest with
        | nil => simp [h.current] at hc
        | cons d rest =>
          obtain rfl : d = ch := by simpa [h.current] using hc
          have hp : p d rest.head? = false := hr d rfl
          simp [h.lookahead, hp]
    rw [hdone]
    exact .done h rfl
  | cons d taken ih =>
    obtain ⟨hp, hr⟩ := hr
    rw [Shows.takeWhile_cons h hp]
    by_cases ht : stop ≠ none → 2 ≤ (taken ++ rest).length
    · obtain ⟨ha, hs, hpos⟩ := Shows.advance h ht
      rw [ha]
      have hm := ih hs hr
      generalize c.advance.2.takeWhile p = r at hm
      cases hm with
      | done hs' hpos' => exact .done hs' (by rw [hpos', hpos]; rfl)
      | stopped before hf hl he hpos' hc hl' =>
        refine .stopped (d :: before) hf hl (by simp [he]) ?_ hc hl'
        rw [hpos', hpos]; rfl
    · obtain ⟨hs, hlen⟩ : stop ≠ none ∧ (taken ++ rest).length < 2 := by
        simpa using ht
      obtain ⟨fault, rfl⟩ := Option.ne_none_iff_exists'.mp hs
      obtain ⟨b, hb, ha, hc, hl, hpos⟩ := Shows.advance_stopped h hlen
      rw [ha]
      refine .stopped [] rfl ?_ (congrArg (d :: ·) hb) hpos hc hl
      rw [List.length_append] at hlen
      omega

end TokenDump.Cursor
