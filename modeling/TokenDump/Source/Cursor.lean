import TokenDump.Position
import TokenDump.Source.Feed

/-! # Cursors

A cursor walks over the characters of a source and sees one character ahead. It decodes before it
moves, so a failed step leaves it where it was, and the position of a fault is that of the character
that could not be read. -/
namespace TokenDump

structure Cursor where
  /-- What reading on will give; after the last reading it is the end for ever. -/
  pending : List Reading
  /-- The character that the cursor is on. -/
  current : Option Char
  /-- The character after the current one. -/
  lookahead : Option Char
  position : Position
  isClosed : Bool
deriving DecidableEq

namespace Cursor

/-- A cursor that has not decoded anything yet. -/
def unprimed (feed : Feed) : Cursor :=
  { pending := feed.readings, current := none, lookahead := none, position := .start
    isClosed := false }

/-- A cursor on the first character of a text. -/
def ofText (text : List Char) : Cursor :=
  { pending := (text.drop 2).map .char, current := text[0]?, lookahead := text[1]?
    position := .start, isClosed := false }

/-- Decodes one character from what is pending. -/
def read (c : Cursor) : Except Fault (Option Char) × Cursor :=
  match c.pending with
  | [] => (.ok none, c)
  | .char ch :: rest => (.ok (some ch), { c with pending := rest })
  | .finish :: rest => (.ok none, { c with pending := rest })
  | .fault cause :: rest => (.error cause, { c with pending := rest })

/-- Decodes the current character, unless there is one, and then the one after it. What was decoded
before a fault is kept. -/
def prime (c : Cursor) : Except Fault Unit × Cursor :=
  let (current, c) := match c.current with
    | some ch => (Except.ok (some ch), c)
    | none => c.read
  match current with
  | .error cause => (.error cause, c)
  | .ok none => (.ok (), { c with current := none })
  | .ok (some ch) =>
    let c := { c with current := some ch }
    match c.read with
    | (.error cause, c) => (.error cause, c)
    | (.ok next, c) => (.ok (), { c with lookahead := next })

/-- Moves past the current character and returns it; at the end of the input nothing happens. -/
def advance (c : Cursor) : Except Fault (Option Char) × Cursor :=
  match c.current with
  | none => (.ok none, c)
  | some ch =>
    match c.read with
    | (.error cause, c) => (.error cause, c)
    | (.ok next, c) =>
      (.ok (some ch),
        { c with position := c.position.advance ch, current := c.lookahead, lookahead := next })

/-- The position of the next character to be decoded. -/
def readPosition (c : Cursor) : Position :=
  c.position.advanceOver (c.current.toList ++ c.lookahead.toList)

def isExhausted (c : Cursor) : Bool := c.current.isNone

/-- Lets go of the source; from then on the cursor is at its end. -/
def close (c : Cursor) : Cursor :=
  { c with pending := [], current := none, lookahead := none, isClosed := true }

/-- Goes on in another content, at the byte that was to be decoded next. -/
def goOnIn (c : Cursor) (content : Bytes) : Cursor :=
  { c with pending := Feed.readings [.bytes (content.drop c.readPosition.offset)] }

/-- Whether the cursor is on `first` with `second` behind it. -/
def isAt (c : Cursor) (first second : Char) : Bool :=
  c.current == some first && c.lookahead == some second

/-- Bounds the steps that the cursor can still make. -/
def remaining (c : Cursor) : Nat :=
  2 * c.pending.length + c.current.toList.length + c.lookahead.toList.length

theorem remaining_advance_le (c : Cursor) : c.advance.2.remaining ≤ c.remaining := by
  obtain ⟨pending, current, lookahead, position, closed⟩ := c
  cases current with
  | none => simp [advance]
  | some ch =>
    cases pending with
    | nil => simp [advance, read, remaining]
    | cons r rest =>
      cases r <;> cases lookahead <;>
        simp only [advance, read, remaining, Option.toList, List.length_cons, List.length_nil] <;>
        omega

theorem remaining_advance_lt {c : Cursor} (h : c.current ≠ none) :
    c.advance.2.remaining < c.remaining := by
  obtain ⟨pending, current, lookahead, position, closed⟩ := c
  cases current with
  | none => exact absurd rfl h
  | some ch =>
    cases pending with
    | nil => simp [advance, read, remaining]
    | cons r rest =>
      cases r <;> cases lookahead <;>
        simp only [advance, read, remaining, Option.toList, List.length_cons, List.length_nil] <;>
        omega

/-- Moves past characters as long as `p` holds of the current character and the one after it, and
returns them. -/
def takeWhile (p : Char → Option Char → Bool) (c : Cursor) : Except Fault (List Char) × Cursor :=
  match _h : c.current with
  | none => (.ok [], c)
  | some ch =>
    if p ch c.lookahead then
      match c.advance.1 with
      | .error cause => (.error cause, c.advance.2)
      | .ok _ =>
        let (taken, rest) := takeWhile p c.advance.2
        (taken.map (ch :: ·), rest)
    else
      (.ok [], c)
termination_by c.remaining
decreasing_by exact remaining_advance_lt (by simp [_h])

theorem remaining_takeWhile_le (p : Char → Option Char → Bool) (c : Cursor) :
    (c.takeWhile p).2.remaining ≤ c.remaining := by
  fun_induction takeWhile p c with
  | case1 => simp
  | case2 c ch h hp cause he => exact remaining_advance_le c
  | case3 c ch h hp x he taken rest ht ih =>
    rw [ht] at ih
    exact Nat.le_trans ih (remaining_advance_le c)
  | case4 => simp

end Cursor
end TokenDump
