import TokenDump.Position

/-! # Spans

A span is a stretch of text between two positions, the end not included; a located value is a value
with the span that it was read from. -/
namespace TokenDump

structure Span where
  start : Position
  stop : Position
deriving DecidableEq, Inhabited

/-- A value together with the stretch of text that it came from. -/
structure Located (α : Type) where
  value : α
  span : Span
deriving DecidableEq

namespace Span

/-- The empty span at a position. -/
def point (p : Position) : Span := ⟨p, p⟩

/-- Length in bytes. -/
def length (s : Span) : Nat := s.stop.offset - s.start.offset

def isEmpty (s : Span) : Bool := s.start.offset == s.stop.offset

def render (s : Span) : String :=
  if s.start.line = s.stop.line then
    s!"{s.start.line}:{s.start.column}-{s.stop.column}"
  else
    s!"{s.start.render}-{s.stop.render}"

/-- Splits a text after `n` bytes; `none` when that is inside a character or past the end. -/
def splitAtByte : Nat → List Char → Option (List Char × List Char)
  | 0, text => some ([], text)
  | _ + 1, [] => none
  | n + 1, c :: text =>
    if c.utf8Size ≤ n + 1 then
      (splitAtByte (n + 1 - c.utf8Size) text).map fun (before, after) => (c :: before, after)
    else
      none
termination_by structural _ text => text

/-- The stretch of `text` that the span covers; `none` when it leaves the text or cuts a
character. -/
def slice (s : Span) (text : List Char) : Option (List Char) := do
  if s.stop.offset < s.start.offset then none
  let (_, rest) ← splitAtByte s.start.offset text
  let (covered, _) ← splitAtByte s.length rest
  return covered

end Span
end TokenDump
