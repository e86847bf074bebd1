/-! # Positions

A position counts the bytes, lines and columns passed since the start of a text. Columns follow
the scanner's own rule: a tab is four columns wide wherever it stands, and a carriage return goes
back to the first column without starting a line. -/
namespace TokenDump

structure Position where
  /-- Bytes passed, in UTF-8. -/
  offset : Nat
  line : Nat
  column : Nat
deriving DecidableEq, Inhabited

namespace Position

def start : Position := ⟨0, 1, 1⟩

def zero : Position := ⟨0, 0, 0⟩

def tabWidth : Nat := 4

/-- The position after passing `c`. -/
def advance (p : Position) (c : Char) : Position :=
  let offset := p.offset + c.utf8Size
  match c with
  | '\n' => ⟨offset, p.line + 1, 1⟩
  | '\r' => ⟨offset, p.line, 1⟩
  | '\t' => ⟨offset, p.line, p.column + tabWidth⟩
  | _ => ⟨offset, p.line, p.column + 1⟩

/-- The position after passing every character of a text. -/
def advanceOver (p : Position) (text : List Char) : Position := text.foldl advance p

/-- Positions are ordered by offset, then line, then column. -/
instance : Ord Position where
  compare p q := (compare p.offset q.offset).then
    ((compare p.line q.line).then (compare p.column q.column))

/-- The smaller of two positions, the first one when they are equal. -/
def min (p q : Position) : Position := if compare q p == .lt then q else p

def render (p : Position) : String := s!"{p.line}:{p.column}"

@[simp] theorem advanceOver_nil (p : Position) : p.advanceOver [] = p := rfl

@[simp] theorem advanceOver_cons (p : Position) (c : Char) (text : List Char) :
    p.advanceOver (c :: text) = (p.advance c).advanceOver text := rfl

theorem advanceOver_append (p : Position) (s t : List Char) :
    p.advanceOver (s ++ t) = (p.advanceOver s).advanceOver t := by
  simp [advanceOver]

theorem offset_advance (p : Position) (c : Char) :
    (p.advance c).offset = p.offset + c.utf8Size := by
  unfold advance; split <;> rfl

end Position
end TokenDump
