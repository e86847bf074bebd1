import TokenDump.Span
import TokenDump.Token.Basic

/-! # Tallies

What a lexer has counted: its tokens by kind, the comments it has entered, the longest string and
the last line it has reached. The end token counts as no token. -/
namespace TokenDump.Lexer

structure Tally where
  total : Nat
  keywords : Nat
  identifiers : Nat
  numbers : Nat
  strings : Nat
  operators : Nat
  delimiters : Nat
  illegals : Nat
  comments : Nat
  /-- Characters in the longest string. -/
  longestString : Nat
  lines : Nat
deriving DecidableEq

namespace Tally

def zero : Tally := ⟨0, 0, 0, 0, 0, 0, 0, 0, 0, 0, 0⟩

/-- Counts a token other than the end. -/
def count (m : Tally) (t : Token) : Tally :=
  let m := { m with total := m.total + 1 }
  match t.kind with
  | .identifier => { m with identifiers := m.identifiers + 1 }
  | .number => { m with numbers := m.numbers + 1 }
  | .string =>
    { m with strings := m.strings + 1, longestString := max m.longestString t.text.length }
  | .keyword _ => { m with keywords := m.keywords + 1 }
  | .operator _ => { m with operators := m.operators + 1 }
  | .delimiter _ => { m with delimiters := m.delimiters + 1 }
  | .illegal => { m with illegals := m.illegals + 1 }
  | .eof => m

/-- Records a token that was scanned. -/
def record (m : Tally) (t : Located Token) : Tally :=
  let m := { m with lines := max m.lines t.span.stop.line }
  if t.value.isEof then m else m.count t.value

end Tally
end TokenDump.Lexer
