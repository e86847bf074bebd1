import TokenDump.Lexer.Scan
import TokenDump.Settings.Basic
import TokenDump.Token.Basic

/-! # Trivia

Blanks, block comments and line comments before a token. A line comment ends with its line, a block
comment at the first closing mark; block comments do not nest. -/
namespace TokenDump.Lexer

def isBlank (c : Char) : Bool := c == ' ' || c == '\t' || c == '\n' || c == '\r'

open Scan

def skipBlanks : Scan Unit := do
  let _ ← takeWhile fun c _ => isBlank c
  return ()

/-- Passes a line comment that the cursor is at, and the end of its line. -/
def skipLineComment : Scan Unit := do
  enterComment
  advance
  advance
  let _ ← takeWhile fun c _ => c != '\n'
  advance

/-- Passes a block comment that the cursor is at, and says whether it was closed. -/
def skipBlockComment : Scan Bool := do
  enterComment
  advance
  advance
  let _ ← takeWhile fun c next => !(c == '*' && next == some '/')
  if (← cursor).isExhausted then return false
  advance
  advance
  return true

theorem forward_skipBlanks : Forward skipBlanks :=
  forward_bind (forward_takeWhile _) fun _ => forward_pure _

theorem consumes_skipLineComment : Consumes skipLineComment := by
  intro p hp
  exact consumes_bind consumes_advance (fun _ => forward_bind forward_advance fun _ =>
    forward_bind (forward_takeWhile _) fun _ => forward_advance)
    { p with comments := p.comments + 1 } hp

theorem consumes_skipBlockComment : Consumes skipBlockComment := by
  intro p hp
  refine consumes_bind consumes_advance (fun _ => forward_bind forward_advance fun _ =>
    forward_bind (forward_takeWhile _) fun _ => forward_bind forward_cursor fun c => ?_)
    { p with comments := p.comments + 1 } hp
  split
  · exact forward_pure _
  · exact forward_bind forward_advance fun _ => forward_bind forward_advance fun _ => forward_pure _

theorem current_of_isAt {c : Cursor} {first second : Char} (h : c.isAt first second = true) :
    c.current ≠ none := by
  intro hc
  simp [Cursor.isAt, hc] at h

/-- Passes blanks and comments until neither is left. A block comment that nothing closes is
returned as an illegal token. -/
def skipAll (p : Progress) : Except Fault (Option (Located Token)) × Progress :=
  match (skipBlanks p).1 with
  | .error cause => (.error cause, (skipBlanks p).2)
  | .ok _ =>
    let p' := (skipBlanks p).2
    if _hb : p'.cursor.isAt '/' '*' then
      let p'' := (skipBlockComment p').2
      match (skipBlockComment p').1 with
      | .error cause => (.error cause, p'')
      | .ok true => skipAll p''
      | .ok false =>
        (.ok (some ⟨.unclosedComment, p'.cursor.position, p''.cursor.position⟩), p'')
    else if _hl : p'.cursor.isAt '/' '/' then
      match (skipLineComment p').1 with
      | .error cause => (.error cause, (skipLineComment p').2)
      | .ok _ => skipAll (skipLineComment p').2
    else (.ok none, p')
termination_by p.cursor.remaining
decreasing_by
  · exact Nat.lt_of_lt_of_le (consumes_skipBlockComment _ (current_of_isAt _hb))
      (forward_skipBlanks p)
  · exact Nat.lt_of_lt_of_le (consumes_skipLineComment _ (current_of_isAt _hl))
      (forward_skipBlanks p)

/-- Passes blanks, then one block comment and blanks, then one line comment and blanks, each if it
is there. -/
def skipOnce : Scan Unit := do
  skipBlanks
  if (← cursor).isAt '/' '*' then
    let _ ← skipBlockComment
    skipBlanks
  if (← cursor).isAt '/' '/' then
    skipLineComment
    skipBlanks

/-- Passes what stands before a token; what is returned is a token in itself. -/
def skipTrivia : Trivia → Scan (Option (Located Token))
  | .strict => skipAll
  | .compatible => do
    skipOnce
    return none

theorem forward_skipLineComment : Forward skipLineComment :=
  forward_bind forward_enterComment fun _ => forward_bind forward_advance fun _ =>
    forward_bind forward_advance fun _ => forward_bind (forward_takeWhile _) fun _ =>
      forward_advance

theorem forward_skipBlockComment : Forward skipBlockComment := by
  refine forward_bind forward_enterComment fun _ => forward_bind forward_advance fun _ =>
    forward_bind forward_advance fun _ => forward_bind (forward_takeWhile _) fun _ =>
      forward_bind forward_cursor fun c => ?_
  split
  · exact forward_pure _
  · exact forward_bind forward_advance fun _ => forward_bind forward_advance fun _ => forward_pure _

theorem forward_skipAll : Forward skipAll := by
  intro p
  have hb := forward_skipBlanks p
  fun_induction skipAll p with
  | case1 p cause he => exact hb
  | case2 p u he p' hat p'' cause hc => exact Nat.le_trans (forward_skipBlockComment p') hb
  | case3 p u he p' hat p'' hc ih =>
    exact Nat.le_trans (ih (forward_skipBlanks p''))
      (Nat.le_trans (forward_skipBlockComment p') hb)
  | case4 p u he p' hat p'' hc => exact Nat.le_trans (forward_skipBlockComment p') hb
  | case5 p u he p' hat hl cause hc => exact Nat.le_trans (forward_skipLineComment p') hb
  | case6 p u he p' hat hl x hc ih =>
    exact Nat.le_trans (ih (forward_skipBlanks _)) (Nat.le_trans (forward_skipLineComment p') hb)
  | case7 p u he p' hat hl => exact hb

/-- What trivia leave behind as a token has been passed. -/
theorem remaining_skipAll_lt {p : Progress} {t : Located Token}
    (h : (skipAll p).1 = .ok (some t)) : (skipAll p).2.cursor.remaining < p.cursor.remaining := by
  have hb := forward_skipBlanks p
  fun_induction skipAll p with
  | case1 p cause he => simp at h
  | case2 p u he p' hat p'' cause hc => simp at h
  | case3 p u he p' hat p'' hc ih =>
    exact Nat.lt_of_lt_of_le (ih h (forward_skipBlanks p''))
      (Nat.le_trans (forward_skipBlockComment p') hb)
  | case4 p u he p' hat p'' hc =>
    exact Nat.lt_of_lt_of_le (consumes_skipBlockComment p' (current_of_isAt hat)) hb
  | case5 p u he p' hat hl cause hc => simp at h
  | case6 p u he p' hat hl x hc ih =>
    exact Nat.lt_of_lt_of_le (ih h (forward_skipBlanks _))
      (Nat.le_trans (forward_skipLineComment p') hb)
  | case7 p u he p' hat hl => simp at h

theorem forward_skipOnce : Forward skipOnce := by
  refine forward_bind forward_skipBlanks fun _ => forward_bind forward_cursor fun c => ?_
  have line : ∀ u : PUnit, Forward (do
      if (← cursor).isAt '/' '/' then
        skipLineComment
        skipBlanks) := by
    intro _
    refine forward_bind forward_cursor fun c => ?_
    split
    · exact forward_bind forward_skipLineComment fun _ => forward_skipBlanks
    · exact forward_pure _
  split
  · exact forward_bind forward_skipBlockComment fun _ => forward_bind forward_skipBlanks line
  · exact line ⟨⟩

end TokenDump.Lexer
