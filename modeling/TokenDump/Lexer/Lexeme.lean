import TokenDump.Lexer.Trivia
import TokenDump.Unicode.Property

/-! # Lexemes

The token that starts at the cursor: the longest word, number, string or operator there is. A
character that starts none of them is an illegal token of its own. -/
namespace TokenDump.Lexer

def startsWord (c : Char) : Bool := Unicode.isAlphabetic c || c == '_'

def continuesWord (c : Char) : Bool := Unicode.isAlphanumeric c || c == '_'

theorem continuesWord_of_startsWord {c : Char} (h : startsWord c = true) :
    continuesWord c = true := by
  simp only [startsWord, continuesWord, Unicode.isAlphanumeric, Bool.or_eq_true] at *
  rcases h with h | h <;> simp [h]

open Scan

/-- A token that is one character. -/
def single (t : Token) : Scan Token := do
  advance
  return t

/-- How an operator is told from the one that begins with it. -/
structure OperatorRule where
  first : Char
  second : Char
  /-- The operator of both characters. -/
  pair : Operator
  /-- What the first character is without the second. -/
  alone : Token

def operator (op : Operator) : Token := ⟨.operator op, op.spelling⟩

def delimiter (mark : Delimiter) : Token := ⟨.delimiter mark, mark.spelling⟩

/-- The operators by their first characters. An exclamation mark alone is no token. -/
def operatorRules : List OperatorRule :=
  [⟨'+', '+', .increment, operator .plus⟩,
   ⟨'-', '-', .decrement, operator .minus⟩,
   ⟨'=', '=', .equal, operator .assign⟩,
   ⟨'<', '=', .lessEqual, operator .less⟩,
   ⟨'>', '=', .greaterEqual, operator .greater⟩,
   ⟨'!', '=', .notEqual, .illegal "!"⟩]

/-- The operator of two characters if the second one follows, else what the first one is alone. -/
def oneOrTwo (rule : OperatorRule) : Scan Token := do
  if (← cursor).lookahead == some rule.second then
    advance
    advance
    return operator rule.pair
  else
    advance
    return rule.alone

def word : Scan Token := do
  let text := String.ofList (← takeWhile fun c _ => continuesWord c)
  return ⟨.ofWord text, text⟩

def number : Scan Token := do
  let text := String.ofList (← takeWhile fun c _ => c.isDigit)
  return ⟨.number, text⟩

/-- A string runs to the next quote, whatever stands between. -/
def string : Scan Token := do
  advance
  let text := String.ofList (← takeWhile fun c _ => c != '"')
  if (← cursor).isExhausted then return .unclosedString
  advance
  return ⟨.string, text⟩

/-- The token that starts with `c`, which the cursor is on. -/
def lexemeAt (c : Char) : Scan Token :=
  match Delimiter.ofChar? c with
  | some mark => single (delimiter mark)
  | none =>
    match operatorRules.find? (·.first == c) with
    | some rule => oneOrTwo rule
    | none =>
      if c == '"' then string
      else if startsWord c then word
      else if c.isDigit then number
      else single (.illegal c.toString)

/-- The token at the cursor; at the end of the input that is the end token. -/
def lexeme : Scan Token := do
  match (← cursor).current with
  | none => return .eof
  | some c => lexemeAt c

/-- Skips what may be skipped and scans one token. -/
def scanToken (trivia : Trivia) : Scan (Located Token) := do
  match ← skipTrivia trivia with
  | some token => return token
  | none => located lexeme

theorem consumes_single (t : Token) : Consumes (single t) :=
  consumes_bind consumes_advance fun _ => forward_pure _

theorem consumes_oneOrTwo (rule : OperatorRule) : Consumes (oneOrTwo rule) := by
  intro p hp
  rw [oneOrTwo, bind_apply, cursor_apply]
  simp only
  split
  · exact consumes_bind consumes_advance
      (fun _ => forward_bind forward_advance fun _ => forward_pure _) p hp
  · exact consumes_bind consumes_advance (fun _ => forward_pure _) p hp

theorem consumes_string : Consumes string :=
  consumes_bind consumes_advance fun _ => forward_bind (forward_takeWhile _) fun _ =>
    forward_bind forward_cursor fun c => by
      split
      · exact forward_pure _
      · exact forward_bind forward_advance fun _ => forward_pure _

theorem remaining_takeWhile_lt {q : Char → Option Char → Bool} {p : Progress} {c : Char}
    (hp : p.cursor.current = some c) (hq : q c p.cursor.lookahead = true) :
    (takeWhile q p).2.cursor.remaining < p.cursor.remaining := by
  have h := Cursor.remaining_advance_lt (c := p.cursor) (by simp [hp])
  simp only [takeWhile, move]
  rw [Cursor.takeWhile]
  split
  · simp_all
  · rename_i c' hc
    obtain rfl : c' = c := by simp_all
    simp only [hq, if_true]
    split
    · exact h
    · exact Nat.lt_of_le_of_lt (Cursor.remaining_takeWhile_le _ _) h

theorem remaining_word_lt {p : Progress} {c : Char} (hp : p.cursor.current = some c)
    (hc : startsWord c = true) : (word p).2.cursor.remaining < p.cursor.remaining := by
  have h := remaining_takeWhile_lt (q := fun c _ => continuesWord c) hp
    (continuesWord_of_startsWord hc)
  rw [word, bind_apply]
  split <;> rename_i heq <;> rw [heq] at h <;> exact h

theorem remaining_number_lt {p : Progress} {c : Char} (hp : p.cursor.current = some c)
    (hc : c.isDigit = true) : (number p).2.cursor.remaining < p.cursor.remaining := by
  have h := remaining_takeWhile_lt (q := fun c _ => c.isDigit) hp hc
  rw [number, bind_apply]
  split <;> rename_i heq <;> rw [heq] at h <;> exact h

/-- Every token but the end takes something from the source. -/
theorem remaining_lexemeAt_lt {p : Progress} {c : Char} (hp : p.cursor.current = some c) :
    (lexemeAt c p).2.cursor.remaining < p.cursor.remaining := by
  have hn : p.cursor.current ≠ none := by simp [hp]
  rw [lexemeAt]
  cases Delimiter.ofChar? c with
  | some mark => exact consumes_single _ p hn
  | none =>
    cases operatorRules.find? (·.first == c) with
    | some rule => exact consumes_oneOrTwo _ p hn
    | none =>
      dsimp only
      by_cases hq : (c == '"') = true
      · rw [if_pos hq]; exact consumes_string p hn
      rw [if_neg hq]
      by_cases hw : startsWord c = true
      · rw [if_pos hw]; exact remaining_word_lt hp hw
      rw [if_neg hw]
      by_cases hd : c.isDigit = true
      · rw [if_pos hd]; exact remaining_number_lt hp hd
      · rw [if_neg hd]; exact consumes_single _ p hn

theorem lexeme_apply (p : Progress) : lexeme p = match p.cursor.current with
    | none => (.ok .eof, p)
    | some c => lexemeAt c p := by
  rw [lexeme, bind_apply, cursor_apply]
  simp only
  cases p.cursor.current <;> rfl

/-- Scanning a token other than the end gets nearer to the end. -/
theorem remaining_scanToken_lt {trivia : Trivia} {p : Progress} {t : Located Token}
    (h : (scanToken trivia p).1 = .ok t) (ht : t.value.isEof = false) :
    (scanToken trivia p).2.cursor.remaining < p.cursor.remaining := by
  have hf : Forward (skipTrivia trivia) := by
    cases trivia
    · exact forward_skipAll
    · exact forward_bind forward_skipOnce fun _ => forward_pure _
  have hs := hf p
  have htok : ∀ u, (skipTrivia trivia p).1 = .ok (some u) →
      (skipTrivia trivia p).2.cursor.remaining < p.cursor.remaining := by
    cases trivia
    · exact fun u hu => remaining_skipAll_lt hu
    · intro u hu
      simp only [skipTrivia, bind_apply] at hu
      split at hu <;> simp at hu
  rw [scanToken, bind_apply] at h ⊢
  generalize hr : skipTrivia trivia p = r at *
  obtain ⟨res, q⟩ := r
  cases res with
  | error cause => simp at h
  | ok res =>
    cases res with
    | some u => exact htok u rfl
    | none =>
      refine Nat.lt_of_lt_of_le ?_ hs
      simp only [located, bind_apply, cursor_apply, lexeme_apply] at h ⊢
      cases hc : q.cursor.current with
      | none =>
        simp only [hc, pure_apply] at h
        injection h with h
        subst h
        simp [Token.isEof, Token.eof] at ht
      | some c =>
        have hl := remaining_lexemeAt_lt hc
        simp only [hc] at h ⊢
        split at h <;> rename_i heq <;> rw [heq] at hl <;> simp_all

end TokenDump.Lexer
