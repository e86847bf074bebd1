/-! # Text in TOML

The four kinds of strings, bare keys, comments and ends of lines. A reader takes what it reads
from the front of the text and returns it with the rest. -/
namespace TokenDump.Toml

abbrev Reader (α : Type) := List Char → Option (α × List Char)

def isBlank (c : Char) : Bool := c == ' ' || c == '\t'

def skipBlanks (cs : List Char) : List Char := cs.dropWhile isBlank

theorem length_skipBlanks_le (cs : List Char) : (skipBlanks cs).length ≤ cs.length :=
  (List.dropWhile_sublist _).length_le

/-- Characters that a line may hold: no controls but the tab. -/
def isInline (c : Char) : Bool := c == '\t' || (0x20 ≤ c.toNat && c.toNat != 0x7F)

/-- A line feed, which a carriage return may stand before. -/
def newline? : List Char → Option (List Char)
  | '\n' :: rest => some rest
  | '\r' :: '\n' :: rest => some rest
  | _ => none

theorem length_newline? {cs rest : List Char} (h : newline? cs = some rest) :
    rest.length < cs.length := by
  unfold newline? at h
  split at h
  · obtain rfl := Option.some.inj h
    exact Nat.lt_succ_self _
  · obtain rfl := Option.some.inj h
    exact Nat.lt_succ_of_lt (Nat.lt_succ_self _)
  · simp at h

/-- Passes a comment, if there is one. -/
def skipComment : List Char → List Char
  | '#' :: rest => rest.dropWhile isInline
  | cs => cs

theorem length_skipComment_le (cs : List Char) : (skipComment cs).length ≤ cs.length := by
  unfold skipComment
  split
  · exact Nat.le_succ_of_le (List.dropWhile_sublist _).length_le
  · exact Nat.le_refl _

/-- What may follow a statement on its line, with the end of the line. -/
def lineEnd? (cs : List Char) : Option (List Char) :=
  match skipComment (skipBlanks cs) with
  | [] => some []
  | cs => newline? cs

def hexDigit? (c : Char) : Option Nat :=
  if c.isDigit then some (c.toNat - '0'.toNat)
  else if 'a' ≤ c && c ≤ 'f' then some (c.toNat - 'a'.toNat + 10)
  else if 'A' ≤ c && c ≤ 'F' then some (c.toNat - 'A'.toNat + 10)
  else none

/-- The character whose code point `count` hexadecimal digits spell. -/
def codePoint (count : Nat) : Reader Char := fun cs => do
  let digits ← (cs.take count).mapM hexDigit?
  if digits.length < count then none
  let n := digits.foldl (fun n d => n * 16 + d) 0
  if n < 0xD800 || (0xE000 ≤ n && n < 0x110000) then some (Char.ofNat n, cs.drop count) else none

theorem length_codePoint_le {count : Nat} {cs rest : List Char} {c : Char}
    (h : codePoint count cs = some (c, rest)) : rest.length ≤ cs.length := by
  simp only [codePoint, Option.bind_eq_bind, Option.bind_eq_some_iff] at h
  obtain ⟨digits, _, h⟩ := h
  split at h
  · simp at h
  · split at h
    · obtain ⟨-, rfl⟩ := by simpa using h
      exact (List.drop_sublist _ _).length_le
    · simp at h

/-- What a backslash and the characters after it stand for. -/
def escaped : Reader Char
  | 'b' :: rest => some ('\x08', rest)
  | 'f' :: rest => some ('\x0c', rest)
  | 'n' :: rest => some ('\n', rest)
  | 'r' :: rest => some ('\r', rest)
  | 't' :: rest => some ('\t', rest)
  | '"' :: rest => some ('"', rest)
  | '\\' :: rest => some ('\\', rest)
  | 'u' :: rest => codePoint 4 rest
  | 'U' :: rest => codePoint 8 rest
  | _ => none

theorem length_escaped {cs rest : List Char} {c : Char} (h : escaped cs = some (c, rest)) :
    rest.length < cs.length := by
  unfold escaped at h
  split at h
  all_goals first
    | exact Nat.lt_succ_of_le (length_codePoint_le h)
    | simp_all

/-- Passes blanks and ends of lines. -/
def skipLines : List Char → List Char
  | ' ' :: rest => skipLines rest
  | '\t' :: rest => skipLines rest
  | '\n' :: rest => skipLines rest
  | '\r' :: '\n' :: rest => skipLines rest
  | cs => cs

theorem length_skipLines_le (cs : List Char) : (skipLines cs).length ≤ cs.length := by
  fun_induction skipLines cs <;> simp_all <;> omega

/-- A string in double quotes on one line, after its opening quote. -/
def basicString (cs : List Char) : Option (List Char × List Char) :=
  match cs with
  | [] => none
  | '"' :: rest => some ([], rest)
  | '\\' :: behind =>
    match _h : escaped behind with
    | none => none
    | some (c, rest) => do
      let (text, rest) ← basicString rest
      return (c :: text, rest)
  | c :: rest =>
    if isInline c then do
      let (text, rest) ← basicString rest
      return (c :: text, rest)
    else none
termination_by cs.length
decreasing_by
  · exact Nat.lt_succ_of_lt (length_escaped _h)
  · exact Nat.lt_succ_self _

/-- A string in single quotes on one line, after its opening quote. -/
def literalString : List Char → Option (List Char × List Char)
  | [] => none
  | '\'' :: rest => some ([], rest)
  | c :: rest =>
    if isInline c then do
      let (text, rest) ← literalString rest
      return (c :: text, rest)
    else none

/-- The end of a string over several lines, when the text goes on with `run` quotes: three of them
close it, up to two more belong to its content. -/
def closing? (quote : Char) (cs : List Char) : Option (List Char × List Char) :=
  let run := (cs.takeWhile (· == quote)).length
  if run < 3 then none
  else
    let inner := min (run - 3) 2
    some (List.replicate inner quote, cs.drop (inner + 3))

/-- A string in three double quotes, after the quotes that open it. A backslash at the end of a line
takes the break and all blanks and breaks after it away. -/
def basicLines (cs : List Char) : Option (List Char × List Char) :=
  match closing? '"' cs with
  | some (text, rest) => some (text, rest)
  | none =>
    match cs with
    | [] => none
    | '\\' :: behind =>
      match _h : newline? (skipBlanks behind) with
      | some after => basicLines (skipLines after)
      | none =>
        match _h : escaped behind with
        | none => none
        | some (c, rest) => do
          let (text, rest) ← basicLines rest
          return (c :: text, rest)
    | '\n' :: rest => do
      let (text, rest) ← basicLines rest
      return ('\n' :: text, rest)
    | '\r' :: '\n' :: rest => do
      let (text, rest) ← basicLines rest
      return ('\n' :: text, rest)
    | c :: rest =>
      if isInline c then do
        let (text, rest) ← basicLines rest
        return (c :: text, rest)
      else none
termination_by cs.length
decreasing_by
  · have := length_newline? _h
    have := length_skipBlanks_le behind
    have := length_skipLines_le after
    simp only [List.length_cons]
    omega
  · exact Nat.lt_succ_of_lt (length_escaped _h)
  all_goals simp only [List.length_cons]; omega

/-- A string in three single quotes, after the quotes that open it. -/
def literalLines (cs : List Char) : Option (List Char × List Char) :=
  match closing? '\'' cs with
  | some (text, rest) => some (text, rest)
  | none =>
    match cs with
    | [] => none
    | '\n' :: rest => do
      let (text, rest) ← literalLines rest
      return ('\n' :: text, rest)
    | '\r' :: '\n' :: rest => do
      let (text, rest) ← literalLines rest
      return ('\n' :: text, rest)
    | c :: rest =>
      if isInline c then do
        let (text, rest) ← literalLines rest
        return (c :: text, rest)
      else none
termination_by cs.length

/-- A break right after the quotes that open a string over several lines is not part of it. -/
def skipFirstBreak (cs : List Char) : List Char := (newline? cs).getD cs

/-- A string of any kind. -/
def string : Reader String := fun cs => do
  let (text, rest) ← match cs with
    | '"' :: '"' :: '"' :: rest => basicLines (skipFirstBreak rest)
    | '"' :: rest => basicString rest
    | '\'' :: '\'' :: '\'' :: rest => literalLines (skipFirstBreak rest)
    | '\'' :: rest => literalString rest
    | _ => none
  return (String.ofList text, rest)

def isBare (c : Char) : Bool := c.isAlphanum || c == '_' || c == '-'

/-- One part of a key: bare, or a string on one line. -/
def keyPart : Reader String
  | '"' :: rest => (basicString rest).map fun (text, rest) => (String.ofList text, rest)
  | '\'' :: rest => (literalString rest).map fun (text, rest) => (String.ofList text, rest)
  | cs =>
    let text := cs.takeWhile isBare
    if text.isEmpty then none else some (String.ofList text, cs.dropWhile isBare)

/-- The parts of a key that follow its first one; there is room for so many. -/
def moreKeyParts (room : Nat) (cs : List Char) : Option (List String × List Char) :=
  match room, skipBlanks cs with
  | 0, '.' :: _ => none
  | room + 1, '.' :: rest => do
    let (part, rest) ← keyPart (skipBlanks rest)
    let (parts, rest) ← moreKeyParts room rest
    return (part :: parts, rest)
  | _, rest => some ([], rest)

/-- Most parts that a key may have. -/
def keyLimit : Nat := 79

/-- A key, blanks around it and its dots allowed: the parts before the last, and the last. -/
def key : Reader (List String × String) := fun cs => do
  let (part, rest) ← keyPart (skipBlanks cs)
  let (parts, rest) ← moreKeyParts (keyLimit - 1) rest
  let all := part :: parts
  return ((all.dropLast, all.getLastD part), rest)

end TokenDump.Toml
