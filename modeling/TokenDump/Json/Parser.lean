import TokenDump.Json.Value

/-! # Reading JSON

A text is read into a value, blanks allowed between all parts. Control characters inside strings,
leading zeros, trailing commas and text after the value are refused. -/
namespace TokenDump.Json

def isBlank (c : Char) : Bool := c == ' ' || c == '\n' || c == '\t' || c == '\r'

def skipBlanks (cs : List Char) : List Char := cs.dropWhile isBlank

def hexDigit? (c : Char) : Option Nat :=
  if c.isDigit then some (c.toNat - '0'.toNat)
  else if 'a' ≤ c && c ≤ 'f' then some (c.toNat - 'a'.toNat + 10)
  else if 'A' ≤ c && c ≤ 'F' then some (c.toNat - 'A'.toNat + 10)
  else none

/-- The number that four hexadecimal digits spell. -/
def codeUnit? (a b c d : Char) : Option Nat := do
  let a ← hexDigit? a
  let b ← hexDigit? b
  let c ← hexDigit? c
  let d ← hexDigit? d
  return ((a * 16 + b) * 16 + c) * 16 + d

/-- What a string literal is made of: characters, and code units given by number. -/
inductive Piece where
  | char (c : Char)
  | code (n : Nat)
deriving DecidableEq

/-- The character that a backslash followed by `c` stands for, other than `u`. -/
def escaped? (c : Char) : Option Char :=
  match c with
  | '"' => some '"'
  | '\\' => some '\\'
  | '/' => some '/'
  | 'b' => some '\x08'
  | 'f' => some '\x0c'
  | 'n' => some '\n'
  | 'r' => some '\r'
  | 't' => some '\t'
  | _ => none

/-- The rest of a string literal, up to its closing quote, and what follows it. -/
def pieces : List Char → Option (List Piece × List Char)
  | [] => none
  | '"' :: rest => some ([], rest)
  | '\\' :: 'u' :: a :: b :: c :: d :: rest => do
    let n ← codeUnit? a b c d
    let (us, rest) ← pieces rest
    return (.code n :: us, rest)
  | '\\' :: c :: rest => do
    let c ← escaped? c
    let (us, rest) ← pieces rest
    return (.char c :: us, rest)
  | c :: rest =>
    if c.toNat < 0x20 || c == '\\' then none
    else do
      let (us, rest) ← pieces rest
      return (.char c :: us, rest)

/-- Joins surrogate pairs; `none` when a surrogate has no partner. -/
def characters? : List Piece → Option (List Char)
  | [] => some []
  | .char c :: us => (characters? us).map (c :: ·)
  | .code n :: .code m :: us =>
    if 0xD800 ≤ n && n < 0xDC00 then
      if 0xDC00 ≤ m && m < 0xE000 then
        (characters? us).map (Char.ofNat (0x10000 + (n - 0xD800) * 0x400 + (m - 0xDC00)) :: ·)
      else none
    else if 0xDC00 ≤ n && n < 0xE000 then none
    else (characters? (.code m :: us)).map (Char.ofNat n :: ·)
  | .code n :: us =>
    if 0xD800 ≤ n && n < 0xE000 then none
    else (characters? us).map (Char.ofNat n :: ·)

/-- A string literal after its opening quote. -/
def literal (cs : List Char) : Option (Literal × List Char) := do
  let (us, rest) ← pieces cs
  match characters? us with
  | some text => return (.text (String.ofList text), rest)
  | none => return (.unpaired, rest)

/-- One digit or more. -/
def digits (cs : List Char) : Option (List Char × List Char) :=
  let (run, rest) := cs.span Char.isDigit
  if run.isEmpty then none else some (run, rest)

/-- A zero, or digits that do not start with one. -/
def integerPart : List Char → Option (List Char × List Char)
  | '0' :: rest =>
    match rest with
    | c :: _ => if c.isDigit then none else some (['0'], rest)
    | [] => some (['0'], [])
  | cs => digits cs

def fractionPart : List Char → Option (List Char × List Char)
  | '.' :: rest => (digits rest).map fun (run, rest) => ('.' :: run, rest)
  | cs => some ([], cs)

def exponentPart : List Char → Option (List Char × List Char)
  | e :: rest =>
    if e == 'e' || e == 'E' then
      match rest with
      | '+' :: rest => (digits rest).map fun (run, rest) => (e :: '+' :: run, rest)
      | '-' :: rest => (digits rest).map fun (run, rest) => (e :: '-' :: run, rest)
      | rest => (digits rest).map fun (run, rest) => (e :: run, rest)
    else some ([], e :: rest)
  | [] => some ([], [])

/-- The spelling of a number. -/
def number (cs : List Char) : Option (List Char × List Char) := do
  let (sign, cs) := match cs with
    | '-' :: rest => (['-'], rest)
    | cs => ([], cs)
  let (whole, cs) ← integerPart cs
  let (fraction, cs) ← fractionPart cs
  let (exponent, cs) ← exponentPart cs
  return (sign ++ whole ++ fraction ++ exponent, cs)

mutual

/-- Reads a value; the first argument bounds the steps. -/
def value : Nat → List Char → Option (Value × List Char)
  | 0, _ => none
  | steps + 1, cs =>
    match skipBlanks cs with
    | 'n' :: 'u' :: 'l' :: 'l' :: rest => some (.null, rest)
    | 't' :: 'r' :: 'u' :: 'e' :: rest => some (.boolean true, rest)
    | 'f' :: 'a' :: 'l' :: 's' :: 'e' :: rest => some (.boolean false, rest)
    | '"' :: rest => (literal rest).map fun (content, rest) => (.string content, rest)
    | '[' :: rest =>
      match skipBlanks rest with
      | ']' :: rest => some (.array [], rest)
      | rest => (items steps rest).map fun (vs, rest) => (.array vs, rest)
    | '\x7b' :: rest =>
      match skipBlanks rest with
      | '\x7d' :: rest => some (.object [], rest)
      | rest => (members steps rest).map fun (ms, rest) => (.object ms, rest)
    | rest => (number rest).map fun (spelling, rest) => (.number (String.ofList spelling), rest)

/-- Reads the items of an array that is not empty, and its closing bracket. -/
def items : Nat → List Char → Option (List Value × List Char)
  | 0, _ => none
  | steps + 1, cs => do
    let (v, rest) ← value steps cs
    match skipBlanks rest with
    | ']' :: rest => return ([v], rest)
    | ',' :: rest =>
      let (vs, rest) ← items steps rest
      return (v :: vs, rest)
    | _ => none

/-- Reads the members of an object that is not empty, and its closing brace. -/
def members : Nat → List Char → Option (List (Literal × Value) × List Char)
  | 0, _ => none
  | steps + 1, cs => do
    let '"' :: rest := skipBlanks cs | none
    let (key, rest) ← literal rest
    let ':' :: rest := skipBlanks rest | none
    let (v, rest) ← value steps rest
    match skipBlanks rest with
    | '\x7d' :: rest => return ([(key, v)], rest)
    | ',' :: rest =>
      let (ms, rest) ← members steps rest
      return ((key, v) :: ms, rest)
    | _ => none

end

/-- The value that a whole text spells. Every bracket takes at most two steps, so the text's own
length bounds them. -/
def parse? (text : String) : Option Value := do
  let (v, rest) ← value (2 * text.length + 2) text.toList
  if (skipBlanks rest).isEmpty then some v else none

end TokenDump.Json
