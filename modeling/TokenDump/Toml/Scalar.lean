import TokenDump.Decimal.Digits
import TokenDump.Toml.Value
import TokenDump.Toml.Text

/-! # Numbers and points in time

What may start with a sign or a digit: points in time, floating point numbers and integers. Some
beginnings leave no choice: what starts like a date has to be one. -/
namespace TokenDump.Toml

/-- The outcome of trying one form of several. -/
inductive Attempt (α : Type) where
  /-- The form is not there; another one may be tried. -/
  | absent
  /-- The form has begun and goes wrong. -/
  | broken
  | found (value : α) (rest : List Char)

/-- Whether digits in groups go on properly: an underscore stands between two digits. -/
def groupedDigits (isDigit : Char → Bool) : List Char → Option (List Char × List Char)
  | '_' :: c :: rest =>
    if isDigit c then (groupedDigits isDigit rest).map fun (ds, rest) => (c :: ds, rest) else none
  | ['_'] => none
  | c :: rest =>
    if isDigit c then (groupedDigits isDigit rest).map fun (ds, rest) => (c :: ds, rest)
    else some ([], c :: rest)
  | [] => some ([], [])

/-- One digit or more, in groups. -/
def digitGroups (isDigit : Char → Bool) : List Char → Option (List Char × List Char)
  | c :: rest =>
    if isDigit c then (groupedDigits isDigit rest).map fun (ds, rest) => (c :: ds, rest) else none
  | [] => none

/-- A sign, and whether it is a minus. -/
def sign : List Char → Bool × List Char
  | '+' :: rest => (false, rest)
  | '-' :: rest => (true, rest)
  | cs => (false, cs)

/-- A sign and digits without leading zero. -/
structure Whole where
  isNegative : Bool
  digits : List Char

def whole (cs : List Char) : Attempt Whole :=
  let (isNegative, cs) := sign cs
  match cs with
  | '0' :: rest => .found ⟨isNegative, ['0']⟩ rest
  | c :: rest =>
    if c.isDigit then
      match groupedDigits Char.isDigit rest with
      | some (ds, rest) => .found ⟨isNegative, c :: ds⟩ rest
      | none => .broken
    else .absent
  | [] => .absent

/-- The greatest distance of an integer from zero, which only a negative one may have. -/
def integerLimit : Nat := 9223372036854775808

/-- A number in two's complement of 64 bits. -/
def bounded? (n : Int) : Option Int :=
  if -integerLimit ≤ n && n < integerLimit then some n else none

/-- A number in another base, after its mark. -/
def based (base : Nat) : Reader Value := fun cs => do
  let isDigit (c : Char) : Bool := (hexDigit? c).any (· < base)
  let (ds, rest) ← digitGroups isDigit cs
  let n := Decimal.ofDigits base integerLimit (ds.filterMap hexDigit?)
  return (.integer (← bounded? n), rest)

def integer : Reader Value
  | '0' :: 'x' :: rest => based 16 rest
  | '0' :: 'o' :: rest => based 8 rest
  | '0' :: 'b' :: rest => based 2 rest
  | cs =>
    match whole cs with
    | .found w rest => do
      let n : Int := Decimal.ofDigitChars integerLimit w.digits
      return (.integer (← bounded? (if w.isNegative then -n else n)), rest)
    | _ => none

/-- Past this number the further digits of an exponent no longer count. -/
def exponentLimit : Nat := 65535

/-- The exponent of a number, if there is one: its digits with their sign. -/
def exponent (cs : List Char) : Attempt Int :=
  match cs with
  | e :: rest =>
    if e == 'e' || e == 'E' then
      let (isNegative, rest) := sign rest
      match digitGroups Char.isDigit rest with
      | some (ds, rest) =>
        let n : Int := Decimal.ofDigitChars exponentLimit ds
        .found (if isNegative then -n else n) rest
      | none => .broken
    else .absent
  | [] => .absent

/-- The number with these parts. What is too large for a number is refused, but not if it is
negative. -/
def realOf (w : Whole) (fraction : List Char) (exponent : Int) : Option Value :=
  let magnitude := Decimal.Binary64.ofDigitChars (w.digits ++ fraction)
    (exponent - fraction.length)
  if magnitude = .infinite && !w.isNegative then none
  else some (.float (.number ⟨w.isNegative, magnitude⟩))

/-- Infinity and what is no number, with or without sign. -/
def specialFloat (cs : List Char) : Attempt Value :=
  let (isNegative, cs) := sign cs
  match cs with
  | 'i' :: 'n' :: 'f' :: rest => .found (.float (.number ⟨isNegative, .infinite⟩)) rest
  | 'n' :: 'a' :: 'n' :: rest => .found (.float .notANumber) rest
  | _ => .absent

def found? (value : Option Value) (rest : List Char) : Attempt Value :=
  match value with
  | some v => .found v rest
  | none => .broken

/-- A number with a fraction, an exponent or both. -/
def float (cs : List Char) : Attempt Value :=
  match whole cs with
  | .broken => .broken
  | .absent => specialFloat cs
  | .found w rest =>
    match exponent rest with
    | .broken => .broken
    | .found e rest => found? (realOf w [] e) rest
    | .absent =>
      match rest with
      | '.' :: rest =>
        match digitGroups Char.isDigit rest with
        | none => .broken
        | some (fraction, rest) =>
          match exponent rest with
          | .broken => .broken
          | .found e rest => found? (realOf w fraction e) rest
          | .absent => found? (realOf w fraction 0) rest
      | _ => specialFloat cs

/-- Exactly `count` digits. -/
def fixedDigits (count : Nat) : Reader Nat := fun cs =>
  let ds := cs.take count
  if ds.length = count && ds.all Char.isDigit then some (Nat.ofDigitChars 10 ds 0, cs.drop count)
  else none

/-- Two digits that spell a number between two limits. -/
def within (low high : Nat) : Reader Nat := fun cs => do
  let (n, rest) ← fixedDigits 2 cs
  if low ≤ n && n ≤ high then some (n, rest) else none

def char? (c : Char) : List Char → Option (List Char)
  | d :: rest => if d == c then some rest else none
  | [] => none

def daysIn (year month : Nat) : Nat :=
  if month = 2 then
    if year % 4 = 0 && (year % 100 != 0 || year % 400 = 0) then 29 else 28
  else if month = 4 || month = 6 || month = 9 || month = 11 then 30
  else 31

/-- The part of a date after its year and the hyphen there. -/
def dateAfter (year : Nat) (cs : List Char) : Option (List Char) := do
  let (month, rest) ← within 1 12 cs
  let rest ← char? '-' rest
  let (_, rest) ← within 1 (daysIn year month) rest
  return rest

/-- The part of a time after its hour and the colon there. A second may be a leap second. -/
def timeAfter (cs : List Char) : Option (List Char) := do
  let (_, rest) ← within 0 59 cs
  let rest ← char? ':' rest
  let (_, rest) ← within 0 60 rest
  match rest with
  | '.' :: c :: behind =>
    return if c.isDigit then behind.dropWhile Char.isDigit else rest
  | _ => return rest

/-- A time of day. -/
def time (cs : List Char) : Attempt Unit :=
  match (within 0 23 cs).bind fun (_, rest) => char? ':' rest with
  | none => .absent
  | some rest =>
    match timeAfter rest with
    | some rest => .found () rest
    | none => .broken

/-- Passes the offset of a time from UTC, if there is one. -/
def offset? : List Char → Option (List Char)
  | 'Z' :: rest => some rest
  | 'z' :: rest => some rest
  | c :: rest =>
    if c == '+' || c == '-' then do
      let (_, rest) ← within 0 23 rest
      let rest ← char? ':' rest
      let (_, rest) ← within 0 59 rest
      return rest
    else some (c :: rest)
  | [] => some []

/-- A date, a time, or both. -/
def datetime (cs : List Char) : Attempt Value :=
  match (fixedDigits 4 cs).bind fun (year, rest) => (char? '-' rest).map (year, ·) with
  | some (year, rest) =>
    match dateAfter year rest with
    | none => .broken
    | some rest =>
      match rest with
      | c :: behind =>
        if c == 'T' || c == 't' || c == ' ' then
          match time behind with
          | .absent => .found .datetime rest
          | .broken => .broken
          | .found _ rest =>
            match offset? rest with
            | some rest => .found .datetime rest
            | none => .broken
        else .found .datetime rest
      | [] => .found .datetime []
  | none =>
    match time cs with
    | .found _ rest => .found .datetime rest
    | .broken => .broken
    | .absent => .absent

/-- A point in time, a floating point number or an integer, tried in this order. -/
def numeric : Reader Value := fun cs =>
  match datetime cs with
  | .found v rest => some (v, rest)
  | .broken => none
  | .absent =>
    match float cs with
    | .found v rest => some (v, rest)
    | .broken => none
    | .absent => integer cs

/-- A value that holds no other values. -/
def scalar : Reader Value := fun cs =>
  match cs with
  | '"' :: _ => (string cs).map fun (text, rest) => (.string text, rest)
  | '\'' :: _ => (string cs).map fun (text, rest) => (.string text, rest)
  | 't' :: 'r' :: 'u' :: 'e' :: rest => some (.boolean true, rest)
  | 'f' :: 'a' :: 'l' :: 's' :: 'e' :: rest => some (.boolean false, rest)
  | 'i' :: 'n' :: 'f' :: rest => some (.float (.number ⟨false, .infinite⟩), rest)
  | 'n' :: 'a' :: 'n' :: rest => some (.float .notANumber, rest)
  | c :: _ => if c.isDigit || c == '+' || c == '-' then numeric cs else none
  | [] => none

end TokenDump.Toml
