/-! # Binary numbers of 64 bits

Numbers with a significand of 53 binary digits. A decimal number is rounded to the nearest one, a
tie to the even significand; what is too large becomes infinite. -/
namespace TokenDump.Decimal

inductive Magnitude where
  | zero
  /-- `significand` times two to the power `exponent`. -/
  | finite (significand : Nat) (exponent : Int)
  | infinite
deriving DecidableEq

structure Binary64 where
  isNegative : Bool
  magnitude : Magnitude
deriving DecidableEq

namespace Binary64

def leastExponent : Int := -1074
def greatestExponent : Int := 971
def significandBound : Nat := Nat.pow 2 53

/-- `n / d` rounded to the nearest integer, a tie to the even one. -/
def roundQuotient (n d : Nat) : Nat :=
  let q := n / d
  let r := n % d
  if 2 * r < d then q else if d < 2 * r then q + 1 else if q % 2 = 0 then q else q + 1

/-- `n / d` divided by two to the power `e`, rounded. -/
def significandAt (n d : Nat) (e : Int) : Nat :=
  if 0 ≤ e then roundQuotient n (d * Nat.pow 2 e.toNat)
  else roundQuotient (n * Nat.pow 2 (-e).toNat) d

/-- The exponent under which `n / d` fills the significand, up to one. -/
def exponentNear (n d : Nat) : Int := (n.log2 : Int) - d.log2 - 53

/-- The nearest number to `n / d`. The first exponent tried may be too small by two, by one for the
estimate and by one for rounding up. -/
def ofQuotient (n d : Nat) : Magnitude :=
  let first := max (exponentNear n d) leastExponent
  let fits (e : Int) : Bool := significandAt n d e < significandBound
  let e := if fits first then first else if fits (first + 1) then first + 1 else first + 2
  let s := significandAt n d e
  if s = 0 then .zero else if greatestExponent < e then .infinite else .finite s e

/-- Number of decimal digits of a number other than zero. -/
def digitCount (n : Nat) : Nat := (Nat.toDigits 10 n).length

/-- The nearest number to `digits` times ten to the power `exponent`. Numbers far outside the range
are told by their size alone. -/
def ofDecimal (digits : Nat) (exponent : Int) : Magnitude :=
  if digits = 0 then .zero
  else
    let size := digitCount digits + exponent
    if 310 < size then .infinite
    else if size < -330 then .zero
    else if 0 ≤ exponent then ofQuotient (digits * Nat.pow 10 exponent.toNat) 1
    else ofQuotient digits (Nat.pow 10 (-exponent).toNat)

/-- Number of digits that decide, all that follow apart from whether they are zeros: a number
halfway between two binary numbers has at most 767 digits. -/
def decidingDigits : Nat := 800

/-- The nearest number to what decimal digits spell, times ten to the power `exponent`. A last digit
stands for those that follow the deciding ones: a one unless they are all zeros. -/
def ofDigitChars (digits : List Char) (exponent : Int) : Magnitude :=
  let digits := digits.dropWhile (· == '0')
  let rest := digits.drop decidingDigits
  let last := if rest.all (· == '0') then '0' else '1'
  ofDecimal (Nat.ofDigitChars 10 (digits.take decidingDigits ++ [last]) 0)
    (exponent + rest.length - 1)

end Binary64
end TokenDump.Decimal
