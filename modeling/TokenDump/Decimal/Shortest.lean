import TokenDump.Decimal.Binary64

/-! # Shortest decimals

The decimal with the fewest digits that rounds to a given binary number, and of those the nearest
one; of two that are as near as each other, the greater one. It is written without an exponent. -/
namespace TokenDump.Decimal

/-- A number of the form `above / below`. -/
structure Quotient where
  above : Nat
  below : Nat

namespace Quotient

def le (p q : Quotient) : Bool := p.above * q.below ≤ q.above * p.below
def lt (p q : Quotient) : Bool := p.above * q.below < q.above * p.below

/-- `n` times `base` to the power `e`. -/
def scaled (n base : Nat) (e : Int) : Quotient :=
  if 0 ≤ e then ⟨n * Nat.pow base e.toNat, 1⟩ else ⟨n, Nat.pow base (-e).toNat⟩

/-- The distance between two numbers. -/
def distance (p q : Quotient) : Quotient :=
  let a := p.above * q.below
  let b := q.above * p.below
  ⟨(a - b) + (b - a), p.below * q.below⟩

/-- The whole part of `q` divided by ten to the power `e`. -/
def wholeAt (q : Quotient) (e : Int) : Nat :=
  if 0 ≤ e then q.above / (q.below * Nat.pow 10 e.toNat)
  else q.above * Nat.pow 10 (-e).toNat / q.below

end Quotient

/-- The numbers that round to a binary number. -/
structure Neighbourhood where
  value : Quotient
  low : Quotient
  high : Quotient
  /-- Whether the two ends round to the number too. -/
  closed : Bool

/-- Halfway to the next number on both sides; below a power of two they are twice as dense. -/
def neighbourhood (significand : Nat) (exponent : Int) : Neighbourhood :=
  let dense := significand = Nat.pow 2 52 && Binary64.leastExponent < exponent
  { value := .scaled significand 2 exponent
    low := .scaled (4 * significand - (if dense then 1 else 2)) 2 (exponent - 2)
    high := .scaled (4 * significand + 2) 2 (exponent - 2)
    closed := significand % 2 = 0 }

def Neighbourhood.holds (n : Neighbourhood) (q : Quotient) : Bool :=
  if n.closed then n.low.le q && q.le n.high else n.low.lt q && q.lt n.high

/-- The multiple of ten to the power `e` next to the value that is in the neighbourhood, if any; a
tie goes up. -/
def Neighbourhood.onGrid? (n : Neighbourhood) (e : Int) : Option Nat :=
  let below := n.value.wholeAt e
  let holds (d : Nat) : Bool := 0 < d && n.holds (.scaled d 10 e)
  let gap (d : Nat) : Quotient := Quotient.distance n.value (.scaled d 10 e)
  if holds below then
    if holds (below + 1) && (gap (below + 1)).le (gap below) then some (below + 1) else some below
  else if holds (below + 1) then some (below + 1)
  else none

/-- The first grid with a hit, from coarse to fine. -/
def Neighbourhood.search (n : Neighbourhood) : Nat → Int → Nat × Int
  | 0, e => (n.value.wholeAt e, e)
  | steps + 1, e =>
    match n.onGrid? e with
    | some d => (d, e)
    | none => n.search steps (e - 1)

/-- Digits and exponent of the shortest decimal. Eighteen digits are more than any number needs. -/
def shortest (significand : Nat) (exponent : Int) : Nat × Int :=
  let n := neighbourhood significand exponent
  let size : Int :=
    if n.value.below ≤ n.value.above then Binary64.digitCount (n.value.above / n.value.below)
    else 1 - Binary64.digitCount (n.value.below / n.value.above)
  n.search 20 (size + 1)

/-- `digits` times ten to the power `exponent`, without an exponent. -/
def positional (digits : Nat) (exponent : Int) : String :=
  let ds := Nat.toDigits 10 digits
  if 0 ≤ exponent then String.ofList (ds ++ List.replicate exponent.toNat '0')
  else
    let places := (-exponent).toNat
    let ds := List.replicate (places + 1 - ds.length) '0' ++ ds
    String.ofList (ds.take (ds.length - places) ++ '.' :: ds.drop (ds.length - places))

/-- A number as messages show it: always with a point, unless it is infinite. -/
def Binary64.render (b : Binary64) : String :=
  let sign := if b.isNegative then "-" else ""
  match b.magnitude with
  | .zero => sign ++ "0.0"
  | .infinite => sign ++ "inf"
  | .finite significand exponent =>
    let (digits, e) := shortest significand exponent
    let text := positional digits e
    sign ++ if text.toList.contains '.' then text else text ++ ".0"

end TokenDump.Decimal
