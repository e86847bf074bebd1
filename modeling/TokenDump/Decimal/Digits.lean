/-! # Numbers spelled in digits

A spelling may have any number of digits, but who reads it needs the number only up to a limit.
Past the limit the digits that are left no longer count; up to it the number is exact. -/
namespace TokenDump.Decimal

/-- The number that digits spell in a base. Once it is past the limit it stays as it is. -/
def ofDigits (base limit : Nat) (digits : List Nat) : Nat :=
  digits.foldl (fun n d => if limit < n then n else n * base + d) 0

theorem le_foldl_digits {base : Nat} (h : 0 < base) (digits : List Nat) (n : Nat) :
    n ≤ digits.foldl (fun n d => n * base + d) n := by
  induction digits generalizing n with
  | nil => exact Nat.le_refl n
  | cons d digits ih =>
    have hmul := Nat.le_mul_of_pos_right n h
    exact Nat.le_trans (Nat.le_add_right_of_le hmul) (ih (n * base + d))

/-- A number up to the limit is exact. -/
theorem ofDigits_of_le {base limit : Nat} {digits : List Nat} (hbase : 0 < base)
    (h : digits.foldl (fun n d => n * base + d) 0 ≤ limit) :
    ofDigits base limit digits = digits.foldl (fun n d => n * base + d) 0 := by
  rw [ofDigits]
  generalize 0 = n at h
  induction digits generalizing n with
  | nil => rfl
  | cons d digits ih =>
    have hn : n ≤ limit := Nat.le_trans (le_foldl_digits hbase (d :: digits) n) h
    rw [List.foldl_cons, List.foldl_cons, if_neg (by omega)]
    exact ih _ h

/-- The number that decimal digits spell, up to a limit. -/
def ofDigitChars (limit : Nat) (digits : List Char) : Nat :=
  ofDigits 10 limit (digits.map fun c => c.toNat - '0'.toNat)

end TokenDump.Decimal
