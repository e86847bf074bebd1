/-! # Timestamps

Points in time on the calendar of UTC, written to the millisecond as RFC 3339 has it. -/
namespace TokenDump.Log

structure Timestamp where
  /-- Seconds since the start of 1970. -/
  seconds : Int
  /-- From one thousand million on they lie in the leap second that follows `seconds`. -/
  nanoseconds : Nat
deriving DecidableEq

namespace Timestamp

def epoch : Timestamp := ⟨0, 0⟩

/-- Year, month and day of a day counted from the start of 1970. The count is moved to 1 March of
the year 0, so that the day a leap year adds is the last of its year, and then split into eras of
400 years. -/
def civil (day : Int) : Int × Nat × Nat :=
  let shifted := day + 719468
  let era := shifted / 146097
  let dayOfEra := (shifted % 146097).toNat
  let yearOfEra := (dayOfEra - dayOfEra / 1460 + dayOfEra / 36524 - dayOfEra / 146096) / 365
  let dayOfYear := dayOfEra - (365 * yearOfEra + yearOfEra / 4 - yearOfEra / 100)
  let marchMonth := (5 * dayOfYear + 2) / 153
  let dayOfMonth := dayOfYear - (153 * marchMonth + 2) / 5 + 1
  let month := if marchMonth < 10 then marchMonth + 3 else marchMonth - 9
  (era * 400 + yearOfEra + (if month ≤ 2 then 1 else 0), month, dayOfMonth)

/-- A number in at least `width` digits. -/
def padded (width n : Nat) : String :=
  let digits := Nat.toDigits 10 n
  String.ofList (List.replicate (width - digits.length) '0' ++ digits)

/-- A year in four digits; outside 0 to 9999 its sign is written too. -/
def year (y : Int) : String :=
  if 0 ≤ y && y ≤ 9999 then padded 4 y.toNat
  else (if y < 0 then "-" else "+") ++ padded 4 y.natAbs

def render (t : Timestamp) : String :=
  let (y, month, dayOfMonth) := civil (t.seconds / 86400)
  let secondOfDay := (t.seconds % 86400).toNat
  let second := secondOfDay % 60 + t.nanoseconds / 1000000000
  let millisecond := t.nanoseconds % 1000000000 / 1000000
  year y ++ "-" ++ padded 2 month ++ "-" ++ padded 2 dayOfMonth ++ "T" ++
    padded 2 (secondOfDay / 3600) ++ ":" ++ padded 2 (secondOfDay / 60 % 60) ++ ":" ++
    padded 2 second ++ "." ++ padded 3 millisecond ++ "Z"

end Timestamp
end TokenDump.Log
