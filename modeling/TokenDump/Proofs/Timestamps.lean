import Mathlib.Data.Int.Lemmas
import Mathlib.Tactic.IntervalCases
import Mathlib.Tactic.SplitIfs
import TokenDump.Log.Timestamp

/-! # Timestamps read back

The text of a timestamp is read by counting the days before its date, year by year and month by
month. In the years that have four digits, and outside leap seconds, the reader comes to the
millisecond of the timestamp. -/
namespace TokenDump.Log

/-! ## The calendar -/

namespace Calendar

def isLeap (year : Nat) : Prop := year % 4 = 0 ∧ (year % 100 ≠ 0 ∨ year % 400 = 0)

instance (year : Nat) : Decidable (isLeap year) := inferInstanceAs (Decidable (_ ∧ _))

def yearLength (year : Nat) : Nat := if isLeap year then 366 else 365

/-- Days of a month; January is the month 1. -/
def monthLength (year : Nat) : Nat → Nat
  | 2 => if isLeap year then 29 else 28
  | 4 | 6 | 9 | 11 => 30
  | _ => 31

/-- Days between the start of the year 0 and the start of a year. -/
def daysBeforeYear : Nat → Nat
  | 0 => 0
  | year + 1 => daysBeforeYear year + yearLength year

/-- Days between the start of a year and the start of one of its months. -/
def daysBeforeMonth (year : Nat) : Nat → Nat
  | 0 | 1 => 0
  | month + 2 => daysBeforeMonth year (month + 1) + monthLength year (month + 1)

/-- Days between the start of the year 0 and a date. -/
def dayNumber (year month day : Nat) : Nat :=
  daysBeforeYear year + daysBeforeMonth year month + (day - 1)

/-- The calendar has the date. -/
def IsDate (year month day : Nat) : Prop :=
  1 ≤ month ∧ month ≤ 12 ∧ 1 ≤ day ∧ day ≤ monthLength year month

instance (year month day : Nat) : Decidable (IsDate year month day) :=
  inferInstanceAs (Decidable (_ ∧ _ ∧ _ ∧ _))

theorem daysBeforeYear_succ (year : Nat) :
    daysBeforeYear (year + 1) = 365 * year + year / 4 - year / 100 + year / 400 + 366 := by
  induction year with
  | zero => rfl
  | succ year ih =>
    rw [daysBeforeYear, ih, yearLength]
    by_cases hleap : isLeap (year + 1)
    · rw [if_pos hleap]
      unfold isLeap at hleap
      omega
    · rw [if_neg hleap]
      unfold isLeap at hleap
      omega

theorem daysBeforeYear_era (era : Nat) {year : Nat} (h : year < 400) :
    daysBeforeYear (400 * era + year + 1) =
      146097 * era + (365 * year + year / 4 - year / 100) + 366 := by
  rw [daysBeforeYear_succ]
  omega

end Calendar

namespace Timestamp

open Calendar

/-- A day of the 400 years from 1 March of a leap year of centuries on, split into whole centuries,
spans of four years, years and days. Only the last year of a span has 366 days, and not in the last
span of a century unless it is the last one. -/
structure Split (d c q k t : Nat) : Prop where
  sum : d = 36524 * c + 1461 * q + 365 * k + t
  century : c ≤ 3
  span : q ≤ 24
  year : k ≤ 3
  day : t < 365 ∨ t = 365 ∧ k = 3 ∧ (q < 24 ∨ c = 3)

/-- The parts are found by division, except that the last day of the era and the last one of a span
belong to the year before them. -/
theorem exists_split {d : Nat} (h : d < 146097) : ∃ c q k t, Split d c q k t := by
  by_cases hera : d = 146096
  · exact ⟨3, 24, 3, 365, by omega, by omega, by omega, by omega, by omega⟩
  by_cases hspan : d % 36524 % 1461 = 1460
  · exact ⟨d / 36524, d % 36524 / 1461, 3, 365, by omega, by omega, by omega, by omega, by omega⟩
  · exact ⟨d / 36524, d % 36524 / 1461, d % 36524 % 1461 / 365, d % 36524 % 1461 % 365,
      by omega, by omega, by omega, by omega, by omega⟩

/-- The corrections of the year of the era take off the leap days. -/
theorem Split.yearOfEra {d c q k t : Nat} (h : Split d c q k t) :
    (d - d / 1460 + d / 36524 - d / 146096) / 365 = 100 * c + 4 * q + k := by
  obtain ⟨hsum, hc, hq, hk, ht⟩ := h
  have hspans : d / 1460 = 25 * c + q + (24 * c + q + 365 * k + t) / 1460 := by omega
  have hcenturies : d / 36524 - d / 146096 = c := by
    have hrest : 1461 * q + 365 * k + t < 36524 ∨ 1461 * q + 365 * k + t = 36524 ∧ c = 3 := by
      omega
    omega
  omega

theorem Split.dayOfYear {d c q k t : Nat} (h : Split d c q k t) :
    let y := 100 * c + 4 * q + k
    d - (365 * y + y / 4 - y / 100) = t ∧ y < 400 ∧ 365 * y + y / 4 - y / 100 + t = d := by
  obtain ⟨hsum, hc, hq, hk, ht⟩ := h
  have hyears : (100 * c + 4 * q + k) / 4 = 25 * c + q := by omega
  have hcenturies : (100 * c + 4 * q + k) / 100 = c := by omega
  omega

/-- A day counted from 1 March, in the months of that year. -/
theorem march_date (year : Nat) {t : Nat} (h : (5 * t + 2) / 153 < 10) :
    let month := (5 * t + 2) / 153 + 3
    let day := t - (153 * ((5 * t + 2) / 153) + 2) / 5 + 1
    IsDate year month day ∧
      daysBeforeMonth year month + (day - 1) = t + (if isLeap year then 60 else 59) := by
  unfold IsDate
  generalize hm : (5 * t + 2) / 153 = m at h ⊢
  by_cases hleap : isLeap year <;> interval_cases m <;>
    simp only [daysBeforeMonth, monthLength, hleap, if_true, if_false] <;> omega

/-- A day counted from 1 March of the year before, in January or February. -/
theorem january_date (year : Nat) {t : Nat} (h : ¬ (5 * t + 2) / 153 < 10)
    (ht : t < 365 ∨ t = 365 ∧ isLeap year) :
    let month := (5 * t + 2) / 153 - 9
    let day := t - (153 * ((5 * t + 2) / 153) + 2) / 5 + 1
    IsDate year month day ∧ daysBeforeMonth year month + (day - 1) + 306 = t := by
  unfold IsDate
  have hlast : (5 * t + 2) / 153 = 10 ∨ (5 * t + 2) / 153 = 11 := by omega
  rcases hlast with hm | hm <;> rw [hm] <;>
    by_cases hleap : isLeap year <;>
    simp only [Nat.reduceSub, daysBeforeMonth, monthLength, hleap, if_true, if_false, and_false,
      or_false] at ht ⊢ <;> omega

theorem Split.isLeap {d c q k t : Nat} (h : Split d c q k t) (era : Nat) (ht : t = 365) :
    Calendar.isLeap (400 * era + (100 * c + 4 * q + k) + 1) := by
  have hc := h.century
  have hq := h.span
  have hk := h.day
  unfold Calendar.isLeap
  omega

/-- The date of a day, in the year 0 or later, is one of the calendar, and as many days after the
start of the year 0 as the calendar has before it. January and February belong to the year after the
one in which the count began. -/
theorem dayNumber_civil {day year : Int} {month dayOfMonth : Nat}
    (h : civil day = (year, month, dayOfMonth)) (hyear : 0 ≤ year) :
    IsDate year.toNat month dayOfMonth ∧
      (dayNumber year.toNat month dayOfMonth : Int) = day + 719528 := by
  obtain ⟨c, q, k, t, hsplit⟩ := exists_split (d := ((day + 719468) % 146097).toNat) (by omega)
  have hyearOfEra := hsplit.yearOfEra
  obtain ⟨hdayOfYear, hlt, hsum⟩ := hsplit.dayOfYear
  have hday : t < 365 ∨ t = 365 := hsplit.day.imp_right And.left
  simp only [civil, hyearOfEra, hdayOfYear, Prod.mk.injEq] at h
  have hleap := hsplit.isLeap
  clear hsplit hyearOfEra hdayOfYear
  generalize 100 * c + 4 * q + k = y at h hlt hsum hleap
  by_cases hmarch : (5 * t + 2) / 153 < 10
  · simp only [if_pos hmarch] at h
    obtain ⟨hy, rfl, rfl⟩ := h
    rw [if_neg (by omega), Int.add_zero] at hy
    obtain ⟨era, hera⟩ := Int.eq_ofNat_of_zero_le (a := (day + 719468) / 146097) (by omega)
    obtain rfl : year = ((400 * era + y : Nat) : Int) := by omega
    obtain ⟨hdate, hdays⟩ := march_date (400 * era + y) hmarch
    have hbefore := daysBeforeYear_era era hlt
    rw [daysBeforeYear, yearLength] at hbefore
    rw [Int.toNat_natCast, dayNumber]
    refine ⟨hdate, ?_⟩
    split at hdays <;> rename_i hl
    · rw [if_pos hl] at hbefore
      omega
    · rw [if_neg hl] at hbefore
      omega
  · simp only [if_neg hmarch] at h
    obtain ⟨hy, rfl, rfl⟩ := h
    rw [if_pos (by omega)] at hy
    by_cases hzero : year = 0
    · obtain rfl : year = ((0 : Nat) : Int) := hzero
      obtain ⟨hdate, hdays⟩ := january_date 0 hmarch
        (hday.imp_right fun ht => ⟨ht, by decide⟩)
      rw [Int.toNat_natCast, dayNumber, daysBeforeYear]
      refine ⟨hdate, ?_⟩
      omega
    · obtain ⟨era, hera⟩ := Int.eq_ofNat_of_zero_le (a := (day + 719468) / 146097) (by omega)
      obtain rfl : year = ((400 * era + y + 1 : Nat) : Int) := by omega
      obtain ⟨hdate, hdays⟩ := january_date (400 * era + y + 1) hmarch
        (hday.imp_right fun ht => ⟨ht, hleap era ht⟩)
      have hbefore := daysBeforeYear_era era hlt
      rw [Int.toNat_natCast, dayNumber, hbefore]
      refine ⟨hdate, ?_⟩
      omega

/-! ## Reading -/

/-- Reads numbers of fixed width, each with the mark that stands behind it. -/
def numbers? : List (Nat × Char) → List Char → Option (List Nat)
  | [], [] => some []
  | [], _ :: _ => none
  | (width, mark) :: layout, text =>
    match text.drop width with
    | [] => none
    | c :: rest =>
      if c = mark ∧ (text.take width).all Char.isDigit then
        (numbers? layout rest).map (Nat.ofDigitChars 10 (text.take width) 0 :: ·)
      else none

/-- Year, month, day, hour, minute, second and millisecond. -/
def layout : List (Nat × Char) :=
  [(4, '-'), (2, '-'), (2, 'T'), (2, ':'), (2, ':'), (2, '.'), (3, 'Z')]

/-- The milliseconds from the start of 1970 to the point in time that a text spells. -/
def read? (text : String) : Option Int :=
  match numbers? layout text.toList with
  | some [year, month, day, hour, minute, second, millisecond] =>
    if IsDate year month day ∧ hour < 24 ∧ minute < 60 ∧ second < 60 then
      let days : Int := dayNumber year month day - dayNumber 1970 1 1
      some ((((days * 24 + hour) * 60 + minute) * 60 + second) * 1000 + millisecond)
    else none
  | _ => none

def milliseconds (t : Timestamp) : Int := t.seconds * 1000 + t.nanoseconds / 1000000

/-- The year has four digits, and it is not a leap second. -/
structure Ordinary (t : Timestamp) : Prop where
  early : 0 ≤ (civil (t.seconds / 86400)).1
  late : (civil (t.seconds / 86400)).1 ≤ 9999
  second : t.nanoseconds < 1000000000

variable {t : Timestamp} {width n : Nat} {mark : Char} {rest : List Char}

theorem toList_padded (width n : Nat) : (padded width n).toList =
    List.replicate (width - (Nat.toDigits 10 n).length) '0' ++ Nat.toDigits 10 n :=
  String.toList_ofList

theorem length_padded (hw : 0 < width) (hn : n < 10 ^ width) :
    (padded width n).toList.length = width := by
  have hle := (Nat.length_toDigits_le_iff (by omega) hw).mpr hn
  rw [toList_padded, List.length_append, List.length_replicate]
  omega

theorem isDigit_padded (width n : Nat) : (padded width n).toList.all Char.isDigit = true := by
  rw [toList_padded, List.all_eq_true]
  intro c hc
  rcases List.mem_append.mp hc with hc | hc
  · rw [(List.mem_replicate.mp hc).2]
    rfl
  · exact Nat.isDigit_of_mem_toDigits (by omega) (by omega) hc

theorem ofDigitChars_padded (width n : Nat) :
    Nat.ofDigitChars 10 (padded width n).toList 0 = n := by
  rw [toList_padded, Nat.ofDigitChars_append, Nat.ofDigitChars_replicate_zero, Nat.mul_zero,
    Nat.ofDigitChars_ten_toDigits]

theorem numbers?_padded (layout : List (Nat × Char)) (hw : 0 < width) (hn : n < 10 ^ width) :
    numbers? ((width, mark) :: layout) ((padded width n).toList ++ mark :: rest) =
      (numbers? layout rest).map (n :: ·) := by
  have hlength := length_padded hw hn
  rw [numbers?, List.drop_left' hlength, List.take_left' hlength]
  simp only
  rw [if_pos ⟨trivial, isDigit_padded width n⟩, ofDigitChars_padded]

theorem year_padded {y : Int} (h : 0 ≤ y) (h' : y ≤ 9999) : year y = padded 4 y.toNat := by
  simp [year, h, h']

theorem dayNumber_epoch : dayNumber 1970 1 1 = 719528 := by
  have hyears : daysBeforeYear 1970 = _ := daysBeforeYear_succ 1969
  rw [dayNumber, hyears, daysBeforeMonth]

theorem monthLength_le (year month : Nat) : monthLength year month ≤ 31 := by
  unfold monthLength
  split
  · split <;> omega
  all_goals omega

/-- The numbers in the text of a timestamp. -/
theorem numbers?_render {y : Int} {month day : Nat} (hsecond : t.nanoseconds < 1000000000)
    (hcivil : civil (t.seconds / 86400) = (y, month, day)) (hearly : 0 ≤ y) (hlate : y ≤ 9999)
    (hdate : IsDate y.toNat month day) :
    numbers? layout t.render.toList = some [y.toNat, month, day, (t.seconds % 86400).toNat / 3600,
      (t.seconds % 86400).toNat / 60 % 60, (t.seconds % 86400).toNat % 60,
      t.nanoseconds / 1000000] := by
  have hlength := monthLength_le y.toNat month
  obtain ⟨-, hmonth, -, hday⟩ := hdate
  have hzero : t.nanoseconds / 1000000000 = 0 := by omega
  have hmod : t.nanoseconds % 1000000000 = t.nanoseconds := by omega
  rw [render, hcivil]
  simp only [year_padded hearly hlate, hzero, hmod, Nat.add_zero, String.toList_append,
    List.append_assoc]
  rw [layout, show "-".toList = ['-'] from rfl, show "T".toList = ['T'] from rfl,
    show ":".toList = [':'] from rfl, show ".".toList = ['.'] from rfl,
    show "Z".toList = ['Z'] from rfl]
  simp only [List.singleton_append]
  rw [numbers?_padded _ (by omega) (by omega), numbers?_padded _ (by omega) (by omega),
    numbers?_padded _ (by omega) (by omega), numbers?_padded _ (by omega) (by omega),
    numbers?_padded _ (by omega) (by omega), numbers?_padded _ (by omega) (by omega),
    numbers?_padded _ (by omega) (by omega), numbers?]
  rfl

/-- A timestamp is read back to the millisecond. -/
theorem read?_render (h : t.Ordinary) : read? t.render = some t.milliseconds := by
  obtain ⟨hearly, hlate, hsecond⟩ := h
  generalize hcivil : civil (t.seconds / 86400) = date at hearly hlate
  obtain ⟨y, month, day⟩ := date
  obtain ⟨hdate, hdays⟩ := dayNumber_civil hcivil hearly
  rw [read?, numbers?_render hsecond hcivil hearly hlate hdate]
  simp only
  rw [if_pos ⟨hdate, by omega, by omega, by omega⟩, hdays, dayNumber_epoch, milliseconds]
  refine congrArg some ?_
  omega

end Timestamp
end TokenDump.Log
