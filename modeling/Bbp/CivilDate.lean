import Mathlib

/-!
# Days of the civil calendar

The evidence of a run dates its events by counting days from 1970-01-01.  The formula is compared
with the calendar itself: the lengths of years and months, and the date that follows a date.
-/

namespace Bbp

section Calendar

/-- `DaysFromCivil`: years begin in March, and all eras of 400 years are alike. -/
def daysFromCivil (year : Int) (month day : Nat) : Int :=
  let year := if month ≤ 2 then year - 1 else year
  let era := (if year ≥ 0 then year else year - 399).tdiv 400
  let yearOfEra := (year - era * 400).toNat
  let shiftedMonth := if month > 2 then month - 3 else month + 9
  let dayOfYear := (153 * shiftedMonth + 2) / 5 + day - 1
  let dayOfEra := yearOfEra * 365 + yearOfEra / 4 - yearOfEra / 100 + dayOfYear
  era * 146097 + dayOfEra - 719468

def isLeapYear (year : Int) : Prop := year % 4 = 0 ∧ (year % 100 ≠ 0 ∨ year % 400 = 0)

instance (year : Int) : Decidable (isLeapYear year) := inferInstanceAs (Decidable (_ ∧ _))

def yearLength (year : Int) : Int := if isLeapYear year then 366 else 365

def monthLength (year : Int) : Nat → Nat
  | 2 => if isLeapYear year then 29 else 28
  | 4 | 6 | 9 | 11 => 30
  | _ => 31

/-- The days from 1970-01-01 to the first day of a year so many years later or earlier. -/
def daysToYear : Int → Int
  | .ofNat n => ∑ i ∈ Finset.range n, yearLength (1970 + i)
  | .negSucc n => -∑ i ∈ Finset.range (n + 1), yearLength (1969 - i)

/-- The days from the first day of a year to the first day of a month. -/
def daysToMonth (year : Int) : Nat → Int
  | 0 => 0
  | month + 1 => daysToMonth year month + if month = 0 then 0 else monthLength year month

def nextDate (year : Int) (month day : Nat) : Int × Nat × Nat :=
  if day < monthLength year month then (year, month, day + 1)
  else if month < 12 then (year, month + 1, 1)
  else (year + 1, 1, 1)

end Calendar

section Count

theorem era_eq (year : Int) : (if year ≥ 0 then year else year - 399).tdiv 400 = year / 400 := by
  rw [Int.tdiv_eq_ediv]
  have hsign : Int.sign 400 = 1 := rfl
  split_ifs <;> omega

/-- The days to the first of March of a year. -/
def daysToMarch (year : Int) : Int :=
  year / 400 * 146097 + (year % 400 * 365 + year % 400 / 4 - year % 400 / 100) - 719468

theorem daysFromCivil_eq (year : Int) {month day : Nat} (hday : 1 ≤ day) :
    daysFromCivil year month day = daysToMarch (if month ≤ 2 then year - 1 else year) +
      (153 * (if month > 2 then month - 3 else month + 9) + 2) / 5 + (day - 1) := by
  simp only [daysFromCivil, era_eq, daysToMarch]
  generalize (if month ≤ 2 then year - 1 else year) = year
  generalize (if month > 2 then month - 3 else month + 9) = shifted
  omega

/-- A year that begins in March has the day of the leap year at its end. -/
theorem daysToMarch_succ (year : Int) :
    daysToMarch year = daysToMarch (year - 1) + yearLength year := by
  unfold daysToMarch yearLength isLeapYear
  split_ifs <;> omega

theorem daysFromCivil_month {year : Int} {month day : Nat} (hmonth : 1 ≤ month ∧ month ≤ 12)
    (hday : 1 ≤ day) :
    daysFromCivil year month day = daysFromCivil year 1 1 + daysToMonth year month + (day - 1) := by
  obtain ⟨hlow, hhigh⟩ := hmonth
  have hmarch := daysToMarch_succ year
  unfold yearLength at hmarch
  rw [daysFromCivil_eq year hday, daysFromCivil_eq year le_rfl]
  interval_cases month
  · simp [daysToMonth]
  all_goals
    simp [daysToMonth, monthLength]
    split_ifs at hmarch ⊢
    all_goals omega

theorem daysFromCivil_year (year : Int) :
    daysFromCivil (year + 1) 1 1 = daysFromCivil year 1 1 + yearLength year := by
  have hmarch := daysToMarch_succ year
  rw [daysFromCivil_eq _ le_rfl, daysFromCivil_eq _ le_rfl]
  simp
  omega

theorem daysToYear_succ (years : Int) :
    daysToYear (years + 1) = daysToYear years + yearLength (1970 + years) := by
  match years with
  | .ofNat n => exact Finset.sum_range_succ _ n
  | .negSucc 0 => simp [daysToYear]
  | .negSucc (n + 1) =>
    have hyear : (1970 : Int) + Int.negSucc (n + 1) = 1969 - (n + 1 : Nat) := by omega
    rw [hyear]
    simp only [daysToYear, show Int.negSucc (n + 1) + 1 = Int.negSucc n from rfl,
      Finset.sum_range_succ _ (n + 1)]
    omega

theorem daysFromCivil_firstDay (years : Int) :
    daysFromCivil (1970 + years) 1 1 = daysToYear years := by
  induction years using Int.induction_on with
  | zero => decide
  | succ n ih => rw [← add_assoc, daysFromCivil_year, ih, daysToYear_succ]
  | pred n ih =>
    have hyear := daysFromCivil_year (1970 + (-n - 1))
    have hdays := daysToYear_succ (-n - 1)
    rw [show (1970 : Int) + (-n - 1) + 1 = 1970 + -n by omega, ih] at hyear
    rw [sub_add_cancel] at hdays
    omega

/-- The formula counts the days of the calendar, and the next date is one day later. -/
theorem daysFromCivil_counts (year : Int) (month day : Nat) (hmonth : 1 ≤ month ∧ month ≤ 12)
    (hday : 1 ≤ day ∧ day ≤ monthLength year month) :
    daysFromCivil year month day =
        daysToYear (year - 1970) + daysToMonth year month + (day - 1) ∧
      let (year', month', day') := nextDate year month day
      daysFromCivil year' month' day' = daysFromCivil year month day + 1 := by
  have hfirst := daysFromCivil_firstDay (year - 1970)
  rw [show 1970 + (year - 1970) = year by omega] at hfirst
  have hcount := @daysFromCivil_month year month day hmonth hday.1
  refine ⟨by rw [hcount, hfirst], ?_⟩
  unfold nextDate
  split_ifs with hmiddle hyear
  · have hnext := @daysFromCivil_month year month (day + 1) hmonth (by omega)
    push_cast at hnext
    dsimp only
    omega
  · have hnext := @daysFromCivil_month year (month + 1) 1 (by omega) le_rfl
    simp only [daysToMonth, if_neg (show month ≠ 0 by omega)] at hnext
    dsimp only
    push_cast at hnext
    omega
  · have hmonths : month = 12 := by omega
    subst hmonths
    have hnext := daysFromCivil_year year
    have hlength : daysToMonth year 12 + 31 = yearLength year := by
      by_cases hleap : isLeapYear year <;> simp [daysToMonth, monthLength, yearLength, hleap]
    simp only [monthLength] at hday hmiddle
    dsimp only
    omega

theorem daysFromCivil_counts_leap_day :
    daysFromCivil 2000 2 29 + 1 = daysFromCivil 2000 3 1 :=
  (daysFromCivil_counts 2000 2 29 (by decide) (by decide)).2.symm

end Count

end Bbp
