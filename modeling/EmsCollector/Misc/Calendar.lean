import Mathlib

/-!
# The calendar

The dates of the Gregorian calendar, which is continued backwards to the year 1, and their
weekdays.
-/

namespace EmsCollector

def LeapYear (year : Nat) : Prop := year % 4 = 0 ∧ (year % 100 ≠ 0 ∨ year % 400 = 0)

instance (year : Nat) : Decidable (LeapYear year) :=
  inferInstanceAs (Decidable (year % 4 = 0 ∧ (year % 100 ≠ 0 ∨ year % 400 = 0)))

def daysInYear (year : Nat) : Nat := if LeapYear year then 366 else 365

def daysInMonth (year : Nat) : Nat → Nat
  | 2 => if LeapYear year then 29 else 28
  | 4 | 6 | 9 | 11 => 30
  | _ => 31

structure Date where
  year : Nat
  month : Nat
  day : Nat
  year_pos : 1 ≤ year
  month_range : 1 ≤ month ∧ month ≤ 12
  day_range : 1 ≤ day ∧ day ≤ daysInMonth year month

namespace Date

/-- The days before a date. -/
def daysBefore (d : Date) : Nat :=
  ∑ year ∈ Finset.Ico 1 d.year, daysInYear year +
    ∑ month ∈ Finset.Ico 1 d.month, daysInMonth d.year month + (d.day - 1)

/-- The weekday, with 0 for Monday: the first day of the year 1 is one. -/
def weekday (d : Date) : Nat := d.daysBefore % 7

theorem weekday_lt (d : Date) : d.weekday < 7 := Nat.mod_lt _ (by decide)

/-- The leap years up to a year are counted by the rule for them. -/
theorem sum_daysInYear (n : Nat) :
    ∑ year ∈ Finset.Ico 1 (n + 1), daysInYear year + n / 100 = 365 * n + n / 4 + n / 400 := by
  induction n with
  | zero => rfl
  | succ n ih =>
      rw [Finset.sum_Ico_succ_top (Nat.le_add_left 1 n)]
      by_cases leap : LeapYear (n + 1)
      · have days : daysInYear (n + 1) = 366 := if_pos leap
        unfold LeapYear at leap
        omega
      · have days : daysInYear (n + 1) = 365 := if_neg leap
        unfold LeapYear at leap
        omega

/-- The days of a year before one of its months: behind February, every month has 28 days and its
    share of the others. -/
theorem sum_daysInMonth (year : Nat) {month : Nat} (range : 1 ≤ month ∧ month ≤ 12) :
    ∑ earlier ∈ Finset.Ico 1 month, daysInMonth year earlier =
      if month ≤ 2 then 31 * (month - 1)
      else 28 * (month - 2) + 31 * (month - 2) / 12 + (if LeapYear year then 30 else 29) := by
  obtain ⟨low, high⟩ := range
  by_cases leap : LeapYear year <;> interval_cases month <;>
    simp [Finset.sum_Ico_succ_top, daysInMonth, leap]

end Date

end EmsCollector
