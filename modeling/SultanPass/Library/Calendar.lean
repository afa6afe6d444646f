import Mathlib.Data.Nat.Find
import Mathlib.Order.Monotone.Basic

/-!
# Days and months of the Gregorian calendar

A time is a number of seconds, a day a number of days and a month a number
of months, all counted from the beginning of 1970.  `firstDay` is the day on
which a month begins, and `monthOf` the month of a time; it is monotone.

`subMonths` goes back by months on the calendar and keeps the day of the
month, which may run over into the next month.
-/

namespace SultanPass.Library.Calendar

/-! ## Days -/

def secondsPerDay : ℕ :=
  86400

/-- The day of a time. -/
def dayOf (time : ℕ) : ℕ :=
  time / secondsPerDay

/-- Midnight at the beginning of a day. -/
def startOfDay (day : ℕ) : ℕ :=
  day * secondsPerDay

theorem startOfDay_dayOf_le (time : ℕ) :
    startOfDay (dayOf time) ≤ time :=
  Nat.div_mul_le_self time secondsPerDay

theorem startOfDay_mono : Monotone startOfDay :=
  fun _ _ ordered => Nat.mul_le_mul_right secondsPerDay ordered

/-- A day has begun when it is not later than the day of the time. -/
theorem startOfDay_le_iff {day time : ℕ} :
    startOfDay day ≤ time ↔ day ≤ dayOf time :=
  (Nat.le_div_iff_mul_le (by decide)).symm

/-- A time that is not after a midnight is before its day or is it. -/
theorem le_startOfDay_iff {day time : ℕ} :
    time ≤ startOfDay day ↔ dayOf time < day ∨ time = startOfDay day := by
  rw [← Nat.not_le, ← startOfDay_le_iff, Nat.not_le]
  exact Nat.le_iff_lt_or_eq

/-! ## Months -/

def isLeapYear (year : ℕ) : Bool :=
  year % 4 = 0 && (year % 100 ≠ 0 || year % 400 = 0)

def daysInMonth (month : ℕ) : ℕ :=
  match month % 12 with
  | 1 => if isLeapYear (1970 + month / 12) then 29 else 28
  | 3 => 30
  | 5 => 30
  | 8 => 30
  | 10 => 30
  | _ => 31

/-- The first day of a month. -/
def firstDay : ℕ → ℕ
  | 0 => 0
  | month + 1 => firstDay month + daysInMonth month

theorem daysInMonth_pos (month : ℕ) : 0 < daysInMonth month := by
  rw [daysInMonth]
  split
  · split <;> decide
  all_goals decide

theorem firstDay_strictMono : StrictMono firstDay :=
  strictMono_nat_of_lt_succ fun month =>
    Nat.lt_add_of_pos_right (daysInMonth_pos month)

example : firstDay 2 = 59 := by decide

/-- The month of a day. -/
def monthOfDay (day : ℕ) : ℕ :=
  Nat.findGreatest (fun month => firstDay month ≤ day) day

theorem firstDay_monthOfDay_le (day : ℕ) :
    firstDay (monthOfDay day) ≤ day :=
  Nat.findGreatest_spec (P := fun month => firstDay month ≤ day)
    (Nat.zero_le day) (Nat.zero_le day)

/-- The month of a time. -/
def monthOf (time : ℕ) : ℕ :=
  monthOfDay (dayOf time)

/-! ## Going back by months -/

/--
The time some months earlier, on the same day of the month and at the same
time of day; times before 1970 are cut off.
-/
def subMonths (months time : ℕ) : ℕ :=
  let day := dayOf time
  let month := monthOfDay day
  if months ≤ month then
    startOfDay (firstDay (month - months) + (day - firstDay month)) +
      time % secondsPerDay
  else
    0

/-- Some months ago is not later than the beginning of the day. -/
theorem subMonths_le_startOfDay
    {months : ℕ} (positive : 0 < months) (time : ℕ) :
    subMonths months time ≤ startOfDay (dayOf time) := by
  rw [subMonths]
  split_ifs with reaches
  · have begun := firstDay_monthOfDay_le (dayOf time)
    have earlier :
        firstDay (monthOfDay (dayOf time) - months) <
          firstDay (monthOfDay (dayOf time)) :=
      firstDay_strictMono (Nat.sub_lt (by omega) positive)
    have before :
        firstDay (monthOfDay (dayOf time) - months) +
            (dayOf time - firstDay (monthOfDay (dayOf time))) + 1 ≤
          dayOf time := by
      omega
    have ordered := startOfDay_mono before
    have within : time % secondsPerDay < secondsPerDay :=
      Nat.mod_lt time (by decide)
    rw [startOfDay, Nat.add_mul, Nat.one_mul] at ordered
    rw [startOfDay]
    exact (Nat.add_le_add_left within.le _).trans ordered
  · exact Nat.zero_le _

end SultanPass.Library.Calendar
