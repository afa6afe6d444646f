import Mathlib.Data.List.Count
import Mathlib.Data.Int.Order.Basic
import SultanPass.Library.Calendar

/-!
# Dates as texts

The Gregorian calendar repeats every 400 years.  A day before or after 1970
therefore has its month and its day of the month in the first 400 years,
and only the year counts the cycles.

`dateText` writes the date of a day, as in `2025-01-07`.  Different days
have different texts (`dateText_injective`).
-/

namespace SultanPass.Library.Calendar

/-! ## Midnights -/

/-- The day of a time, which may be before 1970. -/
def dayAt (time : ℤ) : ℤ :=
  time / secondsPerDay

/-- The beginning of a day. -/
def midnight (day : ℤ) : ℤ :=
  day * secondsPerDay

theorem midnight_le_iff {day time : ℤ} :
    midnight day ≤ time ↔ day ≤ dayAt time :=
  (Int.le_ediv_iff_mul_le (by decide)).symm

theorem lt_midnight_iff {day time : ℤ} :
    time < midnight day ↔ dayAt time < day := by
  rw [← Int.not_le, midnight_le_iff, Int.not_le]

@[simp]
theorem dayAt_midnight (day : ℤ) : dayAt (midnight day) = day :=
  Int.mul_ediv_cancel day (by decide)

/-- Going back by whole days goes back by as many midnights. -/
theorem dayAt_sub_days (time days : ℤ) :
    dayAt (time - days * secondsPerDay) = dayAt time - days :=
  Int.sub_mul_ediv_right time days (by decide)

/-! ## Dates -/

/-- The days of 400 years. -/
def cycleDays : ℕ :=
  146097

theorem firstDay_cycle : firstDay 4800 = cycleDays := by
  decide +kernel

theorem monthOfDay_lt_of_cycle {day : ℕ} (within : day < cycleDays) :
    monthOfDay day < 4800 := by
  apply firstDay_strictMono.lt_iff_lt.mp
  rw [firstDay_cycle]
  exact (firstDay_monthOfDay_le day).trans_lt within

structure CivilDate where
  year : ℤ
  month : ℕ
  day : ℕ
deriving DecidableEq, Repr

/-- The position of a day within the 400 years from 1970 on. -/
def dayOfCycle (day : ℤ) : ℕ :=
  (day % cycleDays).toNat

theorem dayOfCycle_lt (day : ℤ) : dayOfCycle day < cycleDays :=
  (Int.toNat_lt (Int.emod_nonneg day (by decide))).mpr
    (Int.emod_lt_of_pos day (by decide))

def civilDate (day : ℤ) : CivilDate :=
  let rest := dayOfCycle day
  let month := monthOfDay rest
  { year := 1970 + 400 * (day / cycleDays) + (month / 12 : ℕ)
    month := month % 12 + 1
    day := rest - firstDay month + 1 }

/-- The day of a date. -/
def CivilDate.toDay (date : CivilDate) : ℤ :=
  let years := date.year - 1970
  let month := 12 * (years % 400).toNat + (date.month - 1)
  cycleDays * (years / 400) + (firstDay month + (date.day - 1) : ℕ)

theorem toDay_civilDate (day : ℤ) : (civilDate day).toDay = day := by
  let rest := dayOfCycle day
  let month := monthOfDay rest
  have within : month / 12 < 400 :=
    Nat.div_lt_of_lt_mul (monthOfDay_lt_of_cycle (dayOfCycle_lt day))
  have years :
      (civilDate day).year - 1970 =
        400 * (day / cycleDays) + (month / 12 : ℕ) := by
    change 1970 + 400 * (day / cycleDays) + (month / 12 : ℕ) - 1970 = _
    omega
  have cycles :
      ((civilDate day).year - 1970) / 400 = day / cycleDays := by
    rw [years]
    omega
  have months :
      12 * (((civilDate day).year - 1970) % 400).toNat +
          ((civilDate day).month - 1) =
        month := by
    rw [years]
    change _ + (month % 12 + 1 - 1) = month
    omega
  have begun : firstDay month ≤ rest := firstDay_monthOfDay_le rest
  have days :
      firstDay month + ((civilDate day).day - 1) = rest := by
    change _ + (rest - firstDay month + 1 - 1) = rest
    omega
  rw [CivilDate.toDay, cycles, months, days]
  change cycleDays * (day / cycleDays) + (dayOfCycle day : ℤ) = day
  rw [dayOfCycle, Int.toNat_of_nonneg (Int.emod_nonneg day (by decide))]
  exact Int.mul_ediv_add_emod day cycleDays

theorem civilDate_injective : Function.Injective civilDate :=
  Function.LeftInverse.injective toDay_civilDate

example : civilDate 59 = ⟨1970, 3, 1⟩ := by decide

/-! ## Texts -/

/-- A number with leading zeros, so that there are some digits at least. -/
def padded (width number : ℕ) : List Char :=
  let digits := Nat.toDigits 10 number
  List.replicate (width - digits.length) '0' ++ digits

theorem ofDigitChars_padded (width number : ℕ) :
    Nat.ofDigitChars 10 (padded width number) 0 = number := by
  rw [padded, Nat.ofDigitChars_append, Nat.ofDigitChars_replicate_zero,
    Nat.mul_zero, Nat.ofDigitChars_ten_toDigits]

theorem padded_injective (width : ℕ) :
    Function.Injective (padded width) :=
  Function.LeftInverse.injective
    (g := fun text => Nat.ofDigitChars 10 text 0)
    (ofDigitChars_padded width)

theorem isDigit_of_mem_padded {width number : ℕ} {character : Char}
    (member : character ∈ padded width number) :
    character.isDigit = true := by
  rcases List.mem_append.mp member with zero | digit
  · rw [List.eq_of_mem_replicate zero]
    decide
  · exact Nat.isDigit_of_mem_toDigits (by omega) (by omega) digit

theorem dash_notMem_padded (width number : ℕ) :
    '-' ∉ padded width number := by
  intro member
  exact nomatch isDigit_of_mem_padded member

/-- A text is cut in one way only at its first separator. -/
theorem cut_unique {Value : Type} {separator : Value}
    {left left' right right' : List Value}
    (absent : separator ∉ left) (absent' : separator ∉ left')
    (equal : left ++ separator :: right = left' ++ separator :: right') :
    left = left' ∧ right = right' := by
  induction left generalizing left' with
  | nil =>
      cases left' with
      | nil => exact ⟨rfl, List.tail_eq_of_cons_eq equal⟩
      | cons head' tail' =>
          cases equal
          exact (absent' List.mem_cons_self).elim
  | cons head tail ih =>
      cases left' with
      | nil =>
          cases equal
          exact (absent List.mem_cons_self).elim
      | cons head' tail' =>
          rw [List.mem_cons, not_or] at absent absent'
          rw [List.cons_append, List.cons_append,
            List.cons.injEq] at equal
          rcases ih absent.2 absent'.2 equal.2 with ⟨tails, rights⟩
          exact ⟨by rw [equal.1, tails], rights⟩

/-- At least four digits, after a sign before the year 0. -/
def yearText (year : ℤ) : List Char :=
  if year < 0 then '-' :: padded 4 year.natAbs else padded 4 year.natAbs

def CivilDate.characters (date : CivilDate) : List Char :=
  yearText date.year ++
    '-' :: (padded 2 date.month ++ '-' :: padded 2 date.day)

theorem width_le_length_padded (width number : ℕ) :
    width ≤ (padded width number).length := by
  rw [padded, List.length_append, List.length_replicate]
  omega

/-- A year without a sign does not begin like one that has a sign. -/
theorem padded_append_ne_dash (number : ℕ) (left right : List Char) :
    padded 4 number ++ left ≠ '-' :: right := by
  intro equal
  have long := width_le_length_padded 4 number
  have noDash := dash_notMem_padded 4 number
  cases digits : padded 4 number with
  | nil =>
      rw [digits] at long
      cases long
  | cons head tail =>
      rw [digits] at equal noDash
      cases equal
      exact noDash List.mem_cons_self

theorem monthAndDay_injective {month month' day day' : ℕ}
    (equal :
      padded 2 month ++ '-' :: padded 2 day =
        padded 2 month' ++ '-' :: padded 2 day') :
    month = month' ∧ day = day' := by
  rcases cut_unique (dash_notMem_padded 2 month)
      (dash_notMem_padded 2 month') equal with ⟨months, days⟩
  exact ⟨padded_injective 2 months, padded_injective 2 days⟩

theorem yearText_unique {year year' : ℤ} {rest rest' : List Char}
    (equal :
      yearText year ++ '-' :: rest = yearText year' ++ '-' :: rest') :
    year = year' ∧ rest = rest' := by
  have digits {number number' : ℕ}
      (same :
        padded 4 number ++ '-' :: rest =
          padded 4 number' ++ '-' :: rest') :
      number = number' ∧ rest = rest' := by
    rcases cut_unique (dash_notMem_padded 4 number)
        (dash_notMem_padded 4 number') same with ⟨years, rests⟩
    exact ⟨padded_injective 4 years, rests⟩
  rw [yearText, yearText] at equal
  split_ifs at equal with before before' before'
  · rcases digits (List.tail_eq_of_cons_eq equal) with ⟨years, rests⟩
    exact ⟨by omega, rests⟩
  · exact (padded_append_ne_dash _ _ _ equal.symm).elim
  · exact (padded_append_ne_dash _ _ _ equal).elim
  · rcases digits equal with ⟨years, rests⟩
    exact ⟨by omega, rests⟩

theorem CivilDate.characters_injective :
    Function.Injective CivilDate.characters := by
  intro left right equal
  rcases yearText_unique equal with ⟨years, rests⟩
  rcases monthAndDay_injective rests with ⟨months, days⟩
  cases left
  cases right
  simp only at years months days
  rw [years, months, days]

/-- The date of a day, as in `2025-01-07`. -/
def dateText (day : ℤ) : String :=
  String.ofList (civilDate day).characters

theorem dateText_injective : Function.Injective dateText := by
  intro left right equal
  apply civilDate_injective
  apply CivilDate.characters_injective
  exact String.ofList_injective equal

example : dateText 59 = "1970-03-01" := by decide

end SultanPass.Library.Calendar
