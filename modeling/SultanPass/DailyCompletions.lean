import Mathlib.Algebra.BigOperators.Group.List.Basic
import Mathlib.Tactic.Positivity
import SultanPass.EvaluationDashboards
import SultanPass.Library.CivilDate

/-!
# The series of daily completions

`DashboardController::dailyCompletions` with the texts by which it finds its
days, that is the completed participations of the last days.  One query
counts the rows by the text of their date, and a loop over the days looks
every day up by its own text.  The window of the query and the range of the loop are
computed independently; a row counts for a day exactly when it was updated
on it, and the later rows that the query counts as well belong to no day.

`dailyCompletions_conserves` says what the series shows of a table.
-/

namespace SultanPass.DailyCompletions

open SultanPass.Library.Calendar
open SultanPass.DashboardController (DailyCompletion isCompleted)

/-! ## The query -/

/-- What the query reads of a row of `assessment_participants`. -/
structure CompletionColumns where
  status : ParticipationStatus
  updatedAt : Option ℤ
deriving DecidableEq, Repr

/-- The time of a row that satisfies the conditions of the query. -/
def completedSince (start : ℤ) (row : CompletionColumns) : Option ℤ :=
  match row.updatedAt with
  | none => none
  | some time =>
      if row.status = .completed ∧ start ≤ time then some time else none

/-- `DATE(updated_at)` of the rows that the query selects. -/
def completionDays (rows : List CompletionColumns) (start : ℤ) :
    List String :=
  (rows.filterMap (completedSince start)).map fun time =>
    dateText (dayAt time)

/-- The groups of the query, each with its number of rows. -/
def completionsByDay (rows : List CompletionColumns) (start : ℤ) :
    List (String × ℕ) :=
  let days := completionDays rows start
  days.dedup.map fun day => (day, days.count day)

/-! ## The series -/

structure DayTotal where
  label : String
  date : ℤ
  total : ℕ
deriving DecidableEq, Repr

structure CompletionEntry extends DayTotal where
  percentage : ℚ
deriving DecidableEq, Repr

/-- Some days ago, at the beginning of the day. -/
def startOfDayAgo (now days : ℤ) : ℤ :=
  midnight (dayAt (now - days * secondsPerDay))

/-- `$start` of a window of some days. -/
def windowStart (now : ℤ) (days : ℕ) : ℤ :=
  startOfDayAgo now (days - 1)

def dayTotal (translatedFormat : ℤ → String) (raw : List (String × ℕ))
    (now : ℤ) (i : ℕ) : DayTotal :=
  let date := startOfDayAgo now i
  { label := translatedFormat date
    date := date
    total := (raw.lookup (dateText (dayAt date))).getD 0 }

/-- The loop over the days, from the first one to today. -/
def dayTotals (translatedFormat : ℤ → String)
    (rows : List CompletionColumns) (now : ℤ) (days : ℕ) :
    List DayTotal :=
  (List.range days).reverse.map
    (dayTotal translatedFormat
      (completionsByDay rows (windowStart now days)) now)

/-- The largest total, or 1 when there is none above it. -/
def largestTotal (series : List DayTotal) : ℕ :=
  max ((series.map DayTotal.total).max?.getD 0) 1

def withPercentage (largest : ℕ) (item : DayTotal) : CompletionEntry :=
  { item with
    percentage :=
      if largest = 0 then 0 else (item.total : ℚ) / largest * 100 }

/--
`dailyCompletions`, without a table empty.  `translatedFormat` is the short
name of a day of the week in the current language.
-/
def dailyCompletions (translatedFormat : ℤ → String)
    (table : Option (List CompletionColumns)) (now : ℤ) (days : ℕ) :
    List CompletionEntry :=
  match table with
  | none => []
  | some rows =>
      let series := dayTotals translatedFormat rows now days
      series.map (withPercentage (largestTotal series))

/-! ## The days of the series -/

theorem startOfDayAgo_eq (now days : ℤ) :
    startOfDayAgo now days = midnight (dayAt now - days) := by
  rw [startOfDayAgo, dayAt_sub_days]

@[simp]
theorem dayAt_startOfDayAgo (now days : ℤ) :
    dayAt (startOfDayAgo now days) = dayAt now - days := by
  rw [startOfDayAgo_eq, dayAt_midnight]

theorem map_date_dayTotals (translatedFormat : ℤ → String)
    (rows : List CompletionColumns) (now : ℤ) (days : ℕ) :
    (dayTotals translatedFormat rows now days).map DayTotal.date =
      (List.range days).map fun position =>
        midnight (dayAt now - (days - 1) + (position : ℕ)) := by
  rw [dayTotals, List.map_map, List.range_eq_range', List.reverse_range',
    List.map_map, ← List.range_eq_range']
  apply List.map_congr_left
  intro position member
  have within := List.mem_range.mp member
  have ago :
      dayAt now - ((0 + days - 1 - position : ℕ) : ℤ) =
        dayAt now - (days - 1) + (position : ℕ) := by
    omega
  change startOfDayAgo now ((0 + days - 1 - position : ℕ) : ℤ) = _
  rw [startOfDayAgo_eq, ago]

/-! ## The totals -/

/-- Looking a key up in the groups counts the values with that key. -/
theorem lookup_map_count (values : List String) (key : String) :
    ((values.dedup.map fun value =>
        (value, values.count value)).lookup key).getD 0 =
      values.count key := by
  have found (keys : List String) :
      (keys.map fun value => (value, values.count value)).lookup key =
        if key ∈ keys then some (values.count key) else none := by
    induction keys with
    | nil => rfl
    | cons head tail ih =>
        rw [List.map_cons, List.lookup_cons, ih]
        by_cases same : key = head
        · simp [same]
        · simp [beq_eq_false_iff_ne.mpr same, same]
  rw [found]
  split_ifs with listed
  · rfl
  · rw [List.mem_dedup] at listed
    exact (List.count_eq_zero_of_not_mem listed).symm

theorem countP_mem_cons {key : String} {keys : List String}
    (fresh : key ∉ keys) (values : List String) :
    (values.countP fun value => value ∈ key :: keys) =
      values.count key + values.countP fun value => value ∈ keys := by
  induction values with
  | nil => rfl
  | cons value values ih =>
      rw [List.countP_cons, ih, List.count_cons, List.countP_cons]
      by_cases same : value = key
      · simp [same, fresh]
        omega
      · simp [same]
        omega

/-- Over different keys, each value is counted for one of them at most. -/
theorem sum_map_count {keys : List String} (distinct : keys.Nodup)
    (values : List String) :
    (keys.map fun key => values.count key).sum =
      values.countP fun value => value ∈ keys := by
  induction keys with
  | nil => simp
  | cons key keys ih =>
      rw [List.nodup_cons] at distinct
      rw [List.map_cons, List.sum_cons, ih distinct.2,
        countP_mem_cons distinct.1]

theorem total_dayTotal (translatedFormat : ℤ → String)
    (rows : List CompletionColumns) (start now : ℤ) (i : ℕ) :
    (dayTotal translatedFormat (completionsByDay rows start) now i).total =
      (completionDays rows start).count (dateText (dayAt now - i)) := by
  change (List.lookup (dateText (dayAt (startOfDayAgo now i))) _).getD 0 = _
  rw [dayAt_startOfDayAgo]
  exact lookup_map_count _ _

theorem map_total_dayTotals (translatedFormat : ℤ → String)
    (rows : List CompletionColumns) (now : ℤ) (days : ℕ) :
    (dayTotals translatedFormat rows now days).map DayTotal.total =
      ((List.range days).reverse.map fun i =>
          dateText (dayAt now - (i : ℕ))).map
        fun key =>
          (completionDays rows (windowStart now days)).count key := by
  rw [dayTotals, List.map_map, List.map_map]
  apply List.map_congr_left
  intro i _
  exact total_dayTotal translatedFormat rows _ now i

/-- A completed row in the days of the window. -/
def CompletedWithin (now : ℤ) (days : ℕ) (row : CompletionColumns) :
    Prop :=
  row.status = .completed ∧
    ∃ time ∈ row.updatedAt,
      midnight (dayAt now - (days - 1)) ≤ time ∧
        time < midnight (dayAt now + 1)

instance (now : ℤ) (days : ℕ) (row : CompletionColumns) :
    Decidable (CompletedWithin now days row) :=
  inferInstanceAs (Decidable (_ ∧ ∃ time ∈ row.updatedAt, _))

theorem dateText_mem_window_iff (now : ℤ) (days : ℕ) (day : ℤ) :
    (dateText day ∈
        (List.range days).reverse.map fun i =>
          dateText (dayAt now - (i : ℕ))) ↔
      dayAt now - (days - 1) ≤ day ∧ day ≤ dayAt now := by
  rw [List.mem_map]
  constructor
  · rintro ⟨i, member, same⟩
    rw [List.mem_reverse, List.mem_range] at member
    have equal := dateText_injective same
    omega
  · rintro ⟨begun, notLater⟩
    refine ⟨(dayAt now - day).toNat, ?_, ?_⟩
    · rw [List.mem_reverse, List.mem_range]
      omega
    · have same : dayAt now - ((dayAt now - day).toNat : ℤ) = day := by
        omega
      rw [same]

/-- A row is looked up just when it was completed in the window. -/
theorem selected_iff_completedWithin (now : ℤ) (days : ℕ)
    (row : CompletionColumns) :
    ((completedSince (windowStart now days) row).map (fun time =>
        decide
          (dateText (dayAt time) ∈
            (List.range days).reverse.map fun i =>
              dateText (dayAt now - (i : ℕ))))).getD false = true ↔
      CompletedWithin now days row := by
  have start :
      windowStart now days = midnight (dayAt now - (days - 1)) :=
    startOfDayAgo_eq now (days - 1)
  rcases row with ⟨status, updatedAt⟩
  rw [start, CompletedWithin]
  cases updatedAt with
  | none => simp [completedSince]
  | some time =>
      rw [completedSince]
      dsimp only
      split_ifs with selected
      · rw [Option.map_some, Option.getD_some, decide_eq_true_eq,
          dateText_mem_window_iff, ← midnight_le_iff,
          ← Int.lt_add_one_iff (a := dayAt time), ← lt_midnight_iff]
        simp [selected.1]
      · rw [Option.map_none, Option.getD_none]
        refine iff_of_false Bool.false_ne_true ?_
        rintro ⟨completed, _, isTime, begun, _⟩
        cases isTime
        exact selected ⟨completed, begun⟩

/-- The totals add up to the completed rows of the window. -/
theorem sum_totals (translatedFormat : ℤ → String)
    (rows : List CompletionColumns) (now : ℤ) (days : ℕ) :
    ((dayTotals translatedFormat rows now days).map
        DayTotal.total).sum =
      rows.countP fun row => CompletedWithin now days row := by
  have distinct :
      ((List.range days).reverse.map fun i =>
        dateText (dayAt now - (i : ℕ))).Nodup := by
    apply List.Nodup.map _ (List.nodup_reverse.mpr List.nodup_range)
    intro left right same
    have equal := dateText_injective same
    omega
  rw [map_total_dayTotals, sum_map_count distinct, completionDays,
    List.countP_map, List.countP_filterMap]
  apply List.countP_congr
  intro row _
  rw [decide_eq_true_eq]
  exact selected_iff_completedWithin now days row

/-! ## The percentages -/

theorem one_le_largestTotal (series : List DayTotal) :
    1 ≤ largestTotal series :=
  le_max_right _ _

theorem total_le_largestTotal {series : List DayTotal} {item : DayTotal}
    (member : item ∈ series) : item.total ≤ largestTotal series := by
  have listed := List.mem_map_of_mem (f := DayTotal.total) member
  cases greatest : (series.map DayTotal.total).max? with
  | none =>
      rw [List.max?_eq_none_iff.mp greatest] at listed
      cases listed
  | some value =>
      rw [largestTotal, greatest]
      exact
        ((List.max?_eq_some_iff.mp greatest).2 _ listed).trans
          (le_max_left _ _)

/-- The largest total is one of the series unless all of them are 0. -/
theorem exists_total_eq_largestTotal {series : List DayTotal}
    (positive : 0 < (series.map DayTotal.total).sum) :
    ∃ item ∈ series, item.total = largestTotal series := by
  cases greatest : (series.map DayTotal.total).max? with
  | none =>
      rw [List.max?_eq_none_iff.mp greatest] at positive
      cases positive
  | some value =>
      rcases List.max?_eq_some_iff.mp greatest with ⟨attained, bound⟩
      have above : 1 ≤ value := by
        by_contra below
        have zero : ∀ total ∈ series.map DayTotal.total, total = 0 :=
          fun total member => by
            have := bound total member
            omega
        rw [List.sum_eq_zero zero] at positive
        cases positive
      rcases List.mem_map.mp attained with ⟨item, member, total⟩
      refine ⟨item, member, ?_⟩
      rw [largestTotal, greatest, total]
      exact (max_eq_left above).symm

theorem percentage_withPercentage {largest : ℕ} (positive : 1 ≤ largest)
    (item : DayTotal) :
    (withPercentage largest item).percentage =
      (item.total : ℚ) / largest * 100 :=
  if_neg (Nat.one_le_iff_ne_zero.mp positive)

theorem percentage_mem_range {largest : ℕ} {item : DayTotal}
    (positive : 1 ≤ largest) (bounded : item.total ≤ largest) :
    0 ≤ (withPercentage largest item).percentage ∧
      (withPercentage largest item).percentage ≤ 100 := by
  have above : (0 : ℚ) < largest := by exact_mod_cast positive
  have below : (item.total : ℚ) ≤ largest := by exact_mod_cast bounded
  rw [percentage_withPercentage positive]
  constructor
  · positivity
  · have part : (item.total : ℚ) / largest ≤ 1 :=
      (div_le_one above).mpr below
    linarith

theorem percentage_of_largest {largest : ℕ} {item : DayTotal}
    (positive : 1 ≤ largest) (equal : item.total = largest) :
    (withPercentage largest item).percentage = 100 := by
  have above : (largest : ℚ) ≠ 0 := by
    exact_mod_cast Nat.one_le_iff_ne_zero.mp positive
  rw [percentage_withPercentage positive, equal, div_self above, one_mul]

/-! ## The whole series -/

/--
The series has one entry for each of the days that end today, oldest first.
Its totals add up to the completed rows of these days, its percentages lie
between 0 and 100, and 100 is reached when there is a row at all.
-/
theorem dailyCompletions_conserves (translatedFormat : ℤ → String)
    (rows : List CompletionColumns) (now : ℤ) (days : ℕ) :
    let series :=
      dailyCompletions translatedFormat (some rows) now days
    let sum := (series.map fun entry => entry.total).sum
    (series.map fun entry => entry.date) =
        (List.range days).map (fun position =>
          midnight (dayAt now - (days - 1) + (position : ℕ))) ∧
      sum = rows.countP (fun row => CompletedWithin now days row) ∧
      (∀ entry ∈ series, 0 ≤ entry.percentage ∧ entry.percentage ≤ 100) ∧
      (0 < sum → ∃ entry ∈ series, entry.percentage = 100) := by
  intro series sum
  let totals := dayTotals translatedFormat rows now days
  have mapped {Part : Type} (part : DayTotal → Part) :
      (series.map fun entry => part entry.toDayTotal) =
        totals.map part :=
    List.map_map
  have largest := one_le_largestTotal totals
  have sums : sum = (totals.map DayTotal.total).sum :=
    congrArg List.sum (mapped DayTotal.total)
  refine ⟨?_, ?_, ?_, ?_⟩
  · rw [mapped DayTotal.date]
    exact map_date_dayTotals translatedFormat rows now days
  · rw [sums]
    exact sum_totals translatedFormat rows now days
  · intro entry member
    rcases List.mem_map.mp member with ⟨item, isItem, rfl⟩
    exact percentage_mem_range largest (total_le_largestTotal isItem)
  · intro positive
    rw [sums] at positive
    rcases exists_total_eq_largestTotal positive with
      ⟨item, isItem, total⟩
    exact
      ⟨_, List.mem_map_of_mem isItem,
        percentage_of_largest largest total⟩

/-- Two of the four rows were completed in the two days up to the clock. -/
example :
    (dailyCompletions (fun _ => "")
      (some
        [⟨.completed, some 90000⟩, ⟨.completed, none⟩,
          ⟨.inProgress, some 90000⟩, ⟨.completed, some 100⟩])
      90000 2).map (fun entry => (entry.date, entry.total)) =
        [(0, 1), (86400, 1)] := by
  decide +kernel

/-! ## The series over day numbers -/

/-- The columns of a participation. -/
def columnsOf (row : AssessmentParticipant) : CompletionColumns where
  status := row.status
  updatedAt := some row.updatedAt

/-- An entry with the number of its day. -/
def numbered (entry : CompletionEntry) : DailyCompletion where
  date := dayAt entry.date
  total := entry.total
  percentage := entry.percentage

theorem dayAt_natCast (time : ℕ) : dayAt time = (dayOf time : ℤ) :=
  (Int.natCast_ediv time secondsPerDay).symm

theorem completedSince_columnsOf
    (row : AssessmentParticipant) (now : Timestamp) (days : ℕ) :
    completedSince (windowStart now days) (columnsOf row) =
      if isCompleted row &&
          decide ((dayOf now : ℤ) - (days - 1) ≤ dayOf row.updatedAt) then
        some (row.updatedAt : ℤ)
      else none := by
  rw [completedSince, columnsOf, windowStart, startOfDayAgo_eq]
  simp only [midnight_le_iff, dayAt_natCast, isCompleted,
    Bool.and_eq_true, decide_eq_true_eq]

/-- The query finds the completed rows of `recentCompletions`. -/
theorem filterMap_completedSince
    (rows : List AssessmentParticipant) (now : Timestamp) (days : ℕ) :
    (rows.map columnsOf).filterMap
        (completedSince (windowStart now days)) =
      (DashboardController.recentCompletions rows now days).map
        fun row => (row.updatedAt : ℤ) := by
  rw [List.filterMap_map, DashboardController.recentCompletions]
  induction rows with
  | nil => rfl
  | cons row rows ih =>
      rw [List.filterMap_cons, List.filter_cons, Function.comp_apply,
        completedSince_columnsOf, ih]
      split_ifs <;> rfl

theorem count_completionDays
    (rows : List AssessmentParticipant) (now : Timestamp) (days : ℕ)
    (date : ℤ) :
    (completionDays (rows.map columnsOf) (windowStart now days)).count
        (dateText date) =
      DashboardController.completionsOn
        (DashboardController.recentCompletions rows now days) date := by
  rw [completionDays, filterMap_completedSince, List.map_map, List.count,
    List.countP_map, List.countP_eq_length_filter,
    DashboardController.completionsOn]
  apply congrArg List.length
  apply List.filter_congr
  intro row _
  rw [Function.comp_apply, Function.comp_apply, dayAt_natCast,
    Bool.eq_iff_iff, beq_iff_eq, decide_eq_true_eq]
  exact dateText_injective.eq_iff

theorem foldr_max_eq (totals : List ℕ) :
    totals.foldr max 0 = totals.max?.getD 0 := by
  induction totals with
  | nil => rfl
  | cons total totals ih =>
      rw [List.foldr_cons, ih, List.max?_cons]
      cases totals.max? with
      | none => exact max_eq_left (Nat.zero_le total)
      | some value => rfl

/-- The days of `DashboardController.dailyCompletions` with their totals. -/
def numberedTotals (rows : List AssessmentParticipant)
    (now : Timestamp) (days : ℕ) : List (ℤ × ℕ) :=
  (List.range days).reverse.map fun ago =>
    ((dayOf now : ℤ) - (ago : ℕ),
      DashboardController.completionsOn
        (DashboardController.recentCompletions rows now days)
        ((dayOf now : ℤ) - (ago : ℕ)))

theorem dailyCompletions_eq_map_numberedTotals
    (rows : List AssessmentParticipant) (now : Timestamp) (days : ℕ) :
    DashboardController.dailyCompletions rows now days =
      (numberedTotals rows now days).map fun entry =>
        { date := entry.1
          total := entry.2
          percentage :=
            (entry.2 : ℚ) /
                (max
                  (((numberedTotals rows now days).map Prod.snd).foldr
                    max 0) 1 : ℕ) *
              100 } := by
  simp only [DashboardController.dailyCompletions, numberedTotals,
    bind_pure_comp, List.map_eq_map, List.map_map]
  rfl

theorem map_dayTotals_eq_numberedTotals
    (translatedFormat : ℤ → String)
    (rows : List AssessmentParticipant) (now : Timestamp) (days : ℕ) :
    ((dayTotals translatedFormat (rows.map columnsOf) now days).map
        fun item => (dayAt item.date, item.total)) =
      numberedTotals rows now days := by
  rw [dayTotals, List.map_map]
  apply List.map_congr_left
  intro ago _
  refine Prod.ext ?_ ?_
  · exact (dayAt_startOfDayAgo now ago).trans (by rw [dayAt_natCast])
  · rw [Function.comp_apply, total_dayTotal, dayAt_natCast]
    exact count_completionDays rows now days _

/--
Counting by the texts of the days is counting by their numbers, which is
how `DashboardController.dailyCompletions` describes the series.
-/
theorem map_numbered_dailyCompletions (translatedFormat : ℤ → String)
    (rows : List AssessmentParticipant) (now : Timestamp) (days : ℕ) :
    (dailyCompletions translatedFormat (some (rows.map columnsOf)) now
        days).map numbered =
      DashboardController.dailyCompletions rows now days := by
  let totals :=
    dayTotals translatedFormat (rows.map columnsOf) now days
  have paired :=
    map_dayTotals_eq_numberedTotals translatedFormat rows now days
  have largest :
      max (((numberedTotals rows now days).map Prod.snd).foldr max 0) 1 =
        largestTotal totals := by
    rw [largestTotal, foldr_max_eq, ← paired, List.map_map]
    rfl
  rw [dailyCompletions_eq_map_numberedTotals, largest, ← paired,
    List.map_map]
  change (totals.map _).map numbered = totals.map _
  rw [List.map_map]
  apply List.map_congr_left
  intro item _
  rw [Function.comp_apply, numbered,
    percentage_withPercentage (one_le_largestTotal totals)]
  rfl

end SultanPass.DailyCompletions
