import SultanPass.EvaluationDashboards
import SultanPass.Library.Pointwise

/-!
# Dashboards of rows that differ in their time

Rows whose update time is refreshed and whose other columns stay the same.
The overall evaluation and the top performers do not read the time at all
(`UpToTime`); the trends, the daily completions and the IQ results read only
its day or its month, and a window that ends at the beginning of a day
(`WithinDay`).
-/

namespace SultanPass

open SultanPass.Library
open SultanPass.Library.Calendar

namespace DashboardController

/-- Two rows that differ at most in the time of their update. -/
structure UpToTime (old new : AssessmentParticipant) : Prop where
  assessmentId : new.assessmentId = old.assessmentId
  participantId : new.participantId = old.participantId
  status : new.status = old.status
  score : new.score = old.score

/-- The time of the update is the same, or stays within one day. -/
structure WithinDay (day : ℕ) (old new : AssessmentParticipant) :
    Prop extends UpToTime old new where
  time :
    new.updatedAt = old.updatedAt ∨
      (dayOf old.updatedAt = day ∧ dayOf new.updatedAt = day)

theorem WithinDay.dayOf_eq
    {day : ℕ} {old new : AssessmentParticipant}
    (within : WithinDay day old new) :
    dayOf new.updatedAt = dayOf old.updatedAt := by
  rcases within.time with same | ⟨oldDay, newDay⟩
  · rw [same]
  · rw [oldDay, newDay]

theorem WithinDay.monthOf_eq
    {day : ℕ} {old new : AssessmentParticipant}
    (within : WithinDay day old new) :
    monthOf new.updatedAt = monthOf old.updatedAt :=
  congrArg monthOfDay within.dayOf_eq

theorem WithinDay.le_updatedAt_iff
    {day : ℕ} {old new : AssessmentParticipant}
    (within : WithinDay day old new) {since : Timestamp}
    (before : since ≤ startOfDay day) :
    since ≤ new.updatedAt ↔ since ≤ old.updatedAt := by
  rcases within.time with same | ⟨oldDay, newDay⟩
  · rw [same]
  · have oldBegun := startOfDay_dayOf_le old.updatedAt
    have newBegun := startOfDay_dayOf_le new.updatedAt
    rw [oldDay] at oldBegun
    rw [newDay] at newBegun
    exact
      ⟨fun _ => before.trans oldBegun, fun _ => before.trans newBegun⟩

/-- A top performer without the time that is shown. -/
def TopPerformer.undated (performer : TopPerformer) : TopPerformer :=
  { performer with updatedAt := 0 }

theorem undated_topPerformer?
    (catalogue : Catalogue) (names : UserId → UserNames)
    {old new : AssessmentParticipant} (same : UpToTime old new)
    (index : ℕ) :
    (topPerformer? catalogue names (old, index)).map
        TopPerformer.undated =
      (topPerformer? catalogue names (new, index)).map
        TopPerformer.undated := by
  have redated : new = { old with updatedAt := new.updatedAt } := by
    rcases new with ⟨assessmentId, participantId, status, score, time⟩
    rw [AssessmentParticipant.mk.injEq]
    exact
      ⟨same.assessmentId, same.participantId, same.status, same.score,
        rfl⟩
  rw [redated, topPerformer?, topPerformer?]
  change
    Option.map _ (if isCompleted old && _ then _ else none) =
      Option.map _ (if isCompleted old && _ then _ else none)
  split_ifs
  · rw [Option.map_map, Option.map_map]
    rfl
  · rfl

section UpToTime

variable {relation : AssessmentParticipant → AssessmentParticipant → Prop}
  (reads : ∀ {old new}, relation old new → UpToTime old new)
  {before after : List AssessmentParticipant}
  (related : List.Forall₂ relation before after)
include reads related

theorem forall₂_scoredRows (participant : UserId) :
    List.Forall₂ relation (scoredRows before participant)
      (scoredRows after participant) := by
  apply forall₂_filter related
  intro old new holds
  have same := reads holds
  rw [isCompleted, isCompleted, same.participantId, same.status,
    same.score]

theorem scoresOf_eq : scoresOf before = scoresOf after :=
  filterMap_eq_of_forall₂ related fun _ _ holds => (reads holds).score.symm

theorem calculateOverallScore_eq (participant : UserId) :
    calculateOverallScore after participant =
      calculateOverallScore before participant := by
  rw [calculateOverallScore, calculateOverallScore,
    scoresOf_eq reads (forall₂_scoredRows reads related participant)]

theorem topPerformers_eq
    (catalogue : Catalogue) (names : UserId → UserNames)
    (limit : ℕ) :
    (topPerformers catalogue names after limit).map
        TopPerformer.undated =
      (topPerformers catalogue names before limit).map
        TopPerformer.undated := by
  have sorted (rows : List AssessmentParticipant) :
      (topPerformers catalogue names rows limit).map
          TopPerformer.undated =
        ((rows.zipIdx.filterMap fun entry =>
            (topPerformer? catalogue names entry).map
              TopPerformer.undated).mergeSort
          fun left right => right.score ≤ left.score).take limit := by
    rw [topPerformers, List.map_take, ← List.map_filterMap]
    congr 1
    apply List.map_mergeSort
    intro left _ right _
    rfl
  rw [sorted, sorted]
  congr 2
  symm
  apply filterMap_eq_of_forall₂ (forall₂_zipIdx related 0)
  rintro ⟨old, oldIndex⟩ ⟨new, newIndex⟩ ⟨holds, sameIndex⟩
  change oldIndex = newIndex at sameIndex
  subst sameIndex
  exact undated_topPerformer? catalogue names (reads holds) oldIndex

end UpToTime

section WithinDay

variable {day : ℕ} {before after : List AssessmentParticipant}
  (related : List.Forall₂ (WithinDay day) before after)
include related

/-- The dashboards of this day show the same trends. -/
theorem getPerformanceTrends_eq
    (participant : UserId) {viewed : Timestamp}
    (today : dayOf viewed = day) :
    getPerformanceTrends after participant viewed =
      getPerformanceTrends before participant viewed := by
  have selected :
      List.Forall₂ (WithinDay day)
        (trendRows before participant viewed)
        (trendRows after participant viewed) := by
    apply
      forall₂_filter
        (forall₂_scoredRows WithinDay.toUpToTime related participant)
    intro old new within
    apply decide_eq_decide.mpr
    apply (within.le_updatedAt_iff _).symm
    rw [← today]
    exact subMonths_le_startOfDay (by decide) viewed
  have months :
      monthsOf (trendRows after participant viewed) =
        monthsOf (trendRows before participant viewed) := by
    rw [monthsOf, monthsOf]
    congr 2
    symm
    exact map_eq_of_forall₂ selected fun _ _ within =>
      within.monthOf_eq.symm
  have values (month : ℕ) :
      scoresOf
          (rowsOfMonth (trendRows after participant viewed) month) =
        scoresOf
          (rowsOfMonth (trendRows before participant viewed) month) := by
    symm
    apply scoresOf_eq (@WithinDay.toUpToTime day)
    apply forall₂_filter selected
    intro old new within
    rw [within.monthOf_eq]
  have trends :
      monthlyTrends after participant viewed =
        monthlyTrends before participant viewed := by
    simp only [monthlyTrends, months, values]
  rw [getPerformanceTrends, getPerformanceTrends, trends]

/-- The completions of every day are the same. -/
theorem dailyCompletions_eq (viewed : Timestamp) (days : ℕ) :
    dailyCompletions after viewed days =
      dailyCompletions before viewed days := by
  have recent :
      List.Forall₂ (WithinDay day)
        (recentCompletions before viewed days)
        (recentCompletions after viewed days) := by
    apply forall₂_filter related
    intro old new within
    rw [isCompleted, isCompleted, within.status, within.dayOf_eq]
  have totals (date : ℤ) :
      completionsOn (recentCompletions after viewed days) date =
        completionsOn (recentCompletions before viewed days) date := by
    symm
    apply List.Forall₂.length_eq (R := WithinDay day)
    apply forall₂_filter recent
    intro old new within
    rw [within.dayOf_eq]
  simp only [dailyCompletions, totals]

theorem forall₂_iqRows
    (catalogue : Catalogue) (participant : UserId) :
    List.Forall₂
      (fun old new : String × AssessmentParticipant =>
        old.1 = new.1 ∧ WithinDay day old.2 new.2)
      (iqRows catalogue before participant)
      (iqRows catalogue after participant) := by
  apply
    List.rel_flatMap
      (forall₂_scoredRows WithinDay.toUpToTime related participant)
  intro old new within
  change
    List.Forall₂ _ ((iqTitles catalogue old.assessmentId).map _)
      ((iqTitles catalogue new.assessmentId).map _)
  rw [within.assessmentId, List.forall₂_map_left_iff,
    List.forall₂_map_right_iff]
  exact List.forall₂_same.mpr fun _ _ => ⟨rfl, within⟩

/-- With one IQ row at most, the IQ result is the same. -/
theorem getIQTestResults_eq
    (catalogue : Catalogue) (participant : UserId)
    (single : (iqRows catalogue before participant).length ≤ 1) :
    getIQTestResults catalogue after participant =
      getIQTestResults catalogue before participant := by
  have entries := forall₂_iqRows related catalogue participant
  rw [getIQTestResults, getIQTestResults]
  revert entries single
  generalize iqRows catalogue before participant = old
  generalize iqRows catalogue after participant = new
  intro single entries
  cases entries with
  | nil => rfl
  | cons first rest =>
      cases rest with
      | nil =>
          rcases first with ⟨sameTitle, within⟩
          simp only [List.mergeSort_singleton, List.head?_cons,
            iqTestResult, within.score, within.monthOf_eq, sameTitle]
      | cons second others => simp at single

end WithinDay

end DashboardController

end SultanPass
