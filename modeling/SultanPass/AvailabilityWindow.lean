import SultanPass.AssessmentAvailability
import SultanPass.FaithfulAuthoring
import SultanPass.WholeAssessmentScores

/-!
# The last day of an assessment

`store` takes a start and an end as days, with the end not before the start.
`availableAssessmentsForParticipant` compares the end with an instant, and a
day counts as its midnight there.  So the last day is not in the window but
for its first second, and an assessment of one day is offered at midnight
only (`available_in_window_iff`).

`liveAssessmentsCount` states the same notion once more, and treats a missing
start differently (`liveAssessmentsCount_eq_iff`).
-/

namespace SultanPass.DashboardController

open SultanPass.Library.Calendar
open SultanPass.AssessmentController

/-! ## The window -/

/-- The day of an instant is between the two days of an assessment. -/
structure InWindow (assessment : Assessment) (now : Timestamp) :
    Prop where
  start : ∀ day ∈ assessment.startDate, day ≤ dayOf now
  «end» : ∀ day ∈ assessment.endDate, dayOf now ≤ day

theorem started_iff (assessment : Assessment) (now : Timestamp) :
    started assessment now = true ↔
      ∀ day ∈ assessment.startDate, day ≤ dayOf now := by
  rw [started]
  cases assessment.startDate with
  | none => simp
  | some day => simp [startOfDay_le_iff]

theorem notEnded_iff (assessment : Assessment) (now : Timestamp) :
    notEnded assessment now = true ↔
      ∀ day ∈ assessment.endDate,
        dayOf now < day ∨ now = startOfDay day := by
  rw [notEnded]
  cases assessment.endDate with
  | none => simp
  | some day => simp [le_startOfDay_iff]

theorem isOpen_iff (assessment : Assessment) (now : Timestamp) :
    isOpen assessment now = true ↔
      assessment.status = .active ∧
        started assessment now = true ∧
          notEnded assessment now = true := by
  rw [isOpen, Bool.and_eq_true, Bool.and_eq_true, decide_eq_true_eq,
    and_assoc]

/-- The dates of an authored assessment are in order. -/
theorem dates_authored (users : List UserId)
    (requests : List StoreRequest) :
    ∀ assessment ∈ (authored users requests).assessments,
      ∀ first ∈ assessment.startDate, ∀ last ∈ assessment.endDate,
        first ≤ last := by
  refine
    authored_invariant
      (fun catalogue => ∀ assessment ∈ catalogue.assessments,
        ∀ first ∈ assessment.startDate, ∀ last ∈ assessment.endDate,
          first ≤ last)
      (fun _ listed => (List.not_mem_nil listed).elim) ?_ requests
  intro catalogue foreignKeys ordered request assessment listed
  rcases store_faithful catalogue foreignKeys request with
    ⟨_, _, same⟩ | ⟨_, created⟩
  · rw [same] at listed
    exact ordered assessment listed
  · rw [created.assessments, List.mem_append,
      List.mem_singleton] at listed
    rcases listed with old | rfl
    · exact ordered assessment old
    · exact request.dates

/--
Inside its days, an active assessment that the participant has not begun is
selected except on its last day, of which only midnight counts.  The dates
are in order, so the exception is not an empty one.
-/
theorem available_in_window_iff
    (users : List UserId) (requests : List StoreRequest)
    {assessment : Assessment}
    (stored : assessment ∈ (authored users requests).assessments)
    (active : assessment.status = .active)
    (database : Database) (participant : UserId)
    (unbegun :
      database.participation? ⟨assessment.id, participant⟩ = none)
    (now : Timestamp) (within : InWindow assessment now) :
    (assessment ∈
        candidates (authored users requests) database participant now ↔
      ∀ last ∈ assessment.endDate,
        dayOf now < last ∨ now = startOfDay last) ∧
      ∀ first ∈ assessment.startDate, ∀ last ∈ assessment.endDate,
        first ≤ last := by
  refine ⟨?_, dates_authored users requests assessment stored⟩
  have begun := (started_iff assessment now).mpr within.start
  rw [mem_candidates_iff, isOpen_iff, ← notEnded_iff]
  constructor
  · rintro ⟨_, _, _, _, notOver⟩
    exact notOver
  · intro notOver
    exact ⟨stored, unbegun, active, begun, notOver⟩

theorem oneDay_ordered :
    ∀ first ∈ some 2, ∀ last ∈ some 2, first ≤ last := by
  intro first isFirst last isLast
  cases isFirst
  cases isLast
  exact Nat.le_refl 2

/-- An assessment of one day, the third of January 1970. -/
def oneDayPayload : StoreRequest :=
  { WholeAssessmentScores.writtenPayload with
    startDate := some 2
    endDate := some 2
    dates := oneDay_ordered }

/-- The assessment of `oneDayPayload`. -/
def oneDayAssessment : Assessment :=
  { WholeAssessmentScores.writtenAssessment with
    startDate := some 2
    endDate := some 2 }

/-- Noon of that day. -/
def noon : Timestamp :=
  2 * secondsPerDay + 12 * 3600

theorem stored_oneDayAssessment :
    oneDayAssessment ∈ (authored [1, 2] [oneDayPayload]).assessments := by
  decide +kernel

theorem inWindow_noon : InWindow oneDayAssessment noon where
  start := by
    intro day isDay
    cases isDay
    decide
  «end» := by
    intro day isDay
    cases isDay
    decide

/-- At midnight of its day the assessment is selected. -/
theorem available_in_window_midnight :
    oneDayAssessment ∈
      candidates (authored [1, 2] [oneDayPayload]) Database.empty 1
        (startOfDay 2) := by
  refine
    (available_in_window_iff [1, 2] [oneDayPayload]
      stored_oneDayAssessment rfl Database.empty 1 rfl (startOfDay 2)
      ⟨?_, ?_⟩).1.mpr ?_
  · intro day isDay
    cases isDay
    decide
  · intro day isDay
    cases isDay
    decide
  · intro day isDay
    cases isDay
    exact Or.inr rfl

/-- At noon of its only day it is not. -/
theorem one_day_assessment_is_missing_at_noon :
    oneDayAssessment ∈ (authored [1, 2] [oneDayPayload]).assessments ∧
      oneDayAssessment.status = .active ∧
      Database.empty.participation? ⟨oneDayAssessment.id, 1⟩ = none ∧
      InWindow oneDayAssessment noon ∧
      oneDayAssessment ∉
        candidates (authored [1, 2] [oneDayPayload]) Database.empty 1
          noon :=
  ⟨stored_oneDayAssessment, rfl, rfl, inWindow_noon, by decide +kernel⟩

/-! ## Live assessments -/

/-- `start_date <= $now`, which `NULL` does not satisfy. -/
def startReached (assessment : Assessment) (now : Timestamp) : Bool :=
  match assessment.startDate with
  | none => false
  | some day => startOfDay day ≤ now

/-- The rows that `liveAssessmentsCount` counts. -/
def liveAssessments (catalogue : Catalogue) (now : Timestamp) :
    List Assessment :=
  catalogue.assessments.filter fun assessment =>
    assessment.status = .active && startReached assessment now &&
      notEnded assessment now

/-- `liveAssessmentsCount`. -/
def liveAssessmentsCount (catalogue : Catalogue) (now : Timestamp) : ℕ :=
  (liveAssessments catalogue now).length

theorem startReached_eq (assessment : Assessment) (now : Timestamp) :
    startReached assessment now =
      (assessment.startDate.isSome && started assessment now) := by
  rw [startReached, started]
  cases assessment.startDate <;> rfl

/-- A live assessment is an open one with a start. -/
theorem liveAssessments_eq (catalogue : Catalogue) (now : Timestamp) :
    liveAssessments catalogue now =
      (catalogue.assessments.filter (isOpen · now)).filter
        fun assessment => assessment.startDate.isSome := by
  rw [liveAssessments, List.filter_filter]
  apply List.filter_congr
  intro assessment _
  rw [startReached_eq, isOpen]
  cases assessment.startDate.isSome <;> simp

/-- Who has begun nothing is offered every open assessment. -/
theorem candidates_of_none
    (catalogue : Catalogue) {database : Database} {participant : UserId}
    (unbegun :
      ∀ id, database.participation? ⟨id, participant⟩ = none)
    (now : Timestamp) :
    candidates catalogue database participant now =
      catalogue.assessments.filter (isOpen · now) := by
  rw [candidates]
  apply List.filter_congr
  intro assessment _
  rw [unbegun, decide_eq_true rfl, Bool.true_and]

/--
The number of live assessments is the number of those offered to a
participant who has begun nothing, exactly when every active assessment that
is not over has a start.
-/
theorem liveAssessmentsCount_eq_iff
    (catalogue : Catalogue) (now : Timestamp) (database : Database)
    (participant : UserId)
    (unbegun :
      ∀ id, database.participation? ⟨id, participant⟩ = none) :
    liveAssessmentsCount catalogue now =
        (candidates catalogue database participant now).length ↔
      ∀ assessment ∈ catalogue.assessments,
        assessment.status = .active →
          notEnded assessment now = true →
            assessment.startDate ≠ none := by
  rw [candidates_of_none catalogue unbegun, liveAssessmentsCount,
    liveAssessments_eq, List.length_filter_eq_length_iff]
  simp only [List.mem_filter, isOpen_iff, and_imp,
    Option.isSome_iff_ne_none]
  constructor
  · intro every assessment listed active notOver missing
    have begun : started assessment now = true := by
      rw [started, missing]
    exact every assessment listed active begun notOver missing
  · intro every assessment listed active _ notOver
    exact every assessment listed active notOver

/-- The one-day assessment has a start, so the numbers agree. -/
theorem liveAssessmentsCount_oneDay :
    liveAssessmentsCount (authored [1, 2] [oneDayPayload])
        (startOfDay 2) =
      (candidates (authored [1, 2] [oneDayPayload]) Database.empty 1
        (startOfDay 2)).length :=
  (liveAssessmentsCount_eq_iff (authored [1, 2] [oneDayPayload])
    (startOfDay 2) Database.empty 1 fun _ => rfl).mpr
      (by decide +kernel)

/-- An active assessment without dates is offered and not counted. -/
theorem assessment_without_start_is_not_live :
    let catalogue := authored [1, 2] [WholeAssessmentScores.writtenPayload]
    (∀ id, Database.empty.participation? ⟨id, 1⟩ = none) ∧
      liveAssessmentsCount catalogue 0 = 0 ∧
      (candidates catalogue Database.empty 1 0).length = 1 :=
  ⟨fun _ => rfl, by decide +kernel, by decide +kernel⟩

end SultanPass.DashboardController
