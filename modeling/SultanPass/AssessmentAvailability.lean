import SultanPass.Operations
import SultanPass.Library.Calendar

/-!
# Open assessments

Status and dates of an assessment are read where assessments are listed for
a participant, `DashboardController::availableAssessmentsForParticipant`.
`SurveyController::storeResponse` does not read them: rescheduling the
assessments between any two requests changes neither what a request returns
nor what it writes (`responses_ignore_schedule`).
-/

namespace SultanPass

open SultanPass.Library
open SultanPass.Library.Calendar

/-! ## The listing -/

namespace DashboardController

/-- `start_date` is null or reached. -/
def started (assessment : Assessment) (now : Timestamp) : Bool :=
  match assessment.startDate with
  | none => true
  | some day => startOfDay day ≤ now

/-- `end_date` is null or not passed; a date is its midnight. -/
def notEnded (assessment : Assessment) (now : Timestamp) : Bool :=
  match assessment.endDate with
  | none => true
  | some day => now ≤ startOfDay day

/-- The conditions on the assessment itself. -/
def isOpen (assessment : Assessment) (now : Timestamp) : Bool :=
  assessment.status = .active && started assessment now &&
    notEnded assessment now

/-- The order of `start_date`, `NULL` first. -/
def startsBefore (left right : Assessment) : Bool :=
  match left.startDate, right.startDate with
  | none, _ => true
  | some _, none => false
  | some first, some second => first ≤ second

/-- A listed row with its title in the current language. -/
structure AvailableAssessment where
  id : AssessmentId
  type : AssessmentType
  startDate : Option Day
  endDate : Option Day
  status : AssessmentStatus
  title : Option String
deriving DecidableEq, Repr

def listed (catalogue : Catalogue) (languageId : Option LanguageId)
    (assessment : Assessment) : AvailableAssessment where
  id := assessment.id
  type := assessment.type
  startDate := assessment.startDate
  endDate := assessment.endDate
  status := assessment.status
  title :=
    languageId.bind fun language =>
      (catalogue.assessmentTranslations.find?
        (assessment.id, language)).map fun row => row.content.title

/-- The assessments that the query selects, before order and limit. -/
def candidates (catalogue : Catalogue) (database : Database)
    (participant : UserId) (now : Timestamp) : List Assessment :=
  catalogue.assessments.filter fun assessment =>
    database.participation? ⟨assessment.id, participant⟩ = none &&
      isOpen assessment now

/-- The selected assessments. -/
def availableRows (catalogue : Catalogue) (database : Database)
    (participant : UserId) (now : Timestamp) : List Assessment :=
  ((candidates catalogue database participant now).mergeSort
    startsBefore).take 10

/-- `availableAssessmentsForParticipant`. -/
def availableAssessmentsForParticipant (catalogue : Catalogue)
    (database : Database) (languageId : Option LanguageId)
    (participant : UserId) (now : Timestamp) :
    List AvailableAssessment :=
  (availableRows catalogue database participant now).map
    (listed catalogue languageId)

theorem mem_candidates_iff
    {catalogue : Catalogue} {database : Database}
    {participant : UserId} {now : Timestamp}
    {assessment : Assessment} :
    assessment ∈ candidates catalogue database participant now ↔
      assessment ∈ catalogue.assessments ∧
        database.participation? ⟨assessment.id, participant⟩ = none ∧
        isOpen assessment now = true := by
  rw [candidates, List.mem_filter, Bool.and_eq_true,
    decide_eq_true_eq]

theorem candidate_of_mem_availableRows
    {catalogue : Catalogue} {database : Database}
    {participant : UserId} {now : Timestamp}
    {assessment : Assessment}
    (listed :
      assessment ∈
        availableRows catalogue database participant now) :
    assessment ∈ candidates catalogue database participant now :=
  List.mem_mergeSort.mp (List.mem_of_mem_take listed)

/-- With at most ten candidates the limit cuts nothing off. -/
theorem mem_availableRows_iff
    {catalogue : Catalogue} {database : Database}
    {participant : UserId} {now : Timestamp}
    (few :
      (candidates catalogue database participant now).length ≤ 10)
    (assessment : Assessment) :
    assessment ∈ availableRows catalogue database participant now ↔
      assessment ∈ candidates catalogue database participant now := by
  rw [availableRows, List.take_of_length_le, List.mem_mergeSort]
  rwa [List.length_mergeSort]

end DashboardController

/-! ## Schedules -/

/-- Status and dates of one assessment. -/
structure Schedule where
  status : AssessmentStatus
  startDate : Option Day
  endDate : Option Day
deriving DecidableEq, Repr

/-- Another status and other dates for every assessment. -/
abbrev Rescheduling :=
  AssessmentId → Schedule

def Assessment.reschedule (schedules : Rescheduling)
    (assessment : Assessment) : Assessment :=
  { assessment with
    status := (schedules assessment.id).status
    startDate := (schedules assessment.id).startDate
    endDate := (schedules assessment.id).endDate }

namespace Catalogue

def reschedule (catalogue : Catalogue) (schedules : Rescheduling) :
    Catalogue :=
  { catalogue with
    assessments :=
      catalogue.assessments.map (Assessment.reschedule schedules)
    assessmentKeys := by
      rw [List.map_map]
      exact catalogue.assessmentKeys }

theorem assessment?_reschedule
    (catalogue : Catalogue) (schedules : Rescheduling)
    (id : AssessmentId) :
    (catalogue.reschedule schedules).assessment? id =
      (catalogue.assessment? id).map
        (Assessment.reschedule schedules) := by
  rw [assessment?, assessment?, reschedule, List.find?_map]
  rfl

theorem findAssessment_reschedule
    (catalogue : Catalogue) (schedules : Rescheduling)
    (id : AssessmentId) :
    (catalogue.reschedule schedules).findAssessment id =
      (catalogue.findAssessment id).map
        (Assessment.reschedule schedules) := by
  rw [findAssessment, findAssessment, assessment?_reschedule]
  cases catalogue.assessment? id <;> rfl

end Catalogue

/-- A recalculation reads neither status nor dates. -/
theorem calculateAndUpdateScore_reschedule
    (catalogue : Catalogue) (schedules : Rescheduling)
    (now : Timestamp) (assessment : Assessment)
    (participant : UserId) :
    AssessmentScoreService.calculateAndUpdateScore
        (catalogue.reschedule schedules) now
        (assessment.reschedule schedules) participant =
      AssessmentScoreService.calculateAndUpdateScore catalogue now
        assessment participant :=
  rfl

theorem saved_reschedule
    (catalogue : Catalogue) (schedules : Rescheduling)
    (now : Timestamp) (response : ParticipantResponse) :
    ParticipantResponseObserver.saved (catalogue.reschedule schedules)
        now response =
      ParticipantResponseObserver.saved catalogue now response := by
  rw [ParticipantResponseObserver.saved,
    ParticipantResponseObserver.saved,
    Catalogue.assessment?_reschedule]
  cases catalogue.assessment? response.assessmentId with
  | none => rfl
  | some assessment => rfl

namespace SurveyController

theorem storeResponseBody_reschedule
    (catalogue : Catalogue) (schedules : Rescheduling)
    (assignment : SelectionAssignment) (question : AssessmentQuestion)
    (request : StoreResponseRequest) :
    storeResponseBody (catalogue.reschedule schedules) assignment
        question request =
      storeResponseBody catalogue assignment question request := by
  simp only [storeResponseBody, updateOrCreateResponse,
    saved_reschedule]

/-- A request returns and writes the same on every schedule. -/
theorem storeResponse_reschedule
    (catalogue : Catalogue) (schedules : Rescheduling)
    (assignment : SelectionAssignment)
    (request : StoreResponseRequest) :
    storeResponse (catalogue.reschedule schedules) assignment request =
      storeResponse catalogue assignment request := by
  rw [storeResponse, storeResponse,
    Catalogue.findAssessment_reschedule]
  cases catalogue.findAssessment request.assessmentId with
  | error error => rfl
  | ok assessment =>
      simp only [storeResponseBody_reschedule]
      rfl

/-- One request, with the schedules at its instant. -/
structure ScheduledRequest where
  schedules : Rescheduling
  request : StoreResponseRequest

/-- The database after requests that each meet their own schedules. -/
def scheduledRun (catalogue : Catalogue)
    (assignment : SelectionAssignment)
    (requests : List ScheduledRequest) (database : Database) :
    Database :=
  requests.foldl
    (fun after each =>
      (storeResponse (catalogue.reschedule each.schedules) assignment
        each.request).finalState after)
    database

/-- The same requests on the catalogue as it is. -/
theorem scheduledRun_eq_run
    (catalogue : Catalogue) (assignment : SelectionAssignment)
    (requests : List ScheduledRequest) (database : Database) :
    scheduledRun catalogue assignment requests database =
      Operation.run catalogue assignment
        (requests.map fun each => .storeResponse each.request)
        database := by
  rw [scheduledRun, Operation.run, List.foldl_map]
  simp only [storeResponse_reschedule]
  rfl

end SurveyController

/-! ## Where openness is kept -/

open SurveyController DashboardController

/--
Requests ignore status and dates.  The listing keeps them: what it lists is
open at its instant and was not begun by the participant, and nothing else
is left out while the limit is not reached.
-/
theorem responses_ignore_schedule
    (catalogue : Catalogue) (assignment : SelectionAssignment) :
    (∀ schedules request,
        storeResponse (catalogue.reschedule schedules) assignment
            request =
          storeResponse catalogue assignment request) ∧
      (∀ requests database,
        scheduledRun catalogue assignment requests database =
          Operation.run catalogue assignment
            (requests.map fun each => .storeResponse each.request)
            database) ∧
      (∀ database languageId participant now,
        ∀ item ∈
            availableAssessmentsForParticipant catalogue database
              languageId participant now,
          ∃ assessment ∈ catalogue.assessments,
            item = listed catalogue languageId assessment ∧
              isOpen assessment now = true ∧
              database.participation? ⟨assessment.id, participant⟩ =
                none) ∧
      (∀ database languageId participant now,
        (candidates catalogue database participant now).length ≤ 10 →
          ∀ assessment ∈ catalogue.assessments,
            isOpen assessment now = true →
              database.participation? ⟨assessment.id, participant⟩ =
                  none →
                listed catalogue languageId assessment ∈
                  availableAssessmentsForParticipant catalogue database
                    languageId participant now) := by
  refine ⟨?_, ?_, ?_, ?_⟩
  · intro schedules request
    exact storeResponse_reschedule catalogue schedules assignment request
  · intro requests database
    exact scheduledRun_eq_run catalogue assignment requests database
  · intro database languageId participant now item member
    rcases List.mem_map.mp member with ⟨assessment, selected, rfl⟩
    rcases
        mem_candidates_iff.mp
          (candidate_of_mem_availableRows selected) with
      ⟨stored, unbegun, opened⟩
    exact ⟨assessment, stored, rfl, opened, unbegun⟩
  · intro database languageId participant now few assessment stored
      opened unbegun
    apply List.mem_map_of_mem
    exact
      (mem_availableRows_iff few assessment).mpr
        (mem_candidates_iff.mpr ⟨stored, unbegun, opened⟩)

/-- A draft, a closed, a future and a past assessment. -/
def closedSchedules : List Schedule :=
  [{ status := .draft, startDate := none, endDate := none },
    { status := .closed, startDate := none, endDate := none },
    { status := .active, startDate := some 5, endDate := none },
    { status := .active, startDate := none, endDate := some 1 }]

/-- Two days after the beginning of 1970. -/
def lateText : StoreResponseRequest :=
  { sampleText 2 "late" .next with now := 200000 }

/--
Whether the assessment is open on a schedule at the time of the request, and
the texts and the participations that the request leaves behind.
-/
def lateAnswer (schedule : Schedule) :
    Option Bool × List (Option String) × List AssessmentParticipant :=
  let catalogue := sampleCatalogue.reschedule fun _ => schedule
  let after :=
    (storeResponse catalogue .jsonEncoded lateText).finalState
      Database.empty
  ((catalogue.assessment? 1).map fun assessment =>
      isOpen assessment lateText.now,
    after.participantResponses.rows.map
      ParticipantResponse.writtenResponseText,
    after.assessmentParticipants)

/-- Answers are accepted although the assessment is not open. -/
theorem closed_assessment_takes_answers :
    closedSchedules.map lateAnswer =
      List.replicate 4
        (some false, [some "late"],
          [{ assessmentId := 1, participantId := 1
             status := .inProgress, score := none
             updatedAt := 200000 }]) := by
  decide +kernel

end SultanPass
