import SultanPass.GradedMarks
import SultanPass.StatusOrder
import SultanPass.WholeAssessmentScores

/-!
# A status from two counts

`determineStatus` never asks which questions are answered.  It compares the
number of responses with the number of questions, and asks of each response
to a written question whether it is graded.  The comparison decides whether
every question is answered because the responses belong to different
questions of the assessment: as many different ones as there are leave none
out.
-/

namespace SultanPass

theorem ParticipationStatus.eq_inProgress_iff
    (status : ParticipationStatus) :
    status = .inProgress ↔ status ≠ .notStarted ∧ status ≠ .completed := by
  cases status <;> simp

namespace AssessmentScoreService

open SultanPass.Library
open SultanPass.GradingController (writtenAnswers)
open SultanPass.WholeAssessmentScores

/-- Different members of a list are all of them when they are as many. -/
theorem subset_iff_length_le {Value : Type} {given wanted : List Value}
    (distinct : given.Nodup) (nodup : wanted.Nodup)
    (among : given ⊆ wanted) :
    wanted ⊆ given ↔ wanted.length ≤ given.length := by
  constructor
  · intro all
    exact (List.subperm_of_subset nodup all).length_le
  · intro asMany
    have subperm : given.Subperm wanted :=
      List.subperm_of_subset distinct among
    exact (subperm.perm_of_length_le asMany).symm.subset

/-! ## Questions and responses -/

/-- The responses answer questions of the assessment. -/
def AnswersOwn (catalogue : Catalogue) (assessment : Assessment)
    (responses : List ParticipantResponse) : Prop :=
  ∀ response ∈ responses,
    ∃ question ∈ catalogue.questionsOf assessment.id,
      question.id = response.questionId

/-- Every question of the assessment has a response. -/
def AnswersAll (catalogue : Catalogue) (assessment : Assessment)
    (responses : List ParticipantResponse) : Prop :=
  ∀ question ∈ catalogue.questionsOf assessment.id,
    ∃ response ∈ responses, response.questionId = question.id

/-- Every response to a written question of the assessment is graded. -/
def GradedAll (catalogue : Catalogue) (assessment : Assessment)
    (responses : List ParticipantResponse) : Prop :=
  ∀ response ∈ responses,
    ∀ question ∈ catalogue.questionsOf assessment.id,
      question.id = response.questionId →
        question.questionType = .written → response.gradedAt ≠ none

/-- The ids are a primary key, so the question of a response is found. -/
theorem isWritten_iff {catalogue : Catalogue} {id : AssessmentId}
    {question : AssessmentQuestion} {response : ParticipantResponse}
    (isQuestion : question ∈ catalogue.questionsOf id)
    (same : question.id = response.questionId) :
    isWritten catalogue response = true ↔
      question.questionType = .written := by
  have listed := (List.mem_filter.mp isQuestion).1
  have found :=
    (catalogue.question?_eq_some_iff response.questionId question).mpr
      ⟨listed, same⟩
  rw [isWritten, found]
  exact decide_eq_true_iff

section Counting

variable {catalogue : Catalogue} {assessment : Assessment}
variable {responses : List ParticipantResponse}
variable (own : AnswersOwn catalogue assessment responses)

include own

/-- The comparison of the counts, for responses to different questions. -/
theorem answersAll_iff_length_le
    (distinct :
      (responses.map ParticipantResponse.questionId).Nodup) :
    AnswersAll catalogue assessment responses ↔
      (catalogue.questionsOf assessment.id).length ≤
        responses.length := by
  have among :
      responses.map ParticipantResponse.questionId ⊆
        (catalogue.questionsOf assessment.id).map
          AssessmentQuestion.id := by
    intro id member
    rcases List.mem_map.mp member with ⟨response, isResponse, rfl⟩
    rcases own response isResponse with ⟨question, isQuestion, same⟩
    exact List.mem_map.mpr ⟨question, isQuestion, same⟩
  have counts :=
    subset_iff_length_le distinct
      (questionsOf_ids_nodup catalogue assessment.id) among
  rw [List.length_map, List.length_map] at counts
  rw [← counts]
  constructor
  · intro all id member
    rcases List.mem_map.mp member with ⟨question, isQuestion, rfl⟩
    exact List.mem_map.mpr (all question isQuestion)
  · intro all question isQuestion
    exact List.mem_map.mp (all (List.mem_map_of_mem isQuestion))

/-- The nested filters, for responses to questions of the assessment. -/
theorem gradedAll_iff_isWritten :
    GradedAll catalogue assessment responses ↔
      ∀ response ∈ responses, isWritten catalogue response = true →
        response.gradedAt ≠ none := by
  constructor
  · intro graded response member written
    rcases own response member with ⟨question, isQuestion, same⟩
    exact
      graded response member question isQuestion same
        ((isWritten_iff isQuestion same).mp written)
  · intro graded response member question isQuestion same written
    exact
      graded response member
        ((isWritten_iff isQuestion same).mpr written)

theorem statusOf_eq_completed_iff_answersAll
    (distinct :
      (responses.map ParticipantResponse.questionId).Nodup) :
    statusOf catalogue assessment responses = .completed ↔
      responses ≠ [] ∧
        AnswersAll catalogue assessment responses ∧
        GradedAll catalogue assessment responses := by
  rw [statusOf_eq_completed_iff, answersAll_iff_length_le own distinct,
    gradedAll_iff_isWritten own]

end Counting

/-! ## The status of a participant -/

/-- In every run, the responses answer questions of their assessment. -/
theorem answersOwn_of_run
    (catalogue : Catalogue) (assignment : SelectionAssignment)
    (operations : List Operation) (assessment : Assessment)
    (participant : UserId) :
    AnswersOwn catalogue assessment
      ((Operation.run catalogue assignment operations
        Database.empty).responsesOf ⟨assessment.id, participant⟩) := by
  intro response member
  have wellFormed := wellFormed_run catalogue assignment operations
  exact
    List.mem_map.mp
      (wellFormed.questionId_mem ⟨assessment.id, participant⟩ response
        member)

/--
On responses to questions of its own, an assessment is completed when all of
its questions are answered and all written responses are graded, not started
when there are no responses, and in progress otherwise.
-/
theorem determineStatus_iff_answersAll
    (catalogue : Catalogue) (database : Database)
    (assessment : Assessment) (participant : UserId)
    (own :
      AnswersOwn catalogue assessment
        (database.responsesOf ⟨assessment.id, participant⟩)) :
    let responses := database.responsesOf ⟨assessment.id, participant⟩
    let status :=
      determineStatus catalogue database assessment participant
    (status = .completed ↔
        responses ≠ [] ∧
          AnswersAll catalogue assessment responses ∧
          GradedAll catalogue assessment responses) ∧
      (status = .notStarted ↔ responses = []) ∧
      (status = .inProgress ↔
        responses ≠ [] ∧
          ¬ (AnswersAll catalogue assessment responses ∧
            GradedAll catalogue assessment responses)) := by
  intro responses status
  have completed :=
    statusOf_eq_completed_iff_answersAll own
      (questionIds_nodup database ⟨assessment.id, participant⟩)
  have notStarted :=
    statusOf_eq_notStarted_iff catalogue assessment responses
  refine ⟨completed, notStarted, ?_⟩
  rw [ParticipationStatus.eq_inProgress_iff]
  constructor
  · rintro ⟨started, unfinished⟩
    have nonempty : responses ≠ [] := fun empty =>
      started (notStarted.mpr empty)
    exact
      ⟨nonempty, fun both => unfinished (completed.mpr ⟨nonempty, both⟩)⟩
  · rintro ⟨nonempty, unfinished⟩
    exact
      ⟨fun empty => nonempty (notStarted.mp empty),
        fun finished => unfinished (completed.mp finished).2⟩

/-- All questions are answered, and the texts are not graded yet. -/
theorem determineStatus_iff_answersAll_writtenAnswers :
    let responses :=
      (sampleRun .jsonEncoded writtenAnswers).responsesOf ⟨1, 1⟩
    let status :=
      determineStatus sampleCatalogue
        (sampleRun .jsonEncoded writtenAnswers) sampleAssessment 1
    (status = .completed ↔
        responses ≠ [] ∧
          AnswersAll sampleCatalogue sampleAssessment responses ∧
          GradedAll sampleCatalogue sampleAssessment responses) ∧
      (status = .notStarted ↔ responses = []) ∧
      (status = .inProgress ↔
        responses ≠ [] ∧
          ¬ (AnswersAll sampleCatalogue sampleAssessment responses ∧
            GradedAll sampleCatalogue sampleAssessment responses)) :=
  determineStatus_iff_answersAll sampleCatalogue
    (sampleRun .jsonEncoded writtenAnswers) sampleAssessment 1
    (answersOwn_of_run sampleCatalogue .jsonEncoded writtenAnswers
      sampleAssessment 1)

end AssessmentScoreService

end SultanPass
