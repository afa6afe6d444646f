import SultanPass.AssessmentScoreService

/-!
# The requests that write responses and scores

`SurveyController::storeResponse`, `GradingController::store` and the
command `assessments:recalculate-scores`, each as the sequence of database
statements that it issues.  Requests are taken after their validation.

`storeResponse` takes one parameter that the source does not have: the value
it assigns to the cast attribute `selected_answer_ids`.  The code assigns
`.jsonEncoded`; `.idList` is the list that the `array` cast is declared for.
-/

namespace SultanPass

open SultanPass.Library

/-! ## `SurveyController` -/

/-- What is assigned to the attribute `selected_answer_ids`. -/
inductive SelectionAssignment where
  | jsonEncoded
  | idList
deriving DecidableEq, Repr

/-- The assigned value for a list of selected answers. -/
def SelectionAssignment.value :
    SelectionAssignment → List ℤ → PhpValue
  | .jsonEncoded, selected => .str (JsonText.encode (.list selected))
  | .idList, selected => .list selected

namespace SurveyController

inductive Action where
  | next
  | previous
  | markForReview
  | submit
deriving DecidableEq, Repr

/-- A validated request with its route parameter, user, index and time. -/
structure StoreResponseRequest where
  assessmentId : AssessmentId
  userId : UserId
  questionId : QuestionId
  action : Action
  selectedAnswers : Option (List ℤ)
  writtenResponseText : Option String
  index : ℤ
  now : Timestamp
deriving DecidableEq, Repr

def StoreResponseRequest.pair (request : StoreResponseRequest) : Pair where
  assessmentId := request.assessmentId
  participantId := request.userId

def StoreResponseRequest.key (request : StoreResponseRequest) :
    ResponseKey :=
  (request.pair, request.questionId)

/-- The page a request is redirected to. -/
inductive Redirect where
  | dashboardParticipant
  | take (assessmentId : AssessmentId) (index : ℤ)
deriving DecidableEq, Repr

/-- The question of this assessment, or `firstOrFail`'s exception. -/
def findQuestion (catalogue : Catalogue) (assessment : Assessment)
    (questionId : QuestionId) : Except PhpError AssessmentQuestion :=
  match
    catalogue.questions.find? fun question =>
      question.assessmentId = assessment.id ∧
        question.id = questionId with
  | some question => .ok question
  | none => .error .modelNotFound

/-- The part of `$data` that depends on the question type. -/
def answerColumns (assignment : SelectionAssignment)
    (question : AssessmentQuestion) (request : StoreResponseRequest) :
    AnswerColumns :=
  match question.questionType with
  | .mcq =>
      let selected := request.selectedAnswers.getD []
      .selection
        (castArraySet
          (if selected ≠ [] then assignment.value selected else .null))
  | .written => .written request.writtenResponseText

/-- `ParticipantResponse::updateOrCreate` with its `saved` event. -/
def updateOrCreateResponse (catalogue : Catalogue) (now : Timestamp)
    (key : ResponseKey) (columns : AnswerColumns) :
    DatabaseProgram Unit := do
  let existing ← Program.query fun database : Database =>
    database.response? key
  Program.execute (.saveAnswer key columns)
  ParticipantResponseObserver.saved catalogue now
    (columns.fill (existing.getD (ParticipantResponse.blank key)))

/-- The body of the transaction of `storeResponse`. -/
def storeResponseBody (catalogue : Catalogue)
    (assignment : SelectionAssignment) (question : AssessmentQuestion)
    (request : StoreResponseRequest) : DatabaseProgram Unit := do
  updateOrCreateResponse catalogue request.now request.key
    (answerColumns assignment question request)
  AssessmentScoreService.updateOrInsert request.pair
    { score := none, status := .inProgress, updatedAt := request.now }

/-- Everything after the transaction of `storeResponse`. -/
def navigate (catalogue : Catalogue) (request : StoreResponseRequest) :
    DatabaseProgram Redirect :=
  let totalQuestions :=
    (catalogue.questionsOf request.assessmentId).length
  match request.action with
  | .previous =>
      pure (.take request.assessmentId (max 1 (request.index - 1)))
  | .next =>
      pure (.take request.assessmentId
        (min totalQuestions (request.index + 1)))
  | .markForReview =>
      pure (.take request.assessmentId
        (min totalQuestions (request.index + 1)))
  | .submit => do
      Program.execute (.updateParticipants request.pair
        { score := none
          status := .completed
          updatedAt := request.now })
      pure .dashboardParticipant

/-- `storeResponse`. -/
def storeResponse (catalogue : Catalogue)
    (assignment : SelectionAssignment) (request : StoreResponseRequest) :
    DatabaseProgram Redirect := do
  let assessment ← Program.ofExcept
    (catalogue.findAssessment request.assessmentId)
  let _ ← Program.ofExcept (catalogue.findUser request.userId)
  let question ← Program.ofExcept
    (findQuestion catalogue assessment request.questionId)
  Program.transaction
    (storeResponseBody catalogue assignment question request)
  navigate catalogue request

end SurveyController

/-! ## `GradingController` -/

namespace GradingController

/-- One entry of the validated array `responses`. -/
structure GradeEntry where
  questionId : QuestionId
  gradedScore : Option ℚ
  gradedCategories : Option GradedCategories
deriving DecidableEq, Repr

/-- A validated request with its route parameters, grader and time. -/
structure StoreRequest where
  assessmentId : AssessmentId
  participantId : UserId
  userId : UserId
  responses : List GradeEntry
  now : Timestamp
deriving DecidableEq, Repr

def StoreRequest.pair (request : StoreRequest) : Pair where
  assessmentId := request.assessmentId
  participantId := request.participantId

/-- The array `$updateData`. -/
def updateData (assessment : Assessment) (request : StoreRequest)
    (entry : GradeEntry) : GradeColumns where
  gradedBy := request.userId
  gradedAt := request.now
  value :=
    match assessment.scoringMode with
    | .percentile => .gradedScore entry.gradedScore
    | .categorical => .gradedCategories entry.gradedCategories

/-- The loop body: grade one response, if it answers a written question. -/
def gradeEntry (catalogue : Catalogue) (assessment : Assessment)
    (request : StoreRequest) (entry : GradeEntry) :
    DatabaseProgram Unit := do
  let found ← Program.query fun database : Database =>
    database.response? (request.pair, entry.questionId)
  match found with
  | none => pure ()
  | some response =>
      if AssessmentScoreService.isWritten catalogue response then do
        let columns := updateData assessment request entry
        Program.execute (.saveGrade response.key columns)
        ParticipantResponseObserver.saved catalogue request.now
          (columns.fill response)
      else
        pure ()

/-- The body of the transaction of `store`. -/
def storeBody (catalogue : Catalogue) (assessment : Assessment)
    (request : StoreRequest) : DatabaseProgram Unit := do
  Program.forEach (gradeEntry catalogue assessment request)
    request.responses
  let _ ←
    AssessmentScoreService.calculateAndUpdateScore catalogue request.now
      assessment request.participantId
  pure ()

/-- `store`. -/
def store (catalogue : Catalogue) (request : StoreRequest) :
    DatabaseProgram Unit := do
  let assessment ← Program.ofExcept
    (catalogue.findAssessment request.assessmentId)
  let _ ← Program.ofExcept (catalogue.findUser request.participantId)
  Program.transaction (storeBody catalogue assessment request)

end GradingController

/-! ## `RecalculateAssessmentScores` -/

namespace RecalculateAssessmentScores

/-- The options of the command with the time of its run. -/
structure Options where
  participant : Option UserId
  assessment : Option AssessmentId
  fixOldScores : Bool
  now : Timestamp
deriving DecidableEq, Repr

/-- `calculateAndUpdateScore` for its effect on the rows. -/
def recalculate (catalogue : Catalogue) (now : Timestamp)
    (assessment : Assessment) (participant : UserId) :
    DatabaseProgram Unit := do
  let _ ←
    AssessmentScoreService.calculateAndUpdateScore catalogue now
      assessment participant
  pure ()

/-- `Assessment::whereHas('responses', …)` for one participant. -/
def assessmentsOf (catalogue : Catalogue) (participant : UserId)
    (database : Database) : List Assessment :=
  catalogue.assessments.filter fun assessment =>
    database.responsesOf ⟨assessment.id, participant⟩ ≠ []

/-- `User::whereHas('participantResponses', …)` for one assessment. -/
def participantsOf (catalogue : Catalogue) (assessment : Assessment)
    (database : Database) : List UserId :=
  catalogue.users.filter fun participant =>
    database.responsesOf ⟨assessment.id, participant⟩ ≠ []

/-- `recalculateForParticipant`. -/
def recalculateForParticipant (catalogue : Catalogue) (now : Timestamp)
    (participant : UserId) : DatabaseProgram Unit := do
  let assessments ← Program.query
    (assessmentsOf catalogue participant)
  Program.forEach
    (fun assessment => recalculate catalogue now assessment participant)
    assessments

/-- `recalculateForAssessment`. -/
def recalculateForAssessment (catalogue : Catalogue) (now : Timestamp)
    (assessment : Assessment) : DatabaseProgram Unit := do
  let participants ← Program.query
    (participantsOf catalogue assessment)
  Program.forEach (recalculate catalogue now assessment) participants

/-- `recalculateAll`. -/
def recalculateAll (catalogue : Catalogue) (now : Timestamp) :
    DatabaseProgram Unit := do
  let assessments ← Program.query fun database : Database =>
    catalogue.assessments.filter fun assessment =>
      database.participantResponses.rows.any fun response =>
        response.assessmentId = assessment.id
  Program.forEach (recalculateForAssessment catalogue now) assessments

/-- An option value is used when it is truthy. -/
def given (option : Option ℕ) : Option ℕ :=
  option.filter fun value => value ≠ 0

/-- `fixOldScaleScores`, when its option is set. -/
def fixOldScaleScores (options : Options) : DatabaseProgram Unit :=
  if options.fixOldScores then
    Program.execute (.fixOldScaleScores options.now)
  else
    pure ()

/-- `handle`, with the exit code of the command. -/
def handle (catalogue : Catalogue) (options : Options) :
    DatabaseProgram ℕ := do
  fixOldScaleScores options
  match given options.participant, given options.assessment with
  | some participant, _ =>
      if participant ∈ catalogue.users then do
        recalculateForParticipant catalogue options.now participant
        pure 0
      else
        pure 1
  | none, some assessmentId =>
      match catalogue.assessment? assessmentId with
      | some assessment => do
          recalculateForAssessment catalogue options.now assessment
          pure 0
      | none => pure 1
  | none, none => do
      recalculateAll catalogue options.now
      pure 0

end RecalculateAssessmentScores

end SultanPass
