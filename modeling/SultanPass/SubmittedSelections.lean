import SultanPass.ResponseHistory

/-!
# Where a stored selection comes from

`storeResponse` looks its question up in the assessment of the route, so a
question of another assessment is refused.  The selected answers are only
checked to be integers.  What is placed in `selected_answer_ids` is the
submitted list as it is: its order, its repetitions, and its ids of answers
to any question.
-/

namespace SultanPass.SurveyController

open SultanPass.Library
open SultanPass.ParticipantResponseObserver

/-! ## The outcome of a request -/

theorem resolve_eq_error
    {catalogue : Catalogue} {request : StoreResponseRequest}
    {error : PhpError}
    (raises : resolve catalogue request = .error error) :
    error = .modelNotFound := by
  rw [resolve, Catalogue.findAssessment] at raises
  cases foundAssessment : catalogue.assessment? request.assessmentId with
  | none =>
      rw [foundAssessment] at raises
      cases raises
      rfl
  | some assessment =>
      rw [foundAssessment] at raises
      change (catalogue.findUser request.userId >>= _) = _ at raises
      by_cases isUser : request.userId ∈ catalogue.users
      · rw [Catalogue.findUser, if_pos isUser] at raises
        change (findQuestion catalogue assessment _ >>= _) = _ at raises
        rw [findQuestion] at raises
        cases foundQuestion : catalogue.questions.find? fun question =>
            question.assessmentId = assessment.id ∧
              question.id = request.questionId with
        | none =>
            rw [foundQuestion] at raises
            cases raises
            rfl
        | some question =>
            rw [foundQuestion] at raises
            cases raises
      · rw [Catalogue.findUser, if_neg isUser] at raises
        cases raises
        rfl

/-- A question of another assessment is refused. -/
theorem exec_storeResponse_of_foreign
    {catalogue : Catalogue} (assignment : SelectionAssignment)
    {request : StoreResponseRequest} {question : AssessmentQuestion}
    (found : catalogue.question? request.questionId = some question)
    (foreign : question.assessmentId ≠ request.assessmentId)
    (database : Database) :
    (storeResponse catalogue assignment request).exec ⟨database, none⟩ =
      (.error .modelNotFound, ⟨database, none⟩) := by
  rw [storeResponse_eq]
  cases resolves : resolve catalogue request with
  | error error =>
      rw [resolve_eq_error resolves]
      rfl
  | ok result =>
      rcases result with ⟨assessment, other⟩
      have resolved := (resolve_eq_ok_iff _ _ _ _).mp resolves
      have same := found.symm.trans resolved.questionFound
      cases same
      exact (foreign resolved.questionBelongs).elim

/-- A request raises and changes nothing, or performs its statements. -/
theorem exec_storeResponse
    (catalogue : Catalogue) (assignment : SelectionAssignment)
    (request : StoreResponseRequest) (database : Database) :
    (∃ error,
      (storeResponse catalogue assignment request).exec
          ⟨database, none⟩ =
        (.error error, ⟨database, none⟩)) ∨
    ∃ assessment question redirect,
      Resolved catalogue request assessment question ∧
        (storeResponse catalogue assignment request).exec
            ⟨database, none⟩ =
          (.ok redirect,
            ⟨Program.performAll
              (bodyStatements catalogue assignment assessment question
                  request database ++
                submitStatements request)
              database, none⟩) := by
  rw [atomic_storeResponse catalogue assignment request database]
  rcases committed_storeResponse catalogue assignment request
      database with
    ⟨error, raised, none⟩ |
      ⟨assessment, question, resolved, _, ⟨redirect, returned⟩, equal⟩
  · rw [raised, none]
    exact Or.inl ⟨error, rfl⟩
  · rw [returned, equal]
    exact Or.inr ⟨assessment, question, redirect, resolved, rfl⟩

/-! ## The placed list -/

/-- `$validated['selected_answers'] ?? []`. -/
def submittedAnswers (request : StoreResponseRequest) : List ℤ :=
  request.selectedAnswers.getD []

/-- The value that the attribute `selected_answer_ids` is to have. -/
def placedValue (assignment : SelectionAssignment)
    (request : StoreResponseRequest) : PhpValue :=
  if submittedAnswers request ≠ [] then
    assignment.value (submittedAnswers request)
  else .null

theorem answerColumns_of_mcq
    (assignment : SelectionAssignment) {question : AssessmentQuestion}
    (kind : question.questionType = .mcq)
    (request : StoreResponseRequest) :
    answerColumns assignment question request =
      .selection (castArraySet (placedValue assignment request)) := by
  rw [answerColumns, kind]
  rfl

/-- The answer a request may save: its own key, the submitted list. -/
def SavesSubmitted (assignment : SelectionAssignment)
    (request : StoreResponseRequest) : Statement → Prop
  | .saveAnswer key columns =>
      key = request.key ∧
        columns =
          .selection (castArraySet (placedValue assignment request))
  | _ => True

section Participations

variable {allowed : Statement → Prop}
  (inserts : ∀ pair columns,
    allowed (.insertParticipant pair columns))
  (updates : ∀ pair columns,
    allowed (.updateParticipant pair columns))
include inserts updates

theorem writes_updateOrInsert
    (pair : Pair) (columns : ParticipationColumns) :
    (AssessmentScoreService.updateOrInsert pair columns).Writes
      allowed := by
  apply Program.Writes.bind (Program.writes_query _ _)
  intro found
  cases found with
  | true => exact Program.writes_execute (updates pair columns)
  | false => exact Program.writes_execute (inserts pair columns)

theorem writes_calculateAndUpdateScore
    (catalogue : Catalogue) (now : Timestamp)
    (assessment : Assessment) (participant : UserId) :
    (AssessmentScoreService.calculateAndUpdateScore catalogue now
      assessment participant).Writes allowed := by
  apply Program.Writes.bind (Program.writes_query _ _)
  intro computed
  apply Program.Writes.bind (Program.writes_ofExcept _ _)
  intro score
  cases score with
  | none => exact True.intro
  | some score =>
      apply Program.Writes.bind (Program.writes_query _ _)
      intro status
      apply
        Program.Writes.bind
          (writes_updateOrInsert inserts updates _ _)
      intro _
      exact True.intro

/-- The observer of a response writes participation rows only. -/
theorem writes_saved
    (catalogue : Catalogue) (now : Timestamp)
    (response : ParticipantResponse) :
    (saved catalogue now response).Writes allowed := by
  rcases saved_cases catalogue now response with
    nothing | ⟨assessment, recalculates⟩
  · rw [nothing]
    exact True.intro
  · rw [recalculates]
    apply
      Program.Writes.bind
        (writes_calculateAndUpdateScore inserts updates _ _ _ _)
    intro _
    exact True.intro

end Participations

/-- A request on a choice saves the list that it submits. -/
theorem writes_storeResponse
    {catalogue : Catalogue} (assignment : SelectionAssignment)
    {request : StoreResponseRequest} {question : AssessmentQuestion}
    (found : catalogue.question? request.questionId = some question)
    (kind : question.questionType = .mcq) :
    (storeResponse catalogue assignment request).Writes
      (SavesSubmitted assignment request) := by
  have inserts (pair : Pair) (columns : ParticipationColumns) :
      SavesSubmitted assignment request
        (.insertParticipant pair columns) :=
    True.intro
  have updates (pair : Pair) (columns : ParticipationColumns) :
      SavesSubmitted assignment request
        (.updateParticipant pair columns) :=
    True.intro
  rw [storeResponse_eq]
  apply Program.Writes.ofExcept_bind
  rintro ⟨assessment, other⟩ resolves
  have resolved := (resolve_eq_ok_iff _ _ _ _).mp resolves
  cases found.symm.trans resolved.questionFound
  apply Program.Writes.bind
  · apply Program.Writes.transaction
    apply Program.Writes.bind
    · apply Program.Writes.bind (Program.writes_query _ _)
      intro existing
      apply
        Program.Writes.bind
          (Program.writes_execute
            ⟨rfl, answerColumns_of_mcq assignment kind request⟩)
      intro _
      exact writes_saved inserts updates _ _ _
    · intro _
      exact writes_updateOrInsert inserts updates _ _
  · intro _
    rw [navigate]
    cases request.action with
    | next => exact True.intro
    | previous => exact True.intro
    | markForReview => exact True.intro
    | submit => exact ⟨True.intro, True.intro⟩

/-- The row that a request on a choice leaves, when it finishes. -/
theorem selectedAnswerIds_of_exec
    {catalogue : Catalogue} (assignment : SelectionAssignment)
    {request : StoreResponseRequest} {question : AssessmentQuestion}
    (found : catalogue.question? request.questionId = some question)
    (kind : question.questionType = .mcq) {database : Database}
    {redirect : Redirect} {after : Program.Connection Database}
    (finishes :
      (storeResponse catalogue assignment request).exec
        ⟨database, none⟩ = (.ok redirect, after)) :
    ∃ response,
      after.state.response? request.key = some response ∧
        response.selectedAnswerIds = placedValue assignment request := by
  rcases exec_storeResponse catalogue assignment request database with
    ⟨error, raises⟩ | ⟨assessment, other, _, resolved, performs⟩
  · rw [raises] at finishes
    cases finishes
  · cases found.symm.trans resolved.questionFound
    rw [performs] at finishes
    cases finishes
    refine
      ⟨savedResponse assignment question request database, ?_, ?_⟩
    · rw [Database.response?,
        participantResponses_storeResponse]
      exact Database.response?_saveAnswer_self _ _ _
    · rw [savedResponse, answerColumns_of_mcq assignment kind]
      exact castArrayGet_castArraySet (placedValue assignment request)

/--
A request for a question of another assessment changes nothing.  A request
on a choice saves the list that it submits, and when it finishes, that list
is what the attribute reads.
-/
theorem selection_is_placed_as_submitted
    (catalogue : Catalogue) (assignment : SelectionAssignment)
    (request : StoreResponseRequest) (question : AssessmentQuestion)
    (found : catalogue.question? request.questionId = some question)
    (database : Database) :
    let program := storeResponse catalogue assignment request
    (question.assessmentId ≠ request.assessmentId →
      program.exec ⟨database, none⟩ =
        (.error .modelNotFound, ⟨database, none⟩)) ∧
      (question.questionType = .mcq →
        (∀ statement ∈ (program.issued database).2,
          SavesSubmitted assignment request statement) ∧
        ∀ redirect after,
          program.exec ⟨database, none⟩ = (.ok redirect, after) →
            ∃ response,
              after.state.response? request.key = some response ∧
                response.selectedAnswerIds =
                  placedValue assignment request) := by
  constructor
  · intro foreign
    exact
      exec_storeResponse_of_foreign assignment found foreign database
  · intro kind
    constructor
    · intro statement issues
      exact
        (writes_storeResponse assignment found kind).of_mem_issued issues
    · intro redirect after finishes
      exact selectedAnswerIds_of_exec assignment found kind finishes

/-- The choice question of the small catalogue. -/
def sampleChoice : AssessmentQuestion where
  id := 1
  assessmentId := 1
  questionType := .mcq
  questionText := "Choose"
  order := 1
  maxScore := some 10

theorem selection_is_placed_as_submitted_sample :
    let request := sampleSelection 1 [2, 1] .next
    let program := storeResponse sampleCatalogue .idList request
    (sampleChoice.assessmentId ≠ request.assessmentId →
      program.exec ⟨Database.empty, none⟩ =
        (.error .modelNotFound, ⟨Database.empty, none⟩)) ∧
      (sampleChoice.questionType = .mcq →
        (∀ statement ∈ (program.issued Database.empty).2,
          SavesSubmitted .idList request statement) ∧
        ∀ redirect after,
          program.exec ⟨Database.empty, none⟩ = (.ok redirect, after) →
            ∃ response,
              after.state.response? request.key = some response ∧
                response.selectedAnswerIds =
                  placedValue .idList request) :=
  selection_is_placed_as_submitted sampleCatalogue .idList
    (sampleSelection 1 [2, 1] .next) sampleChoice (by decide)
    Database.empty

/--
Twice an answer to a question of another assessment: the list is placed
under both assignments, and stored as a list under the second.
-/
theorem foreign_selection_is_placed :
    let request := sampleSelection 1 [3, 3] .next
    let after := sampleRun .idList [.storeResponse request]
    (3 : AnswerId) ∉
        AssessmentScoreService.answerIdsOf sampleCatalogue 1 ∧
      placedValue .jsonEncoded request =
        .str (JsonText.encode (.list [3, 3])) ∧
      placedValue .idList request = .list [3, 3] ∧
      (after.response? request.key).map
          ParticipantResponse.selectedAnswerIds =
        some (.list [3, 3]) := by
  decide +kernel

end SultanPass.SurveyController
