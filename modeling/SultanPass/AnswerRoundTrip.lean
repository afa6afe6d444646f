import SultanPass.DashboardController
import SultanPass.Operations

/-!
# Saving a selection and reading it back

`storeResponse` assigns the JSON text of the selection to an attribute whose
cast encodes once more.  The attribute then reads back as a text, the
`saved` event hands that text to `whereIn`, and the exception undoes the
transaction.  No selection survives its request.
-/

namespace SultanPass.AnswerRoundTrip

open SultanPass.Library
open SultanPass.AssessmentScoreService
open SultanPass.ParticipantResponseObserver
open SultanPass.SurveyController
open SultanPass.DashboardController

/-! ## Scoring a selection that is a text -/

/-- The selection reads back as a truthy text. -/
def HasText (response : ParticipantResponse) : Prop :=
  ∃ text, response.selectedAnswerIds = .str text ∧
    PhpValue.isEmpty (.str text) = false

theorem whereInValues_error
    {value : PhpValue} {error : PhpError}
    (raises : PhpValue.whereInValues value = .error error) :
    error = .typeError := by
  cases value <;> cases raises <;> rfl

/-- What is done with the values afterwards raises nothing else. -/
theorem error_of_whereInValues_bind
    {Result : Type} {value : PhpValue} {result : List ℤ → Result}
    {error : PhpError}
    (raises :
      (do
        let numbers ← PhpValue.whereInValues value
        Except.ok (result numbers)) =
        Except.error error) :
    error = .typeError := by
  cases values : PhpValue.whereInValues value with
  | error other =>
      rw [values] at raises
      cases raises
      exact whereInValues_error values
  | ok numbers =>
      rw [values] at raises
      cases raises

theorem percentileContribution_error
    (catalogue : Catalogue) (response : ParticipantResponse)
    (error : PhpError)
    (raises : percentileContribution catalogue response = .error error) :
    error = .typeError := by
  rw [percentileContribution] at raises
  cases found : catalogue.question? response.questionId with
  | none => simp [found] at raises
  | some question =>
      cases kind : question.questionType with
      | written => simp [found, kind] at raises
      | mcq =>
          simp only [found, kind, calculateMCQScore] at raises
          split_ifs at raises
          exact error_of_whereInValues_bind raises

theorem categoryRecords_error
    (catalogue : Catalogue) (response : ParticipantResponse)
    (error : PhpError)
    (raises : categoryRecords catalogue response = .error error) :
    error = .typeError := by
  rw [categoryRecords] at raises
  cases found : catalogue.question? response.questionId with
  | none => simp [found] at raises
  | some question =>
      cases kind : question.questionType with
      | written => simp [found, kind] at raises
      | mcq =>
          simp only [found, kind] at raises
          split_ifs at raises
          exact error_of_whereInValues_bind raises

/-- `whereIn` does not take a text, in either scoring mode. -/
theorem contributions_of_text
    (catalogue : Catalogue) {response : ParticipantResponse}
    {question : AssessmentQuestion}
    (found : catalogue.question? response.questionId = some question)
    (kind : question.questionType = .mcq)
    (isText : HasText response) :
    percentileContribution catalogue response = .error .typeError ∧
      categoryRecords catalogue response = .error .typeError := by
  rcases isText with ⟨text, selection, truthy⟩
  constructor
  · simp [percentileContribution, found, kind, calculateMCQScore,
      selection, PhpValue.orEmptyList, truthy]
    rfl
  · simp [categoryRecords, found, kind, selection,
      PhpValue.orEmptyList, truthy]
    rfl

/-- One choice with a text selection makes every recalculation raise. -/
theorem scoreOf_of_text
    (catalogue : Catalogue) (assessment : Assessment)
    {responses : List ParticipantResponse}
    {response : ParticipantResponse} (member : response ∈ responses)
    {question : AssessmentQuestion}
    (found : catalogue.question? response.questionId = some question)
    (kind : question.questionType = .mcq)
    (isText : HasText response) :
    scoreOf catalogue assessment responses = .error .typeError := by
  have raises := contributions_of_text catalogue found kind isText
  rw [scoreOf, if_neg (List.ne_nil_of_mem member)]
  cases assessment.scoringMode with
  | percentile =>
      dsimp only
      rw [calculatePercentileScore, percentileTotals,
        foldlM_eq_mapM_foldl,
        mapM_eq_error _ _ _
          (fun other _ => percentileContribution_error catalogue other)
          ⟨response, member, raises.1⟩]
      rfl
  | categorical =>
      dsimp only
      rw [calculateCategoricalScore, unroundedCategoricalScore,
        categoryTotals, foldlM_eq_mapM_foldl,
        mapM_eq_error _ _ _
          (fun other _ => categoryRecords_error catalogue other)
          ⟨response, member, raises.2⟩]
      rfl

/-! ## One request -/

/-- The doubly encoded selection reads back as its own JSON text. -/
theorem selectedAnswerIds_savedResponse
    {question : AssessmentQuestion} (kind : question.questionType = .mcq)
    {request : StoreResponseRequest} {selected : List ℤ}
    (given : request.selectedAnswers = some selected)
    (nonempty : selected ≠ []) (database : Database) :
    (savedResponse .jsonEncoded question request
        database).selectedAnswerIds =
      .str (JsonText.encode (.list selected)) := by
  rw [savedResponse, answerColumns, kind]
  simp only [given, Option.getD_some, if_pos nonempty]
  exact
    castArrayGet_castArraySet
      (.str (JsonText.encode (.list selected)))

theorem hasText_savedResponse
    {question : AssessmentQuestion} (kind : question.questionType = .mcq)
    {request : StoreResponseRequest} {selected : List ℤ}
    (given : request.selectedAnswers = some selected)
    (nonempty : selected ≠ []) (database : Database) :
    HasText (savedResponse .jsonEncoded question request database) :=
  ⟨_, selectedAnswerIds_savedResponse kind given nonempty database,
    by simp [PhpValue.isEmpty, JsonText.encode]⟩

section Selection

variable {catalogue : Catalogue} {request : StoreResponseRequest}
  {assessment : Assessment} {question : AssessmentQuestion}
  (resolved : Resolved catalogue request assessment question)
  (kind : question.questionType = .mcq) {selected : List ℤ}
  (given : request.selectedAnswers = some selected)
  (nonempty : selected ≠ []) (database : Database)
include resolved kind given nonempty

/-- The observer scores the encoded text of the saved choice. -/
theorem observedScore_of_selection :
    observedScore catalogue assessment
        (savedResponse .jsonEncoded question request database)
        (answered .jsonEncoded question request database) =
      .error .typeError := by
  have isText :=
    hasText_savedResponse kind given nonempty database
  have sameKey :=
    key_savedResponse .jsonEncoded question request database
  have calculates :
      shouldCalculateScore
        (savedResponse .jsonEncoded question request database) =
          true := by
    rcases isText with ⟨text, selection, truthy⟩
    simp [shouldCalculateScore, selection, truthy]
  have listed :
      savedResponse .jsonEncoded question request database ∈
        (answered .jsonEncoded question request database).responsesOf
          ⟨assessment.id, request.userId⟩ := by
    apply (Database.mem_responsesOf_iff _ _ _).mpr
    constructor
    · exact
        ((Database.response?_eq_some_iff _ request.key _).mp
          (Database.response?_saveAnswer_self _ _ _)).1
    · rw [resolved.assessmentId]
      exact congrArg Prod.fst sameKey
  have foundAgain :
      catalogue.question?
          (savedResponse .jsonEncoded question request
            database).questionId = some question := by
    have sameQuestion :
        (savedResponse .jsonEncoded question request
          database).questionId = request.questionId :=
      congrArg Prod.snd sameKey
    rw [sameQuestion]
    exact resolved.questionFound
  have sameParticipant :
      (savedResponse .jsonEncoded question request
        database).participantId = request.userId :=
    congrArg (fun key => key.1.participantId) sameKey
  rw [observedScore, if_pos calculates, sameParticipant,
    calculateScore,
    scoreOf_of_text catalogue assessment listed foundAgain kind isText]
  rfl

theorem issued_storeResponseBody_of_selection :
    ((storeResponseBody catalogue .jsonEncoded question
      request).issued database).1 = .error .typeError := by
  have observed :=
    observedScore_of_selection resolved kind given nonempty database
  rcases issued_storeResponseBody resolved .jsonEncoded database with
    ⟨error, sameError, fails⟩ | ⟨succeeds, _⟩
  · rw [observed] at sameError
    cases sameError
    exact fails
  · rw [observed] at succeeds
    cases succeeds

/-- Answering a choice question raises and leaves the database alone. -/
theorem exec_storeResponse_of_selection :
    (storeResponse catalogue .jsonEncoded request).exec
        ⟨database, none⟩ =
      (.error .typeError, ⟨database, none⟩) := by
  have raises :=
    issued_storeResponseBody_of_selection resolved kind given nonempty
      database
  rw [storeResponse_eq,
    (resolve_eq_ok_iff _ _ _ _).mpr resolved]
  change
    ((storeResponseBody catalogue .jsonEncoded question
      request).transaction.bind _).exec _ = _
  rw [Program.exec_bind,
    Program.exec_transaction (plain_storeResponseBody _ _ _ _)]
  rcases issues : (storeResponseBody catalogue .jsonEncoded question
      request).issued database with ⟨answer, statements⟩
  rw [issues] at raises
  change answer = _ at raises
  subst raises
  rfl

end Selection

/-! ## Runs without the second encoding -/

/-- Both assigned values agree unless a choice is made. -/
theorem answerColumns_jsonEncoded
    (question : AssessmentQuestion) (request : StoreResponseRequest)
    (noChoice :
      question.questionType = .mcq →
        request.selectedAnswers.getD [] = []) :
    answerColumns .jsonEncoded question request =
      answerColumns .idList question request := by
  rw [answerColumns, answerColumns]
  cases kind : question.questionType with
  | written => rfl
  | mcq => simp [noChoice kind]

/-- A request changes nothing, or what it changes with a list assigned. -/
theorem finalState_storeResponse
    (catalogue : Catalogue) (assignment : SelectionAssignment)
    (request : StoreResponseRequest) (database : Database) :
    (storeResponse catalogue assignment request).finalState database =
        database ∨
      (storeResponse catalogue assignment request).finalState
          database =
        (storeResponse catalogue .idList request).finalState
          database := by
  cases assignment with
  | idList => exact Or.inr rfl
  | jsonEncoded =>
      cases found : resolve catalogue request with
      | error error =>
          rw [storeResponse_eq, storeResponse_eq, found]
          exact Or.inr rfl
      | ok result =>
          rcases result with ⟨assessment, question⟩
          have resolved := (resolve_eq_ok_iff _ _ _ _).mp found
          by_cases noChoice :
              question.questionType = .mcq →
                request.selectedAnswers.getD [] = []
          · apply Or.inr
            rw [storeResponse_eq, storeResponse_eq, found]
            change
              Program.finalState
                  ((storeResponseBody _ _ question _).transaction.bind
                    _) _ =
                Program.finalState
                  ((storeResponseBody _ _ question _).transaction.bind
                    _) _
            rw [storeResponseBody, storeResponseBody,
              answerColumns_jsonEncoded question request noChoice]
          · rcases Classical.not_imp.mp noChoice with ⟨kind, nonempty⟩
            apply Or.inl
            cases given : request.selectedAnswers with
            | none => exact (nonempty (by rw [given]; rfl)).elim
            | some selected =>
                rw [given] at nonempty
                rw [Program.finalState,
                  exec_storeResponse_of_selection resolved kind given
                    nonempty]

/-- The same for any operation. -/
theorem apply_eq_or
    (catalogue : Catalogue) (assignment : SelectionAssignment)
    (operation : Operation) (database : Database) :
    operation.apply catalogue assignment database = database ∨
      operation.apply catalogue assignment database =
        operation.apply catalogue .idList database := by
  cases operation with
  | storeResponse request =>
      exact finalState_storeResponse catalogue assignment request database
  | grade request => exact Or.inr rfl
  | recalculate options => exact Or.inr rfl

/-! ## The round trip -/

/--
The round trip of a selection: the request succeeds, and afterwards the
model attribute and the dashboard both read the list that was sent.
-/
structure RoundTrips (catalogue : Catalogue) (database : Database)
    (request : StoreResponseRequest) (selected : List ℤ) : Prop where
  succeeds :
    ∃ redirect,
      ((storeResponse catalogue .jsonEncoded request).exec
        ⟨database, none⟩).1 = .ok redirect
  readsBack :
    ∃ response,
      ((storeResponse catalogue .jsonEncoded request).finalState
          database).response? request.key = some response ∧
        response.selectedAnswerIds = .list selected ∧
        decodedAnswerIds response.selectedAnswerIdsColumn =
          .list selected

/-- No selection of any choice question makes the round trip. -/
theorem not_roundTrips
    (catalogue : Catalogue) (database : Database)
    (request : StoreResponseRequest) (assessment : Assessment)
    (question : AssessmentQuestion)
    (resolved : Resolved catalogue request assessment question)
    (kind : question.questionType = .mcq) (selected : List ℤ)
    (given : request.selectedAnswers = some selected)
    (nonempty : selected ≠ []) :
    ¬ RoundTrips catalogue database request selected := by
  rintro ⟨⟨redirect, succeeds⟩, _⟩
  rw [exec_storeResponse_of_selection resolved kind given nonempty]
    at succeeds
  cases succeeds

theorem resolved_sampleSelection :
    Resolved sampleCatalogue (sampleSelection 1 [1] .next)
      sampleAssessment
      { id := 1, assessmentId := 1, questionType := .mcq
        questionText := "Choose", order := 1, maxScore := some 10 } where
  assessmentFound := by decide +kernel
  isUser := by decide
  questionFound := by decide +kernel
  questionBelongs := by decide

theorem not_roundTrips_sampleSelection :
    ¬ RoundTrips sampleCatalogue Database.empty
      (sampleSelection 1 [1] .next) [1] :=
  not_roundTrips sampleCatalogue Database.empty
    (sampleSelection 1 [1] .next) sampleAssessment _
    resolved_sampleSelection rfl [1] rfl (by decide)

/-- The first answer of a new participant raises and is not saved. -/
theorem sampleSelection_is_lost :
    Resolved sampleCatalogue (sampleSelection 1 [1] .next)
        sampleAssessment
        { id := 1, assessmentId := 1, questionType := .mcq
          questionText := "Choose", order := 1, maxScore := some 10 } ∧
      ((storeResponse sampleCatalogue .jsonEncoded
          (sampleSelection 1 [1] .next)).exec
        ⟨Database.empty, none⟩).1 = .error .typeError ∧
      ((storeResponse sampleCatalogue .jsonEncoded
          (sampleSelection 1 [1] .next)).finalState
        Database.empty).response?
          (sampleSelection 1 [1] .next).key = none :=
  ⟨resolved_sampleSelection, by decide +kernel, by decide +kernel⟩

end SultanPass.AnswerRoundTrip
