import SultanPass.FaithfulAuthoring
import SultanPass.Library.OrderBy
import SultanPass.Library.Rounding
import SultanPass.SubmittedSelections

/-!
# The screen of a test

`SurveyController::take` shows one question of an assessment.  The query
`q` is a position in the ordered questions and is moved into their range;
the bar above the question shows the share of answered questions.

The questions and the answers come ordered by a column that may hold equal
values, so the way in which the database answers the two queries is an
argument of `take`, and every statement is about every such way.
-/

namespace SultanPass.SurveyController

open SultanPass.Library
open SultanPass.Library.Rounding

/-! ## The screen -/

/-- A request for a screen: route parameter, user, and `(int) $q`. -/
structure TakeRequest where
  assessmentId : AssessmentId
  userId : UserId
  q : ℤ
deriving DecidableEq, Repr

def TakeRequest.pair (request : TakeRequest) : Pair where
  assessmentId := request.assessmentId
  participantId := request.userId

/-- What `take` can raise. -/
inductive TakeError where
  | php (error : PhpError)
  | notFound (message : String)
  | undefinedOffset
deriving DecidableEq, Repr

/-- The data of the view `surveys.take`. -/
structure TakeScreen where
  assessment : Assessment
  currentQuestion : AssessmentQuestion
  answers : List AssessmentAnswer
  index : ℤ
  totalQuestions : ℕ
  existingResponse : Option ParticipantResponse
  progress : ℚ
deriving DecidableEq, Repr

/-- The 1-based index of the current question. -/
def currentIndex (totalQuestions : ℕ) (q : ℤ) : ℤ :=
  if q < 1 then 1
  else if totalQuestions < q then totalQuestions
  else q

/-- A response with a selection or a text. -/
def hasContent (response : ParticipantResponse) : Bool :=
  response.selectedAnswerIdsColumn ≠ none ∨
    response.writtenResponseText ≠ none

/-- `$answeredCount`. -/
def answeredCount (database : Database) (pair : Pair) : ℕ :=
  ((database.responsesOf pair).filter hasContent).length

/-- `$progress`. -/
def progressOf (answeredCount totalQuestions : ℕ) : ℚ :=
  if 0 < totalQuestions then
    roundHalfAway 0 (answeredCount / totalQuestions * 100)
  else 0

/-- The answers of a choice, in order. -/
def offeredAnswers (catalogue : Catalogue)
    (answerOrder : OrderBy AssessmentAnswer.order)
    (question : AssessmentQuestion) : List AssessmentAnswer :=
  match question.questionType with
  | .mcq => answerOrder.sort (catalogue.answersOf question.id)
  | .written => []

/-- `take`. -/
def take (catalogue : Catalogue) (database : Database)
    (questionOrder : OrderBy AssessmentQuestion.order)
    (answerOrder : OrderBy AssessmentAnswer.order)
    (request : TakeRequest) : Except TakeError TakeScreen :=
  match
    catalogue.findAssessment request.assessmentId,
    catalogue.findUser request.userId with
  | .error error, _ => .error (.php error)
  | _, .error error => .error (.php error)
  | .ok assessment, .ok _ =>
      let questions :=
        questionOrder.sort (catalogue.questionsOf assessment.id)
      if questions = [] then
        .error (.notFound "This assessment has no questions yet.")
      else
        let totalQuestions := questions.length
        let index := currentIndex totalQuestions request.q
        match questions[(index - 1).toNat]? with
        | none => .error .undefinedOffset
        | some currentQuestion =>
            .ok
              { assessment := assessment
                currentQuestion := currentQuestion
                answers :=
                  offeredAnswers catalogue answerOrder currentQuestion
                index := index
                totalQuestions := totalQuestions
                existingResponse :=
                  database.response? (request.pair, currentQuestion.id)
                progress :=
                  progressOf (answeredCount database request.pair)
                    totalQuestions }

/-! ## What a request shows -/

theorem currentIndex_bounds
    {totalQuestions : ℕ} (some : 0 < totalQuestions) (q : ℤ) :
    1 ≤ currentIndex totalQuestions q ∧
      currentIndex totalQuestions q ≤ totalQuestions := by
  rw [currentIndex]
  split_ifs <;> omega

/-- An index in the range is not moved. -/
theorem currentIndex_of_mem
    {totalQuestions : ℕ} {q : ℤ} (least : 1 ≤ q)
    (most : q ≤ totalQuestions) :
    currentIndex totalQuestions q = q := by
  rw [currentIndex, if_neg (by omega), if_neg (by omega)]

/-- An assessment with questions, and a user to take it. -/
structure Takeable (catalogue : Catalogue) (request : TakeRequest)
    (assessment : Assessment) : Prop where
  assessmentFound :
    catalogue.assessment? request.assessmentId = some assessment
  isUser : request.userId ∈ catalogue.users
  nonempty : catalogue.questionsOf request.assessmentId ≠ []

/-- The position of the current question, counted from 0. -/
def position (catalogue : Catalogue) (request : TakeRequest) : ℕ :=
  (currentIndex (catalogue.questionsOf request.assessmentId).length
    request.q - 1).toNat

/-- What a screen shows, for each way of ordering the questions. -/
structure Shows (catalogue : Catalogue) (database : Database)
    (questionOrder : OrderBy AssessmentQuestion.order)
    (request : TakeRequest) (screen : TakeScreen) : Prop where
  assessmentId : screen.assessment.id = request.assessmentId
  currentQuestion :
    (questionOrder.sort
        (catalogue.questionsOf request.assessmentId))[
          position catalogue request]? =
      some screen.currentQuestion
  index :
    screen.index =
      currentIndex
        (catalogue.questionsOf request.assessmentId).length request.q
  totalQuestions :
    screen.totalQuestions =
      (catalogue.questionsOf request.assessmentId).length
  progress :
    screen.progress =
      progressOf (answeredCount database request.pair)
        (catalogue.questionsOf request.assessmentId).length

/-- A request for a test with questions shows one of them. -/
theorem exists_take
    {catalogue : Catalogue} {request : TakeRequest}
    {assessment : Assessment}
    (takeable : Takeable catalogue request assessment)
    (database : Database)
    (questionOrder : OrderBy AssessmentQuestion.order)
    (answerOrder : OrderBy AssessmentAnswer.order) :
    ∃ screen,
      take catalogue database questionOrder answerOrder request =
          .ok screen ∧
        Shows catalogue database questionOrder request screen := by
  have sameId : assessment.id = request.assessmentId :=
    Catalogue.assessment?_id takeable.assessmentFound
  have found :=
    (catalogue.findAssessment_eq_ok_iff _ _).mpr
      takeable.assessmentFound
  have sameLength :=
    questionOrder.length_sort
      (catalogue.questionsOf request.assessmentId)
  have inside :
      (currentIndex
          (catalogue.questionsOf request.assessmentId).length
          request.q - 1).toNat <
        (questionOrder.sort
          (catalogue.questionsOf request.assessmentId)).length := by
    have bounds :=
      currentIndex_bounds
        (List.length_pos_of_ne_nil takeable.nonempty) request.q
    rw [sameLength]
    omega
  have sorted :
      questionOrder.sort
        (catalogue.questionsOf request.assessmentId) ≠ [] :=
    List.ne_nil_of_length_pos (Nat.zero_lt_of_lt inside)
  have shown := List.getElem?_eq_getElem inside
  rw [take, found, Catalogue.findUser, if_pos takeable.isUser]
  dsimp only
  rw [sameId, if_neg sorted, sameLength, shown]
  exact
    ⟨_, rfl,
      { assessmentId := sameId
        currentQuestion := shown
        index := rfl
        totalQuestions := rfl
        progress := rfl }⟩

/-- Every screen is one of an assessment with questions. -/
theorem takeable_of_take
    {catalogue : Catalogue} {request : TakeRequest}
    {database : Database}
    {questionOrder : OrderBy AssessmentQuestion.order}
    {answerOrder : OrderBy AssessmentAnswer.order}
    {screen : TakeScreen}
    (shown :
      take catalogue database questionOrder answerOrder request =
        .ok screen) :
    ∃ assessment, Takeable catalogue request assessment := by
  rw [take] at shown
  cases found : catalogue.findAssessment request.assessmentId with
  | error error =>
      rw [found] at shown
      cases shown
  | ok assessment =>
      have assessmentFound :=
        (catalogue.findAssessment_eq_ok_iff _ _).mp found
      have sameId : assessment.id = request.assessmentId :=
        Catalogue.assessment?_id assessmentFound
      by_cases isUser : request.userId ∈ catalogue.users
      · rw [found, Catalogue.findUser, if_pos isUser] at shown
        dsimp only at shown
        refine ⟨assessment, assessmentFound, isUser, ?_⟩
        intro none
        have noRows :
            questionOrder.sort (catalogue.questionsOf assessment.id) =
              [] := by
          apply List.eq_nil_of_length_eq_zero
          rw [questionOrder.length_sort, sameId, none]
          rfl
        rw [if_pos noRows] at shown
        cases shown
      · rw [found, Catalogue.findUser, if_neg isUser] at shown
        cases shown

/-- A returned screen shows what the request asks for. -/
theorem shows_of_take
    {catalogue : Catalogue} {request : TakeRequest}
    {database : Database}
    {questionOrder : OrderBy AssessmentQuestion.order}
    {answerOrder : OrderBy AssessmentAnswer.order}
    {screen : TakeScreen}
    (shown :
      take catalogue database questionOrder answerOrder request =
        .ok screen) :
    Shows catalogue database questionOrder request screen := by
  rcases takeable_of_take shown with ⟨assessment, takeable⟩
  rcases exists_take takeable database questionOrder answerOrder with
    ⟨other, otherShown, shows⟩
  rw [shown] at otherShown
  cases otherShown
  exact shows

end SultanPass.SurveyController
