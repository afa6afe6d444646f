import SultanPass.FaithfulAuthoring
import SultanPass.Library.SelectedSums
import SultanPass.PercentileScores
import SultanPass.WholeAssessmentScores

/-!
# What the grading screens show

`GradingController::index` lists the participants of an assessment with a
status of their grading, and `show` lists the responses of one participant.
For a choice it shows the selected answers of the question and, in
percentile mode, the sum of their scores as `Auto Score`.

The service counts the selection in another way: it adds one score for each
id of the list, whatever question the id belongs to.  The two sums agree
exactly when each id that scores is one of the question's and is listed once
(`auto_score_is_counted_iff`).
-/

namespace SultanPass.GradingController

open SultanPass.Library
open SultanPass.AssessmentScoreService

/-! ## The list of participants -/

/-- `$totalWritten`. -/
def totalWritten (catalogue : Catalogue) (database : Database)
    (pair : Pair) : ℕ :=
  ((database.responsesOf pair).filter (isWritten catalogue)).length

/-- `$gradedWritten`. -/
def gradedWritten (catalogue : Catalogue) (database : Database)
    (pair : Pair) : ℕ :=
  ((database.responsesOf pair).filter fun response =>
    response.gradedAt ≠ none ∧ isWritten catalogue response).length

/-- The values of `grading_status`. -/
inductive GradingStatus where
  | graded
  | partiallyGraded
  | ungraded
  | noWritten
deriving DecidableEq, Repr

/-- `$participant->grading_status`. -/
def gradingStatus (catalogue : Catalogue) (database : Database)
    (pair : Pair) : GradingStatus :=
  if 0 < totalWritten catalogue database pair then
    if gradedWritten catalogue database pair =
        totalWritten catalogue database pair then
      .graded
    else if 0 < gradedWritten catalogue database pair then
      .partiallyGraded
    else .ungraded
  else .noWritten

/-! ## The selected answers of a choice -/

/-- `$answer->score`, the first row of the relation. -/
def score? (catalogue : Catalogue) (answer : AssessmentAnswer) :
    Option AnswerScore :=
  (catalogue.scoresOf answer.id).head?

/-- Whether `whereIn` keeps an id; a text is compared as a number. -/
def isSelected : PhpValue → AnswerId → Bool
  | .null, _ => false
  | .int number, id => number = id
  | .str text, id => JsonText.decodeInt text = some id
  | .list numbers, id => id ∈ numbers

/-- `$question->answers->whereIn('id', $response->selected_answer_ids)`. -/
def selectedAnswers (catalogue : Catalogue)
    (question : AssessmentQuestion) (response : ParticipantResponse) :
    List AssessmentAnswer :=
  (catalogue.answersOf question.id).filter fun answer =>
    isSelected response.selectedAnswerIds answer.id

/-- `$answer->score?->score_value ?? 0`. -/
def shownScore (catalogue : Catalogue) (answer : AssessmentAnswer) : ℚ :=
  ((score? catalogue answer).map AnswerScore.scoreValue).getD 0

/-- `Auto Score`, and `none` where the screen says 'No answer selected'. -/
def autoScore (catalogue : Catalogue) (question : AssessmentQuestion)
    (response : ParticipantResponse) : Option ℚ :=
  if PhpValue.isEmpty response.selectedAnswerIds then none
  else
    some
      ((selectedAnswers catalogue question response).map
        (shownScore catalogue)).sum

/-! ## One score for each answer -/

/-- Authoring gives an answer one score or none. -/
def SingleScores (catalogue : Catalogue) : Prop :=
  ∀ id, (catalogue.scoresOf id).length ≤ 1

theorem length_scoreRows_le
    (scoringMode : ScoringMode) (id : AnswerId)
    (data : AssessmentController.AnswerData) :
    (AssessmentController.scoreRows scoringMode id data).length ≤ 1 := by
  cases scoringMode with
  | percentile => exact le_rfl
  | categorical => exact Nat.zero_le 1

theorem singleScores_afterStore
    {catalogue : Catalogue} (foreignKeys : catalogue.ForeignKeys)
    (single : SingleScores catalogue)
    (request : AssessmentController.StoreRequest) :
    SingleScores (AssessmentController.afterStore catalogue request) := by
  rw [AssessmentController.afterStore]
  cases returns : AssessmentController.store catalogue request with
  | error error => exact single
  | ok after =>
      rcases AssessmentController.store_adds returns with
        ⟨rows, adds, stored⟩
      change SingleScores after
      intro id
      by_cases old : id ∈ catalogue.answers.map AssessmentAnswer.id
      · rw [(AssessmentController.sameBelow_of_grown adds.grown
          stored).scores id old]
        exact single id
      by_cases new :
          id ∈ rows.answers.map AssessmentController.AnswerRows.id
      · rcases List.mem_map.mp new with ⟨below, listed, rfl⟩
        rcases stored.exists_entry listed with ⟨_, entry, holds⟩
        rw [AssessmentController.scoresOf_new foreignKeys adds.grown
          stored listed, holds.answerScores]
        exact length_scoreRows_le _ _ _
      · have keys :=
          AssessmentController.foreignKeys_of_adds foreignKeys
            adds.grown stored adds
        have unlisted : id ∉ after.answers.map AssessmentAnswer.id := by
          rw [AssessmentController.answerIds_of_adds adds,
            List.mem_append]
          exact not_or.mpr ⟨old, new⟩
        rw [Catalogue.scoresOf,
          childrenOf_eq_nil keys.answerScores unlisted]
        exact Nat.zero_le 1

theorem singleScores_ofUsers (users : List UserId) :
    SingleScores (Catalogue.ofUsers users) :=
  fun _ => Nat.zero_le 1

theorem singleScores_authored
    (users : List UserId)
    (requests : List AssessmentController.StoreRequest) :
    SingleScores (AssessmentController.authored users requests) :=
  AssessmentController.authored_invariant SingleScores
    (singleScores_ofUsers users)
    (fun _ foreignKeys single request =>
      singleScores_afterStore foreignKeys single request)
    requests

theorem SingleScores.none_or_one
    {catalogue : Catalogue} (single : SingleScores catalogue)
    (id : AnswerId) :
    catalogue.scoresOf id = [] ∨
      ∃ score, catalogue.scoresOf id = [score] := by
  rcases Nat.le_one_iff_eq_zero_or_eq_one.mp (single id) with none | one
  · exact Or.inl (List.length_eq_zero_iff.mp none)
  · exact Or.inr (List.length_eq_one_iff.mp one)

/-! ## The sum on the screen and the sum of the service -/

theorem scoreValueOf_eq
    (catalogue : Catalogue) (id : AnswerId) :
    scoreValueOf catalogue id =
      ((catalogue.scoresOf id).getLast?.map
        AnswerScore.scoreValue).getD 0 := by
  rw [scoreValueOf, Catalogue.scoresOf, childrenOf]
  cases (catalogue.answerScores.filter fun score =>
    score.answerId = id).getLast? <;> rfl

theorem SingleScores.shownScore_eq
    {catalogue : Catalogue} (single : SingleScores catalogue)
    (answer : AssessmentAnswer) :
    shownScore catalogue answer = scoreValueOf catalogue answer.id := by
  rw [shownScore, score?, scoreValueOf_eq]
  rcases single.none_or_one answer.id with none | ⟨score, only⟩
  · rw [none]
    rfl
  · rw [only]
    rfl

theorem SingleScores.scoreValueOf_ne_zero_iff
    {catalogue : Catalogue} (single : SingleScores catalogue)
    (id : AnswerId) :
    scoreValueOf catalogue id ≠ 0 ↔
      ∃ score ∈ catalogue.scoresOf id, score.scoreValue ≠ 0 := by
  rw [scoreValueOf_eq]
  rcases single.none_or_one id with none | ⟨score, only⟩
  · simp [none]
  · simp [only]

theorem map_id_answersOf
    (catalogue : Catalogue) (question : AssessmentQuestion) :
    (catalogue.answersOf question.id).map AssessmentAnswer.id =
      answerIdsOf catalogue question.id :=
  rfl

theorem answerIdsOf_nodup
    (catalogue : Catalogue) (questionId : QuestionId) :
    (answerIdsOf catalogue questionId).Nodup :=
  catalogue.answerKeys.sublist (List.filter_sublist.map _)

/-- The sum on the screen, over the ids of the question's answers. -/
theorem SingleScores.autoScore_eq
    {catalogue : Catalogue} (single : SingleScores catalogue)
    (question : AssessmentQuestion) {response : ParticipantResponse}
    {ids : List AnswerId}
    (selected : response.selectedAnswerIds = .list ids) :
    autoScore catalogue question response =
      if ids = [] then none
      else
        some
          (((answerIdsOf catalogue question.id).filter fun id =>
            id ∈ ids).map (scoreValueOf catalogue)).sum := by
  have sums :
      (selectedAnswers catalogue question response).map
          (shownScore catalogue) =
        ((answerIdsOf catalogue question.id).filter fun id =>
          id ∈ ids).map (scoreValueOf catalogue) := by
    rw [selectedAnswers, selected, ← map_id_answersOf, List.filter_map,
      List.map_map]
    apply List.map_congr_left
    intro answer _
    exact single.shownScore_eq answer
  rw [autoScore, sums, selected, PhpValue.isEmpty_list]
  by_cases none : ids = []
  · rw [if_pos none, if_pos (decide_eq_true none)]
  · rw [if_neg none, if_neg fun isNone => none (of_decide_eq_true isNone)]

/-- The component `score` of `calculateMCQScore` for a list. -/
theorem calculateMCQScore_score
    (catalogue : Catalogue) (question : AssessmentQuestion)
    {response : ParticipantResponse} {ids : List AnswerId}
    (selected : response.selectedAnswerIds = .list ids) :
    (calculateMCQScore catalogue response question).map
        (Option.map Points.score) =
      .ok
        (if ids = [] then none
        else some (ids.map (scoreValueOf catalogue)).sum) := by
  rw [calculateMCQScore, selected, PhpValue.orEmptyList_list,
    PhpValue.isEmpty_list]
  by_cases none : ids = []
  · rw [if_pos none, if_pos (decide_eq_true none)]
    rfl
  · rw [if_neg none, if_neg fun isNone => none (of_decide_eq_true isNone)]
    rfl

/--
Each listed answer with a score other than 0 is one of the question's
answers and is listed once.
-/
def EachCountsOnce (catalogue : Catalogue)
    (question : AssessmentQuestion) (ids : List AnswerId) : Prop :=
  ∀ id ∈ ids,
    (∃ score ∈ catalogue.scoresOf id, score.scoreValue ≠ 0) →
      id ∈ answerIdsOf catalogue question.id ∧ ids.count id = 1

/--
For every authored catalogue, every question and every list of selected
answers: the screen shows what the service counts exactly when each answer
that scores is the question's own and is listed once.
-/
theorem auto_score_is_counted_iff
    (users : List UserId)
    (requests : List AssessmentController.StoreRequest)
    (question : AssessmentQuestion) (response : ParticipantResponse)
    (ids : List AnswerId)
    (selected : response.selectedAnswerIds = .list ids) :
    let catalogue := AssessmentController.authored users requests
    (calculateMCQScore catalogue response question).map
          (Option.map Points.score) =
        .ok (autoScore catalogue question response) ↔
      EachCountsOnce catalogue question ids := by
  intro catalogue
  have single : SingleScores catalogue :=
    singleScores_authored users requests
  rw [calculateMCQScore_score catalogue question selected,
    single.autoScore_eq question selected, Except.ok.injEq]
  by_cases none : ids = []
  · rw [if_pos none, if_pos none, none]
    exact ⟨fun _ => nofun, fun _ => rfl⟩
  · rw [if_neg none, if_neg none, Option.some.injEq,
      sum_selected_eq_iff (answerIdsOf_nodup catalogue question.id)
        (PercentileScores.scoreValueOf_nonneg catalogue)]
    constructor
    · intro counted id listed scores
      exact
        counted id listed ((single.scoreValueOf_ne_zero_iff id).mpr scores)
    · intro counted id listed scores
      exact
        counted id listed ((single.scoreValueOf_ne_zero_iff id).mp scores)

/-- A choice between an answer worth a point and one worth nothing. -/
def choicePayload : AssessmentController.StoreRequest :=
  { WholeAssessmentScores.writtenPayload with
    questions :=
      [{ questionType := .mcq, questionText := "Choose", order := 1
         maxScore := some 1
         answers :=
           [(.int 0,
              { answerText := "A", order := none, scoreValue := some 1
                categories := [], translations := [] }),
            (.int 1,
              { answerText := "B", order := none, scoreValue := none
                categories := [], translations := [] })]
         translations := [] }]
    questionCount := by decide
    requiredMaxScores := by decide }

/-- The question of `choicePayload`. -/
def choiceQuestion : AssessmentQuestion where
  id := 1
  assessmentId := 1
  questionType := .mcq
  questionText := "Choose"
  order := 1
  maxScore := some 1

/-- A response to `choiceQuestion` with a list of selected answers. -/
def choiceResponse (ids : List AnswerId) : ParticipantResponse :=
  { ParticipantResponse.blank (⟨1, 1⟩, 1) with
    selectedAnswerIdsColumn := castArraySet (.list ids) }

theorem selectedAnswerIds_choiceResponse (ids : List AnswerId) :
    (choiceResponse ids).selectedAnswerIds = .list ids :=
  castArrayGet_castArraySet (.list ids)

theorem auto_score_is_counted_iff_once :
    let catalogue := AssessmentController.authored [1] [choicePayload]
    (calculateMCQScore catalogue (choiceResponse [1, 2])
            choiceQuestion).map (Option.map Points.score) =
        .ok (autoScore catalogue choiceQuestion (choiceResponse [1, 2])) ↔
      EachCountsOnce catalogue choiceQuestion [1, 2] :=
  auto_score_is_counted_iff [1] [choicePayload] choiceQuestion
    (choiceResponse [1, 2]) [1, 2]
    (selectedAnswerIds_choiceResponse [1, 2])

/-- The answer worth a point is listed twice; the screen shows it once. -/
theorem repeated_choice_counts_twice :
    let catalogue := AssessmentController.authored [1] [choicePayload]
    choiceQuestion ∈ catalogue.questionsOf 1 ∧
      (choiceResponse [1, 1]).selectedAnswerIds = .list [1, 1] ∧
      autoScore catalogue choiceQuestion (choiceResponse [1, 1]) =
        some 1 ∧
      (calculateMCQScore catalogue (choiceResponse [1, 1])
            choiceQuestion).map (Option.map Points.score) =
        .ok (some 2) := by
  decide +kernel

end SultanPass.GradingController
