import SultanPass.Schema
import SultanPass.Library.Rounding
import SultanPass.Library.OrderedMap
import Mathlib.Algebra.BigOperators.Group.List.Basic
import Mathlib.Algebra.Order.BigOperators.Group.List

/-!
# `AssessmentScoreService`: computing scores and statuses

The two scoring modes, the status of a participant, and the write of both
into `assessment_participants`.

The loop bodies of both modes are given as functions of one response:
`percentileContribution` is what one response adds to the two percentile
totals, and `categoryRecords` are the weights that one response adds to the
category totals.  The loops fold them in the order of the responses.
-/

namespace SultanPass.AssessmentScoreService

open SultanPass.Library
open SultanPass.Library.Rounding

/-! ## Percentile mode -/

/-- The pair `['score' => …, 'max' => …]`. -/
structure Points where
  score : ℚ
  max : ℚ
deriving DecidableEq, Repr

/-- The score of an answer id; the last of several rows wins in `pluck`. -/
def scoreValueOf (catalogue : Catalogue) (answerId : AnswerId) : ℚ :=
  match
    (catalogue.answerScores.filter fun score =>
      score.answerId = answerId).getLast? with
  | some score => score.scoreValue
  | none => 0

/-- The answer ids of a question, `pluck('id')`. -/
def answerIdsOf (catalogue : Catalogue) (questionId : QuestionId) :
    List AnswerId :=
  (catalogue.answers.filter fun answer =>
    answer.questionId = questionId).map AssessmentAnswer.id

/-- The largest score value among a question's answers, 0 without any. -/
def largestScoreValue (catalogue : Catalogue) (questionId : QuestionId) :
    ℚ :=
  (((catalogue.answerScores.filter fun score =>
      score.answerId ∈ answerIdsOf catalogue questionId).map
    AnswerScore.scoreValue).max?).getD 0

/-- The maximum that `calculateMCQScore` returns for a question. -/
def mcqMaxScore (catalogue : Catalogue) (question : AssessmentQuestion) :
    ℚ :=
  let ownMaxScore := question.maxScore.getD 0
  let maxScore :=
    if ownMaxScore = 0 then largestScoreValue catalogue question.id
    else ownMaxScore
  if 0 < maxScore then maxScore else 1

/-- `calculateMCQScore`. -/
def calculateMCQScore (catalogue : Catalogue)
    (response : ParticipantResponse) (question : AssessmentQuestion) :
    Except PhpError (Option Points) :=
  let selectedAnswerIds :=
    PhpValue.orEmptyList response.selectedAnswerIds
  if PhpValue.isEmpty selectedAnswerIds then
    .ok none
  else do
    let answerIds ← PhpValue.whereInValues selectedAnswerIds
    .ok (some
      { score := (answerIds.map (scoreValueOf catalogue)).sum
        max := mcqMaxScore catalogue question })

/-- What the loop body adds to both totals, `none` when it adds nothing. -/
def percentileContribution (catalogue : Catalogue)
    (response : ParticipantResponse) :
    Except PhpError (Option Points) :=
  match catalogue.question? response.questionId with
  | none => .ok none
  | some question =>
      match question.questionType with
      | .written =>
          .ok (response.gradedScore.map fun gradedScore =>
            { score := gradedScore
              max := question.maxScore.getD 0 })
      | .mcq => calculateMCQScore catalogue response question

/-- The accumulators of `calculatePercentileScore`. -/
structure PercentileTotals where
  totalScore : ℚ := 0
  maxPossibleScore : ℚ := 0
  hasGradedResponses : Bool := false
deriving DecidableEq, Repr

def PercentileTotals.add (totals : PercentileTotals) :
    Option Points → PercentileTotals
  | none => totals
  | some points =>
      { totalScore := totals.totalScore + points.score
        maxPossibleScore := totals.maxPossibleScore + points.max
        hasGradedResponses := true }

/-- The loop of `calculatePercentileScore`. -/
def percentileTotals (catalogue : Catalogue)
    (responses : List ParticipantResponse) :
    Except PhpError PercentileTotals :=
  responses.foldlM
    (fun totals response => do
      let contribution ← percentileContribution catalogue response
      .ok (totals.add contribution))
    {}

/-- The last lines of `calculatePercentileScore`. -/
def percentileResult (totals : PercentileTotals) : Option ℚ :=
  if !totals.hasGradedResponses || totals.maxPossibleScore = 0 then none
  else
    let percentage := totals.totalScore / totals.maxPossibleScore * 100
    some (min 100 (max 0 (roundHalfAway 2 percentage)))

/-- `calculatePercentileScore`. -/
def calculatePercentileScore (catalogue : Catalogue)
    (responses : List ParticipantResponse) :
    Except PhpError (Option ℚ) := do
  let totals ← percentileTotals catalogue responses
  .ok (percentileResult totals)

/-! ## Categorical mode -/

/-- `(float) $weight`, where a missing weight counts as 0. -/
def gradedRecords (categories : Option GradedCategories) :
    List (CategoryId × ℚ) :=
  (categories.getD []).map fun entry => (entry.1, entry.2.getD 0)

/-- The rows `acw.category_id, acw.weight` of the given answers. -/
def weightsOf (catalogue : Catalogue) (answerIds : List AnswerId) :
    List (CategoryId × ℚ) :=
  (catalogue.answerCategoryWeights.filter fun weight =>
    weight.answerId ∈ answerIds).map fun weight =>
      (weight.categoryId, weight.weight)

/-- The weights that the loop body adds to the category totals. -/
def categoryRecords (catalogue : Catalogue)
    (response : ParticipantResponse) :
    Except PhpError (List (CategoryId × ℚ)) :=
  match catalogue.question? response.questionId with
  | none => .ok []
  | some question =>
      match question.questionType with
      | .written => .ok (gradedRecords response.gradedCategories)
      | .mcq =>
          let selectedAnswerIds :=
            PhpValue.orEmptyList response.selectedAnswerIds
          if PhpValue.isEmpty selectedAnswerIds then
            .ok []
          else do
            let answerIds ← PhpValue.whereInValues selectedAnswerIds
            .ok (weightsOf catalogue answerIds)

/-- One entry of `$categoryTotals` and of `$categoryMaxWeights`. -/
structure CategoryTotal where
  total : ℚ := 0
  maxWeight : ℚ := 0
deriving DecidableEq, Repr

/-- Each weight counts against an assumed maximum of 3.0. -/
def CategoryTotal.add (entry : CategoryTotal) (weight : ℚ) :
    CategoryTotal where
  total := entry.total + weight
  maxWeight := entry.maxWeight + 3

/-- The loop of `calculateCategoricalScore`. -/
def categoryTotals (catalogue : Catalogue)
    (responses : List ParticipantResponse) :
    Except PhpError (List (CategoryId × CategoryTotal)) :=
  responses.foldlM
    (fun totals response => do
      let records ← categoryRecords catalogue response
      .ok (records.foldl
        (fun entries record =>
          OrderedMap.adjust record.1 {} (fun entry =>
            entry.add record.2) entries)
        totals))
    []

/-- The percentage that one category contributes to the average. -/
def categoryScore (entry : CategoryTotal) : ℚ :=
  let avgScore := entry.total / entry.maxWeight
  min 100 (max 0 (avgScore / 3 * 100))

/-- The average over the categories, before its rounding. -/
def averageCategoryScore (totals : List (CategoryId × CategoryTotal)) :
    Option ℚ :=
  if totals = [] then none
  else
    let categoryScores :=
      (totals.filter fun entry => 0 < entry.2.maxWeight).map
        fun entry => categoryScore entry.2
    if categoryScores = [] then none
    else some (categoryScores.sum / categoryScores.length)

/-- `calculateCategoricalScore` before its rounding. -/
def unroundedCategoricalScore (catalogue : Catalogue)
    (responses : List ParticipantResponse) :
    Except PhpError (Option ℚ) := do
  let totals ← categoryTotals catalogue responses
  .ok (averageCategoryScore totals)

/-- `calculateCategoricalScore`. -/
def calculateCategoricalScore (catalogue : Catalogue)
    (responses : List ParticipantResponse) :
    Except PhpError (Option ℚ) := do
  let average ← unroundedCategoricalScore catalogue responses
  .ok (average.map (roundHalfAway 2))

/-! ## Score and status of a participant -/

/-- `calculateScore` on the responses that it has read. -/
def scoreOf (catalogue : Catalogue) (assessment : Assessment)
    (responses : List ParticipantResponse) :
    Except PhpError (Option ℚ) :=
  if responses = [] then .ok none
  else
    match assessment.scoringMode with
    | .percentile => calculatePercentileScore catalogue responses
    | .categorical => calculateCategoricalScore catalogue responses

/-- Whether a response answers a written question. -/
def isWritten (catalogue : Catalogue) (response : ParticipantResponse) :
    Bool :=
  match catalogue.question? response.questionId with
  | some question => question.questionType = .written
  | none => false

/-- `determineStatus` on the responses that it has read. -/
def statusOf (catalogue : Catalogue) (assessment : Assessment)
    (responses : List ParticipantResponse) : ParticipationStatus :=
  if responses = [] then .notStarted
  else if
      (catalogue.questionsOf assessment.id).length ≤ responses.length then
    let writtenResponses := responses.filter (isWritten catalogue)
    if writtenResponses = [] then .completed
    else if
        writtenResponses.all fun response =>
          response.gradedAt ≠ none then
      .completed
    else .inProgress
  else .inProgress

/-- `calculateScore`. -/
def calculateScore (catalogue : Catalogue) (database : Database)
    (assessment : Assessment) (participant : UserId) :
    Except PhpError (Option ℚ) :=
  scoreOf catalogue assessment
    (database.responsesOf ⟨assessment.id, participant⟩)

/-- `determineStatus`. -/
def determineStatus (catalogue : Catalogue) (database : Database)
    (assessment : Assessment) (participant : UserId) :
    ParticipationStatus :=
  statusOf catalogue assessment
    (database.responsesOf ⟨assessment.id, participant⟩)

/-- `DB::table('assessment_participants')->updateOrInsert(…)`. -/
def updateOrInsert (pair : Pair) (columns : ParticipationColumns) :
    DatabaseProgram Unit := do
  let found ← Program.query fun database : Database =>
    (database.participation? pair).isSome
  if found then
    Program.execute (.updateParticipant pair columns)
  else
    Program.execute (.insertParticipant pair columns)

/-- `calculateAndUpdateScore`. -/
def calculateAndUpdateScore (catalogue : Catalogue) (now : Timestamp)
    (assessment : Assessment) (participant : UserId) :
    DatabaseProgram (Option ℚ) := do
  let computed ← Program.query fun database : Database =>
    calculateScore catalogue database assessment participant
  let score ← Program.ofExcept computed
  match score with
  | none => pure none
  | some score => do
      let status ← Program.query fun database : Database =>
        determineStatus catalogue database assessment participant
      updateOrInsert ⟨assessment.id, participant⟩
        { score := some score, status := status, updatedAt := now }
      pure (some score)

end SultanPass.AssessmentScoreService

/-! ## `ParticipantResponseObserver` -/

namespace SultanPass.ParticipantResponseObserver

open SultanPass.Library

/-- `shouldCalculateScore`. -/
def shouldCalculateScore (response : ParticipantResponse) : Bool :=
  !PhpValue.isEmpty response.selectedAnswerIds ||
    response.gradedAt.isSome

/-- The handler of the `saved` event. -/
def saved (catalogue : Catalogue) (now : Timestamp)
    (response : ParticipantResponse) : DatabaseProgram Unit :=
  if shouldCalculateScore response then
    match catalogue.assessment? response.assessmentId with
    | none => pure ()
    | some assessment =>
        if response.participantId ∈ catalogue.users then do
          let _ ←
            AssessmentScoreService.calculateAndUpdateScore catalogue now
              assessment response.participantId
          pure ()
        else
          pure ()
  else
    pure ()

end SultanPass.ParticipantResponseObserver
