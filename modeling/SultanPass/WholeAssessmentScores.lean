import SultanPass.AuthoredRows
import SultanPass.PercentileScores
import SultanPass.ScoreSynchrony

/-!
# Percentile scores and the whole assessment

An assessment stores the sum of the maxima of all its questions, but its
scores are relative to another maximum: the questions that the participant
has answered, and in the case of texts has had graded.  A question left out
counts in neither total.

`score_of_authored_run` gives the score of every participant in every run
over the questions of the assessment, with the case in which the two maxima
agree.
-/

namespace SultanPass.WholeAssessmentScores

open SultanPass.Library
open SultanPass.Library.Rounding
open SultanPass.AssessmentScoreService
open SultanPass.AssessmentController
open SultanPass.PercentileScores

/-! ## The responses of a run -/

/-- Every response answers a question of its own assessment. -/
def OwnQuestions (catalogue : Catalogue) (database : Database) : Prop :=
  ∀ key response,
    database.response? key = some response →
      ∃ question,
        catalogue.question? key.2 = some question ∧
          question.assessmentId = key.1.assessmentId

/-- What holds of the responses in every run. -/
structure WellFormed (catalogue : Catalogue) (database : Database) :
    Prop where
  recorded : AllRecorded database
  ownQuestions : OwnQuestions catalogue database

theorem wellFormed_empty (catalogue : Catalogue) :
    WellFormed catalogue Database.empty where
  recorded := nofun
  ownQuestions := nofun

theorem WellFormed.of_sameResponses
    {catalogue : Catalogue} {before after : Database}
    (wellFormed : WellFormed catalogue before)
    (same : after.participantResponses = before.participantResponses) :
    WellFormed catalogue after where
  recorded := wellFormed.recorded.of_sameResponses same
  ownQuestions := by
    intro key response found
    rw [Database.response?, same] at found
    exact wellFormed.ownQuestions key response found

theorem WellFormed.answered
    {catalogue : Catalogue} {database : Database}
    (wellFormed : WellFormed catalogue database)
    {request : SurveyController.StoreResponseRequest}
    {assessment : Assessment} {question : AssessmentQuestion}
    (resolved :
      SurveyController.Resolved catalogue request assessment question) :
    WellFormed catalogue
      (SurveyController.answered .idList question request
        database) where
  recorded := allRecorded_answered wellFormed.recorded question request
  ownQuestions := by
    intro key response found
    by_cases own : key = request.key
    · rw [own]
      exact ⟨question, resolved.questionFound, resolved.questionBelongs⟩
    · rw [SurveyController.answered,
        Database.response?_saveAnswer_of_ne _ _ own] at found
      exact wellFormed.ownQuestions key response found

theorem WellFormed.saveGrade
    {catalogue : Catalogue} {database : Database}
    (wellFormed : WellFormed catalogue database)
    (key : ResponseKey) (columns : GradeColumns) :
    WellFormed catalogue (database.saveGrade key columns) where
  recorded := allRecorded_saveGrade wellFormed.recorded key columns
  ownQuestions := by
    intro other response found
    by_cases own : other = key
    · subst own
      rw [Database.response?_saveGrade_self,
        Option.map_eq_some_iff] at found
      rcases found with ⟨old, oldFound, _⟩
      exact wellFormed.ownQuestions other old oldFound
    · rw [Database.response?_saveGrade_of_ne _ _ own] at found
      exact wellFormed.ownQuestions other response found

theorem WellFormed.storeStatements
    {catalogue : Catalogue} {database : Database}
    (wellFormed : WellFormed catalogue database)
    (assessment : Assessment)
    (request : GradingController.StoreRequest) :
    WellFormed catalogue
      (Program.performAll
        (GradingController.storeStatements catalogue assessment request
          database)
        database) := by
  have entryKeeps :
      ∀ entry reached, WellFormed catalogue reached →
        WellFormed catalogue
          (Program.performAll
            (GradingController.gradeStatements catalogue assessment
              request entry reached)
            reached) := by
    intro entry reached before
    rcases GradingController.gradeStatements_cases catalogue assessment
        request entry reached with none | ⟨response, _, _, equal⟩
    · rw [none]
      exact before
    · rw [equal]
      exact
        (before.saveGrade _ _).of_sameResponses
          (participantResponses_rescore _ _ _ _ _)
  rw [GradingController.storeStatements, Program.performAll_append]
  exact
    (Program.loopStatements_invariant (WellFormed catalogue) _
      request.responses (fun entry _ => entryKeeps entry) database
      wellFormed).1.of_sameResponses
        (participantResponses_rescore _ _ _ _ _)

theorem WellFormed.apply
    {catalogue : Catalogue} {database : Database}
    (wellFormed : WellFormed catalogue database)
    (assignment : SelectionAssignment) (operation : Operation) :
    WellFormed catalogue
      (operation.apply catalogue assignment database) := by
  rcases AnswerRoundTrip.apply_eq_or catalogue assignment operation
      database with unchanged | same
  · rw [unchanged]
    exact wellFormed
  rw [same]
  cases operation with
  | recalculate options =>
      exact
        wellFormed.of_sameResponses
          (RecalculateAssessmentScores.participantResponses_recalculate
            _ _ _ _)
  | storeResponse request =>
      rw [Operation.apply_eq_performAll, Operation.committed]
      rcases SurveyController.committed_storeResponse catalogue .idList
          request database with
        ⟨error, _, none⟩ |
          ⟨assessment, question, resolved, _, _, equal⟩
      · rw [none]
        exact wellFormed
      · rw [equal]
        exact
          (wellFormed.answered resolved).of_sameResponses
            (SurveyController.participantResponses_storeResponse _ _ _
              _ _ _)
  | grade request =>
      rw [Operation.apply_eq_performAll, Operation.committed]
      rcases GradingController.committed_store catalogue request
          database with
        ⟨error, _, none⟩ | ⟨assessment, _, equal⟩
      · rw [none]
        exact wellFormed
      · rw [equal]
        exact wellFormed.storeStatements assessment request

theorem wellFormed_run
    (catalogue : Catalogue) (assignment : SelectionAssignment)
    (operations : List Operation) :
    WellFormed catalogue
      (Operation.run catalogue assignment operations
        Database.empty) := by
  rw [Operation.run]
  apply List.foldlRecOn operations
  · exact wellFormed_empty catalogue
  · intro database wellFormed operation _
    exact wellFormed.apply assignment operation

/-! ## Sums over questions -/

/-- What the participant's response to a question counts, if it counts. -/
def pointsAt (catalogue : Catalogue) (database : Database) (pair : Pair)
    (question : AssessmentQuestion) : Option Points :=
  (database.response? (pair, question.id)).bind (pointsOf catalogue)

/-- The points earned in the whole assessment. -/
def totalEarned (catalogue : Catalogue) (database : Database)
    (pair : Pair) : ℚ :=
  ((catalogue.questionsOf pair.assessmentId).map fun question =>
    ((pointsAt catalogue database pair question).map
      Points.score).getD 0).sum

/-- The maxima of the questions that count. -/
def countedMaximum (catalogue : Catalogue) (database : Database)
    (pair : Pair) : ℚ :=
  ((catalogue.questionsOf pair.assessmentId).map fun question =>
    ((pointsAt catalogue database pair question).map
      Points.max).getD 0).sum

theorem response?_eq_find?
    (database : Database) (pair : Pair) (questionId : QuestionId) :
    database.response? (pair, questionId) =
      (database.responsesOf pair).find? fun response =>
        response.questionId = questionId := by
  rw [Database.responsesOf, List.find?_filter, Database.response?,
    KeyedTable.find?]
  congr 1
  funext response
  simp [ParticipantResponse.key, Prod.ext_iff]

/-- A participant has one response for each question. -/
theorem questionIds_nodup (database : Database) (pair : Pair) :
    ((database.responsesOf pair).map
      ParticipantResponse.questionId).Nodup := by
  have keys :
      ((database.responsesOf pair).map
        ParticipantResponse.key).Nodup :=
    database.participantResponses.distinct.sublist
      (List.filter_sublist.map _)
  have paired :
      (database.responsesOf pair).map ParticipantResponse.key =
        ((database.responsesOf pair).map
          ParticipantResponse.questionId).map (Prod.mk pair) := by
    rw [List.map_map]
    apply List.map_congr_left
    intro response member
    have own := ((Database.mem_responsesOf_iff _ _ _).mp member).2
    exact Prod.ext own rfl
  rw [paired] at keys
  exact keys.of_map _

theorem questionsOf_ids_nodup
    (catalogue : Catalogue) (id : AssessmentId) :
    ((catalogue.questionsOf id).map AssessmentQuestion.id).Nodup :=
  catalogue.questionKeys.sublist (List.filter_sublist.map _)

/-- The responses of a pair answer the questions of its assessment. -/
theorem WellFormed.questionId_mem
    {catalogue : Catalogue} {database : Database}
    (wellFormed : WellFormed catalogue database) (pair : Pair) :
    ∀ response ∈ database.responsesOf pair,
      response.questionId ∈
        (catalogue.questionsOf pair.assessmentId).map
          AssessmentQuestion.id := by
  intro response member
  rcases (Database.mem_responsesOf_iff _ _ _).mp member with
    ⟨listed, own⟩
  rcases wellFormed.ownQuestions response.key response
      ((Database.response?_eq_some_iff _ _ _).mpr ⟨listed, rfl⟩) with
    ⟨question, found, belongs⟩
  rcases (catalogue.question?_eq_some_iff _ _).mp found with
    ⟨questionListed, hasId⟩
  apply List.mem_map.mpr
  refine ⟨question, List.mem_filter.mpr ⟨questionListed, ?_⟩, hasId⟩
  rw [decide_eq_true_eq, belongs, ← own]
  rfl

theorem sum_filterMap
    {Entry : Type} (count : Entry → Option Points)
    (part : Points → ℚ) (entries : List Entry) :
    ((entries.filterMap count).map part).sum =
      (entries.map fun entry =>
        ((count entry).map part).getD 0).sum := by
  induction entries with
  | nil => rfl
  | cons entry rest induction =>
      cases counted : count entry with
      | none => simpa [counted] using induction
      | some points => simpa [counted] using induction

/-- A total over the responses is a total over the questions. -/
theorem sum_over_questions
    {catalogue : Catalogue} {database : Database}
    (wellFormed : WellFormed catalogue database) (pair : Pair)
    (part : Points → ℚ) :
    ((allPoints catalogue (database.responsesOf pair)).map part).sum =
      ((catalogue.questionsOf pair.assessmentId).map fun question =>
        ((pointsAt catalogue database pair question).map
          part).getD 0).sum := by
  rw [allPoints, sum_filterMap,
    ← sum_map_find? ParticipantResponse.questionId
      (database.responsesOf pair) (questionIds_nodup database pair)
      (questionsOf_ids_nodup catalogue pair.assessmentId)
      (wellFormed.questionId_mem pair),
    List.map_map]
  congr 1
  apply List.map_congr_left
  intro question _
  rw [Function.comp_apply, ← response?_eq_find?, pointsAt]
  cases database.response? (pair, question.id) <;> rfl

/-! ## Scores of authored assessments -/

/-- A percentage of a maximum, rounded and kept in `[0, 100]`. -/
def percentageOf (earned maximum : ℚ) : ℚ :=
  min 100 (max 0 (roundHalfAway 2 (earned / maximum * 100)))

/-- The response to the question counts with the question's own maximum. -/
def CountsInFull (catalogue : Catalogue) (database : Database)
    (pair : Pair) (question : AssessmentQuestion) : Prop :=
  ∃ points,
    pointsAt catalogue database pair question = some points ∧
      (question.questionType = .mcq → question.maxScore.getD 0 ≠ 0)

theorem max_of_countsInFull
    {catalogue : Catalogue} {database : Database} {pair : Pair}
    {question : AssessmentQuestion}
    (listed : question ∈ catalogue.questions)
    (counts : CountsInFull catalogue database pair question) :
    ((pointsAt catalogue database pair question).map
        Points.max).getD 0 =
      question.maxScore.getD 0 := by
  rcases counts with ⟨points, counted, ownMaximum⟩
  rw [counted]
  rcases Option.bind_eq_some_iff.mp counted with
    ⟨response, responseFound, isCounted⟩
  have sameQuestion : response.questionId = question.id :=
    congrArg Prod.snd
      ((Database.response?_eq_some_iff _ _ _).mp responseFound).2
  have found :
      catalogue.question? response.questionId = some question :=
    (catalogue.question?_eq_some_iff _ _).mpr
      ⟨listed, sameQuestion.symm⟩
  cases kind : question.questionType with
  | written =>
      rw [pointsOf_of_written found kind,
        Option.map_eq_some_iff] at isCounted
      rcases isCounted with ⟨gradedScore, _, rfl⟩
      rfl
  | mcq =>
      rw [pointsOf_of_mcq found kind] at isCounted
      split_ifs at isCounted
      cases isCounted
      have nonneg : 0 ≤ question.maxScore.getD 0 := by
        cases maximum : question.maxScore with
        | none => exact le_rfl
        | some value =>
            exact
              catalogue.maxScoresNonneg question listed value maximum
      have positive : 0 < question.maxScore.getD 0 :=
        lt_of_le_of_ne nonneg (Ne.symm (ownMaximum kind))
      change mcqMaxScore catalogue question = _
      simp only [mcqMaxScore]
      rw [if_neg (ownMaximum kind), if_pos positive]

/--
In every run over an authored catalogue, a percentile score is the
percentage of the points earned in the whole assessment, relative to the
maxima of the questions that count, and null when these are 0.  The two
maxima agree when every question counts in full.
-/
theorem score_of_authored_run
    (users : List UserId) (requests : List StoreRequest)
    (assignment : SelectionAssignment) (operations : List Operation)
    (assessment : Assessment)
    (listed : assessment ∈ (authored users requests).assessments)
    (mode : assessment.scoringMode = .percentile)
    (participant : UserId) :
    let catalogue := authored users requests
    let database :=
      Operation.run catalogue assignment operations Database.empty
    let pair : Pair := ⟨assessment.id, participant⟩
    assessment.maxTotalScore =
        some (summedMaxScores catalogue assessment.id) ∧
      calculateScore catalogue database assessment participant =
        .ok
          (if countedMaximum catalogue database pair = 0 then none
          else
            some
              (percentageOf (totalEarned catalogue database pair)
                (countedMaximum catalogue database pair))) ∧
      ((∀ question ∈ catalogue.questionsOf assessment.id,
          CountsInFull catalogue database pair question) →
        countedMaximum catalogue database pair =
          summedMaxScores catalogue assessment.id) := by
  intro catalogue database pair
  have wellFormed : WellFormed catalogue database :=
    wellFormed_run catalogue assignment operations
  have earned :
      earnedPoints catalogue (database.responsesOf pair) =
        totalEarned catalogue database pair :=
    sum_over_questions wellFormed pair Points.score
  have counted :
      possiblePoints catalogue (database.responsesOf pair) =
        countedMaximum catalogue database pair :=
    sum_over_questions wellFormed pair Points.max
  refine
    ⟨(totalled_authored users requests).totals assessment listed mode,
      ?_, ?_⟩
  · rw [calculateScore, scoreOf]
    split_ifs with none noMaximum noMaximum
    · rfl
    · rw [none] at counted
      exact (noMaximum counted.symm).elim
    · rw [mode]
      dsimp only
      rw [calculatePercentileScore_eq _ _ fun _ member =>
        (wellFormed.recorded.of_mem member).idList, counted,
        if_pos noMaximum]
    · rw [mode]
      dsimp only
      rw [calculatePercentileScore_eq _ _ fun _ member =>
        (wellFormed.recorded.of_mem member).idList, counted,
        if_neg noMaximum, percentage, earned, counted]
      rfl
  · intro inFull
    rw [countedMaximum, summedMaxScores]
    congr 1
    apply List.map_congr_left
    intro question member
    exact
      max_of_countsInFull (List.mem_filter.mp member).1
        (inFull question member)

/-- A percentile assessment with two written questions worth 10 each. -/
def writtenPayload : StoreRequest where
  type := .writtenTest
  scoringMode := .percentile
  status := .active
  startDate := none
  endDate := none
  translations :=
    [{ languageId := 1, title := "Essay", description := none }]
  categories := []
  questions :=
    [{ questionType := .written, questionText := "Explain", order := 1
       maxScore := some 10, answers := [], translations := [] },
      { questionType := .written, questionText := "Compare", order := 2
        maxScore := some 10, answers := [], translations := [] }]
  dates := nofun
  titleCount := by decide
  requiredTitles := by decide +kernel
  categoryKeys := List.nodup_nil
  categoryCount := nofun
  questionCount := by decide
  requiredMaxScores := by decide

/-- The assessment of `writtenPayload`. -/
def writtenAssessment : Assessment where
  id := 1
  type := .writtenTest
  scoringMode := .percentile
  maxTotalScore := some 20
  status := .active
  startDate := none
  endDate := none

/-- One question is answered and submitted, and graded with full marks. -/
def halfAnswered : List Operation :=
  [.storeResponse (sampleText 1 "a" .submit),
    .grade (sampleGrades [(1, some 10)])]

theorem score_of_authored_run_halfAnswered :
    let catalogue := authored [1, 2] [writtenPayload]
    let database :=
      Operation.run catalogue .jsonEncoded halfAnswered Database.empty
    let pair : Pair := ⟨1, 1⟩
    writtenAssessment.maxTotalScore =
        some (summedMaxScores catalogue 1) ∧
      calculateScore catalogue database writtenAssessment 1 =
        .ok
          (if countedMaximum catalogue database pair = 0 then none
          else
            some
              (percentageOf (totalEarned catalogue database pair)
                (countedMaximum catalogue database pair))) ∧
      ((∀ question ∈ catalogue.questionsOf 1,
          CountsInFull catalogue database pair question) →
        countedMaximum catalogue database pair =
          summedMaxScores catalogue 1) :=
  score_of_authored_run [1, 2] [writtenPayload] .jsonEncoded
    halfAnswered writtenAssessment (by decide +kernel) rfl 1

/-- Half of the assessment scores 100, and not 50. -/
theorem unanswered_question_is_left_out :
    let catalogue := authored [1, 2] [writtenPayload]
    let database :=
      Operation.run catalogue .jsonEncoded halfAnswered Database.empty
    writtenAssessment ∈ catalogue.assessments ∧
      (∀ response ∈ database.responsesOf ⟨1, 1⟩,
        response.gradedScore = some 10) ∧
      totalEarned catalogue database ⟨1, 1⟩ = 10 ∧
      calculateScore catalogue database writtenAssessment 1 =
        .ok (some 100) ∧
      percentageOf 10 20 = 50 := by
  decide +kernel

end SultanPass.WholeAssessmentScores
