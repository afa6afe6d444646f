import SultanPass.GradingScreens
import SultanPass.StatusOrder
import SultanPass.TakeScreen

/-!
# Progress and completion

The bar of the test counts the responses with a selection or a text, while
`determineStatus` counts the responses as such.  Every click on a navigation
button saves a response, with or without content, so a participant who only
visits the questions of a choice test has completed it with a bar at 0.

The bar itself is exact at its ends: responses are unique and belong to
their assessment, so it counts questions, and with at most 100 questions no
rounding reaches 100 early (`progress_is_exact`).
-/

namespace SultanPass.SurveyController

open SultanPass.Library
open SultanPass.Library.Rounding
open SultanPass.AssessmentController
open SultanPass.AssessmentScoreService
open SultanPass.WholeAssessmentScores

/-! ## The rounded share -/

theorem progressOf_eq_natCast
    {answered total : ℕ} (atMost : answered ≤ total) :
    ∃ percent : ℕ, progressOf answered total = percent ∧
      percent ≤ 100 := by
  rw [progressOf]
  split_ifs with positive
  · have totalPositive : (0 : ℚ) < total := Nat.cast_pos.mpr positive
    have share : (answered : ℚ) / total ≤ 1 :=
      (div_le_one totalPositive).mpr (Nat.cast_le.mpr atMost)
    have nonneg : (0 : ℚ) ≤ answered / total * 100 := by positivity
    have rounded :
        roundHalfAway 0 ((answered : ℚ) / total * 100) ≤ (100 : ℕ) := by
      apply roundHalfAway_le_natCast
      push_cast
      linarith
    have steps : 0 ≤ gridSteps 0 ((answered : ℚ) / total * 100) := by
      rw [gridSteps, if_pos nonneg]
      exact Int.floor_nonneg.mpr (by positivity)
    rw [roundHalfAway_eq_gridSteps, pow_zero, div_one] at rounded ⊢
    obtain ⟨percent, isPercent⟩ := Int.eq_ofNat_of_zero_le steps
    rw [isPercent] at rounded ⊢
    exact ⟨percent, rfl, by exact_mod_cast rounded⟩
  · exact ⟨0, rfl, Nat.zero_le 100⟩

/-- With at most 100 questions, the bar is full when all are answered. -/
theorem progressOf_eq_hundred_iff
    {answered total : ℕ} (atMost : answered ≤ total)
    (positive : 0 < total) (few : total ≤ 100) :
    progressOf answered total = 100 ↔ answered = total := by
  have totalPositive : (0 : ℚ) < total := Nat.cast_pos.mpr positive
  have nonneg : (0 : ℚ) ≤ answered / total * 100 := by positivity
  rw [progressOf, if_pos positive]
  constructor
  · intro full
    have near :=
      (natCast_le_roundHalfAway_iff 0 100 nonneg).mp
        (by rw [full]; norm_num)
    have product : 199 * (total : ℚ) ≤ 200 * answered := by
      rw [pow_zero, div_mul_eq_mul_div, le_div_iff₀ totalPositive]
        at near
      push_cast at near
      linarith
    have counts : 199 * total ≤ 200 * answered := by
      exact_mod_cast product
    omega
  · rintro rfl
    rw [div_self totalPositive.ne', one_mul]
    exact roundHalfAway_natCast 0 100

/-! ## Counting questions -/

/-- Every question of the pair's assessment has a selection or a text. -/
def AllAnswered (catalogue : Catalogue) (database : Database)
    (pair : Pair) : Prop :=
  ∀ question ∈ catalogue.questionsOf pair.assessmentId,
    ∃ response,
      database.response? (pair, question.id) = some response ∧
        hasContent response = true

/-- The questions that a pair has answered. -/
def answeredIds (database : Database) (pair : Pair) :
    List QuestionId :=
  ((database.responsesOf pair).filter hasContent).map
    ParticipantResponse.questionId

theorem answeredIds_nodup (database : Database) (pair : Pair) :
    (answeredIds database pair).Nodup :=
  (questionIds_nodup database pair).sublist
    (List.filter_sublist.map _)

theorem mem_answeredIds_iff
    (database : Database) (pair : Pair) (questionId : QuestionId) :
    questionId ∈ answeredIds database pair ↔
      ∃ response,
        database.response? (pair, questionId) = some response ∧
          hasContent response = true := by
  rw [answeredIds]
  constructor
  · intro member
    rcases List.mem_map.mp member with ⟨response, kept, rfl⟩
    rcases List.mem_filter.mp kept with ⟨listed, content⟩
    rcases (Database.mem_responsesOf_iff _ _ _).mp listed with
      ⟨inTable, own⟩
    refine ⟨response, ?_, content⟩
    apply (Database.response?_eq_some_iff _ _ _).mpr
    exact ⟨inTable, Prod.ext own rfl⟩
  · rintro ⟨response, found, content⟩
    rcases (Database.response?_eq_some_iff _ _ _).mp found with
      ⟨inTable, hasKey⟩
    apply List.mem_map.mpr
    refine
      ⟨response, List.mem_filter.mpr ⟨?_, content⟩,
        congrArg Prod.snd hasKey⟩
    exact
      (Database.mem_responsesOf_iff _ _ _).mpr
        ⟨inTable, congrArg Prod.fst hasKey⟩

section Counting

variable {catalogue : Catalogue} {database : Database}
  (wellFormed : WellFormed catalogue database) (pair : Pair)
include wellFormed

theorem answeredIds_subset :
    answeredIds database pair ⊆
      (catalogue.questionsOf pair.assessmentId).map
        AssessmentQuestion.id := by
  intro questionId member
  rcases List.mem_map.mp member with ⟨response, kept, rfl⟩
  exact
    wellFormed.questionId_mem pair response (List.mem_filter.mp kept).1

theorem answeredCount_le :
    answeredCount database pair ≤
      (catalogue.questionsOf pair.assessmentId).length := by
  have shorter :=
    ((answeredIds_nodup database pair).subperm
      (answeredIds_subset wellFormed pair)).length_le
  rwa [answeredIds, List.length_map, List.length_map] at shorter

theorem answeredCount_eq_iff :
    answeredCount database pair =
        (catalogue.questionsOf pair.assessmentId).length ↔
      AllAnswered catalogue database pair := by
  have sameCount :
      answeredCount database pair =
          (catalogue.questionsOf pair.assessmentId).length ↔
        (answeredIds database pair).length =
          ((catalogue.questionsOf pair.assessmentId).map
            AssessmentQuestion.id).length := by
    rw [answeredIds, List.length_map, List.length_map, answeredCount]
  have included :=
    (answeredIds_nodup database pair).subperm
      (answeredIds_subset wellFormed pair)
  rw [sameCount]
  constructor
  · intro equal question listed
    apply (mem_answeredIds_iff _ _ _).mp
    exact
      (included.perm_of_length_le equal.ge).mem_iff.mpr
        (List.mem_map_of_mem listed)
  · intro all
    have covered :
        (catalogue.questionsOf pair.assessmentId).map
            AssessmentQuestion.id ⊆
          answeredIds database pair := by
      intro questionId member
      rcases List.mem_map.mp member with ⟨question, listed, rfl⟩
      exact (mem_answeredIds_iff _ _ _).mpr (all question listed)
    have back :=
      (questionsOf_ids_nodup catalogue pair.assessmentId).subperm
        covered
    exact le_antisymm included.length_le back.length_le

end Counting

/-! ## The size of authored assessments -/

/-- Every assessment has between 1 and 100 questions. -/
def SizedAssessments (catalogue : Catalogue) : Prop :=
  ∀ assessment ∈ catalogue.assessments,
    1 ≤ (catalogue.questionsOf assessment.id).length ∧
      (catalogue.questionsOf assessment.id).length ≤ 100

theorem sizedAssessments_afterStore
    {catalogue : Catalogue} (foreignKeys : catalogue.ForeignKeys)
    (sized : SizedAssessments catalogue) (request : StoreRequest) :
    SizedAssessments (afterStore catalogue request) := by
  rcases store_faithful catalogue foreignKeys request with
    ⟨error, _, same⟩ | ⟨keyed, created⟩
  · rw [same]
    exact sized
  · intro assessment listed
    rw [created.assessments] at listed
    rcases List.mem_append.mp listed with old | new
    · rw [created.sameBelow.questions assessment.id
        (List.mem_map_of_mem old)]
      exact sized assessment old
    · cases List.mem_singleton.mp new
      change
        1 ≤ ((afterStore catalogue request).questionsOf
            catalogue.nextAssessmentId).length ∧
          ((afterStore catalogue request).questionsOf
            catalogue.nextAssessmentId).length ≤ 100
      rw [← created.authored.questions.length_eq]
      exact request.questionCount

theorem sizedAssessments_ofUsers (users : List UserId) :
    SizedAssessments (Catalogue.ofUsers users) :=
  fun _ listed => (List.not_mem_nil listed).elim

theorem sizedAssessments_authored
    (users : List UserId) (requests : List StoreRequest) :
    SizedAssessments (authored users requests) :=
  authored_invariant SizedAssessments (sizedAssessments_ofUsers users)
    (fun _ foreignKeys sized request =>
      sizedAssessments_afterStore foreignKeys sized request)
    requests

theorem takeable_of_listed
    {users : List UserId} {requests : List StoreRequest}
    {request : TakeRequest} {assessment : Assessment}
    (found :
      (authored users requests).assessment? request.assessmentId =
        some assessment)
    (isUser : request.userId ∈ (authored users requests).users) :
    Takeable (authored users requests) request assessment where
  assessmentFound := found
  isUser := isUser
  nonempty := by
    rcases (Catalogue.assessment?_eq_some_iff _ _ _).mp found with
      ⟨listed, hasId⟩
    rw [← hasId]
    exact
      List.ne_nil_of_length_pos
        (sizedAssessments_authored users requests assessment listed).1

/-! ## The bar at its ends -/

/-- The progress of a screen, counted in questions. -/
theorem progress_eq_hundred_iff
    {users : List UserId} {requests : List StoreRequest}
    {assessment : Assessment} {database : Database} {pair : Pair}
    (wellFormed : WellFormed (authored users requests) database)
    (found :
      (authored users requests).assessment? pair.assessmentId =
        some assessment) :
    progressOf (answeredCount database pair)
          ((authored users requests).questionsOf
            pair.assessmentId).length =
        100 ↔
      AllAnswered (authored users requests) database pair := by
  rcases (Catalogue.assessment?_eq_some_iff _ _ _).mp found with
    ⟨listed, hasId⟩
  have sized :=
    sizedAssessments_authored users requests assessment listed
  rw [hasId] at sized
  rw [progressOf_eq_hundred_iff (answeredCount_le wellFormed pair)
    sized.1 sized.2]
  exact answeredCount_eq_iff wellFormed pair

/--
For every authored assessment, every run of requests and every user: the
screen shows a whole percentage up to 100, and 100 exactly when each
question has a selection or a text.
-/
theorem progress_is_exact
    (users : List UserId) (requests : List StoreRequest)
    (assignment : SelectionAssignment) (operations : List Operation)
    (questionOrder : OrderBy AssessmentQuestion.order)
    (answerOrder : OrderBy AssessmentAnswer.order)
    (request : TakeRequest) (assessment : Assessment)
    (found :
      (authored users requests).assessment? request.assessmentId =
        some assessment)
    (isUser : request.userId ∈ (authored users requests).users) :
    let catalogue := authored users requests
    let database :=
      Operation.run catalogue assignment operations Database.empty
    ∃ (screen : TakeScreen) (percent : ℕ),
      take catalogue database questionOrder answerOrder request =
          .ok screen ∧
        screen.progress = percent ∧
        percent ≤ 100 ∧
        (screen.progress = 100 ↔
          AllAnswered catalogue database request.pair) := by
  intro catalogue database
  have wellFormed : WellFormed catalogue database :=
    wellFormed_run catalogue assignment operations
  rcases exists_take (takeable_of_listed found isUser) database
      questionOrder answerOrder with ⟨screen, shown, shows⟩
  rcases progressOf_eq_natCast
      (answeredCount_le wellFormed request.pair) with
    ⟨percent, isPercent, bounded⟩
  refine
    ⟨screen, percent, shown, shows.progress.trans isPercent, bounded,
      ?_⟩
  rw [shows.progress]
  exact progress_eq_hundred_iff wellFormed found

/-- One of the two texts of the written payload is answered. -/
theorem progress_is_exact_halfAnswered :
    let catalogue := authored [1, 2] [writtenPayload]
    let database :=
      Operation.run catalogue .jsonEncoded halfAnswered Database.empty
    ∃ (screen : TakeScreen) (percent : ℕ),
      take catalogue database (OrderBy.stable AssessmentQuestion.order)
            (OrderBy.stable AssessmentAnswer.order) ⟨1, 1, 2⟩ =
          .ok screen ∧
        screen.progress = percent ∧
        percent ≤ 100 ∧
        (screen.progress = 100 ↔
          AllAnswered catalogue database ⟨1, 1⟩) :=
  progress_is_exact [1, 2] [writtenPayload] .jsonEncoded halfAnswered
    (OrderBy.stable AssessmentQuestion.order)
    (OrderBy.stable AssessmentAnswer.order) ⟨1, 1, 2⟩
    writtenAssessment (by decide +kernel) (by decide +kernel)

/-! ## Completion without answers -/

/-- Completed, and the bar full with every question answered. -/
def CompletedMeansAnswered (catalogue : Catalogue)
    (database : Database) (assessment : Assessment)
    (request : TakeRequest) : Prop :=
  determineStatus catalogue database assessment request.userId =
      .completed →
    AllAnswered catalogue database request.pair ∧
      ∀ questionOrder answerOrder screen,
        take catalogue database questionOrder answerOrder request =
            .ok screen →
          screen.progress = 100

/--
A question has no response, a text is not graded, or no response is empty.
-/
def NoEmptyResponseCounts (catalogue : Catalogue)
    (database : Database) (pair : Pair) : Prop :=
  (database.responsesOf pair).length <
      (catalogue.questionsOf pair.assessmentId).length ∨
    (∃ response ∈ database.responsesOf pair,
      isWritten catalogue response = true ∧
        response.gradedAt = none) ∨
    ∀ response ∈ database.responsesOf pair,
      hasContent response = true

/-- When every question has a response, the empty ones are unanswered. -/
theorem allAnswered_iff_of_covered
    {catalogue : Catalogue} {database : Database}
    (wellFormed : WellFormed catalogue database) {pair : Pair}
    (covered :
      (catalogue.questionsOf pair.assessmentId).length ≤
        (database.responsesOf pair).length) :
    AllAnswered catalogue database pair ↔
      ∀ response ∈ database.responsesOf pair,
        hasContent response = true := by
  have own :
      (database.responsesOf pair).map
          ParticipantResponse.questionId ⊆
        (catalogue.questionsOf pair.assessmentId).map
          AssessmentQuestion.id := by
    intro questionId member
    rcases List.mem_map.mp member with ⟨response, listed, rfl⟩
    exact wellFormed.questionId_mem pair response listed
  have sameLength :
      (database.responsesOf pair).length =
        (catalogue.questionsOf pair.assessmentId).length := by
    have atMost :=
      ((questionIds_nodup database pair).subperm own).length_le
    rw [List.length_map, List.length_map] at atMost
    exact le_antisymm atMost covered
  rw [← answeredCount_eq_iff wellFormed, answeredCount, ← sameLength,
    List.length_filter_eq_length_iff]

/--
For every authored assessment, every run of requests and every user:
completion means that everything is answered exactly when no empty response
counts towards it.
-/
theorem completed_means_answered_iff
    (users : List UserId) (requests : List StoreRequest)
    (assignment : SelectionAssignment) (operations : List Operation)
    (request : TakeRequest) (assessment : Assessment)
    (found :
      (authored users requests).assessment? request.assessmentId =
        some assessment) :
    let catalogue := authored users requests
    let database :=
      Operation.run catalogue assignment operations Database.empty
    CompletedMeansAnswered catalogue database assessment request ↔
      NoEmptyResponseCounts catalogue database request.pair := by
  intro catalogue database
  have wellFormed : WellFormed catalogue database :=
    wellFormed_run catalogue assignment operations
  have sameId : assessment.id = request.assessmentId :=
    Catalogue.assessment?_id found
  have completed :
      determineStatus catalogue database assessment request.userId =
          .completed ↔
        database.responsesOf request.pair ≠ [] ∧
          (catalogue.questionsOf request.assessmentId).length ≤
            (database.responsesOf request.pair).length ∧
          ∀ response ∈ database.responsesOf request.pair,
            isWritten catalogue response = true →
              response.gradedAt ≠ none := by
    rw [determineStatus, statusOf_eq_completed_iff, sameId]
    exact Iff.rfl
  constructor
  · intro means
    by_contra fails
    rw [NoEmptyResponseCounts, not_or, not_or] at fails
    rcases fails with ⟨covered, graded, empty⟩
    have covers := not_lt.mp covered
    apply empty
    apply (allAnswered_iff_of_covered wellFormed covers).mp
    refine (means (completed.mpr ⟨?_, covers, ?_⟩)).1
    · intro none
      apply empty
      intro response listed
      rw [none] at listed
      exact (List.not_mem_nil listed).elim
    · intro response listed written notGraded
      exact graded ⟨response, listed, written, notGraded⟩
  · rintro counts isCompleted
    rcases completed.mp isCompleted with ⟨_, covers, graded⟩
    have all : AllAnswered catalogue database request.pair := by
      apply (allAnswered_iff_of_covered wellFormed covers).mpr
      rcases counts with missing | ⟨response, listed, written, none⟩ |
        content
      · exact (not_le.mpr missing covers).elim
      · exact (graded response listed written none).elim
      · exact content
    refine ⟨all, ?_⟩
    intro questionOrder answerOrder screen shown
    rw [(shows_of_take shown).progress]
    exact (progress_eq_hundred_iff wellFormed found).mpr all

/-- The choice of `choicePayload` is visited and left without a click. -/
def onlyVisited : List Operation :=
  [.storeResponse (sampleSelection 1 [] .next)]

/-- The assessment of `choicePayload`. -/
def choiceAssessment : Assessment :=
  { writtenAssessment with maxTotalScore := some 1 }

theorem completed_means_answered_iff_onlyVisited :
    let catalogue := authored [1, 2] [GradingController.choicePayload]
    let database :=
      Operation.run catalogue .jsonEncoded onlyVisited Database.empty
    CompletedMeansAnswered catalogue database choiceAssessment
        ⟨1, 1, 1⟩ ↔
      NoEmptyResponseCounts catalogue database ⟨1, 1⟩ :=
  completed_means_answered_iff [1, 2] [GradingController.choicePayload]
    .jsonEncoded onlyVisited ⟨1, 1, 1⟩ choiceAssessment
    (by decide +kernel)

/-- A visit completes the test, and the bar stays at 0. -/
theorem visit_completes_without_answer :
    let catalogue := authored [1, 2] [GradingController.choicePayload]
    let database :=
      Operation.run catalogue .jsonEncoded onlyVisited Database.empty
    determineStatus catalogue database choiceAssessment 1 =
        .completed ∧
      (take catalogue database (OrderBy.stable AssessmentQuestion.order)
            (OrderBy.stable AssessmentAnswer.order) ⟨1, 1, 1⟩).map
          TakeScreen.progress =
        .ok 0 := by
  decide +kernel

end SultanPass.SurveyController
