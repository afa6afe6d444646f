import SultanPass.ScoreOrder

/-!
# Category grades that are left blank

The grading form posts every category, and a blank field arrives as null.
The validator admits it, the cast `(float) $weight` makes it 0, and both the
scoring service and the dashboard then count it as a weight of 0 against an
assumed maximum of 3.0.

So a blank is a grade of zero (`blank_grades_count_as_zero`): compared with
the grade without its blanks, each category keeps its total while its
maximum grows by 3.0 for every blank.
-/

namespace SultanPass.BlankCategories

open SultanPass.Library
open SultanPass.Library.OrderedMap
open SultanPass.AssessmentScoreService
open SultanPass.DashboardController
open SultanPass.ScoreOrder

/-! ## Grades with and without their blanks -/

/-- Every blank is replaced by the weight 0. -/
def zeroed (categories : GradedCategories) : GradedCategories :=
  categories.map fun entry => (entry.1, some (entry.2.getD 0))

/-- The blanks are removed. -/
def withoutBlanks (categories : GradedCategories) : GradedCategories :=
  categories.filter fun entry => entry.2.isSome

/-- The number of blanks of a category in a grade. -/
def blanksIn (id : CategoryId) (categories : GradedCategories) : ℕ :=
  categories.countP fun entry => entry.1 = id ∧ entry.2 = none

def blanks (id : CategoryId) (response : ParticipantResponse) : ℕ :=
  blanksIn id (response.gradedCategories.getD [])

/-- A response with its category grade rewritten. -/
def regrade (rewrite : GradedCategories → GradedCategories)
    (response : ParticipantResponse) : ParticipantResponse :=
  { response with
    gradedCategories := response.gradedCategories.map rewrite }

/-- A database with every category grade rewritten. -/
def regradeAll (rewrite : GradedCategories → GradedCategories)
    (database : Database) : Database :=
  { database with
    participantResponses :=
      database.participantResponses.refresh (regrade rewrite)
        fun _ => rfl }

/-- The dashboard reads the rewritten rows of the same responses. -/
theorem responsesOfParticipant_regradeAll
    (rewrite : GradedCategories → GradedCategories)
    (database : Database) (participant : UserId) :
    responsesOfParticipant (regradeAll rewrite database) participant =
      (responsesOfParticipant database participant).map
        (regrade rewrite) := by
  rw [responsesOfParticipant, responsesOfParticipant, regradeAll]
  change (database.participantResponses.rows.map _).filter _ = _
  rw [List.filter_map]
  congr 1
  apply List.filter_congr
  intro response _
  apply decide_eq_decide.mpr
  simp [regrade]

/-! ## Blanks as zeros -/

theorem gradedRecords_zeroed (categories : Option GradedCategories) :
    gradedRecords (categories.map zeroed) =
      gradedRecords categories := by
  cases categories with
  | none => rfl
  | some categories =>
      simp [gradedRecords, zeroed, Function.comp_def]

/-- A written response adds the weights of its grade. -/
theorem categoryRecords_of_isWritten
    {catalogue : Catalogue} {response : ParticipantResponse}
    (written : isWritten catalogue response = true) :
    categoryRecords catalogue response =
      .ok (gradedRecords response.gradedCategories) := by
  rw [isWritten] at written
  rw [categoryRecords]
  cases found : catalogue.question? response.questionId with
  | none =>
      rw [found] at written
      cases written
  | some question =>
      rw [found] at written
      have kind : question.questionType = .written :=
        of_decide_eq_true written
      dsimp only
      rw [kind]

/-- The grade of any other response is not read. -/
theorem categoryRecords_regrade
    {catalogue : Catalogue} {response : ParticipantResponse}
    (rewrite : GradedCategories → GradedCategories)
    (notWritten : ¬ isWritten catalogue response = true) :
    categoryRecords catalogue (regrade rewrite response) =
      categoryRecords catalogue response := by
  have sameQuestion :
      (regrade rewrite response).questionId = response.questionId :=
    rfl
  rw [isWritten] at notWritten
  rw [categoryRecords, categoryRecords, sameQuestion]
  cases found : catalogue.question? response.questionId with
  | none => rfl
  | some question =>
      rw [found] at notWritten
      dsimp only
      cases kind : question.questionType with
      | mcq => rfl
      | written => exact (notWritten (decide_eq_true kind)).elim

theorem categoryRecords_zeroed
    (catalogue : Catalogue) (response : ParticipantResponse) :
    categoryRecords catalogue (regrade zeroed response) =
      categoryRecords catalogue response := by
  by_cases written : isWritten catalogue response = true
  · have zeroedWritten :
        isWritten catalogue (regrade zeroed response) = true :=
      written
    rw [categoryRecords_of_isWritten written,
      categoryRecords_of_isWritten zeroedWritten]
    exact
      congrArg Except.ok
        (gradedRecords_zeroed response.gradedCategories)
  · exact categoryRecords_regrade zeroed written

theorem responseRecords_zeroed
    (catalogue : Catalogue) (response : ParticipantResponse) :
    responseRecords catalogue (regrade zeroed response) =
      responseRecords catalogue response := by
  have sameGrades :
      gradedWeightRecords catalogue (regrade zeroed response) =
        gradedWeightRecords catalogue response := by
    rw [gradedWeightRecords, gradedWeightRecords]
    change (gradedRecords (response.gradedCategories.map zeroed)).map
      _ = _
    rw [gradedRecords_zeroed]
  rw [responseRecords, responseRecords, sameGrades]
  rfl

theorem calculateCategoricalScore_zeroed
    (catalogue : Catalogue) (responses : List ParticipantResponse) :
    calculateCategoricalScore catalogue
        (responses.map (regrade zeroed)) =
      calculateCategoricalScore catalogue responses := by
  have sameRecords :
      categoryRecords catalogue ∘ regrade zeroed =
        categoryRecords catalogue :=
    funext (categoryRecords_zeroed catalogue)
  rw [calculateCategoricalScore_eq, calculateCategoricalScore_eq,
    List.map_map, sameRecords]

theorem getCategoryScores_zeroed
    (catalogue : Catalogue) (database : Database)
    (participant : UserId) :
    getCategoryScores catalogue (regradeAll zeroed database)
        participant =
      getCategoryScores catalogue database participant := by
  have sameEntries :
      categoryEntries catalogue
          (responsesOfParticipant (regradeAll zeroed database)
            participant) =
        categoryEntries catalogue
          (responsesOfParticipant database participant) := by
    rw [responsesOfParticipant_regradeAll, categoryEntries,
      List.foldl_map]
    simp only [responseRecords_zeroed]
    rfl
  simp only [getCategoryScores, unroundedValues, sameEntries]

/-! ## Blanks against their absence -/

/--
In each category the first records have the same sum as the second and
exceed them by a number of blanks.
-/
def ExceedBy (excess : CategoryId → ℕ)
    (records stripped : List (CategoryId × ℚ)) : Prop :=
  ∀ id,
    (recordsOf id records).sum = (recordsOf id stripped).sum ∧
      (recordsOf id records).length =
        (recordsOf id stripped).length + excess id

theorem exceedBy_refl (records : List (CategoryId × ℚ)) :
    ExceedBy (fun _ => 0) records records :=
  fun _ => ⟨rfl, rfl⟩

theorem ExceedBy.congr
    {excess other : CategoryId → ℕ}
    {records stripped : List (CategoryId × ℚ)}
    (exceed : ExceedBy excess records stripped)
    (same : ∀ id, excess id = other id) :
    ExceedBy other records stripped := by
  have equal : excess = other := funext same
  exact equal ▸ exceed

theorem ExceedBy.append
    {excess later : CategoryId → ℕ}
    {records stripped rest strippedRest : List (CategoryId × ℚ)}
    (first : ExceedBy excess records stripped)
    (second : ExceedBy later rest strippedRest) :
    ExceedBy (fun id => excess id + later id) (records ++ rest)
      (stripped ++ strippedRest) := by
  intro id
  rw [recordsOf_append, recordsOf_append, List.sum_append,
    List.sum_append, List.length_append, List.length_append,
    (first id).1, (first id).2, (second id).1, (second id).2]
  exact ⟨rfl, Nat.add_add_add_comm _ _ _ _⟩

/-- A blank is a record of weight 0. -/
theorem exceedBy_blank (blank : CategoryId) :
    ExceedBy (fun id => if blank = id then 1 else 0) [(blank, 0)] [] := by
  intro id
  by_cases same : blank = id
  · simp [recordsOf, same]
  · simp [recordsOf, same]

/-- A grade exceeds the grade without its blanks by its blanks. -/
theorem exceedBy_withoutBlanks (categories : GradedCategories) :
    ExceedBy (fun id => blanksIn id categories)
      (gradedRecords (some categories))
      (gradedRecords (some (withoutBlanks categories))) := by
  induction categories with
  | nil => exact exceedBy_refl []
  | cons entry rest induction =>
      rcases entry with ⟨category, weight⟩
      cases weight with
      | none =>
          apply ((exceedBy_blank category).append induction).congr
          intro id
          simp [blanksIn, List.countP_cons, Nat.add_comm]
      | some value =>
          apply ((exceedBy_refl [(category, value)]).append
            induction).congr
          intro id
          simp [blanksIn]

theorem exceedBy_gradedRecords (response : ParticipantResponse) :
    ExceedBy (fun id => blanks id response)
      (gradedRecords response.gradedCategories)
      (gradedRecords
        (regrade withoutBlanks response).gradedCategories) := by
  rw [regrade]
  cases graded : response.gradedCategories with
  | none =>
      apply (exceedBy_refl _).congr
      intro id
      rw [blanks, graded]
      rfl
  | some categories =>
      apply (exceedBy_withoutBlanks categories).congr
      intro id
      rw [blanks, graded]
      rfl

/-- The blanks that the scoring service counts: those of written texts. -/
def countedBlanks (catalogue : Catalogue) (id : CategoryId)
    (response : ParticipantResponse) : ℕ :=
  if isWritten catalogue response then blanks id response else 0

theorem exceedBy_categoryRecords
    (catalogue : Catalogue) {response : ParticipantResponse}
    {records : List (CategoryId × ℚ)}
    (computed : categoryRecords catalogue response = .ok records) :
    ∃ stripped,
      categoryRecords catalogue (regrade withoutBlanks response) =
          .ok stripped ∧
        ExceedBy (fun id => countedBlanks catalogue id response)
          records stripped := by
  by_cases written : isWritten catalogue response = true
  · rw [categoryRecords_of_isWritten written, Except.ok.injEq]
      at computed
    subst computed
    have strippedWritten :
        isWritten catalogue (regrade withoutBlanks response) = true :=
      written
    refine
      ⟨_, categoryRecords_of_isWritten strippedWritten,
        (exceedBy_gradedRecords response).congr ?_⟩
    intro id
    rw [countedBlanks, if_pos written]
  · refine
      ⟨records,
        (categoryRecords_regrade withoutBlanks written).trans computed,
        (exceedBy_refl records).congr ?_⟩
    intro id
    rw [countedBlanks, if_neg written]

/-- All responses together exceed by all their counted blanks. -/
theorem exceedBy_readings
    (catalogue : Catalogue) {responses : List ParticipantResponse}
    {lists : List (List (CategoryId × ℚ))}
    (computed : responses.mapM (categoryRecords catalogue) = .ok lists) :
    ∃ strippedLists,
      (responses.map (regrade withoutBlanks)).mapM
            (categoryRecords catalogue) = .ok strippedLists ∧
        ExceedBy
          (fun id => (responses.map (countedBlanks catalogue id)).sum)
          lists.flatten strippedLists.flatten := by
  rw [mapM_eq_ok_iff] at computed
  induction computed with
  | nil => exact ⟨[], rfl, exceedBy_refl []⟩
  | cons first _ induction =>
      rcases exceedBy_categoryRecords catalogue first with
        ⟨stripped, strippedFirst, exceedFirst⟩
      rcases induction with ⟨strippedLists, strippedRest, exceedRest⟩
      refine ⟨stripped :: strippedLists, ?_, ?_⟩
      · rw [List.map_cons, List.mapM_cons, strippedFirst, strippedRest]
        rfl
      · exact exceedFirst.append exceedRest

/-- The same category entry with a larger assumed maximum. -/
def withBlanks (count : ℕ) (entry : CategoryTotal) : CategoryTotal where
  total := entry.total
  maxWeight := entry.maxWeight + 3 * count

/-- What is read of a tally at a category. -/
theorem lookup_of_exceedBy
    {excess : CategoryId → ℕ} {records stripped : List (CategoryId × ℚ)}
    (exceed : ExceedBy excess records stripped) (id : CategoryId) :
    lookup id {} (tally {} CategoryTotal.add records) =
      withBlanks (excess id)
        (lookup id {} (tally {} CategoryTotal.add stripped)) := by
  rw [lookup_tally, lookup_tally, foldl_categoryTotal_add,
    foldl_categoryTotal_add, withBlanks, (exceed id).1, (exceed id).2]
  congr 1
  push_cast
  ring

theorem categoryTotals_eq_ok_iff
    (catalogue : Catalogue) (responses : List ParticipantResponse)
    (totals : List (CategoryId × CategoryTotal)) :
    categoryTotals catalogue responses = .ok totals ↔
      ∃ lists,
        responses.mapM (categoryRecords catalogue) = .ok lists ∧
          tally {} CategoryTotal.add lists.flatten = totals := by
  rw [categoryTotals, foldlM_eq_mapM_foldl, bind_eq_ok_iff]
  simp only [tally, List.foldl_flatten, Except.ok.injEq]

/-- The totals of the service, read at each category. -/
theorem categoryTotals_withoutBlanks
    (catalogue : Catalogue) {responses : List ParticipantResponse}
    {totals : List (CategoryId × CategoryTotal)}
    (computed : categoryTotals catalogue responses = .ok totals) :
    ∃ stripped,
      categoryTotals catalogue
            (responses.map (regrade withoutBlanks)) = .ok stripped ∧
        ∀ id,
          lookup id {} totals =
            withBlanks (responses.map (countedBlanks catalogue id)).sum
              (lookup id {} stripped) := by
  rcases (categoryTotals_eq_ok_iff _ _ _).mp computed with
    ⟨lists, returns, rfl⟩
  rcases exceedBy_readings catalogue returns with
    ⟨strippedLists, returnsStripped, exceed⟩
  exact
    ⟨_,
      (categoryTotals_eq_ok_iff _ _ _).mpr
        ⟨strippedLists, returnsStripped, rfl⟩,
      lookup_of_exceedBy exceed⟩

/-! ## The dashboard -/

theorem exceedBy_weightRecords
    (catalogue : Catalogue) (response : ParticipantResponse) :
    ExceedBy (fun id => blanks id response)
      (weightRecords catalogue response)
      (weightRecords catalogue (regrade withoutBlanks response)) := by
  have selected :=
    exceedBy_refl
      ((selectedRecords catalogue response).map fun record =>
        (record.1, record.2.weight))
  have joined :=
    selected.append (exceedBy_gradedRecords response)
  rw [weightRecords, weightRecords, responseRecords, responseRecords,
    List.map_append, List.map_append, map_gradedWeightRecords,
    map_gradedWeightRecords]
  exact joined.congr fun id => Nat.zero_add _

theorem exceedBy_allWeightRecords
    (catalogue : Catalogue) (responses : List ParticipantResponse) :
    ExceedBy (fun id => (responses.map (blanks id)).sum)
      (responses.flatMap (weightRecords catalogue))
      ((responses.map (regrade withoutBlanks)).flatMap
        (weightRecords catalogue)) := by
  induction responses with
  | nil => exact exceedBy_refl []
  | cons response rest induction =>
      exact (exceedBy_weightRecords catalogue response).append induction

/-- The totals that the dashboard keeps of a participant. -/
def dashboardTotals (catalogue : Catalogue) (database : Database)
    (participant : UserId) : List (CategoryId × CategoryTotal) :=
  (categoryEntries catalogue
      (responsesOfParticipant database participant)).map fun entry =>
    (entry.1, totalsOf entry.2)

/-! ## Blank grades -/

/--
A blank category grade counts as a weight of 0: with every blank replaced by
0 the score and the dashboard are the same.  With the blanks removed, every
category keeps its total, and its maximum is smaller by 3 for each blank.
-/
theorem blank_grades_count_as_zero
    (catalogue : Catalogue) (responses : List ParticipantResponse)
    (database : Database) (participant : UserId) :
    calculateCategoricalScore catalogue
          (responses.map (regrade zeroed)) =
        calculateCategoricalScore catalogue responses ∧
      getCategoryScores catalogue (regradeAll zeroed database)
          participant =
        getCategoryScores catalogue database participant ∧
      (∀ totals, categoryTotals catalogue responses = .ok totals →
        ∃ stripped,
          categoryTotals catalogue
                (responses.map (regrade withoutBlanks)) =
              .ok stripped ∧
            ∀ id,
              lookup id {} totals =
                withBlanks
                  (responses.map (countedBlanks catalogue id)).sum
                  (lookup id {} stripped)) ∧
      ∀ id,
        lookup id {}
            (dashboardTotals catalogue database participant) =
          withBlanks
            ((responsesOfParticipant database participant).map
              (blanks id)).sum
            (lookup id {}
              (dashboardTotals catalogue
                (regradeAll withoutBlanks database) participant)) := by
  refine
    ⟨calculateCategoricalScore_zeroed catalogue responses,
      getCategoryScores_zeroed catalogue database participant,
      fun totals => categoryTotals_withoutBlanks catalogue, ?_⟩
  rw [dashboardTotals, dashboardTotals, totalsOf_categoryEntries,
    totalsOf_categoryEntries, responsesOfParticipant_regradeAll]
  exact
    lookup_of_exceedBy
      (exceedBy_allWeightRecords catalogue
        (responsesOfParticipant database participant))

/-- A text with full weight in one category and a blank in another. -/
def blankedDatabase : Database where
  participantResponses :=
    { rows := [gradedRow [(1, some 3), (7, none)]]
      distinct := by decide }
  assessmentParticipants := []

/-- The blank halves the score and shows a further category. -/
theorem blank_grade_lowers_score :
    calculateCategoricalScore sampleCatalogue
          [gradedRow [(1, some 3), (7, none)]] =
        .ok (some (1667 / 100)) ∧
      calculateCategoricalScore sampleCatalogue
          [gradedRow (withoutBlanks [(1, some 3), (7, none)])] =
        .ok (some (3333 / 100)) ∧
      (getCategoryScores sampleCatalogue blankedDatabase 1).values =
        [100, 0] ∧
      (getCategoryScores sampleCatalogue
          (regradeAll withoutBlanks blankedDatabase) 1).values =
        [100] := by
  decide +kernel

end SultanPass.BlankCategories
