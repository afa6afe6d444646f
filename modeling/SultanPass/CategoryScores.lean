import SultanPass.DashboardController
import SultanPass.Operations

/-!
# The categorical score beside the strengths dashboard

Both accumulate the same category totals (`records_of_dashboard`).
The dashboard divides a total by the assumed maximum of its weights; the
scoring service divides the same quotient by 3.0 a second time.  The two
percentages of a category agree at zero and where both are clamped to 100,
and nowhere else.
-/

namespace SultanPass.CategoryScores

open SultanPass.Library
open SultanPass.Library.OrderedMap
open SultanPass.AssessmentScoreService
open SultanPass.DashboardController

/-! ## One category -/

/-- The dashboard's percentage of the totals of a category. -/
def dashboardScore (entry : CategoryTotal) : ℚ :=
  min 100 (max 0 (entry.total / max entry.maxWeight 1 * 100))

theorem categoryScore_le_dashboardScore
    {entry : CategoryTotal} (nonneg : 0 ≤ entry.total)
    (large : 1 ≤ entry.maxWeight) :
    categoryScore entry ≤ dashboardScore entry := by
  have quotient : 0 ≤ entry.total / entry.maxWeight :=
    div_nonneg nonneg (zero_le_one.trans large)
  rw [categoryScore, dashboardScore, max_eq_left large]
  apply min_le_min_left
  apply max_le_max_left
  linarith

/-- Dividing by 3 a second time shows unless the result is 0 or clamped. -/
theorem categoryScore_eq_dashboardScore_iff
    {entry : CategoryTotal} (nonneg : 0 ≤ entry.total)
    (large : 1 ≤ entry.maxWeight) :
    categoryScore entry = dashboardScore entry ↔
      entry.total = 0 ∨ 3 * entry.maxWeight ≤ entry.total := by
  have positive : 0 < entry.maxWeight := zero_lt_one.trans_le large
  have quotient : 0 ≤ entry.total / entry.maxWeight :=
    div_nonneg nonneg positive.le
  have zeroIff :
      entry.total / entry.maxWeight = 0 ↔ entry.total = 0 := by
    simp [positive.ne']
  have clampIff :
      3 ≤ entry.total / entry.maxWeight ↔
        3 * entry.maxWeight ≤ entry.total :=
    le_div_iff₀ positive
  rw [← zeroIff, ← clampIff, categoryScore, dashboardScore,
    max_eq_left large]
  generalize entry.total / entry.maxWeight = average at quotient
  rw [max_eq_right (by linarith), max_eq_right (by linarith)]
  constructor
  · intro equal
    rcases lt_or_ge average 3 with below | above
    · rw [min_eq_right (by linarith)] at equal
      rcases le_total 1 average with clamped | unclamped
      · rw [min_eq_left (by linarith)] at equal
        linarith
      · rw [min_eq_right (by linarith)] at equal
        exact Or.inl (by linarith)
    · exact Or.inr above
  · rintro (zero | above)
    · rw [zero]
      norm_num
    · rw [min_eq_left (by linarith), min_eq_left (by linarith)]

/-! ## All responses of a participant -/

/--
A response that both sides read alike: a choice with an id list and no
grade, or a written response without a selection, graded with non-negative
weights if at all.
-/
def Comparable (catalogue : Catalogue)
    (response : ParticipantResponse) : Prop :=
  ∃ question,
    catalogue.question? response.questionId = some question ∧
      match question.questionType with
      | .mcq => HasIdList response ∧ response.gradedCategories = none
      | .written =>
          response.selectedAnswerIdsColumn = none ∧
            ∀ record ∈ gradedRecords response.gradedCategories,
              0 ≤ record.2

theorem Comparable.hasIdList
    {catalogue : Catalogue} {response : ParticipantResponse}
    (comparable : Comparable catalogue response) :
    HasIdList response := by
  rcases comparable with ⟨question, _, kind⟩
  cases isKind : question.questionType with
  | mcq =>
      rw [isKind] at kind
      exact kind.1
  | written =>
      rw [isKind] at kind
      exact ⟨[], by simp [ParticipantResponse.selectedAnswerIds,
        kind.1, castArrayGet, PhpValue.orEmptyList]⟩

/-- The dashboard decodes an id list as the model attribute does. -/
theorem selectedRecords_eq
    (catalogue : Catalogue) {response : ParticipantResponse}
    (idList : HasIdList response) :
    (selectedRecords catalogue response).map
        (fun record => (record.1, record.2.weight)) =
      if selectedIds response = [] then []
      else weightsOf catalogue (selectedIds response) := by
  have listEqual := idList.orEmptyList_eq
  rw [ParticipantResponse.selectedAnswerIds] at listEqual
  generalize selectedIds response = answerIds at listEqual
  rw [selectedRecords]
  cases column : response.selectedAnswerIdsColumn with
  | none =>
      rw [column] at listEqual
      cases listEqual
      rfl
  | some text =>
      rw [column] at listEqual
      change
        PhpValue.orEmptyList (decodedAnswerIds (some text)) = _
        at listEqual
      generalize decodedAnswerIds (some text) = decoded
        at listEqual ⊢
      cases decoded with
      | null =>
          cases listEqual
          rfl
      | int number => cases listEqual
      | str content => cases listEqual
      | list numbers =>
          cases listEqual
          by_cases empty : answerIds = []
          · simp [empty]
          · simp only [ne_eq, empty, not_false_eq_true, if_true,
              if_false, joinedWeights_eq]

/-- Both sides read the same weights from a comparable response. -/
theorem recordsOfResponse_eq
    {catalogue : Catalogue} {response : ParticipantResponse}
    (comparable : Comparable catalogue response) :
    recordsOfResponse catalogue response =
      weightRecords catalogue response := by
  have selected := selectedRecords_eq catalogue comparable.hasIdList
  rcases comparable with ⟨question, found, kind⟩
  rw [weightRecords, responseRecords, List.map_append, selected,
    map_gradedWeightRecords]
  cases isKind : question.questionType with
  | mcq =>
      rw [isKind] at kind
      rw [recordsOfResponse_of_mcq found isKind]
      simp [kind.2, gradedRecords]
  | written =>
      rw [isKind] at kind
      rw [recordsOfResponse_of_written found isKind]
      have noIds : selectedIds response = [] := by
        simp [selectedIds, ParticipantResponse.selectedAnswerIds,
          kind.1, castArrayGet, PhpValue.orEmptyList]
      simp [noIds]

theorem recordsOfResponse_nonneg
    {catalogue : Catalogue} {response : ParticipantResponse}
    (comparable : Comparable catalogue response) :
    ∀ record ∈ recordsOfResponse catalogue response,
      0 ≤ record.2 := by
  rcases comparable with ⟨question, found, kind⟩
  cases isKind : question.questionType with
  | mcq =>
      rw [recordsOfResponse_of_mcq found isKind]
      intro record member
      split_ifs at member with empty
      · cases member
      · rcases List.mem_map.mp member with ⟨weight, listed, rfl⟩
        exact
          catalogue.weightsNonneg weight (List.mem_filter.mp listed).1
  | written =>
      rw [isKind] at kind
      rw [recordsOfResponse_of_written found isKind]
      exact kind.2

/-- A row that the dashboard does not select has no weights. -/
theorem weightRecords_of_null
    (catalogue : Catalogue) {response : ParticipantResponse}
    (noSelection : response.selectedAnswerIdsColumn = none)
    (noGrade : response.gradedCategories = none) :
    weightRecords catalogue response = [] := by
  simp [weightRecords, responseRecords, selectedRecords,
    decodedAnswerIds, gradedWeightRecords, gradedRecords, noSelection,
    noGrade]

/-- Every response of the participant is in the assessment, comparable. -/
def AllComparable (catalogue : Catalogue) (database : Database)
    (assessment : Assessment) (participant : UserId) : Prop :=
  ∀ response ∈ database.participantResponses.rows,
    response.participantId = participant →
      response.assessmentId = assessment.id ∧
        Comparable catalogue response

theorem flatMap_weightRecords_filter
    (catalogue : Catalogue) (responses : List ParticipantResponse)
    (participant : UserId) :
    (responses.filter fun response =>
        response.participantId = participant ∧
          (response.selectedAnswerIdsColumn ≠ none ∨
            response.gradedCategories ≠ none)).flatMap
        (weightRecords catalogue) =
      (responses.filter fun response =>
        response.participantId = participant).flatMap
          (weightRecords catalogue) := by
  induction responses with
  | nil => rfl
  | cons response rest induction =>
      by_cases own : response.participantId = participant
      · by_cases read :
            response.selectedAnswerIdsColumn ≠ none ∨
              response.gradedCategories ≠ none
        · rw [List.filter_cons_of_pos (by simp [own, read]),
            List.filter_cons_of_pos (by simp [own]),
            List.flatMap_cons, List.flatMap_cons, induction]
        · have noSelection :
              response.selectedAnswerIdsColumn = none := by
            by_contra selection
            exact read (Or.inl selection)
          have noGrade : response.gradedCategories = none := by
            by_contra grade
            exact read (Or.inr grade)
          rw [List.filter_cons_of_neg (by simp [noSelection, noGrade]),
            List.filter_cons_of_pos (by simp [own]),
            List.flatMap_cons,
            weightRecords_of_null catalogue noSelection noGrade,
            induction]
          rfl
      · rw [List.filter_cons_of_neg (by simp [own]),
          List.filter_cons_of_neg (by simp [own]), induction]

/-- The dashboard reads the weights that the scoring service reads. -/
theorem records_of_dashboard
    {catalogue : Catalogue} {database : Database}
    {assessment : Assessment} {participant : UserId}
    (comparable :
      AllComparable catalogue database assessment participant) :
    (responsesOfParticipant database participant).flatMap
        (weightRecords catalogue) =
      allRecords catalogue
        (database.responsesOf ⟨assessment.id, participant⟩) := by
  have sameRows :
      database.responsesOf ⟨assessment.id, participant⟩ =
        database.participantResponses.rows.filter fun response =>
          response.participantId = participant := by
    apply List.filter_congr
    intro response member
    have belongs := comparable response member
    rw [decide_eq_decide]
    constructor
    · intro equal
      exact congrArg Pair.participantId equal
    · intro own
      rw [ParticipantResponse.pair, own, (belongs own).1]
  rw [responsesOfParticipant, flatMap_weightRecords_filter, sameRows,
    allRecords]
  apply List.flatMap_congr
  intro response member
  rcases List.mem_filter.mp member with ⟨listed, own⟩
  exact
    (recordsOfResponse_eq
      (comparable response listed (of_decide_eq_true own)).2).symm

/-- The dashboard's percentages are those of the service's totals. -/
theorem unroundedValues_eq
    {catalogue : Catalogue} {database : Database}
    {assessment : Assessment} {participant : UserId}
    (comparable :
      AllComparable catalogue database assessment participant) :
    unroundedValues catalogue database participant =
      (tally {} CategoryTotal.add
        (allRecords catalogue
          (database.responsesOf ⟨assessment.id, participant⟩))).map
        fun entry => dashboardScore entry.2 := by
  rw [← records_of_dashboard comparable, ← totalsOf_categoryEntries,
    List.map_map]
  rfl

/-! ## The comparison -/

/-- The mean of a list, none for an empty one. -/
def mean (values : List ℚ) : Option ℚ :=
  if values = [] then none else some (values.sum / values.length)

theorem tally_bounds
    {records : List (CategoryId × ℚ)}
    (nonneg : ∀ record ∈ records, 0 ≤ record.2)
    {category : CategoryId} {entry : CategoryTotal}
    (listed :
      (category, entry) ∈ tally {} CategoryTotal.add records) :
    0 ≤ entry.total ∧ 1 ≤ entry.maxWeight := by
  have positive := maxWeight_pos listed
  rcases (mem_tally_categoryTotal_iff _ _ _).mp listed with ⟨_, rfl⟩
  constructor
  · apply List.sum_nonneg
    intro weight weightListed
    rcases List.mem_map.mp weightListed with ⟨record, member, rfl⟩
    exact nonneg record (List.mem_filter.mp member).1
  · have counted : 0 < (recordsOf category records).length := by
      by_contra zero
      have isZero : (recordsOf category records).length = 0 :=
        Nat.eq_zero_of_not_pos zero
      simp [isZero] at positive
    have castCounted :
        (1 : ℚ) ≤ (recordsOf category records).length := by
      exact_mod_cast counted
    dsimp only
    linarith

/-- Comparison of the two averages over the same records. -/
theorem averageCategoryScore_eq_mean_iff
    (records : List (CategoryId × ℚ))
    (nonneg : ∀ record ∈ records, 0 ≤ record.2) :
    averageCategoryScore (tally {} CategoryTotal.add records) =
        mean ((tally {} CategoryTotal.add records).map fun entry =>
          dashboardScore entry.2) ↔
      ∀ category ∈ records.map Prod.fst,
        (recordsOf category records).sum = 0 ∨
          9 * (recordsOf category records).length ≤
            (recordsOf category records).sum := by
  by_cases empty : records = []
  · subst records
    simp [tally, averageCategoryScore, mean]
  · have length :
        ((tally {} CategoryTotal.add records).length : ℚ) ≠ 0 := by
      simpa using empty
    have nonempty :
        (tally {} CategoryTotal.add records).map
          (fun entry => dashboardScore entry.2) ≠ [] := by
      simpa using empty
    have sums :=
      sum_map_eq_sum_map_iff (tally {} CategoryTotal.add records)
        (fun entry => categoryScore entry.2)
        (fun entry => dashboardScore entry.2)
        (by
          rintro ⟨category, entry⟩ listed
          have bounds := tally_bounds nonneg listed
          exact categoryScore_le_dashboardScore bounds.1 bounds.2)
    rw [averageCategoryScore_tally _ empty, mean, if_neg nonempty,
      Option.some.injEq, List.length_map, div_left_inj' length, sums]
    constructor
    · intro equal category key
      have listed :=
        (mem_tally_categoryTotal_iff records category _).mpr
          ⟨key, rfl⟩
      have bounds := tally_bounds nonneg listed
      have same := equal _ listed
      have agree :=
        (categoryScore_eq_dashboardScore_iff bounds.1 bounds.2).mp same
      rcases agree with zero | large
      · exact Or.inl zero
      · apply Or.inr
        dsimp only at large
        linarith
    · rintro condition ⟨category, entry⟩ listed
      have bounds := tally_bounds nonneg listed
      apply
        (categoryScore_eq_dashboardScore_iff bounds.1 bounds.2).mpr
      rcases (mem_tally_categoryTotal_iff _ _ _).mp listed with
        ⟨key, rfl⟩
      rcases condition category key with zero | large
      · exact Or.inl zero
      · apply Or.inr
        dsimp only
        linarith

/--
The unrounded categorical score is the mean of the dashboard's unrounded
percentages exactly when in every recorded category the weights sum to zero
or their mean is at least 9.
-/
theorem unroundedCategoricalScore_eq_mean_iff
    (catalogue : Catalogue) (database : Database)
    (assessment : Assessment) (participant : UserId)
    (comparable :
      AllComparable catalogue database assessment participant) :
    unroundedCategoricalScore catalogue
          (database.responsesOf ⟨assessment.id, participant⟩) =
        .ok (mean (unroundedValues catalogue database participant)) ↔
      let records :=
        allRecords catalogue
          (database.responsesOf ⟨assessment.id, participant⟩)
      ∀ category ∈ records.map Prod.fst,
        (recordsOf category records).sum = 0 ∨
          9 * (recordsOf category records).length ≤
            (recordsOf category records).sum := by
  have member
      (response : ParticipantResponse)
      (listed :
        response ∈
          database.responsesOf ⟨assessment.id, participant⟩) :
      Comparable catalogue response := by
    rcases (database.mem_responsesOf_iff _ _).mp listed with
      ⟨inRows, samePair⟩
    exact
      (comparable response inRows
        (congrArg Pair.participantId samePair)).2
  rw [unroundedCategoricalScore,
    categoryTotals_eq _ _ fun response listed =>
      (member response listed).hasIdList,
    unroundedValues_eq comparable]
  change
    Except.ok (averageCategoryScore (tally _ _ _)) = _ ↔ _
  rw [Except.ok.injEq]
  apply averageCategoryScore_eq_mean_iff
  intro record listed
  rcases List.mem_flatMap.mp listed with
    ⟨response, responseListed, recordListed⟩
  exact
    recordsOfResponse_nonneg (member response responseListed) record
      recordListed

/-! ## One weight at the assumed maximum -/

/-- The categorical assessment of the small catalogue. -/
def sampleCategorical : Assessment where
  id := 2
  type := .psychometric
  scoringMode := .categorical
  maxTotalScore := none
  status := .active
  startDate := none
  endDate := none

/-- The answer of weight 3.0 is selected. -/
def fullWeightRun : Database :=
  sampleRun .idList
    [.storeResponse (sampleSelection 4 [3] .next)]

theorem allComparable_fullWeightRun :
    AllComparable sampleCatalogue fullWeightRun sampleCategorical
      1 := by
  have oneRow :
      fullWeightRun.participantResponses.rows =
        [{ assessmentId := 2
           participantId := 1
           questionId := 4
           selectedAnswerIdsColumn :=
             some (JsonText.encode (.list [3]))
           writtenResponseText := none
           gradedScore := none
           gradedCategories := none
           gradedBy := none
           gradedAt := none }] := by
    decide +kernel
  intro response member own
  rw [oneRow, List.mem_singleton] at member
  subst member
  refine ⟨rfl, _, rfl, ?_, rfl⟩
  exact ⟨[3], by simp [ParticipantResponse.selectedAnswerIds,
    castArrayGet]⟩

theorem unroundedCategoricalScore_eq_mean_iff_fullWeight :
    unroundedCategoricalScore sampleCatalogue
          (fullWeightRun.responsesOf ⟨2, 1⟩) =
        .ok (mean (unroundedValues sampleCatalogue fullWeightRun 1)) ↔
      let records :=
        allRecords sampleCatalogue
          (fullWeightRun.responsesOf ⟨2, 1⟩)
      ∀ category ∈ records.map Prod.fst,
        (recordsOf category records).sum = 0 ∨
          9 * (recordsOf category records).length ≤
            (recordsOf category records).sum :=
  unroundedCategoricalScore_eq_mean_iff sampleCatalogue fullWeightRun
    sampleCategorical 1 allComparable_fullWeightRun

/-- The dashboard shows 100 where the service scores 33.33. -/
theorem fullWeight_scores_one_third :
    AllComparable sampleCatalogue fullWeightRun sampleCategorical 1 ∧
      unroundedCategoricalScore sampleCatalogue
          (fullWeightRun.responsesOf ⟨2, 1⟩) =
        .ok (some (100 / 3)) ∧
      calculateScore sampleCatalogue fullWeightRun sampleCategorical
          1 =
        .ok (some (3333 / 100)) ∧
      mean (unroundedValues sampleCatalogue fullWeightRun 1) =
        some 100 :=
  ⟨allComparable_fullWeightRun, by decide +kernel, by decide +kernel,
    by decide +kernel⟩

end SultanPass.CategoryScores
