import SultanPass.AssessmentScoreService
import SultanPass.Library.ExceptLoop
import Mathlib.Tactic.Positivity
import Mathlib.Tactic.Linarith
import Mathlib.Tactic.Ring

/-!
# Scores of responses with id-list selections

When every selection is an id list, or absent, no scoring loop raises.  This
module replaces the loops by sums in that case: `pointsOf` and `recordsOf`
are the contributions of one response, `percentileTotals_eq` and
`categoryTotals_eq` the accumulated totals.

`Counted` singles out the responses that a score can rest on.  The last
theorem, `scoreFrom_eq_none_iff`, says that a score is null exactly when no
response is counted.
-/

namespace SultanPass.AssessmentScoreService

open SultanPass.Library
open SultanPass.Library.OrderedMap
open SultanPass.Library.Rounding

/-! ## Contributions of one response -/

/-- The selection is an id list, or absent. -/
def HasIdList (response : ParticipantResponse) : Prop :=
  ∃ answerIds,
    PhpValue.orEmptyList response.selectedAnswerIds = .list answerIds

/-- The selected ids, empty for a value that is no list. -/
def selectedIds (response : ParticipantResponse) : List AnswerId :=
  match PhpValue.orEmptyList response.selectedAnswerIds with
  | .list answerIds => answerIds
  | _ => []

theorem HasIdList.orEmptyList_eq
    {response : ParticipantResponse} (idList : HasIdList response) :
    PhpValue.orEmptyList response.selectedAnswerIds =
      .list (selectedIds response) := by
  rcases idList with ⟨answerIds, equal⟩
  simp only [selectedIds, equal]

/-- What a response with an id list adds to the percentile totals. -/
def pointsOf (catalogue : Catalogue) (response : ParticipantResponse) :
    Option Points :=
  match catalogue.question? response.questionId with
  | none => none
  | some question =>
      match question.questionType with
      | .written =>
          response.gradedScore.map fun gradedScore =>
            { score := gradedScore
              max := question.maxScore.getD 0 }
      | .mcq =>
          if selectedIds response = [] then none
          else
            some
              { score :=
                  ((selectedIds response).map
                    (scoreValueOf catalogue)).sum
                max := mcqMaxScore catalogue question }

/-- The weights that a response with an id list adds. -/
def recordsOfResponse (catalogue : Catalogue)
    (response : ParticipantResponse) : List (CategoryId × ℚ) :=
  match catalogue.question? response.questionId with
  | none => []
  | some question =>
      match question.questionType with
      | .written => gradedRecords response.gradedCategories
      | .mcq =>
          if selectedIds response = [] then []
          else weightsOf catalogue (selectedIds response)

theorem pointsOf_of_written
    {catalogue : Catalogue} {response : ParticipantResponse}
    {question : AssessmentQuestion}
    (found : catalogue.question? response.questionId = some question)
    (kind : question.questionType = .written) :
    pointsOf catalogue response =
      response.gradedScore.map fun gradedScore =>
        { score := gradedScore
          max := question.maxScore.getD 0 } := by
  rw [pointsOf, found]
  dsimp only
  rw [kind]

theorem pointsOf_of_mcq
    {catalogue : Catalogue} {response : ParticipantResponse}
    {question : AssessmentQuestion}
    (found : catalogue.question? response.questionId = some question)
    (kind : question.questionType = .mcq) :
    pointsOf catalogue response =
      if selectedIds response = [] then none
      else
        some
          { score :=
              ((selectedIds response).map
                (scoreValueOf catalogue)).sum
            max := mcqMaxScore catalogue question } := by
  rw [pointsOf, found]
  dsimp only
  rw [kind]

/-- What counts is the grade of a text or a selection that is not empty. -/
theorem exists_question_of_pointsOf
    {catalogue : Catalogue} {response : ParticipantResponse}
    {points : Points}
    (counted : pointsOf catalogue response = some points) :
    ∃ question,
      catalogue.question? response.questionId = some question ∧
        ((question.questionType = .written ∧
            response.gradedScore = some points.score ∧
            points.max = question.maxScore.getD 0) ∨
          (question.questionType = .mcq ∧
            selectedIds response ≠ [] ∧
            points.score =
              ((selectedIds response).map (scoreValueOf catalogue)).sum ∧
            points.max = mcqMaxScore catalogue question)) := by
  cases found : catalogue.question? response.questionId with
  | none => simp [pointsOf, found] at counted
  | some question =>
      refine ⟨question, rfl, ?_⟩
      cases kind : question.questionType with
      | written =>
          rw [pointsOf_of_written found kind,
            Option.map_eq_some_iff] at counted
          rcases counted with ⟨gradedScore, graded, rfl⟩
          exact .inl ⟨rfl, graded, rfl⟩
      | mcq =>
          rw [pointsOf_of_mcq found kind] at counted
          split_ifs at counted with empty
          cases counted
          exact .inr ⟨rfl, empty, rfl, rfl⟩

theorem recordsOfResponse_of_written
    {catalogue : Catalogue} {response : ParticipantResponse}
    {question : AssessmentQuestion}
    (found : catalogue.question? response.questionId = some question)
    (kind : question.questionType = .written) :
    recordsOfResponse catalogue response =
      gradedRecords response.gradedCategories := by
  rw [recordsOfResponse, found]
  dsimp only
  rw [kind]

theorem recordsOfResponse_of_mcq
    {catalogue : Catalogue} {response : ParticipantResponse}
    {question : AssessmentQuestion}
    (found : catalogue.question? response.questionId = some question)
    (kind : question.questionType = .mcq) :
    recordsOfResponse catalogue response =
      if selectedIds response = [] then []
      else weightsOf catalogue (selectedIds response) := by
  rw [recordsOfResponse, found]
  dsimp only
  rw [kind]

theorem calculateMCQScore_eq
    (catalogue : Catalogue) {response : ParticipantResponse}
    (question : AssessmentQuestion) (idList : HasIdList response) :
    calculateMCQScore catalogue response question =
      .ok (if selectedIds response = [] then none
        else
          some
            { score :=
                ((selectedIds response).map
                  (scoreValueOf catalogue)).sum
              max := mcqMaxScore catalogue question }) := by
  simp only [calculateMCQScore, idList.orEmptyList_eq,
    PhpValue.isEmpty_list]
  by_cases empty : selectedIds response = []
  · simp [empty]
  · simp only [empty, decide_false, Bool.false_eq_true, if_false,
      PhpValue.whereInValues_list]
    rfl

theorem percentileContribution_eq
    (catalogue : Catalogue) {response : ParticipantResponse}
    (idList : HasIdList response) :
    percentileContribution catalogue response =
      .ok (pointsOf catalogue response) := by
  unfold percentileContribution pointsOf
  cases catalogue.question? response.questionId with
  | none => rfl
  | some question =>
      cases kind : question.questionType with
      | written => simp only [kind]
      | mcq =>
          simp only [kind]
          exact calculateMCQScore_eq catalogue question idList

theorem categoryRecords_eq
    (catalogue : Catalogue) {response : ParticipantResponse}
    (idList : HasIdList response) :
    categoryRecords catalogue response =
      .ok (recordsOfResponse catalogue response) := by
  unfold categoryRecords recordsOfResponse
  cases catalogue.question? response.questionId with
  | none => rfl
  | some question =>
      cases kind : question.questionType with
      | written => simp only [kind]
      | mcq =>
          simp only [kind, idList.orEmptyList_eq,
            PhpValue.isEmpty_list]
          by_cases empty : selectedIds response = []
          · simp [empty]
          · simp only [empty, decide_false, Bool.false_eq_true,
              if_false, PhpValue.whereInValues_list]
            rfl

/-! ## Accumulated totals -/

theorem foldl_percentileTotals_add
    (contributions : List (Option Points)) (totals : PercentileTotals) :
    contributions.foldl PercentileTotals.add totals =
      { totalScore :=
          totals.totalScore +
            ((contributions.filterMap id).map Points.score).sum
        maxPossibleScore :=
          totals.maxPossibleScore +
            ((contributions.filterMap id).map Points.max).sum
        hasGradedResponses :=
          totals.hasGradedResponses ||
            decide (contributions.filterMap id ≠ []) } := by
  induction contributions generalizing totals with
  | nil => simp
  | cons contribution rest induction =>
      rw [List.foldl_cons, induction]
      cases contribution with
      | none => simp [PercentileTotals.add]
      | some points => simp [PercentileTotals.add, add_assoc]

/-- The contributions that count, in the order of the responses. -/
def allPoints (catalogue : Catalogue)
    (responses : List ParticipantResponse) : List Points :=
  responses.filterMap (pointsOf catalogue)

/-- The percentile totals of responses with id lists are sums. -/
theorem percentileTotals_eq
    (catalogue : Catalogue) (responses : List ParticipantResponse)
    (idLists : ∀ response ∈ responses, HasIdList response) :
    percentileTotals catalogue responses =
      .ok
        { totalScore :=
            ((allPoints catalogue responses).map Points.score).sum
          maxPossibleScore :=
            ((allPoints catalogue responses).map Points.max).sum
          hasGradedResponses :=
            decide (allPoints catalogue responses ≠ []) } := by
  rw [percentileTotals, foldlM_eq_mapM_foldl,
    mapM_eq_ok_map _ (pointsOf catalogue) responses
      fun response member =>
        percentileContribution_eq catalogue (idLists response member)]
  change Except.ok _ = _
  rw [foldl_percentileTotals_add]
  simp [allPoints, List.filterMap_map]

/-- All weights of the responses, in the order of the loop. -/
def allRecords (catalogue : Catalogue)
    (responses : List ParticipantResponse) : List (CategoryId × ℚ) :=
  responses.flatMap (recordsOfResponse catalogue)

/-- The category totals of responses with id lists are a tally. -/
theorem categoryTotals_eq
    (catalogue : Catalogue) (responses : List ParticipantResponse)
    (idLists : ∀ response ∈ responses, HasIdList response) :
    categoryTotals catalogue responses =
      .ok (tally {} CategoryTotal.add
        (allRecords catalogue responses)) := by
  rw [categoryTotals, foldlM_eq_mapM_foldl,
    mapM_eq_ok_map _ (recordsOfResponse catalogue) responses
      fun response member =>
        categoryRecords_eq catalogue (idLists response member)]
  change Except.ok _ = _
  rw [tally, allRecords, List.flatMap, List.foldl_flatten]

theorem foldl_categoryTotal_add
    (weights : List ℚ) (entry : CategoryTotal) :
    weights.foldl CategoryTotal.add entry =
      { total := entry.total + weights.sum
        maxWeight := entry.maxWeight + 3 * weights.length } := by
  induction weights generalizing entry with
  | nil => simp
  | cons weight rest induction =>
      rw [List.foldl_cons, induction, CategoryTotal.add]
      congr 1
      · simp [add_assoc]
      · push_cast [List.length_cons]
        ring

/--
The total of a category is the sum of its recorded weights, and its maximum
is 3 for each of them.
-/
theorem mem_tally_categoryTotal_iff
    (records : List (CategoryId × ℚ)) (category : CategoryId)
    (entry : CategoryTotal) :
    (category, entry) ∈ tally {} CategoryTotal.add records ↔
      category ∈ records.map Prod.fst ∧
        entry =
          { total := (recordsOf category records).sum
            maxWeight := 3 * (recordsOf category records).length } := by
  rw [mem_tally_iff, foldl_categoryTotal_add]
  simp

theorem maxWeight_pos
    {records : List (CategoryId × ℚ)} {category : CategoryId}
    {entry : CategoryTotal}
    (member :
      (category, entry) ∈ tally {} CategoryTotal.add records) :
    0 < entry.maxWeight := by
  rcases (mem_tally_categoryTotal_iff _ _ _).mp member with
    ⟨key, rfl⟩
  have nonempty : recordsOf category records ≠ [] := by
    rw [ne_eq, recordsOf_eq_nil_iff]
    exact not_not_intro key
  have positive := List.length_pos_of_ne_nil nonempty
  have castPositive :
      (0 : ℚ) < (recordsOf category records).length := by
    exact_mod_cast positive
  simpa using castPositive

/-- Every category has a positive maximum, so the average is over all. -/
theorem averageCategoryScore_tally
    (records : List (CategoryId × ℚ)) (nonempty : records ≠ []) :
    averageCategoryScore (tally {} CategoryTotal.add records) =
      some
        (((tally {} CategoryTotal.add records).map fun entry =>
            categoryScore entry.2).sum /
          (tally {} CategoryTotal.add records).length) := by
  have totalsNonempty :
      tally {} CategoryTotal.add records ≠ [] := by
    simpa using nonempty
  have positive :
      (tally {} CategoryTotal.add records).filter
          (fun entry => 0 < entry.2.maxWeight) =
        tally {} CategoryTotal.add records := by
    rw [List.filter_eq_self]
    intro entry member
    exact decide_eq_true (maxWeight_pos member)
  rw [averageCategoryScore, if_neg totalsNonempty, positive]
  simp [totalsNonempty]

/-- Termwise ordered sums agree only termwise. -/
theorem sum_map_eq_sum_map_iff {Entry : Type}
    (entries : List Entry) (lower upper : Entry → ℚ)
    (le : ∀ entry ∈ entries, lower entry ≤ upper entry) :
    (entries.map lower).sum = (entries.map upper).sum ↔
      ∀ entry ∈ entries, lower entry = upper entry := by
  constructor
  · intro equal entry member
    by_contra different
    exact
      (List.sum_lt_sum _ _ le
        ⟨entry, member,
          lt_of_le_of_ne (le entry member) different⟩).ne equal
  · intro equal
    rw [List.map_congr_left equal]

/-! ## Counted responses -/

theorem mcqMaxScore_pos
    (catalogue : Catalogue) (question : AssessmentQuestion) :
    0 < mcqMaxScore catalogue question := by
  unfold mcqMaxScore
  dsimp only
  split_ifs with useAnswers positive positive
  · exact positive
  · norm_num
  · exact positive
  · norm_num

theorem max_nonneg_of_pointsOf
    {catalogue : Catalogue} {response : ParticipantResponse}
    {points : Points} (counted : pointsOf catalogue response = some points) :
    0 ≤ points.max := by
  unfold pointsOf at counted
  cases found : catalogue.question? response.questionId with
  | none => simp [found] at counted
  | some question =>
      have listed :=
        ((catalogue.question?_eq_some_iff _ _).mp found).1
      cases kind : question.questionType with
      | written =>
          simp only [found, kind, Option.map_eq_some_iff] at counted
          rcases counted with ⟨gradedScore, _, rfl⟩
          cases maxScore : question.maxScore with
          | none => simp
          | some value =>
              simpa using
                catalogue.maxScoresNonneg question listed value maxScore
      | mcq =>
          simp only [found, kind] at counted
          split_ifs at counted with empty
          cases counted
          exact (mcqMaxScore_pos catalogue question).le

/--
A response that the score of its assessment can rest on: in percentile mode
one that adds to the maximum, in categorical mode one that records a weight.
-/
def Counted (catalogue : Catalogue) (assessment : Assessment)
    (response : ParticipantResponse) : Prop :=
  match assessment.scoringMode with
  | .percentile =>
      ∃ points ∈ pointsOf catalogue response, 0 < points.max
  | .categorical => recordsOfResponse catalogue response ≠ []

theorem percentileResult_eq_none_iff
    (points : List Points)
    (nonneg : ∀ point ∈ points, 0 ≤ point.max) :
    percentileResult
        { totalScore := (points.map Points.score).sum
          maxPossibleScore := (points.map Points.max).sum
          hasGradedResponses := decide (points ≠ []) } = none ↔
      ∀ point ∈ points, point.max = 0 := by
  have sumZero :
      (points.map Points.max).sum = 0 ↔
        ∀ point ∈ points, point.max = 0 := by
    constructor
    · intro zero point member
      apply List.all_zero_of_le_zero_le_of_sum_eq_zero _ zero
        (List.mem_map_of_mem member)
      simpa using nonneg
    · intro zero
      apply List.sum_eq_zero
      intro value member
      rcases List.mem_map.mp member with ⟨point, pointMember, rfl⟩
      exact zero point pointMember
  rw [← sumZero]
  unfold percentileResult
  by_cases empty : points = []
  · simp [empty]
  · simp [empty]

/-! ## The score as a function of the contributions -/

/-- The score that counted points, or recorded weights, lead to. -/
def scoreFrom (assessment : Assessment) (points : List Points)
    (records : List (CategoryId × ℚ)) : Option ℚ :=
  match assessment.scoringMode with
  | .percentile =>
      percentileResult
        { totalScore := (points.map Points.score).sum
          maxPossibleScore := (points.map Points.max).sum
          hasGradedResponses := decide (points ≠ []) }
  | .categorical =>
      (averageCategoryScore
        (tally {} CategoryTotal.add records)).map (roundHalfAway 2)

/-- Scoring responses with id lists does not raise. -/
theorem scoreOf_eq
    (catalogue : Catalogue) (assessment : Assessment)
    (responses : List ParticipantResponse)
    (idLists : ∀ response ∈ responses, HasIdList response) :
    scoreOf catalogue assessment responses =
      .ok (scoreFrom assessment
        (allPoints catalogue responses)
        (allRecords catalogue responses)) := by
  unfold scoreOf scoreFrom
  by_cases empty : responses = []
  · subst responses
    cases assessment.scoringMode <;> rfl
  · rw [if_neg empty]
    cases assessment.scoringMode with
    | percentile =>
        simp only [calculatePercentileScore,
          percentileTotals_eq catalogue responses idLists]
        rfl
    | categorical =>
        simp only [calculateCategoricalScore,
          unroundedCategoricalScore,
          categoryTotals_eq catalogue responses idLists]
        rfl

theorem allPoints_max_nonneg
    (catalogue : Catalogue) (responses : List ParticipantResponse) :
    ∀ point ∈ allPoints catalogue responses, 0 ≤ point.max := by
  intro point member
  rcases List.mem_filterMap.mp member with ⟨response, _, counted⟩
  exact max_nonneg_of_pointsOf counted

/-- A score is null exactly when no response is counted. -/
theorem scoreFrom_eq_none_iff
    (catalogue : Catalogue) (assessment : Assessment)
    (responses : List ParticipantResponse) :
    scoreFrom assessment (allPoints catalogue responses)
        (allRecords catalogue responses) = none ↔
      ∀ response ∈ responses,
        ¬ Counted catalogue assessment response := by
  unfold scoreFrom Counted
  cases assessment.scoringMode with
  | percentile =>
      dsimp only
      rw [percentileResult_eq_none_iff _
        (allPoints_max_nonneg catalogue responses)]
      constructor
      · rintro zero response member ⟨points, counted, positive⟩
        have zeroMax :=
          zero points
            (List.mem_filterMap.mpr ⟨response, member, counted⟩)
        exact positive.ne' zeroMax
      · intro uncounted point member
        rcases List.mem_filterMap.mp member with
          ⟨response, responseMember, counted⟩
        by_contra positive
        exact
          uncounted response responseMember
            ⟨point, counted,
              lt_of_le_of_ne (max_nonneg_of_pointsOf counted)
                (Ne.symm positive)⟩
  | categorical =>
      dsimp only
      have recordsEmpty :
          allRecords catalogue responses = [] ↔
            ∀ response ∈ responses,
              recordsOfResponse catalogue response = [] := by
        simp [allRecords, List.flatMap_eq_nil_iff]
      by_cases none : allRecords catalogue responses = []
      · simpa [none, averageCategoryScore, tally] using
          recordsEmpty.mp none
      · rw [averageCategoryScore_tally _ none]
        simp only [Option.map_some, reduceCtorEq, ne_eq, not_not,
          false_iff]
        exact fun each => none (recordsEmpty.mpr each)

/-! ## Scores that raise -/

/-- The response can be scored without an exception. -/
def Evaluates (catalogue : Catalogue) (assessment : Assessment)
    (response : ParticipantResponse) : Prop :=
  match assessment.scoringMode with
  | .percentile =>
      ∃ contribution,
        percentileContribution catalogue response = .ok contribution
  | .categorical =>
      ∃ records, categoryRecords catalogue response = .ok records

theorem exists_ok_iff
    {Value Result : Type} (computed : Except PhpError Value)
    (finish : Value → Result) :
    (∃ result, (do
        let value ← computed
        Except.ok (finish value)) = Except.ok (ε := PhpError) result) ↔
      ∃ value, computed = .ok value := by
  cases computed with
  | error error =>
      constructor
      · rintro ⟨result, returns⟩
        cases returns
      · rintro ⟨value, returns⟩
        cases returns
  | ok value => exact ⟨fun _ => ⟨value, rfl⟩, fun _ => ⟨_, rfl⟩⟩

/-- A score can be computed exactly when every response can be scored. -/
theorem exists_scoreOf_eq_ok_iff
    (catalogue : Catalogue) (assessment : Assessment)
    (responses : List ParticipantResponse) :
    (∃ score, scoreOf catalogue assessment responses = .ok score) ↔
      ∀ response ∈ responses,
        Evaluates catalogue assessment response := by
  rw [scoreOf]
  by_cases none : responses = []
  · subst none
    exact ⟨fun _ => nofun, fun _ => ⟨Option.none, rfl⟩⟩
  · rw [if_neg none]
    unfold Evaluates
    cases assessment.scoringMode with
    | percentile =>
        have totals :
            (∃ totals,
              percentileTotals catalogue responses = .ok totals) ↔
              _ :=
          exists_foldlM_eq_ok_iff (percentileContribution catalogue)
            PercentileTotals.add responses {}
        dsimp only
        rw [← totals, calculatePercentileScore]
        exact exists_ok_iff _ _
    | categorical =>
        have totals :
            (∃ totals,
              categoryTotals catalogue responses = .ok totals) ↔
              _ :=
          exists_foldlM_eq_ok_iff (categoryRecords catalogue)
            (fun entries records =>
              records.foldl
                (fun totals record =>
                  OrderedMap.adjust record.1 {}
                    (fun entry : CategoryTotal => entry.add record.2)
                    totals)
                entries)
            responses []
        dsimp only
        rw [← totals, calculateCategoricalScore,
          unroundedCategoricalScore]
        exact (exists_ok_iff _ _).trans (exists_ok_iff _ _)

/-- A grade does not make a response raise, nor stop it from raising. -/
theorem evaluates_fill
    (catalogue : Catalogue) (assessment : Assessment)
    (columns : GradeColumns) (response : ParticipantResponse) :
    Evaluates catalogue assessment (columns.fill response) ↔
      Evaluates catalogue assessment response := by
  have sameQuestion :
      (columns.fill response).questionId = response.questionId :=
    congrArg Prod.snd (columns.key_fill response)
  have sameSelection :
      (columns.fill response).selectedAnswerIds =
        response.selectedAnswerIds := by
    rcases columns with ⟨gradedBy, gradedAt, value⟩
    cases value <;> rfl
  unfold Evaluates
  cases assessment.scoringMode with
  | percentile =>
      dsimp only
      rw [percentileContribution, percentileContribution, sameQuestion]
      cases catalogue.question? response.questionId with
      | none => exact Iff.rfl
      | some question =>
          dsimp only
          cases question.questionType with
          | written => exact ⟨fun _ => ⟨_, rfl⟩, fun _ => ⟨_, rfl⟩⟩
          | mcq =>
              dsimp only
              rw [calculateMCQScore, calculateMCQScore, sameSelection]
  | categorical =>
      dsimp only
      rw [categoryRecords, categoryRecords, sameQuestion]
      cases catalogue.question? response.questionId with
      | none => exact Iff.rfl
      | some question =>
          dsimp only
          cases question.questionType with
          | written => exact ⟨fun _ => ⟨_, rfl⟩, fun _ => ⟨_, rfl⟩⟩
          | mcq =>
              dsimp only
              rw [sameSelection]

end SultanPass.AssessmentScoreService
