import SultanPass.ResponseHistory

/-!
# Credit and maximum of percentile scores

Every counted response adds to two totals: the points it earned and the
maximum of its question.  Nothing in the code keeps the first below the
second: a grade has no upper bound, and a selection earns the sum of its
score values, repetitions and answers of other questions included.  The
final clamp hides the excess.

`fairlyCredited_iff` says exactly when a response set is credited fairly.
-/

namespace SultanPass.PercentileScores

open SultanPass.Library
open SultanPass.Library.Rounding
open SultanPass.AssessmentScoreService

/-! ## Totals -/

/-- The points that the responses earn. -/
def earnedPoints (catalogue : Catalogue)
    (responses : List ParticipantResponse) : ℚ :=
  ((allPoints catalogue responses).map Points.score).sum

/-- The maxima of the questions that the responses count for. -/
def possiblePoints (catalogue : Catalogue)
    (responses : List ParticipantResponse) : ℚ :=
  ((allPoints catalogue responses).map Points.max).sum

/-- The percentage before its rounding and its clamp. -/
def percentage (catalogue : Catalogue)
    (responses : List ParticipantResponse) : ℚ :=
  earnedPoints catalogue responses /
    possiblePoints catalogue responses * 100

theorem calculatePercentileScore_eq
    (catalogue : Catalogue) (responses : List ParticipantResponse)
    (idLists : ∀ response ∈ responses, HasIdList response) :
    calculatePercentileScore catalogue responses =
      .ok
        (if possiblePoints catalogue responses = 0 then none
        else
          some
            (min 100
              (max 0
                (roundHalfAway 2
                  (percentage catalogue responses))))) := by
  rw [calculatePercentileScore,
    percentileTotals_eq catalogue responses idLists]
  change Except.ok (percentileResult _) = _
  rw [percentileResult]
  by_cases none : allPoints catalogue responses = []
  · have noMaximum : possiblePoints catalogue responses = 0 := by
      simp [possiblePoints, none]
    simp [none, noMaximum]
  · by_cases noMaximum : possiblePoints catalogue responses = 0
    · have sumZero :
          ((allPoints catalogue responses).map Points.max).sum = 0 :=
        noMaximum
      simp [sumZero, noMaximum]
    · have sumNonzero :
          ((allPoints catalogue responses).map Points.max).sum ≠ 0 :=
        noMaximum
      simp only [none, sumNonzero, noMaximum, ne_eq,
        not_false_eq_true, decide_true, Bool.not_true, decide_false,
        Bool.or_self, Bool.false_eq_true, if_false]
      rfl

theorem possiblePoints_nonneg
    (catalogue : Catalogue) (responses : List ParticipantResponse) :
    0 ≤ possiblePoints catalogue responses := by
  apply List.sum_nonneg
  intro value member
  rcases List.mem_map.mp member with ⟨points, counted, rfl⟩
  exact allPoints_max_nonneg catalogue responses points counted

theorem scoreValueOf_nonneg
    (catalogue : Catalogue) (answerId : AnswerId) :
    0 ≤ scoreValueOf catalogue answerId := by
  rw [scoreValueOf]
  split
  · rename_i score last
    have listed := List.mem_of_mem_getLast? last
    exact
      catalogue.scoreValuesNonneg score (List.mem_filter.mp listed).1
  · exact le_rfl

/-- The grades that the validation of `store` admits. -/
def GradesNonneg (responses : List ParticipantResponse) : Prop :=
  ∀ response ∈ responses,
    ∀ gradedScore ∈ response.gradedScore, 0 ≤ gradedScore

theorem score_nonneg_of_pointsOf
    {catalogue : Catalogue} {response : ParticipantResponse}
    (nonneg : ∀ gradedScore ∈ response.gradedScore, 0 ≤ gradedScore)
    {points : Points}
    (counted : pointsOf catalogue response = some points) :
    0 ≤ points.score := by
  rcases exists_question_of_pointsOf counted with
    ⟨question, _, ⟨_, graded, _⟩ | ⟨_, _, score, _⟩⟩
  · exact nonneg points.score graded
  · rw [score]
    apply List.sum_nonneg
    intro value member
    rcases List.mem_map.mp member with ⟨answerId, _, rfl⟩
    exact scoreValueOf_nonneg catalogue answerId

theorem earnedPoints_nonneg
    (catalogue : Catalogue) {responses : List ParticipantResponse}
    (nonneg : GradesNonneg responses) :
    0 ≤ earnedPoints catalogue responses := by
  apply List.sum_nonneg
  intro value member
  rcases List.mem_map.mp member with ⟨points, listed, rfl⟩
  rcases List.mem_filterMap.mp listed with
    ⟨response, responseListed, counted⟩
  exact score_nonneg_of_pointsOf (nonneg response responseListed) counted

/-! ## Fair credit -/

/--
No response adds more points than it adds to the maximum, the total stays
below the maximum, the clamp at 100 is not needed, and only full marks in
every counted response make a score of 100.
-/
structure FairlyCredited (catalogue : Catalogue)
    (responses : List ParticipantResponse) : Prop where
  each :
    ∀ response ∈ responses, ∀ points,
      percentileContribution catalogue response = .ok (some points) →
        points.score ≤ points.max
  total :
    ∀ totals, percentileTotals catalogue responses = .ok totals →
      totals.totalScore ≤ totals.maxPossibleScore
  unclamped :
    ∀ totals, percentileTotals catalogue responses = .ok totals →
      totals.maxPossibleScore ≠ 0 →
        roundHalfAway 2
          (totals.totalScore / totals.maxPossibleScore * 100) ≤ 100
  full :
    calculatePercentileScore catalogue responses = .ok (some 100) →
      ∀ response ∈ responses, ∀ points,
        percentileContribution catalogue response =
            .ok (some points) →
          points.score = points.max

/--
Every grade is at most the maximum of its question, every selection is worth
at most the maximum of its question, and the points missed in all are none
or more than 1/20000 of the maximum, so that rounding does not hide them.
-/
structure WithinMaxima (catalogue : Catalogue)
    (responses : List ParticipantResponse) : Prop where
  grades :
    ∀ response ∈ responses, ∀ question,
      catalogue.question? response.questionId = some question →
        question.questionType = .written →
          ∀ gradedScore ∈ response.gradedScore,
            gradedScore ≤ question.maxScore.getD 0
  selections :
    ∀ response ∈ responses, ∀ question,
      catalogue.question? response.questionId = some question →
        question.questionType = .mcq →
          selectedIds response ≠ [] →
            ((selectedIds response).map
                (scoreValueOf catalogue)).sum ≤
              mcqMaxScore catalogue question
  missed :
    possiblePoints catalogue responses =
        earnedPoints catalogue responses ∨
      possiblePoints catalogue responses <
        20000 *
          (possiblePoints catalogue responses -
            earnedPoints catalogue responses)

/-- Bounded grades and selections are bounded contributions. -/
theorem points_le_iff
    (catalogue : Catalogue) (response : ParticipantResponse) :
    (∀ points, pointsOf catalogue response = some points →
        points.score ≤ points.max) ↔
      (∀ question,
        catalogue.question? response.questionId = some question →
          question.questionType = .written →
            ∀ gradedScore ∈ response.gradedScore,
              gradedScore ≤ question.maxScore.getD 0) ∧
        ∀ question,
          catalogue.question? response.questionId = some question →
            question.questionType = .mcq →
              selectedIds response ≠ [] →
                ((selectedIds response).map
                    (scoreValueOf catalogue)).sum ≤
                  mcqMaxScore catalogue question := by
  constructor
  · intro bounded
    constructor
    · intro question found kind gradedScore graded
      apply bounded { score := gradedScore, max := _ }
      rw [pointsOf_of_written found kind, graded]
      rfl
    · intro question found kind selected
      have counted := pointsOf_of_mcq found kind
      rw [if_neg selected] at counted
      have within := bounded _ counted
      exact within
  · rintro ⟨grades, selections⟩ points counted
    rcases exists_question_of_pointsOf counted with
      ⟨question, found,
        ⟨kind, graded, max⟩ | ⟨kind, selected, score, max⟩⟩
    · rw [max]
      exact grades question found kind points.score graded
    · rw [score, max]
      exact selections question found kind selected

theorem earnedPoints_le
    {catalogue : Catalogue} {responses : List ParticipantResponse}
    (bounded : ∀ points ∈ allPoints catalogue responses,
      points.score ≤ points.max) :
    earnedPoints catalogue responses ≤
      possiblePoints catalogue responses :=
  List.sum_le_sum bounded

/-- A bounded total rounds to 100 when at most 1/20000 is missed. -/
theorem hundred_le_percentage_iff
    {catalogue : Catalogue} {responses : List ParticipantResponse}
    (nonneg : GradesNonneg responses)
    (possible : possiblePoints catalogue responses ≠ 0) :
    100 ≤ roundHalfAway 2 (percentage catalogue responses) ↔
      20000 *
          (possiblePoints catalogue responses -
            earnedPoints catalogue responses) ≤
        possiblePoints catalogue responses := by
  have positive : 0 < possiblePoints catalogue responses :=
    lt_of_le_of_ne (possiblePoints_nonneg catalogue responses)
      (Ne.symm possible)
  have percentageNonneg : 0 ≤ percentage catalogue responses := by
    have earned := earnedPoints_nonneg catalogue nonneg
    rw [percentage]
    positivity
  have rounded :=
    natCast_le_roundHalfAway_iff 2 100 percentageNonneg
  push_cast at rounded
  rw [rounded, percentage, div_mul_eq_mul_div, le_div_iff₀ positive]
  constructor <;> intro ordered <;> linarith

theorem percentage_le_hundred
    {catalogue : Catalogue} {responses : List ParticipantResponse}
    (bounded :
      earnedPoints catalogue responses ≤
        possiblePoints catalogue responses)
    (possible : possiblePoints catalogue responses ≠ 0) :
    roundHalfAway 2 (percentage catalogue responses) ≤ 100 := by
  have positive : 0 < possiblePoints catalogue responses :=
    lt_of_le_of_ne (possiblePoints_nonneg catalogue responses)
      (Ne.symm possible)
  have below : percentage catalogue responses ≤ (100 : ℕ) := by
    rw [percentage, div_mul_eq_mul_div, div_le_iff₀ positive]
    push_cast
    linarith
  have rounded := roundHalfAway_le_natCast 2 100 below
  push_cast at rounded
  exact rounded

/-- Without over-credit a score of 100 means at most 1/20000 missed. -/
theorem calculatePercentileScore_eq_hundred_iff
    {catalogue : Catalogue} {responses : List ParticipantResponse}
    (idLists : ∀ response ∈ responses, HasIdList response)
    (nonneg : GradesNonneg responses) :
    calculatePercentileScore catalogue responses = .ok (some 100) ↔
      possiblePoints catalogue responses ≠ 0 ∧
        20000 *
            (possiblePoints catalogue responses -
              earnedPoints catalogue responses) ≤
          possiblePoints catalogue responses := by
  rw [calculatePercentileScore_eq catalogue responses idLists,
    Except.ok.injEq]
  by_cases possible : possiblePoints catalogue responses = 0
  · simp [possible]
  · rw [if_neg possible, Option.some.injEq,
      ← hundred_le_percentage_iff nonneg possible]
    generalize roundHalfAway 2 (percentage catalogue responses) =
      rounded
    constructor
    · intro equal
      refine ⟨possible, ?_⟩
      by_contra below
      rw [not_le] at below
      have smaller : max 0 rounded < 100 :=
        max_lt (by norm_num) below
      rw [min_eq_right smaller.le] at equal
      exact smaller.ne equal
    · rintro ⟨_, above⟩
      exact min_eq_left (above.trans (le_max_right 0 rounded))

/-- The points of the responses, met one by one or all together. -/
theorem forall_allPoints_iff
    (catalogue : Catalogue) (responses : List ParticipantResponse)
    (holds : Points → Prop) :
    (∀ points ∈ allPoints catalogue responses, holds points) ↔
      ∀ response ∈ responses, ∀ points,
        pointsOf catalogue response = some points → holds points := by
  constructor
  · intro all response member points counted
    exact
      all points (List.mem_filterMap.mpr ⟨response, member, counted⟩)
  · intro all points member
    rcases List.mem_filterMap.mp member with
      ⟨response, responseMember, counted⟩
    exact all response responseMember points counted

theorem forall_contribution_iff
    (catalogue : Catalogue) {responses : List ParticipantResponse}
    (idLists : ∀ response ∈ responses, HasIdList response)
    (holds : Points → Prop) :
    (∀ response ∈ responses, ∀ points,
        percentileContribution catalogue response =
            .ok (some points) →
          holds points) ↔
      ∀ response ∈ responses, ∀ points,
        pointsOf catalogue response = some points → holds points := by
  apply forall₂_congr
  intro response member
  rw [percentileContribution_eq catalogue (idLists response member)]
  simp only [Except.ok.injEq]

theorem allPoints_le_iff
    (catalogue : Catalogue) (responses : List ParticipantResponse) :
    (∀ points ∈ allPoints catalogue responses,
        points.score ≤ points.max) ↔
      (∀ response ∈ responses, ∀ question,
        catalogue.question? response.questionId = some question →
          question.questionType = .written →
            ∀ gradedScore ∈ response.gradedScore,
              gradedScore ≤ question.maxScore.getD 0) ∧
        ∀ response ∈ responses, ∀ question,
          catalogue.question? response.questionId = some question →
            question.questionType = .mcq →
              selectedIds response ≠ [] →
                ((selectedIds response).map
                    (scoreValueOf catalogue)).sum ≤
                  mcqMaxScore catalogue question := by
  rw [forall_allPoints_iff, ← forall₂_and]
  apply forall₂_congr
  intro response _
  exact points_le_iff catalogue response

/-- Responses are credited fairly exactly within these maxima. -/
theorem fairlyCredited_iff
    (catalogue : Catalogue) (responses : List ParticipantResponse)
    (idLists : ∀ response ∈ responses, HasIdList response)
    (nonneg : GradesNonneg responses) :
    FairlyCredited catalogue responses ↔
      WithinMaxima catalogue responses := by
  have totalsEqual :=
    percentileTotals_eq catalogue responses idLists
  constructor
  · intro fair
    have bounded :
        ∀ points ∈ allPoints catalogue responses,
          points.score ≤ points.max :=
      (forall_allPoints_iff catalogue responses _).mpr
        ((forall_contribution_iff catalogue idLists _).mp fair.each)
    have maxima := (allPoints_le_iff catalogue responses).mp bounded
    refine
      { grades := maxima.1, selections := maxima.2, missed := ?_ }
    by_contra hidden
    rw [not_or, not_lt] at hidden
    have ordered := earnedPoints_le bounded
    have possible : possiblePoints catalogue responses ≠ 0 := by
      intro zero
      have earned := earnedPoints_nonneg catalogue nonneg
      exact hidden.1 (by linarith)
    have full :=
      fair.full
        ((calculatePercentileScore_eq_hundred_iff idLists nonneg).mpr
          ⟨possible, hidden.2⟩)
    have equal :
        ∀ points ∈ allPoints catalogue responses,
          points.score = points.max :=
      (forall_allPoints_iff catalogue responses _).mpr
        ((forall_contribution_iff catalogue idLists _).mp full)
    apply hidden.1
    rw [possiblePoints, earnedPoints, List.map_congr_left equal]
  · intro within
    have bounded :
        ∀ points ∈ allPoints catalogue responses,
          points.score ≤ points.max :=
      (allPoints_le_iff catalogue responses).mpr
        ⟨within.grades, within.selections⟩
    have ordered := earnedPoints_le bounded
    refine
      { each := ?_, total := ?_, unclamped := ?_, full := ?_ }
    · exact
        (forall_contribution_iff catalogue idLists _).mpr
          ((forall_allPoints_iff catalogue responses _).mp bounded)
    · intro totals computed
      rw [totalsEqual] at computed
      cases computed
      exact ordered
    · intro totals computed possible
      rw [totalsEqual] at computed
      cases computed
      exact percentage_le_hundred ordered possible
    · intro hundred
      have close :=
        ((calculatePercentileScore_eq_hundred_iff idLists
          nonneg).mp hundred).2
      have equal :
          possiblePoints catalogue responses =
            earnedPoints catalogue responses := by
        rcases within.missed with equal | missed
        · exact equal
        · exact (missed.not_ge close).elim
      have all :
          ∀ points ∈ allPoints catalogue responses,
            points.score = points.max :=
        (sum_map_eq_sum_map_iff _ Points.score Points.max
          bounded).mp equal.symm
      exact
        (forall_contribution_iff catalogue idLists
            fun points => points.score = points.max).mpr
          ((forall_allPoints_iff catalogue responses _).mp all)

/-! ## One grade above its maximum -/

/-- One text is graded with twice its maximum, the other with nothing. -/
def overgradedResponses : List ParticipantResponse :=
  (sampleRun .jsonEncoded
    [.storeResponse (sampleText 2 "a" .next),
      .storeResponse (sampleText 3 "b" .submit),
      .grade (sampleGrades [(2, some 20), (3, some 0)])]).responsesOf
    ⟨1, 1⟩

theorem overgradedResponses_eq :
    overgradedResponses =
      [{ editedResponse with
          writtenResponseText := some "a"
          gradedScore := some 20 },
        { editedResponse with
          questionId := 3
          writtenResponseText := some "b"
          gradedScore := some 0 }] := by
  decide +kernel

theorem hasIdList_overgraded :
    ∀ response ∈ overgradedResponses, HasIdList response := by
  rw [overgradedResponses_eq]
  intro response member
  refine ⟨[], ?_⟩
  simp only [List.mem_cons, List.not_mem_nil, or_false] at member
  rcases member with rfl | rfl <;> rfl

theorem gradesNonneg_overgraded :
    GradesNonneg overgradedResponses := by
  rw [overgradedResponses_eq]
  intro response member
  simp only [List.mem_cons, List.not_mem_nil, or_false] at member
  rcases member with rfl | rfl <;>
    simp

theorem fairlyCredited_iff_overgraded :
    FairlyCredited sampleCatalogue overgradedResponses ↔
      WithinMaxima sampleCatalogue overgradedResponses :=
  fairlyCredited_iff sampleCatalogue overgradedResponses
    hasIdList_overgraded gradesNonneg_overgraded

/-- A grade of 20 out of 10 makes up for a grade of 0 out of 10. -/
theorem overgraded_is_unfair :
    overgradedResponses.map (percentileContribution sampleCatalogue) =
        [.ok (some { score := 20, max := 10 }),
          .ok (some { score := 0, max := 10 })] ∧
      calculatePercentileScore sampleCatalogue overgradedResponses =
        .ok (some 100) ∧
      ¬ FairlyCredited sampleCatalogue overgradedResponses := by
  have contributions :
      overgradedResponses.map
          (percentileContribution sampleCatalogue) =
        [.ok (some { score := 20, max := 10 }),
          .ok (some { score := 0, max := 10 })] := by
    decide +kernel
  refine ⟨contributions, by decide +kernel, ?_⟩
  intro fair
  have listed :
      Except.ok (some { score := 20, max := 10 }) ∈
        overgradedResponses.map
          (percentileContribution sampleCatalogue) := by
    rw [contributions]
    exact List.mem_cons_self
  rcases List.mem_map.mp listed with ⟨response, member, counted⟩
  have bounded := fair.each response member _ counted
  norm_num at bounded

end SultanPass.PercentileScores
