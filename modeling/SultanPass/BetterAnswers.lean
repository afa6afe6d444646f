import SultanPass.ScoreOrder
import SultanPass.PercentileScores

/-!
# Better answers never lower a percentile score

Each counted response adds to the points and to the maximum, and the score
is their quotient, rounded and clamped.  Better answers to the same
questions raise the points and keep the maximum.  A further response that
earns at least its own maximum moves the quotient towards one or, when more
than the maximum was credited already, leaves it above one, where the clamp
shows 100.
-/

namespace SultanPass.BetterAnswers

open SultanPass.Library
open SultanPass.Library.Rounding
open SultanPass.AssessmentScoreService
open SultanPass.PercentileScores
open SultanPass.ScoreOrder

/-! ## Contributions -/

/--
The second response answers the same question at least as well: both are
graded or neither is, both selections are empty or neither is, and the grade
or the scores of the selection are at least as high.
-/
structure AtLeastAsGood (catalogue : Catalogue)
    (response better : ParticipantResponse) : Prop where
  sameQuestion : better.questionId = response.questionId
  grades :
    ∀ question, catalogue.question? response.questionId = some question →
      question.questionType = .written →
        Option.Rel (· ≤ ·) response.gradedScore better.gradedScore
  sameEmpty :
    ∀ question, catalogue.question? response.questionId = some question →
      question.questionType = .mcq →
        PhpValue.isEmpty
            (PhpValue.orEmptyList better.selectedAnswerIds) =
          PhpValue.isEmpty
            (PhpValue.orEmptyList response.selectedAnswerIds)
  selections :
    ∀ question, catalogue.question? response.questionId = some question →
      question.questionType = .mcq →
        ∀ answerIds,
          response.selectedAnswerIds = .list answerIds →
            ∃ betterIds,
              better.selectedAnswerIds = .list betterIds ∧
                (answerIds.map (scoreValueOf catalogue)).sum ≤
                  (betterIds.map (scoreValueOf catalogue)).sum

/-- At least as many points for the same maximum. -/
structure Improves (points better : Points) : Prop where
  score : points.score ≤ better.score
  sameMax : better.max = points.max

theorem max_nonneg_of_contribution
    {catalogue : Catalogue} {response : ParticipantResponse}
    {points : Points}
    (counted :
      percentileContribution catalogue response = .ok (some points)) :
    0 ≤ points.max := by
  rw [percentileContribution] at counted
  cases found : catalogue.question? response.questionId with
  | none =>
      rw [found] at counted
      cases counted
  | some question =>
      have listed :=
        ((catalogue.question?_eq_some_iff _ _).mp found).1
      rw [found] at counted
      dsimp only at counted
      cases kind : question.questionType with
      | written =>
          rw [kind] at counted
          change Except.ok _ = _ at counted
          rw [Except.ok.injEq, Option.map_eq_some_iff] at counted
          rcases counted with ⟨gradedScore, _, rfl⟩
          cases maxScore : question.maxScore with
          | none => exact le_rfl
          | some value =>
              exact
                catalogue.maxScoresNonneg question listed value maxScore
      | mcq =>
          rw [kind] at counted
          change calculateMCQScore catalogue response question = _
            at counted
          rw [calculateMCQScore] at counted
          split_ifs at counted with empty
          · cases counted
          · rcases bind_eq_ok_iff.mp counted with
              ⟨answerIds, _, computed⟩
            cases computed
            exact (mcqMaxScore_pos catalogue question).le

theorem calculateMCQScore_of_empty
    (catalogue : Catalogue) {response : ParticipantResponse}
    (question : AssessmentQuestion)
    (empty :
      PhpValue.isEmpty
        (PhpValue.orEmptyList response.selectedAnswerIds) = true) :
    calculateMCQScore catalogue response question = .ok none := by
  rw [calculateMCQScore]
  exact if_pos empty

theorem calculateMCQScore_of_list
    (catalogue : Catalogue) {response : ParticipantResponse}
    (question : AssessmentQuestion) {answerIds : List AnswerId}
    (selected : response.selectedAnswerIds = .list answerIds)
    (nonempty : answerIds ≠ []) :
    calculateMCQScore catalogue response question =
      .ok (some
        { score := (answerIds.map (scoreValueOf catalogue)).sum
          max := mcqMaxScore catalogue question }) := by
  rw [calculateMCQScore, selected]
  exact if_neg (by simpa using nonempty)

/-- A selection that is scored is empty or a list of ids. -/
theorem selection_of_scored
    {catalogue : Catalogue} {response : ParticipantResponse}
    {question : AssessmentQuestion} {contribution : Option Points}
    (computed :
      calculateMCQScore catalogue response question =
        .ok contribution) :
    PhpValue.isEmpty
          (PhpValue.orEmptyList response.selectedAnswerIds) = true ∨
      ∃ answerIds, response.selectedAnswerIds = .list answerIds ∧
        answerIds ≠ [] := by
  by_cases empty :
      PhpValue.isEmpty
        (PhpValue.orEmptyList response.selectedAnswerIds) = true
  · exact Or.inl empty
  · rw [calculateMCQScore] at computed
    change (if _ then _ else _) = _ at computed
    rw [if_neg empty] at computed
    rcases bind_eq_ok_iff.mp computed with ⟨bound, binds, _⟩
    apply Or.inr
    cases selected : response.selectedAnswerIds with
    | null =>
        rw [selected] at empty
        exact (empty rfl).elim
    | int number =>
        rw [selected] at binds
        cases binds
    | str text =>
        rw [selected] at binds
        cases binds
    | list answerIds =>
        refine ⟨answerIds, rfl, ?_⟩
        rintro rfl
        rw [selected] at empty
        exact empty rfl

theorem calculateMCQScore_improves
    {catalogue : Catalogue} {response better : ParticipantResponse}
    {question : AssessmentQuestion}
    (sameEmpty :
      PhpValue.isEmpty (PhpValue.orEmptyList better.selectedAnswerIds) =
        PhpValue.isEmpty
          (PhpValue.orEmptyList response.selectedAnswerIds))
    (selections : ∀ answerIds,
      response.selectedAnswerIds = .list answerIds →
        ∃ betterIds,
          better.selectedAnswerIds = .list betterIds ∧
            (answerIds.map (scoreValueOf catalogue)).sum ≤
              (betterIds.map (scoreValueOf catalogue)).sum)
    {contribution : Option Points}
    (computed :
      calculateMCQScore catalogue response question =
        .ok contribution) :
    ∃ improved,
      calculateMCQScore catalogue better question = .ok improved ∧
        Option.Rel Improves contribution improved := by
  rcases selection_of_scored computed with
    empty | ⟨answerIds, selected, nonempty⟩
  · rw [calculateMCQScore_of_empty catalogue question empty] at computed
    cases computed
    exact
      ⟨none,
        calculateMCQScore_of_empty catalogue question
          (sameEmpty.trans empty),
        Option.Rel.none⟩
  · rcases selections answerIds selected with
      ⟨betterIds, betterSelected, ordered⟩
    have betterNonempty : betterIds ≠ [] := by
      rintro rfl
      rw [selected, betterSelected] at sameEmpty
      apply nonempty
      simpa using sameEmpty.symm
    rw [calculateMCQScore_of_list catalogue question selected nonempty]
      at computed
    cases computed
    exact
      ⟨_,
        calculateMCQScore_of_list catalogue question betterSelected
          betterNonempty,
        Option.Rel.some { score := ordered, sameMax := rfl }⟩

theorem gradedPoints_improve (maximum : ℚ)
    {gradedScore better : Option ℚ}
    (ordered : Option.Rel (· ≤ ·) gradedScore better) :
    Option.Rel Improves
      (gradedScore.map fun score => { score := score, max := maximum })
      (better.map fun score => { score := score, max := maximum }) := by
  cases ordered with
  | none => exact Option.Rel.none
  | some atMost =>
      exact Option.Rel.some { score := atMost, sameMax := rfl }

/-- A response that is at least as good contributes at least as much. -/
theorem contribution_improves
    {catalogue : Catalogue} {response better : ParticipantResponse}
    (good : AtLeastAsGood catalogue response better)
    {contribution : Option Points}
    (computed :
      percentileContribution catalogue response = .ok contribution) :
    ∃ improved,
      percentileContribution catalogue better = .ok improved ∧
        Option.Rel Improves contribution improved := by
  rw [percentileContribution] at computed
  rw [percentileContribution, good.sameQuestion]
  cases found : catalogue.question? response.questionId with
  | none =>
      rw [found] at computed
      cases computed
      exact ⟨none, rfl, Option.Rel.none⟩
  | some question =>
      rw [found] at computed
      dsimp only at computed ⊢
      cases kind : question.questionType with
      | written =>
          rw [kind] at computed
          cases computed
          refine ⟨_, rfl, ?_⟩
          exact
            gradedPoints_improve (question.maxScore.getD 0)
              (good.grades question found kind)
      | mcq =>
          rw [kind] at computed
          exact
            calculateMCQScore_improves
              (good.sameEmpty question found kind)
              (good.selections question found kind) computed

/-! ## Totals -/

theorem percentileTotals_eq_ok_iff
    (catalogue : Catalogue) (responses : List ParticipantResponse)
    (totals : PercentileTotals) :
    percentileTotals catalogue responses = .ok totals ↔
      ∃ contributions,
        responses.mapM (percentileContribution catalogue) =
            .ok contributions ∧
          contributions.foldl PercentileTotals.add {} = totals := by
  rw [percentileTotals, foldlM_eq_mapM_foldl, bind_eq_ok_iff]
  simp only [Except.ok.injEq]

/-- The same maximum, and at least as many points. -/
structure TotalsImprove (totals better : PercentileTotals) : Prop where
  score : totals.totalScore ≤ better.totalScore
  sameMax : better.maxPossibleScore = totals.maxPossibleScore
  sameGraded : better.hasGradedResponses = totals.hasGradedResponses

theorem TotalsImprove.add
    {totals better : PercentileTotals}
    (improve : TotalsImprove totals better)
    {contribution improved : Option Points}
    (improves : Option.Rel Improves contribution improved) :
    TotalsImprove (totals.add contribution) (better.add improved) := by
  cases improves with
  | none => exact improve
  | some points =>
      exact
        { score := add_le_add improve.score points.score
          sameMax := by
            simp only [PercentileTotals.add, improve.sameMax,
              points.sameMax]
          sameGraded := rfl }

theorem TotalsImprove.foldl
    {contributions improved : List (Option Points)}
    (each :
      List.Forall₂ (Option.Rel Improves) contributions improved)
    {totals better : PercentileTotals}
    (improve : TotalsImprove totals better) :
    TotalsImprove (contributions.foldl PercentileTotals.add totals)
      (improved.foldl PercentileTotals.add better) := by
  induction each generalizing totals better with
  | nil => exact improve
  | cons first _ induction => exact induction (improve.add first)

/-- Better answers, in any order, improve the totals. -/
theorem percentileTotals_improve
    {catalogue : Catalogue} {first second : List ParticipantResponse}
    (better : Reordered (AtLeastAsGood catalogue) first second)
    {totals : PercentileTotals}
    (computed : percentileTotals catalogue first = .ok totals) :
    ∃ improved,
      percentileTotals catalogue second = .ok improved ∧
        TotalsImprove totals improved := by
  rcases (percentileTotals_eq_ok_iff _ _ _).mp computed with
    ⟨contributions, returns, rfl⟩
  rcases better.mapM_eq_ok
      (fun _ _ _ good => contribution_improves good) returns with
    ⟨improved, returnsBetter, middle, moved, each⟩
  refine
    ⟨improved.foldl PercentileTotals.add {},
      (percentileTotals_eq_ok_iff _ _ _).mpr
        ⟨improved, returnsBetter, rfl⟩, ?_⟩
  rw [moved.foldl_eq'
    fun first _ second _ totals =>
      percentileTotals_add_comm totals first second]
  exact
    TotalsImprove.foldl each
      { score := le_rfl, sameMax := rfl, sameGraded := rfl }

/-- A further response adds its contribution, wherever it stands. -/
theorem percentileTotals_insert
    (catalogue : Catalogue)
    {before after : List ParticipantResponse}
    {further : ParticipantResponse} {contribution : Option Points}
    (counted :
      percentileContribution catalogue further = .ok contribution)
    {totals : PercentileTotals}
    (computed :
      percentileTotals catalogue (before ++ after) = .ok totals) :
    percentileTotals catalogue (before ++ further :: after) =
      .ok (totals.add contribution) := by
  rcases (percentileTotals_eq_ok_iff _ _ _).mp computed with
    ⟨contributions, returns, rfl⟩
  have atTheEnd :
      percentileTotals catalogue ((before ++ after) ++ [further]) =
        .ok ((contributions.foldl PercentileTotals.add {}).add
          contribution) := by
    apply (percentileTotals_eq_ok_iff _ _ _).mpr
    refine ⟨contributions ++ [contribution], ?_, ?_⟩
    · rw [List.mapM_append, returns, List.mapM_cons, counted]
      rfl
    · rw [List.foldl_append]
      rfl
  apply percentileTotals_eq_ok_of_reordered catalogue _ atTheEnd
  have moved :
      ((before ++ after) ++ [further]).Perm
        (before ++ further :: after) := by
    rw [List.append_assoc]
    exact List.Perm.append_left before List.perm_append_comm
  exact Reordered.of_perm_of_refl SameUpToKeyOrder.refl moved

theorem maxPossibleScore_nonneg
    {catalogue : Catalogue} {responses : List ParticipantResponse}
    {totals : PercentileTotals}
    (computed : percentileTotals catalogue responses = .ok totals) :
    0 ≤ totals.maxPossibleScore := by
  rw [percentileTotals] at computed
  apply
    foldlM_invariant _
      (fun totals : PercentileTotals => 0 ≤ totals.maxPossibleScore)
      ?_ computed le_rfl
  intro response totals after nonneg stepped
  rcases bind_eq_ok_iff.mp stepped with
    ⟨contribution, evaluated, ⟨⟩⟩
  cases contribution with
  | none => exact nonneg
  | some points =>
      exact add_nonneg nonneg (max_nonneg_of_contribution evaluated)

/-! ## Scores -/

/-- The score of some totals: their rounded and clamped quotient. -/
theorem percentileResult_eq_some_iff
    (totals : PercentileTotals) (score : ℚ) :
    percentileResult totals = some score ↔
      totals.hasGradedResponses = true ∧
        totals.maxPossibleScore ≠ 0 ∧
        score =
          min 100
            (max 0
              (roundHalfAway 2
                (totals.totalScore / totals.maxPossibleScore *
                  100))) := by
  rw [percentileResult]
  by_cases graded : totals.hasGradedResponses = true
  · by_cases noMaximum : totals.maxPossibleScore = 0
    · simp [graded, noMaximum]
    · simp [graded, noMaximum, eq_comm]
  · simp [graded]

/-- Clamping and rounding keep the order. -/
theorem clamped_mono {left right : ℚ} (ordered : left ≤ right) :
    min 100 (max 0 (roundHalfAway 2 left)) ≤
      min (100 : ℚ) (max 0 (roundHalfAway 2 right)) :=
  min_le_min_left _ (max_le_max_left _ (roundHalfAway_mono 2 ordered))

theorem percentileResult_mono
    {totals better : PercentileTotals}
    (improve : TotalsImprove totals better)
    (nonneg : 0 ≤ totals.maxPossibleScore) {score : ℚ}
    (computed : percentileResult totals = some score) :
    ∃ higher, percentileResult better = some higher ∧
      score ≤ higher := by
  rcases (percentileResult_eq_some_iff _ _).mp computed with
    ⟨graded, possible, rfl⟩
  refine
    ⟨_,
      (percentileResult_eq_some_iff _ _).mpr
        ⟨improve.sameGraded.trans graded,
          improve.sameMax ▸ possible, rfl⟩,
      clamped_mono ?_⟩
  rw [improve.sameMax]
  have quotients :=
    div_le_div_of_nonneg_right improve.score nonneg
  linarith

/-- A further full contribution moves the score up, or leaves it at 100. -/
theorem percentileResult_add
    {totals : PercentileTotals} {points : Points}
    (nonneg : 0 ≤ totals.maxPossibleScore)
    (pointsNonneg : 0 ≤ points.max)
    (full : points.max ≤ points.score) {score : ℚ}
    (computed : percentileResult totals = some score) :
    ∃ higher,
      percentileResult (totals.add (some points)) = some higher ∧
        score ≤ higher := by
  rcases (percentileResult_eq_some_iff _ _).mp computed with
    ⟨graded, possible, rfl⟩
  have positive : 0 < totals.maxPossibleScore :=
    lt_of_le_of_ne nonneg (Ne.symm possible)
  have enlarged :
      0 < totals.maxPossibleScore + points.max := by
    linarith
  refine
    ⟨_,
      (percentileResult_eq_some_iff _ _).mpr
        ⟨rfl, enlarged.ne', rfl⟩, ?_⟩
  change _ ≤
    min 100
      (max 0
        (roundHalfAway 2
          ((totals.totalScore + points.score) /
            (totals.maxPossibleScore + points.max) * 100)))
  rcases le_total totals.totalScore totals.maxPossibleScore with
    within | credited
  · apply clamped_mono
    have quotients :
        totals.totalScore / totals.maxPossibleScore ≤
          (totals.totalScore + points.score) /
            (totals.maxPossibleScore + points.max) := by
      rw [div_le_div_iff₀ positive enlarged]
      have weighted :
          totals.totalScore * points.max ≤
            totals.maxPossibleScore * points.score :=
        (mul_le_mul_of_nonneg_right within pointsNonneg).trans
          (mul_le_mul_of_nonneg_left full positive.le)
      linarith
    linarith
  · have above :
        ((100 : ℕ) : ℚ) ≤
          (totals.totalScore + points.score) /
            (totals.maxPossibleScore + points.max) * 100 := by
      have atLeastOne :
          1 ≤
            (totals.totalScore + points.score) /
              (totals.maxPossibleScore + points.max) := by
        rw [le_div_iff₀ enlarged]
        linarith
      push_cast
      linarith
    have full :=
      (roundHalfAway_natCast 2 100).symm.le.trans
        (roundHalfAway_mono 2 above)
    push_cast at full
    rw [min_eq_left (full.trans (le_max_right _ _))]
    exact min_le_left _ _

/-! ## Better answers and further answers -/

/--
Better answers to the same questions, in any order, never lower a score that
is not null; nor does a further response, at any place, that earns at least
the maximum it adds.
-/
theorem better_answers_never_lower (catalogue : Catalogue) :
    (∀ first second,
        Reordered (AtLeastAsGood catalogue) first second →
          ∀ score,
            calculatePercentileScore catalogue first =
                .ok (some score) →
              ∃ higher,
                calculatePercentileScore catalogue second =
                    .ok (some higher) ∧
                  score ≤ higher) ∧
      ∀ before after further points,
        percentileContribution catalogue further =
            .ok (some points) →
          points.max ≤ points.score →
            ∀ score,
              calculatePercentileScore catalogue (before ++ after) =
                  .ok (some score) →
                ∃ higher,
                  calculatePercentileScore catalogue
                      (before ++ further :: after) =
                      .ok (some higher) ∧
                    score ≤ higher := by
  constructor
  · intro first second better score computed
    rcases bind_eq_ok_iff.mp computed with
      ⟨totals, computedTotals, scored⟩
    rw [Except.ok.injEq] at scored
    rcases percentileTotals_improve better computedTotals with
      ⟨improved, computedImproved, improve⟩
    rcases percentileResult_mono improve
        (maxPossibleScore_nonneg computedTotals) scored with
      ⟨higher, scoredHigher, ordered⟩
    refine ⟨higher, ?_, ordered⟩
    rw [calculatePercentileScore, computedImproved]
    exact congrArg Except.ok scoredHigher
  · intro before after further points counted full score computed
    rcases bind_eq_ok_iff.mp computed with
      ⟨totals, computedTotals, scored⟩
    rw [Except.ok.injEq] at scored
    rcases percentileResult_add
        (maxPossibleScore_nonneg computedTotals)
        (max_nonneg_of_contribution counted) full scored with
      ⟨higher, scoredHigher, ordered⟩
    refine ⟨higher, ?_, ordered⟩
    rw [calculatePercentileScore,
      percentileTotals_insert catalogue counted computedTotals]
    exact congrArg Except.ok scoredHigher

/-- An answered choice question. -/
def chosenRow (answerIds : List ℤ) : ParticipantResponse where
  assessmentId := 1
  participantId := 1
  questionId := 1
  selectedAnswerIdsColumn := castArraySet (.list answerIds)
  writtenResponseText := none
  gradedScore := none
  gradedCategories := none
  gradedBy := none
  gradedAt := none

/-- A graded text. -/
def gradedTextRow (questionId : QuestionId) (gradedScore : ℚ) :
    ParticipantResponse where
  assessmentId := 1
  participantId := 1
  questionId := questionId
  selectedAnswerIdsColumn := none
  writtenResponseText := some "a"
  gradedScore := some gradedScore
  gradedCategories := none
  gradedBy := some 2
  gradedAt := some 1

theorem atLeastAsGood_choice :
    AtLeastAsGood sampleCatalogue (chosenRow [2]) (chosenRow [1]) where
  sameQuestion := rfl
  grades := by
    intro question found kind
    exact Option.Rel.none
  sameEmpty := by
    intro question found kind
    rfl
  selections := by
    intro question found kind answerIds selected
    have listed : castArrayGet (castArraySet (.list [2])) = _ :=
      selected
    rw [castArrayGet_castArraySet] at listed
    cases listed
    exact
      ⟨[1], castArrayGet_castArraySet (.list [1]), by decide +kernel⟩

theorem atLeastAsGood_grade :
    AtLeastAsGood sampleCatalogue (gradedTextRow 2 5)
      (gradedTextRow 2 8) where
  sameQuestion := rfl
  grades := by
    intro question found kind
    exact Option.Rel.some (by norm_num)
  sameEmpty := by
    intro question found kind
    rfl
  selections := by
    intro question found kind answerIds selected
    cases selected

theorem better_answers_never_lower_sample :
    (∃ higher,
        calculatePercentileScore sampleCatalogue
            [chosenRow [1], gradedTextRow 2 8] = .ok (some higher) ∧
          25 ≤ higher) ∧
      ∃ higher,
        calculatePercentileScore sampleCatalogue
            [gradedTextRow 2 5, gradedTextRow 3 10, chosenRow [2]] =
            .ok (some higher) ∧
          25 ≤ higher := by
  constructor
  · apply
      (better_answers_never_lower sampleCatalogue).1
        [gradedTextRow 2 5, chosenRow [2]] _ _ 25 (by decide +kernel)
    exact
      ⟨[chosenRow [2], gradedTextRow 2 5], List.Perm.swap _ _ _,
        List.Forall₂.cons atLeastAsGood_choice
          (List.Forall₂.cons atLeastAsGood_grade List.Forall₂.nil)⟩
  · exact
      (better_answers_never_lower sampleCatalogue).2
        [gradedTextRow 2 5] [chosenRow [2]] (gradedTextRow 3 10)
        { score := 10, max := 10 } (by decide +kernel) le_rfl 25
        (by decide +kernel)

end SultanPass.BetterAnswers
