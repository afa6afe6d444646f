import SultanPass.EvaluationDashboards
import SultanPass.RequestHandlers
import Mathlib.Algebra.BigOperators.Ring.List
import Mathlib.Algebra.Order.BigOperators.Group.List

/-!
# Scores on the old scale

Scores below 20 are taken to be on a scale up to 10.  The command
`assessments:recalculate-scores --fix-old-scores` rewrites them in place,
the overall evaluation rescales each score, and the trends rescale the
average of a month.  The same formula `onNewScale` stands behind the three.

* `fixOldScale_stable_iff`: for which scores the rewriting stays on the new
  scale and changes nothing when it is repeated.
* `calculateOverallScore_mono`: which raised scores never lower the overall
  evaluation.
* `trend_eq_overall_of_one_scale`: for which months trend and overall
  evaluation agree.
-/

namespace SultanPass

open SultanPass.Library
open SultanPass.Library.Rounding

namespace DashboardController

theorem onNewScale_of_lt {score : ℚ} (low : score < 20) :
    onNewScale score = score * 10 :=
  if_pos low

theorem onNewScale_of_le {score : ℚ} (high : 20 ≤ score) :
    onNewScale score = score :=
  if_neg (not_lt.mpr high)

/-- A value of the scale from 0 to 100. -/
def OnScale (score : ℚ) : Prop :=
  0 ≤ score ∧ score ≤ 100

/-- Completed rows of participant 1 with the given scores. -/
def completedWith (scores : List ℚ) (updatedAt : Timestamp) :
    List AssessmentParticipant :=
  scores.map fun score =>
    { assessmentId := 1
      participantId := 1
      status := .completed
      score := some score
      updatedAt := updatedAt }

theorem scoresOf_completedWith
    (scores : List ℚ) (updatedAt : Timestamp) :
    scoresOf (scoredRows (completedWith scores updatedAt) 1) =
      scores := by
  induction scores with
  | nil => rfl
  | cons first rest induction =>
      change first :: scoresOf (scoredRows (completedWith rest _) 1) = _
      rw [induction]

end DashboardController

/-! ## Rewriting the stored scores -/

namespace RecalculateAssessmentScores

open DashboardController

/-- The command with `--fix-old-scores` alone. -/
def fixing (now : Timestamp) : Options where
  participant := none
  assessment := none
  fixOldScores := true
  now := now

/-- The database after `fixOldScaleScores`. -/
def afterFix (now : Timestamp) (database : Database) : Database :=
  (fixOldScaleScores (fixing now)).finalState database

theorem assessmentParticipants_afterFix
    (now : Timestamp) (database : Database) :
    (afterFix now database).assessmentParticipants =
      database.assessmentParticipants.map
        (AssessmentParticipant.fixOldScale now) :=
  rfl

theorem score_fixOldScale
    (now : Timestamp) (row : AssessmentParticipant) :
    (row.fixOldScale now).score = row.score.map onNewScale := by
  rw [AssessmentParticipant.fixOldScale]
  cases stored : row.score with
  | none => exact stored
  | some score =>
      rw [Option.map_some, onNewScale]
      by_cases low : score < 20
      · simp only [if_pos low]
      · simp only [if_neg low, stored]

/-- The scores that the rewriting treats well. -/
def WellRewritten (score : ℚ) : Prop :=
  score = 0 ∨ (2 ≤ score ∧ score ≤ 10) ∨ 20 ≤ score

theorem wellRewritten_iff {score : ℚ} (onScale : OnScale score) :
    (OnScale (onNewScale score) ∧
        onNewScale (onNewScale score) = onNewScale score) ↔
      WellRewritten score := by
  rcases onScale with ⟨nonneg, bounded⟩
  by_cases low : score < 20
  · rw [onNewScale_of_lt low]
    by_cases again : score * 10 < 20
    · rw [onNewScale_of_lt again]
      constructor
      · rintro ⟨_, same⟩
        exact Or.inl (by linarith)
      · rintro (zero | ⟨least, _⟩ | high)
        · subst zero
          exact ⟨⟨by norm_num, by norm_num⟩, by norm_num⟩
        · linarith
        · linarith
    · rw [onNewScale_of_le (not_lt.mp again)]
      constructor
      · rintro ⟨⟨_, within⟩, _⟩
        exact Or.inr (Or.inl ⟨by linarith, by linarith⟩)
      · rintro (zero | ⟨_, most⟩ | high)
        · linarith
        · exact ⟨⟨by linarith, by linarith⟩, rfl⟩
        · linarith
  · have high : 20 ≤ score := not_lt.mp low
    rw [onNewScale_of_le high, onNewScale_of_le high]
    exact
      ⟨fun _ => Or.inr (Or.inr high), fun _ => ⟨⟨nonneg, bounded⟩, rfl⟩⟩

/--
After the rewriting every score is on the scale and another rewriting
changes no score, exactly when no score lies between 0 and 2 or between 10
and 20.
-/
theorem fixOldScale_stable_iff
    (database : Database) (first second : Timestamp)
    (onScale :
      ∀ row ∈ database.assessmentParticipants,
        ∀ score ∈ row.score, OnScale score) :
    ((∀ row ∈ (afterFix first database).assessmentParticipants,
          ∀ score ∈ row.score, OnScale score) ∧
        (afterFix second
            (afterFix first database)).assessmentParticipants.map
            AssessmentParticipant.score =
          (afterFix first database).assessmentParticipants.map
            AssessmentParticipant.score) ↔
      ∀ row ∈ database.assessmentParticipants,
        ∀ score ∈ row.score, WellRewritten score := by
  have scoresOnce :
      (∀ row ∈ (afterFix first database).assessmentParticipants,
          ∀ score ∈ row.score, OnScale score) ↔
        ∀ row ∈ database.assessmentParticipants,
          ∀ score ∈ row.score, OnScale (onNewScale score) := by
    simp [assessmentParticipants_afterFix, score_fixOldScale]
  have scoresTwice :
      ((afterFix second
            (afterFix first database)).assessmentParticipants.map
            AssessmentParticipant.score =
          (afterFix first database).assessmentParticipants.map
            AssessmentParticipant.score) ↔
        ∀ row ∈ database.assessmentParticipants,
          ∀ score ∈ row.score,
            onNewScale (onNewScale score) = onNewScale score := by
    rw [assessmentParticipants_afterFix, assessmentParticipants_afterFix,
      List.map_map, List.map_map, List.map_map, List.map_inj_left]
    apply forall₂_congr
    intro row _
    simp only [Function.comp_apply, score_fixOldScale]
    cases row.score with
    | none => simp
    | some score => simp
  rw [scoresOnce, scoresTwice, ← forall₂_and]
  apply forall₂_congr
  intro row member
  rw [← forall₂_and]
  apply forall₂_congr
  intro score stored
  exact wellRewritten_iff (onScale row member score stored)

/-- A table with one score for each of the given ones. -/
def tableOf (scores : List ℚ) : Database where
  participantResponses := KeyedTable.empty
  assessmentParticipants := completedWith scores 0

theorem fixOldScale_stable_iff_tableOf :
    let database := tableOf [0, 2, 7, 10, 20, 100]
    ((∀ row ∈ (afterFix 1 database).assessmentParticipants,
          ∀ score ∈ row.score, OnScale score) ∧
        (afterFix 2 (afterFix 1 database)).assessmentParticipants.map
            AssessmentParticipant.score =
          (afterFix 1 database).assessmentParticipants.map
            AssessmentParticipant.score) ↔
      ∀ row ∈ database.assessmentParticipants,
        ∀ score ∈ row.score, WellRewritten score := by
  apply fixOldScale_stable_iff
  simp [tableOf, completedWith, OnScale]
  norm_num

/-- A 15 leaves the scale, and a 1 is rewritten twice. -/
theorem rewriting_leaves_scale :
    (afterFix 1 (tableOf [15, 1])).assessmentParticipants.map
          AssessmentParticipant.score =
        [some 150, some 10] ∧
      (afterFix 2
            (afterFix 1 (tableOf [15, 1]))).assessmentParticipants.map
          AssessmentParticipant.score =
        [some 150, some 100] := by
  decide +kernel

end RecalculateAssessmentScores

/-! ## The overall evaluation of raised scores -/

namespace DashboardController

theorem average_mono
    {lower upper : List ℚ}
    (ordered : List.Forall₂ (· ≤ ·) lower upper) :
    average lower ≤ average upper := by
  have sums : lower.sum ≤ upper.sum := ordered.sum_le_sum
  rw [average, average, ordered.length_eq]
  exact div_le_div_of_nonneg_right sums (Nat.cast_nonneg _)

/--
A score is raised, and not from below 20 to a score of at least 20 that is
less than ten times as much.
-/
def Raised (lower upper : ℚ) : Prop :=
  lower ≤ upper ∧
    ¬(lower < 20 ∧ 20 ≤ upper ∧ upper < lower * 10)

theorem onNewScale_le_of_raised
    {lower upper : ℚ} (raised : Raised lower upper) :
    onNewScale lower ≤ onNewScale upper := by
  rcases raised with ⟨ordered, fair⟩
  by_cases lowerLow : lower < 20
  · rw [onNewScale_of_lt lowerLow]
    by_cases upperLow : upper < 20
    · rw [onNewScale_of_lt upperLow]
      linarith
    · have high : 20 ≤ upper := not_lt.mp upperLow
      rw [onNewScale_of_le high]
      exact not_lt.mp fun less => fair ⟨lowerLow, high, less⟩
  · have lowerHigh : 20 ≤ lower := not_lt.mp lowerLow
    rw [onNewScale_of_le lowerHigh,
      onNewScale_of_le (lowerHigh.trans ordered)]
    exact ordered

theorem overallScore_mono
    {lower upper : List ℚ}
    (raised : List.Forall₂ Raised lower upper) :
    overallScore lower ≤ overallScore upper := by
  have rescaled :
      List.Forall₂ (· ≤ ·) (lower.map onNewScale)
        (upper.map onNewScale) := by
    rw [List.forall₂_map_left_iff, List.forall₂_map_right_iff]
    exact raised.imp fun _ _ => onNewScale_le_of_raised
  have rounded :=
    roundHalfAway_mono 2 (average_mono rescaled)
  rw [overallScore, overallScore]
  cases raised with
  | nil => exact le_rfl
  | cons first rest =>
      rw [if_neg (List.cons_ne_nil _ _),
        if_neg (List.cons_ne_nil _ _)]
      exact min_le_min le_rfl (max_le_max le_rfl rounded)

/-- Raised scores never lower the overall evaluation. -/
theorem calculateOverallScore_mono
    (before after : List AssessmentParticipant) (participant : UserId)
    (raised :
      List.Forall₂ Raised
        (scoresOf (scoredRows before participant))
        (scoresOf (scoredRows after participant))) :
    calculateOverallScore before participant ≤
      calculateOverallScore after participant :=
  overallScore_mono raised

theorem calculateOverallScore_mono_completedWith :
    calculateOverallScore (completedWith [3, 19, 20] 0) 1 ≤
      calculateOverallScore (completedWith [30, 19, 45] 0) 1 := by
  apply calculateOverallScore_mono
  rw [scoresOf_completedWith, scoresOf_completedWith]
  simp [Raised]
  norm_num

/-- A better result lowers the evaluation from 100 to 20. -/
theorem better_score_lowers_evaluation :
    calculateOverallScore (completedWith [19] 0) 1 = 100 ∧
      calculateOverallScore (completedWith [20] 0) 1 = 20 := by
  decide +kernel

/-! ## Trends and overall evaluation of one month -/

/-- The sum of the scores below 20. -/
def lowSum (scores : List ℚ) : ℚ :=
  (scores.filter fun score => score < 20).sum

/-- The sum of the scores from 20 on. -/
def highSum (scores : List ℚ) : ℚ :=
  (scores.filter fun score => ¬ score < 20).sum

theorem lowSum_add_highSum (scores : List ℚ) :
    lowSum scores + highSum scores = scores.sum := by
  induction scores with
  | nil => norm_num [lowSum, highSum]
  | cons first rest induction =>
      rw [List.sum_cons, ← induction, lowSum, lowSum, highSum, highSum,
        List.filter_cons, List.filter_cons]
      by_cases low : first < 20
      · simp only [low, decide_true, if_true, not_true_eq_false,
          decide_false, Bool.false_eq_true, if_false, List.sum_cons]
        ring
      · simp only [low, decide_false, Bool.false_eq_true, if_false,
          not_false_eq_true, decide_true, if_true, List.sum_cons]
        ring

theorem sum_map_onNewScale (scores : List ℚ) :
    (scores.map onNewScale).sum = scores.sum + 9 * lowSum scores := by
  induction scores with
  | nil => norm_num [lowSum]
  | cons first rest induction =>
      rw [List.map_cons, List.sum_cons, List.sum_cons, induction,
        lowSum, lowSum, List.filter_cons]
      by_cases low : first < 20
      · rw [onNewScale_of_lt low]
        simp only [low, decide_true, if_true, List.sum_cons]
        ring
      · rw [onNewScale_of_le (not_lt.mp low)]
        simp only [low, decide_false, Bool.false_eq_true, if_false]
        ring

/-- A value cut at 0 and at 100. -/
def clamped (value : ℚ) : ℚ :=
  min 100 (max 0 value)

theorem onScale_clamped (value : ℚ) : OnScale (clamped value) :=
  ⟨le_min (by norm_num) (le_max_left _ _), min_le_left _ _⟩

theorem onScale_overallScore (scores : List ℚ) :
    OnScale (overallScore scores) := by
  rw [overallScore]
  split_ifs
  · exact ⟨le_rfl, by norm_num⟩
  · exact onScale_clamped _

/-- The cut may be made before the rounding. -/
theorem overallScore_eq_round_clamped
    {scores : List ℚ} (nonempty : scores ≠ []) :
    overallScore scores =
      roundHalfAway 2 (clamped (average (scores.map onNewScale))) := by
  rw [overallScore, if_neg nonempty]
  exact_mod_cast
    clamp_roundHalfAway 2 0 100 (average (scores.map onNewScale))

theorem length_pos
    {scores : List ℚ} (nonempty : scores ≠ []) :
    (0 : ℚ) < scores.length :=
  Nat.cast_pos.mpr (List.length_pos_iff.mpr nonempty)

theorem average_map_onNewScale (scores : List ℚ) :
    average (scores.map onNewScale) =
      average scores + 9 * lowSum scores / scores.length := by
  rw [average, average, sum_map_onNewScale, List.length_map, add_div]

theorem onScale_roundHalfAway_iff (value : ℚ) :
    OnScale (roundHalfAway 2 value) ↔
      -(1 / 200) < value ∧ value < 20001 / 200 := by
  have least := roundHalfAway_nonneg_iff 2 value
  have most := roundHalfAway_le_natCast_iff 2 100 value
  norm_num [halfStep] at least most
  rw [OnScale, least, most]

/--
The scores of a month that are on one scale.  An average below 20 is made of
scores below 20, and ten times the average rounds to a value of the scale.
An average from 20 on has no low score above 0.
-/
def OfOneScale (scores : List ℚ) : Prop :=
  if average scores < 20 then
    (∀ score ∈ scores, score < 20) ∧
      -(1 / 2000) < average scores ∧ average scores < 20001 / 2000
  else
    lowSum scores = 0 ∧ average scores < 20001 / 200

instance decidableOfOneScale (scores : List ℚ) :
    Decidable (OfOneScale scores) :=
  inferInstanceAs
    (Decidable
      (if average scores < 20 then
        (∀ score ∈ scores, score < 20) ∧
          -(1 / 2000) < average scores ∧ average scores < 20001 / 2000
      else
        lowSum scores = 0 ∧ average scores < 20001 / 200))

/-- Scores of one scale are all up to 10, or all from 20 to 100. -/
theorem ofOneScale_of_forall
    {scores : List ℚ} (nonempty : scores ≠ [])
    (oneScale :
      (∀ score ∈ scores, 0 ≤ score ∧ score ≤ 10) ∨
        ∀ score ∈ scores, 20 ≤ score ∧ score ≤ 100) :
    OfOneScale scores := by
  have positive := length_pos nonempty
  have atLeast {bound : ℚ} (each : ∀ score ∈ scores, bound ≤ score) :
      bound ≤ average scores := by
    rw [average, le_div_iff₀ positive, mul_comm, ← nsmul_eq_mul]
    exact List.card_nsmul_le_sum scores bound each
  have atMost {bound : ℚ} (each : ∀ score ∈ scores, score ≤ bound) :
      average scores ≤ bound := by
    rw [average, div_le_iff₀ positive, mul_comm, ← nsmul_eq_mul]
    exact List.sum_le_card_nsmul scores bound each
  rw [OfOneScale]
  rcases oneScale with old | new
  · have least := atLeast fun score member => (old score member).1
    have most := atMost fun score member => (old score member).2
    rw [if_pos (by linarith)]
    refine ⟨?_, by linarith, by linarith⟩
    intro score member
    linarith [(old score member).2]
  · have least := atLeast fun score member => (new score member).1
    have most := atMost fun score member => (new score member).2
    rw [if_neg (not_lt.mpr least)]
    refine ⟨?_, by linarith⟩
    have none : (scores.filter fun score => score < 20) = [] := by
      rw [List.filter_eq_nil_iff]
      intro score member
      simpa using (new score member).1
    rw [lowSum, none, List.sum_nil]

/-- On one scale the rescaled average is the average of the rescaled. -/
theorem onNewScale_average_of_oneScale
    {scores : List ℚ} (oneScale : OfOneScale scores) :
    onNewScale (average scores) = average (scores.map onNewScale) ∧
      OnScale (trendValue scores) := by
  rw [OfOneScale] at oneScale
  rw [average_map_onNewScale, trendValue, onScale_roundHalfAway_iff]
  by_cases low : average scores < 20
  · rw [if_pos low] at oneScale
    rcases oneScale with ⟨each, least, most⟩
    have all : lowSum scores = scores.sum := by
      rw [lowSum, List.filter_eq_self.mpr]
      exact fun score member => decide_eq_true (each score member)
    rw [onNewScale_of_lt low, all]
    refine ⟨?_, by linarith, by linarith⟩
    rw [average]
    ring
  · rw [if_neg low] at oneScale
    rcases oneScale with ⟨none, most⟩
    rw [onNewScale_of_le (not_lt.mp low), none]
    refine ⟨?_, by linarith, most⟩
    rw [mul_zero, zero_div, add_zero]

theorem trendValue_eq_overallScore_of_oneScale
    {scores : List ℚ} (nonempty : scores ≠ [])
    (oneScale : OfOneScale scores) :
    trendValue scores = overallScore scores := by
  rcases onNewScale_average_of_oneScale oneScale with
    ⟨same, onScale⟩
  rw [trendValue, same] at onScale
  rw [trendValue, overallScore, if_neg nonempty, same,
    max_eq_right onScale.1, min_eq_right onScale.2]

/-! ### Months of a few rows -/

/-- A score of the scale as the column holds it, in hundredths. -/
def Stored (score : ℚ) : Prop :=
  OnScale score ∧ ∃ cents : ℕ, score = cents / 100

theorem clamped_le {value : ℚ} (nonneg : 0 ≤ value) :
    clamped value ≤ value := by
  rw [clamped, max_eq_right nonneg]
  exact min_le_right _ _

/-- An average below 20 with a high score is far from the evaluation. -/
theorem overallScore_lt_trendValue
    {scores : List ℚ} (few : scores.length ≤ 9)
    (stored : ∀ score ∈ scores, Stored score)
    (low : average scores < 20)
    {score : ℚ} (member : score ∈ scores) (high : 20 ≤ score) :
    overallScore scores < trendValue scores := by
  have nonempty := List.ne_nil_of_mem member
  have positive := length_pos nonempty
  have bounded : (scores.length : ℚ) ≤ 9 := by exact_mod_cast few
  have averageNonneg : 0 ≤ average scores :=
    div_nonneg
      (List.sum_nonneg fun other isIn => (stored other isIn).1.1)
      positive.le
  have lowNonneg : 0 ≤ lowSum scores :=
    List.sum_nonneg fun other isIn =>
      (stored other (List.mem_filter.mp isIn).1).1.1
  have highAtLeast : 20 ≤ highSum scores :=
    high.trans
      (List.single_le_sum
        (fun other isIn =>
          (stored other (List.mem_filter.mp isIn).1).1.1)
        score (List.mem_filter.mpr
          ⟨member, decide_eq_true (not_lt.mpr high)⟩))
  have parts := lowSum_add_highSum scores
  have rescaled :
      average (scores.map onNewScale) + 20 ≤ average scores * 10 := by
    have share : (20 : ℚ) ≤ 9 * highSum scores / scores.length := by
      rw [le_div_iff₀ positive]
      linarith
    have split :
        average scores * 10 =
          average scores + 9 * lowSum scores / scores.length +
            9 * highSum scores / scores.length := by
      rw [average, ← parts]
      ring
    rw [average_map_onNewScale, split]
    linarith
  have rescaledNonneg : 0 ≤ average (scores.map onNewScale) := by
    rw [average_map_onNewScale]
    positivity
  rw [overallScore_eq_round_clamped nonempty, trendValue,
    onNewScale_of_lt low]
  apply roundHalfAway_lt_of_add_le 2 (onScale_clamped _).1
  linarith [clamped_le rescaledNonneg]

theorem sum_map_hundred_sub (scores : List ℚ) :
    (scores.map fun score => 100 - score).sum =
      100 * scores.length - scores.sum := by
  induction scores with
  | nil => norm_num
  | cons first rest induction =>
      rw [List.map_cons, List.sum_cons, induction, List.sum_cons,
        List.length_cons]
      push_cast
      ring

/-- An average from 20 on with a low score is below the evaluation. -/
theorem trendValue_lt_overallScore
    {scores : List ℚ} (few : scores.length ≤ 9)
    (stored : ∀ score ∈ scores, Stored score)
    (high : 20 ≤ average scores)
    {score : ℚ} (member : score ∈ scores) (low : score < 20)
    (nonzero : score ≠ 0) :
    trendValue scores < overallScore scores := by
  have nonempty := List.ne_nil_of_mem member
  have positive := length_pos nonempty
  have bounded : (scores.length : ℚ) ≤ 9 := by exact_mod_cast few
  have cent : 1 / 100 ≤ score := by
    rcases (stored score member).2 with ⟨cents, rfl⟩
    have isPositive : 1 ≤ cents := by
      rw [Nat.one_le_iff_ne_zero]
      rintro rfl
      exact nonzero (by norm_num)
    have cast : (1 : ℚ) ≤ cents := by exact_mod_cast isPositive
    linarith
  have lowAtLeast : 1 / 100 ≤ lowSum scores :=
    cent.trans
      (List.single_le_sum
        (fun other isIn =>
          (stored other (List.mem_filter.mp isIn).1).1.1)
        score (List.mem_filter.mpr ⟨member, decide_eq_true low⟩))
  have share : 1 / 100 ≤ 9 * lowSum scores / scores.length := by
    rw [le_div_iff₀ positive]
    linarith
  have missing :
      80 ≤ (scores.map fun other => 100 - other).sum :=
    le_trans (by linarith)
      (List.single_le_sum
        (by
          intro other isIn
          rcases List.mem_map.mp isIn with ⟨one, oneMember, rfl⟩
          linarith [(stored one oneMember).1.2])
        (100 - score) (List.mem_map_of_mem member))
  have distance : average scores + 1 / 100 ≤ 100 := by
    rw [sum_map_hundred_sub] at missing
    have most : average scores ≤ 100 - 1 / 100 := by
      rw [average, div_le_iff₀ positive]
      linarith
    linarith
  rw [overallScore_eq_round_clamped nonempty, trendValue,
    onNewScale_of_le high, average_map_onNewScale]
  apply roundHalfAway_lt_of_add_le 2 (by linarith)
  rw [clamped, max_eq_right (by linarith)]
  exact le_min (by linarith) (by linarith)

theorem ofOneScale_of_eq
    {scores : List ℚ} (few : scores.length ≤ 9)
    (stored : ∀ score ∈ scores, Stored score)
    (same : trendValue scores = overallScore scores) :
    OfOneScale scores := by
  have onScale : OnScale (trendValue scores) := by
    rw [same]
    exact onScale_overallScore scores
  rw [trendValue, onScale_roundHalfAway_iff] at onScale
  rcases onScale with ⟨least, most⟩
  rw [OfOneScale]
  by_cases low : average scores < 20
  · rw [onNewScale_of_lt low] at least most
    rw [if_pos low]
    refine ⟨?_, by linarith, by linarith⟩
    intro score member
    by_contra high
    exact
      (overallScore_lt_trendValue few stored low member
        (not_lt.mp high)).ne' same
  · have high : 20 ≤ average scores := not_lt.mp low
    rw [onNewScale_of_le high] at most
    rw [if_neg low]
    refine ⟨?_, most⟩
    apply List.sum_eq_zero
    intro score member
    rcases List.mem_filter.mp member with ⟨isScore, isLow⟩
    by_contra nonzero
    exact
      (trendValue_lt_overallScore few stored high isScore
        (of_decide_eq_true isLow) nonzero).ne same

/-! ### Reported months -/

/-- The rows of a reported month are scored rows of the participant. -/
theorem scoredRows_rowsOfMonth
    (rows : List AssessmentParticipant) (participant : UserId)
    (now : Timestamp) (month : ℕ) :
    scoredRows (rowsOfMonth (trendRows rows participant now) month)
        participant =
      rowsOfMonth (trendRows rows participant now) month := by
  rw [scoredRows, List.filter_eq_self]
  intro row member
  have selected := (List.mem_filter.mp member).1
  exact (List.mem_filter.mp (List.mem_filter.mp selected).1).2

/-- A reported month has scores. -/
theorem scores_ne_nil
    {rows : List AssessmentParticipant} {participant : UserId}
    {now : Timestamp} {month : ℕ}
    (listed : month ∈ monthsOf (trendRows rows participant now)) :
    scoresOf (rowsOfMonth (trendRows rows participant now) month) ≠
      [] := by
  rw [monthsOf, List.mem_mergeSort, List.mem_dedup] at listed
  rcases List.mem_map.mp listed with ⟨row, selected, sameMonth⟩
  have scored :=
    (List.mem_filter.mp (List.mem_filter.mp selected).1).2
  rw [Bool.and_eq_true] at scored
  rcases Option.isSome_iff_exists.mp scored.2 with ⟨score, stored⟩
  have member :
      score ∈
        scoresOf
          (rowsOfMonth (trendRows rows participant now) month) :=
    List.mem_filterMap.mpr
      ⟨row,
        List.mem_filter.mpr ⟨selected, decide_eq_true sameMonth⟩,
        stored⟩
  exact List.ne_nil_of_mem member

/--
The value of a reported month with scores of one scale is the overall
evaluation of the rows of this month, and on the scale.  In a month of up to
nine rows it is the overall evaluation for scores of one scale only; in a
longer month the rounding may hide a difference of less than a cent.
-/
theorem trend_eq_overall_of_one_scale
    (rows : List AssessmentParticipant) (participant : UserId)
    (now : Timestamp) (trend : MonthlyTrend)
    (reported : trend ∈ monthlyTrends rows participant now) :
    let month :=
      rowsOfMonth (trendRows rows participant now) trend.month
    (OfOneScale (scoresOf month) →
        trend.value = calculateOverallScore month participant ∧
          OnScale trend.value) ∧
      ((scoresOf month).length ≤ 9 →
        (∀ score ∈ scoresOf month, Stored score) →
        trend.value = calculateOverallScore month participant →
          OfOneScale (scoresOf month)) := by
  rcases List.mem_map.mp reported with ⟨month, listed, rfl⟩
  have nonempty := scores_ne_nil listed
  change
    (_ →
        trendValue _ = calculateOverallScore _ participant ∧
          OnScale (trendValue _)) ∧
      (_ → _ → trendValue _ = calculateOverallScore _ participant → _)
  rw [calculateOverallScore, scoredRows_rowsOfMonth]
  constructor
  · intro oneScale
    exact
      ⟨trendValue_eq_overallScore_of_oneScale nonempty oneScale,
        (onNewScale_average_of_oneScale oneScale).2⟩
  · exact ofOneScale_of_eq

/-- A failed attempt, and two results on the new scale, in one month. -/
def oneScale : List AssessmentParticipant :=
  completedWith [0, 40, 65] 864000

theorem stored_oneScale :
    ∀ score ∈ scoresOf (rowsOfMonth (trendRows oneScale 1 1728000) 0),
      Stored score := by
  have scores :
      scoresOf (rowsOfMonth (trendRows oneScale 1 1728000) 0) =
        [0, 40, 65] := by
    decide +kernel
  rw [scores]
  intro score member
  simp only [List.mem_cons, List.not_mem_nil, or_false] at member
  rcases member with rfl | rfl | rfl
  · exact ⟨⟨by norm_num, by norm_num⟩, 0, by norm_num⟩
  · exact ⟨⟨by norm_num, by norm_num⟩, 4000, by norm_num⟩
  · exact ⟨⟨by norm_num, by norm_num⟩, 6500, by norm_num⟩

theorem trend_eq_overall_of_one_scale_failedAttempt :
    let month := rowsOfMonth (trendRows oneScale 1 1728000) 0
    ((35 : ℚ) = calculateOverallScore month 1 ∧ OnScale 35) ∧
      OfOneScale (scoresOf month) :=
  have agrees :=
    trend_eq_overall_of_one_scale oneScale 1 1728000
      { month := 0, value := 35 } (by decide +kernel)
  have same := agrees.1 (by decide +kernel)
  ⟨same, agrees.2 (by decide +kernel) stored_oneScale same.1⟩

/-- The completed rows of one participant on both scales, in one month. -/
def mixedScores : List AssessmentParticipant :=
  completedWith [10, 30] 864000

/-- A mixed month, and a month whose trend leaves the scale. -/
theorem trend_differs_from_overall :
    (getPerformanceTrends mixedScores 1 1728000).values = [20] ∧
      calculateOverallScore
          (rowsOfMonth (trendRows mixedScores 1 1728000) 0) 1 =
        65 ∧
      (getPerformanceTrends (completedWith [15] 864000) 1
          1728000).values =
        [150] := by
  decide +kernel

/--
With scores on the scale, the trend of a month leaves it exactly when their
average is below 20 and ten times the average rounds to more than 100.
-/
theorem onScale_trendValue_iff
    {scores : List ℚ} (nonempty : scores ≠ [])
    (onScale : ∀ score ∈ scores, OnScale score) :
    OnScale (trendValue scores) ↔
      (average scores < 20 → average scores < 20001 / 2000) := by
  have positive := length_pos nonempty
  have least : 0 ≤ average scores := by
    apply div_nonneg _ positive.le
    exact List.sum_nonneg fun score member => (onScale score member).1
  have most : average scores ≤ 100 := by
    rw [average, div_le_iff₀ positive, mul_comm, ← nsmul_eq_mul]
    exact
      List.sum_le_card_nsmul scores 100 fun score member =>
        (onScale score member).2
  rw [trendValue, onScale_roundHalfAway_iff]
  by_cases low : average scores < 20
  · rw [onNewScale_of_lt low]
    constructor
    · rintro ⟨_, within⟩ _
      linarith
    · intro within
      exact ⟨by linarith, by linarith [within low]⟩
  · rw [onNewScale_of_le (not_lt.mp low)]
    constructor
    · intro _ less
      exact (low less).elim
    · intro _
      exact ⟨by linarith, by linarith⟩

end DashboardController

end SultanPass
