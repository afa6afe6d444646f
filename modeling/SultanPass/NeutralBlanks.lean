import SultanPass.BlankCategories
import SultanPass.CategoryScores

/-!
# Blank category grades that change nothing

A blank counts as a weight of 0 against a maximum of 3.0, so it lowers the
percentage of its category and adds a category that has no other weight.

It changes nothing when the category has a weight before its first blank and
a percentage that is 0 or cut at 100 even with the blanks (`Settled`).  Then
the score of the service, and the labels, values and colors of the dashboard,
are those of the grades without their blanks (`blanks_change_nothing`).
-/

namespace SultanPass.BlankCategories

open SultanPass.Library
open SultanPass.Library.OrderedMap
open SultanPass.Library.Rounding
open SultanPass.AssessmentScoreService
open SultanPass.CategoryScores
open SultanPass.DashboardController
open SultanPass.ScoreOrder

/-! ## Settled entries -/

/-- The totals of a category among weights and blanks. -/
def totalOf (id : CategoryId) (entries : GradedCategories) :
    CategoryTotal where
  total := (recordsOf id (gradedRecords (some entries))).sum
  maxWeight := 3 * (recordsOf id (gradedRecords (some entries))).length

/--
Weights and blanks in the order in which they are counted: a blank comes
after a weight of its category, whose total is not positive or at least
`factor` times its maximum.
-/
structure Settled (factor : ℚ) (entries : GradedCategories) : Prop where
  repeats : RepeatsKeys Option.isSome [] entries
  extreme :
    ∀ entry ∈ entries, entry.2 = none →
      (totalOf entry.1 entries).total ≤ 0 ∨
        factor * (totalOf entry.1 entries).maxWeight ≤
          (totalOf entry.1 entries).total

instance (factor : ℚ) (entries : GradedCategories) :
    Decidable (Settled factor entries) :=
  decidable_of_iff
    (RepeatsKeys Option.isSome [] entries ∧
      ∀ entry ∈ entries, entry.2 = none →
        (totalOf entry.1 entries).total ≤ 0 ∨
          factor * (totalOf entry.1 entries).maxWeight ≤
            (totalOf entry.1 entries).total)
    ⟨fun both => ⟨both.1, both.2⟩, fun settled => ⟨settled.1, settled.2⟩⟩

/--
A percentage that is 0 for no weight and 100 from a factor on, and in between
is lowered by a larger maximum.
-/
structure CutAt (factor : ℚ) (score : CategoryTotal → ℚ) : Prop where
  low :
    ∀ entry : CategoryTotal,
      3 ≤ entry.maxWeight → entry.total ≤ 0 → score entry = 0
  high :
    ∀ entry : CategoryTotal,
      3 ≤ entry.maxWeight →
        factor * entry.maxWeight ≤ entry.total → score entry = 100
  between :
    ∀ entry smaller : CategoryTotal,
      3 ≤ smaller.maxWeight → smaller.maxWeight < entry.maxWeight →
        entry.total = smaller.total → 0 < entry.total →
          entry.total < factor * entry.maxWeight →
            score entry < score smaller

/-- A larger maximum below the same total makes a smaller quotient. -/
theorem quotient_of_between {factor : ℚ} {entry smaller : CategoryTotal}
    (large : 3 ≤ smaller.maxWeight)
    (less : smaller.maxWeight < entry.maxWeight)
    (sameTotal : entry.total = smaller.total) (positive : 0 < entry.total)
    (below : entry.total < factor * entry.maxWeight) :
    0 < entry.total / entry.maxWeight ∧
      entry.total / entry.maxWeight < factor ∧
        entry.total / entry.maxWeight <
          smaller.total / smaller.maxWeight := by
  refine
    ⟨div_pos positive (by linarith),
      (div_lt_iff₀ (by linarith)).mpr below, ?_⟩
  rw [← sameTotal]
  exact div_lt_div_of_pos_left positive (by linarith) less

theorem cutAt_categoryScore : CutAt 3 categoryScore where
  low := by
    intro entry large small
    have quotient : entry.total / entry.maxWeight ≤ 0 :=
      div_nonpos_of_nonpos_of_nonneg small (by linarith)
    rw [categoryScore, max_eq_left (by linarith)]
    norm_num
  high := by
    intro entry large saturated
    have quotient : 3 ≤ entry.total / entry.maxWeight :=
      (le_div_iff₀ (by linarith)).mpr saturated
    rw [categoryScore, max_eq_right (by linarith),
      min_eq_left (by linarith)]
  between := by
    intro entry smaller large less sameTotal positive below
    rcases quotient_of_between large less sameTotal positive below with
      ⟨quotientPositive, quotient, lower⟩
    rw [categoryScore, categoryScore, max_eq_right (by linarith),
      max_eq_right (by linarith), min_eq_right (by linarith)]
    exact lt_min (by linarith) (by linarith)

theorem cutAt_dashboardScore : CutAt 1 dashboardScore where
  low := by
    intro entry large small
    rw [dashboardScore, max_eq_left (by linarith : 1 ≤ entry.maxWeight)]
    have quotient : entry.total / entry.maxWeight ≤ 0 :=
      div_nonpos_of_nonpos_of_nonneg small (by linarith)
    rw [max_eq_left (by linarith)]
    norm_num
  high := by
    intro entry large saturated
    rw [dashboardScore, max_eq_left (by linarith : 1 ≤ entry.maxWeight)]
    have quotient : 1 ≤ entry.total / entry.maxWeight :=
      (le_div_iff₀ (by linarith)).mpr saturated
    rw [max_eq_right (by linarith), min_eq_left (by linarith)]
  between := by
    intro entry smaller large less sameTotal positive below
    rcases quotient_of_between large less sameTotal positive below with
      ⟨quotientPositive, quotient, lower⟩
    rw [dashboardScore, dashboardScore,
      max_eq_left (by linarith : 1 ≤ entry.maxWeight),
      max_eq_left (by linarith : 1 ≤ smaller.maxWeight),
      max_eq_right (by linarith), max_eq_right (by linarith),
      min_eq_right (by linarith)]
    exact lt_min (by linarith) (by linarith)

theorem exists_blank_of_blanksIn {id : CategoryId}
    {entries : GradedCategories} (some : blanksIn id entries ≠ 0) :
    ∃ entry ∈ entries, entry.1 = id ∧ entry.2 = none := by
  rw [blanksIn, ne_eq, List.countP_eq_zero] at some
  push Not at some
  rcases some with ⟨entry, member, isBlank⟩
  exact ⟨entry, member, of_decide_eq_true isBlank⟩

theorem three_le_maxWeight {id : CategoryId} {entries : GradedCategories}
    (recorded : id ∈ (gradedRecords (some entries)).map Prod.fst) :
    3 ≤ (totalOf id entries).maxWeight := by
  have nonempty :
      recordsOf id (gradedRecords (some entries)) ≠ [] := by
    rw [ne_eq, recordsOf_eq_nil_iff]
    exact not_not_intro recorded
  have one :
      (1 : ℚ) ≤ (recordsOf id (gradedRecords (some entries))).length := by
    exact_mod_cast List.length_pos_of_ne_nil nonempty
  rw [totalOf]
  linarith

/-- The blanks of a category do not change its percentage. -/
def Extreme (factor : ℚ) (entries : GradedCategories)
    (id : CategoryId) : Prop :=
  blanksIn id entries = 0 ∨ (totalOf id entries).total ≤ 0 ∨
    factor * (totalOf id entries).maxWeight ≤ (totalOf id entries).total

/-- A weighed category has one percentage with and without its blanks. -/
theorem score_withoutBlanks_iff {factor : ℚ} {score : CategoryTotal → ℚ}
    (nonneg : 0 ≤ factor) (cut : CutAt factor score)
    {entries : GradedCategories} {id : CategoryId}
    (weighed :
      id ∈ (gradedRecords (some (withoutBlanks entries))).map Prod.fst) :
    score (totalOf id entries) =
        score (totalOf id (withoutBlanks entries)) ↔
      Extreme factor entries id := by
  have stripped := three_le_maxWeight weighed
  rcases exceedBy_withoutBlanks entries id with ⟨sameSum, longer⟩
  have sameTotal :
      (totalOf id entries).total =
        (totalOf id (withoutBlanks entries)).total :=
    sameSum
  have maxWeights :
      (totalOf id entries).maxWeight =
        (totalOf id (withoutBlanks entries)).maxWeight +
          3 * blanksIn id entries := by
    rw [totalOf, totalOf, longer]
    push_cast
    ring
  have blanksNonneg : (0 : ℚ) ≤ blanksIn id entries :=
    Nat.cast_nonneg _
  have larger :
      (totalOf id (withoutBlanks entries)).maxWeight ≤
        (totalOf id entries).maxWeight := by
    linarith
  constructor
  · intro same
    by_contra notExtreme
    rw [Extreme, not_or, not_or, not_le, not_le] at notExtreme
    rcases notExtreme with ⟨some, positive, below⟩
    have blanksPositive : (0 : ℚ) < blanksIn id entries :=
      Nat.cast_pos.mpr (Nat.pos_of_ne_zero some)
    exact
      (cut.between _ _ stripped (by linarith) sameTotal positive
        below).ne same
  · rintro (none | small | saturated)
    · rw [none, Nat.cast_zero, mul_zero, add_zero] at maxWeights
      congr 1
      cases whole : totalOf id entries
      cases rest : totalOf id (withoutBlanks entries)
      rw [whole, rest] at sameTotal maxWeights
      cases sameTotal
      cases maxWeights
      rfl
    · rw [cut.low _ (stripped.trans larger) small,
        cut.low _ stripped (sameTotal ▸ small)]
    · have saturatedWithout :
          factor * (totalOf id (withoutBlanks entries)).maxWeight ≤
            (totalOf id (withoutBlanks entries)).total := by
        rw [← sameTotal]
        exact (mul_le_mul_of_nonneg_left larger nonneg).trans saturated
      rw [cut.high _ (stripped.trans larger) saturated,
        cut.high _ stripped saturatedWithout]

theorem Settled.extreme_of_blank {factor : ℚ}
    {entries : GradedCategories} (settled : Settled factor entries)
    (id : CategoryId) : Extreme factor entries id := by
  rw [Extreme]
  by_cases none : blanksIn id entries = 0
  · exact Or.inl none
  · rcases exists_blank_of_blanksIn none with
      ⟨entry, member, rfl, isBlank⟩
    exact Or.inr (settled.extreme entry member isBlank)

/-- The percentages of the categories, in their order. -/
theorem map_score_tally (score : CategoryTotal → ℚ)
    (entries : GradedCategories) :
    (tally {} CategoryTotal.add (gradedRecords (some entries))).map
        (fun entry => (entry.1, score entry.2)) =
      ((tally {} CategoryTotal.add
        (gradedRecords (some entries))).map Prod.fst).map fun id =>
          (id, score (totalOf id entries)) := by
  conv_lhs => rw [tally_eq_map_keys]
  rw [List.map_map]
  apply List.map_congr_left
  intro id _
  rw [Function.comp_apply, foldl_categoryTotal_add, totalOf, zero_add,
    zero_add]

theorem scores_withoutBlanks {factor : ℚ} {score : CategoryTotal → ℚ}
    (nonneg : 0 ≤ factor) (cut : CutAt factor score)
    {entries : GradedCategories} (settled : Settled factor entries) :
    (tally {} CategoryTotal.add (gradedRecords (some entries))).map
        (fun entry => (entry.1, score entry.2)) =
      (tally {} CategoryTotal.add
        (gradedRecords (some (withoutBlanks entries)))).map
          fun entry => (entry.1, score entry.2) := by
  have sameKeys :
      (tally {} CategoryTotal.add (gradedRecords (some entries))).map
          Prod.fst =
        (tally {} CategoryTotal.add
          (gradedRecords (some (withoutBlanks entries)))).map Prod.fst :=
    keys_tally_filter (fun weight => Option.getD weight 0) _ _
      settled.repeats
  rw [map_score_tally, map_score_tally, sameKeys]
  apply List.map_congr_left
  intro id member
  rw [(score_withoutBlanks_iff nonneg cut
    ((mem_keys_tally_iff _ _ _ _).mp member)).mpr
      (settled.extreme_of_blank id)]

/-! ## The score of the service -/

/-- Weights without a blank. -/
def weighed (records : List (CategoryId × ℚ)) : GradedCategories :=
  records.map fun record => (record.1, some record.2)

theorem gradedRecords_weighed (records : List (CategoryId × ℚ)) :
    gradedRecords (some (weighed records)) = records := by
  rw [gradedRecords, weighed]
  simp [Function.comp_def]

theorem withoutBlanks_weighed (records : List (CategoryId × ℚ)) :
    withoutBlanks (weighed records) = weighed records := by
  rw [withoutBlanks, weighed, List.filter_eq_self]
  intro entry member
  rcases List.mem_map.mp member with ⟨record, _, rfl⟩
  rfl

/-- The weights and blanks that the service counts of a response. -/
def serviceEntries (catalogue : Catalogue)
    (response : ParticipantResponse) : GradedCategories :=
  if isWritten catalogue response then
    response.gradedCategories.getD []
  else
    match categoryRecords catalogue response with
    | .ok records => weighed records
    | .error _ => []

theorem categoryRecords_serviceEntries
    (catalogue : Catalogue) (response : ParticipantResponse) :
    categoryRecords catalogue response =
      (categoryRecords catalogue response).map fun _ =>
        gradedRecords (some (serviceEntries catalogue response)) := by
  rw [serviceEntries]
  by_cases written : isWritten catalogue response = true
  · rw [if_pos written, categoryRecords_of_isWritten written]
    rfl
  · rw [if_neg written]
    cases categoryRecords catalogue response with
    | error error => rfl
    | ok records =>
        exact congrArg Except.ok (gradedRecords_weighed records).symm

theorem categoryRecords_withoutBlanks
    (catalogue : Catalogue) (response : ParticipantResponse) :
    categoryRecords catalogue (regrade withoutBlanks response) =
      (categoryRecords catalogue response).map fun _ =>
        gradedRecords
          (some (withoutBlanks (serviceEntries catalogue response))) := by
  rw [serviceEntries]
  by_cases written : isWritten catalogue response = true
  · have strippedWritten :
        isWritten catalogue (regrade withoutBlanks response) = true :=
      written
    rw [if_pos written, categoryRecords_of_isWritten written,
      categoryRecords_of_isWritten strippedWritten, regrade]
    cases response.gradedCategories <;> rfl
  · rw [if_neg written, categoryRecords_regrade withoutBlanks written]
    cases categoryRecords catalogue response with
    | error error => rfl
    | ok records =>
        apply congrArg Except.ok
        dsimp only
        rw [withoutBlanks_weighed, gradedRecords_weighed]

theorem mapM_map_const {Error Item Value Result : Type}
    (read : Item → Except Error Value) (result : Item → Result)
    (items : List Item) :
    items.mapM (fun item => (read item).map fun _ => result item) =
      (items.mapM read).map fun _ => items.map result := by
  induction items with
  | nil => rfl
  | cons item rest induction =>
      rw [List.mapM_cons, List.mapM_cons, induction]
      cases read item with
      | error error => rfl
      | ok value =>
          cases rest.mapM read with
          | error error => rfl
          | ok values => rfl

/-- The score of what has been read of the responses. -/
theorem calculateCategoricalScore_of_records
    (catalogue : Catalogue) (responses : List ParticipantResponse) :
    calculateCategoricalScore catalogue responses =
      (responses.mapM (categoryRecords catalogue)).map fun lists =>
        (averageCategoryScore
          (tally {} CategoryTotal.add lists.flatten)).map
            (roundHalfAway 2) := by
  rw [calculateCategoricalScore, unroundedCategoricalScore,
    categoryTotals, foldlM_eq_mapM_foldl]
  cases responses.mapM (categoryRecords catalogue) with
  | error error => rfl
  | ok lists =>
      change
        Except.ok
            ((averageCategoryScore _).map (roundHalfAway 2)) =
          Except.ok _
      simp only [tally, List.foldl_flatten]

theorem flatten_gradedRecords
    (entries : ParticipantResponse → GradedCategories)
    (responses : List ParticipantResponse) :
    (responses.map fun response =>
        gradedRecords (some (entries response))).flatten =
      gradedRecords (some (responses.flatMap entries)) := by
  rw [gradedRecords, Option.getD_some, List.map_flatMap, List.flatMap]
  rfl

theorem averageCategoryScore_withoutBlanks
    {entries : GradedCategories} (settled : Settled 3 entries) :
    averageCategoryScore
        (tally {} CategoryTotal.add (gradedRecords (some entries))) =
      averageCategoryScore
        (tally {} CategoryTotal.add
          (gradedRecords (some (withoutBlanks entries)))) := by
  have scores :=
    scores_withoutBlanks (by norm_num) cutAt_categoryScore settled
  have lengths := congrArg List.length scores
  rw [List.length_map, List.length_map] at lengths
  by_cases empty : gradedRecords (some entries) = []
  · rw [empty] at lengths ⊢
    have none :
        tally {} CategoryTotal.add
            (gradedRecords (some (withoutBlanks entries))) = [] :=
      List.length_eq_zero_iff.mp lengths.symm
    rw [none]
    rfl
  · have strippedNonempty :
        gradedRecords (some (withoutBlanks entries)) ≠ [] := by
      intro strippedEmpty
      rw [strippedEmpty] at lengths
      exact
        empty
          ((tally_eq_nil_iff _ _ _).mp (List.length_eq_zero_iff.mp lengths))
    have values := congrArg (List.map Prod.snd) scores
    rw [List.map_map, List.map_map] at values
    rw [averageCategoryScore_tally _ empty,
      averageCategoryScore_tally _ strippedNonempty, lengths]
    exact congrArg (fun list => some (List.sum list / _)) values

theorem calculateCategoricalScore_withoutBlanks
    (catalogue : Catalogue) (responses : List ParticipantResponse)
    (settled :
      Settled 3 (responses.flatMap (serviceEntries catalogue))) :
    calculateCategoricalScore catalogue
        (responses.map (regrade withoutBlanks)) =
      calculateCategoricalScore catalogue responses := by
  have whole :
      responses.mapM (categoryRecords catalogue) =
        (responses.mapM (categoryRecords catalogue)).map fun _ =>
          responses.map fun response =>
            gradedRecords (some (serviceEntries catalogue response)) := by
    rw [← mapM_map_const]
    congr 1
    exact funext (categoryRecords_serviceEntries catalogue)
  have stripped :
      (responses.map (regrade withoutBlanks)).mapM
          (categoryRecords catalogue) =
        (responses.mapM (categoryRecords catalogue)).map fun _ =>
          responses.map fun response =>
            gradedRecords
              (some
                (withoutBlanks (serviceEntries catalogue response))) := by
    rw [← mapM_map_const, List.mapM_map]
    congr 1
    exact funext (categoryRecords_withoutBlanks catalogue)
  rw [calculateCategoricalScore_of_records,
    calculateCategoricalScore_of_records, stripped, whole]
  cases responses.mapM (categoryRecords catalogue) with
  | error error => rfl
  | ok lists =>
      apply congrArg Except.ok
      dsimp only
      rw [flatten_gradedRecords, flatten_gradedRecords,
        averageCategoryScore_withoutBlanks settled]
      have filtered :
          responses.flatMap
              (fun response =>
                withoutBlanks (serviceEntries catalogue response)) =
            withoutBlanks
              (responses.flatMap (serviceEntries catalogue)) := by
        rw [withoutBlanks, List.filter_flatMap]
        rfl
      rw [filtered]

/-! ## The dashboard -/

/-- The weights and blanks that the dashboard counts, with their infos. -/
def dashboardRows (catalogue : Catalogue)
    (response : ParticipantResponse) :
    List (CategoryId × Option ℚ × CategoryInfo) :=
  (selectedRecords catalogue response).map
      (fun record => (record.1, some record.2.weight, record.2.info)) ++
    (response.gradedCategories.getD []).map fun entry =>
      (entry.1, entry.2, gradedInfo catalogue entry.1)

/-- The weights and blanks that the dashboard counts of a response. -/
def dashboardEntries (catalogue : Catalogue)
    (response : ParticipantResponse) : GradedCategories :=
  (dashboardRows catalogue response).map fun row => (row.1, row.2.1)

/-- A blank is read as a weight of 0. -/
def weighRow (row : CategoryId × Option ℚ × CategoryInfo) :
    CategoryId × WeightRecord :=
  (row.1, { weight := row.2.1.getD 0, info := row.2.2 })

theorem responseRecords_eq
    (catalogue : Catalogue) (response : ParticipantResponse) :
    responseRecords catalogue response =
      (dashboardRows catalogue response).map weighRow := by
  rw [responseRecords, dashboardRows, gradedWeightRecords, gradedRecords,
    List.map_append, List.map_map, List.map_map, List.map_map]
  congr 1
  exact (List.map_id _).symm

theorem responseRecords_withoutBlanks
    (catalogue : Catalogue) (response : ParticipantResponse) :
    responseRecords catalogue (regrade withoutBlanks response) =
      ((dashboardRows catalogue response).filter fun row =>
        row.2.1.isSome).map weighRow := by
  have grades :
      (regrade withoutBlanks response).gradedCategories.getD [] =
        withoutBlanks (response.gradedCategories.getD []) := by
    rw [regrade]
    cases response.gradedCategories <;> rfl
  rw [responseRecords_eq, dashboardRows, dashboardRows, grades,
    List.filter_append, List.filter_map, List.filter_map, withoutBlanks]
  congr 2
  symm
  apply congrArg
  exact List.filter_eq_self.mpr fun _ _ => rfl

theorem categoryEntries_eq
    (catalogue : Catalogue) (responses : List ParticipantResponse) :
    categoryEntries catalogue responses =
      (responses.flatMap (responseRecords catalogue)).foldl
        addRecord [] := by
  rw [categoryEntries, List.flatMap, List.foldl_flatten, List.foldl_map]

/-- The infos of the entries are those of the first records. -/
theorem infos_foldl_addRecord
    (records : List (CategoryId × WeightRecord))
    (entries : List (CategoryId × CategoryEntry)) :
    (records.foldl addRecord entries).map
        (fun entry => (entry.1, entry.2.info)) =
      records.foldl
        (fun infos record => adjust record.1 record.2.info id infos)
        (entries.map fun entry => (entry.1, entry.2.info)) := by
  induction records generalizing entries with
  | nil => rfl
  | cons record rest induction =>
      rw [List.foldl_cons, List.foldl_cons, induction, addRecord]
      congr 1
      exact
        map_adjust CategoryEntry.info record.1
          (CategoryEntry.new record.2.info)
          (fun entry => entry.add record.2.weight) id (fun _ => rfl)
          entries

/-- The dashboard of settled rows does without their blanks. -/
theorem foldl_addRecord_withoutBlanks
    {rows : List (CategoryId × Option ℚ × CategoryInfo)}
    (settled : Settled 1 (rows.map fun row => (row.1, row.2.1))) :
    let entries := (rows.map weighRow).foldl addRecord []
    let stripped :=
      ((rows.filter fun row => row.2.1.isSome).map weighRow).foldl
        addRecord []
    entries.map (fun entry => (entry.1, entry.2.info)) =
        stripped.map (fun entry => (entry.1, entry.2.info)) ∧
      entries.map (fun entry => (entry.1, normalizedScore entry.2)) =
        stripped.map fun entry => (entry.1, normalizedScore entry.2) := by
  have repeats :
      RepeatsKeys (fun row : Option ℚ × CategoryInfo => row.1.isSome) []
        rows :=
    (repeatsKeys_map Prod.fst Option.isSome [] rows).mp settled.repeats
  have totals (records : List (CategoryId × WeightRecord)) :
      (records.foldl addRecord []).map
          (fun entry => (entry.1, normalizedScore entry.2)) =
        (tally {} CategoryTotal.add
          (records.map fun record => (record.1, record.2.weight))).map
            fun entry => (entry.1, dashboardScore entry.2) := by
    have mapped := totalsOf_foldl_addRecord records []
    rw [List.map_nil] at mapped
    rw [tally, ← mapped, List.map_map]
    rfl
  constructor
  · rw [infos_foldl_addRecord, infos_foldl_addRecord, List.foldl_map,
      List.foldl_map]
    exact foldl_adjust_filter Prod.snd repeats (List.nil_subset _)
  · have scores :=
      scores_withoutBlanks (by norm_num) cutAt_dashboardScore settled
    rw [totals, totals, List.map_map, List.map_map]
    rw [withoutBlanks, List.filter_map, gradedRecords, gradedRecords,
      Option.getD_some, Option.getD_some, List.map_map, List.map_map]
      at scores
    exact scores

theorem getCategoryScores_withoutBlanks
    (catalogue : Catalogue) (database : Database) (participant : UserId)
    (settled :
      Settled 1
        ((responsesOfParticipant database participant).flatMap
          (dashboardEntries catalogue))) :
    getCategoryScores catalogue (regradeAll withoutBlanks database)
        participant =
      getCategoryScores catalogue database participant := by
  have asRows :
      (responsesOfParticipant database participant).flatMap
          (dashboardEntries catalogue) =
        ((responsesOfParticipant database participant).flatMap
          (dashboardRows catalogue)).map fun row => (row.1, row.2.1) := by
    rw [List.map_flatMap]
    rfl
  rw [asRows] at settled
  have same := foldl_addRecord_withoutBlanks settled
  dsimp only at same
  rw [List.map_flatMap, List.filter_flatMap, List.map_flatMap] at same
  simp only [← responseRecords_eq, ← responseRecords_withoutBlanks]
    at same
  have stripped :
      categoryEntries catalogue
          (responsesOfParticipant (regradeAll withoutBlanks database)
            participant) =
        ((responsesOfParticipant database participant).flatMap
          fun response =>
            responseRecords catalogue
              (regrade withoutBlanks response)).foldl addRecord [] := by
    rw [responsesOfParticipant_regradeAll, categoryEntries_eq,
      List.flatMap_map]
  rw [← stripped, ← categoryEntries_eq] at same
  have labels :=
    congrArg (List.map fun info => info.2.label) same.1
  have colors :=
    congrArg (List.map fun info => info.2.color) same.1
  have values := congrArg (List.map Prod.snd) same.2
  simp only [List.map_map, Function.comp_def] at labels colors values
  rw [getCategoryScores, getCategoryScores, unroundedValues,
    unroundedValues, labels, colors, values]

/-! ## Neutral blanks -/

/--
Blanks of settled categories are neutral: the score and the dashboard are
those of the grades without their blanks.  In a category that has a weight,
blanks keep its percentage exactly when it is 0 or cut at 100.
-/
theorem blanks_change_nothing
    (catalogue : Catalogue) (responses : List ParticipantResponse)
    (database : Database) (participant : UserId) :
    let counted := responses.flatMap (serviceEntries catalogue)
    let shown :=
      (responsesOfParticipant database participant).flatMap
        (dashboardEntries catalogue)
    (Settled 3 counted →
        calculateCategoricalScore catalogue
            (responses.map (regrade withoutBlanks)) =
          calculateCategoricalScore catalogue responses) ∧
      (Settled 1 shown →
        getCategoryScores catalogue (regradeAll withoutBlanks database)
            participant =
          getCategoryScores catalogue database participant) ∧
      (∀ id ∈ (gradedRecords (some (withoutBlanks counted))).map Prod.fst,
        categoryScore (totalOf id counted) =
            categoryScore (totalOf id (withoutBlanks counted)) ↔
          Extreme 3 counted id) ∧
      ∀ id ∈ (gradedRecords (some (withoutBlanks shown))).map Prod.fst,
        dashboardScore (totalOf id shown) =
            dashboardScore (totalOf id (withoutBlanks shown)) ↔
          Extreme 1 shown id :=
  ⟨calculateCategoricalScore_withoutBlanks catalogue responses,
    getCategoryScores_withoutBlanks catalogue database participant,
    fun _ weighed =>
      score_withoutBlanks_iff (by norm_num) cutAt_categoryScore weighed,
    fun _ weighed =>
      score_withoutBlanks_iff (by norm_num) cutAt_dashboardScore weighed⟩

/-- A large weight and none, and blanks of the same categories. -/
def extremeRows : List ParticipantResponse :=
  [gradedRow [(1, some 18), (7, some 0)],
    { gradedRow [(7, none), (1, none)] with questionId := 3 }]

def extremeDatabase : Database where
  participantResponses :=
    { rows := extremeRows
      distinct := by decide }
  assessmentParticipants := []

theorem blanks_change_nothing_extremeRows :
    calculateCategoricalScore sampleCatalogue
          (extremeRows.map (regrade withoutBlanks)) =
        calculateCategoricalScore sampleCatalogue extremeRows ∧
      getCategoryScores sampleCatalogue
          (regradeAll withoutBlanks extremeDatabase) 1 =
        getCategoryScores sampleCatalogue extremeDatabase 1 :=
  have neutral :=
    blanks_change_nothing sampleCatalogue extremeRows extremeDatabase 1
  ⟨neutral.1 (by decide +kernel), neutral.2.1 (by decide +kernel)⟩

end SultanPass.BlankCategories
