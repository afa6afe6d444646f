import SultanPass.AnswerRoundTrip
import SultanPass.Library.Reordering

/-!
# Scores do not depend on the order of rows

No query of the scoring code has an `ORDER BY`: the responses of a
participant, and the weight rows of each selection, come back in any order,
and the keys of a JSON grade are in the order in which they were posted.

The loops of `calculateCategoricalScore` and `getCategoryScores` are given
here over what the query of each response has returned (`MayScore`,
`MayShow`).  The totals of the categories are tallies of all records, so
each order gives the same score and the same values of the categories; only
the sequence of the categories follows the order of the rows.
-/

namespace SultanPass.ScoreOrder

open SultanPass.Library
open SultanPass.Library.OrderedMap
open SultanPass.Library.Rounding
open SultanPass.AssessmentScoreService
open SultanPass.DashboardController
open SultanPass.AnswerRoundTrip

/-! ## Responses in another order -/

/-- The same row, with the JSON keys of its grade in another order. -/
structure SameUpToKeyOrder (response other : ParticipantResponse) :
    Prop where
  sameColumns :
    { other with gradedCategories := response.gradedCategories } =
      response
  sameGrades :
    Option.Rel List.Perm response.gradedCategories
      other.gradedCategories

theorem symm_keyOrder {categories other : Option GradedCategories}
    (sameGrades : Option.Rel List.Perm categories other) :
    Option.Rel List.Perm other categories := by
  cases sameGrades with
  | none => exact Option.Rel.none
  | some moved => exact Option.Rel.some moved.symm

theorem SameUpToKeyOrder.refl (response : ParticipantResponse) :
    SameUpToKeyOrder response response where
  sameColumns := rfl
  sameGrades := by
    cases response.gradedCategories with
    | none => exact Option.Rel.none
    | some categories => exact Option.Rel.some (List.Perm.refl _)

theorem eq_none_iff_of_keyOrder
    {categories other : Option GradedCategories}
    (sameGrades : Option.Rel List.Perm categories other) :
    categories = none ↔ other = none := by
  cases sameGrades with
  | none => exact Iff.rfl
  | some moved => exact ⟨nofun, nofun⟩

theorem SameUpToKeyOrder.symm
    {response other : ParticipantResponse}
    (same : SameUpToKeyOrder response other) :
    SameUpToKeyOrder other response where
  sameColumns := by
    rw [← same.sameColumns]
  sameGrades := symm_keyOrder same.sameGrades

/-- The weights of a grade whose keys come in another order. -/
theorem perm_gradedRecords
    {categories other : Option GradedCategories}
    (sameGrades : Option.Rel List.Perm categories other) :
    (gradedRecords categories).Perm (gradedRecords other) := by
  cases sameGrades with
  | none => exact List.Perm.nil
  | some moved => exact moved.map _

/-! ## Percentile mode -/

theorem percentileContribution_congr
    (catalogue : Catalogue) {response other : ParticipantResponse}
    (same : SameUpToKeyOrder response other) :
    percentileContribution catalogue response =
      percentileContribution catalogue other := by
  rw [← same.sameColumns]
  rfl

theorem percentileTotals_add_comm
    (totals : PercentileTotals) (first second : Option Points) :
    (totals.add first).add second = (totals.add second).add first := by
  cases first with
  | none => rfl
  | some first =>
      cases second with
      | none => rfl
      | some second =>
          simp only [PercentileTotals.add, add_right_comm]

theorem percentileTotals_error
    {catalogue : Catalogue} {responses : List ParticipantResponse}
    {error : PhpError}
    (raised : percentileTotals catalogue responses = .error error) :
    error = .typeError := by
  rw [percentileTotals, foldlM_eq_mapM_foldl] at raised
  cases computed :
      responses.mapM (percentileContribution catalogue) with
  | ok contributions =>
      rw [computed] at raised
      cases raised
  | error other =>
      rw [computed] at raised
      cases raised
      rcases exists_of_mapM_eq_error computed with
        ⟨response, _, raises⟩
      exact percentileContribution_error catalogue response error raises

/-- Totals of contributions that come in another order. -/
theorem percentileTotals_eq_ok_of_reordered
    (catalogue : Catalogue)
    {responses reordered : List ParticipantResponse}
    (same : Reordered SameUpToKeyOrder responses reordered)
    {totals : PercentileTotals}
    (computed : percentileTotals catalogue responses = .ok totals) :
    percentileTotals catalogue reordered = .ok totals := by
  rw [percentileTotals, foldlM_eq_mapM_foldl, bind_eq_ok_iff]
    at computed
  rcases computed with ⟨contributions, returns, ⟨⟩⟩
  have others :
      ∃ others,
        reordered.mapM (percentileContribution catalogue) =
            .ok others ∧
          Reordered Eq contributions others := by
    apply same.mapM_eq_ok _ returns
    intro response other contribution sameRow evaluated
    rw [percentileContribution_congr catalogue sameRow] at evaluated
    exact ⟨contribution, evaluated, rfl⟩
  rcases others with ⟨others, returnsOther, moved⟩
  rw [percentileTotals, foldlM_eq_mapM_foldl, returnsOther]
  change Except.ok _ = _
  rw [moved.perm.foldl_eq'
    fun first _ second _ totals =>
      percentileTotals_add_comm totals first second]

/-- Computing the score of responses that come in another order. -/
theorem calculatePercentileScore_of_reordered
    (catalogue : Catalogue)
    {responses reordered : List ParticipantResponse}
    (same : Reordered SameUpToKeyOrder responses reordered) :
    calculatePercentileScore catalogue reordered =
      calculatePercentileScore catalogue responses := by
  have sameTotals :
      percentileTotals catalogue reordered =
        percentileTotals catalogue responses := by
    apply eq_of_ok_iff
      (fun _ => percentileTotals_error)
      (fun _ => percentileTotals_error)
    intro totals
    constructor
    · exact
        percentileTotals_eq_ok_of_reordered catalogue
          (same.symm.imp fun _ _ => SameUpToKeyOrder.symm)
    · exact percentileTotals_eq_ok_of_reordered catalogue same
  rw [calculatePercentileScore, calculatePercentileScore, sameTotals]

/-! ## Categorical mode -/

/-- What a query returns: its rows in some order, or its exception. -/
inductive MayReturn {Row : Type} :
    Except PhpError (List Row) → Except PhpError (List Row) → Prop
  | rows {own returned : List Row} :
      own.Perm returned → MayReturn (.ok own) (.ok returned)
  | exception (error : PhpError) :
      MayReturn (.error error) (.error error)

/-- The weights that one response leads to, or the exception. -/
abbrev CategoryReading : Type :=
  Except PhpError (List (CategoryId × ℚ))

/-- The loop of `calculateCategoricalScore` over what its queries return. -/
def categoryTotalsOf
    (readings : List CategoryReading) :
    Except PhpError (List (CategoryId × CategoryTotal)) :=
  readings.foldlM
    (fun totals reading => do
      let records ← reading
      .ok (records.foldl
        (fun entries record =>
          OrderedMap.adjust record.1 {} (fun entry =>
            entry.add record.2) entries)
        totals))
    []

/-- `calculateCategoricalScore` over what its queries return. -/
def categoricalScoreOf
    (readings : List CategoryReading) :
    Except PhpError (Option ℚ) := do
  let totals ← categoryTotalsOf readings
  .ok ((averageCategoryScore totals).map (roundHalfAway 2))

/-- A result that the order of the weight rows allows. -/
def MayScore (catalogue : Catalogue)
    (responses : List ParticipantResponse)
    (result : Except PhpError (Option ℚ)) : Prop :=
  ∃ readings,
    List.Forall₂ MayReturn (responses.map (categoryRecords catalogue))
        readings ∧
      result = categoricalScoreOf readings

theorem categoryTotals_eq_categoryTotalsOf
    (catalogue : Catalogue) (responses : List ParticipantResponse) :
    categoryTotals catalogue responses =
      categoryTotalsOf (responses.map (categoryRecords catalogue)) := by
  rw [categoryTotalsOf, List.foldlM_map]
  rfl

/-- The service itself reads every row in the order of its table. -/
theorem calculateCategoricalScore_eq
    (catalogue : Catalogue) (responses : List ParticipantResponse) :
    calculateCategoricalScore catalogue responses =
      categoricalScoreOf
        (responses.map (categoryRecords catalogue)) := by
  rw [calculateCategoricalScore, unroundedCategoricalScore,
    categoricalScoreOf, ← categoryTotals_eq_categoryTotalsOf]
  cases categoryTotals catalogue responses <;> rfl

theorem MayReturn.refl {Row : Type}
    (reading : Except PhpError (List Row)) :
    MayReturn reading reading := by
  cases reading with
  | ok records => exact MayReturn.rows (List.Perm.refl records)
  | error error => exact MayReturn.exception error

/-- The result of the service is among the results of any order. -/
theorem mayScore_calculateCategoricalScore
    (catalogue : Catalogue) (responses : List ParticipantResponse) :
    MayScore catalogue responses
      (calculateCategoricalScore catalogue responses) :=
  ⟨responses.map (categoryRecords catalogue),
    List.forall₂_same.mpr fun _ _ => MayReturn.refl _,
    calculateCategoricalScore_eq catalogue responses⟩

/-- The loop evaluates its readings and tallies all their records. -/
theorem categoryTotalsOf_eq (readings : List CategoryReading) :
    categoryTotalsOf readings =
      (do
        let lists ←
          readings.mapM (id : CategoryReading → CategoryReading)
        .ok (tally {} CategoryTotal.add lists.flatten)) := by
  simp only [tally, List.foldl_flatten]
  exact
    foldlM_eq_mapM_foldl (id : CategoryReading → CategoryReading) _
      readings []

/-- The average does not depend on the order of the categories. -/
theorem averageCategoryScore_perm
    {totals other : List (CategoryId × CategoryTotal)}
    (perm : totals.Perm other) :
    averageCategoryScore totals = averageCategoryScore other := by
  have sameScores :
      ((totals.filter fun entry => 0 < entry.2.maxWeight).map
          fun entry => categoryScore entry.2).Perm
        ((other.filter fun entry => 0 < entry.2.maxWeight).map
          fun entry => categoryScore entry.2) :=
    (perm.filter _).map _
  have sameEmpty : totals = [] ↔ other = [] := by
    rw [← List.length_eq_zero_iff, perm.length_eq,
      List.length_eq_zero_iff]
  have sameNone :
      ((totals.filter fun entry => 0 < entry.2.maxWeight).map
          fun entry => categoryScore entry.2) = [] ↔
        ((other.filter fun entry => 0 < entry.2.maxWeight).map
          fun entry => categoryScore entry.2) = [] := by
    rw [← List.length_eq_zero_iff, sameScores.length_eq,
      List.length_eq_zero_iff]
  simp only [averageCategoryScore, sameEmpty, sameNone,
    sameScores.sum_eq, sameScores.length_eq]

theorem categoryTotal_add_comm
    (entry : CategoryTotal) (first second : ℚ) :
    (entry.add first).add second = (entry.add second).add first := by
  simp only [CategoryTotal.add, add_right_comm]

/-- Readings in another order lead to the same score. -/
theorem categoricalScoreOf_eq_ok_of_reordered
    {readings others : List CategoryReading}
    (same : Reordered MayReturn readings others)
    {score : Option ℚ}
    (computed : categoricalScoreOf readings = .ok score) :
    categoricalScoreOf others = .ok score := by
  rw [categoricalScoreOf, categoryTotalsOf_eq, bind_eq_ok_iff]
    at computed
  rcases computed with ⟨totals, computedTotals, ⟨⟩⟩
  rcases bind_eq_ok_iff.mp computedTotals with ⟨lists, returns, ⟨⟩⟩
  have counterparts :
      ∃ results,
        others.mapM (id : CategoryReading → CategoryReading) =
            .ok results ∧
          Reordered List.Perm lists results := by
    apply same.mapM_eq_ok _ returns
    rintro _ _ records sameRows evaluated
    cases sameRows with
    | rows moved =>
        cases evaluated
        exact ⟨_, rfl, moved⟩
    | exception error => cases evaluated
  rcases counterparts with ⟨results, returnsOther, moved⟩
  have sameTotals :
      averageCategoryScore (tally {} CategoryTotal.add lists.flatten) =
        averageCategoryScore
          (tally {} CategoryTotal.add results.flatten) :=
    averageCategoryScore_perm
      (perm_tally categoryTotal_add_comm moved.perm_flatten)
  rw [categoricalScoreOf, categoryTotalsOf_eq, returnsOther, sameTotals]
  rfl

theorem MayReturn.symm {Row : Type}
    {reading other : Except PhpError (List Row)}
    (same : MayReturn reading other) : MayReturn other reading := by
  cases same with
  | rows moved => exact MayReturn.rows moved.symm
  | exception error => exact MayReturn.exception error

theorem MayReturn.trans {Row : Type}
    {first second third : Except PhpError (List Row)}
    (left : MayReturn first second) (right : MayReturn second third) :
    MayReturn first third := by
  cases left with
  | rows moved =>
      cases right with
      | rows movedAgain =>
          exact MayReturn.rows (moved.trans movedAgain)
  | exception error => exact right

theorem categoricalScoreOf_error
    {catalogue : Catalogue} {responses : List ParticipantResponse}
    {readings : List CategoryReading}
    (returned :
      List.Forall₂ MayReturn (responses.map (categoryRecords catalogue))
        readings)
    {error : PhpError}
    (raised : categoricalScoreOf readings = .error error) :
    error = .typeError := by
  rw [categoricalScoreOf, categoryTotalsOf_eq] at raised
  cases computed :
      readings.mapM (id : CategoryReading → CategoryReading) with
  | ok lists =>
      rw [computed] at raised
      cases raised
  | error other =>
      rw [computed] at raised
      cases raised
      rcases exists_of_mapM_eq_error computed with
        ⟨reading, listed, raises⟩
      rcases exists_entry_of_row returned listed with
        ⟨own, ownListed, same⟩
      rcases List.mem_map.mp ownListed with ⟨response, _, rfl⟩
      change reading = _ at raises
      subst raises
      generalize evaluated : categoryRecords catalogue response = own
        at same
      cases same
      exact categoryRecords_error catalogue response error evaluated

theorem categoryRecords_sameUpToKeyOrder
    (catalogue : Catalogue) {response other : ParticipantResponse}
    (same : SameUpToKeyOrder response other) :
    MayReturn (categoryRecords catalogue response)
      (categoryRecords catalogue other) := by
  have sameQuestion : response.questionId = other.questionId := by
    rw [← same.sameColumns]
  have sameSelection :
      response.selectedAnswerIds = other.selectedAnswerIds := by
    rw [← same.sameColumns]
    rfl
  rw [categoryRecords, categoryRecords, sameQuestion, sameSelection]
  cases catalogue.question? other.questionId with
  | none => exact MayReturn.refl _
  | some question =>
      dsimp only
      cases question.questionType with
      | written =>
          exact MayReturn.rows (perm_gradedRecords same.sameGrades)
      | mcq => exact MayReturn.refl _

/-- Whatever order the queries return, the score is that of the service. -/
theorem mayScore_iff_of_reordered
    (catalogue : Catalogue)
    {responses reordered : List ParticipantResponse}
    (same : Reordered SameUpToKeyOrder responses reordered)
    (result : Except PhpError (Option ℚ)) :
    MayScore catalogue reordered result ↔
      result = calculateCategoricalScore catalogue responses := by
  have sameReadings :
      Reordered MayReturn (responses.map (categoryRecords catalogue))
        (reordered.map (categoryRecords catalogue)) :=
    same.map _ _ fun _ _ => categoryRecords_sameUpToKeyOrder catalogue
  have ownReadings :
      List.Forall₂ MayReturn (responses.map (categoryRecords catalogue))
        (responses.map (categoryRecords catalogue)) :=
    List.forall₂_same.mpr fun _ _ => MayReturn.refl _
  have fromAnyOrder {readings : List CategoryReading}
      (returned :
        List.Forall₂ MayReturn
          (reordered.map (categoryRecords catalogue)) readings) :
      categoricalScoreOf readings =
        calculateCategoricalScore catalogue responses := by
    have reorderedReadings :
        Reordered MayReturn (responses.map (categoryRecords catalogue))
          readings :=
      sameReadings.comp_forall₂ returned
        fun _ _ _ => MayReturn.trans
    rw [calculateCategoricalScore_eq]
    apply eq_of_ok_iff
      (fun _ => categoricalScoreOf_error returned)
      (fun _ => categoricalScoreOf_error ownReadings)
    intro score
    constructor
    · exact
        categoricalScoreOf_eq_ok_of_reordered
          (reorderedReadings.symm.imp fun _ _ => MayReturn.symm)
    · exact categoricalScoreOf_eq_ok_of_reordered reorderedReadings
  constructor
  · rintro ⟨readings, returned, rfl⟩
    exact fromAnyOrder returned
  · rintro rfl
    have returned :
        List.Forall₂ MayReturn
          (reordered.map (categoryRecords catalogue))
          (reordered.map (categoryRecords catalogue)) :=
      List.forall₂_same.mpr fun _ _ => MayReturn.refl _
    exact ⟨_, returned, (fromAnyOrder returned).symm⟩

/-! ## Strengths dashboard -/

/-- The arrays that the dashboard returns for its accumulated entries. -/
def scoresOfEntries (entries : List (CategoryId × CategoryEntry)) :
    CategoryScores where
  labels := entries.map fun entry => entry.2.info.label
  values :=
    (entries.map fun entry => normalizedScore entry.2).map
      (roundHalfAway 1)
  colors := entries.map fun entry => entry.2.info.color

/-- The categories with their values. -/
def pairs (scores : CategoryScores) : List (CategoryLabel × ℚ) :=
  scores.labels.zip scores.values

/-- The rows of a join in some order, then the keys of a grade. -/
def MayAdd (catalogue : Catalogue) (response : ParticipantResponse)
    (records : List (CategoryId × WeightRecord)) : Prop :=
  ∃ selected,
    (selectedRecords catalogue response).Perm selected ∧
      records = selected ++ gradedWeightRecords catalogue response

/-- The arrays that the order of the weight rows allows. -/
def MayShow (catalogue : Catalogue) (database : Database)
    (participant : UserId) (scores : CategoryScores) : Prop :=
  ∃ readings,
    List.Forall₂ (MayAdd catalogue)
        (responsesOfParticipant database participant) readings ∧
      scores =
        scoresOfEntries
          (readings.foldl
            (fun entries records => records.foldl addRecord entries)
            [])

/-- The label of a category depends on its id only. -/
def labelOf (catalogue : Catalogue) (id : CategoryId) : CategoryLabel :=
  match catalogue.category? id with
  | some category => .named category.name
  | none => .numbered id

/-- The value that the dashboard shows for a total. -/
def valueOf (total : CategoryTotal) : ℚ :=
  roundHalfAway 1
    (min 100 (max 0 (total.total / max total.maxWeight 1 * 100)))

/-- The dashboard itself reads every row in the order of its table. -/
theorem mayShow_getCategoryScores
    (catalogue : Catalogue) (database : Database)
    (participant : UserId) :
    MayShow catalogue database participant
      (getCategoryScores catalogue database participant) := by
  refine
    ⟨(responsesOfParticipant database participant).map
        (responseRecords catalogue), ?_, ?_⟩
  · rw [List.forall₂_map_right_iff]
    exact
      List.forall₂_same.mpr fun response _ =>
        ⟨selectedRecords catalogue response, List.Perm.refl _, rfl⟩
  · rw [List.foldl_map]
    rfl

theorem label_of_mem_responseRecords
    (catalogue : Catalogue) {response : ParticipantResponse}
    {record : CategoryId × WeightRecord}
    (listed : record ∈ responseRecords catalogue response) :
    record.2.info.label = labelOf catalogue record.1 := by
  rcases List.mem_append.mp listed with selected | graded
  · rw [selectedRecords] at selected
    split at selected
    · split_ifs at selected with chosen
      · rcases List.mem_filterMap.mp selected with
          ⟨weight, _, joined⟩
        rcases Option.map_eq_some_iff.mp joined with
          ⟨category, found, rfl⟩
        have sameId : category.id = weight.categoryId :=
          ((catalogue.category?_eq_some_iff _ _).mp found).2
        change CategoryLabel.named _ = labelOf catalogue category.id
        rw [labelOf, sameId, found]
      · cases selected
    · cases selected
  · rcases List.mem_map.mp graded with ⟨weight, _, rfl⟩
    change (gradedInfo catalogue weight.1).label = _
    rw [gradedInfo, labelOf]
    cases catalogue.category? weight.1 <;> rfl

/-- Entries keep the labels of their records. -/
theorem label_of_mem_foldl_addRecord
    (catalogue : Catalogue)
    {records : List (CategoryId × WeightRecord)}
    {entries : List (CategoryId × CategoryEntry)}
    (labelled : ∀ record ∈ records,
      record.2.info.label = labelOf catalogue record.1)
    (all : ∀ entry ∈ entries,
      entry.2.info.label = labelOf catalogue entry.1) :
    ∀ entry ∈ records.foldl addRecord entries,
      entry.2.info.label = labelOf catalogue entry.1 := by
  induction records generalizing entries with
  | nil => exact all
  | cons record rest induction =>
      rw [List.forall_mem_cons] at labelled
      have shared :
          ∀ entry ∈ addRecord entries record,
            entry.2.info.label = labelOf catalogue entry.1 :=
        forall_mem_adjust
          (fun id (entry : CategoryEntry) =>
            entry.info.label = labelOf catalogue id)
          all labelled.1 fun _ sameLabel => sameLabel
      exact induction labelled.2 shared

/-- The categories and values are those of a tally of the weights. -/
theorem pairs_scoresOfEntries
    (catalogue : Catalogue)
    {records : List (CategoryId × WeightRecord)}
    (labelled : ∀ record ∈ records,
      record.2.info.label = labelOf catalogue record.1) :
    pairs (scoresOfEntries (records.foldl addRecord [])) =
      (tally {} CategoryTotal.add
          (records.map fun record => (record.1, record.2.weight))).map
        fun entry => (labelOf catalogue entry.1, valueOf entry.2) := by
  have labels :=
    label_of_mem_foldl_addRecord catalogue labelled
      (fun entry (listed : entry ∈ []) => nomatch listed)
  have totals :
      (records.foldl addRecord []).map
          (fun entry => (entry.1, totalsOf entry.2)) =
        tally {} CategoryTotal.add
          (records.map fun record => (record.1, record.2.weight)) :=
    totalsOf_foldl_addRecord records []
  rw [← totals, pairs, scoresOfEntries, List.map_map, List.map_map,
    List.zip_map']
  apply List.map_congr_left
  intro entry listed
  exact Prod.ext (labels entry listed) rfl

theorem selectedRecords_sameUpToKeyOrder
    (catalogue : Catalogue) {response other : ParticipantResponse}
    (same : SameUpToKeyOrder response other) :
    selectedRecords catalogue response =
      selectedRecords catalogue other := by
  rw [← same.sameColumns]
  rfl

/-- Whatever order a query returns, a response adds the same weights. -/
theorem perm_responseRecords
    (catalogue : Catalogue) {response other : ParticipantResponse}
    (same : SameUpToKeyOrder response other)
    {records : List (CategoryId × WeightRecord)}
    (adds : MayAdd catalogue other records) :
    (responseRecords catalogue response).Perm records := by
  rcases adds with ⟨selected, moved, rfl⟩
  rw [responseRecords, selectedRecords_sameUpToKeyOrder catalogue same]
  exact
    moved.append ((perm_gradedRecords same.sameGrades).map _)

/-- The dashboard reads the same rows of a participant. -/
theorem reordered_responsesOfParticipant
    {database other : Database}
    (same :
      Reordered SameUpToKeyOrder database.participantResponses.rows
        other.participantResponses.rows)
    (participant : UserId) :
    Reordered SameUpToKeyOrder
      (responsesOfParticipant database participant)
      (responsesOfParticipant other participant) := by
  apply same.filter
  intro response row sameRow
  have sameColumns := sameRow.sameColumns
  have sameNull := eq_none_iff_of_keyOrder sameRow.sameGrades
  rw [← sameColumns]
  simp [sameNull]

/-- Rows in another order show the same categories and values. -/
theorem perm_pairs_of_mayShow
    (catalogue : Catalogue) {database other : Database}
    (same :
      Reordered SameUpToKeyOrder database.participantResponses.rows
        other.participantResponses.rows)
    {participant : UserId} {scores : CategoryScores}
    (shown : MayShow catalogue other participant scores) :
    (pairs (getCategoryScores catalogue database participant)).Perm
      (pairs scores) := by
  rcases shown with ⟨readings, added, rfl⟩
  have each :
      Reordered
        (fun response records =>
          (responseRecords catalogue response).Perm records)
        (responsesOfParticipant database participant) readings :=
    (reordered_responsesOfParticipant same participant).comp_forall₂
      added fun _ _ _ sameRow adds =>
        perm_responseRecords catalogue sameRow adds
  have moved :
      ((responsesOfParticipant database participant).flatMap
          (responseRecords catalogue)).Perm
        readings.flatten := by
    have lists :=
      each.map (responseRecords catalogue) id fun _ _ perm => perm
    rw [List.map_id] at lists
    exact lists.perm_flatten
  have labelled :
      ∀ record ∈
          (responsesOfParticipant database participant).flatMap
            (responseRecords catalogue),
        record.2.info.label = labelOf catalogue record.1 := by
    intro record listed
    rcases List.mem_flatMap.mp listed with ⟨response, _, own⟩
    exact label_of_mem_responseRecords catalogue own
  have ownEntries :
      getCategoryScores catalogue database participant =
        scoresOfEntries
          (((responsesOfParticipant database participant).flatMap
            (responseRecords catalogue)).foldl addRecord []) := by
    rw [List.flatMap, List.foldl_flatten, List.foldl_map]
    rfl
  rw [ownEntries, ← List.foldl_flatten,
    pairs_scoresOfEntries catalogue labelled,
    pairs_scoresOfEntries catalogue fun record listed =>
      labelled record (moved.mem_iff.mpr listed)]
  exact
    (perm_tally categoryTotal_add_comm (moved.map _)).map _

/-! ## All scores -/

/--
For every set of responses and every order of them, of the keys of their
grades and of the weight rows that each query returns: the percentile and
the categorical score are the same, and the dashboard shows the same
categories with the same values.
-/
theorem scores_ignore_order
    (catalogue : Catalogue)
    {responses reordered : List ParticipantResponse}
    (same : Reordered SameUpToKeyOrder responses reordered)
    {database other : Database}
    (sameRows :
      Reordered SameUpToKeyOrder database.participantResponses.rows
        other.participantResponses.rows) :
    calculatePercentileScore catalogue reordered =
        calculatePercentileScore catalogue responses ∧
      calculateCategoricalScore catalogue reordered =
        calculateCategoricalScore catalogue responses ∧
      (∀ result, MayScore catalogue reordered result ↔
        result = calculateCategoricalScore catalogue responses) ∧
      ∀ participant,
        (pairs (getCategoryScores catalogue database participant)).Perm
            (pairs (getCategoryScores catalogue other participant)) ∧
          ∀ scores, MayShow catalogue other participant scores →
            (pairs
              (getCategoryScores catalogue database participant)).Perm
              (pairs scores) := by
  have mayScore := mayScore_iff_of_reordered catalogue same
  refine
    ⟨calculatePercentileScore_of_reordered catalogue same, ?_,
      mayScore, ?_⟩
  · apply (mayScore _).mp
    exact mayScore_calculateCategoricalScore catalogue reordered
  · intro participant
    constructor
    · exact
        perm_pairs_of_mayShow catalogue sameRows
          (mayShow_getCategoryScores catalogue other participant)
    · intro scores shown
      exact perm_pairs_of_mayShow catalogue sameRows shown

/-- A choice and a text graded in two categories. -/
def choiceRow : ParticipantResponse where
  assessmentId := 2
  participantId := 1
  questionId := 4
  selectedAnswerIdsColumn := castArraySet (.list [3])
  writtenResponseText := none
  gradedScore := none
  gradedCategories := none
  gradedBy := none
  gradedAt := none

def gradedRow (categories : GradedCategories) : ParticipantResponse where
  assessmentId := 1
  participantId := 1
  questionId := 2
  selectedAnswerIdsColumn := none
  writtenResponseText := some "a"
  gradedScore := none
  gradedCategories := some categories
  gradedBy := some 2
  gradedAt := some 1

/-- The choice comes first. -/
def choiceFirst : Database where
  participantResponses :=
    { rows := [choiceRow, gradedRow [(1, some 2), (7, some 3)]]
      distinct := by decide }
  assessmentParticipants := []

/-- The graded text comes first, with its keys the other way round. -/
def textFirst : Database where
  participantResponses :=
    { rows := [gradedRow [(7, some 3), (1, some 2)], choiceRow]
      distinct := by decide }
  assessmentParticipants := []

theorem reordered_textFirst :
    Reordered SameUpToKeyOrder choiceFirst.participantResponses.rows
      textFirst.participantResponses.rows := by
  refine ⟨_, List.Perm.swap _ _ _, ?_⟩
  apply List.Forall₂.cons
  · exact
      { sameColumns := rfl
        sameGrades := Option.Rel.some (List.Perm.swap _ _ _) }
  · apply List.Forall₂.cons _ List.Forall₂.nil
    exact { sameColumns := rfl, sameGrades := Option.Rel.none }

theorem scores_ignore_order_textFirst :
    calculateCategoricalScore sampleCatalogue
        textFirst.participantResponses.rows =
      calculateCategoricalScore sampleCatalogue
        choiceFirst.participantResponses.rows :=
  (scores_ignore_order sampleCatalogue reordered_textFirst
    reordered_textFirst).2.1

end SultanPass.ScoreOrder
