import SultanPass.ScoreTotals

/-!
# `DashboardController::getCategoryScores`

The strengths dashboard of a participant.  It reads the raw columns of
`participant_responses`, decodes them itself, and accumulates the weights
of each category with the name and colour to show.

`totalsOf_categoryEntries` describes the totals without the loops: they are
those of `AssessmentScoreService` over the weights that the dashboard reads.
-/

namespace SultanPass.DashboardController

open SultanPass.Library
open SultanPass.Library.OrderedMap
open SultanPass.Library.Rounding
open SultanPass.AssessmentScoreService

/-! ## The records of one response -/

/-- `json_decode($response->selected_answer_ids ?? '[]', true)`. -/
def decodedAnswerIds (column : Option JsonText.Text) : PhpValue :=
  match column with
  | none => .list []
  | some text => (JsonText.decode text).getD .null

/-- The name of a category, or the numbered name of an unknown one. -/
inductive CategoryLabel where
  | named (name : String)
  | numbered (id : CategoryId)
deriving DecidableEq, Repr

/-- One entry of `$categoryInfo`. -/
structure CategoryInfo where
  label : CategoryLabel
  color : String
deriving DecidableEq, Repr

def defaultColor : String :=
  "#B68A35"

/-- PHP's `$color ?: '#B68A35'`. -/
def truthyColor : Option String → String
  | none => defaultColor
  | some color =>
      if color = "" || color = "0" then defaultColor else color

/-- A weight with the info that its category gets when it is new. -/
structure WeightRecord where
  weight : ℚ
  info : CategoryInfo
deriving DecidableEq, Repr

/-- The weights of the answers joined with their categories. -/
def joinedWeights (catalogue : Catalogue) (answerIds : List ℤ) :
    List (CategoryId × WeightRecord) :=
  (catalogue.answerCategoryWeights.filter fun weight =>
    weight.answerId ∈ answerIds).filterMap fun weight =>
      (catalogue.category? weight.categoryId).map fun category =>
        (category.id,
          { weight := weight.weight
            info :=
              { label := .named category.name
                color := truthyColor category.color } })

/-- The weights inferred from the selected answers. -/
def selectedRecords (catalogue : Catalogue)
    (response : ParticipantResponse) :
    List (CategoryId × WeightRecord) :=
  match decodedAnswerIds response.selectedAnswerIdsColumn with
  | .list answerIds =>
      if answerIds ≠ [] then joinedWeights catalogue answerIds else []
  | _ => []

/-- The info of a category that a grade mentions. -/
def gradedInfo (catalogue : Catalogue) (id : CategoryId) :
    CategoryInfo :=
  match catalogue.category? id with
  | some category =>
      { label := .named category.name
        color := category.color.getD defaultColor }
  | none => { label := .numbered id, color := defaultColor }

/-- The weights of the graded categories. -/
def gradedWeightRecords (catalogue : Catalogue)
    (response : ParticipantResponse) :
    List (CategoryId × WeightRecord) :=
  (gradedRecords response.gradedCategories).map fun record =>
    (record.1,
      { weight := record.2, info := gradedInfo catalogue record.1 })

/-- All weights that the loop body adds for one response. -/
def responseRecords (catalogue : Catalogue)
    (response : ParticipantResponse) :
    List (CategoryId × WeightRecord) :=
  selectedRecords catalogue response ++
    gradedWeightRecords catalogue response

/-! ## Accumulation and result -/

/-- One entry of `$categoryTotals`, `$categoryMax` and `$categoryInfo`. -/
structure CategoryEntry where
  total : ℚ
  max : ℚ
  info : CategoryInfo
deriving DecidableEq, Repr

def CategoryEntry.new (info : CategoryInfo) : CategoryEntry where
  total := 0
  max := 0
  info := info

/-- Each weight counts against an assumed maximum of 3.0. -/
def CategoryEntry.add (entry : CategoryEntry) (weight : ℚ) :
    CategoryEntry :=
  { entry with
    total := entry.total + weight
    max := entry.max + 3 }

def addRecord (entries : List (CategoryId × CategoryEntry))
    (record : CategoryId × WeightRecord) :
    List (CategoryId × CategoryEntry) :=
  adjust record.1 (CategoryEntry.new record.2.info)
    (fun entry => entry.add record.2.weight) entries

/-- The loop over the responses. -/
def categoryEntries (catalogue : Catalogue)
    (responses : List ParticipantResponse) :
    List (CategoryId × CategoryEntry) :=
  responses.foldl
    (fun entries response =>
      (responseRecords catalogue response).foldl addRecord entries)
    []

/-- `$normalizedScore`. -/
def normalizedScore (entry : CategoryEntry) : ℚ :=
  min 100 (max 0 (entry.total / max entry.max 1 * 100))

/-- The rows that the query selects for a participant. -/
def responsesOfParticipant (database : Database)
    (participant : UserId) : List ParticipantResponse :=
  database.participantResponses.rows.filter fun response =>
    response.participantId = participant ∧
      (response.selectedAnswerIdsColumn ≠ none ∨
        response.gradedCategories ≠ none)

/-- The array `['labels' => …, 'values' => …, 'colors' => …]`. -/
structure CategoryScores where
  labels : List CategoryLabel
  values : List ℚ
  colors : List String
deriving DecidableEq, Repr

/-- The values before their rounding. -/
def unroundedValues (catalogue : Catalogue) (database : Database)
    (participant : UserId) : List ℚ :=
  (categoryEntries catalogue
    (responsesOfParticipant database participant)).map fun entry =>
      normalizedScore entry.2

/-- `getCategoryScores`. -/
def getCategoryScores (catalogue : Catalogue) (database : Database)
    (participant : UserId) : CategoryScores :=
  let entries :=
    categoryEntries catalogue
      (responsesOfParticipant database participant)
  { labels := entries.map fun entry => entry.2.info.label
    values :=
      (unroundedValues catalogue database participant).map
        (roundHalfAway 1)
    colors := entries.map fun entry => entry.2.info.color }

/-! ## The totals without the loops -/

/-- The totals of an entry, as the scoring service keeps them. -/
def totalsOf (entry : CategoryEntry) : CategoryTotal where
  total := entry.total
  maxWeight := entry.max

/-- The weights of one response without the infos. -/
def weightRecords (catalogue : Catalogue)
    (response : ParticipantResponse) : List (CategoryId × ℚ) :=
  (responseRecords catalogue response).map fun record =>
    (record.1, record.2.weight)

theorem totalsOf_foldl_addRecord
    (records : List (CategoryId × WeightRecord))
    (entries : List (CategoryId × CategoryEntry)) :
    (records.foldl addRecord entries).map
        (fun entry => (entry.1, totalsOf entry.2)) =
      (records.map fun record => (record.1, record.2.weight)).foldl
        (fun totals record =>
          adjust record.1 {} (fun entry => entry.add record.2) totals)
        (entries.map fun entry => (entry.1, totalsOf entry.2)) := by
  induction records generalizing entries with
  | nil => rfl
  | cons record rest induction =>
      rw [List.foldl_cons, induction, List.map_cons, List.foldl_cons,
        addRecord]
      congr 1
      exact
        map_adjust totalsOf record.1 _ _
          (fun entry => entry.add record.2.weight) (fun _ => rfl)
          entries

/-- The totals of the dashboard are a tally of the weights it reads. -/
theorem totalsOf_categoryEntries
    (catalogue : Catalogue) (responses : List ParticipantResponse) :
    (categoryEntries catalogue responses).map
        (fun entry => (entry.1, totalsOf entry.2)) =
      tally {} CategoryTotal.add
        (responses.flatMap (weightRecords catalogue)) := by
  have flattened :
      categoryEntries catalogue responses =
        (responses.flatMap (responseRecords catalogue)).foldl
          addRecord [] := by
    rw [categoryEntries, List.flatMap, List.foldl_flatten,
      List.foldl_map]
  have mapped :
      (responses.flatMap (responseRecords catalogue)).map
          (fun record => (record.1, record.2.weight)) =
        responses.flatMap (weightRecords catalogue) := by
    rw [List.map_flatMap]
    rfl
  rw [flattened, totalsOf_foldl_addRecord, mapped]
  rfl

/-- The join finds the category of every weight. -/
theorem joinedWeights_eq
    (catalogue : Catalogue) (answerIds : List ℤ) :
    (joinedWeights catalogue answerIds).map
        (fun record => (record.1, record.2.weight)) =
      weightsOf catalogue answerIds := by
  rw [joinedWeights, weightsOf, List.map_filterMap,
    ← List.filterMap_eq_map]
  apply List.filterMap_congr
  intro weight member
  have known :=
    catalogue.weightCategories weight (List.mem_filter.mp member).1
  rcases List.mem_map.mp known with ⟨category, listed, sameId⟩
  have found :=
    (catalogue.category?_eq_some_iff weight.categoryId category).mpr
      ⟨listed, sameId⟩
  simp [found, sameId]

theorem map_gradedWeightRecords
    (catalogue : Catalogue) (response : ParticipantResponse) :
    (gradedWeightRecords catalogue response).map
        (fun record => (record.1, record.2.weight)) =
      gradedRecords response.gradedCategories := by
  rw [gradedWeightRecords, List.map_map]
  exact List.map_id _

end SultanPass.DashboardController
