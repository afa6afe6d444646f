import SultanPass.CategoryScores
import SultanPass.DashboardCharts

/-!
# The strengths chart of a participant

The script of the performance page sorts the category scores that it finds
in the attribute of its canvas, and colours every bar by its value.
`strengths_chart_ranks_categories` says what is drawn in terms of the
responses: one bar for each category that they carry a weight of, the
strongest first.
-/

namespace SultanPass.DashboardController

open SultanPass.Library
open SultanPass.Library.HtmlText (readAttribute)
open SultanPass.Library.OrderedMap
open SultanPass.Library.Rounding
open SultanPass.AssessmentScoreService

/-! ## The chart and its script -/

/-- A label with the translation of `Category :id` for unknown categories. -/
def CategoryLabel.text (numbered : CategoryId → String) :
    CategoryLabel → String
  | .named name => name
  | .numbered id => numbered id

/-- `$categoryScores` as the view prints it. -/
def CategoryScores.chart (numbered : CategoryId → String)
    (scores : CategoryScores) : ChartData where
  labels := scores.labels.map (CategoryLabel.text numbered)
  values := scores.values
  colors := some scores.colors

/-- An entry of `sortedData`. -/
structure StrengthItem where
  label : String
  value : ℚ
  color : String
deriving DecidableEq, Repr

/-- A bar of the chart; `barColors` ignores the colour of the category. -/
structure StrengthBar where
  label : String
  value : ℚ
  barColor : String
deriving DecidableEq, Repr

/-- Green for strengths, yellow for the middle, red for weaknesses. -/
def barColor (value : ℚ) : String :=
  if 70 ≤ value then "#10B981"
  else if 50 ≤ value then "#F59E0B"
  else "#EF4444"

/-- `barData.colors[index] || goldColor`. -/
def itemColor (goldColor : String) : Option String → String
  | some color => if color = "" then goldColor else color
  | none => goldColor

/-- The item at an index of the labels. -/
def strengthItem (goldColor : String) (chart : ChartData)
    (entry : String × ℕ) : Option StrengthItem := do
  let colors ← chart.colors
  let value ← chart.values[entry.2]?
  return {
    label := entry.1
    value := value
    color := itemColor goldColor colors[entry.2]? }

/-- `sortedData`: the items, the strongest first. -/
def sortedData (goldColor : String) (chart : ChartData) :
    Option (List StrengthItem) :=
  (chart.labels.zipIdx.mapM (strengthItem goldColor chart)).map fun items =>
    items.mergeSort fun left right => right.value ≤ left.value

def StrengthItem.bar (item : StrengthItem) : StrengthBar where
  label := item.label
  value := item.value
  barColor := barColor item.value

/-- The bar of a chart without data. -/
def noDataBar (noData : String) : StrengthBar where
  label := noData
  value := 0
  barColor := "#C6C6C6"

def emptyStrengths : String :=
  "\x7b\"labels\":[],\"values\":[],\"colors\":[]\x7d"

/-- The script of the canvas `categoryBarChart`. -/
def initCategoryBarChart (goldColor noData : String) (page : List Char) :
    Option (List StrengthBar) := do
  let barData ← parseChart emptyStrengths (readAttribute page).1
  if barData.labels.length > 0 then
    return (← sortedData goldColor barData).map StrengthItem.bar
  else
    return [noDataBar noData]

/-! ## The entries of the categories -/

/-- The weights that the responses of a participant carry. -/
def participantWeights (catalogue : Catalogue) (database : Database)
    (participant : UserId) : List (CategoryId × ℚ) :=
  (responsesOfParticipant database participant).flatMap
    (weightRecords catalogue)

/-- The percentage of a category among the weights. -/
def strengthOf (weights : List (CategoryId × ℚ)) (id : CategoryId) : ℚ :=
  roundHalfAway 1
    (min 100
      (max 0
        ((recordsOf id weights).sum /
            max (3 * ((recordsOf id weights).length : ℚ)) 1 * 100)))

/-- The bar of a category. -/
def strengthBar (catalogue : Catalogue) (numbered : CategoryId → String)
    (weights : List (CategoryId × ℚ)) (id : CategoryId) : StrengthBar where
  label := (gradedInfo catalogue id).label.text numbered
  value := strengthOf weights id
  barColor := barColor (strengthOf weights id)

theorem label_of_mem_joinedWeights {catalogue : Catalogue}
    {answerIds : List ℤ} {record : CategoryId × WeightRecord}
    (member : record ∈ joinedWeights catalogue answerIds) :
    record.2.info.label = (gradedInfo catalogue record.1).label := by
  rcases List.mem_filterMap.mp member with ⟨weight, _, joined⟩
  rcases Option.map_eq_some_iff.mp joined with ⟨category, found, rfl⟩
  have own : catalogue.category? category.id = some category := by
    rw [((catalogue.category?_eq_some_iff _ _).mp found).2]
    exact found
  rw [gradedInfo, own]

/-- A weight brings the label of its category. -/
theorem label_of_mem_responseRecords {catalogue : Catalogue}
    {response : ParticipantResponse} {record : CategoryId × WeightRecord}
    (member : record ∈ responseRecords catalogue response) :
    record.2.info.label = (gradedInfo catalogue record.1).label := by
  rcases List.mem_append.mp member with selected | graded
  · rw [selectedRecords] at selected
    split at selected
    · split_ifs at selected
      · exact label_of_mem_joinedWeights selected
      · cases selected
    · cases selected
  · rcases List.mem_map.mp graded with ⟨grade, _, rfl⟩
    rfl

theorem labels_foldl_addRecord {catalogue : Catalogue}
    {records : List (CategoryId × WeightRecord)}
    (own :
      ∀ record ∈ records,
        record.2.info.label = (gradedInfo catalogue record.1).label)
    {entries : List (CategoryId × CategoryEntry)}
    (all :
      ∀ entry ∈ entries,
        entry.2.info.label = (gradedInfo catalogue entry.1).label) :
    ∀ entry ∈ records.foldl addRecord entries,
      entry.2.info.label = (gradedInfo catalogue entry.1).label := by
  induction records generalizing entries with
  | nil => exact all
  | cons record records induction =>
      rw [List.forall_mem_cons] at own
      exact
        induction own.2
          (forall_mem_adjust
            (fun id (entry : CategoryEntry) =>
              entry.info.label = (gradedInfo catalogue id).label)
            all own.1 fun _ same => same)

/-- An entry bears the label of its category, however it began. -/
theorem label_of_mem_categoryEntries {catalogue : Catalogue}
    {responses : List ParticipantResponse}
    {entry : CategoryId × CategoryEntry}
    (member : entry ∈ categoryEntries catalogue responses) :
    entry.2.info.label = (gradedInfo catalogue entry.1).label := by
  have flattened :
      categoryEntries catalogue responses =
        (responses.flatMap (responseRecords catalogue)).foldl
          addRecord [] := by
    rw [categoryEntries, List.flatMap, List.foldl_flatten,
      List.foldl_map]
  rw [flattened] at member
  refine labels_foldl_addRecord ?_ (List.forall_mem_nil _) entry member
  intro record listed
  rcases List.mem_flatMap.mp listed with ⟨response, _, inResponse⟩
  exact label_of_mem_responseRecords inResponse

/-- The entries are the categories of the weights. -/
theorem map_categoryEntries (catalogue : Catalogue) (database : Database)
    (participant : UserId) :
    ((categoryEntries catalogue
            (responsesOfParticipant database participant)).map
          Prod.fst) =
      (tally {} CategoryTotal.add
        (participantWeights catalogue database participant)).map
          Prod.fst := by
  rw [participantWeights, ← totalsOf_categoryEntries, List.map_map]
  rfl

/-- The value of an entry is the percentage of its category. -/
theorem normalizedScore_of_mem {catalogue : Catalogue}
    {database : Database} {participant : UserId}
    {entry : CategoryId × CategoryEntry}
    (member :
      entry ∈
        categoryEntries catalogue
          (responsesOfParticipant database participant)) :
    roundHalfAway 1 (normalizedScore entry.2) =
      strengthOf (participantWeights catalogue database participant)
        entry.1 := by
  have totals :
      (entry.1, totalsOf entry.2) ∈
        tally {} CategoryTotal.add
          (participantWeights catalogue database participant) := by
    rw [participantWeights, ← totalsOf_categoryEntries]
    exact List.mem_map_of_mem member
  rcases (mem_tally_categoryTotal_iff _ _ _).mp totals with ⟨_, same⟩
  have total := congrArg CategoryTotal.total same
  have most := congrArg CategoryTotal.maxWeight same
  dsimp only [totalsOf] at total most
  rw [strengthOf, normalizedScore, total, most]

/-! ## The drawn bars -/

theorem mapM_eq_some_map {α β : Type} {read : α → Option β}
    {value : α → β} {items : List α}
    (reads : ∀ item ∈ items, read item = some (value item)) :
    items.mapM read = some (items.map value) := by
  induction items with
  | nil => rfl
  | cons item items induction =>
      rw [List.forall_mem_cons] at reads
      rw [List.mapM_cons, reads.1, induction reads.2]
      rfl

/-- The script finds the value of every label. -/
theorem mapM_strengthItem {Entry : Type} (goldColor : String)
    (entries : List Entry) (label : Entry → String) (value : Entry → ℚ)
    (color : Entry → String) :
    (entries.map label).zipIdx.mapM
        (strengthItem goldColor
          { labels := entries.map label
            values := entries.map value
            colors := some (entries.map color) }) =
      some
        (entries.map fun entry =>
          { label := label entry
            value := value entry
            color := itemColor goldColor (some (color entry)) }) := by
  have indexed :
      (entries.map label).zipIdx =
        entries.zipIdx.map fun entry => (label entry.1, entry.2) := by
    rw [List.zipIdx_map]
    rfl
  rw [indexed, List.mapM_map]
  have all :
      entries.zipIdx.mapM
          (fun entry =>
            strengthItem goldColor
              { labels := entries.map label
                values := entries.map value
                colors := some (entries.map color) }
              (label entry.1, entry.2)) =
        some
          (entries.zipIdx.map fun entry =>
            { label := label entry.1
              value := value entry.1
              color := itemColor goldColor (some (color entry.1)) }) := by
    apply mapM_eq_some_map
    rintro ⟨entry, index⟩ member
    have found : entries[index]? = some entry :=
      List.mem_zipIdx_iff_getElem?.mp member
    show (((entries.map value)[index]?).bind fun value => some _) = _
    rw [List.getElem?_map, found]
    show some (StrengthItem.mk _ _
      (itemColor goldColor (entries.map color)[index]?)) = _
    rw [List.getElem?_map, found]
    rfl
  refine Eq.trans all ?_
  congr 1
  conv_rhs => rw [← List.zipIdx_map_fst 0 entries, List.map_map]
  rfl

theorem strengthOf_bounds (weights : List (CategoryId × ℚ))
    (id : CategoryId) :
    0 ≤ strengthOf weights id ∧ strengthOf weights id ≤ 100 := by
  constructor
  · have rounded :=
      roundHalfAway_mono 1
        (show ((0 : ℕ) : ℚ) ≤
            min 100
              (max 0
                ((recordsOf id weights).sum /
                  max (3 * ((recordsOf id weights).length : ℚ)) 1 * 100)) by
          rw [Nat.cast_zero]
          exact le_min (by norm_num) (le_max_left _ _))
    rwa [roundHalfAway_natCast, Nat.cast_zero] at rounded
  · exact_mod_cast
      roundHalfAway_le_natCast 1 100
        (show _ ≤ ((100 : ℕ) : ℚ) from min_le_left _ _)

/-- The entries of a participant's categories. -/
def participantEntries (catalogue : Catalogue) (database : Database)
    (participant : UserId) : List (CategoryId × CategoryEntry) :=
  categoryEntries catalogue (responsesOfParticipant database participant)

/-- The item of an entry. -/
def entryItem (numbered : CategoryId → String) (goldColor : String)
    (entry : CategoryId × CategoryEntry) : StrengthItem where
  label := entry.2.info.label.text numbered
  value := roundHalfAway 1 (normalizedScore entry.2)
  color := itemColor goldColor (some entry.2.info.color)

theorem chart_getCategoryScores (catalogue : Catalogue)
    (database : Database) (participant : UserId)
    (numbered : CategoryId → String) :
    (getCategoryScores catalogue database participant).chart numbered =
      { labels :=
          (participantEntries catalogue database participant).map
            fun entry => entry.2.info.label.text numbered
        values :=
          (participantEntries catalogue database participant).map
            fun entry => roundHalfAway 1 (normalizedScore entry.2)
        colors :=
          some
            ((participantEntries catalogue database participant).map
              fun entry => entry.2.info.color) } := by
  rw [CategoryScores.chart, getCategoryScores, unroundedValues]
  dsimp only
  rw [List.map_map, List.map_map]
  rfl

/-- The script draws the items of the entries, the strongest first. -/
theorem initCategoryBarChart_chartAttribute (catalogue : Catalogue)
    (database : Database) (participant : UserId)
    (numbered : CategoryId → String) (goldColor noData : String)
    (rest : List Char) :
    initCategoryBarChart goldColor noData
        (chartAttribute
          ((getCategoryScores catalogue database participant).chart
            numbered)
          rest) =
      some
        (if participantEntries catalogue database participant = [] then
          [noDataBar noData]
        else
          (((participantEntries catalogue database participant).map
            (entryItem numbered goldColor)).mergeSort
              fun left right => right.value ≤ left.value).map
                StrengthItem.bar) := by
  rw [chart_getCategoryScores, initCategoryBarChart,
    (parseChart_chartAttribute _ _ rest).1]
  · rw [Option.bind_eq_bind, Option.bind_some]
    dsimp only
    by_cases none : participantEntries catalogue database participant = []
    · rw [if_pos none, none]
      rfl
    · rw [if_neg none, if_pos (by
        rw [List.length_map]
        exact List.length_pos_of_ne_nil none)]
      rw [sortedData]
      dsimp only
      rw [mapM_strengthItem]
      rfl
  · intro value member
    rcases List.mem_map.mp member with ⟨entry, _, rfl⟩
    exact (DecimalText.onGrid_roundHalfAway 1 _).succ

theorem bar_entryItem {catalogue : Catalogue} {database : Database}
    {participant : UserId} (numbered : CategoryId → String)
    (goldColor : String) {entry : CategoryId × CategoryEntry}
    (member :
      entry ∈ participantEntries catalogue database participant) :
    (entryItem numbered goldColor entry).bar =
      strengthBar catalogue numbered
        (participantWeights catalogue database participant) entry.1 := by
  rw [StrengthItem.bar, entryItem, strengthBar,
    label_of_mem_categoryEntries member, normalizedScore_of_mem member]

/--
The strengths chart has one bar for each category that a participant's
responses carry a weight of, the strongest first.  The bar shows the
percentage of the weights, and its colour follows from it.
-/
theorem strengths_chart_ranks_categories (catalogue : Catalogue)
    (database : Database) (participant : UserId)
    (numbered : CategoryId → String) (goldColor noData : String)
    (rest : List Char) :
    ∃ bars,
      initCategoryBarChart goldColor noData
          (chartAttribute
            ((getCategoryScores catalogue database participant).chart
              numbered)
            rest) =
        some bars ∧
      bars.Pairwise (fun earlier later => later.value ≤ earlier.value) ∧
      (∀ bar ∈ bars, 0 ≤ bar.value ∧ bar.value ≤ 100) ∧
      if participantWeights catalogue database participant = [] then
        bars = [noDataBar noData]
      else
        ∃ ids : List CategoryId, ids.Nodup ∧
          (∀ id,
            id ∈ ids ↔
              id ∈
                (participantWeights catalogue database participant).map
                  Prod.fst) ∧
          bars.Perm
            (ids.map
              (strengthBar catalogue numbered
                (participantWeights catalogue database participant))) := by
  refine
    ⟨_, initCategoryBarChart_chartAttribute catalogue database participant
      numbered goldColor noData rest, ?_⟩
  have keys := map_categoryEntries catalogue database participant
  have empty :
      participantWeights catalogue database participant = [] ↔
        participantEntries catalogue database participant = [] := by
    rw [← tally_eq_nil_iff {} CategoryTotal.add, ← List.map_eq_nil_iff,
      ← keys, List.map_eq_nil_iff]
    rfl
  split_ifs with none noWeights noWeights
  · exact
      ⟨List.pairwise_singleton _ _,
        List.forall_mem_singleton.mpr ⟨le_refl 0, by norm_num [noDataBar]⟩,
        rfl⟩
  · exact (noWeights (empty.mpr none)).elim
  · exact (none (empty.mp noWeights)).elim
  · have bars :
        ((((participantEntries catalogue database participant).map
            (entryItem numbered goldColor)).mergeSort
              fun left right => right.value ≤ left.value).map
                StrengthItem.bar).Perm
          (((participantEntries catalogue database participant).map
            Prod.fst).map
              (strengthBar catalogue numbered
                (participantWeights catalogue database participant))) := by
      refine ((List.mergeSort_perm _ _).map _).trans ?_
      rw [List.map_map, List.map_map]
      apply List.Perm.of_eq
      apply List.map_congr_left
      intro entry member
      exact bar_entryItem numbered goldColor member
    refine ⟨?_, ?_, _, ?_, ?_, bars⟩
    · rw [List.pairwise_map]
      exact pairwise_mergeSort_descending StrengthItem.value _
    · intro bar member
      rcases List.mem_map.mp (bars.mem_iff.mp member) with ⟨id, _, rfl⟩
      exact strengthOf_bounds _ id
    · show ((categoryEntries catalogue _).map Prod.fst).Nodup
      rw [keys]
      exact nodup_keys_tally _ _ _
    · intro id
      show id ∈ (categoryEntries catalogue _).map Prod.fst ↔ _
      rw [keys, mem_keys_tally_iff]

end SultanPass.DashboardController
