import SultanPass.AIAssistantController
import SultanPass.Library.DecimalText
import SultanPass.Library.GroupBy
import SultanPass.Library.HtmlText
import SultanPass.Library.OrderBy
import Mathlib.Algebra.BigOperators.Ring.Finset

/-!
# The charts of the dashboards

A dashboard computes the labels and values of a chart on the server, prints
them as JSON into an attribute of the canvas, and draws what its script
reads there.  `parseChart_chartAttribute` takes the data through all of it:
the script has the labels and values of the controller, whatever the names
of users and categories contain and whatever follows on the page.

What the charts of the administrator show can therefore be said about the
tables: their roles and statuses share all accounts and all assessments.
-/

namespace SultanPass.DashboardController

open SultanPass.Library
open SultanPass.Library.HtmlText (readAttribute)
open SultanPass.Library.JsonDecoding
  (Value Key jsonEncode jsonDecode listEntries)
open SultanPass.Library.Rounding
open SultanPass.AIAssistantController (ucfirst)

/-! ## Chart data on a page -/

/-- `['labels' => …, 'values' => …]`, some charts with `'colors'`. -/
structure ChartData where
  labels : List String
  values : List ℚ
  colors : Option (List String)
deriving DecidableEq, Repr

def textArray (texts : List String) : Value ℚ :=
  .array (listEntries (texts.map fun text => .string text.toList))

def numberArray (numbers : List ℚ) : Value ℚ :=
  .array (listEntries (numbers.map .number))

def ChartData.toArray (chart : ChartData) : Value ℚ :=
  .array
    ((.name "labels".toList, textArray chart.labels) ::
      (.name "values".toList, numberArray chart.values) ::
        (chart.colors.map fun colors =>
          (Key.name "colors".toList, textArray colors)).toList)

/-- The values are printed exactly. -/
def ChartData.Printable (chart : ChartData) : Prop :=
  ∀ value ∈ chart.values, DecimalText.OnGrid 2 value

/--
The page behind `data-chart-data="`: `{{ json_encode($chart) }}`, the quote
and the rest.  A float is printed with the decimals that it was rounded to.
-/
def chartAttribute (chart : ChartData) (rest : List Char) : List Char :=
  HtmlText.escape
      ((jsonEncode (DecimalText.write 2) false chart.toArray).getD []) ++
    '"' :: rest

/-! ## Chart data in a script -/

/-- A property of an object. -/
def property? (name : String) : Value ℚ → Option (Value ℚ)
  | .array entries => entries.lookup (.name name.toList)
  | _ => none

def text? : Value ℚ → Option String
  | .string text => some (String.ofList text)
  | _ => none

def number? : Value ℚ → Option ℚ
  | .number number => some number
  | _ => none

/-- The items of an array, if all of them are of one kind. -/
def items? {Item : Type} (item? : Value ℚ → Option Item) :
    Value ℚ → Option (List Item)
  | .array entries => entries.mapM fun entry => item? entry.2
  | _ => none

/--
`JSON.parse(canvas.dataset.chartData || …)` and the properties that the
scripts use; `none` where a script would meet something else.
-/
def parseChart (fallback : String) (dataset : List Char) :
    Option ChartData := do
  let data ←
    jsonDecode DecimalText.read
      (if dataset = [] then fallback.toList else dataset)
  let labels ← (property? "labels" data).bind (items? text?)
  let values ← (property? "values" data).bind (items? number?)
  return {
    labels := labels
    values := values
    colors := (property? "colors" data).bind (items? text?) }

/-! ## From the controller to the script -/

theorem items?_listEntries {Item : Type} {item? : Value ℚ → Option Item}
    (print : Item → Value ℚ)
    (reads : ∀ item, item? (print item) = some item)
    (printed : List Item) :
    items? item? (.array (listEntries (printed.map print))) =
      some printed := by
  have onValues (entries : List (Key × Value ℚ)) :
      entries.mapM (fun entry => item? entry.2) =
        (entries.map Prod.snd).mapM item? := by
    rw [List.mapM_map]
    rfl
  show (listEntries (printed.map print)).mapM
    (fun entry => item? entry.2) = _
  rw [onValues, JsonDecoding.map_snd_listEntries]
  clear onValues
  induction printed with
  | nil => rfl
  | cons item printed induction =>
      rw [List.map_cons, List.mapM_cons, reads, induction]
      rfl

@[simp]
theorem items?_textArray (texts : List String) :
    items? text? (textArray texts) = some texts :=
  items?_listEntries (fun text : String => .string text.toList)
    (fun _ => congrArg some String.ofList_toList) texts

@[simp]
theorem items?_numberArray (numbers : List ℚ) :
    items? number? (numberArray numbers) = some numbers :=
  items?_listEntries .number (fun _ => rfl) numbers

theorem canonical_textArray (texts : List String) :
    (textArray texts).Canonical (DecimalText.OnGrid 2) := by
  apply JsonDecoding.canonical_listEntries
  intro value member
  rcases List.mem_map.mp member with ⟨text, _, rfl⟩
  exact .string text.toList

theorem canonical_numberArray {numbers : List ℚ}
    (all : ∀ number ∈ numbers, DecimalText.OnGrid 2 number) :
    (numberArray numbers).Canonical (DecimalText.OnGrid 2) := by
  apply JsonDecoding.canonical_listEntries
  intro value member
  rcases List.mem_map.mp member with ⟨number, listed, rfl⟩
  exact .number number (all number listed)

theorem nesting_textArray (texts : List String) :
    JsonDecoding.nesting (textArray texts) = 1 := by
  apply JsonDecoding.nesting_listEntries
  intro value member
  rcases List.mem_map.mp member with ⟨text, _, rfl⟩
  rfl

theorem nesting_numberArray (numbers : List ℚ) :
    JsonDecoding.nesting (numberArray numbers) = 1 := by
  apply JsonDecoding.nesting_listEntries
  intro value member
  rcases List.mem_map.mp member with ⟨number, _, rfl⟩
  rfl

theorem ChartData.canonical_toArray {chart : ChartData}
    (printable : chart.Printable) :
    chart.toArray.Canonical (DecimalText.OnGrid 2) := by
  rcases chart with ⟨labels, values, colors⟩
  have isLabels := canonical_textArray labels
  have isValues := canonical_numberArray printable
  cases colors with
  | none =>
      refine .array [(_, _), (_, _)] ?_ (fun _ => ?_) ?_
      · show [Key.name _, Key.name _].Nodup
        decide
      · simp only [List.forall_mem_cons]
        exact ⟨rfl, rfl, nofun⟩
      · simp only [List.forall_mem_cons]
        exact ⟨isLabels, isValues, nofun⟩
  | some colors =>
      refine .array [(_, _), (_, _), (_, _)] ?_ (fun _ => ?_) ?_
      · show [Key.name _, Key.name _, Key.name _].Nodup
        decide
      · simp only [List.forall_mem_cons]
        exact ⟨rfl, rfl, rfl, nofun⟩
      · simp only [List.forall_mem_cons]
        exact ⟨isLabels, isValues, canonical_textArray colors, nofun⟩

theorem ChartData.nesting_toArray (chart : ChartData) :
    JsonDecoding.nesting chart.toArray = 2 := by
  rcases chart with ⟨labels, values, colors⟩
  cases colors with
  | none =>
      simp [ChartData.toArray, JsonDecoding.nesting,
        JsonDecoding.nestingOf, nesting_textArray, nesting_numberArray]
  | some colors =>
      simp [ChartData.toArray, JsonDecoding.nesting,
        JsonDecoding.nestingOf, nesting_textArray, nesting_numberArray]

/-- The script has the labels and values of the controller. -/
theorem parseChart_chartAttribute {chart : ChartData}
    (printable : chart.Printable) (fallback : String)
    (rest : List Char) :
    parseChart fallback (readAttribute (chartAttribute chart rest)).1 =
        some chart ∧
      (readAttribute (chartAttribute chart rest)).2 = rest := by
  have encodes :
      jsonEncode (DecimalText.write 2) false chart.toArray =
        some
          (JsonDecoding.encode (DecimalText.write 2) false 0
            chart.toArray) := by
    rw [JsonDecoding.jsonEncode, chart.nesting_toArray]
    exact if_pos (by decide)
  have decodes :=
    JsonDecoding.jsonDecode_jsonEncode (DecimalText.format 2)
      (chart.canonical_toArray printable)
      (by rw [chart.nesting_toArray]; decide) encodes
  have nonempty :
      JsonDecoding.encode (DecimalText.write 2) false 0 chart.toArray ≠
        [] := by
    rw [ChartData.toArray, JsonDecoding.encode]
    exact List.cons_ne_nil _ _
  rw [chartAttribute, encodes, Option.getD_some,
    HtmlText.readAttribute_escape]
  refine ⟨?_, rfl⟩
  dsimp only
  rw [parseChart, if_neg nonempty]
  show (jsonDecode (DecimalText.format 2).read _).bind _ = _
  rw [decodes]
  rcases chart with ⟨labels, values, colors⟩
  show ((items? text? (textArray labels)).bind fun labels =>
    (items? number? (numberArray values)).bind fun values => _) = _
  rw [items?_textArray, Option.bind_some, items?_numberArray,
    Option.bind_some]
  cases colors with
  | none => rfl
  | some colors =>
      show some (ChartData.mk labels values
        (items? text? (textArray colors))) = _
      rw [items?_textArray]

/-! ## Charts of counts -/

def roleText : Role → String
  | .admin => "admin"
  | .manager => "manager"
  | .assessor => "assessor"
  | .participant => "participant"

def statusText : AssessmentStatus → String
  | .draft => "draft"
  | .active => "active"
  | .closed => "closed"

/-- Labels and values of `pluck('total', …)`. -/
def countsChart {Key : Type} (text : Key → String)
    (groups : List (Key × ℕ)) : ChartData where
  labels := groups.map fun group => ucfirst (text group.1)
  values := groups.map fun group => (group.2 : ℚ)
  colors := none

/-- `userRolesChartData`, with the groups in the order of the database. -/
def userRolesChartData {services : Services} (grouping : GroupBy Role)
    (users : UsersTable services) : ChartData :=
  countsChart roleText
    (grouping.counts (users.rows.map fun user => user.role))

/-- `assessmentsBarChartData`, with the groups in the order of the column. -/
def assessmentsBarChartData (grouping : GroupBy AssessmentStatus)
    (catalogue : Catalogue) : ChartData :=
  countsChart statusText
    (grouping.counts (catalogue.assessments.map Assessment.status))

/-- What a script draws of a chart of counts. -/
structure DrawnCounts where
  labels : List String
  data : List ℚ
deriving DecidableEq, Repr

/-- An empty chart gets one value of its own. -/
def drawCounts (placeholder : ℚ) (chart : ChartData) : DrawnCounts where
  labels := if chart.labels.length > 0 then chart.labels else ["No data"]
  data := if chart.values.length > 0 then chart.values else [placeholder]

def emptyCounts : String :=
  "\x7b\"labels\":[],\"values\":[]\x7d"

/-- `initCharts` on the canvas `userRolesChart`. -/
def initUserRolesChart (page : List Char) : Option DrawnCounts :=
  (parseChart emptyCounts (readAttribute page).1).map (drawCounts 1)

/-- `initCharts` on the canvas `assessmentsBarChart`. -/
def initAssessmentsBarChart (page : List Char) : Option DrawnCounts :=
  (parseChart emptyCounts (readAttribute page).1).map (drawCounts 0)

theorem printable_countsChart {Key : Type} (text : Key → String)
    (groups : List (Key × ℕ)) : (countsChart text groups).Printable := by
  intro value member
  rcases List.mem_map.mp member with ⟨group, _, rfl⟩
  exact DecimalText.onGrid_natCast 2 group.2

theorem draw_chartAttribute {Key : Type} (text : Key → String)
    (placeholder : ℚ) (groups : List (Key × ℕ)) (rest : List Char) :
    (parseChart emptyCounts
          (readAttribute
            (chartAttribute (countsChart text groups) rest)).1).map
        (drawCounts placeholder) =
      some (drawCounts placeholder (countsChart text groups)) := by
  rw [(parseChart_chartAttribute (printable_countsChart text groups) _
    rest).1]
  rfl

/-- A drawn chart gives every row to the label of its key. -/
def SharesRows {Key : Type} [DecidableEq Key] (text : Key → String)
    (placeholder : ℚ) (values : List Key) (drawn : DrawnCounts) : Prop :=
  if values = [] then drawn = ⟨["No data"], [placeholder]⟩
  else
    drawn.labels.Nodup ∧ drawn.labels.length = drawn.data.length ∧
      drawn.data.sum = values.length ∧
        ∀ key, ∀ total : ℚ,
          (ucfirst (text key), total) ∈ drawn.labels.zip drawn.data ↔
            key ∈ values ∧ total = values.count key

theorem sharesRows_drawCounts {Key : Type} [DecidableEq Key]
    {text : Key → String}
    (distinct : Function.Injective fun key => ucfirst (text key))
    (grouping : GroupBy Key) (placeholder : ℚ) (values : List Key) :
    SharesRows text placeholder values
      (drawCounts placeholder
        (countsChart text (grouping.counts values))) := by
  unfold SharesRows
  split_ifs with empty
  · rw [(grouping.counts_eq_nil_iff values).mpr empty]
    rfl
  · have nonempty : 0 < (grouping.counts values).length := by
      apply List.length_pos_of_ne_nil
      rwa [ne_eq, grouping.counts_eq_nil_iff]
    have labels :
        (drawCounts placeholder
            (countsChart text (grouping.counts values))).labels =
          (grouping.counts values).map fun group =>
            ucfirst (text group.1) :=
      if_pos (by rwa [countsChart, List.length_map])
    have data :
        (drawCounts placeholder
            (countsChart text (grouping.counts values))).data =
          (grouping.counts values).map fun group => (group.2 : ℚ) :=
      if_pos (by rwa [countsChart, List.length_map])
    rw [labels, data]
    refine ⟨?_, ?_, ?_, ?_⟩
    · have keys := grouping.nodup_keys values
      rw [← grouping.map_fst_counts] at keys
      have mapped := keys.map distinct
      rwa [List.map_map] at mapped
    · rw [List.length_map, List.length_map]
    · have total := grouping.sum_counts values
      have cast := congrArg (Nat.cast (R := ℚ)) total
      rwa [Nat.cast_list_sum, List.map_map] at cast
    · intro key total
      rw [List.zip_map', List.mem_map]
      constructor
      · rintro ⟨group, member, same⟩
        rcases (grouping.mem_counts_iff values group).mp member with
          ⟨listed, count⟩
        rw [Prod.mk.injEq] at same
        rcases distinct same.1 with rfl
        rw [← same.2, count]
        exact ⟨listed, rfl⟩
      · rintro ⟨listed, rfl⟩
        exact
          ⟨(key, values.count key),
            (grouping.mem_counts_iff values _).mpr ⟨listed, rfl⟩, rfl⟩

theorem injective_roleLabel :
    Function.Injective fun role => ucfirst (roleText role) := by
  intro left right same
  cases left <;> cases right <;> first | rfl | cases same

theorem injective_statusLabel :
    Function.Injective fun status => ucfirst (statusText status) := by
  intro left right same
  cases left <;> cases right <;> first | rfl | cases same

/--
The charts of the administrator's dashboard count every account and every
assessment once, under the label of its role or status.
-/
theorem administrator_charts_count_every_row {services : Services}
    (users : UsersTable services) (catalogue : Catalogue)
    (byRole : GroupBy Role) (byStatus : GroupBy AssessmentStatus)
    (rest : List Char) :
    (∃ pie,
      initUserRolesChart
          (chartAttribute (userRolesChartData byRole users) rest) =
        some pie ∧
      SharesRows roleText 1 (users.rows.map fun user => user.role) pie) ∧
    ∃ bars,
      initAssessmentsBarChart
          (chartAttribute (assessmentsBarChartData byStatus catalogue)
            rest) =
        some bars ∧
      SharesRows statusText 0
        (catalogue.assessments.map Assessment.status) bars := by
  constructor
  · exact
      ⟨_, draw_chartAttribute roleText 1 _ rest,
        sharesRows_drawCounts injective_roleLabel byRole 1 _⟩
  · exact
      ⟨_, draw_chartAttribute statusText 0 _ rest,
        sharesRows_drawCounts injective_statusLabel byStatus 0 _⟩

/-! ## Buckets of the statuses -/

/-- One entry of `assessmentsByStatus`. -/
structure StatusBucket where
  status : AssessmentStatus
  total : ℕ
  percentage : ℚ
deriving DecidableEq, Repr

/-- The rows of the query, the largest first. -/
def statusRows (grouping : GroupBy AssessmentStatus)
    (catalogue : Catalogue) : List (AssessmentStatus × ℕ) :=
  (grouping.counts
    (catalogue.assessments.map Assessment.status)).mergeSort
      fun left right => right.2 ≤ left.2

/-- `assessmentsByStatus`. -/
def assessmentsByStatus (grouping : GroupBy AssessmentStatus)
    (catalogue : Catalogue) : List StatusBucket :=
  let rows := statusRows grouping catalogue
  let grandTotal := max (rows.map Prod.snd).sum 1
  rows.map fun row =>
    { status := row.1
      total := row.2
      percentage := roundHalfAway 0 ((row.2 : ℚ) / grandTotal * 100) }

theorem sum_statusRows (grouping : GroupBy AssessmentStatus)
    (catalogue : Catalogue) :
    ((statusRows grouping catalogue).map Prod.snd).sum =
      catalogue.assessments.length := by
  rw [statusRows, ((List.mergeSort_perm _ _).map _).sum_eq,
    grouping.sum_counts, List.length_map]

theorem mem_statusRows {grouping : GroupBy AssessmentStatus}
    {catalogue : Catalogue} {row : AssessmentStatus × ℕ} :
    row ∈ statusRows grouping catalogue ↔
      row.1 ∈ catalogue.assessments.map Assessment.status ∧
        row.2 =
          (catalogue.assessments.map Assessment.status).count row.1 := by
  rw [statusRows, (List.mergeSort_perm _ _).mem_iff,
    grouping.mem_counts_iff]

theorem nodup_statusRows (grouping : GroupBy AssessmentStatus)
    (catalogue : Catalogue) :
    ((statusRows grouping catalogue).map Prod.fst).Nodup := by
  rw [statusRows, ((List.mergeSort_perm _ _).map _).nodup_iff,
    grouping.map_fst_counts]
  exact grouping.nodup_keys _

theorem length_statusRows_le (grouping : GroupBy AssessmentStatus)
    (catalogue : Catalogue) :
    (statusRows grouping catalogue).length ≤ 3 := by
  have all :
      (statusRows grouping catalogue).map Prod.fst ⊆
        [.draft, .active, .closed] := by
    intro status _
    cases status <;> decide
  have bound :=
    ((nodup_statusRows grouping catalogue).subperm all).length_le
  rwa [List.length_map] at bound

/-- A share of the rows that is not rounded yet. -/
def shareOf (grandTotal : ℕ) (row : AssessmentStatus × ℕ) : ℚ :=
  (row.2 : ℚ) / grandTotal * 100

theorem sum_shareOf {rows : List (AssessmentStatus × ℕ)}
    (nonempty : 0 < (rows.map Prod.snd).sum) :
    (rows.map (shareOf (rows.map Prod.snd).sum)).sum = 100 := by
  have total :
      (rows.map fun row => (row.2 : ℚ)).sum =
        ((rows.map Prod.snd).sum : ℕ) := by
    rw [Nat.cast_list_sum, List.map_map]
    rfl
  have positive : (0 : ℚ) < ((rows.map Prod.snd).sum : ℕ) := by
    exact_mod_cast nonempty
  calc
    _ = (rows.map fun row =>
          (row.2 : ℚ) * (100 / ((rows.map Prod.snd).sum : ℕ))).sum := by
      congr 2
      funext row
      rw [shareOf]
      ring
    _ = _ := by
      rw [List.sum_map_mul_right, total]
      field_simp

/-- Roundings to whole percents that miss 100 by little miss it by one. -/
theorem abs_sub_le_one_of_whole {values : List ℚ}
    (few : values.length ≤ 3) (whole : values.sum = 100) :
    |(values.map (roundHalfAway 0)).sum - 100| ≤ 1 := by
  have near := abs_sum_roundHalfAway_sub_le 0 values
  have isInteger :
      (values.map (roundHalfAway 0)).sum =
        ((values.map (gridSteps 0)).sum : ℤ) := by
    rw [Int.cast_list_sum, List.map_map]
    congr 2
    funext value
    rw [roundHalfAway_eq_gridSteps, pow_zero, div_one]
    rfl
  have length : (values.length : ℚ) ≤ 3 := by exact_mod_cast few
  rw [whole, isInteger, pow_zero, mul_one] at near
  rw [isInteger]
  have strict :
      |(((values.map (gridSteps 0)).sum : ℤ) : ℚ) - 100| < 2 := by
    linarith
  have cast : |(values.map (gridSteps 0)).sum - 100| < 2 := by
    exact_mod_cast strict
  exact_mod_cast Int.lt_add_one_iff.mp cast

theorem map_assessmentsByStatus {Column : Type}
    (column : StatusBucket → Column) (grouping : GroupBy AssessmentStatus)
    (catalogue : Catalogue) :
    (assessmentsByStatus grouping catalogue).map column =
      (statusRows grouping catalogue).map fun row =>
        column
          { status := row.1
            total := row.2
            percentage :=
              roundHalfAway 0
                (shareOf (max catalogue.assessments.length 1) row) } := by
  rw [assessmentsByStatus, sum_statusRows, List.map_map]
  rfl

/-- Every status in use has a part of the whole. -/
theorem statusRow_bounds {grouping : GroupBy AssessmentStatus}
    {catalogue : Catalogue} {row : AssessmentStatus × ℕ}
    (member : row ∈ statusRows grouping catalogue) :
    0 < row.2 ∧ row.2 ≤ catalogue.assessments.length := by
  rcases mem_statusRows.mp member with ⟨listed, total⟩
  rw [total]
  refine ⟨List.count_pos_iff.mpr listed, ?_⟩
  have bound :=
    List.count_le_length
      (a := row.1) (l := catalogue.assessments.map Assessment.status)
  rwa [List.length_map] at bound

theorem percentage_bounds {total : ℕ} {row : AssessmentStatus × ℕ}
    (small : row.2 ≤ total) :
    0 ≤ roundHalfAway 0 (shareOf (max total 1) row) ∧
      roundHalfAway 0 (shareOf (max total 1) row) ≤ 100 := by
  have positive : (0 : ℚ) < (max total 1 : ℕ) := by
    exact_mod_cast Nat.lt_of_lt_of_le Nat.zero_lt_one (le_max_right _ _)
  have part : (row.2 : ℚ) ≤ (max total 1 : ℕ) := by
    exact_mod_cast small.trans (le_max_left _ _)
  have upper : shareOf (max total 1) row ≤ (100 : ℕ) := by
    rw [shareOf]
    have ratio := (div_le_one positive).mpr part
    push_cast at ratio ⊢
    linarith
  constructor
  · have lower : ((0 : ℕ) : ℚ) ≤ shareOf (max total 1) row := by
      rw [shareOf, Nat.cast_zero]
      positivity
    have rounded := roundHalfAway_mono 0 lower
    rwa [roundHalfAway_natCast, Nat.cast_zero] at rounded
  · exact_mod_cast roundHalfAway_le_natCast 0 100 upper

/--
The buckets share all assessments, the largest first, one for each status in
use.  Their percentages are rounded one by one and add up to between 99 and
101.
-/
theorem status_buckets_share_every_assessment
    (grouping : GroupBy AssessmentStatus) (catalogue : Catalogue) :
    ((assessmentsByStatus grouping catalogue).map
          StatusBucket.total).sum =
        catalogue.assessments.length ∧
      ((assessmentsByStatus grouping catalogue).map
          StatusBucket.status).Nodup ∧
      (assessmentsByStatus grouping catalogue).Pairwise
        (fun earlier later => later.total ≤ earlier.total) ∧
      (∀ status,
        status ∈ catalogue.assessments.map Assessment.status ↔
          ∃ bucket ∈ assessmentsByStatus grouping catalogue,
            bucket.status = status) ∧
      (∀ bucket ∈ assessmentsByStatus grouping catalogue,
        bucket.total =
            (catalogue.assessments.map Assessment.status).count
              bucket.status ∧
          0 < bucket.total ∧ 0 ≤ bucket.percentage ∧
            bucket.percentage ≤ 100) ∧
      (catalogue.assessments = [] ∨
        |((assessmentsByStatus grouping catalogue).map
            StatusBucket.percentage).sum - 100| ≤ 1) := by
  refine ⟨?_, ?_, ?_, ?_, ?_, ?_⟩
  · rw [map_assessmentsByStatus]
    exact sum_statusRows grouping catalogue
  · rw [map_assessmentsByStatus]
    exact nodup_statusRows grouping catalogue
  · rw [assessmentsByStatus, List.pairwise_map]
    exact pairwise_mergeSort_descending Prod.snd _
  · intro status
    constructor
    · intro listed
      have row :
          (status,
              (catalogue.assessments.map Assessment.status).count status) ∈
            statusRows grouping catalogue :=
        mem_statusRows.mpr ⟨listed, rfl⟩
      exact ⟨_, List.mem_map_of_mem row, rfl⟩
    · rintro ⟨bucket, member, rfl⟩
      rcases List.mem_map.mp member with ⟨row, isRow, rfl⟩
      exact (mem_statusRows.mp isRow).1
  · intro bucket member
    rw [assessmentsByStatus, sum_statusRows] at member
    rcases List.mem_map.mp member with ⟨row, isRow, rfl⟩
    rcases statusRow_bounds isRow with ⟨positive, small⟩
    exact
      ⟨(mem_statusRows.mp isRow).2, positive, percentage_bounds small⟩
  · rcases List.eq_nil_or_concat catalogue.assessments with none | some
    · exact Or.inl none
    · apply Or.inr
      have nonempty : 0 < catalogue.assessments.length := by
        rcases some with ⟨_, _, some⟩
        rw [some]
        simp
      have positive :
          0 < ((statusRows grouping catalogue).map Prod.snd).sum := by
        rwa [sum_statusRows]
      have whole := sum_shareOf positive
      rw [sum_statusRows] at whole
      rw [map_assessmentsByStatus, max_eq_left nonempty]
      have few := length_statusRows_le grouping catalogue
      have bound :=
        abs_sub_le_one_of_whole (by rwa [List.length_map]) whole
      rwa [List.map_map] at bound

end SultanPass.DashboardController
