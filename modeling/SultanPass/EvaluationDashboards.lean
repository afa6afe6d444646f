import SultanPass.DashboardController
import SultanPass.Library.Calendar
import Mathlib.Data.List.Dedup

/-!
# The dashboards over `assessment_participants`

What `DashboardController` computes from participation rows: the overall
evaluation and the monthly trends of a participant, the latest IQ result,
the completions of the last days and the top performers.

A dashboard reads the rows in the order of their insertion.  Where a query
leaves the order of equal keys open, the earlier row comes first.
-/

namespace SultanPass.DashboardController

open SultanPass.Library
open SultanPass.Library.Calendar
open SultanPass.Library.Rounding

/-! ## Completed rows -/

def isCompleted (row : AssessmentParticipant) : Bool :=
  row.status = .completed

/-- The completed rows of a participant that have a score. -/
def scoredRows (rows : List AssessmentParticipant)
    (participant : UserId) : List AssessmentParticipant :=
  rows.filter fun row =>
    row.participantId = participant && isCompleted row &&
      row.score.isSome

/-- `pluck('score')`. -/
def scoresOf (rows : List AssessmentParticipant) : List ℚ :=
  rows.filterMap AssessmentParticipant.score

/-- `avg`. -/
def average (values : List ℚ) : ℚ :=
  values.sum / values.length

/-- A value below 20 is taken to be on the old scale. -/
def onNewScale (score : ℚ) : ℚ :=
  if score < 20 then score * 10 else score

/-! ## `calculateOverallScore` -/

/-- The evaluation of a list of scores. -/
def overallScore (scores : List ℚ) : ℚ :=
  if scores = [] then 0
  else
    min 100 (max 0 (roundHalfAway 2 (average (scores.map onNewScale))))

/-- `calculateOverallScore`. -/
def calculateOverallScore (rows : List AssessmentParticipant)
    (participant : UserId) : ℚ :=
  overallScore (scoresOf (scoredRows rows participant))

/-! ## `getPerformanceTrends` -/

/-- The completed rows of the last six months. -/
def trendRows (rows : List AssessmentParticipant)
    (participant : UserId) (now : Timestamp) :
    List AssessmentParticipant :=
  (scoredRows rows participant).filter fun row =>
    subMonths 6 now ≤ row.updatedAt

/-- The rows of one `month`. -/
def rowsOfMonth (rows : List AssessmentParticipant) (month : ℕ) :
    List AssessmentParticipant :=
  rows.filter fun row => monthOf row.updatedAt = month

/-- The groups of the query, in their order. -/
def monthsOf (rows : List AssessmentParticipant) : List ℕ :=
  (rows.map fun row => monthOf row.updatedAt).dedup.mergeSort
    fun left right => left ≤ right

/-- The rounded average of a month. -/
def trendValue (scores : List ℚ) : ℚ :=
  roundHalfAway 2 (onNewScale (average scores))

/--
The month that is shown for a group: `createFromFormat('Y-m', …)` takes the
current day of the month, which may run over into the next month.
-/
def labelMonth (now : Timestamp) (month : ℕ) : ℕ :=
  monthOfDay
    (firstDay month +
      (dayOf now - firstDay (monthOf now)))

/-- One group of the query with its value. -/
structure MonthlyTrend where
  month : ℕ
  value : ℚ
deriving DecidableEq, Repr

/-- The groups of the query with their values. -/
def monthlyTrends (rows : List AssessmentParticipant)
    (participant : UserId) (now : Timestamp) : List MonthlyTrend :=
  let selected := trendRows rows participant now
  (monthsOf selected).map fun month =>
    { month := month
      value := trendValue (scoresOf (rowsOfMonth selected month)) }

/-- The array `['labels' => …, 'values' => …]`. -/
structure PerformanceTrends where
  labels : List ℕ
  values : List ℚ
deriving DecidableEq, Repr

/-- `getPerformanceTrends`. -/
def getPerformanceTrends (rows : List AssessmentParticipant)
    (participant : UserId) (now : Timestamp) : PerformanceTrends where
  labels :=
    (monthlyTrends rows participant now).map fun trend =>
      labelMonth now trend.month
  values := (monthlyTrends rows participant now).map MonthlyTrend.value

/-! ## `getIQTestResults` -/

/-- Whether two characters in a row spell `IQ`, in any case. -/
def spellsIQ (first second : Char) : Bool :=
  (first = 'I' || first = 'i') && (second = 'Q' || second = 'q')

/-- `like '%IQ%'`. -/
def containsIQ : List Char → Bool
  | first :: second :: rest =>
      spellsIQ first second || containsIQ (second :: rest)
  | _ => false

/-- The titles of an existing assessment that contain `IQ`. -/
def iqTitles (catalogue : Catalogue) (id : AssessmentId) :
    List String :=
  match catalogue.assessment? id with
  | none => []
  | some assessment =>
      (catalogue.assessmentTranslations.rows.filter fun translation =>
        translation.ownerId = assessment.id &&
          containsIQ translation.content.title.toList).map
        fun translation => translation.content.title

/-- The joined rows of a participant. -/
def iqRows (catalogue : Catalogue)
    (rows : List AssessmentParticipant) (participant : UserId) :
    List (String × AssessmentParticipant) :=
  (scoredRows rows participant).flatMap fun row =>
    (iqTitles catalogue row.assessmentId).map fun title => (title, row)

/-- The array `['score' => …, 'test_name' => …, 'test_date' => …]`. -/
structure IQTestResult where
  score : Option ℚ
  testName : Option String
  testMonth : Option ℕ
deriving DecidableEq, Repr

/-- What is shown of a joined row. -/
def iqTestResult (entry : String × AssessmentParticipant) :
    IQTestResult where
  score := entry.2.score.map fun score => min 100 (max 0 score)
  testName := some entry.1
  testMonth := some (monthOf entry.2.updatedAt)

def noIQTestResult : IQTestResult where
  score := none
  testName := none
  testMonth := none

/-- `getIQTestResults`, the row that was updated last. -/
def getIQTestResults (catalogue : Catalogue)
    (rows : List AssessmentParticipant) (participant : UserId) :
    IQTestResult :=
  match
    ((iqRows catalogue rows participant).mergeSort fun left right =>
      right.2.updatedAt ≤ left.2.updatedAt).head? with
  | some entry => iqTestResult entry
  | none => noIQTestResult

/-! ## `dailyCompletions` -/

/-- One day of the series; days before 1970 are negative. -/
structure DailyCompletion where
  date : ℤ
  total : ℕ
  percentage : ℚ
deriving DecidableEq, Repr

/-- The completed rows since the first of the days. -/
def recentCompletions (rows : List AssessmentParticipant)
    (now : Timestamp) (days : ℕ) : List AssessmentParticipant :=
  rows.filter fun row =>
    isCompleted row &&
      decide ((dayOf now : ℤ) - (days - 1) ≤ dayOf row.updatedAt)

/-- The completions of one day. -/
def completionsOn (rows : List AssessmentParticipant) (date : ℤ) : ℕ :=
  (rows.filter fun row => (dayOf row.updatedAt : ℤ) = date).length

/-- The counts of `dailyCompletions`, with the days as numbers. -/
def dailyCompletions (rows : List AssessmentParticipant)
    (now : Timestamp) (days : ℕ) : List DailyCompletion :=
  let recent := recentCompletions rows now days
  let series :=
    (List.range days).reverse.map fun ago =>
      let date := (dayOf now : ℤ) - ago
      (date, completionsOn recent date)
  let largest := max ((series.map Prod.snd).foldr max 0) 1
  series.map fun entry =>
    { date := entry.1
      total := entry.2
      percentage := (entry.2 : ℚ) / largest * 100 }

/-! ## `topPerformers` -/

/-- The columns of a user that the query selects. -/
structure UserNames where
  fullName : Option String
  username : String
deriving DecidableEq, Repr

/-- One of the best rows; the position of a row stands for its id. -/
structure TopPerformer where
  id : ℕ
  score : ℚ
  updatedAt : Timestamp
  fullName : Option String
  username : String
  assessmentType : Option AssessmentType
deriving DecidableEq, Repr

/-- The joined row, if it is completed and has a score and a user. -/
def topPerformer? (catalogue : Catalogue) (names : UserId → UserNames)
    (entry : AssessmentParticipant × ℕ) : Option TopPerformer :=
  if isCompleted entry.1 && entry.1.participantId ∈ catalogue.users then
    entry.1.score.map fun score =>
      { id := entry.2
        score := score
        updatedAt := entry.1.updatedAt
        fullName := (names entry.1.participantId).fullName
        username := (names entry.1.participantId).username
        assessmentType :=
          (catalogue.assessment? entry.1.assessmentId).map
            Assessment.type }
  else none

/-- `topPerformers`. -/
def topPerformers (catalogue : Catalogue) (names : UserId → UserNames)
    (rows : List AssessmentParticipant) (limit : ℕ) :
    List TopPerformer :=
  ((rows.zipIdx.filterMap (topPerformer? catalogue names)).mergeSort
    fun left right => right.score ≤ left.score).take limit

end SultanPass.DashboardController
