import SultanPass.Library.JsonText
import SultanPass.Library.KeyedTable
import SultanPass.Library.Program
import Mathlib.Data.Rat.Defs
import Mathlib.Algebra.Order.Ring.Rat

/-!
# Tables, columns and statements

The rows that assessments, responses and scores live in, with the columns
that the modelled code reads.  The tables fall in two groups.

* `Catalogue` holds what authoring writes: users, assessments, questions,
  answers with their scores, categories and weights.  It carries the keys of
  the migrations and the `min:0` rules of the validators.
* `Database` holds what taking, grading and scoring write.
  `participant_responses` has a unique key; `assessment_participants` has
  none in the migrations and is a plain list of rows.

Decimal columns are rationals: a decimal column holds its values exactly,
and a payload value is taken after its rounding to the column's scale.  So
are PHP's floats: their sums, products and quotients are exact here, where
PHP's are those of IEEE 754.
-/

namespace SultanPass

open SultanPass.Library

abbrev UserId := ℕ
abbrev AssessmentId := ℕ
abbrev QuestionId := ℕ
abbrev AnswerId := ℤ
abbrev CategoryId := ℤ
abbrev LanguageId := ℕ

/-- Seconds since the beginning of 1970. -/
abbrev Timestamp := ℕ

/-- The value of a `DATE` column, in days since the beginning of 1970. -/
abbrev Day := ℕ

/-! ## PHP values and exceptions -/

/-- The exceptions that the modelled code can raise. -/
inductive PhpError where
  | typeError
  | modelNotFound
  | queryException
deriving DecidableEq, Repr

/-- A value that an `array` cast reads from its column. -/
abbrev PhpValue :=
  JsonText.Value

namespace PhpValue

/-- PHP's `empty()`; a value is truthy when it is not empty. -/
def isEmpty : PhpValue → Bool
  | .null => true
  | .int number => number = 0
  | .str text => text = [] || text = ['0']
  | .list numbers => numbers = []

/-- PHP's `$value ?? []`. -/
def orEmptyList : PhpValue → PhpValue
  | .null => .list []
  | value => value

/-- The ids that `whereIn` binds; it counts its argument, an array only. -/
def whereInValues : PhpValue → Except PhpError (List ℤ)
  | .list numbers => .ok numbers
  | _ => .error .typeError

@[simp]
theorem isEmpty_list (numbers : List ℤ) :
    isEmpty (.list numbers) = decide (numbers = []) :=
  rfl

@[simp]
theorem orEmptyList_list (numbers : List ℤ) :
    orEmptyList (.list numbers) = .list numbers :=
  rfl

@[simp]
theorem whereInValues_list (numbers : List ℤ) :
    whereInValues (.list numbers) = .ok numbers :=
  rfl

end PhpValue

/-- Reading a column through the `array` cast: one `json_decode`. -/
def castArrayGet : Option JsonText.Text → PhpValue
  | none => .null
  | some text => (JsonText.decode text).getD .null

/-- Assigning to a column through the `array` cast: one `json_encode`. -/
def castArraySet : PhpValue → Option JsonText.Text
  | .null => none
  | value => some (JsonText.encode value)

@[simp]
theorem castArrayGet_castArraySet (value : PhpValue) :
    castArrayGet (castArraySet value) = value := by
  cases value with
  | null => rfl
  | int number => simp [castArrayGet, castArraySet]
  | str text => simp [castArrayGet, castArraySet]
  | list numbers => simp [castArrayGet, castArraySet]

/-! ## Authored tables -/

inductive ScoringMode where
  | percentile
  | categorical
deriving DecidableEq, Repr

inductive QuestionType where
  | mcq
  | written
deriving DecidableEq, Repr

inductive AssessmentType where
  | psychometric
  | interview
  | groupExercise
  | writtenTest
  | rolePlay
  | committeeInterview
  | other
deriving DecidableEq, Repr

inductive AssessmentStatus where
  | draft
  | active
  | closed
deriving DecidableEq, Repr

structure Assessment where
  id : AssessmentId
  type : AssessmentType
  scoringMode : ScoringMode
  maxTotalScore : Option ℚ
  status : AssessmentStatus
  startDate : Option Day
  endDate : Option Day
deriving DecidableEq, Repr

structure AssessmentQuestion where
  id : QuestionId
  assessmentId : AssessmentId
  questionType : QuestionType
  questionText : String
  order : ℤ
  maxScore : Option ℚ
deriving DecidableEq, Repr

structure AssessmentAnswer where
  id : AnswerId
  questionId : QuestionId
  answerText : String
  order : ℤ
deriving DecidableEq, Repr

structure AnswerScore where
  answerId : AnswerId
  scoreValue : ℚ
deriving DecidableEq, Repr

structure AssessmentCategory where
  id : CategoryId
  assessmentId : AssessmentId
  name : String
  description : Option String
  color : Option String
  order : ℤ
deriving DecidableEq, Repr

structure AnswerCategoryWeight where
  answerId : AnswerId
  categoryId : CategoryId
  weight : ℚ
deriving DecidableEq, Repr

/-- A row of one of the translation tables. -/
structure Translation (Owner Content : Type) where
  ownerId : Owner
  languageId : LanguageId
  content : Content
deriving DecidableEq, Repr

/-- The unique key that every translation table has. -/
def Translation.key {Owner Content : Type}
    (translation : Translation Owner Content) : Owner × LanguageId :=
  (translation.ownerId, translation.languageId)

/-- The columns `title` and `description`. -/
structure TitleText where
  title : String
  description : Option String
deriving DecidableEq, Repr

/-- The columns `name` and `description`. -/
structure NameText where
  name : String
  description : Option String
deriving DecidableEq, Repr

abbrev AssessmentTranslation :=
  Translation AssessmentId TitleText

abbrev AssessmentCategoryTranslation :=
  Translation CategoryId NameText

abbrev AssessmentQuestionTranslation :=
  Translation QuestionId String

abbrev AssessmentAnswerTranslation :=
  Translation AnswerId String

/--
What authoring has written, with the primary and foreign keys of the
migrations and the `min:0` rules of `AssessmentController::store`.
-/
structure Catalogue where
  users : List UserId
  assessments : List Assessment
  questions : List AssessmentQuestion
  answers : List AssessmentAnswer
  answerScores : List AnswerScore
  categories : List AssessmentCategory
  answerCategoryWeights : List AnswerCategoryWeight
  assessmentTranslations :
    KeyedTable (Translation.key : AssessmentTranslation → _)
  categoryTranslations :
    KeyedTable (Translation.key : AssessmentCategoryTranslation → _)
  questionTranslations :
    KeyedTable (Translation.key : AssessmentQuestionTranslation → _)
  answerTranslations :
    KeyedTable (Translation.key : AssessmentAnswerTranslation → _)
  assessmentKeys : (assessments.map Assessment.id).Nodup
  questionKeys : (questions.map AssessmentQuestion.id).Nodup
  answerKeys : (answers.map AssessmentAnswer.id).Nodup
  categoryKeys : (categories.map AssessmentCategory.id).Nodup
  weightCategories :
    ∀ weight ∈ answerCategoryWeights,
      weight.categoryId ∈ categories.map AssessmentCategory.id
  maxScoresNonneg :
    ∀ question ∈ questions,
      ∀ maxScore ∈ question.maxScore, 0 ≤ maxScore
  scoreValuesNonneg :
    ∀ score ∈ answerScores, 0 ≤ score.scoreValue
  weightsNonneg :
    ∀ weight ∈ answerCategoryWeights, 0 ≤ weight.weight

namespace Catalogue

/-- `User::findOrFail`, also the authenticated user of a request. -/
def findUser (catalogue : Catalogue) (id : UserId) :
    Except PhpError UserId :=
  if id ∈ catalogue.users then .ok id else .error .modelNotFound

/-- `Assessment::find`. -/
def assessment? (catalogue : Catalogue) (id : AssessmentId) :
    Option Assessment :=
  catalogue.assessments.find? fun assessment => assessment.id = id

/-- Route model binding of an assessment. -/
def findAssessment (catalogue : Catalogue) (id : AssessmentId) :
    Except PhpError Assessment :=
  match catalogue.assessment? id with
  | some assessment => .ok assessment
  | none => .error .modelNotFound

/-- The question of a response, `$response->question`. -/
def question? (catalogue : Catalogue) (id : QuestionId) :
    Option AssessmentQuestion :=
  catalogue.questions.find? fun question => question.id = id

/-- `$assessment->questions()`. -/
def questionsOf (catalogue : Catalogue) (id : AssessmentId) :
    List AssessmentQuestion :=
  catalogue.questions.filter fun question => question.assessmentId = id

/-- The category with an id. -/
def category? (catalogue : Catalogue) (id : CategoryId) :
    Option AssessmentCategory :=
  catalogue.categories.find? fun category => category.id = id

/-- The assessment ids are a primary key. -/
theorem assessment?_eq_some_iff
    (catalogue : Catalogue) (id : AssessmentId)
    (assessment : Assessment) :
    catalogue.assessment? id = some assessment ↔
      assessment ∈ catalogue.assessments ∧ assessment.id = id :=
  KeyedTable.find?_eq_some_iff
    ⟨catalogue.assessments, catalogue.assessmentKeys⟩ id assessment

theorem assessment?_id
    {catalogue : Catalogue} {id : AssessmentId} {assessment : Assessment}
    (found : catalogue.assessment? id = some assessment) :
    assessment.id = id := by
  simpa using List.find?_some found

theorem findAssessment_eq_ok_iff
    (catalogue : Catalogue) (id : AssessmentId)
    (assessment : Assessment) :
    catalogue.findAssessment id = .ok assessment ↔
      catalogue.assessment? id = some assessment := by
  unfold findAssessment
  cases catalogue.assessment? id <;> simp

/-- The question ids are a primary key, so a listed question is found. -/
theorem question?_eq_some_iff
    (catalogue : Catalogue) (id : QuestionId)
    (question : AssessmentQuestion) :
    catalogue.question? id = some question ↔
      question ∈ catalogue.questions ∧ question.id = id :=
  KeyedTable.find?_eq_some_iff
    ⟨catalogue.questions, catalogue.questionKeys⟩ id question

theorem category?_eq_some_iff
    (catalogue : Catalogue) (id : CategoryId)
    (category : AssessmentCategory) :
    catalogue.category? id = some category ↔
      category ∈ catalogue.categories ∧ category.id = id :=
  KeyedTable.find?_eq_some_iff
    ⟨catalogue.categories, catalogue.categoryKeys⟩ id category

end Catalogue

/-! ## Responses and participations -/

/-- Weights given to categories, in the order of the JSON keys. -/
abbrev GradedCategories :=
  List (CategoryId × Option ℚ)

/-- One participant's part in one assessment. -/
structure Pair where
  assessmentId : AssessmentId
  participantId : UserId
deriving DecidableEq, Repr

/-- A pair determines its assessment and its participant. -/
theorem Catalogue.eq_of_pair_eq
    {catalogue : Catalogue} {assessment other : Assessment}
    {participant user : UserId}
    (found : catalogue.assessment? assessment.id = some assessment)
    (otherFound : catalogue.assessment? other.id = some other)
    (samePair :
      (⟨assessment.id, participant⟩ : Pair) = ⟨other.id, user⟩) :
    assessment = other ∧ participant = user := by
  have sameId : assessment.id = other.id :=
    congrArg Pair.assessmentId samePair
  rw [sameId, otherFound, Option.some.injEq] at found
  exact ⟨found.symm, congrArg Pair.participantId samePair⟩

structure ParticipantResponse where
  assessmentId : AssessmentId
  participantId : UserId
  questionId : QuestionId
  selectedAnswerIdsColumn : Option JsonText.Text
  writtenResponseText : Option String
  gradedScore : Option ℚ
  gradedCategories : Option GradedCategories
  gradedBy : Option UserId
  gradedAt : Option Timestamp
deriving DecidableEq, Repr

/-- The unique key `participant_response_unique`. -/
abbrev ResponseKey :=
  Pair × QuestionId

namespace ParticipantResponse

def pair (response : ParticipantResponse) : Pair where
  assessmentId := response.assessmentId
  participantId := response.participantId

def key (response : ParticipantResponse) : ResponseKey :=
  (response.pair, response.questionId)

/-- The cast attribute `selected_answer_ids`. -/
def selectedAnswerIds (response : ParticipantResponse) : PhpValue :=
  castArrayGet response.selectedAnswerIdsColumn

/-- A response row before any column but its key is set. -/
def blank (key : ResponseKey) : ParticipantResponse where
  assessmentId := key.1.assessmentId
  participantId := key.1.participantId
  questionId := key.2
  selectedAnswerIdsColumn := none
  writtenResponseText := none
  gradedScore := none
  gradedCategories := none
  gradedBy := none
  gradedAt := none

@[simp]
theorem key_blank (responseKey : ResponseKey) :
    (blank responseKey).key = responseKey :=
  rfl

end ParticipantResponse

inductive ParticipationStatus where
  | notStarted
  | inProgress
  | completed
deriving DecidableEq, Repr

namespace ParticipationStatus

/-- Position in `not_started < in_progress < completed`. -/
def rank : ParticipationStatus → ℕ
  | .notStarted => 0
  | .inProgress => 1
  | .completed => 2

instance : LE ParticipationStatus where
  le left right := left.rank ≤ right.rank

instance (left right : ParticipationStatus) : Decidable (left ≤ right) :=
  inferInstanceAs (Decidable (left.rank ≤ right.rank))

theorem le_completed (status : ParticipationStatus) :
    status ≤ .completed := by
  cases status <;> decide

protected theorem le_refl (status : ParticipationStatus) :
    status ≤ status :=
  Nat.le_refl status.rank

protected theorem le_trans
    {first second third : ParticipationStatus}
    (left : first ≤ second) (right : second ≤ third) :
    first ≤ third :=
  Nat.le_trans left right

end ParticipationStatus

structure AssessmentParticipant where
  assessmentId : AssessmentId
  participantId : UserId
  status : ParticipationStatus
  score : Option ℚ
  updatedAt : Timestamp
deriving DecidableEq, Repr

def AssessmentParticipant.pair (row : AssessmentParticipant) : Pair where
  assessmentId := row.assessmentId
  participantId := row.participantId

structure Database where
  participantResponses : KeyedTable ParticipantResponse.key
  assessmentParticipants : List AssessmentParticipant

namespace Database

@[ext]
theorem ext
    {left right : Database}
    (responses :
      left.participantResponses = right.participantResponses)
    (participants :
      left.assessmentParticipants = right.assessmentParticipants) :
    left = right := by
  cases left
  cases right
  cases responses
  cases participants
  rfl

/-- The database after the migrations, before any request. -/
def empty : Database where
  participantResponses := KeyedTable.empty
  assessmentParticipants := []

/-- The responses of one participant in one assessment. -/
def responsesOf (database : Database) (pair : Pair) :
    List ParticipantResponse :=
  database.participantResponses.rows.filter
    fun response => response.pair = pair

/-- The response to one question. -/
def response? (database : Database) (key : ResponseKey) :
    Option ParticipantResponse :=
  database.participantResponses.find? key

/-- The first participation row of a pair. -/
def participation? (database : Database) (pair : Pair) :
    Option AssessmentParticipant :=
  database.assessmentParticipants.find? fun row => row.pair = pair

end Database

/-! ## Statements -/

/-- The answer columns that taking an assessment sets. -/
inductive AnswerColumns where
  | selection (selectedAnswerIds : Option JsonText.Text)
  | written (writtenResponseText : Option String)
deriving DecidableEq, Repr

def AnswerColumns.fill (columns : AnswerColumns)
    (response : ParticipantResponse) : ParticipantResponse :=
  match columns with
  | .selection selectedAnswerIds =>
      { response with selectedAnswerIdsColumn := selectedAnswerIds }
  | .written writtenResponseText =>
      { response with writtenResponseText := writtenResponseText }

/-- The grade column that the scoring mode selects. -/
inductive GradeValue where
  | gradedScore (score : Option ℚ)
  | gradedCategories (categories : Option GradedCategories)
deriving DecidableEq, Repr

/-- The columns that grading sets. -/
structure GradeColumns where
  gradedBy : UserId
  gradedAt : Timestamp
  value : GradeValue
deriving DecidableEq, Repr

def GradeColumns.fill (columns : GradeColumns)
    (response : ParticipantResponse) : ParticipantResponse :=
  match columns.value with
  | .gradedScore score =>
      { response with
        gradedBy := some columns.gradedBy
        gradedAt := some columns.gradedAt
        gradedScore := score }
  | .gradedCategories categories =>
      { response with
        gradedBy := some columns.gradedBy
        gradedAt := some columns.gradedAt
        gradedCategories := categories }

@[simp]
theorem AnswerColumns.key_fill
    (columns : AnswerColumns) (response : ParticipantResponse) :
    (columns.fill response).key = response.key := by
  cases columns <;> rfl

@[simp]
theorem GradeColumns.key_fill
    (columns : GradeColumns) (response : ParticipantResponse) :
    (columns.fill response).key = response.key := by
  rcases columns with ⟨gradedBy, gradedAt, value⟩
  cases value <;> rfl

/--
The participation columns that a statement lists.  `score` is `none` when
the column is not among them.
-/
structure ParticipationColumns where
  score : Option ℚ
  status : ParticipationStatus
  updatedAt : Timestamp
deriving DecidableEq, Repr

def ParticipationColumns.fill (columns : ParticipationColumns)
    (row : AssessmentParticipant) : AssessmentParticipant :=
  { row with
    score := columns.score.or row.score
    status := columns.status
    updatedAt := columns.updatedAt }

/-- The inserted row; unlisted columns take their default `NULL`. -/
def ParticipationColumns.newRow (columns : ParticipationColumns)
    (pair : Pair) : AssessmentParticipant where
  assessmentId := pair.assessmentId
  participantId := pair.participantId
  status := columns.status
  score := columns.score
  updatedAt := columns.updatedAt

@[simp]
theorem ParticipationColumns.pair_fill
    (columns : ParticipationColumns) (row : AssessmentParticipant) :
    (columns.fill row).pair = row.pair :=
  rfl

@[simp]
theorem ParticipationColumns.pair_newRow
    (columns : ParticipationColumns) (pair : Pair) :
    (columns.newRow pair).pair = pair :=
  rfl

/--
The writes of the modelled code.  `saveAnswer` is the write of
`updateOrCreate`: it inserts the row, or updates it when the unique key is
taken.  `updateParticipant` is the `limit(1)` update of `updateOrInsert`,
`updateParticipants` the unlimited one.
-/
inductive Statement where
  | saveAnswer (key : ResponseKey) (columns : AnswerColumns)
  | saveGrade (key : ResponseKey) (columns : GradeColumns)
  | insertParticipant (pair : Pair) (columns : ParticipationColumns)
  | updateParticipant (pair : Pair) (columns : ParticipationColumns)
  | updateParticipants (pair : Pair) (columns : ParticipationColumns)
  | fixOldScaleScores (updatedAt : Timestamp)
deriving DecidableEq, Repr

/-- Set the answer columns of a response, creating its row if needed. -/
def Database.saveAnswer (database : Database)
    (key : ResponseKey) (columns : AnswerColumns) : Database :=
  { database with
    participantResponses :=
      (database.participantResponses.insert
          (ParticipantResponse.blank key)).modify key columns.fill
        columns.key_fill }

/--
Set the grade columns of a response.  Eloquent leaves out the columns that
equal those of the row it has loaded.  The row is the same unless another
transaction writes it in between, which two requests with different questions
do not.
-/
def Database.saveGrade (database : Database)
    (key : ResponseKey) (columns : GradeColumns) : Database :=
  { database with
    participantResponses :=
      database.participantResponses.modify key columns.fill
        columns.key_fill }

/-- Rewrite a score below 20 to ten times its value. -/
def AssessmentParticipant.fixOldScale
    (updatedAt : Timestamp) (row : AssessmentParticipant) :
    AssessmentParticipant :=
  match row.score with
  | none => row
  | some score =>
      if score < 20 then
        { row with score := some (score * 10), updatedAt := updatedAt }
      else
        row

/-- The effect of a statement. -/
def Statement.perform : Statement → Database → Database
  | .saveAnswer key columns, database =>
      database.saveAnswer key columns
  | .saveGrade key columns, database =>
      database.saveGrade key columns
  | .insertParticipant pair columns, database =>
      { database with
        assessmentParticipants :=
          database.assessmentParticipants ++ [columns.newRow pair] }
  | .updateParticipant pair columns, database =>
      { database with
        assessmentParticipants :=
          updateFirst (fun row => row.pair = pair) columns.fill
            database.assessmentParticipants }
  | .updateParticipants pair columns, database =>
      { database with
        assessmentParticipants :=
          database.assessmentParticipants.map fun row =>
            if row.pair = pair then columns.fill row else row }
  | .fixOldScaleScores updatedAt, database =>
      { database with
        assessmentParticipants :=
          database.assessmentParticipants.map
            (AssessmentParticipant.fixOldScale updatedAt) }

/-- Whether two statements lock a common row. -/
def Statement.sameRow : Statement → Statement → Bool
  | .saveAnswer left _, .saveAnswer right _ => left = right
  | .saveAnswer left _, .saveGrade right _ => left = right
  | .saveGrade left _, .saveAnswer right _ => left = right
  | .saveGrade left _, .saveGrade right _ => left = right
  | .updateParticipant left _, .updateParticipant right _ => left = right
  | .updateParticipant left _, .updateParticipants right _ => left = right
  | .updateParticipants left _, .updateParticipant right _ => left = right
  | .updateParticipants left _, .updateParticipants right _ =>
      left = right
  | .updateParticipant _ _, .fixOldScaleScores _ => true
  | .updateParticipants _ _, .fixOldScaleScores _ => true
  | .fixOldScaleScores _, .updateParticipant _ _ => true
  | .fixOldScaleScores _, .updateParticipants _ _ => true
  | .fixOldScaleScores _, .fixOldScaleScores _ => true
  | _, _ => false

instance : Store Database Statement where
  perform := Statement.perform
  sameRow := Statement.sameRow

/-- A request handler over this database. -/
abbrev DatabaseProgram : Type → Type :=
  Program Database Statement PhpError

end SultanPass
