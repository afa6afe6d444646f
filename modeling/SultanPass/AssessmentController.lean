import SultanPass.Schema
import SultanPass.Library.ExceptLoop
import Mathlib.Algebra.BigOperators.Group.List.Basic
import Mathlib.Algebra.Order.Ring.Int
import Mathlib.Algebra.Order.Ring.Nat
import Mathlib.Data.NNRat.Defs
import Mathlib.Data.Rat.Floor

/-!
# `AssessmentController::store`

How an assessment comes into the catalogue with its categories, questions,
answers, scores and weights.  A payload is taken after its validation: the
rule `min:0` is the type of its numbers, and a PHP array is the list of its
entries under distinct keys.

An exception inside the transaction leaves the catalogue as it was, so the
catalogues of the system are those of `authored`.
-/

namespace SultanPass

open SultanPass.Library

/-! ## Rows -/

namespace Catalogue

/-- A catalogue before anything is authored. -/
def ofUsers (users : List UserId) : Catalogue where
  users := users
  assessments := []
  questions := []
  answers := []
  answerScores := []
  categories := []
  answerCategoryWeights := []
  assessmentTranslations := KeyedTable.empty
  categoryTranslations := KeyedTable.empty
  questionTranslations := KeyedTable.empty
  answerTranslations := KeyedTable.empty
  assessmentKeys := List.nodup_nil
  questionKeys := List.nodup_nil
  answerKeys := List.nodup_nil
  categoryKeys := List.nodup_nil
  weightCategories := nofun
  maxScoresNonneg := nofun
  scoreValuesNonneg := nofun
  weightsNonneg := nofun

def nextAssessmentId (catalogue : Catalogue) : AssessmentId :=
  freshKey (catalogue.assessments.map Assessment.id)

def nextQuestionId (catalogue : Catalogue) : QuestionId :=
  freshKey (catalogue.questions.map AssessmentQuestion.id)

def nextAnswerId (catalogue : Catalogue) : AnswerId :=
  freshKey (catalogue.answers.map AssessmentAnswer.id)

def nextCategoryId (catalogue : Catalogue) : CategoryId :=
  freshKey (catalogue.categories.map AssessmentCategory.id)

/-- `Assessment::create`. -/
def createAssessment (catalogue : Catalogue)
    (type : AssessmentType) (scoringMode : ScoringMode)
    (maxTotalScore : Option ℚ) (status : AssessmentStatus)
    (startDate endDate : Option Day) : Catalogue :=
  { catalogue with
    assessments :=
      catalogue.assessments ++
        [{ id := catalogue.nextAssessmentId
           type := type
           scoringMode := scoringMode
           maxTotalScore := maxTotalScore
           status := status
           startDate := startDate
           endDate := endDate }]
    assessmentKeys := by
      rw [List.map_append]
      exact nodup_concat_freshKey catalogue.assessmentKeys }

/-- `$assessment->categories()->create`. -/
def createCategory (catalogue : Catalogue)
    (assessmentId : AssessmentId) (name : String)
    (description : Option String) (color : String) (order : ℤ) :
    Catalogue :=
  { catalogue with
    categories :=
      catalogue.categories ++
        [{ id := catalogue.nextCategoryId
           assessmentId := assessmentId
           name := name
           description := description
           color := some color
           order := order }]
    categoryKeys := by
      rw [List.map_append]
      exact nodup_concat_freshKey catalogue.categoryKeys
    weightCategories := by
      intro weight member
      rw [List.map_append]
      exact
        List.mem_append_left _ (catalogue.weightCategories weight member) }

/-- `$assessment->questions()->create`. -/
def createQuestion (catalogue : Catalogue)
    (assessmentId : AssessmentId) (questionType : QuestionType)
    (questionText : String) (order : ℤ) (maxScore : Option ℚ≥0) :
    Catalogue :=
  { catalogue with
    questions :=
      catalogue.questions ++
        [{ id := catalogue.nextQuestionId
           assessmentId := assessmentId
           questionType := questionType
           questionText := questionText
           order := order
           maxScore := maxScore.map NNRat.cast }]
    questionKeys := by
      rw [List.map_append]
      exact nodup_concat_freshKey catalogue.questionKeys
    maxScoresNonneg := by
      intro question member maximum isMaximum
      rcases List.mem_append.mp member with old | new
      · exact catalogue.maxScoresNonneg question old maximum isMaximum
      · rw [List.mem_singleton] at new
        subst new
        rcases Option.map_eq_some_iff.mp isMaximum with ⟨value, _, rfl⟩
        exact value.2 }

/-- `$question->answers()->create`. -/
def createAnswer (catalogue : Catalogue) (questionId : QuestionId)
    (answerText : String) (order : ℤ) : Catalogue :=
  { catalogue with
    answers :=
      catalogue.answers ++
        [{ id := catalogue.nextAnswerId
           questionId := questionId
           answerText := answerText
           order := order }]
    answerKeys := by
      rw [List.map_append]
      exact nodup_concat_freshKey catalogue.answerKeys }

/-- `$answer->score()->create`. -/
def createScore (catalogue : Catalogue) (answerId : AnswerId)
    (scoreValue : ℚ≥0) : Catalogue :=
  { catalogue with
    answerScores :=
      catalogue.answerScores ++
        [{ answerId := answerId, scoreValue := scoreValue }]
    scoreValuesNonneg := by
      intro score member
      rcases List.mem_append.mp member with old | new
      · exact catalogue.scoreValuesNonneg score old
      · rw [List.mem_singleton] at new
        subst new
        exact scoreValue.2 }

/-- `$answer->categories()->attach`, under its foreign and unique keys. -/
def attachCategory (catalogue : Catalogue) (answerId : AnswerId)
    (categoryId : CategoryId) (weight : ℚ≥0) :
    Except PhpError Catalogue :=
  if catalogue.answerCategoryWeights.any fun row =>
      row.answerId = answerId && row.categoryId = categoryId then
    .error .queryException
  else if listed :
      categoryId ∈ catalogue.categories.map AssessmentCategory.id then
    .ok
      { catalogue with
        answerCategoryWeights :=
          catalogue.answerCategoryWeights ++
            [{ answerId := answerId
               categoryId := categoryId
               weight := weight }]
        weightCategories := by
          intro other member
          rcases List.mem_append.mp member with old | new
          · exact catalogue.weightCategories other old
          · rw [List.mem_singleton] at new
            subst new
            exact listed
        weightsNonneg := by
          intro other member
          rcases List.mem_append.mp member with old | new
          · exact catalogue.weightsNonneg other old
          · rw [List.mem_singleton] at new
            subst new
            exact weight.2 }
  else
    .error .queryException

/-- An insertion into a translation table, under its unique key. -/
def insertTranslation {Owner Content : Type} [DecidableEq Owner]
    (table :
      KeyedTable (Translation.key : Translation Owner Content → _))
    (row : Translation Owner Content) :
    Except PhpError
      (KeyedTable (Translation.key : Translation Owner Content → _)) :=
  match table.find? row.key with
  | some _ => .error .queryException
  | none => .ok (table.insert row)

/-- `$assessment->translations()->create`. -/
def translateAssessment (catalogue : Catalogue)
    (id : AssessmentId) (languageId : LanguageId) (text : TitleText) :
    Except PhpError Catalogue := do
  let table ← insertTranslation catalogue.assessmentTranslations
    { ownerId := id, languageId := languageId, content := text }
  .ok { catalogue with assessmentTranslations := table }

/-- `$category->translations()->create`. -/
def translateCategory (catalogue : Catalogue)
    (id : CategoryId) (languageId : LanguageId) (text : NameText) :
    Except PhpError Catalogue := do
  let table ← insertTranslation catalogue.categoryTranslations
    { ownerId := id, languageId := languageId, content := text }
  .ok { catalogue with categoryTranslations := table }

/-- `$question->translations()->create`. -/
def translateQuestion (catalogue : Catalogue)
    (id : QuestionId) (languageId : LanguageId) (text : String) :
    Except PhpError Catalogue := do
  let table ← insertTranslation catalogue.questionTranslations
    { ownerId := id, languageId := languageId, content := text }
  .ok { catalogue with questionTranslations := table }

/-- `$answer->translations()->create`. -/
def translateAnswer (catalogue : Catalogue)
    (id : AnswerId) (languageId : LanguageId) (text : String) :
    Except PhpError Catalogue := do
  let table ← insertTranslation catalogue.answerTranslations
    { ownerId := id, languageId := languageId, content := text }
  .ok { catalogue with answerTranslations := table }

end Catalogue

namespace AssessmentController

/-! ## Payloads -/

/--
A key of a PHP array.  Numeric texts that PHP does not turn into an integer
key, such as `"1.5"` and `"007"`, keep their text next to their value; the
key `text` is a text that is not numeric.
-/
inductive ArrayKey where
  | int (index : ℤ)
  | numericText (name : String) (value : ℚ)
  | text (name : String)
deriving DecidableEq, Repr

/-- What an integer column stores of a number. -/
def integerColumn (value : ℚ) : ℤ :=
  if 0 ≤ value then ⌊value + 1 / 2⌋ else -⌊-value + 1 / 2⌋

/-- `$index + 1`. -/
def ArrayKey.addOne : ArrayKey → Except PhpError ℤ
  | .int index => .ok (index + 1)
  | .numericText _ value => .ok (integerColumn (value + 1))
  | .text _ => .error .typeError

/-- `$data['order'] ?? ($index + 1)`. -/
def orderOr (order : Option ℤ) (index : ArrayKey) : Except PhpError ℤ :=
  match order with
  | some order => .ok order
  | none => index.addOne

/-- One translation of a question or an answer. -/
structure TranslationData where
  languageId : Option LanguageId
  text : Option String
deriving DecidableEq, Repr

structure CategoryTranslationData extends TranslationData where
  description : Option String
deriving DecidableEq, Repr

structure CategoryData where
  name : String
  description : Option String
  color : Option String
  order : Option ℤ
  translations : List CategoryTranslationData
deriving DecidableEq, Repr

/-- One answer; `categories` are its weights by category key. -/
structure AnswerData where
  answerText : String
  order : Option ℤ
  scoreValue : Option ℚ≥0
  categories : List (ArrayKey × Option ℚ≥0)
  translations : List TranslationData

structure QuestionData where
  questionType : QuestionType
  questionText : String
  order : ℤ
  maxScore : Option ℚ≥0
  answers : List (ArrayKey × AnswerData)
  translations : List TranslationData

/-- PHP's `trim`. -/
def trim (text : String) : String :=
  let isBlank (char : Char) : Bool :=
    [32, 10, 13, 9, 11, 0].contains char.toNat
  String.ofList
    (((text.toList.dropWhile isBlank).reverse.dropWhile
      isBlank).reverse)

/-- One title of the assessment. -/
structure TitleData where
  languageId : LanguageId
  title : String
  description : Option String
deriving DecidableEq, Repr

def TitleData.trimmed (translation : TitleData) : TitleData :=
  { translation with title := trim translation.title }

/-- A validated payload, with the rules that tie its fields together. -/
structure StoreRequest where
  type : AssessmentType
  scoringMode : ScoringMode
  status : AssessmentStatus
  startDate : Option Day
  endDate : Option Day
  translations : List TitleData
  categories : List (ArrayKey × CategoryData)
  questions : List QuestionData
  dates :
    ∀ startDay ∈ startDate, ∀ endDay ∈ endDate, startDay ≤ endDay
  titleCount : 1 ≤ translations.length
  requiredTitles :
    ∀ translation ∈ translations, trim translation.title ≠ ""
  categoryKeys : (categories.map Prod.fst).Nodup
  categoryCount :
    scoringMode = .categorical →
      2 ≤ categories.length ∧ categories.length ≤ 20
  questionCount : 1 ≤ questions.length ∧ questions.length ≤ 100
  requiredMaxScores :
    scoringMode = .percentile →
      ∀ question ∈ questions, question.maxScore.isSome

/-! ## The transaction of `store` -/

/-- PHP's `empty()` of a text. -/
def isEmptyText (text : String) : Bool :=
  text = "" || text = "0"

/-- A translation is stored when it has a language and a text. -/
def storeTranslations {Entry : Type} (data : Entry → TranslationData)
    (create :
      Catalogue → LanguageId → String → Entry →
        Except PhpError Catalogue)
    (entries : List Entry) (catalogue : Catalogue) :
    Except PhpError Catalogue :=
  entries.foldlM
    (fun reached entry =>
      match (data entry).languageId, (data entry).text with
      | some languageId, some text =>
          if isEmptyText text then .ok reached
          else create reached languageId text entry
      | _, _ => .ok reached)
    catalogue

/-- The catalogue and `$categoryIdMap`. -/
structure StoredCategories where
  catalogue : Catalogue
  categoryIdMap : List (ArrayKey × CategoryId)

/-- The color of a category without one. -/
def defaultColor : String :=
  "#3B82F6"

def storeCategory (assessmentId : AssessmentId)
    (stored : StoredCategories) (entry : ArrayKey × CategoryData) :
    Except PhpError StoredCategories := do
  let order ← orderOr entry.2.order entry.1
  let id := stored.catalogue.nextCategoryId
  let created :=
    stored.catalogue.createCategory assessmentId entry.2.name
      entry.2.description (entry.2.color.getD defaultColor) order
  let translated ←
    storeTranslations CategoryTranslationData.toTranslationData
      (fun reached languageId text translation =>
        reached.translateCategory id languageId
          { name := text, description := translation.description })
      entry.2.translations created
  .ok
    { catalogue := translated
      categoryIdMap := stored.categoryIdMap ++ [(entry.1, id)] }

/-- A weight is stored when its category exists and it is set. -/
def storeWeight (categoryIdMap : List (ArrayKey × CategoryId))
    (answerId : AnswerId) (catalogue : Catalogue)
    (entry : ArrayKey × Option ℚ≥0) : Except PhpError Catalogue :=
  match categoryIdMap.lookup entry.1, entry.2 with
  | some categoryId, some weight =>
      catalogue.attachCategory answerId categoryId weight
  | _, _ => .ok catalogue

def storeAnswer (scoringMode : ScoringMode)
    (categoryIdMap : List (ArrayKey × CategoryId))
    (questionId : QuestionId) (catalogue : Catalogue)
    (entry : ArrayKey × AnswerData) : Except PhpError Catalogue := do
  let order ← orderOr entry.2.order entry.1
  let id := catalogue.nextAnswerId
  let translated ←
    storeTranslations (fun translation => translation)
      (fun reached languageId text _ =>
        reached.translateAnswer id languageId text)
      entry.2.translations
      (catalogue.createAnswer questionId entry.2.answerText order)
  match scoringMode with
  | .percentile =>
      .ok (translated.createScore id (entry.2.scoreValue.getD 0))
  | .categorical =>
      entry.2.categories.foldlM (storeWeight categoryIdMap id)
        translated

def storeQuestion (scoringMode : ScoringMode)
    (categoryIdMap : List (ArrayKey × CategoryId))
    (assessmentId : AssessmentId) (catalogue : Catalogue)
    (question : QuestionData) : Except PhpError Catalogue := do
  let id := catalogue.nextQuestionId
  let translated ←
    storeTranslations (fun translation => translation)
      (fun reached languageId text _ =>
        reached.translateQuestion id languageId text)
      question.translations
      (catalogue.createQuestion assessmentId question.questionType
        question.questionText question.order question.maxScore)
  match question.questionType with
  | .mcq =>
      question.answers.foldlM
        (storeAnswer scoringMode categoryIdMap id) translated
  | .written => .ok translated

/-- `max_total_score` of the new assessment. -/
def maxTotalScore (request : StoreRequest) : Option ℚ :=
  match request.scoringMode with
  | .percentile =>
      some
        (request.questions.map fun question =>
          ((question.maxScore.getD 0 : ℚ≥0) : ℚ)).sum
  | .categorical => none

/-- The categories of a categorical assessment. -/
def storeCategories (request : StoreRequest)
    (assessmentId : AssessmentId) (catalogue : Catalogue) :
    Except PhpError StoredCategories :=
  match request.scoringMode with
  | .categorical =>
      request.categories.foldlM (storeCategory assessmentId)
        { catalogue := catalogue, categoryIdMap := [] }
  | .percentile => .ok { catalogue := catalogue, categoryIdMap := [] }

/-- The body of the transaction of `store`. -/
def storeTransaction (catalogue : Catalogue) (request : StoreRequest)
    (translations : List TitleData) : Except PhpError Catalogue := do
  let assessmentId := catalogue.nextAssessmentId
  let created :=
    catalogue.createAssessment request.type request.scoringMode
      (maxTotalScore request) request.status request.startDate
      request.endDate
  let translated ← translations.foldlM
    (fun reached translation =>
      reached.translateAssessment assessmentId translation.languageId
        { title := translation.title
          description := translation.description })
    created
  let stored ← storeCategories request assessmentId translated
  request.questions.foldlM
    (storeQuestion request.scoringMode stored.categoryIdMap
      assessmentId)
    stored.catalogue

/-- `$translations`. -/
def titles (request : StoreRequest) : List TitleData :=
  (request.translations.map TitleData.trimmed).filter
    fun translation => translation.title ≠ ""

/-- `store`; without a title it goes back before its transaction. -/
def store (catalogue : Catalogue) (request : StoreRequest) :
    Except PhpError Catalogue :=
  if titles request = [] then .ok catalogue
  else storeTransaction catalogue request (titles request)

/-- The catalogue after a request; an exception undoes its transaction. -/
def afterStore (catalogue : Catalogue) (request : StoreRequest) :
    Catalogue :=
  match store catalogue request with
  | .ok after => after
  | .error _ => catalogue

/-- The catalogue after a sequence of requests. -/
def authored (users : List UserId) (requests : List StoreRequest) :
    Catalogue :=
  requests.foldl afterStore (Catalogue.ofUsers users)

end AssessmentController

end SultanPass
