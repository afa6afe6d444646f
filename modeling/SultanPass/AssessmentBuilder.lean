import SultanPass.Library.FormData
import SultanPass.Library.Markup
import SultanPass.Schema

/-!
# The assessment builder

The page of `assessment-builder.js`: its categories and questions as they
stand in the document, the handlers of its buttons and inputs, and the form
that it submits.

A category and a question take their index from a counter that only grows.
An answer takes it from the number of answers of its question at that time.
The scoring section of an answer is rendered anew by `updateAnswerScoring`
and then edited in place.

The names of the categories are pasted unescaped into that section.  The page
that is modelled here is the one of names in which a browser reads no markup;
`PastesText` says so for a step.
-/

namespace SultanPass.AssessmentBuilder

open SultanPass.Library

/-! ## The document -/

/-- The identity of an `.answer-item` in the document. -/
abbrev ElementId :=
  ℕ

/-- The inputs of one language for a question or an answer. -/
structure TextTranslation where
  languageId : LanguageId
  text : String
deriving DecidableEq, Repr

/-- The inputs of one language for a category. -/
structure CategoryTranslation where
  languageId : LanguageId
  name : String
  description : String
deriving DecidableEq, Repr

/-- A `.category-item`; `order` is its hidden input. -/
structure CategoryItem where
  index : ℕ
  name : String
  color : String
  description : String
  translations : List CategoryTranslation
  order : ℕ
deriving DecidableEq, Repr

/-- A `.category-checkbox` with its `.category-weight`. -/
structure WeightInput where
  categoryIndex : ℕ
  checked : Bool
  value : String
  disabled : Bool
deriving DecidableEq, Repr

/-- The content of a `.scoring-section`. -/
inductive ScoringSection where
  | empty
  | weights (inputs : List WeightInput)
  | scoreValue (value : String)
deriving DecidableEq, Repr

/-- An `.answer-item`; `index` is its `data-answer-index`. -/
structure AnswerItem where
  element : ElementId
  index : ℕ
  order : ℕ
  answerText : String
  translations : List TextTranslation
  scoringSection : ScoringSection
deriving DecidableEq, Repr

/-- A `.question-item` with its `.answers-list`. -/
structure QuestionItem where
  index : ℕ
  order : ℕ
  questionType : QuestionType
  questionText : String
  translations : List TextTranslation
  maxScore : String
  answers : List AnswerItem
deriving DecidableEq, Repr

structure Page where
  scoringMode : ScoringMode
  languages : List LanguageId
  categoryCounter : ℕ
  questionCounter : ℕ
  elementCounter : ElementId
  categories : List CategoryItem
  questions : List QuestionItem
deriving DecidableEq, Repr

def ScoringSection.inputs : ScoringSection → List WeightInput
  | .weights inputs => inputs
  | _ => []

/-- The weight inputs that an answer offers. -/
def AnswerItem.weightInputs (answer : AnswerItem) : List WeightInput :=
  answer.scoringSection.inputs

def Page.answers (page : Page) : List AnswerItem :=
  page.questions.flatMap QuestionItem.answers

/-- Change the questions in place. -/
def Page.mapQuestions (change : QuestionItem → QuestionItem)
    (page : Page) : Page :=
  { page with questions := page.questions.map change }

/-- Change the answers in place. -/
def QuestionItem.mapAnswers (change : AnswerItem → AnswerItem)
    (question : QuestionItem) : QuestionItem :=
  { question with answers := question.answers.map change }

/-! ## Scoring sections -/

/-- The weight input as `updateAnswerScoring` renders it. -/
def blankWeight (category : CategoryItem) : WeightInput where
  categoryIndex := category.index
  checked := false
  value := ""
  disabled := true

/--
The new section of an answer.  It has the names of the categories as labels,
which add nothing to it as long as they are plain texts.
-/
def updateAnswerScoring (page : Page) (answer : AnswerItem) : AnswerItem :=
  { answer with
    scoringSection :=
      match page.scoringMode with
      | .categorical => .weights (page.categories.map blankWeight)
      | .percentile => .scoreValue "" }

def updateQuestionScoring (page : Page) (question : QuestionItem) :
    QuestionItem :=
  question.mapAnswers (updateAnswerScoring page)

/-- Apart from what is displayed, only the scoring sections change. -/
def updateQuestionType (page : Page) (question : QuestionItem) :
    QuestionItem :=
  updateQuestionScoring page question

def updateAllQuestions (page : Page) : Page :=
  page.mapQuestions (updateQuestionScoring page)

/-! ## Buttons -/

def addCategory (page : Page) : Page :=
  { page with
    categoryCounter := page.categoryCounter + 1
    categories :=
      page.categories ++
        [{ index := page.categoryCounter
           name := ""
           color := "#3B82F6"
           description := ""
           translations :=
             page.languages.map fun languageId => ⟨languageId, "", ""⟩
           order := page.categoryCounter + 1 }] }

/-- The handler of `.remove-category-btn`. -/
def removeCategory (index : ℕ) (page : Page) : Page :=
  updateAllQuestions
    { page with
      categories :=
        page.categories.filter fun category => category.index ≠ index }

/-- The answer that `addAnswer` appends. -/
def newAnswer (page : Page) (question : QuestionItem) : AnswerItem where
  element := page.elementCounter
  index := question.answers.length
  order := question.answers.length + 1
  answerText := ""
  translations := page.languages.map fun languageId => ⟨languageId, ""⟩
  scoringSection := .empty

def addAnswer (questionIndex : ℕ) (page : Page) : Page :=
  { page with
    elementCounter := page.elementCounter + 1
    questions :=
      page.questions.map fun question =>
        if question.index = questionIndex then
          { question with
            answers :=
              question.answers ++
                [updateAnswerScoring page (newAnswer page question)] }
        else
          question }

/-- The question that `addQuestion` appends. -/
def newQuestion (page : Page) : QuestionItem where
  index := page.questionCounter
  order := page.questionCounter + 1
  questionType := .mcq
  questionText := ""
  translations := page.languages.map fun languageId => ⟨languageId, ""⟩
  maxScore := ""
  answers := []

/-- The new question's item, initialised and without answers. -/
def appendQuestion (page : Page) : Page :=
  { page with
    questionCounter := page.questionCounter + 1
    questions :=
      page.questions ++
        [updateQuestionScoring page
          (updateQuestionType page (newQuestion page))] }

def addQuestion (page : Page) : Page :=
  addAnswer page.questionCounter
    (addAnswer page.questionCounter (appendQuestion page))

def updateQuestionNumbers (page : Page) : Page :=
  { page with
    questions :=
      page.questions.mapIdx fun position question =>
        { question with order := position + 1 } }

/-- The handler of `.remove-question-btn`. -/
def removeQuestion (index : ℕ) (page : Page) : Page :=
  updateQuestionNumbers
    { page with
      questions :=
        page.questions.filter fun question => question.index ≠ index }

/-- The handler of `.remove-answer-btn`. -/
def removeAnswer (element : ElementId) (page : Page) : Page :=
  page.mapQuestions fun question =>
    { question with
      answers :=
        question.answers.filter fun answer => answer.element ≠ element }

/-- Two categories are added in categorical mode when there is none. -/
def withDefaultCategories (page : Page) : Page :=
  if page.scoringMode = .categorical ∧ page.categories = [] then
    addCategory (addCategory page)
  else
    page

def updateScoringMode (page : Page) : Page :=
  updateAllQuestions (withDefaultCategories page)

/-- The handler of `.question-type-select`. -/
def changeType (index : ℕ) (questionType : QuestionType) (page : Page) :
    Page :=
  page.mapQuestions fun question =>
    if question.index = index then
      updateQuestionType page { question with questionType := questionType }
    else
      question

/-! ## Inputs -/

inductive CategoryField where
  | name
  | color
  | description
  | translationName (position : ℕ)
  | translationDescription (position : ℕ)
deriving DecidableEq, Repr

inductive QuestionField where
  | questionText
  | maxScore
  | translation (position : ℕ)
deriving DecidableEq, Repr

inductive AnswerField where
  | answerText
  | scoreValue
  | translation (position : ℕ)
deriving DecidableEq, Repr

def CategoryItem.enter (text : String) (category : CategoryItem) :
    CategoryField → CategoryItem
  | .name => { category with name := text }
  | .color => { category with color := text }
  | .description => { category with description := text }
  | .translationName position =>
      { category with
        translations :=
          category.translations.modify position fun translation =>
            { translation with name := text } }
  | .translationDescription position =>
      { category with
        translations :=
          category.translations.modify position fun translation =>
            { translation with description := text } }

def QuestionItem.enter (text : String) (question : QuestionItem) :
    QuestionField → QuestionItem
  | .questionText => { question with questionText := text }
  | .maxScore => { question with maxScore := text }
  | .translation position =>
      { question with
        translations :=
          question.translations.modify position fun translation =>
            { translation with text := text } }

def ScoringSection.enterScore (text : String) :
    ScoringSection → ScoringSection
  | .scoreValue _ => .scoreValue text
  | other => other

def AnswerItem.enter (text : String) (answer : AnswerItem) :
    AnswerField → AnswerItem
  | .answerText => { answer with answerText := text }
  | .scoreValue =>
      { answer with
        scoringSection := answer.scoringSection.enterScore text }
  | .translation position =>
      { answer with
        translations :=
          answer.translations.modify position fun translation =>
            { translation with text := text } }

/-- The handler of `.category-checkbox`, after a click on it. -/
def WeightInput.toggle (input : WeightInput) : WeightInput :=
  { input with
    checked := !input.checked
    disabled := input.checked
    value :=
      if input.checked then ""
      else if input.value = "" then "1.0"
      else input.value }

/-- Text goes into a weight input that is enabled. -/
def WeightInput.enter (text : String) (input : WeightInput) :
    WeightInput :=
  if input.disabled then input else { input with value := text }

def ScoringSection.mapWeights (change : WeightInput → WeightInput) :
    ScoringSection → ScoringSection
  | .weights inputs => .weights (inputs.map change)
  | other => other

/-- Change the weight input of a category. -/
def AnswerItem.changeWeight (category : ℕ)
    (change : WeightInput → WeightInput) (answer : AnswerItem) :
    AnswerItem :=
  { answer with
    scoringSection :=
      answer.scoringSection.mapWeights fun input =>
        if input.categoryIndex = category then change input else input }

/-! ## Events -/

/-- What a user can do on the page. -/
inductive Event where
  | selectMode (mode : ScoringMode)
  | addCategory
  | removeCategory (index : ℕ)
  | addQuestion
  | removeQuestion (index : ℕ)
  | changeType (index : ℕ) (questionType : QuestionType)
  | addAnswer (questionIndex : ℕ)
  | removeAnswer (element : ElementId)
  | enterCategory (index : ℕ) (field : CategoryField) (text : String)
  | enterQuestion (index : ℕ) (field : QuestionField) (text : String)
  | enterAnswer (element : ElementId) (field : AnswerField)
      (text : String)
  | toggleWeight (element : ElementId) (category : ℕ)
  | enterWeight (element : ElementId) (category : ℕ) (text : String)
deriving DecidableEq, Repr

/-- The events whose handlers paste the names of the categories. -/
def Page.pastesNames (page : Page) : Event → Bool
  | .selectMode mode =>
      page.scoringMode ≠ mode && mode = .categorical
  | .removeCategory _ => page.scoringMode = .categorical
  | .addQuestion => page.scoringMode = .categorical
  | .changeType _ _ => page.scoringMode = .categorical
  | .addAnswer _ => page.scoringMode = .categorical
  | _ => false

/-- A text in which a browser reads no markup. -/
def IsPlain (text : String) : Prop :=
  Glyph.markup (Glyph.foreign text.toList) = []

instance (text : String) : Decidable (IsPlain text) :=
  inferInstanceAs (Decidable (_ = _))

/-- The names that an event pastes into the page are plain texts. -/
def PastesText (page : Page) (event : Event) : Prop :=
  page.pastesNames event = true →
    ∀ category ∈ page.categories,
      event ≠ .removeCategory category.index → IsPlain category.name

instance (page : Page) (event : Event) : Decidable (PastesText page event) :=
  inferInstanceAs (Decidable (_ → ∀ category ∈ _, _ → _))

/-- A question is on the page. -/
def Page.HasQuestion (page : Page) (index : ℕ) : Prop :=
  ∃ question ∈ page.questions, question.index = index

instance (page : Page) (index : ℕ) : Decidable (page.HasQuestion index) :=
  inferInstanceAs (Decidable (∃ question ∈ _, _))

/-- A category is on the page. -/
def Page.HasCategory (page : Page) (index : ℕ) : Prop :=
  ∃ category ∈ page.categories, category.index = index

instance (page : Page) (index : ℕ) : Decidable (page.HasCategory index) :=
  inferInstanceAs (Decidable (∃ category ∈ _, _))

/-- A question has another type than the one selected. -/
def Page.ChangesType (page : Page) (index : ℕ)
    (questionType : QuestionType) : Prop :=
  ∃ question ∈ page.questions,
    question.index = index ∧ question.questionType ≠ questionType

instance (page : Page) (index : ℕ) (questionType : QuestionType) :
    Decidable (page.ChangesType index questionType) :=
  inferInstanceAs (Decidable (∃ question ∈ _, _ ∧ _))

/-- Change the answer with the given element. -/
def Page.changeAnswer (element : ElementId)
    (change : AnswerItem → AnswerItem) (page : Page) : Page :=
  page.mapQuestions
    (QuestionItem.mapAnswers fun answer =>
      if answer.element = element then change answer else answer)

/--
The page after an event.  A control that is not on the page, or a selection
that was already made, causes no event.
-/
def Page.step (page : Page) : Event → Page
  | .selectMode mode =>
      if page.scoringMode = mode then page
      else updateScoringMode { page with scoringMode := mode }
  | .addCategory => AssessmentBuilder.addCategory page
  | .removeCategory index =>
      if page.HasCategory index then
        AssessmentBuilder.removeCategory index page
      else page
  | .addQuestion => AssessmentBuilder.addQuestion page
  | .removeQuestion index =>
      if page.HasQuestion index then
        AssessmentBuilder.removeQuestion index page
      else page
  | .changeType index questionType =>
      if page.ChangesType index questionType then
        AssessmentBuilder.changeType index questionType page
      else page
  | .addAnswer questionIndex =>
      AssessmentBuilder.addAnswer questionIndex page
  | .removeAnswer element => AssessmentBuilder.removeAnswer element page
  | .enterCategory index field text =>
      { page with
        categories :=
          page.categories.map fun category =>
            if category.index = index then category.enter text field
            else category }
  | .enterQuestion index field text =>
      page.mapQuestions fun question =>
        if question.index = index then question.enter text field
        else question
  | .enterAnswer element field text =>
      page.changeAnswer element fun answer => answer.enter text field
  | .toggleWeight element category =>
      page.changeAnswer element
        (AnswerItem.changeWeight category WeightInput.toggle)
  | .enterWeight element category text =>
      page.changeAnswer element
        (AnswerItem.changeWeight category (WeightInput.enter text))

/-- The page when it is loaded. -/
def load (languages : List LanguageId) (mode : ScoringMode) : Page :=
  updateScoringMode
    { scoringMode := mode
      languages := languages
      categoryCounter := 0
      questionCounter := 0
      elementCounter := 0
      categories := []
      questions := [] }

def Page.run (page : Page) (events : List Event) : Page :=
  events.foldl Page.step page

/-! ## The submitted form -/

/-- The `submit` handler: the alert with which it stops the form. -/
def Page.alert (page : Page) : Option String :=
  if page.scoringMode = .categorical ∧ page.categories.length < 2 then
    some "Please add at least 2 categories for a categorical assessment."
  else if page.questions.length < 1 then
    some "Please add at least 1 question to the assessment."
  else if
      ∃ question ∈ page.questions,
        question.questionType = .mcq ∧ question.answers.length < 2 then
    some "Each MCQ question must have at least 2 answer options."
  else
    none

open FormData

/-- The inputs of the languages, by their position. -/
def translationFields (inputs : List (List (String × String))) :
    List Field :=
  under "translations"
    (inputs.zipIdx.flatMap fun input =>
      under input.2.repr (texts input.1))

def TextTranslation.texts (key : String) (translation : TextTranslation) :
    List (String × String) :=
  [("language_id", translation.languageId.repr), (key, translation.text)]

def CategoryTranslation.texts (translation : CategoryTranslation) :
    List (String × String) :=
  [("language_id", translation.languageId.repr),
    ("name", translation.name),
    ("description", translation.description)]

def CategoryItem.fields (category : CategoryItem) : List Field :=
  FormData.texts
      [("name", category.name),
        ("color", category.color),
        ("description", category.description)] ++
    translationFields
      (category.translations.map CategoryTranslation.texts) ++
    FormData.texts [("order", category.order.repr)]

/-- A disabled input is not submitted. -/
def ScoringSection.fields : ScoringSection → List Field
  | .empty => []
  | .weights inputs =>
      under "categories"
        ((inputs.filter fun input => !input.disabled).flatMap fun input =>
          under input.categoryIndex.repr
            (FormData.texts [("weight", input.value)]))
  | .scoreValue value => FormData.texts [("score_value", value)]

def AnswerItem.fields (answer : AnswerItem) : List Field :=
  FormData.texts
      [("order", answer.order.repr), ("answer_text", answer.answerText)] ++
    translationFields
      (answer.translations.map (TextTranslation.texts "answer_text")) ++
    answer.scoringSection.fields

def questionTypeValue : QuestionType → String
  | .mcq => "mcq"
  | .written => "written"

def QuestionItem.fields (question : QuestionItem) : List Field :=
  FormData.texts
      [("order", question.order.repr),
        ("question_type", questionTypeValue question.questionType),
        ("question_text", question.questionText)] ++
    translationFields
      (question.translations.map (TextTranslation.texts "question_text")) ++
    FormData.texts [("max_score", question.maxScore)] ++
    under "answers"
      (question.answers.flatMap fun answer =>
        under answer.index.repr answer.fields)

/-- The builder's part of the form, in the order of the document. -/
def Page.fields (page : Page) : List Field :=
  under "categories"
      (page.categories.flatMap fun category =>
        under category.index.repr category.fields) ++
    under "questions"
      (page.questions.flatMap fun question =>
        under question.index.repr question.fields)

/-- The names and texts that the browser sends. -/
def Page.submittedForm (page : Page) : List (String × String) :=
  named page.fields

end SultanPass.AssessmentBuilder
