import SultanPass.BuilderForm
import SultanPass.StoreContracts

/-!
# Which builder forms are accepted

`CreateForm.data` is the payload that a form shows: its trimmed texts, null
for a blank one, and the numbers that its inputs spell.  `Complete` says what
has to be filled in.  Under the rules of `store` a form with these entries
is accepted exactly when it is complete, and then its payload is the one
that it shows (`accepts_validateFields`).

The answers that a written question had before its type was changed are
hidden but still submitted, so that they have to be complete as well; so do
the categories that are left when the mode is changed to percentile.
-/

namespace SultanPass.AssessmentBuilder

open SultanPass.Library
open SultanPass.Library.FormData
open SultanPass.Library.NumericText
open SultanPass.Library.Validated
open SultanPass.AssessmentController

variable (services : FormServices)

/-! ## What a form shows -/

/-- A text with its language, as an answer or a question has it. -/
def TextTranslation.data (translation : TextTranslation) :
    TranslationData where
  languageId := some translation.languageId
  text := services.cleaned translation.text

def CategoryTranslation.data (translation : CategoryTranslation) :
    CategoryTranslationData where
  languageId := some translation.languageId
  text := services.cleaned translation.name
  description := services.cleaned translation.description

def CategoryItem.data (category : CategoryItem) : CategoryData where
  name := services.trimString category.name
  description := services.cleaned category.description
  color := services.cleaned category.color
  order := some category.order
  translations :=
    category.translations.map (CategoryTranslation.data services)

/-- The weight inputs that are submitted. -/
def ScoringSection.enabledInputs (scoring : ScoringSection) :
    List WeightInput :=
  scoring.inputs.filter fun input => !input.disabled

/-- The text of the score input, where there is one. -/
def ScoringSection.score? : ScoringSection → Option String
  | .scoreValue value => some value
  | _ => none

/-- The key under which an index is submitted. -/
def keyOf (index : ℕ) : ArrayKey :=
  .ofText index.repr

def AnswerItem.data (answer : AnswerItem) : AnswerData where
  answerText := services.trimString answer.answerText
  order := some answer.order
  scoreValue := answer.scoringSection.score?.bind services.amountOf
  categories :=
    answer.scoringSection.enabledInputs.map fun input =>
      (keyOf input.categoryIndex, services.amountOf input.value)
  translations := answer.translations.map (TextTranslation.data services)

def QuestionItem.data (question : QuestionItem) : QuestionData where
  questionType := question.questionType
  questionText := services.trimString question.questionText
  order := question.order
  maxScore := services.amountOf question.maxScore
  answers :=
    question.answers.map fun answer =>
      (keyOf answer.index, answer.data services)
  translations := question.translations.map (TextTranslation.data services)

def TitleInput.data (input : TitleInput) : TitleData where
  languageId := input.languageId
  title := services.trimString input.title
  description := services.cleaned input.description

/-- The payload that a form shows. -/
def CreateForm.data (form : CreateForm) : StoreFields where
  type := (types.lookup (services.trimString form.type)).getD .other
  scoringMode := form.page.scoringMode
  status := (statuses.lookup (services.trimString form.status)).getD .draft
  startDate := services.dayOf form.startDate
  endDate := services.dayOf form.endDate
  translations := form.titles.map (TitleInput.data services)
  categories :=
    form.page.categories.map fun category =>
      (keyOf category.index, category.data services)
  questions := form.page.questions.map (QuestionItem.data services)

/-! ## What has to be filled in -/

structure CategoryItem.Complete (category : CategoryItem) : Prop where
  name : services.Filled category.name
  nameLength : (services.trimString category.name).length ≤ 100
  colorLength : (services.trimString category.color).length ≤ 7
  order : category.order < integerBound
  translationNames :
    ∀ translation ∈ category.translations,
      (services.trimString translation.name).length ≤ 100

/-- A score, where the mode demands one or there is one. -/
def ScoreComplete (percentile : Bool) : Option String → Prop
  | none => percentile = false
  | some text => services.ScoreGiven percentile text

structure AnswerItem.Complete (percentile : Bool)
    (answer : AnswerItem) : Prop where
  answerText : services.Filled answer.answerText
  order : answer.order < integerBound
  score :
    ScoreComplete services percentile answer.scoringSection.score?
  weights :
    ∀ input ∈ answer.scoringSection.enabledInputs,
      services.ScoreGiven false input.value

structure QuestionItem.Complete (percentile : Bool)
    (question : QuestionItem) : Prop where
  questionText : services.Filled question.questionText
  order : question.order < integerBound
  maxScore : services.ScoreGiven percentile question.maxScore
  answered : question.questionType = .mcq → question.answers ≠ []
  answers :
    ∀ answer ∈ question.answers, answer.Complete services percentile

structure TitleInput.Complete (input : TitleInput) : Prop where
  title : services.Filled input.title
  titleLength : (services.trimString input.title).length ≤ 255

/-- Two to twenty categories, or none where the mode demands none. -/
def CategoryCount (mode : ScoringMode) (count : ℕ) : Prop :=
  (count = 0 ∧ mode ≠ .categorical) ∨ (2 ≤ count ∧ count ≤ 20)

structure CreateForm.Complete (form : CreateForm) : Prop where
  type : (types.lookup (services.trimString form.type)).isSome = true
  status :
    (statuses.lookup (services.trimString form.status)).isSome = true
  startDate : services.DateGiven form.startDate
  endDate : services.DateGiven form.endDate
  dates :
    ∀ startDay ∈ services.dayOf form.startDate,
      ∀ endDay ∈ services.dayOf form.endDate, startDay ≤ endDay
  titled : form.titles ≠ []
  titles : ∀ input ∈ form.titles, input.Complete services
  categoryCount :
    CategoryCount form.page.scoringMode form.page.categories.length
  categories :
    ∀ category ∈ form.page.categories, category.Complete services
  questionCount :
    1 ≤ form.page.questions.length ∧ form.page.questions.length ≤ 100
  questions :
    ∀ question ∈ form.page.questions,
      question.Complete services
        (form.page.scoringMode = .percentile)

/-! ### Completeness is decided -/

instance (category : CategoryItem) :
    Decidable (category.Complete services) :=
  decidable_of_iff
    (services.Filled category.name ∧
      (services.trimString category.name).length ≤ 100 ∧
      (services.trimString category.color).length ≤ 7 ∧
      category.order < integerBound ∧
      ∀ translation ∈ category.translations,
        (services.trimString translation.name).length ≤ 100)
    ⟨fun ⟨name, nameLength, colorLength, order, names⟩ =>
        ⟨name, nameLength, colorLength, order, names⟩,
      fun ⟨name, nameLength, colorLength, order, names⟩ =>
        ⟨name, nameLength, colorLength, order, names⟩⟩

instance (percentile : Bool) :
    (score : Option String) →
      Decidable (ScoreComplete services percentile score)
  | none => inferInstanceAs (Decidable (_ = _))
  | some text =>
      inferInstanceAs (Decidable (services.ScoreGiven percentile text))

instance (percentile : Bool) (answer : AnswerItem) :
    Decidable (answer.Complete services percentile) :=
  decidable_of_iff
    (services.Filled answer.answerText ∧
      answer.order < integerBound ∧
      ScoreComplete services percentile answer.scoringSection.score? ∧
      ∀ input ∈ answer.scoringSection.enabledInputs,
        services.ScoreGiven false input.value)
    ⟨fun ⟨text, order, score, weights⟩ => ⟨text, order, score, weights⟩,
      fun ⟨text, order, score, weights⟩ => ⟨text, order, score, weights⟩⟩

instance (percentile : Bool) (question : QuestionItem) :
    Decidable (question.Complete services percentile) :=
  decidable_of_iff
    (services.Filled question.questionText ∧
      question.order < integerBound ∧
      services.ScoreGiven percentile question.maxScore ∧
      (question.questionType = .mcq → question.answers ≠ []) ∧
      ∀ answer ∈ question.answers, answer.Complete services percentile)
    ⟨fun ⟨text, order, score, answered, answers⟩ =>
        ⟨text, order, score, answered, answers⟩,
      fun ⟨text, order, score, answered, answers⟩ =>
        ⟨text, order, score, answered, answers⟩⟩

instance (input : TitleInput) : Decidable (input.Complete services) :=
  decidable_of_iff
    (services.Filled input.title ∧
      (services.trimString input.title).length ≤ 255)
    ⟨fun ⟨title, titleLength⟩ => ⟨title, titleLength⟩,
      fun ⟨title, titleLength⟩ => ⟨title, titleLength⟩⟩

instance (mode : ScoringMode) (count : ℕ) :
    Decidable (CategoryCount mode count) :=
  inferInstanceAs (Decidable (_ ∨ _))

instance (form : CreateForm) : Decidable (form.Complete services) :=
  decidable_of_iff
    ((types.lookup (services.trimString form.type)).isSome = true ∧
      (statuses.lookup (services.trimString form.status)).isSome = true ∧
      services.DateGiven form.startDate ∧
      services.DateGiven form.endDate ∧
      (∀ startDay ∈ services.dayOf form.startDate,
        ∀ endDay ∈ services.dayOf form.endDate, startDay ≤ endDay) ∧
      form.titles ≠ [] ∧
      (∀ input ∈ form.titles, input.Complete services) ∧
      CategoryCount form.page.scoringMode form.page.categories.length ∧
      (∀ category ∈ form.page.categories, category.Complete services) ∧
      (1 ≤ form.page.questions.length ∧
        form.page.questions.length ≤ 100) ∧
      ∀ question ∈ form.page.questions,
        question.Complete services
          (form.page.scoringMode = .percentile))
    ⟨fun ⟨type, status, first, last, dates, titled, titles, count,
          categories, questionCount, questions⟩ =>
        ⟨type, status, first, last, dates, titled, titles, count,
          categories, questionCount, questions⟩,
      fun ⟨type, status, first, last, dates, titled, titles, count,
          categories, questionCount, questions⟩ =>
        ⟨type, status, first, last, dates, titled, titles, count,
          categories, questionCount, questions⟩⟩

/-! ## Entries as input -/

/-- The input that decoded entries become. -/
def inputOfEntries (entries : List (String × Value)) :
    Input FilledText :=
  .array (Input.ofEntries services.clean entries)

theorem ofValue_array (entries : List (String × Value)) :
    Input.ofValue services.clean (.array entries) =
      inputOfEntries services entries := by
  rw [Input.ofValue, inputOfEntries]

theorem ofValue_text (text : String) :
    Input.ofValue services.clean (.text text) =
      Input.ofText services.clean text := by
  rw [Input.ofValue]

@[simp]
theorem get?_inputOfEntries (entries : List (String × Value))
    (key : String) :
    (inputOfEntries services entries).get? key =
      (entries.lookup key).map (Input.ofValue services.clean) :=
  Input.get?_array services.clean key entries

theorem lookup_group (key other : String)
    (entries : List (String × Value)) :
    (group key entries).lookup other =
      if entries.isEmpty = true ∨ other ≠ key then none
      else some (.array entries) := by
  rw [group]
  cases entries with
  | nil => simp
  | cons entry rest =>
      by_cases same : other = key
      · simp [same]
      · have unequal : (other == key) = false := beq_false_of_ne same
        simp [List.lookup_cons, unequal, same]

theorem lookup_textEntries (inputs : List (String × String))
    (key : String) :
    (textEntries inputs).lookup key =
      (inputs.lookup key).map Value.text := by
  rw [textEntries]
  induction inputs with
  | nil => rfl
  | cons input rest induction =>
      rw [List.map_cons, List.lookup_cons, List.lookup_cons]
      cases key == input.1 with
      | true => rfl
      | false => exact induction

theorem get?_textEntries (inputs : List (String × String))
    (key : String) :
    (inputOfEntries services (textEntries inputs)).get? key =
      (inputs.lookup key).map (Input.ofText services.clean) := by
  rw [get?_inputOfEntries, lookup_textEntries, Option.map_map]
  congr 1

/-- The entries under an attribute that groups items. -/
theorem entriesOf_group {Item : Type} (key : String)
    (items : List Item) (name : Item → String)
    (entries : Item → List (String × Value)) :
    entriesOf
        (((group key
            (items.map fun item =>
              (name item, .array (entries item)))).lookup key).map
          (Input.ofValue services.clean)) =
      items.map fun item =>
        (name item, inputOfEntries services (entries item)) := by
  rw [lookup_group]
  cases items with
  | nil => rfl
  | cons item rest =>
      rw [if_neg (by simp), Option.map_some, ofValue_array]
      show Input.ofEntries services.clean _ = _
      rw [Input.ofEntries_eq_map, List.map_map]
      apply List.map_congr_left
      intro other _
      exact congrArg (Prod.mk (name other)) (ofValue_array services _)

/-! ## Lists -/

/-- A group of entries is a list without further rules. -/
theorem accepts_optionalGroup (field key : String)
    (entries : List (String × Value)) :
    Accepts
      (Validated.optional (readList none none) field
        (((group key entries).lookup key).map
          (Input.ofValue services.clean)))
      True
      (if entries.isEmpty = true then none
        else some (Input.ofEntries services.clean entries)) := by
  rw [lookup_group]
  by_cases empty : entries.isEmpty = true
  · rw [if_pos (Or.inl empty), if_pos empty]
    exact Accepts.ok none
  · rw [if_neg (by simp [empty]), if_neg empty, Option.map_some,
      ofValue_array]
    apply
      ((Accepts.readArray Subtype.val none none field _).map some).iff
    simp

/-- A demanded group has entries, as many as its bounds allow. -/
theorem accepts_demandedGroup (rule field key : String)
    (minimum maximum : Option ℕ) (entries : List (String × Value)) :
    Accepts
      (demanded rule (readList minimum maximum) field
        (((group key entries).lookup key).map
          (Input.ofValue services.clean)))
      (entries ≠ [] ∧ (∀ bound ∈ minimum, bound ≤ entries.length) ∧
        ∀ bound ∈ maximum, entries.length ≤ bound)
      (Input.ofEntries services.clean entries) := by
  rw [lookup_group]
  cases entries with
  | nil =>
      apply (Accepts.error _ _).iff
      simp
  | cons entry rest =>
      rw [if_neg (by simp), Option.map_some, ofValue_array]
      apply (Accepts.readArray Subtype.val minimum maximum field _).iff
      rw [Input.ofEntries_eq_map, List.length_map,
        and_iff_right (List.cons_ne_nil entry rest)]

/-- A group that is demanded on a condition. -/
theorem accepts_demandedGroupIf (condition : Bool)
    (rule field key : String) (minimum maximum : Option ℕ)
    (entries : List (String × Value)) :
    Accepts
      (demandedIf condition rule (readList minimum maximum) present?
        field
        (((group key entries).lookup key).map
          (Input.ofValue services.clean)))
      ((condition = true → entries ≠ []) ∧
        (entries ≠ [] →
          (∀ bound ∈ minimum, bound ≤ entries.length) ∧
            ∀ bound ∈ maximum, entries.length ≤ bound))
      (if entries.isEmpty = true then none
        else some (Input.ofEntries services.clean entries)) := by
  by_cases holds : condition = true
  · rw [demandedIf, if_pos holds]
    apply
      ((accepts_demandedGroup services rule field key minimum maximum
        entries).map some).congr
    · tauto
    · rintro ⟨nonempty, _⟩
      rw [if_neg (by simpa using nonempty holds)]
  · rw [demandedIf, if_neg holds, lookup_group]
    cases entries with
    | nil =>
        apply (Accepts.ok none).iff
        simp [holds]
    | cons entry rest =>
        rw [if_neg (by simp), Option.map_some, ofValue_array]
        apply
          ((Accepts.readArray Subtype.val minimum maximum field
            _).map some).iff
        rw [Input.ofEntries_eq_map, List.length_map]
        simp [holds]

theorem forall_mem_zipIdx {Item : Type} (items : List Item)
    (holds : Item → Prop) :
    (∀ item ∈ items.zipIdx, holds item.1) ↔
      ∀ item ∈ items, holds item := by
  conv_rhs => rw [← List.zipIdx_map_fst 0 items]
  rw [List.forall_mem_map]

/-- The inputs of the languages are read one by one. -/
theorem accepts_validateTranslations {Item Entry : Type}
    {items : List Item} {texts : Item → List (String × String)}
    {validator : String → Input FilledText → Validated Entry}
    {condition : Item → Prop} {value : Item → Entry}
    (validates :
      ∀ item ∈ items, ∀ path,
        Accepts
          (validator path
            (inputOfEntries services (textEntries (texts item))))
          (condition item) (value item))
    (path : String) :
    Accepts
      (validateTranslations validator path
        (((translationEntries (items.map texts)).lookup
          "translations").map (Input.ofValue services.clean)))
      (∀ item ∈ items, condition item) (items.map value) := by
  have entries :
      translationEntries (items.map texts) =
        group "translations"
          (items.zipIdx.map fun item =>
            (item.2.repr, .array (textEntries (texts item.1)))) := by
    rw [translationEntries, List.zipIdx_map, List.map_map]
    rfl
  have each :
      Accepts
        (Validated.each validator path
          (items.zipIdx.map fun item =>
            (item.2.repr,
              inputOfEntries services (textEntries (texts item.1)))))
        (∀ item ∈ items.zipIdx, condition item.1)
        (items.zipIdx.map fun item => (item.2.repr, value item.1)) := by
    apply Accepts.each
    intro item member
    exact validates item.1 (List.fst_mem_of_mem_zipIdx member)
  rw [entries, validateTranslations, entriesOf_group]
  apply (((accepts_optionalGroup services path _ _).both each).map _).congr
  · exact (iff_of_eq (true_and _)).trans
      (forall_mem_zipIdx items condition)
  · intro _
    rw [List.map_map]
    show items.zipIdx.map (value ∘ Prod.fst) = _
    rw [← List.map_map, List.zipIdx_map_fst]

/-! ## Translations and titles -/

theorem accepts_validateTranslation {key : String}
    (different : key ≠ "language_id") (translation : TextTranslation)
    (path : String) :
    Accepts
      (validateTranslation key path
        (inputOfEntries services (textEntries (translation.texts key))))
      True (translation.data services) := by
  have unequal : (key == "language_id") = false :=
    beq_false_of_ne different
  have language :
      (inputOfEntries services
          (textEntries (translation.texts key))).get? "language_id" =
        some
          (Input.ofText services.clean translation.languageId.repr) := by
    rw [get?_textEntries]
    rfl
  have text :
      (inputOfEntries services
          (textEntries (translation.texts key))).get? key =
        some (Input.ofText services.clean translation.text) := by
    rw [get?_textEntries]
    simp [TextTranslation.texts, List.lookup_cons, unequal]
  rw [validateTranslation, language, text]
  apply
    (((accepts_optionalLanguage services _ _).both
      (accepts_optionalString services _ _ none)).map _).iff
  simp

theorem accepts_validateCategoryTranslation
    (translation : CategoryTranslation) (path : String) :
    Accepts
      (validateCategoryTranslation path
        (inputOfEntries services (textEntries translation.texts)))
      ((services.trimString translation.name).length ≤ 100)
      (translation.data services) := by
  have given (key : String) :
      (inputOfEntries services (textEntries translation.texts)).get? key =
        (translation.texts.lookup key).map
          (Input.ofText services.clean) :=
    get?_textEntries services _ key
  rw [validateCategoryTranslation, given, given, given]
  apply
    (((accepts_optionalLanguage services _ _).both
      ((accepts_optionalString services _ _ (some 100)).both
        (accepts_optionalString services _ _ none))).map _).iff
  simp

/-- What is not bounded is within its bounds. -/
theorem forall_mem_none {Bound : Type} (within : Bound → Prop) :
    ∀ bound ∈ (none : Option Bound), within bound :=
  fun bound isBound => absurd isBound (Option.not_mem_none bound)

theorem accepts_validateTitle (input : TitleInput) (path : String) :
    Accepts
      (AssessmentController.validateTitle path
        (inputOfEntries services (textEntries input.texts)))
      (input.Complete services) (input.data services) := by
  have given (key : String) :
      (inputOfEntries services (textEntries input.texts)).get? key =
        (input.texts.lookup key).map (Input.ofText services.clean) :=
    get?_textEntries services _ key
  rw [AssessmentController.validateTitle, given, given, given]
  apply
    (((accepts_requiredLanguage services _ _ _).both
      ((accepts_requiredString services _ _ _ (some 255)).both
        (accepts_optionalString services _ _ none))).map _).iff
  constructor
  · rintro ⟨_, ⟨filled, within⟩, _⟩
    exact ⟨filled, within 255 rfl⟩
  · rintro ⟨filled, within⟩
    simp [filled, within]

/-! ## Categories -/

theorem lookup_translationEntries {key : String}
    (different : key ≠ "translations")
    (inputs : List (List (String × String))) :
    (translationEntries inputs).lookup key = none := by
  rw [translationEntries, lookup_group, if_pos (Or.inr different)]

theorem accepts_validateCategory (category : CategoryItem)
    (path : String) :
    Accepts
      (validateCategory path (inputOfEntries services category.entries))
      (category.Complete services) (category.data services) := by
  have name :
      category.entries.lookup "name" = some (.text category.name) := by
    simp [CategoryItem.entries, textEntries]
  have color :
      category.entries.lookup "color" = some (.text category.color) := by
    simp [CategoryItem.entries, textEntries, List.lookup_cons]
  have description :
      category.entries.lookup "description" =
        some (.text category.description) := by
    simp [CategoryItem.entries, textEntries, List.lookup_cons]
  have order :
      category.entries.lookup "order" =
        some (.text category.order.repr) := by
    simp [CategoryItem.entries, textEntries, List.lookup_cons,
      List.lookup_append, lookup_translationEntries]
  have translations :
      category.entries.lookup "translations" =
        (translationEntries
          (category.translations.map CategoryTranslation.texts)).lookup
            "translations" := by
    simp [CategoryItem.entries, textEntries, List.lookup_cons,
      List.lookup_append]
  simp only [validateCategory, get?_inputOfEntries, name, color,
    description, order, translations, Option.map_some, ofValue_text]
  apply
    (((accepts_requiredString services _ _ _ (some 100)).both
      ((accepts_optionalString services _ _ none).both
        ((accepts_optionalString services _ _ (some 7)).both
          ((accepts_optionalInteger services _ _).both
            (accepts_validateTranslations services
              (fun translation _ path =>
                accepts_validateCategoryTranslation services
                  translation path)
              _))))).map _).iff
  constructor
  · rintro ⟨⟨filled, within⟩, _, colorWithin, fits, translated⟩
    exact ⟨filled, within 100 rfl, colorWithin 7 rfl, fits, translated⟩
  · rintro ⟨filled, within, colorWithin, fits, translated⟩
    refine
      ⟨⟨filled, ?_⟩, forall_mem_none _, ?_, fits, translated⟩
    · simpa using within
    · simpa using colorWithin

/-! ## Answers -/

theorem lookup_scoring {scoring : ScoringSection} {key : String}
    (notCategories : key ≠ "categories")
    (notScore : key ≠ "score_value") :
    scoring.entries.lookup key = none := by
  cases scoring with
  | empty => rfl
  | weights inputs =>
      rw [ScoringSection.entries, lookup_group,
        if_pos (Or.inr notCategories)]
  | scoreValue value =>
      have unequal : (key == "score_value") = false :=
        beq_false_of_ne notScore
      simp [ScoringSection.entries, textEntries, List.lookup_cons,
        unequal]

theorem lookup_score (scoring : ScoringSection) :
    scoring.entries.lookup "score_value" =
      scoring.score?.map Value.text := by
  cases scoring with
  | empty => rfl
  | weights inputs =>
      rw [ScoringSection.entries, lookup_group,
        if_pos (Or.inr (by decide))]
      rfl
  | scoreValue value => rfl

def WeightInput.texts (input : WeightInput) : List (String × String) :=
  [("weight", input.value)]

theorem lookup_weights (scoring : ScoringSection) :
    scoring.entries.lookup "categories" =
      (group "categories"
        (scoring.enabledInputs.map fun input =>
          (input.categoryIndex.repr,
            .array (textEntries input.texts)))).lookup "categories" := by
  cases scoring with
  | empty => rfl
  | weights inputs => rfl
  | scoreValue value => rfl

theorem accepts_validateWeight (input : WeightInput) (path : String) :
    Accepts
      (validateWeight path
        (inputOfEntries services (textEntries input.texts)))
      (services.ScoreGiven false input.value)
      (services.amountOf input.value) := by
  rw [validateWeight, get?_textEntries]
  exact accepts_optionalAmount services _ input.value

theorem accepts_score (percentile : Bool) (field : String)
    (score : Option String) :
    Accepts
      (validateScore percentile field
        ((score.map Value.text).map
          (Input.ofValue services.clean)))
      (ScoreComplete services percentile score)
      (score.bind services.amountOf) := by
  cases score with
  | none => exact accepts_validateScore_none percentile field
  | some text =>
      rw [Option.map_some, Option.map_some, ofValue_text]
      exact accepts_validateScore services percentile field text

theorem accepts_validateAnswer (percentile : Bool)
    (answer : AnswerItem) (path : String) :
    Accepts
      (validateAnswer percentile path
        (inputOfEntries services answer.entries))
      (answer.Complete services percentile) (answer.data services) := by
  have answerText :
      answer.entries.lookup "answer_text" =
        some (.text answer.answerText) := by
    simp [AnswerItem.entries, textEntries, List.lookup_cons]
  have order :
      answer.entries.lookup "order" = some (.text answer.order.repr) := by
    simp [AnswerItem.entries, textEntries]
  have translations :
      answer.entries.lookup "translations" =
        (translationEntries
          (answer.translations.map
            (TextTranslation.texts "answer_text"))).lookup
              "translations" := by
    simp [AnswerItem.entries, textEntries, List.lookup_cons,
      List.lookup_append, lookup_scoring]
  have score :
      answer.entries.lookup "score_value" =
        answer.scoringSection.score?.map Value.text := by
    simp [AnswerItem.entries, textEntries, List.lookup_cons,
      List.lookup_append, lookup_translationEntries, lookup_score]
  have weights :
      answer.entries.lookup "categories" =
        (group "categories"
          (answer.scoringSection.enabledInputs.map fun input =>
            (input.categoryIndex.repr,
              .array (textEntries input.texts)))).lookup
                "categories" := by
    rw [← lookup_weights]
    simp [AnswerItem.entries, textEntries, List.lookup_cons,
      List.lookup_append, lookup_translationEntries]
  simp only [validateAnswer, get?_inputOfEntries, answerText, order,
    translations, score, weights, Option.map_some, ofValue_text,
    entriesOf_group]
  apply
    (((accepts_requiredString services _ _ _ none).both
      ((accepts_validateTranslations services
          (fun translation _ path =>
            accepts_validateTranslation services (by decide)
              translation path)
          _).both
        ((accepts_optionalInteger services _ _).both
          ((accepts_score services percentile _ _).both
            ((accepts_optionalGroup services _ _ _).both
              (Accepts.each
                (fun input _ path =>
                  accepts_validateWeight services input path)
                _)))))).map _).congr
  · constructor
    · rintro ⟨⟨filled, _⟩, _, fits, scored, _, weighted⟩
      exact ⟨filled, fits, scored, weighted⟩
    · rintro ⟨filled, fits, scored, weighted⟩
      exact
        ⟨⟨filled, forall_mem_none _⟩, fun _ _ => trivial, fits, scored,
          trivial, weighted⟩
  · intro _
    rw [AnswerItem.data]
    simp only [List.map_map]
    rfl

/-! ## Questions -/

theorem accepts_questionType (questionType : QuestionType)
    (rule field : String) :
    Accepts
      (demanded rule (readIn questionTypes) field
        (some
          (Input.ofText services.clean
            (questionTypeValue questionType))))
      True questionType := by
  cases questionType with
  | mcq =>
      exact
        accepts_listedOption services (by decide) (by decide) rfl _ _
  | written =>
      exact
        accepts_listedOption services (by decide) (by decide) rfl _ _

theorem holdsText_questionType (questionType : QuestionType) :
    HoldsText "mcq"
        (some
          (Input.ofText services.clean
            (questionTypeValue questionType))) =
      decide (questionType = .mcq) := by
  cases questionType with
  | mcq => exact holdsText_word services (by decide) (by decide) "mcq"
  | written =>
      exact holdsText_word services (by decide) (by decide) "mcq"

theorem accepts_validateQuestion (percentile : Bool)
    (question : QuestionItem) (path : String) :
    Accepts
      (validateQuestion percentile path
        (inputOfEntries services question.entries))
      (question.Complete services percentile)
      (question.data services) := by
  have questionType :
      question.entries.lookup "question_type" =
        some (.text (questionTypeValue question.questionType)) := by
    simp [QuestionItem.entries, textEntries, List.lookup_cons]
  have questionText :
      question.entries.lookup "question_text" =
        some (.text question.questionText) := by
    simp [QuestionItem.entries, textEntries, List.lookup_cons]
  have order :
      question.entries.lookup "order" =
        some (.text question.order.repr) := by
    simp [QuestionItem.entries, textEntries]
  have maxScore :
      question.entries.lookup "max_score" =
        some (.text question.maxScore) := by
    simp [QuestionItem.entries, textEntries, List.lookup_cons,
      List.lookup_append, lookup_translationEntries]
  have translations :
      question.entries.lookup "translations" =
        (translationEntries
          (question.translations.map
            (TextTranslation.texts "question_text"))).lookup
              "translations" := by
    simp [QuestionItem.entries, textEntries, List.lookup_cons,
      List.lookup_append, lookup_group]
  have answers :
      question.entries.lookup "answers" =
        (group "answers"
          (question.answers.map fun answer =>
            (answer.index.repr, .array answer.entries))).lookup
              "answers" := by
    simp [QuestionItem.entries, textEntries, List.lookup_cons,
      List.lookup_append, lookup_translationEntries]
  simp only [validateQuestion, get?_inputOfEntries, questionType,
    questionText, order, maxScore, translations, answers,
    Option.map_some, ofValue_text, entriesOf_group,
    holdsText_questionType]
  apply
    (((accepts_questionType services _ _ _).both
      ((accepts_requiredString services _ _ _ none).both
        ((accepts_requiredInteger services _ _ _).both
          ((accepts_validateScore services percentile _ _).both
            ((accepts_validateTranslations services
                (fun translation _ path =>
                  accepts_validateTranslation services (by decide)
                    translation path)
                _).both
              ((accepts_demandedGroupIf services _ _ _ _ none none
                  _).both
                (Accepts.each
                  (fun answer _ path =>
                    accepts_validateAnswer services percentile answer
                      path)
                  _))))))).map _).congr
  · constructor
    · rintro ⟨_, ⟨filled, _⟩, fits, scored, _, ⟨answered, _⟩, complete⟩
      refine ⟨filled, fits, scored, ?_, complete⟩
      intro isMcq
      simpa using answered (decide_eq_true isMcq)
    · rintro ⟨filled, fits, scored, answered, complete⟩
      refine
        ⟨trivial, ⟨filled, forall_mem_none _⟩, fits, scored,
          fun _ _ => trivial, ⟨?_, ?_⟩, complete⟩
      · intro isMcq
        simpa using answered (of_decide_eq_true isMcq)
      · intro _
        exact ⟨forall_mem_none _, forall_mem_none _⟩
  · intro _
    rw [QuestionItem.data]
    simp only [List.map_map]
    rfl

/-! ## The whole form -/

theorem accepts_scoringMode (mode : ScoringMode) (rule field : String) :
    Accepts
      (demanded rule (readIn scoringModes) field
        (some (Input.ofText services.clean (scoringModeValue mode))))
      True mode := by
  cases mode with
  | categorical =>
      exact
        accepts_listedOption services (by decide) (by decide) rfl _ _
  | percentile =>
      exact
        accepts_listedOption services (by decide) (by decide) rfl _ _

theorem holdsText_scoringMode (mode other : ScoringMode) :
    HoldsText (scoringModeValue other)
        (some (Input.ofText services.clean (scoringModeValue mode))) =
      decide (mode = other) := by
  cases mode with
  | categorical =>
      rw [holdsText_word services (by decide) (by decide)]
      cases other with
      | categorical => rfl
      | percentile => rfl
  | percentile =>
      rw [holdsText_word services (by decide) (by decide)]
      cases other with
      | categorical => rfl
      | percentile => rfl

/-- A listed option is not blank. -/
theorem filled_of_lookup {Option' : Type}
    {values : List (String × Option')} {text : String}
    (noBlank : values.lookup "" = none)
    (listed :
      (values.lookup (services.trimString text)).isSome = true) :
    services.Filled text := by
  intro blank
  rw [blank, noBlank] at listed
  cases listed

theorem accepts_validateTitles (form : CreateForm)
    {input : Input FilledText}
    (given :
      input.get? "translations" =
        ((translationEntries (form.titles.map TitleInput.texts)).lookup
          "translations").map (Input.ofValue services.clean)) :
    Accepts (validateTitles input)
      (form.titles ≠ [] ∧
        ∀ title ∈ form.titles, title.Complete services)
      (form.titles.map (TitleInput.data services)) := by
  have entries :
      translationEntries (form.titles.map TitleInput.texts) =
        group "translations"
          (form.titles.zipIdx.map fun item =>
            (item.2.repr, .array (textEntries item.1.texts))) := by
    rw [translationEntries, List.zipIdx_map, List.map_map]
    rfl
  have each :
      Accepts
        (Validated.each AssessmentController.validateTitle
          "translations"
          (form.titles.zipIdx.map fun item =>
            (item.2.repr,
              inputOfEntries services (textEntries item.1.texts))))
        (∀ item ∈ form.titles.zipIdx, item.1.Complete services)
        (form.titles.zipIdx.map fun item =>
          (item.2.repr, item.1.data services)) :=
    Accepts.each
      (fun item _ path => accepts_validateTitle services item.1 path) _
  rw [validateTitles, given, entries, entriesOf_group]
  apply
    (((accepts_demandedGroup services _ _ _ none none _).both
      each).map _).congr
  · have listed :
        (∀ item ∈ form.titles.zipIdx, item.1.Complete services) ↔
          ∀ title ∈ form.titles, title.Complete services :=
      forall_mem_zipIdx form.titles fun title => title.Complete services
    rw [listed]
    simp
  · intro _
    rw [List.map_map]
    show form.titles.zipIdx.map (TitleInput.data services ∘ Prod.fst) = _
    rw [← List.map_map, List.zipIdx_map_fst]

theorem categoryCount_iff (mode : ScoringMode) (count : ℕ) :
    CategoryCount mode count ↔
      (mode = .categorical → count ≠ 0) ∧
        (count ≠ 0 → 2 ≤ count ∧ count ≤ 20) := by
  rw [CategoryCount]
  by_cases isCategorical : mode = .categorical
  · constructor
    · rintro (⟨_, other⟩ | bounds)
      · exact absurd isCategorical other
      · exact ⟨fun _ => by omega, fun _ => bounds⟩
    · rintro ⟨some, bounds⟩
      exact Or.inr (bounds (some isCategorical))
  · by_cases none : count = 0
    · simp [none, isCategorical]
    · simp [none, isCategorical]

theorem accepts_validateCategories (page : Page)
    {input : Input FilledText}
    (given :
      input.get? "categories" =
        ((group "categories"
          (page.categories.map fun category =>
            (category.index.repr, .array category.entries))).lookup
              "categories").map (Input.ofValue services.clean)) :
    Accepts
      (validateCategories (page.scoringMode = .categorical) input)
      (CategoryCount page.scoringMode page.categories.length ∧
        ∀ category ∈ page.categories, category.Complete services)
      (page.categories.map fun category =>
        (keyOf category.index, category.data services)) := by
  have each :
      Accepts
        (Validated.each validateCategory "categories"
          (page.categories.map fun category =>
            (category.index.repr,
              inputOfEntries services category.entries)))
        (∀ category ∈ page.categories, category.Complete services)
        (page.categories.map fun category =>
          (category.index.repr, category.data services)) :=
    Accepts.each
      (fun category _ path =>
        accepts_validateCategory services category path) _
  rw [validateCategories, given, entriesOf_group]
  apply
    (((accepts_demandedGroupIf services _ _ _ _ (some 2) (some 20)
      _).both each).map _).congr
  · rw [categoryCount_iff]
    simp
  · intro _
    rw [List.map_map]
    rfl

theorem accepts_validateQuestions (page : Page)
    {input : Input FilledText}
    (given :
      input.get? "questions" =
        ((group "questions"
          (page.questions.map fun question =>
            (question.index.repr, .array question.entries))).lookup
              "questions").map (Input.ofValue services.clean)) :
    Accepts
      (validateQuestions (page.scoringMode = .percentile) input)
      ((1 ≤ page.questions.length ∧ page.questions.length ≤ 100) ∧
        ∀ question ∈ page.questions,
          question.Complete services (page.scoringMode = .percentile))
      (page.questions.map (QuestionItem.data services)) := by
  have each :
      Accepts
        (Validated.each
          (validateQuestion (page.scoringMode = .percentile))
          "questions"
          (page.questions.map fun question =>
            (question.index.repr,
              inputOfEntries services question.entries)))
        (∀ question ∈ page.questions,
          question.Complete services (page.scoringMode = .percentile))
        (page.questions.map fun question =>
          (question.index.repr, question.data services)) :=
    Accepts.each
      (fun question _ path =>
        accepts_validateQuestion services _ question path) _
  rw [validateQuestions, given, entriesOf_group]
  apply
    (((accepts_demandedGroup services _ _ _ (some 1) (some 100)
      _).both each).map _).congr
  · apply and_congr_left
    intro _
    have nonempty :
        1 ≤ page.questions.length → page.questions ≠ [] := by
      rintro count empty
      rw [empty] at count
      cases count
    simp only [List.length_map, Option.mem_def, Option.some.injEq,
      forall_eq', ne_eq, List.map_eq_nil_iff]
    tauto
  · intro _
    rw [List.map_map]
    rfl

/-- The rules of `store` over what a form shows. -/
theorem accepts_validateFields (form : CreateForm) :
    Accepts
      (validateFields services (inputOfEntries services form.shown))
      (form.Complete services) (form.data services) := by
  have detail (key text : String)
      (isDetail : form.details.lookup key = some text) :
      (inputOfEntries services form.shown).get? key =
        some (Input.ofText services.clean text) := by
    rw [get?_inputOfEntries, CreateForm.shown, List.append_assoc,
      List.append_assoc, List.lookup_append, lookup_textEntries, isDetail]
    exact congrArg some (ofValue_text services text)
  have notDetail (key : String)
      (isOther : form.details.lookup key = none) :
      (textEntries form.details).lookup key = none := by
    rw [lookup_textEntries, isOther]
    rfl
  have titles :
      (inputOfEntries services form.shown).get? "translations" =
        ((translationEntries (form.titles.map TitleInput.texts)).lookup
          "translations").map (Input.ofValue services.clean) := by
    rw [get?_inputOfEntries, CreateForm.shown]
    simp [List.lookup_append, notDetail "translations" rfl, lookup_group]
  have categories :
      (inputOfEntries services form.shown).get? "categories" =
        ((group "categories"
          (form.page.categories.map fun category =>
            (category.index.repr, .array category.entries))).lookup
              "categories").map (Input.ofValue services.clean) := by
    rw [get?_inputOfEntries, CreateForm.shown]
    simp [List.lookup_append, notDetail "categories" rfl,
      lookup_translationEntries, lookup_group]
  have questions :
      (inputOfEntries services form.shown).get? "questions" =
        ((group "questions"
          (form.page.questions.map fun question =>
            (question.index.repr, .array question.entries))).lookup
              "questions").map (Input.ofValue services.clean) := by
    rw [get?_inputOfEntries, CreateForm.shown]
    simp [List.lookup_append, notDetail "questions" rfl,
      lookup_translationEntries, lookup_group]
  have dates :=
    accepts_validateDates services (detail "start_date" _ rfl)
      (detail "end_date" _ rfl)
  have isCategorical :
      HoldsText "categorical"
          (some
            (Input.ofText services.clean
              (scoringModeValue form.page.scoringMode))) =
        decide (form.page.scoringMode = .categorical) :=
    holdsText_scoringMode services form.page.scoringMode .categorical
  have isPercentile :
      HoldsText "percentile"
          (some
            (Input.ofText services.clean
              (scoringModeValue form.page.scoringMode))) =
        decide (form.page.scoringMode = .percentile) :=
    holdsText_scoringMode services form.page.scoringMode .percentile
  simp only [validateFields, detail "type" _ rfl, detail "status" _ rfl,
    detail "scoring_mode" _ rfl, isCategorical, isPercentile]
  apply
    (((((accepts_requiredIn services types _ _ _ .other).both
        ((accepts_scoringMode services _ _ _).both
          (accepts_requiredIn services statuses _ _ _ .draft)))).both
      (dates.both
        ((accepts_validateTitles services form titles).both
          ((accepts_validateCategories services form.page
              categories).both
            (accepts_validateQuestions services form.page
              questions))))).map _).iff
  constructor
  · rintro ⟨⟨⟨_, type⟩, _, _, status⟩, ⟨start, endGiven, ordered⟩,
      ⟨titled, titles⟩, ⟨count, categories⟩, questionCount, questions⟩
    exact
      { type := type
        status := status
        startDate := start
        endDate := endGiven
        dates := ordered
        titled := titled
        titles := titles
        categoryCount := count
        categories := categories
        questionCount := questionCount
        questions := questions }
  · intro complete
    exact
      ⟨⟨⟨filled_of_lookup services rfl complete.type, complete.type⟩,
          trivial, filled_of_lookup services rfl complete.status,
          complete.status⟩,
        ⟨complete.startDate, complete.endDate, complete.dates⟩,
        ⟨complete.titled, complete.titles⟩,
        ⟨complete.categoryCount, complete.categories⟩,
        complete.questionCount, complete.questions⟩

end SultanPass.AssessmentBuilder
