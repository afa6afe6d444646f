import SultanPass.AssessmentController
import SultanPass.Library.FormValidation
import SultanPass.Library.NumericText

/-!
# The rules of `AssessmentController::store`

`validate` takes the fields of a form to the payload of `store`, or to the
rules that they break.  The fields are decoded into nested arrays, every
text is trimmed and a blank one becomes null, and then each attribute is
read under its rules.

The rules of single attributes and those that tie attributes together are
all that the payload demands (`wellFormed_of_validateFields`).  Whether the
languages exist is asked by the request around `store`.  Uploaded images are
left out, and the errors are listed element by element.
-/

namespace SultanPass.AssessmentController

open SultanPass.Library
open SultanPass.Library.NumericText
open SultanPass.Library.Validated

/-! ## Cleaned texts -/

/-- A text that `required` accepts. -/
abbrev FilledText :=
  {text : String // trim text ≠ ""}

/--
`Str::trim` and `strtotime`.  `Str::trim` removes all that `trim` removes,
and nothing of a word.
-/
structure FormServices where
  trimString : String → String
  date? : String → Option Day
  trimString_blank :
    ∀ text, trim (trimString text) = "" → trimString text = ""
  trimString_word :
    ∀ text : String,
      (∀ char ∈ text.toList, char.isAlphanum = true ∨ char = '_') →
        trimString text = text

/-- `TrimStrings` and `ConvertEmptyStringsToNull`. -/
def FormServices.clean (services : FormServices) (text : String) :
    Option FilledText :=
  if empty : services.trimString text = "" then none
  else
    some
      ⟨services.trimString text,
        fun blank => empty (services.trimString_blank text blank)⟩

/-! ## Array keys -/

/-- A key that keeps its text. -/
def ArrayKey.ofName (name : String) : ArrayKey :=
  match numericValue? name.toList with
  | some value => .numericText name value
  | none => .text name

/-- The key that a text becomes in a PHP array. -/
def ArrayKey.ofText (text : String) : ArrayKey :=
  match integerKey? text.toList with
  | some index => .int index
  | none => .ofName text

theorem ofName_ne_int (name : String) (index : ℤ) :
    ArrayKey.ofName name ≠ .int index := by
  rw [ArrayKey.ofName]
  cases numericValue? name.toList with
  | some value => nofun
  | none => nofun

theorem ofName_injective : Function.Injective ArrayKey.ofName := by
  intro left right same
  rw [ArrayKey.ofName, ArrayKey.ofName] at same
  cases leftValue : numericValue? left.toList with
  | some value =>
      cases rightValue : numericValue? right.toList with
      | some other =>
          rw [leftValue, rightValue] at same
          injection same
      | none =>
          rw [leftValue, rightValue] at same
          cases same
  | none =>
      cases rightValue : numericValue? right.toList with
      | some other =>
          rw [leftValue, rightValue] at same
          cases same
      | none =>
          rw [leftValue, rightValue] at same
          injection same

theorem ofText_injective : Function.Injective ArrayKey.ofText := by
  intro left right same
  rw [ArrayKey.ofText, ArrayKey.ofText] at same
  cases leftReads : integerKey? left.toList with
  | some index =>
      cases rightReads : integerKey? right.toList with
      | some other =>
          rw [leftReads, rightReads] at same
          injection same with equal
          rw [equal] at leftReads
          exact
            String.toList_inj.mp
              (integerKey_injective leftReads rightReads)
      | none =>
          rw [leftReads, rightReads] at same
          exact absurd same.symm (ofName_ne_int right index)
  | none =>
      cases rightReads : integerKey? right.toList with
      | some other =>
          rw [leftReads, rightReads] at same
          exact absurd same (ofName_ne_int left other)
      | none =>
          rw [leftReads, rightReads] at same
          exact ofName_injective same

/-! ## Rules of attributes -/

def types : List (String × AssessmentType) :=
  [("psychometric", .psychometric), ("interview", .interview),
    ("group_exercise", .groupExercise), ("written_test", .writtenTest),
    ("role_play", .rolePlay),
    ("committee_interview", .committeeInterview), ("other", .other)]

def statuses : List (String × AssessmentStatus) :=
  [("draft", .draft), ("active", .active), ("closed", .closed)]

def scoringModes : List (String × ScoringMode) :=
  [("categorical", .categorical), ("percentile", .percentile)]

def questionTypes : List (String × QuestionType) :=
  [("mcq", .mcq), ("written", .written)]

/-- `Rule::in`. -/
def readIn {Value : Type} (values : List (String × Value)) :
    Reader FilledText Value :=
  readParsed "in" fun text => values.lookup text.1

/-- `string` and `max`. -/
def readString (maximum : Option ℕ) : Reader FilledText String :=
  readText Subtype.val maximum

def readInteger : Reader FilledText ℤ :=
  readParsed "integer" fun text => filterInteger? text.1.toList

/-- The identity that a text denotes. -/
def readLanguageId : Reader FilledText LanguageId :=
  readParsed "exists:languages,id" fun text =>
    canonicalDigits text.1.toList

/-- What a column with two decimals holds of a number. -/
def decimalColumn (value : ℚ) (nonneg : 0 ≤ value) : ℚ≥0 :=
  ⟨Rounding.roundHalfAway 2 value, by
    rw [Rounding.roundHalfAway, if_pos nonneg]
    exact Rounding.roundHalfUp_nonneg 2 nonneg⟩

/-- The number of a text that is not negative. -/
def amount? (text : FilledText) : Option ℚ≥0 :=
  (numericValue? text.1.toList).bind fun value =>
    if nonneg : 0 ≤ value then some (decimalColumn value nonneg)
    else none

/-- `numeric` and `min:0`. -/
def readAmount : Reader FilledText ℚ≥0 :=
  fun field input =>
    match input with
    | .text text =>
        match amount? text, numericValue? text.1.toList with
        | some amount, _ => .ok amount
        | none, some _ => .error [{ field := field, rule := "min:0" }]
        | none, none => .error [{ field := field, rule := "numeric" }]
    | _ => .error [{ field := field, rule := "numeric" }]

/-- `array`, `min` and `max`. -/
def readList (minimum maximum : Option ℕ) :
    Reader FilledText (List (String × Input FilledText)) :=
  readArray Subtype.val minimum maximum

/-- The entries under an attribute; only an array has any. -/
def entriesOf (input : Option (Input FilledText)) :
    List (String × Input FilledText) :=
  (input.map Input.entries).getD []

/-- An attribute with the given text. -/
def HoldsText (text : String) : Option (Input FilledText) → Bool
  | some (.text given) => given.1 = text
  | _ => false

/-! ## Rules of elements -/

/-- `*.translations` and the rules of their entries. -/
def validateTranslations {Entry : Type}
    (validator : String → Input FilledText → Validated Entry)
    (path : String) (input : Option (Input FilledText)) :
    Validated (List Entry) :=
  (both (optional (readList none none) path input)
      (each validator path (entriesOf input))).map
    fun fields => fields.2.map Prod.snd

/-- One translation of a question or an answer. -/
def validateTranslation (key path : String)
    (input : Input FilledText) : Validated TranslationData :=
  (both
      (optional readLanguageId (path ++ ".language_id")
        (input.get? "language_id"))
      (optional (readString none) (path ++ "." ++ key)
        (input.get? key))).map
    fun fields => { languageId := fields.1, text := fields.2 }

def validateCategoryTranslation (path : String)
    (input : Input FilledText) : Validated CategoryTranslationData :=
  (both
      (optional readLanguageId (path ++ ".language_id")
        (input.get? "language_id"))
      (both
        (optional (readString (some 100)) (path ++ ".name")
          (input.get? "name"))
        (optional (readString none) (path ++ ".description")
          (input.get? "description")))).map
    fun fields =>
      { languageId := fields.1
        text := fields.2.1
        description := fields.2.2 }

def validateTitle (path : String) (input : Input FilledText) :
    Validated TitleData :=
  (both
      (demanded "required" readLanguageId (path ++ ".language_id")
        (input.get? "language_id"))
      (both
        (demanded "required" (readString (some 255)) (path ++ ".title")
          (input.get? "title"))
        (optional (readString none) (path ++ ".description")
          (input.get? "description")))).map
    fun fields =>
      { languageId := fields.1
        title := fields.2.1
        description := fields.2.2 }

def validateCategory (path : String) (input : Input FilledText) :
    Validated CategoryData :=
  (both
      (demanded "required_with:categories" (readString (some 100))
        (path ++ ".name") (input.get? "name"))
      (both
        (optional (readString none) (path ++ ".description")
          (input.get? "description"))
        (both
          (optional (readString (some 7)) (path ++ ".color")
            (input.get? "color"))
          (both
            (optional readInteger (path ++ ".order")
              (input.get? "order"))
            (validateTranslations validateCategoryTranslation
              (path ++ ".translations")
              (input.get? "translations")))))).map
    fun fields =>
      { name := fields.1
        description := fields.2.1
        color := fields.2.2.1
        order := fields.2.2.2.1
        translations := fields.2.2.2.2 }

/-- `*.weight`. -/
def validateWeight (path : String) (input : Input FilledText) :
    Validated (Option ℚ≥0) :=
  optional readAmount (path ++ ".weight") (input.get? "weight")

/-- A number that the percentile mode demands. -/
def validateScore (percentile : Bool) :
    String → Option (Input FilledText) → Validated (Option ℚ≥0) :=
  demandedIf percentile "required_if:scoring_mode,percentile"
    readAmount optional

def validateAnswer (percentile : Bool) (path : String)
    (input : Input FilledText) : Validated AnswerData :=
  (both
      (demanded "required_with:questions.*.answers" (readString none)
        (path ++ ".answer_text") (input.get? "answer_text"))
      (both
        (validateTranslations (validateTranslation "answer_text")
          (path ++ ".translations") (input.get? "translations"))
        (both
          (optional readInteger (path ++ ".order") (input.get? "order"))
          (both
            (validateScore percentile (path ++ ".score_value")
              (input.get? "score_value"))
            (both
              (optional (readList none none) (path ++ ".categories")
                (input.get? "categories"))
              (each validateWeight (path ++ ".categories")
                (entriesOf (input.get? "categories")))))))).map
    fun fields =>
      { answerText := fields.1
        translations := fields.2.1
        order := fields.2.2.1
        scoreValue := fields.2.2.2.1
        categories :=
          fields.2.2.2.2.2.map fun entry =>
            (ArrayKey.ofText entry.1, entry.2) }

def validateQuestion (percentile : Bool) (path : String)
    (input : Input FilledText) : Validated QuestionData :=
  (both
      (demanded "required" (readIn questionTypes)
        (path ++ ".question_type") (input.get? "question_type"))
      (both
        (demanded "required" (readString none)
          (path ++ ".question_text") (input.get? "question_text"))
        (both
          (demanded "required" readInteger (path ++ ".order")
            (input.get? "order"))
          (both
            (validateScore percentile (path ++ ".max_score")
              (input.get? "max_score"))
            (both
              (validateTranslations
                (validateTranslation "question_text")
                (path ++ ".translations") (input.get? "translations"))
              (both
                (demandedIf
                  (HoldsText "mcq" (input.get? "question_type"))
                  "required_if:questions.*.question_type,mcq"
                  (readList none none) present? (path ++ ".answers")
                  (input.get? "answers"))
                (each (validateAnswer percentile) (path ++ ".answers")
                  (entriesOf (input.get? "answers"))))))))).map
    fun fields =>
      { questionType := fields.1
        questionText := fields.2.1
        order := fields.2.2.1
        maxScore := fields.2.2.2.1
        translations := fields.2.2.2.2.1
        answers :=
          fields.2.2.2.2.2.2.map fun entry =>
            (ArrayKey.ofText entry.1, entry.2) }

/-! ## Rules of the whole form -/

/-- `date` and `after_or_equal:start_date`. -/
def readEndDate (services : FormServices) (start : Option Day) :
    Reader FilledText Day :=
  fun field input =>
    let notDate : FieldError := { field := field, rule := "date" }
    let notAfter : FieldError :=
      { field := field, rule := "after_or_equal:start_date" }
    match input with
    | .text text =>
        match services.date? text.1 with
        | some day =>
            rules field
              [("after_or_equal:start_date",
                decide (∀ first ∈ start, first ≤ day))]
              day
        | none =>
            .error
              (notDate ::
                if ∃ first ∈ start, 0 < first then [notAfter] else [])
    | _ => .error [notDate, notAfter]

/-- The date of an attribute. -/
def dateOf? (services : FormServices) :
    Option (Input FilledText) → Option Day
  | some (.text text) => services.date? text.1
  | _ => none

def validateDates (services : FormServices)
    (input : Input FilledText) :
    Validated (Option Day × Option Day) :=
  both
    (optional (readParsed "date" fun text => services.date? text.1)
      "start_date" (input.get? "start_date"))
    (optional
      (readEndDate services
        (dateOf? services (input.get? "start_date")))
      "end_date" (input.get? "end_date"))

def validateTitles (input : Input FilledText) :
    Validated (List TitleData) :=
  (both
      (demanded "required" (readList none none) "translations"
        (input.get? "translations"))
      (each validateTitle "translations"
        (entriesOf (input.get? "translations")))).map
    fun fields => fields.2.map Prod.snd

def validateCategories (categorical : Bool)
    (input : Input FilledText) :
    Validated (List (ArrayKey × CategoryData)) :=
  (both
      (demandedIf categorical "required_if:scoring_mode,categorical"
        (readList (some 2) (some 20)) present? "categories"
        (input.get? "categories"))
      (each validateCategory "categories"
        (entriesOf (input.get? "categories")))).map
    fun fields =>
      fields.2.map fun entry => (ArrayKey.ofText entry.1, entry.2)

def validateQuestions (percentile : Bool)
    (input : Input FilledText) : Validated (List QuestionData) :=
  (both
      (demanded "required" (readList (some 1) (some 100)) "questions"
        (input.get? "questions"))
      (each (validateQuestion percentile) "questions"
        (entriesOf (input.get? "questions")))).map
    fun fields => fields.2.map Prod.snd

/-- The columns and rows of a payload. -/
structure StoreFields where
  type : AssessmentType
  scoringMode : ScoringMode
  status : AssessmentStatus
  startDate : Option Day
  endDate : Option Day
  translations : List TitleData
  categories : List (ArrayKey × CategoryData)
  questions : List QuestionData

/-- `$request->validate` of `store`. -/
def validateFields (services : FormServices)
    (input : Input FilledText) : Validated StoreFields :=
  let mode := input.get? "scoring_mode"
  (both
      (both
        (demanded "required" (readIn types) "type" (input.get? "type"))
        (both
          (demanded "required" (readIn scoringModes) "scoring_mode"
            mode)
          (demanded "required" (readIn statuses) "status"
            (input.get? "status"))))
      (both (validateDates services input)
        (both (validateTitles input)
          (both
            (validateCategories (HoldsText "categorical" mode) input)
            (validateQuestions (HoldsText "percentile" mode)
              input))))).map
    fun fields =>
      { type := fields.1.1
        scoringMode := fields.1.2.1
        status := fields.1.2.2
        startDate := fields.2.1.1
        endDate := fields.2.1.2
        translations := fields.2.2.1
        categories := fields.2.2.2.1
        questions := fields.2.2.2.2 }

/-! ## What the payload demands -/

/-- The rules that tie the fields of a payload together. -/
structure StoreFields.WellFormed (fields : StoreFields) : Prop where
  dates :
    ∀ startDay ∈ fields.startDate, ∀ endDay ∈ fields.endDate,
      startDay ≤ endDay
  titleCount : 1 ≤ fields.translations.length
  requiredTitles :
    ∀ translation ∈ fields.translations, trim translation.title ≠ ""
  categoryKeys : (fields.categories.map Prod.fst).Nodup
  categoryCount :
    fields.scoringMode = .categorical →
      2 ≤ fields.categories.length ∧ fields.categories.length ≤ 20
  questionCount :
    1 ≤ fields.questions.length ∧ fields.questions.length ≤ 100
  requiredMaxScores :
    fields.scoringMode = .percentile →
      ∀ question ∈ fields.questions, question.maxScore.isSome

/-- The payload of well-formed fields. -/
def StoreFields.toRequest (fields : StoreFields)
    (wellFormed : fields.WellFormed) : StoreRequest where
  type := fields.type
  scoringMode := fields.scoringMode
  status := fields.status
  startDate := fields.startDate
  endDate := fields.endDate
  translations := fields.translations
  categories := fields.categories
  questions := fields.questions
  dates := wellFormed.dates
  titleCount := wellFormed.titleCount
  requiredTitles := wellFormed.requiredTitles
  categoryKeys := wellFormed.categoryKeys
  categoryCount := wellFormed.categoryCount
  questionCount := wellFormed.questionCount
  requiredMaxScores := wellFormed.requiredMaxScores

/-- The fields of a payload. -/
def StoreRequest.fields (request : StoreRequest) : StoreFields where
  type := request.type
  scoringMode := request.scoringMode
  status := request.status
  startDate := request.startDate
  endDate := request.endDate
  translations := request.translations
  categories := request.categories
  questions := request.questions

theorem StoreRequest.wellFormed_fields (request : StoreRequest) :
    request.fields.WellFormed where
  dates := request.dates
  titleCount := request.titleCount
  requiredTitles := request.requiredTitles
  categoryKeys := request.categoryKeys
  categoryCount := request.categoryCount
  questionCount := request.questionCount
  requiredMaxScores := request.requiredMaxScores

/-! ### Rule by rule -/

theorem dates_of_validateDates
    {services : FormServices} {input : Input FilledText}
    {startDate endDate : Option Day}
    (accepted :
      validateDates services input = .ok (startDate, endDate)) :
    ∀ startDay ∈ startDate, ∀ endDay ∈ endDate, startDay ≤ endDay := by
  rw [validateDates, both_eq_ok_iff] at accepted
  rcases accepted with ⟨startRead, endRead⟩
  intro startDay isStart endDay isEnd
  rw [Option.mem_def.mp isStart] at startRead
  rw [Option.mem_def.mp isEnd] at endRead
  rcases of_optional startRead with ⟨_, startGiven, startParsed⟩
  rcases of_readParsed startParsed with ⟨startText, rfl, startDate⟩
  rcases of_optional endRead with ⟨endInput, endGiven, endParsed⟩
  rw [startGiven] at endParsed
  cases endInput with
  | null => cases endParsed
  | array entries => cases endParsed
  | text text =>
      cases isDate : services.date? text.1 with
      | none =>
          simp only [readEndDate, isDate] at endParsed
          cases endParsed
      | some day =>
          simp only [readEndDate, isDate] at endParsed
          rcases (rules_eq_ok_iff _ _ _ _).mp endParsed with
            ⟨checks, rfl⟩
          have ordered := checks _ List.mem_cons_self
          rw [decide_eq_true_eq] at ordered
          exact ordered startDay startDate

theorem length_of_each {Value : Type}
    {validator : String → Input FilledText → Validated Value}
    {path : String} {entries : List (String × Input FilledText)}
    {values : List (String × Value)}
    (accepted : each validator path entries = .ok values) :
    values.length = entries.length := by
  have keys := congrArg List.length (of_each accepted).1
  rwa [List.length_map, List.length_map] at keys

theorem trim_title_of_validateTitle
    {path : String} {input : Input FilledText} {title : TitleData}
    (accepted : validateTitle path input = .ok title) :
    trim title.title ≠ "" := by
  rcases map_eq_ok_iff.mp accepted with ⟨fields, parts, rfl⟩
  rw [both_eq_ok_iff, both_eq_ok_iff] at parts
  rcases given_of_demanded parts.2.1 with ⟨_, _, _, reads⟩
  rcases of_readText reads with ⟨text, _, same⟩
  show trim fields.2.1 ≠ ""
  rw [← same]
  exact text.2

/-- A demanded array has entries. -/
theorem entries_of_demanded {rule field : String}
    {minimum maximum : Option ℕ} {input : Option (Input FilledText)}
    {entries : List (String × Input FilledText)}
    (accepted :
      demanded rule (readList minimum maximum) field input =
        .ok entries) :
    entriesOf input = entries ∧ 1 ≤ entries.length ∧
      (∀ bound ∈ minimum, bound ≤ entries.length) ∧
      ∀ bound ∈ maximum, entries.length ≤ bound := by
  rcases given_of_demanded accepted with ⟨given, rfl, isGiven, reads⟩
  rcases of_readArray reads with ⟨rfl, bounds⟩
  refine ⟨rfl, ?_, bounds⟩
  cases entries with
  | nil => cases isGiven
  | cons entry rest => exact Nat.le_add_left 1 rest.length

theorem titles_of_validateTitles
    {input : Input FilledText} {titles : List TitleData}
    (accepted : validateTitles input = .ok titles) :
    1 ≤ titles.length ∧ ∀ title ∈ titles, trim title.title ≠ "" := by
  rcases map_eq_ok_iff.mp accepted with ⟨fields, parts, rfl⟩
  rw [both_eq_ok_iff] at parts
  rcases entries_of_demanded parts.1 with ⟨same, count, _⟩
  rw [List.length_map, length_of_each parts.2, same,
    List.forall_mem_map]
  refine ⟨count, ?_⟩
  intro value member
  rcases (of_each parts.2).2 value member with ⟨_, _, validated⟩
  exact trim_title_of_validateTitle validated

theorem categories_of_validateCategories
    {categorical : Bool} {input : Input FilledText}
    {categories : List (ArrayKey × CategoryData)}
    (distinct :
      ((entriesOf (input.get? "categories")).map Prod.fst).Nodup)
    (accepted :
      validateCategories categorical input = .ok categories) :
    (categories.map Prod.fst).Nodup ∧
      (categorical = true →
        2 ≤ categories.length ∧ categories.length ≤ 20) := by
  rcases map_eq_ok_iff.mp accepted with ⟨fields, parts, rfl⟩
  rw [both_eq_ok_iff] at parts
  have keys := (of_each parts.2).1
  constructor
  · have unique := distinct.map ofText_injective
    rw [← keys, List.map_map] at unique
    rwa [List.map_map]
  · intro isCategorical
    have demandedPart := parts.1
    rw [demandedIf, if_pos isCategorical] at demandedPart
    rcases map_eq_ok_iff.mp demandedPart with ⟨entries, reads, _⟩
    rcases entries_of_demanded reads with ⟨same, _, least, most⟩
    rw [List.length_map, length_of_each parts.2, same]
    exact ⟨least 2 rfl, most 20 rfl⟩

theorem isSome_of_validateScore
    {path : String} {input : Option (Input FilledText)}
    {score : Option ℚ≥0}
    (accepted : validateScore true path input = .ok score) :
    score.isSome = true := by
  rcases map_eq_ok_iff.mp accepted with ⟨amount, _, rfl⟩
  rfl

theorem questions_of_validateQuestions
    {percentile : Bool} {input : Input FilledText}
    {questions : List QuestionData}
    (accepted : validateQuestions percentile input = .ok questions) :
    (1 ≤ questions.length ∧ questions.length ≤ 100) ∧
      (percentile = true →
        ∀ question ∈ questions, question.maxScore.isSome) := by
  rcases map_eq_ok_iff.mp accepted with ⟨fields, parts, rfl⟩
  rw [both_eq_ok_iff] at parts
  rcases entries_of_demanded parts.1 with ⟨same, count, _, most⟩
  rw [List.length_map, length_of_each parts.2, same,
    List.forall_mem_map]
  refine ⟨⟨count, most 100 rfl⟩, ?_⟩
  rintro rfl value member
  rcases (of_each parts.2).2 value member with ⟨_, _, validated⟩
  rcases map_eq_ok_iff.mp validated with ⟨read, reads, same⟩
  simp only [both_eq_ok_iff] at reads
  rw [← same]
  exact isSome_of_validateScore reads.2.2.2.1

/-- The accepted mode is the one that the other rules ask for. -/
theorem holdsText_of_mode {input : Option (Input FilledText)}
    {mode : ScoringMode} {name : String}
    (accepted :
      demanded "required" (readIn scoringModes) "scoring_mode" input =
        .ok mode)
    (only : ∀ text, scoringModes.lookup text = some mode → text = name) :
    HoldsText name input = true := by
  rcases given_of_demanded accepted with ⟨given, rfl, _, reads⟩
  rcases of_readParsed reads with ⟨text, rfl, isMode⟩
  exact decide_eq_true (only text.1 isMode)

theorem scoringModes_lookup {text : String} {mode : ScoringMode}
    (found : scoringModes.lookup text = some mode) :
    (text = "categorical" ∧ mode = .categorical) ∨
      (text = "percentile" ∧ mode = .percentile) := by
  rw [List.lookup_eq_some_iff] at found
  rcases found with ⟨before, after, split, _⟩
  have member : (text, mode) ∈ scoringModes := by
    rw [split]
    exact List.mem_append_right _ List.mem_cons_self
  simpa [scoringModes] using member

/-- Accepted fields are a payload. -/
theorem wellFormed_of_validateFields
    {services : FormServices} {input : Input FilledText}
    {fields : StoreFields}
    (distinct :
      ((entriesOf (input.get? "categories")).map Prod.fst).Nodup)
    (accepted : validateFields services input = .ok fields) :
    fields.WellFormed := by
  rcases map_eq_ok_iff.mp accepted with ⟨values, parts, rfl⟩
  simp only [both_eq_ok_iff] at parts
  rcases parts with
    ⟨⟨_, isMode, _⟩, dates, titles, categories, questions⟩
  have titlesHold := titles_of_validateTitles titles
  have categoriesHold :=
    categories_of_validateCategories distinct categories
  have questionsHold := questions_of_validateQuestions questions
  constructor
  · exact dates_of_validateDates dates
  · exact titlesHold.1
  · exact titlesHold.2
  · exact categoriesHold.1
  · intro categorical
    apply categoriesHold.2
    apply holdsText_of_mode isMode
    intro text found
    rcases scoringModes_lookup found with ⟨same, _⟩ | ⟨_, other⟩
    · exact same
    · exact absurd (categorical.symm.trans other) (by decide)
  · exact questionsHold.1
  · intro percentile
    apply questionsHold.2
    apply holdsText_of_mode isMode
    intro text found
    rcases scoringModes_lookup found with ⟨_, other⟩ | ⟨same, _⟩
    · exact absurd (percentile.symm.trans other) (by decide)
    · exact same

/-! ## The form -/

/-- The input of a submitted form. -/
def inputOf (services : FormServices) (form : List (String × String)) :
    Input FilledText :=
  Input.ofValue services.clean (FormData.decode form)

theorem nodup_keys_inputOf (services : FormServices)
    (form : List (String × String)) (key : String) :
    ((entriesOf ((inputOf services form).get? key)).map
      Prod.fst).Nodup := by
  have distinct := FormData.distinctKeys_decode form
  rw [inputOf]
  cases decoded : FormData.decode form with
  | text text =>
      rw [Input.get?, Input.entries_ofValue]
      exact List.nodup_nil
  | array entries =>
      rw [Input.ofValue, Input.get?_array]
      cases found : entries.lookup key with
      | none => exact List.nodup_nil
      | some value =>
          rw [decoded] at distinct
          have member : (key, value) ∈ entries := by
            rcases List.lookup_eq_some_iff.mp found with
              ⟨before, after, split, _⟩
            rw [split]
            exact List.mem_append_right _ List.mem_cons_self
          have keys := (distinct.values _ member).keys
          show
            ((Input.ofValue services.clean value).entries.map
              Prod.fst).Nodup
          rw [Input.entries_ofValue, Input.ofEntries_eq_map,
            List.map_map]
          exact keys

/-- The payload of a form, or the rules that the form breaks. -/
def validate (services : FormServices)
    (form : List (String × String)) : Validated StoreRequest :=
  match accepted : validateFields services (inputOf services form) with
  | .ok fields =>
      .ok
        (fields.toRequest
          (wellFormed_of_validateFields
            (nodup_keys_inputOf services form "categories") accepted))
  | .error errors => .error errors

/-- A payload is that of the accepted fields. -/
theorem validate_eq_ok_iff (services : FormServices)
    (form : List (String × String)) (request : StoreRequest) :
    validate services form = .ok request ↔
      ∃ fields, ∃ wellFormed : fields.WellFormed,
        validateFields services (inputOf services form) = .ok fields ∧
          fields.toRequest wellFormed = request := by
  rw [validate]
  split
  · next fields accepted =>
      constructor
      · intro same
        cases same
        exact ⟨fields, _, accepted, rfl⟩
      · rintro ⟨others, wellFormed, isAccepted, rfl⟩
        rw [accepted] at isAccepted
        cases isAccepted
        rfl
  · next errors refused =>
      constructor
      · intro same
        cases same
      · rintro ⟨others, _, isAccepted, _⟩
        rw [refused] at isAccepted
        cases isAccepted

end SultanPass.AssessmentController
