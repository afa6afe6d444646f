import SultanPass.StoreValidation

/-!
# What the rules make of submitted texts

For an attribute with a given text, the condition under which its rules
accept it, and the value that the payload gets.
-/

namespace SultanPass.AssessmentController

open SultanPass.Library
open SultanPass.Library.NumericText
open SultanPass.Library.Validated

variable (services : FormServices)

/-! ## Cleaned texts -/

/-- Something is left of a text when it is trimmed. -/
def FormServices.Filled (text : String) : Prop :=
  services.trimString text ≠ ""

instance (text : String) : Decidable (services.Filled text) :=
  inferInstanceAs (Decidable (_ ≠ _))

/-- The trimmed text, or null. -/
def FormServices.cleaned (text : String) : Option String :=
  if services.Filled text then some (services.trimString text) else none

/-- The number of a text. -/
def FormServices.amountOf (text : String) : Option ℚ≥0 :=
  (services.clean text).bind amount?

section Clean

variable {services : FormServices}

theorem val_of_clean {text : String} {cleaned : FilledText}
    (isClean : services.clean text = some cleaned) :
    cleaned.1 = services.trimString text := by
  rw [FormServices.clean] at isClean
  split_ifs at isClean
  rw [← Option.some.inj isClean]

theorem clean_isSome_iff (text : String) :
    (services.clean text).isSome = true ↔ services.Filled text := by
  rw [FormServices.clean, FormServices.Filled]
  split_ifs with empty
  · simp [empty]
  · simp [empty]

theorem exists_clean_iff (text : String) :
    (∃ cleaned, services.clean text = some cleaned) ↔
      services.Filled text := by
  rw [← clean_isSome_iff, Option.isSome_iff_exists]

theorem map_clean (text : String) :
    (services.clean text).map Subtype.val = services.cleaned text := by
  rw [FormServices.clean, FormServices.cleaned]
  by_cases empty : services.trimString text = ""
  · rw [dif_pos empty, if_neg fun filled => filled empty]
    rfl
  · have filled : services.Filled text := empty
    rw [dif_neg empty, if_pos filled]
    rfl

/-- A word stays as it is. -/
theorem clean_word {text : String} (nonempty : text ≠ "")
    (word :
      ∀ char ∈ text.toList, char.isAlphanum = true ∨ char = '_') :
    ∃ cleaned, services.clean text = some cleaned ∧
      cleaned.1 = text := by
  have same := services.trimString_word text word
  have filled : services.Filled text := by
    rwa [FormServices.Filled, same]
  rcases (exists_clean_iff text).mpr filled with ⟨cleaned, isClean⟩
  exact ⟨cleaned, isClean, (val_of_clean isClean).trans same⟩

/-- The text of a number stays as it is. -/
theorem clean_repr (number : ℕ) :
    ∃ cleaned, services.clean number.repr = some cleaned ∧
      cleaned.1 = number.repr := by
  have digits : number.repr.toList = Nat.toDigits 10 number := by simp
  apply clean_word
  · intro empty
    have none : Nat.toDigits 10 number = [] := by
      rw [← digits, empty]
      rfl
    exact Nat.toDigits_ne_nil none
  · intro char member
    rw [digits] at member
    have isDigit := DecimalText.isDigit_of_mem_toDigits number char member
    left
    show (char.isAlpha || char.isDigit) = true
    rw [isDigit, Bool.or_true]

end Clean

/-! ## Texts -/

/-- A text within the bound is read as it is. -/
theorem accepts_readString {text : String} {cleaned : FilledText}
    (isClean : services.clean text = some cleaned)
    (maximum : Option ℕ) (field : String) :
    Accepts (readString maximum field (.text cleaned))
      (∀ bound ∈ maximum, (services.trimString text).length ≤ bound)
      (services.trimString text) := by
  rw [← val_of_clean isClean]
  exact Accepts.readText Subtype.val maximum field cleaned

theorem accepts_requiredString (rule field text : String)
    (maximum : Option ℕ) :
    Accepts
      (demanded rule (readString maximum) field
        (some (Input.ofText services.clean text)))
      (services.Filled text ∧
        ∀ bound ∈ maximum, (services.trimString text).length ≤ bound)
      (services.trimString text) := by
  apply
    (Accepts.demanded_text rule fun cleaned isClean =>
      accepts_readString services isClean maximum field).iff
  rw [← exists_clean_iff, exists_and_right]

theorem accepts_optionalString (field text : String)
    (maximum : Option ℕ) :
    Accepts
      (Validated.optional (readString maximum) field
        (some (Input.ofText services.clean text)))
      (∀ bound ∈ maximum, (services.trimString text).length ≤ bound)
      (services.cleaned text) := by
  have reads (cleaned : FilledText)
      (isClean : services.clean text = some cleaned) :
      Accepts (readString maximum field (.text cleaned))
        (∀ bound ∈ maximum, (services.trimString text).length ≤ bound)
        cleaned.1 := by
    rw [val_of_clean isClean]
    exact accepts_readString services isClean maximum field
  rw [← map_clean]
  apply (Accepts.optional_text reads).iff
  constructor
  · intro within bound isBound
    by_cases filled : services.Filled text
    · rcases (exists_clean_iff text).mpr filled with ⟨cleaned, isClean⟩
      exact within cleaned isClean bound isBound
    · rw [FormServices.Filled, not_not] at filled
      rw [filled]
      exact Nat.zero_le bound
  · intro within _ _
    exact within

/-! ## Languages and integers -/

theorem accepts_readLanguageId {id : LanguageId} {cleaned : FilledText}
    (same : cleaned.1 = id.repr) (field : String) :
    Accepts (readLanguageId field (.text cleaned)) True id := by
  have digits :
      canonicalDigits cleaned.1.toList = some id := by
    rw [canonicalDigits_eq_some_iff, same]
    simp
  apply (Accepts.readParsed "exists:languages,id" field _).iff
  · rw [digits]
    exact iff_of_true rfl trivial
  · intro parsed isParsed
    rw [digits] at isParsed
    exact (Option.some.inj isParsed).symm

theorem accepts_requiredLanguage (rule field : String)
    (id : LanguageId) :
    Accepts
      (demanded rule readLanguageId field
        (some (Input.ofText services.clean id.repr)))
      True id := by
  rcases clean_repr id with ⟨cleaned, isClean, same⟩
  exact
    Accepts.demanded_cleaned isClean (accepts_readLanguageId same field)
      rule

theorem accepts_optionalLanguage (field : String) (id : LanguageId) :
    Accepts
      (Validated.optional readLanguageId field
        (some (Input.ofText services.clean id.repr)))
      True (some id) := by
  rcases clean_repr id with ⟨cleaned, isClean, same⟩
  exact
    Accepts.optional_cleaned isClean (accepts_readLanguageId same field)

theorem accepts_readInteger {number : ℕ} {cleaned : FilledText}
    (same : cleaned.1 = number.repr) (field : String) :
    Accepts (readInteger field (.text cleaned)) (number < integerBound)
      (number : ℤ) := by
  have reads := filterInteger_repr number
  rw [← same] at reads
  apply (Accepts.readParsed "integer" field _).iff
  · rw [reads]
    split_ifs with fits
    · simp [fits]
    · simp [fits]
  · intro parsed isParsed
    rw [reads] at isParsed
    split_ifs at isParsed
    exact (Option.some.inj isParsed).symm

theorem accepts_requiredInteger (rule field : String) (number : ℕ) :
    Accepts
      (demanded rule readInteger field
        (some (Input.ofText services.clean number.repr)))
      (number < integerBound) (number : ℤ) := by
  rcases clean_repr number with ⟨cleaned, isClean, same⟩
  exact
    Accepts.demanded_cleaned isClean (accepts_readInteger same field)
      rule

theorem accepts_optionalInteger (field : String) (number : ℕ) :
    Accepts
      (Validated.optional readInteger field
        (some (Input.ofText services.clean number.repr)))
      (number < integerBound) (some (number : ℤ)) := by
  rcases clean_repr number with ⟨cleaned, isClean, same⟩
  exact
    Accepts.optional_cleaned isClean (accepts_readInteger same field)

/-! ## Options -/

/-- A demanded option of a list. -/
theorem accepts_requiredIn {Value : Type}
    (values : List (String × Value)) (rule field text : String)
    (initial : Value) :
    Accepts
      (demanded rule (readIn values) field
        (some (Input.ofText services.clean text)))
      (services.Filled text ∧
        (values.lookup (services.trimString text)).isSome = true)
      ((values.lookup (services.trimString text)).getD initial) := by
  have reads (cleaned : FilledText)
      (isClean : services.clean text = some cleaned) :
      Accepts (readIn values field (.text cleaned))
        ((values.lookup (services.trimString text)).isSome = true)
        ((values.lookup (services.trimString text)).getD initial) := by
    rw [← val_of_clean isClean]
    apply Accepts.readParsed "in" field
    intro parsed isParsed
    rw [isParsed]
    rfl
  apply (Accepts.demanded_text rule reads).iff
  rw [← exists_clean_iff, exists_and_right]

/-- Whether a text has only letters, digits and underscores. -/
def isWord (text : String) : Bool :=
  text.toList.all fun char => char.isAlphanum || char = '_'

theorem clean_isWord {services : FormServices} {text : String}
    (nonempty : text ≠ "") (word : isWord text = true) :
    ∃ cleaned, services.clean text = some cleaned ∧
      cleaned.1 = text := by
  apply clean_word nonempty
  intro char member
  have holds := List.all_eq_true.mp word char member
  rwa [Bool.or_eq_true, decide_eq_true_eq] at holds

/-- A demanded option that is listed. -/
theorem accepts_listedOption {Value : Type}
    {values : List (String × Value)} {text : String} {value : Value}
    (nonempty : text ≠ "") (word : isWord text = true)
    (listed : values.lookup text = some value) (rule field : String) :
    Accepts
      (demanded rule (readIn values) field
        (some (Input.ofText services.clean text)))
      True value := by
  rcases @clean_isWord services text nonempty word with
    ⟨cleaned, isClean, same⟩
  apply Accepts.demanded_cleaned isClean
  rw [← same] at listed
  apply (Accepts.readParsed "in" field _).iff
  · rw [listed]
    exact iff_of_true rfl trivial
  · intro parsed isParsed
    rw [listed] at isParsed
    exact (Option.some.inj isParsed).symm

theorem holdsText_word {text : String} (nonempty : text ≠ "")
    (word : isWord text = true) (name : String) :
    HoldsText name (some (Input.ofText services.clean text)) =
      decide (text = name) := by
  rcases @clean_isWord services text nonempty word with
    ⟨cleaned, isClean, same⟩
  rw [Input.ofText, isClean, ← same]
  rfl

/-! ## Numbers -/

theorem accepts_readAmount {cleaned : FilledText} {amount : ℚ≥0}
    (reads : ∀ read, amount? cleaned = some read → read = amount)
    (field : String) :
    Accepts (readAmount field (.text cleaned))
      ((amount? cleaned).isSome = true) amount := by
  rw [readAmount]
  cases isAmount : amount? cleaned with
  | some read =>
      apply (Accepts.ok read).congr (by simp)
      intro _
      exact reads read isAmount
  | none =>
      cases numericValue? cleaned.1.toList with
      | some value =>
          apply (Accepts.error _ amount).iff
          simp
      | none =>
          apply (Accepts.error _ amount).iff
          simp

/-- A score is a number, or blank when none is demanded. -/
def FormServices.ScoreGiven (percentile : Bool) (text : String) : Prop :=
  percentile = true ∨ services.Filled text →
    (services.amountOf text).isSome = true

instance (percentile : Bool) (text : String) :
    Decidable (services.ScoreGiven percentile text) :=
  inferInstanceAs (Decidable (_ ∨ _ → _))

theorem amountOf_of_clean {services : FormServices} {text : String}
    {cleaned : FilledText}
    (isClean : services.clean text = some cleaned) :
    services.amountOf text = amount? cleaned := by
  rw [FormServices.amountOf, isClean]
  rfl

theorem accepts_optionalAmount (field text : String) :
    Accepts
      (Validated.optional readAmount field
        (some (Input.ofText services.clean text)))
      (services.ScoreGiven false text) (services.amountOf text) := by
  rw [FormServices.ScoreGiven, Input.ofText]
  cases isClean : services.clean text with
  | none =>
      have empty : ¬ services.Filled text := by
        rw [← clean_isSome_iff, isClean]
        exact Bool.false_ne_true
      have noAmount : services.amountOf text = none := by
        rw [FormServices.amountOf, isClean]
        rfl
      rw [noAmount]
      apply (Accepts.ok none).iff
      simp [empty]
  | some cleaned =>
      have filled : services.Filled text :=
        (exists_clean_iff text).mp ⟨cleaned, isClean⟩
      rw [amountOf_of_clean isClean]
      have reads :
          Accepts (readAmount field (.text cleaned))
            ((amount? cleaned).isSome = true)
            ((amount? cleaned).getD 0) := by
        apply accepts_readAmount
        intro read isRead
        rw [isRead]
        rfl
      apply (reads.map some).congr
      · simp [filled]
      · intro given
        rcases Option.isSome_iff_exists.mp (given (Or.inr filled)) with
          ⟨amount, isAmount⟩
        rw [isAmount]
        rfl

theorem accepts_validateScore (percentile : Bool)
    (field text : String) :
    Accepts
      (validateScore percentile field
        (some (Input.ofText services.clean text)))
      (services.ScoreGiven percentile text)
      (services.amountOf text) := by
  cases percentile with
  | false => exact accepts_optionalAmount services field text
  | true =>
      have reads (cleaned : FilledText)
          (isClean : services.clean text = some cleaned) :
          Accepts (readAmount field (.text cleaned))
            ((services.amountOf text).isSome = true)
            ((services.amountOf text).getD 0) := by
        rw [amountOf_of_clean isClean]
        apply accepts_readAmount
        intro read isRead
        rw [isRead]
        rfl
      have demands :=
        (Accepts.demanded_text "required_if:scoring_mode,percentile"
          reads).map some
      apply demands.congr
      · rw [exists_and_right, exists_clean_iff, FormServices.ScoreGiven]
        constructor
        · rintro ⟨_, given⟩ _
          exact given
        · intro given
          have isSome := given (Or.inl rfl)
          refine ⟨?_, isSome⟩
          rw [← clean_isSome_iff]
          rcases Option.isSome_iff_exists.mp isSome with
            ⟨amount, isAmount⟩
          rcases Option.bind_eq_some_iff.mp isAmount with
            ⟨cleaned, isClean, _⟩
          rw [isClean]
          rfl
      · intro given
        rcases Option.isSome_iff_exists.mp (given (Or.inl rfl)) with
          ⟨amount, isAmount⟩
        rw [isAmount]
        rfl

theorem accepts_validateScore_none (percentile : Bool)
    (field : String) :
    Accepts (validateScore percentile field none) (percentile = false)
      none := by
  cases percentile with
  | false => exact (Accepts.ok none).iff (by simp)
  | true =>
      apply (Accepts.error _ none).iff
      simp

/-! ## Dates -/

/-- The date of a text. -/
def FormServices.dayOf (text : String) : Option Day :=
  if services.Filled text then
    services.date? (services.trimString text)
  else
    none

/-- A date, or nothing. -/
def FormServices.DateGiven (text : String) : Prop :=
  services.Filled text → (services.dayOf text).isSome = true

instance (text : String) : Decidable (services.DateGiven text) :=
  inferInstanceAs (Decidable (_ → _))

theorem dayOf_of_clean {services : FormServices} {text : String}
    {cleaned : FilledText}
    (isClean : services.clean text = some cleaned) :
    services.dayOf text = services.date? cleaned.1 := by
  have filled : services.Filled text :=
    (exists_clean_iff text).mp ⟨cleaned, isClean⟩
  rw [FormServices.dayOf, if_pos filled, val_of_clean isClean]

theorem dateOf?_ofText (text : String) :
    dateOf? services (some (Input.ofText services.clean text)) =
      services.dayOf text := by
  rw [Input.ofText]
  cases isClean : services.clean text with
  | none =>
      have empty : ¬ services.Filled text := by
        rw [← clean_isSome_iff, isClean]
        exact Bool.false_ne_true
      rw [FormServices.dayOf, if_neg empty]
      rfl
  | some cleaned =>
      rw [dayOf_of_clean isClean]
      rfl

/-- An optional attribute that is read to the date of its text. -/
theorem accepts_optionalDay {read : Reader FilledText Day}
    {field text : String} {holds : Prop}
    (reads :
      ∀ cleaned, services.clean text = some cleaned →
        Accepts (read field (.text cleaned))
          ((services.dayOf text).isSome = true ∧ holds)
          ((services.dayOf text).getD 0))
    (empty : ¬ services.Filled text → holds) :
    Accepts
      (Validated.optional read field
        (some (Input.ofText services.clean text)))
      (services.DateGiven text ∧ holds) (services.dayOf text) := by
  rw [Input.ofText, FormServices.DateGiven]
  by_cases filled : services.Filled text
  · rcases (exists_clean_iff text).mpr filled with ⟨cleaned, isClean⟩
    rw [isClean]
    apply ((reads cleaned isClean).map some).congr
    · simp [filled]
    · rintro ⟨given, _⟩
      rcases Option.isSome_iff_exists.mp (given filled) with ⟨day, isDay⟩
      rw [isDay]
      rfl
  · have noText : services.clean text = none := by
      rw [← Option.not_isSome_iff_eq_none, clean_isSome_iff]
      exact filled
    have noDay : services.dayOf text = none := by
      rw [FormServices.dayOf, if_neg filled]
    rw [noText, noDay]
    apply (Accepts.ok none).iff
    simp [filled, empty filled]

theorem accepts_validateDates {input : Input FilledText}
    {startText endText : String}
    (startGiven :
      input.get? "start_date" =
        some (Input.ofText services.clean startText))
    (endGiven :
      input.get? "end_date" =
        some (Input.ofText services.clean endText)) :
    Accepts (validateDates services input)
      (services.DateGiven startText ∧ services.DateGiven endText ∧
        ∀ startDay ∈ services.dayOf startText,
          ∀ endDay ∈ services.dayOf endText, startDay ≤ endDay)
      (services.dayOf startText, services.dayOf endText) := by
  have starts :
      Accepts
        (Validated.optional
          (readParsed "date" fun text => services.date? text.1)
          "start_date" (input.get? "start_date"))
        (services.DateGiven startText ∧ True)
        (services.dayOf startText) := by
    rw [startGiven]
    apply accepts_optionalDay services _ fun _ => trivial
    intro cleaned isClean
    rw [dayOf_of_clean isClean, and_true]
    apply Accepts.readParsed
    intro parsed isParsed
    rw [isParsed]
    rfl
  have ends :
      Accepts
        (Validated.optional
          (readEndDate services
            (dateOf? services (input.get? "start_date")))
          "end_date" (input.get? "end_date"))
        (services.DateGiven endText ∧
          ∀ startDay ∈ services.dayOf startText,
            ∀ endDay ∈ services.dayOf endText, startDay ≤ endDay)
        (services.dayOf endText) := by
    rw [startGiven, endGiven, dateOf?_ofText]
    apply accepts_optionalDay services
    · intro cleaned isClean
      rw [dayOf_of_clean isClean, readEndDate]
      cases isDay : services.date? cleaned.1 with
      | none =>
          apply (Accepts.error _ _).iff
          simp
      | some day =>
          apply (Accepts.rules _ _ _).iff
          simp
    · intro empty startDay _ endDay isEnd
      rw [FormServices.dayOf, if_neg empty] at isEnd
      cases isEnd
  apply (starts.both ends).iff
  rw [and_true]

end SultanPass.AssessmentController
