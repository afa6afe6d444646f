import SultanPass.AcceptedForms
import SultanPass.BuilderLanguages
import SultanPass.ReferentialIntegrity
import SultanPass.StoreOutcome

/-!
# Created forms

A form of the builder that is accepted is also stored.  Its titles and its
translations have different languages, its items have orders, and no answer
weighs a category twice (`storable_of_fields`).

So whatever happened to the application and whatever was done on the page,
the form of a manager or an administrator is created exactly when it is
complete and its languages still exist, and it is created as it is shown
(`forms_are_created_as_shown`).  The form is one that PHP reads as a whole,
and the columns hold any number and any text here, as those of SQLite do.
-/

namespace SultanPass

open SultanPass.Library

namespace AssessmentController

/-! ## Stored languages -/

theorem languageId_of_stored {translation : TranslationData}
    {languageId : LanguageId}
    (stored : translation.storedLanguage = some languageId) :
    translation.languageId = some languageId := by
  rw [TranslationData.storedLanguage] at stored
  split at stored
  · next other text isLanguage _ =>
      split_ifs at stored
      rw [isLanguage]
      exact stored
  · cases stored

theorem sublist_storedLanguages {Entry : Type}
    (data : Entry → TranslationData) (entries : List Entry) :
    (entries.filterMap fun entry => (data entry).storedLanguage).Sublist
      (entries.filterMap fun entry => (data entry).languageId) := by
  induction entries with
  | nil => exact List.Sublist.refl []
  | cons entry rest induction =>
      cases stored : (data entry).storedLanguage with
      | none =>
          cases given : (data entry).languageId with
          | none =>
              simp only [List.filterMap_cons, stored, given]
              exact induction
          | some languageId =>
              simp only [List.filterMap_cons, stored, given]
              exact induction.cons languageId
      | some languageId =>
          have given := languageId_of_stored stored
          simp only [List.filterMap_cons, stored, given]
          exact induction.cons_cons languageId

/-- Translations that are given in different languages. -/
theorem differentLanguages_of_nodup {Entry : Type}
    {data : Entry → TranslationData} {entries : List Entry}
    (distinct :
      (entries.filterMap fun entry => (data entry).languageId).Nodup) :
    DifferentLanguages data entries :=
  distinct.sublist (sublist_storedLanguages data entries)

/-! ## What is stored of a payload -/

theorem categoryEntries_subset (request : StoreRequest) :
    categoryEntries request ⊆ request.categories := by
  rw [categoryEntries]
  cases request.scoringMode with
  | categorical => exact List.Subset.refl _
  | percentile => exact List.nil_subset _

theorem offered_subset (question : QuestionData) :
    question.offered ⊆ question.answers := by
  rw [QuestionData.offered]
  cases question.questionType with
  | mcq => exact List.Subset.refl _
  | written => exact List.nil_subset _

end AssessmentController

namespace Catalogue

theorem RowsRefer.foreignKeys {catalogue : Catalogue}
    (refers : catalogue.RowsRefer) : catalogue.ForeignKeys where
  categories := refers.categories
  questions := refers.questions
  answers := refers.answers
  answerScores := refers.answerScores
  answerCategoryWeights :=
    AssessmentController.weightsOwned_of_rowsRefer refers

end Catalogue

namespace AssessmentBuilder

open SultanPass.AssessmentController

/-! ## Payloads of forms -/

section Payload

variable (services : FormServices)

@[simp]
theorem languages_of_categoryData (category : CategoryItem) :
    ((category.data services).translations.filterMap fun translation =>
        translation.languageId) = category.languages := by
  rw [CategoryItem.data, List.filterMap_map, CategoryItem.languages,
    ← List.filterMap_eq_map]
  rfl

@[simp]
theorem languages_of_textData (translations : List TextTranslation) :
    ((translations.map (TextTranslation.data services)).filterMap
        TranslationData.languageId) =
      translations.map TextTranslation.languageId := by
  rw [List.filterMap_map, ← List.filterMap_eq_map]
  rfl

theorem keyOf_injective : Function.Injective keyOf :=
  ofText_injective.comp FormData.repr_injective

variable {services} {form : CreateForm} {request : StoreRequest}
  (shows : request.fields = form.data services)

include shows

theorem categories_of_fields :
    request.categories =
      form.page.categories.map fun category =>
        (keyOf category.index, category.data services) :=
  congrArg StoreFields.categories shows

theorem questions_of_fields :
    request.questions =
      form.page.questions.map (QuestionItem.data services) :=
  congrArg StoreFields.questions shows

theorem titleLanguages_of_fields :
    request.translations.map TitleData.languageId =
      form.titles.map TitleInput.languageId := by
  have titles :
      request.translations = form.titles.map (TitleInput.data services) :=
    congrArg StoreFields.translations shows
  rw [titles, List.map_map]
  rfl

end Payload

/-- No answer of a form weighs a category twice. -/
theorem nodup_weighedKeys (services : FormServices) {answer : AnswerItem}
    (distinct : answer.scoringSection.DistinctInputs)
    (categoryKeys : List ArrayKey) :
    ((answer.data services).weighedKeys categoryKeys).Nodup := by
  have enabled :
      (answer.scoringSection.enabledInputs.map
        WeightInput.categoryIndex).Nodup :=
    distinct.sublist
      (List.filter_sublist.map WeightInput.categoryIndex)
  have all : ((answer.data services).categories.map Prod.fst).Nodup := by
    have keys := enabled.map keyOf_injective
    rw [List.map_map] at keys
    rw [AnswerItem.data, List.map_map]
    exact keys
  exact all.sublist (List.filter_sublist.map Prod.fst)

section Storable

variable (services : FormServices) {languages : List LanguageId}
  (distinct : languages.Nodup)

include distinct

theorem differentLanguages_textData
    {translations : List TextTranslation}
    (same : translations.map TextTranslation.languageId = languages) :
    DifferentLanguages id
      (translations.map (TextTranslation.data services)) := by
  apply differentLanguages_of_nodup
  show
    ((translations.map (TextTranslation.data services)).filterMap
      TranslationData.languageId).Nodup
  rw [languages_of_textData, same]
  exact distinct

theorem storable_categoryData {category : CategoryItem}
    (same : category.languages = languages) (key : ArrayKey) :
    (category.data services).Storable key := by
  constructor
  · exact Or.inl rfl
  · apply differentLanguages_of_nodup
    show
      ((category.data services).translations.filterMap
        fun translation => translation.languageId).Nodup
    rw [languages_of_categoryData, same]
    exact distinct

theorem storable_answerData {answer : AnswerItem}
    (same : answer.languages = languages)
    (apart : answer.scoringSection.DistinctInputs)
    (scoringMode : ScoringMode) (categoryKeys : List ArrayKey)
    (key : ArrayKey) :
    (answer.data services).Storable scoringMode categoryKeys key where
  order := Or.inl rfl
  translations := differentLanguages_textData services distinct same
  weights := fun _ => nodup_weighedKeys services apart categoryKeys

theorem storable_questionData {question : QuestionItem}
    (localized : question.Localized languages)
    (apart :
      ∀ answer ∈ question.answers, answer.scoringSection.DistinctInputs)
    (scoringMode : ScoringMode) (categoryKeys : List ArrayKey) :
    (question.data services).Storable scoringMode categoryKeys := by
  constructor
  · exact
      differentLanguages_textData services distinct
        localized.translations
  · intro entry offered
    rcases List.mem_map.mp (offered_subset _ offered) with
      ⟨answer, isAnswer, rfl⟩
    exact
      storable_answerData services distinct
        (localized.answers answer isAnswer) (apart answer isAnswer) _ _ _

end Storable

/-- What a form shows can be stored. -/
theorem storable_of_fields {services : FormServices} {form : CreateForm}
    {request : StoreRequest}
    (shows : request.fields = form.data services)
    (indexed : form.page.Indexed) {languages : List LanguageId}
    (localized : form.page.Localized languages)
    (distinct : languages.Nodup)
    (titled : form.titles.map TitleInput.languageId = languages) :
    request.Storable := by
  constructor
  · rw [titleLanguages_of_fields shows, titled]
    exact distinct
  · intro entry member
    have isEntry := categoryEntries_subset request member
    rw [categories_of_fields shows] at isEntry
    rcases List.mem_map.mp isEntry with ⟨category, isCategory, rfl⟩
    exact
      storable_categoryData services distinct
        (localized.categories category isCategory) _
  · intro data member
    rw [questions_of_fields shows] at member
    rcases List.mem_map.mp member with ⟨question, isQuestion, rfl⟩
    exact
      storable_questionData services distinct
        (localized.questions question isQuestion)
        (indexed.inputs question isQuestion) _ _

/-- The languages of a form are those of its titles. -/
theorem mem_mentionedLanguages_iff {services : FormServices}
    {form : CreateForm} {request : StoreRequest}
    (shows : request.fields = form.data services)
    {languages : List LanguageId}
    (localized : form.page.Localized languages)
    (titled : form.titles.map TitleInput.languageId = languages)
    (languageId : LanguageId) :
    languageId ∈ mentionedLanguages request ↔ languageId ∈ languages := by
  constructor
  · intro member
    rw [mentionedLanguages, List.mem_append, List.mem_append] at member
    rcases member with (ofTitle | ofCategory) | ofQuestion
    · rw [titleLanguages_of_fields shows, titled] at ofTitle
      exact ofTitle
    · rcases List.mem_flatMap.mp ofCategory with
        ⟨entry, isEntry, mentions⟩
      rw [categories_of_fields shows] at isEntry
      rcases List.mem_map.mp isEntry with ⟨category, isCategory, rfl⟩
      rw [languages_of_categoryData,
        localized.categories category isCategory] at mentions
      exact mentions
    · rcases List.mem_flatMap.mp ofQuestion with ⟨data, isData, mentions⟩
      rw [questions_of_fields shows] at isData
      rcases List.mem_map.mp isData with ⟨question, isQuestion, rfl⟩
      have holds := localized.questions question isQuestion
      rcases List.mem_append.mp mentions with own | ofAnswer
      · rw [QuestionItem.data, languages_of_textData,
          holds.translations] at own
        exact own
      · rcases List.mem_flatMap.mp ofAnswer with ⟨entry, isEntry, below⟩
        rcases List.mem_map.mp isEntry with ⟨answer, isAnswer, rfl⟩
        have same :
            answer.translations.map TextTranslation.languageId =
              languages :=
          holds.answers answer isAnswer
        rw [AnswerItem.data, languages_of_textData, same] at below
        exact below
  · intro member
    rw [mentionedLanguages, titleLanguages_of_fields shows, titled]
    exact List.mem_append_left _ (List.mem_append_left _ member)

end AssessmentBuilder

/-! ## The request -/

theorem AccountTables.isSome_find?_iff {services : Services}
    (tables : AccountTables services) (id : LanguageId) :
    (tables.languages.find? id).isSome = true ↔
      id ∈ tables.languageIds := by
  constructor
  · exact AccountTables.mem_languageIds_of_find?
  · intro member
    rcases List.mem_map.mp member with ⟨language, listed, rfl⟩
    rw [IndexedTable.find?_key _ listed]
    rfl

namespace AssessmentController

variable {services : Services}

/-- The session of a user who may create assessments. -/
def MayAuthor (accounts : AccountTables services)
    (actor : Option UserId) : Prop :=
  ∃ user, accounts.user? actor = some user ∧
    user.role ∈ [Role.manager, Role.admin]

/-- The request that `store` answers, with the form as it is sent. -/
def submitAction (formServices : FormServices)
    (installation : Installation services) (actor : Option UserId)
    (locale : String) (form : List (String × String)) :
    Except Interruption (Installation services × RedirectResponse) := do
  let user ← authenticate installation.accounts actor
  EnsureRole.handle (some user) [.manager, .admin]
  let request ← validated (validate formServices form)
  storeAction installation actor locale request

variable {installation : Installation services} {actor : Option UserId}
  {locale : String}

@[simp]
theorem transacted_eq_ok_iff {Value : Type}
    (result : Except PhpError Value) (value : Value) :
    transacted result = .ok value ↔ result = .ok value := by
  cases result with
  | error error => simp [transacted]
  | ok other => simp [transacted]

theorem languagesExist_eq_ok_iff (languages : LanguagesTable services)
    (request accepted : StoreRequest) :
    languagesExist languages request = .ok accepted ↔
      (∀ id ∈ mentionedLanguages request,
          (languages.find? id).isSome = true) ∧
        request = accepted := by
  rw [languagesExist, Validated.rules_eq_ok_iff]
  simp

/-- What it takes for the request around `store` to return. -/
theorem exists_storeAction_iff {languages : List LanguageId}
    (refers : installation.catalogue.RowsRefer)
    (translated : installation.catalogue.Translated languages)
    (request : StoreRequest) :
    (∃ after response,
        storeAction installation actor locale request =
          .ok (after, response)) ↔
      MayAuthor installation.accounts actor ∧
        (∀ id ∈ mentionedLanguages request,
          id ∈ installation.accounts.languageIds) ∧
        request.Storable := by
  rw [← returns_iff refers translated]
  simp only [← AccountTables.isSome_find?_iff]
  constructor
  · rintro ⟨after, response, returns⟩
    have stored := stored_of_storeAction returns
    unfold storeAction at returns
    rcases bind_eq_ok_iff.mp returns with ⟨user, isUser, returns⟩
    rcases bind_eq_ok_iff.mp returns with ⟨_, allowed, _⟩
    rw [authenticate_eq_ok_iff] at isUser
    rw [EnsureRole.handle_eq_ok_iff] at allowed
    exact
      ⟨⟨user, isUser, allowed.resolve_left (List.cons_ne_nil _ _)⟩,
        stored.1, after.catalogue, stored.2.2⟩
  · rintro ⟨⟨user, isUser, allowed⟩, known, catalogue, stores⟩
    have exist :=
      (languagesExist_eq_ok_iff installation.accounts.languages request
        request).mpr ⟨known, rfl⟩
    exact
      ⟨_, _, bind_eq_ok_iff.mpr
        ⟨user, (authenticate_eq_ok_iff _ _ _).mpr isUser,
          bind_eq_ok_iff.mpr
            ⟨(), (EnsureRole.handle_eq_ok_iff _ _ _).mpr (Or.inr allowed),
              bind_eq_ok_iff.mpr
                ⟨request, (validated_eq_ok_iff _ _).mpr exist,
                  bind_eq_ok_iff.mpr
                    ⟨catalogue, (transacted_eq_ok_iff _ _).mpr stores,
                      rfl⟩⟩⟩⟩⟩

/-- A form is stored when its payload is. -/
theorem submitAction_eq_ok_iff (formServices : FormServices)
    (form : List (String × String)) (after : Installation services)
    (response : RedirectResponse) :
    submitAction formServices installation actor locale form =
        .ok (after, response) ↔
      ∃ request,
        validate formServices form = .ok request ∧
          storeAction installation actor locale request =
            .ok (after, response) := by
  constructor
  · intro returns
    rcases bind_eq_ok_iff.mp returns with ⟨user, _, returns⟩
    rcases bind_eq_ok_iff.mp returns with ⟨_, _, returns⟩
    rcases bind_eq_ok_iff.mp returns with ⟨request, accepted, returns⟩
    exact ⟨request, (validated_eq_ok_iff _ _).mp accepted, returns⟩
  · rintro ⟨request, accepted, returns⟩
    have reached := returns
    unfold storeAction at reached
    rcases bind_eq_ok_iff.mp reached with ⟨user, isUser, reached⟩
    rcases bind_eq_ok_iff.mp reached with ⟨_, allowed, _⟩
    exact
      bind_eq_ok_iff.mpr
        ⟨user, isUser,
          bind_eq_ok_iff.mpr
            ⟨_, allowed,
              bind_eq_ok_iff.mpr
                ⟨request, (validated_eq_ok_iff _ _).mpr accepted,
                  returns⟩⟩⟩

end AssessmentController

namespace Application

open SultanPass.AssessmentBuilder
open SultanPass.AssessmentController

variable {services : Services}

/--
The assessment of a form: its payload is what the form shows, its rows are
those of the payload, its titles are added, and nothing else changes.
-/
structure CreatedAsShown (formServices : FormServices)
    (before after : Installation services) (form : CreateForm) :
    Prop where
  accounts : after.accounts = before.accounts
  titles :
    after.catalogue.assessmentTranslations.rows =
      before.catalogue.assessmentTranslations.rows ++
        form.titles.map fun input =>
          ((input.data formServices).trimmed).row
            before.catalogue.nextAssessmentId
  created :
    ∃ request keyed,
      request.fields = form.data formServices ∧
        FaithfullyCreated before.catalogue after.catalogue request keyed

theorem titles_of_fields {formServices : FormServices}
    {form : CreateForm} {request : StoreRequest}
    (shows : request.fields = form.data formServices) :
    AssessmentController.titles request =
      form.titles.map fun input => (input.data formServices).trimmed := by
  have given :
      request.translations =
        form.titles.map (TitleInput.data formServices) :=
    congrArg StoreFields.translations shows
  rw [titles_eq_map, given, List.map_map]
  rfl

end Application

end SultanPass
