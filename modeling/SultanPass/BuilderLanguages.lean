import SultanPass.BuilderIndices

/-!
# The languages of the builder's items

Every category, question and answer is rendered with inputs for all languages
of the page, and nothing that is done on the page adds or removes one
(`Page.Localized.run`).
-/

namespace SultanPass.AssessmentBuilder

/-! ## Languages -/

def CategoryItem.languages (category : CategoryItem) :
    List LanguageId :=
  category.translations.map CategoryTranslation.languageId

def AnswerItem.languages (answer : AnswerItem) : List LanguageId :=
  answer.translations.map TextTranslation.languageId

/-- A question and its answers have inputs for the languages. -/
structure QuestionItem.Localized (languages : List LanguageId)
    (question : QuestionItem) : Prop where
  translations :
    question.translations.map TextTranslation.languageId = languages
  answers : ∀ answer ∈ question.answers, answer.languages = languages

/-- Everything on the page has inputs for the languages. -/
structure Page.Localized (languages : List LanguageId)
    (page : Page) : Prop where
  offered : page.languages = languages
  categories :
    ∀ category ∈ page.categories, category.languages = languages
  questions : ∀ question ∈ page.questions, question.Localized languages

/-! ## Changes in place -/

/-- What a change in one place keeps is kept for the whole list. -/
theorem map_modify_of_keeps {Item Part : Type} {part : Item → Part}
    {change : Item → Item}
    (keeps : ∀ item, part (change item) = part item)
    (items : List Item) (position : ℕ) :
    (items.modify position change).map part = items.map part := by
  apply List.ext_getElem
  · simp
  · intro other _ _
    rw [List.getElem_map, List.getElem_map, List.getElem_modify]
    split_ifs
    · exact keeps _
    · rfl

@[simp]
theorem CategoryItem.languages_enter (text : String)
    (category : CategoryItem) (field : CategoryField) :
    (category.enter text field).languages = category.languages := by
  cases field with
  | name => rfl
  | color => rfl
  | description => rfl
  | translationName position =>
      refine map_modify_of_keeps ?_ _ position
      exact fun _ => rfl
  | translationDescription position =>
      refine map_modify_of_keeps ?_ _ position
      exact fun _ => rfl

@[simp]
theorem AnswerItem.languages_enter (text : String)
    (answer : AnswerItem) (field : AnswerField) :
    (answer.enter text field).languages = answer.languages := by
  cases field with
  | answerText => rfl
  | scoreValue => rfl
  | translation position =>
      refine map_modify_of_keeps ?_ _ position
      exact fun _ => rfl

section Question

variable {languages : List LanguageId} {question : QuestionItem}

theorem QuestionItem.Localized.enter
    (localized : question.Localized languages) (text : String)
    (field : QuestionField) :
    (question.enter text field).Localized languages := by
  constructor
  · rw [← localized.translations]
    cases field with
    | questionText => rfl
    | maxScore => rfl
    | translation position =>
        refine map_modify_of_keeps ?_ _ position
        exact fun _ => rfl
  · rw [question.answers_enter]
    exact localized.answers

theorem QuestionItem.Localized.mapAnswers
    (localized : question.Localized languages)
    {change : AnswerItem → AnswerItem}
    (keeps : ∀ answer, (change answer).languages = answer.languages) :
    (question.mapAnswers change).Localized languages where
  translations := localized.translations
  answers := by
    intro answer member
    rcases List.mem_map.mp member with ⟨before, isBefore, rfl⟩
    rw [keeps]
    exact localized.answers before isBefore

theorem QuestionItem.Localized.filterAnswers
    (localized : question.Localized languages)
    (keep : AnswerItem → Bool) :
    QuestionItem.Localized languages
      { question with answers := question.answers.filter keep } where
  translations := localized.translations
  answers := fun answer member =>
    localized.answers answer (List.mem_filter.mp member).1

theorem QuestionItem.Localized.addAnswer
    (localized : question.Localized languages) {answer : AnswerItem}
    (same : answer.languages = languages) :
    QuestionItem.Localized languages
      { question with answers := question.answers ++ [answer] } where
  translations := localized.translations
  answers := by
    intro other member
    rcases List.mem_append.mp member with old | new
    · exact localized.answers other old
    · rw [List.mem_singleton.mp new]
      exact same

end Question

/-! ## Every event keeps the languages -/

namespace Page.Localized

variable {languages : List LanguageId} {page : Page}
  (localized : page.Localized languages)

include localized

theorem mapQuestions {change : QuestionItem → QuestionItem}
    (keeps :
      ∀ question : QuestionItem,
        question.Localized languages →
          (change question).Localized languages) :
    (page.mapQuestions change).Localized languages :=
  { localized with
    questions := by
      intro question member
      rcases List.mem_map.mp member with ⟨before, isBefore, rfl⟩
      exact keeps before (localized.questions before isBefore) }

/-- One question is changed in place. -/
theorem mapQuestion {index : ℕ} {change : QuestionItem → QuestionItem}
    (keeps :
      ∀ question : QuestionItem,
        question.Localized languages →
          (change question).Localized languages) :
    (page.mapQuestions fun question =>
      if question.index = index then change question
      else question).Localized languages := by
  apply localized.mapQuestions
  intro question holds
  split_ifs
  · exact keeps question holds
  · exact holds

theorem changeAnswer {change : AnswerItem → AnswerItem}
    (keeps : ∀ answer, (change answer).languages = answer.languages)
    (element : ElementId) :
    (page.changeAnswer element change).Localized languages := by
  apply localized.mapQuestions
  intro question holds
  apply holds.mapAnswers
  intro answer
  split_ifs
  · exact keeps answer
  · rfl

theorem updateAllQuestions :
    (AssessmentBuilder.updateAllQuestions page).Localized languages :=
  localized.mapQuestions fun _ holds => holds.mapAnswers fun _ => rfl

theorem addCategory :
    (AssessmentBuilder.addCategory page).Localized languages :=
  { localized with
    categories := by
      intro category member
      rcases List.mem_append.mp member with old | new
      · exact localized.categories category old
      · rw [List.mem_singleton.mp new, ← localized.offered,
          CategoryItem.languages, List.map_map]
        exact List.map_id _ }

theorem filterCategories (keep : CategoryItem → Bool) :
    Page.Localized languages
      { page with categories := page.categories.filter keep } :=
  { localized with
    categories := fun category member =>
      localized.categories category (List.mem_filter.mp member).1 }

theorem updateScoringMode :
    (AssessmentBuilder.updateScoringMode page).Localized languages := by
  apply Page.Localized.updateAllQuestions
  rw [withDefaultCategories]
  split_ifs
  · exact localized.addCategory.addCategory
  · exact localized

theorem appendQuestion :
    (AssessmentBuilder.appendQuestion page).Localized languages :=
  { localized with
    questions := by
      intro question member
      rcases List.mem_append.mp member with old | new
      · exact localized.questions question old
      · rw [List.mem_singleton.mp new]
        constructor
        · rw [← localized.offered]
          show (List.map _ (List.map _ _)) = _
          rw [List.map_map]
          exact List.map_id _
        · exact nofun }

theorem addAnswer (questionIndex : ℕ) :
    (AssessmentBuilder.addAnswer questionIndex page).Localized
      languages := by
  have mapped :
      (page.mapQuestions fun question =>
        if question.index = questionIndex then
          { question with
            answers :=
              question.answers ++
                [updateAnswerScoring page (newAnswer page question)] }
        else
          question).Localized languages := by
    apply localized.mapQuestion
    intro question holds
    apply holds.addAnswer
    rw [← localized.offered]
    show (List.map _ (List.map _ _)) = _
    rw [List.map_map]
    exact List.map_id _
  exact { mapped with }

theorem addQuestion :
    (AssessmentBuilder.addQuestion page).Localized languages :=
  (localized.appendQuestion.addAnswer _).addAnswer _

theorem removeQuestion (index : ℕ) :
    (AssessmentBuilder.removeQuestion index page).Localized languages :=
  { localized with
    questions := by
      intro question member
      have kept :=
        List.mem_map_of_mem
          (f := fun question : QuestionItem =>
            (question.translations, question.answers)) member
      rw [AssessmentBuilder.removeQuestion,
        map_updateQuestionNumbers fun _ _ => rfl] at kept
      rcases List.mem_map.mp kept with ⟨before, isBefore, equal⟩
      rw [Prod.mk.injEq] at equal
      have holds :=
        localized.questions before (List.mem_filter.mp isBefore).1
      constructor
      · rw [← equal.1]
        exact holds.translations
      · rw [← equal.2]
        exact holds.answers }

theorem changeType (index : ℕ) (questionType : QuestionType) :
    (AssessmentBuilder.changeType index questionType page).Localized
      languages := by
  apply localized.mapQuestion
  intro question holds
  have selected :
      QuestionItem.Localized languages
        { question with questionType := questionType } :=
    { translations := holds.translations
      answers := holds.answers }
  have keeps (answer : AnswerItem) :
      (updateAnswerScoring page answer).languages = answer.languages :=
    rfl
  exact selected.mapAnswers keeps

theorem step (event : Event) : (page.step event).Localized languages := by
  cases event with
  | selectMode mode =>
      rw [Page.step]
      split_ifs
      · exact localized
      · exact Page.Localized.updateScoringMode { localized with }
  | addCategory => exact localized.addCategory
  | removeCategory index =>
      rw [Page.step]
      split_ifs
      · exact (localized.filterCategories _).updateAllQuestions
      · exact localized
  | addQuestion => exact localized.addQuestion
  | removeQuestion index =>
      rw [Page.step]
      split_ifs
      · exact localized.removeQuestion index
      · exact localized
  | changeType index questionType =>
      rw [Page.step]
      split_ifs
      · exact localized.changeType index questionType
      · exact localized
  | addAnswer questionIndex => exact localized.addAnswer questionIndex
  | removeAnswer element =>
      exact localized.mapQuestions fun _ holds => holds.filterAnswers _
  | enterCategory index field text =>
      exact
        { localized with
          categories := by
            intro category member
            rcases List.mem_map.mp member with ⟨before, isBefore, rfl⟩
            have same := localized.categories before isBefore
            split_ifs
            · rw [CategoryItem.languages_enter]
              exact same
            · exact same }
  | enterQuestion index field text =>
      exact localized.mapQuestion fun _ holds => holds.enter text field
  | enterAnswer element field text =>
      exact
        localized.changeAnswer
          (fun answer => answer.languages_enter text field) element
  | toggleWeight element category =>
      apply localized.changeAnswer
      intro answer
      rfl
  | enterWeight element category text =>
      apply localized.changeAnswer
      intro answer
      rfl

/-- Whatever is done on the page. -/
theorem run (events : List Event) :
    (page.run events).Localized languages := by
  induction events generalizing page with
  | nil => exact localized
  | cons event rest induction => exact induction (localized.step event)

end Page.Localized

theorem localized_load (languages : List LanguageId)
    (mode : ScoringMode) : (load languages mode).Localized languages :=
  Page.Localized.updateScoringMode
    { offered := rfl
      categories := nofun
      questions := nofun }

end SultanPass.AssessmentBuilder
