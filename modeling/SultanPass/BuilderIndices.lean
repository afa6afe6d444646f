import SultanPass.AssessmentBuilder

/-!
# The indices of the builder's items

The counters give every live category and every live question an index of
its own, and a rendered scoring section has one input for each category.
`Page.Indexed.step` shows that every event keeps it so.
-/

namespace SultanPass.AssessmentBuilder

open SultanPass.Library

/-! ## Indices -/

/-- The weight inputs of an answer belong to different categories. -/
def ScoringSection.DistinctInputs (scoring : ScoringSection) : Prop :=
  (scoring.inputs.map WeightInput.categoryIndex).Nodup

/-- What the counters and the rendering give on every page. -/
structure Page.Indexed (page : Page) : Prop where
  categoriesBelow :
    ∀ category ∈ page.categories, category.index < page.categoryCounter
  categories : (page.categories.map CategoryItem.index).Nodup
  questionsBelow :
    ∀ question ∈ page.questions, question.index < page.questionCounter
  questions : (page.questions.map QuestionItem.index).Nodup
  inputs :
    ∀ question ∈ page.questions, ∀ answer ∈ question.answers,
      answer.scoringSection.DistinctInputs

/-! ## Changes in place -/

theorem Page.Indexed.mapQuestions {page : Page} (indexed : page.Indexed)
    {change : QuestionItem → QuestionItem}
    (index : ∀ question, (change question).index = question.index)
    (inputs :
      ∀ question ∈ page.questions, ∀ answer ∈ (change question).answers,
        answer.scoringSection.DistinctInputs) :
    (page.mapQuestions change).Indexed where
  categoriesBelow := indexed.categoriesBelow
  categories := indexed.categories
  questionsBelow := by
    intro question member
    rcases List.mem_map.mp member with ⟨before, isBefore, rfl⟩
    rw [index]
    exact indexed.questionsBelow before isBefore
  questions := by
    have same : QuestionItem.index ∘ change = QuestionItem.index :=
      funext index
    rw [Page.mapQuestions, List.map_map, same]
    exact indexed.questions
  inputs := by
    intro question member
    rcases List.mem_map.mp member with ⟨before, isBefore, rfl⟩
    exact inputs before isBefore

/-! ## Answers and their scoring sections -/

theorem distinctInputs_updateAnswerScoring {page : Page}
    (indexed : page.Indexed) (answer : AnswerItem) :
    (updateAnswerScoring page answer).scoringSection.DistinctInputs := by
  rw [updateAnswerScoring]
  cases page.scoringMode with
  | percentile => exact List.nodup_nil
  | categorical =>
      change ((page.categories.map blankWeight).map _).Nodup
      rw [List.map_map]
      exact indexed.categories

@[simp]
theorem AnswerItem.index_enter (text : String) (answer : AnswerItem)
    (field : AnswerField) :
    (answer.enter text field).index = answer.index := by
  cases field <;> rfl

@[simp]
theorem QuestionItem.index_enter (text : String)
    (question : QuestionItem) (field : QuestionField) :
    (question.enter text field).index = question.index := by
  cases field <;> rfl

@[simp]
theorem QuestionItem.answers_enter (text : String)
    (question : QuestionItem) (field : QuestionField) :
    (question.enter text field).answers = question.answers := by
  cases field <;> rfl

@[simp]
theorem CategoryItem.index_enter (text : String)
    (category : CategoryItem) (field : CategoryField) :
    (category.enter text field).index = category.index := by
  cases field <;> rfl

theorem map_index_enterCategory (index : ℕ) (field : CategoryField)
    (text : String) (page : Page) :
    (page.step (.enterCategory index field text)).categories.map
        CategoryItem.index =
      page.categories.map CategoryItem.index := by
  rw [Page.step, List.map_map]
  apply List.map_congr_left
  intro category _
  rw [Function.comp_apply]
  split_ifs
  · exact category.index_enter text field
  · rfl

@[simp]
theorem AnswerItem.weightInputs_enter (text : String) (answer : AnswerItem)
    (field : AnswerField) :
    (answer.enter text field).weightInputs = answer.weightInputs := by
  rcases answer with ⟨element, index, order, answerText, translations,
    scoring⟩
  cases field with
  | scoreValue => cases scoring <;> rfl
  | _ => rfl

theorem ScoringSection.inputs_mapWeights
    (change : WeightInput → WeightInput) (scoring : ScoringSection) :
    (scoring.mapWeights change).inputs = scoring.inputs.map change := by
  cases scoring <;> rfl

/-- A change of a weight input that leaves it to its category. -/
def KeepsCategory (change : WeightInput → WeightInput) : Prop :=
  ∀ input, (change input).categoryIndex = input.categoryIndex

theorem keepsCategory_toggle : KeepsCategory WeightInput.toggle :=
  fun _ => rfl

theorem keepsCategory_enter (text : String) :
    KeepsCategory (WeightInput.enter text) := by
  intro input
  rw [WeightInput.enter]
  split_ifs <;> rfl

theorem categories_changeWeight {change : WeightInput → WeightInput}
    (keeps : KeepsCategory change) (category : ℕ) (answer : AnswerItem) :
    (answer.changeWeight category change).weightInputs.map
        WeightInput.categoryIndex =
      answer.weightInputs.map WeightInput.categoryIndex := by
  rw [AnswerItem.changeWeight, AnswerItem.weightInputs,
    ScoringSection.inputs_mapWeights, List.map_map]
  apply List.map_congr_left
  intro input _
  rw [Function.comp_apply]
  split_ifs
  · exact keeps input
  · rfl

/-- A change of an answer in place, with its index and its inputs. -/
structure Unmoved (change : AnswerItem → AnswerItem) : Prop where
  index : ∀ answer, (change answer).index = answer.index
  inputs :
    ∀ answer, answer.scoringSection.DistinctInputs →
      (change answer).scoringSection.DistinctInputs

theorem unmoved_enter (text : String) (field : AnswerField) :
    Unmoved fun answer => answer.enter text field where
  index := fun answer => answer.index_enter text field
  inputs := by
    intro answer distinct
    change ((answer.enter text field).weightInputs.map _).Nodup
    rw [AnswerItem.weightInputs_enter]
    exact distinct

theorem unmoved_changeWeight {change : WeightInput → WeightInput}
    (keeps : KeepsCategory change) (category : ℕ) :
    Unmoved (AnswerItem.changeWeight category change) where
  index := fun _ => rfl
  inputs := by
    intro answer distinct
    change
      ((answer.changeWeight category change).weightInputs.map _).Nodup
    rw [categories_changeWeight keeps]
    exact distinct

/-- Renumbering changes nothing but the orders. -/
theorem map_updateQuestionNumbers {Part : Type}
    {part : QuestionItem → Part}
    (ignores :
      ∀ (question : QuestionItem) (order : ℕ),
        part { question with order := order } = part question)
    (page : Page) :
    (updateQuestionNumbers page).questions.map part =
      page.questions.map part := by
  apply List.ext_getElem
  · simp [updateQuestionNumbers]
  · intro position _ _
    simp [updateQuestionNumbers, ignores]

/-- The questions that remain keep their indices and answers. -/
theorem mem_removeQuestion {index : ℕ} {page : Page}
    {question : QuestionItem}
    (member : question ∈ (removeQuestion index page).questions) :
    ∃ before ∈ page.questions,
      before.index = question.index ∧ before.answers = question.answers := by
  have kept :=
    List.mem_map_of_mem
      (f := fun question => (question.index, question.answers)) member
  rw [removeQuestion, map_updateQuestionNumbers fun _ _ => rfl] at kept
  rcases List.mem_map.mp kept with ⟨before, isBefore, equal⟩
  rw [Prod.mk.injEq] at equal
  exact ⟨before, (List.mem_filter.mp isBefore).1, equal.1, equal.2⟩

/-! ## Every event keeps the indices apart -/

namespace Page.Indexed

variable {page : Page} (indexed : page.Indexed)

include indexed

theorem changeAnswer {change : AnswerItem → AnswerItem}
    (unmoved : Unmoved change) (element : ElementId) :
    (page.changeAnswer element change).Indexed := by
  apply indexed.mapQuestions
  · intro question
    rfl
  · intro question isQuestion answer member
    rcases List.mem_map.mp member with ⟨before, isBefore, rfl⟩
    have distinct := indexed.inputs question isQuestion before isBefore
    split_ifs
    · exact unmoved.inputs before distinct
    · exact distinct

theorem updateAllQuestions :
    (AssessmentBuilder.updateAllQuestions page).Indexed := by
  apply indexed.mapQuestions
  · intro question
    rfl
  · intro question isQuestion answer member
    rcases List.mem_map.mp member with ⟨before, isBefore, rfl⟩
    exact distinctInputs_updateAnswerScoring indexed before

theorem addCategory : (AssessmentBuilder.addCategory page).Indexed :=
  { indexed with
    categoriesBelow := by
      intro category member
      rcases List.mem_append.mp member with old | new
      · exact Nat.lt_succ_of_lt (indexed.categoriesBelow category old)
      · rw [List.mem_singleton] at new
        rw [new]
        exact Nat.lt_succ_self _
    categories :=
      nodup_map_concat indexed.categories fun category member =>
        (indexed.categoriesBelow category member).ne }

theorem filterCategories (keep : CategoryItem → Bool) :
    Page.Indexed
      { page with categories := page.categories.filter keep } :=
  { indexed with
    categoriesBelow := fun category member =>
      indexed.categoriesBelow category (List.mem_filter.mp member).1
    categories :=
      indexed.categories.sublist (List.filter_sublist.map _) }

theorem removeCategory (index : ℕ) :
    (AssessmentBuilder.removeCategory index page).Indexed :=
  (indexed.filterCategories _).updateAllQuestions

theorem updateScoringMode :
    (AssessmentBuilder.updateScoringMode page).Indexed := by
  apply Page.Indexed.updateAllQuestions
  rw [withDefaultCategories]
  split_ifs
  · exact indexed.addCategory.addCategory
  · exact indexed

theorem appendQuestion : (AssessmentBuilder.appendQuestion page).Indexed :=
  { indexed with
    questionsBelow := by
      intro question member
      rcases List.mem_append.mp member with old | new
      · exact Nat.lt_succ_of_lt (indexed.questionsBelow question old)
      · rw [List.mem_singleton] at new
        rw [new]
        exact Nat.lt_succ_self _
    questions :=
      nodup_map_concat indexed.questions fun question member =>
        (indexed.questionsBelow question member).ne
    inputs := by
      intro question member answer isAnswer
      rcases List.mem_append.mp member with old | new
      · exact indexed.inputs question old answer isAnswer
      · rw [List.mem_singleton] at new
        rw [new] at isAnswer
        cases isAnswer }

theorem addAnswer (questionIndex : ℕ) :
    (AssessmentBuilder.addAnswer questionIndex page).Indexed := by
  have mapped :
      (page.mapQuestions fun question =>
        if question.index = questionIndex then
          { question with
            answers :=
              question.answers ++
                [updateAnswerScoring page (newAnswer page question)] }
        else
          question).Indexed := by
    apply indexed.mapQuestions
    · intro question
      split_ifs <;> rfl
    · intro question isQuestion answer member
      split_ifs at member
      · rcases List.mem_append.mp member with old | new
        · exact indexed.inputs question isQuestion answer old
        · rw [List.mem_singleton] at new
          rw [new]
          exact distinctInputs_updateAnswerScoring indexed _
      · exact indexed.inputs question isQuestion answer member
  exact { mapped with }

theorem addQuestion : (AssessmentBuilder.addQuestion page).Indexed :=
  (indexed.appendQuestion.addAnswer _).addAnswer _

theorem removeQuestion (index : ℕ) :
    (AssessmentBuilder.removeQuestion index page).Indexed :=
  { indexed with
    questionsBelow := by
      intro question member
      rcases mem_removeQuestion member with ⟨before, isBefore, same, _⟩
      rw [← same]
      exact indexed.questionsBelow before isBefore
    questions := by
      rw [AssessmentBuilder.removeQuestion,
        map_updateQuestionNumbers fun _ _ => rfl]
      exact
        indexed.questions.sublist
          (List.filter_sublist.map QuestionItem.index)
    inputs := by
      intro question member
      rcases mem_removeQuestion member with ⟨before, isBefore, _, same⟩
      rw [← same]
      exact indexed.inputs before isBefore }

theorem changeType (index : ℕ) (questionType : QuestionType) :
    (AssessmentBuilder.changeType index questionType page).Indexed := by
  apply indexed.mapQuestions
  · intro question
    split_ifs <;> rfl
  · intro question isQuestion answer member
    split_ifs at member
    · rcases List.mem_map.mp member with ⟨before, _, rfl⟩
      exact distinctInputs_updateAnswerScoring indexed before
    · exact indexed.inputs question isQuestion answer member

theorem step (event : Event) : (page.step event).Indexed := by
  cases event with
  | selectMode mode =>
      rw [Page.step]
      split_ifs
      · exact indexed
      · exact Page.Indexed.updateScoringMode { indexed with }
  | addCategory => exact indexed.addCategory
  | removeCategory index =>
      rw [Page.step]
      split_ifs
      · exact indexed.removeCategory index
      · exact indexed
  | addQuestion => exact indexed.addQuestion
  | removeQuestion index =>
      rw [Page.step]
      split_ifs
      · exact indexed.removeQuestion index
      · exact indexed
  | changeType index questionType =>
      rw [Page.step]
      split_ifs
      · exact indexed.changeType index questionType
      · exact indexed
  | addAnswer questionIndex => exact indexed.addAnswer questionIndex
  | removeAnswer element =>
      apply indexed.mapQuestions
      · intro question
        rfl
      · intro question isQuestion answer member
        exact
          indexed.inputs question isQuestion answer
            (List.mem_filter.mp member).1
  | enterCategory index field text =>
      exact
        { indexed with
          categoriesBelow := by
            intro category member
            rcases List.mem_map.mp member with ⟨before, isBefore, rfl⟩
            have below := indexed.categoriesBelow before isBefore
            split_ifs
            · rw [CategoryItem.index_enter]
              exact below
            · exact below
          categories := by
            rw [map_index_enterCategory]
            exact indexed.categories }
  | enterQuestion index field text =>
      apply indexed.mapQuestions
      · intro question
        split_ifs
        · exact question.index_enter text field
        · rfl
      · intro question isQuestion answer member
        apply indexed.inputs question isQuestion answer
        split_ifs at member
        · rw [QuestionItem.answers_enter] at member
          exact member
        · exact member
  | enterAnswer element field text =>
      exact indexed.changeAnswer (unmoved_enter text field) element
  | toggleWeight element category =>
      exact
        indexed.changeAnswer
          (unmoved_changeWeight keepsCategory_toggle category) element
  | enterWeight element category text =>
      exact
        indexed.changeAnswer
          (unmoved_changeWeight (keepsCategory_enter text) category)
          element

end Page.Indexed

/-- A page without categories and questions. -/
theorem Page.indexed_of_empty {page : Page}
    (noCategories : page.categories = [])
    (noQuestions : page.questions = []) : page.Indexed where
  categoriesBelow := by
    rw [noCategories]
    exact nofun
  categories := by
    rw [noCategories]
    exact List.nodup_nil
  questionsBelow := by
    rw [noQuestions]
    exact nofun
  questions := by
    rw [noQuestions]
    exact List.nodup_nil
  inputs := by
    rw [noQuestions]
    exact nofun

theorem indexed_load (languages : List LanguageId) (mode : ScoringMode) :
    (load languages mode).Indexed :=
  (Page.indexed_of_empty rfl rfl).updateScoringMode

end SultanPass.AssessmentBuilder
