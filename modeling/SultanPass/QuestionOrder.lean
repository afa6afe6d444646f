import SultanPass.BuilderIndices

/-!
# The order of the builder's questions

Two numberings write the hidden `order` input of a question.  `addQuestion`
takes it from the question counter, which only grows, and
`updateQuestionNumbers` writes the positions anew when a question has been
removed.  Neither exceeds the counter, so a question that is added later
stands behind all those that are there.

`orders_increasing_of_run` is the result for every sequence of events.
-/

namespace SultanPass.AssessmentBuilder

open SultanPass.Library

/-! ## The hidden inputs -/

/-- The `order` inputs of the questions, as they stand in the document. -/
def Page.orders (page : Page) : List ℕ :=
  page.questions.map QuestionItem.order

@[simp]
theorem Page.length_orders (page : Page) :
    page.orders.length = page.questions.length :=
  List.length_map _

theorem Page.orders_mapQuestions {change : QuestionItem → QuestionItem}
    (keeps : ∀ question, (change question).order = question.order)
    (page : Page) :
    (page.mapQuestions change).orders = page.orders := by
  rw [Page.orders, Page.mapQuestions, List.map_map]
  apply List.map_congr_left
  intro question _
  exact keeps question

@[simp]
theorem QuestionItem.order_enter (text : String)
    (question : QuestionItem) (field : QuestionField) :
    (question.enter text field).order = question.order := by
  cases field <;> rfl

@[simp]
theorem orders_updateAllQuestions (page : Page) :
    (updateAllQuestions page).orders = page.orders := by
  apply Page.orders_mapQuestions
  intro question
  rfl

@[simp]
theorem orders_removeAnswer (element : ElementId) (page : Page) :
    (removeAnswer element page).orders = page.orders := by
  apply Page.orders_mapQuestions
  intro question
  rfl

@[simp]
theorem Page.orders_changeAnswer (element : ElementId)
    (change : AnswerItem → AnswerItem) (page : Page) :
    (page.changeAnswer element change).orders = page.orders := by
  apply Page.orders_mapQuestions
  intro question
  rfl

@[simp]
theorem orders_addAnswer (questionIndex : ℕ) (page : Page) :
    (addAnswer questionIndex page).orders = page.orders := by
  apply Page.orders_mapQuestions
  intro question
  split_ifs <;> rfl

@[simp]
theorem orders_changeType (index : ℕ) (questionType : QuestionType)
    (page : Page) :
    (changeType index questionType page).orders = page.orders := by
  apply Page.orders_mapQuestions
  intro question
  split_ifs <;> rfl

@[simp]
theorem orders_withDefaultCategories (page : Page) :
    (withDefaultCategories page).orders = page.orders := by
  rw [withDefaultCategories]
  split_ifs <;> rfl

@[simp]
theorem questionCounter_withDefaultCategories (page : Page) :
    (withDefaultCategories page).questionCounter =
      page.questionCounter := by
  rw [withDefaultCategories]
  split_ifs <;> rfl

/-- A new question has the next number of the counter. -/
@[simp]
theorem orders_addQuestion (page : Page) :
    (addQuestion page).orders =
      page.orders ++ [page.questionCounter + 1] := by
  rw [addQuestion, orders_addAnswer, orders_addAnswer, Page.orders,
    appendQuestion, List.map_append]
  rfl

/-- The new numbers are the positions. -/
@[simp]
theorem orders_updateQuestionNumbers (page : Page) :
    (updateQuestionNumbers page).orders =
      List.range' 1 page.questions.length := by
  apply List.ext_getElem
  · simp [updateQuestionNumbers]
  · intro position _ _
    simp [Page.orders, updateQuestionNumbers, Nat.add_comm]

/-! ## Both numberings together -/

/-- What both numberings keep of the `order` inputs. -/
structure Page.Ordered (page : Page) : Prop where
  increasing : page.orders.Pairwise (· < ·)
  positive : ∀ order ∈ page.orders, 0 < order
  atMostCounter : ∀ order ∈ page.orders, order ≤ page.questionCounter
  length_le : page.questions.length ≤ page.questionCounter

namespace Page.Ordered

theorem of_sameOrders {before after : Page} (ordered : before.Ordered)
    (orders : after.orders = before.orders)
    (counter : after.questionCounter = before.questionCounter) :
    after.Ordered where
  increasing := by
    rw [orders]
    exact ordered.increasing
  positive := by
    rw [orders]
    exact ordered.positive
  atMostCounter := by
    rw [orders, counter]
    exact ordered.atMostCounter
  length_le := by
    rw [← after.length_orders, orders, counter, before.length_orders]
    exact ordered.length_le

theorem updateScoringMode {page : Page} (ordered : page.Ordered) :
    (AssessmentBuilder.updateScoringMode page).Ordered := by
  apply ordered.of_sameOrders
  · simp [AssessmentBuilder.updateScoringMode]
  · exact questionCounter_withDefaultCategories page

theorem load (languages : List LanguageId) (mode : ScoringMode) :
    (AssessmentBuilder.load languages mode).Ordered := by
  apply updateScoringMode
  exact
    { increasing := List.Pairwise.nil
      positive := nofun
      atMostCounter := nofun
      length_le := le_rfl }

variable {page : Page} (ordered : page.Ordered)

include ordered

/-- No question has the next number of the counter yet. -/
theorem addQuestion : (AssessmentBuilder.addQuestion page).Ordered where
  increasing := by
    rw [orders_addQuestion, List.pairwise_append]
    refine ⟨ordered.increasing, List.pairwise_singleton _ _, ?_⟩
    intro order member next isNext
    rw [List.mem_singleton] at isNext
    rw [isNext]
    exact Nat.lt_succ_of_le (ordered.atMostCounter order member)
  positive := by
    intro order member
    rw [orders_addQuestion, List.mem_append, List.mem_singleton] at member
    rcases member with old | rfl
    · exact ordered.positive order old
    · exact Nat.succ_pos _
  atMostCounter := by
    intro order member
    change order ≤ page.questionCounter + 1
    rw [orders_addQuestion, List.mem_append, List.mem_singleton] at member
    rcases member with old | rfl
    · exact Nat.le_succ_of_le (ordered.atMostCounter order old)
    · exact le_rfl
  length_le := by
    change _ ≤ page.questionCounter + 1
    rw [← Page.length_orders, orders_addQuestion, List.length_append,
      Page.length_orders]
    exact Nat.succ_le_succ ordered.length_le

/-- There are no more positions than questions that were ever added. -/
theorem removeQuestion (index : ℕ) :
    (AssessmentBuilder.removeQuestion index page).Ordered := by
  let kept :=
    page.questions.filter fun question => question.index ≠ index
  have orders :
      (AssessmentBuilder.removeQuestion index page).orders =
        List.range' 1 kept.length :=
    orders_updateQuestionNumbers _
  have fewer : kept.length ≤ page.questionCounter :=
    (List.length_filter_le _ _).trans ordered.length_le
  constructor
  · rw [orders]
    exact List.pairwise_lt_range'
  · intro order member
    rw [orders, List.mem_range'_1] at member
    exact member.1
  · intro order member
    change order ≤ page.questionCounter
    rw [orders, List.mem_range'_1] at member
    omega
  · change _ ≤ page.questionCounter
    rw [← Page.length_orders, orders, List.length_range']
    exact fewer

theorem step (event : Event) : (page.step event).Ordered := by
  cases event with
  | selectMode mode =>
      rw [Page.step]
      split_ifs
      · exact ordered
      · exact updateScoringMode (ordered.of_sameOrders rfl rfl)
  | addCategory => exact ordered.of_sameOrders rfl rfl
  | removeCategory index =>
      rw [Page.step]
      split_ifs
      · exact ordered.of_sameOrders (orders_updateAllQuestions _) rfl
      · exact ordered
  | addQuestion => exact ordered.addQuestion
  | removeQuestion index =>
      rw [Page.step]
      split_ifs
      · exact ordered.removeQuestion index
      · exact ordered
  | changeType index questionType =>
      rw [Page.step]
      split_ifs
      · exact
          ordered.of_sameOrders (orders_changeType index _ page) rfl
      · exact ordered
  | addAnswer questionIndex =>
      exact
        ordered.of_sameOrders (orders_addAnswer questionIndex page) rfl
  | removeAnswer element =>
      exact
        ordered.of_sameOrders (orders_removeAnswer element page) rfl
  | enterCategory index field text =>
      exact ordered.of_sameOrders rfl rfl
  | enterQuestion index field text =>
      refine
        ordered.of_sameOrders (Page.orders_mapQuestions ?_ page) rfl
      intro question
      split_ifs
      · exact question.order_enter text field
      · rfl
  | enterAnswer element field text =>
      exact
        ordered.of_sameOrders (page.orders_changeAnswer element _) rfl
  | toggleWeight element category =>
      exact
        ordered.of_sameOrders (page.orders_changeAnswer element _) rfl
  | enterWeight element category text =>
      exact
        ordered.of_sameOrders (page.orders_changeAnswer element _) rfl

theorem run (events : List Event) : (page.run events).Ordered := by
  induction events generalizing page with
  | nil => exact ordered
  | cons event events ih => exact ih (ordered.step event)

end Page.Ordered

/-- The `order` inputs of the live questions increase, starting above 0. -/
theorem orders_increasing_of_run
    (languages : List LanguageId) (mode : ScoringMode)
    (events : List Event) :
    ((load languages mode).run events).orders.Pairwise (· < ·) ∧
      ∀ order ∈ ((load languages mode).run events).orders, 0 < order :=
  have ordered := (Page.Ordered.load languages mode).run events
  ⟨ordered.increasing, ordered.positive⟩

/-- After a removal the next number of the counter leaves a gap. -/
example :
    ((load [] .percentile).run
      [.addQuestion, .addQuestion, .addQuestion, .removeQuestion 0,
        .addQuestion]).orders = [1, 2, 4] := by
  decide

end SultanPass.AssessmentBuilder
