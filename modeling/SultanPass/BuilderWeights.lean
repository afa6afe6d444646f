import SultanPass.BuilderIndices
import SultanPass.Library.GuardedRun

/-!
# Weight inputs and categories

In categorical mode every answer should offer one weight input for each
category, and a weight that was entered should stay.  An answer is rendered
for the categories of that time: a later category does not reach it, and
when it is rendered again its weights are lost.

`Recorded` keeps beside the page what the user has entered.
`weights_follow_categories` gives the condition on the steps of a run under
which the inputs follow the categories and the record.
-/

namespace SultanPass.AssessmentBuilder

open SultanPass.Library

/-! ## What the user has entered -/

/-- The weight that an input holds. -/
def WeightInput.held (input : WeightInput) : Option String :=
  if input.checked then some input.value else none

/-- The weight input of an answer for a category. -/
def Page.weightInput? (page : Page) (element : ElementId)
    (category : ℕ) : Option WeightInput :=
  (page.answers.find? fun answer => answer.element = element).bind
    fun answer =>
      answer.weightInputs.find? fun input =>
        input.categoryIndex = category

/-- The weights that were entered and not cleared, by answer and category. -/
abbrev EnteredWeights :=
  ElementId × ℕ → Option String

/-- What a weight input holds after the user has changed it. -/
def recordHeld (page : Page) (element : ElementId) (category : ℕ)
    (change : WeightInput → WeightInput) (entered : EnteredWeights) :
    EnteredWeights :=
  match page.weightInput? element category with
  | none => entered
  | some input =>
      Function.update entered (element, category) (change input).held

def record (page : Page) (entered : EnteredWeights) :
    Event → EnteredWeights
  | .toggleWeight element category =>
      recordHeld page element category WeightInput.toggle entered
  | .enterWeight element category text =>
      recordHeld page element category (WeightInput.enter text) entered
  | _ => entered

/-- A page and the record of its weights. -/
structure Recorded where
  page : Page
  entered : EnteredWeights

namespace Recorded

def load (languages : List LanguageId) (mode : ScoringMode) : Recorded where
  page := AssessmentBuilder.load languages mode
  entered := fun _ => none

def step (state : Recorded) (event : Event) : Recorded where
  page := state.page.step event
  entered := record state.page state.entered event

def run (state : Recorded) (events : List Event) : Recorded :=
  events.foldl step state

/--
Each answer offers exactly one weight input for each category, and the
input has what was entered for it.
-/
structure FollowsCategories (state : Recorded) : Prop where
  one :
    ∀ answer ∈ state.page.answers, ∀ category ∈ state.page.categories,
      answer.weightInputs.countP
        (fun input => input.categoryIndex = category.index) = 1
  live :
    ∀ answer ∈ state.page.answers, ∀ input ∈ answer.weightInputs,
      state.page.HasCategory input.categoryIndex
  present :
    ∀ answer ∈ state.page.answers, ∀ category ∈ state.page.categories,
      ∀ value ∈ state.entered (answer.element, category.index),
        ∃ input ∈ answer.weightInputs,
          input.categoryIndex = category.index ∧
            input.disabled = false ∧ input.value = value

end Recorded

/-! ## The condition on a step -/

/-- The answers whose scoring sections an event renders anew. -/
def Page.rerendered (page : Page) : Event → List AnswerItem
  | .selectMode mode =>
      if page.scoringMode = mode then [] else page.answers
  | .removeCategory index =>
      if page.HasCategory index then page.answers else []
  | .changeType index questionType =>
      if page.ChangesType index questionType then
        (page.questions.filter fun question =>
          question.index = index).flatMap QuestionItem.answers
      else []
  | _ => []

/--
No category is added in categorical mode while there are answers, an answer
that is rendered anew has no ticked weight, except for a category that is
being removed, and no name is pasted that could add or swallow inputs.
-/
structure KeepsWeights (page : Page) (event : Event) : Prop where
  pastes : PastesText page event
  additions :
    event = .addCategory → page.scoringMode = .categorical →
      page.answers = []
  ticked :
    ∀ answer ∈ page.rerendered event, ∀ input ∈ answer.weightInputs,
      input.checked = true → event = .removeCategory input.categoryIndex

instance (page : Page) (event : Event) :
    Decidable (KeepsWeights page event) :=
  decidable_of_iff
    (PastesText page event ∧
      (event = .addCategory → page.scoringMode = .categorical →
        page.answers = []) ∧
      ∀ answer ∈ page.rerendered event, ∀ input ∈ answer.weightInputs,
        input.checked = true → event = .removeCategory input.categoryIndex)
    ⟨fun all => ⟨all.1, all.2.1, all.2.2⟩,
      fun keeps => ⟨keeps.1, keeps.2, keeps.3⟩⟩

/-! ## Inputs that hold what was entered -/

/-- The weight input of a category that holds an entry or none. -/
def WeightInput.holding (category : ℕ) (entry : Option String) :
    WeightInput where
  categoryIndex := category
  checked := entry.isSome
  value := entry.getD ""
  disabled := entry.isNone

/-- After a change an input still shows no more and no less than it holds. -/
def KeepsHolding (change : WeightInput → WeightInput) : Prop :=
  ∀ category entry,
    change (.holding category entry) =
      .holding category (change (.holding category entry)).held

theorem keepsHolding_toggle : KeepsHolding WeightInput.toggle := by
  intro category entry
  cases entry <;> rfl

theorem keepsHolding_enter (text : String) :
    KeepsHolding (WeightInput.enter text) := by
  intro category entry
  cases entry <;> rfl

/-- The indices of the live categories. -/
def Page.categoryIndices (page : Page) : List ℕ :=
  page.categories.map CategoryItem.index

/-- The weight inputs that an answer should offer. -/
def Recorded.offered (state : Recorded) (element : ElementId) :
    List WeightInput :=
  match state.page.scoringMode with
  | .categorical =>
      state.page.categoryIndices.map fun category =>
        .holding category (state.entered (element, category))
  | .percentile => []

/-- An answer offers the inputs it should. -/
structure Recorded.Fits (state : Recorded) (answer : AnswerItem) :
    Prop where
  below : answer.element < state.page.elementCounter
  offers : answer.weightInputs = state.offered answer.element
  untouched :
    state.page.scoringMode = .percentile →
      ∀ category ∈ state.page.categoryIndices,
        state.entered (answer.element, category) = none

/-- Entries belong to answers and categories that were on the page. -/
structure Recorded.Bounded (state : Recorded) : Prop where
  indexed : state.page.Indexed
  recordBelow :
    ∀ element category,
      state.entered (element, category) ≠ none →
        element < state.page.elementCounter ∧
          category < state.page.categoryCounter

/-- Every answer offers the inputs it should. -/
structure Recorded.InStep (state : Recorded) : Prop
    extends state.Bounded where
  fits :
    ∀ question ∈ state.page.questions, ∀ answer ∈ question.answers,
      state.Fits answer

namespace Recorded

variable {state : Recorded}

theorem offered_of_categorical
    (categorical : state.page.scoringMode = .categorical)
    (element : ElementId) :
    state.offered element =
      state.page.categoryIndices.map fun category =>
        .holding category (state.entered (element, category)) := by
  rw [offered, categorical]

theorem offered_of_percentile
    (percentile : state.page.scoringMode = .percentile)
    (element : ElementId) :
    state.offered element = [] := by
  rw [offered, percentile]

theorem InStep.fits_answer (inStep : state.InStep) {answer : AnswerItem}
    (member : answer ∈ state.page.answers) : state.Fits answer := by
  rcases List.mem_flatMap.mp member with ⟨question, isQuestion, isAnswer⟩
  exact inStep.fits question isQuestion answer isAnswer

/-- Inputs that are in step follow the categories and the record. -/
theorem InStep.follows (inStep : state.InStep)
    (categorical : state.page.scoringMode = .categorical) :
    state.FollowsCategories := by
  have offers (answer : AnswerItem)
      (member : answer ∈ state.page.answers) :
      answer.weightInputs =
        state.page.categoryIndices.map fun category =>
          .holding category
            (state.entered (answer.element, category)) := by
    rw [(inStep.fits_answer member).offers,
      offered_of_categorical categorical]
  constructor
  · intro answer member category isCategory
    rw [offers answer member, List.countP_map]
    exact
      List.count_eq_one_of_mem inStep.indexed.categories
        (List.mem_map_of_mem isCategory)
  · intro answer member input isInput
    rw [offers answer member] at isInput
    rcases List.mem_map.mp isInput with ⟨index, isIndex, rfl⟩
    exact List.mem_map.mp isIndex
  · intro answer member category isCategory value isEntered
    rw [offers answer member]
    refine
      ⟨_, List.mem_map_of_mem (List.mem_map_of_mem isCategory), rfl, ?_⟩
    rw [Option.mem_def] at isEntered
    rw [isEntered]
    exact ⟨rfl, rfl⟩

/-! ## Rendering anew -/

/-- Nothing is entered where no input is ticked. -/
theorem Fits.entered_eq_none {answer : AnswerItem}
    (fits : state.Fits answer) {category : ℕ}
    (isCategory : category ∈ state.page.categoryIndices)
    (unticked :
      ∀ input ∈ answer.weightInputs, input.checked = true →
        input.categoryIndex ≠ category) :
    state.entered (answer.element, category) = none := by
  cases mode : state.page.scoringMode with
  | percentile => exact fits.untouched mode category isCategory
  | categorical =>
      rw [fits.offers, offered_of_categorical mode] at unticked
      have own := unticked _ (List.mem_map_of_mem isCategory)
      cases entry : state.entered (answer.element, category) with
      | none => rfl
      | some value =>
          rw [entry] at own
          exact absurd rfl (own rfl)

/-- An answer without entries fits after it is rendered anew. -/
theorem fits_updateAnswerScoring {answer : AnswerItem}
    (below : answer.element < state.page.elementCounter)
    (untouched :
      ∀ category ∈ state.page.categoryIndices,
        state.entered (answer.element, category) = none) :
    state.Fits (updateAnswerScoring state.page answer) where
  below := below
  offers := by
    cases mode : state.page.scoringMode with
    | percentile =>
        rw [offered_of_percentile mode, updateAnswerScoring, mode]
        rfl
    | categorical =>
        rw [offered_of_categorical mode, updateAnswerScoring, mode,
          Page.categoryIndices, List.map_map]
        apply List.map_congr_left
        intro category member
        rw [Function.comp_apply,
          untouched category.index (List.mem_map_of_mem member)]
        rfl
  untouched := fun _ => untouched

/-- A page may change around an answer. -/
theorem Fits.transfer {answer : AnswerItem} (fits : state.Fits answer)
    {page : Page} (mode : page.scoringMode = state.page.scoringMode)
    (categories : page.categoryIndices = state.page.categoryIndices)
    (elements : state.page.elementCounter ≤ page.elementCounter) :
    Recorded.Fits ⟨page, state.entered⟩ answer where
  below := fits.below.trans_le elements
  offers := by
    rw [fits.offers, offered, offered, mode, categories]
  untouched := by
    rw [mode, categories]
    exact fits.untouched

/-- Questions are changed in place, and their answers still fit. -/
theorem InStep.mapQuestions (inStep : state.InStep)
    {change : QuestionItem → QuestionItem}
    (indexed : (state.page.mapQuestions change).Indexed)
    (fits :
      ∀ question ∈ state.page.questions,
        ∀ answer ∈ (change question).answers, state.Fits answer) :
    Recorded.InStep
      ⟨state.page.mapQuestions change, state.entered⟩ where
  indexed := indexed
  recordBelow := inStep.recordBelow
  fits := by
    intro question member answer isAnswer
    rcases List.mem_map.mp member with ⟨before, isBefore, rfl⟩
    exact (fits before isBefore answer isAnswer).transfer rfl rfl le_rfl

/-- Nothing is entered for the answers and categories of a page. -/
structure Unentered (state : Recorded) : Prop
    extends state.Bounded where
  below :
    ∀ question ∈ state.page.questions, ∀ answer ∈ question.answers,
      answer.element < state.page.elementCounter
  untouched :
    ∀ question ∈ state.page.questions, ∀ answer ∈ question.answers,
      ∀ category ∈ state.page.categoryIndices,
        state.entered (answer.element, category) = none

theorem Unentered.updateAllQuestions (unentered : state.Unentered) :
    Recorded.InStep
      ⟨updateAllQuestions state.page, state.entered⟩ where
  indexed := unentered.indexed.updateAllQuestions
  recordBelow := unentered.recordBelow
  fits := by
    intro question member answer isAnswer
    rcases List.mem_map.mp member with ⟨before, isBefore, rfl⟩
    rcases List.mem_map.mp isAnswer with ⟨old, isOld, rfl⟩
    exact
      (fits_updateAnswerScoring (unentered.below before isBefore old isOld)
        (unentered.untouched before isBefore old isOld)).transfer
          rfl rfl le_rfl

theorem Bounded.addCategory (bounded : state.Bounded) :
    Recorded.Bounded ⟨addCategory state.page, state.entered⟩ where
  indexed := bounded.indexed.addCategory
  recordBelow := fun element category isEntered =>
    (bounded.recordBelow element category isEntered).imp_right
      Nat.lt_succ_of_lt

/-- A new category has no entries. -/
theorem Unentered.addCategory (unentered : state.Unentered) :
    Recorded.Unentered ⟨addCategory state.page, state.entered⟩ where
  toBounded := unentered.toBounded.addCategory
  below := unentered.below
  untouched := by
    intro question isQuestion answer isAnswer category isCategory
    change
      category ∈ (state.page.categories ++ [_]).map CategoryItem.index
        at isCategory
    rw [List.map_append, List.mem_append] at isCategory
    rcases isCategory with old | new
    · exact
        unentered.untouched question isQuestion answer isAnswer category
          old
    · rw [List.map_singleton, List.mem_singleton] at new
      subst new
      by_contra isEntered
      exact
        lt_irrefl _
          (unentered.recordBelow answer.element _ isEntered).2

theorem Unentered.updateScoringMode (unentered : state.Unentered) :
    Recorded.InStep
      ⟨updateScoringMode state.page, state.entered⟩ := by
  rw [AssessmentBuilder.updateScoringMode, withDefaultCategories]
  split_ifs
  · exact unentered.addCategory.addCategory.updateAllQuestions
  · exact unentered.updateAllQuestions

/-! ## Changes of weights -/

theorem InStep.weightInput?_some (inStep : state.InStep)
    {element : ElementId} {category : ℕ} {input : WeightInput}
    (found : state.page.weightInput? element category = some input) :
    state.page.scoringMode = .categorical ∧
      category ∈ state.page.categoryIndices ∧
      element < state.page.elementCounter ∧
      input = .holding category (state.entered (element, category)) := by
  rcases Option.bind_eq_some_iff.mp found with
    ⟨answer, isFirst, isInput⟩
  have own : answer.element = element := by
    simpa using List.find?_some isFirst
  have fits := inStep.fits_answer (List.mem_of_find?_eq_some isFirst)
  have isOffered := List.mem_of_find?_eq_some isInput
  have ofCategory : input.categoryIndex = category := by
    simpa using List.find?_some isInput
  rw [fits.offers, own] at isOffered
  cases mode : state.page.scoringMode with
  | percentile =>
      rw [offered_of_percentile mode] at isOffered
      cases isOffered
  | categorical =>
      rw [offered_of_categorical mode] at isOffered
      rcases List.mem_map.mp isOffered with ⟨index, isIndex, rfl⟩
      change index = category at ofCategory
      subst ofCategory
      exact ⟨rfl, isIndex, own ▸ fits.below, rfl⟩

theorem InStep.weightInput?_none (inStep : state.InStep)
    {element : ElementId} {category : ℕ}
    (absent : state.page.weightInput? element category = none)
    {answer : AnswerItem} (member : answer ∈ state.page.answers)
    (own : answer.element = element) :
    ∀ input ∈ answer.weightInputs, input.categoryIndex ≠ category := by
  intro input isInput ofCategory
  have hasFirst :
      (state.page.answers.find? fun other =>
        other.element = element).isSome = true :=
    List.find?_isSome.mpr ⟨answer, member, decide_eq_true own⟩
  rcases Option.isSome_iff_exists.mp hasFirst with ⟨first, isFirst⟩
  have sameElement : first.element = element := by
    simpa using List.find?_some isFirst
  have fits := inStep.fits_answer (List.mem_of_find?_eq_some isFirst)
  rw [Page.weightInput?, isFirst, Option.bind_some,
    List.find?_eq_none] at absent
  rw [(inStep.fits_answer member).offers, own, ← sameElement,
    ← fits.offers] at isInput
  exact absent input isInput (decide_eq_true ofCategory)

theorem weightInputs_changeWeight {change : WeightInput → WeightInput}
    (category : ℕ) (answer : AnswerItem) :
    (answer.changeWeight category change).weightInputs =
      answer.weightInputs.map fun input =>
        if input.categoryIndex = category then change input else input :=
  ScoringSection.inputs_mapWeights _ _

/-- The page and the record after a weight of a live category changes. -/
def changedWeight (state : Recorded) (element : ElementId)
    (category : ℕ) (change : WeightInput → WeightInput) : Recorded where
  page :=
    state.page.changeAnswer element
      (AnswerItem.changeWeight category change)
  entered :=
    Function.update state.entered (element, category)
      (change
        (.holding category (state.entered (element, category)))).held

theorem entered_changedWeight_self (element : ElementId) (category : ℕ)
    (change : WeightInput → WeightInput) :
    (state.changedWeight element category change).entered
        (element, category) =
      (change
        (.holding category (state.entered (element, category)))).held :=
  Function.update_self _ _ _

theorem entered_changedWeight_of_ne {element : ElementId} {category : ℕ}
    (change : WeightInput → WeightInput) {place : ElementId × ℕ}
    (other : place ≠ (element, category)) :
    (state.changedWeight element category change).entered place =
      state.entered place :=
  Function.update_of_ne other _ _

theorem offered_changedWeight
    (categorical : state.page.scoringMode = .categorical)
    {change : WeightInput → WeightInput} (holds : KeepsHolding change)
    (element : ElementId) (category : ℕ) (other : ElementId) :
    (state.changedWeight element category change).offered other =
      if other = element then
        (state.offered other).map fun input =>
          if input.categoryIndex = category then change input else input
      else
        state.offered other := by
  have after :
      (state.changedWeight element category change).page.scoringMode =
        .categorical :=
    categorical
  rw [offered_of_categorical after, offered_of_categorical categorical]
  split_ifs with own
  · subst own
    rw [List.map_map]
    apply List.map_congr_left
    intro index _
    rw [Function.comp_apply]
    by_cases changed : index = category
    · subst changed
      rw [entered_changedWeight_self, ← holds]
      exact (if_pos rfl).symm
    · have apart : (other, index) ≠ (other, category) :=
        fun same => changed (congrArg Prod.snd same)
      rw [entered_changedWeight_of_ne change apart]
      exact (if_neg changed).symm
  · apply List.map_congr_left
    intro index _
    have apart : (other, index) ≠ (element, category) :=
      fun same => own (congrArg Prod.fst same)
    rw [entered_changedWeight_of_ne change apart]

theorem InStep.changedWeight (inStep : state.InStep)
    {change : WeightInput → WeightInput}
    (keeps : KeepsCategory change) (holds : KeepsHolding change)
    {element : ElementId} {category : ℕ}
    (categorical : state.page.scoringMode = .categorical)
    (isCategory : category ∈ state.page.categoryIndices)
    (isElement : element < state.page.elementCounter) :
    (state.changedWeight element category change).InStep where
  indexed :=
    inStep.indexed.changeAnswer (unmoved_changeWeight keeps category)
      element
  recordBelow := by
    intro other index isEntered
    by_cases same : (other, index) = (element, category)
    · injection same with isOwn isIndex
      subst isOwn isIndex
      rcases List.mem_map.mp isCategory with ⟨live, isLive, rfl⟩
      exact ⟨isElement, inStep.indexed.categoriesBelow live isLive⟩
    · rw [entered_changedWeight_of_ne change same] at isEntered
      exact inStep.recordBelow other index isEntered
  fits := by
    intro question member answer isAnswer
    rcases List.mem_map.mp member with ⟨before, isBefore, rfl⟩
    rcases List.mem_map.mp isAnswer with ⟨old, isOld, rfl⟩
    have fits := inStep.fits before isBefore old isOld
    split_ifs with own
    · refine
        { below := fits.below
          offers := ?_
          untouched := fun percentile =>
            nomatch categorical.symm.trans percentile }
      rw [weightInputs_changeWeight, fits.offers]
      exact
        ((offered_changedWeight categorical holds element category
          old.element).trans (if_pos own)).symm
    · refine
        { below := fits.below
          offers := ?_
          untouched := fun percentile =>
            nomatch categorical.symm.trans percentile }
      rw [fits.offers]
      exact
        ((offered_changedWeight categorical holds element category
          old.element).trans (if_neg own)).symm

/-- The record follows a change of a weight input. -/
theorem InStep.changeWeight (inStep : state.InStep)
    {change : WeightInput → WeightInput}
    (keeps : KeepsCategory change) (holds : KeepsHolding change)
    (element : ElementId) (category : ℕ) :
    Recorded.InStep
      ⟨state.page.changeAnswer element
          (AnswerItem.changeWeight category change),
        recordHeld state.page element category change state.entered⟩ := by
  rw [recordHeld]
  cases found : state.page.weightInput? element category with
  | none =>
      apply
        inStep.mapQuestions
          (inStep.indexed.changeAnswer
            (unmoved_changeWeight keeps category) element)
      intro question isQuestion answer member
      rcases List.mem_map.mp member with ⟨before, isBefore, rfl⟩
      have fits := inStep.fits question isQuestion before isBefore
      split_ifs with own
      · have others :=
          inStep.weightInput?_none found
            (List.mem_flatMap.mpr ⟨question, isQuestion, isBefore⟩) own
        refine { fits with offers := ?_ }
        rw [weightInputs_changeWeight,
          List.map_congr_left fun input isInput =>
            if_neg (others input isInput), List.map_id']
        exact fits.offers
      · exact fits
  | some input =>
      rcases inStep.weightInput?_some found with
        ⟨categorical, isCategory, isElement, rfl⟩
      exact
        inStep.changedWeight keeps holds categorical isCategory isElement

/-! ## Every step that keeps weights -/

theorem InStep.unentered (inStep : state.InStep)
    (untouched :
      ∀ question ∈ state.page.questions, ∀ answer ∈ question.answers,
        ∀ category ∈ state.page.categoryIndices,
          state.entered (answer.element, category) = none) :
    state.Unentered where
  toBounded := inStep.toBounded
  below := fun question isQuestion answer isAnswer =>
    (inStep.fits question isQuestion answer isAnswer).below
  untouched := untouched

theorem InStep.addCategory (inStep : state.InStep)
    (additions :
      state.page.scoringMode = .categorical → state.page.answers = []) :
    Recorded.InStep ⟨addCategory state.page, state.entered⟩ where
  toBounded := inStep.toBounded.addCategory
  fits := by
    intro question isQuestion answer isAnswer
    have fits := inStep.fits question isQuestion answer isAnswer
    cases mode : state.page.scoringMode with
    | categorical =>
        have member : answer ∈ state.page.answers :=
          List.mem_flatMap.mpr ⟨question, isQuestion, isAnswer⟩
        rw [additions mode] at member
        cases member
    | percentile =>
        have after :
            (AssessmentBuilder.addCategory state.page).scoringMode =
              .percentile := mode
        have unentered :=
          (inStep.unentered fun other isOther answer isAnswer =>
            (inStep.fits other isOther answer isAnswer).untouched
              mode).addCategory
        exact
          { below := fits.below
            offers := by
              rw [fits.offers, offered_of_percentile mode]
              exact (@offered_of_percentile ⟨_, _⟩ after _).symm
            untouched := fun _ =>
              unentered.untouched question isQuestion answer isAnswer }

theorem InStep.appendQuestion (inStep : state.InStep) :
    Recorded.InStep ⟨appendQuestion state.page, state.entered⟩ where
  indexed := inStep.indexed.appendQuestion
  recordBelow := inStep.recordBelow
  fits := by
    intro question member answer isAnswer
    rcases List.mem_append.mp member with old | new
    · exact
        (inStep.fits question old answer isAnswer).transfer rfl rfl le_rfl
    · rw [List.mem_singleton] at new
      rw [new] at isAnswer
      cases isAnswer

theorem InStep.addAnswer (inStep : state.InStep) (questionIndex : ℕ) :
    Recorded.InStep
      ⟨addAnswer questionIndex state.page, state.entered⟩ where
  indexed := inStep.indexed.addAnswer questionIndex
  recordBelow := fun element category isEntered =>
    (inStep.recordBelow element category isEntered).imp_left
      Nat.lt_succ_of_lt
  fits := by
    intro question member answer isAnswer
    rcases List.mem_map.mp member with ⟨before, isBefore, rfl⟩
    have keeps (old : AnswerItem) (isOld : old ∈ before.answers) :
        Recorded.Fits
          ⟨AssessmentBuilder.addAnswer questionIndex state.page,
            state.entered⟩ old :=
      (inStep.fits before isBefore old isOld).transfer rfl rfl
        (Nat.le_succ _)
    split_ifs at isAnswer
    · rcases List.mem_append.mp isAnswer with old | new
      · exact keeps answer old
      · rw [List.mem_singleton] at new
        rw [new]
        apply
          @fits_updateAnswerScoring
            ⟨AssessmentBuilder.addAnswer questionIndex state.page,
              state.entered⟩
        · exact Nat.lt_succ_self _
        · intro category _
          by_contra isEntered
          exact
            lt_irrefl _
              (inStep.recordBelow state.page.elementCounter category
                isEntered).1
    · exact keeps answer isAnswer

theorem InStep.addQuestion (inStep : state.InStep) :
    Recorded.InStep ⟨addQuestion state.page, state.entered⟩ :=
  (inStep.appendQuestion.addAnswer _).addAnswer _

theorem InStep.removeQuestion (inStep : state.InStep) (index : ℕ) :
    Recorded.InStep ⟨removeQuestion index state.page, state.entered⟩ where
  indexed := inStep.indexed.removeQuestion index
  recordBelow := inStep.recordBelow
  fits := by
    intro question member answer isAnswer
    rcases mem_removeQuestion member with ⟨before, isBefore, _, same⟩
    rw [← same] at isAnswer
    exact
      (inStep.fits before isBefore answer isAnswer).transfer rfl rfl le_rfl

theorem InStep.removeCategory (inStep : state.InStep) {index : ℕ}
    (ticked :
      ∀ answer ∈ state.page.answers, ∀ input ∈ answer.weightInputs,
        input.checked = true → input.categoryIndex = index) :
    Recorded.InStep
      ⟨removeCategory index state.page, state.entered⟩ := by
  have remaining :
      Recorded.Unentered
        ⟨{ state.page with
            categories :=
              state.page.categories.filter fun category =>
                category.index ≠ index }, state.entered⟩ :=
    { indexed := inStep.indexed.filterCategories _
      recordBelow := inStep.recordBelow
      below := fun question isQuestion answer isAnswer =>
        (inStep.fits question isQuestion answer isAnswer).below
      untouched := by
        intro question isQuestion answer isAnswer category isCategory
        rcases List.mem_map.mp isCategory with ⟨live, isLive, rfl⟩
        rw [List.mem_filter, decide_eq_true_eq] at isLive
        apply
          (inStep.fits question isQuestion answer
            isAnswer).entered_eq_none (List.mem_map_of_mem isLive.1)
        intro input isInput isTicked same
        have isAnswerOfPage : answer ∈ state.page.answers :=
          List.mem_flatMap.mpr ⟨question, isQuestion, isAnswer⟩
        exact
          isLive.2
            (same.symm.trans
              (ticked answer isAnswerOfPage input isInput isTicked)) }
  exact remaining.updateAllQuestions

theorem InStep.selectMode (inStep : state.InStep) (mode : ScoringMode)
    (unticked :
      ∀ answer ∈ state.page.answers, ∀ input ∈ answer.weightInputs,
        input.checked ≠ true) :
    Recorded.InStep
      ⟨updateScoringMode { state.page with scoringMode := mode },
        state.entered⟩ := by
  have unentered :=
    inStep.unentered fun question isQuestion answer isAnswer category
        isCategory =>
      (inStep.fits question isQuestion answer isAnswer).entered_eq_none
        isCategory fun input isInput isTicked =>
          absurd isTicked
            (unticked answer
              (List.mem_flatMap.mpr ⟨question, isQuestion, isAnswer⟩)
              input isInput)
  have selected :
      Recorded.Unentered
        ⟨{ state.page with scoringMode := mode }, state.entered⟩ :=
    { unentered with indexed := { unentered.indexed with } }
  exact selected.updateScoringMode

theorem InStep.changeType (inStep : state.InStep) {index : ℕ}
    {questionType : QuestionType}
    (unticked :
      ∀ question ∈ state.page.questions, question.index = index →
        ∀ answer ∈ question.answers, ∀ input ∈ answer.weightInputs,
          input.checked ≠ true) :
    Recorded.InStep
      ⟨changeType index questionType state.page, state.entered⟩ := by
  apply inStep.mapQuestions (inStep.indexed.changeType index questionType)
  intro question isQuestion answer member
  split_ifs at member with own
  · rcases List.mem_map.mp member with ⟨before, isBefore, rfl⟩
    have fits := inStep.fits question isQuestion before isBefore
    apply fits_updateAnswerScoring fits.below
    intro category isCategory
    apply fits.entered_eq_none isCategory
    intro input isInput isTicked
    exact
      absurd isTicked
        (unticked question isQuestion own before isBefore input isInput)
  · exact inStep.fits question isQuestion answer member

/-- An answer in which only other inputs change still fits. -/
theorem InStep.changeAnswer (inStep : state.InStep)
    {change : AnswerItem → AnswerItem} {element : ElementId}
    (indexed : (state.page.changeAnswer element change).Indexed)
    (sameElement : ∀ answer, (change answer).element = answer.element)
    (sameInputs :
      ∀ answer, (change answer).weightInputs = answer.weightInputs) :
    Recorded.InStep
      ⟨state.page.changeAnswer element change, state.entered⟩ := by
  apply inStep.mapQuestions indexed
  intro question isQuestion answer member
  rcases List.mem_map.mp member with ⟨before, isBefore, rfl⟩
  have fits := inStep.fits question isQuestion before isBefore
  split_ifs
  · constructor
    · rw [sameElement]
      exact fits.below
    · rw [sameElement, sameInputs]
      exact fits.offers
    · rw [sameElement]
      exact fits.untouched
  · exact fits

/-- Every step that keeps the weights keeps the inputs in step. -/
theorem InStep.step (inStep : state.InStep) {event : Event}
    (keeps : KeepsWeights state.page event) :
    (state.step event).InStep := by
  have indexed := inStep.indexed.step event
  rcases keeps with ⟨_, additions, ticked⟩
  cases event with
  | selectMode mode =>
      rw [Recorded.step, Page.step]
      rw [Page.rerendered] at ticked
      split_ifs at ticked ⊢
      · exact inStep
      · apply inStep.selectMode mode
        intro answer isAnswer input isInput isTicked
        cases ticked answer isAnswer input isInput isTicked
  | addCategory => exact inStep.addCategory (additions rfl)
  | removeCategory index =>
      rw [Recorded.step, Page.step]
      rw [Page.rerendered] at ticked
      split_ifs at ticked ⊢
      · apply inStep.removeCategory
        intro answer isAnswer input isInput isTicked
        injection ticked answer isAnswer input isInput isTicked with same
        exact same.symm
      · exact inStep
  | addQuestion => exact inStep.addQuestion
  | removeQuestion index =>
      rw [Recorded.step, Page.step]
      split_ifs
      · exact inStep.removeQuestion index
      · exact inStep
  | changeType index questionType =>
      rw [Recorded.step, Page.step]
      rw [Page.rerendered] at ticked
      split_ifs at ticked ⊢
      · apply inStep.changeType
        intro question isQuestion own answer isAnswer input isInput
          isTicked
        have isOwn :
            answer ∈ (state.page.questions.filter fun question =>
              question.index = index).flatMap QuestionItem.answers :=
          List.mem_flatMap.mpr
            ⟨question,
              List.mem_filter.mpr ⟨isQuestion, decide_eq_true own⟩,
              isAnswer⟩
        cases ticked answer isOwn input isInput isTicked
      · exact inStep
  | addAnswer questionIndex => exact inStep.addAnswer questionIndex
  | removeAnswer element =>
      apply inStep.mapQuestions indexed
      intro question isQuestion answer member
      exact
        inStep.fits question isQuestion answer (List.mem_filter.mp member).1
  | enterCategory index field text =>
      exact
        { indexed := indexed
          recordBelow := inStep.recordBelow
          fits := fun question isQuestion answer isAnswer =>
            (inStep.fits question isQuestion answer isAnswer).transfer rfl
              (map_index_enterCategory index field text state.page)
              le_rfl }
  | enterQuestion index field text =>
      apply inStep.mapQuestions indexed
      intro question isQuestion answer member
      apply inStep.fits question isQuestion answer
      split_ifs at member
      · rw [QuestionItem.answers_enter] at member
        exact member
      · exact member
  | enterAnswer element field text =>
      apply inStep.changeAnswer indexed
      · intro answer
        cases field <;> rfl
      · intro answer
        exact answer.weightInputs_enter text field
  | toggleWeight element category =>
      exact
        inStep.changeWeight keepsCategory_toggle keepsHolding_toggle
          element category
  | enterWeight element category text =>
      exact
        inStep.changeWeight (keepsCategory_enter text)
          (keepsHolding_enter text) element category

/-- The loaded page has no answers. -/
theorem inStep_load (languages : List LanguageId) (mode : ScoringMode) :
    (Recorded.load languages mode).InStep := by
  apply @Unentered.updateScoringMode
    ⟨{ scoringMode := mode
       languages := languages
       categoryCounter := 0
       questionCounter := 0
       elementCounter := 0
       categories := []
       questions := [] }, fun _ => none⟩
  exact
    { indexed := Page.indexed_of_empty rfl rfl
      recordBelow := fun _ _ isEntered => absurd rfl isEntered
      below := nofun
      untouched := nofun }

/--
When every step of a run keeps the weights, the weight inputs of the page
follow its categories and what was entered.
-/
theorem weights_follow_categories
    (languages : List LanguageId) (mode : ScoringMode)
    (events : List Event)
    (keeps :
      Throughout Recorded.step
        (fun state event => KeepsWeights state.page event)
        (Recorded.load languages mode) events)
    (categorical :
      ((Recorded.load languages mode).run events).page.scoringMode =
        .categorical) :
    ((Recorded.load languages mode).run events).FollowsCategories := by
  have inStep :
      ((Recorded.load languages mode).run events).InStep :=
    invariant_of_throughout (motive := InStep)
      (fun _ _ invariant keeps => invariant.step keeps)
      (inStep_load languages mode) keeps
  exact inStep.follows categorical

/-- A third category comes before the answers, and goes with its weight. -/
def removedCategory : List Event :=
  [.addCategory, .enterCategory 0 .name "Calm < bold", .addQuestion,
    .toggleWeight 0 2, .enterWeight 0 2 "2.5", .removeCategory 2,
    .toggleWeight 1 0, .addAnswer 0]

theorem weights_follow_categories_removedCategory :
    ((Recorded.load [1] .categorical).run
      removedCategory).FollowsCategories :=
  weights_follow_categories [1] .categorical removedCategory (by decide)
    (by decide)

/-- A category that comes after the answers. -/
def lateCategory : List Event :=
  [.addQuestion, .addCategory]

/-- A weight for one category is entered before another one is removed. -/
def lostWeight : List Event :=
  [.addQuestion, .toggleWeight 0 0, .enterWeight 0 0 "2.5",
    .removeCategory 1]

/--
The answers offer no input for a category that comes after them, and the
removal of one category clears the weights of another.
-/
theorem weights_do_not_follow :
    ¬ ((Recorded.load [1] .categorical).run
        lateCategory).FollowsCategories ∧
      ¬ ((Recorded.load [1] .categorical).run
        lostWeight).FollowsCategories := by
  constructor
  · intro follows
    have one := follows.one
    revert one
    decide
  · intro follows
    have present := follows.present
    revert present
    decide

end Recorded

end SultanPass.AssessmentBuilder
