import SultanPass.BuilderIndices
import SultanPass.Library.GuardedRun

/-!
# What the builder shows and what it submits

`Page.shown` is the nested array of the live categories, questions and
answers of a page.  Its form is decoded to just that array as long as no two
live answers of a question have the same index (`decode_submittedForm`).

An answer's index is the number of answers at the time it was added, so a
removal lets a later addition repeat an index.  `submits_what_it_shows`
gives the condition on the steps of a run under which this never happens,
and `answers_collide` a page where it does.
-/

namespace SultanPass.AssessmentBuilder

open SultanPass.Library
open SultanPass.Library.FormData

/-! ## What a page shows -/

def translationEntries (inputs : List (List (String × String))) :
    List (String × Value) :=
  group "translations"
    (inputs.zipIdx.map fun input =>
      (input.2.repr, .array (textEntries input.1)))

def CategoryItem.entries (category : CategoryItem) :
    List (String × Value) :=
  textEntries
      [("name", category.name),
        ("color", category.color),
        ("description", category.description)] ++
    translationEntries
      (category.translations.map CategoryTranslation.texts) ++
    textEntries [("order", category.order.repr)]

/-- The weights of an answer are those of its enabled inputs. -/
def ScoringSection.entries : ScoringSection → List (String × Value)
  | .empty => []
  | .weights inputs =>
      group "categories"
        ((inputs.filter fun input => !input.disabled).map fun input =>
          (input.categoryIndex.repr,
            .array (textEntries [("weight", input.value)])))
  | .scoreValue value => textEntries [("score_value", value)]

def AnswerItem.entries (answer : AnswerItem) : List (String × Value) :=
  textEntries
      [("order", answer.order.repr), ("answer_text", answer.answerText)] ++
    translationEntries
      (answer.translations.map (TextTranslation.texts "answer_text")) ++
    answer.scoringSection.entries

def QuestionItem.entries (question : QuestionItem) :
    List (String × Value) :=
  textEntries
      [("order", question.order.repr),
        ("question_type", questionTypeValue question.questionType),
        ("question_text", question.questionText)] ++
    translationEntries
      (question.translations.map (TextTranslation.texts "question_text")) ++
    textEntries [("max_score", question.maxScore)] ++
    group "answers"
      (question.answers.map fun answer =>
        (answer.index.repr, .array answer.entries))

/-- The live categories and questions, with all that they hold. -/
def Page.shown (page : Page) : List (String × Value) :=
  group "categories"
      (page.categories.map fun category =>
        (category.index.repr, .array category.entries)) ++
    group "questions"
      (page.questions.map fun question =>
        (question.index.repr, .array question.entries))

/-! ## Decoding the form of a page -/

theorem builds_translations {inputs : List (List (String × String))}
    (names : List String) (nonempty : names ≠ [])
    (distinct : names.Nodup) (free : ∀ key ∈ names, BracketFree key)
    (named : ∀ input ∈ inputs, input.map Prod.fst = names) :
    Builds ["translations"] (translationFields inputs)
      (translationEntries inputs) := by
  have positions :
      inputs.zipIdx.map (fun input => input.2.repr) =
        (List.range' 0 inputs.length).map Nat.repr := by
    rw [← List.zipIdx_map_snd 0 inputs, List.map_map]
    rfl
  refine Builds.under (Builds.items names ?_ ?_ ?_ ?_) (by decide)
  · rw [positions]
    exact List.Nodup.map repr_injective List.nodup_range'
  · intro input _
    exact bracketFree_repr _
  · intro input member
    exact
      Builds.texts names (named input.1 (List.fst_mem_of_mem_zipIdx member))
        distinct free
  · intro input member empty
    have isInput := named input.1 (List.fst_mem_of_mem_zipIdx member)
    rw [textEntries, List.map_eq_nil_iff] at empty
    rw [empty] at isInput
    exact nonempty isInput.symm

theorem builds_textTranslations (key : String)
    (distinct : ["language_id", key].Nodup) (free : BracketFree key)
    (translations : List TextTranslation) :
    Builds ["translations"]
      (translationFields (translations.map (TextTranslation.texts key)))
      (translationEntries
        (translations.map (TextTranslation.texts key))) := by
  apply builds_translations _ (List.cons_ne_nil _ _) distinct
  · rw [List.forall_mem_cons, List.forall_mem_singleton]
    exact ⟨by decide, free⟩
  · intro input member
    rcases List.mem_map.mp member with ⟨translation, _, rfl⟩
    rfl

theorem builds_category (category : CategoryItem) :
    Builds
      (["name", "color", "description"] ++ ["translations"] ++ ["order"])
      category.fields category.entries := by
  have translations :
      Builds ["translations"]
        (translationFields
          (category.translations.map CategoryTranslation.texts))
        (translationEntries
          (category.translations.map CategoryTranslation.texts)) := by
    apply
      builds_translations ["language_id", "name", "description"]
        (by decide) (by decide) (by decide)
    intro input member
    rcases List.mem_map.mp member with ⟨translation, _, rfl⟩
    rfl
  have texts :
      Builds ["name", "color", "description"]
        (FormData.texts
          [("name", category.name),
            ("color", category.color),
            ("description", category.description)]) _ :=
    Builds.texts _ rfl (by decide) (by decide)
  have order :
      Builds ["order"]
        (FormData.texts [("order", category.order.repr)]) _ :=
    Builds.texts _ rfl (by decide) (by decide)
  exact (texts.append translations (by decide)).append order (by decide)

theorem builds_scoring {scoring : ScoringSection}
    (distinct : scoring.DistinctInputs) :
    Builds ["categories", "score_value"] scoring.fields
      scoring.entries := by
  cases scoring with
  | empty => exact Builds.nil _
  | weights inputs =>
      apply Builds.mono _ (by decide : ∀ key ∈ ["categories"], _)
      refine
        Builds.under (Builds.items ["weight"] ?_ ?_ ?_ ?_) (by decide)
      · have submitted := distinct.sublist
          (List.filter_sublist.map WeightInput.categoryIndex :
            ((inputs.filter fun input => !input.disabled).map
              WeightInput.categoryIndex).Sublist _)
        have keys := submitted.map repr_injective
        rw [List.map_map] at keys
        exact keys
      · intro input _
        exact bracketFree_repr _
      · intro input _
        exact Builds.texts ["weight"] rfl (by decide) (by decide)
      · intro input _
        exact List.cons_ne_nil _ _
  | scoreValue value =>
      exact
        (Builds.texts ["score_value"] rfl (by decide) (by decide)).mono
          (by decide)

theorem builds_answer {answer : AnswerItem}
    (distinct : answer.scoringSection.DistinctInputs) :
    Builds
      (["order", "answer_text"] ++ ["translations"] ++
        ["categories", "score_value"])
      answer.fields answer.entries := by
  have texts :
      Builds ["order", "answer_text"]
        (FormData.texts
          [("order", answer.order.repr),
            ("answer_text", answer.answerText)]) _ :=
    Builds.texts _ rfl (by decide) (by decide)
  have translations :=
    builds_textTranslations "answer_text" (by decide) (by decide)
      answer.translations
  exact
    (texts.append translations (by decide)).append
      (builds_scoring distinct) (by decide)

/-- The answers of a question have different indices. -/
def QuestionItem.DistinctAnswers (question : QuestionItem) : Prop :=
  (question.answers.map AnswerItem.index).Nodup

theorem builds_question {question : QuestionItem}
    (distinct : question.DistinctAnswers)
    (inputs :
      ∀ answer ∈ question.answers,
        answer.scoringSection.DistinctInputs) :
    Builds
      (["order", "question_type", "question_text"] ++
        ["translations"] ++ ["max_score"] ++ ["answers"])
      question.fields question.entries := by
  have texts :
      Builds ["order", "question_type", "question_text"]
        (FormData.texts
          [("order", question.order.repr),
            ("question_type", questionTypeValue question.questionType),
            ("question_text", question.questionText)]) _ :=
    Builds.texts _ rfl (by decide) (by decide)
  have translations :=
    builds_textTranslations "question_text" (by decide) (by decide)
      question.translations
  have maxScore :
      Builds ["max_score"]
        (FormData.texts [("max_score", question.maxScore)]) _ :=
    Builds.texts _ rfl (by decide) (by decide)
  have keys := distinct.map repr_injective
  rw [List.map_map] at keys
  have answers :=
    (Builds.items _ keys (fun _ _ => bracketFree_repr _)
      (fun answer member => builds_answer (inputs answer member))
      (fun _ _ => List.cons_ne_nil _ _)).under
        (by decide : BracketFree "answers")
  exact
    ((texts.append translations (by decide)).append maxScore
      (by decide)).append answers (by decide)

/-! ## Pages with different indices -/

def Page.DistinctAnswers (page : Page) : Prop :=
  ∀ question ∈ page.questions, question.DistinctAnswers

/-- The question index and answer index of each live answer. -/
def Page.answerPositions (page : Page) : List (ℕ × ℕ) :=
  page.questions.flatMap fun question =>
    question.answers.map fun answer => (question.index, answer.index)

/-- A page whose answers have different indices submits what it shows. -/
theorem decode_submittedForm {page : Page}
    (indexed : page.Indexed) (distinct : page.DistinctAnswers) :
    decode page.submittedForm = .array page.shown := by
  have categoryKeys := indexed.categories.map repr_injective
  have questionKeys := indexed.questions.map repr_injective
  rw [List.map_map] at categoryKeys questionKeys
  have categories :=
    (Builds.items _ categoryKeys (fun _ _ => bracketFree_repr _)
      (fun category _ => builds_category category)
      (fun _ _ => List.cons_ne_nil _ _)).under
        (by decide : BracketFree "categories")
  have questions :=
    (Builds.items _ questionKeys (fun _ _ => bracketFree_repr _)
      (fun question member =>
        builds_question (distinct question member)
          (indexed.inputs question member))
      (fun _ _ => List.cons_ne_nil _ _)).under
        (by decide : BracketFree "questions")
  exact decode_of_builds (categories.append questions (by decide))

theorem nodup_answerPositions_iff {page : Page}
    (indexed : page.Indexed) :
    page.answerPositions.Nodup ↔ page.DistinctAnswers := by
  rw [Page.answerPositions, List.nodup_flatMap]
  constructor
  · intro positions question member
    have own := positions.1 question member
    rw [← Function.comp_def (Prod.mk question.index), ← List.map_map]
      at own
    exact own.of_map _
  · intro distinct
    constructor
    · intro question member
      have keys := (distinct question member).map
        (Prod.mk_right_injective question.index)
      rw [List.map_map] at keys
      exact keys
    · apply (List.pairwise_map.mp indexed.questions).imp
      intro first second different position inFirst inSecond
      rcases List.mem_map.mp inFirst with ⟨_, _, rfl⟩
      rcases List.mem_map.mp inSecond with ⟨_, _, equal⟩
      exact different (congrArg Prod.fst equal).symm

theorem Page.DistinctAnswers.mapQuestions {page : Page}
    (distinct : page.DistinctAnswers)
    {change : QuestionItem → QuestionItem}
    (answers :
      ∀ question ∈ page.questions,
        ((change question).answers.map AnswerItem.index).Sublist
          (question.answers.map AnswerItem.index)) :
    (page.mapQuestions change).DistinctAnswers := by
  intro question member
  rcases List.mem_map.mp member with ⟨before, isBefore, rfl⟩
  exact (distinct before isBefore).sublist (answers before isBefore)

/-! ## Additions that keep the answers apart -/

/-- The question to which an event adds an answer. -/
def Event.answeredQuestion : Event → Option ℕ
  | .addAnswer questionIndex => some questionIndex
  | _ => none

/--
An answer is added to a question of which no live answer has the index that
the new one gets, the present number of its answers.
-/
def AddsNewIndex (page : Page) (event : Event) : Prop :=
  ∀ questionIndex ∈ event.answeredQuestion,
    ∀ question ∈ page.questions, question.index = questionIndex →
      ∀ answer ∈ question.answers, answer.index ≠ question.answers.length

instance (page : Page) (event : Event) :
    Decidable (AddsNewIndex page event) :=
  inferInstanceAs (Decidable (∀ questionIndex ∈ _, ∀ question ∈ _, _ → _))

/--
The condition on a step: it adds answers under new indices only, and it
pastes no markup, which could add inputs to the page or swallow some.
-/
structure KeepsInputs (page : Page) (event : Event) : Prop where
  adds : AddsNewIndex page event
  pastes : PastesText page event

instance (page : Page) (event : Event) :
    Decidable (KeepsInputs page event) :=
  decidable_of_iff (AddsNewIndex page event ∧ PastesText page event)
    ⟨fun both => ⟨both.1, both.2⟩, fun keeps => ⟨keeps.1, keeps.2⟩⟩

namespace Page.DistinctAnswers

variable {page : Page} (distinct : page.DistinctAnswers)

include distinct

theorem updateAllQuestions :
    (AssessmentBuilder.updateAllQuestions page).DistinctAnswers := by
  apply distinct.mapQuestions
  intro question _
  change ((question.answers.map _).map _).Sublist _
  rw [List.map_map]
  exact List.Sublist.refl _

theorem updateScoringMode :
    (AssessmentBuilder.updateScoringMode page).DistinctAnswers := by
  apply Page.DistinctAnswers.updateAllQuestions
  rw [withDefaultCategories]
  split_ifs <;> exact distinct

theorem addAnswer {questionIndex : ℕ}
    (new :
      ∀ question ∈ page.questions, question.index = questionIndex →
        ∀ answer ∈ question.answers,
          answer.index ≠ question.answers.length) :
    (AssessmentBuilder.addAnswer questionIndex page).DistinctAnswers := by
  intro question member
  rcases List.mem_map.mp member with ⟨before, isBefore, rfl⟩
  have apart := distinct before isBefore
  split_ifs with own
  · exact nodup_map_concat apart (new before isBefore own)
  · exact apart

theorem addQuestion (indexed : page.Indexed) :
    (AssessmentBuilder.addQuestion page).DistinctAnswers := by
  have appended :
      (AssessmentBuilder.appendQuestion page).DistinctAnswers := by
    intro question member
    rcases List.mem_append.mp member with old | new
    · exact distinct question old
    · rw [List.mem_singleton] at new
      rw [new]
      exact List.nodup_nil
  have none :
      ∀ question ∈ (AssessmentBuilder.appendQuestion page).questions,
        question.index = page.questionCounter → question.answers = [] := by
    intro question member isNew
    rcases List.mem_append.mp member with old | new
    · exact absurd isNew (indexed.questionsBelow question old).ne
    · rw [List.mem_singleton] at new
      rw [new]
      rfl
  apply Page.DistinctAnswers.addAnswer
  · apply appended.addAnswer
    intro question member isNew answer isAnswer
    rw [none question member isNew] at isAnswer
    cases isAnswer
  · intro question member isNew answer isAnswer
    rcases List.mem_map.mp member with ⟨before, isBefore, rfl⟩
    split_ifs at isNew isAnswer ⊢ with own
    · rw [none before isBefore own] at isAnswer ⊢
      rw [List.nil_append, List.mem_singleton] at isAnswer
      rw [isAnswer, updateAnswerScoring, newAnswer,
        none before isBefore own]
      exact Nat.zero_ne_one
    · exact absurd isNew own

theorem changeAnswer {change : AnswerItem → AnswerItem}
    (unmoved : Unmoved change) (element : ElementId) :
    (page.changeAnswer element change).DistinctAnswers := by
  apply distinct.mapQuestions
  intro question _
  change ((question.answers.map _).map _).Sublist _
  rw [List.map_map]
  have same :
      (AnswerItem.index ∘ fun answer : AnswerItem =>
        if answer.element = element then change answer else answer) =
          AnswerItem.index := by
    funext answer
    rw [Function.comp_apply]
    split_ifs
    · exact unmoved.index answer
    · rfl
  rw [same]

theorem step (indexed : page.Indexed) {event : Event}
    (new : AddsNewIndex page event) :
    (page.step event).DistinctAnswers := by
  cases event with
  | selectMode mode =>
      rw [Page.step]
      split_ifs
      · exact distinct
      · exact Page.DistinctAnswers.updateScoringMode distinct
  | addCategory => exact distinct
  | removeCategory index =>
      rw [Page.step]
      split_ifs
      · exact Page.DistinctAnswers.updateAllQuestions distinct
      · exact distinct
  | addQuestion => exact distinct.addQuestion indexed
  | removeQuestion index =>
      rw [Page.step]
      split_ifs
      · intro question member
        rcases mem_removeQuestion member with ⟨before, isBefore, _, same⟩
        rw [QuestionItem.DistinctAnswers, ← same]
        exact distinct before isBefore
      · exact distinct
  | changeType index questionType =>
      rw [Page.step]
      split_ifs
      · apply distinct.mapQuestions
        intro question _
        split_ifs
        · change ((question.answers.map _).map _).Sublist _
          rw [List.map_map]
          exact List.Sublist.refl _
        · exact List.Sublist.refl _
      · exact distinct
  | addAnswer questionIndex =>
      exact distinct.addAnswer (new questionIndex rfl)
  | removeAnswer element =>
      apply distinct.mapQuestions
      intro question _
      exact List.filter_sublist.map _
  | enterCategory index field text => exact distinct
  | enterQuestion index field text =>
      apply distinct.mapQuestions
      intro question _
      split_ifs
      · rw [QuestionItem.answers_enter]
      · exact List.Sublist.refl _
  | enterAnswer element field text =>
      exact distinct.changeAnswer (unmoved_enter text field) element
  | toggleWeight element category =>
      exact
        distinct.changeAnswer
          (unmoved_changeWeight keepsCategory_toggle category) element
  | enterWeight element category text =>
      exact
        distinct.changeAnswer
          (unmoved_changeWeight (keepsCategory_enter text) category)
          element

end Page.DistinctAnswers

/-! ## Runs -/

theorem distinctAnswers_load
    (languages : List LanguageId) (mode : ScoringMode) :
    (load languages mode).DistinctAnswers := by
  apply Page.DistinctAnswers.updateScoringMode
  exact nofun

/-- Runs that keep the answers of each question apart. -/
theorem kept_of_throughout
    (languages : List LanguageId) (mode : ScoringMode)
    {events : List Event}
    (keeps :
      Throughout Page.step KeepsInputs (load languages mode) events) :
    ((load languages mode).run events).Indexed ∧
      ((load languages mode).run events).DistinctAnswers := by
  refine
    @invariant_of_throughout Page Event Page.step KeepsInputs
      (fun page => page.Indexed ∧ page.DistinctAnswers) ?_ _ _
      ⟨indexed_load languages mode, distinctAnswers_load _ _⟩ keeps
  intro page event invariant keeps
  exact ⟨invariant.1.step event, invariant.2.step invariant.1 keeps.adds⟩

/--
Whatever is added, removed, selected and entered: when every answer is added
under an index that no live answer of its question has, and no markup is
pasted as the name of a category, the positions of the live answers stay
different and the submitted form is decoded to what the page shows.
-/
theorem submits_what_it_shows
    (languages : List LanguageId) (mode : ScoringMode)
    (events : List Event)
    (keeps :
      Throughout Page.step KeepsInputs (load languages mode) events) :
    let page := (load languages mode).run events
    page.answerPositions.Nodup ∧
      decode page.submittedForm = .array page.shown := by
  have kept := kept_of_throughout languages mode keeps
  exact
    ⟨(nodup_answerPositions_iff kept.1).mpr kept.2,
      decode_submittedForm kept.1 kept.2⟩

/-- The last answer is removed, another one added, then the first removed. -/
def replacedAnswer : List Event :=
  [.addQuestion, .removeAnswer 1, .addAnswer 0,
    .enterAnswer 2 .answerText "Yes", .removeAnswer 0]

theorem submits_what_it_shows_replacedAnswer :
    ((load [1] .percentile).run replacedAnswer).answerPositions.Nodup ∧
      decode ((load [1] .percentile).run replacedAnswer).submittedForm =
        .array ((load [1] .percentile).run replacedAnswer).shown :=
  submits_what_it_shows [1] .percentile replacedAnswer (by decide)

/-- The first answer is removed before another one is added. -/
def collidingAnswers : List Event :=
  [.addQuestion, .enterQuestion 0 .questionText "Ready?",
    .enterQuestion 0 .maxScore "10", .removeAnswer 0, .addAnswer 0,
    .enterAnswer 1 .answerText "Yes", .enterAnswer 1 .scoreValue "10",
    .enterAnswer 2 .answerText "No", .enterAnswer 2 .scoreValue "0"]

/--
The form is sent, but the two live answers of its question have the same
position, and only one of them is in the decoded form.
-/
theorem answers_collide :
    let page := (load [1] .percentile).run collidingAnswers
    page.alert = none ∧
      ¬ page.answerPositions.Nodup ∧
      ((decode page.submittedForm).find?
          ["questions", "0", "answers"]).map
        (fun answers => answers.entries.length) = some 1 ∧
      decode page.submittedForm ≠ .array page.shown := by
  have decoded :
      ((decode ((load [1] .percentile).run
          collidingAnswers).submittedForm).find?
            ["questions", "0", "answers"]).map
        (fun answers => answers.entries.length) = some 1 := by
    decide +kernel
  refine ⟨by decide, by decide, decoded, ?_⟩
  intro equal
  rw [equal] at decoded
  exact absurd decoded (by decide +kernel)

end SultanPass.AssessmentBuilder
