import SultanPass.AuthoredRows
import SultanPass.Library.Ownership

/-!
# A created assessment is its payload

Under the foreign keys of the tables, the rows below a new assessment are
exactly those of its payload, and the rows below every other assessment stay
the same (`store_faithful`).  The foreign keys hold of every authored
catalogue (`foreignKeys_authored`).
-/

namespace SultanPass

open SultanPass.Library

namespace Catalogue

/-! ## The rows below a row -/

/-- `$question->answers()`. -/
def answersOf (catalogue : Catalogue) (id : QuestionId) :
    List AssessmentAnswer :=
  childrenOf AssessmentAnswer.questionId catalogue.answers id

/-- `$answer->score()`. -/
def scoresOf (catalogue : Catalogue) (id : AnswerId) :
    List AnswerScore :=
  childrenOf AnswerScore.answerId catalogue.answerScores id

/-- `$answer->categories()`. -/
def weightsOf (catalogue : Catalogue) (id : AnswerId) :
    List AnswerCategoryWeight :=
  childrenOf AnswerCategoryWeight.answerId
    catalogue.answerCategoryWeights id

/-- `$assessment->categories()`. -/
def categoriesOf (catalogue : Catalogue) (id : AssessmentId) :
    List AssessmentCategory :=
  childrenOf AssessmentCategory.assessmentId catalogue.categories id

/-- The foreign keys of the migrations. -/
structure ForeignKeys (catalogue : Catalogue) : Prop where
  categories :
    Owned AssessmentCategory.assessmentId catalogue.categories
      (catalogue.assessments.map Assessment.id)
  questions :
    Owned AssessmentQuestion.assessmentId catalogue.questions
      (catalogue.assessments.map Assessment.id)
  answers :
    Owned AssessmentAnswer.questionId catalogue.answers
      (catalogue.questions.map AssessmentQuestion.id)
  answerScores :
    Owned AnswerScore.answerId catalogue.answerScores
      (catalogue.answers.map AssessmentAnswer.id)
  answerCategoryWeights :
    Owned AnswerCategoryWeight.answerId catalogue.answerCategoryWeights
      (catalogue.answers.map AssessmentAnswer.id)

/-- What is below the rows of a catalogue is the same in another. -/
structure SameBelow (before after : Catalogue) : Prop where
  categories :
    ∀ id ∈ before.assessments.map Assessment.id,
      after.categoriesOf id = before.categoriesOf id
  questions :
    ∀ id ∈ before.assessments.map Assessment.id,
      after.questionsOf id = before.questionsOf id
  answers :
    ∀ id ∈ before.questions.map AssessmentQuestion.id,
      after.answersOf id = before.answersOf id
  scores :
    ∀ id ∈ before.answers.map AssessmentAnswer.id,
      after.scoresOf id = before.scoresOf id
  weights :
    ∀ id ∈ before.answers.map AssessmentAnswer.id,
      after.weightsOf id = before.weightsOf id

end Catalogue

namespace AssessmentController

open SultanPass.Catalogue

/-! ## Payload and catalogue -/

/-- An answer row and what is below it are those of the payload. -/
structure AuthoredAnswer (catalogue : Catalogue)
    (scoringMode : ScoringMode)
    (categoryIdMap : List (ArrayKey × CategoryId))
    (entry : ArrayKey × AnswerData) (row : AssessmentAnswer) :
    Prop where
  answerText : row.answerText = entry.2.answerText
  order : orderOr entry.2.order entry.1 = .ok row.order
  scores :
    catalogue.scoresOf row.id = scoreRows scoringMode row.id entry.2
  weights :
    catalogue.weightsOf row.id =
      weightRows scoringMode categoryIdMap row.id entry.2

/-- A question row and what is below it are those of the payload. -/
structure AuthoredQuestion (catalogue : Catalogue)
    (scoringMode : ScoringMode)
    (categoryIdMap : List (ArrayKey × CategoryId))
    (assessmentId : AssessmentId) (data : QuestionData)
    (row : AssessmentQuestion) : Prop where
  question : StoredQuestion assessmentId data row
  answers :
    List.Forall₂ (AuthoredAnswer catalogue scoringMode categoryIdMap)
      data.offered (catalogue.answersOf row.id)

/--
What is below an assessment is its payload.  The categories are listed with
the keys that the payload gives them.
-/
structure AuthoredAssessment (catalogue : Catalogue)
    (request : StoreRequest) (id : AssessmentId)
    (keyed : List KeyedCategory) : Prop where
  categoriesOf : catalogue.categoriesOf id = keyed.map Prod.snd
  categories :
    List.Forall₂
      (fun entry keyed =>
        keyed.1 = entry.1 ∧ StoredCategory id entry keyed.2)
      (categoryEntries request) keyed
  questions :
    List.Forall₂
      (AuthoredQuestion catalogue request.scoringMode
        (keyed.map KeyedCategory.idEntry) id)
      request.questions (catalogue.questionsOf id)
  questionIds :
    ((catalogue.questionsOf id).map AssessmentQuestion.id).Pairwise
      (· < ·)

/-! ## Owners in the tree -/

theorem owned_scoreRows
    (scoringMode : ScoringMode) (id : AnswerId) (data : AnswerData) :
    Owned AnswerScore.answerId (scoreRows scoringMode id data) [id] := by
  cases scoringMode with
  | percentile =>
      intro score member
      cases List.mem_singleton.mp member
      exact List.mem_singleton_self id
  | categorical => nofun

theorem weightRow?_answerId
    {categoryIdMap : List (ArrayKey × CategoryId)} {id : AnswerId}
    {entry : ArrayKey × Option ℚ≥0} {weight : AnswerCategoryWeight}
    (isRow : weightRow? categoryIdMap id entry = some weight) :
    weight.answerId = id := by
  rw [weightRow?] at isRow
  split at isRow
  · cases isRow
    rfl
  · cases isRow

theorem owned_weightRows
    (scoringMode : ScoringMode)
    (categoryIdMap : List (ArrayKey × CategoryId)) (id : AnswerId)
    (data : AnswerData) :
    Owned AnswerCategoryWeight.answerId
      (weightRows scoringMode categoryIdMap id data) [id] := by
  cases scoringMode with
  | percentile => nofun
  | categorical =>
      intro weight member
      rcases List.mem_filterMap.mp member with ⟨entry, _, isRow⟩
      rw [weightRow?_answerId isRow]
      exact List.mem_singleton_self id

section Tree

variable {before after : Catalogue} {request : StoreRequest}
  {rows : AssessmentRows}

abbrev QuestionRows.id (tree : QuestionRows) : QuestionId :=
  tree.question.id

abbrev AnswerRows.id (below : AnswerRows) : AnswerId :=
  below.answer.id

/-- The answers of a question, under the question. -/
def QuestionRows.answerRows (tree : QuestionRows) :
    List AssessmentAnswer :=
  tree.answers.map AnswerRows.answer

/-- All answers of an assessment with what is below them. -/
def AssessmentRows.answers (rows : AssessmentRows) :
    List AnswerRows :=
  rows.questions.flatMap QuestionRows.answers

theorem StoredRows.owned_categories
    (stored : StoredRows before request rows) :
    Owned AssessmentCategory.assessmentId
      (rows.categories.map Prod.snd) [before.nextAssessmentId] := by
  intro category member
  rcases List.mem_map.mp member with ⟨keyed, listed, rfl⟩
  rcases exists_entry_of_row stored.categories listed with
    ⟨entry, _, _, holds⟩
  exact List.mem_singleton.mpr holds.assessmentId

theorem StoredRows.owned_questions
    (stored : StoredRows before request rows) :
    Owned AssessmentQuestion.assessmentId
      (rows.questions.map QuestionRows.question)
      [before.nextAssessmentId] := by
  intro question member
  rcases exists_entry_of_row stored.questionRows member with
    ⟨data, _, holds⟩
  exact List.mem_singleton.mpr holds.assessmentId

theorem StoredRows.owned_answers
    (stored : StoredRows before request rows)
    (tree : QuestionRows) (listed : tree ∈ rows.questions) :
    Owned AssessmentAnswer.questionId tree.answerRows
      [tree.question.id] := by
  intro answer member
  rcases List.mem_map.mp member with ⟨below, under, rfl⟩
  rcases exists_entry_of_row stored.questions listed with
    ⟨data, _, question⟩
  rcases exists_entry_of_row question.answers under with
    ⟨entry, _, holds⟩
  exact List.mem_singleton.mpr holds.questionId

theorem StoredRows.exists_entry
    (stored : StoredRows before request rows)
    {below : AnswerRows} (listed : below ∈ rows.answers) :
    ∃ questionId entry,
      StoredAnswer request.scoringMode
        (rows.categories.map KeyedCategory.idEntry) questionId entry
        below := by
  rcases List.mem_flatMap.mp listed with ⟨tree, under, member⟩
  rcases exists_entry_of_row stored.questions under with
    ⟨data, _, question⟩
  rcases exists_entry_of_row question.answers member with
    ⟨entry, _, holds⟩
  exact ⟨tree.question.id, entry, holds⟩

theorem StoredRows.owned_scores
    (stored : StoredRows before request rows)
    (below : AnswerRows) (listed : below ∈ rows.answers) :
    Owned AnswerScore.answerId below.answerScores
      [below.answer.id] := by
  rcases stored.exists_entry listed with ⟨_, entry, holds⟩
  rw [holds.answerScores]
  exact owned_scoreRows _ _ _

theorem StoredRows.owned_weights
    (stored : StoredRows before request rows)
    (below : AnswerRows) (listed : below ∈ rows.answers) :
    Owned AnswerCategoryWeight.answerId below.answerCategoryWeights
      [below.answer.id] := by
  rcases stored.exists_entry listed with ⟨_, entry, holds⟩
  rw [holds.answerCategoryWeights]
  exact owned_weightRows _ _ _ _

/-! ## The tables after the request -/

/-- The tables of `after`, each as old rows and rows under their owners. -/
structure Grown (before after : Catalogue) (rows : AssessmentRows) :
    Prop where
  assessmentKeys :
    (before.assessments.map Assessment.id ++
      [rows.assessment].map Assessment.id).Nodup
  questionKeys :
    (before.questions.map AssessmentQuestion.id ++
      rows.questions.map QuestionRows.id).Nodup
  answerKeys :
    (before.answers.map AssessmentAnswer.id ++
      rows.answers.map AnswerRows.id).Nodup
  categories :
    after.categories =
      before.categories ++
        [rows.assessment].flatMap
          fun _ => rows.categories.map Prod.snd
  questions :
    after.questions =
      before.questions ++
        [rows.assessment].flatMap
          fun _ => rows.questions.map QuestionRows.question
  answers :
    after.answers =
      before.answers ++ rows.questions.flatMap QuestionRows.answerRows
  answerScores :
    after.answerScores =
      before.answerScores ++
        rows.answers.flatMap AnswerRows.answerScores
  answerCategoryWeights :
    after.answerCategoryWeights =
      before.answerCategoryWeights ++
        rows.answers.flatMap AnswerRows.answerCategoryWeights

theorem Adds.grown (adds : Adds before after rows.addition) :
    Grown before after rows where
  assessmentKeys := by
    rw [← List.map_append]
    exact adds.assessments ▸ after.assessmentKeys
  questionKeys := by
    have keys := after.questionKeys
    rw [adds.questions, List.map_append] at keys
    simpa [AssessmentRows.addition, Function.comp_def] using keys
  answerKeys := by
    have keys := after.answerKeys
    rw [adds.answers, List.map_append] at keys
    simpa [AssessmentRows.addition, AssessmentRows.answers,
      Function.comp_def] using keys
  categories := by
    rw [adds.categories, List.flatMap_singleton]
    rfl
  questions := by
    rw [adds.questions, List.flatMap_singleton]
    rfl
  answers := by
    rw [adds.answers]
    exact congrArg _ List.map_flatMap
  answerScores := adds.answerScores
  answerCategoryWeights := adds.answerCategoryWeights

theorem answerIds_of_adds (adds : Adds before after rows.addition) :
    after.answers.map AssessmentAnswer.id =
      before.answers.map AssessmentAnswer.id ++
        rows.answers.map AnswerRows.id := by
  rw [adds.answers, List.map_append]
  exact congrArg _ List.map_map

theorem StoredRows.assessment_id
    (stored : StoredRows before request rows) :
    rows.assessment.id = before.nextAssessmentId := by
  rw [stored.assessment]
  rfl

/-- The owner of everything directly below the new assessment. -/
theorem StoredRows.owned_by_assessment
    (stored : StoredRows before request rows) {Child : Type}
    {owner : Child → AssessmentId} {children : List Child}
    (owned : Owned owner children [before.nextAssessmentId]) :
    ∀ each ∈ [rows.assessment], Owned owner children [each.id] := by
  intro each member
  rw [List.mem_singleton.mp member, stored.assessment_id]
  exact owned

section Below

variable (foreignKeys : before.ForeignKeys)
  (grown : Grown before after rows)
  (stored : StoredRows before request rows)
include foreignKeys grown stored

theorem categoriesOf_new :
    after.categoriesOf before.nextAssessmentId =
      rows.categories.map Prod.snd := by
  rw [Catalogue.categoriesOf, grown.categories, ← stored.assessment_id]
  exact
    childrenOf_new_owner foreignKeys.categories grown.assessmentKeys
      (stored.owned_by_assessment stored.owned_categories)
      (List.mem_singleton_self _)

theorem questionsOf_new :
    after.questionsOf before.nextAssessmentId =
      rows.questions.map QuestionRows.question := by
  change
    childrenOf AssessmentQuestion.assessmentId after.questions _ = _
  rw [grown.questions, ← stored.assessment_id]
  exact
    childrenOf_new_owner foreignKeys.questions grown.assessmentKeys
      (stored.owned_by_assessment stored.owned_questions)
      (List.mem_singleton_self _)

theorem answersOf_new
    {tree : QuestionRows} (listed : tree ∈ rows.questions) :
    after.answersOf tree.question.id =
      tree.answers.map AnswerRows.answer := by
  rw [Catalogue.answersOf, grown.answers]
  exact
    childrenOf_new_owner foreignKeys.answers grown.questionKeys
      stored.owned_answers listed

theorem scoresOf_new
    {below : AnswerRows} (listed : below ∈ rows.answers) :
    after.scoresOf below.answer.id = below.answerScores := by
  rw [Catalogue.scoresOf, grown.answerScores]
  exact
    childrenOf_new_owner foreignKeys.answerScores grown.answerKeys
      stored.owned_scores listed

theorem weightsOf_new
    {below : AnswerRows} (listed : below ∈ rows.answers) :
    after.weightsOf below.answer.id = below.answerCategoryWeights := by
  rw [Catalogue.weightsOf, grown.answerCategoryWeights]
  exact
    childrenOf_new_owner foreignKeys.answerCategoryWeights
      grown.answerKeys stored.owned_weights listed

theorem authoredQuestion_new
    {tree : QuestionRows} (listed : tree ∈ rows.questions)
    {data : QuestionData}
    (holds :
      StoredQuestionRows request.scoringMode
        (rows.categories.map KeyedCategory.idEntry)
        before.nextAssessmentId data tree) :
    AuthoredQuestion after request.scoringMode
      (rows.categories.map KeyedCategory.idEntry)
      before.nextAssessmentId data tree.question where
  question := holds.question
  answers := by
    rw [answersOf_new foreignKeys grown stored listed,
      List.forall₂_map_right_iff]
    apply forall₂_of_mem holds.answers
    intro entry _ below under holds
    have belongs : below ∈ rows.answers :=
      List.mem_flatMap.mpr ⟨tree, listed, under⟩
    exact
      { answerText := holds.answerText
        order := holds.order
        scores :=
          (scoresOf_new foreignKeys grown stored belongs).trans
            holds.answerScores
        weights :=
          (weightsOf_new foreignKeys grown stored belongs).trans
            holds.answerCategoryWeights }

theorem authoredAssessment_new :
    AuthoredAssessment after request before.nextAssessmentId
      rows.categories where
  categoriesOf := categoriesOf_new foreignKeys grown stored
  categories := stored.categories
  questions := by
    rw [questionsOf_new foreignKeys grown stored,
      List.forall₂_map_right_iff]
    apply forall₂_of_mem stored.questions
    intro data _ tree listed holds
    exact authoredQuestion_new foreignKeys grown stored listed holds
  questionIds := by
    rw [questionsOf_new foreignKeys grown stored, List.map_map]
    exact List.pairwise_map.mpr stored.increasing

omit foreignKeys in
theorem sameBelow_of_grown : SameBelow before after where
  categories := by
    intro id listed
    rw [Catalogue.categoriesOf, grown.categories]
    exact
      childrenOf_old_owner grown.assessmentKeys
        (stored.owned_by_assessment stored.owned_categories) listed
  questions := by
    intro id listed
    change
      childrenOf AssessmentQuestion.assessmentId after.questions _ = _
    rw [grown.questions]
    exact
      childrenOf_old_owner grown.assessmentKeys
        (stored.owned_by_assessment stored.owned_questions) listed
  answers := by
    intro id listed
    rw [Catalogue.answersOf, grown.answers]
    exact
      childrenOf_old_owner grown.questionKeys stored.owned_answers
        listed
  scores := by
    intro id listed
    rw [Catalogue.scoresOf, grown.answerScores]
    exact
      childrenOf_old_owner grown.answerKeys stored.owned_scores listed
  weights := by
    intro id listed
    rw [Catalogue.weightsOf, grown.answerCategoryWeights]
    exact
      childrenOf_old_owner grown.answerKeys stored.owned_weights listed

theorem foreignKeys_of_adds
    (adds : Adds before after rows.addition) :
    after.ForeignKeys where
  categories := by
    rw [grown.categories, adds.assessments, List.map_append]
    exact
      owned_append foreignKeys.categories
        (owned_flatMap
          (stored.owned_by_assessment stored.owned_categories))
  questions := by
    rw [grown.questions, adds.assessments, List.map_append]
    exact
      owned_append foreignKeys.questions
        (owned_flatMap
          (stored.owned_by_assessment stored.owned_questions))
  answers := by
    have questions :
        after.questions.map AssessmentQuestion.id =
          before.questions.map AssessmentQuestion.id ++
            rows.questions.map QuestionRows.id := by
      rw [adds.questions, List.map_append]
      exact congrArg _ List.map_map
    rw [grown.answers, questions]
    exact
      owned_append foreignKeys.answers
        (owned_flatMap stored.owned_answers)
  answerScores := by
    rw [grown.answerScores, answerIds_of_adds adds]
    exact
      owned_append foreignKeys.answerScores
        (owned_flatMap stored.owned_scores)
  answerCategoryWeights := by
    rw [grown.answerCategoryWeights, answerIds_of_adds adds]
    exact
      owned_append foreignKeys.answerCategoryWeights
        (owned_flatMap stored.owned_weights)

end Below

end Tree

/-! ## Authored catalogues -/

theorem foreignKeys_ofUsers (users : List UserId) :
    (Catalogue.ofUsers users).ForeignKeys where
  categories := nofun
  questions := nofun
  answers := nofun
  answerScores := nofun
  answerCategoryWeights := nofun

theorem foreignKeys_afterStore
    {catalogue : Catalogue} (foreignKeys : catalogue.ForeignKeys)
    (request : StoreRequest) :
    (afterStore catalogue request).ForeignKeys := by
  rw [afterStore]
  cases returns : store catalogue request with
  | error error => exact foreignKeys
  | ok after =>
      rcases store_adds returns with ⟨rows, adds, stored⟩
      exact foreignKeys_of_adds foreignKeys adds.grown stored adds

/-- Authoring keeps the foreign keys. -/
theorem foreignKeys_authored
    (users : List UserId) (requests : List StoreRequest) :
    (authored users requests).ForeignKeys := by
  rw [authored]
  apply List.foldlRecOn requests afterStore
  · exact foreignKeys_ofUsers users
  · intro catalogue foreignKeys request _
    exact foreignKeys_afterStore foreignKeys request

/-- What each request keeps under the foreign keys, authoring keeps. -/
theorem authored_invariant
    (invariant : Catalogue → Prop) {users : List UserId}
    (start : invariant (Catalogue.ofUsers users))
    (keeps : ∀ catalogue, catalogue.ForeignKeys →
      invariant catalogue → ∀ request,
        invariant (afterStore catalogue request))
    (requests : List StoreRequest) :
    invariant (authored users requests) := by
  have both :
      (authored users requests).ForeignKeys ∧
        invariant (authored users requests) :=
    List.foldlRecOn (motive := fun catalogue =>
        catalogue.ForeignKeys ∧ invariant catalogue)
      requests afterStore
      ⟨foreignKeys_ofUsers users, start⟩
      fun catalogue holds request _ =>
        ⟨foreignKeys_afterStore holds.1 request,
          keeps catalogue holds.1 holds.2 request⟩
  exact both.2

/-! ## Weights -/

theorem mem_of_lookup_eq_some
    {keyed : List KeyedCategory} {key : ArrayKey} {id : CategoryId}
    (found : (keyed.map KeyedCategory.idEntry).lookup key = some id) :
    ∃ each ∈ keyed, each.1 = key ∧ each.2.id = id := by
  rcases List.lookup_eq_some_iff.mp found with ⟨before, after, split, _⟩
  have listed : (key, id) ∈ keyed.map KeyedCategory.idEntry := by
    rw [split]
    exact List.mem_append_right _ List.mem_cons_self
  rcases List.mem_map.mp listed with ⟨each, member, same⟩
  exact
    ⟨each, member, congrArg Prod.fst same, congrArg Prod.snd same⟩

/-- A stored weight links its answer to a category of the assessment. -/
theorem AuthoredAssessment.category_of_weight
    {catalogue : Catalogue} {request : StoreRequest}
    {id : AssessmentId} {keyed : List KeyedCategory}
    (authored : AuthoredAssessment catalogue request id keyed)
    {question : AssessmentQuestion}
    (isQuestion : question ∈ catalogue.questionsOf id)
    {answer : AssessmentAnswer}
    (isAnswer : answer ∈ catalogue.answersOf question.id)
    {weight : AnswerCategoryWeight}
    (isWeight : weight ∈ catalogue.weightsOf answer.id) :
    ∃ category ∈ catalogue.categoriesOf id,
      category.id = weight.categoryId := by
  rcases exists_entry_of_row authored.questions isQuestion with
    ⟨data, _, holdsQuestion⟩
  rcases exists_entry_of_row holdsQuestion.answers isAnswer with
    ⟨entry, _, holdsAnswer⟩
  rw [holdsAnswer.weights] at isWeight
  cases mode : request.scoringMode with
  | percentile =>
      rw [mode] at isWeight
      exact (List.not_mem_nil isWeight).elim
  | categorical =>
      rw [mode, weightRows] at isWeight
      rcases List.mem_filterMap.mp isWeight with ⟨given, _, isRow⟩
      rw [weightRow?] at isRow
      split at isRow
      · next categoryId value found set =>
          cases isRow
          rcases mem_of_lookup_eq_some found with
            ⟨each, member, _, sameId⟩
          rw [authored.categoriesOf]
          exact ⟨each.2, List.mem_map_of_mem member, sameId⟩
      · cases isRow

/-! ## The result -/

/--
Exactly one assessment is added.  What is below it is the payload, its
weights belong to its own categories, and nothing changes below the rows
that were there before.
-/
structure FaithfullyCreated (before after : Catalogue)
    (request : StoreRequest) (keyed : List KeyedCategory) : Prop where
  users : after.users = before.users
  assessments :
    after.assessments =
      before.assessments ++ [assessmentRow before request]
  authored :
    AuthoredAssessment after request before.nextAssessmentId keyed
  weightCategories :
    ∀ question ∈ after.questionsOf before.nextAssessmentId,
      ∀ answer ∈ after.answersOf question.id,
        ∀ weight ∈ after.weightsOf answer.id,
          ∃ category ∈ after.categoriesOf before.nextAssessmentId,
            category.id = weight.categoryId
  sameBelow : SameBelow before after

theorem faithfullyCreated_of_store
    {catalogue after : Catalogue} (foreignKeys : catalogue.ForeignKeys)
    {request : StoreRequest}
    (returns : store catalogue request = .ok after) :
    ∃ keyed, FaithfullyCreated catalogue after request keyed := by
  rcases store_adds returns with ⟨rows, adds, stored⟩
  have authored :=
    authoredAssessment_new foreignKeys adds.grown stored
  refine ⟨rows.categories, ?_⟩
  constructor
  · exact adds.users
  · rw [← stored.assessment]
    exact adds.assessments
  · exact authored
  · intro question isQuestion answer isAnswer weight isWeight
    exact authored.category_of_weight isQuestion isAnswer isWeight
  · exact sameBelow_of_grown adds.grown stored

/-- A request changes no table, or it creates its payload. -/
theorem store_faithful
    (catalogue : Catalogue) (foreignKeys : catalogue.ForeignKeys)
    (request : StoreRequest) :
    (∃ error,
        store catalogue request = .error error ∧
          afterStore catalogue request = catalogue) ∨
      ∃ keyed,
        FaithfullyCreated catalogue (afterStore catalogue request)
          request keyed := by
  rw [afterStore]
  cases returns : store catalogue request with
  | error error => exact Or.inl ⟨error, rfl, rfl⟩
  | ok after =>
      exact Or.inr (faithfullyCreated_of_store foreignKeys returns)

/-- Two categories, one of them under a text key, and a stray weight. -/
def characterPayload : StoreRequest where
  type := .psychometric
  scoringMode := .categorical
  status := .draft
  startDate := some 20000
  endDate := none
  translations :=
    [{ languageId := 1, title := " Character ", description := none }]
  categories :=
    [(.int 3,
        { name := "Courage", description := none, color := none
          order := none, translations := [] }),
      (.text "calm",
        { name := "Calm", description := none, color := none
          order := some 2, translations := [] })]
  questions :=
    [{ questionType := .mcq, questionText := "Choose", order := 1
       maxScore := none
       answers :=
         [(.int 5,
            { answerText := "Speak", order := none, scoreValue := none
              categories :=
                [(.int 3, some 2), (.text "calm", none),
                  (.int 9, some 1)]
              translations := [] }),
          (.int 7,
            { answerText := "Wait", order := none, scoreValue := none
              categories := [(.text "calm", some 3)]
              translations := [] })]
       translations := [] }]
  dates := nofun
  titleCount := by decide
  requiredTitles := by decide +kernel
  categoryKeys := by decide
  categoryCount := by decide
  questionCount := by decide
  requiredMaxScores := nofun

theorem store_faithful_characterPayload :
    let catalogue := Catalogue.ofUsers [1]
    (afterStore catalogue characterPayload).answerCategoryWeights =
        [{ answerId := 1, categoryId := 1, weight := 2 },
          { answerId := 2, categoryId := 2, weight := 3 }] ∧
      ∃ keyed,
        FaithfullyCreated catalogue
          (afterStore catalogue characterPayload) characterPayload
          keyed := by
  have weights :
      (afterStore (Catalogue.ofUsers [1])
          characterPayload).answerCategoryWeights =
        [{ answerId := 1, categoryId := 1, weight := 2 },
          { answerId := 2, categoryId := 2, weight := 3 }] := by
    decide +kernel
  refine ⟨weights, ?_⟩
  apply
    (store_faithful (Catalogue.ofUsers [1]) (foreignKeys_ofUsers [1])
      characterPayload).resolve_left
  rintro ⟨error, _, same⟩
  rw [same] at weights
  cases weights

end AssessmentController

end SultanPass
