import SultanPass.AssessmentController
import SultanPass.Library.Ownership
import SultanPass.Library.Pointwise

/-!
# The rows of an authored assessment

`store` creates its rows one at a time.  What a call adds is gathered in a
tree: an assessment with its keyed categories and its questions, a question
with its answers, an answer with its score and its weights (`store_adds`).

From the tree, percentile assessments store the sum of the maxima of their
questions in every authored catalogue (`totalled_authored`).
-/

namespace SultanPass

open SultanPass.Library

namespace AssessmentController

/-! ## What a request adds -/

/-- Rows added to the tables, the translations left out. -/
@[ext]
structure Addition where
  assessments : List Assessment
  categories : List AssessmentCategory
  questions : List AssessmentQuestion
  answers : List AssessmentAnswer
  answerScores : List AnswerScore
  answerCategoryWeights : List AnswerCategoryWeight

namespace Addition

def nothing : Addition where
  assessments := []
  categories := []
  questions := []
  answers := []
  answerScores := []
  answerCategoryWeights := []

def append (first second : Addition) : Addition where
  assessments := first.assessments ++ second.assessments
  categories := first.categories ++ second.categories
  questions := first.questions ++ second.questions
  answers := first.answers ++ second.answers
  answerScores := first.answerScores ++ second.answerScores
  answerCategoryWeights :=
    first.answerCategoryWeights ++ second.answerCategoryWeights

end Addition

/-- The tables of `after` are those of `before` with the added rows. -/
structure Adds (before after : Catalogue) (added : Addition) : Prop where
  users : after.users = before.users
  assessments :
    after.assessments = before.assessments ++ added.assessments
  categories : after.categories = before.categories ++ added.categories
  questions : after.questions = before.questions ++ added.questions
  answers : after.answers = before.answers ++ added.answers
  answerScores :
    after.answerScores = before.answerScores ++ added.answerScores
  answerCategoryWeights :
    after.answerCategoryWeights =
      before.answerCategoryWeights ++ added.answerCategoryWeights

theorem Adds.refl (catalogue : Catalogue) :
    Adds catalogue catalogue Addition.nothing := by
  constructor <;> simp [Addition.nothing]

theorem Adds.trans
    {first second third : Catalogue} {left right : Addition}
    (earlier : Adds first second left)
    (later : Adds second third right) :
    Adds first third (left.append right) where
  users := later.users.trans earlier.users
  assessments := by
    rw [later.assessments, earlier.assessments, List.append_assoc]
    rfl
  categories := by
    rw [later.categories, earlier.categories, List.append_assoc]
    rfl
  questions := by
    rw [later.questions, earlier.questions, List.append_assoc]
    rfl
  answers := by
    rw [later.answers, earlier.answers, List.append_assoc]
    rfl
  answerScores := by
    rw [later.answerScores, earlier.answerScores, List.append_assoc]
    rfl
  answerCategoryWeights := by
    rw [later.answerCategoryWeights, earlier.answerCategoryWeights,
      List.append_assoc]
    rfl

theorem Adds.then_nothing
    {first second third : Catalogue} {added : Addition}
    (earlier : Adds first second added)
    (later : Adds second third Addition.nothing) :
    Adds first third added := by
  have both := earlier.trans later
  rwa [show added.append Addition.nothing = added by
    ext <;> simp [Addition.append, Addition.nothing]] at both

theorem adds_createAssessment
    (catalogue : Catalogue) (type : AssessmentType)
    (scoringMode : ScoringMode) (maxTotalScore : Option ℚ)
    (status : AssessmentStatus) (startDate endDate : Option Day) :
    Adds catalogue
      (catalogue.createAssessment type scoringMode maxTotalScore status
        startDate endDate)
      { Addition.nothing with
        assessments :=
          [{ id := catalogue.nextAssessmentId
             type := type
             scoringMode := scoringMode
             maxTotalScore := maxTotalScore
             status := status
             startDate := startDate
             endDate := endDate }] } := by
  constructor <;> simp [Addition.nothing, Catalogue.createAssessment]

theorem adds_createCategory
    (catalogue : Catalogue) (assessmentId : AssessmentId)
    (name : String) (description : Option String) (color : String)
    (order : ℤ) :
    Adds catalogue
      (catalogue.createCategory assessmentId name description color
        order)
      { Addition.nothing with
        categories :=
          [{ id := catalogue.nextCategoryId
             assessmentId := assessmentId
             name := name
             description := description
             color := some color
             order := order }] } := by
  constructor <;> simp [Addition.nothing, Catalogue.createCategory]

theorem adds_createQuestion
    (catalogue : Catalogue) (assessmentId : AssessmentId)
    (questionType : QuestionType) (questionText : String) (order : ℤ)
    (maxScore : Option ℚ≥0) :
    Adds catalogue
      (catalogue.createQuestion assessmentId questionType questionText
        order maxScore)
      { Addition.nothing with
        questions :=
          [{ id := catalogue.nextQuestionId
             assessmentId := assessmentId
             questionType := questionType
             questionText := questionText
             order := order
             maxScore := maxScore.map NNRat.cast }] } := by
  constructor <;> simp [Addition.nothing, Catalogue.createQuestion]

theorem adds_createAnswer
    (catalogue : Catalogue) (questionId : QuestionId)
    (answerText : String) (order : ℤ) :
    Adds catalogue (catalogue.createAnswer questionId answerText order)
      { Addition.nothing with
        answers :=
          [{ id := catalogue.nextAnswerId
             questionId := questionId
             answerText := answerText
             order := order }] } := by
  constructor <;> simp [Addition.nothing, Catalogue.createAnswer]

theorem adds_createScore
    (catalogue : Catalogue) (answerId : AnswerId) (scoreValue : ℚ≥0) :
    Adds catalogue (catalogue.createScore answerId scoreValue)
      { Addition.nothing with
        answerScores :=
          [{ answerId := answerId, scoreValue := scoreValue }] } := by
  constructor <;> simp [Addition.nothing, Catalogue.createScore]

theorem adds_attachCategory
    {catalogue after : Catalogue} {answerId : AnswerId}
    {categoryId : CategoryId} {weight : ℚ≥0}
    (returns :
      catalogue.attachCategory answerId categoryId weight = .ok after) :
    Adds catalogue after
      { Addition.nothing with
        answerCategoryWeights :=
          [{ answerId := answerId
             categoryId := categoryId
             weight := weight }] } := by
  rw [Catalogue.attachCategory] at returns
  split_ifs at returns
  cases returns
  constructor <;> simp [Addition.nothing]

/-! ### Translations -/

theorem adds_withTranslations (catalogue : Catalogue)
    (assessments :
      KeyedTable
        (Translation.key : Translation AssessmentId TitleText → _))
    (categories :
      KeyedTable (Translation.key : Translation CategoryId NameText → _))
    (questions :
      KeyedTable (Translation.key : Translation QuestionId String → _))
    (answers :
      KeyedTable (Translation.key : Translation AnswerId String → _)) :
    Adds catalogue
      { catalogue with
        assessmentTranslations := assessments
        categoryTranslations := categories
        questionTranslations := questions
        answerTranslations := answers }
      Addition.nothing := by
  constructor <;> simp [Addition.nothing]

/-- One translation, put into whichever of the four tables. -/
theorem adds_translate {Owner Content : Type} [DecidableEq Owner]
    {table :
      KeyedTable (Translation.key : Translation Owner Content → _)}
    {row : Translation Owner Content}
    {put :
      KeyedTable (Translation.key : Translation Owner Content → _) →
        Catalogue}
    {catalogue after : Catalogue}
    (puts : ∀ inserted, Adds catalogue (put inserted) Addition.nothing)
    (returns :
      (do
        let inserted ← Catalogue.insertTranslation table row
        .ok (put inserted)) = .ok after) :
    Adds catalogue after Addition.nothing := by
  rcases bind_eq_ok_iff.mp returns with ⟨inserted, _, ⟨⟩⟩
  exact puts inserted

/-- Translations add nothing to the other tables. -/
theorem adds_storeTranslations
    {Entry : Type} {data : Entry → TranslationData}
    {create :
      Catalogue → LanguageId → String → Entry →
        Except PhpError Catalogue}
    {entries : List Entry} {catalogue after : Catalogue}
    (returns :
      storeTranslations data create entries catalogue = .ok after)
    (adds : ∀ {reached languageId text entry after},
      create reached languageId text entry = .ok after →
        Adds reached after Addition.nothing) :
    Adds catalogue after Addition.nothing := by
  apply
    foldlM_invariant _
      (fun reached => Adds catalogue reached Addition.nothing)
      ?_ returns (Adds.refl catalogue)
  intro entry reached next earlier step
  split at step
  · split_ifs at step
    · cases step
      exact earlier
    · exact earlier.then_nothing (adds step)
  · cases step
    exact earlier

/-! ### Categories -/

/-- A category row holds what the payload gives. -/
structure StoredCategory (assessmentId : AssessmentId)
    (entry : ArrayKey × CategoryData) (row : AssessmentCategory) :
    Prop where
  assessmentId : row.assessmentId = assessmentId
  name : row.name = entry.2.name
  description : row.description = entry.2.description
  color : row.color = some (entry.2.color.getD defaultColor)
  order : orderOr entry.2.order entry.1 = .ok row.order

/-- A key of the payload with the category stored under it. -/
abbrev KeyedCategory :=
  ArrayKey × AssessmentCategory

def KeyedCategory.idEntry (keyed : KeyedCategory) :
    ArrayKey × CategoryId :=
  (keyed.1, keyed.2.id)

/-- `$categoryIdMap` grows with the categories. -/
structure AddsCategories (before after : StoredCategories)
    (keyed : List KeyedCategory) : Prop where
  catalogue :
    Adds before.catalogue after.catalogue
      { Addition.nothing with categories := keyed.map Prod.snd }
  categoryIdMap :
    after.categoryIdMap =
      before.categoryIdMap ++ keyed.map KeyedCategory.idEntry

theorem AddsCategories.refl (stored : StoredCategories) :
    AddsCategories stored stored [] where
  catalogue := Adds.refl stored.catalogue
  categoryIdMap := (List.append_nil _).symm

theorem AddsCategories.cons
    {first second third : StoredCategories}
    {keyed : KeyedCategory} {others : List KeyedCategory}
    (earlier : AddsCategories first second [keyed])
    (later : AddsCategories second third others) :
    AddsCategories first third (keyed :: others) where
  catalogue := earlier.catalogue.trans later.catalogue
  categoryIdMap := by
    rw [later.categoryIdMap, earlier.categoryIdMap, List.append_assoc]
    rfl

theorem storeCategory_adds
    {assessmentId : AssessmentId} {stored after : StoredCategories}
    {entry : ArrayKey × CategoryData}
    (returns : storeCategory assessmentId stored entry = .ok after) :
    ∃ keyed,
      AddsCategories stored after [keyed] ∧
        keyed.1 = entry.1 ∧
        StoredCategory assessmentId entry keyed.2 := by
  rcases bind_eq_ok_iff.mp returns with ⟨order, isOrder, returns⟩
  rcases bind_eq_ok_iff.mp returns with ⟨translated, translates, ⟨⟩⟩
  have created :=
    (adds_createCategory stored.catalogue assessmentId entry.2.name
      entry.2.description (entry.2.color.getD defaultColor)
      order).then_nothing
        (adds_storeTranslations translates
          (adds_translate fun _ => adds_withTranslations _ _ _ _ _))
  refine ⟨(entry.1, _), ⟨created, rfl⟩, rfl, ?_⟩
  exact
    { assessmentId := rfl
      name := rfl
      description := rfl
      color := rfl
      order := isOrder }

/-- The keyed categories that a request is to store. -/
def categoryEntries (request : StoreRequest) :
    List (ArrayKey × CategoryData) :=
  match request.scoringMode with
  | .categorical => request.categories
  | .percentile => []

/-- The categories are added under their keys, in order. -/
theorem storeCategories_adds
    {request : StoreRequest} {assessmentId : AssessmentId}
    {catalogue : Catalogue} {stored : StoredCategories}
    (returns :
      storeCategories request assessmentId catalogue = .ok stored) :
    ∃ keyed,
      AddsCategories { catalogue := catalogue, categoryIdMap := [] }
          stored keyed ∧
        List.Forall₂
          (fun entry keyed =>
            keyed.1 = entry.1 ∧
              StoredCategory assessmentId entry keyed.2)
          (categoryEntries request) keyed := by
  rw [storeCategories] at returns
  rw [categoryEntries]
  cases mode : request.scoringMode with
  | percentile =>
      rw [mode] at returns
      cases returns
      exact ⟨[], AddsCategories.refl _, List.Forall₂.nil⟩
  | categorical =>
      rw [mode] at returns
      exact
        foldlM_adds _ AddsCategories _ AddsCategories.refl
          AddsCategories.cons returns
          fun _ _ _ _ step => storeCategory_adds step

/-! ### Answers -/

/-- An answer with its score and its weights. -/
structure AnswerRows where
  answer : AssessmentAnswer
  answerScores : List AnswerScore
  answerCategoryWeights : List AnswerCategoryWeight

def AnswerRows.addition (rows : List AnswerRows) : Addition :=
  { Addition.nothing with
    answers := rows.map AnswerRows.answer
    answerScores := rows.flatMap AnswerRows.answerScores
    answerCategoryWeights :=
      rows.flatMap AnswerRows.answerCategoryWeights }

/-- The score of an answer, in percentile mode. -/
def scoreRows (scoringMode : ScoringMode) (answerId : AnswerId)
    (data : AnswerData) : List AnswerScore :=
  match scoringMode with
  | .percentile =>
      [{ answerId := answerId, scoreValue := data.scoreValue.getD 0 }]
  | .categorical => []

/-- The row of one weight entry. -/
def weightRow? (categoryIdMap : List (ArrayKey × CategoryId))
    (answerId : AnswerId) (entry : ArrayKey × Option ℚ≥0) :
    Option AnswerCategoryWeight :=
  match categoryIdMap.lookup entry.1, entry.2 with
  | some categoryId, some weight =>
      some
        { answerId := answerId
          categoryId := categoryId
          weight := weight }
  | _, _ => none

/-- The weights of an answer, in categorical mode. -/
def weightRows (scoringMode : ScoringMode)
    (categoryIdMap : List (ArrayKey × CategoryId))
    (answerId : AnswerId) (data : AnswerData) :
    List AnswerCategoryWeight :=
  match scoringMode with
  | .percentile => []
  | .categorical =>
      data.categories.filterMap (weightRow? categoryIdMap answerId)

/-- The rows of an answer hold what the payload gives. -/
structure StoredAnswer (scoringMode : ScoringMode)
    (categoryIdMap : List (ArrayKey × CategoryId))
    (questionId : QuestionId) (entry : ArrayKey × AnswerData)
    (rows : AnswerRows) : Prop where
  questionId : rows.answer.questionId = questionId
  answerText : rows.answer.answerText = entry.2.answerText
  order : orderOr entry.2.order entry.1 = .ok rows.answer.order
  answerScores :
    rows.answerScores = scoreRows scoringMode rows.answer.id entry.2
  answerCategoryWeights :
    rows.answerCategoryWeights =
      weightRows scoringMode categoryIdMap rows.answer.id entry.2

theorem storeWeights_adds
    {categoryIdMap : List (ArrayKey × CategoryId)}
    {answerId : AnswerId} {entries : List (ArrayKey × Option ℚ≥0)}
    {catalogue after : Catalogue}
    (returns :
      entries.foldlM (storeWeight categoryIdMap answerId) catalogue =
        .ok after) :
    Adds catalogue after
      { Addition.nothing with
        answerCategoryWeights :=
          entries.filterMap (weightRow? categoryIdMap answerId) } := by
  induction entries generalizing catalogue with
  | nil =>
      cases returns
      exact Adds.refl _
  | cons entry rest induction =>
      rw [List.foldlM_cons, bind_eq_ok_iff] at returns
      rcases returns with ⟨next, stepped, later⟩
      rw [storeWeight] at stepped
      rw [List.filterMap_cons, weightRow?]
      cases found : categoryIdMap.lookup entry.1 with
      | none =>
          simp only [found] at stepped
          cases stepped
          exact induction later
      | some categoryId =>
          cases given : entry.2 with
          | none =>
              simp only [found, given] at stepped
              cases stepped
              exact induction later
          | some weight =>
              simp only [found, given] at stepped
              exact
                (adds_attachCategory stepped).trans (induction later)

theorem storeAnswer_adds
    {scoringMode : ScoringMode}
    {categoryIdMap : List (ArrayKey × CategoryId)}
    {questionId : QuestionId} {catalogue after : Catalogue}
    {entry : ArrayKey × AnswerData}
    (returns :
      storeAnswer scoringMode categoryIdMap questionId catalogue entry =
        .ok after) :
    ∃ rows,
      Adds catalogue after (AnswerRows.addition [rows]) ∧
        StoredAnswer scoringMode categoryIdMap questionId entry
          rows := by
  rcases bind_eq_ok_iff.mp returns with ⟨order, isOrder, returns⟩
  rcases bind_eq_ok_iff.mp returns with ⟨translated, translates, returns⟩
  have created :=
    (adds_createAnswer catalogue questionId entry.2.answerText
      order).then_nothing
        (adds_storeTranslations translates
          (adds_translate fun _ => adds_withTranslations _ _ _ _ _))
  let answer : AssessmentAnswer :=
    { id := catalogue.nextAnswerId
      questionId := questionId
      answerText := entry.2.answerText
      order := order }
  have stored (scored :
      Adds translated after
        { Addition.nothing with
          answerScores := scoreRows scoringMode answer.id entry.2
          answerCategoryWeights :=
            weightRows scoringMode categoryIdMap answer.id entry.2 }) :
      ∃ rows,
        Adds catalogue after (AnswerRows.addition [rows]) ∧
          StoredAnswer scoringMode categoryIdMap questionId entry
            rows := by
    refine
      ⟨{ answer := answer
         answerScores := scoreRows scoringMode answer.id entry.2
         answerCategoryWeights :=
           weightRows scoringMode categoryIdMap answer.id entry.2 },
        ?_, ⟨rfl, rfl, isOrder, rfl, rfl⟩⟩
    have both := created.trans scored
    rw [AnswerRows.addition, List.flatMap_singleton,
      List.flatMap_singleton]
    exact both
  apply stored
  cases scoringMode with
  | percentile =>
      cases returns
      exact adds_createScore translated _ _
  | categorical => exact storeWeights_adds returns

/-! ### Questions -/

/-- A question row holds what the payload gives. -/
structure StoredQuestion (assessmentId : AssessmentId)
    (data : QuestionData) (row : AssessmentQuestion) : Prop where
  assessmentId : row.assessmentId = assessmentId
  questionType : row.questionType = data.questionType
  questionText : row.questionText = data.questionText
  order : row.order = data.order
  maxScore : row.maxScore = data.maxScore.map NNRat.cast

/-- A question with its answers. -/
structure QuestionRows where
  question : AssessmentQuestion
  answers : List AnswerRows

def QuestionRows.addition (rows : List QuestionRows) : Addition :=
  { AnswerRows.addition (rows.flatMap QuestionRows.answers) with
    questions := rows.map QuestionRows.question }

/-- The answers that a question is to store. -/
def QuestionData.offered (data : QuestionData) :
    List (ArrayKey × AnswerData) :=
  match data.questionType with
  | .mcq => data.answers
  | .written => []

/-- The rows of a question hold what the payload gives. -/
structure StoredQuestionRows (scoringMode : ScoringMode)
    (categoryIdMap : List (ArrayKey × CategoryId))
    (assessmentId : AssessmentId) (data : QuestionData)
    (rows : QuestionRows) : Prop where
  question : StoredQuestion assessmentId data rows.question
  answers :
    List.Forall₂
      (StoredAnswer scoringMode categoryIdMap rows.question.id)
      data.offered rows.answers

theorem AnswerRows.adds_cons
    {first second third : Catalogue} {rows : AnswerRows}
    {others : List AnswerRows}
    (earlier : Adds first second (AnswerRows.addition [rows]))
    (later : Adds second third (AnswerRows.addition others)) :
    Adds first third (AnswerRows.addition (rows :: others)) := by
  have both := earlier.trans later
  rwa [show
      (AnswerRows.addition [rows]).append (AnswerRows.addition others) =
        AnswerRows.addition (rows :: others) by
    ext <;>
      simp [AnswerRows.addition, Addition.append,
        Addition.nothing]] at both

/-- The ids of the added questions increase above those before. -/
structure AddsQuestions (before after : Catalogue)
    (rows : List QuestionRows) : Prop where
  adds : Adds before after (QuestionRows.addition rows)
  above :
    ∀ row ∈ rows, ∀ question ∈ before.questions,
      question.id < row.question.id
  increasing :
    rows.Pairwise fun earlier later =>
      earlier.question.id < later.question.id

theorem AddsQuestions.refl (catalogue : Catalogue) :
    AddsQuestions catalogue catalogue [] where
  adds := Adds.refl catalogue
  above := nofun
  increasing := List.Pairwise.nil

theorem AddsQuestions.cons
    {first second third : Catalogue} {rows : QuestionRows}
    {others : List QuestionRows}
    (earlier : AddsQuestions first second [rows])
    (later : AddsQuestions second third others) :
    AddsQuestions first third (rows :: others) where
  adds := by
    have both := earlier.adds.trans later.adds
    rwa [show
        (QuestionRows.addition [rows]).append
            (QuestionRows.addition others) =
          QuestionRows.addition (rows :: others) by
      ext <;>
        simp [QuestionRows.addition, AnswerRows.addition,
          Addition.append, Addition.nothing]] at both
  above := by
    intro row member question old
    rcases List.mem_cons.mp member with rfl | member
    · exact earlier.above row List.mem_cons_self question old
    · apply later.above row member question
      rw [earlier.adds.questions]
      exact List.mem_append_left _ old
  increasing := by
    apply List.Pairwise.cons _ later.increasing
    intro row member
    apply later.above row member
    rw [earlier.adds.questions]
    exact List.mem_append_right _ List.mem_cons_self

theorem storeQuestion_adds
    {scoringMode : ScoringMode}
    {categoryIdMap : List (ArrayKey × CategoryId)}
    {assessmentId : AssessmentId} {catalogue after : Catalogue}
    {question : QuestionData}
    (returns :
      storeQuestion scoringMode categoryIdMap assessmentId catalogue
        question = .ok after) :
    ∃ rows,
      AddsQuestions catalogue after [rows] ∧
        StoredQuestionRows scoringMode categoryIdMap assessmentId
          question rows := by
  rcases bind_eq_ok_iff.mp returns with ⟨translated, translates, returns⟩
  have created :=
    (adds_createQuestion catalogue assessmentId question.questionType
      question.questionText question.order
      question.maxScore).then_nothing
        (adds_storeTranslations translates
          (adds_translate fun _ => adds_withTranslations _ _ _ _ _))
  let row : AssessmentQuestion :=
    { id := catalogue.nextQuestionId
      assessmentId := assessmentId
      questionType := question.questionType
      questionText := question.questionText
      order := question.order
      maxScore := question.maxScore.map NNRat.cast }
  have answered :
      ∃ answers,
        Adds translated after (AnswerRows.addition answers) ∧
          List.Forall₂ (StoredAnswer scoringMode categoryIdMap row.id)
            question.offered answers := by
    rw [QuestionData.offered]
    cases kind : question.questionType with
    | written =>
        rw [kind] at returns
        cases returns
        exact ⟨[], Adds.refl _, List.Forall₂.nil⟩
    | mcq =>
        rw [kind] at returns
        exact
          foldlM_adds _
            (fun before after rows =>
              Adds before after (AnswerRows.addition rows))
            _ Adds.refl AnswerRows.adds_cons returns
            fun _ _ _ _ step => storeAnswer_adds step
  rcases answered with ⟨answers, added, stored⟩
  refine
    ⟨{ question := row, answers := answers }, ⟨?_, ?_, ?_⟩,
      ⟨rfl, rfl, rfl, rfl, rfl⟩, stored⟩
  · have both := created.trans added
    rw [QuestionRows.addition, List.flatMap_singleton]
    exact both
  · intro other member question old
    rw [List.mem_singleton] at member
    subst member
    exact lt_freshKey (List.mem_map_of_mem old)
  · exact List.pairwise_singleton _ _

/-! ### The whole request -/

/-- An assessment with its keyed categories and its questions. -/
structure AssessmentRows where
  assessment : Assessment
  categories : List KeyedCategory
  questions : List QuestionRows

def AssessmentRows.addition (rows : AssessmentRows) : Addition where
  assessments := [rows.assessment]
  categories := rows.categories.map Prod.snd
  questions := rows.questions.map QuestionRows.question
  answers :=
    (rows.questions.flatMap QuestionRows.answers).map AnswerRows.answer
  answerScores :=
    (rows.questions.flatMap QuestionRows.answers).flatMap
      AnswerRows.answerScores
  answerCategoryWeights :=
    (rows.questions.flatMap QuestionRows.answers).flatMap
      AnswerRows.answerCategoryWeights

/-- The row of the new assessment. -/
def assessmentRow (catalogue : Catalogue) (request : StoreRequest) :
    Assessment where
  id := catalogue.nextAssessmentId
  type := request.type
  scoringMode := request.scoringMode
  maxTotalScore := maxTotalScore request
  status := request.status
  startDate := request.startDate
  endDate := request.endDate

/-- The rows of an assessment hold what the request gives. -/
structure StoredRows (catalogue : Catalogue) (request : StoreRequest)
    (rows : AssessmentRows) : Prop where
  assessment : rows.assessment = assessmentRow catalogue request
  categories :
    List.Forall₂
      (fun entry keyed =>
        keyed.1 = entry.1 ∧
          StoredCategory catalogue.nextAssessmentId entry keyed.2)
      (categoryEntries request) rows.categories
  questions :
    List.Forall₂
      (StoredQuestionRows request.scoringMode
        (rows.categories.map KeyedCategory.idEntry)
        catalogue.nextAssessmentId)
      request.questions rows.questions
  increasing :
    rows.questions.Pairwise fun earlier later =>
      earlier.question.id < later.question.id

theorem titles_ne_nil (request : StoreRequest) :
    titles request ≠ [] := by
  intro empty
  cases written : request.translations with
  | nil => simpa [written] using request.titleCount
  | cons first rest =>
      have member : first ∈ request.translations := by
        rw [written]
        exact List.mem_cons_self
      have kept : first.trimmed ∈ titles request :=
        List.mem_filter.mpr
          ⟨List.mem_map_of_mem member,
            decide_eq_true (request.requiredTitles first member)⟩
      rw [empty] at kept
      exact List.not_mem_nil kept

/-- A request that returns adds its assessment and what belongs to it. -/
theorem store_adds
    {catalogue after : Catalogue} {request : StoreRequest}
    (returns : store catalogue request = .ok after) :
    ∃ rows : AssessmentRows,
      Adds catalogue after rows.addition ∧
        StoredRows catalogue request rows := by
  rw [store, if_neg (titles_ne_nil request)] at returns
  rcases bind_eq_ok_iff.mp returns with ⟨translated, translates, returns⟩
  rcases bind_eq_ok_iff.mp returns with ⟨stored, storing, returns⟩
  have created :
      Adds catalogue translated
        { Addition.nothing with
          assessments := [assessmentRow catalogue request] } :=
    foldlM_invariant _
      (fun reached => Adds catalogue reached _)
      (fun _ _ _ earlier step =>
        earlier.then_nothing
          (adds_translate
            (fun _ => adds_withTranslations _ _ _ _ _) step))
      translates (adds_createAssessment catalogue _ _ _ _ _ _)
  rcases storeCategories_adds storing with
    ⟨categories, addsCategories, storedCategories⟩
  rcases
      foldlM_adds _ AddsQuestions _ AddsQuestions.refl AddsQuestions.cons
        returns fun _ _ _ _ step => storeQuestion_adds step with
    ⟨questions, addsQuestions, storedQuestions⟩
  rw [addsCategories.categoryIdMap, List.nil_append] at storedQuestions
  refine
    ⟨{ assessment := assessmentRow catalogue request
       categories := categories
       questions := questions },
      ?_, rfl, storedCategories, storedQuestions,
      addsQuestions.increasing⟩
  have all := (created.trans addsCategories.catalogue).trans
    addsQuestions.adds
  simpa [Addition.append, Addition.nothing, AssessmentRows.addition,
    QuestionRows.addition, AnswerRows.addition] using all

/-- The question rows alone. -/
theorem StoredRows.questionRows
    {catalogue : Catalogue} {request : StoreRequest}
    {rows : AssessmentRows}
    (stored : StoredRows catalogue request rows) :
    List.Forall₂ (StoredQuestion catalogue.nextAssessmentId)
      request.questions rows.addition.questions := by
  rw [AssessmentRows.addition, List.forall₂_map_right_iff]
  exact stored.questions.imp fun _ _ each => each.question

/-! ## Stored maxima -/

/-- The sum of the maxima of all questions of an assessment. -/
def summedMaxScores (catalogue : Catalogue) (id : AssessmentId) : ℚ :=
  ((catalogue.questionsOf id).map fun question =>
    question.maxScore.getD 0).sum

/--
Every question has an assessment, and every percentile assessment stores
the sum of the maxima of its questions.
-/
structure Totalled (catalogue : Catalogue) : Prop where
  owners :
    ∀ question ∈ catalogue.questions,
      question.assessmentId ∈ catalogue.assessments.map Assessment.id
  totals :
    ∀ assessment ∈ catalogue.assessments,
      assessment.scoringMode = .percentile →
        assessment.maxTotalScore =
          some (summedMaxScores catalogue assessment.id)

theorem totalled_ofUsers (users : List UserId) :
    Totalled (Catalogue.ofUsers users) where
  owners := fun _ listed => (List.not_mem_nil listed).elim
  totals := fun _ listed => (List.not_mem_nil listed).elim

/-- The maxima of the stored rows are those of the payload. -/
theorem sum_maxScores_of_stored
    {assessmentId : AssessmentId} {questions : List QuestionData}
    {rows : List AssessmentQuestion}
    (stored :
      List.Forall₂ (StoredQuestion assessmentId) questions rows) :
    (rows.map fun row => row.maxScore.getD 0).sum =
      (questions.map fun question =>
        ((question.maxScore.getD 0 : ℚ≥0) : ℚ)).sum := by
  induction stored with
  | nil => rfl
  | cons first _ induction =>
      rw [List.map_cons, List.map_cons, List.sum_cons, List.sum_cons,
        induction, first.maxScore]
      congr 1
      cases QuestionData.maxScore _ <;> rfl

theorem owned_of_stored
    {assessmentId : AssessmentId} {questions : List QuestionData}
    {rows : List AssessmentQuestion}
    (stored :
      List.Forall₂ (StoredQuestion assessmentId) questions rows) :
    Owned AssessmentQuestion.assessmentId rows [assessmentId] := by
  intro row member
  rcases exists_entry_of_row stored member with ⟨data, _, holds⟩
  exact List.mem_singleton.mpr holds.assessmentId

theorem summedMaxScores_eq (catalogue : Catalogue) (id : AssessmentId) :
    summedMaxScores catalogue id =
      ((childrenOf AssessmentQuestion.assessmentId catalogue.questions
          id).map fun question => question.maxScore.getD 0).sum :=
  rfl

theorem Totalled.store
    {catalogue after : Catalogue} (totalled : Totalled catalogue)
    {request : StoreRequest}
    (returns : store catalogue request = .ok after) :
    Totalled after := by
  rcases store_adds returns with ⟨tree, adds, storedTree⟩
  have assessments :
      after.assessments =
        catalogue.assessments ++ [assessmentRow catalogue request] := by
    rw [← storedTree.assessment]
    exact adds.assessments
  have questions := adds.questions
  have stored := storedTree.questionRows
  generalize tree.addition.questions = rows at stored questions
  have ownRows := owned_of_stored stored
  have fresh :
      catalogue.nextAssessmentId ∉
        catalogue.assessments.map Assessment.id :=
    freshKey_not_mem _
  constructor
  · rw [questions, assessments, List.map_append]
    exact owned_append totalled.owners ownRows
  · intro assessment member mode
    rw [summedMaxScores_eq, questions, childrenOf_append]
    rw [assessments] at member
    rcases List.mem_append.mp member with old | new
    · have other : assessment.id ∉ [catalogue.nextAssessmentId] := by
        intro same
        rw [List.mem_singleton] at same
        exact fresh (same ▸ List.mem_map_of_mem old)
      rw [childrenOf_eq_nil ownRows other, List.append_nil,
        totalled.totals assessment old mode]
      rfl
    · rw [List.mem_singleton] at new
      subst new
      have noneOld :
          childrenOf AssessmentQuestion.assessmentId catalogue.questions
            (assessmentRow catalogue request).id = [] :=
        childrenOf_eq_nil totalled.owners fresh
      have allNew :
          childrenOf AssessmentQuestion.assessmentId rows
            (assessmentRow catalogue request).id = rows :=
        childrenOf_eq_self ownRows
      change request.scoringMode = .percentile at mode
      rw [noneOld, allNew, List.nil_append,
        sum_maxScores_of_stored stored]
      change maxTotalScore request = _
      rw [maxTotalScore, mode]

theorem Totalled.afterStore
    {catalogue : Catalogue} (totalled : Totalled catalogue)
    (request : StoreRequest) :
    Totalled (afterStore catalogue request) := by
  rw [AssessmentController.afterStore]
  cases returns : AssessmentController.store catalogue request with
  | error error => exact totalled
  | ok after => exact totalled.store returns

/-- Whatever was authored, the stored maxima are the sums. -/
theorem totalled_authored
    (users : List UserId) (requests : List StoreRequest) :
    Totalled (authored users requests) := by
  rw [authored]
  apply List.foldlRecOn requests AssessmentController.afterStore
  · exact totalled_ofUsers users
  · intro catalogue totalled request _
    exact totalled.afterStore request

end AssessmentController

end SultanPass
