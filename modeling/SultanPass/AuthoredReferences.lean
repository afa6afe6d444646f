import SultanPass.AssessmentTitles

/-!
# What authored rows refer to

A category and a question belong to an assessment, an answer to a question,
a score to an answer, and a translation to its owner and to a language.  A
weight stays within one assessment: its category and the question of its
answer belong to the same one.

The tables have foreign keys for all but the last.  `store` keeps all of
it, row by row, and so does the deletion of a language.
-/

namespace SultanPass

open SultanPass.Library
open AssessmentController

/-- Owners and languages of a translation table. -/
def TranslatedIn {Owner Content : Type} [DecidableEq Owner]
    (table :
      KeyedTable (Translation.key : Translation Owner Content → _))
    (owners : List Owner) (languages : List LanguageId) : Prop :=
  ∀ row ∈ table.rows,
    row.ownerId ∈ owners ∧ row.languageId ∈ languages

section TranslatedIn

variable {Owner Content : Type} [DecidableEq Owner]
  {table after :
    KeyedTable (Translation.key : Translation Owner Content → _)}
  {owners : List Owner} {languages : List LanguageId}

theorem TranslatedIn.mono {moreOwners : List Owner}
    {moreLanguages : List LanguageId}
    (translated : TranslatedIn table owners languages)
    (keptOwners : owners ⊆ moreOwners)
    (keptLanguages : languages ⊆ moreLanguages) :
    TranslatedIn table moreOwners moreLanguages :=
  fun row member =>
    ⟨keptOwners (translated row member).1,
      keptLanguages (translated row member).2⟩

theorem TranslatedIn.insert {row : Translation Owner Content}
    (translated : TranslatedIn table owners languages)
    (returns : Catalogue.insertTranslation table row = .ok after)
    (isOwner : row.ownerId ∈ owners)
    (isListed : row.languageId ∈ languages) :
    TranslatedIn after owners languages := by
  intro other member
  rw [rows_of_insertTranslation returns] at member
  rcases List.mem_append.mp member with old | new
  · exact translated other old
  · rw [List.mem_singleton.mp new]
    exact ⟨isOwner, isListed⟩

theorem TranslatedIn.withoutLanguage
    (translated : TranslatedIn table owners languages)
    (languageId : LanguageId) :
    TranslatedIn (withoutLanguage table languageId) owners
      (languages.filter fun id => id ≠ languageId) := by
  intro row member
  rcases List.mem_filter.mp member with ⟨listed, other⟩
  exact
    ⟨(translated row listed).1,
      List.mem_filter.mpr ⟨(translated row listed).2, other⟩⟩

end TranslatedIn

namespace Catalogue

def assessmentIds (catalogue : Catalogue) : List AssessmentId :=
  catalogue.assessments.map Assessment.id

def categoryIds (catalogue : Catalogue) : List CategoryId :=
  catalogue.categories.map AssessmentCategory.id

def questionIds (catalogue : Catalogue) : List QuestionId :=
  catalogue.questions.map AssessmentQuestion.id

def answerIds (catalogue : Catalogue) : List AnswerId :=
  catalogue.answers.map AssessmentAnswer.id

/-- The category and the question of the answer share an assessment. -/
def SameAssessment (catalogue : Catalogue) (answerId : AnswerId)
    (categoryId : CategoryId) : Prop :=
  ∃ answer ∈ catalogue.answers, ∃ question ∈ catalogue.questions,
    ∃ category ∈ catalogue.categories,
      answer.id = answerId ∧ question.id = answer.questionId ∧
        category.id = categoryId ∧
        category.assessmentId = question.assessmentId

/-- Everything that the authored rows refer to exists. -/
structure RowsRefer (catalogue : Catalogue) : Prop where
  categories :
    ∀ category ∈ catalogue.categories,
      category.assessmentId ∈ catalogue.assessmentIds
  questions :
    ∀ question ∈ catalogue.questions,
      question.assessmentId ∈ catalogue.assessmentIds
  answers :
    ∀ answer ∈ catalogue.answers,
      answer.questionId ∈ catalogue.questionIds
  answerScores :
    ∀ score ∈ catalogue.answerScores,
      score.answerId ∈ catalogue.answerIds
  answerCategoryWeights :
    ∀ weight ∈ catalogue.answerCategoryWeights,
      catalogue.SameAssessment weight.answerId weight.categoryId

/-- Translations have owners and are written in one of the languages. -/
structure Translated (catalogue : Catalogue)
    (languages : List LanguageId) : Prop where
  assessments :
    TranslatedIn catalogue.assessmentTranslations catalogue.assessmentIds
      languages
  categories :
    TranslatedIn catalogue.categoryTranslations catalogue.categoryIds
      languages
  questions :
    TranslatedIn catalogue.questionTranslations catalogue.questionIds
      languages
  answers :
    TranslatedIn catalogue.answerTranslations catalogue.answerIds
      languages

theorem RowsRefer.withUsers {catalogue : Catalogue}
    (holds : catalogue.RowsRefer) (users : List UserId) :
    RowsRefer { catalogue with users := users } where
  categories := holds.categories
  questions := holds.questions
  answers := holds.answers
  answerScores := holds.answerScores
  answerCategoryWeights := holds.answerCategoryWeights

theorem RowsRefer.withoutLanguage {catalogue : Catalogue}
    (holds : catalogue.RowsRefer) (languageId : LanguageId) :
    (catalogue.withoutLanguage languageId).RowsRefer where
  categories := holds.categories
  questions := holds.questions
  answers := holds.answers
  answerScores := holds.answerScores
  answerCategoryWeights := holds.answerCategoryWeights

theorem Translated.withUsers {catalogue : Catalogue}
    {languages : List LanguageId}
    (translated : catalogue.Translated languages)
    (users : List UserId) :
    Translated { catalogue with users := users } languages where
  assessments := translated.assessments
  categories := translated.categories
  questions := translated.questions
  answers := translated.answers

theorem Translated.mono {catalogue : Catalogue}
    {languages more : List LanguageId}
    (translated : catalogue.Translated languages)
    (kept : languages ⊆ more) : catalogue.Translated more where
  assessments := translated.assessments.mono (fun _ => id) kept
  categories := translated.categories.mono (fun _ => id) kept
  questions := translated.questions.mono (fun _ => id) kept
  answers := translated.answers.mono (fun _ => id) kept

/-- The translations in a deleted language are deleted with it. -/
theorem Translated.withoutLanguage {catalogue : Catalogue}
    {languages : List LanguageId}
    (translated : catalogue.Translated languages)
    (languageId : LanguageId) :
    (catalogue.withoutLanguage languageId).Translated
      (languages.filter fun id => id ≠ languageId) where
  assessments := translated.assessments.withoutLanguage languageId
  categories := translated.categories.withoutLanguage languageId
  questions := translated.questions.withoutLanguage languageId
  answers := translated.answers.withoutLanguage languageId

end Catalogue

namespace AssessmentController

/-! ## Rows that are added -/

section Adds

variable {before after : Catalogue} {added : Addition}

theorem Adds.assessmentIds (adds : Adds before after added) :
    before.assessmentIds ⊆ after.assessmentIds := by
  unfold Catalogue.assessmentIds
  rw [adds.assessments, List.map_append]
  exact List.subset_append_left _ _

theorem Adds.categoryIds (adds : Adds before after added) :
    before.categoryIds ⊆ after.categoryIds := by
  unfold Catalogue.categoryIds
  rw [adds.categories, List.map_append]
  exact List.subset_append_left _ _

theorem Adds.questionIds (adds : Adds before after added) :
    before.questionIds ⊆ after.questionIds := by
  unfold Catalogue.questionIds
  rw [adds.questions, List.map_append]
  exact List.subset_append_left _ _

theorem Adds.answerIds (adds : Adds before after added) :
    before.answerIds ⊆ after.answerIds := by
  unfold Catalogue.answerIds
  rw [adds.answers, List.map_append]
  exact List.subset_append_left _ _

theorem Adds.sameAssessment (adds : Adds before after added)
    {answerId : AnswerId} {categoryId : CategoryId}
    (same : before.SameAssessment answerId categoryId) :
    after.SameAssessment answerId categoryId := by
  rcases same with
    ⟨answer, isAnswer, question, isQuestion, category, isCategory, keys⟩
  refine
    ⟨answer, ?_, question, ?_, category, ?_, keys⟩
  · rw [adds.answers]
    exact List.mem_append_left _ isAnswer
  · rw [adds.questions]
    exact List.mem_append_left _ isQuestion
  · rw [adds.categories]
    exact List.mem_append_left _ isCategory

/-- What added rows refer to exists. -/
structure Addition.Refers (added : Addition) (after : Catalogue) :
    Prop where
  categories :
    ∀ category ∈ added.categories,
      category.assessmentId ∈ after.assessmentIds
  questions :
    ∀ question ∈ added.questions,
      question.assessmentId ∈ after.assessmentIds
  answers :
    ∀ answer ∈ added.answers, answer.questionId ∈ after.questionIds
  answerScores :
    ∀ score ∈ added.answerScores, score.answerId ∈ after.answerIds
  answerCategoryWeights :
    ∀ weight ∈ added.answerCategoryWeights,
      after.SameAssessment weight.answerId weight.categoryId

theorem Adds.rowsRefer (adds : Adds before after added)
    (holds : before.RowsRefer) (new : added.Refers after) :
    after.RowsRefer where
  categories := by
    intro category member
    rw [adds.categories] at member
    rcases List.mem_append.mp member with old | isNew
    · exact adds.assessmentIds (holds.categories category old)
    · exact new.categories category isNew
  questions := by
    intro question member
    rw [adds.questions] at member
    rcases List.mem_append.mp member with old | isNew
    · exact adds.assessmentIds (holds.questions question old)
    · exact new.questions question isNew
  answers := by
    intro answer member
    rw [adds.answers] at member
    rcases List.mem_append.mp member with old | isNew
    · exact adds.questionIds (holds.answers answer old)
    · exact new.answers answer isNew
  answerScores := by
    intro score member
    rw [adds.answerScores] at member
    rcases List.mem_append.mp member with old | isNew
    · exact adds.answerIds (holds.answerScores score old)
    · exact new.answerScores score isNew
  answerCategoryWeights := by
    intro weight member
    rw [adds.answerCategoryWeights] at member
    rcases List.mem_append.mp member with old | isNew
    · exact adds.sameAssessment (holds.answerCategoryWeights weight old)
    · exact new.answerCategoryWeights weight isNew

end Adds

/-! ## The tree of an assessment -/

section Tree

variable {catalogue after : Catalogue} {request : StoreRequest}
  {rows : AssessmentRows}

theorem mem_of_lookup {Key Value : Type} [BEq Key] [LawfulBEq Key]
    {entries : List (Key × Value)} {key : Key} {value : Value}
    (found : entries.lookup key = some value) :
    (key, value) ∈ entries := by
  rcases List.lookup_eq_some_iff.mp found with ⟨_, _, rfl, _⟩
  exact List.mem_append_right _ List.mem_cons_self

/-- A weight of an answer leads to a category of the payload. -/
theorem category_of_weight {scoringMode : ScoringMode}
    {categories : List KeyedCategory} {answerId : AnswerId}
    {data : AnswerData} {weight : AnswerCategoryWeight}
    (member :
      weight ∈
        weightRows scoringMode (categories.map KeyedCategory.idEntry)
          answerId data) :
    weight.answerId = answerId ∧
      ∃ keyed ∈ categories, keyed.2.id = weight.categoryId := by
  cases scoringMode with
  | percentile => cases member
  | categorical =>
      rcases List.mem_filterMap.mp member with ⟨entry, _, isRow⟩
      unfold weightRow? at isRow
      split at isRow
      · rename_i categoryId value found given
        cases isRow
        rcases List.mem_map.mp (mem_of_lookup found) with
          ⟨keyed, isKeyed, same⟩
        exact ⟨rfl, keyed, isKeyed, congrArg Prod.snd same⟩
      · cases isRow

theorem StoredRows.refers (stored : StoredRows catalogue request rows)
    (adds : Adds catalogue after rows.addition) :
    rows.addition.Refers after := by
  have own : catalogue.nextAssessmentId ∈ after.assessmentIds := by
    unfold Catalogue.assessmentIds
    rw [adds.assessments, List.map_append]
    apply List.mem_append_right
    change _ ∈ [rows.assessment.id]
    rw [stored.assessment]
    exact List.mem_singleton_self _
  have categoryOwner :
      ∀ keyed ∈ rows.categories,
        keyed.2 ∈ after.categories ∧
          keyed.2.assessmentId = catalogue.nextAssessmentId := by
    intro keyed member
    rcases exists_entry_of_row stored.categories member with
      ⟨entry, _, _, category⟩
    refine ⟨?_, category.assessmentId⟩
    rw [adds.categories]
    exact List.mem_append_right _ (List.mem_map_of_mem member)
  have questionOwner :
      ∀ questionRows ∈ rows.questions,
        questionRows.question ∈ after.questions ∧
          questionRows.question.assessmentId =
            catalogue.nextAssessmentId := by
    intro questionRows member
    rcases exists_entry_of_row stored.questions member with
      ⟨entry, _, question⟩
    refine ⟨?_, question.question.assessmentId⟩
    rw [adds.questions]
    exact List.mem_append_right _ (List.mem_map_of_mem member)
  have answerOwner :
      ∀ answerRows ∈ rows.questions.flatMap QuestionRows.answers,
        answerRows.answer ∈ after.answers ∧
          ∃ questionRows ∈ rows.questions, ∃ entry,
            StoredAnswer request.scoringMode
              (rows.categories.map KeyedCategory.idEntry)
              questionRows.question.id entry answerRows := by
    intro answerRows member
    constructor
    · rw [adds.answers]
      exact List.mem_append_right _ (List.mem_map_of_mem member)
    · rcases List.mem_flatMap.mp member with
        ⟨questionRows, isQuestion, isAnswer⟩
      rcases exists_entry_of_row stored.questions isQuestion with
        ⟨question, _, storedQuestion⟩
      rcases exists_entry_of_row storedQuestion.answers isAnswer with
        ⟨entry, _, storedAnswer⟩
      exact ⟨questionRows, isQuestion, entry, storedAnswer⟩
  constructor
  · intro category member
    rcases List.mem_map.mp member with ⟨keyed, isKeyed, rfl⟩
    rw [(categoryOwner keyed isKeyed).2]
    exact own
  · intro question member
    rcases List.mem_map.mp member with ⟨questionRows, isQuestion, rfl⟩
    rw [(questionOwner questionRows isQuestion).2]
    exact own
  · intro answer member
    rcases List.mem_map.mp member with ⟨answerRows, isAnswer, rfl⟩
    rcases (answerOwner answerRows isAnswer).2 with
      ⟨questionRows, isQuestion, entry, storedAnswer⟩
    rw [storedAnswer.questionId]
    exact
      List.mem_map_of_mem (questionOwner questionRows isQuestion).1
  · intro score member
    rcases List.mem_flatMap.mp member with
      ⟨answerRows, isAnswer, isScore⟩
    rcases answerOwner answerRows isAnswer with
      ⟨listed, _, _, entry, storedAnswer⟩
    rw [storedAnswer.answerScores] at isScore
    have ofAnswer : score.answerId = answerRows.answer.id := by
      unfold scoreRows at isScore
      split at isScore
      · rw [List.mem_singleton.mp isScore]
      · cases isScore
    rw [ofAnswer]
    exact List.mem_map_of_mem listed
  · intro weight member
    rcases List.mem_flatMap.mp member with
      ⟨answerRows, isAnswer, isWeight⟩
    rcases answerOwner answerRows isAnswer with
      ⟨listed, questionRows, isQuestion, entry, storedAnswer⟩
    rw [storedAnswer.answerCategoryWeights] at isWeight
    rcases category_of_weight isWeight with
      ⟨ofAnswer, keyed, isKeyed, isCategory⟩
    rcases questionOwner questionRows isQuestion with
      ⟨listedQuestion, ofAssessment⟩
    rcases categoryOwner keyed isKeyed with
      ⟨listedCategory, alsoOfAssessment⟩
    exact
      ⟨answerRows.answer, listed, questionRows.question, listedQuestion,
        keyed.2, listedCategory, ofAnswer.symm,
        storedAnswer.questionId.symm, isCategory,
        alsoOfAssessment.trans ofAssessment.symm⟩

theorem rowsRefer_store (returns : store catalogue request = .ok after)
    (holds : catalogue.RowsRefer) : after.RowsRefer := by
  rcases store_adds returns with ⟨rows, adds, stored⟩
  exact adds.rowsRefer holds (stored.refers adds)

end Tree

/-! ## Translations that are added -/

section Translations

variable {languages : List LanguageId} {catalogue after : Catalogue}

/-- Rows are added, and all translations have owners and languages. -/
structure Translates (languages : List LanguageId)
    (before after : Catalogue) : Prop where
  adds : ∃ added, Adds before after added
  translated : after.Translated languages

theorem Translates.refl
    (translated : catalogue.Translated languages) :
    Translates languages catalogue catalogue where
  adds := ⟨Addition.nothing, Adds.refl catalogue⟩
  translated := translated

theorem Translates.trans {first second third : Catalogue}
    (earlier : Translates languages first second)
    (later : Translates languages second third) :
    Translates languages first third where
  adds := by
    rcases earlier.adds with ⟨left, addsLeft⟩
    rcases later.adds with ⟨right, addsRight⟩
    exact ⟨left.append right, addsLeft.trans addsRight⟩
  translated := later.translated

/-- New rows do not disturb the translations. -/
theorem Adds.translates {added : Addition}
    (adds : Adds catalogue after added)
    (translated : catalogue.Translated languages)
    (assessments :
      after.assessmentTranslations = catalogue.assessmentTranslations)
    (categories :
      after.categoryTranslations = catalogue.categoryTranslations)
    (questions :
      after.questionTranslations = catalogue.questionTranslations)
    (answers :
      after.answerTranslations = catalogue.answerTranslations) :
    Translates languages catalogue after where
  adds := ⟨added, adds⟩
  translated :=
    { assessments := by
        rw [assessments]
        exact translated.assessments.mono adds.assessmentIds fun _ => id
      categories := by
        rw [categories]
        exact translated.categories.mono adds.categoryIds fun _ => id
      questions := by
        rw [questions]
        exact translated.questions.mono adds.questionIds fun _ => id
      answers := by
        rw [answers]
        exact translated.answers.mono adds.answerIds fun _ => id }

/-- A loop whose iterations add rows and translations. -/
theorem translates_foldlM {State Entry : Type}
    (reading : State → Catalogue)
    {step : State → Entry → Except PhpError State}
    {entries : List Entry} {initial final : State}
    (each :
      ∀ entry ∈ entries, ∀ state next,
        Translates languages (reading initial) (reading state) →
          step state entry = .ok next →
            Translates languages (reading state) (reading next))
    (returns : entries.foldlM step initial = .ok final)
    (translated : (reading initial).Translated languages) :
    Translates languages (reading initial) (reading final) := by
  have members :
      EachIteration step (fun _ entry => entry ∈ entries) initial
        entries :=
    eachIteration_of_forall (fun _ member _ => member) initial
  have kept (entry : Entry) (state next : State)
      (reached : Translates languages (reading initial) (reading state))
      (member : entry ∈ entries) (stepped : step state entry = .ok next) :
      Translates languages (reading initial) (reading next) :=
    reached.trans (each entry member state next reached stepped)
  exact
    @foldlM_invariant_of_each _ _ _ _ _
      (fun state => Translates languages (reading initial) (reading state))
      kept _ _ _ returns members (Translates.refl translated)

/-- One translation, put into a table that stays valid with it. -/
theorem translates_translate {Owner Content : Type} [DecidableEq Owner]
    {table :
      KeyedTable (Translation.key : Translation Owner Content → _)}
    {row : Translation Owner Content}
    {put :
      KeyedTable (Translation.key : Translation Owner Content → _) →
        Catalogue}
    (returns :
      (do
        let inserted ← Catalogue.insertTranslation table row
        .ok (put inserted)) = .ok after)
    (puts : ∀ inserted, Adds catalogue (put inserted) Addition.nothing)
    (stays :
      ∀ inserted,
        Catalogue.insertTranslation table row = .ok inserted →
          (put inserted).Translated languages) :
    Translates languages catalogue after := by
  refine ⟨⟨_, adds_translate puts returns⟩, ?_⟩
  rcases bind_eq_ok_iff.mp returns with ⟨inserted, isInserted, ⟨⟩⟩
  exact stays inserted isInserted

/-- The languages of some translations. -/
def ListedIn {Entry : Type} (data : Entry → TranslationData)
    (entries : List Entry) (languages : List LanguageId) : Prop :=
  ∀ entry ∈ entries, ∀ id ∈ (data entry).languageId, id ∈ languages

theorem translates_storeTranslations {Entry : Type}
    {data : Entry → TranslationData}
    {create :
      Catalogue → LanguageId → String → Entry →
        Except PhpError Catalogue}
    {entries : List Entry}
    (translated : catalogue.Translated languages)
    (listed : ListedIn data entries languages)
    (creates :
      ∀ reached next languageId text entry,
        Translates languages catalogue reached →
          languageId ∈ languages →
            create reached languageId text entry = .ok next →
              Translates languages reached next)
    (returns :
      storeTranslations data create entries catalogue = .ok after) :
    Translates languages catalogue after := by
  refine translates_foldlM id ?_ returns translated
  intro entry member reached next earlier stepped
  split at stepped
  · rename_i languageId text isLanguage _
    split_ifs at stepped
    · cases stepped
      exact Translates.refl earlier.translated
    · exact
        creates reached next languageId text entry earlier
          (listed entry member languageId isLanguage) stepped
  · cases stepped
    exact Translates.refl earlier.translated

/-! ## A whole request -/

theorem translates_storeCategory {assessmentId : AssessmentId}
    {stored next : StoredCategories} {entry : ArrayKey × CategoryData}
    (translated : stored.catalogue.Translated languages)
    (listed :
      ListedIn CategoryTranslationData.toTranslationData
        entry.2.translations languages)
    (returns : storeCategory assessmentId stored entry = .ok next) :
    Translates languages stored.catalogue next.catalogue := by
  rcases bind_eq_ok_iff.mp returns with ⟨order, _, returns⟩
  rcases bind_eq_ok_iff.mp returns with ⟨reached, translates, ⟨⟩⟩
  have adds :=
    adds_createCategory stored.catalogue assessmentId entry.2.name
      entry.2.description (entry.2.color.getD defaultColor) order
  have created := adds.translates translated rfl rfl rfl rfl
  have isOwner :
      stored.catalogue.nextCategoryId ∈
        (stored.catalogue.createCategory assessmentId entry.2.name
          entry.2.description (entry.2.color.getD defaultColor)
          order).categoryIds := by
    unfold Catalogue.categoryIds
    rw [adds.categories, List.map_append]
    exact List.mem_append_right _ List.mem_cons_self
  refine
    created.trans
      (translates_storeTranslations created.translated listed ?_
        translates)
  intro reached next languageId text translation earlier isListed step
  rcases earlier.adds with ⟨_, added⟩
  exact
    translates_translate step
      (fun _ => adds_withTranslations _ _ _ _ _)
      (fun _ inserted =>
        { earlier.translated with
          categories :=
            earlier.translated.categories.insert inserted
              (added.categoryIds isOwner) isListed })

theorem translates_storeCategories {request : StoreRequest}
    {assessmentId : AssessmentId} {stored : StoredCategories}
    (translated : catalogue.Translated languages)
    (listed :
      ∀ entry ∈ request.categories,
        ListedIn CategoryTranslationData.toTranslationData
          entry.2.translations languages)
    (returns :
      storeCategories request assessmentId catalogue = .ok stored) :
    Translates languages catalogue stored.catalogue := by
  unfold storeCategories at returns
  cases mode : request.scoringMode with
  | percentile =>
      rw [mode] at returns
      cases returns
      exact Translates.refl translated
  | categorical =>
      rw [mode] at returns
      exact
        translates_foldlM StoredCategories.catalogue
          (fun entry member _ _ earlier step =>
            translates_storeCategory earlier.translated
              (listed entry member) step)
          returns translated

theorem translates_storeWeight
    {categoryIdMap : List (ArrayKey × CategoryId)} {answerId : AnswerId}
    {entry : ArrayKey × Option ℚ≥0}
    (translated : catalogue.Translated languages)
    (returns :
      storeWeight categoryIdMap answerId catalogue entry = .ok after) :
    Translates languages catalogue after := by
  unfold storeWeight at returns
  split at returns
  · have adds := adds_attachCategory returns
    unfold Catalogue.attachCategory at returns
    split_ifs at returns
    cases returns
    exact adds.translates translated rfl rfl rfl rfl
  · cases returns
    exact Translates.refl translated

theorem translates_storeAnswer {scoringMode : ScoringMode}
    {categoryIdMap : List (ArrayKey × CategoryId)}
    {questionId : QuestionId} {entry : ArrayKey × AnswerData}
    (translated : catalogue.Translated languages)
    (listed : ListedIn id entry.2.translations languages)
    (returns :
      storeAnswer scoringMode categoryIdMap questionId catalogue entry =
        .ok after) :
    Translates languages catalogue after := by
  rcases bind_eq_ok_iff.mp returns with ⟨order, _, returns⟩
  rcases bind_eq_ok_iff.mp returns with ⟨reached, translates, returns⟩
  have adds :=
    adds_createAnswer catalogue questionId entry.2.answerText order
  have created := adds.translates translated rfl rfl rfl rfl
  have isOwner :
      catalogue.nextAnswerId ∈
        (catalogue.createAnswer questionId entry.2.answerText
          order).answerIds := by
    unfold Catalogue.answerIds
    rw [adds.answers, List.map_append]
    exact List.mem_append_right _ List.mem_cons_self
  have withTranslations :
      Translates languages catalogue reached := by
    refine
      created.trans
        (translates_storeTranslations created.translated listed ?_
          translates)
    intro reached next languageId text translation earlier isListed step
    rcases earlier.adds with ⟨_, added⟩
    exact
      translates_translate step
        (fun _ => adds_withTranslations _ _ _ _ _)
        (fun _ inserted =>
          { earlier.translated with
            answers :=
              earlier.translated.answers.insert inserted
                (added.answerIds isOwner) isListed })
  apply withTranslations.trans
  cases scoringMode with
  | percentile =>
      cases returns
      exact
        (adds_createScore _ _ _).translates withTranslations.translated
          rfl rfl rfl rfl
  | categorical =>
      exact
        translates_foldlM id
          (fun _ _ _ _ earlier step =>
            translates_storeWeight earlier.translated step)
          returns withTranslations.translated

theorem translates_storeQuestion {scoringMode : ScoringMode}
    {categoryIdMap : List (ArrayKey × CategoryId)}
    {assessmentId : AssessmentId} {question : QuestionData}
    (translated : catalogue.Translated languages)
    (listed : ListedIn id question.translations languages)
    (answersListed :
      ∀ entry ∈ question.answers,
        ListedIn id entry.2.translations languages)
    (returns :
      storeQuestion scoringMode categoryIdMap assessmentId catalogue
        question = .ok after) :
    Translates languages catalogue after := by
  rcases bind_eq_ok_iff.mp returns with ⟨reached, translates, returns⟩
  have adds :=
    adds_createQuestion catalogue assessmentId question.questionType
      question.questionText question.order question.maxScore
  have created := adds.translates translated rfl rfl rfl rfl
  have isOwner :
      catalogue.nextQuestionId ∈
        (catalogue.createQuestion assessmentId question.questionType
          question.questionText question.order
          question.maxScore).questionIds := by
    unfold Catalogue.questionIds
    rw [adds.questions, List.map_append]
    exact List.mem_append_right _ List.mem_cons_self
  have withTranslations :
      Translates languages catalogue reached := by
    refine
      created.trans
        (translates_storeTranslations created.translated listed ?_
          translates)
    intro reached next languageId text translation earlier isListed step
    rcases earlier.adds with ⟨_, added⟩
    exact
      translates_translate step
        (fun _ => adds_withTranslations _ _ _ _ _)
        (fun _ inserted =>
          { earlier.translated with
            questions :=
              earlier.translated.questions.insert inserted
                (added.questionIds isOwner) isListed })
  apply withTranslations.trans
  cases kind : question.questionType with
  | written =>
      rw [kind] at returns
      cases returns
      exact Translates.refl withTranslations.translated
  | mcq =>
      rw [kind] at returns
      exact
        translates_foldlM id
          (fun entry member _ _ earlier step =>
            translates_storeAnswer earlier.translated
              (answersListed entry member) step)
          returns withTranslations.translated

/-! ### Languages of a request -/

section Mentioned

variable {request : StoreRequest}

theorem listedIn_category
    (mentioned : mentionedLanguages request ⊆ languages)
    {entry : ArrayKey × CategoryData}
    (member : entry ∈ request.categories) :
    ListedIn CategoryTranslationData.toTranslationData
      entry.2.translations languages :=
  fun translation isTranslation _ isLanguage =>
    mentioned
      (List.mem_append_left _
        (List.mem_append_right _
          (List.mem_flatMap.mpr
            ⟨entry, member,
              List.mem_filterMap.mpr
                ⟨translation, isTranslation, isLanguage⟩⟩)))

theorem mem_languages_of_question
    (mentioned : mentionedLanguages request ⊆ languages)
    {question : QuestionData} (member : question ∈ request.questions)
    {languageId : LanguageId}
    (isMentioned :
      languageId ∈
        question.translations.filterMap TranslationData.languageId ++
          question.answers.flatMap fun entry =>
            entry.2.translations.filterMap TranslationData.languageId) :
    languageId ∈ languages :=
  mentioned
    (List.mem_append_right _
      (List.mem_flatMap.mpr ⟨question, member, isMentioned⟩))

theorem listedIn_question
    (mentioned : mentionedLanguages request ⊆ languages)
    {question : QuestionData} (member : question ∈ request.questions) :
    ListedIn id question.translations languages :=
  fun translation isTranslation _ isLanguage =>
    mem_languages_of_question mentioned member
      (List.mem_append_left _
        (List.mem_filterMap.mpr ⟨translation, isTranslation, isLanguage⟩))

theorem listedIn_answer
    (mentioned : mentionedLanguages request ⊆ languages)
    {question : QuestionData} (member : question ∈ request.questions)
    {entry : ArrayKey × AnswerData} (isEntry : entry ∈ question.answers) :
    ListedIn id entry.2.translations languages :=
  fun translation isTranslation _ isLanguage =>
    mem_languages_of_question mentioned member
      (List.mem_append_right _
        (List.mem_flatMap.mpr
          ⟨entry, isEntry,
            List.mem_filterMap.mpr
              ⟨translation, isTranslation, isLanguage⟩⟩))

end Mentioned

/-- The row of the assessment. -/
theorem created_assessment (request : StoreRequest)
    (translated : catalogue.Translated languages) :
    Translates languages catalogue
        (catalogue.createAssessment request.type request.scoringMode
          (maxTotalScore request) request.status request.startDate
          request.endDate) ∧
      catalogue.nextAssessmentId ∈
        (catalogue.createAssessment request.type request.scoringMode
          (maxTotalScore request) request.status request.startDate
          request.endDate).assessmentIds := by
  have adds :=
    adds_createAssessment catalogue request.type request.scoringMode
      (maxTotalScore request) request.status request.startDate
      request.endDate
  refine ⟨adds.translates translated rfl rfl rfl rfl, ?_⟩
  rw [Catalogue.assessmentIds, adds.assessments, List.map_append]
  exact List.mem_append_right _ List.mem_cons_self

/-- The titles of a new assessment leave the translations listed. -/
theorem translates_titles {request : StoreRequest}
    (translated : catalogue.Translated languages)
    (mentioned : mentionedLanguages request ⊆ languages)
    {titled : Catalogue}
    (translates :
      (titles request).foldlM
        (fun reached translation =>
          reached.translateAssessment catalogue.nextAssessmentId
            translation.languageId
            { title := translation.title
              description := translation.description })
        (catalogue.createAssessment request.type request.scoringMode
          (maxTotalScore request) request.status request.startDate
          request.endDate) = .ok titled) :
    titled.Translated languages := by
  rcases created_assessment request translated with ⟨created, isOwner⟩
  have withTitles := translates_foldlM id
    (fun title member _ _ earlier step => by
      rcases earlier.adds with ⟨_, added⟩
      rcases List.mem_map.mp (List.mem_filter.mp member).1 with
        ⟨given, isGiven, rfl⟩
      have isListed : given.languageId ∈ languages :=
        mentioned
          (List.mem_append_left _
            (List.mem_append_left _
              (List.mem_map.mpr ⟨given, isGiven, rfl⟩)))
      exact
        translates_translate step
          (fun _ => adds_withTranslations _ _ _ _ _)
          (fun _ inserted =>
            { earlier.translated with
              assessments :=
                earlier.translated.assessments.insert inserted
                  (added.assessmentIds isOwner) isListed }))
    translates created.translated
  exact withTitles.translated

/-- A stored request is translated into listed languages. -/
theorem translated_store {request : StoreRequest}
    (translated : catalogue.Translated languages)
    (mentioned : mentionedLanguages request ⊆ languages)
    (returns : store catalogue request = .ok after) :
    after.Translated languages := by
  rw [store, if_neg (titles_ne_nil request)] at returns
  rcases bind_eq_ok_iff.mp returns with ⟨titled, translates, returns⟩
  rcases bind_eq_ok_iff.mp returns with ⟨stored, storing, returns⟩
  have withTitles := translates_titles translated mentioned translates
  have withCategories :=
    translates_storeCategories withTitles
      (fun _ member => listedIn_category mentioned member) storing
  have withQuestions := translates_foldlM id
    (fun _ member _ _ earlier step =>
      translates_storeQuestion earlier.translated
        (listedIn_question mentioned member)
        (fun _ isEntry => listedIn_answer mentioned member isEntry) step)
    returns withCategories.translated
  exact withQuestions.translated

end Translations

end AssessmentController

end SultanPass
