import SultanPass.AuthoredReferences
import SultanPass.FaithfulAuthoring
import SultanPass.Library.InsertLoop

/-!
# When `store` returns

The rules of `store` do not ask for everything that its tables do.  Titles,
and the translations of one row that are stored, need different languages;
categories and answers without an order need a numeric key; and an answer
must not weigh a category twice.

`Storable` says this of a payload.  When everything that the rows refer to
exists, a request returns exactly for these payloads (`returns_iff`); its
new identities never collide with anything that was there before.
-/

namespace SultanPass

open SultanPass.Library

namespace AssessmentController

open SultanPass.Catalogue

/-! ## Payloads that the tables can hold -/

/-- The language under which a translation is stored. -/
def TranslationData.storedLanguage (translation : TranslationData) :
    Option LanguageId :=
  match translation.languageId, translation.text with
  | some languageId, some text =>
      if isEmptyText text then none else some languageId
  | _, _ => none

/-- The stored translations of one row have different languages. -/
def DifferentLanguages {Entry : Type} (data : Entry → TranslationData)
    (entries : List Entry) : Prop :=
  (entries.filterMap fun entry => (data entry).storedLanguage).Nodup

/-- A key to which PHP can add one. -/
def ArrayKey.IsNumeric : ArrayKey → Bool
  | .text _ => false
  | _ => true

/-- An order is given, or it comes from the key. -/
def HasOrder (order : Option ℤ) (key : ArrayKey) : Prop :=
  order.isSome = true ∨ key.IsNumeric = true

structure CategoryData.Storable (key : ArrayKey)
    (category : CategoryData) : Prop where
  order : HasOrder category.order key
  translations :
    DifferentLanguages CategoryTranslationData.toTranslationData
      category.translations

/-- The keys of the weights that are attached. -/
def AnswerData.weighedKeys (categoryKeys : List ArrayKey)
    (answer : AnswerData) : List ArrayKey :=
  (answer.categories.filter fun entry =>
    entry.1 ∈ categoryKeys && entry.2.isSome).map Prod.fst

structure AnswerData.Storable (scoringMode : ScoringMode)
    (categoryKeys : List ArrayKey) (key : ArrayKey)
    (answer : AnswerData) : Prop where
  order : HasOrder answer.order key
  translations : DifferentLanguages id answer.translations
  weights :
    scoringMode = .categorical → (answer.weighedKeys categoryKeys).Nodup

structure QuestionData.Storable (scoringMode : ScoringMode)
    (categoryKeys : List ArrayKey) (question : QuestionData) : Prop where
  translations : DifferentLanguages id question.translations
  answers :
    ∀ entry ∈ question.offered,
      entry.2.Storable scoringMode categoryKeys entry.1

structure StoreRequest.Storable (request : StoreRequest) : Prop where
  titles : (request.translations.map TitleData.languageId).Nodup
  categories :
    ∀ entry ∈ categoryEntries request, entry.2.Storable entry.1
  questions :
    ∀ question ∈ request.questions,
      question.Storable request.scoringMode
        ((categoryEntries request).map Prod.fst)

/-! ## Orders -/

theorem exists_orderOr_iff (order : Option ℤ) (key : ArrayKey) :
    (∃ number, orderOr order key = .ok number) ↔ HasOrder order key := by
  cases order with
  | some number =>
      exact iff_of_true ⟨number, rfl⟩ (Or.inl rfl)
  | none =>
      cases key with
      | int index => exact iff_of_true ⟨_, rfl⟩ (Or.inr rfl)
      | numericText name value =>
          exact iff_of_true ⟨_, rfl⟩ (Or.inr rfl)
      | text name =>
          refine iff_of_false ?_ ?_
          · rintro ⟨number, raised⟩
            cases raised
          · rintro (given | numeric)
            · cases given
            · cases numeric

/-! ## Translations -/

section Translations

variable {Owner Content : Type} [DecidableEq Owner]

/-- The languages into which a row is translated. -/
def translatedLanguages
    (table :
      KeyedTable (Translation.key : Translation Owner Content → _))
    (owner : Owner) : List LanguageId :=
  (table.rows.filter fun row => row.ownerId = owner).map
    Translation.languageId

theorem mem_translatedLanguages_iff
    {table :
      KeyedTable (Translation.key : Translation Owner Content → _)}
    {owner : Owner} {languageId : LanguageId} :
    languageId ∈ translatedLanguages table owner ↔
      (owner, languageId) ∈ table.rows.map Translation.key := by
  rw [translatedLanguages, List.mem_map, List.mem_map]
  constructor
  · rintro ⟨row, member, rfl⟩
    rcases List.mem_filter.mp member with ⟨listed, isOwner⟩
    rw [decide_eq_true_eq] at isOwner
    exact ⟨row, listed, by rw [Translation.key, isOwner]⟩
  · rintro ⟨row, listed, same⟩
    rw [Translation.key, Prod.mk.injEq] at same
    exact
      ⟨row, List.mem_filter.mpr ⟨listed, decide_eq_true same.1⟩, same.2⟩

theorem exists_insertTranslation_iff
    (table :
      KeyedTable (Translation.key : Translation Owner Content → _))
    (row : Translation Owner Content) :
    (∃ after, Catalogue.insertTranslation table row = .ok after) ↔
      row.languageId ∉ translatedLanguages table row.ownerId := by
  rw [mem_translatedLanguages_iff, Catalogue.insertTranslation]
  have absent := KeyedTable.find?_eq_none_iff table row.key
  rw [show (row.ownerId, row.languageId) = row.key from rfl, ← absent]
  cases table.find? row.key with
  | some other => simp
  | none => simp

theorem translatedLanguages_insert
    {table after :
      KeyedTable (Translation.key : Translation Owner Content → _)}
    {row : Translation Owner Content}
    (returns : Catalogue.insertTranslation table row = .ok after) :
    translatedLanguages after row.ownerId =
      translatedLanguages table row.ownerId ++ [row.languageId] := by
  rw [translatedLanguages, rows_of_insertTranslation returns,
    List.filter_append, List.map_append]
  simp [translatedLanguages]

/-- A new owner has no translations. -/
theorem translatedLanguages_of_new
    {table :
      KeyedTable (Translation.key : Translation Owner Content → _)}
    {owners : List Owner} {languages : List LanguageId}
    (translated : TranslatedIn table owners languages) {owner : Owner}
    (new : owner ∉ owners) : translatedLanguages table owner = [] := by
  rw [translatedLanguages, List.map_eq_nil_iff, List.filter_eq_nil_iff]
  intro row member isOwner
  rw [decide_eq_true_eq] at isOwner
  exact new (isOwner ▸ (translated row member).1)

/-- One iteration of `storeTranslations`. -/
def storeTranslation {Entry : Type} (data : Entry → TranslationData)
    (create :
      Catalogue → LanguageId → String → Entry →
        Except PhpError Catalogue)
    (reached : Catalogue) (entry : Entry) : Except PhpError Catalogue :=
  match (data entry).languageId, (data entry).text with
  | some languageId, some text =>
      if isEmptyText text then .ok reached
      else create reached languageId text entry
  | _, _ => .ok reached

theorem storeTranslations_eq_foldlM {Entry : Type}
    (data : Entry → TranslationData)
    (create :
      Catalogue → LanguageId → String → Entry →
        Except PhpError Catalogue)
    (entries : List Entry) (catalogue : Catalogue) :
    storeTranslations data create entries catalogue =
      entries.foldlM (storeTranslation data create) catalogue :=
  rfl

theorem storeTranslation_of_none {Entry : Type}
    {data : Entry → TranslationData}
    (create :
      Catalogue → LanguageId → String → Entry →
        Except PhpError Catalogue)
    (reached : Catalogue) {entry : Entry}
    (notStored : (data entry).storedLanguage = none) :
    storeTranslation data create reached entry = .ok reached := by
  rw [TranslationData.storedLanguage] at notStored
  rw [storeTranslation]
  split at notStored
  · split_ifs at notStored with empty
    rw [if_pos empty]
  · rfl

theorem storeTranslation_of_some {Entry : Type}
    {data : Entry → TranslationData}
    (create :
      Catalogue → LanguageId → String → Entry →
        Except PhpError Catalogue)
    (reached : Catalogue) {entry : Entry} {languageId : LanguageId}
    (stored : (data entry).storedLanguage = some languageId) :
    ∃ text, storeTranslation data create reached entry =
      create reached languageId text entry := by
  rw [TranslationData.storedLanguage] at stored
  rw [storeTranslation]
  split at stored
  · next other text _ _ =>
      split_ifs at stored with empty
      rw [Option.some.injEq] at stored
      rw [if_neg empty, stored]
      exact ⟨text, rfl⟩
  · cases stored

/-- The translations of a new row are stored when their languages differ. -/
theorem exists_storeTranslations_iff {Entry : Type}
    (data : Entry → TranslationData)
    {create :
      Catalogue → LanguageId → String → Entry →
        Except PhpError Catalogue}
    {table :
      Catalogue →
        KeyedTable (Translation.key : Translation Owner Content → _)}
    {put :
      Catalogue →
        KeyedTable (Translation.key : Translation Owner Content → _) →
          Catalogue}
    {owner : Owner} {content : String → Entry → Content}
    (creates :
      ∀ reached languageId text entry,
        create reached languageId text entry =
          (Catalogue.insertTranslation (table reached)
            { ownerId := owner
              languageId := languageId
              content := content text entry }).map (put reached))
    (table_put : ∀ reached after, table (put reached after) = after)
    (entries : List Entry) {catalogue : Catalogue}
    (new : translatedLanguages (table catalogue) owner = []) :
    (∃ after,
        storeTranslations data create entries catalogue = .ok after) ↔
      DifferentLanguages data entries := by
  have inserts :
      InsertsKeys (storeTranslation data create)
        (fun reached => translatedLanguages (table reached) owner)
        (fun entry => (data entry).storedLanguage) (fun _ => True) := by
    constructor
    · intro reached entry _ notStored
      exact storeTranslation_of_none create reached notStored
    · intro reached entry languageId _ stored
      rcases storeTranslation_of_some create reached stored with
        ⟨text, step⟩
      rw [step, creates]
      have inserted :=
        exists_insertTranslation_iff (table reached)
          { ownerId := owner
            languageId := languageId
            content := content text entry }
      rw [← inserted]
      simp only [map_eq_ok_iff]
      constructor
      · rintro ⟨_, after, returns, _⟩
        exact ⟨after, returns⟩
      · rintro ⟨after, returns⟩
        exact ⟨put reached after, after, returns, rfl⟩
    · intro reached entry languageId after _ stored stepped
      rcases storeTranslation_of_some create reached stored with
        ⟨text, step⟩
      rw [step, creates, map_eq_ok_iff] at stepped
      rcases stepped with ⟨inserted, returns, rfl⟩
      rw [table_put]
      exact ⟨translatedLanguages_insert returns, trivial⟩
  rw [storeTranslations_eq_foldlM]
  exact exists_foldlM_insert_iff_nodup inserts entries trivial new

end Translations

/-- One translation, put into whichever of the four tables. -/
theorem translate_eq_map {Owner Content : Type} [DecidableEq Owner]
    (table :
      KeyedTable (Translation.key : Translation Owner Content → _))
    (row : Translation Owner Content)
    (put :
      KeyedTable (Translation.key : Translation Owner Content → _) →
        Catalogue) :
    (do
      let inserted ← Catalogue.insertTranslation table row
      .ok (put inserted)) =
      (Catalogue.insertTranslation table row).map put := by
  cases Catalogue.insertTranslation table row with
  | error error => rfl
  | ok inserted => rfl

/-! ## Categories -/

section Categories

variable {languages : List LanguageId}

theorem exists_storeCategory_iff {stored : StoredCategories}
    (translated : stored.catalogue.Translated languages)
    (assessmentId : AssessmentId) (entry : ArrayKey × CategoryData) :
    (∃ after, storeCategory assessmentId stored entry = .ok after) ↔
      entry.2.Storable entry.1 := by
  have new (order : ℤ) :
      translatedLanguages
          (stored.catalogue.createCategory assessmentId entry.2.name
            entry.2.description (entry.2.color.getD defaultColor)
            order).categoryTranslations
          stored.catalogue.nextCategoryId = [] :=
    translatedLanguages_of_new translated.categories (freshKey_not_mem _)
  have translations (order : ℤ) :=
    exists_storeTranslations_iff
      CategoryTranslationData.toTranslationData
      (fun reached languageId text translation =>
        translate_eq_map reached.categoryTranslations
          { ownerId := stored.catalogue.nextCategoryId
            languageId := languageId
            content :=
              { name := text
                description :=
                  CategoryTranslationData.description translation } }
          fun table => { reached with categoryTranslations := table })
      (fun _ _ => rfl) entry.2.translations (new order)
  constructor
  · rintro ⟨after, returns⟩
    rcases bind_eq_ok_iff.mp returns with ⟨order, isOrder, returns⟩
    rcases bind_eq_ok_iff.mp returns with ⟨reached, translates, _⟩
    exact
      ⟨(exists_orderOr_iff _ _).mp ⟨order, isOrder⟩,
        (translations order).mp ⟨reached, translates⟩⟩
  · rintro ⟨hasOrder, different⟩
    rcases (exists_orderOr_iff _ _).mpr hasOrder with ⟨order, isOrder⟩
    rcases (translations order).mpr different with ⟨reached, translates⟩
    exact
      ⟨_, bind_eq_ok_iff.mpr
        ⟨order, isOrder,
          bind_eq_ok_iff.mpr ⟨reached, translates, rfl⟩⟩⟩

theorem exists_storeCategories_iff {catalogue : Catalogue}
    (translated : catalogue.Translated languages)
    {request : StoreRequest}
    (listed :
      ∀ entry ∈ request.categories,
        ListedIn CategoryTranslationData.toTranslationData
          entry.2.translations languages)
    (assessmentId : AssessmentId) :
    (∃ stored,
        storeCategories request assessmentId catalogue = .ok stored) ↔
      ∀ entry ∈ categoryEntries request, entry.2.Storable entry.1 := by
  rw [storeCategories, categoryEntries]
  cases request.scoringMode with
  | percentile =>
      exact
        iff_of_true ⟨_, rfl⟩ fun _ member =>
          (List.not_mem_nil member).elim
  | categorical =>
      exact
        @exists_foldlM_iff _ _ _ _
          (fun stored : StoredCategories =>
            stored.catalogue.Translated languages)
          _ _
          (fun entry _ stored holds =>
            exists_storeCategory_iff holds assessmentId entry)
          (fun entry member stored after holds step =>
            (translates_storeCategory holds (listed entry member)
              step).translated)
          _ translated

end Categories

/-! ## Weights -/

/-- The categories that an answer weighs. -/
def weighedCategories (catalogue : Catalogue) (answerId : AnswerId) :
    List CategoryId :=
  (catalogue.answerCategoryWeights.filter fun row =>
    row.answerId = answerId).map AnswerCategoryWeight.categoryId

/-- The category of a weight that is attached. -/
def weighed? (categoryIdMap : List (ArrayKey × CategoryId))
    (entry : ArrayKey × Option ℚ≥0) : Option CategoryId :=
  match entry.2 with
  | some _ => categoryIdMap.lookup entry.1
  | none => none

theorem exists_attachCategory_iff {catalogue : Catalogue}
    {categoryId : CategoryId} (listed : categoryId ∈ catalogue.categoryIds)
    (answerId : AnswerId) (weight : ℚ≥0) :
    (∃ after,
        catalogue.attachCategory answerId categoryId weight = .ok after) ↔
      categoryId ∉ weighedCategories catalogue answerId := by
  have taken :
      (catalogue.answerCategoryWeights.any fun row =>
          row.answerId = answerId && row.categoryId = categoryId) = true ↔
        categoryId ∈ weighedCategories catalogue answerId := by
    simp only [weighedCategories, List.any_eq_true, Bool.and_eq_true,
      decide_eq_true_eq, List.mem_map, List.mem_filter, and_assoc]
  rw [← taken, Catalogue.attachCategory]
  split_ifs with already
  · simp [already]
  · simp [already]
  · exact absurd listed ‹_›

theorem insertsKeys_storeWeight
    (categoryIdMap : List (ArrayKey × CategoryId))
    (answerId : AnswerId) :
    InsertsKeys (storeWeight categoryIdMap answerId)
      (fun catalogue => weighedCategories catalogue answerId)
      (weighed? categoryIdMap)
      (fun catalogue =>
        ∀ entry ∈ categoryIdMap, entry.2 ∈ catalogue.categoryIds) := by
  have step (catalogue : Catalogue) (key : ArrayKey) (weight : ℚ≥0)
      (categoryId : CategoryId)
      (found : categoryIdMap.lookup key = some categoryId) :
      storeWeight categoryIdMap answerId catalogue (key, some weight) =
        catalogue.attachCategory answerId categoryId weight := by
    simp only [storeWeight, found]
  constructor
  · rintro catalogue ⟨key, weight⟩ _ notWeighed
    cases weight with
    | none =>
        rw [storeWeight]
        split
        · next none' => cases none'
        · rfl
    | some weight =>
        change categoryIdMap.lookup key = none at notWeighed
        simp only [storeWeight, notWeighed]
  · rintro catalogue ⟨key, weight⟩ categoryId listed found
    cases weight with
    | none => cases found
    | some weight =>
        rw [step catalogue key weight categoryId found]
        exact
          exists_attachCategory_iff
            (listed (key, categoryId) (mem_of_lookup found)) answerId
            weight
  · rintro catalogue ⟨key, weight⟩ categoryId after listed found stepped
    cases weight with
    | none => cases found
    | some weight =>
        rw [step catalogue key weight categoryId found] at stepped
        have adds := adds_attachCategory stepped
        constructor
        · simp only [weighedCategories]
          rw [adds.answerCategoryWeights, List.filter_append,
            List.map_append]
          simp
        · intro entry member
          exact adds.categoryIds (listed entry member)

section Weighed

variable {categoryIdMap : List (ArrayKey × CategoryId)}

theorem lookup_isSome_iff (key : ArrayKey) :
    (categoryIdMap.lookup key).isSome = true ↔
      key ∈ categoryIdMap.map Prod.fst := by
  induction categoryIdMap with
  | nil => simp
  | cons entry rest induction =>
      rw [List.lookup_cons, List.map_cons, List.mem_cons]
      by_cases same : key = entry.1
      · simp [same]
      · have unequal : (key == entry.1) = false := beq_false_of_ne same
        simp [unequal, same, induction]

/-- The identity under a key; zero where there is none. -/
def idUnder (categoryIdMap : List (ArrayKey × CategoryId))
    (key : ArrayKey) : CategoryId :=
  (categoryIdMap.lookup key).getD 0

theorem filterMap_weighed? (entries : List (ArrayKey × Option ℚ≥0)) :
    entries.filterMap (weighed? categoryIdMap) =
      ((entries.filter fun entry =>
        entry.1 ∈ categoryIdMap.map Prod.fst && entry.2.isSome).map
          Prod.fst).map (idUnder categoryIdMap) := by
  induction entries with
  | nil => rfl
  | cons entry rest induction =>
      rcases entry with ⟨key, weight⟩
      have listed := @lookup_isSome_iff categoryIdMap key
      cases weight with
      | none =>
          rw [List.filterMap_cons_none rfl, induction,
            List.filter_cons_of_neg (by simp)]
      | some weight =>
          cases found : categoryIdMap.lookup key with
          | none =>
              rw [found] at listed
              have absent : key ∉ categoryIdMap.map Prod.fst :=
                fun member => Bool.false_ne_true (listed.mpr member)
              have notWeighed :
                  weighed? categoryIdMap (key, some weight) = none :=
                found
              rw [List.filterMap_cons_none notWeighed, induction,
                List.filter_cons_of_neg (by simpa using absent)]
          | some categoryId =>
              rw [found] at listed
              have present : key ∈ categoryIdMap.map Prod.fst :=
                listed.mp rfl
              have isUnder :
                  idUnder categoryIdMap key = categoryId := by
                rw [idUnder, found]
                rfl
              have isWeighed :
                  weighed? categoryIdMap (key, some weight) =
                    some categoryId :=
                found
              rw [List.filterMap_cons_some isWeighed, induction,
                List.filter_cons_of_pos (by simpa using present),
                List.map_cons, List.map_cons, isUnder]

/-- Different keys are kept apart by the categories under them. -/
theorem nodup_weighed_iff (ids : (categoryIdMap.map Prod.snd).Nodup)
    (entries : List (ArrayKey × Option ℚ≥0)) :
    (entries.filterMap (weighed? categoryIdMap)).Nodup ↔
      ((entries.filter fun entry =>
        entry.1 ∈ categoryIdMap.map Prod.fst && entry.2.isSome).map
          Prod.fst).Nodup := by
  rw [filterMap_weighed?]
  constructor
  · exact List.Nodup.of_map _
  · intro distinct
    apply distinct.map_on
    have listed (key : ArrayKey)
        (member :
          key ∈
            (entries.filter fun entry =>
              entry.1 ∈ categoryIdMap.map Prod.fst &&
                entry.2.isSome).map Prod.fst) :
        (key, idUnder categoryIdMap key) ∈ categoryIdMap := by
      rcases List.mem_map.mp member with ⟨entry, kept, rfl⟩
      have holds := (List.mem_filter.mp kept).2
      rw [Bool.and_eq_true, decide_eq_true_eq] at holds
      rcases
          Option.isSome_iff_exists.mp
            ((lookup_isSome_iff entry.1).mpr holds.1) with
        ⟨categoryId, found⟩
      rw [idUnder, found]
      exact mem_of_lookup found
    intro left isLeft right isRight same
    have entry :=
      List.inj_on_of_nodup_map ids (listed left isLeft)
        (listed right isRight) same
    exact congrArg Prod.fst entry

end Weighed

/-! ## Answers and questions -/

/-- Every weight belongs to an answer. -/
def WeightsOwned (catalogue : Catalogue) : Prop :=
  ∀ weight ∈ catalogue.answerCategoryWeights,
    weight.answerId ∈ catalogue.answerIds

theorem WeightsOwned.adds {catalogue after : Catalogue}
    {added : Addition} (owned : WeightsOwned catalogue)
    (adds : Adds catalogue after added)
    (ownedAdded :
      ∀ weight ∈ added.answerCategoryWeights,
        weight.answerId ∈ added.answers.map AssessmentAnswer.id) :
    WeightsOwned after := by
  intro weight member
  rw [adds.answerCategoryWeights] at member
  rcases List.mem_append.mp member with old | new
  · exact adds.answerIds (owned weight old)
  · rw [Catalogue.answerIds, adds.answers, List.map_append]
    exact List.mem_append_right _ (ownedAdded weight new)

/-- Rows without weights leave the weights owned. -/
theorem WeightsOwned.adds_none {catalogue after : Catalogue}
    {added : Addition} (owned : WeightsOwned catalogue)
    (adds : Adds catalogue after added)
    (none : added.answerCategoryWeights = []) : WeightsOwned after := by
  apply owned.adds adds
  intro weight member
  rw [none] at member
  exact (List.not_mem_nil member).elim

/-- What the questions of a request find in the tables. -/
structure Ready (languages : List LanguageId)
    (categoryIdMap : List (ArrayKey × CategoryId))
    (catalogue : Catalogue) : Prop where
  translated : catalogue.Translated languages
  weights : WeightsOwned catalogue
  listed : ∀ entry ∈ categoryIdMap, entry.2 ∈ catalogue.categoryIds

section Questions

variable {languages : List LanguageId}
  {categoryIdMap : List (ArrayKey × CategoryId)} {catalogue : Catalogue}

theorem Ready.weighedCategories_of_new
    (ready : Ready languages categoryIdMap catalogue) {id : AnswerId}
    (new : id ∉ catalogue.answerIds) :
    weighedCategories catalogue id = [] := by
  rw [weighedCategories, List.map_eq_nil_iff, List.filter_eq_nil_iff]
  intro weight member isOwner
  rw [decide_eq_true_eq] at isOwner
  exact new (isOwner ▸ ready.weights weight member)

theorem exists_storeAnswer_iff
    (ready : Ready languages categoryIdMap catalogue)
    (ids : (categoryIdMap.map Prod.snd).Nodup)
    (scoringMode : ScoringMode) (questionId : QuestionId)
    (entry : ArrayKey × AnswerData) :
    (∃ after,
        storeAnswer scoringMode categoryIdMap questionId catalogue
          entry = .ok after) ↔
      entry.2.Storable scoringMode (categoryIdMap.map Prod.fst)
        entry.1 := by
  have new (order : ℤ) :
      translatedLanguages
          (catalogue.createAnswer questionId entry.2.answerText
            order).answerTranslations
          catalogue.nextAnswerId = [] :=
    translatedLanguages_of_new ready.translated.answers
      (freshKey_not_mem _)
  have translations (order : ℤ) :=
    exists_storeTranslations_iff (id : TranslationData → TranslationData)
      (fun reached languageId text _ =>
        translate_eq_map reached.answerTranslations
          { ownerId := catalogue.nextAnswerId
            languageId := languageId
            content := text }
          fun table => { reached with answerTranslations := table })
      (fun _ _ => rfl) entry.2.translations (new order)
  have weights {order : ℤ} {reached : Catalogue}
      (translates :
        storeTranslations (fun translation => translation)
          (fun reached languageId text _ =>
            reached.translateAnswer catalogue.nextAnswerId languageId
              text)
          entry.2.translations
          (catalogue.createAnswer questionId entry.2.answerText order) =
            .ok reached) :
      (∃ after,
          entry.2.categories.foldlM
            (storeWeight categoryIdMap catalogue.nextAnswerId) reached =
              .ok after) ↔
        (entry.2.weighedKeys (categoryIdMap.map Prod.fst)).Nodup := by
    have adds :=
      adds_storeTranslations translates
        (adds_translate fun _ => adds_withTranslations _ _ _ _ _)
    have none :
        weighedCategories reached catalogue.nextAnswerId = [] := by
      rw [weighedCategories, adds.answerCategoryWeights]
      rw [show
        (catalogue.createAnswer questionId entry.2.answerText
          order).answerCategoryWeights ++
            Addition.nothing.answerCategoryWeights =
          catalogue.answerCategoryWeights from List.append_nil _]
      exact ready.weighedCategories_of_new (freshKey_not_mem _)
    rw [AnswerData.weighedKeys, ← nodup_weighed_iff ids]
    exact
      exists_foldlM_insert_iff_nodup
        (insertsKeys_storeWeight categoryIdMap catalogue.nextAnswerId)
        entry.2.categories
        (fun each member =>
          adds.categoryIds (ready.listed each member))
        none
  constructor
  · rintro ⟨after, returns⟩
    rcases bind_eq_ok_iff.mp returns with ⟨order, isOrder, returns⟩
    rcases bind_eq_ok_iff.mp returns with ⟨reached, translates, returns⟩
    refine
      ⟨(exists_orderOr_iff _ _).mp ⟨order, isOrder⟩,
        (translations order).mp ⟨reached, translates⟩, ?_⟩
    rintro rfl
    exact (weights translates).mp ⟨after, returns⟩
  · rintro ⟨hasOrder, different, apart⟩
    rcases (exists_orderOr_iff _ _).mpr hasOrder with ⟨order, isOrder⟩
    rcases (translations order).mpr different with ⟨reached, translates⟩
    cases scoringMode with
    | percentile =>
        exact
          ⟨_, bind_eq_ok_iff.mpr
            ⟨order, isOrder,
              bind_eq_ok_iff.mpr ⟨reached, translates, rfl⟩⟩⟩
    | categorical =>
        rcases (weights translates).mpr (apart rfl) with
          ⟨after, attached⟩
        exact
          ⟨after, bind_eq_ok_iff.mpr
            ⟨order, isOrder,
              bind_eq_ok_iff.mpr ⟨reached, translates, attached⟩⟩⟩

/-- A stored answer leaves the tables ready. -/
theorem Ready.storeAnswer
    (ready : Ready languages categoryIdMap catalogue)
    {scoringMode : ScoringMode} {questionId : QuestionId}
    {entry : ArrayKey × AnswerData} {after : Catalogue}
    (listed : ListedIn id entry.2.translations languages)
    (returns :
      storeAnswer scoringMode categoryIdMap questionId catalogue entry =
        .ok after) :
    Ready languages categoryIdMap after := by
  rcases storeAnswer_adds returns with ⟨rows, adds, stored⟩
  constructor
  · exact
      (translates_storeAnswer ready.translated listed returns).translated
  · apply ready.weights.adds adds
    intro weight member
    simp only [AnswerRows.addition, List.flatMap_singleton] at member
    rw [stored.answerCategoryWeights] at member
    exact
      owned_weightRows scoringMode categoryIdMap rows.answer.id entry.2
        weight member
  · intro each member
    exact adds.categoryIds (ready.listed each member)

theorem exists_storeQuestion_iff
    (ready : Ready languages categoryIdMap catalogue)
    (ids : (categoryIdMap.map Prod.snd).Nodup)
    (scoringMode : ScoringMode) (assessmentId : AssessmentId)
    (question : QuestionData)
    (listed : ListedIn id question.translations languages)
    (answersListed :
      ∀ entry ∈ question.answers,
        ListedIn id entry.2.translations languages) :
    (∃ after,
        storeQuestion scoringMode categoryIdMap assessmentId catalogue
          question = .ok after) ↔
      question.Storable scoringMode (categoryIdMap.map Prod.fst) := by
  have adds :=
    adds_createQuestion catalogue assessmentId question.questionType
      question.questionText question.order question.maxScore
  have created :=
    adds.translates ready.translated rfl rfl rfl rfl
  have isOwner :
      catalogue.nextQuestionId ∈
        (catalogue.createQuestion assessmentId question.questionType
          question.questionText question.order
          question.maxScore).questionIds := by
    rw [Catalogue.questionIds, adds.questions, List.map_append]
    exact List.mem_append_right _ List.mem_cons_self
  have new :
      translatedLanguages
          (catalogue.createQuestion assessmentId question.questionType
            question.questionText question.order
            question.maxScore).questionTranslations
          catalogue.nextQuestionId = [] :=
    translatedLanguages_of_new ready.translated.questions
      (freshKey_not_mem _)
  have translations :=
    exists_storeTranslations_iff (id : TranslationData → TranslationData)
      (fun reached languageId text _ =>
        translate_eq_map reached.questionTranslations
          { ownerId := catalogue.nextQuestionId
            languageId := languageId
            content := text }
          fun table => { reached with questionTranslations := table })
      (fun _ _ => rfl) question.translations new
  have answers {reached : Catalogue}
      (translates :
        storeTranslations (fun translation => translation)
          (fun reached languageId text _ =>
            reached.translateQuestion catalogue.nextQuestionId
              languageId text)
          question.translations
          (catalogue.createQuestion assessmentId question.questionType
            question.questionText question.order question.maxScore) =
            .ok reached) :
      (∃ after,
          question.answers.foldlM
            (storeAnswer scoringMode categoryIdMap
              catalogue.nextQuestionId) reached = .ok after) ↔
        ∀ entry ∈ question.answers,
          entry.2.Storable scoringMode (categoryIdMap.map Prod.fst)
            entry.1 := by
    have added :=
      adds.then_nothing
        (adds_storeTranslations translates
          (adds_translate fun _ => adds_withTranslations _ _ _ _ _))
    have withTranslations :=
      translates_storeTranslations created.translated listed
        (fun reached next languageId text translation earlier isListed
          step => by
            rcases earlier.adds with ⟨_, grown⟩
            exact
              translates_translate step
                (fun _ => adds_withTranslations _ _ _ _ _)
                (fun _ inserted =>
                  { earlier.translated with
                    questions :=
                      earlier.translated.questions.insert inserted
                        (grown.questionIds isOwner) isListed }))
        translates
    have readyThere : Ready languages categoryIdMap reached :=
      { translated := withTranslations.translated
        weights := ready.weights.adds_none added rfl
        listed := fun entry member =>
          added.categoryIds (ready.listed entry member) }
    exact
      @exists_foldlM_iff _ _ _ _ (Ready languages categoryIdMap) _ _
        (fun entry _ state holds =>
          exists_storeAnswer_iff holds ids scoringMode _ entry)
        (fun entry member state next holds step =>
          holds.storeAnswer (answersListed entry member) step)
        _ readyThere
  constructor
  · rintro ⟨after, returns⟩
    rcases bind_eq_ok_iff.mp returns with ⟨reached, translates, returns⟩
    refine ⟨translations.mp ⟨reached, translates⟩, ?_⟩
    rw [QuestionData.offered]
    cases kind : question.questionType with
    | written => exact fun _ member => (List.not_mem_nil member).elim
    | mcq =>
        rw [kind] at returns
        exact (answers translates).mp ⟨after, returns⟩
  · rintro ⟨different, storable⟩
    rcases translations.mpr different with ⟨reached, translates⟩
    rw [QuestionData.offered] at storable
    cases kind : question.questionType with
    | written =>
        refine
          ⟨reached, bind_eq_ok_iff.mpr ⟨reached, translates, ?_⟩⟩
        rw [kind]
    | mcq =>
        rw [kind] at storable
        rcases (answers translates).mpr storable with ⟨after, stored⟩
        refine ⟨after, bind_eq_ok_iff.mpr ⟨reached, translates, ?_⟩⟩
        rw [kind]
        exact stored

/-- A stored question leaves the tables ready. -/
theorem Ready.storeQuestion
    (ready : Ready languages categoryIdMap catalogue)
    {scoringMode : ScoringMode} {assessmentId : AssessmentId}
    {question : QuestionData} {after : Catalogue}
    (listed : ListedIn id question.translations languages)
    (answersListed :
      ∀ entry ∈ question.answers,
        ListedIn id entry.2.translations languages)
    (returns :
      storeQuestion scoringMode categoryIdMap assessmentId catalogue
        question = .ok after) :
    Ready languages categoryIdMap after := by
  rcases storeQuestion_adds returns with ⟨rows, added, stored⟩
  constructor
  · exact
      (translates_storeQuestion ready.translated listed answersListed
        returns).translated
  · apply ready.weights.adds added.adds
    intro weight member
    simp only [QuestionRows.addition, AnswerRows.addition,
      List.flatMap_singleton, List.mem_flatMap] at member
    rcases member with ⟨below, isBelow, isWeight⟩
    rcases exists_entry_of_row stored.answers isBelow with
      ⟨entry, _, holds⟩
    rw [holds.answerCategoryWeights] at isWeight
    have isOwner :=
      owned_weightRows scoringMode categoryIdMap below.answer.id entry.2
        weight isWeight
    rw [List.mem_singleton.mp isOwner]
    simp only [QuestionRows.addition, AnswerRows.addition,
      List.flatMap_singleton, List.map_map]
    exact List.mem_map.mpr ⟨below, isBelow, rfl⟩
  · intro each member
    exact added.adds.categoryIds (ready.listed each member)

end Questions

/-! ## The whole request -/

/-- Titles are stored when their languages differ. -/
theorem exists_translateAssessments_iff {id : AssessmentId}
    {titles : List TitleData} {catalogue : Catalogue}
    (new :
      translatedLanguages catalogue.assessmentTranslations id = []) :
    (∃ after,
        titles.foldlM
          (fun reached translation =>
            reached.translateAssessment id translation.languageId
              { title := translation.title
                description := translation.description })
          catalogue = .ok after) ↔
      (titles.map TitleData.languageId).Nodup := by
  have inserts :
      InsertsKeys
        (fun reached (translation : TitleData) =>
          Catalogue.translateAssessment reached id
            translation.languageId
            { title := translation.title
              description := translation.description })
        (fun reached =>
          translatedLanguages reached.assessmentTranslations id)
        (fun translation => some translation.languageId)
        (fun _ => True) := by
    constructor
    · intro reached translation _ none
      cases none
    · intro reached translation languageId _ isLanguage
      cases isLanguage
      have inserted :=
        exists_insertTranslation_iff reached.assessmentTranslations
          { ownerId := id
            languageId := translation.languageId
            content :=
              { title := translation.title
                description := translation.description : TitleText } }
      rw [← inserted]
      simp only [Catalogue.translateAssessment, translate_eq_map,
        map_eq_ok_iff]
      constructor
      · rintro ⟨_, after, returns, _⟩
        exact ⟨after, returns⟩
      · rintro ⟨after, returns⟩
        exact ⟨_, after, returns, rfl⟩
    · intro reached translation languageId after _ isLanguage stepped
      cases isLanguage
      rw [Catalogue.translateAssessment, translate_eq_map,
        map_eq_ok_iff] at stepped
      rcases stepped with ⟨inserted, returns, rfl⟩
      exact ⟨translatedLanguages_insert returns, trivial⟩
  rw [exists_foldlM_insert_iff_nodup inserts titles trivial new,
    List.filterMap_eq_map']

/-- No title is left out. -/
theorem titles_eq_map (request : StoreRequest) :
    titles request = request.translations.map TitleData.trimmed := by
  apply List.filter_eq_self.mpr
  intro title member
  rcases List.mem_map.mp member with ⟨given, isGiven, rfl⟩
  exact decide_eq_true (request.requiredTitles given isGiven)

theorem languages_of_titles (request : StoreRequest) :
    (titles request).map TitleData.languageId =
      request.translations.map TitleData.languageId := by
  rw [titles_eq_map, List.map_map]
  rfl

theorem weightsOwned_of_rowsRefer {catalogue : Catalogue}
    (refers : catalogue.RowsRefer) : WeightsOwned catalogue := by
  intro weight member
  rcases refers.answerCategoryWeights weight member with
    ⟨answer, isAnswer, _, _, _, _, isId, _⟩
  exact List.mem_map.mpr ⟨answer, isAnswer, isId⟩

/-- The keys of `$categoryIdMap`, whose categories are all different. -/
theorem categoryIdMap_of_storeCategories {request : StoreRequest}
    {assessmentId : AssessmentId} {catalogue : Catalogue}
    {stored : StoredCategories}
    (returns :
      storeCategories request assessmentId catalogue = .ok stored) :
    stored.categoryIdMap.map Prod.fst =
        (categoryEntries request).map Prod.fst ∧
      (stored.categoryIdMap.map Prod.snd).Nodup ∧
      ∀ entry ∈ stored.categoryIdMap,
        entry.2 ∈ stored.catalogue.categoryIds := by
  rcases storeCategories_adds returns with ⟨keyed, adds, kept⟩
  have isMap :
      stored.categoryIdMap = keyed.map KeyedCategory.idEntry := by
    rw [adds.categoryIdMap, List.nil_append]
  have ids :
      stored.categoryIdMap.map Prod.snd =
        (keyed.map Prod.snd).map AssessmentCategory.id := by
    rw [isMap, List.map_map, List.map_map]
    rfl
  have all :
      stored.catalogue.categoryIds =
        catalogue.categoryIds ++ stored.categoryIdMap.map Prod.snd := by
    rw [Catalogue.categoryIds, adds.catalogue.categories,
      List.map_append, ids]
    rfl
  refine ⟨?_, ?_, ?_⟩
  · rw [isMap, List.map_map]
    have same :
        (categoryEntries request).map Prod.fst =
          keyed.map (Prod.fst ∘ KeyedCategory.idEntry) :=
      map_eq_of_forall₂ kept fun _ _ holds => holds.1.symm
    exact same.symm
  · have distinct : stored.catalogue.categoryIds.Nodup :=
      stored.catalogue.categoryKeys
    rw [all] at distinct
    exact (List.nodup_append.mp distinct).2.1
  · intro entry member
    rw [all]
    exact List.mem_append_right _ (List.mem_map_of_mem member)

/-- What `store` finds when it comes to the questions. -/
theorem ready_of_storeCategories {request : StoreRequest}
    {assessmentId : AssessmentId} {languages : List LanguageId}
    {catalogue : Catalogue} {stored : StoredCategories}
    (translated : catalogue.Translated languages)
    (weights : WeightsOwned catalogue)
    (mentioned : mentionedLanguages request ⊆ languages)
    (returns :
      storeCategories request assessmentId catalogue = .ok stored) :
    Ready languages stored.categoryIdMap stored.catalogue := by
  rcases storeCategories_adds returns with ⟨keyed, adds, _⟩
  exact
    { translated :=
        (translates_storeCategories translated
          (fun _ member => listedIn_category mentioned member)
          returns).translated
      weights := weights.adds_none adds.catalogue rfl
      listed := (categoryIdMap_of_storeCategories returns).2.2 }

/-- A payload can be stored exactly when the tables can hold it. -/
theorem returns_iff {catalogue : Catalogue} {languages : List LanguageId}
    (refers : catalogue.RowsRefer)
    (listed : catalogue.Translated languages) (request : StoreRequest) :
    (∃ after, store catalogue request = .ok after) ↔
      request.Storable := by
  have translated :
      catalogue.Translated (languages ++ mentionedLanguages request) :=
    listed.mono (List.subset_append_left _ _)
  have mentioned :
      mentionedLanguages request ⊆
        languages ++ mentionedLanguages request :=
    List.subset_append_right _ _
  generalize languages ++ mentionedLanguages request = all
    at translated mentioned
  have new :
      translatedLanguages
          (catalogue.createAssessment request.type request.scoringMode
            (maxTotalScore request) request.status request.startDate
            request.endDate).assessmentTranslations
          catalogue.nextAssessmentId = [] :=
    translatedLanguages_of_new translated.assessments
      (freshKey_not_mem _)
  have titling
      {titled : Catalogue}
      (translates :
        (titles request).foldlM
          (fun reached translation =>
            reached.translateAssessment catalogue.nextAssessmentId
              translation.languageId
              { title := translation.title
                description := translation.description })
          (catalogue.createAssessment request.type request.scoringMode
            (maxTotalScore request) request.status request.startDate
            request.endDate) = .ok titled) :
      titled.Translated all ∧ WeightsOwned titled := by
    refine ⟨translates_titles translated mentioned translates, ?_⟩
    exact
      foldlM_invariant _ WeightsOwned
        (fun _ _ _ owned step =>
          owned.adds_none
            (adds_translate
              (fun _ => adds_withTranslations _ _ _ _ _) step)
            rfl)
        translates
        ((weightsOwned_of_rowsRefer refers).adds_none
          (adds_createAssessment catalogue _ _ _ _ _ _) rfl)
  have questions
      {titled : Catalogue} {stored : StoredCategories}
      (holds : titled.Translated all ∧ WeightsOwned titled)
      (storing :
        storeCategories request catalogue.nextAssessmentId titled =
          .ok stored) :
      (∃ after,
          request.questions.foldlM
            (storeQuestion request.scoringMode stored.categoryIdMap
              catalogue.nextAssessmentId)
            stored.catalogue = .ok after) ↔
        ∀ question ∈ request.questions,
          question.Storable request.scoringMode
            ((categoryEntries request).map Prod.fst) := by
    rcases categoryIdMap_of_storeCategories storing with
      ⟨keys, distinct, _⟩
    rw [← keys]
    exact
      @exists_foldlM_iff _ _ _ _ (Ready all stored.categoryIdMap) _ _
        (fun question member state ready =>
          exists_storeQuestion_iff ready distinct _ _ question
            (listedIn_question mentioned member)
            (fun _ isEntry => listedIn_answer mentioned member isEntry))
        (fun question member state next ready step =>
          ready.storeQuestion (listedIn_question mentioned member)
            (fun _ isEntry => listedIn_answer mentioned member isEntry)
            step)
        _ (ready_of_storeCategories holds.1 holds.2 mentioned storing)
  rw [store, if_neg (titles_ne_nil request)]
  constructor
  · rintro ⟨after, returns⟩
    rcases bind_eq_ok_iff.mp returns with ⟨titled, translates, returns⟩
    rcases bind_eq_ok_iff.mp returns with ⟨stored, storing, returns⟩
    have holds := titling translates
    constructor
    · rw [← languages_of_titles]
      exact (exists_translateAssessments_iff new).mp ⟨titled, translates⟩
    · exact
        (exists_storeCategories_iff holds.1
          (fun _ member => listedIn_category mentioned member) _).mp
            ⟨stored, storing⟩
    · exact (questions holds storing).mp ⟨after, returns⟩
  · rintro ⟨different, categories, storable⟩
    rw [← languages_of_titles] at different
    rcases (exists_translateAssessments_iff new).mpr different with
      ⟨titled, translates⟩
    have holds := titling translates
    rcases
        (exists_storeCategories_iff holds.1
          (fun _ member => listedIn_category mentioned member) _).mpr
            categories with
      ⟨stored, storing⟩
    rcases (questions holds storing).mpr storable with ⟨after, returns⟩
    exact
      ⟨after, bind_eq_ok_iff.mpr
        ⟨titled, translates,
          bind_eq_ok_iff.mpr ⟨stored, storing, returns⟩⟩⟩

/-! ## Authored catalogues -/

/-- The translations of a catalogue are written in some languages. -/
def HasLanguages (catalogue : Catalogue) : Prop :=
  ∃ languages, catalogue.Translated languages

theorem hasLanguages_ofUsers (users : List UserId) :
    HasLanguages (Catalogue.ofUsers users) :=
  ⟨[], fun _ member => (List.not_mem_nil member).elim,
    fun _ member => (List.not_mem_nil member).elim,
    fun _ member => (List.not_mem_nil member).elim,
    fun _ member => (List.not_mem_nil member).elim⟩

theorem rowsRefer_ofUsers (users : List UserId) :
    (Catalogue.ofUsers users).RowsRefer where
  categories := fun _ member => (List.not_mem_nil member).elim
  questions := fun _ member => (List.not_mem_nil member).elim
  answers := fun _ member => (List.not_mem_nil member).elim
  answerScores := fun _ member => (List.not_mem_nil member).elim
  answerCategoryWeights := fun _ member => (List.not_mem_nil member).elim

theorem hasLanguages_store {catalogue after : Catalogue}
    {request : StoreRequest}
    (returns : store catalogue request = .ok after)
    (holds : HasLanguages catalogue) : HasLanguages after := by
  rcases holds with ⟨languages, translated⟩
  exact
    ⟨languages ++ mentionedLanguages request,
      translated_store
        (translated.mono (List.subset_append_left _ _))
        (List.subset_append_right _ _) returns⟩

theorem refers_authored (users : List UserId)
    (requests : List StoreRequest) :
    (authored users requests).RowsRefer ∧
      HasLanguages (authored users requests) := by
  apply
    authored_invariant
      (fun catalogue => catalogue.RowsRefer ∧ HasLanguages catalogue)
      ⟨rowsRefer_ofUsers users, hasLanguages_ofUsers users⟩
  rintro catalogue _ ⟨refers, listed⟩ request
  rw [afterStore]
  cases returns : store catalogue request with
  | error error => exact ⟨refers, listed⟩
  | ok after =>
      exact
        ⟨rowsRefer_store returns refers, hasLanguages_store returns listed⟩

/--
After any requests, `store` returns exactly for the payloads that the tables
can hold: its new rows never collide with rows that are there, and what it
refuses depends on the payload alone.
-/
theorem stored_exactly_when_storable (users : List UserId)
    (requests : List StoreRequest) (request : StoreRequest) :
    (∃ after, store (authored users requests) request = .ok after) ↔
      request.Storable := by
  rcases refers_authored users requests with
    ⟨refers, languages, translated⟩
  exact returns_iff refers translated request

end AssessmentController

end SultanPass
