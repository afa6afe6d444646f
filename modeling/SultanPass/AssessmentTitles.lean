import SultanPass.FaithfulAuthoring
import SultanPass.LanguageController

/-!
# The titles of assessments

`AssessmentController::store` writes one title row for each title of its
payload, at least one.  Later the rows of an assessment are those titles
whose language still exists (`titles_of_reachable`): the guard of
`LanguageController::destroy` asks about users and not about titles.
-/

namespace SultanPass

open SultanPass.Library

/-- `$assessment->translations`. -/
def Catalogue.titlesOf (catalogue : Catalogue) (id : AssessmentId) :
    List AssessmentTranslation :=
  catalogue.assessmentTranslations.rows.filter fun row =>
    row.ownerId = id

namespace AssessmentController

/-! ## What `store` does to the titles -/

/-- The row of a title. -/
def TitleData.row (id : AssessmentId) (translation : TitleData) :
    AssessmentTranslation where
  ownerId := id
  languageId := translation.languageId
  content :=
    { title := translation.title
      description := translation.description }

theorem rows_of_insertTranslation
    {Owner Content : Type} [DecidableEq Owner]
    {table after :
      KeyedTable (Translation.key : Translation Owner Content → _)}
    {row : Translation Owner Content}
    (returns : Catalogue.insertTranslation table row = .ok after) :
    after.rows = table.rows ++ [row] := by
  unfold Catalogue.insertTranslation at returns
  cases found : table.find? row.key with
  | some other =>
      rw [found] at returns
      cases returns
  | none =>
      rw [found] at returns
      cases returns
      exact KeyedTable.rows_insert_of_new table row found

/-- Every title becomes a row, in order. -/
theorem rows_of_translateAssessments
    {id : AssessmentId} {translations : List TitleData}
    {catalogue after : Catalogue}
    (returns :
      translations.foldlM
          (fun reached translation =>
            reached.translateAssessment id translation.languageId
              { title := translation.title
                description := translation.description })
          catalogue = .ok after) :
    after.assessmentTranslations.rows =
      catalogue.assessmentTranslations.rows ++
        translations.map (TitleData.row id) := by
  induction translations generalizing catalogue with
  | nil =>
      cases returns
      exact (List.append_nil _).symm
  | cons translation rest induction =>
      rw [List.foldlM_cons, bind_eq_ok_iff] at returns
      rcases returns with ⟨next, translated, later⟩
      rcases bind_eq_ok_iff.mp translated with ⟨table, inserted, ⟨⟩⟩
      rw [induction later, rows_of_insertTranslation inserted,
        List.append_assoc]
      rfl

/-- The titles are not touched. -/
def SameTitles (before after : Catalogue) : Prop :=
  after.assessmentTranslations = before.assessmentTranslations

theorem sameTitles_storeTranslations
    {Entry : Type} {data : Entry → TranslationData}
    {create :
      Catalogue → LanguageId → String → Entry →
        Except PhpError Catalogue}
    {entries : List Entry} {catalogue after : Catalogue}
    (returns :
      storeTranslations data create entries catalogue = .ok after)
    (keeps : ∀ {reached languageId text entry after},
      create reached languageId text entry = .ok after →
        SameTitles reached after) :
    SameTitles catalogue after := by
  apply
    foldlM_invariant _ (fun reached => SameTitles catalogue reached)
      ?_ returns rfl
  intro entry reached next earlier step
  split at step
  · split_ifs at step
    · cases step
      exact earlier
    · exact (keeps step).trans earlier
  · cases step
    exact earlier

/-- One translation, put into a table that does not hold the titles. -/
theorem sameTitles_translate {Owner Content : Type} [DecidableEq Owner]
    {table :
      KeyedTable (Translation.key : Translation Owner Content → _)}
    {row : Translation Owner Content}
    {put :
      KeyedTable (Translation.key : Translation Owner Content → _) →
        Catalogue}
    {catalogue after : Catalogue}
    (puts : ∀ inserted, SameTitles catalogue (put inserted))
    (returns :
      (do
        let inserted ← Catalogue.insertTranslation table row
        .ok (put inserted)) = .ok after) :
    SameTitles catalogue after := by
  rcases bind_eq_ok_iff.mp returns with ⟨inserted, _, ⟨⟩⟩
  exact puts inserted

theorem sameTitles_storeCategories
    {request : StoreRequest} {assessmentId : AssessmentId}
    {catalogue : Catalogue} {stored : StoredCategories}
    (returns :
      storeCategories request assessmentId catalogue = .ok stored) :
    SameTitles catalogue stored.catalogue := by
  unfold storeCategories at returns
  cases mode : request.scoringMode with
  | percentile =>
      rw [mode] at returns
      cases returns
      rfl
  | categorical =>
      rw [mode] at returns
      apply
        foldlM_invariant _
          (fun reached : StoredCategories =>
            SameTitles catalogue reached.catalogue)
          ?_ returns rfl
      intro entry reached next earlier step
      rcases bind_eq_ok_iff.mp step with ⟨_, _, step⟩
      rcases bind_eq_ok_iff.mp step with ⟨translated, translates, ⟨⟩⟩
      have kept :=
        sameTitles_storeTranslations translates
          (sameTitles_translate fun _ => rfl)
      exact kept.trans earlier

theorem sameTitles_storeWeight
    {categoryIdMap : List (ArrayKey × CategoryId)}
    {answerId : AnswerId} {catalogue after : Catalogue}
    {entry : ArrayKey × Option ℚ≥0}
    (returns :
      storeWeight categoryIdMap answerId catalogue entry = .ok after) :
    SameTitles catalogue after := by
  unfold storeWeight at returns
  split at returns
  · rw [Catalogue.attachCategory] at returns
    split_ifs at returns
    cases returns
    rfl
  · cases returns
    rfl

theorem sameTitles_storeAnswer
    {scoringMode : ScoringMode}
    {categoryIdMap : List (ArrayKey × CategoryId)}
    {questionId : QuestionId} {catalogue after : Catalogue}
    {entry : ArrayKey × AnswerData}
    (returns :
      storeAnswer scoringMode categoryIdMap questionId catalogue entry =
        .ok after) :
    SameTitles catalogue after := by
  rcases bind_eq_ok_iff.mp returns with ⟨_, _, returns⟩
  rcases bind_eq_ok_iff.mp returns with ⟨translated, translates, returns⟩
  have kept :=
    sameTitles_storeTranslations translates
      (sameTitles_translate fun _ => rfl)
  change SameTitles catalogue translated at kept
  cases scoringMode with
  | percentile =>
      cases returns
      exact kept
  | categorical =>
      exact
        foldlM_invariant _ (fun reached => SameTitles catalogue reached)
          (fun _ _ _ earlier step =>
            (sameTitles_storeWeight step).trans earlier)
          returns kept

theorem sameTitles_storeQuestion
    {scoringMode : ScoringMode}
    {categoryIdMap : List (ArrayKey × CategoryId)}
    {assessmentId : AssessmentId} {catalogue after : Catalogue}
    {question : QuestionData}
    (returns :
      storeQuestion scoringMode categoryIdMap assessmentId catalogue
        question = .ok after) :
    SameTitles catalogue after := by
  rcases bind_eq_ok_iff.mp returns with ⟨translated, translates, returns⟩
  have kept :=
    sameTitles_storeTranslations translates
      (sameTitles_translate fun _ => rfl)
  change SameTitles catalogue translated at kept
  cases kind : question.questionType with
  | written =>
      rw [kind] at returns
      cases returns
      exact kept
  | mcq =>
      rw [kind] at returns
      exact
        foldlM_invariant _ (fun reached => SameTitles catalogue reached)
          (fun _ _ _ earlier step =>
            (sameTitles_storeAnswer step).trans earlier)
          returns kept

/-- A returning request adds one assessment with the rows of its titles. -/
theorem titles_of_store
    {catalogue after : Catalogue} {request : StoreRequest}
    (returns : store catalogue request = .ok after) :
    after.assessments =
        catalogue.assessments ++ [assessmentRow catalogue request] ∧
      after.assessmentTranslations.rows =
        catalogue.assessmentTranslations.rows ++
          (titles request).map
            (TitleData.row catalogue.nextAssessmentId) := by
  constructor
  · rcases store_adds returns with ⟨rows, adds, stored⟩
    rw [← stored.assessment]
    exact adds.assessments
  · rw [store, if_neg (titles_ne_nil request)] at returns
    rcases bind_eq_ok_iff.mp returns with
      ⟨translated, translates, returns⟩
    rcases bind_eq_ok_iff.mp returns with ⟨stored, storing, returns⟩
    have kept : SameTitles stored.catalogue after :=
      foldlM_invariant _ (fun reached => SameTitles _ reached)
        (fun _ _ _ earlier step =>
          (sameTitles_storeQuestion step).trans earlier)
        returns rfl
    have same : SameTitles translated after :=
      kept.trans (sameTitles_storeCategories storing)
    rw [same, rows_of_translateAssessments translates]
    rfl

end AssessmentController

/-! ## Requests -/

namespace AssessmentTitles

open AssessmentController

variable {services : Services}

/-- The requests of both controllers. -/
inductive Request where
  | storeAssessment (actor : Option UserId) (locale : String)
      (payload : StoreRequest)
  | storeLanguage (actor : Option UserId)
      (input : LanguageController.LanguageInput)
  | updateLanguage (actor : Option UserId) (languageId : LanguageId)
      (input : LanguageController.LanguageInput)
  | destroyLanguage (actor : Option UserId) (languageId : LanguageId)

def Request.perform (installation : Installation services) :
    Request →
      Except Interruption (Installation services × RedirectResponse)
  | .storeAssessment actor locale payload =>
      storeAction installation actor locale payload
  | .storeLanguage actor input =>
      LanguageController.store installation actor input
  | .updateLanguage actor languageId input =>
      LanguageController.update installation actor languageId input
  | .destroyLanguage actor languageId =>
      LanguageController.destroy installation actor languageId

/-- An interrupted request leaves the tables as they were. -/
def next (installation : Installation services) (request : Request) :
    Installation services :=
  match request.perform installation with
  | .ok (after, _) => after
  | .error _ => installation

/-- An installation before the first assessment. -/
def beforeAssessments (accounts : AccountTables services) :
    Installation services where
  accounts := accounts
  catalogue :=
    Catalogue.ofUsers
      (accounts.users.rows.map fun user : UserAccount => user.id)

/-- A language is listed. -/
def HasLanguage (installation : Installation services)
    (languageId : LanguageId) : Prop :=
  languageId ∈ installation.accounts.languages.rows.map Language.id

instance (installation : Installation services)
    (languageId : LanguageId) :
    Decidable (HasLanguage installation languageId) :=
  inferInstanceAs (Decidable (_ ∈ _))

theorem hasLanguage_of_find?
    {installation : Installation services} {languageId : LanguageId}
    (found :
      (installation.accounts.languages.find? languageId).isSome =
        true) :
    HasLanguage installation languageId := by
  rcases Option.isSome_iff_exists.mp found with ⟨language, isFound⟩
  rcases (IndexedTable.find?_eq_some_iff _ _ _).mp isFound with
    ⟨member, rfl⟩
  exact List.mem_map_of_mem member

/-! ## What one request does -/

/-- The effects of a request on both tables. -/
inductive Effect (before : Installation services) :
    Request → Installation services → Prop where
  | nothing (request : Request) : Effect before request before
  | stored {after : Installation services} (actor : Option UserId)
      (locale : String) (payload : StoreRequest)
      (known :
        ∀ id ∈ mentionedLanguages payload, HasLanguage before id)
      (accounts : after.accounts = before.accounts)
      (storing : store before.catalogue payload = .ok after.catalogue) :
      Effect before (.storeAssessment actor locale payload) after
  | added (actor : Option UserId)
      (input : LanguageController.LanguageInput)
      (languages : LanguagesTable services)
      (ids :
        languages.rows.map Language.id =
          before.accounts.languages.rows.map Language.id ++
            [before.accounts.languages.nextKey])
      (counted :
        languages.nextKey = before.accounts.languages.nextKey + 1) :
      Effect before (.storeLanguage actor input)
        (before.withLanguages languages)
  | renamed (actor : Option UserId) (languageId : LanguageId)
      (input : LanguageController.LanguageInput)
      (languages : LanguagesTable services)
      (ids :
        languages.rows.map Language.id =
          before.accounts.languages.rows.map Language.id)
      (counted :
        languages.nextKey = before.accounts.languages.nextKey) :
      Effect before (.updateLanguage actor languageId input)
        (before.withLanguages languages)
  | deleted (actor : Option UserId) (languageId : LanguageId)
      (unassigned : ¬ before.LanguageAssigned languageId) :
      Effect before (.destroyLanguage actor languageId)
        (before.withoutLanguage languageId)

theorem effect_next (before : Installation services)
    (request : Request) :
    Effect before request (next before request) := by
  unfold next
  cases performed : request.perform before with
  | error interruption => exact Effect.nothing request
  | ok result =>
      rcases result with ⟨after, response⟩
      cases request with
      | storeAssessment actor locale payload =>
          rcases stored_of_storeAction performed with
            ⟨known, accounts, storing⟩
          exact
            Effect.stored actor locale payload
              (fun id mentioned =>
                hasLanguage_of_find? (known id mentioned))
              accounts storing
      | storeLanguage actor input =>
          rcases LanguageController.languages_of_store performed with
            ⟨languages, form, rfl, rows, counted⟩
          apply Effect.added actor input languages _ counted
          rw [rows, List.map_append]
          rfl
      | updateLanguage actor languageId input =>
          rcases LanguageController.languages_of_update performed with
            ⟨languages, rfl, ids, counted⟩
          exact
            Effect.renamed actor languageId input languages ids counted
      | destroyLanguage actor languageId =>
          rcases LanguageController.after_destroy performed with
            rfl | ⟨unassigned, rfl⟩
          · exact Effect.nothing _
          · exact Effect.deleted actor languageId unassigned

/-! ## The titles of an assessment -/

/-- The titles of a payload whose language is listed, as rows. -/
def remainingTitles (installation : Installation services)
    (id : AssessmentId) (payload : StoreRequest) :
    List AssessmentTranslation :=
  ((titles payload).map (TitleData.row id)).filter fun row =>
    HasLanguage installation row.languageId

/-- The rows of an assessment follow from its payload. -/
structure Titled (installation : Installation services)
    (id : AssessmentId) (payload : StoreRequest) : Prop where
  rows :
    installation.catalogue.titlesOf id =
      remainingTitles installation id payload
  given :
    ∀ title ∈ titles payload,
      title.languageId < installation.accounts.languages.nextKey
  assigned :
    ∀ title ∈ titles payload,
      installation.LanguageAssigned title.languageId →
        HasLanguage installation title.languageId

/-- Every title belongs to an assessment. -/
def TitlesOwned (catalogue : Catalogue) : Prop :=
  ∀ row ∈ catalogue.assessmentTranslations.rows,
    row.ownerId ∈ catalogue.assessments.map Assessment.id

theorem titlesOf_nextAssessmentId {catalogue : Catalogue}
    (owned : TitlesOwned catalogue) :
    catalogue.titlesOf catalogue.nextAssessmentId = [] := by
  unfold Catalogue.titlesOf
  rw [List.filter_eq_nil_iff]
  intro row member own
  rw [decide_eq_true_eq] at own
  have listed := owned row member
  rw [own] at listed
  exact freshKey_not_mem _ listed

/-- The titles of a payload name languages that are listed. -/
theorem hasLanguage_of_title
    {installation : Installation services} {payload : StoreRequest}
    (known :
      ∀ id ∈ mentionedLanguages payload, HasLanguage installation id)
    {title : TitleData} (member : title ∈ titles payload) :
    HasLanguage installation title.languageId := by
  apply known
  rcases List.mem_map.mp (List.mem_filter.mp member).1 with
    ⟨given, isGiven, rfl⟩
  unfold mentionedLanguages
  rw [List.append_assoc]
  exact
    List.mem_append_left _ (List.mem_map.mpr ⟨given, isGiven, rfl⟩)

theorem lt_nextKey_of_hasLanguage
    {installation : Installation services} {languageId : LanguageId}
    (listed : HasLanguage installation languageId) :
    languageId < installation.accounts.languages.nextKey := by
  rcases List.mem_map.mp listed with ⟨language, member, rfl⟩
  exact installation.accounts.languages.below language member

/-- The remaining titles depend on the languages that are listed. -/
theorem remainingTitles_congr
    {before after : Installation services} {payload : StoreRequest}
    (same :
      ∀ title ∈ titles payload,
        HasLanguage after title.languageId ↔
          HasLanguage before title.languageId)
    (id : AssessmentId) :
    remainingTitles after id payload =
      remainingTitles before id payload := by
  apply List.filter_congr
  intro row member
  rcases List.mem_map.mp member with ⟨title, isTitle, rfl⟩
  exact decide_eq_decide.mpr (same title isTitle)

/-! ## One request keeps it -/

/-- New languages take keys that no title has. -/
theorem Titled.withLanguages
    {installation : Installation services} {id : AssessmentId}
    {payload : StoreRequest} (titled : Titled installation id payload)
    {languages : LanguagesTable services}
    (same :
      ∀ languageId < installation.accounts.languages.nextKey,
        HasLanguage (installation.withLanguages languages) languageId ↔
          HasLanguage installation languageId)
    (counted :
      installation.accounts.languages.nextKey ≤ languages.nextKey) :
    Titled (installation.withLanguages languages) id payload where
  rows := by
    rw [remainingTitles_congr
      (fun title member => same _ (titled.given title member)) id]
    exact titled.rows
  given := fun title member =>
    Nat.lt_of_lt_of_le (titled.given title member) counted
  assigned := fun title member isAssigned =>
    (same _ (titled.given title member)).mpr
      (titled.assigned title member isAssigned)

theorem hasLanguage_withoutLanguage
    (installation : Installation services)
    (deleted languageId : LanguageId) :
    HasLanguage (installation.withoutLanguage deleted) languageId ↔
      HasLanguage installation languageId ∧ languageId ≠ deleted := by
  unfold HasLanguage
  constructor
  · intro listed
    rcases List.mem_map.mp listed with ⟨language, member, rfl⟩
    rcases (IndexedTable.mem_rows_delete _ _ _).mp member with
      ⟨old, other⟩
    exact ⟨List.mem_map_of_mem old, other⟩
  · rintro ⟨listed, other⟩
    rcases List.mem_map.mp listed with ⟨language, member, rfl⟩
    exact
      List.mem_map_of_mem
        ((IndexedTable.mem_rows_delete _ _ _).mpr ⟨member, other⟩)

/-- The deletion of a language removes the titles in it, and no others. -/
theorem titlesOf_withoutLanguage (catalogue : Catalogue)
    (deleted : LanguageId) (id : AssessmentId) :
    (catalogue.withoutLanguage deleted).titlesOf id =
      (catalogue.titlesOf id).filter fun row =>
        row.languageId ≠ deleted := by
  unfold Catalogue.titlesOf
  change
    (catalogue.assessmentTranslations.rows.filter _).filter _ =
      (catalogue.assessmentTranslations.rows.filter _).filter _
  rw [List.filter_filter, List.filter_filter]
  apply List.filter_congr
  intro row _
  exact Bool.and_comm _ _

theorem Titled.withoutLanguage
    {installation : Installation services} {id : AssessmentId}
    {payload : StoreRequest} (titled : Titled installation id payload)
    {deleted : LanguageId}
    (unassigned : ¬ installation.LanguageAssigned deleted) :
    Titled (installation.withoutLanguage deleted) id payload where
  rows := by
    have left := titlesOf_withoutLanguage installation.catalogue deleted id
    rw [titled.rows] at left
    apply left.trans
    unfold remainingTitles
    rw [List.filter_filter]
    apply List.filter_congr
    intro row _
    rw [← Bool.decide_and, decide_eq_decide,
      hasLanguage_withoutLanguage, and_comm]
  given := titled.given
  assigned := by
    intro title member isAssigned
    rw [hasLanguage_withoutLanguage]
    refine ⟨titled.assigned title member isAssigned, ?_⟩
    intro same
    apply unassigned
    rw [← same]
    exact isAssigned

/-- Another assessment brings titles of its own. -/
theorem Titled.stored
    {before after : Installation services} {id : AssessmentId}
    {payload request : StoreRequest} (titled : Titled before id payload)
    (accounts : after.accounts = before.accounts)
    (storing : store before.catalogue request = .ok after.catalogue)
    (other : id ≠ before.catalogue.nextAssessmentId) :
    Titled after id payload where
  rows := by
    have unchanged :
        after.catalogue.titlesOf id = before.catalogue.titlesOf id := by
      unfold Catalogue.titlesOf
      rw [(titles_of_store storing).2, List.filter_append]
      apply List.append_right_eq_self.mpr
      rw [List.filter_eq_nil_iff]
      intro row member
      rcases List.mem_map.mp member with ⟨title, _, rfl⟩
      rw [decide_eq_true_eq]
      exact Ne.symm other
    rw [unchanged, titled.rows]
    apply (remainingTitles_congr _ id).symm
    intro title _
    unfold HasLanguage
    rw [accounts]
  given := by
    rw [accounts]
    exact titled.given
  assigned := by
    intro title member isAssigned
    unfold Installation.LanguageAssigned at isAssigned
    unfold HasLanguage
    rw [accounts] at isAssigned ⊢
    exact titled.assigned title member isAssigned

/-- A new assessment has all its titles. -/
theorem titled_stored
    {before after : Installation services} {payload : StoreRequest}
    (owned : TitlesOwned before.catalogue)
    (known :
      ∀ id ∈ mentionedLanguages payload, HasLanguage before id)
    (accounts : after.accounts = before.accounts)
    (storing : store before.catalogue payload = .ok after.catalogue) :
    Titled after before.catalogue.nextAssessmentId payload := by
  have listed (title : TitleData) (member : title ∈ titles payload) :
      HasLanguage after title.languageId := by
    unfold HasLanguage
    rw [accounts]
    exact hasLanguage_of_title known member
  have rows :
      after.catalogue.titlesOf before.catalogue.nextAssessmentId =
        (titles payload).map
          (TitleData.row before.catalogue.nextAssessmentId) := by
    unfold Catalogue.titlesOf
    rw [(titles_of_store storing).2, List.filter_append]
    have old := titlesOf_nextAssessmentId owned
    unfold Catalogue.titlesOf at old
    rw [old, List.nil_append, List.filter_eq_self]
    intro row member
    rcases List.mem_map.mp member with ⟨title, _, rfl⟩
    exact decide_eq_true rfl
  constructor
  · rw [rows]
    symm
    apply List.filter_eq_self.mpr
    intro row member
    rcases List.mem_map.mp member with ⟨title, isTitle, rfl⟩
    exact decide_eq_true (listed title isTitle)
  · intro title member
    exact lt_nextKey_of_hasLanguage (listed title member)
  · intro title member _
    exact listed title member

theorem titlesOwned_store
    {catalogue after : Catalogue} {payload : StoreRequest}
    (owned : TitlesOwned catalogue)
    (storing : store catalogue payload = .ok after) :
    TitlesOwned after := by
  rcases titles_of_store storing with ⟨assessments, rows⟩
  unfold TitlesOwned
  rw [assessments, rows, List.map_append]
  intro row member
  rcases List.mem_append.mp member with old | new
  · exact List.mem_append_left _ (owned row old)
  · rcases List.mem_map.mp new with ⟨title, _, rfl⟩
    exact List.mem_append_right _ List.mem_cons_self

theorem titlesOwned_withoutLanguage
    {catalogue : Catalogue} (owned : TitlesOwned catalogue)
    (languageId : LanguageId) :
    TitlesOwned (catalogue.withoutLanguage languageId) :=
  fun row member => owned row (List.mem_filter.mp member).1

/-! ## Runs -/

/-- A request of the run stored the assessment. -/
def StoredBy (begun : Installation services) (requests : List Request)
    (assessment : Assessment) (payload : StoreRequest) : Prop :=
  ∃ earlier actor locale later,
    requests =
        earlier ++
          Request.storeAssessment actor locale payload :: later ∧
      assessment =
        assessmentRow (earlier.foldl next begun).catalogue payload

theorem StoredBy.later
    {begun : Installation services} {requests : List Request}
    {assessment : Assessment} {payload : StoreRequest}
    (stored : StoredBy begun requests assessment payload)
    (request : Request) :
    StoredBy begun (requests ++ [request]) assessment payload := by
  rcases stored with ⟨earlier, actor, locale, later, rfl, same⟩
  refine ⟨earlier, actor, locale, later ++ [request], ?_, same⟩
  rw [List.append_assoc, List.cons_append]

/-- What holds of the state that a run reaches. -/
structure Reached (begun : Installation services)
    (requests : List Request) (installation : Installation services) :
    Prop where
  owned : TitlesOwned installation.catalogue
  titled :
    ∀ assessment ∈ installation.catalogue.assessments,
      ∃ payload,
        StoredBy begun requests assessment payload ∧
          Titled installation assessment.id payload

/-- A request that stores nothing keeps what it keeps of each payload. -/
theorem Reached.keep
    {begun before after : Installation services}
    {requests : List Request} (reached : Reached begun requests before)
    (request : Request) (owned : TitlesOwned after.catalogue)
    (same :
      after.catalogue.assessments = before.catalogue.assessments)
    (keeps :
      ∀ {id payload}, Titled before id payload →
        Titled after id payload) :
    Reached begun (requests ++ [request]) after where
  owned := owned
  titled := by
    rw [same]
    intro assessment member
    rcases reached.titled assessment member with
      ⟨payload, stored, titled⟩
    exact ⟨payload, stored.later request, keeps titled⟩

theorem Reached.next
    {begun : Installation services} {requests : List Request}
    (reached : Reached begun requests (requests.foldl next begun))
    (request : Request) :
    Reached begun (requests ++ [request])
      (AssessmentTitles.next (requests.foldl AssessmentTitles.next begun)
        request) := by
  have effect :=
    effect_next (requests.foldl AssessmentTitles.next begun) request
  generalize arrived :
    AssessmentTitles.next (requests.foldl AssessmentTitles.next begun)
      request = after at effect ⊢
  clear arrived
  cases effect with
  | nothing =>
      exact reached.keep request reached.owned rfl fun titled => titled
  | stored actor locale payload known accounts storing =>
      refine ⟨titlesOwned_store reached.owned storing, ?_⟩
      rw [(titles_of_store storing).1]
      intro assessment member
      rcases List.mem_append.mp member with old | new
      · rcases reached.titled assessment old with
          ⟨request, stored, titled⟩
        refine
          ⟨request, stored.later _, titled.stored accounts storing ?_⟩
        intro same
        apply freshKey_not_mem
          ((requests.foldl AssessmentTitles.next
            begun).catalogue.assessments.map Assessment.id)
        change Catalogue.nextAssessmentId _ ∈ _
        rw [← same]
        exact List.mem_map_of_mem old
      · rw [List.mem_singleton.mp new]
        exact
          ⟨payload, ⟨requests, actor, locale, [], rfl, rfl⟩,
            titled_stored reached.owned known accounts storing⟩
  | added actor input languages ids counted =>
      refine reached.keep _ ?_ ?_ ?_
      · exact reached.owned
      · rfl
      intro id payload titled
      apply titled.withLanguages
      · intro languageId below
        unfold HasLanguage
        change languageId ∈ languages.rows.map Language.id ↔ _
        rw [ids, List.mem_append, List.mem_singleton]
        exact or_iff_left (Nat.ne_of_lt below)
      · rw [counted]
        exact Nat.le_succ _
  | renamed actor languageId input languages ids counted =>
      refine reached.keep _ ?_ ?_ ?_
      · exact reached.owned
      · rfl
      intro id payload titled
      apply titled.withLanguages
      · intro languageId _
        unfold HasLanguage
        change languageId ∈ languages.rows.map Language.id ↔ _
        rw [ids]
      · exact Nat.le_of_eq counted.symm
  | deleted actor languageId unassigned =>
      refine reached.keep _ ?_ ?_ ?_
      · exact titlesOwned_withoutLanguage reached.owned languageId
      · rfl
      intro id payload titled
      exact titled.withoutLanguage unassigned

theorem reached_foldl (accounts : AccountTables services)
    (requests : List Request) :
    Reached (beforeAssessments accounts) requests
      (requests.foldl next (beforeAssessments accounts)) := by
  induction requests using List.reverseRecOn with
  | nil =>
      constructor
      · intro row member
        exact (List.not_mem_nil member).elim
      · intro assessment member
        exact (List.not_mem_nil member).elim
  | append_singleton earlier request induction =>
      rw [List.foldl_append]
      exact induction.next request

/--
In every reachable state an assessment has those titles, of the at least
one that it was stored with, whose language is still listed; a title in a
language that users prefer is among them.  `destroy` refuses a language that
users prefer; any other goes, with the translations in it.
-/
theorem titles_of_reachable (accounts : AccountTables services)
    (requests : List Request) :
    let reached := requests.foldl next (beforeAssessments accounts)
    (∀ assessment ∈ reached.catalogue.assessments,
      ∃ payload,
        StoredBy (beforeAssessments accounts) requests assessment
            payload ∧
          titles payload ≠ [] ∧
          reached.catalogue.titlesOf assessment.id =
            remainingTitles reached assessment.id payload ∧
          ∀ title ∈ titles payload,
            reached.LanguageAssigned title.languageId →
              TitleData.row assessment.id title ∈
                reached.catalogue.titlesOf assessment.id) ∧
      ∀ actor languageId user language,
        reached.accounts.user? actor = some user →
        user.role = .admin →
        reached.accounts.languages.find? languageId = some language →
          (LanguageController.destroy reached actor languageId =
            if reached.LanguageAssigned languageId then
              .ok
                (reached,
                  backWithError "language"
                    "Cannot delete a language that is assigned to users.")
            else
              .ok
                (reached.withoutLanguage languageId,
                  redirectWithStatus "admin.languages.index" none
                    "Language deleted.")) ∧
            ∀ id,
              (reached.withoutLanguage languageId).catalogue.titlesOf
                  id =
                (reached.catalogue.titlesOf id).filter fun row =>
                  row.languageId ≠ languageId := by
  intro reached
  constructor
  · intro assessment member
    rcases (reached_foldl accounts requests).titled assessment member with
      ⟨payload, stored, titled⟩
    refine ⟨payload, stored, titles_ne_nil payload, titled.rows, ?_⟩
    intro title isTitle isAssigned
    rw [titled.rows]
    exact
      List.mem_filter.mpr
        ⟨List.mem_map_of_mem isTitle,
          decide_eq_true (titled.assigned title isTitle isAssigned)⟩
  · intro actor languageId user language isUser isAdmin found
    exact
      ⟨LanguageController.destroy_reached isUser isAdmin found,
        fun id => titlesOf_withoutLanguage reached.catalogue _ id⟩

/-- An assessment with one title, in a language that nobody prefers. -/
def arabicPayload : StoreRequest :=
  { characterPayload with
    translations :=
      [{ languageId := 2, title := "Character", description := none }]
    titleCount := by decide
    requiredTitles := by decide +kernel }

/-- The deletion of its language leaves the assessment without a title. -/
theorem untitled_after_destroy :
    let stored :=
      next (beforeAssessments sampleAccounts)
        (.storeAssessment (some 1) "en" arabicPayload)
    let deleted := next stored (.destroyLanguage (some 1) 2)
    (stored.catalogue.titlesOf 1).length = 1 ∧
      (LanguageController.destroy stored (some 1) 2).map Prod.snd =
        .ok
          (redirectWithStatus "admin.languages.index" none
            "Language deleted.") ∧
      deleted.catalogue.assessments.map Assessment.id = [1] ∧
      deleted.catalogue.titlesOf 1 = [] := by
  decide +kernel

end AssessmentTitles

end SultanPass
