import SultanPass.AccountReferences
import SultanPass.AuthoredReferences
import SultanPass.ReferencedRows

/-!
# Nothing refers to what is gone

In a run of the application every reference stays valid: those of the
accounts, of the authored rows and of what participants wrote, over all
controllers and the command.  Rows disappear in two ways only.  A deleted
language takes its translations with it and is not preferred by anybody; a
deleted user has no participation, hence no response, and is forgotten as a
grader and as an approver.
-/

namespace SultanPass

open SultanPass.Library
open SultanPass.Library.Routing
open SultanPass.PasswordResetRequestController (AccountRequest)

namespace Database

/-- More users, assessments and questions do no harm. -/
theorem References.of_catalogue {before after : Catalogue}
    {database : Database} (holds : References before database)
    (users : before.users ⊆ after.users)
    (assessments : before.assessments ⊆ after.assessments)
    (questions : before.questions ⊆ after.questions) :
    References after database where
  participations := by
    intro pair has
    rcases holds.participations pair has with
      ⟨isUser, assessment, found⟩
    rcases (Catalogue.assessment?_eq_some_iff _ _ _).mp found with
      ⟨member, own⟩
    exact
      ⟨users isUser, assessment,
        (Catalogue.assessment?_eq_some_iff _ _ _).mpr
          ⟨assessments member, own⟩⟩
  participated := holds.participated
  questions := by
    intro key response found
    rcases holds.questions key response found with
      ⟨question, isQuestion, belongs⟩
    rcases (Catalogue.question?_eq_some_iff _ _ _).mp isQuestion with
      ⟨member, own⟩
    exact
      ⟨question,
        (Catalogue.question?_eq_some_iff _ _ _).mpr
          ⟨questions member, own⟩,
        belongs⟩
  graders := fun key response found grader isGrader =>
    users (holds.graders key response found grader isGrader)

/-- A response that a deleted user leaves. -/
theorem response?_withoutUser {database : Database} {userId : UserId}
    {key : ResponseKey} {response : ParticipantResponse}
    (found :
      (database.withoutUser userId).response? key = some response) :
    ∃ old,
      database.response? key = some old ∧ key.1.participantId ≠ userId ∧
        response = old.withoutGrader userId := by
  rcases (KeyedTable.find?_eq_some_iff _ _ _).mp found with
    ⟨member, rfl⟩
  rcases List.mem_map.mp member with ⟨old, isOld, rfl⟩
  rcases List.mem_filter.mp isOld with ⟨listed, other⟩
  rw [ParticipantResponse.key_withoutGrader]
  exact
    ⟨old, (KeyedTable.find?_eq_some_iff _ _ _).mpr ⟨listed, rfl⟩,
      of_decide_eq_true other, rfl⟩

/-- A user without a participation is deleted from the catalogue. -/
theorem References.withoutUser {before after : Catalogue}
    {database : Database} (holds : References before database)
    {userId : UserId}
    (noParticipation :
      ∀ pair, database.HasParticipation pair →
        pair.participantId ≠ userId)
    (users :
      ∀ id ∈ before.users, id ≠ userId → id ∈ after.users)
    (assessments : after.assessments = before.assessments)
    (questions : after.questions = before.questions) :
    References after (database.withoutUser userId) where
  participations := by
    intro pair has
    rcases holds.participations pair has with
      ⟨isUser, assessment, found⟩
    refine ⟨users _ isUser (noParticipation pair has), assessment, ?_⟩
    unfold Catalogue.assessment?
    rw [assessments]
    exact found
  participated := by
    intro key response found
    rcases response?_withoutUser found with ⟨old, isOld, _⟩
    exact holds.participated key old isOld
  questions := by
    intro key response found
    rcases response?_withoutUser found with ⟨old, isOld, _⟩
    rcases holds.questions key old isOld with
      ⟨question, isQuestion, belongs⟩
    refine ⟨question, ?_, belongs⟩
    unfold Catalogue.question?
    rw [questions]
    exact isQuestion
  graders := by
    intro key response found grader isGrader
    rcases response?_withoutUser found with ⟨old, isOld, _, rfl⟩
    unfold ParticipantResponse.withoutGrader at isGrader
    split_ifs at isGrader with isOwn
    · cases isGrader
    · apply users grader (holds.graders key old isOld grader isGrader)
      rintro rfl
      exact isOwn isGrader

end Database

/-- A returning `destroy` deletes a user that nothing refers to. -/
theorem UserController.unreferenced_of_destroy {services : Services}
    {tables : AccountTables services} {actor : Option UserId}
    {userId : UserId} {referenced : Bool}
    {result : AccountTables services × RedirectResponse}
    (returns : destroy tables actor userId referenced = .ok result) :
    (tables.users.find? userId).isSome = true ∧
      (result.1 = tables ∨
        Deleted tables result.1 userId ∧ referenced = false ∧
          result.1.languages = tables.languages) := by
  unfold destroy at returns
  rcases bind_eq_ok_iff.mp returns with ⟨⟨admin, user⟩, reached, rest⟩
  rcases (administratorOf_eq_ok_iff _ _ _ _ _).mp reached with
    ⟨_, _, found⟩
  have own : user.id = userId :=
    ((IndexedTable.find?_eq_some_iff _ _ _).mp found).2
  subst own
  refine ⟨by rw [found]; rfl, ?_⟩
  dsimp only at rest
  split_ifs at rest with isOwn
  · cases rest
    exact Or.inl rfl
  · rcases bind_eq_ok_iff.mp rest with ⟨after, deletes, same⟩
    cases same
    rw [executed_eq_ok_iff] at deletes
    have deleted := deleted_of_deleteUser deletes
    unfold deleteUser at deletes
    split_ifs at deletes with forbidden
    cases deletes
    refine Or.inr ⟨deleted, ?_, rfl⟩
    cases referenced with
    | false => rfl
    | true => exact (forbidden rfl).elim

namespace Application

variable {services : Services}

/-- Everything that the tables refer to exists. -/
structure Consistent (app : Application services) : Prop where
  accounts : app.accounts.References
  rows : app.authored.RowsRefer
  translated : app.authored.Translated app.accounts.languageIds
  database : Database.References app.catalogue app.database

/-! ## Accounts -/

theorem participantId_ne_of_not_participates
    {app : Application services} {userId : UserId}
    (noParticipation : ¬ app.Participates userId) (pair : Pair)
    (has : app.database.HasParticipation pair) :
    pair.participantId ≠ userId := by
  rcases has with ⟨row, member, rfl⟩
  intro same
  exact noParticipation ⟨row, member, same⟩

theorem not_isDeletion_of_accountRequest? {data : RequestData}
    {action : Action} {keys : List ℕ} {accountRequest : AccountRequest}
    (isRequest :
      accountRequest? data action keys = some accountRequest) :
    ¬ AccountTables.IsDeletion accountRequest := by
  unfold accountRequest? at isRequest
  split at isRequest
  all_goals cases isRequest
  all_goals exact id

theorem Consistent.account {app : Application services}
    (holds : app.Consistent) (request : HttpRequest)
    {accountRequest : AccountRequest}
    (notDeletion : ¬ AccountTables.IsDeletion accountRequest) :
    (app.account request accountRequest).Consistent := by
  have keeps :
      AccountTables.Keeps app.accounts
        (app.account request accountRequest).accounts :=
    AccountTables.keeps_accountStep app.accounts notDeletion
  constructor
  · exact keeps.references holds.accounts
  · exact holds.rows
  · change app.authored.Translated (AccountTables.languageIds _)
    unfold AccountTables.languageIds
    rw [keeps.users.languages]
    exact holds.translated
  · exact
      holds.database.of_catalogue (fun id => keeps.users.users id)
        (fun _ => id) fun _ => id

theorem Consistent.destroyUser {app : Application services}
    (holds : app.Consistent) (request : HttpRequest) (userId : UserId) :
    (app.destroyUser request userId).Consistent := by
  unfold Application.destroyUser
  split
  · exact holds
  · rename_i after response destroys
    rcases UserController.unreferenced_of_destroy destroys with
      ⟨isUser, unchanged | ⟨deleted, unreferenced, languages⟩⟩
    · change after = app.accounts at unchanged
      subst unchanged
      rw [if_pos isUser]
      exact holds
    · change AccountTables.languages after = _ at languages
      have gone : after.users.find? userId = none := by
        rw [IndexedTable.find?_eq_none_iff, deleted.users]
        intro user member
        exact ((IndexedTable.mem_rows_delete _ _ _).mp member).2
      have noParticipation : ¬ app.Participates userId := by
        intro participates
        rw [decide_eq_true participates, Bool.or_true] at unreferenced
        cases unreferenced
      have users :
          ∀ id ∈ app.userIds, id ≠ userId →
            id ∈ AccountTables.userIds after := by
        intro id listed other
        rcases List.mem_map.mp listed with ⟨user, member, rfl⟩
        unfold AccountTables.userIds
        rw [deleted.users]
        exact
          List.mem_map_of_mem
            ((IndexedTable.mem_rows_delete _ _ _).mpr ⟨member, other⟩)
      have database :
          Database.References
            { app.authored with users := AccountTables.userIds after }
            (app.database.withoutUser userId) :=
        holds.database.withoutUser
          (participantId_ne_of_not_participates noParticipation) users
          rfl rfl
      constructor
      · exact holds.accounts.deleted deleted languages
      · exact holds.rows
      · change app.authored.Translated (AccountTables.languageIds after)
        unfold AccountTables.languageIds
        rw [languages]
        exact holds.translated
      · dsimp only
        rw [gone]
        exact database

/-! ## Languages and assessments -/

/-- The rows of the accounts do not depend on more languages. -/
theorem Consistent.withLanguages {app : Application services}
    (holds : app.Consistent) {languages : LanguagesTable services}
    (kept :
      app.accounts.languageIds ⊆ languages.rows.map Language.id) :
    Consistent
      { app with
        accounts := { app.accounts with languages := languages }
        authored := app.catalogue } where
  accounts :=
    { holds.accounts with
      preferred := fun user member id prefers =>
        kept (holds.accounts.preferred user member id prefers) }
  rows := holds.rows.withUsers app.userIds
  translated := (holds.translated.withUsers app.userIds).mono kept
  database := holds.database

theorem Consistent.withoutLanguage {app : Application services}
    (holds : app.Consistent) {languageId : LanguageId}
    (unassigned : ¬ app.installation.LanguageAssigned languageId) :
    Consistent
      { app with
        accounts :=
          (app.installation.withoutLanguage languageId).accounts
        authored := app.catalogue.withoutLanguage languageId } where
  accounts :=
    { holds.accounts with
      preferred := by
        intro user member id prefers
        rcases List.mem_map.mp
            (holds.accounts.preferred user member id prefers) with
          ⟨language, listed, rfl⟩
        apply List.mem_map_of_mem
        apply (IndexedTable.mem_rows_delete _ _ _).mpr
        refine ⟨listed, ?_⟩
        intro same
        rw [same] at prefers
        exact unassigned ⟨user, member, prefers⟩ }
  rows := (holds.rows.withUsers app.userIds).withoutLanguage languageId
  translated := by
    refine
      ((holds.translated.withUsers app.userIds).withoutLanguage
        languageId).mono ?_
    intro id member
    rcases List.mem_filter.mp member with ⟨isListed, other⟩
    rcases List.mem_map.mp isListed with ⟨language, listed, rfl⟩
    exact
      List.mem_map_of_mem
        ((IndexedTable.mem_rows_delete _ _ _).mpr
          ⟨listed, of_decide_eq_true other⟩)
  database :=
    holds.database.of_catalogue (fun _ => id) (fun _ => id) fun _ => id

theorem Consistent.install {app : Application services}
    (holds : app.Consistent)
    {result :
      Except Interruption (Installation services × RedirectResponse)}
    (kept :
      ∀ after response, result = .ok (after, response) →
        Consistent
          { app with
            accounts := after.accounts, authored := after.catalogue }) :
    (app.install result).Consistent := by
  cases result with
  | error interruption => exact holds
  | ok after => exact kept after.1 after.2 rfl

theorem Consistent.storeAction {app : Application services}
    (holds : app.Consistent) {actor : Option UserId} {locale : String}
    {payload : AssessmentController.StoreRequest}
    {after : Installation services} {response : RedirectResponse}
    (returns :
      AssessmentController.storeAction app.installation actor locale
        payload = .ok (after, response)) :
    Consistent
      { app with
        accounts := after.accounts, authored := after.catalogue } := by
  rcases AssessmentController.stored_of_storeAction returns with
    ⟨known, sameAccounts, stores⟩
  rcases after with ⟨accounts, catalogue⟩
  change accounts = app.accounts at sameAccounts
  subst sameAccounts
  change AssessmentController.store app.catalogue payload = .ok catalogue
    at stores
  rcases AssessmentController.store_adds stores with ⟨rows, adds, _⟩
  constructor
  · exact holds.accounts
  · exact
      AssessmentController.rowsRefer_store stores
        (holds.rows.withUsers app.userIds)
  · refine
      AssessmentController.translated_store
        (holds.translated.withUsers app.userIds) ?_ stores
    intro id member
    exact AccountTables.mem_languageIds_of_find? (known id member)
  · apply holds.database.of_catalogue
    · exact fun _ => id
    · change app.authored.assessments ⊆ catalogue.assessments
      rw [adds.assessments]
      exact List.subset_append_left _ _
    · change app.authored.questions ⊆ catalogue.questions
      rw [adds.questions]
      exact List.subset_append_left _ _

theorem Consistent.withForm {app : Application services}
    (holds : app.Consistent) {Form : Type} {form : Option Form}
    {act : Form → Application services}
    (kept : ∀ valid, (act valid).Consistent) :
    (app.withForm form act).Consistent := by
  cases form with
  | none => exact holds
  | some valid => exact kept valid

/-! ## Runs -/

/-- An operation keeps its references when its grader is a user. -/
theorem Consistent.operate {app : Application services}
    (holds : app.Consistent) {operation : Operation}
    (isGrader :
      ∀ request, operation = .grade request →
        request.userId ∈ app.userIds) :
    (app.operate operation).Consistent :=
  { holds with
    database := by
      cases operation with
      | storeResponse request =>
          exact
            SurveyController.references_storeResponse holds.database
              .jsonEncoded request
      | grade request =>
          exact
            GradingController.references_store holds.database
              (isGrader request rfl) .jsonEncoded
      | recalculate options =>
          exact
            RecalculateAssessmentScores.references_recalculate
              holds.database .jsonEncoded options }

theorem Consistent.perform {app : Application services}
    (holds : app.Consistent) {request : HttpRequest} {action : Action}
    {keys : List ℕ}
    (audience :
      app.accounts.roleOf request.actor ∈ action.audience) :
    (app.perform request action keys).Consistent := by
  unfold Application.perform
  split
  · rename_i accountRequest isRequest
    exact
      holds.account request (not_isDeletion_of_accountRequest? isRequest)
  · split
    · exact holds.destroyUser request _
    · apply holds.install
      intro after response returns
      rcases LanguageController.languages_of_store returns with
        ⟨languages, form, rfl, rows, _⟩
      apply holds.withLanguages
      rw [rows, List.map_append]
      exact List.subset_append_left _ _
    · apply holds.install
      intro after response returns
      rcases LanguageController.languages_of_update returns with
        ⟨languages, rfl, sameIds, _⟩
      apply holds.withLanguages
      rw [sameIds]
      exact fun _ => id
    · apply holds.install
      intro after response returns
      rcases LanguageController.after_destroy returns with
        rfl | ⟨unassigned, rfl⟩
      · exact holds.withLanguages fun _ => id
      · exact holds.withoutLanguage unassigned
    · exact
        holds.withForm fun payload =>
          holds.install fun _ _ returns => holds.storeAction returns
    · exact holds.withForm fun form => holds.operate nofun
    · rename_i user isActor _
      refine holds.withForm fun entries => holds.operate ?_
      rintro _ ⟨⟩
      rw [isActor] at audience
      cases found : app.accounts.user? (some user) with
      | none =>
          unfold AccountTables.roleOf at audience
          rw [found] at audience
          simp [Action.audience] at audience
      | some grader =>
          exact AccountTables.mem_userIds_of_find? found
    · exact holds

theorem Consistent.step {readKey : Word → Option ℕ}
    {app : Application services} (holds : app.Consistent)
    (event : Event) : (app.step readKey event).Consistent := by
  cases event with
  | recalculateScores options => exact holds.operate nofun
  | http request =>
      unfold Application.step
      dsimp only
      cases isServed : app.served readKey request with
      | none => exact holds
      | some found => exact holds.perform (audience_of_served isServed)

variable (readKey : Word → Option ℕ)

/--
References stay valid in every run: no event leaves a user, a request for a
password, a notification, an authored row, a translation, a participation or
a response that refers to a missing row.
-/
theorem references_stay_valid {app : Application services}
    (holds : app.Consistent) (events : List Event) :
    (app.run readKey events).Consistent := by
  unfold run
  induction events generalizing app with
  | nil => exact holds
  | cons event rest induction => exact induction (holds.step event)

theorem consistent_sampleApplication : sampleApplication.Consistent where
  accounts :=
    { preferred := by decide
      requesters := nofun
      approvers := nofun
      notified := nofun }
  rows :=
    { categories := by decide
      questions := by decide
      answers := by decide
      answerScores := by decide +kernel
      answerCategoryWeights := by
        intro weight member
        rw [List.mem_singleton.mp member]
        exact
          ⟨⟨3, 4, "A", 1⟩, by decide, ⟨4, 2, .mcq, "Choose", 1, none⟩,
            by decide +kernel, ⟨1, 2, "Reasoning", none, none, 1⟩,
            by decide, rfl, rfl, rfl, rfl⟩ }
  translated := ⟨nofun, nofun, nofun, nofun⟩
  database := Database.references_empty _

/-- The participant answers a question. -/
def answerRequest : HttpRequest where
  method := .post
  path := "/assessments/1/responses".toList
  actor := some 2
  data :=
    { emptyData with
      answer := some ⟨2, .next, none, some "Because", 1⟩ }

/-- The administrator deletes a user. -/
def deletionRequest (path : String) : HttpRequest where
  method := .delete
  path := path.toList
  actor := some 1
  data := emptyData

/-- The participant who answered stays; the user who registered goes. -/
theorem references_stay_valid_deletions :
    (sampleApplication.run readDecimal
      [.http registrationRequest, .http answerRequest,
        .http (deletionRequest "/admin/users/2"),
        .http (deletionRequest "/admin/users/3")]).Consistent :=
  references_stay_valid readDecimal consistent_sampleApplication _

end Application

end SultanPass
