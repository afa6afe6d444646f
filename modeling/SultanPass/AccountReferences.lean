import SultanPass.AccountHistory

/-!
# What accounts refer to

A user prefers a listed language, or none; a request for a password belongs
to a user, and so does its approval; a notification is sent to a user.  A
request about accounts keeps this.  It writes keys that it has found, and a
deletion removes or forgets what referred to the user.
-/

namespace SultanPass

open SultanPass.Library
open SultanPass.UserController (ActorRequest AdministrationRequest)
open SultanPass.PasswordResetRequestController

namespace AccountTables

variable {services : Services}

def userIds (tables : AccountTables services) : List UserId :=
  tables.users.rows.map fun user : UserAccount => user.id

def languageIds (tables : AccountTables services) : List LanguageId :=
  tables.languages.rows.map Language.id

/-- Everything that the account tables refer to exists. -/
structure References (tables : AccountTables services) : Prop where
  preferred :
    ∀ user ∈ tables.users.rows, ∀ id ∈ user.languagePref,
      id ∈ tables.languageIds
  requesters :
    ∀ request ∈ tables.requests.rows, request.userId ∈ tables.userIds
  approvers :
    ∀ request ∈ tables.requests.rows, ∀ id ∈ request.approvedBy,
      id ∈ tables.userIds
  notified :
    ∀ notification ∈ tables.notifications,
      notification.userId ∈ tables.userIds

/-- The users remain, and prefer what they did or what is listed. -/
structure KeepsUsers (before after : AccountTables services) : Prop where
  users : ∀ id ∈ before.userIds, id ∈ after.userIds
  languages : after.languages = before.languages
  preferred :
    ∀ user ∈ after.users.rows, ∀ id ∈ user.languagePref,
      id ∈ before.languageIds ∨
        ∃ old ∈ before.users.rows, id ∈ old.languagePref

/-- Users remain, and what refers to them or to languages is kept. -/
structure Keeps (before after : AccountTables services) : Prop where
  users : KeepsUsers before after
  references : References before → References after

section Users

variable {tables after : AccountTables services}

theorem KeepsUsers.of_users_eq (users : after.users = tables.users)
    (languages : after.languages = tables.languages) :
    KeepsUsers tables after where
  users := by
    intro id member
    unfold userIds
    rw [users]
    exact member
  languages := languages
  preferred := by
    intro user member id prefers
    rw [users] at member
    exact Or.inr ⟨user, member, prefers⟩

theorem KeepsUsers.refl (tables : AccountTables services) :
    KeepsUsers tables tables :=
  KeepsUsers.of_users_eq rfl rfl

theorem KeepsUsers.trans {first second third : AccountTables services}
    (left : KeepsUsers first second) (right : KeepsUsers second third) :
    KeepsUsers first third where
  users := fun id member => right.users id (left.users id member)
  languages := right.languages.trans left.languages
  preferred := by
    intro user member id prefers
    rcases right.preferred user member id prefers with
      listed | ⟨middle, isMiddle, wasPreferred⟩
    · unfold languageIds at listed ⊢
      rw [left.languages] at listed
      exact Or.inl listed
    · exact left.preferred middle isMiddle id wasPreferred

/-- Added users prefer a listed language. -/
theorem KeepsUsers.append {users : UsersTable services}
    {added : List UserAccount}
    (rows : users.rows = tables.users.rows ++ added)
    (listed :
      ∀ user ∈ added, ∀ id ∈ user.languagePref,
        id ∈ tables.languageIds) :
    KeepsUsers tables { tables with users := users } where
  users := by
    intro id member
    unfold userIds
    rw [rows, List.map_append]
    exact List.mem_append_left _ member
  languages := rfl
  preferred := by
    intro user member id prefers
    change user ∈ users.rows at member
    rw [rows] at member
    rcases List.mem_append.mp member with old | new
    · exact Or.inr ⟨user, old, prefers⟩
    · exact Or.inl (listed user new id prefers)

/-- Users that are written keep their keys. -/
theorem KeepsUsers.map {change : UserAccount → UserAccount}
    (rows : after.users.rows = tables.users.rows.map change)
    (languages : after.languages = tables.languages)
    (sameKey : ∀ user ∈ tables.users.rows, (change user).id = user.id)
    (listed :
      ∀ user ∈ tables.users.rows, ∀ id ∈ (change user).languagePref,
        id ∈ user.languagePref ∨ id ∈ tables.languageIds) :
    KeepsUsers tables after where
  users := by
    intro id member
    rcases List.mem_map.mp member with ⟨user, isUser, rfl⟩
    unfold userIds
    rw [rows, List.map_map]
    exact List.mem_map.mpr ⟨user, isUser, sameKey user isUser⟩
  languages := languages
  preferred := by
    intro user member id prefers
    rw [rows] at member
    rcases List.mem_map.mp member with ⟨old, isOld, rfl⟩
    rcases listed old isOld id prefers with same | isListed
    · exact Or.inr ⟨old, isOld, same⟩
    · exact Or.inl isListed

theorem keepsUsers_withCredentials (tables : AccountTables services)
    (password : UserAccount → String)
    (rememberToken : UserAccount → Option String) :
    KeepsUsers tables (tables.withCredentials password rememberToken) :=
  KeepsUsers.map rfl rfl (fun _ _ => rfl) fun _ _ _ same => Or.inl same

theorem KeepsUsers.preferred_listed (keeps : KeepsUsers tables after)
    (holds : References tables) :
    ∀ user ∈ after.users.rows, ∀ id ∈ user.languagePref,
      id ∈ after.languageIds := by
  intro user member id prefers
  unfold languageIds
  rw [keeps.languages]
  rcases keeps.preferred user member id prefers with
    listed | ⟨old, isOld, same⟩
  · exact listed
  · exact holds.preferred old isOld id same

/-- Requests and notifications that stay refer to the same users. -/
theorem KeepsUsers.keeps (users : KeepsUsers tables after)
    (same : SameResets tables after) : Keeps tables after where
  users := users
  references := fun holds =>
    { preferred := users.preferred_listed holds
      requesters := by
        rw [same.1]
        exact fun request member =>
          users.users _ (holds.requesters request member)
      approvers := by
        rw [same.1]
        exact fun request member id approves =>
          users.users _ (holds.approvers request member id approves)
      notified := by
        rw [same.2]
        exact fun notification member =>
          users.users _ (holds.notified notification member) }

theorem mem_languageIds_of_find? {id : LanguageId}
    (found : (tables.languages.find? id).isSome = true) :
    id ∈ tables.languageIds := by
  rcases Option.isSome_iff_exists.mp found with ⟨language, isLanguage⟩
  rcases (IndexedTable.find?_eq_some_iff _ _ _).mp isLanguage with
    ⟨member, rfl⟩
  exact List.mem_map_of_mem member

theorem mem_userIds_of_find? {userId : UserId} {user : UserAccount}
    (found : tables.users.find? userId = some user) :
    userId ∈ tables.userIds := by
  rcases (IndexedTable.find?_eq_some_iff _ _ _).mp found with
    ⟨member, rfl⟩
  exact List.mem_map_of_mem member

theorem mem_userIds_of_user? {actor : Option UserId} {user : UserAccount}
    (isUser : tables.user? actor = some user) :
    user.id ∈ tables.userIds := by
  rcases Option.bind_eq_some_iff.mp isUser with ⟨userId, _, found⟩
  rcases (IndexedTable.find?_eq_some_iff _ _ _).mp found with
    ⟨member, _⟩
  exact List.mem_map_of_mem member

/-- The rule `exists:languages,id` accepts listed languages only. -/
theorem listed_of_languagePrefRules {input pref : Option LanguageId}
    (accepted :
      languagePrefRules tables.languages input = .ok pref) :
    ∀ id ∈ pref, id ∈ tables.languageIds := by
  intro id prefers
  rw [Option.mem_def] at prefers
  subst prefers
  cases input with
  | none => cases accepted
  | some given =>
      unfold languagePrefRules Validated.nullable at accepted
      dsimp only at accepted
      rcases map_eq_ok_iff.mp accepted with ⟨checked, valid, same⟩
      cases same
      rcases (Validated.rules_eq_ok_iff _ _ _ _).mp valid with
        ⟨known, rfl⟩
      apply mem_languageIds_of_find?
      simpa using known

end Users

/-! ## Users that are added or written -/

section Operations

variable {tables after : AccountTables services} {actor : Option UserId}

theorem listed_of_validate {ignored : Option UserId}
    {input : UserController.UserInput} {form : UserController.UserForm}
    (accepted : UserController.validate tables ignored input = .ok form) :
    ∀ id ∈ form.languagePref, id ∈ tables.languageIds := by
  unfold UserController.validate at accepted
  rcases map_eq_ok_iff.mp accepted with ⟨fields, valid, rfl⟩
  simp only [Validated.both_eq_ok_iff] at valid
  exact listed_of_languagePrefRules valid.2.1.2

theorem listed_of_validateRegistration
    {input : AuthController.RegisterInput}
    {form : AuthController.RegisterForm}
    (accepted :
      AuthController.validateRegistration tables input = .ok form) :
    ∀ id ∈ form.languagePref, id ∈ tables.languageIds := by
  unfold AuthController.validateRegistration at accepted
  rcases map_eq_ok_iff.mp accepted with ⟨fields, valid, rfl⟩
  simp only [Validated.both_eq_ok_iff] at valid
  exact listed_of_languagePrefRules valid.2.2.2

theorem keepsUsers_store {input : UserController.UserInput}
    {draws : UserController.StoreDraws}
    {result : AccountTables services × RedirectResponse}
    (returns :
      UserController.store tables actor input draws = .ok result) :
    KeepsUsers tables result.1 := by
  rcases UserController.inserted_of_store returns with
    ⟨_, form, users, _, valid, rows, same⟩
  rw [same]
  apply KeepsUsers.append rows
  intro user member
  rw [List.mem_singleton.mp member]
  exact listed_of_validate valid

theorem keepsUsers_register {input : AuthController.RegisterInput}
    {salt : ℕ} {result : AuthController.AuthResult services}
    (returns :
      AuthController.register tables actor input salt = .ok result) :
    KeepsUsers tables result.tables := by
  unfold AuthController.register at returns
  rcases bind_eq_ok_iff.mp returns with ⟨_, _, rest⟩
  rcases bind_eq_ok_iff.mp rest with ⟨form, valid, rest⟩
  rcases bind_eq_ok_iff.mp rest with ⟨users, created, same⟩
  cases same
  rw [validated_eq_ok_iff] at valid
  rw [executed_eq_ok_iff] at created
  apply
    KeepsUsers.append
      ((IndexedTable.create_eq_some_iff _ _ _ _).mp created).2.1
  intro user member
  rw [List.mem_singleton.mp member]
  exact listed_of_validateRegistration valid

theorem keepsUsers_update {userId : UserId}
    {input : UserController.UserInput} {salt : ℕ}
    {result : AccountTables services × RedirectResponse}
    (returns :
      UserController.update tables actor userId input salt =
        .ok result) :
    KeepsUsers tables result.1 := by
  rcases UserController.filled_of_update returns with
    ⟨_, _, form, users, _, _, _, valid, rows, same⟩
  rw [same]
  refine KeepsUsers.map rows rfl ?_ ?_
  · intro user _
    split_ifs <;> rfl
  · intro user _ id prefers
    split_ifs at prefers
    · exact Or.inr (listed_of_validate valid id prefers)
    · exact Or.inl prefers

/-- Imported users prefer no language. -/
theorem keepsUsers_importCsv {input : UserController.ImportInput}
    {commitException : Option String}
    {result : UserController.ImportResult services}
    (returns :
      UserController.importCsv tables none actor input commitException =
        .ok result) :
    KeepsUsers tables result.tables := by
  rcases (UserController.importCsv_eq_ok_iff _ _ _ _ _ _).mp returns
    with ⟨admin, form, _, _, rfl⟩
  cases imports :
      UserController.importRows form.role form.defaultStatus
        commitException form.rows tables.users with
  | error message => exact KeepsUsers.refl tables
  | ok progress =>
      have accounted :=
        (UserController.accounted_start tables.users form.role
          form.defaultStatus).foldlM
          ((UserController.importRows_eq_ok_iff _ _ _ _ _ _).mp
            imports).1
      rcases accounted.users with ⟨added, rows, stored⟩
      apply KeepsUsers.append rows
      intro user member id prefers
      rcases exists_entry_of_row stored member with ⟨row, _, key, rfl⟩
      cases prefers

theorem keepsUsers_regeneratePassword {userId : UserId}
    {temporaryPassword : RandomText 12} {salt : ℕ}
    {result : AccountTables services × RedirectResponse}
    (returns :
      UserController.regeneratePassword tables actor userId
        temporaryPassword salt = .ok result) :
    KeepsUsers tables result.1 := by
  unfold UserController.regeneratePassword at returns
  rcases bind_eq_ok_iff.mp returns with ⟨_, _, same⟩
  cases same
  exact keepsUsers_withCredentials tables _ _

theorem keepsUsers_resetPassword
    {broker : AuthController.PasswordBroker}
    {input : AuthController.ResetInput} {salt : ℕ}
    {rememberToken : RandomText 60}
    {result : AccountTables services × RedirectResponse}
    (returns :
      AuthController.resetPassword tables actor broker input salt
        rememberToken = .ok result) :
    KeepsUsers tables result.1 := by
  unfold AuthController.resetPassword at returns
  rcases bind_eq_ok_iff.mp returns with ⟨_, _, rest⟩
  rcases bind_eq_ok_iff.mp rest with ⟨form, _, rest⟩
  cases accepted : broker form.2.1 form.1 with
  | none =>
      rw [accepted] at rest
      cases rest
      exact KeepsUsers.refl tables
  | some userId =>
      rw [accepted] at rest
      cases rest
      exact keepsUsers_withCredentials tables _ _

theorem keepsUsers_rehashPasswordIfRequired
    (tables : AccountTables services) (user : UserAccount)
    (password : String) (salt : ℕ) :
    KeepsUsers tables
      (AuthController.rehashPasswordIfRequired tables user password
        salt) := by
  unfold AuthController.rehashPasswordIfRequired
  split_ifs
  · exact keepsUsers_withCredentials tables _ _
  · exact KeepsUsers.refl tables

theorem keepsUsers_login {input : AuthController.LoginInput} {salt : ℕ}
    {rememberToken : RandomText 60}
    {result : AuthController.AuthResult services}
    (returns :
      AuthController.login tables actor input salt rememberToken =
        .ok result) :
    KeepsUsers tables result.tables := by
  unfold AuthController.login at returns
  rcases bind_eq_ok_iff.mp returns with ⟨_, _, rest⟩
  rcases bind_eq_ok_iff.mp rest with ⟨credentials, _, rest⟩
  cases found :
      AuthController.attempt tables credentials.1 credentials.2 with
  | none =>
      rw [found] at rest
      cases rest
      exact KeepsUsers.refl tables
  | some user =>
      rw [found] at rest
      cases rest
      dsimp only
      have rehashed :=
        keepsUsers_rehashPasswordIfRequired tables user credentials.2 salt
      split_ifs
      · exact rehashed.trans (keepsUsers_withCredentials _ _ _)
      · exact rehashed

/-- A switched locale is that of a listed language, or none. -/
theorem keepsUsers_localeSwitch {config : LocaleConfig}
    {session : WebSession} {input : Option String}
    {result : AccountTables services × WebSession}
    (returns : localeSwitch config tables session input = .ok result) :
    KeepsUsers tables result.1 := by
  unfold localeSwitch at returns
  rcases bind_eq_ok_iff.mp returns with ⟨locale, _, rest⟩
  rcases bind_eq_ok_iff.mp rest with ⟨_, _, rest⟩
  cases found : tables.user? session.user with
  | none =>
      rw [found] at rest
      cases rest
      exact KeepsUsers.refl tables
  | some user =>
      rw [found] at rest
      cases rest
      refine KeepsUsers.map rfl rfl (fun _ _ => rfl) ?_
      intro stored _ id prefers
      dsimp only at prefers
      split_ifs at prefers
      · rcases Option.map_eq_some_iff.mp prefers with
          ⟨language, isLanguage, rfl⟩
        exact
          Or.inr
            (List.mem_map_of_mem (List.mem_of_find?_eq_some isLanguage))
      · exact Or.inl prefers

/-! ## Requests and notifications that are added or written -/

/-- A new request is one of a user, and its notifications go to users. -/
theorem keeps_createResetRequest {user : UserAccount}
    {draws : AuthController.ResetLinkDraws}
    (creates :
      AuthController.createResetRequest user draws tables = some after) :
    Keeps tables after := by
  have created := AuthController.created_of_createResetRequest creates
  unfold AuthController.createResetRequest at creates
  split_ifs at creates with refused
  cases creates
  refine ⟨KeepsUsers.of_users_eq rfl rfl, fun holds => ?_⟩
  have isUser : user.id ∈ tables.userIds := by
    cases found : tables.users.find? user.id with
    | none =>
        rw [found] at refused
        exact (refused rfl).elim
    | some stored => exact mem_userIds_of_find? found
  constructor
  · exact holds.preferred
  · intro request member
    rw [created.1] at member
    rcases List.mem_append.mp member with old | new
    · exact holds.requesters request old
    · rw [List.mem_singleton.mp new]
      exact isUser
  · intro request member id approves
    rw [created.1] at member
    rcases List.mem_append.mp member with old | new
    · exact holds.approvers request old id approves
    · rw [List.mem_singleton.mp new] at approves
      cases approves
  · intro notification member
    rw [created.2] at member
    rcases List.mem_append.mp member with old | new
    · exact holds.notified notification old
    · rcases List.mem_map.mp new with ⟨other, isAdmin, rfl⟩
      exact List.mem_map_of_mem (List.mem_filter.mp isAdmin).1

theorem keeps_sendResetLinkEmail {email : Option String}
    {draws : AuthController.ResetLinkDraws}
    {result : AccountTables services × RedirectResponse}
    (returns :
      AuthController.sendResetLinkEmail tables actor email draws =
        .ok result) :
    Keeps tables result.1 := by
  unfold AuthController.sendResetLinkEmail at returns
  rcases bind_eq_ok_iff.mp returns with ⟨response | user, _, rest⟩
  · cases rest
    exact (KeepsUsers.refl tables).keeps ⟨rfl, rfl⟩
  · rcases bind_eq_ok_iff.mp rest with ⟨reached, created, same⟩
    cases same
    rw [executed_eq_ok_iff] at created
    exact keeps_createResetRequest created

/-- What a decision writes about its approver: the administrator. -/
theorem approvedBy_save (administrator : UserId) (input : DecisionInput)
    (loaded stored : PasswordResetRequest) {id : UserId}
    (approves :
      id ∈
        (save loaded
          ((input.decision administrator).fill services.toCryptography
            loaded)
          stored).approvedBy) :
    id ∈ stored.approvedBy ∨ id = administrator := by
  have written (filled : Option UserId)
      (isWritten :
        id ∈ savedColumn loaded.approvedBy filled stored.approvedBy) :
      id ∈ stored.approvedBy ∨
        filled ≠ loaded.approvedBy ∧ id ∈ filled := by
    unfold savedColumn at isWritten
    split_ifs at isWritten with same
    · exact Or.inl isWritten
    · exact Or.inr ⟨same, isWritten⟩
  cases input with
  | approve requestId draws now =>
      rcases written _ approves with old | ⟨_, new⟩
      · exact Or.inl old
      · exact Or.inr (Option.some.inj new).symm
  | decline requestId notes now =>
      rcases written _ approves with old | ⟨changed, _⟩
      · exact Or.inl old
      · exact (changed rfl).elim

theorem keeps_decideNow {input : DecisionInput}
    (decides : decideNow tables actor input = some after) :
    Keeps tables after := by
  rcases Option.bind_eq_some_iff.mp decides with
    ⟨⟨decision, loaded⟩, checked, commits⟩
  have isChecked := checked
  unfold checkDecision at isChecked
  simp only [bind, pure, Option.bind_eq_some_iff, toOption_eq_some_iff,
    Option.some.injEq, Prod.mk.injEq] at isChecked
  rcases isChecked with ⟨administrator, isAdmin, _, _, rfl, _⟩
  rcases find?_of_checkDecision checked with ⟨_, found, _⟩
  rcases (KeyedTable.find?_eq_some_iff _ _ _).mp found with
    ⟨isListed, _⟩
  have approver : administrator.id ∈ tables.userIds := by
    unfold routeAdministrator at isAdmin
    rcases bind_eq_ok_iff.mp isAdmin with ⟨user, authenticated, rest⟩
    rcases bind_eq_ok_iff.mp rest with ⟨_, _, same⟩
    cases same
    exact
      mem_userIds_of_user?
        ((authenticate_eq_ok_iff _ _ _).mp authenticated)
  rcases requests_commitDecision commits with ⟨requests, notifications⟩
  rcases Option.map_eq_some_iff.mp commits with ⟨reset, _, rfl⟩
  have users : KeepsUsers tables (tables.withReset reset) :=
    KeepsUsers.map rfl rfl (fun _ _ => rfl) fun _ _ _ same =>
      Or.inl same
  have saved :
      ∀ request ∈ (tables.withReset reset).requests.rows,
        ∃ old ∈ tables.requests.rows,
          request.userId = old.userId ∧
            ∀ id ∈ request.approvedBy,
              id ∈ old.approvedBy ∨ id = administrator.id := by
    intro request member
    rw [requests] at member
    rcases List.mem_map.mp member with ⟨old, isOld, rfl⟩
    refine ⟨old, isOld, ?_⟩
    split_ifs
    · exact
        ⟨rfl, fun id approves => approvedBy_save _ _ _ _ approves⟩
    · exact ⟨rfl, fun id approves => Or.inl approves⟩
  refine ⟨users, fun holds => ?_⟩
  constructor
  · exact users.preferred_listed holds
  · intro request member
    rcases saved request member with ⟨old, isOld, same, _⟩
    rw [same]
    exact users.users _ (holds.requesters old isOld)
  · intro request member id approves
    rcases saved request member with ⟨old, isOld, _, approvers⟩
    rcases approvers id approves with same | rfl
    · exact users.users _ (holds.approvers old isOld id same)
    · exact users.users _ approver
  · intro notification member
    rw [notifications] at member
    rcases List.mem_append.mp member with old | new
    · exact users.users _ (holds.notified notification old)
    · rw [List.mem_singleton.mp new]
      have toRequester :
          ((input.decision administrator.id).notification
            loaded).userId = loaded.userId := by
        cases input <;> rfl
      rw [toRequester]
      exact users.users _ (holds.requesters loaded isListed)

/-! ## Deletions -/

/-- What refers to a deleted user is deleted or forgets the user. -/
theorem References.deleted {userId : UserId}
    (holds : References tables)
    (deleted : UserController.Deleted tables after userId)
    (languages : after.languages = tables.languages) :
    References after := by
  have remains (id : UserId) (listed : id ∈ tables.userIds)
      (other : id ≠ userId) : id ∈ after.userIds := by
    rcases List.mem_map.mp listed with ⟨user, member, rfl⟩
    unfold userIds
    rw [deleted.users]
    exact
      List.mem_map_of_mem
        ((IndexedTable.mem_rows_delete _ _ _).mpr ⟨member, other⟩)
  have kept :
      ∀ request ∈ after.requests.rows,
        ∃ old ∈ tables.requests.rows,
          old.userId ≠ userId ∧
            request = UserController.withoutApprover userId old := by
    intro request member
    rw [deleted.requests] at member
    rcases List.mem_map.mp member with ⟨old, isOld, rfl⟩
    rcases List.mem_filter.mp isOld with ⟨listed, other⟩
    exact ⟨old, listed, of_decide_eq_true other, rfl⟩
  constructor
  · intro user member id prefers
    rw [deleted.users] at member
    unfold languageIds
    rw [languages]
    exact
      holds.preferred user
        ((IndexedTable.mem_rows_delete _ _ _).mp member).1 id prefers
  · intro request member
    rcases kept request member with ⟨old, isOld, other, rfl⟩
    have same :
        (UserController.withoutApprover userId old).userId =
          old.userId := by
      unfold UserController.withoutApprover
      split_ifs <;> rfl
    rw [same]
    exact remains _ (holds.requesters old isOld) other
  · intro request member id approves
    rcases kept request member with ⟨old, isOld, _, rfl⟩
    unfold UserController.withoutApprover at approves
    split_ifs at approves with isApprover
    · cases approves
    · apply remains id (holds.approvers old isOld id approves)
      rintro rfl
      exact isApprover approves
  · intro notification member
    rw [deleted.notifications] at member
    exact
      remains _ (holds.notified notification member)
        (deleted.unnotified notification member)

/-! ## Requests -/

/-- A request to delete a user. -/
def IsDeletion : AccountRequest → Prop
  | .administration (.destroy _ _) => True
  | _ => False

/-- A request about accounts that is no deletion keeps the users. -/
theorem keeps_accountStep (tables : AccountTables services)
    {call : AccountCall} (notDeletion : ¬ IsDeletion call.request) :
    Keeps tables (accountStep tables call) := by
  unfold PasswordResetRequestController.accountStep
  cases performs : call.perform tables with
  | none => exact (KeepsUsers.refl tables).keeps ⟨rfl, rfl⟩
  | some after =>
      change Keeps tables after
      rcases call with ⟨now, actor, request⟩
      unfold AccountCall.perform at performs
      cases request with
      | administration request =>
          replace performs := toOption_eq_some_iff.mp performs
          unfold ActorRequest.perform at performs
          cases request with
          | store input draws =>
              rcases map_eq_ok_iff.mp performs with
                ⟨result, returns, rfl⟩
              exact
                (keepsUsers_store returns).keeps
                  (sameResets_store returns)
          | update changed input salt =>
              rcases map_eq_ok_iff.mp performs with
                ⟨result, returns, rfl⟩
              exact
                (keepsUsers_update returns).keeps
                  (sameResets_update returns)
          | destroy deleted referenced => exact (notDeletion ⟨⟩).elim
          | importCsv input commitException =>
              rcases map_eq_ok_iff.mp performs with
                ⟨result, returns, rfl⟩
              exact
                (keepsUsers_importCsv returns).keeps
                  (sameResets_importCsv returns)
          | register input salt =>
              rcases map_eq_ok_iff.mp performs with
                ⟨result, returns, rfl⟩
              exact
                (keepsUsers_register returns).keeps
                  (sameResets_register returns)
      | regeneratePassword changed temporaryPassword salt =>
          rcases map_eq_ok_iff.mp (toOption_eq_some_iff.mp performs)
            with ⟨result, returns, rfl⟩
          exact
            (keepsUsers_regeneratePassword returns).keeps
              (sameResets_regeneratePassword returns)
      | sendResetLinkEmail email token =>
          rcases map_eq_ok_iff.mp (toOption_eq_some_iff.mp performs)
            with ⟨result, returns, rfl⟩
          exact keeps_sendResetLinkEmail returns
      | approve requestId draws => exact keeps_decideNow performs
      | decline requestId notes => exact keeps_decideNow performs
      | resetPassword broker input salt rememberToken =>
          rcases map_eq_ok_iff.mp (toOption_eq_some_iff.mp performs)
            with ⟨result, returns, rfl⟩
          exact
            (keepsUsers_resetPassword returns).keeps
              (sameResets_resetPassword returns)
      | login input salt rememberToken =>
          rcases map_eq_ok_iff.mp (toOption_eq_some_iff.mp performs)
            with ⟨result, returns, rfl⟩
          exact
            (keepsUsers_login returns).keeps (sameResets_login returns)
      | localeSwitch config locale =>
          rcases map_eq_ok_iff.mp (toOption_eq_some_iff.mp performs)
            with ⟨result, returns, rfl⟩
          exact
            (keepsUsers_localeSwitch returns).keeps
              (sameResets_localeSwitch returns)

end Operations

end AccountTables

end SultanPass
