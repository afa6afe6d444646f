import SultanPass.AuthController
import SultanPass.ImportAccounting
import SultanPass.Library.GuardedRun

/-!
# Whether an administrator remains

`destroy` refuses to delete the own account, so a deletion always leaves
the administrator who asked for it.  `update` has no such guard: the only
administrator can give their own account another role, and then nobody can
administrate any more.
-/

namespace SultanPass.UserController

open SultanPass.Library

variable {services : Services}

/-! ## Requests -/

/-- The requests that change the table of users. -/
inductive AdministrationRequest where
  | store (input : UserInput) (draws : StoreDraws)
  | update (userId : UserId) (input : UserInput) (salt : ℕ)
  | destroy (userId : UserId) (referenced : Bool)
  | importCsv (input : ImportInput) (commitException : Option String)
  | register (input : AuthController.RegisterInput) (salt : ℕ)

/-- A request with the user of its session. -/
structure ActorRequest where
  actor : Option UserId
  request : AdministrationRequest

/-- The tables after a request that is answered. -/
def ActorRequest.perform (call : ActorRequest)
    (tables : AccountTables services) :
    Except Interruption (AccountTables services) :=
  match call.request with
  | .store input draws =>
      (store tables call.actor input draws).map Prod.fst
  | .update userId input salt =>
      (update tables call.actor userId input salt).map Prod.fst
  | .destroy userId referenced =>
      (destroy tables call.actor userId referenced).map Prod.fst
  | .importCsv input commitException =>
      (importCsv tables none call.actor input commitException).map
        ImportResult.tables
  | .register input salt =>
      (AuthController.register tables call.actor input salt).map
        AuthController.AuthResult.tables

/-- The tables after a request; an interrupted one changes nothing. -/
def administrationStep (tables : AccountTables services)
    (call : ActorRequest) : AccountTables services :=
  match call.perform tables with
  | .ok after => after
  | .error _ => tables

/-! ## Administrators -/

def HasAdministrator (tables : AccountTables services) : Prop :=
  ∃ user ∈ tables.users.rows, user.role = .admin

instance (tables : AccountTables services) :
    Decidable (HasAdministrator tables) :=
  inferInstanceAs (Decidable (∃ user ∈ tables.users.rows, _))

/-- The session of the request is that of an administrator. -/
def ByAdministrator (tables : AccountTables services)
    (actor : Option UserId) : Prop :=
  ∃ user, tables.user? actor = some user ∧ user.role = .admin

/-- An update that an administrator may make and whose input is valid. -/
def ValidUpdate (tables : AccountTables services) (actor : Option UserId)
    (userId : UserId) (input : UserInput) (form : UserForm) : Prop :=
  ByAdministrator tables actor ∧
    (∃ user ∈ tables.users.rows, user.id = userId) ∧
    validate tables (some userId) input = .ok form

/--
The request is a valid update that gives the account of the only
administrator another role.
-/
def DemotesTheOnlyAdministrator (tables : AccountTables services)
    (call : ActorRequest) : Prop :=
  match call.request with
  | .update userId input _ =>
      ∃ form,
        ValidUpdate tables call.actor userId input form ∧
          form.role ≠ .admin ∧
          ∀ user ∈ tables.users.rows,
            user.role = .admin → user.id = userId
  | _ => False

/-- An administrator of a session is a user. -/
theorem ByAdministrator.hasAdministrator
    {tables : AccountTables services} {actor : Option UserId}
    (authorised : ByAdministrator tables actor) :
    HasAdministrator tables := by
  rcases authorised with ⟨user, found, isAdmin⟩
  rcases Option.bind_eq_some_iff.mp found with ⟨id, _, isUser⟩
  exact
    ⟨user,
      ((IndexedTable.find?_eq_some_iff _ _ _).mp isUser).1, isAdmin⟩

/-! ## What a request does to the users -/

/-- The users after a request of each kind. -/
inductive UserEffect (tables : AccountTables services)
    (call : ActorRequest) : List UserAccount → Prop where
  | unchanged
      (harmless : ¬ DemotesTheOnlyAdministrator tables call) :
      UserEffect tables call tables.users.rows
  | added (users : List UserAccount)
      (authorised : ByAdministrator tables call.actor)
      (harmless : ¬ DemotesTheOnlyAdministrator tables call) :
      UserEffect tables call (tables.users.rows ++ users)
  | registered (user : UserAccount) (isParticipant : user.role = .participant)
      (harmless : ¬ DemotesTheOnlyAdministrator tables call) :
      UserEffect tables call (tables.users.rows ++ [user])
  | updated (userId : UserId) (input : UserInput) (salt : ℕ)
      (form : UserForm) (isUpdate : call.request = .update userId input salt)
      (valid : ValidUpdate tables call.actor userId input form) :
      UserEffect tables call
        (tables.users.rows.map fun user =>
          if user.id = userId then form.fill salt services user
          else user)
  | deleted (userId : UserId)
      (authorised : ByAdministrator tables call.actor)
      (notOwn : call.actor ≠ some userId)
      (harmless : ¬ DemotesTheOnlyAdministrator tables call) :
      UserEffect tables call
        (tables.users.rows.filter fun user => user.id ≠ userId)

theorem byAdministrator_of_administrator
    {tables : AccountTables services} {actor : Option UserId}
    {user : UserAccount}
    (reached : administrator tables actor = .ok user) :
    ByAdministrator tables actor :=
  ⟨user, (administrator_eq_ok_iff _ _ _).mp reached⟩

theorem userEffect_store
    {tables : AccountTables services} {actor : Option UserId}
    {input : UserInput} {draws : StoreDraws}
    {after : AccountTables services × RedirectResponse}
    (returns : store tables actor input draws = .ok after) :
    UserEffect tables ⟨actor, .store input draws⟩
      after.1.users.rows := by
  rcases inserted_of_store returns with
    ⟨admin, form, users, reached, _, rows, same⟩
  rw [same]
  show UserEffect tables _ users.rows
  rw [rows]
  exact
    UserEffect.added _ (byAdministrator_of_administrator reached) id

theorem userEffect_register
    {tables : AccountTables services} {actor : Option UserId}
    {input : AuthController.RegisterInput} {salt : ℕ}
    {after : AuthController.AuthResult services}
    (returns :
      AuthController.register tables actor input salt = .ok after) :
    UserEffect tables ⟨actor, .register input salt⟩
      after.tables.users.rows := by
  rcases AuthController.inserted_of_register returns with
    ⟨form, users, rows, same⟩
  rw [same]
  show UserEffect tables _ users.rows
  rw [rows]
  exact UserEffect.registered _ rfl id

theorem userEffect_importCsv
    {tables : AccountTables services} {actor : Option UserId}
    {input : ImportInput} {commitException : Option String}
    {after : ImportResult services}
    (returns :
      importCsv tables none actor input commitException = .ok after) :
    UserEffect tables ⟨actor, .importCsv input commitException⟩
      after.tables.users.rows := by
  rcases (importCsv_eq_ok_iff _ _ _ _ _ _).mp returns with
    ⟨user, form, reached, _, rfl⟩
  cases imports :
      importRows form.role form.defaultStatus commitException form.rows
        tables.users with
  | error message => exact UserEffect.unchanged id
  | ok progress =>
      have accounted :=
        (accounted_start tables.users form.role
          form.defaultStatus).foldlM
          ((importRows_eq_ok_iff _ _ _ _ _ _).mp imports).1
      rcases accounted.users with ⟨added, rows, _⟩
      change UserEffect _ _ progress.users.rows
      rw [rows]
      exact
        UserEffect.added _ (byAdministrator_of_administrator reached) id

theorem userEffect_update
    {tables : AccountTables services} {actor : Option UserId}
    {userId : UserId} {input : UserInput} {salt : ℕ}
    {after : AccountTables services × RedirectResponse}
    (returns : update tables actor userId input salt = .ok after) :
    UserEffect tables ⟨actor, .update userId input salt⟩
      after.1.users.rows := by
  rcases filled_of_update returns with
    ⟨admin, user, form, users, isUser, isAdmin, found, valid, rows, same⟩
  rcases (IndexedTable.find?_eq_some_iff _ _ _).mp found with
    ⟨member, rfl⟩
  rw [same]
  show UserEffect tables _ users.rows
  rw [rows]
  exact
    UserEffect.updated user.id input salt form rfl
      ⟨⟨admin, isUser, isAdmin⟩, ⟨user, member, rfl⟩, valid⟩

theorem userEffect_destroy
    {tables : AccountTables services} {actor : Option UserId}
    {userId : UserId} {referenced : Bool}
    {after : AccountTables services × RedirectResponse}
    (returns : destroy tables actor userId referenced = .ok after) :
    UserEffect tables ⟨actor, .destroy userId referenced⟩
      after.1.users.rows := by
  rcases deleted_of_destroy returns with
    same | ⟨admin, isUser, isAdmin, notOwn, deleted⟩
  · rw [same]
    exact UserEffect.unchanged id
  · rw [deleted.users]
    exact UserEffect.deleted userId ⟨admin, isUser, isAdmin⟩ notOwn id

/-- A valid update is made. -/
theorem exists_update
    {tables : AccountTables services} {actor : Option UserId}
    {userId : UserId} {input : UserInput} {form : UserForm}
    (valid : ValidUpdate tables actor userId input form) (salt : ℕ) :
    ∃ after, update tables actor userId input salt = .ok after := by
  rcases valid with
    ⟨⟨admin, isUser, isAdmin⟩, ⟨user, member, rfl⟩, accepted⟩
  have reached :
      administratorOf tables actor (tables.users.find? user.id) =
        .ok (admin, user) :=
    (administratorOf_eq_ok_iff _ _ _ _ _).mpr
      ⟨isUser, isAdmin, tables.users.find?_key member⟩
  have free :
      ∀ row ∈ tables.users.rows, row.id = user.id →
        tables.users.Free (form.fill salt services row)
          (some user.id) :=
    fun row _ _ =>
      (UsersTable.free_iff _ _ _).mpr (validate_free accepted)
  unfold update
  simp only [reached, bind, Except.bind, accepted, validated]
  cases updated :
      tables.users.update user.id (form.fill salt services)
        fun _ => rfl with
  | none =>
      unfold IndexedTable.update at updated
      rw [dif_pos free] at updated
      cases updated
  | some users => exact ⟨_, rfl⟩

/-- What a request does to the users. -/
theorem userEffect_step (tables : AccountTables services)
    (call : ActorRequest) :
    UserEffect tables call
      (administrationStep tables call).users.rows := by
  rcases call with ⟨actor, request⟩
  unfold administrationStep ActorRequest.perform
  cases request with
  | store input draws =>
      dsimp only
      cases returns : store tables actor input draws with
      | error interruption => exact UserEffect.unchanged id
      | ok after => exact userEffect_store returns
  | update userId input salt =>
      dsimp only
      cases returns : update tables actor userId input salt with
      | ok after => exact userEffect_update returns
      | error interruption =>
          apply UserEffect.unchanged
          rintro ⟨form, valid, _⟩
          rcases exists_update valid salt with ⟨after, updates⟩
          rw [returns] at updates
          cases updates
  | destroy userId referenced =>
      dsimp only
      cases returns : destroy tables actor userId referenced with
      | error interruption => exact UserEffect.unchanged id
      | ok after => exact userEffect_destroy returns
  | importCsv input commitException =>
      dsimp only
      cases returns :
          importCsv tables none actor input commitException with
      | error interruption => exact UserEffect.unchanged id
      | ok after => exact userEffect_importCsv returns
  | register input salt =>
      dsimp only
      cases returns :
          AuthController.register tables actor input salt with
      | error interruption => exact UserEffect.unchanged id
      | ok after => exact userEffect_register returns

/-! ## Runs -/

/-- After an update somebody is an administrator, or nobody is. -/
theorem exists_admin_map_iff {rows : List UserAccount}
    {userId : UserId} {fill : UserAccount → UserAccount} {role : Role}
    (sets : ∀ user, (fill user).role = role)
    (present : ∃ user ∈ rows, user.id = userId) :
    (∃ user ∈
        rows.map fun user => if user.id = userId then fill user else user,
        user.role = .admin) ↔
      role = .admin ∨
        ∃ user ∈ rows, user.role = .admin ∧ user.id ≠ userId := by
  constructor
  · rintro ⟨user, member, isAdmin⟩
    rcases List.mem_map.mp member with ⟨old, isOld, rfl⟩
    by_cases own : old.id = userId
    · rw [if_pos own, sets] at isAdmin
      exact Or.inl isAdmin
    · rw [if_neg own] at isAdmin
      exact Or.inr ⟨old, isOld, isAdmin, own⟩
  · rintro (becomesAdmin | ⟨user, member, isAdmin, other⟩)
    · rcases present with ⟨user, member, own⟩
      refine ⟨fill user, List.mem_map.mpr ⟨user, member, ?_⟩, ?_⟩
      · rw [if_pos own]
      · rw [sets, becomesAdmin]
    · refine ⟨user, List.mem_map.mpr ⟨user, member, ?_⟩, isAdmin⟩
      rw [if_neg other]

/--
One request keeps an administrator exactly when it does not demote the only
one.
-/
theorem hasAdministrator_step_iff
    {tables : AccountTables services} (call : ActorRequest)
    (has : HasAdministrator tables) :
    HasAdministrator (administrationStep tables call) ↔
      ¬ DemotesTheOnlyAdministrator tables call := by
  rcases has with ⟨admin, isUser, isAdmin⟩
  have effect := userEffect_step tables call
  unfold HasAdministrator
  generalize (administrationStep tables call).users.rows = rows at effect
  cases effect with
  | unchanged harmless =>
      exact iff_of_true ⟨admin, isUser, isAdmin⟩ harmless
  | added users _ harmless =>
      exact
        iff_of_true
          ⟨admin, List.mem_append_left _ isUser, isAdmin⟩ harmless
  | registered user _ harmless =>
      exact
        iff_of_true
          ⟨admin, List.mem_append_left _ isUser, isAdmin⟩ harmless
  | updated userId input salt form isUpdate valid =>
      have sets (user : UserAccount) :
          (form.fill salt services user).role = form.role :=
        rfl
      rw [exists_admin_map_iff sets valid.2.1]
      unfold DemotesTheOnlyAdministrator
      rw [isUpdate]
      constructor
      · rintro kept ⟨other, validOther, demotes, only⟩
        cases valid.2.2.symm.trans validOther.2.2
        rcases kept with becomesAdmin | ⟨user, member, isRole, differs⟩
        · exact demotes becomesAdmin
        · exact differs (only user member isRole)
      · intro harmless
        by_contra gone
        rw [not_or, not_exists] at gone
        refine harmless ⟨form, valid, gone.1, ?_⟩
        intro user member isRole
        by_contra differs
        exact gone.2 user ⟨member, isRole, differs⟩
  | deleted userId authorised notOwn harmless =>
      rcases authorised with ⟨actor, found, isRole⟩
      rcases Option.bind_eq_some_iff.mp found with ⟨id, own, isFound⟩
      rcases (IndexedTable.find?_eq_some_iff _ _ _).mp isFound with
        ⟨member, rfl⟩
      refine iff_of_true ⟨actor, ?_, isRole⟩ harmless
      rw [List.mem_filter]
      refine ⟨member, decide_eq_true ?_⟩
      rintro rfl
      exact notOwn own

/-- Without an administrator nobody becomes one. -/
theorem not_hasAdministrator_step
    {tables : AccountTables services} (call : ActorRequest)
    (none : ¬ HasAdministrator tables) :
    ¬ HasAdministrator (administrationStep tables call) := by
  have effect := userEffect_step tables call
  unfold HasAdministrator
  generalize (administrationStep tables call).users.rows = rows at effect
  cases effect with
  | unchanged _ => exact none
  | added users authorised _ =>
      exact (none authorised.hasAdministrator).elim
  | registered user isParticipant _ =>
      rintro ⟨other, member, isAdmin⟩
      rcases List.mem_append.mp member with old | new
      · exact none ⟨other, old, isAdmin⟩
      · rw [List.mem_singleton.mp new, isParticipant] at isAdmin
        cases isAdmin
  | updated userId input salt form isUpdate valid =>
      exact (none valid.1.hasAdministrator).elim
  | deleted userId authorised _ _ =>
      exact (none authorised.hasAdministrator).elim

/--
An administrator remains after a sequence of requests exactly when none of
them demotes the only one.
-/
theorem administrator_remains_iff
    (tables : AccountTables services) (has : HasAdministrator tables)
    (calls : List ActorRequest) :
    HasAdministrator (calls.foldl administrationStep tables) ↔
      Throughout administrationStep
        (fun reached call => ¬ DemotesTheOnlyAdministrator reached call)
        tables calls :=
  foldl_iff_throughout (fun _ _ (_ : True) => True.intro)
    (fun _ call _ kept => hasAdministrator_step_iff call kept)
    (fun _ call _ none => not_hasAdministrator_step call none)
    True.intro has calls

/-- The only administrator deletes a user, but not their own account. -/
theorem administrator_remains_deletions :
    HasAdministrator
      ([⟨some 1, .destroy 2 false⟩, ⟨some 1, .destroy 1 false⟩].foldl
        administrationStep sampleAccounts) :=
  (administrator_remains_iff sampleAccounts
    ⟨sampleAdministrator, List.mem_cons_self, rfl⟩ _).mpr
    ⟨id, id, True.intro⟩

/-- The form of the own account, with another role. -/
def demotion : UserInput where
  username := some "superadmin"
  fullName := some "Super Admin"
  email := some "superadmin@example.com"
  role := some "manager"
  languagePref := some 1
  rank := none
  department := none
  status := some "active"
  password := none

/-- The only administrator becomes a manager. -/
theorem no_administrator_remains :
    HasAdministrator sampleAccounts ∧
      ¬ HasAdministrator
        ([⟨some 1, .update 1 demotion 0⟩].foldl administrationStep
          sampleAccounts) := by
  decide +kernel

end SultanPass.UserController
