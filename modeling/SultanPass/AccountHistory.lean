import SultanPass.Application

/-!
# Who changes the accounts

Without an administrator nobody is promoted: in a run that no session of an
administrator takes part in, the users keep what administration writes
about them, and the only new users are participants who registered.
Requests for a new password are added and stay open.

With administrators, the password of a user still changes in four ways
only: an update with a new password, a generated one, an approved request
of the user, and a reset with a token that the broker accepts for the user.
Its hash changes in a fifth one, a login of the user that hashes the same
password anew.
-/

namespace SultanPass

open SultanPass.Library
open SultanPass.Library.Routing
open SultanPass.UserController (ActorRequest ByAdministrator ValidUpdate)
open SultanPass.PasswordResetRequestController

/-! ## Profiles -/

/--
A user without the password, the remember token and the preferred language:
the identity, the name, the rank and the department, the role and the status.
-/
structure Profile where
  id : UserId
  username : String
  email : String
  fullName : Option String
  rank : Option String
  department : Option String
  role : Role
  status : UserStatus
deriving DecidableEq, Repr

def UserAccount.profile (user : UserAccount) : Profile where
  id := user.id
  username := user.username
  email := user.email
  fullName := user.fullName
  rank := user.rank
  department := user.department
  role := user.role
  status := user.status

namespace AccountTables

variable {services : Services}

def profiles (tables : AccountTables services) : List Profile :=
  tables.users.rows.map UserAccount.profile

/-- The profile of somebody who registered. -/
def IsRegistered (profile : Profile) : Prop :=
  profile.role = .participant ∧ profile.status = .active

/-- Nothing but registrations and requests for a password. -/
structure OnlyJoined (before after : AccountTables services) : Prop where
  users :
    ∃ joined,
      (∀ profile ∈ joined, IsRegistered profile) ∧
        after.profiles = before.profiles ++ joined
  languages : after.languages = before.languages
  requests :
    ∃ opened,
      (∀ request ∈ opened,
        PasswordResetRequest.status request = .pending) ∧
        after.requests.rows = before.requests.rows ++ opened

theorem OnlyJoined.of_profiles {before after : AccountTables services}
    (profiles : after.profiles = before.profiles)
    (languages : after.languages = before.languages)
    (requests : after.requests = before.requests) :
    OnlyJoined before after where
  users := ⟨[], nofun, by rw [profiles, List.append_nil]⟩
  languages := languages
  requests := ⟨[], nofun, by rw [requests, List.append_nil]⟩

theorem OnlyJoined.refl (tables : AccountTables services) :
    OnlyJoined tables tables :=
  OnlyJoined.of_profiles rfl rfl rfl

theorem OnlyJoined.trans {first second third : AccountTables services}
    (left : OnlyJoined first second) (right : OnlyJoined second third) :
    OnlyJoined first third where
  users := by
    rcases left.users with ⟨earlier, areEarlier, reached⟩
    rcases right.users with ⟨later, areLater, ends⟩
    refine ⟨earlier ++ later, ?_, ?_⟩
    · intro profile member
      rcases List.mem_append.mp member with isEarlier | isLater
      · exact areEarlier profile isEarlier
      · exact areLater profile isLater
    · rw [ends, reached, List.append_assoc]
  languages := right.languages.trans left.languages
  requests := by
    rcases left.requests with ⟨earlier, areEarlier, reached⟩
    rcases right.requests with ⟨later, areLater, ends⟩
    refine ⟨earlier ++ later, ?_, ?_⟩
    · intro request member
      rcases List.mem_append.mp member with isEarlier | isLater
      · exact areEarlier request isEarlier
      · exact areLater request isLater
    · rw [ends, reached, List.append_assoc]

theorem byAdministrator_iff (tables : AccountTables services)
    (actor : Option UserId) :
    ByAdministrator tables actor ↔ tables.roleOf actor = some .admin := by
  unfold ByAdministrator roleOf
  rw [Option.map_eq_some_iff]

/-- Credentials are not part of a profile. -/
theorem profiles_withCredentials (tables : AccountTables services)
    (password : UserAccount → String)
    (rememberToken : UserAccount → Option String) :
    (tables.withCredentials password rememberToken).profiles =
      tables.profiles := by
  unfold profiles withCredentials
  exact List.map_map

/-- Neither is the preferred language. -/
theorem profiles_updateLanguagePref (tables : AccountTables services)
    (userId : UserId) (languageId : Option LanguageId) :
    (tables.updateLanguagePref userId languageId).profiles =
      tables.profiles := by
  unfold profiles updateLanguagePref
  exact List.map_map

/-! ## One request of somebody else -/

section NotAdministrator

variable {tables after : AccountTables services} {actor : Option UserId}

theorem byAdministrator_of_administration {call : ActorRequest}
    (performs : call.perform tables = .ok after) :
    ByAdministrator tables call.actor ∨ after = tables ∨
      ∃ input salt result,
        call.request = .register input salt ∧
          AuthController.register tables call.actor input salt =
              .ok result ∧
            result.tables = after := by
  rcases call with ⟨actor, request⟩
  unfold ActorRequest.perform at performs
  cases request with
  | store input draws =>
      rcases map_eq_ok_iff.mp performs with ⟨result, returns, rfl⟩
      rcases UserController.inserted_of_store returns with
        ⟨admin, _, _, reached, _⟩
      exact
        Or.inl
          (UserController.byAdministrator_of_administrator reached)
  | update userId input salt =>
      rcases map_eq_ok_iff.mp performs with ⟨result, returns, rfl⟩
      rcases UserController.filled_of_update returns with
        ⟨admin, _, _, _, isUser, isAdmin, _⟩
      exact Or.inl ⟨admin, isUser, isAdmin⟩
  | destroy userId referenced =>
      rcases map_eq_ok_iff.mp performs with ⟨result, returns, rfl⟩
      rcases UserController.deleted_of_destroy returns with
        same | ⟨admin, isUser, isAdmin, _⟩
      · exact Or.inr (Or.inl same)
      · exact Or.inl ⟨admin, isUser, isAdmin⟩
  | importCsv input commitException =>
      rcases map_eq_ok_iff.mp performs with ⟨result, returns, rfl⟩
      rcases (UserController.importCsv_eq_ok_iff _ _ _ _ _ _).mp returns
        with ⟨admin, _, reached, _, _⟩
      exact
        Or.inl
          (UserController.byAdministrator_of_administrator reached)
  | register input salt =>
      rcases map_eq_ok_iff.mp performs with ⟨result, returns, same⟩
      exact Or.inr (Or.inr ⟨input, salt, result, rfl, returns, same⟩)

theorem onlyJoined_register {input : AuthController.RegisterInput}
    {salt : ℕ} {result : AuthController.AuthResult services}
    (returns :
      AuthController.register tables actor input salt = .ok result) :
    OnlyJoined tables result.tables := by
  rcases AuthController.inserted_of_register returns with
    ⟨form, users, rows, same⟩
  rw [same]
  refine
    ⟨⟨[(form.newUser (services.make salt form.password)
          tables.users.nextKey).profile], ?_, ?_⟩,
      rfl, ⟨[], nofun, (List.append_nil _).symm⟩⟩
  · intro profile member
    rw [List.mem_singleton.mp member]
    exact ⟨rfl, rfl⟩
  · show users.rows.map UserAccount.profile = _
    rw [rows, List.map_append]
    rfl

theorem byAdministrator_of_decideNow {input : DecisionInput}
    (decides : decideNow tables actor input = some after) :
    ByAdministrator tables actor := by
  rcases Option.bind_eq_some_iff.mp decides with ⟨_, checked, _⟩
  unfold checkDecision at checked
  simp only [bind, Option.bind_eq_some_iff, toOption_eq_some_iff]
    at checked
  rcases checked with ⟨admin, reached, _⟩
  unfold routeAdministrator at reached
  rcases bind_eq_ok_iff.mp reached with ⟨user, isUser, rest⟩
  rcases bind_eq_ok_iff.mp rest with ⟨_, allowed, same⟩
  rw [authenticate_eq_ok_iff] at isUser
  rw [EnsureRole.handle_eq_ok_iff] at allowed
  refine ⟨user, isUser, ?_⟩
  simpa using allowed

theorem onlyJoined_sendResetLinkEmail {email : Option String}
    {draws : AuthController.ResetLinkDraws}
    {result : AccountTables services × RedirectResponse}
    (returns :
      AuthController.sendResetLinkEmail tables actor email draws =
        .ok result) :
    OnlyJoined tables result.1 := by
  unfold AuthController.sendResetLinkEmail at returns
  rcases bind_eq_ok_iff.mp returns with ⟨response | user, _, rest⟩
  · cases rest
    exact OnlyJoined.refl tables
  · rcases bind_eq_ok_iff.mp rest with ⟨reached, created, same⟩
    cases same
    rw [executed_eq_ok_iff] at created
    unfold AuthController.createResetRequest at created
    split_ifs at created
    cases created
    refine ⟨⟨[], nofun, (List.append_nil _).symm⟩, rfl, ⟨_, ?_, rfl⟩⟩
    intro request member
    rw [List.mem_singleton.mp member]
    rfl

theorem onlyJoined_resetPassword {broker : AuthController.PasswordBroker}
    {input : AuthController.ResetInput} {salt : ℕ}
    {rememberToken : RandomText 60}
    {result : AccountTables services × RedirectResponse}
    (returns :
      AuthController.resetPassword tables actor broker input salt
        rememberToken = .ok result) :
    OnlyJoined tables result.1 := by
  unfold AuthController.resetPassword at returns
  rcases bind_eq_ok_iff.mp returns with ⟨_, _, rest⟩
  rcases bind_eq_ok_iff.mp rest with ⟨form, _, rest⟩
  cases accepted : broker form.2.1 form.1 with
  | none =>
      rw [accepted] at rest
      cases rest
      exact OnlyJoined.refl tables
  | some userId =>
      rw [accepted] at rest
      cases rest
      exact
        OnlyJoined.of_profiles (profiles_withCredentials tables _ _) rfl
          rfl

theorem onlyJoined_rehashPasswordIfRequired
    (tables : AccountTables services) (user : UserAccount)
    (password : String) (salt : ℕ) :
    OnlyJoined tables
      (AuthController.rehashPasswordIfRequired tables user password
        salt) := by
  unfold AuthController.rehashPasswordIfRequired
  split_ifs
  · exact
      OnlyJoined.of_profiles (profiles_withCredentials tables _ _) rfl rfl
  · exact OnlyJoined.refl tables

theorem onlyJoined_login {input : AuthController.LoginInput}
    {salt : ℕ} {rememberToken : RandomText 60}
    {result : AuthController.AuthResult services}
    (returns :
      AuthController.login tables actor input salt rememberToken =
        .ok result) :
    OnlyJoined tables result.tables := by
  unfold AuthController.login at returns
  rcases bind_eq_ok_iff.mp returns with ⟨_, _, rest⟩
  rcases bind_eq_ok_iff.mp rest with ⟨credentials, _, rest⟩
  cases found :
      AuthController.attempt tables credentials.1 credentials.2 with
  | none =>
      rw [found] at rest
      cases rest
      exact OnlyJoined.refl tables
  | some user =>
      rw [found] at rest
      cases rest
      dsimp only
      have rehashed :=
        onlyJoined_rehashPasswordIfRequired tables user credentials.2
          salt
      split_ifs
      · exact
          rehashed.trans
            (OnlyJoined.of_profiles (profiles_withCredentials _ _ _) rfl
              rfl)
      · exact rehashed

theorem onlyJoined_localeSwitch {config : LocaleConfig}
    {session : WebSession} {input : Option String}
    {result : AccountTables services × WebSession}
    (returns :
      localeSwitch config tables session input = .ok result) :
    OnlyJoined tables result.1 := by
  unfold localeSwitch at returns
  rcases bind_eq_ok_iff.mp returns with ⟨locale, _, rest⟩
  rcases bind_eq_ok_iff.mp rest with ⟨_, _, rest⟩
  cases found : tables.user? session.user with
  | none =>
      rw [found] at rest
      cases rest
      exact OnlyJoined.refl tables
  | some user =>
      rw [found] at rest
      cases rest
      exact
        OnlyJoined.of_profiles (profiles_updateLanguagePref tables _ _)
          rfl rfl

end NotAdministrator

/-- A request of somebody who is no administrator. -/
theorem onlyJoined_accountStep {tables : AccountTables services}
    {call : AccountCall}
    (notAdministrator : ¬ ByAdministrator tables call.actor) :
    OnlyJoined tables (accountStep tables call) := by
  unfold accountStep
  cases performs : call.perform tables with
  | none => exact OnlyJoined.refl tables
  | some after =>
      change OnlyJoined tables after
      rcases call with ⟨now, actor, request⟩
      unfold AccountCall.perform at performs
      cases request with
      | administration request =>
          rcases byAdministrator_of_administration
              (toOption_eq_some_iff.mp performs) with
            isAdmin | rfl | ⟨input, salt, result, _, returns, rfl⟩
          · exact (notAdministrator isAdmin).elim
          · exact OnlyJoined.refl after
          · exact onlyJoined_register returns
      | regeneratePassword userId temporaryPassword salt =>
          rcases map_eq_ok_iff.mp (toOption_eq_some_iff.mp performs)
            with ⟨result, returns, rfl⟩
          unfold UserController.regeneratePassword at returns
          rcases bind_eq_ok_iff.mp returns with
            ⟨⟨admin, user⟩, reached, _⟩
          rw [administratorOf_eq_ok_iff] at reached
          exact
            (notAdministrator ⟨admin, reached.1, reached.2.1⟩).elim
      | sendResetLinkEmail email token =>
          rcases map_eq_ok_iff.mp (toOption_eq_some_iff.mp performs)
            with ⟨result, returns, rfl⟩
          exact onlyJoined_sendResetLinkEmail returns
      | approve requestId draws =>
          exact
            (notAdministrator
              (byAdministrator_of_decideNow performs)).elim
      | decline requestId notes =>
          exact
            (notAdministrator
              (byAdministrator_of_decideNow performs)).elim
      | resetPassword broker input salt rememberToken =>
          rcases map_eq_ok_iff.mp (toOption_eq_some_iff.mp performs)
            with ⟨result, returns, rfl⟩
          exact onlyJoined_resetPassword returns
      | login input salt rememberToken =>
          rcases map_eq_ok_iff.mp (toOption_eq_some_iff.mp performs)
            with ⟨result, returns, rfl⟩
          exact onlyJoined_login returns
      | localeSwitch config locale =>
          rcases map_eq_ok_iff.mp (toOption_eq_some_iff.mp performs)
            with ⟨result, returns, rfl⟩
          exact onlyJoined_localeSwitch returns

end AccountTables

/-! ## Runs without an administrator -/

theorem LanguageController.byAdministrator_of_store
    {services : Services} {before : Installation services}
    {actor : Option UserId} {input : LanguageInput}
    {result : Installation services × RedirectResponse}
    (returns : store before actor input = .ok result) :
    ByAdministrator before.accounts actor := by
  unfold store at returns
  rcases bind_eq_ok_iff.mp returns with ⟨admin, reached, _⟩
  exact UserController.byAdministrator_of_administrator reached

theorem LanguageController.byAdministrator_of_update
    {services : Services} {before : Installation services}
    {actor : Option UserId} {languageId : LanguageId}
    {input : LanguageInput}
    {result : Installation services × RedirectResponse}
    (returns : update before actor languageId input = .ok result) :
    ByAdministrator before.accounts actor := by
  unfold update at returns
  rcases bind_eq_ok_iff.mp returns with ⟨⟨admin, _⟩, reached, _⟩
  rw [administratorOf_eq_ok_iff] at reached
  exact ⟨admin, reached.1, reached.2.1⟩

theorem LanguageController.byAdministrator_of_destroy
    {services : Services} {before : Installation services}
    {actor : Option UserId} {languageId : LanguageId}
    {result : Installation services × RedirectResponse}
    (returns : destroy before actor languageId = .ok result) :
    ByAdministrator before.accounts actor := by
  unfold destroy at returns
  rcases bind_eq_ok_iff.mp returns with ⟨⟨admin, _⟩, reached, _⟩
  rw [administratorOf_eq_ok_iff] at reached
  exact ⟨admin, reached.1, reached.2.1⟩

namespace Application

open AccountTables

variable {services : Services}

theorem onlyJoined_destroyUser {app : Application services}
    {request : HttpRequest} {userId : UserId}
    (notAdministrator : ¬ ByAdministrator app.accounts request.actor) :
    OnlyJoined app.accounts (app.destroyUser request userId).accounts := by
  unfold destroyUser
  cases destroys :
      UserController.destroy app.accounts request.actor userId
        (request.data.referenced || decide (app.Participates userId)) with
  | error interruption => exact OnlyJoined.refl _
  | ok result =>
      rcases UserController.deleted_of_destroy destroys with
        same | ⟨admin, isUser, isAdmin, _⟩
      · change OnlyJoined app.accounts result.1
        rw [same]
        exact OnlyJoined.refl _
      · exact (notAdministrator ⟨admin, isUser, isAdmin⟩).elim

theorem onlyJoined_install {app : Application services}
    {result :
      Except Interruption (Installation services × RedirectResponse)}
    (kept :
      ∀ after, result = .ok after →
        OnlyJoined app.accounts after.1.accounts) :
    OnlyJoined app.accounts (app.install result).accounts := by
  cases result with
  | error interruption => exact OnlyJoined.refl _
  | ok after => exact kept after rfl

theorem onlyJoined_withForm {Form : Type} {app : Application services}
    {form : Option Form} {act : Form → Application services}
    (kept : ∀ valid, OnlyJoined app.accounts (act valid).accounts) :
    OnlyJoined app.accounts (app.withForm form act).accounts := by
  cases form with
  | none => exact OnlyJoined.refl _
  | some valid => exact kept valid

theorem onlyJoined_perform {app : Application services}
    {request : HttpRequest}
    (notAdministrator : ¬ ByAdministrator app.accounts request.actor)
    (action : Action) (keys : List ℕ) :
    OnlyJoined app.accounts
      (app.perform request action keys).accounts := by
  unfold perform
  split
  · exact onlyJoined_accountStep notAdministrator
  · split
    · exact onlyJoined_destroyUser notAdministrator
    · apply onlyJoined_install
      intro after returns
      exact
        (notAdministrator
          (LanguageController.byAdministrator_of_store returns)).elim
    · apply onlyJoined_install
      intro after returns
      exact
        (notAdministrator
          (LanguageController.byAdministrator_of_update returns)).elim
    · apply onlyJoined_install
      intro after returns
      exact
        (notAdministrator
          (LanguageController.byAdministrator_of_destroy returns)).elim
    · apply onlyJoined_withForm
      intro payload
      apply onlyJoined_install
      rintro ⟨after, response⟩ returns
      rw [(AssessmentController.stored_of_storeAction returns).2.1]
      exact OnlyJoined.refl _
    · exact onlyJoined_withForm fun _ => OnlyJoined.refl _
    · exact onlyJoined_withForm fun _ => OnlyJoined.refl _
    · exact OnlyJoined.refl _

variable (readKey : Word → Option ℕ)

/-- No administrator sends the request. -/
def NotByAdministrator (app : Application services) : Event → Prop
  | .http request =>
      app.accounts.roleOf request.actor ≠ some .admin
  | .recalculateScores _ => True

instance (app : Application services) (event : Event) :
    Decidable (app.NotByAdministrator event) :=
  match event with
  | .http _ => inferInstanceAs (Decidable (_ ≠ _))
  | .recalculateScores _ => inferInstanceAs (Decidable True)

theorem onlyJoined_step {app : Application services} {event : Event}
    (others : app.NotByAdministrator event) :
    OnlyJoined app.accounts (app.step readKey event).accounts := by
  cases event with
  | recalculateScores options => exact OnlyJoined.refl _
  | http request =>
      have notAdministrator :
          ¬ ByAdministrator app.accounts request.actor := by
        rw [byAdministrator_iff]
        exact others
      unfold step
      dsimp only
      split
      · exact onlyJoined_perform notAdministrator _ _
      · exact OnlyJoined.refl _

/--
In a run without a request of an administrator, the users keep their
profiles, new ones are active participants, and requests for a password
stay open.
-/
theorem nobody_is_promoted (app : Application services)
    (events : List Event)
    (others :
      Throughout (step readKey) NotByAdministrator app events) :
    OnlyJoined app.accounts (app.run readKey events).accounts :=
  invariant_of_throughout
    (motive := fun reached =>
      OnlyJoined app.accounts reached.accounts)
    (fun _ _ kept notByAdministrator =>
      kept.trans (onlyJoined_step readKey notByAdministrator))
    (OnlyJoined.refl _) others

/-- A guest registers. -/
def registrationRequest : HttpRequest where
  method := .post
  path := "/register".toList
  actor := none
  data :=
    { emptyData with
      registration :=
        ⟨some "new", none, some "new@example.com", some "password",
          some "password", none⟩ }

/-- A participant tries to create an administrator. -/
def escalationRequest : HttpRequest where
  method := .post
  path := "/admin/users".toList
  actor := some 2
  data :=
    { emptyData with
      user :=
        ⟨some "other", none, some "other@example.com", some "admin", none,
          none, none, some "active", some "password"⟩ }

theorem nobody_is_promoted_attempt :
    OnlyJoined sampleApplication.accounts
      (sampleApplication.run readDecimal
        [.http registrationRequest, .http escalationRequest]).accounts :=
  nobody_is_promoted readDecimal sampleApplication _ (by decide +kernel)

end Application

/-! ## Passwords -/

namespace AccountTables

variable {services : Services}

/-- The user is stored with the password hash. -/
def HasPassword (tables : AccountTables services) (userId : UserId)
    (hashed : String) : Prop :=
  ∃ user ∈ tables.users.rows, user.id = userId ∧ user.password = hashed

/-- A login of the user whose hash is not of the configured kind. -/
def Rehashes (tables : AccountTables services)
    (input : AuthController.LoginInput) (userId : UserId) : Prop :=
  ∃ email password user,
    input.email = some email ∧ input.password = some password ∧
      AuthController.attempt tables email password = some user ∧
        user.id = userId ∧ services.needsRehash user.password = true

/-- The request writes the password of the user, or deletes the user. -/
def SetsPassword (tables : AccountTables services) (call : AccountCall)
    (userId : UserId) : Prop :=
  match call.request with
  | .administration (.update changed input _) =>
      changed = userId ∧
        ∃ form,
          ValidUpdate tables call.actor changed input form ∧
            form.password ≠ none
  | .administration (.destroy deleted _) => deleted = userId
  | .regeneratePassword changed _ _ => changed = userId
  | .approve requestId _ =>
      ∃ request,
        tables.requests.find? requestId = some request ∧
          request.userId = userId ∧ request.status = .pending
  | .resetPassword broker input _ _ =>
      ∃ email token,
        input.email = some email ∧ input.token = some token ∧
          broker email token = some userId
  | .login input _ _ => Rehashes tables input userId
  | _ => False

theorem HasPassword.of_append {tables : AccountTables services}
    {userId : UserId} {hashed : String}
    (has : tables.HasPassword userId hashed)
    {users : UsersTable services} {added : List UserAccount}
    (rows : users.rows = tables.users.rows ++ added) :
    { tables with users := users }.HasPassword userId hashed := by
  rcases has with ⟨user, member, own⟩
  refine ⟨user, ?_, own⟩
  rw [rows]
  exact List.mem_append_left _ member

theorem HasPassword.withCredentials {tables : AccountTables services}
    {userId : UserId} {hashed : String}
    (has : tables.HasPassword userId hashed)
    {password : UserAccount → String}
    {rememberToken : UserAccount → Option String}
    (kept :
      ∀ user ∈ tables.users.rows,
        user.id = userId → password user = user.password) :
    (tables.withCredentials password rememberToken).HasPassword userId
      hashed := by
  rcases has with ⟨user, member, own, isHashed⟩
  exact
    ⟨_, List.mem_map_of_mem member, own,
      (kept user member own).trans isHashed⟩

section OneRequest

variable {tables after : AccountTables services} {actor : Option UserId}
  {userId : UserId} {hashed : String}

theorem password_fill_of_none
    {form : UserController.UserForm} (notGiven : form.password = none)
    (salt : ℕ) (services : Services) (user : UserAccount) :
    (form.fill salt services user).password = user.password := by
  unfold UserController.UserForm.fill
  rw [notGiven]

theorem HasPassword.update (has : tables.HasPassword userId hashed)
    {changed : UserId} {input : UserController.UserInput} {salt : ℕ}
    {result : AccountTables services × RedirectResponse}
    (returns :
      UserController.update tables actor changed input salt = .ok result)
    (others :
      ¬ (changed = userId ∧
        ∃ form,
          ValidUpdate tables actor changed input form ∧
            form.password ≠ none)) :
    result.1.HasPassword userId hashed := by
  rcases UserController.filled_of_update returns with
    ⟨admin, user, form, users, isUser, isAdmin, found, valid, rows,
      same⟩
  rcases (IndexedTable.find?_eq_some_iff _ _ _).mp found with
    ⟨isListed, ownKey⟩
  rcases has with ⟨stored, member, own, isHashed⟩
  rw [same]
  refine ⟨_, rows ▸ List.mem_map_of_mem member, ?_, ?_⟩
  · split_ifs <;> exact own
  · split_ifs with isChanged
    · have samePassword : form.password = none := by
        by_contra given
        apply others
        rw [← ownKey, ← isChanged]
        refine ⟨own, form, ⟨⟨admin, isUser, isAdmin⟩, ?_, ?_⟩, given⟩
        · exact ⟨user, isListed, isChanged.symm⟩
        · rw [isChanged]
          exact valid
      exact
        (password_fill_of_none samePassword _ _ _).trans isHashed
    · exact isHashed

theorem HasPassword.destroy (has : tables.HasPassword userId hashed)
    {deleted : UserId} {referenced : Bool}
    {result : AccountTables services × RedirectResponse}
    (returns :
      UserController.destroy tables actor deleted referenced =
        .ok result)
    (other : deleted ≠ userId) :
    result.1.HasPassword userId hashed := by
  rcases UserController.deleted_of_destroy returns with
    same | ⟨_, _, _, _, gone⟩
  · rw [same]
    exact has
  · rcases has with ⟨user, member, own, isHashed⟩
    refine ⟨user, ?_, own, isHashed⟩
    rw [gone.users]
    apply (IndexedTable.mem_rows_delete _ _ _).mpr
    exact ⟨member, fun same => other (same.symm.trans own)⟩

theorem HasPassword.importCsv (has : tables.HasPassword userId hashed)
    {input : UserController.ImportInput}
    {commitException : Option String}
    {result : UserController.ImportResult services}
    (returns :
      UserController.importCsv tables none actor input commitException =
        .ok result) :
    result.tables.HasPassword userId hashed := by
  rcases (UserController.importCsv_eq_ok_iff _ _ _ _ _ _).mp returns
    with ⟨admin, form, _, _, rfl⟩
  cases imports :
      UserController.importRows form.role form.defaultStatus
        commitException form.rows tables.users with
  | error message => exact has
  | ok progress =>
      have accounted :=
        (UserController.accounted_start tables.users form.role
          form.defaultStatus).foldlM
          ((UserController.importRows_eq_ok_iff _ _ _ _ _ _).mp
            imports).1
      rcases accounted.users with ⟨added, rows, _⟩
      exact has.of_append rows

theorem HasPassword.decideNow (has : tables.HasPassword userId hashed)
    {input : DecisionInput}
    (decides : decideNow tables actor input = some after)
    (others :
      ∀ requestId draws now, input = .approve requestId draws now →
        ¬ ∃ request,
          tables.requests.find? requestId = some request ∧
            request.userId = userId ∧ request.status = .pending) :
    after.HasPassword userId hashed := by
  rcases Option.bind_eq_some_iff.mp decides with
    ⟨⟨decision, loaded⟩, checked, commits⟩
  rcases find?_of_checkDecision checked with
    ⟨⟨administrator, rfl⟩, found, isPending⟩
  rcases Option.map_eq_some_iff.mp commits with ⟨reset, acts, rfl⟩
  have committed := committed_of_transaction acts
  have kept :
      ∀ user ∈ tables.users.rows, user.id = userId →
        ((reset.users.find? user.id).getD user.toUser).password =
          user.password := by
    intro user member own
    have written := committed.passwords user.id
    rw [find?_resetTables_users, tables.users.find?_key member]
      at written
    have untouched (password : String) :
        passwordAfter user.id password
            ((input.decision administrator).passwordWritten
              services.toCryptography loaded).toList =
          password := by
      cases input with
      | decline requestId notes now => rfl
      | approve requestId draws now =>
          have other : loaded.userId ≠ user.id := by
            intro same
            exact
              others requestId draws now rfl
                ⟨loaded, found, same.trans own, isPending⟩
          simp [DecisionInput.decision, Decision.passwordWritten,
            passwordAfter, other]
    cases stored : reset.users.find? user.id with
    | none => rfl
    | some credentials =>
        rw [stored] at written
        have same := Option.some.inj written
        dsimp only at same
        rw [untouched] at same
        exact same
  exact has.withCredentials kept

theorem given_of_required {field : String} {input : Option String}
    {text : String}
    (accepted : AuthController.required field input = .ok text) :
    input = some text := by
  unfold AuthController.required at accepted
  rw [Validated.present_eq_ok_iff] at accepted
  exact (Option.filter_eq_some_iff.mp accepted).1

theorem given_of_requiredEmail {input : Option String} {email : String}
    (accepted :
      AuthController.requiredEmail services input = .ok email) :
    input = some email := by
  unfold AuthController.requiredEmail at accepted
  rcases bind_eq_ok_iff.mp accepted with ⟨text, given, checked⟩
  rw [((Validated.rules_eq_ok_iff _ _ _ _).mp checked).2] at given
  exact given_of_required given

theorem HasPassword.resetPassword
    (has : tables.HasPassword userId hashed)
    {broker : AuthController.PasswordBroker}
    {input : AuthController.ResetInput} {salt : ℕ}
    {rememberToken : RandomText 60}
    {result : AccountTables services × RedirectResponse}
    (returns :
      AuthController.resetPassword tables actor broker input salt
        rememberToken = .ok result)
    (others :
      ¬ ∃ email token,
        input.email = some email ∧ input.token = some token ∧
          broker email token = some userId) :
    result.1.HasPassword userId hashed := by
  unfold AuthController.resetPassword at returns
  rcases bind_eq_ok_iff.mp returns with ⟨_, _, rest⟩
  rcases bind_eq_ok_iff.mp rest with ⟨form, valid, rest⟩
  rw [validated_eq_ok_iff, Validated.both_eq_ok_iff,
    Validated.both_eq_ok_iff] at valid
  cases accepted : broker form.2.1 form.1 with
  | none =>
      rw [accepted] at rest
      cases rest
      exact has
  | some owner =>
      rw [accepted] at rest
      cases rest
      apply has.withCredentials
      intro user _ own
      apply if_neg
      intro isOwner
      apply others
      exact
        ⟨form.2.1, form.1, given_of_requiredEmail valid.2.1,
          given_of_required valid.1, by rw [accepted, ← own, isOwner]⟩

/-- A login that rehashes no password of the user keeps it. -/
theorem HasPassword.login (has : tables.HasPassword userId hashed)
    {input : AuthController.LoginInput} {salt : ℕ}
    {rememberToken : RandomText 60}
    {result : AuthController.AuthResult services}
    (returns :
      AuthController.login tables actor input salt rememberToken =
        .ok result)
    (others : ¬ Rehashes tables input userId) :
    result.tables.HasPassword userId hashed := by
  unfold AuthController.login at returns
  rcases bind_eq_ok_iff.mp returns with ⟨_, _, rest⟩
  rcases bind_eq_ok_iff.mp rest with ⟨credentials, valid, rest⟩
  rw [validated_eq_ok_iff, Validated.both_eq_ok_iff] at valid
  cases found :
      AuthController.attempt tables credentials.1 credentials.2 with
  | none =>
      rw [found] at rest
      cases rest
      exact has
  | some user =>
      rw [found] at rest
      cases rest
      dsimp only
      have rehashed :
          (AuthController.rehashPasswordIfRequired tables user
            credentials.2 salt).HasPassword userId hashed := by
        unfold AuthController.rehashPasswordIfRequired
        split_ifs with outdated
        · apply has.withCredentials
          intro other _ own
          apply if_neg
          intro isUser
          exact
            others
              ⟨credentials.1, credentials.2, user,
                given_of_requiredEmail valid.1,
                given_of_required valid.2, found,
                isUser.symm.trans own, outdated⟩
        · exact has
      split_ifs
      · exact rehashed.withCredentials fun _ _ _ => rfl
      · exact rehashed

end OneRequest

/-- A request that does not set the password of a user keeps it. -/
theorem HasPassword.accountStep {tables : AccountTables services}
    {userId : UserId} {hashed : String}
    (has : tables.HasPassword userId hashed) {call : AccountCall}
    (others : ¬ tables.SetsPassword call userId) :
    (accountStep tables call).HasPassword userId hashed := by
  unfold PasswordResetRequestController.accountStep
  cases performs : call.perform tables with
  | none => exact has
  | some after =>
      change after.HasPassword userId hashed
      rcases call with ⟨now, actor, request⟩
      unfold AccountCall.perform at performs
      cases request with
      | administration request =>
          replace performs := toOption_eq_some_iff.mp performs
          unfold ActorRequest.perform at performs
          cases request with
          | store input draws =>
              rcases map_eq_ok_iff.mp performs with
                ⟨result, returns, rfl⟩
              rcases UserController.inserted_of_store returns with
                ⟨_, _, users, _, _, rows, same⟩
              rw [same]
              exact has.of_append rows
          | update changed input salt =>
              rcases map_eq_ok_iff.mp performs with
                ⟨result, returns, rfl⟩
              exact has.update returns others
          | destroy deleted referenced =>
              rcases map_eq_ok_iff.mp performs with
                ⟨result, returns, rfl⟩
              exact has.destroy returns others
          | importCsv input commitException =>
              rcases map_eq_ok_iff.mp performs with
                ⟨result, returns, rfl⟩
              exact has.importCsv returns
          | register input salt =>
              rcases map_eq_ok_iff.mp performs with
                ⟨result, returns, rfl⟩
              rcases AuthController.inserted_of_register returns with
                ⟨_, users, rows, same⟩
              rw [same]
              exact has.of_append rows
      | regeneratePassword changed temporaryPassword salt =>
          rcases map_eq_ok_iff.mp (toOption_eq_some_iff.mp performs)
            with ⟨result, returns, rfl⟩
          unfold UserController.regeneratePassword at returns
          rcases bind_eq_ok_iff.mp returns with
            ⟨⟨admin, user⟩, reached, same⟩
          rw [administratorOf_eq_ok_iff] at reached
          cases same
          have ownKey :=
            ((IndexedTable.find?_eq_some_iff _ _ _).mp reached.2.2).2
          apply has.withCredentials
          intro stored _ own
          apply if_neg
          intro isChanged
          exact others (ownKey.symm.trans (isChanged.symm.trans own))
      | sendResetLinkEmail email token =>
          rcases map_eq_ok_iff.mp (toOption_eq_some_iff.mp performs)
            with ⟨result, returns, rfl⟩
          unfold AuthController.sendResetLinkEmail at returns
          rcases bind_eq_ok_iff.mp returns with
            ⟨response | user, _, rest⟩
          · cases rest
            exact has
          · rcases bind_eq_ok_iff.mp rest with ⟨reached, created, same⟩
            cases same
            rw [executed_eq_ok_iff] at created
            unfold AuthController.createResetRequest at created
            split_ifs at created
            cases created
            exact has
      | approve requestId draws =>
          apply has.decideNow performs
          rintro _ _ _ ⟨⟩
          exact others
      | decline requestId notes =>
          exact has.decideNow performs nofun
      | resetPassword broker input salt rememberToken =>
          rcases map_eq_ok_iff.mp (toOption_eq_some_iff.mp performs)
            with ⟨result, returns, rfl⟩
          exact has.resetPassword returns others
      | login input salt rememberToken =>
          rcases map_eq_ok_iff.mp (toOption_eq_some_iff.mp performs)
            with ⟨result, returns, rfl⟩
          exact has.login returns others
      | localeSwitch config locale =>
          rcases map_eq_ok_iff.mp (toOption_eq_some_iff.mp performs)
            with ⟨result, returns, rfl⟩
          unfold SultanPass.localeSwitch at returns
          rcases bind_eq_ok_iff.mp returns with ⟨code, _, rest⟩
          rcases bind_eq_ok_iff.mp rest with ⟨_, _, rest⟩
          dsimp only at rest
          cases found : tables.user? actor with
          | none =>
              rw [found] at rest
              cases rest
              exact has
          | some user =>
              rw [found] at rest
              cases rest
              rcases has with ⟨stored, member, own, isHashed⟩
              exact ⟨_, List.mem_map_of_mem member, own, isHashed⟩

end AccountTables

/-! ## Runs that leave a password -/

namespace Application

open AccountTables

variable {services : Services} (readKey : Word → Option ℕ)

/-- The ways in which an event changes the password of a user. -/
inductive ChangesPassword (app : Application services)
    (userId : UserId) : Event → Prop where
  | updated (request : HttpRequest) (form : UserController.UserForm)
      (isServed :
        app.served readKey request = some (.userUpdate, [userId]))
      (valid :
        ValidUpdate app.accounts request.actor userId request.data.user
          form)
      (given : form.password ≠ none) :
      ChangesPassword app userId (.http request)
  | regenerated (request : HttpRequest)
      (isServed :
        app.served readKey request =
          some (.userRegeneratePassword, [userId])) :
      ChangesPassword app userId (.http request)
  | approved (request : HttpRequest) (resetRequest : PasswordResetRequest)
      (isServed :
        app.served readKey request =
          some (.passwordResetApprove, [resetRequest.id]))
      (listed : resetRequest ∈ app.accounts.requests.rows)
      (own : resetRequest.userId = userId)
      (isPending : resetRequest.status = .pending) :
      ChangesPassword app userId (.http request)
  | reset (request : HttpRequest) (email token : String)
      (isServed : app.served readKey request = some (.resetPassword, []))
      (hasEmail : request.data.reset.email = some email)
      (hasToken : request.data.reset.token = some token)
      (accepted : request.data.broker email token = some userId) :
      ChangesPassword app userId (.http request)
  | rehashed (request : HttpRequest)
      (isServed : app.served readKey request = some (.login, []))
      (rehashes : app.accounts.Rehashes request.data.login userId) :
      ChangesPassword app userId (.http request)
  | deleted (request : HttpRequest)
      (isServed :
        app.served readKey request = some (.userDestroy, [userId])) :
      ChangesPassword app userId (.http request)

variable {readKey}

/-- A request about accounts that sets a password is one of these. -/
theorem changesPassword_of_setsPassword {app : Application services}
    {request : HttpRequest} {userId : UserId} {action : Action}
    {keys : List ℕ} {accountRequest : AccountRequest}
    (isServed : app.served readKey request = some (action, keys))
    (isRequest :
      accountRequest? request.data action keys = some accountRequest)
    (sets :
      app.accounts.SetsPassword
        ⟨request.data.now, request.actor, accountRequest⟩ userId) :
    app.ChangesPassword readKey userId (.http request) := by
  unfold accountRequest? at isRequest
  unfold SetsPassword at sets
  split at isRequest
  all_goals cases isRequest
  all_goals dsimp only at sets
  · rcases sets with ⟨rfl, form, valid, given⟩
    exact ChangesPassword.updated request form isServed valid given
  · subst sets
    exact ChangesPassword.regenerated request isServed
  · exact ChangesPassword.rehashed request isServed sets
  · rcases sets with ⟨email, token, hasEmail, hasToken, accepted⟩
    exact
      ChangesPassword.reset request email token isServed hasEmail hasToken
        accepted
  · rcases sets with ⟨resetRequest, found, own, isPending⟩
    rcases (KeyedTable.find?_eq_some_iff _ _ _).mp found with
      ⟨listed, rfl⟩
    exact
      ChangesPassword.approved request resetRequest isServed listed own
        isPending

theorem hasPassword_install {app : Application services}
    {userId : UserId} {hashed : String}
    (has : app.accounts.HasPassword userId hashed)
    {result :
      Except Interruption (Installation services × RedirectResponse)}
    (sameUsers :
      ∀ after, result = .ok after →
        after.1.accounts.users = app.accounts.users) :
    (app.install result).accounts.HasPassword userId hashed := by
  cases result with
  | error interruption => exact has
  | ok after =>
      change after.1.accounts.HasPassword userId hashed
      unfold HasPassword
      rw [sameUsers after rfl]
      exact has

theorem hasPassword_withForm {app : Application services}
    {userId : UserId} {hashed : String}
    (has : app.accounts.HasPassword userId hashed) {Form : Type}
    {form : Option Form} {act : Form → Application services}
    (kept : ∀ valid, (act valid).accounts.HasPassword userId hashed) :
    (app.withForm form act).accounts.HasPassword userId hashed := by
  cases form with
  | none => exact has
  | some valid => exact kept valid

/-- One event keeps a password that it does not change. -/
theorem hasPassword_step {app : Application services} {userId : UserId}
    {hashed : String} (has : app.accounts.HasPassword userId hashed)
    {event : Event}
    (others : ¬ app.ChangesPassword readKey userId event) :
    (app.step readKey event).accounts.HasPassword userId hashed := by
  cases event with
  | recalculateScores options => exact has
  | http request =>
      unfold step
      dsimp only
      cases isServed : app.served readKey request with
      | none => exact has
      | some found =>
          rcases found with ⟨action, keys⟩
          dsimp only
          unfold perform
          split
          · rename_i accountRequest isRequest
            exact
              has.accountStep fun sets =>
                others
                  (changesPassword_of_setsPassword isServed isRequest
                    sets)
          · split
            · rename_i deleted _
              have other : deleted ≠ userId := by
                rintro rfl
                exact others (ChangesPassword.deleted request isServed)
              unfold destroyUser
              split
              · exact has
              · rename_i destroys
                exact has.destroy destroys other
            · apply hasPassword_install has
              rintro ⟨after, response⟩ returns
              rcases LanguageController.languages_of_store returns with
                ⟨_, _, rfl, _⟩
              rfl
            · apply hasPassword_install has
              rintro ⟨after, response⟩ returns
              rcases LanguageController.languages_of_update returns with
                ⟨_, rfl, _⟩
              rfl
            · apply hasPassword_install has
              rintro ⟨after, response⟩ returns
              rcases LanguageController.after_destroy returns with
                rfl | ⟨_, rfl⟩
              · rfl
              · rfl
            · apply hasPassword_withForm has
              intro payload
              apply hasPassword_install has
              rintro ⟨after, response⟩ returns
              rw [(AssessmentController.stored_of_storeAction
                returns).2.1]
              rfl
            · exact hasPassword_withForm has fun _ => has
            · exact hasPassword_withForm has fun _ => has
            · exact has

variable (readKey)

/--
The password hash of a user is what it was after a run in which no event
updates the password, generates it, approves a request of the user, resets it
with an accepted token, rehashes it at a login or deletes the user.
-/
theorem password_is_kept {app : Application services} {userId : UserId}
    {hashed : String} (has : app.accounts.HasPassword userId hashed)
    {events : List Event}
    (others :
      Throughout (step readKey)
        (fun reached event =>
          ¬ reached.ChangesPassword readKey userId event)
        app events) :
    (app.run readKey events).accounts.HasPassword userId hashed :=
  invariant_of_throughout
    (motive := fun reached =>
      reached.accounts.HasPassword userId hashed)
    (fun _ _ kept isOther => hasPassword_step kept isOther) has others

theorem served_registrationRequest :
    sampleApplication.served readDecimal registrationRequest =
      some (.register, []) := by
  decide +kernel

/-- The registration of somebody changes no password. -/
theorem not_changesPassword_registration (userId : UserId) :
    ¬ sampleApplication.ChangesPassword readDecimal userId
      (.http registrationRequest) := by
  intro changes
  cases changes with
  | updated _ form isServed =>
      rw [served_registrationRequest] at isServed
      cases isServed
  | regenerated _ isServed =>
      rw [served_registrationRequest] at isServed
      cases isServed
  | approved _ resetRequest isServed =>
      rw [served_registrationRequest] at isServed
      cases isServed
  | reset _ email token isServed =>
      rw [served_registrationRequest] at isServed
      cases isServed
  | rehashed _ isServed =>
      rw [served_registrationRequest] at isServed
      cases isServed
  | deleted _ isServed =>
      rw [served_registrationRequest] at isServed
      cases isServed

theorem password_is_kept_registration :
    (sampleApplication.run readDecimal
        [.http registrationRequest]).accounts.HasPassword 2
      "password$2" :=
  password_is_kept readDecimal
    ⟨sampleParticipant, by simp [sampleApplication, sampleAccounts], rfl,
      rfl⟩
    ⟨not_changesPassword_registration 2, True.intro⟩

end Application

end SultanPass
