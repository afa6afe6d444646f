import SultanPass.AccountResets
import SultanPass.AdministratorRemains
import SultanPass.SetLocale

/-!
# Temporary passwords do not expire

`approve` records when the temporary password expires.  Neither `login` nor
`show` reads that time: an approved request stays approved and keeps its
encrypted password, so `show` displays it at any later time, and the hash
that `approve` wrote accepts it until another password is written.

A request of an approved user cannot disappear either.  Its notification
refers to the user, and so forbids the deletion that would cascade to the
request.
-/

namespace SultanPass.PasswordResetRequestController

open SultanPass.Library
open SultanPass.UserController (ActorRequest AdministrationRequest)
open SultanPass.AuthController (LoginInput ResetInput PasswordBroker)

variable {services : Services}

/-! ## Requests -/

/-- The requests that write users, reset requests or notifications. -/
inductive AccountRequest where
  | administration (request : AdministrationRequest)
  | regeneratePassword (userId : UserId)
      (temporaryPassword : RandomText 12) (salt : ℕ)
  | sendResetLinkEmail (email : Option String) (token : String)
  | approve (requestId : ℕ) (draws : ApprovalDraws)
  | decline (requestId : ℕ) (notes : Option String)
  | resetPassword (broker : PasswordBroker) (input : ResetInput)
      (salt : ℕ) (rememberToken : RandomText 60)
  | login (input : LoginInput) (salt : ℕ)
      (rememberToken : RandomText 60)
  | localeSwitch (config : LocaleConfig) (locale : Option String)

/-- A request with its time and the user of its session. -/
structure AccountCall where
  now : Timestamp
  actor : Option UserId
  request : AccountRequest

/-- Both halves of a decision without anything in between. -/
def decideNow (tables : AccountTables services) (actor : Option UserId)
    (input : DecisionInput) : Option (AccountTables services) :=
  (checkDecision tables actor input).bind fun checked =>
    commitDecision checked.1 checked.2 tables

/-- The tables after a request that is answered. -/
def AccountCall.perform (call : AccountCall)
    (tables : AccountTables services) : Option (AccountTables services) :=
  match call.request with
  | .administration request =>
      (ActorRequest.perform ⟨call.actor, request⟩ tables).toOption
  | .regeneratePassword userId temporaryPassword salt =>
      ((UserController.regeneratePassword tables call.actor userId
        temporaryPassword salt).map Prod.fst).toOption
  | .sendResetLinkEmail email token =>
      ((AuthController.sendResetLinkEmail tables call.actor email
        ⟨token, call.now⟩).map Prod.fst).toOption
  | .approve requestId draws =>
      decideNow tables call.actor (.approve requestId draws call.now)
  | .decline requestId notes =>
      decideNow tables call.actor (.decline requestId notes call.now)
  | .resetPassword broker input salt rememberToken =>
      ((AuthController.resetPassword tables call.actor broker input salt
        rememberToken).map Prod.fst).toOption
  | .login input salt rememberToken =>
      ((AuthController.login tables call.actor input salt
        rememberToken).map AuthController.AuthResult.tables).toOption
  | .localeSwitch config locale =>
      ((SultanPass.localeSwitch config tables
        { user := call.actor, locale := none } locale).map
          Prod.fst).toOption

/-- The tables after a request; an interrupted one changes nothing. -/
def accountStep (tables : AccountTables services) (call : AccountCall) :
    AccountTables services :=
  (call.perform tables).getD tables

/-! ## Requests and notifications -/

/-- The requests and notifications are the same. -/
def SameResets (before after : AccountTables services) : Prop :=
  after.requests = before.requests ∧
    after.notifications = before.notifications

/-- The request is approved, and a notification refers to its user. -/
structure ApprovedRequest (tables : AccountTables services)
    (requestId : ℕ) (userId : UserId) (encrypted : String) : Prop where
  request :
    ∃ request ∈ tables.requests.rows,
      request.id = requestId ∧ request.userId = userId ∧
        request.status = .approved ∧
        request.temporaryPasswordEncrypted = some encrypted
  notification :
    ∃ notification ∈ tables.notifications,
      notification.userId = userId

theorem ApprovedRequest.of_sameResets
    {before after : AccountTables services} {requestId : ℕ}
    {userId : UserId} {encrypted : String}
    (approved : ApprovedRequest before requestId userId encrypted)
    (same : SameResets before after) :
    ApprovedRequest after requestId userId encrypted where
  request := by
    rw [same.1]
    exact approved.request
  notification := by
    rw [same.2]
    exact approved.notification

theorem sameResets_store
    {tables : AccountTables services} {actor : Option UserId}
    {input : UserController.UserInput}
    {draws : UserController.StoreDraws}
    {after : AccountTables services × RedirectResponse}
    (returns :
      UserController.store tables actor input draws = .ok after) :
    SameResets tables after.1 := by
  rcases UserController.inserted_of_store returns with
    ⟨_, _, _, _, _, _, same⟩
  rw [same]
  exact ⟨rfl, rfl⟩

theorem sameResets_update
    {tables : AccountTables services} {actor : Option UserId}
    {userId : UserId} {input : UserController.UserInput} {salt : ℕ}
    {after : AccountTables services × RedirectResponse}
    (returns :
      UserController.update tables actor userId input salt =
        .ok after) :
    SameResets tables after.1 := by
  rcases UserController.filled_of_update returns with
    ⟨_, _, _, _, _, _, _, _, _, same⟩
  rw [same]
  exact ⟨rfl, rfl⟩

theorem sameResets_importCsv
    {tables : AccountTables services}
    {session : UserController.PasswordSession} {actor : Option UserId}
    {input : UserController.ImportInput}
    {commitException : Option String}
    {after : UserController.ImportResult services}
    (returns :
      UserController.importCsv tables session actor input
        commitException = .ok after) :
    SameResets tables after.tables := by
  rcases (UserController.importCsv_eq_ok_iff _ _ _ _ _ _).mp returns
    with ⟨_, form, _, _, rfl⟩
  cases UserController.importRows form.role form.defaultStatus
      commitException form.rows tables.users with
  | error message => exact ⟨rfl, rfl⟩
  | ok progress => exact ⟨rfl, rfl⟩

theorem sameResets_register
    {tables : AccountTables services} {actor : Option UserId}
    {input : AuthController.RegisterInput} {salt : ℕ}
    {after : AuthController.AuthResult services}
    (returns :
      AuthController.register tables actor input salt = .ok after) :
    SameResets tables after.tables := by
  rcases AuthController.inserted_of_register returns with
    ⟨_, _, _, same⟩
  rw [same]
  exact ⟨rfl, rfl⟩

theorem sameResets_regeneratePassword
    {tables : AccountTables services} {actor : Option UserId}
    {userId : UserId} {temporaryPassword : RandomText 12} {salt : ℕ}
    {after : AccountTables services × RedirectResponse}
    (returns :
      UserController.regeneratePassword tables actor userId
        temporaryPassword salt = .ok after) :
    SameResets tables after.1 := by
  unfold UserController.regeneratePassword at returns
  rcases bind_eq_ok_iff.mp returns with ⟨_, _, same⟩
  cases same
  exact ⟨rfl, rfl⟩

theorem sameResets_resetPassword
    {tables : AccountTables services} {actor : Option UserId}
    {broker : PasswordBroker} {input : ResetInput} {salt : ℕ}
    {rememberToken : RandomText 60}
    {after : AccountTables services × RedirectResponse}
    (returns :
      AuthController.resetPassword tables actor broker input salt
        rememberToken = .ok after) :
    SameResets tables after.1 := by
  unfold AuthController.resetPassword at returns
  rcases bind_eq_ok_iff.mp returns with ⟨_, _, rest⟩
  rcases bind_eq_ok_iff.mp rest with ⟨form, _, rest⟩
  cases accepted : broker form.2.1 form.1 with
  | none =>
      rw [accepted] at rest
      cases rest
      exact ⟨rfl, rfl⟩
  | some userId =>
      rw [accepted] at rest
      cases rest
      exact ⟨rfl, rfl⟩

theorem sameResets_login
    {tables : AccountTables services} {actor : Option UserId}
    {input : LoginInput} {salt : ℕ} {rememberToken : RandomText 60}
    {after : AuthController.AuthResult services}
    (returns :
      AuthController.login tables actor input salt rememberToken =
        .ok after) :
    SameResets tables after.tables := by
  unfold AuthController.login at returns
  rcases bind_eq_ok_iff.mp returns with ⟨_, _, rest⟩
  rcases bind_eq_ok_iff.mp rest with ⟨credentials, _, rest⟩
  cases found :
      AuthController.attempt tables credentials.1 credentials.2 with
  | none =>
      rw [found] at rest
      cases rest
      exact ⟨rfl, rfl⟩
  | some user =>
      rw [found] at rest
      cases rest
      dsimp only
      unfold AuthController.rehashPasswordIfRequired
      split_ifs <;> exact ⟨rfl, rfl⟩

theorem sameResets_localeSwitch
    {config : LocaleConfig} {tables : AccountTables services}
    {session : WebSession} {input : Option String}
    {after : AccountTables services × WebSession}
    (returns : localeSwitch config tables session input = .ok after) :
    SameResets tables after.1 := by
  unfold localeSwitch at returns
  rcases bind_eq_ok_iff.mp returns with ⟨locale, _, rest⟩
  rcases bind_eq_ok_iff.mp rest with ⟨_, _, rest⟩
  cases found : tables.user? session.user with
  | none =>
      rw [found] at rest
      cases rest
      exact ⟨rfl, rfl⟩
  | some user =>
      rw [found] at rest
      cases rest
      exact ⟨rfl, rfl⟩

/-- The notification forbids the deletion that would remove the request. -/
theorem ApprovedRequest.destroy
    {tables : AccountTables services} {requestId : ℕ} {userId : UserId}
    {encrypted : String}
    (approved : ApprovedRequest tables requestId userId encrypted)
    {actor : Option UserId} {other : UserId} {referenced : Bool}
    {after : AccountTables services × RedirectResponse}
    (returns :
      UserController.destroy tables actor other referenced =
        .ok after) :
    ApprovedRequest after.1 requestId userId encrypted := by
  rcases UserController.deleted_of_destroy returns with
    same | ⟨_, _, _, _, deleted⟩
  · rw [same]
    exact approved
  · rcases approved.request with
      ⟨request, member, isRequest, isUser, status, isEncrypted⟩
    rcases approved.notification with ⟨notification, sent, toUser⟩
    have survives : userId ≠ other := by
      rintro rfl
      exact deleted.unnotified notification sent toUser
    constructor
    · refine ⟨UserController.withoutApprover other request, ?_, ?_⟩
      · rw [deleted.requests]
        apply List.mem_map_of_mem
        apply List.mem_filter.mpr
        refine ⟨member, decide_eq_true ?_⟩
        rw [isUser]
        exact survives
      · unfold UserController.withoutApprover
        split_ifs
        · exact ⟨isRequest, isUser, status, isEncrypted⟩
        · exact ⟨isRequest, isUser, status, isEncrypted⟩
    · rw [deleted.notifications]
      exact ⟨notification, sent, toUser⟩

/-- A new request and its notifications come after the others. -/
theorem ApprovedRequest.sendResetLinkEmail
    {tables : AccountTables services} {requestId : ℕ} {userId : UserId}
    {encrypted : String}
    (approved : ApprovedRequest tables requestId userId encrypted)
    {actor : Option UserId} {email : Option String}
    {draws : AuthController.ResetLinkDraws}
    {after : AccountTables services × RedirectResponse}
    (returns :
      AuthController.sendResetLinkEmail tables actor email draws =
        .ok after) :
    ApprovedRequest after.1 requestId userId encrypted := by
  unfold AuthController.sendResetLinkEmail at returns
  rcases bind_eq_ok_iff.mp returns with ⟨response | user, _, rest⟩
  · cases rest
    exact approved
  · rcases bind_eq_ok_iff.mp rest with ⟨tablesAfter, created, same⟩
    cases same
    rw [executed_eq_ok_iff] at created
    rcases AuthController.created_of_createResetRequest created with
      ⟨requests, notifications⟩
    rcases approved.request with ⟨request, member, holds⟩
    rcases approved.notification with ⟨notification, sent, toUser⟩
    constructor
    · rw [requests]
      exact ⟨request, List.mem_append_left _ member, holds⟩
    · rw [notifications]
      exact ⟨notification, List.mem_append_left _ sent, toUser⟩

/-- What a decision checks: a pending request, found under its id. -/
theorem find?_of_checkDecision
    {tables : AccountTables services} {actor : Option UserId}
    {input : DecisionInput} {decision : Decision}
    {loaded : PasswordResetRequest}
    (checked :
      checkDecision tables actor input = some (decision, loaded)) :
    (∃ administrator, decision = input.decision administrator) ∧
      tables.requests.find? decision.requestId = some loaded ∧
        loaded.status = .pending := by
  unfold checkDecision at checked
  simp only [bind, pure, Option.bind_eq_some_iff, toOption_eq_some_iff,
    Option.some.injEq, Prod.mk.injEq] at checked
  rcases checked with ⟨administrator, _, _, isChecked, rfl, rfl⟩
  rcases check_eq_ok_iff.mp isChecked with ⟨found, isPending, _⟩
  exact ⟨⟨administrator.id, rfl⟩, found, isPending⟩

/-- Another decision does not touch an approved request. -/
theorem ApprovedRequest.decideNow
    {tables after : AccountTables services} {requestId : ℕ}
    {userId : UserId} {encrypted : String}
    (approved : ApprovedRequest tables requestId userId encrypted)
    {actor : Option UserId} {input : DecisionInput}
    (decides : decideNow tables actor input = some after) :
    ApprovedRequest after requestId userId encrypted := by
  rcases Option.bind_eq_some_iff.mp decides with
    ⟨⟨decision, loaded⟩, checked, commits⟩
  rcases find?_of_checkDecision checked with ⟨_, found, isPending⟩
  rcases requests_commitDecision commits with
    ⟨requests, notifications⟩
  rcases approved.request with
    ⟨request, member, isRequest, isUser, status, isEncrypted⟩
  rcases approved.notification with ⟨notification, sent, toUser⟩
  constructor
  · refine ⟨request, ?_, isRequest, isUser, status, isEncrypted⟩
    rw [requests]
    apply List.mem_map.mpr
    refine ⟨request, member, if_neg ?_⟩
    intro same
    rcases (KeyedTable.find?_eq_some_iff _ _ _).mp found with
      ⟨isLoaded, _⟩
    have equal :=
      List.inj_on_of_nodup_map tables.requests.distinct member isLoaded
        same
    rw [equal, isPending] at status
    cases status
  · refine ⟨notification, ?_, toUser⟩
    rw [notifications]
    exact List.mem_append_left _ sent

theorem ApprovedRequest.administration
    {tables after : AccountTables services} {requestId : ℕ}
    {userId : UserId} {encrypted : String}
    (approved : ApprovedRequest tables requestId userId encrypted)
    {call : ActorRequest}
    (performs : call.perform tables = .ok after) :
    ApprovedRequest after requestId userId encrypted := by
  rcases call with ⟨actor, request⟩
  unfold ActorRequest.perform at performs
  cases request with
  | store input draws =>
      rcases map_eq_ok_iff.mp performs with ⟨result, returns, rfl⟩
      exact approved.of_sameResets (sameResets_store returns)
  | update other input salt =>
      rcases map_eq_ok_iff.mp performs with ⟨result, returns, rfl⟩
      exact approved.of_sameResets (sameResets_update returns)
  | destroy other referenced =>
      rcases map_eq_ok_iff.mp performs with ⟨result, returns, rfl⟩
      exact approved.destroy returns
  | importCsv input commitException =>
      rcases map_eq_ok_iff.mp performs with ⟨result, returns, rfl⟩
      exact approved.of_sameResets (sameResets_importCsv returns)
  | register input salt =>
      rcases map_eq_ok_iff.mp performs with ⟨result, returns, rfl⟩
      exact approved.of_sameResets (sameResets_register returns)

/-- An approved request stays approved. -/
theorem ApprovedRequest.step
    {tables : AccountTables services} {requestId : ℕ} {userId : UserId}
    {encrypted : String}
    (approved : ApprovedRequest tables requestId userId encrypted)
    (call : AccountCall) :
    ApprovedRequest (accountStep tables call) requestId userId
      encrypted := by
  unfold accountStep
  cases performs : call.perform tables with
  | none => exact approved
  | some after =>
      change ApprovedRequest after requestId userId encrypted
      rcases call with ⟨now, actor, request⟩
      unfold AccountCall.perform at performs
      cases request with
      | administration request =>
          exact
            approved.administration (toOption_eq_some_iff.mp performs)
      | regeneratePassword other temporaryPassword salt =>
          rcases map_eq_ok_iff.mp (toOption_eq_some_iff.mp performs)
            with ⟨result, returns, rfl⟩
          exact
            approved.of_sameResets (sameResets_regeneratePassword returns)
      | sendResetLinkEmail email token =>
          rcases map_eq_ok_iff.mp (toOption_eq_some_iff.mp performs)
            with ⟨result, returns, rfl⟩
          exact approved.sendResetLinkEmail returns
      | approve other draws => exact approved.decideNow performs
      | decline other notes => exact approved.decideNow performs
      | resetPassword broker input salt rememberToken =>
          rcases map_eq_ok_iff.mp (toOption_eq_some_iff.mp performs)
            with ⟨result, returns, rfl⟩
          exact
            approved.of_sameResets (sameResets_resetPassword returns)
      | login input salt rememberToken =>
          rcases map_eq_ok_iff.mp (toOption_eq_some_iff.mp performs)
            with ⟨result, returns, rfl⟩
          exact approved.of_sameResets (sameResets_login returns)
      | localeSwitch config locale =>
          rcases map_eq_ok_iff.mp (toOption_eq_some_iff.mp performs)
            with ⟨result, returns, rfl⟩
          exact approved.of_sameResets (sameResets_localeSwitch returns)

theorem ApprovedRequest.foldl
    {tables : AccountTables services} {requestId : ℕ} {userId : UserId}
    {encrypted : String}
    (approved : ApprovedRequest tables requestId userId encrypted)
    (calls : List AccountCall) :
    ApprovedRequest (calls.foldl accountStep tables) requestId userId
      encrypted := by
  induction calls generalizing tables with
  | nil => exact approved
  | cons call rest induction => exact induction (approved.step call)

/-! ## Approvals -/

/-- What an approval leaves for its request and its user. -/
structure Approved (after : AccountTables services) (requestId : ℕ)
    (draws : ApprovalDraws) (now : Timestamp) (userId : UserId) :
    Prop where
  expiresAt :
    (after.requests.find? requestId).bind
        PasswordResetRequest.temporaryPasswordExpiresAt =
      some (now + Calendar.secondsPerDay)
  request :
    ApprovedRequest after requestId userId
      (services.encrypt draws.nonce draws.plainPassword.text)
  password :
    ∃ user ∈ after.users.rows,
      user.id = userId ∧
        user.password =
          services.make draws.salt draws.plainPassword.text

theorem exists_approved
    {tables after : AccountTables services} {actor : Option UserId}
    {requestId : ℕ} {draws : ApprovalDraws} {now : Timestamp}
    (decides :
      decideNow tables actor (.approve requestId draws now) =
        some after) :
    ∃ userId, Approved after requestId draws now userId := by
  rcases Option.bind_eq_some_iff.mp decides with
    ⟨⟨decision, loaded⟩, checked, commits⟩
  rcases find?_of_checkDecision checked with
    ⟨⟨administrator, rfl⟩, found, isPending⟩
  rcases (KeyedTable.find?_eq_some_iff _ _ _).mp found with
    ⟨isLoaded, isRequest⟩
  rcases requests_commitDecision commits with
    ⟨requests, notifications⟩
  have stored :
      after.requests.find? loaded.id =
        some
          (Decision.fill services.toCryptography loaded
            ((DecisionInput.approve requestId draws now).decision
              administrator)) := by
    rw [requests, KeyedTable.find?_modify_self, isRequest, found,
      Option.map_some, save_fill_self]
  have own : loaded.id = requestId := isRequest
  refine ⟨loaded.userId, ?_, ⟨?_, ?_⟩, ?_⟩
  · rw [← own, stored]
    rfl
  · exact
      ⟨_, ((KeyedTable.find?_eq_some_iff _ _ _).mp stored).1, own, rfl,
        rfl, rfl⟩
  · rw [notifications]
    exact
      ⟨_, List.mem_append_right _ List.mem_cons_self, rfl⟩
  · exact password_commitDecision commits

/-! ## Expiry -/

/-- A login at a time. -/
structure LoginAttempt where
  now : Timestamp
  email : String
  password : String
deriving DecidableEq, Repr

/-- The user that a login authenticates. -/
def LoginAttempt.user (login : LoginAttempt)
    (tables : AccountTables services) : Option UserAccount :=
  AuthController.attempt tables login.email login.password

/-- A view of the page of a request at a time. -/
structure PageView where
  now : Timestamp
  requestId : ℕ
  flashed : Option String
deriving DecidableEq, Repr

/-- The temporary password that the page displays. -/
def PageView.displayed (page : PageView)
    (tables : AccountTables services) : Option String :=
  (tables.requests.find? page.requestId).bind fun request =>
    (showView services request page.flashed).displayed

/-- A request by which a user chooses a password of their own. -/
def AccountCall.Chooses (call : AccountCall) (password : String) :
    Prop :=
  match call.request with
  | .resetPassword _ input _ _ => input.password = some password
  | _ => False

/--
After its expiry the password neither logs its user in, unless it has been
chosen, nor is it displayed to a viewer without a flashed one.
-/
structure PasswordExpires (tables : AccountTables services)
    (expiresAt : Timestamp) (requestId : ℕ) (userId : UserId)
    (password : String) (chosen : Prop) : Prop where
  rejected :
    ∀ login : LoginAttempt,
      expiresAt < login.now → login.password = password → ¬ chosen →
        (login.user tables).map (·.id) ≠ some userId
  hidden :
    ∀ page : PageView,
      expiresAt < page.now → page.requestId = requestId →
        page.flashed = none → page.displayed tables ≠ some password

/-- An approved request displays its password to everyone who looks. -/
theorem displayed_of_approvedRequest
    {tables : AccountTables services} {requestId : ℕ} {userId : UserId}
    {nonce : ℕ} {password : String}
    (approved :
      ApprovedRequest tables requestId userId
        (services.encrypt nonce password))
    (encrypted :
      AssessmentController.isEmptyText
        (services.encrypt nonce password) = false)
    (shown : AssessmentController.isEmptyText password = false)
    (now : Timestamp) :
    PageView.displayed ⟨now, requestId, none⟩ tables =
      some password := by
  rcases approved.request with
    ⟨request, member, rfl, _, status, isEncrypted⟩
  have found : tables.requests.find? request.id = some request :=
    (KeyedTable.find?_eq_some_iff _ _ _).mpr ⟨member, rfl⟩
  have decrypted :
      storedTemporaryPassword services request = some password := by
    unfold storedTemporaryPassword
    rw [if_pos status, isEncrypted, Option.filter_some, encrypted]
    exact services.decrypt_encrypt nonce password
  unfold PageView.displayed
  rw [found]
  change
    ((none : Option String).or
      (storedTemporaryPassword services request)).filter _ = _
  rw [decrypted, Option.none_or, Option.filter_some, shown]
  rfl

/-- A random password is not empty. -/
theorem isEmptyText_randomText (password : RandomText 14) :
    AssessmentController.isEmptyText password.text = false := by
  unfold AssessmentController.isEmptyText
  rw [Bool.or_eq_false_iff, decide_eq_false_iff_not,
    decide_eq_false_iff_not]
  have length := password.hasLength
  constructor
  · intro empty
    rw [empty] at length
    cases length
  · intro zero
    rw [zero] at length
    cases length

/-- A user is logged in with the password that is hashed for them. -/
theorem attempt_of_password
    {tables : AccountTables services} {user : UserAccount}
    (member : user ∈ tables.users.rows) {salt : ℕ} {password : String}
    (hashed : user.password = services.make salt password) :
    AuthController.attempt tables user.email password = some user := by
  have found :
      UsersTable.findByEmail? tables.users user.email = some user := by
    unfold UsersTable.findByEmail?
    cases isFound :
        tables.users.rows.find? fun other =>
          services.collate other.email = services.collate user.email with
    | none =>
        have absent := List.find?_eq_none.mp isFound user member
        simp at absent
    | some other =>
        have same :
            services.collate other.email =
              services.collate user.email := by
          simpa using List.find?_some isFound
        rw [tables.users.eq_of_index
          (List.mem_cons_of_mem _ List.mem_cons_self)
          (List.mem_of_find?_eq_some isFound) member same]
  unfold AuthController.attempt
  rw [found, Option.filter_some, hashed, services.check_make]
  rfl

/--
In no run does the temporary password of an approved request expire.  It
stays displayed, and it logs its user in as long as the hash that the
approval wrote is in place.
-/
theorem temporary_password_never_expires
    (encrypted :
      ∀ nonce plain,
        AssessmentController.isEmptyText
          (services.encrypt nonce plain) = false)
    (tables : AccountTables services) (earlier later : List AccountCall)
    (now : Timestamp) (actor : Option UserId) (requestId : ℕ)
    (draws : ApprovalDraws) (after : AccountTables services)
    (approves :
      AccountCall.perform ⟨now, actor, .approve requestId draws⟩
        (earlier.foldl accountStep tables) = some after) :
    ∃ userId,
      Approved after requestId draws now userId ∧
        ¬ PasswordExpires (later.foldl accountStep after)
            (now + Calendar.secondsPerDay) requestId userId
            draws.plainPassword.text
            (∃ call ∈ later, call.Chooses draws.plainPassword.text) ∧
        (∀ late,
          PageView.displayed ⟨late, requestId, none⟩
              (later.foldl accountStep after) =
            some draws.plainPassword.text) ∧
        ∀ user ∈ (later.foldl accountStep after).users.rows,
          user.id = userId →
            user.password =
                services.make draws.salt draws.plainPassword.text →
              AuthController.attempt (later.foldl accountStep after)
                  user.email draws.plainPassword.text =
                some user := by
  rcases exists_approved approves with ⟨userId, approved⟩
  have displayed (late : Timestamp) :
      PageView.displayed ⟨late, requestId, none⟩
          (later.foldl accountStep after) =
        some draws.plainPassword.text :=
    displayed_of_approvedRequest (approved.request.foldl later)
      (encrypted _ _) (isEmptyText_randomText _) late
  refine ⟨userId, approved, ?_, displayed, ?_⟩
  · intro expires
    exact
      expires.hidden
        ⟨now + Calendar.secondsPerDay + 1, requestId, none⟩
        (Nat.lt_succ_self _) rfl rfl (displayed _)
  · intro user member _ hashed
    exact attempt_of_password member hashed

/-- What the approval of the example draws. -/
def sampleDraws : ApprovalDraws where
  plainPassword :=
    { text := "aB3dE6gH9jK2mN"
      hasLength := by decide
      alphanumeric := RandomText.alphanumeric_ofList rfl }
  salt := 5
  rememberToken :=
    { text := String.ofList (List.replicate 60 'r')
      hasLength := by decide +kernel
      alphanumeric := RandomText.alphanumeric_ofList rfl }
  nonce := 6

/-- The participant asks for a new password. -/
def sampleRequest : AccountCall where
  now := 100
  actor := none
  request := .sendResetLinkEmail (some "participant@example.com") "token"

/-- The administrator approves the request. -/
def sampleApproval : AccountCall where
  now := 200
  actor := some 1
  request := .approve 1 sampleDraws

theorem isEmptyText_encrypt_sampleServices (nonce : ℕ) (plain : String) :
    AssessmentController.isEmptyText
      (sampleServices.encrypt nonce plain) = false := by
  change
    AssessmentController.isEmptyText
      (String.ofList ('e' :: plain.toList)) = false
  unfold AssessmentController.isEmptyText
  rw [Bool.or_eq_false_iff, decide_eq_false_iff_not,
    decide_eq_false_iff_not]
  constructor
  · intro empty
    have chars := congrArg String.toList empty
    rw [String.toList_ofList] at chars
    cases chars
  · intro zero
    have chars := congrArg String.toList zero
    rw [String.toList_ofList] at chars
    exact absurd (List.cons.inj chars).1 (by decide)

/-- The approved request of the example, after another login. -/
theorem temporary_password_never_expires_sample :
    ∃ after,
      sampleApproval.perform
            ([sampleRequest].foldl accountStep sampleAccounts) =
          some after ∧
        ∃ userId, Approved after 1 sampleDraws 200 userId := by
  cases approves :
      sampleApproval.perform
        ([sampleRequest].foldl accountStep sampleAccounts) with
  | none =>
      have answered :
          (sampleApproval.perform
              ([sampleRequest].foldl accountStep
                sampleAccounts)).isSome := by
        decide +kernel
      rw [approves] at answered
      cases answered
  | some after =>
      rcases
          temporary_password_never_expires
            isEmptyText_encrypt_sampleServices sampleAccounts
            [sampleRequest] [] 200 (some 1) 1 sampleDraws after
            approves with
        ⟨userId, approved, _⟩
      exact ⟨after, rfl, userId, approved⟩

/-- Two days after the approval. -/
theorem temporary_password_after_two_days :
    let reached :=
      [sampleRequest, sampleApproval].foldl accountStep sampleAccounts
    let expiresAt := 200 + Calendar.secondsPerDay
    (LoginAttempt.user
          ⟨expiresAt + Calendar.secondsPerDay, "participant@example.com",
            "aB3dE6gH9jK2mN"⟩
          reached).map (·.id) = some 2 ∧
      PageView.displayed
          ⟨expiresAt + Calendar.secondsPerDay, 1, none⟩ reached =
        some "aB3dE6gH9jK2mN" ∧
      ¬ PasswordExpires reached expiresAt 1 2 "aB3dE6gH9jK2mN"
          False := by
  have authenticates :
      (LoginAttempt.user
            ⟨200 + Calendar.secondsPerDay + Calendar.secondsPerDay,
              "participant@example.com", "aB3dE6gH9jK2mN"⟩
            ([sampleRequest, sampleApproval].foldl accountStep
              sampleAccounts)).map (·.id) = some 2 := by
    decide +kernel
  refine ⟨authenticates, by decide +kernel, ?_⟩
  intro expires
  exact
    expires.rejected _ (by decide) rfl id authenticates

end SultanPass.PasswordResetRequestController
