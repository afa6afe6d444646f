import SultanPass.UserController

/-!
# `AuthController`

Registration, login, the request for a new password, and the reset through
a token of the password broker.

`sendResetLinkEmail` first looks for the user and for a pending request and
then creates a request; the two halves are `checkResetLink` and
`createResetRequest`, since other requests may be served between them.
-/

namespace SultanPass.AuthController

open SultanPass.Library
open SultanPass.AssessmentController (trim isEmptyText)

variable {services : Services}

/-! ## Rules -/

/-- The rules `required` on a text. -/
def required (field : String) (input : Option String) :
    Validated String :=
  Validated.present field (input.filter fun text => trim text ≠ "")

/-- The rules `required|email`. -/
def requiredEmail (services : Services) (input : Option String) :
    Validated String := do
  let email ← required "email" input
  Validated.rules "email" [("email", services.isEmail email)] email

/-- The rules `required|confirmed` with `PasswordRule::defaults()`. -/
def confirmedPassword (password confirmation : Option String) :
    Validated String := do
  let text ← required "password" password
  Validated.rules "password"
    [("confirmed", confirmation = some text), ("min:8", 8 ≤ text.length)]
    text

/-- `redirectPath`. -/
def redirectPath (role : Role) : String :=
  match role with
  | .admin => "dashboard.admin"
  | .manager => "dashboard.manager"
  | .assessor => "dashboard.assessor"
  | .participant => "dashboard.participant"

/-- `redirect()->intended($this->redirectPath($user))`. -/
def redirectIntended (role : Role) : RedirectResponse where
  destination := .intended (redirectPath role)
  flashed := []
  errors := []

/-! ## `register` -/

structure RegisterInput where
  username : Option String
  fullName : Option String
  email : Option String
  password : Option String
  passwordConfirmation : Option String
  languagePref : Option LanguageId
deriving DecidableEq, Repr

/-- `$validated` of `register`. -/
structure RegisterForm where
  username : String
  fullName : Option String
  email : String
  password : String
  languagePref : Option LanguageId
deriving DecidableEq, Repr

def validateRegistration (tables : AccountTables services)
    (input : RegisterInput) : Validated RegisterForm :=
  (Validated.both
      (Validated.both (usernameRules tables.users none input.username)
        (nullableText "full_name" 150 input.fullName))
      (Validated.both (emailRules tables.users none input.email)
        (Validated.both
          (confirmedPassword input.password input.passwordConfirmation)
          (languagePrefRules tables.languages
            input.languagePref)))).map
    fun fields =>
      { username := fields.1.1
        fullName := fields.1.2
        email := fields.2.1
        password := fields.2.2.1
        languagePref := fields.2.2.2 }

/-- The columns of `User::create` in `register`; the status is a default. -/
def RegisterForm.newUser (form : RegisterForm) (hashed : String)
    (id : UserId) : UserAccount where
  id := id
  password := hashed
  rememberToken := none
  username := form.username
  email := form.email
  fullName := form.fullName
  rank := none
  department := none
  role := .participant
  languagePref := form.languagePref
  status := .active

/-- The tables, the session's user and the answer. -/
structure AuthResult (services : Services) where
  tables : AccountTables services
  actor : Option UserId
  response : RedirectResponse

def register (tables : AccountTables services) (actor : Option UserId)
    (input : RegisterInput) (salt : ℕ) :
    Except Interruption (AuthResult services) := do
  ensureGuest tables actor
  let form ← validated (validateRegistration tables input)
  let users ← executed
    (tables.users.create
      (form.newUser (services.make salt form.password)) fun _ => rfl)
  return {
    tables := { tables with users := users }
    actor := some tables.users.nextKey
    response := redirectIntended .participant }

/-- A returning `register` inserts the user of an accepted form. -/
theorem inserted_of_register
    {tables : AccountTables services} {actor : Option UserId}
    {input : RegisterInput} {salt : ℕ} {after : AuthResult services}
    (returns : register tables actor input salt = .ok after) :
    ∃ form : RegisterForm, ∃ users : UsersTable services,
      users.rows =
          tables.users.rows ++
            [form.newUser (services.make salt form.password)
              tables.users.nextKey] ∧
        after.tables = { tables with users := users } := by
  unfold register at returns
  rcases bind_eq_ok_iff.mp returns with ⟨_, _, rest⟩
  rcases bind_eq_ok_iff.mp rest with ⟨form, _, rest⟩
  rcases bind_eq_ok_iff.mp rest with ⟨users, created, same⟩
  cases same
  rw [executed_eq_ok_iff] at created
  exact
    ⟨form, users,
      ((IndexedTable.create_eq_some_iff _ _ _ _).mp created).2.1, rfl⟩

/-! ## `login` -/

structure LoginInput where
  email : Option String
  password : Option String
  remember : Bool
deriving DecidableEq, Repr

/-- `Auth::attempt`: the user with the e-mail, under the password. -/
def attempt (tables : AccountTables services)
    (email password : String) : Option UserAccount :=
  (UsersTable.findByEmail? tables.users email).filter fun user =>
    services.check password user.password

/--
`rehashPasswordIfRequired`: the entered password is hashed anew when the
stored hash is not one of the configured kind.
-/
def rehashPasswordIfRequired (tables : AccountTables services)
    (user : UserAccount) (password : String) (salt : ℕ) :
    AccountTables services :=
  if services.needsRehash user.password then
    tables.withCredentials
      (fun other =>
        if other.id = user.id then services.make salt password
        else other.password)
      fun other => other.rememberToken
  else tables

/-- A remembered login gives a token to a user without one. -/
def ensureRememberToken (tables : AccountTables services)
    (userId : UserId) (token : String) : AccountTables services :=
  tables.withCredentials (fun user => user.password) fun user =>
    if user.id = userId ∧ user.rememberToken.getD "" = "" then some token
    else user.rememberToken

def login (tables : AccountTables services) (actor : Option UserId)
    (input : LoginInput) (salt : ℕ) (rememberToken : RandomText 60) :
    Except Interruption (AuthResult services) := do
  ensureGuest tables actor
  let credentials ← validated
    (Validated.both (requiredEmail services input.email)
      (required "password" input.password))
  match attempt tables credentials.1 credentials.2 with
  | some user =>
      let rehashed :=
        rehashPasswordIfRequired tables user credentials.2 salt
      return {
        tables :=
          if input.remember then
            ensureRememberToken rehashed user.id rememberToken.text
          else rehashed
        actor := some user.id
        response := redirectIntended user.role }
  | none =>
      return {
        tables := tables
        actor := none
        response :=
          backWithError "email"
            "These credentials do not match our records." }

/-! ## `sendResetLinkEmail` -/

/-- The pending request of a user, `PasswordResetRequest::pending()`. -/
def pendingRequest? (tables : AccountTables services)
    (userId : UserId) : Option PasswordResetRequest :=
  tables.requests.rows.find? fun request =>
    request.status = .pending && request.userId = userId

/-- The first half: the user to create a request for, or an answer. -/
def checkResetLink (tables : AccountTables services)
    (actor : Option UserId) (input : Option String) :
    Except Interruption (RedirectResponse ⊕ UserAccount) := do
  ensureGuest tables actor
  let email ← validated (requiredEmail services input)
  match UsersTable.findByEmail? tables.users
      (services.mbStrtolower email) with
  | none =>
      return .inl
        (backWithError "email"
          "We could not find a user with that email address.")
  | some user =>
      if user.role = .admin then
        return .inl
          (backWithStatus
            ("Administrators may update their password directly from " ++
              "the database or their user profile."))
      else if (pendingRequest? tables user.id).isSome then
        return .inl
          (backWithStatus
            ("A password reset request is already awaiting approval. " ++
              "Please contact your administrator for updates."))
      else return .inr user

/-- What `sendResetLinkEmail` draws. -/
structure ResetLinkDraws where
  token : String
  now : Timestamp
deriving DecidableEq, Repr

/-- `$user->full_name ?: $user->username`. -/
def displayName (user : UserAccount) : String :=
  let fullName := user.fullName.getD ""
  if isEmptyText fullName then user.username else fullName

/-- The notifications of all other administrators. -/
def adminNotifications (tables : AccountTables services)
    (user : UserAccount) (now : Timestamp) : List Notification :=
  (tables.users.rows.filter fun other =>
      other.role = .admin && other.id ≠ user.id).map fun other =>
    Notification.create other.id
      ("Password reset requested by " ++ displayName user ++ " (" ++
        user.email ++ ").")
      .passwordReset now

/--
The second half.  The insertion fails when the user is gone or the token is
taken.
-/
def createResetRequest (user : UserAccount) (draws : ResetLinkDraws)
    (tables : AccountTables services) : Option (AccountTables services) :=
  if (tables.users.find? user.id).isNone ||
      tables.requests.rows.any fun request =>
        request.token = draws.token then none
  else
    let request :=
      PasswordResetRequest.create tables.nextRequestId user.id user.email
        draws.token
    have new : request.id ∉ tables.requests.rows.map (·.id) := by
      intro taken
      rcases List.mem_map.mp taken with ⟨other, member, same⟩
      exact Nat.ne_of_lt (tables.requestsBelow other member) same
    some
      { tables with
        requests :=
          { rows := tables.requests.rows ++ [request]
            distinct := by
              rw [List.map_append, List.map_singleton,
                ← List.concat_eq_append]
              exact tables.requests.distinct.concat new }
        nextRequestId := tables.nextRequestId + 1
        requestsBelow := by
          intro other member
          rcases List.mem_append.mp member with old | isNew
          · exact
              Nat.lt_trans (tables.requestsBelow other old)
                (Nat.lt_succ_self _)
          · rw [List.mem_singleton.mp isNew]
            exact Nat.lt_succ_self _
        notifications :=
          tables.notifications ++
            adminNotifications tables user draws.now }

/-- A created request and its notifications come last. -/
theorem created_of_createResetRequest
    {user : UserAccount} {draws : ResetLinkDraws}
    {tables after : AccountTables services}
    (creates : createResetRequest user draws tables = some after) :
    after.requests.rows =
        tables.requests.rows ++
          [PasswordResetRequest.create tables.nextRequestId user.id
            user.email draws.token] ∧
      after.notifications =
        tables.notifications ++
          adminNotifications tables user draws.now := by
  unfold createResetRequest at creates
  split_ifs at creates
  cases creates
  exact ⟨rfl, rfl⟩

def requestSent : String :=
  "Your request has been sent to the super administrator. You will " ++
    "receive a new password once it is approved."

/-- Both halves without anything in between. -/
def sendResetLinkEmail (tables : AccountTables services)
    (actor : Option UserId) (input : Option String)
    (draws : ResetLinkDraws) :
    Except Interruption (AccountTables services × RedirectResponse) := do
  match ← checkResetLink tables actor input with
  | .inl response => return (tables, response)
  | .inr user =>
      let after ← executed (createResetRequest user draws tables)
      return (after, backWithStatus requestSent)

/-! ## `resetPassword` -/

structure ResetInput where
  token : Option String
  email : Option String
  password : Option String
  passwordConfirmation : Option String
deriving DecidableEq, Repr

/-- The user that the password broker accepts a token for. -/
abbrev PasswordBroker :=
  String → String → Option UserId

/-- `forceFill(…)->save()` in `resetPassword`. -/
def fillPassword (tables : AccountTables services) (userId : UserId)
    (hashed rememberToken : String) : AccountTables services :=
  tables.withCredentials
    (fun user => if user.id = userId then hashed else user.password)
    fun user =>
      if user.id = userId then some rememberToken
      else user.rememberToken

def resetPassword (tables : AccountTables services)
    (actor : Option UserId) (broker : PasswordBroker)
    (input : ResetInput) (salt : ℕ) (rememberToken : RandomText 60) :
    Except Interruption (AccountTables services × RedirectResponse) := do
  ensureGuest tables actor
  let form ← validated
    (Validated.both (required "token" input.token)
      (Validated.both (requiredEmail services input.email)
        (confirmedPassword input.password input.passwordConfirmation)))
  match broker form.2.1 form.1 with
  | some userId =>
      return (fillPassword tables userId (services.make salt form.2.2)
          rememberToken.text,
        redirectWithStatus "login" none
          "Your password has been reset.")
  | none =>
      return (tables,
        backWithError "email" "This password reset token is invalid.")

end SultanPass.AuthController
