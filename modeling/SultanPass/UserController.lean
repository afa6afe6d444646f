import SultanPass.Users

/-!
# `UserController`

User administration: `store`, `update`, `destroy`, `regeneratePassword`, and
the CSV import with the download of its passwords.

Input comes after the middleware that trims texts and turns empty ones into
null.  Random texts and salts are arguments.
-/

namespace SultanPass

open SultanPass.Library

/-! ## Validation -/

/-- The rules `required|string|max:…`. -/
def requiredText (field : String) (maximum : ℕ)
    (input : Option String) : Validated String := do
  let text ← Validated.present field
    (input.filter fun text => AssessmentController.trim text ≠ "")
  Validated.rules field
    [("max:" ++ toString maximum, text.length ≤ maximum)] text

/-- The rules `nullable|string|max:…`. -/
def nullableText (field : String) (maximum : ℕ) :
    Option String → Validated (Option String) :=
  Validated.nullable fun text =>
    Validated.rules field
      [("max:" ++ toString maximum, text.length ≤ maximum)] text

/-- The rule `in:…`, as a parser of the listed texts. -/
def requiredIn {Value : Type} (field rule : String)
    (parse : String → Option Value) (input : Option String) :
    Validated Value := do
  let text ← Validated.present field input
  match parse text with
  | some value => .ok value
  | none => .error [{ field := field, rule := rule }]

/-- The rules `nullable|string|min:8` of a password. -/
def nullablePassword : Option String → Validated (Option String) :=
  Validated.nullable fun text =>
    Validated.rules "password" [("min:8", 8 ≤ text.length)] text

section Rules

variable {services : Services}

/-- The rules of a username; a database rule comes after the others. -/
def usernameRules (users : UsersTable services)
    (ignored : Option UserId) (input : Option String) :
    Validated String := do
  let username ← requiredText "username" 100 input
  Validated.rules "username"
    [("unique:users,username",
      ¬ UsersTable.UsernameTaken users username ignored)]
    username

/-- The rules of an e-mail address. -/
def emailRules (users : UsersTable services)
    (ignored : Option UserId) (input : Option String) :
    Validated String := do
  let email ← Validated.present "email"
    (input.filter fun text => AssessmentController.trim text ≠ "")
  let checked ← Validated.rules "email"
    [("email", services.isEmail email), ("max:150", email.length ≤ 150)]
    email
  Validated.rules "email"
    [("unique:users,email",
      ¬ UsersTable.EmailTaken users checked ignored)]
    checked

/-- The rules of `language_pref`. -/
def languagePrefRules (languages : LanguagesTable services) :
    Option LanguageId → Validated (Option LanguageId) :=
  Validated.nullable fun id =>
    Validated.rules "language_pref"
      [("exists:languages,id", (languages.find? id).isSome)] id

theorem usernameRules_free
    {users : UsersTable services} {ignored : Option UserId}
    {input : Option String} {username : String}
    (accepted : usernameRules users ignored input = .ok username) :
    ¬ UsersTable.UsernameTaken users username ignored := by
  unfold usernameRules at accepted
  rcases bind_eq_ok_iff.mp accepted with ⟨text, _, unique⟩
  rcases (Validated.rules_eq_ok_iff _ _ _ _).mp unique with ⟨free, rfl⟩
  simpa using free

theorem emailRules_free
    {users : UsersTable services} {ignored : Option UserId}
    {input : Option String} {email : String}
    (accepted : emailRules users ignored input = .ok email) :
    ¬ UsersTable.EmailTaken users email ignored := by
  unfold emailRules at accepted
  rcases bind_eq_ok_iff.mp accepted with ⟨_, _, checked⟩
  rcases bind_eq_ok_iff.mp checked with ⟨text, _, unique⟩
  rcases (Validated.rules_eq_ok_iff _ _ _ _).mp unique with ⟨free, rfl⟩
  simpa using free

end Rules

namespace UserController

/-! ## Forms -/

/-- The input of `store` and `update`. -/
structure UserInput where
  username : Option String
  fullName : Option String
  email : Option String
  role : Option String
  languagePref : Option LanguageId
  rank : Option String
  department : Option String
  status : Option String
  password : Option String
deriving DecidableEq, Repr

/-- `$validated` of `store` and `update`. -/
structure UserForm where
  username : String
  fullName : Option String
  email : String
  role : Role
  languagePref : Option LanguageId
  rank : Option String
  department : Option String
  status : UserStatus
  password : Option String
deriving DecidableEq, Repr

variable {services : Services}

/-- `$request->validate([…])` of `store` and `update`. -/
def validate (tables : AccountTables services)
    (ignored : Option UserId) (input : UserInput) : Validated UserForm :=
  (Validated.both
      (Validated.both
        (usernameRules tables.users ignored input.username)
        (Validated.both
          (nullableText "full_name" 150 input.fullName)
          (emailRules tables.users ignored input.email)))
      (Validated.both
        (Validated.both
          (requiredIn "role" "in:admin,manager,assessor,participant"
            Role.ofText? input.role)
          (languagePrefRules tables.languages input.languagePref))
        (Validated.both
          (Validated.both (nullableText "rank" 100 input.rank)
            (nullableText "department" 100 input.department))
          (Validated.both
            (requiredIn "status" "in:active,inactive"
              UserStatus.ofText? input.status)
            (nullablePassword input.password))))).map
    fun fields =>
      { username := fields.1.1
        fullName := fields.1.2.1
        email := fields.1.2.2
        role := fields.2.1.1
        languagePref := fields.2.1.2
        rank := fields.2.2.1.1
        department := fields.2.2.1.2
        status := fields.2.2.2.1
        password := fields.2.2.2.2 }

/-- An accepted form has a username and an e-mail that nobody else has. -/
theorem validate_free
    {tables : AccountTables services} {ignored : Option UserId}
    {input : UserInput} {form : UserForm}
    (accepted : validate tables ignored input = .ok form) :
    ¬ UsersTable.UsernameTaken tables.users form.username ignored ∧
      ¬ UsersTable.EmailTaken tables.users form.email ignored := by
  unfold validate at accepted
  cases both : Validated.both _ _ with
  | error errors =>
      rw [both] at accepted
      cases accepted
  | ok fields =>
      rw [both] at accepted
      cases accepted
      rw [Validated.both_eq_ok_iff, Validated.both_eq_ok_iff,
        Validated.both_eq_ok_iff] at both
      exact
        ⟨usernameRules_free both.1.1, emailRules_free both.1.2.2⟩

/-! ## `store` -/

/-- The columns of `User::create` in `store`. -/
def UserForm.newUser (form : UserForm) (hashed : String)
    (id : UserId) : UserAccount where
  id := id
  password := hashed
  rememberToken := none
  username := form.username
  email := form.email
  fullName := form.fullName
  rank := form.rank
  department := form.department
  role := form.role
  languagePref := form.languagePref
  status := form.status

/-- What `store` draws. -/
structure StoreDraws where
  password : RandomText 16
  salt : ℕ

def store (tables : AccountTables services) (actor : Option UserId)
    (input : UserInput) (draws : StoreDraws) :
    Except Interruption (AccountTables services × RedirectResponse) := do
  let _ ← administrator tables actor
  let form ← validated (validate tables none input)
  let password := form.password.getD draws.password.text
  let users ← executed
    (tables.users.create
      (form.newUser (services.make draws.salt password)) fun _ => rfl)
  .ok
    ({ tables with users := users },
      redirectWithStatus "admin.users.edit" (some tables.users.nextKey)
        ("User created successfully. Temporary password: " ++ password))

/-- A returning `store` inserts the user of an accepted form. -/
theorem inserted_of_store
    {tables : AccountTables services} {actor : Option UserId}
    {input : UserInput} {draws : StoreDraws}
    {after : AccountTables services × RedirectResponse}
    (returns : store tables actor input draws = .ok after) :
    ∃ admin form, ∃ users : UsersTable services,
      administrator tables actor = .ok admin ∧
        validate tables none input = .ok form ∧
        users.rows =
          tables.users.rows ++
            [form.newUser
              (services.make draws.salt
                (form.password.getD draws.password.text))
              tables.users.nextKey] ∧
        after.1 = { tables with users := users } := by
  unfold store at returns
  rcases bind_eq_ok_iff.mp returns with ⟨admin, reached, rest⟩
  rcases bind_eq_ok_iff.mp rest with ⟨form, valid, rest⟩
  rcases bind_eq_ok_iff.mp rest with ⟨users, created, same⟩
  cases same
  rw [validated_eq_ok_iff] at valid
  rw [executed_eq_ok_iff] at created
  exact
    ⟨admin, form, users, reached, valid,
      ((IndexedTable.create_eq_some_iff _ _ _ _).mp created).2.1, rfl⟩

/-! ## `update` -/

/-- `$user->update($payload)`, with the password if it is not empty. -/
def UserForm.fill (form : UserForm) (salt : ℕ) (services : Services)
    (user : UserAccount) : UserAccount :=
  { user with
    username := form.username
    email := form.email
    fullName := form.fullName
    rank := form.rank
    department := form.department
    role := form.role
    languagePref := form.languagePref
    status := form.status
    password :=
      match form.password with
      | none => user.password
      | some password =>
          if AssessmentController.isEmptyText password then user.password
          else services.make salt password }

/-- `$statusMessage` of `update`. -/
def UserForm.statusMessage (form : UserForm) : String :=
  match form.password with
  | none => "User updated successfully."
  | some password =>
      if AssessmentController.isEmptyText password then
        "User updated successfully."
      else
        "User updated successfully. Password reset to: " ++ password

def update (tables : AccountTables services) (actor : Option UserId)
    (userId : UserId) (input : UserInput) (salt : ℕ) :
    Except Interruption (AccountTables services × RedirectResponse) := do
  let reached ← administratorOf tables actor (tables.users.find? userId)
  let user := reached.2
  let form ← validated (validate tables (some user.id) input)
  let users ← executed
    (tables.users.update user.id (form.fill salt services) fun _ => rfl)
  .ok
    ({ tables with users := users },
      redirectWithStatus "admin.users.edit" (some user.id)
        form.statusMessage)

/-- A returning `update` fills the row of its user. -/
theorem filled_of_update
    {tables : AccountTables services} {actor : Option UserId}
    {userId : UserId} {input : UserInput} {salt : ℕ}
    {after : AccountTables services × RedirectResponse}
    (returns : update tables actor userId input salt = .ok after) :
    ∃ admin user form, ∃ users : UsersTable services,
      tables.user? actor = some admin ∧ admin.role = .admin ∧
        tables.users.find? userId = some user ∧
        validate tables (some user.id) input = .ok form ∧
        (users.rows =
          tables.users.rows.map fun row =>
            if row.id = user.id then form.fill salt services row
            else row) ∧
        after.1 = { tables with users := users } := by
  unfold update at returns
  rcases bind_eq_ok_iff.mp returns with ⟨⟨admin, user⟩, reached, rest⟩
  rcases (administratorOf_eq_ok_iff _ _ _ _ _).mp reached with
    ⟨isUser, isAdmin, found⟩
  rcases bind_eq_ok_iff.mp rest with ⟨form, valid, rest⟩
  rcases bind_eq_ok_iff.mp rest with ⟨users, updated, same⟩
  cases same
  rw [validated_eq_ok_iff] at valid
  rw [executed_eq_ok_iff] at updated
  exact
    ⟨admin, user, form, users, isUser, isAdmin, found, valid,
      ((IndexedTable.update_eq_some_iff _ _ _ _ _).mp updated).2.1, rfl⟩

/-! ## `destroy` -/

/-- What a deleted approver leaves, `nullOnDelete`. -/
def withoutApprover (userId : UserId) (request : PasswordResetRequest) :
    PasswordResetRequest :=
  if request.approvedBy = some userId then
    { request with approvedBy := none }
  else request

theorem id_withoutApprover (userId : UserId)
    (request : PasswordResetRequest) :
    (withoutApprover userId request).id = request.id := by
  unfold withoutApprover
  split_ifs <;> rfl

/--
`$user->delete()`.  A row that refers to the user forbids it, be it a
notification or a row of a table outside this model; password reset
requests of the user go with the user.
-/
def deleteUser (tables : AccountTables services) (userId : UserId)
    (referenced : Bool) : Option (AccountTables services) :=
  if referenced || tables.notifications.any fun notification =>
      notification.userId = userId then none
  else
    some
      { tables with
        users := tables.users.delete userId
        requests :=
          (tables.requests.filter fun request =>
              request.userId ≠ userId).refresh
            (withoutApprover userId) (id_withoutApprover userId)
        requestsBelow := by
          intro request member
          rcases List.mem_map.mp member with ⟨old, isOld, rfl⟩
          rw [id_withoutApprover]
          exact
            tables.requestsBelow old (List.mem_filter.mp isOld).1 }

/-- The rows after a deletion, which no notification forbade. -/
structure Deleted (before after : AccountTables services)
    (userId : UserId) : Prop where
  unnotified :
    ∀ notification ∈ before.notifications, notification.userId ≠ userId
  users : after.users = before.users.delete userId
  requests :
    after.requests.rows =
      (before.requests.rows.filter fun request =>
          request.userId ≠ userId).map
        (withoutApprover userId)
  notifications : after.notifications = before.notifications

theorem deleted_of_deleteUser
    {tables after : AccountTables services} {userId : UserId}
    {referenced : Bool}
    (deletes : deleteUser tables userId referenced = some after) :
    Deleted tables after userId := by
  unfold deleteUser at deletes
  split_ifs at deletes with forbidden
  cases deletes
  refine ⟨?_, rfl, rfl, rfl⟩
  intro notification sent toUser
  apply forbidden
  rw [Bool.or_eq_true, List.any_eq_true]
  exact Or.inr ⟨notification, sent, decide_eq_true toUser⟩

/-- `referenced` says whether a table outside the model has the user. -/
def destroy (tables : AccountTables services) (actor : Option UserId)
    (userId : UserId) (referenced : Bool) :
    Except Interruption (AccountTables services × RedirectResponse) := do
  let reached ← administratorOf tables actor (tables.users.find? userId)
  let user := reached.2
  if actor = some user.id then
    .ok
      (tables,
        backWithError "user" "You cannot delete your own account.")
  else
    let after ← executed (deleteUser tables user.id referenced)
    .ok
      (after, redirectWithStatus "admin.users.index" none "User deleted.")

/-- A returning `destroy` deletes another user, or nothing. -/
theorem deleted_of_destroy
    {tables : AccountTables services} {actor : Option UserId}
    {userId : UserId} {referenced : Bool}
    {after : AccountTables services × RedirectResponse}
    (returns : destroy tables actor userId referenced = .ok after) :
    after.1 = tables ∨
      ∃ admin,
        tables.user? actor = some admin ∧ admin.role = .admin ∧
          actor ≠ some userId ∧ Deleted tables after.1 userId := by
  unfold destroy at returns
  rcases bind_eq_ok_iff.mp returns with ⟨⟨admin, user⟩, reached, rest⟩
  rcases (administratorOf_eq_ok_iff _ _ _ _ _).mp reached with
    ⟨isUser, isAdmin, found⟩
  have own : user.id = userId :=
    ((IndexedTable.find?_eq_some_iff _ _ _).mp found).2
  subst own
  dsimp only at rest
  split_ifs at rest with isOwn
  · cases rest
    exact Or.inl rfl
  · rcases bind_eq_ok_iff.mp rest with ⟨tablesAfter, deletes, same⟩
    cases same
    rw [executed_eq_ok_iff] at deletes
    exact
      Or.inr
        ⟨admin, isUser, isAdmin, isOwn, deleted_of_deleteUser deletes⟩

/-! ## `regeneratePassword` -/

/-- Write a password hash into the row of a user. -/
def writePassword (tables : AccountTables services) (userId : UserId)
    (hashed : String) : AccountTables services :=
  tables.withCredentials
    (fun user => if user.id = userId then hashed else user.password)
    fun user => user.rememberToken

def regeneratePassword (tables : AccountTables services)
    (actor : Option UserId) (userId : UserId)
    (temporaryPassword : RandomText 12) (salt : ℕ) :
    Except Interruption (AccountTables services × RedirectResponse) := do
  let reached ← administratorOf tables actor (tables.users.find? userId)
  let user := reached.2
  .ok
    (writePassword tables user.id
        (services.make salt temporaryPassword.text),
      backWithStatus
        ("Temporary password generated: " ++ temporaryPassword.text))

end UserController

end SultanPass
