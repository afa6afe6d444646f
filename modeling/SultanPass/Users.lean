import SultanPass.AssessmentController
import SultanPass.Library.ExceptLoop
import SultanPass.Library.IndexedTable
import SultanPass.Library.Validation
import SultanPass.PasswordResetRequestController

/-!
# Users, languages and the requests about them

The tables that user administration and the login forms work on, the
middleware in front of their controllers, and how a request can end.

What the code takes from the database and from the framework is a
`Services`: the collation under which the unique columns are compared, the
rule `email`, `mb_strtolower`, and the hashing and encryption.
-/

namespace SultanPass

open SultanPass.Library

/-! ## Rows -/

inductive Role where
  | admin
  | manager
  | assessor
  | participant
deriving DecidableEq, Repr

/-- The rule `in:admin,manager,assessor,participant`. -/
def Role.ofText? (text : String) : Option Role :=
  if text = "admin" then some .admin
  else if text = "manager" then some .manager
  else if text = "assessor" then some .assessor
  else if text = "participant" then some .participant
  else none

inductive UserStatus where
  | active
  | inactive
deriving DecidableEq, Repr

/-- The rule `in:active,inactive`. -/
def UserStatus.ofText? (text : String) : Option UserStatus :=
  if text = "active" then some .active
  else if text = "inactive" then some .inactive
  else none

/-- A row of `users`. -/
structure UserAccount extends User where
  username : String
  email : String
  fullName : Option String
  rank : Option String
  department : Option String
  role : Role
  languagePref : Option LanguageId
  status : UserStatus
deriving DecidableEq, Repr

structure Language where
  id : LanguageId
  code : String
  name : String
deriving DecidableEq, Repr

/-- What the database and the framework bring along. -/
structure Services extends Cryptography where
  collate : String → String
  isEmail : String → Bool
  mbStrtolower : String → String

section Tables

variable (services : Services)

/-- The table `users` with its unique columns. -/
abbrev UsersTable :=
  IndexedTable (fun user : UserAccount => user.id)
    [fun user => services.collate user.username,
      fun user => services.collate user.email]

/-- The table `languages` with its unique column. -/
abbrev LanguagesTable :=
  IndexedTable Language.id
    [fun language => services.collate language.code]

/-- The tables of user administration. -/
structure AccountTables where
  users : UsersTable services
  languages : LanguagesTable services
  requests : KeyedTable PasswordResetRequest.id
  nextRequestId : ℕ
  notifications : List Notification
  requestsBelow : ∀ request ∈ requests.rows, request.id < nextRequestId

end Tables

namespace UsersTable

variable {services : Services}

/-- `User::where('username', …)->exists()`, without an ignored user. -/
def UsernameTaken (users : UsersTable services) (username : String)
    (ignored : Option UserId) : Prop :=
  users.Taken (fun user => services.collate user.username)
    (services.collate username) ignored

instance (users : UsersTable services) (username : String)
    (ignored : Option UserId) :
    Decidable (UsernameTaken users username ignored) :=
  inferInstanceAs (Decidable (users.Taken _ _ _))

/-- `User::where('email', …)->exists()`, without an ignored user. -/
def EmailTaken (users : UsersTable services) (email : String)
    (ignored : Option UserId) : Prop :=
  users.Taken (fun user => services.collate user.email)
    (services.collate email) ignored

instance (users : UsersTable services) (email : String)
    (ignored : Option UserId) :
    Decidable (EmailTaken users email ignored) :=
  inferInstanceAs (Decidable (users.Taken _ _ _))

/-- `User::where('email', …)->first()`. -/
def findByEmail? (users : UsersTable services) (email : String) :
    Option UserAccount :=
  users.rows.find? fun user =>
    services.collate user.email = services.collate email

/-- A row is free when its username and its email are. -/
theorem free_iff (users : UsersTable services) (user : UserAccount)
    (ignored : Option UserId) :
    users.Free user ignored ↔
      ¬ UsernameTaken users user.username ignored ∧
        ¬ EmailTaken users user.email ignored := by
  simp only [IndexedTable.Free, List.forall_mem_cons, List.not_mem_nil,
    false_implies, implies_true, and_true]
  rfl

end UsersTable

/-- Rewrite the passwords and the remember tokens of the users. -/
def AccountTables.withCredentials {services : Services}
    (tables : AccountTables services) (password : UserAccount → String)
    (rememberToken : UserAccount → Option String) :
    AccountTables services :=
  { tables with
    users :=
      tables.users.refresh
        (fun user =>
          { user with
            password := password user
            rememberToken := rememberToken user })
        (fun _ => rfl)
        (by
          intro index isIndex user
          rcases List.mem_pair.mp isIndex with rfl | rfl
          · rfl
          · rfl) }

/-! ## How a request ends -/

/-- Where a redirect goes. -/
inductive Destination where
  | back
  | intended (name : String)
  | route (name : String) (parameter : Option ℕ)
deriving DecidableEq, Repr

/-- A redirect with its flashed session data and errors. -/
structure RedirectResponse where
  destination : Destination
  flashed : List (String × String)
  errors : List (String × String)
deriving DecidableEq, Repr

/-- `redirect()->route(…)->with('status', …)`. -/
def redirectWithStatus (name : String) (parameter : Option ℕ)
    (status : String) : RedirectResponse where
  destination := .route name parameter
  flashed := [("status", status)]
  errors := []

/-- `back()->with('status', …)`. -/
def backWithStatus (status : String) : RedirectResponse where
  destination := .back
  flashed := [("status", status)]
  errors := []

/-- `back()->withErrors([…])`. -/
def backWithError (field message : String) : RedirectResponse where
  destination := .back
  flashed := []
  errors := [(field, message)]

/-- What ends a request before its controller answers. -/
inductive Interruption where
  | unauthenticated
  | authenticated
  | abort (code : ℕ) (message : String)
  | invalid (errors : List FieldError)
  | error (error : PhpError)
deriving DecidableEq, Repr

/-- A validation as a step of a request. -/
def validated {Value : Type} :
    Validated Value → Except Interruption Value
  | .ok value => .ok value
  | .error errors => .error (.invalid errors)

/-- A statement that fails on a key. -/
def executed {Value : Type} : Option Value → Except Interruption Value
  | some value => .ok value
  | none => .error (.error .queryException)

/-- Route model binding. -/
def bound {Value : Type} : Option Value → Except Interruption Value
  | some value => .ok value
  | none => .error (.error .modelNotFound)

@[simp]
theorem validated_eq_ok_iff {Value : Type} (result : Validated Value)
    (value : Value) :
    validated result = .ok value ↔ result = .ok value := by
  cases result with
  | error errors => simp [validated]
  | ok other => simp [validated]

@[simp]
theorem executed_eq_ok_iff {Value : Type} (result : Option Value)
    (value : Value) :
    executed result = .ok value ↔ result = some value := by
  cases result with
  | none => simp [executed]
  | some other => simp [executed]

@[simp]
theorem bound_eq_ok_iff {Value : Type} (result : Option Value)
    (value : Value) :
    bound result = .ok value ↔ result = some value := by
  cases result with
  | none => simp [bound]
  | some other => simp [bound]

/-! ## Middleware -/

section Middleware

variable {services : Services}

/-- `auth()->user()` of a session. -/
def AccountTables.user? (tables : AccountTables services)
    (actor : Option UserId) : Option UserAccount :=
  actor.bind tables.users.find?

/-- The middleware `auth`. -/
def authenticate (tables : AccountTables services)
    (actor : Option UserId) : Except Interruption UserAccount :=
  match tables.user? actor with
  | some user => .ok user
  | none => .error .unauthenticated

/-- The middleware `guest`. -/
def ensureGuest (tables : AccountTables services)
    (actor : Option UserId) : Except Interruption Unit :=
  match tables.user? actor with
  | some _ => .error .authenticated
  | none => .ok ()

/-- `EnsureRole::handle`. -/
def EnsureRole.handle (user : Option UserAccount) (roles : List Role) :
    Except Interruption Unit :=
  if roles = [] then .ok ()
  else
    match user with
    | none => .error (.abort 403 "")
    | some user =>
        if user.role ∈ roles then .ok () else .error (.abort 403 "")

theorem EnsureRole.handle_eq_ok_iff (user : UserAccount)
    (roles : List Role) (value : Unit) :
    EnsureRole.handle (some user) roles = .ok value ↔
      roles = [] ∨ user.role ∈ roles := by
  unfold EnsureRole.handle
  by_cases noRoles : roles = []
  · simp [noRoles]
  · by_cases allowed : user.role ∈ roles
    · simp [noRoles, allowed]
    · simp [noRoles, allowed]

/-- `ensureAdmin` of the administration controllers. -/
def ensureAdmin (user : Option UserAccount) : Except Interruption Unit :=
  match user with
  | none => .error (.abort 403 "")
  | some user =>
      if user.role = .admin then .ok () else .error (.abort 403 "")

/-- The checks on the role in front of an administration action. -/
def passAsAdmin (user : UserAccount) : Except Interruption Unit := do
  EnsureRole.handle (some user) [.admin]
  ensureAdmin (some user)

@[simp]
theorem passAsAdmin_eq_ok_iff (user : UserAccount) (value : Unit) :
    passAsAdmin user = .ok value ↔ user.role = .admin := by
  unfold passAsAdmin EnsureRole.handle ensureAdmin
  by_cases isAdmin : user.role = .admin
  · simp [isAdmin, bind, Except.bind]
  · simp [isAdmin, bind, Except.bind]

@[simp]
theorem authenticate_eq_ok_iff (tables : AccountTables services)
    (actor : Option UserId) (user : UserAccount) :
    authenticate tables actor = .ok user ↔
      tables.user? actor = some user := by
  unfold authenticate
  cases tables.user? actor with
  | none => simp
  | some other => simp

/-- The way to an administration action. -/
def administrator (tables : AccountTables services)
    (actor : Option UserId) : Except Interruption UserAccount := do
  let user ← authenticate tables actor
  passAsAdmin user
  return user

/-- The way to an administration action on a bound model. -/
def administratorOf {Model : Type} (tables : AccountTables services)
    (actor : Option UserId) (model : Option Model) :
    Except Interruption (UserAccount × Model) := do
  let user ← authenticate tables actor
  let found ← bound model
  passAsAdmin user
  return (user, found)

/-- Only an administrator reaches an administration action. -/
@[simp]
theorem administrator_eq_ok_iff (tables : AccountTables services)
    (actor : Option UserId) (user : UserAccount) :
    administrator tables actor = .ok user ↔
      tables.user? actor = some user ∧ user.role = .admin := by
  unfold administrator
  simp only [bind_eq_ok_iff, authenticate_eq_ok_iff,
    passAsAdmin_eq_ok_iff, pure, Except.pure, Except.ok.injEq]
  constructor
  · rintro ⟨found, isFound, _, isAdmin, rfl⟩
    exact ⟨isFound, isAdmin⟩
  · rintro ⟨isFound, isAdmin⟩
    exact ⟨user, isFound, (), isAdmin, rfl⟩

@[simp]
theorem administratorOf_eq_ok_iff {Model : Type}
    (tables : AccountTables services) (actor : Option UserId)
    (model : Option Model) (user : UserAccount) (found : Model) :
    administratorOf tables actor model = .ok (user, found) ↔
      tables.user? actor = some user ∧ user.role = .admin ∧
        model = some found := by
  unfold administratorOf
  simp only [bind_eq_ok_iff, authenticate_eq_ok_iff, bound_eq_ok_iff,
    passAsAdmin_eq_ok_iff, pure, Except.pure, Except.ok.injEq,
    Prod.mk.injEq]
  constructor
  · rintro ⟨_, isFound, _, isModel, _, isAdmin, rfl, rfl⟩
    exact ⟨isFound, isAdmin, isModel⟩
  · rintro ⟨isFound, isAdmin, isModel⟩
    exact ⟨user, isFound, found, isModel, (), isAdmin, rfl, rfl⟩

end Middleware

/-! ## Random texts -/

/-- A result of `Str::random`, which draws letters and digits. -/
structure RandomText (length : ℕ) where
  text : String
  hasLength : text.length = length
  alphanumeric : ∀ char ∈ text.toList, char.isAlphanum = true

theorem RandomText.alphanumeric_ofList {chars : List Char}
    (all : chars.all Char.isAlphanum = true) :
    ∀ char ∈ (String.ofList chars).toList, char.isAlphanum = true := by
  rw [String.toList_ofList]
  exact List.all_eq_true.mp all

def sampleRandomText : RandomText 12 where
  text := "aB3dE6gH9jK2"
  hasLength := by decide
  alphanumeric := RandomText.alphanumeric_ofList rfl

/-! ## A small installation -/

/-- A case-insensitive collation, and a hash that ends in its salt. -/
def sampleServices : Services where
  make := fun salt plain => plain ++ "$" ++ salt.repr
  check := fun plain hashed =>
    (plain.toList ++ ['$']).isPrefixOf hashed.toList
  encrypt := fun _ plain => String.ofList ('e' :: plain.toList)
  decrypt := fun text =>
    if text.toList.head? = some 'e' then
      some (String.ofList text.toList.tail)
    else none
  needsRehash := fun _ => false
  check_make := by
    intro salt plain
    rw [List.isPrefixOf_iff_prefix, String.toList_append,
      String.toList_append]
    exact List.prefix_append _ _
  decrypt_encrypt := by
    intro nonce plain
    simp
  collate := fun text => String.ofList (text.toList.map Char.toLower)
  isEmail := fun text => text.toList.contains '@'
  mbStrtolower := fun text => String.ofList (text.toList.map Char.toLower)

def sampleAdministrator : UserAccount where
  id := 1
  password := "Admin@12345$1"
  rememberToken := none
  username := "superadmin"
  email := "superadmin@example.com"
  fullName := some "Super Admin"
  rank := none
  department := none
  role := .admin
  languagePref := some 1
  status := .active

def sampleParticipant : UserAccount where
  id := 2
  password := "password$2"
  rememberToken := none
  username := "participant"
  email := "participant@example.com"
  fullName := none
  rank := none
  department := none
  role := .participant
  languagePref := none
  status := .active

/-- An administrator and a participant, with two languages. -/
def sampleAccounts : AccountTables sampleServices where
  users :=
    { rows := [sampleAdministrator, sampleParticipant]
      nextKey := 3
      keys := by decide
      below := by decide
      unique := by decide +kernel }
  languages :=
    { rows := [⟨1, "en", "English"⟩, ⟨2, "ar", "Arabic"⟩]
      nextKey := 3
      keys := by decide
      below := by decide
      unique := by decide +kernel }
  requests := KeyedTable.empty
  nextRequestId := 1
  notifications := []
  requestsBelow := nofun

end SultanPass
