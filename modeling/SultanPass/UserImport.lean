import SultanPass.UserController

/-!
# `UserController::importCsv` and `downloadImportedPasswords`

The import reads a file row by row inside one transaction.  A row is
ignored, skipped with an error, or imported; an exception rolls all rows
back.  The passwords of the imported users go into the session, from where
they are downloaded.

What `fgetcsv` returns for a line is a list of cells.  A row comes with the
random text and the salt that it would draw, and with the exceptions that
the database would raise at its statements.
-/

namespace SultanPass.UserController

open SultanPass.Library
open SultanPass.AssessmentController (trim isEmptyText)

/-! ## Rows of a file -/

/-- The statements of a row. -/
inductive ImportStatement where
  | usernameExists
  | emailExists
  | create
deriving DecidableEq, Repr

structure ImportRow where
  cells : List String
  generated : RandomText 12
  salt : ℕ
  exception : ImportStatement → Option String

/-- `$userId`, `$name`, `$email` and `$password`. -/
structure ImportData where
  userId : String
  name : String
  email : String
  password : String
deriving DecidableEq, Repr

/-- The four assignments at the beginning of a row. -/
def ImportRow.data (row : ImportRow) : ImportData :=
  let userId := trim (row.cells[0]?.getD "")
  { userId := userId
    name := trim (row.cells[1]?.getD "")
    email := trim (row.cells[2]?.getD (userId ++ "@example.com"))
    password := trim (row.cells[3]?.getD row.generated.text) }

/-- An entry of `$passwords`. -/
structure ImportedPassword where
  userId : String
  name : String
  password : String
deriving DecidableEq, Repr

def ImportData.entry (data : ImportData) : ImportedPassword where
  userId := data.userId
  name := data.name
  password := data.password

section Loop

variable {services : Services}

/-- The columns of `User::create` in `importCsv`. -/
def ImportData.newUser (data : ImportData) (role : Role)
    (status : UserStatus) (hashed : String) (id : UserId) :
    UserAccount where
  id := id
  password := hashed
  rememberToken := none
  username := data.userId
  email := data.email
  fullName := if isEmptyText data.name then none else some data.name
  rank := none
  department := none
  role := role
  languagePref := none
  status := status

/-- The database with `$imported`, `$errors` and `$passwords`. -/
structure ImportProgress (services : Services) where
  users : UsersTable services
  imported : ℕ
  errors : List String
  passwords : List ImportedPassword

def ImportProgress.start (users : UsersTable services) :
    ImportProgress services where
  users := users
  imported := 0
  errors := []
  passwords := []

/-- `$errors[] = …; continue;`. -/
def ImportProgress.skip (progress : ImportProgress services)
    (error : String) : ImportProgress services :=
  { progress with errors := progress.errors ++ [error] }

/-- A statement that raises its exception, if there is one. -/
def raise : Option String → Except String Unit
  | none => .ok ()
  | some message => .error message

def missingUserId : String :=
  "Row skipped: Missing user ID"

def usernameExists (data : ImportData) : String :=
  "User " ++ data.userId ++ " already exists"

def emailExists (data : ImportData) : String :=
  "Email " ++ data.email ++ " already exists"

/-- `$user = User::create([…])` and what follows it. -/
def importUser (role : Role) (status : UserStatus)
    (progress : ImportProgress services) (row : ImportRow)
    (data : ImportData) : Except String (ImportProgress services) :=
  match progress.users.create
      (data.newUser role status (services.make row.salt data.password))
      fun _ => rfl with
  | none => .error "Unique constraint violation"
  | some users =>
      .ok
        { users := users
          imported := progress.imported + 1
          errors := progress.errors
          passwords := progress.passwords ++ [data.entry] }

/-- The body of the loop. -/
def importRow (role : Role) (status : UserStatus)
    (progress : ImportProgress services) (row : ImportRow) :
    Except String (ImportProgress services) :=
  if row.cells.length < 2 then .ok progress
  else if isEmptyText row.data.userId then
    .ok (progress.skip missingUserId)
  else do
    raise (row.exception .usernameExists)
    if UsersTable.UsernameTaken progress.users row.data.userId none then
      .ok (progress.skip (usernameExists row.data))
    else do
      raise (row.exception .emailExists)
      if UsersTable.EmailTaken progress.users row.data.email none then
        .ok (progress.skip (emailExists row.data))
      else do
        raise (row.exception .create)
        importUser role status progress row row.data

/-- The loop and `DB::commit()`. -/
def importRows (role : Role) (status : UserStatus)
    (commitException : Option String) (rows : List ImportRow)
    (users : UsersTable services) :
    Except String (ImportProgress services) := do
  let progress ← rows.foldlM (importRow role status)
    (ImportProgress.start users)
  raise commitException
  .ok progress

/-! ## `importCsv` -/

/-- An uploaded file; its first line is the header. -/
structure CsvFile where
  isCsvOrTxt : Bool
  kilobytes : ℕ
  lines : List ImportRow

/-- The input of `importCsv`. -/
structure ImportInput where
  csvFile : Option CsvFile
  role : Option String
  defaultStatus : Option String

/-- What is left of a valid input. -/
structure ImportForm where
  rows : List ImportRow
  role : Role
  defaultStatus : UserStatus

/-- `$request->validate([…])` of `importCsv`. -/
def validateImport (input : ImportInput) : Validated ImportForm :=
  (Validated.both
      (do
        let file ← Validated.present "csv_file" input.csvFile
        Validated.rules "csv_file"
          [("mimes:csv,txt", file.isCsvOrTxt),
            ("max:10240", file.kilobytes ≤ 10240)]
          file)
      (Validated.both
        (requiredIn "role" "in:admin,manager,assessor,participant"
          Role.ofText? input.role)
        (requiredIn "default_status" "in:active,inactive"
          UserStatus.ofText? input.defaultStatus))).map
    fun fields =>
      { rows := fields.1.lines.tail
        role := fields.2.1
        defaultStatus := fields.2.2 }

/-- The key `csv_import_passwords` of a session, null without it. -/
abbrev PasswordSession :=
  Option (List ImportedPassword)

/-- `$message` of a committed import. -/
def importMessage (imported : ℕ) (errors : List String) : String :=
  "Successfully imported " ++ toString imported ++ " users." ++
    (if errors = [] then ""
    else " Errors: " ++ String.intercalate ", " (errors.take 5))

/-- The redirect of a committed import. -/
def importResponse (role : Role)
    (progress : ImportProgress services) : RedirectResponse where
  destination :=
    .route
      (if role = .participant then "admin.users.participants"
      else "admin.users.index")
      none
  flashed :=
    [("status", importMessage progress.imported progress.errors),
      ("csv_passwords_available", "true")]
  errors := []

/-- The database, the session and the redirect after an import. -/
structure ImportResult (services : Services) where
  tables : AccountTables services
  session : PasswordSession
  response : RedirectResponse

/-- A committed import, and an import whose exception is caught. -/
def importResult (tables : AccountTables services)
    (session : PasswordSession) (role : Role) :
    Except String (ImportProgress services) → ImportResult services
  | .ok progress =>
      { tables := { tables with users := progress.users }
        session := some progress.passwords
        response := importResponse role progress }
  | .error message =>
      { tables := tables
        session := session
        response :=
          backWithError "csv_file" ("Import failed: " ++ message) }

def importCsv (tables : AccountTables services)
    (session : PasswordSession) (actor : Option UserId)
    (input : ImportInput) (commitException : Option String) :
    Except Interruption (ImportResult services) := do
  let _ ← administrator tables actor
  let form ← validated (validateImport input)
  return importResult tables session form.role
    (importRows form.role form.defaultStatus commitException form.rows
      tables.users)

/-- The import of an administrator with a valid input. -/
theorem importCsv_eq_ok_iff
    (tables : AccountTables services) (session : PasswordSession)
    (actor : Option UserId) (input : ImportInput)
    (commitException : Option String) (result : ImportResult services) :
    importCsv tables session actor input commitException = .ok result ↔
      ∃ user form,
        administrator tables actor = .ok user ∧
          validateImport input = .ok form ∧
          result =
            importResult tables session form.role
              (importRows form.role form.defaultStatus commitException
                form.rows tables.users) := by
  unfold importCsv
  simp only [bind_eq_ok_iff, validated_eq_ok_iff, pure, Except.pure,
    Except.ok.injEq]
  constructor
  · rintro ⟨user, isAdmin, form, valid, rfl⟩
    exact ⟨user, form, isAdmin, valid, rfl⟩
  · rintro ⟨user, form, isAdmin, valid, rfl⟩
    exact ⟨user, isAdmin, form, valid, rfl⟩

end Loop

/-! ## `downloadImportedPasswords` -/

/-- The classes of responses that a return type can name. -/
inductive ResponseClass where
  | illuminateResponse
  | symfonyStreamedResponse
deriving DecidableEq, Repr

/-- A response with its class and the rows of its CSV content. -/
structure CsvResponse where
  responseClass : ResponseClass
  filename : String
  rows : List (List String)
deriving DecidableEq, Repr

/-- `response()->stream(…)`. -/
def streamedCsv (filename : String) (rows : List (List String)) :
    CsvResponse where
  responseClass := .symfonyStreamedResponse
  filename := filename
  rows := rows

/-- PHP's check of a declared return type. -/
def returning (declared : ResponseClass) (response : CsvResponse) :
    Except Interruption CsvResponse :=
  if response.responseClass = declared then .ok response
  else .error (.error .typeError)

/-- The content of the download. -/
def passwordRows (passwords : List ImportedPassword) :
    List (List String) :=
  ["User ID", "Name", "Password"] ::
    passwords.map fun item => [item.userId, item.name, item.password]

/-- The session after a download, and how the download ends. -/
def downloadImportedPasswords {services : Services}
    (tables : AccountTables services) (session : PasswordSession)
    (actor : Option UserId) (date : String) :
    PasswordSession × Except Interruption CsvResponse :=
  match administrator tables actor with
  | .error interruption => (session, .error interruption)
  | .ok _ =>
      let passwords := session.getD []
      if passwords = [] then
        (session,
          .error (.abort 404 "No passwords available for download."))
      else
        (none,
          returning .illuminateResponse
            (streamedCsv ("imported_users_passwords_" ++ date ++ ".csv")
              (passwordRows passwords)))

end SultanPass.UserController
