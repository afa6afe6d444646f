import SultanPass.Library.Pointwise
import SultanPass.UserImport

/-!
# An import accounts for every row

`importCsv` either rolls back and changes nothing, or commits.  After a
commit there is one new user for each acceptable row, in the order of the
file, and one error for each other row of at least two columns; the session
lists the new users with the passwords that were hashed for them.
-/

namespace SultanPass.UserController

open SultanPass.Library
open SultanPass.AssessmentController (trim isEmptyText)

variable {services : Services}

/-! ## What a row does -/

/-- What becomes of a row with some data. -/
inductive RowOutcome where
  | ignored
  | skipped (error : String)
  | imported
deriving DecidableEq, Repr

/-- The error of a row, if it has one. -/
def refusal (users : UsersTable services) (data : ImportData) :
    Option String :=
  if isEmptyText data.userId then some missingUserId
  else if UsersTable.UsernameTaken users data.userId none then
    some (usernameExists data)
  else if UsersTable.EmailTaken users data.email none then
    some (emailExists data)
  else none

def rowOutcome (users : UsersTable services) (row : ImportRow)
    (data : ImportData) : RowOutcome :=
  if row.cells.length < 2 then .ignored
  else
    match refusal users data with
    | some error => .skipped error
    | none => .imported

/-- A row without an error has a new username and a new e-mail. -/
theorem refusal_eq_none_iff (users : UsersTable services)
    (data : ImportData) :
    refusal users data = none ↔
      isEmptyText data.userId = false ∧
        ¬ UsersTable.UsernameTaken users data.userId none ∧
        ¬ UsersTable.EmailTaken users data.email none := by
  unfold refusal
  by_cases empty : isEmptyText data.userId = true
  · simp [empty]
  · by_cases username : UsersTable.UsernameTaken users data.userId none
    · simp [empty, username]
    · by_cases email : UsersTable.EmailTaken users data.email none
      · simp [empty, username, email]
      · simp [empty, username, email]

/-- The three errors of a row. -/
def RefusedWith (row : ImportRow) (error : String) : Prop :=
  error = missingUserId ∨ error = usernameExists row.data ∨
    error = emailExists row.data

theorem refusedWith_of_refusal
    {users : UsersTable services} {row : ImportRow} {error : String}
    (refused : refusal users row.data = some error) :
    RefusedWith row error := by
  unfold refusal at refused
  split_ifs at refused
  · exact Or.inl (Option.some.inj refused).symm
  · exact Or.inr (Or.inl (Option.some.inj refused).symm)
  · exact Or.inr (Or.inr (Option.some.inj refused).symm)

/-- A user is stored as a row says. -/
def Stored (services : Services) (role : Role) (status : UserStatus)
    (row : ImportRow) (user : UserAccount) : Prop :=
  ∃ id,
    user =
      row.data.newUser role status
        (services.make row.salt row.data.password) id

/-- The progress after a row with an outcome. -/
def Continues (role : Role) (status : UserStatus)
    (progress : ImportProgress services) (row : ImportRow)
    (after : ImportProgress services) : RowOutcome → Prop
  | .ignored => after = progress
  | .skipped error => after = progress.skip error
  | .imported =>
      (∃ user,
        after.users.rows = progress.users.rows ++ [user] ∧
          Stored services role status row user) ∧
        after.imported = progress.imported + 1 ∧
        after.errors = progress.errors ∧
        after.passwords = progress.passwords ++ [row.data.entry]

/-- The username and e-mail of an acceptable row can be inserted. -/
theorem exists_create
    {users : UsersTable services} {data : ImportData}
    (accepted : refusal users data = none) (role : Role)
    (status : UserStatus) (hashed : String) :
    ∃ after,
      users.create (data.newUser role status hashed) (fun _ => rfl) =
          some after ∧
        after.rows =
          users.rows ++ [data.newUser role status hashed users.nextKey] := by
  have free := (refusal_eq_none_iff users data).mp accepted
  cases created :
      users.create (data.newUser role status hashed) fun _ => rfl with
  | none =>
      unfold IndexedTable.create at created
      split_ifs at created with isFree
      exact (isFree ((UsersTable.free_iff _ _ _).mpr free.2)).elim
  | some after =>
      exact
        ⟨after, rfl,
          ((IndexedTable.create_eq_some_iff _ _ _ _).mp created).2.1⟩

theorem raise_eq_ok_iff (exception : Option String) (value : Unit) :
    raise exception = .ok value ↔ exception = none := by
  cases exception with
  | none => simp [raise]
  | some message => simp [raise]

/-- What the body of the loop does, unless it raises. -/
theorem continues_of_importRow
    {role : Role} {status : UserStatus}
    {progress after : ImportProgress services} {row : ImportRow}
    (returns : importRow role status progress row = .ok after) :
    Continues role status progress row after
      (rowOutcome progress.users row row.data) := by
  generalize decided :
    rowOutcome progress.users row row.data = outcome
  unfold importRow at returns
  unfold rowOutcome at decided
  by_cases short : row.cells.length < 2
  · rw [if_pos short] at returns decided
    subst decided
    exact (Except.ok.inj returns).symm
  rw [if_neg short] at returns decided
  by_cases empty : isEmptyText row.data.userId = true
  · rw [if_pos empty] at returns
    rw [refusal, if_pos empty] at decided
    subst decided
    exact (Except.ok.inj returns).symm
  rw [if_neg empty] at returns
  rcases bind_eq_ok_iff.mp returns with ⟨_, _, checked⟩
  by_cases username :
      UsersTable.UsernameTaken progress.users row.data.userId none
  · rw [if_pos username] at checked
    rw [refusal, if_neg empty, if_pos username] at decided
    subst decided
    exact (Except.ok.inj checked).symm
  rw [if_neg username] at checked
  rcases bind_eq_ok_iff.mp checked with ⟨_, _, checkedEmail⟩
  by_cases email :
      UsersTable.EmailTaken progress.users row.data.email none
  · rw [if_pos email] at checkedEmail
    rw [refusal, if_neg empty, if_neg username, if_pos email] at decided
    subst decided
    exact (Except.ok.inj checkedEmail).symm
  rw [if_neg email] at checkedEmail
  rcases bind_eq_ok_iff.mp checkedEmail with ⟨_, _, creates⟩
  have accepted : refusal progress.users row.data = none := by
    rw [refusal, if_neg empty, if_neg username, if_neg email]
  rcases
      exists_create accepted role status
        (services.make row.salt row.data.password) with
    ⟨users, created, rows⟩
  rw [importUser, created] at creates
  rw [accepted] at decided
  subst decided
  cases Except.ok.inj creates
  exact ⟨⟨_, rows, _, rfl⟩, rfl, rfl, rfl⟩

/-- Without exceptions the body of the loop returns. -/
theorem exists_importRow
    (role : Role) (status : UserStatus)
    (progress : ImportProgress services) {row : ImportRow}
    (none : ∀ statement, row.exception statement = none) :
    ∃ after, importRow role status progress row = .ok after := by
  unfold importRow
  simp only [none, raise]
  split_ifs with short empty username email
  · exact ⟨_, rfl⟩
  · exact ⟨_, rfl⟩
  · exact ⟨_, rfl⟩
  · exact ⟨_, rfl⟩
  · have accepted : refusal progress.users row.data = Option.none := by
      rw [refusal, if_neg empty, if_neg username, if_neg email]
    rcases
        exists_create accepted role status
          (services.make row.salt row.data.password) with
      ⟨users, created, _⟩
    change ∃ after, importUser role status progress row row.data = .ok after
    rw [importUser, created]
    exact ⟨_, rfl⟩

/-! ## The account of a file -/

/-- Two users cannot both have these names. -/
def Conflicts (services : Services) (data : ImportData)
    (username email : String) : Prop :=
  services.collate username = services.collate data.userId ∨
    services.collate email = services.collate data.email

/--
A row of at least two columns with a user id, whose username and e-mail
occur neither in the initial table nor in an earlier imported row.
-/
def Acceptable (initial : UsersTable services)
    (earlier : List ImportRow) (row : ImportRow) : Prop :=
  2 ≤ row.cells.length ∧ isEmptyText row.data.userId = false ∧
    (∀ user ∈ initial.rows,
      ¬ Conflicts services row.data user.username user.email) ∧
    ∀ other ∈ earlier,
      ¬ Conflicts services row.data other.data.userId other.data.email

instance (services : Services) (data : ImportData)
    (username email : String) :
    Decidable (Conflicts services data username email) :=
  inferInstanceAs (Decidable (_ ∨ _))

instance (initial : UsersTable services) (earlier : List ImportRow)
    (row : ImportRow) : Decidable (Acceptable initial earlier row) :=
  inferInstanceAs (Decidable (_ ∧ _ ∧ _ ∧ _))

/-- The imported rows and the rows with an error, in file order. -/
structure RowAccount where
  imported : List ImportRow
  refused : List ImportRow

def RowAccount.add (initial : UsersTable services)
    (account : RowAccount) (row : ImportRow) : RowAccount :=
  if Acceptable initial account.imported row then
    { account with imported := account.imported ++ [row] }
  else if 2 ≤ row.cells.length then
    { account with refused := account.refused ++ [row] }
  else account

/-- The account of a file over an initial table. -/
def accountRows (initial : UsersTable services)
    (rows : List ImportRow) : RowAccount :=
  rows.foldl (RowAccount.add initial) { imported := [], refused := [] }

/-- The database and the accumulators are those of an account. -/
structure Accounted (initial : UsersTable services) (role : Role)
    (status : UserStatus) (account : RowAccount)
    (progress : ImportProgress services) : Prop where
  users :
    ∃ added,
      progress.users.rows = initial.rows ++ added ∧
        List.Forall₂ (Stored services role status) account.imported added
  imported : progress.imported = account.imported.length
  errors : List.Forall₂ RefusedWith account.refused progress.errors
  passwords :
    progress.passwords =
      account.imported.map fun row => row.data.entry

theorem accounted_start (initial : UsersTable services) (role : Role)
    (status : UserStatus) :
    Accounted initial role status { imported := [], refused := [] }
      (ImportProgress.start initial) where
  users := ⟨[], (List.append_nil _).symm, List.Forall₂.nil⟩
  imported := rfl
  errors := List.Forall₂.nil
  passwords := rfl

theorem taken_none_iff {Row Value : Type} {key : Row → ℕ}
    {indexes : List (Row → Value)} (table : IndexedTable key indexes)
    (index : Row → Value) (value : Value) :
    table.Taken index value none ↔
      ∃ row ∈ table.rows, index row = value := by
  simp [IndexedTable.Taken]

/-- What is taken is taken initially or by an imported row. -/
theorem Accounted.taken_iff
    {initial : UsersTable services} {role : Role} {status : UserStatus}
    {account : RowAccount} {progress : ImportProgress services}
    (accounted : Accounted initial role status account progress)
    (data : ImportData) :
    UsersTable.UsernameTaken progress.users data.userId none ∨
        UsersTable.EmailTaken progress.users data.email none ↔
      (∃ user ∈ initial.rows,
          Conflicts services data user.username user.email) ∨
        ∃ other ∈ account.imported,
          Conflicts services data other.data.userId other.data.email := by
  rcases accounted.users with ⟨added, rows, stored⟩
  have fromAdded :
      (∃ user ∈ added,
          Conflicts services data user.username user.email) ↔
        ∃ other ∈ account.imported,
          Conflicts services data other.data.userId
            other.data.email := by
    constructor
    · rintro ⟨user, member, conflicts⟩
      rcases exists_entry_of_row stored member with
        ⟨other, isOther, id, rfl⟩
      exact ⟨other, isOther, conflicts⟩
    · rintro ⟨other, member, conflicts⟩
      rcases exists_row_of_entry stored member with
        ⟨_, isUser, id, rfl⟩
      exact ⟨_, isUser, conflicts⟩
  rw [← fromAdded]
  unfold UsersTable.UsernameTaken UsersTable.EmailTaken
  rw [taken_none_iff, taken_none_iff, rows]
  constructor
  · rintro (⟨user, member, same⟩ | ⟨user, member, same⟩)
    · rcases List.mem_append.mp member with old | new
      · exact Or.inl ⟨user, old, Or.inl same⟩
      · exact Or.inr ⟨user, new, Or.inl same⟩
    · rcases List.mem_append.mp member with old | new
      · exact Or.inl ⟨user, old, Or.inr same⟩
      · exact Or.inr ⟨user, new, Or.inr same⟩
  · rintro (⟨user, member, same | same⟩ | ⟨user, member, same | same⟩)
    · exact Or.inl ⟨user, List.mem_append_left _ member, same⟩
    · exact Or.inr ⟨user, List.mem_append_left _ member, same⟩
    · exact Or.inl ⟨user, List.mem_append_right _ member, same⟩
    · exact Or.inr ⟨user, List.mem_append_right _ member, same⟩

/-- A row is imported exactly when it is acceptable. -/
theorem Accounted.rowOutcome_iff
    {initial : UsersTable services} {role : Role} {status : UserStatus}
    {account : RowAccount} {progress : ImportProgress services}
    (accounted : Accounted initial role status account progress)
    (row : ImportRow) :
    rowOutcome progress.users row row.data = .imported ↔
      Acceptable initial account.imported row := by
  have taken := accounted.taken_iff row.data
  have accepted := refusal_eq_none_iff progress.users row.data
  unfold rowOutcome
  constructor
  · intro isImported
    split_ifs at isImported with short
    cases refused : refusal progress.users row.data with
    | some error =>
        rw [refused] at isImported
        cases isImported
    | none =>
        rcases accepted.mp refused with ⟨present, username, email⟩
        have free := fun conflicts =>
          (taken.mpr conflicts).elim username email
        exact
          ⟨Nat.le_of_not_lt short, present,
            fun user member conflicts =>
              free (Or.inl ⟨user, member, conflicts⟩),
            fun other member conflicts =>
              free (Or.inr ⟨other, member, conflicts⟩)⟩
  · rintro ⟨long, present, notInitial, notEarlier⟩
    have free :
        ¬ (UsersTable.UsernameTaken progress.users row.data.userId none ∨
          UsersTable.EmailTaken progress.users row.data.email none) := by
      intro conflicts
      rcases taken.mp conflicts with
        ⟨user, member, conflict⟩ | ⟨other, member, conflict⟩
      · exact notInitial user member conflict
      · exact notEarlier other member conflict
    rw [if_neg (Nat.not_lt_of_le long),
      accepted.mpr
        ⟨present, fun username => free (Or.inl username),
          fun email => free (Or.inr email)⟩]

/-- What one row adds to the account. -/
theorem Accounted.importRow
    {initial : UsersTable services} {role : Role} {status : UserStatus}
    {account : RowAccount} {progress after : ImportProgress services}
    (accounted : Accounted initial role status account progress)
    {row : ImportRow}
    (returns : importRow role status progress row = .ok after) :
    Accounted initial role status (account.add initial row) after := by
  have continues := continues_of_importRow returns
  have decides := accounted.rowOutcome_iff row
  cases found : rowOutcome progress.users row row.data with
  | ignored =>
      rw [found] at continues decides
      have same : after = progress := continues
      have notAcceptable : ¬ Acceptable initial account.imported row :=
        fun acceptable => by cases decides.mpr acceptable
      have short : row.cells.length < 2 := by
        unfold rowOutcome at found
        split_ifs at found with short
        · exact short
        · cases refused : refusal progress.users row.data with
          | none =>
              rw [refused] at found
              cases found
          | some error =>
              rw [refused] at found
              cases found
      rw [same, RowAccount.add, if_neg notAcceptable,
        if_neg (Nat.not_le_of_lt short)]
      exact accounted
  | skipped error =>
      rw [found] at continues decides
      have skips : after = progress.skip error := continues
      have notAcceptable : ¬ Acceptable initial account.imported row :=
        fun acceptable => by cases decides.mpr acceptable
      unfold rowOutcome at found
      split_ifs at found with short
      have refused : refusal progress.users row.data = some error := by
        cases isRefused : refusal progress.users row.data with
        | none =>
            rw [isRefused] at found
            cases found
        | some other =>
            rw [isRefused] at found
            cases found
            rfl
      rw [skips, RowAccount.add, if_neg notAcceptable,
        if_pos (Nat.le_of_not_lt short)]
      exact
        { users := accounted.users
          imported := accounted.imported
          errors :=
            List.rel_append accounted.errors
              (List.Forall₂.cons (refusedWith_of_refusal refused)
                List.Forall₂.nil)
          passwords := accounted.passwords }
  | imported =>
      rw [found] at continues decides
      rcases continues with
        ⟨⟨user, rows, stored⟩, imported, errors, passwords⟩
      rcases accounted.users with ⟨added, before, all⟩
      rw [RowAccount.add, if_pos (decides.mp rfl)]
      exact
        { users :=
            ⟨added ++ [user], by rw [rows, before, List.append_assoc],
              List.rel_append all
                (List.Forall₂.cons stored List.Forall₂.nil)⟩
          imported := by
            rw [imported, accounted.imported, List.length_append]
            rfl
          errors := by
            rw [errors]
            exact accounted.errors
          passwords := by
            rw [passwords, accounted.passwords, List.map_append]
            rfl }

/-- What all rows add to the account. -/
theorem Accounted.foldlM
    {initial : UsersTable services} {role : Role} {status : UserStatus}
    {rows : List ImportRow} {account : RowAccount}
    {progress final : ImportProgress services}
    (accounted : Accounted initial role status account progress)
    (returns :
      rows.foldlM (UserController.importRow role status) progress =
        .ok final) :
    Accounted initial role status
      (rows.foldl (RowAccount.add initial) account) final := by
  induction rows generalizing account progress with
  | nil =>
      cases returns
      exact accounted
  | cons row rest induction =>
      rw [List.foldlM_cons] at returns
      rcases bind_eq_ok_iff.mp returns with ⟨next, stepped, later⟩
      exact induction (accounted.importRow stepped) later

/-- Without exceptions the loop returns. -/
theorem exists_foldlM
    (role : Role) (status : UserStatus) {rows : List ImportRow}
    (none :
      ∀ row ∈ rows, ∀ statement, row.exception statement = none)
    (progress : ImportProgress services) :
    ∃ final,
      rows.foldlM (importRow role status) progress = .ok final := by
  induction rows generalizing progress with
  | nil => exact ⟨progress, rfl⟩
  | cons row rest induction =>
      rcases
          exists_importRow role status progress
            (none row List.mem_cons_self) with
        ⟨next, stepped⟩
      rcases
          induction (fun other member =>
            none other (List.mem_cons_of_mem _ member)) next with
        ⟨final, later⟩
      refine ⟨final, ?_⟩
      rw [List.foldlM_cons, stepped]
      exact later

/-! ## Rolled back or committed -/

/-- An exception was caught, and nothing has changed. -/
def RolledBack (tables : AccountTables services)
    (session : PasswordSession) (result : ImportResult services) :
    Prop :=
  result.tables = tables ∧ result.session = session ∧
    ∃ message,
      result.response =
        backWithError "csv_file" ("Import failed: " ++ message)

/-- The rows are accounted for, also in the session and the message. -/
def Committed (tables : AccountTables services) (form : ImportForm)
    (result : ImportResult services) : Prop :=
  ∃ progress,
    Accounted tables.users form.role form.defaultStatus
        (accountRows tables.users form.rows) progress ∧
      result.tables = { tables with users := progress.users } ∧
      result.session = some progress.passwords ∧
      result.response = importResponse form.role progress

/-- The database raises no exception. -/
def Undisturbed (form : ImportForm) (commitException : Option String) :
    Prop :=
  commitException = none ∧
    ∀ row ∈ form.rows, ∀ statement, row.exception statement = none

/-- An import commits when its loop and its commit raise nothing. -/
theorem importRows_eq_ok_iff
    (role : Role) (status : UserStatus) (commitException : Option String)
    (rows : List ImportRow) (users : UsersTable services)
    (progress : ImportProgress services) :
    importRows role status commitException rows users = .ok progress ↔
      rows.foldlM (importRow role status)
          (ImportProgress.start users) = .ok progress ∧
        commitException = none := by
  unfold importRows
  simp only [bind_eq_ok_iff, raise_eq_ok_iff, Except.ok.injEq]
  constructor
  · rintro ⟨_, returns, _, commits, rfl⟩
    exact ⟨returns, commits⟩
  · rintro ⟨returns, commits⟩
    exact ⟨progress, returns, (), commits, rfl⟩

theorem committed_of_importRows
    (tables : AccountTables services) (session : PasswordSession)
    {form : ImportForm} {commitException : Option String}
    {progress : ImportProgress services}
    (imports :
      importRows form.role form.defaultStatus commitException form.rows
        tables.users = .ok progress) :
    Committed tables form
      (importResult tables session form.role (.ok progress)) := by
  rcases (importRows_eq_ok_iff _ _ _ _ _ _).mp imports with
    ⟨returns, _⟩
  exact
    ⟨progress, (accounted_start _ _ _).foldlM returns, rfl, rfl, rfl⟩

theorem exists_importRows
    {form : ImportForm} {commitException : Option String}
    (undisturbed : Undisturbed form commitException)
    (users : UsersTable services) :
    ∃ progress,
      importRows form.role form.defaultStatus commitException form.rows
        users = .ok progress := by
  rcases undisturbed with ⟨commits, noException⟩
  rcases
      exists_foldlM form.role form.defaultStatus noException
        (ImportProgress.start users) with
    ⟨final, returns⟩
  exact
    ⟨final, (importRows_eq_ok_iff _ _ _ _ _ _).mpr ⟨returns, commits⟩⟩

/-- Usernames and e-mails are distinct in every table. -/
theorem nodup_usernames_emails (users : UsersTable services) :
    (users.rows.map fun user =>
        services.collate user.username).Nodup ∧
      (users.rows.map fun user => services.collate user.email).Nodup :=
  ⟨users.unique _ List.mem_cons_self,
    users.unique _ (List.mem_cons_of_mem _ List.mem_cons_self)⟩

/--
An import of an administrator rolls back or commits.  It commits if no
exception disturbs it, and usernames and e-mails stay distinct.
-/
theorem importCsv_accounts
    (tables : AccountTables services) (session : PasswordSession)
    (actor : Option UserId) (input : ImportInput)
    (commitException : Option String) (user : UserAccount)
    (isAdmin : administrator tables actor = .ok user)
    (form : ImportForm) (valid : validateImport input = .ok form) :
    ∃ result,
      importCsv tables session actor input commitException =
          .ok result ∧
        (RolledBack tables session result ∨
          Committed tables form result) ∧
        (Undisturbed form commitException →
          Committed tables form result) ∧
        (result.tables.users.rows.map fun row =>
          services.collate row.username).Nodup ∧
        (result.tables.users.rows.map fun row =>
          services.collate row.email).Nodup := by
  refine
    ⟨importResult tables session form.role
        (importRows form.role form.defaultStatus commitException form.rows
          tables.users),
      (importCsv_eq_ok_iff _ _ _ _ _ _).mpr
        ⟨user, form, isAdmin, valid, rfl⟩,
      ?_, ?_, nodup_usernames_emails _⟩
  · cases imports :
        importRows form.role form.defaultStatus commitException form.rows
          tables.users with
    | error message => exact Or.inl ⟨rfl, rfl, message, rfl⟩
    | ok progress =>
        exact Or.inr (committed_of_importRows tables session imports)
  · intro undisturbed
    rcases exists_importRows undisturbed tables.users with
      ⟨progress, imports⟩
    rw [imports]
    exact committed_of_importRows tables session imports

/-- Two new users around a known username and a line of one cell. -/
def sampleRows : List ImportRow :=
  [["ahmed", "Ahmed", "ahmed@example.com", "Password1"],
    ["Participant", "Again"], [""], ["omar", "Omar"]].map fun cells =>
      { cells := cells
        generated := sampleRandomText
        salt := 7
        exception := fun _ => none }

def sampleImport : ImportInput where
  csvFile :=
    some
      { isCsvOrTxt := true
        kilobytes := 1
        lines := sampleRows.take 1 ++ sampleRows }
  role := some "participant"
  defaultStatus := some "active"

def sampleForm : ImportForm where
  rows := sampleRows
  role := .participant
  defaultStatus := .active

theorem importCsv_accounts_sample :
    ∃ result,
      importCsv sampleAccounts none (some 1) sampleImport none =
          .ok result ∧
        Committed sampleAccounts sampleForm result := by
  rcases
      importCsv_accounts sampleAccounts none (some 1) sampleImport none
        sampleAdministrator rfl sampleForm rfl with
    ⟨result, returns, _, commits, _⟩
  refine ⟨result, returns, commits ⟨rfl, ?_⟩⟩
  intro row member statement
  rcases List.mem_map.mp member with ⟨cells, _, rfl⟩
  rfl

end SultanPass.UserController
