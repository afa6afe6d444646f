import SultanPass.ImportAccounting
import SultanPass.Library.GuardedRun

/-!
# Where the generated passwords go

The only plaintext copy of a generated password is the list that an import
leaves in the session of the administrator.  The next import overwrites it.
A download forgets it and then fails: `downloadImportedPasswords` declares
an Illuminate response and returns a streamed one.
-/

namespace SultanPass.UserController

open SultanPass.Library

variable {services : Services}

/-! ## Requests of one session -/

/-- A request of the administrator's session. -/
inductive PasswordRequest where
  | importCsv (input : ImportInput) (commitException : Option String)
  | downloadImportedPasswords (date : String)

/--
The database and the session, with the entries of all generated passwords
and the contents of all returned downloads.
-/
structure PasswordHistory (services : Services) where
  tables : AccountTables services
  session : PasswordSession
  generated : List ImportedPassword
  delivered : List (List (List String))

/-- A session in which nothing has been imported yet. -/
def PasswordHistory.start (tables : AccountTables services)
    (session : PasswordSession) : PasswordHistory services where
  tables := tables
  session := session
  generated := []
  delivered := []

/-- The password of the row is the generated one. -/
def ImportRow.UsesGenerated (row : ImportRow) : Prop :=
  row.cells[3]? = none

instance (row : ImportRow) : Decidable row.UsesGenerated :=
  inferInstanceAs (Decidable (_ = none))

/-- The entries of the imported rows with a generated password. -/
def generatedEntries (users : UsersTable services)
    (rows : List ImportRow) : List ImportedPassword :=
  ((accountRows users rows).imported.filter fun row =>
      row.UsesGenerated).map fun row => row.data.entry

/-- What an import commits. -/
def committedImport (tables : AccountTables services)
    (actor : Option UserId) (input : ImportInput)
    (commitException : Option String) :
    Option (ImportForm × ImportProgress services) := do
  let _ ← (administrator tables actor).toOption
  let form ← (validateImport input).toOption
  let progress ←
    (importRows form.role form.defaultStatus commitException form.rows
      tables.users).toOption
  return (form, progress)

theorem committedImport_eq_some_iff (tables : AccountTables services)
    (actor : Option UserId) (input : ImportInput)
    (commitException : Option String) (form : ImportForm)
    (progress : ImportProgress services) :
    committedImport tables actor input commitException =
        some (form, progress) ↔
      (∃ user, administrator tables actor = .ok user) ∧
        validateImport input = .ok form ∧
        importRows form.role form.defaultStatus commitException form.rows
          tables.users = .ok progress := by
  unfold committedImport
  simp only [bind, pure, Option.bind_eq_some_iff, toOption_eq_some_iff,
    Option.some.injEq, Prod.mk.injEq]
  constructor
  · rintro ⟨user, isAdmin, _, valid, _, rows, rfl, rfl⟩
    exact ⟨⟨user, isAdmin⟩, valid, rows⟩
  · rintro ⟨⟨user, isAdmin⟩, valid, rows⟩
    exact ⟨user, isAdmin, form, valid, progress, rows, rfl, rfl⟩

/-- One request of the session. -/
def passwordStep (actor : Option UserId)
    (history : PasswordHistory services) :
    PasswordRequest → PasswordHistory services
  | .importCsv input commitException =>
      match
        importCsv history.tables history.session actor input
          commitException
      with
      | .error _ => history
      | .ok result =>
          { history with
            tables := result.tables
            session := result.session
            generated :=
              history.generated ++
                match
                  committedImport history.tables actor input
                    commitException
                with
                | none => []
                | some (form, _) =>
                    generatedEntries history.tables.users form.rows }
  | .downloadImportedPasswords date =>
      let ends :=
        downloadImportedPasswords history.tables history.session actor
          date
      { history with
        session := ends.1
        delivered :=
          history.delivered ++
            match ends.2 with
            | .error _ => []
            | .ok response => [response.rows] }

/-! ## What a request does -/

/-- An import that commits. -/
def Commits (actor : Option UserId) (history : PasswordHistory services)
    (input : ImportInput) (commitException : Option String) : Prop :=
  (committedImport history.tables actor input commitException).isSome

/-- A download that finds passwords. -/
def FindsPasswords (actor : Option UserId)
    (history : PasswordHistory services) : Prop :=
  (administrator history.tables actor).toOption.isSome ∧
    history.session.getD [] ≠ []

/-- An import that does not commit changes nothing. -/
theorem passwordStep_importCsv_of_not_commits
    {actor : Option UserId} {history : PasswordHistory services}
    {input : ImportInput} {commitException : Option String}
    (fails : committedImport history.tables actor input commitException =
      none) :
    passwordStep actor history (.importCsv input commitException) =
      history := by
  unfold passwordStep
  dsimp only
  cases imports :
      importCsv history.tables history.session actor input
        commitException with
  | error interruption => rfl
  | ok result =>
      rcases (importCsv_eq_ok_iff _ _ _ _ _ _).mp imports with
        ⟨user, form, isAdmin, valid, rfl⟩
      cases rows :
          importRows form.role form.defaultStatus commitException
            form.rows history.tables.users with
      | ok progress =>
          have commits :=
            (committedImport_eq_some_iff _ _ _ _ _ _).mpr
              ⟨⟨user, isAdmin⟩, valid, rows⟩
          rw [fails] at commits
          cases commits
      | error message =>
          rw [fails]
          dsimp only [importResult]
          rw [List.append_nil]

/-- What an import that commits does. -/
theorem passwordStep_importCsv_of_commits
    {actor : Option UserId} {history : PasswordHistory services}
    {input : ImportInput} {commitException : Option String}
    {form : ImportForm} {progress : ImportProgress services}
    (commits :
      committedImport history.tables actor input commitException =
        some (form, progress)) :
    Accounted history.tables.users form.role form.defaultStatus
        (accountRows history.tables.users form.rows) progress ∧
      passwordStep actor history (.importCsv input commitException) =
        { tables := { history.tables with users := progress.users }
          session := some progress.passwords
          generated :=
            history.generated ++
              generatedEntries history.tables.users form.rows
          delivered := history.delivered } := by
  rcases (committedImport_eq_some_iff _ _ _ _ _ _).mp commits with
    ⟨⟨user, isAdmin⟩, valid, rows⟩
  have imports :
      importCsv history.tables history.session actor input
          commitException =
        .ok
          (importResult history.tables history.session form.role
            (.ok progress)) :=
    (importCsv_eq_ok_iff _ _ _ _ _ _).mpr
      ⟨user, form, isAdmin, valid, by rw [rows]⟩
  constructor
  · exact
      (accounted_start _ _ _).foldlM
        ((importRows_eq_ok_iff _ _ _ _ _ _).mp rows).1
  · unfold passwordStep
    dsimp only
    rw [imports, commits]
    rfl

/-- A download delivers nothing; it forgets the passwords that it finds. -/
theorem passwordStep_download
    (actor : Option UserId) (history : PasswordHistory services)
    (date : String) :
    (FindsPasswords actor history ∧
        passwordStep actor history (.downloadImportedPasswords date) =
          { history with session := none }) ∨
      ¬ FindsPasswords actor history ∧
        passwordStep actor history (.downloadImportedPasswords date) =
          history := by
  unfold FindsPasswords passwordStep downloadImportedPasswords
  cases isAdmin : administrator history.tables actor with
  | error interruption =>
      right
      constructor
      · rintro ⟨impossible, _⟩
        cases impossible
      · dsimp only
        rw [List.append_nil]
  | ok user =>
      dsimp only
      by_cases empty : history.session.getD [] = []
      · right
        rw [if_pos empty]
        constructor
        · rintro ⟨_, found⟩
          exact found empty
        · rw [List.append_nil]
      · left
        rw [if_neg empty]
        refine ⟨⟨rfl, empty⟩, ?_⟩
        change
          { history with
            session := none
            delivered := history.delivered ++ [] } = _
        rw [List.append_nil]

/-! ## Entries and users -/

/-- An imported row is acceptable at its place. -/
theorem acceptable_of_mem_imported
    {initial : UsersTable services} {rows : List ImportRow}
    {account : RowAccount} {row : ImportRow}
    (member :
      row ∈ (rows.foldl (RowAccount.add initial) account).imported) :
    row ∈ account.imported ∨ ∃ earlier, Acceptable initial earlier row := by
  induction rows generalizing account with
  | nil => exact Or.inl member
  | cons first rest induction =>
      rcases induction member with added | acceptable
      · unfold RowAccount.add at added
        split_ifs at added with isAcceptable
        · rcases List.mem_append.mp added with old | new
          · exact Or.inl old
          · rw [List.mem_singleton.mp new]
            exact Or.inr ⟨_, isAcceptable⟩
        · exact Or.inl added
        · exact Or.inl added
      · exact Or.inr acceptable

/-- A new entry has a username that was free before the import. -/
theorem not_usernameTaken_of_mem_imported
    {initial : UsersTable services} {rows : List ImportRow}
    {row : ImportRow} (member : row ∈ (accountRows initial rows).imported) :
    ¬ UsersTable.UsernameTaken initial row.data.entry.userId none := by
  rintro ⟨user, isUser, same, _⟩
  rcases acceptable_of_mem_imported member with
    impossible | ⟨earlier, _, _, free, _⟩
  · cases impossible
  · exact free user isUser (Or.inl same)

/-- A new entry has a username that is taken after the import. -/
theorem Accounted.usernameTaken
    {initial : UsersTable services} {role : Role} {status : UserStatus}
    {account : RowAccount} {progress : ImportProgress services}
    (accounted : Accounted initial role status account progress)
    {row : ImportRow} (member : row ∈ account.imported) :
    UsersTable.UsernameTaken progress.users row.data.entry.userId
      none := by
  rcases accounted.users with ⟨added, rows, stored⟩
  rcases exists_row_of_entry stored member with ⟨user, isUser, id, rfl⟩
  refine
    ⟨row.data.newUser role status
        (services.make row.salt row.data.password) id, ?_, rfl, ?_⟩
  · rw [rows]
    exact List.mem_append_right _ isUser
  · intro impossible
    cases impossible

theorem Accounted.usernameTaken_of_initial
    {initial : UsersTable services} {role : Role} {status : UserStatus}
    {account : RowAccount} {progress : ImportProgress services}
    (accounted : Accounted initial role status account progress)
    {username : String}
    (taken : UsersTable.UsernameTaken initial username none) :
    UsersTable.UsernameTaken progress.users username none := by
  rcases accounted.users with ⟨added, rows, _⟩
  rcases taken with ⟨user, member, same⟩
  refine ⟨user, ?_, same⟩
  rw [rows]
  exact List.mem_append_left _ member

/-! ## Safe histories -/

/--
Every generated password of a committed user is in the session or in a
returned download.
-/
def PasswordsKept (history : PasswordHistory services) : Prop :=
  ∀ entry ∈ history.generated,
    entry ∈ history.session.getD [] ∨
      ∃ rows ∈ history.delivered,
        [entry.userId, entry.name, entry.password] ∈ rows

/-- Nothing is delivered, and the generated entries are of users. -/
structure Undelivered (history : PasswordHistory services) : Prop where
  delivered : history.delivered = []
  users :
    ∀ entry ∈ history.generated,
      UsersTable.UsernameTaken history.tables.users entry.userId none

/--
Nothing has been generated before an import that commits, and before a
download that finds passwords.
-/
def NothingGenerated (actor : Option UserId)
    (history : PasswordHistory services) : PasswordRequest → Prop
  | .importCsv input commitException =>
      Commits actor history input commitException →
        history.generated = []
  | .downloadImportedPasswords _ =>
      FindsPasswords actor history → history.generated = []

theorem Undelivered.kept_iff {history : PasswordHistory services}
    (undelivered : Undelivered history) :
    PasswordsKept history ↔
      ∀ entry ∈ history.generated, entry ∈ history.session.getD [] := by
  unfold PasswordsKept
  rw [undelivered.delivered]
  simp

/-- The session after an import that commits. -/
theorem kept_after_import
    {history : PasswordHistory services} {form : ImportForm}
    {progress : ImportProgress services}
    (accounted :
      Accounted history.tables.users form.role form.defaultStatus
        (accountRows history.tables.users form.rows) progress)
    (undelivered : Undelivered history) :
    (∀ entry ∈
        history.generated ++
          generatedEntries history.tables.users form.rows,
        entry ∈ progress.passwords) ↔
      history.generated = [] := by
  constructor
  · intro kept
    rw [List.eq_nil_iff_forall_not_mem]
    intro entry member
    have isNew := kept entry (List.mem_append_left _ member)
    rw [accounted.passwords] at isNew
    rcases List.mem_map.mp isNew with ⟨row, isRow, rfl⟩
    exact
      not_usernameTaken_of_mem_imported isRow
        (undelivered.users _ member)
  · intro nothing entry member
    rw [nothing, List.nil_append] at member
    rcases List.mem_map.mp member with ⟨row, isRow, rfl⟩
    rw [accounted.passwords]
    exact List.mem_map_of_mem (List.mem_filter.mp isRow).1

theorem Undelivered.step {actor : Option UserId}
    {history : PasswordHistory services}
    (undelivered : Undelivered history) (request : PasswordRequest) :
    Undelivered (passwordStep actor history request) := by
  cases request with
  | importCsv input commitException =>
      cases commits :
          committedImport history.tables actor input commitException with
      | none =>
          rw [passwordStep_importCsv_of_not_commits commits]
          exact undelivered
      | some committed =>
          rcases passwordStep_importCsv_of_commits commits with
            ⟨accounted, after⟩
          rw [after]
          constructor
          · exact undelivered.delivered
          · intro entry member
            rcases List.mem_append.mp member with old | new
            · exact
                accounted.usernameTaken_of_initial
                  (undelivered.users entry old)
            · rcases List.mem_map.mp new with ⟨row, isRow, rfl⟩
              exact
                accounted.usernameTaken (List.mem_filter.mp isRow).1
  | downloadImportedPasswords date =>
      rcases passwordStep_download actor history date with
        ⟨_, after⟩ | ⟨_, after⟩
      · rw [after]
        exact ⟨undelivered.delivered, undelivered.users⟩
      · rw [after]
        exact undelivered

/-- A request keeps all passwords exactly when nothing was generated. -/
theorem kept_step_iff {actor : Option UserId}
    {history : PasswordHistory services}
    (undelivered : Undelivered history) (kept : PasswordsKept history)
    (request : PasswordRequest) :
    PasswordsKept (passwordStep actor history request) ↔
      NothingGenerated actor history request := by
  rw [(undelivered.step request).kept_iff]
  cases request with
  | importCsv input commitException =>
      unfold NothingGenerated Commits
      dsimp only
      cases commits :
          committedImport history.tables actor input commitException with
      | none =>
          rw [passwordStep_importCsv_of_not_commits commits]
          apply iff_of_true (undelivered.kept_iff.mp kept)
          intro impossible
          cases impossible
      | some committed =>
          rcases passwordStep_importCsv_of_commits commits with
            ⟨accounted, after⟩
          rw [after]
          exact
            (kept_after_import accounted undelivered).trans
              ⟨fun nothing _ => nothing, fun nothing => nothing rfl⟩
  | downloadImportedPasswords date =>
      unfold NothingGenerated
      rcases passwordStep_download actor history date with
        ⟨finds, after⟩ | ⟨finds, after⟩
      · rw [after]
        constructor
        · intro noneLeft _
          exact List.eq_nil_iff_forall_not_mem.mpr fun entry member =>
            List.not_mem_nil (noneLeft entry member)
        · intro nothing entry member
          rw [nothing finds] at member
          cases member
      · rw [after]
        exact
          iff_of_true (undelivered.kept_iff.mp kept) fun found =>
            (finds found).elim

/-- A lost password does not come back. -/
theorem not_kept_step {actor : Option UserId}
    {history : PasswordHistory services}
    (undelivered : Undelivered history)
    (lost : ¬ PasswordsKept history) (request : PasswordRequest) :
    ¬ PasswordsKept (passwordStep actor history request) := by
  rw [(undelivered.step request).kept_iff]
  rw [undelivered.kept_iff] at lost
  cases request with
  | importCsv input commitException =>
      cases commits :
          committedImport history.tables actor input commitException with
      | none =>
          rw [passwordStep_importCsv_of_not_commits commits]
          exact lost
      | some committed =>
          rcases passwordStep_importCsv_of_commits commits with
            ⟨accounted, after⟩
          rw [after]
          intro kept
          have nothing :=
            (kept_after_import accounted undelivered).mp kept
          apply lost
          rw [nothing]
          exact nofun
  | downloadImportedPasswords date =>
      rcases passwordStep_download actor history date with
        ⟨_, after⟩ | ⟨_, after⟩
      · rw [after]
        intro noneLeft
        exact lost fun entry member =>
          (List.not_mem_nil (noneLeft entry member)).elim
      · rw [after]
        exact lost

/--
The generated passwords survive a sequence of requests exactly when none has
been generated before an import that commits or a download that finds
passwords.
-/
theorem generated_passwords_kept_iff
    (actor : Option UserId) (tables : AccountTables services)
    (session : PasswordSession) (requests : List PasswordRequest) :
    PasswordsKept
        (requests.foldl (passwordStep actor)
          (PasswordHistory.start tables session)) ↔
      Throughout (passwordStep actor) (NothingGenerated actor)
        (PasswordHistory.start tables session) requests := by
  have undelivered :
      Undelivered (PasswordHistory.start tables session) :=
    { delivered := rfl
      users := fun _ member => (List.not_mem_nil member).elim }
  have kept : PasswordsKept (PasswordHistory.start tables session) :=
    fun _ member => (List.not_mem_nil member).elim
  exact
    foldl_iff_throughout
      (fun history request (holds : Undelivered history) =>
        holds.step request)
      (fun _ request holds isKept => kept_step_iff holds isKept request)
      (fun _ request holds lost => not_kept_step holds lost request)
      undelivered kept requests

/-- An import with a generated password, and then the download. -/
def importThenDownload : PasswordHistory sampleServices :=
  [PasswordRequest.importCsv sampleImport none,
      PasswordRequest.downloadImportedPasswords
        "2025-11-13_120000"].foldl
    (passwordStep (some 1)) (PasswordHistory.start sampleAccounts none)

/-- The generated password is neither in the session nor downloaded. -/
theorem generated_password_lost :
    importThenDownload.generated =
        [⟨"omar", "Omar", "aB3dE6gH9jK2"⟩] ∧
      importThenDownload.session = none ∧
      importThenDownload.delivered = [] ∧
      ¬ PasswordsKept importThenDownload := by
  have generated :
      importThenDownload.generated =
        [⟨"omar", "Omar", "aB3dE6gH9jK2"⟩] := by
    decide +kernel
  have session : importThenDownload.session = none := by
    decide +kernel
  have delivered : importThenDownload.delivered = [] := by
    decide +kernel
  refine ⟨generated, session, delivered, ?_⟩
  intro kept
  unfold PasswordsKept at kept
  rw [generated, session, delivered] at kept
  rcases kept _ List.mem_cons_self with inSession | ⟨_, member, _⟩
  · cases inSession
  · cases member

end SultanPass.UserController
