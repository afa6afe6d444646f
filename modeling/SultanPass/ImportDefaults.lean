import SultanPass.ImportAccounting
import SultanPass.Library.Trimming

/-!
# The documented defaults of an import

The import page says that the third column is an e-mail address, by default
`<username>@example.com`, and the fourth a password, by default a generated
one.  `importCsv` uses the defaults for columns that are missing.  A column
that is present but blank is stored as an empty text, so the second user
without an e-mail address is refused.
-/

namespace SultanPass.UserController

open SultanPass.Library
open SultanPass.AssessmentController (trim isEmptyText)

/-! ## Trimmed texts -/

/-- The characters that `trim` removes. -/
def isBlank (char : Char) : Bool :=
  [32, 10, 13, 9, 11, 0].contains char.toNat

theorem trim_eq (text : String) :
    trim text = String.ofList (withoutEnds isBlank text.toList) :=
  rfl

theorem trim_of_ends {text : String}
    (first : ∀ char ∈ text.toList.head?, isBlank char = false)
    (last : ∀ char ∈ text.toList.getLast?, isBlank char = false) :
    trim text = text := by
  rw [trim_eq, withoutEnds_of_ends first last, String.ofList_toList]

/-- A default address is not changed by `trim`. -/
theorem trim_defaultEmail (text : String) :
    trim (trim text ++ "@example.com") = trim text ++ "@example.com" := by
  apply trim_of_ends
  · intro char isFirst
    rw [String.toList_append, List.head?_append, trim_eq,
      String.toList_ofList] at isFirst
    cases begins : (withoutEnds isBlank text.toList).head? with
    | none =>
        rw [begins] at isFirst
        cases isFirst
        rfl
    | some other =>
        rw [begins] at isFirst
        cases isFirst
        exact head?_withoutEnds isBlank text.toList char begins
  · intro char isLast
    rw [String.toList_append, List.getLast?_append] at isLast
    cases isLast
    rfl

theorem isBlank_of_isAlphanum {char : Char}
    (alphanumeric : char.isAlphanum = true) : isBlank char = false := by
  cases blank : isBlank char with
  | false => rfl
  | true =>
      have listed : char.toNat ∈ [32, 10, 13, 9, 11, 0] :=
        List.contains_iff_mem.mp blank
      have others :
          ∀ code ∈ [32, 10, 13, 9, 11, 0],
            (Char.ofNat code).isAlphanum = false := by
        decide
      have excluded := others char.toNat listed
      rw [Char.ofNat_toNat, alphanumeric] at excluded
      cases excluded

/-- A random text is not changed by `trim`. -/
theorem trim_randomText {length : ℕ}
    (random : RandomText length) : trim random.text = random.text := by
  apply trim_of_ends
  · intro char isFirst
    exact
      isBlank_of_isAlphanum
        (random.alphanumeric char (List.mem_of_head? isFirst))
  · intro char isLast
    exact
      isBlank_of_isAlphanum
        (random.alphanumeric char (List.mem_of_getLast? isLast))

/-! ## Documented defaults -/

/-- The trimmed cell of a column; a missing or blank one has a default. -/
def ImportRow.columnOr (row : ImportRow) (column : ℕ)
    (default : String) : String :=
  let text := trim (row.cells[column]?.getD "")
  if text = "" then default else text

/-- The data of a row as the import page documents it. -/
def ImportRow.documentedData (row : ImportRow) : ImportData where
  userId := row.data.userId
  name := row.data.name
  email := row.columnOr 2 (row.data.userId ++ "@example.com")
  password := row.columnOr 3 row.generated.text

theorem data_email (row : ImportRow) :
    row.data.email =
      trim
        (row.cells[2]?.getD (row.data.userId ++ "@example.com")) := by
  simp only [ImportRow.data]

theorem data_password (row : ImportRow) :
    row.data.password =
      trim (row.cells[3]?.getD row.generated.text) := by
  simp only [ImportRow.data]

theorem documentedData_email (row : ImportRow) :
    row.documentedData.email =
      row.columnOr 2 (row.data.userId ++ "@example.com") := by
  simp only [ImportRow.documentedData]

theorem documentedData_password (row : ImportRow) :
    row.documentedData.password =
      row.columnOr 3 row.generated.text := by
  simp only [ImportRow.documentedData]

/-- A column that is missing or not blank. -/
def MissingOrFilled (row : ImportRow) (column : ℕ) : Prop :=
  ∀ cell ∈ row.cells[column]?, trim cell ≠ ""

instance (row : ImportRow) (column : ℕ) :
    Decidable (MissingOrFilled row column) :=
  inferInstanceAs (Decidable (∀ cell ∈ row.cells[column]?, _))

/-- A cell with a default that `trim` keeps. -/
theorem trim_getD_eq_columnOr_iff (row : ImportRow) (column : ℕ)
    {default : String} (kept : trim default = default)
    (nonempty : default ≠ "") :
    trim (row.cells[column]?.getD default) =
        row.columnOr column default ↔
      MissingOrFilled row column := by
  unfold ImportRow.columnOr MissingOrFilled
  cases row.cells[column]? with
  | none =>
      have blank : trim "" = "" := rfl
      simp [kept, blank]
  | some cell =>
      by_cases isBlank : trim cell = ""
      · simp [isBlank, nonempty.symm]
      · simp [isBlank]

theorem append_ne_empty (text : String) :
    text ++ "@example.com" ≠ "" := by
  intro empty
  have chars := congrArg String.toList empty
  rw [String.toList_append] at chars
  exact absurd (List.append_eq_nil_iff.mp chars).2 (by decide)

theorem randomText_ne_empty (random : RandomText 12) :
    random.text ≠ "" := by
  intro empty
  have length := random.hasLength
  rw [empty] at length
  cases length

theorem email_eq_iff (row : ImportRow) :
    row.data.email = row.documentedData.email ↔
      MissingOrFilled row 2 := by
  have kept :
      trim (row.data.userId ++ "@example.com") =
        row.data.userId ++ "@example.com" :=
    trim_defaultEmail (row.cells[0]?.getD "")
  rw [data_email, documentedData_email]
  exact trim_getD_eq_columnOr_iff row 2 kept (append_ne_empty _)

theorem password_eq_iff (row : ImportRow) :
    row.data.password = row.documentedData.password ↔
      MissingOrFilled row 3 := by
  rw [data_password, documentedData_password]
  exact
    trim_getD_eq_columnOr_iff row 3 (trim_randomText row.generated)
      (randomText_ne_empty row.generated)

theorem data_eq_of_columns {row : ImportRow}
    (email : row.data.email = row.documentedData.email)
    (password : row.data.password = row.documentedData.password) :
    row.data = row.documentedData := by
  have columns :
      row.documentedData =
        ImportData.mk row.data.userId row.data.name
          row.documentedData.email row.documentedData.password := by
    simp only [ImportRow.documentedData]
  rw [columns, ← email, ← password]

theorem columnOr_ne_empty (row : ImportRow) (column : ℕ)
    {default : String} (nonempty : default ≠ "") :
    row.columnOr column default ≠ "" := by
  unfold ImportRow.columnOr
  dsimp only
  split_ifs with isBlank
  · exact nonempty
  · exact isBlank

theorem documentedData_email_ne_empty (row : ImportRow) :
    row.documentedData.email ≠ "" := by
  rw [documentedData_email]
  exact columnOr_ne_empty row 2 (append_ne_empty row.data.userId)

theorem documentedData_password_ne_empty (row : ImportRow) :
    row.documentedData.password ≠ "" := by
  rw [documentedData_password]
  exact columnOr_ne_empty row 3 (randomText_ne_empty row.generated)

/-! ## Rows that are treated as documented -/

section Rows

variable {services : Services}

/--
A row has the outcome that its documented data would have, and is stored
with these data when it is imported.
-/
def RowHonoured (users : UsersTable services) (row : ImportRow) : Prop :=
  rowOutcome users row row.data =
      rowOutcome users row row.documentedData ∧
    (rowOutcome users row row.data = .imported →
      row.data = row.documentedData)

instance (users : UsersTable services) (row : ImportRow) :
    Decidable (RowHonoured users row) :=
  inferInstanceAs (Decidable (_ ∧ (_ → _)))

/-- A row of at least two columns with a new user id. -/
def Considered (users : UsersTable services) (row : ImportRow) : Prop :=
  2 ≤ row.cells.length ∧ isEmptyText row.data.userId = false ∧
    ¬ UsersTable.UsernameTaken users row.data.userId none

/--
The third column of a considered row is missing or filled, and so is the
fourth unless the e-mail is taken.
-/
def ColumnsFilled (users : UsersTable services) (row : ImportRow) :
    Prop :=
  Considered users row →
    MissingOrFilled row 2 ∧
      (¬ UsersTable.EmailTaken users row.data.email none →
        MissingOrFilled row 3)

/-- What becomes of a considered row is decided by its e-mail. -/
theorem rowOutcome_of_considered
    {users : UsersTable services} {row : ImportRow}
    (considered : Considered users row) (data : ImportData)
    (sameId : data.userId = row.data.userId) :
    rowOutcome users row data =
      if UsersTable.EmailTaken users data.email none then
        .skipped (emailExists data)
      else .imported := by
  rcases considered with ⟨long, present, free⟩
  rw [← sameId] at present free
  rw [rowOutcome, if_neg (Nat.not_lt_of_le long), refusal,
    if_neg (by simp [present]), if_neg free]
  split_ifs <;> rfl

theorem rowOutcome_of_not_considered
    {users : UsersTable services} {row : ImportRow}
    (notConsidered : ¬ Considered users row) (data : ImportData)
    (sameId : data.userId = row.data.userId) :
    rowOutcome users row data = rowOutcome users row row.data ∧
      rowOutcome users row row.data ≠ .imported := by
  unfold rowOutcome refusal usernameExists
  rw [sameId]
  split_ifs with short empty taken
  · exact ⟨rfl, by simp⟩
  · exact ⟨rfl, by simp⟩
  · exact ⟨rfl, by simp⟩
  all_goals
    exact
      (notConsidered
        ⟨Nat.le_of_not_lt short, by simpa using empty, taken⟩).elim

theorem emailExists_injective {left right : ImportData}
    (same : emailExists left = emailExists right) :
    left.email = right.email := by
  have chars := congrArg String.toList same
  simp only [emailExists, String.toList_append] at chars
  exact String.toList_inj.mp (by simpa using chars)

/-- A row is honoured exactly when its columns are missing or filled. -/
theorem rowHonoured_iff (users : UsersTable services)
    (row : ImportRow) :
    RowHonoured users row ↔ ColumnsFilled users row := by
  unfold RowHonoured ColumnsFilled
  by_cases considered : Considered users row
  · rw [rowOutcome_of_considered considered row.data rfl,
      rowOutcome_of_considered considered row.documentedData rfl]
    constructor
    · rintro ⟨sameOutcome, storesDocumented⟩ _
      by_cases taken : UsersTable.EmailTaken users row.data.email none
      · rw [if_pos taken] at sameOutcome
        refine ⟨?_, fun free => (free taken).elim⟩
        split_ifs at sameOutcome
        exact
          (email_eq_iff row).mp
            (emailExists_injective (RowOutcome.skipped.inj sameOutcome))
      · rw [if_neg taken] at storesDocumented
        have same := storesDocumented rfl
        exact
          ⟨(email_eq_iff row).mp (congrArg ImportData.email same),
            fun _ =>
              (password_eq_iff row).mp
                (congrArg ImportData.password same)⟩
    · intro filled
      rcases filled considered with ⟨third, fourth⟩
      have sameEmail := (email_eq_iff row).mpr third
      have sameError :
          emailExists row.data = emailExists row.documentedData := by
        rw [emailExists, emailExists, sameEmail]
      rw [← sameEmail, ← sameError]
      refine ⟨rfl, ?_⟩
      intro isImported
      split_ifs at isImported with taken
      have samePassword := (password_eq_iff row).mpr (fourth taken)
      exact data_eq_of_columns sameEmail samePassword
  · rcases
        rowOutcome_of_not_considered considered row.documentedData
          rfl with
      ⟨same, notImported⟩
    constructor
    · intro _ isConsidered
      exact (considered isConsidered).elim
    · intro _
      exact ⟨same.symm, fun isImported => (notImported isImported).elim⟩

/-- A considered row without an e-mail needs its default one only. -/
def ImportedByDefault (users : UsersTable services) (row : ImportRow) :
    Prop :=
  Considered users row → trim (row.cells[2]?.getD "") = "" →
    ¬ UsersTable.EmailTaken users
        (row.data.userId ++ "@example.com") none →
      rowOutcome users row row.data = .imported

theorem importedByDefault_of_rowHonoured
    {users : UsersTable services} {row : ImportRow}
    (honoured : RowHonoured users row) :
    ImportedByDefault users row := by
  intro considered blank free
  have email :
      row.documentedData.email = row.data.userId ++ "@example.com" := by
    rw [documentedData_email]
    unfold ImportRow.columnOr
    exact if_pos blank
  rw [honoured.1,
    rowOutcome_of_considered considered row.documentedData rfl,
    email, if_neg free]

/-! ## Files -/

/-- Every row that the import reaches is treated as documented. -/
def HonoursDefaults (role : Role) (status : UserStatus)
    (users : UsersTable services) (rows : List ImportRow) : Prop :=
  EachIteration (importRow role status)
    (fun progress row => RowHonoured progress.users row)
    (ImportProgress.start users) rows

/-- Every row that the import reaches has missing or filled columns. -/
def AllColumnsFilled (role : Role) (status : UserStatus)
    (users : UsersTable services) (rows : List ImportRow) : Prop :=
  EachIteration (importRow role status)
    (fun progress row => ColumnsFilled progress.users row)
    (ImportProgress.start users) rows

/-- It is enough that no row has a blank third or fourth column. -/
theorem allColumnsFilled_of_forall (role : Role) (status : UserStatus)
    (users : UsersTable services) {rows : List ImportRow}
    (all :
      ∀ row ∈ rows, MissingOrFilled row 2 ∧ MissingOrFilled row 3) :
    AllColumnsFilled role status users rows :=
  eachIteration_of_forall
    (fun row member _ _ => ⟨(all row member).1, fun _ =>
      (all row member).2⟩)
    _

/-- No new user is without an e-mail or without a password. -/
structure NothingEmpty (initial : UsersTable services)
    (progress : ImportProgress services) : Prop where
  emails :
    ∀ user ∈ progress.users.rows,
      user ∈ initial.rows ∨ user.email ≠ ""
  passwords : ∀ entry ∈ progress.passwords, entry.password ≠ ""

theorem NothingEmpty.importRow
    {initial : UsersTable services} {role : Role} {status : UserStatus}
    {progress after : ImportProgress services}
    (nothing : NothingEmpty initial progress) {row : ImportRow}
    (honoured : RowHonoured progress.users row)
    (returns : importRow role status progress row = .ok after) :
    NothingEmpty initial after := by
  have continues := continues_of_importRow returns
  cases outcome : rowOutcome progress.users row row.data with
  | ignored =>
      rw [outcome] at continues
      have same : after = progress := continues
      rw [same]
      exact nothing
  | skipped error =>
      rw [outcome] at continues
      have skips : after = progress.skip error := continues
      rw [skips]
      exact ⟨nothing.emails, nothing.passwords⟩
  | imported =>
      rw [outcome] at continues
      rcases continues with
        ⟨⟨user, rows, id, stored⟩, _, _, passwords⟩
      have documented := honoured.2 outcome
      constructor
      · intro other member
        rw [rows] at member
        rcases List.mem_append.mp member with old | new
        · exact nothing.emails other old
        · right
          rw [List.mem_singleton.mp new, stored]
          change row.data.email ≠ ""
          rw [congrArg ImportData.email documented]
          exact documentedData_email_ne_empty row
      · intro entry member
        rw [passwords] at member
        rcases List.mem_append.mp member with old | new
        · exact nothing.passwords entry old
        · rw [List.mem_singleton.mp new]
          change row.data.password ≠ ""
          rw [congrArg ImportData.password documented]
          exact documentedData_password_ne_empty row

/--
A committed import honours the documented defaults exactly when no row that
would be imported has a blank column.  Then no new user is without an e-mail
or without a password, and rows without an e-mail do not exclude each other.
-/
theorem import_honours_defaults_iff
    (role : Role) (status : UserStatus) (commitException : Option String)
    (rows : List ImportRow) (users : UsersTable services)
    (progress : ImportProgress services)
    (commits :
      importRows role status commitException rows users =
        .ok progress) :
    (HonoursDefaults role status users rows ↔
        AllColumnsFilled role status users rows) ∧
      (HonoursDefaults role status users rows →
        NothingEmpty users progress ∧
          EachIteration (importRow role status)
            (fun reached row => ImportedByDefault reached.users row)
            (ImportProgress.start users) rows) := by
  constructor
  · unfold HonoursDefaults AllColumnsFilled
    apply eachIteration_congr
    intro reached row
    exact rowHonoured_iff reached.users row
  · intro honours
    rcases (importRows_eq_ok_iff _ _ _ _ _ _).mp commits with
      ⟨returns, _⟩
    constructor
    · exact
        foldlM_invariant_of_each
          (fun row reached after nothing honoured stepped =>
            nothing.importRow honoured stepped)
          returns honours
          { emails := fun _ member => Or.inl member
            passwords := nofun }
    · apply EachIteration.imp _ honours
      intro reached row honoured
      exact importedByDefault_of_rowHonoured honoured

end Rows

/-- Rows as on the import page, with blank or filled columns. -/
def pageRows (cells : List (List String)) : List ImportRow :=
  cells.map fun row =>
    { cells := row
      generated := sampleRandomText
      salt := 7
      exception := fun _ => none }

theorem missingColumns_of_pair (row : ImportRow)
    (pair : row.cells.length = 2) :
    MissingOrFilled row 2 ∧ MissingOrFilled row 3 := by
  unfold MissingOrFilled
  rw [List.getElem?_eq_none (Nat.le_of_eq pair),
    List.getElem?_eq_none (Nat.le_succ_of_le (Nat.le_of_eq pair))]
  constructor
  · intro cell member
    cases member
  · intro cell member
    cases member

/-- What a committed import shows of its users and accumulators. -/
def importedColumns (rows : List ImportRow) :
    Option
      (List (String × String) × List String × List ImportedPassword) :=
  (importRows .participant .active none rows
      sampleAccounts.users).toOption.map fun progress =>
    ((progress.users.rows.drop 2).map fun user =>
        (user.username, user.email),
      progress.errors, progress.passwords)

/-- Missing columns get their defaults. -/
theorem import_honours_defaults_missing :
    ∃ progress,
      importRows .participant .active none
            (pageRows [["a01", "Ali"], ["a02", "Sara"]])
            sampleAccounts.users = .ok progress ∧
        NothingEmpty sampleAccounts.users progress := by
  cases imports :
      importRows .participant .active none
        (pageRows [["a01", "Ali"], ["a02", "Sara"]])
        sampleAccounts.users with
  | error message =>
      have columns :
          (importedColumns
              (pageRows [["a01", "Ali"], ["a02", "Sara"]])).isSome := by
        decide +kernel
      rw [importedColumns, imports] at columns
      cases columns
  | ok progress =>
      have exact :=
        import_honours_defaults_iff .participant .active none _ _
          progress imports
      refine ⟨progress, rfl, (exact.2 (exact.1.mpr ?_)).1⟩
      apply allColumnsFilled_of_forall
      intro row member
      rcases List.mem_map.mp member with ⟨cells, listed, rfl⟩
      rcases List.mem_pair.mp listed with rfl | rfl
      · exact missingColumns_of_pair _ rfl
      · exact missingColumns_of_pair _ rfl

/--
Blank columns are stored: the first user has neither an e-mail nor a
password, and the second is refused.
-/
theorem import_stores_blank_columns :
    importedColumns
          (pageRows [["a01", "Ali", "", ""], ["a02", "Sara", "", ""]]) =
        some
          ([("a01", "")], ["Email  already exists"],
            [⟨"a01", "Ali", ""⟩]) ∧
      ¬ HonoursDefaults .participant .active sampleAccounts.users
          (pageRows
            [["a01", "Ali", "", ""], ["a02", "Sara", "", ""]]) := by
  constructor
  · decide +kernel
  · rintro ⟨honoured, _⟩
    exact absurd honoured (by decide +kernel)

end SultanPass.UserController
