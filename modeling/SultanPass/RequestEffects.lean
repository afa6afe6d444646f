import SultanPass.RequestHandlers
import SultanPass.ScoreTotals

/-!
# The effect of each request on the database

For each handler the list of statements that it leaves committed when it runs
alone, and the lookups of the tables after one statement.  Later modules work
with these lists and lookups, and do not unfold the handlers again.
-/

namespace SultanPass

open SultanPass.Library

/-! ## Participation rows -/

namespace Database

/-- The statement that `updateOrInsert` chooses. -/
def upsertStatement (database : Database) (pair : Pair)
    (columns : ParticipationColumns) : Statement :=
  if (database.participation? pair).isSome then
    .updateParticipant pair columns
  else
    .insertParticipant pair columns

/-- The rows after `updateOrInsert`. -/
def upsertParticipation (database : Database) (pair : Pair)
    (columns : ParticipationColumns) : Database :=
  Statement.perform (database.upsertStatement pair columns) database

@[simp]
theorem participantResponses_upsertParticipation
    (database : Database) (pair : Pair)
    (columns : ParticipationColumns) :
    (database.upsertParticipation pair columns).participantResponses =
      database.participantResponses := by
  rw [upsertParticipation, upsertStatement]
  split_ifs <;> rfl

/-- The row of the pair afterwards. -/
theorem participation?_upsertParticipation_self
    (database : Database) (pair : Pair)
    (columns : ParticipationColumns) :
    (database.upsertParticipation pair columns).participation? pair =
      some
        (match database.participation? pair with
        | some row => columns.fill row
        | none => columns.newRow pair) := by
  rw [upsertParticipation, upsertStatement]
  cases found : database.participation? pair with
  | none =>
      change
        (database.assessmentParticipants ++
          [columns.newRow pair]).find? _ = _
      rw [List.find?_append]
      have absent :
          database.assessmentParticipants.find?
            (fun row => decide (row.pair = pair)) = none := found
      simp [absent]
  | some row =>
      change
        (updateFirst (fun row => decide (row.pair = pair)) columns.fill
          database.assessmentParticipants).find? _ = _
      rw [find?_updateFirst]
      · have present :
            database.assessmentParticipants.find?
              (fun row => decide (row.pair = pair)) = some row := found
        rw [present]
        rfl
      · intro other
        rfl

/-- The rows of other pairs are untouched. -/
theorem participation?_upsertParticipation_of_ne
    (database : Database) {pair other : Pair}
    (columns : ParticipationColumns) (different : other ≠ pair) :
    (database.upsertParticipation pair columns).participation? other =
      database.participation? other := by
  rw [upsertParticipation, upsertStatement]
  split_ifs with found
  · apply find?_updateFirst_of_disjoint
    · intro row
      rfl
    · intro row isMatch
      have rowPair : row.pair = pair := by simpa using isMatch
      simp [rowPair, Ne.symm different]
  · change
      (database.assessmentParticipants ++
        [columns.newRow pair]).find? _ = _
    rw [List.find?_append]
    simp [participation?, Ne.symm different]

/-- Rows chosen by their pair, when the written pair is not chosen. -/
theorem filter_upsertParticipation
    (database : Database) {pair : Pair}
    (columns : ParticipationColumns) {keep : Pair → Bool}
    (excluded : keep pair = false) :
    (database.upsertParticipation pair
        columns).assessmentParticipants.filter
        (fun row => keep row.pair) =
      database.assessmentParticipants.filter
        fun row => keep row.pair := by
  rw [upsertParticipation, upsertStatement]
  split_ifs
  · apply filter_updateFirst_of_excluded
    intro row isMatch
    have rowPair : row.pair = pair := of_decide_eq_true isMatch
    rw [ParticipationColumns.pair_fill, rowPair]
    exact ⟨excluded, excluded⟩
  · change
      (database.assessmentParticipants ++
        [columns.newRow pair]).filter _ = _
    rw [List.filter_append]
    simp [excluded]

/-- The submitted rows of the pair. -/
theorem participation?_updateParticipants
    (database : Database) (pair other : Pair)
    (columns : ParticipationColumns) :
    (Statement.perform (.updateParticipants pair columns)
        database).participation? other =
      (database.participation? other).map fun row =>
        if other = pair then columns.fill row else row := by
  simp only [Statement.perform, participation?, List.find?_map,
    Function.comp_def]
  have same :
      (fun row : AssessmentParticipant => decide
          ((if row.pair = pair then columns.fill row
            else row).pair = other)) =
        fun row => decide (row.pair = other) := by
    funext row
    by_cases found : row.pair = pair <;> simp [found]
  rw [same]
  cases found : database.assessmentParticipants.find?
      fun row => decide (row.pair = other) with
  | none => rfl
  | some row =>
      have rowPair : row.pair = other := by
        simpa using List.find?_some found
      simp [rowPair]

end Database

/-- The participation columns that a statement writes, with their pair. -/
def Statement.participationColumns? :
    Statement → Option (Pair × ParticipationColumns)
  | .insertParticipant pair columns => some (pair, columns)
  | .updateParticipant pair columns => some (pair, columns)
  | .updateParticipants pair columns => some (pair, columns)
  | _ => none

@[simp]
theorem AssessmentParticipant.pair_fixOldScale
    (updatedAt : Timestamp) (row : AssessmentParticipant) :
    (row.fixOldScale updatedAt).pair = row.pair := by
  rw [fixOldScale]
  split
  · rfl
  · split_ifs <;> rfl

@[simp]
theorem AssessmentParticipant.status_fixOldScale
    (updatedAt : Timestamp) (row : AssessmentParticipant) :
    (row.fixOldScale updatedAt).status = row.status := by
  rw [fixOldScale]
  split
  · rfl
  · split_ifs <;> rfl

namespace Database

@[simp]
theorem participationColumns?_upsertStatement
    (database : Database) (pair : Pair)
    (columns : ParticipationColumns) :
    (database.upsertStatement pair columns).participationColumns? =
      some (pair, columns) := by
  rw [upsertStatement]
  split_ifs <;> rfl

/-- A statement keeps the rows in place and sets statuses as it says. -/
theorem getElem?_perform
    (statement : Statement) (database : Database) (index : ℕ)
    (row : AssessmentParticipant)
    (present : database.assessmentParticipants[index]? = some row) :
    ∃ after,
      (statement.perform database).assessmentParticipants[index]? =
          some after ∧
        after.pair = row.pair ∧
        (after.status = row.status ∨
          ∃ columns,
            statement.participationColumns? =
                some (row.pair, columns) ∧
              after.status = columns.status) := by
  cases statement with
  | saveAnswer key columns => exact ⟨row, present, rfl, Or.inl rfl⟩
  | saveGrade key columns => exact ⟨row, present, rfl, Or.inl rfl⟩
  | insertParticipant pair columns =>
      refine ⟨row, ?_, rfl, Or.inl rfl⟩
      have bound : index < database.assessmentParticipants.length :=
        (List.getElem?_eq_some_iff.mp present).1
      change
        (database.assessmentParticipants ++ [_])[index]? = some row
      rw [List.getElem?_append_left bound, present]
  | updateParticipant pair columns =>
      rcases getElem?_updateFirst
          (fun other : AssessmentParticipant => decide
            (other.pair = pair)) columns.fill
          database.assessmentParticipants index row present with
        unchanged | ⟨isMatch, updated⟩
      · exact ⟨row, unchanged, rfl, Or.inl rfl⟩
      · have samePair : row.pair = pair := by simpa using isMatch
        exact
          ⟨columns.fill row, updated, rfl,
            Or.inr ⟨columns, by rw [samePair]; rfl, rfl⟩⟩
  | updateParticipants pair columns =>
      by_cases samePair : row.pair = pair
      · exact
          ⟨columns.fill row,
            by simp [Statement.perform, present, samePair], rfl,
            Or.inr ⟨columns, by rw [samePair]; rfl, rfl⟩⟩
      · exact
          ⟨row, by simp [Statement.perform, present, samePair], rfl,
            Or.inl rfl⟩
  | fixOldScaleScores updatedAt =>
      exact
        ⟨row.fixOldScale updatedAt,
          by simp [Statement.perform, present],
          row.pair_fixOldScale updatedAt,
          Or.inl (row.status_fixOldScale updatedAt)⟩

/-- The same for a list of statements. -/
theorem getElem?_performAll
    (statements : List Statement) (database : Database) (index : ℕ)
    (row : AssessmentParticipant)
    (present : database.assessmentParticipants[index]? = some row) :
    ∃ after,
      (Program.performAll statements
          database).assessmentParticipants[index]? = some after ∧
        after.pair = row.pair ∧
        (after.status = row.status ∨
          ∃ statement ∈ statements, ∃ columns,
            statement.participationColumns? =
                some (row.pair, columns) ∧
              after.status = columns.status) := by
  induction statements generalizing database row with
  | nil => exact ⟨row, present, rfl, Or.inl rfl⟩
  | cons statement rest induction =>
      rcases getElem?_perform statement database index row present with
        ⟨next, nextPresent, nextPair, nextStatus⟩
      rcases induction _ next nextPresent with
        ⟨after, afterPresent, afterPair, afterStatus⟩
      rw [nextPair] at afterPair afterStatus
      refine ⟨after, afterPresent, afterPair, ?_⟩
      rcases afterStatus with
        unchanged | ⟨other, member, columns, writes, written⟩
      · rw [unchanged]
        rcases nextStatus with same | ⟨columns, writes, written⟩
        · exact Or.inl same
        · exact
            Or.inr
              ⟨statement, List.mem_cons_self, columns, writes,
                written⟩
      · exact
          Or.inr
            ⟨other, List.mem_cons_of_mem _ member, columns, writes,
              written⟩

/-! ## Response rows -/

/-- The responses of a pair are those of its rows under any key. -/
theorem mem_responsesOf_iff
    (database : Database) (pair : Pair)
    (response : ParticipantResponse) :
    response ∈ database.responsesOf pair ↔
      response ∈ database.participantResponses.rows ∧
        response.pair = pair := by
  simp [responsesOf]

theorem response?_eq_some_iff
    (database : Database) (key : ResponseKey)
    (response : ParticipantResponse) :
    database.response? key = some response ↔
      response ∈ database.participantResponses.rows ∧
        response.key = key :=
  KeyedTable.find?_eq_some_iff _ _ _

/-- The saved response: the old row, or a new one, with the answer set. -/
@[simp]
theorem response?_saveAnswer_self
    (database : Database) (key : ResponseKey)
    (columns : AnswerColumns) :
    (database.saveAnswer key columns).response? key =
      some
        (columns.fill
          ((database.response? key).getD
            (ParticipantResponse.blank key))) := by
  simp only [saveAnswer, response?, KeyedTable.find?_modify_self]
  cases found : database.participantResponses.find? key with
  | none =>
      have inserted :=
        KeyedTable.find?_insert_self database.participantResponses
          (ParticipantResponse.blank key) found
      rw [ParticipantResponse.key_blank] at inserted
      rw [inserted]
      rfl
  | some response =>
      have taken :
          (ParticipantResponse.blank key).key ∈
            database.participantResponses.rows.map
              ParticipantResponse.key := by
        by_contra absent
        rw [ParticipantResponse.key_blank,
          ← KeyedTable.find?_eq_none_iff, found] at absent
        cases absent
      simp only [KeyedTable.insert, taken, dif_pos, found]
      rfl

theorem response?_saveAnswer_of_ne
    (database : Database) {key other : ResponseKey}
    (columns : AnswerColumns) (different : other ≠ key) :
    (database.saveAnswer key columns).response? other =
      database.response? other := by
  simp only [saveAnswer, response?]
  rw [KeyedTable.find?_modify_of_ne _ _ _ different]
  exact KeyedTable.find?_insert_of_ne _ _ different

@[simp]
theorem response?_saveGrade_self
    (database : Database) (key : ResponseKey)
    (columns : GradeColumns) :
    (database.saveGrade key columns).response? key =
      (database.response? key).map columns.fill :=
  KeyedTable.find?_modify_self _ _ _ columns.key_fill

theorem response?_saveGrade_of_ne
    (database : Database) {key other : ResponseKey}
    (columns : GradeColumns) (different : other ≠ key) :
    (database.saveGrade key columns).response? other =
      database.response? other :=
  KeyedTable.find?_modify_of_ne _ _ columns.key_fill different

theorem responsesOf_saveAnswer_of_ne
    (database : Database) (key : ResponseKey)
    (columns : AnswerColumns) {pair : Pair}
    (different : key.1 ≠ pair) :
    (database.saveAnswer key columns).responsesOf pair =
      database.responsesOf pair := by
  have excluded :
      (fun other : ResponseKey => decide (other.1 = pair)) key =
        false := by
    simpa using different
  exact
    (KeyedTable.filter_modify_of_ne _ key columns.fill
        columns.key_fill
        (fun other : ResponseKey => decide (other.1 = pair))
        excluded).trans
      (KeyedTable.filter_insert_of_excluded _ _
        (fun other : ResponseKey => decide (other.1 = pair))
        excluded)

theorem responsesOf_saveGrade_of_ne
    (database : Database) (key : ResponseKey)
    (columns : GradeColumns) {pair : Pair}
    (different : key.1 ≠ pair) :
    (database.saveGrade key columns).responsesOf pair =
      database.responsesOf pair :=
  KeyedTable.filter_modify_of_ne _ key columns.fill
    columns.key_fill
    (fun other : ResponseKey => decide (other.1 = pair))
    (by simpa using different)

/-- The row and the responses of a pair are as they were. -/
structure Untouched (pair : Pair) (before after : Database) : Prop where
  sameRow : after.participation? pair = before.participation? pair
  sameResponses : after.responsesOf pair = before.responsesOf pair

theorem Untouched.refl (pair : Pair) (database : Database) :
    Untouched pair database database where
  sameRow := rfl
  sameResponses := rfl

theorem Untouched.trans
    {pair : Pair} {first second third : Database}
    (before : Untouched pair first second)
    (after : Untouched pair second third) :
    Untouched pair first third where
  sameRow := after.sameRow.trans before.sameRow
  sameResponses := after.sameResponses.trans before.sameResponses

theorem untouched_upsertParticipation
    (database : Database) {pair other : Pair}
    (columns : ParticipationColumns) (different : pair ≠ other) :
    Untouched pair database
      (database.upsertParticipation other columns) where
  sameRow :=
    participation?_upsertParticipation_of_ne database columns different
  sameResponses := by
    rw [responsesOf, participantResponses_upsertParticipation]
    rfl

theorem untouched_updateParticipants
    (database : Database) {pair other : Pair}
    (columns : ParticipationColumns) (different : pair ≠ other) :
    Untouched pair database
      (Statement.perform (.updateParticipants other columns)
        database) where
  sameRow := by
    rw [participation?_updateParticipants]
    simp only [if_neg different, Option.map_id']
  sameResponses := rfl

theorem untouched_saveAnswer
    (database : Database) (key : ResponseKey)
    (columns : AnswerColumns) {pair : Pair}
    (different : pair ≠ key.1) :
    Untouched pair database (database.saveAnswer key columns) where
  sameRow := rfl
  sameResponses :=
    responsesOf_saveAnswer_of_ne database key columns different.symm

theorem untouched_saveGrade
    (database : Database) (key : ResponseKey)
    (columns : GradeColumns) {pair : Pair}
    (different : pair ≠ key.1) :
    Untouched pair database (database.saveGrade key columns) where
  sameRow := rfl
  sameResponses :=
    responsesOf_saveGrade_of_ne database key columns different.symm

/-- Selecting a pair commutes with an update that keeps the keys. -/
theorem filter_pair_map
    (rows : List ParticipantResponse) (pair : Pair)
    (update : ParticipantResponse → ParticipantResponse)
    (keeps : ∀ response, (update response).key = response.key) :
    (rows.map update).filter (fun response => response.pair = pair) =
      (rows.filter fun response => response.pair = pair).map
        update := by
  rw [List.filter_map]
  congr 1
  apply List.filter_congr
  intro response _
  have samePair : (update response).pair = response.pair :=
    congrArg Prod.fst (keeps response)
  simp [samePair]

/-- Grading rewrites the responses of the pair in place. -/
theorem responsesOf_saveGrade
    (database : Database) (key : ResponseKey)
    (columns : GradeColumns) (pair : Pair) :
    (database.saveGrade key columns).responsesOf pair =
      (database.responsesOf pair).map fun response =>
        if response.key = key then columns.fill response
        else response := by
  apply filter_pair_map
  intro response
  split_ifs <;> simp

/-- Saving an existing answer rewrites it in place. -/
theorem responsesOf_saveAnswer_of_existing
    (database : Database) (key : ResponseKey)
    (columns : AnswerColumns) (pair : Pair)
    {response : ParticipantResponse}
    (found : database.response? key = some response) :
    (database.saveAnswer key columns).responsesOf pair =
      (database.responsesOf pair).map fun other =>
        if other.key = key then columns.fill other else other := by
  have taken :
      (ParticipantResponse.blank key).key ∈
        database.participantResponses.rows.map
          ParticipantResponse.key := by
    rcases (response?_eq_some_iff _ _ _).mp found with
      ⟨member, equal⟩
    exact List.mem_map.mpr ⟨response, member, equal⟩
  have inserted :
      database.participantResponses.insert
          (ParticipantResponse.blank key) =
        database.participantResponses := by
    rw [KeyedTable.insert, dif_pos taken]
  simp only [saveAnswer, inserted]
  apply filter_pair_map
  intro other
  split_ifs <;> simp

/-- Saving a new answer appends its row. -/
theorem responsesOf_saveAnswer_of_new
    (database : Database) (key : ResponseKey)
    (columns : AnswerColumns)
    (new : database.response? key = none) :
    (database.saveAnswer key columns).responsesOf key.1 =
      database.responsesOf key.1 ++
        [columns.fill (ParticipantResponse.blank key)] := by
  have absent :
      key ∉ database.participantResponses.rows.map
        ParticipantResponse.key :=
    (KeyedTable.find?_eq_none_iff _ _).mp new
  have inserted :
      (database.participantResponses.insert
          (ParticipantResponse.blank key)).rows =
        database.participantResponses.rows ++
          [ParticipantResponse.blank key] :=
    KeyedTable.rows_insert_of_new _ _ new
  have unchanged :
      database.participantResponses.rows.map
          (fun other =>
            if other.key = key then columns.fill other else other) =
        database.participantResponses.rows := by
    conv_rhs =>
      rw [← List.map_id database.participantResponses.rows]
    apply List.map_congr_left
    intro other member
    have otherKey : other.key ≠ key := by
      rintro equal
      exact absent (List.mem_map.mpr ⟨other, member, equal⟩)
    simp [otherKey]
  have filledPair :
      (columns.fill (ParticipantResponse.blank key)).pair =
        key.1 :=
    congrArg Prod.fst (columns.key_fill _)
  simp only [responsesOf, saveAnswer, KeyedTable.modify, inserted,
    List.map_append, unchanged, List.filter_append,
    List.map_singleton, ParticipantResponse.key_blank, if_true]
  simp [filledPair]

end Database

/-! ## `AssessmentScoreService` -/

namespace AssessmentScoreService

theorem plain_updateOrInsert
    (pair : Pair) (columns : ParticipationColumns) :
    (updateOrInsert pair columns).Plain := by
  intro database
  change Program.Plain (if _ then _ else _)
  split_ifs <;> exact True.intro

theorem issued_updateOrInsert
    (pair : Pair) (columns : ParticipationColumns)
    (database : Database) :
    (updateOrInsert pair columns).issued database =
      (.ok (), [database.upsertStatement pair columns]) := by
  rw [updateOrInsert, Program.bind_eq, Program.issued_bind,
    Program.issued_query, Database.upsertStatement]
  simp only [Program.performAll_nil]
  split_ifs <;> rfl

/-- The statement of `calculateAndUpdateScore`, none for a null score. -/
def rescoreStatements (catalogue : Catalogue) (now : Timestamp)
    (assessment : Assessment) (participant : UserId)
    (database : Database) : List Statement :=
  match calculateScore catalogue database assessment participant with
  | .ok (some score) =>
      [database.upsertStatement ⟨assessment.id, participant⟩
        { score := some score
          status :=
            determineStatus catalogue database assessment participant
          updatedAt := now }]
  | _ => []

/-- The database after `calculateAndUpdateScore`. -/
def rescore (catalogue : Catalogue) (now : Timestamp)
    (assessment : Assessment) (participant : UserId)
    (database : Database) : Database :=
  Program.performAll
    (rescoreStatements catalogue now assessment participant database)
    database

/-- A recalculation writes the row of its pair, or nothing at all. -/
theorem rescoreStatements_cases
    (catalogue : Catalogue) (now : Timestamp)
    (assessment : Assessment) (participant : UserId)
    (database : Database) :
    (∃ score,
        calculateScore catalogue database assessment participant =
            .ok (some score) ∧
          rescoreStatements catalogue now assessment participant
              database =
            [database.upsertStatement ⟨assessment.id, participant⟩
              { score := some score
                status :=
                  determineStatus catalogue database assessment
                    participant
                updatedAt := now }]) ∨
      ((∀ score,
          calculateScore catalogue database assessment participant ≠
            .ok (some score)) ∧
        rescoreStatements catalogue now assessment participant
          database = []) := by
  rw [rescoreStatements]
  split
  · rename_i score computed
    exact Or.inl ⟨score, computed, rfl⟩
  · rename_i noScore
    exact Or.inr ⟨noScore, rfl⟩

theorem plain_calculateAndUpdateScore
    (catalogue : Catalogue) (now : Timestamp)
    (assessment : Assessment) (participant : UserId) :
    (calculateAndUpdateScore catalogue now assessment
      participant).Plain := by
  apply Program.Plain.bind (Program.plain_query _)
  intro computed
  apply Program.Plain.bind (Program.plain_ofExcept _)
  intro score
  cases score with
  | none => exact True.intro
  | some score =>
      apply Program.Plain.bind (Program.plain_query _)
      intro status
      apply Program.Plain.bind (plain_updateOrInsert _ _)
      intro _
      exact True.intro

theorem issued_calculateAndUpdateScore
    (catalogue : Catalogue) (now : Timestamp)
    (assessment : Assessment) (participant : UserId)
    (database : Database) :
    (calculateAndUpdateScore catalogue now assessment
        participant).issued database =
      (calculateScore catalogue database assessment participant,
        rescoreStatements catalogue now assessment participant
          database) := by
  simp only [calculateAndUpdateScore, rescoreStatements,
    Program.bind_eq, Program.issued_bind, Program.issued_query,
    Program.issued_ofExcept, Program.performAll_nil, List.nil_append]
  cases calculateScore catalogue database assessment participant with
  | error error => rfl
  | ok score =>
      cases score with
      | none => rfl
      | some score =>
          simp only [Program.issued_bind, Program.issued_query,
            Program.performAll_nil, issued_updateOrInsert]
          rfl

/-- A recalculation writes the score and status that it has computed. -/
theorem participationColumns?_of_mem_rescoreStatements
    {catalogue : Catalogue} {now : Timestamp}
    {assessment : Assessment} {participant : UserId}
    {database : Database} {statement : Statement}
    (member :
      statement ∈
        rescoreStatements catalogue now assessment participant
          database) :
    ∃ score,
      calculateScore catalogue database assessment participant =
          .ok (some score) ∧
        statement.participationColumns? =
          some
            (⟨assessment.id, participant⟩,
              { score := some score
                status :=
                  determineStatus catalogue database assessment
                    participant
                updatedAt := now }) := by
  rcases rescoreStatements_cases catalogue now assessment participant
      database with ⟨score, computed, single⟩ | ⟨_, none⟩
  · rw [single, List.mem_singleton] at member
    subst member
    exact
      ⟨score, computed,
        Database.participationColumns?_upsertStatement _ _ _⟩
  · rw [none] at member
    cases member

theorem rescore_of_ok_some
    (catalogue : Catalogue) (now : Timestamp)
    {assessment : Assessment} {participant : UserId}
    {database : Database} {score : ℚ}
    (computed :
      calculateScore catalogue database assessment participant =
        .ok (some score)) :
    rescore catalogue now assessment participant database =
      database.upsertParticipation ⟨assessment.id, participant⟩
        { score := some score
          status :=
            determineStatus catalogue database assessment participant
          updatedAt := now } := by
  rw [rescore, rescoreStatements, computed]
  rfl

theorem rescore_of_ok_none
    (catalogue : Catalogue) (now : Timestamp)
    {assessment : Assessment} {participant : UserId}
    {database : Database}
    (computed :
      calculateScore catalogue database assessment participant =
        .ok none) :
    rescore catalogue now assessment participant database =
      database := by
  rw [rescore, rescoreStatements, computed]
  rfl

@[simp]
theorem participantResponses_rescore
    (catalogue : Catalogue) (now : Timestamp)
    (assessment : Assessment) (participant : UserId)
    (database : Database) :
    (rescore catalogue now assessment participant
        database).participantResponses =
      database.participantResponses := by
  rcases rescoreStatements_cases catalogue now assessment participant
      database with ⟨score, _, single⟩ | ⟨_, none⟩
  · rw [rescore, single]
    exact Database.participantResponses_upsertParticipation _ _ _
  · rw [rescore, none]
    rfl

@[simp]
theorem responsesOf_rescore
    (catalogue : Catalogue) (now : Timestamp)
    (assessment : Assessment) (participant : UserId)
    (database : Database) (pair : Pair) :
    (rescore catalogue now assessment participant
        database).responsesOf pair =
      database.responsesOf pair := by
  simp [Database.responsesOf]

@[simp]
theorem response?_rescore
    (catalogue : Catalogue) (now : Timestamp)
    (assessment : Assessment) (participant : UserId)
    (database : Database) (key : ResponseKey) :
    (rescore catalogue now assessment participant
        database).response? key =
      database.response? key := by
  simp [Database.response?]

/-- A recalculation does not touch another pair. -/
theorem untouched_rescore
    (catalogue : Catalogue) (now : Timestamp)
    (assessment : Assessment) (participant : UserId)
    (database : Database) {pair : Pair}
    (different : pair ≠ ⟨assessment.id, participant⟩) :
    Database.Untouched pair database
      (rescore catalogue now assessment participant database) := by
  rcases rescoreStatements_cases catalogue now assessment participant
      database with ⟨score, _, single⟩ | ⟨_, none⟩
  · rw [rescore, single]
    exact
      Database.untouched_upsertParticipation database _ different
  · rw [rescore, none]
    exact Database.Untouched.refl pair database

/-- A recalculation keeps the rows of every choice without its pair. -/
theorem filter_rescore
    (catalogue : Catalogue) (now : Timestamp)
    (assessment : Assessment) (participant : UserId)
    (database : Database) {keep : Pair → Bool}
    (excluded : keep ⟨assessment.id, participant⟩ = false) :
    (rescore catalogue now assessment participant
        database).assessmentParticipants.filter
        (fun row => keep row.pair) =
      database.assessmentParticipants.filter
        fun row => keep row.pair := by
  rcases rescoreStatements_cases catalogue now assessment participant
      database with ⟨score, _, single⟩ | ⟨_, none⟩
  · rw [rescore, single]
    exact Database.filter_upsertParticipation database _ excluded
  · rw [rescore, none]
    rfl

end AssessmentScoreService

/-! ## `ParticipantResponseObserver` -/

namespace ParticipantResponseObserver

open SultanPass.AssessmentScoreService

/-- The handler does nothing, or it recalculates for the participant. -/
theorem saved_cases
    (catalogue : Catalogue) (now : Timestamp)
    (response : ParticipantResponse) :
    saved catalogue now response = pure () ∨
      ∃ assessment,
        saved catalogue now response =
          (calculateAndUpdateScore catalogue now assessment
            response.participantId >>= fun _ => pure ()) := by
  rw [saved]
  by_cases calculates : shouldCalculateScore response = true
  · rw [if_pos calculates]
    cases catalogue.assessment? response.assessmentId with
    | none => exact .inl rfl
    | some assessment =>
        by_cases isUser : response.participantId ∈ catalogue.users
        · exact .inr ⟨assessment, if_pos isUser⟩
        · exact .inl (if_neg isUser)
  · exact .inl (if_neg calculates)

theorem plain_saved
    (catalogue : Catalogue) (now : Timestamp)
    (response : ParticipantResponse) :
    (saved catalogue now response).Plain := by
  rcases saved_cases catalogue now response with
    nothing | ⟨assessment, recalculates⟩
  · rw [nothing]
    exact True.intro
  · rw [recalculates]
    exact
      (plain_calculateAndUpdateScore _ _ _ _).bind fun _ => True.intro

/-- What the observer computes for a saved response. -/
def observedScore (catalogue : Catalogue) (assessment : Assessment)
    (response : ParticipantResponse) (database : Database) :
    Except PhpError Unit :=
  if shouldCalculateScore response then
    (calculateScore catalogue database assessment
      response.participantId).map fun _ => ()
  else
    .ok ()

/-- What the observer writes for a saved response. -/
def observedStatements (catalogue : Catalogue) (now : Timestamp)
    (assessment : Assessment) (response : ParticipantResponse)
    (database : Database) : List Statement :=
  if shouldCalculateScore response then
    rescoreStatements catalogue now assessment response.participantId
      database
  else
    []

theorem untouched_observedStatements
    (catalogue : Catalogue) (now : Timestamp)
    (assessment : Assessment) (response : ParticipantResponse)
    (database : Database) {pair : Pair}
    (different : pair ≠ ⟨assessment.id, response.participantId⟩) :
    Database.Untouched pair database
      (Program.performAll
        (observedStatements catalogue now assessment response database)
        database) := by
  rw [observedStatements]
  split_ifs
  · exact untouched_rescore _ _ _ _ _ different
  · exact Database.Untouched.refl pair database

/-- The observer of a response whose assessment and user exist. -/
theorem issued_saved
    (catalogue : Catalogue) (now : Timestamp)
    (response : ParticipantResponse) {assessment : Assessment}
    (found :
      catalogue.assessment? response.assessmentId = some assessment)
    (isUser : response.participantId ∈ catalogue.users)
    (database : Database) :
    (saved catalogue now response).issued database =
      (observedScore catalogue assessment response database,
        observedStatements catalogue now assessment response
          database) := by
  rw [saved, observedScore, observedStatements]
  by_cases calculates : shouldCalculateScore response = true
  · rw [if_pos calculates, if_pos calculates, if_pos calculates]
    simp only [found, isUser, if_true, Program.bind_eq,
      Program.issued_bind, issued_calculateAndUpdateScore]
    cases calculateScore catalogue database assessment
        response.participantId with
    | error error => rfl
    | ok score =>
        change (_, _ ++ []) = _
        rw [List.append_nil]
        rfl
  · rw [if_neg calculates, if_neg calculates, if_neg calculates]
    rfl

end ParticipantResponseObserver

end SultanPass
