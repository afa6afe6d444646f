import SultanPass.StatusOrder
import SultanPass.ResponseHistory

/-!
# What a completed row with a score stands for

A row can become completed in two ways: a submission marks it, and a
recalculation finds every question answered and every written response
graded.  `lastWrite` tells the two apart by the statement of the history
that has written the row last, since only a recalculation writes a score.

`Tracked` is the invariant along a run: the row shows the status written
last, and after a recalculation its score is the score of the responses
that are there.
-/

namespace SultanPass

open SultanPass.Library
open SultanPass.AssessmentScoreService
open SultanPass.ParticipantResponseObserver

/-! ## The last write of a row -/

/-- The participation columns that a statement writes for a pair. -/
def Statement.columnsFor? (pair : Pair) (statement : Statement) :
    Option ParticipationColumns :=
  match statement.participationColumns? with
  | some (written, columns) =>
      if written = pair then some columns else none
  | none => none

/-- The participation columns that a history has written last. -/
def lastWrite (pair : Pair) (statements : List Statement) :
    Option ParticipationColumns :=
  (statements.filterMap (Statement.columnsFor? pair)).getLast?

theorem lastWrite_append
    (pair : Pair) (earlier later : List Statement) :
    lastWrite pair (earlier ++ later) =
      (lastWrite pair later).or (lastWrite pair earlier) := by
  rw [lastWrite, List.filterMap_append, List.getLast?_append]
  rfl

theorem lastWrite_singleton
    {pair : Pair} {statement : Statement}
    {columns : ParticipationColumns}
    (writes : statement.participationColumns? = some (pair, columns)) :
    lastWrite pair [statement] = some columns := by
  simp [lastWrite, Statement.columnsFor?, writes]

theorem lastWrite_eq_none
    {pair : Pair} {statements : List Statement}
    (others : ∀ statement ∈ statements, ∀ columns,
      statement.participationColumns? ≠ some (pair, columns)) :
    lastWrite pair statements = none := by
  rw [lastWrite, List.getLast?_eq_none_iff, List.filterMap_eq_nil_iff]
  intro statement member
  rw [Statement.columnsFor?]
  cases written : statement.participationColumns? with
  | none => rfl
  | some result =>
      rcases result with ⟨other, columns⟩
      have different : other ≠ pair := by
        rintro rfl
        exact others statement member columns written
      exact if_neg different

/-! ## The invariant -/

/--
The row agrees with its last write.  After a recalculation that left it
completed, every written response is graded; and as long as `unfixed` holds
its score is the one that was written.
-/
structure Marked (unfixed : Prop) (catalogue : Catalogue)
    (assessment : Assessment) (participant : UserId)
    (written : Option ParticipationColumns) (database : Database) :
    Prop where
  status :
    (database.participation? ⟨assessment.id, participant⟩).map
        AssessmentParticipant.status =
      written.map ParticipationColumns.status
  graded :
    ∀ columns, written = some columns → columns.score ≠ none →
      columns.status = .completed →
        ∀ response ∈
            database.responsesOf ⟨assessment.id, participant⟩,
          isWritten catalogue response = true →
            response.gradedAt ≠ none
  stored :
    unfixed → ∀ columns, written = some columns →
      columns.score ≠ none →
        (database.participation? ⟨assessment.id, participant⟩).bind
          AssessmentParticipant.score = columns.score

/-- Moreover a written score is the score of the responses, if any. -/
structure Tracked (unfixed : Prop) (catalogue : Catalogue)
    (assessment : Assessment) (participant : UserId)
    (written : Option ParticipationColumns) (database : Database) :
    Prop extends
    Marked unfixed catalogue assessment participant written
      database where
  current :
    ∀ columns, written = some columns → columns.score ≠ none →
      ∀ score,
        calculateScore catalogue database assessment participant =
            .ok (some score) →
          columns.score = some score

/-- The invariant goes through a list of statements. -/
def Tracks (unfixed : Prop) (catalogue : Catalogue)
    (assessment : Assessment) (participant : UserId)
    (statements : List Statement) (database : Database) : Prop :=
  ∀ written,
    Tracked unfixed catalogue assessment participant written
        database →
      Tracked unfixed catalogue assessment participant
        ((lastWrite ⟨assessment.id, participant⟩ statements).or
          written)
        (Program.performAll statements database)

section Steps

variable {unfixed : Prop} {catalogue : Catalogue}
  {assessment : Assessment} {participant : UserId}

theorem Tracks.nil (database : Database) :
    Tracks unfixed catalogue assessment participant [] database :=
  fun _ tracked => tracked

theorem Tracks.append
    {earlier later : List Statement} {database : Database}
    (first :
      Tracks unfixed catalogue assessment participant earlier database)
    (second :
      Tracks unfixed catalogue assessment participant later
        (Program.performAll earlier database)) :
    Tracks unfixed catalogue assessment participant
      (earlier ++ later) database := by
  intro written tracked
  have both := second _ (first written tracked)
  rw [lastWrite_append, Program.performAll_append, Option.or_assoc]
  exact both

theorem Tracks.loop {Entry : Type}
    (statements : Entry → Database → List Statement)
    (entries : List Entry)
    (each : ∀ entry ∈ entries, ∀ database,
      Tracks unfixed catalogue assessment participant
        (statements entry database) database)
    (database : Database) :
    Tracks unfixed catalogue assessment participant
      (Program.loopStatements statements entries database)
      database := by
  induction entries generalizing database with
  | nil => exact Tracks.nil database
  | cons entry rest induction =>
      apply Tracks.append (each entry List.mem_cons_self database)
      exact
        induction
          (fun other member => each other (List.mem_cons_of_mem _ member))
          _

/-- Statements about other pairs do not disturb the invariant. -/
theorem Tracks.of_others
    {statements : List Statement} {database : Database}
    (noWrite :
      lastWrite ⟨assessment.id, participant⟩ statements = none)
    (untouched :
      Database.Untouched ⟨assessment.id, participant⟩ database
        (Program.performAll statements database)) :
    Tracks unfixed catalogue assessment participant statements
      database := by
  intro written tracked
  rw [noWrite, Option.none_or]
  exact
    { status := by
        rw [untouched.sameRow]
        exact tracked.status
      graded := by
        rw [untouched.sameResponses]
        exact tracked.graded
      stored := by
        rw [untouched.sameRow]
        exact tracked.stored
      current := by
        rw [calculateScore, untouched.sameResponses]
        exact tracked.current }

/-! ## Recalculations -/

/-- A recalculation of the pair brings its row up to date. -/
theorem Marked.rescore
    {written : Option ParticipationColumns} {database : Database}
    (marked :
      Marked unfixed catalogue assessment participant written database)
    (now : Timestamp) :
    Tracked unfixed catalogue assessment participant
      ((lastWrite ⟨assessment.id, participant⟩
          (rescoreStatements catalogue now assessment participant
            database)).or written)
      (rescore catalogue now assessment participant database) := by
  have sameScore (score : ℚ) :
      calculateScore catalogue
            (AssessmentScoreService.rescore catalogue now assessment
              participant database)
            assessment participant = .ok (some score) ↔
        calculateScore catalogue database assessment participant =
          .ok (some score) := by
    rw [calculateScore, responsesOf_rescore]
    rfl
  rcases rescoreStatements_cases catalogue now assessment participant
      database with ⟨score, computed, single⟩ | ⟨noScore, none⟩
  · have last :
        lastWrite ⟨assessment.id, participant⟩
            (rescoreStatements catalogue now assessment participant
              database) =
          some
            { score := some score
              status :=
                determineStatus catalogue database assessment
                  participant
              updatedAt := now } := by
      rw [single]
      exact
        lastWrite_singleton
          (Database.participationColumns?_upsertStatement _ _ _)
    have row :=
      Database.participation?_upsertParticipation_self database
        ⟨assessment.id, participant⟩
        { score := some score
          status :=
            determineStatus catalogue database assessment participant
          updatedAt := now }
    rw [last, Option.some_or]
    refine { status := ?_, graded := ?_, stored := ?_, current := ?_ }
    · rw [rescore_of_ok_some catalogue now computed, row]
      cases database.participation?
        ⟨assessment.id, participant⟩ <;> rfl
    · intro columns equal _ completed
      cases equal
      rw [responsesOf_rescore]
      exact ((statusOf_eq_completed_iff _ _ _).mp completed).2.2
    · intro _ columns equal _
      cases equal
      rw [rescore_of_ok_some catalogue now computed, row]
      cases database.participation?
        ⟨assessment.id, participant⟩ <;> rfl
    · intro columns equal _ other otherComputed
      cases equal
      rw [sameScore, computed] at otherComputed
      cases otherComputed
      rfl
  · rw [AssessmentScoreService.rescore, none]
    constructor
    · exact marked
    · intro columns _ _ score computed
      exact (noScore score computed).elim

theorem Tracks.rescore
    (found : catalogue.assessment? assessment.id = some assessment)
    (now : Timestamp) {other : Assessment}
    (otherFound : catalogue.assessment? other.id = some other)
    (user : UserId) (database : Database) :
    Tracks unfixed catalogue assessment participant
      (rescoreStatements catalogue now other user database)
      database := by
  by_cases own :
      (⟨assessment.id, participant⟩ : Pair) = ⟨other.id, user⟩
  · rcases Catalogue.eq_of_pair_eq found otherFound own with
      ⟨rfl, rfl⟩
    intro written tracked
    exact tracked.toMarked.rescore now
  · apply Tracks.of_others
    · apply lastWrite_eq_none
      intro statement member columns writes
      have written := status_of_mem_rescoreStatements member writes
      exact own written.1
    · exact untouched_rescore _ _ _ _ _ own

/-! ## Grades -/

/-- A grade leaves the rows and adds to the graded responses. -/
theorem Marked.saveGrade
    {written : Option ParticipationColumns} {database : Database}
    (marked :
      Marked unfixed catalogue assessment participant written database)
    (key : ResponseKey) (columns : GradeColumns) :
    Marked unfixed catalogue assessment participant written
      (database.saveGrade key columns) where
  status := marked.status
  stored := marked.stored
  graded := by
    intro writtenColumns equal scored completed response member
      isWrittenResponse
    rw [Database.responsesOf_saveGrade] at member
    rcases List.mem_map.mp member with ⟨old, oldMember, rfl⟩
    by_cases own : old.key = key
    · rw [if_pos own, GradeColumns.gradedAt_fill]
      exact Option.some_ne_none _
    · rw [if_neg own] at isWrittenResponse ⊢
      exact
        marked.graded writtenColumns equal scored completed old
          oldMember isWrittenResponse

theorem Tracks.gradeStatements
    (found : catalogue.assessment? assessment.id = some assessment)
    {request : GradingController.StoreRequest} {other : Assessment}
    (resolved : GradingController.Resolved catalogue request other)
    (entry : GradingController.GradeEntry) (database : Database) :
    Tracks unfixed catalogue assessment participant
      (GradingController.gradeStatements catalogue other request entry
        database)
      database := by
  rcases GradingController.gradeStatements_cases catalogue other
      request entry database with none | ⟨response, _, _, equal⟩
  · rw [none]
    exact Tracks.nil database
  · rw [equal]
    by_cases own :
        (⟨assessment.id, participant⟩ : Pair) = request.pair
    · rw [← resolved.pair_eq] at own
      rcases Catalogue.eq_of_pair_eq found resolved.found own with
        ⟨rfl, rfl⟩
      intro written tracked
      exact (tracked.toMarked.saveGrade _ _).rescore request.now
    · rw [← List.singleton_append]
      apply Tracks.append
      · apply Tracks.of_others
        · rfl
        · exact
            Database.untouched_saveGrade database
              (request.pair, entry.questionId)
              (GradingController.updateData other request entry) own
      · exact Tracks.rescore found request.now resolved.found _ _

theorem Tracks.storeStatements
    (found : catalogue.assessment? assessment.id = some assessment)
    {request : GradingController.StoreRequest} {other : Assessment}
    (resolved : GradingController.Resolved catalogue request other)
    (database : Database) :
    Tracks unfixed catalogue assessment participant
      (GradingController.storeStatements catalogue other request
        database)
      database := by
  apply Tracks.append
  · exact
      Tracks.loop _ _
        (fun entry _ reached =>
          Tracks.gradeStatements found resolved entry reached)
        database
  · exact Tracks.rescore found request.now resolved.found _ _

/-! ## Answers -/

theorem lastWrite_storeResponse
    (catalogue : Catalogue)
    (request : SurveyController.StoreResponseRequest)
    (assignment : SelectionAssignment) (other : Assessment)
    (question : AssessmentQuestion) (database : Database) :
    ∃ columns : ParticipationColumns,
      columns.score = none ∧
        lastWrite request.pair
            (SurveyController.bodyStatements catalogue assignment other
                question request database ++
              SurveyController.submitStatements request) =
          some columns ∧
        ((Program.performAll
            (SurveyController.bodyStatements catalogue assignment other
                question request database ++
              SurveyController.submitStatements request)
            database).participation? request.pair).map
              AssessmentParticipant.status =
          some columns.status := by
  rw [lastWrite_append, Program.performAll_append]
  have started :
      lastWrite request.pair
          (SurveyController.bodyStatements catalogue assignment other
            question request database) =
        some (SurveyController.startedColumns request.now) := by
    rw [SurveyController.bodyStatements, ← List.cons_append,
      lastWrite_append,
      lastWrite_singleton
        (Database.participationColumns?_upsertStatement _ _ _)]
    rfl
  have row :
      ((Program.performAll
          (SurveyController.bodyStatements catalogue assignment other
            question request database)
          database).participation? request.pair).map
            AssessmentParticipant.status = some .inProgress := by
    rw [SurveyController.bodyStatements, Program.performAll_cons,
      Program.performAll_append]
    change
      ((Database.upsertParticipation _ request.pair
        (SurveyController.startedColumns
          request.now)).participation? request.pair).map _ = _
    rw [Database.participation?_upsertParticipation_self]
    split <;> rfl
  rw [started]
  rcases SurveyController.submitStatements_cases request with
    ⟨_, single⟩ | ⟨_, none⟩
  · rw [single]
    refine
      ⟨SurveyController.submittedColumns request.now, rfl, ?_, ?_⟩
    · rw [lastWrite_singleton rfl]
      rfl
    · change
        ((Statement.perform (.updateParticipants request.pair _)
          _).participation? request.pair).map _ = _
      rw [Database.participation?_updateParticipants]
      cases present :
          (Program.performAll
            (SurveyController.bodyStatements catalogue assignment
              other question request database)
            database).participation? request.pair with
      | none =>
          rw [present] at row
          cases row
      | some participation =>
          rw [Option.map_some, if_pos rfl]
          rfl
  · rw [none]
    exact ⟨SurveyController.startedColumns request.now, rfl, rfl, row⟩

theorem Tracks.storeResponse
    {request : SurveyController.StoreResponseRequest}
    {other : Assessment} {question : AssessmentQuestion}
    (resolved :
      SurveyController.Resolved catalogue request other question)
    (assignment : SelectionAssignment) (database : Database) :
    Tracks unfixed catalogue assessment participant
      (SurveyController.bodyStatements catalogue assignment other
          question request database ++
        SurveyController.submitStatements request)
      database := by
  by_cases own :
      (⟨assessment.id, participant⟩ : Pair) = request.pair
  · intro written _
    rcases lastWrite_storeResponse catalogue request assignment other
        question database with
      ⟨columns, noScore, last, row⟩
    rw [← own] at last row
    rw [last, Option.some_or]
    exact
      { status := row
        graded := by
          rintro _ ⟨⟩ scored
          exact (scored noScore).elim
        stored := by
          rintro _ _ ⟨⟩ scored
          exact (scored noScore).elim
        current := by
          rintro _ ⟨⟩ scored
          exact (scored noScore).elim }
  · apply Tracks.of_others
    · apply lastWrite_eq_none
      intro statement member columns writes
      rcases List.mem_append.mp member with body | submit
      · exact
          own
            (SurveyController.status_of_mem_bodyStatements resolved
              body writes).1
      · rcases SurveyController.submitStatements_cases request with
          ⟨_, single⟩ | ⟨_, none⟩
        · rw [single, List.mem_singleton] at submit
          subst submit
          have samePair := congrArg (Option.map Prod.fst) writes
          exact own (Option.some.inj samePair).symm
        · rw [none] at submit
          cases submit
    · exact
        SurveyController.untouched_storeResponse resolved assignment
          database own

/-! ## The command -/

theorem Tracks.fixStatements
    {options : RecalculateAssessmentScores.Options}
    (unfixes : unfixed → options.fixOldScores = false)
    (database : Database) :
    Tracks unfixed catalogue assessment participant
      (RecalculateAssessmentScores.fixStatements options)
      database := by
  rw [RecalculateAssessmentScores.fixStatements]
  by_cases fixes : options.fixOldScores = true
  · rw [if_pos fixes]
    have fixed : ¬ unfixed := by
      intro holds
      rw [unfixes holds] at fixes
      cases fixes
    intro written tracked
    have sameStatus :
        ((Statement.perform (.fixOldScaleScores options.now)
            database).participation?
              ⟨assessment.id, participant⟩).map
            AssessmentParticipant.status =
          (database.participation? ⟨assessment.id, participant⟩).map
            AssessmentParticipant.status := by
      simp only [Statement.perform, Database.participation?,
        List.find?_map, Function.comp_def, Option.map_map,
        AssessmentParticipant.pair_fixOldScale,
        AssessmentParticipant.status_fixOldScale]
    exact
      { status := sameStatus.trans tracked.status
        graded := tracked.graded
        stored := fun holds => (fixed holds).elim
        current := tracked.current }
  · rw [if_neg fixes]
    exact Tracks.nil database

theorem Tracks.committed
    (found : catalogue.assessment? assessment.id = some assessment)
    (assignment : SelectionAssignment) (operation : Operation)
    (unfixes : ∀ options, operation = .recalculate options →
      unfixed → options.fixOldScores = false)
    (database : Database) :
    Tracks unfixed catalogue assessment participant
      (operation.committed catalogue assignment database)
      database := by
  cases operation with
  | storeResponse request =>
      rw [Operation.committed]
      rcases SurveyController.committed_storeResponse catalogue
          assignment request database with
        ⟨error, _, none⟩ |
          ⟨other, question, resolved, _, _, equal⟩
      · rw [none]
        exact Tracks.nil database
      · rw [equal]
        exact Tracks.storeResponse resolved assignment database
  | grade request =>
      rw [Operation.committed]
      rcases GradingController.committed_store catalogue request
          database with ⟨error, _, none⟩ | ⟨other, resolved, equal⟩
      · rw [none]
        exact Tracks.nil database
      · rw [equal]
        exact Tracks.storeStatements found resolved database
  | recalculate options =>
      rw [Operation.committed]
      rcases RecalculateAssessmentScores.issued_handle catalogue
          options database with
        ⟨statements, ⟨entries, inScope, equal⟩, issued⟩
      rw [issued, equal]
      apply
        Tracks.append
          (Tracks.fixStatements (unfixes options rfl) database)
      exact
        Tracks.loop _ _
          (fun entry member reached =>
            Tracks.rescore found options.now (inScope entry member).1
              entry.2 reached)
          _

/-- The invariant holds along every run from the empty database. -/
theorem tracked_run
    (found : catalogue.assessment? assessment.id = some assessment)
    (assignment : SelectionAssignment) (operations : List Operation)
    (unfixes : ∀ options, .recalculate options ∈ operations →
      unfixed → options.fixOldScores = false) :
    Tracked unfixed catalogue assessment participant
      (lastWrite ⟨assessment.id, participant⟩
        (Operation.history catalogue assignment operations
          Database.empty))
      (Operation.run catalogue assignment operations
        Database.empty) := by
  induction operations using List.reverseRecOn with
  | nil =>
      exact
        { status := rfl
          graded := by
            rintro _ ⟨⟩
          stored := by
            rintro _ _ ⟨⟩
          current := by
            rintro _ ⟨⟩ }
  | append_singleton operations operation induction =>
      have earlier :=
        induction fun options member =>
          unfixes options (List.mem_append_left _ member)
      rw [Operation.history_concat, Operation.run_concat,
        lastWrite_append, Operation.apply_eq_performAll]
      apply Tracks.committed found assignment operation _ _ _ earlier
      rintro options rfl
      exact unfixes options (by simp)

end Steps

/--
In every run from the empty database, a completed row that a recalculation
has written last, rather than a submission, stands for graded work only:
every written response is graded.  If no run of the command fixes old
scores, the score of the row is the one that was written, and it is the
score of the current responses whenever these have one.
-/
theorem completed_score_of_run
    (catalogue : Catalogue) (assignment : SelectionAssignment)
    (operations : List Operation) (assessment : Assessment)
    (participant : UserId)
    (found : catalogue.assessment? assessment.id = some assessment)
    (row : AssessmentParticipant)
    (present :
      (Operation.run catalogue assignment operations
          Database.empty).participation?
        ⟨assessment.id, participant⟩ = some row)
    (completed : row.status = .completed)
    (columns : ParticipationColumns)
    (last :
      lastWrite ⟨assessment.id, participant⟩
        (Operation.history catalogue assignment operations
          Database.empty) = some columns)
    (rescored : columns.score ≠ none) :
    (∀ response ∈
        (Operation.run catalogue assignment operations
          Database.empty).responsesOf ⟨assessment.id, participant⟩,
      isWritten catalogue response = true →
        response.gradedAt ≠ none) ∧
      ((∀ options, .recalculate options ∈ operations →
          options.fixOldScores = false) →
        row.score = columns.score ∧
          ∀ score,
            calculateScore catalogue
                (Operation.run catalogue assignment operations
                  Database.empty) assessment participant =
                .ok (some score) →
              row.score = some score) := by
  have tracked :
      Tracked
        (∀ options, .recalculate options ∈ operations →
          options.fixOldScores = false)
        catalogue assessment participant
        (lastWrite ⟨assessment.id, participant⟩
          (Operation.history catalogue assignment operations
            Database.empty))
        (Operation.run catalogue assignment operations
          Database.empty) :=
    tracked_run found assignment operations
      fun options member unfixed => unfixed options member
  have sameStatus : columns.status = .completed := by
    have status := tracked.status
    rw [present, last, Option.map_some, Option.map_some,
      Option.some.injEq] at status
    exact status.symm.trans completed
  refine ⟨tracked.graded columns last rescored sameStatus, ?_⟩
  intro unfixed
  have stored : row.score = columns.score := by
    have value := tracked.stored unfixed columns last rescored
    rw [present] at value
    exact value
  refine ⟨stored, ?_⟩
  intro score computed
  rw [stored]
  exact tracked.current columns last rescored score computed

/-- Two texts are answered and graded, and nothing is left to answer. -/
def gradedRun : List Operation :=
  [.storeResponse (sampleSelection 1 [1] .next),
    .storeResponse (sampleText 2 "a" .next),
    .storeResponse (sampleText 3 "b" .submit),
    .grade (sampleGrades [(2, some 5), (3, some 3)])]

theorem completed_score_of_run_graded :
    (∀ response ∈
        (Operation.run sampleCatalogue .idList gradedRun
          Database.empty).responsesOf ⟨1, 1⟩,
      isWritten sampleCatalogue response = true →
        response.gradedAt ≠ none) ∧
      ((∀ options, .recalculate options ∈ gradedRun →
          options.fixOldScores = false) →
        (some 60 : Option ℚ) = some 60 ∧
          ∀ score,
            calculateScore sampleCatalogue
                (Operation.run sampleCatalogue .idList gradedRun
                  Database.empty) sampleAssessment 1 =
                .ok (some score) →
              (some 60 : Option ℚ) = some score) :=
  completed_score_of_run sampleCatalogue .idList gradedRun
    sampleAssessment 1 (by decide +kernel)
    { assessmentId := 1
      participantId := 1
      status := .completed
      score := some 60
      updatedAt := 1 }
    (by decide +kernel) rfl
    { score := some 60, status := .completed, updatedAt := 1 }
    (by decide +kernel) (by decide)

/-- A submission completes a scored row with an ungraded text. -/
def submittedUngraded : List Operation :=
  [.storeResponse (sampleText 2 "a" .next),
    .grade (sampleGrades [(2, some 5)]),
    .storeResponse (sampleText 3 "b" .submit)]

theorem submitted_score_without_grade :
    ((sampleRun .jsonEncoded submittedUngraded).participation?
        ⟨1, 1⟩).map (fun row => (row.status, row.score)) =
        some (.completed, some 50) ∧
      ((sampleRun .jsonEncoded submittedUngraded).response?
        (⟨1, 1⟩, 3)).map
          (fun response =>
            (isWritten sampleCatalogue response,
              response.gradedScore)) = some (true, none) := by
  decide +kernel

end SultanPass
