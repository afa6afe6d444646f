import SultanPass.Operations

/-!
# The order of participation statuses

Three writers set the status of a participation row.  `storeResponse` marks
it in progress, a submission marks it completed, and every recalculation
sets what `determineStatus` finds.  A row therefore never returns to
`not_started`, and it leaves `completed` through a later answer or through a
recalculation that finds questions unanswered or ungraded.
-/

namespace SultanPass

open SultanPass.Library
open SultanPass.AssessmentScoreService
open SultanPass.ParticipantResponseObserver

/-! ## `determineStatus` -/

namespace AssessmentScoreService

theorem statusOf_ne_notStarted
    (catalogue : Catalogue) (assessment : Assessment)
    {responses : List ParticipantResponse} (nonempty : responses ≠ []) :
    statusOf catalogue assessment responses ≠ .notStarted := by
  rw [statusOf, if_neg nonempty]
  dsimp only
  split_ifs <;> nofun

theorem statusOf_eq_notStarted_iff
    (catalogue : Catalogue) (assessment : Assessment)
    (responses : List ParticipantResponse) :
    statusOf catalogue assessment responses = .notStarted ↔
      responses = [] := by
  constructor
  · intro notStarted
    by_contra nonempty
    exact statusOf_ne_notStarted catalogue assessment nonempty notStarted
  · rintro rfl
    rfl

/-- Completed: every question answered, every written response graded. -/
theorem statusOf_eq_completed_iff
    (catalogue : Catalogue) (assessment : Assessment)
    (responses : List ParticipantResponse) :
    statusOf catalogue assessment responses = .completed ↔
      responses ≠ [] ∧
        (catalogue.questionsOf assessment.id).length ≤
          responses.length ∧
        ∀ response ∈ responses, isWritten catalogue response = true →
          response.gradedAt ≠ none := by
  by_cases empty : responses = []
  · simp [statusOf, empty]
  · by_cases answered :
        (catalogue.questionsOf assessment.id).length ≤
          responses.length
    · by_cases noWritten :
          responses.filter (isWritten catalogue) = []
      · have none : ∀ response ∈ responses,
            ¬ isWritten catalogue response = true :=
          List.filter_eq_nil_iff.mp noWritten
        have completed :
            statusOf catalogue assessment responses = .completed := by
          simp [statusOf, empty, answered, noWritten]
        exact
          iff_of_true completed
            ⟨empty, answered, fun response member written =>
              (none response member written).elim⟩
      · have graded :
            statusOf catalogue assessment responses = .completed ↔
              (responses.filter (isWritten catalogue)).all
                (fun response => response.gradedAt ≠ none) = true := by
          rw [statusOf, if_neg empty, if_pos answered]
          dsimp only
          rw [if_neg noWritten]
          split_ifs with all
          · exact iff_of_true rfl all
          · exact iff_of_false nofun all
        rw [graded, List.all_eq_true]
        simp [empty, answered]
    · simp [statusOf, empty, answered]

/-- Only answered participants have a score. -/
theorem responses_ne_nil_of_scoreOf
    {catalogue : Catalogue} {assessment : Assessment}
    {responses : List ParticipantResponse} {score : ℚ}
    (computed :
      scoreOf catalogue assessment responses = .ok (some score)) :
    responses ≠ [] := by
  rintro rfl
  cases computed

/-- A recalculation writes no other status than these two. -/
theorem status_of_mem_rescoreStatements
    {catalogue : Catalogue} {now : Timestamp}
    {assessment : Assessment} {participant : UserId}
    {database : Database} {statement : Statement} {pair : Pair}
    {columns : ParticipationColumns}
    (member :
      statement ∈
        rescoreStatements catalogue now assessment participant
          database)
    (writes :
      statement.participationColumns? = some (pair, columns)) :
    pair = ⟨assessment.id, participant⟩ ∧
      columns.status =
        determineStatus catalogue database assessment participant ∧
      columns.status ≠ .notStarted := by
  rcases participationColumns?_of_mem_rescoreStatements member with
    ⟨score, computed, isWrite⟩
  rw [isWrite] at writes
  cases writes
  exact
    ⟨rfl, rfl,
      statusOf_ne_notStarted catalogue assessment
        (responses_ne_nil_of_scoreOf computed)⟩

@[simp]
theorem determineStatus_rescore
    (catalogue : Catalogue) (now : Timestamp)
    (assessment other : Assessment) (participant user : UserId)
    (database : Database) :
    determineStatus catalogue
        (rescore catalogue now assessment participant database) other
        user =
      determineStatus catalogue database other user := by
  simp [determineStatus]

end AssessmentScoreService

theorem GradeColumns.gradedAt_fill
    (columns : GradeColumns) (response : ParticipantResponse) :
    (columns.fill response).gradedAt = some columns.gradedAt := by
  rcases columns with ⟨gradedBy, gradedAt, value⟩
  cases value <;> rfl

/-- A grade changes no other status than `in_progress`. -/
theorem determineStatus_saveGrade
    {catalogue : Catalogue} {database : Database}
    {assessment : Assessment} {participant : UserId}
    (key : ResponseKey) (columns : GradeColumns)
    (settled :
      determineStatus catalogue database assessment participant ≠
        .inProgress) :
    determineStatus catalogue (database.saveGrade key columns)
        assessment participant =
      determineStatus catalogue database assessment participant := by
  cases status :
      determineStatus catalogue database assessment participant with
  | inProgress => exact (settled status).elim
  | notStarted =>
      rw [determineStatus, statusOf_eq_notStarted_iff] at status ⊢
      rw [Database.responsesOf_saveGrade, status]
      rfl
  | completed =>
      rw [determineStatus, statusOf_eq_completed_iff] at status ⊢
      rcases status with ⟨nonempty, answered, graded⟩
      rw [Database.responsesOf_saveGrade]
      refine ⟨by simpa using nonempty, by simpa using answered, ?_⟩
      intro response member written
      rcases List.mem_map.mp member with ⟨old, oldMember, rfl⟩
      by_cases own : old.key = key
      · rw [if_pos own, GradeColumns.gradedAt_fill]
        exact Option.some_ne_none _
      · rw [if_neg own] at written ⊢
        exact graded old oldMember written

/-! ## Statuses that an operation writes -/

namespace SurveyController

/-- The transaction of `storeResponse` writes its own pair only. -/
theorem status_of_mem_bodyStatements
    {catalogue : Catalogue} {request : StoreResponseRequest}
    {assessment : Assessment} {question : AssessmentQuestion}
    (resolved : Resolved catalogue request assessment question)
    {assignment : SelectionAssignment} {database : Database}
    {statement : Statement} {pair : Pair}
    {columns : ParticipationColumns}
    (member :
      statement ∈
        bodyStatements catalogue assignment assessment question request
          database)
    (writes :
      statement.participationColumns? = some (pair, columns)) :
    pair = request.pair ∧ columns.status ≠ .notStarted := by
  rw [bodyStatements] at member
  rcases List.mem_cons.mp member with rfl | member
  · cases writes
  · rcases List.mem_append.mp member with observed | started
    · rw [observedStatements, participantId_savedResponse] at observed
      split_ifs at observed with calculates
      · have written := status_of_mem_rescoreStatements observed writes
        rw [resolved.assessmentId] at written
        exact ⟨written.1, written.2.2⟩
      · cases observed
    · rw [List.mem_singleton] at started
      subst started
      rw [Database.participationColumns?_upsertStatement] at writes
      cases writes
      constructor
      · rfl
      · intro notStarted
        cases notStarted

end SurveyController

namespace GradingController

theorem determineStatus_gradeStatements
    {catalogue : Catalogue} {assessment : Assessment}
    {request : StoreRequest} (entry : GradeEntry)
    (database : Database)
    (settled :
      determineStatus catalogue database assessment
        request.participantId ≠ .inProgress) :
    determineStatus catalogue
        (Program.performAll
          (gradeStatements catalogue assessment request entry database)
          database)
        assessment request.participantId =
      determineStatus catalogue database assessment
        request.participantId := by
  rcases gradeStatements_cases catalogue assessment request entry
      database with none | ⟨response, _, _, equal⟩
  · rw [none]
    rfl
  · rw [equal]
    change
      determineStatus catalogue
        (rescore catalogue request.now assessment
          request.participantId (database.saveGrade _ _))
        assessment request.participantId = _
    rw [determineStatus_rescore]
    exact determineStatus_saveGrade _ _ settled

/--
Grading writes its own pair only, and nothing but the status that
`determineStatus` finds before it unless that is `in_progress`.
-/
theorem status_of_mem_storeStatements
    {catalogue : Catalogue} {request : StoreRequest}
    {assessment : Assessment}
    (resolved : Resolved catalogue request assessment)
    {database : Database} {statement : Statement} {pair : Pair}
    {columns : ParticipationColumns}
    (member :
      statement ∈
        storeStatements catalogue assessment request database)
    (writes :
      statement.participationColumns? = some (pair, columns)) :
    pair = request.pair ∧ columns.status ≠ .notStarted ∧
      (determineStatus catalogue database assessment
          request.participantId ≠ .inProgress →
        columns.status =
          determineStatus catalogue database assessment
            request.participantId) := by
  have loop :=
    Program.loopStatements_invariant
      (fun reached =>
        determineStatus catalogue database assessment
            request.participantId ≠ .inProgress →
          determineStatus catalogue reached assessment
              request.participantId =
            determineStatus catalogue database assessment
              request.participantId)
      (gradeStatements catalogue assessment request)
      request.responses
      (fun entry _ reached holds settled =>
        (determineStatus_gradeStatements entry reached
          ((holds settled).symm ▸ settled)).trans (holds settled))
      database fun _ => rfl
  rw [storeStatements] at member
  rcases List.mem_append.mp member with graded | rescored
  · rcases loop.2 statement graded with
      ⟨entry, _, reached, holds, issued⟩
    rcases gradeStatements_cases catalogue assessment request entry
        reached with none | ⟨response, _, _, equal⟩
    · rw [none] at issued
      cases issued
    · rw [equal] at issued
      rcases List.mem_cons.mp issued with rfl | issued
      · cases writes
      · have written := status_of_mem_rescoreStatements issued writes
        rw [resolved.pair_eq] at written
        refine ⟨written.1, written.2.2, ?_⟩
        intro settled
        rw [written.2.1,
          determineStatus_saveGrade _ _
            ((holds settled).symm ▸ settled)]
        exact holds settled
  · have written := status_of_mem_rescoreStatements rescored writes
    rw [resolved.pair_eq] at written
    refine ⟨written.1, written.2.2, ?_⟩
    intro settled
    rw [written.2.1]
    exact loop.1 settled

end GradingController

namespace RecalculateAssessmentScores

/-- The command writes what `determineStatus` finds before it. -/
theorem status_of_mem_issued_handle
    {catalogue : Catalogue} {options : Options} {database : Database}
    {statement : Statement} {pair : Pair}
    {columns : ParticipationColumns}
    (member :
      statement ∈ ((handle catalogue options).issued database).2)
    (writes :
      statement.participationColumns? = some (pair, columns)) :
    columns.status ≠ .notStarted ∧
      ∃ assessment,
        catalogue.assessment? pair.assessmentId = some assessment ∧
          columns.status =
            determineStatus catalogue database assessment
              pair.participantId := by
  rcases issued_handle catalogue options database with
    ⟨statements, ⟨entries, inScope, equal⟩, issued⟩
  rw [issued] at member
  rcases List.mem_append.mp member with fixes | rescored
  · rw [fixStatements] at fixes
    split_ifs at fixes
    · rw [List.mem_singleton] at fixes
      subst fixes
      cases writes
    · cases fixes
  · rw [equal] at rescored
    rcases (sameResponses_of_loop _ _ _ _).2 statement rescored with
      ⟨entry, listed, reached, same, own⟩
    rw [participantResponses_fixStatements] at same
    rcases status_of_mem_rescoreStatements own writes with
      ⟨samePair, status, started⟩
    subst samePair
    refine ⟨started, entry.1, (inScope entry listed).1, ?_⟩
    rw [status, determineStatus, determineStatus,
      Database.responsesOf, Database.responsesOf, same]

end RecalculateAssessmentScores

/-! ## Statuses after an operation -/

/--
The operations that may take a row of the pair back from `completed`: a
later answer without submission, and a recalculation that finds the
assessment in progress.
-/
def MayReopen (catalogue : Catalogue) (database : Database)
    (pair : Pair) : Operation → Prop
  | .storeResponse request =>
      request.pair = pair ∧ request.action ≠ .submit
  | .grade request =>
      request.pair = pair ∧
        ∃ assessment,
          catalogue.assessment? pair.assessmentId = some assessment ∧
            determineStatus catalogue database assessment
              pair.participantId = .inProgress
  | .recalculate _ =>
      ∃ assessment,
        catalogue.assessment? pair.assessmentId = some assessment ∧
          determineStatus catalogue database assessment
            pair.participantId = .inProgress

/-- A submission of the pair that does not raise. -/
def IsSubmission (catalogue : Catalogue)
    (assignment : SelectionAssignment) (database : Database)
    (pair : Pair) : Operation → Prop
  | .storeResponse request =>
      request.pair = pair ∧ request.action = .submit ∧
        ∃ redirect,
          ((SurveyController.storeResponse catalogue assignment
            request).exec ⟨database, none⟩).1 = .ok redirect
  | _ => False

/-- A written status is no step back, or it reopens a completed row. -/
theorem status_step
    {before after : ParticipationStatus} {reopens : Prop}
    (started : after ≠ .notStarted)
    (justified : after ≠ .completed → reopens) :
    before ≤ after ∨
      (before = .completed ∧ after = .inProgress ∧ reopens) := by
  cases after with
  | notStarted => exact (started rfl).elim
  | completed => exact Or.inl before.le_completed
  | inProgress =>
      cases before with
      | notStarted => exact Or.inl (by decide)
      | inProgress => exact Or.inl (by decide)
      | completed => exact Or.inr ⟨rfl, rfl, justified nofun⟩

/-- The statuses that the statements of an operation may write. -/
def MayWrite (catalogue : Catalogue) (assignment : SelectionAssignment)
    (database : Database) (pair : Pair) (operation : Operation)
    (status : ParticipationStatus) : Prop :=
  status ≠ .notStarted ∧
    (status ≠ .completed →
      MayReopen catalogue database pair operation ∨
        IsSubmission catalogue assignment database pair operation)

section Committed

variable {catalogue : Catalogue} {assignment : SelectionAssignment}
  {database : Database} {statement : Statement} {pair : Pair}
  {columns : ParticipationColumns}
  (writes : statement.participationColumns? = some (pair, columns))
include writes

theorem SurveyController.mayWrite_of_mem_committed
    {request : StoreResponseRequest}
    (member :
      statement ∈
        (Operation.storeResponse request).committed catalogue assignment
          database) :
    MayWrite catalogue assignment database pair (.storeResponse request)
      columns.status := by
  rcases SurveyController.committed_storeResponse catalogue assignment
      request database with
    ⟨error, _, none⟩ | ⟨assessment, question, resolved, _, issues, equal⟩
  · rw [Operation.committed, none] at member
    cases member
  · rw [Operation.committed, equal] at member
    have samePair :
        pair = request.pair ∧ columns.status ≠ .notStarted := by
      rcases List.mem_append.mp member with body | submit
      · exact
          SurveyController.status_of_mem_bodyStatements resolved body
            writes
      · rcases SurveyController.submitStatements_cases request with
          ⟨_, single⟩ | ⟨_, none⟩
        · rw [single, List.mem_singleton] at submit
          subst submit
          cases writes
          constructor
          · rfl
          · intro notStarted
            cases notStarted
        · rw [none] at submit
          cases submit
    constructor
    · exact samePair.2
    · intro _
      by_cases submits : request.action = .submit
      · apply Or.inr
        refine ⟨samePair.1.symm, submits, ?_⟩
        rw [SurveyController.atomic_storeResponse]
        exact issues
      · exact Or.inl ⟨samePair.1.symm, submits⟩

theorem GradingController.mayWrite_of_mem_committed
    {request : StoreRequest}
    (member :
      statement ∈
        (Operation.grade request).committed catalogue assignment
          database) :
    MayWrite catalogue assignment database pair (.grade request)
      columns.status := by
  rcases GradingController.committed_store catalogue request
      database with
    ⟨error, _, none⟩ | ⟨assessment, resolved, equal⟩
  · rw [Operation.committed, none] at member
    cases member
  · rw [Operation.committed, equal] at member
    rcases GradingController.status_of_mem_storeStatements resolved
        member writes with ⟨samePair, started, settled⟩
    constructor
    · exact started
    · intro reopened
      subst samePair
      refine Or.inl ⟨rfl, assessment, resolved.assessmentFound, ?_⟩
      by_contra other
      have same := settled other
      change
        columns.status =
          determineStatus catalogue database assessment
            request.participantId at same
      change
        ¬ determineStatus catalogue database assessment
          request.participantId = .inProgress at other
      rw [← same] at other
      cases status : columns.status with
      | notStarted => exact started status
      | inProgress => exact other status
      | completed => exact reopened status

theorem RecalculateAssessmentScores.mayWrite_of_mem_committed
    {options : Options}
    (member :
      statement ∈
        (Operation.recalculate options).committed catalogue assignment
          database) :
    MayWrite catalogue assignment database pair (.recalculate options)
      columns.status := by
  rcases RecalculateAssessmentScores.status_of_mem_issued_handle
      member writes with ⟨started, assessment, found, same⟩
  constructor
  · exact started
  · intro reopened
    refine Or.inl ⟨assessment, found, ?_⟩
    rw [← same]
    cases status : columns.status with
    | notStarted => exact (started status).elim
    | inProgress => rfl
    | completed => exact (reopened status).elim

/-- What the statements of an operation may do to the status of a pair. -/
theorem mayWrite_of_mem_committed {operation : Operation}
    (member :
      statement ∈ operation.committed catalogue assignment database) :
    MayWrite catalogue assignment database pair operation
      columns.status := by
  cases operation with
  | storeResponse request =>
      exact SurveyController.mayWrite_of_mem_committed writes member
  | grade request =>
      exact GradingController.mayWrite_of_mem_committed writes member
  | recalculate options =>
      exact
        RecalculateAssessmentScores.mayWrite_of_mem_committed writes
          member

end Committed

/-- A submission leaves every row of its pair completed. -/
theorem status_after_submission
    {catalogue : Catalogue} {assignment : SelectionAssignment}
    {operation : Operation} {database : Database} {index : ℕ}
    {row : AssessmentParticipant}
    (present : database.assessmentParticipants[index]? = some row)
    (submits :
      IsSubmission catalogue assignment database row.pair operation) :
    ∃ after,
      (operation.apply catalogue assignment
          database).assessmentParticipants[index]? = some after ∧
        after.pair = row.pair ∧ after.status = .completed := by
  cases operation with
  | grade request => exact submits.elim
  | recalculate options => exact submits.elim
  | storeResponse request =>
      rcases submits with ⟨samePair, action, redirect, succeeds⟩
      rw [SurveyController.atomic_storeResponse] at succeeds
      rcases SurveyController.committed_storeResponse catalogue
          assignment request database with
        ⟨error, fails, _⟩ |
          ⟨assessment, question, _, _, _, equal⟩
      · rw [fails] at succeeds
        cases succeeds
      · rw [Operation.apply_eq_performAll, Operation.committed, equal,
          SurveyController.submitStatements, action]
        simp only [Program.performAll_append]
        rcases Database.getElem?_performAll
            (SurveyController.bodyStatements catalogue assignment
              assessment question request database)
            database index row present with
          ⟨next, nextPresent, nextPair, _⟩
        refine
          ⟨(SurveyController.submittedColumns request.now).fill next,
            ?_, nextPair, rfl⟩
        rw [samePair, ← nextPair]
        change
          (List.map _ _)[index]? = _
        rw [List.getElem?_map, nextPresent]
        simp

/-- A row after an operation: its status goes on, or the row reopens. -/
theorem status_apply
    {catalogue : Catalogue} {assignment : SelectionAssignment}
    {operation : Operation} {database : Database} {index : ℕ}
    {row : AssessmentParticipant}
    (present : database.assessmentParticipants[index]? = some row) :
    ∃ after,
      (operation.apply catalogue assignment
          database).assessmentParticipants[index]? = some after ∧
        after.pair = row.pair ∧
        (row.status ≤ after.status ∨
          (row.status = .completed ∧ after.status = .inProgress ∧
            MayReopen catalogue database row.pair operation)) := by
  by_cases submits :
      IsSubmission catalogue assignment database row.pair operation
  · rcases status_after_submission present submits with
      ⟨after, afterPresent, samePair, completed⟩
    refine ⟨after, afterPresent, samePair, Or.inl ?_⟩
    rw [completed]
    exact row.status.le_completed
  · have applied :=
      Database.getElem?_performAll
        (operation.committed catalogue assignment database) database
        index row present
    rw [← Operation.apply_eq_performAll] at applied
    rcases applied with ⟨after, afterPresent, samePair, status⟩
    refine ⟨after, afterPresent, samePair, ?_⟩
    rcases status with
      unchanged | ⟨statement, member, columns, writes, written⟩
    · rw [unchanged]
      exact Or.inl row.status.le_refl
    · have allowed := mayWrite_of_mem_committed writes member
      rw [written]
      apply status_step allowed.1
      intro reopened
      exact (allowed.2 reopened).resolve_right submits

/-- Without reopening operations a run takes no row back. -/
theorem status_after_run
    (catalogue : Catalogue) (assignment : SelectionAssignment)
    (operations : List Operation) (database : Database) (index : ℕ)
    (row : AssessmentParticipant)
    (present : database.assessmentParticipants[index]? = some row)
    (keeps : ∀ earlier operation later,
      operations = earlier ++ operation :: later →
        ¬ MayReopen catalogue
          (Operation.run catalogue assignment earlier database)
          row.pair operation) :
    ∃ after,
      (Operation.run catalogue assignment operations
          database).assessmentParticipants[index]? = some after ∧
        after.pair = row.pair ∧ row.status ≤ after.status := by
  induction operations using List.reverseRecOn with
  | nil => exact ⟨row, present, rfl, row.status.le_refl⟩
  | append_singleton earlier operation induction =>
      have keepsEarlier :
          ∀ first other later,
            earlier = first ++ other :: later →
              ¬ MayReopen catalogue
                (Operation.run catalogue assignment first database)
                row.pair other := by
        intro first other later split
        apply keeps first other (later ++ [operation])
        rw [split, List.append_assoc, List.cons_append]
      rcases induction keepsEarlier with
        ⟨next, nextPresent, nextPair, nextStatus⟩
      rw [Operation.run_concat]
      rcases status_apply nextPresent with
        ⟨after, afterPresent, afterPair, status⟩
      refine ⟨after, afterPresent, afterPair.trans nextPair, ?_⟩
      rcases status with forward | ⟨_, _, reopens⟩
      · exact ParticipationStatus.le_trans nextStatus forward
      · rw [nextPair] at reopens
        exact (keeps earlier operation [] rfl reopens).elim

/--
Over one operation in any state, a participation row keeps its pair and its
status does not go back, but for one step: from `completed` to `in_progress`
by an operation that may reopen it.  A submission completes the row.
-/
theorem status_after_operation
    (catalogue : Catalogue) (assignment : SelectionAssignment)
    (operation : Operation) (database : Database) (index : ℕ)
    (row : AssessmentParticipant)
    (present : database.assessmentParticipants[index]? = some row) :
    ∃ after,
      (operation.apply catalogue assignment
          database).assessmentParticipants[index]? = some after ∧
        after.pair = row.pair ∧
        (row.status ≤ after.status ∨
          (row.status = .completed ∧ after.status = .inProgress ∧
            MayReopen catalogue database row.pair operation)) ∧
        (IsSubmission catalogue assignment database row.pair
            operation →
          after.status = .completed) := by
  rcases status_apply present with
    ⟨after, afterPresent, samePair, status⟩
  refine ⟨after, afterPresent, samePair, status, ?_⟩
  intro submits
  rcases status_after_submission present submits with
    ⟨submitted, submittedPresent, _, completed⟩
  rw [afterPresent, Option.some.injEq] at submittedPresent
  rw [submittedPresent]
  exact completed

/-- A text is submitted, and the row is completed. -/
def submittedRun : Database :=
  sampleRun .jsonEncoded
    [.storeResponse (sampleText 2 "a" .submit)]

theorem status_after_operation_sample :
    ∃ after,
      ((Operation.storeResponse (sampleText 3 "b" .next)).apply
          sampleCatalogue .jsonEncoded
          submittedRun).assessmentParticipants[0]? = some after ∧
        after.pair = ⟨1, 1⟩ ∧
        (ParticipationStatus.completed ≤ after.status ∨
          (ParticipationStatus.completed = .completed ∧
            after.status = .inProgress ∧
            MayReopen sampleCatalogue submittedRun ⟨1, 1⟩
              (.storeResponse (sampleText 3 "b" .next)))) ∧
        (IsSubmission sampleCatalogue .jsonEncoded submittedRun ⟨1, 1⟩
            (.storeResponse (sampleText 3 "b" .next)) →
          after.status = .completed) :=
  status_after_operation sampleCatalogue .jsonEncoded
    (.storeResponse (sampleText 3 "b" .next)) submittedRun 0
    { assessmentId := 1
      participantId := 1
      status := .completed
      score := none
      updatedAt := 0 }
    (by decide +kernel)

/-- An answer after the submission, and a grade, reopen the row. -/
theorem submission_is_reopened :
    (submittedRun.participation? ⟨1, 1⟩).map
          AssessmentParticipant.status = some .completed ∧
      ((sampleRun .jsonEncoded
          [.storeResponse (sampleText 2 "a" .submit),
            .storeResponse (sampleText 3 "b" .next)]).participation?
        ⟨1, 1⟩).map AssessmentParticipant.status =
          some .inProgress ∧
      ((sampleRun .jsonEncoded
          [.storeResponse (sampleText 2 "a" .submit),
            .grade (sampleGrades [(2, some 5)])]).participation?
        ⟨1, 1⟩).map AssessmentParticipant.status =
          some .inProgress := by
  decide +kernel

end SultanPass
