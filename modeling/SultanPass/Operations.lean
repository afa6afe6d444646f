import SultanPass.RequestEffects

/-!
# Requests as operations

The three ways in which responses and scores are written, as one type
`Operation`.  `Operation.apply` is the database after an operation that runs
alone, and `Operation.committed` the statements that it leaves committed.

The lists of committed statements are given in terms of the service:
an answer or a grade, the recalculation that the observer adds, and the
participation marks of the controllers.
-/

namespace SultanPass

open SultanPass.Library
open SultanPass.AssessmentScoreService
open SultanPass.ParticipantResponseObserver

/-! ## `SurveyController` -/

namespace SurveyController

theorem findQuestion_eq_ok_iff
    (catalogue : Catalogue) (assessment : Assessment)
    (questionId : QuestionId) (question : AssessmentQuestion) :
    findQuestion catalogue assessment questionId = .ok question ↔
      catalogue.question? questionId = some question ∧
        question.assessmentId = assessment.id := by
  have isFound :
      (catalogue.questions.find? fun other =>
          other.assessmentId = assessment.id ∧
            other.id = questionId) = some question ↔
        catalogue.question? questionId = some question ∧
          question.assessmentId = assessment.id := by
    constructor
    · intro found
      have holds := List.find?_some found
      simp only [decide_eq_true_eq] at holds
      exact
        ⟨(catalogue.question?_eq_some_iff _ _).mpr
            ⟨List.mem_of_find?_eq_some found, holds.2⟩,
          holds.1⟩
    · rintro ⟨found, belongs⟩
      rcases (catalogue.question?_eq_some_iff _ _).mp found with
        ⟨listed, hasId⟩
      cases other : catalogue.questions.find? fun other =>
          other.assessmentId = assessment.id ∧
            other.id = questionId with
      | none =>
          have excluded := List.find?_eq_none.mp other question listed
          simp [belongs, hasId] at excluded
      | some candidate =>
          have holds := List.find?_some other
          simp only [decide_eq_true_eq] at holds
          have sameQuestion :
              catalogue.question? questionId = some candidate :=
            (catalogue.question?_eq_some_iff _ _).mpr
              ⟨List.mem_of_find?_eq_some other, holds.2⟩
          rw [← sameQuestion, found]
  rw [findQuestion, ← isFound]
  cases catalogue.questions.find? fun other =>
    other.assessmentId = assessment.id ∧ other.id = questionId <;> simp

/-- The lookups before the transaction of `storeResponse`. -/
def resolve (catalogue : Catalogue) (request : StoreResponseRequest) :
    Except PhpError (Assessment × AssessmentQuestion) := do
  let assessment ← catalogue.findAssessment request.assessmentId
  let _ ← catalogue.findUser request.userId
  let question ← findQuestion catalogue assessment request.questionId
  .ok (assessment, question)

/-- A request gets past its lookups. -/
structure Resolved (catalogue : Catalogue)
    (request : StoreResponseRequest) (assessment : Assessment)
    (question : AssessmentQuestion) : Prop where
  assessmentFound :
    catalogue.assessment? request.assessmentId = some assessment
  isUser : request.userId ∈ catalogue.users
  questionFound :
    catalogue.question? request.questionId = some question
  questionBelongs : question.assessmentId = request.assessmentId

theorem Resolved.assessmentId
    {catalogue : Catalogue} {request : StoreResponseRequest}
    {assessment : Assessment} {question : AssessmentQuestion}
    (resolved : Resolved catalogue request assessment question) :
    assessment.id = request.assessmentId :=
  Catalogue.assessment?_id resolved.assessmentFound

theorem Resolved.found
    {catalogue : Catalogue} {request : StoreResponseRequest}
    {assessment : Assessment} {question : AssessmentQuestion}
    (resolved : Resolved catalogue request assessment question) :
    catalogue.assessment? assessment.id = some assessment := by
  rw [resolved.assessmentId]
  exact resolved.assessmentFound

theorem Resolved.pair_eq
    {catalogue : Catalogue} {request : StoreResponseRequest}
    {assessment : Assessment} {question : AssessmentQuestion}
    (resolved : Resolved catalogue request assessment question) :
    (⟨assessment.id, request.userId⟩ : Pair) = request.pair := by
  rw [resolved.assessmentId]
  rfl

theorem resolve_eq_ok_iff
    (catalogue : Catalogue) (request : StoreResponseRequest)
    (assessment : Assessment) (question : AssessmentQuestion) :
    resolve catalogue request = .ok (assessment, question) ↔
      Resolved catalogue request assessment question := by
  constructor
  · intro equal
    rw [resolve] at equal
    cases assessmentEqual :
        catalogue.findAssessment request.assessmentId with
    | error error =>
        rw [assessmentEqual] at equal
        cases equal
    | ok found =>
        by_cases isUser : request.userId ∈ catalogue.users
        · rw [assessmentEqual, Catalogue.findUser, if_pos isUser]
            at equal
          change
            (findQuestion catalogue found request.questionId >>= _) = _
            at equal
          cases questionEqual :
              findQuestion catalogue found request.questionId with
          | error error =>
              rw [questionEqual] at equal
              cases equal
          | ok candidate =>
              rw [questionEqual] at equal
              cases equal
              have assessmentFound :=
                (catalogue.findAssessment_eq_ok_iff _ _).mp
                  assessmentEqual
              rcases (findQuestion_eq_ok_iff _ _ _ _).mp
                  questionEqual with ⟨questionFound, belongs⟩
              exact
                { assessmentFound := assessmentFound
                  isUser := isUser
                  questionFound := questionFound
                  questionBelongs :=
                    belongs.trans
                      (Catalogue.assessment?_id assessmentFound) }
        · rw [assessmentEqual, Catalogue.findUser, if_neg isUser]
            at equal
          cases equal
  · intro resolved
    have questionEqual :
        findQuestion catalogue assessment request.questionId =
          .ok question :=
      (findQuestion_eq_ok_iff _ _ _ _).mpr
        ⟨resolved.questionFound,
          resolved.questionBelongs.trans resolved.assessmentId.symm⟩
    rw [resolve,
      (catalogue.findAssessment_eq_ok_iff _ _).mpr
        resolved.assessmentFound,
      Catalogue.findUser, if_pos resolved.isUser]
    change
      (findQuestion catalogue assessment request.questionId >>= _) = _
    rw [questionEqual]
    rfl

/-- The response row that `storeResponse` saves. -/
def savedResponse (assignment : SelectionAssignment)
    (question : AssessmentQuestion) (request : StoreResponseRequest)
    (database : Database) : ParticipantResponse :=
  (answerColumns assignment question request).fill
    ((database.response? request.key).getD
      (ParticipantResponse.blank request.key))

/-- The database after the answer is saved and before anything else. -/
def answered (assignment : SelectionAssignment)
    (question : AssessmentQuestion) (request : StoreResponseRequest)
    (database : Database) : Database :=
  database.saveAnswer request.key
    (answerColumns assignment question request)

/-- The columns of the mark `in_progress`. -/
def startedColumns (now : Timestamp) : ParticipationColumns where
  score := none
  status := .inProgress
  updatedAt := now

/-- The columns of the mark `completed`. -/
def submittedColumns (now : Timestamp) : ParticipationColumns where
  score := none
  status := .completed
  updatedAt := now

/-- The statements of the transaction of `storeResponse`. -/
def bodyStatements (catalogue : Catalogue)
    (assignment : SelectionAssignment) (assessment : Assessment)
    (question : AssessmentQuestion) (request : StoreResponseRequest)
    (database : Database) : List Statement :=
  let afterAnswer := answered assignment question request database
  let observed :=
    observedStatements catalogue request.now assessment
      (savedResponse assignment question request database) afterAnswer
  .saveAnswer request.key
      (answerColumns assignment question request) ::
    (observed ++
      [(Program.performAll observed afterAnswer).upsertStatement
        request.pair (startedColumns request.now)])

/-- The statement after the transaction, on submission only. -/
def submitStatements (request : StoreResponseRequest) :
    List Statement :=
  match request.action with
  | .submit =>
      [.updateParticipants request.pair
        (submittedColumns request.now)]
  | _ => []

theorem key_savedResponse
    (assignment : SelectionAssignment) (question : AssessmentQuestion)
    (request : StoreResponseRequest) (database : Database) :
    (savedResponse assignment question request database).key =
      request.key := by
  rw [savedResponse, AnswerColumns.key_fill]
  cases found : database.response? request.key with
  | none => rfl
  | some response =>
      exact ((Database.response?_eq_some_iff _ _ _).mp found).2

theorem participantId_savedResponse
    (assignment : SelectionAssignment) (question : AssessmentQuestion)
    (request : StoreResponseRequest) (database : Database) :
    (savedResponse assignment question request
      database).participantId = request.userId :=
  congrArg (fun key => key.1.participantId)
    (key_savedResponse assignment question request database)

/-- A submission marks its pair completed; nothing else writes here. -/
theorem submitStatements_cases (request : StoreResponseRequest) :
    (request.action = .submit ∧
        submitStatements request =
          [.updateParticipants request.pair
            (submittedColumns request.now)]) ∨
      (request.action ≠ .submit ∧ submitStatements request = []) := by
  rw [submitStatements]
  cases request.action with
  | submit => exact Or.inl ⟨rfl, rfl⟩
  | next => exact Or.inr ⟨nofun, rfl⟩
  | previous => exact Or.inr ⟨nofun, rfl⟩
  | markForReview => exact Or.inr ⟨nofun, rfl⟩

/-- An answer does not touch another pair. -/
theorem untouched_storeResponse
    {catalogue : Catalogue} {request : StoreResponseRequest}
    {assessment : Assessment} {question : AssessmentQuestion}
    (resolved : Resolved catalogue request assessment question)
    (assignment : SelectionAssignment) (database : Database)
    {pair : Pair} (different : pair ≠ request.pair) :
    Database.Untouched pair database
      (Program.performAll
        (bodyStatements catalogue assignment assessment question
            request database ++
          submitStatements request)
        database) := by
  have answers :
      Database.Untouched pair database
        (answered assignment question request database) :=
    Database.untouched_saveAnswer database request.key _ different
  have observes :
      Database.Untouched pair
        (answered assignment question request database)
        (Program.performAll
          (observedStatements catalogue request.now assessment
            (savedResponse assignment question request database)
            (answered assignment question request database))
          (answered assignment question request database)) := by
    apply untouched_observedStatements
    rw [participantId_savedResponse, resolved.pair_eq]
    exact different
  have starts :=
    (answers.trans observes).trans
      (Database.untouched_upsertParticipation _
        (startedColumns request.now) different)
  rw [Program.performAll_append, bodyStatements,
    Program.performAll_cons, Program.performAll_append]
  rcases submitStatements_cases request with
    ⟨_, single⟩ | ⟨_, none⟩
  · rw [single]
    exact
      starts.trans
        (Database.untouched_updateParticipants _ _ different)
  · rw [none]
    exact starts

theorem issued_storeResponseBody
    {catalogue : Catalogue} {request : StoreResponseRequest}
    {assessment : Assessment} {question : AssessmentQuestion}
    (resolved : Resolved catalogue request assessment question)
    (assignment : SelectionAssignment) (database : Database) :
    (∃ error,
      observedScore catalogue assessment
          (savedResponse assignment question request database)
          (answered assignment question request database) =
        .error error ∧
      ((storeResponseBody catalogue assignment question
        request).issued database).1 = .error error) ∨
    (observedScore catalogue assessment
          (savedResponse assignment question request database)
          (answered assignment question request database) = .ok () ∧
      (storeResponseBody catalogue assignment question
          request).issued database =
        (.ok (),
          bodyStatements catalogue assignment assessment question
            request database)) := by
  have sameKey :=
    key_savedResponse assignment question request database
  have sameAssessment :
      (savedResponse assignment question request
        database).assessmentId = request.assessmentId :=
    congrArg (fun key => key.1.assessmentId) sameKey
  have sameParticipant :=
    participantId_savedResponse assignment question request database
  have savedEvent :=
    issued_saved catalogue request.now
      (savedResponse assignment question request database)
      (sameAssessment ▸ resolved.assessmentFound)
      (sameParticipant ▸ resolved.isUser)
      (answered assignment question request database)
  have updates :
      (updateOrCreateResponse catalogue request.now request.key
          (answerColumns assignment question request)).issued
          database =
        (observedScore catalogue assessment
            (savedResponse assignment question request database)
            (answered assignment question request database),
          .saveAnswer request.key
              (answerColumns assignment question request) ::
            observedStatements catalogue request.now assessment
              (savedResponse assignment question request database)
              (answered assignment question request database)) := by
    rw [updateOrCreateResponse, Program.bind_eq,
      Program.issued_bind, Program.issued_query]
    simp only [Program.bind_eq, Program.performAll_nil,
      List.nil_append, Program.issued_bind, Program.issued_execute]
    change
      (((saved catalogue request.now
            (savedResponse assignment question request
              database)).issued
          (answered assignment question request database)).1,
        _ ::
          ((saved catalogue request.now
              (savedResponse assignment question request
                database)).issued
            (answered assignment question request database)).2) = _
    rw [savedEvent]
  cases outcome : observedScore catalogue assessment
      (savedResponse assignment question request database)
      (answered assignment question request database) with
  | error error =>
      rw [outcome] at updates
      apply Or.inl
      refine ⟨error, rfl, ?_⟩
      rw [storeResponseBody, Program.bind_eq,
        Program.issued_bind_of_error updates]
  | ok value =>
      rw [outcome] at updates
      apply Or.inr
      refine ⟨rfl, ?_⟩
      rw [storeResponseBody, Program.bind_eq,
        Program.issued_bind_of_ok updates, issued_updateOrInsert]
      rfl

theorem plain_updateOrCreateResponse
    (catalogue : Catalogue) (now : Timestamp) (key : ResponseKey)
    (columns : AnswerColumns) :
    (updateOrCreateResponse catalogue now key columns).Plain := by
  apply Program.Plain.bind (Program.plain_query _)
  intro existing
  apply Program.Plain.bind (Program.plain_execute _)
  intro _
  exact plain_saved _ _ _

theorem plain_storeResponseBody
    (catalogue : Catalogue) (assignment : SelectionAssignment)
    (question : AssessmentQuestion) (request : StoreResponseRequest) :
    (storeResponseBody catalogue assignment question
      request).Plain := by
  apply Program.Plain.bind (plain_updateOrCreateResponse _ _ _ _)
  intro _
  exact plain_updateOrInsert _ _

theorem plain_navigate
    (catalogue : Catalogue) (request : StoreResponseRequest) :
    (navigate catalogue request).Plain := by
  rw [navigate]
  cases request.action <;> exact True.intro

theorem issued_navigate
    (catalogue : Catalogue) (request : StoreResponseRequest)
    (database : Database) :
    ∃ redirect,
      (navigate catalogue request).issued database =
        (.ok redirect, submitStatements request) := by
  rw [navigate, submitStatements]
  cases request.action <;> exact ⟨_, rfl⟩

theorem storeResponse_eq
    (catalogue : Catalogue) (assignment : SelectionAssignment)
    (request : StoreResponseRequest) :
    storeResponse catalogue assignment request =
      (Program.ofExcept (resolve catalogue request)).bind fun found =>
        (storeResponseBody catalogue assignment found.2
            request).transaction.bind
          fun _ => navigate catalogue request := by
  rw [storeResponse, resolve]
  cases catalogue.findAssessment request.assessmentId with
  | error => rfl
  | ok assessment =>
      cases catalogue.findUser request.userId with
      | error => rfl
      | ok user =>
          change
            (Program.ofExcept (findQuestion catalogue assessment
              request.questionId)).bind _ =
            (Program.ofExcept (findQuestion catalogue assessment
              request.questionId >>= _)).bind _
          cases findQuestion catalogue assessment
              request.questionId <;> rfl

/-- `storeResponse` commits all its statements, or none. -/
theorem atomic_storeResponse
    (catalogue : Catalogue) (assignment : SelectionAssignment)
    (request : StoreResponseRequest) :
    (storeResponse catalogue assignment request).Atomic := by
  rw [storeResponse_eq]
  apply Program.Atomic.ofExcept_bind
  intro found _
  apply Program.Atomic.transaction_bind
  · exact plain_storeResponseBody _ _ _ _
  · exact fun _ => plain_navigate _ _
  · intro _ database
    rcases issued_navigate catalogue request database with
      ⟨redirect, issues⟩
    exact ⟨redirect, congrArg Prod.fst issues⟩

/--
What `storeResponse` commits: nothing after an exception, and otherwise the
statements of its transaction and of the submission.
-/
theorem committed_storeResponse
    (catalogue : Catalogue) (assignment : SelectionAssignment)
    (request : StoreResponseRequest) (database : Database) :
    (∃ error,
      ((storeResponse catalogue assignment request).issued
          database).1 = .error error ∧
      (storeResponse catalogue assignment request).committed
          database = []) ∨
    ∃ assessment question,
      Resolved catalogue request assessment question ∧
      observedScore catalogue assessment
          (savedResponse assignment question request database)
          (answered assignment question request database) = .ok () ∧
      (∃ redirect,
        ((storeResponse catalogue assignment request).issued
          database).1 = .ok redirect) ∧
      (storeResponse catalogue assignment request).committed
          database =
        bodyStatements catalogue assignment assessment question
            request database ++
          submitStatements request := by
  rw [storeResponse_eq]
  cases found : resolve catalogue request with
  | error error => exact Or.inl ⟨error, rfl, rfl⟩
  | ok result =>
      rcases result with ⟨assessment, question⟩
      have resolved := (resolve_eq_ok_iff _ _ _ _).mp found
      have body := issued_storeResponseBody resolved assignment database
      rw [← Program.issued_transaction] at body
      rcases body with ⟨error, _, fails⟩ | ⟨observed, issues⟩
      · have stops :=
          Program.issued_bind_of_error
            (Prod.ext fails rfl :
              (storeResponseBody catalogue assignment question
                  request).transaction.issued database =
                (.error error, _))
            (fun _ => navigate catalogue request)
        apply Or.inl
        refine ⟨error, congrArg Prod.fst stops, ?_⟩
        exact Program.committed_of_error stops
      · rcases issued_navigate catalogue request
            (Program.performAll
              (bodyStatements catalogue assignment assessment question
                request database) database) with
          ⟨redirect, navigates⟩
        have finishes :=
          Program.issued_bind_of_ok issues
            (fun _ => navigate catalogue request)
        rw [navigates] at finishes
        apply Or.inr
        refine
          ⟨assessment, question, resolved, observed,
            ⟨redirect, congrArg Prod.fst finishes⟩, ?_⟩
        exact Program.committed_of_ok finishes

end SurveyController

/-! ## `GradingController` -/

namespace GradingController

/-- A request gets past its lookups. -/
structure Resolved (catalogue : Catalogue) (request : StoreRequest)
    (assessment : Assessment) : Prop where
  assessmentFound :
    catalogue.assessment? request.assessmentId = some assessment
  isUser : request.participantId ∈ catalogue.users

theorem Resolved.pair_eq
    {catalogue : Catalogue} {request : StoreRequest}
    {assessment : Assessment}
    (resolved : Resolved catalogue request assessment) :
    (⟨assessment.id, request.participantId⟩ : Pair) = request.pair := by
  rw [Catalogue.assessment?_id resolved.assessmentFound]
  rfl

theorem Resolved.found
    {catalogue : Catalogue} {request : StoreRequest}
    {assessment : Assessment}
    (resolved : Resolved catalogue request assessment) :
    catalogue.assessment? assessment.id = some assessment := by
  rw [Catalogue.assessment?_id resolved.assessmentFound]
  exact resolved.assessmentFound

/-- The statements of the loop body for one entry. -/
def gradeStatements (catalogue : Catalogue) (assessment : Assessment)
    (request : StoreRequest) (entry : GradeEntry)
    (database : Database) : List Statement :=
  match database.response? (request.pair, entry.questionId) with
  | none => []
  | some response =>
      if isWritten catalogue response then
        let columns := updateData assessment request entry
        .saveGrade (request.pair, entry.questionId) columns ::
          rescoreStatements catalogue request.now assessment
            request.participantId
            (database.saveGrade (request.pair, entry.questionId)
              columns)
      else
        []

/-- The exception of the loop body for one entry, if it raises one. -/
def gradeOutcome (catalogue : Catalogue) (assessment : Assessment)
    (request : StoreRequest) (entry : GradeEntry)
    (database : Database) : Except PhpError Unit :=
  match database.response? (request.pair, entry.questionId) with
  | none => .ok ()
  | some response =>
      if isWritten catalogue response then
        (calculateScore catalogue
          (database.saveGrade (request.pair, entry.questionId)
            (updateData assessment request entry))
          assessment request.participantId).map fun _ => ()
      else
        .ok ()

/-- The statements of the transaction of `store`. -/
def storeStatements (catalogue : Catalogue) (assessment : Assessment)
    (request : StoreRequest) (database : Database) : List Statement :=
  let graded :=
    Program.loopStatements
      (gradeStatements catalogue assessment request)
      request.responses database
  graded ++
    rescoreStatements catalogue request.now assessment
      request.participantId (Program.performAll graded database)

/-- One entry saves no grade, or saves one and recalculates. -/
theorem gradeStatements_cases
    (catalogue : Catalogue) (assessment : Assessment)
    (request : StoreRequest) (entry : GradeEntry)
    (database : Database) :
    gradeStatements catalogue assessment request entry database = [] ∨
      ∃ response,
        database.response? (request.pair, entry.questionId) =
            some response ∧
          isWritten catalogue response = true ∧
          gradeStatements catalogue assessment request entry database =
            .saveGrade (request.pair, entry.questionId)
                (updateData assessment request entry) ::
              rescoreStatements catalogue request.now assessment
                request.participantId
                (database.saveGrade (request.pair, entry.questionId)
                  (updateData assessment request entry)) := by
  rw [gradeStatements]
  cases database.response? (request.pair, entry.questionId) with
  | none => exact Or.inl rfl
  | some response =>
      by_cases written : isWritten catalogue response = true
      · exact Or.inr ⟨response, rfl, written, if_pos written⟩
      · exact Or.inl (if_neg written)

/-- One entry does not touch another pair. -/
theorem untouched_gradeStatements
    {catalogue : Catalogue} {request : StoreRequest}
    {assessment : Assessment}
    (resolved : Resolved catalogue request assessment)
    (entry : GradeEntry) (database : Database) {pair : Pair}
    (different : pair ≠ request.pair) :
    Database.Untouched pair database
      (Program.performAll
        (gradeStatements catalogue assessment request entry database)
        database) := by
  rcases gradeStatements_cases catalogue assessment request entry
      database with none | ⟨response, _, _, equal⟩
  · rw [none]
    exact Database.Untouched.refl pair database
  · rw [equal]
    apply
      (Database.untouched_saveGrade database
        (request.pair, entry.questionId)
        (updateData assessment request entry) different).trans
    apply untouched_rescore
    rw [resolved.pair_eq]
    exact different

/-- A grading request does not touch another pair. -/
theorem untouched_storeStatements
    {catalogue : Catalogue} {request : StoreRequest}
    {assessment : Assessment}
    (resolved : Resolved catalogue request assessment)
    (database : Database) {pair : Pair}
    (different : pair ≠ request.pair) :
    Database.Untouched pair database
      (Program.performAll
        (storeStatements catalogue assessment request database)
        database) := by
  have loop :=
    Program.loopStatements_invariant
      (Database.Untouched pair database)
      (gradeStatements catalogue assessment request)
      request.responses
      (fun entry _ reached before =>
        before.trans
          (untouched_gradeStatements resolved entry reached different))
      database (Database.Untouched.refl pair database)
  rw [storeStatements, Program.performAll_append]
  apply loop.1.trans
  apply untouched_rescore
  rw [resolved.pair_eq]
  exact different

/-- A graded response always calls for a recalculation. -/
theorem shouldCalculateScore_fill
    (columns : GradeColumns) (response : ParticipantResponse) :
    shouldCalculateScore (columns.fill response) = true := by
  rcases columns with ⟨gradedBy, gradedAt, value⟩
  cases value <;>
    simp [shouldCalculateScore, GradeColumns.fill]

theorem issued_gradeEntry
    {catalogue : Catalogue} {request : StoreRequest}
    {assessment : Assessment}
    (resolved : Resolved catalogue request assessment)
    (entry : GradeEntry) (database : Database) :
    (gradeEntry catalogue assessment request entry).issued database =
      (gradeOutcome catalogue assessment request entry database,
        gradeStatements catalogue assessment request entry
          database) := by
  rw [gradeEntry, Program.bind_eq, Program.issued_bind,
    Program.issued_query, gradeStatements, gradeOutcome]
  simp only [Program.performAll_nil, List.nil_append]
  cases found :
      database.response? (request.pair, entry.questionId) with
  | none => rfl
  | some response =>
      have sameKey :=
        ((Database.response?_eq_some_iff _ _ _).mp found).2
      by_cases written : isWritten catalogue response = true
      · have filledKey :
            ((updateData assessment request entry).fill
                response).key =
              (request.pair, entry.questionId) := by
          rw [GradeColumns.key_fill, sameKey]
        have sameAssessment :
            ((updateData assessment request entry).fill
                response).assessmentId = request.assessmentId :=
          congrArg (fun key => key.1.assessmentId) filledKey
        have sameParticipant :
            ((updateData assessment request entry).fill
                response).participantId = request.participantId :=
          congrArg (fun key => key.1.participantId) filledKey
        have savedEvent :=
          issued_saved catalogue request.now
            ((updateData assessment request entry).fill response)
            (sameAssessment ▸ resolved.assessmentFound)
            (sameParticipant ▸ resolved.isUser)
            (database.saveGrade (request.pair, entry.questionId)
              (updateData assessment request entry))
        rw [observedStatements, observedScore,
          if_pos (shouldCalculateScore_fill _ _),
          if_pos (shouldCalculateScore_fill _ _), sameParticipant]
          at savedEvent
        simp only [if_pos written, Program.bind_eq,
          Program.issued_bind, Program.issued_execute, sameKey]
        change
          (((saved catalogue request.now
                ((updateData assessment request entry).fill
                  response)).issued
              (database.saveGrade (request.pair, entry.questionId)
                (updateData assessment request entry))).1,
            _ ::
              ((saved catalogue request.now
                  ((updateData assessment request entry).fill
                    response)).issued
                (database.saveGrade (request.pair, entry.questionId)
                  (updateData assessment request entry))).2) = _
        rw [savedEvent]
      · simp only [if_neg written]
        rfl

theorem plain_gradeEntry
    (catalogue : Catalogue) (assessment : Assessment)
    (request : StoreRequest) (entry : GradeEntry) :
    (gradeEntry catalogue assessment request entry).Plain := by
  apply Program.Plain.bind (Program.plain_query _)
  intro found
  cases found with
  | none => exact True.intro
  | some response =>
      by_cases written : isWritten catalogue response = true
      · simp only [if_pos written]
        apply Program.Plain.bind (Program.plain_execute _)
        intro _
        exact plain_saved _ _ _
      · simp only [if_neg written]
        exact True.intro

theorem plain_storeBody
    (catalogue : Catalogue) (assessment : Assessment)
    (request : StoreRequest) :
    (storeBody catalogue assessment request).Plain := by
  apply Program.Plain.bind
  · exact Program.Plain.forEach (plain_gradeEntry _ _ _) _
  · intro _
    apply Program.Plain.bind (plain_calculateAndUpdateScore _ _ _ _)
    intro _
    exact True.intro

/-- The body of `store` raises, or issues its statements. -/
theorem issued_storeBody
    {catalogue : Catalogue} {request : StoreRequest}
    {assessment : Assessment}
    (resolved : Resolved catalogue request assessment)
    (database : Database) :
    (∃ error,
      ((storeBody catalogue assessment request).issued
        database).1 = .error error) ∨
    ((∃ score,
        calculateScore catalogue
            (Program.performAll
              (Program.loopStatements
                (gradeStatements catalogue assessment request)
                request.responses database)
              database)
            assessment request.participantId = .ok score) ∧
      (storeBody catalogue assessment request).issued database =
        (.ok (),
          storeStatements catalogue assessment request database)) := by
  rcases Program.issued_forEach
      (gradeEntry catalogue assessment request)
      (gradeStatements catalogue assessment request)
      (fun entry reached =>
        congrArg Prod.snd (issued_gradeEntry resolved entry reached))
      request.responses database with
    ⟨reached, _, loop, complete⟩
  rw [storeBody, Program.bind_eq, Program.issued_bind]
  rcases equal :
      (Program.forEach (gradeEntry catalogue assessment request)
        request.responses).issued database with ⟨answer, statements⟩
  rw [equal] at loop complete
  cases answer with
  | error error => exact Or.inl ⟨error, rfl⟩
  | ok value =>
      rw [complete rfl] at loop
      change statements = _ at loop
      subst loop
      simp only [Program.bind_eq, Program.issued_bind,
        issued_calculateAndUpdateScore, storeStatements]
      cases calculateScore catalogue
          (Program.performAll _ database) assessment
          request.participantId with
      | error error => exact Or.inl ⟨error, rfl⟩
      | ok score =>
          refine Or.inr ⟨⟨score, rfl⟩, ?_⟩
          change (Except.ok (), _ ++ (_ ++ [])) = _
          rw [List.append_nil]

theorem store_eq
    (catalogue : Catalogue) (request : StoreRequest) :
    store catalogue request =
      (Program.ofExcept
        (catalogue.findAssessment request.assessmentId)).bind
          fun assessment =>
        (Program.ofExcept
          (catalogue.findUser request.participantId)).bind fun _ =>
            (storeBody catalogue assessment request).transaction :=
  rfl

/-- `store` commits all its statements, or none. -/
theorem atomic_store
    (catalogue : Catalogue) (request : StoreRequest) :
    (store catalogue request).Atomic := by
  apply Program.Atomic.ofExcept_bind
  intro assessment _
  apply Program.Atomic.ofExcept_bind
  intro _ _
  exact Program.atomic_transaction (plain_storeBody _ _ _)

/-- A resolved request is its transaction. -/
theorem store_of_resolved
    {catalogue : Catalogue} {request : StoreRequest}
    {assessment : Assessment}
    (resolved : Resolved catalogue request assessment) :
    store catalogue request =
      (storeBody catalogue assessment request).transaction := by
  rw [store_eq,
    (catalogue.findAssessment_eq_ok_iff _ _).mpr
      resolved.assessmentFound,
    Catalogue.findUser, if_pos resolved.isUser]
  rfl

/-- What `store` commits: nothing after an exception, else its statements. -/
theorem committed_store
    (catalogue : Catalogue) (request : StoreRequest)
    (database : Database) :
    (∃ error,
      ((store catalogue request).issued database).1 = .error error ∧
      (store catalogue request).committed database = []) ∨
    ∃ assessment,
      Resolved catalogue request assessment ∧
      (store catalogue request).committed database =
        storeStatements catalogue assessment request database := by
  cases assessmentEqual :
      catalogue.findAssessment request.assessmentId with
  | error error =>
      apply Or.inl
      rw [store_eq, assessmentEqual]
      exact ⟨error, rfl, rfl⟩
  | ok assessment =>
      by_cases isUser : request.participantId ∈ catalogue.users
      · have resolved : Resolved catalogue request assessment :=
          { assessmentFound :=
              (catalogue.findAssessment_eq_ok_iff _ _).mp
                assessmentEqual
            isUser := isUser }
        rw [store_of_resolved resolved]
        rcases issued_storeBody resolved database with
          ⟨error, fails⟩ | ⟨_, issues⟩
        · rw [← Program.issued_transaction] at fails
          exact
            Or.inl
              ⟨error, fails,
                Program.committed_of_error (Prod.ext fails rfl)⟩
        · rw [← Program.issued_transaction] at issues
          exact
            Or.inr
              ⟨assessment, resolved,
                Program.committed_of_ok issues⟩
      · apply Or.inl
        rw [store_eq, assessmentEqual, Catalogue.findUser,
          if_neg isUser]
        exact ⟨_, rfl, rfl⟩

end GradingController

/-! ## `RecalculateAssessmentScores` -/

namespace RecalculateAssessmentScores

/-- The statements of one recalculation of the command. -/
def entryStatements (catalogue : Catalogue) (now : Timestamp)
    (entry : Assessment × UserId) (database : Database) :
    List Statement :=
  rescoreStatements catalogue now entry.1 entry.2 database

/-- An assessment and a user of the catalogue. -/
def InScope (catalogue : Catalogue) (entry : Assessment × UserId) :
    Prop :=
  catalogue.assessment? entry.1.id = some entry.1 ∧
    entry.2 ∈ catalogue.users

/-- The statement of the option `fix-old-scores`. -/
def fixStatements (options : Options) : List Statement :=
  if options.fixOldScores then [.fixOldScaleScores options.now] else []

theorem participantResponses_fixStatements
    (options : Options) (database : Database) :
    (Program.performAll (fixStatements options)
        database).participantResponses =
      database.participantResponses := by
  rw [fixStatements]
  split_ifs <;> rfl

theorem issued_recalculate
    (catalogue : Catalogue) (now : Timestamp)
    (assessment : Assessment) (participant : UserId)
    (database : Database) :
    ((recalculate catalogue now assessment participant).issued
        database).2 =
      entryStatements catalogue now (assessment, participant)
        database := by
  rw [recalculate, Program.bind_eq, Program.issued_bind,
    issued_calculateAndUpdateScore]
  cases calculateScore catalogue database assessment participant with
  | error error => rfl
  | ok score =>
      change _ ++ [] = _
      rw [List.append_nil]
      rfl

/-- Every recalculation of a loop finds the same responses. -/
theorem sameResponses_of_loop
    (catalogue : Catalogue) (now : Timestamp)
    (entries : List (Assessment × UserId)) (database : Database) :
    (Program.performAll
          (Program.loopStatements (entryStatements catalogue now) entries
            database)
          database).participantResponses =
        database.participantResponses ∧
      ∀ statement ∈
          Program.loopStatements (entryStatements catalogue now) entries
            database,
        ∃ entry ∈ entries, ∃ reached,
          reached.participantResponses =
              database.participantResponses ∧
            statement ∈ entryStatements catalogue now entry reached :=
  Program.loopStatements_invariant
    (fun reached : Database =>
      reached.participantResponses = database.participantResponses)
    (entryStatements catalogue now) entries
    (fun _ _ _ same => (participantResponses_rescore _ _ _ _ _).trans same)
    database rfl

/-- A loop of recalculations, given by a list of entries. -/
def IsRescoring (catalogue : Catalogue) (now : Timestamp)
    (statements : List Statement) (database : Database) : Prop :=
  ∃ entries, (∀ entry ∈ entries, InScope catalogue entry) ∧
    statements =
      Program.loopStatements (entryStatements catalogue now) entries
        database

/-- A loop of recalculations of entries of one kind. -/
def IsRescoringOf (catalogue : Catalogue) (now : Timestamp)
    (scope : Assessment × UserId → Prop)
    (statements : List Statement) (database : Database) : Prop :=
  ∃ entries, (∀ entry ∈ entries, scope entry) ∧
    statements =
      Program.loopStatements (entryStatements catalogue now) entries
        database

theorem isRescoringOf_forEach {Entry : Type}
    {catalogue : Catalogue} {now : Timestamp}
    {scope : Assessment × UserId → Prop}
    (body : Entry → DatabaseProgram Unit)
    (entries : List Entry)
    (rescores : ∀ entry ∈ entries, ∀ database,
      IsRescoringOf catalogue now scope
        ((body entry).issued database).2 database)
    (database : Database) :
    IsRescoringOf catalogue now scope
      ((Program.forEach body entries).issued database).2
      database := by
  rcases Program.issued_forEach body
      (fun entry after => ((body entry).issued after).2)
      (fun _ _ => rfl) entries database with
    ⟨reached, isPrefix, loop, _⟩
  rw [loop]
  exact
    Program.loopStatements_nested scope _
      (entryStatements catalogue now) reached
      (fun entry member =>
        rescores entry (isPrefix.subset member))
      database

theorem isRescoringOf_recalculate
    {catalogue : Catalogue} (now : Timestamp)
    {scope : Assessment × UserId → Prop}
    {assessment : Assessment} {participant : UserId}
    (inScope : scope (assessment, participant))
    (database : Database) :
    IsRescoringOf catalogue now scope
      ((recalculate catalogue now assessment participant).issued
        database).2
      database := by
  refine ⟨[(assessment, participant)], ?_, ?_⟩
  · simpa using inScope
  · rw [issued_recalculate]
    simp [Program.loopStatements]

theorem isRescoringOf_recalculateForAssessment
    {catalogue : Catalogue} (now : Timestamp)
    {scope : Assessment × UserId → Prop} {assessment : Assessment}
    (inScope :
      ∀ participant ∈ catalogue.users, scope (assessment, participant))
    (database : Database) :
    IsRescoringOf catalogue now scope
      ((recalculateForAssessment catalogue now assessment).issued
        database).2
      database := by
  rw [recalculateForAssessment, Program.bind_eq,
    Program.issued_bind, Program.issued_query]
  change
    IsRescoringOf _ _ _ ((Program.forEach _ _).issued database).2
      database
  apply isRescoringOf_forEach
  intro participant member
  exact
    isRescoringOf_recalculate now
      (inScope participant (List.mem_filter.mp member).1)

theorem isRescoringOf_recalculateForParticipant
    {catalogue : Catalogue} (now : Timestamp)
    {scope : Assessment × UserId → Prop} {participant : UserId}
    (inScope :
      ∀ assessment ∈ catalogue.assessments,
        scope (assessment, participant))
    (database : Database) :
    IsRescoringOf catalogue now scope
      ((recalculateForParticipant catalogue now participant).issued
        database).2
      database := by
  rw [recalculateForParticipant, Program.bind_eq,
    Program.issued_bind, Program.issued_query]
  change
    IsRescoringOf _ _ _ ((Program.forEach _ _).issued database).2
      database
  apply isRescoringOf_forEach
  intro assessment member
  exact
    isRescoringOf_recalculate now
      (inScope assessment (List.mem_filter.mp member).1)

theorem isRescoringOf_recalculateAll
    {catalogue : Catalogue} (now : Timestamp)
    {scope : Assessment × UserId → Prop}
    (inScope :
      ∀ assessment ∈ catalogue.assessments,
        ∀ participant ∈ catalogue.users, scope (assessment, participant))
    (database : Database) :
    IsRescoringOf catalogue now scope
      ((recalculateAll catalogue now).issued database).2
      database := by
  rw [recalculateAll, Program.bind_eq, Program.issued_bind,
    Program.issued_query]
  change
    IsRescoringOf _ _ _ ((Program.forEach _ _).issued database).2
      database
  apply isRescoringOf_forEach
  intro assessment member
  apply isRescoringOf_recalculateForAssessment
  exact inScope assessment (List.mem_filter.mp member).1

/-- The entries that the options of the command select. -/
def Selected (catalogue : Catalogue) (options : Options)
    (entry : Assessment × UserId) : Prop :=
  InScope catalogue entry ∧
    (∀ participant, given options.participant = some participant →
      entry.2 = participant) ∧
    (given options.participant = none →
      ∀ id, given options.assessment = some id → entry.1.id = id)

theorem inScope_of_mem
    {catalogue : Catalogue} {assessment : Assessment}
    {participant : UserId}
    (listed : assessment ∈ catalogue.assessments)
    (isUser : participant ∈ catalogue.users) :
    InScope catalogue (assessment, participant) :=
  ⟨(catalogue.assessment?_eq_some_iff _ _).mpr ⟨listed, rfl⟩, isUser⟩

/-- An exit code after a computation adds no statement. -/
theorem IsRescoringOf.then_done
    {catalogue : Catalogue} {now : Timestamp}
    {scope : Assessment × UserId → Prop}
    {next : DatabaseProgram Unit} {database : Database}
    (rescores :
      IsRescoringOf catalogue now scope (next.issued database).2
        database)
    (code : ℕ) :
    IsRescoringOf catalogue now scope
      ((next.bind fun _ =>
        (.done code : DatabaseProgram ℕ)).issued database).2
      database := by
  rcases issues : next.issued database with ⟨answer, statements⟩
  rw [issues] at rescores
  cases answer with
  | error error =>
      rw [Program.issued_bind_of_error issues]
      exact rescores
  | ok value =>
      rw [Program.issued_bind_of_ok issues]
      change IsRescoringOf _ _ _ (statements ++ []) _
      rw [List.append_nil]
      exact rescores

theorem issued_fixOldScaleScores
    (options : Options) (database : Database) :
    (fixOldScaleScores options).issued database =
      (.ok (), fixStatements options) := by
  rw [fixOldScaleScores, fixStatements]
  split_ifs <;> rfl

/--
The command fixes old scores if asked to, and then recalculates entries that
its options select.
-/
theorem issued_handle_of_options
    (catalogue : Catalogue) (options : Options)
    (database : Database) :
    ∃ statements,
      IsRescoringOf catalogue options.now (Selected catalogue options)
        statements
        (Program.performAll (fixStatements options) database) ∧
      ((handle catalogue options).issued database).2 =
        fixStatements options ++ statements := by
  have stops :
      ∀ (code : ℕ) (after : Database),
        IsRescoringOf catalogue options.now
          (Selected catalogue options)
          ((.done code : DatabaseProgram ℕ).issued after).2
          after :=
    fun _ _ => ⟨[], nofun, rfl⟩
  rw [handle, Program.bind_eq,
    Program.issued_bind_of_ok
      (issued_fixOldScaleScores options database)]
  refine ⟨_, ?_, rfl⟩
  cases chosen : given options.participant with
  | some participant =>
      dsimp only
      by_cases isUser : participant ∈ catalogue.users
      · rw [if_pos isUser]
        apply IsRescoringOf.then_done
        apply isRescoringOf_recalculateForParticipant
        intro assessment listed
        refine ⟨inScope_of_mem listed isUser, ?_, ?_⟩
        · intro other isOther
          rw [chosen, Option.some.injEq] at isOther
          exact isOther
        · intro none
          rw [chosen] at none
          cases none
      · rw [if_neg isUser]
        exact stops 1 _
  | none =>
      have noParticipant (other : UserId) :
          given options.participant ≠ some other := by
        rw [chosen]
        nofun
      cases chosenAssessment : given options.assessment with
      | some assessmentId =>
          dsimp only
          cases found : catalogue.assessment? assessmentId with
          | none => exact stops 1 _
          | some assessment =>
              have sameId := Catalogue.assessment?_id found
              apply IsRescoringOf.then_done
              apply isRescoringOf_recalculateForAssessment
              intro participant isUser
              refine
                ⟨⟨sameId.symm ▸ found, isUser⟩,
                  fun other isOther =>
                    (noParticipant other isOther).elim, ?_⟩
              intro _ other isOther
              rw [chosenAssessment, Option.some.injEq] at isOther
              exact sameId.trans isOther
      | none =>
          apply IsRescoringOf.then_done
          apply isRescoringOf_recalculateAll
          intro assessment listed participant isUser
          refine
            ⟨inScope_of_mem listed isUser,
              fun other isOther => (noParticipant other isOther).elim,
              ?_⟩
          intro _ other isOther
          rw [chosenAssessment] at isOther
          cases isOther

/-- The command fixes old scores if asked to, and then recalculates. -/
theorem issued_handle
    (catalogue : Catalogue) (options : Options)
    (database : Database) :
    ∃ statements,
      IsRescoring catalogue options.now statements
        (Program.performAll (fixStatements options) database) ∧
      ((handle catalogue options).issued database).2 =
        fixStatements options ++ statements := by
  rcases issued_handle_of_options catalogue options database with
    ⟨statements, ⟨entries, selected, loop⟩, issues⟩
  exact
    ⟨statements,
      ⟨entries, fun entry member => (selected entry member).1, loop⟩,
      issues⟩

theorem plain_recalculate
    (catalogue : Catalogue) (now : Timestamp)
    (assessment : Assessment) (participant : UserId) :
    (recalculate catalogue now assessment participant).Plain := by
  apply Program.Plain.bind (plain_calculateAndUpdateScore _ _ _ _)
  intro _
  exact True.intro

theorem plain_recalculateForAssessment
    (catalogue : Catalogue) (now : Timestamp)
    (assessment : Assessment) :
    (recalculateForAssessment catalogue now assessment).Plain := by
  apply Program.Plain.bind (Program.plain_query _)
  intro participants
  exact Program.Plain.forEach (plain_recalculate _ _ _) _

theorem plain_handle
    (catalogue : Catalogue) (options : Options) :
    (handle catalogue options).Plain := by
  rw [handle, Program.bind_eq]
  apply Program.Plain.bind
  · rw [fixOldScaleScores]
    split_ifs <;> exact True.intro
  · intro _
    cases given options.participant with
    | some participant =>
        dsimp only
        split_ifs
        · apply Program.Plain.bind
          · apply Program.Plain.bind (Program.plain_query _)
            intro assessments
            exact
              Program.Plain.forEach
                (fun assessment => plain_recalculate _ _ _ _) _
          · exact fun _ => True.intro
        · exact True.intro
    | none =>
        cases given options.assessment with
        | some assessmentId =>
            dsimp only
            cases catalogue.assessment? assessmentId with
            | none => exact True.intro
            | some assessment =>
                apply Program.Plain.bind
                  (plain_recalculateForAssessment _ _ _)
                exact fun _ => True.intro
        | none =>
            apply Program.Plain.bind
            · apply Program.Plain.bind (Program.plain_query _)
              intro assessments
              exact
                Program.Plain.forEach
                  (plain_recalculateForAssessment _ _) _
            · exact fun _ => True.intro

end RecalculateAssessmentScores

/-! ## Operations -/

/-- One way of writing responses and scores. -/
inductive Operation where
  | storeResponse (request : SurveyController.StoreResponseRequest)
  | grade (request : GradingController.StoreRequest)
  | recalculate (options : RecalculateAssessmentScores.Options)
deriving DecidableEq, Repr

namespace Operation

/-- The database after an operation that runs alone. -/
def apply (catalogue : Catalogue) (assignment : SelectionAssignment) :
    Operation → Database → Database
  | .storeResponse request =>
      (SurveyController.storeResponse catalogue assignment
        request).finalState
  | .grade request =>
      (GradingController.store catalogue request).finalState
  | .recalculate options =>
      (RecalculateAssessmentScores.handle catalogue
        options).finalState

/--
The statements that an operation leaves committed.  An exception undoes
those of a request; the command runs without a transaction.
-/
def committed (catalogue : Catalogue)
    (assignment : SelectionAssignment) :
    Operation → Database → List Statement
  | .storeResponse request, database =>
      (SurveyController.storeResponse catalogue assignment
        request).committed database
  | .grade request, database =>
      (GradingController.store catalogue request).committed database
  | .recalculate options, database =>
      ((RecalculateAssessmentScores.handle catalogue options).issued
        database).2

/-- An operation performs the statements that it leaves committed. -/
theorem apply_eq_performAll
    (catalogue : Catalogue) (assignment : SelectionAssignment)
    (operation : Operation) (database : Database) :
    operation.apply catalogue assignment database =
      Program.performAll
        (operation.committed catalogue assignment database)
        database := by
  cases operation with
  | storeResponse request =>
      exact
        (SurveyController.atomic_storeResponse catalogue assignment
          request).finalState_eq database
  | grade request =>
      exact
        (GradingController.atomic_store catalogue
          request).finalState_eq database
  | recalculate options =>
      exact
        Program.finalState_of_plain
          (RecalculateAssessmentScores.plain_handle catalogue options)
          database

/-- The database after operations that run one after the other. -/
def run (catalogue : Catalogue) (assignment : SelectionAssignment)
    (operations : List Operation) (database : Database) : Database :=
  operations.foldl
    (fun after operation => operation.apply catalogue assignment after)
    database

/-- The statements that a run of operations leaves committed. -/
def history (catalogue : Catalogue) (assignment : SelectionAssignment)
    (operations : List Operation) (database : Database) :
    List Statement :=
  Program.loopStatements (Operation.committed catalogue assignment)
    operations database

/-- A run performs the statements of its history. -/
theorem run_eq_performAll
    (catalogue : Catalogue) (assignment : SelectionAssignment)
    (operations : List Operation) (database : Database) :
    run catalogue assignment operations database =
      Program.performAll
        (history catalogue assignment operations database)
        database := by
  rw [history, Program.performAll_loopStatements, run]
  congr 1
  funext after operation
  exact apply_eq_performAll catalogue assignment operation after

/-- What the first operations preserve, a longer run preserves. -/
theorem run_concat
    (catalogue : Catalogue) (assignment : SelectionAssignment)
    (operations : List Operation) (operation : Operation)
    (database : Database) :
    run catalogue assignment (operations ++ [operation]) database =
      operation.apply catalogue assignment
        (run catalogue assignment operations database) := by
  simp [run]

theorem history_concat
    (catalogue : Catalogue) (assignment : SelectionAssignment)
    (operations : List Operation) (operation : Operation)
    (database : Database) :
    history catalogue assignment (operations ++ [operation])
        database =
      history catalogue assignment operations database ++
        operation.committed catalogue assignment
          (run catalogue assignment operations database) := by
  rw [history, Program.loopStatements_append, run_eq_performAll]
  simp [Program.loopStatements, history]

end Operation

/-! ## A small catalogue for concrete runs -/

/--
A percentile assessment with one choice and two written questions, and a
categorical assessment with one choice question.
-/
def sampleCatalogue : Catalogue where
  users := [1, 2]
  assessments :=
    [{ id := 1, type := .writtenTest, scoringMode := .percentile
       maxTotalScore := some 30, status := .active
       startDate := none, endDate := none },
      { id := 2, type := .psychometric, scoringMode := .categorical
        maxTotalScore := none, status := .active
        startDate := none, endDate := none }]
  questions :=
    [{ id := 1, assessmentId := 1, questionType := .mcq
       questionText := "Choose", order := 1, maxScore := some 10 },
      { id := 2, assessmentId := 1, questionType := .written
        questionText := "Explain", order := 2, maxScore := some 10 },
      { id := 3, assessmentId := 1, questionType := .written
        questionText := "Compare", order := 3, maxScore := some 10 },
      { id := 4, assessmentId := 2, questionType := .mcq
        questionText := "Choose", order := 1, maxScore := none }]
  answers :=
    [{ id := 1, questionId := 1, answerText := "A", order := 1 },
      { id := 2, questionId := 1, answerText := "B", order := 2 },
      { id := 3, questionId := 4, answerText := "A", order := 1 }]
  answerScores :=
    [{ answerId := 1, scoreValue := 10 },
      { answerId := 2, scoreValue := 0 }]
  categories :=
    [{ id := 1, assessmentId := 2, name := "Reasoning"
       description := none, color := none, order := 1 }]
  answerCategoryWeights :=
    [{ answerId := 3, categoryId := 1, weight := 3 }]
  assessmentTranslations := KeyedTable.empty
  categoryTranslations := KeyedTable.empty
  questionTranslations := KeyedTable.empty
  answerTranslations := KeyedTable.empty
  assessmentKeys := by decide
  questionKeys := by decide
  answerKeys := by decide
  categoryKeys := by decide
  weightCategories := by simp
  maxScoresNonneg := by simp
  scoreValuesNonneg := by simp
  weightsNonneg := by simp

/-- The percentile assessment of the small catalogue. -/
def sampleAssessment : Assessment where
  id := 1
  type := .writtenTest
  scoringMode := .percentile
  maxTotalScore := some 30
  status := .active
  startDate := none
  endDate := none

/-- Participant 1 answers a choice question of the small catalogue. -/
def sampleSelection (questionId : QuestionId)
    (selectedAnswers : List ℤ) (action : SurveyController.Action) :
    SurveyController.StoreResponseRequest where
  assessmentId := if questionId = 4 then 2 else 1
  userId := 1
  questionId := questionId
  action := action
  selectedAnswers := some selectedAnswers
  writtenResponseText := none
  index := 1
  now := 0

/-- Participant 1 answers a written question of the small catalogue. -/
def sampleText (questionId : QuestionId) (text : String)
    (action : SurveyController.Action) :
    SurveyController.StoreResponseRequest where
  assessmentId := 1
  userId := 1
  questionId := questionId
  action := action
  selectedAnswers := none
  writtenResponseText := some text
  index := 1
  now := 0

/-- User 2 grades written questions of participant 1. -/
def sampleGrades (grades : List (QuestionId × Option ℚ)) :
    GradingController.StoreRequest where
  assessmentId := 1
  participantId := 1
  userId := 2
  responses :=
    grades.map fun grade =>
      { questionId := grade.1
        gradedScore := grade.2
        gradedCategories := none }
  now := 1

/-- A run on the small catalogue, from the empty database. -/
def sampleRun (assignment : SelectionAssignment)
    (operations : List Operation) : Database :=
  Operation.run sampleCatalogue assignment operations Database.empty

end SultanPass
