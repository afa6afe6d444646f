import SultanPass.ResponseHistory
import SultanPass.ConcurrentRequests

/-!
# What responses and participations refer to

Every response belongs to a participation, to a question of its assessment
and, when it is graded, to a grader; every participation belongs to a user
and an assessment.  No operation breaks this, since each one finds what it
refers to before it writes.
-/

namespace SultanPass

open SultanPass.Library
open SultanPass.AssessmentScoreService

namespace Database

/-- The pair has a participation row. -/
def HasParticipation (database : Database) (pair : Pair) : Prop :=
  ∃ row ∈ database.assessmentParticipants, row.pair = pair

theorem hasParticipation_iff_count (database : Database) (pair : Pair) :
    database.HasParticipation pair ↔
      0 < participationRows.count pair database := by
  change
    _ ↔
      0 <
        database.assessmentParticipants.countP fun row =>
          row.pair = pair
  rw [List.countP_pos_iff]
  simp [HasParticipation]

/-- The insertion of a row of the pair. -/
def Inserts (pair : Pair) (statement : Statement) : Prop :=
  ∃ columns, statement = .insertParticipant pair columns

theorem inserts_iff (pair : Pair) (statement : Statement) :
    Inserts pair statement ↔
      participationRows.inserted statement = some pair := by
  constructor
  · rintro ⟨columns, rfl⟩
    rfl
  · intro inserted
    cases statement with
    | insertParticipant other columns =>
        cases inserted
        exact ⟨columns, rfl⟩
    | _ => cases inserted

theorem hasParticipation_perform (statement : Statement)
    (database : Database) (pair : Pair) :
    (statement.perform database).HasParticipation pair ↔
      database.HasParticipation pair ∨ Inserts pair statement := by
  rw [hasParticipation_iff_count, hasParticipation_iff_count, inserts_iff]
  have counted :=
    participationRows.count_perform pair statement database
  change participationRows.count pair (statement.perform database) = _
    at counted
  rw [counted]
  by_cases inserted : participationRows.inserted statement = some pair
  · simp [inserted]
  · simp [inserted]

/-- Participations are never removed, and new ones are inserted. -/
theorem hasParticipation_performAll (statements : List Statement)
    (database : Database) (pair : Pair) :
    (Program.performAll statements database).HasParticipation pair ↔
      database.HasParticipation pair ∨
        ∃ statement ∈ statements, Inserts pair statement := by
  induction statements generalizing database with
  | nil => simp [Program.performAll_nil]
  | cons statement rest induction =>
      rw [Program.performAll_cons, induction]
      change
        (statement.perform database).HasParticipation pair ∨ _ ↔ _
      rw [hasParticipation_perform]
      simp [or_assoc]

theorem hasParticipation_of_participation? {database : Database}
    {pair : Pair} {row : AssessmentParticipant}
    (found : database.participation? pair = some row) :
    database.HasParticipation pair :=
  ⟨row, List.mem_of_find?_eq_some found,
    by simpa using List.find?_some found⟩

/-- A recalculation inserts a row of its own pair only. -/
theorem pair_of_inserts_rescore {catalogue : Catalogue}
    {now : Timestamp} {assessment : Assessment} {participant : UserId}
    {database : Database} {statement : Statement} {pair : Pair}
    (member :
      statement ∈
        rescoreStatements catalogue now assessment participant database)
    (inserts : Inserts pair statement) :
    pair = ⟨assessment.id, participant⟩ := by
  rcases participationColumns?_of_mem_rescoreStatements member with
    ⟨score, _, columns⟩
  rcases inserts with ⟨own, rfl⟩
  exact congrArg Prod.fst (Option.some.inj columns)

/-! ## References -/

/-- The pair is one of a user and an assessment. -/
def PairListed (catalogue : Catalogue) (pair : Pair) : Prop :=
  pair.participantId ∈ catalogue.users ∧
    ∃ assessment,
      catalogue.assessment? pair.assessmentId = some assessment

/-- The question of the key belongs to the assessment of the key. -/
def QuestionListed (catalogue : Catalogue) (key : ResponseKey) : Prop :=
  ∃ question,
    catalogue.question? key.2 = some question ∧
      question.assessmentId = key.1.assessmentId

/-- Everything that a response or a participation refers to exists. -/
structure References (catalogue : Catalogue) (database : Database) :
    Prop where
  participations :
    ∀ pair, database.HasParticipation pair → PairListed catalogue pair
  participated :
    ∀ key response, database.response? key = some response →
      database.HasParticipation key.1
  questions :
    ∀ key response, database.response? key = some response →
      QuestionListed catalogue key
  graders :
    ∀ key response, database.response? key = some response →
      ∀ grader ∈ response.gradedBy, grader ∈ catalogue.users

theorem references_empty (catalogue : Catalogue) :
    References catalogue Database.empty where
  participations := by
    rintro pair ⟨row, member, _⟩
    cases member
  participated := nofun
  questions := nofun
  graders := nofun

/-- New participations of listed pairs do no harm. -/
theorem References.of_sameResponses {catalogue : Catalogue}
    {before after : Database} (holds : References catalogue before)
    (same : after.participantResponses = before.participantResponses)
    (kept :
      ∀ pair, before.HasParticipation pair → after.HasParticipation pair)
    (listed :
      ∀ pair, after.HasParticipation pair →
        before.HasParticipation pair ∨ PairListed catalogue pair) :
    References catalogue after where
  participations := by
    intro pair has
    rcases listed pair has with old | isListed
    · exact holds.participations pair old
    · exact isListed
  participated := by
    intro key response found
    rw [response?, same] at found
    exact kept _ (holds.participated key response found)
  questions := by
    intro key response found
    rw [response?, same] at found
    exact holds.questions key response found
  graders := by
    intro key response found
    rw [response?, same] at found
    exact holds.graders key response found

end Database

open Database

/-! ## Operations -/

namespace SurveyController

theorem inserts_storeResponse {catalogue : Catalogue}
    {assignment : SelectionAssignment} {assessment : Assessment}
    {question : AssessmentQuestion} {request : StoreResponseRequest}
    {database : Database}
    (resolved : Resolved catalogue request assessment question)
    {statement : Statement}
    (member :
      statement ∈
        bodyStatements catalogue assignment assessment question request
            database ++
          submitStatements request)
    {pair : Pair} (inserts : Inserts pair statement) :
    pair = request.pair := by
  rcases List.mem_append.mp member with inBody | submits
  · rcases List.mem_cons.mp inBody with saves | later
    · rw [saves] at inserts
      rcases inserts with ⟨columns, absurd⟩
      cases absurd
    · rcases List.mem_append.mp later with observes | marks
      · unfold ParticipantResponseObserver.observedStatements at observes
        split_ifs at observes
        · rw [pair_of_inserts_rescore observes inserts,
            participantId_savedResponse]
          exact resolved.pair_eq
        · cases observes
      · rw [List.mem_singleton.mp marks] at inserts
        rcases inserts with ⟨columns, same⟩
        have written :=
          congrArg Statement.participationColumns? same
        rw [participationColumns?_upsertStatement] at written
        exact (congrArg Prod.fst (Option.some.inj written)).symm
  · rcases submitStatements_cases request with
      ⟨_, single⟩ | ⟨_, none⟩
    · rw [single, List.mem_singleton] at submits
      rw [submits] at inserts
      rcases inserts with ⟨columns, absurd⟩
      cases absurd
    · rw [none] at submits
      cases submits

theorem hasParticipation_storeResponse (catalogue : Catalogue)
    (assignment : SelectionAssignment) (assessment : Assessment)
    (question : AssessmentQuestion) (request : StoreResponseRequest)
    (database : Database) :
    (Program.performAll
        (bodyStatements catalogue assignment assessment question request
            database ++
          submitStatements request)
        database).HasParticipation request.pair := by
  rw [Program.performAll_append, hasParticipation_performAll]
  apply Or.inl
  rw [bodyStatements, Program.performAll_cons, Program.performAll_append]
  exact
    hasParticipation_of_participation?
      (participation?_upsertParticipation_self _ _ _)

/-- A saved answer keeps the grader. -/
theorem references_storeResponse {catalogue : Catalogue}
    {database : Database} (holds : References catalogue database)
    (assignment : SelectionAssignment) (request : StoreResponseRequest) :
    References catalogue
      ((Operation.storeResponse request).apply catalogue assignment
        database) := by
  have lookup :=
    response?_storeResponse catalogue assignment request database
  rw [Operation.apply_eq_performAll, Operation.committed] at lookup ⊢
  rcases committed_storeResponse catalogue assignment request database
    with ⟨error, _, none⟩ |
      ⟨assessment, question, resolved, _, _, equal⟩
  · rw [none]
    exact holds
  · rw [equal] at lookup ⊢
    have has :=
      hasParticipation_storeResponse catalogue assignment assessment
        question request database
    have onlyOwn (pair : Pair)
        (after :
          (Program.performAll
              (bodyStatements catalogue assignment assessment question
                  request database ++
                submitStatements request)
              database).HasParticipation pair) :
        database.HasParticipation pair ∨ pair = request.pair := by
      rcases (hasParticipation_performAll _ _ _).mp after with
        old | ⟨statement, member, inserts⟩
      · exact Or.inl old
      · exact Or.inr (inserts_storeResponse resolved member inserts)
    have ownListed : PairListed catalogue request.pair :=
      ⟨resolved.isUser, assessment, resolved.assessmentFound⟩
    rcases lookup with same | ⟨_, saved, savedResolved, lookup⟩
    · refine
        holds.of_sameResponses same
          (fun pair old =>
            (hasParticipation_performAll _ _ _).mpr (Or.inl old)) ?_
      intro pair after
      rcases onlyOwn pair after with old | rfl
      · exact Or.inl old
      · exact Or.inr ownListed
    · constructor
      · intro pair after
        rcases onlyOwn pair after with old | rfl
        · exact holds.participations pair old
        · exact ownListed
      · intro key response found
        rw [lookup] at found
        split_ifs at found with own
        · rw [own]
          exact has
        · exact
            (hasParticipation_performAll _ _ _).mpr
              (Or.inl (holds.participated key response found))
      · intro key response found
        rw [lookup] at found
        split_ifs at found with own
        · rw [own]
          exact
            ⟨saved, savedResolved.questionFound,
              savedResolved.questionBelongs⟩
        · exact holds.questions key response found
      · intro key response found grader isGrader
        rw [lookup] at found
        split_ifs at found with own
        · cases found
          have kept :=
            (gradedAt_savedResponse assignment saved request
              database).2
          rw [kept] at isGrader
          cases old : database.response? request.key with
          | none =>
              rw [old] at isGrader
              cases isGrader
          | some previous =>
              rw [old] at isGrader
              exact holds.graders _ _ old grader isGrader
        · exact holds.graders key response found grader isGrader

end SurveyController

namespace GradingController

theorem inserts_store {catalogue : Catalogue} {request : StoreRequest}
    {assessment : Assessment}
    (resolved : Resolved catalogue request assessment)
    {database : Database} {statement : Statement}
    (member :
      statement ∈ storeStatements catalogue assessment request database)
    {pair : Pair} (inserts : Inserts pair statement) :
    pair = request.pair := by
  rcases List.mem_append.mp member with grades | rescores
  · have loop :=
      Program.loopStatements_invariant (fun _ : Database => True)
        (gradeStatements catalogue assessment request)
        request.responses (fun _ _ _ _ => True.intro) database
        True.intro
    rcases loop.2 statement grades with ⟨entry, _, reached, _, inEntry⟩
    rcases gradeStatements_cases catalogue assessment request entry
        reached with none | ⟨response, _, _, equal⟩
    · rw [none] at inEntry
      cases inEntry
    · rw [equal] at inEntry
      rcases List.mem_cons.mp inEntry with saves | rescores
      · rw [saves] at inserts
        rcases inserts with ⟨columns, absurd⟩
        cases absurd
      · rw [pair_of_inserts_rescore rescores inserts]
        exact resolved.pair_eq
  · rw [pair_of_inserts_rescore rescores inserts]
    exact resolved.pair_eq

/-- A grade is one of a listed grader. -/
theorem references_store {catalogue : Catalogue} {database : Database}
    (holds : References catalogue database) {request : StoreRequest}
    (isUser : request.userId ∈ catalogue.users)
    (assignment : SelectionAssignment) :
    References catalogue
      ((Operation.grade request).apply catalogue assignment
        database) := by
  have lookup (key : ResponseKey) :=
    response?_store catalogue assignment request database key
  rw [Operation.apply_eq_performAll, Operation.committed] at lookup ⊢
  rcases committed_store catalogue request database with
    ⟨error, _, none⟩ | ⟨assessment, resolved, equal⟩
  · rw [none]
    exact holds
  · rw [equal] at lookup ⊢
    have old (key : ResponseKey) (response : ParticipantResponse)
        (found :
          (Program.performAll
              (storeStatements catalogue assessment request database)
              database).response? key = some response) :
        ∃ previous,
          database.response? key = some previous ∧
            (response.gradedBy = previous.gradedBy ∨
              response.gradedBy = some request.userId) := by
      rcases lookup key with
        same | ⟨previous, new, isOld, isNew, graded⟩
      · rw [same] at found
        exact ⟨response, found, Or.inl rfl⟩
      · rw [isNew] at found
        cases found
        exact ⟨previous, isOld, Or.inr graded.gradedBy⟩
    constructor
    · intro pair after
      rcases (hasParticipation_performAll _ _ _).mp after with
        before | ⟨statement, member, inserts⟩
      · exact holds.participations pair before
      · rw [inserts_store resolved member inserts]
        exact ⟨resolved.isUser, assessment, resolved.assessmentFound⟩
    · intro key response found
      rcases old key response found with ⟨previous, isOld, _⟩
      exact
        (hasParticipation_performAll _ _ _).mpr
          (Or.inl (holds.participated key previous isOld))
    · intro key response found
      rcases old key response found with ⟨previous, isOld, _⟩
      exact holds.questions key previous isOld
    · intro key response found grader isGrader
      rcases old key response found with ⟨previous, isOld, same | new⟩
      · rw [same] at isGrader
        exact holds.graders key previous isOld grader isGrader
      · rw [new] at isGrader
        cases isGrader
        exact isUser

end GradingController

namespace RecalculateAssessmentScores

/-- The command inserts participations of listed pairs only. -/
theorem references_recalculate {catalogue : Catalogue}
    {database : Database} (holds : References catalogue database)
    (assignment : SelectionAssignment) (options : Options) :
    References catalogue
      ((Operation.recalculate options).apply catalogue assignment
        database) := by
  have same :=
    participantResponses_recalculate catalogue assignment options database
  rw [Operation.apply_eq_performAll, Operation.committed] at same ⊢
  rcases issued_handle catalogue options database with
    ⟨statements, ⟨entries, inScope, loops⟩, issues⟩
  refine
    holds.of_sameResponses same
      (fun pair old =>
        (hasParticipation_performAll _ _ _).mpr (Or.inl old)) ?_
  intro pair after
  rcases (hasParticipation_performAll _ _ _).mp after with
    old | ⟨statement, member, inserts⟩
  · exact Or.inl old
  · apply Or.inr
    rw [issues] at member
    rcases List.mem_append.mp member with fixes | rescores
    · unfold fixStatements at fixes
      split_ifs at fixes
      · rw [List.mem_singleton.mp fixes] at inserts
        rcases inserts with ⟨columns, absurd⟩
        cases absurd
      · cases fixes
    · rw [loops] at rescores
      have loop :=
        Program.loopStatements_invariant (fun _ : Database => True)
          (entryStatements catalogue options.now) entries
          (fun _ _ _ _ => True.intro)
          (Program.performAll (fixStatements options) database)
          True.intro
      rcases loop.2 statement rescores with
        ⟨entry, isEntry, reached, _, inEntry⟩
      rw [pair_of_inserts_rescore inEntry inserts]
      exact
        ⟨(inScope entry isEntry).2, entry.1, (inScope entry isEntry).1⟩

end RecalculateAssessmentScores

end SultanPass
