import SultanPass.Library.CommitLog
import SultanPass.ResponseHistory
import Mathlib.Data.Fin.VecNotation

/-!
# Two grading requests next to each other

Each request computes the score of the participant from its own snapshot and
its own grades, and both write it to one row.  No grade of requests with
different written questions is lost: every grade is the column of one
response, which the other request does not touch.  The score and the status
of the row are those of the request that commits last, and they leave out the
grades of the other unless its snapshot was taken after the other's commit.
-/

namespace SultanPass

open SultanPass.Library
open SultanPass.AssessmentScoreService

/-! ## The row of the participant -/

/-- No statement removes the participation row of a pair. -/
theorem isSome_participation?_performAll
    (statements : List Statement) (database : Database) (pair : Pair)
    (present : (database.participation? pair).isSome = true) :
    ((Program.performAll statements database).participation?
      pair).isSome = true := by
  rcases Option.isSome_iff_exists.mp present with ⟨row, found⟩
  have ownPair : row.pair = pair := by
    simpa using List.find?_some found
  rcases List.mem_iff_getElem?.mp (List.mem_of_find?_eq_some found) with
    ⟨index, atIndex⟩
  rcases Database.getElem?_performAll statements database index row
      atIndex with ⟨after, afterAtIndex, samePair, _⟩
  rw [Database.participation?, List.find?_isSome]
  exact
    ⟨after, List.mem_of_getElem? afterAtIndex,
      decide_eq_true (samePair.trans ownPair)⟩

/--
A recalculation, computed on one database and performed on another, writes
what it has computed.
-/
theorem participation?_perform_rescoreStatements
    {catalogue : Catalogue} (now : Timestamp)
    {assessment : Assessment} {participant : UserId}
    {computedOn performedOn : Database} {score : ℚ}
    (computed :
      calculateScore catalogue computedOn assessment participant =
        .ok (some score))
    (computedRow :
      (computedOn.participation?
        ⟨assessment.id, participant⟩).isSome = true)
    (performedRow :
      (performedOn.participation?
        ⟨assessment.id, participant⟩).isSome = true) :
    ∃ row,
      (Program.performAll
          (rescoreStatements catalogue now assessment participant
            computedOn)
          performedOn).participation? ⟨assessment.id, participant⟩ =
        some row ∧
      row.score = some score ∧
      row.status =
        determineStatus catalogue computedOn assessment participant := by
  have sameStatement (columns : ParticipationColumns) :
      computedOn.upsertStatement ⟨assessment.id, participant⟩ columns =
        performedOn.upsertStatement ⟨assessment.id, participant⟩
          columns := by
    rw [Database.upsertStatement, Database.upsertStatement,
      if_pos computedRow, if_pos performedRow]
  rcases Option.isSome_iff_exists.mp performedRow with ⟨old, found⟩
  rw [rescoreStatements, computed]
  dsimp only
  rw [sameStatement]
  change
    ∃ row,
      (performedOn.upsertParticipation _ _).participation? _ =
        some row ∧ _
  rw [Database.participation?_upsertParticipation_self, found]
  exact ⟨_, rfl, rfl, rfl⟩

/-! ## One grading request -/

namespace GradingController

/-- Every response of the participant can be scored. -/
def AllEvaluate (catalogue : Catalogue) (assessment : Assessment)
    (participant : UserId) (database : Database) : Prop :=
  ∀ response ∈ database.responsesOf ⟨assessment.id, participant⟩,
    Evaluates catalogue assessment response

theorem allEvaluate_congr
    {left right : Database}
    (same : left.participantResponses = right.participantResponses)
    (catalogue : Catalogue) (assessment : Assessment)
    (participant : UserId) :
    AllEvaluate catalogue assessment participant left ↔
      AllEvaluate catalogue assessment participant right := by
  rw [AllEvaluate, AllEvaluate, Database.responsesOf,
    Database.responsesOf, same]

theorem exists_calculateScore_eq_ok_iff
    (catalogue : Catalogue) (database : Database)
    (assessment : Assessment) (participant : UserId) :
    (∃ score,
      calculateScore catalogue database assessment participant =
        .ok score) ↔
      AllEvaluate catalogue assessment participant database :=
  exists_scoreOf_eq_ok_iff _ _ _

theorem allEvaluate_saveGrade_iff
    (catalogue : Catalogue) (assessment : Assessment)
    (participant : UserId) (database : Database)
    (key : ResponseKey) (columns : GradeColumns) :
    AllEvaluate catalogue assessment participant
        (database.saveGrade key columns) ↔
      AllEvaluate catalogue assessment participant database := by
  rw [AllEvaluate, Database.responsesOf_saveGrade, List.forall_mem_map]
  apply forall₂_congr
  intro response _
  by_cases own : response.key = key
  · rw [if_pos own]
    exact evaluates_fill catalogue assessment columns response
  · rw [if_neg own]

theorem allEvaluate_savedGrades_iff
    (catalogue : Catalogue) (assessment : Assessment)
    (request : StoreRequest) (entries : List GradeEntry)
    (database : Database) :
    AllEvaluate catalogue assessment request.participantId
        (savedGrades catalogue assessment request entries database) ↔
      AllEvaluate catalogue assessment request.participantId
        database := by
  induction entries generalizing database with
  | nil => exact Iff.rfl
  | cons entry rest induction =>
      refine (induction _).trans ?_
      rw [savedGrade]
      cases database.response? (request.pair, entry.questionId) with
      | none => exact Iff.rfl
      | some response =>
          dsimp only
          split_ifs
          · exact allEvaluate_saveGrade_iff _ _ _ _ _ _
          · exact Iff.rfl

theorem issued_gradeEntry_of_allEvaluate
    {catalogue : Catalogue} {request : StoreRequest}
    {assessment : Assessment}
    (resolved : Resolved catalogue request assessment)
    (entry : GradeEntry) {database : Database}
    (evaluate :
      AllEvaluate catalogue assessment request.participantId
        database) :
    (gradeEntry catalogue assessment request entry).issued database =
      (.ok (),
        gradeStatements catalogue assessment request entry
          database) := by
  rw [issued_gradeEntry resolved, gradeOutcome]
  congr 1
  cases database.response? (request.pair, entry.questionId) with
  | none => rfl
  | some response =>
      dsimp only
      split_ifs
      · rcases (exists_calculateScore_eq_ok_iff _ _ _ _).mpr
            ((allEvaluate_saveGrade_iff _ _ _ _ _ _).mpr evaluate) with
          ⟨score, computed⟩
        rw [computed]
        rfl
      · rfl

theorem allEvaluate_perform_loop_iff
    (catalogue : Catalogue) (assessment : Assessment)
    (request : StoreRequest) (entries : List GradeEntry)
    (database : Database) :
    AllEvaluate catalogue assessment request.participantId
        (Program.performAll
          (Program.loopStatements
            (gradeStatements catalogue assessment request) entries
            database)
          database) ↔
      AllEvaluate catalogue assessment request.participantId
        database :=
  (allEvaluate_congr
      (participantResponses_perform_loop catalogue assessment request
        entries (fun _ => rfl) rfl) _ _ _).trans
    (allEvaluate_savedGrades_iff _ _ _ _ _)

/-- A grading request returns exactly when every response can be scored. -/
theorem issued_storeBody_of_allEvaluate
    {catalogue : Catalogue} {request : StoreRequest}
    {assessment : Assessment}
    (resolved : Resolved catalogue request assessment)
    (database : Database) :
    (AllEvaluate catalogue assessment request.participantId database ∧
      (storeBody catalogue assessment request).issued database =
        (.ok (),
          storeStatements catalogue assessment request database)) ∨
    (¬ AllEvaluate catalogue assessment request.participantId database ∧
      ∃ error,
        ((storeBody catalogue assessment request).issued database).1 =
          .error error) := by
  by_cases evaluate :
      AllEvaluate catalogue assessment request.participantId database
  · refine Or.inl ⟨evaluate, ?_⟩
    have loop :=
      Program.issued_forEach_of_ok
        (AllEvaluate catalogue assessment request.participantId)
        (gradeEntry catalogue assessment request)
        (gradeStatements catalogue assessment request)
        request.responses
        (fun entry _ _ reached =>
          issued_gradeEntry_of_allEvaluate resolved entry reached)
        (fun entry _ reached before => by
          have one :=
            (allEvaluate_perform_loop_iff catalogue assessment request
              [entry] reached).mpr before
          rw [Program.loopStatements, Program.loopStatements,
            List.append_nil] at one
          exact one)
        database evaluate
    rcases (exists_calculateScore_eq_ok_iff _ _ _ _).mpr
        ((allEvaluate_perform_loop_iff catalogue assessment request
          request.responses database).mpr evaluate) with
      ⟨score, computed⟩
    rw [storeBody, Program.bind_eq, Program.issued_bind_of_ok loop]
    simp only [Program.bind_eq, Program.issued_bind,
      issued_calculateAndUpdateScore, computed, storeStatements]
    change (Except.ok (), _ ++ (_ ++ [])) = _
    rw [List.append_nil]
  · apply Or.inr
    refine ⟨evaluate, ?_⟩
    rcases issued_storeBody resolved database with fails | ⟨scored, _⟩
    · exact fails
    · exact
        (evaluate
          ((allEvaluate_perform_loop_iff _ _ _ _ _).mp
            ((exists_calculateScore_eq_ok_iff _ _ _ _).mp scored))).elim

/-- The database after a request that can score every response. -/
theorem finalState_store
    {catalogue : Catalogue} {request : StoreRequest}
    {assessment : Assessment}
    (resolved : Resolved catalogue request assessment)
    {database : Database}
    (evaluate :
      AllEvaluate catalogue assessment request.participantId database) :
    (storeBody catalogue assessment request).issued database =
        (.ok (),
          storeStatements catalogue assessment request database) ∧
      (store catalogue request).finalState database =
        Program.performAll
          (storeStatements catalogue assessment request database)
          database := by
  rcases issued_storeBody_of_allEvaluate resolved database with
    ⟨_, issues⟩ | ⟨raises, _⟩
  · refine ⟨issues, ?_⟩
    rw [(atomic_store catalogue request).finalState_eq,
      store_of_resolved resolved]
    rw [← Program.issued_transaction] at issues
    rw [Program.committed_of_ok issues]
  · exact (raises evaluate).elim

/-- A grading request keeps the keys of the responses. -/
theorem sameKeys_storeStatements
    (catalogue : Catalogue) (assessment : Assessment)
    (request : StoreRequest) (database : Database) :
    SameKeys
      (Program.performAll
        (storeStatements catalogue assessment request database)
        database)
      database := by
  have saved :=
    participantResponses_perform_storeStatements catalogue assessment
      request (fun _ => rfl : SameKeys database database)
  refine (SameKeys.of_sameResponses saved).trans ?_
  exact
    List.foldlRecOn (motive := fun reached => SameKeys reached database)
      request.responses _ (fun _ => rfl)
      fun reached same entry _ =>
        (sameKeys_savedGrade _ _ _ _ _).trans same

/-- The row after a request that is computed on another database. -/
theorem participation?_perform_storeStatements
    {catalogue : Catalogue} {request : StoreRequest}
    {assessment : Assessment}
    (resolved : Resolved catalogue request assessment)
    {computedOn performedOn : Database} {score : ℚ}
    (computed :
      calculateScore catalogue
          (Program.performAll
            (storeStatements catalogue assessment request computedOn)
            computedOn)
          assessment request.participantId = .ok (some score))
    (computedRow :
      (computedOn.participation? request.pair).isSome = true)
    (performedRow :
      (performedOn.participation? request.pair).isSome = true) :
    ∃ row,
      (Program.performAll
          (storeStatements catalogue assessment request computedOn)
          performedOn).participation? request.pair = some row ∧
      row.score = some score ∧
      row.status =
        determineStatus catalogue
          (Program.performAll
            (storeStatements catalogue assessment request computedOn)
            computedOn)
          assessment request.participantId := by
  have sameResponses :
      (Program.performAll
          (storeStatements catalogue assessment request computedOn)
          computedOn).responsesOf
          ⟨assessment.id, request.participantId⟩ =
        (Program.performAll
          (Program.loopStatements
            (gradeStatements catalogue assessment request)
            request.responses computedOn)
          computedOn).responsesOf
          ⟨assessment.id, request.participantId⟩ := by
    rw [storeStatements, Program.performAll_append]
    exact responsesOf_rescore _ _ _ _ _ _
  rw [determineStatus, sameResponses]
  rw [calculateScore, sameResponses] at computed
  rw [← resolved.pair_eq] at computedRow performedRow ⊢
  rw [storeStatements, Program.performAll_append]
  exact
    participation?_perform_rescoreStatements request.now computed
      (isSome_participation?_performAll _ _ _ computedRow)
      (isSome_participation?_performAll _ _ _ performedRow)

theorem allEvaluate_finalState_store
    {catalogue : Catalogue} {request : StoreRequest}
    {assessment : Assessment}
    (resolved : Resolved catalogue request assessment)
    {database : Database}
    (evaluate :
      AllEvaluate catalogue assessment request.participantId database) :
    AllEvaluate catalogue assessment request.participantId
      ((store catalogue request).finalState database) := by
  rw [(finalState_store resolved evaluate).2]
  apply
    (allEvaluate_congr
      (participantResponses_perform_storeStatements catalogue assessment
        request (fun _ => rfl)) _ _ _).mpr
  exact (allEvaluate_savedGrades_iff _ _ _ _ _).mpr evaluate

/-! ## Two grading requests -/

/-- The written questions that a request has entries for. -/
def gradedQuestions (catalogue : Catalogue) (request : StoreRequest) :
    List QuestionId :=
  (request.responses.map GradeEntry.questionId).filter fun questionId =>
    (catalogue.question? questionId).any fun question =>
      question.questionType = .written

theorem mem_gradedQuestions
    {catalogue : Catalogue} {request : StoreRequest} {entry : GradeEntry}
    (member : entry ∈ request.responses)
    {response : ParticipantResponse}
    (same : entry.questionId = response.questionId)
    (written : isWritten catalogue response = true) :
    entry.questionId ∈ gradedQuestions catalogue request := by
  refine List.mem_filter.mpr ⟨List.mem_map_of_mem member, ?_⟩
  rw [isWritten, ← same] at written
  cases found : catalogue.question? entry.questionId with
  | none =>
      rw [found] at written
      cases written
  | some question =>
      rw [found] at written
      exact written

/-- A request leaves the responses to questions of another one alone. -/
theorem response?_finalState_store
    {catalogue : Catalogue} {earlier later : StoreRequest}
    {assessment : Assessment}
    (resolved : Resolved catalogue earlier assessment)
    (apart :
      (gradedQuestions catalogue earlier).Disjoint
        (gradedQuestions catalogue later))
    {database : Database}
    (evaluate :
      AllEvaluate catalogue assessment earlier.participantId database)
    {entry : GradeEntry} (member : entry ∈ later.responses) :
    ((store catalogue earlier).finalState database).response?
        (later.pair, entry.questionId) =
      database.response? (later.pair, entry.questionId) := by
  rw [(finalState_store resolved evaluate).2]
  rcases sameOrGraded_storeStatements catalogue assessment earlier
      database (later.pair, entry.questionId) with
    same | ⟨old, new, oldFound, _, graded⟩
  · exact same
  · rcases graded.hasEntry with ⟨other, otherMember, otherQuestion⟩
    have ownQuestion : entry.questionId = old.questionId :=
      (congrArg Prod.snd
        ((Database.response?_eq_some_iff _ _ _).mp oldFound).2).symm
    have both := mem_gradedQuestions member ownQuestion graded.wasWritten
    rw [ownQuestion, ← otherQuestion] at both
    exact
      (apart
        (mem_gradedQuestions otherMember otherQuestion
          graded.wasWritten)
        both).elim

/--
What the rows of a pair are once two requests have graded it: `database` is
the earlier state, `snapshot` the one that the later request has seen, and
`reached` the committed one.  By `loaded` the later request has seen the rows
that it grades as they are when it writes them, so that the columns in which
its grade differs from the loaded row are those in which it differs from the
written one.
-/
structure GradedByBoth (catalogue : Catalogue) (assessment : Assessment)
    (earlier later : StoreRequest)
    (database snapshot reached : Database) : Prop where
  loaded :
    ∀ entry ∈ later.responses,
      snapshot.response? (later.pair, entry.questionId) =
        ((store catalogue earlier).finalState database).response?
          (later.pair, entry.questionId)
  responses :
    reached.participantResponses =
      ((store catalogue later).finalState
        ((store catalogue earlier).finalState
          database)).participantResponses
  serial :
    snapshot = (store catalogue earlier).finalState database →
      reached =
        (store catalogue later).finalState
          ((store catalogue earlier).finalState database)
  row :
    ∀ score,
      calculateScore catalogue
          ((store catalogue later).finalState snapshot)
          assessment later.participantId = .ok (some score) →
        ∃ row,
          reached.participation? later.pair = some row ∧
            row.score = some score ∧
            row.status =
              determineStatus catalogue
                ((store catalogue later).finalState snapshot)
                assessment later.participantId

/-- The later request performs what it has computed on its snapshot. -/
theorem gradedByBoth_of_snapshot
    {catalogue : Catalogue} {earlier later : StoreRequest}
    {assessment : Assessment}
    (earlierResolved : Resolved catalogue earlier assessment)
    (laterResolved : Resolved catalogue later assessment)
    (samePair : earlier.pair = later.pair)
    (apart :
      (gradedQuestions catalogue earlier).Disjoint
        (gradedQuestions catalogue later))
    {database snapshot : Database}
    (evaluate :
      AllEvaluate catalogue assessment earlier.participantId database)
    (hasRow : (database.participation? later.pair).isSome = true)
    (taken :
      snapshot = database ∨
        snapshot = (store catalogue earlier).finalState database) :
    GradedByBoth catalogue assessment earlier later database snapshot
      (Program.performAll
        (storeStatements catalogue assessment later snapshot)
        ((store catalogue earlier).finalState database)) := by
  have sameParticipant : earlier.participantId = later.participantId :=
    congrArg Pair.participantId samePair
  have afterEvaluate :=
    allEvaluate_finalState_store earlierResolved evaluate
  have afterEarlier := (finalState_store earlierResolved evaluate).2
  have untouched (entry : GradeEntry)
      (member : entry ∈ later.responses) :=
    response?_finalState_store earlierResolved apart evaluate member
  rw [sameParticipant] at afterEvaluate evaluate
  have afterRow :
      (((store catalogue earlier).finalState database).participation?
        later.pair).isSome = true := by
    rw [afterEarlier]
    exact isSome_participation?_performAll _ _ _ hasRow
  have afterKeys :
      SameKeys ((store catalogue earlier).finalState database)
        database := by
    rw [afterEarlier]
    exact sameKeys_storeStatements _ _ _ _
  have afterBoth := (finalState_store laterResolved afterEvaluate).2
  have onSnapshot :
      SameKeys snapshot
          ((store catalogue earlier).finalState database) ∧
        AllEvaluate catalogue assessment later.participantId
          snapshot ∧
        (snapshot.participation? later.pair).isSome = true := by
    rcases taken with rfl | rfl
    · exact ⟨afterKeys.symm, evaluate, hasRow⟩
    · exact ⟨fun _ => rfl, afterEvaluate, afterRow⟩
  rcases onSnapshot with ⟨sameKeys, snapshotEvaluate, snapshotRow⟩
  constructor
  · intro entry member
    rcases taken with rfl | rfl
    · exact (untouched entry member).symm
    · rfl
  · rw [afterBoth,
      participantResponses_perform_storeStatements _ _ _ sameKeys,
      participantResponses_perform_storeStatements _ _ _ fun _ => rfl]
  · intro serial
    rw [afterBoth, serial]
  · intro score computed
    rw [(finalState_store laterResolved snapshotEvaluate).2]
      at computed ⊢
    exact
      participation?_perform_storeStatements laterResolved computed
        snapshotRow afterRow

/-- Two grading requests before their first statement. -/
def twoRequests (catalogue : Catalogue)
    (requests : Fin 2 → StoreRequest) (database : Database) :
    System (Fin 2) Database Statement PhpError Unit :=
  System.start (fun index => store catalogue (requests index)) database

/--
Two grading requests of one pair with different written questions that have
both committed, under any schedule: the responses are those of running them
one after the other, and the row of the pair has the score and the status of
the responses that the later request has seen, with its own grades.  When its
snapshot was taken after the earlier commit, the whole database is that of
the two runs.
-/
theorem gradedByBoth_of_run
    (catalogue : Catalogue) (requests : Fin 2 → StoreRequest)
    (assessment : Assessment)
    (resolved : ∀ index,
      Resolved catalogue (requests index) assessment)
    (samePair : (requests 0).pair = (requests 1).pair)
    (apart :
      (gradedQuestions catalogue (requests 0)).Disjoint
        (gradedQuestions catalogue (requests 1)))
    (database : Database)
    (hasRow :
      (database.participation? (requests 0).pair).isSome = true)
    (schedule : List (Fin 2))
    (returned : ∀ index,
      (((twoRequests catalogue requests database).run
        schedule).sessions index).result? = some ()) :
    ∃ earlier later snapshot,
      earlier ≠ later ∧
        (snapshot = database ∨
          snapshot =
            (store catalogue (requests earlier)).finalState
              database) ∧
        GradedByBoth catalogue assessment (requests earlier)
          (requests later) database snapshot
          ((twoRequests catalogue requests database).run
            schedule).shared := by
  let body (index : Fin 2) : DatabaseProgram Unit :=
    storeBody catalogue assessment (requests index)
  have asTransactions :
      twoRequests catalogue requests database =
        System.start (fun index => (body index).transaction)
          database := by
    rw [twoRequests]
    congr 1
    funext index
    exact store_of_resolved (resolved index)
  have ownPair (index : Fin 2) :
      (requests index).pair = (requests 0).pair := by
    match index with
    | 0 => rfl
    | 1 => exact samePair.symm
  have ownQuestions {one other : Fin 2} (different : one ≠ other) :
      (gradedQuestions catalogue (requests one)).Disjoint
        (gradedQuestions catalogue (requests other)) := by
    match one, other with
    | 0, 1 => exact apart
    | 1, 0 => exact apart.symm
    | 0, 0 => exact (different rfl).elim
    | 1, 1 => exact (different rfl).elim
  rw [asTransactions] at returned ⊢
  have plain (index : Fin 2) : (body index).Plain :=
    plain_storeBody catalogue assessment (requests index)
  obtain ⟨commits, replays⟩ :
      ∃ commits, Replays body database commits _ :=
    replays_run plain schedule
  rcases replays.of_two fun index =>
      replays.listed_of_result (returned index) with
    ⟨earlier, later, snapshot, different, log, taken⟩
  have evaluates :
      ∀ commit ∈ commits,
        AllEvaluate catalogue assessment
            (requests commit.1).participantId commit.2 ∧
          (body commit.1).issued commit.2 =
            (.ok (),
              storeStatements catalogue assessment (requests commit.1)
                commit.2) := by
    intro commit member
    rcases replays.returned commit member with ⟨value, returns⟩
    rcases issued_storeBody_of_allEvaluate (resolved commit.1)
        commit.2 with both | ⟨_, error, fails⟩
    · exact both
    · rw [fails] at returns
      cases returns
  rw [log] at evaluates
  rcases evaluates (earlier, database) List.mem_cons_self with
    ⟨evaluate, earlierIssues⟩
  rcases evaluates (later, snapshot)
      (List.mem_cons_of_mem _ List.mem_cons_self) with
    ⟨_, laterIssues⟩
  have afterEarlier :=
    (finalState_store (resolved earlier) evaluate).2
  have reached :
      ((System.start (fun index => (body index).transaction)
          database).run schedule).shared =
        Program.performAll
          (storeStatements catalogue assessment (requests later)
            snapshot)
          ((store catalogue (requests earlier)).finalState
            database) := by
    rw [replays.shared, log, afterEarlier]
    change
      Program.performAll ((body later).issued snapshot).2
        (Program.performAll ((body earlier).issued database).2
          database) = _
    rw [earlierIssues, laterIssues]
  rw [earlierIssues, ← afterEarlier] at taken
  refine ⟨earlier, later, snapshot, different, taken, ?_⟩
  rw [reached]
  apply
    gradedByBoth_of_snapshot (resolved earlier) (resolved later)
      ((ownPair earlier).trans (ownPair later).symm)
      (ownQuestions different) evaluate
  · rw [ownPair later]
    exact hasRow
  · exact taken

/-- Two requests that grade different texts of participant 1. -/
def differentTexts : Fin 2 → StoreRequest :=
  ![sampleGrades [(2, some 5)], sampleGrades [(3, some 3)]]

/-- Participant 1 has submitted the percentile assessment. -/
def submittedDatabase : Database :=
  sampleRun .jsonEncoded
    [.storeResponse (sampleSelection 1 [] .next),
      .storeResponse (sampleText 2 "a" .next),
      .storeResponse (sampleText 3 "b" .submit)]

/-- Both requests begin before either of them grades. -/
def bothBegin : List (Fin 2) :=
  [0, 1] ++ List.replicate 11 0 ++ List.replicate 11 1

theorem resolved_sampleGrades
    (grades : List (QuestionId × Option ℚ)) :
    Resolved sampleCatalogue (sampleGrades grades)
      sampleAssessment where
  assessmentFound := by
    change sampleCatalogue.assessment? 1 = some sampleAssessment
    decide +kernel
  isUser := List.mem_cons_self

theorem gradedByBoth_of_run_differentTexts :
    ∃ earlier later snapshot,
      earlier ≠ later ∧
        (snapshot = submittedDatabase ∨
          snapshot =
            (store sampleCatalogue (differentTexts earlier)).finalState
              submittedDatabase) ∧
        GradedByBoth sampleCatalogue sampleAssessment
          (differentTexts earlier) (differentTexts later)
          submittedDatabase snapshot
          ((twoRequests sampleCatalogue differentTexts
            submittedDatabase).run bothBegin).shared :=
  gradedByBoth_of_run sampleCatalogue differentTexts sampleAssessment
    (fun index =>
      match index with
      | 0 => resolved_sampleGrades _
      | 1 => resolved_sampleGrades _)
    rfl
    (List.disjoint_left.mpr
      (by decide +kernel :
        ∀ questionId ∈
            gradedQuestions sampleCatalogue (differentTexts 0),
          questionId ∉
            gradedQuestions sampleCatalogue (differentTexts 1)))
    submittedDatabase (by decide +kernel) bothBegin
    (by decide +kernel)

/-- The later commit overwrites the score and the status of both grades. -/
theorem concurrent_gradings_lose_a_score :
    let reached :=
      (twoRequests sampleCatalogue differentTexts
        submittedDatabase).run bothBegin
    let oneAfterTheOther :=
      (store sampleCatalogue (differentTexts 1)).finalState
        ((store sampleCatalogue (differentTexts 0)).finalState
          submittedDatabase)
    (submittedDatabase.participation? ⟨1, 1⟩).isSome = true ∧
      gradedQuestions sampleCatalogue (differentTexts 0) = [2] ∧
      gradedQuestions sampleCatalogue (differentTexts 1) = [3] ∧
      (∀ index, (reached.sessions index).result? = some ()) ∧
      ((reached.shared.participation? ⟨1, 1⟩).map fun row =>
          (row.score, row.status)) =
        some (some 30, .inProgress) ∧
      calculateScore sampleCatalogue reached.shared sampleAssessment
          1 = .ok (some 40) ∧
      determineStatus sampleCatalogue reached.shared sampleAssessment
          1 = .completed ∧
      ((oneAfterTheOther.participation? ⟨1, 1⟩).map fun row =>
          (row.score, row.status)) =
        some (some 40, .completed) := by
  decide +kernel

end GradingController

end SultanPass
