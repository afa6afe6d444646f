import SultanPass.Operations

/-!
# Where the contents of a response come from

An answer sets the answer column of one response and leaves its grade; a
grade sets the grade columns and leaves the answer; a recalculation touches
no response.  Neither writer looks at what the other has written.

For a run from the empty database this attributes the contents of every
response: its grade to a grading request, and its text to the answer that
was graded or to a later answer (`graded_response_attributed`).
-/

namespace SultanPass

open SultanPass.Library
open SultanPass.AssessmentScoreService
open SultanPass.ParticipantResponseObserver

/-! ## Answers -/

namespace SurveyController

/-- After the transaction the responses are as after saving the answer. -/
theorem participantResponses_storeResponse
    (catalogue : Catalogue) (assignment : SelectionAssignment)
    (assessment : Assessment) (question : AssessmentQuestion)
    (request : StoreResponseRequest) (database : Database) :
    (Program.performAll
        (bodyStatements catalogue assignment assessment question
            request database ++
          submitStatements request)
        database).participantResponses =
      (answered assignment question request
        database).participantResponses := by
  have observes (reached : Database) :
      (Program.performAll
          (observedStatements catalogue request.now assessment
            (savedResponse assignment question request database)
            reached)
          reached).participantResponses =
        reached.participantResponses := by
    rw [observedStatements]
    split_ifs
    · exact participantResponses_rescore _ _ _ _ _
    · rfl
  have submits (reached : Database) :
      (Program.performAll (submitStatements request)
          reached).participantResponses =
        reached.participantResponses := by
    rcases submitStatements_cases request with
      ⟨_, single⟩ | ⟨_, none⟩
    · rw [single]
      rfl
    · rw [none]
      rfl
  rw [Program.performAll_append, submits, bodyStatements,
    Program.performAll_cons, Program.performAll_append]
  change
    (Database.upsertParticipation _ request.pair
      (startedColumns request.now)).participantResponses = _
  rw [Database.participantResponses_upsertParticipation]
  exact observes (answered assignment question request database)

/-- The responses after `storeResponse`: unchanged, or one saved. -/
theorem response?_storeResponse
    (catalogue : Catalogue) (assignment : SelectionAssignment)
    (request : StoreResponseRequest) (database : Database) :
    ((Operation.storeResponse request).apply catalogue assignment
          database).participantResponses =
        database.participantResponses ∨
      ∃ assessment question,
        Resolved catalogue request assessment question ∧
        ∀ key,
          ((Operation.storeResponse request).apply catalogue
              assignment database).response? key =
            if key = request.key then
              some (savedResponse assignment question request database)
            else
              database.response? key := by
  rw [Operation.apply_eq_performAll, Operation.committed]
  rcases committed_storeResponse catalogue assignment request database
    with ⟨error, _, none⟩ |
      ⟨assessment, question, resolved, _, _, equal⟩
  · rw [none]
    exact Or.inl rfl
  · apply Or.inr
    refine ⟨assessment, question, resolved, ?_⟩
    intro key
    have sameResponses :=
      participantResponses_storeResponse catalogue assignment
        assessment question request database
    rw [equal, Database.response?, sameResponses]
    by_cases own : key = request.key
    · rw [if_pos own, own]
      exact Database.response?_saveAnswer_self _ _ _
    · rw [if_neg own]
      exact Database.response?_saveAnswer_of_ne _ _ own

/-- An answer leaves the grade of its response. -/
theorem gradedAt_savedResponse
    (assignment : SelectionAssignment) (question : AssessmentQuestion)
    (request : StoreResponseRequest) (database : Database) :
    (savedResponse assignment question request database).gradedAt =
        ((database.response? request.key).getD
          (ParticipantResponse.blank request.key)).gradedAt ∧
      (savedResponse assignment question request database).gradedBy =
        ((database.response? request.key).getD
          (ParticipantResponse.blank request.key)).gradedBy := by
  rw [savedResponse]
  cases answerColumns assignment question request <;> exact ⟨rfl, rfl⟩

end SurveyController

/-! ## Grades -/

namespace GradingController

/-- The response after the loop body for one entry. -/
theorem response?_gradeStatements
    (catalogue : Catalogue) (assessment : Assessment)
    (request : StoreRequest) (entry : GradeEntry)
    (database : Database) (key : ResponseKey) :
    (Program.performAll
        (gradeStatements catalogue assessment request entry database)
        database).response? key =
      if key = (request.pair, entry.questionId) then
        (database.response? key).map fun response =>
          if isWritten catalogue response then
            (updateData assessment request entry).fill response
          else
            response
      else
        database.response? key := by
  rw [gradeStatements]
  by_cases own : key = (request.pair, entry.questionId)
  · rw [if_pos own, ← own]
    cases found : database.response? key with
    | none => exact found
    | some response =>
        dsimp only
        by_cases written : isWritten catalogue response = true
        · rw [if_pos written]
          change
            (rescore catalogue request.now assessment
              request.participantId
              (database.saveGrade key _)).response? key = _
          rw [response?_rescore, Database.response?_saveGrade_self,
            found]
          simp [written]
        · rw [if_neg written]
          simpa [written] using found
  · rw [if_neg own]
    cases database.response? (request.pair, entry.questionId) with
    | none => rfl
    | some response =>
        dsimp only
        by_cases written : isWritten catalogue response = true
        · rw [if_pos written]
          change
            (rescore catalogue request.now assessment
              request.participantId
              (database.saveGrade _ _)).response? key = _
          rw [response?_rescore,
            Database.response?_saveGrade_of_ne _ _ own]
        · rw [if_neg written]
          rfl

/-- What a grading request may turn a response into. -/
structure Graded (catalogue : Catalogue) (request : StoreRequest)
    (before after : ParticipantResponse) : Prop where
  sameKey : after.key = before.key
  sameText : after.writtenResponseText = before.writtenResponseText
  sameSelection :
    after.selectedAnswerIdsColumn = before.selectedAnswerIdsColumn
  ownPair : before.pair = request.pair
  hasEntry :
    ∃ entry ∈ request.responses, entry.questionId = before.questionId
  wasWritten : isWritten catalogue before = true
  gradedAt : after.gradedAt = some request.now
  gradedBy : after.gradedBy = some request.userId

theorem graded_fill
    {catalogue : Catalogue} (assessment : Assessment)
    {request : StoreRequest} {entry : GradeEntry}
    (member : entry ∈ request.responses)
    {response : ParticipantResponse}
    (ownKey : response.key = (request.pair, entry.questionId))
    (written : isWritten catalogue response = true) :
    Graded catalogue request response
      ((updateData assessment request entry).fill response) := by
  have hasEntry :
      ∃ other ∈ request.responses,
        other.questionId = response.questionId :=
    ⟨entry, member, (congrArg Prod.snd ownKey).symm⟩
  have ownPair : response.pair = request.pair :=
    congrArg Prod.fst ownKey
  rw [updateData]
  cases assessment.scoringMode <;>
    exact
      { sameKey := rfl
        sameText := rfl
        sameSelection := rfl
        ownPair := ownPair
        hasEntry := hasEntry
        wasWritten := written
        gradedAt := rfl
        gradedBy := rfl }

theorem Graded.trans
    {catalogue : Catalogue} {request : StoreRequest}
    {first second third : ParticipantResponse}
    (left : Graded catalogue request first second)
    (right : Graded catalogue request second third) :
    Graded catalogue request first third where
  sameKey := right.sameKey.trans left.sameKey
  sameText := right.sameText.trans left.sameText
  sameSelection := right.sameSelection.trans left.sameSelection
  ownPair := left.ownPair
  hasEntry := left.hasEntry
  wasWritten := left.wasWritten
  gradedAt := right.gradedAt
  gradedBy := right.gradedBy

/-- The response under a key is the same, or has been graded. -/
def SameOrGraded (catalogue : Catalogue) (request : StoreRequest)
    (key : ResponseKey) (before after : Database) : Prop :=
  after.response? key = before.response? key ∨
    ∃ old new,
      before.response? key = some old ∧
        after.response? key = some new ∧
        Graded catalogue request old new

theorem SameOrGraded.trans
    {catalogue : Catalogue} {request : StoreRequest}
    {key : ResponseKey} {first second third : Database}
    (left : SameOrGraded catalogue request key first second)
    (right : SameOrGraded catalogue request key second third) :
    SameOrGraded catalogue request key first third := by
  rcases right with same | ⟨old, new, oldFound, newFound, graded⟩
  · rcases left with sameLeft | ⟨old, new, oldFound, newFound, graded⟩
    · exact Or.inl (same.trans sameLeft)
    · exact Or.inr ⟨old, new, oldFound, same.trans newFound, graded⟩
  · rcases left with
      sameLeft | ⟨older, middle, olderFound, middleFound, earlier⟩
    · exact
        Or.inr ⟨old, new, sameLeft.symm.trans oldFound, newFound, graded⟩
    · rw [middleFound, Option.some.injEq] at oldFound
      subst oldFound
      exact
        Or.inr
          ⟨older, new, olderFound, newFound, earlier.trans graded⟩

theorem sameOrGraded_gradeStatements
    (catalogue : Catalogue) (assessment : Assessment)
    {request : StoreRequest} {entry : GradeEntry}
    (member : entry ∈ request.responses) (database : Database)
    (key : ResponseKey) :
    SameOrGraded catalogue request key database
      (Program.performAll
        (gradeStatements catalogue assessment request entry database)
        database) := by
  rw [SameOrGraded, response?_gradeStatements]
  by_cases own : key = (request.pair, entry.questionId)
  · rw [if_pos own]
    cases found : database.response? key with
    | none => exact Or.inl rfl
    | some response =>
        rw [Option.map_some]
        by_cases written : isWritten catalogue response = true
        · rw [if_pos written]
          apply Or.inr
          refine ⟨response, _, rfl, rfl, ?_⟩
          have responseKey :=
            ((Database.response?_eq_some_iff _ _ _).mp found).2
          exact
            graded_fill assessment member (responseKey.trans own)
              written
        · rw [if_neg written]
          exact Or.inl rfl
  · rw [if_neg own]
    exact Or.inl rfl

theorem sameOrGraded_storeStatements
    (catalogue : Catalogue) (assessment : Assessment)
    (request : StoreRequest) (database : Database)
    (key : ResponseKey) :
    SameOrGraded catalogue request key database
      (Program.performAll
        (storeStatements catalogue assessment request database)
        database) := by
  have loop :=
    Program.loopStatements_invariant
      (SameOrGraded catalogue request key database)
      (gradeStatements catalogue assessment request)
      request.responses
      (fun entry member reached earlier =>
        earlier.trans
          (sameOrGraded_gradeStatements catalogue assessment member
            reached key))
      database (Or.inl rfl)
  rw [storeStatements, Program.performAll_append]
  change
    SameOrGraded catalogue request key database
      (rescore catalogue request.now assessment request.participantId
        _)
  rw [SameOrGraded, response?_rescore]
  exact loop.1

/-- The responses after `store`: the same, or graded by the request. -/
theorem response?_store
    (catalogue : Catalogue) (assignment : SelectionAssignment)
    (request : StoreRequest) (database : Database)
    (key : ResponseKey) :
    SameOrGraded catalogue request key database
      ((Operation.grade request).apply catalogue assignment
        database) := by
  rw [Operation.apply_eq_performAll, Operation.committed]
  rcases committed_store catalogue request database with
    ⟨error, _, none⟩ | ⟨assessment, _, equal⟩
  · rw [none]
    exact Or.inl rfl
  · rw [equal]
    exact sameOrGraded_storeStatements _ _ _ _ _

end GradingController

/-! ## Grades without recalculations -/

/-- Both databases have responses under the same keys. -/
def SameKeys (left right : Database) : Prop :=
  ∀ key, (left.response? key).isSome = (right.response? key).isSome

theorem SameKeys.symm
    {left right : Database} (same : SameKeys left right) :
    SameKeys right left :=
  fun key => (same key).symm

theorem SameKeys.trans
    {first second third : Database}
    (left : SameKeys first second) (right : SameKeys second third) :
    SameKeys first third :=
  fun key => (left key).trans (right key)

theorem SameKeys.of_sameResponses
    {left right : Database}
    (same : left.participantResponses = right.participantResponses) :
    SameKeys left right := by
  intro key
  rw [Database.response?, same]
  rfl

/-- Whether a response is written depends on its key only. -/
theorem isWritten_congr
    (catalogue : Catalogue) {left right : ParticipantResponse}
    (sameKey : left.key = right.key) :
    isWritten catalogue left = isWritten catalogue right := by
  have sameQuestion : left.questionId = right.questionId :=
    congrArg Prod.snd sameKey
  rw [isWritten, isWritten, sameQuestion]

theorem participantResponses_perform_rescoreStatements
    (catalogue : Catalogue) (now : Timestamp)
    (assessment : Assessment) (participant : UserId)
    (computedOn performedOn : Database) :
    (Program.performAll
        (rescoreStatements catalogue now assessment participant
          computedOn)
        performedOn).participantResponses =
      performedOn.participantResponses := by
  rcases rescoreStatements_cases catalogue now assessment participant
      computedOn with ⟨score, _, single⟩ | ⟨_, none⟩
  · rw [single, Database.upsertStatement]
    split_ifs <;> rfl
  · rw [none]
    rfl

namespace GradingController

/-- The responses after one entry: its grade is saved, if it has one. -/
def savedGrade (catalogue : Catalogue) (assessment : Assessment)
    (request : StoreRequest) (database : Database)
    (entry : GradeEntry) : Database :=
  match database.response? (request.pair, entry.questionId) with
  | none => database
  | some response =>
      if isWritten catalogue response then
        database.saveGrade (request.pair, entry.questionId)
          (updateData assessment request entry)
      else
        database

/-- The responses after some entries of a grading request. -/
def savedGrades (catalogue : Catalogue) (assessment : Assessment)
    (request : StoreRequest) (entries : List GradeEntry)
    (database : Database) : Database :=
  entries.foldl (savedGrade catalogue assessment request) database

theorem sameKeys_savedGrade
    (catalogue : Catalogue) (assessment : Assessment)
    (request : StoreRequest) (database : Database)
    (entry : GradeEntry) :
    SameKeys (savedGrade catalogue assessment request database entry)
      database := by
  intro key
  rw [savedGrade]
  cases found :
      database.response? (request.pair, entry.questionId) with
  | none => rfl
  | some response =>
      dsimp only
      by_cases written : isWritten catalogue response = true
      · rw [if_pos written]
        by_cases own : key = (request.pair, entry.questionId)
        · rw [own, Database.response?_saveGrade_self, found]
          rfl
        · rw [Database.response?_saveGrade_of_ne _ _ own]
      · rw [if_neg written]

/--
The loop body, computed on one database and performed on another with
responses under the same keys, saves its grade there.
-/
theorem participantResponses_perform_gradeStatements
    (catalogue : Catalogue) (assessment : Assessment)
    (request : StoreRequest) (entry : GradeEntry)
    {computedOn performedOn database : Database}
    (sameKeys : SameKeys computedOn database)
    (same :
      performedOn.participantResponses =
        database.participantResponses) :
    (Program.performAll
        (gradeStatements catalogue assessment request entry computedOn)
        performedOn).participantResponses =
      (savedGrade catalogue assessment request database
        entry).participantResponses := by
  have bothFound :=
    sameKeys (request.pair, entry.questionId)
  rw [gradeStatements, savedGrade]
  cases computedFound :
      computedOn.response? (request.pair, entry.questionId) with
  | none =>
      rw [computedFound] at bothFound
      have absent :
          database.response? (request.pair, entry.questionId) =
            none := by
        simpa using bothFound.symm
      rw [absent]
      exact same
  | some response =>
      rw [computedFound] at bothFound
      rcases Option.isSome_iff_exists.mp bothFound.symm with
        ⟨other, otherFound⟩
      have sameWritten :
          isWritten catalogue other = isWritten catalogue response :=
        isWritten_congr catalogue
          (((Database.response?_eq_some_iff _ _ _).mp otherFound).2.trans
            ((Database.response?_eq_some_iff _ _ _).mp
              computedFound).2.symm)
      rw [otherFound]
      dsimp only
      rw [sameWritten]
      by_cases written : isWritten catalogue response = true
      · rw [if_pos written, if_pos written, Program.performAll_cons,
          participantResponses_perform_rescoreStatements]
        change (Database.saveGrade _ _ _).participantResponses = _
        rw [Database.saveGrade, same]
        rfl
      · rw [if_neg written, if_neg written]
        exact same

/-- The whole loop, computed on one database and performed on another. -/
theorem participantResponses_perform_loop
    (catalogue : Catalogue) (assessment : Assessment)
    (request : StoreRequest) (entries : List GradeEntry)
    {computedOn performedOn database : Database}
    (sameKeys : SameKeys computedOn database)
    (same :
      performedOn.participantResponses =
        database.participantResponses) :
    (Program.performAll
        (Program.loopStatements
          (gradeStatements catalogue assessment request) entries
          computedOn)
        performedOn).participantResponses =
      (savedGrades catalogue assessment request entries
        database).participantResponses := by
  induction entries generalizing computedOn performedOn database with
  | nil => exact same
  | cons entry rest induction =>
      have computedAfter :=
        participantResponses_perform_gradeStatements catalogue
          assessment request entry (fun _ => rfl)
          (rfl : computedOn.participantResponses = _)
      rw [Program.loopStatements, Program.performAll_append]
      apply induction
      · exact
          (SameKeys.of_sameResponses computedAfter).trans
            ((sameKeys_savedGrade _ _ _ _ _).trans
              (sameKeys.trans (sameKeys_savedGrade _ _ _ _ _).symm))
      · exact
          participantResponses_perform_gradeStatements catalogue
            assessment request entry sameKeys same

/-- A whole request, computed on one database and performed on another. -/
theorem participantResponses_perform_storeStatements
    (catalogue : Catalogue) (assessment : Assessment)
    (request : StoreRequest) {computedOn performedOn : Database}
    (sameKeys : SameKeys computedOn performedOn) :
    (Program.performAll
        (storeStatements catalogue assessment request computedOn)
        performedOn).participantResponses =
      (savedGrades catalogue assessment request request.responses
        performedOn).participantResponses := by
  rw [storeStatements, Program.performAll_append,
    participantResponses_perform_rescoreStatements]
  exact
    participantResponses_perform_loop catalogue assessment request
      request.responses sameKeys rfl

end GradingController

/-! ## Recalculations -/

namespace RecalculateAssessmentScores

/-- The command touches no response. -/
theorem participantResponses_recalculate
    (catalogue : Catalogue) (assignment : SelectionAssignment)
    (options : Options) (database : Database) :
    ((Operation.recalculate options).apply catalogue assignment
        database).participantResponses =
      database.participantResponses := by
  rw [Operation.apply_eq_performAll, Operation.committed]
  rcases issued_handle catalogue options database with
    ⟨statements, ⟨entries, _, equal⟩, issued⟩
  rw [issued, equal, Program.performAll_append,
    (sameResponses_of_loop _ _ _ _).1,
    participantResponses_fixStatements]

end RecalculateAssessmentScores

/-! ## Attribution of grades and texts -/

/-- Some operation of the list saves the answer under a key. -/
def SavesAnswer (operations : List Operation) (key : ResponseKey) :
    Prop :=
  ∃ request,
    Operation.storeResponse request ∈ operations ∧ request.key = key

/--
A response owes its grade to a request of the run, and its text is the one
that was graded unless the participant saved the answer again.
-/
def GradeAttributed (catalogue : Catalogue)
    (assignment : SelectionAssignment) (operations : List Operation)
    (response : ParticipantResponse) : Prop :=
  ∃ earlier request later,
    operations = earlier ++ .grade request :: later ∧
      response.gradedAt = some request.now ∧
      response.gradedBy = some request.userId ∧
      response.pair = request.pair ∧
      (∃ entry ∈ request.responses,
        entry.questionId = response.questionId) ∧
      (SavesAnswer later response.key ∨
        ∃ graded,
          (Operation.run catalogue assignment earlier
              Database.empty).response? response.key = some graded ∧
            graded.writtenResponseText =
              response.writtenResponseText)

theorem GradeAttributed.concat
    {catalogue : Catalogue} {assignment : SelectionAssignment}
    {operations : List Operation} {response : ParticipantResponse}
    (attributed :
      GradeAttributed catalogue assignment operations response)
    (operation : Operation) :
    GradeAttributed catalogue assignment (operations ++ [operation])
      response := by
  rcases attributed with
    ⟨earlier, request, later, split, gradedAt, gradedBy, ownPair,
      hasEntry, text⟩
  refine
    ⟨earlier, request, later ++ [operation], ?_, gradedAt, gradedBy,
      ownPair, hasEntry, ?_⟩
  · rw [split, List.append_assoc, List.cons_append]
  · rcases text with ⟨saving, member, sameKey⟩ | unchanged
    · exact
        Or.inl ⟨saving, List.mem_append_left _ member, sameKey⟩
    · exact Or.inr unchanged

/-- Saving the answer again keeps the grade and changes the text. -/
theorem GradeAttributed.answered
    {catalogue : Catalogue} {assignment : SelectionAssignment}
    {operations : List Operation} {old new : ParticipantResponse}
    (attributed : GradeAttributed catalogue assignment operations old)
    (sameKey : new.key = old.key)
    (sameTime : new.gradedAt = old.gradedAt)
    (sameGrader : new.gradedBy = old.gradedBy)
    {request : SurveyController.StoreResponseRequest}
    (ownKey : request.key = new.key) :
    GradeAttributed catalogue assignment
      (operations ++ [.storeResponse request]) new := by
  rcases attributed with
    ⟨earlier, grading, later, split, gradedAt, gradedBy, ownPair,
      ⟨entry, member, entryQuestion⟩, _⟩
  have samePair : new.pair = old.pair := congrArg Prod.fst sameKey
  have sameQuestion : new.questionId = old.questionId :=
    congrArg Prod.snd sameKey
  refine
    ⟨earlier, grading, later ++ [.storeResponse request], ?_,
      sameTime.trans gradedAt, sameGrader.trans gradedBy,
      samePair.trans ownPair,
      ⟨entry, member, entryQuestion.trans sameQuestion.symm⟩,
      Or.inl ⟨request, by simp, ownKey⟩⟩
  rw [split, List.append_assoc, List.cons_append]

/-- Every graded response of a key owes its grade to the run before. -/
def GradesAttributed (catalogue : Catalogue)
    (assignment : SelectionAssignment) (operations : List Operation)
    (key : ResponseKey) : Prop :=
  ∀ response,
    (Operation.run catalogue assignment operations
        Database.empty).response? key = some response →
      response.gradedAt ≠ none →
        GradeAttributed catalogue assignment operations response

section Attribution

variable {catalogue : Catalogue} {assignment : SelectionAssignment}
  {operations : List Operation} {key : ResponseKey}
  (attributed :
    GradesAttributed catalogue assignment operations key)
include attributed

theorem GradesAttributed.storeResponse
    (request : SurveyController.StoreResponseRequest) :
    GradesAttributed catalogue assignment
      (operations ++ [.storeResponse request]) key := by
  intro response found isGraded
  rw [Operation.run_concat] at found
  rcases SurveyController.response?_storeResponse catalogue assignment
      request
      (Operation.run catalogue assignment operations
        Database.empty) with
    same | ⟨assessment, question, _, lookup⟩
  · rw [Database.response?, same] at found
    exact (attributed response found isGraded).concat _
  · rw [lookup] at found
    by_cases own : key = request.key
    · rw [if_pos own, Option.some.injEq] at found
      subst own
      have sameGrade :=
        SurveyController.gradedAt_savedResponse assignment question
          request
          (Operation.run catalogue assignment operations
            Database.empty)
      have savedKey :=
        SurveyController.key_savedResponse assignment question request
          (Operation.run catalogue assignment operations
            Database.empty)
      rw [found] at sameGrade savedKey
      cases previous :
          (Operation.run catalogue assignment operations
            Database.empty).response? request.key with
      | none =>
          rw [previous] at sameGrade
          exact (isGraded sameGrade.1).elim
      | some old =>
          rw [previous] at sameGrade
          have oldKey :=
            ((Database.response?_eq_some_iff _ _ _).mp previous).2
          have oldGraded : old.gradedAt ≠ none := by
            rw [← show response.gradedAt = old.gradedAt from
              sameGrade.1]
            exact isGraded
          exact
            (attributed old previous oldGraded).answered
              (savedKey.trans oldKey.symm) sameGrade.1 sameGrade.2
              savedKey.symm
    · rw [if_neg own] at found
      exact (attributed response found isGraded).concat _

theorem GradesAttributed.grade
    (request : GradingController.StoreRequest) :
    GradesAttributed catalogue assignment
      (operations ++ [.grade request]) key := by
  intro response found isGraded
  rw [Operation.run_concat] at found
  rcases GradingController.response?_store catalogue assignment request
      (Operation.run catalogue assignment operations
        Database.empty) key with
    same | ⟨old, new, oldFound, newFound, graded⟩
  · rw [same] at found
    exact (attributed response found isGraded).concat _
  · rw [newFound, Option.some.injEq] at found
    subst found
    have oldKey :=
      ((Database.response?_eq_some_iff _ _ _).mp oldFound).2
    have samePair : new.pair = old.pair :=
      congrArg Prod.fst graded.sameKey
    have sameQuestion : new.questionId = old.questionId :=
      congrArg Prod.snd graded.sameKey
    rcases graded.hasEntry with ⟨entry, member, entryQuestion⟩
    refine
      ⟨operations, request, [], rfl, graded.gradedAt, graded.gradedBy,
        samePair.trans graded.ownPair,
        ⟨entry, member, entryQuestion.trans sameQuestion.symm⟩,
        Or.inr ⟨old, ?_, graded.sameText.symm⟩⟩
    rw [graded.sameKey, oldKey]
    exact oldFound

theorem GradesAttributed.recalculate
    (options : RecalculateAssessmentScores.Options) :
    GradesAttributed catalogue assignment
      (operations ++ [.recalculate options]) key := by
  intro response found isGraded
  rw [Operation.run_concat, Database.response?,
    RecalculateAssessmentScores.participantResponses_recalculate]
    at found
  exact (attributed response found isGraded).concat _

end Attribution

theorem gradesAttributed_run
    (catalogue : Catalogue) (assignment : SelectionAssignment)
    (operations : List Operation) (key : ResponseKey) :
    GradesAttributed catalogue assignment operations key := by
  induction operations using List.reverseRecOn with
  | nil =>
      intro response found
      cases found
  | append_singleton operations operation attributed =>
      cases operation with
      | storeResponse request => exact attributed.storeResponse request
      | grade request => exact attributed.grade request
      | recalculate options => exact attributed.recalculate options

/--
In every run from the empty database, a response with a grade owes it to a
grading request of the run, and its text is the text that this request
graded unless the participant saved the answer again after it.
-/
theorem graded_response_attributed
    (catalogue : Catalogue) (assignment : SelectionAssignment)
    (operations : List Operation) (key : ResponseKey)
    (response : ParticipantResponse)
    (found :
      (Operation.run catalogue assignment operations
        Database.empty).response? key = some response)
    (isGraded : response.gradedAt ≠ none) :
    GradeAttributed catalogue assignment operations response :=
  gradesAttributed_run catalogue assignment operations key response found
    isGraded

/-- A text is answered, graded, and answered again. -/
def editedRun : List Operation :=
  [.storeResponse (sampleText 2 "first" .next),
    .grade (sampleGrades [(2, some 5)]),
    .storeResponse (sampleText 2 "second" .next)]

/-- The row of the edited answer. -/
def editedResponse : ParticipantResponse where
  assessmentId := 1
  participantId := 1
  questionId := 2
  selectedAnswerIdsColumn := none
  writtenResponseText := some "second"
  gradedScore := some 5
  gradedCategories := none
  gradedBy := some 2
  gradedAt := some 1

theorem graded_response_attributed_edited :
    GradeAttributed sampleCatalogue .jsonEncoded editedRun
      editedResponse :=
  graded_response_attributed sampleCatalogue .jsonEncoded editedRun
    (⟨1, 1⟩, 2) editedResponse (by decide +kernel) (by decide)

/-- The grade of the first text stays on the second. -/
theorem grade_stays_on_edited_text :
    ((sampleRun .jsonEncoded (editedRun.take 2)).response?
          (⟨1, 1⟩, 2)).map
        (fun response =>
          (response.writtenResponseText, response.gradedAt)) =
        some (some "first", some 1) ∧
      ((sampleRun .jsonEncoded editedRun).response?
          (⟨1, 1⟩, 2)).map
        (fun response =>
          (response.writtenResponseText, response.gradedAt)) =
        some (some "second", some 1) := by
  decide +kernel

end SultanPass
