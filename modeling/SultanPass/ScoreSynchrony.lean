import SultanPass.AnswerRoundTrip
import SultanPass.CompletedScores

/-!
# When stored scores stay in sync

A recalculation stores a score only when it is not null.  A stored score
therefore goes stale in exactly two ways: an answer is cleared, which starts
no recalculation, or a save takes away the last response that the score
rests on, and the recalculation finds null.

`KeepsCounted` excludes the two ways for one operation, and `synced_run`
concludes that the stored score of every pair is the calculated one along a
run.  The responses of a run are id lists, whichever value is assigned: a
doubly encoded selection raises before it is stored.
-/

namespace SultanPass

open SultanPass.Library
open SultanPass.AssessmentScoreService
open SultanPass.ParticipantResponseObserver

/-! ## Well-formed responses -/

/-- Responses of a run with id lists: grades come with their time. -/
structure Recorded (response : ParticipantResponse) : Prop where
  idList : HasIdList response
  ungraded :
    response.gradedAt = none →
      response.gradedScore = none ∧ response.gradedCategories = none

/-- Every response of the database is well formed. -/
def AllRecorded (database : Database) : Prop :=
  ∀ key response,
    database.response? key = some response → Recorded response

theorem recorded_blank (key : ResponseKey) :
    Recorded (ParticipantResponse.blank key) where
  idList := ⟨[], rfl⟩
  ungraded := fun _ => ⟨rfl, rfl⟩

theorem AllRecorded.of_mem
    {database : Database} (recorded : AllRecorded database)
    {pair : Pair} {response : ParticipantResponse}
    (member : response ∈ database.responsesOf pair) :
    Recorded response :=
  recorded response.key response
    ((Database.response?_eq_some_iff _ _ _).mpr
      ⟨((Database.mem_responsesOf_iff _ _ _).mp member).1, rfl⟩)

theorem AllRecorded.of_sameResponses
    {before after : Database} (recorded : AllRecorded before)
    (same : after.participantResponses = before.participantResponses) :
    AllRecorded after := by
  intro key response found
  rw [Database.response?, same] at found
  exact recorded key response found

theorem recorded_answered
    (question : AssessmentQuestion)
    (request : SurveyController.StoreResponseRequest)
    {response : ParticipantResponse} (recorded : Recorded response) :
    Recorded
      ((SurveyController.answerColumns .idList question request).fill
        response) := by
  rw [SurveyController.answerColumns]
  cases question.questionType with
  | written =>
      exact { idList := recorded.idList, ungraded := recorded.ungraded }
  | mcq =>
      refine { idList := ?_, ungraded := recorded.ungraded }
      rw [HasIdList, ParticipantResponse.selectedAnswerIds]
      change
        ∃ answerIds,
          PhpValue.orEmptyList (castArrayGet (castArraySet _)) = _
      rw [castArrayGet_castArraySet]
      split_ifs
      · exact ⟨_, rfl⟩
      · exact ⟨[], rfl⟩

theorem recorded_savedResponse
    {database : Database} (recorded : AllRecorded database)
    (question : AssessmentQuestion)
    (request : SurveyController.StoreResponseRequest) :
    Recorded
      (SurveyController.savedResponse .idList question request
        database) := by
  apply recorded_answered
  cases found : database.response? request.key with
  | none => exact recorded_blank request.key
  | some response => exact recorded request.key response found

theorem allRecorded_answered
    {database : Database} (recorded : AllRecorded database)
    (question : AssessmentQuestion)
    (request : SurveyController.StoreResponseRequest) :
    AllRecorded
      (SurveyController.answered .idList question request
        database) := by
  intro key response found
  rw [SurveyController.answered] at found
  by_cases own : key = request.key
  · rw [own, Database.response?_saveAnswer_self, Option.some.injEq]
      at found
    subst found
    exact recorded_savedResponse recorded question request
  · rw [Database.response?_saveAnswer_of_ne _ _ own] at found
    exact recorded key response found

theorem allRecorded_saveGrade
    {database : Database} (recorded : AllRecorded database)
    (key : ResponseKey) (columns : GradeColumns) :
    AllRecorded (database.saveGrade key columns) := by
  intro other response found
  by_cases own : other = key
  · rw [own, Database.response?_saveGrade_self,
      Option.map_eq_some_iff] at found
    rcases found with ⟨old, oldFound, rfl⟩
    have oldRecorded := recorded key old oldFound
    refine { idList := ?_, ungraded := ?_ }
    · rcases columns with ⟨gradedBy, gradedAt, value⟩
      cases value <;> exact oldRecorded.idList
    · rw [GradeColumns.gradedAt_fill]
      nofun
  · rw [Database.response?_saveGrade_of_ne _ _ own] at found
    exact recorded other response found

/-! ## Counted responses and scores -/

/-- Some response of the participant is counted. -/
def HasCounted (catalogue : Catalogue) (database : Database)
    (assessment : Assessment) (participant : UserId) : Prop :=
  ∃ response ∈ database.responsesOf ⟨assessment.id, participant⟩,
    Counted catalogue assessment response

theorem calculateScore_eq
    {database : Database} (recorded : AllRecorded database)
    (catalogue : Catalogue) (assessment : Assessment)
    (participant : UserId) :
    calculateScore catalogue database assessment participant =
      .ok (scoreFrom assessment
        (allPoints catalogue
          (database.responsesOf ⟨assessment.id, participant⟩))
        (allRecords catalogue
          (database.responsesOf ⟨assessment.id, participant⟩))) :=
  scoreOf_eq _ _ _ fun _ member => (recorded.of_mem member).idList

/-- The score is null exactly when nothing is counted. -/
theorem calculateScore_eq_none_iff
    {database : Database} (recorded : AllRecorded database)
    (catalogue : Catalogue) (assessment : Assessment)
    (participant : UserId) :
    calculateScore catalogue database assessment participant =
        .ok none ↔
      ¬ HasCounted catalogue database assessment participant := by
  rw [calculateScore_eq recorded, Except.ok.injEq,
    scoreFrom_eq_none_iff, HasCounted]
  simp only [not_exists, not_and]

theorem HasCounted.score
    {catalogue : Catalogue} {database : Database}
    {assessment : Assessment} {participant : UserId}
    (counted :
      HasCounted catalogue database assessment participant)
    (recorded : AllRecorded database) :
    ∃ score,
      calculateScore catalogue database assessment participant =
        .ok (some score) := by
  have notNone :=
    mt (calculateScore_eq_none_iff recorded catalogue assessment
      participant).mp (not_not_intro counted)
  rw [calculateScore_eq recorded] at notNone ⊢
  cases computed : scoreFrom assessment
      (allPoints catalogue
        (database.responsesOf ⟨assessment.id, participant⟩))
      (allRecords catalogue
        (database.responsesOf ⟨assessment.id, participant⟩)) with
  | none =>
      rw [computed] at notNone
      exact (notNone rfl).elim
  | some score => exact ⟨score, rfl⟩

/-- The score column of the row of a pair, null without a row. -/
def storedScore (database : Database) (pair : Pair) : Option ℚ :=
  (database.participation? pair).bind AssessmentParticipant.score

/-- The stored score of a participant is the calculated one. -/
def Synced (catalogue : Catalogue) (database : Database)
    (assessment : Assessment) (participant : UserId) : Prop :=
  calculateScore catalogue database assessment participant =
    .ok (storedScore database ⟨assessment.id, participant⟩)

/-- A stored score in sync rests on a counted response. -/
theorem Synced.hasCounted
    {catalogue : Catalogue} {database : Database}
    {assessment : Assessment} {participant : UserId}
    (synced : Synced catalogue database assessment participant)
    (recorded : AllRecorded database)
    (stored :
      storedScore database ⟨assessment.id, participant⟩ ≠ none) :
    HasCounted catalogue database assessment participant := by
  by_contra none
  rw [Synced,
    (calculateScore_eq_none_iff recorded _ _ _).mpr none] at synced
  rw [Except.ok.injEq] at synced
  exact stored synced.symm

theorem storedScore_upsertParticipation
    (database : Database) (pair : Pair)
    (columns : ParticipationColumns) :
    storedScore (database.upsertParticipation pair columns) pair =
      columns.score.or (storedScore database pair) := by
  rw [storedScore, Database.participation?_upsertParticipation_self,
    storedScore]
  cases database.participation? pair with
  | none =>
      change columns.score = columns.score.or none
      rw [Option.or_none]
  | some row => rfl

/-- A recalculation that finds a score stores it. -/
theorem synced_rescore
    {catalogue : Catalogue} {database : Database}
    {assessment : Assessment} {participant : UserId}
    (counted :
      HasCounted catalogue database assessment participant)
    (recorded : AllRecorded database) (now : Timestamp) :
    Synced catalogue
      (rescore catalogue now assessment participant database)
      assessment participant := by
  rcases counted.score recorded with ⟨score, computed⟩
  rw [Synced, calculateScore, responsesOf_rescore]
  change calculateScore catalogue database assessment participant = _
  rw [rescore_of_ok_some catalogue now computed,
    storedScore_upsertParticipation, computed]
  rfl

/-- A recalculation that finds null leaves the row. -/
theorem rescore_of_not_hasCounted
    {catalogue : Catalogue} {database : Database}
    {assessment : Assessment} {participant : UserId}
    (none : ¬ HasCounted catalogue database assessment participant)
    (recorded : AllRecorded database) (now : Timestamp) :
    rescore catalogue now assessment participant database = database :=
  rescore_of_ok_none catalogue now
    ((calculateScore_eq_none_iff recorded _ _ _).mpr none)

/-- A recalculation settles a stored score that something justifies. -/
theorem synced_rescore_of
    {catalogue : Catalogue} {database : Database}
    {assessment : Assessment} {participant : UserId}
    (recorded : AllRecorded database)
    (justified :
      storedScore database ⟨assessment.id, participant⟩ ≠ none →
        HasCounted catalogue database assessment participant)
    (now : Timestamp) :
    Synced catalogue
      (rescore catalogue now assessment participant database)
      assessment participant := by
  by_cases counted :
      HasCounted catalogue database assessment participant
  · exact synced_rescore counted recorded now
  · rw [rescore_of_not_hasCounted counted recorded, Synced,
      (calculateScore_eq_none_iff recorded _ _ _).mpr counted]
    by_contra different
    apply counted
    apply justified
    intro noScore
    rw [noScore] at different
    exact different rfl

/-! ## Responses that a score does not see -/

/-- A response that adds nothing in the mode of the assessment. -/
def Silent (catalogue : Catalogue) (assessment : Assessment)
    (response : ParticipantResponse) : Prop :=
  match assessment.scoringMode with
  | .percentile => pointsOf catalogue response = none
  | .categorical => recordsOfResponse catalogue response = []

theorem scoreFrom_append_silent
    {catalogue : Catalogue} {assessment : Assessment}
    (responses : List ParticipantResponse)
    {response : ParticipantResponse}
    (silent : Silent catalogue assessment response) :
    scoreFrom assessment
        (allPoints catalogue (responses ++ [response]))
        (allRecords catalogue (responses ++ [response])) =
      scoreFrom assessment (allPoints catalogue responses)
        (allRecords catalogue responses) := by
  rw [Silent] at silent
  rw [scoreFrom, scoreFrom]
  cases mode : assessment.scoringMode with
  | percentile =>
      rw [mode] at silent
      have noPoints : pointsOf catalogue response = none := silent
      simp [allPoints, noPoints]
  | categorical =>
      rw [mode] at silent
      have noRecords : recordsOfResponse catalogue response = [] :=
        silent
      simp [allRecords, noRecords]

theorem scoreFrom_map_silent
    {catalogue : Catalogue} {assessment : Assessment}
    (responses : List ParticipantResponse)
    (update : ParticipantResponse → ParticipantResponse)
    (silent : ∀ response ∈ responses,
      update response = response ∨
        (Silent catalogue assessment response ∧
          Silent catalogue assessment (update response))) :
    scoreFrom assessment (allPoints catalogue (responses.map update))
        (allRecords catalogue (responses.map update)) =
      scoreFrom assessment (allPoints catalogue responses)
        (allRecords catalogue responses) := by
  rw [scoreFrom, scoreFrom]
  cases mode : assessment.scoringMode with
  | percentile =>
      have samePoints :
          allPoints catalogue (responses.map update) =
            allPoints catalogue responses := by
        rw [allPoints, allPoints, List.filterMap_map]
        apply List.filterMap_congr
        intro response member
        rcases silent response member with same | ⟨before, after⟩
        · rw [Function.comp_apply, same]
        · rw [Silent, mode] at before after
          have noPoints : pointsOf catalogue response = none := before
          rw [Function.comp_apply, noPoints]
          exact after
      rw [samePoints]
  | categorical =>
      have sameRecords :
          allRecords catalogue (responses.map update) =
            allRecords catalogue responses := by
        rw [allRecords, allRecords, List.flatMap_map]
        apply List.flatMap_congr
        intro response member
        rcases silent response member with same | ⟨before, after⟩
        · rw [same]
        · rw [Silent, mode] at before after
          have noRecords :
              recordsOfResponse catalogue response = [] := before
          rw [noRecords]
          exact after
      rw [sameRecords]

/-- Without a selection and a grade a response adds nothing. -/
theorem silent_of_not_shouldCalculateScore
    {catalogue : Catalogue} {response : ParticipantResponse}
    (assessment : Assessment) (recorded : Recorded response)
    (skips : ¬ shouldCalculateScore response = true) :
    Silent catalogue assessment response := by
  rw [shouldCalculateScore, Bool.or_eq_true, not_or] at skips
  rcases skips with ⟨noSelection, noGrade⟩
  have isEmpty :
      PhpValue.isEmpty response.selectedAnswerIds = true := by
    simpa using noSelection
  have empty : selectedIds response = [] := by
    rw [selectedIds]
    cases value : response.selectedAnswerIds with
    | null => rfl
    | int number => rfl
    | str text => rfl
    | list numbers =>
        rw [value] at isEmpty
        exact of_decide_eq_true isEmpty
  have ungraded : response.gradedAt = none := by
    simpa using noGrade
  rcases recorded.ungraded ungraded with ⟨noScore, noCategories⟩
  rw [Silent]
  cases assessment.scoringMode with
  | percentile =>
      change pointsOf catalogue response = none
      rw [pointsOf]
      cases catalogue.question? response.questionId with
      | none => rfl
      | some question =>
          dsimp only
          cases question.questionType with
          | written =>
              dsimp only
              rw [noScore]
              rfl
          | mcq => exact if_pos empty
  | categorical =>
      change recordsOfResponse catalogue response = []
      rw [recordsOfResponse]
      cases catalogue.question? response.questionId with
      | none => rfl
      | some question =>
          dsimp only
          cases question.questionType with
          | written =>
              dsimp only
              rw [noCategories]
              rfl
          | mcq => exact if_pos empty

/-- A response that is not counted and not graded adds nothing. -/
theorem silent_of_not_counted
    {catalogue : Catalogue} {assessment : Assessment}
    {response : ParticipantResponse} (recorded : Recorded response)
    (ungraded : response.gradedAt = none)
    (uncounted : ¬ Counted catalogue assessment response) :
    Silent catalogue assessment response := by
  rw [Silent]
  rw [Counted] at uncounted
  cases mode : assessment.scoringMode with
  | categorical =>
      rw [mode] at uncounted
      exact not_not.mp uncounted
  | percentile =>
      rw [mode] at uncounted
      change pointsOf catalogue response = none
      cases points : pointsOf catalogue response with
      | none => rfl
      | some value =>
          exfalso
          apply uncounted
          refine ⟨value, points, ?_⟩
          rw [pointsOf] at points
          cases found : catalogue.question? response.questionId with
          | none => simp [found] at points
          | some question =>
              cases kind : question.questionType with
              | written =>
                  simp [found, kind,
                    (recorded.ungraded ungraded).1] at points
              | mcq =>
                  simp only [found, kind] at points
                  split_ifs at points
                  cases points
                  exact mcqMaxScore_pos catalogue question

/-! ## The condition on one operation -/

/--
An operation keeps stored scores in sync when it does neither of two things:
clear an answer that is counted, or take away the last counted response of
its pair while it recalculates.
-/
def KeepsCounted (catalogue : Catalogue) (database : Database) :
    Operation → Prop
  | .storeResponse request =>
      ∀ assessment question,
        SurveyController.Resolved catalogue request assessment
            question →
          if
              shouldCalculateScore
                (SurveyController.savedResponse .idList question
                  request database) then
            HasCounted catalogue database assessment
                request.userId →
              HasCounted catalogue
                (SurveyController.answered .idList question request
                  database) assessment request.userId
          else
            ∀ old, database.response? request.key = some old →
              ¬ Counted catalogue assessment old
  | .grade request =>
      ∀ assessment,
        GradingController.Resolved catalogue request assessment →
          ∀ first, first <+: request.responses →
            HasCounted catalogue
                (GradingController.savedGrades catalogue assessment
                  request first database)
                assessment request.participantId →
              HasCounted catalogue
                (GradingController.savedGrades catalogue assessment
                  request request.responses database)
                assessment request.participantId
  | .recalculate options => options.fixOldScores = false

/-- All pairs are in sync, and the responses are well formed. -/
structure AllSynced (catalogue : Catalogue) (database : Database) :
    Prop where
  recorded : AllRecorded database
  synced :
    ∀ assessment participant,
      catalogue.assessment? assessment.id = some assessment →
        Synced catalogue database assessment participant

theorem Synced.of_same
    {catalogue : Catalogue} {before after : Database}
    {assessment : Assessment} {participant : UserId}
    (synced : Synced catalogue before assessment participant)
    (untouched :
      Database.Untouched ⟨assessment.id, participant⟩ before after) :
    Synced catalogue after assessment participant := by
  rw [Synced, calculateScore, untouched.sameResponses, storedScore,
    untouched.sameRow]
  exact synced

/-- All pairs are in sync when one is and the others are untouched. -/
theorem AllSynced.of_pair
    {catalogue : Catalogue} {before after : Database}
    (all : AllSynced catalogue before)
    {assessment : Assessment} {participant : UserId}
    (found : catalogue.assessment? assessment.id = some assessment)
    (recorded : AllRecorded after)
    (synced : Synced catalogue after assessment participant)
    (untouched : ∀ pair, pair ≠ ⟨assessment.id, participant⟩ →
      Database.Untouched pair before after) :
    AllSynced catalogue after := by
  refine { recorded := recorded, synced := ?_ }
  intro other user otherFound
  by_cases own :
      (⟨other.id, user⟩ : Pair) = ⟨assessment.id, participant⟩
  · rcases Catalogue.eq_of_pair_eq otherFound found own with
      ⟨rfl, rfl⟩
    exact synced
  · exact
      (all.synced other user otherFound).of_same (untouched _ own)

theorem hasCounted_congr
    {catalogue : Catalogue} {left right : Database}
    (same : left.participantResponses = right.participantResponses)
    (assessment : Assessment) (participant : UserId) :
    HasCounted catalogue left assessment participant ↔
      HasCounted catalogue right assessment participant := by
  rw [HasCounted, HasCounted, Database.responsesOf,
    Database.responsesOf, same]

/-! ## Answers -/

/-- A save that starts no recalculation leaves the score as it is. -/
theorem calculateScore_answered
    {catalogue : Catalogue} {database : Database}
    (recorded : AllRecorded database)
    {request : SurveyController.StoreResponseRequest}
    {assessment : Assessment} {question : AssessmentQuestion}
    (resolved :
      SurveyController.Resolved catalogue request assessment question)
    (skips :
      ¬ shouldCalculateScore
        (SurveyController.savedResponse .idList question request
          database) = true)
    (uncounted :
      ∀ old, database.response? request.key = some old →
        ¬ Counted catalogue assessment old) :
    calculateScore catalogue
        (SurveyController.answered .idList question request database)
        assessment request.userId =
      calculateScore catalogue database assessment
        request.userId := by
  have samePair :
      (⟨assessment.id, request.userId⟩ : Pair) = request.key.1 := by
    rw [resolved.assessmentId]
    rfl
  have silentAfter :
      Silent catalogue assessment
        (SurveyController.savedResponse .idList question request
          database) :=
    silent_of_not_shouldCalculateScore assessment
      (recorded_savedResponse recorded question request) skips
  rw [calculateScore_eq
      (allRecorded_answered recorded question request),
    calculateScore_eq recorded, samePair,
    SurveyController.answered]
  congr 1
  cases found : database.response? request.key with
  | none =>
      rw [Database.responsesOf_saveAnswer_of_new _ _ _ found]
      apply scoreFrom_append_silent
      rw [SurveyController.savedResponse, found] at silentAfter
      exact silentAfter
  | some old =>
      rw [Database.responsesOf_saveAnswer_of_existing _ _ _ _ found]
      apply scoreFrom_map_silent
      intro response member
      by_cases own : response.key = request.key
      · apply Or.inr
        have listed :=
          ((Database.mem_responsesOf_iff _ _ _).mp member).1
        have isOld : response = old := by
          have lookup :
              database.response? request.key = some response :=
            (Database.response?_eq_some_iff _ _ _).mpr ⟨listed, own⟩
          rw [found, Option.some.injEq] at lookup
          exact lookup.symm
        subst isOld
        rw [if_pos own]
        rw [SurveyController.savedResponse, found] at silentAfter
        refine ⟨?_, silentAfter⟩
        have ungraded : response.gradedAt = none := by
          rw [SurveyController.savedResponse, found,
            shouldCalculateScore, Bool.or_eq_true, not_or] at skips
          cases columns :
              SurveyController.answerColumns .idList question
                request <;>
            simpa [columns, AnswerColumns.fill] using skips.2
        exact
          silent_of_not_counted
            (recorded request.key response found) ungraded
            (uncounted response found)
      · exact Or.inl (if_neg own)

theorem storedScore_storeResponse
    (catalogue : Catalogue) (assessment : Assessment)
    (question : AssessmentQuestion)
    (request : SurveyController.StoreResponseRequest)
    (database : Database) :
    storedScore
        (Program.performAll
          (SurveyController.bodyStatements catalogue .idList assessment
              question request database ++
            SurveyController.submitStatements request)
          database) request.pair =
      storedScore
        (Program.performAll
          (observedStatements catalogue request.now assessment
            (SurveyController.savedResponse .idList question request
              database)
            (SurveyController.answered .idList question request
              database))
          (SurveyController.answered .idList question request
            database)) request.pair := by
  have submits (reached : Database) :
      storedScore
          (Program.performAll
            (SurveyController.submitStatements request) reached)
          request.pair =
        storedScore reached request.pair := by
    rcases SurveyController.submitStatements_cases request with
      ⟨_, single⟩ | ⟨_, none⟩
    · rw [single]
      change
        ((Statement.perform (.updateParticipants request.pair _)
          reached).participation? request.pair).bind _ = _
      rw [Database.participation?_updateParticipants, storedScore]
      cases reached.participation? request.pair with
      | none => rfl
      | some row =>
          rw [Option.map_some, if_pos rfl]
          rfl
    · rw [none]
      rfl
  rw [Program.performAll_append, submits,
    SurveyController.bodyStatements, Program.performAll_cons,
    Program.performAll_append]
  change
    storedScore
      (Database.upsertParticipation _ request.pair
        (SurveyController.startedColumns request.now)) _ = _
  rw [storedScore_upsertParticipation]
  rfl

theorem AllSynced.storeResponse
    {catalogue : Catalogue} {database : Database}
    (all : AllSynced catalogue database)
    {request : SurveyController.StoreResponseRequest}
    {assessment : Assessment} {question : AssessmentQuestion}
    (resolved :
      SurveyController.Resolved catalogue request assessment question)
    (keeps : KeepsCounted catalogue database (.storeResponse request)) :
    AllSynced catalogue
      (Program.performAll
        (SurveyController.bodyStatements catalogue .idList assessment
            question request database ++
          SurveyController.submitStatements request)
        database) := by
  have sameResponses :=
    SurveyController.participantResponses_storeResponse catalogue
      .idList assessment question request database
  have recordedAnswered :=
    allRecorded_answered all.recorded question request
  have before :=
    all.synced assessment request.userId resolved.found
  have condition := keeps assessment question resolved
  apply all.of_pair resolved.found
  · exact recordedAnswered.of_sameResponses sameResponses
  · rw [Synced, calculateScore, Database.responsesOf, sameResponses,
      resolved.pair_eq, storedScore_storeResponse, ← resolved.pair_eq,
      observedStatements,
      SurveyController.participantId_savedResponse]
    change
      calculateScore catalogue
        (SurveyController.answered .idList question request database)
        assessment request.userId = _
    by_cases calculates :
        shouldCalculateScore
          (SurveyController.savedResponse .idList question request
            database) = true
    · rw [if_pos calculates]
      rw [if_pos calculates] at condition
      have settled :=
        synced_rescore_of recordedAnswered
          (fun stored =>
            condition (before.hasCounted all.recorded stored))
          request.now
      rw [Synced, calculateScore, responsesOf_rescore] at settled
      exact settled
    · rw [if_neg calculates]
      rw [if_neg calculates] at condition
      rw [calculateScore_answered all.recorded resolved calculates
        condition]
      exact before
  · intro pair different
    rw [resolved.pair_eq] at different
    exact
      SurveyController.untouched_storeResponse resolved .idList
        database different

/-! ## Grades -/

/-- What holds of the own pair after some entries of a grading request. -/
structure Grading (catalogue : Catalogue) (assessment : Assessment)
    (request : GradingController.StoreRequest) (before : Database)
    (entries : List GradingController.GradeEntry)
    (reached : Database) : Prop where
  recorded : AllRecorded reached
  sameResponses :
    reached.participantResponses =
      (GradingController.savedGrades catalogue assessment request
        entries before).participantResponses
  justified :
    storedScore reached ⟨assessment.id, request.participantId⟩ ≠
        none →
      ∃ first, first <+: entries ∧
        HasCounted catalogue
          (GradingController.savedGrades catalogue assessment request
            first before)
          assessment request.participantId

theorem AllRecorded.gradeStatements
    {database : Database} (recorded : AllRecorded database)
    (catalogue : Catalogue) (assessment : Assessment)
    (request : GradingController.StoreRequest)
    (entry : GradingController.GradeEntry) :
    AllRecorded
      (Program.performAll
        (GradingController.gradeStatements catalogue assessment request
          entry database)
        database) := by
  rcases GradingController.gradeStatements_cases catalogue assessment
      request entry database with none | ⟨response, _, _, equal⟩
  · rw [none]
    exact recorded
  · rw [equal]
    exact
      (allRecorded_saveGrade recorded _ _).of_sameResponses
        (participantResponses_rescore _ _ _ _ _)

theorem Grading.entry
    {catalogue : Catalogue} {assessment : Assessment}
    {request : GradingController.StoreRequest}
    {before reached : Database}
    {entries : List GradingController.GradeEntry}
    (grading :
      Grading catalogue assessment request before entries reached)
    (entry : GradingController.GradeEntry) :
    Grading catalogue assessment request before (entries ++ [entry])
      (Program.performAll
        (GradingController.gradeStatements catalogue assessment request
          entry reached)
        reached) := by
  have sameResponses :
      (Program.performAll
          (GradingController.gradeStatements catalogue assessment
            request entry reached)
          reached).participantResponses =
        (GradingController.savedGrades catalogue assessment request
          (entries ++ [entry]) before).participantResponses := by
    rw [GradingController.savedGrades, List.foldl_append]
    exact
      GradingController.participantResponses_perform_gradeStatements
        catalogue assessment request entry
        (SameKeys.of_sameResponses grading.sameResponses)
        grading.sameResponses
  refine
    { recorded := grading.recorded.gradeStatements _ _ _ _
      sameResponses := sameResponses
      justified := ?_ }
  intro stored
  by_cases counted :
      HasCounted catalogue
        (GradingController.savedGrades catalogue assessment request
          (entries ++ [entry]) before)
        assessment request.participantId
  · exact ⟨entries ++ [entry], List.prefix_rfl, counted⟩
  · have unchanged :
        storedScore
            (Program.performAll
              (GradingController.gradeStatements catalogue assessment
                request entry reached)
              reached) ⟨assessment.id, request.participantId⟩ =
          storedScore reached
            ⟨assessment.id, request.participantId⟩ := by
      rcases GradingController.gradeStatements_cases catalogue
          assessment request entry reached with
        none | ⟨response, _, _, equal⟩
      · rw [none]
        rfl
      · rw [equal] at sameResponses ⊢
        change
          (rescore catalogue request.now assessment
            request.participantId
            (reached.saveGrade _ _)).participantResponses = _
          at sameResponses
        rw [participantResponses_rescore] at sameResponses
        change
          storedScore
            (rescore catalogue request.now assessment
              request.participantId (reached.saveGrade _ _)) _ = _
        rw [rescore_of_not_hasCounted
          (mt (hasCounted_congr sameResponses _ _).mp counted)
          (allRecorded_saveGrade grading.recorded _ _)]
        rfl
    rw [unchanged] at stored
    rcases grading.justified stored with ⟨first, isPrefix, isCounted⟩
    exact
      ⟨first, isPrefix.trans (List.prefix_append _ _), isCounted⟩

theorem Grading.loop
    {catalogue : Catalogue} {assessment : Assessment}
    {request : GradingController.StoreRequest}
    {before reached : Database}
    {entries : List GradingController.GradeEntry}
    (grading :
      Grading catalogue assessment request before entries reached)
    (rest : List GradingController.GradeEntry) :
    Grading catalogue assessment request before (entries ++ rest)
      (Program.performAll
        (Program.loopStatements
          (GradingController.gradeStatements catalogue assessment
            request) rest reached)
        reached) := by
  induction rest generalizing entries reached with
  | nil =>
      rw [List.append_nil]
      exact grading
  | cons entry rest induction =>
      have later := induction (grading.entry entry)
      rw [List.append_assoc] at later
      rw [Program.loopStatements, Program.performAll_append]
      exact later

theorem AllSynced.grade
    {catalogue : Catalogue} {database : Database}
    (all : AllSynced catalogue database)
    {request : GradingController.StoreRequest}
    {assessment : Assessment}
    (resolved :
      GradingController.Resolved catalogue request assessment)
    (keeps : KeepsCounted catalogue database (.grade request)) :
    AllSynced catalogue
      (Program.performAll
        (GradingController.storeStatements catalogue assessment request
          database)
        database) := by
  have start :
      Grading catalogue assessment request database [] database :=
    { recorded := all.recorded
      sameResponses := rfl
      justified := fun stored =>
        ⟨[], List.prefix_rfl,
          (all.synced assessment request.participantId
            resolved.found).hasCounted all.recorded stored⟩ }
  have finish := start.loop request.responses
  rw [List.nil_append] at finish
  apply all.of_pair resolved.found
  · rw [GradingController.storeStatements, Program.performAll_append]
    exact
      finish.recorded.of_sameResponses
        (participantResponses_rescore _ _ _ _ _)
  · rw [GradingController.storeStatements, Program.performAll_append]
    apply synced_rescore_of finish.recorded
    intro stored
    rcases finish.justified stored with ⟨first, isPrefix, counted⟩
    exact
      (hasCounted_congr finish.sameResponses _ _).mpr
        (keeps assessment resolved first isPrefix counted)
  · intro pair different
    rw [resolved.pair_eq] at different
    exact
      GradingController.untouched_storeStatements resolved database
        different

/-! ## Recalculations -/

theorem AllSynced.rescore
    {catalogue : Catalogue} {database : Database}
    (all : AllSynced catalogue database) (now : Timestamp)
    {assessment : Assessment}
    (found : catalogue.assessment? assessment.id = some assessment)
    (participant : UserId) :
    AllSynced catalogue
      (rescore catalogue now assessment participant database) := by
  apply all.of_pair found
  · exact
      all.recorded.of_sameResponses
        (participantResponses_rescore _ _ _ _ _)
  · apply synced_rescore_of all.recorded
    exact
      (all.synced assessment participant found).hasCounted all.recorded
  · intro pair different
    exact untouched_rescore _ _ _ _ _ different

/-! ## Runs -/

/-- An operation that keeps something counted keeps all pairs in sync. -/
theorem AllSynced.apply
    {catalogue : Catalogue} {database : Database}
    (all : AllSynced catalogue database) {operation : Operation}
    (keeps : KeepsCounted catalogue database operation)
    (assignment : SelectionAssignment) :
    AllSynced catalogue
      (operation.apply catalogue assignment database) := by
  rcases AnswerRoundTrip.apply_eq_or catalogue assignment operation
      database with unchanged | same
  · rw [unchanged]
    exact all
  rw [same, Operation.apply_eq_performAll]
  cases operation with
  | storeResponse request =>
      rw [Operation.committed]
      rcases SurveyController.committed_storeResponse catalogue .idList
          request database with
        ⟨error, _, none⟩ |
          ⟨assessment, question, resolved, _, _, equal⟩
      · rw [none]
        exact all
      · rw [equal]
        exact all.storeResponse resolved keeps
  | grade request =>
      rw [Operation.committed]
      rcases GradingController.committed_store catalogue request
          database with
        ⟨error, _, none⟩ | ⟨assessment, resolved, equal⟩
      · rw [none]
        exact all
      · rw [equal]
        exact all.grade resolved keeps
  | recalculate options =>
      rw [Operation.committed]
      rcases RecalculateAssessmentScores.issued_handle catalogue
          options database with
        ⟨statements, ⟨entries, inScope, equal⟩, issued⟩
      have noFix :
          RecalculateAssessmentScores.fixStatements options = [] := by
        rw [RecalculateAssessmentScores.fixStatements,
          show options.fixOldScores = false from keeps]
        rfl
      rw [issued, equal, noFix]
      exact
        (Program.loopStatements_invariant (AllSynced catalogue)
          (RecalculateAssessmentScores.entryStatements catalogue
            options.now)
          entries
          (fun entry member reached synced =>
            synced.rescore options.now (inScope entry member).1
              entry.2)
          database all).1

theorem allSynced_empty (catalogue : Catalogue) :
    AllSynced catalogue Database.empty where
  recorded := by
    intro key response found
    cases found
  synced := fun _ _ _ => rfl

/--
In every run from the empty database whose operations all keep something
counted, the stored score of every pair is its calculated score.
-/
theorem synced_run
    (catalogue : Catalogue) (assignment : SelectionAssignment)
    (operations : List Operation)
    (keeps : ∀ earlier operation later,
      operations = earlier ++ operation :: later →
        KeepsCounted catalogue
          (Operation.run catalogue assignment earlier Database.empty)
          operation)
    (assessment : Assessment) (participant : UserId)
    (found : catalogue.assessment? assessment.id = some assessment) :
    Synced catalogue
      (Operation.run catalogue assignment operations Database.empty)
      assessment participant := by
  have all :
      AllSynced catalogue
        (Operation.run catalogue assignment operations
          Database.empty) := by
    induction operations using List.reverseRecOn with
    | nil => exact allSynced_empty catalogue
    | append_singleton operations operation induction =>
        rw [Operation.run_concat]
        apply AllSynced.apply
        · apply induction
          intro earlier other later split
          apply keeps earlier other (later ++ [operation])
          rw [split, List.append_assoc, List.cons_append]
        · exact keeps operations operation [] rfl
  exact all.synced assessment participant found

/-- A text is answered and graded. -/
def answeredAndGraded : List Operation :=
  [.storeResponse (sampleText 2 "a" .next),
    .grade (sampleGrades [(2, some 5)])]

theorem keepsCounted_sampleText :
    KeepsCounted sampleCatalogue Database.empty
      (.storeResponse (sampleText 2 "a" .next)) := by
  intro assessment question resolved
  have listed :
      sampleCatalogue.question? 2 =
        some
          { id := 2, assessmentId := 1, questionType := .written
            questionText := "Explain", order := 2, maxScore := some 10 } := by
    decide +kernel
  have isListed := resolved.questionFound
  change sampleCatalogue.question? 2 = _ at isListed
  rw [listed, Option.some.injEq] at isListed
  subst isListed
  rw [if_neg (by decide +kernel)]
  intro old found
  cases found

theorem keepsCounted_sampleGrades :
    KeepsCounted sampleCatalogue
      (sampleRun .jsonEncoded [.storeResponse (sampleText 2 "a" .next)])
      (.grade (sampleGrades [(2, some 5)])) := by
  intro assessment resolved first _ _
  have listed :
      sampleCatalogue.assessment? 1 = some sampleAssessment := by
    decide +kernel
  have isListed := resolved.assessmentFound
  change sampleCatalogue.assessment? 1 = _ at isListed
  rw [listed, Option.some.injEq] at isListed
  subst isListed
  refine
    ⟨{ editedResponse with writtenResponseText := some "a" },
      by decide +kernel, { score := 5, max := 10 }, by decide +kernel,
      by norm_num⟩

theorem synced_run_answeredAndGraded :
    Synced sampleCatalogue (sampleRun .jsonEncoded answeredAndGraded)
      sampleAssessment 1 := by
  apply synced_run sampleCatalogue .jsonEncoded answeredAndGraded
  · intro earlier operation later split
    rcases earlier with _ | ⟨first, _ | ⟨second, rest⟩⟩
    · simp only [answeredAndGraded, List.nil_append,
        List.cons.injEq] at split
      rw [← split.1]
      exact keepsCounted_sampleText
    · simp only [answeredAndGraded, List.cons_append,
        List.nil_append, List.cons.injEq] at split
      rw [← split.1, ← split.2.1]
      exact keepsCounted_sampleGrades
    · simp [answeredAndGraded] at split
  · decide +kernel

/-- A cleared answer and a withdrawn grade leave their scores behind. -/
theorem removed_answers_leave_scores :
    (calculateScore sampleCatalogue
          (sampleRun .idList
            [.storeResponse (sampleSelection 1 [1] .next),
              .storeResponse (sampleSelection 1 [] .next)])
          sampleAssessment 1 = .ok none ∧
        storedScore
          (sampleRun .idList
            [.storeResponse (sampleSelection 1 [1] .next),
              .storeResponse (sampleSelection 1 [] .next)])
          ⟨1, 1⟩ = some 100) ∧
      calculateScore sampleCatalogue
          (sampleRun .jsonEncoded
            [.storeResponse (sampleText 2 "a" .next),
              .grade (sampleGrades [(2, some 5)]),
              .grade (sampleGrades [(2, none)])])
          sampleAssessment 1 = .ok none ∧
        storedScore
          (sampleRun .jsonEncoded
            [.storeResponse (sampleText 2 "a" .next),
              .grade (sampleGrades [(2, some 5)]),
              .grade (sampleGrades [(2, none)])])
          ⟨1, 1⟩ = some 50 := by
  decide +kernel

end SultanPass
