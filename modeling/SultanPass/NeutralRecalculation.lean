import SultanPass.RefreshedRows
import SultanPass.ScoreSynchrony

/-!
# Recalculating scores that are in place

A run of `assessments:recalculate-scores` without options, in a database
where the stored scores are the calculated ones already.  It raises nothing
and changes no response and no score.  What it writes is the status that
`determineStatus` gives and the time of the run.

The dashboards read both.  Where the statuses are already those of
`determineStatus`, the overall evaluation and the top performers stay the
same; where the rows were updated on the day of the run, the dashboards that
read the time of the update stay the same too (`recalculation_of_settled`).
-/

namespace SultanPass

open SultanPass.Library
open SultanPass.Library.Calendar
open SultanPass.AssessmentScoreService

namespace RecalculateAssessmentScores

/-- The command without options. -/
def unscoped (now : Timestamp) : Options where
  participant := none
  assessment := none
  fixOldScores := false
  now := now

/-- Every pair with responses stores its calculated score. -/
def Settled (catalogue : Catalogue) (database : Database) : Prop :=
  ∀ assessment participant,
    catalogue.assessment? assessment.id = some assessment →
      database.responsesOf ⟨assessment.id, participant⟩ ≠ [] →
        Synced catalogue database assessment participant

/-! ## One recalculation -/

/--
A row of a pair with responses and a score gets the status of
`determineStatus` and the time of the run.
-/
def IsRefreshOf (catalogue : Catalogue) (database : Database)
    (now : Timestamp) (old new : AssessmentParticipant) : Prop :=
  ∃ assessment,
    catalogue.assessment? old.assessmentId = some assessment ∧
      database.responsesOf old.pair ≠ [] ∧
      old.score ≠ none ∧
      new =
        { old with
          status :=
            determineStatus catalogue database assessment
              old.participantId
          updatedAt := now }

/-- A row stays, or gets its status and time anew. -/
def Kept (catalogue : Catalogue) (database : Database)
    (now : Timestamp) (old new : AssessmentParticipant) : Prop :=
  new = old ∨ IsRefreshOf catalogue database now old new

theorem Kept.refl
    (catalogue : Catalogue) (database : Database) (now : Timestamp)
    (row : AssessmentParticipant) :
    Kept catalogue database now row row :=
  Or.inl rfl

/-- The responses and the rows after recalculations. -/
structure Recalculated (catalogue : Catalogue) (now : Timestamp)
    (before after : Database) : Prop where
  responses : after.participantResponses = before.participantResponses
  rows :
    List.Forall₂ (Kept catalogue before now)
      before.assessmentParticipants after.assessmentParticipants

theorem Recalculated.refl
    (catalogue : Catalogue) (now : Timestamp) (database : Database) :
    Recalculated catalogue now database database where
  responses := rfl
  rows :=
    List.forall₂_same.mpr fun row _ =>
      Kept.refl catalogue database now row

theorem Kept.trans
    {catalogue : Catalogue} {before middle : Database}
    {now : Timestamp}
    {old mid new : AssessmentParticipant}
    (earlier : Kept catalogue before now old mid)
    (same :
      middle.participantResponses = before.participantResponses)
    (later : Kept catalogue middle now mid new) :
    Kept catalogue before now old new := by
  rw [Kept, IsRefreshOf, Database.responsesOf, same] at later
  simp only [determineStatus, Database.responsesOf, same] at later
  rcases later with rfl | ⟨assessment, found, answered, scored, rfl⟩
  · exact earlier
  · apply Or.inr
    rcases earlier with rfl | ⟨other, otherFound, _, _, rfl⟩
    · exact ⟨assessment, found, answered, scored, rfl⟩
    · exact ⟨assessment, found, answered, scored, rfl⟩

theorem Recalculated.trans
    {catalogue : Catalogue} {now : Timestamp}
    {before middle after : Database}
    (earlier : Recalculated catalogue now before middle)
    (later : Recalculated catalogue now middle after) :
    Recalculated catalogue now before after where
  responses := later.responses.trans earlier.responses
  rows := by
    apply forall₂_trans _ earlier.rows later.rows
    intro old mid new first second
    exact first.trans earlier.responses second

section Step

variable {catalogue : Catalogue} {database : Database}
  (settled : Settled catalogue database)
include settled

/-- A settled pair calculates what it stores, or has no responses. -/
theorem Settled.calculateScore_cases
    {assessment : Assessment}
    (found : catalogue.assessment? assessment.id = some assessment)
    (participant : UserId) :
    calculateScore catalogue database assessment participant =
        .ok none ∨
      (database.responsesOf ⟨assessment.id, participant⟩ ≠ [] ∧
        ∃ score,
          calculateScore catalogue database assessment participant =
              .ok (some score) ∧
            storedScore database ⟨assessment.id, participant⟩ =
              some score) := by
  by_cases empty :
      database.responsesOf ⟨assessment.id, participant⟩ = []
  · apply Or.inl
    rw [calculateScore, empty]
    rfl
  · have synced := settled assessment participant found empty
    cases stored :
        storedScore database ⟨assessment.id, participant⟩ with
    | none =>
        apply Or.inl
        rw [synced, stored]
    | some score =>
        exact Or.inr ⟨empty, score, by rw [synced, stored], rfl⟩

/-- Writing the calculated score of a pair keeps every pair settled. -/
theorem Settled.rescore_of_computed
    (now : Timestamp) {assessment : Assessment}
    (found : catalogue.assessment? assessment.id = some assessment)
    {participant : UserId} {score : ℚ}
    (computed :
      calculateScore catalogue database assessment participant =
        .ok (some score)) :
    Settled catalogue
      (rescore catalogue now assessment participant database) := by
  intro other user otherFound otherAnswered
  rw [responsesOf_rescore] at otherAnswered
  have synced := settled other user otherFound otherAnswered
  by_cases own :
      (⟨other.id, user⟩ : Pair) = ⟨assessment.id, participant⟩
  · rcases Catalogue.eq_of_pair_eq otherFound found own with
      ⟨rfl, rfl⟩
    rw [Synced, calculateScore, responsesOf_rescore]
    change calculateScore catalogue database other user = _
    rw [rescore_of_ok_some catalogue now computed,
      storedScore_upsertParticipation, computed]
    rfl
  · exact
      synced.of_same
        (untouched_rescore catalogue now assessment participant
          database own)

omit settled in
/-- Writing the score that is stored already refreshes its row only. -/
theorem recalculated_rescore_of_stored
    (now : Timestamp) {assessment : Assessment}
    (found : catalogue.assessment? assessment.id = some assessment)
    {participant : UserId} {score : ℚ}
    (answered :
      database.responsesOf ⟨assessment.id, participant⟩ ≠ [])
    (computed :
      calculateScore catalogue database assessment participant =
        .ok (some score))
    (stored :
      storedScore database ⟨assessment.id, participant⟩ = some score) :
    Recalculated catalogue now database
      (rescore catalogue now assessment participant database) := by
  rcases Option.bind_eq_some_iff.mp stored with
    ⟨row, isRow, hasScore⟩
  constructor
  · exact participantResponses_rescore _ _ _ _ _
  · rw [rescore_of_ok_some catalogue now computed,
      Database.upsertParticipation, Database.upsertStatement, isRow,
      Option.isSome_some, if_pos rfl]
    apply forall₂_updateFirst (Kept.refl catalogue database now)
    intro first isFirst
    have same : first = row := by
      have twice := isFirst.symm.trans isRow
      exact Option.some.inj twice
    subst same
    have rowPair : first.pair = ⟨assessment.id, participant⟩ := by
      simpa using List.find?_some isFirst
    have rowAssessment : first.assessmentId = assessment.id :=
      congrArg Pair.assessmentId rowPair
    have rowParticipant : first.participantId = participant :=
      congrArg Pair.participantId rowPair
    refine Or.inr ⟨assessment, ?_, ?_, ?_, ?_⟩
    · rw [rowAssessment]
      exact found
    · rw [rowPair]
      exact answered
    · rw [hasScore]
      intro absent
      cases absent
    · rw [ParticipationColumns.fill, rowParticipant, hasScore]
      rfl

/-- One recalculation keeps the scores, and refreshes at most one row. -/
theorem Settled.rescore
    (now : Timestamp) {assessment : Assessment}
    (found : catalogue.assessment? assessment.id = some assessment)
    (participant : UserId) :
    Settled catalogue
        (rescore catalogue now assessment participant database) ∧
      Recalculated catalogue now database
        (rescore catalogue now assessment participant database) := by
  rcases settled.calculateScore_cases found participant with
    computed | ⟨answered, score, computed, stored⟩
  · rw [rescore_of_ok_none catalogue now computed]
    exact ⟨settled, Recalculated.refl catalogue now database⟩
  · constructor
    · exact settled.rescore_of_computed now found computed
    · exact
        recalculated_rescore_of_stored now found answered computed
          stored

theorem Settled.issued_recalculate
    (now : Timestamp) {assessment : Assessment}
    (found : catalogue.assessment? assessment.id = some assessment)
    (participant : UserId) :
    (recalculate catalogue now assessment participant).issued database =
      (.ok (),
        entryStatements catalogue now (assessment, participant)
          database) := by
  have statements :=
    RecalculateAssessmentScores.issued_recalculate catalogue now
      assessment participant database
  have returns :
      ((recalculate catalogue now assessment participant).issued
          database).1 =
        .ok () := by
    rw [recalculate, Program.bind_eq, Program.issued_bind,
      issued_calculateAndUpdateScore]
    rcases settled.calculateScore_cases found participant with
      computed | ⟨_, score, computed, _⟩
    · rw [computed]
      rfl
    · rw [computed]
      rfl
  exact Prod.ext returns statements

/-- A loop of recalculations, from a settled database. -/
theorem Settled.isRescoring
    {now : Timestamp} {statements : List Statement}
    (rescores :
      IsRescoringOf catalogue now (InScope catalogue) statements
        database) :
    Settled catalogue (Program.performAll statements database) ∧
      Recalculated catalogue now database
        (Program.performAll statements database) := by
  rcases rescores with ⟨entries, inScope, rfl⟩
  refine
    (Program.loopStatements_invariant
      (fun reached : Database =>
        Settled catalogue reached ∧
          Recalculated catalogue now database reached)
      (entryStatements catalogue now) entries ?_ database
      ⟨settled, Recalculated.refl catalogue now database⟩).1
  rintro entry member reached ⟨reachedSettled, earlier⟩
  have step :=
    reachedSettled.rescore now (inScope entry member).1 entry.2
  exact ⟨step.1, earlier.trans step.2⟩

theorem Settled.recalculateForAssessment_returns
    (now : Timestamp) {assessment : Assessment}
    (found : catalogue.assessment? assessment.id = some assessment) :
    ((recalculateForAssessment catalogue now assessment).issued
        database).1 =
      .ok () := by
  rw [recalculateForAssessment, Program.bind_eq, Program.issued_bind,
    Program.issued_query]
  change ((Program.forEach _ _).issued database).1 = .ok ()
  rw [Program.issued_forEach_of_ok (Settled catalogue)
    (recalculate catalogue now assessment)
    (fun participant =>
      entryStatements catalogue now (assessment, participant))
    _
    (fun participant _ _ reached =>
      reached.issued_recalculate now found participant)
    (fun participant _ _ reached =>
      (reached.rescore now found participant).1)
    database settled]

theorem Settled.recalculateAll_returns (now : Timestamp) :
    ((recalculateAll catalogue now).issued database).1 = .ok () := by
  rw [recalculateAll, Program.bind_eq, Program.issued_bind,
    Program.issued_query]
  change ((Program.forEach _ _).issued database).1 = .ok ()
  have found (assessment : Assessment)
      (listed :
        assessment ∈
          catalogue.assessments.filter fun assessment =>
            database.participantResponses.rows.any fun response =>
              response.assessmentId = assessment.id) :
      catalogue.assessment? assessment.id = some assessment :=
    (catalogue.assessment?_eq_some_iff _ _).mpr
      ⟨(List.mem_filter.mp listed).1, rfl⟩
  rw [Program.issued_forEach_of_ok (Settled catalogue)
    (recalculateForAssessment catalogue now)
    (fun assessment reached =>
      ((recalculateForAssessment catalogue now assessment).issued
        reached).2)
    _
    (fun assessment listed _ reached =>
      Prod.ext
        (reached.recalculateForAssessment_returns now
          (found assessment listed))
        rfl)
    (fun assessment listed state reached =>
      (reached.isRescoring
        (isRescoringOf_recalculateForAssessment now
          (fun _ isUser => ⟨found assessment listed, isUser⟩)
          state)).1)
    database settled]

/-- The command returns 0 and refreshes rows, at most. -/
theorem handle_of_settled (now : Timestamp) :
    ((handle catalogue (unscoped now)).exec ⟨database, none⟩).1 =
        .ok 0 ∧
      Recalculated catalogue now database
        ((handle catalogue (unscoped now)).finalState database) := by
  have plain := plain_handle catalogue (unscoped now)
  have issues :
      (handle catalogue (unscoped now)).issued database =
        (.ok 0,
          ((recalculateAll catalogue now).issued database).2) := by
    have returns :
        (recalculateAll catalogue now).issued database =
          (.ok (),
            ((recalculateAll catalogue now).issued database).2) :=
      Prod.ext (settled.recalculateAll_returns now) rfl
    change
      ((recalculateAll catalogue now).bind fun _ =>
        (.done 0 : DatabaseProgram ℕ)).issued database = _
    rw [Program.issued_bind_of_ok returns]
    change (_, _ ++ []) = _
    rw [List.append_nil]
    rfl
  constructor
  · rw [Program.exec_plain plain, issues]
  · rw [Program.finalState_of_plain plain, issues]
    exact
      (settled.isRescoring
        (isRescoringOf_recalculateAll now
          (fun _ listed _ isUser => inScope_of_mem listed isUser)
          database)).2

end Step

/-! ## The dashboards after the command -/

open DashboardController

/-- A row that the command may refresh has its status already. -/
def StatusInPlace (catalogue : Catalogue) (database : Database)
    (row : AssessmentParticipant) : Prop :=
  ∀ assessment,
    catalogue.assessment? row.assessmentId = some assessment →
      database.responsesOf row.pair ≠ [] → row.score ≠ none →
        row.status =
          determineStatus catalogue database assessment
            row.participantId

/-- A row that the command may refresh was updated on this day. -/
def UpdatedOn (catalogue : Catalogue) (database : Database) (day : ℕ)
    (row : AssessmentParticipant) : Prop :=
  (catalogue.assessment? row.assessmentId).isSome →
    database.responsesOf row.pair ≠ [] → row.score ≠ none →
      dayOf row.updatedAt = day

theorem Kept.score_and_pair
    {catalogue : Catalogue} {database : Database} {now : Timestamp}
    {old new : AssessmentParticipant}
    (kept : Kept catalogue database now old new) :
    new.pair = old.pair ∧ new.score = old.score := by
  rcases kept with rfl | ⟨_, _, _, _, rfl⟩
  · exact ⟨rfl, rfl⟩
  · exact ⟨rfl, rfl⟩

theorem Kept.upToTime
    {catalogue : Catalogue} {database : Database} {now : Timestamp}
    {old new : AssessmentParticipant}
    (kept : Kept catalogue database now old new)
    (inPlace : StatusInPlace catalogue database old) :
    UpToTime old new := by
  rcases kept with rfl | ⟨assessment, found, answered, scored, rfl⟩
  · exact ⟨rfl, rfl, rfl, rfl⟩
  · exact
      { assessmentId := rfl
        participantId := rfl
        status := (inPlace assessment found answered scored).symm
        score := rfl }

theorem Kept.withinDay
    {catalogue : Catalogue} {database : Database} {now : Timestamp}
    {old new : AssessmentParticipant}
    (kept : Kept catalogue database now old new)
    (inPlace : StatusInPlace catalogue database old)
    (updated : UpdatedOn catalogue database (dayOf now) old) :
    WithinDay (dayOf now) old new := by
  refine { toUpToTime := kept.upToTime inPlace, time := ?_ }
  rcases kept with rfl | ⟨assessment, found, answered, scored, rfl⟩
  · exact Or.inl rfl
  · apply Or.inr
    refine ⟨updated ?_ answered scored, rfl⟩
    rw [found]
    rfl

/-- What reads the time of the update shows the same on this day. -/
structure SameDashboards (catalogue : Catalogue)
    (before after : List AssessmentParticipant) (day : ℕ) : Prop where
  performanceTrends :
    ∀ participant viewed, dayOf viewed = day →
      getPerformanceTrends after participant viewed =
        getPerformanceTrends before participant viewed
  dailyCompletions :
    ∀ viewed days,
      dailyCompletions after viewed days =
        dailyCompletions before viewed days
  iqTestResults :
    ∀ participant,
      (iqRows catalogue before participant).length ≤ 1 →
        getIQTestResults catalogue after participant =
          getIQTestResults catalogue before participant

/-- Statuses, overall evaluations and top performers are the same. -/
structure SameStandings (catalogue : Catalogue)
    (before after : List AssessmentParticipant) : Prop where
  statuses :
    after.map AssessmentParticipant.status =
      before.map AssessmentParticipant.status
  overallScores :
    ∀ participant,
      calculateOverallScore after participant =
        calculateOverallScore before participant
  topPerformers :
    ∀ names limit,
      (topPerformers catalogue names after limit).map
          TopPerformer.undated =
        (topPerformers catalogue names before limit).map
          TopPerformer.undated

theorem sameStandings_of_upToTime
    (catalogue : Catalogue) {before after : List AssessmentParticipant}
    (related : List.Forall₂ UpToTime before after) :
    SameStandings catalogue before after where
  statuses :=
    (map_eq_of_forall₂ related fun _ _ same => same.status.symm).symm
  overallScores := calculateOverallScore_eq id related
  topPerformers := topPerformers_eq id related catalogue

theorem sameDashboards_of_withinDay
    (catalogue : Catalogue) {before after : List AssessmentParticipant}
    {day : ℕ} (related : List.Forall₂ (WithinDay day) before after) :
    SameDashboards catalogue before after day where
  performanceTrends := fun participant _ today =>
    getPerformanceTrends_eq related participant today
  dailyCompletions := dailyCompletions_eq related
  iqTestResults := getIQTestResults_eq related catalogue

/--
From a settled database the command returns 0, changes no response, no pair
and no score, and refreshes status and time of some rows.  Statuses in place
keep the standings; rows updated on the day of the run keep the dashboards
of this day.
-/
theorem recalculation_of_settled
    (catalogue : Catalogue) (database : Database) (now : Timestamp)
    (settled : Settled catalogue database) :
    let after :=
      (handle catalogue (unscoped now)).finalState database
    ((handle catalogue (unscoped now)).exec ⟨database, none⟩).1 =
        .ok 0 ∧
      after.participantResponses = database.participantResponses ∧
      List.Forall₂ (Kept catalogue database now)
        database.assessmentParticipants after.assessmentParticipants ∧
      after.assessmentParticipants.map
          (fun row => (row.pair, row.score)) =
        database.assessmentParticipants.map
          (fun row => (row.pair, row.score)) ∧
      ((∀ row ∈ database.assessmentParticipants,
          StatusInPlace catalogue database row) →
        SameStandings catalogue database.assessmentParticipants
            after.assessmentParticipants ∧
          ((∀ row ∈ database.assessmentParticipants,
              UpdatedOn catalogue database (dayOf now) row) →
            SameDashboards catalogue database.assessmentParticipants
              after.assessmentParticipants (dayOf now))) := by
  rcases handle_of_settled settled now with ⟨returns, recalculated⟩
  refine ⟨returns, recalculated.responses, recalculated.rows, ?_, ?_⟩
  · symm
    apply map_eq_of_forall₂ recalculated.rows
    intro old new kept
    rw [kept.score_and_pair.1, kept.score_and_pair.2]
  · intro inPlace
    constructor
    · apply sameStandings_of_upToTime
      apply forall₂_of_mem recalculated.rows
      intro old listed new _ kept
      exact kept.upToTime (inPlace old listed)
    · intro updated
      apply sameDashboards_of_withinDay
      apply forall₂_of_mem recalculated.rows
      intro old listed new _ kept
      exact kept.withinDay (inPlace old listed) (updated old listed)

/-- The pairs with responses are those of the stored responses. -/
theorem settled_of_responses
    {catalogue : Catalogue} {database : Database}
    (each :
      ∀ response ∈ database.participantResponses.rows,
        ∀ assessment ∈ catalogue.assessments,
          assessment.id = response.assessmentId →
            calculateScore catalogue database assessment
                response.participantId =
              .ok
                (storedScore database
                  ⟨assessment.id, response.participantId⟩)) :
    Settled catalogue database := by
  intro assessment participant found answered
  rcases List.exists_mem_of_ne_nil _ answered with ⟨response, member⟩
  rcases List.mem_filter.mp member with ⟨stored, isPair⟩
  have pair : response.pair = ⟨assessment.id, participant⟩ :=
    of_decide_eq_true isPair
  have sameParticipant : response.participantId = participant :=
    congrArg Pair.participantId pair
  have listed :=
    ((catalogue.assessment?_eq_some_iff _ _).mp found).1
  have synced :=
    each response stored assessment listed
      (congrArg Pair.assessmentId pair).symm
  rwa [sameParticipant] at synced

/-- Every question is answered, and the texts are graded. -/
def finishedRun : Database :=
  sampleRun .jsonEncoded
    [.storeResponse (sampleSelection 1 [] .next),
      .storeResponse (sampleText 2 "a" .next),
      .storeResponse (sampleText 3 "b" .submit),
      .grade (sampleGrades [(2, some 10), (3, some 5)])]

/-- The row of `finishedRun`. -/
def finishedRow : AssessmentParticipant where
  assessmentId := 1
  participantId := 1
  status := .completed
  score := some 75
  updatedAt := 1

theorem recalculation_of_settled_finishedRun :
    let after :=
      (handle sampleCatalogue (unscoped 5)).finalState finishedRun
    SameStandings sampleCatalogue finishedRun.assessmentParticipants
        after.assessmentParticipants ∧
      SameDashboards sampleCatalogue finishedRun.assessmentParticipants
        after.assessmentParticipants (dayOf 5) := by
  have rows : finishedRun.assessmentParticipants = [finishedRow] := by
    decide +kernel
  have settled : Settled sampleCatalogue finishedRun := by
    apply settled_of_responses
    decide +kernel
  rcases recalculation_of_settled sampleCatalogue finishedRun 5 settled
    with ⟨_, _, _, _, standings⟩
  have inPlace :
      ∀ row ∈ finishedRun.assessmentParticipants,
        StatusInPlace sampleCatalogue finishedRun row := by
    rw [rows]
    intro row listed assessment found _ _
    rw [List.mem_singleton] at listed
    subst listed
    have isSample :
        sampleCatalogue.assessment? 1 = some sampleAssessment := by
      decide +kernel
    have same := found.symm.trans isSample
    rw [Option.some.injEq] at same
    subst same
    decide +kernel
  rcases standings inPlace with ⟨sameStandings, dashboards⟩
  refine ⟨sameStandings, dashboards ?_⟩
  rw [rows]
  intro row listed _ _ _
  rw [List.mem_singleton] at listed
  subst listed
  decide +kernel

/-- A graded text of an unfinished assessment, submitted once more. -/
def submittedAgain : Database :=
  sampleRun .jsonEncoded
    [.storeResponse (sampleText 2 "a" .submit),
      .grade (sampleGrades [(2, some 10)]),
      .storeResponse (sampleText 2 "a" .submit)]

/--
With every score in place, the command reopens a submitted row, and moves a
finished one to the month of the run.
-/
theorem recalculation_is_not_neutral :
    let reopened :=
      (handle sampleCatalogue (unscoped 5)).finalState submittedAgain
    let moved :=
      (handle sampleCatalogue (unscoped 3456000)).finalState finishedRun
    (∀ database ∈ [submittedAgain, finishedRun],
        ∀ response ∈ database.participantResponses.rows,
          ∀ assessment ∈ sampleCatalogue.assessments,
            assessment.id = response.assessmentId →
              calculateScore sampleCatalogue database assessment
                  response.participantId =
                .ok
                  (storedScore database
                    ⟨assessment.id, response.participantId⟩)) ∧
      submittedAgain.assessmentParticipants.map
            AssessmentParticipant.status =
          [.completed] ∧
      reopened.assessmentParticipants.map
            AssessmentParticipant.status =
          [.inProgress] ∧
      calculateOverallScore submittedAgain.assessmentParticipants 1 =
          100 ∧
      calculateOverallScore reopened.assessmentParticipants 1 = 0 ∧
      getPerformanceTrends finishedRun.assessmentParticipants 1
            3456000 =
          { labels := [0], values := [75] } ∧
      getPerformanceTrends moved.assessmentParticipants 1 3456000 =
          { labels := [1], values := [75] } := by
  decide +kernel

end RecalculateAssessmentScores

end SultanPass
