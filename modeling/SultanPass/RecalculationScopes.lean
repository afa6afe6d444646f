import SultanPass.Library.Overwriting
import SultanPass.MaintenanceScope

/-!
# The scopes of `assessments:recalculate-scores` agree

`recalculateAll`, `recalculateForAssessment` for every assessment and
`recalculateForParticipant` for every participant select their pairs through
different queries.  Each of them visits every pair that has responses, what
it writes for a pair depends on the responses only, and no responses are
written.  So the three leave the same scores and statuses, in any order and
any number of times.
-/

namespace SultanPass.RecalculateAssessmentScores

open SultanPass.Library
open SultanPass.AssessmentScoreService

/-! ## What a recalculation shows -/

/-- The rows of one pair. -/
def rowsOf (database : Database) (pair : Pair) :
    List AssessmentParticipant :=
  rowsWhere (fun other => other = pair) database

/-- The scores and statuses of some rows. -/
def standing (rows : List AssessmentParticipant) :
    List (Option ℚ × ParticipationStatus) :=
  rows.map fun row => (row.score, row.status)

/-- What a recalculation of a pair writes, if anything. -/
def computedStanding (catalogue : Catalogue) (database : Database)
    (pair : Pair) : Option (List (Option ℚ × ParticipationStatus)) :=
  match catalogue.assessment? pair.assessmentId with
  | none => none
  | some assessment =>
      match
        calculateScore catalogue database assessment pair.participantId
      with
      | .ok (some score) =>
          some
            [(some score,
              determineStatus catalogue database assessment
                pair.participantId)]
      | _ => none

theorem computedStanding_congr
    {left right : Database}
    (same : left.participantResponses = right.participantResponses)
    (catalogue : Catalogue) (pair : Pair) :
    computedStanding catalogue left pair =
      computedStanding catalogue right pair := by
  have sameScore (assessment : Assessment) (participant : UserId) :
      calculateScore catalogue left assessment participant =
        calculateScore catalogue right assessment participant := by
    rw [calculateScore, calculateScore, Database.responsesOf,
      Database.responsesOf, same]
  have sameStatus (assessment : Assessment) (participant : UserId) :
      determineStatus catalogue left assessment participant =
        determineStatus catalogue right assessment participant := by
    rw [determineStatus, determineStatus, Database.responsesOf,
      Database.responsesOf, same]
  simp only [computedStanding, sameScore, sameStatus]

/-- Nothing is written for a pair without responses. -/
theorem computedStanding_of_no_responses
    (catalogue : Catalogue) {database : Database} {pair : Pair}
    (none : database.responsesOf pair = []) :
    computedStanding catalogue database pair = Option.none := by
  rw [computedStanding]
  cases found : catalogue.assessment? pair.assessmentId with
  | none => rfl
  | some assessment =>
      have noResponses :
          database.responsesOf ⟨assessment.id, pair.participantId⟩ =
            [] := by
        rw [Catalogue.assessment?_id found]
        exact none
      dsimp only
      rw [calculateScore, noResponses]
      rfl

/-- Nothing is written for a pair whose score is null. -/
theorem computedStanding_of_null
    {catalogue : Catalogue} {database : Database} {pair : Pair}
    {assessment : Assessment}
    (found : catalogue.assessment? pair.assessmentId = some assessment)
    (null :
      calculateScore catalogue database assessment pair.participantId =
        .ok none) :
    computedStanding catalogue database pair = none := by
  rw [computedStanding, found]
  dsimp only
  rw [null]

/-! ## Databases with one row for each pair -/

/-- No pair has two rows. -/
def AtMostOneRow (database : Database) : Prop :=
  ∀ pair, (rowsOf database pair).length ≤ 1

theorem rowsOf_eq_toList
    {database : Database} (single : AtMostOneRow database)
    (pair : Pair) :
    rowsOf database pair = (database.participation? pair).toList := by
  have bounded := single pair
  have first :
      (rowsOf database pair).head? = database.participation? pair :=
    List.head?_filter
  rw [← first]
  cases rows : rowsOf database pair with
  | nil => rfl
  | cons row rest =>
      rw [rows] at bounded
      have noRest : rest = [] := by
        cases rest with
        | nil => rfl
        | cons other others =>
            simp at bounded
      rw [noRest]
      rfl

theorem rowsOf_upsertParticipation_of_ne
    (database : Database) {pair other : Pair}
    (columns : ParticipationColumns) (different : other ≠ pair) :
    rowsOf (database.upsertParticipation pair columns) other =
      rowsOf database other := by
  let chosen : Pair → Bool := fun key => key = other
  have excluded : chosen pair = false :=
    decide_eq_false (Ne.symm different)
  exact Database.filter_upsertParticipation database columns excluded

theorem length_rowsOf_upsertParticipation
    (database : Database) (pair : Pair)
    (columns : ParticipationColumns)
    (single : (rowsOf database pair).length ≤ 1) :
    (rowsOf (database.upsertParticipation pair columns) pair).length ≤
      1 := by
  rw [rowsOf, rowsWhere, ← List.countP_eq_length_filter] at single ⊢
  rw [Database.upsertParticipation, Database.upsertStatement]
  split_ifs with found
  · change
      List.countP _ (updateFirst _ columns.fill
        database.assessmentParticipants) ≤ 1
    rw [countP_updateFirst _ _ columns.fill (fun _ => rfl)]
    exact single
  · have absent :
        database.assessmentParticipants.countP
          (fun row => decide (row.pair = pair)) = 0 := by
      rw [Option.not_isSome_iff_eq_none] at found
      exact List.countP_eq_zero.mpr (List.find?_eq_none.mp found)
    change
      List.countP _
        (database.assessmentParticipants ++ [columns.newRow pair]) ≤ 1
    rw [List.countP_append, absent]
    simp

theorem atMostOneRow_upsertParticipation
    {database : Database} (single : AtMostOneRow database)
    (pair : Pair) (columns : ParticipationColumns) :
    AtMostOneRow (database.upsertParticipation pair columns) := by
  intro other
  by_cases own : other = pair
  · subst own
    exact
      length_rowsOf_upsertParticipation database other columns
        (single other)
  · rw [rowsOf_upsertParticipation_of_ne database columns own]
    exact single other

/-- The written row shows the written score and status. -/
theorem standing_upsertParticipation
    {database : Database} (single : AtMostOneRow database)
    (pair : Pair) {score : ℚ} (status : ParticipationStatus)
    (updatedAt : Timestamp) :
    standing
        (rowsOf
          (database.upsertParticipation pair
            { score := some score
              status := status
              updatedAt := updatedAt })
          pair) =
      [(some score, status)] := by
  rw [rowsOf_eq_toList (atMostOneRow_upsertParticipation single _ _),
    Database.participation?_upsertParticipation_self]
  cases database.participation? pair with
  | none => rfl
  | some row => rfl

/-! ## Sweeps -/

/-- A database whose selections are id lists and whose pairs have one row. -/
structure Sound (database : Database) : Prop where
  idLists :
    ∀ response ∈ database.participantResponses.rows, HasIdList response
  single : AtMostOneRow database

/-- The covered pairs are recalculated, and nothing else is changed. -/
structure Swept (catalogue : Catalogue) (covered : Pair → Prop)
    (before after : Database) : Prop where
  responses : after.participantResponses = before.participantResponses
  single : AtMostOneRow after
  rows :
    Overwrites standing (computedStanding catalogue before) covered
      (rowsOf before) (rowsOf after)

theorem Swept.refl (catalogue : Catalogue) {database : Database}
    (sound : Sound database) :
    Swept catalogue (fun _ => False) database database where
  responses := rfl
  single := sound.single
  rows := Overwrites.refl _

theorem Swept.sound {catalogue : Catalogue} {covered : Pair → Prop}
    {before after : Database}
    (swept : Swept catalogue covered before after)
    (sound : Sound before) : Sound after where
  idLists := by
    rw [swept.responses]
    exact sound.idLists
  single := swept.single

theorem Swept.trans {catalogue : Catalogue}
    {covered more : Pair → Prop} {before middle after : Database}
    (earlier : Swept catalogue covered before middle)
    (later : Swept catalogue more middle after) :
    Swept catalogue (fun pair => covered pair ∨ more pair) before
      after where
  responses := later.responses.trans earlier.responses
  single := later.single
  rows := by
    have same :
        computedStanding catalogue middle =
          computedStanding catalogue before :=
      funext (computedStanding_congr earlier.responses catalogue)
    have laterRows := later.rows
    rw [same] at laterRows
    exact earlier.rows.trans laterRows

/-- Pairs without responses may be counted as covered or not. -/
theorem Swept.congr {catalogue : Catalogue}
    {covered more : Pair → Prop} {before after : Database}
    (swept : Swept catalogue covered before after)
    (same :
      ∀ pair, before.responsesOf pair ≠ [] →
        (catalogue.assessment? pair.assessmentId).isSome →
          (more pair ↔ covered pair)) :
    Swept catalogue more before after where
  responses := swept.responses
  single := swept.single
  rows := by
    apply swept.rows.congr
    intro pair hasTarget
    apply same
    · intro none
      exact hasTarget (computedStanding_of_no_responses catalogue none)
    · rw [computedStanding] at hasTarget
      cases found : catalogue.assessment? pair.assessmentId with
      | none =>
          rw [found] at hasTarget
          exact (hasTarget rfl).elim
      | some assessment => rfl

theorem atMostOneRow_rescore
    {catalogue : Catalogue} {database : Database}
    (single : AtMostOneRow database) (now : Timestamp)
    (assessment : Assessment) (participant : UserId) :
    AtMostOneRow
      (rescore catalogue now assessment participant database) := by
  rcases rescoreStatements_cases catalogue now assessment participant
      database with
    ⟨score, computed, _⟩ | ⟨_, nothing⟩
  · rw [rescore_of_ok_some catalogue now computed]
    exact atMostOneRow_upsertParticipation single _ _
  · rw [rescore, nothing]
    exact single

/-- One recalculation writes the standing of its pair. -/
theorem overwrites_rescore
    {catalogue : Catalogue} {database : Database}
    (single : AtMostOneRow database) (now : Timestamp)
    {assessment : Assessment}
    (found : catalogue.assessment? assessment.id = some assessment)
    {participant : UserId} {score : Option ℚ}
    (computed :
      calculateScore catalogue database assessment participant =
        .ok score) :
    Overwrites standing (computedStanding catalogue database)
      (fun pair => pair = ⟨assessment.id, participant⟩)
      (rowsOf database)
      (rowsOf
        (rescore catalogue now assessment participant database)) where
  written := by
    rintro pair rfl value isTarget
    rw [computedStanding, found] at isTarget
    dsimp only at isTarget
    rw [computed] at isTarget
    cases score with
    | none => cases isTarget
    | some score =>
        cases isTarget
        rw [rescore_of_ok_some catalogue now computed]
        exact standing_upsertParticipation single _ _ _
  kept := by
    intro pair excluded
    cases score with
    | none => rw [rescore_of_ok_none catalogue now computed]
    | some score =>
        rw [rescore_of_ok_some catalogue now computed]
        apply rowsOf_upsertParticipation_of_ne
        rintro rfl
        have noTarget := excluded rfl
        rw [computedStanding, found] at noTarget
        dsimp only at noTarget
        rw [computed] at noTarget
        cases noTarget

/-- A program returns and sweeps, whenever it finds these responses. -/
def Sweeps (catalogue : Catalogue)
    (responses : KeyedTable ParticipantResponse.key)
    (covered : Pair → Prop) (program : DatabaseProgram Unit) : Prop :=
  ∀ database, database.participantResponses = responses →
    Sound database →
      ∃ statements,
        program.issued database = (.ok (), statements) ∧
          Swept catalogue covered database
            (Program.performAll statements database)

section Sweeps

variable {catalogue : Catalogue}
  {responses : KeyedTable ParticipantResponse.key}

theorem Sweeps.congr {covered more : Pair → Prop}
    {program : DatabaseProgram Unit}
    (sweeps : Sweeps catalogue responses covered program)
    (same :
      ∀ pair, (∃ response ∈ responses.rows, response.pair = pair) →
        (catalogue.assessment? pair.assessmentId).isSome →
          (more pair ↔ covered pair)) :
    Sweeps catalogue responses more program := by
  intro database finds sound
  rcases sweeps database finds sound with ⟨statements, issues, swept⟩
  refine ⟨statements, issues, swept.congr ?_⟩
  intro pair answered isAssessment
  apply same pair _ isAssessment
  rcases List.exists_mem_of_ne_nil _ answered with ⟨response, member⟩
  rcases (Database.mem_responsesOf_iff _ _ _).mp member with
    ⟨listed, samePair⟩
  rw [finds] at listed
  exact ⟨response, listed, samePair⟩

/-- A query that reads responses only is answered by the responses. -/
theorem sweeps_query {Value : Type} {covered : Pair → Prop}
    (question : Database → Value)
    (continuation : Value → DatabaseProgram Unit)
    (sweeps :
      ∀ database, database.participantResponses = responses →
        Sweeps catalogue responses covered
          (continuation (question database))) :
    Sweeps catalogue responses covered
      ((Program.query question).bind continuation) := by
  intro database finds sound
  rcases sweeps database finds database finds sound with
    ⟨statements, issues, swept⟩
  refine ⟨statements, ?_, swept⟩
  rw [Program.issued_bind, Program.issued_query]
  change (continuation (question database)).issued database = _
  exact issues

/-- A loop covers what its bodies cover. -/
theorem sweeps_forEach {Entry : Type} {covered : Entry → Pair → Prop}
    {body : Entry → DatabaseProgram Unit} (entries : List Entry)
    (sweeps :
      ∀ entry ∈ entries,
        Sweeps catalogue responses (covered entry) (body entry)) :
    Sweeps catalogue responses
      (fun pair => ∃ entry ∈ entries, covered entry pair)
      (Program.forEach body entries) := by
  induction entries with
  | nil =>
      intro database _ sound
      refine ⟨[], rfl, (Swept.refl catalogue sound).congr ?_⟩
      intro pair _ _
      simp
  | cons entry rest induction =>
      intro database finds sound
      rcases sweeps entry List.mem_cons_self database finds sound with
        ⟨statements, issues, swept⟩
      have foundAgain := swept.responses.trans finds
      rcases induction
          (fun other member =>
            sweeps other (List.mem_cons_of_mem _ member))
          _ foundAgain (swept.sound sound) with
        ⟨later, laterIssues, laterSwept⟩
      refine ⟨statements ++ later, ?_, ?_⟩
      · rw [Program.forEach, Program.issued_bind_of_ok issues,
          laterIssues]
      · rw [Program.performAll_append]
        apply (swept.trans laterSwept).congr
        intro pair _ _
        simp

theorem sweeps_recalculate
    (now : Timestamp) {assessment : Assessment}
    (found : catalogue.assessment? assessment.id = some assessment)
    (participant : UserId) :
    Sweeps catalogue responses
      (fun pair => pair = ⟨assessment.id, participant⟩)
      (recalculate catalogue now assessment participant) := by
  intro database _ sound
  have idLists :
      ∀ response ∈ database.responsesOf ⟨assessment.id, participant⟩,
        HasIdList response :=
    fun response member =>
      sound.idLists response (List.mem_filter.mp member).1
  have computed :
      ∃ score,
        calculateScore catalogue database assessment participant =
          .ok score :=
    ⟨_, scoreOf_eq catalogue assessment _ idLists⟩
  rcases computed with ⟨score, computed⟩
  refine
    ⟨entryStatements catalogue now (assessment, participant) database,
      Prod.ext ?_ (issued_recalculate _ _ _ _ _), ?_⟩
  · rw [recalculate, Program.bind_eq, Program.issued_bind,
      issued_calculateAndUpdateScore, computed]
    rfl
  · exact
      { responses := participantResponses_rescore _ _ _ _ _
        single := atMostOneRow_rescore sound.single now _ _
        rows := overwrites_rescore sound.single now found computed }

/-- The pairs of one assessment. -/
def OfAssessment (catalogue : Catalogue) (assessment : Assessment)
    (pair : Pair) : Prop :=
  pair.assessmentId = assessment.id ∧
    pair.participantId ∈ catalogue.users

theorem sweeps_recalculateForAssessment
    (now : Timestamp) {assessment : Assessment}
    (found : catalogue.assessment? assessment.id = some assessment) :
    Sweeps catalogue responses (OfAssessment catalogue assessment)
      (recalculateForAssessment catalogue now assessment) := by
  rw [recalculateForAssessment, Program.bind_eq]
  apply sweeps_query
  intro database finds
  apply
    (sweeps_forEach (participantsOf catalogue assessment database)
      fun participant _ =>
        sweeps_recalculate now found participant).congr
  rintro pair ⟨response, listed, samePair⟩ _
  constructor
  · rintro ⟨sameId, isUser⟩
    have samePairs : pair = ⟨assessment.id, pair.participantId⟩ := by
      rw [← sameId]
    refine ⟨pair.participantId, ?_, samePairs⟩
    apply List.mem_filter.mpr
    refine ⟨isUser, decide_eq_true ?_⟩
    apply List.ne_nil_of_mem
    apply (Database.mem_responsesOf_iff _ _ _).mpr
    rw [finds, ← samePairs]
    exact ⟨listed, samePair⟩
  · rintro ⟨participant, member, rfl⟩
    exact ⟨rfl, (List.mem_filter.mp member).1⟩

/-- The pairs of one participant. -/
def OfParticipant (catalogue : Catalogue) (participant : UserId)
    (pair : Pair) : Prop :=
  (catalogue.assessment? pair.assessmentId).isSome ∧
    pair.participantId = participant

theorem sweeps_recalculateForParticipant
    (now : Timestamp) (participant : UserId) :
    Sweeps catalogue responses (OfParticipant catalogue participant)
      (recalculateForParticipant catalogue now participant) := by
  rw [recalculateForParticipant, Program.bind_eq]
  apply sweeps_query
  intro database finds
  have listedFound (assessment : Assessment)
      (member : assessment ∈ assessmentsOf catalogue participant database) :
      catalogue.assessment? assessment.id = some assessment :=
    (catalogue.assessment?_eq_some_iff _ _).mpr
      ⟨(List.mem_filter.mp member).1, rfl⟩
  apply
    (sweeps_forEach (assessmentsOf catalogue participant database)
      fun assessment member =>
        sweeps_recalculate now (listedFound assessment member)
          participant).congr
  rintro pair ⟨response, listed, samePair⟩ isAssessment
  constructor
  · rintro ⟨_, sameParticipant⟩
    rcases Option.isSome_iff_exists.mp isAssessment with
      ⟨assessment, found⟩
    rcases (catalogue.assessment?_eq_some_iff _ _).mp found with
      ⟨isListed, sameId⟩
    have samePairs : pair = ⟨assessment.id, participant⟩ := by
      rw [sameId, ← sameParticipant]
    refine ⟨assessment, ?_, samePairs⟩
    apply List.mem_filter.mpr
    refine ⟨isListed, decide_eq_true ?_⟩
    apply List.ne_nil_of_mem
    apply (Database.mem_responsesOf_iff _ _ _).mpr
    rw [finds, ← samePairs]
    exact ⟨listed, samePair⟩
  · rintro ⟨assessment, member, rfl⟩
    exact
      ⟨Option.isSome_iff_exists.mpr ⟨_, listedFound assessment member⟩,
        rfl⟩

/-- All pairs of an assessment and a user. -/
def OfAll (catalogue : Catalogue) (pair : Pair) : Prop :=
  (catalogue.assessment? pair.assessmentId).isSome ∧
    pair.participantId ∈ catalogue.users

theorem sweeps_recalculateAll (now : Timestamp) :
    Sweeps catalogue responses (OfAll catalogue)
      (recalculateAll catalogue now) := by
  rw [recalculateAll, Program.bind_eq]
  apply sweeps_query
  intro database finds
  apply
    (sweeps_forEach _ fun assessment member =>
      sweeps_recalculateForAssessment now
        ((catalogue.assessment?_eq_some_iff _ _).mpr
          ⟨(List.mem_filter.mp member).1, rfl⟩)).congr
  rintro pair ⟨response, listed, samePair⟩ isAssessment
  constructor
  · rintro ⟨_, isUser⟩
    rcases Option.isSome_iff_exists.mp isAssessment with
      ⟨assessment, found⟩
    rcases (catalogue.assessment?_eq_some_iff _ _).mp found with
      ⟨isListed, sameId⟩
    refine ⟨assessment, ?_, sameId.symm, isUser⟩
    apply List.mem_filter.mpr
    refine ⟨isListed, List.any_eq_true.mpr ⟨response, ?_, ?_⟩⟩
    · rw [finds]
      exact listed
    · rw [sameId, ← samePair]
      exact decide_eq_true rfl
  · rintro ⟨assessment, _, sameId, isUser⟩
    exact ⟨isAssessment, isUser⟩

end Sweeps

/-! ## Runs of the command -/

theorem plain_recalculateForParticipant
    (catalogue : Catalogue) (now : Timestamp) (participant : UserId) :
    (recalculateForParticipant catalogue now participant).Plain := by
  apply Program.Plain.bind (Program.plain_query _)
  intro assessments
  exact Program.Plain.forEach (fun _ => plain_recalculate _ _ _ _) _

theorem plain_recalculateAll
    (catalogue : Catalogue) (now : Timestamp) :
    (recalculateAll catalogue now).Plain := by
  apply Program.Plain.bind (Program.plain_query _)
  intro assessments
  exact Program.Plain.forEach (plain_recalculateForAssessment _ _) _

/--
The ways to recalculate everything: at once, assessment by assessment, or
participant by participant, each part at its own time.
-/
inductive Recalculation where
  | all (now : Timestamp)
  | eachAssessment (order : List (Timestamp × Assessment))
  | eachParticipant (order : List (Timestamp × UserId))
deriving Repr

namespace Recalculation

/-- Nothing is left out and nothing comes twice. -/
def Complete (catalogue : Catalogue) : Recalculation → Prop
  | .all _ => True
  | .eachAssessment order =>
      (order.map Prod.snd).Perm catalogue.assessments
  | .eachParticipant order => (order.map Prod.snd).Perm catalogue.users

/-- The parts, in their order. -/
def programs (catalogue : Catalogue) :
    Recalculation → List (DatabaseProgram Unit)
  | .all now => [recalculateAll catalogue now]
  | .eachAssessment order =>
      order.map fun entry =>
        recalculateForAssessment catalogue entry.1 entry.2
  | .eachParticipant order =>
      order.map fun entry =>
        recalculateForParticipant catalogue entry.1 entry.2

/-- The database after the parts, one after the other. -/
def apply (catalogue : Catalogue) (recalculation : Recalculation)
    (database : Database) : Database :=
  (recalculation.programs catalogue).foldl
    (fun reached program => program.finalState reached) database

end Recalculation

/-- Parts that sweep, one after the other. -/
theorem swept_foldl {Entry : Type} {catalogue : Catalogue}
    {covered : Entry → Pair → Prop} {body : Entry → DatabaseProgram Unit}
    (plain : ∀ entry, (body entry).Plain) (entries : List Entry)
    {database : Database} (sound : Sound database)
    (sweeps :
      ∀ entry ∈ entries,
        Sweeps catalogue database.participantResponses (covered entry)
          (body entry)) :
    Swept catalogue (fun pair => ∃ entry ∈ entries, covered entry pair)
      database
      ((entries.map body).foldl
        (fun reached program => program.finalState reached)
        database) := by
  induction entries generalizing database with
  | nil =>
      apply (Swept.refl catalogue sound).congr
      intro pair _ _
      simp
  | cons entry rest induction =>
      rcases sweeps entry List.mem_cons_self database rfl sound with
        ⟨statements, issues, swept⟩
      have reached :
          (body entry).finalState database =
            Program.performAll statements database := by
        rw [Program.finalState_of_plain (plain entry), issues]
      rw [List.map_cons, List.foldl_cons, reached]
      have later :=
        induction (swept.sound sound) fun other member => by
          rw [swept.responses]
          exact sweeps other (List.mem_cons_of_mem _ member)
      apply (swept.trans later).congr
      intro pair _ _
      simp

/-- Every complete recalculation sweeps all pairs. -/
theorem swept_apply {catalogue : Catalogue} {database : Database}
    (sound : Sound database) {recalculation : Recalculation}
    (complete : recalculation.Complete catalogue) :
    Swept catalogue (OfAll catalogue) database
      (recalculation.apply catalogue database) := by
  cases recalculation with
  | all now =>
      rcases sweeps_recalculateAll now database rfl sound with
        ⟨statements, issues, swept⟩
      change Swept _ _ _ ((recalculateAll catalogue now).finalState _)
      rw [Program.finalState_of_plain (plain_recalculateAll _ _), issues]
      exact swept
  | eachAssessment order =>
      have found (entry : Timestamp × Assessment)
          (member : entry ∈ order) :
          catalogue.assessment? entry.2.id = some entry.2 :=
        (catalogue.assessment?_eq_some_iff _ _).mpr
          ⟨complete.mem_iff.mp (List.mem_map_of_mem member), rfl⟩
      apply
        (swept_foldl (fun _ => plain_recalculateForAssessment _ _ _)
          order sound fun entry member =>
            sweeps_recalculateForAssessment entry.1
              (found entry member)).congr
      intro pair _ isAssessment
      constructor
      · rintro ⟨_, isUser⟩
        rcases Option.isSome_iff_exists.mp isAssessment with
          ⟨assessment, isFound⟩
        rcases (catalogue.assessment?_eq_some_iff _ _).mp isFound with
          ⟨isListed, sameId⟩
        rcases List.mem_map.mp (complete.mem_iff.mpr isListed) with
          ⟨entry, member, rfl⟩
        exact ⟨entry, member, sameId.symm, isUser⟩
      · rintro ⟨_, _, _, isUser⟩
        exact ⟨isAssessment, isUser⟩
  | eachParticipant order =>
      apply
        (swept_foldl (fun _ => plain_recalculateForParticipant _ _ _)
          order sound fun entry _ =>
            sweeps_recalculateForParticipant entry.1 entry.2).congr
      intro pair _ isAssessment
      constructor
      · rintro ⟨_, isUser⟩
        rcases List.mem_map.mp (complete.mem_iff.mpr isUser) with
          ⟨entry, member, sameUser⟩
        exact ⟨entry, member, isAssessment, sameUser.symm⟩
      · rintro ⟨entry, member, _, sameUser⟩
        rw [OfAll, sameUser]
        exact
          ⟨isAssessment,
            complete.mem_iff.mp (List.mem_map_of_mem member)⟩

/-- A pair without responses, or with a null score. -/
def HasNoScore (catalogue : Catalogue) (database : Database)
    (pair : Pair) : Prop :=
  database.responsesOf pair = [] ∨
    ∃ assessment,
      catalogue.assessment? pair.assessmentId = some assessment ∧
        calculateScore catalogue database assessment
          pair.participantId = .ok none

/--
All ways to recalculate leave the same scores and statuses, a second
recalculation changes none of them, and rows of pairs without a score stay
as they are.
-/
theorem recalculation_scopes_agree
    (catalogue : Catalogue) (database : Database)
    (sound : Sound database) (first second : Recalculation)
    (firstComplete : first.Complete catalogue)
    (secondComplete : second.Complete catalogue) (pair : Pair) :
    standing (rowsOf (first.apply catalogue database) pair) =
        standing (rowsOf (second.apply catalogue database) pair) ∧
      standing
          (rowsOf
            (second.apply catalogue (first.apply catalogue database))
            pair) =
        standing (rowsOf (first.apply catalogue database) pair) ∧
      (HasNoScore catalogue database pair →
        rowsOf (first.apply catalogue database) pair =
          rowsOf database pair) := by
  have once := swept_apply sound firstComplete
  have other := swept_apply sound secondComplete
  have twice := swept_apply (once.sound sound) secondComplete
  have sameTarget :
      computedStanding catalogue (first.apply catalogue database) =
        computedStanding catalogue database :=
    funext (computedStanding_congr once.responses catalogue)
  have again := twice.rows
  rw [sameTarget] at again
  refine ⟨once.rows.agree other.rows pair, once.rows.again again pair, ?_⟩
  intro noScore
  apply once.rows.kept
  intro _
  rcases noScore with none | ⟨assessment, found, null⟩
  · exact computedStanding_of_no_responses catalogue none
  · exact computedStanding_of_null found null

/-- Two participants have chosen; the score of one of them is stale. -/
def staleDatabase : Database where
  participantResponses :=
    { rows :=
        [{ ParticipantResponse.blank (⟨1, 1⟩, 1) with
            selectedAnswerIdsColumn := some ['[', '1', ']'] },
          { ParticipantResponse.blank (⟨2, 2⟩, 4) with
            selectedAnswerIdsColumn := some ['[', '3', ']'] }]
      distinct := by decide }
  assessmentParticipants :=
    [{ assessmentId := 1, participantId := 1, status := .completed
       score := some 7, updatedAt := 0 }]

theorem sound_staleDatabase : Sound staleDatabase where
  idLists := by
    intro response member
    simp only [staleDatabase, List.mem_cons, List.not_mem_nil, or_false]
      at member
    rcases member with rfl | rfl
    · exact ⟨[1], by decide +kernel⟩
    · exact ⟨[3], by decide +kernel⟩
  single := fun _ => List.length_filter_le _ _

/-- Everything at once, then participant by participant. -/
theorem recalculation_scopes_agree_stale :
    let atOnce :=
      (Recalculation.all 5).apply sampleCatalogue staleDatabase
    let oneByOne :=
      (Recalculation.eachParticipant [(6, 2), (7, 1)]).apply
        sampleCatalogue staleDatabase
    standing (rowsOf atOnce ⟨1, 1⟩) = [(some 100, .inProgress)] ∧
      standing (rowsOf atOnce ⟨1, 1⟩) =
        standing (rowsOf oneByOne ⟨1, 1⟩) :=
  ⟨by decide +kernel,
    (recalculation_scopes_agree sampleCatalogue staleDatabase
      sound_staleDatabase (.all 5) (.eachParticipant [(6, 2), (7, 1)])
      True.intro (List.Perm.swap 1 2 []) ⟨1, 1⟩).1⟩

end SultanPass.RecalculateAssessmentScores
