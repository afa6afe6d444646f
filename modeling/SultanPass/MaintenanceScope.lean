import SultanPass.LegacyScale
import SultanPass.Operations

/-!
# The scope of `assessments:recalculate-scores`

The options `--participant` and `--assessment` select what is recalculated.
`--fix-old-scores` is a step of its own: it comes first, rewrites the whole
table, and is neither scoped nor undone when the selected participant or
assessment does not exist.

`handle_scope` compares the rows with those after this first step, which are
the rows before the command when the option is not set.
-/

namespace SultanPass.RecalculateAssessmentScores

open SultanPass.Library
open SultanPass.AssessmentScoreService

/-- The database after the step of `--fix-old-scores`, if it is set. -/
def afterFixStep (options : Options) (database : Database) : Database :=
  if options.fixOldScores then afterFix options.now database
  else database

theorem afterFixStep_eq_performAll
    (options : Options) (database : Database) :
    afterFixStep options database =
      Program.performAll (fixStatements options) database := by
  rw [afterFixStep, fixStatements]
  split_ifs <;> rfl

/-- The rows whose pair is chosen. -/
def rowsWhere (keep : Pair → Bool) (database : Database) :
    List AssessmentParticipant :=
  database.assessmentParticipants.filter fun row => keep row.pair

/-- A loop of recalculations keeps the rows outside of its scope. -/
theorem rowsWhere_of_isRescoringOf
    {catalogue : Catalogue} {now : Timestamp}
    {scope : Assessment × UserId → Prop} {keep : Pair → Bool}
    (outside :
      ∀ entry, scope entry → keep ⟨entry.1.id, entry.2⟩ = false)
    {statements : List Statement} {database : Database}
    (rescores :
      IsRescoringOf catalogue now scope statements database) :
    rowsWhere keep (Program.performAll statements database) =
      rowsWhere keep database := by
  rcases rescores with ⟨entries, inScope, rfl⟩
  refine
    (Program.loopStatements_invariant
      (fun reached : Database =>
        rowsWhere keep reached = rowsWhere keep database)
      (entryStatements catalogue now) entries ?_ database rfl).1
  intro entry member reached same
  refine Eq.trans ?_ same
  exact
    filter_rescore catalogue now entry.1 entry.2 reached
      (outside entry (inScope entry member))

/-- The command keeps the rows that its options do not select. -/
theorem rowsWhere_handle
    (catalogue : Catalogue) (options : Options)
    (database : Database) {keep : Pair → Bool}
    (outside :
      ∀ entry, Selected catalogue options entry →
        keep ⟨entry.1.id, entry.2⟩ = false) :
    rowsWhere keep ((handle catalogue options).finalState database) =
      rowsWhere keep (afterFixStep options database) := by
  rcases issued_handle_of_options catalogue options database with
    ⟨statements, rescores, issues⟩
  rw [Program.finalState_of_plain (plain_handle catalogue options),
    issues, Program.performAll_append, afterFixStep_eq_performAll]
  exact rowsWhere_of_isRescoringOf outside rescores

/-- The command ends with this exit code after its first step alone. -/
def StopsAfterFixStep (catalogue : Catalogue) (options : Options)
    (database : Database) : Prop :=
  ((handle catalogue options).exec ⟨database, none⟩).1 = .ok 1 ∧
    (handle catalogue options).finalState database =
      afterFixStep options database

/-- A command whose last part is an exit code stops after its first. -/
theorem stopsAfterFixStep_of_eq
    {catalogue : Catalogue} {options : Options}
    (stops :
      handle catalogue options =
        (fixOldScaleScores options).bind fun _ =>
          (.done 1 : DatabaseProgram ℕ))
    (database : Database) :
    StopsAfterFixStep catalogue options database := by
  have issues :
      (handle catalogue options).issued database =
        (.ok 1, fixStatements options ++ []) := by
    rw [stops,
      Program.issued_bind_of_ok
        (issued_fixOldScaleScores options database)]
    rfl
  have plain := plain_handle catalogue options
  constructor
  · rw [Program.exec_plain plain, issues]
  · rw [Program.finalState_of_plain plain, issues, List.append_nil,
      afterFixStep_eq_performAll]

theorem stops_of_unknown_participant
    {catalogue : Catalogue} {options : Options} {participant : UserId}
    (chosen : given options.participant = some participant)
    (unknown : participant ∉ catalogue.users) (database : Database) :
    StopsAfterFixStep catalogue options database := by
  apply stopsAfterFixStep_of_eq
  rw [handle, Program.bind_eq]
  simp only [chosen, if_neg unknown]
  rfl

theorem stops_of_unknown_assessment
    {catalogue : Catalogue} {options : Options} {id : AssessmentId}
    (noParticipant : given options.participant = none)
    (chosen : given options.assessment = some id)
    (unknown : catalogue.assessment? id = none) (database : Database) :
    StopsAfterFixStep catalogue options database := by
  apply stopsAfterFixStep_of_eq
  rw [handle, Program.bind_eq]
  simp only [noParticipant, chosen, unknown]
  rfl

/--
A selected participant or assessment bounds what is recalculated: every other
row is as the first step leaves it, and an unknown one ends the command with
exit code 1 after the first step.  Without `--fix-old-scores` this step
changes nothing; with it every row is rewritten on its own.
-/
theorem handle_scope
    (catalogue : Catalogue) (options : Options) (database : Database) :
    (∀ participant, given options.participant = some participant →
        rowsWhere (fun pair => pair.participantId ≠ participant)
            ((handle catalogue options).finalState database) =
          rowsWhere (fun pair => pair.participantId ≠ participant)
            (afterFixStep options database) ∧
        (participant ∉ catalogue.users →
          StopsAfterFixStep catalogue options database)) ∧
      (given options.participant = none →
        ∀ id, given options.assessment = some id →
          rowsWhere (fun pair => pair.assessmentId ≠ id)
              ((handle catalogue options).finalState database) =
            rowsWhere (fun pair => pair.assessmentId ≠ id)
              (afterFixStep options database) ∧
          (catalogue.assessment? id = none →
            StopsAfterFixStep catalogue options database)) ∧
      (options.fixOldScores = false →
        afterFixStep options database = database) ∧
      (options.fixOldScores = true →
        (afterFixStep options database).assessmentParticipants =
          database.assessmentParticipants.map
            (AssessmentParticipant.fixOldScale options.now)) := by
  refine ⟨?_, ?_, ?_, ?_⟩
  · intro participant chosen
    constructor
    · apply rowsWhere_handle
      intro entry selected
      simp [selected.2.1 participant chosen]
    · intro unknown
      exact stops_of_unknown_participant chosen unknown database
  · intro noParticipant id chosen
    constructor
    · apply rowsWhere_handle
      intro entry selected
      simp [selected.2.2 noParticipant id chosen]
    · intro unknown
      exact
        stops_of_unknown_assessment noParticipant chosen unknown database
  · intro unset
    rw [afterFixStep, unset]
    rfl
  · intro set
    rw [afterFixStep, set, if_pos rfl, assessmentParticipants_afterFix]

/-- Rows of two participants, one score of each below 20. -/
def twoParticipants : Database where
  participantResponses := KeyedTable.empty
  assessmentParticipants :=
    [{ assessmentId := 1, participantId := 1, status := .completed
       score := some 80, updatedAt := 0 },
      { assessmentId := 1, participantId := 2, status := .completed
        score := some 15, updatedAt := 0 }]

/-- The command for one participant. -/
def forParticipant (participant : UserId) (fixOldScores : Bool) :
    Options where
  participant := some participant
  assessment := none
  fixOldScores := fixOldScores
  now := 1

theorem handle_scope_twoParticipants :
    rowsWhere (fun pair => pair.participantId ≠ 1)
        ((handle sampleCatalogue (forParticipant 1 false)).finalState
          twoParticipants) =
      rowsWhere (fun pair => pair.participantId ≠ 1)
        twoParticipants := by
  have scope :=
    handle_scope sampleCatalogue (forParticipant 1 false)
      twoParticipants
  rw [(scope.1 1 rfl).1, scope.2.2.1 rfl]

/--
With `--fix-old-scores` the row of participant 2 changes, for an existing
participant 1 and for a participant 9 who does not exist.
-/
theorem fix_leaves_scope :
    (((handle sampleCatalogue (forParticipant 1 true)).finalState
          twoParticipants).assessmentParticipants.map
        AssessmentParticipant.score =
      [some 80, some 150]) ∧
      ((handle sampleCatalogue (forParticipant 9 true)).exec
          ⟨twoParticipants, none⟩).1 =
        .ok 1 ∧
      (((handle sampleCatalogue (forParticipant 9 true)).finalState
            twoParticipants).assessmentParticipants.map
          AssessmentParticipant.score =
        [some 80, some 150]) := by
  decide +kernel

end SultanPass.RecalculateAssessmentScores
