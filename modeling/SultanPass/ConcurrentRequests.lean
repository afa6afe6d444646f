import SultanPass.Library.CheckThenInsert
import SultanPass.Operations
import Mathlib.Data.Fin.VecNotation

/-!
# One participation row for each pair

Every write of a participation row goes through `updateOrInsert`: a check
for the row, then an insertion or an update, without a lock and without a
unique key in the migrations.  Requests that run next to each other insert
two rows when both check before either commits.

`one_participation_row_of_run` gives the condition on the steps of a run
under which no pair ever has two rows.
-/

namespace SultanPass

open SultanPass.Library

/-! ## Operations as programs -/

/-- The statements of an operation, without its answer. -/
def Operation.program (catalogue : Catalogue)
    (assignment : SelectionAssignment) :
    Operation → DatabaseProgram Unit
  | .storeResponse request =>
      (SurveyController.storeResponse catalogue assignment request).bind
        fun _ => .done ()
  | .grade request => GradingController.store catalogue request
  | .recalculate options =>
      (RecalculateAssessmentScores.handle catalogue options).bind
        fun _ => .done ()

/-! ## Insertions of participation rows -/

/-- The participation rows of each pair. -/
def participationRows : RowCount Database Statement Pair where
  inserted := fun statement =>
    match statement with
    | .insertParticipant pair _ => some pair
    | _ => none
  count := fun pair database =>
    database.assessmentParticipants.countP fun row => row.pair = pair
  count_perform := by
    intro pair statement database
    cases statement with
    | saveAnswer key columns => rfl
    | saveGrade key columns => rfl
    | insertParticipant other columns =>
        change List.countP _ (_ ++ [columns.newRow other]) = _
        rw [List.countP_append, List.countP_singleton]
        by_cases same : other = pair <;> simp [same]
    | updateParticipant other columns =>
        exact
          countP_updateFirst _ (fun row => decide (row.pair = pair))
            columns.fill (fun _ => rfl) _
    | updateParticipants other columns =>
        change List.countP _ (List.map _ _) = _
        rw [List.countP_map]
        apply List.countP_congr
        intro row _
        by_cases isMatch : row.pair = other <;> simp [isMatch]
    | fixOldScaleScores updatedAt =>
        change List.countP _ (List.map _ _) = _
        rw [List.countP_map]
        apply List.countP_congr
        intro row _
        simp

theorem count_eq_zero_of_participation?
    {database : Database} {pair : Pair}
    (absent : ¬ (database.participation? pair).isSome = true) :
    participationRows.count pair database = 0 := by
  rw [Option.not_isSome_iff_eq_none] at absent
  exact List.countP_eq_zero.mpr (List.find?_eq_none.mp absent)

/-! ## Every insertion is checked -/

section Checked

open RowCount

theorem checked_updateOrInsert
    (pair : Pair) (columns : ParticipationColumns) :
    participationRows.Checked
      (AssessmentScoreService.updateOrInsert pair columns) none := by
  intro database
  change participationRows.Checked (if _ then _ else _) (some database)
  split_ifs with found
  · exact
      Checked.of_none _ (checked_execute participationRows rfl) _
  · refine ⟨?_, True.intro⟩
    intro key inserts
    cases inserts
    exact ⟨database, rfl, count_eq_zero_of_participation? found⟩

theorem checked_calculateAndUpdateScore
    (catalogue : Catalogue) (now : Timestamp)
    (assessment : Assessment) (participant : UserId) :
    participationRows.Checked
      (AssessmentScoreService.calculateAndUpdateScore catalogue now
        assessment participant) none := by
  apply Checked.bind _ (checked_query _ _)
  intro computed
  apply Checked.bind _ (checked_ofExcept _ _)
  intro score
  cases score with
  | none => exact True.intro
  | some score =>
      apply Checked.bind _ (checked_query _ _)
      intro status
      apply Checked.bind _ (checked_updateOrInsert _ _)
      intro _
      exact True.intro

theorem checked_saved
    (catalogue : Catalogue) (now : Timestamp)
    (response : ParticipantResponse) :
    participationRows.Checked
      (ParticipantResponseObserver.saved catalogue now response)
      none := by
  rcases ParticipantResponseObserver.saved_cases catalogue now response
    with nothing | ⟨assessment, recalculates⟩
  · rw [nothing]
    exact True.intro
  · rw [recalculates]
    exact
      Checked.bind _ (checked_calculateAndUpdateScore _ _ _ _)
        fun _ => True.intro

theorem checked_storeResponse
    (catalogue : Catalogue) (assignment : SelectionAssignment)
    (request : SurveyController.StoreResponseRequest) :
    participationRows.Checked
      (SurveyController.storeResponse catalogue assignment request)
      none := by
  rw [SurveyController.storeResponse_eq]
  apply Checked.bind _ (checked_ofExcept _ _)
  intro found
  apply Checked.bind
  · apply Checked.transaction
    apply Checked.bind
    · apply Checked.bind _ (checked_query _ _)
      intro existing
      apply Checked.bind _ (checked_execute _ rfl)
      intro _
      exact checked_saved _ _ _
    · intro _
      exact checked_updateOrInsert _ _
  · intro _
    rw [SurveyController.navigate]
    cases request.action with
    | submit =>
        exact
          Checked.bind _ (checked_execute _ rfl) fun _ => True.intro
    | _ => exact True.intro

theorem checked_store
    (catalogue : Catalogue)
    (request : GradingController.StoreRequest) :
    participationRows.Checked
      (GradingController.store catalogue request) none := by
  apply Checked.bind _ (checked_ofExcept _ _)
  intro assessment
  apply Checked.bind _ (checked_ofExcept _ _)
  intro _
  apply Checked.transaction
  apply Checked.bind
  · apply Checked.forEach
    intro entry
    apply Checked.bind _ (checked_query _ _)
    intro found
    cases found with
    | none => exact True.intro
    | some response =>
        dsimp only
        split_ifs
        · apply Checked.bind _ (checked_execute _ rfl)
          intro _
          exact checked_saved _ _ _
        · exact True.intro
  · intro _
    exact
      Checked.bind _ (checked_calculateAndUpdateScore _ _ _ _)
        fun _ => True.intro

theorem checked_recalculate
    (catalogue : Catalogue) (now : Timestamp)
    (assessment : Assessment) (participant : UserId) :
    participationRows.Checked
      (RecalculateAssessmentScores.recalculate catalogue now assessment
        participant) none :=
  Checked.bind _ (checked_calculateAndUpdateScore _ _ _ _)
    fun _ => True.intro

theorem checked_recalculateForAssessment
    (catalogue : Catalogue) (now : Timestamp)
    (assessment : Assessment) :
    participationRows.Checked
      (RecalculateAssessmentScores.recalculateForAssessment catalogue
        now assessment) none := by
  apply Checked.bind _ (checked_query _ _)
  intro participants
  exact Checked.forEach _ (checked_recalculate _ _ _) _

theorem checked_handle
    (catalogue : Catalogue)
    (options : RecalculateAssessmentScores.Options) :
    participationRows.Checked
      (RecalculateAssessmentScores.handle catalogue options) none := by
  apply Checked.bind
  · rw [RecalculateAssessmentScores.fixOldScaleScores]
    split_ifs
    · exact checked_execute _ rfl
    · exact True.intro
  · intro _
    cases RecalculateAssessmentScores.given options.participant with
    | some participant =>
        dsimp only
        split_ifs
        · apply Checked.bind
          · apply Checked.bind _ (checked_query _ _)
            intro assessments
            exact
              Checked.forEach _
                (fun assessment => checked_recalculate _ _ _ _) _
          · exact fun _ => True.intro
        · exact True.intro
    | none =>
        cases RecalculateAssessmentScores.given options.assessment with
        | some assessmentId =>
            dsimp only
            cases catalogue.assessment? assessmentId with
            | none => exact True.intro
            | some assessment =>
                exact
                  Checked.bind _
                    (checked_recalculateForAssessment _ _ _)
                    fun _ => True.intro
        | none =>
            apply Checked.bind
            · apply Checked.bind _ (checked_query _ _)
              intro assessments
              exact
                Checked.forEach _
                  (checked_recalculateForAssessment _ _) _
            · exact fun _ => True.intro

theorem checked_program
    (catalogue : Catalogue) (assignment : SelectionAssignment)
    (operation : Operation) :
    participationRows.Checked
      (operation.program catalogue assignment) none := by
  cases operation with
  | storeResponse request =>
      exact
        Checked.bind _ (checked_storeResponse _ _ _) fun _ => True.intro
  | grade request => exact checked_store _ _
  | recalculate options =>
      exact Checked.bind _ (checked_handle _ _) fun _ => True.intro

end Checked

/-! ## Runs -/

section Runs

variable {Index : Type} [Fintype Index] [DecidableEq Index]

/--
In every run whose steps are all unraced, every state that is reached has at
most one participation row for each pair.
-/
theorem one_participation_row_of_run
    (catalogue : Catalogue) (assignment : SelectionAssignment)
    (operations : Index → Operation) (database : Database)
    (unique : ∀ pair, participationRows.count pair database ≤ 1)
    (schedule : List Index)
    (unraced :
      participationRows.UnracedRun schedule
        (System.start
          (fun index => (operations index).program catalogue assignment)
          database))
    (pair : Pair) :
    participationRows.count pair
        ((System.start
          (fun index => (operations index).program catalogue assignment)
          database).run schedule).shared ≤ 1 :=
  participationRows.unique_run
    (fun index => checked_program catalogue assignment (operations index))
    unique unraced pair

end Runs

/-- Two tabs of one participant save answers to different questions. -/
def twoTabs : Fin 2 → Operation :=
  ![.storeResponse (sampleText 2 "a" .next),
    .storeResponse (sampleText 3 "b" .next)]

/-- The two tabs before their first statement, on the empty database. -/
def twoTabsStart : System (Fin 2) Database Statement PhpError Unit :=
  System.start
    (fun index => (twoTabs index).program sampleCatalogue .jsonEncoded)
    Database.empty

theorem one_participation_row_of_run_twoTabs :
    participationRows.count ⟨1, 1⟩
        (twoTabsStart.run [0, 0, 0, 0, 0, 0, 1, 1, 1, 1, 1, 1]).shared ≤
      1 :=
  one_participation_row_of_run sampleCatalogue .jsonEncoded twoTabs
    Database.empty (fun _ => Nat.zero_le _)
    [0, 0, 0, 0, 0, 0, 1, 1, 1, 1, 1, 1] (by decide +kernel) ⟨1, 1⟩

/-- Both tabs check for the row before either commits its own. -/
theorem two_tabs_insert_two_rows :
    participationRows.count ⟨1, 1⟩
        (twoTabsStart.run [0, 0, 0, 0, 1, 1, 1, 1, 0, 0, 1, 1]).shared =
      2 := by
  decide +kernel

end SultanPass
