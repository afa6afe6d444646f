import SultanPass.ReferentialIntegrity

/-!
# Who writes answers and grades

The answer of a participant to a question changes in one way only: the
participant saves it.  Its grade changes in one way only: somebody who may
grade enters it.  Neither disappears; the deletion of the participant is
refused, and that of the grader keeps the grade.

An event reaches the responses through one of four operations
(`DatabaseEffect`), and each result looks at these four.
-/

namespace SultanPass

open SultanPass.Library
open SultanPass.Library.Routing

namespace ParticipantResponse

/-- What the participant has entered. -/
def entered (response : ParticipantResponse) :
    Option JsonText.Text × Option String :=
  (response.selectedAnswerIdsColumn, response.writtenResponseText)

/-- What a grader has entered. -/
def marks (response : ParticipantResponse) :
    Option ℚ × Option GradedCategories × Option Timestamp :=
  (response.gradedScore, response.gradedCategories, response.gradedAt)

@[simp]
theorem entered_withoutGrader (userId : UserId)
    (response : ParticipantResponse) :
    (response.withoutGrader userId).entered = response.entered := by
  unfold withoutGrader
  split_ifs <;> rfl

@[simp]
theorem marks_withoutGrader (userId : UserId)
    (response : ParticipantResponse) :
    (response.withoutGrader userId).marks = response.marks := by
  unfold withoutGrader
  split_ifs <;> rfl

@[simp]
theorem marks_fill (columns : AnswerColumns)
    (response : ParticipantResponse) :
    (columns.fill response).marks = response.marks := by
  cases columns <;> rfl

end ParticipantResponse

namespace Database

/-- The answer under a key, if there is a response. -/
def entered? (database : Database) (key : ResponseKey) :
    Option (Option JsonText.Text × Option String) :=
  (database.response? key).map ParticipantResponse.entered

/-- The grade under a key; a missing response has none. -/
def marksOf (database : Database) (key : ResponseKey) :
    Option ℚ × Option GradedCategories × Option Timestamp :=
  ((database.response? key).getD (ParticipantResponse.blank key)).marks

/-- The responses of the others stay when a user is deleted. -/
theorem response?_withoutUser_of_ne (database : Database)
    {userId : UserId} {key : ResponseKey}
    (other : key.1.participantId ≠ userId) :
    (database.withoutUser userId).response? key =
      (database.response? key).map fun response =>
        response.withoutGrader userId := by
  cases found : database.response? key with
  | none =>
      cases foundAfter :
          (database.withoutUser userId).response? key with
      | none => rfl
      | some response =>
          rcases response?_withoutUser foundAfter with ⟨old, isOld, _⟩
          rw [found] at isOld
          cases isOld
  | some response =>
      rcases (KeyedTable.find?_eq_some_iff _ _ _).mp found with
        ⟨member, rfl⟩
      apply (KeyedTable.find?_eq_some_iff _ _ _).mpr
      refine ⟨?_, ParticipantResponse.key_withoutGrader _ _⟩
      apply List.mem_map_of_mem
      exact List.mem_filter.mpr ⟨member, decide_eq_true other⟩

/-- A user without a participation has no response either. -/
theorem References.response?_eq_none {catalogue : Catalogue}
    {database : Database} (holds : References catalogue database)
    {userId : UserId}
    (noParticipation :
      ∀ pair, database.HasParticipation pair →
        pair.participantId ≠ userId)
    {key : ResponseKey} (own : key.1.participantId = userId) :
    database.response? key = none := by
  cases found : database.response? key with
  | none => rfl
  | some response =>
      exact
        (noParticipation key.1 (holds.participated key response found)
          own).elim

/-- So a deletion that is not refused keeps all responses. -/
theorem References.response?_withoutUser {catalogue : Catalogue}
    {database : Database} (holds : References catalogue database)
    {userId : UserId}
    (noParticipation :
      ∀ pair, database.HasParticipation pair →
        pair.participantId ≠ userId)
    (key : ResponseKey) :
    (database.withoutUser userId).response? key =
      (database.response? key).map fun response =>
        response.withoutGrader userId := by
  by_cases own : key.1.participantId = userId
  · rw [holds.response?_eq_none noParticipation own]
    cases found : (database.withoutUser userId).response? key with
    | none => rfl
    | some response =>
        rcases Database.response?_withoutUser found with
          ⟨old, _, other, _⟩
        exact (other own).elim
  · exact response?_withoutUser_of_ne database own

end Database

namespace Application

variable {services : Services} (readKey : Word → Option ℕ)

/-! ## What an event does to the responses -/

/-- The database after an event. -/
inductive DatabaseEffect (app : Application services) :
    Event → Database → Prop where
  | unchanged (event : Event) : DatabaseEffect app event app.database
  | answered (request : HttpRequest) (user : UserId)
      (assessmentId : AssessmentId) (form : AnswerForm)
      (isServed :
        app.served readKey request =
          some (.surveyStoreResponse, [assessmentId]))
      (isActor : request.actor = some user)
      (given : request.data.answer = some form) :
      DatabaseEffect app (.http request)
        ((Operation.storeResponse
          (storeResponseRequest request.data.now user assessmentId
            form)).apply app.catalogue .jsonEncoded app.database)
  | graded (request : HttpRequest) (user : UserId)
      (assessmentId : AssessmentId) (participantId : UserId)
      (entries : List GradingController.GradeEntry)
      (isServed :
        app.served readKey request =
          some (.gradingStore, [assessmentId, participantId]))
      (isActor : request.actor = some user)
      (given : request.data.grades = some entries) :
      DatabaseEffect app (.http request)
        ((Operation.grade
          (gradeRequest request.data.now user assessmentId participantId
            entries)).apply app.catalogue .jsonEncoded app.database)
  | recalculated (options : RecalculateAssessmentScores.Options) :
      DatabaseEffect app (.recalculateScores options)
        ((Operation.recalculate options).apply app.catalogue .jsonEncoded
          app.database)
  | deleted (request : HttpRequest) (userId : UserId)
      (isServed :
        app.served readKey request = some (.userDestroy, [userId]))
      (noParticipation : ¬ app.Participates userId) :
      DatabaseEffect app (.http request) (app.database.withoutUser userId)

variable {readKey}

theorem database_install (app : Application services)
    (result :
      Except Interruption (Installation services × RedirectResponse)) :
    (app.install result).database = app.database := by
  cases result <;> rfl

theorem databaseEffect_destroyUser {app : Application services}
    {request : HttpRequest} {userId : UserId}
    (isServed :
      app.served readKey request = some (.userDestroy, [userId])) :
    app.DatabaseEffect readKey (.http request)
      (app.destroyUser request userId).database := by
  unfold destroyUser
  split
  · exact DatabaseEffect.unchanged _
  · rename_i after response destroys
    dsimp only
    rcases UserController.unreferenced_of_destroy destroys with
      ⟨isUser, unchanged | ⟨_, unreferenced, _⟩⟩
    · change after = app.accounts at unchanged
      rw [unchanged, if_pos isUser]
      exact DatabaseEffect.unchanged _
    · split_ifs
      · exact DatabaseEffect.unchanged _
      · apply DatabaseEffect.deleted request userId isServed
        intro participates
        rw [decide_eq_true participates, Bool.or_true] at unreferenced
        cases unreferenced

theorem databaseEffect_step (app : Application services)
    (event : Event) :
    app.DatabaseEffect readKey event (app.step readKey event).database := by
  cases event with
  | recalculateScores options => exact DatabaseEffect.recalculated options
  | http request =>
      unfold step
      dsimp only
      cases isServed : app.served readKey request with
      | none => exact DatabaseEffect.unchanged _
      | some found =>
          rcases found with ⟨action, keys⟩
          dsimp only
          unfold perform
          split
          · exact DatabaseEffect.unchanged _
          · split
            · exact databaseEffect_destroyUser isServed
            · rw [database_install]
              exact DatabaseEffect.unchanged _
            · rw [database_install]
              exact DatabaseEffect.unchanged _
            · rw [database_install]
              exact DatabaseEffect.unchanged _
            · unfold withForm
              split
              · rw [database_install]
                exact DatabaseEffect.unchanged _
              · exact DatabaseEffect.unchanged _
            · rename_i isActor _
              unfold withForm
              split
              · rename_i form given
                exact
                  DatabaseEffect.answered request _ _ form isServed
                    isActor given
              · exact DatabaseEffect.unchanged _
            · rename_i isActor _
              unfold withForm
              split
              · rename_i entries given
                exact
                  DatabaseEffect.graded request _ _ _ entries isServed
                    isActor given
              · exact DatabaseEffect.unchanged _
            · exact DatabaseEffect.unchanged _

/-! ## Answers -/

variable (readKey)

/-- The participant of a response saves it. -/
def SavesAnswer (app : Application services) (key : ResponseKey) :
    Event → Prop
  | .http request =>
      app.served readKey request =
          some (.surveyStoreResponse, [key.1.assessmentId]) ∧
        request.actor = some key.1.participantId ∧
        ∃ form, request.data.answer = some form ∧ form.questionId = key.2
  | .recalculateScores _ => False

variable {readKey}

theorem entered?_step {app : Application services}
    (holds : app.Consistent) {key : ResponseKey} {event : Event}
    (others : ¬ app.SavesAnswer readKey key event) :
    (app.step readKey event).database.entered? key =
      app.database.entered? key := by
  have effect :
      app.DatabaseEffect readKey event (app.step readKey event).database :=
    app.databaseEffect_step event
  unfold Database.entered?
  generalize (app.step readKey event).database = after at effect
  cases effect with
  | unchanged => rfl
  | answered request user assessmentId form isServed isActor given =>
      rcases SurveyController.response?_storeResponse app.catalogue
          .jsonEncoded
          (storeResponseRequest request.data.now user assessmentId form)
          app.database with same | ⟨_, question, _, lookup⟩
      · unfold Database.response?
        rw [same]
      · rw [lookup, if_neg]
        rintro rfl
        exact others ⟨isServed, isActor, form, given, rfl⟩
  | graded request user assessmentId participantId entries isServed
      isActor given =>
      rcases GradingController.response?_store app.catalogue .jsonEncoded
          (gradeRequest request.data.now user assessmentId participantId
            entries)
          app.database key with same | ⟨old, new, isOld, isNew, graded⟩
      · rw [same]
      · rw [isOld, isNew]
        show some (_, _) = some (_, _)
        rw [graded.sameSelection, graded.sameText]
  | recalculated options =>
      unfold Database.response?
      rw [RecalculateAssessmentScores.participantResponses_recalculate]
  | deleted request userId isServed noParticipation =>
      rw [holds.database.response?_withoutUser
        (participantId_ne_of_not_participates noParticipation),
        Option.map_map]
      exact
        congrArg (fun change => Option.map change _)
          (funext (ParticipantResponse.entered_withoutGrader userId))

variable (readKey)

/--
In a run in which the participant does not save the answer, the response
stays, with the same answer, and none appears.
-/
theorem answers_are_own {app : Application services}
    (holds : app.Consistent) {key : ResponseKey} {events : List Event}
    (others :
      Throughout (step readKey)
        (fun reached event => ¬ reached.SavesAnswer readKey key event)
        app events) :
    (app.run readKey events).database.entered? key =
      app.database.entered? key := by
  have reached :=
    invariant_of_throughout
      (motive := fun reached : Application services =>
        reached.Consistent ∧
          reached.database.entered? key = app.database.entered? key)
      (fun _ event kept isOther =>
        ⟨kept.1.step event,
          (entered?_step kept.1 isOther).trans kept.2⟩)
      ⟨holds, rfl⟩ others
  exact reached.2

/-- The administrator tries to delete the participant who answered. -/
theorem answers_are_own_deletion :
    ((sampleApplication.step readDecimal (.http answerRequest)).run
        readDecimal
        [.http (deletionRequest "/admin/users/2")]).database.entered?
          (⟨1, 2⟩, 2) =
      (sampleApplication.step readDecimal
        (.http answerRequest)).database.entered? (⟨1, 2⟩, 2) :=
  answers_are_own readDecimal
    (consistent_sampleApplication.step (.http answerRequest))
    ⟨fun saves => (nomatch saves.2.1), True.intro⟩

/-! ## Grades -/

/-- Somebody who may grade enters a grade of the response. -/
def EntersGrade (app : Application services) (key : ResponseKey) :
    Event → Prop
  | .http request =>
      app.served readKey request =
          some
            (.gradingStore, [key.1.assessmentId, key.1.participantId]) ∧
        app.accounts.roleOf request.actor ∈
          [some .admin, some .manager, some .assessor] ∧
        ∃ entries, request.data.grades = some entries ∧
          ∃ entry ∈ entries, entry.questionId = key.2
  | .recalculateScores _ => False

variable {readKey}

theorem marksOf_step {app : Application services}
    (holds : app.Consistent) {key : ResponseKey} {event : Event}
    (others : ¬ app.EntersGrade readKey key event) :
    (app.step readKey event).database.marksOf key =
      app.database.marksOf key := by
  have effect :
      app.DatabaseEffect readKey event (app.step readKey event).database :=
    app.databaseEffect_step event
  unfold Database.marksOf
  generalize (app.step readKey event).database = after at effect
  cases effect with
  | unchanged => rfl
  | answered request user assessmentId form isServed isActor given =>
      rcases SurveyController.response?_storeResponse app.catalogue
          .jsonEncoded
          (storeResponseRequest request.data.now user assessmentId form)
          app.database with same | ⟨_, question, _, lookup⟩
      · unfold Database.response?
        rw [same]
      · rw [lookup]
        split_ifs with own
        · rw [own]
          exact ParticipantResponse.marks_fill _ _
        · rfl
  | graded request user assessmentId participantId entries isServed
      isActor given =>
      rcases GradingController.response?_store app.catalogue .jsonEncoded
          (gradeRequest request.data.now user assessmentId participantId
            entries)
          app.database key with same | ⟨old, new, isOld, isNew, graded⟩
      · rw [same]
      · have ownKey : old.key = key :=
          ((KeyedTable.find?_eq_some_iff _ _ _).mp isOld).2
        rcases graded.hasEntry with ⟨entry, member, ofQuestion⟩
        have ownPair :
            old.pair = ⟨assessmentId, participantId⟩ := graded.ownPair
        refine (others ⟨?_, ?_, entries, given, entry, member, ?_⟩).elim
        · rw [← ownKey]
          change _ = some
            (_, [old.pair.assessmentId, old.pair.participantId])
          rw [ownPair]
          exact isServed
        · exact audience_of_served isServed
        · rw [← ownKey]
          exact ofQuestion
  | recalculated options =>
      unfold Database.response?
      rw [RecalculateAssessmentScores.participantResponses_recalculate]
  | deleted request userId isServed noParticipation =>
      rw [holds.database.response?_withoutUser
        (participantId_ne_of_not_participates noParticipation)]
      cases app.database.response? key with
      | none => rfl
      | some response =>
          exact ParticipantResponse.marks_withoutGrader userId response

variable (readKey)

/--
In a run in which nobody who may grade enters a grade of a response, its
grade stays, and none appears.
-/
theorem grades_are_entered {app : Application services}
    (holds : app.Consistent) {key : ResponseKey} {events : List Event}
    (others :
      Throughout (step readKey)
        (fun reached event => ¬ reached.EntersGrade readKey key event)
        app events) :
    (app.run readKey events).database.marksOf key =
      app.database.marksOf key := by
  have reached :=
    invariant_of_throughout
      (motive := fun reached : Application services =>
        reached.Consistent ∧
          reached.database.marksOf key = app.database.marksOf key)
      (fun _ event kept isOther =>
        ⟨kept.1.step event, (marksOf_step kept.1 isOther).trans kept.2⟩)
      ⟨holds, rfl⟩ others
  exact reached.2

/-- The participant answers, and has no grade. -/
theorem grades_are_entered_answer :
    (sampleApplication.run readDecimal
        [.http answerRequest]).database.marksOf (⟨1, 2⟩, 2) =
      sampleApplication.database.marksOf (⟨1, 2⟩, 2) :=
  grades_are_entered readDecimal consistent_sampleApplication
    ⟨fun enters => absurd enters.2.1 (by decide), True.intro⟩

end Application

end SultanPass
