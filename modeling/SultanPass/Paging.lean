import SultanPass.TakeScreen
import SultanPass.WholeAssessmentScores

/-!
# Paging through a test

The buttons of a screen send its index back, `storeResponse` redirects to a
neighbouring index, and `take` reads that index against the questions as the
database orders them this time.  An index outside the range is moved into
it, so every click leads to a screen.

With distinct values of `order` the positions mean the same on every
request, and paging through a test shows each question once.  A tie lets
neighbouring screens show one question twice
(`pagesThrough_iff_distinct`).
-/

namespace SultanPass.SurveyController

open SultanPass.Library
open SultanPass.ParticipantResponseObserver

/-! ## Redirects -/

/-- Where a request that finishes is redirected to. -/
def redirectOf (catalogue : Catalogue)
    (request : StoreResponseRequest) : Redirect :=
  match request.action with
  | .previous => .take request.assessmentId (max 1 (request.index - 1))
  | .next =>
      .take request.assessmentId
        (min (catalogue.questionsOf request.assessmentId).length
          (request.index + 1))
  | .markForReview =>
      .take request.assessmentId
        (min (catalogue.questionsOf request.assessmentId).length
          (request.index + 1))
  | .submit => .dashboardParticipant

theorem exec_navigate
    (catalogue : Catalogue) (request : StoreResponseRequest)
    (connection : Program.Connection Database) :
    ((navigate catalogue request).exec connection).1 =
      .ok (redirectOf catalogue request) := by
  rw [navigate, redirectOf]
  cases request.action <;> rfl

theorem redirect_of_exec
    {catalogue : Catalogue} {assignment : SelectionAssignment}
    {request : StoreResponseRequest} {database : Database}
    {redirect : Redirect} {after : Program.Connection Database}
    (saved :
      (storeResponse catalogue assignment request).exec
        ⟨database, none⟩ = (.ok redirect, after)) :
    redirect = redirectOf catalogue request := by
  rw [storeResponse_eq] at saved
  cases resolves : resolve catalogue request with
  | error error =>
      rw [resolves] at saved
      cases saved
  | ok found =>
      rw [resolves] at saved
      change
        Program.exec
            ((storeResponseBody catalogue assignment found.2
              request).transaction.bind fun _ =>
                navigate catalogue request) _ = _ at saved
      rw [Program.exec_bind] at saved
      cases outcome :
          (storeResponseBody catalogue assignment found.2
            request).transaction.exec ⟨database, none⟩ with
      | mk answer connection =>
          rw [outcome] at saved
          cases answer with
          | error error => cases saved
          | ok value =>
              change (navigate catalogue request).exec connection = _
                at saved
              have target := exec_navigate catalogue request connection
              rw [saved] at target
              exact Except.ok.inj target

/-! ## Paging -/

/-- What a user enters on a screen. -/
structure FormInput where
  selectedAnswers : Option (List ℤ)
  writtenResponseText : Option String
  now : Timestamp
deriving DecidableEq, Repr

/-- The form of a screen, sent with one of its buttons. -/
def pressed (screen : TakeScreen) (userId : UserId) (action : Action)
    (input : FormInput) : StoreResponseRequest where
  assessmentId := screen.assessment.id
  userId := userId
  questionId := screen.currentQuestion.id
  action := action
  selectedAnswers := input.selectedAnswers
  writtenResponseText := input.writtenResponseText
  index := screen.index
  now := input.now

section Session

variable (catalogue : Catalogue) (assignment : SelectionAssignment)
  (assessmentId : AssessmentId) (userId : UserId)

/-- A screen for index `q`, however the database orders its rows. -/
def Displays (q : ℤ) (database : Database) (screen : TakeScreen) :
    Prop :=
  ∃ questionOrder answerOrder,
    take catalogue database questionOrder answerOrder
      ⟨assessmentId, userId, q⟩ = .ok screen

/-- A button of a screen, whose request finishes. -/
def Presses (database : Database) (screen : TakeScreen)
    (action : Action) (target : ℤ) (after : Database) : Prop :=
  ∃ input,
    (storeResponse catalogue assignment
        (pressed screen userId action input)).exec ⟨database, none⟩ =
      (.ok (.take assessmentId target), ⟨after, none⟩)

/--
The screens of a user who presses 'next' on each of them but the last.
Each request may order the rows in its own way.
-/
inductive NextScreens : ℤ → Database → List TakeScreen → Prop where
  | last {q : ℤ} {database : Database} {screen : TakeScreen}
      (shown :
        Displays catalogue assessmentId userId q database screen) :
      NextScreens q database [screen]
  | next {q target : ℤ} {database after : Database}
      {screen : TakeScreen} {others : List TakeScreen}
      (shown :
        Displays catalogue assessmentId userId q database screen)
      (saved :
        Presses catalogue assignment assessmentId userId database screen
          .next target after)
      (continues : NextScreens target after others) :
      NextScreens q database (screen :: others)

/-- What paging through a test is to do. -/
structure PagesThrough : Prop where
  coversOnce :
    ∀ database screens,
      NextScreens catalogue assignment assessmentId userId 1 database
          screens →
        screens.length = (catalogue.questionsOf assessmentId).length →
          screens.map TakeScreen.index =
              (List.range' 1
                (catalogue.questionsOf assessmentId).length).map
                Nat.cast ∧
            (screens.map TakeScreen.currentQuestion).Perm
              (catalogue.questionsOf assessmentId)
  goesBack :
    ∀ earlierQ earlierDatabase earlier,
      Displays catalogue assessmentId userId earlierQ earlierDatabase
          earlier →
        ∀ q database screen,
          Displays catalogue assessmentId userId q database screen →
            screen.index = earlier.index + 1 →
              ∀ target after,
                Presses catalogue assignment assessmentId userId
                    database screen .previous target after →
                  ∀ again,
                    Displays catalogue assessmentId userId target after
                        again →
                      again.index = earlier.index ∧
                        again.currentQuestion = earlier.currentQuestion
  inRange :
    ∀ database questionOrder answerOrder q,
      ∃ screen,
        take catalogue database questionOrder answerOrder
            ⟨assessmentId, userId, q⟩ = .ok screen ∧
          1 ≤ screen.index ∧
          screen.index ≤ (catalogue.questionsOf assessmentId).length
  redirected :
    ∀ database request redirect after,
      request.assessmentId = assessmentId →
        request.action ≠ .submit →
          (storeResponse catalogue assignment request).exec
              ⟨database, none⟩ = (.ok redirect, after) →
            ∃ q, redirect = .take assessmentId q

end Session

theorem NextScreens.length_pos
    {catalogue : Catalogue} {assignment : SelectionAssignment}
    {assessmentId : AssessmentId} {userId : UserId} {q : ℤ}
    {database : Database} {screens : List TakeScreen}
    (session :
      NextScreens catalogue assignment assessmentId userId q database
        screens) :
    0 < screens.length := by
  cases session <;> exact Nat.succ_pos _

/-! ## Distinct values of `order` -/

section Distinct

variable {catalogue : Catalogue} {assignment : SelectionAssignment}
  {assessmentId : AssessmentId} {userId : UserId}

/-- Where the two buttons lead from a screen in the range. -/
theorem target_of_presses
    {database after : Database} {screen : TakeScreen}
    {action : Action} {target : ℤ}
    (saved :
      Presses catalogue assignment assessmentId userId database screen
        action target after)
    (own : screen.assessment.id = assessmentId) :
    (action = .previous → target = max 1 (screen.index - 1)) ∧
      (action = .next →
        target =
          min ((catalogue.questionsOf assessmentId).length : ℤ)
            (screen.index + 1)) := by
  rcases saved with ⟨input, saved⟩
  have redirect := redirect_of_exec saved
  constructor
  · rintro rfl
    exact (Redirect.take.inj redirect).2
  · rintro rfl
    have goesOn := (Redirect.take.inj redirect).2
    rw [← own]
    exact goesOn

/-- What a displayed screen says about the ordered questions. -/
structure OnScreen (catalogue : Catalogue) (assessmentId : AssessmentId)
    (q : ℤ) (screen : TakeScreen) : Prop where
  sameAssessment : screen.assessment.id = assessmentId
  index :
    screen.index =
      currentIndex (catalogue.questionsOf assessmentId).length q
  atLeast : 1 ≤ screen.index
  atMost :
    screen.index ≤ (catalogue.questionsOf assessmentId).length
  ordered :
    ∃ questionOrder : OrderBy AssessmentQuestion.order,
      (questionOrder.sort (catalogue.questionsOf assessmentId))[
          (screen.index - 1).toNat]? =
        some screen.currentQuestion

theorem onScreen_of_displays
    {q : ℤ} {database : Database} {screen : TakeScreen}
    (shown :
      Displays catalogue assessmentId userId q database screen) :
    OnScreen catalogue assessmentId q screen := by
  rcases shown with ⟨questionOrder, answerOrder, shown⟩
  rcases takeable_of_take shown with ⟨assessment, takeable⟩
  have shows := shows_of_take shown
  have bounds :=
    currentIndex_bounds (List.length_pos_of_ne_nil takeable.nonempty) q
  exact
    { sameAssessment := shows.assessmentId
      index := shows.index
      atLeast := shows.index ▸ bounds.1
      atMost := shows.index ▸ bounds.2
      ordered := by
        refine ⟨questionOrder, ?_⟩
        rw [shows.index]
        exact shows.currentQuestion }

/-- An index in the range is the one on the screen. -/
theorem OnScreen.index_of_mem
    {q : ℤ} {screen : TakeScreen}
    (onScreen : OnScreen catalogue assessmentId q screen)
    (least : 1 ≤ q)
    (most : q ≤ (catalogue.questionsOf assessmentId).length) :
    screen.index = q :=
  onScreen.index.trans (currentIndex_of_mem least most)

section

variable
  (distinct :
    ((catalogue.questionsOf assessmentId).map
      AssessmentQuestion.order).Nodup)
include distinct

/-- Any order is the stable one, so positions have a meaning. -/
theorem OnScreen.currentQuestion
    {q : ℤ} {screen : TakeScreen}
    (onScreen : OnScreen catalogue assessmentId q screen) :
    ((OrderBy.stable AssessmentQuestion.order).sort
        (catalogue.questionsOf assessmentId))[
          (screen.index - 1).toNat]? =
      some screen.currentQuestion := by
  rcases onScreen.ordered with ⟨questionOrder, atIndex⟩
  rw [OrderBy.sort_eq_of_distinct distinct
    (OrderBy.stable AssessmentQuestion.order) questionOrder]
  exact atIndex

/-- The screens from a position on, read off the ordered questions. -/
theorem nextScreens_spec
    {q : ℤ} {database : Database} {screens : List TakeScreen}
    (session :
      NextScreens catalogue assignment assessmentId userId q database
        screens)
    {start : ℕ} (isStart : q = start + 1)
    (inside :
      start + screens.length ≤
        (catalogue.questionsOf assessmentId).length) :
    screens.map TakeScreen.index =
        (List.range' (start + 1) screens.length).map Nat.cast ∧
      screens.map TakeScreen.currentQuestion =
        (((OrderBy.stable AssessmentQuestion.order).sort
          (catalogue.questionsOf assessmentId)).drop start).take
            screens.length := by
  induction session generalizing start with
  | @last q database screen shown =>
      rw [List.length_singleton] at inside
      have onScreen := onScreen_of_displays shown
      have index : screen.index = (start : ℤ) + 1 :=
        (onScreen.index_of_mem (by omega) (by omega)).trans isStart
      have current := onScreen.currentQuestion distinct
      rw [index, add_sub_cancel_right, Int.toNat_natCast] at current
      constructor
      · simp [index]
      · rw [List.length_singleton, List.take_one, List.head?_drop,
          current]
        rfl
  | @next q target database after screen others shown saved continues
      induction =>
      rw [List.length_cons] at inside ⊢
      have isNext := continues.length_pos
      have onScreen := onScreen_of_displays shown
      have index : screen.index = (start : ℤ) + 1 :=
        (onScreen.index_of_mem (by omega) (by omega)).trans isStart
      have current := onScreen.currentQuestion distinct
      rw [index, add_sub_cancel_right, Int.toNat_natCast] at current
      have isTarget := (target_of_presses saved onScreen.sameAssessment).2 rfl
      have nextStart : target = ((start + 1 : ℕ) : ℤ) + 1 := by
        push_cast
        omega
      have later := induction nextStart (by omega)
      constructor
      · rw [List.map_cons, List.range'_succ, List.map_cons, later.1,
          index]
        push_cast
        rfl
      · rcases List.getElem?_eq_some_iff.mp current with
          ⟨bounded, isCurrent⟩
        rw [List.map_cons, later.2, List.drop_eq_getElem_cons bounded,
          List.take_succ_cons, isCurrent]

theorem coversOnce_of_distinct
    {database : Database} {screens : List TakeScreen}
    (session :
      NextScreens catalogue assignment assessmentId userId 1 database
        screens)
    (all :
      screens.length = (catalogue.questionsOf assessmentId).length) :
    screens.map TakeScreen.index =
        (List.range' 1
          (catalogue.questionsOf assessmentId).length).map Nat.cast ∧
      (screens.map TakeScreen.currentQuestion).Perm
        (catalogue.questionsOf assessmentId) := by
  have whole :
      ((OrderBy.stable AssessmentQuestion.order).sort
          (catalogue.questionsOf assessmentId)).take screens.length =
        (OrderBy.stable AssessmentQuestion.order).sort
          (catalogue.questionsOf assessmentId) := by
    apply List.take_of_length_le
    rw [OrderBy.length_sort, all]
  have isStart : (1 : ℤ) = ((0 : ℕ) : ℤ) + 1 := rfl
  rcases nextScreens_spec distinct session isStart
      (by rw [Nat.zero_add, all]) with ⟨indices, questions⟩
  rw [List.drop_zero, whole] at questions
  rw [questions, ← all]
  exact ⟨indices, OrderBy.perm _ _⟩

theorem goesBack_of_distinct
    {earlierQ q target : ℤ}
    {earlierDatabase database after : Database}
    {earlier screen again : TakeScreen}
    (earlierShown :
      Displays catalogue assessmentId userId earlierQ earlierDatabase
        earlier)
    (shown : Displays catalogue assessmentId userId q database screen)
    (follows : screen.index = earlier.index + 1)
    (saved :
      Presses catalogue assignment assessmentId userId database screen
        .previous target after)
    (shownAgain :
      Displays catalogue assessmentId userId target after again) :
    again.index = earlier.index ∧
      again.currentQuestion = earlier.currentQuestion := by
  have before := onScreen_of_displays earlierShown
  have onScreen := onScreen_of_displays shown
  have returned := onScreen_of_displays shownAgain
  have least := before.atLeast
  have most := before.atMost
  have isTarget := (target_of_presses saved onScreen.sameAssessment).1 rfl
  have sameIndex : again.index = earlier.index := by
    rw [returned.index_of_mem (by omega) (by omega)]
    omega
  have question := returned.currentQuestion distinct
  rw [sameIndex, before.currentQuestion distinct] at question
  exact ⟨sameIndex, (Option.some.inj question).symm⟩

end

end Distinct

/-! ## A tie -/

/-- No response has a selection or a grade. -/
def Unscored (database : Database) : Prop :=
  ∀ key response,
    database.response? key = some response →
      response.selectedAnswerIdsColumn = none ∧
        response.gradedAt = none

theorem unscored_empty : Unscored Database.empty :=
  nofun

section Saves

variable {catalogue : Catalogue} (assignment : SelectionAssignment)
  {request : StoreResponseRequest} {assessment : Assessment}
  {question : AssessmentQuestion} {database : Database}
  (unscored : Unscored database)
  (noSelection : request.selectedAnswers = none)
include unscored noSelection

theorem savedResponse_unscored :
    (savedResponse assignment question request
          database).selectedAnswerIdsColumn = none ∧
      (savedResponse assignment question request
          database).gradedAt = none := by
  have base :
      ((database.response? request.key).getD
            (ParticipantResponse.blank
              request.key)).selectedAnswerIdsColumn = none ∧
        ((database.response? request.key).getD
            (ParticipantResponse.blank request.key)).gradedAt =
          none := by
    cases found : database.response? request.key with
    | none => exact ⟨rfl, rfl⟩
    | some response => exact unscored request.key response found
  rw [savedResponse, answerColumns]
  cases question.questionType with
  | mcq =>
      rw [noSelection]
      exact ⟨rfl, base.2⟩
  | written => exact base

theorem unscored_answered :
    Unscored (answered assignment question request database) := by
  intro key response found
  by_cases own : key = request.key
  · subst own
    rw [answered, Database.response?_saveAnswer_self] at found
    cases found
    exact savedResponse_unscored assignment unscored noSelection
  · rw [answered, Database.response?_saveAnswer_of_ne _ _ own] at found
    exact unscored key response found

/-- Without selections and grades nothing is scored, so a save finishes. -/
theorem exec_of_unscored
    (resolved : Resolved catalogue request assessment question)
    (isNext : request.action = .next) :
    ∃ after,
      (storeResponse catalogue assignment request).exec
          ⟨database, none⟩ =
        (.ok (redirectOf catalogue request), ⟨after, none⟩) ∧
        Unscored after := by
  have blank :
      (savedResponse assignment question request
            database).selectedAnswerIdsColumn = none ∧
        (savedResponse assignment question request
            database).gradedAt = none :=
    savedResponse_unscored assignment unscored noSelection
  have notScored :
      ¬ shouldCalculateScore
        (savedResponse assignment question request database) = true := by
    rw [shouldCalculateScore, ParticipantResponse.selectedAnswerIds,
      blank.1, blank.2]
    exact Bool.false_ne_true
  have observes :
      observedScore catalogue assessment
          (savedResponse assignment question request database)
          (answered assignment question request database) = .ok () := by
    rw [observedScore, if_neg notScored]
  rcases issued_storeResponseBody resolved assignment database with
    ⟨error, raises, _⟩ | ⟨_, issues⟩
  · rw [observes] at raises
    cases raises
  · refine
      ⟨Program.performAll
        (bodyStatements catalogue assignment assessment question request
          database) database, ?_, ?_⟩
    · rw [storeResponse_eq, (resolve_eq_ok_iff _ _ _ _).mpr resolved]
      change
        ((storeResponseBody catalogue assignment question
          request).transaction.bind _).exec _ = _
      rw [Program.exec_bind,
        Program.exec_transaction (plain_storeResponseBody _ _ _ _),
        issues, redirectOf, isNext]
      change (navigate catalogue request).exec _ = _
      rw [navigate, isNext]
      rfl
    · have sameResponses :=
        participantResponses_storeResponse catalogue assignment
          assessment question request database
      rw [submitStatements, isNext] at sameResponses
      change
        (Program.performAll (_ ++ []) database).participantResponses = _
        at sameResponses
      rw [List.append_nil] at sameResponses
      intro key response found
      rw [Database.response?, sameResponses] at found
      exact
        unscored_answered assignment unscored noSelection key response
          found

end Saves

/-- Nothing is entered. -/
def emptyInput : FormInput where
  selectedAnswers := none
  writtenResponseText := none
  now := 0

section Tie

variable {catalogue : Catalogue} (assignment : SelectionAssignment)
  {assessmentId : AssessmentId} {userId : UserId}
  {assessment : Assessment}
  (found : catalogue.assessment? assessmentId = some assessment)
  (isUser : userId ∈ catalogue.users)
include found isUser

theorem resolved_pressed
    {screen : TakeScreen} (action : Action) (input : FormInput)
    (own : screen.assessment.id = assessmentId)
    (listed :
      screen.currentQuestion ∈ catalogue.questionsOf assessmentId) :
    Resolved catalogue (pressed screen userId action input) assessment
      screen.currentQuestion where
  assessmentFound := by
    change catalogue.assessment? screen.assessment.id = _
    rw [own]
    exact found
  isUser := isUser
  questionFound :=
    (catalogue.question?_eq_some_iff _ _).mpr
      ⟨(List.mem_filter.mp listed).1, rfl⟩
  questionBelongs := by
    change screen.currentQuestion.assessmentId = screen.assessment.id
    rw [own]
    exact of_decide_eq_true (List.mem_filter.mp listed).2

/-- A screen at a position of the questions as they are ordered now. -/
theorem exists_screen_at
    (order : OrderBy AssessmentQuestion.order) (database : Database)
    {start : ℕ}
    (inside : start < (catalogue.questionsOf assessmentId).length) :
    ∃ screen,
      Displays catalogue assessmentId userId (start + 1) database
          screen ∧
        screen.index = start + 1 ∧
        (order.sort (catalogue.questionsOf assessmentId))[start]? =
          some screen.currentQuestion := by
  have takeable :
      Takeable catalogue ⟨assessmentId, userId, start + 1⟩
        assessment :=
    { assessmentFound := found
      isUser := isUser
      nonempty :=
        List.ne_nil_of_length_pos (Nat.zero_lt_of_lt inside) }
  rcases exists_take takeable database order
      (OrderBy.stable AssessmentAnswer.order) with
    ⟨screen, shown, shows⟩
  have unmoved :
      currentIndex (catalogue.questionsOf assessmentId).length
          ((start : ℤ) + 1) = start + 1 :=
    currentIndex_of_mem (by omega) (by omega)
  have atStart :
      position catalogue ⟨assessmentId, userId, start + 1⟩ = start := by
    change (currentIndex _ ((start : ℤ) + 1) - 1).toNat = start
    rw [unmoved]
    omega
  refine
    ⟨screen, ⟨_, _, shown⟩, shows.index.trans unmoved, ?_⟩
  rw [← shows.currentQuestion, atStart]

/-- An empty save from a screen that is not the last one. -/
theorem presses_next
    {screen : TakeScreen} {database : Database}
    (unscored : Unscored database) {start : ℕ}
    (own : screen.assessment.id = assessmentId)
    (index : screen.index = start + 1)
    (listed :
      screen.currentQuestion ∈ catalogue.questionsOf assessmentId)
    (inside : start + 1 < (catalogue.questionsOf assessmentId).length) :
    ∃ after,
      Presses catalogue assignment assessmentId userId database screen
          .next ((start + 1 : ℕ) + 1) after ∧
        Unscored after := by
  have resolved :=
    resolved_pressed found isUser .next emptyInput own listed
  rcases exec_of_unscored assignment unscored rfl resolved rfl with
    ⟨after, saved, still⟩
  have target :
      redirectOf catalogue (pressed screen userId .next emptyInput) =
        .take assessmentId ((start + 1 : ℕ) + 1) := by
    change
      Redirect.take screen.assessment.id
        (min ((catalogue.questionsOf screen.assessment.id).length : ℤ)
          (screen.index + 1)) = _
    rw [own, index]
    congr 1
    push_cast
    omega
  rw [target] at saved
  exact ⟨after, ⟨emptyInput, saved⟩, still⟩

/-- A session for any way in which the requests order the questions. -/
theorem exists_nextScreens
    (count : ℕ) (orders : ℕ → OrderBy AssessmentQuestion.order)
    (start : ℕ) {database : Database} (unscored : Unscored database)
    (inside :
      start + count < (catalogue.questionsOf assessmentId).length) :
    ∃ screens,
      NextScreens catalogue assignment assessmentId userId (start + 1)
          database screens ∧
        screens.length = count + 1 ∧
        ∀ step ≤ count,
          (screens.map TakeScreen.currentQuestion)[step]? =
            ((orders step).sort (catalogue.questionsOf assessmentId))[
              start + step]? := by
  induction count generalizing orders start database with
  | zero =>
      rcases exists_screen_at found isUser (orders 0) database
          (by omega : start < _) with
        ⟨screen, displayed, _, atStart⟩
      refine ⟨[screen], .last displayed, rfl, ?_⟩
      intro step least
      rw [Nat.le_zero.mp least]
      exact atStart.symm
  | succ count induction =>
      rcases exists_screen_at found isUser (orders 0) database
          (by omega : start < _) with
        ⟨screen, displayed, index, atStart⟩
      have own := (onScreen_of_displays displayed).sameAssessment
      have listed :
          screen.currentQuestion ∈ catalogue.questionsOf assessmentId :=
        ((orders 0).mem_sort_iff _ _).mp (List.mem_of_getElem? atStart)
      rcases presses_next assignment found isUser unscored own index
          listed (by omega) with ⟨after, presses, still⟩
      rcases induction (fun step => orders (step + 1)) (start + 1) still
          (by omega) with ⟨others, continues, length, questions⟩
      refine
        ⟨screen :: others, .next displayed presses continues,
          congrArg (· + 1) length, ?_⟩
      intro step most
      cases step with
      | zero => exact atStart.symm
      | succ step =>
          rw [List.map_cons, List.getElem?_cons_succ,
            questions step (by omega)]
          congr 1
          omega

/-- A tie shows one question on two screens of some session. -/
theorem distinct_of_pagesThrough
    (pages : PagesThrough catalogue assignment assessmentId userId) :
    ((catalogue.questionsOf assessmentId).map
      AssessmentQuestion.order).Nodup := by
  by_contra tied
  rcases OrderBy.exists_row_at_both tied with
    ⟨first, second, position, question, isFirst, isSecond⟩
  have inside :
      position + 1 < (catalogue.questionsOf assessmentId).length := by
    rw [← second.length_sort]
    exact (List.getElem?_eq_some_iff.mp isSecond).1
  rcases exists_nextScreens assignment found isUser
      ((catalogue.questionsOf assessmentId).length - 1)
      (fun step => if step ≤ position then first else second) 0
      unscored_empty (by omega) with
    ⟨screens, session, length, questions⟩
  have covers :=
    (pages.coversOnce Database.empty screens session (by omega)).2
  have once :
      (screens.map TakeScreen.currentQuestion).Nodup :=
    covers.nodup_iff.mpr
      (catalogue.questionKeys.of_map.sublist List.filter_sublist)
  have atFirst := questions position (by omega)
  have atSecond := questions (position + 1) (by omega)
  rw [if_pos le_rfl, Nat.zero_add, isFirst] at atFirst
  rw [if_neg (by omega), Nat.zero_add, isSecond] at atSecond
  have shown :
      position < (screens.map TakeScreen.currentQuestion).length :=
    (List.getElem?_eq_some_iff.mp atFirst).1
  have same :=
    (List.getElem?_inj shown once).mp (atFirst.trans atSecond.symm)
  omega

end Tie

/--
For every assessment with questions, every user and every way of ordering
the rows on each request: the pages show each question once and go back to
the ones before exactly when no two questions have the same `order`.
-/
theorem pagesThrough_iff_distinct
    (catalogue : Catalogue) (assignment : SelectionAssignment)
    (assessmentId : AssessmentId) (userId : UserId)
    (assessment : Assessment)
    (found : catalogue.assessment? assessmentId = some assessment)
    (isUser : userId ∈ catalogue.users)
    (nonempty : catalogue.questionsOf assessmentId ≠ []) :
    PagesThrough catalogue assignment assessmentId userId ↔
      ((catalogue.questionsOf assessmentId).map
        AssessmentQuestion.order).Nodup := by
  constructor
  · exact distinct_of_pagesThrough assignment found isUser
  · intro distinct
    exact
      { coversOnce := fun _ _ session all =>
          coversOnce_of_distinct distinct session all
        goesBack := fun _ _ _ earlierShown _ _ _ shown follows _ _ saved
            _ shownAgain =>
          goesBack_of_distinct distinct earlierShown shown follows saved
            shownAgain
        inRange := by
          intro database questionOrder answerOrder q
          have takeable :
              Takeable catalogue ⟨assessmentId, userId, q⟩
                assessment :=
            { assessmentFound := found
              isUser := isUser
              nonempty := nonempty }
          rcases exists_take takeable database questionOrder
              answerOrder with ⟨screen, shown, _⟩
          have onScreen :
              OnScreen catalogue assessmentId q screen :=
            onScreen_of_displays ⟨questionOrder, answerOrder, shown⟩
          exact ⟨screen, shown, onScreen.atLeast, onScreen.atMost⟩
        redirected := by
          rintro database request redirect after rfl notSubmit saved
          rw [redirect_of_exec saved, redirectOf]
          cases action : request.action with
          | next => exact ⟨_, rfl⟩
          | previous => exact ⟨_, rfl⟩
          | markForReview => exact ⟨_, rfl⟩
          | submit => exact (notSubmit action).elim }

theorem pagesThrough_iff_distinct_sample :
    PagesThrough sampleCatalogue .jsonEncoded 1 1 ↔
      ((sampleCatalogue.questionsOf 1).map
        AssessmentQuestion.order).Nodup :=
  pagesThrough_iff_distinct sampleCatalogue .jsonEncoded 1 1
    sampleAssessment (by decide) (by decide) (by decide)

/-- The two texts of the written payload, with the same `order`. -/
def tiedPayload : AssessmentController.StoreRequest :=
  { WholeAssessmentScores.writtenPayload with
    questions :=
      WholeAssessmentScores.writtenPayload.questions.map fun question =>
        { question with order := 1 }
    questionCount := by decide
    requiredMaxScores := by decide }

/-- The questions of `tiedPayload`. -/
def tiedQuestions : List AssessmentQuestion :=
  (AssessmentController.authored [1] [tiedPayload]).questionsOf 1

theorem ascending_reverse_tiedQuestions :
    Ascending AssessmentQuestion.order tiedQuestions.reverse := by
  rw [Ascending]
  decide +kernel

/-- The second question before the first one. -/
def tiedReversed : OrderBy AssessmentQuestion.order :=
  OrderBy.answering tiedQuestions
    ⟨tiedQuestions.reverse, List.reverse_perm _,
      ascending_reverse_tiedQuestions⟩

/-- The second screen shows the question of the first one again. -/
theorem tie_repeats_a_question :
    let catalogue := AssessmentController.authored [1] [tiedPayload]
    let request : StoreResponseRequest :=
      { assessmentId := 1
        userId := 1
        questionId := 1
        action := .next
        selectedAnswers := none
        writtenResponseText := none
        index := 1
        now := 0 }
    let saved :=
      (storeResponse catalogue .jsonEncoded request).exec
        ⟨Database.empty, none⟩
    (take catalogue Database.empty
          (OrderBy.stable AssessmentQuestion.order)
          (OrderBy.stable AssessmentAnswer.order) ⟨1, 1, 1⟩).map
        (fun screen => screen.currentQuestion.id) = .ok 1 ∧
      saved.1 = .ok (.take 1 2) ∧
      (take catalogue saved.2.state tiedReversed
          (OrderBy.stable AssessmentAnswer.order) ⟨1, 1, 2⟩).map
        (fun screen => screen.currentQuestion.id) = .ok 1 ∧
      ¬ PagesThrough catalogue .jsonEncoded 1 1 := by
  have tied :
      ¬ (((AssessmentController.authored [1] [tiedPayload]).questionsOf
        1).map AssessmentQuestion.order).Nodup := by
    decide +kernel
  have found :
      (AssessmentController.authored [1] [tiedPayload]).assessment? 1 =
        some WholeAssessmentScores.writtenAssessment := by
    decide +kernel
  refine ⟨by decide +kernel, by decide +kernel, by decide +kernel, ?_⟩
  intro pages
  exact
    tied
      (distinct_of_pagesThrough .jsonEncoded found (by decide +kernel)
        pages)

end SultanPass.SurveyController
