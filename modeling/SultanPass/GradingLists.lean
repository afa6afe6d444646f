import SultanPass.GradedMarks
import Mathlib.Data.List.Nodup

/-!
# The participants of an assessment in grading

`GradingController::show` links the screen of a participant with those
before and after it.  Its position comes from `array_search`, which returns
`false` for a user without a response, and `false` goes on as a number.

`GradingController::index` shows a badge and a bar for each participant.  The
badge counts written responses, the bar counts all of them, and a choice is
never graded in any run.
-/

namespace SultanPass.GradingController

open SultanPass.Library
open SultanPass.AssessmentScoreService

/-! ## Positions in PHP -/

/-- What `array_search` returns: a position, or `false`. -/
inductive SearchResult where
  | position (index : ℕ)
  | notFound
deriving DecidableEq, Repr

/-- `array_search` in a list, the first position. -/
def arraySearch (needle : UserId) (ids : List UserId) : SearchResult :=
  if needle ∈ ids then .position (ids.idxOf needle) else .notFound

namespace SearchResult

/-- `>`; against `false` both sides are truth values. -/
def isGreater (result : SearchResult) (bound : ℤ) : Bool :=
  match result with
  | .position index => bound < index
  | .notFound => false

/-- `<`; against `false` both sides are truth values. -/
def isLess (result : SearchResult) (bound : ℤ) : Bool :=
  match result with
  | .position index => index < bound
  | .notFound => bound ≠ 0

/-- `+`; `false` counts as 0. -/
def plus (result : SearchResult) (summand : ℤ) : ℤ :=
  match result with
  | .position index => index + summand
  | .notFound => summand

end SearchResult

/-- The exception that the framework makes of an undefined array key. -/
inductive ErrorException where
  | undefinedArrayKey (key : ℤ)
deriving DecidableEq, Repr

/-- The element of a list at a key. -/
def elementAt (ids : List UserId) (key : ℤ) :
    Except ErrorException UserId :=
  match key with
  | .ofNat index =>
      match ids[index]? with
      | some id => .ok id
      | none => .error (.undefinedArrayKey key)
  | .negSucc _ => .error (.undefinedArrayKey key)

/-- The conditional expression that reads a key or is `null`. -/
def elementIf (condition : Bool) (ids : List UserId) (key : ℤ) :
    Except ErrorException (Option UserId) :=
  if condition then (elementAt ids key).map some else .ok none

theorem elementIf_true (ids : List UserId) {index : ℕ} {id : UserId}
    (found : ids[index]? = some id) :
    elementIf true ids index = .ok (some id) := by
  have isAt : elementAt ids index = .ok id := by
    change
      (match ids[index]? with
        | some id => Except.ok id
        | none => .error (ErrorException.undefinedArrayKey index)) =
        .ok id
    rw [found]
  rw [elementIf, if_pos rfl, isAt]
  rfl

/-! ## Previous and next -/

/-- The links of the screen. -/
structure Neighbours where
  prevParticipantId : Option UserId
  nextParticipantId : Option UserId
deriving DecidableEq, Repr

/-- The links that `show` computes from `$allParticipants`. -/
def neighbours (allParticipants : List UserId) (participant : UserId) :
    Except ErrorException Neighbours := do
  let currentIndex := arraySearch participant allParticipants
  let prevParticipantId ←
    elementIf (currentIndex.isGreater 0) allParticipants
      (currentIndex.plus (-1))
  let nextParticipantId ←
    elementIf (currentIndex.isLess ((allParticipants.length : ℤ) - 1))
      allParticipants (currentIndex.plus 1)
  return {
    prevParticipantId := prevParticipantId
    nextParticipantId := nextParticipantId }

/--
`$allParticipants`: the users with a response in the assessment, each once,
in the order in which the query returns them.
-/
structure AllParticipants (database : Database)
    (assessmentId : AssessmentId) where
  ids : List UserId
  distinct : ids.Nodup
  responded :
    ∀ id, id ∈ ids ↔
      ∃ response ∈ database.participantResponses.rows,
        response.pair = ⟨assessmentId, id⟩

theorem arraySearch_of_getElem?
    {ids : List UserId} (distinct : ids.Nodup) {index : ℕ}
    {id : UserId} (found : ids[index]? = some id) :
    arraySearch id ids = .position index := by
  rcases List.getElem?_eq_some_iff.mp found with ⟨within, rfl⟩
  rw [arraySearch, if_pos (List.getElem_mem within),
    distinct.idxOf_getElem index within]

/-- The links of a user in the list are its neighbours. -/
theorem neighbours_of_getElem?
    {ids : List UserId} (distinct : ids.Nodup) {index : ℕ}
    {id : UserId} (found : ids[index]? = some id) :
    neighbours ids id =
      .ok
        { prevParticipantId := if index = 0 then none else ids[index - 1]?
          nextParticipantId := ids[index + 1]? } := by
  have within := (List.getElem?_eq_some_iff.mp found).1
  have previous :
      elementIf ((SearchResult.position index).isGreater 0) ids
          ((SearchResult.position index).plus (-1)) =
        .ok (if index = 0 then none else ids[index - 1]?) := by
    cases index with
    | zero => rfl
    | succ before =>
        have isBefore : ids[before]? = some ids[before] :=
          List.getElem?_eq_getElem _
        have greater :
            (SearchResult.position (before + 1)).isGreater 0 = true := by
          simp [SearchResult.isGreater]
        have key :
            (SearchResult.position (before + 1)).plus (-1) =
              (before : ℤ) := by
          simp [SearchResult.plus]
        rw [greater, key, elementIf_true ids isBefore,
          if_neg (Nat.succ_ne_zero _), Nat.add_sub_cancel, isBefore]
  have next :
      elementIf
          ((SearchResult.position index).isLess ((ids.length : ℤ) - 1))
          ids ((SearchResult.position index).plus 1) =
        .ok ids[index + 1]? := by
    by_cases more : index + 1 < ids.length
    · have isNext : ids[index + 1]? = some ids[index + 1] :=
        List.getElem?_eq_getElem more
      have less :
          (SearchResult.position index).isLess ((ids.length : ℤ) - 1) =
            true :=
        decide_eq_true (by omega)
      rw [less, isNext]
      exact elementIf_true ids isNext
    · have notLess :
          (SearchResult.position index).isLess ((ids.length : ℤ) - 1) =
            false :=
        decide_eq_false (by omega)
      rw [notLess, List.getElem?_eq_none (not_lt.mp more)]
      rfl
  rw [neighbours, arraySearch_of_getElem? distinct found]
  rw [previous, next]
  rfl

/-- The links of a user outside the list. -/
theorem neighbours_of_not_mem
    {ids : List UserId} {id : UserId} (absent : id ∉ ids) :
    neighbours ids id =
      if ids.length = 1 then
        .ok { prevParticipantId := none, nextParticipantId := none }
      else
        (elementAt ids 1).map fun second =>
          { prevParticipantId := none
            nextParticipantId := some second } := by
  rw [neighbours, arraySearch, if_neg absent]
  by_cases one : ids.length = 1
  · rw [if_pos one, one]
    rfl
  · have less :
        SearchResult.notFound.isLess ((ids.length : ℤ) - 1) = true :=
      decide_eq_true (by omega)
    rw [if_neg one, less]
    change
      ((elementAt ids 1).map some >>= fun next =>
        Except.ok (Neighbours.mk none next)) = _
    cases elementAt ids 1 <;> rfl

/-- The links walk over the list, and there are none outside it. -/
structure WalksList (ids : List UserId) (participant : UserId) :
    Prop where
  position :
    ∀ index, ids[index]? = some participant →
      neighbours ids participant =
        .ok
          { prevParticipantId :=
              if index = 0 then none else ids[index - 1]?
            nextParticipantId := ids[index + 1]? }
  absent :
    participant ∉ ids →
      neighbours ids participant =
        .ok { prevParticipantId := none, nextParticipantId := none }
  nextOfPrev :
    ∀ shown previous,
      neighbours ids participant = .ok shown →
        shown.prevParticipantId = some previous →
          ∃ back, neighbours ids previous = .ok back ∧
            back.nextParticipantId = some participant
  prevOfNext :
    ∀ shown next,
      neighbours ids participant = .ok shown →
        shown.nextParticipantId = some next →
          ∃ back, neighbours ids next = .ok back ∧
            back.prevParticipantId = some participant

theorem walksList_of_mem
    {ids : List UserId} (distinct : ids.Nodup) {participant : UserId}
    (listed : participant ∈ ids) :
    WalksList ids participant := by
  rcases List.mem_iff_getElem?.mp listed with ⟨index, found⟩
  have links := neighbours_of_getElem? distinct found
  refine
    { position := fun index found => neighbours_of_getElem? distinct found
      absent := fun absent => (absent listed).elim
      nextOfPrev := ?_
      prevOfNext := ?_ }
  · intro shown previous isShown isPrevious
    rw [links] at isShown
    cases isShown
    dsimp only at isPrevious
    split_ifs at isPrevious with first
    refine ⟨_, neighbours_of_getElem? distinct isPrevious, ?_⟩
    dsimp only
    rw [Nat.sub_add_cancel (Nat.one_le_iff_ne_zero.mpr first)]
    exact found
  · intro shown next isShown isNext
    rw [links] at isShown
    cases isShown
    refine ⟨_, neighbours_of_getElem? distinct isNext, ?_⟩
    dsimp only
    rw [if_neg (Nat.succ_ne_zero index), Nat.add_sub_cancel]
    exact found

/--
The links walk over the list exactly for the users in it, and for any other
user when the list has one element.
-/
theorem walksList_iff
    {database : Database} {assessmentId : AssessmentId}
    (allParticipants : AllParticipants database assessmentId)
    (participant : UserId) :
    WalksList allParticipants.ids participant ↔
      participant ∈ allParticipants.ids ∨
        allParticipants.ids.length = 1 := by
  by_cases listed : participant ∈ allParticipants.ids
  · exact
      iff_of_true (walksList_of_mem allParticipants.distinct listed)
        (Or.inl listed)
  · have links := neighbours_of_not_mem listed
    constructor
    · intro walks
      by_contra other
      have many := (not_or.mp other).2
      have none := walks.absent listed
      rw [links, if_neg many] at none
      cases second : elementAt allParticipants.ids 1 with
      | error error =>
          rw [second] at none
          cases none
      | ok id =>
          rw [second] at none
          cases none
    · rintro (isListed | one)
      · exact (listed isListed).elim
      · rw [if_pos one] at links
        refine
          { position := ?_
            absent := fun _ => links
            nextOfPrev := ?_
            prevOfNext := ?_ }
        · intro index found
          exact (listed (List.mem_of_getElem? found)).elim
        · intro shown previous isShown isPrevious
          rw [links] at isShown
          cases isShown
          cases isPrevious
        · intro shown next isShown isNext
          rw [links] at isShown
          cases isShown
          cases isNext

/-- Two users have answered the first question of the assessment. -/
def answeredByTwo : Database :=
  (Database.empty.saveAnswer (⟨1, 4⟩, 1) (.written (some "a"))).saveAnswer
    (⟨1, 7⟩, 1) (.written (some "b"))

/-- The query returns the user who has answered last first. -/
def twoParticipants : AllParticipants answeredByTwo 1 where
  ids := [7, 4]
  distinct := by decide
  responded := by
    intro id
    constructor
    · intro listed
      rcases List.mem_cons.mp listed with rfl | listed
      · exact ⟨_, List.mem_cons_of_mem _ List.mem_cons_self, rfl⟩
      · rw [List.mem_singleton.mp listed]
        exact ⟨_, List.mem_cons_self, rfl⟩
    · rintro ⟨response, member, samePair⟩
      have same : response.participantId = id :=
        congrArg Pair.participantId samePair
      rw [← same]
      rcases List.mem_cons.mp member with rfl | member
      · decide
      · rw [List.mem_singleton.mp member]
        decide

/-- The user in front of the other has a next one only. -/
example :
    neighbours twoParticipants.ids 7 =
      .ok { prevParticipantId := none, nextParticipantId := some 4 } :=
  rfl

/-- Nobody has answered the assessment. -/
def noParticipants : AllParticipants Database.empty 1 where
  ids := []
  distinct := List.nodup_nil
  responded := by
    intro id
    constructor
    · intro listed
      exact (List.not_mem_nil listed).elim
    · rintro ⟨_, listed, _⟩
      exact (List.not_mem_nil listed).elim

/-- The screen of a user in an assessment without responses raises. -/
theorem empty_list_is_read_at_one :
    neighbours noParticipants.ids 1 =
        .error (.undefinedArrayKey 1) ∧
      ¬ WalksList noParticipants.ids 1 := by
  refine ⟨rfl, ?_⟩
  intro walks
  have none := walks.absent (by decide)
  cases none

/-- Outside a longer list the second of it is next. -/
example :
    neighbours [4, 5, 6] 9 =
      .ok { prevParticipantId := none, nextParticipantId := some 5 } :=
  rfl

/-! ## Badge and bar -/

/-- `total_responses`. -/
def totalResponses (database : Database) (pair : Pair) : ℕ :=
  (database.responsesOf pair).length

/-- `graded_responses`. -/
def gradedResponses (database : Database) (pair : Pair) : ℕ :=
  ((database.responsesOf pair).filter fun response =>
    response.gradedAt ≠ none).length

/-- The width of the bar, in percent. -/
def barWidth (database : Database) (pair : Pair) : ℚ :=
  if 0 < totalResponses database pair then
    gradedResponses database pair / totalResponses database pair * 100
  else 0

/-- The bar is full, empty or between the two as the badge says. -/
structure BarFollowsBadge (catalogue : Catalogue) (database : Database)
    (pair : Pair) : Prop where
  full :
    barWidth database pair = 100 ↔
      gradingStatus catalogue database pair = .graded
  empty :
    barWidth database pair = 0 ↔
      gradingStatus catalogue database pair = .ungraded
  between :
    (0 < barWidth database pair ∧ barWidth database pair < 100) ↔
      gradingStatus catalogue database pair = .partiallyGraded

/-- Every response of the pair that satisfies the test is graded. -/
def AllGraded (database : Database) (pair : Pair)
    (test : ParticipantResponse → Bool) : Prop :=
  ∀ response ∈ database.responsesOf pair,
    test response = true → response.gradedAt ≠ none

/-- No response of the pair that satisfies the test is graded. -/
def NoneGraded (database : Database) (pair : Pair)
    (test : ParticipantResponse → Bool) : Prop :=
  ∀ response ∈ database.responsesOf pair,
    test response = true → response.gradedAt = none

section Progress

variable {catalogue : Catalogue} {database : Database} {pair : Pair}

theorem gradedResponses_le :
    gradedResponses database pair ≤ totalResponses database pair :=
  List.length_filter_le _ _

theorem gradedResponses_eq_total_iff :
    gradedResponses database pair = totalResponses database pair ↔
      AllGraded database pair fun _ => true := by
  rw [gradedResponses, totalResponses, List.length_filter_eq_length_iff]
  simp [AllGraded]

theorem gradedResponses_eq_zero_iff :
    gradedResponses database pair = 0 ↔
      NoneGraded database pair fun _ => true := by
  rw [gradedResponses, List.length_eq_zero_iff, List.filter_eq_nil_iff]
  simp [NoneGraded]

theorem gradedWritten_eq :
    gradedWritten catalogue database pair =
      (((database.responsesOf pair).filter (isWritten catalogue)).filter
        fun response => response.gradedAt ≠ none).length := by
  rw [gradedWritten, List.filter_filter]
  simp

theorem gradedWritten_eq_total_iff :
    gradedWritten catalogue database pair =
        totalWritten catalogue database pair ↔
      AllGraded database pair (isWritten catalogue) := by
  rw [gradedWritten_eq, totalWritten, List.length_filter_eq_length_iff]
  simp [AllGraded]

theorem gradedWritten_eq_zero_iff :
    gradedWritten catalogue database pair = 0 ↔
      NoneGraded database pair (isWritten catalogue) := by
  rw [gradedWritten_eq, List.length_eq_zero_iff, List.filter_eq_nil_iff]
  simp [NoneGraded]

variable (written : 0 < totalWritten catalogue database pair)
include written

theorem totalResponses_pos : 0 < totalResponses database pair :=
  lt_of_lt_of_le written (List.length_filter_le _ _)

theorem barWidth_eq :
    barWidth database pair =
      gradedResponses database pair / totalResponses database pair *
        100 :=
  if_pos (totalResponses_pos written)

theorem barWidth_eq_hundred_iff :
    barWidth database pair = 100 ↔
      AllGraded database pair fun _ => true := by
  have positive : (0 : ℚ) < totalResponses database pair :=
    Nat.cast_pos.mpr (totalResponses_pos written)
  rw [barWidth_eq written, ← gradedResponses_eq_total_iff,
    mul_eq_right₀ (by norm_num), div_eq_one_iff_eq positive.ne',
    Nat.cast_inj]

theorem barWidth_eq_zero_iff :
    barWidth database pair = 0 ↔
      NoneGraded database pair fun _ => true := by
  have positive : (0 : ℚ) < totalResponses database pair :=
    Nat.cast_pos.mpr (totalResponses_pos written)
  rw [barWidth_eq written, ← gradedResponses_eq_zero_iff,
    mul_eq_zero_iff_right (by norm_num), div_eq_zero_iff,
    or_iff_left positive.ne', Nat.cast_eq_zero]

theorem barWidth_nonneg : 0 ≤ barWidth database pair := by
  rw [barWidth_eq written]
  positivity

theorem barWidth_le : barWidth database pair ≤ 100 := by
  have atMost :
      (gradedResponses database pair : ℚ) /
          totalResponses database pair ≤ 1 :=
    div_le_one_of_le₀ (Nat.cast_le.mpr gradedResponses_le)
      (Nat.cast_nonneg _)
  rw [barWidth_eq written]
  linarith

theorem gradingStatus_eq_graded_iff :
    gradingStatus catalogue database pair = .graded ↔
      AllGraded database pair (isWritten catalogue) := by
  rw [gradingStatus, if_pos written, ← gradedWritten_eq_total_iff]
  split_ifs with all <;> simp [all]

theorem gradingStatus_eq_ungraded_iff :
    gradingStatus catalogue database pair = .ungraded ↔
      NoneGraded database pair (isWritten catalogue) := by
  rw [gradingStatus, if_pos written, ← gradedWritten_eq_zero_iff]
  split_ifs with all some
  · simp [all, written.ne']
  · simp [some.ne']
  · simp [Nat.eq_zero_of_not_pos some]

theorem gradingStatus_ne_noWritten :
    gradingStatus catalogue database pair ≠ .noWritten := by
  rw [gradingStatus, if_pos written]
  split_ifs <;> exact nofun

/-- The cases in the middle agree when those at the ends do. -/
theorem barFollowsBadge_of_ends
    (full :
      barWidth database pair = 100 ↔
        gradingStatus catalogue database pair = .graded)
    (empty :
      barWidth database pair = 0 ↔
        gradingStatus catalogue database pair = .ungraded) :
    BarFollowsBadge catalogue database pair where
  full := full
  empty := empty
  between := by
    rw [lt_iff_le_and_ne, lt_iff_le_and_ne,
      and_iff_right (barWidth_nonneg written),
      and_iff_right (barWidth_le written), ne_comm, Ne, Ne, full,
      empty]
    have known := gradingStatus_ne_noWritten written
    cases status : gradingStatus catalogue database pair with
    | graded => simp
    | partiallyGraded => simp
    | ungraded => simp
    | noWritten => exact (known status).elim

end Progress

/-! ### Choices are never graded -/

/-- Whatever is graded in a run answers a written question. -/
theorem isWritten_of_graded
    (catalogue : Catalogue) (assignment : SelectionAssignment)
    (operations : List Operation) (key : ResponseKey)
    (response : ParticipantResponse)
    (found :
      (Operation.run catalogue assignment operations
        Database.empty).response? key = some response)
    (isGraded : response.gradedAt ≠ none) :
    isWritten catalogue response = true := by
  induction operations using List.reverseRecOn generalizing response with
  | nil => cases found
  | append_singleton operations operation induction =>
      rw [Operation.run_concat] at found
      cases operation with
      | storeResponse request =>
          rcases SurveyController.response?_storeResponse catalogue
              assignment request
              (Operation.run catalogue assignment operations
                Database.empty) with
            same | ⟨assessment, question, _, lookup⟩
          · rw [Database.response?, same] at found
            exact induction response found isGraded
          · rw [lookup] at found
            split_ifs at found with own
            · cases found
              have sameGrade :=
                (SurveyController.gradedAt_savedResponse assignment
                  question request
                  (Operation.run catalogue assignment operations
                    Database.empty)).1
              rw [sameGrade] at isGraded
              cases previous :
                  (Operation.run catalogue assignment operations
                    Database.empty).response? request.key with
              | none =>
                  rw [previous] at isGraded
                  exact (isGraded rfl).elim
              | some old =>
                  rw [previous] at isGraded
                  subst own
                  have oldKey :=
                    ((Database.response?_eq_some_iff _ _ _).mp
                      previous).2
                  rw [isWritten_congr catalogue
                    ((SurveyController.key_savedResponse assignment
                      question request _).trans oldKey.symm)]
                  exact induction old previous isGraded
            · exact induction response found isGraded
      | grade request =>
          rcases response?_store catalogue assignment request
              (Operation.run catalogue assignment operations
                Database.empty) key with
            same | ⟨old, new, _, newFound, graded⟩
          · rw [same] at found
            exact induction response found isGraded
          · rw [newFound] at found
            cases found
            rw [isWritten_congr catalogue graded.sameKey]
            exact graded.wasWritten
      | recalculate options =>
          rw [Database.response?,
            RecalculateAssessmentScores.participantResponses_recalculate]
            at found
          exact induction response found isGraded

/--
Badge and bar agree exactly when the choices of the pair are graded whenever
all its texts are, and not graded whenever no text is.  In a run no choice is
graded, so they agree exactly when there is no choice or a text is left.
-/
theorem barFollowsBadge_iff
    (catalogue : Catalogue) (pair : Pair) :
    (∀ database, 0 < totalWritten catalogue database pair →
      (BarFollowsBadge catalogue database pair ↔
        (AllGraded database pair (isWritten catalogue) →
            AllGraded database pair fun _ => true) ∧
          (NoneGraded database pair (isWritten catalogue) →
            NoneGraded database pair fun _ => true))) ∧
      ∀ assignment operations,
        let database :=
          Operation.run catalogue assignment operations Database.empty
        0 < totalWritten catalogue database pair →
          (BarFollowsBadge catalogue database pair ↔
            (∀ response ∈ database.responsesOf pair,
                isWritten catalogue response = true) ∨
              ∃ response ∈ database.responsesOf pair,
                isWritten catalogue response = true ∧
                  response.gradedAt = none) := by
  have general (database : Database)
      (written : 0 < totalWritten catalogue database pair) :
      BarFollowsBadge catalogue database pair ↔
        (AllGraded database pair (isWritten catalogue) →
            AllGraded database pair fun _ => true) ∧
          (NoneGraded database pair (isWritten catalogue) →
            NoneGraded database pair fun _ => true) := by
    constructor
    · intro follows
      have full := follows.full
      have empty := follows.empty
      rw [barWidth_eq_hundred_iff written,
        gradingStatus_eq_graded_iff written] at full
      rw [barWidth_eq_zero_iff written,
        gradingStatus_eq_ungraded_iff written] at empty
      exact ⟨full.mpr, empty.mpr⟩
    · rintro ⟨full, empty⟩
      apply barFollowsBadge_of_ends written
      · rw [barWidth_eq_hundred_iff written,
          gradingStatus_eq_graded_iff written]
        exact
          ⟨fun all response listed _ => all response listed rfl, full⟩
      · rw [barWidth_eq_zero_iff written,
          gradingStatus_eq_ungraded_iff written]
        exact
          ⟨fun none response listed _ => none response listed rfl,
            empty⟩
  refine ⟨general, ?_⟩
  intro assignment operations database written
  have onlyWritten (response : ParticipantResponse)
      (listed : response ∈ database.responsesOf pair)
      (isGraded : response.gradedAt ≠ none) :
      isWritten catalogue response = true :=
    isWritten_of_graded catalogue assignment operations response.key
      response
      ((Database.response?_eq_some_iff _ _ _).mpr
        ⟨((Database.mem_responsesOf_iff _ _ _).mp listed).1, rfl⟩)
      isGraded
  rw [general database written]
  constructor
  · rintro ⟨full, _⟩
    by_cases left :
        ∃ response ∈ database.responsesOf pair,
          isWritten catalogue response = true ∧
            response.gradedAt = none
    · exact Or.inr left
    · apply Or.inl
      have all : AllGraded database pair (isWritten catalogue) := by
        intro response listed isText none
        exact left ⟨response, listed, isText, none⟩
      intro response listed
      exact onlyWritten response listed (full all response listed rfl)
  · intro condition
    constructor
    · intro all response listed _
      rcases condition with texts | ⟨text, isListed, isText, none⟩
      · exact all response listed (texts response listed)
      · exact (all text isListed isText none).elim
    · intro none response listed _
      by_contra isGraded
      exact
        isGraded
          (none response listed (onlyWritten response listed isGraded))

/-- Participant 1 skips the choice and answers one text, still ungraded. -/
theorem barFollowsBadge_ungraded :
    BarFollowsBadge sampleCatalogue
      (sampleRun .jsonEncoded writtenAnswers) ⟨1, 1⟩ :=
  ((barFollowsBadge_iff sampleCatalogue ⟨1, 1⟩).2 .jsonEncoded
    writtenAnswers (by decide +kernel)).mpr (by decide +kernel)

/-- Both texts are graded, and the bar stays at two thirds. -/
theorem graded_badge_beside_partial_bar :
    let database :=
      sampleRun .jsonEncoded
        (writtenAnswers ++
          [.grade (sampleGrades [(2, some 8), (3, some 8)])])
    0 < totalWritten sampleCatalogue database ⟨1, 1⟩ ∧
      gradingStatus sampleCatalogue database ⟨1, 1⟩ = .graded ∧
      barWidth database ⟨1, 1⟩ = 200 / 3 ∧
      ¬ BarFollowsBadge sampleCatalogue database ⟨1, 1⟩ := by
  intro database
  have badge :
      gradingStatus sampleCatalogue database ⟨1, 1⟩ = .graded := by
    decide +kernel
  have bar : barWidth database ⟨1, 1⟩ = 200 / 3 := by
    decide +kernel
  refine ⟨by decide +kernel, badge, bar, ?_⟩
  intro follows
  have full := follows.full.mpr badge
  rw [bar] at full
  norm_num at full

end SultanPass.GradingController
