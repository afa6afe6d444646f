import SultanPass.GradingFrame
import SultanPass.GradingScreens

/-!
# Which grades count as grading

The grading form posts every written question, and a field that is left
blank arrives as null.  `GradingController::store` stamps `graded_at` on each
response that an entry lists, with or without a value.  Status and grading
list read the stamp and nothing else.

`onlySuppliedCount_iff` says when the stamp and the value agree after a
request: when the last entry of every listed written response supplies a
value, and the written responses left out agreed before.
-/

namespace SultanPass.GradingController

open SultanPass.Library
open SultanPass.AssessmentScoreService

/-! ## Grade values -/

/-- A score, or a weight for one category at least. -/
def isGradeValue (scoringMode : ScoringMode) (gradedScore : Option ℚ)
    (gradedCategories : Option GradedCategories) : Bool :=
  match scoringMode with
  | .percentile => gradedScore.isSome
  | .categorical =>
      (gradedCategories.getD []).any fun weight => weight.2.isSome

/-- A grade value is stored, in the column of the scoring mode. -/
def hasGradeValue (assessment : Assessment)
    (response : ParticipantResponse) : Bool :=
  isGradeValue assessment.scoringMode response.gradedScore
    response.gradedCategories

/-- An entry of the form is filled in. -/
def suppliesValue (assessment : Assessment) (entry : GradeEntry) :
    Bool :=
  isGradeValue assessment.scoringMode entry.gradedScore
    entry.gradedCategories

/-- The stamp and the value of a response agree. -/
def MarkedByValue (assessment : Assessment)
    (response : ParticipantResponse) : Prop :=
  response.gradedAt ≠ none ↔ hasGradeValue assessment response = true

/-- The written responses of a pair that hold a grade value. -/
def valuedWritten (catalogue : Catalogue) (assessment : Assessment)
    (database : Database) (pair : Pair) : ℕ :=
  ((database.responsesOf pair).filter fun response =>
    hasGradeValue assessment response ∧
      isWritten catalogue response).length

/-- Only supplied grades count, for a response, the list and the status. -/
structure OnlySuppliedCount (catalogue : Catalogue)
    (assessment : Assessment) (pair : Pair) (database : Database) :
    Prop where
  marked :
    ∀ response ∈ database.responsesOf pair,
      isWritten catalogue response = true →
        MarkedByValue assessment response
  counted :
    gradedWritten catalogue database pair =
      valuedWritten catalogue assessment database pair
  completed :
    statusOf catalogue assessment (database.responsesOf pair) =
        .completed →
      ∀ response ∈ database.responsesOf pair,
        isWritten catalogue response = true →
          hasGradeValue assessment response = true

/-- The list and the status follow from the marks. -/
theorem onlySuppliedCount_of_marked
    {catalogue : Catalogue} {assessment : Assessment} {pair : Pair}
    {database : Database}
    (marked :
      ∀ response ∈ database.responsesOf pair,
        isWritten catalogue response = true →
          MarkedByValue assessment response) :
    OnlySuppliedCount catalogue assessment pair database where
  marked := marked
  counted := by
    rw [gradedWritten, valuedWritten]
    congr 1
    apply List.filter_congr
    intro response member
    rw [decide_eq_decide]
    constructor
    · rintro ⟨stamped, written⟩
      exact ⟨(marked response member written).mp stamped, written⟩
    · rintro ⟨valued, written⟩
      exact ⟨(marked response member written).mpr valued, written⟩
  completed := by
    intro isCompleted response member written
    have graded :=
      ((statusOf_eq_completed_iff _ _ _).mp isCompleted).2.2
    exact
      (marked response member written).mp
        (graded response member written)

/-! ## What a request leaves -/

/-- The last entry is filled in, or there is none and the mark agrees. -/
def FilledOrMarked (assessment : Assessment) (request : StoreRequest)
    (response : ParticipantResponse) : Prop :=
  match lastEntryOf request.responses response.questionId with
  | some entry => suppliesValue assessment entry = true
  | none => MarkedByValue assessment response

theorem hasGradeValue_fill
    (assessment : Assessment) (request : StoreRequest)
    (entry : GradeEntry) (response : ParticipantResponse) :
    hasGradeValue assessment
        ((updateData assessment request entry).fill response) =
      suppliesValue assessment entry := by
  rw [hasGradeValue, suppliesValue, updateData]
  cases assessment.scoringMode <;> rfl

theorem gradedAt_fill
    (assessment : Assessment) (request : StoreRequest)
    (entry : GradeEntry) (response : ParticipantResponse) :
    ((updateData assessment request entry).fill response).gradedAt =
      some request.now := by
  rw [updateData]
  cases assessment.scoringMode <;> rfl

/-- A stamp with every listed entry, a value with a filled one only. -/
theorem markedByValue_fill_iff
    (assessment : Assessment) (request : StoreRequest)
    (entry : GradeEntry) (response : ParticipantResponse) :
    MarkedByValue assessment
        ((updateData assessment request entry).fill response) ↔
      suppliesValue assessment entry = true := by
  rw [MarkedByValue, hasGradeValue_fill, gradedAt_fill]
  exact iff_true_left nofun

theorem markedByValue_regraded_iff
    {catalogue : Catalogue} (assessment : Assessment)
    {request : StoreRequest} {response : ParticipantResponse}
    (own : response.pair = request.pair)
    (written : isWritten catalogue response = true) :
    MarkedByValue assessment
        (regraded catalogue assessment request response) ↔
      FilledOrMarked assessment request response := by
  rw [regraded, if_pos ⟨own, written⟩, FilledOrMarked]
  cases lastEntryOf request.responses response.questionId with
  | none => exact Iff.rfl
  | some entry =>
      exact markedByValue_fill_iff assessment request entry response

@[simp]
theorem key_regraded
    (catalogue : Catalogue) (assessment : Assessment)
    (request : StoreRequest) (response : ParticipantResponse) :
    (regraded catalogue assessment request response).key =
      response.key := by
  rw [regraded]
  split_ifs
  · cases lastEntryOf request.responses response.questionId <;> simp
  · rfl

theorem Grades.responsesOf
    {catalogue : Catalogue} {assessment : Assessment}
    {request : StoreRequest} {before after : Database}
    (grades : Grades catalogue assessment request before after)
    (pair : Pair) :
    after.responsesOf pair =
      (before.responsesOf pair).map
        (regraded catalogue assessment request) := by
  rw [Database.responsesOf, grades.rows]
  exact
    Database.filter_pair_map _ pair _
      (key_regraded catalogue assessment request)

/-- The condition on the request and on the rows that it leaves out. -/
def LeavesNoBlank (catalogue : Catalogue) (assessment : Assessment)
    (request : StoreRequest) (database : Database) : Prop :=
  ∀ response ∈ database.responsesOf request.pair,
    isWritten catalogue response = true →
      FilledOrMarked assessment request response

theorem Grades.onlySuppliedCount_iff
    {catalogue : Catalogue} {assessment : Assessment}
    {request : StoreRequest} {before after : Database}
    (grades : Grades catalogue assessment request before after) :
    OnlySuppliedCount catalogue assessment request.pair after ↔
      LeavesNoBlank catalogue assessment request before := by
  have sameWritten (response : ParticipantResponse) :
      isWritten catalogue
          (regraded catalogue assessment request response) =
        isWritten catalogue response :=
    isWritten_congr catalogue (key_regraded _ _ _ _)
  constructor
  · intro only response member written
    have own := ((Database.mem_responsesOf_iff _ _ _).mp member).2
    apply (markedByValue_regraded_iff assessment own written).mp
    apply only.marked
    · rw [grades.responsesOf]
      exact List.mem_map_of_mem member
    · rw [sameWritten]
      exact written
  · intro noBlank
    apply onlySuppliedCount_of_marked
    intro regradedRow member written
    rw [grades.responsesOf] at member
    rcases List.mem_map.mp member with ⟨response, listed, rfl⟩
    rw [sameWritten] at written
    have own := ((Database.mem_responsesOf_iff _ _ _).mp listed).2
    exact
      (markedByValue_regraded_iff assessment own written).mpr
        (noBlank response listed written)

/--
For every request and every database: the request raises and nothing
changes, or it finishes, and then only supplied grades count as grading
exactly when it leaves no written response of its pair blank.
-/
theorem only_supplied_grades_count_iff
    (catalogue : Catalogue) (request : StoreRequest)
    (database : Database) :
    (∃ error,
      (store catalogue request).exec ⟨database, none⟩ =
        (.error error, ⟨database, none⟩)) ∨
    ∃ assessment after,
      catalogue.assessment? request.assessmentId = some assessment ∧
        (store catalogue request).exec ⟨database, none⟩ =
          (.ok (), ⟨after, none⟩) ∧
        (OnlySuppliedCount catalogue assessment request.pair after ↔
          LeavesNoBlank catalogue assessment request database) := by
  rcases exec_store catalogue request database with
    raised | ⟨assessment, after, resolved, finished, grades⟩
  · exact Or.inl raised
  · exact
      Or.inr
        ⟨assessment, after, resolved.assessmentFound, finished,
          grades.onlySuppliedCount_iff⟩

/-- Participant 1 answers both texts and skips the choice. -/
def writtenAnswers : List Operation :=
  [.storeResponse (sampleSelection 1 [] .next),
    .storeResponse (sampleText 2 "a" .next),
    .storeResponse (sampleText 3 "b" .next)]

/-- Question 2 is graded, the field of question 3 is left blank. -/
def halfFilledForm : StoreRequest :=
  sampleGrades [(2, some 8), (3, none)]

/-- The blank field stamps its response, which completes the grading. -/
theorem blank_field_counts_as_grading :
    let after :=
      sampleRun .jsonEncoded (writtenAnswers ++ [.grade halfFilledForm])
    (∃ response ∈ after.responsesOf halfFilledForm.pair,
      response.questionId = 3 ∧
        isWritten sampleCatalogue response = true ∧
        response.gradedAt = some halfFilledForm.now ∧
        hasGradeValue sampleAssessment response = false) ∧
      gradingStatus sampleCatalogue after halfFilledForm.pair =
        .graded ∧
      statusOf sampleCatalogue sampleAssessment
          (after.responsesOf halfFilledForm.pair) =
        .completed := by
  decide +kernel

end SultanPass.GradingController
