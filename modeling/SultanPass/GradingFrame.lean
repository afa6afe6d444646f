import SultanPass.ResponseHistory

/-!
# What a grading request touches

`GradingController::store` runs over the posted entries, whatever question
ids they carry.  Every update goes through a query for the response of the
request's own assessment and participant, so a row changes only when it
answers a written question that some entry lists, and then only in the grade
columns.  Each saved grade starts a recalculation, which writes the
participation row of the same pair.

`exec_store` gives the rows after a request as an update of each row before
it, `regraded`; a question that is listed several times keeps the grade of
its last entry.
-/

namespace SultanPass.GradingController

open SultanPass.Library
open SultanPass.AssessmentScoreService

/-! ## The grade that stays -/

/-- The last entry for a question; the earlier ones are overwritten. -/
def lastEntryOf (entries : List GradeEntry) (questionId : QuestionId) :
    Option GradeEntry :=
  (entries.filter fun entry => entry.questionId = questionId).getLast?

/-- The row after one entry. -/
def gradeRow (catalogue : Catalogue) (assessment : Assessment)
    (request : StoreRequest) (entry : GradeEntry)
    (response : ParticipantResponse) : ParticipantResponse :=
  if response.key = (request.pair, entry.questionId) ∧
      isWritten catalogue response then
    (updateData assessment request entry).fill response
  else
    response

/-- The row after a whole request. -/
def regraded (catalogue : Catalogue) (assessment : Assessment)
    (request : StoreRequest) (response : ParticipantResponse) :
    ParticipantResponse :=
  if response.pair = request.pair ∧ isWritten catalogue response then
    match lastEntryOf request.responses response.questionId with
    | some entry => (updateData assessment request entry).fill response
    | none => response
  else
    response

@[simp]
theorem key_gradeRow
    (catalogue : Catalogue) (assessment : Assessment)
    (request : StoreRequest) (entry : GradeEntry)
    (response : ParticipantResponse) :
    (gradeRow catalogue assessment request entry response).key =
      response.key := by
  rw [gradeRow]
  split_ifs <;> simp

theorem lastEntryOf_concat
    (entries : List GradeEntry) (entry : GradeEntry)
    (questionId : QuestionId) :
    lastEntryOf (entries ++ [entry]) questionId =
      if entry.questionId = questionId then some entry
      else lastEntryOf entries questionId := by
  rw [lastEntryOf, List.filter_append]
  by_cases same : entry.questionId = questionId
  · simp [same]
  · simp [same, lastEntryOf]

theorem lastEntryOf_eq_none_iff
    (entries : List GradeEntry) (questionId : QuestionId) :
    lastEntryOf entries questionId = none ↔
      ∀ entry ∈ entries, entry.questionId ≠ questionId := by
  simp [lastEntryOf]

/-- A later grade of the same request replaces an earlier one. -/
theorem fill_fill
    (assessment : Assessment) (request : StoreRequest)
    (earlier later : GradeEntry) (response : ParticipantResponse) :
    (updateData assessment request later).fill
        ((updateData assessment request earlier).fill response) =
      (updateData assessment request later).fill response := by
  rw [updateData, updateData]
  cases assessment.scoringMode <;> rfl

/-! ## The rows after the loop -/

/-- One entry updates each row of the table. -/
theorem rows_savedGrade
    (catalogue : Catalogue) (assessment : Assessment)
    (request : StoreRequest) (database : Database)
    (entry : GradeEntry) :
    (savedGrade catalogue assessment request database
        entry).participantResponses.rows =
      database.participantResponses.rows.map
        (gradeRow catalogue assessment request entry) := by
  have unchanged
      (notGraded : ∀ response ∈ database.participantResponses.rows,
        response.key = (request.pair, entry.questionId) →
          ¬ isWritten catalogue response = true) :
      database.participantResponses.rows =
        database.participantResponses.rows.map
          (gradeRow catalogue assessment request entry) := by
    conv_lhs => rw [← List.map_id database.participantResponses.rows]
    apply List.map_congr_left
    intro response listed
    rw [gradeRow, if_neg]
    · rfl
    · rintro ⟨sameKey, written⟩
      exact notGraded response listed sameKey written
  rw [savedGrade]
  cases found :
      database.response? (request.pair, entry.questionId) with
  | none =>
      apply unchanged
      intro response listed sameKey
      have absent := (KeyedTable.find?_eq_none_iff _ _).mp found
      exact
        (absent (List.mem_map.mpr ⟨response, listed, sameKey⟩)).elim
  | some graded =>
      have gradedRow := (Database.response?_eq_some_iff _ _ _).mp found
      dsimp only
      by_cases written : isWritten catalogue graded = true
      · rw [if_pos written]
        apply List.map_congr_left
        intro response listed
        rw [gradeRow]
        by_cases own :
            response.key = (request.pair, entry.questionId)
        · have sameWritten :
              isWritten catalogue response = true :=
            (isWritten_congr catalogue
              (own.trans gradedRow.2.symm)).trans written
          rw [if_pos own, if_pos ⟨own, sameWritten⟩]
        · rw [if_neg own, if_neg fun both => own both.1]
      · rw [if_neg written]
        apply unchanged
        intro response listed sameKey
        rw [isWritten_congr catalogue
          (sameKey.trans gradedRow.2.symm)]
        exact written

/-- All entries, read at one row. -/
theorem rows_savedGrades
    (catalogue : Catalogue) (assessment : Assessment)
    (request : StoreRequest) (entries : List GradeEntry)
    (database : Database) :
    (savedGrades catalogue assessment request entries
        database).participantResponses.rows =
      database.participantResponses.rows.map fun response =>
        entries.foldl
          (fun row entry =>
            gradeRow catalogue assessment request entry row)
          response := by
  induction entries using List.reverseRecOn with
  | nil => exact (List.map_id _).symm
  | append_singleton entries entry induction =>
      rw [savedGrades, List.foldl_append]
      change
        (savedGrade catalogue assessment request
          (savedGrades catalogue assessment request entries database)
          entry).participantResponses.rows = _
      rw [rows_savedGrade, induction, List.map_map]
      simp only [List.foldl_append, List.foldl_cons, List.foldl_nil]
      rfl

/-- Of all entries for a row, the last one determines it. -/
theorem foldl_gradeRow
    (catalogue : Catalogue) (assessment : Assessment)
    (request : StoreRequest) (response : ParticipantResponse) :
    request.responses.foldl
        (fun row entry =>
          gradeRow catalogue assessment request entry row)
        response =
      regraded catalogue assessment request response := by
  rw [regraded]
  generalize request.responses = entries
  induction entries using List.reverseRecOn with
  | nil =>
      split_ifs <;> rfl
  | append_singleton entries entry induction =>
      rw [List.foldl_append, induction]
      change
        gradeRow catalogue assessment request entry
          (if _ then _ else _) = _
      by_cases graded :
          response.pair = request.pair ∧ isWritten catalogue response
      · rw [if_pos graded, if_pos graded, lastEntryOf_concat]
        by_cases listed : entry.questionId = response.questionId
        · have ownKey :
              response.key = (request.pair, entry.questionId) := by
            rw [listed, ← graded.1]
            rfl
          rw [if_pos listed]
          cases lastEntryOf entries response.questionId with
          | none =>
              exact if_pos ⟨ownKey, graded.2⟩
          | some earlier =>
              have filledKey :=
                (updateData assessment request earlier).key_fill
                  response
              dsimp only
              rw [gradeRow,
                if_pos
                  ⟨filledKey.trans ownKey,
                    (isWritten_congr catalogue filledKey).trans
                      graded.2⟩,
                fill_fill]
        · rw [if_neg listed]
          apply if_neg
          rintro ⟨sameKey, _⟩
          apply listed
          have otherKey :
              (match lastEntryOf entries response.questionId with
                | some earlier =>
                    (updateData assessment request earlier).fill
                      response
                | none => response).key = response.key := by
            cases lastEntryOf entries response.questionId with
            | none => rfl
            | some earlier =>
                exact
                  (updateData assessment request earlier).key_fill
                    response
          exact (congrArg Prod.snd (sameKey.symm.trans otherKey))
      · rw [if_neg graded, if_neg graded]
        apply if_neg
        rintro ⟨sameKey, written⟩
        exact graded ⟨congrArg Prod.fst sameKey, written⟩

/-! ## The database after a request -/

/-- The participation rows of all other pairs. -/
def otherRows (pair : Pair) (database : Database) :
    List AssessmentParticipant :=
  database.assessmentParticipants.filter fun row => row.pair ≠ pair

/-- What a request that finishes makes of a database. -/
structure Grades (catalogue : Catalogue) (assessment : Assessment)
    (request : StoreRequest) (before after : Database) : Prop where
  rows :
    after.participantResponses.rows =
      before.participantResponses.rows.map
        (regraded catalogue assessment request)
  otherParticipations :
    otherRows request.pair after = otherRows request.pair before

theorem otherRows_rescore
    {catalogue : Catalogue} {request : StoreRequest}
    {assessment : Assessment}
    (resolved : Resolved catalogue request assessment)
    (database : Database) :
    otherRows request.pair
        (rescore catalogue request.now assessment request.participantId
          database) =
      otherRows request.pair database := by
  apply
    @filter_rescore catalogue request.now assessment
      request.participantId database
      fun pair => decide (pair ≠ request.pair)
  simp [resolved.pair_eq]

theorem otherRows_gradeStatements
    {catalogue : Catalogue} {request : StoreRequest}
    {assessment : Assessment}
    (resolved : Resolved catalogue request assessment)
    (entry : GradeEntry) (database : Database) :
    otherRows request.pair
        (Program.performAll
          (gradeStatements catalogue assessment request entry database)
          database) =
      otherRows request.pair database := by
  rcases gradeStatements_cases catalogue assessment request entry
      database with none | ⟨response, _, _, equal⟩
  · rw [none]
    rfl
  · rw [equal]
    exact otherRows_rescore resolved _

theorem grades_storeStatements
    {catalogue : Catalogue} {request : StoreRequest}
    {assessment : Assessment}
    (resolved : Resolved catalogue request assessment)
    (database : Database) :
    Grades catalogue assessment request database
      (Program.performAll
        (storeStatements catalogue assessment request database)
        database) where
  rows := by
    rw [participantResponses_perform_storeStatements catalogue
      assessment request (fun _ => rfl), rows_savedGrades]
    apply List.map_congr_left
    intro response _
    exact foldl_gradeRow catalogue assessment request response
  otherParticipations := by
    have loop :=
      Program.loopStatements_invariant
        (fun reached : Database =>
          otherRows request.pair reached =
            otherRows request.pair database)
        (gradeStatements catalogue assessment request)
        request.responses
        (fun entry _ reached same =>
          (otherRows_gradeStatements resolved entry reached).trans same)
        database rfl
    rw [storeStatements, Program.performAll_append]
    exact (otherRows_rescore resolved _).trans loop.1

/-- A grading request raises and changes nothing, or grades its rows. -/
theorem exec_store
    (catalogue : Catalogue) (request : StoreRequest)
    (database : Database) :
    (∃ error,
      (store catalogue request).exec ⟨database, none⟩ =
        (.error error, ⟨database, none⟩)) ∨
    ∃ assessment after,
      Resolved catalogue request assessment ∧
        (store catalogue request).exec ⟨database, none⟩ =
          (.ok (), ⟨after, none⟩) ∧
        Grades catalogue assessment request database after := by
  rw [atomic_store catalogue request database]
  cases outcome : ((store catalogue request).issued database).1 with
  | error error =>
      have none :=
        Program.committed_of_error (Prod.ext outcome rfl)
      rw [none]
      exact Or.inl ⟨error, rfl⟩
  | ok value =>
      rcases committed_store catalogue request database with
        ⟨error, raised, _⟩ | ⟨assessment, resolved, equal⟩
      · rw [outcome] at raised
        cases raised
      · rw [equal]
        exact
          Or.inr
            ⟨assessment, _, resolved, rfl,
              grades_storeStatements resolved database⟩

/-! ## The frame of a request -/

/--
A row before and after a request.  It stays as it is unless it answers a
listed written question of the request's pair; then it changes in the grade
columns of the scoring mode only, to what its last entry says.
-/
structure OnlyGraded (catalogue : Catalogue) (assessment : Assessment)
    (request : StoreRequest) (before after : ParticipantResponse) :
    Prop where
  unlisted :
    ¬ (before.pair = request.pair ∧
        isWritten catalogue before = true ∧
        ∃ entry ∈ request.responses,
          entry.questionId = before.questionId) →
      after = before
  sameAnswer :
    { after with
      gradedBy := before.gradedBy
      gradedAt := before.gradedAt
      gradedScore := before.gradedScore
      gradedCategories := before.gradedCategories } = before
  otherMode :
    match assessment.scoringMode with
    | .percentile => after.gradedCategories = before.gradedCategories
    | .categorical => after.gradedScore = before.gradedScore
  lastGrade :
    before.pair = request.pair → isWritten catalogue before = true →
      ∀ entry,
        lastEntryOf request.responses before.questionId = some entry →
          after.gradedBy = some request.userId ∧
            after.gradedAt = some request.now ∧
            match assessment.scoringMode with
            | .percentile => after.gradedScore = entry.gradedScore
            | .categorical =>
                after.gradedCategories = entry.gradedCategories

theorem exists_of_lastEntryOf
    {entries : List GradeEntry} {questionId : QuestionId}
    {entry : GradeEntry}
    (last : lastEntryOf entries questionId = some entry) :
    ∃ other ∈ entries, other.questionId = questionId := by
  by_contra unlisted
  have absent : lastEntryOf entries questionId = none :=
    (lastEntryOf_eq_none_iff _ _).mpr fun other member same =>
      unlisted ⟨other, member, same⟩
  rw [absent] at last
  cases last

theorem onlyGraded_fill
    {catalogue : Catalogue} (assessment : Assessment)
    {request : StoreRequest} {entry : GradeEntry}
    {response : ParticipantResponse}
    (graded :
      response.pair = request.pair ∧ isWritten catalogue response = true)
    (last :
      lastEntryOf request.responses response.questionId = some entry) :
    OnlyGraded catalogue assessment request response
      ((updateData assessment request entry).fill response) where
  unlisted notGraded :=
    (notGraded
      ⟨graded.1, graded.2, exists_of_lastEntryOf last⟩).elim
  sameAnswer := by
    rw [updateData]
    cases assessment.scoringMode <;> rfl
  otherMode := by
    rw [updateData]
    cases assessment.scoringMode <;> rfl
  lastGrade := by
    intro _ _ other otherLast
    cases last.symm.trans otherLast
    rw [updateData]
    cases assessment.scoringMode <;> exact ⟨rfl, rfl, rfl⟩

theorem onlyGraded_self
    {catalogue : Catalogue} (assessment : Assessment)
    {request : StoreRequest} {response : ParticipantResponse}
    (notGraded :
      ¬ (response.pair = request.pair ∧
          isWritten catalogue response = true) ∨
        lastEntryOf request.responses response.questionId = none) :
    OnlyGraded catalogue assessment request response response where
  unlisted _ := rfl
  sameAnswer := rfl
  otherMode := by
    cases assessment.scoringMode <;> rfl
  lastGrade := by
    intro ownPair written entry last
    rcases notGraded with other | none
    · exact (other ⟨ownPair, written⟩).elim
    · rw [none] at last
      cases last

theorem onlyGraded_regraded
    (catalogue : Catalogue) (assessment : Assessment)
    (request : StoreRequest) (response : ParticipantResponse) :
    OnlyGraded catalogue assessment request response
      (regraded catalogue assessment request response) := by
  rw [regraded]
  by_cases graded :
      response.pair = request.pair ∧ isWritten catalogue response = true
  · rw [if_pos graded]
    cases last :
        lastEntryOf request.responses response.questionId with
    | some entry => exact onlyGraded_fill assessment graded last
    | none => exact onlyGraded_self assessment (Or.inr last)
  · rw [if_neg graded]
    exact onlyGraded_self assessment (Or.inl graded)

/--
For every request and every database: the request raises and nothing
changes, or it finishes, each response row changes in its grade at most, and
the participation rows of all other pairs are as they were.
-/
theorem grading_touches_what_it_grades
    (catalogue : Catalogue) (request : StoreRequest)
    (database : Database) :
    (∃ error,
      (store catalogue request).exec ⟨database, none⟩ =
        (.error error, ⟨database, none⟩)) ∨
    ∃ assessment after,
      catalogue.assessment? request.assessmentId = some assessment ∧
        (store catalogue request).exec ⟨database, none⟩ =
          (.ok (), ⟨after, none⟩) ∧
        List.Forall₂ (OnlyGraded catalogue assessment request)
          database.participantResponses.rows
          after.participantResponses.rows ∧
        otherRows request.pair after =
          otherRows request.pair database := by
  rcases exec_store catalogue request database with
    raised | ⟨assessment, after, resolved, finished, grades⟩
  · exact Or.inl raised
  · refine
      Or.inr
        ⟨assessment, after, resolved.assessmentFound, finished, ?_,
          grades.otherParticipations⟩
    rw [grades.rows, List.forall₂_map_right_iff]
    exact
      List.forall₂_same.mpr fun response _ =>
        onlyGraded_regraded catalogue assessment request response

end SultanPass.GradingController
