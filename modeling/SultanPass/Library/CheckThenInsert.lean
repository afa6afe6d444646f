import SultanPass.Library.Session
import Mathlib.Algebra.BigOperators.Group.Finset.Basic

/-!
# Rows that are inserted after a check

A program checks that a key has no row and then inserts one.  Alone it keeps
the key unique.  Next to others it does not: between the check of one
session and its commit, another session may get the same answer.

`RowCount` says which statements insert a row under a key, `Checked` that a
program inserts only right after a read of a state without such a row, and
`Unraced` that a step is not such a check while the key is claimed by a
committed row or by another session.  `unique_run` shows that keys stay
unique in every run of unraced steps.
-/

namespace SultanPass.Library

variable {Index State Statement Error Value Result Key : Type}
variable [Store State Statement] [DecidableEq Key]

/-- The rows under each key, and the statements that insert one. -/
structure RowCount (State Statement Key : Type)
    [Store State Statement] [DecidableEq Key] where
  inserted : Statement → Option Key
  count : Key → State → ℕ
  count_perform :
    ∀ key statement state,
      count key (Store.perform statement state) =
        count key state + if inserted statement = some key then 1 else 0

namespace RowCount

variable (rows : RowCount State Statement Key)

/-- The rows that a list of statements inserts. -/
def insertions (key : Key) : List Statement → ℕ
  | [] => 0
  | statement :: rest =>
      (if rows.inserted statement = some key then 1 else 0) +
        insertions key rest

/-- The key under which the next statement of a program inserts a row. -/
def nextInserted : Program State Statement Error Value → Option Key
  | .write statement _ => rows.inserted statement
  | _ => none

/--
Every insertion comes right after a read of a state that has no row under
its key; `seen` is the state of a read just before the program.
-/
def Checked :
    Program State Statement Error Value → (seen : Option State) → Prop
  | .done _, _ => True
  | .raise _, _ => True
  | .read next, _ => ∀ state, Checked (next state) (some state)
  | .write statement next, seen =>
      (∀ key, rows.inserted statement = some key →
        ∃ state ∈ seen, rows.count key state = 0) ∧
      Checked next none
  | .beginTransaction next, _ => Checked next none
  | .commit next, _ => Checked next none

/-- The rows that a session has inserted or is about to insert. -/
def claims (key : Key)
    (session : Session State Statement Error Value) : ℕ :=
  rows.insertions key session.pending +
    if rows.nextInserted session.program = some key then 1 else 0

/-- The key whose row the next step of a session checks for and misses. -/
def missedKey (session : Session State Statement Error Value)
    (shared : State) : Option Key :=
  match session.program with
  | .read next => rows.nextInserted (next (session.view shared))
  | _ => none

/--
When the next step of a session misses the row of a key, no row of the key
is committed and no other session has a claim on it.
-/
def Unraced (system : System Index State Statement Error Value)
    (index : Index) : Prop :=
  ∀ key ∈ rows.missedKey (system.sessions index) system.shared,
    rows.count key system.shared = 0 ∧
      ∀ other, other ≠ index →
        rows.claims key (system.sessions other) = 0

/-! ## Checked programs -/

theorem Checked.of_none
    {program : Program State Statement Error Value}
    (checked : rows.Checked program none) (seen : Option State) :
    rows.Checked program seen := by
  cases program with
  | done => exact True.intro
  | raise => exact True.intro
  | read next => exact checked
  | write statement next =>
      refine ⟨?_, checked.2⟩
      intro key inserts
      rcases checked.1 key inserts with ⟨state, isNone, _⟩
      cases isNone
  | beginTransaction next => exact checked
  | commit next => exact checked

theorem Checked.bind
    {program : Program State Statement Error Value}
    {continuation : Value → Program State Statement Error Result}
    {seen : Option State} (checked : rows.Checked program seen)
    (continues : ∀ value, rows.Checked (continuation value) none) :
    rows.Checked (program.bind continuation) seen := by
  induction program generalizing seen with
  | done value => exact Checked.of_none rows (continues value) seen
  | raise => exact True.intro
  | read next induction =>
      intro state
      exact induction state (checked state)
  | write statement next induction =>
      exact ⟨checked.1, induction checked.2⟩
  | beginTransaction next induction => exact induction checked
  | commit next induction => exact induction checked

theorem checked_query (question : State → Value) :
    rows.Checked
      (Program.query question :
        Program State Statement Error Value) none :=
  fun _ => True.intro

theorem checked_ofExcept (computed : Except Error Value) :
    rows.Checked
      (Program.ofExcept computed :
        Program State Statement Error Value) none := by
  cases computed <;> exact True.intro

/-- A statement that inserts nothing needs no check. -/
theorem checked_execute
    {statement : Statement} (none : rows.inserted statement = none) :
    rows.Checked
      (Program.execute statement :
        Program State Statement Error Unit) Option.none := by
  refine ⟨?_, True.intro⟩
  intro key inserts
  rw [none] at inserts
  cases inserts

theorem Checked.transaction
    {body : Program State Statement Error Value}
    (checked : rows.Checked body none) :
    rows.Checked body.transaction none :=
  Checked.bind rows checked fun _ => True.intro

theorem Checked.forEach {Entry : Type}
    {body : Entry → Program State Statement Error Unit}
    (checked : ∀ entry, rows.Checked (body entry) none)
    (entries : List Entry) :
    rows.Checked (Program.forEach body entries) none := by
  induction entries with
  | nil => exact True.intro
  | cons entry rest induction =>
      exact Checked.bind rows (checked entry) fun _ => induction

/-! ## Counting rows and claims -/

theorem insertions_append
    (key : Key) (left right : List Statement) :
    rows.insertions key (left ++ right) =
      rows.insertions key left + rows.insertions key right := by
  induction left with
  | nil => exact (Nat.zero_add _).symm
  | cons statement rest induction =>
      rw [List.cons_append, insertions, induction, insertions,
        Nat.add_assoc]

theorem count_performAll
    (key : Key) (statements : List Statement) (state : State) :
    rows.count key (Program.performAll statements state) =
      rows.count key state + rows.insertions key statements := by
  induction statements generalizing state with
  | nil => rfl
  | cons statement rest induction =>
      rw [Program.performAll_cons, induction, rows.count_perform,
        insertions, Nat.add_assoc]

/-- A session does not claim anew right after a step that is no read. -/
theorem nextInserted_of_checked
    {program : Program State Statement Error Value}
    (checked : rows.Checked program none) :
    rows.nextInserted program = none := by
  cases program with
  | write statement next =>
      change rows.inserted statement = none
      by_contra some
      rcases Option.ne_none_iff_exists'.mp some with ⟨key, inserts⟩
      rcases checked.1 key inserts with ⟨state, isNone, _⟩
      cases isNone
  | _ => rfl

theorem claims_of_checked
    {program : Program State Statement Error Value}
    (checked : rows.Checked program none) (key : Key)
    (transaction : Option (Transaction State Statement)) :
    rows.claims key { program := program, transaction := transaction } =
      rows.insertions key
        (Session.pending
          { program := program, transaction := transaction }) := by
  rw [claims, rows.nextInserted_of_checked checked]
  rfl

/-- A session that misses the row of a key has not inserted it. -/
theorem insertions_pending_of_missed
    {session : Session State Statement Error Value} {shared : State}
    {continuation : Program State Statement Error Value}
    (checked :
      rows.Checked continuation (some (session.view shared)))
    {key : Key} (misses : rows.nextInserted continuation = some key) :
    rows.insertions key session.pending = 0 := by
  cases continuation with
  | write statement rest =>
      rcases checked.1 key misses with ⟨state, isView, none⟩
      cases isView
      rcases session with ⟨program, transaction⟩
      cases transaction with
      | none => rfl
      | some transaction =>
          change rows.count key (Program.performAll _ _) = 0 at none
          rw [count_performAll] at none
          exact (Nat.add_eq_zero_iff.mp none).2
  | _ => cases misses

/-- What a step does to the rows and to the claims of its session. -/
theorem claims_step
    {locked : Statement → Bool}
    {session after : Session State Statement Error Value}
    {shared sharedAfter : State}
    (steps : session.step locked shared = some (after, sharedAfter))
    {seen : Option State} (checked : rows.Checked session.program seen)
    (key : Key) :
    (rows.missedKey session shared = some key ∧
        rows.claims key session = 0 ∧
        rows.claims key after = 1 ∧
        sharedAfter = shared) ∨
    rows.count key sharedAfter + rows.claims key after ≤
      rows.count key shared + rows.claims key session := by
  rcases session with ⟨program, transaction⟩
  cases program with
  | done value => cases steps
  | raise error =>
      cases transaction with
      | none => cases steps
      | some transaction =>
          cases steps
          exact Or.inr (Nat.add_le_add_left (Nat.zero_le _) _)
  | read next =>
      cases steps
      have checkedNext := checked
        (Session.view
          { program := .read next, transaction := transaction } shared)
      by_cases misses :
          rows.nextInserted
            (next
              (Session.view
                { program := .read next, transaction := transaction }
                shared)) = some key
      · apply Or.inl
        have noPending :
            rows.insertions key
              (Session.pending
                { program := (.read next :
                    Program State Statement Error Value)
                  transaction := transaction }) = 0 :=
          rows.insertions_pending_of_missed checkedNext misses
        refine ⟨misses, ?_, ?_, rfl⟩
        · rw [claims, noPending]
          rfl
        · rw [claims, if_pos misses]
          exact Nat.add_eq_right.mpr noPending
      · apply Or.inr
        rw [claims, if_neg misses]
        exact
          Nat.add_le_add_left (Nat.add_le_add_left (Nat.zero_le _) _) _
  | write statement next =>
      apply Or.inr
      rw [Session.step] at steps
      dsimp only at steps
      split_ifs at steps
      cases transaction with
      | none =>
          cases steps
          rw [rows.claims_of_checked checked.2, rows.count_perform]
          simp only [claims, nextInserted, Session.pending, insertions,
            Nat.add_zero, Nat.zero_add]
          exact le_rfl
      | some transaction =>
          cases steps
          rw [rows.claims_of_checked checked.2]
          simp only [claims, nextInserted, Session.pending,
            insertions_append, insertions, Nat.add_zero]
          exact le_rfl
  | beginTransaction next =>
      cases steps
      apply Or.inr
      rw [rows.claims_of_checked checked]
      exact Nat.add_le_add_left (Nat.zero_le _) _
  | commit next =>
      cases steps
      apply Or.inr
      rw [rows.claims_of_checked checked, count_performAll]
      exact le_rfl

/-- A session stays checked. -/
theorem Checked.step
    {locked : Statement → Bool}
    {session after : Session State Statement Error Value}
    {shared sharedAfter : State}
    (steps : session.step locked shared = some (after, sharedAfter))
    {seen : Option State}
    (checked : rows.Checked session.program seen) :
    ∃ seenAfter, rows.Checked after.program seenAfter := by
  rcases session with ⟨program, transaction⟩
  cases program with
  | done value => cases steps
  | raise error =>
      cases transaction with
      | none => cases steps
      | some transaction =>
          cases steps
          exact ⟨none, True.intro⟩
  | read next =>
      cases steps
      exact ⟨_, checked _⟩
  | write statement next =>
      rw [Session.step] at steps
      dsimp only at steps
      split_ifs at steps
      cases transaction <;> cases steps <;> exact ⟨none, checked.2⟩
  | beginTransaction next =>
      cases steps
      exact ⟨none, checked⟩
  | commit next =>
      cases steps
      exact ⟨none, checked⟩

/-! ## Runs -/

variable [Fintype Index]

/-- The committed rows of a key, with the claims of all sessions. -/
def total (key : Key)
    (system : System Index State Statement Error Value) : ℕ :=
  rows.count key system.shared +
    ∑ index, rows.claims key (system.sessions index)

/-- Nothing is claimed at the start. -/
theorem total_start
    {programs : Index → Program State Statement Error Value}
    (checked : ∀ index, rows.Checked (programs index) none)
    (state : State) (key : Key) :
    rows.total key (System.start programs state) =
      rows.count key state := by
  rw [total, Finset.sum_eq_zero]
  · rfl
  · intro index _
    exact rows.claims_of_checked (checked index) key none

/-- Every session is checked, and every key is claimed at most once. -/
structure ClaimedOnce
    (system : System Index State Statement Error Value) : Prop where
  checked :
    ∀ index, ∃ seen,
      rows.Checked (system.sessions index).program seen
  once : ∀ key, rows.total key system ≤ 1

variable [DecidableEq Index]

/-- The claims of one session, with those of the others. -/
theorem total_eq
    (key : Key) (system : System Index State Statement Error Value)
    (index : Index) :
    rows.total key system =
      rows.count key system.shared +
        (rows.claims key (system.sessions index) +
          ∑ other ∈ Finset.univ.erase index,
            rows.claims key (system.sessions other)) := by
  rw [total, Finset.add_sum_erase _
    (fun other => rows.claims key (system.sessions other))
    (Finset.mem_univ index)]

/-- An unraced step keeps every key claimed at most once. -/
theorem ClaimedOnce.step
    {system : System Index State Statement Error Value}
    (claimedOnce : rows.ClaimedOnce system) {index : Index}
    (unraced : rows.Unraced system index) :
    rows.ClaimedOnce (system.step index) := by
  rcases system.step_cases index with
    passes | ⟨session, shared, steps, sharedEqual, sessionsEqual⟩
  · rw [passes]
    exact claimedOnce
  rcases claimedOnce.checked index with ⟨seen, checked⟩
  constructor
  · intro other
    rw [sessionsEqual]
    by_cases own : other = index
    · subst own
      rw [Function.update_self]
      exact Checked.step rows steps checked
    · rw [Function.update_of_ne own]
      exact claimedOnce.checked other
  · intro key
    have before := claimedOnce.once key
    have othersSame :
        (∑ other ∈ Finset.univ.erase index,
            rows.claims key ((system.step index).sessions other)) =
          ∑ other ∈ Finset.univ.erase index,
            rows.claims key (system.sessions other) := by
      apply Finset.sum_congr rfl
      intro other member
      rw [sessionsEqual,
        Function.update_of_ne (Finset.ne_of_mem_erase member)]
    rw [rows.total_eq key system index] at before
    rw [rows.total_eq key (system.step index) index, othersSame,
      sharedEqual, sessionsEqual, Function.update_self]
    rcases rows.claims_step steps checked key with
      ⟨misses, noClaim, oneClaim, sameShared⟩ | bounded
    · rcases unraced key misses with ⟨noRow, noOther⟩
      have noOthers :
          (∑ other ∈ Finset.univ.erase index,
            rows.claims key (system.sessions other)) = 0 := by
        apply Finset.sum_eq_zero
        intro other member
        exact noOther other (Finset.ne_of_mem_erase member)
      rw [noOthers, oneClaim, sameShared, noRow]
    · omega

/-- Every step of a run is unraced. -/
def UnracedRun :
    List Index → System Index State Statement Error Value → Prop
  | [], _ => True
  | index :: rest, system =>
      rows.Unraced system index ∧ UnracedRun rest (system.step index)

instance decidableUnraced
    (system : System Index State Statement Error Value)
    (index : Index) :
    Decidable (rows.Unraced system index) :=
  inferInstanceAs (Decidable (∀ key ∈ _, _ ∧ _))

instance decidableUnracedRun :
    (schedule : List Index) →
    (system : System Index State Statement Error Value) →
    Decidable (rows.UnracedRun schedule system)
  | [], _ => inferInstanceAs (Decidable True)
  | index :: rest, system =>
      @instDecidableAnd _ _ (rows.decidableUnraced system index)
        (decidableUnracedRun rest (system.step index))

theorem ClaimedOnce.run
    {system : System Index State Statement Error Value}
    (claimedOnce : rows.ClaimedOnce system) {schedule : List Index}
    (unraced : rows.UnracedRun schedule system) :
    rows.ClaimedOnce (system.run schedule) := by
  induction schedule generalizing system with
  | nil => exact claimedOnce
  | cons index rest induction =>
      exact
        induction (ClaimedOnce.step rows claimedOnce unraced.1)
          unraced.2

/--
Checked programs that start on unique keys keep them unique in every run
whose steps are unraced.
-/
theorem unique_run
    {programs : Index → Program State Statement Error Value}
    (checked : ∀ index, rows.Checked (programs index) none)
    {state : State} (unique : ∀ key, rows.count key state ≤ 1)
    {schedule : List Index}
    (unraced :
      rows.UnracedRun schedule (System.start programs state))
    (key : Key) :
    rows.count key ((System.start programs state).run schedule).shared ≤
      1 := by
  have start :
      rows.ClaimedOnce (System.start programs state) :=
    { checked := fun index => ⟨none, checked index⟩
      once := fun key =>
        (rows.total_start checked state key).le.trans (unique key) }
  exact
    (Nat.le_add_right _ _).trans
      ((ClaimedOnce.run rows start unraced).once key)

end RowCount

end SultanPass.Library
