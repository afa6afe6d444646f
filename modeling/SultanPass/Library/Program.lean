import Mathlib.Data.List.Basic
import Mathlib.Logic.Relation

/-!
# Request handlers as sequences of database statements

A `Program` is the sequence of reads and writes that one request issues,
with the points where it opens and commits a transaction.  A read hands the
whole database to the rest of the program, which then uses the part it
asked for; a write is a statement of the parameter type `Statement`, given
its meaning by a `Store` instance.

The same program has two readings.

* `exec` runs it alone.  An exception inside a transaction restores the
  state at its beginning.
* `Session.step` runs it next to others.  A transaction reads the snapshot
  taken at its beginning with its own writes applied, and its writes reach
  the shared state at the commit.

For a program without transaction markers, `issued` is a simpler description
of the first reading: the answer, and the statements that lead to the final
state.  `exec_plain` and `exec_transaction` connect the two.
-/

namespace SultanPass.Library

/-- The meaning of database statements. -/
class Store (State : Type) (Statement : outParam Type) where
  perform : Statement → State → State
  /-- Two statements that write the same row. -/
  sameRow : Statement → Statement → Bool

/-- The statements of one request, up to its answer or its exception. -/
inductive Program (State Statement Error Value : Type) where
  | done (value : Value)
  | raise (error : Error)
  | read (next : State → Program State Statement Error Value)
  | write (statement : Statement)
      (next : Program State Statement Error Value)
  | beginTransaction (next : Program State Statement Error Value)
  | commit (next : Program State Statement Error Value)

namespace Program

variable {State Statement Error Value Result : Type}

/-! ## Building programs -/

/-- Continue with the value of a program. -/
def bind :
    Program State Statement Error Value →
    (Value → Program State Statement Error Result) →
    Program State Statement Error Result
  | .done value, continuation => continuation value
  | .raise error, _ => .raise error
  | .read next, continuation =>
      .read fun state => (next state).bind continuation
  | .write statement next, continuation =>
      .write statement (next.bind continuation)
  | .beginTransaction next, continuation =>
      .beginTransaction (next.bind continuation)
  | .commit next, continuation =>
      .commit (next.bind continuation)

instance : Monad (Program State Statement Error) where
  pure := .done
  bind := bind

/-- Ask the database for a value. -/
def query (question : State → Value) :
    Program State Statement Error Value :=
  .read fun state => .done (question state)

/-- Issue one statement. -/
def execute (statement : Statement) :
    Program State Statement Error Unit :=
  .write statement (.done ())

/-- Go on with a computed value, or raise its exception. -/
def ofExcept : Except Error Value →
    Program State Statement Error Value
  | .ok value => .done value
  | .error error => .raise error

/-- Run a body in a transaction. -/
def transaction (body : Program State Statement Error Value) :
    Program State Statement Error Value :=
  .beginTransaction (body.bind fun value => .commit (.done value))

/-- Run a body for every entry of a list, in order. -/
def forEach {Entry : Type}
    (body : Entry → Program State Statement Error Unit) :
    List Entry → Program State Statement Error Unit
  | [] => .done ()
  | entry :: rest => (body entry).bind fun _ => forEach body rest

@[simp]
theorem bind_eq
    (program : Program State Statement Error Value)
    (continuation : Value → Program State Statement Error Result) :
    (program >>= continuation) = program.bind continuation :=
  rfl

/-! ## Programs without transactions -/

/-- A program without transaction markers. -/
def Plain : Program State Statement Error Value → Prop
  | .done _ => True
  | .raise _ => True
  | .read next => ∀ state, (next state).Plain
  | .write _ next => next.Plain
  | .beginTransaction _ => False
  | .commit _ => False

@[simp]
theorem plain_query (question : State → Value) :
    (query question : Program State Statement Error Value).Plain :=
  fun _ => True.intro

@[simp]
theorem plain_execute (statement : Statement) :
    (execute statement :
      Program State Statement Error Unit).Plain :=
  True.intro

@[simp]
theorem plain_ofExcept (computed : Except Error Value) :
    (ofExcept computed :
      Program State Statement Error Value).Plain := by
  cases computed <;> exact True.intro

theorem Plain.bind
    {program : Program State Statement Error Value}
    {continuation : Value → Program State Statement Error Result}
    (plain : program.Plain)
    (continues : ∀ value, (continuation value).Plain) :
    (program.bind continuation).Plain := by
  induction program with
  | done value => exact continues value
  | raise => exact True.intro
  | read next induction =>
      intro state
      exact induction state (plain state)
  | write statement next induction => exact induction plain
  | beginTransaction => exact plain.elim
  | commit => exact plain.elim

theorem Plain.forEach {Entry : Type}
    {body : Entry → Program State Statement Error Unit}
    (plain : ∀ entry, (body entry).Plain)
    (entries : List Entry) :
    (forEach body entries).Plain := by
  induction entries with
  | nil => exact True.intro
  | cons entry rest induction =>
      exact (plain entry).bind fun _ => induction

/-! ## The statements that a program can issue -/

/-- Every statement of a program is allowed, whatever it reads. -/
def Writes (allowed : Statement → Prop) :
    Program State Statement Error Value → Prop
  | .done _ => True
  | .raise _ => True
  | .read next => ∀ state, (next state).Writes allowed
  | .write statement next => allowed statement ∧ next.Writes allowed
  | .beginTransaction next => next.Writes allowed
  | .commit next => next.Writes allowed

theorem writes_query
    (allowed : Statement → Prop) (question : State → Value) :
    (query question :
      Program State Statement Error Value).Writes allowed :=
  fun _ => True.intro

theorem writes_execute
    {allowed : Statement → Prop} {statement : Statement}
    (holds : allowed statement) :
    (execute statement :
      Program State Statement Error Unit).Writes allowed :=
  ⟨holds, True.intro⟩

theorem writes_ofExcept
    (allowed : Statement → Prop) (computed : Except Error Value) :
    (ofExcept computed :
      Program State Statement Error Value).Writes allowed := by
  cases computed <;> exact True.intro

theorem Writes.bind
    {allowed : Statement → Prop}
    {program : Program State Statement Error Value}
    {continuation : Value → Program State Statement Error Result}
    (writes : program.Writes allowed)
    (continues : ∀ value, (continuation value).Writes allowed) :
    (program.bind continuation).Writes allowed := by
  induction program with
  | done value => exact continues value
  | raise => exact True.intro
  | read next induction =>
      intro state
      exact induction state (writes state)
  | write statement next induction =>
      exact ⟨writes.1, induction writes.2⟩
  | beginTransaction next induction => exact induction writes
  | commit next induction => exact induction writes

/-- What follows a lookup may use its result. -/
theorem Writes.ofExcept_bind
    {allowed : Statement → Prop} (computed : Except Error Value)
    {continuation : Value → Program State Statement Error Result}
    (writes : ∀ value, computed = .ok value →
      (continuation value).Writes allowed) :
    ((ofExcept computed).bind continuation).Writes allowed := by
  cases computed with
  | error error => exact True.intro
  | ok value => exact writes value rfl

theorem Writes.transaction
    {allowed : Statement → Prop}
    {body : Program State Statement Error Value}
    (writes : body.Writes allowed) :
    body.transaction.Writes allowed := by
  change (body.bind _).Writes allowed
  exact writes.bind fun _ => True.intro

/-! ## Running alone -/

variable [Store State Statement]

/-- A database connection: the rows, and the rows to restore. -/
structure Connection (State : Type) where
  state : State
  saved : Option State
deriving DecidableEq

/-- Undo the open transaction, if there is one. -/
def Connection.rollback (connection : Connection State) :
    Connection State where
  state := connection.saved.getD connection.state
  saved := none

/-- Run a program alone on a connection. -/
def exec :
    Program State Statement Error Value →
    Connection State →
    Except Error Value × Connection State
  | .done value, connection => (.ok value, connection)
  | .raise error, connection => (.error error, connection.rollback)
  | .read next, connection => (next connection.state).exec connection
  | .write statement next, connection =>
      next.exec
        { connection with
          state := Store.perform statement connection.state }
  | .beginTransaction next, connection =>
      next.exec { connection with saved := some connection.state }
  | .commit next, connection =>
      next.exec { connection with saved := none }

/-- Run a program alone, outside a transaction, to its final state. -/
def finalState
    (program : Program State Statement Error Value) (state : State) :
    State :=
  (program.exec ⟨state, none⟩).2.state

/-! ## The statements a plain program issues -/

/-- Perform statements in order. -/
def performAll (statements : List Statement) (state : State) : State :=
  statements.foldl (fun after statement => Store.perform statement after)
    state

@[simp]
theorem performAll_nil (state : State) :
    performAll ([] : List Statement) state = state :=
  rfl

@[simp]
theorem performAll_cons
    (statement : Statement) (rest : List Statement) (state : State) :
    performAll (statement :: rest) state =
      performAll rest (Store.perform statement state) :=
  rfl

@[simp]
theorem performAll_append
    (left right : List Statement) (state : State) :
    performAll (left ++ right) state =
      performAll right (performAll left state) := by
  simp [performAll]

/-- Answer of a plain program, with the statements it has issued. -/
def issued :
    Program State Statement Error Value →
    State → Except Error Value × List Statement
  | .done value, _ => (.ok value, [])
  | .raise error, _ => (.error error, [])
  | .read next, state => (next state).issued state
  | .write statement next, state =>
      let rest := next.issued (Store.perform statement state)
      (rest.1, statement :: rest.2)
  | .beginTransaction next, state => next.issued state
  | .commit next, state => next.issued state

@[simp]
theorem issued_query (question : State → Value) (state : State) :
    (query question :
        Program State Statement Error Value).issued state =
      (.ok (question state), []) :=
  rfl

@[simp]
theorem issued_execute (statement : Statement) (state : State) :
    (execute statement :
        Program State Statement Error Unit).issued state =
      (.ok (), [statement]) :=
  rfl

@[simp]
theorem issued_ofExcept
    (computed : Except Error Value) (state : State) :
    (ofExcept computed :
        Program State Statement Error Value).issued state =
      (computed, []) := by
  cases computed <;> rfl

/-- A program issues no statement but those it can issue. -/
theorem Writes.of_mem_issued
    {allowed : Statement → Prop}
    {program : Program State Statement Error Value}
    (writes : program.Writes allowed) {state : State}
    {statement : Statement}
    (issues : statement ∈ (program.issued state).2) :
    allowed statement := by
  induction program generalizing state with
  | done => exact (List.not_mem_nil issues).elim
  | raise => exact (List.not_mem_nil issues).elim
  | read next induction =>
      exact induction state (writes state) issues
  | write first next induction =>
      rcases List.mem_cons.mp issues with rfl | later
      · exact writes.1
      · exact induction writes.2 later
  | beginTransaction next induction => exact induction writes issues
  | commit next induction => exact induction writes issues

theorem issued_bind
    (program : Program State Statement Error Value)
    (continuation : Value → Program State Statement Error Result)
    (state : State) :
    (program.bind continuation).issued state =
      match program.issued state with
      | (.ok value, statements) =>
          let rest :=
            (continuation value).issued (performAll statements state)
          (rest.1, statements ++ rest.2)
      | (.error error, statements) => (.error error, statements) := by
  induction program generalizing state with
  | done => rfl
  | raise => rfl
  | read next induction => exact induction state state
  | write statement next induction =>
      rw [Program.bind, issued, induction, issued]
      rcases next.issued (Store.perform statement state) with
        ⟨answer, statements⟩
      cases answer <;> simp
  | beginTransaction next induction => exact induction state
  | commit next induction => exact induction state

/-- Continue after a program whose statements are known. -/
theorem issued_bind_of_ok
    {program : Program State Statement Error Value}
    {state : State} {value : Value} {statements : List Statement}
    (issues : program.issued state = (.ok value, statements))
    (continuation : Value → Program State Statement Error Result) :
    (program.bind continuation).issued state =
      (((continuation value).issued (performAll statements state)).1,
        statements ++
          ((continuation value).issued
            (performAll statements state)).2) := by
  rw [issued_bind, issues]

theorem issued_bind_of_error
    {program : Program State Statement Error Value}
    {state : State} {error : Error} {statements : List Statement}
    (issues : program.issued state = (.error error, statements))
    (continuation : Value → Program State Statement Error Result) :
    (program.bind continuation).issued state =
      (.error error, statements) := by
  rw [issued_bind, issues]

/-! ## Statements of a loop -/

/-- The statements of a loop whose bodies all finish. -/
def loopStatements {Entry : Type}
    (statements : Entry → State → List Statement) :
    List Entry → State → List Statement
  | [], _ => []
  | entry :: rest, state =>
      statements entry state ++
        loopStatements statements rest
          (performAll (statements entry state) state)

theorem loopStatements_append {Entry : Type}
    (statements : Entry → State → List Statement)
    (left right : List Entry) (state : State) :
    loopStatements statements (left ++ right) state =
      loopStatements statements left state ++
        loopStatements statements right
          (performAll (loopStatements statements left state) state) := by
  induction left generalizing state with
  | nil => rfl
  | cons entry rest induction =>
      simp only [List.cons_append, loopStatements, induction,
        List.append_assoc, performAll_append]

/-- Performing a loop is performing its bodies one after the other. -/
theorem performAll_loopStatements {Entry : Type}
    (statements : Entry → State → List Statement)
    (entries : List Entry) (state : State) :
    performAll (loopStatements statements entries state) state =
      entries.foldl
        (fun after entry => performAll (statements entry after) after)
        state := by
  induction entries generalizing state with
  | nil => rfl
  | cons entry rest induction =>
      simp only [loopStatements, performAll_append, induction,
        List.foldl_cons]

/--
An invariant of the bodies holds after the loop, and every statement of the
loop was issued by a body in a state with the invariant.
-/
theorem loopStatements_invariant {Entry : Type}
    (invariant : State → Prop)
    (statements : Entry → State → List Statement)
    (entries : List Entry)
    (keeps : ∀ entry ∈ entries, ∀ state, invariant state →
      invariant (performAll (statements entry state) state))
    (state : State) (holds : invariant state) :
    invariant
        (performAll (loopStatements statements entries state) state) ∧
      ∀ statement ∈ loopStatements statements entries state,
        ∃ entry ∈ entries, ∃ reached, invariant reached ∧
          statement ∈ statements entry reached := by
  induction entries generalizing state with
  | nil => exact ⟨holds, nofun⟩
  | cons entry rest induction =>
      have later :=
        induction
          (fun other member => keeps other (List.mem_cons_of_mem _ member))
          _ (keeps entry List.mem_cons_self state holds)
      rw [loopStatements, performAll_append]
      refine ⟨later.1, ?_⟩
      intro statement member
      rcases List.mem_append.mp member with own | inRest
      · exact ⟨entry, List.mem_cons_self, state, holds, own⟩
      · rcases later.2 statement inRest with
          ⟨other, otherMember, reached, invariantHolds, issued⟩
        exact
          ⟨other, List.mem_cons_of_mem _ otherMember, reached,
            invariantHolds, issued⟩

/-- A loop of loops over entries of one kind is one loop over them. -/
theorem loopStatements_nested {Entry Inner : Type}
    (allowed : Inner → Prop)
    (statements : Entry → State → List Statement)
    (inner : Inner → State → List Statement)
    (entries : List Entry)
    (nested : ∀ entry ∈ entries, ∀ state,
      ∃ parts, (∀ part ∈ parts, allowed part) ∧
        statements entry state = loopStatements inner parts state)
    (state : State) :
    ∃ parts, (∀ part ∈ parts, allowed part) ∧
      loopStatements statements entries state =
        loopStatements inner parts state := by
  induction entries generalizing state with
  | nil => exact ⟨[], nofun, rfl⟩
  | cons entry rest induction =>
      rcases nested entry List.mem_cons_self state with
        ⟨first, firstAllowed, firstEqual⟩
      rcases induction
          (fun other member => nested other (List.mem_cons_of_mem _ member))
          (performAll (statements entry state) state) with
        ⟨later, laterAllowed, laterEqual⟩
      refine ⟨first ++ later, ?_, ?_⟩
      · intro part member
        rcases List.mem_append.mp member with inFirst | inLater
        · exact firstAllowed part inFirst
        · exact laterAllowed part inLater
      · rw [loopStatements, laterEqual, firstEqual,
          loopStatements_append]

/--
A loop issues the statements of a first part of its entries: of all of them,
unless a body raises.
-/
theorem issued_forEach {Entry : Type}
    (body : Entry → Program State Statement Error Unit)
    (statements : Entry → State → List Statement)
    (issues : ∀ entry state,
      ((body entry).issued state).2 = statements entry state)
    (entries : List Entry) (state : State) :
    ∃ reached, reached <+: entries ∧
      ((forEach body entries).issued state).2 =
        loopStatements statements reached state ∧
      (((forEach body entries).issued state).1 = .ok () →
        reached = entries) := by
  induction entries generalizing state with
  | nil => exact ⟨[], List.prefix_rfl, rfl, fun _ => rfl⟩
  | cons entry rest induction =>
      have own := issues entry state
      rcases equal : (body entry).issued state with ⟨answer, list⟩
      rw [equal] at own
      change list = _ at own
      subst own
      cases answer with
      | error error =>
          rw [forEach, issued_bind_of_error equal]
          refine ⟨[entry], ⟨rest, rfl⟩, ?_, nofun⟩
          simp [loopStatements]
      | ok value =>
          rw [forEach, issued_bind_of_ok equal]
          rcases induction (performAll (statements entry state) state)
            with ⟨reached, ⟨left, split⟩, list, complete⟩
          refine ⟨entry :: reached, ⟨left, by simp [split]⟩, ?_, ?_⟩
          · rw [loopStatements, list]
          · intro finished
            rw [complete finished]

/-- A loop finishes when its bodies do in every state that they reach. -/
theorem issued_forEach_of_ok {Entry : Type}
    (invariant : State → Prop)
    (body : Entry → Program State Statement Error Unit)
    (statements : Entry → State → List Statement)
    (entries : List Entry)
    (issues : ∀ entry ∈ entries, ∀ state, invariant state →
      (body entry).issued state = (.ok (), statements entry state))
    (keeps : ∀ entry ∈ entries, ∀ state, invariant state →
      invariant (performAll (statements entry state) state))
    (state : State) (holds : invariant state) :
    (forEach body entries).issued state =
      (.ok (), loopStatements statements entries state) := by
  induction entries generalizing state with
  | nil => rfl
  | cons entry rest induction =>
      have first := List.mem_cons_self (a := entry) (l := rest)
      rw [forEach, issued_bind_of_ok (issues entry first state holds),
        induction
          (fun other member =>
            issues other (List.mem_cons_of_mem _ member))
          (fun other member =>
            keeps other (List.mem_cons_of_mem _ member))
          _ (keeps entry first state holds)]
      rfl

/-! ## Running a plain program alone -/

/-- A plain program leaves the transaction mark of its connection alone. -/
theorem exec_plain
    {program : Program State Statement Error Value}
    (plain : program.Plain) (connection : Connection State) :
    program.exec connection =
      match program.issued connection.state with
      | (.ok value, statements) =>
          (.ok value,
            { connection with
              state := performAll statements connection.state })
      | (.error error, statements) =>
          (.error error,
            ({ connection with
                state := performAll statements connection.state } :
              Connection State).rollback) := by
  induction program generalizing connection with
  | done => rfl
  | raise => rfl
  | read next induction =>
      exact induction connection.state (plain connection.state) connection
  | write statement next induction =>
      rw [exec, induction plain, issued]
      rcases next.issued (Store.perform statement connection.state) with
        ⟨answer, statements⟩
      cases answer <;> rfl
  | beginTransaction => exact plain.elim
  | commit => exact plain.elim

/-- Outside a transaction a plain program keeps what it has written. -/
theorem finalState_of_plain
    {program : Program State Statement Error Value}
    (plain : program.Plain) (state : State) :
    program.finalState state =
      performAll (program.issued state).2 state := by
  rw [finalState, exec_plain plain]
  rcases program.issued state with ⟨answer, statements⟩
  cases answer <;> rfl

theorem exec_bind
    (program : Program State Statement Error Value)
    (continuation : Value → Program State Statement Error Result)
    (connection : Connection State) :
    (program.bind continuation).exec connection =
      match program.exec connection with
      | (.ok value, after) => (continuation value).exec after
      | (.error error, after) => (.error error, after) := by
  induction program generalizing connection with
  | done => rfl
  | raise => rfl
  | read next induction => exact induction _ connection
  | write statement next induction => exact induction _
  | beginTransaction next induction => exact induction _
  | commit next induction => exact induction _

/--
A transaction alone either applies its whole body or, when the body raises,
leaves the state as it was.
-/
theorem exec_transaction
    {body : Program State Statement Error Value}
    (plain : body.Plain) (state : State) :
    body.transaction.exec ⟨state, none⟩ =
      match body.issued state with
      | (.ok value, statements) =>
          (.ok value, ⟨performAll statements state, none⟩)
      | (.error error, _) => (.error error, ⟨state, none⟩) := by
  rw [transaction, exec, exec_bind, exec_plain plain]
  rcases body.issued state with ⟨answer, statements⟩
  cases answer <;> rfl

@[simp]
theorem issued_transaction
    (body : Program State Statement Error Value) (state : State) :
    body.transaction.issued state = body.issued state := by
  rw [transaction, issued, issued_bind]
  rcases body.issued state with ⟨answer, statements⟩
  cases answer with
  | error error => rfl
  | ok value =>
      change (_, statements ++ []) = _
      rw [List.append_nil]
      rfl

/-! ## Atomic programs -/

/-- The statements that stay when an exception undoes all of them. -/
def committed (program : Program State Statement Error Value)
    (state : State) : List Statement :=
  match program.issued state with
  | (.ok _, statements) => statements
  | (.error _, _) => []

theorem committed_of_ok
    {program : Program State Statement Error Value}
    {state : State} {value : Value} {statements : List Statement}
    (issues : program.issued state = (.ok value, statements)) :
    program.committed state = statements := by
  rw [committed, issues]

theorem committed_of_error
    {program : Program State Statement Error Value}
    {state : State} {error : Error} {statements : List Statement}
    (issues : program.issued state = (.error error, statements)) :
    program.committed state = [] := by
  rw [committed, issues]

/-- Alone, a program commits its statements, or raises and commits none. -/
def Atomic (program : Program State Statement Error Value) : Prop :=
  ∀ state,
    program.exec ⟨state, none⟩ =
      ((program.issued state).1,
        ⟨performAll (program.committed state) state, none⟩)

theorem Atomic.finalState_eq
    {program : Program State Statement Error Value}
    (atomic : program.Atomic) (state : State) :
    program.finalState state =
      performAll (program.committed state) state := by
  rw [finalState, atomic state]

/-- Lookups may come before an atomic program. -/
theorem Atomic.ofExcept_bind
    (computed : Except Error Value)
    {continuation : Value → Program State Statement Error Result}
    (atomic : ∀ value, computed = .ok value →
      (continuation value).Atomic) :
    ((ofExcept computed).bind continuation).Atomic := by
  cases computed with
  | error error => exact fun state => rfl
  | ok value => exact atomic value rfl

/-- Statements that cannot raise may come after a transaction. -/
theorem Atomic.transaction_bind
    {body : Program State Statement Error Value}
    {continuation : Value → Program State Statement Error Result}
    (plain : body.Plain)
    (continues : ∀ value, (continuation value).Plain)
    (finishes : ∀ value state,
      ∃ result, ((continuation value).issued state).1 = .ok result) :
    (body.transaction.bind continuation).Atomic := by
  intro state
  rw [exec_bind, exec_transaction plain, committed]
  have issues := issued_transaction body state
  rcases equal : body.issued state with ⟨answer, statements⟩
  rw [equal] at issues
  cases answer with
  | error error =>
      rw [issued_bind_of_error issues]
      rfl
  | ok value =>
      rw [issued_bind_of_ok issues]
      change (continuation value).exec _ = _
      rw [exec_plain (continues value)]
      rcases finishes value (performAll statements state) with
        ⟨result, finished⟩
      rcases continued : (continuation value).issued
          (performAll statements state) with ⟨answer, rest⟩
      rw [continued] at finished
      change answer = _ at finished
      subst finished
      change _ = (_, (⟨performAll (statements ++ rest) state, none⟩ :
        Connection State))
      rw [performAll_append]

theorem atomic_transaction
    {body : Program State Statement Error Value}
    (plain : body.Plain) :
    body.transaction.Atomic := by
  intro state
  rw [exec_transaction plain, committed, issued_transaction]
  rcases body.issued state with ⟨answer, statements⟩
  cases answer <;> rfl

end Program

end SultanPass.Library
