import SultanPass.Library.Program
import Mathlib.Data.Fintype.Basic
import Mathlib.Logic.Function.Basic

/-!
# Programs next to each other

A `System` is a shared state and one session for each index.  A session is
what is left of its program, with its open transaction.  A transaction reads
the snapshot taken at its beginning with its own writes applied, and its
writes reach the shared state at the commit; outside a transaction, reads
and writes go to the shared state at once.

A write waits while another session holds a write of the same row, so
conflicting writes are serialised.  A schedule lists the sessions in the
order in which they take steps; a session that has ended or has to wait lets
its turn pass.
-/

namespace SultanPass.Library

variable {Index State Statement Error Value : Type}

/-- An open transaction: its snapshot, and its own writes so far. -/
structure Transaction (State Statement : Type) where
  snapshot : State
  writes : List Statement

/-- The rest of a program, with its open transaction. -/
structure Session (State Statement Error Value : Type) where
  program : Program State Statement Error Value
  transaction : Option (Transaction State Statement)

namespace Session

/-- A session before its first statement. -/
def start (program : Program State Statement Error Value) :
    Session State Statement Error Value where
  program := program
  transaction := none

/-- The writes that are not committed yet. -/
def pending (session : Session State Statement Error Value) :
    List Statement :=
  match session.transaction with
  | none => []
  | some transaction => transaction.writes

/-- The value of a program that has finished. -/
def result? (session : Session State Statement Error Value) :
    Option Value :=
  match session.program with
  | .done value => some value
  | _ => none

variable [Store State Statement]

/-- The state that a session reads. -/
def view (session : Session State Statement Error Value)
    (shared : State) : State :=
  match session.transaction with
  | none => shared
  | some transaction =>
      Program.performAll transaction.writes transaction.snapshot

/-- The next statement, unless the session has ended or has to wait. -/
def step (locked : Statement → Bool)
    (session : Session State Statement Error Value) (shared : State) :
    Option (Session State Statement Error Value × State) :=
  match session.program with
  | .done _ => none
  | .raise error =>
      match session.transaction with
      | none => none
      | some _ =>
          some ({ program := .raise error, transaction := none }, shared)
  | .read next =>
      some
        ({ program := next (session.view shared)
           transaction := session.transaction },
          shared)
  | .write statement next =>
      if locked statement then none
      else
        match session.transaction with
        | none =>
            some
              ({ program := next, transaction := none },
                Store.perform statement shared)
        | some transaction =>
            some
              ({ program := next
                 transaction :=
                  some
                    { snapshot := transaction.snapshot
                      writes := transaction.writes ++ [statement] } },
                shared)
  | .beginTransaction next =>
      some
        ({ program := next
           transaction := some { snapshot := shared, writes := [] } },
          shared)
  | .commit next =>
      some
        ({ program := next, transaction := none },
          Program.performAll session.pending shared)

end Session

/-! ## Systems of sessions -/

/-- A shared state, and the sessions that work on it. -/
structure System (Index State Statement Error Value : Type) where
  shared : State
  sessions : Index → Session State Statement Error Value

namespace System

/-- All programs before their first statement. -/
def start
    (programs : Index → Program State Statement Error Value)
    (state : State) :
    System Index State Statement Error Value where
  shared := state
  sessions := fun index => Session.start (programs index)

variable [Store State Statement] [Fintype Index] [DecidableEq Index]

/-- Another session holds a write of the same row. -/
def locked (system : System Index State Statement Error Value)
    (index : Index) (statement : Statement) : Bool :=
  decide
    (∃ other, other ≠ index ∧
      ((system.sessions other).pending.any
        (Store.sameRow State statement)) = true)

/-- The turn of one session. -/
def step (system : System Index State Statement Error Value)
    (index : Index) : System Index State Statement Error Value :=
  match
    (system.sessions index).step (system.locked index)
      system.shared with
  | none => system
  | some (session, shared) =>
      { shared := shared
        sessions := Function.update system.sessions index session }

/-- The turns of a schedule. -/
def run (schedule : List Index)
    (system : System Index State Statement Error Value) :
    System Index State Statement Error Value :=
  schedule.foldl step system

/-- A turn passes, or the session takes one step. -/
theorem step_cases
    (system : System Index State Statement Error Value)
    (index : Index) :
    system.step index = system ∨
      ∃ session shared,
        (system.sessions index).step (system.locked index)
            system.shared = some (session, shared) ∧
          (system.step index).shared = shared ∧
          (system.step index).sessions =
            Function.update system.sessions index session := by
  rw [step]
  cases (system.sessions index).step (system.locked index)
      system.shared with
  | none => exact Or.inl rfl
  | some result => exact Or.inr ⟨result.1, result.2, rfl, rfl, rfl⟩

theorem run_concat
    (schedule : List Index) (index : Index)
    (system : System Index State Statement Error Value) :
    system.run (schedule ++ [index]) = (system.run schedule).step index := by
  simp [run]

end System

end SultanPass.Library
