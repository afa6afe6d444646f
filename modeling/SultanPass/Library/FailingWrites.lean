import SultanPass.Library.Program

/-!
# Programs with a throwing write

`execFailing` runs a program alone, and one of its writes throws.  The writes
are numbered from 0 in the order in which they are issued; a fault beyond the
last write, or none, leaves the run as it is.

Without a transaction the earlier writes stay (`execFailing_plain`).  In a
transaction they do not (`execFailing_transaction`).
-/

namespace SultanPass.Library.Program

variable {State Statement Error Value Result : Type}
  [Store State Statement]

/-- Run a program of which the write with the number of the fault throws. -/
def execFailing (thrown : Error) :
    Program State Statement Error Value → Option ℕ →
    Connection State → Except Error Value × Connection State
  | .done value, _, connection => (.ok value, connection)
  | .raise error, _, connection => (.error error, connection.rollback)
  | .read next, fault, connection =>
      (next connection.state).execFailing thrown fault connection
  | .write _ _, some 0, connection =>
      (.error thrown, connection.rollback)
  | .write statement next, some (later + 1), connection =>
      next.execFailing thrown (some later)
        { connection with
          state := Store.perform statement connection.state }
  | .write statement next, none, connection =>
      next.execFailing thrown none
        { connection with
          state := Store.perform statement connection.state }
  | .beginTransaction next, fault, connection =>
      next.execFailing thrown fault
        { connection with saved := some connection.state }
  | .commit next, fault, connection =>
      next.execFailing thrown fault { connection with saved := none }

/-- Without a fault it is the ordinary run. -/
@[simp]
theorem execFailing_none (thrown : Error)
    (program : Program State Statement Error Value)
    (connection : Connection State) :
    program.execFailing thrown none connection =
      program.exec connection := by
  induction program generalizing connection with
  | done => rfl
  | raise => rfl
  | read next induction => exact induction _ connection
  | write statement next induction => exact induction _
  | beginTransaction next induction => exact induction _
  | commit next induction => exact induction _

omit [Store State Statement] in
theorem bind_done (program : Program State Statement Error Value) :
    program.bind .done = program := by
  induction program with
  | done => rfl
  | raise => rfl
  | read next induction => exact congrArg _ (funext induction)
  | write statement next induction => exact congrArg _ induction
  | beginTransaction next induction => exact congrArg _ induction
  | commit next induction => exact congrArg _ induction

/-- What follows a plain part that does not throw sees the later faults. -/
theorem execFailing_bind (thrown : Error)
    {program : Program State Statement Error Value}
    (plain : program.Plain)
    (continuation : Value → Program State Statement Error Result)
    (fault : ℕ) (connection : Connection State) :
    (program.bind continuation).execFailing thrown (some fault)
        connection =
      if fault < (program.issued connection.state).2.length then
        (.error thrown,
          ({ connection with
              state :=
                performAll
                  ((program.issued connection.state).2.take fault)
                  connection.state } :
            Connection State).rollback)
      else
        match program.exec connection with
        | (.ok value, after) =>
            (continuation value).execFailing thrown
              (some
                (fault - (program.issued connection.state).2.length))
              after
        | (.error error, after) => (.error error, after) := by
  induction program generalizing connection fault with
  | done => rfl
  | raise => rfl
  | read next induction =>
      exact induction connection.state (plain connection.state) fault
        connection
  | write statement next induction =>
      cases fault with
      | zero => rfl
      | succ later =>
          change
            (next.bind continuation).execFailing thrown (some later) _ = _
          rw [induction plain]
          simp only [issued, List.length_cons, Nat.succ_lt_succ_iff,
            List.take_succ_cons, performAll_cons, Nat.succ_sub_succ, exec]
  | beginTransaction => exact plain.elim
  | commit => exact plain.elim

/-- Without a transaction the writes before the throwing one stay. -/
theorem execFailing_plain (thrown : Error)
    {program : Program State Statement Error Value}
    (plain : program.Plain) (fault : ℕ)
    (connection : Connection State) :
    program.execFailing thrown (some fault) connection =
      if fault < (program.issued connection.state).2.length then
        (.error thrown,
          ({ connection with
              state :=
                performAll
                  ((program.issued connection.state).2.take fault)
                  connection.state } :
            Connection State).rollback)
      else program.exec connection := by
  have same := execFailing_bind thrown plain .done fault connection
  rw [bind_done] at same
  rw [same]
  split_ifs with throws
  · rfl
  · rcases program.exec connection with ⟨answer, after⟩
    cases answer <;> rfl

/-- In a transaction no write stays when one throws. -/
theorem execFailing_transaction (thrown : Error)
    {body : Program State Statement Error Value}
    (plain : body.Plain) (fault : ℕ) (state : State) :
    body.transaction.execFailing thrown (some fault) ⟨state, none⟩ =
      if fault < (body.issued state).2.length then
        (.error thrown, ⟨state, none⟩)
      else body.transaction.exec ⟨state, none⟩ := by
  change
    (body.bind fun value => .commit (.done value)).execFailing thrown
        (some fault) ⟨state, some state⟩ = _
  rw [execFailing_bind thrown plain]
  split_ifs with throws
  · rfl
  · rw [transaction, exec, exec_bind]
    cases body.exec ⟨state, some state⟩ with
    | mk answer after =>
        cases answer with
        | error error => rfl
        | ok value => rfl

end SultanPass.Library.Program
