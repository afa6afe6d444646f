import SultanPass.Library.Session
import Mathlib.Data.Fintype.Card

/-!
# Transactions in the order of their commits

Sessions that each run one transaction leave a log: who has committed, in
which order, and on which snapshot.  Replaying the log, every transaction
with the statements it issues alone on its snapshot, gives the shared state.
Each snapshot is itself the replay of an earlier part of the log.

`replays_run` proves this for every schedule.
-/

namespace SultanPass.Library

open SultanPass.Library.Program

variable {Index State Statement Error Value : Type}
variable [Store State Statement]

section Log

variable (body : Index → Program State Statement Error Value)
variable (state : State)

/-- The state after the commits of a log, each with its snapshot. -/
def replay (commits : List (Index × State)) : State :=
  commits.foldl
    (fun after commit =>
      performAll ((body commit.1).issued commit.2).2 after)
    state

/-- What the session of an index looks like while the log grows. -/
inductive Phase (commits : List (Index × State)) (index : Index) :
    Session State Statement Error Value → Prop where
  | waiting
      (unlisted : index ∉ commits.map Prod.fst) :
      Phase commits index (Session.start (body index).transaction)
  | inFlight
      (snapshot : State) (writes : List Statement)
      (rest : Program State Statement Error Value)
      (unlisted : index ∉ commits.map Prod.fst)
      (taken : ∃ seen, seen <+: commits ∧
        snapshot = replay body state seen)
      (plain : rest.Plain)
      (continues :
        (body index).issued snapshot =
          ((rest.issued (performAll writes snapshot)).1,
            writes ++
              (rest.issued (performAll writes snapshot)).2)) :
      Phase commits index
        { program := rest.bind fun value => .commit (.done value)
          transaction :=
            some { snapshot := snapshot, writes := writes } }
  | finished
      (value : Value) (listed : index ∈ commits.map Prod.fst) :
      Phase commits index
        { program := .done value, transaction := none }
  | failed
      (error : Error) (unlisted : index ∉ commits.map Prod.fst) :
      Phase commits index
        { program := .raise error, transaction := none }

/-- A system whose shared state is the replay of a log. -/
structure Replays (commits : List (Index × State))
    (system : System Index State Statement Error Value) : Prop where
  shared : system.shared = replay body state commits
  once : (commits.map Prod.fst).Nodup
  returned :
    ∀ commit ∈ commits, ∃ value,
      ((body commit.1).issued commit.2).1 = .ok value
  snapshots :
    ∀ earlier commit later,
      commits = earlier ++ commit :: later →
        ∃ seen, seen <+: earlier ∧ commit.2 = replay body state seen
  phases :
    ∀ index, Phase body state commits index (system.sessions index)

end Log

variable {body : Index → Program State Statement Error Value}
variable {state : State}

theorem replay_concat
    (commits : List (Index × State)) (commit : Index × State) :
    replay body state (commits ++ [commit]) =
      performAll ((body commit.1).issued commit.2).2
        (replay body state commits) := by
  simp [replay]

/-- The commit of one session leaves the phases of the others. -/
theorem Phase.extend
    {commits : List (Index × State)} {index other : Index}
    {session : Session State Statement Error Value}
    (phase : Phase body state commits other session)
    (different : other ≠ index) (snapshot : State) :
    Phase body state (commits ++ [(index, snapshot)]) other
      session := by
  have stillUnlisted :
      other ∉ commits.map Prod.fst →
        other ∉ (commits ++ [(index, snapshot)]).map Prod.fst := by
    intro unlisted listed
    rw [List.map_append, List.mem_append] at listed
    rcases listed with old | new
    · exact unlisted old
    · exact different (List.mem_singleton.mp new)
  cases phase with
  | waiting unlisted => exact .waiting (stillUnlisted unlisted)
  | inFlight taken writes rest unlisted isTaken plain continues =>
      rcases isTaken with ⟨seen, isPrefix, equal⟩
      exact
        .inFlight taken writes rest (stillUnlisted unlisted)
          ⟨seen, isPrefix.trans (List.prefix_append _ _), equal⟩ plain
          continues
  | finished value listed =>
      apply Phase.finished value
      rw [List.map_append]
      exact List.mem_append_left _ listed
  | failed error unlisted => exact .failed error (stillUnlisted unlisted)

theorem replays_start :
    Replays body state []
      (System.start (fun index => (body index).transaction) state) where
  shared := rfl
  once := List.nodup_nil
  returned := nofun
  snapshots := by
    intro earlier commit later split
    simp at split
  phases := fun index => .waiting List.not_mem_nil

/-- A session that has returned is in the log. -/
theorem Replays.listed_of_result
    {commits : List (Index × State)}
    {system : System Index State Statement Error Value}
    (replays : Replays body state commits system)
    {index : Index} {value : Value}
    (returned : (system.sessions index).result? = some value) :
    index ∈ commits.map Prod.fst := by
  have phase := replays.phases index
  generalize system.sessions index = session at phase returned
  cases phase with
  | waiting => cases returned
  | inFlight snapshot writes rest => cases rest <;> cases returned
  | finished result listed => exact listed
  | failed => cases returned

section Steps

variable [DecidableEq Index]

/-- One session moves on without a commit. -/
theorem Replays.move
    {commits : List (Index × State)}
    {system after : System Index State Statement Error Value}
    (replays : Replays body state commits system)
    {index : Index} {session : Session State Statement Error Value}
    (shared : after.shared = system.shared)
    (sessions :
      after.sessions = Function.update system.sessions index session)
    (phase : Phase body state commits index session) :
    Replays body state commits after where
  shared := shared.trans replays.shared
  once := replays.once
  returned := replays.returned
  snapshots := replays.snapshots
  phases := by
    intro other
    rw [sessions]
    by_cases own : other = index
    · subst own
      rw [Function.update_self]
      exact phase
    · rw [Function.update_of_ne own]
      exact replays.phases other

/-- One session commits. -/
theorem Replays.commit
    {commits : List (Index × State)}
    {system after : System Index State Statement Error Value}
    (replays : Replays body state commits system)
    {index : Index} {snapshot : State} {value : Value}
    (unlisted : index ∉ commits.map Prod.fst)
    (taken : ∃ seen, seen <+: commits ∧
      snapshot = replay body state seen)
    (returned : ((body index).issued snapshot).1 = .ok value)
    (shared :
      after.shared =
        performAll ((body index).issued snapshot).2 system.shared)
    (sessions :
      after.sessions =
        Function.update system.sessions index
          { program := .done value, transaction := none }) :
    Replays body state (commits ++ [(index, snapshot)]) after where
  shared := by rw [shared, replays.shared, replay_concat]
  once := by
    rw [List.map_append, List.map_singleton, ← List.concat_eq_append]
    exact replays.once.concat unlisted
  returned := by
    intro commit member
    rcases List.mem_append.mp member with old | new
    · exact replays.returned commit old
    · rw [List.mem_singleton.mp new]
      exact ⟨value, returned⟩
  snapshots := by
    intro earlier commit later split
    rcases List.eq_nil_or_concat later with none | ⟨front, last, equal⟩
    · subst none
      have parts := List.append_inj' split rfl
      have sameCommit := List.cons.inj parts.2
      rw [← parts.1, ← sameCommit.1]
      exact taken
    · subst equal
      apply replays.snapshots earlier commit front
      rw [List.concat_eq_append, ← List.cons_append,
        ← List.append_assoc] at split
      exact (List.append_inj' split rfl).1
  phases := by
    intro other
    rw [sessions]
    by_cases own : other = index
    · subst own
      rw [Function.update_self]
      apply Phase.finished value
      rw [List.map_append]
      exact List.mem_append_right _ (List.mem_singleton_self _)
    · rw [Function.update_of_ne own]
      exact (replays.phases other).extend own snapshot

variable [Fintype Index]

/-- A turn keeps the log, or adds one commit to it. -/
theorem Replays.step
    (plain : ∀ index, (body index).Plain)
    {commits : List (Index × State)}
    {system : System Index State Statement Error Value}
    (replays : Replays body state commits system) (index : Index) :
    ∃ extended, Replays body state extended (system.step index) := by
  rcases system.step_cases index with
    passes | ⟨session, shared, steps, sharedEqual, sessionsEqual⟩
  · rw [passes]
    exact ⟨commits, replays⟩
  have phase := replays.phases index
  rcases current : system.sessions index with ⟨program, transaction⟩
  rw [current] at steps phase
  cases phase with
  | waiting unlisted =>
      cases steps
      refine ⟨commits, replays.move sharedEqual sessionsEqual ?_⟩
      apply Phase.inFlight _ [] (body index) unlisted
      · exact ⟨commits, List.prefix_rfl, replays.shared⟩
      · exact plain index
      · rfl
  | finished value listed => cases steps
  | failed error unlisted => cases steps
  | inFlight snapshot writes rest unlisted taken restPlain continues =>
      cases rest with
      | done value =>
          cases steps
          refine
            ⟨commits ++ [(index, snapshot)],
              replays.commit unlisted taken ?_ ?_ sessionsEqual⟩
          · rw [continues]
            rfl
          · rw [sharedEqual, continues]
            change performAll writes _ = performAll (writes ++ []) _
            rw [List.append_nil]
      | raise error =>
          cases steps
          exact
            ⟨commits,
              replays.move sharedEqual sessionsEqual
                (.failed error unlisted)⟩
      | read next =>
          cases steps
          exact
            ⟨commits,
              replays.move sharedEqual sessionsEqual
                (.inFlight snapshot writes _ unlisted taken
                  (restPlain _) continues)⟩
      | write statement next =>
          rw [Session.step] at steps
          dsimp only [Program.bind] at steps
          split_ifs at steps
          cases steps
          refine ⟨commits, replays.move sharedEqual sessionsEqual ?_⟩
          apply
            Phase.inFlight snapshot (writes ++ [statement]) next
              unlisted taken restPlain
          rw [continues, performAll_append, List.append_assoc]
          rfl
      | beginTransaction next => exact restPlain.elim
      | commit next => exact restPlain.elim

/-- Whatever the schedule, the shared state is the replay of a log. -/
theorem replays_run
    (plain : ∀ index, (body index).Plain) (schedule : List Index) :
    ∃ commits,
      Replays body state commits
        ((System.start (fun index => (body index).transaction)
          state).run schedule) := by
  induction schedule using List.reverseRecOn with
  | nil => exact ⟨[], replays_start⟩
  | append_singleton schedule index induction =>
      rcases induction with ⟨commits, replays⟩
      rw [System.run_concat]
      exact replays.step plain index

end Steps

/--
The log of two sessions that have both committed: the first on the initial
state, the second on the initial state or on the state after the first.
-/
theorem Replays.of_two
    {body : Fin 2 → Program State Statement Error Value}
    {commits : List (Fin 2 × State)}
    {system : System (Fin 2) State Statement Error Value}
    (replays : Replays body state commits system)
    (listed : ∀ index, index ∈ commits.map Prod.fst) :
    ∃ earlier later snapshot,
      earlier ≠ later ∧
        commits = [(earlier, state), (later, snapshot)] ∧
        (snapshot = state ∨
          snapshot =
            performAll ((body earlier).issued state).2 state) := by
  have short : commits.length ≤ 2 := by
    simpa using replays.once.length_le_card
  rcases commits with _ | ⟨first, _ | ⟨second, _ | ⟨third, rest⟩⟩⟩
  · exact (List.not_mem_nil (listed 0)).elim
  · have isZero : 0 = first.1 := by simpa using listed 0
    have isOne : 1 = first.1 := by simpa using listed 1
    exact absurd (isZero.trans isOne.symm) (by decide)
  · rcases replays.snapshots [] first [second] rfl with
      ⟨seen, isPrefix, firstSnapshot⟩
    rw [List.prefix_nil.mp isPrefix] at firstSnapshot
    have firstEqual : first = (first.1, state) :=
      Prod.ext rfl firstSnapshot
    have different : first.1 ≠ second.1 := by
      intro same
      have distinct := replays.once
      simp [same] at distinct
    refine ⟨first.1, second.1, second.2, different, ?_, ?_⟩
    · rw [← firstEqual]
    · rcases replays.snapshots [first] second [] rfl with
        ⟨seenLater, isPrefixLater, secondSnapshot⟩
      rcases seenLater with _ | ⟨seenFirst, seenRest⟩
      · exact Or.inl secondSnapshot
      · rcases List.cons_prefix_cons.mp isPrefixLater with
          ⟨sameFirst, restPrefix⟩
        rw [List.prefix_nil.mp restPrefix, sameFirst, firstEqual]
          at secondSnapshot
        exact Or.inr secondSnapshot
  · simp at short

end SultanPass.Library
