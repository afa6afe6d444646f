import SultanPass.Library.GuardedRun
import Mathlib.Logic.Function.Basic

/-!
# Parties that load and then act

Each of any number of parties takes two steps.  It loads something from the
shared state, and stops there if it does not like what it finds.  Later it
acts on what it has loaded, in one transaction that may fail and then
changes nothing.  Between the two steps other parties may act.

`Current` says that a party about to act would still load the same.  A run
whose steps are all current is as good as its log, in which every party
loads and acts without a pause (`serial_of_current`).
-/

namespace SultanPass.Library

variable {Index State Loaded : Type}

/-- The two steps of a party. -/
structure Handler (State Loaded : Type) where
  load : State → Option Loaded
  act : Loaded → State → Option State

/-- How far a party is. -/
inductive Progress (Loaded : Type) where
  | ready
  | loaded (value : Loaded)
  | finished
deriving DecidableEq

/-- What a party is about to act on. -/
def Progress.loaded? : Progress Loaded → Option Loaded
  | .loaded value => some value
  | _ => none

theorem Progress.mem_loaded?_iff
    {progress : Progress Loaded} {value : Loaded} :
    value ∈ progress.loaded? ↔ progress = .loaded value := by
  cases progress with
  | loaded other =>
      rw [loaded?, Option.mem_some_iff, Progress.loaded.injEq]
  | _ =>
      constructor
      · nofun
      · nofun

/-- The shared state, the parties, and who acted on what so far. -/
structure Parties (Index State Loaded : Type) where
  shared : State
  phases : Index → Progress Loaded
  log : List (Index × Loaded)

namespace Parties

def start (state : State) : Parties Index State Loaded where
  shared := state
  phases := fun _ => .ready
  log := []

variable [DecidableEq Index]

/-- The phase of a party after its first step. -/
def afterLoad : Option Loaded → Progress Loaded
  | none => .finished
  | some value => .loaded value

/-- The parties after the next step of one of them. -/
def step (handlers : Index → Handler State Loaded)
    (parties : Parties Index State Loaded) (index : Index) :
    Parties Index State Loaded :=
  match parties.phases index with
  | .ready =>
      { parties with
        phases :=
          Function.update parties.phases index
            (afterLoad ((handlers index).load parties.shared)) }
  | .loaded value =>
      match (handlers index).act value parties.shared with
      | none =>
          { parties with
            phases := Function.update parties.phases index .finished }
      | some shared =>
          { shared := shared
            phases := Function.update parties.phases index .finished
            log := parties.log ++ [(index, value)] }
  | .finished => parties

def run (handlers : Index → Handler State Loaded)
    (parties : Parties Index State Loaded) (schedule : List Index) :
    Parties Index State Loaded :=
  schedule.foldl (step handlers) parties

variable {handlers : Index → Handler State Loaded}

/-- A step changes the shared state by the action of its party, if any. -/
theorem shared_step (parties : Parties Index State Loaded)
    (index : Index) :
    (parties.step handlers index).shared =
      ((parties.phases index).loaded?.bind fun value =>
        (handlers index).act value parties.shared).getD
          parties.shared := by
  rw [step]
  cases parties.phases index with
  | ready => rfl
  | loaded value =>
      change _ = ((handlers index).act value parties.shared).getD _
      dsimp only
      cases (handlers index).act value parties.shared with
      | none => rfl
      | some shared => rfl
  | finished => rfl

/-- What one step of a party can do. -/
theorem step_cases (parties : Parties Index State Loaded)
    (index : Index) :
    (parties.step handlers index).shared = parties.shared ∧
        (parties.step handlers index).log = parties.log ∧
        (∀ other value,
          (parties.step handlers index).phases other = .loaded value →
          parties.phases other = .loaded value ∨
            other = index ∧
              (handlers index).load parties.shared = some value) ∨
      ∃ value shared,
        parties.phases index = .loaded value ∧
          (handlers index).act value parties.shared = some shared ∧
          parties.step handlers index =
            { shared := shared
              phases := Function.update parties.phases index .finished
              log := parties.log ++ [(index, value)] } := by
  have passes (phase : Progress Loaded)
      (isLoaded :
        ∀ value, phase = .loaded value →
          (handlers index).load parties.shared = some value) :
      ∀ other value,
        Function.update parties.phases index phase other =
            .loaded value →
          parties.phases other = .loaded value ∨
            other = index ∧
              (handlers index).load parties.shared = some value := by
    intro other value equal
    by_cases own : other = index
    · subst own
      rw [Function.update_self] at equal
      exact Or.inr ⟨rfl, isLoaded value equal⟩
    · rw [Function.update_of_ne own] at equal
      exact Or.inl equal
  rw [step]
  cases phase : parties.phases index with
  | ready =>
      apply Or.inl
      refine ⟨rfl, rfl, passes _ ?_⟩
      intro value equal
      cases found : (handlers index).load parties.shared with
      | none =>
          rw [found] at equal
          cases equal
      | some loaded =>
          rw [found] at equal
          injection equal with same
          rw [same]
  | loaded value =>
      dsimp only
      cases acted : (handlers index).act value parties.shared with
      | none => exact Or.inl ⟨rfl, rfl, passes .finished nofun⟩
      | some shared => exact Or.inr ⟨value, shared, rfl, acted, rfl⟩
  | finished => exact Or.inl ⟨rfl, rfl, fun _ _ equal => Or.inl equal⟩

/-- A party about to act would still load what it has loaded. -/
def Current (handlers : Index → Handler State Loaded)
    (parties : Parties Index State Loaded) (index : Index) : Prop :=
  ∀ value ∈ (parties.phases index).loaded?,
    (handlers index).load parties.shared = some value

/-- Parties that load and act one after another, without pauses. -/
inductive Serial (handlers : Index → Handler State Loaded)
    (state : State) : List (Index × Loaded) → State → Prop where
  | start : Serial handlers state [] state
  | act {log : List (Index × Loaded)} {shared after : State}
      {index : Index} {value : Loaded}
      (before : Serial handlers state log shared)
      (loads : (handlers index).load shared = some value)
      (acts : (handlers index).act value shared = some after) :
      Serial handlers state (log ++ [(index, value)]) after

theorem Serial.step {state : State}
    {parties : Parties Index State Loaded}
    (serial : Serial handlers state parties.log parties.shared)
    {index : Index} (current : Current handlers parties index) :
    Serial handlers state (parties.step handlers index).log
      (parties.step handlers index).shared := by
  rcases parties.step_cases index with
    ⟨sameState, sameLog, _⟩ | ⟨value, shared, isLoaded, acts, after⟩
  · rw [sameState, sameLog]
    exact serial
  · rw [after]
    exact
      serial.act (current value (Progress.mem_loaded?_iff.mpr isLoaded))
        acts

/-- A run of current steps leaves what its log does serially. -/
theorem serial_of_current {state : State} {schedule : List Index}
    (current :
      Throughout (step handlers) (Current handlers) (start state)
        schedule) :
    Serial handlers state ((start state).run handlers schedule).log
      ((start state).run handlers schedule).shared :=
  invariant_of_throughout
    (motive := fun parties =>
      Serial handlers state parties.log parties.shared)
    (fun _ _ serial isCurrent => serial.step isCurrent)
    Serial.start current

end Parties

end SultanPass.Library
