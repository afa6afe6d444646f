import Mathlib.Data.List.Basic

/-!
# Runs whose steps meet a condition

A run folds a step function over a list of events.  `Throughout` says that
every step of a run meets a condition on its event and on the state before
it; `invariant_of_throughout` carries an invariant along such a run.
-/

namespace SultanPass.Library

variable {State Event : Type}

/-- Every step of the run from a state meets the condition. -/
def Throughout
    (step : State → Event → State)
    (condition : State → Event → Prop) :
    State → List Event → Prop
  | _, [] => True
  | state, event :: rest =>
      condition state event ∧
        Throughout step condition (step state event) rest

instance decidableThroughout
    (step : State → Event → State)
    (condition : State → Event → Prop)
    [∀ state event, Decidable (condition state event)] :
    (state : State) → (events : List Event) →
      Decidable (Throughout step condition state events)
  | _, [] => inferInstanceAs (Decidable True)
  | state, event :: rest =>
      @instDecidableAnd _ _ _
        (decidableThroughout step condition (step state event) rest)

/-- What each step keeps under the condition, the whole run keeps. -/
theorem invariant_of_throughout
    {step : State → Event → State}
    {condition : State → Event → Prop}
    {motive : State → Prop}
    (preserved :
      ∀ state event, motive state → condition state event →
        motive (step state event))
    {state : State} {events : List Event}
    (initially : motive state)
    (meets : Throughout step condition state events) :
    motive (events.foldl step state) := by
  induction events generalizing state with
  | nil => exact initially
  | cons event rest induction =>
      exact
        induction (preserved state event initially meets.1) meets.2

/-- A condition that implies another one on the states of a run. -/
theorem Throughout.imp
    {step : State → Event → State}
    {condition weaker : State → Event → Prop}
    {motive : State → Prop}
    (preserved :
      ∀ state event, motive state → condition state event →
        motive (step state event))
    (implies :
      ∀ state event, motive state → condition state event →
        weaker state event)
    {state : State} {events : List Event}
    (initially : motive state)
    (meets : Throughout step condition state events) :
    Throughout step weaker state events := by
  induction events generalizing state with
  | nil => exact True.intro
  | cons event rest induction =>
      exact
        ⟨implies state event initially meets.1,
          induction (preserved state event initially meets.1) meets.2⟩

/--
What one step keeps exactly under the condition, and never gives back, the
whole run keeps exactly under the condition.  The invariant holds anyway.
-/
theorem foldl_iff_throughout
    {step : State → Event → State}
    {condition : State → Event → Prop}
    {invariant motive : State → Prop}
    (preserved :
      ∀ state event, invariant state → invariant (step state event))
    (exactly :
      ∀ state event, invariant state → motive state →
        (motive (step state event) ↔ condition state event))
    (lost :
      ∀ state event, invariant state → ¬ motive state →
        ¬ motive (step state event))
    {state : State} (holds : invariant state) (initially : motive state)
    (events : List Event) :
    motive (events.foldl step state) ↔
      Throughout step condition state events := by
  have staysLost :
      ∀ (rest : List Event) (reached : State), invariant reached →
        ¬ motive reached → ¬ motive (rest.foldl step reached) := by
    intro rest
    induction rest with
    | nil =>
        intro reached _ gone
        exact gone
    | cons event rest induction =>
        intro reached isInvariant gone
        exact
          induction (step reached event)
            (preserved reached event isInvariant)
            (lost reached event isInvariant gone)
  induction events generalizing state with
  | nil => exact iff_of_true initially True.intro
  | cons event rest induction =>
      rw [List.foldl_cons]
      by_cases next : motive (step state event)
      · have later := induction (preserved state event holds) next
        constructor
        · intro kept
          exact
            ⟨(exactly state event holds initially).mp next,
              later.mp kept⟩
        · rintro ⟨_, meets⟩
          exact later.mpr meets
      · constructor
        · intro kept
          exact
            (staysLost rest _ (preserved state event holds) next
              kept).elim
        · rintro ⟨meets, _⟩
          exact
            (next
              ((exactly state event holds initially).mpr meets)).elim

/--
What one step keeps exactly under the condition holds in every state of a
run exactly when all its steps meet the condition.
-/
theorem forall_reached_iff_throughout
    {step : State → Event → State}
    {condition : State → Event → Prop} {motive : State → Prop}
    (exactly :
      ∀ state event, motive state →
        (motive (step state event) ↔ condition state event))
    {state : State} (initially : motive state) (events : List Event) :
    (∀ begun, begun <+: events → motive (begun.foldl step state)) ↔
      Throughout step condition state events := by
  induction events generalizing state with
  | nil =>
      constructor
      · intro _
        exact True.intro
      · intro _ begun isPrefix
        rw [List.prefix_nil.mp isPrefix]
        exact initially
  | cons event rest induction =>
      constructor
      · intro always
        have next : motive (step state event) :=
          always [event] ((List.prefix_cons_inj event).mpr
            List.nil_prefix)
        refine ⟨(exactly state event initially).mp next, ?_⟩
        apply (induction next).mp
        intro begun isPrefix
        exact
          always (event :: begun)
            ((List.prefix_cons_inj event).mpr isPrefix)
      · rintro ⟨meets, later⟩ begun isPrefix
        cases begun with
        | nil => exact initially
        | cons first others =>
            rcases List.cons_prefix_cons.mp isPrefix with
              ⟨rfl, isLater⟩
            exact
              (induction
                  ((exactly state first initially).mpr meets)).mpr
                later others isLater

end SultanPass.Library
