import Mathlib.Data.List.Basic

/-!
# Loops over computations that may raise

A loop that evaluates one computation for each entry, and folds its values
into an accumulator, raises the first exception or folds all the values.
-/

namespace SultanPass.Library

variable {Error Entry Value State Row : Type}

/-- A sequence returns when both of its computations return. -/
theorem bind_eq_ok_iff
    {first : Except Error Value} {next : Value → Except Error State}
    {result : State} :
    (first >>= next) = .ok result ↔
      ∃ value, first = .ok value ∧ next value = .ok result := by
  cases first with
  | error error =>
      constructor
      · intro returns
        cases returns
      · rintro ⟨value, returns, _⟩
        cases returns
  | ok value =>
      constructor
      · intro returns
        exact ⟨value, rfl, returns⟩
      · rintro ⟨_, ⟨⟩, returns⟩
        exact returns

theorem map_eq_ok_iff
    {returned : Except Error Value} {change : Value → State}
    {result : State} :
    returned.map change = .ok result ↔
      ∃ value, returned = .ok value ∧ change value = result := by
  cases returned with
  | error error => simp [Except.map]
  | ok value => simp [Except.map]

@[simp]
theorem toOption_eq_some_iff {returned : Except Error Value}
    {value : Value} :
    returned.toOption = some value ↔ returned = .ok value := by
  cases returned with
  | error error => simp [Except.toOption]
  | ok other => simp [Except.toOption]

/-- Evaluating and folding in one loop is evaluating all, then folding. -/
theorem foldlM_eq_mapM_foldl
    (evaluate : Entry → Except Error Value)
    (add : State → Value → State)
    (entries : List Entry) (initial : State) :
    entries.foldlM
        (fun state entry => do
          let value ← evaluate entry
          Except.ok (add state value))
        initial =
      (do
        let values ← entries.mapM evaluate
        Except.ok (values.foldl add initial)) := by
  induction entries generalizing initial with
  | nil => rfl
  | cons entry rest induction =>
      simp only [List.foldlM_cons, List.mapM_cons]
      cases evaluate entry with
      | error error => rfl
      | ok value =>
          change
            rest.foldlM _ (add initial value) = _
          rw [induction]
          cases rest.mapM evaluate <;> rfl

/-- A loop without exceptions returns the value of every entry. -/
theorem mapM_eq_ok_map
    (evaluate : Entry → Except Error Value) (value : Entry → Value)
    (entries : List Entry)
    (evaluates : ∀ entry ∈ entries,
      evaluate entry = .ok (value entry)) :
    entries.mapM evaluate = .ok (entries.map value) := by
  induction entries with
  | nil => rfl
  | cons entry rest induction =>
      rw [List.mapM_cons, evaluates entry List.mem_cons_self,
        induction fun other member =>
          evaluates other (List.mem_cons_of_mem _ member)]
      rfl

/-- A loop returns the values that its entries evaluate to. -/
theorem mapM_eq_ok_iff
    (evaluate : Entry → Except Error Value) (entries : List Entry)
    (values : List Value) :
    entries.mapM evaluate = .ok values ↔
      List.Forall₂ (fun entry value => evaluate entry = .ok value)
        entries values := by
  induction entries generalizing values with
  | nil =>
      constructor
      · rintro ⟨⟩
        exact List.Forall₂.nil
      · rintro ⟨⟩
        rfl
  | cons entry rest induction =>
      rw [List.mapM_cons, bind_eq_ok_iff]
      constructor
      · rintro ⟨value, first, returns⟩
        rcases bind_eq_ok_iff.mp returns with ⟨others, later, ⟨⟩⟩
        exact List.Forall₂.cons first ((induction others).mp later)
      · rintro (_ | ⟨first, later⟩)
        refine ⟨_, first, ?_⟩
        rw [(induction _).mpr later]
        rfl

/-- What is observed of the values, when the entries determine it. -/
theorem map_eq_of_mapM_eq_ok
    {evaluate : Entry → Except Error Value}
    (observe : Value → Row) (expected : Entry → Row)
    (observes : ∀ entry value,
      evaluate entry = .ok value → observe value = expected entry)
    {entries : List Entry} {values : List Value}
    (returns : entries.mapM evaluate = .ok values) :
    values.map observe = entries.map expected := by
  rw [mapM_eq_ok_iff] at returns
  induction returns with
  | nil => rfl
  | cons first _ induction =>
      rw [List.map_cons, List.map_cons, observes _ _ first, induction]

/--
A loop in which some entry raises, and only one exception is possible,
raises that exception.
-/
theorem mapM_eq_error
    (evaluate : Entry → Except Error Value) (error : Error)
    (entries : List Entry)
    (only : ∀ entry ∈ entries, ∀ other,
      evaluate entry = .error other → other = error)
    (raises : ∃ entry ∈ entries, evaluate entry = .error error) :
    entries.mapM evaluate = .error error := by
  induction entries with
  | nil =>
      rcases raises with ⟨entry, member, _⟩
      exact (List.not_mem_nil member).elim
  | cons entry rest induction =>
      rw [List.mapM_cons]
      cases evaluated : evaluate entry with
      | error other =>
          rw [only entry List.mem_cons_self other evaluated]
          rfl
      | ok value =>
          have later :
              ∃ other ∈ rest, evaluate other = .error error := by
            rcases raises with ⟨other, member, raised⟩
            rcases List.mem_cons.mp member with rfl | member
            · rw [evaluated] at raised
              cases raised
            · exact ⟨other, member, raised⟩
          rw [induction
            (fun other member =>
              only other (List.mem_cons_of_mem _ member))
            later]
          rfl

/-- The exception of a loop is the exception of an entry. -/
theorem exists_of_mapM_eq_error
    {evaluate : Entry → Except Error Value} {error : Error}
    {entries : List Entry}
    (raised : entries.mapM evaluate = .error error) :
    ∃ entry ∈ entries, evaluate entry = .error error := by
  induction entries with
  | nil => cases raised
  | cons entry rest induction =>
      rw [List.mapM_cons] at raised
      cases evaluated : evaluate entry with
      | error other =>
          rw [evaluated] at raised
          cases raised
          exact ⟨entry, List.mem_cons_self, evaluated⟩
      | ok value =>
          cases later : rest.mapM evaluate with
          | error other =>
              rw [evaluated, later] at raised
              cases raised
              rcases induction later with ⟨other, member, raises⟩
              exact
                ⟨other, List.mem_cons_of_mem _ member, raises⟩
          | ok values =>
              rw [evaluated, later] at raised
              cases raised

/-- Two computations with one possible exception and the same values. -/
theorem eq_of_ok_iff
    {computed other : Except Error Value} {error : Error}
    (only : ∀ raised, computed = .error raised → raised = error)
    (onlyOther : ∀ raised, other = .error raised → raised = error)
    (same : ∀ value, computed = .ok value ↔ other = .ok value) :
    computed = other := by
  cases computed with
  | ok value => exact ((same value).mp rfl).symm
  | error raised =>
      cases other with
      | ok value => exact (same value).mpr rfl
      | error raisedOther =>
          rw [only raised rfl, onlyOther raisedOther rfl]

/-- A loop returns exactly when every entry evaluates. -/
theorem exists_mapM_eq_ok_iff
    (evaluate : Entry → Except Error Value) (entries : List Entry) :
    (∃ values, entries.mapM evaluate = .ok values) ↔
      ∀ entry ∈ entries, ∃ value, evaluate entry = .ok value := by
  induction entries with
  | nil => exact ⟨fun _ => nofun, fun _ => ⟨[], rfl⟩⟩
  | cons entry rest induction =>
      rw [List.forall_mem_cons, ← induction, List.mapM_cons]
      cases evaluate entry with
      | error error =>
          constructor
          · rintro ⟨values, returns⟩
            cases returns
          · rintro ⟨⟨value, evaluates⟩, _⟩
            cases evaluates
      | ok value =>
          cases rest.mapM evaluate with
          | error error =>
              constructor
              · rintro ⟨values, returns⟩
                cases returns
              · rintro ⟨_, values, returns⟩
                cases returns
          | ok values =>
              exact
                ⟨fun _ => ⟨⟨value, rfl⟩, values, rfl⟩,
                  fun _ => ⟨value :: values, rfl⟩⟩

theorem exists_foldlM_eq_ok_iff
    (evaluate : Entry → Except Error Value)
    (add : State → Value → State)
    (entries : List Entry) (initial : State) :
    (∃ final,
      entries.foldlM
          (fun state entry => do
            let value ← evaluate entry
            Except.ok (add state value))
          initial = .ok final) ↔
      ∀ entry ∈ entries, ∃ value, evaluate entry = .ok value := by
  rw [foldlM_eq_mapM_foldl, ← exists_mapM_eq_ok_iff]
  cases entries.mapM evaluate with
  | error error =>
      constructor
      · rintro ⟨final, returns⟩
        cases returns
      · rintro ⟨values, returns⟩
        cases returns
  | ok values => exact ⟨fun _ => ⟨values, rfl⟩, fun _ => ⟨_, rfl⟩⟩

/-- What every step of a loop preserves holds when the loop returns. -/
theorem foldlM_invariant
    (step : State → Entry → Except Error State)
    (invariant : State → Prop)
    (keeps : ∀ entry state after,
      invariant state → step state entry = .ok after →
        invariant after)
    {entries : List Entry} {initial final : State}
    (returns : entries.foldlM step initial = .ok final)
    (holds : invariant initial) :
    invariant final := by
  induction entries generalizing initial with
  | nil =>
      cases returns
      exact holds
  | cons entry rest induction =>
      rw [List.foldlM_cons, bind_eq_ok_iff] at returns
      rcases returns with ⟨next, stepped, later⟩
      exact induction later (keeps entry initial next holds stepped)

/-- Every iteration that a loop reaches meets a condition. -/
def EachIteration
    (step : State → Entry → Except Error State)
    (condition : State → Entry → Prop) : State → List Entry → Prop
  | _, [] => True
  | state, entry :: rest =>
      condition state entry ∧
        ∀ after, step state entry = .ok after →
          EachIteration step condition after rest

theorem eachIteration_congr
    {step : State → Entry → Except Error State}
    {condition other : State → Entry → Prop}
    (same : ∀ state entry, condition state entry ↔ other state entry)
    (state : State) (entries : List Entry) :
    EachIteration step condition state entries ↔
      EachIteration step other state entries := by
  induction entries generalizing state with
  | nil => exact Iff.rfl
  | cons entry rest induction =>
      exact
        and_congr (same state entry)
          (forall_congr' fun after =>
            forall_congr' fun _ => induction after)

theorem EachIteration.imp
    {step : State → Entry → Except Error State}
    {condition weaker : State → Entry → Prop}
    (implies :
      ∀ state entry, condition state entry → weaker state entry)
    {state : State} {entries : List Entry}
    (each : EachIteration step condition state entries) :
    EachIteration step weaker state entries := by
  induction entries generalizing state with
  | nil => exact True.intro
  | cons entry rest induction =>
      exact
        ⟨implies state entry each.1,
          fun after stepped => induction (each.2 after stepped)⟩

/-- A condition on the entries alone. -/
theorem eachIteration_of_forall
    {step : State → Entry → Except Error State}
    {condition : State → Entry → Prop} {entries : List Entry}
    (all : ∀ entry ∈ entries, ∀ state, condition state entry)
    (state : State) :
    EachIteration step condition state entries := by
  induction entries generalizing state with
  | nil => exact True.intro
  | cons entry rest induction =>
      exact
        ⟨all entry List.mem_cons_self state,
          fun after _ =>
            induction
              (fun other member =>
                all other (List.mem_cons_of_mem _ member))
              after⟩

/-- An invariant of the iterations that meet a condition. -/
theorem foldlM_invariant_of_each
    {step : State → Entry → Except Error State}
    {condition : State → Entry → Prop} {invariant : State → Prop}
    (keeps : ∀ entry state after,
      invariant state → condition state entry →
        step state entry = .ok after → invariant after)
    {entries : List Entry} {initial final : State}
    (returns : entries.foldlM step initial = .ok final)
    (each : EachIteration step condition initial entries)
    (holds : invariant initial) :
    invariant final := by
  induction entries generalizing initial with
  | nil =>
      cases returns
      exact holds
  | cons entry rest induction =>
      rw [List.foldlM_cons, bind_eq_ok_iff] at returns
      rcases returns with ⟨next, stepped, later⟩
      exact
        induction later (each.2 next stepped)
          (keeps entry initial next holds each.1 stepped)

/-- A loop whose steps each add one row adds a row for every entry. -/
theorem foldlM_adds
    (step : State → Entry → Except Error State)
    (adds : State → State → List Row → Prop)
    (stored : Entry → Row → Prop)
    (nothing : ∀ state, adds state state [])
    (cons : ∀ {first second third row rows},
      adds first second [row] → adds second third rows →
        adds first third (row :: rows))
    {entries : List Entry} {initial final : State}
    (returns : entries.foldlM step initial = .ok final)
    (one : ∀ entry ∈ entries, ∀ {state after},
      step state entry = .ok after →
        ∃ row, adds state after [row] ∧ stored entry row) :
    ∃ rows,
      adds initial final rows ∧ List.Forall₂ stored entries rows := by
  induction entries generalizing initial with
  | nil =>
      cases returns
      exact ⟨[], nothing _, List.Forall₂.nil⟩
  | cons entry rest induction =>
      rw [List.foldlM_cons, bind_eq_ok_iff] at returns
      rcases returns with ⟨next, stepped, later⟩
      rcases one entry List.mem_cons_self stepped with
        ⟨row, added, first⟩
      rcases
          induction later fun other member =>
            one other (List.mem_cons_of_mem _ member) with
        ⟨rows, addedLater, others⟩
      exact
        ⟨row :: rows, cons added addedLater,
          List.Forall₂.cons first others⟩

end SultanPass.Library
