import SultanPass.Library.ExceptLoop
import Mathlib.Data.List.Nodup

/-!
# When a loop returns

A loop returns when each of its iterations does.  For iterations that only
depend on their entry this is a condition on every entry
(`exists_foldlM_iff`).  Where each entry brings a key, and a key that is
already there is refused, it is that the new keys are different from each
other and from the old ones (`exists_foldlM_insert_iff`).
-/

namespace SultanPass.Library

variable {Error State Entry Key : Type}

section

variable {step : State → Entry → Except Error State}

theorem exists_foldlM_cons_iff (entry : Entry) (rest : List Entry)
    (initial : State) :
    (∃ final, (entry :: rest).foldlM step initial = .ok final) ↔
      ∃ next, step initial entry = .ok next ∧
        ∃ final, rest.foldlM step next = .ok final := by
  simp only [List.foldlM_cons, bind_eq_ok_iff]
  constructor
  · rintro ⟨final, next, stepped, later⟩
    exact ⟨next, stepped, final, later⟩
  · rintro ⟨next, stepped, final, later⟩
    exact ⟨final, next, stepped, later⟩

/-- Each iteration returns under a condition on its entry. -/
theorem exists_foldlM_iff {invariant : State → Prop}
    {condition : Entry → Prop} {entries : List Entry}
    (returns :
      ∀ entry ∈ entries, ∀ state, invariant state →
        ((∃ after, step state entry = .ok after) ↔ condition entry))
    (keeps :
      ∀ entry ∈ entries, ∀ state after, invariant state →
        step state entry = .ok after → invariant after)
    {initial : State} (holds : invariant initial) :
    (∃ final, entries.foldlM step initial = .ok final) ↔
      ∀ entry ∈ entries, condition entry := by
  induction entries generalizing initial with
  | nil => exact iff_of_true ⟨initial, rfl⟩ nofun
  | cons entry rest induction =>
      rw [List.forall_mem_cons] at returns keeps
      rw [exists_foldlM_cons_iff, List.forall_mem_cons,
        ← returns.1 initial holds]
      constructor
      · rintro ⟨next, stepped, later⟩
        exact
          ⟨⟨next, stepped⟩,
            (induction returns.2 keeps.2
              (keeps.1 initial next holds stepped)).mp later⟩
      · rintro ⟨⟨next, stepped⟩, conditions⟩
        exact
          ⟨next, stepped,
            (induction returns.2 keeps.2
              (keeps.1 initial next holds stepped)).mpr conditions⟩

/--
An entry with a key is inserted when no other has it; an entry without one
changes no key.
-/
structure InsertsKeys (step : State → Entry → Except Error State)
    (keys : State → List Key) (key? : Entry → Option Key)
    (invariant : State → Prop) : Prop where
  skips :
    ∀ state entry, invariant state → key? entry = none →
      step state entry = .ok state
  returns :
    ∀ state entry key, invariant state → key? entry = some key →
      ((∃ after, step state entry = .ok after) ↔ key ∉ keys state)
  grows :
    ∀ state entry key after, invariant state → key? entry = some key →
      step state entry = .ok after →
        keys after = keys state ++ [key] ∧ invariant after

theorem exists_foldlM_insert_iff {keys : State → List Key}
    {key? : Entry → Option Key} {invariant : State → Prop}
    (inserts : InsertsKeys step keys key? invariant)
    (entries : List Entry) {initial : State}
    (holds : invariant initial) :
    (∃ final, entries.foldlM step initial = .ok final) ↔
      (entries.filterMap key?).Nodup ∧
        ∀ key ∈ entries.filterMap key?, key ∉ keys initial := by
  induction entries generalizing initial with
  | nil => exact iff_of_true ⟨initial, rfl⟩ ⟨List.nodup_nil, nofun⟩
  | cons entry rest induction =>
      rw [exists_foldlM_cons_iff, List.filterMap_cons]
      cases isKey : key? entry with
      | none =>
          have skipped := inserts.skips initial entry holds isKey
          rw [← induction holds]
          constructor
          · rintro ⟨next, stepped, later⟩
            rw [skipped] at stepped
            cases stepped
            exact later
          · intro later
            exact ⟨initial, skipped, later⟩
      | some key =>
          simp only [List.nodup_cons, List.forall_mem_cons]
          have returned := inserts.returns initial entry key holds isKey
          constructor
          · rintro ⟨next, stepped, later⟩
            rcases
                inserts.grows initial entry key next holds isKey
                  stepped with
              ⟨grown, kept⟩
            rcases (induction kept).mp later with ⟨distinct, absent⟩
            rw [grown] at absent
            refine
              ⟨⟨?_, distinct⟩, returned.mp ⟨next, stepped⟩, ?_⟩
            · intro again
              exact
                absent key again
                  (List.mem_append_right _ List.mem_cons_self)
            · intro other member old
              exact
                absent other member (List.mem_append_left _ old)
          · rintro ⟨⟨once, distinct⟩, new, absent⟩
            rcases returned.mpr new with ⟨next, stepped⟩
            rcases
                inserts.grows initial entry key next holds isKey
                  stepped with
              ⟨grown, kept⟩
            refine ⟨next, stepped, (induction kept).mpr ⟨distinct, ?_⟩⟩
            intro other member isThere
            rw [grown] at isThere
            rcases List.mem_append.mp isThere with old | isKeyNow
            · exact absent other member old
            · rw [List.mem_singleton.mp isKeyNow] at member
              exact once member

/-- Into a state without such keys, entries with different keys go. -/
theorem exists_foldlM_insert_iff_nodup {keys : State → List Key}
    {key? : Entry → Option Key} {invariant : State → Prop}
    (inserts : InsertsKeys step keys key? invariant)
    (entries : List Entry) {initial : State}
    (holds : invariant initial) (none : keys initial = []) :
    (∃ final, entries.foldlM step initial = .ok final) ↔
      (entries.filterMap key?).Nodup := by
  rw [exists_foldlM_insert_iff inserts entries holds, none]
  exact and_iff_left fun _ _ => List.not_mem_nil

end

end SultanPass.Library
