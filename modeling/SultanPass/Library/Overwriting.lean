import Mathlib.Data.List.Basic

/-!
# Writing the target of each key

A family of entries, one for each key, is rewritten key by key.  Each key
has a target, which the writes do not change, or none; a write of a key
makes its entry show the target, and leaves the entry alone when there is
none.

`Overwrites` says what has happened after writes of some keys.  It depends
on which keys were written and not on the order or on repetitions:
`Overwrites.agree` compares two runs over the same keys, and
`Overwrites.again` a run with the same run once more.
-/

namespace SultanPass.Library

variable {Key Entry View : Type}

/--
The covered keys show their targets.  An entry without a target, or whose
key is not covered, is the one before.
-/
structure Overwrites (view : Entry → View) (target : Key → Option View)
    (covered : Key → Prop) (before after : Key → Entry) : Prop where
  written :
    ∀ key, covered key → ∀ value ∈ target key, view (after key) = value
  kept :
    ∀ key, (covered key → target key = none) → after key = before key

namespace Overwrites

variable {view : Entry → View} {target : Key → Option View}
  {covered more : Key → Prop} {before middle after : Key → Entry}

theorem refl (entries : Key → Entry) :
    Overwrites view target (fun _ => False) entries entries where
  written := fun _ none => none.elim
  kept := fun _ _ => rfl

/-- Writes of some keys and then of others. -/
theorem trans
    (earlier : Overwrites view target covered before middle)
    (later : Overwrites view target more middle after) :
    Overwrites view target (fun key => covered key ∨ more key) before
      after where
  written := by
    intro key isCovered value isTarget
    by_cases again : more key
    · exact later.written key again value isTarget
    · rw [later.kept key fun isMore => (again isMore).elim]
      exact
        earlier.written key (isCovered.resolve_right again) value isTarget
  kept := by
    intro key excluded
    rw [later.kept key fun isMore => excluded (Or.inr isMore)]
    exact earlier.kept key fun isCovered => excluded (Or.inl isCovered)

/-- Keys without a target may be counted as covered or not. -/
theorem congr
    (overwrites : Overwrites view target covered before after)
    (same :
      ∀ key, target key ≠ none → (more key ↔ covered key)) :
    Overwrites view target more before after where
  written := by
    intro key isMore value isTarget
    have hasTarget : target key ≠ none :=
      Option.ne_none_iff_exists'.mpr ⟨value, isTarget⟩
    exact
      overwrites.written key ((same key hasTarget).mp isMore) value isTarget
  kept := by
    intro key excluded
    apply overwrites.kept
    intro isCovered
    by_contra hasTarget
    exact hasTarget (excluded ((same key hasTarget).mpr isCovered))

/-- Two runs over the same keys show the same. -/
theorem agree {other : Key → Entry}
    (left : Overwrites view target covered before after)
    (right : Overwrites view target covered before other) (key : Key) :
    view (after key) = view (other key) := by
  cases isTarget : target key with
  | none =>
      rw [left.kept key fun _ => isTarget, right.kept key fun _ => isTarget]
  | some value =>
      by_cases isCovered : covered key
      · rw [left.written key isCovered value isTarget,
          right.written key isCovered value isTarget]
      · rw [left.kept key fun is => (isCovered is).elim,
          right.kept key fun is => (isCovered is).elim]

/-- A second run over the same keys shows nothing new. -/
theorem again
    (once : Overwrites view target covered before middle)
    (twice : Overwrites view target covered middle after) (key : Key) :
    view (after key) = view (middle key) :=
  agree ((once.trans twice).congr fun _ _ => (or_self_iff).symm) once key

end Overwrites

end SultanPass.Library
