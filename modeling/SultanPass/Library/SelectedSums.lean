import Mathlib.Algebra.BigOperators.Group.Finset.Basic
import Mathlib.Algebra.Order.BigOperators.Group.Finset
import Mathlib.Algebra.Order.Ring.Rat

/-!
# Sums over a selection

A selection from distinct candidates can be totalled in two ways: over the
selected keys as they are listed, or over the candidates that are among
them.  With nonnegative values the second total is never the larger one.
The two agree exactly when every key that counts is a candidate and is
listed once.
-/

namespace SultanPass.Library

variable {Key : Type} [DecidableEq Key]
  {candidates selected : List Key} {value : Key → ℚ}

/-- The total over the candidates, by the selected keys. -/
theorem sum_of_candidates
    (distinct : candidates.Nodup) (selected : List Key)
    (value : Key → ℚ) :
    ((candidates.filter fun key => key ∈ selected).map value).sum =
      ∑ key ∈ selected.toFinset,
        if key ∈ candidates then value key else 0 := by
  rw [← List.sum_toFinset _ (distinct.filter _), ← Finset.sum_filter]
  congr 1
  ext key
  simp [and_comm]

/-- One selected key, as often as it is listed. -/
theorem candidate_le_listed
    (nonneg : ∀ key, 0 ≤ value key) {key : Key}
    (listed : key ∈ selected) :
    (if key ∈ candidates then value key else 0) ≤
      selected.count key • value key := by
  have once : 1 ≤ selected.count key := List.one_le_count_iff.mpr listed
  split_ifs
  · calc value key = 1 • value key := (one_nsmul _).symm
      _ ≤ selected.count key • value key :=
        nsmul_le_nsmul_left (nonneg key) once
  · exact nsmul_nonneg (nonneg key) _

theorem candidate_eq_listed_iff
    {key : Key} (listed : key ∈ selected) :
    (if key ∈ candidates then value key else 0) =
        selected.count key • value key ↔
      (value key ≠ 0 → key ∈ candidates ∧ selected.count key = 1) := by
  have once : selected.count key ≠ 0 :=
    Nat.one_le_iff_ne_zero.mp (List.one_le_count_iff.mpr listed)
  by_cases zero : value key = 0
  · simp [zero]
  · by_cases candidate : key ∈ candidates
    · rw [if_pos candidate, nsmul_eq_mul, eq_comm, mul_eq_right₀ zero,
        Nat.cast_eq_one]
      exact
        ⟨fun single _ => ⟨candidate, single⟩,
          fun both => (both zero).2⟩
    · rw [if_neg candidate, eq_comm, nsmul_eq_mul, mul_eq_zero,
        Nat.cast_eq_zero]
      constructor
      · rintro (none | none)
        · exact (once none).elim
        · exact (zero none).elim
      · intro both
        exact (candidate (both zero).1).elim

/-- The two totals agree when every key that counts is counted once. -/
theorem sum_selected_eq_iff
    (distinct : candidates.Nodup) (nonneg : ∀ key, 0 ≤ value key) :
    (selected.map value).sum =
        ((candidates.filter fun key => key ∈ selected).map value).sum ↔
      ∀ key ∈ selected, value key ≠ 0 →
        key ∈ candidates ∧ selected.count key = 1 := by
  have ordered :
      ∀ key ∈ selected.toFinset,
        (if key ∈ candidates then value key else 0) ≤
          selected.count key • value key :=
    fun key member =>
      candidate_le_listed nonneg (List.mem_toFinset.mp member)
  rw [Finset.sum_list_map_count, sum_of_candidates distinct, eq_comm,
    Finset.sum_eq_sum_iff_of_le ordered]
  constructor
  · intro termwise key member
    exact
      (candidate_eq_listed_iff member).mp
        (termwise key (List.mem_toFinset.mpr member))
  · intro counted key member
    have listed := List.mem_toFinset.mp member
    exact (candidate_eq_listed_iff listed).mpr (counted key listed)

end SultanPass.Library
