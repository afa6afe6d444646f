import Mathlib.Algebra.BigOperators.Group.List.Lemmas
import SultanPass.Library.Rounding

/-!
# Queries with `group by`

A query that counts rows by a key answers with one group for every key that
occurs, in an order of its own.  `GroupBy` is one way of answering; the
groups of every answer share the rows among themselves (`sum_counts`).

Rounded percentages of the groups need not add up to 100.  They miss it by
at most half a step for each group (`abs_sum_roundHalfAway_sub_le`).
-/

namespace SultanPass.Library

variable {Key : Type} [DecidableEq Key]

/-- One way of answering queries grouped by a key. -/
structure GroupBy (Key : Type) [DecidableEq Key] where
  keys : List Key → List Key
  perm : ∀ values, (keys values).Perm values.dedup

namespace GroupBy

/-- The groups in the order of their last rows. -/
def last : GroupBy Key where
  keys := List.dedup
  perm _ := List.Perm.refl _

variable (grouping : GroupBy Key)

/-- `select key, count(*) … group by key`. -/
def counts (values : List Key) : List (Key × ℕ) :=
  (grouping.keys values).map fun key => (key, values.count key)

theorem mem_keys_iff (values : List Key) (key : Key) :
    key ∈ grouping.keys values ↔ key ∈ values :=
  (grouping.perm values).mem_iff.trans List.mem_dedup

theorem nodup_keys (values : List Key) : (grouping.keys values).Nodup :=
  (grouping.perm values).nodup_iff.mpr values.nodup_dedup

@[simp]
theorem map_fst_counts (values : List Key) :
    (grouping.counts values).map Prod.fst = grouping.keys values := by
  rw [counts, List.map_map]
  exact List.map_id _

theorem mem_counts_iff (values : List Key) (group : Key × ℕ) :
    group ∈ grouping.counts values ↔
      group.1 ∈ values ∧ group.2 = values.count group.1 := by
  rw [counts, List.mem_map]
  constructor
  · rintro ⟨key, member, rfl⟩
    exact ⟨(grouping.mem_keys_iff values key).mp member, rfl⟩
  · rintro ⟨member, total⟩
    exact
      ⟨group.1, (grouping.mem_keys_iff values _).mpr member,
        Prod.ext rfl total.symm⟩

/-- The groups share all rows. -/
theorem sum_counts (values : List Key) :
    ((grouping.counts values).map Prod.snd).sum = values.length := by
  rw [counts, List.map_map]
  show ((grouping.keys values).map fun key => values.count key).sum = _
  rw [((grouping.perm values).map _).sum_eq,
    List.sum_map_count_dedup_eq_length]

theorem counts_eq_nil_iff (values : List Key) :
    grouping.counts values = [] ↔ values = [] := by
  rw [counts, List.map_eq_nil_iff]
  constructor
  · intro none
    rw [List.eq_nil_iff_forall_not_mem] at none ⊢
    intro key member
    exact none key ((grouping.mem_keys_iff values key).mpr member)
  · rintro rfl
    exact (grouping.perm []).eq_nil

end GroupBy

/-! ## Percentages -/

namespace Rounding

theorem abs_roundHalfUp_sub_le (digits : ℕ) (value : ℚ) :
    |roundHalfUp digits value - value| ≤ 1 / (2 * 10 ^ digits) := by
  have positive : (0 : ℚ) < 10 ^ digits := by positivity
  have below := Int.floor_le (value * 10 ^ digits + 1 / 2)
  have above := Int.lt_floor_add_one (value * 10 ^ digits + 1 / 2)
  have scaled :
      roundHalfUp digits value - value =
        ((⌊value * 10 ^ digits + 1 / 2⌋ : ℚ) - value * 10 ^ digits) /
          10 ^ digits := by
    rw [roundHalfUp]
    field_simp
  have step : (1 : ℚ) / (2 * 10 ^ digits) = 1 / 2 / 10 ^ digits := by
    rw [div_div]
  rw [scaled, abs_div, abs_of_pos positive, step,
    div_le_div_iff_of_pos_right positive, abs_le]
  constructor <;> linarith

/-- A rounding moves a value by at most half a grid step. -/
theorem abs_roundHalfAway_sub_le (digits : ℕ) (value : ℚ) :
    |roundHalfAway digits value - value| ≤ 1 / (2 * 10 ^ digits) := by
  rw [roundHalfAway]
  split_ifs
  · exact abs_roundHalfUp_sub_le digits value
  · have opposite := abs_roundHalfUp_sub_le digits (-value)
    rw [abs_le] at opposite ⊢
    constructor <;> linarith [opposite.1, opposite.2]

theorem abs_sum_roundHalfAway_sub_le (digits : ℕ) (values : List ℚ) :
    |(values.map (roundHalfAway digits)).sum - values.sum| ≤
      values.length / (2 * 10 ^ digits) := by
  induction values with
  | nil => simp
  | cons value values induction =>
      have first := abs_roundHalfAway_sub_le digits value
      rw [List.map_cons, List.sum_cons, List.sum_cons, List.length_cons]
      calc
        _ = |(roundHalfAway digits value - value) +
              ((values.map (roundHalfAway digits)).sum - values.sum)| := by
          congr 1
          ring
        _ ≤ |roundHalfAway digits value - value| +
              |(values.map (roundHalfAway digits)).sum - values.sum| :=
          abs_add_le _ _
        _ ≤ 1 / (2 * 10 ^ digits) + values.length / (2 * 10 ^ digits) :=
          add_le_add first induction
        _ = _ := by
          push_cast
          ring

end Rounding

end SultanPass.Library
