import Mathlib.Data.Int.Order.Basic
import Mathlib.Data.List.Sort

/-!
# Queries with `order by`

A query orders its rows by a column.  Rows with the same value may come in
any order, and in another order the next time.  `OrderBy` is one way of
answering such a query; what every answer shares is that it permutes the
rows and that the column increases.

Distinct values leave one answer (`sort_eq_of_distinct`).  A single tie is
enough for two answers that show one row at two positions
(`exists_row_at_both`).
-/

namespace SultanPass.Library

variable {Row : Type} {column : Row → ℤ}

/-- The column increases along the rows. -/
def Ascending (column : Row → ℤ) (rows : List Row) : Prop :=
  rows.Pairwise fun earlier later => column earlier ≤ column later

/-- A stable sort by a decreasing column. -/
theorem pairwise_mergeSort_descending {Value : Type} [LinearOrder Value]
    (descending : Row → Value) (rows : List Row) :
    (rows.mergeSort fun left right =>
        decide (descending right ≤ descending left)).Pairwise
      fun earlier later => descending later ≤ descending earlier := by
  have ordered :
      (rows.mergeSort fun left right =>
          decide (descending right ≤ descending left)).Pairwise
        fun earlier later =>
          decide (descending later ≤ descending earlier) = true := by
    apply List.pairwise_mergeSort
    · intro first second third before after
      exact
        decide_eq_true
          (le_trans (of_decide_eq_true after) (of_decide_eq_true before))
    · intro left right
      rw [Bool.or_eq_true, decide_eq_true_eq, decide_eq_true_eq]
      exact le_total (descending right) (descending left)
  exact ordered.imp fun before => of_decide_eq_true before

/-- One way of answering queries ordered by a column. -/
structure OrderBy (column : Row → ℤ) where
  sort : List Row → List Row
  perm : ∀ rows, (sort rows).Perm rows
  ascending : ∀ rows, Ascending column (sort rows)

namespace OrderBy

/-- Rows with the same value stay in the order of the table. -/
def stable (column : Row → ℤ) : OrderBy column where
  sort := List.insertionSort fun earlier later =>
    column earlier ≤ column later
  perm := List.perm_insertionSort _
  ascending rows := by
    have total :
        Std.Total fun earlier later : Row =>
          column earlier ≤ column later :=
      ⟨fun left right => le_total (column left) (column right)⟩
    have transitive :
        IsTrans Row fun earlier later =>
          column earlier ≤ column later :=
      ⟨fun _ _ _ => le_trans⟩
    exact List.pairwise_insertionSort _ rows

/-- The given answer for one list of rows. -/
def answering [DecidableEq Row] (rows : List Row)
    (answer : { permuted : List Row //
      permuted.Perm rows ∧ Ascending column permuted }) :
    OrderBy column where
  sort others :=
    if others = rows then answer.1 else (stable column).sort others
  perm others := by
    split_ifs with same
    · rw [same]
      exact answer.2.1
    · exact (stable column).perm others
  ascending others := by
    split_ifs
    · exact answer.2.2
    · exact (stable column).ascending others

@[simp]
theorem sort_answering [DecidableEq Row] (rows : List Row)
    (answer : { permuted : List Row //
      permuted.Perm rows ∧ Ascending column permuted }) :
    (answering rows answer).sort rows = answer.1 :=
  if_pos rfl

@[simp]
theorem length_sort (order : OrderBy column) (rows : List Row) :
    (order.sort rows).length = rows.length :=
  (order.perm rows).length_eq

@[simp]
theorem mem_sort_iff (order : OrderBy column) (rows : List Row)
    (row : Row) :
    row ∈ order.sort rows ↔ row ∈ rows :=
  (order.perm rows).mem_iff

/-- Distinct values leave one answer. -/
theorem sort_eq_of_distinct
    {rows : List Row} (distinct : (rows.map column).Nodup)
    (first second : OrderBy column) :
    first.sort rows = second.sort rows := by
  have antisymmetric (left right : Row)
      (isLeft : left ∈ first.sort rows)
      (isRight : right ∈ second.sort rows)
      (leftFirst : column left ≤ column right)
      (rightFirst : column right ≤ column left) :
      left = right :=
    List.inj_on_of_nodup_map distinct
      ((first.mem_sort_iff rows left).mp isLeft)
      ((second.mem_sort_iff rows right).mp isRight)
      (le_antisymm leftFirst rightFirst)
  exact
    List.Perm.eq_of_pairwise antisymmetric (first.ascending rows)
      (second.ascending rows)
      ((first.perm rows).trans (second.perm rows).symm)

/-! ## Ties -/

/-- Two neighbours have the same value when two rows have. -/
theorem exists_tie
    {rows : List Row} (ascending : Ascending column rows)
    (tied : ¬ (rows.map column).Nodup) :
    ∃ before left right after,
      rows = before ++ left :: right :: after ∧
        column left = column right := by
  induction rows with
  | nil => exact (tied List.nodup_nil).elim
  | cons first rest induction =>
      rcases List.pairwise_cons.mp ascending with ⟨least, ascendingRest⟩
      by_cases repeated : column first ∈ rest.map column
      · cases rest with
        | nil => exact (List.not_mem_nil repeated).elim
        | cons second others =>
            rcases List.mem_map.mp repeated with ⟨row, listed, same⟩
            have notAbove : column second ≤ column first := by
              rw [← same]
              rcases List.mem_cons.mp listed with rfl | later
              · exact le_rfl
              · exact (List.pairwise_cons.mp ascendingRest).1 row later
            exact
              ⟨[], first, second, others, rfl,
                le_antisymm (least second List.mem_cons_self) notAbove⟩
      · have tiedRest : ¬ (rest.map column).Nodup := fun distinct =>
          tied (List.nodup_cons.mpr ⟨repeated, distinct⟩)
        rcases induction ascendingRest tiedRest with
          ⟨before, left, right, after, split, same⟩
        exact
          ⟨first :: before, left, right, after,
            congrArg (List.cons first) split, same⟩

/-- Neighbours with the same value may change places. -/
theorem ascending_swap
    {before after : List Row} {left right : Row}
    (ascending : Ascending column (before ++ left :: right :: after))
    (same : column left = column right) :
    Ascending column (before ++ right :: left :: after) := by
  rw [Ascending, List.pairwise_append] at ascending ⊢
  rcases ascending with ⟨first, last, across⟩
  rcases List.pairwise_cons.mp last with ⟨leftLeast, rest⟩
  rcases List.pairwise_cons.mp rest with ⟨rightLeast, others⟩
  refine ⟨first, ?_, ?_⟩
  · apply List.pairwise_cons.mpr
    constructor
    · intro row listed
      rcases List.mem_cons.mp listed with rfl | later
      · exact same.ge
      · exact rightLeast row later
    · exact
        List.pairwise_cons.mpr
          ⟨fun row listed => same.le.trans (rightLeast row listed),
            others⟩
  · intro row listed other isLater
    apply across row listed
    simpa [or_left_comm] using isLater

/-- With a tie, two answers show one row at neighbouring positions. -/
theorem exists_row_at_both [DecidableEq Row]
    {rows : List Row} (tied : ¬ (rows.map column).Nodup) :
    ∃ (first second : OrderBy column) (position : ℕ) (row : Row),
      (first.sort rows)[position]? = some row ∧
        (second.sort rows)[position + 1]? = some row := by
  have base := (stable column).ascending rows
  have permuted := (stable column).perm rows
  have stillTied :
      ¬ (((stable column).sort rows).map column).Nodup :=
    fun distinct => tied ((permuted.map column).nodup_iff.mp distinct)
  rcases exists_tie base stillTied with
    ⟨before, left, right, after, split, same⟩
  have swapped :
      (before ++ right :: left :: after).Perm rows := by
    rw [split] at permuted
    exact
      ((List.Perm.swap left right after).append_left before).trans
        permuted
  refine
    ⟨stable column,
      answering rows
        ⟨before ++ right :: left :: after, swapped,
          ascending_swap (split ▸ base) same⟩,
      before.length, left, ?_, ?_⟩
  · rw [split]
    simp
  · rw [sort_answering]
    simp

end OrderBy

end SultanPass.Library
