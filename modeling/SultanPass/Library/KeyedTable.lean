import Mathlib.Data.List.Basic
import Mathlib.Data.List.Forall2
import Mathlib.Data.List.Nodup
import Mathlib.Algebra.BigOperators.Group.List.Lemmas
import Mathlib.Algebra.Order.Ring.Defs

/-!
# Tables with and without a unique key

A `KeyedTable` carries the uniqueness of its key, so every operation on it
must keep the keys distinct: `insert` adds a row only under a new key, and
`modify` rewrites the row of one key without touching the key itself.

`updateFirst` works on a plain list of rows.  It rewrites the first match
only, which is all a bounded update does to a table that has no unique key.
-/

namespace SultanPass.Library

/-! ## Tables with a unique key -/

/-- Rows with pairwise distinct keys. -/
structure KeyedTable
    {Row Key : Type} [DecidableEq Key] (key : Row → Key) where
  rows : List Row
  distinct : (rows.map key).Nodup

namespace KeyedTable

variable {Row Key : Type} [DecidableEq Key] {key : Row → Key}

@[ext]
theorem ext
    {left right : KeyedTable key}
    (equal : left.rows = right.rows) :
    left = right := by
  cases left
  cases right
  cases equal
  rfl

/-- The table without rows. -/
def empty : KeyedTable key where
  rows := []
  distinct := by simp

/-- The row of a key. -/
def find? (table : KeyedTable key) (wanted : Key) : Option Row :=
  table.rows.find? fun row => key row = wanted

/-- Rewrite the row of one key by a function that keeps the key. -/
def modify
    (table : KeyedTable key) (wanted : Key) (update : Row → Row)
    (keeps : ∀ row, key (update row) = key row) :
    KeyedTable key where
  rows :=
    table.rows.map fun row =>
      if key row = wanted then update row else row
  distinct := by
    have keys :
        (table.rows.map fun row =>
            if key row = wanted then update row else row).map key =
          table.rows.map key := by
      rw [List.map_map]
      apply List.map_congr_left
      intro row _
      by_cases found : key row = wanted <;> simp [found, keeps]
    rw [keys]
    exact table.distinct

/-- Append a row unless its key is taken. -/
def insert (table : KeyedTable key) (row : Row) : KeyedTable key :=
  if taken : key row ∈ table.rows.map key then table
  else
    { rows := table.rows ++ [row]
      distinct := by
        rw [List.map_append, List.nodup_append]
        refine ⟨table.distinct, by simp, ?_⟩
        intro left leftMember right rightMember equal
        rw [List.map_singleton, List.mem_singleton] at rightMember
        subst right
        subst left
        exact taken leftMember }

/-- Rewrite every row by a function that keeps its key. -/
def refresh
    (table : KeyedTable key) (fill : Row → Row)
    (keeps : ∀ row, key (fill row) = key row) :
    KeyedTable key where
  rows := table.rows.map fill
  distinct := by
    have sameKeys : key ∘ fill = key := funext keeps
    rw [List.map_map, sameKeys]
    exact table.distinct

/-- The rows that are not deleted. -/
def filter (table : KeyedTable key) (keep : Row → Bool) :
    KeyedTable key where
  rows := table.rows.filter keep
  distinct := (List.filter_sublist.map key).nodup table.distinct

theorem find?_eq_some_iff
    (table : KeyedTable key) (wanted : Key) (row : Row) :
    table.find? wanted = some row ↔
      row ∈ table.rows ∧ key row = wanted := by
  constructor
  · intro found
    exact
      ⟨List.mem_of_find?_eq_some found,
        by simpa using List.find?_some found⟩
  · rintro ⟨member, rfl⟩
    cases found : table.find? (key row) with
    | none =>
        have absent := List.find?_eq_none.mp found row member
        simp at absent
    | some other =>
        have otherMember := List.mem_of_find?_eq_some found
        have otherKey : key other = key row := by
          simpa using List.find?_some found
        rw [List.inj_on_of_nodup_map table.distinct
          otherMember member otherKey]

theorem find?_eq_none_iff
    (table : KeyedTable key) (wanted : Key) :
    table.find? wanted = none ↔
      wanted ∉ table.rows.map key := by
  simp [find?]

@[simp]
theorem find?_modify_self
    (table : KeyedTable key) (wanted : Key) (update : Row → Row)
    (keeps : ∀ row, key (update row) = key row) :
    (table.modify wanted update keeps).find? wanted =
      (table.find? wanted).map update := by
  simp only [find?, modify, List.find?_map, Function.comp_def]
  have same :
      (fun row => decide
          (key (if key row = wanted then update row else row) =
            wanted)) =
        fun row => decide (key row = wanted) := by
    funext row
    by_cases found : key row = wanted <;> simp [found, keeps]
  rw [same]
  cases found : table.rows.find? fun row => key row = wanted with
  | none => rfl
  | some row =>
      have rowKey : key row = wanted := by
        simpa using List.find?_some found
      simp [rowKey]

theorem find?_modify_of_ne
    (table : KeyedTable key) {wanted other : Key}
    (update : Row → Row)
    (keeps : ∀ row, key (update row) = key row)
    (different : other ≠ wanted) :
    (table.modify wanted update keeps).find? other =
      table.find? other := by
  simp only [find?, modify, List.find?_map, Function.comp_def]
  have same :
      (fun row => decide
          (key (if key row = wanted then update row else row) =
            other)) =
        fun row => decide (key row = other) := by
    funext row
    by_cases found : key row = wanted <;> simp [found, keeps]
  rw [same]
  cases found : table.rows.find? fun row => key row = other with
  | none => rfl
  | some row =>
      have rowKey : key row = other := by
        simpa using List.find?_some found
      simp [rowKey, different]

theorem rows_insert_of_new
    (table : KeyedTable key) (row : Row)
    (new : table.find? (key row) = none) :
    (table.insert row).rows = table.rows ++ [row] := by
  have absent := (find?_eq_none_iff table (key row)).mp new
  simp only [insert, absent, dif_neg, not_false_eq_true]

@[simp]
theorem find?_insert_self
    (table : KeyedTable key) (row : Row)
    (new : table.find? (key row) = none) :
    (table.insert row).find? (key row) = some row := by
  rw [find?_eq_some_iff, rows_insert_of_new table row new]
  simp

theorem find?_insert_of_ne
    (table : KeyedTable key) (row : Row) {other : Key}
    (different : other ≠ key row) :
    (table.insert row).find? other = table.find? other := by
  by_cases taken : key row ∈ table.rows.map key
  · simp only [insert, taken, dif_pos]
  · simp only [insert, taken, dif_neg, not_false_eq_true, find?,
      List.find?_append]
    simp [Ne.symm different]

/-- Looking every row up in a modified table modifies it. -/
theorem refresh_find?_modify
    (table : KeyedTable key) (wanted : Key) (update : Row → Row)
    (keeps : ∀ row, key (update row) = key row)
    (sameKeys :
      ∀ row,
        key (((table.modify wanted update keeps).find? (key row)).getD
          row) = key row) :
    table.refresh
        (fun row =>
          ((table.modify wanted update keeps).find? (key row)).getD row)
        sameKeys =
      table.modify wanted update keeps := by
  apply ext
  apply List.map_congr_left
  intro row member
  have found : table.find? (key row) = some row :=
    (find?_eq_some_iff table _ _).mpr ⟨member, rfl⟩
  by_cases own : key row = wanted
  · subst own
    rw [find?_modify_self, found, if_pos rfl]
    rfl
  · rw [find?_modify_of_ne table update keeps own, found, if_neg own]
    rfl

/-- A selection of rows that never looks at the modified row is unchanged. -/
theorem filter_modify_of_ne
    (table : KeyedTable key) (wanted : Key) (update : Row → Row)
    (keeps : ∀ row, key (update row) = key row)
    (select : Key → Bool) (excluded : select wanted = false) :
    ((table.modify wanted update keeps).rows.filter
        fun row => select (key row)) =
      table.rows.filter fun row => select (key row) := by
  simp only [modify, List.filter_map, Function.comp_def]
  have same :
      (fun row => select
          (key (if key row = wanted then update row else row))) =
        fun row => select (key row) := by
    funext row
    by_cases found : key row = wanted <;> simp [found, keeps]
  rw [same]
  conv_rhs => rw [← List.map_id
    (table.rows.filter fun row => select (key row))]
  apply List.map_congr_left
  intro row member
  have selected : select (key row) = true := by
    simpa using (List.mem_filter.mp member).2
  have notWanted : key row ≠ wanted := by
    rintro equal
    rw [equal, excluded] at selected
    exact Bool.noConfusion selected
  simp [notWanted]

/-- A selection of rows that excludes the inserted row is unchanged. -/
theorem filter_insert_of_excluded
    (table : KeyedTable key) (row : Row)
    (select : Key → Bool) (excluded : select (key row) = false) :
    ((table.insert row).rows.filter
        fun other => select (key other)) =
      table.rows.filter fun other => select (key other) := by
  by_cases taken : key row ∈ table.rows.map key
  · simp only [insert, taken, dif_pos]
  · simp [insert, taken, excluded]

end KeyedTable

/-! ## Sums over keys -/

/--
A sum over rows with distinct keys is the sum over the keys, where a key
without a row counts 0.
-/
theorem sum_map_find?
    {Row Key Value : Type} [DecidableEq Key] [AddCommMonoid Value]
    (key : Row → Key) (rows : List Row) (distinct : (rows.map key).Nodup)
    {keys : List Key} (keysDistinct : keys.Nodup)
    (covers : ∀ row ∈ rows, key row ∈ keys) (value : Row → Value) :
    (keys.map fun wanted =>
        ((rows.find? fun row => key row = wanted).map value).getD
          0).sum =
      (rows.map value).sum := by
  induction rows with
  | nil => simp
  | cons row rest induction =>
      rw [List.map_cons, List.nodup_cons] at distinct
      have split :
          ∀ wanted,
            (((row :: rest).find? fun other => key other = wanted).map
                value).getD 0 =
              (if key row = wanted then value row else 0) +
                ((rest.find? fun other => key other = wanted).map
                  value).getD 0 := by
        intro wanted
        by_cases own : key row = wanted
        · have absent :
              rest.find? (fun other => key other = wanted) = none := by
            rw [List.find?_eq_none]
            intro other member same
            simp only [decide_eq_true_eq] at same
            exact
              distinct.1
                (List.mem_map.mpr ⟨other, member, same.trans own.symm⟩)
          simp [own, absent]
        · simp [own]
      have single :
          (keys.map fun wanted =>
              if key row = wanted then value row else 0).sum =
            value row := by
        rw [List.sum_map_eq_nsmul_single (key row)]
        · rw [List.count_eq_one_of_mem keysDistinct
            (covers row List.mem_cons_self), one_nsmul, if_pos rfl]
        · intro wanted different _
          exact if_neg different.symm
      simp only [split]
      rw [List.sum_map_add, single,
        induction distinct.2 fun other member =>
          covers other (List.mem_cons_of_mem _ member),
        List.map_cons, List.sum_cons]

/-! ## Fresh keys -/

section FreshKey

variable {Key : Type}

/-- The next value of an auto-increment key. -/
def freshKey [Max Key] [Zero Key] [One Key] [Add Key]
    (keys : List Key) : Key :=
  keys.foldr max 0 + 1

theorem lt_freshKey
    [LinearOrder Key] [Semiring Key] [IsStrictOrderedRing Key]
    {keys : List Key} {key : Key} (taken : key ∈ keys) :
    key < freshKey keys := by
  have bounded : key ≤ keys.foldr max 0 := by
    induction keys with
    | nil => exact (List.not_mem_nil taken).elim
    | cons first rest induction =>
        rcases List.mem_cons.mp taken with rfl | member
        · exact le_max_left _ _
        · exact (induction member).trans (le_max_right _ _)
  exact lt_of_le_of_lt bounded (lt_add_one _)

theorem freshKey_not_mem
    [LinearOrder Key] [Semiring Key] [IsStrictOrderedRing Key]
    (keys : List Key) :
    freshKey keys ∉ keys :=
  fun taken => lt_irrefl _ (lt_freshKey taken)

theorem nodup_concat_freshKey
    [LinearOrder Key] [Semiring Key] [IsStrictOrderedRing Key]
    {keys : List Key} (distinct : keys.Nodup) :
    (keys ++ [freshKey keys]).Nodup := by
  rw [← List.concat_eq_append]
  exact distinct.concat (freshKey_not_mem keys)

end FreshKey

/-- Rows keep distinct keys when one with another key is appended. -/
theorem nodup_map_concat {Row Key : Type} {key : Row → Key}
    {rows : List Row} {row : Row} (distinct : (rows.map key).Nodup)
    (new : ∀ other ∈ rows, key other ≠ key row) :
    ((rows ++ [row]).map key).Nodup := by
  rw [List.map_append, List.map_singleton, ← List.concat_eq_append]
  apply distinct.concat
  intro taken
  rcases List.mem_map.mp taken with ⟨other, member, equal⟩
  exact new other member equal

/-! ## Updates of the first matching row -/

section UpdateFirst

variable {Row : Type}

/-- Rewrite the first row that matches. -/
def updateFirst
    (isMatch : Row → Bool) (update : Row → Row) :
    List Row → List Row
  | [] => []
  | row :: rest =>
      if isMatch row then update row :: rest
      else row :: updateFirst isMatch update rest

theorem countP_updateFirst
    (isMatch count : Row → Bool) (update : Row → Row)
    (keeps : ∀ row, count (update row) = count row) (rows : List Row) :
    (updateFirst isMatch update rows).countP count =
      rows.countP count := by
  induction rows with
  | nil => rfl
  | cons row rest induction =>
      by_cases found : isMatch row = true
      · simp [updateFirst, found, List.countP_cons, keeps]
      · simp [updateFirst, found, List.countP_cons, induction]

/-- The first match afterwards is the updated first match. -/
theorem find?_updateFirst
    (isMatch : Row → Bool) (update : Row → Row)
    (keeps : ∀ row, isMatch (update row) = isMatch row)
    (rows : List Row) :
    (updateFirst isMatch update rows).find? isMatch =
      (rows.find? isMatch).map update := by
  induction rows with
  | nil => rfl
  | cons row rest induction =>
      by_cases found : isMatch row = true
      · simp [updateFirst, found, keeps]
      · simp [updateFirst, found, induction]

/-- A search that misses every match is not affected. -/
theorem find?_updateFirst_of_disjoint
    (isMatch other : Row → Bool) (update : Row → Row)
    (keeps : ∀ row, other (update row) = other row)
    (disjoint : ∀ row, isMatch row = true → other row = false)
    (rows : List Row) :
    (updateFirst isMatch update rows).find? other =
      rows.find? other := by
  induction rows with
  | nil => rfl
  | cons row rest induction =>
      by_cases found : isMatch row = true
      · simp [updateFirst, found, keeps, disjoint row found]
      · by_cases otherFound : other row = true <;>
          simp [updateFirst, found, otherFound, induction]

/-- Every row afterwards is an old row or the update of a matching one. -/
theorem getElem?_updateFirst
    (isMatch : Row → Bool) (update : Row → Row)
    (rows : List Row) (index : ℕ) (row : Row)
    (present : rows[index]? = some row) :
    (updateFirst isMatch update rows)[index]? = some row ∨
      (isMatch row = true ∧
        (updateFirst isMatch update rows)[index]? =
          some (update row)) := by
  induction rows generalizing index with
  | nil => simp at present
  | cons head rest induction =>
      by_cases found : isMatch head = true
      · cases index with
        | zero =>
            right
            simp only [List.getElem?_cons_zero,
              Option.some.injEq] at present
            subst head
            simp [updateFirst, found]
        | succ index =>
            left
            simpa [updateFirst, found] using present
      · cases index with
        | zero =>
            left
            simpa [updateFirst, found] using present
        | succ index =>
            simp only [List.getElem?_cons_succ] at present
            simpa [updateFirst, found] using
              induction index present

/-- Rows that no match and no updated match is among stay the same. -/
theorem filter_updateFirst_of_excluded
    (isMatch keep : Row → Bool) (update : Row → Row)
    (excluded : ∀ row, isMatch row = true →
      keep row = false ∧ keep (update row) = false)
    (rows : List Row) :
    (updateFirst isMatch update rows).filter keep =
      rows.filter keep := by
  induction rows with
  | nil => rfl
  | cons row rest induction =>
      by_cases found : isMatch row = true
      · simp [updateFirst, found, excluded row found]
      · simp [updateFirst, found, List.filter_cons, induction]

/-- Every row is related to the row at its position afterwards. -/
theorem forall₂_updateFirst
    {relation : Row → Row → Prop} (unchanged : ∀ row, relation row row)
    (isMatch : Row → Bool) (update : Row → Row) (rows : List Row)
    (updated : ∀ row, rows.find? isMatch = some row →
      relation row (update row)) :
    List.Forall₂ relation rows (updateFirst isMatch update rows) := by
  induction rows with
  | nil => exact List.Forall₂.nil
  | cons row rest induction =>
      by_cases found : isMatch row = true
      · rw [updateFirst, if_pos found]
        exact
          List.Forall₂.cons
            (updated row (List.find?_cons_of_pos found))
            (List.forall₂_same.mpr fun other _ => unchanged other)
      · rw [updateFirst, if_neg found]
        apply List.Forall₂.cons (unchanged row)
        apply induction
        intro other first
        apply updated
        rw [List.find?_cons_of_neg found]
        exact first

end UpdateFirst

end SultanPass.Library
