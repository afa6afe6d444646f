import Mathlib.Data.List.Basic
import Mathlib.Data.List.Nodup

/-!
# Tables with an auto-increment key and unique indexes

An `IndexedTable` carries its primary key, the next value of that key and
the uniqueness of every index.  A key is given once: the next one is above
all keys, also above those of deleted rows.

`create` and `update` fail when an index would hold a value twice, and only
then.
-/

namespace SultanPass.Library

/-- Rows under a primary key that counts up, and under unique indexes. -/
structure IndexedTable {Row Value : Type}
    (key : Row → ℕ) (indexes : List (Row → Value)) where
  rows : List Row
  nextKey : ℕ
  keys : (rows.map key).Nodup
  below : ∀ row ∈ rows, key row < nextKey
  unique : ∀ index ∈ indexes, (rows.map index).Nodup

namespace IndexedTable

variable {Row Value : Type} {key : Row → ℕ}
  {indexes : List (Row → Value)}

@[ext]
theorem ext
    {left right : IndexedTable key indexes}
    (rows : left.rows = right.rows)
    (nextKey : left.nextKey = right.nextKey) :
    left = right := by
  cases left
  cases right
  cases rows
  cases nextKey
  rfl

/-! ## Reading -/

/-- The row of a key. -/
def find? (table : IndexedTable key indexes) (wanted : ℕ) : Option Row :=
  table.rows.find? fun row => key row = wanted

theorem eq_of_key
    (table : IndexedTable key indexes) {left right : Row}
    (leftMember : left ∈ table.rows) (rightMember : right ∈ table.rows)
    (same : key left = key right) :
    left = right :=
  List.inj_on_of_nodup_map table.keys leftMember rightMember same

theorem eq_of_index
    (table : IndexedTable key indexes) {index : Row → Value}
    (isIndex : index ∈ indexes) {left right : Row}
    (leftMember : left ∈ table.rows) (rightMember : right ∈ table.rows)
    (same : index left = index right) :
    left = right :=
  List.inj_on_of_nodup_map (table.unique index isIndex) leftMember
    rightMember same

theorem find?_eq_some_iff
    (table : IndexedTable key indexes) (wanted : ℕ) (row : Row) :
    table.find? wanted = some row ↔
      row ∈ table.rows ∧ key row = wanted := by
  constructor
  · intro found
    exact
      ⟨List.mem_of_find?_eq_some found,
        by simpa using List.find?_some found⟩
  · rintro ⟨member, rfl⟩
    cases found : table.find? (key row) with
    | none =>
        have absent := List.find?_eq_none.mp found row member
        simp at absent
    | some other =>
        have otherKey : key other = key row := by
          simpa using List.find?_some found
        rw [table.eq_of_key (List.mem_of_find?_eq_some found) member
          otherKey]

theorem find?_eq_none_iff
    (table : IndexedTable key indexes) (wanted : ℕ) :
    table.find? wanted = none ↔
      ∀ row ∈ table.rows, key row ≠ wanted := by
  simp [find?]

theorem find?_key
    (table : IndexedTable key indexes) {row : Row}
    (member : row ∈ table.rows) :
    table.find? (key row) = some row :=
  (table.find?_eq_some_iff _ _).mpr ⟨member, rfl⟩

/-- No row has the next key yet. -/
theorem key_ne_nextKey
    (table : IndexedTable key indexes) {row : Row}
    (member : row ∈ table.rows) :
    key row ≠ table.nextKey :=
  Nat.ne_of_lt (table.below row member)

/-! ## Unique values -/

section Taken

variable [DecidableEq Value]

/-- Another row than the ignored one has the value. -/
def Taken (table : IndexedTable key indexes) (index : Row → Value)
    (value : Value) (ignored : Option ℕ) : Prop :=
  ∃ row ∈ table.rows, index row = value ∧ ignored ≠ some (key row)

instance (table : IndexedTable key indexes) (index : Row → Value)
    (value : Value) (ignored : Option ℕ) :
    Decidable (table.Taken index value ignored) :=
  inferInstanceAs (Decidable (∃ row ∈ table.rows, _))

/-- No index holds a value of the row elsewhere. -/
def Free (table : IndexedTable key indexes) (row : Row)
    (ignored : Option ℕ) : Prop :=
  ∀ index ∈ indexes, ¬ table.Taken index (index row) ignored

instance (table : IndexedTable key indexes) (row : Row)
    (ignored : Option ℕ) :
    Decidable (table.Free row ignored) :=
  inferInstanceAs (Decidable (∀ index ∈ indexes, _))

/-! ## Insertion -/

/-- Insert a row under the next key. -/
def create (table : IndexedTable key indexes) (row : ℕ → Row)
    (own : ∀ id, key (row id) = id) : Option (IndexedTable key indexes) :=
  if free : table.Free (row table.nextKey) none then
    some
      { rows := table.rows ++ [row table.nextKey]
        nextKey := table.nextKey + 1
        keys := by
          rw [List.map_append, List.map_singleton,
            ← List.concat_eq_append]
          apply table.keys.concat
          intro taken
          rcases List.mem_map.mp taken with ⟨other, member, same⟩
          exact table.key_ne_nextKey member (same.trans (own _))
        below := by
          intro other member
          rcases List.mem_append.mp member with old | new
          · exact
              Nat.lt_trans (table.below other old) (Nat.lt_succ_self _)
          · rw [List.mem_singleton.mp new, own]
            exact Nat.lt_succ_self _
        unique := by
          intro index isIndex
          rw [List.map_append, List.map_singleton,
            ← List.concat_eq_append]
          apply (table.unique index isIndex).concat
          intro taken
          rcases List.mem_map.mp taken with ⟨other, member, same⟩
          apply free index isIndex
          refine ⟨other, member, same, ?_⟩
          intro impossible
          cases impossible }
  else none

/-- An insertion succeeds exactly when its values are free. -/
theorem create_eq_some_iff
    (table after : IndexedTable key indexes) (row : ℕ → Row)
    (own : ∀ id, key (row id) = id) :
    table.create row own = some after ↔
      table.Free (row table.nextKey) none ∧
        after.rows = table.rows ++ [row table.nextKey] ∧
        after.nextKey = table.nextKey + 1 := by
  unfold create
  split_ifs with free
  · rw [Option.some_inj]
    constructor
    · rintro rfl
      exact ⟨free, rfl, rfl⟩
    · rintro ⟨_, rows, nextKey⟩
      exact ext rows.symm nextKey.symm
  · constructor
    · intro impossible
      cases impossible
    · intro created
      exact (free created.1).elim

/-! ## Updates -/

/-- Rewrite the row of one key. -/
def update (table : IndexedTable key indexes) (wanted : ℕ)
    (fill : Row → Row) (keeps : ∀ row, key (fill row) = key row) :
    Option (IndexedTable key indexes) :=
  if free :
      ∀ row ∈ table.rows, key row = wanted →
        table.Free (fill row) (some wanted) then
    some
      { rows :=
          table.rows.map fun row =>
            if key row = wanted then fill row else row
        nextKey := table.nextKey
        keys := by
          have sameKeys :
              (table.rows.map fun row =>
                  if key row = wanted then fill row else row).map key =
                table.rows.map key := by
            rw [List.map_map]
            apply List.map_congr_left
            intro row _
            by_cases found : key row = wanted <;> simp [found, keeps]
          rw [sameKeys]
          exact table.keys
        below := by
          intro row member
          rcases List.mem_map.mp member with ⟨old, isOld, rfl⟩
          have sameKey :
              key (if key old = wanted then fill old else old) =
                key old := by
            split_ifs
            · exact keeps old
            · rfl
          rw [sameKey]
          exact table.below old isOld
        unique := by
          intro index isIndex
          rw [List.map_map]
          apply (List.Nodup.of_map key table.keys).map_on
          intro left leftMember right rightMember same
          dsimp only [Function.comp_apply] at same
          by_cases leftFound : key left = wanted
          · by_cases rightFound : key right = wanted
            · exact
                table.eq_of_key leftMember rightMember
                  (leftFound.trans rightFound.symm)
            · rw [if_pos leftFound, if_neg rightFound] at same
              refine
                (free left leftMember leftFound index isIndex
                  ⟨right, rightMember, same.symm, ?_⟩).elim
              intro equal
              exact rightFound (Option.some.inj equal).symm
          · by_cases rightFound : key right = wanted
            · rw [if_neg leftFound, if_pos rightFound] at same
              refine
                (free right rightMember rightFound index isIndex
                  ⟨left, leftMember, same, ?_⟩).elim
              intro equal
              exact leftFound (Option.some.inj equal).symm
            · rw [if_neg leftFound, if_neg rightFound] at same
              exact
                table.eq_of_index isIndex leftMember rightMember same }
  else none

/-- An update succeeds exactly when its values are free. -/
theorem update_eq_some_iff
    (table after : IndexedTable key indexes) (wanted : ℕ)
    (fill : Row → Row) (keeps : ∀ row, key (fill row) = key row) :
    table.update wanted fill keeps = some after ↔
      (∀ row ∈ table.rows, key row = wanted →
          table.Free (fill row) (some wanted)) ∧
        (after.rows =
          table.rows.map fun row =>
            if key row = wanted then fill row else row) ∧
        after.nextKey = table.nextKey := by
  unfold update
  split_ifs with free
  · rw [Option.some_inj]
    constructor
    · rintro rfl
      exact ⟨free, rfl, rfl⟩
    · rintro ⟨_, rows, nextKey⟩
      exact ext rows.symm nextKey.symm
  · constructor
    · intro impossible
      cases impossible
    · intro updated
      exact (free updated.1).elim

end Taken

/-- Rewrite every row by a function that keeps its key and its indexes. -/
def refresh (table : IndexedTable key indexes) (fill : Row → Row)
    (keepsKey : ∀ row, key (fill row) = key row)
    (keepsIndexes :
      ∀ index ∈ indexes, ∀ row, index (fill row) = index row) :
    IndexedTable key indexes where
  rows := table.rows.map fill
  nextKey := table.nextKey
  keys := by
    have sameKeys : key ∘ fill = key := funext keepsKey
    rw [List.map_map, sameKeys]
    exact table.keys
  below := by
    intro row member
    rcases List.mem_map.mp member with ⟨old, isOld, rfl⟩
    rw [keepsKey]
    exact table.below old isOld
  unique := by
    intro index isIndex
    have sameIndex : index ∘ fill = index :=
      funext (keepsIndexes index isIndex)
    rw [List.map_map, sameIndex]
    exact table.unique index isIndex

/-! ## Deletion -/

/-- Delete the row of a key. -/
def delete (table : IndexedTable key indexes) (wanted : ℕ) :
    IndexedTable key indexes where
  rows := table.rows.filter fun row => key row ≠ wanted
  nextKey := table.nextKey
  keys := (List.filter_sublist.map key).nodup table.keys
  below := fun row member =>
    table.below row (List.mem_filter.mp member).1
  unique := fun index isIndex =>
    (List.filter_sublist.map index).nodup (table.unique index isIndex)

theorem mem_rows_delete
    (table : IndexedTable key indexes) (wanted : ℕ) (row : Row) :
    row ∈ (table.delete wanted).rows ↔
      row ∈ table.rows ∧ key row ≠ wanted := by
  simp [delete]

end IndexedTable

end SultanPass.Library
