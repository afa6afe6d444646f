import Mathlib.Data.List.Forall2

/-!
# Lists related position by position

Two lists of one length whose entries are related, such as payload entries
and the rows stored for them, or the rows of a table before and after an
update.  What a query reads of a row is the same for related rows, so its
result is the same for related lists.
-/

namespace SultanPass.Library

variable {Entry Row Value : Type} {related other : Entry → Row → Prop}
  {entries : List Entry} {rows : List Row}

theorem exists_entry_of_row
    (all : List.Forall₂ related entries rows)
    {row : Row} (listed : row ∈ rows) :
    ∃ entry ∈ entries, related entry row := by
  induction all with
  | nil => exact (List.not_mem_nil listed).elim
  | cons first _ induction =>
      rcases List.mem_cons.mp listed with rfl | later
      · exact ⟨_, List.mem_cons_self, first⟩
      · rcases induction later with ⟨entry, member, holds⟩
        exact ⟨entry, List.mem_cons_of_mem _ member, holds⟩

theorem exists_row_of_entry
    (all : List.Forall₂ related entries rows)
    {entry : Entry} (listed : entry ∈ entries) :
    ∃ row ∈ rows, related entry row := by
  have flipped :
      List.Forall₂ (fun row entry => related entry row) rows entries :=
    all.flip
  exact exists_entry_of_row flipped listed

/-- What is shown of each pair of listed values holds of the lists. -/
theorem forall₂_of_mem
    (all : List.Forall₂ related entries rows)
    (follows : ∀ entry ∈ entries, ∀ row ∈ rows, related entry row →
      other entry row) :
    List.Forall₂ other entries rows := by
  induction all with
  | nil => exact List.Forall₂.nil
  | cons first _ induction =>
      exact
        List.Forall₂.cons
          (follows _ List.mem_cons_self _ List.mem_cons_self first)
          (induction fun entry listed row member =>
            follows entry (List.mem_cons_of_mem _ listed) row
              (List.mem_cons_of_mem _ member))

/-- A reading that related values share. -/
theorem map_eq_of_forall₂
    (all : List.Forall₂ related entries rows)
    {first : Entry → Value} {second : Row → Value}
    (same : ∀ entry row, related entry row →
      first entry = second row) :
    entries.map first = rows.map second := by
  induction all with
  | nil => rfl
  | cons holds _ induction =>
      rw [List.map_cons, List.map_cons, same _ _ holds, induction]

theorem filterMap_eq_of_forall₂
    (all : List.Forall₂ related entries rows)
    {first : Entry → Option Value} {second : Row → Option Value}
    (same : ∀ entry row, related entry row →
      first entry = second row) :
    entries.filterMap first = rows.filterMap second := by
  induction all with
  | nil => rfl
  | cons holds _ induction =>
      rw [List.filterMap_cons, List.filterMap_cons, same _ _ holds,
        induction]

/-- A selection that related values share. -/
theorem forall₂_filter
    (all : List.Forall₂ related entries rows)
    {first : Entry → Bool} {second : Row → Bool}
    (same : ∀ entry row, related entry row →
      first entry = second row) :
    List.Forall₂ related (entries.filter first)
      (rows.filter second) := by
  apply List.rel_filter _ all
  intro entry row holds
  change first entry = true ↔ second row = true
  rw [same entry row holds]

/-- Related values at the same positions. -/
theorem forall₂_zipIdx
    (all : List.Forall₂ related entries rows) (start : ℕ) :
    List.Forall₂
      (fun left right =>
        related left.1 right.1 ∧ left.2 = right.2)
      (entries.zipIdx start) (rows.zipIdx start) := by
  induction all generalizing start with
  | nil => exact List.Forall₂.nil
  | cons first _ induction =>
      exact List.Forall₂.cons ⟨first, rfl⟩ (induction (start + 1))

/-- Two relations along one list in the middle. -/
theorem forall₂_trans {Later : Type}
    {next : Row → Later → Prop} {both : Entry → Later → Prop}
    (compose : ∀ {entry row later},
      related entry row → next row later → both entry later)
    {laters : List Later}
    (first : List.Forall₂ related entries rows)
    (second : List.Forall₂ next rows laters) :
    List.Forall₂ both entries laters := by
  induction first generalizing laters with
  | nil =>
      cases second
      exact List.Forall₂.nil
  | cons holds _ induction =>
      cases second with
      | cons follows rest =>
          exact List.Forall₂.cons (compose holds follows) (induction rest)

end SultanPass.Library
