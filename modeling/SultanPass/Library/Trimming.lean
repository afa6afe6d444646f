import Mathlib.Data.List.TakeWhile

/-!
# Lists without their ends

`withoutEnds` removes the longest prefix and the longest suffix whose
values meet a condition.  What is left begins with a value that does not,
and a list with such ends is left as it is.
-/

namespace SultanPass.Library

variable {Value : Type} {remove : Value → Bool} {values : List Value}

/-- A list without the ends that meet a condition. -/
def withoutEnds (remove : Value → Bool) (values : List Value) :
    List Value :=
  ((values.dropWhile remove).reverse.dropWhile remove).reverse

theorem dropWhile_of_head?
    (first : ∀ value ∈ values.head?, remove value = false) :
    values.dropWhile remove = values := by
  cases values with
  | nil => rfl
  | cons value rest =>
      exact List.dropWhile_cons_of_neg (by simp [first value rfl])

/-- Nothing is removed from a list whose ends are kept. -/
theorem withoutEnds_of_ends
    (first : ∀ value ∈ values.head?, remove value = false)
    (last : ∀ value ∈ values.getLast?, remove value = false) :
    withoutEnds remove values = values := by
  rw [← List.head?_reverse] at last
  rw [withoutEnds, dropWhile_of_head? first, dropWhile_of_head? last,
    List.reverse_reverse]

/-- What is left begins with a value that is kept. -/
theorem head?_withoutEnds (remove : Value → Bool)
    (values : List Value) :
    ∀ value ∈ (withoutEnds remove values).head?,
      remove value = false := by
  intro value isFirst
  have isPrefix :
      withoutEnds remove values <+: values.dropWhile remove := by
    rw [← List.reverse_suffix, withoutEnds, List.reverse_reverse]
    exact List.dropWhile_suffix remove
  rcases isPrefix with ⟨rest, whole⟩
  have first : (values.dropWhile remove).head? = some value := by
    rw [← whole, List.head?_append, isFirst]
    rfl
  have kept := List.head?_dropWhile_not remove values
  rw [first] at kept
  exact kept

end SultanPass.Library
