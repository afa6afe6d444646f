import Mathlib.Logic.Basic

/-!
# Validation that collects its errors

A validator gives a value, or the rules that its input breaks.  `both` runs
two validators and keeps the errors of each, so a form is validated as a
whole; it is accepted when every field is.
-/

namespace SultanPass.Library

/-- A field with the rule that it breaks. -/
structure FieldError where
  field : String
  rule : String
deriving DecidableEq, Repr

abbrev Validated (Value : Type) :=
  Except (List FieldError) Value

namespace Validated

variable {Left Right Value : Type}

/-- Both values, or the errors of both. -/
def both : Validated Left → Validated Right → Validated (Left × Right)
  | .ok left, .ok right => .ok (left, right)
  | .ok _, .error errors => .error errors
  | .error errors, .ok _ => .error errors
  | .error errors, .error more => .error (errors ++ more)

@[simp]
theorem both_eq_ok_iff (left : Validated Left)
    (right : Validated Right) (values : Left × Right) :
    both left right = .ok values ↔
      left = .ok values.1 ∧ right = .ok values.2 := by
  cases left with
  | error errors =>
      cases right with
      | error more => simp [both]
      | ok value => simp [both]
  | ok value =>
      cases right with
      | error more => simp [both]
      | ok other => simp [both, Prod.ext_iff]

/-- The value, if every rule holds. -/
def rules (field : String) (checks : List (String × Bool))
    (value : Value) : Validated Value :=
  match checks.filter fun check => !check.2 with
  | [] => .ok value
  | broken =>
      .error
        (broken.map fun check => { field := field, rule := check.1 })

theorem rules_eq_ok_iff (field : String)
    (checks : List (String × Bool)) (value accepted : Value) :
    rules field checks value = .ok accepted ↔
      (∀ check ∈ checks, check.2 = true) ∧ value = accepted := by
  have noneBroken :
      (checks.filter fun check => !check.2) = [] ↔
        ∀ check ∈ checks, check.2 = true := by
    rw [List.filter_eq_nil_iff]
    simp
  rw [rules, ← noneBroken]
  cases broken : checks.filter fun check => !check.2 with
  | nil => simp
  | cons check rest => simp

/-- A value that has to be there. -/
def present (field : String) : Option Value → Validated Value
  | some value => .ok value
  | none => .error [{ field := field, rule := "required" }]

@[simp]
theorem present_eq_ok_iff (field : String) (value : Option Value)
    (accepted : Value) :
    present field value = .ok accepted ↔ value = some accepted := by
  cases value with
  | none => simp [present]
  | some other => simp [present]

/-- A value that may be absent and is validated otherwise. -/
def nullable (validator : Value → Validated Value) :
    Option Value → Validated (Option Value)
  | none => .ok none
  | some value => (validator value).map some

end Validated

end SultanPass.Library
