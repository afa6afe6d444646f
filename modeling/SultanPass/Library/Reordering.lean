import SultanPass.Library.ExceptLoop
import SultanPass.Library.OrderedMap
import SultanPass.Library.Pointwise
import Mathlib.Data.List.Perm.Basic

/-!
# Lists with their entries in another order

A query returns its rows in no particular order, and an entry may itself be
a list that comes back in another order.  `Reordered same left right` says
that `right` has the entries of `left` in some order, each replaced by one
that is `same`.

A loop that evaluates its entries respects this relation, and so do the
accumulators of a keyed fold whose additions commute.
-/

namespace SultanPass.Library

variable {Entry Other Error Value Result : Type}

/-- The entries of the first list in another order, up to a relation. -/
def Reordered (same : Entry → Other → Prop)
    (left : List Entry) (right : List Other) : Prop :=
  ∃ middle, left.Perm middle ∧ List.Forall₂ same middle right

namespace Reordered

variable {same : Entry → Other → Prop} {left : List Entry}
  {right : List Other}

theorem of_perm_of_refl {similar : Entry → Entry → Prop}
    (reflexive : ∀ entry, similar entry entry)
    {left right : List Entry} (perm : left.Perm right) :
    Reordered similar left right :=
  ⟨right, perm, List.forall₂_same.mpr fun entry _ => reflexive entry⟩

theorem perm {left right : List Entry}
    (reordered : Reordered Eq left right) : left.Perm right := by
  rcases reordered with ⟨middle, moved, equal⟩
  rw [List.forall₂_eq_eq_eq] at equal
  exact equal ▸ moved

theorem imp {weaker : Entry → Other → Prop}
    (reordered : Reordered same left right)
    (implies : ∀ entry other, same entry other → weaker entry other) :
    Reordered weaker left right := by
  rcases reordered with ⟨middle, moved, each⟩
  exact ⟨middle, moved, each.imp fun {_ _} => implies _ _⟩

theorem symm (reordered : Reordered same left right) :
    Reordered (fun other entry => same entry other) right left := by
  rcases reordered with ⟨middle, moved, each⟩
  rcases List.perm_comp_forall₂ moved each with
    ⟨between, each, back⟩
  exact ⟨between, back.symm, List.Forall₂.flip each⟩

theorem map {First Second : Type} {other : First → Second → Prop}
    (reordered : Reordered same left right)
    (first : Entry → First) (second : Other → Second)
    (maps : ∀ entry other',
      same entry other' → other (first entry) (second other')) :
    Reordered other (left.map first) (right.map second) := by
  rcases reordered with ⟨middle, moved, each⟩
  refine ⟨middle.map first, moved.map first, ?_⟩
  rw [List.forall₂_map_left_iff, List.forall₂_map_right_iff]
  exact each.imp fun {_ _} => maps _ _

/-- Choosing entries by what the relation keeps. -/
theorem filter (reordered : Reordered same left right)
    {choose : Entry → Bool} {chooseOther : Other → Bool}
    (agree : ∀ entry other,
      same entry other → choose entry = chooseOther other) :
    Reordered same (left.filter choose)
      (right.filter chooseOther) := by
  rcases reordered with ⟨middle, moved, each⟩
  exact
    ⟨middle.filter choose, moved.filter choose,
      forall₂_filter each agree⟩

/-- A relation after another order. -/
theorem comp_forall₂ {Third : Type} {other : Other → Third → Prop}
    {both : Entry → Third → Prop} {last : List Third}
    (reordered : Reordered same left right)
    (each : List.Forall₂ other right last)
    (composes : ∀ entry middle third,
      same entry middle → other middle third → both entry third) :
    Reordered both left last := by
  rcases reordered with ⟨middle, moved, counterparts⟩
  refine ⟨middle, moved, forall₂_trans ?_ counterparts each⟩
  intro entry next third first second
  exact composes entry next third first second

/-- Lists in another order, each with its own entries in another order. -/
theorem perm_flatten {left right : List (List Entry)}
    (reordered : Reordered List.Perm left right) :
    left.flatten.Perm right.flatten := by
  rcases reordered with ⟨middle, moved, each⟩
  apply moved.flatten.trans
  clear moved
  induction each with
  | nil => exact List.Perm.nil
  | cons head tail induction =>
      rw [List.flatten_cons, List.flatten_cons]
      exact head.append induction

/--
When each entry that evaluates has its counterpart evaluate to a related
value, so does a loop over all of them.
-/
theorem mapM_eq_ok {related : Value → Result → Prop}
    {evaluate : Entry → Except Error Value}
    {evaluateOther : Other → Except Error Result}
    (reordered : Reordered same left right)
    (each : ∀ entry other value,
      same entry other → evaluate entry = .ok value →
        ∃ result, evaluateOther other = .ok result ∧
          related value result)
    {values : List Value} (returns : left.mapM evaluate = .ok values) :
    ∃ results, right.mapM evaluateOther = .ok results ∧
      Reordered related values results := by
  rcases reordered with ⟨middle, moved, counterparts⟩
  rw [mapM_eq_ok_iff] at returns
  rcases List.perm_comp_forall₂ moved.symm returns with
    ⟨between, evaluated, back⟩
  have results :
      ∃ results, right.mapM evaluateOther = .ok results ∧
        List.Forall₂ related between results := by
    clear moved returns back
    induction counterparts generalizing between with
    | nil =>
        cases evaluated
        exact ⟨[], rfl, List.Forall₂.nil⟩
    | cons head tail induction =>
        cases evaluated with
        | cons first rest =>
            rcases each _ _ _ head first with
              ⟨result, evaluatesOther, isRelated⟩
            rcases induction _ rest with
              ⟨results, returnsOther, areRelated⟩
            refine
              ⟨result :: results, ?_,
                List.Forall₂.cons isRelated areRelated⟩
            rw [List.mapM_cons, evaluatesOther, returnsOther]
            rfl
  rcases results with ⟨results, returnsOther, areRelated⟩
  exact ⟨results, returnsOther, between, back.symm, areRelated⟩

end Reordered

/-! ## Folds in any order -/

namespace OrderedMap

variable {Key Record : Type} [DecidableEq Key]

/-- The records of one key come in the order of all records. -/
theorem perm_recordsOf {left right : List (Key × Record)}
    (perm : left.Perm right) (key : Key) :
    (recordsOf key left).Perm (recordsOf key right) :=
  (perm.filter _).map _

/-- Accumulators do not depend on the order of their records. -/
theorem perm_tally {initial : Value} {add : Value → Record → Value}
    (commutes : ∀ value first second,
      add (add value first) second = add (add value second) first)
    {left right : List (Key × Record)} (perm : left.Perm right) :
    (tally initial add left).Perm (tally initial add right) := by
  have distinct (records : List (Key × Record)) :
      (tally initial add records).Nodup :=
    List.Nodup.of_map _ (nodup_keys_tally initial add records)
  rw [List.perm_ext_iff_of_nodup (distinct left) (distinct right)]
  rintro ⟨key, result⟩
  have sameFold :
      (recordsOf key left).foldl add initial =
        (recordsOf key right).foldl add initial :=
    (perm_recordsOf perm key).foldl_eq'
      (fun first _ second _ value => commutes value first second)
      initial
  rw [mem_tally_iff, mem_tally_iff, sameFold,
    (perm.map Prod.fst).mem_iff]

end OrderedMap

end SultanPass.Library
