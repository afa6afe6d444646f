import Mathlib.Data.List.Nodup

/-!
# Rows that refer to their owners

A table of children refers to a table of owners by a foreign key.  When new
owners come with their children, and no key is used twice, the children of an
old owner stay the same and the children of a new owner are exactly its own.
-/

namespace SultanPass.Library

variable {Key Owner Child : Type}

/-- Every child refers to one of the keys. -/
def Owned (owner : Child → Key) (children : List Child)
    (keys : List Key) : Prop :=
  ∀ child ∈ children, owner child ∈ keys

theorem owned_flatMap
    {owner : Child → Key} {key : Owner → Key}
    {children : Owner → List Child} {owners : List Owner}
    (owned : ∀ each ∈ owners, Owned owner (children each) [key each]) :
    Owned owner (owners.flatMap children) (owners.map key) := by
  intro child member
  rcases List.mem_flatMap.mp member with ⟨each, listed, isChild⟩
  rw [List.mem_singleton.mp (owned each listed child isChild)]
  exact List.mem_map_of_mem listed

theorem owned_append
    {owner : Child → Key} {first second : List Child}
    {firstKeys secondKeys : List Key}
    (ownedFirst : Owned owner first firstKeys)
    (ownedSecond : Owned owner second secondKeys) :
    Owned owner (first ++ second) (firstKeys ++ secondKeys) := by
  intro child member
  rcases List.mem_append.mp member with old | new
  · exact List.mem_append_left _ (ownedFirst child old)
  · exact List.mem_append_right _ (ownedSecond child new)

variable [DecidableEq Key]

/-- The children of the owner with this key. -/
def childrenOf (owner : Child → Key) (children : List Child)
    (key : Key) : List Child :=
  children.filter fun child => owner child = key

theorem childrenOf_append
    (owner : Child → Key) (first second : List Child) (key : Key) :
    childrenOf owner (first ++ second) key =
      childrenOf owner first key ++ childrenOf owner second key :=
  List.filter_append _ _

/-- A selection among the children of one owner. -/
theorem filter_childrenOf
    {owner : Child → Key} {key : Key} {select : Child → Bool}
    (own : ∀ child, select child = true → owner child = key)
    (children : List Child) :
    (childrenOf owner children key).filter select =
      children.filter select := by
  rw [childrenOf, List.filter_filter]
  apply List.filter_congr
  intro child _
  cases chosen : select child with
  | false => rfl
  | true => exact decide_eq_true (own child chosen)

/-- A key that is not listed has no children. -/
theorem childrenOf_eq_nil
    {owner : Child → Key} {children : List Child} {keys : List Key}
    (owned : Owned owner children keys) {key : Key}
    (unlisted : key ∉ keys) :
    childrenOf owner children key = [] := by
  rw [childrenOf, List.filter_eq_nil_iff]
  intro child member refers
  exact unlisted (of_decide_eq_true refers ▸ owned child member)

theorem childrenOf_eq_self
    {owner : Child → Key} {children : List Child} {key : Key}
    (owned : Owned owner children [key]) :
    childrenOf owner children key = children := by
  rw [childrenOf, List.filter_eq_self]
  intro child member
  exact decide_eq_true (List.mem_singleton.mp (owned child member))

/-- Among the children of distinct owners, one owner has its own. -/
theorem childrenOf_flatMap
    {owner : Child → Key} {key : Owner → Key}
    {children : Owner → List Child} {owners : List Owner}
    (distinct : (owners.map key).Nodup)
    (owned : ∀ each ∈ owners, Owned owner (children each) [key each])
    {parent : Owner} (listed : parent ∈ owners) :
    childrenOf owner (owners.flatMap children) (key parent) =
      children parent := by
  induction owners with
  | nil => exact (List.not_mem_nil listed).elim
  | cons first rest induction =>
      rw [List.map_cons, List.nodup_cons] at distinct
      have ownedRest : ∀ each ∈ rest,
          Owned owner (children each) [key each] :=
        fun each member => owned each (List.mem_cons_of_mem _ member)
      have ownedFirst := owned first List.mem_cons_self
      rw [List.flatMap_cons, childrenOf_append]
      rcases List.mem_cons.mp listed with rfl | later
      · rw [childrenOf_eq_self ownedFirst,
          childrenOf_eq_nil (owned_flatMap ownedRest) distinct.1,
          List.append_nil]
      · have other : key parent ∉ [key first] := by
          intro same
          rw [List.mem_singleton] at same
          exact distinct.1 (same ▸ List.mem_map_of_mem later)
        rw [childrenOf_eq_nil ownedFirst other, List.nil_append,
          induction distinct.2 ownedRest later]

section Insertion

variable {owner : Child → Key} {key : Owner → Key}
  {children : Owner → List Child} {old : List Child}
  {oldKeys : List Key} {owners : List Owner}

/-- The children of a new owner are those that came with it. -/
theorem childrenOf_new_owner
    (ownedOld : Owned owner old oldKeys)
    (distinct : (oldKeys ++ owners.map key).Nodup)
    (owned : ∀ each ∈ owners, Owned owner (children each) [key each])
    {parent : Owner} (listed : parent ∈ owners) :
    childrenOf owner (old ++ owners.flatMap children) (key parent) =
      children parent := by
  rcases List.nodup_append'.mp distinct with ⟨_, distinctNew, disjoint⟩
  have fresh : key parent ∉ oldKeys := fun taken =>
    disjoint taken (List.mem_map_of_mem listed)
  rw [childrenOf_append, childrenOf_eq_nil ownedOld fresh,
    List.nil_append, childrenOf_flatMap distinctNew owned listed]

/-- The children of an old owner stay the same. -/
theorem childrenOf_old_owner
    (distinct : (oldKeys ++ owners.map key).Nodup)
    (owned : ∀ each ∈ owners, Owned owner (children each) [key each])
    {parent : Key} (listed : parent ∈ oldKeys) :
    childrenOf owner (old ++ owners.flatMap children) parent =
      childrenOf owner old parent := by
  rcases List.nodup_append'.mp distinct with ⟨_, _, disjoint⟩
  have fresh : parent ∉ owners.map key := fun taken =>
    disjoint listed taken
  rw [childrenOf_append,
    childrenOf_eq_nil (owned_flatMap owned) fresh, List.append_nil]

end Insertion

end SultanPass.Library
