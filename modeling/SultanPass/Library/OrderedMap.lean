import Mathlib.Data.List.Induction
import Mathlib.Data.List.Nodup

/-!
# Insertion-ordered maps and keyed accumulation

A map with the iteration order of its insertions is a list of entries with
distinct keys.  `adjust` updates the entry of a key in place and appends a
new one for a key not seen before.  `tally` folds a list of keyed records
into such a map, one accumulator for each key.

`mem_tally_iff` describes the result without the loop: the keys are those of
the records, and the accumulator of a key is the fold over the records of
that key alone.
-/

namespace SultanPass.Library.OrderedMap

variable {Key Record Value : Type} [DecidableEq Key]

/-- Update the entry of a key, starting it from `initial` when it is new. -/
def adjust
    (key : Key) (initial : Value) (update : Value → Value) :
    List (Key × Value) → List (Key × Value)
  | [] => [(key, update initial)]
  | (head, value) :: rest =>
      if head = key then (head, update value) :: rest
      else (head, value) :: adjust key initial update rest

/-- Fold keyed records into one accumulator for each key. -/
def tally
    (initial : Value) (add : Value → Record → Value)
    (records : List (Key × Record)) :
    List (Key × Value) :=
  records.foldl
    (fun entries record =>
      adjust record.1 initial (fun value => add value record.2) entries)
    []

/-- The records of one key, in order. -/
def recordsOf
    (key : Key) (records : List (Key × Record)) : List Record :=
  (records.filter fun record => record.1 = key).map Prod.snd

@[simp]
theorem recordsOf_append
    (key : Key) (left right : List (Key × Record)) :
    recordsOf key (left ++ right) =
      recordsOf key left ++ recordsOf key right := by
  simp [recordsOf]

theorem recordsOf_eq_nil_iff
    (key : Key) (records : List (Key × Record)) :
    recordsOf key records = [] ↔
      key ∉ records.map Prod.fst := by
  simp only [recordsOf, List.map_eq_nil_iff,
    List.filter_eq_nil_iff, decide_eq_true_eq, List.mem_map,
    not_exists, not_and]

theorem mem_keys_adjust_iff
    (key other : Key) (initial : Value) (update : Value → Value)
    (entries : List (Key × Value)) :
    other ∈ (adjust key initial update entries).map Prod.fst ↔
      other = key ∨ other ∈ entries.map Prod.fst := by
  induction entries with
  | nil => simp [adjust]
  | cons entry rest induction =>
      obtain ⟨head, value⟩ := entry
      by_cases equal : head = key
      · subst head
        simp [adjust]
      · simp only [adjust, equal, if_false, List.map_cons,
          List.mem_cons, induction]
        tauto

/-- A new key comes last. -/
theorem adjust_of_not_mem
    {key : Key} {initial : Value} {update : Value → Value}
    {entries : List (Key × Value)}
    (new : key ∉ entries.map Prod.fst) :
    adjust key initial update entries =
      entries ++ [(key, update initial)] := by
  induction entries with
  | nil => rfl
  | cons entry rest induction =>
      rw [List.map_cons, List.mem_cons, not_or] at new
      rw [adjust, if_neg (Ne.symm new.1), induction new.2]
      rfl

/-- The last entry is adjusted in place. -/
theorem adjust_concat
    {key : Key} {initial value : Value} {update : Value → Value}
    {entries : List (Key × Value)}
    (new : key ∉ entries.map Prod.fst) :
    adjust key initial update (entries ++ [(key, value)]) =
      entries ++ [(key, update value)] := by
  induction entries with
  | nil => exact if_pos rfl
  | cons entry rest induction =>
      rw [List.map_cons, List.mem_cons, not_or] at new
      rw [List.cons_append, adjust, if_neg (Ne.symm new.1),
        induction new.2]
      rfl

/-- Part of the values is adjusted like a map of that part alone. -/
theorem map_adjust {Part : Type}
    (part : Value → Part) (key : Key) (initial : Value)
    (update : Value → Value) (updatePart : Part → Part)
    (projects : ∀ value, part (update value) = updatePart (part value))
    (entries : List (Key × Value)) :
    (adjust key initial update entries).map
        (fun entry => (entry.1, part entry.2)) =
      adjust key (part initial) updatePart
        (entries.map fun entry => (entry.1, part entry.2)) := by
  induction entries with
  | nil => simp [adjust, projects]
  | cons entry rest induction =>
      rcases entry with ⟨head, value⟩
      by_cases equal : head = key
      · simp [adjust, equal, projects]
      · simp [adjust, equal, induction]

/-- What the entries share, an adjusted entry may share as well. -/
theorem forall_mem_adjust
    (shares : Key → Value → Prop) {key : Key} {initial : Value}
    {update : Value → Value} {entries : List (Key × Value)}
    (all : ∀ entry ∈ entries, shares entry.1 entry.2)
    (first : shares key (update initial))
    (keeps : ∀ value, shares key value → shares key (update value)) :
    ∀ entry ∈ adjust key initial update entries,
      shares entry.1 entry.2 := by
  induction entries with
  | nil =>
      rintro entry (_ | ⟨_, ⟨⟩⟩)
      exact first
  | cons entry rest induction =>
      rcases entry with ⟨head, value⟩
      rw [List.forall_mem_cons] at all
      by_cases equal : head = key
      · subst head
        rw [adjust, if_pos rfl, List.forall_mem_cons]
        exact ⟨keeps value all.1, all.2⟩
      · rw [adjust, if_neg equal, List.forall_mem_cons]
        exact ⟨all.1, induction all.2⟩

/-- `adjust` keeps the keys distinct. -/
theorem nodup_keys_adjust
    (key : Key) (initial : Value) (update : Value → Value)
    (entries : List (Key × Value))
    (distinct : (entries.map Prod.fst).Nodup) :
    ((adjust key initial update entries).map Prod.fst).Nodup := by
  induction entries with
  | nil => simp [adjust]
  | cons entry rest induction =>
      obtain ⟨head, value⟩ := entry
      rw [List.map_cons, List.nodup_cons] at distinct
      by_cases equal : head = key
      · simpa [adjust, equal] using distinct
      · simp only [adjust, equal, if_false, List.map_cons,
          List.nodup_cons]
        refine ⟨?_, induction distinct.2⟩
        rw [mem_keys_adjust_iff]
        rintro (headEqual | member)
        · exact equal headEqual
        · exact distinct.1 member

/-- The entries after `adjust`: the adjusted one and the untouched others. -/
theorem mem_adjust_iff
    (key other : Key) (initial result : Value)
    (update : Value → Value)
    (entries : List (Key × Value))
    (distinct : (entries.map Prod.fst).Nodup) :
    (other, result) ∈ adjust key initial update entries ↔
      (other ≠ key ∧ (other, result) ∈ entries) ∨
        (other = key ∧
          ((key ∉ entries.map Prod.fst ∧ result = update initial) ∨
            ∃ value, (key, value) ∈ entries ∧
              result = update value)) := by
  induction entries with
  | nil => simp [adjust]
  | cons entry rest induction =>
      obtain ⟨head, headValue⟩ := entry
      rw [List.map_cons, List.nodup_cons] at distinct
      by_cases equal : head = key
      · subst head
        have headNotMem (value : Value) : (key, value) ∉ rest := by
          intro member
          exact distinct.1 (List.mem_map.mpr ⟨_, member, rfl⟩)
        by_cases otherEqual : other = key
        · subst other
          simp [adjust, headNotMem]
        · simp [adjust, otherEqual]
      · simp only [adjust, equal, if_false, List.mem_cons,
          induction distinct.2, List.map_cons, Prod.mk.injEq]
        by_cases otherEqual : other = key
        · subst other
          simp [Ne.symm equal]
        · simp [otherEqual]

theorem tally_append_singleton
    (initial : Value) (add : Value → Record → Value)
    (records : List (Key × Record)) (key : Key) (record : Record) :
    tally initial add (records ++ [(key, record)]) =
      adjust key initial (fun value => add value record)
        (tally initial add records) := by
  simp [tally]

theorem mem_keys_tally_iff
    (initial : Value) (add : Value → Record → Value)
    (records : List (Key × Record)) (key : Key) :
    key ∈ (tally initial add records).map Prod.fst ↔
      key ∈ records.map Prod.fst := by
  induction records using List.reverseRecOn with
  | nil => simp [tally]
  | append_singleton records record induction =>
      obtain ⟨recordKey, payload⟩ := record
      rw [tally_append_singleton, mem_keys_adjust_iff, induction]
      simp only [List.map_append, List.mem_append, List.map_cons,
        List.map_nil, List.mem_singleton]
      tauto

theorem nodup_keys_tally
    (initial : Value) (add : Value → Record → Value)
    (records : List (Key × Record)) :
    ((tally initial add records).map Prod.fst).Nodup := by
  induction records using List.reverseRecOn with
  | nil => simp [tally]
  | append_singleton records record induction =>
      rw [tally_append_singleton]
      exact nodup_keys_adjust _ _ _ _ induction

/--
The accumulator of a key is the fold over the records of that key, and only
keys with a record have one.
-/
theorem mem_tally_iff
    (initial : Value) (add : Value → Record → Value)
    (records : List (Key × Record)) (key : Key) (result : Value) :
    (key, result) ∈ tally initial add records ↔
      key ∈ records.map Prod.fst ∧
        result = (recordsOf key records).foldl add initial := by
  induction records using List.reverseRecOn generalizing result with
  | nil => simp [tally]
  | append_singleton records record induction =>
      obtain ⟨recordKey, payload⟩ := record
      rw [tally_append_singleton,
        mem_adjust_iff _ _ _ _ _ _ (nodup_keys_tally _ _ _),
        induction, mem_keys_tally_iff]
      by_cases keyEqual : key = recordKey
      · subst recordKey
        have own :
            recordsOf key [(key, payload)] = [payload] := by
          simp [recordsOf]
        simp only [recordsOf_append, own, List.foldl_append,
          List.foldl_cons, List.foldl_nil, List.map_append,
          List.map_cons, List.map_nil, List.mem_append,
          List.mem_singleton, or_true, true_and, ne_eq,
          not_true_eq_false, false_and, false_or, induction]
        by_cases member : key ∈ records.map Prod.fst
        · simp [member]
        · have empty := (recordsOf_eq_nil_iff key records).mpr member
          simp [member, empty]
      · have none : recordsOf key [(recordKey, payload)] = [] := by
          simp [recordsOf, Ne.symm keyEqual]
        simp [recordsOf_append, none, keyEqual]

/-- The accumulator of a key, `initial` for a key without one. -/
def lookup (key : Key) (initial : Value)
    (entries : List (Key × Value)) : Value :=
  ((entries.find? fun entry => entry.1 = key).map Prod.snd).getD initial

/-- A tally, read at each key. -/
theorem lookup_tally
    (initial : Value) (add : Value → Record → Value)
    (records : List (Key × Record)) (key : Key) :
    lookup key initial (tally initial add records) =
      (recordsOf key records).foldl add initial := by
  rw [lookup]
  cases found :
      (tally initial add records).find? fun entry => entry.1 = key with
  | some entry =>
      rcases entry with ⟨other, result⟩
      have sameKey : other = key := by
        simpa using List.find?_some found
      subst sameKey
      exact
        ((mem_tally_iff _ _ _ _ _).mp
          (List.mem_of_find?_eq_some found)).2
  | none =>
      have absent : key ∉ records.map Prod.fst := by
        rw [← mem_keys_tally_iff initial add]
        intro member
        rcases List.mem_map.mp member with ⟨entry, listed, sameKey⟩
        have excluded := List.find?_eq_none.mp found entry listed
        exact excluded (decide_eq_true sameKey)
      rw [(recordsOf_eq_nil_iff key records).mpr absent]
      rfl

@[simp]
theorem tally_eq_nil_iff
    (initial : Value) (add : Value → Record → Value)
    (records : List (Key × Record)) :
    tally initial add records = [] ↔ records = [] := by
  constructor
  · intro empty
    have noKey (key : Key) : key ∉ records.map Prod.fst := by
      rw [← mem_keys_tally_iff initial add, empty]
      simp
    cases records with
    | nil => rfl
    | cons record rest => exact (noKey record.1 (by simp)).elim
  · rintro rfl
    rfl

/-! ## Records of keys that have come before -/

/--
Each record that is not kept comes after one of its key that is kept, or
after a key that has been seen before.
-/
def RepeatsKeys (kept : Record → Bool) :
    List Key → List (Key × Record) → Prop
  | _, [] => True
  | seen, (key, record) :: rest =>
      if kept record then RepeatsKeys kept (key :: seen) rest
      else key ∈ seen ∧ RepeatsKeys kept seen rest

instance decidableRepeatsKeys (kept : Record → Bool) :
    (seen : List Key) → (records : List (Key × Record)) →
      Decidable (RepeatsKeys kept seen records)
  | _, [] => inferInstanceAs (Decidable True)
  | seen, (key, record) :: rest =>
      have := decidableRepeatsKeys kept (key :: seen) rest
      have := decidableRepeatsKeys kept seen rest
      inferInstanceAs
        (Decidable
          (if kept record then RepeatsKeys kept (key :: seen) rest
          else key ∈ seen ∧ RepeatsKeys kept seen rest))

omit [DecidableEq Key] in
theorem repeatsKeys_map {Payload : Type} (part : Payload → Record)
    (kept : Record → Bool) (seen : List Key)
    (records : List (Key × Payload)) :
    RepeatsKeys kept seen
        (records.map fun record => (record.1, part record.2)) ↔
      RepeatsKeys (fun payload => kept (part payload)) seen records := by
  induction records generalizing seen with
  | nil => exact Iff.rfl
  | cons record rest induction =>
      rcases record with ⟨key, payload⟩
      rw [List.map_cons, RepeatsKeys, RepeatsKeys]
      split_ifs
      · exact induction (key :: seen)
      · exact and_congr_right fun _ => induction seen

/-- A known key is left as it is. -/
theorem adjust_id_of_mem {key : Key} {initial : Value}
    {entries : List (Key × Value)} (known : key ∈ entries.map Prod.fst) :
    adjust key initial id entries = entries := by
  induction entries with
  | nil => cases known
  | cons entry rest induction =>
      rcases entry with ⟨head, value⟩
      rw [adjust]
      split_ifs with same
      · rfl
      · rcases List.mem_cons.mp known with equal | later
        · exact (same equal.symm).elim
        · rw [induction later]

/-- The first records of the keys are kept ones. -/
theorem foldl_adjust_filter (part : Record → Value)
    {kept : Record → Bool} {seen : List Key}
    {records : List (Key × Record)} {entries : List (Key × Value)}
    (repeats : RepeatsKeys kept seen records)
    (known : seen ⊆ entries.map Prod.fst) :
    records.foldl
        (fun entries record =>
          adjust record.1 (part record.2) id entries)
        entries =
      (records.filter fun record => kept record.2).foldl
        (fun entries record =>
          adjust record.1 (part record.2) id entries)
        entries := by
  induction records generalizing seen entries with
  | nil => rfl
  | cons record rest induction =>
      rcases record with ⟨key, payload⟩
      rw [RepeatsKeys] at repeats
      rw [List.foldl_cons]
      cases isKept : kept payload with
      | true =>
          rw [if_pos isKept] at repeats
          rw [List.filter_cons_of_pos (by simpa using isKept),
            List.foldl_cons]
          apply induction repeats
          intro other member
          rw [mem_keys_adjust_iff]
          rcases List.mem_cons.mp member with same | earlier
          · exact Or.inl same
          · exact Or.inr (known earlier)
      | false =>
          rw [if_neg (by simp [isKept])] at repeats
          rw [List.filter_cons_of_neg (by simp [isKept]),
            adjust_id_of_mem (known repeats.1)]
          exact induction repeats.2 known

/-- The keys of a tally in the order of their first records. -/
theorem map_unit_tally (initial : Value) (add : Value → Record → Value)
    (records : List (Key × Record)) :
    (tally initial add records).map (fun entry => (entry.1, ())) =
      records.foldl
        (fun entries record => adjust record.1 () id entries) [] := by
  induction records using List.reverseRecOn with
  | nil => rfl
  | append_singleton records record induction =>
      rcases record with ⟨key, payload⟩
      rw [tally_append_singleton, List.foldl_append, List.foldl_cons,
        List.foldl_nil, ← induction]
      exact
        map_adjust (fun _ => ()) key initial _ id (fun _ => rfl) _

/-- Records that repeat the keys of others add no key. -/
theorem keys_tally_filter {kept : Record → Bool} {Payload : Type}
    (part : Record → Payload) (initial : Value)
    (add : Value → Payload → Value) {records : List (Key × Record)}
    (repeats : RepeatsKeys kept [] records) :
    (tally initial add
        (records.map fun record => (record.1, part record.2))).map
          Prod.fst =
      (tally initial add
        ((records.filter fun record => kept record.2).map fun record =>
          (record.1, part record.2))).map Prod.fst := by
  have units :
      (tally initial add
          (records.map fun record => (record.1, part record.2))).map
            (fun entry => (entry.1, ())) =
        (tally initial add
          ((records.filter fun record => kept record.2).map fun record =>
            (record.1, part record.2))).map
              (fun entry => (entry.1, ())) := by
    rw [map_unit_tally, map_unit_tally, List.foldl_map, List.foldl_map]
    exact
      foldl_adjust_filter (fun _ => ()) repeats (List.nil_subset _)
  have keys := congrArg (List.map Prod.fst) units
  rw [List.map_map, List.map_map] at keys
  exact keys

/-- A tally is read off its keys. -/
theorem tally_eq_map_keys (initial : Value)
    (add : Value → Record → Value) (records : List (Key × Record)) :
    tally initial add records =
      ((tally initial add records).map Prod.fst).map fun key =>
        (key, (recordsOf key records).foldl add initial) := by
  rw [List.map_map]
  conv_lhs => rw [← List.map_id (tally initial add records)]
  apply List.map_congr_left
  rintro ⟨key, result⟩ member
  exact
    Prod.ext rfl ((mem_tally_iff initial add records key result).mp member).2

end SultanPass.Library.OrderedMap
