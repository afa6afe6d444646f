import SultanPass.Library.OrderedMap

/-!
# Form fields decoded into nested arrays

The fields of a form have names such as `items[0][title]`.  A decoder
splits each name into its keys and writes the field's text under these keys
into nested arrays, in the order of the fields: a missing array is made, and
a later field replaces what an earlier one of the same name has written.

`Builds` says that some fields put exactly some entries behind whatever was
decoded before them.  Its rules follow the shape of a form: one field, two
parts side by side, a part under a key, and a list of items under distinct
keys.  `decode_of_builds` reads off what such a form is decoded to.
-/

namespace SultanPass.Library.FormData

open OrderedMap

/-! ## Nested arrays -/

/-- A text, or an array with its entries in order. -/
inductive Value where
  | text (text : String)
  | array (entries : List (String × Value))

/-- A field: the keys of its name and its text. -/
abbrev Field :=
  List String × String

/-- The entries of an array; a text has none. -/
def Value.entries : Value → List (String × Value)
  | .text _ => []
  | .array entries => entries

/-- The value under a path of keys. -/
def Value.find? : List String → Value → Option Value
  | [], value => some value
  | key :: path, value =>
      (value.entries.lookup key).bind (Value.find? path)

/-- Write a text under a path of keys; what is no array becomes one. -/
def insert : List String → String → Value → Value
  | [], text, _ => .text text
  | key :: path, text, value =>
      .array (adjust key (.array []) (insert path text) value.entries)

def insertAll (fields : List Field) (value : Value) : Value :=
  fields.foldl (fun value field => insert field.1 field.2 value) value

theorem insertAll_append
    (left right : List Field) (value : Value) :
    insertAll (left ++ right) value =
      insertAll right (insertAll left value) :=
  List.foldl_append

/-- An insertion leaves something behind. -/
theorem insert_ne_empty
    (path : List String) (text : String) (value : Value) :
    insert path text value ≠ .array [] := by
  cases path with
  | nil => nofun
  | cons key path =>
      intro equal
      injection equal with noEntry
      have member :=
        (mem_keys_adjust_iff key key (.array []) (insert path text)
          value.entries).mpr (Or.inl rfl)
      rw [noEntry] at member
      cases member

/-! ## The names of fields -/

/-- The name `root[key]…[key]` of a path. -/
def bracketedName : List String → String
  | [] => ""
  | root :: keys =>
      root ++ String.join (keys.map fun key => "[" ++ key ++ "]")

/-- The keys in a row of brackets; `open` holds what an open one has. -/
def bracketKeys : Option (List Char) → List Char → List String
  | _, [] => []
  | none, character :: rest =>
      if character = '[' then bracketKeys (some []) rest else []
  | some key, character :: rest =>
      if character = ']' then
        String.ofList key :: bracketKeys none rest
      else
        bracketKeys (some (key ++ [character])) rest

/-- The path in the name of a field. -/
def parseName (name : String) : List String :=
  String.ofList (name.toList.takeWhile (· ≠ '[')) ::
    bracketKeys none (name.toList.dropWhile (· ≠ '['))

/-- A key that brackets can enclose. -/
def BracketFree (key : String) : Prop :=
  '[' ∉ key.toList ∧ ']' ∉ key.toList

instance (key : String) : Decidable (BracketFree key) :=
  inferInstanceAs (Decidable (_ ∧ _))

theorem bracketKeys_key
    (prior key rest : List Char) (closed : ']' ∉ key) :
    bracketKeys (some prior) (key ++ ']' :: rest) =
      String.ofList (prior ++ key) :: bracketKeys none rest := by
  induction key generalizing prior with
  | nil => simp [bracketKeys]
  | cons character key induction =>
      rw [List.mem_cons, not_or] at closed
      rw [List.cons_append, bracketKeys, if_neg (Ne.symm closed.1),
        induction _ closed.2, List.append_assoc]
      rfl

theorem bracketKeys_join
    (keys : List String) (free : ∀ key ∈ keys, BracketFree key) :
    bracketKeys none
        (String.join
          (keys.map fun key => "[" ++ key ++ "]")).toList =
      keys := by
  induction keys with
  | nil => rfl
  | cons key keys induction =>
      have characters :
          (String.join
              ((key :: keys).map fun key => "[" ++ key ++ "]")).toList =
            '[' ::
              (key.toList ++
                ']' ::
                  (String.join
                    (keys.map fun key => "[" ++ key ++ "]")).toList) := by
        simp [String.join_cons]
      rw [characters, bracketKeys, if_pos rfl,
        bracketKeys_key _ _ _ (free key List.mem_cons_self).2,
        List.nil_append, String.ofList_toList,
        induction fun other member =>
          free other (List.mem_cons_of_mem _ member)]

/-- A name is split into the keys that it was made of. -/
theorem parseName_bracketedName
    {path : List String} (nonempty : path ≠ [])
    (free : ∀ key ∈ path, BracketFree key) :
    parseName (bracketedName path) = path := by
  cases path with
  | nil => exact absurd rfl nonempty
  | cons root keys =>
      have rootFree :
          ∀ character ∈ root.toList, decide (character ≠ '[') = true := by
        intro character member
        apply decide_eq_true
        rintro rfl
        exact (free root List.mem_cons_self).1 member
      have keysRead :=
        bracketKeys_join keys fun key member =>
          free key (List.mem_cons_of_mem _ member)
      rw [bracketedName, parseName, String.toList_append,
        List.takeWhile_append_of_pos rootFree,
        List.dropWhile_append_of_pos rootFree]
      cases keys with
      | nil => simp [bracketKeys]
      | cons key keys =>
          have opened :
              ∃ rest,
                (String.join
                    ((key :: keys).map fun key =>
                      "[" ++ key ++ "]")).toList =
                  '[' :: rest := by
            rw [List.map_cons, String.join_cons, String.toList_append,
              String.toList_append, String.toList_append]
            exact ⟨_, rfl⟩
          rcases opened with ⟨rest, characters⟩
          rw [characters] at keysRead ⊢
          rw [List.takeWhile_cons_of_neg (by decide),
            List.dropWhile_cons_of_neg (by decide), keysRead,
            List.append_nil, String.ofList_toList]

example :
    bracketedName ["items", "0", "title"] = "items[0][title]" := by
  decide

/-! ## Decimal keys -/

theorem toList_repr (number : ℕ) :
    number.repr.toList = Nat.toDigits 10 number := by
  simp

theorem repr_injective : Function.Injective Nat.repr := by
  intro left right equal
  have digits := congrArg String.toList equal
  rw [toList_repr, toList_repr] at digits
  have values := congrArg (fun text => Nat.ofDigitChars 10 text 0) digits
  simpa only [Nat.ofDigitChars_toDigits (b := 10) (by omega) (by omega)]
    using values

theorem bracketFree_repr (number : ℕ) : BracketFree number.repr := by
  have digits (character : Char) (isMember : character ∈ number.repr.toList) :
      character.isDigit = true := by
    rw [toList_repr] at isMember
    exact Nat.isDigit_of_mem_toDigits (by omega) (by omega) isMember
  constructor
  · intro member
    exact absurd (digits _ member) (by decide)
  · intro member
    exact absurd (digits _ member) (by decide)

/-! ## Forms -/

/-- The decoded form, from the names and the texts of its fields. -/
def decode (form : List (String × String)) : Value :=
  insertAll (form.map fun field => (parseName field.1, field.2))
    (.array [])

/-- Fields with their names written out. -/
def named (fields : List Field) : List (String × String) :=
  fields.map fun field => (bracketedName field.1, field.2)

/-- Fields with one key each. -/
def texts (inputs : List (String × String)) : List Field :=
  inputs.map fun input => ([input.1], input.2)

/-- The entries of such fields. -/
def textEntries (inputs : List (String × String)) :
    List (String × Value) :=
  inputs.map fun input => (input.1, .text input.2)

/-- Fields under one more key. -/
def under (key : String) (fields : List Field) : List Field :=
  fields.map fun field => (key :: field.1, field.2)

/-- The array of some entries under a key; no entries make no array. -/
def group (key : String) (entries : List (String × Value)) :
    List (String × Value) :=
  if entries.isEmpty then [] else [(key, .array entries)]

theorem mem_keys_group
    {key other : String} {entries : List (String × Value)}
    (member : other ∈ (group key entries).map Prod.fst) :
    other = key := by
  rw [group] at member
  split_ifs at member with empty
  · cases member
  · exact List.mem_singleton.mp member

theorem group_of_ne_nil
    {key : String} {entries : List (String × Value)}
    (nonempty : entries ≠ []) :
    group key entries = [(key, .array entries)] :=
  if_neg fun empty => nonempty (List.isEmpty_iff.mp empty)

/-! ## Fields that build entries -/

/--
The fields can be named, and they put exactly the entries behind any others
that have other keys.  The keys of the entries are among `names`.
-/
structure Builds (names : List String)
    (fields : List Field) (entries : List (String × Value)) : Prop where
  within : ∀ key ∈ entries.map Prod.fst, key ∈ names
  nameable :
    ∀ field ∈ fields, field.1 ≠ [] ∧ ∀ key ∈ field.1, BracketFree key
  inserted :
    ∀ others : List (String × Value),
      (∀ key ∈ entries.map Prod.fst, key ∉ others.map Prod.fst) →
      insertAll fields (.array others) = .array (others ++ entries)

/-- Under the key of the last entry, insertions go into that entry. -/
theorem insertAll_under_last
    {key : String} (fields : List Field)
    {others : List (String × Value)} (value : Value)
    (new : key ∉ others.map Prod.fst) :
    insertAll (under key fields) (.array (others ++ [(key, value)])) =
      .array (others ++ [(key, insertAll fields value)]) := by
  induction fields generalizing value with
  | nil => rfl
  | cons field fields induction =>
      change insertAll (under key fields) (.array (adjust key _ _ _)) = _
      rw [Value.entries, adjust_concat new, induction]
      rfl

/-- Under a new key, insertions start from an empty array. -/
theorem insertAll_under_new
    {key : String} {fields : List Field} (nonempty : fields ≠ [])
    {others : List (String × Value)}
    (new : key ∉ others.map Prod.fst) :
    insertAll (under key fields) (.array others) =
      .array (others ++ [(key, insertAll fields (.array []))]) := by
  cases fields with
  | nil => exact absurd rfl nonempty
  | cons field fields =>
      change insertAll (under key fields) (.array (adjust key _ _ _)) = _
      rw [Value.entries, adjust_of_not_mem new, insertAll_under_last _ _ new]
      rfl

namespace Builds

theorem nil (names : List String) : Builds names [] [] where
  within := nofun
  nameable := nofun
  inserted := fun others _ => by rw [List.append_nil]; rfl

theorem mono {names moreNames : List String} {fields : List Field}
    {entries : List (String × Value)}
    (builds : Builds names fields entries)
    (more : ∀ key ∈ names, key ∈ moreNames) :
    Builds moreNames fields entries :=
  { builds with
    within := fun key member => more key (builds.within key member) }

theorem inserted_empty {names : List String} {fields : List Field}
    {entries : List (String × Value)}
    (builds : Builds names fields entries) :
    insertAll fields (.array []) = .array entries :=
  builds.inserted [] fun _ _ => List.not_mem_nil

/-- One field. -/
theorem field {key : String} (free : BracketFree key) (text : String) :
    Builds [key] [([key], text)] [(key, .text text)] where
  within := fun _ member => member
  nameable := by
    intro field member
    rw [List.mem_singleton] at member
    subst member
    constructor
    · exact List.cons_ne_nil _ _
    · intro other isKey
      rw [List.mem_singleton] at isKey
      rw [isKey]
      exact free
  inserted := by
    intro others new
    change Value.array (adjust key _ _ _) = _
    rw [Value.entries, adjust_of_not_mem (new key List.mem_cons_self)]
    rfl

/-- Two parts with different keys, side by side. -/
theorem append {leftNames rightNames : List String}
    {left right : List Field}
    {leftEntries rightEntries : List (String × Value)}
    (leftBuilds : Builds leftNames left leftEntries)
    (rightBuilds : Builds rightNames right rightEntries)
    (distinct : ∀ key ∈ rightNames, key ∉ leftNames) :
    Builds (leftNames ++ rightNames) (left ++ right)
      (leftEntries ++ rightEntries) where
  within := by
    intro key member
    rw [List.map_append] at member
    rcases List.mem_append.mp member with isLeft | isRight
    · exact List.mem_append_left _ (leftBuilds.within key isLeft)
    · exact List.mem_append_right _ (rightBuilds.within key isRight)
  nameable := by
    intro field member
    rcases List.mem_append.mp member with isLeft | isRight
    · exact leftBuilds.nameable field isLeft
    · exact rightBuilds.nameable field isRight
  inserted := by
    intro others new
    simp only [List.map_append, List.mem_append] at new
    rw [insertAll_append,
      leftBuilds.inserted others fun key isLeft => new key (Or.inl isLeft),
      rightBuilds.inserted, List.append_assoc]
    intro key isRight
    rw [List.map_append, List.mem_append, not_or]
    constructor
    · exact new key (Or.inr isRight)
    · intro isLeft
      exact
        distinct key (rightBuilds.within key isRight)
          (leftBuilds.within key isLeft)

/-- Fields with one key each, all different. -/
theorem texts {inputs : List (String × String)} (names : List String)
    (named : inputs.map Prod.fst = names) (distinct : names.Nodup)
    (free : ∀ key ∈ names, BracketFree key) :
    Builds names (FormData.texts inputs) (textEntries inputs) := by
  subst named
  induction inputs with
  | nil => exact nil _
  | cons input inputs induction =>
      rw [List.map_cons, List.nodup_cons] at distinct
      have first := field (free input.1 List.mem_cons_self) input.2
      apply first.append
        (induction distinct.2 fun key member =>
          free key (List.mem_cons_of_mem _ member))
      intro key isOther isFirst
      rw [List.mem_singleton] at isFirst
      subst isFirst
      exact distinct.1 isOther

/-- Fields come with entries, and entries with fields. -/
theorem fields_eq_nil_iff {names : List String} {fields : List Field}
    {entries : List (String × Value)}
    (builds : Builds names fields entries) :
    fields = [] ↔ entries = [] := by
  have inserted := builds.inserted_empty
  constructor
  · rintro rfl
    injection inserted with empty
    exact empty.symm
  · rintro rfl
    rcases List.eq_nil_or_concat fields with
      empty | ⟨front, last, equal⟩
    · exact empty
    · rw [equal, List.concat_eq_append, insertAll_append] at inserted
      exact absurd inserted (insert_ne_empty _ _ _)

/-- A part under a key. -/
theorem under {names : List String} {fields : List Field}
    {entries : List (String × Value)}
    (builds : Builds names fields entries) {key : String}
    (free : BracketFree key) :
    Builds [key] (FormData.under key fields) (group key entries) where
  within := by
    intro other member
    exact List.mem_singleton.mpr (mem_keys_group member)
  nameable := by
    intro field member
    rcases List.mem_map.mp member with ⟨inner, isInner, rfl⟩
    constructor
    · exact List.cons_ne_nil _ _
    · intro other isKey
      rcases List.mem_cons.mp isKey with rfl | isKey
      · exact free
      · exact (builds.nameable inner isInner).2 other isKey
  inserted := by
    intro others new
    by_cases empty : entries = []
    · rw [builds.fields_eq_nil_iff.mpr empty, empty]
      exact congrArg Value.array (List.append_nil others).symm
    · rw [group_of_ne_nil empty] at new ⊢
      rw [insertAll_under_new (mt builds.fields_eq_nil_iff.mp empty)
          (new key List.mem_cons_self),
        builds.inserted_empty]

/-- A list of items, each under its own key. -/
theorem items {Item : Type} (names : List String)
    {key : Item → String} {fields : Item → List Field}
    {entries : Item → List (String × Value)} {list : List Item}
    (distinct : (list.map key).Nodup)
    (free : ∀ item ∈ list, BracketFree (key item))
    (builds : ∀ item ∈ list, Builds names (fields item) (entries item))
    (nonempty : ∀ item ∈ list, entries item ≠ []) :
    Builds (list.map key)
      (list.flatMap fun item => FormData.under (key item) (fields item))
      (list.map fun item => (key item, .array (entries item))) := by
  induction list with
  | nil => exact nil _
  | cons item list induction =>
      simp only [List.forall_mem_cons] at free builds nonempty
      rw [List.map_cons, List.nodup_cons] at distinct
      have first := builds.1.under free.1
      rw [group_of_ne_nil nonempty.1] at first
      apply first.append
        (induction distinct.2 free.2 builds.2 nonempty.2)
      intro other isOther isFirst
      rw [List.mem_singleton] at isFirst
      subst isFirst
      exact distinct.1 isOther

end Builds

/-- A form whose fields build some entries is decoded to them. -/
theorem decode_of_builds {names : List String}
    {fields : List Field} {entries : List (String × Value)}
    (builds : Builds names fields entries) :
    decode (named fields) = .array entries := by
  have parsed :
      (named fields).map (fun field => (parseName field.1, field.2)) =
        fields := by
    rw [named, List.map_map]
    conv_rhs => rw [← List.map_id fields]
    apply List.map_congr_left
    intro field member
    rcases builds.nameable field member with ⟨nonempty, free⟩
    exact Prod.ext (parseName_bracketedName nonempty free) rfl
  rw [decode, parsed, builds.inserted_empty]

end SultanPass.Library.FormData
