import SultanPass.Library.ExceptLoop
import SultanPass.Library.FormData
import SultanPass.Library.Validation

/-!
# Validating nested input

The input of a request is what a form is decoded to, with every text cleaned
first.  An attribute is read by a reader, which gives its value or names the
rules that the input breaks; `demanded` and `optional` decide what happens
when the attribute is missing or null, and `each` reads the entries of an
array under their own paths.

`Accepts` is the contract of a validator: the condition under which it gives
a value, and the value that it gives then.  Its rules follow the way in which
validators are put together.
-/

namespace SultanPass.Library

open FormData OrderedMap

/-! ## Input -/

/-- Null, a text, or an array with its entries in order. -/
inductive Input (Text : Type) where
  | null
  | text (text : Text)
  | array (entries : List (String × Input Text))

namespace Input

variable {Text : Type}

/-- The entries of an array; other input has none. -/
def entries : Input Text → List (String × Input Text)
  | .array entries => entries
  | _ => []

def isText : Input Text → Bool
  | .text _ => true
  | _ => false

def isArray : Input Text → Bool
  | .array _ => true
  | _ => false

/-- The input under a key. -/
def get? (key : String) (input : Input Text) : Option (Input Text) :=
  input.entries.lookup key

/-- A cleaned text; nothing is left of some texts. -/
def ofText (clean : String → Option Text) (text : String) : Input Text :=
  match clean text with
  | some cleaned => .text cleaned
  | none => .null

mutual

/-- The input that a decoded form becomes. -/
def ofValue (clean : String → Option Text) : Value → Input Text
  | .text content => ofText clean content
  | .array entries => .array (ofEntries clean entries)

def ofEntries (clean : String → Option Text) :
    List (String × Value) → List (String × Input Text)
  | [] => []
  | (key, value) :: rest =>
      (key, ofValue clean value) :: ofEntries clean rest

end

theorem ofEntries_eq_map (clean : String → Option Text)
    (entries : List (String × Value)) :
    ofEntries clean entries =
      entries.map fun entry => (entry.1, ofValue clean entry.2) := by
  induction entries with
  | nil => rfl
  | cons entry rest induction =>
      rw [ofEntries, induction, List.map_cons]

theorem entries_ofValue (clean : String → Option Text) (value : Value) :
    (ofValue clean value).entries = ofEntries clean value.entries := by
  cases value with
  | text content =>
      rw [ofValue, ofText]
      cases clean content with
      | none => rfl
      | some cleaned => rfl
  | array entries =>
      rw [ofValue]
      rfl

@[simp]
theorem get?_array (clean : String → Option Text) (key : String)
    (entries : List (String × Value)) :
    (Input.array (ofEntries clean entries)).get? key =
      (entries.lookup key).map (ofValue clean) := by
  show (ofEntries clean entries).lookup key = _
  induction entries with
  | nil => rfl
  | cons entry rest induction =>
      rw [ofEntries, List.lookup_cons, List.lookup_cons, induction]
      cases key == entry.1 with
      | true => rfl
      | false => rfl

end Input

/-! ## Keys of decoded forms -/

namespace FormData

/-- No array of the value has a key twice. -/
inductive Value.DistinctKeys : Value → Prop where
  | text (text : String) : DistinctKeys (.text text)
  | array {entries : List (String × Value)}
      (keys : (entries.map Prod.fst).Nodup)
      (values : ∀ entry ∈ entries, DistinctKeys entry.2) :
      DistinctKeys (.array entries)

theorem Value.DistinctKeys.keys {value : Value}
    (distinct : value.DistinctKeys) :
    (value.entries.map Prod.fst).Nodup := by
  cases distinct with
  | text text => exact List.nodup_nil
  | array keys values => exact keys

theorem Value.DistinctKeys.values {value : Value}
    (distinct : value.DistinctKeys) :
    ∀ entry ∈ value.entries, entry.2.DistinctKeys := by
  cases distinct with
  | text text => exact fun _ member => (List.not_mem_nil member).elim
  | array keys values => exact values

theorem distinctKeys_insert (path : List String) (text : String)
    {value : Value} (distinct : value.DistinctKeys) :
    (insert path text value).DistinctKeys := by
  induction path generalizing value with
  | nil => exact .text text
  | cons key path induction =>
      have empty : (Value.array []).DistinctKeys :=
        .array List.nodup_nil fun _ member =>
          (List.not_mem_nil member).elim
      apply Value.DistinctKeys.array
      · exact nodup_keys_adjust _ _ _ _ distinct.keys
      · exact
          forall_mem_adjust
            (fun _ (inner : Value) => inner.DistinctKeys)
            distinct.values (induction empty)
            fun _ inner => induction inner

/-- Whatever is sent, no decoded array has a key twice. -/
theorem distinctKeys_decode (form : List (String × String)) :
    (decode form).DistinctKeys := by
  rw [decode, insertAll]
  apply
    List.foldlRecOn
      (motive := fun value : Value => value.DistinctKeys)
  · exact
      .array List.nodup_nil fun _ member =>
        (List.not_mem_nil member).elim
  · intro value distinct field _
    exact distinctKeys_insert field.1 field.2 distinct

end FormData

namespace Validated

variable {Text Left Right Value Result : Type}

/-! ## Attributes -/

/-- A reader of an attribute with the given name. -/
abbrev Reader (Text Value : Type) :=
  String → Input Text → Validated Value

/-- Whether an attribute counts as given for `required`. -/
def IsGiven : Option (Input Text) → Bool
  | none => false
  | some .null => false
  | some (.array []) => false
  | some _ => true

/-- An attribute that a rule demands; without it no other rule is tried. -/
def demanded (rule : String) (read : Reader Text Value)
    (field : String) (input : Option (Input Text)) : Validated Value :=
  match input.filter fun input => IsGiven (some input) with
  | some input => read field input
  | none => .error [{ field := field, rule := rule }]

/-- A nullable attribute; one that is missing is not validated. -/
def optional (read : Reader Text Value) (field : String) :
    Option (Input Text) → Validated (Option Value)
  | none => .ok none
  | some .null => .ok none
  | some input => (read field input).map some

/-- An attribute without `nullable`; one that is missing is not validated. -/
def present? (read : Reader Text Value) (field : String) :
    Option (Input Text) → Validated (Option Value)
  | none => .ok none
  | some input => (read field input).map some

/-- A rule demands the attribute on a condition. -/
def demandedIf (condition : Bool) (rule : String)
    (read : Reader Text Value)
    (otherwise :
      Reader Text Value → String → Option (Input Text) →
        Validated (Option Value))
    (field : String) (input : Option (Input Text)) :
    Validated (Option Value) :=
  if condition then (demanded rule read field input).map some
  else otherwise read field input

/-! ## Readers -/

/-- A rule that has to make something of a text. -/
def readParsed (rule : String) (parse : Text → Option Value) :
    Reader Text Value :=
  fun field input =>
    match input with
    | .text text =>
        match parse text with
        | some value => .ok value
        | none => .error [{ field := field, rule := rule }]
    | _ => .error [{ field := field, rule := rule }]

/-- The size of an attribute: its characters or its entries. -/
def size (content : Text → String) : Input Text → ℕ
  | .null => 0
  | .text text => (content text).length
  | .array entries => entries.length

/-- The characters of a text; other input has none. -/
def characters (content : Text → String) : Input Text → String
  | .text text => content text
  | _ => ""

/-- `string`, and `max` when there is a bound. -/
def readText (content : Text → String) (maximum : Option ℕ) :
    Reader Text String :=
  fun field input =>
    rules field
      (("string", input.isText) ::
        maximum.toList.map fun maximum =>
          ("max:" ++ maximum.repr, decide (size content input ≤ maximum)))
      (characters content input)

/-- `array`, `min` and `max`, when there are bounds. -/
def readArray (content : Text → String)
    (minimum maximum : Option ℕ) :
    Reader Text (List (String × Input Text)) :=
  fun field input =>
    rules field
      (("array", input.isArray) ::
        (minimum.toList.map fun minimum =>
            ("min:" ++ minimum.repr,
              decide (minimum ≤ size content input))) ++
        (maximum.toList.map fun maximum =>
            ("max:" ++ maximum.repr,
              decide (size content input ≤ maximum))))
      input.entries

/-- Read the entries of an array, each under its own path. -/
def each (validator : String → Input Text → Validated Value)
    (path : String) :
    List (String × Input Text) → Validated (List (String × Value))
  | [] => .ok []
  | (key, input) :: rest =>
      (both (validator (path ++ "." ++ key) input)
          (each validator path rest)).map
        fun values => (key, values.1) :: values.2

/-! ## What was accepted -/

/-- Accepted entries keep their keys, and each is a validator's value. -/
theorem of_each
    {validator : String → Input Text → Validated Value}
    {path : String} {entries : List (String × Input Text)}
    {values : List (String × Value)}
    (accepted : each validator path entries = .ok values) :
    values.map Prod.fst = entries.map Prod.fst ∧
      ∀ value ∈ values, ∃ field input,
        validator field input = .ok value.2 := by
  induction entries generalizing values with
  | nil =>
      cases accepted
      exact ⟨rfl, fun _ member => (List.not_mem_nil member).elim⟩
  | cons entry rest induction =>
      rcases map_eq_ok_iff.mp accepted with ⟨pair, parts, rfl⟩
      rw [both_eq_ok_iff] at parts
      rcases induction parts.2 with ⟨keys, validated⟩
      constructor
      · exact congrArg (entry.1 :: ·) keys
      · rw [List.forall_mem_cons]
        exact ⟨⟨_, _, parts.1⟩, validated⟩

theorem given_of_demanded {rule field : String}
    {read : Reader Text Value} {input : Option (Input Text)}
    {value : Value}
    (accepted : demanded rule read field input = .ok value) :
    ∃ given, input = some given ∧ IsGiven (some given) = true ∧
      read field given = .ok value := by
  rw [demanded] at accepted
  split at accepted
  · next given filtered =>
      rcases Option.filter_eq_some_iff.mp filtered with ⟨same, isGiven⟩
      exact ⟨given, same, isGiven, accepted⟩
  · cases accepted

/-- A check for a bound, if there is a bound. -/
theorem forall_mem_bound {bound : Option ℕ} {name : ℕ → String}
    {meets : ℕ → Prop} [DecidablePred meets] :
    (∀ check ∈
        bound.toList.map fun bound => (name bound, decide (meets bound)),
      check.2 = true) ↔ ∀ bound' ∈ bound, meets bound' := by
  simp

theorem of_optional {read : Reader Text Value} {field : String}
    {input : Option (Input Text)} {value : Value}
    (accepted : optional read field input = .ok (some value)) :
    ∃ given, input = some given ∧ read field given = .ok value := by
  cases input with
  | none => cases accepted
  | some given =>
      cases given with
      | null => cases accepted
      | text text =>
          rcases map_eq_ok_iff.mp accepted with ⟨reached, reads, same⟩
          rw [Option.some.injEq] at same
          exact ⟨_, rfl, same ▸ reads⟩
      | array entries =>
          rcases map_eq_ok_iff.mp accepted with ⟨reached, reads, same⟩
          rw [Option.some.injEq] at same
          exact ⟨_, rfl, same ▸ reads⟩

theorem of_readParsed {rule field : String}
    {parse : Text → Option Value} {input : Input Text} {value : Value}
    (accepted : readParsed rule parse field input = .ok value) :
    ∃ text, input = .text text ∧ parse text = some value := by
  cases input with
  | null => cases accepted
  | array entries => cases accepted
  | text text =>
      rw [readParsed] at accepted
      cases isParsed : parse text with
      | none =>
          rw [isParsed] at accepted
          cases accepted
      | some parsed =>
          rw [isParsed] at accepted
          cases accepted
          exact ⟨text, rfl, isParsed⟩

theorem of_readText {content : Text → String} {maximum : Option ℕ}
    {field : String} {input : Input Text} {value : String}
    (accepted : readText content maximum field input = .ok value) :
    ∃ text, input = .text text ∧ content text = value := by
  have checks := (rules_eq_ok_iff _ _ _ _).mp accepted
  rw [List.forall_mem_cons] at checks
  cases input with
  | null => exact absurd checks.1.1 Bool.false_ne_true
  | text text => exact ⟨text, rfl, checks.2⟩
  | array entries => exact absurd checks.1.1 Bool.false_ne_true

theorem of_readArray {content : Text → String}
    {minimum maximum : Option ℕ} {field : String} {input : Input Text}
    {value : List (String × Input Text)}
    (accepted :
      readArray content minimum maximum field input = .ok value) :
    input = .array value ∧ (∀ bound ∈ minimum, bound ≤ value.length) ∧
      ∀ bound ∈ maximum, value.length ≤ bound := by
  have checks := (rules_eq_ok_iff _ _ _ _).mp accepted
  rw [List.forall_mem_append, List.forall_mem_cons, forall_mem_bound,
    forall_mem_bound] at checks
  cases input with
  | null => exact absurd checks.1.1.1 Bool.false_ne_true
  | text text => exact absurd checks.1.1.1 Bool.false_ne_true
  | array entries =>
      rcases checks with ⟨⟨⟨_, least⟩, most⟩, rfl⟩
      exact ⟨rfl, least, most⟩

/-! ## Contracts -/

/-- The condition of an accepting outcome, and its value. -/
def Accepts (outcome : Validated Value) (condition : Prop)
    (value : Value) : Prop :=
  ∀ accepted, outcome = .ok accepted ↔ condition ∧ accepted = value

namespace Accepts

theorem ok (value : Value) : Accepts (.ok value) True value := by
  intro accepted
  rw [Except.ok.injEq, true_and]
  exact eq_comm

theorem error (errors : List FieldError) (value : Value) :
    Accepts (.error errors) False value := by
  intro accepted
  simp

variable {outcome : Validated Value} {condition other : Prop}
  {value : Value}

/-- The same condition in other words, with the same value under it. -/
theorem congr (accepts : Accepts outcome condition value)
    (same : condition ↔ other) {renamed : Value}
    (values : other → value = renamed) :
    Accepts outcome other renamed := by
  intro accepted
  rw [accepts accepted, same]
  constructor
  · rintro ⟨holds, rfl⟩
    exact ⟨holds, values holds⟩
  · rintro ⟨holds, rfl⟩
    exact ⟨holds, (values holds).symm⟩

theorem iff (accepts : Accepts outcome condition value)
    (same : condition ↔ other) : Accepts outcome other value :=
  accepts.congr same fun _ => rfl

theorem map (accepts : Accepts outcome condition value)
    (change : Value → Result) :
    Accepts (outcome.map change) condition (change value) := by
  intro accepted
  rw [map_eq_ok_iff]
  constructor
  · rintro ⟨reached, isOutcome, rfl⟩
    rcases (accepts reached).mp isOutcome with ⟨holds, rfl⟩
    exact ⟨holds, rfl⟩
  · rintro ⟨holds, rfl⟩
    exact ⟨value, (accepts value).mpr ⟨holds, rfl⟩, rfl⟩

theorem both {left : Validated Left} {right : Validated Right}
    {leftValue : Left} {rightValue : Right}
    (leftAccepts : Accepts left condition leftValue)
    (rightAccepts : Accepts right other rightValue) :
    Accepts (Validated.both left right) (condition ∧ other)
      (leftValue, rightValue) := by
  rintro ⟨first, second⟩
  rw [both_eq_ok_iff, leftAccepts first, rightAccepts second,
    Prod.mk.injEq]
  tauto

theorem rules (field : String) (checks : List (String × Bool))
    (value : Value) :
    Accepts (Validated.rules field checks value)
      (∀ check ∈ checks, check.2 = true) value := by
  intro accepted
  rw [rules_eq_ok_iff, eq_comm (a := value)]

/-- Entries that come from items are read item by item. -/
theorem each {Item : Type} {items : List Item} {key : Item → String}
    {input : Item → Input Text} {condition : Item → Prop}
    {value : Item → Value}
    {validator : String → Input Text → Validated Value}
    (validates :
      ∀ item ∈ items, ∀ path,
        Accepts (validator path (input item)) (condition item)
          (value item))
    (path : String) :
    Accepts
      (Validated.each validator path
        (items.map fun item => (key item, input item)))
      (∀ item ∈ items, condition item)
      (items.map fun item => (key item, value item)) := by
  induction items with
  | nil => exact (ok []).iff (by simp)
  | cons item rest induction =>
      rw [List.forall_mem_cons] at validates
      have parts :=
        (validates.1 (path ++ "." ++ key item)).both
          (induction validates.2)
      exact
        (parts.map fun values =>
          (key item, values.1) :: values.2).iff
            List.forall_mem_cons.symm

section Text

variable {clean : String → Option Text} {read : Reader Text Value}
  {field text : String} {holds : Text → Prop}

/-- A demanded text has to be there after cleaning. -/
theorem demanded_text (rule : String)
    (reads :
      ∀ cleaned, clean text = some cleaned →
        Accepts (read field (.text cleaned)) (holds cleaned) value) :
    Accepts
      (demanded rule read field (some (Input.ofText clean text)))
      (∃ cleaned, clean text = some cleaned ∧ holds cleaned) value := by
  rw [Input.ofText]
  cases isClean : clean text with
  | none =>
      apply (error [{ field := field, rule := rule }] value).iff
      simp
  | some cleaned =>
      apply (reads cleaned isClean).iff
      simp

/-- An optional text is read unless nothing is left of it. -/
theorem optional_text {change : Text → Value}
    (reads :
      ∀ cleaned, clean text = some cleaned →
        Accepts (read field (.text cleaned)) (holds cleaned)
          (change cleaned)) :
    Accepts
      (optional read field (some (Input.ofText clean text)))
      (∀ cleaned, clean text = some cleaned → holds cleaned)
      ((clean text).map change) := by
  rw [Input.ofText]
  cases isClean : clean text with
  | none =>
      apply (ok none).iff
      simp
  | some cleaned =>
      apply ((reads cleaned isClean).map some).iff
      simp

theorem demanded_cleaned {cleaned : Text} {condition : Prop}
    (isClean : clean text = some cleaned)
    (reads : Accepts (read field (.text cleaned)) condition value)
    (rule : String) :
    Accepts (demanded rule read field (some (Input.ofText clean text)))
      condition value := by
  rw [Input.ofText, isClean]
  exact reads

theorem optional_cleaned {cleaned : Text} {condition : Prop}
    (isClean : clean text = some cleaned)
    (reads : Accepts (read field (.text cleaned)) condition value) :
    Accepts (optional read field (some (Input.ofText clean text)))
      condition (some value) := by
  rw [Input.ofText, isClean]
  exact reads.map some

end Text

theorem readParsed {parse : Text → Option Value} {text : Text}
    {value : Value} (rule field : String)
    (reads : ∀ parsed, parse text = some parsed → parsed = value) :
    Accepts (Validated.readParsed rule parse field (.text text))
      ((parse text).isSome = true) value := by
  rw [Validated.readParsed]
  cases isParsed : parse text with
  | none =>
      apply (error [{ field := field, rule := rule }] value).iff
      simp
  | some parsed =>
      apply (ok parsed).congr (by simp)
      intro _
      exact reads parsed isParsed

theorem readText (content : Text → String) (maximum : Option ℕ)
    (field : String) (text : Text) :
    Accepts
      (Validated.readText content maximum field (.text text))
      (∀ bound ∈ maximum, (content text).length ≤ bound)
      (content text) := by
  apply (rules _ _ _).iff
  rw [List.forall_mem_cons, forall_mem_bound]
  exact and_iff_right rfl

theorem readArray (content : Text → String)
    (minimum maximum : Option ℕ) (field : String)
    (entries : List (String × Input Text)) :
    Accepts
      (Validated.readArray content minimum maximum field
        (.array entries))
      ((∀ bound ∈ minimum, bound ≤ entries.length) ∧
        ∀ bound ∈ maximum, entries.length ≤ bound)
      entries := by
  apply (rules _ _ _).iff
  rw [List.forall_mem_append, List.forall_mem_cons, forall_mem_bound,
    forall_mem_bound]
  exact and_congr_left fun _ => and_iff_right rfl

end Accepts

end Validated

end SultanPass.Library
