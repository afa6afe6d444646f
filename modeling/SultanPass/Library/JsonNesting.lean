import SultanPass.Library.JsonDecoding

/-!
# What the parser keeps while it reads

The unfinished arrays of a parser are a stack, and each token works on its
top.  What is below stays what it is until the top is finished and handed
down.  This module states which facts about the stack every step preserves:

* that the outermost array has its first key (`LeadsWith`),
* that the document is an object (`InsideObject`),
* that only lists are open (`InsideLists`),
* that a value of a given size lies in one of the open lists (`Carries`),

and that a stack below the one of a reader changes nothing but what its
result is handed to (`within`).
-/

namespace SultanPass.Library.JsonDecoding

variable {Number : Type} {readNumber : List Char → Number}

/-- A list that does not end at once begins with a value. -/
theorem step_inList {frames : List (Frame Number)} {token : Token Number}
    (goesOn : token ≠ .closeList) :
    step (.inList frames) token =
      beginValue (.items [] :: frames) token := by
  cases token with
  | closeList => exact (goesOn rfl).elim
  | _ => rfl

/-! ## The first key of the outermost array -/

/-- The first key of an array. -/
def firstKey (entries : List (Key × Value Number)) : Option Key :=
  entries.head?.map Prod.fst

@[simp]
theorem firstKey_nil : firstKey ([] : List (Key × Value Number)) = none :=
  rfl

/-- A member set in an object leaves the first key as it is. -/
@[simp]
theorem firstKey_insert (key : Key) (value : Value Number)
    (entries : List (Key × Value Number)) :
    firstKey (insert key value entries) =
      some ((firstKey entries).getD key) := by
  cases entries with
  | nil => rfl
  | cons entry rest =>
      rcases entry with ⟨head, first⟩
      simp only [insert, OrderedMap.adjust]
      split_ifs <;> rfl

theorem firstKey_listEntries {values : List (Value Number)}
    (nonempty : values ≠ []) :
    firstKey (listEntries values) = some (.index 0) := by
  cases values with
  | nil => exact (nonempty rfl).elim
  | cons value rest => rfl

/-- The array of a value begins with a key. -/
def Value.LeadsWith (key : Key) (value : Value Number) : Prop :=
  ∃ entries, value = .array entries ∧ firstKey entries = some key

/-- The array of a frame begins with a key once the value has come. -/
def Frame.LeadsWith (key : Key) : Frame Number → Prop
  | .items _ => key = .index 0
  | .member entries next => (firstKey entries).getD next = key

/-- The outermost of nested arrays begins with a key. -/
def leadsWith (key : Key) : List (Frame Number) → Prop → Prop
  | [], innermost => innermost
  | frame :: frames, _ => leadsWith key frames (frame.LeadsWith key)

/-- The outermost array begins with a key. -/
def Parser.LeadsWith (key : Key) : Parser Number → Prop
  | .value frames => leadsWith key frames False
  | .inList frames => leadsWith key frames False
  | .afterItem values frames =>
      leadsWith key frames (values ≠ [] ∧ key = .index 0)
  | .inObject frames => leadsWith key frames False
  | .name entries frames =>
      leadsWith key frames (firstKey entries = some key)
  | .afterName entries next frames =>
      leadsWith key frames ((firstKey entries).getD next = key)
  | .afterMember entries frames =>
      leadsWith key frames (firstKey entries = some key)
  | .done document => document.LeadsWith key

theorem leadsWith_mono {key : Key} {first second : Prop}
    (implies : first → second) {frames : List (Frame Number)}
    (leads : leadsWith key frames first) : leadsWith key frames second := by
  cases frames with
  | nil => exact implies leads
  | cons frame frames => exact leads

theorem leadsWith_deliver {key : Key} {value : Value Number}
    {frames : List (Frame Number)}
    (leads : leadsWith key frames (value.LeadsWith key)) :
    (deliver value frames).LeadsWith key := by
  cases frames with
  | nil => exact leads
  | cons frame frames =>
      cases frame with
      | items values =>
          exact
            leadsWith_mono
              (fun first => ⟨List.concat_ne_nil _ _, first⟩) leads
      | member entries next =>
          refine leadsWith_mono (fun first => ?_) leads
          rw [firstKey_insert]
          exact congrArg some first

theorem leadsWith_beginValue {key : Key} {frames : List (Frame Number)}
    {token : Token Number} {next : Parser Number}
    (leads : leadsWith key frames False)
    (begins : beginValue frames token = some next) :
    next.LeadsWith key := by
  cases token with
  | scalar value =>
      cases begins
      exact leadsWith_deliver (leadsWith_mono False.elim leads)
  | string text =>
      cases begins
      exact leadsWith_deliver (leadsWith_mono False.elim leads)
  | openList =>
      simp only [beginValue] at begins
      split_ifs at begins
      cases begins
      exact leads
  | openObject =>
      simp only [beginValue] at begins
      split_ifs at begins
      cases begins
      exact leads
  | closeObject => cases begins
  | closeList => cases begins
  | comma => cases begins
  | colon => cases begins

/-- The first key of the outermost array stays. -/
theorem leadsWith_step {key : Key} {parser next : Parser Number}
    {token : Token Number} (leads : parser.LeadsWith key)
    (steps : step parser token = some next) : next.LeadsWith key := by
  cases parser with
  | value frames => exact leadsWith_beginValue leads steps
  | inList frames =>
      have first : leadsWith key (.items [] :: frames) False := by
        show leadsWith key frames (key = .index 0)
        exact leadsWith_mono False.elim leads
      by_cases ends : token = .closeList
      · subst ends
        cases steps
        exact leadsWith_deliver (leadsWith_mono False.elim leads)
      · rw [step_inList ends] at steps
        exact leadsWith_beginValue first steps
  | afterItem values frames =>
      cases token <;> cases steps
      · exact
          leadsWith_deliver
            (leadsWith_mono
              (fun first =>
                ⟨_, rfl, (firstKey_listEntries first.1).trans
                  (congrArg some first.2.symm)⟩)
              leads)
      · show leadsWith key frames (key = .index 0)
        exact leadsWith_mono And.right leads
  | inObject frames =>
      cases token <;> cases steps
      · exact leadsWith_deliver (leadsWith_mono False.elim leads)
      · exact leadsWith_mono False.elim leads
  | name entries frames =>
      cases token <;> cases steps
      refine leadsWith_mono (fun first => ?_) leads
      rw [first]
      rfl
  | afterName entries next frames =>
      cases token <;> cases steps
      exact leads
  | afterMember entries frames =>
      cases token <;> cases steps
      · exact
          leadsWith_deliver
            (leadsWith_mono (fun first => ⟨_, rfl, first⟩) leads)
      · exact leads
  | done document => simp at steps

/-! ## Documents that are arrays -/

/-- The document is an array, as far as it is read. -/
def Parser.InsideArray : Parser Number → Prop
  | .value frames => frames ≠ []
  | .done document => ∃ entries, document = .array entries
  | _ => True

/-- An array handed down leaves the document an array. -/
theorem insideArray_deliver (entries : List (Key × Value Number))
    (frames : List (Frame Number)) :
    (deliver (.array entries) frames).InsideArray := by
  cases frames with
  | nil => exact ⟨entries, rfl⟩
  | cons frame frames => cases frame <;> trivial

theorem insideArray_beginValue {frames : List (Frame Number)}
    (nested : frames ≠ []) {token : Token Number} {next : Parser Number}
    (begins : beginValue frames token = some next) : next.InsideArray := by
  cases frames with
  | nil => exact (nested rfl).elim
  | cons frame frames =>
      cases token <;> simp only [beginValue] at begins <;>
        first
          | (split_ifs at begins; cases begins; trivial)
          | (cases begins; cases frame <;> trivial)
          | cases begins

theorem insideArray_step {parser next : Parser Number}
    {token : Token Number} (inside : parser.InsideArray)
    (steps : step parser token = some next) : next.InsideArray := by
  cases parser with
  | value frames => exact insideArray_beginValue inside steps
  | inList frames =>
      by_cases ends : token = .closeList
      · subst ends
        cases steps
        exact insideArray_deliver _ _
      · rw [step_inList ends] at steps
        exact insideArray_beginValue (List.cons_ne_nil _ _) steps
  | afterItem values frames =>
      cases token <;> cases steps
      · exact insideArray_deliver _ _
      · exact List.cons_ne_nil _ _
  | inObject frames =>
      cases token <;> cases steps
      · exact insideArray_deliver _ _
      · trivial
  | name entries frames =>
      cases token <;> cases steps
      trivial
  | afterName entries key frames =>
      cases token <;> cases steps
      exact List.cons_ne_nil _ _
  | afterMember entries frames =>
      cases token <;> cases steps
      · exact insideArray_deliver _ _
      · trivial
  | done document => simp at steps

/-! ## Documents that are objects -/

/-- The outermost of nested arrays is an object. -/
def insideObject : List (Frame Number) → Prop → Prop
  | [], innermost => innermost
  | .items _ :: frames, _ => insideObject frames False
  | .member _ _ :: frames, _ => insideObject frames True

/-- The document is an object that is not yet finished. -/
def Parser.InsideObject : Parser Number → Prop
  | .value frames => insideObject frames False
  | .inList frames => insideObject frames False
  | .afterItem _ frames => insideObject frames False
  | .inObject frames => insideObject frames True
  | .name _ frames => insideObject frames True
  | .afterName _ _ frames => insideObject frames True
  | .afterMember _ frames => insideObject frames True
  | .done _ => False

theorem insideObject_mono {first second : Prop} (implies : first → second)
    {frames : List (Frame Number)} (inside : insideObject frames first) :
    insideObject frames second := by
  cases frames with
  | nil => exact implies inside
  | cons frame frames => cases frame <;> exact inside

theorem insideObject_deliver {value : Value Number}
    {frames : List (Frame Number)} (inside : insideObject frames False) :
    (deliver value frames).InsideObject := by
  cases frames with
  | nil => exact inside
  | cons frame frames => cases frame <;> exact inside

theorem insideObject_beginValue {frames : List (Frame Number)}
    (inside : insideObject frames False) {token : Token Number}
    {next : Parser Number}
    (begins : beginValue frames token = some next) :
    next.InsideObject := by
  cases token <;> simp only [beginValue] at begins <;>
    first
      | (split_ifs at begins; cases begins)
      | cases begins
  · exact insideObject_mono False.elim inside
  · exact inside
  · exact insideObject_deliver inside
  · exact insideObject_deliver inside

/-- Only its closing brace finishes an object. -/
theorem insideObject_step {parser next : Parser Number}
    {token : Token Number} (inside : parser.InsideObject)
    (steps : step parser token = some next) :
    next.InsideObject ∨
      token = .closeObject ∧ ∃ document, next = .done document := by
  have close {value : Value Number} {frames : List (Frame Number)}
      (inside : insideObject frames True) :
      (deliver value frames).InsideObject ∨
        ∃ document, deliver value frames = .done document := by
    cases frames with
    | nil => exact Or.inr ⟨value, rfl⟩
    | cons frame frames => cases frame <;> exact Or.inl inside
  cases parser with
  | value frames => exact Or.inl (insideObject_beginValue inside steps)
  | inList frames =>
      by_cases ends : token = .closeList
      · subst ends
        cases steps
        exact Or.inl (insideObject_deliver inside)
      · rw [step_inList ends] at steps
        have nested : insideObject (.items [] :: frames) False := inside
        exact Or.inl (insideObject_beginValue nested steps)
  | afterItem values frames =>
      cases token <;> cases steps
      · exact Or.inl (insideObject_deliver inside)
      · exact Or.inl inside
  | inObject frames =>
      cases token <;> cases steps
      · exact (close inside).imp_right fun ends => ⟨rfl, ends⟩
      · exact Or.inl inside
  | name entries frames =>
      cases token <;> cases steps
      exact Or.inl inside
  | afterName entries key frames =>
      cases token <;> cases steps
      exact Or.inl inside
  | afterMember entries frames =>
      cases token <;> cases steps
      · exact (close inside).imp_right fun ends => ⟨rfl, ends⟩
      · exact Or.inl inside
  | done document => exact inside.elim

/-- After an object there is only space behind its closing brace. -/
theorem decodeFrom_insideObject {reader : Reader Number}
    {text : List Char} {value : Value Number}
    (inside : reader.parser.InsideObject)
    (decodes : decodeFrom readNumber reader text = some value) :
    ∃ body spaces,
      text = body ++ '}' :: spaces ∧
        (∀ char ∈ spaces, isSpace char = true) ∧
        decodeFrom readNumber reader (body ++ ['}']) = some value := by
  induction text generalizing reader with
  | nil =>
      have holds : (Parser.done value).InsideObject := by
        refine decodeFrom_keeps ?_ inside decodes
        intro token spells parser next inside steps
        rcases insideObject_step inside steps with goesOn | ⟨rfl, _⟩
        · exact goesOn
        · rcases spells with ⟨_, member, _⟩
          exact (List.not_mem_nil member).elim
      exact holds.elim
  | cons char rest induction =>
      rw [decodeFrom_cons] at decodes
      rcases Option.bind_eq_some_iff.mp decodes with ⟨next, reads, later⟩
      let Continues (parser : Parser Number) : Prop :=
        parser.InsideObject ∨
          char = '}' ∧ ∃ document, parser = .done document
      have continues : Continues next.parser := by
        have keeps :
            ∀ token, Spells [char] token → ∀ parser next,
              Continues parser → step parser token = some next →
                Continues next := by
          rintro token spells parser next (inside | ⟨_, _, rfl⟩) steps
          · refine (insideObject_step inside steps).imp_right ?_
            rintro ⟨rfl, ends⟩
            have brace : '}' ∈ [char] := mem_of_spells rfl spells
            exact ⟨(List.mem_singleton.mp brace).symm, ends⟩
          · simp at steps
        exact
          readChar_keeps keeps List.mem_cons_self (Or.inl inside) reads
      rcases continues with inside | ⟨rfl, document, isDone⟩
      · rcases induction inside later with
          ⟨body, spaces, split, all, decodes⟩
        refine ⟨char :: body, spaces, congrArg _ split, all, ?_⟩
        rw [List.cons_append, decodeFrom_cons, reads]
        exact decodes
      · rcases next with ⟨mode, parser⟩
        subst isDone
        rcases decodeFrom_done later with ⟨rfl, spaces, rfl⟩
        refine ⟨[], rest, rfl, spaces, ?_⟩
        rw [List.nil_append, decodeFrom_cons, reads]
        rfl

/-! ## Lists without objects -/

/-- A list that waits for a value. -/
def Frame.IsItems : Frame Number → Prop
  | .items _ => True
  | .member _ _ => False

theorem Frame.isItems_items (values : List (Value Number)) :
    (Frame.items values).IsItems :=
  trivial

/-- The document is a list, and no object is open. -/
def Parser.InsideLists : Parser Number → Prop
  | .value frames => frames ≠ [] ∧ ∀ frame ∈ frames, frame.IsItems
  | .inList frames => ∀ frame ∈ frames, frame.IsItems
  | .afterItem _ frames => ∀ frame ∈ frames, frame.IsItems
  | .done _ => True
  | _ => False

theorem insideLists_deliver (value : Value Number)
    {frames : List (Frame Number)}
    (lists : ∀ frame ∈ frames, frame.IsItems) :
    (deliver value frames).InsideLists := by
  cases frames with
  | nil => trivial
  | cons frame frames =>
      cases frame with
      | items values => exact (List.forall_mem_cons.mp lists).2
      | member entries key => exact (lists _ List.mem_cons_self).elim

theorem insideLists_beginValue {frames : List (Frame Number)}
    (lists : ∀ frame ∈ frames, frame.IsItems) {token : Token Number}
    (noObject : token ≠ .openObject) {next : Parser Number}
    (begins : beginValue frames token = some next) :
    next.InsideLists := by
  cases token with
  | scalar value =>
      cases begins
      exact insideLists_deliver value lists
  | string text =>
      cases begins
      exact insideLists_deliver _ lists
  | openList =>
      simp only [beginValue] at begins
      split_ifs at begins
      cases begins
      exact lists
  | openObject => exact (noObject rfl).elim
  | _ => cases begins

/-- Without an opening brace no object opens. -/
theorem insideLists_step {parser next : Parser Number}
    {token : Token Number} (noObject : token ≠ .openObject)
    (inside : parser.InsideLists)
    (steps : step parser token = some next) : next.InsideLists := by
  cases parser with
  | value frames =>
      exact insideLists_beginValue inside.2 noObject steps
  | inList frames =>
      by_cases ends : token = .closeList
      · subst ends
        cases steps
        exact insideLists_deliver _ inside
      · rw [step_inList ends] at steps
        exact
          insideLists_beginValue
            (List.forall_mem_cons.mpr ⟨Frame.isItems_items [], inside⟩)
            noObject steps
  | afterItem values frames =>
      cases token <;> cases steps
      · exact insideLists_deliver _ inside
      · exact
          ⟨List.cons_ne_nil _ _,
            List.forall_mem_cons.mpr ⟨Frame.isItems_items values, inside⟩⟩
  | done document => simp at steps
  | _ => exact inside.elim

/-! ## Values inside lists -/

/-- A list is larger than its items. -/
theorem sizeOf_lt_listEntries {value : Value Number}
    {values : List (Value Number)} (member : value ∈ values) :
    sizeOf value < sizeOf (Value.array (listEntries values)) := by
  rcases List.mem_iff_getElem.mp member with ⟨place, inside, rfl⟩
  have entry :
      (Key.index place, values[place]) ∈ listEntries values := by
    refine List.mem_map.mpr ⟨(values[place], place), ?_, rfl⟩
    exact List.mk_mem_zipIdx_iff_getElem?.mpr (by simp)
  have smaller := List.sizeOf_lt_of_mem entry
  simp only [Value.array.sizeOf_spec, Prod.mk.sizeOf_spec] at smaller ⊢
  omega

/-- One of the open lists has an item of a size, below it are lists. -/
def carries (size : ℕ) (frames : List (Frame Number)) : Prop :=
  ∃ values lists,
    .items values :: lists <:+ frames ∧
      (∀ frame ∈ lists, frame.IsItems) ∧
      ∃ value ∈ values, size ≤ sizeOf value

/-- A list of the document has an item of a size. -/
def Parser.Carries (size : ℕ) : Parser Number → Prop
  | .value frames => carries size frames
  | .inList frames => carries size frames
  | .afterItem values frames => carries size (.items values :: frames)
  | .inObject frames => carries size frames
  | .name _ frames => carries size frames
  | .afterName _ _ frames => carries size frames
  | .afterMember _ frames => carries size frames
  | .done document => size < sizeOf document

theorem carries_cons {size : ℕ} {frames : List (Frame Number)}
    (frame : Frame Number) (found : carries size frames) :
    carries size (frame :: frames) := by
  rcases found with ⟨values, lists, suffix, below, item⟩
  exact
    ⟨values, lists, suffix.trans (List.suffix_cons frame frames), below,
      item⟩

theorem carries_deliver {size : ℕ} {frames : List (Frame Number)}
    (value : Value Number) (found : carries size frames) :
    (deliver value frames).Carries size := by
  rcases found with ⟨values, lists, suffix, below, item, member, large⟩
  cases frames with
  | nil => cases List.suffix_nil.mp suffix
  | cons frame frames =>
      rcases List.suffix_cons_iff.mp suffix with same | inner
      · cases same
        exact
          ⟨values ++ [value], lists, List.suffix_rfl, below, item,
            List.mem_append_left _ member, large⟩
      · have later : carries size frames :=
          ⟨values, lists, inner, below, item, member, large⟩
        cases frame with
        | items _ => exact carries_cons _ later
        | member _ _ => exact later

/-- A larger value handed to a list is carried by it. -/
theorem carries_deliver_lists {size : ℕ} {value : Value Number}
    (large : size < sizeOf value) {frames : List (Frame Number)}
    (lists : ∀ frame ∈ frames, frame.IsItems) :
    (deliver value frames).Carries size := by
  cases frames with
  | nil => exact large
  | cons frame frames =>
      cases frame with
      | items values =>
          exact
            ⟨values ++ [value], frames, List.suffix_rfl,
              (List.forall_mem_cons.mp lists).2, value,
              List.mem_append_right _ (List.mem_singleton_self value),
              large.le⟩
      | member entries key => exact (lists _ List.mem_cons_self).elim

theorem carries_beginValue {size : ℕ} {frames : List (Frame Number)}
    (found : carries size frames) {token : Token Number}
    {next : Parser Number}
    (begins : beginValue frames token = some next) :
    next.Carries size := by
  cases token <;> simp only [beginValue] at begins <;>
    first
      | (split_ifs at begins; cases begins; exact found)
      | (cases begins; exact carries_deliver _ found)
      | cases begins

/-- What a list of the document carries, it keeps. -/
theorem carries_step {size : ℕ} {parser next : Parser Number}
    {token : Token Number} (found : parser.Carries size)
    (steps : step parser token = some next) : next.Carries size := by
  cases parser with
  | value frames => exact carries_beginValue found steps
  | inList frames =>
      by_cases ends : token = .closeList
      · subst ends
        cases steps
        exact carries_deliver _ found
      · rw [step_inList ends] at steps
        exact carries_beginValue (carries_cons _ found) steps
  | afterItem values frames =>
      cases token <;> cases steps
      · rcases found with
          ⟨items, lists, suffix, below, item, member, large⟩
        rcases List.suffix_cons_iff.mp suffix with same | inner
        · cases same
          exact
            carries_deliver_lists
              (large.trans_lt (sizeOf_lt_listEntries member)) below
        · exact
            carries_deliver _
              ⟨items, lists, inner, below, item, member, large⟩
      · exact found
  | inObject frames =>
      cases token <;> cases steps
      · exact carries_deliver _ found
      · exact found
  | name entries frames =>
      cases token <;> cases steps
      exact found
  | afterName entries key frames =>
      cases token <;> cases steps
      exact carries_cons _ found
  | afterMember entries frames =>
      cases token <;> cases steps
      · exact carries_deliver _ found
      · exact found
  | done document => simp at steps

/-! ## A document inside another -/

/-- Read inside unfinished arrays. -/
def Parser.within (outer : List (Frame Number)) :
    Parser Number → Parser Number
  | .value frames => .value (frames ++ outer)
  | .inList frames => .inList (frames ++ outer)
  | .afterItem values frames => .afterItem values (frames ++ outer)
  | .inObject frames => .inObject (frames ++ outer)
  | .name entries frames => .name entries (frames ++ outer)
  | .afterName entries key frames => .afterName entries key (frames ++ outer)
  | .afterMember entries frames => .afterMember entries (frames ++ outer)
  | .done document => deliver document outer

def Reader.within (outer : List (Frame Number)) (reader : Reader Number) :
    Reader Number :=
  { reader with parser := reader.parser.within outer }

theorem deliver_append (value : Value Number)
    (frames outer : List (Frame Number)) :
    deliver value (frames ++ outer) =
      (deliver value frames).within outer := by
  cases frames with
  | nil => rfl
  | cons frame frames => cases frame <;> rfl

theorem beginValue_append {frames outer : List (Frame Number)}
    {token : Token Number} {next inner : Parser Number}
    (alone : beginValue frames token = some next)
    (nested : beginValue (frames ++ outer) token = some inner) :
    inner = next.within outer := by
  cases token <;> simp only [beginValue] at alone nested <;>
    first
      | (split_ifs at alone nested; cases alone; cases nested; rfl)
      | (cases alone; cases nested; exact deliver_append _ _ _)
      | cases alone

/-- Inside other arrays a step does the same. -/
theorem step_within {outer : List (Frame Number)}
    {parser next inner : Parser Number} {token : Token Number}
    (alone : step parser token = some next)
    (nested : step (parser.within outer) token = some inner) :
    inner = next.within outer := by
  cases parser with
  | value frames => exact beginValue_append alone nested
  | inList frames =>
      by_cases ends : token = .closeList
      · subst ends
        cases alone
        cases nested
        exact deliver_append _ _ _
      · rw [step_inList ends] at alone
        rw [Parser.within, step_inList ends] at nested
        exact beginValue_append alone nested
  | done document => simp at alone
  | _ =>
      cases token <;> cases alone <;> cases nested <;>
        first
          | rfl
          | exact deliver_append _ _ _

theorem readPlain_within {outer : List (Frame Number)}
    {parser : Parser Number} {char : Char} {next inner : Reader Number}
    (alone : readPlain parser char = some next)
    (nested : readPlain (parser.within outer) char = some inner) :
    inner = next.within outer := by
  rw [readPlain] at alone nested
  split_ifs at alone nested
  · cases alone
    cases nested
    rfl
  · cases alone
    cases nested
    rfl
  · cases alone
    cases nested
    rfl
  · rcases Option.bind_eq_some_iff.mp alone with ⟨token, isToken, steps⟩
    rcases Option.bind_eq_some_iff.mp steps with ⟨_, isNext, same⟩
    cases same
    rcases Option.bind_eq_some_iff.mp nested with
      ⟨_, sameToken, follows⟩
    cases isToken.symm.trans sameToken
    rcases Option.bind_eq_some_iff.mp follows with ⟨_, isInner, same⟩
    cases same
    rw [step_within isNext isInner]
    rfl

/-- Inside other arrays a character does the same. -/
theorem readChar_within {outer : List (Frame Number)}
    {reader next inner : Reader Number} {char : Char}
    (alone : readChar readNumber reader char = some next)
    (nested :
      readChar readNumber (reader.within outer) char = some inner) :
    inner = next.within outer := by
  rcases reader with ⟨mode, parser⟩
  cases mode with
  | plain => exact readPlain_within alone nested
  | word word =>
      simp only [Reader.within, readChar] at alone nested
      split_ifs at alone nested
      · cases alone
        cases nested
        rfl
      · rcases Option.bind_eq_some_iff.mp alone with ⟨_, ends, alone⟩
        rcases Option.bind_eq_some_iff.mp ends with ⟨token, isToken, ends⟩
        rcases Option.bind_eq_some_iff.mp nested with ⟨_, closes, nested⟩
        rw [readWord, isToken] at closes
        rw [step_within ends closes] at nested
        exact readPlain_within alone nested
  | quoted raw =>
      simp only [Reader.within, readChar] at alone nested
      split_ifs at alone nested
      · rcases Option.bind_eq_some_iff.mp alone with ⟨_, ends, same⟩
        cases same
        rcases Option.bind_eq_some_iff.mp ends with ⟨text, isText, ends⟩
        rcases Option.bind_eq_some_iff.mp nested with ⟨_, closes, same⟩
        cases same
        rw [readString, isText] at closes
        rw [step_within ends closes]
        rfl
      · cases alone
        cases nested
        rfl
      · cases alone
        cases nested
        rfl
  | escaped raw =>
      simp only [Reader.within, readChar] at alone nested
      split_ifs at alone nested
      cases alone
      cases nested
      rfl

/-- Inside other arrays a text does the same. -/
theorem read_within {outer : List (Frame Number)}
    {reader next inner : Reader Number} {text : List Char}
    (alone : read readNumber reader text = some next)
    (nested :
      read readNumber (reader.within outer) text = some inner) :
    inner = next.within outer := by
  induction text generalizing reader with
  | nil =>
      cases alone
      cases nested
      rfl
  | cons char rest induction =>
      rw [read_cons] at alone nested
      rcases Option.bind_eq_some_iff.mp alone with ⟨_, one, alone⟩
      rcases Option.bind_eq_some_iff.mp nested with ⟨_, same, nested⟩
      rw [readChar_within one same] at nested
      exact induction alone nested

end SultanPass.Library.JsonDecoding
