import SultanPass.LocalAIService
import SultanPass.Library.JsonDocuments

/-!
# Replies that are JSON themselves

A reply that is a JSON document is not always returned as decoded.  What lies
between its outermost braces is decoded instead, so a list with objects in it
loses everything around them, and where the outermost braces do not match,
all of it.  A document that is neither an array nor `null` and has no such
pair of braces raises a `TypeError`.

`answersAsDecoded_iff` says which replies are answered by their own decoded
value: those that are no document, objects, lists without a pair of braces,
strings with one, and `null`.
-/

namespace SultanPass.LocalAIService

open SultanPass.Library
open SultanPass.Library.JsonDecoding

variable {Number : Type} {readNumber : List Char → Number}

/-! ## The answer of a document -/

variable (readNumber) in
/-- A document is answered by its array, everything else by some array. -/
def AnswersAsDecoded (text : List Char) : Prop :=
  match jsonDecode readNumber text with
  | some (.array entries) => extractJSON readNumber text = .ok entries
  | some _ => extractJSON readNumber text = .ok []
  | none => ∃ entries, extractJSON readNumber text = .ok entries

/-- The first character that is not space. -/
def leading (text : List Char) : Option Char :=
  (text.dropWhile isSpace).head?

/-- An object, a list without braces, a string with braces, or `null`. -/
def KeepsDocument (text : List Char) : Prop :=
  match leading text with
  | some '{' => True
  | some '[' => bracePair text = false
  | some '"' => bracePair text = true
  | some char => char = 'n'
  | none => False

theorem bracePair_of_not_mem {skipped : List Char}
    (noOpen : '{' ∉ skipped) (rest : List Char) :
    bracePair (skipped ++ rest) = bracePair rest := by
  rw [bracePair, bracePair, List.dropWhile_append_of_pos]
  intro char member
  exact decide_eq_true (ne_of_mem_of_not_mem member noOpen)

/-- From a brace on, the text decodes to an array or not at all. -/
theorem exists_ok_of_pair {text : List Char}
    (pair : bracePair text = true) :
    ∃ entries, extractJSON readNumber text = .ok entries := by
  rcases exists_of_bracePair pair with
    ⟨skipped, inner, after, rfl, noOpen, noClose⟩
  rw [extractJSON_of_pair readNumber noOpen noClose]
  cases decodes : jsonDecode readNumber ('{' :: (inner ++ ['}'])) with
  | none => exact ⟨[], rfl⟩
  | some value =>
      rcases exists_entries_of_brace decodes with ⟨entries, rfl⟩
      exact ⟨entries, rfl⟩

/-! ## Objects -/

/-- The outermost braces of an object are its own. -/
theorem extractJSON_object {spaces rest : List Char}
    (all : ∀ char ∈ spaces, isSpace char = true) {value : Value Number}
    (decodes :
      decodeFrom readNumber ⟨.plain, .inObject []⟩ rest = some value) :
    ∃ entries,
      value = .array entries ∧
        extractJSON readNumber (spaces ++ '{' :: rest) = .ok entries := by
  have inside : (Parser.inObject ([] : List (Frame Number))).InsideObject :=
    trivial
  rcases decodeFrom_insideObject inside decodes with
    ⟨body, after, rfl, allAfter, document⟩
  rw [← jsonDecode_brace] at document
  rcases exists_entries_of_brace document with ⟨entries, rfl⟩
  refine ⟨entries, rfl, ?_⟩
  rw [extractJSON_of_pair readNumber (not_mem_of_spaces rfl all)
    (not_mem_of_spaces rfl allAfter), document]
  rfl

/-! ## Strings -/

/-- Where a string is read, it goes on or the document is complete. -/
theorem string_or_done {mode : Mode} (inString : mode.InString)
    {text : List Char} {reader : Reader Number}
    (reads : read readNumber ⟨mode, .value []⟩ text = some reader)
    {rest : List Char} {value : Value Number}
    (decodes : decodeFrom readNumber reader rest = some value) :
    reader.mode.InString ∧ reader.parser = .value [] ∨
      ∀ char ∈ rest, isSpace char = true := by
  induction text generalizing mode with
  | nil =>
      cases reads
      exact Or.inl ⟨inString, rfl⟩
  | cons char text induction =>
      rw [read_cons] at reads
      rcases Option.bind_eq_some_iff.mp reads with ⟨next, one, more⟩
      cases inString with
      | quoted raw =>
          rw [readChar] at one
          split_ifs at one
          · rcases Option.bind_eq_some_iff.mp one with
              ⟨parser, closes, same⟩
            rcases Option.bind_eq_some_iff.mp closes with
              ⟨content, _, steps⟩
            cases same
            cases steps
            have whole :
                decodeFrom readNumber ⟨.plain, .done (.string content)⟩
                  (text ++ rest) = some value := by
              rw [decodeFrom_append]
              exact Option.bind_eq_some_iff.mpr ⟨reader, more, decodes⟩
            have spaces := (decodeFrom_done whole).2.1
            exact
              Or.inr fun char member =>
                spaces char (List.mem_append_right text member)
          · cases one
            exact induction (.escaped raw) more
          · cases one
            exact induction (.quoted _) more
      | escaped raw =>
          rw [readChar] at one
          split_ifs at one
          cases one
          exact induction (.quoted _) more

/-- A brace in a string is part of it. -/
theorem quoted_of_brace {mode : Mode} (inString : mode.InString)
    {parser : Parser Number} {rest : List Char} {value : Value Number}
    (decodes :
      decodeFrom readNumber ⟨mode, parser⟩ ('{' :: rest) = some value) :
    ∃ raw, decodeFrom readNumber ⟨.quoted raw, parser⟩ rest =
      some value := by
  rw [decodeFrom_cons] at decodes
  cases inString with
  | quoted raw => exact ⟨_, decodes⟩
  | escaped raw => cases decodes

/-- A quote that is followed by the last brace stands before it. -/
theorem split_before_brace {inner spaces rest : List Char}
    (split : inner ++ ['}'] = spaces ++ '"' :: rest) :
    ∃ others, rest = others ++ ['}'] ∧
      inner = spaces ++ '"' :: others := by
  rcases List.eq_nil_or_concat rest with rfl | ⟨others, last, rfl⟩
  · have ends := congrArg List.getLast? split
    simp at ends
  · rw [List.concat_eq_append, ← List.cons_append, ← List.append_assoc]
      at split
    rcases List.append_inj' split rfl with ⟨same, last⟩
    cases last
    exact ⟨others, List.concat_eq_append, same⟩

/-- A string with a pair of braces is answered by no entries. -/
theorem extractJSON_string {spaces rest : List Char}
    (all : ∀ char ∈ spaces, isSpace char = true) {value : Value Number}
    (decodes :
      decodeFrom readNumber ⟨.quoted [], .value []⟩ rest = some value)
    (pair : bracePair rest = true) :
    extractJSON readNumber (spaces ++ '"' :: rest) = .ok [] := by
  rcases exists_of_bracePair pair with
    ⟨before, inner, after, rfl, noOpen, noClose⟩
  have noOpenBefore : '{' ∉ spaces ++ '"' :: before := by
    rw [List.mem_append, List.mem_cons, not_or, not_or]
    exact ⟨not_mem_of_spaces rfl all, by decide, noOpen⟩
  have parts :
      spaces ++ '"' :: (before ++ '{' :: (inner ++ '}' :: after)) =
        (spaces ++ '"' :: before) ++ '{' :: (inner ++ '}' :: after) := by
    simp
  rw [parts, extractJSON_of_pair readNumber noOpenBefore noClose,
    jsonDecode_brace]
  rcases @jsonDecode_behind_brace Number readNumber (inner ++ ['}'])
    with nothing | empty | ⟨gap, others, split, allGap⟩
  · rw [nothing]
    rfl
  · rw [empty]
    rfl
  · rcases split_before_brace split with ⟨more, rfl, rfl⟩
    rw [decodeFrom_append] at decodes
    rcases Option.bind_eq_some_iff.mp decodes with ⟨reader, reads, later⟩
    rcases string_or_done (.quoted []) reads later with
      ⟨inString, atValue⟩ | spacesOnly
    · rcases reader with ⟨mode, parser⟩
      subst atValue
      rcases quoted_of_brace inString later with ⟨raw, quoted⟩
      rw [List.append_assoc, List.cons_append] at quoted
      rcases readString_of_decodeFrom_quoted allGap quoted with
        ⟨next, content, steps, behind⟩
      cases steps
      cases (decodeFrom_done behind).2.1 '}' (by simp)
    · cases spacesOnly '{' List.mem_cons_self

/-! ## Lists -/

theorem leadsWith_lists {frames : List (Frame Number)}
    (lists : ∀ frame ∈ frames, frame.IsItems) {innermost : Prop}
    (leads : innermost) : leadsWith (.index 0) frames innermost := by
  induction frames generalizing innermost with
  | nil => exact leads
  | cons frame frames induction =>
      rw [List.forall_mem_cons] at lists
      cases frame with
      | items values => exact induction lists.2 rfl
      | member entries key => exact lists.1.elim

/-- An item handed to a list begins the outermost list. -/
theorem deliver_items (value : Value Number)
    (values : List (Value Number)) {frames : List (Frame Number)}
    (lists : ∀ frame ∈ frames, frame.IsItems) :
    (deliver value (.items values :: frames)).BehindItem ∧
      (deliver value (.items values :: frames)).LeadsWith (.index 0) :=
  ⟨.afterItem _ lists, leadsWith_lists lists ⟨List.concat_ne_nil _ _, rfl⟩⟩

/-- A value without nesting becomes an item of an open list. -/
theorem behindItem_of_insideLists {parser next : Parser Number}
    (inside : parser.InsideLists) {token : Token Number}
    {value : Value Number}
    (isValue : ∀ frames, beginValue frames token =
      some (deliver value frames))
    (steps : step parser token = some next) :
    next.BehindItem ∧ next.LeadsWith (.index 0) := by
  cases parser with
  | value frames =>
      rw [step, isValue] at steps
      cases steps
      cases frames with
      | nil => exact (inside.1 rfl).elim
      | cons frame frames =>
          have lists := List.forall_mem_cons.mp inside.2
          cases frame with
          | items values => exact deliver_items value values lists.2
          | member entries key => exact lists.1.elim
  | inList frames =>
      have goesOn : token ≠ .closeList := by
        rintro rfl
        cases isValue []
      rw [step_inList goesOn, isValue] at steps
      cases steps
      exact deliver_items value [] inside
  | afterItem values frames =>
      cases token <;> cases steps <;> cases isValue []
  | done document => simp at steps
  | _ => exact inside.elim

/-- An object opened between lists has a list around it. -/
theorem inObject_of_insideLists {parser next : Parser Number}
    (inside : parser.InsideLists)
    (steps : step parser .openObject = some next) :
    ∃ values frames,
      next = .inObject (.items values :: frames) ∧
        ∀ frame ∈ frames, frame.IsItems := by
  cases parser with
  | value frames =>
      rw [step, beginValue] at steps
      split_ifs at steps
      cases steps
      cases frames with
      | nil => exact (inside.1 rfl).elim
      | cons frame frames =>
          have lists := List.forall_mem_cons.mp inside.2
          cases frame with
          | items values => exact ⟨values, frames, rfl, lists.2⟩
          | member entries key => exact lists.1.elim
  | inList frames =>
      have goesOn : (Token.openObject : Token Number) ≠ .closeList := by
        rintro ⟨⟩
      rw [step_inList goesOn, beginValue] at steps
      split_ifs at steps
      cases steps
      exact ⟨[], frames, rfl, inside⟩
  | afterItem values frames => cases steps
  | done document => cases steps
  | _ => exact inside.elim

/-- A list that a string is read for is not empty. -/
theorem leadsWith_of_inString {mode : Mode} (inString : mode.InString)
    {parser : Parser Number} (inside : parser.InsideLists)
    {text : List Char} {value : Value Number}
    (decodes :
      decodeFrom readNumber ⟨mode, parser⟩ text = some value) :
    value.LeadsWith (.index 0) := by
  rcases exists_close_of_inString inString decodes with
    ⟨content, next, rest, steps, later⟩
  have leads :=
    (behindItem_of_insideLists inside (fun _ => rfl) steps).2
  exact decodeFrom_keeps (fun _ _ _ _ => leadsWith_step) leads later

/-- An array that is returned and not empty was decoded. -/
theorem eq_array_of_returned {document : Option (Value Number)}
    {entries : Entries Number} {key : Key}
    (leads : (Value.array entries).LeadsWith key)
    (same : returned document = .ok entries) :
    document = some (.array entries) := by
  have nonempty : entries ≠ [] := by
    rintro rfl
    rcases leads with ⟨_, ⟨⟩, first⟩
    cases first
  cases document with
  | none =>
      cases same
      exact (nonempty rfl).elim
  | some value =>
      cases value with
      | null =>
          cases same
          exact (nonempty rfl).elim
      | array decoded =>
          cases same
          rfl
      | _ => cases same

/-- What stands between two strings does not name the first item. -/
theorem not_array_of_gap {gap more after : List Char}
    {parser : Parser Number} (behind : parser.BehindItem)
    (leads : parser.LeadsWith (.index 0)) {entries : Entries Number}
    (outer :
      decodeFrom readNumber ⟨.plain, parser⟩ (gap ++ '"' :: after) =
        some (.array entries))
    (noQuote : '"' ∉ gap) :
    decodeFrom readNumber ⟨.quoted [], .inObject []⟩
      (gap ++ '"' :: more) ≠ some (.array entries) := by
  intro inner
  have comma := comma_mem_of_decodeFrom behind outer
  have first : (Value.array entries).LeadsWith (.index 0) :=
    decodeFrom_keeps (fun _ _ _ _ => leadsWith_step) leads outer
  rw [decodeFrom_append] at outer inner
  rcases Option.bind_eq_some_iff.mp outer with ⟨reader, reads, _⟩
  have noBackslash := backslash_not_mem_of_read .plain noQuote reads
  rw [read_quoted noQuote noBackslash, Option.bind_some, decodeFrom_cons,
    readChar, if_pos rfl] at inner
  rcases Option.bind_eq_some_iff.mp inner with ⟨_, closes, later⟩
  rcases Option.bind_eq_some_iff.mp closes with ⟨next, named, same⟩
  rcases Option.bind_eq_some_iff.mp named with ⟨name, isText, steps⟩
  cases same
  cases unescape_eq_self noBackslash isText
  cases steps
  rw [arrayKey_of_comma comma] at later
  have named : (Value.array entries).LeadsWith (.name gap) := by
    have start :
        (Parser.afterName [] (.name gap)
          ([] : List (Frame Number))).LeadsWith (.name gap) :=
      rfl
    exact decodeFrom_keeps (fun _ _ _ _ => leadsWith_step) start later
  rcases first with ⟨_, ⟨⟩, first⟩
  rcases named with ⟨_, ⟨⟩, second⟩
  cases first.symm.trans second

/-- An object inside a list is not the list. -/
theorem not_array_of_object {inner after : List Char}
    {values : List (Value Number)} {frames : List (Frame Number)}
    (lists : ∀ frame ∈ frames, frame.IsItems) {entries : Entries Number}
    (outer :
      decodeFrom readNumber
          ⟨.plain, .inObject (.items values :: frames)⟩
          (inner ++ '}' :: after) =
        some (.array entries)) :
    decodeFrom readNumber ⟨.plain, .inObject []⟩ (inner ++ ['}']) ≠
      some (.array entries) := by
  intro alone
  rcases Option.bind_eq_some_iff.mp alone with ⟨last, reads, ends⟩
  have atBrace : last = ⟨.plain, .done (.array entries)⟩ := by
    rw [read_append] at reads
    rcases Option.bind_eq_some_iff.mp reads with ⟨middle, _, one⟩
    rw [read_cons] at one
    rcases Option.bind_eq_some_iff.mp one with ⟨next, brace, same⟩
    cases same
    exact eq_done_of_finish_brace brace ends
  subst atBrace
  rw [List.append_cons, decodeFrom_append] at outer
  rcases Option.bind_eq_some_iff.mp outer with ⟨reader, nested, later⟩
  have inside :
      read readNumber
          (Reader.within (.items values :: frames)
            ⟨.plain, .inObject []⟩)
          (inner ++ ['}']) =
        some reader :=
    nested
  have same :
      reader =
        ⟨.plain, deliver (.array entries) (.items values :: frames)⟩ :=
    read_within reads inside
  subst same
  have carried :
      (deliver (.array entries) (.items values :: frames)).Carries
        (sizeOf (Value.array entries)) :=
    ⟨values ++ [.array entries], frames, List.suffix_rfl, lists,
      .array entries, List.mem_append_right _ List.mem_cons_self, le_rfl⟩
  have smaller :
      (Parser.done (Value.array entries)).Carries
        (sizeOf (Value.array entries)) :=
    decodeFrom_keeps (fun _ _ _ _ => carries_step) carried later
  exact (lt_irrefl _ smaller).elim

/-- A string inside a list does not open an object that is the list. -/
theorem not_array_of_string {inner after raw : List Char}
    {parser : Parser Number} (inside : parser.InsideLists)
    {entries : Entries Number}
    (outer :
      decodeFrom readNumber ⟨.quoted raw, parser⟩
          (inner ++ '}' :: after) =
        some (.array entries)) :
    decodeFrom readNumber ⟨.plain, .inObject []⟩ (inner ++ ['}']) ≠
      some (.array entries) := by
  have leads := leadsWith_of_inString (.quoted raw) inside outer
  intro alone
  rcases @jsonDecode_behind_brace Number readNumber (inner ++ ['}'])
    with nothing | empty | ⟨spaces, others, split, allSpaces⟩
  · rw [nothing] at alone
    cases alone
  · rw [empty] at alone
    cases alone
    rcases leads with ⟨_, ⟨⟩, first⟩
    cases first
  · rcases split_before_brace split with ⟨more, rfl, rfl⟩
    rw [List.append_assoc, List.cons_append] at outer alone
    rcases readString_of_decodeFrom_quoted allSpaces outer with
      ⟨next, content, steps, later⟩
    have item := behindItem_of_insideLists inside (fun _ => rfl) steps
    rw [decodeFrom_spaces _ allSpaces, decodeFrom_cons, readChar_quote,
      Option.bind_some] at alone
    by_cases quote : '"' ∈ more
    · rcases List.eq_append_cons_of_mem quote with
        ⟨gap, rest, rfl, noQuote⟩
      rw [List.append_assoc, List.cons_append] at later alone
      exact not_array_of_gap item.1 item.2 later noQuote alone
    · have noQuote : '"' ∉ more ++ ['}'] := by
        rw [List.mem_append, not_or]
        exact ⟨quote, by decide⟩
      rw [decodeFrom_eq_none_of_no_quote (.quoted []) noQuote] at alone
      cases alone

/-- A list with a pair of braces is not answered by its own items. -/
theorem extractJSON_list {spaces rest : List Char}
    (all : ∀ char ∈ spaces, isSpace char = true)
    {entries : Entries Number}
    (decodes :
      decodeFrom readNumber ⟨.plain, .inList []⟩ rest =
        some (.array entries))
    (pair : bracePair rest = true) :
    extractJSON readNumber (spaces ++ '[' :: rest) ≠ .ok entries := by
  intro same
  rcases exists_of_bracePair pair with
    ⟨before, inner, after, rfl, noOpen, noClose⟩
  have noOpenBefore : '{' ∉ spaces ++ '[' :: before := by
    rw [List.mem_append, List.mem_cons, not_or, not_or]
    exact ⟨not_mem_of_spaces rfl all, by decide, noOpen⟩
  have parts :
      spaces ++ '[' :: (before ++ '{' :: (inner ++ '}' :: after)) =
        (spaces ++ '[' :: before) ++ '{' :: (inner ++ '}' :: after) := by
    simp
  rw [parts, extractJSON_of_pair readNumber noOpenBefore noClose,
    jsonDecode_brace] at same
  rw [decodeFrom_append] at decodes
  rcases Option.bind_eq_some_iff.mp decodes with ⟨reader, reads, later⟩
  have inside : reader.parser.InsideLists := by
    have start :
        (Parser.inList ([] : List (Frame Number))).InsideLists :=
      nofun
    refine read_keeps ?_ (List.Subset.refl before) start reads
    intro token spells parser next
    refine insideLists_step ?_
    rintro rfl
    exact noOpen (mem_of_spells rfl spells)
  rcases reader with ⟨mode, parser⟩
  have inString (isString : mode.InString) : False := by
    have leads := leadsWith_of_inString isString inside later
    rcases quoted_of_brace isString later with ⟨raw, outer⟩
    exact
      not_array_of_string inside outer (eq_array_of_returned leads same)
  cases mode with
  | plain =>
      rw [decodeFrom_cons, readChar_openBrace] at later
      rcases Option.bind_eq_some_iff.mp later with ⟨next, opens, outer⟩
      rcases Option.bind_eq_some_iff.mp opens with ⟨_, steps, isNext⟩
      cases isNext
      rcases inObject_of_insideLists inside steps with
        ⟨values, frames, rfl, lists⟩
      have leads : (Value.array entries).LeadsWith (.index 0) := by
        have start :
            (Parser.inObject (.items values :: frames)).LeadsWith
              (.index 0) :=
          leadsWith_lists lists rfl
        exact decodeFrom_keeps (fun _ _ _ _ => leadsWith_step) start outer
      exact
        not_array_of_object lists outer (eq_array_of_returned leads same)
  | word word =>
      rw [decodeFrom_cons] at later
      rcases Option.bind_eq_some_iff.mp later with ⟨_, flushes, _⟩
      rcases Option.bind_eq_some_iff.mp flushes with ⟨next, ends, opens⟩
      rcases Option.bind_eq_some_iff.mp ends with ⟨token, isToken, steps⟩
      rcases exists_scalar_of_wordToken isToken with ⟨value, rfl⟩
      cases (behindItem_of_insideLists inside (fun _ => rfl) steps).1 <;>
        cases opens
  | quoted raw => exact inString (.quoted raw)
  | escaped raw => exact inString (.escaped raw)

/-! ## Which replies are answered by their decoded value -/

theorem exists_leading (text : List Char) :
    (∀ char ∈ text, isSpace char = true) ∨
      ∃ spaces char rest,
        text = spaces ++ char :: rest ∧
          (∀ char ∈ spaces, isSpace char = true) ∧
          isSpace char = false := by
  induction text with
  | nil => exact Or.inl nofun
  | cons char text induction =>
      by_cases space : isSpace char = true
      · refine induction.imp ?_ ?_
        · exact fun all => List.forall_mem_cons.mpr ⟨space, all⟩
        · rintro ⟨spaces, first, rest, rfl, all, noSpace⟩
          exact
            ⟨char :: spaces, first, rest, rfl,
              List.forall_mem_cons.mpr ⟨space, all⟩, noSpace⟩
      · exact
          Or.inr
            ⟨[], char, text, rfl, nofun, Bool.eq_false_of_not_eq_true space⟩

theorem leading_append {spaces rest : List Char} {char : Char}
    (all : ∀ char ∈ spaces, isSpace char = true)
    (noSpace : isSpace char = false) :
    leading (spaces ++ char :: rest) = some char := by
  rw [leading, List.dropWhile_append_of_pos all,
    List.dropWhile_cons_of_neg (by rw [noSpace]; exact Bool.false_ne_true)]
  rfl

theorem jsonDecode_leading {spaces : List Char}
    (all : ∀ char ∈ spaces, isSpace char = true) (rest : List Char) :
    jsonDecode readNumber (spaces ++ rest) =
      decodeFrom readNumber ⟨.plain, .value []⟩ rest :=
  decodeFrom_spaces _ all rest

/-- What is no document is answered by an array. -/
theorem answersAsDecoded_of_none {text : List Char}
    (noDocument : jsonDecode readNumber text = none) :
    AnswersAsDecoded readNumber text := by
  simp only [AnswersAsDecoded, noDocument]
  cases pair : bracePair text with
  | true => exact exists_ok_of_pair pair
  | false =>
      rw [extractJSON_of_no_pair readNumber pair, noDocument]
      exact ⟨[], rfl⟩

/-- A word is answered by its decoded value if it is `null`. -/
theorem answersAsDecoded_word {spaces rest : List Char} {char : Char}
    (all : ∀ char ∈ spaces, isSpace char = true)
    {value : Value Number}
    (decodes :
      decodeFrom readNumber ⟨.word [char], .value []⟩ rest = some value)
    (whole : jsonDecode readNumber (spaces ++ char :: rest) = some value)
    (noBrace : char ≠ '{') :
    AnswersAsDecoded readNumber (spaces ++ char :: rest) ↔
      char = 'n' := by
  rcases scalar_of_decodeFrom_word decodes with ⟨noOpen, more, isToken⟩
  have noPair : bracePair (spaces ++ char :: rest) = false := by
    have absent : '{' ∉ spaces ++ char :: rest := by
      rw [List.mem_append, List.mem_cons, not_or, not_or]
      exact ⟨not_mem_of_spaces rfl all, Ne.symm noBrace, noOpen⟩
    rw [← List.append_nil (spaces ++ char :: rest),
      bracePair_of_not_mem absent]
    rfl
  simp only [AnswersAsDecoded, whole,
    extractJSON_of_no_pair readNumber noPair]
  rw [List.singleton_append, wordToken] at isToken
  split_ifs at isToken with null true false number
  · cases isToken
    exact iff_of_true rfl (List.cons.inj null).1
  · cases isToken
    refine iff_of_false (fun same => ?_) fun isN => ?_
    · cases same
    · cases isN.symm.trans (List.cons.inj true).1
  · cases isToken
    refine iff_of_false (fun same => ?_) fun isN => ?_
    · cases same
    · cases isN.symm.trans (List.cons.inj false).1
  · cases isToken
    refine iff_of_false (fun same => ?_) fun isN => ?_
    · cases same
    · subst isN
      cases number

theorem answersAsDecoded_string {spaces rest : List Char}
    (all : ∀ char ∈ spaces, isSpace char = true) {value : Value Number}
    (decodes :
      decodeFrom readNumber ⟨.quoted [], .value []⟩ rest = some value)
    (whole : jsonDecode readNumber (spaces ++ '"' :: rest) = some value) :
    AnswersAsDecoded readNumber (spaces ++ '"' :: rest) ↔
      bracePair (spaces ++ '"' :: rest) = true := by
  rcases string_of_decodeFrom_quoted (.quoted []) decodes with
    ⟨content, rfl⟩
  simp only [AnswersAsDecoded, whole]
  cases pair : bracePair (spaces ++ '"' :: rest) with
  | true =>
      rw [List.append_cons, bracePair_of_not_mem] at pair
      · exact iff_of_true (extractJSON_string all decodes pair) rfl
      · rw [List.mem_append, not_or]
        exact ⟨not_mem_of_spaces rfl all, by decide⟩
  | false =>
      rw [extractJSON_of_no_pair readNumber pair, whole]
      refine iff_of_false (fun same => ?_) Bool.false_ne_true
      cases same

theorem answersAsDecoded_list {spaces rest : List Char}
    (all : ∀ char ∈ spaces, isSpace char = true) {value : Value Number}
    (decodes :
      decodeFrom readNumber ⟨.plain, .inList []⟩ rest = some value)
    (whole : jsonDecode readNumber (spaces ++ '[' :: rest) = some value) :
    AnswersAsDecoded readNumber (spaces ++ '[' :: rest) ↔
      bracePair (spaces ++ '[' :: rest) = false := by
  have inside : (Parser.inList ([] : List (Frame Number))).InsideArray :=
    trivial
  rcases decodeFrom_keeps (fun _ _ _ _ => insideArray_step) inside decodes
    with ⟨entries, rfl⟩
  simp only [AnswersAsDecoded, whole]
  cases pair : bracePair (spaces ++ '[' :: rest) with
  | true =>
      rw [List.append_cons, bracePair_of_not_mem] at pair
      · exact
          iff_of_false (extractJSON_list all decodes pair)
            Bool.true_eq_false.mp
      · rw [List.mem_append, not_or]
        exact ⟨not_mem_of_spaces rfl all, by decide⟩
  | false =>
      rw [extractJSON_of_no_pair readNumber pair, whole]
      exact iff_of_true rfl rfl

/--
A reply is answered by its decoded value if and only if it is no document,
or an object, a list without a pair of braces, a string with one, or `null`.
-/
theorem answersAsDecoded_iff (text : List Char) :
    AnswersAsDecoded readNumber text ↔
      jsonDecode readNumber text = none ∨ KeepsDocument text := by
  cases decodes : jsonDecode readNumber text with
  | none =>
      exact iff_of_true (answersAsDecoded_of_none decodes) (Or.inl rfl)
  | some value =>
      rw [or_iff_right (Option.some_ne_none value)]
      rcases exists_leading text with
        all | ⟨spaces, char, rest, rfl, all, noSpace⟩
      · rw [← List.append_nil text, jsonDecode_leading all] at decodes
        cases decodes
      · have whole := decodes
        rw [jsonDecode_leading all, decodeFrom_cons, readChar, readPlain,
          if_neg (by rw [noSpace]; exact Bool.false_ne_true)] at decodes
        have first : leading (spaces ++ char :: rest) = some char :=
          leading_append all noSpace
        split_ifs at decodes with quote isWord
        · subst quote
          simp only [KeepsDocument, first]
          exact answersAsDecoded_string all decodes whole
        · have keeps :
              KeepsDocument (spaces ++ char :: rest) ↔
                char = 'n' := by
            simp only [KeepsDocument, first]
            split <;> rename_i same <;> cases same
            · cases isWord
            · cases isWord
            · cases isWord
            · rfl
          have noBrace : char ≠ '{' := by
            rintro rfl
            cases isWord
          rw [keeps]
          exact answersAsDecoded_word all decodes whole noBrace
        · unfold punctuation at decodes
          split at decodes
          · rcases extractJSON_object all decodes with
              ⟨entries, rfl, answer⟩
            simp only [AnswersAsDecoded, KeepsDocument, first, whole]
            exact iff_of_true answer trivial
          · cases decodes
          · simp only [KeepsDocument, first]
            exact answersAsDecoded_list all decodes whole
          · cases decodes
          · cases decodes
          · cases decodes
          · cases decodes

/-- A list of two objects is lost, and a number raises an error. -/
theorem listed_objects_are_lost :
    extractJSON id "[\x7b\"a\":1\x7d,\x7b\"b\":2\x7d]".toList = .ok [] ∧
      extractJSON id "42".toList = .error .typeError ∧
      ¬AnswersAsDecoded id "[\x7b\"a\":1\x7d,\x7b\"b\":2\x7d]".toList ∧
      ¬AnswersAsDecoded id "42".toList := by
  refine ⟨rfl, rfl, ?_, ?_⟩
  · intro answer
    have list :
        jsonDecode id "[\x7b\"a\":1\x7d,\x7b\"b\":2\x7d]".toList =
          some (.array
            [(.index 0, .array [(.name ['a'], .number ['1'])]),
              (.index 1, .array [(.name ['b'], .number ['2'])])]) :=
      rfl
    simp only [AnswersAsDecoded, list] at answer
    cases answer
  · intro answer
    have number :
        jsonDecode id "42".toList = some (.number ['4', '2']) :=
      rfl
    simp only [AnswersAsDecoded, number] at answer
    cases answer

end SultanPass.LocalAIService
