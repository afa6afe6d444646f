import SultanPass.Library.JsonNesting

/-!
# What a document begins with

The first character of a document that is not space decides its kind: a
brace or a bracket begins an array, a quote a string, and everything else a
single word.  A brace that is part of a string is read as such, and where a
text is read from such a brace on, its quotes change sides: what was outside
a string becomes the name of a member.
-/

namespace SultanPass.Library.JsonDecoding

variable {Number : Type} {readNumber : List Char → Number}

/-! ## Words -/

/-- A document that is a word is its value, and has no braces. -/
theorem scalar_of_decodeFrom_word {word text : List Char}
    {value : Value Number}
    (decodes :
      decodeFrom readNumber ⟨.word word, .value []⟩ text = some value) :
    '{' ∉ text ∧
      ∃ more,
        wordToken readNumber (word ++ more) = some (.scalar value) := by
  have ends {word : List Char} {parser : Parser Number}
      (reads : readWord readNumber (.value []) word = some parser) :
      ∃ value,
        wordToken readNumber word = some (.scalar value) ∧
          parser = .done value := by
    rcases Option.bind_eq_some_iff.mp reads with ⟨token, isToken, steps⟩
    rcases exists_scalar_of_wordToken isToken with ⟨value, rfl⟩
    cases steps
    exact ⟨value, isToken, rfl⟩
  induction text generalizing word with
  | nil =>
      rw [decodeFrom_nil, finish] at decodes
      rcases Option.bind_eq_some_iff.mp decodes with ⟨parser, reads, same⟩
      rcases ends reads with ⟨found, isToken, rfl⟩
      cases same
      exact ⟨List.not_mem_nil, [], by rw [List.append_nil]; exact isToken⟩
  | cons char rest induction =>
      rw [decodeFrom_cons, readChar] at decodes
      split_ifs at decodes with isWord
      · rcases induction decodes with ⟨noBrace, more, isToken⟩
        refine ⟨?_, char :: more, ?_⟩
        · rw [List.mem_cons, not_or]
          refine ⟨?_, noBrace⟩
          rintro rfl
          cases isWord
        · rw [List.append_cons]
          exact isToken
      · rcases Option.bind_eq_some_iff.mp decodes with
          ⟨next, flushes, later⟩
        rcases Option.bind_eq_some_iff.mp flushes with
          ⟨parser, reads, plain⟩
        rcases ends reads with ⟨found, isToken, rfl⟩
        have whole :
            decodeFrom readNumber ⟨.plain, .done found⟩ (char :: rest) =
              some value := by
          rw [decodeFrom_cons, readChar, plain]
          exact later
        rcases decodeFrom_done whole with ⟨_, spaces, rfl⟩
        refine ⟨?_, [], by rw [List.append_nil]; exact isToken⟩
        intro member
        cases spaces '{' member

/-! ## Strings -/

/-- The reader stands in a string. -/
inductive Mode.InString : Mode → Prop where
  | quoted (raw : List Char) : InString (.quoted raw)
  | escaped (raw : List Char) : InString (.escaped raw)

/-- A document that is read from within a string has its closing quote. -/
theorem exists_close_of_inString {mode : Mode} (inString : mode.InString)
    {parser : Parser Number} {text : List Char} {value : Value Number}
    (decodes :
      decodeFrom readNumber ⟨mode, parser⟩ text = some value) :
    ∃ content next rest,
      step parser (.string content) = some next ∧
        decodeFrom readNumber ⟨.plain, next⟩ rest = some value := by
  induction text generalizing mode with
  | nil => cases inString <;> cases decodes
  | cons char rest induction =>
      rw [decodeFrom_cons] at decodes
      cases inString with
      | quoted raw =>
          rw [readChar] at decodes
          split_ifs at decodes
          · rcases Option.bind_eq_some_iff.mp decodes with
              ⟨reader, closes, later⟩
            rcases Option.bind_eq_some_iff.mp closes with
              ⟨next, reads, same⟩
            rcases Option.bind_eq_some_iff.mp reads with
              ⟨content, _, steps⟩
            cases same
            exact ⟨content, next, rest, steps, later⟩
          · exact induction (.escaped raw) decodes
          · exact induction (.quoted _) decodes
      | escaped raw =>
          rw [readChar] at decodes
          split_ifs at decodes
          · exact induction (.quoted _) decodes
          · cases decodes

/-- A document that begins with a quote is a string. -/
theorem string_of_decodeFrom_quoted {mode : Mode} {text : List Char}
    {value : Value Number} (inString : mode.InString)
    (decodes :
      decodeFrom readNumber ⟨mode, .value []⟩ text = some value) :
    ∃ content, value = .string content := by
  rcases exists_close_of_inString inString decodes with
    ⟨content, next, rest, steps, later⟩
  cases steps
  exact ⟨content, (decodeFrom_done later).2.2.symm⟩

/-- A string without quotes and backslashes is read as it is. -/
theorem read_quoted {content : List Char} (noQuote : '"' ∉ content)
    (noBackslash : '\\' ∉ content) (raw : List Char)
    (parser : Parser Number) :
    read readNumber ⟨.quoted raw, parser⟩ content =
      some ⟨.quoted (raw ++ content), parser⟩ := by
  induction content generalizing raw with
  | nil =>
      rw [List.append_nil]
      rfl
  | cons char content induction =>
      rw [List.mem_cons, not_or] at noQuote noBackslash
      rw [read_cons, readChar, if_neg (Ne.symm noQuote.1),
        if_neg (Ne.symm noBackslash.1), Option.bind_some,
        induction noQuote.2 noBackslash.2, List.append_assoc]
      rfl

/-- Without a quote a string does not end. -/
theorem decodeFrom_eq_none_of_no_quote {mode : Mode}
    (inString : mode.InString) {text : List Char} (noQuote : '"' ∉ text)
    (parser : Parser Number) :
    decodeFrom readNumber ⟨mode, parser⟩ text = none := by
  induction text generalizing mode with
  | nil => cases inString <;> rfl
  | cons char text induction =>
      rw [List.mem_cons, not_or] at noQuote
      rw [decodeFrom_cons]
      cases inString with
      | quoted raw =>
          rw [readChar, if_neg (Ne.symm noQuote.1)]
          split_ifs
          · exact induction (.escaped raw) noQuote.2
          · exact induction (.quoted _) noQuote.2
      | escaped raw =>
          rw [readChar]
          split_ifs
          · exact induction (.quoted _) noQuote.2
          · rfl

theorem not_mem_of_spaces {char : Char} (noSpace : isSpace char = false)
    {spaces : List Char} (all : ∀ char ∈ spaces, isSpace char = true) :
    char ∉ spaces := by
  intro member
  rw [all char member] at noSpace
  cases noSpace

/-- In a string, a quote behind some space ends it. -/
theorem readString_of_decodeFrom_quoted {raw spaces rest : List Char}
    {parser : Parser Number} {value : Value Number}
    (all : ∀ char ∈ spaces, isSpace char = true)
    (decodes :
      decodeFrom readNumber ⟨.quoted raw, parser⟩
        (spaces ++ '"' :: rest) = some value) :
    ∃ next content,
      step parser (.string content) = some next ∧
        decodeFrom readNumber ⟨.plain, next⟩ rest = some value := by
  rw [decodeFrom_append,
    read_quoted (not_mem_of_spaces rfl all) (not_mem_of_spaces rfl all),
    Option.bind_some, decodeFrom_cons, readChar, if_pos rfl] at decodes
  rcases Option.bind_eq_some_iff.mp decodes with ⟨reader, closes, later⟩
  rcases Option.bind_eq_some_iff.mp closes with ⟨next, reads, same⟩
  rcases Option.bind_eq_some_iff.mp reads with ⟨content, _, steps⟩
  cases same
  exact ⟨next, content, steps, later⟩

/-- A document that reaches its end outside of strings ends there. -/
theorem eq_done_of_finish_brace {reader last : Reader Number}
    {value : Value Number}
    (reads : readChar readNumber reader '}' = some last)
    (ends : finish readNumber last = some value) :
    last = ⟨.plain, .done value⟩ := by
  have plain {parser : Parser Number}
      (reads : readPlain parser '}' = some last) : last.mode = .plain := by
    rcases Option.bind_eq_some_iff.mp reads with ⟨_, _, same⟩
    cases same
    rfl
  have isPlain : last.mode = .plain := by
    rcases reader with ⟨mode, parser⟩
    cases mode with
    | plain => exact plain reads
    | word word =>
        rcases Option.bind_eq_some_iff.mp reads with ⟨_, _, reads⟩
        exact plain reads
    | quoted raw =>
        cases reads
        cases ends
    | escaped raw => cases reads
  rcases last with ⟨mode, parser⟩
  subst isPlain
  cases parser <;> cases ends
  rfl

/-! ## Behind an opening brace -/

/--
Behind an opening brace and some space comes a quote, or the object is empty,
or the text is no document.
-/
theorem jsonDecode_behind_brace (text : List Char) :
    decodeFrom readNumber ⟨.plain, .inObject []⟩ text = none ∨
      decodeFrom readNumber ⟨.plain, .inObject []⟩ text =
        some (.array []) ∨
      ∃ spaces rest,
        text = spaces ++ '"' :: rest ∧
          ∀ char ∈ spaces, isSpace char = true := by
  induction text with
  | nil => exact Or.inl rfl
  | cons char rest induction =>
      rw [decodeFrom_cons]
      by_cases space : isSpace char = true
      · rw [readChar_space _ space, Option.bind_some]
        refine induction.imp_right (Or.imp_right ?_)
        rintro ⟨spaces, others, rfl, all⟩
        exact
          ⟨char :: spaces, others, rfl,
            List.forall_mem_cons.mpr ⟨space, all⟩⟩
      by_cases quote : char = '"'
      · subst quote
        exact Or.inr (Or.inr ⟨[], rest, rfl, nofun⟩)
      rw [readChar, readPlain, if_neg space, if_neg quote]
      split_ifs
      · rw [Option.bind_some, decodeFrom_word_eq_none fun _ => rfl]
        exact Or.inl rfl
      · unfold punctuation
        split
        · exact Or.inl rfl
        · show decodeFrom readNumber ⟨.plain, .done (.array [])⟩ rest = _ ∨
            decodeFrom readNumber ⟨.plain, .done (.array [])⟩ rest = _ ∨ _
          cases decodes :
              decodeFrom readNumber ⟨.plain, .done (.array [])⟩ rest with
          | none => exact Or.inl rfl
          | some value =>
              exact
                Or.inr (Or.inl (congrArg some
                  (decodeFrom_done decodes).2.2.symm))
        · exact Or.inl rfl
        · exact Or.inl rfl
        · exact Or.inl rfl
        · exact Or.inl rfl
        · exact Or.inl rfl

/-! ## Between two strings of a list -/

/-- No value may come: an item of a list is complete, or the document. -/
inductive Parser.BehindItem : Parser Number → Prop where
  | afterItem (values : List (Value Number))
      {frames : List (Frame Number)}
      (lists : ∀ frame ∈ frames, frame.IsItems) :
      BehindItem (.afterItem values frames)
  | done (document : Value Number) : BehindItem (.done document)

theorem behindItem_deliver (value : Value Number)
    {frames : List (Frame Number)}
    (lists : ∀ frame ∈ frames, frame.IsItems) :
    (deliver value frames).BehindItem := by
  cases frames with
  | nil => exact .done value
  | cons frame frames =>
      cases frame with
      | items values =>
          exact .afterItem _ (List.forall_mem_cons.mp lists).2
      | member entries key => exact (lists _ List.mem_cons_self).elim

/-- Without a comma no value may come. -/
theorem behindItem_step {parser next : Parser Number}
    {token : Token Number} (noComma : token ≠ .comma)
    (behind : parser.BehindItem)
    (steps : step parser token = some next) : next.BehindItem := by
  cases behind with
  | afterItem values lists =>
      cases token <;> cases steps
      · exact behindItem_deliver _ lists
      · exact (noComma rfl).elim
  | done document => simp at steps

/-- Between two strings of a list there is a comma. -/
theorem comma_mem_of_decodeFrom {parser : Parser Number}
    (behind : parser.BehindItem) {gap rest : List Char}
    {value : Value Number}
    (decodes :
      decodeFrom readNumber ⟨.plain, parser⟩ (gap ++ '"' :: rest) =
        some value) :
    ',' ∈ gap := by
  have noWord {parser : Parser Number} (behind : parser.BehindItem)
      (word text : List Char) :
      decodeFrom readNumber ⟨.word word, parser⟩ text = none :=
    decodeFrom_word_eq_none (by cases behind <;> exact fun _ => rfl) _ _
  have noString {parser : Parser Number} (behind : parser.BehindItem)
      (text : List Char) :
      decodeFrom readNumber ⟨.quoted [], parser⟩ text = none :=
    (decodeFrom_quoted_eq_none (by cases behind <;> exact fun _ => rfl)
      _ _).1
  induction gap generalizing parser with
  | nil =>
      rw [List.nil_append, decodeFrom_cons, readChar_quote,
        Option.bind_some, noString behind] at decodes
      cases decodes
  | cons char gap induction =>
      rw [List.mem_cons]
      by_cases comma : ',' = char
      · exact Or.inl comma
      refine Or.inr ?_
      rw [List.cons_append, decodeFrom_cons] at decodes
      rcases Option.bind_eq_some_iff.mp decodes with ⟨next, reads, later⟩
      rw [readChar, readPlain] at reads
      split_ifs at reads
      · cases reads
        exact induction behind later
      · cases reads
        rw [noString behind] at later
        cases later
      · cases reads
        rw [noWord behind] at later
        cases later
      · rcases Option.bind_eq_some_iff.mp reads with
          ⟨token, isToken, steps⟩
        rcases Option.bind_eq_some_iff.mp steps with ⟨_, isNext, same⟩
        cases same
        have noComma : token ≠ .comma := by
          rintro rfl
          have member : ',' ∈ [char] :=
            mem_of_spells rfl
              (spells_of_punctuation (List.mem_singleton_self char)
                isToken)
          exact comma (List.mem_singleton.mp member)
        exact induction (behindItem_step noComma behind isNext) later

/-- The reader stands outside of strings. -/
inductive Mode.OutsideString : Mode → Prop where
  | plain : OutsideString .plain
  | word (chars : List Char) : OutsideString (.word chars)

theorem readPlain_outside {parser : Parser Number} {char : Char}
    {next : Reader Number} (noQuote : char ≠ '"')
    (reads : readPlain parser char = some next) :
    char ≠ '\\' ∧ next.mode.OutsideString := by
  constructor
  · rintro rfl
    cases reads
  · rw [readPlain, if_neg noQuote] at reads
    split_ifs at reads
    · cases reads
      exact .plain
    · cases reads
      exact .word _
    · rcases Option.bind_eq_some_iff.mp reads with ⟨_, _, steps⟩
      rcases Option.bind_eq_some_iff.mp steps with ⟨_, _, same⟩
      cases same
      exact .plain

/-- Outside of strings there is no backslash. -/
theorem backslash_not_mem_of_read {reader next : Reader Number}
    (outside : reader.mode.OutsideString) {gap : List Char}
    (noQuote : '"' ∉ gap)
    (reads : read readNumber reader gap = some next) :
    '\\' ∉ gap := by
  induction gap generalizing reader with
  | nil => exact List.not_mem_nil
  | cons char gap induction =>
      rw [List.mem_cons, not_or] at noQuote ⊢
      rw [read_cons] at reads
      rcases Option.bind_eq_some_iff.mp reads with ⟨middle, one, more⟩
      have outsideNext :
          char ≠ '\\' ∧ middle.mode.OutsideString := by
        rcases reader with ⟨mode, parser⟩
        cases outside with
        | plain => exact readPlain_outside (Ne.symm noQuote.1) one
        | word chars =>
            rw [readChar] at one
            split_ifs at one with isWord
            · cases one
              refine ⟨?_, .word _⟩
              rintro rfl
              cases isWord
            · rcases Option.bind_eq_some_iff.mp one with ⟨_, _, plain⟩
              exact readPlain_outside (Ne.symm noQuote.1) plain
      exact
        ⟨Ne.symm outsideNext.1, induction outsideNext.2 noQuote.2 more⟩

/-! ## Names from a gap -/

theorem unescapeUnits_eq_map {raw : List Char} {units : List (Char ⊕ ℕ)}
    (noBackslash : '\\' ∉ raw) (isUnits : unescapeUnits raw = some units) :
    units = raw.map .inl := by
  induction raw generalizing units with
  | nil =>
      cases isUnits
      rfl
  | cons char raw induction =>
      rw [List.mem_cons, not_or] at noBackslash
      rw [unescapeUnits] at isUnits
      · split_ifs at isUnits
        rcases Option.map_eq_some_iff.mp isUnits with ⟨rest, isRest, rfl⟩
        rw [induction noBackslash.2 isRest]
        rfl
      · rintro _ _ _ _ _ rfl
        exact (noBackslash.1 rfl).elim
      · rintro _ _ rfl
        exact (noBackslash.1 rfl).elim

theorem joinSurrogates_map (text : List Char) :
    joinSurrogates (text.map .inl) = some text := by
  induction text with
  | nil => rfl
  | cons char text induction =>
      rw [List.map_cons, joinSurrogates, induction]
      rfl

/-- A string without backslashes is its own content. -/
theorem unescape_eq_self {raw text : List Char} (noBackslash : '\\' ∉ raw)
    (isText : unescape raw = some text) : text = raw := by
  rcases Option.bind_eq_some_iff.mp isText with ⟨units, isUnits, joined⟩
  rw [unescapeUnits_eq_map noBackslash isUnits, joinSurrogates_map]
    at joined
  exact (Option.some.inj joined).symm

/-- A name with a comma is no number. -/
theorem arrayKey_of_comma {name : List Char} (comma : ',' ∈ name) :
    arrayKey name = .name name := by
  rw [arrayKey]
  split
  · split_ifs with same
    · rw [← same.1] at comma
      exact (JsonText.comma_not_mem_encodeInt _ comma).elim
    · rfl
  · rfl

end SultanPass.Library.JsonDecoding
