import SultanPass.AIResponse
import SultanPass.Library.Weaving

/-!
# What the patterns of the formatter match

Each substitution of `formatPlain` matches only where its first character
stands, and matches nothing with a `<` in it, except for a text in
parentheses, which ends with its parenthesis.  So none of them begins or ends
within a tag that an earlier one has put in.
-/

namespace SultanPass.AIAssistant

open SultanPass.Library
open SultanPass.Library.Pattern
open SultanPass.Library.Glyph

variable {before after : List Glyph} {found : Match Glyph}

/-! ## Words of the patterns -/

theorem units_of_literal {text : String} {word : List Glyph}
    (isWord : word ∈ (literal text).language) :
    word.map Glyph.unit = text.toList := by
  rw [literal] at isWord
  generalize text.toList = chars at isWord
  induction chars generalizing word with
  | nil => rw [mem_language_sequence_nil.mp isWord]; rfl
  | cons char chars induction =>
      rcases isWord with ⟨_, ⟨glyph, same, rfl⟩, others, isText, rfl⟩
      rw [List.map_append, induction isText]
      exact congrArg (· :: chars) (of_decide_eq_true same)

theorem mem_runs_one {test : Char → Bool} (glyph : Glyph)
    (holds : test glyph.unit = true) {before rest : List Glyph}
    {groups : List (ℕ × List Glyph)} :
    ⟨glyph :: before, rest, groups⟩ ∈
      (one test).runs ⟨before, glyph :: rest, groups⟩ := by
  simp only [one, runs, holds, if_true, List.mem_singleton]

theorem units_of_ordinalSuffix {word : List Glyph}
    (isWord : word ∈ ordinalSuffix.language) :
    word.map Glyph.unit ∈ [['s', 't'], ['n', 'd'], ['r', 'd'], ['t', 'h']]
    := by
  rcases isWord with ((first | second) | third) | fourth
  · rw [units_of_literal first]
    decide
  · rw [units_of_literal second]
    decide
  · rw [units_of_literal third]
    decide
  · rw [units_of_literal fourth]
    decide

/-- A header: capitals, spaces and a colon, from the beginning of a line. -/
theorem shape_of_header
    (isMatch : headerPattern.matchAt before after = some found) :
    before.head?.all (isLineEnd ·.unit) = true ∧
      ∃ first rest,
        found.matched = first :: rest ∧ first.unit.isUpper = true ∧
          ∀ glyph ∈ found.matched,
            glyph.unit.isUpper = true ∨ isSpace glyph.unit = true ∨
              glyph.unit = ':' := by
  refine ⟨holds_of_matchAt isMatch, ?_⟩
  rcases (matchAt_eq_some isMatch).1 with
    ⟨_, rfl, _, ⟨_, ⟨first, upper, rfl⟩, _, ⟨more, isMore, _,
      ⟨_, ⟨last, colon, rfl⟩, _, ⟨_, rfl, _, rfl, rfl⟩, rfl⟩, rfl⟩, rfl⟩,
      whole⟩
  simp only [List.nil_append, List.append_nil, List.cons_append]
    at whole
  refine ⟨first, more ++ [last], whole.symm, upper, ?_⟩
  rw [← whole, List.forall_mem_cons, List.forall_mem_append,
    List.forall_mem_singleton]
  refine ⟨Or.inl upper, fun glyph member => ?_,
    Or.inr (Or.inr (of_decide_eq_true colon))⟩
  have either := (forall_of_mem_language_plus isMore).2 glyph member
  rw [Bool.or_eq_true] at either
  exact either.imp_right Or.inl

/-- A numbered heading, from the beginning of a line. -/
theorem shape_of_numbered
    (isMatch : numberedPattern.matchAt before after = some found) :
    before.head?.all (isLineEnd ·.unit) = true ∧
      ∃ first rest,
        found.matched = first :: rest ∧ first.unit.isDigit = true ∧
          ∀ glyph ∈ found.matched,
            glyph.unit.isDigit = true ∨ glyph.unit = '.' ∨
              isSpace glyph.unit = true ∨ glyph.unit.isUpper = true := by
  refine ⟨holds_of_matchAt isMatch, ?_⟩
  rcases (matchAt_eq_some isMatch).1 with
    ⟨_, rfl, _, ⟨digits, areDigits, _, ⟨_, ⟨point, isPoint, rfl⟩, _,
      ⟨spaces, areSpaces, _, ⟨_, ⟨capital, upper, rfl⟩, _,
        ⟨more, isMore, _, rfl, rfl⟩, rfl⟩, rfl⟩, rfl⟩, rfl⟩, whole⟩
  simp only [List.nil_append, List.append_nil] at whole
  have digitsOnly := forall_of_mem_language_plus areDigits
  rcases List.exists_cons_of_ne_nil digitsOnly.1 with ⟨first, rest, rfl⟩
  refine
    ⟨first, _, whole.symm, digitsOnly.2 first List.mem_cons_self, ?_⟩
  rw [← whole, List.forall_mem_append, List.forall_mem_append,
    List.forall_mem_append, List.forall_mem_append,
    List.forall_mem_singleton, List.forall_mem_singleton]
  refine
    ⟨fun glyph member => Or.inl (digitsOnly.2 glyph member),
      Or.inr (Or.inl (of_decide_eq_true isPoint)),
      fun glyph member => ?_, Or.inr (Or.inr (Or.inr upper)),
      fun glyph member => ?_⟩
  · have space := (forall_of_mem_language_plus areSpaces).2 glyph member
    exact Or.inr (Or.inr (Or.inl space))
  · have either := (forall_of_mem_language_plus isMore).2 glyph member
    rw [Bool.or_eq_true] at either
    exact Or.inr (Or.inr either.symm)

/-- A text in parentheses. -/
theorem shape_of_keyword
    (isMatch : keywordPattern.matchAt before after = some found) :
    ∃ opening inner closing,
      found.matched = opening :: (inner ++ [closing]) ∧
        opening.unit = '(' ∧ closing.unit = ')' := by
  rcases (matchAt_eq_some isMatch).1 with
    ⟨_, ⟨opening, isOpen, rfl⟩, _, ⟨inner, _, _,
      ⟨_, ⟨closing, isClose, rfl⟩, _, rfl, rfl⟩, rfl⟩, whole⟩
  simp only [List.append_nil, List.cons_append, List.nil_append]
    at whole
  exact
    ⟨opening, inner, closing, whole.symm, of_decide_eq_true isOpen,
      of_decide_eq_true isClose⟩

/-- A dash and space, from the beginning of a line. -/
theorem shape_of_bullet
    (isMatch : bulletPattern.matchAt before after = some found) :
    before.head?.all (isLineEnd ·.unit) = true ∧
      ∃ dash spaces,
        found.matched = dash :: spaces ∧ dash.unit = '-' ∧
          spaces ≠ [] ∧ ∀ glyph ∈ spaces, isSpace glyph.unit = true := by
  refine ⟨holds_of_matchAt isMatch, ?_⟩
  rcases (matchAt_eq_some isMatch).1 with
    ⟨_, rfl, _, ⟨_, ⟨dash, isDash, rfl⟩, _,
      ⟨spaces, areSpaces, _, rfl, rfl⟩, rfl⟩, whole⟩
  simp only [List.nil_append, List.append_nil, List.cons_append]
    at whole
  have spacesOnly := forall_of_mem_language_plus areSpaces
  exact
    ⟨dash, spaces, whole.symm, of_decide_eq_true isDash, spacesOnly.1,
      spacesOnly.2⟩

/-- One of the assessment words. -/
theorem shape_of_assessment
    (isMatch : assessmentPattern.matchAt before after = some found) :
    ∃ word ∈ assessmentWords,
      found.matched.map Glyph.unit = word.toList := by
  rcases (matchAt_eq_some isMatch).1 with
    ⟨_, rfl, _, ⟨word, isWord, _, ⟨_, rfl, _, rfl, rfl⟩, rfl⟩, whole⟩
  simp only [List.nil_append, List.append_nil] at whole
  rw [← whole]
  rcases isWord with (((((((good | fair) | poor) | excellent) | strong) |
    weak) | high) | medium) | low
  · exact ⟨_, by decide, units_of_literal good⟩
  · exact ⟨_, by decide, units_of_literal fair⟩
  · exact ⟨_, by decide, units_of_literal poor⟩
  · exact ⟨_, by decide, units_of_literal excellent⟩
  · exact ⟨_, by decide, units_of_literal strong⟩
  · exact ⟨_, by decide, units_of_literal weak⟩
  · exact ⟨_, by decide, units_of_literal high⟩
  · exact ⟨_, by decide, units_of_literal medium⟩
  · exact ⟨_, by decide, units_of_literal low⟩

/-- A number and its ordinal suffix. -/
theorem shape_of_ranking
    (isMatch : rankingPattern.matchAt before after = some found) :
    ∃ first rest,
      found.matched = first :: rest ∧ first.unit.isDigit = true ∧
        ∀ glyph ∈ found.matched,
          glyph.unit.isDigit = true ∨ glyph.unit ∈ "stndrh".toList := by
  rcases (matchAt_eq_some isMatch).1 with
    ⟨_, rfl, _, ⟨digits, areDigits, _, ⟨suffix, isSuffix, _,
      ⟨_, rfl, _, rfl, rfl⟩, rfl⟩, rfl⟩, whole⟩
  simp only [List.nil_append, List.append_nil] at whole
  have digitsOnly := forall_of_mem_language_plus areDigits
  rcases List.exists_cons_of_ne_nil digitsOnly.1 with ⟨first, rest, rfl⟩
  refine
    ⟨first, _, whole.symm, digitsOnly.2 first List.mem_cons_self, ?_⟩
  rw [← whole, List.forall_mem_append]
  refine
    ⟨fun glyph member => Or.inl (digitsOnly.2 glyph member),
      fun glyph member => Or.inr ?_⟩
  have listed :
      ∀ units ∈ [['s', 't'], ['n', 'd'], ['r', 'd'], ['t', 'h']],
        units ⊆ "stndrh".toList := by
    decide
  exact
    listed _ (units_of_ordinalSuffix isSuffix)
      (List.mem_map_of_mem member)

/-- The end of a line. -/
theorem shape_of_newline
    (isMatch : newlinePattern.matchAt before after = some found) :
    ∃ glyph, found.matched = [glyph] ∧ glyph.unit = '\n' := by
  rcases (matchAt_eq_some isMatch).1 with ⟨glyph, isNewline, same⟩
  exact ⟨glyph, same, of_decide_eq_true isNewline⟩

/-! ## Matches and tags -/

/-- The tags of `formatPlain`. -/
def plainTags : List String :=
  ["<div class=\"header-section\">", "<strong>", "</strong>", "</div>",
    "<strong class=\"numbered-section\">",
    "<strong class=\"keyword\">", "<span class=\"bullet\">", "</span>",
    "<strong class=\"assessment\">", "<strong class=\"ranking\">",
    "<br>"]

theorem plainTags_subset : plainTags ⊆ fixedTags := by
  decide

theorem isTag_of_mem_plainTags (tag : String) (isFixed : tag ∈ plainTags) :
    isTag tag.toList = true :=
  isTag_of_mem_fixedTags tag (plainTags_subset isFixed)

/-- No tag has a character that one of the patterns begins with. -/
theorem apart_of_inTags {char : Char} (inTags : InTags plainTags char) :
    char.isUpper = false ∧ char.isDigit = false ∧ char ≠ '(' ∧
      char ≠ ')' ∧ isLineEnd char = false := by
  have all :
      ∀ tag ∈ plainTags,
        tag.toList.all fun char =>
          char.isUpper = false ∧ char.isDigit = false ∧ char ≠ '(' ∧
            char ≠ ')' ∧ isLineEnd char = false := by
    decide
  rcases inTags with ⟨tag, isFixed, member⟩
  exact
    of_decide_eq_true (List.all_eq_true.mp (all tag isFixed) char member)

/-- A pattern respects the tags that cannot contain its first character. -/
theorem respects_of_first {pattern : Pattern Glyph}
    (starts : Char → Prop)
    (first :
      ∀ before after found, pattern.matchAt before after = some found →
        ∃ glyph rest, found.matched = glyph :: rest ∧ starts glyph.unit)
    (apart : ∀ char, InTags plainTags char → ¬starts char)
    (clean :
      ∀ before after found, pattern.matchAt before after = some found →
        CutsCleanly plainTags found.matched) :
    Respects plainTags pattern where
  skips before glyph rest inTags _ := by
    cases here : pattern.matchAt before (glyph :: rest) with
    | none => rfl
    | some found =>
        rcases first _ _ _ here with ⟨start, others, isFirst, isStart⟩
        have split := (matchAt_eq_some here).2
        rw [isFirst] at split
        rw [← (List.cons.inj split).1] at isStart
        exact (apart _ inTags isStart).elim
  cuts before after found here := by
    rcases first _ _ _ here with ⟨start, others, isFirst, _⟩
    refine ⟨?_, clean _ _ _ here⟩
    rw [isFirst]
    exact List.cons_ne_nil _ _

/-- The characters that matches without parentheses consist of. -/
theorem ne_opening_of_class {char : Char}
    (inClass :
      char.isUpper = true ∨ char.isDigit = true ∨ isSpace char = true ∨
        char = ':' ∨ char = '.' ∨ char = '-' ∨
        char ∈ "stndrh".toList) :
    char ≠ '<' := by
  rintro rfl
  revert inClass
  decide

theorem noOpening_of_header
    (isMatch : headerPattern.matchAt before after = some found) :
    ∀ glyph ∈ found.matched, glyph.unit ≠ '<' := by
  rcases (shape_of_header isMatch).2 with ⟨_, _, _, _, all⟩
  refine fun glyph member => ne_opening_of_class ?_
  rcases all glyph member with upper | space | colon
  · exact Or.inl upper
  · exact Or.inr (Or.inr (Or.inl space))
  · exact Or.inr (Or.inr (Or.inr (Or.inl colon)))

theorem noOpening_of_numbered
    (isMatch : numberedPattern.matchAt before after = some found) :
    ∀ glyph ∈ found.matched, glyph.unit ≠ '<' := by
  rcases (shape_of_numbered isMatch).2 with ⟨_, _, _, _, all⟩
  refine fun glyph member => ne_opening_of_class ?_
  rcases all glyph member with digit | point | space | upper
  · exact Or.inr (Or.inl digit)
  · exact Or.inr (Or.inr (Or.inr (Or.inr (Or.inl point))))
  · exact Or.inr (Or.inr (Or.inl space))
  · exact Or.inl upper

theorem noOpening_of_bullet
    (isMatch : bulletPattern.matchAt before after = some found) :
    ∀ glyph ∈ found.matched, glyph.unit ≠ '<' := by
  rcases (shape_of_bullet isMatch).2 with ⟨dash, spaces, same, isDash, _,
    all⟩
  rw [same, List.forall_mem_cons]
  refine
    ⟨ne_opening_of_class ?_, fun glyph member => ne_opening_of_class ?_⟩
  · exact Or.inr (Or.inr (Or.inr (Or.inr (Or.inr (Or.inl isDash)))))
  · exact Or.inr (Or.inr (Or.inl (all glyph member)))

theorem noOpening_of_assessment
    (isMatch : assessmentPattern.matchAt before after = some found) :
    ∀ glyph ∈ found.matched, glyph.unit ≠ '<' := by
  rcases shape_of_assessment isMatch with ⟨word, isWord, same⟩
  intro glyph member
  have inWord : glyph.unit ∈ word.toList := by
    rw [← same]
    exact List.mem_map_of_mem member
  have noOpening : ∀ word ∈ assessmentWords, '<' ∉ word.toList := by
    decide
  exact ne_of_mem_of_not_mem inWord (noOpening word isWord)

theorem noOpening_of_ranking
    (isMatch : rankingPattern.matchAt before after = some found) :
    ∀ glyph ∈ found.matched, glyph.unit ≠ '<' := by
  rcases shape_of_ranking isMatch with ⟨_, _, _, _, all⟩
  refine fun glyph member => ne_opening_of_class ?_
  rcases all glyph member with digit | letter
  · exact Or.inr (Or.inl digit)
  · exact
      Or.inr (Or.inr (Or.inr (Or.inr (Or.inr (Or.inr letter)))))

theorem noOpening_of_newline
    (isMatch : newlinePattern.matchAt before after = some found) :
    ∀ glyph ∈ found.matched, glyph.unit ≠ '<' := by
  rcases shape_of_newline isMatch with ⟨glyph, same, isNewline⟩
  rw [same, List.forall_mem_singleton, isNewline]
  decide

theorem respects_header : Respects plainTags headerPattern := by
  refine
    respects_of_first (fun char => char.isUpper = true) ?_ ?_
      fun _ _ _ here => Or.inl (noOpening_of_header here)
  · intro before after found here
    rcases (shape_of_header here).2 with ⟨first, rest, same, upper, _⟩
    exact ⟨first, rest, same, upper⟩
  · intro char inTags upper
    rw [(apart_of_inTags inTags).1] at upper
    cases upper

theorem respects_numbered : Respects plainTags numberedPattern := by
  refine
    respects_of_first (fun char => char.isDigit = true) ?_ ?_
      fun _ _ _ here => Or.inl (noOpening_of_numbered here)
  · intro before after found here
    rcases (shape_of_numbered here).2 with ⟨first, rest, same, digit, _⟩
    exact ⟨first, rest, same, digit⟩
  · intro char inTags digit
    rw [(apart_of_inTags inTags).2.1] at digit
    cases digit

theorem respects_keyword : Respects plainTags keywordPattern := by
  refine respects_of_first (fun char => char = '(') ?_ ?_ ?_
  · intro before after found here
    rcases shape_of_keyword here with ⟨first, inner, last, same, isOpen, _⟩
    exact ⟨first, _, same, isOpen⟩
  · intro char inTags isOpen
    exact (apart_of_inTags inTags).2.2.1 isOpen
  · intro before after found here
    rcases shape_of_keyword here with ⟨first, inner, last, same, _, isClose⟩
    refine Or.inr fun glyph isLast inTags => ?_
    rw [same, ← List.cons_append, List.getLast?_concat] at isLast
    cases isLast
    exact (apart_of_inTags inTags).2.2.2.1 isClose

theorem respects_bullet : Respects plainTags bulletPattern where
  skips before glyph rest inTags within := by
    cases here : bulletPattern.matchAt before (glyph :: rest) with
    | none => rfl
    | some found =>
        rcases shape_of_bullet here with
          ⟨atStart, dash, spaces, same, isDash, _⟩
        have split := (matchAt_eq_some here).2
        rw [same] at split
        cases (List.cons.inj split).1
        rcases within with isOpening | ⟨previous, others, rfl, inside⟩
        · rw [isDash] at isOpening
          cases isOpening
        · have noEnd := (apart_of_inTags inside).2.2.2.2
          rw [List.head?_cons, Option.all_some, noEnd] at atStart
          cases atStart
  cuts before after found here := by
    rcases (shape_of_bullet here).2 with ⟨dash, spaces, same, _⟩
    refine ⟨?_, Or.inl (noOpening_of_bullet here)⟩
    rw [same]
    exact List.cons_ne_nil _ _

theorem respects_assessment : Respects plainTags assessmentPattern := by
  refine
    respects_of_first (fun char => char.isUpper = true) ?_ ?_
      fun _ _ _ here => Or.inl (noOpening_of_assessment here)
  · intro before after found here
    rcases shape_of_assessment here with ⟨word, isWord, same⟩
    have all :
        ∀ word ∈ assessmentWords,
          word.toList.head?.any Char.isUpper = true := by
      decide
    have upper := all word isWord
    rw [← same] at upper
    cases isFirst : found.matched with
    | nil =>
        rw [isFirst] at upper
        cases upper
    | cons glyph rest =>
        rw [isFirst] at upper
        exact ⟨glyph, rest, rfl, upper⟩
  · intro char inTags upper
    rw [(apart_of_inTags inTags).1] at upper
    cases upper

theorem respects_ranking : Respects plainTags rankingPattern := by
  refine
    respects_of_first (fun char => char.isDigit = true) ?_ ?_
      fun _ _ _ here => Or.inl (noOpening_of_ranking here)
  · intro before after found here
    rcases shape_of_ranking here with ⟨first, rest, same, digit, _⟩
    exact ⟨first, rest, same, digit⟩
  · intro char inTags digit
    rw [(apart_of_inTags inTags).2.1] at digit
    cases digit

theorem respects_newline : Respects plainTags newlinePattern := by
  refine
    respects_of_first (fun char => char = '\n') ?_ ?_
      fun _ _ _ here => Or.inl (noOpening_of_newline here)
  · intro before after found here
    rcases shape_of_newline here with ⟨glyph, same, isNewline⟩
    exact ⟨glyph, [], same, isNewline⟩
  · rintro char inTags rfl
    cases (apart_of_inTags inTags).2.2.2.2

/-- A substitution by tags around the match keeps a text woven. -/
theorem woven_wrap {pattern : Pattern Glyph}
    (respects : Respects plainTags pattern) {opening closing : List String}
    (areFixed : opening ++ closing ⊆ plainTags) {text : List Glyph}
    (woven : Woven plainTags text) :
    Woven plainTags (wrap pattern opening closing text) := by
  refine
    replaceAll_woven isTag_of_mem_plainTags respects (fun found inside => ?_)
      woven
  rw [List.append_subset] at areFixed
  exact
    ((Woven.of_tags areFixed.1).append inside).append
      (Woven.of_tags areFixed.2)

theorem woven_bullet : Woven plainTags bullet :=
  (((Woven.of_tags (by decide)).append (Woven.of_own (by decide))).append
    (Woven.of_tags (by decide))).append (Woven.of_own (by decide))

/-- The output of `formatPlain` is woven from the response and its tags. -/
theorem woven_formatPlain (text : List Char) :
    Woven plainTags (formatPlain (foreign text)) := by
  have header :=
    woven_wrap respects_header
      (show ["<div class=\"header-section\">", "<strong>"] ++
        ["</strong>", "</div>"] ⊆ plainTags by decide)
      (Woven.of_foreign text)
  have numbered :=
    woven_wrap respects_numbered
      (show ["<strong class=\"numbered-section\">"] ++ ["</strong>"] ⊆
        plainTags by decide)
      header
  have keyword :=
    woven_wrap respects_keyword
      (show ["<strong class=\"keyword\">"] ++ ["</strong>"] ⊆
        plainTags by decide)
      numbered
  have bullets :=
    @replaceAll_woven plainTags bulletPattern (fun _ => bullet)
      isTag_of_mem_plainTags respects_bullet (fun _ _ => woven_bullet) _
      keyword
  have assessment :=
    woven_wrap respects_assessment
      (show ["<strong class=\"assessment\">"] ++ ["</strong>"] ⊆
        plainTags by decide)
      bullets
  have ranking :=
    woven_wrap respects_ranking
      (show ["<strong class=\"ranking\">"] ++ ["</strong>"] ⊆
        plainTags by decide)
      assessment
  exact
    replaceAll_woven isTag_of_mem_plainTags respects_newline
      (fun _ _ => Woven.of_tags (by decide)) ranking

end SultanPass.AIAssistant
