import SultanPass.ResponsePatterns

/-!
# Markup in a plainly formatted response

The formatter copies a response into HTML without escaping it.  A `<` of the
response begins markup when a letter, a slash, an exclamation or a question
mark comes directly behind it in the output.  No substitution puts anything
between the two, except the one that sets off assessment words.

So the openings in the plain format are those of the response, but for the
ones in front of an assessment word (`behindOpenings_formatPlain`).
-/

namespace SultanPass.AIAssistant

open SultanPass.Library
open SultanPass.Library.Pattern
open SultanPass.Library.Glyph

/-! ## The property and its condition -/

/-- Every piece of markup is one of the formatter's own tags. -/
def OnlyOwnMarkup (output : List Glyph) : Prop :=
  ∀ piece ∈ markup output, ∃ tag ∈ fixedTags, piece = own tag

/-- An assessment word stands alone at the beginning of a text. -/
def beginsWithAssessment (text : List Char) : Bool :=
  (assessmentWords.map String.toList).contains
    (text.takeWhile isWordChar)

/--
No `<` is directly followed by a character that makes it begin markup,
unless that is the first of an assessment word.
-/
def NoOpening (text : List Char) : Prop :=
  ∀ before after, text = before ++ '<' :: after →
    after.head?.any beginsMarkup = true →
    beginsWithAssessment after = true

/-! ## What is observed behind a `<` -/

/-- The word at the beginning of a text, and whether it opens markup. -/
def observed (text : List Glyph) : Bool × List Char :=
  (opens text, (text.map Glyph.unit).takeWhile isWordChar)

/-- Markup is opened, and not by an assessment word. -/
def exposes (text : List Glyph) : Bool :=
  opens text && !beginsWithAssessment (text.map Glyph.unit)

/-- The place is in the word behind a taken `<`. -/
def inWordBehind : List Glyph → Prop
  | [] => False
  | glyph :: before =>
      glyph = foreignChar '<' ∨
        isWordChar glyph.unit = true ∧ inWordBehind before

/-- The place is directly behind a taken `<`. -/
def directlyBehind (before : List Glyph) : Prop :=
  before.head? = some (foreignChar '<')

theorem not_isWordChar_of_isLineEnd {char : Char}
    (isEnd : isLineEnd char = true) : isWordChar char = false := by
  have same : char = Char.ofNat char.toNat := (Char.ofNat_toNat char).symm
  simp only [isLineEnd, List.contains_eq_mem, List.mem_cons,
    List.not_mem_nil, or_false, decide_eq_true_eq] at isEnd
  rcases isEnd with code | code | code | code <;>
    (rw [same, code]
     rfl)

theorem not_lineStart_of_inWordBehind {before : List Glyph}
    (inWord : inWordBehind before)
    (atStart : before.head?.all (isLineEnd ·.unit) = true) : False := by
  cases before with
  | nil => exact inWord
  | cons glyph before =>
      rw [List.head?_cons, Option.all_some] at atStart
      rcases inWord with rfl | ⟨isWord, _⟩
      · cases atStart
      · rw [not_isWordChar_of_isLineEnd atStart] at isWord
        cases isWord

theorem behindOpenings_skip {β : Type} (observe : List Glyph → β)
    {part : List Glyph} (noOpening : ∀ glyph ∈ part, glyph ≠ foreignChar '<')
    (rest : List Glyph) :
    behindOpenings observe (part ++ rest) = behindOpenings observe rest := by
  induction part with
  | nil => rfl
  | cons glyph part induction =>
      rw [List.forall_mem_cons] at noOpening
      rw [List.cons_append, behindOpenings, if_neg noOpening.1]
      exact induction noOpening.2

/-! ## Substitutions that begin with a tag -/

/-- What a substitution puts in begins with a tag. -/
def BeginsWithTag (text : List Glyph) : Prop :=
  ∃ rest, text = ownChar '<' :: rest

theorem BeginsWithTag.append {text : List Glyph}
    (begins : BeginsWithTag text) (rest : List Glyph) :
    BeginsWithTag (text ++ rest) := by
  rcases begins with ⟨others, rfl⟩
  exact ⟨others ++ rest, rfl⟩

theorem beginsWithTag_tags {tag : String} (isOne : isTag tag.toList = true)
    (others : List String) : BeginsWithTag (tags (tag :: others)) := by
  rcases exists_of_isTag isOne with ⟨char, rest, isText, _⟩
  rw [tags, List.flatMap_cons, own, isText]
  exact ⟨_, rfl⟩

theorem opens_of_beginsWithTag {text : List Glyph}
    (begins : BeginsWithTag text) : opens text = false := by
  rcases begins with ⟨rest, rfl⟩
  rfl

theorem observed_of_beginsWithTag {text : List Glyph}
    (begins : BeginsWithTag text) : observed text = (false, []) := by
  rcases begins with ⟨rest, rfl⟩
  rfl

theorem ne_foreign_of_mem_tags {texts : List String} {glyph : Glyph}
    (member : glyph ∈ tags texts) : glyph ≠ foreignChar '<' := by
  rcases List.mem_flatMap.mp member with ⟨text, _, inText⟩
  rcases List.mem_map.mp inText with ⟨char, _, rfl⟩
  simp [ownChar, foreignChar]

theorem ne_foreign_of_unit {glyph : Glyph} (noOpening : glyph.unit ≠ '<') :
    glyph ≠ foreignChar '<' := by
  rintro rfl
  exact noOpening rfl

/-- A template that brings no taken `<`, in the place of a match without. -/
structure Plain (pattern : Pattern Glyph)
    (template : Match Glyph → List Glyph) : Prop where
  begins : ∀ found, BeginsWithTag (template found)
  respects : Respects plainTags pattern
  matched :
    ∀ before after found, pattern.matchAt before after = some found →
      ∀ glyph ∈ found.matched, glyph.unit ≠ '<'
  template :
    ∀ found, (∀ glyph ∈ found.matched, glyph.unit ≠ '<') →
      ∀ glyph ∈ template found, glyph ≠ foreignChar '<'

theorem Plain.within {pattern : Pattern Glyph}
    {template : Match Glyph → List Glyph} (plain : Plain pattern template)
    {β : Type} {observe observed : List Glyph → β}
    {before after out : List Glyph} {found : Match Glyph}
    (here : pattern.matchAt before after = some found)
    (later :
      behindOpenings observed out = behindOpenings observe found.rest) :
    behindOpenings observed (template found ++ out) =
      behindOpenings observe after := by
  have noOpening := plain.matched _ _ _ here
  rw [behindOpenings_skip observed (plain.template found noOpening), later,
    (matchAt_eq_some here).2,
    behindOpenings_skip observe fun glyph member =>
      ne_foreign_of_unit (noOpening glyph member)]

/-- A substitution by tags around the match. -/
theorem plain_wrap {pattern : Pattern Glyph}
    (respects : Respects plainTags pattern)
    (matched :
      ∀ before after found, pattern.matchAt before after = some found →
        ∀ glyph ∈ found.matched, glyph.unit ≠ '<')
    {tag : String} (isOne : isTag tag.toList = true)
    (others closing : List String) :
    Plain pattern fun found =>
      tags (tag :: others) ++ found.matched ++ tags closing where
  begins found :=
    ((beginsWithTag_tags isOne others).append _).append _
  respects := respects
  matched := matched
  template found noOpening glyph member := by
    rw [List.mem_append, List.mem_append] at member
    rcases member with (opening | inside) | closing
    · exact ne_foreign_of_mem_tags opening
    · exact ne_foreign_of_unit (noOpening glyph inside)
    · exact ne_foreign_of_mem_tags closing

theorem plain_bullet : Plain bulletPattern fun _ => bullet where
  begins _ :=
    (((beginsWithTag_tags (by decide) []).append _).append _).append _
  respects := respects_bullet
  matched _ _ _ := noOpening_of_bullet
  template _ _ := by decide

theorem plain_newline : Plain newlinePattern fun _ => tags ["<br>"] where
  begins _ := beginsWithTag_tags (by decide) []
  respects := respects_newline
  matched _ _ _ := noOpening_of_newline
  template _ _ _ := ne_foreign_of_mem_tags

/-! ## Substitutions before the assessment words -/

theorem observed_kept {before rest out : List Glyph} {glyph : Glyph}
    (inWord : inWordBehind before)
    (later :
      inWordBehind (glyph :: before) → observed out = observed rest) :
    observed (glyph :: out) = observed (glyph :: rest) := by
  rw [observed, observed, List.map_cons, List.map_cons,
    List.takeWhile_cons, List.takeWhile_cons]
  cases isWord : isWordChar glyph.unit with
  | true =>
      have same := congrArg Prod.snd (later (Or.inr ⟨isWord, inWord⟩))
      rw [observed, observed] at same
      exact congrArg (fun word => (_, glyph.unit :: word)) same
  | false => rfl

/-- A substitution at the beginnings of lines changes no observation. -/
theorem follows_of_lineStart {pattern : Pattern Glyph}
    {template : Match Glyph → List Glyph} (plain : Plain pattern template)
    (atStart :
      ∀ before after found, pattern.matchAt before after = some found →
        before.head?.all (isLineEnd ·.unit) = true) :
    Follows pattern template inWordBehind observed observed where
  nonempty _ _ _ here := (plain.respects.cuts _ _ _ here).1
  begins _ := Or.inl rfl
  ends := rfl
  kept _ _ _ _ inWord _ := observed_kept inWord
  replaced _ _ _ _ here inWord :=
    (not_lineStart_of_inWordBehind inWord (atStart _ _ _ here)).elim
  within _ _ _ _ here := plain.within here

theorem observed_stop {stop : Glyph} (noWord : isWordChar stop.unit = false)
    (front left right : List Glyph) :
    observed (front ++ stop :: left) = observed (front ++ stop :: right) := by
  have words (text : List Glyph) :
      ((front ++ stop :: text).map Glyph.unit).takeWhile isWordChar =
        (front.map Glyph.unit).takeWhile isWordChar := by
    rw [List.map_append, List.map_cons]
    induction front with
    | nil => exact List.takeWhile_cons_of_neg (by rw [noWord]; decide)
    | cons glyph front induction =>
        rw [List.map_cons, List.cons_append, List.takeWhile_cons,
          List.takeWhile_cons, induction]
  rw [observed, observed, words, words]
  cases front <;> rfl

/-- Behind a character that ends a word the observations are apart. -/
theorem behindOpenings_stop {stop : Glyph}
    (noWord : isWordChar stop.unit = false) (noOpening : stop.unit ≠ '<')
    {left right : List Glyph}
    (same :
      behindOpenings observed left = behindOpenings observed right)
    (front : List Glyph) :
    behindOpenings observed (front ++ stop :: left) =
      behindOpenings observed (front ++ stop :: right) := by
  induction front with
  | nil =>
      rw [List.nil_append, List.nil_append, behindOpenings, behindOpenings,
        if_neg (ne_foreign_of_unit noOpening),
        if_neg (ne_foreign_of_unit noOpening), same]
  | cons glyph front induction =>
      rw [List.cons_append, List.cons_append, behindOpenings,
        behindOpenings, induction, observed_stop noWord front left right]

/-- Nor does a substitution of a text in parentheses. -/
theorem follows_keyword {tag : String} (isOne : isTag tag.toList = true)
    (closing : List String) :
    Follows keywordPattern
      (fun found => tags [tag] ++ found.matched ++ tags closing)
      inWordBehind observed observed where
  nonempty _ _ _ here := (respects_keyword.cuts _ _ _ here).1
  begins _ := Or.inl rfl
  ends := rfl
  kept _ _ _ _ inWord _ := observed_kept inWord
  replaced before after found out here _ := by
    have begins :=
      (((beginsWithTag_tags isOne []).append found.matched).append
        (tags closing)).append out
    rcases shape_of_keyword here with ⟨first, _, _, same, isOpen, _⟩
    rw [observed_of_beginsWithTag begins, (matchAt_eq_some here).2, same,
      observed, List.cons_append, opens, isOpen, List.map_cons, isOpen]
    rfl
  within before after found out here later := by
    rcases shape_of_keyword here with ⟨first, inner, last, same, _, isClose⟩
    rw [(matchAt_eq_some here).2, List.append_assoc, List.append_assoc,
      behindOpenings_skip observed fun _ => ne_foreign_of_mem_tags, same,
      ← List.cons_append, List.append_assoc, List.append_assoc]
    refine
      behindOpenings_stop (by rw [isClose]; rfl)
        (by rw [isClose]; decide) ?_ _
    show behindOpenings observed (tags closing ++ out) =
      behindOpenings observed found.rest
    rw [behindOpenings_skip observed fun _ => ne_foreign_of_mem_tags]
    exact later

/-! ## The assessment words -/

theorem mem_runs_literal {text : String} {word : List Glyph}
    (same : word.map Glyph.unit = text.toList) (before rest : List Glyph)
    (groups : List (ℕ × List Glyph)) :
    ⟨word.reverse ++ before, rest, groups⟩ ∈
      (literal text).runs ⟨before, word ++ rest, groups⟩ := by
  rw [literal]
  generalize text.toList = chars at same
  induction chars generalizing word before with
  | nil =>
      rw [List.map_eq_nil_iff.mp same]
      exact List.mem_singleton_self _
  | cons char chars induction =>
      rcases List.map_eq_cons_iff.mp same with
        ⟨glyph, others, rfl, isChar, later⟩
      refine
        mem_runs_sequence (mem_runs_one glyph (decide_eq_true isChar)) ?_
      rw [List.reverse_cons, List.append_assoc]
      exact induction (glyph :: before) later

/-- An assessment word consists of word characters. -/
theorem wordChars_of_assessment {word : String}
    (isWord : word ∈ assessmentWords) :
    word.toList ≠ [] ∧ ∀ char ∈ word.toList, isWordChar char = true := by
  have all :
      ∀ word ∈ assessmentWords,
        word.toList ≠ [] ∧ word.toList.all isWordChar = true := by
    decide
  exact (all word isWord).imp_right List.all_eq_true.mp

theorem any_head?_reverse {test : Glyph → Bool} {part before : List Glyph}
    (nonempty : part ≠ []) (all : ∀ glyph ∈ part, test glyph = true) :
    (part.reverse ++ before).head?.any test = true := by
  rcases List.eq_nil_or_concat part with rfl | ⟨front, last, rfl⟩
  · exact (nonempty rfl).elim
  · rw [List.concat_eq_append, List.reverse_append]
    exact all last (by simp)

/-- Every match is a word that stands alone. -/
theorem beginsWithAssessment_of_matchAt {before after : List Glyph}
    {found : Match Glyph}
    (here : assessmentPattern.matchAt before after = some found) :
    beginsWithAssessment (after.map Glyph.unit) = true := by
  rcases shape_of_assessment here with ⟨word, isWord, same⟩
  rcases wordChars_of_assessment isWord with ⟨nonempty, wordChars⟩
  rw [← same] at nonempty wordChars
  have inWord :
      (found.matched.reverse ++ before).head?.any (isWordChar ·.unit) =
        true :=
    any_head?_reverse (fun empty => nonempty (by rw [empty]; rfl))
      fun glyph member => wordChars _ (List.mem_map_of_mem member)
  have boundary :
      ((found.matched.reverse ++ before).head?.any (isWordChar ·.unit) !=
        found.rest.head?.any (isWordChar ·.unit)) = true :=
    @holds_behind_matchAt Glyph _ [wordBoundary, _] before after found here
  rw [inWord, Bool.bne_eq_xor, Bool.true_xor, Bool.not_eq_true'] at boundary
  have alone :
      (after.map Glyph.unit).takeWhile isWordChar = word.toList := by
    rw [(matchAt_eq_some here).2, List.map_append,
      List.takeWhile_append_of_pos wordChars, same]
    cases rest : found.rest with
    | nil => simp
    | cons glyph others =>
        rw [rest] at boundary
        have noWord : isWordChar glyph.unit = false := boundary
        rw [List.map_cons,
          List.takeWhile_cons_of_neg (by rw [noWord]; decide),
          List.append_nil]
  rw [beginsWithAssessment, alone, List.contains_iff_mem]
  exact List.mem_map_of_mem isWord

/-- Behind no word, a word that stands alone is matched. -/
theorem exists_assessment {before after : List Glyph}
    (boundary : before.head?.any (isWordChar ·.unit) = false)
    (begins : beginsWithAssessment (after.map Glyph.unit) = true) :
    ∃ found, assessmentPattern.matchAt before after = some found := by
  rw [beginsWithAssessment, List.contains_iff_mem, List.takeWhile_map]
    at begins
  rcases List.mem_map.mp begins with ⟨word, isWord, same⟩
  rcases wordChars_of_assessment isWord with ⟨nonempty, wordChars⟩
  generalize isPart : after.takeWhile (isWordChar ∘ Glyph.unit) = part
    at same
  generalize isRest : after.dropWhile (isWordChar ∘ Glyph.unit) = rest
  have split : after = part ++ rest := by
    rw [← isPart, ← isRest, List.takeWhile_append_dropWhile]
  rw [same] at nonempty wordChars
  have inWord :
      (part.reverse ++ before).head?.any (isWordChar ·.unit) = true :=
    any_head?_reverse (fun empty => nonempty (by rw [empty]; rfl))
      fun glyph member => wordChars _ (List.mem_map_of_mem member)
  have atStart : after.head?.any (isWordChar ·.unit) = true := by
    rw [split]
    cases part with
    | nil => exact (nonempty rfl).elim
    | cons glyph part => exact wordChars _ List.mem_cons_self
  have atEnd : rest.head?.any (isWordChar ·.unit) = false := by
    have noWord := List.head?_dropWhile_not (isWordChar ∘ Glyph.unit) after
    rw [isRest] at noWord
    cases rest with
    | nil => rfl
    | cons glyph others => exact noWord
  have isText : ⟨part.reverse ++ before, rest, []⟩ ∈
      (literal word).runs ⟨before, after, []⟩ := by
    rw [split]
    exact mem_runs_literal same.symm before rest []
  have listed :
      literal word ∈
        literal "Good" :: assessmentWords.tail.map literal :=
    List.mem_map_of_mem (f := literal) isWord
  refine
    exists_matchAt
      (mem_runs_sequence (mem_runs_assert ?_)
        (mem_runs_sequence (mem_runs_oneOf listed isText)
          (mem_runs_sequence (mem_runs_assert ?_)
            (List.mem_singleton_self _))))
  · show (_ != _) = true
    rw [boundary, atStart]
    rfl
  · show (_ != _) = true
    rw [inWord, atEnd]
    rfl

/-- Setting off the assessment words leaves the other openings. -/
theorem follows_assessment {template : Match Glyph → List Glyph}
    (plain : Plain assessmentPattern template) :
    Follows assessmentPattern template directlyBehind exposes opens where
  nonempty _ _ _ here := (plain.respects.cuts _ _ _ here).1
  begins _ := rfl
  ends := rfl
  kept before glyph rest out behind here _ := by
    have boundary : before.head?.any (isWordChar ·.unit) = false := by
      rw [directlyBehind] at behind
      rw [behind]
      rfl
    have noWord :
        beginsWithAssessment ((glyph :: rest).map Glyph.unit) = false := by
      by_contra begins
      rw [Bool.not_eq_false] at begins
      rcases exists_assessment boundary begins with ⟨found, isMatch⟩
      rw [here] at isMatch
      cases isMatch
    rw [exposes, noWord, Bool.not_false, Bool.and_true]
    rfl
  replaced _ _ found out here _ := by
    rw [opens_of_beginsWithTag ((plain.begins found).append out), exposes,
      beginsWithAssessment_of_matchAt here, Bool.not_true, Bool.and_false]
  within _ _ _ _ here := plain.within here

/-! ## Substitutions behind the assessment words -/

theorem not_beginsMarkup_of_isDigit {char : Char}
    (digit : char.isDigit = true) : beginsMarkup char = false := by
  rw [Char.isDigit, Bool.and_eq_true, decide_eq_true_eq,
    decide_eq_true_eq] at digit
  have low : char.val.toNat ≤ 57 := digit.2
  have high : 48 ≤ char.val.toNat := digit.1
  have noUpper : char.isUpper = false := by
    refine decide_eq_false fun bounds => ?_
    have upper : 65 ≤ char.val.toNat := bounds.1
    omega
  have noLower : char.isLower = false := by
    refine Bool.eq_false_iff.mpr fun isLower => ?_
    have bounds : 'a'.val ≤ char.val :=
      of_decide_eq_true (Bool.and_eq_true_iff.mp isLower).1
    have lower : 97 ≤ char.val.toNat := bounds
    omega
  have noAlpha : char.isAlpha = false := by
    show (char.isUpper || char.isLower) = false
    rw [noUpper, noLower]
    rfl
  have other (mark : Char)
      (apart : mark.val.toNat < 48 ∨ 57 < mark.val.toNat) :
      char ≠ mark := by
    rintro rfl
    omega
  rw [beginsMarkup, noAlpha, decide_eq_false (other '/' (by decide)),
    decide_eq_false (other '!' (by decide)),
    decide_eq_false (other '?' (by decide))]
  rfl

/-- A substitution of what opens no markup leaves the openings. -/
theorem follows_opens {pattern : Pattern Glyph}
    {template : Match Glyph → List Glyph} (plain : Plain pattern template)
    (first :
      ∀ before after found, pattern.matchAt before after = some found →
        ∃ glyph rest,
          found.matched = glyph :: rest ∧ beginsMarkup glyph.unit = false) :
    Follows pattern template directlyBehind opens opens where
  nonempty _ _ _ here := (plain.respects.cuts _ _ _ here).1
  begins _ := rfl
  ends := rfl
  kept _ _ _ _ _ _ _ := rfl
  replaced _ _ found out here _ := by
    rcases first _ _ _ here with ⟨glyph, rest, same, noMarkup⟩
    rw [opens_of_beginsWithTag ((plain.begins found).append out),
      (matchAt_eq_some here).2, same]
    exact noMarkup.symm
  within _ _ _ _ here := plain.within here

/-! ## The plain format -/

theorem behindOpenings_comp {β γ : Type} (observe : List Glyph → β)
    (read : β → γ) (text : List Glyph) :
    behindOpenings (read ∘ observe) text =
      (behindOpenings observe text).map read := by
  induction text with
  | nil => rfl
  | cons glyph text induction =>
      rw [behindOpenings, behindOpenings]
      split_ifs
      · rw [List.map_cons, induction]
        rfl
      · exact induction

/-- The openings in the output are those of the response. -/
theorem behindOpenings_formatPlain (text : List Glyph) :
    behindOpenings opens (formatPlain text) =
      behindOpenings exposes text := by
  have header :=
    follows_of_lineStart
      (plain_wrap respects_header (fun _ _ _ => noOpening_of_header)
        (show isTag "<div class=\"header-section\">".toList = true by decide)
        ["<strong>"] ["</strong>", "</div>"])
      fun _ _ _ here => (shape_of_header here).1
  have numbered :=
    follows_of_lineStart
      (plain_wrap respects_numbered (fun _ _ _ => noOpening_of_numbered)
        (show isTag "<strong class=\"numbered-section\">".toList = true by
          decide)
        [] ["</strong>"])
      fun _ _ _ here => (shape_of_numbered here).1
  have keyword :=
    follows_keyword
      (show isTag "<strong class=\"keyword\">".toList = true by decide)
      ["</strong>"]
  have bullets :=
    follows_of_lineStart plain_bullet
      fun _ _ _ here => (shape_of_bullet here).1
  have assessment :=
    follows_assessment
      (plain_wrap respects_assessment
        (fun _ _ _ => noOpening_of_assessment)
        (show isTag "<strong class=\"assessment\">".toList = true by decide)
        [] ["</strong>"])
  have ranking :=
    follows_opens
      (plain_wrap respects_ranking (fun _ _ _ => noOpening_of_ranking)
        (show isTag "<strong class=\"ranking\">".toList = true by decide)
        [] ["</strong>"])
      fun _ _ _ here => by
        rcases shape_of_ranking here with ⟨first, rest, same, digit, _⟩
        exact ⟨first, rest, same, not_beginsMarkup_of_isDigit digit⟩
  have newline :=
    follows_opens plain_newline
      fun _ _ _ here => by
        rcases shape_of_newline here with ⟨glyph, same, isNewline⟩
        refine ⟨glyph, [], same, ?_⟩
        rw [isNewline]
        rfl
  have read :
      exposes =
        (fun seen : Bool × List Char =>
          seen.1 &&
            !(assessmentWords.map String.toList).contains seen.2) ∘
          observed :=
    rfl
  simp only [formatPlain, wrap]
  rw [behindOpenings_replaceAll newline, behindOpenings_replaceAll ranking,
    behindOpenings_replaceAll assessment, read, behindOpenings_comp,
    behindOpenings_comp, behindOpenings_replaceAll bullets,
    behindOpenings_replaceAll keyword, behindOpenings_replaceAll numbered,
    behindOpenings_replaceAll header]

theorem map_unit_foreign (text : List Char) :
    (foreign text).map Glyph.unit = text := by
  induction text with
  | nil => rfl
  | cons char text induction => exact congrArg (char :: ·) induction

theorem exposes_foreign (text : List Char) :
    exposes (foreign text) =
      (text.head?.any beginsMarkup && !beginsWithAssessment text) := by
  rw [exposes, map_unit_foreign]
  cases text <;> rfl

/-- A response exposes no opening when each of its `<` begins no markup. -/
theorem noOpening_iff (text : List Char) :
    NoOpening text ↔ true ∉ behindOpenings exposes (foreign text) := by
  constructor
  · intro none exposed
    rcases mem_behindOpenings.mp exposed with ⟨front, rest, split, isOpen⟩
    rcases List.map_eq_append_iff.mp split with
      ⟨before, others, rfl, rfl, isRest⟩
    rcases List.map_eq_cons_iff.mp isRest with ⟨char, after, rfl, same, rfl⟩
    cases same
    have isOpen : exposes (foreign after) = true := isOpen
    rw [exposes_foreign, Bool.and_eq_true, Bool.not_eq_true'] at isOpen
    rw [none before after rfl isOpen.1] at isOpen
    cases isOpen.2
  · rintro none before after rfl begins
    by_contra noWord
    rw [Bool.not_eq_true] at noWord
    refine none (mem_behindOpenings.mpr ⟨foreign before, foreign after, ?_⟩)
    refine ⟨List.map_append, ?_⟩
    rw [exposes_foreign, begins, noWord]
    rfl

end SultanPass.AIAssistant
