import SultanPass.ComparisonMarkup
import Mathlib.Data.List.DropRight

/-!
# What is left of a response

The plain format drops the dashes that it turns into bullets, and nothing
else that is visible.  The comparison shows what its patterns recognise: two
ranking positions are enough to choose it, and when no pattern finds the
parts that it wants, the output is an empty wrapper.

`showsAnswer_iff` says for which responses something visible of the response
is in the output.
-/

namespace SultanPass.AIAssistant

open SultanPass.Library
open SultanPass.Library.Pattern
open SultanPass.Library.Glyph

/-! ## Visible characters -/

/-- A character of the response that is not blank is among these. -/
def ShowsAnswer (text : List Glyph) : Prop :=
  ∃ glyph ∈ text, glyph.taken = true ∧ isSpace glyph.unit = false

/-- The place of a dash that becomes a bullet. -/
def isBulletAt (before : List Char) (char : Char) (after : List Char) :
    Bool :=
  char = '-' && before.getLast?.all isLineEnd && after.head?.any isSpace

/-- Something visible besides the dashes that become bullets. -/
def HasAnswer (text : List Char) : Prop :=
  ∃ before char after,
    text = before ++ char :: after ∧ isSpace char = false ∧
      isBulletAt before char after = false

theorem not_isSpace_of_between {char : Char} (low : 0x20 < char.toNat)
    (high : char.toNat < 0x7F) : isSpace char = false := by
  simp only [isSpace, List.contains_eq_mem, List.mem_cons,
    List.not_mem_nil, or_false, Bool.or_eq_false_iff,
    decide_eq_false_iff_not, Bool.and_eq_false_iff]
  omega

theorem not_isSpace_of_isDigit {char : Char} (digit : char.isDigit = true) :
    isSpace char = false := by
  rw [Char.isDigit, Bool.and_eq_true, decide_eq_true_eq,
    decide_eq_true_eq] at digit
  have low : 48 ≤ char.toNat := digit.1
  have high : char.toNat ≤ 57 := digit.2
  exact not_isSpace_of_between (by omega) (by omega)

theorem not_isSpace_of_isUpper {char : Char} (upper : char.isUpper = true) :
    isSpace char = false := by
  have bounds : 'A'.val ≤ char.val ∧ char.val ≤ 'Z'.val :=
    of_decide_eq_true upper
  have low : 65 ≤ char.toNat := bounds.1
  have high : char.toNat ≤ 90 := bounds.2
  exact not_isSpace_of_between (by omega) (by omega)

theorem not_taken_of_mem_tags {texts : List String} {glyph : Glyph}
    (member : glyph ∈ tags texts) : glyph.taken = false := by
  rcases List.mem_flatMap.mp member with ⟨text, _, inText⟩
  rcases List.mem_map.mp inText with ⟨char, _, rfl⟩
  rfl

/-! ## Substitutions in the plain format -/

/-- Nothing is lost between tags. -/
theorem mem_wrap (pattern : Pattern Glyph) (opening closing : List String)
    {text : List Glyph} {glyph : Glyph} (member : glyph ∈ text) :
    glyph ∈ wrap pattern opening closing text := by
  refine mem_replaceAll (fun _ _ found _ inMatch => ?_) member
  exact List.mem_append_left _ (List.mem_append_right _ inMatch)

/-- The tags bring nothing of the response. -/
theorem mem_of_mem_wrap {pattern : Pattern Glyph}
    {opening closing : List String} {text : List Glyph} {glyph : Glyph}
    (taken : glyph.taken = true)
    (member : glyph ∈ wrap pattern opening closing text) :
    glyph ∈ text := by
  refine mem_of_mem_replaceAll (fun found isPut => ?_) member
  rw [List.mem_append, List.mem_append] at isPut
  rcases isPut with (inOpening | inMatch) | inClosing
  · rw [not_taken_of_mem_tags inOpening] at taken
    cases taken
  · exact inMatch
  · rw [not_taken_of_mem_tags inClosing] at taken
    cases taken

/-- A pattern that begins with a visible character other than a dash. -/
def BeginsVisibly (pattern : Pattern Glyph) : Prop :=
  ∀ before after found, pattern.matchAt before after = some found →
    ∃ glyph rest,
      found.matched = glyph :: rest ∧ glyph.unit ≠ '-' ∧
        isSpace glyph.unit = false

theorem beginsVisibly_header : BeginsVisibly headerPattern := by
  intro before after found here
  rcases (shape_of_header here).2 with ⟨first, rest, same, upper, _⟩
  refine ⟨first, rest, same, ?_, not_isSpace_of_isUpper upper⟩
  intro dash
  rw [dash] at upper
  cases upper

theorem beginsVisibly_numbered : BeginsVisibly numberedPattern := by
  intro before after found here
  rcases (shape_of_numbered here).2 with ⟨first, rest, same, digit, _⟩
  refine ⟨first, rest, same, ?_, not_isSpace_of_isDigit digit⟩
  intro dash
  rw [dash] at digit
  cases digit

theorem beginsVisibly_keyword : BeginsVisibly keywordPattern := by
  intro before after found here
  rcases shape_of_keyword here with ⟨first, inner, last, same, isOpen, _⟩
  refine ⟨first, _, same, ?_⟩
  rw [isOpen]
  decide

/-- All that is visible of a text are dashes. -/
def OnlyDashes (text : List Glyph) : Prop :=
  ∀ glyph ∈ text, glyph.unit = '-' ∨ isSpace glyph.unit = true

theorem wrap_of_onlyDashes {pattern : Pattern Glyph}
    (begins : BeginsVisibly pattern) (opening closing : List String)
    {text : List Glyph} (dashes : OnlyDashes text) :
    wrap pattern opening closing text = text := by
  refine replaceAll_of_no_match fun skipped rest split => ?_
  cases here : pattern.matchAt skipped.reverse rest with
  | none => rfl
  | some found =>
      rcases begins _ _ _ here with ⟨glyph, others, same, noDash, visible⟩
      have inText : glyph ∈ text := by
        rw [split, (matchAt_eq_some here).2, same]
        simp
      rcases dashes glyph inText with isDash | isBlank
      · exact (noDash isDash).elim
      · rw [isBlank] at visible
        cases visible

/-- A visible character other than a dash is in no bullet. -/
theorem mem_bullets {text : List Glyph} {glyph : Glyph}
    (noDash : glyph.unit ≠ '-') (visible : isSpace glyph.unit = false)
    (member : glyph ∈ text) :
    glyph ∈ bulletPattern.replaceAll (fun _ => bullet) text := by
  refine mem_replaceAll (fun before after found here inMatch => ?_) member
  rcases (shape_of_bullet here).2 with ⟨dash, spaces, same, isDash, _, all⟩
  rw [same] at inMatch
  rcases List.mem_cons.mp inMatch with rfl | inSpaces
  · exact (noDash isDash).elim
  · rw [all glyph inSpaces] at visible
    cases visible

theorem mem_newlines {text : List Glyph} {glyph : Glyph}
    (visible : isSpace glyph.unit = false) (member : glyph ∈ text) :
    glyph ∈ newlinePattern.replaceAll (fun _ => tags ["<br>"]) text := by
  refine mem_replaceAll (fun before after found here inMatch => ?_) member
  rcases shape_of_newline here with ⟨newline, same, isNewline⟩
  rw [same] at inMatch
  rw [List.mem_singleton.mp inMatch, isNewline] at visible
  cases visible

theorem mem_of_mem_newlines {text : List Glyph} {glyph : Glyph}
    (taken : glyph.taken = true)
    (member :
      glyph ∈ newlinePattern.replaceAll (fun _ => tags ["<br>"]) text) :
    glyph ∈ text := by
  refine mem_of_mem_replaceAll (fun _ isPut => ?_) member
  rw [not_taken_of_mem_tags isPut] at taken
  cases taken

/-! ## Bullets in the response -/

/-- At its place, a bullet is matched. -/
theorem exists_bullet {before after : List Char} {char : Char}
    (isBullet : isBulletAt before char after = true) :
    ∃ found,
      bulletPattern.matchAt (foreign before).reverse
        (foreignChar char :: foreign after) = some found := by
  rw [isBulletAt, Bool.and_eq_true, Bool.and_eq_true] at isBullet
  rcases isBullet with ⟨⟨isDash, atStart⟩, isSpaced⟩
  cases after with
  | nil => cases isSpaced
  | cons next others =>
      have start :
          (foreign before).reverse.head?.all (isLineEnd ·.unit) = true := by
        rw [List.head?_reverse, foreign, List.getLast?_map, Option.all_map]
        exact atStart
      exact
        exists_matchAt
          (mem_runs_sequence (mem_runs_assert start)
            (mem_runs_sequence (mem_runs_one (foreignChar char) isDash)
              (mem_runs_sequence
                (List.mem_flatMap.mpr
                  ⟨_, mem_runs_one (foreignChar next) isSpaced,
                    mem_runs_star true _ _⟩)
                (List.mem_singleton_self _))))

/-- A visible character outside of the bullets is kept. -/
theorem kept_of_not_bullet {before after : List Char} {char : Char}
    (visible : isSpace char = false)
    (noBullet : isBulletAt before char after = false) :
    .kept (foreignChar char) ∈
      scan bulletPattern (foreign (before ++ char :: after)) := by
  have whole :
      foreign (before ++ char :: after) =
        foreign before ++ foreignChar char :: foreign after :=
    List.map_append
  rw [whole]
  refine kept_mem_scan fun first others found isBefore here => ?_
  rw [List.append_nil] at here
  by_contra long
  have split := (matchAt_eq_some here).2
  rcases shape_of_bullet here with
    ⟨atStart, dash, spaces, same, isDash, nonempty, all⟩
  have isFront :
      others ++ [foreignChar char] <+:
        others ++ foreignChar char :: foreign after := by
    refine ⟨foreign after, ?_⟩
    rw [List.append_assoc]
    rfl
  have goesOver : others ++ [foreignChar char] <+: found.matched := by
    refine
      List.prefix_of_prefix_length_le isFront ⟨found.rest, split.symm⟩ ?_
    rw [List.length_append, List.length_singleton]
    omega
  rcases goesOver with ⟨more, goesOver⟩
  rw [same] at goesOver
  cases others with
  | nil =>
      rcases List.cons.inj goesOver with ⟨rfl, rfl⟩
      rw [List.append_nil] at isBefore
      rw [same, List.nil_append] at split
      have isAfter : foreign after = more ++ found.rest :=
        (List.cons.inj split).2
      have start : before.getLast?.all isLineEnd = true := by
        rw [← isBefore, List.head?_reverse, foreign, List.getLast?_map,
          Option.all_map] at atStart
        exact atStart
      have spaced : after.head?.any isSpace = true := by
        rcases List.exists_cons_of_ne_nil nonempty with ⟨space, others, rfl⟩
        rcases List.map_eq_cons_iff.mp isAfter with
          ⟨next, rest, rfl, rfl, _⟩
        exact all _ List.mem_cons_self
      rw [isBulletAt, start, spaced] at noBullet
      rw [show char = '-' from isDash] at noBullet
      cases noBullet
  | cons other others =>
      have inSpaces : foreignChar char ∈ spaces := by
        rw [← (List.cons.inj goesOver).2]
        simp
      have blank : isSpace char = true := all _ inSpaces
      rw [blank] at visible
      cases visible

/-! ## The plain format -/

/-- The text in front of the bullets, and what is made of it afterwards. -/
theorem formatPlain_onlyDashes {text : List Glyph}
    (dashes : OnlyDashes text) :
    formatPlain text =
      newlinePattern.replaceAll (fun _ => tags ["<br>"])
        (wrap rankingPattern ["<strong class=\"ranking\">"] ["</strong>"]
          (wrap assessmentPattern ["<strong class=\"assessment\">"]
            ["</strong>"]
            (bulletPattern.replaceAll (fun _ => bullet) text))) := by
  simp only [formatPlain, wrap_of_onlyDashes beginsVisibly_header _ _ dashes,
    wrap_of_onlyDashes beginsVisibly_numbered _ _ dashes,
    wrap_of_onlyDashes beginsVisibly_keyword _ _ dashes]

/-- A visible character other than a dash is in the output. -/
theorem mem_formatPlain {text : List Glyph} {glyph : Glyph}
    (noDash : glyph.unit ≠ '-') (visible : isSpace glyph.unit = false)
    (member : glyph ∈ text) : glyph ∈ formatPlain text := by
  refine mem_newlines visible ?_
  refine mem_wrap rankingPattern _ _ (mem_wrap assessmentPattern _ _ ?_)
  refine mem_bullets noDash visible ?_
  exact
    mem_wrap keywordPattern _ _
      (mem_wrap numberedPattern _ _ (mem_wrap headerPattern _ _ member))

theorem hasAnswer_of_mem {text : List Char} {char : Char}
    (member : char ∈ text) (noDash : char ≠ '-')
    (visible : isSpace char = false) : HasAnswer text := by
  rcases List.append_of_mem member with ⟨before, after, rfl⟩
  refine ⟨before, char, after, rfl, visible, ?_⟩
  rw [isBulletAt, decide_eq_false noDash]
  rfl

/-- Of a text of dashes, the ones outside of bullets are in the output. -/
theorem showsAnswer_onlyDashes {text : List Char}
    (dashes : OnlyDashes (foreign text)) :
    ShowsAnswer (formatPlain (foreign text)) ↔ HasAnswer text := by
  rw [formatPlain_onlyDashes dashes]
  constructor
  · rintro ⟨glyph, member, taken, visible⟩
    have bulleted :=
      mem_of_mem_wrap taken
        (mem_of_mem_wrap taken (mem_of_mem_newlines taken member))
    rcases List.mem_flatMap.mp bulleted with ⟨segment, inScan, isPut⟩
    cases segment with
    | kept other =>
        rw [Segment.rewrite_kept, List.mem_singleton] at isPut
        subst isPut
        rcases place_of_kept inScan with ⟨front, rest, split, noMatch⟩
        rcases List.map_eq_append_iff.mp split with
          ⟨before, others, rfl, rfl, isRest⟩
        rcases List.map_eq_cons_iff.mp isRest with
          ⟨char, after, rfl, rfl, rfl⟩
        refine ⟨before, char, after, rfl, visible, ?_⟩
        by_contra isBullet
        rw [Bool.not_eq_false] at isBullet
        rcases exists_bullet isBullet with ⟨found, here⟩
        rcases (shape_of_bullet here).2 with ⟨dash, spaces, same, _⟩
        rw [noMatch found here] at same
        cases same
    | found result =>
        have isOwn : ∀ glyph ∈ bullet, glyph.taken = false := by
          decide
        rw [isOwn glyph isPut] at taken
        cases taken
  · rintro ⟨before, char, after, rfl, visible, noBullet⟩
    have bulleted :
        foreignChar char ∈
          bulletPattern.replaceAll (fun _ => bullet)
            (foreign (before ++ char :: after)) :=
      List.mem_flatMap.mpr
        ⟨_, kept_of_not_bullet visible noBullet, List.mem_cons_self⟩
    exact
      ⟨foreignChar char,
        mem_newlines visible
          (mem_wrap rankingPattern _ _
            (mem_wrap assessmentPattern _ _ bulleted)),
        rfl, visible⟩

/-- The plain format shows all that is visible besides the bullets. -/
theorem showsAnswer_formatPlain (text : List Char) :
    ShowsAnswer (formatPlain (foreign text)) ↔ HasAnswer text := by
  by_cases dashes : OnlyDashes (foreign text)
  · exact showsAnswer_onlyDashes dashes
  · rw [OnlyDashes] at dashes
    push Not at dashes
    rcases dashes with ⟨glyph, member, noDash, visible⟩
    rw [ne_eq, Bool.not_eq_true] at visible
    have shown := mem_formatPlain noDash visible member
    rcases List.mem_map.mp member with ⟨char, inText, rfl⟩
    exact
      iff_of_true ⟨_, shown, rfl, visible⟩
        (hasAnswer_of_mem inText noDash visible)

/-! ## What the comparison recognises -/

/-- A line of the list of candidates, or else a heading, names one. -/
def NamesCandidate (text : List Glyph) : Prop :=
  (∃ found ∈ candidatesPattern.firstMatch text,
    ∃ line ∈ lines (trim (found.group 1)),
      (candidatePattern.firstMatch line).isSome = true) ∨
    (headingPattern.firstMatch text).isSome = true

/-- A numbered heading has a brief reason below it. -/
def GivesReason (text : List Glyph) : Prop :=
  (reasonPattern.firstMatch text).isSome = true

/-- A marked line below `Key Strengths` has more than its marks. -/
def ListsStrength (text : List Glyph) : Prop :=
  ∃ found ∈ strengthsPattern.firstMatch text,
    ∃ line ∈ lines (found.group 1),
      (trim line).head?.any (isBulletMark ·.unit) = true ∧
        strengthOf line ≠ []

/-- Below `Recommendation` there is more than a mark. -/
def Recommends (text : List Glyph) : Prop :=
  ∃ found ∈ recommendationPattern.firstMatch text,
    withoutMark (trim (found.group 1)) ≠ []

theorem isSome_firstMatch {pattern : Pattern Glyph} {text : List Glyph} :
    (pattern.firstMatch text).isSome = true ↔
      pattern.matchAll text ≠ [] := by
  rw [firstMatch]
  cases pattern.matchAll text <;> simp

theorem listedCandidates_ne_nil (text : List Glyph) :
    listedCandidates text ≠ [] ↔
      ∃ found ∈ candidatesPattern.firstMatch text,
        ∃ line ∈ lines (trim (found.group 1)),
          (candidatePattern.firstMatch line).isSome = true := by
  rw [listedCandidates]
  cases candidatesPattern.firstMatch text with
  | none => simp
  | some found =>
      simp only [ne_eq, List.filterMap_eq_nil_iff, Option.map_eq_none_iff,
        not_forall, Option.mem_def, Option.some.injEq, exists_eq_left',
        Option.isSome_iff_ne_none, exists_prop]

theorem candidates_ne_nil (text : List Glyph) :
    candidates text ≠ [] ↔ NamesCandidate text := by
  rw [NamesCandidate, ← listedCandidates_ne_nil, isSome_firstMatch,
    candidates]
  split_ifs with empty
  · simp [empty]
  · exact iff_of_true empty (Or.inl empty)

theorem rankings_ne_nil (text : List Glyph) :
    rankings text ≠ [] ↔ GivesReason text := by
  rw [GivesReason, isSome_firstMatch, rankings, ne_eq, List.map_eq_nil_iff]

theorem strengths_ne_nil (text : List Glyph) :
    strengths text ≠ [] ↔ ListsStrength text := by
  rw [strengths, ListsStrength]
  cases strengthsPattern.firstMatch text with
  | none => simp
  | some found =>
      simp [List.filter_eq_nil_iff, and_assoc]

theorem substring_ne_nil (limit : ℕ) (text : List Glyph) :
    substring (limit + 2) text ≠ [] ↔ text ≠ [] := by
  cases text with
  | nil => exact Iff.rfl
  | cons glyph rest =>
      rw [substring]
      split_ifs <;> simp

theorem joinLines_ne_nil (text : List Glyph) :
    joinLines text ≠ [] ↔ text ≠ [] := by
  cases text with
  | nil => exact Iff.rfl
  | cons glyph rest =>
      rw [joinLines, List.flatMap_cons]
      split_ifs <;> simp [own]

theorem recommendation_ne_nil (text : List Glyph) :
    recommendation text ≠ [] ↔ Recommends text := by
  rw [recommendation, Recommends]
  cases recommendationPattern.firstMatch text with
  | none => simp
  | some found =>
      simp only [substring_ne_nil, joinLines_ne_nil, Option.mem_def,
        Option.some.injEq, exists_eq_left']

/-! ## Visible parts -/

theorem taken_of_mem_foreign {text : List Char} {glyph : Glyph}
    (member : glyph ∈ foreign text) : glyph.taken = true := by
  rcases List.mem_map.mp member with ⟨char, _, rfl⟩
  rfl

theorem visible_of_dropWhile {text rest : List Glyph} {glyph : Glyph}
    (same : text.dropWhile (isSpace ·.unit) = glyph :: rest) :
    isSpace glyph.unit = false := by
  have first := List.head?_dropWhile_not (isSpace ·.unit) text
  rw [same] at first
  exact first

/-- A trimmed text begins with a visible character. -/
theorem visible_of_trim {text rest : List Glyph} {glyph : Glyph}
    (same : trim text = glyph :: rest) : isSpace glyph.unit = false := by
  have front :
      trim text <+: text.dropWhile (isSpace ·.unit) :=
    List.rdropWhile_prefix (fun other : Glyph => isSpace other.unit) _
  rw [same] at front
  rcases front with ⟨more, split⟩
  exact visible_of_dropWhile split.symm

theorem visible_of_withoutMark {text rest : List Glyph} {glyph : Glyph}
    (same : withoutMark (trim text) = glyph :: rest) :
    isSpace glyph.unit = false := by
  cases trimmed : trim text with
  | nil =>
      rw [trimmed] at same
      cases same
  | cons first others =>
      rw [trimmed, withoutMark] at same
      split_ifs at same
      · exact visible_of_dropWhile same
      · cases same
        exact visible_of_trim trimmed

/-- The number of a ranking is visible. -/
theorem visible_position {text : List Char} {ranking : Ranking}
    (isRanking : ranking ∈ rankings (foreign text)) :
    ShowsAnswer ranking.position := by
  rcases List.mem_map.mp isRanking with ⟨found, isMatch, rfl⟩
  have inside := group_subset_of_mem_matchAll isMatch 1
  rcases mem_matchAll isMatch with ⟨skipped, rest, _, here⟩
  have isNumber :=
    @group_mem_language Glyph [headingMark, .star true space] _ 1
      (.plus true digit) _ _ _ (by decide) here
  rcases forall_of_mem_language_plus isNumber with ⟨nonempty, digits⟩
  rcases List.exists_mem_of_ne_nil _ nonempty with ⟨glyph, member⟩
  exact
    ⟨glyph, List.mem_append_left _ member,
      taken_of_mem_foreign (inside member),
      not_isSpace_of_isDigit (digits glyph member)⟩

/-- A strength begins with a visible character. -/
theorem visible_strength {text : List Char} {strength : List Glyph}
    (isStrength : strength ∈ strengths (foreign text)) :
    ShowsAnswer strength := by
  have inside := strengths_subset isStrength
  rw [strengths] at isStrength
  cases isMatch : strengthsPattern.firstMatch (foreign text) with
  | none =>
      rw [isMatch] at isStrength
      exact (List.not_mem_nil isStrength).elim
  | some found =>
      rw [isMatch] at isStrength
      rcases List.mem_filter.mp isStrength with ⟨isTrimmed, nonempty⟩
      rcases List.mem_map.mp isTrimmed with ⟨line, _, same⟩
      cases strength with
      | nil => cases nonempty
      | cons glyph rest =>
          exact
            ⟨glyph, List.mem_cons_self,
              taken_of_mem_foreign (inside List.mem_cons_self),
              visible_of_trim same⟩

/-- So does a recommendation. -/
theorem visible_recommendation {text : List Char}
    (recommends : Recommends (foreign text)) :
    ShowsAnswer (recommendation (foreign text)) := by
  rcases recommends with ⟨found, isMatch, nonempty⟩
  have inside := recommended_subset isMatch
  rw [recommendation, isMatch]
  cases same : withoutMark (trim (found.group 1)) with
  | nil => exact (nonempty same).elim
  | cons glyph rest =>
      rw [same] at inside
      have visible := visible_of_withoutMark same
      have noNewline : glyph.unit ≠ '\n' := by
        intro isNewline
        rw [isNewline] at visible
        cases visible
      refine
        ⟨glyph, ?_, taken_of_mem_foreign (inside List.mem_cons_self),
          visible⟩
      show glyph ∈ substring 300
        (joinLines (withoutMark (trim (found.group 1))))
      rw [same, joinLines, List.flatMap_cons, if_neg noNewline,
        List.singleton_append, substring]
      split_ifs <;> exact List.mem_cons_self

/-- The comparison shows a table, strengths or a recommendation. -/
theorem showsAnswer_formatComparisonAsTable (text : List Char) :
    ShowsAnswer (formatComparisonAsTable (foreign text)) ↔
      (NamesCandidate (foreign text) ∧ GivesReason (foreign text)) ∨
        ListsStrength (foreign text) ∨ Recommends (foreign text) := by
  have quoting := quoting_formatComparisonAsTable (foreign text)
  have shows {part : List Glyph} (isPart : part ∈ quotedParts (foreign text))
      (visible : ShowsAnswer part) :
      ShowsAnswer (formatComparisonAsTable (foreign text)) := by
    rcases visible with ⟨glyph, member, isVisible⟩
    exact ⟨glyph, quoting.mem_of_mem_part isPart member, isVisible⟩
  rw [← candidates_ne_nil, ← rankings_ne_nil, ← strengths_ne_nil]
  constructor
  · rintro ⟨glyph, member, taken, _⟩
    rcases quoting.exists_part_of_mem member taken with
      ⟨part, isPart, inPart⟩
    rw [quotedParts, List.mem_append, List.mem_append] at isPart
    rcases isPart with (inTable | isStrength) | isRecommendation
    · rw [tableParts] at inTable
      split_ifs at inTable with both
      · exact Or.inl both
      · exact (List.not_mem_nil inTable).elim
    · exact Or.inr (Or.inl (List.ne_nil_of_mem isStrength))
    · rw [List.mem_singleton.mp isRecommendation] at inPart
      exact
        Or.inr
          (Or.inr
            ((recommendation_ne_nil _).mp (List.ne_nil_of_mem inPart)))
  · rintro (⟨some, ranked⟩ | some | recommends)
    · rcases List.exists_mem_of_ne_nil _ ranked with ⟨ranking, isRanking⟩
      refine shows ?_ (visible_position isRanking)
      rw [quotedParts, tableParts, if_pos ⟨some, ranked⟩]
      refine List.mem_append_left _ (List.mem_append_left _ ?_)
      exact
        List.mem_append_right _
          (List.mem_flatMap.mpr ⟨ranking, isRanking, List.mem_cons_self⟩)
    · rcases List.exists_mem_of_ne_nil _ some with ⟨strength, isStrength⟩
      refine shows ?_ (visible_strength isStrength)
      exact List.mem_append_left _ (List.mem_append_right _ isStrength)
    · refine shows ?_ (visible_recommendation recommends)
      exact List.mem_append_right _ List.mem_cons_self

/-! ## Either format -/

/--
In the plain format something visible besides bullets; in the comparison a
candidate with a reason, a strength, or a recommendation.
-/
def KeepsAnswer (text : List Char) : Prop :=
  if isComparison (foreign text) then
    (NamesCandidate (foreign text) ∧ GivesReason (foreign text)) ∨
      ListsStrength (foreign text) ∨ Recommends (foreign text)
  else
    HasAnswer text

theorem showsAnswer_formatAIResponse (text : List Char) :
    ShowsAnswer (formatAIResponse (foreign text)) ↔ KeepsAnswer text := by
  rw [formatAIResponse, KeepsAnswer]
  split_ifs
  · exact showsAnswer_formatComparisonAsTable text
  · exact showsAnswer_formatPlain text

theorem ShowsAnswer.mono {part text : List Glyph} (subset : part ⊆ text)
    (shows : ShowsAnswer part) : ShowsAnswer text := by
  rcases shows with ⟨glyph, member, isVisible⟩
  exact ⟨glyph, subset member, isVisible⟩

/-- What is visible in the output is outside of its tags. -/
theorem showsAnswer_outsideTags (text : List Char) :
    ShowsAnswer (outsideTags (formatAIResponse (foreign text))) ↔
      ShowsAnswer (formatAIResponse (foreign text)) := by
  constructor
  · exact ShowsAnswer.mono (textFrom_subset none _)
  · rintro ⟨glyph, member, taken, visible⟩
    have outside :=
      mem_outsideTags_of_woven isTag_of_mem_fixedTags
        (woven_formatAIResponse text) member taken
    exact ⟨glyph, outside, taken, visible⟩

/--
Something visible of a response is in its output, outside of the tags of the
formatter, exactly when the response keeps an answer.  A browser shows
nothing visible of any other response, and it does of these when they open no
markup of their own.
-/
theorem showsAnswer_iff (text : List Char) :
    (ShowsAnswer (outsideTags (formatAIResponse (foreign text))) ↔
        KeepsAnswer text) ∧
      (ShowsAnswer (shown (formatAIResponse (foreign text))) →
        KeepsAnswer text) ∧
      (OpensNoMarkup text → KeepsAnswer text →
        ShowsAnswer (shown (formatAIResponse (foreign text)))) := by
  have outside :=
    (showsAnswer_outsideTags text).trans (showsAnswer_formatAIResponse text)
  refine ⟨outside, fun shows => ?_, fun opensNone keeps => ?_⟩
  · have inOutput := shows.mono (textFrom_subset none _)
    exact (showsAnswer_formatAIResponse text).mp inOutput
  · rw [shown_eq_outsideTags isTag_of_mem_fixedTags
      (woven_formatAIResponse text) ((opensNoMarkup_iff text).mp opensNone)]
    exact outside.mpr keeps

/-- A comparison that recommends somebody. -/
def recommendingText : List Char :=
  "1st 2nd Recommendation: A".toList

theorem keepsAnswer_recommendingText :
    isComparison (foreign recommendingText) = true ∧
      KeepsAnswer recommendingText := by
  have compares : isComparison (foreign recommendingText) = true := by
    decide +kernel
  refine ⟨compares, ?_⟩
  rw [KeepsAnswer, if_pos compares]
  exact
    Or.inr
      (Or.inr ((recommendation_ne_nil _).mp (by decide +kernel)))

/-- A sentence and a recommendation without markup are shown. -/
theorem showsAnswer_of_a_sentence :
    (OpensNoMarkup "Well suited.".toList ∧
      KeepsAnswer "Well suited.".toList ∧
        ShowsAnswer
          (shown (formatAIResponse (foreign "Well suited.".toList)))) ∧
      isComparison (foreign recommendingText) = true ∧
        OpensNoMarkup recommendingText ∧
          KeepsAnswer recommendingText ∧
            ShowsAnswer
              (shown (formatAIResponse (foreign recommendingText))) := by
  have opensNone : OpensNoMarkup "Well suited.".toList := by
    rw [opensNoMarkup_iff]
    decide
  have keeps : KeepsAnswer "Well suited.".toList := by
    rw [KeepsAnswer, if_neg (by decide)]
    exact ⟨[], _, _, rfl, by decide, by decide⟩
  have opensNoneEither : OpensNoMarkup recommendingText := by
    rw [opensNoMarkup_iff]
    decide +kernel
  rcases keepsAnswer_recommendingText with ⟨compares, recommends⟩
  exact
    ⟨⟨opensNone, keeps,
        (showsAnswer_iff "Well suited.".toList).2.2 opensNone keeps⟩,
      compares, opensNoneEither, recommends,
      (showsAnswer_iff recommendingText).2.2 opensNoneEither recommends⟩

/-- Two positions and nothing that a pattern knows: an empty wrapper. -/
theorem two_positions_are_swallowed :
    ¬∀ text : List Char, (∃ char ∈ text, isSpace char = false) →
      ShowsAnswer (outsideTags (formatAIResponse (foreign text))) := by
  intro all
  have nothing :
      outsideTags (formatAIResponse (foreign "1st 2nd".toList)) = [] := by
    decide
  have shows := all "1st 2nd".toList ⟨'1', by decide, by decide⟩
  rw [nothing] at shows
  rcases shows with ⟨glyph, member, _⟩
  cases member

end SultanPass.AIAssistant
