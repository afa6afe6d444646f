import Mathlib.Data.List.Basic
import Mathlib.Data.Set.Basic

/-!
# Markup in a text of two origins

A program that puts a text into markup produces a text of two origins: the
characters that it has taken from elsewhere, and its own.  A `Glyph` is a
character with its origin.  `markup` lists what a browser reads as markup in
a text, whatever the origin of its characters.

A text is `Woven` from a list of tags when it consists of taken characters,
of own characters that begin no markup, and of whole own tags of that list.
`markup_of_woven` says when these tags are the only markup in it: no taken
`<` is directly followed by a character that makes it begin some.
-/

namespace SultanPass.Library

/-- A character, and whether it is taken from elsewhere. -/
structure Glyph where
  unit : Char
  taken : Bool
deriving DecidableEq, Repr

namespace Glyph

/-- An own character. -/
def ownChar (char : Char) : Glyph where
  unit := char
  taken := false

/-- A character from elsewhere. -/
def foreignChar (char : Char) : Glyph where
  unit := char
  taken := true

/-- An own text. -/
def own (text : String) : List Glyph :=
  text.toList.map ownChar

/-- A text from elsewhere. -/
def foreign (text : List Char) : List Glyph :=
  text.map foreignChar

/-- Own tags. -/
def tags (texts : List String) : List Glyph :=
  texts.flatMap own

/-! ## What a browser reads as markup -/

/-- The characters that make a `<` before them begin markup. -/
def beginsMarkup (char : Char) : Bool :=
  char.isAlpha || char = '/' || char = '!' || char = '?'

/-- A `<` in front of the text begins markup. -/
def opens : List Glyph → Bool
  | [] => false
  | glyph :: _ => beginsMarkup glyph.unit

/-- Where the reader of a piece of markup is. -/
inductive MarkupMode where
  | inTag
  /-- Behind an equals sign, where a quote begins a quoted value. -/
  | inValue
  | inQuotes (mark : Char)
  | inDeclaration
  /-- In a comment, behind a number of dashes. -/
  | inComment (dashes : ℕ)
deriving DecidableEq, Repr

/-- Where the reader is after a character, unless the markup ends. -/
def MarkupMode.next : MarkupMode → Char → Option MarkupMode
  | .inTag, char =>
      if char = '>' then none
      else if char = '=' then some .inValue
      else some .inTag
  | .inValue, char =>
      if char = '>' then none
      else if char = '"' ∨ char = '\'' then some (.inQuotes char)
      else if char.isWhitespace then some .inValue
      else some .inTag
  | .inQuotes mark, char =>
      if char = mark then some .inTag else some (.inQuotes mark)
  | .inDeclaration, char =>
      if char = '>' then none else some .inDeclaration
  | .inComment dashes, char =>
      if char = '>' ∧ 2 ≤ dashes then none
      else if char = '-' then some (.inComment (dashes + 1))
      else some (.inComment 0)

/-- How the markup begins that a `<` opens in front of a text. -/
def MarkupMode.start (text : List Glyph) : MarkupMode :=
  match text.map Glyph.unit with
  | '!' :: '-' :: '-' :: _ => .inComment 0
  | '!' :: _ => .inDeclaration
  | '?' :: _ => .inDeclaration
  | _ => .inTag

/-- The rest of a piece of markup that is being read, and the next ones. -/
def markupFrom :
    Option (MarkupMode × List Glyph) → List Glyph → List (List Glyph)
  | none, [] => []
  | some (_, piece), [] => [piece]
  | none, glyph :: rest =>
      if glyph.unit = '<' ∧ opens rest then
        markupFrom (some (.start rest, [glyph])) rest
      else
        markupFrom none rest
  | some (mode, piece), glyph :: rest =>
      match mode.next glyph.unit with
      | none => (piece ++ [glyph]) :: markupFrom none rest
      | some mode => markupFrom (some (mode, piece ++ [glyph])) rest

/-- The pieces of markup in a text; the last one may be unfinished. -/
def markup (text : List Glyph) : List (List Glyph) :=
  markupFrom none text

/-! ## Own tags -/

/-- The markup ends with the last character. -/
def closes : MarkupMode → List Char → Bool
  | _, [] => false
  | mode, char :: rest =>
      match mode.next char with
      | none => rest.isEmpty
      | some mode => closes mode rest

/-- A tag: `<`, a letter or a slash, and what belongs to it. -/
def isTag : List Char → Bool
  | '<' :: char :: rest =>
      (char.isAlpha || char = '/') && closes .inTag (char :: rest)
  | _ => false

theorem markupFrom_closes {mode : MarkupMode} {text : List Char}
    (ends : closes mode text = true) (piece rest : List Glyph) :
    markupFrom (some (mode, piece)) (text.map ownChar ++ rest) =
      (piece ++ text.map ownChar) :: markupFrom none rest := by
  induction text generalizing mode piece with
  | nil => cases ends
  | cons char text induction =>
      rw [closes] at ends
      rw [List.map_cons, List.cons_append, markupFrom]
      cases next : mode.next char with
      | none =>
          simp only [next, List.isEmpty_iff] at ends
          simp [ownChar, next, ends]
      | some mode =>
          simp only [next] at ends
          have reads := induction ends (piece ++ [ownChar char])
          rw [List.append_assoc, List.singleton_append] at reads
          simpa [ownChar, next] using reads

theorem exists_of_isTag {tag : List Char} (isOne : isTag tag = true) :
    ∃ char rest,
      tag = '<' :: char :: rest ∧
        (char.isAlpha || char = '/') = true ∧
        closes .inTag (char :: rest) = true := by
  unfold isTag at isOne
  split at isOne
  · rw [Bool.and_eq_true] at isOne
    exact ⟨_, _, rfl, isOne⟩
  · cases isOne

theorem start_of_first {char : Char}
    (first : (char.isAlpha || char = '/') = true) (rest : List Glyph) :
    MarkupMode.start (ownChar char :: rest) = .inTag := by
  rw [MarkupMode.start]
  split <;> rename_i same
  · cases (List.cons.inj same).1
    cases first
  · cases (List.cons.inj same).1
    cases first
  · cases (List.cons.inj same).1
    cases first
  · rfl

/-- An own tag is read as one piece of markup. -/
theorem markupFrom_own_tag {tag : String}
    (isOne : isTag tag.toList = true) (rest : List Glyph) :
    markupFrom none (own tag ++ rest) = own tag :: markupFrom none rest := by
  rcases exists_of_isTag isOne with ⟨char, body, split, first, ends⟩
  have begins : beginsMarkup char = true := by
    rw [beginsMarkup, first]
    rfl
  rw [own, split, List.map_cons, List.map_cons, List.cons_append,
    List.cons_append, markupFrom, if_pos ⟨rfl, begins⟩,
    start_of_first first]
  exact markupFrom_closes ends [ownChar '<'] rest

/-! ## Woven texts -/

/-- Taken characters, own characters without `<`, and own tags. -/
inductive Woven (fixed : List String) : List Glyph → Prop where
  | nil : Woven fixed []
  | foreign (char : Char) {rest : List Glyph} (later : Woven fixed rest) :
      Woven fixed (foreignChar char :: rest)
  | text {char : Char} (noTag : char ≠ '<') {rest : List Glyph}
      (later : Woven fixed rest) : Woven fixed (ownChar char :: rest)
  | tag {tag : String} (isFixed : tag ∈ fixed) {rest : List Glyph}
      (later : Woven fixed rest) : Woven fixed (own tag ++ rest)

namespace Woven

variable {fixed : List String}

theorem append {left right : List Glyph} (first : Woven fixed left)
    (second : Woven fixed right) : Woven fixed (left ++ right) := by
  induction first with
  | nil => exact second
  | foreign char _ induction => exact .foreign char induction
  | text noTag _ induction => exact .text noTag induction
  | tag isFixed _ induction =>
      rw [List.append_assoc]
      exact .tag isFixed induction

theorem mono {others : List String} (subset : fixed ⊆ others)
    {text : List Glyph} (woven : Woven fixed text) : Woven others text := by
  induction woven with
  | nil => exact .nil
  | foreign char _ induction => exact .foreign char induction
  | text noTag _ induction => exact .text noTag induction
  | tag isFixed _ induction => exact .tag (subset isFixed) induction

/-- A text whose own characters begin no tag. -/
theorem of_mixed {text : List Glyph}
    (mixed : ∀ glyph ∈ text, glyph.taken = false → glyph.unit ≠ '<') :
    Woven fixed text := by
  induction text with
  | nil => exact .nil
  | cons glyph text induction =>
      rw [List.forall_mem_cons] at mixed
      rcases glyph with ⟨char, taken⟩
      cases taken with
      | true => exact .foreign char (induction mixed.2)
      | false => exact .text (mixed.1 rfl) (induction mixed.2)

theorem flatMap {α : Type} {block : α → List Glyph} {items : List α}
    (each : ∀ item ∈ items, Woven fixed (block item)) :
    Woven fixed (items.flatMap block) := by
  induction items with
  | nil => exact .nil
  | cons item items induction =>
      rw [List.forall_mem_cons] at each
      rw [List.flatMap_cons]
      exact each.1.append (induction each.2)

theorem of_foreign (text : List Char) :
    Woven fixed (Glyph.foreign text) := by
  induction text with
  | nil => exact .nil
  | cons char text induction => exact .foreign char induction

theorem of_own {text : String} (noTag : '<' ∉ text.toList) :
    Woven fixed (own text) := by
  rw [own]
  generalize text.toList = chars at noTag ⊢
  induction chars with
  | nil => exact .nil
  | cons char chars induction =>
      rw [List.mem_cons, not_or] at noTag
      exact .text (Ne.symm noTag.1) (induction noTag.2)

theorem of_tags {texts : List String} (areFixed : texts ⊆ fixed) :
    Woven fixed (tags texts) := by
  induction texts with
  | nil => exact .nil
  | cons tag texts induction =>
      rw [List.cons_subset] at areFixed
      exact .tag areFixed.1 (induction areFixed.2)

end Woven

/-! ## What follows a taken opening -/

/-- What is observed behind every taken `<`. -/
def behindOpenings {β : Type} (observe : List Glyph → β) :
    List Glyph → List β
  | [] => []
  | glyph :: rest =>
      if glyph = foreignChar '<' then
        observe rest :: behindOpenings observe rest
      else
        behindOpenings observe rest

theorem behindOpenings_own {β : Type} (observe : List Glyph → β)
    (text : List Char) (rest : List Glyph) :
    behindOpenings observe (text.map ownChar ++ rest) =
      behindOpenings observe rest := by
  induction text with
  | nil => rfl
  | cons char text induction =>
      rw [List.map_cons, List.cons_append, behindOpenings,
        if_neg (by simp [ownChar, foreignChar])]
      exact induction

theorem mem_behindOpenings {β : Type} {observe : List Glyph → β}
    {seen : β} {text : List Glyph} :
    seen ∈ behindOpenings observe text ↔
      ∃ before after,
        text = before ++ foreignChar '<' :: after ∧ observe after = seen := by
  induction text with
  | nil =>
      refine iff_of_false List.not_mem_nil ?_
      rintro ⟨before, after, split, _⟩
      exact
        List.append_ne_nil_of_right_ne_nil before (List.cons_ne_nil _ _)
          split.symm
  | cons glyph rest induction =>
      have later :
          (∃ before after,
            rest = before ++ foreignChar '<' :: after ∧
              observe after = seen) →
            ∃ before after,
              glyph :: rest = before ++ foreignChar '<' :: after ∧
                observe after = seen := by
        rintro ⟨before, after, split, isSeen⟩
        exact ⟨glyph :: before, after, congrArg _ split, isSeen⟩
      rw [behindOpenings]
      split_ifs with opening
      · rw [List.mem_cons, induction]
        constructor
        · rintro (rfl | there)
          · exact ⟨[], rest, congrArg (· :: rest) opening, rfl⟩
          · exact later there
        · rintro ⟨before, after, split, isSeen⟩
          cases before with
          | nil =>
              rw [(List.cons.inj split).2]
              exact Or.inl isSeen.symm
          | cons first before =>
              exact
                Or.inr ⟨before, after, (List.cons.inj split).2, isSeen⟩
      · rw [induction]
        refine ⟨later, ?_⟩
        rintro ⟨before, after, split, isSeen⟩
        cases before with
        | nil => exact (opening (List.cons.inj split).1).elim
        | cons first before =>
            exact ⟨before, after, (List.cons.inj split).2, isSeen⟩

/-- A piece of markup begins with what has opened it. -/
theorem markupFrom_some (mode : MarkupMode) (piece text : List Glyph) :
    ∃ more others,
      markupFrom (some (mode, piece)) text = (piece ++ more) :: others := by
  induction text generalizing mode piece with
  | nil => exact ⟨[], [], by rw [List.append_nil]; rfl⟩
  | cons glyph rest induction =>
      rw [markupFrom]
      cases mode.next glyph.unit with
      | none => exact ⟨[glyph], _, rfl⟩
      | some mode =>
          rcases induction mode (piece ++ [glyph]) with
            ⟨more, others, same⟩
          refine ⟨glyph :: more, others, ?_⟩
          rw [List.append_assoc] at same
          exact same

/--
The own tags are the only markup of a woven text if and only if no taken `<`
begins any.
-/
theorem markup_of_woven {fixed : List String}
    (areTags : ∀ tag ∈ fixed, isTag tag.toList = true)
    {text : List Glyph} (woven : Woven fixed text) :
    (∀ piece ∈ markup text, ∃ tag ∈ fixed, piece = own tag) ↔
      true ∉ behindOpenings opens text := by
  rw [markup]
  induction woven with
  | nil => exact iff_of_true nofun List.not_mem_nil
  | @foreign char rest _ induction =>
      by_cases opening : char = '<'
      · subst opening
        rw [behindOpenings, if_pos rfl, markupFrom]
        cases begins : opens rest with
        | true =>
            rw [if_pos ⟨rfl, rfl⟩]
            rcases markupFrom_some (.start rest) [foreignChar '<'] rest
              with ⟨more, others, same⟩
            rw [same]
            refine iff_of_false (fun all => ?_) fun absent =>
              absent List.mem_cons_self
            rcases all _ List.mem_cons_self with ⟨tag, _, piece⟩
            have member : foreignChar '<' ∈ own tag := by
              rw [← piece]
              exact List.mem_cons_self
            rcases List.mem_map.mp member with ⟨char, _, isOwn⟩
            cases isOwn
        | false =>
            rw [if_neg fun both => Bool.false_ne_true both.2,
              List.mem_cons, or_iff_right Bool.true_eq_false.mp]
            exact induction
      · have notOpening : foreignChar char ≠ foreignChar '<' := by
          simpa [foreignChar] using opening
        rw [behindOpenings, if_neg notOpening, markupFrom,
          if_neg fun both => opening both.1]
        exact induction
  | @text char noTag rest _ induction =>
      have notTaken : ownChar char ≠ foreignChar '<' := by
        simp [ownChar, foreignChar]
      rw [behindOpenings, if_neg notTaken, markupFrom,
        if_neg fun both => noTag both.1]
      exact induction
  | @tag tag isFixed rest _ induction =>
      rw [markupFrom_own_tag (areTags tag isFixed), own,
        behindOpenings_own, List.forall_mem_cons]
      exact (and_iff_right ⟨tag, isFixed, rfl⟩).trans induction

/-! ## Text outside of markup -/

/-- The text outside of the markup that begins where `begins` says. -/
def textFrom (begins : Glyph → List Glyph → Bool) :
    Option MarkupMode → List Glyph → List Glyph
  | _, [] => []
  | none, glyph :: rest =>
      if begins glyph rest then textFrom begins (some (.start rest)) rest
      else glyph :: textFrom begins none rest
  | some mode, glyph :: rest =>
      textFrom begins (mode.next glyph.unit) rest

/-- The text outside of the own tags. -/
def outsideTags (text : List Glyph) : List Glyph :=
  textFrom (fun glyph _ => glyph = ownChar '<') none text

/-- The text that a browser shows. -/
def shown (text : List Glyph) : List Glyph :=
  textFrom (fun glyph rest => glyph.unit = '<' && opens rest) none text

variable {begins : Glyph → List Glyph → Bool}

theorem textFrom_subset (mode : Option MarkupMode) (text : List Glyph) :
    textFrom begins mode text ⊆ text := by
  induction text generalizing mode with
  | nil => cases mode <;> exact List.Subset.refl []
  | cons glyph rest induction =>
      cases mode with
      | none =>
          rw [textFrom]
          split_ifs
          · exact List.subset_cons_of_subset glyph (induction _)
          · exact List.cons_subset_cons glyph (induction none)
      | some mode => exact List.subset_cons_of_subset glyph (induction _)

theorem textFrom_closes {mode : MarkupMode} {text : List Char}
    (ends : closes mode text = true) (rest : List Glyph) :
    textFrom begins (some mode) (text.map ownChar ++ rest) =
      textFrom begins none rest := by
  induction text generalizing mode with
  | nil => cases ends
  | cons char text induction =>
      rw [closes] at ends
      rw [List.map_cons, List.cons_append, textFrom]
      cases next : mode.next char with
      | none =>
          simp only [next, List.isEmpty_iff] at ends
          simp [ownChar, next, ends]
      | some mode =>
          simp only [next] at ends
          simpa [ownChar, next] using induction ends

/-- A reading that sees the beginnings of own tags. -/
def SeesTags (begins : Glyph → List Glyph → Bool) : Prop :=
  ∀ char rest, (char.isAlpha || char = '/') = true →
    begins (ownChar '<') (ownChar char :: rest) = true

/-- An own tag is no text. -/
theorem textFrom_own_tag (sees : SeesTags begins) {tag : String}
    (isOne : isTag tag.toList = true) (rest : List Glyph) :
    textFrom begins none (own tag ++ rest) = textFrom begins none rest := by
  rcases exists_of_isTag isOne with ⟨char, body, split, first, ends⟩
  rw [own, split, List.map_cons, List.cons_append, textFrom,
    List.map_cons, List.cons_append, if_pos (sees char _ first),
    start_of_first first, ← List.cons_append, ← List.map_cons,
    textFrom_closes ends]

theorem outsideTags_own_tag {tag : String}
    (isOne : isTag tag.toList = true) (rest : List Glyph) :
    outsideTags (own tag ++ rest) = outsideTags rest :=
  textFrom_own_tag (fun _ _ _ => rfl) isOne rest

theorem shown_own_tag {tag : String} (isOne : isTag tag.toList = true)
    (rest : List Glyph) : shown (own tag ++ rest) = shown rest := by
  refine textFrom_own_tag (fun char _ first => ?_) isOne rest
  show (true && beginsMarkup char) = true
  rw [beginsMarkup, first]
  rfl

theorem outsideTags_cons {glyph : Glyph} (noTag : glyph ≠ ownChar '<')
    (rest : List Glyph) :
    outsideTags (glyph :: rest) = glyph :: outsideTags rest := by
  rw [outsideTags, textFrom, if_neg]
  · rfl
  · rw [decide_eq_true_eq]
    exact noTag

theorem shown_cons {glyph : Glyph} {rest : List Glyph}
    (noMarkup : glyph.unit = '<' → opens rest = false) :
    shown (glyph :: rest) = glyph :: shown rest := by
  rw [shown, textFrom, if_neg]
  · rfl
  · rw [Bool.and_eq_true, decide_eq_true_eq]
    rintro ⟨opening, begins⟩
    rw [noMarkup opening] at begins
    cases begins

/-- In a woven text everything that is taken is outside of the tags. -/
theorem mem_outsideTags_of_woven {fixed : List String}
    (areTags : ∀ tag ∈ fixed, isTag tag.toList = true)
    {text : List Glyph} (woven : Woven fixed text) {glyph : Glyph}
    (member : glyph ∈ text) (taken : glyph.taken = true) :
    glyph ∈ outsideTags text := by
  induction woven with
  | nil => cases member
  | foreign char _ induction =>
      rw [outsideTags_cons (by simp [ownChar, foreignChar]), List.mem_cons]
      exact (List.mem_cons.mp member).imp_right induction
  | @text char noTag _ _ induction =>
      rw [outsideTags_cons (by simpa [ownChar] using noTag), List.mem_cons]
      exact (List.mem_cons.mp member).imp_right induction
  | tag isFixed _ induction =>
      rw [outsideTags_own_tag (areTags _ isFixed)]
      rcases List.mem_append.mp member with inTag | later
      · rcases List.mem_map.mp inTag with ⟨_, _, rfl⟩
        cases taken
      · exact induction later

/-- Where no taken `<` begins markup, a browser shows all of this. -/
theorem shown_eq_outsideTags {fixed : List String}
    (areTags : ∀ tag ∈ fixed, isTag tag.toList = true)
    {text : List Glyph} (woven : Woven fixed text)
    (noOpening : true ∉ behindOpenings opens text) :
    shown text = outsideTags text := by
  induction woven with
  | nil => rfl
  | @foreign char rest _ induction =>
      rw [behindOpenings] at noOpening
      have later : true ∉ behindOpenings opens rest := by
        split_ifs at noOpening
        · exact fun inRest => noOpening (List.mem_cons_of_mem _ inRest)
        · exact noOpening
      rw [outsideTags_cons (by simp [ownChar, foreignChar]), shown_cons,
        induction later]
      rintro rfl
      rw [if_pos rfl, List.mem_cons, not_or] at noOpening
      exact Bool.eq_false_iff.mpr (Ne.symm noOpening.1)
  | @text char noTag rest _ induction =>
      have notTaken : ownChar char ≠ foreignChar '<' := by
        simp [ownChar, foreignChar]
      rw [behindOpenings, if_neg notTaken] at noOpening
      rw [outsideTags_cons (by simpa [ownChar] using noTag),
        shown_cons fun opening => (noTag opening).elim,
        induction noOpening]
  | @tag tag isFixed rest _ induction =>
      rw [own, behindOpenings_own] at noOpening
      rw [shown_own_tag (areTags _ isFixed),
        outsideTags_own_tag (areTags _ isFixed), induction noOpening]

end Glyph

end SultanPass.Library
