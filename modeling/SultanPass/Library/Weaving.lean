import SultanPass.Library.Markup
import SultanPass.Library.Substitution

/-!
# Substitutions in a woven text

A substitution keeps a text woven when no match cuts an own tag in two and
each match is replaced by something woven (`replaceAll_woven`).  What is
observed behind every taken `<` can be followed through a substitution as
well, place by place (`behindOpenings_replaceAll`).
-/

namespace SultanPass.Library.Glyph

open SultanPass.Library.Pattern

variable {fixed : List String} {pattern : Pattern Glyph}
  {template : Match Glyph → List Glyph}

/-! ## Cutting a woven text -/

/-- The characters of the own tags. -/
def InTags (fixed : List String) (char : Char) : Prop :=
  ∃ tag ∈ fixed, char ∈ tag.toList

/-- A part that cannot end inside of an own tag. -/
def CutsCleanly (fixed : List String) (part : List Glyph) : Prop :=
  (∀ glyph ∈ part, glyph.unit ≠ '<') ∨
    ∀ last ∈ part.getLast?, ¬InTags fixed last.unit

theorem mem_own_unit {tag : String} {glyph : Glyph}
    (member : glyph ∈ own tag) : glyph.unit ∈ tag.toList := by
  rcases List.mem_map.mp member with ⟨char, inTag, rfl⟩
  exact inTag

theorem CutsCleanly.tail {glyph : Glyph} {part : List Glyph}
    (clean : CutsCleanly fixed (glyph :: part)) :
    CutsCleanly fixed part := by
  refine clean.imp (fun all => (List.forall_mem_cons.mp all).2) ?_
  intro outside last isLast
  cases part with
  | nil => cases isLast
  | cons next part => exact outside last isLast

theorem CutsCleanly.of_append {tag : String} {part : List Glyph}
    (clean : CutsCleanly fixed (own tag ++ part)) :
    CutsCleanly fixed part := by
  generalize own tag = front at clean
  induction front with
  | nil => exact clean
  | cons glyph front induction => exact induction clean.tail

/-- A part that is cut cleanly and begins a tag goes over it. -/
theorem CutsCleanly.eq_nil_or {tag : String} (isFixed : tag ∈ fixed)
    (isOne : isTag tag.toList = true) {part more : List Glyph}
    (clean : CutsCleanly fixed part) (split : own tag = part ++ more) :
    part = [] := by
  rcases List.eq_nil_or_concat part with empty | ⟨front, last, rfl⟩
  · exact empty
  · rw [List.concat_eq_append] at clean split
    rcases clean with noOpening | outside
    · rcases exists_of_isTag isOne with ⟨char, rest, isText, _⟩
      have first : ownChar '<' ∈ front ++ [last] := by
        rw [own, isText] at split
        cases front with
        | nil =>
            rw [(List.cons.inj split).1]
            exact List.mem_singleton_self last
        | cons glyph front =>
            rw [(List.cons.inj split).1]
            exact List.mem_cons_self
      exact (noOpening _ first rfl).elim
    · have isLast : last ∈ (front ++ [last]).getLast? := by
        rw [List.getLast?_concat]
        rfl
      have inTag : last ∈ own tag := by
        rw [split]
        simp
      exact (outside last isLast ⟨tag, isFixed, mem_own_unit inTag⟩).elim

/-- Both parts of a text that is cut cleanly are woven. -/
theorem woven_split
    (areTags : ∀ tag ∈ fixed, isTag tag.toList = true)
    {part rest : List Glyph} (clean : CutsCleanly fixed part)
    (woven : Woven fixed (part ++ rest)) :
    Woven fixed part ∧ Woven fixed rest := by
  generalize whole : part ++ rest = text at woven
  induction woven generalizing part with
  | nil =>
      rcases List.append_eq_nil_iff.mp whole with ⟨rfl, rfl⟩
      exact ⟨.nil, .nil⟩
  | foreign char later induction =>
      cases part with
      | nil =>
          subst whole
          exact ⟨.nil, .foreign char later⟩
      | cons glyph part =>
          rcases List.cons.inj whole with ⟨rfl, same⟩
          have parts := induction clean.tail same
          exact ⟨.foreign char parts.1, parts.2⟩
  | @text char noTag _ later induction =>
      cases part with
      | nil =>
          subst whole
          exact ⟨.nil, .text noTag later⟩
      | cons glyph part =>
          rcases List.cons.inj whole with ⟨rfl, same⟩
          have parts := induction clean.tail same
          exact ⟨.text noTag parts.1, parts.2⟩
  | @tag tag isFixed _ later induction =>
      rcases List.append_eq_append_iff.mp whole with
        ⟨more, inTag, same⟩ | ⟨more, same, others⟩
      · cases clean.eq_nil_or isFixed (areTags tag isFixed) inTag
        rw [List.nil_append] at inTag
        subst same inTag
        exact ⟨.nil, .tag isFixed later⟩
      · subst same
        have parts := induction clean.of_append others.symm
        exact ⟨.tag isFixed parts.1, parts.2⟩

/-! ## Substitutions -/

/-- Where a pattern does not match, the text is kept. -/
theorem scanFrom_skip {front : List Glyph} {rest before : List Glyph}
    {fuel : ℕ} (enough : (front ++ rest).length < fuel)
    (noMatch :
      ∀ first glyph others, front = first ++ glyph :: others →
        pattern.matchAt (first.reverse ++ before)
          (glyph :: (others ++ rest)) = none) :
    scanFrom pattern fuel before (front ++ rest) =
      front.map .kept ++
        scanFrom pattern (fuel - front.length) (front.reverse ++ before)
          rest := by
  induction front generalizing before fuel with
  | nil => rfl
  | cons glyph front induction =>
      cases fuel with
      | zero => exact (Nat.not_lt_zero _ enough).elim
      | succ fuel =>
          have later :
              ∀ first next others, front = first ++ next :: others →
                pattern.matchAt (first.reverse ++ glyph :: before)
                  (next :: (others ++ rest)) = none := by
            rintro first next others rfl
            have here := noMatch (glyph :: first) next others rfl
            rw [List.reverse_cons, List.append_assoc] at here
            exact here
          have here :
              pattern.matchAt before (glyph :: (front ++ rest)) = none :=
            noMatch [] glyph front rfl
          rw [List.cons_append, scanFrom_of_none here,
            induction (Nat.lt_of_succ_lt_succ enough) later,
            List.length_cons, Nat.succ_sub_succ, List.reverse_cons,
            List.append_assoc]
          rfl

theorem flatMap_kept (template : Match Glyph → List Glyph)
    (text : List Glyph) :
    (text.map Segment.kept).flatMap (Segment.rewrite template) = text := by
  induction text with
  | nil => rfl
  | cons glyph text induction =>
      rw [List.map_cons, List.flatMap_cons, induction]
      rfl

/-- A pattern whose matches stay away from the own tags. -/
structure Respects (fixed : List String) (pattern : Pattern Glyph) :
    Prop where
  /-- Nothing matches within a tag. -/
  skips :
    ∀ before glyph rest, InTags fixed glyph.unit →
      (glyph.unit = '<' ∨
        ∃ previous others,
          before = previous :: others ∧ InTags fixed previous.unit) →
      pattern.matchAt before (glyph :: rest) = none
  /-- A match does not end within a tag. -/
  cuts :
    ∀ before after found, pattern.matchAt before after = some found →
      found.matched ≠ [] ∧ CutsCleanly fixed found.matched

/-- Within an own tag nothing matches. -/
theorem Respects.skips_tag (respects : Respects fixed pattern)
    {tag : String} (isFixed : tag ∈ fixed)
    (isOne : isTag tag.toList = true) (before rest : List Glyph)
    {first others : List Glyph} {glyph : Glyph}
    (split : own tag = first ++ glyph :: others) :
    pattern.matchAt (first.reverse ++ before)
      (glyph :: (others ++ rest)) = none := by
  have inTag {other : Glyph} (member : other ∈ first ++ glyph :: others) :
      InTags fixed other.unit := by
    rw [← split] at member
    exact ⟨tag, isFixed, mem_own_unit member⟩
  refine respects.skips _ _ _ (inTag (by simp)) ?_
  rcases List.eq_nil_or_concat first with rfl | ⟨front, previous, rfl⟩
  · rcases exists_of_isTag isOne with ⟨char, body, isText, _⟩
    rw [own, isText] at split
    rw [← (List.cons.inj split).1]
    exact Or.inl rfl
  · refine Or.inr ⟨previous, front.reverse ++ before, ?_, inTag ?_⟩
    · simp
    · simp

/-- A substitution by woven texts keeps a text woven. -/
theorem replaceAll_woven
    (areTags : ∀ tag ∈ fixed, isTag tag.toList = true)
    (respects : Respects fixed pattern)
    (weaves :
      ∀ found, Woven fixed found.matched → Woven fixed (template found))
    {text : List Glyph} (woven : Woven fixed text) :
    Woven fixed (pattern.replaceAll template text) := by
  have scanned (fuel : ℕ) (before : List Glyph) {after : List Glyph}
      (enough : after.length < fuel) (woven : Woven fixed after) :
      Woven fixed
        ((scanFrom pattern fuel before after).flatMap
          (Segment.rewrite template)) := by
    induction fuel using Nat.strong_induction_on generalizing before after
      with
    | h fuel induction =>
        cases fuel with
        | zero => exact (Nat.not_lt_zero _ enough).elim
        | succ fuel =>
            cases here : pattern.matchAt before after with
            | some found =>
                rcases respects.cuts _ _ _ here with ⟨nonempty, clean⟩
                have split := (matchAt_eq_some here).2
                rw [split] at woven
                rcases woven_split areTags clean woven with
                  ⟨inside, later⟩
                have shorter := length_rest_lt here nonempty enough
                cases after with
                | nil =>
                    cases nonempty (List.append_eq_nil_iff.mp
                      split.symm).1
                | cons glyph rest =>
                    rw [scanFrom_of_some here nonempty,
                      List.flatMap_cons]
                    exact
                      (weaves found inside).append
                        (induction fuel (Nat.lt_succ_self fuel) _ shorter
                          later)
            | none =>
                cases woven with
                | nil =>
                    simp only [scanFrom, here]
                    exact .nil
                | foreign char later =>
                    rw [scanFrom_of_none here, List.flatMap_cons,
                      Segment.rewrite_kept, List.singleton_append]
                    exact
                      .foreign char
                        (induction fuel (Nat.lt_succ_self fuel) _
                          (Nat.lt_of_succ_lt_succ enough) later)
                | text noTag later =>
                    rw [scanFrom_of_none here, List.flatMap_cons,
                      Segment.rewrite_kept, List.singleton_append]
                    exact
                      .text noTag
                        (induction fuel (Nat.lt_succ_self fuel) _
                          (Nat.lt_of_succ_lt_succ enough) later)
                | @tag tag isFixed rest later =>
                    have isOne := areTags tag isFixed
                    have positive : 0 < (own tag).length := by
                      rcases exists_of_isTag isOne with ⟨_, _, isText, _⟩
                      rw [own, isText]
                      exact Nat.succ_pos _
                    rw [scanFrom_skip enough fun _ _ _ =>
                        respects.skips_tag isFixed isOne before rest,
                      List.flatMap_append, flatMap_kept]
                    rw [List.length_append] at enough
                    exact
                      .tag isFixed
                        (induction _ (by omega) _ (by omega) later)
  exact scanned _ [] (Nat.lt_succ_self _) woven

/-! ## What follows a taken opening -/

/--
How an observation behind a taken `<` goes through a substitution.  A place
is `linked` when such a `<` is observed there.
-/
structure Follows {β : Type} (pattern : Pattern Glyph)
    (template : Match Glyph → List Glyph) (linked : List Glyph → Prop)
    (observe observed : List Glyph → β) : Prop where
  nonempty :
    ∀ before after found, pattern.matchAt before after = some found →
      found.matched ≠ []
  begins : ∀ before, linked (foreignChar '<' :: before)
  ends : observed [] = observe []
  kept :
    ∀ before glyph rest out, linked before →
      pattern.matchAt before (glyph :: rest) = none →
      (linked (glyph :: before) → observed out = observe rest) →
      observed (glyph :: out) = observe (glyph :: rest)
  replaced :
    ∀ before after found out,
      pattern.matchAt before after = some found → linked before →
      observed (template found ++ out) = observe after
  within :
    ∀ before after found out,
      pattern.matchAt before after = some found →
      behindOpenings observed out = behindOpenings observe found.rest →
      behindOpenings observed (template found ++ out) =
        behindOpenings observe after

/-- What follows each taken `<` is observed after the substitution. -/
theorem behindOpenings_replaceAll {β : Type}
    {linked : List Glyph → Prop} {observe observed : List Glyph → β}
    (follows : Follows pattern template linked observe observed)
    (text : List Glyph) :
    behindOpenings observed (pattern.replaceAll template text) =
      behindOpenings observe text := by
  refine
    (scan_induction (motive := fun before after parts =>
      (linked before →
        observed (parts.flatMap (Segment.rewrite template)) =
          observe after) ∧
        behindOpenings observed (parts.flatMap (Segment.rewrite template)) =
          behindOpenings observe after)
      ?_ ?_ ?_ ?_ ?_ (Nat.lt_succ_self _)).2
  · exact fun _ => ⟨fun _ => follows.ends, rfl⟩
  · intro before found here
    have split := (matchAt_eq_some here).2
    cases follows.nonempty _ _ _ here (List.append_eq_nil_iff.mp
      split.symm).1
  · intro before glyph rest parts here later
    rw [List.flatMap_cons, Segment.rewrite_kept, List.singleton_append]
    refine
      ⟨fun isLinked => follows.kept _ _ _ _ isLinked here later.1, ?_⟩
    rw [behindOpenings, behindOpenings]
    by_cases opening : glyph = foreignChar '<'
    · subst opening
      rw [if_pos rfl, if_pos rfl, later.2, later.1 (follows.begins before)]
    · rw [if_neg opening, if_neg opening]
      exact later.2
  · intro before glyph rest found parts here nothing _
    cases follows.nonempty _ _ _ here nothing
  · intro before after found parts here _ later
    rw [List.flatMap_cons]
    exact
      ⟨fun isLinked => follows.replaced _ _ _ _ here isLinked,
        follows.within _ _ _ _ here later.2⟩

end SultanPass.Library.Glyph
