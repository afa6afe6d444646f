import SultanPass.Library.Markup

/-!
# Blocks of markup that quote parts

A block of markup is built from own tags, own text and quoted parts, with a
tag behind every part.  It is woven when its parts are (`Quoting.woven`), and
what a taken `<` in it begins is decided within its part
(`Quoting.behindOpenings_eq`).
-/

namespace SultanPass.Library.Glyph

/-- A block of markup, and the parts that it quotes. -/
inductive Quoting (fixed : List String) :
    List Glyph → List (List Glyph) → Prop where
  | nil : Quoting fixed [] []
  | tags {texts : List String} (areFixed : texts ⊆ fixed)
      {block : List Glyph} {parts : List (List Glyph)}
      (later : Quoting fixed block parts) :
      Quoting fixed (tags texts ++ block) parts
  | own {text : String} (noTag : '<' ∉ text.toList)
      {block : List Glyph} {parts : List (List Glyph)}
      (later : Quoting fixed block parts) :
      Quoting fixed (own text ++ block) parts
  | quote (part : List Glyph) {tag : String} (isFixed : tag ∈ fixed)
      {block : List Glyph} {parts : List (List Glyph)}
      (later : Quoting fixed block parts) :
      Quoting fixed (part ++ (own tag ++ block)) (part :: parts)

namespace Quoting

variable {fixed : List String} {block left right : List Glyph}
  {parts first second : List (List Glyph)}

theorem append (quotesLeft : Quoting fixed left first)
    (quotesRight : Quoting fixed right second) :
    Quoting fixed (left ++ right) (first ++ second) := by
  induction quotesLeft with
  | nil => exact quotesRight
  | tags areFixed _ induction =>
      rw [List.append_assoc]
      exact .tags areFixed induction
  | own noTag _ induction =>
      rw [List.append_assoc]
      exact .own noTag induction
  | quote part isFixed _ induction =>
      rw [List.append_assoc, List.append_assoc]
      exact .quote part isFixed induction

theorem flatMap {α : Type} {block : α → List Glyph}
    {parts : α → List (List Glyph)}
    (each : ∀ item, Quoting fixed (block item) (parts item))
    (items : List α) :
    Quoting fixed (items.flatMap block) (items.flatMap parts) := by
  induction items with
  | nil => exact .nil
  | cons item items induction => exact (each item).append induction

theorem of_tags {texts : List String} (areFixed : texts ⊆ fixed) :
    Quoting fixed (Glyph.tags texts) [] := by
  rw [← List.append_nil (Glyph.tags texts)]
  exact .tags areFixed .nil

/-- A part in front of several tags. -/
theorem quote_tags (part : List Glyph) {tag : String}
    {others : List String} (areFixed : tag :: others ⊆ fixed)
    (later : Quoting fixed block parts) :
    Quoting fixed (part ++ (Glyph.tags (tag :: others) ++ block))
      (part :: parts) := by
  rw [List.cons_subset] at areFixed
  rw [Glyph.tags, List.flatMap_cons, List.append_assoc]
  exact .quote part areFixed.1 (.tags areFixed.2 later)

theorem quote_last (part : List Glyph) {tag : String}
    {others : List String} (areFixed : tag :: others ⊆ fixed) :
    Quoting fixed (part ++ Glyph.tags (tag :: others)) [part] := by
  rw [← List.append_nil (Glyph.tags _)]
  exact quote_tags part areFixed .nil

/-- A block is woven when its parts are. -/
theorem woven (quoting : Quoting fixed block parts)
    (each : ∀ part ∈ parts, Woven fixed part) : Woven fixed block := by
  induction quoting with
  | nil => exact .nil
  | tags areFixed _ induction =>
      exact (Woven.of_tags areFixed).append (induction each)
  | own noTag _ induction =>
      exact (Woven.of_own noTag).append (induction each)
  | quote part isFixed _ induction =>
      rw [List.forall_mem_cons] at each
      exact each.1.append (.tag isFixed (induction each.2))

/-- Every part is in the block. -/
theorem mem_of_mem_part (quoting : Quoting fixed block parts)
    {part : List Glyph} (isPart : part ∈ parts) : part ⊆ block := by
  induction quoting with
  | nil => cases isPart
  | tags _ _ induction =>
      exact List.subset_append_of_subset_right _ (induction isPart)
  | own _ _ induction =>
      exact List.subset_append_of_subset_right _ (induction isPart)
  | quote first _ _ induction =>
      rcases List.mem_cons.mp isPart with rfl | later
      · exact List.subset_append_left _ _
      · exact
          List.subset_append_of_subset_right _
            (List.subset_append_of_subset_right _ (induction later))

/-- What is taken in a block is taken in one of its parts. -/
theorem exists_part_of_mem (quoting : Quoting fixed block parts)
    {glyph : Glyph} (member : glyph ∈ block) (taken : glyph.taken = true) :
    ∃ part ∈ parts, glyph ∈ part := by
  have notOwn {text : String} (isOwn : glyph ∈ Glyph.own text) : False := by
    rcases List.mem_map.mp isOwn with ⟨_, _, rfl⟩
    cases taken
  induction quoting with
  | nil => cases member
  | tags _ _ induction =>
      rcases List.mem_append.mp member with inTags | later
      · rcases List.mem_flatMap.mp inTags with ⟨_, _, isOwn⟩
        exact (notOwn isOwn).elim
      · exact induction later
  | own _ _ induction =>
      rcases List.mem_append.mp member with isOwn | later
      · exact (notOwn isOwn).elim
      · exact induction later
  | quote part _ _ induction =>
      rw [List.mem_append, List.mem_append] at member
      rcases member with inPart | isOwn | later
      · exact ⟨part, List.mem_cons_self, inPart⟩
      · exact (notOwn isOwn).elim
      · rcases induction later with ⟨other, isPart, inPart⟩
        exact ⟨other, List.mem_cons_of_mem part isPart, inPart⟩

end Quoting

/-! ## Markup in a block -/

theorem behindOpenings_tags {β : Type} (observe : List Glyph → β)
    (texts : List String) (rest : List Glyph) :
    behindOpenings observe (tags texts ++ rest) =
      behindOpenings observe rest := by
  induction texts with
  | nil => rfl
  | cons text texts induction =>
      rw [tags, List.flatMap_cons, List.append_assoc, own,
        behindOpenings_own]
      exact induction

/-- A tag keeps what is behind it apart from an opening. -/
theorem behindOpenings_tag {tag : String}
    (isOne : isTag tag.toList = true) (part rest : List Glyph) :
    behindOpenings opens (part ++ (own tag ++ rest)) =
      behindOpenings opens part ++ behindOpenings opens rest := by
  have apart (part : List Glyph) :
      opens (part ++ (own tag ++ rest)) = opens part := by
    cases part with
    | nil =>
        rcases exists_of_isTag isOne with ⟨_, _, split, _⟩
        rw [own, split]
        rfl
    | cons glyph part => rfl
  induction part with
  | nil => exact behindOpenings_own opens tag.toList rest
  | cons glyph part induction =>
      rw [List.cons_append, behindOpenings, behindOpenings, induction,
        apart]
      split_ifs <;> rfl

namespace Quoting

variable {fixed : List String} {block : List Glyph}
  {parts : List (List Glyph)}

/-- The openings in a block are those of its parts. -/
theorem behindOpenings_eq
    (areTags : ∀ tag ∈ fixed, isTag tag.toList = true)
    (quoting : Quoting fixed block parts) :
    behindOpenings opens block = parts.flatMap (behindOpenings opens) := by
  induction quoting with
  | nil => rfl
  | tags _ _ induction =>
      rw [behindOpenings_tags]
      exact induction
  | own _ _ induction =>
      rw [Glyph.own, behindOpenings_own]
      exact induction
  | quote part isFixed _ induction =>
      rw [behindOpenings_tag (areTags _ isFixed), induction,
        List.flatMap_cons]

end Quoting

end SultanPass.Library.Glyph
