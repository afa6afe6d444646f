import SultanPass.Library.Pattern

/-!
# What a substitution keeps

The matches of a scan and the characters between them make up the text
(`replaceAll_matched`).  A substitution therefore keeps a character when it
is put back from its match (`mem_replaceAll`), or when no match goes over its
place (`kept_mem_scan`).
-/

namespace SultanPass.Library.Pattern

variable {α : Type} {pattern : Pattern α}
  {template : Match α → List α} {text before after : List α}
  {char : α}

/-! ## The parts of a scan -/

/-- Matches that are put back leave the text as it is. -/
theorem replaceAll_matched (pattern : Pattern α) (text : List α) :
    pattern.replaceAll Match.matched text = text := by
  refine
    scan_induction (motive := fun _ after parts =>
      parts.flatMap (Segment.rewrite Match.matched) = after)
      ?_ ?_ ?_ ?_ ?_ (Nat.lt_succ_self _)
  · exact fun _ => rfl
  · intro before found here
    have split := (matchAt_eq_some here).2
    show found.matched ++ [] = []
    rw [(List.append_eq_nil_iff.mp split.symm).1]
    rfl
  · intro before char rest parts _ later
    rw [List.flatMap_cons, later]
    rfl
  · intro before char rest found parts _ nothing later
    rw [List.flatMap_cons, List.flatMap_cons, later]
    show found.matched ++ char :: rest = char :: rest
    rw [nothing]
    rfl
  · intro before after found parts here _ later
    rw [List.flatMap_cons, later, (matchAt_eq_some here).2]
    rfl

/-- A text without matches stays as it is. -/
theorem replaceAll_of_no_match
    (noMatch :
      ∀ skipped rest, text = skipped ++ rest →
        pattern.matchAt skipped.reverse rest = none) :
    pattern.replaceAll template text = text := by
  have same :
      pattern.replaceAll template text =
        pattern.replaceAll Match.matched text := by
    refine List.flatMap_congr fun segment inScan => ?_
    cases segment with
    | kept char => rfl
    | found result =>
        rcases mem_scan inScan with ⟨skipped, rest, split, here⟩
        rw [noMatch skipped rest split] at here
        cases here
  rw [same, replaceAll_matched]

/-- A character that is put back from its match is kept. -/
theorem mem_replaceAll
    (putBack :
      ∀ before after found, pattern.matchAt before after = some found →
        char ∈ found.matched → char ∈ template found)
    (member : char ∈ text) : char ∈ pattern.replaceAll template text := by
  rw [← replaceAll_matched pattern text] at member
  rcases List.mem_flatMap.mp member with ⟨segment, inScan, inPart⟩
  refine List.mem_flatMap.mpr ⟨segment, inScan, ?_⟩
  cases segment with
  | kept other => exact inPart
  | found result =>
      rcases mem_scan inScan with ⟨skipped, rest, _, here⟩
      exact putBack _ _ result here inPart

/-- A character that is brought in from matches only is from the text. -/
theorem mem_of_mem_replaceAll
    (fromMatch : ∀ found, char ∈ template found → char ∈ found.matched)
    (member : char ∈ pattern.replaceAll template text) : char ∈ text := by
  rw [← replaceAll_matched pattern text]
  rcases List.mem_flatMap.mp member with ⟨segment, inScan, inPart⟩
  refine List.mem_flatMap.mpr ⟨segment, inScan, ?_⟩
  cases segment with
  | kept other => exact inPart
  | found result => exact fromMatch result inPart

/-! ## Characters between the matches -/

/-- No match that begins in `front` goes over what follows it. -/
def Apart (pattern : Pattern α) (before front rest : List α) : Prop :=
  ∀ first others found, front = first ++ others →
    pattern.matchAt (first.reverse ++ before) (others ++ rest) =
      some found →
    found.matched.length ≤ others.length

theorem Apart.shift {first others rest : List α}
    (apart : Apart pattern before (first ++ others) rest) :
    Apart pattern (first.reverse ++ before) others rest := by
  rintro inner later found rfl here
  refine apart (first ++ inner) later found ?_ ?_
  · rw [List.append_assoc]
  · rw [List.reverse_append, List.append_assoc]
    exact here

/-- One character further, the place of the character is the same. -/
theorem kept_mem_cons {next : α} {others front rest : List α}
    {parts : List (Segment α)}
    (later : ∀ front, others = front ++ char :: rest →
      Apart pattern (next :: before) front (char :: rest) →
        .kept char ∈ parts)
    (split : next :: others = front ++ char :: rest)
    (apart : Apart pattern before front (char :: rest)) :
    .kept char ∈ .kept next :: parts := by
  cases front with
  | nil =>
      rw [(List.cons.inj split).1]
      exact List.mem_cons_self
  | cons first front =>
      rcases List.cons.inj split with ⟨rfl, rfl⟩
      exact
        List.mem_cons_of_mem _
          (later front rfl (@Apart.shift _ _ _ [next] front _ apart))

/-- A character is kept when no match goes over its place. -/
theorem kept_mem_scan {front rest : List α}
    (apart : Apart pattern [] front (char :: rest)) :
    .kept char ∈ scan pattern (front ++ char :: rest) := by
  refine
    scan_induction (motive := fun before after parts =>
      ∀ front, after = front ++ char :: rest →
        Apart pattern before front (char :: rest) → .kept char ∈ parts)
      ?_ ?_ ?_ ?_ ?_ (Nat.lt_succ_self _) front rfl apart
  · intro before front split
    exact
      (List.append_ne_nil_of_right_ne_nil front (List.cons_ne_nil _ _)
        split.symm).elim
  · intro before found _ front split
    exact
      (List.append_ne_nil_of_right_ne_nil front (List.cons_ne_nil _ _)
        split.symm).elim
  · intro before next others parts _ later front split apart
    exact kept_mem_cons later split apart
  · intro before next others found parts _ _ later front split apart
    exact
      List.mem_cons_of_mem _ (kept_mem_cons later split apart)
  · rintro before _ found parts here _ later front rfl apart
    have short := apart [] front found rfl here
    have split := (matchAt_eq_some here).2
    rcases
      List.prefix_of_prefix_length_le ⟨_, split.symm⟩ ⟨_, rfl⟩ short with
      ⟨others, rfl⟩
    rw [List.append_assoc] at split
    exact
      List.mem_cons_of_mem _
        (later others (List.append_cancel_left split).symm apart.shift)

end SultanPass.Library.Pattern
