import SultanPass.AIResponse
import SultanPass.Library.Substitution

/-!
# What the comparison table quotes

`formatComparisonAsTable` shows nothing of a response but the parts that its
patterns capture, trimmed, with spaces for line ends, and cut to a length.
`quotedParts` lists those that come into the output.  A part consists of
characters of the response and of own characters that begin no tag
(`quotes_of_mem_quotedParts`), so the output is woven from them and the tags.
-/

namespace SultanPass.AIAssistant

open SultanPass.Library
open SultanPass.Library.Pattern
open SultanPass.Library.Glyph

/-! ## Quoting -/

/-- A part consists of characters of a text and own ones without `<`. -/
def Quotes (text part : List Glyph) : Prop :=
  ∀ glyph ∈ part,
    glyph ∈ text ∨ glyph.taken = false ∧ glyph.unit ≠ '<'

theorem Quotes.of_subset {text part : List Glyph} (subset : part ⊆ text) :
    Quotes text part :=
  fun _ member => Or.inl (subset member)

theorem Quotes.trans {text part inner : List Glyph}
    (outer : Quotes text part) (quotes : Quotes part inner) :
    Quotes text inner := by
  intro glyph member
  rcases quotes glyph member with inPart | isOwn
  · exact outer glyph inPart
  · exact Or.inr isOwn

theorem Quotes.append {text left right : List Glyph}
    (first : Quotes text left) (second : Quotes text right) :
    Quotes text (left ++ right) := by
  rw [Quotes, List.forall_mem_append]
  exact ⟨first, second⟩

theorem quotes_own {text : List Glyph} {part : String}
    (noTag : '<' ∉ part.toList) : Quotes text (own part) := by
  intro glyph member
  rcases List.mem_map.mp member with ⟨char, inPart, rfl⟩
  exact Or.inr ⟨rfl, ne_of_mem_of_not_mem inPart noTag⟩

theorem trim_subset (text : List Glyph) : trim text ⊆ text := by
  intro glyph member
  have inside :=
    List.dropWhile_subset _ (List.mem_reverse.mp member)
  exact List.dropWhile_subset _ (List.mem_reverse.mp inside)

theorem quotes_joinLines (text : List Glyph) :
    Quotes text (joinLines text) := by
  intro glyph member
  rcases List.mem_flatMap.mp member with ⟨source, inText, isPut⟩
  split_ifs at isPut
  · exact quotes_own (by decide) glyph isPut
  · rw [List.mem_singleton.mp isPut]
    exact Or.inl inText

theorem quotes_substring (limit : ℕ) (text : List Glyph) :
    Quotes text (substring limit text) := by
  have extend {glyph : Glyph} {rest part : List Glyph}
      (later : Quotes rest part) :
      Quotes (glyph :: rest) (glyph :: part) := by
    refine List.forall_mem_cons.mpr ⟨Or.inl List.mem_cons_self, ?_⟩
    exact (Quotes.of_subset (List.subset_cons_self glyph rest)).trans later
  induction text generalizing limit with
  | nil => cases limit <;> exact fun _ member => nomatch member
  | cons glyph rest induction =>
      match limit with
      | 0 => exact fun _ member => nomatch member
      | 1 =>
          rw [substring]
          split_ifs
          · exact extend (induction 0)
          · exact quotes_own (by decide)
      | limit + 2 =>
          rw [substring]
          split_ifs
          · exact extend (induction (limit + 1))
          · exact extend (induction limit)

theorem subset_of_mem_lines {text line : List Glyph}
    (isLine : line ∈ lines text) : line ⊆ text := by
  rw [lines] at isLine
  induction text generalizing line with
  | nil =>
      rw [List.mem_singleton.mp isLine]
      exact List.nil_subset []
  | cons glyph rest induction =>
      rw [List.splitOnP_cons_eq_if_modifyHead] at isLine
      split_ifs at isLine
      · rcases List.mem_cons.mp isLine with rfl | later
        · exact List.nil_subset _
        · exact List.subset_cons_of_subset glyph (induction later)
      · cases split : rest.splitOnP (·.unit = '\n') with
        | nil => exact (List.splitOnP_ne_nil _ rest split).elim
        | cons first others =>
            rw [split] at isLine induction
            rcases List.mem_cons.mp isLine with rfl | later
            · exact List.cons_subset_cons glyph (induction List.mem_cons_self)
            · exact
                List.subset_cons_of_subset glyph
                  (induction (List.mem_cons_of_mem first later))

/-- What is left when all matches are removed is taken from the text. -/
theorem remove_subset (pattern : Pattern Glyph) (text : List Glyph) :
    pattern.replaceAll (fun _ => []) text ⊆ text := by
  intro glyph member
  refine mem_of_mem_replaceAll (fun _ isPut => ?_) member
  exact (List.not_mem_nil isPut).elim

theorem strengthOf_subset (line : List Glyph) : strengthOf line ⊆ line :=
  List.Subset.trans (trim_subset _)
    (List.Subset.trans (remove_subset _ _) (List.dropWhile_subset _))

theorem withoutMark_subset (text : List Glyph) :
    withoutMark text ⊆ text := by
  cases text with
  | nil => exact List.nil_subset []
  | cons glyph rest =>
      rw [withoutMark]
      split_ifs
      · exact
          List.subset_cons_of_subset glyph (List.dropWhile_subset _)
      · exact List.Subset.refl _

/-! ## The parts in the output -/

/-- The parts in the heading of a candidate. -/
def headingParts (candidate : Candidate) : List (List Glyph) :=
  [candidate.name, candidate.rank, candidate.department]

/-- The part in the cell of a candidate. -/
def cellParts (ranking : Ranking) (candidate : Candidate) :
    List (List Glyph) :=
  if sameText candidate.name ranking.name then [ranking.details] else []

/-- The parts in the row of a ranking. -/
def rowParts (candidates : List Candidate) (ranking : Ranking) :
    List (List Glyph) :=
  ranking.position :: candidates.flatMap (cellParts ranking)

/-- The parts in the table, when there is one. -/
def tableParts (candidates : List Candidate) (rankings : List Ranking) :
    List (List Glyph) :=
  if candidates ≠ [] ∧ rankings ≠ [] then
    candidates.flatMap headingParts ++
      rankings.flatMap (rowParts candidates)
  else
    []

/-- All parts of a response that its comparison quotes. -/
def quotedParts (text : List Glyph) : List (List Glyph) :=
  tableParts (candidates text) (rankings text) ++ strengths text ++
    [recommendation text]

theorem quotes_trimmed {text part : List Glyph} (subset : part ⊆ text) :
    Quotes text (trim part) :=
  Quotes.of_subset (List.Subset.trans (trim_subset part) subset)

theorem quotes_candidateOf {text : List Glyph} {found : Match Glyph}
    (inside : ∀ number, found.group number ⊆ text) :
    ∀ part ∈ headingParts (candidateOf found), Quotes text part := by
  intro part member
  simp only [headingParts, candidateOf, List.mem_cons, List.not_mem_nil,
    or_false] at member
  rcases member with rfl | rfl | rfl
  · exact quotes_trimmed (inside 1)
  · exact quotes_trimmed (inside 2)
  · exact quotes_trimmed (inside 3)

theorem quotes_listedCandidates {text : List Glyph}
    {candidate : Candidate} (isListed : candidate ∈ listedCandidates text) :
    ∀ part ∈ headingParts candidate, Quotes text part := by
  rw [listedCandidates] at isListed
  cases isMatch : candidatesPattern.firstMatch text with
  | none =>
      rw [isMatch] at isListed
      exact (List.not_mem_nil isListed).elim
  | some found =>
      rw [isMatch] at isListed
      rcases List.mem_filterMap.mp isListed with ⟨line, isLine, isNamed⟩
      rw [Option.map_eq_some_iff] at isNamed
      rcases isNamed with ⟨named, isName, rfl⟩
      refine quotes_candidateOf fun number => ?_
      have inList :=
        group_subset_of_mem_matchAll (List.mem_of_mem_head? isMatch) 1
      have inLine :=
        group_subset_of_mem_matchAll (List.mem_of_mem_head? isName) number
      exact
        List.Subset.trans inLine
          (List.Subset.trans (subset_of_mem_lines isLine)
            (List.Subset.trans (trim_subset _) inList))

theorem quotes_candidates {text : List Glyph} {candidate : Candidate}
    (isCandidate : candidate ∈ candidates text) :
    ∀ part ∈ headingParts candidate, Quotes text part := by
  rw [candidates] at isCandidate
  split_ifs at isCandidate
  · rcases List.mem_map.mp isCandidate with ⟨found, isMatch, rfl⟩
    exact quotes_candidateOf (group_subset_of_mem_matchAll isMatch)
  · exact quotes_listedCandidates isCandidate

theorem quotes_rankings {text : List Glyph} {ranking : Ranking}
    (isRanking : ranking ∈ rankings text) :
    Quotes text ranking.position ∧ Quotes text ranking.details := by
  rcases List.mem_map.mp isRanking with ⟨found, isMatch, rfl⟩
  have inside := group_subset_of_mem_matchAll isMatch
  have noTag (number : List Glyph) :
      '<' ∉ (positionSuffix number).toList := by
    rw [positionSuffix]
    split_ifs <;> decide
  have details : Quotes text (joinLines (trim (found.group 5))) :=
    (quotes_trimmed (inside 5)).trans (quotes_joinLines _)
  exact
    ⟨(Quotes.of_subset (inside 1)).append (quotes_own (noTag _)),
      (details.trans (quotes_substring 150 _)).append
        (quotes_own (by decide))⟩

theorem strengths_subset {text strength : List Glyph}
    (isStrength : strength ∈ strengths text) : strength ⊆ text := by
  rw [strengths] at isStrength
  cases isMatch : strengthsPattern.firstMatch text with
  | none =>
      rw [isMatch] at isStrength
      exact (List.not_mem_nil isStrength).elim
  | some found =>
      rw [isMatch] at isStrength
      rcases List.mem_map.mp (List.mem_filter.mp isStrength).1 with
        ⟨line, isLine, rfl⟩
      have inside :=
        group_subset_of_mem_matchAll (List.mem_of_mem_head? isMatch) 1
      exact
        List.Subset.trans (strengthOf_subset line)
          (List.Subset.trans
            (subset_of_mem_lines (List.mem_filter.mp isLine).1) inside)

theorem recommended_subset {text : List Glyph} {found : Match Glyph}
    (isMatch : recommendationPattern.firstMatch text = some found) :
    withoutMark (trim (found.group 1)) ⊆ text :=
  List.Subset.trans (withoutMark_subset _)
    (List.Subset.trans (trim_subset _)
      (group_subset_of_mem_matchAll (List.mem_of_mem_head? isMatch) 1))

theorem quotes_recommendation (text : List Glyph) :
    Quotes text (recommendation text) := by
  rw [recommendation]
  cases isMatch : recommendationPattern.firstMatch text with
  | none => exact fun _ member => nomatch member
  | some found =>
      have recommended := Quotes.of_subset (recommended_subset isMatch)
      exact
        (recommended.trans (quotes_joinLines _)).trans
          (quotes_substring 300 _)

/-- The parts in the output are quoted from the response. -/
theorem quotes_of_mem_quotedParts {text part : List Glyph}
    (isPart : part ∈ quotedParts text) : Quotes text part := by
  rw [quotedParts, List.mem_append, List.mem_append] at isPart
  rcases isPart with (inTable | isStrength) | isRecommendation
  · rw [tableParts] at inTable
    split_ifs at inTable
    · rcases List.mem_append.mp inTable with inHeading | inRow
      · rcases List.mem_flatMap.mp inHeading with
          ⟨candidate, isCandidate, inHeading⟩
        exact quotes_candidates isCandidate part inHeading
      · rcases List.mem_flatMap.mp inRow with ⟨ranking, isRanking, inRow⟩
        rcases List.mem_cons.mp inRow with rfl | inCells
        · exact (quotes_rankings isRanking).1
        · rcases List.mem_flatMap.mp inCells with ⟨candidate, _, inCell⟩
          rw [cellParts] at inCell
          split_ifs at inCell
          · rw [List.mem_singleton.mp inCell]
            exact (quotes_rankings isRanking).2
          · exact (List.not_mem_nil inCell).elim
    · exact (List.not_mem_nil inTable).elim
  · exact Quotes.of_subset (strengths_subset isStrength)
  · rw [List.mem_singleton.mp isRecommendation]
    exact quotes_recommendation text

end SultanPass.AIAssistant
