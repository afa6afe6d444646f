import SultanPass.ComparisonParts
import SultanPass.InjectedMarkup
import SultanPass.Library.Quoting

/-!
# Markup in a formatted response

The comparison quotes its parts without escaping them, each in front of a
tag.  A `<` in a part begins markup when the next character of the part makes
it begin some.  `onlyOwnMarkup_iff` says for which responses the tags of the
formatter are the only markup in its output, in either format.
-/

namespace SultanPass.AIAssistant

open SultanPass.Library
open SultanPass.Library.Glyph

/-! ## The blocks of the comparison -/

theorem quoting_candidateHeading (candidate : Candidate) :
    Quoting fixedTags (candidateHeading candidate)
      (headingParts candidate) := by
  simp only [candidateHeading, List.append_assoc]
  exact
    .tags (by decide)
      (.quote_tags candidate.name (by decide)
        (.quote_tags candidate.rank (by decide)
          (.quote_last candidate.department (by decide))))

theorem quoting_rankingCell (ranking : Ranking) (candidate : Candidate) :
    Quoting fixedTags (rankingCell ranking candidate)
      (cellParts ranking candidate) := by
  rw [rankingCell, cellParts]
  split_ifs
  · rw [List.append_assoc]
    exact .tags (by decide) (.quote_last ranking.details (by decide))
  · rw [List.append_assoc]
    exact .tags (by decide) (.own (by decide) (.of_tags (by decide)))

theorem quoting_rankingRow (candidates : List Candidate)
    (ranking : Ranking) :
    Quoting fixedTags (rankingRow candidates ranking)
      (rowParts candidates ranking) := by
  have cells := Quoting.flatMap (quoting_rankingCell ranking) candidates
  have closed := cells.append (.of_tags (show ["</tr>"] ⊆ fixedTags by decide))
  rw [List.append_nil] at closed
  simp only [rankingRow, List.append_assoc]
  exact
    .tags (by decide)
      (.quote_tags ranking.position (by decide) closed)

theorem quoting_candidateTable (candidates : List Candidate)
    (rankings : List Ranking) :
    Quoting fixedTags (candidateTable candidates rankings)
      (tableParts candidates rankings) := by
  rw [candidateTable, tableParts]
  split_ifs
  · have headings :=
      Quoting.flatMap quoting_candidateHeading candidates
    have rows :=
      Quoting.flatMap (quoting_rankingRow candidates) rankings
    have closed :=
      rows.append
        (.of_tags (show ["</tbody>", "</table>"] ⊆ fixedTags by decide))
    rw [List.append_nil] at closed
    simp only [List.append_assoc]
    exact
      .tags (by decide)
        (.own (by decide)
          (.tags (by decide)
            (.own (by decide)
              (.tags (by decide)
                (headings.append (.tags (by decide) closed))))))
  · exact .nil

theorem quoting_strengthItem (strength : List Glyph) :
    Quoting fixedTags (strengthItem strength) [strength] := by
  simp only [strengthItem, bullet, List.append_assoc]
  exact
    .tags (by decide)
      (.tags (by decide)
        (.own (by decide)
          (.tags (by decide)
            (.own (by decide) (.quote_last strength (by decide))))))

theorem quoting_strengthsSection (strengths : List (List Glyph)) :
    Quoting fixedTags (strengthsSection strengths) strengths := by
  rw [strengthsSection]
  split_ifs with some
  · have items := Quoting.flatMap quoting_strengthItem strengths
    rw [List.flatMap_singleton'] at items
    have closed :=
      items.append (.of_tags (show ["</ul>"] ⊆ fixedTags by decide))
    rw [List.append_nil] at closed
    simp only [List.append_assoc]
    exact
      .tags (by decide) (.own (by decide) (.tags (by decide) closed))
  · rw [not_not.mp some]
    exact .nil

/-- The recommendation stands in front of the last tag, even if empty. -/
theorem quoting_recommendation (recommendation : List Glyph) :
    Quoting fixedTags
      (recommendationSection recommendation ++ tags ["</div>"])
      [recommendation] := by
  rw [recommendationSection]
  split_ifs with some
  · simp only [List.append_assoc]
    exact
      .tags (by decide)
        (.own (by decide)
          (.tags (by decide)
            (.quote_tags recommendation (by decide)
              (.of_tags (by decide)))))
  · rw [not_not.mp some]
    exact .quote_last [] (by decide)

/-- The comparison quotes its parts and nothing else. -/
theorem quoting_formatComparisonAsTable (text : List Glyph) :
    Quoting fixedTags (formatComparisonAsTable text) (quotedParts text) := by
  have sections :=
    ((quoting_candidateTable (candidates text) (rankings text)).append
      (quoting_strengthsSection (strengths text))).append
      (quoting_recommendation (recommendation text))
  simp only [List.append_assoc] at sections
  simp only [formatComparisonAsTable, quotedParts, List.append_assoc]
  exact .tags (by decide) sections

/-! ## Markup in either format -/

theorem woven_of_quotes {text : List Char} {part : List Glyph}
    (quotes : Quotes (foreign text) part) : Woven fixedTags part := by
  refine Woven.of_mixed fun glyph member isOwn => ?_
  rcases quotes glyph member with inText | ⟨_, noTag⟩
  · rcases List.mem_map.mp inText with ⟨char, _, rfl⟩
    cases isOwn
  · exact noTag

/-- The output is woven from the response and the tags. -/
theorem woven_formatAIResponse (text : List Char) :
    Woven fixedTags (formatAIResponse (foreign text)) := by
  rw [formatAIResponse]
  split_ifs
  · exact
      (quoting_formatComparisonAsTable (foreign text)).woven
        fun _ isPart => woven_of_quotes (quotes_of_mem_quotedParts isPart)
  · exact (woven_formatPlain text).mono plainTags_subset

/-- No taken `<` of a part begins markup there. -/
def NoOpeningIn (part : List Glyph) : Prop :=
  ∀ before after, part = before ++ foreignChar '<' :: after →
    opens after = false

theorem noOpeningIn_iff (part : List Glyph) :
    NoOpeningIn part ↔ true ∉ behindOpenings opens part := by
  constructor
  · intro none opened
    rcases mem_behindOpenings.mp opened with ⟨before, after, split, isOpen⟩
    rw [none before after split] at isOpen
    cases isOpen
  · intro none before after split
    refine Bool.eq_false_iff.mpr fun isOpen => ?_
    exact none (mem_behindOpenings.mpr ⟨before, after, split, isOpen⟩)

/--
In the plain format no `<` begins markup, apart from one in front of an
assessment word; in the comparison none does within a quoted part.
-/
def OpensNoMarkup (text : List Char) : Prop :=
  if isComparison (foreign text) then
    ∀ part ∈ quotedParts (foreign text), NoOpeningIn part
  else
    NoOpening text

/-- The response opens no markup where its output does not. -/
theorem opensNoMarkup_iff (text : List Char) :
    OpensNoMarkup text ↔
      true ∉ behindOpenings opens (formatAIResponse (foreign text)) := by
  rw [formatAIResponse, OpensNoMarkup]
  split_ifs
  · rw [(quoting_formatComparisonAsTable (foreign text)).behindOpenings_eq
      isTag_of_mem_fixedTags, List.mem_flatMap]
    constructor
    · rintro none ⟨part, isPart, inPart⟩
      exact (noOpeningIn_iff part).mp (none part isPart) inPart
    · intro none part isPart
      exact
        (noOpeningIn_iff part).mpr fun inPart => none ⟨part, isPart, inPart⟩
  · rw [behindOpenings_formatPlain, noOpening_iff]

/--
The tags of the formatter are the only markup in its output exactly when the
response opens none.
-/
theorem onlyOwnMarkup_iff (text : List Char) :
    OnlyOwnMarkup (formatAIResponse (foreign text)) ↔
      OpensNoMarkup text := by
  rw [opensNoMarkup_iff]
  exact
    markup_of_woven isTag_of_mem_fixedTags (woven_formatAIResponse text)

/-- An image element of a response comes into the page. -/
theorem markup_of_the_response_is_kept :
    ¬∀ text : List Char, OnlyOwnMarkup (formatAIResponse (foreign text)) := by
  intro all
  have image :
      foreign "<img src=x>".toList ∈
        markup (formatAIResponse (foreign "<img src=x>".toList)) := by
    decide
  rcases all _ _ image with ⟨tag, _, isOwn⟩
  have member : foreignChar '<' ∈ own tag := by
    rw [← isOwn]
    exact List.mem_cons_self
  rcases List.mem_map.mp member with ⟨char, _, same⟩
  cases same

end SultanPass.AIAssistant
