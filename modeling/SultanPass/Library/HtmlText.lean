import Mathlib.Data.List.Basic

/-!
# Text in an attribute of a tag

A text becomes the value of an attribute when its special characters are
replaced by character references.  A browser reads the value up to the next
quote and puts the characters back.  `readAttribute_escape` composes the
two: the value is the text, and the tag goes on behind its own quote.
-/

namespace SultanPass.Library.HtmlText

/-- The special characters with their references. -/
def references : List (Char × List Char) :=
  [('&', "&amp;".toList), ('"', "&quot;".toList), ('\'', "&#039;".toList),
    ('<', "&lt;".toList), ('>', "&gt;".toList)]

/-- `htmlspecialchars` on one character. -/
def escapeChar (char : Char) : List Char :=
  (references.lookup char).getD [char]

/-- `htmlspecialchars`. -/
def escape (text : List Char) : List Char :=
  text.flatMap escapeChar

/-- The reference at the beginning of a text. -/
def reference? (text : List Char) : Option (Char × List Char) :=
  references.find? fun entry => entry.2.isPrefixOf text

/--
Put the characters of the references back; `skipped` characters still belong
to the last reference.
-/
def readReferences : ℕ → List Char → List Char
  | _, [] => []
  | skipped + 1, _ :: rest => readReferences skipped rest
  | 0, char :: rest =>
      match reference? (char :: rest) with
      | some entry => entry.1 :: readReferences (entry.2.length - 1) rest
      | none => char :: readReferences 0 rest

/--
What a browser reads behind the opening quote of an attribute: its value,
and the rest behind the closing quote.
-/
def readAttribute (text : List Char) : List Char × List Char :=
  (readReferences 0 (text.takeWhile (· ≠ '"')),
    (text.dropWhile (· ≠ '"')).tail)

/-! ## Reading what was escaped -/

/-- Only an ampersand begins a reference. -/
theorem reference?_eq_none {char : Char} (plain : char ≠ '&')
    (rest : List Char) : reference? (char :: rest) = none := by
  have begins : ∀ entry ∈ references, entry.2.head? = some '&' := by
    decide
  apply List.find?_eq_none.mpr
  intro entry member isPrefix
  rcases entry with ⟨special, _ | ⟨first, text⟩⟩
  · cases begins _ member
  · have same := Option.some.inj (begins _ member)
    rw [List.isPrefixOf_cons_cons, Bool.and_eq_true, beq_iff_eq] at isPrefix
    exact plain (isPrefix.1.symm.trans same)

theorem escapeChar_cases (char : Char) :
    char = '&' ∨ char = '"' ∨ char = '\'' ∨ char = '<' ∨ char = '>' ∨
      (escapeChar char = [char] ∧ char ≠ '&' ∧ char ≠ '"') := by
  by_cases ampersand : char = '&'
  · exact Or.inl ampersand
  by_cases quote : char = '"'
  · exact Or.inr (Or.inl quote)
  by_cases apostrophe : char = '\''
  · exact Or.inr (Or.inr (Or.inl apostrophe))
  by_cases less : char = '<'
  · exact Or.inr (Or.inr (Or.inr (Or.inl less)))
  by_cases greater : char = '>'
  · exact Or.inr (Or.inr (Or.inr (Or.inr (Or.inl greater))))
  have plain : references.lookup char = none := by
    rw [List.lookup_eq_none_iff]
    simp [references, ampersand, quote, apostrophe, less, greater]
  refine
    Or.inr (Or.inr (Or.inr (Or.inr (Or.inr ⟨?_, ampersand, quote⟩))))
  rw [escapeChar, plain]
  rfl

theorem readReferences_escapeChar (char : Char) (rest : List Char) :
    readReferences 0 (escapeChar char ++ rest) =
      char :: readReferences 0 rest := by
  rcases escapeChar_cases char with
    rfl | rfl | rfl | rfl | rfl | ⟨same, plain, _⟩
  · rfl
  · rfl
  · rfl
  · rfl
  · rfl
  · rw [same, List.singleton_append, readReferences,
      reference?_eq_none plain]

/-- The references of an escaped text are read as its characters. -/
theorem readReferences_escape (text : List Char) :
    readReferences 0 (escape text) = text := by
  induction text with
  | nil => rfl
  | cons char text induction =>
      show readReferences 0 (escapeChar char ++ escape text) = _
      rw [readReferences_escapeChar, induction]

theorem quote_not_mem_escape (text : List Char) : '"' ∉ escape text := by
  intro member
  rcases List.mem_flatMap.mp member with ⟨char, _, inChar⟩
  rcases escapeChar_cases char with
    rfl | rfl | rfl | rfl | rfl | ⟨same, _, noQuote⟩
  · revert inChar
    decide
  · revert inChar
    decide
  · revert inChar
    decide
  · revert inChar
    decide
  · revert inChar
    decide
  · rw [same, List.mem_singleton] at inChar
    exact noQuote inChar.symm

/-- An escaped text is the value of its attribute, whatever it contains. -/
theorem readAttribute_escape (text rest : List Char) :
    readAttribute (escape text ++ '"' :: rest) = (text, rest) := by
  have all : ∀ char ∈ escape text, decide (char ≠ '"') = true := by
    intro char member
    apply decide_eq_true
    rintro rfl
    exact quote_not_mem_escape text member
  unfold readAttribute
  rw [List.takeWhile_append_of_pos all, List.dropWhile_append_of_pos all,
    List.takeWhile_cons_of_neg (by simp),
    List.dropWhile_cons_of_neg (by simp), List.append_nil,
    readReferences_escape]
  rfl

end SultanPass.Library.HtmlText
