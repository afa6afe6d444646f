import SultanPass.Library.JsonDocuments
import Mathlib.Tactic.IntervalCases

/-!
# Encoding a JSON document

`encode` prints a value the way a scripting language with one kind of array
does: an array whose keys are 0, 1, 2, … becomes a list, every other array an
object.  Characters outside ASCII are printed as UTF-16 code units, and a
pretty document puts every item on a line of its own.

The main theorem is `jsonDecode_jsonEncode`: whatever is encoded below the
nesting limit is decoded to itself, pretty or not.  It needs what an array of
the language has by itself, distinct keys in their normal form (`Canonical`),
and a format that reads the numbers that it has written (`NumberFormat`).
-/

namespace SultanPass.Library.JsonDecoding

/-! ## Strings -/

/-- The escape of a UTF-16 code unit. -/
def longEscape (unit : ℕ) : List Char :=
  ['\\', 'u', Nat.digitChar (unit / 4096 % 16),
    Nat.digitChar (unit / 256 % 16), Nat.digitChar (unit / 16 % 16),
    Nat.digitChar (unit % 16)]

/-- The second character of the short escape of a character. -/
def shortLetter (char : Char) : Option Char :=
  if char = '"' then some '"'
  else if char = '\\' then some '\\'
  else if char = '/' then some '/'
  else if char = .ofNat 8 then some 'b'
  else if char = .ofNat 12 then some 'f'
  else if char = '\n' then some 'n'
  else if char = '\r' then some 'r'
  else if char = '\t' then some 't'
  else none

/-- The surrogates of a character beyond the first plane. -/
def highSurrogate (char : Char) : ℕ :=
  0xD800 + (char.toNat - 0x10000) / 0x400

def lowSurrogate (char : Char) : ℕ :=
  0xDC00 + (char.toNat - 0x10000) % 0x400

def escapeChar (char : Char) : List Char :=
  match shortLetter char with
  | some letter => ['\\', letter]
  | none =>
      if char.toNat < 32 then longEscape char.toNat
      else if char.toNat < 128 then [char]
      else if char.toNat < 0x10000 then longEscape char.toNat
      else longEscape (highSurrogate char) ++ longEscape (lowSurrogate char)

def escapeText (text : List Char) : List Char :=
  text.flatMap escapeChar

/-- What the lexer makes of the escape of a character. -/
def charUnits (char : Char) : List (Char ⊕ ℕ) :=
  match shortLetter char with
  | some _ => [.inl char]
  | none =>
      if char.toNat < 32 then [.inr char.toNat]
      else if char.toNat < 128 then [.inl char]
      else if char.toNat < 0x10000 then [.inr char.toNat]
      else [.inr (highSurrogate char), .inr (lowSurrogate char)]

theorem hexDigit_digitChar {number : ℕ} (small : number < 16) :
    hexDigit (Nat.digitChar number) = some number := by
  interval_cases number <;> rfl

theorem unescapeUnits_longEscape {unit : ℕ} (small : unit < 0x10000)
    (rest : List Char) :
    unescapeUnits (longEscape unit ++ rest) =
      (unescapeUnits rest).map (.inr unit :: ·) := by
  have digits :
      [Nat.digitChar (unit / 4096 % 16), Nat.digitChar (unit / 256 % 16),
          Nat.digitChar (unit / 16 % 16),
          Nat.digitChar (unit % 16)].mapM hexDigit =
        some [unit / 4096 % 16, unit / 256 % 16, unit / 16 % 16,
          unit % 16] := by
    have remainder (number : ℕ) : number % 16 < 16 :=
      Nat.mod_lt _ (by omega)
    simp only [List.mapM_cons, List.mapM_nil,
      hexDigit_digitChar (remainder _), pure, bind, Option.bind_some]
  have value :
      [unit / 4096 % 16, unit / 256 % 16, unit / 16 % 16,
          unit % 16].foldl (16 * · + ·) 0 = unit := by
    simp only [List.foldl_cons, List.foldl_nil]
    omega
  show unescapeUnits ('\\' :: 'u' :: _ :: _ :: _ :: _ :: rest) = _
  rw [unescapeUnits, digits]
  cases unescapeUnits rest with
  | none => rfl
  | some units =>
      show some (.inr _ :: units) = some (.inr unit :: units)
      rw [value]

theorem shortEscape_shortLetter {char letter : Char}
    (short : shortLetter char = some letter) :
    shortEscape letter = some char ∧ letter ≠ 'u' ∧
      isEscape letter = true := by
  unfold shortLetter at short
  split_ifs at short <;> cases short <;> subst_vars <;> decide

theorem unescapeUnits_short {char letter : Char}
    (short : shortLetter char = some letter) (rest : List Char) :
    unescapeUnits ('\\' :: letter :: rest) =
      (unescapeUnits rest).map (.inl char :: ·) := by
  rcases shortEscape_shortLetter short with ⟨back, noLong, _⟩
  rw [unescapeUnits]
  · rw [back]
    cases unescapeUnits rest <;> rfl
  · rintro _ _ _ _ _ rfl _
    exact noLong rfl

theorem unescapeUnits_plain {char : Char} (noBackslash : char ≠ '\\')
    (printable : 32 ≤ char.toNat) (rest : List Char) :
    unescapeUnits (char :: rest) =
      (unescapeUnits rest).map (.inl char :: ·) := by
  rw [unescapeUnits]
  · rw [if_neg]
    rintro (same | control)
    · exact noBackslash same
    · omega
  · rintro _ _ _ _ _ rfl _
    exact noBackslash rfl
  · rintro _ _ rfl _
    exact noBackslash rfl

theorem ne_backslash_of_shortLetter {char : Char}
    (long : shortLetter char = none) : char ≠ '\\' ∧ char ≠ '"' := by
  constructor
  · rintro rfl
    cases long
  · rintro rfl
    cases long

theorem toNat_lt (char : Char) : char.toNat < 0x110000 := by
  rcases char.valid with small | ⟨_, large⟩
  · have : char.toNat < 0xD800 := small
    omega
  · exact large

theorem surrogates_lt (char : Char) :
    highSurrogate char < 0xDC00 ∧ lowSurrogate char < 0xE000 := by
  have bound := toNat_lt char
  unfold highSurrogate lowSurrogate
  omega

theorem unescapeUnits_escapeChar (char : Char) (rest : List Char) :
    unescapeUnits (escapeChar char ++ rest) =
      (unescapeUnits rest).map (charUnits char ++ ·) := by
  unfold escapeChar charUnits
  cases short : shortLetter char with
  | some letter => exact unescapeUnits_short short rest
  | none =>
      dsimp only
      split_ifs with control ascii plane
      · exact unescapeUnits_longEscape (by omega) rest
      · exact
          unescapeUnits_plain (ne_backslash_of_shortLetter short).1
            (by omega) rest
      · exact unescapeUnits_longEscape plane rest
      · have bounds := surrogates_lt char
        rw [List.append_assoc, unescapeUnits_longEscape (by omega),
          unescapeUnits_longEscape (by omega), Option.map_map]
        rfl

theorem unescapeUnits_escapeText (text : List Char) :
    unescapeUnits (escapeText text) = some (text.flatMap charUnits) := by
  induction text with
  | nil => rfl
  | cons char text induction =>
      show unescapeUnits (escapeChar char ++ escapeText text) = _
      rw [unescapeUnits_escapeChar, induction]
      rfl

/-- A code unit outside the surrogates is a character. -/
theorem joinSurrogates_unit {unit : ℕ}
    (whole : unit < 0xD800 ∨ 0xE000 ≤ unit)
    (rest : List (Char ⊕ ℕ)) :
    joinSurrogates (.inr unit :: rest) =
      (joinSurrogates rest).map (.ofNat unit :: ·) := by
  have noSurrogate : ¬ (0xD800 ≤ unit ∧ unit < 0xE000) := by omega
  cases rest with
  | nil => exact if_neg noSurrogate
  | cons next rest =>
      cases next with
      | inl char => exact if_neg noSurrogate
      | inr low =>
          rw [joinSurrogates, if_neg (by omega), if_neg (by omega)]

theorem joinSurrogates_charUnits (char : Char)
    (rest : List (Char ⊕ ℕ)) :
    joinSurrogates (charUnits char ++ rest) =
      (joinSurrogates rest).map (char :: ·) := by
  have whole (small : char.toNat < 0x10000) :
      char.toNat < 0xD800 ∨ 0xE000 ≤ char.toNat := by
    rcases char.valid with low | ⟨high, _⟩
    · exact Or.inl low
    · exact Or.inr high
  unfold charUnits
  cases short : shortLetter char with
  | some letter => rfl
  | none =>
      dsimp only
      split_ifs with control ascii plane
      · show joinSurrogates (.inr char.toNat :: rest) = _
        rw [joinSurrogates_unit (whole (by omega)), Char.ofNat_toNat]
      · rfl
      · show joinSurrogates (.inr char.toNat :: rest) = _
        rw [joinSurrogates_unit (whole plane), Char.ofNat_toNat]
      · have bound := toNat_lt char
        have value :
            0x10000 + (highSurrogate char - 0xD800) * 0x400 +
                (lowSurrogate char - 0xDC00) =
              char.toNat := by
          unfold highSurrogate lowSurrogate
          omega
        show joinSurrogates
          (.inr (highSurrogate char) :: .inr (lowSurrogate char) :: rest) =
            _
        rw [joinSurrogates, if_pos, if_pos, value, Char.ofNat_toNat]
        · unfold lowSurrogate
          omega
        · unfold highSurrogate
          omega

/-- An escaped text is read back. -/
theorem unescape_escapeText (text : List Char) :
    unescape (escapeText text) = some text := by
  rw [unescape, unescapeUnits_escapeText, Option.bind_some]
  induction text with
  | nil => rfl
  | cons char text induction =>
      rw [List.flatMap_cons, joinSurrogates_charUnits, induction]
      rfl

/-! ## Values -/

/--
A way to write numbers as words of a document, and to read them.  Numbers
that are not `Exact` may be rounded by it.
-/
structure NumberFormat (Number : Type) where
  write : Number → List Char
  read : List Char → Number
  Exact : Number → Prop
  isNumber_write : ∀ number, isNumber (write number) = true
  isWordChar_write :
    ∀ number, ∀ char ∈ write number, isWordChar char = true
  read_write : ∀ number, Exact number → read (write number) = number

variable {Number : Type}

/-- The keys are 0, 1, 2, …, in this order. -/
def isList (entries : List (Key × Value Number)) : Bool :=
  entries.map Prod.fst =
    (List.range entries.length).map fun index : ℕ => Key.index index

/-- The name of a key in an object. -/
def Key.text : Key → List Char
  | .index number => JsonText.encodeInt number
  | .name text => escapeText text

section Encoding

variable (write : Number → List Char) (pretty : Bool)

/-- A new line with its indentation, in a pretty document. -/
def newLine (level : ℕ) : List Char :=
  if pretty then '\n' :: List.replicate (4 * level) ' ' else []

/-- The name of a member with its colon; an item of a list has none. -/
def memberName (list : Bool) (key : Key) : List Char :=
  if list then []
  else
    ('"' :: key.text) ++ ('"' :: ':' :: (if pretty then [' '] else []))

mutual

/-- The text of a value inside `level` arrays. -/
def encode (level : ℕ) : Value Number → List Char
  | .null => "null".toList
  | .bool true => "true".toList
  | .bool false => "false".toList
  | .number number => write number
  | .string text => ('"' :: escapeText text) ++ ['"']
  | .array entries =>
      (if isList entries then '[' else '{') ::
        (encodeEntries (level + 1) (isList entries) entries ++
          ((if entries.isEmpty then [] else newLine pretty level) ++
            [if isList entries then ']' else '}']))

/-- The items of a list, or the members of an object. -/
def encodeEntries (level : ℕ) (list : Bool) :
    List (Key × Value Number) → List Char
  | [] => []
  | (key, value) :: rest =>
      newLine pretty level ++
        (memberName pretty list key ++
          (encode level value ++
            ((if rest.isEmpty then [] else [',']) ++
              encodeEntries level list rest)))

end

mutual

/-- How deep arrays are nested in a value. -/
def nesting : Value Number → ℕ
  | .array entries => nestingOf entries + 1
  | _ => 0

def nestingOf : List (Key × Value Number) → ℕ
  | [] => 0
  | (_, value) :: rest => max (nesting value) (nestingOf rest)

end

/-- `json_encode`; arrays that are nested too deep are an error. -/
def jsonEncode (value : Value Number) : Option (List Char) :=
  if nesting value ≤ depth then some (encode write pretty 0 value)
  else none

end Encoding

/-! ## Keys in normal form -/

/-- The name of a key before it is escaped. -/
def Key.plain : Key → List Char
  | .index number => JsonText.encodeInt number
  | .name text => text

/-- Reading the name of the key gives the key. -/
def Key.Canonical (key : Key) : Prop :=
  arrayKey key.plain = key

/--
All numbers are exact, and the keys of all arrays are distinct, and in normal
form unless the array is a list.
-/
inductive Value.Canonical (exact : Number → Prop) :
    Value Number → Prop where
  | null : Canonical exact .null
  | bool (value : Bool) : Canonical exact (.bool value)
  | number (value : Number) (isExact : exact value) :
      Canonical exact (.number value)
  | string (text : List Char) : Canonical exact (.string text)
  | array (entries : List (Key × Value Number))
      (distinct : (entries.map Prod.fst).Nodup)
      (keys : isList entries = false → ∀ entry ∈ entries, entry.1.Canonical)
      (values : ∀ entry ∈ entries, entry.2.Canonical exact) :
      Canonical exact (.array entries)

theorem nestingOf_le {bound : ℕ} {entries : List (Key × Value Number)}
    (all : ∀ entry ∈ entries, nesting entry.2 ≤ bound) :
    nestingOf entries ≤ bound := by
  induction entries with
  | nil => exact Nat.zero_le bound
  | cons entry rest induction =>
      rw [List.forall_mem_cons] at all
      rw [nestingOf]
      exact max_le all.1 (induction all.2)

/-! ## Lists -/

theorem map_fst_listEntries (values : List (Value Number)) :
    (listEntries values).map Prod.fst =
      (List.range values.length).map fun index : ℕ => Key.index index := by
  rw [List.range_eq_range', ← List.zipIdx_map_snd 0 values, List.map_map,
    listEntries, List.map_map]
  rfl

theorem map_snd_listEntries (values : List (Value Number)) :
    (listEntries values).map Prod.snd = values := by
  rw [listEntries, List.map_map]
  exact List.zipIdx_map_fst 0 values

theorem isList_listEntries (values : List (Value Number)) :
    isList (listEntries values) = true := by
  apply decide_eq_true
  rw [map_fst_listEntries, listEntries, List.length_map,
    List.length_zipIdx]

/-- A list of values in normal form is in normal form. -/
theorem canonical_listEntries {exact : Number → Prop}
    {values : List (Value Number)}
    (all : ∀ value ∈ values, value.Canonical exact) :
    (Value.array (listEntries values)).Canonical exact := by
  refine .array _ ?_ ?_ ?_
  · rw [map_fst_listEntries]
    refine List.nodup_range.map ?_
    intro left right same
    exact_mod_cast Key.index.inj same
  · intro noList
    rw [isList_listEntries] at noList
    cases noList
  · intro entry member
    apply all
    rw [← map_snd_listEntries values]
    exact List.mem_map_of_mem member

/-- A list of values without arrays is a single array. -/
theorem nesting_listEntries {values : List (Value Number)}
    (flat : ∀ value ∈ values, nesting value = 0) :
    nesting (.array (listEntries values)) = 1 := by
  have all : nestingOf (listEntries values) ≤ 0 := by
    apply nestingOf_le
    intro entry member
    rw [← map_snd_listEntries values] at flat
    exact (flat _ (List.mem_map_of_mem member)).le
  rw [nesting, Nat.le_zero.mp all]

theorem escapeText_of_plain {text : List Char}
    (plain : ∀ char ∈ text, escapeChar char = [char]) :
    escapeText text = text := by
  induction text with
  | nil => rfl
  | cons char text induction =>
      rw [List.forall_mem_cons] at plain
      show escapeChar char ++ escapeText text = _
      rw [plain.1, induction plain.2]
      rfl

theorem escapeChar_of_isDigit {char : Char}
    (digit : char.isDigit = true) : escapeChar char = [char] := by
  have bounds : 48 ≤ char.toNat ∧ char.toNat ≤ 57 := by
    simpa [Char.isDigit, UInt32.le_iff_toNat_le] using digit
  have same : char = .ofNat char.toNat := (Char.ofNat_toNat char).symm
  generalize char.toNat = number at bounds same
  subst same
  rcases bounds with ⟨above, below⟩
  interval_cases number <;> rfl

theorem escapeText_encodeInt (number : ℤ) :
    escapeText (JsonText.encodeInt number) = JsonText.encodeInt number := by
  have digits (natural : ℕ) :
      ∀ char ∈ Nat.toDigits 10 natural, escapeChar char = [char] :=
    fun char member =>
      escapeChar_of_isDigit
        (Nat.isDigit_of_mem_toDigits (by omega) (by omega) member)
  apply escapeText_of_plain
  cases number with
  | ofNat natural => exact digits natural
  | negSucc natural =>
      intro char member
      rcases List.mem_cons.mp member with rfl | isDigit
      · rfl
      · exact digits (natural + 1) char isDigit

/-- A name is the escaped text of its key. -/
theorem Key.text_eq (key : Key) : key.text = escapeText key.plain := by
  cases key with
  | index number => exact (escapeText_encodeInt number).symm
  | name text => rfl

/-! ## Reading what was written -/

section Reading

variable {readNumber : List Char → Number}

theorem read_longEscape (raw : List Char) (parser : Parser Number)
    (unit : ℕ) :
    read readNumber ⟨.quoted raw, parser⟩ (longEscape unit) =
      some ⟨.quoted (raw ++ longEscape unit), parser⟩ := by
  have noQuote (number : ℕ) :
      '"' ≠ Nat.digitChar (number % 16) ∧
        '\\' ≠ Nat.digitChar (number % 16) := by
    have small : number % 16 < 16 := Nat.mod_lt _ (by omega)
    generalize number % 16 = digit at small
    interval_cases digit <;> decide
  show read readNumber ⟨.quoted (raw ++ ['\\', 'u']), parser⟩
    [Nat.digitChar _, Nat.digitChar _, Nat.digitChar _,
      Nat.digitChar _] = _
  rw [read_quoted]
  · rw [List.append_assoc]
    rfl
  · simp [noQuote]
  · simp [noQuote]

theorem read_escapeChar (raw : List Char) (parser : Parser Number)
    (char : Char) :
    read readNumber ⟨.quoted raw, parser⟩ (escapeChar char) =
      some ⟨.quoted (raw ++ escapeChar char), parser⟩ := by
  unfold escapeChar
  cases short : shortLetter char with
  | some letter =>
      have isLetter := (shortEscape_shortLetter short).2.2
      show (if isEscape letter then
          some (⟨.quoted (raw ++ ['\\', letter]), parser⟩ : Reader Number)
        else none).bind _ = _
      rw [if_pos isLetter]
      rfl
  | none =>
      dsimp only
      split_ifs with control ascii plane
      · exact read_longEscape raw parser _
      · rcases ne_backslash_of_shortLetter short with
          ⟨noBackslash, noQuote⟩
        apply read_quoted
        · rw [List.mem_singleton]
          exact Ne.symm noQuote
        · rw [List.mem_singleton]
          exact Ne.symm noBackslash
      · exact read_longEscape raw parser _
      · rw [read_append, read_longEscape, Option.bind_some,
          read_longEscape, List.append_assoc]

theorem read_escapeText (raw : List Char) (parser : Parser Number)
    (text : List Char) :
    read readNumber ⟨.quoted raw, parser⟩ (escapeText text) =
      some ⟨.quoted (raw ++ escapeText text), parser⟩ := by
  induction text generalizing raw with
  | nil =>
      show some _ = some _
      rw [show escapeText [] = [] from rfl, List.append_nil]
  | cons char text induction =>
      show read readNumber _ (escapeChar char ++ escapeText text) =
        some ⟨.quoted (raw ++ (escapeChar char ++ escapeText text)), _⟩
      rw [read_append, read_escapeChar, Option.bind_some, induction,
        List.append_assoc]

/-- A written string is the token of its text. -/
theorem read_string {parser next : Parser Number} {text : List Char}
    (stepped : step parser (.string text) = some next)
    (rest : List Char) :
    read readNumber ⟨.plain, parser⟩
        (('"' :: escapeText text) ++ ('"' :: rest)) =
      read readNumber ⟨.plain, next⟩ rest := by
  rw [List.cons_append, read_cons, readChar_quote, Option.bind_some,
    read_append, read_escapeText, Option.bind_some, List.nil_append,
    read_cons]
  show ((readString parser (escapeText text)).bind fun parser =>
    some (⟨.plain, parser⟩ : Reader Number)).bind _ = _
  unfold readString
  rw [unescape_escapeText]
  show ((step parser (.string text)).bind fun parser =>
    some (⟨.plain, parser⟩ : Reader Number)).bind _ = _
  rw [stepped]
  rfl

theorem isSpace_newLine (pretty : Bool) (level : ℕ) :
    ∀ char ∈ newLine pretty level, isSpace char = true := by
  intro char member
  cases pretty with
  | false => cases member
  | true =>
      rcases List.mem_cons.mp member with rfl | blank
      · rfl
      · rw [List.eq_of_mem_replicate blank]
        rfl

/-! ### Words -/

theorem not_space_of_isWordChar {char : Char}
    (isWord : isWordChar char = true) :
    isSpace char = false ∧ char ≠ '"' := by
  constructor
  · rw [Bool.eq_false_iff]
    intro space
    unfold isSpace at space
    simp only [Bool.or_eq_true, decide_eq_true_eq] at space
    rcases space with ((rfl | rfl) | rfl) | rfl <;> cases isWord
  · rintro rfl
    cases isWord

theorem read_wordChars (word rest : List Char) (parser : Parser Number)
    (all : ∀ char ∈ rest, isWordChar char = true) :
    read readNumber ⟨.word word, parser⟩ rest =
      some ⟨.word (word ++ rest), parser⟩ := by
  induction rest generalizing word with
  | nil =>
      rw [List.append_nil]
      rfl
  | cons char rest induction =>
      rw [List.forall_mem_cons] at all
      rw [read_cons]
      show (if isWordChar char then _ else _ :
        Option (Reader Number)).bind _ = _
      rw [if_pos all.1, Option.bind_some, induction _ all.2,
        List.append_assoc]
      rfl

theorem read_word {word : List Char} (nonempty : word ≠ [])
    (all : ∀ char ∈ word, isWordChar char = true)
    (parser : Parser Number) :
    read readNumber ⟨.plain, parser⟩ word =
      some ⟨.word word, parser⟩ := by
  cases word with
  | nil => exact (nonempty rfl).elim
  | cons char rest =>
      rw [List.forall_mem_cons] at all
      rcases not_space_of_isWordChar all.1 with ⟨noSpace, noQuote⟩
      rw [read_cons]
      show (readPlain parser char).bind _ = _
      rw [readPlain, if_neg (by rw [noSpace]; exact Bool.false_ne_true),
        if_neg noQuote, if_pos all.1, Option.bind_some,
        read_wordChars _ _ _ all.2]
      rfl

/-- A number begins with a sign or a digit. -/
theorem head_of_isNumber {word : List Char}
    (number : isNumber word = true) :
    ∃ first rest, word = first :: rest ∧
      (first = '-' ∨ first.isDigit = true) := by
  cases word with
  | nil => cases number
  | cons first rest =>
      refine ⟨first, rest, rfl, ?_⟩
      by_cases sign : first = '-'
      · exact Or.inl sign
      · apply Or.inr
        by_contra noDigit
        rw [Bool.not_eq_true] at noDigit
        have unsigned : ¬ (first :: rest).head? = some '-' := by
          rwa [List.head?_cons, Option.some_inj]
        have noWhole : (first :: rest).takeWhile Char.isDigit = [] := by
          rw [List.takeWhile_cons, noDigit]
          rfl
        unfold isNumber at number
        dsimp only at number
        rw [if_neg unsigned, noWhole] at number
        cases number

theorem wordToken_of_isNumber {word : List Char}
    (number : isNumber word = true) :
    wordToken readNumber word =
      some (.scalar (.number (readNumber word))) := by
  rcases head_of_isNumber number with ⟨first, rest, rfl, isFirst⟩
  have noLetter : first ≠ 'n' ∧ first ≠ 't' ∧ first ≠ 'f' := by
    refine ⟨?_, ?_, ?_⟩
    all_goals
      rintro rfl
      revert isFirst
      decide
  unfold wordToken
  rw [if_neg, if_neg, if_neg, if_pos number]
  · intro same
    exact noLetter.2.2 (List.cons.inj same).1
  · intro same
    exact noLetter.2.1 (List.cons.inj same).1
  · intro same
    exact noLetter.1 (List.cons.inj same).1

/-! ### Values -/

/-- The text so far leads to this parser, perhaps after its last word. -/
def Settled (readNumber : List Char → Number) (reader : Reader Number)
    (parser : Parser Number) : Prop :=
  reader = ⟨.plain, parser⟩ ∨
    ∃ word before, reader = ⟨.word word, before⟩ ∧
      readWord readNumber before word = some parser

theorem Settled.read {reader : Reader Number} {parser : Parser Number}
    (settled : Settled readNumber reader parser) {char : Char}
    (noWord : isWordChar char = false) (rest : List Char) :
    JsonDecoding.read readNumber reader (char :: rest) =
      JsonDecoding.read readNumber ⟨.plain, parser⟩ (char :: rest) := by
  rcases settled with rfl | ⟨word, before, rfl, ends⟩
  · rfl
  · rw [read_cons, read_cons]
    show (if isWordChar char then _ else
      (readWord readNumber before word).bind fun parser =>
        readPlain parser char : Option (Reader Number)).bind _ = _
    rw [if_neg (by rw [noWord]; exact Bool.false_ne_true), ends]
    rfl

theorem Settled.finish {reader : Reader Number} {parser : Parser Number}
    (settled : Settled readNumber reader parser) :
    JsonDecoding.finish readNumber reader = parser.result := by
  rcases settled with rfl | ⟨word, before, rfl, ends⟩
  · rfl
  · show (readWord readNumber before word).bind Parser.result = _
    rw [ends]
    rfl

/-- A value may begin here, inside the given frames. -/
def Awaits (parser : Parser Number) (frames : List (Frame Number)) : Prop :=
  ∀ token, token ≠ .closeList →
    step parser token = beginValue frames token

theorem awaits_value (frames : List (Frame Number)) :
    Awaits (.value frames) frames :=
  fun _ _ => rfl

theorem awaits_inList (frames : List (Frame Number)) :
    Awaits (.inList frames) (.items [] :: frames) := by
  intro token noEnd
  cases token with
  | closeList => exact (noEnd rfl).elim
  | _ => rfl

/-- A name may stand here, after the given members. -/
def AwaitsName (parser : Parser Number)
    (entries : List (Key × Value Number)) (frames : List (Frame Number)) :
    Prop :=
  ∀ text,
    step parser (.string text) =
      some (.afterName entries (arrayKey text) frames)

/-- A written word is the token of its value. -/
theorem settled_word {parser : Parser Number}
    {frames : List (Frame Number)} (awaits : Awaits parser frames)
    {word : List Char} {value : Value Number} (nonempty : word ≠ [])
    (all : ∀ char ∈ word, isWordChar char = true)
    (isToken : wordToken readNumber word = some (.scalar value)) :
    ∃ reader, Settled readNumber reader (deliver value frames) ∧
      read readNumber ⟨.plain, parser⟩ word = some reader := by
  refine ⟨_, Or.inr ⟨word, parser, rfl, ?_⟩, read_word nonempty all parser⟩
  rw [readWord, isToken]
  refine awaits (.scalar value) ?_
  intro same
  cases same

theorem settled_literal {parser : Parser Number}
    {frames : List (Frame Number)} (awaits : Awaits parser frames)
    {word : List Char} {value : Value Number}
    (literal :
      (word = "null".toList ∧ value = .null) ∨
        (word = "true".toList ∧ value = .bool true) ∨
          (word = "false".toList ∧ value = .bool false)) :
    ∃ reader, Settled readNumber reader (deliver value frames) ∧
      read readNumber ⟨.plain, parser⟩ word = some reader := by
  rcases literal with ⟨rfl, rfl⟩ | ⟨rfl, rfl⟩ | ⟨rfl, rfl⟩ <;>
    exact settled_word awaits nofun (by simp [isWordChar]) rfl

section Writing

variable (readNumber) (write : Number → List Char) (pretty : Bool)

/-- The encoded value is read as itself wherever it may stand. -/
def ReadsBack (value : Value Number) : Prop :=
  ∀ level parser frames, Awaits parser frames →
    frames.length + nesting value < depth →
      ∃ reader, Settled readNumber reader (deliver value frames) ∧
        read readNumber ⟨.plain, parser⟩
            (encode write pretty level value) =
          some reader

variable {readNumber write pretty}

/-- The items of a list are read in turn. -/
theorem read_items (level : ℕ) {frames : List (Frame Number)}
    {entries : List (Key × Value Number)} (nonempty : entries ≠ [])
    (values :
      ∀ entry ∈ entries, ReadsBack readNumber write pretty entry.2)
    (shallow : frames.length + 1 + nestingOf entries < depth)
    (finished : List (Value Number)) {parser : Parser Number}
    (awaits : Awaits parser (.items finished :: frames)) :
    ∃ reader,
      Settled readNumber reader
          (.afterItem (finished ++ entries.map Prod.snd) frames) ∧
        read readNumber ⟨.plain, parser⟩
            (encodeEntries write pretty level true entries) =
          some reader := by
  induction entries generalizing finished parser with
  | nil => exact (nonempty rfl).elim
  | cons entry rest induction =>
      rcases entry with ⟨key, value⟩
      rw [List.forall_mem_cons] at values
      rw [nestingOf] at shallow
      have within : frames.length + 1 + nesting value < depth := by omega
      rcases
          values.1 level parser (.items finished :: frames) awaits within with
        ⟨reader, settled, reads⟩
      rw [encodeEntries, read_spaces parser (isSpace_newLine pretty level),
        show memberName pretty true key = [] from rfl, List.nil_append,
        read_append, reads, Option.bind_some]
      cases rest with
      | nil => exact ⟨reader, settled, rfl⟩
      | cons next rest =>
          have later :=
            induction (List.cons_ne_nil _ _) values.2 (by omega)
              (finished ++ [value]) (awaits_value _)
          rw [List.append_assoc] at later
          show ∃ reader, _ ∧ read readNumber _ (',' :: _) = _
          rw [settled.read rfl]
          exact later

/-- A name and its colon are read as their key. -/
theorem read_memberName {parser : Parser Number}
    {entries : List (Key × Value Number)} {frames : List (Frame Number)}
    (awaits : AwaitsName parser entries frames) {key : Key}
    (canonical : key.Canonical) (rest : List Char) :
    read readNumber ⟨.plain, parser⟩
        (memberName pretty false key ++ rest) =
      read readNumber ⟨.plain, .value (.member entries key :: frames)⟩
        rest := by
  have stepped := awaits key.plain
  rw [canonical] at stepped
  show read readNumber _
    ((('"' :: key.text) ++ ('"' :: ':' :: _)) ++ rest) = _
  rw [List.append_assoc, key.text_eq]
  refine (read_string stepped _).trans ?_
  show read readNumber
    ⟨.plain, .value (.member entries key :: frames)⟩ (_ ++ rest) = _
  apply read_spaces
  intro char member
  cases pretty with
  | false => cases member
  | true =>
      rw [List.eq_of_mem_singleton member]
      rfl

/-- The members of an object are read in turn. -/
theorem read_members (level : ℕ) {frames : List (Frame Number)}
    {entries : List (Key × Value Number)} (nonempty : entries ≠ [])
    (values :
      ∀ entry ∈ entries, ReadsBack readNumber write pretty entry.2)
    (shallow : frames.length + 1 + nestingOf entries < depth)
    (keys : ∀ entry ∈ entries, entry.1.Canonical)
    (finished : List (Key × Value Number))
    (distinct : ((finished ++ entries).map Prod.fst).Nodup)
    {parser : Parser Number}
    (awaits : AwaitsName parser finished frames) :
    ∃ reader,
      Settled readNumber reader
          (.afterMember (finished ++ entries) frames) ∧
        read readNumber ⟨.plain, parser⟩
            (encodeEntries write pretty level false entries) =
          some reader := by
  induction entries generalizing finished parser with
  | nil => exact (nonempty rfl).elim
  | cons entry rest induction =>
      rcases entry with ⟨key, value⟩
      have new : key ∉ finished.map Prod.fst := by
        rw [List.map_append, List.nodup_append] at distinct
        exact fun old => distinct.2.2 key old key (List.mem_cons_self) rfl
      have inserted :
          insert key value finished = finished ++ [(key, value)] :=
        OrderedMap.adjust_of_not_mem new
      rw [List.forall_mem_cons] at values keys
      rw [nestingOf] at shallow
      have within : frames.length + 1 + nesting value < depth := by omega
      rcases
          values.1 level (.value (.member finished key :: frames)) _
            (awaits_value _) within with
        ⟨reader, settled, reads⟩
      rw [deliver, inserted] at settled
      rw [encodeEntries, read_spaces parser (isSpace_newLine pretty level),
        read_memberName awaits keys.1, read_append, reads,
        Option.bind_some]
      cases rest with
      | nil => exact ⟨reader, settled, rfl⟩
      | cons next rest =>
          have later :=
            induction (List.cons_ne_nil _ _) values.2 (by omega) keys.2
              (finished ++ [(key, value)]) (by
                rwa [List.append_assoc])
              (show AwaitsName (.name _ frames) _ _ from fun _ => rfl)
          rw [List.append_assoc] at later
          show ∃ reader, _ ∧ read readNumber _ (',' :: _) = _
          rw [settled.read rfl]
          exact later

/-- An array that is a list is the array of its values. -/
theorem listEntries_of_isList {entries : List (Key × Value Number)}
    (list : isList entries = true) :
    listEntries (entries.map Prod.snd) = entries := by
  have keys := of_decide_eq_true list
  apply List.ext_getElem
  · simp [listEntries]
  · intro index below within
    have key := congrArg (·[index]?) keys
    simp only [List.getElem?_map, List.getElem?_range within,
      List.getElem?_eq_getElem within, Option.map_some,
      Option.some_inj] at key
    simp only [listEntries, List.getElem_map, List.getElem_zipIdx,
      Nat.zero_add]
    rw [← key]

/-- A punctuation character outside words and strings is its token. -/
theorem readPlain_of_punctuation {parser next : Parser Number}
    {char : Char} {token : Token Number}
    (isToken : punctuation char = some token)
    (steps : step parser token = some next) :
    readPlain parser char = some ⟨.plain, next⟩ := by
  unfold punctuation at isToken
  split at isToken <;> cases isToken <;>
    (show (step parser _).bind _ = _
     rw [steps]
     rfl)

/-- The end of an array closes it, on a line of its own or not. -/
theorem settled_close {reader : Reader Number}
    {before after : Parser Number}
    (settled : Settled readNumber reader before) {level : ℕ}
    {close : Char} (noWord : isWordChar close = false)
    (closes : readPlain before close = some ⟨.plain, after⟩) :
    read readNumber reader (newLine pretty level ++ [close]) =
      some ⟨.plain, after⟩ := by
  have closed :
      read readNumber ⟨.plain, before⟩ [close] =
        some ⟨.plain, after⟩ := by
    show (readPlain before close).bind _ = _
    rw [closes]
    rfl
  cases pretty with
  | false =>
      show read readNumber reader [close] = _
      rw [settled.read noWord, closed]
  | true =>
      show read readNumber reader ('\n' :: _) = _
      rw [settled.read rfl]
      show read readNumber ⟨.plain, before⟩
        (newLine true level ++ [close]) = _
      rw [read_spaces before (isSpace_newLine true level), closed]

/-- The empty array is a list without items. -/
theorem readsBack_empty :
    ReadsBack readNumber write pretty (.array []) := by
  intro level parser frames awaits shallow
  have opened : step parser .openList = some (.inList frames) :=
    (awaits .openList nofun).trans (if_pos shallow)
  refine ⟨_, Or.inl rfl, ?_⟩
  show read readNumber _ ['[', ']'] = _
  rw [read_cons]
  show (readPlain parser '[').bind _ = _
  rw [readPlain_of_punctuation rfl opened]
  rfl

/-- A list is read back when its items are. -/
theorem readsBack_list {entries : List (Key × Value Number)}
    (nonempty : entries ≠ []) (list : isList entries = true)
    (values :
      ∀ entry ∈ entries, ReadsBack readNumber write pretty entry.2) :
    ReadsBack readNumber write pretty (.array entries) := by
  intro level parser frames awaits shallow
  rw [nesting] at shallow
  have opened : step parser .openList = some (.inList frames) :=
    (awaits .openList nofun).trans
      (if_pos (show frames.length + 1 < depth by omega))
  rcases read_items (level + 1) nonempty values (by omega) []
      (awaits_inList frames) with
    ⟨reader, settled, reads⟩
  have closed :
      step (.afterItem (entries.map Prod.snd) frames) .closeList =
        some (deliver (.array entries) frames) := by
    show some (deliver (.array (listEntries _)) frames) = _
    rw [listEntries_of_isList list]
  refine ⟨_, Or.inl rfl, ?_⟩
  rw [encode, list, if_pos rfl, if_pos rfl,
    List.isEmpty_eq_false_iff.mpr nonempty, read_cons]
  show (readPlain parser '[').bind _ = _
  rw [readPlain_of_punctuation rfl opened, Option.bind_some, read_append,
    reads, Option.bind_some]
  exact
    settled_close settled rfl (readPlain_of_punctuation rfl closed)

/-- An object is read back when the values of its members are. -/
theorem readsBack_object {entries : List (Key × Value Number)}
    (noList : isList entries = false)
    (distinct : (entries.map Prod.fst).Nodup)
    (keys : ∀ entry ∈ entries, entry.1.Canonical)
    (values :
      ∀ entry ∈ entries, ReadsBack readNumber write pretty entry.2) :
    ReadsBack readNumber write pretty (.array entries) := by
  intro level parser frames awaits shallow
  rw [nesting] at shallow
  have nonempty : entries ≠ [] := by
    rintro rfl
    cases noList
  have opened : step parser .openObject = some (.inObject frames) :=
    (awaits .openObject nofun).trans
      (if_pos (show frames.length + 1 < depth by omega))
  rcases read_members (level + 1) nonempty values (by omega) keys
      [] distinct
      (show AwaitsName (.inObject frames) [] frames from fun _ => rfl) with
    ⟨reader, settled, reads⟩
  have closed :
      step (.afterMember ([] ++ entries) frames) .closeObject =
        some (deliver (.array entries) frames) :=
    rfl
  refine ⟨_, Or.inl rfl, ?_⟩
  rw [encode, noList, if_neg Bool.false_ne_true,
    if_neg Bool.false_ne_true, List.isEmpty_eq_false_iff.mpr nonempty,
    read_cons]
  show (readPlain parser '\x7b').bind _ = _
  rw [readPlain_of_punctuation rfl opened, Option.bind_some, read_append,
    reads, Option.bind_some]
  exact
    settled_close settled rfl (readPlain_of_punctuation rfl closed)

/-- Every value in normal form is read back. -/
theorem readsBack {value : Value Number}
    (format : NumberFormat Number)
    (canonical : value.Canonical format.Exact) :
    ReadsBack format.read format.write pretty value := by
  induction canonical with
  | null =>
      intro level parser frames awaits _
      exact settled_literal awaits (Or.inl ⟨rfl, rfl⟩)
  | bool value =>
      intro level parser frames awaits _
      cases value with
      | true => exact settled_literal awaits (Or.inr (Or.inl ⟨rfl, rfl⟩))
      | false => exact settled_literal awaits (Or.inr (Or.inr ⟨rfl, rfl⟩))
  | number value isExact =>
      intro level parser frames awaits _
      have written := format.isNumber_write value
      have isToken :=
        @wordToken_of_isNumber _ format.read _ written
      rw [format.read_write value isExact] at isToken
      refine
        settled_word awaits ?_ (format.isWordChar_write value) isToken
      intro empty
      rw [show format.write value = [] from empty] at written
      cases written
  | string text =>
      intro level parser frames awaits _
      refine ⟨_, Or.inl rfl, ?_⟩
      have stepped := awaits (.string text) nofun
      show read format.read _ (('"' :: escapeText text) ++ ['"']) = _
      exact read_string stepped []
  | array entries distinct keys values induction =>
      by_cases empty : entries = []
      · rw [empty]
        exact readsBack_empty
      · cases list : isList entries with
        | true => exact readsBack_list empty list induction
        | false => exact readsBack_object list distinct (keys list) induction

/-- What is encoded is decoded to itself, one level below the limit. -/
theorem jsonDecode_jsonEncode (format : NumberFormat Number)
    {value : Value Number} (canonical : value.Canonical format.Exact)
    (shallow : nesting value < depth) {text : List Char}
    (encodes : jsonEncode format.write pretty value = some text) :
    jsonDecode format.read text = some value := by
  rw [jsonEncode, if_pos shallow.le] at encodes
  rcases Option.some.inj encodes with rfl
  rcases
      readsBack format canonical 0 (.value []) [] (awaits_value _) (by
        rwa [List.length_nil, Nat.zero_add]) with
    ⟨reader, settled, reads⟩
  rw [jsonDecode, decodeFrom, reads, Option.bind_some, settled.finish]
  rfl

end Writing

end Reading

end SultanPass.Library.JsonDecoding

