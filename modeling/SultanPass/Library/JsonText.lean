import Mathlib.Data.Int.Basic
import Mathlib.Data.List.Basic

/-!
# A JSON fragment: null, integers, strings and integer lists

`encode` prints a value as JSON text and `decode` reads one value back from
a complete text.  Strings are printed the way PHP does by default, with the
quote, the backslash and the slash escaped; the fragment is meant for
printable ASCII text, which needs no other escape.  A text outside the
fragment is not decoded.

The main theorem is the round trip `decode_encode`.  It also tells what a
second encoding costs: one decoding then returns the text of the value and
not the value.
-/

namespace SultanPass.Library.JsonText

/-- JSON text. -/
abbrev Text :=
  List Char

/-- A value of the fragment. -/
inductive Value where
  | null
  | int (number : ℤ)
  | str (text : Text)
  | list (numbers : List ℤ)
deriving DecidableEq, Repr

/-! ## Integers -/

/-- Decimal text of an integer. -/
def encodeInt : ℤ → Text
  | .ofNat number => Nat.toDigits 10 number
  | .negSucc number => '-' :: Nat.toDigits 10 (number + 1)

/-- Read a nonempty list of decimal digits. -/
def decodeNat (text : Text) : Option ℕ :=
  if text ≠ [] ∧ text.all Char.isDigit then
    some (Nat.ofDigitChars 10 text 0)
  else
    none

/-- Read an optional sign followed by decimal digits. -/
def decodeInt : Text → Option ℤ
  | '-' :: digits => (decodeNat digits).map fun number => -(number : ℤ)
  | digits => (decodeNat digits).map fun number => (number : ℤ)

@[simp]
theorem decodeNat_toDigits (number : ℕ) :
    decodeNat (Nat.toDigits 10 number) = some number := by
  have digits :
      (Nat.toDigits 10 number).all Char.isDigit = true := by
    rw [List.all_eq_true]
    intro digit member
    exact Nat.isDigit_of_mem_toDigits (by omega) (by omega) member
  rw [decodeNat, if_pos ⟨Nat.toDigits_ne_nil, digits⟩,
    Nat.ofDigitChars_toDigits (by omega) (by omega)]

/-- The first character of a natural number's text is a digit. -/
theorem toDigits_head
    (number : ℕ) :
    ∃ digit rest,
      Nat.toDigits 10 number = digit :: rest ∧
        digit.isDigit = true := by
  cases equal : Nat.toDigits 10 number with
  | nil => exact (Nat.toDigits_ne_nil equal).elim
  | cons digit rest =>
      refine ⟨digit, rest, rfl, ?_⟩
      exact
        Nat.isDigit_of_mem_toDigits (b := 10) (by omega) (by omega)
          (by rw [equal]; exact List.mem_cons_self)

@[simp]
theorem decodeInt_encodeInt (number : ℤ) :
    decodeInt (encodeInt number) = some number := by
  cases number with
  | ofNat number =>
      obtain ⟨digit, rest, equal, isDigit⟩ := toDigits_head number
      have notSign : digit ≠ '-' := by
        rintro rfl
        simp at isDigit
      have decoded := decodeNat_toDigits number
      simp only [encodeInt]
      rw [equal] at decoded ⊢
      rw [decodeInt]
      · simp [decoded]
      · intro digits impossible
        exact notSign (List.cons.inj impossible).1
  | negSucc number =>
      simp [encodeInt, decodeInt, Int.negSucc_eq]

/-- No integer text contains a comma, so a comma separates list entries. -/
theorem comma_not_mem_encodeInt (number : ℤ) :
    ',' ∉ encodeInt number := by
  have digitsOnly (value : ℕ) : ',' ∉ Nat.toDigits 10 value := by
    intro member
    have isDigit :=
      Nat.isDigit_of_mem_toDigits (b := 10) (by omega) (by omega) member
    simp at isDigit
  cases number with
  | ofNat number => exact digitsOnly number
  | negSucc number =>
      simp only [encodeInt, List.mem_cons, not_or]
      exact ⟨by decide, digitsOnly _⟩

/-! ## Strings -/

/-- The characters printed with a backslash before them. -/
def needsEscape (character : Char) : Bool :=
  character = '"' || character = '\\' || character = '/'

/-- Print one character of a string. -/
def escapeChar (character : Char) : Text :=
  if needsEscape character then ['\\', character] else [character]

/-- Read the rest of a string after its opening quote, closing quote last. -/
def unescape : Text → Option Text
  | [] => none
  | ['"'] => some []
  | '\\' :: character :: rest =>
      if needsEscape character then
        (unescape rest).map (character :: ·)
      else
        none
  | character :: rest =>
      if needsEscape character then none
      else (unescape rest).map (character :: ·)

theorem unescape_flatMap_escapeChar (text : Text) :
    unescape (text.flatMap escapeChar ++ ['"']) = some text := by
  induction text with
  | nil => rfl
  | cons character rest induction =>
      rw [List.flatMap_cons, List.append_assoc]
      by_cases escaped : needsEscape character = true
      · simp [escapeChar, escaped, unescape, induction]
      · have notSlash : character ≠ '\\' := by
          rintro rfl
          exact escaped (by decide)
        have notQuote : character ≠ '"' := by
          rintro rfl
          exact escaped (by decide)
        rw [escapeChar, if_neg escaped, List.singleton_append,
          unescape]
        · simp [escaped, induction]
        · intro quote _
          exact notQuote quote
        · intro next tail slash _
          exact notSlash slash

/-! ## Values -/

/-- Print a value, as `json_encode` does on this fragment. -/
def encode : Value → Text
  | .null => ['n', 'u', 'l', 'l']
  | .int number => encodeInt number
  | .str text => '"' :: (text.flatMap escapeChar ++ ['"'])
  | .list numbers =>
      '[' :: ([','].intercalate (numbers.map encodeInt) ++ [']'])

/-- Read the entries of a list after its opening bracket. -/
def decodeEntries (text : Text) : Option (List ℤ) :=
  if text.getLast? = some ']' then
    if text.dropLast = [] then some []
    else (text.dropLast.splitOn ',').mapM decodeInt
  else
    none

/-- Read one value from a complete text, as `json_decode` does. -/
def decode : Text → Option Value
  | ['n', 'u', 'l', 'l'] => some .null
  | '"' :: body => (unescape body).map .str
  | '[' :: body => (decodeEntries body).map .list
  | text => (decodeInt text).map .int

theorem mapM_decodeInt_map_encodeInt (numbers : List ℤ) :
    (numbers.map encodeInt).mapM decodeInt = some numbers := by
  induction numbers with
  | nil => rfl
  | cons number rest induction =>
      simp [List.mapM_cons, induction]

theorem encodeInt_ne_nil (number : ℤ) : encodeInt number ≠ [] := by
  cases number with
  | ofNat number => exact Nat.toDigits_ne_nil
  | negSucc number => simp [encodeInt]

theorem decodeEntries_encoded (numbers : List ℤ) :
    decodeEntries
        ([','].intercalate (numbers.map encodeInt) ++ [']']) =
      some numbers := by
  cases numbers with
  | nil => rfl
  | cons number rest =>
      have nonempty :
          [','].intercalate ((number :: rest).map encodeInt) ≠ [] := by
        cases rest <;> simp [List.intercalate, encodeInt_ne_nil]
      have split :
          ([','].intercalate
              ((number :: rest).map encodeInt)).splitOn ',' =
            (number :: rest).map encodeInt := by
        apply List.splitOn_intercalate
        · intro entry member
          obtain ⟨entryNumber, _, rfl⟩ := List.mem_map.mp member
          exact comma_not_mem_encodeInt entryNumber
        · simp
      rw [decodeEntries]
      simp only [List.getLast?_append, List.getLast?_singleton,
        Option.some_or, if_true, List.dropLast_concat]
      rw [if_neg nonempty, split, mapM_decodeInt_map_encodeInt]

theorem decode_encodeInt (number : ℤ) :
    decode (encodeInt number) = some (.int number) := by
  have decoded := decodeInt_encodeInt number
  cases number with
  | ofNat number =>
      obtain ⟨digit, rest, equal, isDigit⟩ := toDigits_head number
      simp only [encodeInt] at decoded ⊢
      rw [equal] at decoded ⊢
      rw [decode]
      · rw [decoded]
        rfl
      · rintro ⟨rfl, -⟩
        simp at isDigit
      · rintro body impossible
        obtain ⟨rfl, -⟩ := List.cons.inj impossible
        simp at isDigit
      · rintro body impossible
        obtain ⟨rfl, -⟩ := List.cons.inj impossible
        simp at isDigit
  | negSucc number =>
      simp only [encodeInt] at decoded ⊢
      simp [decode, decoded]

/-- Decoding the text of a value returns the value. -/
@[simp]
theorem decode_encode (value : Value) :
    decode (encode value) = some value := by
  cases value with
  | null => rfl
  | int number => exact decode_encodeInt number
  | str text =>
      simp [encode, decode, unescape_flatMap_escapeChar]
  | list numbers =>
      simp [encode, decode, decodeEntries_encoded]

end SultanPass.Library.JsonText
