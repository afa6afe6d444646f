import SultanPass.Library.DecimalText

/-!
# Texts that spell numbers

Three readers of a text: an integer with a sign, a key that an array holds
as an integer, and any numeric text.  The first two accept one spelling of
each number only (`filterInteger_repr`, `integerKey_injective`).
-/

namespace SultanPass.Library.NumericText

open SultanPass.Library.DecimalText

/-! ## Digits -/

/-- The number of its digits, unless these have zeros in front. -/
def canonicalDigits (digits : List Char) : Option ℕ :=
  if Nat.toDigits 10 (Nat.ofDigitChars 10 digits 0) = digits then
    some (Nat.ofDigitChars 10 digits 0)
  else
    none

theorem canonicalDigits_eq_some_iff (digits : List Char) (number : ℕ) :
    canonicalDigits digits = some number ↔
      digits = Nat.toDigits 10 number := by
  rw [canonicalDigits]
  constructor
  · intro reads
    split_ifs at reads with same
    rcases Option.some.inj reads with rfl
    exact same.symm
  · rintro rfl
    have value :
        Nat.ofDigitChars 10 (Nat.toDigits 10 number) 0 = number :=
      Nat.ofDigitChars_toDigits (by omega) (by omega)
    rw [value, if_pos rfl]

/-- Digits do not begin with a sign. -/
theorem head?_toDigits_ne {sign : Char} (noDigit : sign.isDigit = false)
    (number : ℕ) : (Nat.toDigits 10 number).head? ≠ some sign := by
  intro first
  have isDigit :=
    isDigit_of_mem_toDigits number sign (List.mem_of_mem_head? first)
  rw [noDigit] at isDigit
  cases isDigit

/-! ## Integers -/

/-- The bound of a 64-bit integer. -/
def integerBound : ℕ :=
  2 ^ 63

/-- Whether a number is a 64-bit integer. -/
def FitsInteger (value : ℤ) : Prop :=
  -(integerBound : ℤ) ≤ value ∧ value < integerBound

instance (value : ℤ) : Decidable (FitsInteger value) :=
  inferInstanceAs (Decidable (_ ∧ _))

/-- Whether a text begins with a minus sign, and what is behind a sign. -/
def splitSign (text : List Char) : Bool × List Char :=
  if text.head? = some '-' then (true, text.tail)
  else if text.head? = some '+' then (false, text.tail)
  else (false, text)

theorem splitSign_of_head? {text : List Char}
    (noMinus : text.head? ≠ some '-') (noPlus : text.head? ≠ some '+') :
    splitSign text = (false, text) := by
  rw [splitSign, if_neg noMinus, if_neg noPlus]

/-- A number with or without a minus sign. -/
def signed (negative : Bool) (number : ℕ) : ℤ :=
  if negative then -number else number

/-- The integer that `FILTER_VALIDATE_INT` reads. -/
def filterInteger? (text : List Char) : Option ℤ :=
  ((canonicalDigits (splitSign text).2).map
    (signed (splitSign text).1)).filter fun value => FitsInteger value

/-- The text of a number is read when the number fits. -/
theorem filterInteger_repr (number : ℕ) :
    filterInteger? number.repr.toList =
      if number < integerBound then some (number : ℤ) else none := by
  have read : canonicalDigits (Nat.toDigits 10 number) = some number :=
    (canonicalDigits_eq_some_iff _ _).mpr rfl
  have digits : number.repr.toList = Nat.toDigits 10 number := by simp
  rw [filterInteger?, digits,
    splitSign_of_head? (head?_toDigits_ne (by decide) number)
      (head?_toDigits_ne (by decide) number),
    read]
  have fits :
      FitsInteger (signed false number) ↔ number < integerBound := by
    show -(integerBound : ℤ) ≤ (number : ℤ) ∧ (number : ℤ) < integerBound ↔ _
    omega
  rw [Option.map_some, Option.filter_some]
  by_cases small : number < integerBound
  · rw [if_pos (decide_eq_true (fits.mpr small)), if_pos small]
    rfl
  · have large : ¬ decide (FitsInteger (signed false number)) = true := by
      rw [decide_eq_true_eq]
      exact mt fits.mp small
    rw [if_neg large, if_neg small]

/-- The integer that an array key becomes. -/
def integerKey? (text : List Char) : Option ℤ :=
  if text.head? = some '-' then
    ((canonicalDigits text.tail).filter fun number =>
      0 < number ∧ number ≤ integerBound).map (signed true)
  else
    ((canonicalDigits text).filter fun number =>
      number < integerBound).map (signed false)

/-- The spelling of an integer key. -/
def keyText (value : ℤ) : List Char :=
  if value < 0 then '-' :: Nat.toDigits 10 value.natAbs
  else Nat.toDigits 10 value.natAbs

theorem eq_keyText_of_integerKey {text : List Char} {value : ℤ}
    (reads : integerKey? text = some value) : text = keyText value := by
  rw [integerKey?] at reads
  split_ifs at reads with minus
  · rcases Option.map_eq_some_iff.mp reads with ⟨number, accepted, rfl⟩
    rcases Option.filter_eq_some_iff.mp accepted with ⟨digits, bounds⟩
    rw [canonicalDigits_eq_some_iff] at digits
    rw [decide_eq_true_eq] at bounds
    have negative : -(number : ℤ) < 0 := by omega
    rw [keyText, signed, if_pos rfl, if_pos negative, Int.natAbs_neg,
      Int.natAbs_natCast, ← digits]
    exact List.eq_cons_of_mem_head? minus
  · rcases Option.map_eq_some_iff.mp reads with ⟨number, accepted, rfl⟩
    rcases Option.filter_eq_some_iff.mp accepted with ⟨digits, _⟩
    rw [canonicalDigits_eq_some_iff] at digits
    have nonneg : ¬ ((number : ℤ) < 0) := by omega
    rw [keyText, signed, if_neg Bool.false_ne_true, if_neg nonneg,
      Int.natAbs_natCast]
    exact digits

/-- Different texts are different integer keys. -/
theorem integerKey_injective {left right : List Char} {value : ℤ}
    (leftReads : integerKey? left = some value)
    (rightReads : integerKey? right = some value) : left = right :=
  (eq_keyText_of_integerKey leftReads).trans
    (eq_keyText_of_integerKey rightReads).symm

/-! ## Numeric texts -/

/-- Blanks around a numeric text. -/
def isNumericBlank (char : Char) : Bool :=
  [32, 9, 10, 13, 11, 12].contains char.toNat

/-- Nothing, or an exponent with its digits. -/
def isExponent : List Char → Bool
  | [] => true
  | mark :: rest =>
      (mark = 'e' || mark = 'E') &&
        (let digits := (splitSign rest).2
         !digits.isEmpty && digits.all Char.isDigit)

/-- Digits, a fraction and an exponent; the digits may be on one side. -/
def isMagnitude (text : List Char) : Bool :=
  let whole := text.takeWhile Char.isDigit
  match behindPoint (text.dropWhile Char.isDigit) with
  | none => !whole.isEmpty && isExponent (text.dropWhile Char.isDigit)
  | some behind =>
      (!whole.isEmpty || !(behind.takeWhile Char.isDigit).isEmpty) &&
        isExponent (behind.dropWhile Char.isDigit)

/-- The value of a numeric text. -/
def numericValue? (text : List Char) : Option ℚ :=
  let body :=
    splitSign
      (((text.dropWhile isNumericBlank).reverse.dropWhile
        isNumericBlank).reverse)
  if isMagnitude body.2 then
    some
      (if body.1 then -readMagnitude body.2 else readMagnitude body.2)
  else
    none

example :
    ["1.50", "-.5e1", "7.", "1e", ".", "0x1A", "", "+2 "].map
        (fun text => numericValue? text.toList) =
      [some (3 / 2), some (-5), some 7, none, none, none, none,
        some 2] := by
  decide +kernel

end SultanPass.Library.NumericText
