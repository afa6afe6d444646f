import SultanPass.Library.JsonEncoding
import SultanPass.Library.Rounding

/-!
# Decimal text of numbers

`write digits` prints a number with at most the given number of decimals,
without zeros at their end.  `read` is the value of any number of a JSON
document.  Together they are a `NumberFormat`, exact on the grid of the
printed decimals.
-/

namespace SultanPass.Library.DecimalText

open SultanPass.Library.JsonDecoding
open SultanPass.Library.Rounding

/-! ## Writing -/

/-- The last `digits` digits of a number. -/
def lastDigits : ℕ → ℕ → List Char
  | 0, _ => []
  | digits + 1, number =>
      lastDigits digits (number / 10) ++ [Nat.digitChar (number % 10)]

/-- The last `digits` digits of a number, without the zeros at the end. -/
def decimals : ℕ → ℕ → List Char
  | 0, _ => []
  | digits + 1, number =>
      if number % 10 = 0 then decimals digits (number / 10)
      else lastDigits (digits + 1) number

/-- A number of steps of the grid, without its sign. -/
def magnitude (digits steps : ℕ) : List Char :=
  Nat.toDigits 10 (steps / 10 ^ digits) ++
    (if decimals digits steps = [] then [] else '.' :: decimals digits steps)

/-- A number, rounded to `digits` decimals. -/
def write (digits : ℕ) (number : ℚ) : List Char :=
  (if gridSteps digits number < 0 then ['-'] else []) ++
    magnitude digits (gridSteps digits number).natAbs

/-! ## Reading -/

/-- The text behind the sign. -/
def unsigned (text : List Char) : List Char :=
  if text.head? = some '-' then text.tail else text

/-- The text behind the point, if there is one. -/
def behindPoint (text : List Char) : Option (List Char) :=
  if text.head? = some '.' then some text.tail else none

/-- The exponent that a text spells behind its mark. -/
def readExponent : List Char → ℤ
  | [] => 0
  | _ :: rest =>
      if rest.head? = some '-' then -(Nat.ofDigitChars 10 rest.tail 0 : ℤ)
      else if rest.head? = some '+' then Nat.ofDigitChars 10 rest.tail 0
      else Nat.ofDigitChars 10 rest 0

/-- The value of a number without its sign. -/
def readMagnitude (text : List Char) : ℚ :=
  let whole := text.takeWhile Char.isDigit
  match behindPoint (text.dropWhile Char.isDigit) with
  | none =>
      Nat.ofDigitChars 10 whole 0 *
        10 ^ readExponent (text.dropWhile Char.isDigit)
  | some behind =>
      let fraction := behind.takeWhile Char.isDigit
      Nat.ofDigitChars 10 (whole ++ fraction) 0 / 10 ^ fraction.length *
        10 ^ readExponent (behind.dropWhile Char.isDigit)

/-- The value of a number. -/
def read (text : List Char) : ℚ :=
  if text.head? = some '-' then -readMagnitude text.tail
  else readMagnitude text

/-! ## Digits -/

theorem isDigit_digitChar (number : ℕ) :
    (Nat.digitChar (number % 10)).isDigit = true := by
  have small : number % 10 < 10 := Nat.mod_lt _ (by omega)
  generalize number % 10 = digit at small
  interval_cases digit <;> rfl

theorem isDigit_of_mem_lastDigits {digits number : ℕ} :
    ∀ char ∈ lastDigits digits number, char.isDigit = true := by
  induction digits generalizing number with
  | zero => exact nofun
  | succ digits induction =>
      intro char member
      rcases List.mem_append.mp member with earlier | last
      · exact induction char earlier
      · rw [List.mem_singleton.mp last]
        exact isDigit_digitChar number

@[simp]
theorem length_lastDigits (digits number : ℕ) :
    (lastDigits digits number).length = digits := by
  induction digits generalizing number with
  | zero => rfl
  | succ digits induction =>
      rw [lastDigits, List.length_append, induction, List.length_singleton]

theorem mod_pow_succ (digits number : ℕ) :
    number % 10 ^ (digits + 1) =
      10 * (number / 10 % 10 ^ digits) + number % 10 := by
  rw [pow_succ, mul_comm, Nat.mod_mul]
  omega

theorem ofDigitChars_lastDigits (digits number : ℕ) :
    Nat.ofDigitChars 10 (lastDigits digits number) 0 =
      number % 10 ^ digits := by
  induction digits generalizing number with
  | zero => exact (Nat.mod_one number).symm
  | succ digits induction =>
      rw [lastDigits, Nat.ofDigitChars_append, induction,
        Nat.ofDigitChars_cons_digitChar_of_lt_ten (Nat.mod_lt _ (by omega)),
        Nat.ofDigitChars_nil, mod_pow_succ]

/-- What the decimals are worth, and how many they are. -/
theorem decimals_spec (digits number : ℕ) :
    (∀ char ∈ decimals digits number, char.isDigit = true) ∧
      ∃ zeros, (decimals digits number).length + zeros = digits ∧
        Nat.ofDigitChars 10 (decimals digits number) 0 * 10 ^ zeros =
          number % 10 ^ digits := by
  induction digits generalizing number with
  | zero => exact ⟨nofun, 0, rfl, (Nat.mod_one number).symm⟩
  | succ digits induction =>
      rw [decimals]
      split_ifs with zero
      · rcases induction (number / 10) with ⟨all, zeros, length, value⟩
        refine ⟨all, zeros + 1, by omega, ?_⟩
        rw [pow_succ, ← mul_assoc, value, mod_pow_succ, zero, mul_comm,
          add_zero]
      · refine ⟨isDigit_of_mem_lastDigits, 0, ?_, ?_⟩
        · rw [length_lastDigits, add_zero]
        · rw [ofDigitChars_lastDigits, pow_zero, mul_one]

/-! ## Reading what was written -/

/-- Where the digits of a text end. -/
theorem split_digits {digits rest : List Char}
    (all : ∀ char ∈ digits, char.isDigit = true)
    (ends : ∀ char ∈ rest.head?, char.isDigit = false) :
    (digits ++ rest).takeWhile Char.isDigit = digits ∧
      (digits ++ rest).dropWhile Char.isDigit = rest := by
  rw [List.takeWhile_append_of_pos all, List.dropWhile_append_of_pos all]
  cases rest with
  | nil => exact ⟨List.append_nil digits, rfl⟩
  | cons char rest =>
      have noDigit : ¬ char.isDigit = true := by
        rw [ends char rfl]
        exact Bool.false_ne_true
      rw [List.takeWhile_cons_of_neg noDigit,
        List.dropWhile_cons_of_neg noDigit]
      exact ⟨List.append_nil digits, rfl⟩

theorem split_all_digits {digits : List Char}
    (all : ∀ char ∈ digits, char.isDigit = true) :
    digits.takeWhile Char.isDigit = digits ∧
      digits.dropWhile Char.isDigit = [] := by
  have parts : (digits ++ []).takeWhile Char.isDigit = digits ∧
      (digits ++ []).dropWhile Char.isDigit = [] :=
    split_digits all nofun
  rwa [List.append_nil] at parts

theorem isDigit_of_mem_toDigits (number : ℕ) :
    ∀ char ∈ Nat.toDigits 10 number, char.isDigit = true :=
  fun _ member =>
    Nat.isDigit_of_mem_toDigits (by omega) (by omega) member

/-- The two parts of a written number. -/
theorem split_magnitude (digits steps : ℕ) :
    (magnitude digits steps).takeWhile Char.isDigit =
        Nat.toDigits 10 (steps / 10 ^ digits) ∧
      (magnitude digits steps).dropWhile Char.isDigit =
        if decimals digits steps = [] then []
        else '.' :: decimals digits steps := by
  apply split_digits (isDigit_of_mem_toDigits _)
  intro char first
  split_ifs at first
  · cases first
  · rcases Option.some.inj first with rfl
    rfl

/-- Reading a written number gives its steps back. -/
theorem readMagnitude_magnitude (digits steps : ℕ) :
    readMagnitude (magnitude digits steps) =
      (steps : ℚ) / 10 ^ digits := by
  have positive : (0 : ℚ) < 10 ^ digits := by positivity
  rcases split_magnitude digits steps with ⟨whole, behind⟩
  rcases decimals_spec digits steps with ⟨all, zeros, length, value⟩
  have parts := Nat.div_add_mod steps (10 ^ digits)
  rw [readMagnitude, whole, behind]
  by_cases none : decimals digits steps = []
  · rw [none, Nat.ofDigitChars_nil, zero_mul] at value
    rw [if_pos none]
    show ((Nat.ofDigitChars 10 (Nat.toDigits 10 (steps / 10 ^ digits)) 0 :
      ℕ) : ℚ) * 10 ^ (0 : ℤ) = _
    rw [Nat.ofDigitChars_ten_toDigits, zpow_zero, mul_one,
      eq_div_iff positive.ne']
    have exact : steps / 10 ^ digits * 10 ^ digits = steps := by
      rw [mul_comm]
      omega
    exact_mod_cast exact
  · rw [if_neg none]
    have ends := split_all_digits all
    show ((Nat.ofDigitChars 10
      (_ ++ (decimals digits steps).takeWhile Char.isDigit) 0 : ℕ) : ℚ) /
        10 ^ ((decimals digits steps).takeWhile Char.isDigit).length *
          10 ^ readExponent
            ((decimals digits steps).dropWhile Char.isDigit) = _
    rw [ends.1, ends.2, Nat.ofDigitChars_append,
      Nat.ofDigitChars_ten_toDigits,
      Nat.ofDigitChars_eq_ofDigitChars_zero]
    show _ / _ * (10 : ℚ) ^ (0 : ℤ) = _
    rw [zpow_zero, mul_one, div_eq_div_iff (by positivity) positive.ne']
    have scaled :
        (10 ^ (decimals digits steps).length * (steps / 10 ^ digits) +
              Nat.ofDigitChars 10 (decimals digits steps) 0) *
            10 ^ zeros =
          steps := by
      rw [add_mul, value, mul_right_comm, ← pow_add, length]
      exact parts
    have power :
        10 ^ digits =
          10 ^ (decimals digits steps).length * 10 ^ zeros := by
      rw [← pow_add, length]
    norm_cast
    rw [power]
    calc
      _ = (10 ^ (decimals digits steps).length * (steps / 10 ^ digits) +
              Nat.ofDigitChars 10 (decimals digits steps) 0) *
            10 ^ zeros * 10 ^ (decimals digits steps).length := by
        rw [power]
        ring
      _ = steps * 10 ^ (decimals digits steps).length := by
        rw [scaled]

/-- Numbers with at most the given number of decimals. -/
def OnGrid (digits : ℕ) (number : ℚ) : Prop :=
  ∃ steps : ℤ, number = steps / 10 ^ digits

theorem onGrid_natCast (digits number : ℕ) : OnGrid digits number := by
  refine ⟨number * 10 ^ digits, ?_⟩
  push_cast
  field_simp

theorem onGrid_roundHalfAway (digits : ℕ) (value : ℚ) :
    OnGrid digits (roundHalfAway digits value) :=
  ⟨gridSteps digits value, roundHalfAway_eq_gridSteps digits value⟩

theorem OnGrid.succ {digits : ℕ} {number : ℚ}
    (onGrid : OnGrid digits number) : OnGrid (digits + 1) number := by
  rcases onGrid with ⟨steps, rfl⟩
  refine ⟨steps * 10, ?_⟩
  push_cast
  rw [pow_succ]
  field_simp

theorem gridSteps_of_onGrid (digits : ℕ) (steps : ℤ) :
    gridSteps digits (steps / 10 ^ digits) = steps := by
  have positive : (0 : ℚ) < 10 ^ digits := by positivity
  have natural (count : ℕ) :
      gridSteps digits ((count : ℚ) / 10 ^ digits) = count := by
    rw [gridSteps, if_pos (by positivity), div_mul_cancel₀ _ positive.ne',
      Int.floor_eq_iff]
    push_cast
    constructor <;> linarith
  rcases Int.eq_nat_or_neg steps with ⟨count, rfl | rfl⟩
  · rw [Int.cast_natCast]
    exact natural count
  · rw [Int.cast_neg, neg_div, gridSteps_neg, Int.cast_natCast, natural]

theorem head_magnitude (digits steps : ℕ) :
    (magnitude digits steps).head? ≠ some '-' := by
  rcases JsonText.toDigits_head (steps / 10 ^ digits) with
    ⟨digit, rest, same, isDigit⟩
  rw [magnitude, same]
  intro sign
  rcases Option.some.inj sign with rfl
  cases isDigit

/-- A number on the grid is read as itself. -/
theorem read_write (digits : ℕ) {number : ℚ}
    (onGrid : OnGrid digits number) :
    read (write digits number) = number := by
  rcases onGrid with ⟨steps, rfl⟩
  rw [write, gridSteps_of_onGrid]
  split_ifs with negative
  · show -readMagnitude (magnitude digits steps.natAbs) = _
    rw [readMagnitude_magnitude, ← neg_div]
    congr 1
    have opposite : -(steps.natAbs : ℤ) = steps := by omega
    rw [← Int.cast_natCast, ← Int.cast_neg, opposite]
  · have same : (steps.natAbs : ℤ) = steps := by omega
    rw [List.nil_append, read, if_neg (head_magnitude digits _),
      readMagnitude_magnitude, ← Int.cast_natCast, same]

/-! ## The format -/

theorem isDigits_of_all {text : List Char} (nonempty : text ≠ [])
    (all : ∀ char ∈ text, char.isDigit = true) :
    isDigits text = true := by
  rw [isDigits, List.isEmpty_eq_false_iff.mpr nonempty,
    List.all_eq_true.mpr all]
  rfl

/-- A positive number does not begin with a zero. -/
theorem head_toDigits_of_pos {number : ℕ} (positive : 0 < number) :
    (Nat.toDigits 10 number).head? ≠ some '0' := by
  induction number using Nat.strong_induction_on with
  | _ number induction =>
      by_cases small : number < 10
      · rw [Nat.toDigits_of_lt_base small]
        interval_cases number <;> decide
      · rw [Nat.toDigits_of_base_le (by omega) (by omega),
          List.head?_append_of_ne_nil _ Nat.toDigits_ne_nil]
        exact induction (number / 10) (by omega) (by omega)

theorem head_toDigits (number : ℕ) :
    Nat.toDigits 10 number = ['0'] ∨
      (Nat.toDigits 10 number).head? ≠ some '0' := by
  rcases Nat.eq_zero_or_pos number with rfl | positive
  · exact Or.inl (Nat.toDigits_zero 10)
  · exact Or.inr (head_toDigits_of_pos positive)

theorem isFraction_decimals (digits steps : ℕ) :
    isFraction
        (if decimals digits steps = [] then []
          else '.' :: decimals digits steps) =
      true := by
  have ends := split_all_digits (decimals_spec digits steps).1
  split_ifs with none
  · rfl
  · show (isDigits ((decimals digits steps).takeWhile Char.isDigit) &&
      isExponent ((decimals digits steps).dropWhile Char.isDigit)) = true
    rw [ends.1, ends.2, isDigits_of_all none (decimals_spec _ _).1]
    rfl

theorem isNumber_write (digits : ℕ) (number : ℚ) :
    isNumber (write digits number) = true := by
  have body :
      (if (write digits number).head? = some '-' then
          (write digits number).tail
        else write digits number) =
        magnitude digits (gridSteps digits number).natAbs := by
    rw [write]
    split_ifs with negative sign sign
    · rfl
    · exact (sign rfl).elim
    · exact (head_magnitude digits _ sign).elim
    · rfl
  rcases split_magnitude digits (gridSteps digits number).natAbs with
    ⟨whole, behind⟩
  have isWhole :
      isDigits
          (Nat.toDigits 10
            ((gridSteps digits number).natAbs / 10 ^ digits)) =
        true :=
    isDigits_of_all Nat.toDigits_ne_nil (isDigit_of_mem_toDigits _)
  unfold isNumber
  dsimp only
  rw [body, whole, behind, isFraction_decimals, isWhole, Bool.true_and,
    Bool.and_true, Bool.or_eq_true, decide_eq_true_eq, decide_eq_true_eq]
  exact head_toDigits _

theorem isWordChar_of_isDigit {char : Char}
    (digit : char.isDigit = true) : isWordChar char = true := by
  show ((char.isAlpha || char.isDigit) || _ || _ || _) = true
  rw [digit, Bool.or_true]
  rfl

theorem isWordChar_of_mem_write (digits : ℕ) (number : ℚ) :
    ∀ char ∈ write digits number, isWordChar char = true := by
  intro char member
  rcases List.mem_append.mp member with sign | body
  · split_ifs at sign
    · rw [List.mem_singleton.mp sign]
      rfl
    · cases sign
  · rcases List.mem_append.mp body with whole | fraction
    · exact isWordChar_of_isDigit (isDigit_of_mem_toDigits _ char whole)
    · split_ifs at fraction
      · cases fraction
      · rcases List.mem_cons.mp fraction with rfl | digit
        · rfl
        · exact
            isWordChar_of_isDigit ((decimals_spec _ _).1 char digit)

/-- Numbers with a fixed number of decimals. -/
def format (digits : ℕ) : NumberFormat ℚ where
  write := write digits
  read := read
  Exact := OnGrid digits
  isNumber_write := isNumber_write digits
  isWordChar_write := isWordChar_of_mem_write digits
  read_write _ := read_write digits

example : write 2 (200 / 3) = "66.67".toList := by decide +kernel

example : write 2 (-133 / 2) = "-66.5".toList := by decide +kernel

end SultanPass.Library.DecimalText
