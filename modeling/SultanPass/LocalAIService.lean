import SultanPass.Schema
import SultanPass.Library.Pattern
import SultanPass.Library.JsonNesting
import Mathlib.Data.List.TakeWhile

/-!
# The replies of the local language model

`LocalAIService::extractJSON` looks for JSON in a reply.  It decodes the text
from the first opening brace to the last closing one, and the whole reply
when there is no such text.  Each attempt stands in a `try` block that
catches `Exception`; `json_decode` raises none, it returns `null` for a text
that is not JSON, and a value that is not an array does not pass the return
type, which is a `TypeError` and no `Exception`.
-/

namespace SultanPass.LocalAIService

open SultanPass.Library
open SultanPass.Library.JsonDecoding

variable {Number : Type} (readNumber : List Char → Number)

/-- An array of PHP. -/
abbrev Entries (Number : Type) :=
  List (Key × Value Number)

/-- `/\{.*\}/s` -/
def bracePattern : Pattern Char :=
  .spanning (· = '{') (· = '}')

/-- `return json_decode(…) ?? []` from a method that returns an array. -/
def returned : Option (Value Number) → Except PhpError (Entries Number)
  | none => .ok []
  | some .null => .ok []
  | some (.array entries) => .ok entries
  | some _ => .error .typeError

/-- `LocalAIService::extractJSON` -/
def extractJSON (text : List Char) : Except PhpError (Entries Number) :=
  match bracePattern.firstMatch text with
  | some found => returned (jsonDecode readNumber found.matched)
  | none => returned (jsonDecode readNumber text)

/-! ## The pair of braces -/

/-- There is a closing brace behind the first opening one. -/
def bracePair (text : List Char) : Bool :=
  (text.dropWhile (· ≠ '{')).contains '}'

theorem dropWhile_brace {skipped : List Char} (noOpen : '{' ∉ skipped)
    (rest : List Char) :
    (skipped ++ '{' :: rest).dropWhile (· ≠ '{') = '{' :: rest := by
  rw [List.dropWhile_append_of_pos]
  · simp
  · intro char member
    exact decide_eq_true (ne_of_mem_of_not_mem member noOpen)

/-- The text between the outermost braces and around them. -/
theorem exists_of_bracePair {text : List Char}
    (pair : bracePair text = true) :
    ∃ skipped inner after,
      text = skipped ++ '{' :: (inner ++ '}' :: after) ∧
        '{' ∉ skipped ∧ '}' ∉ after := by
  rw [bracePair, List.contains_iff_mem] at pair
  have opens : '{' ∈ text := by
    by_contra noOpen
    have nothing : text.dropWhile (· ≠ '{') = [] := by
      refine List.dropWhile_eq_nil_iff.mpr fun char member => ?_
      exact decide_eq_true (ne_of_mem_of_not_mem member noOpen)
    rw [nothing] at pair
    exact List.not_mem_nil pair
  rcases List.eq_append_cons_of_mem opens with
    ⟨skipped, rest, rfl, noOpen⟩
  rw [dropWhile_brace noOpen, List.mem_cons] at pair
  have closes : '}' ∈ rest.reverse :=
    List.mem_reverse.mpr (pair.resolve_left (by decide))
  rcases List.eq_append_cons_of_mem closes with
    ⟨after, inner, split, noClose⟩
  refine
    ⟨skipped, inner.reverse, after.reverse, ?_, noOpen,
      fun member => noClose (List.mem_reverse.mp member)⟩
  have parts := congrArg List.reverse split
  rw [List.reverse_reverse, List.reverse_append, List.reverse_cons,
    List.append_assoc, List.singleton_append] at parts
  rw [parts]

theorem bracePair_append (skipped inner after : List Char) :
    bracePair (skipped ++ '{' :: (inner ++ '}' :: after)) = true := by
  induction skipped with
  | nil => simp [bracePair]
  | cons char skipped induction =>
      rw [bracePair] at induction ⊢
      rw [List.cons_append, List.dropWhile_cons]
      split_ifs
      · exact induction
      · simp

/-- With a pair of braces the text between them is decoded. -/
theorem extractJSON_of_pair {skipped inner after : List Char}
    (noOpen : '{' ∉ skipped) (noClose : '}' ∉ after) :
    extractJSON readNumber
        (skipped ++ '{' :: (inner ++ '}' :: after)) =
      returned (jsonDecode readNumber ('{' :: (inner ++ ['}']))) := by
  have isMatch :
      bracePattern.firstMatch
          (skipped ++ '{' :: (inner ++ '}' :: after)) =
        some
          { matched := '{' :: (inner ++ ['}'])
            groups := []
            rest := after } :=
    Pattern.firstMatch_spanning
      (fun _ member =>
        decide_eq_false (ne_of_mem_of_not_mem member noOpen))
      (decide_eq_true rfl) (decide_eq_true rfl)
      (fun _ member =>
        decide_eq_false (ne_of_mem_of_not_mem member noClose))
  simp only [extractJSON, isMatch]

/-- Without a pair of braces the whole text is decoded. -/
theorem extractJSON_of_no_pair {text : List Char}
    (noPair : bracePair text = false) :
    extractJSON readNumber text =
      returned (jsonDecode readNumber text) := by
  cases isMatch : bracePattern.firstMatch text with
  | none => simp only [extractJSON, isMatch]
  | some found =>
      rcases Pattern.exists_of_firstMatch_spanning isMatch with
        ⟨skipped, opening, inner, closing, after, rfl, isOpen, isClose⟩
      cases of_decide_eq_true isOpen
      cases of_decide_eq_true isClose
      rw [bracePair_append] at noPair
      cases noPair

/-! ## JSON in prose -/

variable {readNumber}

theorem jsonDecode_brace (rest : List Char) :
    jsonDecode readNumber ('{' :: rest) =
      decodeFrom readNumber ⟨.plain, .inObject []⟩ rest := by
  rw [jsonDecode, decodeFrom_cons]
  rfl

/-- A document that begins with a brace is an array. -/
theorem exists_entries_of_brace {rest : List Char} {value : Value Number}
    (decodes : jsonDecode readNumber ('{' :: rest) = some value) :
    ∃ entries, value = .array entries := by
  rw [jsonDecode_brace] at decodes
  have inside : (Parser.inObject ([] : List (Frame Number))).InsideArray :=
    trivial
  exact
    decodeFrom_keeps (fun _ _ _ _ => insideArray_step) inside decodes

/--
A JSON object is found in any prose around it that has no opening brace
before it and no closing brace behind it.
-/
theorem extractJSON_in_prose {object : List Char} {value : Value Number}
    (decodes : jsonDecode readNumber object = some value)
    (opens : object.head? = some '{')
    (closes : object.getLast? = some '}')
    {before after : List Char} (noOpen : '{' ∉ before)
    (noClose : '}' ∉ after) :
    ∃ entries,
      value = .array entries ∧
        extractJSON readNumber (before ++ object ++ after) =
          .ok entries := by
  rcases List.head?_eq_some_iff.mp opens with ⟨rest, rfl⟩
  rcases exists_entries_of_brace decodes with ⟨entries, rfl⟩
  have split : ∃ inner, rest = inner ++ ['}'] := by
    rcases List.eq_nil_or_concat rest with rfl | ⟨inner, last, rfl⟩
    · cases closes
    · rw [List.concat_eq_append, ← List.cons_append,
        List.getLast?_concat] at closes
      cases closes
      exact ⟨inner, List.concat_eq_append⟩
  rcases split with ⟨inner, rfl⟩
  refine ⟨entries, rfl, ?_⟩
  have parts :
      before ++ '{' :: (inner ++ ['}']) ++ after =
        before ++ '{' :: (inner ++ '}' :: after) := by
    simp
  rw [parts, extractJSON_of_pair readNumber noOpen noClose, decodes]
  rfl

theorem extractJSON_in_prose_fenced :
    ∃ entries,
      Value.array
          [(.name ['a'], .array [(.name ['b'], .string ['}'])])] =
        .array entries ∧
        extractJSON id
            ("```json\n".toList ++
              "\x7b\"a\":\x7b\"b\":\"\x7d\"\x7d\x7d".toList ++
              "\n```".toList) =
          .ok entries :=
  @extractJSON_in_prose (List Char) id
    "\x7b\"a\":\x7b\"b\":\"\x7d\"\x7d\x7d".toList
    (.array [(.name ['a'], .array [(.name ['b'], .string ['}'])])]) rfl
    (by decide) (by decide) "```json\n".toList "\n```".toList
    (by decide) (by decide)

end SultanPass.LocalAIService
