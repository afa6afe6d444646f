import SultanPass.Library.JsonText
import SultanPass.Library.OrderedMap
import Mathlib.Data.List.Infix

/-!
# Decoding a JSON document

`jsonDecode` reads a complete JSON document into arrays, the way a scripting
language with one kind of array does: a list becomes an array with the keys
0, 1, 2, …, an object becomes an array with its names as keys, and a name
that is the decimal text of an integer becomes that integer.  A later member
of an object replaces an earlier one of the same name.

The reader goes over the text one character at a time.  Its lexer has four
modes, inside and outside words and strings, and hands complete tokens to a
`Parser`, whose states say what the next token may be and keep the
unfinished arrays around it, innermost first.  Fewer than `depth` arrays may
be open at one time.  How the text of a number is read is a parameter.
-/

namespace SultanPass.Library.JsonDecoding

/-! ## Values -/

/-- A key of an array. -/
inductive Key where
  | index (number : ℤ)
  | name (text : List Char)
deriving DecidableEq, Repr

/-- A decoded value. -/
inductive Value (Number : Type) where
  | null
  | bool (value : Bool)
  | number (value : Number)
  | string (text : List Char)
  | array (entries : List (Key × Value Number))

/-- The key that a name becomes. -/
def arrayKey (name : List Char) : Key :=
  match JsonText.decodeInt name with
  | some number =>
      if JsonText.encodeInt number = name ∧
          -9223372036854775808 ≤ number ∧
          number ≤ 9223372036854775807 then
        .index number
      else
        .name name
  | none => .name name

variable {Number : Type}

/-- The array of a list of values. -/
def listEntries (values : List (Value Number)) :
    List (Key × Value Number) :=
  values.zipIdx.map fun entry => (.index entry.2, entry.1)

/-- Set the value of a key. -/
def insert (key : Key) (value : Value Number)
    (entries : List (Key × Value Number)) : List (Key × Value Number) :=
  OrderedMap.adjust key value (fun _ => value) entries

/-! ## Tokens -/

inductive Token (Number : Type) where
  | openObject
  | closeObject
  | openList
  | closeList
  | comma
  | colon
  | scalar (value : Value Number)
  | string (text : List Char)

/-- The token of a punctuation character. -/
def punctuation : Char → Option (Token Number)
  | '{' => some .openObject
  | '}' => some .closeObject
  | '[' => some .openList
  | ']' => some .closeList
  | ',' => some .comma
  | ':' => some .colon
  | _ => none

def isSpace (char : Char) : Bool :=
  char = ' ' || char = '\t' || char = '\n' || char = '\r'

/-- The characters of literals and numbers. -/
def isWordChar (char : Char) : Bool :=
  char.isAlphanum || char = '+' || char = '-' || char = '.'

/-- One or more digits. -/
def isDigits (text : List Char) : Bool :=
  !text.isEmpty && text.all Char.isDigit

/-- Nothing, or an exponent. -/
def isExponent : List Char → Bool
  | [] => true
  | mark :: rest =>
      (mark = 'e' || mark = 'E') &&
        isDigits
          (if rest.head? = some '+' ∨ rest.head? = some '-' then rest.tail
            else rest)

/-- Nothing, or decimals and perhaps an exponent. -/
def isFraction : List Char → Bool
  | '.' :: rest =>
      isDigits (rest.takeWhile Char.isDigit) &&
        isExponent (rest.dropWhile Char.isDigit)
  | rest => isExponent rest

def isNumber (word : List Char) : Bool :=
  let unsigned := if word.head? = some '-' then word.tail else word
  let whole := unsigned.takeWhile Char.isDigit
  (whole = ['0'] || (isDigits whole && whole.head? ≠ some '0')) &&
    isFraction (unsigned.dropWhile Char.isDigit)

/-- The token of a literal, in lower case, or of a number. -/
def wordToken (readNumber : List Char → Number) (word : List Char) :
    Option (Token Number) :=
  if word = "null".toList then some (.scalar .null)
  else if word = "true".toList then some (.scalar (.bool true))
  else if word = "false".toList then some (.scalar (.bool false))
  else if isNumber word then some (.scalar (.number (readNumber word)))
  else none

/-! ## Escapes -/

/-- The characters that may follow a backslash. -/
def isEscape (char : Char) : Bool :=
  "\"\\/bfnrtu".toList.contains char

/-- The value of a hexadecimal digit. -/
def hexDigit (char : Char) : Option ℕ :=
  if char.isDigit then some (char.toNat - '0'.toNat)
  else if 'a' ≤ char ∧ char ≤ 'f' then some (char.toNat - 'a'.toNat + 10)
  else if 'A' ≤ char ∧ char ≤ 'F' then some (char.toNat - 'A'.toNat + 10)
  else none

/-- The character of a short escape. -/
def shortEscape : Char → Option Char
  | 'b' => some (.ofNat 8)
  | 'f' => some (.ofNat 12)
  | 'n' => some '\n'
  | 'r' => some '\r'
  | 't' => some '\t'
  | '"' => some '"'
  | '\\' => some '\\'
  | '/' => some '/'
  | _ => none

/-- The characters of a string, and the code units of its long escapes. -/
def unescapeUnits : List Char → Option (List (Char ⊕ ℕ))
  | [] => some []
  | '\\' :: 'u' :: first :: second :: third :: fourth :: rest => do
      let digits ← [first, second, third, fourth].mapM hexDigit
      let units ← unescapeUnits rest
      return .inr (digits.foldl (16 * · + ·) 0) :: units
  | '\\' :: char :: rest => do
      let short ← shortEscape char
      let units ← unescapeUnits rest
      return .inl short :: units
  | char :: rest =>
      if char = '\\' ∨ char.toNat < 32 then none
      else (unescapeUnits rest).map (.inl char :: ·)

/-- Put surrogate pairs together; half a pair is an error. -/
def joinSurrogates : List (Char ⊕ ℕ) → Option (List Char)
  | [] => some []
  | .inl char :: rest => (joinSurrogates rest).map (char :: ·)
  | .inr high :: .inr low :: rest =>
      if 0xD800 ≤ high ∧ high < 0xDC00 then
        if 0xDC00 ≤ low ∧ low < 0xE000 then
          (joinSurrogates rest).map
            (.ofNat (0x10000 + (high - 0xD800) * 0x400 + (low - 0xDC00))
              :: ·)
        else
          none
      else if 0xDC00 ≤ high ∧ high < 0xE000 then none
      else (joinSurrogates (.inr low :: rest)).map (.ofNat high :: ·)
  | .inr unit :: rest =>
      if 0xD800 ≤ unit ∧ unit < 0xE000 then none
      else (joinSurrogates rest).map (.ofNat unit :: ·)

/-- The text between the quotes of a string. -/
def unescape (raw : List Char) : Option (List Char) :=
  (unescapeUnits raw).bind joinSurrogates

/-! ## The parser -/

/-- An unfinished array that waits for a value. -/
inductive Frame (Number : Type) where
  | items (values : List (Value Number))
  | member (entries : List (Key × Value Number)) (key : Key)

/-- What the next token may be, inside the unfinished arrays around it. -/
inductive Parser (Number : Type) where
  /-- A value. -/
  | value (frames : List (Frame Number))
  /-- The first value of a list, or its end. -/
  | inList (frames : List (Frame Number))
  /-- A comma or the end of a list. -/
  | afterItem (values : List (Value Number)) (frames : List (Frame Number))
  /-- The first name of an object, or its end. -/
  | inObject (frames : List (Frame Number))
  /-- A name. -/
  | name (entries : List (Key × Value Number))
      (frames : List (Frame Number))
  /-- A colon. -/
  | afterName (entries : List (Key × Value Number)) (key : Key)
      (frames : List (Frame Number))
  /-- A comma or the end of an object. -/
  | afterMember (entries : List (Key × Value Number))
      (frames : List (Frame Number))
  /-- Nothing: the document is complete. -/
  | done (value : Value Number)

/-- Hand a finished value to the array that waits for it. -/
def deliver (value : Value Number) : List (Frame Number) → Parser Number
  | [] => .done value
  | .items values :: frames => .afterItem (values ++ [value]) frames
  | .member entries key :: frames =>
      .afterMember (insert key value entries) frames

/--
The nesting limit.  The document itself counts as a level of the reader, so
that it opens one array less than the limit.
-/
def depth : ℕ :=
  512

/-- Begin a value. -/
def beginValue (frames : List (Frame Number)) :
    Token Number → Option (Parser Number)
  | .scalar value => some (deliver value frames)
  | .string text => some (deliver (.string text) frames)
  | .openList =>
      if frames.length + 1 < depth then some (.inList frames) else none
  | .openObject =>
      if frames.length + 1 < depth then some (.inObject frames)
      else none
  | _ => none

/-- Read a token. -/
def step : Parser Number → Token Number → Option (Parser Number)
  | .value frames, token => beginValue frames token
  | .inList frames, .closeList => some (deliver (.array []) frames)
  | .inList frames, token => beginValue (.items [] :: frames) token
  | .afterItem values frames, .comma =>
      some (.value (.items values :: frames))
  | .afterItem values frames, .closeList =>
      some (deliver (.array (listEntries values)) frames)
  | .inObject frames, .closeObject => some (deliver (.array []) frames)
  | .inObject frames, .string text =>
      some (.afterName [] (arrayKey text) frames)
  | .name entries frames, .string text =>
      some (.afterName entries (arrayKey text) frames)
  | .afterName entries key frames, .colon =>
      some (.value (.member entries key :: frames))
  | .afterMember entries frames, .comma => some (.name entries frames)
  | .afterMember entries frames, .closeObject =>
      some (deliver (.array entries) frames)
  | _, _ => none

/-! ## The lexer -/

/-- Where the reader is. -/
inductive Mode where
  | plain
  | word (chars : List Char)
  | quoted (raw : List Char)
  | escaped (raw : List Char)

structure Reader (Number : Type) where
  mode : Mode
  parser : Parser Number

/-- A character outside words and strings. -/
def readPlain (parser : Parser Number) (char : Char) :
    Option (Reader Number) :=
  if isSpace char then some ⟨.plain, parser⟩
  else if char = '"' then some ⟨.quoted [], parser⟩
  else if isWordChar char then some ⟨.word [char], parser⟩
  else do
    let token ← punctuation char
    let parser ← step parser token
    return ⟨.plain, parser⟩

/-- A word is complete. -/
def readWord (readNumber : List Char → Number) (parser : Parser Number)
    (word : List Char) : Option (Parser Number) := do
  let token ← wordToken readNumber word
  step parser token

/-- A string is complete. -/
def readString (parser : Parser Number) (raw : List Char) :
    Option (Parser Number) := do
  let text ← unescape raw
  step parser (.string text)

/-- Read a character. -/
def readChar (readNumber : List Char → Number) :
    Reader Number → Char → Option (Reader Number)
  | ⟨.plain, parser⟩, char => readPlain parser char
  | ⟨.word word, parser⟩, char =>
      if isWordChar char then some ⟨.word (word ++ [char]), parser⟩
      else do
        let parser ← readWord readNumber parser word
        readPlain parser char
  | ⟨.quoted raw, parser⟩, char =>
      if char = '"' then do
        let parser ← readString parser raw
        return ⟨.plain, parser⟩
      else if char = '\\' then some ⟨.escaped raw, parser⟩
      else some ⟨.quoted (raw ++ [char]), parser⟩
  | ⟨.escaped raw, parser⟩, char =>
      if isEscape char then
        some ⟨.quoted (raw ++ ['\\', char]), parser⟩
      else
        none

/-- The value of a complete document. -/
def Parser.result : Parser Number → Option (Value Number)
  | .done document => some document
  | _ => none

/-- The text ends. -/
def finish (readNumber : List Char → Number) :
    Reader Number → Option (Value Number)
  | ⟨.plain, parser⟩ => parser.result
  | ⟨.word word, parser⟩ =>
      (readWord readNumber parser word).bind Parser.result
  | _ => none

/-- Read characters. -/
def read (readNumber : List Char → Number) (reader : Reader Number)
    (text : List Char) : Option (Reader Number) :=
  text.foldlM (readChar readNumber) reader

/-- Read the rest of a document. -/
def decodeFrom (readNumber : List Char → Number) (reader : Reader Number)
    (text : List Char) : Option (Value Number) :=
  (read readNumber reader text).bind (finish readNumber)

/-- The value of a document, if the text is one. -/
def jsonDecode (readNumber : List Char → Number) (text : List Char) :
    Option (Value Number) :=
  decodeFrom readNumber ⟨.plain, .value []⟩ text

/-! ## Reading a text in parts -/

variable {readNumber : List Char → Number}

theorem read_append (reader : Reader Number) (first second : List Char) :
    read readNumber reader (first ++ second) =
      (read readNumber reader first).bind fun next =>
        read readNumber next second :=
  List.foldlM_append

theorem read_cons (reader : Reader Number) (char : Char)
    (rest : List Char) :
    read readNumber reader (char :: rest) =
      (readChar readNumber reader char).bind fun next =>
        read readNumber next rest :=
  List.foldlM_cons

theorem decodeFrom_nil (reader : Reader Number) :
    decodeFrom readNumber reader [] = finish readNumber reader :=
  rfl

theorem decodeFrom_cons (reader : Reader Number) (char : Char)
    (rest : List Char) :
    decodeFrom readNumber reader (char :: rest) =
      (readChar readNumber reader char).bind fun next =>
        decodeFrom readNumber next rest := by
  rw [decodeFrom, read_cons, Option.bind_assoc]
  rfl

theorem decodeFrom_append (reader : Reader Number)
    (first second : List Char) :
    decodeFrom readNumber reader (first ++ second) =
      (read readNumber reader first).bind fun next =>
        decodeFrom readNumber next second := by
  rw [decodeFrom, read_append, Option.bind_assoc]
  rfl

/-- Space outside words and strings is skipped. -/
theorem readChar_space (parser : Parser Number) {char : Char}
    (space : isSpace char = true) :
    readChar readNumber ⟨.plain, parser⟩ char =
      some ⟨.plain, parser⟩ := by
  show readPlain parser char = _
  rw [readPlain, if_pos space]

theorem read_spaces (parser : Parser Number) {spaces : List Char}
    (all : ∀ char ∈ spaces, isSpace char = true) (rest : List Char) :
    read readNumber ⟨.plain, parser⟩ (spaces ++ rest) =
      read readNumber ⟨.plain, parser⟩ rest := by
  induction spaces with
  | nil => rfl
  | cons char spaces induction =>
      rw [List.forall_mem_cons] at all
      rw [List.cons_append, read_cons, readChar_space parser all.1]
      exact induction all.2

theorem decodeFrom_spaces (parser : Parser Number)
    {spaces : List Char} (all : ∀ char ∈ spaces, isSpace char = true)
    (rest : List Char) :
    decodeFrom readNumber ⟨.plain, parser⟩ (spaces ++ rest) =
      decodeFrom readNumber ⟨.plain, parser⟩ rest := by
  rw [decodeFrom, read_spaces parser all]
  rfl

@[simp]
theorem step_done (document : Value Number) (token : Token Number) :
    step (.done document) token = none := by
  cases token <;> rfl

/-- A word is of no use where no value may stand. -/
theorem decodeFrom_word_eq_none {parser : Parser Number}
    (noValue : ∀ value, step parser (.scalar value) = none)
    (word text : List Char) :
    decodeFrom readNumber ⟨.word word, parser⟩ text = none := by
  have noWord (word : List Char) :
      readWord readNumber parser word = none := by
    rw [readWord, wordToken]
    split_ifs
    · exact noValue _
    · exact noValue _
    · exact noValue _
    · exact noValue _
    · rfl
  induction text generalizing word with
  | nil =>
      rw [decodeFrom_nil, finish, noWord]
      rfl
  | cons char rest induction =>
      rw [decodeFrom_cons, readChar]
      split_ifs
      · exact induction _
      · rw [noWord]
        rfl

/-- Nor is a string where no string may stand. -/
theorem decodeFrom_quoted_eq_none {parser : Parser Number}
    (noString : ∀ text, step parser (.string text) = none)
    (raw text : List Char) :
    decodeFrom readNumber ⟨.quoted raw, parser⟩ text = none ∧
      decodeFrom readNumber ⟨.escaped raw, parser⟩ text = none := by
  have noEnd (raw : List Char) : readString parser raw = none := by
    rw [readString]
    cases unescape raw with
    | none => rfl
    | some text => exact noString text
  induction text generalizing raw with
  | nil => exact ⟨rfl, rfl⟩
  | cons char rest induction =>
      rw [decodeFrom_cons, decodeFrom_cons, readChar, readChar]
      constructor
      · split_ifs
        · rw [noEnd]
          rfl
        · exact (induction raw).2
        · exact (induction _).1
      · split_ifs
        · exact (induction _).1
        · rfl

/-- After a complete document there is only space. -/
theorem decodeFrom_done {mode : Mode} {document value : Value Number}
    {text : List Char}
    (decodes :
      decodeFrom readNumber ⟨mode, .done document⟩ text = some value) :
    mode = .plain ∧ (∀ char ∈ text, isSpace char = true) ∧
      document = value := by
  have noWord (word text : List Char) :
      decodeFrom readNumber ⟨.word word, .done document⟩ text = none :=
    decodeFrom_word_eq_none (fun _ => step_done document _) word text
  have noString (raw text : List Char) :
      decodeFrom readNumber ⟨.quoted raw, .done document⟩ text = none ∧
        decodeFrom readNumber ⟨.escaped raw, .done document⟩ text =
          none :=
    decodeFrom_quoted_eq_none (fun _ => step_done document _) raw text
  cases mode with
  | word word =>
      rw [noWord] at decodes
      cases decodes
  | quoted raw =>
      rw [(noString raw text).1] at decodes
      cases decodes
  | escaped raw =>
      rw [(noString raw text).2] at decodes
      cases decodes
  | plain =>
      induction text with
      | nil => exact ⟨rfl, nofun, Option.some.inj decodes⟩
      | cons char rest induction =>
          rw [decodeFrom_cons, readChar, readPlain] at decodes
          split_ifs at decodes with space
          · rcases induction decodes with ⟨_, spaces, same⟩
            exact ⟨rfl, List.forall_mem_cons.mpr ⟨space, spaces⟩, same⟩
          · rw [Option.bind_some, (noString [] rest).1] at decodes
            cases decodes
          · rw [Option.bind_some, noWord] at decodes
            cases decodes
          · simp at decodes

@[simp]
theorem readChar_quote (parser : Parser Number) :
    readChar readNumber ⟨.plain, parser⟩ '"' =
      some ⟨.quoted [], parser⟩ :=
  rfl

@[simp]
theorem readChar_openBrace (parser : Parser Number) :
    readChar readNumber ⟨.plain, parser⟩ '{' =
      (step parser .openObject).bind fun next => some ⟨.plain, next⟩ :=
  rfl

@[simp]
theorem readChar_closeBrace (parser : Parser Number) :
    readChar readNumber ⟨.plain, parser⟩ '}' =
      (step parser .closeObject).bind fun next => some ⟨.plain, next⟩ :=
  rfl

/-! ## Invariants of the parser -/

/-- The tokens that a text can spell. -/
def Spells (text : List Char) : Token Number → Prop
  | .scalar _ => True
  | .string _ => True
  | token => ∃ char ∈ text, punctuation char = some token

theorem exists_scalar_of_wordToken {word : List Char}
    {token : Token Number}
    (isToken : wordToken readNumber word = some token) :
    ∃ value, token = .scalar value := by
  rw [wordToken] at isToken
  split_ifs at isToken <;> cases isToken <;> exact ⟨_, rfl⟩

theorem spells_of_wordToken (text : List Char) {word : List Char}
    {token : Token Number}
    (isToken : wordToken readNumber word = some token) :
    Spells text token := by
  rcases exists_scalar_of_wordToken isToken with ⟨value, rfl⟩
  trivial

theorem spells_of_punctuation {char : Char} {text : List Char}
    {token : Token Number} (member : char ∈ text)
    (isToken : punctuation char = some token) : Spells text token := by
  cases token <;> first | trivial | exact ⟨char, member, isToken⟩

/-- A text spells a punctuation token with its character only. -/
theorem mem_of_spells {text : List Char} {char : Char}
    {token : Token Number} (own : punctuation char = some token)
    (spells : Spells text token) : char ∈ text := by
  unfold punctuation at own
  split at own <;> cases own <;>
    (rcases spells with ⟨other, member, isToken⟩
     unfold punctuation at isToken
     split at isToken <;> cases isToken
     exact member)

/-- What the tokens of a text preserve, reading a character preserves. -/
theorem readChar_keeps {holds : Parser Number → Prop} {text : List Char}
    (keeps :
      ∀ token, Spells text token → ∀ parser next, holds parser →
        step parser token = some next → holds next)
    {char : Char} (member : char ∈ text)
    {reader next : Reader Number} (before : holds reader.parser)
    (reads : readChar readNumber reader char = some next) :
    holds next.parser := by
  have plain {parser : Parser Number} (before : holds parser)
      (reads : readPlain parser char = some next) : holds next.parser := by
    rw [readPlain] at reads
    split_ifs at reads
    · cases reads
      exact before
    · cases reads
      exact before
    · cases reads
      exact before
    · rcases Option.bind_eq_some_iff.mp reads with
        ⟨token, isToken, steps⟩
      rcases Option.bind_eq_some_iff.mp steps with ⟨after, isNext, same⟩
      cases same
      exact
        keeps token (spells_of_punctuation member isToken) _ _ before
          isNext
  rcases reader with ⟨mode, parser⟩
  cases mode with
  | plain => exact plain before reads
  | word word =>
      rw [readChar] at reads
      split_ifs at reads
      · cases reads
        exact before
      · rcases Option.bind_eq_some_iff.mp reads with
          ⟨middle, ends, reads⟩
        rcases Option.bind_eq_some_iff.mp ends with
          ⟨token, isToken, steps⟩
        exact
          plain
            (keeps token (spells_of_wordToken text isToken) _ _ before
              steps)
            reads
  | quoted raw =>
      rw [readChar] at reads
      split_ifs at reads
      · rcases Option.bind_eq_some_iff.mp reads with ⟨middle, ends, same⟩
        rcases Option.bind_eq_some_iff.mp ends with ⟨string, _, steps⟩
        cases same
        exact keeps (.string string) trivial _ _ before steps
      · cases reads
        exact before
      · cases reads
        exact before
  | escaped raw =>
      rw [readChar] at reads
      split_ifs at reads
      cases reads
      exact before

theorem read_keeps {holds : Parser Number → Prop} {text : List Char}
    (keeps :
      ∀ token, Spells text token → ∀ parser next, holds parser →
        step parser token = some next → holds next)
    {part : List Char} (subset : part ⊆ text)
    {reader next : Reader Number} (before : holds reader.parser)
    (reads : read readNumber reader part = some next) :
    holds next.parser := by
  induction part generalizing reader with
  | nil =>
      cases reads
      exact before
  | cons char rest induction =>
      rw [read_cons] at reads
      rcases Option.bind_eq_some_iff.mp reads with ⟨middle, one, more⟩
      rw [List.cons_subset] at subset
      exact
        induction subset.2 (readChar_keeps keeps subset.1 before one) more

/-- What the tokens of a text preserve holds of its value. -/
theorem decodeFrom_keeps {holds : Parser Number → Prop}
    {text : List Char}
    (keeps :
      ∀ token, Spells text token → ∀ parser next, holds parser →
        step parser token = some next → holds next)
    {reader : Reader Number} {value : Value Number}
    (before : holds reader.parser)
    (decodes : decodeFrom readNumber reader text = some value) :
    holds (.done value) := by
  rcases Option.bind_eq_some_iff.mp decodes with ⟨last, reads, ends⟩
  have after := read_keeps keeps (List.Subset.refl text) before reads
  have result {parser : Parser Number} (after : holds parser)
      (isValue : parser.result = some value) : holds (.done value) := by
    cases parser <;> cases isValue
    exact after
  rcases last with ⟨mode, parser⟩
  cases mode with
  | plain => exact result after ends
  | word word =>
      rcases Option.bind_eq_some_iff.mp ends with ⟨final, flushes, ends⟩
      rcases Option.bind_eq_some_iff.mp flushes with
        ⟨token, isToken, steps⟩
      exact
        result
          (keeps token (spells_of_wordToken text isToken) _ _ after steps)
          ends
  | quoted raw => cases ends
  | escaped raw => cases ends

end SultanPass.Library.JsonDecoding
