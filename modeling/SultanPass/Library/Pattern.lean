import Mathlib.Computability.Language
import Mathlib.Data.List.Infix

/-!
# Patterns with backtracking

A `Pattern` is a regular expression as scripting languages have them, with
greedy and lazy repetition, numbered groups, lookahead and assertions about
the place in the text.  `runs` lists the ways in which a pattern matches at a
place, in the order in which a backtracking matcher finds them: the left
alternative first, and of a repetition the longest or the shortest way first.
An iteration that consumes nothing is not taken.

`scan` goes over a text from left to right and splits it into matches and the
characters between them.  What a pattern can consume, whatever the
assertions say, is its `language` (`advances_of_mem_runs`).
-/

namespace SultanPass.Library

variable {α : Type}

/--
A place in a text: what is before it, nearest first, what is after it, and
the groups captured on the way.
-/
structure Cursor (α : Type) where
  before : List α
  after : List α
  groups : List (ℕ × List α)
deriving DecidableEq, Repr

inductive Pattern (α : Type) where
  | empty
  | set (test : α → Bool)
  | seq (first second : Pattern α)
  | alt (first second : Pattern α)
  | star (greedy : Bool) (body : Pattern α)
  | group (number : ℕ) (body : Pattern α)
  | lookahead (body : Pattern α)
  | assert (test : List α → List α → Bool)

namespace Pattern

/-! ## Matching at a place -/

/-- What is consumed between two places. -/
def consumed (start stop : Cursor α) : List α :=
  start.after.take (start.after.length - stop.after.length)

/-- Repeat a step, as often as the fuel allows. -/
def repeatRuns (body : Cursor α → List (Cursor α)) (greedy : Bool) :
    ℕ → Cursor α → List (Cursor α)
  | 0, cursor => [cursor]
  | fuel + 1, cursor =>
      let more :=
        ((body cursor).filter fun next =>
          next.after.length < cursor.after.length).flatMap
            (repeatRuns body greedy fuel)
      if greedy then more ++ [cursor] else cursor :: more

/-- The places where a match can end, in the order of preference. -/
def runs : Pattern α → Cursor α → List (Cursor α)
  | .empty, cursor => [cursor]
  | .set test, cursor =>
      match cursor.after with
      | [] => []
      | char :: rest =>
          if test char then
            [{ before := char :: cursor.before
               after := rest
               groups := cursor.groups }]
          else []
  | .seq first second, cursor =>
      (first.runs cursor).flatMap second.runs
  | .alt first second, cursor => first.runs cursor ++ second.runs cursor
  | .star greedy body, cursor =>
      repeatRuns body.runs greedy cursor.after.length cursor
  | .group number body, cursor =>
      (body.runs cursor).map fun next =>
        { next with
          groups := (number, consumed cursor next) :: next.groups }
  | .lookahead body, cursor =>
      match body.runs cursor with
      | [] => []
      | next :: _ => [{ cursor with groups := next.groups }]
  | .assert test, cursor =>
      if test cursor.before cursor.after then [cursor] else []

/-- One or more. -/
def plus (greedy : Bool) (body : Pattern α) : Pattern α :=
  .seq body (.star greedy body)

/-- One or none, preferably one. -/
def optional (body : Pattern α) : Pattern α :=
  .alt body .empty

/-- Patterns one after the other. -/
def sequence (parts : List (Pattern α)) : Pattern α :=
  parts.foldr .seq .empty

/-- The first alternative that matches. -/
def oneOf (first : Pattern α) (others : List (Pattern α)) : Pattern α :=
  others.foldl .alt first

/-! ## Searching -/

/-- A match: what it consumes, its groups, and what follows it. -/
structure Match (α : Type) where
  matched : List α
  groups : List (ℕ × List α)
  rest : List α
deriving DecidableEq, Repr

/-- The text of a group, empty when the group has not taken part. -/
def Match.group (found : Match α) (number : ℕ) : List α :=
  (found.groups.lookup number).getD []

/-- The preferred match at a place. -/
def matchAt (pattern : Pattern α) (before after : List α) :
    Option (Match α) :=
  (pattern.runs ⟨before, after, []⟩).head?.map fun stop =>
    { matched := consumed ⟨before, after, []⟩ stop
      groups := stop.groups
      rest := stop.after }

/-- A part of a scanned text. -/
inductive Segment (α : Type) where
  | kept (char : α)
  | found (result : Match α)
deriving DecidableEq, Repr

/-- The match of a part that is one. -/
def Segment.result : Segment α → Option (Match α)
  | .kept _ => none
  | .found result => some result

/-- Matches from left to right that do not overlap. -/
def scanFrom (pattern : Pattern α) :
    ℕ → List α → List α → List (Segment α)
  | 0, _, _ => []
  | fuel + 1, before, after =>
      match pattern.matchAt before after, after with
      | none, [] => []
      | none, char :: rest =>
          .kept char :: scanFrom pattern fuel (char :: before) rest
      | some result, [] => [.found result]
      | some result, char :: rest =>
          if result.matched = [] then
            .found result :: .kept char ::
              scanFrom pattern fuel (char :: before) rest
          else
            .found result ::
              scanFrom pattern fuel (result.matched.reverse ++ before)
                result.rest

/-- The parts of a text. -/
def scan (pattern : Pattern α) (text : List α) : List (Segment α) :=
  scanFrom pattern (text.length + 1) [] text

/-- All matches, from left to right. -/
def matchAll (pattern : Pattern α) (text : List α) : List (Match α) :=
  (scan pattern text).filterMap Segment.result

/-- The first match. -/
def firstMatch (pattern : Pattern α) (text : List α) :
    Option (Match α) :=
  (matchAll pattern text).head?

/-- What stands in the place of a part. -/
def Segment.rewrite (template : Match α → List α) : Segment α → List α
  | .kept char => [char]
  | .found result => template result

@[simp]
theorem Segment.rewrite_kept (template : Match α → List α) (char : α) :
    (Segment.kept char).rewrite template = [char] :=
  rfl

@[simp]
theorem Segment.rewrite_found (template : Match α → List α)
    (result : Match α) :
    (Segment.found result).rewrite template = template result :=
  rfl

/-- Replace all matches. -/
def replaceAll (pattern : Pattern α) (template : Match α → List α)
    (text : List α) : List α :=
  (scan pattern text).flatMap (Segment.rewrite template)

/-! ## How a pattern goes on -/

theorem of_mem_runs_set {test : α → Bool} {start stop : Cursor α}
    (reached : stop ∈ (Pattern.set test).runs start) :
    ∃ char,
      test char = true ∧ start.after = char :: stop.after ∧
        stop.before = char :: start.before ∧ stop.groups = start.groups := by
  rcases start with ⟨before, after, groups⟩
  cases after with
  | nil => exact (List.not_mem_nil reached).elim
  | cons char rest =>
      simp only [runs] at reached
      split_ifs at reached with holds
      · rw [List.mem_singleton.mp reached]
        exact ⟨char, holds, rfl, rfl, rfl⟩
      · exact (List.not_mem_nil reached).elim

theorem of_mem_runs_assert {test : List α → List α → Bool}
    {start stop : Cursor α}
    (reached : stop ∈ (Pattern.assert test).runs start) :
    stop = start ∧ test start.before start.after = true := by
  rw [runs] at reached
  split_ifs at reached with holds
  · exact ⟨List.mem_singleton.mp reached, holds⟩
  · exact (List.not_mem_nil reached).elim

theorem of_mem_runs_lookahead {body : Pattern α} {start stop : Cursor α}
    (reached : stop ∈ (Pattern.lookahead body).runs start) :
    ∃ next ∈ body.runs start,
      stop = { start with groups := next.groups } := by
  rw [runs] at reached
  cases ahead : body.runs start with
  | nil =>
      rw [ahead] at reached
      exact (List.not_mem_nil reached).elim
  | cons next others =>
      rw [ahead] at reached
      exact
        ⟨next, List.mem_cons_self, List.mem_singleton.mp reached⟩

theorem mem_repeatRuns_succ {body : Cursor α → List (Cursor α)}
    {greedy : Bool} {fuel : ℕ} {start stop : Cursor α}
    (reached : stop ∈ repeatRuns body greedy (fuel + 1) start) :
    stop = start ∨
      ∃ middle ∈ body start,
        stop ∈ repeatRuns body greedy fuel middle := by
  rw [repeatRuns] at reached
  cases greedy <;>
    simp only [Bool.false_eq_true, if_false, if_true, List.mem_append,
      List.mem_cons, List.not_mem_nil, or_false, List.mem_flatMap,
      List.mem_filter] at reached
  · rcases reached with same | ⟨middle, ⟨isStep, _⟩, later⟩
    · exact Or.inl same
    · exact Or.inr ⟨middle, isStep, later⟩
  · rcases reached with ⟨middle, ⟨isStep, _⟩, later⟩ | same
    · exact Or.inr ⟨middle, isStep, later⟩
    · exact Or.inl same

/-- A relation that the repeated pattern extends holds of a repetition. -/
theorem star_induction {greedy : Bool} {body : Pattern α}
    {motive : Cursor α → Cursor α → Prop}
    (refl : ∀ cursor, motive cursor cursor)
    (step :
      ∀ start middle stop, middle ∈ body.runs start →
        motive middle stop → motive start stop)
    {start stop : Cursor α}
    (reached : stop ∈ (Pattern.star greedy body).runs start) :
    motive start stop := by
  rw [runs] at reached
  generalize start.after.length = fuel at reached
  induction fuel generalizing start with
  | zero =>
      rw [List.mem_singleton.mp reached]
      exact refl start
  | succ fuel induction =>
      rcases mem_repeatRuns_succ reached with
        rfl | ⟨middle, isStep, later⟩
      · exact refl stop
      · exact step start middle stop isStep (induction later)

/-! ## What a match consumes -/

/-- A cursor goes over a word. -/
structure Advances (start stop : Cursor α) (word : List α) : Prop where
  after : start.after = word ++ stop.after
  before : stop.before = word.reverse ++ start.before

theorem Advances.refl (start : Cursor α) : Advances start start [] where
  after := rfl
  before := rfl

theorem Advances.trans {start middle stop : Cursor α}
    {first second : List α} (left : Advances start middle first)
    (right : Advances middle stop second) :
    Advances start stop (first ++ second) where
  after := by
    rw [left.after, right.after, List.append_assoc]
  before := by
    rw [right.before, left.before, List.reverse_append,
      List.append_assoc]

theorem Advances.consumed_eq {start stop : Cursor α} {word : List α}
    (advances : Advances start stop word) :
    consumed start stop = word := by
  rw [consumed, advances.after, List.length_append,
    Nat.add_sub_cancel, List.take_left]

/-- The words that a pattern consumes when its assertions hold. -/
def language : Pattern α → Language α
  | .empty => 1
  | .set test => {word | ∃ char, test char = true ∧ word = [char]}
  | .seq first second => first.language * second.language
  | .alt first second => first.language + second.language
  | .star _ body => KStar.kstar body.language
  | .group _ body => body.language
  | .lookahead _ => 1
  | .assert _ => 1

/-- A match goes over a word of the language. -/
theorem advances_of_mem_runs (pattern : Pattern α)
    {start stop : Cursor α} (reached : stop ∈ pattern.runs start) :
    ∃ word ∈ pattern.language, Advances start stop word := by
  induction pattern generalizing start stop with
  | empty =>
      rw [List.mem_singleton.mp reached]
      exact ⟨[], rfl, Advances.refl start⟩
  | set test =>
      rcases of_mem_runs_set reached with ⟨char, holds, after, before, _⟩
      exact ⟨[char], ⟨char, holds, rfl⟩, ⟨after, before⟩⟩
  | seq first second left right =>
      rcases List.mem_flatMap.mp reached with ⟨middle, before, after⟩
      rcases left before with ⟨one, inFirst, advances⟩
      rcases right after with ⟨two, inSecond, continues⟩
      exact
        ⟨one ++ two, Language.append_mem_mul inFirst inSecond,
          advances.trans continues⟩
  | alt first second left right =>
      rcases List.mem_append.mp reached with inFirst | inSecond
      · rcases left inFirst with ⟨word, isWord, advances⟩
        exact ⟨word, Or.inl isWord, advances⟩
      · rcases right inSecond with ⟨word, isWord, advances⟩
        exact ⟨word, Or.inr isWord, advances⟩
  | star greedy body step =>
      refine
        star_induction (motive := fun start stop =>
          ∃ word ∈ KStar.kstar body.language, Advances start stop word)
          (fun cursor => ?_) ?_ reached
      · exact ⟨[], Language.nil_mem_kstar _, Advances.refl cursor⟩
      · rintro start middle stop isStep ⟨second, more, continues⟩
        rcases step isStep with ⟨first, one, advances⟩
        exact
          ⟨first ++ second,
            mul_kstar_le_kstar (a := body.language)
              (Language.append_mem_mul one more),
            advances.trans continues⟩
  | group number body inner =>
      rcases List.mem_map.mp reached with ⟨next, isNext, rfl⟩
      rcases inner isNext with ⟨word, isWord, advances⟩
      exact ⟨word, isWord, ⟨advances.after, advances.before⟩⟩
  | lookahead body _ =>
      rcases of_mem_runs_lookahead reached with ⟨next, _, rfl⟩
      exact ⟨[], rfl, ⟨rfl, rfl⟩⟩
  | assert test =>
      rw [(of_mem_runs_assert reached).1]
      exact ⟨[], rfl, Advances.refl start⟩

/-! ## Matches in a text -/

/-- A match consumes a word of the language, in front of what follows. -/
theorem matchAt_eq_some {pattern : Pattern α} {before after : List α}
    {found : Match α} (isMatch : pattern.matchAt before after = some found) :
    found.matched ∈ pattern.language ∧
      after = found.matched ++ found.rest := by
  rw [matchAt, Option.map_eq_some_iff] at isMatch
  rcases isMatch with ⟨stop, first, rfl⟩
  rcases advances_of_mem_runs pattern (List.mem_of_mem_head? first) with
    ⟨word, isWord, advances⟩
  rw [advances.consumed_eq]
  exact ⟨isWord, advances.after⟩

theorem scanFrom_of_none {pattern : Pattern α} {fuel : ℕ}
    {before rest : List α} {char : α}
    (noMatch : pattern.matchAt before (char :: rest) = none) :
    scanFrom pattern (fuel + 1) before (char :: rest) =
      .kept char :: scanFrom pattern fuel (char :: before) rest := by
  simp only [scanFrom, noMatch]

theorem scanFrom_of_some {pattern : Pattern α} {fuel : ℕ}
    {before rest : List α} {char : α} {found : Match α}
    (isMatch : pattern.matchAt before (char :: rest) = some found)
    (nonempty : found.matched ≠ []) :
    scanFrom pattern (fuel + 1) before (char :: rest) =
      .found found ::
        scanFrom pattern fuel (found.matched.reverse ++ before)
          found.rest := by
  simp only [scanFrom, isMatch, nonempty, if_false]

/-- Behind a match that consumes something, less text is left. -/
theorem length_rest_lt {pattern : Pattern α} {before after : List α}
    {found : Match α} {fuel : ℕ}
    (here : pattern.matchAt before after = some found)
    (nonempty : found.matched ≠ []) (enough : after.length < fuel + 1) :
    found.rest.length < fuel := by
  have positive := List.length_pos_of_ne_nil nonempty
  rw [(matchAt_eq_some here).2, List.length_append] at enough
  omega

/-- What every step of a scan extends holds of the whole scan. -/
theorem scan_induction {pattern : Pattern α}
    {motive : List α → List α → List (Segment α) → Prop}
    (done : ∀ before, motive before [] [])
    (last :
      ∀ before found, pattern.matchAt before [] = some found →
        motive before [] [.found found])
    (kept :
      ∀ before char rest parts,
        pattern.matchAt before (char :: rest) = none →
        motive (char :: before) rest parts →
        motive before (char :: rest) (.kept char :: parts))
    (empty :
      ∀ before char rest found parts,
        pattern.matchAt before (char :: rest) = some found →
        found.matched = [] → motive (char :: before) rest parts →
        motive before (char :: rest) (.found found :: .kept char :: parts))
    (found :
      ∀ before after found parts,
        pattern.matchAt before after = some found → found.matched ≠ [] →
        motive (found.matched.reverse ++ before) found.rest parts →
        motive before after (.found found :: parts))
    {fuel : ℕ} {before after : List α} (enough : after.length < fuel) :
    motive before after (scanFrom pattern fuel before after) := by
  induction fuel generalizing before after with
  | zero => exact (Nat.not_lt_zero _ enough).elim
  | succ fuel induction =>
      cases here : pattern.matchAt before after with
      | none =>
          cases after with
          | nil =>
              simp only [scanFrom, here]
              exact done before
          | cons char rest =>
              rw [scanFrom_of_none here]
              exact
                kept _ _ _ _ here
                  (induction (Nat.lt_of_succ_lt_succ enough))
      | some result =>
          cases after with
          | nil =>
              simp only [scanFrom, here]
              exact last before result here
          | cons char rest =>
              by_cases nothing : result.matched = []
              · simp only [scanFrom, here, nothing, if_true]
                exact
                  empty _ _ _ _ _ here nothing
                    (induction (Nat.lt_of_succ_lt_succ enough))
              · rw [scanFrom_of_some here nothing]
                exact
                  found _ _ _ _ here nothing
                    (induction (length_rest_lt here nothing enough))

/-- A part of a scan has its place behind a beginning of the text. -/
def Segment.Placed (pattern : Pattern α) (before after : List α)
    (part : Segment α) : Prop :=
  ∃ skipped rest,
    after = skipped ++ rest ∧
      match part with
      | .found result =>
          pattern.matchAt (skipped.reverse ++ before) rest = some result
      | .kept char =>
          rest.head? = some char ∧
            ∀ found,
              pattern.matchAt (skipped.reverse ++ before) rest =
                some found → found.matched = []

theorem Segment.Placed.shift {pattern : Pattern α}
    {before after : List α} {part : Segment α} (front : List α)
    (placed : part.Placed pattern (front.reverse ++ before) after) :
    part.Placed pattern before (front ++ after) := by
  rcases placed with ⟨skipped, rest, rfl, isThere⟩
  refine ⟨front ++ skipped, rest, (List.append_assoc ..).symm, ?_⟩
  rw [List.reverse_append, List.append_assoc]
  exact isThere

theorem Segment.placed_kept {pattern : Pattern α} {before rest : List α}
    {char : α}
    (noMatch :
      ∀ found, pattern.matchAt before (char :: rest) = some found →
        found.matched = []) :
    (Segment.kept char).Placed pattern before (char :: rest) :=
  ⟨[], char :: rest, rfl, rfl, noMatch⟩

theorem Segment.placed_found {pattern : Pattern α}
    {before after : List α} {found : Match α}
    (here : pattern.matchAt before after = some found) :
    (Segment.found found).Placed pattern before after :=
  ⟨[], after, rfl, here⟩

theorem placed_of_mem_scan {pattern : Pattern α} {text : List α} :
    ∀ part ∈ scan pattern text, part.Placed pattern [] text := by
  refine
    scan_induction (motive := fun before after parts =>
      ∀ part ∈ parts, part.Placed pattern before after)
      ?_ ?_ ?_ ?_ ?_ (Nat.lt_succ_self _)
  · exact fun _ _ member => nomatch member
  · intro before found here part member
    rw [List.mem_singleton.mp member]
    exact Segment.placed_found here
  · intro before char rest parts here later
    rw [List.forall_mem_cons]
    refine ⟨Segment.placed_kept fun found isMatch => ?_, ?_⟩
    · rw [here] at isMatch
      cases isMatch
    · exact fun part member => (later part member).shift [char]
  · intro before char rest found parts here nothing later
    rw [List.forall_mem_cons, List.forall_mem_cons]
    refine
      ⟨Segment.placed_found here,
        Segment.placed_kept fun other isMatch => ?_, ?_⟩
    · rw [here] at isMatch
      cases isMatch
      exact nothing
    · exact fun part member => (later part member).shift [char]
  · intro before after found parts here _ later
    rw [List.forall_mem_cons]
    refine ⟨Segment.placed_found here, fun part member => ?_⟩
    rw [(matchAt_eq_some here).2]
    exact (later part member).shift found.matched

/-- A match in a scan is one at its place. -/
theorem mem_scan {pattern : Pattern α} {text : List α} {found : Match α}
    (member : .found found ∈ scan pattern text) :
    ∃ skipped rest,
      text = skipped ++ rest ∧
        pattern.matchAt skipped.reverse rest = some found := by
  rcases placed_of_mem_scan _ member with ⟨skipped, rest, split, here⟩
  rw [List.append_nil] at here
  exact ⟨skipped, rest, split, here⟩

/-- What is between two matches begins none. -/
theorem place_of_kept {pattern : Pattern α} {text : List α} {char : α}
    (member : .kept char ∈ scan pattern text) :
    ∃ front rest,
      text = front ++ char :: rest ∧
        ∀ found,
          pattern.matchAt front.reverse (char :: rest) = some found →
            found.matched = [] := by
  rcases placed_of_mem_scan _ member with
    ⟨front, rest, split, isFirst, noMatch⟩
  rw [List.append_nil] at noMatch
  cases rest with
  | nil => cases isFirst
  | cons other rest =>
      cases isFirst
      exact ⟨front, rest, split, noMatch⟩

/-- Every match of a text is one at its place. -/
theorem mem_matchAll {pattern : Pattern α} {text : List α}
    {found : Match α} (member : found ∈ matchAll pattern text) :
    ∃ skipped rest,
      text = skipped ++ rest ∧
        pattern.matchAt skipped.reverse rest = some found := by
  rcases List.mem_filterMap.mp member with ⟨segment, inScan, isFound⟩
  cases segment with
  | kept char => cases isFound
  | found result =>
      cases isFound
      exact mem_scan inScan

/-! ## Groups -/

theorem after_subset_of_mem_runs (pattern : Pattern α)
    {start stop : Cursor α} (reached : stop ∈ pattern.runs start) :
    stop.after ⊆ start.after := by
  rcases advances_of_mem_runs pattern reached with ⟨word, _, advances⟩
  rw [advances.after]
  exact List.subset_append_right word stop.after

/-- Every new group is from the text behind the place. -/
def TakesGroups (start stop : Cursor α) : Prop :=
  ∀ pair ∈ stop.groups, pair ∈ start.groups ∨ pair.2 ⊆ start.after

theorem TakesGroups.refl (cursor : Cursor α) : TakesGroups cursor cursor :=
  fun _ => Or.inl

theorem TakesGroups.trans {start middle stop : Cursor α}
    (first : TakesGroups start middle) (second : TakesGroups middle stop)
    (fewer : middle.after ⊆ start.after) : TakesGroups start stop := by
  intro pair member
  rcases second pair member with earlier | inside
  · exact first pair earlier
  · exact Or.inr (List.Subset.trans inside fewer)

/-- The groups of a match are taken from the text behind its beginning. -/
theorem groups_of_mem_runs (pattern : Pattern α) {start stop : Cursor α}
    (reached : stop ∈ pattern.runs start) : TakesGroups start stop := by
  induction pattern generalizing start stop with
  | empty =>
      rw [List.mem_singleton.mp reached]
      exact TakesGroups.refl start
  | set test =>
      rcases of_mem_runs_set reached with ⟨_, _, _, _, same⟩
      rw [TakesGroups, same]
      exact fun _ => Or.inl
  | seq first second left right =>
      rcases List.mem_flatMap.mp reached with ⟨middle, before, after⟩
      exact
        (left before).trans (right after)
          (after_subset_of_mem_runs first before)
  | alt first second left right =>
      rcases List.mem_append.mp reached with inFirst | inSecond
      · exact left inFirst
      · exact right inSecond
  | star greedy body step =>
      refine star_induction TakesGroups.refl ?_ reached
      intro start middle stop isStep later
      exact (step isStep).trans later (after_subset_of_mem_runs body isStep)
  | group number body inner =>
      rcases List.mem_map.mp reached with ⟨next, isNext, rfl⟩
      intro pair member
      rcases List.mem_cons.mp member with rfl | earlier
      · exact Or.inr (List.take_subset _ _)
      · exact inner isNext pair earlier
  | lookahead body inner =>
      rcases of_mem_runs_lookahead reached with ⟨next, isNext, rfl⟩
      exact @inner start next isNext
  | assert test =>
      rw [(of_mem_runs_assert reached).1]
      exact TakesGroups.refl start

theorem group_subset {pattern : Pattern α} {before after : List α}
    {found : Match α} (isMatch : pattern.matchAt before after = some found)
    (number : ℕ) : found.group number ⊆ after := by
  rw [matchAt, Option.map_eq_some_iff] at isMatch
  rcases isMatch with ⟨stop, first, rfl⟩
  have groups := groups_of_mem_runs pattern (List.mem_of_mem_head? first)
  rw [Match.group]
  cases isGroup : stop.groups.lookup number with
  | none => exact List.nil_subset after
  | some text =>
      rcases List.lookup_eq_some_iff.mp isGroup with ⟨_, _, split, _⟩
      have member : (number, text) ∈ stop.groups := by
        rw [split]
        simp
      rcases groups _ member with earlier | inside
      · exact (List.not_mem_nil earlier).elim
      · exact inside

/-- The groups of a match in a text are taken from it. -/
theorem group_subset_of_mem_matchAll {pattern : Pattern α}
    {text : List α} {found : Match α}
    (member : found ∈ matchAll pattern text) (number : ℕ) :
    found.group number ⊆ text := by
  rcases mem_matchAll member with ⟨skipped, rest, rfl, isMatch⟩
  exact
    List.Subset.trans (group_subset isMatch number)
      (List.subset_append_right skipped rest)

/-- The numbers of the groups in a pattern. -/
def groupNumbers : Pattern α → List ℕ
  | .empty => []
  | .set _ => []
  | .seq first second => first.groupNumbers ++ second.groupNumbers
  | .alt first second => first.groupNumbers ++ second.groupNumbers
  | .star _ body => body.groupNumbers
  | .group number body => number :: body.groupNumbers
  | .lookahead body => body.groupNumbers
  | .assert _ => []

/-- A pattern without a group of some number leaves that group as it is. -/
theorem lookup_of_mem_runs {number : ℕ} (pattern : Pattern α)
    (other : number ∉ pattern.groupNumbers) {start stop : Cursor α}
    (reached : stop ∈ pattern.runs start) :
    stop.groups.lookup number = start.groups.lookup number := by
  induction pattern generalizing start stop with
  | empty => rw [List.mem_singleton.mp reached]
  | set test =>
      rcases of_mem_runs_set reached with ⟨_, _, _, _, same⟩
      rw [same]
  | seq first second left right =>
      rw [groupNumbers, List.mem_append, not_or] at other
      rcases List.mem_flatMap.mp reached with ⟨middle, before, after⟩
      exact (right other.2 after).trans (left other.1 before)
  | alt first second left right =>
      rw [groupNumbers, List.mem_append, not_or] at other
      rcases List.mem_append.mp reached with inFirst | inSecond
      · exact left other.1 inFirst
      · exact right other.2 inSecond
  | star greedy body step =>
      refine
        star_induction (motive := fun start stop =>
          stop.groups.lookup number = start.groups.lookup number)
          (fun _ => rfl) ?_ reached
      intro start middle stop isStep later
      exact later.trans (step other isStep)
  | group index body inner =>
      rw [groupNumbers, List.mem_cons, not_or] at other
      rcases List.mem_map.mp reached with ⟨next, isNext, rfl⟩
      rw [List.lookup_cons, beq_false_of_ne other.1]
      exact inner other.2 isNext
  | lookahead body inner =>
      rcases of_mem_runs_lookahead reached with ⟨next, isNext, rfl⟩
      exact @inner other start next isNext
  | assert test => rw [(of_mem_runs_assert reached).1]

/-- A group that a sequence always goes through is a word of its body. -/
theorem group_mem_language {front others : List (Pattern α)}
    {number : ℕ} {body : Pattern α} {before after : List α}
    {found : Match α}
    (other : number ∉ (sequence others).groupNumbers)
    (isMatch :
      (sequence (front ++ .group number body :: others)).matchAt before
        after = some found) :
    found.group number ∈ body.language := by
  rw [matchAt, Option.map_eq_some_iff] at isMatch
  rcases isMatch with ⟨stop, first, rfl⟩
  have reached := List.mem_of_mem_head? first
  generalize Cursor.mk before after [] = start at reached
  suffices word :
      ∃ text ∈ body.language, stop.groups.lookup number = some text by
    rcases word with ⟨text, isWord, isGroup⟩
    rw [Match.group, isGroup]
    exact isWord
  clear first
  induction front generalizing start with
  | nil =>
      rcases List.mem_flatMap.mp reached with ⟨middle, inGroup, later⟩
      rcases List.mem_map.mp inGroup with ⟨next, isNext, rfl⟩
      rcases advances_of_mem_runs body isNext with ⟨text, isWord, advances⟩
      refine ⟨text, isWord, ?_⟩
      rw [lookup_of_mem_runs _ other later, advances.consumed_eq]
      exact List.lookup_cons_self
  | cons part front induction =>
      rcases List.mem_flatMap.mp reached with ⟨middle, _, later⟩
      exact induction middle later

/-! ## Words of a language -/

theorem mem_language_sequence_nil {word : List α} :
    word ∈ (sequence ([] : List (Pattern α))).language ↔ word = [] :=
  Iff.rfl

/-- A repeated character class. -/
theorem forall_of_mem_language_star {greedy : Bool} {test : α → Bool}
    {word : List α}
    (isWord : word ∈ (Pattern.star greedy (.set test)).language) :
    ∀ char ∈ word, test char = true := by
  rcases Language.mem_kstar.mp isWord with ⟨words, rfl, all⟩
  intro char member
  rcases List.mem_flatten.mp member with ⟨part, isPart, inPart⟩
  rcases all part isPart with ⟨only, holds, rfl⟩
  rw [List.mem_singleton.mp inPart]
  exact holds

/-- One or more of a character class. -/
theorem forall_of_mem_language_plus {greedy : Bool} {test : α → Bool}
    {word : List α} (isWord : word ∈ (plus greedy (.set test)).language) :
    word ≠ [] ∧ ∀ char ∈ word, test char = true := by
  rcases isWord with ⟨_, ⟨first, holds, rfl⟩, others, isStar, rfl⟩
  refine ⟨List.cons_ne_nil _ _, List.forall_mem_cons.mpr ⟨holds, ?_⟩⟩
  exact forall_of_mem_language_star isStar

/-- A match begins where a leading assertion holds. -/
theorem holds_of_matchAt {test : List α → List α → Bool}
    {others : List (Pattern α)} {before after : List α} {found : Match α}
    (isMatch :
      (sequence (.assert test :: others)).matchAt before after =
        some found) :
    test before after = true := by
  by_contra fails
  simp [matchAt, sequence, runs, fails] at isMatch

theorem holds_of_mem_runs {test : List α → List α → Bool}
    {parts : List (Pattern α)} {start stop : Cursor α}
    (reached : stop ∈ (sequence (parts ++ [.assert test])).runs start) :
    test stop.before stop.after = true := by
  induction parts generalizing start with
  | nil =>
      rcases List.mem_flatMap.mp reached with ⟨middle, atTest, ends⟩
      cases List.mem_singleton.mp ends
      rcases of_mem_runs_assert atTest with ⟨rfl, holds⟩
      exact holds
  | cons part parts induction =>
      rcases List.mem_flatMap.mp reached with ⟨middle, _, later⟩
      exact induction later

/-- A match ends where a trailing assertion holds. -/
theorem holds_behind_matchAt {test : List α → List α → Bool}
    {parts : List (Pattern α)} {before after : List α} {found : Match α}
    (isMatch :
      (sequence (parts ++ [.assert test])).matchAt before after =
        some found) :
    test (found.matched.reverse ++ before) found.rest = true := by
  rw [matchAt, Option.map_eq_some_iff] at isMatch
  rcases isMatch with ⟨stop, first, rfl⟩
  have reached := List.mem_of_mem_head? first
  rcases advances_of_mem_runs _ reached with ⟨word, _, advances⟩
  have holds := holds_of_mem_runs reached
  rw [advances.before] at holds
  rw [advances.consumed_eq]
  exact holds

/-- Where a pattern can end, it matches. -/
theorem exists_matchAt {pattern : Pattern α} {before after : List α}
    {stop : Cursor α} (reached : stop ∈ pattern.runs ⟨before, after, []⟩) :
    ∃ found, pattern.matchAt before after = some found := by
  rw [matchAt]
  cases list : pattern.runs ⟨before, after, []⟩ with
  | nil =>
      rw [list] at reached
      exact (List.not_mem_nil reached).elim
  | cons first others => exact ⟨_, rfl⟩

theorem mem_runs_assert {test : List α → List α → Bool} {cursor : Cursor α}
    (holds : test cursor.before cursor.after = true) :
    cursor ∈ (Pattern.assert test).runs cursor := by
  rw [runs, if_pos holds]
  exact List.mem_singleton_self cursor

theorem mem_runs_sequence {part : Pattern α} {parts : List (Pattern α)}
    {start middle stop : Cursor α} (first : middle ∈ part.runs start)
    (later : stop ∈ (sequence parts).runs middle) :
    stop ∈ (sequence (part :: parts)).runs start :=
  List.mem_flatMap.mpr ⟨middle, first, later⟩

theorem mem_runs_oneOf {first part : Pattern α}
    {others : List (Pattern α)} (isPart : part ∈ first :: others)
    {start stop : Cursor α} (reached : stop ∈ part.runs start) :
    stop ∈ (oneOf first others).runs start := by
  induction others generalizing first part with
  | nil =>
      rw [List.mem_singleton.mp isPart] at reached
      exact reached
  | cons next others induction =>
      have start : part ∈ [first, next] ∨ part ∈ others := by
        simpa [or_assoc] using isPart
      rcases start with either | later
      · refine induction List.mem_cons_self ?_
        refine List.mem_append.mpr ?_
        simp only [List.mem_cons, List.not_mem_nil, or_false] at either
        rcases either with rfl | rfl
        · exact Or.inl reached
        · exact Or.inr reached
      · exact induction (List.mem_cons_of_mem _ later) reached

/-- A repetition can end where it begins. -/
theorem mem_runs_star (greedy : Bool) (body : Pattern α)
    (cursor : Cursor α) : cursor ∈ (Pattern.star greedy body).runs cursor := by
  rw [runs]
  cases cursor.after.length with
  | zero => exact List.mem_singleton_self cursor
  | succ fuel =>
      rw [repeatRuns]
      cases greedy with
      | true => exact List.mem_append_right _ List.mem_cons_self
      | false => exact List.mem_cons_self

/-! ## From the first opening to the last closing character -/

/-- Any text, as much as possible. -/
def anything : Pattern α :=
  .star true (.set fun _ => true)

/-- From an opening character as far as to a closing one. -/
def spanning (opens closes : α → Bool) : Pattern α :=
  .seq (.set opens) (.seq anything (.set closes))

theorem runs_anything_cons (before after : List α) (char : α)
    (groups : List (ℕ × List α)) :
    anything.runs ⟨before, char :: after, groups⟩ =
      anything.runs ⟨char :: before, after, groups⟩ ++
        [⟨before, char :: after, groups⟩] := by
  simp [anything, runs, repeatRuns]

variable {opens closes : α → Bool}

theorem runs_untilLast_nil {after : List α}
    (noClose : ∀ char ∈ after, closes char = false) (before : List α)
    (groups : List (ℕ × List α)) :
    (Pattern.seq anything (.set closes)).runs
      ⟨before, after, groups⟩ = [] := by
  induction after generalizing before with
  | nil => rfl
  | cons char after induction =>
      rw [List.forall_mem_cons] at noClose
      have later := induction noClose.2 (char :: before)
      rw [runs] at later ⊢
      rw [runs_anything_cons, List.flatMap_append, later]
      simp [runs, noClose.1]

/-- The longest way ends at the last closing character. -/
theorem head?_runs_untilLast (inner : List α) {closing : α}
    {after : List α} (isClose : closes closing = true)
    (noClose : ∀ char ∈ after, closes char = false) (before : List α)
    (groups : List (ℕ × List α)) :
    ((Pattern.seq anything (.set closes)).runs
        ⟨before, inner ++ closing :: after, groups⟩).head? =
      some ⟨closing :: (inner.reverse ++ before), after, groups⟩ := by
  induction inner generalizing before with
  | nil =>
      have later :=
        runs_untilLast_nil noClose (closing :: before) groups
      rw [runs] at later ⊢
      rw [List.nil_append, runs_anything_cons, List.flatMap_append, later]
      simp [runs, isClose]
  | cons char inner induction =>
      have later := induction (char :: before)
      rw [runs] at later ⊢
      rw [List.cons_append, runs_anything_cons, List.flatMap_append,
        List.head?_append, later]
      simp

theorem matchAt_of_not_opens {before after : List α} {char : α}
    (noOpen : opens char = false) :
    (spanning opens closes).matchAt before (char :: after) = none := by
  simp [matchAt, spanning, runs, noOpen]

theorem matchAt_spanning (before : List α) {opening closing : α}
    {inner after : List α} (isOpen : opens opening = true)
    (isClose : closes closing = true)
    (noClose : ∀ char ∈ after, closes char = false) :
    (spanning opens closes).matchAt before
        (opening :: (inner ++ closing :: after)) =
      some
        { matched := opening :: (inner ++ [closing])
          groups := []
          rest := after } := by
  have first :=
    head?_runs_untilLast inner isClose noClose (opening :: before) []
  have advances :
      Advances
        ⟨before, opening :: (inner ++ closing :: after), []⟩
        ⟨closing :: (inner.reverse ++ opening :: before), after, []⟩
        (opening :: (inner ++ [closing])) :=
    ⟨by simp, by simp⟩
  simp only [matchAt, spanning, runs, isOpen, if_true,
    List.flatMap_singleton] at first ⊢
  rw [first, Option.map_some, advances.consumed_eq]

theorem head?_scanFrom_spanning {before skipped inner after : List α}
    {opening closing : α} {fuel : ℕ}
    (noOpen : ∀ char ∈ skipped, opens char = false)
    (isOpen : opens opening = true) (isClose : closes closing = true)
    (noClose : ∀ char ∈ after, closes char = false)
    (enough : skipped.length < fuel) :
    ((scanFrom (spanning opens closes) fuel before
        (skipped ++ opening :: (inner ++ closing :: after))).filterMap
          Segment.result).head? =
      some
        { matched := opening :: (inner ++ [closing])
          groups := []
          rest := after } := by
  induction skipped generalizing before fuel with
  | nil =>
      cases fuel with
      | zero => exact (Nat.not_lt_zero _ enough).elim
      | succ fuel =>
          rw [List.nil_append,
            scanFrom_of_some
              (matchAt_spanning before isOpen isClose noClose)
              (List.cons_ne_nil _ _)]
          rfl
  | cons char skipped induction =>
      rw [List.forall_mem_cons] at noOpen
      cases fuel with
      | zero => exact (Nat.not_lt_zero _ enough).elim
      | succ fuel =>
          rw [List.cons_append,
            scanFrom_of_none (matchAt_of_not_opens noOpen.1)]
          exact induction noOpen.2 (Nat.lt_of_succ_lt_succ enough)

/-- The first match goes from the first opening to the last closing. -/
theorem firstMatch_spanning {skipped inner after : List α}
    {opening closing : α}
    (noOpen : ∀ char ∈ skipped, opens char = false)
    (isOpen : opens opening = true) (isClose : closes closing = true)
    (noClose : ∀ char ∈ after, closes char = false) :
    (spanning opens closes).firstMatch
        (skipped ++ opening :: (inner ++ closing :: after)) =
      some
        { matched := opening :: (inner ++ [closing])
          groups := []
          rest := after } :=
  head?_scanFrom_spanning noOpen isOpen isClose noClose
    (by rw [List.length_append]; omega)

/-- Every match needs an opening and a closing character. -/
theorem exists_of_firstMatch_spanning {text : List α} {found : Match α}
    (isMatch : (spanning opens closes).firstMatch text = some found) :
    ∃ skipped opening inner closing after,
      text = skipped ++ opening :: (inner ++ closing :: after) ∧
        opens opening = true ∧ closes closing = true := by
  rcases mem_matchAll (List.mem_of_mem_head? isMatch) with
    ⟨skipped, rest, split, here⟩
  rcases matchAt_eq_some here with ⟨isWord, consumes⟩
  rcases isWord with
    ⟨_, ⟨opening, isOpen, rfl⟩, _, ⟨inner, _, _, ⟨closing, isClose, rfl⟩, rfl⟩,
      whole⟩
  refine ⟨skipped, opening, inner, closing, found.rest, ?_, isOpen, isClose⟩
  rw [split, consumes, ← whole]
  simp

end Pattern

end SultanPass.Library
