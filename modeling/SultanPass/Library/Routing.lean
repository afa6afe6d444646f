import Mathlib.Data.List.Forall2
import Mathlib.Tactic.SplitIfs

/-!
# Routing paths

A `Template` is a path some of whose words are parameters.  A path matches a
template when it has its words, and any other word for each parameter.  Of
several routes the first one that matches answers.

Writing values into the template of a route gives a path that matches it
with these values.  It reaches the route exactly when no earlier route asks
for words that these values are: `demands` computes what an earlier template
asks of the values, without knowing them.
-/

namespace SultanPass.Library.Routing

abbrev Word := List Char

/-- A word that may stand for a parameter. -/
structure IsWord (word : Word) : Prop where
  nonempty : word ≠ []
  noSlash : '/' ∉ word

instance (word : Word) : Decidable (IsWord word) :=
  decidable_of_iff (word ≠ [] ∧ '/' ∉ word)
    ⟨fun holds => ⟨holds.1, holds.2⟩,
      fun holds => ⟨holds.nonempty, holds.noSlash⟩⟩

/-! ## The words of a path -/

/-- The words between slashes, without slashes at the end. -/
def pathWords (path : List Char) : List Word :=
  (path.reverse.dropWhile fun char => char = '/').reverse.splitOn '/'

/-- The path that begins with a slash and has the words. -/
def wordsPath (words : List Word) : List Char :=
  ['/'].intercalate ([] :: words)

theorem exists_last_intercalate {first : Word} {words : List Word}
    (nonempty : words ≠ []) (areWords : ∀ word ∈ words, IsWord word) :
    ∃ before last,
      ['/'].intercalate (first :: words) = before ++ [last] ∧
        last ≠ '/' := by
  induction words generalizing first with
  | nil => exact (nonempty rfl).elim
  | cons word rest induction =>
      rw [List.intercalate_cons_cons]
      by_cases noRest : rest = []
      · subst noRest
        have isWord := areWords word List.mem_cons_self
        rw [List.intercalate_singleton]
        rcases List.eq_nil_or_concat word with rfl | ⟨start, last, rfl⟩
        · exact (isWord.nonempty rfl).elim
        · refine ⟨first ++ ['/'] ++ start, last, ?_, ?_⟩
          · simp
          · rintro rfl
            exact isWord.noSlash (by simp)
      · have restWords : ∀ other ∈ rest, IsWord other :=
          fun other member => areWords other (List.mem_cons_of_mem _ member)
        rcases @induction word noRest restWords with
          ⟨before, last, same, noSlash⟩
        refine ⟨first ++ ['/'] ++ before, last, ?_, noSlash⟩
        rw [same]
        simp

/-- Words that are not empty are read back from their path. -/
theorem pathWords_wordsPath {words : List Word}
    (areWords : ∀ word ∈ words, IsWord word) :
    pathWords (wordsPath words) = [] :: words := by
  have noSlash : ∀ word ∈ [] :: words, '/' ∉ word := by
    intro word member
    rcases List.mem_cons.mp member with rfl | later
    · exact List.not_mem_nil
    · exact (areWords word later).noSlash
  have untrimmed :
      ((wordsPath words).reverse.dropWhile fun char =>
          char = '/').reverse =
        wordsPath words := by
    by_cases noWords : words = []
    · subst noWords
      rfl
    · rcases exists_last_intercalate noWords areWords with
        ⟨before, last, same, notSlash⟩
      rw [wordsPath, same]
      simp [notSlash]
  rw [pathWords, untrimmed]
  exact List.splitOn_intercalate '/' noSlash (List.cons_ne_nil _ _)

/-! ## Templates -/

inductive Segment where
  | literal (word : Word)
  | parameter (name : Word)
deriving DecidableEq, Repr

abbrev Template := List Segment

/-- A word in braces is a parameter. -/
def Segment.ofWord (word : Word) : Segment :=
  if word.head? = some '{' ∧ word.getLast? = some '}' then
    .parameter word.tail.dropLast
  else
    .literal word

/-- The word of a segment that is no parameter. -/
def Segment.word? : Segment → Option Word
  | .literal word => some word
  | .parameter _ => none

namespace Template

/-- The template that a text describes. -/
def ofText (text : String) : Template :=
  ((text.toList.splitOn '/').filter (· ≠ [])).map Segment.ofWord

/-- The number of parameters. -/
def arity : Template → ℕ
  | [] => 0
  | .literal _ :: rest => arity rest
  | .parameter _ :: rest => arity rest + 1

/-- The values of the parameters, when the words match. -/
def read : Template → List Word → Option (List Word)
  | [], [] => some []
  | .literal expected :: rest, word :: words =>
      if word = expected then read rest words else none
  | .parameter _ :: rest, word :: words =>
      if word = [] then none else (read rest words).map (word :: ·)
  | [], _ :: _ => none
  | _ :: _, [] => none

/-- The words with values for the parameters. -/
def write : Template → List Word → List Word
  | [], _ => []
  | .literal word :: rest, values => word :: write rest values
  | .parameter _ :: rest, value :: values => value :: write rest values
  | .parameter _ :: rest, [] => write rest []

/-- One word for each parameter. -/
structure Fits (template : Template) (values : List Word) : Prop where
  length : values.length = template.arity
  areWords : ∀ value ∈ values, IsWord value

/-- The words of the template itself can be part of a path. -/
def WellFormed (template : Template) : Prop :=
  ∀ segment ∈ template, ∀ word ∈ segment.word?, IsWord word

instance (template : Template) : Decidable template.WellFormed :=
  inferInstanceAs (Decidable (∀ segment ∈ template, _))

theorem Fits.tail {name value : Word} {template : Template}
    {values : List Word}
    (fits : Fits (.parameter name :: template) (value :: values)) :
    Fits template values where
  length := Nat.succ.inj fits.length
  areWords := fun other member =>
    fits.areWords other (List.mem_cons_of_mem _ member)

theorem Fits.exists_cons {name : Word} {template : Template}
    {values : List Word} (fits : Fits (.parameter name :: template) values) :
    ∃ value rest,
      values = value :: rest ∧ IsWord value ∧ Fits template rest := by
  cases values with
  | nil => cases fits.length
  | cons value rest =>
      exact
        ⟨value, rest, rfl, fits.areWords value List.mem_cons_self,
          fits.tail⟩

theorem Fits.literal {word : Word} {template : Template}
    {values : List Word} (fits : Fits (.literal word :: template) values) :
    Fits template values :=
  ⟨fits.length, fits.areWords⟩

/-- What is written is read. -/
theorem read_write {template : Template} {values : List Word}
    (fits : template.Fits values) :
    template.read (template.write values) = some values := by
  induction template generalizing values with
  | nil =>
      cases values with
      | nil => rfl
      | cons value rest => cases fits.length
  | cons segment template induction =>
      cases segment with
      | literal word =>
          simp only [write, read, if_true]
          exact induction fits.literal
      | parameter name =>
          rcases fits.exists_cons with ⟨value, rest, rfl, isWord, later⟩
          simp only [write, read, if_neg isWord.nonempty]
          rw [induction later]
          rfl

theorem areWords_write {template : Template} {values : List Word}
    (formed : template.WellFormed) (fits : template.Fits values) :
    ∀ word ∈ template.write values, IsWord word := by
  induction template generalizing values with
  | nil => exact fun word member => (List.not_mem_nil member).elim
  | cons segment template induction =>
      have later : WellFormed template := fun other member =>
        formed other (List.mem_cons_of_mem _ member)
      intro word member
      cases segment with
      | literal own =>
          rcases List.mem_cons.mp member with rfl | inRest
          · exact formed (.literal word) List.mem_cons_self word rfl
          · exact induction later fits.literal word inRest
      | parameter name =>
          rcases fits.exists_cons with ⟨value, rest, rfl, isWord, fitsRest⟩
          rcases List.mem_cons.mp member with rfl | inRest
          · exact isWord
          · exact induction later fitsRest word inRest

/-- The values with which a path matches. -/
def matchPath (template : Template) (path : List Char) :
    Option (List Word) :=
  match pathWords path with
  | [] :: words => template.read words
  | _ => none

/-- The path of a template with values for its parameters. -/
def path (template : Template) (values : List Word) : List Char :=
  wordsPath (template.write values)

theorem matchPath_path {template other : Template} {values : List Word}
    (formed : template.WellFormed) (fits : template.Fits values) :
    other.matchPath (template.path values) =
      other.read (template.write values) := by
  rw [matchPath, path, pathWords_wordsPath (areWords_write formed fits)]

/-! ## What an earlier template demands -/

/--
What the values of `later` have to be for its path to match `earlier`: for
each of them a word, or anything.  There is no answer when the path never
matches.
-/
def demands : Template → Template → Option (List (Option Word))
  | [], [] => some []
  | .literal word :: earlier, .literal other :: later =>
      if word = other then demands earlier later else none
  | .literal word :: earlier, .parameter _ :: later =>
      (demands earlier later).map (some word :: ·)
  | .parameter _ :: earlier, .literal other :: later =>
      if other = [] then none else demands earlier later
  | .parameter _ :: earlier, .parameter _ :: later =>
      (demands earlier later).map (none :: ·)
  | [], _ :: _ => none
  | _ :: _, [] => none

/-- The values are what is demanded of them. -/
def Meets (asked : List (Option Word)) (values : List Word) : Prop :=
  List.Forall₂ (fun demand value => ∀ word ∈ demand, value = word)
    asked values

/-- The demands say which values make the path match. -/
theorem isSome_read_write_iff {earlier later : Template}
    {values : List Word} (fits : later.Fits values) :
    (earlier.read (later.write values)).isSome = true ↔
      ∃ asked, demands earlier later = some asked ∧ Meets asked values := by
  induction later generalizing earlier values with
  | nil =>
      cases values with
      | cons value rest => cases fits.length
      | nil =>
          cases earlier with
          | nil => exact iff_of_true rfl ⟨[], rfl, List.Forall₂.nil⟩
          | cons segment earlier =>
              cases segment with
              | literal word => simp [write, read, demands]
              | parameter name => simp [write, read, demands]
  | cons segment later induction =>
      cases earlier with
      | nil =>
          cases segment with
          | literal word => simp [write, read, demands]
          | parameter name =>
              rcases fits.exists_cons with ⟨value, rest, rfl, _, _⟩
              simp [write, read, demands]
      | cons first earlier =>
          cases segment with
          | literal other =>
              cases first with
              | literal word =>
                  simp only [write, read, demands]
                  by_cases same : word = other
                  · rw [if_pos same.symm, if_pos same]
                    exact induction fits.literal
                  · rw [if_neg (Ne.symm same), if_neg same]
                    simp
              | parameter name =>
                  simp only [write, read, demands]
                  split_ifs with isEmpty
                  · simp
                  · rw [Option.isSome_map]
                    exact induction fits.literal
          | parameter own =>
              rcases fits.exists_cons with
                ⟨value, rest, rfl, isWord, fitsRest⟩
              have fromRest := @induction earlier _ fitsRest
              cases first with
              | literal word =>
                  simp only [write, read, demands]
                  constructor
                  · intro matched
                    split_ifs at matched with same
                    · rcases fromRest.mp matched with
                        ⟨asked, computed, meets⟩
                      refine ⟨some word :: asked, by simp [computed], ?_⟩
                      exact
                        List.Forall₂.cons
                          (fun wanted isWanted =>
                            same.trans (Option.some.inj isWanted)) meets
                    · cases matched
                  · rintro ⟨asked, computed, meets⟩
                    rcases Option.map_eq_some_iff.mp computed with
                      ⟨others, ofRest, rfl⟩
                    cases meets with
                    | cons isDemanded meets =>
                        rw [if_pos (isDemanded word rfl)]
                        exact fromRest.mpr ⟨others, ofRest, meets⟩
              | parameter name =>
                  simp only [write, read, demands, if_neg isWord.nonempty,
                    Option.isSome_map]
                  rw [fromRest]
                  constructor
                  · rintro ⟨asked, computed, meets⟩
                    refine ⟨none :: asked, by simp [computed], ?_⟩
                    exact List.Forall₂.cons (fun _ absurd => nomatch absurd)
                      meets
                  · rintro ⟨asked, computed, meets⟩
                    rcases Option.map_eq_some_iff.mp computed with
                      ⟨others, ofRest, rfl⟩
                    cases meets with
                    | cons _ meets => exact ⟨others, ofRest, meets⟩

end Template

/-! ## The first route that matches -/

section FirstMatch

variable {Route : Type} (template : Route → Template)

/-- The first route that matches a path, with the values. -/
def firstMatch (routes : List Route) (path : List Char) :
    Option (Route × List Word) :=
  routes.findSome? fun route =>
    ((template route).matchPath path).map fun values => (route, values)

/-- What the earlier routes demand of the values of a route. -/
def obstructions (earlier : List Route) (route : Route) :
    List (List (Option Word)) :=
  earlier.filterMap fun other =>
    Template.demands (template other) (template route)

variable {template}

/-- A route that answers is listed and matches. -/
theorem of_firstMatch {routes : List Route} {path : List Char}
    {route : Route} {values : List Word}
    (found : firstMatch template routes path = some (route, values)) :
    route ∈ routes ∧ (template route).matchPath path = some values := by
  rcases List.exists_of_findSome?_eq_some found with
    ⟨other, member, matched⟩
  rcases Option.map_eq_some_iff.mp matched with ⟨read, isRead, same⟩
  cases same
  exact ⟨member, isRead⟩

/--
The path of a route leads to it exactly when its values are not what an
earlier route demands.
-/
theorem firstMatch_path_iff {before after : List Route} {route : Route}
    {values : List Word} (formed : (template route).WellFormed)
    (fits : (template route).Fits values) (isNew : route ∉ before) :
    firstMatch template (before ++ route :: after)
          ((template route).path values) =
        some (route, values) ↔
      ∀ asked ∈ obstructions template before route,
        ¬ Template.Meets asked values := by
  have own :
      (template route).matchPath ((template route).path values) =
        some values := by
    rw [Template.matchPath_path formed fits, Template.read_write fits]
  have obstructed (other : Route) :
      ((template other).matchPath
            ((template route).path values)).isSome = true ↔
        ∃ asked,
          Template.demands (template other) (template route) =
              some asked ∧
            Template.Meets asked values := by
    rw [Template.matchPath_path formed fits]
    exact Template.isSome_read_write_iff fits
  unfold firstMatch
  rw [List.findSome?_append]
  constructor
  · intro reached asked member meets
    rcases List.mem_filterMap.mp member with ⟨other, isEarlier, computed⟩
    have matches' := (obstructed other).mpr ⟨asked, computed, meets⟩
    cases found :
        before.findSome? fun route' =>
          ((template route').matchPath
            ((template route).path values)).map fun values =>
              (route', values) with
    | none =>
        have missed := List.findSome?_eq_none_iff.mp found other isEarlier
        rw [Option.map_eq_none_iff] at missed
        rw [missed] at matches'
        cases matches'
    | some result =>
        rw [found] at reached
        cases reached
        rcases List.exists_of_findSome?_eq_some found with
          ⟨first, isBefore, matched⟩
        rcases Option.map_eq_some_iff.mp matched with ⟨read, _, same⟩
        cases same
        exact isNew isBefore
  · intro unobstructed
    have skipped :
        (before.findSome? fun route' =>
            ((template route').matchPath
              ((template route).path values)).map fun values =>
                (route', values)) =
          none := by
      rw [List.findSome?_eq_none_iff]
      intro other isEarlier
      rw [Option.map_eq_none_iff, ← Option.not_isSome_iff_eq_none]
      intro matched
      rcases (obstructed other).mp matched with ⟨asked, computed, meets⟩
      exact
        unobstructed asked
          (List.mem_filterMap.mpr ⟨other, isEarlier, computed⟩) meets
    rw [skipped, Option.none_or, List.findSome?_cons, own]
    rfl

variable (template)

/-- The routes after some earlier ones, each with its obstructions. -/
def withObstructions (earlier : List Route) :
    List Route → List (Route × List (List (Option Word)))
  | [] => []
  | route :: rest =>
      (route, obstructions template earlier route) ::
        withObstructions (earlier ++ [route]) rest

variable {template}

theorem exists_split_of_mem {earlier routes : List Route} {route : Route}
    (member : route ∈ routes) :
    ∃ before after,
      routes = before ++ route :: after ∧ route ∉ before ∧
        (route, obstructions template (earlier ++ before) route) ∈
          withObstructions template earlier routes := by
  induction routes generalizing earlier with
  | nil => exact (List.not_mem_nil member).elim
  | cons first rest induction =>
      by_cases isFirst : route = first
      · subst isFirst
        refine ⟨[], rest, rfl, List.not_mem_nil, ?_⟩
        rw [List.append_nil]
        exact List.mem_cons_self
      · have inRest := (List.mem_cons.mp member).resolve_left isFirst
        rcases @induction (earlier ++ [first]) inRest with
          ⟨before, after, same, isNew, listed⟩
        refine ⟨first :: before, after, by rw [same]; rfl, ?_, ?_⟩
        · intro isEarlier
          exact isNew ((List.mem_cons.mp isEarlier).resolve_left isFirst)
        · rw [List.append_assoc] at listed
          exact List.mem_cons_of_mem _ listed

/-- The same for a listed route whose obstructions are known. -/
theorem firstMatch_path_iff_of_mem {routes : List Route} {route : Route}
    {values : List Word} {known : List (List (Option Word))}
    (formed : (template route).WellFormed)
    (fits : (template route).Fits values) (member : route ∈ routes)
    (computed :
      ∀ entry ∈ withObstructions template [] routes,
        entry.1 = route → entry.2 = known) :
    firstMatch template routes ((template route).path values) =
        some (route, values) ↔
      ∀ asked ∈ known, ¬ Template.Meets asked values := by
  have splits :
      ∃ before after,
        routes = before ++ route :: after ∧ route ∉ before ∧
          (route, obstructions template before route) ∈
            withObstructions template [] routes :=
    exists_split_of_mem member
  rcases splits with ⟨before, after, same, isNew, listed⟩
  have isKnown := computed _ listed rfl
  rw [← isKnown, same]
  exact firstMatch_path_iff formed fits isNew

end FirstMatch

end SultanPass.Library.Routing
