import SultanPass.BuilderSubmission

/-!
# The form of `assessments.create`

The page of the builder stands in a form with the details of the assessment:
its type, status and dates, and a title and a description in every language.
The whole form is decoded to what it shows (`decode_submitted`) when the
builder's part is.

PHP limits what it reads of a request.  A `FormReader` reads all fields of a
form that is within these limits.
-/

namespace SultanPass.AssessmentBuilder

open SultanPass.Library
open SultanPass.Library.FormData

/-- The inputs of one language for the assessment. -/
structure TitleInput where
  languageId : LanguageId
  title : String
  description : String
deriving DecidableEq, Repr

/-- The form; `type` and `status` are the selected options. -/
structure CreateForm where
  type : String
  status : String
  startDate : String
  endDate : String
  titles : List TitleInput
  page : Page
deriving DecidableEq, Repr

def scoringModeValue : ScoringMode → String
  | .categorical => "categorical"
  | .percentile => "percentile"

def TitleInput.texts (input : TitleInput) : List (String × String) :=
  [("language_id", input.languageId.repr), ("title", input.title),
    ("description", input.description)]

/-- The inputs above the categories. -/
def CreateForm.details (form : CreateForm) : List (String × String) :=
  [("type", form.type), ("status", form.status),
    ("start_date", form.startDate), ("end_date", form.endDate),
    ("scoring_mode", scoringModeValue form.page.scoringMode)]

/-- The fields of the form, in the order of the document. -/
def CreateForm.fields (form : CreateForm) : List Field :=
  FormData.texts form.details ++
    under "categories"
      (form.page.categories.flatMap fun category =>
        under category.index.repr category.fields) ++
    translationFields (form.titles.map TitleInput.texts) ++
    under "questions"
      (form.page.questions.flatMap fun question =>
        under question.index.repr question.fields)

/-- The names and texts that the browser sends. -/
def CreateForm.submitted (form : CreateForm) :
    List (String × String) :=
  named form.fields

/-- The image inputs of the questions and the answers, without a file. -/
def CreateForm.imageInputs (form : CreateForm) : ℕ :=
  form.page.questions.length + form.page.answers.length

/-- The parts of the request body: the token, the fields and the images. -/
def CreateForm.bodyParts (form : CreateForm) : ℕ :=
  1 + form.submitted.length + form.imageInputs

/--
A size that the request body stays below: 512 bytes for the boundary and the
headers of a part, and two for a line break in a text.
-/
def CreateForm.bodySize (form : CreateForm) : ℕ :=
  form.submitted.foldl
    (fun size field =>
      size + field.1.utf8ByteSize + 2 * field.2.utf8ByteSize)
    (512 * form.bodyParts)

/--
A form within the limits that PHP has by default: `max_input_vars`, the limit
of the parts of a body, which adds `max_file_uploads` to it, and
`post_max_size`.
-/
structure CreateForm.WithinLimits (form : CreateForm) : Prop where
  inputVars : 1 + form.submitted.length ≤ 1000
  parts : form.bodyParts ≤ 1000 + 20
  size : form.bodySize ≤ 8 * 1024 * 1024

instance (form : CreateForm) : Decidable form.WithinLimits :=
  decidable_of_iff
    (1 + form.submitted.length ≤ 1000 ∧ form.bodyParts ≤ 1000 + 20 ∧
      form.bodySize ≤ 8 * 1024 * 1024)
    ⟨fun all => ⟨all.1, all.2.1, all.2.2⟩,
      fun limits => ⟨limits.1, limits.2, limits.3⟩⟩

/--
What PHP reads of the forms that are sent, behind the token: all fields of a
form within its limits.  It drops some of a larger one.
-/
structure FormReader where
  fields : CreateForm → List (String × String)
  fields_of_limits :
    ∀ form : CreateForm, form.WithinLimits →
      fields form = form.submitted

/-- The array that the form shows. -/
def CreateForm.shown (form : CreateForm) : List (String × Value) :=
  textEntries form.details ++
    group "categories"
      (form.page.categories.map fun category =>
        (category.index.repr, .array category.entries)) ++
    translationEntries (form.titles.map TitleInput.texts) ++
    group "questions"
      (form.page.questions.map fun question =>
        (question.index.repr, .array question.entries))

theorem builds_categories {page : Page} (indexed : page.Indexed) :
    Builds ["categories"]
      (under "categories"
        (page.categories.flatMap fun category =>
          under category.index.repr category.fields))
      (group "categories"
        (page.categories.map fun category =>
          (category.index.repr, .array category.entries))) := by
  have keys := indexed.categories.map repr_injective
  rw [List.map_map] at keys
  exact
    (Builds.items _ keys (fun _ _ => bracketFree_repr _)
      (fun category _ => builds_category category)
      (fun _ _ => List.cons_ne_nil _ _)).under (by decide)

theorem builds_questions {page : Page} (indexed : page.Indexed)
    (distinct : page.DistinctAnswers) :
    Builds ["questions"]
      (under "questions"
        (page.questions.flatMap fun question =>
          under question.index.repr question.fields))
      (group "questions"
        (page.questions.map fun question =>
          (question.index.repr, .array question.entries))) := by
  have keys := indexed.questions.map repr_injective
  rw [List.map_map] at keys
  exact
    (Builds.items _ keys (fun _ _ => bracketFree_repr _)
      (fun question member =>
        builds_question (distinct question member)
          (indexed.inputs question member))
      (fun _ _ => List.cons_ne_nil _ _)).under (by decide)

/-- A form whose answers have different indices submits what it shows. -/
theorem decode_submitted {form : CreateForm}
    (indexed : form.page.Indexed)
    (distinct : form.page.DistinctAnswers) :
    decode form.submitted = .array form.shown := by
  have details :
      Builds ["type", "status", "start_date", "end_date", "scoring_mode"]
        (FormData.texts form.details) (textEntries form.details) :=
    Builds.texts _ rfl (by decide) (by decide)
  have titles :
      Builds ["translations"]
        (translationFields (form.titles.map TitleInput.texts))
        (translationEntries (form.titles.map TitleInput.texts)) := by
    apply
      builds_translations ["language_id", "title", "description"]
        (by decide) (by decide) (by decide)
    intro input member
    rcases List.mem_map.mp member with ⟨title, _, rfl⟩
    rfl
  have whole :=
    ((details.append (builds_categories indexed) (by decide)).append
      titles (by decide)).append (builds_questions indexed distinct)
        (by decide)
  exact decode_of_builds whole

end SultanPass.AssessmentBuilder
