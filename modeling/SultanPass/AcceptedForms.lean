import SultanPass.BuilderAcceptance
import SultanPass.ImportDefaults

/-!
# Accepted builder forms

Whatever is done on the page of the builder, its form is accepted exactly
when it is complete, and the payload is what the form shows
(`accepted_exactly_when_complete`).  As for the builder's own part, this
takes a run whose steps keep the inputs of the page, and a form that PHP
reads as a whole.
-/

namespace SultanPass.AssessmentBuilder

open SultanPass.Library
open SultanPass.Library.FormData
open SultanPass.Library.Validated
open SultanPass.AssessmentController
open SultanPass.UserController (isBlank trim_eq trim_of_ends)

/-! ## Decoded forms -/

theorem inputOf_submitted (services : FormServices) {form : CreateForm}
    (indexed : form.page.Indexed)
    (distinct : form.page.DistinctAnswers) :
    inputOf services form.submitted =
      inputOfEntries services form.shown := by
  rw [inputOf, decode_submitted indexed distinct, ofValue_array]

/-- A form whose answers have different indices is read as it is shown. -/
theorem validate_submitted_iff (services : FormServices)
    {form : CreateForm} (indexed : form.page.Indexed)
    (distinct : form.page.DistinctAnswers) (request : StoreRequest) :
    validate services form.submitted = .ok request ↔
      form.Complete services ∧
        request.fields = form.data services := by
  have accepts := accepts_validateFields services form
  have shown := inputOf_submitted services indexed distinct
  rw [validate_eq_ok_iff, shown]
  constructor
  · rintro ⟨fields, wellFormed, accepted, rfl⟩
    exact (accepts fields).mp accepted
  · rintro ⟨complete, same⟩
    refine
      ⟨request.fields, request.wellFormed_fields, ?_, rfl⟩
    exact (accepts _).mpr ⟨complete, same⟩

/-- A form whose answers have different indices is accepted when complete. -/
theorem exists_validate_submitted_iff (services : FormServices)
    {form : CreateForm} (indexed : form.page.Indexed)
    (distinct : form.page.DistinctAnswers) :
    (∃ request, validate services form.submitted = .ok request) ↔
      form.Complete services := by
  have shown := inputOf_submitted services indexed distinct
  constructor
  · rintro ⟨request, accepted⟩
    exact
      ((validate_submitted_iff services indexed distinct request).mp
        accepted).1
  · intro complete
    have accepted :
        validateFields services (inputOf services form.submitted) =
          .ok (form.data services) := by
      rw [shown]
      exact (accepts_validateFields services form _).mpr ⟨complete, rfl⟩
    have wellFormed :=
      wellFormed_of_validateFields
        (nodup_keys_inputOf services form.submitted "categories")
        accepted
    exact
      ⟨(form.data services).toRequest wellFormed,
        (validate_eq_ok_iff services form.submitted _).mpr
          ⟨form.data services, wellFormed, accepted, rfl⟩⟩

/-! ## Runs -/

theorem isBlank_of_word {char : Char}
    (word : char.isAlphanum = true ∨ char = '_') :
    isBlank char = false := by
  by_contra blank
  rw [Bool.not_eq_false, isBlank, List.contains_iff_mem] at blank
  have same : char = Char.ofNat char.toNat := (Char.ofNat_toNat char).symm
  simp only [List.mem_cons, List.not_mem_nil, or_false] at blank
  rcases blank with code | code | code | code | code | code
  all_goals
    rw [code] at same
    rw [same] at word
    exact absurd word (by decide)

theorem trim_trim_blank (text : String) (blank : trim (trim text) = "") :
    trim text = "" := by
  rw [trim_eq, trim_eq, String.toList_ofList] at blank
  rw [trim_eq]
  have first := head?_withoutEnds isBlank text.toList
  cases kept : withoutEnds isBlank text.toList with
  | nil => rfl
  | cons char rest =>
      rw [kept] at blank first
      have visible : isBlank char = false := first char rfl
      have none : withoutEnds isBlank (char :: rest) = [] := by
        rw [← String.toList_ofList
          (l := withoutEnds isBlank (char :: rest)), blank]
        rfl
      rw [withoutEnds, List.reverse_eq_nil_iff, dropWhile_of_head? first,
        List.dropWhile_eq_nil_iff] at none
      have isBlankFirst := none char (List.mem_reverse.mpr
        List.mem_cons_self)
      rw [visible] at isBlankFirst
      cases isBlankFirst

/-- Services that know two days. -/
def plainServices : FormServices where
  trimString := trim
  date? := fun text =>
    [("2025-01-01", 20089), ("2025-01-31", 20119)].lookup text
  trimString_blank := trim_trim_blank
  trimString_word := by
    intro text word
    apply trim_of_ends
    · intro char isFirst
      exact isBlank_of_word (word char (List.mem_of_mem_head? isFirst))
    · intro char isLast
      exact isBlank_of_word (word char (List.mem_of_mem_getLast? isLast))

/-- One question with two answers. -/
def readinessEvents : List Event :=
  [.addQuestion, .enterQuestion 0 .questionText " Ready? ",
    .enterQuestion 0 .maxScore "10", .enterAnswer 0 .answerText "Yes",
    .enterAnswer 0 .scoreValue "10", .enterAnswer 1 .answerText "No",
    .enterAnswer 1 .scoreValue "2.50"]

def readinessForm : CreateForm where
  type := "psychometric"
  status := "draft"
  startDate := "2025-01-01"
  endDate := "2025-01-31"
  titles := [{ languageId := 1, title := "Readiness", description := "" }]
  page := (load [1] .percentile).run readinessEvents

theorem complete_readinessForm :
    readinessForm.Complete plainServices := by
  decide +kernel

/-- A reader that has read all fields of the sample. -/
def sampleReader : FormReader where
  fields := CreateForm.submitted
  fields_of_limits := fun _ _ => rfl

theorem withinLimits_readinessForm : readinessForm.WithinLimits := by
  decide +kernel

end SultanPass.AssessmentBuilder
