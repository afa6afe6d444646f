import SultanPass.UserController

/-!
# `LanguageController`

Languages can be added, renamed and deleted by administrators.  A language
that users prefer is not deleted; translations in a deleted language go with
it, as the foreign keys of the translation tables declare.

Assessments enter through the request around `AssessmentController::store`,
so that both controllers work on one state.
-/

namespace SultanPass

open SultanPass.Library

/-- The tables behind both controllers. -/
structure Installation (services : Services) where
  accounts : AccountTables services
  catalogue : Catalogue

/-! ## The foreign keys to `languages` -/

/-- A translation table after the deletion of a language, `cascade`. -/
def withoutLanguage {Owner Content : Type} [DecidableEq Owner]
    (table :
      KeyedTable (Translation.key : Translation Owner Content → _))
    (languageId : LanguageId) :
    KeyedTable (Translation.key : Translation Owner Content → _) :=
  table.filter fun row => row.languageId ≠ languageId

/-- The catalogue after the deletion of a language. -/
def Catalogue.withoutLanguage (catalogue : Catalogue)
    (languageId : LanguageId) : Catalogue :=
  { catalogue with
    assessmentTranslations :=
      SultanPass.withoutLanguage catalogue.assessmentTranslations
        languageId
    categoryTranslations :=
      SultanPass.withoutLanguage catalogue.categoryTranslations
        languageId
    questionTranslations :=
      SultanPass.withoutLanguage catalogue.questionTranslations
        languageId
    answerTranslations :=
      SultanPass.withoutLanguage catalogue.answerTranslations
        languageId }

namespace Installation

variable {services : Services}

/-- `$language->users()->exists()`. -/
def LanguageAssigned (installation : Installation services)
    (languageId : LanguageId) : Prop :=
  ∃ user ∈ installation.accounts.users.rows,
    user.languagePref = some languageId

instance (installation : Installation services)
    (languageId : LanguageId) :
    Decidable (installation.LanguageAssigned languageId) :=
  inferInstanceAs
    (Decidable (∃ user ∈ installation.accounts.users.rows, _))

def withLanguages (installation : Installation services)
    (languages : LanguagesTable services) : Installation services :=
  { installation with
    accounts := { installation.accounts with languages := languages } }

/-- The rows that the deletion of a language leaves. -/
def withoutLanguage (installation : Installation services)
    (languageId : LanguageId) : Installation services where
  accounts :=
    { installation.accounts with
      languages := installation.accounts.languages.delete languageId }
  catalogue := installation.catalogue.withoutLanguage languageId

/-- `$language->delete()`, restricted by `users.language_pref`. -/
def deleteLanguage (installation : Installation services)
    (languageId : LanguageId) : Option (Installation services) :=
  if installation.LanguageAssigned languageId then none
  else some (installation.withoutLanguage languageId)

end Installation

/-! ## The controller -/

namespace LanguageController

/-- The input of `store` and `update`. -/
structure LanguageInput where
  code : Option String
  name : Option String
deriving DecidableEq, Repr

/-- `$validated` of `store` and `update`. -/
structure LanguageForm where
  code : String
  name : String
deriving DecidableEq, Repr

variable {services : Services}

/-- `Language::where('code', …)->exists()`, without an ignored row. -/
def CodeTaken (languages : LanguagesTable services) (code : String)
    (ignored : Option LanguageId) : Prop :=
  languages.Taken (fun language => services.collate language.code)
    (services.collate code) ignored

instance (languages : LanguagesTable services) (code : String)
    (ignored : Option LanguageId) :
    Decidable (CodeTaken languages code ignored) :=
  inferInstanceAs (Decidable (languages.Taken _ _ _))

/-- The rules of a code; the database rule comes after the others. -/
def codeRules (languages : LanguagesTable services)
    (ignored : Option LanguageId) (input : Option String) :
    Validated String := do
  let code ← requiredText "code" 10 input
  Validated.rules "code"
    [("unique:languages,code", ¬ CodeTaken languages code ignored)] code

/-- `$request->validate([…])` of `store` and `update`. -/
def validate (languages : LanguagesTable services)
    (ignored : Option LanguageId) (input : LanguageInput) :
    Validated LanguageForm :=
  (Validated.both (codeRules languages ignored input.code)
      (requiredText "name" 50 input.name)).map
    fun fields => { code := fields.1, name := fields.2 }

/-- The columns of `Language::create`. -/
def LanguageForm.newLanguage (form : LanguageForm) (id : LanguageId) :
    Language where
  id := id
  code := form.code
  name := form.name

def store (installation : Installation services)
    (actor : Option UserId) (input : LanguageInput) :
    Except Interruption (Installation services × RedirectResponse) := do
  let _ ← administrator installation.accounts actor
  let form ←
    validated (validate installation.accounts.languages none input)
  let languages ← executed
    (installation.accounts.languages.create form.newLanguage
      fun _ => rfl)
  .ok
    (installation.withLanguages languages,
      redirectWithStatus "admin.languages.index" none "Language added.")

def update (installation : Installation services)
    (actor : Option UserId) (languageId : LanguageId)
    (input : LanguageInput) :
    Except Interruption (Installation services × RedirectResponse) := do
  let reached ← administratorOf installation.accounts actor
    (installation.accounts.languages.find? languageId)
  let language := reached.2
  let form ←
    validated
      (validate installation.accounts.languages (some language.id) input)
  let languages ← executed
    (installation.accounts.languages.update language.id
      (fun row => form.newLanguage row.id) fun _ => rfl)
  .ok
    (installation.withLanguages languages,
      redirectWithStatus "admin.languages.edit" (some language.id)
        "Language updated.")

def destroy (installation : Installation services)
    (actor : Option UserId) (languageId : LanguageId) :
    Except Interruption (Installation services × RedirectResponse) := do
  let reached ← administratorOf installation.accounts actor
    (installation.accounts.languages.find? languageId)
  let language := reached.2
  if installation.LanguageAssigned language.id then
    .ok
      (installation,
        backWithError "language"
          "Cannot delete a language that is assigned to users.")
  else
    let after ← executed (installation.deleteLanguage language.id)
    .ok
      (after,
        redirectWithStatus "admin.languages.index" none
          "Language deleted.")

/-- A returning `store` adds one language under the next id. -/
theorem languages_of_store
    {installation after : Installation services} {actor : Option UserId}
    {input : LanguageInput} {response : RedirectResponse}
    (returns : store installation actor input = .ok (after, response)) :
    ∃ languages : LanguagesTable services, ∃ form : LanguageForm,
      after = installation.withLanguages languages ∧
        languages.rows =
          installation.accounts.languages.rows ++
            [form.newLanguage
              installation.accounts.languages.nextKey] ∧
        languages.nextKey =
          installation.accounts.languages.nextKey + 1 := by
  unfold store at returns
  rcases bind_eq_ok_iff.mp returns with ⟨_, _, returns⟩
  rcases bind_eq_ok_iff.mp returns with ⟨form, _, returns⟩
  rcases bind_eq_ok_iff.mp returns with ⟨languages, created, ⟨⟩⟩
  rw [executed_eq_ok_iff] at created
  exact
    ⟨languages, form, rfl,
      ((IndexedTable.create_eq_some_iff _ _ _ _).mp created).2⟩

/-- A returning `update` keeps the ids of the languages. -/
theorem languages_of_update
    {installation after : Installation services} {actor : Option UserId}
    {languageId : LanguageId} {input : LanguageInput}
    {response : RedirectResponse}
    (returns :
      update installation actor languageId input =
        .ok (after, response)) :
    ∃ languages : LanguagesTable services,
      after = installation.withLanguages languages ∧
        languages.rows.map Language.id =
          installation.accounts.languages.rows.map Language.id ∧
        languages.nextKey = installation.accounts.languages.nextKey := by
  unfold update at returns
  rcases bind_eq_ok_iff.mp returns with ⟨reached, _, returns⟩
  rcases bind_eq_ok_iff.mp returns with ⟨form, _, returns⟩
  rcases bind_eq_ok_iff.mp returns with ⟨languages, updated, ⟨⟩⟩
  rw [executed_eq_ok_iff] at updated
  rcases (IndexedTable.update_eq_some_iff _ _ _ _ _).mp updated with
    ⟨_, rows, sameNext⟩
  refine ⟨languages, rfl, ?_, sameNext⟩
  rw [rows, List.map_map]
  apply List.map_congr_left
  intro row _
  change (if row.id = reached.2.id then _ else row).id = row.id
  split_ifs
  · rfl
  · rfl

/-- What `destroy` does when it is reached. -/
theorem destroy_reached
    {installation : Installation services} {actor : Option UserId}
    {languageId : LanguageId} {user : UserAccount} {language : Language}
    (isUser : installation.accounts.user? actor = some user)
    (isAdmin : user.role = .admin)
    (found :
      installation.accounts.languages.find? languageId =
        some language) :
    destroy installation actor languageId =
      if installation.LanguageAssigned languageId then
        .ok
          (installation,
            backWithError "language"
              "Cannot delete a language that is assigned to users.")
      else
        .ok
          (installation.withoutLanguage languageId,
            redirectWithStatus "admin.languages.index" none
              "Language deleted.") := by
  have isOwn : language.id = languageId :=
    ((IndexedTable.find?_eq_some_iff _ _ _).mp found).2
  have reached :
      administratorOf installation.accounts actor
          (installation.accounts.languages.find? languageId) =
        .ok (user, language) :=
    (administratorOf_eq_ok_iff _ _ _ _ _).mpr ⟨isUser, isAdmin, found⟩
  unfold destroy
  rw [reached, ← isOwn]
  change
    (if installation.LanguageAssigned language.id then _ else _) = _
  by_cases assigned : installation.LanguageAssigned language.id
  · rw [if_pos assigned, if_pos assigned]
  · rw [if_neg assigned, if_neg assigned, Installation.deleteLanguage,
      if_neg assigned]
    rfl

/-- A returning `destroy` changes nothing or deletes an unused language. -/
theorem after_destroy
    {installation after : Installation services} {actor : Option UserId}
    {languageId : LanguageId} {response : RedirectResponse}
    (returns :
      destroy installation actor languageId = .ok (after, response)) :
    after = installation ∨
      ¬ installation.LanguageAssigned languageId ∧
        after = installation.withoutLanguage languageId := by
  have reached := returns
  unfold destroy at reached
  rcases bind_eq_ok_iff.mp reached with ⟨⟨user, language⟩, allowed, _⟩
  rw [administratorOf_eq_ok_iff] at allowed
  rw [destroy_reached allowed.1 allowed.2.1 allowed.2.2] at returns
  split_ifs at returns with assigned
  · cases returns
    exact Or.inl rfl
  · cases returns
    exact Or.inr ⟨assigned, rfl⟩

end LanguageController

/-! ## The request around `AssessmentController::store` -/

namespace AssessmentController

variable {services : Services}

/-- The languages that a payload names, all under `exists:languages,id`. -/
def mentionedLanguages (request : StoreRequest) : List LanguageId :=
  request.translations.map TitleData.languageId ++
    (request.categories.flatMap fun entry =>
      entry.2.translations.filterMap fun translation =>
        translation.languageId) ++
    request.questions.flatMap fun question =>
      question.translations.filterMap TranslationData.languageId ++
        question.answers.flatMap fun entry =>
          entry.2.translations.filterMap TranslationData.languageId

/-- The rules `exists:languages,id` of a payload. -/
def languagesExist (languages : LanguagesTable services)
    (request : StoreRequest) : Validated StoreRequest :=
  Validated.rules "language_id"
    [("exists:languages,id",
      ∀ id ∈ mentionedLanguages request,
        (languages.find? id).isSome = true)]
    request

/-- `primaryTitle` of a list of titles. -/
def primaryTitle (languages : LanguagesTable services)
    (locale : String) (translations : List TitleData) : String :=
  let preferredLanguageId :=
    (languages.rows.find? fun language => language.code = locale).map
      Language.id
  let matched :=
    preferredLanguageId.bind fun id =>
      translations.find? fun translation => translation.languageId = id
  match matched.or translations.head? with
  | some translation => translation.title
  | none => "New assessment"

/-- An exception of the transaction ends the request. -/
def transacted {Value : Type} :
    Except PhpError Value → Except Interruption Value
  | .ok value => .ok value
  | .error error => .error (.error error)

/-- The request that `store` answers. -/
def storeAction (installation : Installation services)
    (actor : Option UserId) (locale : String) (request : StoreRequest) :
    Except Interruption (Installation services × RedirectResponse) := do
  let user ← authenticate installation.accounts actor
  EnsureRole.handle (some user) [.manager, .admin]
  let accepted ←
    validated (languagesExist installation.accounts.languages request)
  let catalogue ← transacted (store installation.catalogue accepted)
  .ok
    ({ installation with catalogue := catalogue },
      redirectWithStatus
        (if user.role = .admin then "dashboard.admin"
          else "dashboard.manager")
        none
        ("Assessment \"" ++
          primaryTitle installation.accounts.languages locale
            (titles accepted) ++
          "\" created successfully."))

/-- A returning request names existing languages and is stored. -/
theorem stored_of_storeAction
    {installation after : Installation services} {actor : Option UserId}
    {locale : String} {request : StoreRequest}
    {response : RedirectResponse}
    (returns :
      storeAction installation actor locale request =
        .ok (after, response)) :
    (∀ id ∈ mentionedLanguages request,
        (installation.accounts.languages.find? id).isSome = true) ∧
      after.accounts = installation.accounts ∧
      store installation.catalogue request = .ok after.catalogue := by
  unfold storeAction at returns
  rcases bind_eq_ok_iff.mp returns with ⟨user, _, returns⟩
  rcases bind_eq_ok_iff.mp returns with ⟨_, _, returns⟩
  rcases bind_eq_ok_iff.mp returns with ⟨accepted, exist, returns⟩
  rcases bind_eq_ok_iff.mp returns with ⟨catalogue, storing, ⟨⟩⟩
  rw [validated_eq_ok_iff, languagesExist,
    Validated.rules_eq_ok_iff] at exist
  rcases exist with ⟨known, rfl⟩
  refine ⟨by simpa using known, rfl, ?_⟩
  cases stored : store installation.catalogue request with
  | error error =>
      rw [stored] at storing
      cases storing
  | ok value =>
      rw [stored] at storing
      cases storing
      rfl

end AssessmentController

end SultanPass
