import SultanPass.Operations
import SultanPass.Routes
import SultanPass.TemporaryPasswords
import SultanPass.AssessmentTitles

/-!
# The application

All tables and all ways to change them as one state machine.  A request has
a method, a path and a session; the router finds its route, the middleware
lets it pass or not, the parameters of the path are read as keys, and the
action works on the tables.  The command that recalculates scores is the
other way in.

A request that is not served, or that is interrupted, changes nothing.  The
foreign keys to `users` connect the tables: participations forbid the
deletion of a user, responses go with the user, and their grader is
forgotten.
-/

namespace SultanPass

open SultanPass.Library
open SultanPass.Library.Routing

/-- The tables behind all controllers. -/
structure Application (services : Services) where
  accounts : AccountTables services
  authored : Catalogue
  database : Database

/-! ## Requests -/

/-- The fields of the form that takes an assessment. -/
structure AnswerForm where
  questionId : QuestionId
  action : SurveyController.Action
  selectedAnswers : Option (List ℤ)
  writtenResponseText : Option String
  index : ℤ

/--
What a request carries and what its action draws.  An action reads the
fields of its own form; the last three are what validation leaves of
theirs.
-/
structure RequestData where
  now : Timestamp
  salt : ℕ
  rememberToken : RandomText 60
  user : UserController.UserInput
  storeDraws : UserController.StoreDraws
  referenced : Bool
  csv : UserController.ImportInput
  commitException : Option String
  temporaryPassword : RandomText 12
  registration : AuthController.RegisterInput
  login : AuthController.LoginInput
  email : Option String
  token : String
  broker : AuthController.PasswordBroker
  reset : AuthController.ResetInput
  approval : PasswordResetRequestController.ApprovalDraws
  notes : Option String
  language : LanguageController.LanguageInput
  config : LocaleConfig
  locale : Option String
  currentLocale : String
  assessment : Option AssessmentController.StoreRequest
  answer : Option AnswerForm
  grades : Option (List GradingController.GradeEntry)

structure HttpRequest where
  method : Method
  path : List Char
  actor : Option UserId
  data : RequestData

/-- What happens to the application. -/
inductive Event where
  | http (request : HttpRequest)
  | recalculateScores (options : RecalculateAssessmentScores.Options)

namespace Application

variable {services : Services}

/-! ## The tables of the controllers -/

/-- The ids of the users. -/
def userIds (app : Application services) : List UserId :=
  app.accounts.users.rows.map fun user : UserAccount => user.id

/-- What was authored, together with the users. -/
def catalogue (app : Application services) : Catalogue :=
  { app.authored with users := app.userIds }

def installation (app : Application services) :
    Installation services where
  accounts := app.accounts
  catalogue := app.catalogue

/-- The application after a request about accounts. -/
def account (app : Application services) (request : HttpRequest)
    (accountRequest : PasswordResetRequestController.AccountRequest) :
    Application services :=
  { app with
    accounts :=
      PasswordResetRequestController.accountStep app.accounts
        ⟨request.data.now, request.actor, accountRequest⟩ }

/-- The application after a request about languages or assessments. -/
def install (app : Application services)
    (result :
      Except Interruption (Installation services × RedirectResponse)) :
    Application services :=
  match result with
  | .ok (after, _) =>
      { app with accounts := after.accounts, authored := after.catalogue }
  | .error _ => app

/-- The application after an operation on responses and scores. -/
def operate (app : Application services) (operation : Operation) :
    Application services :=
  { app with
    database :=
      operation.apply app.catalogue .jsonEncoded app.database }

/-! ## The deletion of a user -/

/-- A participation refers to the user, and so forbids the deletion. -/
def Participates (app : Application services) (userId : UserId) : Prop :=
  ∃ row ∈ app.database.assessmentParticipants, row.participantId = userId

instance (app : Application services) (userId : UserId) :
    Decidable (app.Participates userId) :=
  inferInstanceAs
    (Decidable (∃ row ∈ app.database.assessmentParticipants, _))

end Application

/-- What a deleted grader leaves, `onDelete('set null')`. -/
def ParticipantResponse.withoutGrader (userId : UserId)
    (response : ParticipantResponse) : ParticipantResponse :=
  if response.gradedBy = some userId then
    { response with gradedBy := none }
  else response

@[simp]
theorem ParticipantResponse.key_withoutGrader (userId : UserId)
    (response : ParticipantResponse) :
    (response.withoutGrader userId).key = response.key := by
  unfold withoutGrader
  split_ifs <;> rfl

/-- The responses of a deleted user go too, `onDelete('cascade')`. -/
def Database.withoutUser (database : Database) (userId : UserId) :
    Database :=
  { database with
    participantResponses :=
      (database.participantResponses.filter fun response =>
          response.participantId ≠ userId).refresh
        (ParticipantResponse.withoutGrader userId)
        (ParticipantResponse.key_withoutGrader userId) }

namespace Application

variable {services : Services}

/-- `UserController::destroy` with its cascades. -/
def destroyUser (app : Application services) (request : HttpRequest)
    (userId : UserId) : Application services :=
  match
    UserController.destroy app.accounts request.actor userId
      (request.data.referenced || decide (app.Participates userId)) with
  | .error _ => app
  | .ok (after, _) =>
      { app with
        accounts := after
        database :=
          if (after.users.find? userId).isSome then app.database
          else app.database.withoutUser userId }

/-! ## Actions -/

/-- A form of a user as the request that is stored. -/
def storeResponseRequest (now : Timestamp) (user : UserId)
    (assessmentId : AssessmentId) (form : AnswerForm) :
    SurveyController.StoreResponseRequest where
  assessmentId := assessmentId
  userId := user
  questionId := form.questionId
  action := form.action
  selectedAnswers := form.selectedAnswers
  writtenResponseText := form.writtenResponseText
  index := form.index
  now := now

/-- The grades of a user as the request that is stored. -/
def gradeRequest (now : Timestamp) (user : UserId)
    (assessmentId : AssessmentId) (participantId : UserId)
    (entries : List GradingController.GradeEntry) :
    GradingController.StoreRequest where
  assessmentId := assessmentId
  participantId := participantId
  userId := user
  responses := entries
  now := now

/-- A form that its validation refuses changes nothing. -/
def withForm {Form : Type} (app : Application services)
    (form : Option Form) (act : Form → Application services) :
    Application services :=
  match form with
  | some valid => act valid
  | none => app

open PasswordResetRequestController (AccountRequest)

/-- The request about accounts that an action is. -/
def accountRequest? (data : RequestData) :
    Action → List ℕ → Option AccountRequest
  | .userStore, [] =>
      some (.administration (.store data.user data.storeDraws))
  | .userUpdate, [userId] =>
      some (.administration (.update userId data.user data.salt))
  | .userImportCsv, [] =>
      some
        (.administration (.importCsv data.csv data.commitException))
  | .userRegeneratePassword, [userId] =>
      some
        (.regeneratePassword userId data.temporaryPassword data.salt)
  | .register, [] =>
      some
        (.administration (.register data.registration data.salt))
  | .login, [] =>
      some (.login data.login data.salt data.rememberToken)
  | .sendResetLinkEmail, [] =>
      some (.sendResetLinkEmail data.email data.token)
  | .resetPassword, [] =>
      some
        (.resetPassword data.broker data.reset data.salt
          data.rememberToken)
  | .switchLocale, [] => some (.localeSwitch data.config data.locale)
  | .passwordResetApprove, [requestId] =>
      some (.approve requestId data.approval)
  | .passwordResetDecline, [requestId] =>
      some (.decline requestId data.notes)
  | _, _ => none

/-- What an action does; the others read only. -/
def perform (app : Application services) (request : HttpRequest)
    (action : Action) (keys : List ℕ) : Application services :=
  match accountRequest? request.data action keys with
  | some accountRequest => app.account request accountRequest
  | none =>
      match action, keys, request.actor with
      | .userDestroy, [userId], _ => app.destroyUser request userId
      | .languageStore, [], actor =>
          app.install
            (LanguageController.store app.installation actor
              request.data.language)
      | .languageUpdate, [languageId], actor =>
          app.install
            (LanguageController.update app.installation actor languageId
              request.data.language)
      | .languageDestroy, [languageId], actor =>
          app.install
            (LanguageController.destroy app.installation actor
              languageId)
      | .assessmentStore, [], actor =>
          app.withForm request.data.assessment fun payload =>
            app.install
              (AssessmentController.storeAction app.installation actor
                request.data.currentLocale payload)
      | .surveyStoreResponse, [assessmentId], some user =>
          app.withForm request.data.answer fun form =>
            app.operate
              (.storeResponse
                (storeResponseRequest request.data.now user assessmentId
                  form))
      | .gradingStore, [assessmentId, participantId], some user =>
          app.withForm request.data.grades fun entries =>
            app.operate
              (.grade
                (gradeRequest request.data.now user assessmentId
                  participantId entries))
      | _, _, _ => app

/-! ## Steps -/

section Steps

variable (readKey : Word → Option ℕ)

/-- The action of a request that is served, with its keys. -/
def served (app : Application services) (request : HttpRequest) :
    Option (Action × List ℕ) :=
  match
    serve app.accounts request.actor request.method request.path with
  | .error _ => none
  | .ok (route, values) =>
      (values.mapM readKey).map fun keys => (route.action, keys)

/-- The application after an event. -/
def step (app : Application services) : Event → Application services
  | .http request =>
      match app.served readKey request with
      | some (action, keys) => app.perform request action keys
      | none => app
  | .recalculateScores options => app.operate (.recalculate options)

/-- The application after some events. -/
def run (app : Application services) (events : List Event) :
    Application services :=
  events.foldl (step readKey) app

variable {readKey}

/-- An action is served to its audience only. -/
theorem audience_of_served {app : Application services}
    {request : HttpRequest} {action : Action} {keys : List ℕ}
    (isServed : app.served readKey request = some (action, keys)) :
    app.accounts.roleOf request.actor ∈ action.audience := by
  unfold served at isServed
  split at isServed
  · cases isServed
  · rename_i route values reached
    rcases Option.map_eq_some_iff.mp isServed with ⟨_, _, same⟩
    cases same
    exact
      (reaches_iff app.accounts request.actor route.action).mp
        ⟨_, _, _, reached, rfl⟩

end Steps

end Application

/-! ## A small application -/

namespace Application

/-- The key that a word of digits stands for. -/
def readDecimal (word : Word) : Option ℕ :=
  if word ≠ [] ∧ word.all Char.isDigit = true then
    some
      (word.foldl
        (fun number digit => 10 * number + (digit.toNat - '0'.toNat)) 0)
  else none

/-- The accounts and the catalogue of the other examples. -/
def sampleApplication : Application sampleServices where
  accounts := sampleAccounts
  authored := sampleCatalogue
  database := Database.empty

def longRandomText : RandomText 60 where
  text :=
    "0123456789abcdefghijklmnopqrstuvwxyzABCDEFGHIJKLMNOPQRSTUVWX"
  hasLength := by decide
  alphanumeric := RandomText.alphanumeric_ofList rfl

/-- A request without any input. -/
def emptyData : RequestData where
  now := 0
  salt := 0
  rememberToken := longRandomText
  user := ⟨none, none, none, none, none, none, none, none, none⟩
  storeDraws :=
    { password :=
        { text := "0123456789abcdef"
          hasLength := by decide
          alphanumeric := RandomText.alphanumeric_ofList rfl }
      salt := 0 }
  referenced := false
  csv := ⟨none, none, none⟩
  commitException := none
  temporaryPassword := sampleRandomText
  registration := ⟨none, none, none, none, none, none⟩
  login := ⟨none, none, false⟩
  email := none
  token := ""
  broker := fun _ _ => none
  reset := ⟨none, none, none, none⟩
  approval := PasswordResetRequestController.sampleDraws
  notes := none
  language := ⟨none, none⟩
  config := SetLocale.sampleConfig
  locale := none
  currentLocale := "en"
  assessment := none
  answer := none
  grades := none

end Application

end SultanPass
