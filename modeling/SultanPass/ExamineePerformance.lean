import SultanPass.EvaluationDashboards
import SultanPass.Library.Ownership
import SultanPass.Users
import Mathlib.Logic.Function.Basic

/-!
# `DashboardController::examineePerformance`

The performance page: whom it is about, the list to choose from, and the
results that it shows.  Staff can name another user by the route or by the
query; a participant always gets the own page, which depends on nothing but
the own rows and the definitions of the assessments (`own_results_only`).
-/

namespace SultanPass.DashboardController

open SultanPass.Library

variable {services : Services}

/-! ## The page -/

/-- The tables that the page reads. -/
structure PerformanceTables (services : Services) where
  accounts : AccountTables services
  catalogue : Catalogue
  database : Database

/-- An entry of `$participantsList`. -/
structure ListedParticipant where
  id : UserId
  fullName : Option String
  username : String
  department : Option String
deriving DecidableEq, Repr

/-- What the view is given. -/
structure ExamineePerformance where
  participant : UserAccount
  participantsList : List ListedParticipant
  overallScore : ℚ
  categoryScores : CategoryScores
  iqTestResults : IQTestResult
  performanceTrends : PerformanceTrends
deriving DecidableEq, Repr

/-- `$canViewOthers`. -/
def canViewOthers (user : UserAccount) : Bool :=
  user.role ∈ [Role.admin, .manager, .assessor]

/-- `User::query()->where('role', 'participant')`. -/
def participantUsers (users : UsersTable services) :
    List UserAccount :=
  users.rows.filter fun user => user.role = .participant

/--
`$participant`; `participantId` is `(int) $request->query('participant_id',
0)`.
-/
def selectParticipant (users : UsersTable services)
    (currentUser : UserAccount) (routeParticipant : Option UserAccount)
    (participantId : ℤ) : UserAccount :=
  let participant :=
    if routeParticipant.isSome && !canViewOthers currentUser then
      some currentUser
    else routeParticipant
  match participant with
  | some participant => participant
  | none =>
      if canViewOthers currentUser && 0 < participantId then
        ((participantUsers users).find? fun user =>
            (user.id : ℤ) = participantId).getD
          currentUser
      else currentUser

/-- `COALESCE(full_name, username)`. -/
def shownName (user : UserAccount) : String :=
  user.fullName.getD user.username

def ListedParticipant.ofUser (user : UserAccount) :
    ListedParticipant where
  id := user.id
  fullName := user.fullName
  username := user.username
  department := user.department

/-- `$participantsList`. -/
def participantsList (users : UsersTable services)
    (currentUser : UserAccount) : List ListedParticipant :=
  if canViewOthers currentUser then
    ((participantUsers users).mergeSort fun left right =>
        services.collate (shownName left) ≤
          services.collate (shownName right)).map
      ListedParticipant.ofUser
  else []

/-- The results of a user. -/
def performanceOf (tables : PerformanceTables services)
    (participant : UserAccount) (listed : List ListedParticipant)
    (now : Timestamp) : ExamineePerformance where
  participant := participant
  participantsList := listed
  overallScore :=
    calculateOverallScore tables.database.assessmentParticipants
      participant.id
  categoryScores :=
    getCategoryScores tables.catalogue tables.database participant.id
  iqTestResults :=
    getIQTestResults tables.catalogue
      tables.database.assessmentParticipants participant.id
  performanceTrends :=
    getPerformanceTrends tables.database.assessmentParticipants
      participant.id now

/-- `examineePerformance`. -/
def examineePerformance (tables : PerformanceTables services)
    (actor : Option UserId) (routeParticipant : Option UserAccount)
    (participantId : ℤ) (now : Timestamp) :
    Except Interruption ExamineePerformance := do
  let currentUser ← authenticate tables.accounts actor
  .ok
    (performanceOf tables
      (selectParticipant tables.accounts.users currentUser
        routeParticipant participantId)
      (participantsList tables.accounts.users currentUser) now)

/-! ## The two routes -/

/-- `dashboard.examinee-performance`. -/
def performancePage (tables : PerformanceTables services)
    (actor : Option UserId) (participantId : ℤ) (now : Timestamp) :
    Except Interruption ExamineePerformance := do
  let user ← authenticate tables.accounts actor
  EnsureRole.handle (some user)
    [.participant, .manager, .admin, .assessor]
  examineePerformance tables actor none participantId now

/-- `dashboard.examinee-performance.user`. -/
def performancePageOfUser (tables : PerformanceTables services)
    (actor : Option UserId) (participant : UserId) (participantId : ℤ)
    (now : Timestamp) : Except Interruption ExamineePerformance := do
  let user ← authenticate tables.accounts actor
  let routeParticipant ← bound (tables.accounts.users.find? participant)
  EnsureRole.handle (some user) [.manager, .admin, .assessor]
  examineePerformance tables actor (some routeParticipant) participantId
    now

/-! ## A participant's page -/

theorem canViewOthers_of_participant {user : UserAccount}
    (isParticipant : user.role = .participant) :
    canViewOthers user = false := by
  unfold canViewOthers
  rw [isParticipant]
  rfl

/-- However another user is named, a participant gets the own page. -/
theorem selectParticipant_of_participant {user : UserAccount}
    (isParticipant : user.role = .participant)
    (users : UsersTable services) (routeParticipant : Option UserAccount)
    (participantId : ℤ) :
    selectParticipant users user routeParticipant participantId =
      user := by
  unfold selectParticipant
  rw [canViewOthers_of_participant isParticipant]
  cases routeParticipant with
  | none => rfl
  | some other => rfl

theorem participantsList_of_participant {user : UserAccount}
    (isParticipant : user.role = .participant)
    (users : UsersTable services) :
    participantsList users user = [] := by
  unfold participantsList
  rw [canViewOthers_of_participant isParticipant]
  rfl

/-- The page of a participant. -/
theorem examineePerformance_of_participant
    {tables : PerformanceTables services} {user : UserAccount}
    (isUser : tables.accounts.users.find? user.id = some user)
    (isParticipant : user.role = .participant)
    (routeParticipant : Option UserAccount) (participantId : ℤ)
    (now : Timestamp) :
    examineePerformance tables (some user.id) routeParticipant
        participantId now =
      .ok (performanceOf tables user [] now) := by
  have signedIn :
      authenticate tables.accounts (some user.id) = .ok user :=
    (authenticate_eq_ok_iff _ _ _).mpr isUser
  unfold examineePerformance
  rw [signedIn]
  change
    Except.ok
        (performanceOf tables
          (selectParticipant tables.accounts.users user routeParticipant
            participantId)
          (participantsList tables.accounts.users user) now) =
      _
  rw [selectParticipant_of_participant isParticipant,
    participantsList_of_participant isParticipant]

/-! ## What the page reads -/

/-- The rows of one user and the shared definitions. -/
@[ext]
structure OwnRecords where
  user : Option UserAccount
  participations : List AssessmentParticipant
  responses : List ParticipantResponse
  assessments : List Assessment
  assessmentTranslations : List AssessmentTranslation
  categories : List AssessmentCategory
  answerCategoryWeights : List AnswerCategoryWeight

/-- What the tables have of one user. -/
def ownRecords (id : UserId) (tables : PerformanceTables services) :
    OwnRecords where
  user := tables.accounts.users.find? id
  participations :=
    childrenOf AssessmentParticipant.participantId
      tables.database.assessmentParticipants id
  responses :=
    childrenOf ParticipantResponse.participantId
      tables.database.participantResponses.rows id
  assessments := tables.catalogue.assessments
  assessmentTranslations := tables.catalogue.assessmentTranslations.rows
  categories := tables.catalogue.categories
  answerCategoryWeights := tables.catalogue.answerCategoryWeights

theorem scoredRows_childrenOf (rows : List AssessmentParticipant)
    (id : UserId) :
    scoredRows
        (childrenOf AssessmentParticipant.participantId rows id) id =
      scoredRows rows id := by
  apply filter_childrenOf
  intro row selected
  simp only [Bool.and_eq_true, decide_eq_true_eq] at selected
  exact selected.1.1

/-- The scored rows of a user are among the own participations. -/
theorem scoredRows_factorsThrough (id : UserId) :
    Function.FactorsThrough
      (fun tables : PerformanceTables services =>
        scoredRows tables.database.assessmentParticipants id)
      (ownRecords id) := by
  intro left right same
  have participations := congrArg OwnRecords.participations same
  change
    childrenOf _ left.database.assessmentParticipants id =
      childrenOf _ right.database.assessmentParticipants id
    at participations
  change
    scoredRows left.database.assessmentParticipants id =
      scoredRows right.database.assessmentParticipants id
  rw [← scoredRows_childrenOf, participations, scoredRows_childrenOf]

/-- The responses that the charts read are among the own responses. -/
theorem responsesOfParticipant_factorsThrough (id : UserId) :
    Function.FactorsThrough
      (fun tables : PerformanceTables services =>
        responsesOfParticipant tables.database id)
      (ownRecords id) := by
  intro left right same
  have responses := congrArg OwnRecords.responses same
  have own :
      ∀ response : ParticipantResponse,
        decide
            (response.participantId = id ∧
              (response.selectedAnswerIdsColumn ≠ none ∨
                response.gradedCategories ≠ none)) =
          true →
        response.participantId = id :=
    fun response selected => (of_decide_eq_true selected).1
  have left' :=
    filter_childrenOf own left.database.participantResponses.rows
  have right' :=
    filter_childrenOf own right.database.participantResponses.rows
  exact
    left'.symm.trans ((congrArg (List.filter _) responses).trans right')

/-- The weights of a response depend on the shared definitions. -/
theorem responseRecords_factorsThrough (id : UserId) :
    Function.FactorsThrough
      (fun tables : PerformanceTables services =>
        responseRecords tables.catalogue)
      (ownRecords id) := by
  intro left right same
  have categories := congrArg OwnRecords.categories same
  have weights := congrArg OwnRecords.answerCategoryWeights same
  have sameCategory :
      left.catalogue.category? = right.catalogue.category? := by
    funext category
    unfold Catalogue.category?
    exact congrArg (List.find? _) categories
  have sameJoined :
      joinedWeights left.catalogue = joinedWeights right.catalogue := by
    funext answerIds
    unfold joinedWeights
    rw [sameCategory]
    exact
      congrArg (fun rows => List.filterMap _ (List.filter _ rows))
        weights
  funext response
  show
    responseRecords left.catalogue response =
      responseRecords right.catalogue response
  unfold responseRecords selectedRecords gradedWeightRecords gradedInfo
  rw [sameJoined, sameCategory]

/-- The titles that name an IQ test depend on the shared definitions. -/
theorem iqTitles_factorsThrough (id : UserId) :
    Function.FactorsThrough
      (fun tables : PerformanceTables services =>
        iqTitles tables.catalogue)
      (ownRecords id) := by
  intro left right same
  have assessments := congrArg OwnRecords.assessments same
  have translations := congrArg OwnRecords.assessmentTranslations same
  have sameAssessment :
      left.catalogue.assessment? = right.catalogue.assessment? := by
    funext assessment
    unfold Catalogue.assessment?
    exact congrArg (List.find? _) assessments
  funext assessment
  show
    iqTitles left.catalogue assessment =
      iqTitles right.catalogue assessment
  unfold iqTitles
  rw [sameAssessment]
  cases right.catalogue.assessment? assessment with
  | none => rfl
  | some found =>
      exact
        congrArg
          (fun rows => List.map _ (List.filter _ rows)) translations

/-- The results of a user are those of the own records. -/
theorem performanceOf_factorsThrough (user : UserAccount)
    (listed : List ListedParticipant) (now : Timestamp) :
    Function.FactorsThrough
      (fun tables : PerformanceTables services =>
        performanceOf tables user listed now)
      (ownRecords user.id) := by
  intro left right same
  have scored := scoredRows_factorsThrough user.id same
  have responses := responsesOfParticipant_factorsThrough user.id same
  have records := responseRecords_factorsThrough user.id same
  have named := iqTitles_factorsThrough user.id same
  dsimp only at scored responses records named
  have overall :
      calculateOverallScore left.database.assessmentParticipants
          user.id =
        calculateOverallScore right.database.assessmentParticipants
          user.id := by
    unfold calculateOverallScore
    rw [scored]
  have categories :
      getCategoryScores left.catalogue left.database user.id =
        getCategoryScores right.catalogue right.database user.id := by
    unfold getCategoryScores unroundedValues categoryEntries
    rw [responses, records]
  have iq :
      getIQTestResults left.catalogue
          left.database.assessmentParticipants user.id =
        getIQTestResults right.catalogue
          right.database.assessmentParticipants user.id := by
    unfold getIQTestResults iqRows
    rw [scored, named]
  have trends :
      getPerformanceTrends left.database.assessmentParticipants user.id
          now =
        getPerformanceTrends right.database.assessmentParticipants
          user.id now := by
    unfold getPerformanceTrends monthlyTrends trendRows
    rw [scored]
  show
    performanceOf left user listed now =
      performanceOf right user listed now
  unfold performanceOf
  rw [overall, categories, iq, trends]

/--
Two databases with the same own records and the same definitions give a
participant the same page, whichever other user the route and the query
name.
-/
theorem own_results_only
    {left right : PerformanceTables services} {user : UserAccount}
    (isUser : left.accounts.users.find? user.id = some user)
    (isParticipant : user.role = .participant)
    (agree : ownRecords user.id left = ownRecords user.id right)
    (leftRoute rightRoute : Option UserAccount)
    (leftQuery rightQuery : ℤ) (now : Timestamp) :
    ∃ page,
      examineePerformance left (some user.id) leftRoute leftQuery now =
          .ok page ∧
        examineePerformance right (some user.id) rightRoute rightQuery
            now = .ok page ∧
        page.participant = user ∧
        page.participantsList = [] := by
  have alsoUser : right.accounts.users.find? user.id = some user :=
    (congrArg OwnRecords.user agree).symm.trans isUser
  have samePage :
      performanceOf left user [] now = performanceOf right user [] now :=
    performanceOf_factorsThrough user [] now agree
  refine ⟨performanceOf left user [] now, ?_, ?_, rfl, rfl⟩
  · exact
      examineePerformance_of_participant isUser isParticipant leftRoute
        leftQuery now
  · rw [samePage]
    exact
      examineePerformance_of_participant alsoUser isParticipant
        rightRoute rightQuery now

/-- A completed participation with a score on the old scale. -/
def sampleParticipation : AssessmentParticipant where
  assessmentId := 1
  participantId := 2
  status := .completed
  score := some 7
  updatedAt := 1700000000

/-- A small installation after one participation. -/
def sampleTables : PerformanceTables sampleServices where
  accounts := sampleAccounts
  catalogue := Catalogue.ofUsers [1, 2]
  database :=
    { Database.empty with
      assessmentParticipants := [sampleParticipation] }

/-- Another user takes the place of the administrator, with a result. -/
def otherTables : PerformanceTables sampleServices where
  accounts :=
    { sampleAccounts with
      users :=
        { rows :=
            [{ sampleParticipant with
                id := 1, username := "other", email := "o@example.com" },
              sampleParticipant]
          nextKey := 3
          keys := by decide
          below := by decide
          unique := by decide +kernel } }
  catalogue := Catalogue.ofUsers [1, 2]
  database :=
    { Database.empty with
      assessmentParticipants :=
        [{ sampleParticipation with participantId := 1, score := some 95 },
          sampleParticipation] }

theorem own_results_only_sample :
    ownRecords 2 sampleTables = ownRecords 2 otherTables ∧
      ∃ page,
        examineePerformance sampleTables (some 2) none 0 1700000000 =
            .ok page ∧
          examineePerformance otherTables (some 2)
              (some sampleAdministrator) 1 1700000000 = .ok page ∧
          page.participant = sampleParticipant ∧
          page.participantsList = [] := by
  have agree : ownRecords 2 sampleTables = ownRecords 2 otherTables := by
    ext : 1 <;> decide +kernel
  have isUser :
      sampleTables.accounts.users.find? sampleParticipant.id =
        some sampleParticipant := by
    decide +kernel
  exact
    ⟨agree,
      own_results_only isUser rfl agree none (some sampleAdministrator) 0 1
        1700000000⟩

/-! ## The routes of a participant -/

theorem performancePage_of_participant
    {tables : PerformanceTables services} {user : UserAccount}
    (isUser : tables.accounts.users.find? user.id = some user)
    (isParticipant : user.role = .participant)
    (participantId : ℤ) (now : Timestamp) :
    performancePage tables (some user.id) participantId now =
      .ok (performanceOf tables user [] now) := by
  have signedIn :
      authenticate tables.accounts (some user.id) = .ok user :=
    (authenticate_eq_ok_iff _ _ _).mpr isUser
  have passes :
      EnsureRole.handle (some user)
          [.participant, .manager, .admin, .assessor] = .ok () := by
    rw [EnsureRole.handle_eq_ok_iff, isParticipant]
    exact Or.inr List.mem_cons_self
  unfold performancePage
  rw [signedIn,
    ← examineePerformance_of_participant isUser isParticipant none
      participantId now]
  change (EnsureRole.handle (some user) _ >>= _) = _
  rw [passes]
  rfl

/-- The route that names another user is closed to participants. -/
theorem performancePageOfUser_of_participant
    {tables : PerformanceTables services} {user : UserAccount}
    (isUser : tables.accounts.users.find? user.id = some user)
    (isParticipant : user.role = .participant)
    (participant : UserId) (participantId : ℤ) (now : Timestamp)
    (page : ExamineePerformance) :
    performancePageOfUser tables (some user.id) participant
        participantId now ≠ .ok page := by
  intro returns
  unfold performancePageOfUser at returns
  rcases bind_eq_ok_iff.mp returns with ⟨found, signedIn, returns⟩
  rcases bind_eq_ok_iff.mp returns with ⟨other, _, returns⟩
  rcases bind_eq_ok_iff.mp returns with ⟨_, passes, _⟩
  rw [authenticate_eq_ok_iff] at signedIn
  cases Option.some.inj (signedIn.symm.trans isUser)
  rw [EnsureRole.handle_eq_ok_iff, isParticipant] at passes
  simp at passes

end SultanPass.DashboardController
