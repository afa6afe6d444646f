import SultanPass.Users
import SultanPass.Library.Routing

/-!
# The routes and their middleware

`routes/web.php` as a table: the routes in the order of the file, inside
their groups, with the routes that `Route::resource` stands for.  The first
route of the method that matches the path answers; its middleware runs
before its action.

The file says that custom routes come before a resource so that they do not
conflict.  `dispatch_path_iff` says exactly which paths do: a user whose key
were one of the words of the custom routes, and a language with the key
`create`.
-/

namespace SultanPass

open SultanPass.Library
open SultanPass.Library.Routing

/-! ## Actions -/

/-- The methods of the controllers and the closures that answer. -/
inductive Action where
  | health
  | home
  | switchLocale
  | aiDemo
  | aiDemoAnalyzeQualitative
  | aiDemoAnalyzeStrengths
  | aiAssistant
  | aiAssistantChat
  | showLoginForm
  | login
  | showRegisterForm
  | register
  | showForgotPasswordForm
  | sendResetLinkEmail
  | showResetForm
  | resetPassword
  | logout
  | adminDashboard
  | managerDashboard
  | assessorDashboard
  | participantDashboard
  | examineePerformance
  | surveyTake
  | surveyStoreResponse
  | surveyAssessorReport
  | surveyManagerReport
  | assessmentCreate
  | assessmentStore
  | gradingIndex
  | gradingShow
  | gradingStore
  | assessorAssessments
  | assessorParticipants
  | managerAssessments
  | managerParticipants
  | userParticipants
  | userCreate
  | userShowImportForm
  | userImportCsv
  | userExportCsv
  | userDownloadImportedPasswords
  | userIndex
  | userStore
  | userShow
  | userEdit
  | userUpdate
  | userDestroy
  | userSendResetLink
  | userRegeneratePassword
  | languageIndex
  | languageCreate
  | languageStore
  | languageShow
  | languageEdit
  | languageUpdate
  | languageDestroy
  | passwordResetIndex
  | passwordResetShow
  | passwordResetApprove
  | passwordResetDecline
deriving DecidableEq, Repr

/-! ## Routes -/

inductive Method where
  | get
  | head
  | post
  | put
  | patch
  | delete
deriving DecidableEq, Repr

inductive Middleware where
  | auth
  | guest
  | role (roles : List Role)
deriving DecidableEq, Repr

structure Route where
  methods : List Method
  template : Template
  name : List String
  middleware : List Middleware
  action : Action
deriving DecidableEq, Repr

namespace Route

/-- `Route::get`, which answers `HEAD` too. -/
def get (uri : String) (action : Action) (name : List String) : Route where
  methods := [.get, .head]
  template := Template.ofText uri
  name := name
  middleware := []
  action := action

/-- `Route::post` -/
def post (uri : String) (action : Action) (name : List String) :
    Route where
  methods := [.post]
  template := Template.ofText uri
  name := name
  middleware := []
  action := action

/-- `Route::delete` -/
def delete (uri : String) (action : Action) (name : List String) :
    Route where
  methods := [.delete]
  template := Template.ofText uri
  name := name
  middleware := []
  action := action

/-- `->middleware(…)` of one route. -/
def through (middleware : List Middleware) (route : Route) : Route :=
  { route with middleware := route.middleware ++ middleware }

/-- `Route::middleware(…)->group(…)` -/
def group (middleware : List Middleware) (routes : List Route) :
    List Route :=
  routes.map fun route =>
    { route with middleware := middleware ++ route.middleware }

/-- `Route::prefix(…)->name(…)` in front of a group. -/
def under (uri : String) (name : String) (routes : List Route) :
    List Route :=
  routes.map fun route =>
    { route with
      template := Template.ofText uri ++ route.template
      name := name :: route.name }

/-- The methods of a resource controller, in their order. -/
inductive ResourceMethod where
  | index
  | create
  | store
  | show
  | edit
  | update
deriving DecidableEq, Repr

/-- One route of `Route::resource`. -/
def ofResource (base parameter : String)
    (action : ResourceMethod → Action) (method : ResourceMethod) :
    Route :=
  let record := base ++ "/\x7b" ++ parameter ++ "\x7d"
  match method with
  | .index => get base (action .index) [base, "index"]
  | .create => get (base ++ "/create") (action .create) [base, "create"]
  | .store => post base (action .store) [base, "store"]
  | .show => get record (action .show) [base, "show"]
  | .edit => get (record ++ "/edit") (action .edit) [base, "edit"]
  | .update =>
      { post record (action .update) [base, "update"] with
        methods := [.put, .patch] }

/-- `Route::resource(…)->only(…)` -/
def resource (base parameter : String) (only : List ResourceMethod)
    (action : ResourceMethod → Action) : List Route :=
  only.map (ofResource base parameter action)

/-- `->except(['destroy'])` -/
def exceptDestroy : List ResourceMethod :=
  [.index, .create, .store, .show, .edit, .update]

end Route

open Route

/-- The actions of `Route::resource('users', …)`. -/
def userResource : ResourceMethod → Action
  | .index => .userIndex
  | .create => .userCreate
  | .store => .userStore
  | .show => .userShow
  | .edit => .userEdit
  | .update => .userUpdate

/-- The actions of `Route::resource('languages', …)`. -/
def languageResource : ResourceMethod → Action
  | .index => .languageIndex
  | .create => .languageCreate
  | .store => .languageStore
  | .show => .languageShow
  | .edit => .languageEdit
  | .update => .languageUpdate

/-- The actions of `Route::resource('password-resets', …)`. -/
def passwordResetResource : ResourceMethod → Action
  | .show => .passwordResetShow
  | _ => .passwordResetIndex

/-- The routes for everybody. -/
def publicRoutes : List Route :=
  [get "/" .home [],
    post "locale/switch" .switchLocale ["locale", "switch"],
    get "ai-demo" .aiDemo ["ai-demo"],
    post "ai-demo/analyze-qualitative" .aiDemoAnalyzeQualitative
      ["ai-demo", "analyze-qualitative"],
    post "ai-demo/analyze-strengths" .aiDemoAnalyzeStrengths
      ["ai-demo", "analyze-strengths"]]

def aiAssistantRoutes : List Route :=
  group [.auth, .role [.admin, .manager, .assessor]]
    [get "ai-assistant" .aiAssistant ["ai-assistant", "index"],
      post "ai-assistant/chat" .aiAssistantChat ["ai-assistant", "chat"]]

def guestRoutes : List Route :=
  group [.guest]
    [get "login" .showLoginForm ["login"],
      post "login" .login ["login", "perform"],
      get "register" .showRegisterForm ["register"],
      post "register" .register ["register", "perform"],
      get "forgot-password" .showForgotPasswordForm
        ["password", "request"],
      post "forgot-password" .sendResetLinkEmail ["password", "email"],
      get "reset-password/{token}" .showResetForm ["password", "reset"],
      post "reset-password" .resetPassword ["password", "update"]]

def dashboardRoutes : List Route :=
  [through [.role [.admin]]
      (get "dashboard/admin" .adminDashboard ["dashboard", "admin"]),
    through [.role [.manager, .admin]]
      (get "dashboard/manager" .managerDashboard
        ["dashboard", "manager"]),
    through [.role [.assessor, .admin]]
      (get "dashboard/assessor" .assessorDashboard
        ["dashboard", "assessor"]),
    through [.role [.participant, .manager, .admin, .assessor]]
      (get "dashboard/participant" .participantDashboard
        ["dashboard", "participant"]),
    through [.role [.participant, .manager, .admin, .assessor]]
      (get "dashboard/examinee-performance" .examineePerformance
        ["dashboard", "examinee-performance"]),
    through [.role [.manager, .admin, .assessor]]
      (get "dashboard/examinee-performance/user/{participant}"
        .examineePerformance
        ["dashboard", "examinee-performance", "user"])]

def surveyRoutes : List Route :=
  [through [.role [.participant, .manager, .admin]]
      (get "assessments/{assessment}/take" .surveyTake
        ["assessments", "take"]),
    through [.role [.participant, .manager, .admin]]
      (post "assessments/{assessment}/responses" .surveyStoreResponse
        ["assessments", "store-response"]),
    through [.role [.assessor, .admin]]
      (get "assessments/{assessment}/review" .surveyAssessorReport
        ["assessments", "review"]),
    through [.role [.manager, .admin]]
      (get "assessments/{assessment}/report" .surveyManagerReport
        ["assessments", "report"])]

def authoringRoutes : List Route :=
  group [.role [.manager, .admin]]
    [get "assessments/create" .assessmentCreate
        ["assessments", "create"],
      post "assessments" .assessmentStore ["assessments", "store"]]

def gradingRoutes : List Route :=
  group [.role [.assessor, .manager, .admin]]
    [get "assessments/{assessment}/grade" .gradingIndex
        ["assessments", "grade"],
      get "assessments/{assessment}/grade/{participant}" .gradingShow
        ["assessments", "grade-participant"],
      post "assessments/{assessment}/grade/{participant}" .gradingStore
        ["assessments", "save-grade"]]

def assessorRoutes : List Route :=
  under "assessor" "assessor"
    (group [.role [.assessor, .admin]]
      [get "assessments" .assessorAssessments ["assessments"],
        get "participants" .assessorParticipants ["participants"]])

def managerRoutes : List Route :=
  under "manager" "manager"
    (group [.role [.manager, .admin]]
      [get "assessments" .managerAssessments ["assessments"],
        get "participants" .managerParticipants ["participants"]])

def userRoutes : List Route :=
  [get "users/participants" .userParticipants ["users", "participants"],
    get "users/create-participant" .userCreate
      ["users", "create-participant"],
    get "users/import" .userShowImportForm ["users", "import"],
    get "users/import-participant" .userShowImportForm
      ["users", "import-participant"],
    post "users/import" .userImportCsv ["users", "import-csv"],
    get "users/export" .userExportCsv ["users", "export-csv"],
    get "users/imported-passwords" .userDownloadImportedPasswords
      ["users", "imported-passwords"]] ++
    resource "users" "user" exceptDestroy userResource ++
    [delete "users/{user}" .userDestroy ["users", "destroy"],
      post "users/{user}/send-reset" .userSendResetLink
        ["users", "send-reset"],
      post "users/{user}/generate-password" .userRegeneratePassword
        ["users", "generate-password"]]

def languageRoutes : List Route :=
  resource "languages" "language" exceptDestroy languageResource ++
    [delete "languages/{language}" .languageDestroy
      ["languages", "destroy"]]

def passwordResetRoutes : List Route :=
  resource "password-resets" "passwordResetRequest" [.index, .show]
      passwordResetResource ++
    [post "password-resets/{passwordResetRequest}/approve"
        .passwordResetApprove ["password-resets", "approve"],
      post "password-resets/{passwordResetRequest}/decline"
        .passwordResetDecline ["password-resets", "decline"]]

def adminRoutes : List Route :=
  under "admin" "admin"
    (group [.role [.admin]]
      (userRoutes ++ languageRoutes ++ passwordResetRoutes))

/-- The routes of the application, after its health check. -/
def routes : List Route :=
  get "/up" .health [] :: publicRoutes ++ aiAssistantRoutes ++
    guestRoutes ++
    [through [.auth] (post "logout" .logout ["logout"])] ++
    group [.auth]
      (dashboardRoutes ++ surveyRoutes ++ authoringRoutes ++
        gradingRoutes ++ assessorRoutes ++ managerRoutes ++ adminRoutes)

/-! ## Dispatching -/

/-- The routes that answer a method. -/
def routesFor (method : Method) : List Route :=
  routes.filter fun route => method ∈ route.methods

/-- The route of a request with the values of its parameters. -/
def dispatch (method : Method) (path : List Char) :
    Except Interruption (Route × List Word) :=
  match firstMatch Route.template (routesFor method) path with
  | some found => .ok found
  | none =>
      match firstMatch Route.template routes path with
      | some _ => .error (.abort 405 "")
      | none => .error (.abort 404 "")

/-- The words that stand for another route in the place of a key. -/
def reservedWords : Action → List Word
  | .userShow =>
      ["participants".toList, "create-participant".toList,
        "import".toList, "import-participant".toList, "export".toList,
        "imported-passwords".toList, "create".toList]
  | .languageShow => ["create".toList]
  | _ => []

theorem routes_wellFormed :
    ∀ route ∈ routes, route.template.WellFormed := by
  decide +kernel

/-- The routes that answer `HEAD` are those that answer `GET`. -/
theorem routesFor_head : routesFor .head = routesFor .get := by
  have sameRoutes :
      ∀ route ∈ routes,
        decide (Method.head ∈ route.methods) =
          decide (Method.get ∈ route.methods) := by
    decide +kernel
  exact List.filter_congr sameRoutes

/-- The routes that answer `PATCH` are those that answer `PUT`. -/
theorem routesFor_patch : routesFor .patch = routesFor .put := by
  have sameRoutes :
      ∀ route ∈ routes,
        decide (Method.patch ∈ route.methods) =
          decide (Method.put ∈ route.methods) := by
    decide +kernel
  exact List.filter_congr sameRoutes

/-- What the earlier routes of a method demand of the later ones. -/
def Reserved (method : Method) : Prop :=
  ∀ entry ∈ withObstructions Route.template [] (routesFor method),
    entry.2 = (reservedWords entry.1.action).map fun word => [some word]

instance (method : Method) : Decidable (Reserved method) :=
  inferInstanceAs (Decidable (∀ entry ∈ withObstructions _ _ _, _))

theorem reserved (method : Method) : Reserved method := by
  have forGet : Reserved .get := by decide +kernel
  have forPut : Reserved .put := by decide +kernel
  cases method with
  | get => exact forGet
  | head =>
      unfold Reserved at forGet ⊢
      rw [routesFor_head]
      exact forGet
  | post => decide +kernel
  | put => exact forPut
  | patch =>
      unfold Reserved at forPut ⊢
      rw [routesFor_patch]
      exact forPut
  | delete => decide +kernel

theorem meets_singleton_iff (word : Word) (values : List Word) :
    Template.Meets [some word] values ↔ values = [word] := by
  constructor
  · intro meets
    cases meets with
    | cons isWord rest =>
        cases rest
        rw [isWord word rfl]
  · rintro rfl
    exact
      List.Forall₂.cons (fun _ same => Option.some.inj same)
        List.Forall₂.nil

theorem dispatch_eq_ok_iff (method : Method) (path : List Char)
    (found : Route × List Word) :
    dispatch method path = .ok found ↔
      firstMatch Route.template (routesFor method) path = some found := by
  unfold dispatch
  cases firstMatch Route.template (routesFor method) path with
  | some other => simp
  | none => cases firstMatch Route.template routes path <;> simp

/--
The path that a route has for some values leads back to the route with
these values, unless they are reserved for another route.
-/
theorem dispatch_path_iff {route : Route} (listed : route ∈ routes)
    {method : Method} (answers : method ∈ route.methods)
    {values : List Word} (fits : route.template.Fits values) :
    dispatch method (route.template.path values) =
        .ok (route, values) ↔
      ∀ word ∈ reservedWords route.action, values ≠ [word] := by
  have member : route ∈ routesFor method :=
    List.mem_filter.mpr ⟨listed, decide_eq_true answers⟩
  have known :
      ∀ entry ∈ withObstructions Route.template [] (routesFor method),
        entry.1 = route →
          entry.2 =
            (reservedWords route.action).map fun word => [some word] := by
    rintro entry isEntry rfl
    exact reserved method entry isEntry
  rw [dispatch_eq_ok_iff,
    firstMatch_path_iff_of_mem (routes_wellFormed route listed) fits
      member known]
  simp [meets_singleton_iff]

/-- The route of the page that shows a user. -/
def userShowRoute : Route where
  methods := [.get, .head]
  template := Template.ofText "admin/users/{user}"
  name := ["admin", "users", "show"]
  middleware := [.auth, .role [.admin]]
  action := .userShow

/-- The user with the key 7 has a page of their own. -/
theorem dispatch_path_user :
    dispatch .get (userShowRoute.template.path ["7".toList]) =
        .ok (userShowRoute, ["7".toList]) ↔
      ∀ word ∈ reservedWords .userShow, ["7".toList] ≠ [word] :=
  @dispatch_path_iff userShowRoute (by decide +kernel) .get
    (by decide) ["7".toList] ⟨by decide +kernel, by decide +kernel⟩

/-! ## Middleware -/

/-- Whether a visitor with a role, or a guest, passes. -/
def Middleware.admits : Middleware → Option Role → Bool
  | .auth, visitor => visitor.isSome
  | .guest, visitor => visitor.isNone
  | .role roles, visitor =>
      roles.isEmpty || visitor.any fun role => role ∈ roles

section Serving

variable {services : Services}

def Middleware.handle (tables : AccountTables services)
    (actor : Option UserId) : Middleware → Except Interruption Unit
  | .auth => (authenticate tables actor).map fun _ => ()
  | .guest => ensureGuest tables actor
  | .role roles => EnsureRole.handle (tables.user? actor) roles

/-- The role of the user of a session. -/
def AccountTables.roleOf (tables : AccountTables services)
    (actor : Option UserId) : Option Role :=
  (tables.user? actor).map UserAccount.role

theorem Middleware.handle_eq_ok_iff (tables : AccountTables services)
    (actor : Option UserId) (middleware : Middleware) :
    middleware.handle tables actor = .ok () ↔
      middleware.admits (tables.roleOf actor) = true := by
  unfold AccountTables.roleOf
  cases middleware with
  | auth =>
      cases found : tables.user? actor with
      | none => simp [handle, authenticate, found, admits, Except.map]
      | some user => simp [handle, authenticate, found, admits, Except.map]
  | guest =>
      cases found : tables.user? actor with
      | none => simp [handle, ensureGuest, found, admits]
      | some user => simp [handle, ensureGuest, found, admits]
  | role roles =>
      cases found : tables.user? actor with
      | none =>
          by_cases noRoles : roles = []
          · simp [handle, EnsureRole.handle, admits, noRoles]
          · simp [handle, EnsureRole.handle, found, admits, noRoles]
      | some user =>
          simp only [handle, found, admits, EnsureRole.handle_eq_ok_iff]
          simp

/-- The middleware of a route, one after the other. -/
def passMiddleware (tables : AccountTables services)
    (actor : Option UserId) : List Middleware → Except Interruption Unit
  | [] => .ok ()
  | first :: rest => do
      first.handle tables actor
      passMiddleware tables actor rest

theorem passMiddleware_eq_ok_iff (tables : AccountTables services)
    (actor : Option UserId) (middleware : List Middleware) :
    passMiddleware tables actor middleware = .ok () ↔
      middleware.all (fun one => one.admits (tables.roleOf actor)) =
        true := by
  induction middleware with
  | nil => simp [passMiddleware]
  | cons first rest induction =>
      rw [passMiddleware, bind_eq_ok_iff, List.all_cons,
        Bool.and_eq_true, ← Middleware.handle_eq_ok_iff, ← induction]
      constructor
      · rintro ⟨_, passed, others⟩
        exact ⟨passed, others⟩
      · rintro ⟨passed, others⟩
        exact ⟨(), passed, others⟩

/--
The route whose action a request reaches, with the values of its parameters.
The route models behind these values are looked up by the action.
-/
def serve (tables : AccountTables services) (actor : Option UserId)
    (method : Method) (path : List Char) :
    Except Interruption (Route × List Word) := do
  let found ← dispatch method path
  passMiddleware tables actor found.1.middleware
  return found

theorem serve_eq_ok_iff (tables : AccountTables services)
    (actor : Option UserId) (method : Method) (path : List Char)
    (found : Route × List Word) :
    serve tables actor method path = .ok found ↔
      dispatch method path = .ok found ∧
        found.1.middleware.all
            (fun one => one.admits (tables.roleOf actor)) =
          true := by
  unfold serve
  rw [bind_eq_ok_iff]
  constructor
  · rintro ⟨other, dispatched, returns⟩
    rcases bind_eq_ok_iff.mp returns with ⟨_, passed, same⟩
    cases same
    exact ⟨dispatched, (passMiddleware_eq_ok_iff _ _ _).mp passed⟩
  · rintro ⟨dispatched, admitted⟩
    refine ⟨found, dispatched, bind_eq_ok_iff.mpr ⟨(), ?_, rfl⟩⟩
    exact (passMiddleware_eq_ok_iff _ _ _).mpr admitted

/-- A request that is served is served by a listed route. -/
theorem listed_of_serve {tables : AccountTables services}
    {actor : Option UserId} {method : Method} {path : List Char}
    {found : Route × List Word}
    (served : serve tables actor method path = .ok found) :
    found.1 ∈ routes := by
  have dispatched := ((serve_eq_ok_iff _ _ _ _ _).mp served).1
  rw [dispatch_eq_ok_iff] at dispatched
  exact (List.mem_filter.mp (of_firstMatch dispatched).1).1

end Serving

/-! ## Who may do what -/

/-- The roles that may have an action done; the others are guests. -/
def Action.audience : Action → List (Option Role)
  | .health | .home | .switchLocale | .aiDemo | .aiDemoAnalyzeQualitative
  | .aiDemoAnalyzeStrengths =>
      [none, some .admin, some .manager, some .assessor, some .participant]
  | .showLoginForm | .login | .showRegisterForm | .register
  | .showForgotPasswordForm | .sendResetLinkEmail | .showResetForm
  | .resetPassword =>
      [none]
  | .logout | .participantDashboard | .examineePerformance =>
      [some .admin, some .manager, some .assessor, some .participant]
  | .surveyTake | .surveyStoreResponse =>
      [some .admin, some .manager, some .participant]
  | .aiAssistant | .aiAssistantChat | .gradingIndex | .gradingShow
  | .gradingStore =>
      [some .admin, some .manager, some .assessor]
  | .managerDashboard | .surveyManagerReport | .assessmentCreate
  | .assessmentStore | .managerAssessments | .managerParticipants =>
      [some .admin, some .manager]
  | .assessorDashboard | .surveyAssessorReport | .assessorAssessments
  | .assessorParticipants =>
      [some .admin, some .assessor]
  | _ => [some .admin]

theorem mem_audience_of_admits {route : Route} (listed : route ∈ routes)
    {visitor : Option Role}
    (admitted :
      route.middleware.all (fun one => one.admits visitor) = true) :
    visitor ∈ route.action.audience := by
  have checked :
      ∀ route ∈ routes,
        ∀ visitor ∈
            [none, some Role.admin, some Role.manager, some Role.assessor,
              some Role.participant],
          route.middleware.all (fun one => one.admits visitor) = true →
            visitor ∈ route.action.audience := by
    decide +kernel
  refine checked route listed visitor ?_ admitted
  cases visitor with
  | none => exact List.mem_cons_self
  | some role => cases role <;> simp

theorem exists_route_of_mem_audience {action : Action}
    {visitor : Option Role} (mayDo : visitor ∈ action.audience) :
    ∃ route ∈ routes,
      route.action = action ∧ route.methods ≠ [] ∧
        route.middleware.all (fun one => one.admits visitor) = true := by
  have checked :
      ∀ visitor ∈ action.audience,
        ∃ route ∈ routes,
          route.action = action ∧ route.methods ≠ [] ∧
            route.middleware.all (fun one => one.admits visitor) =
              true := by
    cases action <;> decide +kernel
  exact checked visitor mayDo

/-- A word that no route has in its template. -/
theorem not_reserved_seven (action : Action) (count : ℕ) :
    ∀ word ∈ reservedWords action,
      List.replicate count "7".toList ≠ [word] := by
  intro word member same
  have isWord : word = "7".toList := by
    have inside : word ∈ List.replicate count "7".toList := by
      rw [same]
      exact List.mem_singleton_self word
    exact List.eq_of_mem_replicate inside
  subst isWord
  unfold reservedWords at member
  split at member <;> revert member <;> decide

/--
A session can reach an action, by some path and method, exactly when its
user has one of the roles for it.
-/
theorem reaches_iff {services : Services}
    (tables : AccountTables services) (actor : Option UserId)
    (action : Action) :
    (∃ method path found,
        serve tables actor method path = .ok found ∧
          found.1.action = action) ↔
      tables.roleOf actor ∈ action.audience := by
  constructor
  · rintro ⟨method, path, found, served, rfl⟩
    exact
      mem_audience_of_admits (listed_of_serve served)
        ((serve_eq_ok_iff _ _ _ _ _).mp served).2
  · intro mayDo
    rcases exists_route_of_mem_audience mayDo with
      ⟨route, listed, rfl, hasMethod, admitted⟩
    rcases List.exists_mem_of_ne_nil _ hasMethod with ⟨method, answers⟩
    have fits :
        route.template.Fits
          (List.replicate route.template.arity "7".toList) :=
      ⟨List.length_replicate,
        fun value member => by
          rw [List.eq_of_mem_replicate member]
          decide +kernel⟩
    have dispatched :=
      (dispatch_path_iff listed answers fits).mpr
        (not_reserved_seven route.action _)
    exact
      ⟨method, _, _,
        (serve_eq_ok_iff _ _ _ _ _).mpr ⟨dispatched, admitted⟩, rfl⟩

end SultanPass
