import SultanPass.Users

/-!
# `SetLocale` and `locale/switch`

The locale of a request is the one of its session, else the language of the
authenticated user, else the browser's preference, else the default.  The
middleware stores what it finds in the session, so a session keeps the
locale of its first request, whoever that was handled as.

A session is saved under the same data when a user logs in.  The saved
preference of a user therefore governs a session exactly when the user is
authenticated from its first request on, or when the first request happens
to get the same locale.
-/

namespace SultanPass

open SultanPass.Library

variable {services : Services}

/-- The configuration `app`, and `Request::getPreferredLanguage`. -/
structure LocaleConfig where
  availableLocales : List String
  fallbackLocale : String
  locale : String
  getPreferredLanguage : (acceptLanguage : Option String) → Option String

/-- The keys of a session that the middleware reads. -/
structure WebSession where
  user : Option UserId
  locale : Option String
deriving DecidableEq, Repr

/-- A session without data. -/
def WebSession.start : WebSession where
  user := none
  locale := none

/--
A request with the database that it meets, the user of its remember cookie
and the user that its controller logs in, if any.
-/
structure WebRequest (services : Services) where
  tables : AccountTables services
  acceptLanguage : Option String
  recaller : Option UserId
  login : Option UserId

/-- `$user->language?->code`. -/
def AccountTables.languageCode (tables : AccountTables services)
    (user : UserAccount) : Option String :=
  (user.languagePref.bind tables.languages.find?).map Language.code

/-! ## `locale/switch` -/

/-- `$request->user()->update(['language_pref' => …])`. -/
def AccountTables.updateLanguagePref (tables : AccountTables services)
    (userId : UserId) (languageId : Option LanguageId) :
    AccountTables services :=
  { tables with
    users :=
      tables.users.refresh
        (fun user =>
          { user with
            languagePref :=
              if user.id = userId then languageId
              else user.languagePref })
        (fun _ => rfl)
        (by
          intro index isIndex user
          rcases List.mem_pair.mp isIndex with rfl | rfl
          · rfl
          · rfl) }

/-- `Language::where('code', $locale)->first()`. -/
def AccountTables.findLanguage? (tables : AccountTables services)
    (code : String) : Option Language :=
  tables.languages.rows.find? fun language =>
    services.collate language.code = services.collate code

/-- The route `locale/switch`. -/
def localeSwitch (config : LocaleConfig)
    (tables : AccountTables services) (session : WebSession)
    (input : Option String) :
    Except Interruption (AccountTables services × WebSession) := do
  let locale ← validated (Validated.present "locale" input)
  let _ ← validated
    (Validated.rules "locale"
      [("in", config.availableLocales.contains locale)] locale)
  let switched := { session with locale := some locale }
  match tables.user? session.user with
  | none => return (tables, switched)
  | some user =>
      return (tables.updateLanguagePref user.id
        ((tables.findLanguage? locale).map Language.id), switched)

/-- A language is found under its own code. -/
theorem findLanguage?_code (tables : AccountTables services)
    {language : Language} (listed : language ∈ tables.languages.rows) :
    tables.findLanguage? language.code = some language := by
  unfold AccountTables.findLanguage?
  cases found :
      tables.languages.rows.find? fun other =>
        services.collate other.code = services.collate language.code with
  | none =>
      have absent := List.find?_eq_none.mp found language listed
      simp at absent
  | some other =>
      have same :
          services.collate other.code =
            services.collate language.code := by
        simpa using List.find?_some found
      rw [tables.languages.eq_of_index List.mem_cons_self
        (List.mem_of_find?_eq_some found) listed same]

namespace SetLocale

/-! ## `handle` -/

/-- `Auth::user()`, from the session or from the remember cookie. -/
def authUser (session : WebSession) (request : WebRequest services) :
    Option UserAccount :=
  (session.user.bind request.tables.users.find?).or
    (request.recaller.bind request.tables.users.find?)

/-- A locale that is not available gives way to the fallback. -/
def available (config : LocaleConfig) (locale : String) : String :=
  if locale ∈ config.availableLocales then locale
  else config.fallbackLocale

/-- What a request prefers apart from its session. -/
def preferredOutside (config : LocaleConfig) (user : Option UserAccount)
    (request : WebRequest services) : String :=
  ((user.bind request.tables.languageCode).or
    (config.getPreferredLanguage request.acceptLanguage)).getD
      config.locale

/-- `$preferred` at last. -/
def preferred (config : LocaleConfig) (session : WebSession)
    (request : WebRequest services) : String :=
  available config
    (session.locale.getD
      (preferredOutside config (authUser session request) request))

/-- A handled request: as whom, and in which locale. -/
structure Handled where
  user : Option UserId
  locale : String
deriving DecidableEq, Repr

/-- `handle`, and the session after the controller. -/
def handle (config : LocaleConfig) (session : WebSession)
    (request : WebRequest services) : WebSession × Handled :=
  let user := (authUser session request).map (·.id)
  let locale := preferred config session request
  ({ user := request.login.or (user.or session.user)
     locale := some locale },
    { user := user, locale := locale })

/-- The requests of a session, one after the other. -/
def handleAll (config : LocaleConfig) :
    WebSession → List (WebRequest services) → List Handled
  | _, [] => []
  | session, request :: rest =>
      (handle config session request).2 ::
        handleAll config (handle config session request).1 rest

/-! ## The locale of a session -/

@[simp]
theorem available_available (config : LocaleConfig) (locale : String) :
    available config (available config locale) =
      available config locale := by
  unfold available
  split_ifs <;> rfl

/-- A session with a locale keeps it. -/
theorem locale_of_mem_handleAll
    {config : LocaleConfig} {session : WebSession} {locale : String}
    (stored : session.locale = some (available config locale))
    {requests : List (WebRequest services)} {handled : Handled}
    (member : handled ∈ handleAll config session requests) :
    handled.locale = available config locale := by
  induction requests generalizing session with
  | nil => cases member
  | cons request rest induction =>
      have same :
          preferred config session request = available config locale := by
        unfold preferred
        rw [stored]
        exact available_available config locale
      rcases List.mem_cons.mp member with rfl | later
      · exact same
      · exact induction (congrArg some same) later

/-- The locale of a session is that of its first request. -/
theorem locale_of_mem_handleAll_start
    {config : LocaleConfig} {request : WebRequest services}
    {rest : List (WebRequest services)} {handled : Handled}
    (member :
      handled ∈ handleAll config WebSession.start (request :: rest)) :
    handled.locale =
      available config
        (preferredOutside config (authUser WebSession.start request)
          request) := by
  rcases List.mem_cons.mp member with rfl | later
  · rfl
  · exact locale_of_mem_handleAll rfl later

/-! ## Saved preferences -/

/-- A user with a language code in some tables. -/
def PrefersIn (tables : AccountTables services) (userId : UserId)
    (code : String) : Prop :=
  ∃ user, tables.users.find? userId = some user ∧
    tables.languageCode user = some code

/-- A switch to a listed language saves it. -/
theorem prefersIn_localeSwitch
    {config : LocaleConfig} {tables : AccountTables services}
    {session : WebSession} {user : UserAccount}
    (authenticated : tables.user? session.user = some user)
    {language : Language} (listed : language ∈ tables.languages.rows)
    {after : AccountTables services × WebSession}
    (switched :
      localeSwitch config tables session (some language.code) =
        .ok after) :
    PrefersIn after.1 user.id language.code ∧
      language.code ∈ config.availableLocales := by
  rcases bind_eq_ok_iff.mp switched with ⟨locale, isPresent, rest⟩
  rw [validated_eq_ok_iff, Validated.present_eq_ok_iff] at isPresent
  cases isPresent
  rcases bind_eq_ok_iff.mp rest with ⟨_, valid, rest⟩
  rw [validated_eq_ok_iff, Validated.rules_eq_ok_iff] at valid
  have isAvailable : language.code ∈ config.availableLocales := by
    simpa using valid.1
  refine ⟨?_, isAvailable⟩
  rw [authenticated, findLanguage?_code tables listed] at rest
  cases rest
  rcases Option.bind_eq_some_iff.mp authenticated with ⟨id, _, found⟩
  rcases (IndexedTable.find?_eq_some_iff _ _ _).mp found with
    ⟨member, _⟩
  refine
    ⟨{ user with languagePref := some language.id },
      (IndexedTable.find?_eq_some_iff _ _ _).mpr ⟨?_, rfl⟩, ?_⟩
  · apply List.mem_map.mpr
    refine ⟨user, member, ?_⟩
    simp
  · change
      (tables.languages.find? language.id).map Language.code =
        some language.code
    rw [tables.languages.find?_key listed]
    rfl

/-- The later tables have the preference of the earlier ones. -/
def KeepsPreference (earlier later : AccountTables services)
    (userId : UserId) : Prop :=
  ∀ code, PrefersIn earlier userId code → PrefersIn later userId code

/-- Every request that is handled as the user runs in the locale. -/
def RunsIn (config : LocaleConfig)
    (requests : List (WebRequest services)) (userId : UserId)
    (locale : String) : Prop :=
  ∀ handled ∈ handleAll config WebSession.start requests,
    handled.user = some userId → handled.locale = locale

/-- No request of the session is handled as the user. -/
def NeverAuthenticated (config : LocaleConfig)
    (requests : List (WebRequest services)) (userId : UserId) : Prop :=
  ∀ handled ∈ handleAll config WebSession.start requests,
    handled.user ≠ some userId

/--
The first request of the session is handled as the user, or what it prefers
otherwise happens to be the locale.
-/
def FirstRequestAgrees (config : LocaleConfig) (userId : UserId)
    (locale : String) : List (WebRequest services) → Prop
  | [] => True
  | request :: _ =>
      (authUser WebSession.start request).map (·.id) = some userId ∨
        available config
            (preferredOutside config (authUser WebSession.start request)
              request) =
          locale

/-- A first request that is handled as the user gets the saved locale. -/
theorem preferredOutside_of_prefersIn
    {config : LocaleConfig} {request : WebRequest services}
    {userId : UserId} {code : String}
    (prefers : PrefersIn request.tables userId code)
    (isAvailable : code ∈ config.availableLocales)
    (isUser :
      (authUser WebSession.start request).map (·.id) = some userId) :
    available config
        (preferredOutside config (authUser WebSession.start request)
          request) =
      code := by
  rcases Option.map_eq_some_iff.mp isUser with ⟨user, isAuth, own⟩
  rcases prefers with ⟨other, found, isCode⟩
  have fromCookie :
      request.recaller.bind request.tables.users.find? = some user :=
    isAuth
  rcases Option.bind_eq_some_iff.mp fromCookie with ⟨id, _, isFound⟩
  have sameId :=
    ((IndexedTable.find?_eq_some_iff _ _ _).mp isFound).2
  have same : user = other := by
    rw [← sameId, own, found] at isFound
    exact (Option.some.inj isFound).symm
  rw [isAuth, preferredOutside, same]
  change available config
    (((request.tables.languageCode other).or _).getD _) = _
  rw [isCode]
  exact if_pos isAvailable

/--
After a switch to a listed language, a later session without a switch runs
in that language for the user exactly when the user is not authenticated in
it, or its first request agrees.
-/
theorem saved_locale_survives_iff
    (config : LocaleConfig) (tables : AccountTables services)
    (session : WebSession) (user : UserAccount)
    (authenticated : tables.user? session.user = some user)
    (language : Language) (listed : language ∈ tables.languages.rows)
    (after : AccountTables services × WebSession)
    (switched :
      localeSwitch config tables session (some language.code) =
        .ok after)
    (requests : List (WebRequest services))
    (kept :
      ∀ request ∈ requests,
        KeepsPreference after.1 request.tables user.id) :
    RunsIn config requests user.id language.code ↔
      NeverAuthenticated config requests user.id ∨
        FirstRequestAgrees config user.id language.code requests := by
  rcases prefersIn_localeSwitch authenticated listed switched with
    ⟨prefers, isAvailable⟩
  cases requests with
  | nil =>
      constructor
      · intro _
        exact Or.inr True.intro
      · intro _ handled member
        cases member
  | cons request rest =>
      constructor
      · intro runs
        by_cases never : NeverAuthenticated config (request :: rest) user.id
        · exact Or.inl never
        · unfold NeverAuthenticated at never
          push Not at never
          rcases never with ⟨handled, member, isUser⟩
          right
          right
          rw [← locale_of_mem_handleAll_start member]
          exact runs handled member isUser
      · rintro (never | agrees) handled member isUser
        · exact (never handled member isUser).elim
        · rw [locale_of_mem_handleAll_start member]
          rcases agrees with isFirst | same
          · exact
              preferredOutside_of_prefersIn
                (kept request List.mem_cons_self _ prefers)
                isAvailable isFirst
          · exact same

def sampleConfig : LocaleConfig where
  availableLocales := ["en", "ar"]
  fallbackLocale := "en"
  locale := "en"
  getPreferredLanguage := fun acceptLanguage =>
    if acceptLanguage = some "ar" then some "ar" else some "en"

/-- The participant has switched to Arabic. -/
def switchedAccounts : AccountTables sampleServices :=
  sampleAccounts.updateLanguagePref 2 (some 2)

/-- A request of an English browser. -/
def englishRequest (recaller login : Option UserId) :
    WebRequest sampleServices where
  tables := switchedAccounts
  acceptLanguage := some "en"
  recaller := recaller
  login := login

/-- A session that begins with the remember cookie of the participant. -/
theorem saved_locale_survives_cookie :
    RunsIn sampleConfig
      [englishRequest (some 2) none, englishRequest (some 2) none] 2
      "ar" :=
  (saved_locale_survives_iff sampleConfig sampleAccounts
    { user := some 2, locale := some "en" } sampleParticipant rfl
    ⟨2, "ar", "Arabic"⟩ (List.mem_cons_of_mem _ List.mem_cons_self)
    (switchedAccounts, { user := some 2, locale := some "ar" }) rfl
    [englishRequest (some 2) none, englishRequest (some 2) none]
    (by
      intro request member code prefers
      rcases List.mem_pair.mp member with rfl | rfl
      · exact prefers
      · exact prefers)).mpr
    (Or.inr (Or.inl (by decide +kernel)))

/-- The login page comes first, in English; the session stays English. -/
theorem saved_locale_lost :
    PrefersIn switchedAccounts 2 "ar" ∧
      handleAll sampleConfig WebSession.start
          [englishRequest none (some 2), englishRequest none none] =
        [⟨none, "en"⟩, ⟨some 2, "en"⟩] ∧
      ¬ RunsIn sampleConfig
          [englishRequest none (some 2), englishRequest none none] 2
          "ar" := by
  have trace :
      handleAll sampleConfig WebSession.start
          [englishRequest none (some 2), englishRequest none none] =
        [⟨none, "en"⟩, ⟨some 2, "en"⟩] := by
    decide +kernel
  refine ⟨⟨{ sampleParticipant with languagePref := some 2 }, ?_⟩,
    trace, ?_⟩
  · decide +kernel
  · intro runs
    unfold RunsIn at runs
    rw [trace] at runs
    have arabic :=
      runs ⟨some 2, "en"⟩ (List.mem_cons_of_mem _ List.mem_cons_self) rfl
    exact absurd arabic (by decide)

end SetLocale

end SultanPass
