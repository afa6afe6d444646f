import SultanPass.TemporaryPasswords

/-!
# Temporary passwords on the pages of other requests

`approve` flashes the temporary password into the session and redirects to
the page of the request.  The flashed value has no request attached to it:
the next request of the session sees it, whichever that is, and `show`
prefers it to the password of its own request.

With several tabs the next request need not be the redirect.  As long as the
page that follows an approval is the page of the approved request, each page
shows its own password (`each_page_shows_its_own_password`).
-/

namespace SultanPass.PasswordResetRequestController

open SultanPass.Library

variable {services : Services}

/-! ## One session -/

/-- A request that some tab of the administrator sends. -/
inductive TabRequest where
  | approve (requestId : ℕ) (draws : ApprovalDraws) (now : Timestamp)
  | show (requestId : ℕ)

/--
The tables, and the value under `temporary_password` that the next request
of the session sees.
-/
structure AdminSession (services : Services) where
  tables : AccountTables services
  temporaryPassword : Option String

/-- `show` and a refused `approve` flash no password. -/
def TabRequest.perform (actor : Option UserId)
    (session : AdminSession services) :
    TabRequest → AdminSession services
  | .approve requestId draws now =>
      match decideNow session.tables actor
          (.approve requestId draws now) with
      | some after =>
          { tables := after
            temporaryPassword := some draws.plainPassword.text }
      | none => { tables := session.tables, temporaryPassword := none }
  | .show _ => { tables := session.tables, temporaryPassword := none }

/-- The session after requests, with nothing flashed at the beginning. -/
def sessionAfter (tables : AccountTables services)
    (actor : Option UserId) (requests : List TabRequest) :
    AdminSession services :=
  requests.foldl (TabRequest.perform actor)
    { tables := tables, temporaryPassword := none }

/-- The temporary password on the page of a request. -/
def AdminSession.displayed (session : AdminSession services)
    (actor : Option UserId) (requestId : ℕ) : Option String :=
  match «show» session.tables actor requestId
      session.temporaryPassword with
  | .ok view => view.displayed
  | .error _ => none

theorem sessionAfter_concat
    (tables : AccountTables services) (actor : Option UserId)
    (earlier : List TabRequest) (request : TabRequest) :
    sessionAfter tables actor (earlier ++ [request]) =
      request.perform actor (sessionAfter tables actor earlier) := by
  rw [sessionAfter, List.foldl_append]
  rfl

/-- An approval goes through after some requests. -/
def Approves (tables : AccountTables services) (actor : Option UserId)
    (earlier : List TabRequest) (requestId : ℕ) (draws : ApprovalDraws)
    (now : Timestamp) (after : AccountTables services) : Prop :=
  decideNow (sessionAfter tables actor earlier).tables actor
    (.approve requestId draws now) = some after

/-- What is flashed comes from an approval right before. -/
theorem approves_of_flashed
    {tables : AccountTables services} {actor : Option UserId}
    {requests : List TabRequest} {password : String}
    (flashed :
      (sessionAfter tables actor requests).temporaryPassword =
        some password) :
    ∃ earlier requestId draws now after,
      requests = earlier ++ [.approve requestId draws now] ∧
        Approves tables actor earlier requestId draws now after ∧
        (sessionAfter tables actor requests).tables = after ∧
        password = draws.plainPassword.text := by
  rcases requests.eq_nil_or_concat' with rfl | ⟨earlier, last, rfl⟩
  · cases flashed
  · rw [sessionAfter_concat] at flashed ⊢
    cases last with
    | «show» requestId => cases flashed
    | approve requestId draws now =>
        rw [TabRequest.perform] at flashed ⊢
        cases decides :
            decideNow (sessionAfter tables actor earlier).tables actor
              (.approve requestId draws now) with
        | none =>
            rw [decides] at flashed
            cases flashed
        | some after =>
            rw [decides] at flashed
            cases flashed
            exact
              ⟨earlier, requestId, draws, now, after, rfl, decides, rfl,
                rfl⟩

/-! ## Whose password it is -/

/--
The password was generated by approving the request: by an approval of these
requests, or before them, when it is the one that the request stores.
-/
def GeneratedFor (tables : AccountTables services)
    (actor : Option UserId) (requests : List TabRequest)
    (requestId : ℕ) (password : String) : Prop :=
  (∃ request,
    tables.requests.find? requestId = some request ∧
      storedTemporaryPassword services request = some password) ∨
    ∃ earlier draws now after later,
      requests = earlier ++ .approve requestId draws now :: later ∧
        Approves tables actor earlier requestId draws now after ∧
        draws.plainPassword.text = password

theorem GeneratedFor.concat
    {tables : AccountTables services} {actor : Option UserId}
    {requests : List TabRequest} {requestId : ℕ} {password : String}
    (generated :
      GeneratedFor tables actor requests requestId password)
    (request : TabRequest) :
    GeneratedFor tables actor (requests ++ [request]) requestId
      password := by
  rcases generated with
    stored | ⟨earlier, draws, now, after, later, split, approves, same⟩
  · exact Or.inl stored
  · refine
      Or.inr
        ⟨earlier, draws, now, after, later ++ [request], ?_, approves,
          same⟩
    rw [split, List.append_assoc, List.cons_append]

/-- An approval stores the encrypted password, in its own request only. -/
theorem find?_of_approve
    {tables after : AccountTables services} {actor : Option UserId}
    {requestId : ℕ} {draws : ApprovalDraws} {now : Timestamp}
    (decides :
      decideNow tables actor (.approve requestId draws now) =
        some after)
    {other : ℕ} {request : PasswordResetRequest}
    (found : after.requests.find? other = some request) :
    (other = requestId ∧
        request.temporaryPasswordEncrypted =
          some
            (services.encrypt draws.nonce draws.plainPassword.text)) ∨
      tables.requests.find? other = some request := by
  by_cases own : other = requestId
  · subst own
    rcases exists_approved decides with ⟨userId, approved⟩
    rcases approved.request.request with
      ⟨stored, listed, sameId, _, _, encrypted⟩
    have isStored : after.requests.find? other = some stored :=
      (KeyedTable.find?_eq_some_iff _ _ _).mpr ⟨listed, sameId⟩
    rw [isStored] at found
    cases found
    exact Or.inl ⟨rfl, encrypted⟩
  · rcases Option.bind_eq_some_iff.mp decides with
      ⟨⟨decision, loaded⟩, checked, commits⟩
    rcases find?_of_checkDecision checked with
      ⟨⟨administrator, rfl⟩, isLoaded, _⟩
    have sameId : loaded.id = requestId :=
      ((KeyedTable.find?_eq_some_iff _ _ _).mp isLoaded).2
    rw [(requests_commitDecision commits).1,
      KeyedTable.find?_modify_of_ne _ _ _ (sameId ▸ own)] at found
    exact Or.inr found

theorem storedTemporaryPassword_eq_of_encrypted
    {request : PasswordResetRequest} {nonce : ℕ}
    {plain password : String}
    (encrypted :
      request.temporaryPasswordEncrypted =
        some (services.encrypt nonce plain))
    (stored :
      storedTemporaryPassword services request = some password) :
    plain = password := by
  rw [storedTemporaryPassword, encrypted] at stored
  split_ifs at stored
  rcases Option.bind_eq_some_iff.mp stored with
    ⟨text, kept, decrypted⟩
  have sameText := (Option.filter_eq_some_iff.mp kept).1
  cases sameText
  rw [services.decrypt_encrypt] at decrypted
  exact Option.some.inj decrypted

/-- The password that a request stores was generated by approving it. -/
theorem generatedFor_of_stored
    (tables : AccountTables services) (actor : Option UserId)
    (requests : List TabRequest) {requestId : ℕ}
    {request : PasswordResetRequest} {password : String}
    (found :
      (sessionAfter tables actor requests).tables.requests.find?
        requestId = some request)
    (stored :
      storedTemporaryPassword services request = some password) :
    GeneratedFor tables actor requests requestId password := by
  induction requests using List.reverseRecOn generalizing request with
  | nil => exact Or.inl ⟨request, found, stored⟩
  | append_singleton earlier last induction =>
      rw [sessionAfter_concat] at found
      cases last with
      | «show» shown => exact (induction found stored).concat _
      | approve approved draws now =>
          rw [TabRequest.perform] at found
          cases decides :
              decideNow (sessionAfter tables actor earlier).tables actor
                (.approve approved draws now) with
          | none =>
              rw [decides] at found
              exact (induction found stored).concat _
          | some after =>
              rw [decides] at found
              rcases find?_of_approve decides found with
                ⟨rfl, encrypted⟩ | old
              · exact
                  Or.inr
                    ⟨earlier, draws, now, after, [], rfl, decides,
                      storedTemporaryPassword_eq_of_encrypted encrypted
                        stored⟩
              · exact (induction old stored).concat _

/-- The page shows a password of an approved request, and its own. -/
structure ShowsItsOwn (tables : AccountTables services)
    (actor : Option UserId) (earlier : List TabRequest)
    (requestId : ℕ) : Prop where
  generated :
    ∀ password,
      (sessionAfter tables actor earlier).displayed actor requestId =
          some password →
        GeneratedFor tables actor earlier requestId password
  approved :
    ∀ password,
      (sessionAfter tables actor earlier).displayed actor requestId =
          some password →
        ∃ request,
          (sessionAfter tables actor earlier).tables.requests.find?
              requestId = some request ∧
            request.status = .approved

/-- The page right after an approval that goes through is its own. -/
def Undisturbed (tables : AccountTables services)
    (actor : Option UserId) (requests : List TabRequest) : Prop :=
  ∀ earlier approved draws now after shown later,
    requests =
        earlier ++ .approve approved draws now :: .show shown :: later →
      Approves tables actor earlier approved draws now after →
        shown = approved

/-- What the page of a request displays is flashed or stored. -/
theorem displayed_cases
    {session : AdminSession services} {actor : Option UserId}
    {requestId : ℕ} {password : String}
    (displays :
      session.displayed actor requestId = some password) :
    ∃ request,
      session.tables.requests.find? requestId = some request ∧
        (session.temporaryPassword = some password ∨
          storedTemporaryPassword services request = some password) := by
  rw [AdminSession.displayed] at displays
  cases isShown :
      «show» session.tables actor requestId
        session.temporaryPassword with
  | error error =>
      rw [isShown] at displays
      cases displays
  | ok view =>
      rw [isShown] at displays
      rcases bind_eq_ok_iff.mp isShown with ⟨_, _, rest⟩
      rcases bind_eq_ok_iff.mp rest with ⟨request, isBound, same⟩
      cases same
      refine ⟨request, (bound_eq_ok_iff _ _).mp isBound, ?_⟩
      have kept := (Option.filter_eq_some_iff.mp displays).1
      exact Option.or_eq_some_iff.mp kept |>.imp id fun other => other.2

/--
In every run in which no other page comes between an approval and the page of
its request, each page shows its own password.  A page that does come between
shows the password of the approved request.
-/
theorem each_page_shows_its_own_password
    (tables : AccountTables services) (actor : Option UserId)
    (requests : List TabRequest) :
    (Undisturbed tables actor requests →
      ∀ earlier requestId later,
        requests = earlier ++ .show requestId :: later →
          ShowsItsOwn tables actor earlier requestId) ∧
      ∀ earlier approved draws now after shown view,
        Approves tables actor earlier approved draws now after →
          «show» after actor shown (some draws.plainPassword.text) =
              .ok view →
            (sessionAfter tables actor
                (earlier ++ [.approve approved draws now])).displayed
                actor shown =
              some draws.plainPassword.text := by
  constructor
  · intro undisturbed earlier requestId later split
    have cases (password : String)
        (displays :
          (sessionAfter tables actor earlier).displayed actor
            requestId = some password) :
        GeneratedFor tables actor earlier requestId password ∧
          ∃ request,
            (sessionAfter tables actor earlier).tables.requests.find?
                requestId = some request ∧
              request.status = .approved := by
      rcases displayed_cases displays with
        ⟨request, found, flashed | stored⟩
      · rcases approves_of_flashed flashed with
          ⟨before, approved, draws, now, after, isEarlier, approves,
            sameTables, rfl⟩
        have same : requestId = approved := by
          apply undisturbed before approved draws now after requestId
            later _ approves
          rw [split, isEarlier, List.append_assoc]
          rfl
        subst same
        refine
          ⟨Or.inr
              ⟨before, draws, now, after, [], isEarlier, approves, rfl⟩,
            ?_⟩
        rcases exists_approved approves with ⟨userId, approval⟩
        rcases approval.request.request with
          ⟨row, listed, sameId, _, status, _⟩
        refine ⟨row, ?_, status⟩
        rw [sameTables]
        exact
          (KeyedTable.find?_eq_some_iff _ _ _).mpr ⟨listed, sameId⟩
      · refine
          ⟨generatedFor_of_stored tables actor earlier found stored,
            request, found, ?_⟩
        rw [storedTemporaryPassword] at stored
        split_ifs at stored with status
        exact status
    exact
      { generated := fun password displays =>
          (cases password displays).1
        approved := fun password displays =>
          (cases password displays).2 }
  · intro earlier approved draws now after shown view approves isShown
    rw [Approves] at approves
    rw [AdminSession.displayed, sessionAfter_concat, TabRequest.perform,
      approves]
    dsimp only
    rw [isShown]
    dsimp only
    rcases bind_eq_ok_iff.mp isShown with ⟨_, _, rest⟩
    rcases bind_eq_ok_iff.mp rest with ⟨request, _, same⟩
    cases same
    rw [ShowView.displayed, showView, Option.some_or,
      Option.filter_some, isEmptyText_randomText]
    rfl

/-- A request was declined, and the participant has asked again. -/
def askedAgain : AccountTables sampleServices :=
  [sampleRequest,
    { now := 150, actor := some 1, request := .decline 1 none },
    { now := 180, actor := none
      request :=
        .sendResetLinkEmail (some "participant@example.com")
          "second token" }].foldl accountStep sampleAccounts

/-- Approving the new request, with its page next. -/
theorem each_page_shows_its_own_password_redirect :
    ShowsItsOwn askedAgain (some 1) [.approve 2 sampleDraws 200] 2 := by
  refine
    (each_page_shows_its_own_password askedAgain (some 1)
      [.approve 2 sampleDraws 200, .show 2]).1 ?_
      [.approve 2 sampleDraws 200] 2 [] rfl
  intro earlier approved draws now after shown later split _
  rcases earlier with _ | ⟨first, _ | ⟨second, rest⟩⟩
  · cases split
    rfl
  · cases split
  · have length := congrArg List.length split
    simp at length

/-- The page of the declined request comes first, and shows it. -/
theorem declined_request_shows_a_password :
    let session :=
      sessionAfter askedAgain (some 1) [.approve 2 sampleDraws 200]
    session.displayed (some 1) 1 = some "aB3dE6gH9jK2mN" ∧
      (session.tables.requests.find? 1).map
          PasswordResetRequest.status = some .declined ∧
      ¬ ShowsItsOwn askedAgain (some 1) [.approve 2 sampleDraws 200]
          1 := by
  intro session
  have displays : session.displayed (some 1) 1 =
      some "aB3dE6gH9jK2mN" := by
    decide +kernel
  have declined :
      (session.tables.requests.find? 1).map
        PasswordResetRequest.status = some .declined := by
    decide +kernel
  refine ⟨displays, declined, ?_⟩
  intro own
  rcases own.approved _ displays with ⟨request, found, approved⟩
  rw [found, Option.map_some, approved] at declined
  cases declined

end SultanPass.PasswordResetRequestController
