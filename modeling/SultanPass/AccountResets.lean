import SultanPass.AuthController
import SultanPass.ResetDecisions

/-!
# Password reset requests over the account tables

`approve`, `decline` and `show` of `PasswordResetRequestController` behind
their route.  The transaction of a decision works on a part of the account
tables: the credentials of the users, the requests and the notifications.
-/

namespace SultanPass

open SultanPass.Library

variable {services : Services}

/-! ## The part that decisions work on -/

/-- The tables as a decision reads and writes them. -/
def AccountTables.resetTables (tables : AccountTables services) :
    ResetTables where
  users :=
    { rows := tables.users.rows.map UserAccount.toUser
      distinct := by
        rw [List.map_map]
        exact tables.users.keys }
  requests := tables.requests
  notifications := tables.notifications

theorem find?_resetTables_users (tables : AccountTables services)
    (userId : UserId) :
    tables.resetTables.users.find? userId =
      (tables.users.find? userId).map UserAccount.toUser := by
  unfold KeyedTable.find? IndexedTable.find? AccountTables.resetTables
  rw [List.find?_map]
  rfl

theorem id_getD_find? (requests : KeyedTable PasswordResetRequest.id)
    (request : PasswordResetRequest) :
    ((requests.find? request.id).getD request).id = request.id := by
  cases found : requests.find? request.id with
  | none => rfl
  | some other =>
      exact ((KeyedTable.find?_eq_some_iff _ _ _).mp found).2

/-- The credentials, requests and notifications that a decision leaves. -/
def AccountTables.withReset (tables : AccountTables services)
    (reset : ResetTables) : AccountTables services :=
  { tables.withCredentials
      (fun user =>
        ((reset.users.find? user.id).getD user.toUser).password)
      fun user =>
        ((reset.users.find? user.id).getD user.toUser).rememberToken with
    requests :=
      tables.requests.refresh
        (fun request => (reset.requests.find? request.id).getD request)
        (id_getD_find? reset.requests)
    nextRequestId := tables.nextRequestId
    requestsBelow := by
      intro request member
      rcases List.mem_map.mp member with ⟨old, isOld, rfl⟩
      rw [id_getD_find?]
      exact tables.requestsBelow old isOld
    notifications := reset.notifications }

namespace PasswordResetRequestController

/-! ## Decisions -/

/-- What `approve` draws. -/
structure ApprovalDraws where
  plainPassword : RandomText 14
  salt : ℕ
  rememberToken : RandomText 60
  nonce : ℕ

/-- A call of `approve` or `decline`. -/
inductive DecisionInput where
  | approve (requestId : ℕ) (draws : ApprovalDraws) (now : Timestamp)
  | decline (requestId : ℕ) (notes : Option String) (now : Timestamp)

/-- The decision of an administrator. -/
def DecisionInput.decision (administrator : UserId) :
    DecisionInput → Decision
  | .approve requestId draws now =>
      .approve
        { requestId := requestId
          administrator := administrator
          plainPassword := draws.plainPassword.text
          salt := draws.salt
          rememberToken := draws.rememberToken.text
          nonce := draws.nonce
          now := now }
  | .decline requestId notes now =>
      .decline { requestId := requestId, notes := notes, now := now }

/-- The middleware `auth` and `role:admin` of the route. -/
def routeAdministrator (tables : AccountTables services)
    (actor : Option UserId) : Except Interruption UserAccount := do
  let user ← authenticate tables actor
  EnsureRole.handle (some user) [.admin]
  return user

/-- The first half of a decision: the route and the check. -/
def checkDecision (tables : AccountTables services)
    (actor : Option UserId) (input : DecisionInput) :
    Option (Decision × PasswordResetRequest) := do
  let administrator ← (routeAdministrator tables actor).toOption
  let decision := input.decision administrator.id
  let loaded ← (check decision tables.resetTables).toOption
  return (decision, loaded)

/-- The second half of a decision: its transaction. -/
def commitDecision (decision : Decision) (loaded : PasswordResetRequest)
    (tables : AccountTables services) : Option (AccountTables services) :=
  (transaction services.toCryptography decision loaded
    tables.resetTables).map tables.withReset

/-! ## `show` -/

/-- The data of the view. -/
structure ShowView where
  requestRecord : PasswordResetRequest
  temporaryPassword : Option String
deriving DecidableEq, Repr

/-- `$temporaryPassword` as `show` decrypts it. -/
def storedTemporaryPassword (services : Services)
    (request : PasswordResetRequest) : Option String :=
  if request.status = .approved then
    (request.temporaryPasswordEncrypted.filter fun text =>
      !AssessmentController.isEmptyText text).bind services.decrypt
  else none

/-- `flashed` is the key `temporary_password` of the viewer's session. -/
def showView (services : Services) (request : PasswordResetRequest)
    (flashed : Option String) : ShowView where
  requestRecord := request
  temporaryPassword :=
    flashed.or (storedTemporaryPassword services request)

def «show» (tables : AccountTables services) (actor : Option UserId)
    (requestId : ℕ) (flashed : Option String) :
    Except Interruption ShowView := do
  let _ ← routeAdministrator tables actor
  let request ← bound (tables.requests.find? requestId)
  return showView services request flashed

/-- What the page shows of the temporary password, `@if`. -/
def ShowView.displayed (view : ShowView) : Option String :=
  view.temporaryPassword.filter fun text =>
    !AssessmentController.isEmptyText text

/-! ## What a decision changes -/

/-- A decision leaves the requests and notifications of its transaction. -/
theorem requests_commitDecision
    {decision : Decision} {loaded : PasswordResetRequest}
    {tables after : AccountTables services}
    (decides : commitDecision decision loaded tables = some after) :
    after.requests =
        tables.requests.modify loaded.id
          (save loaded
            (decision.fill services.toCryptography loaded))
          (id_save loaded _) ∧
      after.notifications =
        tables.notifications ++ [decision.notification loaded] := by
  rcases Option.map_eq_some_iff.mp decides with ⟨reset, acts, rfl⟩
  have committed := committed_of_transaction acts
  refine ⟨?_, committed.notifications⟩
  rw [← KeyedTable.refresh_find?_modify tables.requests loaded.id
    (save loaded (decision.fill services.toCryptography loaded))
    (id_save loaded _) (id_getD_find? _)]
  unfold AccountTables.withReset
  simp only [committed.requests]
  rfl

/-- The approved user is stored with the hash of the new password. -/
theorem password_commitDecision
    {approval : Approval} {loaded : PasswordResetRequest}
    {tables after : AccountTables services}
    (decides :
      commitDecision (.approve approval) loaded tables = some after) :
    ∃ user ∈ after.users.rows,
      user.id = loaded.userId ∧
        user.password =
          services.make approval.salt approval.plainPassword := by
  rcases Option.map_eq_some_iff.mp decides with ⟨reset, acts, rfl⟩
  have committed := committed_of_transaction acts
  rcases Option.map_eq_some_iff.mp acts with ⟨stored, found, _⟩
  rw [find?_resetTables_users] at found
  rcases Option.map_eq_some_iff.mp found with ⟨user, isUser, rfl⟩
  rcases (IndexedTable.find?_eq_some_iff _ _ _).mp isUser with
    ⟨member, own⟩
  have written := committed.passwords user.id
  rw [find?_resetTables_users, tables.users.find?_key member] at written
  cases after : reset.users.find? user.id with
  | none =>
      rw [after] at written
      cases written
  | some credentials =>
      rw [after] at written
      refine ⟨_, List.mem_map_of_mem member, own, ?_⟩
      dsimp only
      rw [after]
      refine (Option.some.inj written).trans ?_
      simp [Decision.passwordWritten, passwordAfter, own]

end PasswordResetRequestController

end SultanPass
