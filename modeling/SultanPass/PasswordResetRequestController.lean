import SultanPass.Library.Calendar
import SultanPass.Library.KeyedTable
import SultanPass.Library.LoadThenAct
import SultanPass.Schema

/-!
# `PasswordResetRequestController::approve` and `decline`

An administrator decides a password reset request.  The request is loaded
and its status checked before the transaction, without a lock; the
transaction then saves the loaded model, which writes only the columns that
differ from what was loaded, and creates one notification.

`Hash` and `Crypt` of the framework are a `Cryptography`, with their random
input as an argument.
-/

namespace SultanPass

open SultanPass.Library

/-! ## Rows -/

inductive PasswordResetStatus where
  | pending
  | approved
  | declined
deriving DecidableEq, Repr

structure PasswordResetRequest where
  id : ℕ
  userId : UserId
  email : String
  status : PasswordResetStatus
  token : String
  approvedBy : Option UserId
  approvedAt : Option Timestamp
  declinedAt : Option Timestamp
  temporaryPasswordEncrypted : Option String
  temporaryPasswordExpiresAt : Option Timestamp
  notes : Option String
deriving DecidableEq, Repr

/-- `PasswordResetRequest::create`, with the defaults of the columns. -/
def PasswordResetRequest.create (id : ℕ) (userId : UserId)
    (email token : String) : PasswordResetRequest where
  id := id
  userId := userId
  email := email
  status := .pending
  token := token
  approvedBy := none
  approvedAt := none
  declinedAt := none
  temporaryPasswordEncrypted := none
  temporaryPasswordExpiresAt := none
  notes := none

structure User where
  id : UserId
  password : String
  rememberToken : Option String
deriving DecidableEq, Repr

inductive NotificationType where
  | assessment
  | plan
  | deadline
  | alert
  | passwordReset
deriving DecidableEq, Repr

structure Notification where
  userId : UserId
  message : String
  notificationType : NotificationType
  sentAt : Timestamp
  isRead : Bool
deriving DecidableEq, Repr

/-- `Notification::create`. -/
def Notification.create (userId : UserId) (message : String)
    (notificationType : NotificationType) (sentAt : Timestamp) :
    Notification where
  userId := userId
  message := message
  notificationType := notificationType
  sentAt := sentAt
  isRead := false

/-- The tables that a decision reads and writes. -/
structure ResetTables where
  users : KeyedTable User.id
  requests : KeyedTable PasswordResetRequest.id
  notifications : List Notification

/-- Password hashing and encryption. -/
structure Cryptography where
  make : (salt : ℕ) → (plain : String) → String
  check : (plain hashed : String) → Bool
  needsRehash : (hashed : String) → Bool
  encrypt : (nonce : ℕ) → (plain : String) → String
  decrypt : String → Option String
  check_make : ∀ salt plain, check plain (make salt plain) = true
  decrypt_encrypt : ∀ nonce plain, decrypt (encrypt nonce plain) = some plain

namespace PasswordResetRequestController

/-! ## Calls -/

/-- A call of `approve`, with the time and the random texts it draws. -/
structure Approval where
  requestId : ℕ
  administrator : UserId
  plainPassword : String
  salt : ℕ
  rememberToken : String
  nonce : ℕ
  now : Timestamp
deriving DecidableEq, Repr

/-- A call of `decline`. -/
structure Declination where
  requestId : ℕ
  notes : Option String
  now : Timestamp
deriving DecidableEq, Repr

inductive Decision where
  | approve (approval : Approval)
  | decline (declination : Declination)
deriving DecidableEq, Repr

def Decision.requestId : Decision → ℕ
  | .approve approval => approval.requestId
  | .decline declination => declination.requestId

/-- How a call ends without a transaction. -/
inductive Refusal where
  | notFound
  | withErrors (field message : String)
deriving DecidableEq, Repr

def alreadyProcessed : Refusal :=
  .withErrors "status"
    "This password reset request has already been processed."

/-- The rule `nullable|string|max:500` of `decline`. -/
def validateNotes : Decision → Except Refusal Unit
  | .approve _ => .ok ()
  | .decline declination =>
      if (declination.notes.getD "").length ≤ 500 then .ok ()
      else
        .error
          (.withErrors "notes"
            "The notes field must not be greater than 500 characters.")

/-- Load the request, check its status and validate the input. -/
def check (decision : Decision) (tables : ResetTables) :
    Except Refusal PasswordResetRequest :=
  match tables.requests.find? decision.requestId with
  | none => .error .notFound
  | some passwordResetRequest =>
      if passwordResetRequest.status ≠ .pending then
        .error alreadyProcessed
      else do
        validateNotes decision
        return passwordResetRequest

/-! ## Transactions -/

/-- A column after `save()`: it is written when it differs from the load. -/
def savedColumn {Column : Type} [DecidableEq Column]
    (loaded filled stored : Column) : Column :=
  if filled = loaded then stored else filled

/-- The stored row after `save()` of a loaded model with filled columns. -/
def save (loaded filled stored : PasswordResetRequest) :
    PasswordResetRequest :=
  { stored with
    status := savedColumn loaded.status filled.status stored.status
    approvedBy :=
      savedColumn loaded.approvedBy filled.approvedBy stored.approvedBy
    approvedAt :=
      savedColumn loaded.approvedAt filled.approvedAt stored.approvedAt
    declinedAt :=
      savedColumn loaded.declinedAt filled.declinedAt stored.declinedAt
    temporaryPasswordEncrypted :=
      savedColumn loaded.temporaryPasswordEncrypted
        filled.temporaryPasswordEncrypted stored.temporaryPasswordEncrypted
    temporaryPasswordExpiresAt :=
      savedColumn loaded.temporaryPasswordExpiresAt
        filled.temporaryPasswordExpiresAt stored.temporaryPasswordExpiresAt
    notes := savedColumn loaded.notes filled.notes stored.notes }

theorem id_save (loaded filled stored : PasswordResetRequest) :
    (save loaded filled stored).id = stored.id :=
  rfl

/-- The model that a decision fills. -/
def Decision.fill (cryptography : Cryptography)
    (loaded : PasswordResetRequest) : Decision → PasswordResetRequest
  | .approve approval =>
      { loaded with
        status := .approved
        approvedBy := some approval.administrator
        approvedAt := some approval.now
        temporaryPasswordEncrypted :=
          some (cryptography.encrypt approval.nonce approval.plainPassword)
        temporaryPasswordExpiresAt :=
          some (approval.now + Calendar.secondsPerDay) }
  | .decline declination =>
      { loaded with
        status := .declined
        declinedAt := some declination.now
        notes := declination.notes }

/-- The notification that a decision creates. -/
def Decision.notification (loaded : PasswordResetRequest) :
    Decision → Notification
  | .approve approval =>
      Notification.create loaded.userId
        ("Your password reset request has been approved. Please contact " ++
          "your administrator to obtain your temporary password.")
        .passwordReset approval.now
  | .decline declination =>
      Notification.create loaded.userId
        ("Your password reset request was declined. Please contact your " ++
          "administrator for further assistance.")
        .passwordReset declination.now

/-- Save the request and create the notification. -/
def saveAndNotify (cryptography : Cryptography) (decision : Decision)
    (loaded : PasswordResetRequest) (tables : ResetTables) :
    ResetTables :=
  { tables with
    requests :=
      tables.requests.modify loaded.id
        (save loaded (decision.fill cryptography loaded))
        (id_save loaded _)
    notifications :=
      tables.notifications ++ [decision.notification loaded] }

/-- `$user->forceFill(…)->save()` in `approve`. -/
def savePassword (cryptography : Cryptography) (approval : Approval)
    (user : User) (tables : ResetTables) : ResetTables :=
  { tables with
    users :=
      tables.users.modify user.id
        (fun stored =>
          { stored with
            password :=
              cryptography.make approval.salt approval.plainPassword
            rememberToken := some approval.rememberToken })
        fun _ => rfl }

/--
The transaction of a decision.  It fails when the user of an approved
request does not exist.
-/
def transaction (cryptography : Cryptography) (decision : Decision)
    (loaded : PasswordResetRequest) (tables : ResetTables) :
    Option ResetTables :=
  match decision with
  | .approve approval =>
      (tables.users.find? loaded.userId).map fun user =>
        saveAndNotify cryptography decision loaded
          (savePassword cryptography approval user tables)
  | .decline _ => some (saveAndNotify cryptography decision loaded tables)

/-- The two steps of a call. -/
def handler (cryptography : Cryptography) (decision : Decision) :
    Handler ResetTables PasswordResetRequest where
  load := fun tables => (check decision tables).toOption
  act := transaction cryptography decision

end PasswordResetRequestController

end SultanPass
