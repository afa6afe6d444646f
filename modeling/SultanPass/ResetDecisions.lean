import SultanPass.PasswordResetRequestController
import Mathlib.Data.Fin.VecNotation

/-!
# Each reset request is decided once

Any number of `approve` and `decline` calls run next to each other.  Both
load the request and check that it is pending before their transactions, so
two calls can pass the check and decide the same request twice.

`decided_once` gives the condition on the transactions of a run under which
every request is decided at most once, with one notification and with a
password that belongs to its final status.  `decided_twice` is a run in
which an approved request ends up declined.
-/

namespace SultanPass.PasswordResetRequestController

open SultanPass.Library

variable {Index : Type}

/-! ## What the log says about a request -/

/-- The calls that ran their transaction, with the request they loaded. -/
abbrev DecisionLog (Index : Type) :=
  List (Index × PasswordResetRequest)

/-- The transactions on one request. -/
def decisionsOn (id : ℕ) (log : DecisionLog Index) : DecisionLog Index :=
  log.filter fun entry => entry.2.id = id

/-- The account to which a decision writes a password, and its hash. -/
def Decision.passwordWritten (cryptography : Cryptography)
    (loaded : PasswordResetRequest) :
    Decision → Option (UserId × String)
  | .approve approval =>
      some
        (loaded.userId,
          cryptography.make approval.salt approval.plainPassword)
  | .decline _ => none

variable (cryptography : Cryptography) (calls : Index → Decision)

def passwordsWritten (log : DecisionLog Index) : List (UserId × String) :=
  log.filterMap fun entry =>
    (calls entry.1).passwordWritten cryptography entry.2

def notificationsSent (log : DecisionLog Index) : List Notification :=
  log.map fun entry => (calls entry.1).notification entry.2

/-- The password of an account after some writes. -/
def passwordAfter (userId : UserId) (password : String)
    (writes : List (UserId × String)) : String :=
  writes.foldl
    (fun current write => if write.1 = userId then write.2 else current)
    password

/--
A request as it is stored at last, with the passwords written and the
notifications sent for it.
-/
inductive Outcome (before after : PasswordResetRequest)
    (written : List (UserId × String)) (sent : List Notification) :
    Prop where
  | pending (unchanged : after = before) (noPassword : written = [])
      (noNotification : sent = [])
  | approved {plain hashed : String} {notification : Notification}
      (status : after.status = .approved)
      (approvedAt : after.approvedAt ≠ none)
      (declinedAt : after.declinedAt = none)
      (temporaryPassword :
        after.temporaryPasswordEncrypted.bind cryptography.decrypt =
          some plain)
      (onePassword : written = [(before.userId, hashed)])
      (samePassword : cryptography.check plain hashed = true)
      (oneNotification : sent = [notification])
  | declined {notification : Notification}
      (status : after.status = .declined)
      (declinedAt : after.declinedAt ≠ none)
      (noTemporaryPassword : after.temporaryPasswordEncrypted = none)
      (noPassword : written = [])
      (oneNotification : sent = [notification])

/-- What holds of every request after a run from some tables. -/
structure DecidedOnce (tables : ResetTables)
    (parties : Parties Index ResetTables PasswordResetRequest) :
    Prop where
  once : ∀ id, (decisionsOn id parties.log).length ≤ 1
  outcome :
    ∀ id userId email token,
      tables.requests.find? id = some (.create id userId email token) →
      ∃ after,
        parties.shared.requests.find? id = some after ∧
          Outcome cryptography (.create id userId email token) after
            (passwordsWritten cryptography calls
              (decisionsOn id parties.log))
            (notificationsSent calls (decisionsOn id parties.log))
  passwords :
    ∀ userId,
      (parties.shared.users.find? userId).map User.password =
        (tables.users.find? userId).map fun user =>
          passwordAfter userId user.password
            (passwordsWritten cryptography calls parties.log)
  notifications :
    parties.shared.notifications =
      tables.notifications ++ notificationsSent calls parties.log

/-- The two steps of every call. -/
abbrev handlers (index : Index) : Handler ResetTables PasswordResetRequest :=
  handler cryptography (calls index)

/-- A transaction runs while its request is still stored as pending. -/
def StillPending
    (parties : Parties Index ResetTables PasswordResetRequest)
    (index : Index) : Prop :=
  ∀ loaded ∈ (parties.phases index).loaded?,
    (parties.shared.requests.find? loaded.id).map
        PasswordResetRequest.status =
      some .pending

instance (parties : Parties Index ResetTables PasswordResetRequest)
    (index : Index) : Decidable (StillPending parties index) :=
  inferInstanceAs (Decidable (∀ loaded ∈ _, _))

/-! ## One call -/

variable {cryptography calls}

theorem check_eq_ok_iff {decision : Decision} {tables : ResetTables}
    {loaded : PasswordResetRequest} :
    check decision tables = .ok loaded ↔
      tables.requests.find? decision.requestId = some loaded ∧
        loaded.status = .pending ∧ validateNotes decision = .ok () := by
  rw [check]
  cases found : tables.requests.find? decision.requestId with
  | none => simp
  | some stored =>
      dsimp only
      split_ifs with decided
      · constructor
        · nofun
        · rintro ⟨equal, isPending, _⟩
          cases equal
          exact absurd isPending decided
      · cases validated : validateNotes decision with
        | error refusal =>
            constructor
            · nofun
            · rintro ⟨_, _, isOk⟩
              cases isOk
        | ok value =>
            constructor
            · intro equal
              cases equal
              exact ⟨rfl, not_not.mp decided, rfl⟩
            · rintro ⟨equal, _, _⟩
              cases equal
              rfl

theorem load_eq_some_iff {decision : Decision} {tables : ResetTables}
    {loaded : PasswordResetRequest} :
    (handler cryptography decision).load tables = some loaded ↔
      tables.requests.find? decision.requestId = some loaded ∧
        loaded.status = .pending ∧ validateNotes decision = .ok () := by
  rw [← check_eq_ok_iff]
  change (check decision tables).toOption = _ ↔ _
  cases check decision tables <;> simp [Except.toOption]

@[simp]
theorem savedColumn_self {Column : Type} [DecidableEq Column]
    (loaded filled : Column) : savedColumn loaded filled loaded = filled := by
  rw [savedColumn]
  split_ifs with same
  · exact same.symm
  · rfl

/-- A request that is still as it was loaded becomes the filled model. -/
theorem save_fill_self (decision : Decision)
    (loaded : PasswordResetRequest) :
    save loaded (decision.fill cryptography loaded) loaded =
      decision.fill cryptography loaded := by
  cases decision <;> simp [save, Decision.fill]

/-- A decision of a pending request never leaves it pending. -/
theorem status_save_fill {decision : Decision}
    {loaded : PasswordResetRequest} (isPending : loaded.status = .pending)
    (stored : PasswordResetRequest) :
    (save loaded (decision.fill cryptography loaded) stored).status ≠
      .pending := by
  cases decision <;>
    simp [save, Decision.fill, savedColumn, isPending]

/-- What a transaction that does not fail leaves behind. -/
structure Committed (cryptography : Cryptography) (decision : Decision)
    (loaded : PasswordResetRequest) (tables after : ResetTables) :
    Prop where
  requests :
    after.requests =
      tables.requests.modify loaded.id
        (save loaded (decision.fill cryptography loaded))
        (id_save loaded _)
  notifications :
    after.notifications =
      tables.notifications ++ [decision.notification loaded]
  passwords :
    ∀ userId,
      (after.users.find? userId).map User.password =
        (tables.users.find? userId).map fun user =>
          passwordAfter userId user.password
            (decision.passwordWritten cryptography loaded).toList

theorem passwords_savePassword (approval : Approval) {user : User}
    {tables : ResetTables} {userId : UserId}
    (found : tables.users.find? userId = some user) (other : UserId) :
    ((savePassword cryptography approval user tables).users.find?
        other).map User.password =
      (tables.users.find? other).map fun stored =>
        passwordAfter other stored.password
          [(userId,
            cryptography.make approval.salt approval.plainPassword)] := by
  have own : user.id = userId :=
    ((tables.users.find?_eq_some_iff userId user).mp found).2
  subst own
  rw [savePassword]
  by_cases same : other = user.id
  · subst same
    rw [KeyedTable.find?_modify_self, Option.map_map]
    apply congrArg (fun change => Option.map change _)
    funext stored
    simp [passwordAfter]
  · rw [KeyedTable.find?_modify_of_ne _ _ _ same]
    apply congrArg (fun change => Option.map change _)
    funext stored
    simp [passwordAfter, Ne.symm same]

theorem committed_of_transaction {decision : Decision}
    {loaded : PasswordResetRequest} {tables after : ResetTables}
    (commits :
      transaction cryptography decision loaded tables = some after) :
    Committed cryptography decision loaded tables after := by
  cases decision with
  | approve approval =>
      rcases Option.map_eq_some_iff.mp commits with ⟨user, found, rfl⟩
      exact
        { requests := rfl
          notifications := rfl
          passwords := passwords_savePassword approval found }
  | decline declination =>
      injection commits with equal
      subst equal
      exact
        { requests := rfl
          notifications := rfl
          passwords := fun _ => rfl }

theorem find?_after {decision : Decision}
    {loaded : PasswordResetRequest} {tables after : ResetTables}
    (committed : Committed cryptography decision loaded tables after)
    (id : ℕ) :
    after.requests.find? id =
      if id = loaded.id then
        (tables.requests.find? id).map
          (save loaded (decision.fill cryptography loaded))
      else
        tables.requests.find? id := by
  rw [committed.requests]
  split_ifs with own
  · rw [own, KeyedTable.find?_modify_self]
  · exact KeyedTable.find?_modify_of_ne _ _ _ own

/-! ## A pending request is as it was loaded -/

/--
A call holds the pending request that it loaded, and while that is pending
it is stored unchanged.
-/
structure Holds (decision : Decision) (tables : ResetTables)
    (loaded : PasswordResetRequest) : Prop where
  id : loaded.id = decision.requestId
  isPending : loaded.status = .pending
  valid : validateNotes decision = .ok ()
  unchanged :
    ∀ stored, tables.requests.find? loaded.id = some stored →
      stored.status = .pending → stored = loaded

def AllHold (calls : Index → Decision)
    (parties : Parties Index ResetTables PasswordResetRequest) : Prop :=
  ∀ index loaded, parties.phases index = .loaded loaded →
    Holds (calls index) parties.shared loaded

theorem holds_of_load {decision : Decision} {tables : ResetTables}
    {loaded : PasswordResetRequest}
    (loads :
      (handler cryptography decision).load tables = some loaded) :
    Holds decision tables loaded := by
  rcases load_eq_some_iff.mp loads with ⟨found, isPending, valid⟩
  have sameId :=
    ((tables.requests.find?_eq_some_iff _ _).mp found).2
  refine
    { id := sameId
      isPending := isPending
      valid := valid
      unchanged := ?_ }
  intro stored isStored _
  rw [sameId, found] at isStored
  injection isStored with same
  exact same.symm

/-- A decision leaves the requests that are still pending unchanged. -/
theorem Holds.after {decision other : Decision}
    {tables after : ResetTables} {loaded own : PasswordResetRequest}
    (holds : Holds other tables own)
    (isPending : loaded.status = .pending)
    (committed : Committed cryptography decision loaded tables after) :
    Holds other after own := by
  refine { holds with unchanged := ?_ }
  intro stored isStored storedPending
  rw [find?_after committed] at isStored
  split_ifs at isStored with same
  · rcases Option.map_eq_some_iff.mp isStored with ⟨before, _, rfl⟩
    exact absurd storedPending (status_save_fill isPending before)
  · exact holds.unchanged stored isStored storedPending

/-- What is still pending would be loaded again. -/
theorem AllHold.current
    {parties : Parties Index ResetTables PasswordResetRequest}
    (allHold : AllHold calls parties) {index : Index}
    (pending : StillPending parties index) :
    Parties.Current (handlers cryptography calls) parties index := by
  intro loaded isLoaded
  have holds :=
    allHold index loaded (Progress.mem_loaded?_iff.mp isLoaded)
  rcases Option.map_eq_some_iff.mp (pending loaded isLoaded) with
    ⟨stored, isStored, isPending⟩
  have same := holds.unchanged stored isStored isPending
  subst same
  apply load_eq_some_iff.mpr
  rw [← holds.id]
  exact ⟨isStored, isPending, holds.valid⟩

/-! ## Serial decisions -/

@[simp]
theorem decisionsOn_append (id : ℕ) (left right : DecisionLog Index) :
    decisionsOn id (left ++ right) =
      decisionsOn id left ++ decisionsOn id right :=
  List.filter_append ..

@[simp]
theorem passwordsWritten_append (left right : DecisionLog Index) :
    passwordsWritten cryptography calls (left ++ right) =
      passwordsWritten cryptography calls left ++
        passwordsWritten cryptography calls right :=
  List.filterMap_append ..

@[simp]
theorem notificationsSent_append (left right : DecisionLog Index) :
    notificationsSent calls (left ++ right) =
      notificationsSent calls left ++ notificationsSent calls right :=
  List.map_append ..

theorem passwordsWritten_singleton (index : Index)
    (loaded : PasswordResetRequest) :
    passwordsWritten cryptography calls [(index, loaded)] =
      ((calls index).passwordWritten cryptography loaded).toList := by
  rw [passwordsWritten, List.filterMap_cons]
  cases (calls index).passwordWritten cryptography loaded <;> rfl

theorem passwordAfter_append (userId : UserId) (password : String)
    (left right : List (UserId × String)) :
    passwordAfter userId password (left ++ right) =
      passwordAfter userId (passwordAfter userId password left) right :=
  List.foldl_append

/-- A request is untouched, or decided by the one call on it. -/
def Settled (cryptography : Cryptography) (calls : Index → Decision)
    (id : ℕ) (tables : ResetTables) (log : DecisionLog Index)
    (shared : ResetTables) : Prop :=
  (decisionsOn id log = [] ∧
      shared.requests.find? id = tables.requests.find? id) ∨
    ∃ index before,
      decisionsOn id log = [(index, before)] ∧
        tables.requests.find? id = some before ∧
        before.status = .pending ∧
        shared.requests.find? id =
          some ((calls index).fill cryptography before)

theorem status_fill_ne_pending (decision : Decision)
    (before : PasswordResetRequest) :
    (decision.fill cryptography before).status ≠ .pending := by
  cases decision <;> nofun

theorem Settled.act {id : ℕ} {tables shared after : ResetTables}
    {log : DecisionLog Index} {index : Index}
    {loaded : PasswordResetRequest}
    (settled : Settled cryptography calls id tables log shared)
    (loads :
      (handlers cryptography calls index).load shared = some loaded)
    (committed :
      Committed cryptography (calls index) loaded shared after) :
    Settled cryptography calls id tables (log ++ [(index, loaded)])
      after := by
  rcases load_eq_some_iff.mp loads with ⟨found, isPending, _⟩
  have own :=
    ((shared.requests.find?_eq_some_iff _ _).mp found).2
  rw [← own] at found
  rw [Settled, decisionsOn_append, find?_after committed]
  by_cases same : id = loaded.id
  · subst same
    have isOwn :
        decisionsOn loaded.id [(index, loaded)] = [(index, loaded)] := by
      simp [decisionsOn]
    rw [if_pos rfl, found, isOwn, Option.map_some, save_fill_self]
    rcases settled with ⟨none, unchanged⟩ | ⟨_, _, _, _, _, decided⟩
    · apply Or.inr
      rw [none, ← unchanged, found]
      exact ⟨index, loaded, rfl, rfl, isPending, rfl⟩
    · rw [found] at decided
      injection decided with decided
      rw [decided] at isPending
      exact absurd isPending (status_fill_ne_pending _ _)
  · have isOther : decisionsOn id [(index, loaded)] = [] := by
      simp [decisionsOn, Ne.symm same]
    rw [if_neg same, isOther, List.append_nil]
    exact settled

/-- What serial decisions leave behind, for the requests and the rest. -/
structure Accounted (cryptography : Cryptography)
    (calls : Index → Decision) (tables : ResetTables)
    (log : DecisionLog Index) (shared : ResetTables) : Prop where
  requests : ∀ id, Settled cryptography calls id tables log shared
  passwords :
    ∀ userId,
      (shared.users.find? userId).map User.password =
        (tables.users.find? userId).map fun user =>
          passwordAfter userId user.password
            (passwordsWritten cryptography calls log)
  notifications :
    shared.notifications =
      tables.notifications ++ notificationsSent calls log

theorem accounted_of_serial {tables shared : ResetTables}
    {log : DecisionLog Index}
    (serial :
      Parties.Serial (handlers cryptography calls) tables log shared) :
    Accounted cryptography calls tables log shared := by
  induction serial with
  | start =>
      exact
        { requests := fun _ => Or.inl ⟨rfl, rfl⟩
          passwords := fun _ => rfl
          notifications := (List.append_nil _).symm }
  | @act log shared after index loaded before loads acts accounted =>
      have committed := committed_of_transaction acts
      constructor
      · intro id
        exact (accounted.requests id).act loads committed
      · intro userId
        have composed := congrArg
          (Option.map fun password =>
            passwordAfter userId password
              ((calls index).passwordWritten cryptography loaded).toList)
          (accounted.passwords userId)
        rw [Option.map_map, Option.map_map] at composed
        rw [committed.passwords, passwordsWritten_append,
          passwordsWritten_singleton]
        simp only [passwordAfter_append]
        exact composed
      · rw [committed.notifications, accounted.notifications,
          notificationsSent_append, List.append_assoc]
        rfl

/-- The one decision of a request gives it the outcome it should have. -/
theorem outcome_of_settled {id : ℕ} {userId : UserId}
    {email token : String} {tables shared : ResetTables}
    {log : DecisionLog Index}
    (settled : Settled cryptography calls id tables log shared)
    (created :
      tables.requests.find? id = some (.create id userId email token)) :
    ∃ after,
      shared.requests.find? id = some after ∧
        Outcome cryptography (.create id userId email token) after
          (passwordsWritten cryptography calls (decisionsOn id log))
          (notificationsSent calls (decisionsOn id log)) := by
  rcases settled with
    ⟨none, unchanged⟩ | ⟨index, before, one, stored, _, decided⟩
  · rw [none, unchanged]
    exact ⟨_, created, .pending rfl rfl rfl⟩
  · rw [created] at stored
    injection stored with same
    subst same
    refine ⟨_, decided, ?_⟩
    rw [one, passwordsWritten_singleton]
    cases call : calls index with
    | approve approval =>
        exact
          .approved rfl nofun rfl (cryptography.decrypt_encrypt _ _) rfl
            (cryptography.check_make _ _) rfl
    | decline declination => exact .declined rfl nofun rfl rfl rfl

/-! ## Runs -/

variable [DecidableEq Index]

theorem AllHold.step
    {parties : Parties Index ResetTables PasswordResetRequest}
    (allHold : AllHold calls parties) (index : Index) :
    AllHold calls
      (parties.step (handlers cryptography calls) index) := by
  rcases parties.step_cases index with
    ⟨sameState, _, phases⟩ | ⟨loaded, shared, isLoaded, acts, after⟩
  · intro other own isOwn
    rw [sameState]
    rcases phases other own isOwn with old | ⟨rfl, loads⟩
    · exact allHold other own old
    · exact holds_of_load loads
  · intro other own isOwn
    rw [after] at isOwn ⊢
    by_cases same : other = index
    · subst same
      change Function.update _ _ _ _ = _ at isOwn
      rw [Function.update_self] at isOwn
      cases isOwn
    · change Function.update _ _ _ _ = _ at isOwn
      rw [Function.update_of_ne same] at isOwn
      exact
        (allHold other own isOwn).after
          (allHold index loaded isLoaded).isPending
          (committed_of_transaction acts)

theorem serial_of_stillPending {tables : ResetTables}
    {schedule : List Index}
    (pending :
      Throughout (Parties.step (handlers cryptography calls)) StillPending
        (Parties.start tables) schedule) :
    Parties.Serial (handlers cryptography calls) tables
      ((Parties.start tables).run (handlers cryptography calls)
        schedule).log
      ((Parties.start tables).run (handlers cryptography calls)
        schedule).shared := by
  apply Parties.serial_of_current
  exact
    Throughout.imp (motive := AllHold calls)
      (fun _ index allHold _ => allHold.step index)
      (fun _ _ allHold isPending => allHold.current isPending)
      (fun _ _ isLoaded => nomatch isLoaded) pending

/--
When every transaction of a run finds its request still pending, every
request is decided at most once, and has the outcome of its decision.
-/
theorem decided_once (cryptography : Cryptography)
    (calls : Index → Decision) (tables : ResetTables)
    (schedule : List Index)
    (pending :
      Throughout (Parties.step (handlers cryptography calls)) StillPending
        (Parties.start tables) schedule) :
    DecidedOnce cryptography calls tables
      ((Parties.start tables).run (handlers cryptography calls)
        schedule) := by
  have accounted :=
    accounted_of_serial (serial_of_stillPending pending)
  exact
    { once := by
        intro id
        rcases accounted.requests id with
          ⟨none, _⟩ | ⟨index, before, one, _⟩
        · rw [none]
          exact Nat.zero_le 1
        · rw [one]
          exact le_rfl
      outcome := fun id userId email token created =>
        outcome_of_settled (accounted.requests id) created
      passwords := accounted.passwords
      notifications := accounted.notifications }

/-- Hashes with their salt in front of the password, and plain secrets. -/
def sampleCryptography : Cryptography where
  make := fun salt plain => salt.repr ++ plain
  check := fun plain hashed => plain.toList.isSuffixOf hashed.toList
  encrypt := fun _ plain => plain
  decrypt := some
  needsRehash := fun _ => false
  check_make := by
    intro salt plain
    rw [String.toList_append, List.isSuffixOf_iff_suffix]
    exact List.suffix_append _ _
  decrypt_encrypt := fun _ _ => rfl

/-- Two users with one new request each. -/
def sampleTables : ResetTables where
  users :=
    { rows := [⟨1, "first", none⟩, ⟨2, "second", none⟩]
      distinct := by decide }
  requests :=
    { rows :=
        [.create 1 1 "first@example.com" "a",
          .create 2 2 "second@example.com" "b"]
      distinct := by decide }
  notifications := []

/-- Calls of an administrator: one approval and two refusals. -/
def sampleCalls : Fin 3 → Decision :=
  ![.approve ⟨1, 9, "secret", 5, "remember", 6, 100⟩,
    .decline ⟨1, some "Ask in person.", 101⟩, .decline ⟨2, none, 102⟩]

/-- The first request is loaded for the refusal only after its approval. -/
theorem decided_once_inTurn :
    DecidedOnce sampleCryptography sampleCalls sampleTables
      ((Parties.start sampleTables).run
        (handlers sampleCryptography sampleCalls) [0, 2, 0, 1, 2, 1]) :=
  decided_once sampleCryptography sampleCalls sampleTables
    [0, 2, 0, 1, 2, 1] (by decide)

/--
Both calls load the first request before either decides it: its user gets a
new password and two notifications, and the request ends up declined.
-/
theorem decided_twice :
    let parties :=
      (Parties.start sampleTables).run
        (handlers sampleCryptography sampleCalls) [0, 1, 0, 1]
    (parties.shared.requests.find? 1).map
        (fun request =>
          (request.status, request.temporaryPasswordEncrypted)) =
        some (.declined, some "secret") ∧
      parties.shared.notifications.length = 2 ∧
      ¬ DecidedOnce sampleCryptography sampleCalls sampleTables
        parties := by
  refine ⟨by decide, by decide, ?_⟩
  intro decided
  exact absurd (decided.once 1) (by decide)

end SultanPass.PasswordResetRequestController
