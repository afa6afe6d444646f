import SultanPass.AccountResets
import SultanPass.Library.FailingWrites

/-!
# Reset requests with a throwing write

`sendResetLinkEmail` inserts the request and then one notification for each
other administrator, and no transaction surrounds these writes.  When the
notification of some administrator throws, the user gets an error, and the
request stays; it is pending, so the next attempt is refused
(`resetLink_undone_iff`).

`approve` and `decline` write in a transaction, and a throwing write of
theirs leaves nothing (`decision_undone`).
-/

namespace SultanPass.AuthController

open SultanPass.Library

variable {services : Services}

/-! ## The writes -/

inductive ResetLinkStatement where
  | insertRequest (userId : UserId) (email token : String)
  | insertNotification (notification : Notification)
deriving DecidableEq, Repr

theorem distinct_insertRequest
    (tables : AccountTables services) (userId : UserId)
    (email token : String) :
    ((tables.requests.rows ++
        [PasswordResetRequest.create tables.nextRequestId userId email
          token]).map PasswordResetRequest.id).Nodup := by
  rw [List.map_append, List.map_singleton, ← List.concat_eq_append]
  apply tables.requests.distinct.concat
  intro taken
  rcases List.mem_map.mp taken with ⟨other, member, same⟩
  exact Nat.ne_of_lt (tables.requestsBelow other member) same

theorem below_insertRequest
    (tables : AccountTables services) (userId : UserId)
    (email token : String) :
    ∀ request ∈
        tables.requests.rows ++
          [PasswordResetRequest.create tables.nextRequestId userId email
            token],
      request.id < tables.nextRequestId + 1 := by
  intro request member
  rcases List.mem_append.mp member with old | isNew
  · exact
      Nat.lt_trans (tables.requestsBelow request old)
        (Nat.lt_succ_self _)
  · rw [List.mem_singleton.mp isNew]
    exact Nat.lt_succ_self _

/-- `PasswordResetRequest::create` in the table. -/
def insertRequest (tables : AccountTables services) (userId : UserId)
    (email token : String) : AccountTables services :=
  { tables with
    requests :=
      { rows :=
          tables.requests.rows ++
            [PasswordResetRequest.create tables.nextRequestId userId
              email token]
        distinct := distinct_insertRequest tables userId email token }
    nextRequestId := tables.nextRequestId + 1
    requestsBelow := below_insertRequest tables userId email token }

/-- `Notification::create` in the table. -/
def insertNotification (tables : AccountTables services)
    (notification : Notification) : AccountTables services :=
  { tables with
    notifications := tables.notifications ++ [notification] }

instance : Store (AccountTables services) ResetLinkStatement where
  perform
    | .insertRequest userId email token, tables =>
        insertRequest tables userId email token
    | .insertNotification notification, tables =>
        insertNotification tables notification
  sameRow _ _ := false

/-! ## The request as a program -/

/-- The user exists and the token is new. -/
def Insertable (tables : AccountTables services) (user : UserAccount)
    (draws : ResetLinkDraws) : Prop :=
  ((tables.users.find? user.id).isNone ||
    tables.requests.rows.any fun request =>
      request.token = draws.token) = false

instance (tables : AccountTables services) (user : UserAccount)
    (draws : ResetLinkDraws) :
    Decidable (Insertable tables user draws) :=
  inferInstanceAs (Decidable (_ = false))

/-- The second half of `sendResetLinkEmail`. -/
def storeResetLink (services : Services) (user : UserAccount)
    (draws : ResetLinkDraws) :
    Program (AccountTables services) ResetLinkStatement Interruption
      RedirectResponse := do
  let insertable ← Program.query fun tables : AccountTables services =>
    decide (Insertable tables user draws)
  Program.ofExcept
    (if insertable then .ok () else .error (.error .queryException))
  Program.execute (.insertRequest user.id user.email draws.token)
  let notifications ←
    Program.query fun tables : AccountTables services =>
      adminNotifications tables user draws.now
  Program.forEach
    (fun notification =>
      Program.execute (.insertNotification notification))
    notifications
  return backWithStatus requestSent

/-- `sendResetLinkEmail`, statement by statement. -/
def resetLinkProgram (services : Services) (actor : Option UserId)
    (input : Option String) (draws : ResetLinkDraws) :
    Program (AccountTables services) ResetLinkStatement Interruption
      RedirectResponse := do
  let checked ← Program.query fun tables : AccountTables services =>
    checkResetLink tables actor input
  match ← Program.ofExcept checked with
  | .inl response => return response
  | .inr user => storeResetLink services user draws

/-- The statements of an accepted call. -/
def resetLinkStatements (tables : AccountTables services)
    (user : UserAccount) (draws : ResetLinkDraws) :
    List ResetLinkStatement :=
  .insertRequest user.id user.email draws.token ::
    (adminNotifications tables user draws.now).map .insertNotification

theorem issued_insertNotifications
    (notifications : List Notification)
    (tables : AccountTables services) :
    (Program.forEach
        (fun notification =>
          (Program.execute (.insertNotification notification) :
            Program (AccountTables services) ResetLinkStatement
              Interruption Unit))
        notifications).issued tables =
      (.ok (), notifications.map .insertNotification) := by
  induction notifications generalizing tables with
  | nil => rfl
  | cons notification rest induction =>
      rw [Program.forEach,
        Program.issued_bind_of_ok (Program.issued_execute _ _),
        induction]
      rfl

theorem issued_storeResetLink
    (tables : AccountTables services) (user : UserAccount)
    (draws : ResetLinkDraws) :
    (storeResetLink services user draws).issued tables =
      if Insertable tables user draws then
        (.ok (backWithStatus requestSent),
          resetLinkStatements tables user draws)
      else (.error (.error .queryException), []) := by
  rw [storeResetLink, Program.bind_eq,
    Program.issued_bind_of_ok (Program.issued_query _ _),
    Program.performAll_nil, Program.bind_eq]
  by_cases insertable : Insertable tables user draws
  · rw [if_pos insertable, decide_eq_true insertable, if_pos rfl,
      Program.issued_bind_of_ok (Program.issued_ofExcept _ _),
      Program.performAll_nil, Program.bind_eq,
      Program.issued_bind_of_ok (Program.issued_execute _ _),
      Program.bind_eq,
      Program.issued_bind_of_ok (Program.issued_query _ _),
      Program.bind_eq,
      Program.issued_bind_of_ok (issued_insertNotifications _ _)]
    change
      (Except.ok (backWithStatus requestSent),
        [] ++ ([_] ++ ([] ++ (_ ++ [])))) = _
    rw [List.append_nil]
    rfl
  · rw [if_neg insertable, decide_eq_false insertable,
      if_neg Bool.false_ne_true,
      Program.issued_bind_of_error (Program.issued_ofExcept _ _)]
    rfl

/-- The answer and the statements of a call without a fault. -/
theorem issued_resetLinkProgram
    (tables : AccountTables services) (actor : Option UserId)
    (input : Option String) (draws : ResetLinkDraws) :
    (resetLinkProgram services actor input draws).issued tables =
      match checkResetLink tables actor input with
      | .error error => (.error error, [])
      | .ok (.inl response) => (.ok response, [])
      | .ok (.inr user) =>
          (storeResetLink services user draws).issued tables := by
  rw [resetLinkProgram, Program.bind_eq,
    Program.issued_bind_of_ok (Program.issued_query _ _),
    Program.performAll_nil, Program.bind_eq]
  cases checkResetLink tables actor input with
  | error error =>
      rw [Program.issued_bind_of_error (Program.issued_ofExcept _ _)]
      rfl
  | ok checked =>
      rw [Program.issued_bind_of_ok (Program.issued_ofExcept _ _)]
      cases checked with
      | inl response => rfl
      | inr user => rfl

theorem plain_storeResetLink (user : UserAccount)
    (draws : ResetLinkDraws) :
    (storeResetLink services user draws).Plain :=
  (Program.plain_query _).bind fun _ =>
    (Program.plain_ofExcept _).bind fun _ =>
      (Program.plain_execute _).bind fun _ =>
        (Program.plain_query _).bind fun notifications =>
          (Program.Plain.forEach (fun _ => Program.plain_execute _)
            notifications).bind fun _ => True.intro

theorem plain_resetLinkProgram (actor : Option UserId)
    (input : Option String) (draws : ResetLinkDraws) :
    (resetLinkProgram services actor input draws).Plain := by
  apply (Program.plain_query _).bind
  intro checked
  apply (Program.plain_ofExcept _).bind
  intro answer
  cases answer with
  | inl response => exact True.intro
  | inr user => exact plain_storeResetLink user draws

/-! ## What the writes leave -/

theorem performAll_insertNotifications
    (notifications : List Notification)
    (tables : AccountTables services) :
    Program.performAll
        (notifications.map ResetLinkStatement.insertNotification)
        tables =
      { tables with
        notifications := tables.notifications ++ notifications } := by
  induction notifications generalizing tables with
  | nil => simp
  | cons notification rest induction =>
      rw [List.map_cons, Program.performAll_cons, induction]
      change
        { tables with
          notifications :=
            tables.notifications ++ [notification] ++ rest } = _
      rw [List.append_assoc]
      rfl

/-- All statements together are what the two halves were taken to do. -/
theorem createResetRequest_eq
    {tables : AccountTables services} {user : UserAccount}
    {draws : ResetLinkDraws} (insertable : Insertable tables user draws) :
    createResetRequest user draws tables =
      some
        (Program.performAll (resetLinkStatements tables user draws)
          tables) := by
  rw [resetLinkStatements, Program.performAll_cons,
    performAll_insertNotifications, createResetRequest,
    if_neg (Bool.eq_false_iff.mp insertable)]
  rfl

/-- Some first writes leave the request and some of the notifications. -/
theorem performAll_take_resetLinkStatements
    (tables : AccountTables services) (user : UserAccount)
    (draws : ResetLinkDraws) (count : ℕ) :
    Program.performAll
        ((resetLinkStatements tables user draws).take (count + 1))
        tables =
      { insertRequest tables user.id user.email draws.token with
        notifications :=
          tables.notifications ++
            (adminNotifications tables user draws.now).take count } := by
  rw [resetLinkStatements, List.take_succ_cons,
    Program.performAll_cons, ← List.map_take,
    performAll_insertNotifications]
  rfl

/-! ## A throwing write -/

/-- A call of which one write throws; 0 is the write of the request. -/
def sendResetLinkFailing (tables : AccountTables services)
    (actor : Option UserId) (input : Option String)
    (draws : ResetLinkDraws) (fault : Option ℕ) :
    Except Interruption RedirectResponse × AccountTables services :=
  let result :=
    (resetLinkProgram services actor input draws).execFailing
      (.error .queryException) fault ⟨tables, none⟩
  (result.1, result.2.state)

/-- The call reaches its writes. -/
def Accepts (tables : AccountTables services) (actor : Option UserId)
    (input : Option String) (draws : ResetLinkDraws)
    (user : UserAccount) : Prop :=
  checkResetLink tables actor input = .ok (.inr user) ∧
    Insertable tables user draws

/-- One pending request and the notifications are there in addition. -/
structure Sent (tables : AccountTables services) (user : UserAccount)
    (draws : ResetLinkDraws) (after : AccountTables services) :
    Prop where
  requests :
    after.requests.rows =
      tables.requests.rows ++
        [PasswordResetRequest.create tables.nextRequestId user.id
          user.email draws.token]
  notifications :
    after.notifications =
      tables.notifications ++ adminNotifications tables user draws.now
  users : after.users = tables.users

/-- A failed call changes nothing; a successful one does what it says. -/
structure AllOrNothing (tables : AccountTables services)
    (actor : Option UserId) (input : Option String)
    (draws : ResetLinkDraws)
    (result :
      Except Interruption RedirectResponse × AccountTables services) :
    Prop where
  undone : ∀ error, result.1 = .error error → result.2 = tables
  answered :
    ∀ response, result.1 = .ok response →
      (checkResetLink tables actor input = .ok (.inl response) ∧
          result.2 = tables) ∨
        ∃ user, Accepts tables actor input draws user ∧
          Sent tables user draws result.2

section Faults

variable {tables : AccountTables services} {actor : Option UserId}
  {input : Option String} {draws : ResetLinkDraws} {user : UserAccount}

/-- The statements of a call without a fault. -/
theorem issued_of_accepts
    (accepts : Accepts tables actor input draws user) :
    (resetLinkProgram services actor input draws).issued tables =
      (.ok (backWithStatus requestSent),
        resetLinkStatements tables user draws) := by
  rw [issued_resetLinkProgram, accepts.1]
  dsimp only
  rw [issued_storeResetLink, if_pos accepts.2]

/-- A call that does not reach its writes issues none. -/
theorem issued_of_not_accepts
    (refused : ∀ user, ¬ Accepts tables actor input draws user) :
    ((resetLinkProgram services actor input draws).issued tables).2 =
        [] ∧
      ∀ response,
        ((resetLinkProgram services actor input draws).issued
            tables).1 = .ok response →
          checkResetLink tables actor input = .ok (.inl response) := by
  rw [issued_resetLinkProgram]
  cases checked : checkResetLink tables actor input with
  | error error =>
      refine ⟨rfl, ?_⟩
      intro response returns
      cases returns
  | ok answer =>
      cases answer with
      | inl shown =>
          refine ⟨rfl, ?_⟩
          intro response returns
          cases returns
          rfl
      | inr user =>
          have notInsertable : ¬ Insertable tables user draws :=
            fun insertable => refused user ⟨checked, insertable⟩
          dsimp only
          rw [issued_storeResetLink, if_neg notInsertable]
          refine ⟨rfl, ?_⟩
          intro response returns
          cases returns

/-- The writes before the throwing one stay. -/
theorem sendResetLinkFailing_of_lt
    {position : ℕ}
    (fires :
      position <
        ((resetLinkProgram services actor input draws).issued
          tables).2.length) :
    sendResetLinkFailing tables actor input draws (some position) =
      (.error (.error .queryException),
        Program.performAll
          (((resetLinkProgram services actor input draws).issued
            tables).2.take position)
          tables) := by
  rw [sendResetLinkFailing,
    Program.execFailing_plain _
      (plain_resetLinkProgram actor input draws),
    if_pos fires]
  rfl

/-- A fault after the last write changes nothing. -/
theorem sendResetLinkFailing_of_le
    {fault : Option ℕ}
    (late :
      ∀ position ∈ fault,
        ((resetLinkProgram services actor input draws).issued
          tables).2.length ≤ position) :
    sendResetLinkFailing tables actor input draws fault =
      (((resetLinkProgram services actor input draws).issued tables).1,
        Program.performAll
          ((resetLinkProgram services actor input draws).issued tables).2
          tables) := by
  have plain :=
    @plain_resetLinkProgram services actor input draws
  have same :
      (resetLinkProgram services actor input draws).execFailing
          (.error .queryException) fault ⟨tables, none⟩ =
        (resetLinkProgram services actor input draws).exec
          ⟨tables, none⟩ := by
    cases fault with
    | none => rw [Program.execFailing_none]
    | some position =>
        rw [Program.execFailing_plain _ plain,
          if_neg (not_lt.mpr (late position rfl))]
  rw [sendResetLinkFailing, same, Program.exec_plain plain]
  rcases (resetLinkProgram services actor input draws).issued tables with
    ⟨answer, statements⟩
  cases answer <;> rfl

/-- The request and the earlier notifications stay. -/
theorem sendResetLinkFailing_of_notification
    (accepts : Accepts tables actor input draws user)
    {administrator : ℕ}
    (early :
      administrator <
        (adminNotifications tables user draws.now).length) :
    sendResetLinkFailing tables actor input draws
        (some (administrator + 1)) =
      (.error (.error .queryException),
        { insertRequest tables user.id user.email draws.token with
          notifications :=
            tables.notifications ++
              (adminNotifications tables user draws.now).take
                administrator }) := by
  have issues := issued_of_accepts accepts
  rw [sendResetLinkFailing_of_lt
      (by simp [issues, resetLinkStatements, early]),
    issues, performAll_take_resetLinkStatements]

theorem allOrNothing_of_not_accepts
    (refused : ∀ user, ¬ Accepts tables actor input draws user)
    (fault : Option ℕ) :
    AllOrNothing tables actor input draws
      (sendResetLinkFailing tables actor input draws fault) := by
  have issues := issued_of_not_accepts refused
  rw [sendResetLinkFailing_of_le (by simp [issues.1]), issues.1]
  exact
    { undone := fun _ _ => rfl
      answered := fun response returns =>
        Or.inl ⟨issues.2 response returns, rfl⟩ }

theorem sent_performAll
    (accepts : Accepts tables actor input draws user) :
    Sent tables user draws
      (Program.performAll (resetLinkStatements tables user draws)
        tables) := by
  have created := createResetRequest_eq accepts.2
  have rows := created_of_createResetRequest created
  refine
    { requests := rows.1
      notifications := rows.2
      users := ?_ }
  rw [resetLinkStatements, Program.performAll_cons,
    performAll_insertNotifications]
  rfl

/-- The same user is refused while the request is pending. -/
theorem checkResetLink_of_pending
    {after : AccountTables services}
    (checked : checkResetLink tables actor input = .ok (.inr user))
    (sameUsers : after.users = tables.users)
    (pending : (pendingRequest? after user.id).isSome) :
    ∃ response,
      checkResetLink after actor input = .ok (.inl response) := by
  rw [checkResetLink] at checked ⊢
  rcases bind_eq_ok_iff.mp checked with ⟨_, guest, rest⟩
  rcases bind_eq_ok_iff.mp rest with ⟨email, valid, rest⟩
  have sameGuest : ensureGuest after actor = .ok () := by
    rw [ensureGuest, AccountTables.user?] at guest ⊢
    rw [sameUsers]
    exact guest
  simp only [sameGuest, valid, bind, Except.bind]
  rw [sameUsers]
  cases found :
      UsersTable.findByEmail? tables.users
        (services.mbStrtolower email) with
  | none => exact ⟨_, rfl⟩
  | some other =>
      rw [found] at rest
      dsimp only at rest ⊢
      split_ifs at rest with isAdmin isPending
      · cases rest
      · cases rest
      · cases rest
        rw [if_neg isAdmin, if_pos pending]
        exact ⟨_, rfl⟩

end Faults

/--
A failed call undoes its writes exactly when the write that throws is the
first one; when a notification throws, the pending request stays, and the
next attempt of the user is refused.
-/
theorem resetLink_undone_iff
    (tables : AccountTables services) (actor : Option UserId)
    (input : Option String) (draws : ResetLinkDraws)
    (fault : Option ℕ) :
    (AllOrNothing tables actor input draws
        (sendResetLinkFailing tables actor input draws fault) ↔
      ∀ user, Accepts tables actor input draws user →
        ∀ administrator, fault = some (administrator + 1) →
          (adminNotifications tables user draws.now).length ≤
            administrator) ∧
      ∀ user, Accepts tables actor input draws user →
        ∀ administrator, fault = some (administrator + 1) →
          administrator <
              (adminNotifications tables user draws.now).length →
            ∃ response,
              checkResetLink
                  (sendResetLinkFailing tables actor input draws
                    fault).2
                  actor input =
                .ok (.inl response) := by
  constructor
  · constructor
    · intro holds user accepts administrator isFault
      by_contra early
      have undone := holds.undone (.error .queryException)
      rw [isFault, sendResetLinkFailing_of_notification accepts
        (not_le.mp early)] at undone
      have sameRows :=
        congrArg (fun tables => tables.requests.rows.length) (undone rfl)
      simp [insertRequest] at sameRows
    · intro condition
      by_cases accepted : ∃ user, Accepts tables actor input draws user
      · rcases accepted with ⟨user, accepts⟩
        have late (after : ∀ position ∈ fault, 0 < position) :
            AllOrNothing tables actor input draws
              (sendResetLinkFailing tables actor input draws fault) := by
          rw [sendResetLinkFailing_of_le, issued_of_accepts accepts]
          · exact
              { undone := fun _ returns => by cases returns
                answered := fun _ _ =>
                  Or.inr ⟨user, accepts, sent_performAll accepts⟩ }
          · intro position isFault
            rw [issued_of_accepts accepts]
            have bound := after position isFault
            cases position with
            | zero => cases bound
            | succ administrator =>
                have enough :=
                  condition user accepts administrator isFault
                simpa [resetLinkStatements] using enough
        cases fault with
        | none =>
            apply late
            intro position isFault
            cases isFault
        | some position =>
            cases position with
            | zero =>
                rw [sendResetLinkFailing_of_lt
                  (by simp [issued_of_accepts accepts,
                    resetLinkStatements])]
                exact
                  { undone := fun _ _ => rfl
                    answered := fun _ returns => by cases returns }
            | succ administrator =>
                apply late
                intro position isFault
                cases isFault
                exact Nat.succ_pos administrator
      · exact
          allOrNothing_of_not_accepts
            (fun user accepts => accepted ⟨user, accepts⟩) fault
  · intro user accepts administrator isFault early
    rw [isFault, sendResetLinkFailing_of_notification accepts early]
    apply checkResetLink_of_pending accepts.1
    · rfl
    · rw [pendingRequest?, List.find?_isSome]
      exact
        ⟨_, List.mem_append_right _ List.mem_cons_self, by
          simp [PasswordResetRequest.create]⟩

/-- The administrator's notification throws. -/
theorem request_stays_without_notification :
    let actor : Option UserId := none
    let input := some "participant@example.com"
    let draws : ResetLinkDraws := ⟨"token", 100⟩
    let result :=
      sendResetLinkFailing sampleAccounts actor input draws (some 1)
    result.1 = .error (.error .queryException) ∧
      result.2.requests.rows =
        [PasswordResetRequest.create 1 2 "participant@example.com"
          "token"] ∧
      result.2.notifications = [] ∧
      ¬ AllOrNothing sampleAccounts actor input draws result ∧
      checkResetLink result.2 actor input =
        .ok
          (.inl
            (backWithStatus
              ("A password reset request is already awaiting " ++
                "approval. Please contact your administrator for " ++
                "updates."))) := by
  intro actor input draws result
  have raised : result.1 = .error (.error .queryException) := by
    decide +kernel
  have stays :
      result.2.requests.rows =
        [PasswordResetRequest.create 1 2 "participant@example.com"
          "token"] := by
    decide +kernel
  refine ⟨raised, stays, by decide +kernel, ?_, by decide +kernel⟩
  intro holds
  rw [holds.undone _ raised] at stays
  cases stays

end SultanPass.AuthController

/-! ## The decisions -/

namespace SultanPass.PasswordResetRequestController

open SultanPass.Library

variable {cryptography : Cryptography}

/-- The writes of `approve` and `decline`. -/
inductive DecisionStatement where
  | saveUser (userId : UserId) (password rememberToken : String)
  | saveRequest (loaded filled : PasswordResetRequest)
      (same : filled.id = loaded.id)
  | insertNotification (notification : Notification)

/-- The credentials of a user after `save()`. -/
def saveCredentials (tables : ResetTables) (userId : UserId)
    (password rememberToken : String) : ResetTables :=
  { tables with
    users :=
      tables.users.modify userId
        (fun stored =>
          { stored with
            password := password
            rememberToken := some rememberToken })
        fun _ => rfl }

instance : Store ResetTables DecisionStatement where
  perform
    | .saveUser userId password rememberToken, tables =>
        saveCredentials tables userId password rememberToken
    | .saveRequest loaded filled _, tables =>
        { tables with
          requests :=
            tables.requests.modify loaded.id (save loaded filled)
              (id_save loaded filled) }
    | .insertNotification notification, tables =>
        { tables with
          notifications := tables.notifications ++ [notification] }
  sameRow _ _ := false

theorem id_fill (decision : Decision) (loaded : PasswordResetRequest) :
    (decision.fill cryptography loaded).id = loaded.id := by
  cases decision <;> rfl

/-- The request and its notification, which both decisions write. -/
def saveAndNotifyProgram (cryptography : Cryptography)
    (decision : Decision) (loaded : PasswordResetRequest) :
    Program ResetTables DecisionStatement Interruption Unit := do
  Program.execute
    (.saveRequest loaded (decision.fill cryptography loaded)
      (id_fill decision loaded))
  Program.execute (.insertNotification (decision.notification loaded))

/-- The body of the transaction of a decision. -/
def decisionBody (cryptography : Cryptography) (decision : Decision)
    (loaded : PasswordResetRequest) :
    Program ResetTables DecisionStatement Interruption Unit :=
  match decision with
  | .approve approval => do
      let found ← Program.query fun tables : ResetTables =>
        tables.users.find? loaded.userId
      let user ← Program.ofExcept (executed found)
      Program.execute
        (.saveUser user.id
          (cryptography.make approval.salt approval.plainPassword)
          approval.rememberToken)
      saveAndNotifyProgram cryptography decision loaded
  | .decline _ => saveAndNotifyProgram cryptography decision loaded

theorem plain_decisionBody (decision : Decision)
    (loaded : PasswordResetRequest) :
    (decisionBody cryptography decision loaded).Plain := by
  have both :
      (saveAndNotifyProgram cryptography decision loaded).Plain :=
    (Program.plain_execute _).bind fun _ => Program.plain_execute _
  cases decision with
  | approve approval =>
      exact
        (Program.plain_query _).bind fun found =>
          (Program.plain_ofExcept _).bind fun user =>
            (Program.plain_execute _).bind fun _ => both
  | decline declination => exact both

/-- Without a fault the transaction does what it was taken to do. -/
theorem exec_decisionBody (decision : Decision)
    (loaded : PasswordResetRequest) (tables : ResetTables) :
    (decisionBody cryptography decision loaded).transaction.exec
        ⟨tables, none⟩ =
      match transaction cryptography decision loaded tables with
      | some after => (.ok (), ⟨after, none⟩)
      | none => (.error (.error .queryException), ⟨tables, none⟩) := by
  cases decision with
  | decline declination => rfl
  | approve approval =>
      rw [Program.exec_transaction
          (plain_decisionBody (.approve approval) loaded),
        transaction, decisionBody, Program.bind_eq,
        Program.issued_bind_of_ok (Program.issued_query _ _),
        Program.performAll_nil, Program.bind_eq]
      cases tables.users.find? loaded.userId with
      | none =>
          rw [executed, Program.issued_bind_of_error
            (Program.issued_ofExcept _ _)]
          rfl
      | some user =>
          rw [executed, Program.issued_bind_of_ok
            (Program.issued_ofExcept _ _)]
          rfl

/-- A decision of which a write throws leaves nothing. -/
theorem decision_undone (decision : Decision)
    (loaded : PasswordResetRequest) (tables : ResetTables)
    (fault : Option ℕ) (error : Interruption)
    (failed :
      ((decisionBody cryptography decision
          loaded).transaction.execFailing (.error .queryException) fault
          ⟨tables, none⟩).1 = .error error) :
    ((decisionBody cryptography decision
        loaded).transaction.execFailing (.error .queryException) fault
        ⟨tables, none⟩).2.state = tables := by
  have ordinary
      (raised :
        ((decisionBody cryptography decision loaded).transaction.exec
          ⟨tables, none⟩).1 = .error error) :
      ((decisionBody cryptography decision loaded).transaction.exec
        ⟨tables, none⟩).2.state = tables := by
    rw [exec_decisionBody] at raised ⊢
    cases committed :
        transaction cryptography decision loaded tables with
    | none => rfl
    | some after =>
        rw [committed] at raised
        cases raised
  cases fault with
  | none =>
      rw [Program.execFailing_none] at failed ⊢
      exact ordinary failed
  | some position =>
      rw [Program.execFailing_transaction _
        (plain_decisionBody decision loaded)] at failed ⊢
      split_ifs at failed ⊢
      · rfl
      · exact ordinary failed

end SultanPass.PasswordResetRequestController
