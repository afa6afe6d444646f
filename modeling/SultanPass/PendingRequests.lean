import SultanPass.AccountResets

/-!
# At most one pending request for each user

`sendResetLinkEmail` looks for a pending request and creates one if there is
none.  No unique key stands behind that check, so two submissions that both
check before either creates leave two pending requests.  Decisions never
make a request pending.
-/

namespace SultanPass.PasswordResetRequestController

open SultanPass.Library

variable {services : Services} {Index : Type}

/-! ## Calls in two steps -/

/-- A submission of the form, or a decision. -/
inductive ResetCall where
  | submit (actor : Option UserId) (email : Option String)
      (draws : AuthController.ResetLinkDraws)
  | decide (actor : Option UserId) (input : DecisionInput)

/-- What a call acts on: a user, or a decision with its request. -/
abbrev ResetLoaded :=
  UserAccount ⊕ (Decision × PasswordResetRequest)

/-- The check of a call. -/
def ResetCall.load (tables : AccountTables services) :
    ResetCall → Option ResetLoaded
  | .submit actor email _ =>
      match AuthController.checkResetLink tables actor email with
      | .ok (.inr user) => some (.inl user)
      | _ => none
  | .decide actor input =>
      (checkDecision tables actor input).map Sum.inr

/-- The writing step of a call. -/
def ResetCall.act (tables : AccountTables services) :
    ResetCall → ResetLoaded → Option (AccountTables services)
  | .submit _ _ draws, .inl user =>
      AuthController.createResetRequest user draws tables
  | .decide _ _, .inr (decision, loaded) =>
      commitDecision decision loaded tables
  | _, _ => none

def ResetCall.handler (services : Services) (call : ResetCall) :
    Handler (AccountTables services) ResetLoaded where
  load := fun tables => call.load tables
  act := fun loaded tables => call.act tables loaded

/-! ## Pending requests -/

/-- The pending requests of a user. -/
def pendingRequests (tables : AccountTables services)
    (userId : UserId) : List PasswordResetRequest :=
  tables.requests.rows.filter fun request =>
    request.status = .pending && request.userId = userId

/-- No user has two pending requests. -/
def AtMostOnePending (tables : AccountTables services) : Prop :=
  ∀ userId, (pendingRequests tables userId).length ≤ 1

/-- The request that a submission creates is pending. -/
theorem pendingRequests_create
    {user : UserAccount} {draws : AuthController.ResetLinkDraws}
    {tables after : AccountTables services}
    (creates :
      AuthController.createResetRequest user draws tables = some after)
    (userId : UserId) :
    (pendingRequests after userId).length =
      (pendingRequests tables userId).length +
        if user.id = userId then 1 else 0 := by
  unfold pendingRequests
  rw [(AuthController.created_of_createResetRequest creates).1,
    List.filter_append, List.length_append]
  by_cases own : user.id = userId
  · simp [PasswordResetRequest.create, own]
  · simp [PasswordResetRequest.create, own]

/-- A saved decision does not make a request pending. -/
theorem status_save_ne_pending
    (cryptography : Cryptography) (decision : Decision)
    (loaded stored : PasswordResetRequest)
    (pending :
      (save loaded (decision.fill cryptography loaded) stored).status =
        .pending) :
    stored.status = .pending := by
  change
    savedColumn loaded.status (decision.fill cryptography loaded).status
      stored.status = .pending at pending
  unfold savedColumn at pending
  by_cases same : (decision.fill cryptography loaded).status = loaded.status
  · rw [if_pos same] at pending
    exact pending
  · rw [if_neg same] at pending
    exact (status_fill_ne_pending decision loaded pending).elim

/-- A decision adds no pending request. -/
theorem pendingRequests_commitDecision
    {decision : Decision} {loaded : PasswordResetRequest}
    {tables after : AccountTables services}
    (decides : commitDecision decision loaded tables = some after)
    (userId : UserId) :
    (pendingRequests after userId).length ≤
      (pendingRequests tables userId).length := by
  unfold pendingRequests
  rw [(requests_commitDecision decides).1,
    ← List.countP_eq_length_filter, ← List.countP_eq_length_filter]
  change List.countP _ (tables.requests.rows.map _) ≤ _
  rw [List.countP_map]
  apply List.countP_mono_left
  intro request _ counted
  rw [Function.comp_apply, Bool.and_eq_true, decide_eq_true_eq,
    decide_eq_true_eq] at counted
  rw [Bool.and_eq_true, decide_eq_true_eq, decide_eq_true_eq]
  split_ifs at counted
  · exact ⟨status_save_ne_pending _ _ _ _ counted.1, counted.2⟩
  · exact counted

/-! ## Schedules -/

/--
A submission that is about to create a request finds no pending one of its
user.
-/
def NonePending (calls : Index → ResetCall)
    (parties : Parties Index (AccountTables services) ResetLoaded)
    (index : Index) : Prop :=
  ∀ user, parties.phases index = .loaded (.inl user) →
    ((calls index).act parties.shared (.inl user)).isSome →
      pendingRequests parties.shared user.id = []

variable [DecidableEq Index]

/-- What the creation of a request does to the pending ones. -/
theorem atMostOnePending_create_iff
    {user : UserAccount} {draws : AuthController.ResetLinkDraws}
    {tables after : AccountTables services}
    (creates :
      AuthController.createResetRequest user draws tables = some after)
    (before : AtMostOnePending tables) :
    AtMostOnePending after ↔ pendingRequests tables user.id = [] := by
  constructor
  · intro atMostOne
    have own := atMostOne user.id
    rw [pendingRequests_create creates, if_pos rfl] at own
    exact List.length_eq_zero_iff.mp (by omega)
  · intro none userId
    rw [pendingRequests_create creates]
    by_cases own : user.id = userId
    · rw [if_pos own, ← own, none]
      rfl
    · rw [if_neg own]
      exact before userId

/--
One step of a call keeps at most one pending request for each user exactly
when it creates none beside a pending one.
-/
theorem atMostOnePending_step_iff
    (calls : Index → ResetCall)
    (parties : Parties Index (AccountTables services) ResetLoaded)
    (index : Index) (before : AtMostOnePending parties.shared) :
    AtMostOnePending
        (parties.step (fun index => (calls index).handler services)
          index).shared ↔
      NonePending calls parties index := by
  rw [Parties.shared_step]
  unfold NonePending
  cases phase : parties.phases index with
  | ready =>
      apply iff_of_true before
      intro user isLoaded
      cases isLoaded
  | finished =>
      apply iff_of_true before
      intro user isLoaded
      cases isLoaded
  | loaded value =>
      change
        AtMostOnePending
            (((calls index).act parties.shared value).getD
              parties.shared) ↔ _
      cases acts : (calls index).act parties.shared value with
      | none =>
          apply iff_of_true before
          intro user isLoaded acted
          cases isLoaded
          rw [acts] at acted
          cases acted
      | some after =>
          rcases value with user | ⟨decision, loaded⟩
          · have creates :
                ∃ draws,
                  AuthController.createResetRequest user draws
                    parties.shared = some after := by
              cases isCall : calls index with
              | submit actor email draws =>
                  rw [isCall] at acts
                  exact ⟨draws, acts⟩
              | decide actor input =>
                  rw [isCall] at acts
                  cases acts
            rcases creates with ⟨draws, creates⟩
            have exactly := atMostOnePending_create_iff creates before
            constructor
            · intro atMostOne other same _
              cases same
              exact exactly.mp atMostOne
            · intro nonePending
              apply exactly.mpr
              apply nonePending user rfl
              rw [acts]
              rfl
          · have decides :
                commitDecision decision loaded parties.shared =
                  some after := by
              cases isCall : calls index with
              | submit actor email draws =>
                  rw [isCall] at acts
                  cases acts
              | decide actor input =>
                  rw [isCall] at acts
                  exact acts
            apply iff_of_true
            · intro userId
              exact
                (pendingRequests_commitDecision decides userId).trans
                  (before userId)
            · intro user same
              cases same

/--
In every state of a schedule each user has at most one pending request
exactly when no submission creates one beside a pending one.
-/
theorem at_most_one_pending_iff
    (calls : Index → ResetCall) (tables : AccountTables services)
    (initially : AtMostOnePending tables) (schedule : List Index) :
    (∀ begun, begun <+: schedule →
        AtMostOnePending
          ((Parties.start tables).run
            (fun index => (calls index).handler services)
            begun).shared) ↔
      Throughout
        (Parties.step fun index => (calls index).handler services)
        (NonePending calls) (Parties.start tables) schedule :=
  forall_reached_iff_throughout
    (fun parties index before =>
      atMostOnePending_step_iff calls parties index before)
    initially schedule

/-- Two guests submit the form for the same user. -/
def sampleSubmissions : Fin 2 → ResetCall :=
  ![.submit none (some "participant@example.com") ⟨"first", 100⟩,
    .submit none (some "Participant@example.com") ⟨"second", 101⟩]

theorem atMostOnePending_sampleAccounts :
    AtMostOnePending sampleAccounts :=
  fun _ => Nat.zero_le 1

/-- The second submission checks after the first has created, and ends. -/
theorem at_most_one_pending_submission :
    let reached :=
      (Parties.start sampleAccounts).run
        (fun index => (sampleSubmissions index).handler sampleServices)
        [0, 0, 1]
    (∀ index, reached.phases index = .finished) ∧
      AtMostOnePending reached.shared := by
  refine ⟨?_, ?_⟩
  · intro index
    match index with
    | 0 => rfl
    | 1 => rfl
  · refine
      (at_most_one_pending_iff sampleSubmissions sampleAccounts
        atMostOnePending_sampleAccounts [0, 0, 1]).mpr
        ⟨?_, ?_, ?_, True.intro⟩ [0, 0, 1] (List.prefix_refl _)
    · intro user isLoaded
      cases isLoaded
    · intro user _ _
      rw [Parties.shared_step]
      rfl
    · intro user isLoaded
      cases isLoaded

/-- Both check before either creates. -/
theorem two_pending_requests :
    AtMostOnePending sampleAccounts ∧
      ¬ AtMostOnePending
        ((Parties.start sampleAccounts).run
          (fun index => (sampleSubmissions index).handler sampleServices)
          [0, 1, 0, 1]).shared := by
  refine ⟨atMostOnePending_sampleAccounts, ?_⟩
  intro atMostOne
  exact absurd (atMostOne 2) (by decide +kernel)

end SultanPass.PasswordResetRequestController
