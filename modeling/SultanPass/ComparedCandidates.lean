import SultanPass.AIAssistantController
import SultanPass.Library.ExceptLoop

/-!
# The candidates of a chat request

What the context of an accepted request has to contain depends on its mode:
one participant, or for a comparison at least two, each of the selected
ones once among the numbered candidates.

The check of a comparison counts the submitted values.  Two values that
name the same user pass it, and the context then has a single candidate.
`serves_iff` shows that this is the only way to miss the promise.
-/

namespace SultanPass.AIAssistantController

open SultanPass.Library

variable {services : Services}

/-! ## What a mode needs -/

/-- The numbers under which the prompt lists a user. -/
def numbersOf (context : Context) (user : UserAccount) : List ℕ :=
  ((numberedCandidates context).filter fun candidate =>
    candidate.2.username = user.username).map Prod.fst

/-- A comparison of at least two participants, each selected one once. -/
structure ServesComparison (assistant : Assistant)
    (users : UsersTable services) (chat : ValidatedChat)
    (context : Context) : Prop where
  distinct :
    ∃ first ∈ context.participants, ∃ second ∈ context.participants,
      first.username ≠ second.username
  numbered :
    (numberedCandidates context).map Prod.fst =
      List.range' 1 context.participants.length
  once :
    ∀ value ∈ chat.participantIds, ∀ user ∈ users.rows,
      assistant.readId value = some user.id →
        (numbersOf context user).length = 1

/-- One participant, for whom the prompt can be written. -/
structure ServesOne (locale : String) (chat : ValidatedChat)
    (context : Context) : Prop where
  one : context.participants.length = 1
  prompt :
    ∃ prompt,
      buildPrompt chat.mode context chat.question locale = .ok prompt

/-- The context has the participants that the mode needs. -/
def Serves (assistant : Assistant) (users : UsersTable services)
    (locale : String) (chat : ValidatedChat) (context : Context) : Prop :=
  match chat.mode with
  | .comparison => ServesComparison assistant users chat context
  | _ => ServesOne locale chat context

/-- Two of the submitted values name different users. -/
def NamesTwoUsers (assistant : Assistant)
    (participantIds : List Submitted) : Prop :=
  ∃ first ∈ participantIds, ∃ second ∈ participantIds,
    assistant.readId first ≠ assistant.readId second

/-! ## Accepted requests -/

/-- Every submitted value names a user. -/
def NamesUsers (assistant : Assistant) (users : UsersTable services)
    (participantIds : List Submitted) : Prop :=
  ∀ value ∈ participantIds, ∃ user ∈ users.rows,
    assistant.readId value = some user.id

theorem elements_eq_of_validateParticipantIds
    {submitted : SubmittedIds} {values : List Submitted}
    (accepted : validateParticipantIds submitted = .ok values) :
    submitted.elements = values := by
  cases submitted with
  | scalar value =>
      cases value with
      | boolean value => cases value <;> cases accepted
      | _ => cases accepted
  | array submitted =>
      cases submitted with
      | nil => cases accepted
      | cons value rest =>
          cases accepted
          rfl

theorem namesUsers_of_validateElements {assistant : Assistant}
    {users : UsersTable services} {values : List Submitted}
    (accepted : validateElements assistant users values = .ok ()) :
    NamesUsers assistant users values := by
  rw [validateElements] at accepted
  split at accepted
  · rename_i none
    intro value member
    rw [← List.zipIdx_map_fst 0 values, List.mem_map] at member
    rcases member with ⟨entry, listed, rfl⟩
    have found := List.filter_eq_nil_iff.mp none entry listed
    rw [Bool.not_eq_true, Bool.not_eq_false', userExists,
      List.any_eq_true] at found
    rcases found with ⟨user, isUser, names⟩
    exact ⟨user, isUser, of_decide_eq_true names⟩
  · cases accepted

theorem namesUsers_of_validateChat {assistant : Assistant}
    {tables : AssistantTables services} {request : ChatRequest}
    {chat : ValidatedChat}
    (accepted : validateChat assistant tables request = .ok chat) :
    NamesUsers assistant tables.users chat.participantIds := by
  rcases map_eq_ok_iff.mp accepted with
    ⟨⟨mode, ids, assessmentId, details, question, _⟩, valid, rfl⟩
  simp only [Validated.both_eq_ok_iff] at valid
  rcases valid with ⟨_, idsValid, _, _, _, elements⟩
  rw [elements_eq_of_validateParticipantIds idsValid] at elements
  exact namesUsers_of_validateElements elements

/-- The modes about one participant accept one submitted value only. -/
theorem length_eq_one_of_checked {chat : ValidatedChat}
    (checked : modeMessage? chat = none)
    (single : chat.mode ≠ .comparison) :
    chat.participantIds.length = 1 := by
  by_contra several
  rw [modeMessage?] at checked
  cases mode : chat.mode with
  | comparison => exact single mode
  | _ =>
      rw [mode] at checked
      dsimp only at checked
      rw [if_pos several] at checked
      cases checked

/-! ## The selected users -/

theorem mem_selectedUsers_iff (assistant : Assistant)
    (users : UsersTable services) (participantIds : List Submitted)
    (user : UserAccount) :
    user ∈ selectedUsers assistant users participantIds ↔
      user ∈ users.rows ∧
        ∃ value ∈ participantIds,
          assistant.readId value = some user.id := by
  rw [selectedUsers, (assistant.arrange_perm _).mem_iff, List.mem_filter]
  simp

theorem mem_selectedUsers_of_named {assistant : Assistant}
    {users : UsersTable services} {participantIds : List Submitted}
    {value : Submitted} {user : UserAccount} (isUser : user ∈ users.rows)
    (isValue : value ∈ participantIds)
    (named : assistant.readId value = some user.id) :
    user ∈ selectedUsers assistant users participantIds :=
  (mem_selectedUsers_iff assistant users participantIds user).mpr
    ⟨isUser, value, isValue, named⟩

theorem usernames_nodup (users : UsersTable services) :
    (users.rows.map UserAccount.username).Nodup := by
  have unique := users.unique _ List.mem_cons_self
  apply List.Nodup.of_map services.collate
  rw [List.map_map]
  exact unique

theorem selectedUsernames_nodup (assistant : Assistant)
    (users : UsersTable services) (participantIds : List Submitted) :
    ((selectedUsers assistant users participantIds).map
      UserAccount.username).Nodup := by
  rw [selectedUsers, ((assistant.arrange_perm _).map _).nodup_iff]
  exact (usernames_nodup users).sublist (List.filter_sublist.map _)

theorem username_of_participantData
    (participant : UserAccount × List DatedAssessment)
    (shown : ContextParticipant)
    (returns : participantData participant = .ok shown) :
    shown.username = participant.1.username := by
  rcases bind_eq_ok_iff.mp returns with ⟨assessments, _, ⟨⟩⟩
  rfl

/-- The context shows the selected users, in the order of the query. -/
theorem usernames_of_chatContext {assistant : Assistant}
    {tables : AssistantTables services} {chat : ValidatedChat}
    {context : Context}
    (built : chatContext assistant tables chat = .ok context) :
    context.participants.map ContextParticipant.username =
      (selectedUsers assistant tables.users chat.participantIds).map
        UserAccount.username := by
  rcases bind_eq_ok_iff.mp built with ⟨participants, loaded, ⟨⟩⟩
  have observed :=
    map_eq_of_mapM_eq_ok ContextParticipant.username
      (fun participant => participant.1.username)
      username_of_participantData loaded
  rw [observed, List.map_map]
  rfl

/-- A single value selects the user that it names. -/
theorem length_selectedUsers_singleton {assistant : Assistant}
    {users : UsersTable services} {value : Submitted}
    (names : NamesUsers assistant users [value]) :
    (selectedUsers assistant users [value]).length = 1 := by
  rcases names value List.mem_cons_self with ⟨user, isUser, named⟩
  have selected : user ∈ selectedUsers assistant users [value] :=
    mem_selectedUsers_of_named isUser List.mem_cons_self named
  have same : ∀ other ∈ selectedUsers assistant users [value],
      other = user := by
    intro other member
    rcases (mem_selectedUsers_iff assistant users [value] other).mp
        member with ⟨otherIsUser, value, isValue, otherNamed⟩
    rw [List.mem_singleton] at isValue
    rw [isValue, named, Option.some.injEq] at otherNamed
    exact users.eq_of_key otherIsUser isUser otherNamed.symm
  have repeated := List.eq_replicate_of_mem same
  have distinct :=
    (selectedUsernames_nodup assistant users [value]).of_map
  rw [repeated, List.nodup_replicate] at distinct
  exact le_antisymm distinct (List.length_pos_of_mem selected)

theorem eq_of_username (users : UsersTable services)
    {left right : UserAccount}
    (leftMember : left ∈ users.rows) (rightMember : right ∈ users.rows)
    (same : left.username = right.username) :
    left = right :=
  List.inj_on_of_nodup_map (usernames_nodup users) leftMember rightMember
    same

/-- Different users are selected when different users are named. -/
theorem exists_distinct_iff {assistant : Assistant}
    {users : UsersTable services} {participantIds : List Submitted}
    (names : NamesUsers assistant users participantIds) :
    (∃ first ∈ selectedUsers assistant users participantIds,
        ∃ second ∈ selectedUsers assistant users participantIds,
          first.username ≠ second.username) ↔
      NamesTwoUsers assistant participantIds := by
  constructor
  · rintro ⟨first, firstSelected, second, secondSelected, differ⟩
    rcases (mem_selectedUsers_iff _ _ _ _).mp firstSelected with
      ⟨isFirst, value, isValue, named⟩
    rcases (mem_selectedUsers_iff _ _ _ _).mp secondSelected with
      ⟨isSecond, other, isOther, otherNamed⟩
    refine ⟨value, isValue, other, isOther, fun same => differ ?_⟩
    rw [named, otherNamed, Option.some.injEq] at same
    rw [users.eq_of_key isFirst isSecond same]
  · rintro ⟨value, isValue, other, isOther, differ⟩
    rcases names value isValue with ⟨first, isFirst, named⟩
    rcases names other isOther with ⟨second, isSecond, otherNamed⟩
    refine
      ⟨first, mem_selectedUsers_of_named isFirst isValue named,
        second, mem_selectedUsers_of_named isSecond isOther otherNamed,
        fun same => differ ?_⟩
    rw [named, otherNamed, eq_of_username users isFirst isSecond same]

/-! ## The numbered candidates -/

theorem map_fst_numberedCandidates (context : Context) :
    (numberedCandidates context).map Prod.fst =
      List.range' 1 context.participants.length := by
  apply List.ext_getElem
  · simp [numberedCandidates]
  · intro position _ _
    simp [numberedCandidates, Nat.add_comm]

theorem map_snd_numberedCandidates (context : Context) :
    (numberedCandidates context).map Prod.snd = context.participants := by
  rw [numberedCandidates, List.map_map]
  exact List.zipIdx_map_fst 0 context.participants

/-- A user has as many numbers as there are participants of that name. -/
theorem length_numbersOf (context : Context) (user : UserAccount) :
    (numbersOf context user).length =
      (context.participants.map
        ContextParticipant.username).count user.username := by
  rw [numbersOf, List.length_map, ← List.countP_eq_length_filter,
    List.count, List.countP_map, ← map_snd_numberedCandidates context,
    List.countP_map]
  rfl

theorem exists_buildPrompt_of_one {context : Context}
    (one : context.participants.length = 1) (mode : ChatMode)
    (question : Option String) (locale : String) :
    ∃ prompt, buildPrompt mode context question locale = .ok prompt := by
  rcases List.length_eq_one_iff.mp one with ⟨participant, participants⟩
  have first : firstParticipant context = .ok participant := by
    rw [firstParticipant, participants]
  cases mode with
  | testBased =>
      rw [buildPrompt, testBasedPrompt, first]
      exact ⟨_, rfl⟩
  | missionBased =>
      rw [buildPrompt, missionBasedPrompt, first]
      exact ⟨_, rfl⟩
  | overall =>
      rw [buildPrompt, overallPrompt, first]
      exact ⟨_, rfl⟩
  | comparison =>
      exact
        ⟨comparisonPrompt context question ++ languageNote locale, rfl⟩

/-! ## The context of an accepted request -/

section Accepted

variable {assistant : Assistant} {tables : AssistantTables services}
variable {request : ChatRequest} {chat : ValidatedChat}
variable {context : Context}

theorem servesOne_of_accepted (locale : String)
    (accepted : validateChat assistant tables request = .ok chat)
    (checked : modeMessage? chat = none)
    (built : chatContext assistant tables chat = .ok context)
    (single : chat.mode ≠ .comparison) :
    ServesOne locale chat context := by
  have names := namesUsers_of_validateChat accepted
  rcases List.length_eq_one_iff.mp
      (length_eq_one_of_checked checked single) with ⟨value, ids⟩
  have shown := congrArg List.length (usernames_of_chatContext built)
  rw [ids] at names shown
  rw [List.length_map, List.length_map,
    length_selectedUsers_singleton names] at shown
  exact
    ⟨shown, exists_buildPrompt_of_one shown chat.mode chat.question locale⟩

theorem distinct_participants_iff
    (accepted : validateChat assistant tables request = .ok chat)
    (built : chatContext assistant tables chat = .ok context) :
    (∃ first ∈ context.participants, ∃ second ∈ context.participants,
        first.username ≠ second.username) ↔
      NamesTwoUsers assistant chat.participantIds := by
  rw [← exists_distinct_iff (namesUsers_of_validateChat accepted)]
  have shown :=
    congrArg
      (fun names => ∃ first ∈ names, ∃ second ∈ names, first ≠ second)
      (usernames_of_chatContext built)
  simpa only [List.mem_map, exists_exists_and_eq_and] using
    iff_of_eq shown

theorem servesComparison_iff
    (accepted : validateChat assistant tables request = .ok chat)
    (built : chatContext assistant tables chat = .ok context) :
    ServesComparison assistant tables.users chat context ↔
      NamesTwoUsers assistant chat.participantIds := by
  rw [← distinct_participants_iff accepted built]
  constructor
  · intro serves
    exact serves.distinct
  · intro distinct
    refine ⟨distinct, map_fst_numberedCandidates context, ?_⟩
    intro value isValue user isUser named
    rw [length_numbersOf, usernames_of_chatContext built]
    apply List.count_eq_one_of_mem (selectedUsernames_nodup _ _ _)
    exact
      List.mem_map_of_mem
        (mem_selectedUsers_of_named isUser isValue named)

/-- An accepted request never fails for want of a participant. -/
theorem answerChat_eq_localAI (locale : String)
    (accepted : validateChat assistant tables request = .ok chat)
    (checked : modeMessage? chat = none)
    (built : chatContext assistant tables chat = .ok context) :
    ∃ prompt,
      buildPrompt chat.mode context chat.question locale = .ok prompt ∧
        answerChat assistant tables locale chat =
          assistant.localAI
            [{ role := "system", content := systemInstruction locale },
              { role := "user", content := prompt }]
            { temperature := 1 / 2, maxTokens := 500 } := by
  have written :
      ∃ prompt,
        buildPrompt chat.mode context chat.question locale =
          .ok prompt := by
    by_cases comparison : chat.mode = .comparison
    · rw [comparison]
      exact
        ⟨comparisonPrompt context chat.question ++ languageNote locale,
          rfl⟩
    · exact
        (servesOne_of_accepted locale accepted checked built
          comparison).prompt
  rcases written with ⟨prompt, isPrompt⟩
  refine ⟨prompt, isPrompt, ?_⟩
  rw [answerChat, built]
  change (buildPrompt chat.mode context chat.question locale >>= _) = _
  rw [isPrompt]
  rfl

end Accepted

/-- An answer belongs to an accepted request and to its context. -/
theorem exists_context_of_answered {assistant : Assistant}
    {tables : AssistantTables services} {locale : String}
    {request : ChatRequest} {response : String} {mode : ChatMode}
    (answered :
      AIAssistantController.chat assistant tables locale request =
        .ok (.answered response mode)) :
    ∃ chat context,
      validateChat assistant tables request = .ok chat ∧
        modeMessage? chat = none ∧
        chatContext assistant tables chat = .ok context ∧
        chat.mode = mode := by
  rw [AIAssistantController.chat] at answered
  cases accepted : validateChat assistant tables request with
  | error errors =>
      rw [accepted] at answered
      cases answered
  | ok chat =>
      rw [accepted] at answered
      dsimp only at answered
      cases checked : modeMessage? chat with
      | some message =>
          rw [checked] at answered
          cases answered
      | none =>
          rw [checked] at answered
          dsimp only at answered
          cases replied : answerChat assistant tables locale chat with
          | error throwable =>
              rw [replied] at answered
              cases throwable <;> cases answered
          | ok content =>
              rw [replied] at answered
              cases answered
              rcases bind_eq_ok_iff.mp replied with ⟨context, built, _⟩
              exact ⟨chat, context, rfl, checked, built, rfl⟩

/--
The context of an accepted request has the participants that its mode
needs, except when all values submitted for a comparison name one user.
-/
theorem serves_iff (assistant : Assistant)
    (tables : AssistantTables services) (locale : String)
    (request : ChatRequest) (chat : ValidatedChat) (context : Context)
    (accepted : validateChat assistant tables request = .ok chat)
    (checked : modeMessage? chat = none)
    (built : chatContext assistant tables chat = .ok context) :
    Serves assistant tables.users locale chat context ↔
      (chat.mode = .comparison →
        NamesTwoUsers assistant chat.participantIds) := by
  by_cases comparison : chat.mode = .comparison
  · rw [Serves, comparison]
    simp only [true_implies]
    exact servesComparison_iff accepted built
  · have serves :=
      servesOne_of_accepted locale accepted checked built comparison
    refine iff_of_true ?_ fun mode => (comparison mode).elim
    rw [Serves]
    cases mode : chat.mode with
    | comparison => exact (comparison mode).elim
    | _ => exact serves

/-! ## Two requests for a comparison -/

/-- Ids are compared as numbers, and rows come in the order of the table. -/
def sampleAssistant : Assistant where
  readId
    | .null => none
    | .text value =>
        if value.toList.all Char.isDigit then
          some (Nat.ofDigitChars 10 value.toList 0)
        else none
    | .number value =>
        if value.den = 1 && 0 ≤ value.num then some value.num.toNat
        else none
    | .boolean value => some value.toNat
  readId_null := rfl
  arrange := fun rows => rows
  arrange_perm := List.Perm.refl
  localAI := fun _ _ => .ok "Both are suitable."

def sampleAssistantTables : AssistantTables sampleServices where
  users := sampleAccounts.users
  assessments := [⟨1, .interview, some 0⟩]
  assessmentParticipants := [⟨1, 2⟩]

/-- A request to compare the users with two ids. -/
def comparisonOf (first second : String) : ChatRequest where
  mode := .text "comparison"
  participantIds := .array [.text first, .text second]
  assessmentId := .null
  missionDetails := .text "Lead a team"
  question := .null

/-- `comparisonOf` after the validation. -/
def validatedComparison (first second : String) : ValidatedChat where
  mode := .comparison
  participantIds := [.text first, .text second]
  assessmentId := .null
  missionDetails := some "Lead a team"
  question := none

def administratorShown : ContextParticipant where
  name := some "Super Admin"
  username := "superadmin"
  department := none
  rank := none
  assessments := []

def participantShown : ContextParticipant where
  name := none
  username := "participant"
  department := none
  rank := none
  assessments := [⟨1, .interview, "1970-01-01"⟩]

theorem serves_iff_two_users :
    Serves sampleAssistant sampleAssistantTables.users "en"
        (validatedComparison "1" "2")
        ⟨[administratorShown, participantShown], [], some "Lead a team"⟩ ↔
      ((validatedComparison "1" "2").mode = .comparison →
        NamesTwoUsers sampleAssistant
          (validatedComparison "1" "2").participantIds) :=
  serves_iff sampleAssistant sampleAssistantTables "en"
    (comparisonOf "1" "2") (validatedComparison "1" "2") _ rfl rfl rfl

/-- The id of one user twice passes the check and is one candidate. -/
theorem one_candidate_is_compared :
    validateChat sampleAssistant sampleAssistantTables
        (comparisonOf "1" "1") = .ok (validatedComparison "1" "1") ∧
      modeMessage? (validatedComparison "1" "1") = none ∧
      chatContext sampleAssistant sampleAssistantTables
          (validatedComparison "1" "1") =
        .ok ⟨[administratorShown], [], some "Lead a team"⟩ ∧
      ¬ Serves sampleAssistant sampleAssistantTables.users "en"
          (validatedComparison "1" "1")
          ⟨[administratorShown], [], some "Lead a team"⟩ := by
  refine ⟨rfl, rfl, rfl, ?_⟩
  intro serves
  rcases ServesComparison.distinct serves with
    ⟨first, isFirst, second, isSecond, differ⟩
  rw [List.mem_singleton] at isFirst isSecond
  rw [isFirst, isSecond] at differ
  exact differ rfl

end SultanPass.AIAssistantController
