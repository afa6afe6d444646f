import SultanPass.Library.CivilDate
import SultanPass.Users

/-!
# `AIAssistantController`

A chat request of the AI assistant: the rules that it has to satisfy, the
checks of its mode, the users that it selects, the context that is built
from them, and the prompt for the language model.

The checks count the submitted ids.  The users come from a query for these
ids, which returns every row once, however often its id was submitted.
-/

namespace SultanPass.AIAssistantController

open SultanPass.Library
open SultanPass.Library.Calendar
open SultanPass.AssessmentController (isEmptyText)

/-! ## Requests -/

/--
A scalar of the request, after the middleware has trimmed the texts and
replaced the empty ones by null.
-/
inductive Submitted where
  | null
  | text (value : String)
  | number (value : ℚ)
  | boolean (value : Bool)
deriving DecidableEq, Repr

/-- PHP's `empty()`; a value is truthy when it is not empty. -/
def Submitted.isEmpty : Submitted → Bool
  | .null => true
  | .text value => isEmptyText value
  | .number value => value = 0
  | .boolean value => !value

/-- What a request has under `participant_ids`. -/
inductive SubmittedIds where
  | scalar (value : Submitted)
  | array (values : List Submitted)
deriving DecidableEq, Repr

structure ChatRequest where
  mode : Submitted
  participantIds : SubmittedIds
  assessmentId : Submitted
  missionDetails : Submitted
  question : Submitted
deriving DecidableEq, Repr

inductive ChatMode where
  | testBased
  | missionBased
  | overall
  | comparison
deriving DecidableEq, Repr

/-- The rule `in:test_based,mission_based,overall,comparison`. -/
def ChatMode.ofText? (text : String) : Option ChatMode :=
  if text = "test_based" then some .testBased
  else if text = "mission_based" then some .missionBased
  else if text = "overall" then some .overall
  else if text = "comparison" then some .comparison
  else none

/-- `$validated`. -/
structure ValidatedChat where
  mode : ChatMode
  participantIds : List Submitted
  assessmentId : Submitted
  missionDetails : Option String
  question : Option String
deriving DecidableEq, Repr

/-! ## Tables and services -/

/-- The columns of `assessments` that the context shows. -/
structure DatedAssessment where
  id : AssessmentId
  type : AssessmentType
  createdAt : Option ℤ
deriving DecidableEq, Repr

/-- The tables that the assistant reads. -/
structure AssistantTables (services : Services) where
  users : UsersTable services
  assessments : List DatedAssessment
  assessmentParticipants : List Pair

/-- What PHP code can throw. -/
inductive Throwable where
  | exception (message : String)
  | error (message : String)
deriving DecidableEq, Repr

structure ChatMessage where
  role : String
  content : String
deriving DecidableEq, Repr

structure ChatOptions where
  temperature : ℚ
  maxTokens : ℕ
deriving DecidableEq, Repr

/--
What the database and the language model bring along: the id that a bound
value is compared as, the order of the rows of a query that asks for none,
and the content of the first choice of a reply.
-/
structure Assistant where
  readId : Submitted → Option ℕ
  readId_null : readId .null = none
  arrange : {Row : Type} → List Row → List Row
  arrange_perm : ∀ {Row : Type} (rows : List Row),
    (arrange rows).Perm rows
  localAI : List ChatMessage → ChatOptions → Except Throwable String

variable {services : Services}

/-! ## Validation -/

def validateMode : Submitted → Validated ChatMode
  | .null => .error [⟨"mode", "required"⟩]
  | .text text =>
      match ChatMode.ofText? text with
      | some mode => .ok mode
      | none => .error [⟨"mode", "in"⟩]
  | _ => .error [⟨"mode", "in"⟩]

/-- The rules `required|array|min:1`. -/
def validateParticipantIds : SubmittedIds → Validated (List Submitted)
  | .scalar .null => .error [⟨"participant_ids", "required"⟩]
  | .scalar (.boolean false) =>
      .error [⟨"participant_ids", "array"⟩, ⟨"participant_ids", "min"⟩]
  | .scalar _ => .error [⟨"participant_ids", "array"⟩]
  | .array [] => .error [⟨"participant_ids", "required"⟩]
  | .array values => .ok values

def SubmittedIds.elements : SubmittedIds → List Submitted
  | .scalar _ => []
  | .array values => values

/-- The rule `exists:users,id`. -/
def userExists (assistant : Assistant) (users : UsersTable services)
    (value : Submitted) : Bool :=
  users.rows.any fun user => assistant.readId value = some user.id

/-- The rule for `participant_ids.*`. -/
def validateElements (assistant : Assistant)
    (users : UsersTable services) (values : List Submitted) :
    Validated Unit :=
  match
    values.zipIdx.filter fun entry =>
      !userExists assistant users entry.1 with
  | [] => .ok ()
  | missing =>
      .error
        (missing.map fun entry =>
          ⟨"participant_ids." ++ entry.2.repr, "exists"⟩)

/-- The rules `nullable|exists:assessments,id`. -/
def validateAssessmentId (assistant : Assistant)
    (assessments : List DatedAssessment) (value : Submitted) :
    Validated Submitted :=
  if value = .null then .ok value
  else if
      assessments.any fun assessment =>
        assistant.readId value = some assessment.id then
    .ok value
  else .error [⟨"assessment_id", "exists"⟩]

/-- The rules `nullable|string`. -/
def validateString (field : String) :
    Submitted → Validated (Option String)
  | .null => .ok none
  | .text value => .ok (some value)
  | _ => .error [⟨field, "string"⟩]

/-- The rules of a chat request; those of the elements come last. -/
def validateChat (assistant : Assistant)
    (tables : AssistantTables services) (request : ChatRequest) :
    Validated ValidatedChat :=
  (Validated.both (validateMode request.mode)
      (.both (validateParticipantIds request.participantIds)
        (.both
          (validateAssessmentId assistant tables.assessments
            request.assessmentId)
          (.both (validateString "mission_details" request.missionDetails)
            (.both (validateString "question" request.question)
              (validateElements assistant tables.users
                request.participantIds.elements)))))).map
    fun (mode, participantIds, assessmentId, missionDetails, question, _) =>
      { mode := mode
        participantIds := participantIds
        assessmentId := assessmentId
        missionDetails := missionDetails
        question := question }

/-- `empty()` of a text that may be null. -/
def isEmptyText? : Option String → Bool
  | none => true
  | some text => isEmptyText text

/-- The message with which a mode is refused. -/
def modeMessage? (chat : ValidatedChat) : Option String :=
  match chat.mode with
  | .testBased =>
      if chat.participantIds.length ≠ 1 then
        some "Test-Based Analysis requires exactly one participant"
      else if chat.assessmentId.isEmpty then
        some "Test-Based Analysis requires a specific assessment"
      else none
  | .missionBased =>
      if chat.participantIds.length ≠ 1 then
        some "Mission Fit requires exactly one participant"
      else if isEmptyText? chat.missionDetails then
        some "Mission Fit requires mission/role details"
      else none
  | .overall =>
      if chat.participantIds.length ≠ 1 then
        some "Overall Analysis requires exactly one participant"
      else none
  | .comparison =>
      if chat.participantIds.length < 2 then
        some "Comparison requires at least 2 participants"
      else if isEmptyText? chat.missionDetails then
        some "Comparison requires mission/role details"
      else none

/-! ## Queries -/

/-- `User::whereIn('id', $participantIds)`. -/
def selectedUsers (assistant : Assistant)
    (users : UsersTable services) (participantIds : List Submitted) :
    List UserAccount :=
  assistant.arrange
    (users.rows.filter fun user =>
      participantIds.any fun value =>
        assistant.readId value = some user.id)

/-- `$participant->assessments`, restricted to the given assessment. -/
def relatedAssessments (assistant : Assistant)
    (tables : AssistantTables services) (assessmentId : Submitted)
    (participant : UserAccount) : List DatedAssessment :=
  assistant.arrange
    ((tables.assessmentParticipants.filterMap fun row =>
        if row.participantId = participant.id then
          tables.assessments.find? fun assessment =>
            assessment.id = row.assessmentId
        else none).filter fun assessment =>
      assessmentId.isEmpty ||
        assistant.readId assessmentId = some assessment.id)

/-! ## Context -/

structure ContextAssessment where
  id : AssessmentId
  type : AssessmentType
  date : String
deriving DecidableEq, Repr

structure ContextParticipant where
  name : Option String
  username : String
  department : Option String
  rank : Option String
  assessments : List ContextAssessment
deriving DecidableEq, Repr

structure Context where
  participants : List ContextParticipant
  assessments : List ContextAssessment
  mission : Option String
deriving DecidableEq, Repr

def contextAssessment (assessment : DatedAssessment) :
    Except Throwable ContextAssessment :=
  match assessment.createdAt with
  | none =>
      .error (.error "Call to a member function format() on null")
  | some createdAt =>
      .ok
        { id := assessment.id
          type := assessment.type
          date := dateText (dayAt createdAt) }

/-- `$participantData`. -/
def participantData
    (participant : UserAccount × List DatedAssessment) :
    Except Throwable ContextParticipant := do
  let assessments ← participant.2.mapM contextAssessment
  return {
    name := participant.1.fullName
    username := participant.1.username
    department := participant.1.department
    rank := participant.1.rank
    assessments := assessments }

def buildContext
    (participants : List (UserAccount × List DatedAssessment))
    (missionDetails : Option String) : Except Throwable Context := do
  let participants ← participants.mapM participantData
  return {
    participants := participants
    assessments := []
    mission := missionDetails }

/-- The context of a request that has passed the checks. -/
def chatContext (assistant : Assistant)
    (tables : AssistantTables services) (chat : ValidatedChat) :
    Except Throwable Context :=
  buildContext
    ((selectedUsers assistant tables.users chat.participantIds).map
      fun participant =>
        (participant,
          relatedAssessments assistant tables chat.assessmentId
            participant))
    chat.missionDetails

/-! ## Prompts -/

/-- `$context['participants'][0]`. -/
def firstParticipant (context : Context) :
    Except Throwable ContextParticipant :=
  match context.participants with
  | [] => .error (.exception "Undefined array key 0")
  | participant :: _ => .ok participant

/-- `$value ?? 'N/A'`. -/
def orNotAvailable (value : Option String) : String :=
  value.getD "N/A"

/-- The name, the rank and the department of a participant. -/
def describeParticipant (participant : ContextParticipant) : String :=
  participant.name.getD "" ++ " - " ++
    orNotAvailable participant.rank ++ " (" ++
    orNotAvailable participant.department ++ ")\n"

/-- `$question ?: $default`. -/
def questionOr (question : Option String) (default : String) : String :=
  if isEmptyText? question then default else question.getD ""

def typeText : AssessmentType → String
  | .psychometric => "psychometric"
  | .interview => "interview"
  | .groupExercise => "group_exercise"
  | .writtenTest => "written_test"
  | .rolePlay => "role_play"
  | .committeeInterview => "committee_interview"
  | .other => "other"

def ucfirst (text : String) : String :=
  match text.toList with
  | [] => ""
  | first :: rest => String.ofList (first.toUpper :: rest)

def isArabic (locale : String) : Bool :=
  locale = "ar"

def contextOnly : String :=
  "CONTEXT (for you only, do not repeat mechanically):\n"

def testBasedPrompt (context : Context) (question : Option String)
    (locale : String) : Except Throwable String := do
  let participant ← firstParticipant context
  let related :=
    if participant.assessments = [] then ""
    else
      "Related assessments:\n" ++
        String.join
          (participant.assessments.map fun assessment =>
            "- " ++ ucfirst (typeText assessment.type) ++ " on " ++
              assessment.date ++ "\n")
  return contextOnly ++ "Participant: " ++
    describeParticipant participant ++ related ++
    "\nUSER QUESTION (answer this kindly and directly):\n" ++
    questionOr question
      (if isArabic locale then
        "أعطني انطباعاً نفسياً عاماً عن أداء هذا المشارك في هذا الاختبار."
      else
        "Give me a brief psychological view of this participant's " ++
          "performance in the test.") ++
    "\n\nUse the assessments as background only. Speak like a " ++
    "psychologist talking to a colleague: " ++
    "1–2 short paragraphs and a few concrete observations or suggestions."

def missionBasedPrompt (context : Context) (question : Option String)
    (locale : String) : Except Throwable String := do
  let participant ← firstParticipant context
  let mission :=
    if isEmptyText? context.mission then ""
    else
      "Mission / role description:\n" ++ context.mission.getD "" ++ "\n\n"
  return contextOnly ++ "Candidate: " ++ describeParticipant participant ++
    "Assessments completed: " ++ participant.assessments.length.repr ++
    "\n\n" ++ mission ++
    "USER QUESTION (answer this as a psychologist thinking about " ++
    "mission fit):\n" ++
    questionOr question
      (if isArabic locale then
        "هل هذا المشارك مناسب لهذه المهمة من ناحية السلوك والكفاءة النفسية؟"
      else
        "Is this participant a good fit for this mission from a " ++
          "behavioral and psychological perspective?") ++
    "\n\nUse the assessments only as background. Give a short, human " ++
    "explanation of fit, " ++
    "with 2–3 key strengths and 2–3 concerns in natural language."

def overallPrompt (context : Context) (question : Option String)
    (locale : String) : Except Throwable String := do
  let participant ← firstParticipant context
  return contextOnly ++ "Candidate: " ++ describeParticipant participant ++
    "Total assessments: " ++ participant.assessments.length.repr ++
    "\n\n" ++
    "USER QUESTION (overall psychological reflection):\n" ++
    questionOr question
      (if isArabic locale then
        "أعطني صورة نفسية عامة عن هذا المشارك، نقاط قوته والجوانب التي " ++
          "تحتاج إلى دعم."
      else
        "Give me an overall psychological view of this participant, " ++
          "including key strengths and areas that need support.") ++
    "\n\nReply in a warm, human tone, as if you know the candidate well " ++
    "from their assessments. " ++
    "1–2 short paragraphs are enough, plus a few practical suggestions."

/-- The candidates with the numbers under which the prompt lists them. -/
def numberedCandidates (context : Context) :
    List (ℕ × ContextParticipant) :=
  context.participants.zipIdx.map fun entry => (entry.2 + 1, entry.1)

def comparisonPrompt (context : Context) (question : Option String) :
    String :=
  let mission :=
    if isEmptyText? context.mission then ""
    else "\nMission requirements:\n" ++ context.mission.getD "" ++ "\n"
  let focus :=
    if isEmptyText? question then ""
    else
      "\nUSER QUESTION (focus of the comparison):\n" ++
        question.getD "" ++ "\n"
  contextOnly ++
    "We are comparing several candidates for a mission.\n" ++
    "Candidates:\n" ++
    String.join
      ((numberedCandidates context).map fun candidate =>
        candidate.1.repr ++ ". " ++ describeParticipant candidate.2) ++
    mission ++ focus ++
    "\nUse the assessment history only as background. Give a short, " ++
    "intuitive comparison like a psychologist advising a selection " ++
    "panel: " ++
    "who seems the best fit and why, and any major psychological risks " ++
    "or support needs."

/-- What is added for an Arabic interface. -/
def languageNote (locale : String) : String :=
  if isArabic locale then
    "\n\nمهم: استخدم لغة عربية فصحى بسيطة وواضحة، وتحدّث بأسلوب إنساني " ++
      "موجّه للمستخدم، " ++ "وليس تقريراً رقمياً جامداً."
  else ""

def buildPrompt (mode : ChatMode) (context : Context)
    (question : Option String) (locale : String) :
    Except Throwable String := do
  let prompt ←
    match mode with
    | .testBased => testBasedPrompt context question locale
    | .missionBased => missionBasedPrompt context question locale
    | .overall => overallPrompt context question locale
    | .comparison => .ok (comparisonPrompt context question)
  return prompt ++ languageNote locale

/-- `$systemInstruction`. -/
def systemInstruction (locale : String) : String :=
  "You are an experienced organizational psychologist who understands " ++
    "each applicant through their assessment data. " ++
    "Provide clear, concise, and human insights. Use short paragraphs " ++
    "and simple bullet points. " ++
    "Be warm, empathetic, and avoid repetition. " ++
    "CRITICAL: Use ONLY plain text. Never use markdown symbols like " ++
    "**, ###, ####, or other formatting characters. " ++
    if isArabic locale then
      "The user interface language is Arabic. You MUST write your entire " ++
        "answer in Modern Standard Arabic only. " ++
        "Do NOT use any Chinese characters or Chinese words at all. " ++
        "If the input contains English or Chinese, understand it " ++
        "internally but rephrase everything in Arabic."
    else
      "Respond in the interface language '" ++ locale ++
        "' when possible and avoid using Chinese characters " ++
        "unless the user explicitly asks for a Chinese translation."

/-! ## The chat -/

/-- The answers of `chat`; `refused` and `invalid` have the status 422. -/
inductive ChatReply where
  | invalid (errors : List FieldError)
  | refused (message : String)
  | answered (response : String) (mode : ChatMode)
  | failed (message : String)
deriving DecidableEq, Repr

/-- The `try` block of `chat`. -/
def answerChat (assistant : Assistant)
    (tables : AssistantTables services) (locale : String)
    (chat : ValidatedChat) : Except Throwable String := do
  let context ← chatContext assistant tables chat
  let prompt ← buildPrompt chat.mode context chat.question locale
  assistant.localAI
    [{ role := "system", content := systemInstruction locale },
      { role := "user", content := prompt }]
    { temperature := 1 / 2, maxTokens := 500 }

/-- `chat`; it catches exceptions and no errors. -/
def chat (assistant : Assistant) (tables : AssistantTables services)
    (locale : String) (request : ChatRequest) :
    Except Throwable ChatReply :=
  match validateChat assistant tables request with
  | .error errors => .ok (.invalid errors)
  | .ok chat =>
      match modeMessage? chat with
      | some message => .ok (.refused message)
      | none =>
          match answerChat assistant tables locale chat with
          | .ok response => .ok (.answered response chat.mode)
          | .error (.exception message) => .ok (.failed message)
          | .error (.error message) => .error (.error message)

end SultanPass.AIAssistantController
