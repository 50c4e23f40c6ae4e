import Jmap.Proofs.Received

/-!
Making one object. Whatever is made, only what the server says under the id of the creation
decides what becomes of it, and a refusal comes first.
-/

namespace Jmap

open Json Response

/-- What makes a single object, by the types of the object and of the report on it. -/
inductive Creation : Type → Type → Type
  | email (account : String) (email : Email) (replaced : Option String) : Creation Email Email
  | importedEmail (account : String) (message : EmailImport) : Creation Email Email
  | submission (account identityId emailId : String) (move : Option MoveMail) :
      Creation EmailSubmission SubmittedEmail
  | card (account : String) (card : ContactCard) : Creation ContactCard CreatedContactCard
  | blob (account : String) (data : Utf8.Bytes) (contentType : String) :
      Creation CreatedBlob UploadedBlob

namespace Creation

def task : {Object Report : Type} → Creation Object Report → Task Report
  | _, _, .email account message replaced => .createEmail account message replaced
  | _, _, .importedEmail account message => .importEmail account message
  | _, _, .submission account identityId emailId move =>
    .submitEmail account identityId emailId move
  | _, _, .card account contact => .createContactCard account contact
  | _, _, .blob account data contentType => .uploadBlob account data contentType

@[reducible] def method : {Object Report : Type} → Creation Object Report → Method
  | _, _, .email .. => .emailSet
  | _, _, .importedEmail .. => .emailImport
  | _, _, .submission .. => .submissionSet
  | _, _, .card .. => .cardSet
  | _, _, .blob .. => .blobUpload

def objectType : {Object Report : Type} → Creation Object Report → String
  | _, _, .email .. | _, _, .importedEmail .. => "Email"
  | _, _, .submission .. => "EmailSubmission"
  | _, _, .card .. => "ContactCard"
  | _, _, .blob .. => "Blob"

def creationId : {Object Report : Type} → Creation Object Report → String
  | _, _, .email .. | _, _, .card .. => "c"
  | _, _, .importedEmail .. => "i"
  | _, _, .submission .. => "s0"
  | _, _, .blob .. => "0"

def argument : {Object Report : Type} → Creation Object Report → String
  | _, _, .importedEmail .. => "emails"
  | _, _, _ => "create"

def problem : {Object Report : Type} → Creation Object Report → ResponseProblem
  | _, _, .email .. => .noOutcome "Email" "c"
  | _, _, .importedEmail .. => .noImportedEmail
  | _, _, .submission .. => .noOutcome "EmailSubmission" "s0"
  | _, _, .card .. => .noOutcome "ContactCard" "c"
  | _, _, .blob .. => .noCreatedBlob

def created : {Object Report : Type} → (creation : Creation Object Report) →
    creation.method.Result → Dict Object
  | _, _, .email .., result => result.created.getD .empty
  | _, _, .importedEmail .., result => result.created.getD .empty
  | _, _, .submission .., result => result.created.getD .empty
  | _, _, .card .., result => result.created.getD .empty
  | _, _, .blob .., result => result.created

def notCreated : {Object Report : Type} → (creation : Creation Object Report) →
    creation.method.Result → Dict SetError
  | _, _, .email .., result => result.notCreated.getD .empty
  | _, _, .importedEmail .., result => result.notCreated.getD .empty
  | _, _, .submission .., result => result.notCreated.getD .empty
  | _, _, .card .., result => result.notCreated.getD .empty
  | _, _, .blob .., result => result.notCreated

/-- The state that goes into the report. Only that on a card has one from the first call. -/
def state : {Object Report : Type} → (creation : Creation Object Report) →
    creation.method.Result → Option State
  | _, _, .card .., result => result.newState
  | _, _, _, _ => none

def report : {Object Report : Type} → Creation Object Report → Option State → Object →
    Response → Except JmapError Report
  | _, _, .email .., _, created, _ => .ok created
  | _, _, .importedEmail .., _, created, _ => .ok created
  | _, _, .submission _ _ emailId _, _, created, response => do
    let emailState ← Operation.decodeUpdate emailId response
    let fetched ← response.get .submissionGet "1"
    .ok { submission := fetched.list.headD created, emailState }
  | _, _, .card .., state, created, response => do
    let fetched ← response.get .cardGet "1"
    .ok { card := fetched.list.headD created, state }
  | _, _, .blob .., _, created, response => do
    let fetched ← response.get .blobGet "1"
    match fetched.list with
    | [kept] =>
      .ok
        { id := created.id
          size := created.size
          mediaType := created.mediaType
          sha512 := kept.digest? Operation.digestName
          state := some fetched.state }
    | others => .error (.invalidResponse (.severalUploads others.length))

variable {Object Report : Type} {creation : Creation Object Report} {session : Session}
  {response other : Response} {result otherResult : creation.method.Result}

theorem decode_eq (creation : Creation Object Report) (session : Session) (response : Response) :
    (creation.task.operation session).decode response = (do
      let result ← response.get creation.method "0"
      let object ← takeOutcome creation.objectType creation.creationId creation.problem
        (creation.created result) (creation.notCreated result)
      creation.report (creation.state result) object response) := by
  -- The report of a message is the message itself, so nothing follows the outcome there.
  cases creation with
  | email account message replaced =>
    exact congrArg (response.get .emailSet "0" >>= ·) (funext fun _ => (bind_pure _).symm)
  | importedEmail account message =>
    exact congrArg (response.get .emailImport "0" >>= ·) (funext fun _ => (bind_pure _).symm)
  | submission account identityId emailId move => rfl
  | card account contact => rfl
  | blob account data contentType => rfl

theorem decode_of_brings (clear : response.Clear)
    (brings : response.Brings creation.method "0" result) :
    (creation.task.operation session).decode response =
      (takeOutcome creation.objectType creation.creationId creation.problem
          (creation.created result) (creation.notCreated result) >>=
        fun object => creation.report (creation.state result) object response) := by
  rw [decode_eq, Receives.get (.result brings) clear]
  rfl

theorem report_congr (clear : response.Clear) (otherClear : other.Clear)
    (agrees : response.AgreesBeside other creation.method.name "0") (state : Option State)
    (object : Object) :
    creation.report state object other = creation.report state object response := by
  have noError := creation.method.name_ne_error
  cases creation with
  | email account message replaced => rfl
  | importedEmail account message => rfl
  | submission account identityId emailId move =>
    have update : other.get .emailSet "0" = response.get .emailSet "0" :=
      agrees.get noError clear otherClear (by simp [Method.name])
    have fetched : other.get .submissionGet "1" = response.get .submissionGet "1" :=
      agrees.get noError clear otherClear (by simp)
    simp only [report, Operation.decodeUpdate, update, fetched]
  | card account contact =>
    have fetched : other.get .cardGet "1" = response.get .cardGet "1" :=
      agrees.get noError clear otherClear (by simp)
    simp only [report, fetched]
  | blob account data contentType =>
    have fetched : other.get .blobGet "1" = response.get .blobGet "1" :=
      agrees.get noError clear otherClear (by simp)
    simp only [report, fetched]

theorem exists_asked (creation : Creation Object Report) (session : Session) :
    ∃ invocation ∈ (creation.task.operation session).invocations,
      invocation.method = creation.method ∧ invocation.tag = "0" ∧
      ∃ object, invocation.arguments.find? creation.argument =
        some (.obj [(creation.creationId, object)]) := by
  cases creation with
  | email account message replaced =>
    cases replaced with
    | none => exact ⟨_, .head _, rfl, rfl, _, (Dict.find?_ofList (by simp)).2 (.tail _ (.head _))⟩
    | some id =>
      exact ⟨_, .head _, rfl, rfl, _, (Dict.find?_ofList (by simp)).2 (.tail _ (.head _))⟩
  | _ => exact ⟨_, .head _, rfl, rfl, _, (Dict.find?_ofList (by simp)).2 (.tail _ (.head _))⟩

/-- Two results say the same under the id of the creation, whatever they say under other ids. -/
structure Agrees (creation : Creation Object Report) (result other : creation.method.Result) :
    Prop where
  made : (creation.created other).find? creation.creationId =
    (creation.created result).find? creation.creationId
  refused : (creation.notCreated other).find? creation.creationId =
    (creation.notCreated result).find? creation.creationId
  state : creation.state other = creation.state result

/-- What the server says under the id of a creation is read in the same way for all objects: as
a refusal if there is one, as no answer if nothing is said, and else as the object from which
the report is made. What it says under other ids makes no difference. -/
theorem outcome_under_own_id {request : Request} {bytes : Utf8.Bytes}
    (built : (creation.task.operation session).request session = .ok request)
    (accepts : request.Accepts bytes response)
    (brings : response.Brings creation.method "0" result) :
    (∃ invocation ∈ request.invocations, invocation.method = creation.method ∧
      invocation.tag = "0" ∧ ∃ object, invocation.arguments.find? creation.argument =
        some (.obj [(creation.creationId, object)])) ∧
    (∀ error, (creation.notCreated result).find? creation.creationId = some error →
      (creation.task.operation session).decode response =
        .error (.set creation.objectType creation.creationId error)) ∧
    ((creation.notCreated result).find? creation.creationId = none →
      (creation.created result).find? creation.creationId = none →
        (creation.task.operation session).decode response =
          .error (.invalidResponse creation.problem)) ∧
    (∀ object, (creation.notCreated result).find? creation.creationId = none →
      (creation.created result).find? creation.creationId = some object →
        (creation.task.operation session).decode response =
          creation.report (creation.state result) object response) ∧
    ∀ otherBytes other otherResult, request.Accepts otherBytes other →
      other.Brings creation.method "0" otherResult →
      response.AgreesBeside other creation.method.name "0" →
      creation.Agrees result otherResult →
        (creation.task.operation session).decode other =
          (creation.task.operation session).decode response := by
  have clear := accepts.clear built
  refine ⟨?_, ?_, ?_, ?_, ?_⟩
  · obtain ⟨-, rfl⟩ := Batch.build_eq_ok_iff.1 built
    exact creation.exists_asked session
  · intro error refused
    rw [decode_of_brings clear brings, takeOutcome_of_refused refused]
    rfl
  · intro accepted unmade
    rw [decode_of_brings clear brings, takeOutcome_of_neither accepted unmade]
    rfl
  · intro object accepted made
    rw [decode_of_brings clear brings, takeOutcome_of_made accepted made]
    rfl
  · intro otherBytes other otherResult otherAccepts otherBrings beside agrees
    have otherClear := otherAccepts.clear built
    rw [decode_of_brings clear brings, decode_of_brings otherClear otherBrings,
      takeOutcome_congr agrees.made agrees.refused, agrees.state]
    exact congrArg _ (funext fun object =>
      report_congr clear otherClear beside (creation.state result) object)

/-- A refusal comes before an object, and what is said of a creation that has not been asked for
changes nothing. -/
theorem outcome_under_own_id_refused :
    ∃ (request : Request) (bytes otherBytes : Utf8.Bytes) (response other : Response)
      (error : SetError),
      let task := (submission "" "i" "m" none).task
      (task.operation default).request default = .ok request ∧
      request.Accepts bytes response ∧ request.Accepts otherBytes other ∧
      (∃ object result, response.Brings .submissionSet "0" result ∧
        (result.created.getD .empty).find? "s0" = some object) ∧
      (∃ object result, other.Brings .submissionSet "0" result ∧
        (result.created.getD .empty).find? "s1" = some object) ∧
      (task.operation default).decode response = .error (.set "EmailSubmission" "s0" error) ∧
      (task.operation default).decode other = .error (.set "EmailSubmission" "s0" error) := by
  let made : Json := .obj [("id", .str "x")]
  let refusal : Json := .obj [("s0", .obj [("type", .str "forbidden")])]
  let document (created : List (String × Json)) : Json :=
    .obj
      [("methodResponses", .arr [.arr [.str "EmailSubmission/set",
          .obj [("accountId", .str "a"), ("created", .obj created), ("notCreated", refusal)],
          .str "0"]]),
        ("sessionState", .str "")]
  have fits : (document [("s0", made)]).Fits 0 := by
    simp [document, made, refusal, Fits, Integral, IntegralItems, IntegralMembers, depth,
      depthItems, depthMembers, Outline.deepest]
  have otherFits : (document [("s0", made), ("s1", made)]).Fits 0 := by
    simp [document, made, refusal, Fits, Integral, IntegralItems, IntegralMembers, depth,
      depthItems, depthMembers, Outline.deepest]
  have textRead : (Outline.ofBytes _).read RawResponse = .ok _ := Outline.read_render fits
  have otherRead : (Outline.ofBytes _).read RawResponse = .ok _ := Outline.read_render otherFits
  have parsed := (ofBytes?_eq_ok_iff textRead).2 ⟨_, rfl, rfl⟩
  have otherParsed := (ofBytes?_eq_ok_iff otherRead).2 ⟨_, rfl, rfl⟩
  have built : ((submission "" "i" "m" none).task.operation default).request default = .ok _ := rfl
  obtain ⟨-, refuses, -, -, ignores⟩ := outcome_under_own_id built ⟨parsed, rfl⟩
    ⟨_, .head _, rfl, rfl⟩
  have refused := refuses _ rfl
  have same := ignores _ _ _ ⟨otherParsed, rfl⟩ ⟨_, .head _, rfl, rfl⟩
    (by
      intro entry apart
      constructor
      all_goals
        intro member
        exact absurd (by rw [List.mem_singleton.1 member]; rfl) apart)
    ⟨rfl, rfl, rfl⟩
  exact ⟨_, _, _, _, _, _, built, ⟨parsed, rfl⟩, ⟨otherParsed, rfl⟩,
    ⟨_, _, ⟨_, .head _, rfl, rfl⟩, rfl⟩, ⟨_, _, ⟨_, .head _, rfl, rfl⟩, rfl⟩, refused,
    same.trans refused⟩

end Creation

end Jmap
