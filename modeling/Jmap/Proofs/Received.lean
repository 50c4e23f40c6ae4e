import Jmap.Proofs.Answered
import Jmap.Proofs.Declared

/-!
What a response holds for a call: a result, an error in its place, or nothing. One entry can be
another without effect on what the response holds for other calls.
-/

namespace Jmap

namespace Response

variable {response other : Response} {method : Method} {name tag : String}

def Brings (response : Response) (method : Method) (tag : String) (result : method.Result) :
    Prop :=
  ∃ entry ∈ response.entries, entry.key = (method.name, tag) ∧
    entry.body = .result ⟨method, result⟩

def Fails (response : Response) (tag : String) (error : MethodError) : Prop :=
  ∃ entry ∈ response.entries, entry.key = ("error", tag) ∧ entry.body = .error error

def Lacks (response : Response) (name tag : String) : Prop :=
  ∀ entry ∈ response.entries, entry.key ≠ (name, tag)

theorem lacks_of_keys {keys : List (String × String)}
    (listed : response.entries.map Entry.key = keys) (absent : (name, tag) ∉ keys) :
    response.Lacks name tag := by
  intro entry member same
  rw [← listed, ← same] at absent
  exact absent (List.mem_map_of_mem member)

/-- What comes of a call: the result that is brought, else the error, else the report that there
is neither. -/
inductive Receives (response : Response) (method : Method) (tag : String) :
    Except JmapError method.Result → Prop
  | result {result : method.Result} (brings : response.Brings method tag result) :
      Receives response method tag (.ok result)
  | error {error : MethodError} (lacks : response.Lacks method.name tag)
      (fails : response.Fails tag error) : Receives response method tag (.error (.method error))
  | nothing (lacks : response.Lacks method.name tag) (noError : response.Lacks "error" tag) :
      Receives response method tag (.error (.invalidResponse (.noResponse method tag)))

variable {outcome : Except JmapError method.Result}

theorem Receives.get (received : response.Receives method tag outcome)
    (clear : response.Clear) : response.get method tag = outcome := by
  rw [Response.get, getAs]
  cases received with
  | result brings =>
    obtain ⟨entry, member, own, body⟩ := brings
    rw [(Found.result member own rfl body).matchOne clear.distinct]
    simp only [MethodResult.as?_self]
  | error lacks fails =>
    obtain ⟨entry, member, failed, body⟩ := fails
    rw [(Found.error lacks member failed body).matchOne clear.distinct]
  | nothing lacks noError =>
    rw [(Found.nothing lacks noError).matchOne clear.distinct]

theorem Clear.exists_receives (clear : response.Clear) (method : Method) (tag : String) :
    ∃ outcome, response.Receives method tag outcome := by
  obtain ⟨outcome, found⟩ := exists_found clear.wellRead method tag
  cases found with
  | result member own same body =>
    rename_i entry value
    obtain ⟨_, result⟩ := value
    subst same
    exact ⟨_, .result ⟨entry, member, own, body⟩⟩
  | error absent member failed body => exact ⟨_, .error absent ⟨_, member, failed, body⟩⟩
  | nothing absent noError => exact ⟨_, .nothing absent noError⟩

theorem Clear.get_eq_iff (clear : response.Clear) :
    response.get method tag = outcome ↔ response.Receives method tag outcome := by
  constructor
  · rintro rfl
    obtain ⟨outcome, received⟩ := clear.exists_receives method tag
    rw [received.get clear]
    exact received
  · exact fun received => received.get clear

def AgreesBeside (response other : Response) (name tag : String) : Prop :=
  ∀ entry : Entry, entry.key ≠ (name, tag) → (entry ∈ other.entries ↔ entry ∈ response.entries)

namespace AgreesBeside

variable {otherName otherTag : String}

theorem lacks (agrees : response.AgreesBeside other name tag)
    (apart : (otherName, otherTag) ≠ (name, tag)) (lacks : response.Lacks otherName otherTag) :
    other.Lacks otherName otherTag := by
  intro entry member same
  exact lacks entry ((agrees entry (same ▸ apart)).1 member) same

theorem receives (agrees : response.AgreesBeside other name tag) (noError : name ≠ "error")
    (apart : (method.name, otherTag) ≠ (name, tag))
    (received : response.Receives method otherTag outcome) :
    other.Receives method otherTag outcome := by
  have errorApart : ("error", otherTag) ≠ (name, tag) := by
    intro same
    exact noError (congrArg Prod.fst same).symm
  cases received with
  | result brings =>
    obtain ⟨entry, member, own, body⟩ := brings
    exact .result ⟨entry, (agrees entry (own ▸ apart)).2 member, own, body⟩
  | error lacks fails =>
    obtain ⟨entry, member, failed, body⟩ := fails
    exact .error (agrees.lacks apart lacks)
      ⟨entry, (agrees entry (failed ▸ errorApart)).2 member, failed, body⟩
  | nothing lacks noError =>
    exact .nothing (agrees.lacks apart lacks) (agrees.lacks errorApart noError)

theorem get (agrees : response.AgreesBeside other name tag) (noError : name ≠ "error")
    (clear : response.Clear) (otherClear : other.Clear)
    (apart : (method.name, otherTag) ≠ (name, tag)) :
    other.get method otherTag = response.get method otherTag := by
  have received := clear.get_eq_iff.1 (Eq.refl (response.get method otherTag))
  exact (agrees.receives noError apart received).get otherClear

end AgreesBeside

end Response

theorem Request.Accepts.clear {batch : Batch} {request : Request} {bytes : Utf8.Bytes}
    {response : Response} (accepts : request.Accepts bytes response)
    (built : batch.build = .ok request) : response.Clear :=
  Response.clear_of_correlate built accepts.parsed accepts.correlated

theorem Client.perform_eq_decode {World α : Type} {client : Client World} {session : Session}
    {operation : Operation α} {world after : World} {request : Request} {response : Response}
    {answer : TransportResponse} (built : operation.request session = .ok request)
    (posted : client.transport.post session.apiUrl.render session.username
      (Utf8.encode request.render) world = (.ok answer, after))
    (live : client.check after = .ok ()) (accepts : request.Accepts answer.body response) :
    (client.perform session operation world).1 = (operation.decode response).map (fun value =>
      { value, sessionState := response.sessionState, language := answer.language }) := by
  simp only [perform, built, command, posted, live, accepts.parsed, accepts.correlated]
  rfl

/-! The object under a creation id: refused, made, or not mentioned. -/

section

variable {α : Type} {objectType creationId : String} {problem : ResponseProblem}
  {created : Dict α} {notCreated : Dict SetError}

theorem takeOutcome_of_refused {error : SetError}
    (refused : notCreated.find? creationId = some error) :
    takeOutcome objectType creationId problem created notCreated =
      .error (.set objectType creationId error) := by
  rw [takeOutcome, refused]

theorem takeOutcome_of_made {object : α} (accepted : notCreated.find? creationId = none)
    (made : created.find? creationId = some object) :
    takeOutcome objectType creationId problem created notCreated = .ok object := by
  simp only [takeOutcome, accepted, made]

theorem takeOutcome_of_neither (accepted : notCreated.find? creationId = none)
    (unmade : created.find? creationId = none) :
    takeOutcome objectType creationId problem created notCreated =
      .error (.invalidResponse problem) := by
  simp only [takeOutcome, accepted, unmade]

theorem takeOutcome_congr {otherCreated : Dict α} {otherNotCreated : Dict SetError}
    (sameMade : otherCreated.find? creationId = created.find? creationId)
    (sameRefused : otherNotCreated.find? creationId = notCreated.find? creationId) :
    takeOutcome objectType creationId problem otherCreated otherNotCreated =
      takeOutcome objectType creationId problem created notCreated := by
  simp only [takeOutcome, sameMade, sameRefused]

end

end Jmap
