import Jmap.Proofs.Decoding

/-!
What a request declares to use, beside what the responses to it may carry. A response of one
entry is enough to carry a result of a method.
-/

namespace Jmap

open Json

structure Request.Accepts (request : Request) (bytes : Utf8.Bytes) (response : Response) :
    Prop where
  parsed : Response.ofBytes? bytes = .ok response
  correlated : response.correlate request = .ok ()

structure Entry.Holds (entry : Entry) (method : Method) : Prop where
  name : entry.name = method.name
  result : ∃ value : method.Result, entry.body = .result ⟨method, value⟩

def Request.MayCarry (request : Request) (method : Method) : Prop :=
  ∃ bytes response, request.Accepts bytes response ∧
    ∃ entry ∈ response.entries, entry.Holds method

/-- The method is invoked, or called by the server on its own in the course of that. -/
def Invocation.Runs (invocation : Invocation) (method : Method) : Prop :=
  method = invocation.method ∨ method.isCompanionOf invocation.method = true

namespace Method

def leastArguments : Json :=
  .obj [("accountId", .str ""), ("newState", .str ""), ("oldState", .str "")]

theorem exists_read_leastArguments (method : Method) :
    ∃ value, read? method.Result leastArguments = .ok value := by
  cases method <;> exact ⟨_, rfl⟩

def leastResponse (method : Method) (tag : String) : Json :=
  .obj
    [("methodResponses", .arr [.arr [.str method.name, leastArguments, .str tag]]),
      ("sessionState", .str "")]

theorem fits_leastResponse (method : Method) (tag : String) :
    (leastResponse method tag).Fits 0 := by
  simp [leastResponse, leastArguments, Fits, Integral, IntegralItems, IntegralMembers, depth,
    depthItems, depthMembers, Outline.deepest]

theorem exists_leastResponse (method : Method) (tag : String) :
    ∃ bytes response entry, Response.ofBytes? bytes = .ok response ∧
      response.entries = [entry] ∧ entry.tag = tag ∧ entry.Holds method := by
  obtain ⟨value, valueRead⟩ := method.exists_read_leastArguments
  have textRead : (Outline.ofBytes (Utf8.encode (leastResponse method tag).render)).read
      RawResponse = .ok ⟨[(method.name, leastArguments, tag)], ⟨""⟩, none⟩ := by
    rw [Outline.read_render (fits_leastResponse method tag)]
    rfl
  have decoded : Entry.decode method.name leastArguments tag =
      .ok ⟨method.name, tag, .result ⟨method, value⟩⟩ := by
    rw [Entry.decode_name, MethodResult.ofJson?_eq_ok_iff.2 ⟨value, valueRead, rfl⟩]
  have allDecoded : Response.decodeEntries [(method.name, leastArguments, tag)] =
      .ok [⟨method.name, tag, .result ⟨method, value⟩⟩] := by
    rw [Response.decodeEntries, decoded]
    rfl
  exact ⟨_, _, _, (Response.ofBytes?_eq_ok_iff textRead).2 ⟨_, allDecoded, rfl⟩, rfl, rfl, rfl,
    value, rfl⟩

end Method

namespace Request

variable {batch : Batch} {request : Request} {method : Method} {invocation : Invocation}

theorem mem_capabilities_iff (built : batch.build = .ok request) {capability : Capability} :
    capability ∈ request.capabilities ↔ capability = .core ∨
      ∃ invocation ∈ request.invocations, ∃ method : Method,
        invocation.Runs method ∧ method.capability = capability := by
  obtain ⟨-, rfl⟩ := Batch.build_eq_ok_iff.1 built
  rw [Batch.mem_capabilities_iff]
  refine or_congr_right (exists_congr (fun invocation => and_congr_right (fun _ => ?_)))
  constructor
  · rintro (rfl | ⟨companion, called, rfl⟩)
    · exact ⟨invocation.method, .inl rfl, rfl⟩
    · exact ⟨companion, .inr called, rfl⟩
  · rintro ⟨method, rfl | called, rfl⟩
    · exact .inl rfl
    · exact .inr ⟨method, called, rfl⟩

theorem Accepts.holds {bytes : Utf8.Bytes} {response : Response} {entry : Entry}
    (accepts : request.Accepts bytes response) (built : batch.build = .ok request)
    (member : entry ∈ response.entries) (noError : entry.name ≠ "error") :
    ∃ invocation ∈ request.invocations, ∃ method : Method,
      invocation.Runs method ∧ entry.Holds method := by
  have answers := (Response.correlate_eq_ok_iff (Batch.distinct_of_build built)).1
    accepts.correlated
  have wellRead := Response.wellRead_of_ofBytes? accepts.parsed entry member
  have holds (method : Method) (same : entry.name = method.name) : entry.Holds method := by
    obtain ⟨⟨own, value⟩, rfl, body⟩ := wellRead.result method same
    exact ⟨same, value, body⟩
  obtain ⟨invocation, called, -, fits⟩ := answers.matched entry member
  refine ⟨invocation, called, ?_⟩
  cases fits with
  | own same => exact ⟨invocation.method, .inl rfl, holds _ same⟩
  | error failed => exact absurd failed noError
  | companion companion called same => exact ⟨companion, .inr called, holds _ same⟩

theorem mayCarry_of_runs (built : batch.build = .ok request)
    (called : invocation ∈ request.invocations) (runs : invocation.Runs method) :
    request.MayCarry method := by
  obtain ⟨bytes, response, entry, parsed, only, tag, holds⟩ :=
    method.exists_leastResponse invocation.tag
  have listed : entry ∈ response.entries := by rw [only]; exact List.mem_singleton_self entry
  have fits : entry.Fits invocation := by
    rcases runs with rfl | companion
    · exact .own holds.name
    · exact .companion method companion holds.name
  have answers : response.Answers request := by
    constructor
    case matched =>
      intro other member
      rw [only, List.mem_singleton] at member
      subst member
      exact ⟨invocation, called, tag.symm, fits⟩
    case distinct =>
      rw [only]
      simp
  have correlated := (Response.correlate_eq_ok_iff (Batch.distinct_of_build built)).2 answers
  exact ⟨bytes, response, ⟨parsed, correlated⟩, entry, listed, holds⟩

theorem mayCarry_iff (built : batch.build = .ok request) :
    request.MayCarry method ↔ ∃ invocation ∈ request.invocations, invocation.Runs method := by
  constructor
  · rintro ⟨bytes, response, accepts, entry, member, holds⟩
    have noError : entry.name ≠ "error" := by rw [holds.name]; exact method.name_ne_error
    obtain ⟨invocation, called, other, runs, otherHolds⟩ := accepts.holds built member noError
    obtain rfl : method = other := Method.name_injective (holds.name.symm.trans otherHolds.name)
    exact ⟨invocation, called, runs⟩
  · rintro ⟨invocation, called, runs⟩
    exact mayCarry_of_runs built called runs

/-- Whatever a response may carry for a request is declared by the request, and apart from the
core nothing else is: each entry of a response that is accepted is an error or the result of a
method whose capability is declared, and each other capability that is declared is that of a
method whose result some response may carry. -/
theorem declares_what_responses_carry (built : batch.build = .ok request) :
    (∀ bytes response, request.Accepts bytes response → ∀ entry ∈ response.entries,
      entry.name ≠ "error" →
        ∃ method : Method, entry.Holds method ∧ method.capability ∈ request.capabilities) ∧
    (∀ method : Method, request.MayCarry method ↔
      ∃ invocation ∈ request.invocations, invocation.Runs method) ∧
    ∀ capability, capability ∈ request.capabilities ↔
      capability = .core ∨ ∃ method : Method,
        method.capability = capability ∧ request.MayCarry method := by
  refine ⟨?_, fun method => mayCarry_iff built, ?_⟩
  · intro bytes response accepts entry member noError
    obtain ⟨invocation, called, method, runs, holds⟩ := accepts.holds built member noError
    exact ⟨method, holds,
      (mem_capabilities_iff built).2 (.inr ⟨invocation, called, method, runs, rfl⟩)⟩
  · intro capability
    rw [mem_capabilities_iff built]
    refine or_congr_right ⟨?_, ?_⟩
    · rintro ⟨invocation, called, method, runs, same⟩
      exact ⟨method, same, mayCarry_of_runs built called runs⟩
    · rintro ⟨method, same, carries⟩
      obtain ⟨invocation, called, runs⟩ := (mayCarry_iff built).1 carries
      exact ⟨invocation, called, method, runs, same⟩

/-- Mail is declared for a submission alone, since the server may answer with the result of an
update that it makes on its own. -/
theorem declares_for_companion :
    ∃ (request : Request) (bytes : Utf8.Bytes) (response : Response) (entry : Entry),
      Batch.build { invocations := [⟨.submissionSet, .empty, "s"⟩] } = .ok request ∧
      request.capabilities = [.core, .mail, .submission] ∧
      request.Accepts bytes response ∧ entry ∈ response.entries ∧ entry.Holds .emailSet ∧
      (∃ method : Method, entry.Holds method ∧ method.capability ∈ request.capabilities) ∧
      ¬request.MayCarry .emailGet := by
  have built : Batch.build { invocations := [⟨.submissionSet, .empty, "s"⟩] } = .ok _ := rfl
  obtain ⟨declared, carried, -⟩ := declares_what_responses_carry built
  obtain ⟨bytes, response, accepts, entry, member, holds⟩ :=
    (carried .emailSet).2 ⟨_, List.mem_singleton_self _, .inr rfl⟩
  have noError : entry.name ≠ "error" := by rw [holds.name]; decide
  refine ⟨_, bytes, response, entry, built, rfl, accepts, member, holds,
    declared bytes response accepts entry member noError, fun carries => ?_⟩
  obtain ⟨invocation, called, runs⟩ := (carried .emailGet).1 carries
  rw [List.mem_singleton.1 called] at runs
  rcases runs with same | companion
  · cases same
  · cases companion

end Request

end Jmap
