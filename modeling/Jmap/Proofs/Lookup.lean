import Jmap.Proofs.Correlation

namespace Jmap

theorem Method.name_ne_error (method : Method) : method.name ≠ "error" := by
  intro same
  have found := Method.ofName?_name method
  rw [show method.name = Method.errorName from same, Method.ofName?_errorName] at found
  cases found

namespace MethodResult

theorem method_of_ofJson? {method : Method} {arguments : Json} {result : MethodResult}
    (read : ofJson? method arguments = .ok result) : result.method = method := by
  rw [ofJson?] at read
  cases outcome : Json.read? method.Result arguments with
  | error error =>
    rw [outcome] at read
    cases read
  | ok value =>
    rw [outcome] at read
    cases read
    rfl

end MethodResult

namespace Entry

/-- The body of an entry goes with its name: errors carry the error, and methods a result
of their own. -/
structure WellRead (entry : Entry) : Prop where
  error : entry.name = "error" → ∃ error, entry.body = .error error
  result : ∀ method : Method, entry.name = method.name →
    ∃ value : MethodResult, value.method = method ∧ entry.body = .result value

variable {entry : Entry}

theorem wellRead_of_decode {name tag : String} {arguments : Json}
    (decoded : decode name arguments tag = .ok entry) : entry.WellRead := by
  rw [decode] at decoded
  split at decoded
  · rename_i failed
    split at decoded
    · rename_i error read
      cases decoded
      exact ⟨fun _ => ⟨error, rfl⟩,
        fun method same => absurd (same.symm.trans failed) method.name_ne_error⟩
    · cases decoded
  · rename_i noError
    split at decoded
    · rename_i method registered
      split at decoded
      · rename_i result read
        cases decoded
        refine ⟨fun failed => absurd failed noError, fun other same => ⟨result, ?_, rfl⟩⟩
        rw [MethodResult.method_of_ofJson? read]
        exact Method.name_injective ((Method.ofName?_eq_some_iff.1 registered).trans same)
      · cases decoded
    · rename_i unregistered
      cases decoded
      refine ⟨fun failed => absurd failed noError, fun method same => ?_⟩
      rw [show name = method.name from same, Method.ofName?_name] at unregistered
      cases unregistered

def outcome (entry : Entry) (method : Method) (tag : String) :
    Except JmapError MethodResult :=
  match entry.body with
  | .result value => .ok value
  | .error error => .error (.method error)
  | .unrecognized _ => .error (.invalidResponse (.undecoded method tag))

end Entry

namespace Response

variable {response other : Response} {entry : Entry} {entries : List Entry} {method : Method}
  {tag : String}

theorem wellRead_of_decodeEntries {raw : List (String × Json × String)}
    (decoded : decodeEntries raw = .ok entries) : ∀ entry ∈ entries, entry.WellRead := by
  induction raw generalizing entries with
  | nil =>
    cases decoded
    simp
  | cons head rest ih =>
    obtain ⟨name, arguments, tag⟩ := head
    rw [decodeEntries] at decoded
    cases first : Entry.decode name arguments tag with
    | error problem =>
      rw [first] at decoded
      cases decoded
    | ok entry =>
      cases others : decodeEntries rest with
      | error problem =>
        rw [first, others] at decoded
        cases decoded
      | ok tail =>
        rw [first, others] at decoded
        cases decoded
        rw [List.forall_mem_cons]
        exact ⟨Entry.wellRead_of_decode first, ih others⟩

theorem wellRead_of_ofBytes? {bytes : Utf8.Bytes} (parsed : ofBytes? bytes = .ok response) :
    ∀ entry ∈ response.entries, entry.WellRead := by
  rw [ofBytes?] at parsed
  split at parsed
  · cases parsed
  · rename_i raw read
    cases decoded : decodeEntries raw.entries with
    | error problem =>
      rw [ofRaw, decoded] at parsed
      cases parsed
    | ok entries =>
      rw [ofRaw, decoded] at parsed
      cases parsed
      exact wellRead_of_decodeEntries decoded

/-! The entries with a name and a tag, of which a look-up takes the only one. -/

def named (response : Response) (name tag : String) : List Entry :=
  response.entries.filter (fun entry => entry.name == name && entry.tag == tag)

private theorem picks_key {name : String} (member : Entry) :
    (member.name == name && member.tag == tag) = true ↔ member.key = (name, tag) := by
  simp [Entry.key]

theorem named_of_mem {name : String} (distinct : (response.entries.map Entry.key).Nodup)
    (member : entry ∈ response.entries) (same : entry.key = (name, tag)) :
    response.named name tag = [entry] :=
  Distinct.filter_eq distinct member (fun other => by rw [picks_key, same])

theorem filter_tagged (response : Response) (name tag : String) :
    (response.tagged tag).filter (fun entry => entry.name == name && entry.tag == tag) =
      response.named name tag := by
  rw [tagged, List.filter_filter]
  congr 1
  funext entry
  rw [Bool.and_assoc, Bool.and_self]

theorem named_perm {name : String} (distinct : (response.entries.map Entry.key).Nodup)
    (same : (other.tagged tag).Perm (response.tagged tag)) :
    other.named name tag = response.named name tag := by
  have taggedDistinct : ((response.tagged tag).map Entry.key).Nodup :=
    distinct.sublist (List.filter_sublist.map Entry.key)
  rw [← filter_tagged, ← filter_tagged]
  exact Distinct.filter_perm taggedDistinct same picks_key

theorem matchOne_eq (response : Response) (method : Method) (tag : String) :
    response.matchOne method tag =
      match response.named method.name tag, response.named "error" tag with
      | [entry], _ => entry.outcome method tag
      | _ :: _ :: _, _ => .error (.invalidResponse (.severalResponses method tag))
      | [], failed :: _ => failed.outcome method tag
      | [], [] => .error (.invalidResponse (.noResponse method tag)) := by
  have own : (response.tagged tag).filter (fun entry => entry.name == method.name) =
      response.named method.name tag := List.filter_filter
  have failed : (response.tagged tag).find? (fun entry => entry.name == Method.errorName) =
      (response.named "error" tag).head? := by
    rw [← List.head?_filter]
    exact congrArg List.head? (List.filter_filter)
  rw [matchOne, own, failed]
  cases response.named method.name tag with
  | nil => cases response.named "error" tag <;> rfl
  | cons first rest => cases rest <;> rfl

theorem matchOne_of_mem (distinct : (response.entries.map Entry.key).Nodup)
    (member : entry ∈ response.entries) (own : entry.key = (method.name, tag)) :
    response.matchOne method tag = entry.outcome method tag := by
  rw [matchOne_eq, named_of_mem distinct member own]

theorem matchOne_of_error (distinct : (response.entries.map Entry.key).Nodup)
    (absent : response.named method.name tag = []) (member : entry ∈ response.entries)
    (failed : entry.key = ("error", tag)) :
    response.matchOne method tag = entry.outcome method tag := by
  rw [matchOne_eq, absent, named_of_mem distinct member failed]

theorem named_eq_nil {name : String}
    (absent : ∀ entry ∈ response.entries, entry.key ≠ (name, tag)) :
    response.named name tag = [] := by
  rw [named, List.filter_eq_nil_iff]
  exact fun entry member picked => absent entry member ((picks_key entry).1 picked)

theorem matchOne_of_neither (absent : response.named method.name tag = [])
    (noError : response.named "error" tag = []) :
    response.matchOne method tag = .error (.invalidResponse (.noResponse method tag)) := by
  rw [matchOne_eq, absent, noError]

theorem matchOne_congr (distinct : (response.entries.map Entry.key).Nodup)
    (same : (other.tagged tag).Perm (response.tagged tag)) :
    other.matchOne method tag = response.matchOne method tag := by
  rw [matchOne_eq, matchOne_eq, named_perm distinct same, named_perm distinct same]

theorem matchOne_perm (distinct : (response.entries.map Entry.key).Nodup)
    (same : other.entries.Perm response.entries) :
    other.matchOne method tag = response.matchOne method tag :=
  matchOne_congr distinct (same.filter _)

theorem getAs_perm {shape : Method} (distinct : (response.entries.map Entry.key).Nodup)
    (same : other.entries.Perm response.entries) :
    other.getAs method tag shape = response.getAs method tag shape := by
  rw [getAs, getAs, matchOne_perm distinct same]

theorem exists_or_absent (response : Response) (name tag : String) :
    (∃ entry ∈ response.entries, entry.key = (name, tag)) ∨
      ∀ entry ∈ response.entries, entry.key ≠ (name, tag) := by
  by_cases present : ∃ entry ∈ response.entries, entry.key = (name, tag)
  · exact .inl present
  · exact .inr (fun entry member same => present ⟨entry, member, same⟩)

inductive Found (response : Response) (method : Method) (tag : String) :
    Except JmapError MethodResult → Prop
  | result {entry : Entry} {value : MethodResult} (member : entry ∈ response.entries)
      (own : entry.key = (method.name, tag)) (same : value.method = method)
      (body : entry.body = .result value) : Found response method tag (.ok value)
  | error {entry : Entry} {error : MethodError}
      (absent : ∀ entry ∈ response.entries, entry.key ≠ (method.name, tag))
      (member : entry ∈ response.entries) (failed : entry.key = ("error", tag))
      (body : entry.body = .error error) : Found response method tag (.error (.method error))
  | nothing (absent : ∀ entry ∈ response.entries, entry.key ≠ (method.name, tag))
      (noError : ∀ entry ∈ response.entries, entry.key ≠ ("error", tag)) :
      Found response method tag (.error (.invalidResponse (.noResponse method tag)))

variable {outcome : Except JmapError MethodResult}

theorem Found.matchOne (found : response.Found method tag outcome)
    (distinct : (response.entries.map Entry.key).Nodup) :
    response.matchOne method tag = outcome := by
  cases found with
  | result member own same body =>
    rw [matchOne_of_mem distinct member own, Entry.outcome, body]
  | error absent member failed body =>
    rw [matchOne_of_error distinct (named_eq_nil absent) member failed, Entry.outcome, body]
  | nothing absent noError =>
    exact matchOne_of_neither (named_eq_nil absent) (named_eq_nil noError)

theorem exists_found (wellRead : ∀ entry ∈ response.entries, entry.WellRead) (method : Method)
    (tag : String) : ∃ outcome, response.Found method tag outcome := by
  rcases response.exists_or_absent method.name tag with ⟨entry, member, own⟩ | absent
  · obtain ⟨value, same, body⟩ := (wellRead entry member).result method (congrArg Prod.fst own)
    exact ⟨_, .result member own same body⟩
  · rcases response.exists_or_absent "error" tag with ⟨entry, member, failed⟩ | noError
    · obtain ⟨error, body⟩ := (wellRead entry member).error (congrArg Prod.fst failed)
      exact ⟨_, .error absent member failed body⟩
    · exact ⟨_, .nothing absent noError⟩

theorem matchOne_eq_iff (distinct : (response.entries.map Entry.key).Nodup)
    (wellRead : ∀ entry ∈ response.entries, entry.WellRead) :
    response.matchOne method tag = outcome ↔ response.Found method tag outcome := by
  constructor
  · intro same
    subst same
    obtain ⟨outcome, found⟩ := exists_found wellRead method tag
    rw [found.matchOne distinct]
    exact found
  · exact fun found => found.matchOne distinct

/-- In a response that has been read and that answers its request, a look-up comes to the
one result that the entries allow. It is never at a loss between several entries, never
takes an error for a result, and does not depend on the order of the entries. -/
theorem lookup_unambiguous {batch : Batch} {request : Request} {bytes : Utf8.Bytes}
    (built : batch.build = .ok request) (parsed : ofBytes? bytes = .ok response)
    (correlated : response.correlate request = .ok ()) (method : Method) (tag : String) :
    (∀ outcome, response.matchOne method tag = outcome ↔ response.Found method tag outcome) ∧
    (∀ other place, response.matchOne method tag ≠
      .error (.invalidResponse (.severalResponses other place))) ∧
    (∀ value, response.matchOne method tag = .ok value →
      ∃ entry ∈ response.entries, entry.key = (method.name, tag) ∧ entry.isError = false ∧
        entry.body = .result value) ∧
    ∀ other : Response, other.entries.Perm response.entries →
      other.matchOne method tag = response.matchOne method tag ∧
      other.get method tag = response.get method tag ∧
      ∀ shape, other.getAs method tag shape = response.getAs method tag shape := by
  have answers := (correlate_eq_ok_iff (Batch.distinct_of_build built)).1 correlated
  have wellRead := wellRead_of_ofBytes? parsed
  have finds (outcome : Except JmapError MethodResult) :
      response.matchOne method tag = outcome ↔ response.Found method tag outcome :=
    matchOne_eq_iff answers.distinct wellRead
  refine ⟨finds, ?_, ?_, ?_⟩
  · intro other place several
    cases (finds _).1 several
  · intro value taken
    cases (finds _).1 taken with
    | result member own same body =>
      exact ⟨_, member, own, by rw [Entry.isError, body], body⟩
  · intro other same
    exact ⟨matchOne_perm answers.distinct same, getAs_perm answers.distinct same,
      fun shape => getAs_perm answers.distinct same⟩

/-- A call and its companion answered at once, the companion with an error. -/
theorem exists_error_beside_result :
    ∃ bytes response, ofBytes? bytes = .ok response ∧
      response.entries.map Entry.key = [("error", "s"), ("EmailSubmission/set", "s")] ∧
      response.correlate
        { capabilities := [.core, .mail, .submission]
          invocations := [⟨.submissionSet, .empty, "s"⟩]
          createdIds := none } = .ok () := by
  have text : ∃ bytes,
      (match ofBytes? bytes with
        | .error _ => false
        | .ok response =>
          response.entries.map Entry.key == [("error", "s"), ("EmailSubmission/set", "s")] &&
            (response.correlate
              { capabilities := [.core, .mail, .submission]
                invocations := [⟨.submissionSet, .empty, "s"⟩]
                createdIds := none }).isOk) = true :=
    ⟨Utf8.encode ("\x7b\"methodResponses\": [" ++
        "[\"error\", \x7b\"type\": \"forbidden\"\x7d, \"s\"], " ++
        "[\"EmailSubmission/set\", \x7b\"accountId\": \"a\"\x7d, \"s\"]], " ++
        "\"sessionState\": \"1\"\x7d"),
      by decide +kernel⟩
  obtain ⟨bytes, checked⟩ := text
  split at checked
  · cases checked
  · rename_i response parsed
    obtain ⟨keys, accepted⟩ := Bool.and_eq_true_iff.1 checked
    refine ⟨bytes, response, parsed, eq_of_beq keys, ?_⟩
    generalize response.correlate _ = outcome at accepted
    cases outcome with
    | ok _ => rfl
    | error _ => cases accepted

/-- The answer to a call is found beside an error, which is found in the place of the
answer to its companion. -/
theorem lookup_beside_error :
    ∃ (request : Request) (bytes : Utf8.Bytes) (response : Response) (value : MethodResult)
      (error : MethodError),
      Batch.build { invocations := [⟨.submissionSet, .empty, "s"⟩] } = .ok request ∧
      ofBytes? bytes = .ok response ∧ response.correlate request = .ok () ∧
      response.matchOne .submissionSet "s" = .ok value ∧
      response.matchOne .emailSet "s" = .error (.method error) := by
  obtain ⟨bytes, response, parsed, keys, correlated⟩ := exists_error_beside_result
  have built : Batch.build { invocations := [⟨.submissionSet, .empty, "s"⟩] } = .ok _ := rfl
  have present (name : String) (listed : name ∈ ["error", "EmailSubmission/set"]) :
      ∃ entry ∈ response.entries, entry.key = (name, "s") := by
    apply List.mem_map.1
    rw [keys]
    simpa using listed
  obtain ⟨own, ownMember, ownKey⟩ := present "EmailSubmission/set" (by simp)
  obtain ⟨failed, failedMember, failedKey⟩ := present "error" (by simp)
  have found := ((lookup_unambiguous built parsed correlated .submissionSet "s").1 _).1 rfl
  have foundError := ((lookup_unambiguous built parsed correlated .emailSet "s").1 _).1 rfl
  generalize first : response.matchOne .submissionSet "s" = outcome at found
  generalize second : response.matchOne .emailSet "s" = other at foundError
  have absent : ∀ entry ∈ response.entries, entry.key ≠ ("Email/set", "s") := by
    intro entry member same
    have listed : ("Email/set", "s") ∈ response.entries.map Entry.key :=
      List.mem_map.2 ⟨entry, member, same⟩
    rw [keys] at listed
    simp at listed
  cases found with
  | error absent => exact absurd ownKey (absent own ownMember)
  | nothing absent => exact absurd ownKey (absent own ownMember)
  | result member isOwn same body =>
    cases foundError with
    | result member isOwn => exact absurd isOwn (absent _ member)
    | nothing _ noError => exact absurd failedKey (noError failed failedMember)
    | error _ member isError body =>
      exact ⟨_, bytes, response, _, _, built, parsed, correlated, first, second⟩

end Response

end Jmap
