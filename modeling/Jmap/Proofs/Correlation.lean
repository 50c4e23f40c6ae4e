import Jmap.Proofs.Batch
import Jmap.Response

namespace Jmap

namespace Entry

/-- An entry has the name of an invoked method, of a companion of it, or of an error. -/
inductive Fits (entry : Entry) (invocation : Invocation) : Prop
  | own (same : entry.name = invocation.method.name)
  | error (failed : entry.name = "error")
  | companion (companion : Method) (called : companion.isCompanionOf invocation.method = true)
      (same : entry.name = companion.name)

def key (entry : Entry) : String × String := (entry.name, entry.tag)

end Entry

namespace Response

structure Answers (response : Response) (request : Request) : Prop where
  matched : ∀ entry ∈ response.entries,
    ∃ invocation ∈ request.invocations, invocation.tag = entry.tag ∧ entry.Fits invocation
  distinct : (response.entries.map Entry.key).Nodup

variable {response : Response} {request : Request} {entry : Entry} {invocation : Invocation}
  {entries earlier : List Entry}

theorem Answers.perm {other : Response} (answers : response.Answers request)
    (same : other.entries.Perm response.entries) : other.Answers request where
  matched entry member := answers.matched entry (same.mem_iff.1 member)
  distinct := (same.map Entry.key).nodup_iff.2 answers.distinct

theorem answers_eq_true_iff : answers entry invocation = true ↔ entry.Fits invocation := by
  simp only [answers, Bool.or_eq_true, beq_iff_eq]
  constructor
  · intro answered
    rcases answered with (own | failed) | companion
    · exact .own own
    · exact .error failed
    · split at companion
      · rename_i method registered
        exact .companion method companion (Method.ofName?_eq_some_iff.1 registered).symm
      · cases companion
  · intro fits
    rcases fits with own | failed | ⟨companion, called, same⟩
    · exact .inl (.inl own)
    · exact .inl (.inr failed)
    · right
      rw [same, Method.ofName?_name]
      exact called

theorem any_key_eq_true_iff :
    earlier.any (fun other => other.name == entry.name && other.tag == entry.tag) = true ↔
      entry.key ∈ earlier.map Entry.key := by
  simp [Entry.key]

theorem invocation?_eq_some_iff {tag : String}
    (distinct : (request.invocations.map (·.tag)).Nodup) :
    request.invocation? tag = some invocation ↔
      invocation ∈ request.invocations ∧ invocation.tag = tag :=
  Batch.underTag?_eq_some_iff distinct

theorem correlateEntries_eq_ok_iff (distinct : (request.invocations.map (·.tag)).Nodup) :
    correlateEntries request earlier entries = .ok () ↔
      (∀ entry ∈ entries, ∃ invocation ∈ request.invocations,
        invocation.tag = entry.tag ∧ entry.Fits invocation) ∧
      (entries.map Entry.key).Nodup ∧
      ∀ entry ∈ entries, entry.key ∉ earlier.map Entry.key := by
  -- Of the earlier entries only the keys count; they need not be distinct themselves.
  induction entries generalizing earlier with
  | nil => simp [correlateEntries]
  | cons entry entries ih =>
    rw [correlateEntries]
    cases found : request.invocation? entry.tag with
    | none =>
      simp only [reduceCtorEq, false_iff]
      intro answered
      obtain ⟨matched, -⟩ := answered
      obtain ⟨invocation, member, same, -⟩ := matched entry List.mem_cons_self
      rw [(invocation?_eq_some_iff distinct).2 ⟨member, same⟩] at found
      cases found
    | some invocation =>
      obtain ⟨member, same⟩ := (invocation?_eq_some_iff distinct).1 found
      have fits : (∃ invocation ∈ request.invocations,
          invocation.tag = entry.tag ∧ entry.Fits invocation) ↔ entry.Fits invocation := by
        constructor
        · intro answered
          obtain ⟨other, otherMember, otherSame, fits⟩ := answered
          have again := (invocation?_eq_some_iff distinct).2 ⟨otherMember, otherSame⟩
          rw [Option.some.inj (found.symm.trans again)]
          exact fits
        · exact fun fits => ⟨invocation, member, same, fits⟩
      simp only [List.forall_mem_cons, fits, List.map_cons, List.nodup_cons]
      split
      · rename_i refused
        simp only [reduceCtorEq, false_iff]
        intro answered
        obtain ⟨⟨own, -⟩, -⟩ := answered
        rw [answers_eq_true_iff.2 own] at refused
        cases refused
      · rename_i answered
        have own : entry.Fits invocation := answers_eq_true_iff.1 (by simpa using answered)
        split
        · rename_i repeated
          simp only [reduceCtorEq, false_iff]
          intro accepted
          obtain ⟨-, -, fresh, -⟩ := accepted
          exact fresh (any_key_eq_true_iff.1 repeated)
        · rename_i fresh
          have fresh : entry.key ∉ earlier.map Entry.key := mt any_key_eq_true_iff.2 fresh
          rw [ih, List.map_cons]
          constructor
          · intro accepted
            obtain ⟨matched, entriesDistinct, apart⟩ := accepted
            refine ⟨⟨own, matched⟩, ⟨?_, entriesDistinct⟩, fresh, ?_⟩
            · intro again
              obtain ⟨other, otherMember, sameKey⟩ := List.mem_map.1 again
              exact apart other otherMember (sameKey ▸ List.mem_cons_self)
            · exact fun other otherMember before =>
                apart other otherMember (List.mem_cons_of_mem _ before)
          · intro answered
            obtain ⟨⟨-, matched⟩, ⟨single, entriesDistinct⟩, -, apart⟩ := answered
            refine ⟨matched, entriesDistinct, fun other otherMember before => ?_⟩
            rcases List.mem_cons.1 before with sameKey | earlierKey
            · exact single (List.mem_map.2 ⟨other, otherMember, sameKey⟩)
            · exact apart other otherMember earlierKey

theorem correlate_eq_ok_iff (distinct : (request.invocations.map (·.tag)).Nodup) :
    response.correlate request = .ok () ↔ response.Answers request := by
  have checked :
      correlateEntries request [] response.entries = .ok () ↔ response.Answers request := by
    rw [correlateEntries_eq_ok_iff distinct]
    constructor
    · intro accepted
      obtain ⟨matched, entriesDistinct, -⟩ := accepted
      exact ⟨matched, entriesDistinct⟩
    · intro answers
      exact ⟨answers.matched, answers.distinct, by simp⟩
  rw [← checked, correlate]
  cases correlateEntries request [] response.entries with
  | ok _ => simp
  | error problem => simp

theorem code_of_correlate {error : JmapError}
    (refused : response.correlate request = .error error) :
    error.code = .invalidResponsePayload := by
  rw [correlate] at refused
  split at refused
  · cases refused
  · cases refused
    rfl

/-- A response is accepted for a request if and only if its entries answer the
invocations of the request; any other is refused as an invalid response. -/
theorem correlate_accepts_answers {batch : Batch} (built : batch.build = .ok request)
    (response : Response) :
    (response.correlate request = .ok () ↔ response.Answers request) ∧
      (¬response.Answers request → ∃ error, response.correlate request = .error error ∧
        error.code = .invalidResponsePayload) := by
  have accepted : response.correlate request = .ok () ↔ response.Answers request :=
    correlate_eq_ok_iff (Batch.distinct_of_build built)
  refine ⟨accepted, fun wrong => ?_⟩
  cases outcome : response.correlate request with
  | ok _ => exact absurd (accepted.1 outcome) wrong
  | error error => exact ⟨error, rfl, code_of_correlate outcome⟩

/-- A call that the server made on its own is answered under the same tag, and its
failure as well. -/
theorem correlate_accepts_companions :
    ∃ (request : Request) (response : Response),
      Batch.build { invocations := [⟨.submissionSet, .empty, "s"⟩] } = .ok request ∧
      response.entries.map Entry.key =
        [("Email/set", "s"), ("error", "s"), ("EmailSubmission/set", "s")] ∧
      response.Answers request := by
  let response : Response :=
    { entries :=
        [⟨"Email/set", "s", .result ⟨.emailSet, default⟩⟩,
          ⟨"error", "s", .error { kind := "serverFail" }⟩,
          ⟨"EmailSubmission/set", "s", .result ⟨.submissionSet, default⟩⟩]
      sessionState := ⟨"0"⟩
      createdIds := none }
  have built : Batch.build { invocations := [⟨.submissionSet, .empty, "s"⟩] } = .ok _ := rfl
  exact ⟨_, response, built, rfl, (correlate_accepts_answers built response).1.1 rfl⟩

end Response

end Jmap
