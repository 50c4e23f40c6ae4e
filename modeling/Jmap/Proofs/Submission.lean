import Jmap.Proofs.Received

/-!
What becomes of a message that is submitted. The server may update the message on its own and
answers for that under the tag of the submission, so an error there says that the submission
failed or, beside a submission that was accepted, that only the update did.
-/

namespace Jmap

open Json Operation Response

namespace Response

/-- The submission as the server has made it, from an answer that does not refuse it. -/
def Accepted (response : Response) (created : EmailSubmission) : Prop :=
  ∃ result : SetResult EmailSubmission, response.Brings .submissionSet "0" result ∧
    (result.notCreated.getD .empty).find? "s0" = none ∧
    (result.created.getD .empty).find? "s0" = some created

inductive UpdateEnds (response : Response) (emailId : String) :
    Except JmapError (Option State) → Prop
  | done {result : SetResult Email} (brings : response.Brings .emailSet "0" result)
      (updated : (result.notUpdated.getD .empty).find? emailId = none) :
      UpdateEnds response emailId (.ok result.newState)
  | refused {result : SetResult Email} {error : SetError}
      (brings : response.Brings .emailSet "0" result)
      (refused : (result.notUpdated.getD .empty).find? emailId = some error) :
      UpdateEnds response emailId (.error (.set "Email" emailId error))
  | failed {error : MethodError} (lacks : response.Lacks "Email/set" "0")
      (fails : response.Fails "0" error) : UpdateEnds response emailId (.ok none)
  | unreported (lacks : response.Lacks "Email/set" "0") (noError : response.Lacks "error" "0") :
      UpdateEnds response emailId (.error (.invalidResponse (.noResponse .emailSet "0")))

inductive SubmissionEnds (response : Response) (emailId : String) :
    Except JmapError SubmittedEmail → Prop
  | failed {error : MethodError} (lacks : response.Lacks "EmailSubmission/set" "0")
      (fails : response.Fails "0" error) :
      SubmissionEnds response emailId (.error (.method error))
  | unreported (lacks : response.Lacks "EmailSubmission/set" "0")
      (noError : response.Lacks "error" "0") :
      SubmissionEnds response emailId (.error (.invalidResponse (.noResponse .submissionSet "0")))
  | refused {result : SetResult EmailSubmission} {error : SetError}
      (brings : response.Brings .submissionSet "0" result)
      (refused : (result.notCreated.getD .empty).find? "s0" = some error) :
      SubmissionEnds response emailId (.error (.set "EmailSubmission" "s0" error))
  | unmade {result : SetResult EmailSubmission}
      (brings : response.Brings .submissionSet "0" result)
      (accepted : (result.notCreated.getD .empty).find? "s0" = none)
      (unmade : (result.created.getD .empty).find? "s0" = none) :
      SubmissionEnds response emailId
        (.error (.invalidResponse (.noOutcome "EmailSubmission" "s0")))
  | unchanged {created : EmailSubmission} {error : JmapError}
      (accepted : response.Accepted created) (update : response.UpdateEnds emailId (.error error)) :
      SubmissionEnds response emailId (.error error)
  | unfetched {created : EmailSubmission} {state : Option State} {error : JmapError}
      (accepted : response.Accepted created) (update : response.UpdateEnds emailId (.ok state))
      (received : response.Receives .submissionGet "1" (.error error)) :
      SubmissionEnds response emailId (.error error)
  | sent {created : EmailSubmission} {state : Option State} {fetched : GetResult EmailSubmission}
      (accepted : response.Accepted created) (update : response.UpdateEnds emailId (.ok state))
      (brings : response.Brings .submissionGet "1" fetched) :
      SubmissionEnds response emailId
        (.ok { submission := fetched.list.headD created, emailState := state })

variable {response : Response} {emailId : String} {created other : EmailSubmission}

theorem Accepted.outcome (accepted : response.Accepted created) (clear : response.Clear) :
    ∃ result, response.get .submissionSet "0" = .ok result ∧
      result.outcome "EmailSubmission" "s0" = .ok created := by
  obtain ⟨result, brings, free, made⟩ := accepted
  exact ⟨result, Receives.get (.result brings) clear, takeOutcome_of_made free made⟩

theorem Accepted.unique (accepted : response.Accepted created) (also : response.Accepted other)
    (clear : response.Clear) : created = other := by
  obtain ⟨result, got, made⟩ := accepted.outcome clear
  obtain ⟨otherResult, otherGot, otherMade⟩ := also.outcome clear
  cases got.symm.trans otherGot
  cases made.symm.trans otherMade
  rfl

theorem UpdateEnds.decode {outcome : Except JmapError (Option State)}
    (update : response.UpdateEnds emailId outcome) (clear : response.Clear) :
    decodeUpdate emailId response = outcome := by
  rw [decodeUpdate]
  cases update with
  | done brings updated => simp only [Receives.get (.result brings) clear, updated]
  | refused brings refused => simp only [Receives.get (.result brings) clear, refused]
  | failed lacks fails =>
    have failure : response.get .emailSet "0" = _ := Receives.get (.error lacks fails) clear
    rw [failure]
  | unreported lacks noError =>
    have silence : response.get .emailSet "0" = _ := Receives.get (.nothing lacks noError) clear
    rw [silence]

theorem Clear.exists_updateEnds (clear : response.Clear) (emailId : String) :
    ∃ outcome, response.UpdateEnds emailId outcome := by
  obtain ⟨outcome, received⟩ := clear.exists_receives .emailSet "0"
  cases received with
  | @result result brings =>
    cases held : (result.notUpdated.getD .empty).find? emailId with
    | none => exact ⟨_, .done brings held⟩
    | some error => exact ⟨_, .refused brings held⟩
  | error lacks fails => exact ⟨_, .failed lacks fails⟩
  | nothing lacks noError => exact ⟨_, .unreported lacks noError⟩

theorem SubmissionEnds.decode {outcome : Except JmapError SubmittedEmail}
    (submission : response.SubmissionEnds emailId outcome) (clear : response.Clear)
    (session : Session) (account identityId : String) (move : Option MoveMail) :
    (submitEmail session account identityId emailId move).decode response = outcome := by
  cases submission with
  | failed lacks fails =>
    have failure : response.get .submissionSet "0" = _ := Receives.get (.error lacks fails) clear
    simp only [submitEmail, failure, bind, Except.bind]
  | unreported lacks noError =>
    have silence : response.get .submissionSet "0" = _ :=
      Receives.get (.nothing lacks noError) clear
    simp only [submitEmail, silence, bind, Except.bind]
  | refused brings refused =>
    have submitted := Receives.get (.result brings) clear
    simp only [submitEmail, submitted, SetResult.outcome, takeOutcome_of_refused refused, bind,
      Except.bind]
  | unmade brings accepted unmade =>
    have submitted := Receives.get (.result brings) clear
    simp only [submitEmail, submitted, SetResult.outcome, takeOutcome_of_neither accepted unmade,
      bind, Except.bind]
  | unchanged accepted update =>
    obtain ⟨result, submitted, made⟩ := accepted.outcome clear
    simp only [submitEmail, submitted, made, update.decode clear, bind, Except.bind]
  | unfetched accepted update received =>
    obtain ⟨result, submitted, made⟩ := accepted.outcome clear
    simp only [submitEmail, submitted, made, update.decode clear, received.get clear, bind,
      Except.bind]
  | sent accepted update brings =>
    obtain ⟨result, submitted, made⟩ := accepted.outcome clear
    have fetched := Receives.get (.result brings) clear
    simp only [submitEmail, submitted, made, update.decode clear, fetched, bind, Except.bind]

theorem Clear.exists_submissionEnds (clear : response.Clear) (emailId : String) :
    ∃ outcome, response.SubmissionEnds emailId outcome := by
  -- The look-ups in the order of decoding, where the first that fails decides.
  obtain ⟨answer, received⟩ := clear.exists_receives .submissionSet "0"
  cases received with
  | error lacks fails => exact ⟨_, .failed lacks fails⟩
  | nothing lacks noError => exact ⟨_, .unreported lacks noError⟩
  | @result result brings =>
    cases refused : (result.notCreated.getD .empty).find? "s0" with
    | some error => exact ⟨_, .refused brings refused⟩
    | none =>
      cases made : (result.created.getD .empty).find? "s0" with
      | none => exact ⟨_, .unmade brings refused made⟩
      | some created =>
        have accepted : response.Accepted created := ⟨result, brings, refused, made⟩
        obtain ⟨change, update⟩ := clear.exists_updateEnds emailId
        cases change with
        | error error => exact ⟨_, .unchanged accepted update⟩
        | ok state =>
          obtain ⟨fetch, received⟩ := clear.exists_receives .submissionGet "1"
          cases received with
          | result brings => exact ⟨_, .sent accepted update brings⟩
          | error lacks fails => exact ⟨_, .unfetched accepted update (.error lacks fails)⟩
          | nothing lacks noError => exact ⟨_, .unfetched accepted update (.nothing lacks noError)⟩

theorem Clear.submitEmail_eq_iff {outcome : Except JmapError SubmittedEmail}
    (clear : response.Clear) (session : Session) (account identityId emailId : String)
    (move : Option MoveMail) :
    (submitEmail session account identityId emailId move).decode response = outcome ↔
      response.SubmissionEnds emailId outcome := by
  constructor
  · rintro rfl
    obtain ⟨outcome, submission⟩ := clear.exists_submissionEnds emailId
    rw [submission.decode clear]
    exact submission
  · exact fun submission => submission.decode clear session account identityId move

end Response

namespace Operation

/-- What is reported of a submission is settled by the answers to it. Once it is accepted the
report is a success if the submission can be fetched and the server has answered for its update
of the message, be it with an error for the update as a whole. -/
theorem submission_settled {session : Session} {account identityId emailId : String}
    {move : Option MoveMail} {request : Request} {bytes : Utf8.Bytes} {response : Response}
    (built : (submitEmail session account identityId emailId move).request session = .ok request)
    (accepts : request.Accepts bytes response) :
    (∀ outcome, (submitEmail session account identityId emailId move).decode response = outcome ↔
      response.SubmissionEnds emailId outcome) ∧
    (∀ created, response.Accepted created → ∀ submitted,
      (submitEmail session account identityId emailId move).decode response = .ok submitted ↔
        ∃ fetched state, response.Brings .submissionGet "1" fetched ∧
          response.UpdateEnds emailId (.ok state) ∧
          submitted = { submission := fetched.list.headD created, emailState := state }) ∧
    (∀ created error fetched, response.Accepted created → response.Lacks "Email/set" "0" →
      response.Fails "0" error → response.Brings .submissionGet "1" fetched →
        (submitEmail session account identityId emailId move).decode response =
          .ok { submission := fetched.list.headD created, emailState := none }) ∧
    ∀ {World : Type} (client : Client World) (world after : World) (answer : TransportResponse),
      client.transport.post session.apiUrl.render session.username (Utf8.encode request.render)
          world = (.ok answer, after) →
        client.check after = .ok () → answer.body = bytes → ∀ outcome,
          response.SubmissionEnds emailId outcome →
            (client.perform session (submitEmail session account identityId emailId move)
              world).1 = outcome.map (fun submitted =>
                { value := submitted
                  sessionState := response.sessionState
                  language := answer.language }) := by
  have clear := accepts.clear built
  have decodes (outcome : Except JmapError SubmittedEmail) :
      (submitEmail session account identityId emailId move).decode response = outcome ↔
        response.SubmissionEnds emailId outcome :=
    clear.submitEmail_eq_iff session account identityId emailId move
  refine ⟨decodes, ?_, ?_, ?_⟩
  · intro created accepted submitted
    rw [decodes]
    constructor
    · intro submission
      cases submission with
      | sent also update brings =>
        obtain rfl := accepted.unique also clear
        exact ⟨_, _, brings, update, rfl⟩
    · rintro ⟨fetched, state, brings, update, rfl⟩
      exact .sent accepted update brings
  · intro created error fetched accepted lacks fails brings
    exact (decodes _).2 (.sent accepted (.failed lacks fails) brings)
  · rintro World client world after answer posted live rfl outcome submission
    rw [Client.perform_eq_decode built posted live accepts, (decodes outcome).2 submission]

/-- The message is on its way although its update has failed. -/
theorem submission_settled_without_update :
    ∃ (request : Request) (answer : TransportResponse) (response : Response)
      (client : Client Unit) (reply : Reply SubmittedEmail),
      (submitEmail default "" "i" "m" none).request default = .ok request ∧
      request.Accepts answer.body response ∧
      response.entries.map Entry.key =
        [("EmailSubmission/set", "0"), ("error", "0"), ("EmailSubmission/get", "1")] ∧
      (submitEmail default "" "i" "m" none).decode response = .ok reply.value ∧
      (client.perform default (submitEmail default "" "i" "m" none) ()).1 = .ok reply ∧
      reply.value.submission.id = some "x" ∧ reply.value.emailState = none := by
  let submitted : Json :=
    .arr [.str "EmailSubmission/set",
      .obj [("accountId", .str "a"), ("created", .obj [("s0", .obj [("id", .str "x")])])],
      .str "0"]
  let refused : Json := .arr [.str "error", .obj [("type", .str "serverFail")], .str "0"]
  let fetched : Json :=
    .arr [.str "EmailSubmission/get", .obj [("accountId", .str "a")], .str "1"]
  let document : Json :=
    .obj [("methodResponses", .arr [submitted, refused, fetched]), ("sessionState", .str "")]
  have fits : document.Fits 0 := by
    simp [document, submitted, refused, fetched, Fits, Integral, IntegralItems, IntegralMembers,
      depth, depthItems, depthMembers, Outline.deepest]
  have textRead : (Outline.ofBytes _).read RawResponse = .ok _ := Outline.read_render fits
  have parsed := (ofBytes?_eq_ok_iff textRead).2 ⟨_, rfl, rfl⟩
  have built : (submitEmail default "" "i" "m" none).request default = .ok _ := rfl
  let answer : TransportResponse := { body := Utf8.encode document.render }
  let client : Client Unit :=
    { sessionUrl := ""
      transport :=
        { post := fun _ _ _ world => (.ok answer, world)
          getSession := fun _ _ world => (.ok [], world) }
      check := fun _ => .ok ()
      signal := fun _ world => world }
  obtain ⟨decodes, -, survives, performs⟩ := submission_settled built ⟨parsed, rfl⟩
  have decoded := survives _ _ _ ⟨_, ⟨_, .head _, rfl, rfl⟩, rfl, rfl⟩
    (lacks_of_keys rfl (by decide)) ⟨_, .tail _ (.head _), rfl, rfl⟩
    ⟨_, .tail _ (.tail _ (.head _)), rfl, rfl⟩
  have performed := performs client () () answer rfl rfl rfl _ ((decodes _).1 decoded)
  exact ⟨_, answer, _, client, _, built, ⟨parsed, rfl⟩, rfl, decoded, performed, rfl, rfl⟩

end Operation

end Jmap
