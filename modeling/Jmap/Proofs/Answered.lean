import Jmap.Proofs.Decoding
import Jmap.Proofs.Task

namespace Jmap

open Json

/-- A search that is not looked up: only a later call refers to what it finds. -/
def Invocation.isUnseen (invocation : Invocation) : Bool :=
  invocation.method == .mailboxQuery || invocation.method == .cardQuery

namespace Response

variable {response : Response} {method : Method} {tag : String} {invocation : Invocation}
  {invocations : List Invocation}

/-- One entry and no other carries the name of a method under a tag, and it is no error. -/
def Answered (response : Response) (method : Method) (tag : String) : Prop :=
  ∃ entry, response.named method.name tag = [entry] ∧ entry.isError = false

def AllAnswered (response : Response) (invocations : List Invocation) : Prop :=
  ∀ invocation ∈ invocations, invocation.isUnseen = false →
    response.Answered invocation.method invocation.tag

theorem allAnswered_nil : response.AllAnswered [] := by
  intro invocation member
  cases member

theorem allAnswered_cons : response.AllAnswered (invocation :: invocations) ↔
    (invocation.isUnseen = false → response.Answered invocation.method invocation.tag) ∧
      response.AllAnswered invocations :=
  List.forall_mem_cons

theorem AllAnswered.cons (first : response.Answered invocation.method invocation.tag)
    (others : response.AllAnswered invocations) :
    response.AllAnswered (invocation :: invocations) :=
  allAnswered_cons.2 ⟨fun _ => first, others⟩

theorem AllAnswered.unseen (unseen : invocation.isUnseen = true)
    (others : response.AllAnswered invocations) :
    response.AllAnswered (invocation :: invocations) := by
  refine allAnswered_cons.2 ⟨fun seen => ?_, others⟩
  rw [unseen] at seen
  cases seen

theorem allAnswered_flatMap {accounts : List String} {calls : String → List Invocation} :
    response.AllAnswered (accounts.flatMap calls) ↔
      ∀ account ∈ accounts, response.AllAnswered (calls account) := by
  constructor
  · intro answered account asked invocation called
    exact answered invocation (List.mem_flatMap.2 ⟨account, asked, called⟩)
  · intro answered invocation member
    obtain ⟨account, asked, called⟩ := List.mem_flatMap.1 member
    exact answered account asked invocation called

structure Clear (response : Response) : Prop where
  distinct : (response.entries.map Entry.key).Nodup
  wellRead : ∀ entry ∈ response.entries, entry.WellRead

theorem clear_of_correlate {batch : Batch} {request : Request} {bytes : Utf8.Bytes}
    (built : batch.build = .ok request) (parsed : ofBytes? bytes = .ok response)
    (correlated : response.correlate request = .ok ()) : response.Clear where
  distinct := ((correlate_eq_ok_iff (Batch.distinct_of_build built)).1 correlated).distinct
  wellRead := wellRead_of_ofBytes? parsed

theorem Clear.answered (clear : response.Clear) {result : method.Result}
    (got : response.get method tag = .ok result) : response.Answered method tag := by
  rw [get, getAs] at got
  cases taken : response.matchOne method tag with
  | error error =>
    rw [taken] at got
    cases got
  | ok value =>
    cases (matchOne_eq_iff clear.distinct clear.wellRead).1 taken with
    | result member own same body =>
      exact ⟨_, named_of_mem clear.distinct member own, by rw [Entry.isError, body]⟩

theorem Clear.bind_answered (clear : response.Clear) {β : Type} {value : β}
    {next : method.Result → Except JmapError β}
    (decoded : (response.get method tag >>= next) = .ok value) :
    response.Answered method tag ∧ ∃ result, next result = .ok value := by
  obtain ⟨result, got, rest⟩ := bind_eq_ok decoded
  exact ⟨clear.answered got, result, rest⟩

theorem Clear.page_answered (clear : response.Clear) {queryTag getTag : String} {page : EmailPage}
    (decoded : Operation.decodePage queryTag getTag response = .ok page) :
    response.Answered .emailQuery queryTag ∧ response.Answered .emailGet getTag := by
  obtain ⟨query, _, rest⟩ := clear.bind_answered decoded
  exact ⟨query, (clear.bind_answered rest).1⟩

end Response

open Response

namespace Operation

variable {α : Type} {accounts : List String} {calls : String → List Invocation}
  {part : String → Response → Except JmapError α} {response : Response}

theorem allAnswered_forAccounts {results : Dict α}
    (each : ∀ account value, part account response = .ok value →
      response.AllAnswered (calls account))
    (decoded : (forAccounts accounts calls part).decode response = .ok results) :
    response.AllAnswered (forAccounts accounts calls part).invocations := by
  obtain ⟨answers, listed, -⟩ := bind_eq_ok decoded
  obtain ⟨keys, values⟩ := mapM_part listed
  refine allAnswered_flatMap.2 (fun account asked => ?_)
  rw [← keys] at asked
  obtain ⟨answer, member, rfl⟩ := List.mem_map.1 asked
  exact each _ _ (values answer member)

end Operation

theorem Survey.allAnswered {α : Type} (survey : Survey α) {session : Session}
    {accounts : List String} {response : Response} {results : Dict α} (clear : response.Clear)
    (decoded : (survey.operation session accounts).decode response = .ok results) :
    response.AllAnswered (survey.operation session accounts).invocations := by
  cases survey with
  | mailboxes =>
    refine Operation.allAnswered_forAccounts (fun account value own => ?_) decoded
    exact .cons (clear.bind_answered own).1 allAnswered_nil
  | mailboxSearch filter =>
    refine Operation.allAnswered_forAccounts (fun account value own => ?_) decoded
    exact .unseen rfl (.cons (clear.bind_answered own).1 allAnswered_nil)
  | emails filter offset limit options =>
    refine Operation.allAnswered_forAccounts (fun account value own => ?_) decoded
    obtain ⟨query, fetched⟩ := clear.page_answered own
    exact .cons query (.cons fetched allAnswered_nil)
  | quotas =>
    refine Operation.allAnswered_forAccounts (fun account value own => ?_) decoded
    exact .cons (clear.bind_answered own).1 allAnswered_nil
  | bootstrap =>
    refine Operation.allAnswered_forAccounts (fun account value own => ?_) decoded
    obtain ⟨identities, _, rest⟩ := clear.bind_answered own
    exact .cons identities (.cons (clear.bind_answered rest).1 allAnswered_nil)
  | cards filter sort position limit =>
    refine Operation.allAnswered_forAccounts (fun account value own => ?_) decoded
    exact .unseen rfl (.cons (clear.bind_answered own).1 allAnswered_nil)

namespace Task

variable {α : Type}

theorem allAnswered (task : Task α) {session : Session} {response : Response} {value : α}
    (clear : response.Clear) (decoded : (task.operation session).decode response = .ok value) :
    response.AllAnswered (task.operation session).invocations := by
  cases task with
  | survey question accounts => exact question.allAnswered clear decoded
  | getAllEmailsInMailbox account mailboxId offset limit options =>
    obtain ⟨query, fetched⟩ := clear.page_answered decoded
    exact .cons query (.cons fetched allAnswered_nil)
  | getEmailsSince account sinceState maxChanges options =>
    obtain ⟨changes, _, rest⟩ := clear.bind_answered decoded
    obtain ⟨created, _, rest⟩ := clear.bind_answered rest
    obtain ⟨updated, -⟩ := clear.bind_answered rest
    exact .cons changes (.cons created (.cons updated allAnswered_nil))
  | submitEmail account identityId emailId move =>
    obtain ⟨submitted, result, rest⟩ := clear.bind_answered decoded
    obtain ⟨_, -, rest⟩ := bind_eq_ok rest
    obtain ⟨_, -, rest⟩ := bind_eq_ok rest
    exact .cons submitted (.cons (clear.bind_answered rest).1 allAnswered_nil)
  | setVacationResponse account vacation =>
    obtain ⟨replaced, result, rest⟩ := clear.bind_answered decoded
    cases refused : (result.notUpdated.getD .empty).find? Operation.vacationId with
    | some error =>
      rw [refused] at rest
      cases rest
    | none =>
      rw [refused] at rest
      exact .cons replaced (.cons (clear.bind_answered rest).1 allAnswered_nil)
  | createContactCard account card =>
    obtain ⟨created, result, rest⟩ := clear.bind_answered decoded
    obtain ⟨_, -, rest⟩ := bind_eq_ok rest
    exact .cons created (.cons (clear.bind_answered rest).1 allAnswered_nil)
  | uploadBlob account data contentType =>
    obtain ⟨uploaded, result, rest⟩ := clear.bind_answered decoded
    obtain ⟨_, -, rest⟩ := bind_eq_ok rest
    exact .cons uploaded (.cons (clear.bind_answered rest).1 allAnswered_nil)
  | _ => exact .cons (clear.bind_answered decoded).1 allAnswered_nil

end Task

namespace Client

variable {World α : Type} {client : Client World} {session : Session} {world after : World}
  {reply : Reply α}

theorem command_eq_ok {request : Request} {decode : Response → Except JmapError α}
    (commanded : client.command session request decode world = (.ok reply, after)) :
    ∃ answer response,
      (client.transport.post session.apiUrl.render session.username (Utf8.encode request.render)
        world).1 = .ok answer ∧
      ofBytes? answer.body = .ok response ∧ response.correlate request = .ok () ∧
      decode response = .ok reply.value := by
  have ended := congrArg Prod.fst commanded
  simp only [command] at ended
  split at ended
  · cases ended
  rename_i answer posted
  split at ended
  · cases ended
  split at ended
  · cases ended
  rename_i response parsed
  obtain ⟨value, settled, rfl⟩ := map_eq_ok ended
  obtain ⟨_, correlated, decoded⟩ := bind_eq_ok settled
  exact ⟨answer, response, posted, parsed, correlated, decoded⟩

theorem perform_eq_ok {operation : Operation α}
    (performed : client.perform session operation world = (.ok reply, after)) :
    ∃ request, operation.request session = .ok request ∧
      client.command session request operation.decode world = (.ok reply, after) := by
  rw [perform] at performed
  cases built : operation.request session with
  | error error =>
    rw [built] at performed
    cases performed
  | ok request =>
    rw [built] at performed
    exact ⟨request, rfl, performed⟩

end Client

namespace Task

variable {α : Type}

/-- A task that has a result has an answer to each call that is looked up. If one of these calls
has no answer of its own, be there an error in its place or nothing, the task fails. -/
theorem results_answered (task : Task α) (session : Session) :
    (∀ request bytes response value, (task.operation session).request session = .ok request →
      ofBytes? bytes = .ok response → response.correlate request = .ok () →
        (task.operation session).decode response = .ok value →
          ∀ invocation ∈ request.invocations, invocation.isUnseen = false →
            response.Answered invocation.method invocation.tag) ∧
    (∀ request bytes response, (task.operation session).request session = .ok request →
      ofBytes? bytes = .ok response → response.correlate request = .ok () →
        (∃ invocation ∈ request.invocations, invocation.isUnseen = false ∧
          ∀ entry ∈ response.entries, entry.key ≠ (invocation.method.name, invocation.tag)) →
            ∃ error, (task.operation session).decode response = .error error) ∧
    ∀ {World : Type} (client : Client World) (world after : World) (reply : Reply α),
      client.perform session (task.operation session) world = (.ok reply, after) →
        ∃ request answer response, (task.operation session).request session = .ok request ∧
          (client.transport.post session.apiUrl.render session.username
            (Utf8.encode request.render) world).1 = .ok answer ∧
          ofBytes? answer.body = .ok response ∧ response.correlate request = .ok () ∧
          ∀ invocation ∈ request.invocations, invocation.isUnseen = false →
            response.Answered invocation.method invocation.tag := by
  have answered {request : Request} {bytes : Utf8.Bytes} {response : Response} {value : α}
      (built : (task.operation session).request session = .ok request)
      (parsed : ofBytes? bytes = .ok response) (correlated : response.correlate request = .ok ())
      (decoded : (task.operation session).decode response = .ok value) :
      response.AllAnswered request.invocations := by
    have clear := clear_of_correlate built parsed correlated
    obtain ⟨-, rfl⟩ := Batch.build_eq_ok_iff.1 built
    exact task.allAnswered clear decoded
  refine ⟨fun request bytes response value => answered, ?_, ?_⟩
  · intro request bytes response built parsed correlated ⟨invocation, called, seen, absent⟩
    cases decoded : (task.operation session).decode response with
    | error error => exact ⟨error, rfl⟩
    | ok value =>
      obtain ⟨entry, own, -⟩ := answered built parsed correlated decoded invocation called seen
      rw [named_eq_nil absent] at own
      cases own
  · intro World client world after reply performed
    obtain ⟨request, built, commanded⟩ := Client.perform_eq_ok performed
    obtain ⟨answer, response, posted, parsed, correlated, decoded⟩ :=
      Client.command_eq_ok commanded
    exact ⟨request, answer, response, built, posted, parsed, correlated,
      answered built parsed correlated decoded⟩

/-- Two accounts are asked. Both answer, or one of them reports an error. -/
theorem results_answered_for_each :
    ∃ (request : Request) (bytes failing : Utf8.Bytes) (response failed : Response)
      (client : Client Unit) (reply : Reply (Dict (List Mailbox))),
      let task := survey .mailboxes ["a", "b"]
      (task.operation default).request default = .ok request ∧
      ofBytes? bytes = .ok response ∧ response.correlate request = .ok () ∧
      response.Answered .mailboxGet "a:0" ∧ response.Answered .mailboxGet "b:0" ∧
      ofBytes? failing = .ok failed ∧ failed.correlate request = .ok () ∧
      failed.entries.map Entry.key = [("Mailbox/get", "a:0"), ("error", "b:0")] ∧
      (∃ error, (task.operation default).decode failed = .error error) ∧
      client.perform default (task.operation default) () = (.ok reply, ()) ∧
      ∃ answer answered, ofBytes? answer = .ok answered ∧
        answered.AllAnswered request.invocations := by
  let found (tag : String) : Json :=
    .arr [.str "Mailbox/get", .obj [("accountId", .str "a")], .str tag]
  let refused : Json := .arr [.str "error", .obj [("type", .str "serverFail")], .str "b:0"]
  let document (entries : List Json) : Json :=
    .obj [("methodResponses", .arr entries), ("sessionState", .str "")]
  have fits : (document [found "a:0", found "b:0"]).Fits 0 := by
    simp [document, found, Fits, Integral, IntegralItems, IntegralMembers, depth, depthItems,
      depthMembers, Outline.deepest]
  have failingFits : (document [found "a:0", refused]).Fits 0 := by
    simp [document, found, refused, Fits, Integral, IntegralItems, IntegralMembers, depth,
      depthItems, depthMembers, Outline.deepest]
  have textRead : (Outline.ofBytes _).read RawResponse = .ok _ := Outline.read_render fits
  have failingRead : (Outline.ofBytes _).read RawResponse = .ok _ := Outline.read_render failingFits
  have parsed := (ofBytes?_eq_ok_iff textRead).2 ⟨_, rfl, rfl⟩
  have failingParsed := (ofBytes?_eq_ok_iff failingRead).2 ⟨_, rfl, rfl⟩
  let task := survey .mailboxes ["a", "b"]
  have built : (task.operation default).request default = .ok _ := rfl
  let client : Client Unit :=
    { sessionUrl := ""
      transport :=
        { post := fun _ _ _ world =>
            (.ok { body := Utf8.encode (document [found "a:0", found "b:0"]).render }, world)
          getSession := fun _ _ world => (.ok [], world) }
      check := fun _ => .ok ()
      signal := fun _ world => world }
  have succeeds :
      ∃ reply, client.perform default (task.operation default) () = (.ok reply, ()) := by
    rw [Client.perform, built]
    simp only [Client.command, client, parsed]
    exact ⟨_, rfl⟩
  obtain ⟨reply, performed⟩ := succeeds
  obtain ⟨answered, fails, reported⟩ := results_answered task default
  have each := answered _ _ _ _ built parsed rfl rfl
  have failure := fails _ _ _ built failingParsed rfl ⟨_, .tail _ (.head _), rfl, by
    intro entry member same
    have listed : _ ∈ List.map Entry.key _ := List.mem_map.2 ⟨entry, member, same⟩
    revert listed
    decide⟩
  obtain ⟨request, answer, response, sameBuilt, -, sameParsed, -, all⟩ :=
    reported client () () _ performed
  cases built.symm.trans sameBuilt
  exact ⟨_, _, _, _, _, client, _, built, parsed, rfl, each _ (.head _) rfl,
    each _ (.tail _ (.head _)) rfl, failingParsed, rfl, rfl, failure, performed, _, _, sameParsed,
    all⟩

/-- A search fails for the account, and the mailboxes are reported all the same. -/
theorem results_unanswered_search :
    ∃ (request : Request) (bytes : Utf8.Bytes) (response : Response)
      (results : Dict (List Mailbox)),
      let task := survey (.mailboxSearch { role := some "inbox" }) ["a"]
      (task.operation default).request default = .ok request ∧
      ofBytes? bytes = .ok response ∧ response.correlate request = .ok () ∧
      (task.operation default).decode response = .ok results ∧
      response.entries.map Entry.key = [("error", "a:0"), ("Mailbox/get", "a:1")] ∧
      ∃ invocation ∈ request.invocations,
        response.named invocation.method.name invocation.tag = [] := by
  let refused : Json := .arr [.str "error", .obj [("type", .str "serverFail")], .str "a:0"]
  let found : Json := .arr [.str "Mailbox/get", .obj [("accountId", .str "a")], .str "a:1"]
  let document : Json :=
    .obj [("methodResponses", .arr [refused, found]), ("sessionState", .str "")]
  have fits : document.Fits 0 := by
    simp [document, refused, found, Fits, Integral, IntegralItems, IntegralMembers, depth,
      depthItems, depthMembers, Outline.deepest]
  have textRead : (Outline.ofBytes _).read RawResponse = .ok _ := Outline.read_render fits
  have parsed := (ofBytes?_eq_ok_iff textRead).2 ⟨_, rfl, rfl⟩
  exact ⟨_, _, _, _, rfl, parsed, rfl, rfl, rfl, _, .head _, rfl⟩

end Task

end Jmap
