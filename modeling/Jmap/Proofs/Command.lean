import Jmap.Client
import Jmap.Proofs.Distinct

namespace Jmap

inductive Deed (Listener : Type) where
  | post (url username : String) (body : Utf8.Bytes)
  | getSession (url username : String)
  | upload (url username contentType : String) (body : List BodyItem)
  | download (url username : String)
  | tell (listener : Listener) (event : SessionOutdated)

structure Site (Listener Rest : Type) where
  listeners : SessionListeners Listener
  rest : Rest

/-- How a world answers a client: its transport, the clock and the context of the call, and
what listeners make of an event. -/
structure Setting (Listener Rest : Type) where
  sessionUrl : String
  transport : Transport (Site Listener Rest)
  context : Rest → RequestContext
  clock : Rest → Moment
  respond : Listener → SessionOutdated → Rest → Rest × List Listener

def Transport.recorded {World Listener : Type} (transport : Transport World) :
    Transport (World × List (Deed Listener)) where
  post url username body := fun (world, record) =>
    let (answer, world) := transport.post url username body world
    (answer, world, record ++ [.post url username body])
  getSession url username := fun (world, record) =>
    let (answer, world) := transport.getSession url username world
    (answer, world, record ++ [.getSession url username])
  upload? := transport.upload?.map (fun upload url username contentType body (world, record) =>
    let (answer, world) := upload url username contentType body world
    (answer, world, record ++ [.upload url username contentType body]))
  download? := transport.download?.map (fun download url username (world, record) =>
    let (answer, world) := download url username world
    (answer, world, record ++ [.download url username]))

namespace Setting

variable {Listener Rest α : Type}

def stop? (setting : Setting Listener Rest) (site : Site Listener Rest) : Option Stop :=
  (setting.context site.rest).stop? (setting.clock site.rest)

def check (setting : Setting Listener Rest) (site : Site Listener Rest) : Except HttpError Unit :=
  (setting.context site.rest).check (setting.clock site.rest)

def client (setting : Setting Listener Rest) : Client (Site Listener Rest) where
  sessionUrl := setting.sessionUrl
  transport := setting.transport
  check := setting.check
  signal event site :=
    let (listeners, rest) := site.listeners.signal setting.respond event site.rest
    { listeners, rest }

def respondRecorded (setting : Setting Listener Rest) (listener : Listener)
    (event : SessionOutdated) :
    Rest × List (Deed Listener) → (Rest × List (Deed Listener)) × List Listener :=
  fun (rest, record) =>
    let (rest, added) := setting.respond listener event rest
    ((rest, record ++ [.tell listener event]), added)

def recorder (setting : Setting Listener Rest) :
    Client (Site Listener Rest × List (Deed Listener)) where
  sessionUrl := setting.sessionUrl
  transport := setting.transport.recorded
  check world := setting.check world.1
  signal event := fun (site, record) =>
    let (listeners, rest, record) :=
      site.listeners.signal setting.respondRecorded event (site.rest, record)
    ({ listeners, rest }, record)

def send (setting : Setting Listener Rest) (session : Session) (request : Request)
    (site : Site Listener Rest) : Except HttpError TransportResponse × Site Listener Rest :=
  setting.transport.post session.apiUrl.render session.username (Utf8.encode request.render) site

structure Reads (setting : Setting Listener Rest) (session : Session) (request : Request)
    (site : Site Listener Rest) (answer : TransportResponse) (response : Response)
    (sent : Site Listener Rest) : Prop where
  answered : setting.send session request site = (.ok answer, sent)
  live : setting.stop? sent = none
  parsed : Response.ofBytes? answer.body = .ok response

/-- No response is read: the transport fails, the call has stopped meanwhile, or the answer is
no response. -/
inductive Unread (setting : Setting Listener Rest) (session : Session) (request : Request)
    (site sent : Site Listener Rest) : JmapError → Prop
  | failed {failure : HttpError}
      (failed : setting.send session request site = (.error failure, sent)) :
      Unread setting session request site sent (.transport failure)
  | cancelled {answer : TransportResponse}
      (answered : setting.send session request site = (.ok answer, sent))
      (cancelled : setting.stop? sent = some .cancelled) :
      Unread setting session request site sent (.transport .cancelled)
  | expired {answer : TransportResponse}
      (answered : setting.send session request site = (.ok answer, sent))
      (expired : setting.stop? sent = some .expired) :
      Unread setting session request site sent (.transport .timeout)
  | unreadable {answer : TransportResponse} {error : JmapError}
      (answered : setting.send session request site = (.ok answer, sent))
      (live : setting.stop? sent = none)
      (unreadable : Response.ofBytes? answer.body = .error error) :
      Unread setting session request site sent error

inductive Fails (setting : Setting Listener Rest) (session : Session) (request : Request)
    (decode : Response → Except JmapError α) (site : Site Listener Rest) : JmapError → Prop
  | unread {sent : Site Listener Rest} {error : JmapError}
      (unread : setting.Unread session request site sent error) :
      Fails setting session request decode site error
  | unmatched {answer : TransportResponse} {response : Response} {sent : Site Listener Rest}
      {error : JmapError} (reads : setting.Reads session request site answer response sent)
      (mismatch : response.correlate request = .error error) :
      Fails setting session request decode site error
  | refused {answer : TransportResponse} {response : Response} {sent : Site Listener Rest}
      {error : JmapError} (reads : setting.Reads session request site answer response sent)
      (correlated : response.correlate request = .ok ())
      (refused : decode response = .error error) :
      Fails setting session request decode site error

variable {setting : Setting Listener Rest} {session : Session} {request : Request}
  {decode : Response → Except JmapError α} {site sent : Site Listener Rest}
  {record : List (Deed Listener)} {answer : TransportResponse} {response : Response}

theorem check_of_stop? {stop : Stop} (stopped : setting.stop? sent = some stop) :
    setting.check sent = .error stop.error := by
  rw [stop?] at stopped
  rw [check, RequestContext.check, stopped]

theorem check_of_live (live : setting.stop? sent = none) : setting.check sent = .ok () := by
  rw [stop?] at live
  rw [check, RequestContext.check, live]

theorem tell_respondRecorded (setting : Setting Listener Rest) (event : SessionOutdated)
    (listeners : List Listener) (rest : Rest) (record : List (Deed Listener)) :
    SessionListeners.tell (setting.respondRecorded · event) listeners (rest, record) =
      (((SessionListeners.tell (setting.respond · event) listeners rest).1,
          record ++ listeners.map (fun listener => .tell listener event)),
        (SessionListeners.tell (setting.respond · event) listeners rest).2) := by
  induction listeners generalizing rest record with
  | nil => simp [SessionListeners.tell]
  | cons listener listeners ih =>
    simp only [SessionListeners.tell, respondRecorded, ih, List.map_cons, List.append_assoc,
      List.singleton_append]

theorem signal_recorder (event : SessionOutdated) :
    setting.recorder.signal event (site, record) =
      (setting.client.signal event site,
        record ++ site.listeners.registered.map (fun listener => .tell listener event)) := by
  simp only [recorder, client, SessionListeners.signal, tell_respondRecorded]

def settle (request : Request) (decode : Response → Except JmapError α)
    (answer : TransportResponse) (response : Response) : Except JmapError (Reply α) :=
  (do
    response.correlate request
    decode response).map (fun value =>
      { value, sessionState := response.sessionState, language := answer.language })

theorem command_of_moved (reads : setting.Reads session request site answer response sent)
    (moved : response.sessionState ≠ session.state)
    (decode : Response → Except JmapError α) (record : List (Deed Listener)) :
    setting.client.command session request decode site =
      (settle request decode answer response,
        setting.client.signal (Client.outdated session request response.sessionState) sent) ∧
    setting.recorder.command session request decode (site, record) =
      (settle request decode answer response,
        setting.client.signal (Client.outdated session request response.sessionState) sent,
        record ++ .post session.apiUrl.render session.username (Utf8.encode request.render) ::
          sent.listeners.registered.map (fun listener =>
            .tell listener (Client.outdated session request response.sessionState))) := by
  obtain ⟨answered, live, parsed⟩ := reads
  have checked := check_of_live live
  have signalled := @signal_recorder _ _ setting sent
  rw [send] at answered
  constructor
  · simp only [Client.command, client, answered, checked, parsed, if_neg moved]
    rfl
  · simp only [recorder] at signalled
    simp only [Client.command, recorder, Transport.recorded, answered, checked, parsed,
      if_neg moved, signalled, List.append_assoc]
    rfl

theorem command_of_still (reads : setting.Reads session request site answer response sent)
    (still : response.sessionState = session.state)
    (decode : Response → Except JmapError α) (record : List (Deed Listener)) :
    setting.client.command session request decode site =
      (settle request decode answer response, sent) ∧
    setting.recorder.command session request decode (site, record) =
      (settle request decode answer response, sent,
        record ++ [.post session.apiUrl.render session.username (Utf8.encode request.render)]) := by
  obtain ⟨answered, live, parsed⟩ := reads
  have checked := check_of_live live
  rw [send] at answered
  constructor
  · simp only [Client.command, client, answered, checked, parsed, if_pos still]
    rfl
  · simp only [Client.command, recorder, Transport.recorded, answered, checked, parsed,
      if_pos still]
    rfl

theorem command_of_unread {error : JmapError}
    (unread : setting.Unread session request site sent error)
    (decode : Response → Except JmapError α) (record : List (Deed Listener)) :
    setting.client.command session request decode site = (.error error, sent) ∧
    setting.recorder.command session request decode (site, record) =
      (.error error, sent,
        record ++ [.post session.apiUrl.render session.username (Utf8.encode request.render)]) := by
  cases unread with
  | failed failed =>
    rw [send] at failed
    simp only [Client.command, client, recorder, Transport.recorded, failed, and_self]
  | cancelled answered stopped | expired answered stopped =>
    have checked := check_of_stop? stopped
    rw [send] at answered
    simp only [Client.command, client, recorder, Transport.recorded, answered, checked,
      Stop.error, and_self]
  | unreadable answered live unreadable =>
    have checked := check_of_live live
    rw [send] at answered
    simp only [Client.command, client, recorder, Transport.recorded, answered, checked, unreadable,
      and_self]

theorem exists_unread_or_reads (setting : Setting Listener Rest) (session : Session)
    (request : Request) (site : Site Listener Rest) :
    (∃ sent error, setting.Unread session request site sent error) ∨
      ∃ answer response sent, setting.Reads session request site answer response sent := by
  obtain ⟨⟨answer, sent⟩, posted⟩ : ∃ posting, setting.send session request site = posting :=
    ⟨_, rfl⟩
  cases answer with
  | error failure => exact .inl ⟨sent, _, .failed posted⟩
  | ok answer =>
    cases stops : setting.stop? sent with
    | some stop =>
      cases stop with
      | cancelled => exact .inl ⟨sent, _, .cancelled posted stops⟩
      | expired => exact .inl ⟨sent, _, .expired posted stops⟩
    | none =>
      cases parsed : Response.ofBytes? answer.body with
      | error error => exact .inl ⟨sent, _, .unreadable posted stops parsed⟩
      | ok response => exact .inr ⟨answer, response, sent, posted, stops, parsed⟩

theorem Unread.unique {other : Site Listener Rest} {error otherError : JmapError}
    (unread : setting.Unread session request site sent error)
    (also : setting.Unread session request site other otherError) : otherError = error := by
  -- Both say what one and the same command ends in, whatever it decodes.
  let decode (_ : Response) : Except JmapError Unit := .ok ()
  have first := (command_of_unread unread decode []).1
  have second := (command_of_unread also decode []).1
  cases first.symm.trans second
  rfl

theorem Unread.not_reads {other : Site Listener Rest} {error : JmapError}
    (unread : setting.Unread session request site other error) :
    ¬setting.Reads session request site answer response sent := by
  intro reads
  cases unread with
  | failed failed => cases reads.answered.symm.trans failed
  | cancelled answered stopped | expired answered stopped =>
    cases reads.answered.symm.trans answered
    cases reads.live.symm.trans stopped
  | unreadable answered live unreadable =>
    cases reads.answered.symm.trans answered
    cases reads.parsed.symm.trans unreadable

theorem Reads.unique (reads : setting.Reads session request site answer response sent)
    {otherAnswer : TransportResponse} {other : Response} {otherSent : Site Listener Rest}
    (also : setting.Reads session request site otherAnswer other otherSent) :
    otherAnswer = answer ∧ other = response ∧ otherSent = sent := by
  cases reads.answered.symm.trans also.answered
  cases reads.parsed.symm.trans also.parsed
  exact ⟨rfl, rfl, rfl⟩

theorem Unread.fails_iff {error otherError : JmapError}
    (unread : setting.Unread session request site sent error) :
    setting.Fails session request decode site otherError ↔ error = otherError := by
  constructor
  · intro fails
    cases fails with
    | unread also => exact also.unique unread
    | unmatched reads => exact absurd reads unread.not_reads
    | refused reads => exact absurd reads unread.not_reads
  · rintro rfl
    exact .unread unread

theorem settle_eq_ok_iff {reply : Reply α} :
    settle request decode answer response = .ok reply ↔
      response.correlate request = .ok () ∧ decode response = .ok reply.value ∧
        reply.sessionState = response.sessionState ∧ reply.language = answer.language := by
  rw [settle]
  cases response.correlate request with
  | error error => simp [bind, Except.bind, Except.map]
  | ok _ =>
    cases decode response with
    | error error => simp [bind, Except.bind, Except.map]
    | ok value =>
      simp only [bind, Except.bind, Except.map, Except.ok.injEq, true_and]
      constructor
      · rintro rfl
        exact ⟨rfl, rfl, rfl⟩
      · rintro ⟨rfl, state, language⟩
        rw [← state, ← language]

theorem fails_iff_settle (reads : setting.Reads session request site answer response sent)
    {error : JmapError} : setting.Fails session request decode site error ↔
      settle request decode answer response = .error error := by
  constructor
  · intro fails
    cases fails with
    | unread unread => exact absurd reads unread.not_reads
    | unmatched also mismatch =>
      obtain ⟨rfl, rfl, rfl⟩ := reads.unique also
      simp only [settle, mismatch]
      rfl
    | refused also correlated refused =>
      obtain ⟨rfl, rfl, rfl⟩ := reads.unique also
      simp only [settle, correlated, refused]
      rfl
  · intro settled
    rw [settle] at settled
    cases correlated : response.correlate request with
    | error error =>
      rw [correlated] at settled
      cases settled
      exact .unmatched reads correlated
    | ok _ =>
      cases decoded : decode response with
      | error error =>
        rw [correlated, decoded] at settled
        cases settled
        exact .refused reads correlated decoded
      | ok value =>
        rw [correlated, decoded] at settled
        cases settled

theorem settle_eq_ok_iff_reads (reads : setting.Reads session request site answer response sent)
    {reply : Reply α} : settle request decode answer response = .ok reply ↔
      ∃ answer response sent, setting.Reads session request site answer response sent ∧
        response.correlate request = .ok () ∧ decode response = .ok reply.value ∧
        reply.sessionState = response.sessionState ∧ reply.language = answer.language := by
  constructor
  · intro settled
    exact ⟨answer, response, sent, reads, settle_eq_ok_iff.1 settled⟩
  · rintro ⟨otherAnswer, other, otherSent, also, settled⟩
    obtain ⟨rfl, rfl, rfl⟩ := reads.unique also
    exact settle_eq_ok_iff.2 settled

theorem settle_congr {other : Response → Except JmapError α}
    (same : response.correlate request = .ok () → other response = decode response) :
    settle request other answer response = settle request decode answer response := by
  rw [settle, settle]
  cases correlated : response.correlate request with
  | error error => rfl
  | ok _ =>
    simp only [bind, Except.bind]
    rw [same correlated]

/-- What a command ends in, and what listeners have been told by then. They are told of another
state once a response that reports it has been read, whatever comes of that response. -/
structure Course (setting : Setting Listener Rest) (session : Session) (request : Request)
    (decode : Response → Except JmapError α) (site : Site Listener Rest)
    (outcome : Except JmapError (Reply α)) (told : List (Deed Listener)) : Prop where
  error : ∀ error, outcome = .error error ↔
    setting.Fails session request decode site error
  ok : ∀ reply, outcome = .ok reply ↔ ∃ answer response sent,
    setting.Reads session request site answer response sent ∧
    response.correlate request = .ok () ∧ decode response = .ok reply.value ∧
    reply.sessionState = response.sessionState ∧ reply.language = answer.language
  moved : ∀ answer response sent, setting.Reads session request site answer response sent →
    response.sessionState ≠ session.state →
      told = sent.listeners.registered.map (fun listener => .tell listener
        { username := session.username, accountIds := request.accountIds,
          previousState := session.state, newState := response.sessionState })
  still : (∀ answer response sent, setting.Reads session request site answer response sent →
    response.sessionState = session.state) → told = []

theorem Unread.course {error : JmapError}
    (unread : setting.Unread session request site sent error) :
    setting.Course session request decode site (.error error) [] where
  error otherError := by rw [unread.fails_iff, Except.error.injEq]
  ok reply := by
    constructor
    · exact nofun
    · rintro ⟨answer, response, sent, reads, -⟩
      exact absurd reads unread.not_reads
  moved _ _ _ reads := absurd reads unread.not_reads
  still _ := rfl

theorem Reads.course_moved (reads : setting.Reads session request site answer response sent)
    (moved : response.sessionState ≠ session.state) :
    setting.Course session request decode site (settle request decode answer response)
      (sent.listeners.registered.map (fun listener =>
        .tell listener (Client.outdated session request response.sessionState))) where
  error _ := (fails_iff_settle reads).symm
  ok _ := settle_eq_ok_iff_reads reads
  moved _ _ _ also _ := by
    obtain ⟨-, rfl, rfl⟩ := reads.unique also
    rfl
  still stays := absurd (stays answer response sent reads) moved

theorem Reads.course_still (reads : setting.Reads session request site answer response sent)
    (still : response.sessionState = session.state) :
    setting.Course session request decode site (settle request decode answer response) [] where
  error _ := (fails_iff_settle reads).symm
  ok _ := settle_eq_ok_iff_reads reads
  moved _ _ _ also moved := by
    obtain ⟨-, rfl, -⟩ := reads.unique also
    exact absurd still moved
  still _ := rfl

theorem accountIds_firsts (request : Request) :
    Distinct.Firsts (request.invocations.filterMap (·.accountId?)) request.accountIds :=
  Distinct.firsts_eraseDups _

theorem accountId?_eq_some_iff {invocation : Invocation} {account : String} :
    invocation.accountId? = some account ↔
      invocation.arguments.find? "accountId" = some (.str account) := by
  rw [Invocation.accountId?, Option.bind_eq_some_iff]
  constructor
  · rintro ⟨value, found, isText⟩
    cases value <;> cases isText
    exact found
  · exact fun found => ⟨_, found, rfl⟩

/-- A command posts once and does nothing else that is to be seen but tell listeners. What comes
of it depends on `decode` only as far as that is asked about a response that answers the request.
Being observed changes nothing. -/
theorem command_course (setting : Setting Listener Rest) (session : Session) (request : Request)
    (decode : Response → Except JmapError α) (site : Site Listener Rest)
    (record : List (Deed Listener)) :
    ∃ outcome after told,
      setting.client.command session request decode site = (outcome, after) ∧
      setting.recorder.command session request decode (site, record) =
        (outcome, after, record ++
          .post session.apiUrl.render session.username (Utf8.encode request.render) :: told) ∧
      setting.Course session request decode site outcome told ∧
      (∀ other : Response → Except JmapError α,
        (∀ answer response sent, setting.Reads session request site answer response sent →
          response.correlate request = .ok () → other response = decode response) →
        setting.client.command session request other site = (outcome, after)) ∧
      Distinct.Firsts (request.invocations.filterMap (·.accountId?)) request.accountIds ∧
      ∀ (invocation : Invocation) (account : String), invocation.accountId? = some account ↔
        invocation.arguments.find? "accountId" = some (.str account) := by
  have named := accountIds_firsts request
  -- Nothing is read, or a response that reports the known state, or one that reports another.
  rcases setting.exists_unread_or_reads session request site with
    ⟨sent, error, unread⟩ | ⟨answer, response, sent, reads⟩
  · obtain ⟨ends, recorded⟩ := command_of_unread unread decode record
    exact ⟨_, _, _, ends, recorded, unread.course,
      fun other _ => (command_of_unread unread other record).1, named,
      fun _ _ => accountId?_eq_some_iff⟩
  by_cases still : response.sessionState = session.state
  · obtain ⟨ends, recorded⟩ := command_of_still reads still decode record
    refine ⟨_, _, _, ends, recorded, reads.course_still still, fun other same => ?_, named,
      fun _ _ => accountId?_eq_some_iff⟩
    rw [(command_of_still reads still other record).1,
      settle_congr (same answer response sent reads)]
  · obtain ⟨ends, recorded⟩ := command_of_moved reads still decode record
    refine ⟨_, _, _, ends, recorded, reads.course_moved still, fun other same => ?_, named,
      fun _ _ => accountId?_eq_some_iff⟩
    rw [(command_of_moved reads still other record).1,
      settle_congr (same answer response sent reads)]

end Setting

end Jmap
