import Jmap.Client
import Jmap.Proofs.Cache.Barrier
import Jmap.Proofs.Session

/-!
A cache that loads through a client and listens to it. Once a command has found its
session out of date, the entry of the user whom the session names is no longer in use.
Callers ask for a session by a name of their own; the two names have to be the same.
-/

namespace Jmap

namespace Client

variable {World α : Type} {client : Client World}

theorem fetchSession_eq_ok {user : String} {world : World} {session : Session}
    (fetched : (client.fetchSession user world).1 = .ok session) :
    ∃ body after document,
      client.transport.getSession client.sessionUrl user world = (.ok body, after) ∧
        SessionDocument.ofBytes? body = .ok document ∧
        Session.ofDocument document = .ok session := by
  unfold fetchSession at fetched
  split at fetched
  rename_i answer after asked
  cases answer with
  | error error => cases fetched
  | ok body =>
    cases read : SessionDocument.ofBytes? body with
    | error error => simp [read] at fetched
    | ok document =>
      cases made : Session.ofDocument document with
      | error problem => simp [read, made] at fetched
      | ok other =>
        simp only [read, made] at fetched
        cases fetched
        exact ⟨body, after, document, asked, read, made⟩

theorem command_world {session : Session} {request : Request} {world sent : World}
    {answer : TransportResponse} {response : Response} (decode : Response → Except JmapError α)
    (answered : client.transport.post session.apiUrl.render session.username
      (Utf8.encode request.render) world = (.ok answer, sent))
    (live : client.check sent = .ok ()) (parsed : Response.ofBytes? answer.body = .ok response)
    (moved : response.sessionState ≠ session.state) :
    (client.command session request decode world).2 =
      client.signal (outdated session request response.sessionState) sent := by
  simp only [command, answered, live, parsed, if_neg moved]

/-- The documents for a user that make a session name that user. -/
def Names (client : Client World) (user : String) (session : Session) : Prop :=
  ∀ world body after document,
    client.transport.getSession client.sessionUrl user world = (.ok body, after) →
      SessionDocument.ofBytes? body = .ok document → Session.ofDocument document = .ok session →
        document.username = user

def LoadsAt (client : Client World) (traffic : Traffic) : Prop :=
  ∀ load use loaded, traffic.load? load = some use → use.ended = some loaded →
    ∃ world, (client.fetchSession use.user world).1 = loaded.result

theorem Names.username {traffic : Traffic} {number load : Nat} {visit : Visit} {loaded : Loaded}
    {session : Session} (named : client.Names visit.user session) (loads : client.LoadsAt traffic)
    (present : traffic.visit? number = some visit) (left : traffic.LeftWith number load loaded)
    (obtained : loaded.result = .ok session) : session.username = visit.user := by
  obtain ⟨leaver, use, leaverPresent, -, usePresent, -, sameUser, ended⟩ := left
  cases present.symm.trans leaverPresent
  obtain ⟨world, fetched⟩ := loads load use loaded usePresent ended
  rw [obtained, sameUser] at fetched
  obtain ⟨body, after, document, asked, read, made⟩ := fetchSession_eq_ok fetched
  rw [Session.username_of_ofDocument made]
  exact named world body after document asked read made

end Client

inductive Hearer (Other : Type) where
  | cache
  | other (listener : Other)

structure Host (Other Rest : Type) where
  traffic : Traffic
  listeners : SessionListeners (Hearer Other)
  rest : Rest

namespace Host

open Traffic (Run Step)

variable {Other Rest α : Type}

abbrev Reaction (Other Rest : Type) : Type :=
  Other → SessionOutdated → Host Other Rest → Host Other Rest × List (Hearer Other)

def respond (react : Reaction Other Rest) (event : SessionOutdated) :
    Hearer Other → Host Other Rest → Host Other Rest × List (Hearer Other)
  | .cache, host =>
    let cache := host.traffic.cache.onOutdated event
    ({ host with traffic := { host.traffic with cache } }, [])
  | .other listener, host => react listener event host

def signal (react : Reaction Other Rest) (event : SessionOutdated) (host : Host Other Rest) :
    Host Other Rest :=
  let (listeners, host) :=
    host.listeners.signal (fun hearer event => respond react event hearer) event host
  { host with listeners }

variable {client : Client (Host Other Rest)} {react : Reaction Other Rest}
  {host sent : Host Other Rest} {event : SessionOutdated} {hearers : List (Hearer Other)}

/-- A client that tells the listeners of its host. What happens at the cache while it
waits for an answer, and while others are told, is what may happen there at any time. -/
structure Attached (client : Client (Host Other Rest)) (react : Reaction Other Rest) : Prop where
  signals : client.signal = signal react
  posting : ∀ url username body host, ∃ events,
    Run host.traffic events (client.transport.post url username body host).2.traffic
  listens : ∀ url username body host, .cache ∈ host.listeners.registered →
    .cache ∈ (client.transport.post url username body host).2.listeners.registered
  reacting : ∀ listener event host, ∃ events,
    Run host.traffic events (react listener event host).1.traffic

theorem Attached.tell (attached : Attached client react) (hearers : List (Hearer Other))
    (event : SessionOutdated) (host : Host Other Rest) :
    ∃ events, Run host.traffic events
      (SessionListeners.tell (respond react event) hearers host).1.traffic := by
  induction hearers generalizing host with
  | nil => exact ⟨[], .nil _⟩
  | cons hearer others ih =>
    obtain ⟨late, rest⟩ := ih (respond react event hearer host).1
    cases hearer with
    | cache => exact ⟨_, .cons trivial (.outdated event) rest⟩
    | other listener =>
      obtain ⟨early, first⟩ := attached.reacting listener event host
      exact ⟨_, first.append rest⟩

theorem Attached.tell_cache (attached : Attached client react) (member : .cache ∈ hearers)
    (event : SessionOutdated) (host : Host Other Rest) :
    ∃ before middle next after, Run host.traffic before middle ∧
      Step middle (.outdated event) next ∧
      Run next after (SessionListeners.tell (respond react event) hearers host).1.traffic := by
  induction hearers generalizing host with
  | nil => cases member
  | cons hearer others ih =>
    cases hearer with
    | cache =>
      obtain ⟨late, rest⟩ := attached.tell others event (respond react event .cache host).1
      exact ⟨[], host.traffic, _, late, .nil _, .outdated event, rest⟩
    | other listener =>
      have later : .cache ∈ others := by simpa using member
      obtain ⟨early, first⟩ := attached.reacting listener event host
      obtain ⟨before, middle, next, after, second, step, rest⟩ :=
        ih later (respond react event (.other listener) host).1
      exact ⟨_, middle, next, after, first.append second, step, rest⟩

theorem Attached.command_drops (attached : Attached client react)
    (listens : .cache ∈ host.listeners.registered) {session : Session} {request : Request}
    {answer : TransportResponse} {response : Response} (decode : Response → Except JmapError α)
    (answered : client.transport.post session.apiUrl.render session.username
      (Utf8.encode request.render) host = (.ok answer, sent))
    (live : client.check sent = .ok ()) (parsed : Response.ofBytes? answer.body = .ok response)
    (moved : response.sessionState ≠ session.state) :
    ∃ before middle event next after, Run sent.traffic before middle ∧
      Traffic.Drops session.username event ∧ Step middle event next ∧
      Run next after (client.command session request decode host).2.traffic := by
  have stays : .cache ∈ sent.listeners.registered := by
    simpa only [answered] using attached.listens session.apiUrl.render session.username
      (Utf8.encode request.render) host listens
  obtain ⟨before, middle, next, after, early, step, late⟩ :=
    attached.tell_cache stays (Client.outdated session request response.sessionState) sent
  refine ⟨before, middle, _, next, after, early, .outdated rfl, step, ?_⟩
  rw [Client.command_world decode answered live parsed moved, attached.signals]
  exact late

variable {config : CacheConfig} {began : Fin Moment.limit} {events : List CacheEvent}
  {number : Nat} {visit : Visit} {session : Session} {request : Request}
  {answer : TransportResponse} {response : Response}

/-- Provided that the document of a session names the user as callers of the cache do:
when a command that has found the session of a caller out of date returns, the entry of
the caller is no longer in use, what is in use for the user was made after the answer had
come, and who comes for the user next leaves with the result of a load begun after it. -/
theorem staleness_evicts (attached : Attached client react)
    (run : Run (Traffic.start config began) events host.traffic)
    (loads : client.LoadsAt host.traffic) (listens : .cache ∈ host.listeners.registered)
    (present : host.traffic.visit? number = some visit)
    (obtained : visit.stage = .gone (.ok session)) (named : client.Names visit.user session)
    (decode : Response → Except JmapError α)
    (answered : client.transport.post session.apiUrl.render session.username
      (Utf8.encode request.render) host = (.ok answer, sent))
    (live : client.check sent = .ok ()) (parsed : Response.ofBytes? answer.body = .ok response)
    (moved : response.sessionState ≠ session.state) {returned : Host Other Rest}
    (returns : (client.command session request decode host).2 = returned) :
    (∀ name, returned.traffic.cache.current.find? name ≠ some visit.entry) ∧
    (∀ entry, returned.traffic.cache.current.find? visit.user = some entry →
      sent.traffic.cache.made.length ≤ entry) ∧
    ∀ rank later last, Run (returned.traffic.look visit.user rank) later last →
      ∃ after, last.visit? returned.traffic.visits.length = some after ∧
        after.user = visit.user ∧
        ∀ result, after.stage = .gone result → ∃ load moment,
          last.LeftWith returned.traffic.visits.length load { result, moment } ∧
            sent.traffic.loads.length ≤ load := by
  subst returns
  have sound := (Traffic.start_sound config began).run run
  obtain ⟨load, moment, left⟩ := sound.exists_leftWith present obtained
  have sameName : session.username = visit.user := named.username loads present left rfl
  obtain ⟨waiting, posted⟩ := attached.posting session.apiUrl.render session.username
    (Utf8.encode request.render) host
  rw [answered] at posted
  obtain ⟨before, middle, event, next, after, early, drops, step, late⟩ :=
    attached.command_drops listens decode answered live parsed moved
  rw [sameName] at drops
  have untilDrop : Run host.traffic (waiting ++ before) middle := posted.append early
  have middleSound := sound.run untilDrop
  refine ⟨fun name => ?_, fun entry found => ?_, fun rank later last rest => ?_⟩
  · -- The load whose result the caller has was begun before its entry is dropped.
    obtain ⟨leaver, use, leaverPresent, -, usePresent, sameEntry, sameUser, -⟩ := left
    cases present.symm.trans leaverPresent
    have begun : load < middle.loads.length :=
      Nat.lt_of_lt_of_le (List.getElem?_eq_some_iff.1 usePresent).1 untilDrop.loads_le
    obtain ⟨ended, dropped, lastPresent⟩ :=
      (untilDrop.append (.cons trivial step late)).keeps_load usePresent
    rw [← sameEntry]
    exact drops.find?_ne middleSound step late begun lastPresent sameUser name
  · exact Nat.le_trans early.made_le (((drops.renewed step).run late).inUse entry found)
  · obtain ⟨visitor, visitorPresent, visitorUser, -⟩ := rest.visit_of_look
    refine ⟨visitor, visitorPresent, visitorUser, fun result gone => ?_⟩
    have lastRun : Run next (after ++ .look visit.user :: later) last :=
      late.append (.cons trivial (.look visit.user rank) rest)
    obtain ⟨again, moment, leftAgain⟩ :=
      ((middleSound.step step).run lastRun).exists_leftWith visitorPresent gone
    exact ⟨again, moment, leftAgain, Nat.le_trans early.loads_le
      (drops.load_ge middleSound step lastRun late.visits_le visitorPresent visitorUser leftAgain)⟩

/-! A server that describes one session to everybody and gives one answer to everything,
and a cache that one caller has come to. -/

def steady (document answer : Utf8.Bytes) : Client (Host Empty Unit) where
  sessionUrl := "s"
  transport :=
    { post := fun _ _ _ host => (.ok { body := answer }, host)
      getSession := fun _ _ host => (.ok document, host) }
  check _ := .ok ()
  signal := signal nofun

theorem steady_attached (document answer : Utf8.Bytes) :
    Attached (steady document answer) nofun where
  signals := rfl
  posting _ _ _ host := ⟨[], .nil host.traffic⟩
  listens _ _ _ _ member := member
  reacting listener := nomatch listener

def visited (user : String) (session : Session) : Host Empty Unit where
  traffic :=
    let visit : Visit := { user, entry := 0, since := 0 }
    let asked := (Traffic.start { ttl := 1 } ⟨0, by decide⟩).look user (fun _ => 0)
    let loading := asked.startLoad 0 visit
    let loaded := loading.endLoad 0 { visit with stage := .loading 0 } 0 (.ok session)
    loaded.leave 0 visit (.ok session)
  listeners := ⟨[.cache]⟩
  rest := ()

theorem visited_run (user : String) (session : Session) :
    Run (Traffic.start { ttl := 1 } ⟨0, by decide⟩)
      [.look user, .startLoad 0, .endLoad 0 (.ok session), .leave 0]
      (visited user session).traffic :=
  .cons trivial (.look user _) (.cons trivial (.startLoad rfl rfl rfl)
    (.cons trivial (.endLoad rfl rfl _) (.cons trivial (.leave rfl rfl rfl) (.nil _))))

theorem steady_names {document answer : Utf8.Bytes} {read : SessionDocument} {user : String}
    (wasRead : SessionDocument.ofBytes? document = .ok read) (named : read.username = user) :
    (steady document answer).Names user session := by
  intro world body after other asked otherRead _
  cases asked
  cases wasRead.symm.trans otherRead
  exact named

theorem visited_loads {document answer : Utf8.Bytes} {read : SessionDocument}
    (wasRead : SessionDocument.ofBytes? document = .ok read)
    (made : Session.ofDocument read = .ok session) (user : String) :
    (steady document answer).LoadsAt (visited user session).traffic := by
  intro load use loaded present ended
  cases load with
  | zero =>
    cases present
    cases ended
    exact ⟨visited user session, by simp [Client.fetchSession, steady, wasRead, made]⟩
  | succ load => cases present

theorem exists_moved :
    ∃ (document answer : Utf8.Bytes) (read : SessionDocument) (session : Session)
      (response : Response),
      SessionDocument.ofBytes? document = .ok read ∧ Session.ofDocument read = .ok session ∧
      read.username = "alice" ∧ Response.ofBytes? answer = .ok response ∧
      response.sessionState ≠ session.state := by
  have texts : ∃ document answer : Utf8.Bytes,
      (match SessionDocument.ofBytes? document, Response.ofBytes? answer with
        | .ok read, .ok response =>
          match Session.ofDocument read with
          | .ok session => read.username == "alice" && response.sessionState != session.state
          | .error _ => false
        | _, _ => false) = true :=
    ⟨Utf8.encode ("\x7b\"username\": \"alice\", \"state\": \"1\", \"apiUrl\": \"a:b\", " ++
        "\"uploadUrl\": \"u\", \"downloadUrl\": \"d\", " ++
        "\"primaryAccounts\": \x7b\"urn:ietf:params:jmap:mail\": \"m\"\x7d\x7d"),
      Utf8.encode "\x7b\"methodResponses\": [], \"sessionState\": \"2\"\x7d",
      by decide +kernel⟩
  obtain ⟨document, answer, checked⟩ := texts
  split at checked
  · rename_i read response wasRead parsed
    split at checked
    · rename_i session made
      obtain ⟨named, moved⟩ := Bool.and_eq_true_iff.1 checked
      exact ⟨document, answer, read, session, response, wasRead, made, eq_of_beq named, parsed,
        by simpa using moved⟩
    · cases checked
  · cases checked

/-- A caller asks for the user whom the document names. -/
theorem staleness_under_own_name :
    ∃ (document answer : Utf8.Bytes) (session : Session) (response : Response)
      (returned : Host Empty Unit),
      Run (Traffic.start { ttl := 1 } ⟨0, by decide⟩)
        [.look "alice", .startLoad 0, .endLoad 0 (.ok session), .leave 0]
        (visited "alice" session).traffic ∧
      (steady document answer).LoadsAt (visited "alice" session).traffic ∧
      (steady document answer).Names "alice" session ∧
      Response.ofBytes? answer = .ok response ∧ response.sessionState ≠ session.state ∧
      ((steady document answer).command session
        { capabilities := [.core], invocations := [], createdIds := none } (fun _ => .ok ())
        (visited "alice" session)).2 = returned ∧
      (∀ name, returned.traffic.cache.current.find? name ≠ some 0) ∧
      ∀ rank later last, Run (returned.traffic.look "alice" rank) later last →
        ∃ after, last.visit? returned.traffic.visits.length = some after ∧ after.user = "alice" ∧
          ∀ result, after.stage = .gone result → ∃ load moment,
            last.LeftWith returned.traffic.visits.length load { result, moment } ∧ 1 ≤ load := by
  obtain ⟨document, answer, read, session, response, wasRead, made, named, parsed, moved⟩ :=
    exists_moved
  have run := visited_run "alice" session
  have loads : (steady document answer).LoadsAt (visited "alice" session).traffic :=
    visited_loads wasRead made "alice"
  have names : (steady document answer).Names "alice" session := steady_names wasRead named
  have present : (visited "alice" session).traffic.visit? 0 =
      some { user := "alice", entry := 0, since := 0, stage := .gone (.ok session) } := rfl
  obtain ⟨dropped, -, again⟩ := staleness_evicts (steady_attached document answer) run
    loads List.mem_cons_self present rfl names (fun _ => .ok ()) rfl rfl parsed moved rfl
  exact ⟨document, answer, session, response, _, run, loads, names, parsed, moved, rfl, dropped,
    again⟩

/-- A caller asks for a user by another name than that in the document. After the command
the entry of the caller is still in use, and who comes next has the session from it. -/
theorem staleness_under_other_name :
    ∃ (document answer : Utf8.Bytes) (session : Session) (response : Response)
      (returned : Host Empty Unit) (last : Traffic),
      Attached (steady document answer) nofun ∧
      Run (Traffic.start { ttl := 1 } ⟨0, by decide⟩)
        [.look "bob", .startLoad 0, .endLoad 0 (.ok session), .leave 0]
        (visited "bob" session).traffic ∧
      (steady document answer).LoadsAt (visited "bob" session).traffic ∧
      (visited "bob" session).traffic.LeftWith 0 0 { result := .ok session, moment := 0 } ∧
      Response.ofBytes? answer = .ok response ∧ response.sessionState ≠ session.state ∧
      ((steady document answer).command session
        { capabilities := [.core], invocations := [], createdIds := none } (fun _ => .ok ())
        (visited "bob" session)).2 = returned ∧
      returned.traffic.cache.current.find? "bob" = some 0 ∧
      Run (returned.traffic.look "bob" (fun _ => 0)) [.leave 1] last ∧
      last.LeftWith 1 0 { result := .ok session, moment := 0 } := by
  obtain ⟨document, answer, read, session, response, wasRead, made, named, parsed, moved⟩ :=
    exists_moved
  let request : Request := { capabilities := [.core], invocations := [], createdIds := none }
  have told : ((steady document answer).command session request (fun _ => .ok ())
      (visited "bob" session)).2 =
        (steady document answer).signal
          (Client.outdated session request response.sessionState) (visited "bob" session) :=
    Client.command_world (fun _ => .ok ()) rfl rfl parsed moved
  have sameName : session.username = "alice" := (Session.username_of_ofDocument made).trans named
  let cache := ((visited "bob" session).traffic.cache.invalidate session.username).2
  have found : cache.current.find? "bob" = some 0 :=
    SessionCache.find?_invalidate.trans (if_neg (by simp [sameName]))
  have lasts : Moment.reached
      (Moment.after? 0 (({ ttl := 1 } : CacheConfig).ttl.toNat * 1000)) 0 = false := by decide
  have usable : cache.usable? "bob" 0 = some 0 :=
    SessionCache.usable?_eq_some_iff.2 ⟨found, lasts⟩
  let traffic : Traffic := { (visited "bob" session).traffic with cache }
  let visitor : Visit := { user := "bob", entry := 0, since := 0 }
  have looked : traffic.look "bob" (fun _ => 0) =
      { traffic with visits := traffic.visits ++ [visitor] } :=
    Traffic.look_of_usable usable
  let last := (traffic.look "bob" (fun _ => 0)).leave 1 visitor (.ok session)
  have rest : Run (traffic.look "bob" (fun _ => 0)) [.leave 1] last :=
    .cons trivial (.leave (by rw [looked]; rfl) rfl (by rw [looked]; rfl)) (.nil _)
  refine ⟨document, answer, session, response, _, last, steady_attached document answer,
    visited_run "bob" session, visited_loads wasRead made "bob",
    ⟨_, _, rfl, rfl, rfl, rfl, rfl, rfl⟩, parsed, moved, told, found, rest,
    ⟨{ visitor with stage := .gone (.ok session) }, _, ?_, rfl, rfl, rfl, rfl, rfl⟩⟩
  simp only [last, looked]
  rfl

end Host

end Jmap
