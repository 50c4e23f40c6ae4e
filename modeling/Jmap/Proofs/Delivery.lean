import Jmap.Session.Listeners

namespace Jmap

structure Notice (Listener : Type) where
  listener : Listener
  event : SessionOutdated
  added : List Listener

structure Tells {Listener : Type} (told : List Listener) (event : SessionOutdated)
    (notices : List (Notice Listener)) : Prop where
  listeners : notices.map (·.listener) = told
  event : ∀ notice ∈ notices, notice.event = event

namespace SessionListeners

variable {Listener World : Type}
  (respond : Listener → SessionOutdated → World → World × List Listener)

theorem signal_eq (listeners : SessionListeners Listener) (event : SessionOutdated)
    (world : World) :
    listeners.signal respond event world =
      (⟨listeners.registered ++ (tell (respond · event) listeners.registered world).2⟩,
        (tell (respond · event) listeners.registered world).1) := rfl

def recorded (listener : Listener) (event : SessionOutdated) :
    World × List (Notice Listener) → (World × List (Notice Listener)) × List Listener :=
  fun (world, record) =>
    let (world, added) := respond listener event world
    ((world, record ++ [{ listener, event, added }]), added)

def notices (listeners : SessionListeners Listener) (event : SessionOutdated) (world : World) :
    List (Notice Listener) :=
  (listeners.signal (recorded respond) event (world, [])).2.2

theorem tell_recorded (event : SessionOutdated) (told : List Listener) (world : World) :
    ∃ notices, Tells told event notices ∧
      (tell (respond · event) told world).2 = notices.flatMap (·.added) ∧
      ∀ record, tell (recorded respond · event) told (world, record) =
        (((tell (respond · event) told world).1, record ++ notices),
          (tell (respond · event) told world).2) := by
  induction told generalizing world with
  | nil => exact ⟨[], ⟨rfl, nofun⟩, rfl, fun record => by simp [tell]⟩
  | cons listener others ih =>
    obtain ⟨notices, tells, added, observed⟩ := ih (respond listener event world).1
    refine ⟨⟨listener, event, (respond listener event world).2⟩ :: notices, ⟨?_, ?_⟩, ?_, ?_⟩
    · rw [List.map_cons, tells.listeners]
    · exact List.forall_mem_cons.2 ⟨rfl, tells.event⟩
    · rw [List.flatMap_cons, ← added]
      rfl
    · intro record
      simp only [tell, recorded, observed, List.append_assoc, List.singleton_append]

theorem signal_recorded (listeners : SessionListeners Listener) (event : SessionOutdated)
    (world : World) :
    Tells listeners.registered event (listeners.notices respond event world) ∧
      (listeners.signal respond event world).1.registered = listeners.registered ++
        (listeners.notices respond event world).flatMap (·.added) ∧
      ∀ record, listeners.signal (recorded respond) event (world, record) =
        ((listeners.signal respond event world).1, (listeners.signal respond event world).2,
          record ++ listeners.notices respond event world) := by
  obtain ⟨found, tells, added, observed⟩ :=
    tell_recorded respond event listeners.registered world
  have same : listeners.notices respond event world = found := by
    rw [notices, signal_eq, observed, List.nil_append]
  rw [same]
  refine ⟨tells, ?_, fun record => ?_⟩
  · rw [signal_eq, added]
  · rw [signal_eq, observed, signal_eq]

theorem foldl_add (listeners : SessionListeners Listener) (added : List Listener) :
    added.foldl add listeners = ⟨listeners.registered ++ added⟩ := by
  induction added generalizing listeners with
  | nil => rw [List.append_nil]; rfl
  | cons listener others ih =>
    rw [List.foldl_cons, ih, add, List.append_assoc, List.singleton_append]

end SessionListeners

structure Audience (Listener World : Type) where
  listeners : SessionListeners Listener
  world : World

/-- What listeners make of an event. They see who is registered by then, and may register
others. -/
abbrev Behaviour (Listener World : Type) : Type :=
  Listener → SessionOutdated → Audience Listener World → World × List Listener

inductive ListenerCall (Listener : Type) where
  | add (listener : Listener)
  | signal (event : SessionOutdated)

inductive Occurrence (Listener : Type) where
  | added (listener : Listener)
  | delivered (event : SessionOutdated) (notices : List (Notice Listener))

namespace Occurrence

variable {Listener : Type}

def call : Occurrence Listener → ListenerCall Listener
  | .added listener => .add listener
  | .delivered event _ => .signal event

def registrations : Occurrence Listener → List Listener
  | .added listener => [listener]
  | .delivered _ notices => notices.flatMap (·.added)

end Occurrence

namespace Audience

variable {Listener World : Type} (behave : Behaviour Listener World)

/-- Those whom a listener registers are among the registered at once. -/
def respond (listener : Listener) (event : SessionOutdated) (audience : Audience Listener World) :
    Audience Listener World × List Listener :=
  let (world, added) := behave listener event audience
  ({ listeners := added.foldl SessionListeners.add audience.listeners, world }, added)

def call (audience : Audience Listener World) : ListenerCall Listener → Audience Listener World
  | .add listener => { audience with listeners := audience.listeners.add listener }
  | .signal event =>
    let (listeners, last) := audience.listeners.signal (respond behave) event audience
    { last with listeners }

def calls (audience : Audience Listener World) (calls : List (ListenerCall Listener)) :
    Audience Listener World :=
  calls.foldl (call behave) audience

def occurrence (audience : Audience Listener World) : ListenerCall Listener → Occurrence Listener
  | .add listener => .added listener
  | .signal event => .delivered event (audience.listeners.notices (respond behave) event audience)

def history : Audience Listener World → List (ListenerCall Listener) → List (Occurrence Listener)
  | _, [] => []
  | audience, call :: others =>
    audience.occurrence behave call :: history (audience.call behave call) others

def deliver (event : SessionOutdated) :
    List Listener → Audience Listener World → Audience Listener World
  | [], audience => audience
  | listener :: others, audience =>
    deliver event others (respond behave listener event audience).1

theorem registered_respond (listener : Listener) (event : SessionOutdated)
    (audience : Audience Listener World) :
    (respond behave listener event audience).1.listeners.registered =
      audience.listeners.registered ++ (respond behave listener event audience).2 :=
  congrArg SessionListeners.registered (SessionListeners.foldl_add audience.listeners _)

theorem tell_respond (event : SessionOutdated) (told : List Listener)
    (audience : Audience Listener World) :
    (SessionListeners.tell (respond behave · event) told audience).1 =
        deliver behave event told audience ∧
      (deliver behave event told audience).listeners.registered =
        audience.listeners.registered ++
          (SessionListeners.tell (respond behave · event) told audience).2 := by
  induction told generalizing audience with
  | nil => exact ⟨rfl, (List.append_nil _).symm⟩
  | cons listener others ih =>
    obtain ⟨reached, registered⟩ := ih (respond behave listener event audience).1
    refine ⟨reached, ?_⟩
    rw [deliver, registered, registered_respond, List.append_assoc]
    rfl

theorem signal_respond (audience : Audience Listener World) (event : SessionOutdated) :
    audience.listeners.signal (respond behave) event audience =
      ((deliver behave event audience.listeners.registered audience).listeners,
        deliver behave event audience.listeners.registered audience) := by
  obtain ⟨reached, registered⟩ :=
    tell_respond behave event audience.listeners.registered audience
  rw [SessionListeners.signal_eq, reached, ← registered]

theorem call_signal (audience : Audience Listener World) (event : SessionOutdated) :
    audience.call behave (.signal event) =
      deliver behave event audience.listeners.registered audience := by
  rw [call, signal_respond]

theorem registered_call (audience : Audience Listener World) (call : ListenerCall Listener) :
    (audience.call behave call).listeners.registered =
      audience.listeners.registered ++ (audience.occurrence behave call).registrations := by
  cases call with
  | add listener => rfl
  | signal event =>
    exact (audience.listeners.signal_recorded (respond behave) event audience).2.1

theorem registered_calls (audience : Audience Listener World)
    (calls : List (ListenerCall Listener)) :
    (audience.calls behave calls).listeners.registered =
      audience.listeners.registered ++
        (audience.history behave calls).flatMap (·.registrations) := by
  induction calls generalizing audience with
  | nil => exact (List.append_nil _).symm
  | cons call others ih =>
    rw [history, List.flatMap_cons, ← List.append_assoc, ← registered_call]
    exact ih (audience.call behave call)

theorem calls_append (audience : Audience Listener World)
    (first second : List (ListenerCall Listener)) :
    audience.calls behave (first ++ second) =
      (audience.calls behave first).calls behave second :=
  List.foldl_append

theorem map_call_history (audience : Audience Listener World)
    (calls : List (ListenerCall Listener)) :
    (audience.history behave calls).map (·.call) = calls := by
  induction calls generalizing audience with
  | nil => rfl
  | cons call others ih =>
    rw [history, List.map_cons, ih]
    cases call <;> rfl

theorem tells_of_history {audience : Audience Listener World}
    {calls : List (ListenerCall Listener)} {before after : List (Occurrence Listener)}
    {event : SessionOutdated} {notices : List (Notice Listener)}
    (split : audience.history behave calls = before ++ .delivered event notices :: after) :
    Tells (audience.listeners.registered ++ before.flatMap (·.registrations)) event notices := by
  -- Each call that lies before the delivery turns its registrations into registered listeners.
  induction calls generalizing audience before with
  | nil => simp [history] at split
  | cons call others ih =>
    cases before with
    | nil =>
      cases call with
      | add listener => cases split
      | signal named =>
        cases split
        rw [List.flatMap_nil, List.append_nil]
        exact (audience.listeners.signal_recorded (respond behave) event audience).1
    | cons first before =>
      obtain ⟨rfl, rest⟩ := List.cons.inj split
      rw [List.flatMap_cons, ← List.append_assoc, ← registered_call]
      exact ih rest

/-- Throughout any history a signal tells those who have been registered by then, as often as they
are registered and in order, and nobody else. Those who are registered while it goes on are
registered from then on, and so hear of all later events. -/
theorem delivery_course (audience : Audience Listener World)
    (calls : List (ListenerCall Listener)) :
    (audience.history behave calls).map (·.call) = calls ∧
    (audience.calls behave calls).listeners.registered =
      audience.listeners.registered ++
        (audience.history behave calls).flatMap (·.registrations) ∧
    (∀ before event notices after,
      audience.history behave calls = before ++ .delivered event notices :: after →
      Tells (audience.listeners.registered ++ before.flatMap (·.registrations)) event notices) ∧
    (∀ others, (audience.calls behave calls).listeners.registered <+:
      (audience.calls behave (calls ++ others)).listeners.registered) ∧
    ∀ (now : Audience Listener World) event,
      now.call behave (.signal event) = deliver behave event now.listeners.registered now ∧
      ∀ record, now.listeners.signal (SessionListeners.recorded (respond behave)) event
          (now, record) =
        ((now.call behave (.signal event)).listeners, now.call behave (.signal event),
          record ++ now.listeners.notices (respond behave) event now) := by
  refine ⟨map_call_history behave audience calls, registered_calls behave audience calls,
    fun before event notices after split => tells_of_history behave split, fun others => ?_,
    fun now event => ⟨call_signal behave now event, fun record => ?_⟩⟩
  · rw [calls_append, registered_calls behave (audience.calls behave calls)]
    exact List.prefix_append _ _
  · rw [(now.listeners.signal_recorded (respond behave) event now).2.2, signal_respond, call_signal]

/-- One listener registers another each time that it is told; it has been registered twice, with a
third between. -/
theorem delivery_course_of_registrar :
    ∃ (behave : Behaviour Nat Unit) (event : SessionOutdated) (first second : List (Notice Nat)),
      history behave ⟨{}, ()⟩ [.add 0, .add 2, .add 0, .signal event, .add 3, .signal event] =
        [.added 0, .added 2, .added 0, .delivered event first, .added 3,
          .delivered event second] ∧
      Tells [0, 2, 0] event first ∧ Tells [0, 2, 0, 1, 1, 3] event second ∧
      (calls behave ⟨{}, ()⟩
        [.add 0, .add 2, .add 0, .signal event, .add 3, .signal event]).listeners.registered =
        [0, 2, 0, 1, 1, 3, 1, 1] := by
  let behave : Behaviour Nat Unit := fun listener _ _ => ((), if listener = 0 then [1] else [])
  let event : SessionOutdated := ⟨"ann", [], ⟨"1"⟩, ⟨"2"⟩⟩
  let told (listener : Nat) : Notice Nat := ⟨listener, event, if listener = 0 then [1] else []⟩
  obtain ⟨-, registered, tells, -⟩ := delivery_course behave ⟨{}, ()⟩
    [.add 0, .add 2, .add 0, .signal event, .add 3, .signal event]
  exact ⟨behave, event, [0, 2, 0].map told, [0, 2, 0, 1, 1, 3].map told, rfl,
    tells [.added 0, .added 2, .added 0] event _ _ rfl, tells [_, _, _, _, _] event _ _ rfl,
    registered⟩

end Audience

end Jmap
