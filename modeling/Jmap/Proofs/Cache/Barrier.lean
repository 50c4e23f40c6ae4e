import Jmap.Proofs.Cache.Course

/-!
Invalidation as a barrier. What is in use for a user after it has been made after it,
and so has been loaded after it; a load that is under way ends for those who wait.
-/

namespace Jmap

namespace Traffic

variable {traffic next last : Traffic} {event : CacheEvent} {events : List CacheEvent}
  {number load firstVisit firstEntry : Nat} {user : String} {visit : Visit} {use : LoaderUse}
  {loaded : Loaded}

inductive Drops (user : String) : CacheEvent → Prop
  | invalidated : Drops user (.invalidate user)
  | outdated {event : SessionOutdated} (named : event.username = user) :
      Drops user (.outdated event)

theorem Drops.find? (drops : Drops user event) (step : Step traffic event next) :
    next.cache.current.find? user = none := by
  cases drops with
  | invalidated =>
    cases step
    simp [SessionCache.find?_invalidate]
  | outdated named =>
    cases step
    simp [SessionCache.onOutdated, SessionCache.find?_invalidate, named]

/-- No entry but those from a number on is in use for a user, and none but those has
been found by the callers from another number on. -/
structure Renewed (traffic : Traffic) (user : String) (firstVisit firstEntry : Nat) :
    Prop where
  made : firstEntry ≤ traffic.cache.made.length
  inUse : ∀ number, traffic.cache.current.find? user = some number → firstEntry ≤ number
  visited : ∀ number visit, firstVisit ≤ number → traffic.visit? number = some visit →
    visit.user = user → firstEntry ≤ visit.entry

theorem Drops.renewed (drops : Drops user event) (step : Step traffic event next) :
    next.Renewed user next.visits.length traffic.cache.made.length where
  made := step.made_le
  inUse number found := by
    rw [drops.find? step] at found
    cases found
  visited number visit late present _ :=
    absurd (List.getElem?_eq_some_iff.1 present).1 (Nat.not_lt.2 late)

theorem Renewed.found (renewed : traffic.Renewed user firstVisit firstEntry) :
    firstEntry ≤ traffic.found user := by
  cases usable : traffic.cache.usable? user traffic.now with
  | some number =>
    rw [found_of_usable usable]
    exact renewed.inUse number (SessionCache.usable?_eq_some_iff.1 usable).1
  | none =>
    rw [found_of_not_usable usable]
    exact renewed.made

theorem Renewed.step (renewed : traffic.Renewed user firstVisit firstEntry)
    (step : Step traffic event next) : next.Renewed user firstVisit firstEntry where
  made := Nat.le_trans renewed.made step.made_le
  inUse number found := by
    rcases step.find?_of_next found with before | ⟨-, rfl⟩
    · exact renewed.inUse number before
    · exact renewed.made
  visited number visit late present sameUser := by
    rcases step.visit_of_next present with ⟨before, earlier, same⟩ | ⟨-, -, entry⟩
    · rw [show visit.entry = before.entry from congrArg Caller.entry same]
      apply renewed.visited number before late earlier
      rw [← sameUser, show visit.user = before.user from congrArg Caller.user same]
    · rw [entry, sameUser]
      exact renewed.found

theorem Renewed.run (renewed : traffic.Renewed user firstVisit firstEntry)
    (run : Run traffic events last) : last.Renewed user firstVisit firstEntry :=
  run.keeps (fun _ _ _ holds step => Renewed.step holds step) renewed

theorem Drops.load_ge (drops : Drops user event) (sound : Sound traffic)
    (step : Step traffic event next) (rest : Run next events last)
    (late : next.visits.length ≤ number) (present : last.visit? number = some visit)
    (sameUser : visit.user = user) (left : last.LeftWith number load loaded) :
    traffic.loads.length ≤ load := by
  obtain ⟨leaver, use, leaverPresent, -, usePresent, sameEntry, -, -⟩ := left
  cases present.symm.trans leaverPresent
  refine Nat.le_of_not_lt (fun early => ?_)
  -- A load begun before the barrier is for an entry made before it; the visit has found
  -- an entry made after it.
  have whole : Run traffic (event :: events) last := .cons trivial step rest
  have old := sound.entry_lt_of_load whole early usePresent
  have new := ((drops.renewed step).run rest).visited number visit late present sameUser
  omega

theorem Drops.find?_ne (drops : Drops user event) (sound : Sound traffic)
    (step : Step traffic event next) (rest : Run next events last)
    (early : load < traffic.loads.length) (present : last.load? load = some use)
    (sameUser : use.user = user) (name : String) :
    last.cache.current.find? name ≠ some use.entry := by
  intro found
  have whole : Run traffic (event :: events) last := .cons trivial step rest
  have lastSound := sound.run whole
  obtain ⟨entry, entryPresent, owner⟩ := lastSound.inUse name use.entry found
  have sameName : name = user := by
    rw [← owner, lastSound.owner_of_load present entryPresent, sameUser]
  have old := sound.entry_lt_of_load whole early present
  have new := ((drops.renewed step).run rest).inUse use.entry (sameName ▸ found)
  omega

/-- Once the entry of a user has been dropped, those who come later for the user leave
with the results of later loads. The entry of an earlier load is never in use again,
whether the load has ended by then or not. -/
theorem invalidation_barrier {config : CacheConfig} {began : Fin Moment.limit}
    {before after : List CacheEvent} (run : Run (start config began) before traffic)
    (drops : Drops user event) (step : Step traffic event next) (rest : Run next after last) :
    (∀ number visit, next.visits.length ≤ number → last.visit? number = some visit →
      visit.user = user →
      (∀ load loaded, last.LeftWith number load loaded → traffic.loads.length ≤ load) ∧
      ∀ result, visit.stage = .gone result →
        ∃ load moment, last.LeftWith number load { result, moment }) ∧
    ∀ load use, load < traffic.loads.length → last.load? load = some use → use.user = user →
      ∀ name, last.cache.current.find? name ≠ some use.entry := by
  have sound := (start_sound config began).run run
  have lastSound := (sound.step step).run rest
  refine ⟨fun number visit late present sameUser =>
      ⟨fun load loaded left => ?_, fun result left => ?_⟩,
    fun load use early present sameUser => ?_⟩
  · exact drops.load_ge sound step rest late present sameUser left
  · exact lastSound.exists_leftWith present left
  · exact drops.find?_ne sound step rest early present sameUser

/-- A load is under way when its entry is dropped. Another is begun in the meantime, and
its result is what the later of two callers leaves with. -/
theorem barrier_against_late_load :
    ∃ (session : Session) (traffic next last : Traffic),
      Run (start default ⟨0, by decide⟩) [.look "alice", .startLoad 0] traffic ∧
      Step traffic (.invalidate "alice") next ∧
      Run next [.look "alice", .startLoad 1, .endLoad 0 (.ok session),
        .endLoad 1 (.error (.transport .timeout)), .leave 0, .leave 1] last ∧
      last.LeftWith 0 0 { result := .ok session, moment := 0 } ∧
      last.LeftWith 1 1 { result := .error (.transport .timeout), moment := 0 } ∧
      (∀ load loaded, last.LeftWith 1 load loaded → 1 ≤ load) ∧
      ∀ name, last.cache.current.find? name ≠ some 0 := by
  let failure : JmapError := .transport .timeout
  let rank : String → Nat := fun _ => 0
  let visit : Visit := { user := "alice", entry := 0, since := 0 }
  let traffic := ((start default ⟨0, by decide⟩).look "alice" rank).startLoad 0 visit
  let next : Traffic := { traffic with cache := (traffic.cache.invalidate "alice").2 }
  have run : Run (start default ⟨0, by decide⟩) [.look "alice", .startLoad 0] traffic :=
    .cons trivial (.look "alice" rank) (.cons trivial (.startLoad rfl rfl rfl) (.nil _))
  have step : Step traffic (.invalidate "alice") next := .invalidate "alice"
  have rest : Run next [.look "alice", .startLoad 1, .endLoad 0 (.ok default),
      .endLoad 1 (.error failure), .leave 0, .leave 1] _ :=
    .cons trivial (.look "alice" rank) (.cons trivial (.startLoad rfl rfl rfl)
      (.cons trivial (.endLoad rfl rfl _) (.cons trivial (.endLoad rfl rfl _)
        (.cons trivial (.leave rfl rfl rfl) (.cons trivial (.leave rfl rfl rfl) (.nil _))))))
  obtain ⟨later, dropped⟩ := invalidation_barrier run .invalidated step rest
  exact ⟨default, traffic, next, _, run, step, rest, ⟨_, _, rfl, rfl, rfl, rfl, rfl, rfl⟩,
    ⟨_, _, rfl, rfl, rfl, rfl, rfl, rfl⟩, (later 1 _ (Nat.le_refl 1) rfl rfl).1,
    dropped 0 _ (Nat.zero_lt_one) rfl rfl⟩

end Traffic

end Jmap
