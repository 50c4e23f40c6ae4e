import Jmap.Proofs.Cache.Entries
import Jmap.Session.Cache.Timeline

/-!
All that may happen at a cache, in any order. A caller looks up an entry, loads its
session if nobody has, and leaves with the result, unless it is dropped before; in between
others come and go, entries are dropped, and time passes.
-/

namespace Jmap

inductive VisitStage where
  | waiting
  /-- The caller uses the loader; each use is known by its number. -/
  | loading (load : Nat)
  | gone (result : Except JmapError Session)
  | dropped

structure Visit extends Caller where
  since : Moment
  stage : VisitStage := .waiting

structure Visit.Before (before after : Visit) : Prop where
  same : after.toCaller = before.toCaller
  stays : ∀ result, before.stage = .gone result → after.stage = .gone result

theorem Visit.Before.refl (visit : Visit) : visit.Before visit :=
  ⟨rfl, fun _ left => left⟩

theorem Visit.Before.trans {first second third : Visit} (early : first.Before second)
    (late : second.Before third) : first.Before third :=
  ⟨late.same.trans early.same, fun result left => late.stays result (early.stays result left)⟩

structure LoaderUse where
  entry : Nat
  user : String
  visit : Nat
  ended : Option Loaded := none
  /-- The visit has been dropped before the end, and the load with it. -/
  dropped : Bool := false

/-- A cache at a moment, with all that has happened to it. -/
structure Traffic where
  now : Moment
  cache : SessionCache
  visits : List Visit := []
  loads : List LoaderUse := []

inductive CacheEvent where
  | look (user : String)
  | startLoad (visit : Nat)
  | endLoad (visit : Nat) (result : Except JmapError Session)
  | leave (visit : Nat)
  | drop (visit : Nat)
  | invalidate (user : String)
  | outdated (event : SessionOutdated)
  | reap
  | advance (wait : Nat)

namespace Traffic

def start (config : CacheConfig) (began : Fin Moment.limit) : Traffic :=
  { now := began.val, cache := { config } }

def visit? (traffic : Traffic) (number : Nat) : Option Visit := traffic.visits[number]?

def load? (traffic : Traffic) (number : Nat) : Option LoaderUse := traffic.loads[number]?

def found (traffic : Traffic) (user : String) : Nat :=
  (traffic.cache.usable? user traffic.now).getD traffic.cache.made.length

def look (traffic : Traffic) (user : String) (rank : String → Nat) : Traffic :=
  let found := traffic.cache.lookup user traffic.now rank
  { traffic with
    cache := found.2
    visits := traffic.visits ++ [{ user, entry := found.1, since := traffic.now }] }

def startLoad (traffic : Traffic) (number : Nat) (visit : Visit) : Traffic :=
  { traffic with
    cache := traffic.cache.startLoad visit.entry
    visits := traffic.visits.set number { visit with stage := .loading traffic.loads.length }
    loads := traffic.loads ++ [{ entry := visit.entry, user := visit.user, visit := number }] }

def endLoad (traffic : Traffic) (number : Nat) (visit : Visit) (load : Nat)
    (result : Except JmapError Session) : Traffic :=
  { traffic with
    cache := traffic.cache.endLoad visit.entry result traffic.now
    visits := traffic.visits.set number { visit with stage := .waiting }
    loads := traffic.loads.modify load
      (fun use => { use with ended := some { result, moment := traffic.now } }) }

def leave (traffic : Traffic) (number : Nat) (visit : Visit)
    (result : Except JmapError Session) : Traffic :=
  { traffic with
    cache := traffic.cache.leave visit.user visit.entry
    visits := traffic.visits.set number { visit with stage := .gone result } }

def drop (traffic : Traffic) (number : Nat) (visit : Visit) : Traffic :=
  { traffic with visits := traffic.visits.set number { visit with stage := .dropped } }

def abandonLoad (traffic : Traffic) (number : Nat) (visit : Visit) (load : Nat) : Traffic :=
  { traffic with
    cache := traffic.cache.abandonLoad visit.entry
    visits := traffic.visits.set number { visit with stage := .dropped }
    loads := traffic.loads.modify load (fun use => { use with dropped := true }) }

/-- Any party may go on at any time: the loads of different entries overlap, and so
do the visits to one entry. Any of the oldest entries may make room for another. -/
inductive Step (traffic : Traffic) : CacheEvent → Traffic → Prop
  | look (user : String) (rank : String → Nat) :
      Step traffic (.look user) (traffic.look user rank)
  | startLoad {number : Nat} {visit : Visit} (present : traffic.visit? number = some visit)
      (waits : visit.stage = .waiting) (idle : traffic.cache.isIdle visit.entry = true) :
      Step traffic (.startLoad number) (traffic.startLoad number visit)
  | endLoad {number load : Nat} {visit : Visit} (present : traffic.visit? number = some visit)
      (loads : visit.stage = .loading load) (result : Except JmapError Session) :
      Step traffic (.endLoad number result) (traffic.endLoad number visit load result)
  | leave {number : Nat} {visit : Visit} {result : Except JmapError Session}
      (present : traffic.visit? number = some visit) (waits : visit.stage = .waiting)
      (loaded : traffic.cache.result? visit.entry = some result) :
      Step traffic (.leave number) (traffic.leave number visit result)
  | drop {number : Nat} {visit : Visit} (present : traffic.visit? number = some visit)
      (waits : visit.stage = .waiting) : Step traffic (.drop number) (traffic.drop number visit)
  | abandonLoad {number load : Nat} {visit : Visit}
      (present : traffic.visit? number = some visit) (loads : visit.stage = .loading load) :
      Step traffic (.drop number) (traffic.abandonLoad number visit load)
  | invalidate (user : String) :
      Step traffic (.invalidate user)
        { traffic with cache := (traffic.cache.invalidate user).2 }
  | outdated (event : SessionOutdated) :
      Step traffic (.outdated event) { traffic with cache := traffic.cache.onOutdated event }
  | reap : Step traffic .reap { traffic with cache := (traffic.cache.reap traffic.now).2 }
  | advance (wait : Nat) (inRange : traffic.now + wait < Moment.limit) :
      Step traffic (.advance wait) { traffic with now := traffic.now + wait }

/-- A run with a property of each state in which something happens. -/
inductive RunWhile (holds : Traffic → Prop) : Traffic → List CacheEvent → Traffic → Prop
  | nil (traffic : Traffic) : RunWhile holds traffic [] traffic
  | cons {traffic next last : Traffic} {event : CacheEvent} {events : List CacheEvent}
      (here : holds traffic) (step : Step traffic event next)
      (rest : RunWhile holds next events last) : RunWhile holds traffic (event :: events) last

abbrev Run : Traffic → List CacheEvent → Traffic → Prop := RunWhile (fun _ => True)

variable {traffic next last : Traffic} {event : CacheEvent} {events others : List CacheEvent}

theorem RunWhile.run {holds : Traffic → Prop} (run : RunWhile holds traffic events last) :
    Run traffic events last := by
  induction run with
  | nil traffic => exact .nil traffic
  | cons _ step _ ih => exact .cons trivial step ih

theorem Run.append (first : Run traffic events next) (second : Run next others last) :
    Run traffic (events ++ others) last := by
  induction first with
  | nil traffic => exact second
  | cons _ step _ ih => exact .cons trivial step (ih second)

theorem Run.keeps {holds : Traffic → Prop}
    (keeps : ∀ traffic event next, holds traffic → Step traffic event next → holds next)
    (run : Run traffic events last) (first : holds traffic) : holds last := by
  induction run with
  | nil traffic => exact first
  | cons _ step _ ih => exact ih (keeps _ _ _ first step)

/-- The loads of an entry, but for those that have come to nothing. -/
def loadsOf (traffic : Traffic) (entry : Nat) : List LoaderUse :=
  traffic.loads.filter (fun use => use.entry == entry && !use.dropped)

def Patient (events : List CacheEvent) : Prop := ∀ number, .drop number ∉ events

/-! What a step does to visits and to uses of the loader, read by number. -/

variable {number load other : Nat} {user : String} {rank : String → Nat}
  {visit after : Visit} {use : LoaderUse} {result : Except JmapError Session}

private theorem getElem?_append_one {α : Type} {list : List α} {new value : α} {place : Nat} :
    (list ++ [new])[place]? = some value ↔
      list[place]? = some value ∨ place = list.length ∧ value = new := by
  rw [List.getElem?_append]
  split
  · rename_i bound
    simp [Nat.ne_of_lt bound]
  · rename_i beyond
    have absent : list[place]? = none := List.getElem?_eq_none (by omega)
    rw [absent, List.getElem?_singleton]
    split
    · rename_i first
      simp [show place = list.length by omega, eq_comm]
    · rename_i further
      simp [show place ≠ list.length by omega]

theorem lookup_found : (traffic.cache.lookup user traffic.now rank).1 = traffic.found user :=
  SessionCache.lookup_fst

theorem found_of_usable (usable : traffic.cache.usable? user traffic.now = some number) :
    traffic.found user = number := by
  rw [found, usable, Option.getD_some]

theorem found_of_not_usable (unusable : traffic.cache.usable? user traffic.now = none) :
    traffic.found user = traffic.cache.made.length := by
  rw [found, unusable, Option.getD_none]

theorem visit?_look :
    (traffic.look user rank).visit? number = some visit ↔
      traffic.visit? number = some visit ∨
        number = traffic.visits.length ∧
          visit = { user, entry := traffic.found user, since := traffic.now } := by
  rw [← @lookup_found traffic user rank]
  exact getElem?_append_one

theorem visit?_set (present : traffic.visit? number = some visit) :
    ({ traffic with visits := traffic.visits.set number after } : Traffic).visit? other =
      if number = other then some after else traffic.visit? other := by
  simp only [visit?] at present ⊢
  rw [List.getElem?_set]
  split
  · rw [if_pos (List.getElem?_eq_some_iff.1 present).1]
  · rfl

theorem visit?_startLoad (present : traffic.visit? number = some visit) :
    (traffic.startLoad number visit).visit? other =
      if number = other then some { visit with stage := .loading traffic.loads.length }
      else traffic.visit? other :=
  visit?_set present

theorem visit?_endLoad (present : traffic.visit? number = some visit) :
    (traffic.endLoad number visit load result).visit? other =
      if number = other then some { visit with stage := .waiting } else traffic.visit? other :=
  visit?_set present

theorem visit?_leave (present : traffic.visit? number = some visit) :
    (traffic.leave number visit result).visit? other =
      if number = other then some { visit with stage := .gone result }
      else traffic.visit? other :=
  visit?_set present

theorem visit?_abandonLoad (present : traffic.visit? number = some visit) :
    (traffic.abandonLoad number visit load).visit? other =
      if number = other then some { visit with stage := .dropped } else traffic.visit? other :=
  visit?_set present

theorem load?_startLoad :
    (traffic.startLoad number visit).load? load = some use ↔
      traffic.load? load = some use ∨
        load = traffic.loads.length ∧
          use = { entry := visit.entry, user := visit.user, visit := number } :=
  getElem?_append_one

theorem load?_endLoad :
    (traffic.endLoad number visit load result).load? other =
      if load = other then
        (traffic.load? other).map
          (fun use => { use with ended := some { result, moment := traffic.now } })
      else traffic.load? other := by
  simp only [load?, endLoad, List.getElem?_modify]
  split
  · rfl
  · simp

theorem load?_abandonLoad :
    (traffic.abandonLoad number visit load).load? other =
      if load = other then (traffic.load? other).map (fun use => { use with dropped := true })
      else traffic.load? other := by
  simp only [load?, abandonLoad, List.getElem?_modify]
  split
  · rfl
  · simp

/-! Visits from one step to the next: they go on as the same visits, and only look-ups
add to them. -/

private theorem visit_set_before {visits : List Visit} (present : visits[number]? = some visit)
    {another : Visit} (otherPresent : visits[other]? = some another)
    (before : visit.Before after) :
    ∃ later, (visits.set number after)[other]? = some later ∧ another.Before later := by
  rw [List.getElem?_set]
  split
  · rename_i same
    subst same
    cases present.symm.trans otherPresent
    exact ⟨after, by simp [(List.getElem?_eq_some_iff.1 present).1], before⟩
  · exact ⟨another, otherPresent, .refl another⟩

theorem Step.keeps_visit (step : Step traffic event next)
    (present : traffic.visit? number = some visit) :
    ∃ after, next.visit? number = some after ∧ visit.Before after := by
  cases step with
  | look user rank => exact ⟨visit, visit?_look.2 (.inl present), .refl visit⟩
  | startLoad starter waits idle =>
    refine visit_set_before starter present ⟨rfl, fun result left => ?_⟩
    cases waits.symm.trans left
  | endLoad ender loads result =>
    refine visit_set_before ender present ⟨rfl, fun result left => ?_⟩
    cases loads.symm.trans left
  | leave leaver waits loaded =>
    refine visit_set_before leaver present ⟨rfl, fun result left => ?_⟩
    cases waits.symm.trans left
  | drop dropped waits =>
    refine visit_set_before dropped present ⟨rfl, fun result left => ?_⟩
    cases waits.symm.trans left
  | abandonLoad dropped loads =>
    refine visit_set_before dropped present ⟨rfl, fun result left => ?_⟩
    cases loads.symm.trans left
  | invalidate user => exact ⟨visit, present, .refl visit⟩
  | outdated event => exact ⟨visit, present, .refl visit⟩
  | reap => exact ⟨visit, present, .refl visit⟩
  | advance wait inRange => exact ⟨visit, present, .refl visit⟩

theorem Run.keeps_visit (run : Run traffic events last)
    (present : traffic.visit? number = some visit) :
    ∃ after, last.visit? number = some after ∧ visit.Before after := by
  induction run generalizing visit with
  | nil traffic => exact ⟨visit, present, .refl visit⟩
  | cons _ step _ ih =>
    obtain ⟨middle, middlePresent, early⟩ := step.keeps_visit present
    obtain ⟨after, afterPresent, late⟩ := ih middlePresent
    exact ⟨after, afterPresent, early.trans late⟩

theorem visit_of_set {visits : List Visit} (present : visits[number]? = some visit)
    {another : Visit} (otherPresent : (visits.set number after)[other]? = some another)
    (same : after.toCaller = visit.toCaller) :
    ∃ before, visits[other]? = some before ∧ another.toCaller = before.toCaller := by
  rw [List.getElem?_set] at otherPresent
  split at otherPresent
  · rename_i place
    subst place
    split at otherPresent
    · cases otherPresent
      exact ⟨visit, present, same⟩
    · cases otherPresent
  · exact ⟨another, otherPresent, rfl⟩

theorem Step.visit_of_next (step : Step traffic event next)
    (present : next.visit? number = some visit) :
    (∃ before, traffic.visit? number = some before ∧ visit.toCaller = before.toCaller) ∨
      event = .look visit.user ∧ number = traffic.visits.length ∧
        visit.entry = traffic.found visit.user := by
  cases step with
  | look user rank =>
    rcases visit?_look.1 present with before | ⟨place, rfl⟩
    · exact .inl ⟨visit, before, rfl⟩
    · exact .inr ⟨rfl, place, rfl⟩
  | startLoad starter waits idle => exact .inl (visit_of_set starter present rfl)
  | endLoad ender loads result => exact .inl (visit_of_set ender present rfl)
  | leave leaver waits loaded => exact .inl (visit_of_set leaver present rfl)
  | drop dropped waits => exact .inl (visit_of_set dropped present rfl)
  | abandonLoad dropped loads => exact .inl (visit_of_set dropped present rfl)
  | invalidate user => exact .inl ⟨visit, present, rfl⟩
  | outdated event => exact .inl ⟨visit, present, rfl⟩
  | reap => exact .inl ⟨visit, present, rfl⟩
  | advance wait inRange => exact .inl ⟨visit, present, rfl⟩

theorem dropped_of_set {visits : List Visit}
    (present : (visits.set number after)[other]? = some visit) (dropped : visit.stage = .dropped) :
    number = other ∧ after.stage = .dropped ∨
      ∃ before, visits[other]? = some before ∧ before.stage = .dropped := by
  rw [List.getElem?_set] at present
  split at present
  · rename_i same
    split at present
    · cases present
      exact .inl ⟨same, dropped⟩
    · cases present
  · exact .inr ⟨visit, present, dropped⟩

theorem Step.dropped_of_next (step : Step traffic event next)
    (present : next.visit? number = some visit) (dropped : visit.stage = .dropped) :
    event = .drop number ∨
      ∃ before, traffic.visit? number = some before ∧ before.stage = .dropped := by
  cases step with
  | look user rank =>
    rcases visit?_look.1 present with before | ⟨-, rfl⟩
    · exact .inr ⟨visit, before, dropped⟩
    · cases dropped
  | startLoad starter waits idle =>
    exact .inr ((dropped_of_set present dropped).resolve_left (fun own => by cases own.2))
  | endLoad ender loads result =>
    exact .inr ((dropped_of_set present dropped).resolve_left (fun own => by cases own.2))
  | leave leaver waits loaded =>
    exact .inr ((dropped_of_set present dropped).resolve_left (fun own => by cases own.2))
  | drop drops waits =>
    exact (dropped_of_set present dropped).imp_left (fun own => congrArg CacheEvent.drop own.1)
  | abandonLoad drops loads =>
    exact (dropped_of_set present dropped).imp_left (fun own => congrArg CacheEvent.drop own.1)
  | invalidate user => exact .inr ⟨visit, present, dropped⟩
  | outdated event => exact .inr ⟨visit, present, dropped⟩
  | reap => exact .inr ⟨visit, present, dropped⟩
  | advance wait inRange => exact .inr ⟨visit, present, dropped⟩

/-- A use of the loader has been there before the step, and come to nothing if it has now, unless
the step is its start or drops a visit. -/
theorem Step.load_of_next (step : Step traffic event next) (present : next.load? load = some use) :
    (∃ before, traffic.load? load = some before ∧ use.entry = before.entry ∧
        use.visit = before.visit ∧
        (use.dropped = before.dropped ∨ ∃ number, event = .drop number)) ∨
      ∃ number visit, event = .startLoad number ∧ traffic.visit? number = some visit ∧
        traffic.cache.isIdle visit.entry = true ∧ load = traffic.loads.length ∧
        use = { entry := visit.entry, user := visit.user, visit := number } := by
  cases step with
  | startLoad starter waits idle =>
    rcases load?_startLoad.1 present with before | ⟨place, rfl⟩
    · exact .inl ⟨use, before, rfl, rfl, .inl rfl⟩
    · exact .inr ⟨_, _, rfl, starter, idle, place, rfl⟩
  | endLoad ender loads result =>
    rw [load?_endLoad] at present
    split at present
    · obtain ⟨before, beforePresent, rfl⟩ := Option.map_eq_some_iff.1 present
      exact .inl ⟨before, beforePresent, rfl, rfl, .inl rfl⟩
    · exact .inl ⟨use, present, rfl, rfl, .inl rfl⟩
  | abandonLoad drops loads =>
    rw [load?_abandonLoad] at present
    split at present
    · obtain ⟨before, beforePresent, rfl⟩ := Option.map_eq_some_iff.1 present
      exact .inl ⟨before, beforePresent, rfl, rfl, .inr ⟨_, rfl⟩⟩
    · exact .inl ⟨use, present, rfl, rfl, .inl rfl⟩
  | look user rank => exact .inl ⟨use, present, rfl, rfl, .inl rfl⟩
  | leave leaver waits loaded => exact .inl ⟨use, present, rfl, rfl, .inl rfl⟩
  | drop drops waits => exact .inl ⟨use, present, rfl, rfl, .inl rfl⟩
  | invalidate user => exact .inl ⟨use, present, rfl, rfl, .inl rfl⟩
  | outdated event => exact .inl ⟨use, present, rfl, rfl, .inl rfl⟩
  | reap => exact .inl ⟨use, present, rfl, rfl, .inl rfl⟩
  | advance wait inRange => exact .inl ⟨use, present, rfl, rfl, .inl rfl⟩

theorem Run.dropped_of_last (run : Run traffic events last)
    (present : last.visit? number = some visit) (dropped : visit.stage = .dropped) :
    .drop number ∈ events ∨
      ∃ before, traffic.visit? number = some before ∧ before.stage = .dropped := by
  induction run with
  | nil traffic => exact .inr ⟨visit, present, dropped⟩
  | cons _ step _ ih =>
    rcases ih present with later | ⟨middle, middlePresent, middleDropped⟩
    · exact .inl (List.mem_cons_of_mem _ later)
    · rcases step.dropped_of_next middlePresent middleDropped with rfl | before
      · exact .inl List.mem_cons_self
      · exact .inr before

theorem Patient.of_cons (patient : Patient (event :: events)) :
    (∀ number, event ≠ .drop number) ∧ Patient events :=
  ⟨fun number same => patient number (same ▸ List.mem_cons_self),
    fun number member => patient number (List.mem_cons_of_mem _ member)⟩

theorem Run.load_dropped_of_patient (run : Run traffic events last) (patient : Patient events)
    (present : last.load? load = some use) (dropped : use.dropped = true) :
    ∃ before, traffic.load? load = some before ∧ before.dropped = true := by
  induction run generalizing use with
  | nil traffic => exact ⟨use, present, dropped⟩
  | cons _ step _ ih =>
    obtain ⟨here, later⟩ := patient.of_cons
    obtain ⟨middle, middlePresent, middleDropped⟩ := ih later present dropped
    rcases step.load_of_next middlePresent with
      ⟨before, beforePresent, -, -, same | ⟨number, drops⟩⟩ | ⟨_, _, _, _, _, _, rfl⟩
    · exact ⟨before, beforePresent, same.symm.trans middleDropped⟩
    · exact absurd drops (here number)
    · cases middleDropped

end Traffic

end Jmap
