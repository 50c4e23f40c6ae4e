import Jmap.Proofs.Cache.Reaping

/-!
The course of a timeline is one of those that may be taken at its cache: whatever is done to it,
callers, loads and reapers do no more than they may do at any time.
-/

namespace Jmap

namespace SessionCache

variable {cache : SessionCache} {number : Nat} {now later : Moment}

theorem isOver_mono (order : now ≤ later) (ended : cache.isOver now number = true) :
    cache.isOver later number = true := by
  obtain ⟨entry, present, expired⟩ := isOver_eq_true_iff.1 ended
  obtain ⟨loaded, expiry, stage, ends, past⟩ := isExpired_eq_true_iff.1 expired
  exact isOver_eq_true_iff.2 ⟨entry, present,
    isExpired_eq_true_iff.2 ⟨loaded, expiry, stage, ends, Nat.le_trans past order⟩⟩

def Settled (cache : SessionCache) (moment : Moment) : Prop :=
  ∀ earlier, earlier ≤ moment → (cache.reap earlier).2 = cache

theorem settled_reap (cache : SessionCache) (now : Moment) : (cache.reap now).2.Settled now := by
  intro earlier order
  have nothing : (cache.reap now).2.stale earlier = [] := by
    apply List.eq_nil_iff_forall_not_mem.2
    intro user member
    obtain ⟨number, found⟩ := find?_of_mem_stale member
    have expired : cache.isOver earlier number = true := (mem_stale_iff found).1 member
    rw [find?_reap] at found
    have lasts := (usable?_eq_some_iff.1 found).2
    rw [isOver_mono order expired] at lasts
    cases lasts
  rw [reap_eq (cache.reap now).2, nothing]
  rfl

end SessionCache

def Visit.stays (visit : Visit) : Bool :=
  match visit.stage with
  | .waiting | .loading _ => true
  | .gone _ | .dropped => false

namespace Traffic

variable {traffic : Traffic} {number : Nat} {visit after : Visit} {visits : List Visit}
  {entry : Nat} {result : Except JmapError Session}

theorem Patient.cons {event : CacheEvent} {events : List CacheEvent}
    (here : ∀ number, event ≠ .drop number) (later : Patient events) : Patient (event :: events) :=
  fun number member => (List.mem_cons.1 member).elim (fun same => here number same.symm)
    (later number)

theorem Patient.append {events others : List CacheEvent} (first : Patient events)
    (second : Patient others) : Patient (events ++ others) :=
  fun number member => (List.mem_append.1 member).elim (first number) (second number)

def staying (visits : List Visit) : List Caller := (visits.filter Visit.stays).map Visit.toCaller

theorem staying_append (visits others : List Visit) :
    staying (visits ++ others) = staying visits ++ staying others := by
  simp [staying]

theorem staying_cons_of_stays (stays : visit.stays = true) :
    staying (visit :: visits) = visit.toCaller :: staying visits := by
  simp [staying, stays]

theorem staying_cons_of_not_stays (gone : visit.stays = false) :
    staying (visit :: visits) = staying visits := by
  simp [staying, gone]

theorem staying_set (present : visits[number]? = some visit)
    (same : after.toCaller = visit.toCaller) (alike : after.stays = visit.stays) :
    staying (visits.set number after) = staying visits := by
  induction visits generalizing number with
  | nil => cases present
  | cons head rest ih =>
    cases number with
    | zero =>
      cases present
      cases stays : visit.stays with
      | true =>
        rw [List.set_cons_zero, staying_cons_of_stays (alike.trans stays),
          staying_cons_of_stays stays, same]
      | false =>
        rw [List.set_cons_zero, staying_cons_of_not_stays (alike.trans stays),
          staying_cons_of_not_stays stays]
    | succ number =>
      have others := ih (show rest[number]? = some visit from present)
      cases stays : head.stays with
      | true =>
        rw [List.set_cons_succ, staying_cons_of_stays stays, staying_cons_of_stays stays, others]
      | false =>
        rw [List.set_cons_succ, staying_cons_of_not_stays stays, staying_cons_of_not_stays stays,
          others]

def served (entry : Nat) (result : Except JmapError Session) (visit : Visit) : Visit :=
  if visit.stays = true ∧ visit.entry = entry then { visit with stage := .gone result } else visit

theorem served_of_ne (other : visit.entry ≠ entry) : served entry result visit = visit :=
  if_neg (fun own => other own.2)

theorem staying_served (entry : Nat) (result : Except JmapError Session) (visits : List Visit) :
    staying (visits.map (served entry result)) =
      (staying visits).filter (fun caller => !(caller.entry == entry)) := by
  induction visits with
  | nil => rfl
  | cons visit rest ih =>
    rw [List.map_cons]
    cases stays : visit.stays with
    | false =>
      rw [show served entry result visit = visit from if_neg (by simp [stays]),
        staying_cons_of_not_stays stays, staying_cons_of_not_stays stays, ih]
    | true =>
      rw [staying_cons_of_stays stays]
      by_cases own : visit.entry = entry
      · rw [served, if_pos ⟨stays, own⟩, staying_cons_of_not_stays rfl, ih,
          List.filter_cons_of_neg (by simp [own])]
      · rw [served_of_ne own, staying_cons_of_stays stays, ih,
          List.filter_cons_of_pos (by simp [own])]

/-- All that wait for an entry may go with its result, one after the other. -/
theorem run_served {now : Moment} {loads : List LoaderUse} (todo gone : List Visit)
    {cache : SessionCache} (ready : cache.result? entry = some result)
    (waits : ∀ visit ∈ todo, visit.entry = entry → visit.stays = true → visit.stage = .waiting) :
    ∃ events, Patient events ∧ Run { now, cache, visits := gone ++ todo, loads } events
      { now
        cache := ((staying todo).filter (fun caller => caller.entry == entry)).foldl
          (fun cache caller => cache.leave caller.user caller.entry) cache
        visits := gone ++ todo.map (served entry result)
        loads } := by
  -- The visits that have been passed come along, since those to come are known by their places.
  induction todo generalizing gone cache with
  | nil => exact ⟨[], nofun, .nil _⟩
  | cons visit rest ih =>
    have others (member : Visit) (later : member ∈ rest) := waits member (.tail _ later)
    by_cases own : visit.stays = true ∧ visit.entry = entry
    · obtain ⟨stays, same⟩ := own
      have present : Traffic.visit? { now, cache, visits := gone ++ visit :: rest, loads }
          gone.length = some visit := by simp [visit?]
      have leaves := Step.leave present (waits visit (.head _) same stays)
        (show cache.result? visit.entry = some result by rwa [same])
      obtain ⟨events, patient, run⟩ := @ih (gone ++ [{ visit with stage := .gone result }])
        (cache.leave visit.user visit.entry) (SessionCache.result?_leave.trans ready) others
      refine ⟨.leave gone.length :: events, patient.cons (fun _ drops => by cases drops),
        .cons trivial leaves ?_⟩
      have moved : (gone ++ visit :: rest).set gone.length { visit with stage := .gone result } =
          gone ++ { visit with stage := .gone result } :: rest := by simp
      simp only [List.append_assoc, List.singleton_append] at run
      rw [Traffic.leave, moved, List.map_cons, served, if_pos ⟨stays, same⟩,
        staying_cons_of_stays stays, List.filter_cons_of_pos (by simp [same]), List.foldl_cons]
      exact run
    · obtain ⟨events, patient, run⟩ := @ih (gone ++ [visit]) cache ready others
      refine ⟨events, patient, ?_⟩
      have stays : (staying (visit :: rest)).filter (fun caller => caller.entry == entry) =
          (staying rest).filter (fun caller => caller.entry == entry) := by
        cases stays : visit.stays with
        | false => rw [staying_cons_of_not_stays stays]
        | true =>
          have other : ¬visit.entry = entry := fun same => own ⟨stays, same⟩
          rw [staying_cons_of_stays stays, List.filter_cons_of_neg (by simp [other])]
      simp only [List.append_assoc, List.singleton_append] at run
      rw [stays, List.map_cons, served, if_neg own]
      exact run

/-- Some caller loads an entry. -/
def Loads (traffic : Traffic) (entry : Nat) : Prop :=
  ∃ number visit load, traffic.visit? number = some visit ∧ visit.entry = entry ∧
    visit.stage = .loading load

theorem Loads.set {next : Traffic} (loads : traffic.Loads entry)
    (present : traffic.visit? number = some visit)
    (other : visit.stage = .waiting ∨ visit.entry ≠ entry)
    (visits : next.visits = traffic.visits.set number after) : next.Loads entry := by
  obtain ⟨place, another, load, otherPresent, own, loading⟩ := loads
  have apart : number ≠ place := by
    rintro rfl
    cases present.symm.trans otherPresent
    rcases other with waits | different
    · cases waits.symm.trans loading
    · exact different own
  refine ⟨place, another, load, ?_, own, loading⟩
  rw [visit?, visits, List.getElem?_set_ne apart]
  exact otherPresent

theorem Loads.served {next : Traffic} {other : Nat} (loads : traffic.Loads other)
    (different : other ≠ entry) (visits : next.visits = traffic.visits.map (served entry result)) :
    next.Loads other := by
  obtain ⟨place, another, load, present, own, loading⟩ := loads
  refine ⟨place, another, load, ?_, own, loading⟩
  rw [visit?, visits, List.getElem?_map, show traffic.visits[place]? = some another from present]
  exact congrArg some (served_of_ne (own ▸ different))

/-- Nobody loads an entry whose result is there, so that all who are left there wait. -/
theorem Sound.waiting_of_ready (sound : Sound traffic)
    (present : traffic.visit? number = some visit) (stays : visit.stays = true)
    (ready : traffic.cache.result? visit.entry = some result) : visit.stage = .waiting := by
  cases stage : visit.stage with
  | waiting => rfl
  | loading load =>
    obtain ⟨own, ownPresent, isLoading⟩ := sound.stage_of_loading present stage
    obtain ⟨other, loaded, otherPresent, isLoaded, -⟩ := SessionCache.result?_eq_some_iff.1 ready
    cases ownPresent.symm.trans otherPresent
    cases isLoading.symm.trans isLoaded
  | gone result => simp [Visit.stays, stage] at stays
  | dropped => simp [Visit.stays, stage] at stays

end Traffic

namespace Timeline

open Traffic (Run Step Patient Sound staying)

variable {timeline before middle after : Timeline} {traffic next : Traffic} {event : CacheEvent}
  {flight : Flight} {flights : List Flight} {moment : Moment} {number : Nat} {visit : Visit}

/-- A timeline in which the same has happened as in a course of traffic. -/
structure Follows (timeline : Timeline) (traffic : Traffic) : Prop where
  sound : Sound traffic
  inRange : traffic.now < Moment.limit
  now : timeline.now = traffic.now
  cache : timeline.cache = traffic.cache
  waiting : timeline.waiting = staying traffic.visits
  /-- Somebody is there who uses the loader until the load ends. -/
  flights : ∀ flight ∈ timeline.flights,
    flight.load.finish < Moment.limit ∧ traffic.Loads flight.entry
  once : (timeline.flights.map Flight.entry).Nodup

/-- What happens next may end at a timeline, with no caller dropped. -/
def Reached (timeline : Timeline) (traffic : Traffic) : Prop :=
  ∃ events next, Run traffic events next ∧ Patient events ∧ timeline.Follows next

/-- What makes one timeline of another may happen at any cache. -/
def Leads (before after : Timeline) : Prop :=
  ∀ traffic, before.Follows traffic → after.Reached traffic

theorem Follows.reached (follows : timeline.Follows traffic) : timeline.Reached traffic :=
  ⟨[], traffic, .nil traffic, nofun, follows⟩

theorem Reached.step (reached : timeline.Reached next) (step : Step traffic event next)
    (kept : ∀ number, event ≠ .drop number) : timeline.Reached traffic := by
  obtain ⟨events, last, run, patient, follows⟩ := reached
  exact ⟨event :: events, last, .cons trivial step run, patient.cons kept, follows⟩

theorem Reached.trans (reached : before.Reached traffic) (leads : before.Leads after) :
    after.Reached traffic := by
  obtain ⟨events, next, run, patient, follows⟩ := reached
  obtain ⟨others, last, later, patients, ends⟩ := leads next follows
  exact ⟨events ++ others, last, run.append later, patient.append patients, ends⟩

theorem Leads.refl (timeline : Timeline) : timeline.Leads timeline :=
  fun _ follows => follows.reached

theorem Leads.trans (first : before.Leads middle) (second : middle.Leads after) :
    before.Leads after :=
  fun traffic follows => (first traffic follows).trans second

theorem leads_reapers (reapers : List (Option Moment)) :
    timeline.Leads { timeline with reapers } :=
  fun _ follows => Follows.reached { follows with }

theorem leads_advance (later : timeline.now ≤ moment) (inRange : moment < Moment.limit) :
    timeline.Leads { timeline with now := moment } := by
  intro traffic follows
  obtain ⟨wait, rfl⟩ := Nat.exists_eq_add_of_le later
  rw [follows.now] at inRange
  have step := Step.advance wait inRange
  refine Reached.step (Follows.reached ?_) step nofun
  exact { follows with
    sound := follows.sound.step step
    inRange := inRange
    now := congrArg (· + wait) follows.now }

theorem Follows.step_cache {cache : SessionCache} (follows : timeline.Follows traffic)
    (step : Step traffic event { traffic with cache }) (kept : ∀ number, event ≠ .drop number) :
    Reached { timeline with cache } traffic := by
  refine Reached.step (Follows.reached ?_) step kept
  exact { follows with
    sound := follows.sound.step step
    cache := rfl }

theorem leads_reap (timeline : Timeline) : timeline.Leads timeline.reap.2 := by
  intro traffic follows
  rw [show timeline.reap.2 = { timeline with cache := (traffic.cache.reap traffic.now).2 } by
    rw [reap, follows.now, follows.cache]]
  exact follows.step_cache .reap nofun

theorem leads_invalidate (timeline : Timeline) (user : String) :
    timeline.Leads (timeline.invalidate user).2 := by
  intro traffic follows
  rw [show (timeline.invalidate user).2 =
      { timeline with cache := (traffic.cache.invalidate user).2 } by
    rw [invalidate, follows.cache]]
  exact follows.step_cache (.invalidate user) nofun

theorem leads_onOutdated (timeline : Timeline) (event : SessionOutdated) :
    timeline.Leads (timeline.onOutdated event) := by
  intro traffic follows
  rw [onOutdated, follows.cache]
  exact follows.step_cache (.outdated event) nofun

theorem last_le {due interval : Nat} {moment : Nat} (early : due < moment) :
    due + (moment - 1 - due) / interval * interval ≤ moment := by
  have whole := Nat.div_mul_le_self (moment - 1 - due) interval
  omega

/-- A reaper looks through the cache no later than the next thing happens, if at all. -/
theorem reapOnce_cases (timeline : Timeline) (moment : Moment) (due : Option Moment) :
    (reapOnce timeline moment due).1 = timeline.cache ∨
      ∃ last, timeline.now ≤ last ∧ last ≤ max timeline.now moment ∧
        (reapOnce timeline moment due).1 = (timeline.cache.reap last).2 := by
  unfold reapOnce
  dsimp only
  split
  · rename_i early
    exact .inr ⟨_, Nat.le_max_right _ _, Nat.max_le.2
      ⟨Nat.le_trans (last_le early) (Nat.le_max_right _ _), Nat.le_max_left _ _⟩, rfl⟩
  · exact .inl rfl

def reaped (moment : Moment) (timeline : Timeline) (due : Option Moment) : Timeline :=
  { timeline with
    cache := (reapOnce timeline moment due).1
    reapers := timeline.reapers ++ [(reapOnce timeline moment due).2] }

theorem reapBefore_eq (timeline : Timeline) (moment : Moment) :
    timeline.reapBefore moment =
      timeline.reapers.foldl (reaped moment) { timeline with reapers := [] } := rfl

theorem foldl_reaped (moment : Moment) (dues : List (Option Moment)) (timeline : Timeline) :
    ∃ cache reapers, dues.foldl (reaped moment) timeline = { timeline with cache, reapers } := by
  induction dues generalizing timeline with
  | nil => exact ⟨timeline.cache, timeline.reapers, rfl⟩
  | cons due dues ih => exact ih (reaped moment timeline due)

@[simp] theorem reapBefore_now : (timeline.reapBefore moment).now = timeline.now := by
  obtain ⟨cache, reapers, same⟩ :=
    foldl_reaped moment timeline.reapers { timeline with reapers := [] }
  rw [reapBefore_eq, same]

@[simp] theorem reapBefore_flights : (timeline.reapBefore moment).flights = timeline.flights := by
  obtain ⟨cache, reapers, same⟩ :=
    foldl_reaped moment timeline.reapers { timeline with reapers := [] }
  rw [reapBefore_eq, same]

/-- Reapers look at moments in no order. One that would have looked before the last finds
nothing that the last has left. -/
theorem leads_foldl_reaped (dues : List (Option Moment)) {reached : Moment}
    (begins : timeline.now ≤ reached) (ends : reached ≤ max timeline.now moment)
    (inRange : max timeline.now moment < Moment.limit)
    (settled : reached = timeline.now ∨ timeline.cache.Settled reached) :
    Leads { timeline with now := reached, flights }
      { dues.foldl (reaped moment) timeline with now := max timeline.now moment, flights } := by
  induction dues generalizing timeline reached with
  | nil => exact leads_advance ends inRange
  | cons due dues ih =>
    rw [List.foldl_cons]
    have unchanged (same : (reapOnce timeline moment due).1 = timeline.cache) :
        Leads { timeline with now := reached, flights }
          { dues.foldl (reaped moment) (reaped moment timeline due) with
            now := max timeline.now moment, flights } := by
      have later := @ih (reaped moment timeline due) reached begins ends inRange
        (settled.imp_right (fun settled => by rwa [reaped, same]))
      refine Leads.trans ?_ later
      rw [reaped, same]
      exact leads_reapers _
    rcases reapOnce_cases timeline moment due with same | ⟨last, since, bound, reaps⟩
    · exact unchanged same
    · rcases Nat.lt_or_ge last reached with early | late
      · refine unchanged (reaps.trans ?_)
        rcases settled with rfl | settled
        · exact absurd since (Nat.not_le.2 early)
        · exact settled last (Nat.le_of_lt early)
      · have later := @ih (reaped moment timeline due) last since bound inRange
          (.inr (by rw [reaped, reaps]; exact timeline.cache.settled_reap last))
        refine Leads.trans ?_ later
        refine Leads.trans (@leads_advance _ last late (Nat.lt_of_le_of_lt bound inRange)) ?_
        refine Leads.trans (leads_reap _) ?_
        rw [reaped, reaps]
        exact leads_reapers _

theorem leads_reapBefore (timeline : Timeline) (moment : Moment) (flights : List Flight)
    (inRange : max timeline.now moment < Moment.limit) :
    Leads { timeline with flights }
      { timeline.reapBefore moment with now := max timeline.now moment, flights } := by
  have looks := @leads_foldl_reaped { timeline with reapers := [] } flights moment
    timeline.reapers timeline.now (Nat.le_refl _) (Nat.le_max_left _ _) inRange (.inl rfl)
  exact (leads_reapers []).trans looks

theorem land_eq (timeline : Timeline) (flight : Flight) :
    timeline.land flight =
      { timeline with
        now := max timeline.now flight.load.finish
        cache := (timeline.waiting.filter (fun caller => caller.entry == flight.entry)).foldl
          (fun cache caller => cache.leave caller.user caller.entry)
          (timeline.cache.endLoad flight.entry flight.load.result
            (max timeline.now flight.load.finish))
        waiting := timeline.waiting.filter (fun caller => !(caller.entry == flight.entry)) } := by
  rw [land, List.partition_eq_filter_filter]
  rfl

theorem land_max (timeline : Timeline) (flight : Flight) :
    land { timeline with now := max timeline.now flight.load.finish } flight =
      timeline.land flight := by
  simp only [land_eq, Nat.max_assoc, Nat.max_self]

theorem leads_land_of_over (ended : flight.load.finish ≤ timeline.now) :
    Leads { timeline with flights := flight :: flights }
      { timeline.land flight with flights } := by
  intro traffic follows
  obtain ⟨-, number, visit, load, present, own, loads⟩ := follows.flights flight (.head _)
  obtain ⟨entry, entryPresent, -⟩ := follows.sound.visited number visit present
  have ends := Step.endLoad present loads flight.load.result
  have sound := follows.sound.step ends
  have ready := @Traffic.result?_endLoad traffic number load visit flight.load.result entry
    entryPresent
  rw [own] at ready
  obtain ⟨events, patient, leaves⟩ := Traffic.run_served
    (traffic.endLoad number visit load flight.load.result).visits [] ready
    (fun other member same stays => by
      obtain ⟨place, otherPresent⟩ := List.getElem?_of_mem member
      exact sound.waiting_of_ready otherPresent stays (by rw [same]; exact ready))
  have stayed : staying (traffic.endLoad number visit load flight.load.result).visits =
      timeline.waiting := by
    rw [follows.waiting]
    exact Traffic.staying_set present rfl (by simp [Visit.stays, loads])
  have now : max timeline.now flight.load.finish = traffic.now :=
    (Nat.max_eq_left ended).trans follows.now
  have cache : timeline.cache = traffic.cache := follows.cache
  obtain ⟨distinct, once⟩ := List.nodup_cons.1 follows.once
  refine Reached.step ⟨events, _, leaves, patient, ?_⟩ ends nofun
  rw [land_eq]
  exact {
    sound := sound.run leaves
    inRange := follows.inRange
    now := now
    cache := by
      simp only [stayed, now, cache, ← own]
      rfl
    waiting := by
      rw [List.nil_append, Traffic.staying_served, stayed]
    flights := by
      intro other member
      obtain ⟨inRange, before⟩ := follows.flights other (.tail _ member)
      have different : other.entry ≠ flight.entry := fun same =>
        distinct (same ▸ List.mem_map_of_mem member)
      have during : (traffic.endLoad number visit load flight.load.result).Loads other.entry :=
        before.set present (.inr (own ▸ different.symm)) rfl
      exact ⟨inRange, during.served different rfl⟩
    once := once }

theorem leads_land (timeline : Timeline) (flight : Flight) (flights : List Flight) :
    Leads { timeline with flights := flight :: flights }
      { timeline.land flight with flights } := by
  intro traffic follows
  have inRange : max timeline.now flight.load.finish < Moment.limit :=
    Nat.max_lt.2 ⟨follows.now ▸ follows.inRange, (follows.flights flight (.head _)).1⟩
  -- A load that ends later than now is over once the clock has been moved on.
  have ended := @leads_land_of_over { timeline with now := max timeline.now flight.load.finish }
    flight flights (Nat.le_max_right _ _)
  rw [land_max] at ended
  have advances := @leads_advance { timeline with flights := flight :: flights } _
    (Nat.le_max_left _ _) inRange
  exact advances.trans ended traffic follows

theorem leads_landUntil (moment : Moment) (flights : List Flight) (timeline : Timeline) :
    Leads { timeline with flights } (landUntil moment flights timeline) := by
  induction flights generalizing timeline with
  | nil => exact .refl _
  | cons flight flights ih =>
    unfold landUntil
    split
    · intro traffic follows
      have inRange : max timeline.now flight.load.finish < Moment.limit :=
        Nat.max_lt.2 ⟨follows.now ▸ follows.inRange, (follows.flights flight (.head _)).1⟩
      have looks := leads_reapBefore timeline flight.load.finish (flight :: flights) inRange
      have lands := leads_land { timeline.reapBefore flight.load.finish with
        now := max timeline.now flight.load.finish } flight flights
      have same := land_max (timeline.reapBefore flight.load.finish) flight
      rw [reapBefore_now] at same
      rw [same] at lands
      exact (looks.trans lands).trans (ih _) traffic follows
    · exact .refl _

theorem landUntil_now_le (flights : List Flight) (order : timeline.now ≤ moment) :
    (landUntil moment flights timeline).now ≤ moment := by
  induction flights generalizing timeline with
  | nil => exact order
  | cons flight flights ih =>
    unfold landUntil
    split
    · rename_i ends
      apply ih
      rw [land_eq, reapBefore_now]
      exact Nat.max_le.2 ⟨order, ends⟩
    · exact order

theorem leads_waitUntil (order : timeline.now ≤ moment) (inRange : moment < Moment.limit) :
    timeline.Leads (timeline.waitUntil moment) := by
  have now := landUntil_now_le timeline.flights order
  have looks := leads_reapBefore (landUntil moment timeline.flights timeline) moment
    (landUntil moment timeline.flights timeline).flights (by rwa [Nat.max_eq_right now])
  rw [Nat.max_eq_right now] at looks
  refine (leads_landUntil moment timeline.flights timeline).trans ?_
  rw [waitUntil, reapBefore_flights]
  exact looks

theorem leads_waitForAll (timeline : Timeline) : timeline.Leads timeline.waitForAll :=
  leads_landUntil _ timeline.flights timeline

theorem leads_jump {wait : Nat} (inRange : timeline.now + wait < Moment.limit) :
    timeline.Leads (timeline.jump wait) :=
  (leads_advance (Nat.le_add_right _ _) inRange).trans (leads_reapers _)

theorem leads_startReaper (timeline : Timeline) : timeline.Leads timeline.startReaper.2 := by
  unfold startReaper
  split
  · exact .refl timeline
  · exact leads_reapers _

theorem perm_addFlight (flight : Flight) (flights : List Flight) :
    (addFlight flight flights).Perm (flight :: flights) := by
  induction flights with
  | nil => exact .refl _
  | cons other others ih =>
    unfold addFlight
    split
    · exact .refl _
    · exact (ih.cons other).trans (.swap flight other others)

theorem Follows.perm {others : List Flight} (follows : timeline.Follows traffic)
    (perm : others.Perm timeline.flights) :
    Follows { timeline with flights := others } traffic :=
  { follows with
    flights := fun flight member => follows.flights flight (perm.mem_iff.1 member)
    once := (perm.map Flight.entry).nodup_iff.2 follows.once }

theorem Follows.startLoad (follows : timeline.Follows traffic)
    (present : traffic.visit? number = some visit) (waits : visit.stage = .waiting)
    (idle : traffic.cache.isIdle visit.entry = true) (own : visit.entry = flight.entry)
    (inRange : flight.load.finish < Moment.limit) :
    Follows
      { timeline with
        cache := timeline.cache.startLoad flight.entry
        flights := flight :: timeline.flights }
      (traffic.startLoad number visit) := by
  have begun := Step.startLoad present waits idle
  have distinct : ∀ other ∈ timeline.flights, other.entry ≠ visit.entry := by
    intro other member
    obtain ⟨-, place, another, load, otherPresent, otherOwn, loads⟩ := follows.flights other member
    have running := follows.sound.loading place another load otherPresent loads
    rw [← otherOwn]
    exact follows.sound.not_begun idle ⟨running, rfl⟩
  exact { follows with
    sound := follows.sound.step begun
    cache := by
      rw [← own, follows.cache]
      rfl
    waiting := by
      rw [follows.waiting]
      symm
      exact Traffic.staying_set present rfl (by simp [Visit.stays, waits])
    flights := by
      intro other member
      rcases List.mem_cons.1 member with rfl | before
      · exact ⟨inRange, number, _, _, (Traffic.visit?_startLoad present).trans (if_pos rfl), own,
          rfl⟩
      · obtain ⟨bound, loads⟩ := follows.flights other before
        exact ⟨bound, loads.set present (.inl waits) rfl⟩
    once := by
      refine List.nodup_cons.2 ⟨fun member => ?_, follows.once⟩
      obtain ⟨other, before, same⟩ := List.mem_map.1 member
      exact distinct other before (same.trans own.symm) }

theorem Follows.launch (follows : timeline.Follows traffic)
    (present : traffic.visit? number = some visit) (waits : visit.stage = .waiting)
    (idle : traffic.cache.isIdle visit.entry = true) (own : visit.entry = flight.entry)
    (inRange : flight.load.finish < Moment.limit) : (timeline.launch flight).Reached traffic := by
  have begun := follows.startLoad present waits idle own inRange
  refine Reached.step ?_ (Step.startLoad present waits idle) nofun
  unfold Timeline.launch
  dsimp only
  split
  · have lands := leads_land { timeline with cache := timeline.cache.startLoad flight.entry }
      flight timeline.flights _ begun
    rw [land_eq] at lands ⊢
    exact lands
  · exact (begun.perm (perm_addFlight flight timeline.flights)).reached

theorem Follows.look (follows : timeline.Follows traffic) (user : String) :
    Follows
      { timeline with
        cache := (timeline.cache.lookup user timeline.now (fun _ => 0)).2
        waiting := timeline.waiting ++
          [{ user, entry := (timeline.cache.lookup user timeline.now (fun _ => 0)).1 }] }
      (traffic.look user (fun _ => 0)) := by
  have looks : Step traffic (.look user) _ := .look user (fun _ => 0)
  exact { follows with
    sound := follows.sound.step looks
    cache := by
      rw [follows.cache, follows.now]
      rfl
    waiting := by
      rw [follows.waiting, follows.cache, follows.now]
      exact (Traffic.staying_append traffic.visits
        [{ user, entry := _, since := traffic.now }]).symm
    flights := by
      intro flight member
      obtain ⟨bound, place, visit, load, present, loads⟩ := follows.flights flight member
      exact ⟨bound, place, visit, load, Traffic.visit?_look.2 (.inl present), loads⟩ }

theorem Follows.leave {visits : List Visit} {waiting : List Caller}
    {result : Except JmapError Session}
    (follows : Follows { timeline with waiting := waiting ++ [visit.toCaller] } traffic)
    (came : traffic.visits = visits ++ [visit]) (waits : visit.stage = .waiting)
    (ready : traffic.cache.result? visit.entry = some result) :
    Reached { timeline with cache := timeline.cache.leave visit.user visit.entry, waiting }
      traffic := by
  have present : traffic.visit? visits.length = some visit := by simp [Traffic.visit?, came]
  have leaves := Step.leave present waits ready
  have before : waiting = staying visits := by
    have all := follows.waiting
    rw [came, Traffic.staying_append,
      Traffic.staying_cons_of_stays (by simp [Visit.stays, waits])] at all
    exact List.append_cancel_right all
  refine Reached.step (Follows.reached ?_) leaves (fun _ drops => by cases drops)
  exact { follows with
    sound := follows.sound.step leaves
    cache := congrArg (·.leave visit.user visit.entry) follows.cache
    waiting := by
      have gone : (traffic.leave visits.length visit result).visits =
          visits ++ [{ visit with stage := .gone result }] := by simp [Traffic.leave, came]
      rw [gone, Traffic.staying_append, Traffic.staying_cons_of_not_stays rfl]
      exact before.trans (List.append_nil _).symm
    flights := by
      intro flight member
      obtain ⟨bound, loads⟩ := follows.flights flight member
      exact ⟨bound, loads.set present (.inl waits) rfl⟩ }

section Arrivals

variable {World : Type} {load : String → Moment → World → Load × World}

theorem leads_arrive (ends : ∀ user now world, (load user now world).1.finish < Moment.limit)
    (timeline : Timeline) (user : String) (world : World) :
    timeline.Leads (timeline.arrive load user world).2.1 := by
  intro traffic follows
  have looks : Step traffic (.look user) _ := .look user (fun _ => 0)
  have looked := follows.look user
  have present : (traffic.look user (fun _ => 0)).visit? traffic.visits.length =
      some { user, entry := traffic.found user, since := traffic.now } :=
    Traffic.visit?_look.2 (.inr ⟨rfl, rfl⟩)
  have found : (timeline.cache.lookup user timeline.now (fun _ => 0)).1 = traffic.found user := by
    rw [follows.cache, follows.now]
    exact Traffic.lookup_found
  have cache : (timeline.cache.lookup user timeline.now (fun _ => 0)).2 =
      (traffic.look user (fun _ => 0)).cache := looked.cache
  refine Reached.step ?_ looks nofun
  unfold arrive
  dsimp only
  split
  · rename_i idle
    refine looked.launch present rfl ?_ found.symm (ends user timeline.now world)
    rw [← found, ← cache]
    exact idle
  · split
    · rename_i result ready
      rw [cache] at ready
      have came : (traffic.look user (fun _ => 0)).visits = traffic.visits ++
          [{ user, entry := (timeline.cache.lookup user timeline.now (fun _ => 0)).1,
             since := traffic.now }] := by
        rw [follows.cache, follows.now]
        rfl
      exact @Follows.leave
        { timeline with cache := (timeline.cache.lookup user timeline.now (fun _ => 0)).2 }
        _ _ _ timeline.waiting _ looked came rfl ready
    · exact looked.reached

theorem leads_arriveAll (ends : ∀ user now world, (load user now world).1.finish < Moment.limit)
    (users : List String) (timeline : Timeline) (world : World) :
    timeline.Leads (timeline.arriveAll load users world).2.1 := by
  induction users generalizing timeline world with
  | nil => exact .refl timeline
  | cons user users ih => exact (leads_arrive ends timeline user world).trans (ih _ _)

theorem leads_sessionFor (ends : ∀ user now world, (load user now world).1.finish < Moment.limit)
    (resolve : RequestContext → World → Except JmapError String × World)
    (context : RequestContext) (timeline : Timeline) (world : World) :
    timeline.Leads (timeline.sessionFor load resolve context world).2.1 := by
  unfold sessionFor
  split
  · exact .refl timeline
  · exact leads_arrive ends timeline _ _

end Arrivals

def start (config : CacheConfig) (began : Fin Moment.limit) : Timeline :=
  { now := began.val, cache := { config } }

inductive Played {World : Type} (load : String → Moment → World → Load × World)
    (first : Timeline) : Timeline → Prop
  | start : Played load first first
  | arrive {timeline : Timeline} (played : Played load first timeline) (user : String)
      (world : World) : Played load first (timeline.arrive load user world).2.1
  | arriveAll {timeline : Timeline} (played : Played load first timeline) (users : List String)
      (world : World) : Played load first (timeline.arriveAll load users world).2.1
  | sessionFor {timeline : Timeline} (played : Played load first timeline)
      (resolve : RequestContext → World → Except JmapError String × World)
      (context : RequestContext) (world : World) :
      Played load first (timeline.sessionFor load resolve context world).2.1
  | invalidate {timeline : Timeline} (played : Played load first timeline) (user : String) :
      Played load first (timeline.invalidate user).2
  | onOutdated {timeline : Timeline} (played : Played load first timeline)
      (event : SessionOutdated) : Played load first (timeline.onOutdated event)
  | reap {timeline : Timeline} (played : Played load first timeline) :
      Played load first timeline.reap.2
  | startReaper {timeline : Timeline} (played : Played load first timeline) :
      Played load first timeline.startReaper.2
  | waitUntil {timeline : Timeline} (played : Played load first timeline) {moment : Moment}
      (order : timeline.now ≤ moment) (inRange : moment < Moment.limit) :
      Played load first (timeline.waitUntil moment)
  | waitForAll {timeline : Timeline} (played : Played load first timeline) :
      Played load first timeline.waitForAll
  | jump {timeline : Timeline} (played : Played load first timeline) {wait : Nat}
      (inRange : timeline.now + wait < Moment.limit) : Played load first (timeline.jump wait)

variable {World : Type} {load : String → Moment → World → Load × World}

theorem Played.leads (ends : ∀ user now world, (load user now world).1.finish < Moment.limit)
    (played : Played load before after) : before.Leads after := by
  induction played with
  | start => exact .refl before
  | arrive _ user world ih => exact ih.trans (leads_arrive ends _ user world)
  | arriveAll _ users world ih => exact ih.trans (leads_arriveAll ends users _ world)
  | sessionFor _ resolve context world ih =>
    exact ih.trans (leads_sessionFor ends resolve context _ world)
  | invalidate _ user ih => exact ih.trans (leads_invalidate _ user)
  | onOutdated _ event ih => exact ih.trans (leads_onOutdated _ event)
  | reap _ ih => exact ih.trans (leads_reap _)
  | startReaper _ ih => exact ih.trans (leads_startReaper _)
  | waitUntil _ order inRange ih => exact ih.trans (leads_waitUntil order inRange)
  | waitForAll _ ih => exact ih.trans (leads_waitForAll _)
  | jump _ inRange ih => exact ih.trans (leads_jump inRange)

theorem start_follows (config : CacheConfig) (began : Fin Moment.limit) :
    (start config began).Follows (Traffic.start config began) where
  sound := Traffic.start_sound config began
  inRange := began.isLt
  now := rfl
  cache := rfl
  waiting := rfl
  flights _ member := by cases member
  once := List.nodup_nil

/-- Whatever is done to a cache in the course of time is a run of its traffic in which nobody
is dropped. What holds after every run holds of the cache at every moment. -/
theorem Played.exists_run {config : CacheConfig} {began : Fin Moment.limit}
    (ends : ∀ user now world, (load user now world).1.finish < Moment.limit)
    (played : Played load (Timeline.start config began) timeline) :
    ∃ events traffic, Run (.start config began) events traffic ∧ Patient events ∧
      timeline.Follows traffic :=
  played.leads ends _ (start_follows config began)

end Timeline

end Jmap
