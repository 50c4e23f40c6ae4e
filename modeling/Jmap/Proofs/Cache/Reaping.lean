import Jmap.Proofs.Cache.Freshness
import Jmap.Proofs.Dict

/-!
What is reaped: the entries in use whose time is over, and no other. Nobody can tell from what
comes of a look-up whether they have been reaped before it.
-/

namespace Jmap

namespace SessionCache

variable {cache : SessionCache} {user : String} {number : Nat} {now : Moment}

theorem stale_nodup (cache : SessionCache) (now : Moment) : (cache.stale now).Nodup :=
  cache.current.sorted.nodup_keys.sublist (List.filter_sublist.map _)

theorem find?_of_mem_stale (member : user ∈ cache.stale now) :
    ∃ number, cache.current.find? user = some number := by
  obtain ⟨⟨name, number⟩, listed, rfl⟩ := List.mem_map.1 member
  exact ⟨number, Dict.find?_eq_some_iff.2 (List.mem_filter.1 listed).1⟩

theorem reap_eq (cache : SessionCache) (now : Moment) :
    cache.reap now = ((cache.stale now).length,
      { cache with
        current :=
          (cache.stale now).foldl (fun current user => current.erase user) cache.current }) :=
  rfl

theorem size_reap (cache : SessionCache) (now : Moment) :
    (cache.reap now).2.size + (cache.reap now).1 = cache.size := by
  rw [reap_eq]
  exact Dict.size_foldl_erase cache.current (stale_nodup cache now)
    (fun user member => find?_of_mem_stale member)

theorem usable?_reap : (cache.reap now).2.usable? user now = cache.usable? user now := by
  rw [usable?, find?_reap]
  cases usable : cache.usable? user now with
  | none => rfl
  | some number =>
    have lasts : (cache.reap now).2.isOver now number = false := (usable?_eq_some_iff.1 usable).2
    rw [Option.filter_some, lasts]
    rfl

theorem stale_reap (cache : SessionCache) (now : Moment) : (cache.reap now).2.stale now = [] := by
  apply List.eq_nil_iff_forall_not_mem.2
  intro user member
  obtain ⟨number, found⟩ := find?_of_mem_stale member
  have expired : cache.isOver now number = true := (mem_stale_iff found).1 member
  rw [find?_reap] at found
  rw [(usable?_eq_some_iff.1 found).2] at expired
  cases expired

theorem reap_reap (cache : SessionCache) (now : Moment) :
    (cache.reap now).2.reap now = (0, (cache.reap now).2) := by
  rw [reap_eq (cache.reap now).2, stale_reap]
  rfl

def withUsed (cache : SessionCache) (current : Dict Nat) : SessionCache := { cache with current }

theorem eq_withUsed {other : SessionCache} (config : other.config = cache.config)
    (made : other.made = cache.made) : other = cache.withUsed other.current := by
  cases other
  cases config
  cases made
  rfl

theorem leave_withUsed (cache : SessionCache) (current : Dict Nat) (user : String)
    (number : Nat) :
    ∃ rest, (cache.withUsed current).leave user number =
      (cache.leave user number).withUsed rest := by
  refine ⟨_, eq_withUsed ?_ ?_⟩
  · rw [leave_config, leave_config]
    rfl
  · rw [leave_made, leave_made]
    rfl

/-- A look-up finds the same entry, or makes the same one, whether the cache has been reaped or
not. -/
theorem lookup_reap (cache : SessionCache) (user : String) (now : Moment)
    (rank reapedRank : String → Nat) :
    ∃ current, (cache.reap now).2.lookup user now reapedRank =
        ((cache.lookup user now rank).1, (cache.lookup user now rank).2.withUsed current) ∧
      current.find? user = some (cache.lookup user now rank).1 := by
  have same : ((cache.reap now).2.lookup user now reapedRank).1 =
        (cache.lookup user now rank).1 ∧
      ((cache.reap now).2.lookup user now reapedRank).2.made =
        (cache.lookup user now rank).2.made := by
    cases usable : cache.usable? user now with
    | some number =>
      rw [lookup_of_usable usable, lookup_of_usable (usable?_reap.trans usable)]
      exact ⟨rfl, rfl⟩
    | none =>
      rw [lookup_of_not_usable usable, lookup_of_not_usable (usable?_reap.trans usable)]
      exact ⟨rfl, by simp [add]⟩
  obtain ⟨found, made⟩ := same
  refine ⟨((cache.reap now).2.lookup user now reapedRank).2.current,
    Prod.ext found (eq_withUsed ?_ made), ?_⟩
  · rw [lookup_config, lookup_config]
    rfl
  · rw [find?_lookup_self, found]

end SessionCache

def CacheEntry.RunOut (entry : CacheEntry) (config : CacheConfig) (now : Moment) : Prop :=
  ∃ loaded, entry.stage = .loaded loaded ∧ ¬FreshAt config loaded now

namespace Traffic

variable {traffic next last : Traffic} {event : CacheEvent} {events : List CacheEvent}
  {number load : Nat} {user : String} {rank reapedRank : String → Nat} {visit : Visit}
  {entry : CacheEntry} {use : LoaderUse} {loaded : Loaded}

def reaped (traffic : Traffic) : Traffic :=
  { traffic with cache := (traffic.cache.reap traffic.now).2 }

theorem isOver_iff_runOut (timely : Timely traffic)
    (present : traffic.cache.numbered? number = some entry) :
    traffic.cache.isOver traffic.now number = true ↔
      entry.RunOut traffic.cache.config traffic.now := by
  rw [SessionCache.isOver_eq_true_iff]
  constructor
  · rintro ⟨other, otherPresent, expired⟩
    cases present.symm.trans otherPresent
    obtain ⟨loaded, expiry, ended, ends, past⟩ := SessionCache.isExpired_eq_true_iff.1 expired
    refine ⟨loaded, ended, fun fresh => ?_⟩
    exact absurd ((freshAt_iff.1 fresh).2 expiry ends) (Nat.not_lt.2 past)
  · rintro ⟨loaded, ended, stale⟩
    refine Classical.byContradiction (fun lasts => stale (freshAt_iff.2 ⟨?_, ?_⟩))
    · exact timely.past number entry loaded present ended
    · intro expiry ends
      apply Nat.lt_of_not_le
      intro past
      exact lasts ⟨entry, present,
        SessionCache.isExpired_eq_true_iff.2 ⟨loaded, expiry, ended, ends, past⟩⟩

theorem Sound.reaped (sound : Sound traffic) : Sound traffic.reaped := sound.step .reap

theorem Sound.find?_reaped (sound : Sound traffic) (timely : Timely traffic)
    (found : traffic.cache.current.find? user = some number) :
    ∃ entry, traffic.cache.numbered? number = some entry ∧
      (entry.RunOut traffic.cache.config traffic.now →
        traffic.reaped.cache.current.find? user = none) ∧
      (¬entry.RunOut traffic.cache.config traffic.now →
        traffic.reaped.cache.current.find? user = some number ∧
          traffic.reaped.cache.numbered? number = some entry) := by
  obtain ⟨entry, present, -⟩ := sound.inUse user number found
  have kept : traffic.reaped.cache.current.find? user =
      if traffic.cache.isOver traffic.now number then none else some number := by
    rw [Traffic.reaped, SessionCache.find?_reap, SessionCache.usable?, found]
    cases expired : traffic.cache.isOver traffic.now number <;> simp [Option.filter, expired]
  refine ⟨entry, present, fun runOut => ?_, fun lasts => ⟨?_, present⟩⟩
  · rw [kept, if_pos ((isOver_iff_runOut timely present).2 runOut)]
  · rw [kept, if_neg (mt (isOver_iff_runOut timely present).1 lasts)]

/-! What goes on without another look-up goes on whichever entries are in use. -/

def withUsed (traffic : Traffic) (current : Dict Nat) : Traffic :=
  { traffic with cache := traffic.cache.withUsed current }

theorem Step.withUsed (step : Step traffic event next) (inside : ∀ user, event ≠ .look user)
    (current : Dict Nat) :
    ∃ rest, Step (traffic.withUsed current) event (next.withUsed rest) := by
  -- No other step depends on the entries in use, though a leaving caller may drop one of them.
  cases step with
  | look user rank => exact absurd rfl (inside user)
  | startLoad present waits idle => exact ⟨current, .startLoad present waits idle⟩
  | @endLoad number load visit present loads result =>
    exact ⟨current, @Step.endLoad (traffic.withUsed current) number load visit present loads result⟩
  | @leave number visit result present waits loaded =>
    obtain ⟨rest, same⟩ := traffic.cache.leave_withUsed current visit.user visit.entry
    have left : Step (traffic.withUsed current) (.leave number)
        ((traffic.withUsed current).leave number visit result) :=
      .leave present waits loaded
    refine ⟨rest, ?_⟩
    rwa [show (traffic.withUsed current).leave number visit result =
      (traffic.leave number visit result).withUsed rest from
        congrArg (fun cache => { traffic.leave number visit result with cache }) same] at left
  | drop present waits => exact ⟨current, .drop present waits⟩
  | @abandonLoad number load visit present loads =>
    exact ⟨current, @Step.abandonLoad (traffic.withUsed current) number load visit present loads⟩
  | invalidate user => exact ⟨current.erase user, .invalidate user⟩
  | outdated event => exact ⟨current.erase event.username, .outdated event⟩
  | reap => exact ⟨_, .reap⟩
  | advance wait inRange => exact ⟨current, .advance wait inRange⟩

theorem Run.withUsed (run : Run traffic events last)
    (inside : ∀ event ∈ events, ∀ user, event ≠ .look user) (current : Dict Nat) :
    ∃ rest, Run (traffic.withUsed current) events (last.withUsed rest) := by
  induction run generalizing current with
  | nil traffic => exact ⟨current, .nil _⟩
  | cons _ step _ ih =>
    obtain ⟨own, others⟩ := List.forall_mem_cons.1 inside
    obtain ⟨middle, first⟩ := step.withUsed own current
    obtain ⟨rest, run⟩ := ih others middle
    exact ⟨rest, .cons trivial first run⟩

theorem look_reaped (traffic : Traffic) (user : String) (rank reapedRank : String → Nat) :
    ∃ current, traffic.reaped.look user reapedRank =
        (traffic.look user rank).withUsed current ∧
      current.find? user = some (traffic.found user) := by
  obtain ⟨current, same, found⟩ :=
    traffic.cache.lookup_reap user traffic.now rank reapedRank
  rw [lookup_found] at found
  refine ⟨current, ?_, found⟩
  simp only [Traffic.look, Traffic.reaped, same]
  rfl

theorem found_reaped : traffic.reaped.found user = traffic.found user := by
  have usable : traffic.reaped.cache.usable? user traffic.reaped.now =
      traffic.cache.usable? user traffic.now := SessionCache.usable?_reap
  rw [found, usable, found]
  rfl

def Begins (traffic : Traffic) (user : String) : Prop :=
  ∃ rank next, Step (traffic.look user rank) (.startLoad traffic.visits.length) next

theorem begins_of_idle
    (idle : (traffic.look user rank).cache.isIdle (traffic.found user) = true) :
    traffic.Begins user :=
  ⟨rank, _, .startLoad (visit?_look.2 (.inr ⟨rfl, rfl⟩)) rfl idle⟩

theorem begins_of_not_usable (unusable : traffic.cache.usable? user traffic.now = none) :
    traffic.Begins user := by
  apply @begins_of_idle traffic user (fun _ => 0)
  rw [Traffic.look, found_of_not_usable unusable, SessionCache.lookup_of_not_usable unusable]
  simp [SessionCache.isIdle, SessionCache.numbered?, SessionCache.add]

theorem begins_reaped_iff : traffic.reaped.Begins user ↔ traffic.Begins user := by
  constructor
  · rintro ⟨rank, next, step⟩
    obtain ⟨current, same, -⟩ := look_reaped traffic user rank rank
    rw [same] at step
    obtain ⟨rest, step⟩ := step.withUsed nofun (traffic.look user rank).cache.current
    exact ⟨rank, next.withUsed rest, step⟩
  · rintro ⟨rank, next, step⟩
    obtain ⟨current, same, -⟩ := look_reaped traffic user rank rank
    obtain ⟨rest, step⟩ := step.withUsed nofun current
    rw [← same] at step
    exact ⟨rank, next.withUsed rest, step⟩

theorem exists_run_reaped_iff (inside : ∀ event ∈ events, ∀ user, event ≠ .look user) :
    (∃ current, Run (traffic.look user rank) events (last.withUsed current)) ↔
      ∃ current, Run (traffic.reaped.look user reapedRank) events (last.withUsed current) := by
  obtain ⟨current, same, -⟩ := look_reaped traffic user rank reapedRank
  rw [same]
  constructor
  · rintro ⟨rest, run⟩
    exact run.withUsed inside current
  · rintro ⟨rest, run⟩
    exact run.withUsed inside (traffic.look user rank).cache.current

/-- A caller begins no load. It leaves with nothing but what a given load ends with, and can leave
once the load has ended. -/
structure Joins (traffic : Traffic) (number load : Nat) : Prop where
  begins : ∀ use ∈ traffic.loads, use.visit ≠ number
  result : ∀ visit result, traffic.visit? number = some visit → visit.stage = .gone result →
    ∃ moment, traffic.LeftWith number load { result, moment }
  leaves : ∀ use loaded, traffic.load? load = some use → use.ended = some loaded →
    ∃ visit, traffic.visit? number = some visit ∧
      (visit.stage = .gone loaded.result ∨
        Step traffic (.leave number) (traffic.leave number visit loaded.result))

theorem Sound.exists_load (sound : Sound traffic) (joins : ¬traffic.Begins user) :
    ∃ load use, traffic.Kept load use ∧ use.entry = traffic.found user := by
  obtain ⟨entry, present, -⟩ := sound.lookup_user user (fun _ => 0)
  have begun : entry.stage ≠ .idle := by
    intro idle
    apply joins
    exact begins_of_idle (SessionCache.isIdle_eq_true_iff.2 ⟨entry, present, idle⟩)
  exact (sound.look user (fun _ => 0)).begun _ entry present begun

theorem Kept.run (kept : traffic.Kept load use) (run : Run traffic events last)
    (patient : Patient events) : ∃ ended, last.Kept load { use with ended } := by
  obtain ⟨ended, dropped, present⟩ := run.keeps_load kept.1
  cases dropped with
  | false => exact ⟨ended, by rw [← kept.2] at present; exact present, kept.2⟩
  | true =>
    obtain ⟨before, beforePresent, already⟩ := run.load_dropped_of_patient patient present rfl
    cases kept.1.symm.trans beforePresent
    cases kept.2.symm.trans already

theorem Sound.joins (sound : Sound traffic) (kept : traffic.Kept load use)
    (same : use.entry = traffic.found user) (run : Run (traffic.look user rank) events last)
    (patient : Patient events) : last.Joins traffic.visits.length load := by
  have lastSound := (sound.look user rank).run run
  obtain ⟨ended, lastKept⟩ :=
    Kept.run (show (traffic.look user rank).Kept load use from kept) run patient
  obtain ⟨own, ownPresent, -, ownEntry⟩ := run.visit_of_look
  have only {place : Nat} {other : LoaderUse} (otherKept : last.Kept place other)
      (entry : other.entry = own.entry) : place = load :=
    lastSound.once place load other _ otherKept lastKept
      (entry.trans (ownEntry.trans same.symm))
  constructor
  · -- The only load of the entry has been begun by an earlier visit.
    intro other member loads
    obtain ⟨place, otherPresent⟩ := List.mem_iff_getElem?.1 member
    obtain ⟨visit, visitPresent, entry, -⟩ := lastSound.loader place other otherPresent
    rw [loads] at visitPresent
    cases ownPresent.symm.trans visitPresent
    by_cases old : place < traffic.loads.length
    · have begun : traffic.load? place = some traffic.loads[place] :=
        List.getElem?_eq_getElem old
      obtain ⟨_, _, after⟩ :=
        run.keeps_load (show (traffic.look user rank).load? place = _ from begun)
      cases otherPresent.symm.trans after
      obtain ⟨first, firstPresent, -⟩ := sound.loader place _ begun
      exact absurd loads (Nat.ne_of_lt (List.getElem?_eq_some_iff.1 firstPresent).1)
    · have present (place : Nat) (use : LoaderUse) (present : traffic.load? place = some use) :
          place < traffic.loads.length := (List.getElem?_eq_some_iff.1 present).1
      have otherKept : other.dropped = false := by
        refine Bool.eq_false_iff.2 (fun abandoned => old ?_)
        obtain ⟨before, begun, -⟩ := run.load_dropped_of_patient patient otherPresent abandoned
        exact present place before begun
      obtain rfl : place = load := only ⟨otherPresent, otherKept⟩ entry.symm
      exact old (present place use kept.1)
  · intro visit result visitPresent left
    cases ownPresent.symm.trans visitPresent
    obtain ⟨place, moment, leftWith⟩ := lastSound.exists_leftWith visitPresent left
    have whose : place = load := by
      obtain ⟨again, other, againPresent, -, otherPresent, entry, -, otherEnded⟩ := leftWith
      cases visitPresent.symm.trans againPresent
      exact only (lastSound.kept_of_ended otherPresent otherEnded) entry
    exact ⟨moment, whose ▸ leftWith⟩
  · intro other loaded otherPresent ended
    cases lastKept.1.symm.trans otherPresent
    obtain ⟨entry, entryPresent, stage⟩ := lastSound.outcome load _ lastKept
    rw [ended] at stage
    refine ⟨own, ownPresent, lastSound.leaves_of_loaded ownPresent ?_ stage
      (run.not_dropped ownPresent (patient _))⟩
    rw [ownEntry, ← same]
    exact entryPresent

theorem Sound.keeps_ended_step (sound : Sound traffic) (present : traffic.load? load = some use)
    (ended : use.ended = some loaded) (step : Step traffic event next) :
    next.load? load = some use := by
  cases step with
  | startLoad starter waits idle => exact load?_startLoad.2 (.inl present)
  | endLoad ender loads result =>
    rw [load?_endLoad, if_neg]
    · exact present
    · rintro rfl
      cases present.symm.trans (sound.loading _ _ _ ender loads)
      cases ended
  | abandonLoad drops loads =>
    rw [load?_abandonLoad, if_neg]
    · exact present
    · rintro rfl
      cases present.symm.trans (sound.loading _ _ _ drops loads)
      cases ended
  | look user rank => exact present
  | leave leaver waits loaded => exact present
  | drop drops waits => exact present
  | invalidate user => exact present
  | outdated event => exact present
  | reap => exact present
  | advance wait inRange => exact present

theorem Sound.keeps_ended (sound : Sound traffic) (present : traffic.load? load = some use)
    (ended : use.ended = some loaded) (run : Run traffic events last) :
    last.load? load = some use := by
  induction run with
  | nil traffic => exact present
  | cons _ step _ ih => exact ih (sound.step step) (sound.keeps_ended_step present ended step)

/-- Those entries are reaped, and counted, whose load has ended and whose time is over. All others
stay in use as they are, and another reaping finds nothing more. A caller that looks in right
afterwards finds what it would have found without it. It may begin a load in both cases or in
neither; in the latter it joins the same load, unless callers are dropped. Until somebody else
looks in, the two courses differ in the entries in use only. -/
theorem exact_reaping {config : CacheConfig} {began : Fin Moment.limit} {before : List CacheEvent}
    (run : Run (start config began) before traffic) :
    (∀ user number, traffic.cache.current.find? user = some number →
      ∃ entry, traffic.cache.numbered? number = some entry ∧
        (entry.RunOut config traffic.now → traffic.reaped.cache.current.find? user = none) ∧
        (¬entry.RunOut config traffic.now →
          traffic.reaped.cache.current.find? user = some number ∧
            traffic.reaped.cache.numbered? number = some entry)) ∧
    (∀ user, traffic.cache.current.find? user = none →
      traffic.reaped.cache.current.find? user = none) ∧
    traffic.reaped.cache.size + (traffic.cache.reap traffic.now).1 = traffic.cache.size ∧
    traffic.reaped.cache.reap traffic.now = (0, traffic.reaped.cache) ∧
    ∀ user,
      (∀ rank reapedRank, ∃ current,
        traffic.reaped.look user reapedRank = (traffic.look user rank).withUsed current ∧
        current.find? user = some (traffic.found user)) ∧
      (traffic.reaped.Begins user ↔ traffic.Begins user) ∧
      (¬traffic.Begins user → ∃ load use,
        traffic.load? load = some use ∧ use.entry = traffic.found user ∧
        ∀ rank after last,
          Run (traffic.look user rank) after last ∨
            Run (traffic.reaped.look user rank) after last →
          (Patient after → last.Joins traffic.visits.length load) ∧
          (use.ended ≠ none → last.load? load = some use)) ∧
      ∀ rank reapedRank after (last : Traffic), (∀ event ∈ after, ∀ name, event ≠ .look name) →
        ((∃ current, Run (traffic.look user rank) after (last.withUsed current)) ↔
          ∃ current, Run (traffic.reaped.look user reapedRank) after (last.withUsed current)) := by
  have sound := (start_sound config began).run run
  have timely := (start_timely config began).run run
  have same : traffic.cache.config = config := run.config
  refine ⟨fun user number found => same ▸ sound.find?_reaped timely found, fun user absent => ?_,
    SessionCache.size_reap _ _, SessionCache.reap_reap _ _, fun user =>
    ⟨look_reaped traffic user, begins_reaped_iff, fun joins => ?_,
      fun rank reapedRank after last inside => exists_run_reaped_iff inside⟩⟩
  · rw [Traffic.reaped, SessionCache.find?_reap, SessionCache.usable?, absent]
    rfl
  · obtain ⟨load, use, kept, entry⟩ := sound.exists_load joins
    refine ⟨load, use, kept.1, entry, fun rank after last either => ?_⟩
    rcases either with rest | rest
    · refine ⟨sound.joins kept entry rest, fun finished => ?_⟩
      obtain ⟨loaded, ended⟩ := Option.ne_none_iff_exists'.1 finished
      exact (sound.look user rank).keeps_ended kept.1 ended rest
    · refine ⟨sound.reaped.joins kept (entry.trans found_reaped.symm) rest, fun finished => ?_⟩
      obtain ⟨loaded, ended⟩ := Option.ne_none_iff_exists'.1 finished
      exact (sound.reaped.look user rank).keeps_ended kept.1 ended rest

/-- One session is over, another has a millisecond left, a third is being loaded. Only the first is
reaped. -/
theorem exact_reaping_at_expiry :
    ∃ traffic : Traffic,
      Run (start { ttl := 1 } ⟨0, by decide⟩)
        [.look "ann", .startLoad 0, .endLoad 0 (.ok default), .advance 1, .look "bob",
          .startLoad 1, .endLoad 1 (.ok default), .look "carl", .startLoad 2, .advance 999]
        traffic ∧
      traffic.reaped.cache.current.find? "ann" = none ∧
      traffic.reaped.cache.current.find? "bob" = some 1 ∧
      traffic.reaped.cache.current.find? "carl" = some 2 ∧
      traffic.reaped.cache.size + (traffic.cache.reap traffic.now).1 = 3 ∧
      traffic.reaped.Begins "ann" ∧
      ∃ load, ∀ rank after last, Run (traffic.reaped.look "carl" rank) after last →
        Patient after → last.Joins 3 load := by
  let result : Except JmapError Session := .ok default
  let ann : Visit := { user := "ann", entry := 0, since := 0 }
  let bob : Visit := { user := "bob", entry := 1, since := 1 }
  let carl : Visit := { user := "carl", entry := 2, since := 1, stage := .loading 2 }
  let cache : SessionCache :=
    { config := { ttl := 1 }
      made := [⟨"ann", 0, .loaded ⟨result, 0⟩⟩, ⟨"bob", 1, .loaded ⟨result, 1⟩⟩,
        ⟨"carl", 1, .loading⟩]
      current := .ofList [("ann", 0), ("bob", 1), ("carl", 2)] }
  let traffic : Traffic :=
    { now := 1000, cache, visits := [ann, bob, carl]
      loads := [⟨0, "ann", 0, some ⟨result, 0⟩, false⟩, ⟨1, "bob", 1, some ⟨result, 1⟩, false⟩,
        ⟨2, "carl", 2, none, false⟩] }
  let rank : String → Nat := fun _ => 0
  have run : Run (start { ttl := 1 } ⟨0, by decide⟩)
      [.look "ann", .startLoad 0, .endLoad 0 result, .advance 1, .look "bob", .startLoad 1,
        .endLoad 1 result, .look "carl", .startLoad 2, .advance 999] traffic :=
    .cons trivial (.look "ann" rank) (.cons trivial (.startLoad rfl rfl rfl)
      (.cons trivial (.endLoad rfl rfl _) (.cons trivial (.advance 1 (by decide))
        (.cons trivial (.look "bob" rank) (.cons trivial (.startLoad rfl rfl rfl)
          (.cons trivial (.endLoad rfl rfl _) (.cons trivial (.look "carl" rank)
            (.cons trivial (.startLoad rfl rfl rfl) (.cons trivial (.advance 999 (by decide))
              (.nil _))))))))))
  have ends : Moment.after? 0 (({ ttl := 1 } : CacheConfig).ttl.toNat * 1000) = some 1000 := by
    decide
  have later : Moment.after? 1 (({ ttl := 1 } : CacheConfig).ttl.toNat * 1000) = some 1001 := by
    decide
  obtain ⟨fates, -, counted, -, looks⟩ := exact_reaping run
  obtain ⟨entry, present, goes, -⟩ := fates "ann" 0 rfl
  obtain ⟨fresh, freshPresent, -, stays⟩ := fates "bob" 1 rfl
  obtain ⟨loading, loadingPresent, -, waits⟩ := fates "carl" 2 rfl
  cases present
  cases freshPresent
  cases loadingPresent
  have joins : ¬traffic.Begins "carl" := by
    have serves : traffic.Serves "carl" 2 := by
      refine ⟨rfl, fun entry loaded present ended => ?_⟩
      cases present
      cases ended
    rintro ⟨rank, next, step⟩
    rw [look_of_usable (serves_iff.1 serves)] at step
    cases step with
    | startLoad present waits idle =>
      cases present
      cases idle
  obtain ⟨load, use, -, -, joined⟩ := (looks "carl").2.2.1 joins
  refine ⟨traffic, run, goes ⟨⟨result, 0⟩, rfl, fun fresh => ?_⟩, (stays ?_).1, (waits ?_).1,
    counted, (looks "ann").2.1.2 (begins_of_not_usable (by decide)), load,
    fun rank after last rest => (joined rank after last (.inr rest)).1⟩
  · exact Nat.lt_irrefl 1000 (fresh.session default 1000 rfl ends)
  · rintro ⟨loaded, ended, stale⟩
    cases ended
    refine stale ((@freshAt_iff traffic.cache _ _).2 ⟨by decide, fun expiry same => ?_⟩)
    cases later.symm.trans same
    decide
  · rintro ⟨loaded, ended, -⟩
    cases ended

end Traffic

end Jmap
