import Jmap.Proofs.Cache.Course

/-!
How old a result may be that a caller leaves with. Its time is counted from the end of
its load, and nothing but a load sets that moment.
-/

namespace Jmap

/-- A result is there at a moment, and its time is not over: sessions and failures have
times of their own, and a time that ends beyond the range of the clock is never over. -/
structure FreshAt (config : CacheConfig) (loaded : Loaded) (moment : Moment) : Prop where
  past : loaded.moment ≤ moment
  session : ∀ session expiry, loaded.result = .ok session →
    Moment.after? loaded.moment (config.ttl.toNat * 1000) = some expiry → moment < expiry
  failure : ∀ error expiry, loaded.result = .error error →
    Moment.after? loaded.moment (config.failureTtl.toNat * 1000) = some expiry → moment < expiry

theorem freshAt_iff {cache : SessionCache} {loaded : Loaded} {moment : Moment} :
    FreshAt cache.config loaded moment ↔
      loaded.moment ≤ moment ∧
        ∀ expiry, Moment.after? loaded.moment (cache.lifetime loaded.result) = some expiry →
          moment < expiry := by
  obtain ⟨result, ended⟩ := loaded
  constructor
  · intro fresh
    refine ⟨fresh.past, fun expiry ends => ?_⟩
    cases result with
    | ok session => exact fresh.session session expiry rfl ends
    | error error => exact fresh.failure error expiry rfl ends
  · rintro ⟨past, lasts⟩
    refine ⟨past, ?_, ?_⟩
    · rintro session expiry rfl ends
      exact lasts expiry ends
    · rintro error expiry rfl ends
      exact lasts expiry ends

namespace Traffic

variable {traffic next last : Traffic} {event : CacheEvent} {events : List CacheEvent}
  {number load place : Nat} {user : String} {rank : String → Nat} {visit : Visit}
  {entry : CacheEntry}
  {loaded : Loaded} {since : Moment}

theorem Serves.freshAt (serves : traffic.Serves user number) (timely : Timely traffic)
    (present : traffic.cache.numbered? number = some entry)
    (ended : entry.stage = .loaded loaded) :
    FreshAt traffic.cache.config loaded traffic.now :=
  freshAt_iff.2 ⟨timely.past number entry loaded present ended,
    serves.2 entry loaded present ended⟩

theorem serves_of_freshAt (found : traffic.cache.current.find? user = some number)
    (present : traffic.cache.numbered? number = some entry)
    (ended : entry.stage = .loaded loaded)
    (fresh : FreshAt traffic.cache.config loaded traffic.now) : traffic.Serves user number := by
  refine ⟨found, fun other otherLoaded otherPresent otherEnded => ?_⟩
  cases present.symm.trans otherPresent
  cases ended.symm.trans otherEnded
  exact (freshAt_iff.1 fresh).2

structure Awaited (traffic : Traffic) (number : Nat) (since : Moment) : Prop where
  clock : since ≤ traffic.now
  later : ∀ entry loaded, traffic.cache.numbered? number = some entry →
    entry.stage = .loaded loaded → since ≤ loaded.moment

theorem Awaited.step (awaited : traffic.Awaited place since) (step : Step traffic event next) :
    next.Awaited place since := by
  obtain ⟨clock, later⟩ := awaited
  cases step with
  | look user rank =>
    refine ⟨clock, fun entry loaded present ended => ?_⟩
    rcases SessionCache.numbered?_lookup present with before | ⟨-, rfl⟩
    · exact later entry loaded before ended
    · cases ended
  | startLoad starter waits idle =>
    refine ⟨clock, fun entry loaded present ended => ?_⟩
    rcases SessionCache.stage_or_of_setStage present with same | before
    · cases same.symm.trans ended
    · exact later entry loaded before ended
  | endLoad ender loads result =>
    refine ⟨clock, fun entry loaded present ended => ?_⟩
    rcases SessionCache.stage_or_of_setStage present with same | before
    · cases same.symm.trans ended
      exact clock
    · exact later entry loaded before ended
  | leave leaver waits loaded =>
    refine ⟨clock, fun entry loaded present => later entry loaded ?_⟩
    simpa [Traffic.leave, SessionCache.numbered?] using present
  | drop dropped waits => exact ⟨clock, later⟩
  | abandonLoad dropped loads =>
    refine ⟨clock, fun entry loaded present ended => ?_⟩
    rcases SessionCache.stage_or_of_setStage present with same | before
    · cases same.symm.trans ended
    · exact later entry loaded before ended
  | invalidate user => exact ⟨clock, later⟩
  | outdated event => exact ⟨clock, later⟩
  | reap => exact ⟨clock, later⟩
  | advance wait inRange => exact ⟨Nat.le_trans clock (Nat.le_add_right _ _), later⟩

theorem Awaited.run (awaited : traffic.Awaited place since) (run : Run traffic events last) :
    last.Awaited place since :=
  run.keeps (fun _ _ _ holds step => Awaited.step holds step) awaited

theorem awaited_of_not_loaded (present : traffic.cache.numbered? place = some entry)
    (unloaded : ∀ loaded, entry.stage ≠ .loaded loaded) :
    traffic.Awaited place traffic.now := by
  refine ⟨Nat.le_refl _, fun other loaded otherPresent ended => ?_⟩
  cases present.symm.trans otherPresent
  exact absurd ended (unloaded loaded)

theorem serves_found (before : traffic.cache.numbered? (traffic.found user) = some entry) :
    traffic.Serves user (traffic.found user) := by
  rw [serves_iff]
  cases usable : traffic.cache.usable? user traffic.now with
  | some number => rw [found_of_usable usable]
  | none =>
    rw [found_of_not_usable usable] at before
    have bound := (List.getElem?_eq_some_iff.1 before).1
    exact absurd bound (Nat.lt_irrefl _)

theorem Sound.found_cases (sound : Sound traffic) (timely : Timely traffic) (user : String)
    (rank : String → Nat) :
    (∃ entry loaded,
      (traffic.look user rank).cache.numbered? (traffic.found user) = some entry ∧
        entry.stage = .loaded loaded ∧ FreshAt traffic.cache.config loaded traffic.now) ∨
      (traffic.look user rank).Awaited (traffic.found user) traffic.now := by
  obtain ⟨entry, present, -⟩ := sound.lookup_user user rank
  cases stage : entry.stage with
  | loaded loaded =>
    left
    refine ⟨entry, loaded, present, stage, ?_⟩
    rcases SessionCache.numbered?_lookup present with before | ⟨-, rfl⟩
    · exact (serves_found before).freshAt timely before stage
    · cases stage
  | idle => exact .inr (awaited_of_not_loaded present (by simp [stage]))
  | loading => exact .inr (awaited_of_not_loaded present (by simp [stage]))

theorem LeftWith.exists_entry (left : last.LeftWith number load loaded) (sound : Sound last) :
    ∃ visit entry, last.visit? number = some visit ∧
      last.cache.numbered? visit.entry = some entry ∧ entry.stage = .loaded loaded := by
  obtain ⟨visit, use, present, -, usePresent, sameEntry, -, ended⟩ := left
  obtain ⟨entry, entryPresent, stage⟩ :=
    sound.outcome load use (sound.kept_of_ended usePresent ended)
  rw [ended] at stage
  exact ⟨visit, entry, present, sameEntry ▸ entryPresent, stage⟩

theorem Sound.fresh_of_leftWith (sound : Sound traffic) (timely : Timely traffic)
    (run : Run (traffic.look user rank) events last)
    (left : last.LeftWith traffic.visits.length load loaded) :
    traffic.now ≤ loaded.moment ∨ FreshAt traffic.cache.config loaded traffic.now := by
  have looked := sound.look user rank
  obtain ⟨visit, entry, present, entryPresent, stage⟩ := left.exists_entry (looked.run run)
  obtain ⟨other, otherPresent, -, entry⟩ := run.visit_of_look
  cases present.symm.trans otherPresent
  rw [entry] at entryPresent
  rcases sound.found_cases timely user rank with
    ⟨first, early, firstPresent, ended, fresh⟩ | awaited
  · have kept := looked.keeps_loaded run firstPresent ended
    cases entryPresent.symm.trans kept
    cases stage.symm.trans ended
    exact .inr fresh
  · exact .inl ((awaited.run run).later _ loaded entryPresent stage)

/-! A caller that has found a loaded entry does not load: it has gone with the result, or
can go with it. -/

theorem Sound.leaves_of_loaded (sound : Sound last) (present : last.visit? number = some visit)
    (entryPresent : last.cache.numbered? visit.entry = some entry)
    (ended : entry.stage = .loaded loaded) (stays : visit.stage ≠ .dropped) :
    visit.stage = .gone loaded.result ∨
      Step last (.leave number) (last.leave number visit loaded.result) := by
  have ready : last.cache.result? visit.entry = some loaded.result :=
    SessionCache.result?_eq_some_iff.2 ⟨entry, loaded, entryPresent, ended, rfl⟩
  cases stage : visit.stage with
  | waiting => exact .inr (.leave present stage ready)
  | gone result =>
    cases ready.symm.trans (sound.gone number visit result present stage)
    exact .inl rfl
  | loading load =>
    obtain ⟨other, otherPresent, loading⟩ := sound.stage_of_loading present stage
    cases entryPresent.symm.trans otherPresent
    cases ended.symm.trans loading
  | dropped => exact absurd stage stays

theorem Sound.load_of_loaded (sound : Sound traffic)
    (present : traffic.cache.numbered? number = some entry) (ended : entry.stage = .loaded loaded)
    (run : Run traffic events last) {use : LoaderUse} (usePresent : last.load? load = some use)
    (same : use.entry = number) :
    ∃ before, traffic.load? load = some before ∧ before.entry = number ∧
      before.visit = use.visit := by
  induction run with
  | nil traffic => exact ⟨use, usePresent, same, rfl⟩
  | cons _ step _ ih =>
    obtain ⟨middle, middlePresent, middleEntry, middleVisit⟩ :=
      ih (sound.step step) (sound.keeps_loaded_step step present ended) usePresent
    rcases step.load_of_next middlePresent with
      ⟨before, beforePresent, sameEntry, sameVisit, -⟩ | ⟨starter, visit, -, -, idle, -, rfl⟩
    · exact ⟨before, beforePresent, sameEntry.symm.trans middleEntry,
        sameVisit.symm.trans middleVisit⟩
    · obtain ⟨own, ownPresent, ownIdle⟩ := SessionCache.isIdle_eq_true_iff.1 idle
      obtain rfl : visit.entry = number := middleEntry
      cases present.symm.trans ownPresent
      cases ended.symm.trans ownIdle

theorem Sound.loader_lt (sound : Sound traffic)
    (present : traffic.cache.numbered? number = some entry) (ended : entry.stage = .loaded loaded)
    (run : Run traffic events last) {use : LoaderUse} (member : use ∈ last.loads)
    (same : use.entry = number) : use.visit < traffic.visits.length := by
  obtain ⟨load, usePresent⟩ := List.mem_iff_getElem?.1 member
  obtain ⟨before, beforePresent, -, sameVisit⟩ :=
    sound.load_of_loaded present ended run usePresent same
  obtain ⟨loader, loaderPresent, -⟩ := sound.loader load before beforePresent
  rw [← sameVisit]
  exact (List.getElem?_eq_some_iff.1 loaderPresent).1

theorem Run.not_dropped (run : Run (traffic.look user rank) events last)
    (present : last.visit? traffic.visits.length = some visit)
    (stays : .drop traffic.visits.length ∉ events) : visit.stage ≠ .dropped := by
  intro dropped
  rcases run.dropped_of_last present dropped with member | ⟨before, beforePresent, already⟩
  · exact stays member
  · rcases visit?_look.1 beforePresent with early | ⟨-, rfl⟩
    · exact Nat.lt_irrefl _ (List.getElem?_eq_some_iff.1 early).1
    · cases already

/-- A caller leaves with the result of a load that ends no earlier than it came, or with
one whose time is not over when it comes. One that finds such a result begins no load and,
unless it is dropped, can leave with it at once. Whatever happens, readers included, neither a
result that is there changes nor the moment from which its time is counted. -/
theorem freshness {config : CacheConfig} {began : Fin Moment.limit} {before : List CacheEvent}
    (run : Run (start config began) before traffic) :
    (∀ user rank after last visit result, Run (traffic.look user rank) after last →
      last.visit? traffic.visits.length = some visit → visit.stage = .gone result →
      ∃ load moment, last.LeftWith traffic.visits.length load { result, moment } ∧
        (traffic.now ≤ moment ∨ FreshAt config { result, moment } traffic.now)) ∧
    (∀ user number entry loaded, traffic.cache.current.find? user = some number →
      traffic.cache.numbered? number = some entry → entry.stage = .loaded loaded →
      FreshAt config loaded traffic.now →
      ∀ rank after last, Run (traffic.look user rank) after last →
        (∀ use ∈ last.loads, use.visit ≠ traffic.visits.length) ∧
        ∃ visit, last.visit? traffic.visits.length = some visit ∧
          (.drop traffic.visits.length ∈ after ∨ visit.stage = .gone loaded.result ∨
            Step last (.leave traffic.visits.length)
              (last.leave traffic.visits.length visit loaded.result))) ∧
    ∀ number entry loaded after last, traffic.cache.numbered? number = some entry →
      entry.stage = .loaded loaded → Run traffic after last →
      last.cache.numbered? number = some entry := by
  have sound := (start_sound config began).run run
  have timely := (start_timely config began).run run
  have same : traffic.cache.config = config := run.config
  refine ⟨?_, ?_, fun number entry loaded after last present ended rest =>
    sound.keeps_loaded rest present ended⟩
  · intro user rank after last visit result rest present left
    obtain ⟨load, moment, leftWith⟩ :=
      ((sound.look user rank).run rest).exists_leftWith present left
    exact ⟨load, moment, leftWith, same ▸ sound.fresh_of_leftWith timely rest leftWith⟩
  · intro user number entry loaded found present ended fresh rank after last rest
    have serves := serves_of_freshAt found present ended (same.symm ▸ fresh)
    have whole : Run traffic (.look user :: after) last := .cons trivial (.look user rank) rest
    have lastSound := sound.run whole
    obtain ⟨visit, lastPresent, -, visitEntry⟩ := rest.visit_of_look
    rw [serves.found] at visitEntry
    refine ⟨fun use member loads => ?_, visit, lastPresent, ?_⟩
    · obtain ⟨load, loadPresent⟩ := List.mem_iff_getElem?.1 member
      obtain ⟨loader, loaderPresent, useEntry, -⟩ := lastSound.loader load use loadPresent
      rw [loads] at loaderPresent
      cases lastPresent.symm.trans loaderPresent
      have earlier := sound.loader_lt present ended whole member (useEntry.symm.trans visitEntry)
      omega
    · by_cases dropped : .drop traffic.visits.length ∈ after
      · exact .inl dropped
      · right
        apply lastSound.leaves_of_loaded lastPresent _ ended (rest.not_dropped lastPresent dropped)
        rw [visitEntry]
        exact sound.keeps_loaded whole present ended

/-- A session that a load has ended with at a moment is told for the last time one
millisecond before its time is over. -/
theorem freshness_until_expiry :
    ∃ (session : Session) (traffic last : Traffic),
      Run (start { ttl := 1 } ⟨0, by decide⟩)
        [.look "alice", .startLoad 0, .advance 5, .endLoad 0 (.ok session), .leave 0,
          .advance 999] traffic ∧
      Run (traffic.look "alice" (fun _ => 0)) [.leave 1] last ∧ last.LeftWith 1 0 ⟨.ok session, 5⟩ ∧
      FreshAt { ttl := 1 } ⟨.ok session, 5⟩ 1004 ∧ ¬ FreshAt { ttl := 1 } ⟨.ok session, 5⟩ 1005 ∧
      ∀ use ∈ last.loads, use.visit ≠ 1 := by
  let result : Except JmapError Session := .ok default
  let use : LoaderUse := { entry := 0, user := "alice", visit := 0, ended := some ⟨result, 5⟩ }
  let rank : String → Nat := fun _ => 0
  let visit : Visit := { user := "alice", entry := 0, since := 0 }
  let loading := ((start { ttl := 1 } ⟨0, by decide⟩).look "alice" rank).startLoad 0 visit
  let loaded := { loading with now := 5 }.endLoad 0 { visit with stage := .loading 0 } 0 result
  let left := loaded.leave 0 visit result
  let traffic : Traffic := { left with now := left.now + 999 }
  have run : Run (start { ttl := 1 } ⟨0, by decide⟩)
      [.look "alice", .startLoad 0, .advance 5, .endLoad 0 result, .leave 0, .advance 999]
      traffic :=
    .cons trivial (.look "alice" rank) (.cons trivial (.startLoad rfl rfl rfl)
      (.cons trivial (.advance 5 (by decide)) (.cons trivial (.endLoad rfl rfl _)
        (.cons trivial (.leave rfl rfl rfl) (.cons trivial (.advance 999 (by decide))
          (.nil _))))))
  have ends : Moment.after? 5 (({ ttl := 1 } : CacheConfig).ttl.toNat * 1000) = some 1005 := by
    decide
  have fresh : FreshAt { ttl := 1 } ⟨result, 5⟩ 1004 := by
    refine (@freshAt_iff traffic.cache _ _).2 ⟨by decide, fun expiry same => ?_⟩
    cases ends.symm.trans same
    decide
  have stale : ¬ FreshAt { ttl := 1 } ⟨result, 5⟩ 1005 := fun fresh =>
    Nat.lt_irrefl 1005 (fresh.session default 1005 rfl ends)
  have loads : traffic.load? 0 = some use := rfl
  obtain ⟨-, found, -⟩ := freshness run
  have place : traffic.found "alice" = 0 := (serves_of_freshAt rfl rfl rfl fresh).found
  obtain ⟨late, present, sameUser, sameEntry⟩ :=
    Run.visit_of_look (.nil (traffic.look "alice" rank))
  have waits : late.stage = .waiting := by
    rcases visit?_look.1 present with early | ⟨-, rfl⟩
    · cases early
    · rfl
  obtain ⟨-, other, otherPresent, dropped | gone | step⟩ :=
    found "alice" 0 _ _ rfl rfl rfl fresh rank [] (traffic.look "alice" rank) (.nil _)
  all_goals cases present.symm.trans otherPresent
  · cases dropped
  · cases waits.symm.trans gone
  · have rest : Run (traffic.look "alice" rank) [.leave 1] _ := .cons trivial step (.nil _)
    exact ⟨default, traffic, _, run, rest,
      ⟨{ late with stage := .gone result }, use, (visit?_leave present).trans (if_pos rfl), rfl,
        load?_leave.trans (load?_look.trans loads), (sameEntry.trans place).symm, sameUser.symm,
        rfl⟩,
      fresh, stale, (found "alice" 0 _ _ rfl rfl rfl fresh rank _ _ rest).1⟩

end Traffic

end Jmap
