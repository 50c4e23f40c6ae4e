import Jmap.Proofs.Cache.Course

namespace Jmap

namespace SessionCache

variable {cache : SessionCache} {number place : Nat}

theorem owner_of_setStage {stage : LoadStage} {entry : CacheEntry}
    (present : (cache.setStage number stage).numbered? place = some entry) :
    ∃ before, cache.numbered? place = some before ∧ before.user = entry.user := by
  rw [numbered?_setStage] at present
  split at present
  · obtain ⟨before, beforePresent, rfl⟩ := Option.map_eq_some_iff.1 present
    exact ⟨before, beforePresent, rfl⟩
  · exact ⟨entry, present, rfl⟩

end SessionCache

namespace Traffic

variable {traffic next last : Traffic} {event : CacheEvent} {events : List CacheEvent}
  {number load place : Nat} {user : String} {rank : String → Nat} {visit : Visit}
  {use : LoaderUse} {error : JmapError}

/-- The entry in use for a user is the last that has been made for the user. -/
def Latest (traffic : Traffic) : Prop :=
  ∀ user number place entry, traffic.cache.current.find? user = some number →
    traffic.cache.numbered? place = some entry → entry.user = user → place ≤ number

theorem start_latest (config : CacheConfig) (began : Fin Moment.limit) :
    Latest (start config began) := by
  intro user number place entry found
  simp [start] at found

theorem Latest.narrow (latest : Latest traffic) {other : Traffic}
    (made : other.cache.made = traffic.cache.made) (within : other.cache.Within traffic.cache) :
    Latest other := by
  intro user number place entry found present owner
  rw [SessionCache.numbered?, made] at present
  exact latest user number place entry (within user number found) present owner

theorem Latest.look (latest : Latest traffic) (user : String) (rank : String → Nat) :
    Latest (traffic.look user rank) := by
  intro other number place entry found present owner
  by_cases same : user = other
  · subst same
    have finds : (traffic.look user rank).cache.current.find? user = some (traffic.found user) := by
      rw [← @lookup_found traffic user rank]
      exact SessionCache.find?_lookup_self
    cases finds.symm.trans found
    rcases SessionCache.numbered?_lookup present with before | ⟨rfl, -⟩
    · cases usable : traffic.cache.usable? user traffic.now with
      | some inUse =>
        rw [found_of_usable usable]
        exact latest user inUse place entry (SessionCache.usable?_eq_some_iff.1 usable).1 before
          owner
      | none =>
        rw [found_of_not_usable usable]
        exact Nat.le_of_lt (List.getElem?_eq_some_iff.1 before).1
    · exact Nat.le_of_eq lookup_found
  · rcases SessionCache.find?_lookup found with ⟨rfl, -⟩ | inUse
    · exact absurd rfl same
    rcases SessionCache.numbered?_lookup present with before | ⟨-, rfl⟩
    · exact latest other number place entry inUse before owner
    · exact absurd owner same

theorem Latest.setStage (latest : Latest traffic) {other : Traffic} {stage : LoadStage}
    (staged : other.cache = traffic.cache.setStage number stage) : Latest other := by
  intro user inUse place entry found present owner
  rw [staged] at found present
  obtain ⟨before, beforePresent, same⟩ := SessionCache.owner_of_setStage present
  exact latest user inUse place before found beforePresent (same.trans owner)

theorem Latest.step (latest : Latest traffic) (step : Step traffic event next) :
    Latest next := by
  cases step with
  | look user rank => exact latest.look user rank
  | startLoad starter waits idle => exact latest.setStage rfl
  | endLoad ender loads result => exact latest.setStage rfl
  | leave leaver waits loaded =>
    exact latest.narrow SessionCache.leave_made SessionCache.leave_within
  | drop dropped waits => exact latest.narrow rfl (fun _ _ found => found)
  | abandonLoad dropped loads => exact latest.setStage rfl
  | invalidate user =>
    exact latest.narrow SessionCache.invalidate_made SessionCache.invalidate_within
  | outdated event =>
    exact latest.narrow SessionCache.invalidate_made SessionCache.invalidate_within
  | reap => exact latest.narrow SessionCache.reap_made SessionCache.reap_within
  | advance wait inRange => exact latest.narrow rfl (fun _ _ found => found)

theorem Latest.run (latest : Latest traffic) (run : Run traffic events last) : Latest last :=
  run.keeps (fun _ _ _ holds step => Latest.step holds step) latest

def Failed (traffic : Traffic) (load : Nat) (use : LoaderUse) : Prop :=
  traffic.load? load = some use ∧ ∃ error moment, use.ended = some ⟨.error error, moment⟩

theorem Failed.exists_entry (failed : traffic.Failed load use) (sound : Sound traffic) :
    ∃ entry loaded error, traffic.cache.numbered? use.entry = some entry ∧
      entry.user = use.user ∧ entry.stage = .loaded loaded ∧ loaded.result = .error error := by
  obtain ⟨present, error, moment, ended⟩ := failed
  obtain ⟨entry, entryPresent, stage⟩ := sound.outcome load use (sound.kept_of_ended present ended)
  rw [ended] at stage
  exact ⟨entry, _, error, entryPresent, sound.owner_of_load present entryPresent, stage, rfl⟩

theorem Failed.entry_lt_found (failed : traffic.Failed load use) (sound : Sound traffic)
    (timely : Timely traffic) (latest : Latest traffic)
    (forgets : traffic.cache.config.failureTtl = 0) : use.entry < traffic.found use.user := by
  obtain ⟨entry, loaded, error, present, owner, stage, result⟩ := failed.exists_entry sound
  cases usable : traffic.cache.usable? use.user traffic.now with
  | none =>
    rw [found_of_not_usable usable]
    exact (List.getElem?_eq_some_iff.1 present).1
  | some number =>
    obtain ⟨inUse, lasts⟩ := SessionCache.usable?_eq_some_iff.1 usable
    rw [found_of_usable usable]
    refine Nat.lt_of_le_of_ne (latest _ number use.entry entry inUse present owner) ?_
    rintro rfl
    rw [timely.reached_of_forgotten forgets present stage result] at lasts
    cases lasts

theorem LeftWith.exists_load {loaded : Loaded}
    (left : last.LeftWith traffic.visits.length load loaded)
    (run : Run (traffic.look user rank) events last) :
    ∃ use, last.load? load = some use ∧ use.user = user ∧ use.entry = traffic.found user := by
  obtain ⟨visit, use, present, -, loadPresent, sameEntry, sameUser, -⟩ := left
  obtain ⟨other, otherPresent, owner, entry⟩ := run.visit_of_look
  cases present.symm.trans otherPresent
  exact ⟨use, loadPresent, sameUser.trans owner, sameEntry.trans entry⟩

theorem Failed.ne_of_leftWith {other : Nat} {loaded : Loaded} (failed : traffic.Failed load use)
    (newer : use.entry < traffic.found use.user)
    (run : Run (traffic.look use.user rank) events last)
    (left : last.LeftWith traffic.visits.length other loaded) : other ≠ load := by
  rintro rfl
  obtain ⟨another, present, -, sameEntry⟩ := left.exists_load run
  obtain ⟨ended, dropped, kept⟩ := run.keeps_load failed.1
  cases present.symm.trans kept
  exact Nat.ne_of_lt newer sameEntry

theorem Step.load?_of_start (starts : Step traffic (.startLoad number) next)
    (present : traffic.visit? number = some visit) :
    next.load? traffic.loads.length =
      some { entry := visit.entry, user := visit.user, visit := number } := by
  cases starts with
  | startLoad starter waits idle =>
    cases present.symm.trans starter
    exact load?_startLoad.2 (.inr ⟨rfl, rfl⟩)

/-- A load that has begun before some moment is not for an entry made after the one that was
in use for its user then. -/
theorem Latest.entry_le (latest : Latest traffic) (sound : Sound traffic)
    (inUse : traffic.cache.current.find? use.user = some number)
    (run : Run traffic events last) (early : load < traffic.loads.length)
    (present : last.load? load = some use) : use.entry ≤ number := by
  have begun : traffic.load? load = some traffic.loads[load] := List.getElem?_eq_getElem early
  obtain ⟨entry, entryPresent, owner⟩ := sound.entry_of_load begun
  obtain ⟨ended, dropped, kept⟩ := run.keeps_load begun
  cases present.symm.trans kept
  exact latest _ number _ entry inUse entryPresent owner

def Dropped (traffic : Traffic) : Prop :=
  ∀ number visit error user, traffic.visit? number = some visit →
    visit.stage = .gone (.error error) → traffic.cache.current.find? user ≠ some visit.entry

theorem start_dropped (config : CacheConfig) (began : Fin Moment.limit) :
    Dropped (start config began) := by
  intro number visit error user present
  simp [start, visit?] at present

theorem Dropped.narrow (dropped : Dropped traffic) (cache : SessionCache)
    (within : cache.Within traffic.cache) (now : Moment) :
    Dropped { traffic with cache, now } :=
  fun number visit error user present left found =>
    dropped number visit error user present left (within user visit.entry found)

theorem Dropped.set (dropped : Dropped traffic) {other : Traffic} {stage : VisitStage}
    (present : traffic.visit? number = some visit)
    (visits : other.visits = traffic.visits.set number { visit with stage })
    (within : other.cache.Within traffic.cache)
    (own : ∀ error user, stage = .gone (.error error) →
      other.cache.current.find? user ≠ some visit.entry) : Dropped other := by
  intro place another error user placed left found
  rw [visit?, visits] at placed
  have placed := (visit?_set present).symm.trans placed
  split at placed
  · cases placed
    exact own error user left found
  · exact dropped place another error user placed left (within user another.entry found)

theorem Dropped.look (dropped : Dropped traffic) (sound : Sound traffic) (user : String)
    (rank : String → Nat) : Dropped (traffic.look user rank) := by
  intro number visit error other present left found
  rcases visit?_look.1 present with before | ⟨-, rfl⟩
  · rcases (Step.look user rank).find?_of_next found with earlier | ⟨-, made⟩
    · exact dropped number visit error other before left earlier
    · obtain ⟨entry, entryPresent, -⟩ := sound.visited number visit before
      have bound := (List.getElem?_eq_some_iff.1 entryPresent).1
      omega
  · cases left

theorem Sound.find?_leave_ne (sound : Sound traffic) (present : traffic.visit? number = some visit)
    (forgets : traffic.cache.config.failureTtl = 0)
    (failed : traffic.cache.result? visit.entry = some (.error error)) (user : String) :
    (traffic.cache.leave visit.user visit.entry).current.find? user ≠ some visit.entry := by
  intro found
  have before := SessionCache.leave_within user visit.entry found
  obtain ⟨entry, entryPresent, owner⟩ := sound.inUse user visit.entry before
  obtain ⟨other, otherPresent, otherOwner⟩ := sound.visited number visit present
  cases entryPresent.symm.trans otherPresent
  obtain rfl : visit.user = user := otherOwner.symm.trans owner
  simp [SessionCache.leave, failed, forgets, before] at found

theorem Dropped.step (dropped : Dropped traffic) (sound : Sound traffic)
    (forgets : traffic.cache.config.failureTtl = 0) (step : Step traffic event next) :
    Dropped next := by
  cases step with
  | look user rank => exact dropped.look sound user rank
  | startLoad starter waits idle =>
    exact dropped.set starter rfl (fun _ _ found => found) (fun _ _ left => by cases left)
  | endLoad ender loads result =>
    exact dropped.set ender rfl (fun _ _ found => found) (fun _ _ left => by cases left)
  | leave leaver waits loaded =>
    refine dropped.set leaver rfl SessionCache.leave_within (fun error user left => ?_)
    cases left
    exact sound.find?_leave_ne leaver forgets loaded user
  | drop drops waits =>
    exact dropped.set drops rfl (fun _ _ found => found) (fun _ _ left => by cases left)
  | abandonLoad drops loads =>
    exact dropped.set drops rfl (fun _ _ found => found) (fun _ _ left => by cases left)
  | invalidate user => exact dropped.narrow _ SessionCache.invalidate_within _
  | outdated event => exact dropped.narrow _ SessionCache.invalidate_within _
  | reap => exact dropped.narrow _ SessionCache.reap_within _
  | advance wait inRange => exact dropped.narrow _ (fun _ _ found => found) _

theorem Dropped.run (dropped : Dropped traffic) (sound : Sound traffic)
    (forgets : traffic.cache.config.failureTtl = 0) (run : Run traffic events last) :
    Dropped last := by
  induction run with
  | nil traffic => exact dropped
  | cons _ step _ ih =>
    exact ih (dropped.step sound forgets step) (sound.step step) (step.config ▸ forgets)

theorem Step.find?_leave (step : Step traffic (.leave number) next)
    (present : traffic.visit? number = some visit)
    (found : traffic.cache.current.find? user = some place) :
    next.cache.current.find? user = some place ∨
      user = visit.user ∧ place = visit.entry ∧
        ∃ error, traffic.cache.result? place = some (.error error) := by
  cases step with
  | leave leaver waits loaded =>
    cases present.symm.trans leaver
    rcases SessionCache.leave_cases traffic.cache visit.user visit.entry with
      same | ⟨⟨error, failed⟩, -, inUse, dropped⟩
    · left
      rwa [Traffic.leave, same]
    · rw [Traffic.leave, dropped, Dict.find?_erase]
      split
      · rename_i own
        subst own
        cases inUse.symm.trans found
        exact .inr ⟨rfl, rfl, error, failed⟩
      · exact .inl found

theorem Failed.not_inUse (failed : traffic.Failed load use) (sound : Sound traffic)
    (dropped : Dropped traffic)
    (gone : ∀ number visit, traffic.visit? number = some visit → visit.entry = use.entry →
      ∃ result, visit.stage = .gone result) (user : String) :
    traffic.cache.current.find? user ≠ some use.entry := by
  obtain ⟨loader, present, sameEntry, -, -⟩ := sound.loader load use failed.1
  obtain ⟨result, left⟩ := gone use.visit loader present sameEntry
  obtain ⟨entry, loaded, error, entryPresent, -, stage, failure⟩ := failed.exists_entry sound
  obtain ⟨other, otherLoaded, otherPresent, otherStage, same⟩ :=
    SessionCache.result?_eq_some_iff.1 (sound.gone use.visit loader result present left)
  rw [sameEntry, entryPresent] at otherPresent
  cases otherPresent
  cases stage.symm.trans otherStage
  rw [← sameEntry]
  exact dropped use.visit loader error user present (by rw [left, ← same, failure])

/-- Where failures are not kept, whoever comes for a user after a load for the user has failed
finds a newer entry and shares the load of that; the load is a later one too, unless the entry
that fails has been replaced before its load begins. Once all who have found the entry that has
failed are gone, it is not in use. A caller that leaves takes no entry out of use but its own,
and that only if it has failed; all entries stay as they are. -/
theorem failures_forgotten {config : CacheConfig} {began : Fin Moment.limit}
    {before : List CacheEvent} (forgets : config.failureTtl = 0)
    (run : Run (start config began) before traffic) :
    (∀ load use, traffic.Failed load use →
      (∀ rank after last, Run (traffic.look use.user rank) after last →
        use.entry < traffic.found use.user ∧
        last.Shares traffic.visits.length use.user (traffic.found use.user) ∧
        ∀ other loaded, last.LeftWith traffic.visits.length other loaded → other ≠ load) ∧
      ((∀ number visit, traffic.visit? number = some visit → visit.entry = use.entry →
          ∃ result, visit.stage = .gone result) →
        ∀ user, traffic.cache.current.find? user ≠ some use.entry)) ∧
    (∀ starter visit next during later use, traffic.visit? starter = some visit →
      traffic.cache.current.find? visit.user = some visit.entry →
      Step traffic (.startLoad starter) next → Run next during later →
      later.Failed traffic.loads.length use →
        ∀ rank after last other loaded, Run (later.look visit.user rank) after last →
          last.LeftWith later.visits.length other loaded → traffic.loads.length < other) ∧
    ∀ number visit next, traffic.visit? number = some visit →
      Step traffic (.leave number) next →
        next.cache.made = traffic.cache.made ∧
        ∀ user place, traffic.cache.current.find? user = some place →
          next.cache.current.find? user = some place ∨
            user = visit.user ∧ place = visit.entry ∧
              ∃ error, traffic.cache.result? place = some (.error error) := by
  have sound := (start_sound config began).run run
  have timely := (start_timely config began).run run
  have latest := (start_latest config began).run run
  have dropped := (start_dropped config began).run (start_sound config began) forgets run
  have forgetsStill : traffic.cache.config.failureTtl = 0 := run.config.symm ▸ forgets
  refine ⟨fun load use failed => ⟨?_, failed.not_inUse sound dropped⟩, ?_, ?_⟩
  · intro rank after last rest
    have newer := failed.entry_lt_found sound timely latest forgetsStill
    exact ⟨newer, sound.look_shares rest,
      fun other loaded left => failed.ne_of_leftWith newer rest left⟩
  · intro starter visit next during later use present inUse starts waits failed rank after last
      other loaded rest left
    have whole : Run traffic (.startLoad starter :: during) later := .cons trivial starts waits
    have laterForgets : later.cache.config.failureTtl = 0 := whole.config.symm ▸ forgetsStill
    have newer := failed.entry_lt_found (sound.run whole) (timely.run whole) (latest.run whole)
      laterForgets
    obtain ⟨ended, dropped, kept⟩ := waits.keeps_load (starts.load?_of_start present)
    cases failed.1.symm.trans kept
    have different := failed.ne_of_leftWith newer rest left
    refine Nat.lt_of_le_of_ne (Nat.le_of_not_lt (fun early => ?_)) (Ne.symm different)
    -- An earlier load would be for an entry that is no newer than the one that fails.
    obtain ⟨another, anotherPresent, sameUser, sameEntry⟩ := left.exists_load rest
    have bound := latest.entry_le sound (sameUser.symm ▸ inUse)
      (whole.append (.cons trivial (.look visit.user rank) rest)) early anotherPresent
    rw [sameEntry] at bound
    exact Nat.not_lt.2 bound newer
  · intro number visit next present step
    refine ⟨?_, fun user place found => step.find?_leave present found⟩
    cases step with
    | leave leaver waits loaded => exact SessionCache.leave_made

/-- Two callers wait for a load that fails. A third comes before they have gone, finds a new
entry and begins to load it; when the first two leave that entry stays in use. -/
theorem failures_forgotten_before_return :
    ∃ (failed between next last : Traffic) (use : LoaderUse),
      Run (start default ⟨0, by decide⟩)
        [.look "ann", .look "ann", .startLoad 0, .endLoad 0 (.error (.transport .timeout))]
        failed ∧
      failed.Failed 0 use ∧ use.user = "ann" ∧ use.entry < failed.found "ann" ∧
      Run (failed.look "ann" (fun _ => 0)) [.startLoad 2] between ∧
      between.cache.current.find? "ann" = some 1 ∧
      Step between (.leave 0) next ∧ next.cache.current.find? "ann" = some 1 ∧
      Run next [.leave 1] last ∧
      last.Shares 2 "ann" (failed.found "ann") ∧
      ∀ user, last.cache.current.find? user ≠ some use.entry := by
  let failure : Except JmapError Session := .error (.transport .timeout)
  let first : Visit := { user := "ann", entry := 0, since := 0 }
  let third : Visit := { user := "ann", entry := 1, since := 0 }
  let use : LoaderUse := { entry := 0, user := "ann", visit := 0, ended := some ⟨failure, 0⟩ }
  let rank : String → Nat := fun _ => 0
  let asked := (start default ⟨0, by decide⟩).look "ann" rank |>.look "ann" rank
  let failed := (asked.startLoad 0 first).endLoad 0 { first with stage := .loading 0 } 0 failure
  let looked : Traffic :=
    { failed with
      cache := (failed.cache.clearedFor "ann" rank).add "ann" 0
      visits := failed.visits ++ [third] }
  let between := looked.startLoad 2 third
  let next := between.leave 0 first failure
  let last := next.leave 1 first failure
  have run : Run (start default ⟨0, by decide⟩)
      [.look "ann", .look "ann", .startLoad 0, .endLoad 0 failure] failed :=
    .cons trivial (.look "ann" rank) (.cons trivial (.look "ann" rank)
      (.cons trivial (.startLoad rfl rfl rfl) (.cons trivial (.endLoad rfl rfl _) (.nil _))))
  have expired : failed.cache.usable? "ann" failed.now = none := by decide
  have looks : failed.look "ann" rank = looked := by
    rw [Traffic.look, SessionCache.lookup_of_not_usable expired]
    rfl
  have begins : Run (failed.look "ann" rank) [.startLoad 2] between := by
    rw [looks]
    exact .cons trivial (.startLoad rfl rfl rfl) (.nil _)
  have leaves : Step between (.leave 0) next := .leave rfl rfl rfl
  have rest : Run next [.leave 1] last := .cons trivial (.leave rfl rfl rfl) (.nil _)
  have later : Run (failed.look "ann" rank) _ last := begins.append (.cons trivial leaves rest)
  have isFailed : failed.Failed 0 use := ⟨rfl, _, _, rfl⟩
  obtain ⟨newer, shares, -⟩ := ((failures_forgotten rfl run).1 0 use isFailed).1 rank _ last later
  have reached := run.append (.cons trivial (.look "ann" rank) begins)
  have kept : next.cache.current.find? "ann" = some 1 := by
    rcases ((failures_forgotten rfl reached).2.2 0 first next rfl leaves).2 "ann" 1 rfl with
      kept | ⟨-, own, -⟩
    · exact kept
    · cases own
  have whole := run.append (.cons trivial (.look "ann" rank) later)
  have stays : last.Failed 0 use := ⟨rfl, _, _, rfl⟩
  refine ⟨failed, between, next, last, use, run, isFailed, rfl, newer, begins, rfl, leaves, kept,
    rest, shares, ((failures_forgotten rfl whole).1 0 use stays).2 ?_⟩
  intro number visit present same
  rcases number with _ | _ | _ | number
  · cases present
    exact ⟨_, rfl⟩
  · cases present
    exact ⟨_, rfl⟩
  · cases present
    cases same
  · cases present

end Traffic

end Jmap
