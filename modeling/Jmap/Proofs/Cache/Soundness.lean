import Jmap.Proofs.Cache.Traffic

/-!
What holds of a cache and its callers at any moment of any run. Each use of the
loader belongs to one entry and one caller; it goes on as long as both say so, and
its end is the result of the entry from then on. Where its caller is dropped, the entry
is as if the use had never been.
-/

namespace Jmap

namespace Traffic

variable {traffic next last : Traffic} {event : CacheEvent} {events : List CacheEvent}
  {number load : Nat} {user : String} {rank : String → Nat} {visit : Visit} {use : LoaderUse}
  {result : Except JmapError Session}

/-- A use of the loader that has not come to nothing. -/
def Kept (traffic : Traffic) (load : Nat) (use : LoaderUse) : Prop :=
  traffic.load? load = some use ∧ use.dropped = false

/-- The agreement between the entries in use, the entries made, the callers, and the
uses of the loader. -/
structure Sound (traffic : Traffic) : Prop where
  inUse : ∀ user number, traffic.cache.current.find? user = some number →
    ∃ entry, traffic.cache.numbered? number = some entry ∧ entry.user = user
  visited : ∀ number visit, traffic.visit? number = some visit →
    ∃ entry, traffic.cache.numbered? visit.entry = some entry ∧ entry.user = visit.user
  loading : ∀ number visit load, traffic.visit? number = some visit →
    visit.stage = .loading load →
      traffic.load? load = some { entry := visit.entry, user := visit.user, visit := number }
  gone : ∀ number visit result, traffic.visit? number = some visit →
    visit.stage = .gone result → traffic.cache.result? visit.entry = some result
  loader : ∀ load use, traffic.load? load = some use →
    ∃ visit, traffic.visit? use.visit = some visit ∧ visit.entry = use.entry ∧
      visit.user = use.user ∧
      (use.ended = none → use.dropped = false → visit.stage = .loading load)
  outcome : ∀ load use, traffic.Kept load use →
    ∃ entry, traffic.cache.numbered? use.entry = some entry ∧
      entry.stage = use.ended.elim .loading .loaded
  lost : ∀ load use loaded, traffic.load? load = some use → use.ended = some loaded →
    use.dropped = false
  begun : ∀ number entry, traffic.cache.numbered? number = some entry → entry.stage ≠ .idle →
    ∃ load use, traffic.Kept load use ∧ use.entry = number
  once : ∀ load other use another, traffic.Kept load use → traffic.Kept other another →
    use.entry = another.entry → load = other

theorem start_sound (config : CacheConfig) (began : Fin Moment.limit) :
    Sound (start config began) where
  inUse _ _ found := by simp [start] at found
  visited _ _ present := by simp [start, visit?] at present
  loading _ _ _ present := by simp [start, visit?] at present
  gone _ _ _ present := by simp [start, visit?] at present
  loader _ _ present := by simp [start, load?] at present
  outcome _ _ kept := by simp [Kept, start, load?] at kept
  lost _ _ _ present := by simp [start, load?] at present
  begun _ _ present := by simp [start, SessionCache.numbered?] at present
  once _ _ _ _ kept := by simp [Kept, start, load?] at kept

theorem Sound.kept_of_ended (sound : Sound traffic) {loaded : Loaded}
    (present : traffic.load? load = some use) (ended : use.ended = some loaded) :
    traffic.Kept load use :=
  ⟨present, sound.lost load use loaded present ended⟩

/-- Nothing but the entries in use is lost where entries go out of use. -/
theorem Sound.narrow (sound : Sound traffic) (cache : SessionCache)
    (made : cache.made = traffic.cache.made) (within : cache.Within traffic.cache)
    (now : Moment) : Sound { traffic with cache, now } := by
  have same (number : Nat) : cache.numbered? number = traffic.cache.numbered? number := by
    rw [SessionCache.numbered?, made, SessionCache.numbered?]
  constructor
  case inUse =>
    intro user number found
    rw [same]
    exact sound.inUse user number (within user number found)
  case visited =>
    intro number visit present
    rw [same]
    exact sound.visited number visit present
  case loading =>
    exact sound.loading
  case gone =>
    intro number visit result present left
    have kept := sound.gone number visit result present left
    rw [SessionCache.result?_eq_some_iff] at kept ⊢
    simpa only [same] using kept
  case loader =>
    exact sound.loader
  case outcome =>
    intro load use kept
    rw [same]
    exact sound.outcome load use kept
  case lost =>
    exact sound.lost
  case begun =>
    intro number entry present
    rw [same] at present
    exact sound.begun number entry present
  case once =>
    exact sound.once

theorem Sound.lookup_user (sound : Sound traffic) (user : String) (rank : String → Nat) :
    ∃ entry, (traffic.look user rank).cache.numbered? (traffic.found user) = some entry ∧
      entry.user = user := by
  cases usable : traffic.cache.usable? user traffic.now with
  | some number =>
    obtain ⟨found, -⟩ := SessionCache.usable?_eq_some_iff.1 usable
    obtain ⟨entry, present, owner⟩ := sound.inUse user number found
    rw [found_of_usable usable]
    exact ⟨entry, SessionCache.numbered?_lookup_of_some present, owner⟩
  | none =>
    refine ⟨{ user, created := traffic.now }, ?_, rfl⟩
    rw [found_of_not_usable usable]
    simp [Traffic.look, SessionCache.lookup_of_not_usable usable, SessionCache.numbered?,
      SessionCache.add]

theorem Sound.look (sound : Sound traffic) (user : String) (rank : String → Nat) :
    Sound (traffic.look user rank) := by
  have kept {number : Nat} {entry : CacheEntry}
      (present : traffic.cache.numbered? number = some entry) :
      (traffic.look user rank).cache.numbered? number = some entry :=
    SessionCache.numbered?_lookup_of_some present
  constructor
  case inUse =>
    intro other number found
    rcases SessionCache.find?_lookup found with ⟨rfl, rfl⟩ | before
    · rw [lookup_found]
      exact sound.lookup_user other rank
    · obtain ⟨entry, present, owner⟩ := sound.inUse other number before
      exact ⟨entry, kept present, owner⟩
  case visited =>
    intro number visit present
    rcases visit?_look.1 present with before | ⟨-, rfl⟩
    · obtain ⟨entry, entryPresent, owner⟩ := sound.visited number visit before
      exact ⟨entry, kept entryPresent, owner⟩
    · exact sound.lookup_user user rank
  case loading =>
    intro number visit load present loads
    rcases visit?_look.1 present with before | ⟨-, rfl⟩
    · exact sound.loading number visit load before loads
    · cases loads
  case gone =>
    intro number visit result present left
    rcases visit?_look.1 present with before | ⟨-, rfl⟩
    · have ready := sound.gone number visit result before left
      rw [SessionCache.result?_eq_some_iff] at ready ⊢
      obtain ⟨entry, loaded, entryPresent, stage, same⟩ := ready
      exact ⟨entry, loaded, kept entryPresent, stage, same⟩
    · cases left
  case loader =>
    intro load use present
    obtain ⟨visit, visitPresent, rest⟩ := sound.loader load use present
    exact ⟨visit, visit?_look.2 (.inl visitPresent), rest⟩
  case outcome =>
    intro load use isKept
    obtain ⟨entry, entryPresent, rest⟩ := sound.outcome load use isKept
    exact ⟨entry, kept entryPresent, rest⟩
  case lost =>
    exact sound.lost
  case begun =>
    intro number entry present started
    rcases SessionCache.numbered?_lookup present with before | ⟨-, rfl⟩
    · exact sound.begun number entry before started
    · exact absurd rfl started
  case once =>
    exact sound.once

theorem Sound.not_begun (sound : Sound traffic) (idle : traffic.cache.isIdle number = true)
    (kept : traffic.Kept load use) : use.entry ≠ number := by
  rintro rfl
  obtain ⟨entry, entryPresent, stage⟩ := sound.outcome load use kept
  obtain ⟨other, otherPresent, otherIdle⟩ := SessionCache.isIdle_eq_true_iff.1 idle
  have same := Option.some.inj (entryPresent.symm.trans otherPresent)
  subst same
  rw [otherIdle] at stage
  cases ended : use.ended <;> simp [ended] at stage

theorem kept_startLoad :
    (traffic.startLoad number visit).Kept load use ↔
      traffic.Kept load use ∨
        load = traffic.loads.length ∧
          use = { entry := visit.entry, user := visit.user, visit := number } := by
  rw [Kept, load?_startLoad, Kept]
  constructor
  · rintro ⟨before | new, kept⟩
    · exact .inl ⟨before, kept⟩
    · exact .inr new
  · rintro (before | ⟨place, rfl⟩)
    · exact ⟨.inl before.1, before.2⟩
    · exact ⟨.inr ⟨place, rfl⟩, rfl⟩

theorem kept_endLoad {other : Nat} :
    (traffic.endLoad number visit load result).Kept other use ↔
      ∃ before, traffic.Kept other before ∧
        use = if load = other then
          { before with ended := some { result, moment := traffic.now } } else before := by
  rw [Kept, load?_endLoad]
  split
  · constructor
    · rintro ⟨present, kept⟩
      obtain ⟨before, beforePresent, rfl⟩ := Option.map_eq_some_iff.1 present
      exact ⟨before, ⟨beforePresent, kept⟩, rfl⟩
    · rintro ⟨before, ⟨present, kept⟩, rfl⟩
      exact ⟨by rw [present]; rfl, kept⟩
  · constructor
    · intro kept
      exact ⟨use, kept, rfl⟩
    · rintro ⟨before, kept, rfl⟩
      exact kept

theorem kept_abandonLoad {other : Nat} :
    (traffic.abandonLoad number visit load).Kept other use ↔
      traffic.Kept other use ∧ load ≠ other := by
  rw [Kept, load?_abandonLoad, Kept]
  split
  · rename_i same
    constructor
    · rintro ⟨present, kept⟩
      obtain ⟨before, -, rfl⟩ := Option.map_eq_some_iff.1 present
      cases kept
    · rintro ⟨-, different⟩
      exact absurd same different
  · rename_i different
    exact ⟨fun kept => ⟨kept, different⟩, fun kept => kept.1⟩

/-! Entries keep their owners, whatever becomes of their stages and of the visits to them. -/

theorem Sound.inUse_setStage (sound : Sound traffic) {place : Nat} {stage : LoadStage}
    {user : String} (found : traffic.cache.current.find? user = some number) :
    ∃ entry, (traffic.cache.setStage place stage).numbered? number = some entry ∧
      entry.user = user := by
  obtain ⟨entry, entryPresent, owner⟩ := sound.inUse user number found
  obtain ⟨after, afterPresent, same⟩ := SessionCache.owner_setStage entryPresent
  exact ⟨after, afterPresent, same.trans owner⟩

theorem Sound.visited_set (sound : Sound traffic) (present : traffic.visit? number = some visit)
    {stage : VisitStage} {other : Nat} {another : Visit}
    (otherPresent : (traffic.visits.set number { visit with stage })[other]? = some another) :
    ∃ entry, traffic.cache.numbered? another.entry = some entry ∧ entry.user = another.user := by
  obtain ⟨before, beforePresent, same⟩ := visit_of_set present otherPresent rfl
  obtain ⟨entry, entryPresent, owner⟩ := sound.visited other before beforePresent
  rw [show another.entry = before.entry from congrArg Caller.entry same,
    show another.user = before.user from congrArg Caller.user same]
  exact ⟨entry, entryPresent, owner⟩

theorem Sound.visited_setStage (sound : Sound traffic)
    (present : traffic.visit? number = some visit) {visitStage : VisitStage} {place other : Nat}
    {another : Visit} {stage : LoadStage}
    (otherPresent :
      (traffic.visits.set number { visit with stage := visitStage })[other]? = some another) :
    ∃ entry, (traffic.cache.setStage place stage).numbered? another.entry = some entry ∧
      entry.user = another.user := by
  obtain ⟨entry, entryPresent, owner⟩ := sound.visited_set present otherPresent
  obtain ⟨after, afterPresent, same⟩ := SessionCache.owner_setStage entryPresent
  exact ⟨after, afterPresent, same.trans owner⟩

/-- Two callers use the loader under different numbers. -/
theorem Sound.loading_set (sound : Sound traffic) (present : traffic.visit? number = some visit)
    (loads : visit.stage = .loading load) {stage : VisitStage}
    (idles : ∀ load, stage ≠ .loading load) {other otherLoad : Nat} {another : Visit}
    (otherPresent : (traffic.visits.set number { visit with stage })[other]? = some another)
    (otherLoads : another.stage = .loading otherLoad) :
    load ≠ otherLoad ∧ traffic.load? otherLoad =
      some { entry := another.entry, user := another.user, visit := other } := by
  replace otherPresent := (visit?_set present).symm.trans otherPresent
  split at otherPresent
  · cases otherPresent
    exact absurd otherLoads (idles otherLoad)
  · rename_i different
    have running := sound.loading other another otherLoad otherPresent otherLoads
    refine ⟨fun same => ?_, running⟩
    subst same
    have own := sound.loading number visit load present loads
    exact different (congrArg LoaderUse.visit (Option.some.inj (own.symm.trans running)))

/-- An entry changes its stage before it is loaded only, so those who have gone keep their
results. -/
theorem Sound.gone_setStage (sound : Sound traffic)
    (present : traffic.visit? number = some visit) {own : CacheEntry}
    (ownPresent : traffic.cache.numbered? visit.entry = some own)
    (unloaded : ∀ loaded, own.stage ≠ .loaded loaded) {visitStage : VisitStage}
    (remains : ∀ result, visitStage ≠ .gone result) {stage : LoadStage} {other : Nat}
    {another : Visit}
    (otherPresent :
      (traffic.visits.set number { visit with stage := visitStage })[other]? = some another)
    (left : another.stage = .gone result) :
    (traffic.cache.setStage visit.entry stage).result? another.entry = some result := by
  replace otherPresent := (visit?_set present).symm.trans otherPresent
  split at otherPresent
  · cases otherPresent
    exact absurd left (remains result)
  · exact SessionCache.result?_setStage_of_some ownPresent unloaded
      (sound.gone other another result otherPresent left)

/-- A use of the loader belongs to its caller as before, if it is not the one that changes. -/
theorem Sound.loader_set (sound : Sound traffic) (present : traffic.visit? number = some visit)
    (stage : VisitStage) {other : Nat} (usePresent : traffic.load? other = some use)
    (apart : visit.stage ≠ .loading other) :
    ∃ another, (traffic.visits.set number { visit with stage })[use.visit]? = some another ∧
      another.entry = use.entry ∧ another.user = use.user ∧
        (use.ended = none → use.dropped = false → another.stage = .loading other) := by
  obtain ⟨another, otherPresent, sameEntry, sameUser, running⟩ := sound.loader other use usePresent
  have after := @visit?_set traffic number use.visit visit { visit with stage } present
  by_cases same : number = use.visit
  · rw [if_pos same] at after
    subst same
    cases present.symm.trans otherPresent
    exact ⟨_, after, sameEntry, sameUser, fun ended kept => absurd (running ended kept) apart⟩
  · rw [if_neg same] at after
    exact ⟨another, after.trans otherPresent, sameEntry, sameUser, running⟩

theorem Sound.startLoad (sound : Sound traffic) (present : traffic.visit? number = some visit)
    (waits : visit.stage = .waiting) (idle : traffic.cache.isIdle visit.entry = true) :
    Sound (traffic.startLoad number visit) := by
  have fresh {load : Nat} {use : LoaderUse} (kept : traffic.Kept load use) :
      use.entry ≠ visit.entry := sound.not_begun idle kept
  obtain ⟨own, ownPresent, ownIdle⟩ := SessionCache.isIdle_eq_true_iff.1 idle
  have after {place : Nat} {entry : CacheEntry}
      (entryPresent : traffic.cache.numbered? place = some entry) :
      (traffic.startLoad number visit).cache.numbered? place =
        some (if visit.entry = place then { entry with stage := .loading } else entry) :=
    SessionCache.numbered?_setStage_of_some entryPresent
  constructor
  case inUse =>
    intro user place found
    exact sound.inUse_setStage found
  case visited =>
    intro other another otherPresent
    exact sound.visited_setStage present otherPresent
  case loading =>
    intro other another load otherPresent loads
    rw [visit?_startLoad present] at otherPresent
    split at otherPresent
    · rename_i same
      cases otherPresent
      cases loads
      exact load?_startLoad.2 (.inr ⟨rfl, by rw [same]⟩)
    · exact load?_startLoad.2 (.inl (sound.loading other another load otherPresent loads))
  case gone =>
    intro other another result otherPresent left
    exact sound.gone_setStage present ownPresent (by simp [ownIdle]) (by simp) otherPresent left
  case loader =>
    intro load use usePresent
    rcases load?_startLoad.1 usePresent with before | ⟨rfl, rfl⟩
    · exact sound.loader_set present _ before (by simp [waits])
    · exact ⟨_, (visit?_startLoad present).trans (if_pos rfl), rfl, rfl, fun _ _ => rfl⟩
  case outcome =>
    intro load use kept
    rcases kept_startLoad.1 kept with before | ⟨rfl, rfl⟩
    · obtain ⟨entry, entryPresent, stage⟩ := sound.outcome load use before
      refine ⟨_, after entryPresent, ?_⟩
      rw [if_neg (fresh before).symm]
      exact stage
    · refine ⟨_, after ownPresent, ?_⟩
      rw [if_pos rfl]
      rfl
  case lost =>
    intro load use loaded usePresent ended
    rcases load?_startLoad.1 usePresent with before | ⟨rfl, rfl⟩
    · exact sound.lost load use loaded before ended
    · rfl
  case begun =>
    intro place entry entryPresent started
    by_cases same : visit.entry = place
    · exact ⟨traffic.loads.length, _, kept_startLoad.2 (.inr ⟨rfl, rfl⟩), same⟩
    · simp only [Traffic.startLoad, SessionCache.startLoad, SessionCache.numbered?_setStage,
        if_neg same] at entryPresent
      obtain ⟨load, use, kept, own⟩ := sound.begun place entry entryPresent started
      exact ⟨load, use, kept_startLoad.2 (.inl kept), own⟩
  case once =>
    intro load other use another kept otherKept same
    rcases kept_startLoad.1 kept with before | ⟨rfl, rfl⟩
    · rcases kept_startLoad.1 otherKept with otherBefore | ⟨rfl, rfl⟩
      · exact sound.once load other use another before otherBefore same
      · exact absurd same (fresh before)
    · rcases kept_startLoad.1 otherKept with otherBefore | ⟨rfl, rfl⟩
      · exact absurd same.symm (fresh otherBefore)
      · rfl

theorem Sound.endLoad (sound : Sound traffic) (present : traffic.visit? number = some visit)
    (loads : visit.stage = .loading load) (result : Except JmapError Session) :
    Sound (traffic.endLoad number visit load result) := by
  have running := sound.loading number visit load present loads
  obtain ⟨own, ownPresent, ownLoading⟩ := sound.outcome load _ ⟨running, rfl⟩
  have after {place : Nat} {entry : CacheEntry}
      (entryPresent : traffic.cache.numbered? place = some entry) :
      (traffic.endLoad number visit load result).cache.numbered? place =
        some (if visit.entry = place then
          { entry with stage := .loaded { result, moment := traffic.now } } else entry) :=
    SessionCache.numbered?_setStage_of_some entryPresent
  constructor
  case inUse =>
    intro user place found
    exact sound.inUse_setStage found
  case visited =>
    intro other another otherPresent
    exact sound.visited_setStage present otherPresent
  case loading =>
    intro other another otherLoad otherPresent otherLoads
    obtain ⟨apart, otherRunning⟩ :=
      sound.loading_set present loads (by simp) otherPresent otherLoads
    rw [load?_endLoad, if_neg apart]
    exact otherRunning
  case gone =>
    intro other another otherResult otherPresent left
    exact sound.gone_setStage present ownPresent (by simp [ownLoading]) (by simp) otherPresent
      left
  case loader =>
    intro other use usePresent
    rw [load?_endLoad] at usePresent
    split at usePresent
    · rename_i same
      subst same
      rw [running] at usePresent
      cases usePresent
      exact ⟨_, (visit?_endLoad present).trans (if_pos rfl), rfl, rfl,
        fun ended => by cases ended⟩
    · rename_i different
      exact sound.loader_set present _ usePresent (by simpa [loads] using different)
  case outcome =>
    intro other use kept
    obtain ⟨before, beforeKept, rfl⟩ := kept_endLoad.1 kept
    split
    · rename_i same
      subst same
      cases running.symm.trans beforeKept.1
      refine ⟨_, after ownPresent, ?_⟩
      rw [if_pos rfl]
      rfl
    · rename_i different
      obtain ⟨entry, entryPresent, stage⟩ := sound.outcome other before beforeKept
      refine ⟨_, after entryPresent, ?_⟩
      rw [if_neg]
      · exact stage
      · intro same
        exact different (sound.once load other _ before ⟨running, rfl⟩ beforeKept same)
  case lost =>
    intro other use loaded usePresent ended
    rw [load?_endLoad] at usePresent
    split at usePresent
    · rename_i same
      subst same
      rw [running] at usePresent
      cases usePresent
      rfl
    · exact sound.lost other use loaded usePresent ended
  case begun =>
    intro place entry entryPresent started
    by_cases same : visit.entry = place
    · exact ⟨load, _, kept_endLoad.2 ⟨_, ⟨running, rfl⟩, rfl⟩, by rw [if_pos rfl]; exact same⟩
    · simp only [Traffic.endLoad, SessionCache.endLoad, SessionCache.numbered?_setStage,
        if_neg same] at entryPresent
      obtain ⟨other, use, kept, own⟩ := sound.begun place entry entryPresent started
      exact ⟨other, _, kept_endLoad.2 ⟨use, kept, rfl⟩, by split <;> exact own⟩
  case once =>
    intro first second use another kept otherKept same
    obtain ⟨before, beforeKept, rfl⟩ := kept_endLoad.1 kept
    obtain ⟨otherBefore, otherBeforeKept, rfl⟩ := kept_endLoad.1 otherKept
    refine sound.once first second before otherBefore beforeKept otherBeforeKept ?_
    have entry (place : Nat) (use : LoaderUse) :
        (if load = place then { use with ended := some { result, moment := traffic.now } }
          else use).entry = use.entry := by split <;> rfl
    rwa [entry, entry] at same

theorem Sound.abandonLoad (sound : Sound traffic) (present : traffic.visit? number = some visit)
    (loads : visit.stage = .loading load) : Sound (traffic.abandonLoad number visit load) := by
  have running := sound.loading number visit load present loads
  obtain ⟨own, ownPresent, ownLoading⟩ := sound.outcome load _ ⟨running, rfl⟩
  have after {place : Nat} {entry : CacheEntry}
      (entryPresent : traffic.cache.numbered? place = some entry) :
      (traffic.abandonLoad number visit load).cache.numbered? place =
        some (if visit.entry = place then { entry with stage := .idle } else entry) :=
    SessionCache.numbered?_setStage_of_some entryPresent
  constructor
  case inUse =>
    intro user place found
    exact sound.inUse_setStage found
  case visited =>
    intro other another otherPresent
    exact sound.visited_setStage present otherPresent
  case loading =>
    intro other another otherLoad otherPresent otherLoads
    obtain ⟨apart, otherRunning⟩ :=
      sound.loading_set present loads (by simp) otherPresent otherLoads
    rw [load?_abandonLoad, if_neg apart]
    exact otherRunning
  case gone =>
    intro other another otherResult otherPresent left
    exact sound.gone_setStage present ownPresent (by simp [ownLoading]) (by simp) otherPresent
      left
  case loader =>
    intro other use usePresent
    rw [load?_abandonLoad] at usePresent
    split at usePresent
    · rename_i same
      subst same
      rw [running] at usePresent
      cases usePresent
      exact ⟨_, (visit?_abandonLoad present).trans (if_pos rfl), rfl, rfl,
        fun _ kept => by cases kept⟩
    · rename_i different
      exact sound.loader_set present _ usePresent (by simpa [loads] using different)
  case outcome =>
    intro other use kept
    obtain ⟨beforeKept, different⟩ := kept_abandonLoad.1 kept
    obtain ⟨entry, entryPresent, stage⟩ := sound.outcome other use beforeKept
    refine ⟨_, after entryPresent, ?_⟩
    rw [if_neg]
    · exact stage
    · intro same
      exact different (sound.once load other _ use ⟨running, rfl⟩ beforeKept same)
  case lost =>
    intro other use loaded usePresent ended
    rw [load?_abandonLoad] at usePresent
    split at usePresent
    · rename_i same
      subst same
      rw [running] at usePresent
      cases usePresent
      cases ended
    · exact sound.lost other use loaded usePresent ended
  case begun =>
    intro place entry entryPresent started
    have before := entryPresent
    simp only [Traffic.abandonLoad, SessionCache.abandonLoad, SessionCache.numbered?_setStage]
      at before
    split at before
    · obtain ⟨another, -, rfl⟩ := Option.map_eq_some_iff.1 before
      exact absurd rfl started
    · rename_i apart
      obtain ⟨other, use, kept, rfl⟩ := sound.begun place entry before started
      refine ⟨other, use, kept_abandonLoad.2 ⟨kept, ?_⟩, rfl⟩
      rintro rfl
      cases running.symm.trans kept.1
      exact apart rfl
  case once =>
    intro first second use another kept otherKept
    exact sound.once first second use another (kept_abandonLoad.1 kept).1
      (kept_abandonLoad.1 otherKept).1

/-- A visit that waits may be over: with the result of its entry, or without. -/
theorem Sound.part (sound : Sound traffic) (present : traffic.visit? number = some visit)
    (waits : visit.stage = .waiting) {stage : VisitStage}
    (idles : ∀ load, stage ≠ .loading load)
    (told : ∀ result, stage = .gone result →
      traffic.cache.result? visit.entry = some result) :
    Sound { traffic with visits := traffic.visits.set number { visit with stage } } := by
  constructor
  case inUse =>
    exact sound.inUse
  case visited =>
    intro other another otherPresent
    exact sound.visited_set present otherPresent
  case loading =>
    intro other another load otherPresent loads
    rw [visit?_set present] at otherPresent
    split at otherPresent
    · cases otherPresent
      exact absurd loads (idles load)
    · exact sound.loading other another load otherPresent loads
  case gone =>
    intro other another otherResult otherPresent left
    rw [visit?_set present] at otherPresent
    split at otherPresent
    · cases otherPresent
      exact told otherResult left
    · exact sound.gone other another otherResult otherPresent left
  case loader =>
    intro load use usePresent
    exact sound.loader_set present stage usePresent (by simp [waits])
  case outcome =>
    exact sound.outcome
  case lost =>
    exact sound.lost
  case begun =>
    exact sound.begun
  case once =>
    exact sound.once

theorem Sound.drop (sound : Sound traffic) (present : traffic.visit? number = some visit)
    (waits : visit.stage = .waiting) : Sound (traffic.drop number visit) := by
  apply sound.part present waits
  · intro load same
    cases same
  · intro result same
    cases same

theorem Sound.leave (sound : Sound traffic) (present : traffic.visit? number = some visit)
    (waits : visit.stage = .waiting)
    (loaded : traffic.cache.result? visit.entry = some result) :
    Sound (traffic.leave number visit result) := by
  have narrowed := sound.narrow (traffic.cache.leave visit.user visit.entry)
    SessionCache.leave_made SessionCache.leave_within traffic.now
  refine narrowed.part present waits nofun (fun other left => ?_)
  cases left
  rw [SessionCache.result?_leave]
  exact loaded

theorem Sound.step (sound : Sound traffic) (step : Step traffic event next) : Sound next := by
  cases step with
  | look user rank => exact sound.look user rank
  | startLoad present waits idle => exact sound.startLoad present waits idle
  | endLoad present loads result => exact sound.endLoad present loads result
  | leave present waits loaded => exact sound.leave present waits loaded
  | drop present waits => exact sound.drop present waits
  | abandonLoad present loads => exact sound.abandonLoad present loads
  | invalidate user =>
    exact sound.narrow _ SessionCache.invalidate_made SessionCache.invalidate_within _
  | outdated event =>
    exact sound.narrow _ SessionCache.invalidate_made SessionCache.invalidate_within _
  | reap => exact sound.narrow _ SessionCache.reap_made SessionCache.reap_within _
  | advance wait inRange => exact sound.narrow _ rfl (fun _ _ found => found) _

theorem Sound.run (sound : Sound traffic) (run : Run traffic events last) : Sound last :=
  run.keeps (fun _ _ _ holds step => Sound.step holds step) sound

structure Timely (traffic : Traffic) : Prop where
  inRange : traffic.now < Moment.limit
  past : ∀ number entry loaded, traffic.cache.numbered? number = some entry →
    entry.stage = .loaded loaded → loaded.moment ≤ traffic.now

theorem start_timely (config : CacheConfig) (began : Fin Moment.limit) :
    Timely (start config began) where
  inRange := began.isLt
  past _ _ _ present := by simp [start, SessionCache.numbered?] at present

theorem Timely.narrow (timely : Timely traffic) {other : Traffic}
    (made : other.cache.made = traffic.cache.made) (later : traffic.now ≤ other.now)
    (inRange : other.now < Moment.limit) : Timely other where
  inRange := inRange
  past number entry loaded present ended := by
    rw [SessionCache.numbered?, made] at present
    exact Nat.le_trans (timely.past number entry loaded present ended) later

theorem Timely.setStage (timely : Timely traffic) {place number : Nat} {stage : LoadStage}
    {entry : CacheEntry} {loaded : Loaded}
    (inTime : ∀ loaded, stage = .loaded loaded → loaded.moment ≤ traffic.now)
    (present : (traffic.cache.setStage place stage).numbered? number = some entry)
    (ended : entry.stage = .loaded loaded) : loaded.moment ≤ traffic.now := by
  rcases SessionCache.stage_or_of_setStage present with same | before
  · exact inTime loaded (same.symm.trans ended)
  · exact timely.past number entry loaded before ended

theorem Timely.step (timely : Timely traffic) (step : Step traffic event next) :
    Timely next := by
  cases step with
  | look user rank =>
    refine ⟨timely.inRange, fun number entry loaded present ended => ?_⟩
    rcases SessionCache.numbered?_lookup present with before | ⟨-, rfl⟩
    · exact timely.past number entry loaded before ended
    · cases ended
  | startLoad starter waits idle =>
    exact ⟨timely.inRange, fun _ _ _ => timely.setStage (fun _ same => by cases same)⟩
  | endLoad ender loads result =>
    refine ⟨timely.inRange, fun _ _ _ => timely.setStage (fun loaded same => ?_)⟩
    cases same
    exact Nat.le_refl _
  | leave leaver waits loaded =>
    exact timely.narrow SessionCache.leave_made (Nat.le_refl _) timely.inRange
  | drop dropped waits => exact timely.narrow rfl (Nat.le_refl _) timely.inRange
  | abandonLoad dropped loads =>
    exact ⟨timely.inRange, fun _ _ _ => timely.setStage (fun _ same => by cases same)⟩
  | invalidate user => exact timely.narrow rfl (Nat.le_refl _) timely.inRange
  | outdated event => exact timely.narrow rfl (Nat.le_refl _) timely.inRange
  | reap => exact timely.narrow rfl (Nat.le_refl _) timely.inRange
  | advance wait inRange => exact timely.narrow rfl (Nat.le_add_right _ _) inRange

theorem Timely.run (timely : Timely traffic) (run : Run traffic events last) : Timely last :=
  run.keeps (fun _ _ _ holds step => Timely.step holds step) timely

end Traffic

end Jmap
