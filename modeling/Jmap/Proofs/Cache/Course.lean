import Jmap.Proofs.Cache.SingleFlight

/-!
What lasts through a run. Entries and loads are only added, an entry that has been
loaded stays as it is, and a caller that has gone has the result of one load.
-/

namespace Jmap

namespace Traffic

variable {traffic next last : Traffic} {event : CacheEvent} {events : List CacheEvent}
  {number load place : Nat} {user : String} {rank : String → Nat} {visit : Visit}
  {use : LoaderUse}
  {entry : CacheEntry} {loaded : Loaded}

theorem Step.made_le (step : Step traffic event next) :
    traffic.cache.made.length ≤ next.cache.made.length := by
  cases step with
  | look user rank =>
    rcases SessionCache.lookup_made traffic.cache user traffic.now rank with same | ⟨-, added⟩
    · exact Nat.le_of_eq (congrArg List.length same.symm)
    · simp [Traffic.look, added]
  | startLoad starter waits idle =>
    simp [Traffic.startLoad, SessionCache.startLoad, SessionCache.setStage]
  | endLoad ender loads result =>
    simp [Traffic.endLoad, SessionCache.endLoad, SessionCache.setStage]
  | leave leaver waits loaded => simp [Traffic.leave]
  | drop dropped waits => exact Nat.le_refl _
  | abandonLoad dropped loads =>
    simp [Traffic.abandonLoad, SessionCache.abandonLoad, SessionCache.setStage]
  | invalidate user => exact Nat.le_refl _
  | outdated event => exact Nat.le_refl _
  | reap => exact Nat.le_refl _
  | advance wait inRange => exact Nat.le_refl _

theorem Run.made_le (run : Run traffic events last) :
    traffic.cache.made.length ≤ last.cache.made.length := by
  induction run with
  | nil traffic => exact Nat.le_refl _
  | cons _ step _ ih => exact Nat.le_trans step.made_le ih

theorem Step.config (step : Step traffic event next) :
    next.cache.config = traffic.cache.config := by
  cases step with
  | look user rank => exact SessionCache.lookup_config
  | startLoad starter waits idle => rfl
  | endLoad ender loads result => rfl
  | leave leaver waits loaded => exact SessionCache.leave_config
  | drop dropped waits => rfl
  | abandonLoad dropped loads => rfl
  | invalidate user => rfl
  | outdated event => rfl
  | reap => rfl
  | advance wait inRange => rfl

theorem Run.config (run : Run traffic events last) :
    last.cache.config = traffic.cache.config := by
  induction run with
  | nil traffic => rfl
  | cons _ step _ ih => exact ih.trans step.config

theorem Step.find?_of_next (step : Step traffic event next)
    (found : next.cache.current.find? user = some number) :
    traffic.cache.current.find? user = some number ∨
      event = .look user ∧ number = traffic.cache.made.length := by
  cases step with
  | look other rank =>
    rcases SessionCache.find?_lookup found with ⟨rfl, rfl⟩ | before
    · rw [lookup_found]
      cases usable : traffic.cache.usable? user traffic.now with
      | some place =>
        rw [found_of_usable usable]
        exact .inl (SessionCache.usable?_eq_some_iff.1 usable).1
      | none =>
        rw [found_of_not_usable usable]
        exact .inr ⟨rfl, rfl⟩
    · exact .inl before
  | startLoad starter waits idle => exact .inl found
  | endLoad ender loads result => exact .inl found
  | leave leaver waits loaded => exact .inl (SessionCache.leave_within user number found)
  | drop dropped waits => exact .inl found
  | abandonLoad dropped loads => exact .inl found
  | invalidate other => exact .inl (SessionCache.invalidate_within user number found)
  | outdated event => exact .inl (SessionCache.invalidate_within user number found)
  | reap => exact .inl (SessionCache.reap_within user number found)
  | advance wait inRange => exact .inl found

theorem look_of_usable (usable : traffic.cache.usable? user traffic.now = some number) :
    traffic.look user rank =
      { traffic with
        visits := traffic.visits ++ [{ user, entry := number, since := traffic.now }] } := by
  simp only [look, SessionCache.lookup_of_usable usable]

/-! Loads keep their numbers, and whom they are for; only their ends are added. -/

theorem load?_look : (traffic.look user rank).load? load = traffic.load? load := rfl

theorem load?_leave {result : Except JmapError Session} :
    (traffic.leave number visit result).load? load = traffic.load? load := rfl

theorem Step.keeps_load (step : Step traffic event next)
    (present : traffic.load? load = some use) :
    ∃ ended dropped, next.load? load = some { use with ended, dropped } := by
  cases step with
  | startLoad starter waits idle => exact ⟨_, _, load?_startLoad.2 (.inl present)⟩
  | endLoad ender loads result =>
    rw [load?_endLoad, present]
    split
    · exact ⟨_, _, rfl⟩
    · exact ⟨_, _, rfl⟩
  | abandonLoad drops loads =>
    rw [load?_abandonLoad, present]
    split
    · exact ⟨_, _, rfl⟩
    · exact ⟨_, _, rfl⟩
  | look user rank => exact ⟨_, _, present⟩
  | leave leaver waits loaded => exact ⟨_, _, present⟩
  | drop drops waits => exact ⟨_, _, present⟩
  | invalidate user => exact ⟨_, _, present⟩
  | outdated event => exact ⟨_, _, present⟩
  | reap => exact ⟨_, _, present⟩
  | advance wait inRange => exact ⟨_, _, present⟩

theorem Run.keeps_load (run : Run traffic events last) (present : traffic.load? load = some use) :
    ∃ ended dropped, last.load? load = some { use with ended, dropped } := by
  induction run generalizing use with
  | nil traffic => exact ⟨_, _, present⟩
  | cons _ step _ ih =>
    obtain ⟨_, _, middlePresent⟩ := step.keeps_load present
    obtain ⟨ended, dropped, lastPresent⟩ := ih middlePresent
    exact ⟨ended, dropped, lastPresent⟩

theorem Run.loads_le (run : Run traffic events last) :
    traffic.loads.length ≤ last.loads.length := by
  refine Nat.le_of_not_lt (fun shorter => ?_)
  obtain ⟨ended, dropped, present⟩ := run.keeps_load (List.getElem?_eq_getElem shorter)
  exact Nat.lt_irrefl _ (List.getElem?_eq_some_iff.1 present).1

theorem Sound.entry_of_load (sound : Sound traffic) (present : traffic.load? load = some use) :
    ∃ entry, traffic.cache.numbered? use.entry = some entry ∧ entry.user = use.user := by
  obtain ⟨loader, loaderPresent, sameEntry, sameUser, -⟩ := sound.loader load use present
  rw [← sameEntry, ← sameUser]
  exact sound.visited use.visit loader loaderPresent

theorem Sound.entry_lt_of_load (sound : Sound traffic) (run : Run traffic events last)
    (early : load < traffic.loads.length) (present : last.load? load = some use) :
    use.entry < traffic.cache.made.length := by
  have begun : traffic.load? load = some traffic.loads[load] := List.getElem?_eq_getElem early
  obtain ⟨ended, dropped, lastPresent⟩ := run.keeps_load begun
  cases present.symm.trans lastPresent
  obtain ⟨entry, entryPresent, -⟩ := sound.entry_of_load begun
  exact (List.getElem?_eq_some_iff.1 entryPresent).1

theorem Sound.owner_of_load (sound : Sound traffic) (present : traffic.load? load = some use)
    (entryPresent : traffic.cache.numbered? use.entry = some entry) :
    entry.user = use.user := by
  obtain ⟨other, otherPresent, owner⟩ := sound.entry_of_load present
  cases entryPresent.symm.trans otherPresent
  exact owner

/-! An entry that has been loaded stays as it is: it is neither idle nor loading, and
only such entries are loaded or left to the next. -/

theorem Sound.stage_of_loading (sound : Sound traffic)
    (present : traffic.visit? number = some visit) (loads : visit.stage = .loading load) :
    ∃ own, traffic.cache.numbered? visit.entry = some own ∧ own.stage = .loading :=
  sound.outcome load _ ⟨sound.loading number visit load present loads, rfl⟩

theorem Sound.keeps_loaded_step (sound : Sound traffic) (step : Step traffic event next)
    (present : traffic.cache.numbered? number = some entry)
    (ended : entry.stage = .loaded loaded) :
    next.cache.numbered? number = some entry := by
  cases step with
  | look user rank => exact SessionCache.numbered?_lookup_of_some present
  | @startLoad starter visit starts waits idle =>
    obtain ⟨own, ownPresent, ownIdle⟩ := SessionCache.isIdle_eq_true_iff.1 idle
    exact SessionCache.numbered?_setStage_of_loaded ownPresent (by simp [ownIdle]) present ended
  | endLoad ends loads result =>
    obtain ⟨own, ownPresent, ownLoading⟩ := sound.stage_of_loading ends loads
    exact SessionCache.numbered?_setStage_of_loaded ownPresent (by simp [ownLoading]) present ended
  | abandonLoad drops loads =>
    obtain ⟨own, ownPresent, ownLoading⟩ := sound.stage_of_loading drops loads
    exact SessionCache.numbered?_setStage_of_loaded ownPresent (by simp [ownLoading]) present ended
  | leave leaver waits loaded =>
    simpa [Traffic.leave, SessionCache.numbered?] using present
  | drop drops waits => exact present
  | invalidate user => exact present
  | outdated event => exact present
  | reap => exact present
  | advance wait inRange => exact present

theorem Sound.keeps_loaded (sound : Sound traffic) (run : Run traffic events last)
    (present : traffic.cache.numbered? number = some entry)
    (ended : entry.stage = .loaded loaded) :
    last.cache.numbered? number = some entry := by
  induction run with
  | nil traffic => exact present
  | cons _ step _ ih => exact ih (sound.step step) (sound.keeps_loaded_step step present ended)

/-! Callers, and the loads whose results they have gone with. -/

theorem Run.visits_le (run : Run traffic events last) :
    traffic.visits.length ≤ last.visits.length := by
  refine Nat.le_of_not_lt (fun shorter => ?_)
  obtain ⟨after, present, -⟩ := run.keeps_visit (List.getElem?_eq_getElem shorter)
  exact Nat.lt_irrefl _ (List.getElem?_eq_some_iff.1 present).1

theorem Run.visit_of_look (run : Run (traffic.look user rank) events last) :
    ∃ visit, last.visit? traffic.visits.length = some visit ∧ visit.user = user ∧
      visit.entry = traffic.found user := by
  obtain ⟨visit, present, before⟩ := run.keeps_visit (visit?_look.2 (.inr ⟨rfl, rfl⟩))
  exact ⟨visit, present, congrArg Caller.user before.same, congrArg Caller.entry before.same⟩

/-- A visit has left with what a load has ended with. -/
def LeftWith (traffic : Traffic) (number load : Nat) (loaded : Loaded) : Prop :=
  ∃ visit use, traffic.visit? number = some visit ∧ visit.stage = .gone loaded.result ∧
    traffic.load? load = some use ∧ use.entry = visit.entry ∧ use.user = visit.user ∧
    use.ended = some loaded

theorem Sound.exists_leftWith (sound : Sound traffic) {result : Except JmapError Session}
    (present : traffic.visit? number = some visit) (left : visit.stage = .gone result) :
    ∃ load moment, traffic.LeftWith number load { result, moment } := by
  obtain ⟨use, moment, listed, ended⟩ :=
    sound.load_of_result (sound.gone number visit result present left)
  have member : use ∈ traffic.loadsOf visit.entry := by rw [listed]; exact List.mem_cons_self
  obtain ⟨useMember, picked⟩ := List.mem_filter.1 member
  obtain ⟨load, loadPresent⟩ := List.mem_iff_getElem?.1 useMember
  obtain ⟨sameEntry, -⟩ : use.entry = visit.entry ∧ use.dropped = false := by simpa using picked
  refine ⟨load, moment, visit, use, present, left, loadPresent, sameEntry, ?_, ended⟩
  obtain ⟨made, madePresent, owner⟩ := sound.visited number visit present
  rw [← sound.owner_of_load loadPresent (sameEntry.symm ▸ madePresent), owner]

end Traffic

end Jmap
