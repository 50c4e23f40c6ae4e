import Jmap.Proofs.Cache.Soundness
import Jmap.Proofs.Distinct

/-!
Callers that find the same entry share its load. They cause no other, and all of them
leave with its result, in whatever order they and others go on.
-/

namespace Jmap

namespace Traffic

variable {traffic next last : Traffic} {event : CacheEvent} {events : List CacheEvent}
  {number load place : Nat} {user : String} {rank : String → Nat} {visit : Visit}
  {use : LoaderUse} {result : Except JmapError Session}

/-- An entry is in use for a user and not yet loaded, or not expired. -/
def Serves (traffic : Traffic) (user : String) (number : Nat) : Prop :=
  traffic.cache.current.find? user = some number ∧
    ∀ entry loaded, traffic.cache.numbered? number = some entry → entry.stage = .loaded loaded →
      ∀ expiry, loaded.moment.after? (traffic.cache.lifetime loaded.result) = some expiry →
        traffic.now < expiry

theorem serves_iff :
    traffic.Serves user number ↔ traffic.cache.usable? user traffic.now = some number := by
  rw [SessionCache.usable?_eq_some_iff, Serves, ← Bool.not_eq_true, SessionCache.isOver_eq_true_iff]
  refine and_congr_right (fun _ => ⟨?_, ?_⟩)
  · intro lasts isOver
    obtain ⟨entry, present, expired⟩ := isOver
    obtain ⟨loaded, expiry, stage, ends, past⟩ := SessionCache.isExpired_eq_true_iff.1 expired
    exact Nat.not_lt.2 past (lasts entry loaded present stage expiry ends)
  · intro notOver entry loaded present stage expiry ends
    refine Nat.lt_of_not_le (fun past => notOver ⟨entry, present, ?_⟩)
    exact SessionCache.isExpired_eq_true_iff.2 ⟨loaded, expiry, stage, ends, past⟩

theorem Serves.found (serves : traffic.Serves user number) : traffic.found user = number :=
  found_of_usable (serves_iff.1 serves)

/-- A visit for a user and an entry that causes no load but the only one of that entry,
unless it is dropped while it loads, and leaves with nothing but the result of that load. -/
structure Shares (traffic : Traffic) (number : Nat) (user : String) (entry : Nat) : Prop where
  caller : ∃ visit, traffic.visit? number = some visit ∧ visit.user = user ∧ visit.entry = entry
  loads : ∀ use ∈ traffic.loads, use.visit = number → use.dropped = false →
    traffic.loadsOf entry = [use]
  result : ∀ visit result, traffic.visit? number = some visit → visit.stage = .gone result →
    ∃ use moment, traffic.loadsOf entry = [use] ∧ use.ended = some { result, moment }

theorem Sound.loadsOf_of_mem (sound : Sound traffic) (member : use ∈ traffic.loads)
    (kept : use.dropped = false) : traffic.loadsOf use.entry = [use] := by
  refine Distinct.filter_eq_of_unique member (by simp [kept])
    (fun load other first second present otherPresent picked otherPicked => ?_)
  simp only [Bool.and_eq_true, beq_iff_eq, Bool.not_eq_true'] at picked otherPicked
  exact sound.once load other first second ⟨present, picked.2⟩ ⟨otherPresent, otherPicked.2⟩
    (picked.1.trans otherPicked.1.symm)

theorem Sound.length_loadsOf (sound : Sound traffic) (entry : Nat) :
    (traffic.loadsOf entry).length ≤ 1 := by
  cases listed : traffic.loadsOf entry with
  | nil => exact Nat.zero_le 1
  | cons use rest =>
    have member : use ∈ traffic.loadsOf entry := by rw [listed]; exact List.mem_cons_self
    obtain ⟨present, picked⟩ := List.mem_filter.1 member
    obtain ⟨same, kept⟩ : use.entry = entry ∧ use.dropped = false := by simpa using picked
    have only := sound.loadsOf_of_mem present kept
    rw [same, listed] at only
    rw [only]
    exact Nat.le_refl 1

theorem Sound.load_of_result (sound : Sound traffic) {entry : Nat}
    (ready : traffic.cache.result? entry = some result) :
    ∃ use moment, traffic.loadsOf entry = [use] ∧ use.ended = some { result, moment } := by
  obtain ⟨made, loaded, present, stage, rfl⟩ := SessionCache.result?_eq_some_iff.1 ready
  obtain ⟨load, use, kept, rfl⟩ := sound.begun entry made present (by simp [stage])
  obtain ⟨other, otherPresent, otherStage⟩ := sound.outcome load use kept
  cases present.symm.trans otherPresent
  refine ⟨use, loaded.moment, sound.loadsOf_of_mem (List.mem_of_getElem? kept.1) kept.2, ?_⟩
  cases ended : use.ended with
  | none => simp [ended, stage] at otherStage
  | some outcome =>
    simp only [ended, stage, Option.elim_some, LoadStage.loaded.injEq] at otherStage
    rw [otherStage]

theorem Sound.shares (sound : Sound traffic) (present : traffic.visit? number = some visit) :
    traffic.Shares number visit.user visit.entry where
  caller := ⟨visit, present, rfl, rfl⟩
  loads := by
    intro use member same kept
    subst same
    obtain ⟨load, loadPresent⟩ := List.mem_iff_getElem?.1 member
    obtain ⟨loader, loaderPresent, same, -, -⟩ := sound.loader load use loadPresent
    cases present.symm.trans loaderPresent
    rw [same]
    exact sound.loadsOf_of_mem member kept
  result := by
    intro other result otherPresent left
    cases present.symm.trans otherPresent
    exact sound.load_of_result (sound.gone number visit result present left)

theorem Sound.shares_after (sound : Sound traffic) (present : traffic.visit? number = some visit)
    (run : Run traffic events last) : last.Shares number visit.user visit.entry := by
  obtain ⟨after, afterPresent, before⟩ := run.keeps_visit present
  have shares := (sound.run run).shares afterPresent
  rwa [show after.user = visit.user from congrArg Caller.user before.same,
    show after.entry = visit.entry from congrArg Caller.entry before.same] at shares

theorem Sound.look_shares (sound : Sound traffic)
    (run : Run (traffic.look user rank) events last) :
    last.Shares traffic.visits.length user (traffic.found user) :=
  (sound.look user rank).shares_after (visit?_look.2 (.inr ⟨rfl, rfl⟩)) run

/-! As long as an entry serves a user, all who come for the user find it. The induction
is on the run: a later visit is either an earlier one or has just been looked up. -/

theorem found_of_serving (run : RunWhile (·.Serves user place) traffic events last) {bound : Nat}
    (first : ∀ number visit, bound ≤ number → traffic.visit? number = some visit →
      visit.user = user → visit.entry = place)
    (late : bound ≤ number) (present : last.visit? number = some visit)
    (sameUser : visit.user = user) : visit.entry = place := by
  induction run with
  | nil traffic => exact first number visit late present sameUser
  | cons here step rest ih =>
    refine ih (fun number visit late present sameUser => ?_) present
    rcases step.visit_of_next present with ⟨before, earlier, same⟩ | ⟨-, -, entry⟩
    · rw [show visit.entry = before.entry from congrArg Caller.entry same]
      apply first number before late earlier
      rw [← sameUser, show visit.user = before.user from congrArg Caller.user same]
    · rw [entry, sameUser]
      exact here.found

theorem found_while_serving
    (run : RunWhile (·.Serves user (traffic.found user)) (traffic.look user rank) events last)
    (late : traffic.visits.length ≤ number) (present : last.visit? number = some visit)
    (sameUser : visit.user = user) : visit.entry = traffic.found user := by
  refine found_of_serving run (fun number visit late present _ => ?_) late present sameUser
  rcases visit?_look.1 present with before | ⟨-, rfl⟩
  · exact absurd (List.getElem?_eq_some_iff.1 before).1 (Nat.not_lt.2 late)
  · rfl

/-! An entry that serves a user does so until it is dropped or its time is over. -/

theorem Timely.reached_of_forgotten (timely : Timely traffic) {entry : CacheEntry}
    {loaded : Loaded} {error : JmapError}
    (forgets : traffic.cache.config.failureTtl = 0)
    (present : traffic.cache.numbered? number = some entry)
    (stage : entry.stage = .loaded loaded) (failed : loaded.result = .error error) :
    traffic.cache.isOver traffic.now number = true := by
  have past := timely.past number entry loaded present stage
  have atOnce : traffic.cache.lifetime loaded.result = 0 := by
    rw [failed, SessionCache.lifetime, forgets]
    rfl
  rw [SessionCache.isOver_eq_true_iff]
  refine ⟨entry, present, SessionCache.isExpired_eq_true_iff.2
    ⟨loaded, loaded.moment, stage, ?_, past⟩⟩
  rw [atOnce, Moment.after?, Nat.add_zero, if_pos (Nat.lt_of_le_of_lt past timely.inRange)]

theorem Serves.find?_leave (serves : traffic.Serves user number) (timely : Timely traffic) :
    (traffic.cache.leave visit.user visit.entry).current.find? user = some number := by
  rcases SessionCache.leave_cases traffic.cache visit.user visit.entry with
    same | ⟨⟨error, failed⟩, forgets, used, dropped⟩
  · rw [same]
    exact serves.1
  · rw [dropped, Dict.find?_erase]
    split
    · rename_i sameUser
      rw [sameUser] at used
      cases serves.1.symm.trans used
      obtain ⟨entry, loaded, present, stage, failed⟩ := SessionCache.result?_eq_some_iff.1 failed
      have lasts := (SessionCache.usable?_eq_some_iff.1 (serves_iff.1 serves)).2
      rw [timely.reached_of_forgotten forgets present stage failed] at lasts
      cases lasts
    · exact serves.1

inductive Ceases (traffic : Traffic) (user : String) (number : Nat) : CacheEvent → Traffic → Prop
  | expires {event : CacheEvent} {next : Traffic}
      (expired : next.cache.isOver next.now number = true) : Ceases traffic user number event next
  | invalidated {next : Traffic} : Ceases traffic user number (.invalidate user) next
  | outdated {event : SessionOutdated} {next : Traffic} (named : event.username = user) :
      Ceases traffic user number (.outdated event) next
  | evicted {other : String} {next : Traffic} (different : other ≠ user)
      (full : traffic.cache.capacity ≤ traffic.cache.size) :
      Ceases traffic user number (.look other) next

theorem Serves.step (serves : traffic.Serves user number) (timely : Timely traffic)
    (step : Step traffic event next) :
    next.Serves user number ∨ Ceases traffic user number event next := by
  cases expired : next.cache.isOver next.now number with
  | true => exact .inr (.expires expired)
  | false =>
    rw [serves_iff, SessionCache.usable?_eq_some_iff, expired]
    cases step with
    | look other rank =>
      by_cases same : other = user
      · subst same
        left
        rw [Traffic.look, SessionCache.lookup_of_usable (serves_iff.1 serves)]
        exact ⟨serves.1, rfl⟩
      · rcases SessionCache.find?_lookup_of_ne same serves.1 with kept | full
        · exact .inl ⟨kept, rfl⟩
        · exact .inr (.evicted same full)
    | startLoad starter waits idle => exact .inl ⟨serves.1, rfl⟩
    | endLoad ender loads result => exact .inl ⟨serves.1, rfl⟩
    | leave leaver waits loaded => exact .inl ⟨serves.find?_leave timely, rfl⟩
    | drop dropped waits => exact .inl ⟨serves.1, rfl⟩
    | abandonLoad dropped loads => exact .inl ⟨serves.1, rfl⟩
    | invalidate other =>
      by_cases same : other = user
      · exact .inr (same ▸ .invalidated)
      · left
        rw [SessionCache.find?_invalidate, if_neg same]
        exact ⟨serves.1, rfl⟩
    | outdated event =>
      by_cases same : event.username = user
      · exact .inr (.outdated same)
      · left
        rw [SessionCache.onOutdated, SessionCache.find?_invalidate, if_neg same]
        exact ⟨serves.1, rfl⟩
    | reap =>
      left
      rw [SessionCache.find?_reap]
      exact ⟨serves_iff.1 serves, rfl⟩
    | advance wait inRange => exact .inl ⟨serves.1, rfl⟩

/-! Whoever has come can go in the end, whatever the loads end with. -/

/-- Loads end as told, and nobody is dropped. -/
def EndsAs (results : Nat → Except JmapError Session) : CacheEvent → Prop
  | .endLoad number result => result = results number
  | .drop _ => False
  | _ => True

def CanLeave (traffic : Traffic) (results : Nat → Except JmapError Session) (number : Nat) :
    Prop :=
  ∃ events last visit outcome, Run traffic events last ∧
    (∀ event ∈ events, EndsAs results event) ∧ last.visit? number = some visit ∧
    visit.stage = .gone outcome

variable {results : Nat → Except JmapError Session}

theorem CanLeave.before (can : next.CanLeave results number) (step : Step traffic event next)
    (ends : EndsAs results event) : traffic.CanLeave results number := by
  obtain ⟨events, last, visit, outcome, run, allEnd, left⟩ := can
  refine ⟨event :: events, last, visit, outcome, .cons trivial step run, ?_, left⟩
  intro other member
  rcases List.mem_cons.1 member with rfl | later
  · exact ends
  · exact allEnd other later

theorem canLeave_of_loaded (present : traffic.visit? number = some visit)
    (waits : visit.stage = .waiting) (loaded : traffic.cache.result? visit.entry = some result) :
    traffic.CanLeave results number := by
  have left : (traffic.leave number visit result).visit? number =
      some { visit with stage := .gone result } := by
    rw [visit?_leave present, if_pos rfl]
  have gone : (traffic.leave number visit result).CanLeave results number :=
    ⟨[], _, _, result, .nil _, by simp, left, rfl⟩
  exact gone.before (.leave present waits loaded) trivial

theorem result?_endLoad {entry : CacheEntry}
    (present : traffic.cache.numbered? visit.entry = some entry) :
    (traffic.endLoad number visit load result).cache.result? visit.entry = some result := by
  rw [SessionCache.result?_eq_some_iff]
  refine ⟨_, { result, moment := traffic.now },
    SessionCache.numbered?_setStage_of_some present, ?_, rfl⟩
  rw [if_pos rfl]

theorem Sound.canLeave_of_loading (sound : Sound traffic)
    (present : traffic.visit? number = some visit) (loads : visit.stage = .loading load) :
    traffic.CanLeave results number := by
  obtain ⟨entry, entryPresent, -⟩ := sound.visited number visit present
  have waiting : (traffic.endLoad number visit load (results number)).visit? number =
      some { visit with stage := .waiting } := by
    rw [visit?_endLoad present, if_pos rfl]
  have can : (traffic.endLoad number visit load (results number)).CanLeave results number :=
    canLeave_of_loaded waiting rfl (result?_endLoad entryPresent)
  exact can.before (.endLoad present loads (results number)) rfl

theorem Sound.exists_loader (sound : Sound traffic) {entry : CacheEntry}
    (present : traffic.cache.numbered? place = some entry) (loading : entry.stage = .loading) :
    ∃ number visit load, traffic.visit? number = some visit ∧ visit.entry = place ∧
      visit.stage = .loading load := by
  obtain ⟨load, use, kept, rfl⟩ := sound.begun place entry present (by simp [loading])
  obtain ⟨other, otherPresent, stage⟩ := sound.outcome load use kept
  cases present.symm.trans otherPresent
  obtain ⟨visit, visitPresent, same, -, running⟩ := sound.loader load use kept.1
  refine ⟨use.visit, visit, load, visitPresent, same, running ?_ kept.2⟩
  cases ended : use.ended with
  | none => rfl
  | some outcome => simp [ended, loading] at stage

theorem Sound.canLeave_of_waiting (sound : Sound traffic)
    (present : traffic.visit? number = some visit) (waits : visit.stage = .waiting) :
    traffic.CanLeave results number := by
  obtain ⟨entry, entryPresent, -⟩ := sound.visited number visit present
  cases stage : entry.stage with
  | idle =>
    have idle := SessionCache.isIdle_eq_true_iff.2 ⟨entry, entryPresent, stage⟩
    have loading : (traffic.startLoad number visit).visit? number =
        some { visit with stage := .loading traffic.loads.length } := by
      rw [visit?_startLoad present, if_pos rfl]
    have can : (traffic.startLoad number visit).CanLeave results number :=
      (sound.startLoad present waits idle).canLeave_of_loading loading rfl
    exact can.before (.startLoad present waits idle) trivial
  | loading =>
    obtain ⟨loader, other, load, otherPresent, same, loads⟩ :=
      sound.exists_loader entryPresent stage
    have still : (traffic.endLoad loader other load (results loader)).visit? number =
        some visit := by
      rw [visit?_endLoad otherPresent, if_neg]
      · exact present
      · intro same
        subst same
        cases present.symm.trans otherPresent
        cases waits.symm.trans loads
    have ready : (traffic.endLoad loader other load (results loader)).cache.result? visit.entry =
        some (results loader) := by
      rw [← same] at entryPresent ⊢
      exact result?_endLoad entryPresent
    have can : (traffic.endLoad loader other load (results loader)).CanLeave results number :=
      canLeave_of_loaded still waits ready
    exact can.before (.endLoad otherPresent loads (results loader)) rfl
  | loaded loaded =>
    exact canLeave_of_loaded present waits
      (SessionCache.result?_eq_some_iff.2 ⟨entry, loaded, entryPresent, stage, rfl⟩)

theorem Sound.canLeave (sound : Sound traffic) (present : traffic.visit? number = some visit)
    (stays : visit.stage ≠ .dropped) : traffic.CanLeave results number := by
  cases stage : visit.stage with
  | dropped => exact absurd stage stays
  | waiting => exact sound.canLeave_of_waiting present stage
  | loading load => exact sound.canLeave_of_loading present stage
  | gone outcome =>
    exact ⟨[], traffic, visit, outcome, .nil traffic, by simp, present, stage⟩

theorem patient_of_endsAs (ends : ∀ event ∈ events, EndsAs results event) : Patient events :=
  fun number member => ends (.drop number) member

theorem Sound.exists_departure (sound : Sound traffic)
    (results : Nat → Except JmapError Session) (count : Nat) :
    ∃ events last, Run traffic events last ∧ (∀ event ∈ events, EndsAs results event) ∧
      ∀ number visit, number < count → traffic.visit? number = some visit →
        visit.stage ≠ .dropped →
        ∃ left outcome, last.visit? number = some left ∧ left.stage = .gone outcome := by
  induction count with
  | zero =>
    exact ⟨[], traffic, .nil traffic, by simp, fun _ _ small => absurd small (Nat.not_lt_zero _)⟩
  | succ count ih =>
    obtain ⟨events, next, run, ends, early⟩ := ih
    have stays {visit : Visit} (present : traffic.visit? count = some visit)
        (undropped : visit.stage ≠ .dropped) {after : Visit}
        (afterPresent : next.visit? count = some after) : after.stage ≠ .dropped := by
      intro dropped
      rcases run.dropped_of_last afterPresent dropped with drops | ⟨before, same, already⟩
      · exact patient_of_endsAs ends count drops
      · cases present.symm.trans same
        exact undropped already
    -- The caller whose turn it is may be missing, or have been dropped from the beginning.
    by_cases here : ∃ visit, next.visit? count = some visit ∧ visit.stage ≠ .dropped
    · obtain ⟨visit, here, undropped⟩ := here
      have can : next.CanLeave results count := (sound.run run).canLeave here undropped
      obtain ⟨more, last, after, outcome, rest, moreEnd, afterPresent, left⟩ := can
      refine ⟨events ++ more, last, run.append rest, fun event member => ?_,
        fun number visit small present staying => ?_⟩
      · exact (List.mem_append.1 member).elim (ends event) (moreEnd event)
      · rcases Nat.lt_succ_iff_lt_or_eq.1 small with small | rfl
        · obtain ⟨before, outcome, beforePresent, left⟩ := early number visit small present staying
          obtain ⟨later, laterPresent, stays⟩ := rest.keeps_visit beforePresent
          exact ⟨later, outcome, laterPresent, stays.stays outcome left⟩
        · exact ⟨after, outcome, afterPresent, left⟩
    · refine ⟨events, next, run, ends, fun number visit small present staying => ?_⟩
      rcases Nat.lt_succ_iff_lt_or_eq.1 small with small | rfl
      · exact early number visit small present staying
      · obtain ⟨after, afterPresent, -⟩ := run.keeps_visit present
        exact absurd ⟨after, afterPresent, stays present staying afterPresent⟩ here

theorem Sound.exists_completion (sound : Sound traffic)
    (results : Nat → Except JmapError Session) :
    ∃ events last, Run traffic events last ∧ (∀ event ∈ events, EndsAs results event) ∧
      ∀ number visit, traffic.visit? number = some visit → visit.stage ≠ .dropped →
        ∃ left outcome, last.visit? number = some left ∧ left.stage = .gone outcome := by
  obtain ⟨events, last, run, ends, all⟩ := sound.exists_departure results traffic.visits.length
  refine ⟨events, last, run, ends, fun number visit present => all number visit ?_ present⟩
  exact (List.getElem?_eq_some_iff.1 present).1

/-- The visits for a user that begin after one moment and until another. -/
def CameUntil (traffic later : Traffic) (user : String) (number : Nat) : Prop :=
  traffic.visits.length ≤ number ∧
    ∃ visit, later.visit? number = some visit ∧ visit.user = user

def Agree (traffic : Traffic) (number other : Nat) : Prop :=
  ∀ visit another result outcome, traffic.visit? number = some visit →
    traffic.visit? other = some another → visit.stage = .gone result →
      another.stage = .gone outcome → result = outcome

theorem Shares.agree {other entry : Nat} (first : traffic.Shares number user entry)
    (second : traffic.Shares other user entry) : traffic.Agree number other := by
  intro visit another result outcome present otherPresent left otherLeft
  obtain ⟨use, moment, listed, ended⟩ := first.result visit result present left
  obtain ⟨same, instant, sameListed, sameEnded⟩ :=
    second.result another outcome otherPresent otherLeft
  cases listed.symm.trans sameListed
  cases ended.symm.trans sameEnded
  rfl

theorem Sound.shares_while_serving {during : List CacheEvent} {later : Traffic}
    (sound : Sound traffic)
    (serving : RunWhile (·.Serves user (traffic.found user)) (traffic.look user rank) during
      later)
    (run : Run later events last) (came : traffic.CameUntil later user number) :
    last.Shares number user (traffic.found user) := by
  obtain ⟨late, visit, present, sameUser⟩ := came
  have same := found_while_serving serving late present sameUser
  have shares := ((sound.look user rank).run serving.run).shares_after present run
  rwa [sameUser, same] at shares

/-- At any moment of any run each entry has one load at most that has not come to nothing; none
has, and no caller is dropped, where the run drops nobody. A caller shares the load of the entry
that serves its user. So do all who come while the entry that the first of them has found serves
the user, and they agree on the result, a success or a failure. An entry ceases to serve only in
the ways listed, and all callers but those that have been dropped can go in the end. -/
theorem single_flight {config : CacheConfig} {began : Fin Moment.limit}
    {before : List CacheEvent} (run : Run (start config began) before traffic) :
    (∀ entry, (traffic.loadsOf entry).length ≤ 1) ∧
    (Patient before → (∀ use ∈ traffic.loads, use.dropped = false) ∧
      ∀ number visit, traffic.visit? number = some visit → visit.stage ≠ .dropped) ∧
    (∀ user entry rank after last, traffic.Serves user entry →
      Run (traffic.look user rank) after last →
      last.Shares traffic.visits.length user entry) ∧
    (∀ user rank during later after last,
      RunWhile (·.Serves user (traffic.found user)) (traffic.look user rank) during later →
      Run later after last →
      (∀ number, traffic.CameUntil later user number →
        last.Shares number user (traffic.found user)) ∧
      ∀ number other, traffic.CameUntil later user number →
        traffic.CameUntil later user other → last.Agree number other) ∧
    (∀ user entry event next, traffic.Serves user entry → Step traffic event next →
      next.Serves user entry ∨ traffic.Ceases user entry event next) ∧
    ∀ results, ∃ after last, Run traffic after last ∧
      (∀ event ∈ after, EndsAs results event) ∧
      ∀ number visit, traffic.visit? number = some visit → visit.stage ≠ .dropped →
        ∃ left outcome, last.visit? number = some left ∧ left.stage = .gone outcome := by
  have sound := (start_sound config began).run run
  have timely := (start_timely config began).run run
  refine ⟨sound.length_loadsOf, fun patient => ⟨fun use member => ?_, ?_⟩, ?_, ?_, ?_,
    sound.exists_completion⟩
  · obtain ⟨load, present⟩ := List.mem_iff_getElem?.1 member
    refine Bool.eq_false_iff.2 (fun dropped => ?_)
    obtain ⟨before, absent, -⟩ := run.load_dropped_of_patient patient present dropped
    cases absent
  · intro number visit present dropped
    rcases run.dropped_of_last present dropped with drops | ⟨before, absent, -⟩
    · exact patient number drops
    · cases absent
  · intro user entry rank after last serves rest
    rw [← serves.found]
    exact sound.look_shares rest
  · intro user rank during later after last serving rest
    have each (number : Nat) (came : traffic.CameUntil later user number) :=
      sound.shares_while_serving serving rest came
    exact ⟨each, fun number other came otherCame => (each number came).agree (each other otherCame)⟩
  · intro user entry event next serves step
    exact serves.step timely step

/-- Two callers share a load that fails. The failure is not kept: another entry has taken
the place of theirs before the second of them leaves. -/
theorem single_flight_of_failure :
    ∃ first later last : Traffic,
      Run (start default ⟨0, by decide⟩) [] first ∧
      RunWhile (·.Serves "ann" (first.found "ann")) (first.look "ann" (fun _ => 0))
        [.startLoad 0, .look "ann"] later ∧
      Run later
        [.endLoad 0 (.error (.transport .timeout)), .leave 0, .look "ann", .leave 1] last ∧
      last.visits.map (·.entry) = [0, 0, 1] ∧
      last.Shares 0 "ann" 0 ∧ last.Shares 1 "ann" 0 ∧ last.Agree 0 1 := by
  let first := start default ⟨0, by decide⟩
  let visit : Visit := { user := "ann", entry := 0, since := 0 }
  let rank : String → Nat := fun _ => 0
  let later := ((first.look "ann" rank).startLoad 0 visit).look "ann" rank
  have nothing : Run (start default ⟨0, by decide⟩) [] first := .nil _
  have serving : RunWhile (·.Serves "ann" (first.found "ann")) (first.look "ann" rank)
      [.startLoad 0, .look "ann"] later :=
    .cons (serves_iff.2 rfl) (.startLoad rfl rfl rfl)
      (.cons (serves_iff.2 rfl) (.look "ann" rank) (.nil _))
  have rest : Run later
      [.endLoad 0 (.error (.transport .timeout)), .leave 0, .look "ann", .leave 1] _ :=
    .cons trivial (.endLoad rfl rfl _) (.cons trivial (.leave rfl rfl rfl)
      (.cons trivial (.look "ann" rank) (.cons trivial (.leave rfl rfl rfl) (.nil _))))
  obtain ⟨each, agree⟩ := (single_flight nothing).2.2.2.1 "ann" rank _ _ _ _ serving rest
  have early : first.CameUntil later "ann" 0 := ⟨Nat.le_refl 0, _, rfl, rfl⟩
  have late : first.CameUntil later "ann" 1 := ⟨Nat.zero_le 1, _, rfl, rfl⟩
  exact ⟨first, later, _, nothing, serving, rest, rfl, each 0 early, each 1 late,
    agree 0 1 early late⟩

end Traffic

end Jmap
