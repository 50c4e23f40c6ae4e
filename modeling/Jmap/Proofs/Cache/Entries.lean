import Jmap.Session.Cache

/-!
What each operation of a cache does to the entries that have been made and to the
entries in use. All but a look-up leave in use a part of what was in use before.
-/

namespace Jmap

namespace SessionCache

variable {cache : SessionCache} {user other : String} {number place : Nat} {now : Moment}
  {rank : String → Nat}

/-- The entries in use of one cache are in use in the other for the same users. -/
def Within (small large : SessionCache) : Prop :=
  ∀ user number, small.current.find? user = some number → large.current.find? user = some number

/-! An entry is usable if it is the one in use and has not expired. -/

theorem usable?_eq_some_iff :
    cache.usable? user now = some number ↔
      cache.current.find? user = some number ∧ cache.isOver now number = false := by
  simp [usable?, Option.filter_eq_some_iff]

theorem isExpired_eq_true_iff {entry : CacheEntry} :
    cache.isExpired entry now = true ↔
      ∃ loaded expiry, entry.stage = .loaded loaded ∧
        loaded.moment.after? (cache.lifetime loaded.result) = some expiry ∧ expiry ≤ now := by
  obtain ⟨user, created, stage⟩ := entry
  cases stage with
  | idle => simp [isExpired]
  | loading => simp [isExpired]
  | loaded loaded =>
    cases expiry : loaded.moment.after? (cache.lifetime loaded.result) with
    | none => simp [isExpired, expiry, Moment.reached]
    | some moment => simp [isExpired, expiry, Moment.reached]

theorem isOver_eq_true_iff :
    cache.isOver now number = true ↔
      ∃ entry, cache.numbered? number = some entry ∧ cache.isExpired entry now = true := by
  cases found : cache.numbered? number with
  | none => simp [isOver, found]
  | some entry => simp [isOver, found]

theorem lookup_of_usable (usable : cache.usable? user now = some number) :
    cache.lookup user now rank = (number, cache) := by
  simp [lookup, usable]

def clearedFor (cache : SessionCache) (user : String) (rank : String → Nat) : SessionCache :=
  makeRoom { cache with current := cache.current.erase user } rank

theorem makeRoom_within : Within (cache.makeRoom rank) cache := by
  intro user number found
  unfold makeRoom at found
  split at found
  · exact found
  · split at found
    · rw [Dict.find?_erase] at found
      split at found
      · cases found
      · exact found
    · exact found

@[simp] theorem makeRoom_made : (cache.makeRoom rank).made = cache.made := by
  unfold makeRoom
  split
  · rfl
  · split <;> rfl

@[simp] theorem makeRoom_config : (cache.makeRoom rank).config = cache.config := by
  unfold makeRoom
  split
  · rfl
  · split <;> rfl

@[simp] theorem clearedFor_made : (cache.clearedFor user rank).made = cache.made := makeRoom_made

@[simp] theorem clearedFor_config : (cache.clearedFor user rank).config = cache.config :=
  makeRoom_config

theorem lookup_of_not_usable (unusable : cache.usable? user now = none) :
    cache.lookup user now rank =
      (cache.made.length, (cache.clearedFor user rank).add user now) := by
  simp only [lookup, unusable]
  exact Prod.ext (congrArg List.length makeRoom_made) rfl

/-- Which entry a caller finds does not depend on which of several makes room for it. -/
theorem lookup_fst :
    (cache.lookup user now rank).1 = (cache.usable? user now).getD cache.made.length := by
  cases usable : cache.usable? user now with
  | some number => rw [lookup_of_usable usable, Option.getD_some]
  | none => rw [lookup_of_not_usable usable, Option.getD_none]

theorem clearedFor_within : Within (cache.clearedFor user rank) cache := by
  intro other number found
  have kept := makeRoom_within other number found
  rw [Dict.find?_erase] at kept
  split at kept
  · cases kept
  · exact kept

theorem find?_lookup (found : (cache.lookup user now rank).2.current.find? other = some number) :
    (other = user ∧ number = (cache.lookup user now rank).1) ∨
      cache.current.find? other = some number := by
  cases usable : cache.usable? user now with
  | some place =>
    rw [lookup_of_usable usable] at found
    exact .inr found
  | none =>
    rw [lookup_of_not_usable usable] at found ⊢
    simp only [add, Dict.find?_insert] at found
    split at found
    · rename_i same
      refine .inl ⟨same.symm, ?_⟩
      simpa using found.symm
    · exact .inr (clearedFor_within other number found)

theorem find?_lookup_self :
    (cache.lookup user now rank).2.current.find? user = some (cache.lookup user now rank).1 := by
  cases usable : cache.usable? user now with
  | some number =>
    rw [lookup_of_usable usable]
    exact (usable?_eq_some_iff.1 usable).1
  | none =>
    rw [lookup_of_not_usable usable]
    simp [add]

theorem find?_lookup_of_ne (different : user ≠ other)
    (found : cache.current.find? other = some number) :
    (cache.lookup user now rank).2.current.find? other = some number ∨
      cache.capacity ≤ cache.size := by
  cases usable : cache.usable? user now with
  | some place =>
    rw [lookup_of_usable usable]
    exact .inl found
  | none =>
    rw [lookup_of_not_usable usable]
    simp only [add, Dict.find?_insert, if_neg different, clearedFor, makeRoom]
    split
    · left
      rwa [Dict.find?_erase, if_neg different]
    · rename_i full
      right
      exact Nat.le_trans (Nat.not_lt.1 full) (Dict.size_erase_le cache.current user)

theorem lookup_made (cache : SessionCache) (user : String) (now : Moment)
    (rank : String → Nat) :
    (cache.lookup user now rank).2.made = cache.made ∨
      (cache.lookup user now rank).1 = cache.made.length ∧
        (cache.lookup user now rank).2.made = cache.made ++ [{ user, created := now }] := by
  cases usable : cache.usable? user now with
  | some number =>
    rw [lookup_of_usable usable]
    exact .inl rfl
  | none =>
    rw [lookup_of_not_usable usable]
    exact .inr ⟨rfl, by simp [add]⟩

theorem numbered?_lookup_of_some {entry : CacheEntry}
    (present : cache.numbered? number = some entry) :
    (cache.lookup user now rank).2.numbered? number = some entry := by
  rcases lookup_made cache user now rank with same | ⟨-, added⟩
  · rwa [numbered?, same]
  · rw [numbered?, added, List.getElem?_append_left (List.getElem?_eq_some_iff.1 present).1]
    exact present

theorem numbered?_lookup {entry : CacheEntry}
    (present : (cache.lookup user now rank).2.numbered? number = some entry) :
    cache.numbered? number = some entry ∨
      (number = (cache.lookup user now rank).1 ∧ entry = { user, created := now }) := by
  rcases lookup_made cache user now rank with same | ⟨fresh, added⟩
  · left
    rwa [numbered?, same] at present
  · rw [numbered?, added, List.getElem?_append] at present
    split at present
    · exact .inl present
    · right
      obtain ⟨bound, same⟩ := List.getElem?_eq_some_iff.1 present
      simp only [List.length_singleton] at bound
      refine ⟨by omega, ?_⟩
      rw [← same]
      simp

@[simp] theorem lookup_config : (cache.lookup user now rank).2.config = cache.config := by
  cases usable : cache.usable? user now with
  | some number => rw [lookup_of_usable usable]
  | none =>
    rw [lookup_of_not_usable usable]
    exact clearedFor_config

@[simp] theorem setStage_config {stage : LoadStage} :
    (cache.setStage number stage).config = cache.config := rfl

theorem numbered?_setStage {stage : LoadStage} :
    (cache.setStage number stage).numbered? place =
      if number = place then (cache.numbered? place).map (fun entry => { entry with stage })
      else cache.numbered? place := by
  simp only [numbered?, setStage, List.getElem?_modify]
  split
  · rfl
  · simp

theorem numbered?_setStage_of_some {stage : LoadStage} {entry : CacheEntry}
    (present : cache.numbered? place = some entry) :
    (cache.setStage number stage).numbered? place =
      some (if number = place then { entry with stage } else entry) := by
  rw [numbered?_setStage, present]
  split <;> rfl

theorem stage_or_of_setStage {stage : LoadStage} {entry : CacheEntry}
    (present : (cache.setStage number stage).numbered? place = some entry) :
    entry.stage = stage ∨ cache.numbered? place = some entry := by
  rw [numbered?_setStage] at present
  split at present
  · obtain ⟨before, -, rfl⟩ := Option.map_eq_some_iff.1 present
    exact .inl rfl
  · exact .inr present

/-- A loaded entry stays as it is where another stage than loaded is left. -/
theorem numbered?_setStage_of_loaded {stage : LoadStage} {own entry : CacheEntry}
    {loaded : Loaded} (ownPresent : cache.numbered? number = some own)
    (unloaded : ∀ loaded, own.stage ≠ .loaded loaded)
    (present : cache.numbered? place = some entry) (ended : entry.stage = .loaded loaded) :
    (cache.setStage number stage).numbered? place = some entry := by
  rw [numbered?_setStage_of_some present, if_neg]
  rintro rfl
  cases present.symm.trans ownPresent
  exact unloaded loaded ended

theorem owner_setStage {stage : LoadStage} {entry : CacheEntry}
    (present : cache.numbered? place = some entry) :
    ∃ after, (cache.setStage number stage).numbered? place = some after ∧
      after.user = entry.user := by
  refine ⟨_, numbered?_setStage_of_some present, ?_⟩
  split <;> rfl

theorem isIdle_eq_true_iff :
    cache.isIdle number = true ↔
      ∃ entry, cache.numbered? number = some entry ∧ entry.stage = .idle := by
  unfold isIdle
  split
  · rename_i user created found
    simp [found]
  · rename_i notIdle
    simp only [Bool.false_eq_true, false_iff]
    intro idle
    obtain ⟨⟨user, created, stage⟩, found, rfl⟩ := idle
    exact notIdle user created found

theorem result?_eq_some_iff {result : Except JmapError Session} :
    cache.result? number = some result ↔
      ∃ entry loaded, cache.numbered? number = some entry ∧ entry.stage = .loaded loaded ∧
        loaded.result = result := by
  unfold result?
  split
  · rename_i user created loaded found
    simp [found]
  · rename_i notLoaded
    simp only [reduceCtorEq, false_iff]
    intro loaded
    obtain ⟨⟨user, created, stage⟩, loaded, found, rfl, -⟩ := loaded
    exact notLoaded user created loaded found

theorem result?_setStage_of_some {stage : LoadStage} {entry : CacheEntry}
    {result : Except JmapError Session} (present : cache.numbered? number = some entry)
    (before : ∀ loaded, entry.stage ≠ .loaded loaded)
    (ready : cache.result? place = some result) :
    (cache.setStage number stage).result? place = some result := by
  rw [result?_eq_some_iff] at ready ⊢
  obtain ⟨other, loaded, otherPresent, otherStage, same⟩ := ready
  exact ⟨other, loaded, numbered?_setStage_of_loaded present before otherPresent otherStage,
    otherStage, same⟩

/-! Entries go out of use when they are dropped, when they have failed and their
callers leave, and when they are reaped. -/

@[simp] theorem invalidate_made : (cache.invalidate user).2.made = cache.made := rfl

@[simp] theorem invalidate_config : (cache.invalidate user).2.config = cache.config := rfl

theorem find?_invalidate :
    (cache.invalidate user).2.current.find? other =
      if user = other then none else cache.current.find? other :=
  Dict.find?_erase _ _ _

theorem invalidate_within : Within (cache.invalidate user).2 cache := by
  intro other number found
  rw [find?_invalidate] at found
  split at found
  · cases found
  · exact found

/-- Only a failure that is not to be kept, still in use, goes with a caller. -/
theorem leave_cases (cache : SessionCache) (user : String) (number : Nat) :
    cache.leave user number = cache ∨
      (∃ error, cache.result? number = some (.error error)) ∧ cache.config.failureTtl = 0 ∧
        cache.current.find? user = some number ∧
          cache.leave user number = { cache with current := cache.current.erase user } := by
  unfold leave
  split
  · rename_i error failed
    split
    · rename_i goes
      exact .inr ⟨⟨error, failed⟩, goes.1, goes.2, rfl⟩
    · exact .inl rfl
  · exact .inl rfl

@[simp] theorem leave_made : (cache.leave user number).made = cache.made := by
  rcases leave_cases cache user number with same | ⟨-, -, -, dropped⟩
  · rw [same]
  · rw [dropped]

@[simp] theorem leave_config : (cache.leave user number).config = cache.config := by
  rcases leave_cases cache user number with same | ⟨-, -, -, dropped⟩
  · rw [same]
  · rw [dropped]

theorem result?_leave : (cache.leave user number).result? place = cache.result? place := by
  simp only [result?, numbered?, leave_made]

theorem leave_within : Within (cache.leave user number) cache := by
  intro other place found
  rcases leave_cases cache user number with same | ⟨-, -, -, dropped⟩
  · rwa [same] at found
  · rw [dropped, Dict.find?_erase] at found
    split at found
    · cases found
    · exact found

@[simp] theorem reap_made : (cache.reap now).2.made = cache.made := rfl

@[simp] theorem reap_config : (cache.reap now).2.config = cache.config := rfl

def stale (cache : SessionCache) (now : Moment) : List String :=
  (cache.current.entries.filter (fun entry => cache.isOver now entry.2)).map (·.1)

theorem mem_stale_iff (found : cache.current.find? user = some number) :
    user ∈ cache.stale now ↔ cache.isOver now number = true := by
  rw [stale, List.mem_map]
  constructor
  · intro member
    obtain ⟨⟨name, place⟩, member, rfl⟩ := member
    obtain ⟨present, expired⟩ := List.mem_filter.1 member
    have same := found.symm.trans (Dict.find?_eq_some_iff.2 present)
    cases same
    exact expired
  · intro expired
    exact ⟨(user, number), List.mem_filter.2 ⟨Dict.find?_eq_some_iff.1 found, expired⟩, rfl⟩

theorem find?_reap : (cache.reap now).2.current.find? user = cache.usable? user now := by
  have erased : (cache.reap now).2.current.find? user =
      if user ∈ cache.stale now then none else cache.current.find? user :=
    Dict.find?_foldl_erase _ _ _
  rw [erased, usable?]
  cases found : cache.current.find? user with
  | none => simp
  | some number =>
    cases expired : cache.isOver now number with
    | true =>
      rw [if_pos ((mem_stale_iff found).2 expired)]
      simp [Option.filter, expired]
    | false =>
      rw [if_neg (mt (mem_stale_iff found).1 (by simp [expired]))]
      simp [Option.filter, expired]

theorem reap_within : Within (cache.reap now).2 cache := by
  intro user number found
  rw [find?_reap] at found
  exact (usable?_eq_some_iff.1 found).1

end SessionCache

end Jmap
