import Jmap.Proofs.Cache.Course

namespace Jmap

namespace SessionCache

variable {cache : SessionCache} {user other : String} {number : Nat} {now : Moment}
  {rank : String → Nat}

/-- An entry goes before another: it is older, or as old and ranks no higher. -/
def Precedes (cache : SessionCache) (rank : String → Nat) (left right : String × Nat) : Prop :=
  cache.createdAt left.2 < cache.createdAt right.2 ∨
    cache.createdAt left.2 = cache.createdAt right.2 ∧ rank left.1 ≤ rank right.1

theorem Precedes.refl (entry : String × Nat) : cache.Precedes rank entry entry :=
  .inr ⟨rfl, Nat.le_refl _⟩

theorem Precedes.trans {first second third : String × Nat}
    (early : cache.Precedes rank first second) (late : cache.Precedes rank second third) :
    cache.Precedes rank first third := by
  rcases early with older | ⟨same, ranks⟩
  · left
    rcases late with alsoOlder | ⟨also, -⟩
    · exact Nat.lt_trans older alsoOlder
    · rwa [← also]
  · rcases late with older | ⟨also, alsoRanks⟩
    · left
      rwa [same]
    · exact .inr ⟨same.trans also, Nat.le_trans ranks alsoRanks⟩

theorem Precedes.createdAt_le {left right : String × Nat}
    (precedes : cache.Precedes rank left right) :
    cache.createdAt left.2 ≤ cache.createdAt right.2 := by
  rcases precedes with older | ⟨same, -⟩
  · exact Nat.le_of_lt older
  · exact Nat.le_of_eq same

theorem older_cases (cache : SessionCache) (rank : String → Nat) (left right : String × Nat) :
    (cache.older rank left right = left ∨ cache.older rank left right = right) ∧
      cache.Precedes rank (cache.older rank left right) left ∧
      cache.Precedes rank (cache.older rank left right) right := by
  unfold older
  split
  · rename_i before
    exact ⟨.inr rfl, before.imp_right (And.imp_right Nat.le_of_lt), .refl right⟩
  · rename_i notBefore
    refine ⟨.inl rfl, .refl left, ?_⟩
    rcases Nat.lt_trichotomy (cache.createdAt left.2) (cache.createdAt right.2) with
      older | same | younger
    · exact .inl older
    · exact .inr ⟨same, Nat.le_of_not_lt (fun ranks => notBefore (.inr ⟨same.symm, ranks⟩))⟩
    · exact absurd (.inl younger) notBefore

theorem foldl_older (cache : SessionCache) (rank : String → Nat)
    (entries : List (String × Nat)) (first : String × Nat) :
    entries.foldl (cache.older rank) first ∈ first :: entries ∧
      ∀ other ∈ first :: entries,
        cache.Precedes rank (entries.foldl (cache.older rank) first) other := by
  induction entries generalizing first with
  | nil => simp [Precedes.refl]
  | cons next rest ih =>
    obtain ⟨member, least⟩ := ih (cache.older rank first next)
    obtain ⟨either, left, right⟩ := older_cases cache rank first next
    have head := least _ List.mem_cons_self
    rw [List.foldl_cons]
    constructor
    · rcases List.mem_cons.1 member with same | later
      · rw [same]
        rcases either with kept | replaced
        · simp [kept]
        · simp [replaced]
      · exact List.mem_cons_of_mem _ (List.mem_cons_of_mem _ later)
    · intro other otherMember
      rcases List.mem_cons.1 otherMember with rfl | otherMember
      · exact head.trans left
      · rcases List.mem_cons.1 otherMember with rfl | later
        · exact head.trans right
        · exact least other (List.mem_cons_of_mem _ later)

theorem exists_precedes (used : 0 < cache.size) (rank : String → Nat) :
    ∃ victim number, cache.oldest? rank = some victim ∧
      cache.current.find? victim = some number ∧
      ∀ other place, cache.current.find? other = some place →
        cache.Precedes rank (victim, number) (other, place) := by
  cases listed : cache.current.entries with
  | nil => simp [size, Dict.size, listed] at used
  | cons first rest =>
    obtain ⟨member, least⟩ := foldl_older cache rank rest first
    refine ⟨(rest.foldl (cache.older rank) first).1, (rest.foldl (cache.older rank) first).2,
      ?_, ?_, ?_⟩
    · simp [oldest?, listed]
    · rw [Dict.find?_eq_some_iff, listed]
      exact member
    · intro other place found
      rw [Dict.find?_eq_some_iff, listed] at found
      exact least _ found

theorem exists_oldest (used : 0 < cache.size) (rank : String → Nat) :
    ∃ victim number, cache.oldest? rank = some victim ∧
      cache.current.find? victim = some number ∧
      ∀ other place, cache.current.find? other = some place →
        cache.createdAt number ≤ cache.createdAt place := by
  obtain ⟨victim, number, oldest, found, least⟩ := exists_precedes used rank
  exact ⟨victim, number, oldest, found,
    fun other place otherFound => (least other place otherFound).createdAt_le⟩

/-- Each of the oldest entries is the one that makes room in some order of the table. -/
theorem exists_rank {victim : String} (found : cache.current.find? victim = some number)
    (least : ∀ other place, cache.current.find? other = some place →
      cache.createdAt number ≤ cache.createdAt place) :
    ∃ rank, cache.oldest? rank = some victim := by
  have used : 0 < cache.size := by
    rw [Dict.find?_eq_some_iff] at found
    exact List.length_pos_of_mem found
  refine ⟨fun user => if user = victim then 0 else 1, ?_⟩
  obtain ⟨chosen, place, oldest, chosenFound, precedes⟩ :=
    exists_precedes used (fun user => if user = victim then 0 else 1)
  rcases precedes victim number found with older | ⟨-, ranks⟩
  · exact absurd older (Nat.not_lt.2 (least chosen place chosenFound))
  · by_cases same : chosen = victim
    · rw [oldest, same]
    · simp [same] at ranks

theorem makeRoom_of_room (room : cache.size < cache.capacity) : cache.makeRoom rank = cache := by
  simp [makeRoom, room]

theorem makeRoom_of_full (full : cache.capacity ≤ cache.size) :
    ∃ victim number, cache.current.find? victim = some number ∧
      (∀ other place, cache.current.find? other = some place →
        cache.createdAt number ≤ cache.createdAt place) ∧
      cache.makeRoom rank = { cache with current := cache.current.erase victim } := by
  have used : 0 < cache.size := Nat.lt_of_lt_of_le (Nat.le_max_right _ 1) full
  obtain ⟨victim, number, oldest, found, least⟩ := exists_oldest used rank
  refine ⟨victim, number, found, least, ?_⟩
  simp [makeRoom, Nat.not_lt.2 full, oldest]

theorem size_makeRoom_lt (bounded : cache.size ≤ cache.capacity) :
    (cache.makeRoom rank).size < cache.capacity := by
  rcases Nat.lt_or_ge cache.size cache.capacity with room | full
  · rwa [makeRoom_of_room room]
  · obtain ⟨victim, number, found, -, made⟩ := makeRoom_of_full full
    have smaller := Dict.size_erase_of_find? found
    rw [made]
    exact Nat.lt_of_lt_of_le (Nat.lt_of_succ_le (Nat.le_of_eq smaller)) bounded

theorem size_lookup_le (bounded : cache.size ≤ cache.capacity) :
    (cache.lookup user now rank).2.size ≤ cache.capacity := by
  cases usable : cache.usable? user now with
  | some number => rwa [lookup_of_usable usable]
  | none =>
    rw [lookup_of_not_usable usable]
    have smaller : (cache.current.erase user).size ≤ cache.capacity :=
      Nat.le_trans (cache.current.size_erase_le user) bounded
    have room : (cache.clearedFor user rank).size < cache.capacity :=
      @size_makeRoom_lt { cache with current := cache.current.erase user } rank smaller
    exact Nat.le_trans (Dict.size_insert_le _ _ _) room

theorem size_reap_le : (cache.reap now).2.size ≤ cache.size :=
  Dict.size_foldl_erase_le _ _

theorem size_invalidate_le : (cache.invalidate user).2.size ≤ cache.size :=
  cache.current.size_erase_le user

theorem size_leave_le : (cache.leave user number).size ≤ cache.size := by
  rcases leave_cases cache user number with same | ⟨-, -, -, dropped⟩
  · exact Nat.le_of_eq (congrArg size same)
  · rw [dropped]
    exact cache.current.size_erase_le user

structure Untouched (before after : SessionCache) (user : String) : Prop where
  inUse : after.current.find? user = before.current.find? user
  entry : ∀ number, before.current.find? user = some number →
    after.numbered? number = before.numbered? number

theorem untouched_of_made {after : SessionCache} (made : after.made = cache.made)
    (inUse : after.current.find? user = cache.current.find? user) :
    cache.Untouched after user where
  inUse := inUse
  entry number _ := by rw [numbered?, made, numbered?]

theorem leave_untouched (different : other ≠ user) :
    cache.Untouched (cache.leave user number) other := by
  refine untouched_of_made leave_made ?_
  rcases leave_cases cache user number with same | ⟨-, -, -, dropped⟩
  · rw [same]
  · rw [dropped, Dict.find?_erase, if_neg different.symm]

theorem find?_lookup_other (unusable : cache.usable? user now = none) (different : other ≠ user) :
    (cache.lookup user now rank).2.current.find? other =
      (cache.clearedFor user rank).current.find? other := by
  rw [lookup_of_not_usable unusable]
  exact (Dict.find?_insert _ _ _ _).trans (if_neg different.symm)

theorem find?_clearedFor_of_room (room : (cache.current.erase user).size < cache.capacity)
    (different : other ≠ user) :
    (cache.clearedFor user rank).current.find? other = cache.current.find? other := by
  have same := @makeRoom_of_room { cache with current := cache.current.erase user } rank room
  rw [clearedFor, same, Dict.find?_erase, if_neg different.symm]

theorem find?_clearedFor_of_full (full : cache.capacity ≤ (cache.current.erase user).size) :
    ∃ victim number, victim ≠ user ∧ cache.current.find? victim = some number ∧
      (∀ other place, other ≠ user → cache.current.find? other = some place →
        cache.createdAt number ≤ cache.createdAt place) ∧
      ∀ other, other ≠ user → (cache.clearedFor user rank).current.find? other =
        if victim = other then none else cache.current.find? other := by
  obtain ⟨victim, number, found, least, made⟩ :=
    @makeRoom_of_full { cache with current := cache.current.erase user } rank full
  rw [Dict.find?_erase] at found
  split at found
  · cases found
  · rename_i different
    refine ⟨victim, number, fun same => different same.symm, found, ?_, ?_⟩
    · intro other place otherDifferent otherFound
      apply least other place
      rw [Dict.find?_erase, if_neg otherDifferent.symm]
      exact otherFound
    · intro other otherDifferent
      rw [clearedFor, made, Dict.find?_erase, Dict.find?_erase, if_neg otherDifferent.symm]

end SessionCache

namespace Traffic

variable {traffic next last : Traffic} {event : CacheEvent} {events : List CacheEvent}
  {number : Nat} {user other : String} {rank : String → Nat} {visit : Visit}

def Bounded (traffic : Traffic) : Prop := traffic.cache.size ≤ traffic.cache.capacity

theorem Bounded.narrow (bounded : Bounded traffic)
    (config : next.cache.config = traffic.cache.config)
    (smaller : next.cache.size ≤ traffic.cache.size) : Bounded next := by
  rw [Bounded, SessionCache.capacity, config]
  exact Nat.le_trans smaller bounded

theorem Bounded.step (bounded : Bounded traffic) (step : Step traffic event next) :
    Bounded next := by
  cases step with
  | look user rank =>
    rw [Bounded, SessionCache.capacity, (Step.look user rank).config]
    exact SessionCache.size_lookup_le bounded
  | startLoad starter waits idle => exact bounded
  | endLoad ender loads result => exact bounded
  | leave leaver waits loaded =>
    exact bounded.narrow SessionCache.leave_config SessionCache.size_leave_le
  | drop dropped waits => exact bounded
  | abandonLoad dropped loads => exact bounded
  | invalidate user => exact bounded.narrow rfl SessionCache.size_invalidate_le
  | outdated event => exact bounded.narrow rfl SessionCache.size_invalidate_le
  | reap => exact bounded.narrow rfl SessionCache.size_reap_le
  | advance wait inRange => exact bounded

theorem Bounded.run (bounded : Bounded traffic) (run : Run traffic events last) :
    Bounded last :=
  run.keeps (fun _ _ _ holds step => Bounded.step holds step) bounded

theorem Bounded.room_of_find? (bounded : Bounded traffic)
    (found : traffic.cache.current.find? user = some number) :
    (traffic.cache.current.erase user).size < traffic.cache.capacity := by
  have smaller := Dict.size_erase_of_find? found
  exact Nat.lt_of_lt_of_le (Nat.lt_of_succ_le (Nat.le_of_eq smaller)) bounded

def ByCaller (traffic : Traffic) (user : String) : CacheEvent → Prop
  | .look name => name = user
  | .startLoad number | .endLoad number _ | .leave number | .drop number =>
    ∃ visit, traffic.visit? number = some visit ∧ visit.user = user
  | _ => False

structure Evicts (traffic next : Traffic) (user victim : String) : Prop where
  different : victim ≠ user
  unserved : ∀ number, ¬traffic.Serves user number
  full : traffic.cache.capacity ≤ (traffic.cache.current.erase user).size
  oldest : ∃ number entry, traffic.cache.current.find? victim = some number ∧
    traffic.cache.numbered? number = some entry ∧
    ∀ other place otherEntry, traffic.cache.current.find? other = some place →
      traffic.cache.numbered? place = some otherEntry → entry.created ≤ otherEntry.created
  dropped : next.cache.current.find? victim = none
  others : ∀ other, other ≠ user → other ≠ victim → traffic.cache.Untouched next.cache other

theorem Sound.setStage_untouched (sound : Sound traffic)
    (present : traffic.visit? number = some visit) (different : other ≠ visit.user)
    (stage : LoadStage) :
    traffic.cache.Untouched (traffic.cache.setStage visit.entry stage) other where
  inUse := rfl
  entry place found := by
    rw [SessionCache.numbered?_setStage, if_neg]
    rintro rfl
    obtain ⟨entry, entryPresent, owner⟩ := sound.visited number visit present
    obtain ⟨own, ownPresent, ownOwner⟩ := sound.inUse other visit.entry found
    cases entryPresent.symm.trans ownPresent
    exact different (ownOwner.symm.trans owner)

theorem Sound.look_untouched (sound : Sound traffic)
    (kept : (traffic.look user rank).cache.current.find? other =
      traffic.cache.current.find? other) :
    traffic.cache.Untouched (traffic.look user rank).cache other where
  inUse := kept
  entry number found := by
    obtain ⟨entry, present, -⟩ := sound.inUse other number found
    rw [present]
    exact SessionCache.numbered?_lookup_of_some present

theorem unserved_iff :
    (∀ number, ¬traffic.Serves user number) ↔
      traffic.cache.usable? user traffic.now = none := by
  simp only [serves_iff, Option.eq_none_iff_forall_ne_some]

theorem Sound.look_untouched_of_room (sound : Sound traffic)
    (room : (traffic.cache.current.erase user).size < traffic.cache.capacity)
    (different : other ≠ user) :
    traffic.cache.Untouched (traffic.look user rank).cache other := by
  apply sound.look_untouched
  cases usable : traffic.cache.usable? user traffic.now with
  | some number => rw [Traffic.look, SessionCache.lookup_of_usable usable]
  | none =>
    exact (SessionCache.find?_lookup_other usable different).trans
      (SessionCache.find?_clearedFor_of_room room different)

theorem Sound.evicts (sound : Sound traffic) (bounded : Bounded traffic)
    (unserved : ∀ number, ¬traffic.Serves user number)
    (full : traffic.cache.capacity ≤ (traffic.cache.current.erase user).size) :
    ∃ victim, traffic.Evicts (traffic.look user rank) user victim := by
  have unusable := unserved_iff.1 unserved
  obtain ⟨victim, number, different, found, least, cleared⟩ :=
    SessionCache.find?_clearedFor_of_full full
  have looked (other : String) (otherDifferent : other ≠ user) :
      (traffic.look user rank).cache.current.find? other =
        if victim = other then none else traffic.cache.current.find? other :=
    (SessionCache.find?_lookup_other unusable otherDifferent).trans
      (cleared other otherDifferent)
  obtain ⟨entry, present, -⟩ := sound.inUse victim number found
  refine ⟨victim, different, unserved, full, ⟨number, entry, found, present, ?_⟩, ?_, ?_⟩
  · intro other place otherEntry otherFound otherPresent
    have otherDifferent : other ≠ user := by
      rintro rfl
      exact absurd full (Nat.not_le.2 (bounded.room_of_find? otherFound))
    have below := least other place otherDifferent otherFound
    simpa [SessionCache.createdAt, present, otherPresent] using below
  · rw [looked victim different, if_pos rfl]
  · intro other otherDifferent apart
    apply sound.look_untouched
    rw [looked other otherDifferent, if_neg apart.symm]

/-- No more entries are in use than there is room for. A caller drops the entry of another
user in its look-up only, if no entry serves its own user and the cache is full without
the own entry; then it drops the oldest entry, and no other. It drops none if an entry is
in use for its user, expired or not. -/
theorem eviction_minimal {config : CacheConfig} {began : Fin Moment.limit}
    {before : List CacheEvent} (run : Run (start config began) before traffic) :
    traffic.cache.capacity = max 1 config.maxCapacity.toNat ∧
    traffic.cache.size ≤ traffic.cache.capacity ∧
    (∀ user event next, Step traffic event next → traffic.ByCaller user event →
      (∀ other, other ≠ user → traffic.cache.Untouched next.cache other) ∨
      event = .look user ∧ ∃ victim, traffic.Evicts next user victim) ∧
    (∀ user rank, (∀ number, ¬traffic.Serves user number) →
      traffic.cache.capacity ≤ (traffic.cache.current.erase user).size →
      ∃ victim, traffic.Evicts (traffic.look user rank) user victim) ∧
    ∀ user number, traffic.cache.current.find? user = some number →
      ∀ rank other, other ≠ user →
        traffic.cache.Untouched (traffic.look user rank).cache other := by
  have sound := (start_sound config began).run run
  have bounded : Bounded traffic := Bounded.run (Nat.zero_le _) run
  have same : traffic.cache.config = config := run.config
  refine ⟨?_, bounded, ?_, fun user rank => sound.evicts bounded, ?_⟩
  · rw [SessionCache.capacity, same, Nat.max_comm]
  · intro user event next step byCaller
    cases step with
    | look name rank =>
      obtain rfl : name = user := byCaller
      rcases Nat.lt_or_ge (traffic.cache.current.erase name).size traffic.cache.capacity with
        room | full
      · exact .inl (fun other different => sound.look_untouched_of_room room different)
      · by_cases unserved : ∀ number, ¬traffic.Serves name number
        · exact .inr ⟨rfl, sound.evicts bounded unserved full⟩
        · obtain ⟨number, serves⟩ := Classical.not_forall_not.1 unserved
          exact absurd full (Nat.not_le.2 (bounded.room_of_find? serves.1))
    | startLoad starter waits idle =>
      obtain ⟨visit, present, rfl⟩ := byCaller
      cases starter.symm.trans present
      exact .inl (fun other different => sound.setStage_untouched present different _)
    | endLoad ender loads result =>
      obtain ⟨visit, present, rfl⟩ := byCaller
      cases ender.symm.trans present
      exact .inl (fun other different => sound.setStage_untouched present different _)
    | leave leaver waits loaded =>
      obtain ⟨visit, present, rfl⟩ := byCaller
      cases leaver.symm.trans present
      exact .inl (fun other different => SessionCache.leave_untouched different)
    | drop dropped waits =>
      exact .inl (fun other different => SessionCache.untouched_of_made rfl rfl)
    | abandonLoad drops loads =>
      obtain ⟨visit, present, rfl⟩ := byCaller
      cases drops.symm.trans present
      exact .inl (fun other different => sound.setStage_untouched present different _)
    | invalidate name => exact byCaller.elim
    | outdated event => exact byCaller.elim
    | reap => exact byCaller.elim
    | advance wait inRange => exact byCaller.elim
  · intro user number found rank other different
    exact sound.look_untouched_of_room (bounded.room_of_find? found) different

/-- Of two entries the older makes room for a third; the younger is still loading. -/
theorem eviction_of_older :
    ∃ traffic : Traffic,
      Run (start { maxCapacity := 2 } ⟨0, by decide⟩)
        [.look "alice", .advance 1, .look "bob", .startLoad 1] traffic ∧
      traffic.cache.size ≤ traffic.cache.capacity ∧
      (∃ victim, traffic.Evicts (traffic.look "carol" (fun _ => 0)) "carol" victim) ∧
      (traffic.look "carol" (fun _ => 0)).cache.current.keys = ["bob", "carol"] ∧
      traffic.cache.Untouched (traffic.look "bob" (fun _ => 0)).cache "alice" := by
  let rank : String → Nat := fun _ => 0
  let first := (start { maxCapacity := 2 } ⟨0, by decide⟩).look "alice" rank
  let traffic :=
    ({ first with now := 1 }.look "bob" rank).startLoad 1 { user := "bob", entry := 1, since := 1 }
  have run : Run (start { maxCapacity := 2 } ⟨0, by decide⟩)
      [.look "alice", .advance 1, .look "bob", .startLoad 1] traffic :=
    .cons trivial (.look "alice" rank) (.cons trivial (.advance 1 (by decide))
      (.cons trivial (.look "bob" rank) (.cons trivial (.startLoad rfl rfl rfl) (.nil _))))
  obtain ⟨-, bounded, -, evicts, keeps⟩ := eviction_minimal run
  exact ⟨traffic, run, bounded, evicts "carol" rank (unserved_iff.2 rfl) (by decide), by decide,
    keeps "bob" 1 rfl rank "alice" (by decide)⟩

end Traffic

end Jmap
