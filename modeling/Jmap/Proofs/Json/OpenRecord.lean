import Jmap.Proofs.Json.Stable

namespace Jmap.Json

namespace PartialRow

theorem place?_eq_none_iff {key : String} {outline : Outline} : {slots : List Slot} →
    {made : PartialRow slots} → (place? key outline slots made = none ↔ key ∉ slots.map Slot.key)
  | [], _ => by simp [place?]
  | slot :: slots, (found, others) => by
    have later := @place?_eq_none_iff key outline slots others
    rw [List.map_cons, List.mem_cons]
    simp only [place?]
    by_cases own : slot.key = key
    · simp [own]
    · simp [own, later, Ne.symm own]

end PartialRow

namespace OpenRow

variable {slots : List Slot} {row : Row slots}

def Apart (slots : List Slot) (others : Dict Json) : Prop :=
  ∀ key value, others.find? key = some value → key ∉ slots.map Slot.key ∧ value.Canonical

theorem Apart.empty : Apart slots .empty := by
  intro key value found
  cases found

theorem Apart.insert {others : Dict Json} (apart : Apart slots others) {key : String} {value : Json}
    (fresh : key ∉ slots.map Slot.key) (canonical : value.Canonical) :
    Apart slots (others.insert key value) := by
  intro other own found
  rw [Dict.find?_insert] at found
  split at found
  · rename_i same
    cases same
    cases found
    exact ⟨fresh, canonical⟩
  · exact apart other own found

theorem readMembers_returns (stable : ∀ slot ∈ slots, slot.Stable)
    (members : List (Option String × Outline)) (ranged : Outline.RangedMembers members)
    (made next : PartialRow slots) (before others : Dict Json) (returns : made.Returns)
    (apart : Apart slots before)
    (wasRead : readMembers slots members made before = .ok (next, others)) :
    next.Returns ∧ Apart slots others := by
  induction members generalizing made before with
  | nil =>
    cases wasRead
    exact ⟨returns, apart⟩
  | cons member members ih =>
    obtain ⟨name, outline⟩ := member
    cases name with
    | none => cases wasRead
    | some key =>
      rw [readMembers] at wasRead
      split at wasRead
      · rename_i placing placed
        obtain ⟨middle, ok, rest⟩ := bind_eq_ok wasRead
        subst ok
        exact ih ranged.2 middle before
          (PartialRow.place?_returns ranged.1 slots stable made middle returns placed) apart rest
      · rename_i unplaced
        obtain ⟨value, kept, rest⟩ := bind_eq_ok wasRead
        exact ih ranged.2 made _ returns (apart.insert (PartialRow.place?_eq_none_iff.1 unplaced)
          (canonical_of_read_json ranged.1 kept)) rest

theorem read_returns (stable : ∀ slot ∈ slots, slot.Stable) {name : String} {outline : Outline}
    (ranged : outline.Ranged) {others : Dict Json}
    (wasRead : read name slots outline = .ok (row, others)) :
    row.Returns ∧ Apart slots others := by
  cases outline with
  | obj members ending =>
    obtain ⟨⟨made, kept⟩, readMembers, rest⟩ := bind_eq_ok wasRead
    obtain ⟨-, -, rest⟩ := bind_eq_ok rest
    obtain ⟨own, completed, same⟩ := bind_eq_ok rest
    cases same
    obtain ⟨returns, apart⟩ := readMembers_returns stable members ranged _ made _ _
      (PartialRow.empty_returns slots) .empty readMembers
    exact ⟨PartialRow.complete_returns slots stable made returns _ completed, apart⟩
  | _ => cases wasRead

theorem readMembers_whole {ending : Ending} (sound : ending.check = .ok ())
    (distinct : (slots.map Slot.key).Nodup) (returns : row.Returns)
    (given : List (String × Json)) (met : String → Bool) (made all : Dict Json)
    (members : ∀ member ∈ given, member ∈ Row.members slots row ∨
      member.1 ∉ slots.map Slot.key ∧ member.2.Canonical)
    (once : (given.map (·.1)).Nodup) (fresh : ∀ member ∈ given, met member.1 = false)
    (kept : all.entries = made.entries ++
      given.filter (fun member => !(slots.map Slot.key).contains member.1)) :
    readMembers slots (Outline.wholeMembers ending given) (PartialRow.restrict met slots row) made =
      .ok (PartialRow.restrict (fun key => met key || (given.map (·.1)).contains key) slots row,
        all) := by
  induction given generalizing met made with
  | nil =>
    have same : all = made := Dict.ext_entries (by simpa using kept)
    simp [Outline.wholeMembers, readMembers, same]
  | cons member given ih =>
    obtain ⟨key, value⟩ := member
    rw [List.forall_mem_cons] at members fresh
    obtain ⟨apart, once⟩ := List.nodup_cons.1 once
    have later : ∀ member ∈ given, (met member.1 || member.1 == key) = false := by
      intro other otherMember
      have different : other.1 ≠ key := fun same =>
        apart (List.mem_map.2 ⟨other, otherMember, same⟩)
      simp [fresh.2 other otherMember, different]
    have combined : (fun other => met other || other == key || (given.map (·.1)).contains other) =
        fun other => met other || (((key, value) :: given).map (·.1)).contains other := by
      funext other
      simp [Bool.or_assoc]
    rw [Outline.wholeMembers, readMembers, ← combined]
    rcases members.1 with own | ⟨foreign, canonical⟩
    · have known := Row.mem_keys_of_mem_members slots row own
      rw [List.filter_cons_of_neg (by simpa using known)] at kept
      rw [PartialRow.place?_restrict sound fresh.1 slots row distinct returns own]
      exact ih _ made members.2 once later kept
    · have sameRow : PartialRow.restrict met slots row =
          PartialRow.restrict (fun other => met other || other == key) slots row := by
        apply PartialRow.restrict_congr
        intro other member
        have different : other ≠ key := fun same => foreign (same ▸ member)
        simp [different]
      rw [List.filter_cons_of_pos (by simpa using foreign)] at kept
      have sorted : Entries.Sorted (made.entries ++ (key, value) :: _) := kept ▸ all.sorted
      have added : (made.insert key value).entries = made.entries ++ [(key, value)] :=
        Entries.insert_above sorted.above_of_append
      have unplaced : PartialRow.place? key (Outline.whole ending value) slots
          (PartialRow.restrict met slots row) = none := PartialRow.place?_eq_none_iff.2 foreign
      have rest := ih (fun other => met other || other == key) (made.insert key value) members.2
        once later (by rw [kept, added, List.append_assoc, List.singleton_append])
      rw [unplaced]
      simp only [Outline.keep_whole sound value canonical, Fault.lift, bind, Except.bind]
      rw [sameRow]
      exact rest

variable {others : Dict Json}

theorem Apart.nodup_keys (apart : Apart slots others) (distinct : (slots.map Slot.key).Nodup) :
    ((Row.members slots row ++ others.entries).map (·.1)).Nodup := by
  rw [List.map_append, List.nodup_append]
  refine ⟨Row.nodup_keys_members slots row distinct, others.sorted.nodup_keys, ?_⟩
  intro key member other otherMember same
  subst same
  obtain ⟨⟨_, written⟩, own, rfl⟩ := List.mem_map.1 member
  obtain ⟨⟨_, value⟩, kept, same⟩ := List.mem_map.1 otherMember
  cases same
  exact (apart _ value (Dict.find?_eq_some_iff.2 kept)).1
    (Row.mem_keys_of_mem_members slots row own)

theorem Apart.filter_entries (apart : Apart slots others)
    (distinct : (slots.map Slot.key).Nodup) :
    (Entries.ofList (Row.members slots row ++ others.entries)).filter
      (fun member => !(slots.map Slot.key).contains member.1) = others.entries := by
  have own : (Row.members slots row).filter
      (fun member => !(slots.map Slot.key).contains member.1) = [] := by
    refine List.filter_eq_nil_iff.2 (fun member present => ?_)
    have known := Row.mem_keys_of_mem_members slots row present
    simpa using known
  have kept : others.entries.filter (fun member => !(slots.map Slot.key).contains member.1) =
      others.entries := by
    refine List.filter_eq_self.2 (fun member present => ?_)
    have foreign := (apart member.1 member.2 (Dict.find?_eq_some_iff.2 present)).1
    simpa using foreign
  have once : ((Row.members slots row ++ others.entries).map (·.1)).Nodup :=
    apart.nodup_keys distinct
  have same := (Entries.perm_ofList once).filter
    (fun member => !(slots.map Slot.key).contains member.1)
  rw [List.filter_append, own, kept, List.nil_append] at same
  exact Entries.Sorted.eq_of_perm (List.Pairwise.filter _ (Entries.Sorted.ofList _)) others.sorted
    same

theorem read_whole {ending : Ending} (sound : ending.check = .ok ()) (name : String)
    (distinct : (slots.map Slot.key).Nodup) (returns : row.Returns) (apart : Apart slots others)
    {given : List (String × Json)} (same : given.Perm (Row.members slots row ++ others.entries))
    (kept : given.filter (fun member => !(slots.map Slot.key).contains member.1) = others.entries) :
    read name slots (Outline.whole ending (.obj given)) = .ok (row, others) := by
  have once : (given.map (·.1)).Nodup := ((same.map (·.1)).nodup_iff).2 (apart.nodup_keys distinct)
  have met := readMembers_whole sound distinct returns given (fun _ => false) .empty others
    (fun member present => by
      rcases List.mem_append.1 (same.mem_iff.1 present) with own | beside
      · exact .inl own
      · exact .inr (apart member.1 member.2 (Dict.find?_eq_some_iff.2 beside)))
    once (fun _ _ => rfl) kept.symm
  rw [PartialRow.restrict_false] at met
  rw [Outline.whole, read, met, sound]
  simp only [Fault.lift, bind, Except.bind]
  rw [PartialRow.complete_restrict slots row returns]
  intro key written member
  simpa using ⟨written, same.mem_iff.2 (List.mem_append_left _ member)⟩

theorem write_of_perm (distinct : (slots.map Slot.key).Nodup) (apart : Apart slots others)
    {given : List (String × Json)} (sorted : Entries.Sorted given)
    (same : given.Perm (Row.members slots row ++ others.entries)) :
    write slots row others = .obj given :=
  congrArg Json.obj (Entries.Sorted.eq_of_perm (Entries.Sorted.ofList _) sorted
    ((Entries.perm_ofList (apart.nodup_keys distinct)).trans same.symm))

theorem read_write {ending : Ending} (sound : ending.check = .ok ()) (name : String)
    (distinct : (slots.map Slot.key).Nodup) (returns : row.Returns) (apart : Apart slots others) :
    read name slots (Outline.whole ending (write slots row others)) = .ok (row, others) :=
  read_whole sound name distinct returns apart (Entries.perm_ofList (apart.nodup_keys distinct))
    (apart.filter_entries distinct)

end OpenRow

end Jmap.Json
