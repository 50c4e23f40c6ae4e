import Jmap.Proofs.Json.Record

/-!
Members that are null. Where a slot takes null for the value that it has in the absence of its
member, a member that is null may be added or left out without a change to what is read. Where
a slot refuses null, such a member spoils the record.
-/

namespace Jmap

namespace Json

def Slot.NullIsAbsent (slot : Slot) : Prop :=
  ∃ value, slot.absent = some value ∧ slot.read .null = .ok value

theorem Slot.nullIsAbsent_nullable (key : String) (α : Type) [Wire α] :
    (nullable key α).NullIsAbsent := ⟨none, rfl, rfl⟩

namespace PartialRow

/-- The slot of a key, if it has not been met, gets its value in the absence of the member. -/
def settle (key : String) : (slots : List Slot) → PartialRow slots → PartialRow slots
  | [], _ => ()
  | slot :: slots, (found, others) =>
    if slot.key = key then (found.or slot.absent, others) else (found, settle key slots others)

def Unmet (key : String) : (slots : List Slot) → PartialRow slots → Prop
  | [], _ => True
  | slot :: slots, (found, others) =>
    if slot.key = key then found = none else Unmet key slots others

variable {key other : String} {value : Outline}

theorem unmet_empty : (slots : List Slot) → Unmet key slots (empty slots)
  | [] => trivial
  | slot :: slots => by
    rw [empty, Unmet]
    split
    · rfl
    · exact unmet_empty slots

theorem unmet_of_place? (different : other ≠ key) : (slots : List Slot) →
    (made next : PartialRow slots) → Unmet key slots made →
      place? other value slots made = some (.ok next) → Unmet key slots next
  | [], _, _, _, placed => nomatch placed
  | slot :: slots, (found, others), next, unmet, placed => by
    simp only [place?] at placed
    rw [Unmet] at unmet ⊢
    split at placed
    · rename_i own
      rw [if_neg (own ▸ different)] at unmet ⊢
      cases found with
      | some _ => cases placed
      | none =>
        obtain ⟨first, -, rfl⟩ := map_eq_ok (Option.some.inj placed)
        exact unmet
    · obtain ⟨read, later, same⟩ := Option.map_eq_some_iff.1 placed
      obtain ⟨rest, rfl, rfl⟩ := map_eq_ok same
      split
      · rename_i own
        rwa [if_pos own] at unmet
      · rename_i apart
        rw [if_neg apart] at unmet
        exact unmet_of_place? different slots others rest unmet later

theorem place?_settle (different : other ≠ key) : (slots : List Slot) →
    (made : PartialRow slots) → place? other value slots (settle key slots made) =
      (place? other value slots made).map (fun read => read.map (settle key slots))
  | [], _ => rfl
  | slot :: slots, (found, others) => by
    rw [settle]
    by_cases own : slot.key = key
    · have apart : slot.key ≠ other := fun same => different (same.symm.trans own)
      simp only [if_pos own, place?, if_neg apart]
      cases place? other value slots others with
      | none => rfl
      | some read => cases read <;> simp [Except.map, settle, own]
    · simp only [if_neg own, place?, place?_settle different slots others]
      split
      · cases found with
        | some _ => rfl
        | none => cases slot.read value <;> simp [Except.map, settle, own]
      · cases place? other value slots others with
        | none => rfl
        | some read => cases read <;> simp [Except.map, settle, own]

theorem complete_settle : (slots : List Slot) → (made : PartialRow slots) →
    complete slots (settle key slots made) = complete slots made
  | [], _ => rfl
  | slot :: slots, (found, others) => by
    rw [settle]
    split
    · rw [complete, complete, Option.or_assoc, Option.or_self]
    · rw [complete, complete, complete_settle slots others]

theorem place?_null : (slots : List Slot) → (made : PartialRow slots) →
    (∀ slot ∈ slots, slot.key = key → slot.NullIsAbsent) → Unmet key slots made →
      place? key .null slots made = some (.ok (settle key slots made)) ∨
        place? key .null slots made = none ∧ settle key slots made = made
  | [], _, _, _ => .inr ⟨rfl, rfl⟩
  | slot :: slots, (found, others), passes, unmet => by
    rw [List.forall_mem_cons] at passes
    simp only [place?, settle]
    rw [Unmet] at unmet
    split at unmet
    · rename_i own
      obtain ⟨value, absent, null⟩ := passes.1 own
      simp [own, unmet, absent, null, Except.map]
    · rename_i apart
      rw [if_neg apart, if_neg apart]
      rcases place?_null slots others passes.2 unmet with placed | ⟨unplaced, same⟩
      · exact .inl (by rw [placed]; rfl)
      · exact .inr ⟨by rw [unplaced]; rfl, by rw [same]⟩

theorem place?_refused {problem : ReadError} : (slots : List Slot) → (made : PartialRow slots) →
    (∀ slot ∈ slots, slot.key = key → slot.read value = .error problem) →
      key ∈ slots.map Slot.key → Unmet key slots made →
        place? key value slots made = some (.error problem)
  | [], _, _, listed, _ => nomatch listed
  | slot :: slots, (found, others), refuses, listed, unmet => by
    rw [List.forall_mem_cons] at refuses
    simp only [place?]
    rw [Unmet] at unmet
    split at unmet
    · rename_i own
      simp [own, unmet, refuses.1 own, Except.map]
    · rename_i apart
      have later : key ∈ slots.map Slot.key :=
        (List.mem_cons.1 listed).resolve_left (Ne.symm apart)
      rw [if_neg apart, place?_refused slots others refuses.2 later unmet]
      rfl

end PartialRow

namespace Row

variable {key name : String} {slots : List Slot} {front back : List (Option String × Outline)}
  {made next : PartialRow slots} {ending : Ending}

theorem readMembers_append : (front : List (Option String × Outline)) →
    (made : PartialRow slots) → readMembers slots (front ++ back) made =
      (readMembers slots front made >>= readMembers slots back)
  | [], _ => rfl
  | (none, _) :: _, _ => rfl
  | (some other, value) :: front, made => by
    simp only [List.cons_append, readMembers]
    cases PartialRow.place? other value slots made with
    | some read =>
      cases read with
      | error problem => rfl
      | ok next => exact readMembers_append front next
    | none =>
      cases Fault.lift value.skip with
      | error problem => rfl
      | ok _ => exact readMembers_append front made

theorem readMembers_settle : (front : List (Option String × Outline)) →
    (made : PartialRow slots) → some key ∉ front.map (·.1) →
      readMembers slots front (PartialRow.settle key slots made) =
        (readMembers slots front made).map (PartialRow.settle key slots)
  | [], _, _ => rfl
  | (none, _) :: _, _, _ => rfl
  | (some other, value) :: front, made, missing => by
    rw [List.map_cons, List.mem_cons, not_or] at missing
    have different : other ≠ key := fun same => missing.1 (congrArg some same.symm)
    simp only [readMembers, PartialRow.place?_settle different]
    cases PartialRow.place? other value slots made with
    | some read =>
      cases read with
      | error problem => rfl
      | ok next => exact readMembers_settle front next missing.2
    | none =>
      cases Fault.lift value.skip with
      | error problem => rfl
      | ok _ => exact readMembers_settle front made missing.2

theorem unmet_of_readMembers (front : List (Option String × Outline))
    {made : PartialRow slots} (missing : some key ∉ front.map (·.1))
    (unmet : PartialRow.Unmet key slots made)
    (wasRead : readMembers slots front made = .ok next) : PartialRow.Unmet key slots next := by
  induction front generalizing made with
  | nil =>
    cases wasRead
    exact unmet
  | cons member front ih =>
    obtain ⟨_ | other, value⟩ := member
    · cases wasRead
    · rw [List.map_cons, List.mem_cons, not_or] at missing
      have different : other ≠ key := fun same => missing.1 (congrArg some same.symm)
      rw [readMembers] at wasRead
      cases placed : PartialRow.place? other value slots made with
      | none =>
        rw [placed] at wasRead
        obtain ⟨-, -, rest⟩ := bind_eq_ok wasRead
        exact ih missing.2 unmet rest
      | some read =>
        rw [placed] at wasRead
        obtain ⟨met, rfl, rest⟩ := bind_eq_ok wasRead
        exact ih missing.2
          (PartialRow.unmet_of_place? different slots made met unmet placed) rest

/-- A null that counts as absent may stand anywhere among the members. -/
theorem readMembers_null (passes : ∀ slot ∈ slots, slot.key = key → slot.NullIsAbsent)
    (unmet : PartialRow.Unmet key slots made) (before : some key ∉ front.map (·.1))
    (behind : some key ∉ back.map (·.1)) :
    (readMembers slots (front ++ (some key, .null) :: back) made >>= PartialRow.complete slots) =
      (readMembers slots (front ++ back) made >>= PartialRow.complete slots) := by
  rw [readMembers_append, readMembers_append]
  cases wasRead : readMembers slots front made with
  | error problem => rfl
  | ok met =>
    have settled : readMembers slots ((some key, .null) :: back) met =
        readMembers slots back (PartialRow.settle key slots met) := by
      rw [readMembers]
      rcases PartialRow.place?_null slots met passes
        (unmet_of_readMembers front before unmet wasRead) with placed | ⟨unplaced, same⟩
      · rw [placed]
        rfl
      · rw [unplaced, same]
        rfl
    change (readMembers slots ((some key, .null) :: back) met >>= PartialRow.complete slots) =
      (readMembers slots back met >>= PartialRow.complete slots)
    rw [settled, readMembers_settle back met behind]
    cases readMembers slots back met with
    | error problem => rfl
    | ok later => exact PartialRow.complete_settle slots later

theorem readMembers_refused {value : Outline} {problem : ReadError}
    (refuses : ∀ slot ∈ slots, slot.key = key → slot.read value = .error problem)
    (known : key ∈ slots.map Slot.key) (unmet : PartialRow.Unmet key slots made)
    (before : some key ∉ front.map (·.1)) :
    readMembers slots (front ++ (some key, value) :: back) made =
      (readMembers slots front made >>= fun _ => .error problem) := by
  rw [readMembers_append]
  cases wasRead : readMembers slots front made with
  | error problem => rfl
  | ok met =>
    have placed := PartialRow.place?_refused slots met refuses known
      (unmet_of_readMembers front before unmet wasRead)
    change readMembers slots ((some key, value) :: back) met = .error problem
    rw [readMembers, placed]
    rfl

end Row

theorem Outline.ofMembers_append (front back : List (String × Json)) :
    ofMembers (front ++ back) = ofMembers front ++ ofMembers back := by
  induction front with
  | nil => rfl
  | cons member front ih => rw [List.cons_append, ofMembers, ih]; rfl

theorem Outline.mem_keys_ofMembers {key : String} (members : List (String × Json)) :
    some key ∈ (ofMembers members).map (·.1) ↔ key ∈ members.map (·.1) := by
  induction members with
  | nil => simp [ofMembers]
  | cons member members ih => simp [ofMembers, ih]

namespace Row

variable {key name : String} {slots : List Slot} {members : List (String × Json)}

theorem read_held : read name slots (.ofJson (.obj members)) =
    (readMembers slots (Outline.ofMembers members) (PartialRow.empty slots) >>=
      PartialRow.complete slots) := rfl

theorem read_insert_null (passes : ∀ slot ∈ slots, slot.key = key → slot.NullIsAbsent)
    (missing : Entries.find? key members = none) :
    read name slots (.ofJson (.obj (Entries.insert key .null members))) =
      read name slots (.ofJson (.obj members)) := by
  rw [Entries.find?_eq_none_iff] at missing
  obtain ⟨front, back, rfl, inserted⟩ :=
    Entries.exists_insert_eq (Entries.find?_eq_none_iff.2 missing) Json.null
  rw [List.map_append, List.mem_append, not_or] at missing
  rw [read_held, read_held, inserted, Outline.ofMembers_append, Outline.ofMembers_append]
  exact readMembers_null passes (PartialRow.unmet_empty slots)
    (mt (Outline.mem_keys_ofMembers front).1 missing.1)
    (mt (Outline.mem_keys_ofMembers back).1 missing.2)

theorem read_insert_null_refused {problem : ReadError}
    (refuses : ∀ slot ∈ slots, slot.key = key → slot.read .null = .error problem)
    (known : key ∈ slots.map Slot.key) (missing : Entries.find? key members = none)
    (others : ∀ other, read name slots (.ofJson (.obj members)) = .error other →
      other = problem) :
    read name slots (.ofJson (.obj (Entries.insert key .null members))) = .error problem := by
  rw [Entries.find?_eq_none_iff] at missing
  obtain ⟨front, back, rfl, inserted⟩ :=
    Entries.exists_insert_eq (Entries.find?_eq_none_iff.2 missing) Json.null
  rw [List.map_append, List.mem_append, not_or] at missing
  rw [read_held, Outline.ofMembers_append, readMembers_append] at others
  rw [read_held, inserted, Outline.ofMembers_append]
  rw [show Outline.ofMembers ((key, Json.null) :: back) =
      (some key, .null) :: Outline.ofMembers back from rfl,
    readMembers_refused refuses known (PartialRow.unmet_empty slots)
      (mt (Outline.mem_keys_ofMembers front).1 missing.1)]
  cases wasRead : readMembers slots (Outline.ofMembers front) (PartialRow.empty slots) with
  | error other =>
    rw [wasRead] at others
    exact congrArg Except.error (others other rfl)
  | ok met => rfl

end Row

def withNulls (keys : List String) (members : List (String × Json)) : List (String × Json) :=
  keys.foldl (fun members key => Entries.insert key .null members) members

structure Lacks (members : List (String × Json)) (keys : List String) : Prop where
  distinct : keys.Nodup
  missing : ∀ key ∈ keys, Entries.find? key members = none

theorem Lacks.tail {members : List (String × Json)} {key : String} {keys : List String}
    (lacks : Lacks members (key :: keys)) (value : Json) :
    Lacks (Entries.insert key value members) keys := by
  obtain ⟨apart, distinct⟩ := List.nodup_cons.1 lacks.distinct
  refine ⟨distinct, fun other listed => ?_⟩
  have different : key ≠ other := fun same => apart (same ▸ listed)
  rw [Entries.find?_insert, if_neg different]
  exact lacks.missing other (List.mem_cons_of_mem key listed)

namespace Row

variable {name : String} {slots : List Slot} {members : List (String × Json)}
  {keys : List String}

theorem read_withNulls (passes : ∀ slot ∈ slots, slot.key ∈ keys → slot.NullIsAbsent)
    (lacks : Lacks members keys) :
    read name slots (.ofJson (.obj (withNulls keys members))) =
      read name slots (.ofJson (.obj members)) := by
  induction keys generalizing members with
  | nil => rfl
  | cons key keys ih =>
    have first : read name slots (.ofJson (.obj (Entries.insert key .null members))) =
        read name slots (.ofJson (.obj members)) :=
      read_insert_null (fun slot listed own => passes slot listed (List.mem_cons.2 (.inl own)))
        (lacks.missing key List.mem_cons_self)
    exact (ih (fun slot listed own => passes slot listed (List.mem_cons_of_mem key own))
      (lacks.tail .null)).trans first

theorem exists_write_of_mem_members {key : String} {written : Json} : (slots : List Slot) →
    (row : Row slots) → (slots.map Slot.key).Nodup → (key, written) ∈ Row.members slots row →
      ∀ slot ∈ slots, slot.key = key → ∃ value, slot.write value = some written
  | [], _, _, member => nomatch member
  | first :: slots, (value, others), distinct, member => by
    obtain ⟨apart, distinct⟩ := List.nodup_cons.1 distinct
    rw [List.forall_mem_cons]
    rcases mem_members_cons_iff.1 member with ⟨rfl, own⟩ | later
    · exact ⟨fun _ => ⟨value, own⟩, fun slot listed same =>
        absurd (same ▸ List.mem_map_of_mem listed) apart⟩
    · have known := mem_keys_of_mem_members slots others later
      exact ⟨fun same => absurd (same ▸ known) apart,
        exists_write_of_mem_members slots others distinct later⟩

theorem withNulls_map_fst {nulls : List (String × Json)}
    (all : ∀ member ∈ nulls, member.2 = .null) :
    withNulls (nulls.map (·.1)) members =
      nulls.foldl (fun made member => Entries.insert member.1 member.2 made) members := by
  induction nulls generalizing members with
  | nil => rfl
  | cons member nulls ih =>
    rw [List.forall_mem_cons] at all
    rw [List.map_cons, withNulls, List.foldl_cons, List.foldl_cons, all.1]
    exact ih all.2

theorem read_without_nulls {row : Row slots} (distinct : (slots.map Slot.key).Nodup)
    (returns : row.Returns)
    (passes : ∀ slot ∈ slots, (∃ value, slot.write value = some .null) → slot.NullIsAbsent) :
    read name slots (.ofJson (.ofMembers
      ((Row.members slots row).filter (fun member => member.2 ≠ .null)))) = .ok row := by
  let given := Row.members slots row
  let present := given.filter (fun member => member.2 ≠ .null)
  let nulls := given.filter (fun member => !decide (member.2 ≠ .null))
  have once : (given.map (·.1)).Nodup := nodup_keys_members slots row distinct
  have parted : (present ++ nulls).Perm given := List.filter_append_perm _ given
  have onceParted : ((present ++ nulls).map (·.1)).Nodup := ((parted.map _).nodup_iff).2 once
  have isNull : ∀ member ∈ nulls, member.2 = .null := fun member listed => by
    simpa using (List.mem_filter.1 listed).2
  -- With the nulls put back these are all members that are written.
  have padded : withNulls (nulls.map (·.1)) (Entries.ofList present) = Entries.ofList given := by
    rw [withNulls_map_fst isNull, Entries.ofList, ← List.foldl_append]
    exact Entries.Sorted.eq_of_perm (Entries.Sorted.ofList _) (Entries.Sorted.ofList _)
      ((Entries.perm_ofList onceParted).trans (parted.trans (Entries.perm_ofList once).symm))
  have lacks : Lacks (Entries.ofList present) (nulls.map (·.1)) := by
    rw [List.map_append, List.nodup_append] at onceParted
    refine ⟨onceParted.2.1, fun key listed => Entries.find?_eq_none_iff.2 (fun found => ?_)⟩
    obtain ⟨member, kept, same⟩ := List.mem_map.1 found
    exact onceParted.2.2 key (List.mem_map.2 ⟨member, Entries.mem_of_mem_ofList kept, same⟩) key
      listed rfl
  have whole : read name slots (.ofJson (.obj (Entries.ofList given))) = .ok row := by
    rw [Outline.ofJson_eq]
    exact read_write rfl name distinct returns
  rw [← padded, read_withNulls (fun slot listed own => ?_) lacks] at whole
  · exact whole
  · obtain ⟨member, null, same⟩ := List.mem_map.1 own
    have written : (slot.key, Json.null) ∈ given := by
      rw [← same, ← isNull member null]
      exact (List.mem_filter.1 null).1
    have isNull := exists_write_of_mem_members slots row distinct written slot listed rfl
    exact passes slot listed isNull

theorem read_withNulls_refused {problem : ReadError} (some : keys ≠ [])
    (refuses : ∀ slot ∈ slots, slot.key ∈ keys → slot.read .null = .error problem)
    (known : ∀ key ∈ keys, key ∈ slots.map Slot.key) (lacks : Lacks members keys)
    (others : ∀ other, read name slots (.ofJson (.obj members)) = .error other →
      other = problem) :
    read name slots (.ofJson (.obj (withNulls keys members))) = .error problem := by
  induction keys generalizing members with
  | nil => exact absurd rfl some
  | cons key keys ih =>
    have first : read name slots (.ofJson (.obj (Entries.insert key .null members))) =
        .error problem :=
      read_insert_null_refused
        (fun slot listed own => refuses slot listed (List.mem_cons.2 (.inl own)))
        (known key List.mem_cons_self) (lacks.missing key List.mem_cons_self) others
    cases keys with
    | nil => exact first
    | cons next keys =>
      refine ih (List.cons_ne_nil next keys)
        (fun slot listed own => refuses slot listed (List.mem_cons_of_mem key own))
        (fun other listed => known other (List.mem_cons_of_mem key listed)) (lacks.tail .null)
        (fun other failed => ?_)
      exact Except.error.inj (failed.symm.trans first)

end Row

end Json

end Jmap
