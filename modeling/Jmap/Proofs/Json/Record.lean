import Jmap.Json.Record
import Jmap.Proofs.Json.Wire

namespace Jmap.Json

/-- A value of a slot is read back; left out, it is the one in the absence of the member. -/
def Slot.Returns (slot : Slot) (value : slot.Value) : Prop :=
  match slot.write value with
  | none => slot.absent = some value
  | some written => ∀ ending : Ending, ending.check = .ok () →
    slot.read (Outline.whole ending written) = .ok value

namespace Slot

variable {α : Type} [Wire α] {key : String}

theorem required_returns {value : α} (back : ReadsBack value) :
    (required key α).Returns value := back

theorem optional_returns {value : Option α}
    (back : ∀ present, value = some present → ReadsBack present ∧ Wire.write present ≠ .null) :
    (optional key α).Returns value := by
  cases value with
  | none => rfl
  | some present => exact ReadsBack.option back

theorem optionalByName_returns {value : Option α}
    (back : ∀ present, value = some present → ReadsBack present ∧ Wire.write present ≠ .null) :
    (optionalByName key α).Returns value := @optional_returns α _ key value back

end Slot

namespace Row

def Returns : (slots : List Slot) → Row slots → Prop
  | [], _ => True
  | slot :: slots, (value, others) => slot.Returns value ∧ Returns slots others

variable {slot : Slot} {slots : List Slot} {value : slot.Value} {others : Row slots}
  {key : String} {written : Json}

theorem mem_members_cons_iff :
    (key, written) ∈ members (slot :: slots) (value, others) ↔
      slot.key = key ∧ slot.write value = some written ∨ (key, written) ∈ members slots others := by
  rw [members]
  cases slot.write value with
  | none => simp
  | some own =>
    rw [List.mem_cons, Prod.mk.injEq, Option.some.injEq, @eq_comm _ key, @eq_comm _ written]

theorem mem_keys_of_mem_members :
    (slots : List Slot) → (row : Row slots) → (key, written) ∈ members slots row →
      key ∈ slots.map Slot.key
  | [], _, member => nomatch member
  | slot :: slots, (value, others), member => by
    rw [List.map_cons, List.mem_cons]
    rcases mem_members_cons_iff.1 member with own | later
    · exact .inl own.1.symm
    · exact .inr (mem_keys_of_mem_members slots others later)

theorem nodup_keys_members : (slots : List Slot) → (row : Row slots) →
    (slots.map Slot.key).Nodup → ((members slots row).map (·.1)).Nodup
  | [], _, _ => List.nodup_nil
  | slot :: slots, (value, others), distinct => by
    obtain ⟨fresh, distinct⟩ := List.nodup_cons.1 distinct
    have rest := nodup_keys_members slots others distinct
    rw [members]
    cases slot.write value with
    | none => exact rest
    | some own =>
      refine List.nodup_cons.2 ⟨fun member => ?_, rest⟩
      obtain ⟨⟨key, written⟩, later, rfl⟩ := List.mem_map.1 member
      exact fresh (mem_keys_of_mem_members slots others later)

end Row

namespace PartialRow

def restrict (met : String → Bool) : (slots : List Slot) → Row slots → PartialRow slots
  | [], _ => ()
  | slot :: slots, (value, others) =>
    (if met slot.key then some value else none, restrict met slots others)

variable {met : String → Bool}

theorem restrict_false : (slots : List Slot) → (row : Row slots) →
    restrict (fun _ => false) slots row = empty slots
  | [], _ => rfl
  | slot :: slots, (value, others) => by
    rw [restrict, empty, restrict_false slots others, if_neg Bool.false_ne_true]

theorem restrict_congr {other : String → Bool} : (slots : List Slot) → (row : Row slots) →
    (∀ key ∈ slots.map Slot.key, met key = other key) →
      restrict met slots row = restrict other slots row
  | [], _, _ => rfl
  | slot :: slots, (value, others), same => by
    rw [List.map_cons, List.forall_mem_cons] at same
    rw [restrict, restrict, same.1, restrict_congr slots others same.2]

theorem place?_restrict {key : String} {written : Json} {ending : Ending}
    (sound : ending.check = .ok ()) (fresh : met key = false) :
    (slots : List Slot) → (row : Row slots) → (slots.map Slot.key).Nodup →
      row.Returns → (key, written) ∈ Row.members slots row →
        place? key (Outline.whole ending written) slots (restrict met slots row) =
          some (.ok (restrict (fun other => met other || other == key) slots row))
  | [], _, _, _, member => nomatch member
  | slot :: slots, (value, others), distinct, returns, member => by
    obtain ⟨apart, distinct⟩ := List.nodup_cons.1 distinct
    obtain ⟨first, rest⟩ := returns
    simp only [restrict, place?]
    rcases Row.mem_members_cons_iff.1 member with own | later
    · obtain ⟨rfl, written⟩ := own
      have unchanged : restrict (fun other => met other || other == slot.key) slots others =
          restrict met slots others := by
        apply restrict_congr
        intro other member
        have different : other ≠ slot.key := fun same => apart (same ▸ member)
        simp [different]
      rw [Slot.Returns, written] at first
      simp [fresh, unchanged, first ending sound, Except.map]
    · have different : slot.key ≠ key := fun same =>
        apart (same ▸ Row.mem_keys_of_mem_members slots others later)
      rw [if_neg different, place?_restrict sound fresh slots others distinct rest later]
      simp [different, Except.map]

/-- All members have been met, so those that are missing have been left out. -/
theorem complete_restrict : (slots : List Slot) → (row : Row slots) → row.Returns →
    (∀ key written, (key, written) ∈ Row.members slots row → met key = true) →
      complete slots (restrict met slots row) = .ok row
  | [], _, _, _ => rfl
  | slot :: slots, (value, others), returns, all => by
    obtain ⟨first, rest⟩ := returns
    have later := complete_restrict slots others rest (fun key written member =>
      all key written (Row.mem_members_cons_iff.2 (.inr member)))
    have filled : (if met slot.key then some value else none).or slot.absent = some value := by
      rw [Slot.Returns] at first
      cases written : slot.write value with
      | none =>
        rw [written] at first
        cases met slot.key with
        | true => rfl
        | false => exact first
      | some own =>
        rw [all slot.key own (Row.mem_members_cons_iff.2 (.inl ⟨rfl, written⟩))]
        rfl
    simp only [restrict, complete, filled, later]
    rfl

end PartialRow

namespace Row

theorem readMembers_whole {ending : Ending} (sound : ending.check = .ok ()) {slots : List Slot}
    {row : Row slots} (distinct : (slots.map Slot.key).Nodup) (returns : row.Returns)
    (given : List (String × Json)) (met : String → Bool)
    (members : ∀ member ∈ given, member ∈ Row.members slots row)
    (once : (given.map (·.1)).Nodup) (fresh : ∀ member ∈ given, met member.1 = false) :
    readMembers slots (Outline.wholeMembers ending given) (PartialRow.restrict met slots row) =
      .ok (PartialRow.restrict (fun key => met key || (given.map (·.1)).contains key)
        slots row) := by
  induction given generalizing met with
  | nil => simp [Outline.wholeMembers, readMembers]
  | cons member given ih =>
    rw [List.forall_mem_cons] at members fresh
    obtain ⟨apart, once⟩ := List.nodup_cons.1 once
    have others := ih (fun key => met key || key == member.1) members.2 once (by
      intro other otherMember
      have different : other.1 ≠ member.1 := fun same =>
        apart (List.mem_map.2 ⟨other, otherMember, same⟩)
      simp [fresh.2 other otherMember, different])
    rw [Outline.wholeMembers, readMembers,
      PartialRow.place?_restrict sound fresh.1 slots row distinct returns members.1]
    simp only [bind, Except.bind, others]
    congr 2
    funext key
    simp [Bool.or_assoc]

/-- A row is read from its members in any order. -/
theorem read_perm {ending : Ending} (sound : ending.check = .ok ()) (name : String)
    {slots : List Slot} {row : Row slots} (distinct : (slots.map Slot.key).Nodup)
    (returns : row.Returns) {given : List (String × Json)}
    (same : given.Perm (members slots row)) :
    read name slots (Outline.whole ending (.obj given)) = .ok row := by
  have once : (given.map (·.1)).Nodup :=
    ((same.map (·.1)).nodup_iff).2 (nodup_keys_members slots row distinct)
  have met := readMembers_whole sound distinct returns given (fun _ => false)
    (fun member => same.mem_iff.1) once (fun _ _ => rfl)
  rw [PartialRow.restrict_false] at met
  rw [Outline.whole, read, met, sound]
  simp only [Fault.lift, bind, Except.bind]
  apply PartialRow.complete_restrict slots row returns
  intro key written member
  simpa using ⟨written, same.mem_iff.2 member⟩

theorem read_write {ending : Ending} (sound : ending.check = .ok ()) (name : String)
    {slots : List Slot} {row : Row slots} (distinct : (slots.map Slot.key).Nodup)
    (returns : row.Returns) :
    read name slots (Outline.whole ending (write slots row)) = .ok row :=
  read_perm sound name distinct returns
    (Entries.perm_ofList (nodup_keys_members slots row distinct))

theorem readMembers_missing {ending : Ending} (given : List (String × Json))
    (missing : slot.key ∉ given.map (·.1)) {others : PartialRow slots}
    {next : PartialRow (slot :: slots)}
    (wasRead : readMembers (slot :: slots) (Outline.wholeMembers ending given) (none, others) =
      .ok next) : next.1 = none := by
  induction given generalizing others with
  | nil =>
    cases wasRead
    rfl
  | cons member given ih =>
    rw [List.map_cons, List.mem_cons, not_or] at missing
    rw [Outline.wholeMembers, readMembers, PartialRow.place?, if_neg missing.1] at wasRead
    cases placed : PartialRow.place? member.1 (Outline.whole ending member.2) slots others with
    | none =>
      rw [placed] at wasRead
      obtain ⟨-, -, rest⟩ := bind_eq_ok wasRead
      exact ih missing.2 rest
    | some read =>
      rw [placed] at wasRead
      obtain ⟨made, own, rest⟩ := bind_eq_ok wasRead
      obtain ⟨later, -, rfl⟩ := map_eq_ok own
      exact ih missing.2 rest

theorem read_write_missing {ending : Ending} (name : String) {others : List Slot}
    (required : slot.absent = none) (missing : slot.key ∉ others.map Slot.key)
    (written : Row others) (row : Row (slot :: slots)) :
    read name (slot :: slots) (Outline.whole ending (write others written)) ≠ .ok row := by
  intro wasRead
  change read name (slot :: slots) (.obj (Outline.wholeMembers ending
    (Entries.ofList (members others written))) ending) = .ok row at wasRead
  rw [read] at wasRead
  obtain ⟨made, membersRead, rest⟩ := bind_eq_ok wasRead
  obtain ⟨-, -, completed⟩ := bind_eq_ok rest
  have unnamed : slot.key ∉ (Entries.ofList (members others written)).map (·.1) := by
    intro named
    obtain ⟨⟨key, value⟩, listed, rfl⟩ := List.mem_map.1 named
    exact missing (mem_keys_of_mem_members others written (Entries.mem_of_mem_ofList listed))
  have unmet : made.1 = none := readMembers_missing _ unnamed membersRead
  rw [PartialRow.complete, unmet, required] at completed
  cases completed

end Row

end Jmap.Json
