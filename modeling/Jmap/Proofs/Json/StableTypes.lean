import Jmap.Proofs.Json.OpenRecord

namespace Jmap.Json

open Outline (Ranged)

/-- What has been read of a type is read back, and only null is written as null. -/
class StableWire (α : Type) [Wire α] : Prop where
  readsBack : ∀ {outline : Outline}, outline.Ranged → ∀ {value : α},
    Wire.read outline = .ok value → ReadsBack value
  notNull : ∀ {outline : Outline}, outline ≠ .null → ∀ {value : α},
    Wire.read outline = .ok value → Wire.write value ≠ .null

def Rereads (α : Type) [Wire α] : Prop :=
  ∀ (value : Json) (typed : α), value.Canonical → read? α value = .ok typed →
    read? α (Wire.write typed) = .ok typed

variable {α : Type} [Wire α]

theorem StableWire.rereads [StableWire α] : Rereads α := by
  intro value typed canonical wasRead
  rw [read?, Outline.ofJson_eq] at wasRead
  exact (StableWire.readsBack (Outline.ranged_whole value canonical) wasRead).read?

@[simp] theorem ReadsBack.bool (value : Bool) : ReadsBack value := fun _ _ => rfl

theorem readNat_int {value bound : Nat} (small : value < bound) (wanted : String) :
    Outline.readNat bound wanted (.int value) = .ok value := by
  rw [Outline.readNat, if_pos ⟨by omega, by omega⟩, Int.toNat_natCast]

@[simp] theorem ReadsBack.uint64 (value : UInt64) : ReadsBack value := by
  intro ending sound
  have number := readNat_int value.toNat_lt_size "u64"
  have written : Outline.whole ending (Wire.write value) = .int value.toNat := by
    simp only [Wire.write, Outline.whole]
  rw [written]
  exact (congrArg (Except.map UInt64.ofNat) number).trans (congrArg Except.ok UInt64.ofNat_toNat)

theorem canonical_of_map_uint64 {value : Option UInt64} {written : Json}
    (same : value.map Wire.write = some written) : written.Canonical := by
  obtain ⟨number, -, rfl⟩ := Option.map_eq_some_iff.1 same
  have small := number.toNat_lt
  constructor
  · omega
  · omega

@[simp] theorem ReadsBack.uint32 (value : UInt32) : ReadsBack value := by
  intro ending sound
  have number := readNat_int value.toNat_lt_size "u32"
  have written : Outline.whole ending (Wire.write value) = .int value.toNat := by
    simp only [Wire.write, Outline.whole]
  rw [written]
  exact (congrArg (Except.map UInt32.ofNat) number).trans (congrArg Except.ok UInt32.ofNat_toNat)

attribute [simp] ReadsBack.string

@[simp] theorem ReadsBack.none : ReadsBack (none : Option α) := fun _ _ => rfl

@[simp] theorem ReadsBack.nil : ReadsBack ([] : List α) := .list nofun

@[simp] theorem ReadsBack.empty : ReadsBack (Dict.empty : Dict α) := .dict nofun

instance : StableWire String where
  readsBack _ _ _ := .string _
  notNull _ _ _ := Json.noConfusion

instance : StableWire Bool where
  readsBack _ _ _ := .bool _
  notNull _ _ _ := Json.noConfusion

instance : StableWire UInt64 where
  readsBack _ _ _ := .uint64 _
  notNull _ _ _ := Json.noConfusion

instance : StableWire UInt32 where
  readsBack _ _ _ := .uint32 _
  notNull _ _ _ := Json.noConfusion

instance : StableWire Json where
  readsBack ranged _ wasRead := .ofCanonical (canonical_of_read_json ranged wasRead)
  notNull {outline} present value wasRead := by
    rintro rfl
    have kept : outline.keep = .ok .null := lift_eq_ok wasRead
    cases outline with
    | null => exact present rfl
    | arr items ending =>
      rw [Outline.keep] at kept
      obtain ⟨values, -, rest⟩ := bind_eq_ok kept
      obtain ⟨-, -, same⟩ := bind_eq_ok rest
      cases same
    | obj members ending =>
      rw [Outline.keep] at kept
      obtain ⟨values, -, rest⟩ := bind_eq_ok kept
      obtain ⟨-, -, same⟩ := bind_eq_ok rest
      cases same
    | _ => cases kept

theorem readOption_cases {outline : Outline} {value : Option α}
    (wasRead : Wire.read outline = .ok value) :
    outline = .null ∧ value = none ∨
      outline ≠ .null ∧ ∃ present, Wire.read outline = .ok present ∧ value = some present := by
  change Outline.readOption Wire.read outline = .ok value at wasRead
  cases outline with
  | null =>
    cases wasRead
    exact .inl ⟨rfl, rfl⟩
  | _ =>
    obtain ⟨present, own, rfl⟩ := map_eq_ok wasRead
    exact .inr ⟨nofun, present, own, rfl⟩

instance [StableWire α] : StableWire (Option α) where
  readsBack ranged value wasRead := by
    rcases readOption_cases wasRead with ⟨rfl, rfl⟩ | ⟨notNull, present, own, rfl⟩
    · exact .none
    · apply ReadsBack.option
      rintro _ ⟨⟩
      exact ⟨StableWire.readsBack ranged own, StableWire.notNull notNull own⟩
  notNull notNull value wasRead := by
    rcases readOption_cases wasRead with ⟨rfl, -⟩ | ⟨-, present, own, rfl⟩
    · exact absurd rfl notNull
    · exact @StableWire.notNull α _ _ _ notNull _ own

instance [StableWire α] : StableWire (List α) where
  readsBack ranged _ wasRead :=
    readsBack_of_readList (fun _ ranged _ => StableWire.readsBack ranged) ranged wasRead
  notNull _ _ _ := Json.noConfusion

theorem readsBack_of_readEntries [StableWire α] (members : List (Option String × Outline))
    (ranged : Outline.RangedMembers members) (made dict : Dict α)
    (back : ∀ key value, made.find? key = some value → ReadsBack value)
    (wasRead : Outline.readEntries Wire.read members made = .ok dict) :
    ∀ key value, dict.find? key = some value → ReadsBack value := by
  induction members generalizing made with
  | nil =>
    cases wasRead
    exact back
  | cons member members ih =>
    obtain ⟨name, outline⟩ := member
    cases name with
    | none => cases wasRead
    | some name =>
      obtain ⟨first, own, rest⟩ := bind_eq_ok wasRead
      refine ih ranged.2 _ (fun key value found => ?_) rest
      rw [Dict.find?_insert] at found
      split at found
      · cases found
        exact StableWire.readsBack ranged.1 own
      · exact back key value found

instance [StableWire α] : StableWire (Dict α) where
  readsBack {outline} ranged value wasRead := by
    change Outline.readDict Wire.read outline = .ok value at wasRead
    cases outline with
    | obj members ending =>
      obtain ⟨dict, entries, rest⟩ := bind_eq_ok wasRead
      obtain ⟨-, -, same⟩ := bind_eq_ok rest
      cases same
      exact .dict (readsBack_of_readEntries members ranged .empty _ nofun entries)
    | _ => cases wasRead
  notNull _ _ _ := Json.noConfusion

namespace Slot

variable {key : String} {default : α}

@[simp] theorem stable_required [StableWire α] : (required key α).Stable where
  read _ ranged _ wasRead := StableWire.readsBack ranged wasRead
  absent := nofun
  trailing := nofun

@[simp] theorem stable_defaulted [StableWire α] :
    (defaulted key α default).Stable ↔ ReadsBack default := by
  constructor
  · exact fun stable => stable.absent default rfl
  · intro back
    refine ⟨fun _ ranged _ wasRead => StableWire.readsBack ranged wasRead, ?_, ?_⟩
    all_goals
      rintro value ⟨⟩
      exact back

@[simp] theorem stable_optional [StableWire α] : (optional key α).Stable where
  read outline ranged value wasRead := by
    rcases readOption_cases wasRead with ⟨-, rfl⟩ | ⟨notNull, present, own, rfl⟩
    · rfl
    · apply optional_returns
      rintro _ ⟨⟩
      exact ⟨StableWire.readsBack ranged own, StableWire.notNull notNull own⟩
  absent := by
    rintro value ⟨⟩
    rfl
  trailing := by
    rintro value ⟨⟩
    rfl

@[simp] theorem stable_optionalByName [StableWire α] : (optionalByName key α).Stable where
  read := (@stable_optional α _ key _).read
  absent := (@stable_optional α _ key _).absent
  trailing := nofun

@[simp] theorem stable_omittedIfEmpty [StableWire α] : (omittedIfEmpty key α).Stable where
  read outline ranged dict wasRead := by
    have back : ReadsBack dict := StableWire.readsBack ranged wasRead
    cases empty : Dict.isEmpty dict with
    | true =>
      rw [Dict.eq_empty empty]
      rfl
    | false =>
      have written : (omittedIfEmpty key α).write dict = some (Wire.write dict) := by simp [empty]
      rw [Slot.Returns, written]
      exact back
  absent := by
    rintro value ⟨⟩
    rfl
  trailing := by
    rintro value ⟨⟩
    rfl

end Slot

theorem ReadsBack.record {β : Type} {name : String} {slots : List Slot} {ofRow : Row slots → β}
    {toRow : β → Row slots} {value : β} (distinct : (slots.map Slot.key).Nodup)
    (returns : (toRow value).Returns) (same : ofRow (toRow value) = value) :
    @ReadsBack β (.record name slots ofRow toRow) value := by
  intro ending sound
  change (Row.read name slots (Outline.whole ending (Row.write slots (toRow value)))).map ofRow =
    .ok value
  rw [Row.read_write sound name distinct returns]
  exact congrArg Except.ok same

theorem StableWire.record {β : Type} {name : String} {slots : List Slot} {ofRow : Row slots → β}
    {toRow : β → Row slots} (stable : ∀ slot ∈ slots, slot.Stable)
    (distinct : (slots.map Slot.key).Nodup) (same : ∀ row, toRow (ofRow row) = row) :
    @StableWire β (.record name slots ofRow toRow) := by
  let _ : Wire β := .record name slots ofRow toRow
  refine ⟨fun ranged value wasRead => ?_, fun _ _ _ => Json.noConfusion⟩
  obtain ⟨row, rowRead, rfl⟩ := map_eq_ok wasRead
  apply ReadsBack.record distinct
  · rw [same]
    exact Row.read_returns stable ranged rowRead
  · rw [same]

theorem ReadsBack.openRecord {β : Type} {name : String} {slots : List Slot}
    {ofRow : Row slots → Dict Json → β} {toRow : β → Row slots × Dict Json} {value : β}
    (distinct : (slots.map Slot.key).Nodup) (returns : (toRow value).1.Returns)
    (apart : OpenRow.Apart slots (toRow value).2)
    (same : ofRow (toRow value).1 (toRow value).2 = value) :
    @ReadsBack β (.openRecord name slots ofRow toRow) value := by
  intro ending sound
  change (OpenRow.read name slots (Outline.whole ending (OpenRow.write slots
    (toRow value).1 (toRow value).2))).map _ = .ok value
  rw [OpenRow.read_write sound name distinct returns apart]
  exact congrArg Except.ok same

theorem StableWire.openRecord {β : Type} {name : String} {slots : List Slot}
    {ofRow : Row slots → Dict Json → β} {toRow : β → Row slots × Dict Json}
    (stable : ∀ slot ∈ slots, slot.Stable) (distinct : (slots.map Slot.key).Nodup)
    (same : ∀ row others, toRow (ofRow row others) = (row, others)) :
    @StableWire β (.openRecord name slots ofRow toRow) := by
  let _ : Wire β := .openRecord name slots ofRow toRow
  refine ⟨fun ranged value wasRead => ?_, fun _ _ _ => Json.noConfusion⟩
  obtain ⟨⟨row, others⟩, rowRead, rfl⟩ := map_eq_ok wasRead
  obtain ⟨returns, apart⟩ := OpenRow.read_returns stable ranged rowRead
  apply ReadsBack.openRecord distinct
  · rw [same]
    exact returns
  · rw [same]
    exact apart
  · rw [same]

end Jmap.Json
