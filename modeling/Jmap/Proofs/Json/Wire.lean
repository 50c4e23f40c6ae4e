import Jmap.Json.Wire
import Jmap.Proofs.Dict

/-!
What is written is read back. The outline of a written value may be that of a text or of a
value in hand; the two differ only in how their containers end.
-/

namespace Jmap

theorem bind_eq_ok {ε α β : Type} {first : Except ε α} {next : α → Except ε β} {result : β}
    (bound : (first >>= next) = .ok result) :
    ∃ value, first = .ok value ∧ next value = .ok result := by
  cases first with
  | error problem => cases bound
  | ok value => exact ⟨value, rfl, bound⟩

theorem map_eq_ok {ε α β : Type} {first : Except ε α} {f : α → β} {result : β}
    (mapped : first.map f = .ok result) : ∃ value, first = .ok value ∧ f value = result := by
  cases first with
  | error problem => cases mapped
  | ok value => exact ⟨value, rfl, Except.ok.inj mapped⟩

theorem any_toOption {ε α : Type} {result : Except ε α} {holds : α → Bool}
    (checked : result.toOption.any holds = true) :
    ∃ value, result = .ok value ∧ holds value = true := by
  cases result with
  | error problem => cases checked
  | ok value => exact ⟨value, rfl, checked⟩

namespace Json

theorem lift_eq_ok {α : Type} {outcome : Except Fault α} {value : α}
    (lifted : Fault.lift outcome = .ok value) : outcome = .ok value := by
  cases outcome with
  | error fault => cases lifted
  | ok own =>
    cases lifted
    rfl

namespace Outline

mutual

/-- The outline of a value, all its containers ending in one way. -/
def whole (ending : Ending) : Json → Outline
  | .null => .null
  | .bool value => .bool value
  | .int value => .int value
  | .float value => .float value
  | .str value => .str value
  | .arr items => .arr (wholeItems ending items) ending
  | .obj members => .obj (wholeMembers ending members) ending

def wholeItems (ending : Ending) : List Json → List Outline
  | [] => []
  | item :: items => whole ending item :: wholeItems ending items

def wholeMembers (ending : Ending) : List (String × Json) → List (Option String × Outline)
  | [] => []
  | (key, value) :: members => (some key, whole ending value) :: wholeMembers ending members

end

variable {ending : Ending}

theorem wholeItems_eq_map (items : List Json) :
    wholeItems ending items = items.map (whole ending) := by
  induction items with
  | nil => rfl
  | cons item items ih => rw [wholeItems, ih, List.map_cons]

mutual

theorem ofJson_eq : (value : Json) → ofJson value = whole .held value
  | .null | .bool _ | .int _ | .float _ | .str _ => by simp only [ofJson, whole]
  | .arr items => by rw [ofJson, whole, ofItems_eq items]
  | .obj members => by rw [ofJson, whole, ofMembers_eq members]

theorem ofItems_eq : (items : List Json) → ofItems items = wholeItems .held items
  | [] => rfl
  | item :: items => by rw [ofItems, wholeItems, ofJson_eq item, ofItems_eq items]

theorem ofMembers_eq : (members : List (String × Json)) →
    ofMembers members = wholeMembers .held members
  | [] => rfl
  | (key, value) :: members => by
    rw [ofMembers, wholeMembers, ofJson_eq value, ofMembers_eq members]

end

mutual

theorem keep_whole (sound : ending.check = .ok ()) : (value : Json) → value.Canonical →
    (whole ending value).keep = .ok value
  | .null, _ | .bool _, _ | .int _, _ | .float _, _ | .str _, _ => by simp only [whole, keep]
  | .arr items, canonical => by
    rw [whole, keep, keepItems_whole sound items canonical, sound]
    rfl
  | .obj members, canonical => by
    obtain ⟨sorted, values⟩ := canonical
    rw [whole, keep, keepMembers_whole sound members [] sorted values, sound]
    rfl

theorem keepItems_whole (sound : ending.check = .ok ()) :
    (items : List Json) → CanonicalItems items → keepItems (wholeItems ending items) = .ok items
  | [], _ => rfl
  | item :: items, canonical => by
    obtain ⟨first, others⟩ := canonical
    rw [wholeItems, keepItems, keep_whole sound item first, keepItems_whole sound items others]
    rfl

theorem keepMembers_whole (sound : ending.check = .ok ()) : (members made : List (String × Json)) →
    Entries.Sorted (made ++ members) → CanonicalMembers members →
    keepMembers (wholeMembers ending members) made = .ok (made ++ members)
  | [], made, _, _ => by rw [wholeMembers, keepMembers, List.append_nil]
  | (key, value) :: members, made, sorted, canonical => by
    obtain ⟨first, others⟩ := canonical
    have rest :=
      keepMembers_whole sound members (made ++ [(key, value)]) (by simpa using sorted) others
    rw [wholeMembers, keepMembers, keep_whole sound value first]
    simp only [bind, Except.bind]
    rw [Entries.insert_above sorted.above_of_append, rest, List.append_assoc,
      List.singleton_append]

end

end Outline

def ReadsBack {α : Type} [Wire α] (value : α) : Prop :=
  ∀ ending : Ending, ending.check = .ok () →
    Wire.read (Outline.whole ending (Wire.write value)) = .ok value

variable {α β γ : Type} [Wire α] [Wire β] [Wire γ]

theorem ReadsBack.read? {value : α} (back : ReadsBack value) :
    read? α (Wire.write value) = .ok value := by
  rw [Json.read?, Outline.ofJson_eq]
  exact back .held rfl

theorem ReadsBack.ofCanonical {value : Json} (canonical : value.Canonical) : ReadsBack value := by
  intro ending sound
  change Fault.lift (Outline.whole ending value).keep = .ok value
  rw [Outline.keep_whole sound value canonical]
  rfl

theorem ReadsBack.string (value : String) : ReadsBack value := fun _ _ => rfl

theorem ReadsBack.option {value : Option α}
    (back : ∀ present, value = some present → ReadsBack present ∧ Wire.write present ≠ .null) :
    ReadsBack value := by
  intro ending sound
  cases value with
  | none => rfl
  | some present =>
    obtain ⟨readsBack, notNull⟩ := back present rfl
    have read := readsBack ending sound
    change Outline.readOption Wire.read (Outline.whole ending (Wire.write present)) = _
    cases written : (Wire.write present : Json) with
    | null => exact absurd written notNull
    | _ =>
      rw [written] at read
      simp only [Outline.whole, Outline.readOption] at read ⊢
      rw [read]
      rfl

theorem ReadsBack.list {values : List α} (back : ∀ value ∈ values, ReadsBack value) :
    ReadsBack values := by
  intro ending sound
  have each : Outline.readEach Wire.read ((values.map Wire.write).map (Outline.whole ending)) =
      .ok values := by
    induction values with
    | nil => rfl
    | cons value values ih =>
      rw [List.forall_mem_cons] at back
      rw [List.map_cons, List.map_cons, Outline.readEach, back.1 ending sound, ih back.2]
      rfl
  change Outline.readList Wire.read (.arr (Outline.wholeItems ending _) ending) = .ok values
  rw [Outline.wholeItems_eq_map, Outline.readList, each, sound]
  rfl

theorem readEntries_whole {ending : Ending} (sound : ending.check = .ok ()) (all : Dict α) :
    (rest : Entries α) → (made : Dict α) → all.entries = made.entries ++ rest →
      (∀ entry ∈ rest, ReadsBack entry.2) →
      Outline.readEntries Wire.read (Outline.wholeMembers ending
        (rest.map (fun entry => (entry.1, Wire.write entry.2)))) made = .ok all
  | [], made, same, _ => by
    rw [List.append_nil] at same
    rw [List.map_nil, Outline.wholeMembers, Outline.readEntries, Dict.ext_entries same]
  | (key, value) :: rest, made, same, back => by
    rw [List.forall_mem_cons] at back
    have sorted : Entries.Sorted (made.entries ++ (key, value) :: rest) := same ▸ all.sorted
    have added : (made.insert key value).entries = made.entries ++ [(key, value)] :=
      Entries.insert_above sorted.above_of_append
    have others := readEntries_whole sound all rest (made.insert key value)
      (by rw [added, same, List.append_assoc, List.singleton_append]) back.2
    rw [List.map_cons, Outline.wholeMembers, Outline.readEntries, back.1 ending sound]
    exact others

theorem ReadsBack.dict {dict : Dict α}
    (back : ∀ key value, dict.find? key = some value → ReadsBack value) : ReadsBack dict := by
  intro ending sound
  have entries := readEntries_whole sound dict dict.entries .empty rfl
    (fun entry member => back entry.1 entry.2 (Dict.find?_eq_some_iff.2 member))
  change Outline.readDict Wire.read (.obj (Outline.wholeMembers ending _) ending) = .ok dict
  rw [Outline.readDict, Dict.map, entries, sound]
  rfl

theorem ReadsBack.triple {value : α × β × γ} (first : ReadsBack value.1)
    (second : ReadsBack value.2.1) (third : ReadsBack value.2.2) : ReadsBack value := by
  intro ending sound
  obtain ⟨one, two, three⟩ := value
  have outline : Outline.whole ending (Wire.write (one, two, three)) =
      .arr [.whole ending (Wire.write one), .whole ending (Wire.write two),
        .whole ending (Wire.write three)] ending := by
    simp only [Wire.write, Outline.whole, Outline.wholeItems]
  rw [outline]
  simp only [Wire.read, first ending sound, second ending sound, third ending sound, sound]
  rfl

end Json

end Jmap
