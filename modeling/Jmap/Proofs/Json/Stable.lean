import Jmap.Proofs.Json.Record

/-!
What has been read can be written and read again. The outline of a text holds integers of 64
bits only, so what is kept of it is canonical.
-/

namespace Jmap.Json

variable {members made : List (String × Json)}

theorem canonicalMembers_iff :
    CanonicalMembers members ↔ ∀ member ∈ members, member.2.Canonical := by
  induction members with
  | nil => simp [CanonicalMembers]
  | cons member members ih => rw [CanonicalMembers, ih, List.forall_mem_cons]

namespace Outline

mutual

def Ranged : Outline → Prop
  | .null | .bool _ | .float _ | .str _ | .broken _ _ | .unkeepable _ => True
  | .int value => -9223372036854775808 ≤ value ∧ value < 18446744073709551616
  | .arr items _ => RangedItems items
  | .obj members _ => RangedMembers members

def RangedItems : List Outline → Prop
  | [] => True
  | item :: items => Ranged item ∧ RangedItems items

def RangedMembers : List (Option String × Outline) → Prop
  | [] => True
  | (_, value) :: members => Ranged value ∧ RangedMembers members

end

mutual

theorem canonical_of_keep : (outline : Outline) → outline.Ranged → (value : Json) →
    outline.keep = .ok value → value.Canonical
  | .null, _, _, kept | .bool _, _, _, kept | .float _, _, _, kept | .str _, _, _, kept => by
    cases kept
    trivial
  | .int _, ranged, _, kept => by
    cases kept
    exact ranged
  | .broken _ _, _, _, kept => nomatch kept
  | .unkeepable _, _, _, kept => nomatch kept
  | .arr items ending, ranged, value, kept => by
    rw [keep] at kept
    obtain ⟨values, keptItems, rest⟩ := bind_eq_ok kept
    obtain ⟨-, -, same⟩ := bind_eq_ok rest
    cases same
    exact canonicalItems_of_keep items ranged values keptItems
  | .obj members ending, ranged, value, kept => by
    rw [keep] at kept
    obtain ⟨values, keptMembers, rest⟩ := bind_eq_ok kept
    obtain ⟨-, -, same⟩ := bind_eq_ok rest
    cases same
    exact canonicalMembers_of_keep members ranged [] List.Pairwise.nil trivial values keptMembers

theorem canonicalItems_of_keep : (items : List Outline) → RangedItems items →
    (values : List Json) → keepItems items = .ok values → CanonicalItems values
  | [], _, _, kept => by
    cases kept
    trivial
  | item :: items, ranged, values, kept => by
    rw [keepItems] at kept
    obtain ⟨first, keptFirst, rest⟩ := bind_eq_ok kept
    obtain ⟨others, keptOthers, same⟩ := bind_eq_ok rest
    cases same
    exact ⟨canonical_of_keep item ranged.1 first keptFirst,
      canonicalItems_of_keep items ranged.2 others keptOthers⟩

theorem canonicalMembers_of_keep : (members : List (Option String × Outline)) →
    RangedMembers members → (made : List (String × Json)) → Entries.Sorted made →
      CanonicalMembers made → (values : List (String × Json)) →
        keepMembers members made = .ok values → Entries.Sorted values ∧ CanonicalMembers values
  | [], _, made, sorted, canonical, _, kept => by
    cases kept
    exact ⟨sorted, canonical⟩
  | (none, _) :: _, _, _, _, _, _, kept => nomatch kept
  | (some key, value) :: members, ranged, made, sorted, canonical, values, kept => by
    rw [keepMembers] at kept
    obtain ⟨first, keptFirst, rest⟩ := bind_eq_ok kept
    refine canonicalMembers_of_keep members ranged.2 _ (sorted.insert key first) ?_ values rest
    rw [canonicalMembers_iff] at canonical ⊢
    intro member inserted
    rcases Entries.mem_insert inserted with rfl | earlier
    · exact canonical_of_keep value ranged.1 first keptFirst
    · exact canonical member earlier

end

mutual

theorem ranged_whole {ending : Ending} : (value : Json) → value.Canonical →
    (whole ending value).Ranged
  | .null, _ | .bool _, _ | .float _, _ | .str _, _ => trivial
  | .int _, canonical => canonical
  | .arr items, canonical => rangedItems_whole items canonical
  | .obj members, canonical => rangedMembers_whole members canonical.2

theorem rangedItems_whole {ending : Ending} : (items : List Json) → CanonicalItems items →
    RangedItems (wholeItems ending items)
  | [], _ => trivial
  | item :: items, canonical =>
    ⟨ranged_whole item canonical.1, rangedItems_whole items canonical.2⟩

theorem rangedMembers_whole {ending : Ending} : (members : List (String × Json)) →
    CanonicalMembers members → RangedMembers (wholeMembers ending members)
  | [], _ => trivial
  | (_, value) :: members, canonical =>
    ⟨ranged_whole value canonical.1, rangedMembers_whole members canonical.2⟩

end

theorem ranged_of_value? {number : NumberText} {value : Int}
    (found : number.value? = some (.int value)) : (Outline.int value).Ranged := by
  obtain ⟨negative, whole, fraction, exponent⟩ := number
  have word : UInt64.size = 18446744073709551616 := rfl
  have noFloat {float : Option Binary64} : float.map Json.float ≠ some (.int value) := by
    cases float <;> simp
  cases negative with
  | true =>
    simp only [NumberText.value?, if_true] at found
    split at found
    · cases found
      simp only [Ranged]
      omega
    · exact absurd found noFloat
  | false =>
    simp only [NumberText.value?, Bool.false_eq_true, if_false] at found
    split at found
    · cases found
      simp only [Ranged]
      omega
    · exact absurd found noFloat

theorem ranged_numberOutline (negative : Bool) (input : Symbols) :
    (numberOutline negative input).1.Ranged := by
  fun_cases numberOutline negative input
  · rename_i found
    exact ranged_of_value? found
  all_goals trivial

theorem ranged_quotedOutline (input : Symbols) : (quotedOutline input).1.Ranged := by
  fun_cases quotedOutline input <;> trivial

theorem ranged_scanWord (value : Outline) (ranged : value.Ranged) (letters : List Char)
    (input : Symbols) : (scanWord value letters input).1.Ranged := by
  fun_induction scanWord value letters input with
  | case1 => exact ranged
  | case2 => trivial
  | case3 letter letters rest ih => exact ih
  | case4 => trivial

theorem ranged_atDepth (levels : Nat) (value : Outline) (ranged : value.Ranged) :
    (atDepth levels value).Ranged := by
  rw [atDepth]
  split
  · trivial
  · exact ranged

theorem ranged_scan (fuel : Nat) :
    (∀ levels input, (scanValue fuel levels input).1.Ranged) ∧
    (∀ levels input, RangedItems (scanItems fuel levels input).1) ∧
    ∀ levels input, RangedMembers (scanMembers fuel levels input).1 := by
  induction fuel with
  | zero => exact ⟨fun _ _ => trivial, fun _ _ => ⟨trivial, trivial⟩, fun _ _ => trivial⟩
  | succ fuel ih =>
    obtain ⟨values, items, members⟩ := ih
    have item {levels : Nat} {input : Symbols} {value : Outline} {after : Option Symbols}
        (scanned : scanValue fuel levels input = (value, after)) : value.Ranged := by
      simpa only [scanned] using values levels input
    have list {levels : Nat} {input : Symbols} {found : List Outline}
        {after : Ending × Option Symbols}
        (scanned : scanItems fuel levels input = (found, after)) : RangedItems found := by
      simpa only [scanned] using items levels input
    have named {levels : Nat} {input : Symbols} {found : List (Option String × Outline)}
        {after : Ending × Option Symbols}
        (scanned : scanMembers fuel levels input = (found, after)) : RangedMembers found := by
      simpa only [scanned] using members levels input
    -- The cases of a scanner are those of its fuel and input as variables.
    refine ⟨fun levels input => ?_, fun levels input => ?_, fun levels input => ?_⟩
    · generalize more : fuel + 1 = total
      fun_cases scanValue total levels input with
      | case1 | case2 | case13 => trivial
      | case3 => exact ranged_scanWord .null trivial _ _
      | case4 => exact ranged_scanWord (.bool true) trivial _ _
      | case5 => exact ranged_scanWord (.bool false) trivial _ _
      | case6 => exact ranged_quotedOutline _
      | case7 => exact ranged_numberOutline true _
      | case12 => exact ranged_numberOutline false _
      | case8 => exact ranged_atDepth levels (.arr [] .closed) trivial
      | case10 => exact ranged_atDepth levels (.obj [] .closed) trivial
      | case9 =>
        rename_i found ending after noEnd scanned
        cases more
        exact ranged_atDepth levels (.arr found ending) (list scanned)
      | case11 =>
        rename_i found ending after noEnd scanned
        cases more
        exact ranged_atDepth levels (.obj found ending) (named scanned)
    · generalize more : fuel + 1 = total
      fun_cases scanItems total levels input with
      | case1 | case2 => exact ⟨trivial, trivial⟩
      | case3 => trivial
      | case5 =>
        rename_i scannedItems _ _ scanned
        cases more
        exact ⟨item scanned, list scannedItems⟩
      | case4 | case6 | case7 | case8 =>
        rename_i scanned
        cases more
        exact ⟨item scanned, trivial⟩
    · generalize more : fuel + 1 = total
      fun_cases scanMembers total levels input with
      | case1 | case2 | case3 | case11 => trivial
      | case4 | case10 => exact ⟨trivial, trivial⟩
      | case6 =>
        rename_i scanned scannedMembers
        cases more
        exact ⟨item scanned, named scannedMembers⟩
      | case5 | case7 | case8 | case9 =>
        rename_i scanned
        cases more
        exact ⟨item scanned, trivial⟩

theorem ranged_ofBytes (bytes : Utf8.Bytes) : (ofBytes bytes).value.Ranged := by
  rw [ofBytes, ofSymbols]
  exact (ranged_scan _).1 _ _

end Outline

open Outline (Ranged RangedItems RangedMembers)

theorem canonical_of_read_json {outline : Outline} (ranged : outline.Ranged) {value : Json}
    (wasRead : Wire.read outline = .ok value) : value.Canonical :=
  outline.canonical_of_keep ranged value (lift_eq_ok wasRead)

variable {α β γ : Type} [Wire α] [Wire β] [Wire γ]

theorem readsBack_of_readEach
    (stable : ∀ outline : Outline, outline.Ranged → ∀ value : α,
      Wire.read outline = .ok value → ReadsBack value) :
    (items : List Outline) → RangedItems items → (values : List α) →
      Outline.readEach Wire.read items = .ok values → ∀ value ∈ values, ReadsBack value
  | [], _, _, wasRead => by
    cases wasRead
    simp
  | item :: items, ranged, values, wasRead => by
    rw [Outline.readEach] at wasRead
    obtain ⟨first, readFirst, rest⟩ := bind_eq_ok wasRead
    obtain ⟨others, readOthers, same⟩ := bind_eq_ok rest
    cases same
    rw [List.forall_mem_cons]
    exact ⟨stable item ranged.1 first readFirst,
      readsBack_of_readEach stable items ranged.2 others readOthers⟩

theorem readsBack_of_readList
    (stable : ∀ outline : Outline, outline.Ranged → ∀ value : α,
      Wire.read outline = .ok value → ReadsBack value) {outline : Outline}
    (ranged : outline.Ranged) {values : List α} (wasRead : Wire.read outline = .ok values) :
    ReadsBack values := by
  change Outline.readList Wire.read outline = .ok values at wasRead
  cases outline with
  | arr items ending =>
    rw [Outline.readList] at wasRead
    obtain ⟨_, readEach, rest⟩ := bind_eq_ok wasRead
    obtain ⟨-, -, same⟩ := bind_eq_ok rest
    cases same
    exact ReadsBack.list (readsBack_of_readEach stable items ranged values readEach)
  | _ => cases wasRead

theorem exists_of_read_triple {outline : Outline} {value : α × β × γ}
    (wasRead : Wire.read outline = .ok value) :
    ∃ first second third rest ending, outline = .arr (first :: second :: third :: rest) ending ∧
      Wire.read first = .ok value.1 ∧ Wire.read second = .ok value.2.1 ∧
      Wire.read third = .ok value.2.2 := by
  cases outline with
  | arr items ending =>
    match items with
    | [] => cases wasRead
    | [first] =>
      obtain ⟨one, -, rest⟩ := bind_eq_ok wasRead
      cases rest
    | [first, second] =>
      obtain ⟨one, -, rest⟩ := bind_eq_ok wasRead
      obtain ⟨two, -, rest⟩ := bind_eq_ok rest
      cases rest
    | first :: second :: third :: others =>
      obtain ⟨one, readOne, rest⟩ := bind_eq_ok wasRead
      obtain ⟨two, readTwo, rest⟩ := bind_eq_ok rest
      obtain ⟨three, readThree, rest⟩ := bind_eq_ok rest
      have same : (one, two, three) = value := by
        split at rest
        · obtain ⟨-, -, same⟩ := bind_eq_ok rest
          exact Except.ok.inj same
        · exact Except.ok.inj rest
        · cases rest
        · cases rest
      subst same
      exact ⟨first, second, third, others, ending, rfl, readOne, readTwo, readThree⟩
  | _ => cases wasRead

/-- What a slot holds after reading is read back, and so is what stands in for a member
that is not there. -/
structure Slot.Stable (slot : Slot) : Prop where
  read : ∀ outline : Outline, outline.Ranged → ∀ value,
    slot.read outline = .ok value → slot.Returns value
  absent : ∀ value, slot.absent = some value → slot.Returns value
  trailing : ∀ value, slot.trailing = some value → slot.Returns value

def PartialRow.Returns : (slots : List Slot) → PartialRow slots → Prop
  | [], _ => True
  | slot :: slots, (found, others) =>
    (∀ value, found = some value → slot.Returns value) ∧ Returns slots others

namespace PartialRow

theorem empty_returns : (slots : List Slot) → Returns slots (empty slots)
  | [] => trivial
  | _ :: slots => ⟨fun _ found => (nomatch found), empty_returns slots⟩

theorem place?_returns {key : String} {outline : Outline} (ranged : outline.Ranged) :
    (slots : List Slot) → (∀ slot ∈ slots, slot.Stable) → (made next : PartialRow slots) →
      made.Returns → place? key outline slots made = some (.ok next) → next.Returns
  | [], _, _, _, _, placed => nomatch placed
  | slot :: slots, stable, (found, others), next, returns, placed => by
    rw [List.forall_mem_cons] at stable
    simp only [place?] at placed
    split at placed
    · cases found with
      | some value => cases placed
      | none =>
        cases wasRead : slot.read outline with
        | error error =>
          rw [wasRead] at placed
          cases placed
        | ok value =>
          rw [wasRead] at placed
          cases placed
          refine ⟨fun other same => ?_, returns.2⟩
          cases same
          exact stable.1.read outline ranged value wasRead
    · cases later : place? key outline slots others with
      | none =>
        rw [later] at placed
        cases placed
      | some result =>
        cases result with
        | error error =>
          rw [later] at placed
          cases placed
        | ok rest =>
          rw [later] at placed
          cases placed
          exact ⟨returns.1, place?_returns ranged slots stable.2 others rest returns.2 later⟩

theorem complete_returns : (slots : List Slot) → (∀ slot ∈ slots, slot.Stable) →
    (made : PartialRow slots) → made.Returns → (row : Row slots) →
      complete slots made = .ok row → row.Returns
  | [], _, _, _, _, _ => trivial
  | slot :: slots, stable, (found, others), returns, row, completed => by
    rw [List.forall_mem_cons] at stable
    simp only [complete] at completed
    cases value : found.or slot.absent with
    | none =>
      rw [value] at completed
      cases completed
    | some own =>
      cases later : complete slots others with
      | error error =>
        rw [value, later] at completed
        cases completed
      | ok rest =>
        rw [value, later] at completed
        cases completed
        refine ⟨?_, complete_returns slots stable.2 others returns.2 rest later⟩
        cases found with
        | none => exact stable.1.absent own value
        | some other => exact returns.1 own value

end PartialRow

namespace Row

theorem readMembers_returns {slots : List Slot} (stable : ∀ slot ∈ slots, slot.Stable)
    (members : List (Option String × Outline)) (ranged : RangedMembers members)
    (made next : PartialRow slots) (returns : made.Returns)
    (wasRead : readMembers slots members made = .ok next) : next.Returns := by
  induction members generalizing made with
  | nil =>
    cases wasRead
    exact returns
  | cons member members ih =>
    obtain ⟨name, value⟩ := member
    cases name with
    | none => cases wasRead
    | some key =>
      rw [readMembers] at wasRead
      split at wasRead
      · rename_i placing placed
        obtain ⟨middle, ok, rest⟩ := bind_eq_ok wasRead
        subst ok
        exact ih ranged.2 middle
          (PartialRow.place?_returns ranged.1 slots stable made middle returns placed) rest
      · obtain ⟨-, -, rest⟩ := bind_eq_ok wasRead
        exact ih ranged.2 made returns rest

theorem readItems_returns {wanted : String} {ending : Ending} :
    (slots : List Slot) → (∀ slot ∈ slots, slot.Stable) → (count : Nat) →
      (items : List Outline) → RangedItems items → (row : Row slots) → (rest : List Outline) →
        readItems wanted ending count slots items = .ok (row, rest) → row.Returns
  | [], _, _, _, _, _, _, _ => trivial
  | slot :: slots, stable, count, item :: items, ranged, row, rest, wasRead => by
    rw [List.forall_mem_cons] at stable
    rw [readItems] at wasRead
    obtain ⟨value, readFirst, others⟩ := bind_eq_ok wasRead
    obtain ⟨⟨later, _⟩, readOthers, same⟩ := bind_eq_ok others
    cases same
    exact ⟨stable.1.read item ranged.1 value readFirst,
      readItems_returns slots stable.2 (count + 1) items ranged.2 later rest readOthers⟩
  | slot :: slots, stable, count, [], ranged, row, rest, wasRead => by
    rw [List.forall_mem_cons] at stable
    unfold readItems at wasRead
    split at wasRead
    · cases wasRead
    · cases wasRead
    · rename_i value _ trailing
      obtain ⟨⟨later, _⟩, readOthers, same⟩ := bind_eq_ok wasRead
      cases same
      exact ⟨stable.1.trailing value trailing,
        readItems_returns slots stable.2 (count + 1) [] trivial later rest readOthers⟩

theorem read_returns {slots : List Slot} (stable : ∀ slot ∈ slots, slot.Stable) {name : String}
    {outline : Outline} (ranged : outline.Ranged) {row : Row slots}
    (wasRead : read name slots outline = .ok row) : row.Returns := by
  cases outline with
  | obj members ending =>
    rw [read] at wasRead
    obtain ⟨made, readMembers, rest⟩ := bind_eq_ok wasRead
    obtain ⟨-, -, completed⟩ := bind_eq_ok rest
    exact PartialRow.complete_returns slots stable made
      (readMembers_returns stable members ranged _ made (PartialRow.empty_returns slots)
        readMembers) row completed
  | arr items ending =>
    rw [read] at wasRead
    obtain ⟨⟨own, left⟩, readItems, rest⟩ := bind_eq_ok wasRead
    have returns := readItems_returns slots stable 0 items ranged own left readItems
    dsimp only at rest
    split at rest
    · obtain ⟨-, -, same⟩ := bind_eq_ok rest
      cases same
      exact returns
    · cases rest
      exact returns
    · cases rest
    · cases rest
  | _ => cases wasRead

theorem canonical_write {slots : List Slot} {row : Row slots}
    (canonical : ∀ key written, (key, written) ∈ Row.members slots row → written.Canonical) :
    (write slots row).Canonical := by
  refine ⟨Entries.Sorted.ofList _, canonicalMembers_iff.2 fun member listed => ?_⟩
  exact canonical member.1 member.2 (Entries.mem_of_mem_ofList listed)

end Row

end Jmap.Json
