import Jmap.Proofs.Json.StableTypes
import Jmap.Proofs.Task

/-!
Contact cards and calendar events pass through as they are. Their ids and all else share one object,
so what is read of an object is all of it, and what is written is the object again.
-/

namespace Jmap

open Json

namespace Json

def Nameable (value : Json) : Prop :=
  value.isObject = true ∧ ∀ id, value.get? "id" = some id → ∃ text, id = .str text

def Untouched (α : Type) [Wire α] (value : Json) : Prop :=
  ∃ typed : α, read? α value = .ok typed ∧ Wire.write typed = value

namespace OpenRow

abbrev idSlots : List Slot := [.optional "id" String]

variable {ending : Ending}

theorem distinct_idSlots : (idSlots.map Slot.key).Nodup := by simp

theorem id_returns (id : Option String) : Row.Returns idSlots (id, ()) :=
  ⟨Slot.optional_returns fun text _ => ⟨.string text, Json.noConfusion⟩, trivial⟩

theorem apart_of_canonical {others : Dict Json} (unnamed : others.find? "id" = none)
    (canonical : ∀ key value, others.find? key = some value → value.Canonical) :
    Apart idSlots others := by
  intro key value found
  refine ⟨fun own => ?_, canonical key value found⟩
  rw [List.mem_singleton.1 own, unnamed] at found
  cases found

theorem exists_read_write (sound : ending.check = .ok ()) (name : String) {value : Json}
    (canonical : value.Canonical) (nameable : value.Nameable) :
    ∃ id others, read name idSlots (Outline.whole ending value) = .ok ((id, ()), others) ∧
      write idSlots (id, ()) others = value := by
  obtain ⟨object, plain⟩ := nameable
  cases value with
  | obj members =>
    obtain ⟨sorted, canonical⟩ := canonical
    rw [canonicalMembers_iff] at canonical
    let all : Dict Json := ⟨members, sorted⟩
    have apart : Apart idSlots (all.erase "id") := by
      apply apart_of_canonical (all.find?_erase_self "id")
      intro key value found
      exact canonical (key, value) (Entries.mem_erase (Dict.find?_eq_some_iff.1 found))
    have kept : members.filter (fun member => !(idSlots.map Slot.key).contains member.1) =
        (all.erase "id").entries := by
      simpa [Dict.erase] using (sorted.erase_eq_filter "id").symm
    obtain ⟨id, same⟩ : ∃ id : Option String,
        members.Perm (Row.members idSlots (id, ()) ++ (all.erase "id").entries) := by
      cases found : Entries.find? "id" members with
      | none =>
        refine ⟨none, ?_⟩
        simp [Row.members, Dict.erase, all, Entries.erase_of_find?_eq_none found]
      | some id =>
        obtain ⟨text, rfl⟩ := plain id found
        exact ⟨some text, Entries.perm_erase found⟩
    exact ⟨id, all.erase "id",
      read_whole sound name distinct_idSlots (id_returns id) apart same kept,
      write_of_perm distinct_idSlots apart sorted same⟩
  | _ => cases object

variable {β : Type} {name : String} {ofRow : Row idSlots → Dict Json → β}
  {toRow : β → Row idSlots × Dict Json} {value : Json}

theorem untouched (same : ∀ row others, toRow (ofRow row others) = (row, others))
    (canonical : value.Canonical) (nameable : value.Nameable) :
    @Untouched β (.openRecord name idSlots ofRow toRow) value := by
  let _ : Wire β := .openRecord name idSlots ofRow toRow
  have sound : Ending.held.check = .ok () := rfl
  obtain ⟨id, others, wasRead, written⟩ := exists_read_write sound name canonical nameable
  refine ⟨ofRow (id, ()) others, ?_, ?_⟩
  · rw [read?, Outline.ofJson_eq]
    exact congrArg (Except.map _) wasRead
  · change write idSlots (toRow _).1 (toRow _).2 = value
    rw [same, written]

theorem rereads {typed : β} (same : ofRow (toRow typed).1 (toRow typed).2 = typed)
    (unnamed : (toRow typed).2.find? "id" = none)
    (canonical : ∀ key value, (toRow typed).2.find? key = some value → value.Canonical) :
    @ReadsBack β (.openRecord name idSlots ofRow toRow) typed :=
  .openRecord distinct_idSlots (id_returns _) (apart_of_canonical unnamed canonical) same

end OpenRow

end Json

theorem ContactCard.untouched {value : Json} (canonical : value.Canonical)
    (nameable : value.Nameable) : Untouched ContactCard value := by
  unfold ContactCard.instWire
  exact OpenRow.untouched (fun _ _ => rfl) canonical nameable

theorem CalendarEvent.untouched {value : Json} (canonical : value.Canonical)
    (nameable : value.Nameable) : Untouched CalendarEvent value := by
  unfold CalendarEvent.instWire
  exact OpenRow.untouched (fun _ _ => rfl) canonical nameable

namespace Operation

def cardCalls (account : String) (card : Json) : List Json :=
  [.arr [.str "ContactCard/set",
      .obj [("accountId", .str account), ("create", .obj [("c", card)])], .str "0"],
    .arr [.str "ContactCard/get",
      .obj [("#ids", .obj [("name", .str "ContactCard/set"), ("path", .str "/created/c/id"),
          ("resultOf", .str "0")]), ("accountId", .str account)], .str "1"]]

theorem write_createContactCard (session : Session) (account : String) (card : ContactCard) :
    (createContactCard session account card).invocations.map Wire.write =
      cardCalls (session.account .contacts account) (Wire.write card) := by
  -- The order of the members.
  have create : ¬"create" < "accountId" := by decide +kernel
  have ids : "#ids" < "accountId" := by decide +kernel
  have name : "name" < "resultOf" := by decide +kernel
  have path : ¬"path" < "name" ∧ "path" < "resultOf" := by decide +kernel
  simp only [createContactCard, cardCalls, Invocation.of, idsOf, Dict.ofList, Entries.ofList,
    Entries.insert, ofMembers, ofDict, Wire.write, Row.write, Row.members, Method.name,
    List.foldl_cons, List.foldl_nil, List.map_cons, List.map_nil, create, ids, name, path,
    String.reduceEq, if_true, if_false]

theorem render_createContactCard {session : Session} {account : String} {card : ContactCard}
    {request : Request}
    (built : (createContactCard session account card).request session = .ok request) :
    request.render = Json.render (.obj
      [("using", .arr [.str Capability.core.urn, .str Capability.contacts.urn]),
        ("methodCalls",
          .arr (cardCalls (session.account .contacts account) (Wire.write card)))]) := by
  obtain ⟨-, rfl⟩ := Batch.build_eq_ok_iff.1 built
  rw [← write_createContactCard]
  rfl

end Operation

/-- An object is written again as it has been read, as a card or as an event, and a card or event
is read again as it has been written. A card that is to be made goes into the request as the object
that it was read from. -/
theorem cards_untouched :
    (∀ value : Json, value.Canonical → value.Nameable →
      Untouched ContactCard value ∧ Untouched CalendarEvent value) ∧
    (∀ card : ContactCard, card.properties.find? "id" = none →
      (∀ key value, card.properties.find? key = some value → value.Canonical) →
        read? ContactCard (Wire.write card) = .ok card) ∧
    (∀ event : CalendarEvent, event.properties.find? "id" = none →
      (∀ key value, event.properties.find? key = some value → value.Canonical) →
        read? CalendarEvent (Wire.write event) = .ok event) ∧
    ∀ (session : Session) (account : String) (value : Json) (card : ContactCard),
      value.Canonical → value.Nameable → read? ContactCard value = .ok card →
      ((∀ most, session.maxCallsInRequest = some most → 2 ≤ most.toNat) →
        ∃ request,
          (Operation.createContactCard session account card).request session = .ok request) ∧
      ∀ request,
        (Operation.createContactCard session account card).request session = .ok request →
        request.render = Json.render (.obj
          [("using", .arr [.str Capability.core.urn, .str Capability.contacts.urn]),
            ("methodCalls",
              .arr (Operation.cardCalls (session.account .contacts account) value))]) := by
  refine ⟨fun value canonical nameable => ?_, fun card unnamed canonical => ?_,
    fun event unnamed canonical => ?_, fun session account value card canonical nameable wasRead =>
      ⟨fun within => ?_, fun request built => ?_⟩⟩
  · exact ⟨ContactCard.untouched canonical nameable, CalendarEvent.untouched canonical nameable⟩
  · apply ReadsBack.read?
    unfold ContactCard.instWire
    exact OpenRow.rereads rfl unnamed canonical
  · apply ReadsBack.read?
    unfold CalendarEvent.instWire
    exact OpenRow.rereads rfl unnamed canonical
  · have valid := (Task.createContactCard account card).valid session
    exact ⟨_, Operation.request_of_valid valid within⟩
  · obtain ⟨typed, typedRead, written⟩ := ContactCard.untouched canonical nameable
    cases typedRead.symm.trans wasRead
    rw [← written]
    exact Operation.render_createContactCard built

/-- A card with ids of its parts, members that no one knows, and one whose name is that of a member
in another case. -/
theorem cards_untouched_with_parts :
    let value : Json :=
      .obj [("@type", .str "Card"), ("ID", .null), ("id", .str "k"),
        ("phones", .obj [("p", .obj [("id", .int 7), ("x", .arr [.null, .obj []])])])]
    let properties : Dict Json := .ofList [("ID", .null), ("uid", .str "u")]
    ∃ (card : ContactCard) (request : Request),
      value.Canonical ∧ value.Nameable ∧ read? ContactCard value = .ok card ∧
      Wire.write card = value ∧ Untouched CalendarEvent value ∧
      (Operation.createContactCard default "a" card).request default = .ok request ∧
      request.render = Json.render (.obj
        [("using", .arr [.str Capability.core.urn, .str Capability.contacts.urn]),
          ("methodCalls", .arr (Operation.cardCalls "a" value))]) ∧
      read? ContactCard (Wire.write (⟨none, properties⟩ : ContactCard)) = .ok ⟨none, properties⟩ ∧
      read? CalendarEvent (Wire.write (⟨some "", properties⟩ : CalendarEvent)) =
        .ok ⟨some "", properties⟩ := by
  intro value properties
  have canonical : value.Canonical := by
    simp only [value, Canonical, CanonicalItems, CanonicalMembers, Entries.Sorted]
    decide +kernel
  have nameable : value.Nameable := by
    refine ⟨rfl, fun id found => ⟨"k", ?_⟩⟩
    simpa [value, get?, Entries.find?, eq_comm] using found
  have unnamed : properties.find? "id" = none := by decide +kernel
  have plain : ∀ key value, properties.find? key = some value → value.Canonical := by
    intro key value found
    have listed := Dict.mem_of_find?_ofList found
    simp only [List.mem_cons, Prod.mk.injEq, List.not_mem_nil, or_false] at listed
    rcases listed with ⟨-, rfl⟩ | ⟨-, rfl⟩ <;> trivial
  obtain ⟨untouched, cardRead, eventRead, sent⟩ := cards_untouched
  obtain ⟨⟨card, wasRead, written⟩, event⟩ := untouched value canonical nameable
  have unlimited : ∀ most, (default : Session).maxCallsInRequest = some most → 2 ≤ most.toNat := by
    intro most limited
    cases limited
  obtain ⟨exists_request, text⟩ := sent default "a" value card canonical nameable wasRead
  obtain ⟨request, built⟩ := exists_request unlimited
  exact ⟨card, request, canonical, nameable, wasRead, written, event, built, text request built,
    cardRead ⟨none, properties⟩ unnamed plain, eventRead ⟨some "", properties⟩ unnamed plain⟩

end Jmap
