import Jmap.Proofs.Json.Stable
import Jmap.Proofs.Json.Text
import Jmap.Proofs.Batch

namespace Jmap

open Json

theorem Capability.readsBack (capability : Capability) : ReadsBack capability := by
  intro ending sound
  change (Outline.readString (.str capability.urn) >>= _) = _
  simp only [Outline.readString, bind, Except.bind, Capability.ofUrn?_urn]

namespace Invocation

def Canonical (invocation : Invocation) : Prop :=
  ∀ key value, invocation.arguments.find? key = some value → value.Canonical

theorem canonical_of_entries {invocation : Invocation} {arguments : List (String × Json)}
    (canonical : CanonicalMembers arguments) (same : invocation.arguments = .ofList arguments) :
    invocation.Canonical := by
  intro key value found
  rw [same] at found
  exact canonicalMembers_iff.1 canonical (key, value) (Dict.mem_of_find?_ofList found)

theorem readsBack {invocation : Invocation} (canonical : invocation.Canonical) :
    ReadsBack invocation := by
  intro ending sound
  have arguments : (Json.ofDict invocation.arguments).Canonical :=
    ⟨invocation.arguments.sorted, canonicalMembers_iff.2 (fun member present =>
      canonical member.1 member.2 (Dict.find?_eq_some_iff.2 present))⟩
  have parts : ReadsBack
      ((invocation.method.name, Json.ofDict invocation.arguments, invocation.tag) :
        String × Json × String) :=
    .triple (.string _) (.ofCanonical arguments) (.string _)
  have named : ofName? invocation.method.name (.ofDict invocation.arguments) invocation.tag =
      .ok invocation := by
    simp [ofName?, ofArguments?, Json.asDict?, Json.ofDict]
  change (Wire.read (Outline.whole ending (Wire.write
    (invocation.method.name, Json.ofDict invocation.arguments, invocation.tag))) >>= _) = _
  rw [parts ending sound]
  simp only [bind, Except.bind, named]

theorem canonical_of_read {outline : Outline} (ranged : outline.Ranged) {invocation : Invocation}
    (wasRead : Wire.read outline = .ok invocation) : invocation.Canonical := by
  obtain ⟨⟨name, arguments, tag⟩, parts, made⟩ := bind_eq_ok wasRead
  have canonical : arguments.Canonical := by
    obtain ⟨first, second, third, rest, ending, rfl, -, second, -⟩ := exists_of_read_triple parts
    obtain ⟨-, secondRanged, -⟩ := ranged
    exact canonical_of_read_json secondRanged second
  dsimp only at made
  split at made
  · rename_i other named
    cases made
    rw [ofName?] at named
    split at named
    · rw [ofArguments?] at named
      split at named
      · rename_i dict isObject
        cases named
        cases arguments with
        | obj members =>
          cases isObject
          exact canonical_of_entries canonical.2 rfl
        | _ => cases isObject
      · cases named
    · cases named
  · cases made

end Invocation

namespace Request

variable {request : Request}

abbrev row (request : Request) : Row slots :=
  (request.capabilities, request.invocations, request.createdIds, ())

theorem distinct_slots : (slots.map Slot.key).Nodup := by decide

theorem capabilities_returns (capabilities : List Capability) :
    (Slot.required "using" (List Capability)).Returns capabilities :=
  Slot.required_returns (ReadsBack.list (fun capability _ => Capability.readsBack capability))

theorem createdIds_returns (ids : Option (Dict String)) :
    (Slot.optional "createdIds" (Dict String)).Returns ids :=
  Slot.optional_returns (fun _ _ => ⟨ReadsBack.dict (fun _ id _ => .string id), Json.noConfusion⟩)

theorem row_returns (canonical : ∀ invocation ∈ request.invocations, invocation.Canonical) :
    request.row.Returns := by
  have invocations : ReadsBack request.invocations := ReadsBack.list (fun invocation member =>
    Invocation.readsBack (canonical invocation member))
  exact ⟨capabilities_returns _, Slot.required_returns invocations, createdIds_returns _, trivial⟩

theorem slots_stable : ∀ slot ∈ slots, slot.Stable := by
  have invocations (outline : Outline) (ranged : outline.Ranged) (invocation : Invocation)
      (wasRead : Wire.read outline = .ok invocation) : ReadsBack invocation :=
    Invocation.readsBack (Invocation.canonical_of_read ranged wasRead)
  simp only [slots, List.forall_mem_cons]
  refine ⟨⟨fun _ _ capabilities _ => capabilities_returns capabilities, nofun, nofun⟩,
    ⟨fun _ ranged _ wasRead => ?_, nofun, nofun⟩,
    ⟨fun _ _ ids _ => createdIds_returns ids, fun ids _ => createdIds_returns ids,
      fun ids _ => createdIds_returns ids⟩, by simp⟩
  exact Slot.required_returns (readsBack_of_readList invocations ranged wasRead)

theorem row_returns_of_read {outline : Outline} (ranged : outline.Ranged)
    (wasRead : Wire.read outline = .ok request) : request.row.Returns := by
  change (Row.read "Request" slots outline).map _ = .ok request at wasRead
  cases row : Row.read "Request" slots outline with
  | error error =>
    rw [row] at wasRead
    cases wasRead
  | ok own =>
    rw [row] at wasRead
    cases wasRead
    exact Row.read_returns slots_stable ranged row

/-- How a request comes about: from a batch, from a text, or from a value in hand. -/
inductive Made : Request → Prop
  | built {batch : Batch} {request : Request}
      (canonical : ∀ invocation ∈ batch.invocations, invocation.Canonical)
      (built : batch.build = .ok request) : Made request
  | parsed {bytes : Utf8.Bytes} {request : Request}
      (parsed : ofBytes? bytes = .ok request) : Made request
  | held {value : Json} {request : Request} (canonical : value.Canonical)
      (wasRead : read? Request value = .ok request) : Made request

theorem Made.row_returns (made : request.Made) : request.row.Returns := by
  cases made with
  | built canonical built =>
    obtain ⟨-, rfl⟩ := Batch.build_eq_ok_iff.1 built
    exact Request.row_returns canonical
  | @parsed bytes _ parsed =>
    rw [ofBytes?, Outline.Document.read] at parsed
    split at parsed
    · cases parsed
    · rename_i wasRead
      split at parsed
      · cases parsed
        exact row_returns_of_read (Outline.ranged_ofBytes bytes) wasRead
      · cases parsed
  | held canonical wasRead =>
    rw [read?, Outline.ofJson_eq] at wasRead
    exact row_returns_of_read (Outline.ranged_whole _ canonical) wasRead

end Request

/-- Every number among the arguments is an integer of 64 bits, and they nest so deep only that
a reader can keep them inside the four containers around them. -/
def Invocation.Keepable (invocation : Invocation) : Prop :=
  ∀ key value, invocation.arguments.find? key = some value → value.Fits 4

theorem Invocation.Keepable.written {invocation : Invocation} (keepable : invocation.Keepable) :
    (Wire.write invocation).Fits 2 := by
  have arguments : (Json.ofDict invocation.arguments).Fits 3 :=
    .obj (by decide) (fun member present =>
      keepable member.1 member.2 (Dict.find?_eq_some_iff.2 present))
  refine .arr (by decide) (List.forall_mem_cons.2 ⟨.str _ (by decide), ?_⟩)
  exact List.forall_mem_cons.2 ⟨arguments, List.forall_mem_singleton.2 (.str _ (by decide))⟩

namespace Request

variable {request : Request}

theorem fits_members (keepable : ∀ invocation ∈ request.invocations, invocation.Keepable) :
    (Json.obj (Row.members slots request.row)).Fits 0 := by
  refine .obj (by decide) ?_
  rintro ⟨key, written⟩ present
  rcases Row.mem_members_cons_iff.1 present with ⟨-, own⟩ | present
  · cases own
    refine .arr (by decide) (fun item member => ?_)
    obtain ⟨capability, -, rfl⟩ := List.mem_map.1 member
    exact .str _ (by decide)
  rcases Row.mem_members_cons_iff.1 present with ⟨-, own⟩ | present
  · cases own
    refine .arr (by decide) (fun item member => ?_)
    obtain ⟨invocation, called, rfl⟩ := List.mem_map.1 member
    exact (keepable invocation called).written
  rcases Row.mem_members_cons_iff.1 present with ⟨-, own⟩ | present
  · obtain ⟨ids, -, rfl⟩ := Option.map_eq_some_iff.1 own
    refine .obj (by decide) (fun member listed => ?_)
    obtain ⟨entry, -, rfl⟩ := List.mem_map.1 listed
    exact .str _ (by decide)
  · cases present

/-- The text of a request reads as the very request, whoever made it. -/
theorem ofBytes?_render (made : request.Made)
    (keepable : ∀ invocation ∈ request.invocations, invocation.Keepable) :
    ofBytes? (Utf8.encode request.render) = .ok request := by
  have scanned := Outline.ofBytes_render (fits_members keepable)
  have wasRead : Row.read "Request" slots
      (Outline.whole .closed (.obj (Row.members slots request.row))) = .ok request.row :=
    Row.read_perm rfl "Request" distinct_slots made.row_returns (List.Perm.refl _)
  have same : Wire.read (Outline.whole .closed (.obj (Row.members slots request.row))) =
      .ok request := by
    change (Row.read "Request" slots _).map _ = _
    rw [wasRead]
    rfl
  rw [ofBytes?, render, scanned, Outline.Document.read, same]
  rfl

/-- Quotes, control characters, letters of several scripts and the widest integers. -/
def awkward : Batch where
  invocations :=
    [{ method := .cardSet
       arguments := .ofList
        [("\"", .arr [.int (-9223372036854775808), .int 18446744073709551615]),
          ("\\u0000", .obj [("\n", .str "\t\x01\x7f"), ("é", .str "\\\"𝄞")])]
       tag := "\r\"0\\" }]
  createdIds := some .empty

theorem ofBytes?_render_awkward :
    ∃ request, awkward.build = .ok request ∧
      ofBytes? (Utf8.encode request.render) = .ok request := by
  have built : awkward.build = .ok _ := rfl
  refine ⟨_, built, ofBytes?_render (.built (List.forall_mem_singleton.2 ?_) built)
    (List.forall_mem_singleton.2 ?_)⟩
  · have ordered : "\n" < "é" := by decide
    refine Invocation.canonical_of_entries ?_ rfl
    refine ⟨?_, ⟨List.pairwise_pair.2 ordered, trivial, trivial, trivial⟩, trivial⟩
    simp [Canonical, CanonicalItems]
  · intro key value found
    have listed := Dict.mem_of_find?_ofList found
    simp only [List.mem_cons, Prod.mk.injEq, List.not_mem_nil, or_false] at listed
    rcases listed with ⟨-, rfl⟩ | ⟨-, rfl⟩
    · simp [Fits, Integral, IntegralItems, depth, depthItems, Outline.deepest]
    · simp [Fits, Integral, IntegralMembers, depth, depthMembers, Outline.deepest]

end Request

end Jmap
