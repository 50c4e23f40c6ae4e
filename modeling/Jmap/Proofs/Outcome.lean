import Jmap.Proofs.Decoding
import Jmap.Proofs.Json.Absent

/-!
Outcomes that are null. The maps of a set result and of an import say nothing where they are
null, as where they are missing. Those of an upload may be missing, but not null: a response
with such an upload cannot be read.
-/

namespace Jmap

open Json

namespace Method

/-- The members that tell the fate of objects, in the results of a method. -/
def outcomes : Method → List String
  | .emailSet | .submissionSet | .vacationSet | .cardSet =>
    ["created", "updated", "destroyed", "notCreated", "notUpdated", "notDestroyed"]
  | .emailImport | .blobUpload => ["created", "notCreated"]
  | _ => []

structure LacksOutcomes (method : Method) (members : List (String × Json)) (keys : List String) :
    Prop extends Lacks members keys where
  known : ∀ key ∈ keys, key ∈ method.outcomes

variable {method : Method} {members : List (String × Json)} {keys : List String}

theorem LacksOutcomes.eq_nil (lacks : method.LacksOutcomes members keys)
    (none : method.outcomes = []) : keys = [] :=
  List.eq_nil_iff_forall_not_mem.2 (fun key listed =>
    List.not_mem_nil (none ▸ lacks.known key listed))

end Method

variable {members : List (String × Json)} {keys : List String}

theorem SetResult.read?_withNulls (α : Type) [Wire α] (lacks : Lacks members keys)
    (known : ∀ key ∈ keys, key ∈ Method.emailSet.outcomes) :
    read? (SetResult α) (.obj (withNulls keys members)) =
      read? (SetResult α) (.obj members) := by
  refine congrArg (Except.map _) (Row.read_withNulls ?_ lacks)
  have unnamed : "accountId" ∉ keys := fun listed =>
    absurd (known _ listed) (by decide)
  simp only [SetResult.slots, List.forall_mem_cons, unnamed, false_imp_iff, true_and]
  exact ⟨fun _ => Slot.nullIsAbsent_nullable _ _, fun _ => Slot.nullIsAbsent_nullable _ _,
    fun _ => Slot.nullIsAbsent_nullable _ _, fun _ => Slot.nullIsAbsent_nullable _ _,
    fun _ => Slot.nullIsAbsent_nullable _ _, fun _ => Slot.nullIsAbsent_nullable _ _,
    fun _ => Slot.nullIsAbsent_nullable _ _, fun _ => Slot.nullIsAbsent_nullable _ _,
    List.forall_mem_nil _⟩

theorem ImportResult.read?_withNulls (lacks : Method.emailImport.LacksOutcomes members keys) :
    read? ImportResult (.obj (withNulls keys members)) = read? ImportResult (.obj members) := by
  refine congrArg (Except.map _) (Row.read_withNulls ?_ lacks.toLacks)
  have noAccount : "accountId" ∉ keys := fun listed =>
    absurd (lacks.known _ listed) (by decide)
  have noState : "newState" ∉ keys := fun listed =>
    absurd (lacks.known _ listed) (by decide)
  simp only [ImportResult.slots, List.forall_mem_cons, noAccount, noState, false_imp_iff, true_and]
  exact ⟨fun _ => Slot.nullIsAbsent_nullable _ _, fun _ => Slot.nullIsAbsent_nullable _ _,
    fun _ => Slot.nullIsAbsent_nullable _ _, List.forall_mem_nil _⟩

theorem UploadResult.read?_withNulls (some : keys ≠ [])
    (lacks : Method.blobUpload.LacksOutcomes members keys)
    (accepted : ∃ result, read? UploadResult (.obj members) = .ok result) :
    read? UploadResult (.obj (withNulls keys members)) =
      .error (.mismatch (.wrongType .null "a map")) := by
  refine congrArg (Except.map _) (Row.read_withNulls_refused some ?_ ?_ lacks.toLacks ?_)
  · have noAccount : "accountId" ∉ keys := fun listed =>
      absurd (lacks.known _ listed) (by decide)
    simp only [UploadResult.slots, List.forall_mem_cons, noAccount, false_imp_iff, true_and]
    exact ⟨fun _ => rfl, fun _ => rfl, List.forall_mem_nil _⟩
  · exact fun key listed => List.mem_cons_of_mem _ (lacks.known key listed)
  · intro other failed
    obtain ⟨result, wasRead⟩ := accepted
    obtain ⟨row, rowRead, -⟩ := map_eq_ok wasRead
    cases failed.symm.trans rowRead

namespace MethodResult

variable {method : Method}

theorem ofJson?_congr {left right : Json}
    (same : read? method.Result left = read? method.Result right) :
    ofJson? method left = ofJson? method right := by
  rw [ofJson?, ofJson?, same]

theorem ofJson?_withNulls (allows : method ≠ .blobUpload)
    (lacks : method.LacksOutcomes members keys) :
    ofJson? method (.obj (withNulls keys members)) = ofJson? method (.obj members) := by
  apply ofJson?_congr
  cases method
  case emailSet => exact SetResult.read?_withNulls Email lacks.toLacks lacks.known
  case submissionSet => exact SetResult.read?_withNulls EmailSubmission lacks.toLacks lacks.known
  case vacationSet => exact SetResult.read?_withNulls VacationResponse lacks.toLacks lacks.known
  case cardSet => exact SetResult.read?_withNulls ContactCard lacks.toLacks lacks.known
  case emailImport => exact ImportResult.read?_withNulls lacks
  case blobUpload => exact absurd rfl allows
  all_goals
    cases lacks.eq_nil rfl
    rfl

theorem ofJson?_upload_withNulls (some : keys ≠ [])
    (lacks : Method.blobUpload.LacksOutcomes members keys)
    (accepted : ∃ result, ofJson? .blobUpload (.obj members) = .ok result) :
    ofJson? .blobUpload (.obj (withNulls keys members)) =
      .error (.mismatch (.wrongType .null "a map")) := by
  obtain ⟨result, wasRead⟩ := accepted
  obtain ⟨own, ownRead, -⟩ := map_eq_ok wasRead
  have refused := UploadResult.read?_withNulls some lacks ⟨own, ownRead⟩
  exact congrArg (Except.map (MethodResult.mk .blobUpload)) refused

end MethodResult

namespace Entry

def withNulls (keys : List String) : String × Json × String → String × Json × String
  | (name, .obj members, tag) => (name, .obj (Json.withNulls keys members), tag)
  | given => given

def LacksOutcomes (given : String × Json × String) (keys : List String) : Prop :=
  keys = [] ∨ ∃ (method : Method) (members : List (String × Json)) (tag : String),
    given = (method.name, .obj members, tag) ∧ method.LacksOutcomes members keys

theorem withNulls_nil (given : String × Json × String) : withNulls [] given = given := by
  rw [withNulls.eq_def]
  split <;> rfl

variable {given : String × Json × String}

theorem decode_withNulls (lacks : LacksOutcomes given keys)
    (allows : given.1 = "Blob/upload" → keys = []) :
    decode (withNulls keys given).1 (withNulls keys given).2.1 (withNulls keys given).2.2 =
      decode given.1 given.2.1 given.2.2 := by
  rcases lacks with rfl | ⟨method, members, tag, rfl, lacks⟩
  · rw [withNulls_nil]
  · by_cases upload : method = .blobUpload
    · cases allows (congrArg Method.name upload)
      rfl
    · simp only [withNulls, decode_name, MethodResult.ofJson?_withNulls upload lacks]

theorem decode_upload_withNulls (lacks : LacksOutcomes given keys)
    (upload : given.1 = "Blob/upload") (some : keys ≠ []) {entry : Entry}
    (decoded : decode given.1 given.2.1 given.2.2 = .ok entry) :
    decode (withNulls keys given).1 (withNulls keys given).2.1 (withNulls keys given).2.2 =
      .error (.malformedResult "Blob/upload" given.2.2
        (.mismatch (.wrongType .null "a map"))) := by
  rcases lacks with none | ⟨method, members, tag, rfl, lacks⟩
  · exact absurd none some
  · have own : method = .blobUpload := Method.name_injective upload
    subst own
    have readable := decode_isOk_iff.1 ⟨entry, decoded⟩
    obtain ⟨value, wasRead⟩ := readable.result .blobUpload rfl
    have accepted := MethodResult.ofJson?_eq_ok_iff.2 ⟨value, wasRead, rfl⟩
    simp only [withNulls, decode_name,
      MethodResult.ofJson?_upload_withNulls some lacks ⟨_, accepted⟩]
    rfl

end Entry

namespace Response

variable {pads : List ((String × Json × String) × List String)}

theorem decodeEntries_withNulls (lacks : ∀ pad ∈ pads, Entry.LacksOutcomes pad.1 pad.2)
    (allows : ∀ pad ∈ pads, pad.1.1 = "Blob/upload" → pad.2 = []) :
    decodeEntries (pads.map (fun pad => Entry.withNulls pad.2 pad.1)) =
      decodeEntries (pads.map (·.1)) := by
  induction pads with
  | nil => rfl
  | cons pad pads ih =>
    rw [List.forall_mem_cons] at lacks allows
    have first := Entry.decode_withNulls lacks.1 allows.1
    rw [List.map_cons, List.map_cons, decodeEntries, decodeEntries, first, ih lacks.2 allows.2]

theorem decodeEntries_upload_withNulls
    (lacks : ∀ pad ∈ pads, Entry.LacksOutcomes pad.1 pad.2) {entries : List Entry}
    (decoded : decodeEntries (pads.map (·.1)) = .ok entries)
    (spoiled : ∃ pad ∈ pads, pad.1.1 = "Blob/upload" ∧ pad.2 ≠ []) :
    ∃ tag, decodeEntries (pads.map (fun pad => Entry.withNulls pad.2 pad.1)) =
      .error (.malformedResult "Blob/upload" tag (.mismatch (.wrongType .null "a map"))) := by
  induction pads generalizing entries with
  | nil => simp at spoiled
  | cons pad pads ih =>
    rw [List.forall_mem_cons] at lacks
    obtain ⟨entry, first, rest⟩ := bind_eq_ok decoded
    obtain ⟨others, later, -⟩ := bind_eq_ok rest
    rw [List.map_cons, decodeEntries]
    by_cases own : pad.1.1 = "Blob/upload" ∧ pad.2 ≠ []
    · refine ⟨pad.1.2.2, ?_⟩
      rw [Entry.decode_upload_withNulls lacks.1 own.1 own.2 first]
      rfl
    · obtain ⟨tag, failed⟩ := ih lacks.2 later
        ((List.exists_mem_cons_iff ..).1 spoiled |>.resolve_left own)
      have same := Entry.decode_withNulls lacks.1
        (fun upload => by_contra (fun some => own ⟨upload, some⟩))
      exact ⟨tag, by rw [same, first, failed]; rfl⟩

/-- Missing outcomes may as well be null in the result of a method that creates, updates or
destroys, unless it uploads blobs: with any null outcome such a result cannot be read, and neither
can a response that holds it. -/
theorem null_outcomes {method : Method} {result : MethodResult}
    (lacks : method.LacksOutcomes members keys)
    (accepted : MethodResult.ofJson? method (.obj members) = .ok result) :
    (MethodResult.ofJson? method (.obj (withNulls keys members)) = .ok result ↔
      (method = .blobUpload → keys = [])) ∧
    (method = .blobUpload → keys ≠ [] →
      MethodResult.ofJson? method (.obj (withNulls keys members)) =
        .error (.mismatch (.wrongType .null "a map"))) ∧
    ∀ (bytes padded : Utf8.Bytes) (text paddedText : RawResponse)
      (pads : List ((String × Json × String) × List String)),
      (Outline.ofBytes bytes).read RawResponse = .ok text →
      (Outline.ofBytes padded).read RawResponse = .ok paddedText →
      text.entries = pads.map (·.1) →
      paddedText = { text with entries := pads.map (fun pad => Entry.withNulls pad.2 pad.1) } →
      (∀ pad ∈ pads, Entry.LacksOutcomes pad.1 pad.2) →
        ((∀ pad ∈ pads, pad.1.1 = "Blob/upload" → pad.2 = []) →
          ofBytes? padded = ofBytes? bytes) ∧
        ((∃ response, ofBytes? bytes = .ok response) →
          (∃ pad ∈ pads, pad.1.1 = "Blob/upload" ∧ pad.2 ≠ []) →
            ∃ tag, ofBytes? padded = .error (.invalidResponse
              (.malformedResult "Blob/upload" tag (.mismatch (.wrongType .null "a map"))))) := by
  have refused (upload : method = .blobUpload) (some : keys ≠ []) :
      MethodResult.ofJson? method (.obj (withNulls keys members)) =
        .error (.mismatch (.wrongType .null "a map")) := by
    subst upload
    exact MethodResult.ofJson?_upload_withNulls some lacks ⟨result, accepted⟩
  refine ⟨⟨fun read upload => ?_, fun allows => ?_⟩, refused, ?_⟩
  · by_contra some
    cases read.symm.trans (refused upload some)
  · by_cases upload : method = .blobUpload
    · rw [allows upload]
      exact accepted
    · rw [MethodResult.ofJson?_withNulls upload lacks, accepted]
  · rintro bytes padded text _ pads wasRead paddedRead given rfl lacks
    refine ⟨fun allows => ?_, ?_⟩
    · rw [ofBytes?, ofBytes?, wasRead, paddedRead]
      simp only [ofRaw, given, decodeEntries_withNulls lacks allows]
    · rintro ⟨response, parsed⟩ spoiled
      obtain ⟨entries, decoded, -⟩ := (ofBytes?_eq_ok_iff wasRead).1 parsed
      obtain ⟨tag, failed⟩ := decodeEntries_upload_withNulls lacks (given ▸ decoded) spoiled
      refine ⟨tag, ?_⟩
      rw [ofBytes?, paddedRead]
      simp only [ofRaw, failed]
      rfl

/-- A set result with two null outcomes is read as without them; beside an upload with one the
response is lost. -/
theorem null_outcomes_of_set_and_upload :
    ∃ bytes spared spoiled response,
      (∃ result, MethodResult.ofJson? .emailSet (.obj [("accountId", .str "a")]) = .ok result ∧
        MethodResult.ofJson? .emailSet (.obj [("accountId", .str "a"), ("destroyed", .null),
          ("notCreated", .null)]) = .ok result) ∧
      ofBytes? bytes = .ok response ∧ ofBytes? spared = .ok response ∧
      ∃ tag, ofBytes? spoiled = .error (.invalidResponse
        (.malformedResult "Blob/upload" tag (.mismatch (.wrongType .null "a map")))) := by
  let own : List (String × Json) := [("accountId", .str "a")]
  let set (keys : List String) : (String × Json × String) × List String :=
    (("Email/set", .obj own, "0"), keys)
  let upload (keys : List String) : (String × Json × String) × List String :=
    (("Blob/upload", .obj own, "1"), keys)
  let document (pads : List ((String × Json × String) × List String)) : Json :=
    .obj [("methodResponses", Wire.write (pads.map (fun pad => Entry.withNulls pad.2 pad.1))),
      ("sessionState", .str "1")]
  let spared := [set ["destroyed", "notCreated"], upload []]
  let spoiled := [set [], upload ["notCreated"]]
  have lacksSet : Method.emailSet.LacksOutcomes own ["destroyed", "notCreated"] :=
    ⟨⟨by decide, by decide⟩, by decide⟩
  have lacksUpload : Method.blobUpload.LacksOutcomes own ["notCreated"] :=
    ⟨⟨by decide, by decide⟩, by decide⟩
  have noNull : withNulls [] [("accountId", .str "a")] = [("accountId", .str "a")] := rfl
  have oneNull : withNulls ["notCreated"] [("accountId", .str "a")] =
      [("accountId", .str "a"), ("notCreated", .null)] := by decide +kernel
  have twoNulls : withNulls ["destroyed", "notCreated"] [("accountId", .str "a")] =
      [("accountId", .str "a"), ("destroyed", .null), ("notCreated", .null)] := by decide +kernel
  have fits : ∀ pads ∈ [[set [], upload []], spared, spoiled], (document pads).Fits 0 := by
    simp [document, spared, spoiled, set, upload, own, Entry.withNulls, noNull, oneNull, twoNulls,
      Wire.write, Fits, Integral, IntegralItems, IntegralMembers, depth, depthItems, depthMembers,
      Outline.deepest]
  simp only [List.forall_mem_cons] at fits
  have plainRead : (Outline.ofBytes _).read RawResponse = .ok _ := Outline.read_render fits.1
  have sparedRead : (Outline.ofBytes _).read RawResponse = .ok _ := Outline.read_render fits.2.1
  have spoiledRead : (Outline.ofBytes _).read RawResponse = .ok _ :=
    Outline.read_render fits.2.2.1
  have parsed := (ofBytes?_eq_ok_iff plainRead).2 ⟨_, rfl, rfl⟩
  have accepted : MethodResult.ofJson? .emailSet (.obj own) = .ok _ := rfl
  obtain ⟨alike, -, others⟩ := null_outcomes lacksSet accepted
  have read := alike.2 (fun upload => absurd upload (by decide))
  rw [twoNulls] at read
  have same := (others _ _ _ _ spared plainRead sparedRead rfl rfl (by
    simp only [spared, List.forall_mem_cons]
    exact ⟨.inr ⟨.emailSet, own, "0", rfl, lacksSet⟩, .inl rfl, List.forall_mem_nil _⟩)).1
    (by decide)
  have failed := (others _ _ _ _ spoiled plainRead spoiledRead rfl rfl (by
    simp only [spoiled, List.forall_mem_cons]
    exact ⟨.inl rfl, .inr ⟨.blobUpload, own, "1", rfl, lacksUpload⟩, List.forall_mem_nil _⟩)).2
    ⟨_, parsed⟩ (by decide)
  exact ⟨_, _, _, _, ⟨_, accepted, read⟩, parsed, same.trans parsed, failed⟩

/-- Missing and null are told apart in an upload. -/
theorem null_outcome_of_upload :
    (∃ result, MethodResult.ofJson? .blobUpload (.obj [("accountId", .str "a")]) = .ok result) ∧
    Method.blobUpload.LacksOutcomes [("accountId", .str "a")] ["notCreated"] ∧
    MethodResult.ofJson? .blobUpload (.obj [("accountId", .str "a"), ("notCreated", .null)]) =
      .error (.mismatch (.wrongType .null "a map")) ∧
    decodeEntries [("Blob/upload", .obj [("accountId", .str "a"), ("notCreated", .null)], "0")] =
      .error (.malformedResult "Blob/upload" "0" (.mismatch (.wrongType .null "a map"))) :=
  ⟨⟨_, rfl⟩, ⟨⟨by decide, by decide⟩, by decide⟩, rfl, rfl⟩

end Response

end Jmap
