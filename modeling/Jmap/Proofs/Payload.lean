import Jmap.Method.Result
import Jmap.Proofs.Date.Text
import Jmap.Proofs.Json.StableTypes

namespace Jmap

open Json

theorem OffsetTime.readsBack {time : OffsetTime} (regular : time.Regular) : ReadsBack time := by
  intro ending sound
  simp only [Wire.read, Wire.write, Outline.whole, Outline.readString, bind, Except.bind,
    ofText?_render regular]

theorem OffsetTime.regular_of_read {outline : Outline} {time : OffsetTime}
    (wasRead : Wire.read outline = .ok time) : time.Regular := by
  obtain ⟨text, -, rest⟩ := bind_eq_ok wasRead
  cases found : ofText? text with
  | none =>
    rw [found] at rest
    cases rest
  | some own =>
    rw [found] at rest
    cases rest
    exact regular_of_ofText? found

instance : StableWire OffsetTime where
  readsBack _ _ wasRead := OffsetTime.readsBack (OffsetTime.regular_of_read wasRead)
  notNull _ _ _ := Json.noConfusion

/-- An instant is told in UTC, wherever it was told before. -/
instance : StableWire Instant where
  readsBack ranged value wasRead := by
    obtain ⟨time, timeRead, rfl⟩ := map_eq_ok wasRead
    intro ending sound
    have utc := OffsetTime.readsBack (OffsetTime.regular_of_read timeRead).utc ending sound
    change (Wire.read (Outline.whole ending (Wire.write (⟨time.instant, 0⟩ : OffsetTime))) :
      Read OffsetTime).map (·.instant) = .ok time.instant
    rw [utc]
    rfl
  notNull _ _ _ := Json.noConfusion

instance : StableWire State where
  readsBack _ _ _ := fun _ _ => rfl
  notNull _ _ _ := Json.noConfusion

@[simp] theorem State.readsBack (state : State) : ReadsBack state := fun _ _ => rfl

instance : StableWire EmailAddress := .record (by simp) (by simp) (fun _ => rfl)

instance : StableWire EmailBodyValue := .record (by simp) (by simp) (fun _ => rfl)

instance : StableWire BodyPart := .record (by simp) (by simp) (fun _ => rfl)

instance : StableWire Email := .record (by simp) (by simp) (fun _ => rfl)

instance : StableWire Jmap.Thread := .record (by simp) (by simp) (fun _ => rfl)

instance : StableWire MailboxRights := .record (by simp) (by simp) (fun _ => rfl)

theorem MailboxRights.readsBack (rights : MailboxRights) : ReadsBack rights :=
  .record (by simp) ⟨ReadsBack.bool _, ReadsBack.bool _, ReadsBack.bool _, ReadsBack.bool _,
    ReadsBack.bool _, ReadsBack.bool _, ReadsBack.bool _, ReadsBack.bool _, ReadsBack.bool _,
    trivial⟩ rfl

instance : StableWire Mailbox :=
  .record (by simp [MailboxRights.readsBack]) (by simp) (fun _ => rfl)

instance : StableWire Quota := .record (by simp) (by simp) (fun _ => rfl)

instance : StableWire Identity := .record (by simp) (by simp) (fun _ => rfl)

instance : StableWire SmtpAddress := .record (by simp) (by simp) (fun _ => rfl)

instance : StableWire Envelope := .record (by simp) (by simp) (fun _ => rfl)

instance : StableWire EmailSubmission := .record (by simp) (by simp) (fun _ => rfl)

instance : StableWire VacationResponse := .record (by simp) (by simp) (fun _ => rfl)

instance : StableWire ContactCard := by
  unfold ContactCard.instWire
  exact .openRecord (by simp) (by simp) (fun _ _ => rfl)

instance : StableWire CalendarEvent := by
  unfold CalendarEvent.instWire
  exact .openRecord (by simp) (by simp) (fun _ _ => rfl)

instance : StableWire Blob := by
  unfold Blob.instWire
  exact .openRecord (by simp) (by simp) (fun _ _ => rfl)

instance : StableWire CreatedBlob := .record (by simp) (by simp) (fun _ => rfl)

instance : StableWire Comparator := .record (by simp) (by simp) (fun _ => rfl)

instance : StableWire EmailFilter := .record (by simp) (by simp) (fun _ => rfl)

instance : StableWire MailboxFilter := .record (by simp) (by simp) (fun _ => rfl)

instance : StableWire SetError := .record (by simp) (by simp) (fun _ => rfl)

namespace DataSource

variable {ending : Ending}

theorem readVariant_write (sound : ending.check = .ok ()) {slots : List Slot}
    (distinct : (slots.map Slot.key).Nodup) {row : Row slots} (returns : row.Returns) :
    readVariant slots (Outline.whole ending (Row.write slots row)) = some row := by
  change (Row.read "DataSource" slots (Outline.whole ending (Row.write slots row))).toOption = _
  rw [Row.read_write sound "DataSource" distinct returns]
  rfl

theorem readVariant_write_missing {slot : Slot} {slots others : List Slot}
    (required : slot.absent = none) (missing : slot.key ∉ others.map Slot.key) (row : Row others) :
    readVariant (slot :: slots) (Outline.whole ending (Row.write others row)) = none := by
  change (Row.read "DataSource" (slot :: slots)
    (Outline.whole ending (Row.write others row))).toOption = none
  cases wasRead : Row.read "DataSource" (slot :: slots)
    (Outline.whole ending (Row.write others row)) with
  | error problem => rfl
  | ok value =>
    exact absurd wasRead (Row.read_write_missing "DataSource" required missing row value)

theorem ofOutline?_write (sound : ending.check = .ok ()) (source : DataSource) :
    ofOutline? (Outline.whole ending (Wire.write source)) = some source := by
  cases source with
  | text data =>
    have own : readVariant textSlots (Outline.whole ending (Row.write textSlots (data, ()))) =
        some (data, ()) := readVariant_write sound (by simp) ⟨ReadsBack.string data, trivial⟩
    simp only [ofOutline?, Wire.write, own]
  | base64 data =>
    have noText : readVariant textSlots (Outline.whole ending (Row.write base64Slots (data, ()))) =
        none := readVariant_write_missing rfl (by simp) _
    have own : readVariant base64Slots (Outline.whole ending (Row.write base64Slots (data, ()))) =
        some (data, ()) := readVariant_write sound (by simp) ⟨ReadsBack.string data, trivial⟩
    simp only [ofOutline?, Wire.write, noText, own]
  | blob id offset length =>
    have noText : readVariant textSlots
        (Outline.whole ending (Row.write blobSlots (id, offset, length, ()))) = none :=
      readVariant_write_missing rfl (by simp) _
    have noBase64 : readVariant base64Slots
        (Outline.whole ending (Row.write blobSlots (id, offset, length, ()))) = none :=
      readVariant_write_missing rfl (by simp) _
    have own : readVariant blobSlots
        (Outline.whole ending (Row.write blobSlots (id, offset, length, ()))) =
          some (id, offset, length, ()) :=
      readVariant_write sound (by simp) ⟨ReadsBack.string id,
        Slot.optionalByName_returns fun number _ => ⟨.uint64 number, nofun⟩,
        Slot.optionalByName_returns fun number _ => ⟨.uint64 number, nofun⟩, trivial⟩
    simp only [ofOutline?, Wire.write, noText, noBase64, own]

theorem canonical_write (source : DataSource) : (Wire.write source : Json).Canonical := by
  cases source with
  | text data | base64 data => exact ⟨List.pairwise_singleton _ _, trivial, trivial⟩
  | blob id offset length =>
    apply Row.canonical_write
    intro key written member
    rcases Row.mem_members_cons_iff.1 member with ⟨-, ⟨⟩⟩ | member
    · trivial
    rcases Row.mem_members_cons_iff.1 member with ⟨-, same⟩ | member
    · exact canonical_of_map_uint64 same
    rcases Row.mem_members_cons_iff.1 member with ⟨-, same⟩ | member
    · exact canonical_of_map_uint64 same
    · cases member

theorem readsBack (source : DataSource) : ReadsBack source := by
  intro ending sound
  have kept := Outline.keep_whole sound _ source.canonical_write
  simp only [Wire.read, kept, ofOutline?_write sound, Fault.lift, bind, Except.bind]

instance : StableWire DataSource where
  readsBack _ source _ := source.readsBack
  notNull _ source _ := by cases source <;> exact Json.noConfusion

end DataSource

instance : StableWire BlobUpload := .record (by simp) (by simp) (fun _ => rfl)

instance {α : Type} [Wire α] [StableWire α] : StableWire (GetResult α) :=
  .record (by simp) (by simp) (fun _ => rfl)

instance : StableWire QueryResult := .record (by simp) (by simp) (fun _ => rfl)

instance : StableWire ChangesResult := .record (by simp) (by simp) (fun _ => rfl)

instance {α : Type} [Wire α] [StableWire α] : StableWire (SetResult α) :=
  .record (by simp) (by simp) (fun _ => rfl)

instance : StableWire ImportResult := .record (by simp) (by simp) (fun _ => rfl)

instance : StableWire ParseResult := .record (by simp) (by simp) (fun _ => rfl)

instance : StableWire UploadResult := .record (by simp) (by simp) (fun _ => rfl)

instance (method : Method) : StableWire method.Result :=
  match method with
  | .mailboxGet => inferInstanceAs (StableWire (GetResult Mailbox))
  | .mailboxQuery | .emailQuery | .cardQuery => inferInstanceAs (StableWire QueryResult)
  | .emailGet => inferInstanceAs (StableWire (GetResult Email))
  | .emailChanges => inferInstanceAs (StableWire ChangesResult)
  | .emailSet => inferInstanceAs (StableWire (SetResult Email))
  | .emailImport => inferInstanceAs (StableWire ImportResult)
  | .threadGet => inferInstanceAs (StableWire (GetResult Jmap.Thread))
  | .identityGet => inferInstanceAs (StableWire (GetResult Identity))
  | .submissionGet => inferInstanceAs (StableWire (GetResult EmailSubmission))
  | .submissionSet => inferInstanceAs (StableWire (SetResult EmailSubmission))
  | .vacationGet => inferInstanceAs (StableWire (GetResult VacationResponse))
  | .vacationSet => inferInstanceAs (StableWire (SetResult VacationResponse))
  | .quotaGet => inferInstanceAs (StableWire (GetResult Quota))
  | .blobGet => inferInstanceAs (StableWire (GetResult Blob))
  | .blobUpload => inferInstanceAs (StableWire UploadResult)
  | .cardGet => inferInstanceAs (StableWire (GetResult ContactCard))
  | .cardSet => inferInstanceAs (StableWire (SetResult ContactCard))
  | .eventParse => inferInstanceAs (StableWire ParseResult)

/-- An answer is read again as that of the same method, and so is each part of a request that has
a type: how to sort and filter, what to upload, and the objects that are to be made. -/
theorem payloads_reread :
    (∀ (method : Method) (value : Json) (result : MethodResult), value.Canonical →
      MethodResult.ofJson? method value = .ok result →
        MethodResult.ofJson? method result.toJson = .ok result) ∧
    Rereads Comparator ∧ Rereads EmailFilter ∧ Rereads MailboxFilter ∧
    Rereads DataSource ∧ Rereads BlobUpload ∧ Rereads Email ∧ Rereads EmailSubmission ∧
    Rereads Envelope ∧ Rereads VacationResponse ∧ Rereads ContactCard := by
  refine ⟨fun method value result canonical wasRead => ?_, StableWire.rereads, StableWire.rereads,
    StableWire.rereads, StableWire.rereads, StableWire.rereads, StableWire.rereads,
    StableWire.rereads, StableWire.rereads, StableWire.rereads, StableWire.rereads⟩
  obtain ⟨typed, typedRead, rfl⟩ := map_eq_ok wasRead
  have again := StableWire.rereads value typed canonical typedRead
  exact congrArg (Except.map (MethodResult.mk method)) again

/-- A message with two dates told west of UTC, and a blob made from part of another. -/
theorem payloads_reread_with_dates :
    let dates (received : String) : List (String × Json) :=
      [("id", .str "e"), ("receivedAt", .str received),
        ("sentAt", .str "2024-02-29T23:30:00.500-02:00")]
    let answer (received : String) : Json :=
      .obj [("accountId", .str "a"), ("list", .arr [.obj (dates received)]),
        ("notFound", .arr []), ("state", .str "")]
    let upload : Json := .obj [("data", .arr [.obj [("blobId", .str "b"), ("length", .int 7)]])]
    (∃ result, MethodResult.ofJson? .emailGet (answer "2024-02-29T23:30:00-02:00") = .ok result ∧
      result.toJson = answer "2024-03-01T01:30:00Z" ∧
      MethodResult.ofJson? .emailGet result.toJson = .ok result) ∧
    ∃ typed : BlobUpload, read? BlobUpload upload = .ok typed ∧
      typed = ⟨[.blob "b" none (some 7)], none⟩ ∧
      read? BlobUpload (Wire.write typed) = .ok typed := by
  intro dates answer upload
  have emailRead : MethodResult.ofJson? .emailGet (answer "2024-02-29T23:30:00-02:00") = .ok _ :=
    rfl
  have uploadRead : read? BlobUpload upload = .ok _ := rfl
  have canonical : (answer "2024-02-29T23:30:00-02:00").Canonical := by
    simp only [answer, dates, Canonical, CanonicalItems, CanonicalMembers, Entries.Sorted]
    decide +kernel
  have uploadCanonical : upload.Canonical := by
    simp only [upload, Canonical, CanonicalItems, CanonicalMembers, Entries.Sorted]
    decide +kernel
  obtain ⟨results, -, -, -, -, uploads, -⟩ := payloads_reread
  exact ⟨⟨_, emailRead, by decide +kernel, results _ _ _ canonical emailRead⟩,
    _, uploadRead, rfl, uploads _ _ uploadCanonical uploadRead⟩

end Jmap
