import Mathlib.Data.List.Forall2
import Jmap.Proofs.Json.Text
import Jmap.Proofs.Lookup

/-!
How the entries of a response are read. Each entry of the text becomes one entry of the
response, by the name it comes with; those with names that nobody knows are kept as they
are and are in no one's way.
-/

namespace Jmap

open Json

theorem Json.Outline.read_render {α : Type} [Wire α] {value : Json} (fits : value.Fits 0) :
    (ofBytes (Utf8.encode value.render)).read α = Wire.read (whole .closed value) := by
  rw [ofBytes_render fits, Document.read]
  cases (Wire.read (whole .closed value) : Read α) <;> rfl

def Method.isForeign (name : String) : Bool :=
  name != errorName && (ofName? name).isNone

theorem Method.isForeign_iff {name : String} :
    isForeign name = true ↔ name ≠ "error" ∧ ∀ method : Method, name ≠ method.name := by
  rw [isForeign, Bool.and_eq_true, bne_iff_ne, Option.isNone_iff_eq_none,
    Option.eq_none_iff_forall_ne_some]
  refine and_congr_right (fun _ => forall_congr' (fun method => not_congr ?_))
  rw [ofName?_eq_some_iff, eq_comm]

namespace MethodResult

theorem ofJson?_eq_ok_iff {method : Method} {arguments : Json} {result : MethodResult} :
    ofJson? method arguments = .ok result ↔
      ∃ value, read? method.Result arguments = .ok value ∧ result = ⟨method, value⟩ := by
  rw [ofJson?]
  cases read? method.Result arguments with
  | error error => simp [Except.map]
  | ok value => simp [Except.map, eq_comm]

theorem as?_isSome_iff {result : MethodResult} {method : Method} :
    (∃ value, result.as? method = some value) ↔ result.method = method := by
  rw [as?]
  split <;> simp_all

end MethodResult

namespace Entry

structure Readable (given : String × Json × String) : Prop where
  error : given.1 = "error" → ∃ error, read? MethodError given.2.1 = .ok error
  result : ∀ method : Method, given.1 = method.name →
    ∃ value, read? method.Result given.2.1 = .ok value

/-- What an entry of a text is read as: an error under the name of an error, a result of a
method under the name of that method, and otherwise what it was. -/
structure Kept (given : String × Json × String) (entry : Entry) : Prop where
  name : entry.name = given.1
  tag : entry.tag = given.2.2
  error : (∃ error, entry.body = .error error) ↔ given.1 = "error"
  result : ∀ method : Method,
    (∃ value, entry.body = .result ⟨method, value⟩) ↔ given.1 = method.name
  unrecognized : (∃ arguments, entry.body = .unrecognized arguments) ↔
    Method.isForeign given.1 = true
  contents :
    match entry.body with
    | .error error => read? MethodError given.2.1 = .ok error
    | .result result => MethodResult.ofJson? result.method given.2.1 = .ok result
    | .unrecognized arguments => arguments = given.2.1

variable {given : String × Json × String} {entry : Entry} {name tag : String} {arguments : Json}
  {method : Method}

theorem name_cases (name : String) :
    name = "error" ∨ (∃ method : Method, name = method.name) ∨ Method.isForeign name = true := by
  rw [Method.isForeign_iff, ← not_exists]
  by_cases failed : name = "error"
  · exact .inl failed
  · by_cases registered : ∃ method : Method, name = method.name
    · exact .inr (.inl registered)
    · exact .inr (.inr ⟨failed, registered⟩)

theorem readable_of_foreign (foreign : Method.isForeign given.1 = true) : Readable given := by
  obtain ⟨noError, unregistered⟩ := Method.isForeign_iff.1 foreign
  exact ⟨fun failed => absurd failed noError, fun method same => absurd same (unregistered method)⟩

theorem decode_error : decode "error" arguments tag =
    match read? MethodError arguments with
    | .ok error => .ok ⟨"error", tag, .error error⟩
    | .error error => .error (.malformedError tag error) := rfl

theorem decode_name : decode method.name arguments tag =
    match MethodResult.ofJson? method arguments with
    | .ok result => .ok ⟨method.name, tag, .result result⟩
    | .error error => .error (.malformedResult method.name tag error) := by
  have noError : method.name ≠ Method.errorName := method.name_ne_error
  cases wasRead : MethodResult.ofJson? method arguments with
  | ok result => simp only [decode, if_neg noError, Method.ofName?_name, wasRead]
  | error error => simp only [decode, if_neg noError, Method.ofName?_name, wasRead]

theorem decode_foreign (foreign : Method.isForeign name = true) :
    decode name arguments tag = .ok ⟨name, tag, .unrecognized arguments⟩ := by
  rw [Method.isForeign, Bool.and_eq_true, bne_iff_ne, Option.isNone_iff_eq_none] at foreign
  rw [decode, if_neg foreign.1, foreign.2]

theorem isForeign_name (method : Method) : Method.isForeign method.name = false := by
  rw [Method.isForeign, Method.ofName?_name, Option.isNone_some, Bool.and_false]

theorem decode_isOk_iff :
    (∃ entry, decode given.1 given.2.1 given.2.2 = .ok entry) ↔ Readable given := by
  obtain ⟨name, arguments, tag⟩ := given
  rcases name_cases name with rfl | ⟨method, rfl⟩ | foreign
  · rw [decode_error]
    constructor
    · intro decoded
      cases wasRead : read? MethodError arguments with
      | error problem => simp [wasRead] at decoded
      | ok error => exact ⟨fun _ => ⟨error, wasRead⟩,
          fun method same => absurd same.symm method.name_ne_error⟩
    · intro readable
      obtain ⟨error, wasRead⟩ := readable.error rfl
      simp only at wasRead
      exact ⟨_, by rw [wasRead]⟩
  · rw [decode_name]
    constructor
    · intro decoded
      cases wasRead : MethodResult.ofJson? method arguments with
      | error problem => simp [wasRead] at decoded
      | ok result =>
        obtain ⟨value, own, -⟩ := MethodResult.ofJson?_eq_ok_iff.1 wasRead
        refine ⟨fun failed => absurd failed method.name_ne_error, fun other same => ?_⟩
        cases Method.name_injective same
        exact ⟨value, own⟩
    · intro readable
      obtain ⟨value, wasRead⟩ := readable.result method rfl
      exact ⟨_, by rw [MethodResult.ofJson?_eq_ok_iff.2 ⟨value, wasRead, rfl⟩]⟩
  · exact iff_of_true ⟨_, decode_foreign foreign⟩ (readable_of_foreign foreign)

theorem kept_of_decode (decoded : decode given.1 given.2.1 given.2.2 = .ok entry) :
    Kept given entry := by
  obtain ⟨name, arguments, tag⟩ := given
  rcases name_cases name with rfl | ⟨method, rfl⟩ | foreign
  · rw [decode_error] at decoded
    cases wasRead : read? MethodError arguments with
    | error problem => simp [wasRead] at decoded
    | ok error =>
      rw [wasRead] at decoded
      cases decoded
      exact ⟨rfl, rfl, by simp, fun method => by simp [method.name_ne_error.symm],
        by simp [Method.isForeign, Method.errorName], wasRead⟩
  · rw [decode_name] at decoded
    cases wasRead : MethodResult.ofJson? method arguments with
    | error problem => simp [wasRead] at decoded
    | ok result =>
      rw [wasRead] at decoded
      cases decoded
      obtain ⟨value, own, rfl⟩ := MethodResult.ofJson?_eq_ok_iff.1 wasRead
      refine ⟨rfl, rfl, by simp [method.name_ne_error], fun other => ?_, by simp [isForeign_name],
        wasRead⟩
      constructor
      · rintro ⟨_, same⟩
        cases same
        rfl
      · intro same
        cases Method.name_injective same
        exact ⟨value, rfl⟩
  · obtain ⟨noError, unregistered⟩ := Method.isForeign_iff.1 foreign
    rw [decode_foreign foreign] at decoded
    cases decoded
    exact ⟨rfl, rfl, by simp [noError], fun method => by simp [unregistered method],
      by simp [foreign], rfl⟩

end Entry

namespace Response

variable {raw : List (String × Json × String)} {entries : List Entry}

theorem decodeEntries_isOk_iff :
    (∃ entries, decodeEntries raw = .ok entries) ↔ ∀ given ∈ raw, Entry.Readable given := by
  induction raw with
  | nil => simp [decodeEntries]
  | cons given raw ih =>
    rw [List.forall_mem_cons, ← ih, ← Entry.decode_isOk_iff]
    obtain ⟨name, arguments, tag⟩ := given
    constructor
    · rintro ⟨entries, decoded⟩
      obtain ⟨entry, first, rest⟩ := bind_eq_ok decoded
      obtain ⟨others, later, -⟩ := bind_eq_ok rest
      exact ⟨⟨entry, first⟩, others, later⟩
    · rintro ⟨⟨entry, first⟩, others, later⟩
      exact ⟨entry :: others, by rw [decodeEntries, first, later]; rfl⟩

theorem kept_of_decodeEntries (decoded : decodeEntries raw = .ok entries) :
    List.Forall₂ Entry.Kept raw entries := by
  induction raw generalizing entries with
  | nil =>
    cases decoded
    exact .nil
  | cons given raw ih =>
    obtain ⟨name, arguments, tag⟩ := given
    obtain ⟨entry, first, rest⟩ := bind_eq_ok decoded
    obtain ⟨others, later, same⟩ := bind_eq_ok rest
    cases same
    exact .cons (Entry.kept_of_decode first) (ih later)

theorem decodeEntries_filter (keep : String → Bool) (decoded : decodeEntries raw = .ok entries) :
    decodeEntries (raw.filter (fun given => keep given.1)) =
      .ok (entries.filter (fun entry => keep entry.name)) := by
  induction raw generalizing entries with
  | nil =>
    cases decoded
    rfl
  | cons given raw ih =>
    obtain ⟨name, arguments, tag⟩ := given
    obtain ⟨entry, first, rest⟩ := bind_eq_ok decoded
    obtain ⟨others, later, same⟩ := bind_eq_ok rest
    cases same
    have kept : Entry.Kept (name, arguments, tag) entry := Entry.kept_of_decode first
    have own : entry.name = name := kept.name
    cases keeps : keep name with
    | false =>
      rw [List.filter_cons_of_neg (by simp [keeps]), List.filter_cons_of_neg (by simp [own, keeps])]
      exact ih later
    | true =>
      rw [List.filter_cons_of_pos (by simp [keeps]), List.filter_cons_of_pos (by simp [own, keeps]),
        decodeEntries, first, ih later]
      rfl

def known (raw : List (String × Json × String)) : List (String × Json × String) :=
  raw.filter (fun given => !Method.isForeign given.1)

theorem readable_iff_known :
    (∀ given ∈ raw, Entry.Readable given) ↔ ∀ given ∈ known raw, Entry.Readable given := by
  simp only [known, List.mem_filter, Bool.not_eq_true', and_imp]
  refine forall₂_congr (fun given _ => ?_)
  cases foreign : Method.isForeign given.1 with
  | false => simp
  | true => simp [Entry.readable_of_foreign foreign]

variable {response : Response} {bytes : Utf8.Bytes} {text : RawResponse}

theorem ofBytes?_eq_ok_iff (wasRead : (Outline.ofBytes bytes).read RawResponse = .ok text) :
    ofBytes? bytes = .ok response ↔ ∃ entries, decodeEntries text.entries = .ok entries ∧
      response = ⟨entries, text.sessionState, text.createdIds⟩ := by
  rw [ofBytes?, wasRead]
  simp only [ofRaw]
  cases decodeEntries text.entries with
  | error problem => simp [Except.map]
  | ok entries => simp [Except.map, eq_comm]

theorem ofBytes?_isOk_iff (wasRead : (Outline.ofBytes bytes).read RawResponse = .ok text) :
    (∃ response, ofBytes? bytes = .ok response) ↔
      ∀ given ∈ text.entries, Entry.Readable given := by
  rw [← decodeEntries_isOk_iff]
  simp only [ofBytes?_eq_ok_iff wasRead]
  exact ⟨fun ⟨_, entries, decoded, _⟩ => ⟨entries, decoded⟩,
    fun ⟨entries, decoded⟩ => ⟨_, entries, decoded, rfl⟩⟩

variable {method shape : Method} {tag : String}

theorem mem_named_iff {name : String} {entry : Entry} :
    entry ∈ response.named name tag ↔ entry ∈ response.entries ∧ entry.key = (name, tag) := by
  simp [named, Entry.key]

theorem matchOne_cases (wellRead : ∀ entry ∈ response.entries, entry.WellRead)
    (method : Method) (tag : String) :
    (∃ value : MethodResult, value.method = method ∧ response.matchOne method tag = .ok value) ∨
      (∃ error, response.matchOne method tag = .error (.method error)) ∨
      response.matchOne method tag = .error (.invalidResponse (.severalResponses method tag)) ∨
      response.matchOne method tag = .error (.invalidResponse (.noResponse method tag)) := by
  rw [matchOne_eq]
  cases own : response.named method.name tag with
  | cons entry others =>
    have listed : entry ∈ response.named method.name tag := own ▸ List.mem_cons_self
    obtain ⟨member, key⟩ := mem_named_iff.1 listed
    obtain ⟨value, same, body⟩ := (wellRead entry member).result method (congrArg Prod.fst key)
    cases others with
    | nil => exact .inl ⟨value, same, by simp only [Entry.outcome, body]⟩
    | cons _ _ => exact .inr (.inr (.inl rfl))
  | nil =>
    cases failed : response.named "error" tag with
    | nil => exact .inr (.inr (.inr rfl))
    | cons entry others =>
      have listed : entry ∈ response.named "error" tag := failed ▸ List.mem_cons_self
      obtain ⟨member, key⟩ := mem_named_iff.1 listed
      obtain ⟨error, body⟩ := (wellRead entry member).error (congrArg Prod.fst key)
      exact .inr (.inl ⟨error, by simp only [Entry.outcome, body]⟩)

theorem method_of_matchOne {value : MethodResult}
    (wellRead : ∀ entry ∈ response.entries, entry.WellRead)
    (found : response.matchOne method tag = .ok value) : value.method = method := by
  rcases matchOne_cases wellRead method tag with ⟨other, same, outcome⟩ | ⟨_, outcome⟩ |
    outcome | outcome
  · cases found.symm.trans outcome
    exact same
  all_goals cases found.symm.trans outcome

theorem matchOne_ne_undecoded (wellRead : ∀ entry ∈ response.entries, entry.WellRead)
    (other : Method) (place : String) :
    response.matchOne method tag ≠ .error (.invalidResponse (.undecoded other place)) := by
  intro undecoded
  rcases matchOne_cases wellRead method tag with ⟨_, -, outcome⟩ | ⟨_, outcome⟩ |
    outcome | outcome
  all_goals cases undecoded.symm.trans outcome

theorem getAs_isOk_iff (wellRead : ∀ entry ∈ response.entries, entry.WellRead) :
    (∃ value, response.getAs method tag shape = .ok value) ↔
      (∃ value, response.matchOne method tag = .ok value) ∧ shape = method := by
  rw [getAs]
  cases found : response.matchOne method tag with
  | error problem => simp
  | ok value =>
    have own : value.method = method := method_of_matchOne wellRead found
    have shaped : (∃ own, value.as? shape = some own) ↔ shape = method := by
      rw [MethodResult.as?_isSome_iff, own, eq_comm]
    simp only [Except.ok.injEq, exists_eq', true_and, ← shaped]
    cases value.as? shape <;> simp

/-- The text of a response can be read if and only if the arguments of each entry are such as
its name asks for. Every entry is kept then, in its place and with its name and tag. Entries
with names that nobody knows can come and go without a change to the others. What has been read
is never found impossible to read later on, and is found in the shape of its own method only. -/
theorem entries_kept (wasRead : (Outline.ofBytes bytes).read RawResponse = .ok text) :
    ((∃ response, ofBytes? bytes = .ok response) ↔
      ∀ given ∈ text.entries, Entry.Readable given) ∧
    (∀ response, ofBytes? bytes = .ok response →
      List.Forall₂ Entry.Kept text.entries response.entries ∧
      response.sessionState = text.sessionState ∧ response.createdIds = text.createdIds ∧
      ∀ (method : Method) (tag : String),
        (∀ other place, response.matchOne method tag ≠
          .error (.invalidResponse (.undecoded other place))) ∧
        ∀ shape : Method, (∃ value, response.getAs method tag shape = .ok value) ↔
          (∃ value, response.matchOne method tag = .ok value) ∧ shape = method) ∧
    ∀ (otherBytes : Utf8.Bytes) (other : RawResponse),
      (Outline.ofBytes otherBytes).read RawResponse = .ok other →
        known other.entries = known text.entries →
          ((∃ response, ofBytes? otherBytes = .ok response) ↔
            ∃ response, ofBytes? bytes = .ok response) ∧
          ∀ response changed, ofBytes? bytes = .ok response →
            ofBytes? otherBytes = .ok changed →
              changed.entries.filter (fun entry => !Method.isForeign entry.name) =
                response.entries.filter (fun entry => !Method.isForeign entry.name) := by
  refine ⟨ofBytes?_isOk_iff wasRead, fun response parsed => ?_, ?_⟩
  · have wellRead := wellRead_of_ofBytes? parsed
    obtain ⟨entries, decoded, rfl⟩ := (ofBytes?_eq_ok_iff wasRead).1 parsed
    exact ⟨kept_of_decodeEntries decoded, rfl, rfl, fun method tag =>
      ⟨matchOne_ne_undecoded wellRead, fun shape => getAs_isOk_iff wellRead⟩⟩
  · intro otherBytes other otherRead same
    refine ⟨?_, fun response changed parsed otherParsed => ?_⟩
    · rw [ofBytes?_isOk_iff wasRead, ofBytes?_isOk_iff otherRead, readable_iff_known, same,
        ← readable_iff_known]
    · obtain ⟨entries, decoded, rfl⟩ := (ofBytes?_eq_ok_iff wasRead).1 parsed
      obtain ⟨others, otherDecoded, rfl⟩ := (ofBytes?_eq_ok_iff otherRead).1 otherParsed
      have first := decodeEntries_filter (fun name => !Method.isForeign name) decoded
      have second := decodeEntries_filter (fun name => !Method.isForeign name) otherDecoded
      rw [known, known] at same
      rw [same] at second
      exact Except.ok.inj (second.symm.trans first)

/-- An entry that nobody knows comes before an error and a result, or does not come. -/
theorem entries_kept_beside_foreign :
    ∃ bytes otherBytes text other response changed,
      (Outline.ofBytes bytes).read RawResponse = .ok text ∧
      (Outline.ofBytes otherBytes).read RawResponse = .ok other ∧
      ofBytes? bytes = .ok response ∧ ofBytes? otherBytes = .ok changed ∧
      text.entries.map (·.1) = ["Sieve/get", "error", "Thread/get"] ∧
      other.entries.map (·.1) = ["error", "Thread/get"] ∧
      List.Forall₂ Entry.Kept text.entries response.entries ∧
      changed.entries.filter (fun entry => !Method.isForeign entry.name) =
        response.entries.filter (fun entry => !Method.isForeign entry.name) := by
  let foreign : Json := .arr [.str "Sieve/get", .null, .str "0"]
  let failed : Json := .arr [.str "error", .obj [("type", .str "forbidden")], .str "0"]
  let threads : Json := .arr [.str "Thread/get", .obj [("accountId", .str "a")], .str "1"]
  let document (entries : List Json) : Json :=
    .obj [("methodResponses", .arr entries), ("sessionState", .str "1")]
  have fits : (document [foreign, failed, threads]).Fits 0 := by
    simp [document, foreign, failed, threads, Fits, Integral, IntegralItems, IntegralMembers, depth,
      depthItems, depthMembers, Outline.deepest]
  have otherFits : (document [failed, threads]).Fits 0 := by
    simp [document, failed, threads, Fits, Integral, IntegralItems, IntegralMembers, depth,
      depthItems, depthMembers, Outline.deepest]
  have textRead : (Outline.ofBytes _).read RawResponse = .ok _ := Outline.read_render fits
  have otherRead : (Outline.ofBytes _).read RawResponse = .ok _ := Outline.read_render otherFits
  obtain ⟨-, kept, unchanged⟩ := entries_kept textRead
  have parsed := (ofBytes?_eq_ok_iff textRead).2 ⟨_, rfl, rfl⟩
  have otherParsed := (ofBytes?_eq_ok_iff otherRead).2 ⟨_, rfl, rfl⟩
  exact ⟨_, _, _, _, _, _, textRead, otherRead, parsed, otherParsed, rfl, rfl, (kept _ parsed).1,
    (unchanged _ _ otherRead rfl).2 _ _ parsed otherParsed⟩

end Response

end Jmap
