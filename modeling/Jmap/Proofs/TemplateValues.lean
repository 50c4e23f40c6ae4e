import Jmap.Proofs.Template

/-!
Values in a template stay apart from it and from each other: no character that delimits the parts
of a URL is among what is written for a value.
-/

namespace Jmap.UriTemplate

variable {values others : List (String × String)} {parts : List Part} {part : Part}
  {names : List String} {variableName value : String}

theorem decode_encodeValue (value : String) :
    Percent.decode (encodeValue value) = Utf8.encode value := by
  rw [encodeValue, Percent.decode_encode (by decide), String.ofList_toList]

theorem encode_inj {value other : String} (same : Utf8.encode value = Utf8.encode other) :
    value = other := by
  have characters := congrArg Utf8.decode same
  rw [Utf8.decode_encode, Utf8.decode_encode] at characters
  exact String.toList_inj.1 ((List.map_inj_right (fun _ _ => Option.some.inj)).1 characters)

theorem encodeValue_injective {value other : String}
    (same : encodeValue value = encodeValue other) : value = other := by
  apply encode_inj
  rw [← decode_encodeValue, ← decode_encodeValue, same]

def isDelimiter (char : Char) : Bool := char ∈ ['/', '?', '#', '&', '=', ':', '@']

theorem not_unreserved_of_isDelimiter {char : Char} (delimits : isDelimiter char = true) :
    ¬Percent.Unreserved char ∧ char ≠ '%' := by
  simp only [isDelimiter, List.mem_cons, List.not_mem_nil, or_false, decide_eq_true_eq] at delimits
  rcases delimits with rfl | rfl | rfl | rfl | rfl | rfl | rfl
  all_goals decide

theorem undelimited_encodeValue (value : String) :
    ∀ char ∈ encodeValue value, isDelimiter char = false := by
  intro char member
  refine Bool.eq_false_iff.2 (fun delimits => ?_)
  obtain ⟨reserved, unmarked⟩ := not_unreserved_of_isDelimiter delimits
  exact (escaped_encodeValue value).not_mem reserved unmarked member

namespace Part

def named? (names : List String) : Part → Option String
  | .literal _ _ => none
  | .place variableName _ => if variableName ∈ names then some variableName else none

def kept (names : List String) (part : Part) : List Char :=
  match part.named? names with
  | some _ => []
  | none => part.written

theorem kept_of_none (stays : part.named? names = none) : part.kept names = part.written := by
  rw [kept, stays]

theorem kept_of_named? (holds : part.named? names = some variableName) :
    part.kept names = [] := by
  rw [kept, holds]

theorem named?_eq_some_iff {other : String} {free : BraceFree other.toList} :
    (place other free).named? names = some variableName ↔
      other ∈ names ∧ other = variableName := by
  rw [named?, Option.ite_none_right_eq_some, Option.some_inj]

theorem named?_eq_none_iff {other : String} {free : BraceFree other.toList} :
    (place other free).named? names = none ↔ other ∉ names := by
  simp [named?]

theorem filled_of_named? (named : values.map (·.1) = names)
    (holds : part.named? names = some variableName) :
    ∃ value, values.lookup variableName = some value ∧ part.filled values = encodeValue value := by
  subst named
  cases part with
  | literal text free => cases holds
  | place other free =>
    obtain ⟨member, rfl⟩ := named?_eq_some_iff.1 holds
    obtain ⟨pair, present, rfl⟩ := List.mem_map.1 member
    cases found : values.lookup pair.1 with
    | some value => exact ⟨value, rfl, by rw [filled, found]⟩
    | none => exact absurd (List.lookup_eq_none_iff.1 found pair present) (by simp)

theorem filled_of_none (named : values.map (·.1) = names)
    (stays : part.named? names = none) : part.filled values = part.written := by
  subst named
  cases part with
  | literal text free => rfl
  | place other free =>
    have absent := named?_eq_none_iff.1 stays
    have missing : values.lookup other = none := by
      refine List.lookup_eq_none_iff.2 (fun pair member => ?_)
      exact bne_iff_ne.2 (fun same => absent (same ▸ List.mem_map_of_mem member))
    rw [filled, missing]
    rfl

end Part

theorem filter_filled (named : values.map (·.1) = names) (parts : List Part) :
    (parts.flatMap (Part.filled values)).filter isDelimiter =
      (parts.flatMap (Part.kept names)).filter isDelimiter := by
  induction parts with
  | nil => rfl
  | cons part parts ih =>
    rw [List.flatMap_cons, List.filter_append, ih, List.flatMap_cons, List.filter_append]
    congr 1
    cases holds : part.named? names with
    | none => rw [Part.filled_of_none named holds, Part.kept_of_none holds]
    | some variableName =>
      obtain ⟨value, -, filled⟩ := Part.filled_of_named? named holds
      rw [filled, Part.kept_of_named? holds]
      refine List.filter_eq_nil_iff.2 (fun char member => ?_)
      rw [undelimited_encodeValue value char member]
      nofun

theorem takeWhile_append_of_mem {p : Char → Bool} {front rest : List Char} {char : Char}
    (member : char ∈ front) (stops : p char = false) :
    (front ++ rest).takeWhile p = front.takeWhile p := by
  induction front with
  | nil => cases member
  | cons head front ih =>
    rw [List.cons_append, List.takeWhile_cons, List.takeWhile_cons]
    split
    · rename_i goes
      rcases List.mem_cons.1 member with rfl | member
      · rw [stops] at goes; cases goes
      · rw [ih member]
    · rfl

def Guarded (names : List String) : List Part → Prop
  | [] => True
  | part :: parts =>
    part.named? names = none ∧
      (part.written.any isDelimiter = true ∨ Guarded names parts)

instance (names : List String) : (parts : List Part) → Decidable (Guarded names parts)
  | [] => inferInstanceAs (Decidable True)
  | _ :: parts =>
    have : Decidable (Guarded names parts) := instDecidableGuarded names parts
    inferInstanceAs (Decidable (_ ∧ (_ ∨ _)))

def Separated (names : List String) : List Part → Prop
  | [] => True
  | part :: parts =>
    (part.named? names = none ∨ Guarded names parts) ∧ Separated names parts

instance (names : List String) : (parts : List Part) → Decidable (Separated names parts)
  | [] => inferInstanceAs (Decidable True)
  | _ :: parts =>
    have : Decidable (Separated names parts) := instDecidableSeparated names parts
    inferInstanceAs (Decidable ((_ ∨ _) ∧ _))

theorem Guarded.takeWhile_filled (first : values.map (·.1) = names)
    (second : others.map (·.1) = names) (guarded : Guarded names parts) :
    (parts.flatMap (Part.filled values)).takeWhile (fun char => !isDelimiter char) =
      (parts.flatMap (Part.filled others)).takeWhile (fun char => !isDelimiter char) := by
  induction parts with
  | nil => rfl
  | cons part parts ih =>
    obtain ⟨stays, guarded⟩ := guarded
    rw [List.flatMap_cons, List.flatMap_cons, Part.filled_of_none first stays,
      Part.filled_of_none second stays]
    rcases guarded with delimited | guarded
    · obtain ⟨char, member, delimits⟩ := List.any_eq_true.1 delimited
      rw [takeWhile_append_of_mem member (by rw [delimits]; rfl),
        takeWhile_append_of_mem member (by rw [delimits]; rfl)]
    · rw [List.takeWhile_append, List.takeWhile_append, ih guarded]

/-- Where delimiters stand between the values, each value can be read off. -/
theorem Separated.lookup_eq (first : values.map (·.1) = names)
    (second : others.map (·.1) = names) (separated : Separated names parts)
    (same : parts.flatMap (Part.filled values) = parts.flatMap (Part.filled others)) :
    ∀ part ∈ parts, ∀ variableName, part.named? names = some variableName →
      values.lookup variableName = others.lookup variableName := by
  induction parts with
  | nil => nofun
  | cons part parts ih =>
    obtain ⟨front, separated⟩ := separated
    rw [List.flatMap_cons, List.flatMap_cons] at same
    cases holds : part.named? names with
    | none =>
      rw [Part.filled_of_none first holds, Part.filled_of_none second holds] at same
      refine List.forall_mem_cons.2 ⟨fun variableName found => ?_,
        ih separated (List.append_cancel_left same)⟩
      rw [holds] at found
      cases found
    | some variableName =>
      obtain ⟨value, found, filled⟩ := Part.filled_of_named? first holds
      obtain ⟨other, otherFound, otherFilled⟩ := Part.filled_of_named? second holds
      rw [filled, otherFilled] at same
      have guarded := front.resolve_left (by rw [holds]; nofun)
      have undelimited (value : String) :
          ∀ char ∈ encodeValue value, (!isDelimiter char) = true := by
        intro char member
        rw [undelimited_encodeValue value char member]
        rfl
      -- Up to the first delimiter stand this value and text of the template, the same in both.
      have fronts := congrArg (List.takeWhile (fun char => !isDelimiter char)) same
      rw [List.takeWhile_append_of_pos (undelimited value),
        List.takeWhile_append_of_pos (undelimited other),
        guarded.takeWhile_filled first second] at fronts
      obtain rfl := encodeValue_injective (List.append_cancel_right fronts)
      refine List.forall_mem_cons.2 ⟨fun name foundName => ?_,
        ih separated (List.append_cancel_left same)⟩
      cases holds.symm.trans foundName
      rw [found, otherFound]

def downloadNames : List String := ["accountId", "blobId", "name", "type"]

theorem downloadValues_names {accountId blobId name mediaType : String} :
    (downloadValues accountId blobId name mediaType).map (·.1) = downloadNames := rfl

/-- Values are written in unreserved characters and encoded bytes, from which they can be read
back. So the delimiters of a URL are those of its template, and different values make different
URLs where delimiters stand between them. -/
theorem values_stay_apart :
    (∀ value, Percent.Escaped (encodeValue value) ∧
      Percent.decode (encodeValue value) = Utf8.encode value) ∧
    (∀ value other, encodeValue value = encodeValue other → value = other) ∧
    (∀ parts accountId blobId name mediaType,
      (expandDownload (ofParts parts) accountId blobId name mediaType).toList.filter isDelimiter =
        (parts.flatMap (Part.kept downloadNames)).filter isDelimiter) ∧
    (∀ parts accountId,
      (expandUpload (ofParts parts) accountId).toList.filter isDelimiter =
        (parts.flatMap (Part.kept ["accountId"])).filter isDelimiter) ∧
    ∀ parts, (∀ name ∈ downloadNames, ∃ part ∈ parts, part.named? downloadNames = some name) →
      Separated downloadNames parts →
      ∀ {accountId blobId name mediaType accountId' blobId' name' mediaType'},
        expandDownload (ofParts parts) accountId blobId name mediaType =
          expandDownload (ofParts parts) accountId' blobId' name' mediaType' →
        accountId = accountId' ∧ blobId = blobId' ∧ name = name' ∧ mediaType = mediaType' := by
  refine ⟨fun value => ⟨escaped_encodeValue value, decode_encodeValue value⟩,
    fun _ _ => encodeValue_injective, ?_, ?_, ?_⟩
  · intro parts accountId blobId name mediaType
    rw [expandDownload_ofParts, String.toList_ofList]
    exact filter_filled downloadValues_names parts
  · intro parts accountId
    rw [expandUpload_ofParts, String.toList_ofList]
    exact filter_filled rfl parts
  · intro parts occurs separated accountId blobId name mediaType accountId' blobId' name' mediaType'
      same
    rw [expandDownload_ofParts, expandDownload_ofParts] at same
    have filled := String.ofList_injective same
    have read (variableName : String) (member : variableName ∈ downloadNames) :
        (downloadValues accountId blobId name mediaType).lookup variableName =
          (downloadValues accountId' blobId' name' mediaType').lookup variableName := by
      obtain ⟨part, present, holds⟩ := occurs variableName member
      exact separated.lookup_eq downloadValues_names downloadValues_names filled part present
        variableName holds
    refine ⟨?_, ?_, ?_, ?_⟩
    · exact Option.some.inj (read "accountId" (by decide))
    · exact Option.some.inj (read "blobId" (by decide))
    · exact Option.some.inj (read "name" (by decide))
    · exact Option.some.inj (read "type" (by decide))

/-- A value that holds the delimiter between two variables does not run into the next one. -/
theorem values_stay_apart_in_query :
    ∃ template,
      template = "/\x7baccountId\x7d/\x7bblobId\x7d/\x7bname\x7d?accept=\x7btype\x7d" ∧
      ((expandDownload template "a/b" "c" "?x=1" "text/plain").toList.filter isDelimiter =
        ['/', '/', '/', '?', '=']) ∧
      expandDownload template "a/b" "c" "?x=1" "text/plain" ≠
        expandDownload template "a" "b/c" "?x=1" "text/plain" := by
  let parts : List Part :=
    [.literal ['/'] (by decide), .place "accountId" (by decide), .literal ['/'] (by decide),
      .place "blobId" (by decide), .literal ['/'] (by decide), .place "name" (by decide),
      .literal "?accept=".toList (by decide), .place "type" (by decide)]
  obtain ⟨-, -, delimited, -, apart⟩ := values_stay_apart
  have occurs : ∀ name ∈ downloadNames,
      ∃ part ∈ parts, part.named? downloadNames = some name := by decide
  have separated : Separated downloadNames parts := by decide
  refine ⟨ofParts parts, by decide, ?_, fun same => ?_⟩
  · rw [delimited]
    decide
  · exact absurd (apart parts occurs separated same).1 (by decide)

end Jmap.UriTemplate
