import Jmap.Proofs.TemplateValues
import Jmap.Proofs.Url.Web
import Jmap.Transport.HttpRequest

/-!
URLs of blobs stay under the path of their template: a value that is a segment of its own keeps to
it. There is one exception. The values `.` and `..` need no encoding, and a URL loses them when it
is read, the second together with the segment before it.
-/

namespace Jmap

theorem HttpAgent.parse_of_request {agent : HttpAgent} {method : HttpMethod}
    {text username : String} {headers : List (String × String)} {body : Utf8.Bytes}
    {request : HttpRequest}
    (made : agent.request method text username headers body = .ok request) :
    Url.parse text = .ok request.url := by
  rw [HttpAgent.request, HttpRequest.make?] at made
  split at made
  · cases made
  · rename_i url parsed
    split at made
    · cases made
    · split at made
      · cases made
      · cases made
        exact parsed

namespace UriTemplate

variable {values : List (String × String)} {part : Part} {variableName value : String}
  {char : Char}

theorem whole_encodeValue (value : String) : Url.Whole (encodeValue value) :=
  .of_escaped (fun _ member => (escaped_encodeValue value).mem member)

theorem decode_singleDot {text : String} (single : Url.Path.isSingleDot text = true) :
    Percent.decode text.toList = Utf8.encode "." := by
  have all : ∀ text ∈ [".", "%2e", "%2E"], Percent.decode text.toList = Utf8.encode "." := by
    decide +kernel
  exact all text (List.contains_iff_mem.1 single)

theorem decode_doubleDot {text : String} (double : Url.Path.isDoubleDot text = true) :
    Percent.decode text.toList = Utf8.encode ".." := by
  have all : ∀ text ∈ ["..", "%2e%2e", "%2e%2E", "%2E%2e", "%2E%2E", "%2e.", "%2E.", ".%2e",
      ".%2E"], Percent.decode text.toList = Utf8.encode ".." := by
    decide +kernel
  exact all text (List.contains_iff_mem.1 double)

theorem isDots_encodeValue :
    Url.Path.isDots (String.ofList (encodeValue value)) = true ↔ value = "." ∨ value = ".." := by
  refine ⟨fun dots => ?_, ?_⟩
  · have decoded :
        Percent.decode (String.ofList (encodeValue value)).toList = Utf8.encode value := by
      rw [String.toList_ofList, decode_encodeValue]
    rcases Bool.or_eq_true_iff.1 dots with single | double
    · exact .inl (encode_inj (decoded.symm.trans (decode_singleDot single)))
    · exact .inr (encode_inj (decoded.symm.trans (decode_doubleDot double)))
  · rintro (rfl | rfl)
    all_goals decide

theorem encoded_expression (plain : ∀ char ∈ variableName.toList, Url.plainInPath char = true) :
    Url.encoded Url.plainInPath (expression variableName) = "%7B" ++ variableName ++ "%7D" := by
  have opening : Percent.encode Url.plainInPath ['\x7b'] = "%7B".toList := by decide +kernel
  have closing : Percent.encode Url.plainInPath ['\x7d'] = "%7D".toList := by decide +kernel
  have parts : expression variableName = ['\x7b'] ++ (variableName.toList ++ ['\x7d']) := rfl
  rw [Url.encoded, parts, Percent.encode_append, Percent.encode_append, opening, closing,
    Percent.encode_of_plain plain]
  simp [← String.toList_inj]

theorem isDots_unfilled (rest : String) : Url.Path.isDots ("%7B" ++ rest) = false := by
  refine Bool.eq_false_iff.2 (fun dots => ?_)
  have brace : (Percent.decode ("%7B" ++ rest).toList).head? = some 0x7B := by
    rw [String.toList_append]
    exact congrArg List.head? (Percent.decode_triple 0x7B rest.toList)
  rcases Bool.or_eq_true_iff.1 dots with single | double
  · rw [decode_singleDot single] at brace
    revert brace
    decide +kernel
  · rw [decode_doubleDot double] at brace
    revert brace
    decide +kernel

namespace Part

/-- The part can be a segment of a path: a text that is read as itself, or a variable with a name
that needs no encoding. -/
def IsSegment : Part → Prop
  | .literal text _ => Url.Path.segments .special text = [String.ofList text]
  | .place variableName _ =>
    ∀ char ∈ variableName.toList, Percent.Unreserved char ∨ char = '%'

instance : (part : Part) → Decidable part.IsSegment
  | .literal _ _ => inferInstanceAs (Decidable (_ = _))
  | .place variableName _ => List.decidableBAll _ variableName.toList

def segment (values : List (String × String)) : Part → String
  | .literal text _ => String.ofList text
  | .place variableName _ =>
    match values.lookup variableName with
    | some value => String.ofList (encodeValue value)
    | none => "%7B" ++ variableName ++ "%7D"

def IsDots (values : List (String × String)) : Part → Prop
  | .literal _ _ => False
  | .place variableName _ =>
    values.lookup variableName = some "." ∨ values.lookup variableName = some ".."

instance : (part : Part) → Decidable (part.IsDots values)
  | .literal _ _ => inferInstanceAs (Decidable False)
  | .place _ _ => inferInstanceAs (Decidable (_ ∨ _))

theorem whole_filled (fits : part.IsSegment) : Url.Whole (part.filled values) := by
  cases part with
  | literal text free =>
    obtain ⟨unsplit, plain, -⟩ := Url.Path.plain_of_segments (by decide) fits
    exact .of_plain unsplit plain
  | place variableName free =>
    rw [filled]
    split
    · exact whole_encodeValue _
    · intro char member
      simp only [expression, List.mem_cons, List.mem_append, List.not_mem_nil, or_false] at member
      rcases member with rfl | member | rfl
      · decide
      · exact Url.Whole.of_escaped fits char member
      · decide

theorem encoded_filled (fits : part.IsSegment) :
    Url.encoded Url.plainInPath (part.filled values) = part.segment values := by
  cases part with
  | literal text free =>
    obtain ⟨-, plain, -⟩ := Url.Path.plain_of_segments (by decide) fits
    exact congrArg String.ofList (Percent.encode_of_plain plain)
  | place variableName free =>
    rw [filled, segment]
    cases values.lookup variableName with
    | some value =>
      exact congrArg String.ofList (Percent.encode_of_plain (fun char member =>
        Url.plainInPath_of_escaped ((escaped_encodeValue value).mem member)))
    | none =>
      exact encoded_expression (fun char member => Url.plainInPath_of_escaped (fits char member))

theorem isDots_segment (fits : part.IsSegment) :
    Url.Path.isDots (part.segment values) = true ↔ part.IsDots values := by
  cases part with
  | literal text free =>
    obtain ⟨-, -, undotted⟩ := Url.Path.plain_of_segments (by decide) fits
    simp [segment, IsDots, undotted]
  | place variableName free =>
    rw [segment, IsDots]
    cases values.lookup variableName with
    | some value => simpa using isDots_encodeValue
    | none => simp [String.append_assoc, isDots_unfilled]

theorem mem_filled (member : char ∈ part.filled values) :
    char ∈ part.written ∨ ∃ value, char ∈ encodeValue value := by
  cases part with
  | literal text free => exact .inl member
  | place variableName free =>
    rw [filled] at member
    split at member
    · exact .inr ⟨_, member⟩
    · exact .inl member

theorem filled_ne_nil (present : ∀ pair ∈ values, pair.2 ≠ "") (nonempty : part.written ≠ []) :
    part.filled values ≠ [] := by
  cases part with
  | literal text free => exact nonempty
  | place variableName free =>
    rw [filled]
    split
    · rename_i value found
      obtain ⟨before, after, rfl, -⟩ := List.lookup_eq_some_iff.1 found
      have filled : value ≠ "" := present (variableName, value) (by simp)
      exact fun empty => filled (encodeValue_injective (empty.trans (by decide)))
    · exact nonempty

end Part

section

variable {parts : List Part}

theorem whole_flatMap_filled (whole : Url.Whole (parts.flatMap Part.written)) :
    Url.Whole (parts.flatMap (Part.filled values)) := by
  intro char member
  obtain ⟨part, present, inside⟩ := List.mem_flatMap.1 member
  rcases part.mem_filled inside with inside | ⟨value, inside⟩
  · exact whole char (List.mem_flatMap.2 ⟨part, present, inside⟩)
  · exact whole_encodeValue value char inside

theorem flatMap_filled_ne_nil (present : ∀ pair ∈ values, pair.2 ≠ "")
    (nonempty : parts.flatMap Part.written ≠ []) : parts.flatMap (Part.filled values) ≠ [] := by
  intro empty
  refine nonempty (List.flatMap_eq_nil_iff.2 (fun part member => ?_))
  by_contra written
  exact part.filled_ne_nil present written (List.flatMap_eq_nil_iff.1 empty part member)

/-- The mark of a query or a fragment belongs to the template, not to a value. -/
theorem isTail_flatMap_filled (marked : Url.IsTail (parts.flatMap Part.written)) :
    Url.IsTail (parts.flatMap (Part.filled values)) := by
  induction parts with
  | nil => exact marked
  | cons part parts ih =>
    cases part with
    | literal text free =>
      cases text with
      | nil => exact ih marked
      | cons mark text => exact marked
    | place variableName free =>
      have opened : Url.endsPath '\x7b' = true := marked '\x7b' rfl
      exact absurd opened (by decide)

end

/-- A template of URLs of the web. Each segment of its path is one part, so a variable in the path
is a segment of its own; before and behind the path variables stand anywhere. -/
structure WebTemplate where
  scheme : List Char
  authority : List Part
  path : List Part
  tail : List Part
  web : Url.IsWeb scheme
  -- Texts of a template hold neither controls nor spaces; the parts have to keep to themselves.
  named : authority.flatMap Part.written ≠ []
  whole : Url.Whole (authority.flatMap Part.written)
  each : ∀ part ∈ path, part.IsSegment
  marked : Url.IsTail (tail.flatMap Part.written)

namespace WebTemplate

variable {template : WebTemplate}

theorem braceFree_front (template : WebTemplate) :
    BraceFree (template.scheme ++ "://".toList) := by
  have absent (char : Char) (symbol : char.isAlpha = false) (other : char ∉ "://".toList) :
      char ∉ template.scheme ++ "://".toList := by
    intro member
    rcases List.mem_append.1 member with member | member
    · rw [template.web.letters char member] at symbol
      cases symbol
    · exact other member
  exact ⟨absent _ (by decide) (by decide), absent _ (by decide) (by decide)⟩

def parts (template : WebTemplate) : List Part :=
  .literal (template.scheme ++ "://".toList) template.braceFree_front :: (template.authority ++
    (template.path.flatMap (fun part => [.literal ['/'] (by decide), part]) ++ template.tail))

def text (template : WebTemplate) : String := ofParts template.parts

def root (template : WebTemplate) : WebTemplate :=
  { template with path := [], tail := [], each := nofun, marked := nofun }

def filled (template : WebTemplate) (values : List (String × String)) : String :=
  String.ofList (template.parts.flatMap (Part.filled values))

def segments (template : WebTemplate) (values : List (String × String)) : List String :=
  if template.path = [] then [""] else template.path.map (Part.segment values)

theorem flatMap_filled_parts (template : WebTemplate) (values : List (String × String)) :
    template.parts.flatMap (Part.filled values) =
      Url.written template.scheme (template.authority.flatMap (Part.filled values))
        (template.path.map (Part.filled values)) (template.tail.flatMap (Part.filled values)) := by
  have path : (template.path.flatMap (fun part => [.literal ['/'] (by decide), part])).flatMap
      (Part.filled values) = Url.Path.joined (template.path.map (Part.filled values)) := by
    simp [List.flatMap_assoc, Url.Path.joined, List.flatMap_map, Part.filled]
  rw [parts, List.flatMap_cons, List.flatMap_append, List.flatMap_append, path]
  simp [Part.filled, Url.written]

theorem pathOf_eq_segments_iff :
    Url.pathOf (template.path.map (Part.filled values)) = template.segments values ↔
      ∀ part ∈ template.path, ¬part.IsDots values := by
  by_cases empty : template.path = []
  · have root : Url.Path.resolve .special [] [[]] = [""] := by decide
    simp [Url.pathOf, segments, empty, root]
  have texts : (template.path.map (Part.filled values)).map (Url.encoded Url.plainInPath) =
      template.path.map (Part.segment values) := by
    rw [List.map_map]
    exact List.map_congr_left (fun part member => part.encoded_filled (template.each part member))
  rw [Url.pathOf, segments, if_neg empty, if_neg (mt List.map_eq_nil_iff.1 empty), ← texts,
    Url.Path.resolve_eq_map_iff (by decide), List.forall_mem_map]
  refine forall₂_congr (fun part member => ?_)
  have fits := template.each part member
  rw [part.encoded_filled fits, Bool.eq_false_iff, Ne, part.isDots_segment fits]

theorem exists_parse_filled (template : WebTemplate) (present : ∀ pair ∈ values, pair.2 ≠ "") :
    ∃ rest, Url.parse (template.filled values) =
      (Url.parseAuthority (Url.lowered template.scheme) .special
        (template.authority.flatMap (Part.filled values)) false).map (fun (read, _) =>
          Url.withTail (Url.lowered template.scheme) .special (some read)
            (.list (Url.pathOf (template.path.map (Part.filled values)))) rest) := by
  rw [filled, flatMap_filled_parts]
  exact Url.exists_parse_written template.web (flatMap_filled_ne_nil present template.named)
    (whole_flatMap_filled template.whole)
    (List.forall_mem_map.2 (fun part member => part.whole_filled (template.each part member)))
    (isTail_flatMap_filled template.marked)

theorem path_of_parse {url : Url} (present : ∀ pair ∈ values, pair.2 ≠ "")
    (read : Url.parse (template.filled values) = .ok url) :
    url.path = .list (Url.pathOf (template.path.map (Part.filled values))) := by
  obtain ⟨rest, parsed⟩ := template.exists_parse_filled present
  rw [parsed] at read
  cases authority : Url.parseAuthority (Url.lowered template.scheme) .special
    (template.authority.flatMap (Part.filled values)) false with
  | error error =>
    rw [authority] at read
    cases read
  | ok found =>
    rw [authority] at read
    cases read
    rfl

theorem map_site_filled (template : WebTemplate) (present : ∀ pair ∈ values, pair.2 ≠ "") :
    (Url.parse (template.filled values)).map (fun url => (url.scheme, url.authority)) =
      (Url.parseAuthority (Url.lowered template.scheme) .special
        (template.authority.flatMap (Part.filled values)) false).map (fun (read, _) =>
          (Url.lowered template.scheme, some read)) := by
  obtain ⟨rest, parsed⟩ := template.exists_parse_filled present
  rw [parsed]
  cases Url.parseAuthority (Url.lowered template.scheme) .special
    (template.authority.flatMap (Part.filled values)) false with
  | error error => rfl
  | ok found => rfl

/-- A text leads to the server of a template filled with values. It leads to the path of the
template as well, each value in its place, exactly if no variable in the path has the value of a dot
segment. -/
structure Leads (template : WebTemplate) (values : List (String × String)) (text : String) :
    Prop where
  site : (Url.parse text).map (fun url => (url.scheme, url.authority)) =
    (Url.parse (template.root.filled values)).map (fun url => (url.scheme, url.authority))
  path : ∀ url, Url.parse text = .ok url →
    (url.path = .list (template.segments values) ↔ ∀ part ∈ template.path, ¬part.IsDots values)
  request : ∀ (agent : HttpAgent) method username headers body request,
    agent.request method text username headers body = .ok request →
    (request.url.path = .list (template.segments values) ↔
      ∀ part ∈ template.path, ¬part.IsDots values)

theorem leads (template : WebTemplate) (present : ∀ pair ∈ values, pair.2 ≠ "") :
    template.Leads values (template.filled values) := by
  have path (url : Url) (read : Url.parse (template.filled values) = .ok url) :
      url.path = .list (template.segments values) ↔
        ∀ part ∈ template.path, ¬part.IsDots values := by
    rw [path_of_parse present read, ← pathOf_eq_segments_iff]
    exact ⟨Url.Path.list.inj, congrArg Url.Path.list⟩
  exact {
    site := (template.map_site_filled present).trans (template.root.map_site_filled present).symm
    path := path
    request := fun _ _ _ _ _ _ made => path _ (HttpAgent.parse_of_request made) }

end WebTemplate

/-- The URL of a blob is read as the path of its template, every value in its place, exactly if no
value in the path is a dot segment. -/
theorem blob_urls_keep_path (template : WebTemplate) :
    (∀ accountId blobId name mediaType,
      accountId ≠ "" → blobId ≠ "" → name ≠ "" → mediaType ≠ "" →
      template.Leads (downloadValues accountId blobId name mediaType)
        (expandDownload template.text accountId blobId name mediaType)) ∧
    ∀ accountId, accountId ≠ "" →
      template.Leads (uploadValues accountId) (expandUpload template.text accountId) := by
  refine ⟨fun accountId blobId name mediaType account blob named typed => ?_,
    fun accountId account => ?_⟩
  · rw [WebTemplate.text, expandDownload_ofParts]
    refine template.leads ?_
    simp [downloadValues, account, blob, named, typed]
  · rw [WebTemplate.text, expandUpload_ofParts]
    refine template.leads ?_
    simp [uploadValues, account]

def downloadTemplate : WebTemplate where
  scheme := "https".toList
  authority := [.literal "[::1]:8080".toList (by decide)]
  path := [.literal "download".toList (by decide), .place "accountId" (by decide),
    .place "blobId" (by decide), .place "name" (by decide)]
  tail := [.literal "?accept=".toList (by decide), .place "type" (by decide)]
  web := by decide
  named := by decide
  whole := by decide
  each := by decide
  marked := by decide

/-- Slashes and encoded dots in a value are no way out of the path, nor are two dots behind it. -/
theorem blob_urls_keep_path_beside_dots :
    downloadTemplate.text = "https://[::1]:8080/download/" ++
      "\x7baccountId\x7d/\x7bblobId\x7d/\x7bname\x7d?accept=\x7btype\x7d" ∧
    "a/../b" ≠ "" ∧ "%2e%2E" ≠ "" ∧ "..." ≠ "" ∧ ".." ≠ "" ∧
    ∃ url,
      Url.parse (expandDownload downloadTemplate.text "a/../b" "%2e%2E" "..." "..") = .ok url ∧
      url.path = .list ["download", "a%2F..%2Fb", "%252e%252E", "..."] := by
  have leads := (blob_urls_keep_path downloadTemplate).1 "a/../b" "%2e%2E" "..." ".."
    (by decide) (by decide) (by decide) (by decide)
  have undotted : ∀ part ∈ downloadTemplate.path,
      ¬part.IsDots (downloadValues "a/../b" "%2e%2E" "..." "..") := by decide
  have segments : downloadTemplate.segments (downloadValues "a/../b" "%2e%2E" "..." "..") =
      ["download", "a%2F..%2Fb", "%252e%252E", "..."] := by decide +kernel
  refine ⟨by decide, by decide, by decide, by decide, by decide, ?_⟩
  cases parsed : Url.parse (expandDownload downloadTemplate.text "a/../b" "%2e%2E" "..." "..") with
  | error error =>
    have isRead : (Url.parse
        (expandDownload downloadTemplate.text "a/../b" "%2e%2E" "..." "..")).isOk = true := by
      decide +kernel
    rw [parsed] at isRead
    cases isRead
  | ok url => exact ⟨url, rfl, segments ▸ (leads.path url parsed).2 undotted⟩

/-- A blob whose id is two dots is asked for without an account. -/
theorem dots_leave_path :
    ∃ url,
      Url.parse (expandDownload downloadTemplate.text "cs" ".." "a.txt" "text/plain") = .ok url ∧
      url.path = .list ["download", "a.txt"] ∧
      downloadTemplate.segments (downloadValues "cs" ".." "a.txt" "text/plain") =
        ["download", "cs", "..", "a.txt"] := by
  refine ⟨{
    scheme := "https"
    authority := some { username := "", password := "", host := .ipv6 [0, 0, 0, 0, 0, 0, 0, 1],
                        port := some 8080 }
    path := .list ["download", "a.txt"]
    query := some "accept=text%2Fplain"
    fragment := none }, ?_, rfl, ?_⟩
  · decide +kernel
  · decide +kernel

end UriTemplate

end Jmap
