import Jmap.Proofs.Url.Path
import Jmap.Url
import Mathlib.Data.List.TakeDrop
import Mathlib.Data.List.TakeWhile

/-!
URLs of the web, read from the texts of their parts: scheme, authority, path, and query with
fragment. Where each part keeps to itself, the authority alone decides whether there is a URL at
all, and the path alone what its path is.
-/

namespace Jmap.Url

variable {scheme authority front tail text : Chars} {segments : List Chars}

def lowered (scheme : Chars) : String := String.ofList (scheme.map Char.toLower)

def IsWeb (scheme : Chars) : Prop := lowered scheme ∈ ["http", "https"]

instance (scheme : Chars) : Decidable (IsWeb scheme) := inferInstanceAs (Decidable (_ ∈ _))

theorem isAlpha_of_toLower {char : Char} (letter : char.toLower.isAlpha = true) :
    char.isAlpha = true := by
  by_cases upper : char.isUpper = true
  · exact Bool.or_eq_true_iff.2 (.inl upper)
  · have same : char.toLower = char := dif_neg (fun range => upper (decide_eq_true range))
    exact same ▸ letter

theorem IsWeb.letters (web : IsWeb scheme) : ∀ char ∈ scheme, char.isAlpha = true := by
  intro char member
  have letters : ∀ text ∈ ["http", "https"], text.toList.all Char.isAlpha = true := by decide
  have lower : char.toLower ∈ (lowered scheme).toList := by
    rw [lowered, String.toList_ofList]
    exact List.mem_map_of_mem member
  exact isAlpha_of_toLower (List.all_eq_true.1 (letters _ web) _ lower)

theorem IsWeb.ne_nil (web : IsWeb scheme) : scheme ≠ [] := by
  rintro rfl
  revert web
  decide

theorem IsWeb.kindOf (web : IsWeb scheme) : kindOf (lowered scheme) = .special := by
  simp only [IsWeb, List.mem_cons, List.not_mem_nil, or_false] at web
  rcases web with same | same
  all_goals rw [same]; decide

theorem visible_of_isAlpha {char : Char} (letter : char.isAlpha = true) :
    isControlOrSpace char = false := by
  have unreserved : Percent.isUnreserved char = true := by
    simp [Percent.isUnreserved, Char.isAlphanum, letter]
  have bounds := (Percent.unreserved_of_isUnreserved unreserved).bounds
  simp only [isControlOrSpace, decide_eq_false_iff_not]
  omega

theorem isSchemeChar_of_isAlpha {char : Char} (letter : char.isAlpha = true) :
    isSchemeChar char = true := by
  simp [isSchemeChar, Char.isAlphanum, letter]

theorem IsWeb.splitScheme? (web : IsWeb scheme) :
    splitScheme? (scheme ++ ':' :: text) = some (lowered scheme, text) := by
  have all : ∀ char ∈ scheme, isSchemeChar char = true :=
    fun char member => isSchemeChar_of_isAlpha (web.letters char member)
  have colon : ¬isSchemeChar ':' = true := by decide
  obtain ⟨first, others, rfl⟩ := List.exists_cons_of_ne_nil web.ne_nil
  have taken : (first :: others ++ ':' :: text).takeWhile isSchemeChar = first :: others := by
    rw [List.takeWhile_append_of_pos all, List.takeWhile_cons_of_neg colon, List.append_nil]
  have left : (first :: others ++ ':' :: text).dropWhile isSchemeChar = ':' :: text := by
    rw [List.dropWhile_append_of_pos all, List.dropWhile_cons_of_neg colon]
  rw [Url.splitScheme?, taken, left]
  exact if_pos (web.letters first List.mem_cons_self)

/-- An authority or a segment of a path: nothing in the text ends it or is cleaned away. -/
def Whole (text : Chars) : Prop :=
  ∀ char ∈ text, isControlOrSpace char = false ∧ endsAuthority .special char = false

def IsTail (text : Chars) : Prop := ∀ char ∈ text.head?, endsPath char = true

instance (text : Chars) : Decidable (Whole text) := List.decidableBAll _ text

instance : (text : Chars) → Decidable (IsTail text)
  | [] => isTrue nofun
  | char :: _ => decidable_of_iff (endsPath char = true) (by simp [IsTail])

theorem endsAuthority_eq_false_iff {char : Char} :
    endsAuthority .special char = false ↔
      endsPath char = false ∧ Path.isSlash .special char = false := by
  rw [endsAuthority, ← endsPath, Bool.or_eq_false_iff]

theorem plainInPath_iff {char : Char} :
    plainInPath char = true ↔
      (0x20 ≤ char.toNat ∧ char.toNat < 0x7F) ∧ char ∉ " \"#<>?`\x7b\x7d".toList := by
  rw [plainInPath, plainBut, Bool.and_eq_true, Bool.not_eq_true', Bool.not_eq_true',
    isControlOrWide, Bool.or_eq_false_iff, decide_eq_false_iff_not, decide_eq_false_iff_not,
    Nat.not_lt, Nat.not_le, Bool.eq_false_iff, Ne, List.contains_iff_mem]

theorem plainInPath_of_escaped {char : Char} (kept : Percent.Unreserved char ∨ char = '%') :
    plainInPath char = true := by
  have apart : " \"#<>?`\x7b\x7d".toList.all
      (fun other => ¬(Percent.Unreserved other ∨ other = '%')) = true := by decide
  have bounds : 0x20 < char.toNat ∧ char.toNat < 0x7F := by
    rcases kept with unreserved | rfl
    · exact unreserved.bounds
    · decide
  have absent : char ∉ " \"#<>?`\x7b\x7d".toList := fun listed =>
    of_decide_eq_true (List.all_eq_true.1 apart char listed) kept
  exact plainInPath_iff.2 ⟨⟨bounds.1.le, bounds.2⟩, absent⟩

theorem Whole.of_plain (unsplit : Path.Unsplit .special text)
    (plain : ∀ char ∈ text, plainInPath char = true) : Whole text := by
  intro char member
  obtain ⟨⟨low, -⟩, absent⟩ := plainInPath_iff.1 (plain char member)
  have visible : isControlOrSpace char = false := by
    have space : char.toNat ≠ ' '.toNat := fun same =>
      absent (Char.toNat_inj.1 same ▸ by decide)
    have code : ' '.toNat = 0x20 := rfl
    simp only [isControlOrSpace, decide_eq_false_iff_not]
    omega
  have inside : endsPath char = false := by
    simp only [endsPath, Bool.or_eq_false_iff, beq_eq_false_iff_ne]
    exact ⟨fun same => absent (same ▸ by decide), fun same => absent (same ▸ by decide)⟩
  exact ⟨visible, endsAuthority_eq_false_iff.2 ⟨inside, unsplit char member⟩⟩

theorem Whole.of_escaped (kept : ∀ char ∈ text, Percent.Unreserved char ∨ char = '%') :
    Whole text := by
  refine .of_plain (fun char member => Bool.eq_false_iff.2 (fun slash => ?_))
    (fun char member => plainInPath_of_escaped (kept char member))
  obtain ⟨reserved, unmarked⟩ := Path.not_reserved_of_isSlash slash
  exact (kept char member).elim reserved unmarked

theorem splitAtFirst_append {stops : Char → Bool} (kept : ∀ char ∈ front, stops char = false)
    (stopped : ∀ char ∈ tail.head?, stops char = true) :
    splitAtFirst stops (front ++ tail) = (front, tail) := by
  have all : ∀ char ∈ front, (!stops char) = true :=
    fun char member => by rw [kept char member]; rfl
  rw [splitAtFirst, List.takeWhile_append_of_pos all, List.dropWhile_append_of_pos all]
  cases tail with
  | nil => simp
  | cons mark tail => simp [stopped mark rfl]

def trimEnd (text : Chars) : Chars := (text.reverse.dropWhile isControlOrSpace).reverse

theorem dropWhile_of_visible (visible : ∀ char ∈ front, isControlOrSpace char = false) :
    front.dropWhile isControlOrSpace = front := by
  cases front with
  | nil => rfl
  | cons char front =>
    rw [List.dropWhile_cons_of_neg (by simp [visible char List.mem_cons_self])]

theorem trimEnd_append (visible : ∀ char ∈ front, isControlOrSpace char = false) :
    trimEnd (front ++ tail) = front ++ trimEnd tail := by
  have whole : front.reverse.dropWhile isControlOrSpace = front.reverse :=
    dropWhile_of_visible (fun char member => visible char (List.mem_reverse.1 member))
  rw [trimEnd, List.reverse_append, List.dropWhile_append, whole, trimEnd]
  split
  · rename_i empty
    rw [List.isEmpty_iff.1 empty, List.reverse_reverse, List.reverse_nil, List.append_nil]
  · rw [List.reverse_append, List.reverse_reverse]

theorem filter_of_visible (visible : ∀ char ∈ front, isControlOrSpace char = false) :
    front.filter (!isTabOrNewline ·) = front := by
  refine List.filter_eq_self.2 (fun char member => ?_)
  have seen := visible char member
  simp only [isTabOrNewline, Bool.not_eq_true', Bool.or_eq_false_iff, beq_eq_false_iff_ne]
  refine ⟨⟨?_, ?_⟩, ?_⟩
  all_goals
    rintro rfl
    revert seen
    decide

theorem visible_of_endsPath {char : Char} (ends : endsPath char = true) :
    isControlOrSpace char = false := by
  simp only [endsPath, Bool.or_eq_true, beq_iff_eq] at ends
  rcases ends with rfl | rfl
  all_goals decide

theorem exists_clean_append (visible : ∀ char ∈ front, isControlOrSpace char = false)
    (nonempty : front ≠ []) (marked : IsTail tail) :
    ∃ rest, IsTail rest ∧ clean (front ++ tail) = front ++ rest := by
  have cleaned : clean (front ++ tail) = front ++ (trimEnd tail).filter (!isTabOrNewline ·) := by
    have started : (front ++ tail).dropWhile isControlOrSpace = front ++ tail := by
      rw [List.dropWhile_append, dropWhile_of_visible visible, if_neg (by simpa using nonempty)]
    have trimmed : trimEnd (front ++ tail) = front ++ trimEnd tail := trimEnd_append visible
    rw [trimEnd] at trimmed
    rw [clean, started, trimmed, List.filter_append, filter_of_visible visible]
  refine ⟨_, ?_, cleaned⟩
  cases tail with
  | nil => nofun
  | cons mark tail =>
    have ends := marked mark rfl
    have seen : ∀ char ∈ [mark], isControlOrSpace char = false :=
      List.forall_mem_singleton.2 (visible_of_endsPath ends)
    have opened : trimEnd (mark :: tail) = [mark] ++ trimEnd tail := trimEnd_append seen
    rw [opened, List.filter_append, filter_of_visible seen]
    rintro char ⟨⟩
    exact ends

theorem takeHost_append (inside : Bool) (text : Chars) :
    (takeHost inside text).1 ++ (takeHost inside text).2 = text := by
  induction text generalizing inside with
  | nil => rfl
  | cons char text ih =>
    rw [takeHost]
    split
    · rfl
    · exact congrArg (char :: ·) (ih _)

theorem mem_splitUser {char : Char} (member : char ∈ (splitUser text).2) : char ∈ text := by
  rw [splitUser] at member
  split at member
  · have taken := List.mem_reverse.1 member
    exact List.mem_reverse.1 ((List.takeWhile_subset _) taken)
  · exact member

/-- An authority without a backslash is read to its end. -/
theorem left_of_parseAuthority {name : String} {more : Bool} {read : Authority} {left : Chars}
    (unslashed : '\\' ∉ text)
    (parsed : parseAuthority name .special text more = .ok (read, left)) : left = [] := by
  have behind : '\\' ∉ ((takeHost false (splitUser text).2).2.drop 1) := by
    intro member
    have inside := List.mem_append_right (takeHost false (splitUser text).2).1
      (List.mem_of_mem_drop member)
    rw [takeHost_append] at inside
    exact unslashed (mem_splitUser inside)
  unfold parseAuthority at parsed
  simp only [bind, Except.bind] at parsed
  split at parsed
  · cases parsed
  split at parsed
  · cases parsed
  split at parsed
  · cases parsed
  split at parsed
  · cases parsed
  split at parsed
  · cases parsed
  split at parsed
  · cases parsed
  obtain ⟨-, rfl⟩ := Prod.mk.inj (Except.ok.inj parsed)
  rw [List.span_eq_takeWhile_dropWhile, List.dropWhile_eq_nil_iff]
  exact fun char member => bne_iff_ne.2 (fun same => behind (same ▸ member))

theorem parseAuthority_more (name : String) (text : Chars) (more : Bool) :
    parseAuthority name .special text more = parseAuthority name .special text false := by
  unfold parseAuthority
  simp only [bind, Except.bind]
  cases behind : (splitUser text).2 with
  | nil => simp [takeHost]
  | cons char rest => simp

def written (scheme authority : Chars) (segments : List Chars) (tail : Chars) : Chars :=
  scheme ++ (':' :: '/' :: '/' :: (authority ++ (Path.joined segments ++ tail)))

def pathOf (segments : List Chars) : List String :=
  Path.resolve .special [] (if segments = [] then [[]] else segments)

theorem parseHierarchical_parts {name : String} (whole : Whole authority)
    (each : ∀ segment ∈ segments, Whole segment) (marked : IsTail tail) :
    parseHierarchical name .special (authority ++ (Path.joined segments ++ tail)) =
      (parseAuthority name .special authority false).map (fun (read, _) =>
        withTail name .special (some read) (.list (pathOf segments)) tail) := by
  have stopped : ∀ char ∈ (Path.joined segments ++ tail).head?,
      endsAuthority .special char = true := by
    cases segments with
    | nil =>
      intro char first
      rw [endsAuthority, ← endsPath, marked char first, Bool.true_or]
    | cons segment segments =>
      rintro char ⟨⟩
      decide
  have unslashed : '\\' ∉ authority := fun member => by
    have ended := (whole _ member).2
    revert ended
    decide
  have kept : ∀ char ∈ Path.joined segments, endsPath char = false := by
    intro char member
    rcases Path.mem_joined member with rfl | ⟨segment, present, inside⟩
    · decide
    · exact (endsAuthority_eq_false_iff.1 (each segment present char inside).2).1
  have unsplit : ∀ segment ∈ segments, Path.Unsplit .special segment :=
    fun segment present char inside =>
      (endsAuthority_eq_false_iff.1 (each segment present char inside).2).2
  rw [parseHierarchical, splitAtFirst_append (fun char member => (whole char member).2) stopped]
  simp only [bind, Except.bind]
  rw [parseAuthority_more]
  cases parsed : parseAuthority name .special authority false with
  | error error => rfl
  | ok pair =>
    obtain ⟨read, left⟩ := pair
    obtain rfl := left_of_parseAuthority unslashed parsed
    simp only [List.nil_append, splitAtFirst_append kept marked, reduceCtorEq, and_false, if_false,
      Path.segments, Path.splitSegments_joined unsplit, Except.map, pathOf]

theorem exists_parse_written (web : IsWeb scheme) (named : authority ≠ [])
    (whole : Whole authority) (each : ∀ segment ∈ segments, Whole segment)
    (marked : IsTail tail) :
    ∃ rest, parse (String.ofList (written scheme authority segments tail)) =
      (parseAuthority (lowered scheme) .special authority false).map (fun (read, _) =>
        withTail (lowered scheme) .special (some read) (.list (pathOf segments)) rest) := by
  have visible : ∀ char ∈ written scheme authority segments [], isControlOrSpace char = false := by
    intro char member
    simp only [written, List.mem_append, List.mem_cons, List.not_mem_nil, or_false] at member
    rcases member with member | rfl | rfl | rfl | member | member
    · exact visible_of_isAlpha (web.letters char member)
    · decide
    · decide
    · decide
    · exact (whole char member).1
    · rcases Path.mem_joined member with rfl | ⟨segment, present, inside⟩
      · decide
      · exact (each segment present char inside).1
  have nonempty : written scheme authority segments [] ≠ [] := by
    simp [written]
  obtain ⟨rest, restMarked, cleaned⟩ := exists_clean_append visible nonempty marked
  have joined (tail : Chars) : written scheme authority segments [] ++ tail =
      written scheme authority segments tail := by
    simp [written]
  rw [joined, joined] at cleaned
  have slashes : ('/' :: '/' :: (authority ++ (Path.joined segments ++ rest))).dropWhile
      (Path.isSlash .special) = authority ++ (Path.joined segments ++ rest) := by
    obtain ⟨first, others, rfl⟩ := List.exists_cons_of_ne_nil named
    have ended := (whole first List.mem_cons_self).2
    obtain ⟨-, unslashed⟩ := Bool.or_eq_false_iff.1 ended
    rw [List.dropWhile_cons_of_pos (by decide), List.dropWhile_cons_of_pos (by decide),
      List.cons_append, List.dropWhile_cons_of_neg (by simp [unslashed])]
  refine ⟨rest, ?_⟩
  rw [parse, String.toList_ofList, cleaned, written, web.splitScheme?]
  simp only [web.kindOf, slashes]
  exact parseHierarchical_parts whole each restMarked

end Jmap.Url
