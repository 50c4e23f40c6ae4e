import Jmap.Proofs.Text.Percent
import Jmap.Url.Path

/-!
A path is read as the segments that stand in it exactly if none of them is a dot segment: no dot
segment is left in a path that has been read, and nothing else is taken out or changed.
-/

namespace Jmap.Url.Path

variable {kind : Kind} {segment rest : List Char} {text : String} {path : List String}
  {segments : List (List Char)}

def joined (segments : List (List Char)) : List Char := segments.flatMap ('/' :: ·)

theorem mem_joined {char : Char} (member : char ∈ joined segments) :
    char = '/' ∨ ∃ segment ∈ segments, char ∈ segment := by
  obtain ⟨segment, present, inside⟩ := List.mem_flatMap.1 member
  exact (List.mem_cons.1 inside).imp_right (fun inside => ⟨segment, present, inside⟩)

def Unsplit (kind : Kind) (segment : List Char) : Prop :=
  ∀ char ∈ segment, isSlash kind char = false

theorem splitSegments_append (unsplit : Unsplit kind segment) :
    splitSegments kind (segment ++ '/' :: rest) = segment :: splitSegments kind rest := by
  induction segment with
  | nil => rfl
  | cons char segment ih =>
    obtain ⟨first, others⟩ := List.forall_mem_cons.1 unsplit
    rw [List.cons_append, splitSegments, first, ih others]
    rfl

theorem splitSegments_of_unsplit (unsplit : Unsplit kind segment) :
    splitSegments kind segment = [segment] := by
  induction segment with
  | nil => rfl
  | cons char segment ih =>
    obtain ⟨first, others⟩ := List.forall_mem_cons.1 unsplit
    rw [splitSegments, first, ih others]
    rfl

theorem unsplit_of_mem_splitSegments {text : List Char} :
    ∀ segment ∈ splitSegments kind text, Unsplit kind segment := by
  induction text with
  | nil => simp [splitSegments, Unsplit]
  | cons char text ih =>
    rw [splitSegments]
    split
    · exact List.forall_mem_cons.2 ⟨nofun, ih⟩
    · rename_i whole
      have first := Bool.eq_false_iff.2 whole
      split
      · exact List.forall_mem_singleton.2 (List.forall_mem_singleton.2 first)
      · rename_i segment segments split
        rw [split] at ih
        obtain ⟨front, others⟩ := List.forall_mem_cons.1 ih
        exact List.forall_mem_cons.2 ⟨List.forall_mem_cons.2 ⟨first, front⟩, others⟩

theorem splitSegments_joined (unsplit : ∀ segment ∈ segments, Unsplit kind segment) :
    splitSegments kind (dropSlash kind (joined segments)) =
      if segments = [] then [[]] else segments := by
  cases segments with
  | nil => rfl
  | cons segment segments =>
    rw [if_neg (List.cons_ne_nil _ _)]
    change splitSegments kind (segment ++ joined segments) = _
    induction segments generalizing segment with
    | nil =>
      rw [joined, List.flatMap_nil, List.append_nil]
      exact splitSegments_of_unsplit (unsplit segment (by simp))
    | cons next segments ih =>
      obtain ⟨first, others⟩ := List.forall_mem_cons.1 unsplit
      change splitSegments kind (segment ++ '/' :: (next ++ joined segments)) = _
      rw [splitSegments_append first, ih next others]

def isDots (segment : String) : Bool := isSingleDot segment || isDoubleDot segment

theorem isDots_empty : isDots "" = false := by decide

theorem mem_shorten : text ∈ shorten path → text ∈ path := by
  rw [shorten]
  split
  · exact id
  · exact fun member => List.dropLast_subset _ member

theorem resolve_cons (web : kind ≠ .file)
    (undotted : isDots (encoded plainInPath segment) = false) :
    resolve kind path (segment :: segments) =
      resolve kind (path ++ [encoded plainInPath segment]) segments := by
  obtain ⟨single, double⟩ := Bool.or_eq_false_iff.1 undotted
  rw [resolve]
  simp only [single, double, web, false_and, if_false, Bool.false_eq_true]
  split
  · rfl
  · rfl

/-- A dot segment leaves segments of the path, and an empty one if it is the last. -/
theorem resolve_dots (kind : Kind) (path : List String) (segments : List (List Char))
    (dotted : isDots (encoded plainInPath segment) = true) :
    ∃ left, (∀ text ∈ left, text ∈ path ∨ text = "") ∧
      resolve kind path (segment :: segments) = resolve kind left segments := by
  have ended (left : List String) (kept : ∀ text ∈ left, text ∈ path) :
      ∀ text ∈ (if segments.isEmpty then left ++ [""] else left), text ∈ path ∨ text = "" := by
    intro text member
    split at member
    · rcases List.mem_append.1 member with member | member
      · exact .inl (kept text member)
      · exact .inr (List.mem_singleton.1 member)
    · exact .inl (kept text member)
  rw [resolve]
  cases double : isDoubleDot (encoded plainInPath segment) with
  | true => exact ⟨_, ended (shorten path) (fun _ => mem_shorten), rfl⟩
  | false =>
    have single : isSingleDot (encoded plainInPath segment) = true := by
      simpa [isDots, double] using dotted
    simp only [single, if_true]
    exact ⟨_, ended path (fun _ => id), rfl⟩

theorem exists_resolve_cons (web : kind ≠ .file) (path : List String) (segment : List Char)
    (segments : List (List Char)) :
    ∃ left,
      (∀ text ∈ left, text ∈ path ∨ text = "" ∨
        isDots text = false ∧ text = encoded plainInPath segment) ∧
      resolve kind path (segment :: segments) = resolve kind left segments := by
  cases dotted : isDots (encoded plainInPath segment) with
  | true =>
    obtain ⟨left, kept, same⟩ := resolve_dots kind path segments dotted
    exact ⟨left, fun text member => (kept text member).imp_right .inl, same⟩
  | false =>
    refine ⟨_, fun text member => ?_, resolve_cons web dotted⟩
    rcases List.mem_append.1 member with member | member
    · exact .inl member
    · have written := List.mem_singleton.1 member
      exact .inr (.inr ⟨written ▸ dotted, written⟩)

theorem mem_resolve (web : kind ≠ .file) (member : text ∈ resolve kind path segments) :
    text ∈ path ∨ text = "" ∨
      isDots text = false ∧ ∃ segment ∈ segments, text = encoded plainInPath segment := by
  -- Along the text the path only gains what one segment makes.
  induction segments generalizing path with
  | nil => exact .inl member
  | cons segment segments ih =>
    obtain ⟨left, made, same⟩ := exists_resolve_cons web path segment segments
    rw [same] at member
    rcases ih member with member | empty | ⟨undotted, other, present, written⟩
    · rcases made text member with member | empty | ⟨undotted, written⟩
      · exact .inl member
      · exact .inr (.inl empty)
      · exact .inr (.inr ⟨undotted, segment, List.mem_cons_self, written⟩)
    · exact .inr (.inl empty)
    · exact .inr (.inr ⟨undotted, other, List.mem_cons_of_mem _ present, written⟩)

theorem resolve_of_undotted (web : kind ≠ .file)
    (undotted : ∀ segment ∈ segments, isDots (encoded plainInPath segment) = false) :
    resolve kind path segments = path ++ segments.map (encoded plainInPath) := by
  induction segments generalizing path with
  | nil => exact (List.append_nil path).symm
  | cons segment segments ih =>
    obtain ⟨first, others⟩ := List.forall_mem_cons.1 undotted
    rw [resolve_cons web first, ih others, List.append_assoc, List.map_cons, List.singleton_append]

theorem resolve_eq_map_iff (web : kind ≠ .file) :
    resolve kind [] segments = segments.map (encoded plainInPath) ↔
      ∀ segment ∈ segments, isDots (encoded plainInPath segment) = false := by
  refine ⟨fun same segment present => ?_, fun undotted => resolve_of_undotted web undotted⟩
  have member : encoded plainInPath segment ∈ resolve kind [] segments :=
    same ▸ List.mem_map_of_mem present
  rcases mem_resolve web member with absent | empty | ⟨undotted, -⟩
  · cases absent
  · rw [empty, isDots_empty]
  · exact undotted

theorem not_reserved_of_isSlash {char : Char} (slash : isSlash kind char = true) :
    ¬Percent.Unreserved char ∧ char ≠ '%' := by
  simp only [isSlash, Bool.or_eq_true, Bool.and_eq_true, beq_iff_eq] at slash
  rcases slash with rfl | ⟨rfl, -⟩
  all_goals decide

theorem plain_of_segments (web : kind ≠ .file)
    (kept : Path.segments kind segment = [String.ofList segment]) :
    Unsplit kind segment ∧ (∀ char ∈ segment, plainInPath char = true) ∧
      isDots (String.ofList segment) = false := by
  have member : String.ofList segment ∈ resolve kind [] (splitSegments kind segment) := by
    rw [← Path.segments, kept]
    exact List.mem_singleton_self _
  rcases mem_resolve web member with absent | empty | ⟨undotted, part, present, written⟩
  · cases absent
  · obtain rfl : segment = [] := String.ofList_injective empty
    exact ⟨nofun, nofun, isDots_empty⟩
  · have whole := String.ofList_injective written
    have unsplit : Unsplit kind segment := by
      intro char inside
      refine Bool.eq_false_iff.2 (fun slash => ?_)
      obtain ⟨reserved, unmarked⟩ := not_reserved_of_isSlash slash
      have absent : char ∉ part := fun member => by
        have split := unsplit_of_mem_splitSegments part present char member
        rw [slash] at split
        cases split
      exact Percent.not_mem_encode reserved unmarked absent (whole ▸ inside)
    rw [splitSegments_of_unsplit unsplit, List.mem_singleton] at present
    subst present
    exact ⟨unsplit, Percent.plain_of_encode_eq whole.symm, undotted⟩

end Jmap.Url.Path
