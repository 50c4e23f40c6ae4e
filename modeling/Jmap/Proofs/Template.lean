import Jmap.Proofs.Text.Percent
import Jmap.UriTemplate

/-!
Filling in a template is substitution in one pass: a value holds no braces once it is encoded,
so what has been filled in is never taken for a variable.
-/

namespace Jmap.UriTemplate

def BraceFree (text : List Char) : Prop := '\x7b' ∉ text ∧ '\x7d' ∉ text

instance (text : List Char) : Decidable (BraceFree text) :=
  inferInstanceAs (Decidable (_ ∧ _))

/-- A part of a template: text that stands for itself, or a place to fill in. -/
inductive Part where
  | literal (text : List Char) (free : BraceFree text)
  | place (variableName : String) (free : BraceFree variableName.toList)

namespace Part

def written : Part → List Char
  | .literal text _ => text
  | .place variableName _ => expression variableName

/-- A part with the values of variables filled in. A variable without a value stays. -/
def filled (values : List (String × String)) : Part → List Char
  | .literal text _ => text
  | .place variableName _ =>
    match values.lookup variableName with
    | some value => encodeValue value
    | none => expression variableName

end Part

def ofParts (parts : List Part) : String := String.ofList (parts.flatMap Part.written)

theorem escaped_encodeValue (value : String) : Percent.Escaped (encodeValue value) :=
  Percent.escaped_encode value.toList

theorem braceFree_encodeValue (value : String) : BraceFree (encodeValue value) :=
  ⟨(escaped_encodeValue value).not_mem (by decide) (by decide),
    (escaped_encodeValue value).not_mem (by decide) (by decide)⟩

variable {pattern replacement text rest : List Char} {variableName other value : String}
  {values : List (String × String)}

theorem replaceAll_fuel {fuel more : Nat} (nonempty : pattern ≠ []) (enough : text.length < fuel)
    (too : text.length < more) :
    replaceAll pattern replacement fuel text = replaceAll pattern replacement more text := by
  induction fuel generalizing text more with
  | zero => exact absurd enough (Nat.not_lt_zero _)
  | succ fuel ih =>
    cases more with
    | zero => exact absurd too (Nat.not_lt_zero _)
    | succ more =>
      cases text with
      | nil => rfl
      | cons char text =>
        have positive := List.length_pos_iff.2 nonempty
        simp only [List.length_cons] at enough too
        simp only [replaceAll]
        split
        · congr 1
          apply ih
          · simp only [List.length_drop, List.length_cons]; omega
          · simp only [List.length_drop, List.length_cons]; omega
        · congr 1
          exact ih (by omega) (by omega)

theorem fill_cons {char : Char}
    (apart : (expression variableName).isPrefixOf (char :: rest) = false) :
    fill variableName value (char :: rest) = char :: fill variableName value rest := by
  simp [fill, replaceAll, apart]

theorem fill_expression :
    fill variableName value (expression variableName ++ rest) =
      encodeValue value ++ fill variableName value rest := by
  have front : (expression variableName).isPrefixOf (expression variableName ++ rest) = true := by
    simp
  have length : 0 < (expression variableName).length := Nat.succ_pos _
  have opened : expression variableName ++ rest =
      '\x7b' :: (variableName.toList ++ ['\x7d'] ++ rest) := rfl
  unfold fill
  rw [opened] at front ⊢
  rw [replaceAll, if_pos front]
  congr 1
  rw [← opened, List.drop_left]
  apply replaceAll_fuel
  · nofun
  · rw [List.length_append]; omega
  · omega

theorem fill_append {front : List Char} (unopened : '\x7b' ∉ front) :
    fill variableName value (front ++ rest) = front ++ fill variableName value rest := by
  induction front with
  | nil => rfl
  | cons char front ih =>
    obtain ⟨other, unopened⟩ := not_or.1 (mt List.mem_cons.2 unopened)
    have apart : (expression variableName).isPrefixOf (char :: (front ++ rest)) = false := by
      simp [expression, List.isPrefixOf, other]
    rw [List.cons_append, fill_cons apart, ih unopened, List.cons_append]

theorem eq_of_closed {front back tail rear : List Char} (frontFree : '\x7d' ∉ front)
    (backFree : '\x7d' ∉ back) (same : front ++ '\x7d' :: tail = back ++ '\x7d' :: rear) :
    front = back := by
  have unclosed {name : List Char} (free : '\x7d' ∉ name) :
      ∀ char ∈ name, (char != '\x7d') = true :=
    fun char member => bne_iff_ne.2 (fun same => free (same ▸ member))
  have names := congrArg (List.takeWhile (· != '\x7d')) same
  rw [List.takeWhile_append_of_pos (unclosed frontFree),
    List.takeWhile_append_of_pos (unclosed backFree)] at names
  simpa using names

theorem fill_other (free : BraceFree variableName.toList) (otherFree : BraceFree other.toList)
    (different : other ≠ variableName) :
    fill variableName value (expression other ++ rest) =
      expression other ++ fill variableName value rest := by
  have apart : (expression variableName).isPrefixOf (expression other ++ rest) = false := by
    refine Bool.eq_false_iff.2 (fun front => different (String.toList_inj.1 ?_))
    obtain ⟨behind, same⟩ := List.isPrefixOf_iff_prefix.1 front
    simp only [expression, List.cons_append, List.cons.injEq, true_and, List.append_assoc,
      List.nil_append] at same
    exact (eq_of_closed free.2 otherFree.2 same).symm
  have unopened : '\x7b' ∉ other.toList ++ ['\x7d'] := by simpa using otherFree.1
  calc fill variableName value ('\x7b' :: ((other.toList ++ ['\x7d']) ++ rest))
      = '\x7b' :: fill variableName value ((other.toList ++ ['\x7d']) ++ rest) := fill_cons apart
    _ = _ := congrArg ('\x7b' :: ·) (fill_append unopened)

namespace Part

def settle (variableName value : String) : Part → Part
  | .literal text free => .literal text free
  | .place other free =>
    if other = variableName then .literal (encodeValue value) (braceFree_encodeValue value)
    else .place other free

theorem filled_nil (part : Part) : part.filled [] = part.written := by
  cases part <;> rfl

theorem filled_cons (part : Part) :
    part.filled ((variableName, value) :: values) =
      (part.settle variableName value).filled values := by
  cases part with
  | literal text free => rfl
  | place other free =>
    by_cases same : other = variableName
    · simp [filled, settle, same]
    · simp [filled, settle, List.lookup_cons, same, beq_false_of_ne same]

end Part

theorem fill_parts (free : BraceFree variableName.toList) (parts : List Part) :
    fill variableName value (parts.flatMap Part.written) =
      (parts.map (Part.settle variableName value)).flatMap Part.written := by
  induction parts with
  | nil => rfl
  | cons part parts ih =>
    rw [List.flatMap_cons, List.map_cons, List.flatMap_cons, ← ih]
    cases part with
    | literal text textFree => exact fill_append textFree.1
    | place other otherFree =>
      by_cases same : other = variableName
      · subst same
        simp only [Part.written, Part.settle, if_true]
        exact fill_expression
      · simp only [Part.written, Part.settle, if_neg same]
        exact fill_other free otherFree same

theorem foldl_fill (free : ∀ pair ∈ values, BraceFree pair.1.toList) (parts : List Part) :
    values.foldl (fun text (variableName, value) => fill variableName value text)
      (parts.flatMap Part.written) = parts.flatMap (Part.filled values) := by
  induction values generalizing parts with
  | nil =>
    rw [List.foldl_nil, funext Part.filled_nil]
  | cons pair values ih =>
    obtain ⟨variableName, value⟩ := pair
    obtain ⟨first, others⟩ := List.forall_mem_cons.1 free
    -- A part that has been filled in is a literal, so what follows leaves it alone.
    rw [List.foldl_cons, funext Part.filled_cons]
    dsimp only
    rw [fill_parts first, ih others, List.flatMap_map]

/-- Filling in variables one after the other is filling them in at once. -/
theorem expand_ofParts (free : ∀ pair ∈ values, BraceFree pair.1.toList) (parts : List Part) :
    expand (ofParts parts) values = String.ofList (parts.flatMap (Part.filled values)) := by
  rw [expand, ofParts, String.toList_ofList, foldl_fill free]

theorem lookup_eq_some_iff {pairs : List (String × String)} (distinct : (pairs.map (·.1)).Nodup) :
    pairs.lookup variableName = some value ↔ (variableName, value) ∈ pairs := by
  induction pairs with
  | nil => simp
  | cons pair pairs ih =>
    obtain ⟨other, first⟩ := pair
    obtain ⟨new, distinct⟩ := List.nodup_cons.1 distinct
    by_cases same : variableName = other
    · subst same
      have absent : (variableName, value) ∉ pairs := fun member =>
        new (List.mem_map.2 ⟨_, member, rfl⟩)
      simp [absent, eq_comm]
    · rw [List.lookup_cons, beq_false_of_ne same, ih distinct]
      simp [same]

theorem lookup_perm {order : List (String × String)} (perm : order.Perm values)
    (distinct : (values.map (·.1)).Nodup) (variableName : String) :
    order.lookup variableName = values.lookup variableName := by
  have orderDistinct : (order.map (·.1)).Nodup := (perm.map _).nodup_iff.2 distinct
  refine Option.ext (fun value => ?_)
  rw [lookup_eq_some_iff orderDistinct, lookup_eq_some_iff distinct, perm.mem_iff]

theorem filled_perm {order : List (String × String)} (perm : order.Perm values)
    (distinct : (values.map (·.1)).Nodup) : Part.filled order = Part.filled values := by
  funext part
  cases part with
  | literal text free => rfl
  | place variableName free => rw [Part.filled, Part.filled, lookup_perm perm distinct]

def downloadValues (accountId blobId name mediaType : String) : List (String × String) :=
  [("accountId", accountId), ("blobId", blobId), ("name", name), ("type", mediaType)]

def uploadValues (accountId : String) : List (String × String) := [("accountId", accountId)]

theorem braceFree_downloadValues {accountId blobId name mediaType : String} :
    ∀ pair ∈ downloadValues accountId blobId name mediaType, BraceFree pair.1.toList := by
  simp [downloadValues, BraceFree]

theorem expandDownload_ofParts (parts : List Part) (accountId blobId name mediaType : String) :
    expandDownload (ofParts parts) accountId blobId name mediaType =
      String.ofList
        (parts.flatMap (Part.filled (downloadValues accountId blobId name mediaType))) :=
  expand_ofParts braceFree_downloadValues parts

theorem expandUpload_ofParts (parts : List Part) (accountId : String) :
    expandUpload (ofParts parts) accountId =
      String.ofList (parts.flatMap (Part.filled (uploadValues accountId))) :=
  expand_ofParts (by simp [BraceFree]) parts

/-- The variables of a URL are filled in as if at once, whatever stands in their values, and the
order does not matter. -/
theorem expand_at_once (parts : List Part) (accountId blobId name mediaType : String) :
    expandDownload (ofParts parts) accountId blobId name mediaType =
      String.ofList
        (parts.flatMap (Part.filled (downloadValues accountId blobId name mediaType))) ∧
    (∀ order, order.Perm (downloadValues accountId blobId name mediaType) →
      expand (ofParts parts) order =
        expandDownload (ofParts parts) accountId blobId name mediaType) ∧
    expandUpload (ofParts parts) accountId =
      String.ofList (parts.flatMap (Part.filled (uploadValues accountId))) := by
  refine ⟨expandDownload_ofParts parts accountId blobId name mediaType, fun order perm => ?_,
    expandUpload_ofParts parts accountId⟩
  have free : ∀ pair ∈ order, BraceFree pair.1.toList :=
    fun pair member => braceFree_downloadValues pair (perm.mem_iff.1 member)
  have distinct : ((downloadValues accountId blobId name mediaType).map (·.1)).Nodup :=
    show ["accountId", "blobId", "name", "type"].Nodup by decide
  rw [expand_ofParts free, expandDownload_ofParts, filled_perm perm distinct]

/-- The value of each of two variables is the other variable. -/
theorem expand_at_once_of_variables :
    ∃ parts order,
      ofParts parts = "/\x7baccountId\x7d/\x7bx\x7d\x7bname\x7d" ∧
      order = [("type", ""), ("name", "\x7baccountId\x7d"), ("blobId", "b"),
        ("accountId", "\x7bname\x7d")] ∧
      order.Perm (downloadValues "\x7bname\x7d" "b" "\x7baccountId\x7d" "") ∧
      expand (ofParts parts) order = "/%7Bname%7D/\x7bx\x7d%7BaccountId%7D" := by
  let parts : List Part :=
    [.literal ['/'] (by decide), .place "accountId" (by decide), .literal ['/'] (by decide),
      .place "x" (by decide), .place "name" (by decide)]
  let order : List (String × String) :=
    [("type", ""), ("name", "\x7baccountId\x7d"), ("blobId", "b"), ("accountId", "\x7bname\x7d")]
  have perm : order.Perm (downloadValues "\x7bname\x7d" "b" "\x7baccountId\x7d" "") :=
    List.reverse_perm (downloadValues "\x7bname\x7d" "b" "\x7baccountId\x7d" "")
  obtain ⟨filled, anyOrder, -⟩ :=
    expand_at_once parts "\x7bname\x7d" "b" "\x7baccountId\x7d" ""
  refine ⟨parts, order, by decide, rfl, perm, ?_⟩
  rw [anyOrder order perm, filled]
  decide +kernel

end Jmap.UriTemplate
