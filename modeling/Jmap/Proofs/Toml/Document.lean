import Jmap.Config
import Jmap.Proofs.Toml.Scalar

namespace Jmap.Toml

open Json

variable {char : Char} {text rest : Chars} {key : String}

def IsBareKey (key : String) : Prop := key.toList ≠ [] ∧ key.toList.all isBare = true

instance : DecidablePred IsBareKey := fun key =>
  inferInstanceAs (Decidable (key.toList ≠ [] ∧ key.toList.all isBare = true))

theorem IsBareKey.exists_cons (bare : IsBareKey key) :
    ∃ first others, key.toList = first :: others ∧
      ∀ char, isBare char = false → first ≠ char := by
  obtain ⟨first, others, same⟩ := List.exists_cons_of_ne_nil bare.1
  have own : isBare first = true := List.all_eq_true.1 bare.2 first (same ▸ List.mem_cons_self)
  refine ⟨first, others, same, ?_⟩
  rintro _ quoted rfl
  exact Bool.false_ne_true (quoted.symm.trans own)

theorem IsBareKey.skipSpaces_append (bare : IsBareKey key) (rest : Chars) :
    skipSpaces (key.toList ++ rest) = key.toList ++ rest := by
  obtain ⟨first, others, same, other⟩ := bare.exists_cons
  rw [same]
  exact skipSpaces_cons (by simp [isSpace, other ' ' rfl, other '\t' rfl])

theorem scanPath?_bare (bare : IsBareKey key) (mark : Char) (rest : Chars)
    (stops : isBare mark = false) (noDot : (skipSpaces (mark :: rest)).head? ≠ some '.') :
    scanPath? (key.toList ++ mark :: rest) = some ([key], skipSpaces (mark :: rest)) := by
  have all : ∀ char ∈ key.toList, isBare char = true := List.all_eq_true.1 bare.2
  have negative : ¬isBare mark = true := by simp [stops]
  have taken : (key.toList ++ mark :: rest).takeWhile isBare = key.toList := by
    rw [List.takeWhile_append_of_pos all, List.takeWhile_cons_of_neg negative, List.append_nil]
  have dropped : (key.toList ++ mark :: rest).dropWhile isBare = mark :: rest := by
    rw [List.dropWhile_append_of_pos all, List.dropWhile_cons_of_neg negative]
  have scanned : scanKey? (key.toList ++ mark :: rest) = some (key, mark :: rest) := by
    obtain ⟨first, others, same, other⟩ := bare.exists_cons
    rw [same] at taken dropped
    rw [same, List.cons_append, scanKey?]
    · rw [← List.cons_append, taken, dropped, ← same]
      simp [bare.1]
    all_goals simp [other '"' rfl, other '\'' rfl]
  change scanKeys? (79 + 1) _ = _
  rw [scanKeys?, scanned]
  simp only [Option.bind_eq_bind, Option.bind_some]
  split
  · rename_i others same
    exact absurd (congrArg List.head? same) noDot
  · rfl

theorem scanExpression?_line (bare : IsBareKey key) (scalar : Scalar) (fuel : Nat)
    (draft : Draft) (rest : Chars) :
    scanExpression? (fuel + 1) draft
        (key.toList ++ ' ' :: '=' :: ' ' :: (scalar.chars ++ '\n' :: rest)) =
      (draft.add? [key] scalar.toml).map (·, '\n' :: rest) := by
  have spaces : skipSpaces (' ' :: '=' :: ' ' :: (scalar.chars ++ '\n' :: rest)) =
      '=' :: ' ' :: (scalar.chars ++ '\n' :: rest) := rfl
  have path := scanPath?_bare bare ' ' ('=' :: ' ' :: (scalar.chars ++ '\n' :: rest)) rfl
    (by simp [spaces])
  rw [spaces] at path
  have inner : skipSpaces (' ' :: (scalar.chars ++ '\n' :: rest)) = scalar.chars ++ '\n' :: rest :=
    scalar.skipSpaces_append ('\n' :: rest)
  obtain ⟨first, others, same, other⟩ := bare.exists_cons
  rw [same] at path
  rw [same, List.cons_append, scanExpression?]
  · rw [← List.cons_append, path]
    simp only [takeMark?, if_true, Option.bind_eq_bind, Option.bind_some, inner,
      scanValue?_scalar]
    cases draft.add? [key] scalar.toml <;> rfl
  all_goals simp [other '[' rfl]

theorem scanExpression?_header (bare : IsBareKey key) (fuel : Nat) (draft : Draft)
    (rest : Chars) :
    scanExpression? fuel draft ('[' :: (key.toList ++ ']' :: rest)) =
      (draft.enter? openTable [key]).map (·, rest) := by
  have spaces : skipSpaces (']' :: rest) = ']' :: rest := rfl
  have path := scanPath?_bare bare ']' rest rfl (by simp [spaces])
  rw [spaces] at path
  have inner := bare.skipSpaces_append (']' :: rest)
  obtain ⟨first, others, same, other⟩ := bare.exists_cons
  rw [same] at path inner
  rw [same, List.cons_append, scanExpression?]
  · rw [← List.cons_append, inner, path]
    simp only [takeMark?, if_true, Option.bind_eq_bind, Option.bind_some]
    cases draft.enter? openTable [key] <;> rfl
  all_goals simp [other '[' rfl]

theorem scanLines?_expression {fuel : Nat} {draft : Draft} {next : Option Draft}
    (visible : isSpace char = false) (content : char ≠ '\n' ∧ char ≠ '\r' ∧ char ≠ '#')
    (scanned : scanExpression? (fuel + 1) draft (char :: text) = next.map (·, '\n' :: rest)) :
    scanLines? (fuel + 1) draft (char :: text) =
      next.bind (fun draft => scanLines? fuel draft rest) := by
  rw [scanLines?, skipSpaces_cons visible]
  split
  · simp_all
  · simp_all
  · simp_all
  · simp_all
  · rw [scanned]
    cases next <;> rfl

theorem scanLines?_line (bare : IsBareKey key) (scalar : Scalar) (fuel : Nat) (draft : Draft)
    (rest : Chars) :
    scanLines? (fuel + 1) draft (EngineConfig.line key scalar.chars ++ rest) =
      (draft.add? [key] scalar.toml).bind (fun draft => scanLines? fuel draft rest) := by
  have spread : EngineConfig.line key scalar.chars ++ rest =
      key.toList ++ ' ' :: '=' :: ' ' :: (scalar.chars ++ '\n' :: rest) := by
    simp [EngineConfig.line]
  have expression := scanExpression?_line bare scalar fuel draft rest
  obtain ⟨first, others, same, other⟩ := bare.exists_cons
  rw [same, List.cons_append] at expression
  rw [spread, same, List.cons_append]
  exact scanLines?_expression (by simp [isSpace, other ' ' rfl, other '\t' rfl])
    ⟨other '\n' rfl, other '\r' rfl, other '#' rfl⟩ expression

theorem scanLines?_header (bare : IsBareKey key) (fuel : Nat) (draft : Draft) (rest : Chars) :
    scanLines? (fuel + 2) draft ('\n' :: '[' :: (key.toList ++ ']' :: '\n' :: rest)) =
      (draft.enter? openTable [key]).bind (fun draft => scanLines? fuel draft rest) :=
  scanLines?_expression rfl (by decide)
    (scanExpression?_header bare (fuel + 1) draft ('\n' :: rest))

/-! Documents: values by their keys, each in a line of its own. -/

def lines (given : List (String × Scalar)) : Chars :=
  given.flatMap (fun entry => EngineConfig.line entry.1 entry.2.chars)

def values (given : List (String × Scalar)) : List (String × Toml) :=
  given.map (fun entry => (entry.1, entry.2.toml))

theorem length_le_length_lines (given : List (String × Scalar)) :
    given.length ≤ (lines given).length := by
  induction given with
  | nil => exact Nat.le_refl 0
  | cons entry given ih =>
    rw [lines, List.flatMap_cons, ← lines, List.length_append, List.length_cons]
    have own : 0 < (EngineConfig.line entry.1 entry.2.chars).length := by
      rw [EngineConfig.line, List.length_append]
      exact Nat.succ_pos _
    omega

namespace Draft

def addAll? (draft : Draft) (given : List (String × Toml)) : Option Draft :=
  given.foldlM (fun (draft : Draft) entry => draft.add? [entry.1] entry.2) draft

variable {entries inner : Entries Toml} {given : List (String × Toml)} {table : String}

theorem add?_root (fresh : Entries.find? key entries = none) (value : Toml) :
    add? ⟨entries, []⟩ [key] value = some ⟨Entries.insert key value entries, []⟩ := by
  simp [add?, update, addDotted, addValue, fresh]

theorem enter?_openTable (fresh : Entries.find? table entries = none) (current : List String) :
    enter? ⟨entries, current⟩ openTable [table] =
      some ⟨Entries.insert table (.table .header []) entries, [table]⟩ := by
  simp [enter?, update, openTable, fresh]

theorem add?_inner (fresh : Entries.find? key inner = none) (value : Toml) :
    add? ⟨Entries.insert table (.table .header inner) entries, [table]⟩ [key] value =
      some ⟨Entries.insert table (.table .header (Entries.insert key value inner)) entries,
        [table]⟩ := by
  simp [add?, update, addDotted, addValue, fresh, Entries.find?_insert, mayEnter,
    Entries.insert_insert]

/-- Values under new keys end up in the current table, whichever table of the draft that is. -/
theorem addAll?_eq {draftOf : Entries Toml → Draft}
    (single : ∀ entries key value, Entries.find? key entries = none →
      (draftOf entries).add? [key] value = some (draftOf (Entries.insert key value entries)))
    (distinct : (given.map (·.1)).Nodup)
    (fresh : ∀ entry ∈ given, Entries.find? entry.1 entries = none) :
    (draftOf entries).addAll? given = some (draftOf
      (given.foldl (fun made entry => Entries.insert entry.1 entry.2 made) entries)) := by
  induction given generalizing entries with
  | nil => rfl
  | cons entry given ih =>
    obtain ⟨apart, distinct⟩ := List.nodup_cons.1 distinct
    rw [List.forall_mem_cons] at fresh
    rw [addAll?, List.foldlM_cons, single entries entry.1 entry.2 fresh.1, List.foldl_cons]
    refine ih distinct (fun other listed => ?_)
    have different : entry.1 ≠ other.1 := fun same =>
      apart (List.mem_map.2 ⟨other, listed, same.symm⟩)
    rw [Entries.find?_insert, if_neg different]
    exact fresh.2 other listed

end Draft

theorem scanLines?_lines (given : List (String × Scalar))
    (bare : ∀ entry ∈ given, IsBareKey entry.1) (fuel : Nat) (draft : Draft) (rest : Chars) :
    scanLines? (fuel + given.length) draft (lines given ++ rest) =
      (draft.addAll? (values given)).bind (fun draft => scanLines? fuel draft rest) := by
  induction given generalizing draft with
  | nil => rfl
  | cons entry given ih =>
    rw [List.forall_mem_cons] at bare
    rw [lines, List.flatMap_cons, ← lines, List.append_assoc, List.length_cons, ← Nat.add_assoc,
      scanLines?_line bare.1, values, List.map_cons, Draft.addAll?, List.foldlM_cons]
    cases draft.add? [entry.1] entry.2.toml with
    | none => rfl
    | some draft => exact ih bare.2 draft

def document (outer : List (String × Scalar)) (table : String)
    (inner : List (String × Scalar)) : Chars :=
  lines outer ++ '\n' :: '[' :: (table.toList ++ ']' :: '\n' :: lines inner)

variable {outer inner : List (String × Scalar)} {table : String}

theorem head?_document (bare : ∀ entry ∈ outer, IsBareKey entry.1) :
    (document outer table inner).head? ≠ some '\ufeff' := by
  cases outer with
  | nil => simp [document, lines]
  | cons entry outer =>
    obtain ⟨first, others, same, other⟩ := (bare entry List.mem_cons_self).exists_cons
    simp [document, lines, EngineConfig.line, same, other '\ufeff' rfl]

theorem map_fst_values (given : List (String × Scalar)) :
    (values given).map (·.1) = given.map (·.1) := by
  simp [values]

theorem scanLines?_document (bareTable : IsBareKey table)
    (bareOuter : ∀ entry ∈ outer, IsBareKey entry.1)
    (bareInner : ∀ entry ∈ inner, IsBareKey entry.1)
    (distinct : (table :: outer.map (·.1)).Nodup) (distinctInner : (inner.map (·.1)).Nodup)
    (fuel : Nat) :
    scanLines? (fuel + 1 + inner.length + 2 + outer.length) Draft.empty
        (document outer table inner) =
      some ⟨Entries.insert table (.table .header (Entries.ofList (values inner)))
        (Entries.ofList (values outer)), [table]⟩ := by
  obtain ⟨apart, distinct⟩ := List.nodup_cons.1 distinct
  have first : Draft.addAll? ⟨[], []⟩ (values outer) =
      some ⟨Entries.ofList (values outer), []⟩ :=
    Draft.addAll?_eq (fun _ _ value fresh => Draft.add?_root fresh value)
      (by rwa [map_fst_values]) (fun _ _ => rfl)
  have fresh : Entries.find? table (Entries.ofList (values outer)) = none := by
    refine Entries.find?_eq_none_iff.2 (fun listed => apart ?_)
    obtain ⟨entry, member, rfl⟩ := List.mem_map.1 listed
    rw [← map_fst_values]
    exact List.mem_map_of_mem (Entries.mem_of_mem_ofList member)
  have second : Draft.addAll? ⟨Entries.insert table (.table .header []) (Entries.ofList
      (values outer)), [table]⟩ (values inner) = some ⟨Entries.insert table (.table .header
        (Entries.ofList (values inner))) (Entries.ofList (values outer)), [table]⟩ :=
    Draft.addAll?_eq (fun _ _ value fresh => Draft.add?_inner fresh value)
      (by rwa [map_fst_values]) (fun _ _ => rfl)
  have last := scanLines?_lines inner bareInner (fuel + 1)
    ⟨Entries.insert table (.table .header []) (Entries.ofList (values outer)), [table]⟩ []
  rw [List.append_nil, second] at last
  rw [document, scanLines?_lines outer bareOuter, Draft.empty, first, Option.bind_some,
    scanLines?_header bareTable]
  change (Draft.enter? ⟨Entries.ofList (values outer), []⟩ openTable [table]).bind _ = _
  rw [Draft.enter?_openTable fresh, Option.bind_some, last]
  rfl

theorem ofText?_document (bareTable : IsBareKey table)
    (bareOuter : ∀ entry ∈ outer, IsBareKey entry.1)
    (bareInner : ∀ entry ∈ inner, IsBareKey entry.1)
    (distinct : (table :: outer.map (·.1)).Nodup) (distinctInner : (inner.map (·.1)).Nodup) :
    ofText? (String.ofList (document outer table inner)) =
      some (.table .header (Entries.insert table (.table .header (Entries.ofList (values inner)))
        (Entries.ofList (values outer)))) := by
  have unmarked : (document outer table inner).head? ≠ some '\ufeff' := head?_document bareOuter
  have enough : outer.length + inner.length + 3 ≤ (document outer table inner).length := by
    have := length_le_length_lines outer
    have := length_le_length_lines inner
    simp only [document, List.length_append, List.length_cons]
    omega
  obtain ⟨fuel, same⟩ : ∃ fuel, 2 * (document outer table inner).length + 2 =
      fuel + 1 + inner.length + 2 + outer.length :=
    ⟨2 * (document outer table inner).length - 1 - inner.length - outer.length, by omega⟩
  have scanned := scanLines?_document bareTable bareOuter bareInner distinct distinctInner fuel
  rw [ofText?, String.toList_ofList]
  split
  · rename_i rest marked
    exact absurd (congrArg List.head? marked) unmarked
  · simp only [same, scanned]
    rfl

def members (given : List (String × Scalar)) : List (String × Json) :=
  given.map (fun entry => (entry.1, entry.2.json))

theorem outlineEntries_insert {value : Toml} {json : Json} (own : value.outline = .ofJson json)
    {entries : Entries Toml} {made : List (String × Json)}
    (same : outlineEntries entries = Outline.ofMembers made) (key : String) :
    outlineEntries (Entries.insert key value entries) =
      Outline.ofMembers (Entries.insert key json made) := by
  induction entries generalizing made with
  | nil =>
    cases made with
    | nil => simp [Entries.insert, outlineEntries, Outline.ofMembers, own]
    | cons member made => simp [outlineEntries, Outline.ofMembers] at same
  | cons entry entries ih =>
    cases made with
    | nil => simp [outlineEntries, Outline.ofMembers] at same
    | cons member made =>
      obtain ⟨name, old⟩ := entry
      obtain ⟨other, json⟩ := member
      simp only [outlineEntries, Outline.ofMembers, List.cons.injEq, Prod.mk.injEq,
        Option.some.injEq] at same
      obtain ⟨⟨rfl, first⟩, rest⟩ := same
      simp only [Entries.insert]
      split
      · simp [outlineEntries, Outline.ofMembers, own, first, rest]
      · split
        · simp [outlineEntries, Outline.ofMembers, own, rest]
        · simp [outlineEntries, Outline.ofMembers, first, ih rest]

theorem outlineEntries_ofList (given : List (String × Scalar)) :
    outlineEntries (Entries.ofList (values given)) =
      Outline.ofMembers (Entries.ofList (members given)) := by
  suffices general : ∀ (entries : Entries Toml) (made : List (String × Json)),
      outlineEntries entries = Outline.ofMembers made →
        outlineEntries ((values given).foldl
          (fun made entry => Entries.insert entry.1 entry.2 made) entries) =
        Outline.ofMembers ((members given).foldl
          (fun made entry => Entries.insert entry.1 entry.2 made) made) from
    general [] [] (by simp [outlineEntries, Outline.ofMembers])
  induction given with
  | nil => exact fun _ _ same => same
  | cons entry given ih =>
    exact fun entries made same => ih _ _ (outlineEntries_insert entry.2.outline_toml same entry.1)

theorem ofText?_document_outline (bareTable : IsBareKey table)
    (bareOuter : ∀ entry ∈ outer, IsBareKey entry.1)
    (bareInner : ∀ entry ∈ inner, IsBareKey entry.1)
    (distinct : (table :: outer.map (·.1)).Nodup) (distinctInner : (inner.map (·.1)).Nodup) :
    (ofText? (String.ofList (document outer table inner))).map outline =
      some (.ofJson (.ofMembers (members outer ++ [(table, .ofMembers (members inner))]))) := by
  have within : outline (.table .header (Entries.ofList (values inner))) =
      .ofJson (.ofMembers (members inner)) := by
    rw [outline, outlineEntries_ofList, Json.ofMembers, Outline.ofJson]
  have behind (object : Json) : Json.ofMembers (members outer ++ [(table, object)]) =
      .obj (Entries.insert table object (Entries.ofList (members outer))) := by
    rw [Json.ofMembers, Entries.ofList, List.foldl_append]
    rfl
  rw [ofText?_document bareTable bareOuter bareInner distinct distinctInner, Option.map_some,
    outline, outlineEntries_insert within (outlineEntries_ofList outer), behind, Outline.ofJson]

end Jmap.Toml
