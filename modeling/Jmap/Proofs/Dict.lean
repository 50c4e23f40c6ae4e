import Jmap.Dict

namespace Jmap

namespace Entries

variable {α : Type u} {key : String} {value : α} {entries made : Entries α} {entry : String × α}

theorem mem_of_mem_foldl (member : entry ∈
    entries.foldl (fun made entry => insert entry.1 entry.2 made) made) :
    entry ∈ made ∨ entry ∈ entries := by
  induction entries generalizing made with
  | nil => exact .inl member
  | cons head rest ih =>
    rcases ih member with inserted | later
    · rcases mem_insert inserted with rfl | earlier
      · exact .inr List.mem_cons_self
      · exact .inl earlier
    · exact .inr (List.mem_cons_of_mem _ later)

theorem mem_of_mem_ofList (member : entry ∈ ofList entries) : entry ∈ entries :=
  (mem_of_mem_foldl member).resolve_left List.not_mem_nil

theorem insert_above (above : ∀ entry ∈ entries, entry.1 < key) :
    insert key value entries = entries ++ [(key, value)] := by
  induction entries with
  | nil => rfl
  | cons head rest ih =>
    have below : head.1 < key := above head List.mem_cons_self
    have notAbove : ¬key < head.1 := fun less => String.lt_irrefl _ (String.lt_trans below less)
    have different : key ≠ head.1 := fun same => String.lt_irrefl key (same ▸ below)
    rw [insert, if_neg notAbove, if_neg different,
      ih (fun entry member => above entry (List.mem_cons_of_mem _ member))]
    rfl

theorem Sorted.above_of_append (sorted : Sorted (made ++ (key, value) :: entries)) :
    ∀ entry ∈ made, entry.1 < key := fun entry member =>
  (List.pairwise_append.1 sorted).2.2 entry member (key, value) List.mem_cons_self

theorem foldl_insert_eq (made : Entries α) (sorted : Sorted (made ++ entries)) :
    entries.foldl (fun made entry => insert entry.1 entry.2 made) made = made ++ entries := by
  induction entries generalizing made with
  | nil => simp
  | cons head rest ih =>
    rw [List.foldl_cons, insert_above sorted.above_of_append, ih _ (by simpa using sorted)]
    simp

theorem ofList_eq (sorted : Sorted entries) : ofList entries = entries :=
  foldl_insert_eq [] sorted

theorem perm_insert (fresh : key ∉ entries.map (·.1)) :
    (insert key value entries).Perm ((key, value) :: entries) := by
  induction entries with
  | nil => exact .refl _
  | cons head rest ih =>
    simp only [List.map_cons, List.mem_cons, not_or] at fresh
    simp only [insert]
    split
    · exact .refl _
    · rw [if_neg fresh.1]
      exact ((ih fresh.2).cons head).trans (.swap _ _ _)

theorem perm_foldl_insert (made : Entries α)
    (distinct : ((made ++ entries).map (·.1)).Nodup) :
    (entries.foldl (fun made entry => insert entry.1 entry.2 made) made).Perm
      (made ++ entries) := by
  induction entries generalizing made with
  | nil => simp
  | cons head rest ih =>
    have moved : (made ++ head :: rest).Perm ((head :: made) ++ rest) := List.perm_middle
    have fresh : head.1 ∉ made.map (·.1) := by
      have first := (moved.map (·.1)).nodup_iff.1 distinct
      simp only [List.cons_append, List.map_cons, List.nodup_cons, List.map_append,
        List.mem_append, not_or] at first
      exact first.1.1
    have inserted : (insert head.1 head.2 made).Perm (head :: made) := perm_insert fresh
    have same := inserted.append_right rest
    exact (ih _ (((same.map (·.1)).trans (moved.map (·.1)).symm).nodup_iff.2 distinct)).trans
      (same.trans moved.symm)

theorem perm_ofList (distinct : (entries.map (·.1)).Nodup) : (ofList entries).Perm entries :=
  perm_foldl_insert [] distinct

theorem insert_insert (key : String) (value other : α) (entries : Entries α) :
    insert key value (insert key other entries) = insert key value entries := by
  have again (rest : Entries α) :
      insert key value ((key, other) :: rest) = (key, value) :: rest := by
    rw [insert, if_neg (String.lt_irrefl key), if_pos rfl]
  induction entries with
  | nil => exact again []
  | cons head rest ih =>
    obtain ⟨name, old⟩ := head
    by_cases before : key < name
    · rw [insert, if_pos before, again, insert, if_pos before]
    · by_cases same : key = name
      · rw [insert, if_neg before, if_pos same, again, insert, if_neg before, if_pos same]
      · rw [insert, if_neg before, if_neg same, insert, if_neg before, if_neg same, ih, insert,
          if_neg before, if_neg same]

theorem find?_eq_none_iff : find? key entries = none ↔ key ∉ entries.map (·.1) := by
  induction entries with
  | nil => simp [find?]
  | cons head rest ih =>
    rw [find?, List.map_cons, List.mem_cons, not_or, ← ih]
    split
    · rename_i same
      simp [same]
    · rename_i different
      simp [Ne.symm different]

theorem exists_insert_eq (fresh : find? key entries = none) (value : α) :
    ∃ front back, entries = front ++ back ∧
      insert key value entries = front ++ (key, value) :: back := by
  induction entries with
  | nil => exact ⟨[], [], rfl, rfl⟩
  | cons head rest ih =>
    obtain ⟨name, own⟩ := head
    simp only [find?] at fresh
    split at fresh
    · cases fresh
    · rename_i different
      rw [insert, if_neg (Ne.symm different)]
      split
      · exact ⟨[], (name, own) :: rest, rfl, rfl⟩
      · obtain ⟨front, back, same, inserted⟩ := ih fresh
        exact ⟨(name, own) :: front, back, by rw [same]; rfl, by rw [inserted]; rfl⟩

theorem perm_erase (found : find? key entries = some value) :
    entries.Perm ((key, value) :: erase key entries) := by
  induction entries with
  | nil => cases found
  | cons head rest ih =>
    obtain ⟨name, own⟩ := head
    simp only [find?, erase] at found ⊢
    split at found
    · rename_i same
      cases same
      cases found
      rw [if_pos rfl]
    · rename_i different
      rw [if_neg different]
      exact ((ih found).cons _).trans (.swap _ _ _)

theorem erase_of_find?_eq_none (absent : find? key entries = none) :
    erase key entries = entries := by
  induction entries with
  | nil => rfl
  | cons head rest ih =>
    simp only [find?, erase] at absent ⊢
    split at absent
    · cases absent
    · rename_i different
      rw [if_neg different, ih absent]

theorem Sorted.erase_eq_filter (sorted : Sorted entries) (key : String) :
    Entries.erase key entries = entries.filter (fun entry => entry.1 ≠ key) := by
  induction entries with
  | nil => rfl
  | cons head rest ih =>
    obtain ⟨before, tail⟩ := List.pairwise_cons.1 sorted
    rw [Entries.erase]
    split
    · rename_i same
      rw [List.filter_cons_of_neg (by simp [same]), List.filter_eq_self.2]
      intro entry member
      have different : entry.1 ≠ key := fun equal =>
        String.lt_irrefl key (by simpa [same, equal] using before entry member)
      simpa using different
    · rename_i different
      rw [List.filter_cons_of_pos (by simpa using different), ih tail]

theorem Sorted.nodup_keys (sorted : Sorted entries) : (entries.map (·.1)).Nodup := by
  refine List.pairwise_map.2 (sorted.imp (fun before same => ?_))
  rw [same] at before
  exact String.lt_irrefl _ before

theorem Sorted.eq_of_perm {others : Entries α} (sorted : Sorted entries) (also : Sorted others)
    (same : entries.Perm others) : entries = others :=
  same.eq_of_pairwise (fun _ _ _ _ before after => absurd before (String.lt_asymm after))
    sorted also

end Entries

namespace Dict

variable {α : Type u} {key : String} {value : α} {entries : List (String × α)}

theorem eq_empty {dict : Dict α} (empty : dict.isEmpty = true) : dict = .empty :=
  ext_entries (List.isEmpty_iff.1 empty)

@[simp] theorem ofList_entries (dict : Dict α) : ofList dict.entries = dict :=
  ext_entries (Entries.ofList_eq dict.sorted)

theorem mem_of_find?_ofList (found : (ofList entries).find? key = some value) :
    (key, value) ∈ entries :=
  Entries.mem_of_mem_ofList (find?_eq_some_iff.1 found)

theorem size_foldl_erase {keys : List String} (dict : Dict α) (distinct : keys.Nodup)
    (present : ∀ key ∈ keys, ∃ value, dict.find? key = some value) :
    (keys.foldl (fun dict key => dict.erase key) dict).size + keys.length = dict.size := by
  induction keys generalizing dict with
  | nil => rfl
  | cons head rest ih =>
    obtain ⟨fresh, distinct⟩ := List.nodup_cons.1 distinct
    obtain ⟨value, found⟩ := present head List.mem_cons_self
    have others : ∀ key ∈ rest, ∃ value, (dict.erase head).find? key = some value := by
      intro key member
      obtain ⟨value, found⟩ := present key (List.mem_cons_of_mem head member)
      have different : head ≠ key := fun same => fresh (same ▸ member)
      exact ⟨value, by rwa [find?_erase, if_neg different]⟩
    rw [List.foldl_cons, List.length_cons, ← Nat.add_assoc, ih _ distinct others]
    exact size_erase_of_find? found

theorem find?_ofList (distinct : (entries.map (·.1)).Nodup) :
    (ofList entries).find? key = some value ↔ (key, value) ∈ entries :=
  find?_eq_some_iff.trans (Entries.perm_ofList distinct).mem_iff

end Dict

end Jmap
