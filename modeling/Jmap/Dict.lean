/-!
Maps keyed by text. A `Dict` lists its entries in increasing key order, so two
dictionaries with the same look-ups are equal (`Dict.ext_find?`). The operations
are first given on bare entry lists, which is the form objects of JSON hold.
-/

namespace Jmap

abbrev Entries (α : Type u) := List (String × α)

namespace Entries

variable {α : Type u} {β : Type v}

def Sorted (entries : Entries α) : Prop :=
  entries.Pairwise (fun left right => left.1 < right.1)

def find? (key : String) : Entries α → Option α
  | [] => none
  | (name, value) :: rest => if name = key then some value else find? key rest

/-- Puts an entry at its place; an earlier entry of the same key is replaced. -/
def insert (key : String) (value : α) : Entries α → Entries α
  | [] => [(key, value)]
  | (name, old) :: rest =>
    if key < name then (key, value) :: (name, old) :: rest
    else if key = name then (key, value) :: rest
    else (name, old) :: insert key value rest

def erase (key : String) : Entries α → Entries α
  | [] => []
  | (name, value) :: rest =>
    if name = key then rest else (name, value) :: erase key rest

def ofList (entries : List (String × α)) : Entries α :=
  entries.foldl (fun made entry => insert entry.1 entry.2 made) []

theorem mem_insert {key : String} {value : α} {entries : Entries α} {entry : String × α}
    (member : entry ∈ insert key value entries) : entry = (key, value) ∨ entry ∈ entries := by
  induction entries with
  | nil => simpa [insert] using member
  | cons head rest ih =>
    obtain ⟨name, old⟩ := head
    simp only [insert] at member
    split at member
    · simpa using member
    · split at member
      · rcases List.mem_cons.1 member with same | member
        · exact .inl same
        · exact .inr (List.mem_cons_of_mem _ member)
      · rcases List.mem_cons.1 member with same | member
        · exact .inr (same ▸ List.mem_cons_self)
        · exact (ih member).imp_right (List.mem_cons_of_mem _)

theorem Sorted.insert {entries : Entries α} (sorted : Sorted entries) (key : String) (value : α) :
    Sorted (Entries.insert key value entries) := by
  induction entries with
  | nil => simp [Entries.insert, Sorted]
  | cons head rest ih =>
    obtain ⟨name, old⟩ := head
    have tail := List.pairwise_cons.1 sorted
    simp only [Entries.insert]
    split
    · rename_i before
      refine List.pairwise_cons.2 ⟨fun entry member => ?_, sorted⟩
      rcases List.mem_cons.1 member with rfl | member
      · exact before
      · exact String.lt_trans before (tail.1 entry member)
    · rename_i notBefore
      split
      · rename_i same
        subst same
        exact List.pairwise_cons.2 ⟨tail.1, tail.2⟩
      · rename_i different
        refine List.pairwise_cons.2 ⟨fun entry member => ?_, ih tail.2⟩
        rcases mem_insert member with rfl | member
        · exact Std.lt_of_le_of_ne (String.not_lt.1 notBefore) (Ne.symm different)
        · exact tail.1 entry member

theorem mem_erase {key : String} {entries : Entries α} {entry : String × α}
    (member : entry ∈ erase key entries) : entry ∈ entries := by
  induction entries with
  | nil => simp [erase] at member
  | cons head rest ih =>
    simp only [erase] at member
    split at member
    · exact List.mem_cons_of_mem _ member
    · rcases List.mem_cons.1 member with rfl | member
      · exact List.mem_cons_self
      · exact List.mem_cons_of_mem _ (ih member)

theorem Sorted.erase {entries : Entries α} (sorted : Sorted entries) (key : String) :
    Sorted (Entries.erase key entries) := by
  induction entries with
  | nil => simp [Entries.erase, Sorted]
  | cons head rest ih =>
    have tail := List.pairwise_cons.1 sorted
    simp only [Entries.erase]
    split
    · exact tail.2
    · exact List.pairwise_cons.2 ⟨fun entry member => tail.1 entry (mem_erase member), ih tail.2⟩

theorem Sorted.ofList (entries : List (String × α)) : Sorted (Entries.ofList entries) := by
  suffices general : ∀ made : Entries α, Sorted made →
      Sorted (entries.foldl (fun made entry => Entries.insert entry.1 entry.2 made) made) from
    general [] List.Pairwise.nil
  induction entries with
  | nil => exact fun _ sorted => sorted
  | cons head rest ih => exact fun made sorted => ih _ (sorted.insert _ _)

theorem find?_insert (key other : String) (value : α) (entries : Entries α) :
    find? other (insert key value entries) =
      if key = other then some value else find? other entries := by
  induction entries with
  | nil => simp [insert, find?]
  | cons head rest ih =>
    obtain ⟨name, old⟩ := head
    simp only [insert]
    split
    · simp [find?]
    · split
      · rename_i same
        subst same
        simp only [find?]
        split <;> rfl
      · rename_i different
        simp only [find?]
        split
        · rename_i same
          rw [if_neg (fun equal => different (equal.trans same.symm))]
        · exact ih

theorem Sorted.find?_eq_none {entries : Entries α} {key : String}
    (above : ∀ entry ∈ entries, key < entry.1) : find? key entries = none := by
  induction entries with
  | nil => rfl
  | cons head rest ih =>
    have different : head.1 ≠ key := fun same =>
      String.lt_irrefl key (same ▸ above head List.mem_cons_self)
    simp only [find?]
    rw [if_neg different]
    exact ih (fun entry member => above entry (List.mem_cons_of_mem _ member))

theorem Sorted.find?_erase {entries : Entries α} (sorted : Sorted entries) (key other : String) :
    find? other (Entries.erase key entries) =
      if key = other then none else find? other entries := by
  induction entries with
  | nil => simp [Entries.erase, find?]
  | cons head rest ih =>
    have tail := List.pairwise_cons.1 sorted
    simp only [Entries.erase]
    split
    · rename_i same
      subst same
      by_cases equal : head.1 = other
      · rw [if_pos equal, ← equal]
        exact find?_eq_none tail.1
      · simp [find?, equal]
    · rename_i different
      simp only [find?]
      split
      · rename_i same
        rw [if_neg (fun equal => different (same.trans equal.symm))]
      · exact ih tail.2

theorem length_erase_le (key : String) (entries : Entries α) :
    (erase key entries).length ≤ entries.length := by
  induction entries with
  | nil => exact Nat.le_refl 0
  | cons head rest ih =>
    simp only [erase]
    split
    · exact Nat.le_succ rest.length
    · exact Nat.succ_le_succ ih

theorem length_insert_le (key : String) (value : α) (entries : Entries α) :
    (insert key value entries).length ≤ entries.length + 1 := by
  induction entries with
  | nil => exact Nat.le_refl 1
  | cons head rest ih =>
    simp only [insert]
    split
    · exact Nat.le_refl _
    · split
      · exact Nat.le_succ _
      · exact Nat.succ_le_succ ih

theorem length_erase_of_find? {key : String} {entries : Entries α} {value : α}
    (found : find? key entries = some value) :
    (erase key entries).length + 1 = entries.length := by
  induction entries with
  | nil => cases found
  | cons head rest ih =>
    simp only [find?, erase] at found ⊢
    split
    · rfl
    · rename_i different
      rw [if_neg different] at found
      simpa using ih found

theorem Sorted.find?_eq_some_iff {entries : Entries α} (sorted : Sorted entries) {key : String}
    {value : α} : find? key entries = some value ↔ (key, value) ∈ entries := by
  induction entries with
  | nil => simp [find?]
  | cons head rest ih =>
    have tail := List.pairwise_cons.1 sorted
    simp only [find?, List.mem_cons]
    split
    · rename_i same
      constructor
      · intro found
        exact .inl (Prod.ext same.symm (Option.some.inj found).symm)
      · rintro (rfl | member)
        · rfl
        · exact absurd (tail.1 _ member) (same ▸ String.lt_irrefl head.1)
    · rename_i different
      rw [ih tail.2]
      constructor
      · exact .inr
      · rintro (rfl | member)
        · exact absurd rfl different
        · exact member

end Entries

/-- A finite map from text; entries stand in increasing key order. -/
structure Dict (α : Type u) where
  entries : Entries α
  sorted : Entries.Sorted entries

namespace Dict

variable {α : Type u} {β : Type v}

theorem ext_entries {left right : Dict α} (same : left.entries = right.entries) :
    left = right := by
  cases left
  cases right
  cases same
  rfl

instance [DecidableEq α] : DecidableEq (Dict α) := fun left right =>
  if same : left.entries = right.entries then isTrue (ext_entries same)
  else isFalse (fun equal => same (equal ▸ rfl))

def empty : Dict α := ⟨[], List.Pairwise.nil⟩

instance : Inhabited (Dict α) := ⟨empty⟩

def find? (dict : Dict α) (key : String) : Option α := Entries.find? key dict.entries

def contains (dict : Dict α) (key : String) : Bool := (dict.find? key).isSome

def insert (dict : Dict α) (key : String) (value : α) : Dict α :=
  ⟨Entries.insert key value dict.entries, dict.sorted.insert key value⟩

def erase (dict : Dict α) (key : String) : Dict α :=
  ⟨Entries.erase key dict.entries, dict.sorted.erase key⟩

/-- Of two entries with one key the last counts. -/
def ofList (entries : List (String × α)) : Dict α :=
  ⟨Entries.ofList entries, Entries.Sorted.ofList entries⟩

def isEmpty (dict : Dict α) : Bool := dict.entries.isEmpty

def size (dict : Dict α) : Nat := dict.entries.length

def keys (dict : Dict α) : List String := dict.entries.map (·.1)

def map (f : α → β) (dict : Dict α) : Dict β :=
  ⟨dict.entries.map (fun entry => (entry.1, f entry.2)),
    by simpa [Entries.Sorted, List.pairwise_map] using dict.sorted⟩

@[simp] theorem find?_empty (key : String) : (empty : Dict α).find? key = none := rfl

theorem find?_insert (dict : Dict α) (key other : String) (value : α) :
    (dict.insert key value).find? other = if key = other then some value else dict.find? other :=
  Entries.find?_insert key other value dict.entries

theorem find?_erase (dict : Dict α) (key other : String) :
    (dict.erase key).find? other = if key = other then none else dict.find? other :=
  dict.sorted.find?_erase key other

@[simp] theorem find?_insert_self (dict : Dict α) (key : String) (value : α) :
    (dict.insert key value).find? key = some value := by
  simp [find?_insert]

@[simp] theorem find?_erase_self (dict : Dict α) (key : String) :
    (dict.erase key).find? key = none := by
  simp [find?_erase]

theorem size_erase_le (dict : Dict α) (key : String) : (dict.erase key).size ≤ dict.size :=
  Entries.length_erase_le key dict.entries

theorem size_erase_of_find? {dict : Dict α} {key : String} {value : α}
    (found : dict.find? key = some value) : (dict.erase key).size + 1 = dict.size :=
  Entries.length_erase_of_find? found

theorem size_insert_le (dict : Dict α) (key : String) (value : α) :
    (dict.insert key value).size ≤ dict.size + 1 :=
  Entries.length_insert_le key value dict.entries

theorem find?_eq_some_iff {dict : Dict α} {key : String} {value : α} :
    dict.find? key = some value ↔ (key, value) ∈ dict.entries :=
  dict.sorted.find?_eq_some_iff

theorem find?_foldl_erase (keys : List String) (dict : Dict α) (key : String) :
    (keys.foldl (fun dict key => dict.erase key) dict).find? key =
      if key ∈ keys then none else dict.find? key := by
  induction keys generalizing dict with
  | nil => simp
  | cons head rest ih =>
    rw [List.foldl_cons, ih, find?_erase]
    by_cases same : head = key
    · simp [same]
    · simp [same, Ne.symm same]

theorem size_foldl_erase_le (keys : List String) (dict : Dict α) :
    (keys.foldl (fun dict key => dict.erase key) dict).size ≤ dict.size := by
  induction keys generalizing dict with
  | nil => exact Nat.le_refl _
  | cons head rest ih => exact Nat.le_trans (ih (dict.erase head)) (dict.size_erase_le head)

end Dict

end Jmap
