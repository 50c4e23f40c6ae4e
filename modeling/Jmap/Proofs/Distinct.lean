namespace Jmap

namespace Distinct

variable {α κ : Type} {key : α → κ} {list : List α} {value : α} {test : α → Bool}

theorem map_append_one :
    ((list ++ [value]).map key).Nodup ↔ (list.map key).Nodup ∧ key value ∉ list.map key := by
  rw [List.map_append, List.map_singleton, List.nodup_append]
  constructor
  · intro all
    obtain ⟨before, -, apart⟩ := all
    exact ⟨before, fun member => apart _ member _ (List.mem_singleton.2 rfl) rfl⟩
  · intro both
    obtain ⟨before, fresh⟩ := both
    refine ⟨before, by simp, ?_⟩
    intro first member second last same
    rw [same, List.mem_singleton.1 last] at member
    exact fresh member

theorem filter_eq (distinct : (list.map key).Nodup) (member : value ∈ list)
    (picks : ∀ other, test other = true ↔ key other = key value) :
    list.filter test = [value] := by
  induction list with
  | nil => cases member
  | cons head rest ih =>
    obtain ⟨fresh, restDistinct⟩ := List.nodup_cons.1 distinct
    rcases List.mem_cons.1 member with rfl | later
    · rw [List.filter_cons_of_pos ((picks value).2 rfl), List.filter_eq_nil_iff.2]
      intro other otherMember picked
      exact fresh (List.mem_map.2 ⟨other, otherMember, (picks other).1 picked⟩)
    · rw [List.filter_cons_of_neg]
      · exact ih restDistinct later
      · intro picked
        exact fresh (List.mem_map.2 ⟨value, later, ((picks head).1 picked).symm⟩)

theorem filter_eq_of_unique (member : value ∈ list) (picked : test value = true)
    (once : ∀ (place other : Nat) (first second : α), list[place]? = some first →
      list[other]? = some second →
      test first = true → test second = true → place = other) :
    list.filter test = [value] := by
  induction list with
  | nil => cases member
  | cons head rest ih =>
    rcases List.mem_cons.1 member with rfl | later
    · rw [List.filter_cons_of_pos picked, List.filter_eq_nil_iff.2]
      intro other otherMember otherPicked
      obtain ⟨place, present⟩ := List.mem_iff_getElem?.1 otherMember
      cases once 0 (place + 1) value other rfl present picked otherPicked
    · obtain ⟨place, present⟩ := List.mem_iff_getElem?.1 later
      rw [List.filter_cons_of_neg]
      · refine ih later (fun place other first second present otherPresent picks otherPicks => ?_)
        exact Nat.succ.inj
          (once (place + 1) (other + 1) first second present otherPresent picks otherPicks)
      · intro headPicked
        cases once 0 (place + 1) head value rfl present headPicked picked

theorem find?_eq (distinct : (list.map key).Nodup) (member : value ∈ list)
    (picks : ∀ other, test other = true ↔ key other = key value) :
    list.find? test = some value := by
  rw [← List.head?_filter, filter_eq distinct member picks, List.head?_cons]

theorem filter_perm {other : List α} {place : κ} (distinct : (list.map key).Nodup)
    (same : other.Perm list) (picks : ∀ member, test member = true ↔ key member = place) :
    other.filter test = list.filter test := by
  have filtered := same.filter test
  cases picked : list.filter test with
  | nil =>
    rw [picked] at filtered
    exact filtered.eq_nil
  | cons first rest =>
    obtain ⟨member, passes⟩ : first ∈ list ∧ test first = true := by
      rw [← List.mem_filter, picked]
      exact List.mem_cons_self
    have single : list.filter test = [first] := by
      apply filter_eq distinct member
      intro other
      rw [picks other, (picks first).1 passes]
    rw [single] at filtered picked
    rw [← picked]
    exact filtered.eq_singleton

section

variable [DecidableEq α] {head first second : α}

/-- The members of a list, each once and in the order of their first places. -/
structure Firsts (list firsts : List α) : Prop where
  once : firsts.Nodup
  mem_iff : ∀ value, value ∈ firsts ↔ value ∈ list
  ordered : firsts.Pairwise (fun first second => list.idxOf first < list.idxOf second)

theorem idxOf_cons_of_ne (different : head ≠ value) :
    (head :: list).idxOf value = list.idxOf value + 1 := by
  rw [List.idxOf_cons, beq_false_of_ne different, cond_false]

theorem idxOf_lt_of_filter (kept : test first = true) (alsoKept : test second = true)
    (before : (list.filter test).idxOf first < (list.filter test).idxOf second) :
    list.idxOf first < list.idxOf second := by
  induction list with
  | nil => exact before
  | cons head rest ih =>
    by_cases isFirst : head = first
    · subst isFirst
      rw [List.filter_cons_of_pos kept, List.idxOf_cons_self] at before
      by_cases isSecond : head = second
      · rw [isSecond, List.idxOf_cons_self] at before
        exact absurd before (Nat.lt_irrefl 0)
      · rw [List.idxOf_cons_self, idxOf_cons_of_ne isSecond]
        exact Nat.succ_pos _
    · by_cases isSecond : head = second
      · subst isSecond
        rw [List.filter_cons_of_pos alsoKept, List.idxOf_cons_self] at before
        exact absurd before (Nat.not_lt_zero _)
      · rw [idxOf_cons_of_ne isFirst, idxOf_cons_of_ne isSecond]
        apply Nat.succ_lt_succ
        apply ih
        by_cases passes : test head = true
        · rw [List.filter_cons_of_pos passes, idxOf_cons_of_ne isFirst,
            idxOf_cons_of_ne isSecond] at before
          exact Nat.lt_of_succ_lt_succ before
        · rwa [List.filter_cons_of_neg passes] at before

theorem firsts_eraseDups : (list : List α) → Firsts list list.eraseDups
  | [] => ⟨List.nodup_nil, fun _ => Iff.rfl, List.Pairwise.nil⟩
  | head :: rest => by
    have later := firsts_eraseDups (rest.filter (fun other => !other == head))
    have other {value : α}
        (member : value ∈ (rest.filter (fun other => !other == head)).eraseDups) :
        head ≠ value ∧ (fun other => !other == head) value = true := by
      have kept := (List.mem_filter.1 ((later.mem_iff value).1 member)).2
      exact ⟨fun same => by simp [same] at kept, kept⟩
    rw [List.eraseDups_cons]
    -- What the recursion says of places is about a list without the head's copies.
    refine ⟨List.nodup_cons.2 ⟨fun member => (other member).1 rfl, later.once⟩, ?_,
      List.pairwise_cons.2 ⟨fun value member => ?_, ?_⟩⟩
    · intro value
      rw [← List.eraseDups_cons, List.mem_eraseDups]
    · rw [List.idxOf_cons_self, idxOf_cons_of_ne (other member).1]
      exact Nat.succ_pos _
    · refine later.ordered.imp_of_mem (fun member also before => ?_)
      rw [idxOf_cons_of_ne (other member).1, idxOf_cons_of_ne (other also).1]
      exact Nat.succ_lt_succ (idxOf_lt_of_filter (other member).2 (other also).2 before)
termination_by list => list.length
decreasing_by exact Nat.lt_succ_of_le (List.length_filter_le _ rest)

end

end Distinct

end Jmap
