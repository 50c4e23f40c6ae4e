import Jmap.Operation
import Jmap.Proofs.Batch
import Jmap.Proofs.Json.Record

namespace Jmap

open Json

theorem Method.readsBack (method : Method) : ReadsBack method := by
  intro ending sound
  change (Outline.readString (.str method.name) >>= _) = _
  simp only [Outline.readString, bind, Except.bind, Method.ofName?_name]

theorem ResultReference.readsBack (reference : ResultReference) : ReadsBack reference := by
  intro ending sound
  have distinct : (slots.map Slot.key).Nodup := by decide
  have returns : Row.Returns slots (reference.resultOf, reference.name, reference.path, ()) :=
    ⟨Slot.required_returns (.string _), Slot.required_returns (Method.readsBack _),
      Slot.required_returns (.string _), trivial⟩
  change (Row.read "ResultReference" slots (Outline.whole ending (Row.write slots _))).map _ = _
  rw [Row.read_write sound "ResultReference" distinct returns]
  rfl

namespace Batch

def Plain (arguments : List (String × Json)) : Prop :=
  ∀ argument ∈ arguments, plainKey? argument.1 = none

variable {arguments : List (String × Json)} {earlier invocations : List Invocation}
  {method name : Method} {account tag resultOf path : String}

theorem plain_nil : Plain [] :=
  List.forall_mem_nil _

theorem plain_cons {argument : String × Json} :
    Plain (argument :: arguments) ↔ plainKey? argument.1 = none ∧ Plain arguments :=
  List.forall_mem_cons

theorem not_mem_of_plain (plain : Plain arguments) {key : String} {value : Json} :
    ("#" ++ key, value) ∉ arguments := by
  intro member
  have found : plainKey? ("#" ++ key) = some key := plainKey?_eq_some_iff.2 rfl
  cases found.symm.trans (plain _ member)

theorem plainKey?_accountId : plainKey? "accountId" = none := rfl

theorem references_of_plain (plain : Plain arguments) :
    References earlier (.of method account tag arguments) := by
  intro key value found
  have all : Plain (("accountId", .str account) :: arguments) :=
    plain_cons.2 ⟨plainKey?_accountId, plain⟩
  exact absurd (Dict.mem_of_find?_ofList found) (not_mem_of_plain all)

theorem references_idsOf (plain : Plain arguments)
    (noIds : ∀ argument ∈ arguments, argument.1 ≠ "ids")
    (target : ∃ target ∈ earlier, target.tag = resultOf ∧ target.method = name)
    (rooted : ∃ rest, path = "/" ++ rest) :
    References earlier (.of method account tag (idsOf resultOf name path :: arguments)) := by
  intro key value found
  have referring : plainKey? ("#" ++ key) = some key := plainKey?_eq_some_iff.2 rfl
  -- Of the account, the reference and the other arguments only the reference has such a key.
  rcases List.mem_cons.1 (Dict.mem_of_find?_ofList found) with same | member
  · rw [(Prod.mk.inj same).1, plainKey?_accountId] at referring
    cases referring
  rcases List.mem_cons.1 member with same | member
  · obtain ⟨sameKey, rfl⟩ := Prod.mk.inj same
    have ids : plainKey? "#ids" = some "ids" := rfl
    rw [sameKey, ids] at referring
    cases referring
    refine ⟨?_, ⟨resultOf, name, path⟩, (ResultReference.readsBack _).read?, target, rooted⟩
    rw [Dict.contains, Option.isSome_eq_false_iff, Option.isNone_iff_eq_none]
    apply Option.eq_none_iff_forall_ne_some.2
    intro other given
    have listed := Dict.mem_of_find?_ofList given
    simp only [List.mem_cons, idsOf, Prod.mk.injEq] at listed
    rcases listed with ⟨same, -⟩ | ⟨same, -⟩ | listed
    · exact absurd same (by decide)
    · exact absurd same (by decide)
    · exact noIds _ listed rfl
  · exact absurd member (not_mem_of_plain plain)

theorem references_ids (target : ∃ target ∈ earlier, target.tag = resultOf ∧ target.method = name)
    (rooted : ∃ rest, path = "/" ++ rest) :
    References earlier (.of method account tag [idsOf resultOf name path]) :=
  references_idsOf plain_nil (List.forall_mem_nil _) target rooted

theorem allReference_nil : AllReference earlier [] := by
  intro before invocation later split
  simp at split

theorem allReference_pair {first second : Invocation} (own : References earlier first)
    (next : References (earlier ++ [first]) second) : AllReference earlier [first, second] :=
  allReference_cons.2 ⟨own, allReference_cons.2 ⟨next, allReference_nil⟩⟩

theorem allReference_append {others : List Invocation} :
    AllReference earlier (invocations ++ others) ↔
      AllReference earlier invocations ∧ AllReference (earlier ++ invocations) others := by
  induction invocations generalizing earlier with
  | nil => simp [allReference_nil]
  | cons invocation invocations ih =>
    rw [List.cons_append, allReference_cons, allReference_cons, ih, and_assoc, List.append_assoc,
      List.singleton_append]

theorem valid_of_allReference {invocations : List Invocation} (nonempty : invocations ≠ [])
    (distinct : (invocations.map (·.tag)).Nodup) (refers : AllReference [] invocations) :
    Valid { invocations } where
  nonempty := nonempty
  bounded := nofun
  distinct := distinct
  references earlier invocation later split := by
    simpa using refers earlier invocation later split

theorem valid_one {method : Method} {account tag : String} {arguments : List (String × Json)}
    (plain : Plain arguments) : Valid { invocations := [.of method account tag arguments] } :=
  valid_of_allReference (List.cons_ne_nil _ _) (by simp)
    (allReference_cons.2 ⟨references_of_plain plain, allReference_nil⟩)

theorem valid_two {first second : Invocation} (zero : first.tag = "0") (one : second.tag = "1")
    (own : References [] first) (next : References [first] second) :
    Valid { invocations := [first, second] } :=
  valid_of_allReference (List.cons_ne_nil _ _) (by simp [zero, one])
    (allReference_pair own next)

end Batch

end Jmap
