import Jmap.Proofs.Distinct
import Jmap.Request

namespace Jmap

open Json

theorem Method.mem_companions_iff {method companion : Method} :
    companion ∈ method.companions ↔ companion.isCompanionOf method = true := by
  simp [companions, isCompanionOf]

/-- A reference points at an earlier invocation of the method it names, by a path that
starts at the root. -/
structure ResultReference.PointsAt (reference : ResultReference) (earlier : List Invocation) :
    Prop where
  target : ∃ target ∈ earlier, target.tag = reference.resultOf ∧ target.method = reference.name
  rooted : ∃ rest, reference.path = "/" ++ rest

namespace Batch

/-- A value stands for an argument that is not there itself, and refers to the result of
an earlier invocation. -/
structure Refers (earlier : List Invocation) (invocation : Invocation) (plain : String)
    (value : Json) : Prop where
  absent : invocation.arguments.contains plain = false
  reference : ∃ reference, read? ResultReference value = .ok reference ∧
    reference.PointsAt earlier

def References (earlier : List Invocation) (invocation : Invocation) : Prop :=
  ∀ plain value, invocation.arguments.find? ("#" ++ plain) = some value →
    Refers earlier invocation plain value

structure Valid (batch : Batch) : Prop where
  nonempty : batch.invocations ≠ []
  bounded : ∀ most, batch.maxCalls = some most → batch.invocations.length ≤ most.toNat
  distinct : (batch.invocations.map (·.tag)).Nodup
  references : ∀ earlier invocation later,
    batch.invocations = earlier ++ invocation :: later → References earlier invocation

def TooLong (batch : Batch) : Prop :=
  batch.invocations ≠ [] ∧
    ∃ most, batch.maxCalls = some most ∧ most.toNat < batch.invocations.length

def Needs (batch : Batch) (capability : Capability) : Prop :=
  ∃ invocation ∈ batch.invocations, capability = invocation.method.capability ∨
    ∃ companion : Method, companion.isCompanionOf invocation.method = true ∧
      capability = companion.capability

variable {batch : Batch} {earlier invocations : List Invocation}
  {invocation target : Invocation} {reference : ResultReference} {tag key plain : String}
  {value : Json}

theorem eq_append_iff {text head rest : String} :
    text = head ++ rest ↔ text.toList = head.toList ++ rest.toList := by
  rw [← String.toList_inj, String.toList_append]

theorem plainKey?_eq_some_iff : plainKey? key = some plain ↔ key = "#" ++ plain := by
  rw [eq_append_iff, plainKey?]
  split
  · rename_i rest begins
    rw [begins, Option.some.injEq, ← String.toList_inj, String.toList_ofList]
    exact ⟨fun same => by rw [same]; rfl, fun same => (List.cons.inj same).2⟩
  · rename_i other
    simp only [reduceCtorEq, false_iff]
    exact fun same => other plain.toList same

theorem head?_path_iff {path : String} :
    path.toList.head? = some '/' ↔ ∃ rest, path = "/" ++ rest := by
  simp only [eq_append_iff]
  constructor
  · intro slash
    obtain ⟨rest, begins⟩ := List.head?_eq_some_iff.1 slash
    exact ⟨String.ofList rest, by simpa using begins⟩
  · intro rooted
    obtain ⟨rest, begins⟩ := rooted
    rw [begins]
    rfl

theorem mem_of_underTag? (found : underTag? tag earlier = some target) :
    target ∈ earlier ∧ target.tag = tag :=
  ⟨List.mem_of_find?_eq_some found, by simpa using List.find?_some found⟩

theorem underTag?_eq_some_iff (distinct : (earlier.map (·.tag)).Nodup) :
    underTag? tag earlier = some target ↔ target ∈ earlier ∧ target.tag = tag := by
  refine ⟨mem_of_underTag?, ?_⟩
  intro under
  obtain ⟨member, rfl⟩ := under
  exact Distinct.find?_eq distinct member (fun _ => beq_iff_eq)

theorem underTag?_isSome_iff :
    (underTag? tag earlier).isSome = true ↔ tag ∈ earlier.map (·.tag) := by
  simp [underTag?]

theorem checkReference_eq_ok_iff (distinct : (earlier.map (·.tag)).Nodup) :
    checkReference earlier tag reference = .ok () ↔ reference.PointsAt earlier := by
  rw [checkReference]
  split
  · rename_i unknown
    simp only [reduceCtorEq, false_iff]
    intro points
    obtain ⟨⟨target, member, sameTag, -⟩, -⟩ := points
    rw [(underTag?_eq_some_iff distinct).2 ⟨member, sameTag⟩] at unknown
    cases unknown
  · rename_i target found
    have unique {other : Invocation} (member : other ∈ earlier)
        (sameTag : other.tag = reference.resultOf) : target = other := by
      rw [(underTag?_eq_some_iff distinct).2 ⟨member, sameTag⟩] at found
      exact (Option.some.inj found).symm
    obtain ⟨member, sameTag⟩ := mem_of_underTag? found
    split
    · rename_i sameMethod
      split
      · rename_i slash
        exact ⟨fun _ => ⟨⟨target, member, sameTag, sameMethod⟩, head?_path_iff.1 slash⟩,
          fun _ => rfl⟩
      · rename_i noSlash
        simp only [reduceCtorEq, false_iff]
        exact fun points => noSlash (head?_path_iff.2 points.rooted)
    · rename_i otherMethod
      simp only [reduceCtorEq, false_iff]
      intro points
      obtain ⟨⟨other, otherMember, otherTag, method⟩, -⟩ := points
      rw [unique otherMember otherTag] at otherMethod
      exact otherMethod method

theorem checkArgument_eq_ok_iff (distinct : (earlier.map (·.tag)).Nodup) :
    checkArgument earlier invocation (key, value) = .ok () ↔
      ∀ plain, key = "#" ++ plain → Refers earlier invocation plain value := by
  simp only [← plainKey?_eq_some_iff]
  rw [checkArgument]
  cases plainKey? key with
  | none => simp
  | some plain =>
    simp only [Option.some.injEq, forall_eq']
    split
    · rename_i present
      simp only [reduceCtorEq, false_iff]
      intro refers
      rw [refers.absent] at present
      cases present
    · rename_i absent
      have absent : invocation.arguments.contains plain = false := by simpa using absent
      split
      · rename_i malformed
        simp only [reduceCtorEq, false_iff]
        intro refers
        obtain ⟨-, reference, reads, -⟩ := refers
        cases malformed.symm.trans reads
      · rename_i reference reads
        rw [checkReference_eq_ok_iff distinct]
        constructor
        · exact fun points => ⟨absent, reference, reads, points⟩
        · intro refers
          obtain ⟨-, other, otherReads, points⟩ := refers
          cases reads.symm.trans otherReads
          exact points

/-! All references of an invocation, and all invocations of a batch. -/

private theorem bind_eq_ok_iff {ε : Type} {first second : Except ε Unit} :
    (first >>= fun _ => second) = .ok () ↔ first = .ok () ∧ second = .ok () := by
  cases first with
  | error problem => simp [bind, Except.bind]
  | ok _ => simp [bind, Except.bind]

theorem checkArguments_eq_ok_iff {arguments : List (String × Json)} :
    checkArguments earlier invocation arguments = .ok () ↔
      ∀ argument ∈ arguments, checkArgument earlier invocation argument = .ok () := by
  induction arguments with
  | nil => simp [checkArguments]
  | cons argument arguments ih =>
    rw [checkArguments, bind_eq_ok_iff, ih, List.forall_mem_cons]

theorem checkArguments_entries_iff (distinct : (earlier.map (·.tag)).Nodup) :
    checkArguments earlier invocation invocation.arguments.entries = .ok () ↔
      References earlier invocation := by
  rw [checkArguments_eq_ok_iff]
  constructor
  · intro all plain value found
    have checked := all _ (Dict.find?_eq_some_iff.1 found)
    exact (checkArgument_eq_ok_iff distinct).1 checked plain rfl
  · intro refers argument member
    obtain ⟨key, value⟩ := argument
    apply (checkArgument_eq_ok_iff distinct).2
    intro plain same
    subst same
    exact refers plain value (Dict.find?_eq_some_iff.2 member)

def AllReference (earlier invocations : List Invocation) : Prop :=
  ∀ before invocation later, invocations = before ++ invocation :: later →
    References (earlier ++ before) invocation

theorem allReference_cons :
    AllReference earlier (invocation :: invocations) ↔
      References earlier invocation ∧ AllReference (earlier ++ [invocation]) invocations := by
  constructor
  · intro all
    refine ⟨by simpa using all [] invocation invocations rfl, ?_⟩
    intro before another later split
    subst split
    simpa using all (invocation :: before) another later rfl
  · intro both before another later split
    obtain ⟨first, rest⟩ := both
    cases before with
    | nil =>
      cases split
      simpa using first
    | cons head before =>
      cases split
      simpa using rest before another later rfl

theorem checkInvocations_eq_ok_iff (distinct : (earlier.map (·.tag)).Nodup) :
    checkInvocations earlier invocations = .ok () ↔
      ((earlier ++ invocations).map (·.tag)).Nodup ∧ AllReference earlier invocations := by
  -- The earlier invocations grow by one at each step; their tags stay distinct.
  induction invocations generalizing earlier with
  | nil => simpa [checkInvocations, AllReference] using distinct
  | cons invocation invocations ih =>
    rw [checkInvocations, bind_eq_ok_iff, checkArguments_entries_iff distinct, allReference_cons]
    split
    · rename_i repeated
      have member := underTag?_isSome_iff.1 repeated
      simp only [reduceCtorEq, and_false, false_iff]
      intro accepted
      obtain ⟨allDistinct, -⟩ := accepted
      rw [List.map_append, List.nodup_append] at allDistinct
      exact allDistinct.2.2 invocation.tag member invocation.tag (by simp) rfl
    · rename_i fresh
      have extended : ((earlier ++ [invocation]).map (·.tag)).Nodup :=
        Distinct.map_append_one.2 ⟨distinct, mt underTag?_isSome_iff.2 fresh⟩
      rw [ih extended, List.append_assoc, List.singleton_append]
      constructor
      · intro checked
        obtain ⟨refers, allDistinct, rest⟩ := checked
        exact ⟨allDistinct, refers, rest⟩
      · intro accepted
        obtain ⟨allDistinct, refers, rest⟩ := accepted
        exact ⟨refers, allDistinct, rest⟩

theorem uses_eq_true_iff {capability : Capability} :
    uses invocation capability = true ↔
      capability = invocation.method.capability ∨
        ∃ companion : Method, companion.isCompanionOf invocation.method = true ∧
          capability = companion.capability := by
  have flipped (other : Capability) : other = capability ↔ capability = other := eq_comm
  simp only [uses, Bool.or_eq_true, beq_iff_eq, List.any_eq_true, Method.mem_companions_iff,
    flipped]

theorem mem_capabilities_iff {capability : Capability} :
    capability ∈ capabilities batch.invocations ↔ capability = .core ∨ batch.Needs capability := by
  simp [capabilities, Capability.mem_all, Needs, uses_eq_true_iff]

theorem capabilities_increasing : (capabilities invocations).Pairwise (· < ·) := by
  have listed : Capability.all.Pairwise (· < ·) := by decide
  exact listed.filter _

theorem head?_capabilities : (capabilities invocations).head? = some .core := by
  rw [capabilities, Capability.all, List.filter_cons_of_pos (by simp)]
  rfl

theorem valid_iff_checked :
    batch.Valid ↔ batch.invocations ≠ [] ∧ ¬batch.TooLong ∧
      checkInvocations [] batch.invocations = .ok () := by
  have nothing : (([] : List Invocation).map (·.tag)).Nodup := List.nodup_nil
  rw [checkInvocations_eq_ok_iff nothing]
  constructor
  · intro valid
    refine ⟨valid.nonempty, ?_, by simpa using valid.distinct, ?_⟩
    · intro tooLong
      obtain ⟨-, most, bound, long⟩ := tooLong
      exact Nat.not_lt.2 (valid.bounded most bound) long
    · intro before invocation later split
      simpa using valid.references before invocation later split
  · intro checks
    obtain ⟨nonempty, short, distinct, all⟩ := checks
    refine ⟨nonempty, ?_, by simpa using distinct, ?_⟩
    · intro most bound
      apply Nat.not_lt.1
      intro long
      exact short ⟨nonempty, most, bound, long⟩
    · intro before invocation later split
      simpa using all before invocation later split

theorem build_cases (batch : Batch) (nonempty : batch.invocations ≠ []) :
    (∃ most, batch.TooLong ∧
      batch.build = .error (.tooManyCalls batch.invocations.length most)) ∨
    (¬batch.TooLong ∧ ∃ problem, checkInvocations [] batch.invocations = .error problem ∧
      batch.build = .error (.invalidRequest problem)) ∨
    (¬batch.TooLong ∧ checkInvocations [] batch.invocations = .ok () ∧
      batch.build = .ok
        { capabilities := capabilities batch.invocations, invocations := batch.invocations,
          createdIds := batch.createdIds }) := by
  have notEmpty : batch.invocations.isEmpty = false := by simpa using nonempty
  rw [build, notEmpty]
  by_cases long : batch.TooLong
  · obtain ⟨-, most, bound, more⟩ := long
    left
    refine ⟨most, ⟨nonempty, most, bound, more⟩, ?_⟩
    simp [bound, more]
  · right
    have reached : ∀ most, batch.maxCalls = some most → ¬most.toNat < batch.invocations.length :=
      fun most bound more => long ⟨nonempty, most, bound, more⟩
    cases checked : checkInvocations [] batch.invocations with
    | error problem =>
      left
      refine ⟨long, problem, rfl, ?_⟩
      cases bound : batch.maxCalls with
      | none => rfl
      | some most => simp [reached most bound]
    | ok _ =>
      right
      refine ⟨long, rfl, ?_⟩
      cases bound : batch.maxCalls with
      | none => rfl
      | some most => simp [reached most bound]

theorem build_of_valid (valid : batch.Valid) :
    batch.build = .ok
      { capabilities := capabilities batch.invocations, invocations := batch.invocations,
        createdIds := batch.createdIds } := by
  obtain ⟨nonempty, short, checked⟩ := valid_iff_checked.1 valid
  rcases build_cases batch nonempty with ⟨-, long, -⟩ | ⟨-, problem, refused, -⟩ | ⟨-, -, built⟩
  · exact absurd long short
  · cases checked.symm.trans refused
  · exact built

theorem valid_of_build {request : Request} (built : batch.build = .ok request) : batch.Valid := by
  by_cases empty : batch.invocations = []
  · rw [build, empty] at built
    cases built
  · rcases build_cases batch empty with
      ⟨most, -, tooMany⟩ | ⟨-, problem, -, refused⟩ | ⟨short, checked, -⟩
    · cases built.symm.trans tooMany
    · cases built.symm.trans refused
    · exact valid_iff_checked.2 ⟨empty, short, checked⟩

theorem build_eq_ok_iff {request : Request} :
    batch.build = .ok request ↔ batch.Valid ∧ request =
      { capabilities := capabilities batch.invocations, invocations := batch.invocations,
        createdIds := batch.createdIds } := by
  constructor
  · intro built
    have valid := valid_of_build built
    exact ⟨valid, Except.ok.inj (built.symm.trans (build_of_valid valid))⟩
  · intro both
    obtain ⟨valid, rfl⟩ := both
    exact build_of_valid valid

theorem distinct_of_build {request : Request} (built : batch.build = .ok request) :
    (request.invocations.map (·.tag)).Nodup := by
  obtain ⟨valid, rfl⟩ := build_eq_ok_iff.1 built
  exact valid.distinct

theorem code_of_build {error : JmapError} (refused : batch.build = .error error) :
    (batch.TooLong ∧ error.code = .tooManyMethodCalls) ∨
      (¬batch.TooLong ∧ error.code = .invalidRequestPayload) := by
  by_cases empty : batch.invocations = []
  · rw [build, empty] at refused
    cases refused
    exact .inr ⟨fun long => long.1 empty, rfl⟩
  · rcases build_cases batch empty with
      ⟨most, long, tooMany⟩ | ⟨short, problem, -, malformed⟩ | ⟨-, -, built⟩
    · cases refused.symm.trans tooMany
      exact .inl ⟨long, rfl⟩
    · cases refused.symm.trans malformed
      exact .inr ⟨short, rfl⟩
    · cases refused.symm.trans built

/-- A batch becomes a request if and only if it is valid. The request has the invocations
and the created ids of the batch, and declares the core and the capabilities that the
batch needs, each once and in order. The code of a refusal tells a batch that is too long
from all others. -/
theorem build_accepts_valid (batch : Batch) :
    ((∃ request, batch.build = .ok request) ↔ batch.Valid) ∧
    (∀ request, batch.build = .ok request →
      request.invocations = batch.invocations ∧ request.createdIds = batch.createdIds ∧
      request.capabilities.Pairwise (· < ·) ∧ request.capabilities.head? = some .core ∧
      ∀ capability, capability ∈ request.capabilities ↔
        capability = .core ∨ batch.Needs capability) ∧
    ∀ error, batch.build = .error error →
      (error.code = .tooManyMethodCalls ↔ batch.TooLong) ∧
      (¬batch.TooLong → error.code = .invalidRequestPayload) := by
  refine ⟨⟨?_, ?_⟩, ?_, ?_⟩
  · intro accepted
    obtain ⟨request, built⟩ := accepted
    exact valid_of_build built
  · intro valid
    exact ⟨_, build_of_valid valid⟩
  · intro request built
    obtain ⟨-, rfl⟩ := build_eq_ok_iff.1 built
    exact ⟨rfl, rfl, capabilities_increasing, head?_capabilities,
      fun capability => mem_capabilities_iff⟩
  · intro error refused
    rcases code_of_build refused with ⟨long, code⟩ | ⟨short, code⟩
    · exact ⟨⟨fun _ => long, fun _ => code⟩, fun short => absurd long short⟩
    · refine ⟨⟨fun other => ?_, fun long => absurd long short⟩, fun _ => code⟩
      rw [code] at other
      cases other

end Batch

end Jmap
