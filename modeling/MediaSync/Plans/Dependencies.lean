import MediaSync.Plans.Sealing
import Mathlib.Data.List.Dedup

/-! `_validate_dependencies` rejects unknown ends, self edges and cycles. -/
namespace MediaSync.Plans
open Text DepthFirst

structure ValidDependencies (operations : List PlanOperation)
    (dependencies : List PlanDependency) : Prop where
  known : ∀ dependency ∈ dependencies,
    dependency.beforeOperationId ∈ operations.map PlanOperation.operationId ∧
      dependency.afterOperationId ∈ operations.map PlanOperation.operationId
  noSelfEdge : ∀ dependency ∈ dependencies,
    dependency.beforeOperationId ≠ dependency.afterOperationId
  acyclic : Acyclic (dependents dependencies)

/-- `seal_plan` accepts the request. -/
def Sealable (interpreter : Interpreter) (request : PlanRequest) : Prop :=
  ∃ plan, sealPlan interpreter request = .ok plan

def PlanRequest.withoutDependencies (request : PlanRequest) : PlanRequest :=
  { request with dependencies := [] }

theorem map_bindSingleTargetOperations {β : Type} (f : PlanOperation → β)
    (hf : ∀ operation target, f { operation with targetEndpointId := target } = f operation)
    (operations : List PlanOperation) (endpoints : List PlanEndpoint) :
    (bindSingleTargetOperations operations endpoints).map f = operations.map f := by
  unfold bindSingleTargetOperations
  split
  · rw [List.map_map]
    refine List.map_congr_left fun operation _ => ?_
    simp only [Function.comp_apply]
    split
    · rfl
    · exact hf operation _
  · rfl

variable {request : PlanRequest}

theorem mem_orderedOperations_ids {operationId : String} :
    operationId ∈ request.orderedOperations.map PlanOperation.operationId ↔
      operationId ∈ request.operations.map PlanOperation.operationId := by
  have hperm := ((List.perm_insertionSort operationOrder
    (bindSingleTargetOperations request.operations request.orderedEndpoints)).map
      PlanOperation.operationId).mem_iff (a := operationId)
  rw [map_bindSingleTargetOperations PlanOperation.operationId fun _ _ => rfl] at hperm
  exact hperm

theorem mem_orderedDependencies {dependency : PlanDependency} :
    dependency ∈ request.orderedDependencies ↔ dependency ∈ request.dependencies :=
  List.mem_insertionSort dependencyOrder

section
variable {interpreter : Interpreter} {request : PlanRequest}

theorem mem_iterate_dependents (sets : SetOrder) (before after : String) :
    after ∈ sets.iterate (dependents request.orderedDependencies before) ↔
      after ∈ dependents request.dependencies before := by
  rw [sets.mem_iff, mem_dependents, mem_dependents, mem_orderedDependencies]

theorem validateDependencies_request :
    validateDependencies interpreter request.orderedOperations request.orderedDependencies =
        .ok () ↔
      (∀ dependency ∈ request.dependencies,
        dependency.beforeOperationId ≠ dependency.afterOperationId ∧
        dependency.beforeOperationId ∈ request.operations.map PlanOperation.operationId ∧
        dependency.afterOperationId ∈ request.operations.map PlanOperation.operationId) ∧
      ∃ marks, rejectCycles interpreter.frames
        (interpreter.sets.iterate (request.orderedOperations.map PlanOperation.operationId))
        (fun operationId =>
          interpreter.sets.iterate (dependents request.orderedDependencies operationId))
        "PLAN_DEPENDENCIES_MUST_BE_ACYCLIC" = .ok marks := by
  simp only [validateDependencies_eq_ok, mem_orderedOperations_ids, mem_orderedDependencies]

theorem ValidDependencies.of_validateDependencies
    (h : validateDependencies interpreter request.orderedOperations request.orderedDependencies =
      .ok ()) : ValidDependencies request.operations request.dependencies := by
  obtain ⟨hends, marks, hmarks⟩ := validateDependencies_request.mp h
  refine ⟨fun dependency hmem => (hends dependency hmem).2,
    fun dependency hmem => (hends dependency hmem).1, ?_⟩
  refine (Acyclic.congr (mem_iterate_dependents interpreter.sets)).mp
    (Acyclic.of_rejectCycles (fun before after hafter => ?_) hmarks)
  have hedge := (mem_iterate_dependents interpreter.sets before after).mp hafter
  have hmem : (⟨before, after⟩ : PlanDependency) ∈ request.dependencies := mem_dependents.mp hedge
  exact interpreter.sets.mem_iff.mpr (mem_orderedOperations_ids.mpr (hends _ hmem).2.1)

theorem validateDependencies_of_valid
    (h : ValidDependencies request.operations request.dependencies)
    (hshallow : Shallow (dependents request.dependencies) interpreter.frames) :
    validateDependencies interpreter request.orderedOperations request.orderedDependencies =
      .ok () :=
  validateDependencies_request.mpr
    ⟨fun dependency hmem => ⟨h.noSelfEdge dependency hmem, h.known dependency hmem⟩,
      rejectCycles_of_acyclic
        ((Acyclic.congr (mem_iterate_dependents interpreter.sets)).mpr h.acyclic)
        ((Shallow.congr (mem_iterate_dependents interpreter.sets)).mpr hshallow)⟩

/-- The checks that do not concern dependencies. -/
def OtherwiseValid (library : PythonLibrary) (request : PlanRequest) : Prop :=
  validatePlanIdentity request = .ok () ∧ validateEndpoints request.orderedEndpoints = .ok () ∧
    validateOperations library request.orderedOperations request.orderedEndpoints = .ok ()

theorem sealable_iff :
    Sealable interpreter request ↔ OtherwiseValid interpreter.library request ∧
      validateDependencies interpreter request.orderedOperations request.orderedDependencies =
        .ok () := by
  simp only [Sealable, sealPlan_eq_ok, OtherwiseValid]
  constructor
  · rintro ⟨plan, hidentity, hendpoints, hoperations, hdependencies, -⟩
    exact ⟨⟨hidentity, hendpoints, hoperations⟩, hdependencies⟩
  · rintro ⟨⟨hidentity, hendpoints, hoperations⟩, hdependencies⟩
    exact ⟨_, hidentity, hendpoints, hoperations, hdependencies, rfl⟩

theorem one_le_frames (hother : OtherwiseValid interpreter.library request)
    (h : validateDependencies interpreter request.orderedOperations request.orderedDependencies =
      .ok ()) : 1 ≤ interpreter.frames := by
  obtain ⟨-, marks, hmarks⟩ := validateDependencies_request.mp h
  by_contra hframes
  have hzero : interpreter.frames = 0 := by omega
  obtain ⟨hnonempty, -⟩ := validateOperations_eq_ok.mp hother.2.2
  obtain ⟨operation, hoperation⟩ := List.exists_mem_of_ne_nil _ hnonempty
  have hid : operation.operationId ∈
      interpreter.sets.iterate (request.orderedOperations.map PlanOperation.operationId) :=
    interpreter.sets.mem_iff.mpr (List.mem_map_of_mem hoperation)
  obtain ⟨first, rest, hfirst⟩ := List.exists_cons_of_ne_nil (List.ne_nil_of_mem hid)
  rw [hfirst, hzero] at hmarks
  cases hmarks

theorem sealable_withoutDependencies_iff :
    Sealable interpreter request.withoutDependencies ↔
      OtherwiseValid interpreter.library request ∧ 1 ≤ interpreter.frames := by
  rw [sealable_iff]
  refine and_congr_right fun hother => ⟨fun h => ?_, fun hframes => ?_⟩
  · have hwithout : OtherwiseValid interpreter.library request.withoutDependencies := hother
    exact one_le_frames hwithout h
  refine validateDependencies_of_valid ⟨?_, ?_, ?_⟩ fun path hpath => ?_
  iterate 2 exact fun _ hmem => absurd hmem List.not_mem_nil
  · exact Acyclic.of_rank (fun _ => 0) fun _ _ hmem => absurd hmem List.not_mem_nil
  · match path, hpath with
    | [], _ => exact Nat.zero_le _
    | [_], _ => exact hframes
    | first :: second :: rest, hpath =>
      exact absurd (List.isChain_cons_cons.mp hpath).1 List.not_mem_nil

theorem sealPlan_of_valid (hsealable : Sealable interpreter request.withoutDependencies)
    (h : ValidDependencies request.operations request.dependencies)
    (hshallow : Shallow (dependents request.dependencies) interpreter.frames) :
    Sealable interpreter request :=
  sealable_iff.mpr ⟨(sealable_withoutDependencies_iff.mp hsealable).1,
    validateDependencies_of_valid h hshallow⟩

theorem ValidDependencies.of_sealPlan (h : Sealable interpreter request) :
    ValidDependencies request.operations request.dependencies :=
  .of_validateDependencies (sealable_iff.mp h).2

theorem Sealable.withoutDependencies (h : Sealable interpreter request) :
    Sealable interpreter request.withoutDependencies :=
  have ⟨hother, hdependencies⟩ := sealable_iff.mp h
  sealable_withoutDependencies_iff.mpr ⟨hother, one_le_frames hother hdependencies⟩

end

def following (path : List String) (hpath : path.Nodup) : SetOrder where
  iterate texts := path.filter (· ∈ texts) ++ texts.dedup.filter (· ∉ path)
  nodup texts := by
    refine List.Nodup.append (hpath.filter _) ((List.nodup_dedup texts).filter _) ?_
    intro text hleft hright
    exact of_decide_eq_true (List.mem_filter.mp hright).2 (List.mem_filter.mp hleft).1
  mem_iff {texts text} := by
    simp only [List.mem_append, List.mem_filter, decide_eq_true_eq, List.mem_dedup]
    tauto

variable {dependencies : List PlanDependency}

theorem head_following {before rest : List String} {node next : String}
    (hacyclic : Acyclic (dependents dependencies))
    (hpath : IsPath (dependents dependencies) (before ++ node :: next :: rest))
    (hnodup : (before ++ node :: next :: rest).Nodup) {texts : List String}
    (htexts : ∀ text, text ∈ texts ↔ text ∈ dependents dependencies node) :
    ((following _ hnodup).iterate texts).head? = some next := by
  have hreaches := List.pairwise_append.mp hpath.pairwise
  have hnext : next ∈ dependents dependencies node :=
    (List.isChain_append_cons_cons.mp hpath).2.1
  have hbefore : before.filter (· ∈ texts) = [] := by
    refine List.filter_eq_nil_iff.mpr fun text htext hmem => ?_
    have hback := (htexts text).mp (of_decide_eq_true hmem)
    exact hacyclic text ((hreaches.2.2 text htext node List.mem_cons_self).tail hback)
  have hself : node ∉ texts := fun hmem =>
    hacyclic node (.single ((htexts node).mp hmem))
  simp only [following, List.filter_append, hbefore, List.nil_append]
  rw [List.filter_cons_of_neg (by simpa using hself),
    List.filter_cons_of_pos (by simpa using (htexts next).mpr hnext)]
  rfl

variable {path : List String}

theorem isChain_head_following {dependencies sorted : List PlanDependency}
    (hacyclic : Acyclic (dependents dependencies)) (hpath : IsPath (dependents dependencies) path)
    (hnodup : path.Nodup) (hsorted : ∀ before after,
      after ∈ dependents sorted before ↔ after ∈ dependents dependencies before) :
    path.IsChain fun a b =>
      ((following path hnodup).iterate (dependents sorted a)).head? = some b := by
  refine List.isChain_iff_forall_rel_of_append_cons_cons.mpr fun node next before rest hsplit => ?_
  subst hsplit
  exact head_following hacyclic hpath hnodup fun text => hsorted node text

theorem nodup_of_isPath (hacyclic : Acyclic (dependents dependencies))
    (hpath : IsPath (dependents dependencies) path) : path.Nodup :=
  hpath.pairwise.imp fun hreach => fun heq => hacyclic _ (heq ▸ hreach)

theorem ValidDependencies.of_isPath {operations : List PlanOperation}
    (h : ValidDependencies operations dependencies) (hpath : IsPath (dependents dependencies) path)
    (hlong : 2 ≤ path.length) : ∀ node ∈ path, node ∈ operations.map PlanOperation.operationId := by
  induction path with
  | nil => exact fun _ hmem => absurd hmem List.not_mem_nil
  | cons first path ih =>
    cases path with
    | nil => exact absurd hlong (by rw [List.length_singleton]; decide)
    | cons second path =>
      obtain ⟨hedge, hrest⟩ := List.isChain_cons_cons.mp hpath
      have hends := h.known _ (mem_dependents.mp hedge)
      refine List.forall_mem_cons.mpr ⟨hends.1, ?_⟩
      cases path with
      | nil => exact fun node hnode => List.mem_singleton.mp hnode ▸ hends.2
      | cons third path => exact ih hrest (by rw [List.length_cons, List.length_cons]; omega)

theorem not_sealable_following {library : PythonLibrary} {frames : Nat}
    (h : ValidDependencies request.operations request.dependencies)
    (hpath : IsPath (dependents request.dependencies) path) (hlong : 2 ≤ path.length)
    (hframes : frames < path.length) :
    ¬ Sealable ⟨library, following path (nodup_of_isPath h.acyclic hpath), frames⟩ request := by
  intro hsealable
  obtain ⟨-, marks, hmarks⟩ := validateDependencies_request.mp (sealable_iff.mp hsealable).2
  obtain ⟨first, rest, rfl⟩ := List.exists_cons_of_length_pos (by omega : 0 < path.length)
  have hnodup := nodup_of_isPath h.acyclic hpath
  have hfirst : ∃ others, (following (first :: rest) hnodup).iterate
      (request.orderedOperations.map PlanOperation.operationId) = first :: others := by
    have hknown := mem_orderedOperations_ids.mpr
      (h.of_isPath hpath hlong first List.mem_cons_self)
    simp only [following]
    rw [List.filter_cons_of_pos (by simpa using hknown)]
    exact ⟨_, rfl⟩
  obtain ⟨others, hothers⟩ := hfirst
  have hchain : (first :: rest).IsChain fun a b => ((following (first :: rest) hnodup).iterate
      (dependents request.orderedDependencies a)).head? = some b :=
    isChain_head_following h.acyclic hpath hnodup fun before after => by
      rw [mem_dependents, mem_dependents, mem_orderedDependencies]
  obtain ⟨code, hraise⟩ : ∃ code, visit (fun operationId =>
      (following (first :: rest) hnodup).iterate
        (dependents request.orderedDependencies operationId))
      "PLAN_DEPENDENCIES_MUST_BE_ACYCLIC" frames {} first = .error code :=
    visit_follows frames first {} hnodup hchain
      (fun _ _ => ⟨List.not_mem_nil, List.not_mem_nil⟩)
      (by rw [List.length_cons] at hframes; omega)
  rw [hothers, rejectCycles, List.foldlM_cons, hraise] at hmarks
  cases hmarks

/-- Acceptance is validity, in every order of sets, exactly when the paths of valid dependencies
fit on the stack. -/
theorem sealable_iff_valid_iff (library : PythonLibrary) (frames : Nat) (request : PlanRequest) :
    (∀ sets, Sealable ⟨library, sets, frames⟩ request ↔
      Sealable ⟨library, sets, frames⟩ request.withoutDependencies ∧
        ValidDependencies request.operations request.dependencies) ↔
    ∀ sets, Sealable ⟨library, sets, frames⟩ request.withoutDependencies →
      ValidDependencies request.operations request.dependencies →
      Shallow (dependents request.dependencies) frames := by
  constructor
  · intro haccepts sets hwithout hvalid path hpath
    by_contra hlong
    obtain ⟨hother, hframes⟩ := sealable_withoutDependencies_iff.mp hwithout
    exact not_sealable_following hvalid hpath (by simp only at hframes; omega) (by omega)
      ((haccepts _).mpr ⟨sealable_withoutDependencies_iff.mpr ⟨hother, hframes⟩, hvalid⟩)
  · exact fun hshallow sets => ⟨fun h => ⟨h.withoutDependencies, .of_sealPlan h⟩,
      fun ⟨hwithout, hvalid⟩ => sealPlan_of_valid hwithout hvalid (hshallow sets hwithout hvalid)⟩

def lineId (k : Nat) : String := String.ofList (List.replicate (k + 1) 'o')

def lineOperation (k : Nat) : PlanOperation where
  operationId := lineId k
  operationType := .skipIdentical
  sequenceNo := k
  executionPhase := 0
  stableOrderKey := "line"
  targetPreconditionKind := .none
  reasonCode := "IDENTICAL"
  riskLevel := .low

def lineOf (length : Nat) : PlanRequest where
  planId := "plan"
  analysisId := "analysis"
  jobId := "job"
  jobRevisionId := "revision"
  operations := (List.range length).map lineOperation
  dependencies := (List.range (length - 1)).map fun k => ⟨lineId k, lineId (k + 1)⟩

theorem length_lineId (k : Nat) : (lineId k).toList.length = k + 1 := by
  rw [lineId, String.toList_ofList, List.length_replicate]

theorem lineId_injective : Function.Injective lineId := by
  intro a b h
  have hlength := congrArg (fun text => text.toList.length) h
  simp only [length_lineId] at hlength
  omega

theorem mem_dependents_lineOf {length : Nat} {before after : String} :
    after ∈ dependents (lineOf length).dependencies before ↔
      ∃ k < length - 1, lineId k = before ∧ lineId (k + 1) = after := by
  simp [mem_dependents, lineOf]

theorem otherwiseValid_lineOf (library : PythonLibrary) {length : Nat} (h : 0 < length) :
    OtherwiseValid library (lineOf length) := by
  have hidentity : validatePlanIdentity (lineOf length) = .ok () := by
    simp only [validatePlanIdentity, unit_bind_eq_ok, check_eq_ok, lineOf]
    decide
  refine ⟨hidentity, rfl, validateOperations_eq_ok.mpr ?_⟩
  have hperm : (lineOf length).orderedOperations.Perm ((List.range length).map lineOperation) :=
    List.perm_insertionSort operationOrder _
  refine ⟨fun hempty => ?_, fun operation hmem => ?_, ?_, ?_⟩
  · have hlength := hperm.length_eq
    rw [hempty, List.length_map, List.length_range] at hlength
    exact absurd hlength.symm (by simpa using h.ne')
  · obtain ⟨k, -, rfl⟩ := List.mem_map.mp (hperm.mem_iff.mp hmem)
    refine ⟨?_, Int.natCast_nonneg k, Int.le_refl 0, (by decide : nonBlank "line" = true),
      (by decide : nonBlank "IDENTICAL" = true), Int.le_refl 0, rfl, rfl, rfl, rfl⟩
    show nonBlank (lineId k) = true
    rw [nonBlank, lineId, String.toList_ofList, List.replicate_succ, List.any_cons]
    rfl
  · refine (hperm.map _).nodup_iff.mpr ?_
    rw [List.map_map]
    exact List.Nodup.map lineId_injective List.nodup_range
  · refine (hperm.map _).nodup_iff.mpr ?_
    rw [List.map_map]
    exact List.Nodup.map (fun a b h => Int.ofNat_inj.mp h) List.nodup_range

theorem validDependencies_lineOf (length : Nat) :
    ValidDependencies (lineOf length).operations (lineOf length).dependencies := by
  have hknown : ∀ k < length,
      lineId k ∈ (lineOf length).operations.map PlanOperation.operationId := by
    intro k hk
    rw [lineOf, List.map_map]
    exact List.mem_map_of_mem (List.mem_range.mpr hk)
  refine ⟨fun dependency hmem => ?_, fun dependency hmem => ?_, ?_⟩
  · obtain ⟨k, hk, rfl⟩ := List.mem_map.mp hmem
    have hk := List.mem_range.mp hk
    exact ⟨hknown k (by omega), hknown (k + 1) (by omega)⟩
  · obtain ⟨k, -, rfl⟩ := List.mem_map.mp hmem
    exact fun heq => absurd (lineId_injective heq) (Nat.ne_of_lt (Nat.lt_succ_self k))
  · refine Acyclic.of_rank (fun text => text.toList.length) fun before after hedge => ?_
    obtain ⟨k, -, rfl, rfl⟩ := mem_dependents_lineOf.mp hedge
    rw [length_lineId, length_lineId]
    exact Nat.lt_succ_self _

theorem isPath_lineOf (length : Nat) :
    IsPath (dependents (lineOf length).dependencies) ((List.range length).map lineId) := by
  refine List.isChain_iff_getElem.mpr fun k hk => ?_
  simp only [List.length_map, List.length_range] at hk
  simp only [List.getElem_map, List.getElem_range]
  exact mem_dependents_lineOf.mpr ⟨k, by omega, rfl, rfl⟩

theorem lineOf_sealable {sets : SetOrder} {length frames : Nat} (h : 0 < length)
    (hframes : 1 ≤ frames) :
    Sealable ⟨⟨fun _ => none, fun _ => false⟩, sets, frames⟩ (lineOf length).withoutDependencies :=
  sealable_withoutDependencies_iff.mpr ⟨otherwiseValid_lineOf _ h, hframes⟩

/-- A line of 1001 operations on a stack of 1000 calls: valid, and rejected. -/
theorem line_rejected : ∃ sets, ¬ (Sealable ⟨⟨fun _ => none, fun _ => false⟩, sets, 1000⟩
      (lineOf 1001) ↔
    Sealable ⟨⟨fun _ => none, fun _ => false⟩, sets, 1000⟩ (lineOf 1001).withoutDependencies ∧
      ValidDependencies (lineOf 1001).operations (lineOf 1001).dependencies) := by
  have hlong : ((List.range 1001).map lineId).length = 1001 := by
    rw [List.length_map, List.length_range]
  have hvalid := validDependencies_lineOf 1001
  refine ⟨_, fun haccepts => not_sealable_following hvalid (isPath_lineOf 1001)
    (by rw [hlong]; decide) (by rw [hlong]; decide : 1000 < _) (haccepts.mpr ⟨?_, hvalid⟩)⟩
  exact lineOf_sealable (by decide) (by decide)

end MediaSync.Plans
