import MediaSync.Foundation.Worklist
import MediaSync.Plans.Sealing
import MediaSync.Runs.Tables
import Mathlib.Data.List.Dedup

/-! `_retry_operation_scope`: the operations of a finished run that are to be tried again are looked
up in a fresh plan, and the scope is completed with the operations that they depend on. -/
namespace MediaSync.Runs
open Text Plans

structure StartedRun where
  run : RunRow
  targets : List RunTargetRow

structure OperationAuditIdentity where
  runTargetId : String
  targetRelativePath : Option String

/-- `OperationAuditReadModelStore`: by run and operation, `none` when the read raises. -/
structure OperationAudits where
  identity : String → String → Option (Option OperationAuditIdentity)
  /-- The `final_state` of the outcome summary. -/
  finalState : String → String → Option (Option String)

section
variable (source : StartedRun) (sourcePlan freshPlan : SealedPlan) (audits : OperationAudits)
  (targetEndpointIds : List String)

/-- `source_targets.get(endpoint_id or "")`: the last target of an endpoint counts. -/
def sourceTarget (endpointId : Option String) : Option RunTargetRow :=
  source.targets.reverse.find? fun target => target.endpointId = endpointId.getD ""

def retryable (operationId runTargetId relativePath : String) : Except String Unit := do
  match audits.identity source.run.id operationId, audits.finalState source.run.id operationId with
  | some identity, some finalState => do
    check (identity.any fun row =>
        row.runTargetId = runTargetId && row.targetRelativePath = some relativePath)
      "RUN_RETRY_OPERATION_AUDIT_MISMATCH"
    check finalState.isSome "RUN_RETRY_OPERATION_OUTCOME_NOT_FOUND"
    check (finalState ≠ some "SUCCEEDED") "RUN_RETRY_OPERATION_ALREADY_SUCCEEDED"
    check (finalState.any ["SKIPPED", "CANCELLED", "RECOVERY_REQUIRED"].contains)
      "RUN_RETRY_OPERATION_NOT_RETRYABLE"
  | _, _ => .error "RUN_RETRY_OPERATION_AUDIT_UNAVAILABLE"

def freshMatches (endpointId relativePath : String) : List PlanOperation :=
  freshPlan.operations.filter fun operation =>
    operation.mutating && operation.targetEndpointId = some endpointId &&
      operation.targetRelativePath = some relativePath

def retriedOperation (sourceOperationId : String) : Except String String :=
  match sourcePlan.operations.find? (·.operationId = sourceOperationId) with
  | none => .error "RUN_RETRY_OPERATION_NOT_IN_SOURCE_PLAN"
  | some operation =>
    match operation.targetEndpointId, operation.targetRelativePath,
        sourceTarget source operation.targetEndpointId with
    | some endpointId, some relativePath, some target =>
      if !targetEndpointIds.contains endpointId then .error "RUN_RETRY_OPERATION_TARGET_MISMATCH"
      else do
        retryable source audits sourceOperationId target.id relativePath
        match freshMatches freshPlan endpointId relativePath with
        | [fresh] => return fresh.operationId
        | _ => .error "RUN_RETRY_OPERATION_NOT_IN_FRESH_PLAN"
    | _, _, _ => .error "RUN_RETRY_OPERATION_TARGET_MISMATCH"

end

section
variable (sets : SetOrder) (verifies : SealedPlan → Bool) (source : Option StartedRun)
  (freshPlan : SealedPlan) (plans : String → Option SealedPlan) (audits : Option OperationAudits)
  (targetEndpointIds sourceOperationIds : List String)

/-- The operations that are retried, or why the request is rejected before its scope is looked at;
`verifies` is `verify_plan_checksum`. -/
def retriedOperations : Except String (List String) :=
  match source, audits with
  | none, _ => .error "RUN_RETRY_SOURCE_NOT_FOUND"
  | some _, none => .error "RUN_RETRY_OPERATION_AUDIT_UNAVAILABLE"
  | some source, some audits =>
    match plans source.run.planId with
    | none => .error "RUN_RETRY_SOURCE_PLAN_INVALID"
    | some sourcePlan =>
      if sourcePlan.planChecksum ≠ source.run.planChecksum || !sourcePlan.immutable ||
          !verifies sourcePlan then .error "RUN_RETRY_SOURCE_PLAN_INVALID"
      else sourceOperationIds.mapM
        (retriedOperation source sourcePlan freshPlan audits targetEndpointIds)

/-- What an operation waits for, `dependency_map`. -/
def prerequisites (operationId : String) : List String :=
  sets.iterate ((freshPlan.dependencies.filter (·.afterOperationId = operationId)).map
    PlanDependency.beforeOperationId)

def mayRetry (operation : PlanOperation) : Bool :=
  operation.mutating && operation.targetEndpointId.any targetEndpointIds.contains

def closedScope (retried : List String) : Except String (List String) :=
  -- an operation of the plan is pending once at most, which bounds the turns
  match Worklist.close (prerequisites sets freshPlan) freshPlan.operations.length
      (sets.iterate retried).reverse (sets.iterate retried) with
  | none => .error "RUN_RETRY_OPERATION_SCOPE_OPEN"
  | some selected =>
    let operations := freshPlan.operations.filter fun operation =>
      selected.contains operation.operationId
    if operations.length ≠ selected.length then .error "RUN_RETRY_OPERATION_DEPENDENCY_NOT_FOUND"
    else if operations.any (fun operation => !mayRetry targetEndpointIds operation) then
      .error "RUN_RETRY_OPERATION_DEPENDENCY_INVALID"
    else .ok (operations.map PlanOperation.operationId)

def retryOperationScope : Except String (List String) :=
  if sourceOperationIds.isEmpty then .ok []
  else
    retriedOperations verifies source freshPlan plans audits targetEndpointIds
        sourceOperationIds >>= closedScope sets freshPlan targetEndpointIds

end

/-- The least set of operations with the retried ones that has all they depend on. -/
structure IsRetryScope (freshPlan : SealedPlan) (targetEndpointIds retried scope : List String) :
    Prop where
  covers : ∀ operationId ∈ retried, operationId ∈ scope
  closed : ∀ dependency ∈ freshPlan.dependencies,
    dependency.afterOperationId ∈ scope → dependency.beforeOperationId ∈ scope
  least : ∀ members : String → Prop, (∀ operationId ∈ retried, members operationId) →
    (∀ dependency ∈ freshPlan.dependencies,
      members dependency.afterOperationId → members dependency.beforeOperationId) →
    ∀ operationId ∈ scope, members operationId
  eligible : ∀ operation ∈ freshPlan.operations, operation.operationId ∈ scope →
    mayRetry targetEndpointIds operation = true
  ordered : scope = (freshPlan.operations.filter fun operation =>
    scope.contains operation.operationId).map PlanOperation.operationId

section
variable {sets : SetOrder} {freshPlan : SealedPlan} {targetEndpointIds retried : List String}

theorem mem_prerequisites {before after : String} :
    before ∈ prerequisites sets freshPlan after ↔ ⟨before, after⟩ ∈ freshPlan.dependencies := by
  rw [prerequisites, sets.mem_iff]
  simp only [List.mem_map, List.mem_filter, decide_eq_true_eq]
  constructor
  · rintro ⟨⟨_, _⟩, ⟨hmem, rfl⟩, rfl⟩
    exact hmem
  · exact fun hmem => ⟨_, ⟨hmem, rfl⟩, rfl⟩

theorem close_prerequisites (sets : SetOrder)
    (hretried : ∀ operationId ∈ retried,
      operationId ∈ freshPlan.operations.map PlanOperation.operationId) :
    ∃ selected, Worklist.close (prerequisites sets freshPlan) freshPlan.operations.length
        (sets.iterate retried).reverse (sets.iterate retried) = some selected ∧
      selected.Nodup ∧
      (∀ operationId ∈ selected,
        operationId ∈ freshPlan.operations.map PlanOperation.operationId) ∧
      (∀ operationId ∈ retried, operationId ∈ selected) ∧
      (∀ dependency ∈ freshPlan.dependencies,
        dependency.afterOperationId ∈ selected → dependency.beforeOperationId ∈ selected) ∧
      ∀ members : String → Prop, (∀ operationId ∈ retried, members operationId) →
        (∀ dependency ∈ freshPlan.dependencies,
          members dependency.afterOperationId → members dependency.beforeOperationId) →
        ∀ operationId ∈ selected, members operationId := by
  have hknown : ∀ operationId, ∀ required ∈ prerequisites sets freshPlan operationId,
      required ∈ freshPlan.operations.map PlanOperation.operationId :=
    fun operationId required hrequired =>
      (freshPlan.knownDependencies _ (mem_prerequisites.mp hrequired)).1
  obtain ⟨selected, hclose, hnodup, hselected, hkept, hclosed, hleast⟩ :=
    Worklist.close_spec hknown freshPlan.operations.length (sets.iterate retried).reverse
      (sets.iterate retried) (sets.nodup retried)
      (fun operationId hmem => hretried operationId (sets.mem_iff.mp hmem))
      (fun operationId hmem => List.mem_reverse.mp hmem)
      (fun operationId hmem hover => absurd (List.mem_reverse.mpr hmem) hover)
      (by rw [List.length_reverse, List.length_map]; omega)
  refine ⟨selected, hclose, hnodup, hselected,
    fun operationId hmem => hkept operationId (sets.mem_iff.mpr hmem),
    fun dependency hmem hafter => ?_, fun members hstart hmembers => ?_⟩
  · exact hclosed dependency.afterOperationId hafter dependency.beforeOperationId
      (mem_prerequisites.mpr hmem)
  · exact hleast members (fun operationId hmem => hstart operationId (sets.mem_iff.mp hmem))
      fun operationId hmem required hrequired => hmembers _ (mem_prerequisites.mp hrequired) hmem

theorem length_selected {selected : List String} (hnodup : selected.Nodup)
    (hselected : ∀ operationId ∈ selected,
      operationId ∈ freshPlan.operations.map PlanOperation.operationId) :
    ((freshPlan.operations.filter fun operation =>
      selected.contains operation.operationId).map PlanOperation.operationId).Perm selected := by
  refine (List.perm_ext_iff_of_nodup (freshPlan.uniqueIds.sublist
    (List.filter_sublist.map _)) hnodup).mpr fun operationId => ?_
  simp only [List.mem_map, List.mem_filter, List.contains_eq_mem, decide_eq_true_eq]
  constructor
  · rintro ⟨operation, ⟨-, hmem⟩, rfl⟩
    exact hmem
  · intro hmem
    obtain ⟨operation, hoperation, rfl⟩ := List.mem_map.mp (hselected operationId hmem)
    exact ⟨operation, ⟨hoperation, hmem⟩, rfl⟩

theorem closedScope_spec (sets : SetOrder) (targetEndpointIds : List String)
    (hretried : ∀ operationId ∈ retried,
      operationId ∈ freshPlan.operations.map PlanOperation.operationId) :
    (∃ scope, closedScope sets freshPlan targetEndpointIds retried = .ok scope ∧
      IsRetryScope freshPlan targetEndpointIds retried scope) ∨
    (∃ code, closedScope sets freshPlan targetEndpointIds retried = .error code) ∧
      ¬ ∃ members : String → Prop, (∀ operationId ∈ retried, members operationId) ∧
        (∀ dependency ∈ freshPlan.dependencies,
          members dependency.afterOperationId → members dependency.beforeOperationId) ∧
        ∀ operation ∈ freshPlan.operations, members operation.operationId →
          mayRetry targetEndpointIds operation = true := by
  obtain ⟨selected, hclose, hnodup, hselected, hkept, hclosed, hleast⟩ :=
    close_prerequisites sets hretried
  have hperm := length_selected hnodup hselected
  have hlength := hperm.length_eq
  rw [List.length_map] at hlength
  unfold closedScope
  rw [hclose]
  simp only [hlength, ne_eq, not_true_eq_false, if_false]
  by_cases hbad : (freshPlan.operations.filter fun operation =>
      selected.contains operation.operationId).any
        (fun operation => !mayRetry targetEndpointIds operation) = true
  · refine .inr ⟨⟨_, if_pos hbad⟩, ?_⟩
    rintro ⟨members, hcovers, hmembers, heligible⟩
    obtain ⟨operation, hoperation, hnot⟩ := List.any_eq_true.mp hbad
    obtain ⟨hmem, hin⟩ := List.mem_filter.mp hoperation
    have hmay := heligible operation hmem
      (hleast members hcovers hmembers _ (by simpa using hin))
    rw [hmay] at hnot
    cases hnot
  · refine .inl ⟨_, if_neg hbad, ?_⟩
    have hin : ∀ operationId, operationId ∈ (freshPlan.operations.filter fun operation =>
        selected.contains operation.operationId).map PlanOperation.operationId ↔
          operationId ∈ selected := fun operationId => hperm.mem_iff
    refine ⟨fun operationId hmem => (hin _).mpr (hkept operationId hmem),
      fun dependency hmem hafter => (hin _).mpr (hclosed dependency hmem ((hin _).mp hafter)),
      fun members hcovers hmembers operationId hmem =>
        hleast members hcovers hmembers operationId ((hin _).mp hmem),
      fun operation hmem hscope => ?_, ?_⟩
    · by_contra hnot
      refine hbad (List.any_eq_true.mpr ⟨operation, List.mem_filter.mpr
        ⟨hmem, by simpa using (hin _).mp hscope⟩, by simpa using hnot⟩)
    · refine congrArg (List.map PlanOperation.operationId) (List.filter_congr fun operation _ => ?_)
      rw [List.contains_eq_mem, List.contains_eq_mem, decide_eq_decide]
      exact (hin _).symm

end

/-- The operation of the fresh plan that retries one of the source run. -/
structure Retries (source : StartedRun) (sourcePlan freshPlan : SealedPlan)
    (audits : OperationAudits) (targetEndpointIds : List String)
    (sourceOperationId fresh : String) :
    Prop where
  recorded : ∃ operation ∈ sourcePlan.operations, operation.operationId = sourceOperationId ∧
    ∃ endpointId ∈ targetEndpointIds, operation.targetEndpointId = some endpointId ∧
    ∃ relativePath, operation.targetRelativePath = some relativePath ∧
    (freshMatches freshPlan endpointId relativePath).map PlanOperation.operationId = [fresh]
  unfinished : ∃ finalState ∈ ["SKIPPED", "CANCELLED", "RECOVERY_REQUIRED"],
    audits.finalState source.run.id sourceOperationId = some (some finalState)

section
variable {source : StartedRun} {sourcePlan freshPlan : SealedPlan} {audits : OperationAudits}
  {targetEndpointIds : List String}

theorem retryable_eq_ok {operationId runTargetId relativePath : String}
    (h : retryable source audits operationId runTargetId relativePath = .ok ()) :
    ∃ finalState ∈ ["SKIPPED", "CANCELLED", "RECOVERY_REQUIRED"],
      audits.finalState source.run.id operationId = some (some finalState) := by
  unfold retryable at h
  split at h
  · rename_i identity finalState _ hstate
    simp only [unit_bind_eq_ok, check_eq_ok] at h
    obtain ⟨-, -, -, hkind⟩ := h
    cases finalState with
    | none => cases hkind
    | some finalState => exact ⟨finalState, by simpa using hkind, hstate⟩
  · cases h

variable {sourceOperationId fresh : String}

theorem retriedOperation_eq_ok
    (h : retriedOperation source sourcePlan freshPlan audits targetEndpointIds sourceOperationId =
      .ok fresh) :
    Retries source sourcePlan freshPlan audits targetEndpointIds sourceOperationId fresh := by
  unfold retriedOperation at h
  split at h
  · cases h
  · rename_i operation hfound
    split at h
    · rename_i endpointId relativePath target hendpoint hpath htarget
      split at h
      · cases h
      · rename_i htargets
        obtain ⟨hretryable, hmatch⟩ := unit_bind_eq_ok.mp h
        split at hmatch
        · rename_i match' hmatches
          cases hmatch
          refine ⟨⟨operation, List.mem_of_find?_eq_some hfound, ?_, endpointId,
            by simpa using htargets, hendpoint, relativePath, hpath, by rw [hmatches]; rfl⟩,
            retryable_eq_ok hretryable⟩
          simpa using List.find?_some hfound
        · cases hmatch
    · cases h

theorem Retries.mem
    (h : Retries source sourcePlan freshPlan audits targetEndpointIds sourceOperationId fresh) :
    fresh ∈ freshPlan.operations.map PlanOperation.operationId := by
  obtain ⟨-, -, -, endpointId, -, -, relativePath, -, hmatches⟩ := h.recorded
  have hmem : fresh ∈ (freshMatches freshPlan endpointId relativePath).map
      PlanOperation.operationId := hmatches ▸ List.mem_singleton_self fresh
  obtain ⟨operation, hoperation, rfl⟩ := List.mem_map.mp hmem
  exact List.mem_map_of_mem (List.mem_filter.mp hoperation).1

end

section
variable {sets : SetOrder} {verifies : SealedPlan → Bool} {source : Option StartedRun}
  {freshPlan : SealedPlan} {plans : String → Option SealedPlan} {audits : Option OperationAudits}
  {targetEndpointIds sourceOperationIds retried : List String}

theorem mapM_eq_ok {α β : Type} {f : α → Except String β} {items : List α} {results : List β}
    (h : items.mapM f = .ok results) : List.Forall₂ (fun item result => f item = .ok result) items
      results := by
  induction items generalizing results with
  | nil =>
    cases h
    exact .nil
  | cons item rest ih =>
    rw [List.mapM_cons] at h
    obtain ⟨result, hitem, h⟩ := except_bind_ok h
    obtain ⟨others, hrest, h⟩ := except_bind_ok h
    cases h
    exact .cons hitem (ih hrest)

theorem retriedOperations_eq_ok
    (h : retriedOperations verifies source freshPlan plans audits targetEndpointIds
      sourceOperationIds = .ok retried) :
    ∃ run, source = some run ∧ ∃ sourcePlan, plans run.run.planId = some sourcePlan ∧
      ∃ records, audits = some records ∧
      List.Forall₂ (Retries run sourcePlan freshPlan records targetEndpointIds) sourceOperationIds
        retried := by
  unfold retriedOperations at h
  split at h
  · cases h
  · cases h
  · rename_i run records
    split at h
    · cases h
    · rename_i sourcePlan hplan
      split at h
      · cases h
      · exact ⟨run, rfl, sourcePlan, hplan, records, rfl,
          (mapM_eq_ok h).imp fun _ _ => retriedOperation_eq_ok⟩

theorem mem_of_retriedOperations
    (h : retriedOperations verifies source freshPlan plans audits targetEndpointIds
      sourceOperationIds = .ok retried) :
    ∀ operationId ∈ retried, operationId ∈ freshPlan.operations.map PlanOperation.operationId := by
  obtain ⟨run, -, sourcePlan, -, records, -, hretries⟩ := retriedOperations_eq_ok h
  clear h
  intro operationId hmem
  induction hretries with
  | nil => exact absurd hmem List.not_mem_nil
  | cons hfirst _ ih =>
    rcases List.mem_cons.mp hmem with rfl | hold
    · exact hfirst.mem
    · exact ih hold

theorem IsRetryScope.unique {scope scope' : List String}
    (h : IsRetryScope freshPlan targetEndpointIds retried scope)
    (h' : IsRetryScope freshPlan targetEndpointIds retried scope') : scope = scope' := by
  have hsame : ∀ operationId, operationId ∈ scope ↔ operationId ∈ scope' := fun operationId =>
    ⟨h.least (· ∈ scope') h'.covers h'.closed operationId,
      h'.least (· ∈ scope) h.covers h.closed operationId⟩
  rw [h.ordered, h'.ordered]
  refine congrArg (List.map PlanOperation.operationId) (List.filter_congr fun operation _ => ?_)
  rw [List.contains_eq_mem, List.contains_eq_mem, decide_eq_decide]
  exact hsame _

/-- The scope of a request is the least closed one. -/
theorem retryOperationScope_spec (hsome : sourceOperationIds ≠ []) :
    (∀ code, retriedOperations verifies source freshPlan plans audits targetEndpointIds
        sourceOperationIds = .error code →
      retryOperationScope sets verifies source freshPlan plans audits targetEndpointIds
        sourceOperationIds = .error code) ∧
    ∀ retried, retriedOperations verifies source freshPlan plans audits targetEndpointIds
        sourceOperationIds = .ok retried →
      (∀ scope, retryOperationScope sets verifies source freshPlan plans audits targetEndpointIds
          sourceOperationIds = .ok scope ↔
        IsRetryScope freshPlan targetEndpointIds retried scope) ∧
      ((∃ code, retryOperationScope sets verifies source freshPlan plans audits targetEndpointIds
          sourceOperationIds = .error code) ↔
        ¬ ∃ members : String → Prop, (∀ operationId ∈ retried, members operationId) ∧
          (∀ dependency ∈ freshPlan.dependencies,
            members dependency.afterOperationId → members dependency.beforeOperationId) ∧
          ∀ operation ∈ freshPlan.operations, members operation.operationId →
            mayRetry targetEndpointIds operation = true) := by
  have hnonempty : sourceOperationIds.isEmpty = false := by
    cases sourceOperationIds with
    | nil => exact absurd rfl hsome
    | cons first rest => rfl
  unfold retryOperationScope
  rw [if_neg (by simp [hnonempty])]
  refine ⟨fun code herror => by rw [herror]; rfl, fun retried hretried => ?_⟩
  rw [hretried]
  show (∀ scope, closedScope sets freshPlan targetEndpointIds retried = .ok scope ↔ _) ∧
    ((∃ code, closedScope sets freshPlan targetEndpointIds retried = .error code) ↔ _)
  -- either the closure is the least scope, or no set is closed and eligible
  rcases closedScope_spec sets targetEndpointIds (mem_of_retriedOperations hretried) with
    ⟨scope, hscope, hleast⟩ | ⟨⟨code, herror⟩, hnone⟩
  · rw [hscope]
    refine ⟨fun other => ⟨?_, fun hother => by rw [hleast.unique hother]⟩, ?_, fun hnone => ?_⟩
    · rintro ⟨⟩
      exact hleast
    · rintro ⟨code, hcode⟩
      cases hcode
    · exact absurd ⟨(· ∈ scope), hleast.covers, hleast.closed, hleast.eligible⟩ hnone
  · rw [herror]
    refine ⟨fun other => ⟨fun h => (by cases h), fun hother => absurd
      ⟨(· ∈ other), hother.covers, hother.closed, hother.eligible⟩ hnone⟩,
      fun _ => hnone, fun _ => ⟨code, rfl⟩⟩

end

/-- A directory that is to be created on the target `disk`. -/
def directoryOperation (operationId path : String) (sequenceNo : Int) : PlanOperation where
  operationId
  operationType := .createDirectory
  sequenceNo
  executionPhase := 0
  stableOrderKey := path
  targetPreconditionKind := .absent
  reasonCode := "NEW_DIRECTORY"
  riskLevel := .low
  targetEndpointId := some "disk"
  targetRelativePath := some path

/-- A plan that creates `photos`, and in it a directory of a year. -/
def yearPlan (planId outer inner : String) (h : outer ≠ inner) : SealedPlan where
  planId
  jobId := "job"
  jobRevisionId := "revision"
  endpoints := []
  operations := [directoryOperation outer "photos" 0, directoryOperation inner "photos/2024" 1]
  dependencies := [⟨outer, inner⟩]
  operationSchemaVersion := 4
  executionPolicy := "MANUAL_LOCAL_PREVIEW"
  planChecksum := planId
  uniqueIds := List.nodup_cons.mpr
    ⟨fun hmem => h (List.mem_singleton.mp hmem), List.nodup_singleton _⟩
  uniqueSequence := (by decide : ([0, 1] : List Int).Nodup)
  knownDependencies := by
    intro dependency hmem
    rw [List.mem_singleton.mp hmem]
    exact ⟨List.mem_cons_self, List.mem_cons_of_mem _ (List.mem_singleton_self _)⟩

/-- The run of the plan `old`, with its only target. -/
def yearRun : StartedRun where
  run := ⟨"run", "job", "revision", "old", "old", .partialFailure, "2024-01-01T00:00:00Z", [], 0, 1,
    2, 0, 0⟩
  targets :=
    [⟨"target", "run", "disk", "disk-revision", none, none, .failed, none, none, none, none,
    2, 0, 0, 0, 0, 1, none, 0⟩]

def yearAudits (finalState : String) : OperationAudits where
  identity _ operationId := some (some
    ⟨"target", some (if operationId = "old-photos" then "photos" else "photos/2024")⟩)
  finalState _ operationId :=
    some (some (if operationId = "old-photos" then "SUCCEEDED" else finalState))

def memberOrder : SetOrder where
  iterate := List.dedup
  nodup := List.nodup_dedup
  mem_iff := List.mem_dedup

def retryYear (finalState : String) : Except String (List String) :=
  retryOperationScope memberOrder (fun _ => true) (some yearRun)
    (yearPlan "new" "photos" "year" (by decide))
    (fun _ => some (yearPlan "old" "old-photos" "old-year" (by decide)))
    (some (yearAudits finalState)) ["disk"] ["old-year"]

theorem isRetryScope_year :
    IsRetryScope (yearPlan "new" "photos" "year" (by decide)) ["disk"] ["year"]
      ["photos", "year"] where
  covers := by decide
  closed := by decide
  least members hretried hclosed operationId hmem := by
    have hyear := hretried "year" (List.mem_singleton_self _)
    rcases List.mem_cons.mp hmem with rfl | hmem
    · exact hclosed ⟨"photos", "year"⟩ (List.mem_singleton_self _) hyear
    · exact List.mem_singleton.mp hmem ▸ hyear
  eligible := by decide
  ordered := by decide

theorem retryYear_unfinished : retryYear "RECOVERY_REQUIRED" = .ok ["photos", "year"] :=
  ((retryOperationScope_spec (List.cons_ne_nil "old-year" [])).2 ["year"] rfl).1 _ |>.mpr
    isRetryScope_year

/-- A retry of what has succeeded is rejected although there is a scope, and the scope of a retry
holds the outer directory although its creation has succeeded. -/
theorem retryYear_succeeded :
    retryYear "SUCCEEDED" = .error "RUN_RETRY_OPERATION_ALREADY_SUCCEEDED" ∧
      IsRetryScope (yearPlan "new" "photos" "year" (by decide)) ["disk"] ["year"]
        ["photos", "year"] ∧
      retryYear "RECOVERY_REQUIRED" = .ok ["photos", "year"] ∧
      (yearAudits "RECOVERY_REQUIRED").finalState "run" "old-photos" = some (some "SUCCEEDED") :=
  ⟨rfl, isRetryScope_year, rfl, rfl⟩

end MediaSync.Runs
