import MediaSync.Foundation.DepthFirst
import MediaSync.Foundation.JsonText
import MediaSync.Foundation.Sha256
import MediaSync.Plans.Plan
import MediaSync.Recovery.Operation
import Mathlib.Algebra.Ring.Int.Defs

/-! `seal_plan` orders endpoints, operations and dependencies, checks them, and writes a checksum of
what it has ordered. -/
namespace MediaSync.Plans
open Text Recovery

def PreconditionKind.value : PreconditionKind → String
  | .absent => "ABSENT"
  | .matchFingerprint => "MATCH_FINGERPRINT"
  | .directoryEmpty => "DIRECTORY_EMPTY"
  | .none => "NONE"

def RiskLevel.value : RiskLevel → String
  | .low => "LOW"
  | .medium => "MEDIUM"
  | .high => "HIGH"
  | .blocked => "BLOCKED"

def EndpointRole.value : EndpointRole → String
  | .source => "SOURCE"
  | .targetWritable => "TARGET_WRITABLE"
  | .targetReadonly => "TARGET_READONLY"

/-- The arguments of `seal_plan`. -/
structure PlanRequest where
  planId : String
  analysisId : String
  jobId : String
  jobRevisionId : String
  operations : List PlanOperation
  endpoints : List PlanEndpoint := []
  dependencies : List PlanDependency := []
  parentPlanId : Option String := none
  executionPolicy : String := "MANUAL_LOCAL_PREVIEW"
  riskSummary : Option Json.Mapping := none

/-- `SealedPlan` with all its columns, as a store may give it back. -/
structure PlanRecord where
  planId : String
  analysisId : String
  jobId : String
  jobRevisionId : String
  endpoints : List PlanEndpoint
  operations : List PlanOperation
  dependencies : List PlanDependency
  plannerVersion : String
  planSchemaVersion : Int
  operationSchemaVersion : Int
  executionPolicy : String
  checksumAlgorithm : String
  serializerVersion : String
  planChecksum : String
  riskSummary : Json.Mapping
  operationCount : Int
  plannedBytes : Int
  immutable : Bool := true
  parentPlanId : Option String := none

structure SetOrder where
  iterate : List String → List String
  nodup : ∀ texts, (iterate texts).Nodup
  mem_iff : ∀ {texts text}, text ∈ iterate texts ↔ text ∈ texts

/-- What the interpreter brings along: its library, the order of its sets, and the number of
calls of `visit` that may nest below `_reject_dependency_cycles` before a `RecursionError`. -/
structure Interpreter where
  library : PythonLibrary
  sets : SetOrder
  frames : Nat

def ordinalKey (endpoint : PlanEndpoint) : Int := endpoint.targetOrdinal.getD (-1)

def endpointOrder (a b : PlanEndpoint) : Prop :=
  a.role.value < b.role.value ∨ a.role.value = b.role.value ∧
    (ordinalKey a < ordinalKey b ∨ ordinalKey a = ordinalKey b ∧ a.endpointId ≤ b.endpointId)

instance : DecidableRel endpointOrder := fun a b => by unfold endpointOrder; infer_instance

def dependencyOrder (a b : PlanDependency) : Prop :=
  a.beforeOperationId < b.beforeOperationId ∨ a.beforeOperationId = b.beforeOperationId ∧
    a.afterOperationId ≤ b.afterOperationId

instance : DecidableRel dependencyOrder := fun a b => by unfold dependencyOrder; infer_instance

def operationOrder (a b : PlanOperation) : Prop := a.sequenceNo ≤ b.sequenceNo

instance : DecidableRel operationOrder := fun a b => by unfold operationOrder; infer_instance

def validatePlanIdentity (request : PlanRequest) : Except String Unit := do
  check (nonBlank request.planId) "PLAN_REQUIRES_PLAN_ID"
  check (nonBlank request.analysisId) "PLAN_REQUIRES_ANALYSIS_ID"
  check (nonBlank request.jobId) "PLAN_REQUIRES_JOB_ID"
  check (nonBlank request.jobRevisionId) "PLAN_REQUIRES_JOB_REVISION_ID"
  check (nonBlank request.executionPolicy) "PLAN_REQUIRES_EXECUTION_POLICY"

def bindSingleTargetOperations (operations : List PlanOperation) (endpoints : List PlanEndpoint) :
    List PlanOperation :=
  match endpoints.filter (·.role = .targetWritable) with
  | [target] => operations.map fun operation =>
      if operation.targetEndpointId.isSome then operation
      else { operation with targetEndpointId := some target.endpointId }
  | _ => operations

def validateWritableTargetEndpoint (endpoint : PlanEndpoint) (targetOrdinals : List Int) :
    Except String Unit := do
  check (endpoint.targetOrdinal.any fun ordinal => 0 ≤ ordinal)
    "WRITABLE_PLAN_TARGET_REQUIRES_TARGET_ORDINAL"
  check (endpoint.targetOrdinal.all fun ordinal => !targetOrdinals.contains ordinal)
    "PLAN_TARGET_ORDINALS_MUST_BE_UNIQUE"
  check (someNonBlank endpoint.requiredOwnerInstallationId) "WRITABLE_PLAN_TARGET_REQUIRES_OWNER"
  check (endpoint.requiredOwnershipEpoch.any fun epoch => 1 ≤ epoch)
    "WRITABLE_PLAN_TARGET_REQUIRES_OWNERSHIP_EPOCH"
  check (endpoint.controlSchemaVersion.any fun version => 1 ≤ version)
    "WRITABLE_PLAN_TARGET_REQUIRES_CONTROL_SCHEMA_VERSION"

/-- The turns of `_validate_endpoints`, with the ids and ordinals that were met before. -/
def validateEndpointsFrom : List String → List Int → List PlanEndpoint → Except String Unit
  | _, _, [] => .ok ()
  | endpointIds, targetOrdinals, endpoint :: rest => do
    check (nonBlank endpoint.endpointId) "PLAN_ENDPOINT_REQUIRES_ID"
    check (nonBlank endpoint.endpointRevisionId) "PLAN_ENDPOINT_REQUIRES_REVISION_ID"
    check (nonBlank endpoint.snapshotId) "PLAN_ENDPOINT_REQUIRES_SNAPSHOT_ID"
    check (nonBlank endpoint.capabilitiesHash) "PLAN_ENDPOINT_REQUIRES_CAPABILITIES_HASH"
    check (nonBlank endpoint.rootCaseContextHash) "PLAN_ENDPOINT_REQUIRES_CASE_CONTEXT_HASH"
    check (!endpointIds.contains endpoint.endpointId) "PLAN_ENDPOINT_IDS_MUST_BE_UNIQUE"
    check (0 ≤ endpoint.plannedOperations) "PLAN_ENDPOINT_OPERATIONS_MUST_BE_NON_NEGATIVE"
    check (0 ≤ endpoint.plannedBytes) "PLAN_ENDPOINT_BYTES_MUST_BE_NON_NEGATIVE"
    check (1 ≤ endpoint.endpointGeneration) "PLAN_ENDPOINT_REQUIRES_GENERATION"
    if endpoint.role = .targetWritable then
      validateWritableTargetEndpoint endpoint targetOrdinals
      validateEndpointsFrom (endpoint.endpointId :: endpointIds)
        (endpoint.targetOrdinal.toList ++ targetOrdinals) rest
    else do
      check (endpoint.targetOrdinal.all fun ordinal => 0 ≤ ordinal)
        "PLAN_ENDPOINT_TARGET_ORDINAL_MUST_BE_NON_NEGATIVE"
      validateEndpointsFrom (endpoint.endpointId :: endpointIds) targetOrdinals rest

def validateEndpoints (endpoints : List PlanEndpoint) : Except String Unit :=
  validateEndpointsFrom [] [] endpoints

def looksAbsolutePath (path : String) : Bool :=
  startsWithSlash path || ((components path).head?.any fun part => part.toList.contains ':')

def validateDeferredOperation (operation : PlanOperation) : Except String Unit :=
  if operation.operationType = .deferAutomationPolicy then
    check (operation.deferredOperationType.any
        [OperationType.copyNew, .replaceChanged, .createDirectory].contains)
      "DEFERRED_PLAN_OPERATION_TYPE_INVALID"
  else check operation.deferredOperationType.isNone "NONDEFERRED_PLAN_OPERATION_HAS_DEFERRED_TYPE"

def validateTargetPrecondition (operation : PlanOperation) : Except String Unit := do
  if operation.mutating || operation.operationType = .deferAutomationPolicy then
    check (operation.targetPreconditionKind ≠ .none)
      "MUTATING_PLAN_OPERATION_REQUIRES_TARGET_PRECONDITION"
    check (someNonBlank operation.targetRelativePath)
      "MUTATING_PLAN_OPERATION_REQUIRES_TARGET_RELATIVE_PATH"
  check (operation.targetRelativePath.all fun path => !looksAbsolutePath path)
    "PLAN_OPERATION_TARGET_PATH_MUST_BE_RELATIVE"

def PlanOperation.effectiveType (operation : PlanOperation) : Option OperationType :=
  if operation.operationType = .deferAutomationPolicy then operation.deferredOperationType
  else some operation.operationType

def validateSourcePrecondition (py : PythonLibrary) (operation : PlanOperation) :
    Except String Unit :=
  if !operation.effectiveType.any [OperationType.copyNew, .replaceChanged].contains then
    check (operation.sourceRelativePath.isNone && operation.sourcePreconditionJson.isNone)
      "NONCOPY_PLAN_OPERATION_HAS_SOURCE_PRECONDITION"
  else do
    check (someNonBlank operation.sourceRelativePath) "COPY_PLAN_OPERATION_REQUIRES_SOURCE_PATH"
    check (operation.sourceRelativePath.all fun path => !looksAbsolutePath path)
      "PLAN_OPERATION_SOURCE_PATH_MUST_BE_RELATIVE"
    let precondition ← SourceFilePrecondition.fromJson py operation.sourcePreconditionJson
    check (some precondition.relativePath = operation.sourceRelativePath &&
        precondition.sizeBytes = operation.plannedBytes)
      "PLAN_OPERATION_SOURCE_PRECONDITION_MISMATCH"

def validateTargetEndpoint (writableEndpointIds : List String) (operation : PlanOperation) :
    Except String Unit :=
  match operation.targetEndpointId with
  | some endpointId => do
    check (nonBlank endpointId) "PLAN_OPERATION_TARGET_ENDPOINT_MUST_NOT_BE_BLANK"
    check (writableEndpointIds.contains endpointId) "PLAN_OPERATION_TARGET_ENDPOINT_NOT_WRITABLE"
  | none => check (!(operation.mutating && !writableEndpointIds.isEmpty))
      "MUTATING_PLAN_OPERATION_REQUIRES_TARGET_ENDPOINT"

def writableEndpointIds (endpoints : List PlanEndpoint) : List String :=
  (endpoints.filter (·.role = .targetWritable)).map PlanEndpoint.endpointId

/-- The turns of `_validate_operations`, with the ids and numbers that were met before. -/
def validateOperationsFrom (py : PythonLibrary) (writableEndpointIds : List String) :
    List String → List Int → List PlanOperation → Except String Unit
  | _, _, [] => .ok ()
  | operationIds, sequenceNumbers, operation :: rest => do
    check (nonBlank operation.operationId) "PLAN_OPERATION_REQUIRES_ID"
    check (!operationIds.contains operation.operationId) "PLAN_OPERATION_IDS_MUST_BE_UNIQUE"
    check (0 ≤ operation.sequenceNo) "PLAN_OPERATION_SEQUENCE_MUST_BE_NON_NEGATIVE"
    check (!sequenceNumbers.contains operation.sequenceNo) "PLAN_OPERATION_SEQUENCE_MUST_BE_UNIQUE"
    check (0 ≤ operation.executionPhase) "PLAN_OPERATION_PHASE_MUST_BE_NON_NEGATIVE"
    check (nonBlank operation.stableOrderKey) "PLAN_OPERATION_REQUIRES_STABLE_ORDER_KEY"
    check (nonBlank operation.reasonCode) "PLAN_OPERATION_REQUIRES_REASON_CODE"
    check (0 ≤ operation.plannedBytes) "PLAN_OPERATION_BYTES_MUST_BE_NON_NEGATIVE"
    validateTargetEndpoint writableEndpointIds operation
    validateDeferredOperation operation
    validateTargetPrecondition operation
    validateSourcePrecondition py operation
    validateOperationsFrom py writableEndpointIds (operation.operationId :: operationIds)
      (operation.sequenceNo :: sequenceNumbers) rest

def validateOperations (py : PythonLibrary) (operations : List PlanOperation)
    (endpoints : List PlanEndpoint) : Except String Unit := do
  check (!operations.isEmpty) "PLAN_REQUIRES_OPERATIONS"
  validateOperationsFrom py (writableEndpointIds endpoints) [] [] operations

def validateDependency (operationIds : List String) (dependency : PlanDependency) :
    Except String Unit := do
  check (dependency.beforeOperationId ≠ dependency.afterOperationId)
    "PLAN_DEPENDENCY_CANNOT_REFERENCE_SELF"
  check (operationIds.contains dependency.beforeOperationId &&
      operationIds.contains dependency.afterOperationId)
    "PLAN_DEPENDENCY_REQUIRES_EXISTING_OPERATIONS"

def dependents (dependencies : List PlanDependency) (operationId : String) : List String :=
  (dependencies.filter (·.beforeOperationId = operationId)).map PlanDependency.afterOperationId

/-- With `_reject_dependency_cycles`. -/
def validateDependencies (interpreter : Interpreter) (operations : List PlanOperation)
    (dependencies : List PlanDependency) : Except String Unit := do
  let operationIds := interpreter.sets.iterate (operations.map PlanOperation.operationId)
  dependencies.forM (validateDependency operationIds)
  let _ ← DepthFirst.rejectCycles interpreter.frames operationIds
    (fun operationId => interpreter.sets.iterate (dependents dependencies operationId))
    "PLAN_DEPENDENCIES_MUST_BE_ACYCLIC"
  return ()

def riskSummary (operations : List PlanOperation) : Json.Mapping where
  fields :=
    let count := fun risk : RiskLevel => operations.countP (·.riskLevel = risk)
    let highest := [RiskLevel.blocked, .high, .medium, .low].find? fun risk => count risk ≠ 0
    [("counts", .obj ([RiskLevel.low, .medium, .high, .blocked].map fun risk =>
        (risk.value, .int (count risk)))),
      ("highest", .str (highest.getD .low).value)]
  distinct := by
    simp only [Json.distinct, Json.distinctFields, List.map_cons, List.map_nil, Bool.and_true,
      Bool.and_eq_true, decide_eq_true_eq]
    decide

/-- A text or `null`. -/
def jsonText (value : Option String) : Json := value.elim .null .str

/-- A number or `null`. -/
def jsonInt (value : Option Int) : Json := value.elim .null .int

def operationPayload (operation : PlanOperation) (operationSchemaVersion : Int) : Json :=
  .obj <|
    [("execution_phase", .int operation.executionPhase),
      ("operation_id", .str operation.operationId),
      ("operation_type", .str operation.operationType.value),
      ("planned_bytes", .int operation.plannedBytes),
      ("reason_code", .str operation.reasonCode),
      ("risk_level", .str operation.riskLevel.value),
      ("sequence_no", .int operation.sequenceNo),
      ("stable_order_key", .str operation.stableOrderKey),
      ("target_precondition_kind", .str operation.targetPreconditionKind.value),
      ("target_relative_path", jsonText operation.targetRelativePath)] ++
    (if 2 ≤ operationSchemaVersion then
      [("target_endpoint_id", jsonText operation.targetEndpointId)] else []) ++
    (if 3 ≤ operationSchemaVersion then
      [("source_relative_path", jsonText operation.sourceRelativePath),
        ("source_precondition_json", jsonText operation.sourcePreconditionJson)] else []) ++
    (if 4 ≤ operationSchemaVersion then
      [("deferred_operation_type",
        jsonText (operation.deferredOperationType.map OperationType.value))] else [])

def endpointPayload (endpoint : PlanEndpoint) : Json :=
  .obj [("capabilities_hash", .str endpoint.capabilitiesHash),
    ("control_schema_version", jsonInt endpoint.controlSchemaVersion),
    ("endpoint_id", .str endpoint.endpointId),
    ("endpoint_generation", .int endpoint.endpointGeneration),
    ("endpoint_revision_id", .str endpoint.endpointRevisionId),
    ("planned_bytes", .int endpoint.plannedBytes),
    ("planned_operations", .int endpoint.plannedOperations),
    ("required_owner_installation_id", jsonText endpoint.requiredOwnerInstallationId),
    ("required_ownership_epoch", jsonInt endpoint.requiredOwnershipEpoch),
    ("role", .str endpoint.role.value),
    ("root_case_context_hash", .str endpoint.rootCaseContextHash),
    ("snapshot_id", .str endpoint.snapshotId),
    ("target_ordinal", jsonInt endpoint.targetOrdinal)]

def dependencyPayload (dependency : PlanDependency) : Json :=
  .obj [("after_operation_id", .str dependency.afterOperationId),
    ("before_operation_id", .str dependency.beforeOperationId)]

/-- `_canonical_payload` of a plan. -/
def canonicalPayload (plan : PlanRecord) : Json :=
  .obj [("analysis_id", .str plan.analysisId),
    ("checksum_algorithm", .str plan.checksumAlgorithm),
    ("dependencies", .arr (plan.dependencies.map dependencyPayload)),
    ("execution_policy", .str plan.executionPolicy),
    ("immutable", .bool plan.immutable),
    ("job_id", .str plan.jobId),
    ("job_revision_id", .str plan.jobRevisionId),
    ("operation_count", .int plan.operationCount),
    ("operation_schema_version", .int plan.operationSchemaVersion),
    ("endpoints", .arr (plan.endpoints.map endpointPayload)),
    ("operations", .arr (plan.operations.map fun operation =>
      operationPayload operation plan.operationSchemaVersion)),
    ("parent_plan_id", jsonText plan.parentPlanId),
    ("planned_bytes", .int plan.plannedBytes),
    ("plan_id", .str plan.planId),
    ("plan_schema_version", .int plan.planSchemaVersion),
    ("planner_version", .str plan.plannerVersion),
    ("risk_summary", .obj plan.riskSummary.fields),
    ("serializer_version", .str plan.serializerVersion)]

/-- `_checksum` of the canonical payload. -/
def PlanRecord.checksum (plan : PlanRecord) : String :=
  Sha256.hexdigest (Json.dumpUnicode (canonicalPayload plan))

def PlanRequest.orderedEndpoints (request : PlanRequest) : List PlanEndpoint :=
  request.endpoints.insertionSort endpointOrder

def PlanRequest.orderedOperations (request : PlanRequest) : List PlanOperation :=
  (bindSingleTargetOperations request.operations request.orderedEndpoints).insertionSort
    operationOrder

def PlanRequest.orderedDependencies (request : PlanRequest) : List PlanDependency :=
  request.dependencies.insertionSort dependencyOrder

def PlanRequest.unsigned (request : PlanRequest) : PlanRecord where
  planId := request.planId
  analysisId := request.analysisId
  jobId := request.jobId
  jobRevisionId := request.jobRevisionId
  endpoints := request.orderedEndpoints
  operations := request.orderedOperations
  dependencies := request.orderedDependencies
  plannerVersion := "0B-plan-sealer-skeleton"
  planSchemaVersion := 1
  operationSchemaVersion := 4
  executionPolicy := request.executionPolicy
  checksumAlgorithm := "SHA-256"
  serializerVersion := "0B-CANONICAL-JSON-V1"
  planChecksum := ""
  -- an empty mapping counts as none
  riskSummary := (request.riskSummary.filter (!·.fields.isEmpty)).getD
    (Plans.riskSummary request.orderedOperations)
  operationCount := request.orderedOperations.length
  plannedBytes := (request.orderedOperations.map PlanOperation.plannedBytes).sum
  parentPlanId := request.parentPlanId

def sealPlan (interpreter : Interpreter) (request : PlanRequest) : Except String PlanRecord := do
  validatePlanIdentity request
  validateEndpoints request.orderedEndpoints
  validateOperations interpreter.library request.orderedOperations request.orderedEndpoints
  validateDependencies interpreter request.orderedOperations request.orderedDependencies
  return { request.unsigned with planChecksum := request.unsigned.checksum }

def verifyPlanChecksum (plan : PlanRecord) : Bool := plan.planChecksum = plan.checksum

theorem unit_bind_eq_ok {α : Type} {first : Except String Unit} {next : Unit → Except String α}
    {a : α} : (first >>= next) = .ok a ↔ first = .ok () ∧ next () = .ok a := by
  cases first <;> simp [bind, Except.bind]

theorem forM_eq_ok {α : Type} {f : α → Except String Unit} {items : List α} :
    items.forM f = .ok () ↔ ∀ item ∈ items, f item = .ok () := by
  induction items with
  | nil => simp [pure, Except.pure]
  | cons item rest ih =>
    show (f item >>= fun _ => rest.forM f) = .ok () ↔ _
    rw [unit_bind_eq_ok, ih, List.forall_mem_cons]

structure OperationChecked (library : PythonLibrary) (writableEndpointIds : List String)
    (operation : PlanOperation) : Prop where
  operationId : nonBlank operation.operationId = true
  sequenceNo : 0 ≤ operation.sequenceNo
  executionPhase : 0 ≤ operation.executionPhase
  stableOrderKey : nonBlank operation.stableOrderKey = true
  reasonCode : nonBlank operation.reasonCode = true
  plannedBytes : 0 ≤ operation.plannedBytes
  targetEndpoint : validateTargetEndpoint writableEndpointIds operation = .ok ()
  deferred : validateDeferredOperation operation = .ok ()
  targetPrecondition : validateTargetPrecondition operation = .ok ()
  sourcePrecondition : validateSourcePrecondition library operation = .ok ()

variable {library : PythonLibrary} {operations : List PlanOperation}

theorem validateOperationsFrom_eq_ok {writable : List String} :
    ∀ {ids : List String} {numbers : List Int},
    validateOperationsFrom library writable ids numbers operations = .ok () ↔
      (∀ operation ∈ operations, OperationChecked library writable operation) ∧
      (operations.map PlanOperation.operationId).Nodup ∧
      (operations.map PlanOperation.sequenceNo).Nodup ∧
      ∀ operation ∈ operations, operation.operationId ∉ ids ∧ operation.sequenceNo ∉ numbers := by
  induction operations with
  | nil => simp [validateOperationsFrom]
  | cons operation rest ih =>
    intro ids numbers
    simp only [validateOperationsFrom, unit_bind_eq_ok, check_eq_ok, ih, Bool.not_eq_true',
      List.contains_eq_mem, decide_eq_true_eq, decide_eq_false_iff_not, List.forall_mem_cons,
      List.map_cons, List.nodup_cons, List.mem_map, not_exists, not_and]
    simp only [List.mem_cons, not_or]
    constructor
    · rintro ⟨hid, hnew, hnumber, hfresh, hphase, hkey, hreason, hbytes, htarget, hdeferred,
        hprecondition, hsource, hchecked, hids, hnumbers, happart⟩
      exact ⟨⟨⟨hid, hnumber, hphase, hkey, hreason, hbytes, htarget, hdeferred, hprecondition,
        hsource⟩, hchecked⟩, ⟨fun other hother => (happart other hother).1.1, hids⟩,
        ⟨fun other hother => (happart other hother).2.1, hnumbers⟩, ⟨hnew, hfresh⟩,
        fun other hother => ⟨(happart other hother).1.2, (happart other hother).2.2⟩⟩
    · rintro ⟨⟨hfirst, hchecked⟩, ⟨hid, hids⟩, ⟨hnumber, hnumbers⟩, ⟨hnew, hfresh⟩, hold⟩
      exact ⟨hfirst.operationId, hnew, hfirst.sequenceNo, hfresh, hfirst.executionPhase,
        hfirst.stableOrderKey, hfirst.reasonCode, hfirst.plannedBytes, hfirst.targetEndpoint,
        hfirst.deferred, hfirst.targetPrecondition, hfirst.sourcePrecondition, hchecked, hids,
        hnumbers, fun other hother => ⟨⟨hid other hother, (hold other hother).1⟩,
          hnumber other hother, (hold other hother).2⟩⟩

theorem validateOperations_eq_ok {endpoints : List PlanEndpoint} :
    validateOperations library operations endpoints = .ok () ↔
      operations ≠ [] ∧
      (∀ operation ∈ operations,
        OperationChecked library (writableEndpointIds endpoints) operation) ∧
      (operations.map PlanOperation.operationId).Nodup ∧
      (operations.map PlanOperation.sequenceNo).Nodup := by
  simp only [validateOperations, check_bind_eq_ok, validateOperationsFrom_eq_ok]
  simp

theorem validateDependency_eq_ok {operationIds : List String} {dependency : PlanDependency} :
    validateDependency operationIds dependency = .ok () ↔
      dependency.beforeOperationId ≠ dependency.afterOperationId ∧
      dependency.beforeOperationId ∈ operationIds ∧ dependency.afterOperationId ∈ operationIds := by
  simp [validateDependency]

variable {dependencies : List PlanDependency}

theorem mem_dependents {before after : String} :
    after ∈ dependents dependencies before ↔ ⟨before, after⟩ ∈ dependencies := by
  simp only [dependents, List.mem_map, List.mem_filter, decide_eq_true_eq]
  constructor
  · rintro ⟨⟨_, _⟩, ⟨hmem, rfl⟩, rfl⟩
    exact hmem
  · exact fun hmem => ⟨_, ⟨hmem, rfl⟩, rfl⟩

variable {interpreter : Interpreter}

theorem validateDependencies_eq_ok :
    validateDependencies interpreter operations dependencies = .ok () ↔
      (∀ dependency ∈ dependencies,
        dependency.beforeOperationId ≠ dependency.afterOperationId ∧
        dependency.beforeOperationId ∈ operations.map PlanOperation.operationId ∧
        dependency.afterOperationId ∈ operations.map PlanOperation.operationId) ∧
      ∃ marks, DepthFirst.rejectCycles interpreter.frames
        (interpreter.sets.iterate (operations.map PlanOperation.operationId))
        (fun operationId => interpreter.sets.iterate (dependents dependencies operationId))
        "PLAN_DEPENDENCIES_MUST_BE_ACYCLIC" = .ok marks := by
  rw [validateDependencies, unit_bind_eq_ok, forM_eq_ok]
  simp only [validateDependency_eq_ok, interpreter.sets.mem_iff]
  refine and_congr Iff.rfl ?_
  constructor
  · intro h
    obtain ⟨marks, hmarks, -⟩ := except_bind_ok h
    exact ⟨marks, hmarks⟩
  · rintro ⟨marks, hmarks⟩
    rw [hmarks]
    rfl

structure PlanRecord.WellFormed (plan : PlanRecord) : Prop where
  uniqueIds : (plan.operations.map PlanOperation.operationId).Nodup
  uniqueSequence : (plan.operations.map PlanOperation.sequenceNo).Nodup
  knownDependencies : ∀ dependency ∈ plan.dependencies,
    dependency.beforeOperationId ∈ plan.operations.map PlanOperation.operationId ∧
      dependency.afterOperationId ∈ plan.operations.map PlanOperation.operationId

def PlanRecord.sealedPlan (plan : PlanRecord) (h : plan.WellFormed) : SealedPlan where
  planId := plan.planId
  jobId := plan.jobId
  jobRevisionId := plan.jobRevisionId
  endpoints := plan.endpoints
  operations := plan.operations
  dependencies := plan.dependencies
  operationSchemaVersion := plan.operationSchemaVersion
  executionPolicy := plan.executionPolicy
  planChecksum := plan.planChecksum
  immutable := plan.immutable
  uniqueIds := h.uniqueIds
  uniqueSequence := h.uniqueSequence
  knownDependencies := h.knownDependencies

variable {request : PlanRequest} {plan : PlanRecord}

theorem sealPlan_eq_ok : sealPlan interpreter request = .ok plan ↔
      validatePlanIdentity request = .ok () ∧
      validateEndpoints request.orderedEndpoints = .ok () ∧
      validateOperations interpreter.library request.orderedOperations request.orderedEndpoints =
        .ok () ∧
      validateDependencies interpreter request.orderedOperations request.orderedDependencies =
        .ok () ∧
      { request.unsigned with planChecksum := request.unsigned.checksum } = plan := by
  simp only [sealPlan, unit_bind_eq_ok, pure, Except.pure, Except.ok.injEq]

theorem operationChecked_of_sealPlan (h : sealPlan interpreter request = .ok plan)
    {operation : PlanOperation} (hmem : operation ∈ plan.operations) :
    OperationChecked interpreter.library (writableEndpointIds plan.endpoints) operation := by
  obtain ⟨-, -, hoperations, -, rfl⟩ := sealPlan_eq_ok.mp h
  exact (validateOperations_eq_ok.mp hoperations).2.1 operation hmem

theorem wellFormed_of_sealPlan (h : sealPlan interpreter request = .ok plan) : plan.WellFormed := by
  obtain ⟨-, -, hoperations, hdependencies, rfl⟩ := sealPlan_eq_ok.mp h
  obtain ⟨-, -, huniqueIds, huniqueSequence⟩ := validateOperations_eq_ok.mp hoperations
  exact ⟨huniqueIds, huniqueSequence, fun dependency hmem =>
    ((validateDependencies_eq_ok.mp hdependencies).1 dependency hmem).2⟩

end MediaSync.Plans
