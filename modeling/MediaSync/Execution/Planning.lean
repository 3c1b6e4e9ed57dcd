import MediaSync.Execution.Permit
import MediaSync.Plans.Plan

/-! `plan_run_target_recovery_operations`: the checks of the run, the target, the sealed plan and
the run's scope, and the loop that records one operation of the plan after another, each in its own
transaction. -/
namespace MediaSync.Execution
open Text Recovery Runs Plans

inductive PlanningOutcome where
  | planned (operations : Nat)
  | failed (code : String)
  | raised (code : String)
  | crashed
  deriving DecidableEq

def targetValidationCode (target : RunTargetRow) (permit : MutationPermit) : Option String :=
  if target.state ≠ .executing then some "RUN_TARGET_NOT_EXECUTING"
  else if targetPermitMismatch target permit then some "RUN_TARGET_PERMIT_MISMATCH"
  else none

/-- `_plan_validation_code`; `verifies` is `verify_plan_checksum`. -/
def planValidationCode (verifies : SealedPlan → Bool) (plan : SealedPlan)
    (expectedChecksum : String) : Option String :=
  if plan.planChecksum ≠ expectedChecksum then some "PLAN_CHECKSUM_MISMATCH"
  else if !verifies plan then some "PLAN_CHECKSUM_INVALID"
  else if !plan.immutable then some "PLAN_NOT_IMMUTABLE"
  else none

def preconditionFits (precondition : SourceFilePrecondition) (source : PlanEndpoint)
    (operation : PlanOperation) : Bool :=
  precondition.snapshotId = source.snapshotId &&
    some precondition.relativePath = operation.sourceRelativePath &&
    precondition.sizeBytes = operation.plannedBytes

/-- The body of `_operation_binding_validation_code` for one mutating operation. -/
def operationBindingCode (py : PythonLibrary) (plan : SealedPlan) (operation : PlanOperation) :
    Option String :=
  match operation.targetEndpointId with
  | none => some "PLAN_OPERATION_MISSING_TARGET_ENDPOINT"
  | some endpointId =>
    if !(plan.writableTargetEndpoints.map PlanEndpoint.endpointId).contains endpointId then
      some "PLAN_OPERATION_TARGET_ENDPOINT_NOT_FOUND"
    else if operation.operationType ≠ .copyNew then none
    else if plan.operationSchemaVersion < 3 || operation.sourceRelativePath.isNone ||
        operation.sourcePreconditionJson.isNone then
      some "PLAN_OPERATION_SOURCE_PRECONDITION_MISSING"
    else
      match plan.singleSourceEndpoint with
      | none => some "PLAN_OPERATION_PLANNING_REQUIRES_SINGLE_SOURCE"
      | some source =>
        match SourceFilePrecondition.fromJson py operation.sourcePreconditionJson with
        | .error code => some code
        | .ok precondition =>
          if preconditionFits precondition source operation then none
          else some "PLAN_OPERATION_SOURCE_PRECONDITION_MISMATCH"

def operationBindingValidationCode (py : PythonLibrary) (plan : SealedPlan) : Option String :=
  (plan.operations.filter PlanOperation.mutating).findSome? (operationBindingCode py plan)

def targetEndpoint (plan : SealedPlan) (target : RunTargetRow) : Option PlanEndpoint :=
  plan.writableTargetEndpoints.find? fun endpoint =>
    endpoint.endpointId = target.endpointId &&
      endpoint.endpointRevisionId = target.endpointRevisionId

/-- An entry of `operation_ids`, when it is admissible. -/
def scopedOperationId : Json → Option String
  | .str id =>
    if nonBlank id && id.toList.length ≤ 256 && id = strip id then some id else none
  | _ => none

def operationScopeFromRun (summary : Payload) (plan : SealedPlan) :
    Except String (Option (List String)) :=
  match Json.get summary "operation_ids" with
  | none => .ok none
  | some .null => .ok none
  | some (.arr items) =>
    match items.mapM scopedOperationId with
    | none => .error "RUN_OPERATION_SCOPE_INVALID"
    | some scope =>
      if items.length < 1 || 100 < items.length || !decide scope.Nodup then
        .error "RUN_OPERATION_SCOPE_INVALID"
      else
        let inScope := plan.operations.filter fun operation =>
          scope.contains operation.operationId
        if inScope.length ≠ scope.length || inScope.any (fun operation => !operation.mutating) then
          .error "RUN_OPERATION_SCOPE_PLAN_MISMATCH"
        else .ok (some scope)
  | some _ => .error "RUN_OPERATION_SCOPE_INVALID"

def selectedOperations (plan : SealedPlan) (endpointId : String) (scope : Option (List String)) :
    List PlanOperation :=
  plan.operations.filter fun operation =>
    operation.mutating && operation.targetEndpointId = some endpointId &&
      scope.all fun ids => ids.contains operation.operationId

/-- `RecoveryTargetPreconditionKind(kind.value)`. -/
def recoveryPrecondition : PreconditionKind → TargetPreconditionKind
  | .absent => .absent
  | .matchFingerprint => .matchFingerprint
  | .directoryEmpty => .directoryEmpty
  | .none => .none

/-- `RecoveryOperationKind(type.value)`, for the types it has. -/
def recoveryKind : OperationType → Option OperationKind
  | .copyNew => some .copyNew
  | .createDirectory => some .createDirectory
  | _ => none

section
variable (py : PythonLibrary) (permit : MutationPermit) (run : RunRow) (target : RunTargetRow)

def plannedRow (operation : PlanOperation) (finalRelativePath : String) (kind : OperationKind) :
    RecoveryOperation where
  runId := permit.runId
  runTargetId := permit.runTargetId
  operationId := operation.operationId
  targetEndpointId := target.endpointId
  targetEndpointRevisionId := target.endpointRevisionId
  endpointGeneration := permit.endpointGeneration
  ownerInstallationId := permit.ownerInstallationId
  ownershipEpoch := permit.ownershipEpoch
  leaseId := permit.leaseId
  leaseResourceKey := permit.resourceKey
  fencingToken := permit.fencingToken
  phase := .planned
  finalRelativePath
  targetPreconditionKind := recoveryPrecondition operation.targetPreconditionKind
  operationKind := kind
  planSequenceNo := operation.sequenceNo
  plannedBytes := operation.plannedBytes
  jobId := some run.jobId
  jobRevisionId := some run.jobRevisionId
  retentionPolicy := some "THIRTY_DAYS"

def copyRow (row : RecoveryOperation) (source : Option PlanEndpoint) (operation : PlanOperation) :
    Except String RecoveryOperation :=
  match source with
  | none => .error "PLAN_OPERATION_PLANNING_REQUIRES_SINGLE_SOURCE"
  | some source =>
    match SourceFilePrecondition.fromJson py operation.sourcePreconditionJson with
    | .error code => .error code
    | .ok precondition =>
      if !preconditionFits precondition source operation then
        .error "PLAN_OPERATION_SOURCE_PRECONDITION_MISMATCH"
      else
        .ok { row with
          sourceEndpointId := some source.endpointId
          sourceEndpointRevisionId := some source.endpointRevisionId
          sourceRelativePath := operation.sourceRelativePath
          sourcePreconditionJson := operation.sourcePreconditionJson }

def plannedRecoveryOperation (source : Option PlanEndpoint) (operation : PlanOperation) :
    Except String RecoveryOperation :=
  match operation.targetRelativePath, recoveryKind operation.operationType with
  | none, _ => .error "PLAN_OPERATION_MISSING_TARGET_PATH"
  | some _, none => .error "ValueError"
  | some path, some kind =>
    let row := plannedRow permit run target operation path kind
    match if kind = .copyNew then copyRow py row source operation else .ok row with
    | .error code => .error code
    | .ok planned =>
      match validateRecoveryOperation py planned with
      | .error code => .error code
      | .ok () => .ok planned

def plannedPayload (plan : SealedPlan) (endpoint : PlanEndpoint) (operation : PlanOperation) :
    Payload :=
  [("operation_type", .str operation.operationType.value),
    ("plan_checksum", .str plan.planChecksum), ("plan_id", .str plan.planId),
    ("sequence_no", .int operation.sequenceNo), ("target_endpoint_id", .str endpoint.endpointId)]

variable {Dir : Type} (dirs : Option (DirectoryRecoveryStore Dir)) (plan : SealedPlan)
  (endpoint : PlanEndpoint) (processInstanceId : String)

def recordOperation (operation : PlanOperation) (c : Connection Dir) :
    Except PlanningOutcome Unit × Connection Dir :=
  match operation.targetRelativePath with
  | none => (.error (.failed "PLAN_OPERATION_MISSING_TARGET_PATH"), c)
  | some _ =>
    match plannedRecoveryOperation py permit run target plan.singleSourceEndpoint operation with
    | .error code => (.error (.raised code), c)
    | .ok row =>
      match performCall py dirs (.recordPlannedOperation row processInstanceId
          (some (plannedPayload plan endpoint operation))) c with
      | (.error raised, c') => (.error (.failed raised.code), c')
      | (.ok _, c') => (.ok (), c')

/-- The loop over the selected operations. With `some n` left the process ends before the
`n`-th recording from here, and the open transaction with it. -/
def recordSelected : List PlanOperation → Option Nat → Nat → Connection Dir →
    PlanningOutcome × Connection Dir
  | [], _, recorded, c => (.planned recorded, c)
  | operation :: rest, left, recorded, c =>
    if left = some 0 then (.crashed, ⟨c.committed, c.committed, false⟩)
    else
      match recordOperation py permit run target dirs plan endpoint processInstanceId
        operation c with
      | (.error outcome, c') => (outcome, c')
      | (.ok (), c') => recordSelected rest (left.map (· - 1)) (recorded + 1) c'

end

structure PlanningScope where
  run : RunRow
  target : RunTargetRow
  plan : SealedPlan
  endpoint : PlanEndpoint
  operations : List PlanOperation

/-- The checks of `plan_run_target_recovery_operations`. -/
def planningScope (py : PythonLibrary) (verifies : SealedPlan → Bool)
    (plans : String → Option SealedPlan) (tables : RunTables) (permit : MutationPermit)
    (processInstanceId : String) : Except String PlanningScope :=
  if !nonBlank processInstanceId then
    .error "RUN_TARGET_OPERATION_PLANNING_REQUIRES_PROCESS_INSTANCE"
  else
    match tables.loadStartedRun permit.runId with
    | none => .error "RUN_NOT_FOUND"
    | some run =>
      if run.state ≠ .executing then .error "RUN_NOT_EXECUTING"
      else
        match tables.loadTarget permit.runId permit.runTargetId with
        | none => .error "RUN_TARGET_NOT_FOUND"
        | some target =>
          match targetValidationCode target permit, plans run.planId with
          | some code, _ => .error code
          | none, none => .error "PLAN_NOT_FOUND"
          | none, some plan =>
            match planValidationCode verifies plan run.planChecksum,
                operationBindingValidationCode py plan, targetEndpoint plan target with
            | some code, _, _ => .error code
            | none, some code, _ => .error code
            | none, none, none => .error "PLAN_TARGET_ENDPOINT_NOT_FOUND"
            | none, none, some endpoint =>
              if endpoint.endpointGeneration ≠ permit.endpointGeneration then
                .error "PLAN_TARGET_ENDPOINT_GENERATION_MISMATCH"
              else
                match operationScopeFromRun run.summary plan with
                | .error code => .error code
                | .ok scope =>
                  let operations := selectedOperations plan endpoint.endpointId scope
                  if (operations.length : Int) ≠ target.plannedOperations then
                    .error "RUN_OPERATION_SCOPE_COUNT_MISMATCH"
                  else if operations.any (·.operationType = .copyNew) &&
                      plan.singleSourceEndpoint.isNone then
                    .error "PLAN_OPERATION_PLANNING_REQUIRES_SINGLE_SOURCE"
                  else .ok { run, target, plan, endpoint, operations }

/-- In a process that ends after `crashAfter` recordings if that is given. -/
def planRunTargetRecoveryOperations {Dir : Type} (py : PythonLibrary)
    (dirs : Option (DirectoryRecoveryStore Dir)) (verifies : SealedPlan → Bool)
    (plans : String → Option SealedPlan) (tables : RunTables) (permit : MutationPermit)
    (processInstanceId : String) (crashAfter : Option Nat) (c : Connection Dir) :
    PlanningOutcome × Connection Dir :=
  match planningScope py verifies plans tables permit processInstanceId with
  | .error code => (.failed code, c)
  | .ok scope =>
    recordSelected py permit scope.run scope.target dirs scope.plan scope.endpoint
      processInstanceId scope.operations crashAfter 0 c

end MediaSync.Execution
