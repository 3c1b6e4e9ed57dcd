import MediaSync.Foundation.Text

/-! The operations, dependencies and endpoints of a plan, as `plans.py` has them. -/
namespace MediaSync.Plans

/-- `PlanOperationType`. -/
inductive OperationType where
  | copyNew
  | replaceChanged
  | createDirectory
  | skipIdentical
  | deferAutomationPolicy
  | blockEndpointCapabilitiesUnknown
  deriving DecidableEq

def OperationType.value : OperationType → String
  | .copyNew => "COPY_NEW"
  | .replaceChanged => "REPLACE_CHANGED"
  | .createDirectory => "CREATE_DIRECTORY"
  | .skipIdentical => "SKIP_IDENTICAL"
  | .deferAutomationPolicy => "DEFER_AUTOMATION_POLICY"
  | .blockEndpointCapabilitiesUnknown => "BLOCK_ENDPOINT_CAPABILITIES_UNKNOWN"

/-- `TargetPreconditionKind`. -/
inductive PreconditionKind where
  | absent
  | matchFingerprint
  | directoryEmpty
  | none
  deriving DecidableEq

inductive RiskLevel where
  | low
  | medium
  | high
  | blocked
  deriving DecidableEq

inductive EndpointRole where
  | source
  | targetWritable
  | targetReadonly
  deriving DecidableEq

def mutatingOperationTypes : List OperationType := [.copyNew, .createDirectory]

/-- One step of a plan, in the order of `sequenceNo`. -/
structure PlanOperation where
  operationId : String
  operationType : OperationType
  sequenceNo : Int
  executionPhase : Int
  stableOrderKey : String
  targetPreconditionKind : PreconditionKind
  reasonCode : String
  riskLevel : RiskLevel
  targetEndpointId : Option String := none
  targetRelativePath : Option String := none
  sourceRelativePath : Option String := none
  sourcePreconditionJson : Option String := none
  deferredOperationType : Option OperationType := none
  plannedBytes : Int := 0
  deriving DecidableEq

def PlanOperation.mutating (operation : PlanOperation) : Bool :=
  mutatingOperationTypes.contains operation.operationType

structure PlanDependency where
  beforeOperationId : String
  afterOperationId : String
  deriving DecidableEq

/-- A source or a target, with the snapshot that the plan was made from. -/
structure PlanEndpoint where
  endpointId : String
  endpointRevisionId : String
  snapshotId : String
  role : EndpointRole
  capabilitiesHash : String
  rootCaseContextHash : String
  endpointGeneration : Int
  targetOrdinal : Option Int := none
  requiredOwnerInstallationId : Option String := none
  requiredOwnershipEpoch : Option Int := none
  controlSchemaVersion : Option Int := none
  plannedOperations : Int := 0
  plannedBytes : Int := 0
  deriving DecidableEq

structure SealedPlan where
  planId : String
  jobId : String
  jobRevisionId : String
  endpoints : List PlanEndpoint
  operations : List PlanOperation
  dependencies : List PlanDependency
  operationSchemaVersion : Int
  executionPolicy : String
  planChecksum : String
  immutable : Bool := true
  uniqueIds : (operations.map PlanOperation.operationId).Nodup
  uniqueSequence : (operations.map PlanOperation.sequenceNo).Nodup
  knownDependencies : ∀ dependency ∈ dependencies,
    dependency.beforeOperationId ∈ operations.map PlanOperation.operationId ∧
      dependency.afterOperationId ∈ operations.map PlanOperation.operationId

namespace SealedPlan

variable (plan : SealedPlan)

/-- `writable_target_endpoints`. -/
def writableTargetEndpoints : List PlanEndpoint :=
  plan.endpoints.filter (·.role = .targetWritable)

def singleSourceEndpoint : Option PlanEndpoint :=
  match plan.endpoints.filter (·.role = .source) with
  | [source] => some source
  | _ => none

end SealedPlan

end MediaSync.Plans
