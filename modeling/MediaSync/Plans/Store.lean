import MediaSync.Foundation.JsonLines
import MediaSync.Foundation.Sessions
import MediaSync.Foundation.Table
import MediaSync.Plans.Checksum

/-! A sealed plan is saved as the rows of six tables in one transaction, and loaded from them with
its parts in the orders that sealing gave them. -/
namespace MediaSync.Plans
open Text

structure PlanRow where
  id : String
  analysisId : String
  deriving DecidableEq

structure PlannedOperationRow where
  planId : String
  id : String
  operationType : String
  deriving DecidableEq

structure OperationDependencyRow where
  planId : String
  beforeOperationId : String
  afterOperationId : String
  deriving DecidableEq

structure PlanEndpointRow where
  planId : String
  analysisId : String
  endpointId : String
  endpointRevisionId : String
  endpointGeneration : Int
  snapshotId : String
  role : String
  targetOrdinal : Option Int
  capabilitiesHash : String
  rootCaseContextHash : String
  requiredOwnerInstallationId : Option String
  requiredOwnershipEpoch : Option Int
  controlSchemaVersion : Option Int
  plannedOperations : Int
  plannedBytes : Int
  deriving DecidableEq

structure OperationDetailRow where
  planId : String
  operationId : String
  sequenceNo : Int
  executionPhase : Int
  stableOrderKey : String
  targetPreconditionKind : String
  reasonCode : String
  riskLevel : String
  targetEndpointId : Option String
  targetRelativePath : Option String
  sourceRelativePath : Option String
  sourcePreconditionJson : Option String
  deferredOperationType : Option String
  plannedBytes : Int
  deriving DecidableEq

structure SealDetailRow where
  planId : String
  analysisId : String
  jobId : String
  jobRevisionId : String
  parentPlanId : Option String
  plannerVersion : String
  planSchemaVersion : Int
  operationSchemaVersion : Int
  executionPolicy : String
  checksumAlgorithm : String
  serializerVersion : String
  planChecksum : String
  riskSummaryJson : String
  operationCount : Int
  plannedBytes : Int
  immutable : Int
  deriving DecidableEq

structure PlanTables where
  plans : List PlanRow := []
  plannedOperations : List PlannedOperationRow := []
  operationDependencies : List OperationDependencyRow := []
  planEndpoints : List PlanEndpointRow := []
  operationDetails : List OperationDetailRow := []
  sealDetails : List SealDetailRow := []
  deriving DecidableEq

structure ReferencedKeys where
  analyses : List String
  jobRevisions : List (String × String)
  analysisTargets : List (String × String)
  endpointRevisions : List (String × String × Int)
  snapshots : List (String × String × Int)

inductive PlanInsert where
  | plan (row : PlanRow)
  | operation (row : PlannedOperationRow)
  | dependency (row : OperationDependencyRow)
  | endpoint (row : PlanEndpointRow)
  | detail (row : OperationDetailRow)
  | sealing (row : SealDetailRow)

def PlanInsert.numbers : PlanInsert → List Int
  | .plan _ | .operation _ | .dependency _ => []
  | .endpoint row => row.endpointGeneration :: row.targetOrdinal.toList ++
      row.requiredOwnershipEpoch.toList ++ row.controlSchemaVersion.toList ++
      [row.plannedOperations, row.plannedBytes]
  | .detail row => [row.sequenceNo, row.executionPhase, row.plannedBytes]
  | .sealing row => [row.planSchemaVersion, row.operationSchemaVersion, row.operationCount,
      row.plannedBytes]

def PlanInsert.binds (statement : PlanInsert) : Bool := statement.numbers.all Table.fitsColumn

namespace PlanTables

variable (tables : PlanTables)

def sealed (planId : String) : Bool := tables.sealDetails.any (·.planId = planId)

def joinOperation (row : OperationDetailRow) : List (OperationDetailRow × PlannedOperationRow) :=
  (tables.plannedOperations.filter fun operation =>
    operation.planId = row.planId && operation.id = row.operationId).map (row, ·)

def joinedOperations (planId : String) : List (OperationDetailRow × PlannedOperationRow) :=
  (tables.operationDetails.filter (·.planId = planId)).flatMap tables.joinOperation

def insert : PlanInsert → PlanTables
  | .plan row => { tables with plans := tables.plans ++ [row] }
  | .operation row => { tables with plannedOperations := tables.plannedOperations ++ [row] }
  | .dependency row =>
    { tables with operationDependencies := tables.operationDependencies ++ [row] }
  | .endpoint row => { tables with planEndpoints := tables.planEndpoints ++ [row] }
  | .detail row => { tables with operationDetails := tables.operationDetails ++ [row] }
  | .sealing row => { tables with sealDetails := tables.sealDetails ++ [row] }

end PlanTables

def accepts (keys : ReferencedKeys) (tables : PlanTables) : PlanInsert → Bool
  | .plan row => (tables.plans.all fun other => other.id ≠ row.id) &&
      keys.analyses.contains row.analysisId
  | .operation row => !tables.sealed row.planId &&
      (tables.plannedOperations.all fun other => (other.planId, other.id) ≠ (row.planId, row.id)) &&
      tables.plans.any (·.id = row.planId)
  | .dependency row => !tables.sealed row.planId &&
      !tables.operationDependencies.contains row &&
      [row.beforeOperationId, row.afterOperationId].all fun operationId =>
        tables.plannedOperations.any fun operation =>
          (operation.planId, operation.id) = (row.planId, operationId)
  | .endpoint row => !tables.sealed row.planId &&
      ["SOURCE", "TARGET_WRITABLE", "TARGET_READONLY"].contains row.role &&
      (row.targetOrdinal.all fun ordinal => 0 ≤ ordinal) &&
      (row.requiredOwnershipEpoch.all fun epoch => 1 ≤ epoch) &&
      (row.controlSchemaVersion.all fun version => 1 ≤ version) &&
      0 ≤ row.plannedOperations && 0 ≤ row.plannedBytes && 1 ≤ row.endpointGeneration &&
      (row.role ≠ "TARGET_WRITABLE" || (row.targetOrdinal.isSome &&
        row.requiredOwnerInstallationId.isSome && row.requiredOwnershipEpoch.isSome &&
        row.controlSchemaVersion.isSome)) &&
      (tables.planEndpoints.all fun other => other.planId ≠ row.planId ||
        (other.endpointId ≠ row.endpointId && other.snapshotId ≠ row.snapshotId)) &&
      tables.plans.any (·.id = row.planId) &&
      keys.analysisTargets.contains (row.analysisId, row.endpointId) &&
      keys.endpointRevisions.contains
        (row.endpointId, row.endpointRevisionId, row.endpointGeneration) &&
      keys.snapshots.contains (row.snapshotId, row.endpointId, row.endpointGeneration)
  | .detail row => !tables.sealed row.planId &&
      0 ≤ row.sequenceNo && 0 ≤ row.executionPhase && 0 ≤ row.plannedBytes &&
      ["ABSENT", "MATCH_FINGERPRINT", "DIRECTORY_EMPTY", "NONE"].contains
        row.targetPreconditionKind &&
      ["LOW", "MEDIUM", "HIGH", "BLOCKED"].contains row.riskLevel &&
      (row.deferredOperationType.all
        ["COPY_NEW", "REPLACE_CHANGED", "CREATE_DIRECTORY"].contains) &&
      (tables.operationDetails.all fun other => other.planId ≠ row.planId ||
        (other.operationId ≠ row.operationId && other.sequenceNo ≠ row.sequenceNo)) &&
      (tables.plannedOperations.any fun operation =>
        (operation.planId, operation.id) = (row.planId, row.operationId)) &&
      row.targetEndpointId.all fun endpointId => tables.planEndpoints.any fun endpoint =>
        endpoint.planId = row.planId && endpoint.endpointId = endpointId &&
          endpoint.role = "TARGET_WRITABLE"
  | .sealing row => row.planChecksum.length = 64 && 0 < row.operationCount &&
      0 ≤ row.plannedBytes && row.immutable = 1 && !tables.sealed row.planId &&
      tables.plans.any (·.id = row.planId) &&
      (row.parentPlanId.all fun parent => tables.plans.any (·.id = parent)) &&
      keys.jobRevisions.contains (row.jobId, row.jobRevisionId) &&
      -- trg_plan_operation_v3_requires_source_precondition
      !(3 ≤ row.operationSchemaVersion && (tables.joinedOperations row.planId).any fun joined =>
        joined.2.operationType = "COPY_NEW" &&
          (joined.1.sourceRelativePath.isNone || joined.1.sourcePreconditionJson.isNone)) &&
      -- trg_plan_operation_v2_requires_target_binding
      !(2 ≤ row.operationSchemaVersion &&
        (tables.planEndpoints.any fun endpoint => endpoint.planId = row.planId &&
          endpoint.role = "TARGET_WRITABLE") &&
        (tables.joinedOperations row.planId).any fun joined =>
          ["COPY_NEW", "CREATE_DIRECTORY"].contains joined.2.operationType &&
            joined.1.targetEndpointId.isNone)

def PlanOperation.plannedRow (planId : String) (operation : PlanOperation) :
    PlannedOperationRow where
  planId := planId
  id := operation.operationId
  operationType := operation.operationType.value

def PlanDependency.row (planId : String) (dependency : PlanDependency) :
    OperationDependencyRow where
  planId := planId
  beforeOperationId := dependency.beforeOperationId
  afterOperationId := dependency.afterOperationId

def PlanEndpoint.row (planId analysisId : String) (endpoint : PlanEndpoint) : PlanEndpointRow where
  planId := planId
  analysisId := analysisId
  endpointId := endpoint.endpointId
  endpointRevisionId := endpoint.endpointRevisionId
  endpointGeneration := endpoint.endpointGeneration
  snapshotId := endpoint.snapshotId
  role := endpoint.role.value
  targetOrdinal := endpoint.targetOrdinal
  capabilitiesHash := endpoint.capabilitiesHash
  rootCaseContextHash := endpoint.rootCaseContextHash
  requiredOwnerInstallationId := endpoint.requiredOwnerInstallationId
  requiredOwnershipEpoch := endpoint.requiredOwnershipEpoch
  controlSchemaVersion := endpoint.controlSchemaVersion
  plannedOperations := endpoint.plannedOperations
  plannedBytes := endpoint.plannedBytes

def PlanOperation.detailRow (planId : String) (operation : PlanOperation) : OperationDetailRow where
  planId := planId
  operationId := operation.operationId
  sequenceNo := operation.sequenceNo
  executionPhase := operation.executionPhase
  stableOrderKey := operation.stableOrderKey
  targetPreconditionKind := operation.targetPreconditionKind.value
  reasonCode := operation.reasonCode
  riskLevel := operation.riskLevel.value
  targetEndpointId := operation.targetEndpointId
  targetRelativePath := operation.targetRelativePath
  sourceRelativePath := operation.sourceRelativePath
  sourcePreconditionJson := operation.sourcePreconditionJson
  deferredOperationType := operation.deferredOperationType.map OperationType.value
  plannedBytes := operation.plannedBytes

def jsonDump (summary : Json.Mapping) : String := (Json.obj summary.fields).dump

namespace PlanRecord

variable (plan : PlanRecord)

def sealRow : SealDetailRow where
  planId := plan.planId
  analysisId := plan.analysisId
  jobId := plan.jobId
  jobRevisionId := plan.jobRevisionId
  parentPlanId := plan.parentPlanId
  plannerVersion := plan.plannerVersion
  planSchemaVersion := plan.planSchemaVersion
  operationSchemaVersion := plan.operationSchemaVersion
  executionPolicy := plan.executionPolicy
  checksumAlgorithm := plan.checksumAlgorithm
  serializerVersion := plan.serializerVersion
  planChecksum := plan.planChecksum
  riskSummaryJson := jsonDump plan.riskSummary
  operationCount := plan.operationCount
  plannedBytes := plan.plannedBytes
  immutable := 1

/-- The statements of `save_sealed_plan`, in their order. -/
def inserts : List PlanInsert :=
  [.plan ⟨plan.planId, plan.analysisId⟩] ++
    plan.operations.map (fun operation => .operation (operation.plannedRow plan.planId)) ++
    plan.dependencies.map (fun dependency => .dependency (dependency.row plan.planId)) ++
    plan.endpoints.map (fun endpoint => .endpoint (endpoint.row plan.planId plan.analysisId)) ++
    plan.operations.map (fun operation => .detail (operation.detailRow plan.planId)) ++
    [.sealing plan.sealRow]

end PlanRecord

inductive SaveRaised where
  /-- `sqlite3.Error`, raised on as `SEALED_PLAN_PERSISTENCE_FAILED`. -/
  | persistenceFailed
  /-- `OverflowError`, raised while a number is bound. -/
  | overflow
  deriving DecidableEq

/-- The exceptions that the handler of `save_sealed_plan` catches. -/
def SaveRaised.caught : SaveRaised → Bool
  | .persistenceFailed => true
  | .overflow => false

structure Faults where
  beginning : Bool := false
  statement : Nat → Bool := fun _ => false
  commit : Bool := false

def execute (keys : ReferencedKeys) (faulty : Bool) (statement : PlanInsert) :
    Procedure PlanTables SaveRaised Unit := fun tables =>
  if !statement.binds then (.error .overflow, tables)
  else if faulty || !accepts keys tables statement then (.error .persistenceFailed, tables)
  else (.ok (), tables.insert statement)

/-- The statements one after another; `n` were executed before. -/
def executeAll (keys : ReferencedKeys) (faulty : Nat → Bool) :
    Nat → List PlanInsert → Procedure PlanTables SaveRaised Unit
  | _, [] => pure ()
  | n, statement :: rest => do
    execute keys (faulty n) statement
    executeAll keys faulty (n + 1) rest

def boundary (fails : Bool) : Procedure PlanTables SaveRaised Unit :=
  if fails then Procedure.raise .persistenceFailed else pure ()

def saveSealedPlan (keys : ReferencedKeys) (faults : Faults) (plan : PlanRecord) :
    Procedure (Session PlanTables) SaveRaised Unit := fun c =>
  Session.immediate SaveRaised.caught (do
    boundary (c.saved.isNone && faults.beginning)
    executeAll keys faults.statement 0 plan.inserts
    boundary (c.saved.isNone && faults.commit)) c

inductive LoadRaised where
  /-- `ValueError` of an enumeration. -/
  | unknownValue (text : String)
  /-- `SEALED_PLAN_JSON_INVALID`. -/
  | jsonInvalid
  deriving DecidableEq

def member {α : Type} (members : List α) (value : α → String) (text : String) :
    Except LoadRaised α :=
  match members.find? fun member => value member = text with
  | some member => .ok member
  | none => .error (.unknownValue text)

def OperationType.load : String → Except LoadRaised OperationType :=
  member [.copyNew, .replaceChanged, .createDirectory, .skipIdentical, .deferAutomationPolicy,
    .blockEndpointCapabilitiesUnknown] OperationType.value

def PreconditionKind.load : String → Except LoadRaised PreconditionKind :=
  member [.absent, .matchFingerprint, .directoryEmpty, .none] PreconditionKind.value

def RiskLevel.load : String → Except LoadRaised RiskLevel :=
  member [.low, .medium, .high, .blocked] RiskLevel.value

def EndpointRole.load : String → Except LoadRaised EndpointRole :=
  member [.source, .targetWritable, .targetReadonly] EndpointRole.value

def ordinalBefore : Option Int → Option Int → Prop
  | none, some _ => True
  | some a, some b => a < b
  | _, none => False

instance : DecidableRel ordinalBefore
  | none, some _ => isTrue trivial
  | some a, some b => inferInstanceAs (Decidable (a < b))
  | none, none | some _, none => isFalse id

/-- `ORDER BY role, target_ordinal, endpoint_id`. -/
def endpointRowOrder (a b : PlanEndpointRow) : Prop :=
  a.role < b.role ∨ a.role = b.role ∧
    (ordinalBefore a.targetOrdinal b.targetOrdinal ∨ a.targetOrdinal = b.targetOrdinal ∧
      a.endpointId ≤ b.endpointId)

instance : DecidableRel endpointRowOrder := fun a b => by unfold endpointRowOrder; infer_instance

/-- `ORDER BY before_operation_id, after_operation_id`. -/
def dependencyRowOrder (a b : OperationDependencyRow) : Prop :=
  a.beforeOperationId < b.beforeOperationId ∨ a.beforeOperationId = b.beforeOperationId ∧
    a.afterOperationId ≤ b.afterOperationId

instance : DecidableRel dependencyRowOrder := fun a b => by
  unfold dependencyRowOrder; infer_instance

/-- `ORDER BY details.sequence_no`. -/
def joinedOrder (a b : OperationDetailRow × PlannedOperationRow) : Prop :=
  a.1.sequenceNo ≤ b.1.sequenceNo

instance : DecidableRel joinedOrder := fun a b => by unfold joinedOrder; infer_instance

def PlanEndpointRow.load (row : PlanEndpointRow) : Except LoadRaised PlanEndpoint := do
  let role ← EndpointRole.load row.role
  return {
    endpointId := row.endpointId
    endpointRevisionId := row.endpointRevisionId
    snapshotId := row.snapshotId
    role
    capabilitiesHash := row.capabilitiesHash
    rootCaseContextHash := row.rootCaseContextHash
    endpointGeneration := row.endpointGeneration
    targetOrdinal := row.targetOrdinal
    requiredOwnerInstallationId := row.requiredOwnerInstallationId
    requiredOwnershipEpoch := row.requiredOwnershipEpoch
    controlSchemaVersion := row.controlSchemaVersion
    plannedOperations := row.plannedOperations
    plannedBytes := row.plannedBytes }

def loadOperation (row : OperationDetailRow × PlannedOperationRow) :
    Except LoadRaised PlanOperation := do
  let operationType ← OperationType.load row.2.operationType
  let targetPreconditionKind ← PreconditionKind.load row.1.targetPreconditionKind
  let riskLevel ← RiskLevel.load row.1.riskLevel
  let deferredOperationType ← row.1.deferredOperationType.mapM OperationType.load
  return {
    operationId := row.1.operationId
    operationType
    sequenceNo := row.1.sequenceNo
    executionPhase := row.1.executionPhase
    stableOrderKey := row.1.stableOrderKey
    targetPreconditionKind
    reasonCode := row.1.reasonCode
    riskLevel
    targetEndpointId := row.1.targetEndpointId
    targetRelativePath := row.1.targetRelativePath
    sourceRelativePath := row.1.sourceRelativePath
    sourcePreconditionJson := row.1.sourcePreconditionJson
    deferredOperationType
    plannedBytes := row.1.plannedBytes }

def jsonObject (text : String) : Except LoadRaised Json.Mapping :=
  match h : Json.loads text with
  | some (.obj fields) => .ok ⟨fields, Json.distinct_of_loads h⟩
  | _ => .error .jsonInvalid

section
variable (tables : PlanTables) (planId : String)

def loadEndpoints : Except LoadRaised (List PlanEndpoint) :=
  ((tables.planEndpoints.filter (·.planId = planId)).insertionSort endpointRowOrder).mapM
    PlanEndpointRow.load

def loadOperations : Except LoadRaised (List PlanOperation) :=
  ((tables.joinedOperations planId).insertionSort joinedOrder).mapM loadOperation

def loadDependencies : List PlanDependency :=
  ((tables.operationDependencies.filter (·.planId = planId)).insertionSort dependencyRowOrder).map
    fun row => ⟨row.beforeOperationId, row.afterOperationId⟩

def loadSealedPlan : Except LoadRaised (Option PlanRecord) :=
  match tables.sealDetails.find? (·.planId = planId) with
  | none => .ok none
  | some row => do
    let riskSummary ← jsonObject row.riskSummaryJson
    let endpoints ← loadEndpoints tables planId
    let operations ← loadOperations tables planId
    return some {
      planId := row.planId
      analysisId := row.analysisId
      jobId := row.jobId
      jobRevisionId := row.jobRevisionId
      parentPlanId := row.parentPlanId
      plannerVersion := row.plannerVersion
      planSchemaVersion := row.planSchemaVersion
      operationSchemaVersion := row.operationSchemaVersion
      executionPolicy := row.executionPolicy
      checksumAlgorithm := row.checksumAlgorithm
      serializerVersion := row.serializerVersion
      planChecksum := row.planChecksum
      riskSummary
      operationCount := row.operationCount
      plannedBytes := row.plannedBytes
      immutable := row.immutable ≠ 0
      endpoints
      operations
      dependencies := loadDependencies tables planId }

end

/-- What the references of the tables to `plans` and `planned_operations` guarantee. -/
structure PlanTables.Consistent (tables : PlanTables) : Prop where
  operations : ∀ row ∈ tables.plannedOperations, row.planId ∈ tables.plans.map PlanRow.id
  dependencies : ∀ row ∈ tables.operationDependencies, row.planId ∈ tables.plans.map PlanRow.id
  endpoints : ∀ row ∈ tables.planEndpoints, row.planId ∈ tables.plans.map PlanRow.id
  details : ∀ row ∈ tables.operationDetails, row.planId ∈ tables.plans.map PlanRow.id
  sealings : ∀ row ∈ tables.sealDetails, row.planId ∈ tables.plans.map PlanRow.id

theorem filter_eq_nil_of_new {tables : PlanTables} {Row : Type} {planId : Row → String}
    {rows : List Row} {id : String}
    (hrefers : ∀ row ∈ rows, planId row ∈ tables.plans.map PlanRow.id)
    (hnew : id ∉ tables.plans.map PlanRow.id) : rows.filter (planId · = id) = [] := by
  refine List.filter_eq_nil_iff.mpr fun row hrow heq => hnew ?_
  exact of_decide_eq_true heq ▸ hrefers row hrow

/-- The statements are accepted one after another. -/
def Admitted (keys : ReferencedKeys) : PlanTables → List PlanInsert → Prop
  | _, [] => True
  | tables, statement :: rest => accepts keys tables statement = true ∧
      Admitted keys (tables.insert statement) rest

def Overflows (keys : ReferencedKeys) (tables : PlanTables) (statements : List PlanInsert) : Prop :=
  ∃ before statement after, statements = before ++ statement :: after ∧
    statement.binds = false ∧ Admitted keys tables before

section
variable {keys : ReferencedKeys} {faulty : Nat → Bool} {statements : List PlanInsert}

variable {tables tables' : PlanTables}

theorem execute_ok {fault : Bool} {statement : PlanInsert}
    (h : execute keys fault statement tables = (.ok (), tables')) :
    accepts keys tables statement = true ∧ tables' = tables.insert statement := by
  unfold execute at h
  split at h
  · cases h
  · split at h
    · cases h
    · rename_i haccepted
      cases h
      rw [Bool.or_eq_true, not_or, Bool.not_eq_true', Bool.not_eq_false] at haccepted
      exact ⟨haccepted.2, rfl⟩

theorem executeAll_ok {n : Nat}
    (h : executeAll keys faulty n statements tables = (.ok (), tables')) :
    Admitted keys tables statements ∧ tables' = statements.foldl PlanTables.insert tables := by
  induction statements generalizing n tables with
  | nil =>
    cases h
    exact ⟨trivial, rfl⟩
  | cons statement rest ih =>
    rcases Procedure.bind_cases (execute keys (faulty n) statement)
      (fun _ => executeAll keys faulty (n + 1) rest) tables with
      ⟨raised, m, -, hbind⟩ | ⟨⟨⟩, m, hfirst, hbind⟩
    · rw [executeAll, hbind] at h
      cases h
    · rw [executeAll, hbind] at h
      obtain ⟨haccepted, rfl⟩ := execute_ok hfirst
      obtain ⟨hrest, hafter⟩ := ih h
      exact ⟨⟨haccepted, hrest⟩, hafter⟩

theorem Overflows.cons {tables : PlanTables} {statement : PlanInsert}
    (haccepted : accepts keys tables statement = true)
    (h : Overflows keys (tables.insert statement) statements) :
    Overflows keys tables (statement :: statements) := by
  obtain ⟨before, unfit, after, rfl, hunfit, hadmitted⟩ := h
  exact ⟨statement :: before, unfit, after, rfl, hunfit, haccepted, hadmitted⟩

theorem overflows_of_raised {n : Nat} {tables : PlanTables}
    (h : (executeAll keys faulty n statements tables).1 = .error .overflow) :
    Overflows keys tables statements := by
  induction statements generalizing n tables with
  | nil => cases h
  | cons statement rest ih =>
    rcases Procedure.bind_cases (execute keys (faulty n) statement)
      (fun _ => executeAll keys faulty (n + 1) rest) tables with
      ⟨raised, m, hfirst, hbind⟩ | ⟨⟨⟩, m, hfirst, hbind⟩
    · rw [executeAll, hbind] at h
      obtain rfl : raised = .overflow := by simpa using h
      refine ⟨[], statement, rest, rfl, ?_, trivial⟩
      cases hbinds : statement.binds with
      | false => rfl
      | true =>
        simp only [execute, hbinds, Bool.not_true, Bool.false_eq_true, if_false] at hfirst
        split at hfirst <;> cases hfirst
    · rw [executeAll, hbind] at h
      obtain ⟨haccepted, rfl⟩ := execute_ok hfirst
      exact (ih h).cons haccepted

theorem raised_of_overflows {n : Nat} {tables : PlanTables}
    (h : Overflows keys tables statements) :
    (executeAll keys (fun _ => false) n statements tables).1 = .error .overflow := by
  obtain ⟨before, unfit, after, rfl, hunfit, hadmitted⟩ := h
  induction before generalizing n tables with
  | nil =>
    have hfirst : execute keys false unfit tables = (.error .overflow, tables) := by
      simp [execute, hunfit]
    rw [List.nil_append, executeAll, Procedure.bind_error hfirst]
  | cons statement before ih =>
    cases hbinds : statement.binds with
    | false =>
      have hfirst : execute keys false statement tables = (.error .overflow, tables) := by
        simp [execute, hbinds]
      rw [List.cons_append, executeAll, Procedure.bind_error hfirst]
    | true =>
      have hfirst : execute keys false statement tables = (.ok (), tables.insert statement) := by
        simp [execute, hbinds, hadmitted.1]
      rw [List.cons_append, executeAll, Procedure.bind_ok hfirst]
      exact ih hadmitted.2

end

end MediaSync.Plans
