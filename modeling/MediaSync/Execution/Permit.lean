import MediaSync.Recovery.OperationStore
import MediaSync.Runs.Tables

/-! The mutation permit a live lease issues, the checks that bind targets and operations to it, and
the queries of the recovery operation store that the executor makes. -/
namespace MediaSync.Execution
open Recovery Runs

structure MutationPermit where
  leaseId : String
  resourceKey : String
  ownerInstallationId : String
  ownershipEpoch : Int
  fencingToken : Int
  runId : String
  runTargetId : String
  endpointId : String
  endpointRevisionId : String
  endpointGeneration : Int
  deriving DecidableEq

def targetPermitMismatch (target : RunTargetRow) (permit : MutationPermit) : Bool :=
  target.endpointId ≠ permit.endpointId ||
    target.endpointRevisionId ≠ permit.endpointRevisionId ||
    target.leaseResourceKey ≠ some permit.resourceKey ||
    target.lastLeaseId ≠ some permit.leaseId ||
    target.lastOwnershipEpoch ≠ some permit.ownershipEpoch ||
    target.lastFencingToken ≠ some permit.fencingToken ||
    !target.requiredOwnerInstallationId.all (· = permit.ownerInstallationId) ||
    !target.requiredOwnershipEpoch.all (· = permit.ownershipEpoch)

def staticBinding (operation : RecoveryOperation) (permit : MutationPermit) : Bool :=
  operation.runId = permit.runId && operation.runTargetId = permit.runTargetId &&
    operation.targetEndpointId = permit.endpointId &&
    operation.targetEndpointRevisionId = permit.endpointRevisionId &&
    operation.ownerInstallationId = permit.ownerInstallationId &&
    operation.ownershipEpoch = permit.ownershipEpoch &&
    operation.leaseResourceKey = permit.resourceKey

def sameLease (operation : RecoveryOperation) (permit : MutationPermit) : Bool :=
  operation.leaseId = permit.leaseId && operation.fencingToken = permit.fencingToken

section
variable (operations : List RecoveryOperation) (runId runTargetId : String)

/-- `ORDER BY plan_sequence_no, operation_id`. -/
def planOrder (a b : RecoveryOperation) : Bool :=
  a.planSequenceNo < b.planSequenceNo ||
    (a.planSequenceNo = b.planSequenceNo && decide (a.operationId ≤ b.operationId))

def listOperationsForRunTarget (limit : Nat) : List RecoveryOperation :=
  ((operations.filter fun row => row.runId = runId && row.runTargetId = runTargetId).insertionSort
    (planOrder · ·)).take limit

def listOperationsForRunTargetInPhase (phase : Phase) (limit : Nat) : List RecoveryOperation :=
  ((operations.filter fun row =>
    row.runId = runId && row.runTargetId = runTargetId && row.phase = phase).insertionSort
      (planOrder · ·)).take limit

def hasPhase (phase : Phase) (limit : Nat) : Bool :=
  !(listOperationsForRunTargetInPhase operations runId runTargetId phase (max limit 1)).isEmpty

def phaseCount (phase : Phase) (limit : Nat) : Nat :=
  (listOperationsForRunTargetInPhase operations runId runTargetId phase (max limit 1)).length

/-- The phases `_has_any_operation` looks at. -/
def plannedPhases : List Phase :=
  Phase.stagingPhases ++ [.stagingVerified, .commitIntentRecorded,
    .commitPreconditionsRevalidated, .oldTargetPreserved, .filesystemApplied, .finalDurable,
    .finalVerified, .catalogRecorded, .cleaned, .skipped]

/-- `target.planned_operations + 1`, the limit of the executor's queries. -/
def queryLimit (plannedOperations : Int) : Nat := (plannedOperations + 1).toNat

def hasAnyOperation (plannedOperations : Int) : Bool :=
  plannedPhases.any fun phase =>
    hasPhase operations runId runTargetId phase (queryLimit plannedOperations)

variable {operations runId runTargetId}

theorem mem_inPhase {phase : Phase} {limit : Nat} {operation : RecoveryOperation}
    (h : operation ∈ listOperationsForRunTargetInPhase operations runId runTargetId phase limit) :
    operation ∈ operations ∧ operation.runId = runId ∧ operation.runTargetId = runTargetId ∧
      operation.phase = phase := by
  have hmem := List.mem_filter.mp ((List.mem_insertionSort _).mp (List.mem_of_mem_take h))
  simpa [and_assoc] using hmem

theorem hasPhase_iff {phase : Phase} {limit : Nat} :
    hasPhase operations runId runTargetId phase limit = true ↔
      ∃ operation ∈ operations, operation.runId = runId ∧ operation.runTargetId = runTargetId ∧
        operation.phase = phase := by
  unfold hasPhase
  rw [Bool.not_eq_true', List.isEmpty_eq_false_iff_exists_mem]
  constructor
  · rintro ⟨operation, hmem⟩
    exact ⟨operation, mem_inPhase hmem⟩
  · rintro ⟨operation, hmem, hrow⟩
    have hsorted : operation ∈ (operations.filter fun row =>
        row.runId = runId && row.runTargetId = runTargetId && row.phase = phase).insertionSort
          (planOrder · ·) :=
      (List.mem_insertionSort _).mpr (List.mem_filter.mpr ⟨hmem, by simp [hrow]⟩)
    have hpos : 0 < (listOperationsForRunTargetInPhase operations runId runTargetId phase
        (max limit 1)).length := by
      unfold listOperationsForRunTargetInPhase
      rw [List.length_take]
      have := List.length_pos_of_mem hsorted
      omega
    exact List.exists_mem_of_length_pos hpos

theorem hasAnyOperation_iff {plannedOperations : Int} :
    hasAnyOperation operations runId runTargetId plannedOperations = true ↔
      ∃ operation ∈ operations, operation.runId = runId ∧ operation.runTargetId = runTargetId ∧
        operation.phase ∈ plannedPhases := by
  unfold hasAnyOperation
  rw [List.any_eq_true]
  constructor
  · rintro ⟨phase, hphase, hhas⟩
    obtain ⟨operation, hmem, hr, hx, rfl⟩ := hasPhase_iff.mp hhas
    exact ⟨operation, hmem, hr, hx, hphase⟩
  · rintro ⟨operation, hmem, hr, hx, hphase⟩
    exact ⟨operation.phase, hphase, hasPhase_iff.mpr ⟨operation, hmem, hr, hx, rfl⟩⟩

end

end MediaSync.Execution
