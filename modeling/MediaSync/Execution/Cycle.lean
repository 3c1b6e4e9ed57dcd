import MediaSync.Execution.Audit
import MediaSync.Execution.TargetCompletion
import MediaSync.Recovery.JournalSafety

/-! `_advance_retained_target`: after the operation audit and the cleanup of intent evidence, the
cycle looks for work in a fixed order of phases and either hands one operation to a step, cleans a
recovery object, completes the target, or waits. -/
namespace MediaSync.Execution
open Text Recovery Runs

structure CleanupReceipt where
  operationId : String
  finalRelativePath : String
  cleanedObjectIds : List String

structure CyclePorts (Dir : Type) where
  py : PythonLibrary
  dirs : Option (DirectoryRecoveryStore Dir)
  processInstanceId : String
  operationAudits : Option AuditStore
  intentSegmentLifecycle : Bool
  targetIntentCleanup : Option (MutationPermit → IntentSegment → Except String Bool)
  recoveryObjectCleanup : Option (MutationPermit → RecoveryOperation →
    Except String CleanupReceipt)
  stagingTransfer : Bool

inductive ExecutorStep where
  | recordCatalogHandoff
  | commitPreserved
  | commitIntent
  | rebindLease (operation : RecoveryOperation)
  | publishIntent
  | planOperations
  | stage

inductive CycleOutcome (Dir : Type) where
  | raised (code : String)
  | blocked (code : String)
  | waitingForStaging (code : String)
  | auditRecorded (operationId : String)
  | intentAdvanced (c : Connection Dir)
  | recoveryObjectCleaned (c : Connection Dir)
  | targetClosed (t : RunTables)
  | handedTo (step : ExecutorStep)

inductive IntentCleanupOutcome (Dir : Type) where
  | idle (allCleaned : Bool)
  | advanced (c : Connection Dir)
  | blocked (code : String)

section
variable {Dir : Type}

def nextLifecycleCandidate (t : Tables Dir) (runId runTargetId : String) : Option IntentSegment :=
  firstBy (fun a b => a.segmentSequence < b.segmentSequence ||
      (a.segmentSequence = b.segmentSequence && decide (a.segmentId ≤ b.segmentId)))
    (t.segments.filter fun segment => segment.runId = runId && segment.runTargetId = runTargetId &&
      [SegmentState.durable, .reconciled, .cleanupEligible].contains segment.state)

def segmentMatchesPermit (segment : IntentSegment) (permit : MutationPermit) : Bool :=
  segment.runId = permit.runId && segment.runTargetId = permit.runTargetId &&
    segment.targetEndpointId = permit.endpointId &&
    segment.targetEndpointRevisionId = permit.endpointRevisionId &&
    segment.ownerInstallationId = permit.ownerInstallationId &&
    segment.ownershipEpoch = permit.ownershipEpoch

def intentSegmentReconciliationReady (t : Tables Dir) (candidate : IntentSegment) : Bool :=
  candidate.state = .durable &&
    (targetOperations t candidate.runId candidate.runTargetId).all (·.phase.isTerminal) &&
    (t.operations.any (·.intentSegmentId = some candidate.segmentId) ||
      t.segments.any fun later =>
        later.runId = candidate.runId && later.runTargetId = candidate.runTargetId &&
          candidate.segmentSequence < later.segmentSequence &&
          later.previousSegmentHash = some candidate.segmentHash)

def transitionSegment (segment : IntentSegment) (nextState : SegmentState) (c : Connection Dir) :
    IntentCleanupOutcome Dir :=
  match c.execute (transitionIntentSegmentState segment.segmentId segment.state nextState) with
  | (.error raised, _) => .blocked raised.code
  | (.ok false, _) => .blocked "RUN_INTENT_CLEANUP_STATE_CONFLICT"
  | (.ok true, c') => .advanced c'

def advanceIntentCleanup (cleanup : MutationPermit → IntentSegment → Except String Bool)
    (permit : MutationPermit) (c : Connection Dir) : IntentCleanupOutcome Dir :=
  match nextLifecycleCandidate c.current permit.runId permit.runTargetId with
  | none => .idle true
  | some segment =>
    if !segmentMatchesPermit segment permit then .blocked "RUN_INTENT_CLEANUP_PERMIT_MISMATCH"
    else
      match segment.state with
      | .durable =>
        if intentSegmentReconciliationReady c.current segment then
          transitionSegment segment .reconciled c
        else .idle false
      | .reconciled => transitionSegment segment .cleanupEligible c
      | .cleanupEligible =>
        match cleanup permit segment with
        | .error code => .blocked code
        | .ok false => .advanced c
        | .ok true => transitionSegment segment .cleaned c
      | _ => .blocked "RUN_INTENT_CLEANUP_STATE_INVALID"

end

def staleLeaseOperation (operations : List RecoveryOperation) (permit : MutationPermit) :
    List Phase → Nat → Option RecoveryOperation
  | [], _ => none
  | phase :: rest, remaining =>
    if remaining < 1 then none
    else
      let listed := listOperationsForRunTargetInPhase operations permit.runId permit.runTargetId
        phase remaining
      match listed.find? fun row => !staticBinding row permit || !sameLease row permit with
      | some row => some row
      | none => staleLeaseOperation operations permit rest (remaining - listed.length)

/-- The checks of `rebind_next_run_target_recovery_operation_lease`, and the operation it works
on. -/
def nextRebind (processInstanceId : String) (operations : List RecoveryOperation)
    (permit : MutationPermit) (maxOperations : Int) : Except String (Option RecoveryOperation) :=
  if !nonBlank processInstanceId then
    .error "RUN_TARGET_OPERATION_LEASE_REBIND_REQUIRES_PROCESS_INSTANCE"
  else if maxOperations < 1 then
    .error "RUN_TARGET_OPERATION_LEASE_REBIND_REQUIRES_POSITIVE_LIMIT"
  else if 1000 < maxOperations then .error "RUN_TARGET_OPERATION_LEASE_REBIND_LIMIT_TOO_LARGE"
  else
    .ok (staleLeaseOperation operations permit Phase.preCommitLeaseRebindPhases
      maxOperations.toNat)

def requiresCleanup (operation : RecoveryOperation) : Bool :=
  someNonBlank operation.stagingObjectId || operation.operationKind = .createDirectory

/-- `value.replace("\\", "/")`. -/
def slashed (value : String) : List Char := value.toList.map fun c => if c = '\\' then '/' else c

def cleanupReceiptCode (operation : RecoveryOperation) (receipt : CleanupReceipt) : Option String :=
  let expected := (operation.stagingObjectId.toList ++
    if operation.operationKind = .createDirectory then [operation.operationId] else []).filter
      nonBlank
  if receipt.operationId ≠ operation.operationId then
    some "RUN_TARGET_RECOVERY_OBJECT_CLEANUP_RECEIPT_OPERATION_MISMATCH"
  else if slashed receipt.finalRelativePath ≠ slashed operation.finalRelativePath then
    some "RUN_TARGET_RECOVERY_OBJECT_CLEANUP_RECEIPT_PATH_MISMATCH"
  else if !expected.all receipt.cleanedObjectIds.contains then
    some "RUN_TARGET_RECOVERY_OBJECT_CLEANUP_RECEIPT_OBJECT_MISMATCH"
  else none

inductive CleanupOutcome (Dir : Type) where
  | idle
  | cleaned (c : Connection Dir)
  | failed (code : String)
  | raised (code : String)

def cleanedTransition (operation : RecoveryOperation) (receipt : CleanupReceipt)
    (processInstanceId : String) : TransitionArgs where
  runId := operation.runId
  operationId := operation.operationId
  expectedPhase := .catalogRecorded
  nextPhase := .cleaned
  processInstanceId
  payload := some [("cleaned_object_ids", .arr (receipt.cleanedObjectIds.map .str)),
    ("final_relative_path", .str receipt.finalRelativePath)]

def cleanupRecoveryObject {Dir : Type} (ports : CyclePorts Dir)
    (cleanup : MutationPermit → RecoveryOperation → Except String CleanupReceipt)
    (permit : MutationPermit) (maxOperations : Int) (c : Connection Dir) : CleanupOutcome Dir :=
  if !nonBlank ports.processInstanceId then
    .failed "RUN_TARGET_RECOVERY_OBJECT_CLEANUP_REQUIRES_PROCESS_INSTANCE"
  else if maxOperations < 1 then
    .failed "RUN_TARGET_RECOVERY_OBJECT_CLEANUP_REQUIRES_OPERATION_LIMIT"
  else
    match (listOperationsForRunTargetInPhase c.current.operations permit.runId permit.runTargetId
        .catalogRecorded maxOperations.toNat).find? requiresCleanup with
    | none => .idle
    | some operation =>
      if !(staticBinding operation permit && sameLease operation permit) then
        .failed "RUN_TARGET_RECOVERY_OBJECT_CLEANUP_PERMIT_MISMATCH"
      else
        match cleanup permit operation with
        | .error code => .failed code
        | .ok receipt =>
          match cleanupReceiptCode operation receipt with
          | some code => .failed code
          | none =>
            match performCall ports.py ports.dirs (.recordOperationPhaseTransition
                (cleanedTransition operation receipt ports.processInstanceId)) c with
            | (.error raised, _) => .raised raised.code
            | (.ok none, _) => .failed "RUN_TARGET_RECOVERY_OBJECT_CLEANUP_PHASE_CONFLICT"
            | (.ok (some _), c') => .cleaned c'

section
variable (operations : List RecoveryOperation) (permit : MutationPermit) (plannedOperations : Int)

/-- `_has_phase` and `_phase_count` with the limit of the cycle. -/
def cycleHasPhase (phase : Phase) : Bool :=
  hasPhase operations permit.runId permit.runTargetId phase (queryLimit plannedOperations)

def cyclePhaseCount (phase : Phase) : Int :=
  phaseCount operations permit.runId permit.runTargetId phase (queryLimit plannedOperations)

def catalogRecordedCount : Int :=
  cyclePhaseCount operations permit plannedOperations .catalogRecorded +
    cyclePhaseCount operations permit plannedOperations .cleaned

def terminalRecoveryReady : Bool :=
  cycleHasPhase operations permit plannedOperations .userDecisionRequired ||
    (cyclePhaseCount operations permit plannedOperations .cancelled ≠ 0 &&
      plannedOperations ≤ cyclePhaseCount operations permit plannedOperations .cancelled +
        catalogRecordedCount operations permit plannedOperations)

def skippedRecoveryReady : Bool :=
  cyclePhaseCount operations permit plannedOperations .skipped ≠ 0 &&
    plannedOperations ≤ cyclePhaseCount operations permit plannedOperations .skipped +
      catalogRecordedCount operations permit plannedOperations

def hasEarlyOperation : Bool :=
  Phase.stagingPhases.any (cycleHasPhase operations permit plannedOperations)

end

def CycleOutcome.ofCompletion {Dir : Type} : CompletionOutcome → CycleOutcome Dir
  | .completed t' => .targetClosed t'
  | .failed code => .blocked code
  | .raised code => .raised code

def gatedCompletion {Dir : Type} (intentsCleaned auditComplete : Bool)
    (completion : CompletionOutcome) : CycleOutcome Dir :=
  if !intentsCleaned then .blocked "RUN_INTENT_CLEANUP_INCOMPLETE"
  else if !auditComplete then .blocked "RUN_TARGET_OPERATION_AUDIT_INCOMPLETE"
  else .ofCompletion completion

section
variable {Dir : Type} (ports : CyclePorts Dir) (permit : MutationPermit) (target : RunTargetRow)
  (t : RunTables) (c : Connection Dir)

def completeOrStage (intentsCleaned auditComplete : Bool) : CycleOutcome Dir :=
  let operations := c.current.operations
  if skippedRecoveryReady operations permit target.plannedOperations then
    gatedCompletion intentsCleaned auditComplete
      (completeRunTargetAfterTerminalRecovery ports.py t operations permit)
  else if target.plannedOperations ≤
      catalogRecordedCount operations permit target.plannedOperations then
    gatedCompletion intentsCleaned auditComplete
      (completeRunTargetAfterCatalogHandoffs ports.py t operations permit)
  else if hasEarlyOperation operations permit target.plannedOperations then
    if ports.stagingTransfer then .handedTo .stage
    else .waitingForStaging "RUN_EXECUTOR_STAGING_PORT_NOT_CONFIGURED"
  else .waitingForStaging "RUN_EXECUTOR_STAGING_STEP_NOT_IMPLEMENTED"

def cleanThenComplete (intentsCleaned auditComplete : Bool) : CycleOutcome Dir :=
  match ports.recoveryObjectCleanup with
  | none => completeOrStage ports permit target t c intentsCleaned auditComplete
  | some cleanup =>
    match cleanupRecoveryObject ports cleanup permit (target.plannedOperations + 1) c with
    | .cleaned c' => .recoveryObjectCleaned c'
    | .failed code => .blocked code
    | .raised code => .raised code
    | .idle => completeOrStage ports permit target t c intentsCleaned auditComplete

def advanceOperations (intentsCleaned auditComplete : Bool) : CycleOutcome Dir :=
  let operations := c.current.operations
  let has := cycleHasPhase operations permit target.plannedOperations
  if terminalRecoveryReady operations permit target.plannedOperations then
    gatedCompletion intentsCleaned auditComplete
      (completeRunTargetAfterTerminalRecovery ports.py t operations permit)
  else if has .finalVerified then .handedTo .recordCatalogHandoff
  else if has .oldTargetPreserved then .handedTo .commitPreserved
  else if has .commitIntentRecorded then .handedTo .commitIntent
  else
    match nextRebind ports.processInstanceId operations permit (target.plannedOperations + 1) with
    | .error code => .blocked code
    | .ok (some operation) => .handedTo (.rebindLease operation)
    | .ok none =>
      if has .stagingVerified then .handedTo .publishIntent
      else if target.plannedOperations = 0 then
        .ofCompletion (completeRunTargetAfterCatalogHandoffs ports.py t operations permit)
      else if !hasAnyOperation operations permit.runId permit.runTargetId
          target.plannedOperations then
        .handedTo .planOperations
      else cleanThenComplete ports permit target t c intentsCleaned auditComplete

def intentCleanup : IntentCleanupOutcome Dir :=
  match ports.intentSegmentLifecycle, ports.targetIntentCleanup with
  | false, none => .idle true
  | true, some cleanup => advanceIntentCleanup cleanup permit c
  | _, _ => .blocked "RUN_INTENT_CLEANUP_PORTS_INCOMPLETE"

def operationAudit : AuditOutcome :=
  match ports.operationAudits with
  | none => .current true
  | some store =>
    reconcileNextRunTargetOperationAudit store c.current permit.runId permit.runTargetId
      (target.plannedOperations + 1)

def advanceRetainedTarget : CycleOutcome Dir :=
  match operationAudit ports permit target c with
  | .raised code => .raised code
  | .changed operationId => .auditRecorded operationId
  | .current auditComplete =>
    match intentCleanup ports permit c with
    | .advanced c' => .intentAdvanced c'
    | .blocked code => .blocked code
    | .idle intentsCleaned =>
      advanceOperations ports permit target t c intentsCleaned auditComplete

end

end MediaSync.Execution
