import MediaSync.Recovery.Directory
import MediaSync.Recovery.Tables

/-! The public mutators of the SQLite recovery operation store: planning, phase transitions, staging
failures, lease rebinds and the two commit-intent refreshes. -/
namespace MediaSync.Recovery
open Text

structure DirectoryRecoveryStore (Dir : Type) where
  /-- Record the lifecycle a planned operation starts; raises on an invalid or clashing one. -/
  record : DirectoryRecoveryKind → RecoveryOperation → String → Dir → Except String Dir
  /-- The position of the operation's lifecycle on its success path, when it is recorded:
  `none` off the path, else the number of states still ahead; raises on an invalid row. -/
  remaining : DirectoryRecoveryKind → RecoveryOperation → Dir → Except String (Option (Option Nat))
  /-- Move the lifecycle to its catalog-recorded state; `none` when the row was not updated. -/
  transition : DirectoryRecoveryKind → RecoveryOperation → String → Option Payload → Dir →
    Except String (Option Dir)

def directoryKind (operation : RecoveryOperation) : Option DirectoryRecoveryKind :=
  if operation.operationKind = .createDirectory then some .create
  else if operation.targetPreconditionKind = .directoryEmpty then some .quarantine
  else none

/-- The arguments of `record_operation_phase_transition`. -/
structure TransitionArgs where
  runId : String
  operationId : String
  expectedPhase : Phase
  nextPhase : Phase
  processInstanceId : String
  payload : Option Payload := none
  intentSegmentId : Option String := none
  intentOrdinal : Option Int := none
  catalogHandoffId : Option String := none
  operationMetadata : Option RecoveryOperationMetadata := none

/-- The arguments of `record_staging_failure`, with the time the retry scheduler plans
(`none` when it raises). -/
structure StagingFailureArgs where
  runId : String
  operationId : String
  expectedPhase : Phase
  expectedFailureCount : Int
  nextPhase : Phase
  errorCode : String
  processInstanceId : String
  payload : Option Payload := none
  plannedRetry : Option (Int × String) := none

structure RebindArgs where
  runId : String
  operationId : String
  expectedLeaseId : String
  expectedOwnershipEpoch : Int
  expectedFencingToken : Int
  leaseId : String
  ownerInstallationId : String
  ownershipEpoch : Int
  fencingToken : Int
  processInstanceId : String
  payload : Option Payload := none

structure RefreshArgs extends RebindArgs where
  intentSegmentId : String
  intentOrdinal : Int

inductive Call where
  | recordPlannedOperation (operation : RecoveryOperation) (processInstanceId : String)
      (payload : Option Payload)
  | recordOperationPhaseTransition (args : TransitionArgs)
  | recordStagingFailure (args : StagingFailureArgs)
  | recordOperationLeaseRebound (expectedPhase : Phase) (args : RebindArgs)
  | recordCommitIntentRefreshed (args : RefreshArgs)
  | recordOldTargetPreservedCommitIntentRefreshed (args : RefreshArgs)

def validateProcessInstanceId (processInstanceId : String) : Except Raised Unit :=
  if nonBlank processInstanceId then .ok ()
  else .error (.storeError "RECOVERY_OPERATION_REQUIRES_PROCESS_INSTANCE")

def raiseViolation (checked : Except String Unit) : Except Raised Unit :=
  match checked with
  | .ok () => .ok ()
  | .error code => .error (.violation code)

def raiseStoreErrorUnless (test : Bool) (code : String) : Except Raised Unit :=
  if test then .ok () else .error (.storeError code)

section
variable (py : PythonLibrary) {Dir : Type} (dirs : Option (DirectoryRecoveryStore Dir))

/-- The branches of `_operation_after_transition`: the row under its next phase, with the
columns that phase brings. -/
def operationInPhase (operation : RecoveryOperation) (args : TransitionArgs) :
    Except Raised RecoveryOperation :=
  if args.nextPhase = .commitIntentRecorded then do
    raiseStoreErrorUnless (args.intentSegmentId.isSome && args.intentOrdinal.isSome)
      "RECOVERY_OPERATION_REQUIRES_INTENT_SEGMENT"
    raiseStoreErrorUnless args.catalogHandoffId.isNone
      "RECOVERY_OPERATION_UNEXPECTED_CATALOG_HANDOFF"
    pure { operation with
      phase := args.nextPhase
      intentSegmentId := args.intentSegmentId
      intentOrdinal := args.intentOrdinal }
  else if args.nextPhase = .catalogRecorded then do
    raiseStoreErrorUnless (args.intentSegmentId.isNone && args.intentOrdinal.isNone)
      "RECOVERY_OPERATION_UNEXPECTED_INTENT_SEGMENT"
    raiseStoreErrorUnless (someNonBlank args.catalogHandoffId)
      "RECOVERY_OPERATION_REQUIRES_CATALOG_HANDOFF"
    pure { operation with phase := args.nextPhase, catalogHandoffId := args.catalogHandoffId }
  else do
    raiseStoreErrorUnless (args.intentSegmentId.isNone && args.intentOrdinal.isNone)
      "RECOVERY_OPERATION_UNEXPECTED_INTENT_SEGMENT"
    raiseStoreErrorUnless args.catalogHandoffId.isNone
      "RECOVERY_OPERATION_UNEXPECTED_CATALOG_HANDOFF"
    pure { operation with phase := args.nextPhase }

def operationAfterTransition (operation : RecoveryOperation) (args : TransitionArgs) :
    Except Raised RecoveryOperation := do
  let moved ← operationInPhase operation args
  let updated := { moved with
    stagingRetryBackoffMs := none, stagingRetryNotBeforeUtc := none }.withMetadata
      args.operationMetadata
  raiseViolation (validateRecoveryOperation py updated)
  pure updated

def recordDirectoryRecoveryIfApplicable (operation : RecoveryOperation)
    (processInstanceId : String) : Body Dir Unit := fun t =>
  match dirs, directoryKind operation with
  | some store, some kind =>
    match store.record kind operation processInstanceId t.directories with
    | .ok directories => (.ok (), { t with directories })
    | .error code => (.error (.directoryError code), t)
  | _, _ => (.ok (), t)

def recordDirectoryCatalogTerminal (operation : RecoveryOperation) (processInstanceId : String)
    (payload : Option Payload) : Body Dir Unit := fun t =>
  match dirs, directoryKind operation with
  | some store, some kind =>
    match store.remaining kind operation t.directories with
    | .error code => (.error (.directoryError code), t)
    | .ok none => (.error (.storeError "RECOVERY_OPERATION_DIRECTORY_LIFECYCLE_MISSING"), t)
    | .ok (some (some 0)) => (.ok (), t)
    | .ok (some (some 1)) =>
      match store.transition kind operation processInstanceId payload t.directories with
      | .error code => (.error (.directoryError code), t)
      | .ok none => (.error (.storeError "RECOVERY_OPERATION_DIRECTORY_CATALOG_CONFLICT"), t)
      | .ok (some directories) => (.ok (), { t with directories })
    | .ok (some _) =>
      (.error (.storeError "RECOVERY_OPERATION_DIRECTORY_LIFECYCLE_NOT_VERIFIED"), t)
  | _, _ => (.ok (), t)

/-- Continue with the value that `body` returns. -/
def Body.andThen {α : Type} (body : Body Dir Unit) (value : α) : Body Dir α := fun t =>
  match body t with
  | (.ok (), t') => (.ok value, t')
  | (.error raised, t') => (.error raised, t')

/-- `record_planned_operation`, inside its transaction. -/
def recordPlannedOperationBody (operation : RecoveryOperation) (processInstanceId : String)
    (payload : Option Payload) : Body Dir (Option RecoveryOperation) := fun t =>
  match t.loadOperation operation.runId operation.operationId with
  | some existing =>
    if existing ≠ operation then
      (.error (.storeError "RECOVERY_OPERATION_IDEMPOTENCY_CONFLICT"), t)
    else
      (recordDirectoryRecoveryIfApplicable dirs existing processInstanceId).andThen
        (some existing) t
  | none =>
    if !t.activeMatchingLease operation then
      (.error (.storeError "RECOVERY_OPERATION_LEASE_MISMATCH"), t)
    else if !t.acceptsRow operation then
      (.error (.storeError "RECOVERY_OPERATION_PERSISTENCE_CONFLICT"), t)
    else
      (recordDirectoryRecoveryIfApplicable dirs operation processInstanceId).andThen
        (some operation) (t.insertPlanned operation processInstanceId payload)

/-- `record_operation_phase_transition`, inside its transaction. -/
def recordOperationPhaseTransitionBody (args : TransitionArgs) :
    Body Dir (Option RecoveryOperation) := fun t =>
  match t.loadOperation args.runId args.operationId with
  | none => (.ok none, t)
  | some operation =>
    if operation.phase ≠ args.expectedPhase then (.ok none, t)
    else
      match operationAfterTransition py operation args with
      | .error raised => (.error raised, t)
      | .ok updated =>
        if !t.activeMatchingLease updated then
          (.error (.storeError "RECOVERY_OPERATION_LEASE_MISMATCH"), t)
        else if args.nextPhase = .commitIntentRecorded && !t.matchingIntentSegment updated then
          (.error (.storeError "RECOVERY_OPERATION_INTENT_SEGMENT_MISMATCH"), t)
        else if !t.acceptsRow updated then
          (.error (.storeError "RECOVERY_OPERATION_PERSISTENCE_CONFLICT"), t)
        else
          let t' := t.recordChange operation updated args.processInstanceId args.payload
          if args.nextPhase = .catalogRecorded then
            (recordDirectoryCatalogTerminal dirs updated args.processInstanceId
              args.payload).andThen (some updated) t'
          else (.ok (some updated), t')

def stagingFailureRow (operation : RecoveryOperation) (args : StagingFailureArgs) :
    RecoveryOperation :=
  let retryTiming := if args.nextPhase = args.expectedPhase then args.plannedRetry else none
  { operation with
    phase := args.nextPhase
    lastErrorCode := some (strip args.errorCode)
    stagingFailureCount := args.expectedFailureCount + 1
    stagingRetryBackoffMs := retryTiming.map Prod.fst
    stagingRetryNotBeforeUtc := retryTiming.map Prod.snd }

def stagingFailurePayload (args : StagingFailureArgs) (updated : RecoveryOperation) : Payload :=
  let given := args.payload.getD []
  ((((((given.put "attempt_number" (.int updated.stagingFailureCount)).put
    "error_code" (.str (strip args.errorCode))).put
    "event_kind" (.str "STAGING_ATTEMPT_FAILED")).put
    "retry_scheduled" (.bool (args.nextPhase = args.expectedPhase))).put
    "retry_backoff_ms" ((updated.stagingRetryBackoffMs.map Json.int).getD .null)).put
    "retry_not_before_utc" ((updated.stagingRetryNotBeforeUtc.map Json.str).getD .null))

/-- `record_staging_failure`, inside its transaction. -/
def recordStagingFailureBody (args : StagingFailureArgs) :
    Body Dir (Option RecoveryOperation) := fun t =>
  match t.loadOperation args.runId args.operationId with
  | none => (.ok none, t)
  | some operation =>
    if operation.phase ≠ args.expectedPhase ∨
        operation.stagingFailureCount ≠ args.expectedFailureCount then (.ok none, t)
    else
      if args.nextPhase = args.expectedPhase ∧ args.plannedRetry = none then
        (.error (.storeError "RECOVERY_OPERATION_PERSISTENCE_FAILED"), t)
      else
        let updated := stagingFailureRow operation args
        match validateRecoveryOperation py updated with
        | .error code => (.error (.violation code), t)
        | .ok () =>
          if !t.activeMatchingLease updated then
            (.error (.storeError "RECOVERY_OPERATION_LEASE_MISMATCH"), t)
          else if !t.acceptsRow updated then
            (.error (.storeError "RECOVERY_OPERATION_PERSISTENCE_CONFLICT"), t)
          else
            (.ok (some updated), t.recordChange operation updated args.processInstanceId
              (some (stagingFailurePayload args updated)))

def expectedLease (operation : RecoveryOperation) (args : RebindArgs) : Bool :=
  operation.leaseId == args.expectedLeaseId &&
    operation.ownershipEpoch == args.expectedOwnershipEpoch &&
    operation.fencingToken == args.expectedFencingToken

def underLease (operation : RecoveryOperation) (args : RebindArgs) : RecoveryOperation :=
  { operation with
    ownerInstallationId := args.ownerInstallationId
    ownershipEpoch := args.ownershipEpoch
    leaseId := args.leaseId
    fencingToken := args.fencingToken }

/-- `record_operation_lease_rebound`, inside its transaction. -/
def recordOperationLeaseReboundBody (expectedPhase : Phase) (args : RebindArgs) :
    Body Dir (Option RecoveryOperation) := fun t =>
  match t.loadOperation args.runId args.operationId with
  | none => (.ok none, t)
  | some operation =>
    if operation.phase ≠ expectedPhase then (.ok none, t)
    else if !expectedLease operation args then (.ok none, t)
    else
      let updated := underLease operation args
      match validateRecoveryOperation py updated with
      | .error code => (.error (.violation code), t)
      | .ok () =>
        if !t.activeMatchingLease updated then
          (.error (.storeError "RECOVERY_OPERATION_LEASE_MISMATCH"), t)
        else (.ok (some updated),
          t.recordChange operation updated args.processInstanceId args.payload)

def refreshedRow (operation : RecoveryOperation) (args : RefreshArgs) : RecoveryOperation :=
  { underLease operation args.toRebindArgs with
    intentSegmentId := some args.intentSegmentId
    intentOrdinal := some args.intentOrdinal }

def recordIntentRefreshedBody (expectedPhase : Phase) (args : RefreshArgs) :
    Body Dir (Option RecoveryOperation) := fun t =>
  match t.loadOperation args.runId args.operationId with
  | none => (.ok none, t)
  | some operation =>
    if operation.phase ≠ expectedPhase then (.ok none, t)
    else if !expectedLease operation args.toRebindArgs then (.ok none, t)
    else
      let updated := refreshedRow operation args
      match validateRecoveryOperation py updated with
      | .error code => (.error (.violation code), t)
      | .ok () =>
        if !t.activeMatchingLease updated then
          (.error (.storeError "RECOVERY_OPERATION_LEASE_MISMATCH"), t)
        else if !t.matchingIntentSegment updated then
          (.error (.storeError "RECOVERY_OPERATION_INTENT_SEGMENT_MISMATCH"), t)
        else if !t.acceptsRow updated then
          (.error (.storeError "RECOVERY_OPERATION_PERSISTENCE_CONFLICT"), t)
        else (.ok (some updated),
          t.recordChange operation updated args.processInstanceId args.payload)

/-- `record_commit_intent_refreshed`, inside its transaction. -/
def recordCommitIntentRefreshedBody (args : RefreshArgs) : Body Dir (Option RecoveryOperation) :=
  recordIntentRefreshedBody py .commitIntentRecorded args

/-- `record_old_target_preserved_commit_intent_refreshed`, inside its transaction. -/
def recordOldTargetPreservedCommitIntentRefreshedBody (args : RefreshArgs) :
    Body Dir (Option RecoveryOperation) :=
  recordIntentRefreshedBody py .oldTargetPreserved args

def Call.precheck : Call → Except Raised Unit
  | .recordPlannedOperation operation processInstanceId _ => do
    raiseStoreErrorUnless (operation.phase = .planned) "RECOVERY_OPERATION_REQUIRES_PLANNED_PHASE"
    validateProcessInstanceId processInstanceId
    raiseViolation (validateRecoveryOperation py operation)
  | .recordOperationPhaseTransition args => do
    validateProcessInstanceId args.processInstanceId
    raiseViolation (Phase.validateRecoveryPhaseTransition args.expectedPhase args.nextPhase)
  | .recordStagingFailure args => do
    validateProcessInstanceId args.processInstanceId
    raiseStoreErrorUnless (0 ≤ args.expectedFailureCount)
      "RECOVERY_OPERATION_REQUIRES_NONNEGATIVE_FAILURE_COUNT"
    raiseStoreErrorUnless (nonBlank args.errorCode) "RECOVERY_OPERATION_REQUIRES_ERROR_CODE"
    raiseStoreErrorUnless (args.expectedPhase ∈ Phase.stagingPhases)
      "RECOVERY_OPERATION_STAGING_FAILURE_PHASE_UNSUPPORTED"
    raiseStoreErrorUnless (args.nextPhase = args.expectedPhase || args.nextPhase = .skipped)
      "RECOVERY_OPERATION_STAGING_FAILURE_TRANSITION_UNSUPPORTED"
  | .recordOperationLeaseRebound expectedPhase args => do
    validateProcessInstanceId args.processInstanceId
    raiseStoreErrorUnless (expectedPhase ∈ Phase.preCommitLeaseRebindPhases)
      "RECOVERY_OPERATION_LEASE_REBIND_PHASE_UNSUPPORTED"
  | .recordCommitIntentRefreshed args => validateProcessInstanceId args.processInstanceId
  | .recordOldTargetPreservedCommitIntentRefreshed args =>
    validateProcessInstanceId args.processInstanceId

def Call.body : Call → Body Dir (Option RecoveryOperation)
  | .recordPlannedOperation operation processInstanceId payload =>
    recordPlannedOperationBody dirs operation processInstanceId payload
  | .recordOperationPhaseTransition args => recordOperationPhaseTransitionBody py dirs args
  | .recordStagingFailure args => recordStagingFailureBody py args
  | .recordOperationLeaseRebound expectedPhase args =>
    recordOperationLeaseReboundBody py expectedPhase args
  | .recordCommitIntentRefreshed args => recordCommitIntentRefreshedBody py args
  | .recordOldTargetPreservedCommitIntentRefreshed args =>
    recordOldTargetPreservedCommitIntentRefreshedBody py args

def performCall (call : Call) (c : Connection Dir) :
    Except Raised (Option RecoveryOperation) × Connection Dir :=
  match call.precheck py with
  | .error raised => (.error raised, c)
  | .ok () => c.execute (call.body py dirs)

end

end MediaSync.Recovery
