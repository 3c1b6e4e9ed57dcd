import MediaSync.Execution.Permit
import MediaSync.Foundation.Procedure
import MediaSync.Recovery.Atomicity

/-! `JournaledFinalCommitPort.commit_verified_artifact`: the operation is moved through the commit
phases of the recovery journal around the calls of the filesystem ports, and a failing port is
recorded with the phase that `recovery_phase_for_commit_failure` picks. -/
namespace MediaSync.Execution
open Recovery Text

structure VerifiedStagingArtifact where
  objectId : String
  relativePath : String
  contentHash : String
  operationKind : OperationKind := .copyNew

structure CommitReceipt where
  operationId : String
  finalRelativePath : String
  durabilityState : String := "FINAL_DURABILITY_UNCONFIRMED"
  fileFlushSucceeded : Option Bool := none
  writeThroughMoveUsed : Option Bool := none
  filesystemApplyMethod : String := "UNCONFIRMED"

structure OldTargetPreservationReceipt where
  operationId : String
  finalRelativePath : String
  versionObjectId : Option String := none
  quarantineObjectId : Option String := none
  fingerprintJson : Option String := none
  versionCreatedUtc : Option String := none
  versionRetentionUntilUtc : Option String := none
  versionManifestHash : Option String := none

structure DirectoryMutationPreparationReceipt where
  operationId : String
  finalRelativePath : String
  observedState : String
  alreadyApplied : Bool := false

/-- A raised exception: its type, and its `validation_code` when it has one. -/
structure CommitException where
  typeName : String
  validationCode : Option String := none
  deriving DecidableEq

def CommitException.errorCode (exc : CommitException) : String :=
  match exc.validationCode with
  | some code => if nonBlank code then code else exc.typeName
  | none => exc.typeName

def journaledFinalCommitError (validationCode : String) : CommitException :=
  { typeName := "JournaledFinalCommitError", validationCode := some validationCode }

def operationStoreException : Raised → CommitException
  | .storeError _ => { typeName := "SqliteRecoveryOperationStoreError" }
  | .violation _ => { typeName := "RecoveryOperationViolation" }
  | .directoryError _ => { typeName := "SqliteDirectoryRecoveryStoreError" }

def directoryStoreException : DirectoryRaised → CommitException
  | .storeError _ => { typeName := "SqliteDirectoryRecoveryStoreError" }
  | .violation _ => { typeName := "DirectoryRecoveryViolation" }
  | .valueError => { typeName := "ValueError" }

structure DirectoryMutationPreparationPort (Files : Type) where
  prepareDirectoryCreate : MutationPermit → RecoveryOperation → VerifiedStagingArtifact →
    Procedure Files CommitException DirectoryMutationPreparationReceipt
  prepareDirectoryQuarantine : MutationPermit → RecoveryOperation →
    Procedure Files CommitException DirectoryMutationPreparationReceipt

structure CommitPorts (Files : Type) where
  finalCommit : MutationPermit → VerifiedStagingArtifact →
    Procedure Files CommitException CommitReceipt
  oldTargetPreservation : Option (MutationPermit → RecoveryOperation →
    Procedure Files CommitException OldTargetPreservationReceipt) := none
  directoryMutationPreparation : Option (DirectoryMutationPreparationPort Files) := none

def ambiguousPreservedReplacementCodes : List String :=
  ["LOCAL_REPLACE_FINAL_COMMIT_TARGET_CHANGED_AFTER_PRESERVE",
    "LOCAL_REPLACE_FINAL_COMMIT_TARGET_TYPE_CHANGED_AFTER_PRESERVE",
    "LOCAL_REPLACE_FINAL_COMMIT_TARGET_REAPPEARED",
    "LOCAL_REPLACE_FINAL_COMMIT_REPLACEFILEW_POSTCONDITION_AMBIGUOUS",
    "LOCAL_REPLACE_FINAL_COMMIT_REPLACEFILEW_FINAL_MISMATCH",
    "LOCAL_REPLACE_FINAL_COMMIT_REPLACEFILEW_BACKUP_MISMATCH"]

def ambiguousDirectoryQuarantineCodes : List String := ["LOCAL_FINAL_COMMIT_TARGET_EXISTS"]

def recoveryPhaseForCommitFailure (operation : RecoveryOperation) (validationCode : String) :
    Phase :=
  if operation.phase = .oldTargetPreserved ∧
      validationCode ∈ ambiguousPreservedReplacementCodes then .userDecisionRequired
  else if operation.phase = .oldTargetPreserved ∧
      operation.targetPreconditionKind = .directoryEmpty ∧
      validationCode ∈ ambiguousDirectoryQuarantineCodes then .userDecisionRequired
  else .failedRetryable

/-- `value.replace("\\", "/")`. -/
def relativePath (value : String) : String :=
  String.ofList (value.toList.map fun c => if c = '\\' then '/' else c)

/-- Raise `code` unless `test` holds. -/
def commitCheck (test : Bool) (code : String) : Except CommitException Unit :=
  if test then .ok () else .error (journaledFinalCommitError code)

def validateOperationBinding (operation : RecoveryOperation) (permit : MutationPermit)
    (artifact : VerifiedStagingArtifact) : Except CommitException Unit := do
  commitCheck (operation.phase = .commitIntentRecorded) "RECOVERY_COMMIT_REQUIRES_COMMIT_INTENT"
  commitCheck (operation.stagingObjectId.all (· = artifact.objectId))
    "RECOVERY_COMMIT_STAGING_OBJECT_MISMATCH"
  commitCheck (operation.operationKind = artifact.operationKind)
    "RECOVERY_COMMIT_OPERATION_KIND_MISMATCH"
  commitCheck (relativePath operation.finalRelativePath = relativePath artifact.relativePath)
    "RECOVERY_COMMIT_FINAL_PATH_MISMATCH"
  commitCheck (staticBinding operation permit && sameLease operation permit)
    "RECOVERY_COMMIT_PERMIT_MISMATCH"

def validateTargetPreconditionSupport (operation : RecoveryOperation) (preserves : Bool) :
    Except CommitException Unit :=
  match operation.targetPreconditionKind with
  | .absent => .ok ()
  | .matchFingerprint =>
    commitCheck preserves "RECOVERY_COMMIT_REQUIRES_OLD_TARGET_PRESERVATION_PORT"
  | .directoryEmpty => commitCheck preserves "RECOVERY_COMMIT_REQUIRES_DIRECTORY_QUARANTINE_PORT"
  | .none => .error (journaledFinalCommitError "RECOVERY_COMMIT_REQUIRES_TARGET_PRECONDITION")

def requiresOldTargetPreservation (operation : RecoveryOperation) : Bool :=
  operation.targetPreconditionKind = .directoryEmpty ||
    operation.targetPreconditionKind = .matchFingerprint

def validateDirectoryPreparationReceipt (operation : RecoveryOperation)
    (receipt : DirectoryMutationPreparationReceipt) : Except CommitException Unit :=
  commitCheck (receipt.operationId = operation.operationId &&
    relativePath receipt.finalRelativePath = relativePath operation.finalRelativePath)
    "RECOVERY_DIRECTORY_PREPARATION_RECEIPT_MISMATCH"

def validatePreservationReceipt (operation : RecoveryOperation)
    (receipt : OldTargetPreservationReceipt) : Except CommitException Unit := do
  commitCheck (receipt.operationId = operation.operationId)
    "RECOVERY_COMMIT_PRESERVATION_OPERATION_MISMATCH"
  commitCheck (relativePath receipt.finalRelativePath = relativePath operation.finalRelativePath)
    "RECOVERY_COMMIT_PRESERVATION_PATH_MISMATCH"
  commitCheck (receipt.versionObjectId.isSome || receipt.quarantineObjectId.isSome)
    "RECOVERY_COMMIT_PRESERVATION_REQUIRES_OBJECT_ID"
  commitCheck ([receipt.versionCreatedUtc, receipt.versionRetentionUntilUtc,
    receipt.versionManifestHash].all someNonBlank)
    "RECOVERY_COMMIT_PRESERVATION_REQUIRES_RETENTION_METADATA"

def validateReceipt (operation : RecoveryOperation) (artifact : VerifiedStagingArtifact)
    (receipt : CommitReceipt) : Except CommitException Unit := do
  commitCheck (receipt.operationId = operation.operationId)
    "RECOVERY_COMMIT_RECEIPT_OPERATION_MISMATCH"
  commitCheck (relativePath receipt.finalRelativePath = relativePath artifact.relativePath)
    "RECOVERY_COMMIT_RECEIPT_PATH_MISMATCH"

structure CommitState (Files : Type) where
  recovery : Connection DirectoryTables
  files : Files
  finalCommits : List (Tables DirectoryTables) := []

abbrev CommitProcedure (Files α : Type) := Procedure (CommitState Files) CommitException α

def onFiles {Files α : Type} (port : Procedure Files CommitException α) : CommitProcedure Files α :=
  port.onState CommitState.files fun s files => { s with files }

def orRaise {Files : Type} (checked : Except CommitException Unit) : CommitProcedure Files Unit :=
  match checked with
  | .ok () => pure ()
  | .error exc => .raise exc

structure JournaledFinalCommitPort (Files : Type) where
  py : PythonLibrary
  /-- Whether the operation store has a directory store of its own. -/
  attached : Bool
  ports : CommitPorts Files
  /-- Whether `directory_recovery_operations` is given. -/
  directoryRecovery : Bool
  processInstanceId : String
  requiresProcessInstance : nonBlank processInstanceId = true

namespace JournaledFinalCommitPort

variable {Files : Type} (port : JournaledFinalCommitPort Files)

def loadAndValidateOperation (permit : MutationPermit) (artifact : VerifiedStagingArtifact)
    (t : Tables DirectoryTables) : Except CommitException RecoveryOperation :=
  match t.loadOperation permit.runId artifact.objectId with
  | none => .error (journaledFinalCommitError "RECOVERY_COMMIT_OPERATION_NOT_FOUND")
  | some operation => do
    validateOperationBinding operation permit artifact
    validateTargetPreconditionSupport operation port.ports.oldTargetPreservation.isSome
    pure operation

/-- The call with which `operation` is moved to its next phase. -/
def transitionCall (operation : RecoveryOperation) (nextPhase : Phase) (payload : Payload)
    (operationMetadata : Option RecoveryOperationMetadata) : Call :=
  .recordOperationPhaseTransition
    { runId := operation.runId
      operationId := operation.operationId
      expectedPhase := operation.phase
      nextPhase
      processInstanceId := port.processInstanceId
      payload := some payload
      operationMetadata }

/-- A transition of the journal; `conflict` is raised when the store returns no row. -/
def record (operation : RecoveryOperation) (nextPhase : Phase) (payload : Payload)
    (operationMetadata : Option RecoveryOperationMetadata) (conflict : String) :
    CommitProcedure Files RecoveryOperation := fun s =>
  match performCall port.py (attachedDirectories port.py port.attached)
      (port.transitionCall operation nextPhase payload operationMetadata) s.recovery with
  | (.ok (some updated), recovery) => (.ok updated, { s with recovery })
  | (.ok none, recovery) => (.error (journaledFinalCommitError conflict), { s with recovery })
  | (.error raised, recovery) => (.error (operationStoreException raised), { s with recovery })

def transition (operation : RecoveryOperation) (nextPhase : Phase) (payload : Payload)
    (operationMetadata : Option RecoveryOperationMetadata := none) :
    CommitProcedure Files RecoveryOperation :=
  port.record operation nextPhase payload operationMetadata "RECOVERY_COMMIT_PHASE_CONFLICT"

def recordFailure {α : Type} (operation : RecoveryOperation) (exc : CommitException) :
    CommitProcedure Files α := do
  let _ ← port.record operation (recoveryPhaseForCommitFailure operation exc.errorCode)
    [("error_code", .str exc.errorCode), ("error_type", .str exc.typeName)]
    (some { lastErrorCode := some exc.errorCode }) "RECOVERY_COMMIT_FAILURE_JOURNAL_CONFLICT"
  .raise exc

def directoryCall (call : DirectoryCall) :
    CommitProcedure Files (Option DirectoryRecoveryOperation) := fun s =>
  let recovery := ((Mutation.directory call).performBounded port.py port.attached s.recovery).2
  match (call.perform port.py s.recovery.current.directories).1 with
  | .ok value => (.ok value, { s with recovery })
  | .error raised => (.error (directoryStoreException raised), { s with recovery })

/-- The loop of `_advance_directory_to`, over the states still to be entered. -/
def advanceThrough (payload : Payload) (managedObjectId : Option String) :
    List DirectoryRecoveryState → DirectoryRecoveryOperation →
      CommitProcedure Files DirectoryRecoveryOperation
  | [], operation => pure operation
  | nextState :: rest, operation => do
    match ← port.directoryCall (.transition
        { recoveryId := operation.recoveryId
          expectedState := operation.state
          nextState
          processInstanceId := port.processInstanceId
          payload := payload.put "directory_state" (.str nextState.value)
          managedObjectId }) with
    | none => .raise (journaledFinalCommitError "RECOVERY_DIRECTORY_PHASE_CONFLICT")
    | some updated => advanceThrough payload managedObjectId rest updated

def advanceDirectoryTo (operation : DirectoryRecoveryOperation) (targetIndex : Nat)
    (payload : Payload) (managedObjectId : Option String := none) :
    CommitProcedure Files DirectoryRecoveryOperation :=
  let path := operation.kind.successPath
  if path.contains operation.state then
    port.advanceThrough payload managedObjectId
      ((path.take (targetIndex + 1)).drop (path.idxOf operation.state + 1)) operation
  else .raise (journaledFinalCommitError "RECOVERY_DIRECTORY_OPERATION_CONFLICTED")

def loadDirectoryOperation (recoveryId : String) :
    CommitProcedure Files DirectoryRecoveryOperation := fun s =>
  match s.recovery.current.directories.load port.py recoveryId with
  | .error raised => (.error (directoryStoreException raised), s)
  | .ok none =>
    (.error (journaledFinalCommitError "RECOVERY_DIRECTORY_OPERATION_NOT_FOUND"), s)
  | .ok (some operation) => (.ok operation, s)

def prepareDirectoryMutation (permit : MutationPermit) (operation : RecoveryOperation)
    (artifact : VerifiedStagingArtifact) (kind : DirectoryRecoveryKind) :
    CommitProcedure Files DirectoryRecoveryOperation :=
  match port.ports.directoryMutationPreparation with
  | none => .raise (journaledFinalCommitError "RECOVERY_DIRECTORY_PREPARATION_PORT_MISSING")
  | some preparation => do
    let directoryOperation ← port.loadDirectoryOperation
      (directoryRecoveryId operation.runId operation.operationId kind)
    let receipt ← onFiles (if kind = .create then
        preparation.prepareDirectoryCreate permit operation artifact
      else preparation.prepareDirectoryQuarantine permit operation)
    orRaise (validateDirectoryPreparationReceipt operation receipt)
    port.advanceDirectoryTo directoryOperation 2
      [("already_applied", .bool receipt.alreadyApplied),
        ("final_relative_path", .str receipt.finalRelativePath),
        ("observed_state", .str receipt.observedState)]

def lifecycleKind (operation : RecoveryOperation) : Option DirectoryRecoveryKind :=
  if port.directoryRecovery then directoryKind operation else none

def prepareDirectory (permit : MutationPermit) (operation : RecoveryOperation)
    (artifact : VerifiedStagingArtifact) :
    CommitProcedure Files (Option DirectoryRecoveryOperation) :=
  match port.lifecycleKind operation with
  | none => pure none
  | some kind => some <$> port.prepareDirectoryMutation permit operation artifact kind

def preserveOldTarget (preserve : MutationPermit → RecoveryOperation →
    Procedure Files CommitException OldTargetPreservationReceipt) (permit : MutationPermit)
    (preconditions : RecoveryOperation) : CommitProcedure Files OldTargetPreservationReceipt := do
  let receipt ← onFiles (preserve permit preconditions)
  orRaise (validatePreservationReceipt preconditions receipt)
  pure receipt

def preservationMetadata (receipt : OldTargetPreservationReceipt) : RecoveryOperationMetadata where
  quarantineObjectId := receipt.quarantineObjectId
  versionObjectId := receipt.versionObjectId
  versionCreatedUtc := receipt.versionCreatedUtc
  versionRetentionUntilUtc := receipt.versionRetentionUntilUtc
  versionManifestHash := receipt.versionManifestHash

def optionalText (value : Option String) : Json := (value.map Json.str).getD .null

def preservationPayload (receipt : OldTargetPreservationReceipt) : Payload :=
  [("final_relative_path", .str receipt.finalRelativePath),
    ("fingerprint_json", optionalText receipt.fingerprintJson),
    ("quarantine_object_id", optionalText receipt.quarantineObjectId),
    ("version_object_id", optionalText receipt.versionObjectId),
    ("version_created_utc", optionalText receipt.versionCreatedUtc),
    ("version_retention_until_utc", optionalText receipt.versionRetentionUntilUtc),
    ("version_manifest_hash", optionalText receipt.versionManifestHash)]

def followQuarantine (operation : RecoveryOperation) (receipt : OldTargetPreservationReceipt)
    (directoryOperation : Option DirectoryRecoveryOperation) :
    CommitProcedure Files (Option DirectoryRecoveryOperation) :=
  if port.lifecycleKind operation = some .quarantine then
    match directoryOperation with
    | none => .raise (journaledFinalCommitError "RECOVERY_DIRECTORY_QUARANTINE_JOURNAL_MISSING")
    | some stored => some <$> port.advanceDirectoryTo stored 4
        [("final_relative_path", .str receipt.finalRelativePath),
          ("quarantine_object_id", optionalText receipt.quarantineObjectId),
          ("version_manifest_hash", optionalText receipt.versionManifestHash)]
        receipt.quarantineObjectId
  else pure directoryOperation

def preserveCommitSource (permit : MutationPermit) (operation preconditions : RecoveryOperation)
    (directoryOperation : Option DirectoryRecoveryOperation) :
    CommitProcedure Files (RecoveryOperation × Option DirectoryRecoveryOperation) :=
  if requiresOldTargetPreservation preconditions then
    match port.ports.oldTargetPreservation with
    | none =>
      .raise (journaledFinalCommitError "RECOVERY_COMMIT_REQUIRES_OLD_TARGET_PRESERVATION_PORT")
    | some preserve => do
      let receipt ← (preserveOldTarget preserve permit preconditions).rescue
        (port.recordFailure preconditions)
      let preserved ← port.transition preconditions .oldTargetPreserved
        (preservationPayload receipt) (some (preservationMetadata receipt))
      let followed ← port.followQuarantine operation receipt directoryOperation
      pure (preserved, followed)
  else pure (preconditions, directoryOperation)

def preconditionsPayload (artifact : VerifiedStagingArtifact) : Payload :=
  [("artifact_object_id", .str artifact.objectId), ("content_hash", .str artifact.contentHash),
    ("final_relative_path", .str artifact.relativePath)]

def prepareCommitSource (permit : MutationPermit) (artifact : VerifiedStagingArtifact)
    (operation : RecoveryOperation) :
    CommitProcedure Files (RecoveryOperation × Option DirectoryRecoveryOperation) := do
  let directoryOperation ← (port.prepareDirectory permit operation artifact).rescue
    (port.recordFailure operation)
  let preconditions ← port.transition operation .commitPreconditionsRevalidated
    (preconditionsPayload artifact)
  port.preserveCommitSource permit operation preconditions directoryOperation

def callFinalCommit (permit : MutationPermit) (artifact : VerifiedStagingArtifact) :
    CommitProcedure Files CommitReceipt := fun s =>
  onFiles (port.ports.finalCommit permit artifact)
    { s with finalCommits := s.finalCommits ++ [s.recovery.committed] }

/-- After the final commit, the create lifecycle follows up to `targetIndex`. -/
def followCreate (operation : RecoveryOperation) (targetIndex : Nat) (payload : Payload)
    (directoryOperation : Option DirectoryRecoveryOperation) :
    CommitProcedure Files (Option DirectoryRecoveryOperation) :=
  if port.lifecycleKind operation = some .create then
    match directoryOperation with
    | none => .raise (journaledFinalCommitError "RECOVERY_DIRECTORY_CREATE_JOURNAL_MISSING")
    | some stored => some <$> port.advanceDirectoryTo stored targetIndex payload
  else pure directoryOperation

def createdPayload (receipt : CommitReceipt) : Payload :=
  [("filesystem_apply_method", .str receipt.filesystemApplyMethod),
    ("final_relative_path", .str receipt.finalRelativePath)]

def appliedPayload (receipt : CommitReceipt) : Payload :=
  [("receipt_final_relative_path", .str receipt.finalRelativePath),
    ("receipt_operation_id", .str receipt.operationId),
    ("filesystem_apply_method", .str receipt.filesystemApplyMethod)]

def optionalFlag (value : Option Bool) : Json := (value.map Json.bool).getD .null

def durablePayload (receipt : CommitReceipt) : Payload :=
  [("durability_state", .str receipt.durabilityState),
    ("file_flush_succeeded", optionalFlag receipt.fileFlushSucceeded),
    ("write_through_move_used", optionalFlag receipt.writeThroughMoveUsed),
    ("filesystem_apply_method", .str receipt.filesystemApplyMethod)]

def verifyFinal (artifact : VerifiedStagingArtifact) (operation applied : RecoveryOperation)
    (receipt : CommitReceipt) (directoryOperation : Option DirectoryRecoveryOperation) :
    CommitProcedure Files CommitReceipt := do
  let _ ← port.followCreate operation 4
    [("artifact_content_hash", .str artifact.contentHash),
      ("receipt_operation_id", .str receipt.operationId)] directoryOperation
  let durable ← port.transition applied .finalDurable (durablePayload receipt)
    (some { finalDurabilityState := some receipt.durabilityState })
  let _ ← port.transition durable .finalVerified
    [("content_hash", .str artifact.contentHash),
      ("final_relative_path", .str artifact.relativePath)]
  pure receipt

def applyCommit (permit : MutationPermit) (artifact : VerifiedStagingArtifact)
    (operation commitSource : RecoveryOperation)
    (directoryOperation : Option DirectoryRecoveryOperation) :
    CommitProcedure Files CommitReceipt := do
  let receipt ← (port.callFinalCommit permit artifact).rescue (port.recordFailure commitSource)
  let followed ← port.followCreate operation 3 (createdPayload receipt) directoryOperation
  let applied ← port.transition commitSource .filesystemApplied (appliedPayload receipt)
  (orRaise (validateReceipt operation artifact receipt)).rescue (port.recordFailure applied)
  port.verifyFinal artifact operation applied receipt followed

def commitVerifiedArtifact (permit : MutationPermit) (artifact : VerifiedStagingArtifact) :
    CommitProcedure Files CommitReceipt := fun s =>
  match port.loadAndValidateOperation permit artifact s.recovery.current with
  | .error exc => (.error exc, s)
  | .ok operation =>
    (port.prepareCommitSource permit artifact operation >>=
    fun (commitSource, directoryOperation) =>
      port.applyCommit permit artifact operation commitSource directoryOperation) s

end JournaledFinalCommitPort

end MediaSync.Execution
