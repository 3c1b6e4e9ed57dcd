import MediaSync.Foundation.Json
import MediaSync.Recovery.Phase

/-! The journalled operation record, its metadata overlay and the validation every store method runs
before it writes. -/
namespace MediaSync.Recovery
open Text

inductive TargetPreconditionKind where
  | absent
  | matchFingerprint
  | directoryEmpty
  | none
  deriving DecidableEq

inductive OperationKind where
  | copyNew
  | createDirectory
  deriving DecidableEq

structure RecoveryOperation where
  runId : String
  runTargetId : String
  operationId : String
  targetEndpointId : String
  targetEndpointRevisionId : String
  endpointGeneration : Int
  ownerInstallationId : String
  ownershipEpoch : Int
  leaseId : String
  leaseResourceKey : String
  fencingToken : Int
  phase : Phase
  finalRelativePath : String
  targetPreconditionKind : TargetPreconditionKind
  operationKind : OperationKind := .copyNew
  planSequenceNo : Int := 0
  plannedBytes : Int := 0
  jobId : Option String := none
  jobRevisionId : Option String := none
  retentionPolicy : Option String := none
  sourceEndpointId : Option String := none
  sourceEndpointRevisionId : Option String := none
  sourceRelativePath : Option String := none
  sourcePreconditionJson : Option String := none
  sourceGuardKind : Option String := none
  sourceGuardEvidenceHash : Option String := none
  sourceHashEvidenceKind : Option String := none
  sourcePathChainHash : Option String := none
  sourceCaseContextHash : Option String := none
  stagingObjectId : Option String := none
  versionObjectId : Option String := none
  versionCreatedUtc : Option String := none
  versionRetentionUntilUtc : Option String := none
  versionManifestHash : Option String := none
  quarantineObjectId : Option String := none
  intentSegmentId : Option String := none
  intentOrdinal : Option Int := none
  expectedSourceFingerprintJson : Option String := none
  expectedTargetFingerprintJson : Option String := none
  expectedSourceParentIdentityJson : Option String := none
  expectedTargetParentIdentityJson : Option String := none
  expectedTargetPathChainHash : Option String := none
  expectedStagingFingerprintJson : Option String := none
  expectedFinalFingerprintJson : Option String := none
  observedTargetFileId : Option String := none
  transferState : Option String := none
  assuranceLevel : Option String := none
  stagingDurabilityState : Option String := none
  finalDurabilityState : Option String := none
  catalogHandoffId : Option String := none
  lastErrorCode : Option String := none
  stagingFailureCount : Int := 0
  stagingRetryBackoffMs : Option Int := none
  stagingRetryNotBeforeUtc : Option String := none
  deriving DecidableEq

namespace RecoveryOperation

def key (operation : RecoveryOperation) : String × String :=
  (operation.runId, operation.operationId)

end RecoveryOperation

structure RecoveryOperationMetadata where
  sourceGuardKind : Option String := none
  sourceGuardEvidenceHash : Option String := none
  sourceHashEvidenceKind : Option String := none
  stagingObjectId : Option String := none
  versionObjectId : Option String := none
  versionCreatedUtc : Option String := none
  versionRetentionUntilUtc : Option String := none
  versionManifestHash : Option String := none
  quarantineObjectId : Option String := none
  expectedSourceFingerprintJson : Option String := none
  expectedTargetFingerprintJson : Option String := none
  expectedStagingFingerprintJson : Option String := none
  expectedFinalFingerprintJson : Option String := none
  transferState : Option String := none
  assuranceLevel : Option String := none
  stagingDurabilityState : Option String := none
  finalDurabilityState : Option String := none
  lastErrorCode : Option String := none
  deriving DecidableEq

/-- `_apply_operation_metadata`: every field the metadata gives replaces the stored one. -/
def RecoveryOperation.withMetadata (operation : RecoveryOperation) :
    Option RecoveryOperationMetadata → RecoveryOperation
  | none => operation
  | some metadata =>
    { operation with
      sourceGuardKind := metadata.sourceGuardKind <|> operation.sourceGuardKind
      sourceGuardEvidenceHash :=
        metadata.sourceGuardEvidenceHash <|> operation.sourceGuardEvidenceHash
      sourceHashEvidenceKind :=
        metadata.sourceHashEvidenceKind <|> operation.sourceHashEvidenceKind
      stagingObjectId := metadata.stagingObjectId <|> operation.stagingObjectId
      versionObjectId := metadata.versionObjectId <|> operation.versionObjectId
      versionCreatedUtc := metadata.versionCreatedUtc <|> operation.versionCreatedUtc
      versionRetentionUntilUtc :=
        metadata.versionRetentionUntilUtc <|> operation.versionRetentionUntilUtc
      versionManifestHash := metadata.versionManifestHash <|> operation.versionManifestHash
      quarantineObjectId := metadata.quarantineObjectId <|> operation.quarantineObjectId
      expectedSourceFingerprintJson :=
        metadata.expectedSourceFingerprintJson <|> operation.expectedSourceFingerprintJson
      expectedTargetFingerprintJson :=
        metadata.expectedTargetFingerprintJson <|> operation.expectedTargetFingerprintJson
      expectedStagingFingerprintJson :=
        metadata.expectedStagingFingerprintJson <|> operation.expectedStagingFingerprintJson
      expectedFinalFingerprintJson :=
        metadata.expectedFinalFingerprintJson <|> operation.expectedFinalFingerprintJson
      transferState := metadata.transferState <|> operation.transferState
      assuranceLevel := metadata.assuranceLevel <|> operation.assuranceLevel
      stagingDurabilityState :=
        metadata.stagingDurabilityState <|> operation.stagingDurabilityState
      finalDurabilityState := metadata.finalDurabilityState <|> operation.finalDurabilityState
      lastErrorCode := metadata.lastErrorCode <|> operation.lastErrorCode }

structure SourceFilePrecondition where
  snapshotId : String
  snapshotEntryId : String
  relativePath : String
  sizeBytes : Int
  identityFingerprintHash : String
  schemaVersion : Int := 1
  objectType : String := "file"
  deriving DecidableEq

namespace SourceFilePrecondition

/-- `__post_init__`. -/
def validate (precondition : SourceFilePrecondition) : Except String Unit := do
  check (nonEmpty [precondition.snapshotId, precondition.snapshotEntryId,
    precondition.relativePath]) "SOURCE_PRECONDITION_IDENTITY_INVALID"
  check (precondition.schemaVersion == 1 && precondition.objectType == "file" &&
    0 ≤ precondition.sizeBytes && isHash precondition.identityFingerprintHash)
    "SOURCE_PRECONDITION_EVIDENCE_INVALID"

def requiredText : Option Json → Option String
  | some (.str value) => if nonBlank value then some value else none
  | _ => none

def requiredInt : Option Json → Option Int
  | some (.int value) => some value
  | _ => none

def ofFields (fields : List (String × Json)) : Option SourceFilePrecondition := do
  let snapshotId ← requiredText (Json.get fields "snapshot_id")
  let snapshotEntryId ← requiredText (Json.get fields "snapshot_entry_id")
  let relativePath ← requiredText (Json.get fields "relative_path")
  let sizeBytes ← requiredInt (Json.get fields "size_bytes")
  let identityFingerprintHash ← requiredText (Json.get fields "identity_fingerprint_hash")
  let schemaVersion ← requiredInt (Json.get fields "schema_version")
  let objectType ← requiredText (Json.get fields "object_type")
  return { snapshotId, snapshotEntryId, relativePath, sizeBytes, identityFingerprintHash,
           schemaVersion, objectType }

/-- The record's own `SourceFilePreconditionError` is a `ValueError`, so the surrounding handler
turns it into the general code. -/
def fromJson (py : PythonLibrary) : Option String → Except String SourceFilePrecondition
  | none => .error "SOURCE_PRECONDITION_MISSING"
  | some payload =>
    match py.jsonLoads payload with
    | some (.obj fields) =>
      match ofFields fields with
      | some precondition =>
        match precondition.validate with
        | .ok () => .ok precondition
        | .error _ => .error "SOURCE_PRECONDITION_INVALID"
      | none => .error "SOURCE_PRECONDITION_INVALID"
    | _ => .error "SOURCE_PRECONDITION_INVALID"

end SourceFilePrecondition

def stagingRetryMaxMs : Int := 30000

/-- `_parse_utc`, as far as whether it raises. -/
def parsesAsUtc (py : PythonLibrary) (value : String) : Bool :=
  let normalized := strip value
  normalized.toList.getLast? == some 'Z' && normalized.toList.length ≤ 64 &&
    py.fromIsoformat (String.ofList normalized.toList.dropLast ++ "+00:00")

def validateStagingRetryPersistence (py : PythonLibrary) (backoffMs : Option Int)
    (retryNotBeforeUtc : Option String) : Except String Unit := do
  check (backoffMs.isNone == retryNotBeforeUtc.isNone) "STAGING_RETRY_TIMING_PAIR_INVALID"
  match backoffMs, retryNotBeforeUtc with
  | some ms, some utc =>
    check (1 ≤ ms && ms ≤ stagingRetryMaxMs) "STAGING_RETRY_BACKOFF_INVALID"
    check (parsesAsUtc py utc) "STAGING_RETRY_UTC_INVALID"
  | _, _ => pure ()

section
variable (py : PythonLibrary) (operation : RecoveryOperation)

def validateIdentifiers : Except String Unit := do
  check (nonEmpty [operation.runId, operation.runTargetId, operation.operationId,
    operation.targetEndpointId, operation.targetEndpointRevisionId,
    operation.ownerInstallationId, operation.leaseId, operation.leaseResourceKey])
    "RECOVERY_OPERATION_REQUIRES_IDENTIFIERS"
  check (1 ≤ operation.endpointGeneration && 1 ≤ operation.ownershipEpoch &&
    1 ≤ operation.fencingToken) "RECOVERY_OPERATION_REQUIRES_POSITIVE_NUMBERS"
  check (0 ≤ operation.planSequenceNo) "RECOVERY_OPERATION_REQUIRES_NONNEGATIVE_PLAN_SEQUENCE"
  check (0 ≤ operation.plannedBytes) "RECOVERY_OPERATION_REQUIRES_NONNEGATIVE_PLANNED_BYTES"

def validateJobBinding : Except String Unit := do
  let jobBinding := [operation.jobId, operation.jobRevisionId, operation.retentionPolicy]
  check (jobBinding.all Option.isNone || jobBinding.all someNonBlank)
    "RECOVERY_OPERATION_JOB_RETENTION_BINDING_INVALID"
  check (operation.retentionPolicy == none || operation.retentionPolicy == some "THIRTY_DAYS")
    "RECOVERY_OPERATION_RETENTION_POLICY_INVALID"

def validateVersionMetadata : Except String Unit :=
  let versionMetadata := [operation.versionCreatedUtc, operation.versionRetentionUntilUtc,
    operation.versionManifestHash]
  if versionMetadata.any Option.isSome then do
    check ((someNonBlank operation.versionObjectId || someNonBlank operation.quarantineObjectId) &&
      versionMetadata.all someNonBlank && operation.jobId.isSome)
      "RECOVERY_OPERATION_VERSION_METADATA_INVALID"
    check (isHash (operation.versionManifestHash.getD ""))
      "RECOVERY_OPERATION_VERSION_MANIFEST_HASH_INVALID"
  else pure ()

def validateStagingRetry : Except String Unit := do
  check (0 ≤ operation.stagingFailureCount)
    "RECOVERY_OPERATION_REQUIRES_NONNEGATIVE_FAILURE_COUNT"
  validateStagingRetryPersistence py operation.stagingRetryBackoffMs
    operation.stagingRetryNotBeforeUtc
  check (operation.stagingRetryBackoffMs.isNone ||
    (1 ≤ operation.stagingFailureCount && operation.phase ∈ Phase.stagingPhases))
    "RECOVERY_OPERATION_STAGING_RETRY_STATE_INVALID"

def validateSourcePrecondition : Except String Unit :=
  match operation.sourcePreconditionJson with
  | none => .ok ()
  | some payload =>
    match SourceFilePrecondition.fromJson py (some payload) with
    | .error code => .error code
    | .ok precondition =>
      check (some precondition.relativePath == operation.sourceRelativePath)
        "RECOVERY_OPERATION_SOURCE_PRECONDITION_MISMATCH"

def validatePaths : Except String Unit := do
  check (validRelativePath operation.finalRelativePath)
    "RECOVERY_OPERATION_REQUIRES_RELATIVE_FINAL_PATH"
  check (operation.sourceRelativePath.all validRelativePath)
    "RECOVERY_OPERATION_REQUIRES_RELATIVE_SOURCE_PATH"
  validateSourcePrecondition py operation

def validateHashes : Except String Unit := do
  check (operation.sourceGuardEvidenceHash.all isHash)
    "RECOVERY_OPERATION_REQUIRES_SOURCE_GUARD_HASH"
  check (operation.sourcePathChainHash.all isHash)
    "RECOVERY_OPERATION_REQUIRES_SOURCE_PATH_CHAIN_HASH"
  check (operation.sourceCaseContextHash.all isHash)
    "RECOVERY_OPERATION_REQUIRES_SOURCE_CASE_CONTEXT_HASH"
  check (operation.expectedTargetPathChainHash.all isHash)
    "RECOVERY_OPERATION_REQUIRES_TARGET_PATH_CHAIN_HASH"

def validateIntentBinding : Except String Unit :=
  if operation.phase ∈ Phase.phasesRequiringIntent then do
    check (someNonBlank operation.intentSegmentId) "RECOVERY_OPERATION_REQUIRES_INTENT_SEGMENT"
    check (operation.intentOrdinal.any fun ordinal => 0 ≤ ordinal)
      "RECOVERY_OPERATION_REQUIRES_INTENT_ORDINAL"
  else pure ()

def validateCatalogHandoff : Except String Unit :=
  if operation.phase ∈ Phase.phasesRequiringCatalogHandoff then
    check (someNonBlank operation.catalogHandoffId) "RECOVERY_OPERATION_REQUIRES_CATALOG_HANDOFF"
  else pure ()

def validateRecoveryOperation : Except String Unit := do
  validateIdentifiers operation
  validateJobBinding operation
  validateVersionMetadata operation
  validateStagingRetry py operation
  validatePaths py operation
  validateHashes operation
  validateIntentBinding operation
  validateCatalogHandoff operation

variable {py operation}

theorem validateRecoveryOperation_bindings (h : validateRecoveryOperation py operation = .ok ()) :
    validateIntentBinding operation = .ok () ∧ validateCatalogHandoff operation = .ok () := by
  obtain ⟨_, -, h⟩ := except_bind_ok h
  obtain ⟨_, -, h⟩ := except_bind_ok h
  obtain ⟨_, -, h⟩ := except_bind_ok h
  obtain ⟨_, -, h⟩ := except_bind_ok h
  obtain ⟨_, -, h⟩ := except_bind_ok h
  obtain ⟨_, -, h⟩ := except_bind_ok h
  obtain ⟨_, hi, hc⟩ := except_bind_ok h
  exact ⟨hi, hc⟩

theorem validateRecoveryOperation_intent (h : validateRecoveryOperation py operation = .ok ())
    (hp : operation.phase ∈ Phase.phasesRequiringIntent) :
    someNonBlank operation.intentSegmentId = true ∧
      ∃ ordinal, operation.intentOrdinal = some ordinal ∧ 0 ≤ ordinal := by
  have hi := (validateRecoveryOperation_bindings h).1
  rw [validateIntentBinding, if_pos hp] at hi
  simp only [check_bind_eq_ok, check_eq_ok, Option.any_eq_true, decide_eq_true_eq] at hi
  exact hi

theorem validateRecoveryOperation_handoff (h : validateRecoveryOperation py operation = .ok ())
    (hp : operation.phase ∈ Phase.phasesRequiringCatalogHandoff) :
    someNonBlank operation.catalogHandoffId = true := by
  have hc := (validateRecoveryOperation_bindings h).2
  rw [validateCatalogHandoff, if_pos hp, check_eq_ok] at hc
  exact hc

end

end MediaSync.Recovery
