import MediaSync.Foundation.Json
import MediaSync.Foundation.Sha256

/-! The lifecycles of directory operations: their states, the success path of each kind, and the
checks on an operation and on a transition. -/
namespace MediaSync.Recovery
open Text

inductive DirectoryRecoveryKind where
  | create
  | metadata
  | quarantine
  | restore
  deriving DecidableEq

def DirectoryRecoveryKind.value : DirectoryRecoveryKind → String
  | .create => "CREATE"
  | .metadata => "METADATA"
  | .quarantine => "QUARANTINE"
  | .restore => "RESTORE"

inductive DirectoryRecoveryState where
  | directoryPlanned
  | directoryParentValidated
  | directoryCreateIntentRecorded
  | directoryCreated
  | directoryIdentityVerified
  | directoryCatalogRecorded
  | directoryTypeConflict
  | directoryMetadataPlanned
  | childrenTerminal
  | metadataPreconditionValidated
  | metadataIntentRecorded
  | metadataApplied
  | metadataVerified
  | metadataDirectoryCatalogRecorded
  | directoryMetadataConflict
  | directoryQuarantinePlanned
  | directoryEmptyRevalidated
  | quarantineIntentRecorded
  | directoryObjectPreserved
  | sourcePathRemoved
  | quarantineCatalogRecorded
  | directoryQuarantineConflict
  | directoryRestorePlanned
  | restoreTargetAbsentRevalidated
  | restoreIntentRecorded
  | directoryRestored
  | directoryRestoreVerified
  | restoreCatalogRecorded
  | directoryRestoreConflict
  deriving DecidableEq

namespace DirectoryRecoveryState

def value : DirectoryRecoveryState → String
  | directoryPlanned => "DIRECTORY_PLANNED"
  | directoryParentValidated => "DIRECTORY_PARENT_VALIDATED"
  | directoryCreateIntentRecorded => "DIRECTORY_CREATE_INTENT_RECORDED"
  | directoryCreated => "DIRECTORY_CREATED"
  | directoryIdentityVerified => "DIRECTORY_IDENTITY_VERIFIED"
  | directoryCatalogRecorded => "DIRECTORY_CATALOG_RECORDED"
  | directoryTypeConflict => "DIRECTORY_TYPE_CONFLICT"
  | directoryMetadataPlanned => "DIRECTORY_METADATA_PLANNED"
  | childrenTerminal => "CHILDREN_TERMINAL"
  | metadataPreconditionValidated => "METADATA_PRECONDITION_VALIDATED"
  | metadataIntentRecorded => "METADATA_INTENT_RECORDED"
  | metadataApplied => "METADATA_APPLIED"
  | metadataVerified => "METADATA_VERIFIED"
  | metadataDirectoryCatalogRecorded => "DIRECTORY_CATALOG_RECORDED"
  | directoryMetadataConflict => "DIRECTORY_METADATA_CONFLICT"
  | directoryQuarantinePlanned => "DIRECTORY_QUARANTINE_PLANNED"
  | directoryEmptyRevalidated => "DIRECTORY_EMPTY_REVALIDATED"
  | quarantineIntentRecorded => "QUARANTINE_INTENT_RECORDED"
  | directoryObjectPreserved => "DIRECTORY_OBJECT_PRESERVED"
  | sourcePathRemoved => "SOURCE_PATH_REMOVED"
  | quarantineCatalogRecorded => "QUARANTINE_CATALOG_RECORDED"
  | directoryQuarantineConflict => "DIRECTORY_QUARANTINE_CONFLICT"
  | directoryRestorePlanned => "DIRECTORY_RESTORE_PLANNED"
  | restoreTargetAbsentRevalidated => "RESTORE_TARGET_ABSENT_REVALIDATED"
  | restoreIntentRecorded => "RESTORE_INTENT_RECORDED"
  | directoryRestored => "DIRECTORY_RESTORED"
  | directoryRestoreVerified => "DIRECTORY_RESTORE_VERIFIED"
  | restoreCatalogRecorded => "RESTORE_CATALOG_RECORDED"
  | directoryRestoreConflict => "DIRECTORY_RESTORE_CONFLICT"

end DirectoryRecoveryState

namespace DirectoryRecoveryKind

open DirectoryRecoveryState

def initialState : DirectoryRecoveryKind → DirectoryRecoveryState
  | create => directoryPlanned
  | metadata => directoryMetadataPlanned
  | quarantine => directoryQuarantinePlanned
  | restore => directoryRestorePlanned

def successPath : DirectoryRecoveryKind → List DirectoryRecoveryState
  | create => [directoryPlanned, directoryParentValidated, directoryCreateIntentRecorded,
      directoryCreated, directoryIdentityVerified, directoryCatalogRecorded]
  | metadata => [directoryMetadataPlanned, childrenTerminal, metadataPreconditionValidated,
      metadataIntentRecorded, metadataApplied, metadataVerified, metadataDirectoryCatalogRecorded]
  | quarantine => [directoryQuarantinePlanned, directoryEmptyRevalidated, quarantineIntentRecorded,
      directoryObjectPreserved, sourcePathRemoved, quarantineCatalogRecorded]
  | restore => [directoryRestorePlanned, restoreTargetAbsentRevalidated, restoreIntentRecorded,
      directoryRestored, directoryRestoreVerified, restoreCatalogRecorded]

def conflictState : DirectoryRecoveryKind → DirectoryRecoveryState
  | create => directoryTypeConflict
  | metadata => directoryMetadataConflict
  | quarantine => directoryQuarantineConflict
  | restore => directoryRestoreConflict

/-- `SUCCESS_PATH_BY_KIND[kind][-1]`. -/
def terminalState : DirectoryRecoveryKind → DirectoryRecoveryState
  | create => directoryCatalogRecorded
  | metadata => metadataDirectoryCatalogRecorded
  | quarantine => quarantineCatalogRecorded
  | restore => restoreCatalogRecorded

/-- `SUCCESS_PATH_BY_KIND[kind][-2]`. -/
def verifiedState : DirectoryRecoveryKind → DirectoryRecoveryState
  | create => directoryIdentityVerified
  | metadata => metadataVerified
  | quarantine => sourcePathRemoved
  | restore => directoryRestoreVerified

theorem conflictState_notMem (kind : DirectoryRecoveryKind) :
    kind.conflictState ∉ kind.successPath := by
  cases kind <;> decide

end DirectoryRecoveryKind

structure DirectoryRecoveryOperation where
  recoveryId : String
  operationId : String
  runId : String
  runTargetId : String
  targetEndpointId : String
  targetEndpointRevisionId : String
  ownerInstallationId : String
  ownershipEpoch : Int
  kind : DirectoryRecoveryKind
  state : DirectoryRecoveryState
  finalRelativePath : String
  expectedPreconditionJson : Option String := none
  desiredMetadataJson : Option String := none
  managedObjectId : Option String := none
  lastErrorCode : Option String := none
  eventSequence : Int := 0
  eventHash : Option String := none
  rowVersion : Int := 1
  deriving DecidableEq

structure DirectoryRecoveryTransition where
  recoveryId : String
  expectedState : DirectoryRecoveryState
  nextState : DirectoryRecoveryState
  processInstanceId : String
  payload : Payload
  managedObjectId : Option String := none
  lastErrorCode : Option String := none

/-- What the directory store raises: its own error, a `DirectoryRecoveryViolation`, or the plain
`ValueError` of `json.dumps` on a number that JSON does not have. -/
inductive DirectoryRaised where
  | storeError (code : String)
  | violation (code : String)
  | valueError
  deriving DecidableEq

def DirectoryRaised.code : DirectoryRaised → String
  | .storeError code => code
  | .violation code => code
  | .valueError => "Out of range float values are not JSON compliant"

def DirectoryRaised.escapes : DirectoryRaised → Bool
  | .storeError _ => false
  | _ => true

/-- `value.strip() and value == value.strip()`. -/
def trimmed (value : String) : Bool := nonBlank value && value == strip value

/-- Raise the violation `code` unless `test` holds. -/
def requireThat (test : Bool) (code : String) : Except DirectoryRaised Unit :=
  if test then .ok () else .error (.violation code)

@[simp] theorem requireThat_eq_ok {test : Bool} {code : String} {u : Unit} :
    requireThat test code = .ok u ↔ test = true := by
  cases test <;> simp [requireThat]

@[simp] theorem requireThat_bind_eq_ok {α : Type} {test : Bool} {code : String}
    {k : Unit → Except DirectoryRaised α} {a : α} :
    (requireThat test code >>= k) = .ok a ↔ test = true ∧ k () = .ok a := by
  cases test <;> simp [requireThat, bind, Except.bind]

def Escaping {α : Type} (checked : Except DirectoryRaised α) : Prop :=
  ∀ raised, checked = .error raised → raised.escapes = true

theorem Escaping.bind {α β : Type} {checked : Except DirectoryRaised α}
    {k : α → Except DirectoryRaised β} (h : Escaping checked) (hk : ∀ a, Escaping (k a)) :
    Escaping (checked >>= k) := by
  intro raised herror
  rcases except_bind_error herror with hfirst | ⟨a, -, hrest⟩
  · exact h raised hfirst
  · exact hk a raised hrest

def canonicalDirectoryRecoveryPayload (payload : Payload) : Except DirectoryRaised String :=
  if Json.finiteFields payload then .ok (Json.dump (.obj payload))
  else .error (.violation "DIRECTORY_RECOVERY_PAYLOAD_INVALID")

def canonicalJsonObject (py : PythonLibrary) (payload : String) : Except DirectoryRaised Unit :=
  match py.jsonLoads payload with
  | some (.obj fields) =>
    if !Json.finiteFields fields then .error .valueError
    else requireThat (Json.dump (.obj fields) == payload)
      "DIRECTORY_RECOVERY_EVIDENCE_NOT_CANONICAL"
  | _ => .error (.violation "DIRECTORY_RECOVERY_EVIDENCE_JSON_INVALID")

def canonicalEvidence (py : PythonLibrary) (payload : Option String) :
    Except DirectoryRaised Unit :=
  match payload with
  | none => .ok ()
  | some text => canonicalJsonObject py text

/-- `_validate_relative_path` of the directory operations, as a test. -/
def directoryRelativePath (value : String) : Bool :=
  value != "" && !startsWithSlash value && !startsWithDrive value &&
    (components value).all fun part => part != "" && part != "." && part != ".."

def validateDirectoryRecoveryOperation (py : PythonLibrary)
    (operation : DirectoryRecoveryOperation) : Except DirectoryRaised Unit := do
  requireThat ([operation.recoveryId, operation.operationId, operation.runId,
    operation.runTargetId, operation.targetEndpointId, operation.targetEndpointRevisionId,
    operation.ownerInstallationId].all trimmed) "DIRECTORY_RECOVERY_BINDING_INVALID"
  requireThat (directoryRelativePath operation.finalRelativePath)
    "DIRECTORY_RECOVERY_RELATIVE_PATH_INVALID"
  requireThat (1 ≤ operation.ownershipEpoch) "DIRECTORY_RECOVERY_OWNERSHIP_EPOCH_INVALID"
  requireThat ((operation.kind.conflictState :: operation.kind.successPath).any fun allowed =>
    allowed.value == operation.state.value) "DIRECTORY_RECOVERY_STATE_KIND_MISMATCH"
  requireThat (operation.state != operation.kind.conflictState ||
    operation.lastErrorCode.any trimmed) "DIRECTORY_RECOVERY_CONFLICT_REQUIRES_ERROR"
  requireThat (operation.managedObjectId.all trimmed) "DIRECTORY_RECOVERY_MANAGED_OBJECT_INVALID"
  requireThat (0 ≤ operation.eventSequence && 1 ≤ operation.rowVersion)
    "DIRECTORY_RECOVERY_SEQUENCE_INVALID"
  requireThat ((operation.eventSequence == 0) == operation.eventHash.isNone)
    "DIRECTORY_RECOVERY_EVENT_HASH_MISSING"
  requireThat (operation.eventHash.all isHash) "DIRECTORY_RECOVERY_EVENT_HASH_INVALID"
  canonicalEvidence py operation.expectedPreconditionJson
  canonicalEvidence py operation.desiredMetadataJson

/-- What `validate_directory_recovery_operation` accepts. -/
structure ValidDirectory (py : PythonLibrary) (operation : DirectoryRecoveryOperation) : Prop where
  bindings : [operation.recoveryId, operation.operationId, operation.runId,
    operation.runTargetId, operation.targetEndpointId, operation.targetEndpointRevisionId,
    operation.ownerInstallationId].all trimmed = true
  path : directoryRelativePath operation.finalRelativePath = true
  epoch : 1 ≤ operation.ownershipEpoch
  state : (operation.kind.conflictState :: operation.kind.successPath).any (fun allowed =>
    allowed.value == operation.state.value) = true
  conflict : operation.state = operation.kind.conflictState →
    operation.lastErrorCode.any trimmed = true
  managed : operation.managedObjectId.all trimmed = true
  sequence : 0 ≤ operation.eventSequence
  version : 1 ≤ operation.rowVersion
  paired : operation.eventSequence = 0 ↔ operation.eventHash = none
  hashed : operation.eventHash.all isHash = true
  precondition : canonicalEvidence py operation.expectedPreconditionJson = .ok ()
  metadata : canonicalEvidence py operation.desiredMetadataJson = .ok ()

variable {py : PythonLibrary} {operation : DirectoryRecoveryOperation}

theorem validateDirectoryRecoveryOperation_iff :
    validateDirectoryRecoveryOperation py operation = .ok () ↔ ValidDirectory py operation := by
  have hconflict : (operation.state != operation.kind.conflictState ||
      operation.lastErrorCode.any trimmed) = true ↔
      (operation.state = operation.kind.conflictState →
        operation.lastErrorCode.any trimmed = true) := by
    by_cases h : operation.state = operation.kind.conflictState <;> simp [h]
  have hpaired : ((operation.eventSequence == 0) == operation.eventHash.isNone) = true ↔
      (operation.eventSequence = 0 ↔ operation.eventHash = none) := by
    rw [beq_iff_eq, Bool.eq_iff_iff, beq_iff_eq, Option.isNone_iff_eq_none]
  unfold validateDirectoryRecoveryOperation
  simp only [requireThat_bind_eq_ok, hconflict, hpaired, Bool.and_eq_true, decide_eq_true_eq]
  constructor
  · rintro ⟨h1, h2, h3, h4, h5, h6, ⟨h7, h8⟩, h9, h10, hrest⟩
    obtain ⟨_, h11, h12⟩ := except_bind_ok hrest
    exact ⟨h1, h2, h3, h4, h5, h6, h7, h8, h9, h10, h11, h12⟩
  · intro h
    refine ⟨h.bindings, h.path, h.epoch, h.state, h.conflict, h.managed, ⟨h.sequence, h.version⟩,
      h.paired, h.hashed, ?_⟩
    rw [h.precondition]
    exact h.metadata

def directoryRecoveryIsTerminal (operation : DirectoryRecoveryOperation) : Bool :=
  [operation.kind.terminalState, operation.kind.conflictState].any fun terminal =>
    terminal.value == operation.state.value

/-- Whether `next` follows `state` on the success path of the kind. -/
def DirectoryRecoveryKind.advances (kind : DirectoryRecoveryKind)
    (state next : DirectoryRecoveryState) : Bool :=
  (kind.successPath.zip kind.successPath.tail).any fun edge =>
    edge.1.value == state.value && edge.2 == next

/-- A state is off the success path only when it is terminal, so the last two raises of the source
come to one test. -/
def validateDirectoryRecoveryTransition (py : PythonLibrary)
    (operation : DirectoryRecoveryOperation) (transition : DirectoryRecoveryTransition) :
    Except DirectoryRaised Unit := do
  validateDirectoryRecoveryOperation py operation
  requireThat (transition.recoveryId == operation.recoveryId)
    "DIRECTORY_RECOVERY_TRANSITION_BINDING_MISMATCH"
  requireThat (transition.expectedState == operation.state)
    "DIRECTORY_RECOVERY_TRANSITION_STATE_MISMATCH"
  requireThat (trimmed transition.processInstanceId)
    "DIRECTORY_RECOVERY_TRANSITION_REQUIRES_PROCESS"
  let _ ← canonicalDirectoryRecoveryPayload transition.payload
  requireThat (!directoryRecoveryIsTerminal operation)
    "DIRECTORY_RECOVERY_TERMINAL_STATE_CANNOT_TRANSITION"
  if transition.nextState == operation.kind.conflictState then
    requireThat (transition.lastErrorCode.any trimmed) "DIRECTORY_RECOVERY_CONFLICT_REQUIRES_ERROR"
  else
    requireThat (operation.kind.advances operation.state transition.nextState)
      "DIRECTORY_RECOVERY_INVALID_STATE_TRANSITION"

theorem validateDirectoryRecoveryTransition_ok {transition : DirectoryRecoveryTransition}
    (h : validateDirectoryRecoveryTransition py operation transition = .ok ()) :
    ValidDirectory py operation ∧ Json.finiteFields transition.payload = true ∧
      ((transition.nextState = operation.kind.conflictState ∧
          transition.lastErrorCode.any trimmed = true) ∨
        operation.kind.advances operation.state transition.nextState = true) := by
  unfold validateDirectoryRecoveryTransition at h
  obtain ⟨_, hvalid, h⟩ := except_bind_ok h
  rw [requireThat_bind_eq_ok, requireThat_bind_eq_ok, requireThat_bind_eq_ok] at h
  obtain ⟨-, -, -, h⟩ := h
  obtain ⟨_, hpayload, h⟩ := except_bind_ok h
  rw [requireThat_bind_eq_ok] at h
  refine ⟨validateDirectoryRecoveryOperation_iff.mp hvalid, ?_, ?_⟩
  · unfold canonicalDirectoryRecoveryPayload at hpayload
    split at hpayload
    · assumption
    · cases hpayload
  · obtain ⟨-, h⟩ := h
    split at h
    · rename_i hnext
      exact .inl ⟨beq_iff_eq.mp hnext, requireThat_eq_ok.mp h⟩
    · exact .inr (requireThat_eq_ok.mp h)

theorem DirectoryRecoveryKind.advances_mem {kind : DirectoryRecoveryKind}
    {state next : DirectoryRecoveryState} (h : kind.advances state next = true) :
    next ∈ kind.successPath := by
  obtain ⟨edge, hedge, hmatch⟩ := List.any_eq_true.mp h
  rw [Bool.and_eq_true, beq_iff_eq, beq_iff_eq] at hmatch
  rw [← hmatch.2]
  exact List.mem_of_mem_tail (List.of_mem_zip hedge).2

def directoryRecoveryId (runId operationId : String) (kind : DirectoryRecoveryKind) : String :=
  "directory-" ++ Sha256.hexdigest (Json.dump (.obj [("kind", .str kind.value),
    ("operation_id", .str operationId), ("run_id", .str runId), ("schema_version", .int 1)]))

end MediaSync.Recovery
