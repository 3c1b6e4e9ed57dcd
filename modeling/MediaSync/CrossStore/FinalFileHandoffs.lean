import MediaSync.CrossStore.Handoff
import MediaSync.Foundation.CaseFolding
import MediaSync.Foundation.JsonLines
import MediaSync.Recovery.Operation

/-! The evidence of a finished file or directory that the recovery store hands to the catalog, and
the cross-store payload it travels in. -/
namespace MediaSync.CrossStore
open Text Recovery

def byteCount : Option Json → Except String Int
  | some (.int n) =>
    if n < 0 then .error "FILE_OBJECT_FINGERPRINT_BYTES_INVALID" else .ok n
  | _ => .error "FILE_OBJECT_FINGERPRINT_BYTES_INVALID"

def contentHash : Option Json → Except String String
  | some (.str s) => if isHash s then .ok s else .error "FILE_OBJECT_FINGERPRINT_HASH_INVALID"
  | _ => .error "FILE_OBJECT_FINGERPRINT_HASH_INVALID"

/-- Whether `NamedStreamRecord` takes the name. -/
def validStreamName (name : String) : Bool :=
  name.toList.head? == some ':' && ":$DATA".toList.isSuffixOf (upper name).toList &&
    upper name != "::$DATA" && name.toList.length ≤ 295 &&
    !name.toList.any fun c => c == '\\' || c == '/' || c == '\x00'

/-- One stream of an inventory, after the streams whose folded names are `seen`. -/
def namedStream (py : CaseFolding) (seen : List String) (raw : Json) :
    Except String (String × Json) :=
  match raw with
  | .obj fields => do
    check (Json.namesAre fields ["name", "byte_count", "content_hash"])
      "FILE_OBJECT_FINGERPRINT_STREAM_INVALID"
    let name := match Json.get fields "name" with
      | some (.str s) => s
      | _ => ""
    let size ← (byteCount (Json.get fields "byte_count")).mapError fun _ =>
      "FILE_OBJECT_FINGERPRINT_STREAM_INVALID"
    check (validStreamName name) "FILE_OBJECT_FINGERPRINT_STREAM_INVALID"
    check (!seen.contains (py.casefold name)) "FILE_OBJECT_FINGERPRINT_STREAM_NAMES_NOT_UNIQUE"
    let hash ← contentHash (Json.get fields "content_hash")
    return (py.casefold name,
      .obj [("name", .str name), ("byte_count", .int size), ("content_hash", .str hash)])
  | _ => .error "FILE_OBJECT_FINGERPRINT_STREAM_INVALID"

def namedStreams (py : CaseFolding) : List String → List Json → Except String (List (String × Json))
  | _, [] => .ok []
  | seen, raw :: rest => do
    let stream ← namedStream py seen raw
    let streams ← namedStreams py (stream.1 :: seen) rest
    return stream :: streams

def canonicalFileObjectFingerprint (py : CaseFolding) (fingerprint : Payload) :
    Except String Payload := do
  check (Json.namesAre fingerprint ["byte_count", "content_hash"] ||
    Json.namesAre fingerprint ["byte_count", "content_hash", "named_streams"])
    "FILE_OBJECT_FINGERPRINT_SHAPE_INVALID"
  let size ← byteCount (Json.get fingerprint "byte_count")
  let hash ← contentHash (Json.get fingerprint "content_hash")
  match Json.get fingerprint "named_streams" with
  | none => return [("byte_count", .int size), ("content_hash", .str hash)]
  | some (.arr raw) => do
    check (raw.length ≤ 64) "FILE_OBJECT_FINGERPRINT_STREAMS_INVALID"
    let streams ← namedStreams py [] raw
    return [("byte_count", .int size), ("content_hash", .str hash),
      ("named_streams", .arr ((streams.insertionSort fun a b => a.1 ≤ b.1).map Prod.snd))]
  | some _ => .error "FILE_OBJECT_FINGERPRINT_STREAMS_INVALID"

def fileObjectFingerprintFromJson (py : CaseFolding) (raw : String) : Except String Payload :=
  match Json.loads raw with
  | none => .error "FILE_OBJECT_FINGERPRINT_JSON_INVALID"
  | some (.obj decoded) => do
    let canonical ← canonicalFileObjectFingerprint py decoded
    let again ← canonicalFileObjectFingerprint py canonical
    check (raw = (Json.obj again).dump) "FILE_OBJECT_FINGERPRINT_NOT_CANONICAL"
    return canonical
  | some _ => .error "FILE_OBJECT_FINGERPRINT_SHAPE_INVALID"

structure RetainedVersionCatalogHandoff where
  versionObjectId : String
  jobId : String
  jobRevisionId : String
  endpointGeneration : Int
  ownerInstallationId : String
  ownershipEpoch : Int
  originalFingerprintJson : String
  createdUtc : String
  retentionPolicy : String
  retentionUntilUtc : String
  manifestHash : String
  objectRole : String := "OLD_TARGET_VERSION"
  deriving DecidableEq

structure FinalFileCatalogHandoff where
  handoffId : String
  runId : String
  runTargetId : String
  operationId : String
  targetEndpointId : String
  targetEndpointRevisionId : String
  finalRelativePath : String
  contentHash : String
  leaseId : String
  fencingToken : Int
  effectKind : String := "COPY_NEW_FINAL_FILE"
  retainedVersion : Option RetainedVersionCatalogHandoff := none
  deriving DecidableEq

/-- Whether `entry_count` and `kind` are those of an empty directory. -/
def isEmptyDirectory (fingerprint : Payload) : Bool :=
  Json.namesAre fingerprint ["entry_count", "kind"] &&
    Json.equalsNumber (Json.get fingerprint "entry_count") 0 &&
    (match Json.get fingerprint "kind" with
      | some (.str s) => s = "DIRECTORY_EMPTY"
      | _ => false)

def canonicalFingerprintJson (py : CaseFolding) (raw objectRole : String) : Except String String :=
  match Json.loads raw with
  | some (.obj fingerprint) =>
    if objectRole = "OLD_TARGET_VERSION" then
      match fileObjectFingerprintFromJson py raw with
      | .ok _ => .ok raw
      | .error _ => .error "CATALOG_HANDOFF_RETAINED_VERSION_FINGERPRINT_INVALID"
    else if objectRole = "EMPTY_DIRECTORY_QUARANTINE" && isEmptyDirectory fingerprint then
      if (Json.obj fingerprint).dump = raw then .ok raw
      else .error "CATALOG_HANDOFF_RETAINED_VERSION_FINGERPRINT_NOT_CANONICAL"
    else .error "CATALOG_HANDOFF_RETAINED_VERSION_FINGERPRINT_INVALID"
  | _ => .error "CATALOG_HANDOFF_RETAINED_VERSION_FINGERPRINT_INVALID"

def validateRetainedVersionHandoff (py : CaseFolding) (retained : RetainedVersionCatalogHandoff) :
    Except String Unit := do
  check (nonEmpty [retained.versionObjectId, retained.jobId, retained.jobRevisionId,
    retained.ownerInstallationId, retained.createdUtc, retained.retentionUntilUtc])
    "CATALOG_HANDOFF_RETAINED_VERSION_IDENTIFIERS_MISSING"
  check (1 ≤ retained.endpointGeneration && 1 ≤ retained.ownershipEpoch)
    "CATALOG_HANDOFF_RETAINED_VERSION_NUMBERS_INVALID"
  check (retained.retentionPolicy = "THIRTY_DAYS")
    "CATALOG_HANDOFF_RETAINED_VERSION_POLICY_INVALID"
  check (isHash retained.manifestHash)
    "CATALOG_HANDOFF_RETAINED_VERSION_MANIFEST_HASH_INVALID"
  check (["OLD_TARGET_VERSION", "EMPTY_DIRECTORY_QUARANTINE"].contains retained.objectRole)
    "CATALOG_HANDOFF_RETAINED_VERSION_ROLE_INVALID"
  let _ ← canonicalFingerprintJson py retained.originalFingerprintJson retained.objectRole
  return ()

/-- `_valid_relative_path` of the catalog handoffs: no component has a colon either. -/
def validFinalPath (value : String) : Bool :=
  validRelativePath value && (components value).all fun part => !part.toList.contains ':'

def validateFinalFileCatalogHandoff (py : CaseFolding) (handoff : FinalFileCatalogHandoff) :
    Except String Unit := do
  check (nonEmpty [handoff.handoffId, handoff.runId, handoff.runTargetId, handoff.operationId,
    handoff.targetEndpointId, handoff.targetEndpointRevisionId, handoff.leaseId,
    handoff.effectKind]) "CATALOG_HANDOFF_REQUIRES_IDENTIFIERS"
  check (["COPY_NEW_FINAL_FILE", "CREATE_DIRECTORY"].contains handoff.effectKind)
    "CATALOG_HANDOFF_EFFECT_UNSUPPORTED"
  check (1 ≤ handoff.fencingToken) "CATALOG_HANDOFF_REQUIRES_FENCING_TOKEN"
  check (isHash handoff.contentHash) "CATALOG_HANDOFF_REQUIRES_CONTENT_HASH"
  check (validFinalPath handoff.finalRelativePath)
    "CATALOG_HANDOFF_REQUIRES_RELATIVE_FINAL_PATH"
  match handoff.retainedVersion with
  | none => return ()
  | some retained => validateRetainedVersionHandoff py retained

def handoffId (operation : RecoveryOperation) : String :=
  let role := if operation.operationKind = .createDirectory then "final-directory" else "final-file"
  role ++ ":" ++ operation.runId ++ ":" ++ operation.operationId

def effectKind (operation : RecoveryOperation) : String :=
  if operation.operationKind = .createDirectory then "CREATE_DIRECTORY" else "COPY_NEW_FINAL_FILE"

/-- `value or other`, of texts that may be missing. -/
def textOr (value other : Option String) : Option String :=
  match value with
  | some text => if text = "" then other else some text
  | none => other

def retainedVersionFromOperation (py : CaseFolding) (operation : RecoveryOperation) :
    Except String (Option RetainedVersionCatalogHandoff) :=
  match textOr operation.versionObjectId operation.quarantineObjectId with
  | none => .ok none
  | some objectId => do
    let objectRole :=
      if operation.quarantineObjectId.isSome then "EMPTY_DIRECTORY_QUARANTINE"
      else "OLD_TARGET_VERSION"
    check ([operation.jobId, operation.jobRevisionId, operation.expectedTargetFingerprintJson,
      operation.versionCreatedUtc, operation.retentionPolicy, operation.versionRetentionUntilUtc,
      operation.versionManifestHash].all someNonBlank)
      "CATALOG_HANDOFF_RETAINED_VERSION_METADATA_MISSING"
    let fingerprintJson ← canonicalFingerprintJson py
      (operation.expectedTargetFingerprintJson.getD "") objectRole
    let retained : RetainedVersionCatalogHandoff := {
      versionObjectId := objectId
      jobId := operation.jobId.getD ""
      jobRevisionId := operation.jobRevisionId.getD ""
      endpointGeneration := operation.endpointGeneration
      ownerInstallationId := operation.ownerInstallationId
      ownershipEpoch := operation.ownershipEpoch
      originalFingerprintJson := fingerprintJson
      createdUtc := operation.versionCreatedUtc.getD ""
      retentionPolicy := operation.retentionPolicy.getD ""
      retentionUntilUtc := operation.versionRetentionUntilUtc.getD ""
      manifestHash := operation.versionManifestHash.getD ""
      objectRole }
    validateRetainedVersionHandoff py retained
    return some retained

def handoffFromOperation (py : CaseFolding) (operation : RecoveryOperation) (contentHash : String)
    (handoffId? : Option String) : Except String FinalFileCatalogHandoff := do
  let retainedVersion ← retainedVersionFromOperation py operation
  let handoff : FinalFileCatalogHandoff := {
    handoffId := (textOr handoffId? none).getD (handoffId operation)
    runId := operation.runId
    runTargetId := operation.runTargetId
    operationId := operation.operationId
    targetEndpointId := operation.targetEndpointId
    targetEndpointRevisionId := operation.targetEndpointRevisionId
    finalRelativePath := operation.finalRelativePath
    contentHash
    leaseId := operation.leaseId
    fencingToken := operation.fencingToken
    effectKind := effectKind operation
    retainedVersion }
  validateFinalFileCatalogHandoff py handoff
  return handoff

/-- `asdict` of a retained version. -/
def RetainedVersionCatalogHandoff.asdict (retained : RetainedVersionCatalogHandoff) : Payload := [
  ("version_object_id", .str retained.versionObjectId),
  ("job_id", .str retained.jobId),
  ("job_revision_id", .str retained.jobRevisionId),
  ("endpoint_generation", .int retained.endpointGeneration),
  ("owner_installation_id", .str retained.ownerInstallationId),
  ("ownership_epoch", .int retained.ownershipEpoch),
  ("original_fingerprint_json", .str retained.originalFingerprintJson),
  ("created_utc", .str retained.createdUtc),
  ("retention_policy", .str retained.retentionPolicy),
  ("retention_until_utc", .str retained.retentionUntilUtc),
  ("manifest_hash", .str retained.manifestHash),
  ("object_role", .str retained.objectRole)]

/-- `asdict` of a retained version that may be missing. -/
def retainedVersionValue : Option RetainedVersionCatalogHandoff → Json
  | none => .null
  | some retained => .obj retained.asdict

/-- `asdict(handoff)`. -/
def FinalFileCatalogHandoff.asdict (handoff : FinalFileCatalogHandoff) : Payload := [
  ("handoff_id", .str handoff.handoffId),
  ("run_id", .str handoff.runId),
  ("run_target_id", .str handoff.runTargetId),
  ("operation_id", .str handoff.operationId),
  ("target_endpoint_id", .str handoff.targetEndpointId),
  ("target_endpoint_revision_id", .str handoff.targetEndpointRevisionId),
  ("final_relative_path", .str handoff.finalRelativePath),
  ("content_hash", .str handoff.contentHash),
  ("lease_id", .str handoff.leaseId),
  ("fencing_token", .int handoff.fencingToken),
  ("effect_kind", .str handoff.effectKind),
  ("retained_version", retainedVersionValue handoff.retainedVersion)]

/-- The payload of `operation_catalog_source_handoff`. -/
def operationCatalogPayload (operation : RecoveryOperation) (handoff : FinalFileCatalogHandoff) :
    Payload := [
  ("final_file_handoff", .obj handoff.asdict),
  ("operation_id", .str operation.operationId),
  ("plan_sequence_no", .int operation.planSequenceNo),
  ("run_id", .str operation.runId),
  ("run_target_id", .str operation.runTargetId)]

/-- `operation_catalog_source_handoff`; `hash` is the SHA-256 of a payload's text. -/
def operationCatalogSourceHandoff (hash : String → String) (operation : RecoveryOperation)
    (handoff : FinalFileCatalogHandoff) : Except String (CrossStoreHandoff String) :=
  if [Phase.finalVerified, .catalogRecorded].contains operation.phase then
    let payloadJson := (Json.obj (operationCatalogPayload operation handoff)).dump
    .ok {
      evidence := {
        handoffId := "operation-catalog:" ++ operation.runId ++ ":" ++ operation.operationId
        handoffType := "OPERATION_CATALOG_RECORD"
        direction := "RECOVERY_TO_CATALOG"
        payloadSchemaVersion := 1
        entityType := "RECOVERY_OPERATION"
        entityId := operation.runId ++ ":" ++ operation.operationId
        payload := payloadJson
        payloadHash := hash payloadJson }
      state := .prepared
      expectedPeerState := .peerCommitted
      attemptCount := 0
      lastErrorCode := none }
  else .error "OPERATION_CATALOG_HANDOFF_REQUIRES_FINAL_VERIFIED"

def decodeHandoffPayload (hash : String → String) (evidence : HandoffEvidence String) :
    Except String Payload :=
  if decodes hash evidence then
    match Json.loads evidence.payload with
    | some (.obj payload) => .ok payload
    | _ => .error "CROSS_STORE_HANDOFF_PAYLOAD_INVALID"
  else .error "CROSS_STORE_HANDOFF_PAYLOAD_HASH_MISMATCH"

def textArgument (raw : Payload) (name code : String) (default : Option String) :
    Except String String :=
  match Json.get raw name, default with
  | some (.str s), _ => .ok s
  | none, some text => .ok text
  | _, _ => .error code

def intArgument (raw : Payload) (name code : String) : Except String Int :=
  match Json.get raw name with
  | some (.int n) => .ok n
  | _ => .error code

/-- `RetainedVersionCatalogHandoff(**retained_raw)`. -/
def retainedVersionOfArguments (raw : Payload) : Except String RetainedVersionCatalogHandoff := do
  let code := "OPERATION_CATALOG_RETAINED_VERSION_INVALID"
  check ((raw.map Prod.fst).all ["version_object_id", "job_id", "job_revision_id",
    "endpoint_generation", "owner_installation_id", "ownership_epoch", "original_fingerprint_json",
    "created_utc", "retention_policy", "retention_until_utc", "manifest_hash",
    "object_role"].contains) code
  let versionObjectId ← textArgument raw "version_object_id" code none
  let jobId ← textArgument raw "job_id" code none
  let jobRevisionId ← textArgument raw "job_revision_id" code none
  let endpointGeneration ← intArgument raw "endpoint_generation" code
  let ownerInstallationId ← textArgument raw "owner_installation_id" code none
  let ownershipEpoch ← intArgument raw "ownership_epoch" code
  let originalFingerprintJson ← textArgument raw "original_fingerprint_json" code none
  let createdUtc ← textArgument raw "created_utc" code none
  let retentionPolicy ← textArgument raw "retention_policy" code none
  let retentionUntilUtc ← textArgument raw "retention_until_utc" code none
  let manifestHash ← textArgument raw "manifest_hash" code none
  let objectRole ← textArgument raw "object_role" code (some "OLD_TARGET_VERSION")
  return { versionObjectId, jobId, jobRevisionId, endpointGeneration, ownerInstallationId
           ownershipEpoch, originalFingerprintJson, createdUtc, retentionPolicy
           retentionUntilUtc, manifestHash, objectRole }

/-- `FinalFileCatalogHandoff(**values)`. -/
def finalFileHandoffOfArguments (raw : Payload)
    (retainedVersion : Option RetainedVersionCatalogHandoff) :
    Except String FinalFileCatalogHandoff := do
  let code := "OPERATION_CATALOG_FINAL_HANDOFF_INVALID"
  check ((raw.map Prod.fst).all ["handoff_id", "run_id", "run_target_id", "operation_id",
    "target_endpoint_id", "target_endpoint_revision_id", "final_relative_path", "content_hash",
    "lease_id", "fencing_token", "effect_kind", "retained_version"].contains) code
  let handoffId ← textArgument raw "handoff_id" code none
  let runId ← textArgument raw "run_id" code none
  let runTargetId ← textArgument raw "run_target_id" code none
  let operationId ← textArgument raw "operation_id" code none
  let targetEndpointId ← textArgument raw "target_endpoint_id" code none
  let targetEndpointRevisionId ← textArgument raw "target_endpoint_revision_id" code none
  let finalRelativePath ← textArgument raw "final_relative_path" code none
  let contentHash ← textArgument raw "content_hash" code none
  let leaseId ← textArgument raw "lease_id" code none
  let fencingToken ← intArgument raw "fencing_token" code
  let effectKind ← textArgument raw "effect_kind" code (some "COPY_NEW_FINAL_FILE")
  return { handoffId, runId, runTargetId, operationId, targetEndpointId
           targetEndpointRevisionId, finalRelativePath, contentHash, leaseId, fencingToken
           effectKind, retainedVersion }

/-- The retained version of `final_file_handoff_from_cross_store`. -/
def retainedVersionFromPayload : Option Json → Except String (Option RetainedVersionCatalogHandoff)
  | none | some .null => .ok none
  | some (.obj raw) => (retainedVersionOfArguments raw).map some
  | some _ => .error "OPERATION_CATALOG_RETAINED_VERSION_INVALID"

def finalFileHandoffFromCrossStore (py : CaseFolding) (hash : String → String)
    (handoff : CrossStoreHandoff String) : Except String FinalFileCatalogHandoff := do
  let payload ← decodeHandoffPayload hash handoff.evidence
  match Json.get payload "final_file_handoff" with
  | some (.obj raw) =>
    let retained ← retainedVersionFromPayload (Json.get raw "retained_version")
    let read ← finalFileHandoffOfArguments raw retained
    (validateFinalFileCatalogHandoff py read).mapError fun _ =>
      "OPERATION_CATALOG_FINAL_HANDOFF_INVALID"
    return read
  | _ => .error "OPERATION_CATALOG_FINAL_HANDOFF_MISSING"

theorem textArgument_readBack {fields : Payload} (hnames : (fields.map Prod.fst).Nodup) {i : Nat}
    {name text : String} (code : String) (default : Option String)
    (h : fields[i]? = some (name, .str text)) :
    textArgument (Json.readBack fields) name code default = .ok text := by
  simp only [textArgument, Json.get_readBack hnames h, Json.canonical]

theorem intArgument_readBack {fields : Payload} (hnames : (fields.map Prod.fst).Nodup) {i : Nat}
    {name : String} {n : Int} (code : String) (h : fields[i]? = some (name, .int n)) :
    intArgument (Json.readBack fields) name code = .ok n := by
  simp only [intArgument, Json.get_readBack hnames h, Json.canonical]

namespace RetainedVersionCatalogHandoff

variable (retained : RetainedVersionCatalogHandoff)

theorem asdict_nodup : (retained.asdict.map Prod.fst).Nodup := by
  simp only [asdict, List.map_cons, List.map_nil]
  decide

theorem asdict_distinct : (Json.obj retained.asdict).distinct = true := by
  rw [Json.distinct, Bool.and_eq_true, decide_eq_true_eq]
  exact ⟨retained.asdict_nodup, rfl⟩

theorem ofArguments_readBack :
    retainedVersionOfArguments (Json.readBack retained.asdict) = .ok retained := by
  have text {name s : String} (i : Nat) (d : Option String)
      (h : retained.asdict[i]? = some (name, .str s)) :=
    textArgument_readBack retained.asdict_nodup "OPERATION_CATALOG_RETAINED_VERSION_INVALID" d h
  have int {name : String} {n : Int} (i : Nat)
      (h : retained.asdict[i]? = some (name, .int n)) :=
    intArgument_readBack retained.asdict_nodup "OPERATION_CATALOG_RETAINED_VERSION_INVALID" h
  refine check_bind_eq_ok.mpr ⟨Json.names_readBack retained.asdict, ?_⟩
  rw [text 0 none rfl, text 1 none rfl, text 2 none rfl, int 3 rfl, text 4 none rfl, int 5 rfl,
    text 6 none rfl, text 7 none rfl, text 8 none rfl, text 9 none rfl, text 10 none rfl,
    text 11 _ rfl]
  rfl

end RetainedVersionCatalogHandoff

theorem retainedVersionFromPayload_value (retained : Option RetainedVersionCatalogHandoff) :
    retainedVersionFromPayload (some (retainedVersionValue retained).canonical) =
      .ok retained := by
  cases retained with
  | none => simp only [retainedVersionValue, Json.canonical, retainedVersionFromPayload]
  | some retained =>
    rw [retainedVersionValue, Json.canonical_readBack, retainedVersionFromPayload,
      retained.ofArguments_readBack]
    rfl

theorem retainedVersionValue_inj {retained other : Option RetainedVersionCatalogHandoff}
    (h : (retainedVersionValue retained).canonical = (retainedVersionValue other).canonical) :
    retained = other := by
  have hread := retainedVersionFromPayload_value retained
  rw [h, retainedVersionFromPayload_value other] at hread
  exact (Except.ok.inj hread).symm

theorem retainedVersionValue_distinct (retained : Option RetainedVersionCatalogHandoff) :
    (retainedVersionValue retained).distinct = true := by
  cases retained with
  | none => rfl
  | some retained => exact retained.asdict_distinct

namespace FinalFileCatalogHandoff

variable (handoff : FinalFileCatalogHandoff)

theorem asdict_nodup : (handoff.asdict.map Prod.fst).Nodup := by
  simp only [asdict, List.map_cons, List.map_nil]
  decide

theorem asdict_distinct : (Json.obj handoff.asdict).distinct = true := by
  rw [Json.distinct, Bool.and_eq_true, decide_eq_true_eq]
  refine ⟨handoff.asdict_nodup, ?_⟩
  simp only [asdict, Json.distinctFields, Json.distinct, retainedVersionValue_distinct,
    Bool.and_true]

theorem ofArguments_readBack :
    finalFileHandoffOfArguments (Json.readBack handoff.asdict) handoff.retainedVersion =
      .ok handoff := by
  have text {name s : String} (i : Nat) (d : Option String)
      (h : handoff.asdict[i]? = some (name, .str s)) :=
    textArgument_readBack handoff.asdict_nodup "OPERATION_CATALOG_FINAL_HANDOFF_INVALID" d h
  have int {name : String} {n : Int} (i : Nat) (h : handoff.asdict[i]? = some (name, .int n)) :=
    intArgument_readBack handoff.asdict_nodup "OPERATION_CATALOG_FINAL_HANDOFF_INVALID" h
  refine check_bind_eq_ok.mpr ⟨Json.names_readBack handoff.asdict, ?_⟩
  rw [text 0 none rfl, text 1 none rfl, text 2 none rfl, text 3 none rfl, text 4 none rfl,
    text 5 none rfl, text 6 none rfl, text 7 none rfl, text 8 none rfl, int 9 rfl, text 10 _ rfl]
  rfl

theorem asdict_inj {handoff other : FinalFileCatalogHandoff}
    (h : (Json.obj handoff.asdict).canonical = (Json.obj other.asdict).canonical) :
    handoff = other := by
  have hfields := Json.canonical_obj_eq h rfl handoff.asdict_nodup
  obtain ⟨⟩ := handoff
  obtain ⟨⟩ := other
  simp only [asdict, List.map_cons, List.map_nil, Json.canonical, List.cons.injEq, Json.str.injEq,
    Json.int.injEq, and_true] at hfields
  obtain ⟨rfl, rfl, rfl, rfl, rfl, rfl, rfl, rfl, rfl, rfl, rfl, hretained⟩ := hfields
  rw [retainedVersionValue_inj hretained]

end FinalFileCatalogHandoff

section
variable (operation : RecoveryOperation) (handoff : FinalFileCatalogHandoff)

theorem operationCatalogPayload_nodup :
    ((operationCatalogPayload operation handoff).map Prod.fst).Nodup := by
  simp only [operationCatalogPayload, List.map_cons, List.map_nil]
  decide

theorem operationCatalogPayload_distinct :
    (Json.obj (operationCatalogPayload operation handoff)).distinct = true := by
  rw [Json.distinct, Bool.and_eq_true, decide_eq_true_eq]
  refine ⟨operationCatalogPayload_nodup operation handoff, ?_⟩
  rw [operationCatalogPayload, Json.distinctFields, handoff.asdict_distinct]
  rfl

theorem operationCatalogPayload_inj {operation operation' : RecoveryOperation}
    {handoff other : FinalFileCatalogHandoff}
    (h : (Json.obj (operationCatalogPayload operation handoff)).dump =
      (Json.obj (operationCatalogPayload operation' other)).dump) : handoff = other := by
  rw [← Json.dumpWith_escape, ← Json.dumpWith_escape] at h
  have hcanonical := Json.dumpWith_injective Json.escape_escapes
    (operationCatalogPayload_distinct operation handoff)
    (operationCatalogPayload_distinct operation' other) h
  have hfields := Json.canonical_obj_eq hcanonical rfl
    (operationCatalogPayload_nodup operation handoff)
  exact FinalFileCatalogHandoff.asdict_inj (List.cons.inj hfields).1

end

variable {hash : String → String} {operation : RecoveryOperation}
  {handoff : FinalFileCatalogHandoff} {source : CrossStoreHandoff String}

theorem operationCatalogSourceHandoff_payload
    (h : operationCatalogSourceHandoff hash operation handoff = .ok source) :
    source.evidence.payload = (Json.obj (operationCatalogPayload operation handoff)).dump ∧
      decodes hash source.evidence = true := by
  rw [operationCatalogSourceHandoff] at h
  split at h
  · cases h
    exact ⟨rfl, decide_eq_true rfl⟩
  · cases h

theorem finalFileHandoffFromCrossStore_source {py : CaseFolding}
    (hvalid : validateFinalFileCatalogHandoff py handoff = .ok ())
    (hsource : operationCatalogSourceHandoff hash operation handoff = .ok source) :
    finalFileHandoffFromCrossStore py hash source = .ok handoff := by
  obtain ⟨hpayload, hdecodes⟩ := operationCatalogSourceHandoff_payload hsource
  have hdecode : decodeHandoffPayload hash source.evidence =
      .ok (Json.readBack (operationCatalogPayload operation handoff)) := by
    rw [decodeHandoffPayload, if_pos hdecodes, hpayload,
      Json.loads_dump_obj (operationCatalogPayload_distinct operation handoff)]
  have hraw : Json.get (Json.readBack (operationCatalogPayload operation handoff))
      "final_file_handoff" = some (.obj (Json.readBack handoff.asdict)) := by
    rw [Json.get_readBack (i := 0) (operationCatalogPayload_nodup operation handoff) rfl,
      Json.canonical_readBack]
  have hretained : retainedVersionFromPayload (Json.get (Json.readBack handoff.asdict)
      "retained_version") = .ok handoff.retainedVersion := by
    rw [Json.get_readBack (i := 11) handoff.asdict_nodup rfl, retainedVersionFromPayload_value]
  rw [finalFileHandoffFromCrossStore, hdecode]
  simp only [bind, Except.bind, hraw, hretained, handoff.ofArguments_readBack, hvalid]
  rfl

theorem validate_of_handoffFromOperation {py : CaseFolding} {contentHash : String}
    {handoffId? : Option String}
    (h : handoffFromOperation py operation contentHash handoffId? = .ok handoff) :
    validateFinalFileCatalogHandoff py handoff = .ok () := by
  obtain ⟨retained, -, h⟩ := except_bind_ok h
  obtain ⟨⟨⟩, hvalid, h⟩ := except_bind_ok h
  cases h
  exact hvalid

/-- A handoff built from a verified operation is read back from its payload, field for field, and
no other handoff has that payload. -/
theorem finalFileHandoff_roundTrip (py : CaseFolding) (hash : String → String)
    {operation : RecoveryOperation} {contentHash : String} {handoffId? : Option String}
    {handoff : FinalFileCatalogHandoff}
    (hverified : operation.phase = .finalVerified ∨ operation.phase = .catalogRecorded)
    (hbuilt : handoffFromOperation py operation contentHash handoffId? = .ok handoff) :
    ∃ source, operationCatalogSourceHandoff hash operation handoff = .ok source ∧
      finalFileHandoffFromCrossStore py hash source = .ok handoff ∧
      ∀ (operation' : RecoveryOperation) (other : FinalFileCatalogHandoff)
        (source' : CrossStoreHandoff String),
        operationCatalogSourceHandoff hash operation' other = .ok source' →
          source'.evidence.payload = source.evidence.payload → other = handoff := by
  have hphase : [Phase.finalVerified, .catalogRecorded].contains operation.phase = true := by
    rcases hverified with hphase | hphase <;> rw [hphase] <;> rfl
  refine ⟨_, if_pos hphase, ?_⟩
  have hsource : operationCatalogSourceHandoff hash operation handoff = .ok _ := if_pos hphase
  refine ⟨finalFileHandoffFromCrossStore_source (validate_of_handoffFromOperation hbuilt) hsource,
    fun operation' other source' hother hpayload => ?_⟩
  rw [(operationCatalogSourceHandoff_payload hother).1] at hpayload
  exact operationCatalogPayload_inj hpayload

def verifiedImage : RecoveryOperation where
  runId := "run"
  runTargetId := "target"
  operationId := "operation"
  targetEndpointId := "endpoint"
  targetEndpointRevisionId := "revision"
  endpointGeneration := 1
  ownerInstallationId := "owner"
  ownershipEpoch := 1
  leaseId := "lease"
  leaseResourceKey := "resource"
  fencingToken := 1
  phase := .finalVerified
  finalRelativePath := "photos/image.jpg"
  targetPreconditionKind := .absent

def imageHandoff : FinalFileCatalogHandoff where
  handoffId := "final-file:run:operation"
  runId := "run"
  runTargetId := "target"
  operationId := "operation"
  targetEndpointId := "endpoint"
  targetEndpointRevisionId := "revision"
  finalRelativePath := "photos/image.jpg"
  contentHash := String.ofList (List.replicate 64 '0')
  leaseId := "lease"
  fencingToken := 1

theorem imageHandoff_roundTrip :
    ∃ source, operationCatalogSourceHandoff id verifiedImage imageHandoff = .ok source ∧
      finalFileHandoffFromCrossStore asciiFolding id source = .ok imageHandoff ∧
      ∀ (operation' : RecoveryOperation) (other : FinalFileCatalogHandoff)
        (source' : CrossStoreHandoff String),
        operationCatalogSourceHandoff id operation' other = .ok source' →
          source'.evidence.payload = source.evidence.payload → other = imageHandoff :=
  finalFileHandoff_roundTrip asciiFolding id (.inl rfl)
    (show handoffFromOperation asciiFolding verifiedImage
      (String.ofList (List.replicate 64 '0')) none = .ok imageHandoff by rfl)

end MediaSync.CrossStore
