import MediaSync.Execution.Permit
import MediaSync.Foundation.JsonLines
import MediaSync.Foundation.SafePaths
import MediaSync.Plans.Checksum
import MediaSync.Recovery.IntentStore
import MediaSync.StateStores.TargetIntents

/-! The document of an intent segment on its target: a header line and a line for each operation,
all of them canonical JSON. -/
namespace MediaSync.Execution
open Text Recovery StateStores

/-- `RecoveryTargetPreconditionKind`, as it is written. -/
def preconditionText : TargetPreconditionKind → String
  | .absent => "ABSENT"
  | .matchFingerprint => "MATCH_FINGERPRINT"
  | .directoryEmpty => "DIRECTORY_EMPTY"
  | .none => "NONE"

/-- `RecoveryOperationKind`, as it is written. -/
def operationKindText : OperationKind → String
  | .copyNew => "COPY_NEW"
  | .createDirectory => "CREATE_DIRECTORY"

/-- `RecoveryIntentSegmentDurabilityState`, as it is written. -/
def durabilityText : SegmentDurabilityState → String
  | .pending => "PENDING"
  | .durable => "DURABLE"

/-- `RecoveryIntentSegmentState`, as it is written. -/
def segmentStateText : SegmentState → String
  | .building => "BUILDING"
  | .durable => "DURABLE"
  | .reconciled => "RECONCILED"
  | .cleanupEligible => "CLEANUP_ELIGIBLE"
  | .cleaned => "CLEANED"

def intentOperationPayload (operation : RecoveryOperation) (ordinal : Nat) : Payload := [
  ("assurance_level", Plans.jsonText operation.assuranceLevel),
  ("expected_final_fingerprint_json", Plans.jsonText operation.expectedFinalFingerprintJson),
  ("expected_source_fingerprint_json", Plans.jsonText operation.expectedSourceFingerprintJson),
  ("expected_source_parent_identity_json",
    Plans.jsonText operation.expectedSourceParentIdentityJson),
  ("expected_staging_fingerprint_json", Plans.jsonText operation.expectedStagingFingerprintJson),
  ("expected_target_fingerprint_json", Plans.jsonText operation.expectedTargetFingerprintJson),
  ("expected_target_parent_identity_json",
    Plans.jsonText operation.expectedTargetParentIdentityJson),
  ("expected_target_path_chain_hash", Plans.jsonText operation.expectedTargetPathChainHash),
  ("final_relative_path", .str operation.finalRelativePath),
  ("operation_id", .str operation.operationId),
  ("operation_kind", .str (operationKindText operation.operationKind)),
  ("ordinal", .int ordinal),
  ("plan_sequence_no", .int operation.planSequenceNo),
  ("planned_bytes", .int operation.plannedBytes),
  ("record_type", .str "OPERATION"),
  ("source_case_context_hash", Plans.jsonText operation.sourceCaseContextHash),
  ("source_endpoint_id", Plans.jsonText operation.sourceEndpointId),
  ("source_endpoint_revision_id", Plans.jsonText operation.sourceEndpointRevisionId),
  ("source_guard_evidence_hash", Plans.jsonText operation.sourceGuardEvidenceHash),
  ("source_guard_kind", Plans.jsonText operation.sourceGuardKind),
  ("source_hash_evidence_kind", Plans.jsonText operation.sourceHashEvidenceKind),
  ("source_path_chain_hash", Plans.jsonText operation.sourcePathChainHash),
  ("source_precondition_json", Plans.jsonText operation.sourcePreconditionJson),
  ("source_relative_path", Plans.jsonText operation.sourceRelativePath),
  ("staging_durability_state", Plans.jsonText operation.stagingDurabilityState),
  ("staging_object_id", Plans.jsonText operation.stagingObjectId),
  ("target_precondition_kind", .str (preconditionText operation.targetPreconditionKind))]

def intentOperationPayloads (operations : List RecoveryOperation) : List Payload :=
  operations.mapIdx fun ordinal operation => intentOperationPayload operation ordinal

structure SegmentBinding where
  runId : String
  runTargetId : String
  endpointId : String
  endpointRevisionId : String
  ownerInstallationId : String
  ownershipEpoch : Int
  leaseId : String
  fencingToken : Int
  deriving DecidableEq

def segmentBinding (segment : IntentSegment) : SegmentBinding where
  runId := segment.runId
  runTargetId := segment.runTargetId
  endpointId := segment.targetEndpointId
  endpointRevisionId := segment.targetEndpointRevisionId
  ownerInstallationId := segment.ownerInstallationId
  ownershipEpoch := segment.ownershipEpoch
  leaseId := segment.leaseId
  fencingToken := segment.fencingToken

/-- What `recovery_intent_segment_hash_for_binding` takes the hash of. -/
def hashMaterial (binding : SegmentBinding) (payloads : List Payload)
    (planChecksum : Option String) : Json := .obj [
  ("endpoint_id", .str binding.endpointId),
  ("endpoint_revision_id", .str binding.endpointRevisionId),
  ("fencing_token", .int binding.fencingToken),
  ("lease_id", .str binding.leaseId),
  ("operations", .arr (payloads.map .obj)),
  ("owner_installation_id", .str binding.ownerInstallationId),
  ("ownership_epoch", .int binding.ownershipEpoch),
  ("plan_checksum", Plans.jsonText planChecksum),
  ("run_id", .str binding.runId),
  ("run_target_id", .str binding.runTargetId),
  ("schema_version", .int 1)]

def intentSegmentHash (binding : SegmentBinding) (payloads : List Payload)
    (planChecksum : Option String) : String :=
  Sha256.hexdigest (Json.dump (hashMaterial binding payloads planChecksum))

def canonicalJsonLine (payload : Payload) : List Char := Json.line (.obj payload)

/-- `f"{sequence:06d}"`. -/
def sixDigits (sequence : Int) : String :=
  let digits := toString sequence.natAbs
  if sequence < 0 then "-" ++ String.ofList (List.replicate (5 - digits.length) '0') ++ digits
  else String.ofList (List.replicate (6 - digits.length) '0') ++ digits

def intentSegmentRelativePath (lib : PlaceLibrary) (ownerInstallationId runId : String)
    (segmentSequence : Int) : String :=
  "installations/" ++ recoveryIntentInstallationNamespace lib ownerInstallationId ++ "/recovery/" ++
    safePathComponent runId ++ "/segment-" ++ sixDigits segmentSequence ++ ".intent.jsonl"

def requireSegmentDocumentBinding (lib : PlaceLibrary) (segment : IntentSegment)
    (payloads : List Payload) (planChecksum : String) : Except String Unit := do
  check (forwardSlashes segment.relativePath =
      intentSegmentRelativePath lib segment.ownerInstallationId segment.runId
        segment.segmentSequence) "TARGET_RECOVERY_INTENT_PATH_MISMATCH"
  check (payloads.length = segment.operationCount) "TARGET_RECOVERY_INTENT_OPERATION_COUNT_MISMATCH"
  check ((payloads.map fun payload => (canonicalJsonLine payload).length).sum = segment.byteCount)
    "TARGET_RECOVERY_INTENT_BYTE_COUNT_MISMATCH"
  check (intentSegmentHash (segmentBinding segment) payloads (some planChecksum) =
      segment.segmentHash) "TARGET_RECOVERY_INTENT_HASH_MISMATCH"

def headerPayload (segment : IntentSegment) (planChecksum createdUtc : String) : Payload := [
  ("byte_count", .int segment.byteCount),
  ("created_utc", .str createdUtc),
  ("durability_state", .str (durabilityText segment.durabilityState)),
  ("endpoint_generation", .int segment.endpointGeneration),
  ("fencing_token", .int segment.fencingToken),
  ("lease_id", .str segment.leaseId),
  ("operation_count", .int segment.operationCount),
  ("owner_installation_id", .str segment.ownerInstallationId),
  ("ownership_epoch", .int segment.ownershipEpoch),
  ("plan_checksum", .str planChecksum),
  ("previous_segment_hash", Plans.jsonText segment.previousSegmentHash),
  ("record_type", .str "HEADER"),
  ("relative_path", .str segment.relativePath),
  ("run_id", .str segment.runId),
  ("run_target_id", .str segment.runTargetId),
  ("schema_version", .int segment.schemaVersion),
  ("segment_hash", .str segment.segmentHash),
  ("segment_id", .str segment.segmentId),
  ("segment_sequence", .int segment.segmentSequence),
  ("state", .str (segmentStateText segment.state)),
  ("target_endpoint_id", .str segment.targetEndpointId),
  ("target_endpoint_revision_id", .str segment.targetEndpointRevisionId),
  ("updated_utc", .str createdUtc)]

def headerBytes : Nat := 65536

def documentBytes : Nat := 16777216 + headerBytes

def buildTargetRecoveryIntentSegmentDocument (lib : PlaceLibrary) (segment : IntentSegment)
    (operations : List RecoveryOperation) (planChecksum createdUtc : String) :
    Except String (List Char) := do
  check (isHash planChecksum) "TARGET_RECOVERY_INTENT_PLAN_CHECKSUM_INVALID"
  check (nonBlank createdUtc) "TARGET_RECOVERY_INTENT_TIMESTAMP_INVALID"
  requireSegmentDocumentBinding lib segment (intentOperationPayloads operations) planChecksum
  let header := canonicalJsonLine (headerPayload segment planChecksum createdUtc)
  check (header.length ≤ headerBytes) "TARGET_RECOVERY_INTENT_HEADER_TOO_LARGE"
  let document := header ++ (intentOperationPayloads operations).flatMap canonicalJsonLine
  check (document.length ≤ documentBytes) "TARGET_RECOVERY_INTENT_DOCUMENT_TOO_LARGE"
  return document

def parseCanonicalObject (line : List Char) (code : String) : Except String Payload :=
  match Json.loads (String.ofList line) with
  | some (.obj payload) =>
    if line.all (fun c => c.toNat < 128) && canonicalJsonLine payload = line then .ok payload
    else .error code
  | _ => .error code

def requireExactKeys (payload : Payload) (keys : List String) (code : String) :
    Except String Unit :=
  check ((payload.map Prod.fst).all keys.contains && keys.all (payload.map Prod.fst).contains) code

def fieldIsText (payload : Payload) (field text : String) : Bool :=
  match Json.get payload field with
  | some (.str s) => s = text
  | _ => false

def fieldIsNumber (payload : Payload) (field : String) (n : Nat) : Bool :=
  match Json.get payload field with
  | some (.int m) => m = n
  | some (.bool b) => (if b then 1 else 0) = n
  | some (.float text) => text = toString n ++ ".0" || (n = 0 && text = "-0.0")
  | _ => false

def requiredText (payload : Payload) (field : String) : Except String String :=
  match Json.get payload field with
  | some (.str s) =>
    if nonBlank s then .ok s else .error "TARGET_RECOVERY_INTENT_FIELD_INVALID"
  | _ => .error "TARGET_RECOVERY_INTENT_FIELD_INVALID"

def requiredInt (payload : Payload) (field : String) (minimum : Int) : Except String Int :=
  match Json.get payload field with
  | some (.int n) =>
    if n < minimum then .error "TARGET_RECOVERY_INTENT_FIELD_INVALID" else .ok n
  | _ => .error "TARGET_RECOVERY_INTENT_FIELD_INVALID"

def requiredHash (payload : Payload) (field : String) : Except String String := do
  let value ← requiredText payload field
  check (isHash value) "TARGET_RECOVERY_INTENT_FIELD_INVALID"
  return value

def optionalHash (payload : Payload) (field : String) : Except String (Option String) :=
  match Json.get payload field with
  | none | some .null => .ok none
  | some _ => (requiredHash payload field).map some

def headerKeys : List String :=
  ["byte_count", "created_utc", "durability_state", "endpoint_generation", "fencing_token",
    "lease_id", "operation_count", "owner_installation_id", "ownership_epoch", "plan_checksum",
    "previous_segment_hash", "record_type", "relative_path", "run_id", "run_target_id",
    "schema_version", "segment_hash", "segment_id", "segment_sequence", "state",
    "target_endpoint_id", "target_endpoint_revision_id", "updated_utc"]

def operationKeys : List String :=
  ["assurance_level", "expected_final_fingerprint_json", "expected_source_fingerprint_json",
    "expected_source_parent_identity_json", "expected_staging_fingerprint_json",
    "expected_target_fingerprint_json", "expected_target_parent_identity_json",
    "expected_target_path_chain_hash", "final_relative_path", "operation_id", "operation_kind",
    "ordinal", "plan_sequence_no", "planned_bytes", "record_type", "source_case_context_hash",
    "source_endpoint_id", "source_endpoint_revision_id", "source_guard_evidence_hash",
    "source_guard_kind", "source_hash_evidence_kind", "source_path_chain_hash",
    "source_precondition_json", "source_relative_path", "staging_durability_state",
    "staging_object_id", "target_precondition_kind"]

def segmentFromHeader (header : Payload) : Except String IntentSegment := do
  check (fieldIsText header "record_type" "HEADER" &&
    fieldIsText header "durability_state" "DURABLE" && fieldIsText header "state" "DURABLE" &&
    fieldIsNumber header "schema_version" 1) "TARGET_RECOVERY_INTENT_HEADER_INVALID"
  let segmentId ← requiredText header "segment_id"
  let runId ← requiredText header "run_id"
  let runTargetId ← requiredText header "run_target_id"
  let targetEndpointId ← requiredText header "target_endpoint_id"
  let targetEndpointRevisionId ← requiredText header "target_endpoint_revision_id"
  let endpointGeneration ← requiredInt header "endpoint_generation" 1
  let ownerInstallationId ← requiredText header "owner_installation_id"
  let ownershipEpoch ← requiredInt header "ownership_epoch" 1
  let leaseId ← requiredText header "lease_id"
  let fencingToken ← requiredInt header "fencing_token" 1
  let segmentSequence ← requiredInt header "segment_sequence" 0
  let relativePath ← requiredText header "relative_path"
  let schemaVersion ← requiredInt header "schema_version" 1
  let operationCount ← requiredInt header "operation_count" 1
  let byteCount ← requiredInt header "byte_count" 0
  let segmentHash ← requiredHash header "segment_hash"
  let previousSegmentHash ← optionalHash header "previous_segment_hash"
  let segment : IntentSegment := {
    segmentId, runId, runTargetId, targetEndpointId, targetEndpointRevisionId, endpointGeneration,
    ownerInstallationId, ownershipEpoch, leaseId, fencingToken, segmentSequence, relativePath,
    schemaVersion, operationCount, byteCount, segmentHash, previousSegmentHash }
  match validateRecoveryIntentSegment segment with
  | .error _ => .error "TARGET_RECOVERY_INTENT_HEADER_INVALID"
  | .ok () => return segment

def parseOperationLine (ordinal : Nat) (line : List Char) : Except String Payload := do
  let payload ← parseCanonicalObject line "TARGET_RECOVERY_INTENT_OPERATION_INVALID"
  requireExactKeys payload operationKeys "TARGET_RECOVERY_INTENT_OPERATION_INVALID"
  check (fieldIsText payload "record_type" "OPERATION" && fieldIsNumber payload "ordinal" ordinal)
    "TARGET_RECOVERY_INTENT_OPERATION_ORDER_INVALID"
  let _ ← requiredText payload "operation_id"
  let finalRelativePath ← requiredText payload "final_relative_path"
  let _ ← parseEndpointRelativePath finalRelativePath
  match Json.get payload "source_relative_path" with
  | none | some .null => return payload
  | some (.str sourceRelativePath) => do
    let _ ← parseEndpointRelativePath sourceRelativePath
    return payload
  | some _ => .error "TARGET_RECOVERY_INTENT_OPERATION_INVALID"

def parseOperationLines : Nat → List (List Char) → Except String (List Payload)
  | _, [] => .ok []
  | ordinal, line :: rest => do
    let payload ← parseOperationLine ordinal line
    let payloads ← parseOperationLines (ordinal + 1) rest
    return payload :: payloads

structure IntentDocument where
  segment : IntentSegment
  planChecksum : String
  operationPayloads : List Payload
  createdUtc : String
  updatedUtc : String

def parseLines (lib : PlaceLibrary) (first : List Char) (rest : List (List Char)) :
    Except String IntentDocument := do
  check (first.length ≤ headerBytes) "TARGET_RECOVERY_INTENT_HEADER_TOO_LARGE"
  let header ← parseCanonicalObject first "TARGET_RECOVERY_INTENT_HEADER_INVALID"
  requireExactKeys header headerKeys "TARGET_RECOVERY_INTENT_HEADER_INVALID"
  let segment ← segmentFromHeader header
  let planChecksum ← requiredHash header "plan_checksum"
  let createdUtc ← requiredText header "created_utc"
  let updatedUtc ← requiredText header "updated_utc"
  check (createdUtc = updatedUtc) "TARGET_RECOVERY_INTENT_TIMESTAMP_MISMATCH"
  let operationPayloads ← parseOperationLines 0 rest
  check (operationPayloads.length = segment.operationCount)
    "TARGET_RECOVERY_INTENT_OPERATION_COUNT_MISMATCH"
  check ((rest.map List.length).sum = segment.byteCount)
    "TARGET_RECOVERY_INTENT_BYTE_COUNT_MISMATCH"
  requireSegmentDocumentBinding lib segment operationPayloads planChecksum
  return { segment, planChecksum, operationPayloads, createdUtc, updatedUtc }

def parseTargetRecoveryIntentSegmentDocument (lib : PlaceLibrary) (document : List Char) :
    Except String IntentDocument :=
  if document.isEmpty || documentBytes < document.length then
    .error "TARGET_RECOVERY_INTENT_DOCUMENT_SIZE_INVALID"
  else
    match Json.splitLines document with
    | [] => .error "TARGET_RECOVERY_INTENT_DOCUMENT_NOT_CANONICAL"
    | first :: rest =>
      if !(first :: rest).all (fun line => line.getLast? = some '\n') then
        .error "TARGET_RECOVERY_INTENT_DOCUMENT_NOT_CANONICAL"
      else parseLines lib first rest

section
variable {lib : PlaceLibrary}

variable {payload : Payload}

theorem parseCanonicalObject_eq_ok {line : List Char} {code : String}
    (h : parseCanonicalObject line code = .ok payload) :
    (Json.obj payload).distinct = true ∧ canonicalJsonLine payload = line := by
  unfold parseCanonicalObject at h
  split at h
  · rename_i read hread
    split_ifs at h with hline
    cases h
    simp only [Bool.and_eq_true, decide_eq_true_eq] at hline
    exact ⟨Json.distinct_of_loads hread, hline.2⟩
  · cases h

/-- What is known of an operation line that was read. -/
structure OperationRead (ordinal : Nat) (line : List Char) (payload : Payload) : Prop where
  read : parseCanonicalObject line "TARGET_RECOVERY_INTENT_OPERATION_INVALID" = .ok payload
  distinct : (Json.obj payload).distinct = true
  canonical : canonicalJsonLine payload = line
  operationId : ∃ operationId, requiredText payload "operation_id" = .ok operationId
  finalPath : ∃ path, requiredText payload "final_relative_path" = .ok path ∧
    ∃ parsed, parseEndpointRelativePath path = .ok parsed
  sourcePath : ∀ path, Json.get payload "source_relative_path" = some (.str path) →
    ∃ parsed, parseEndpointRelativePath path = .ok parsed

theorem parseOperationLine_eq_ok {ordinal : Nat} {line : List Char}
    (h : parseOperationLine ordinal line = .ok payload) : OperationRead ordinal line payload := by
  unfold parseOperationLine at h
  obtain ⟨read, hread, h⟩ := except_bind_ok h
  obtain ⟨-, h⟩ := Plans.unit_bind_eq_ok.mp h
  rw [check_bind_eq_ok] at h
  obtain ⟨-, h⟩ := h
  obtain ⟨operationId, hoperationId, h⟩ := except_bind_ok h
  obtain ⟨path, hpath, h⟩ := except_bind_ok h
  obtain ⟨parsed, hparsed, h⟩ := except_bind_ok h
  obtain ⟨hdistinct, hcanonical⟩ := parseCanonicalObject_eq_ok hread
  split at h
  · rename_i hsource
    cases h
    exact ⟨hread, hdistinct, hcanonical, ⟨_, hoperationId⟩, ⟨path, hpath, parsed, hparsed⟩,
      fun other hother => by rw [hsource] at hother; cases hother⟩
  · rename_i hsource
    cases h
    exact ⟨hread, hdistinct, hcanonical, ⟨_, hoperationId⟩, ⟨path, hpath, parsed, hparsed⟩,
      fun other hother => by rw [hsource] at hother; cases hother⟩
  · rename_i source hsource
    obtain ⟨parsedSource, hparsedSource, h⟩ := except_bind_ok h
    cases h
    refine ⟨hread, hdistinct, hcanonical, ⟨_, hoperationId⟩, ⟨path, hpath, parsed, hparsed⟩,
      fun other hother => ?_⟩
    rw [hsource] at hother
    cases hother
    exact ⟨parsedSource, hparsedSource⟩
  · cases h

/-- What is known of a document that was read. -/
structure DocumentRead (lib : PlaceLibrary) (first : List Char) (rest : List (List Char))
    (parsed : IntentDocument) : Prop where
  header : ∃ header, parseCanonicalObject first "TARGET_RECOVERY_INTENT_HEADER_INVALID" =
    .ok header ∧ segmentFromHeader header = .ok parsed.segment
  operations : parseOperationLines 0 rest = .ok parsed.operationPayloads
  binding : requireSegmentDocumentBinding lib parsed.segment parsed.operationPayloads
    parsed.planChecksum = .ok ()

variable {parsed : IntentDocument}

theorem parseLines_eq_ok {first : List Char} {rest : List (List Char)}
    (h : parseLines lib first rest = .ok parsed) : DocumentRead lib first rest parsed := by
  unfold parseLines at h
  rw [check_bind_eq_ok] at h
  obtain ⟨-, h⟩ := h
  obtain ⟨header, hheader, h⟩ := except_bind_ok h
  obtain ⟨-, h⟩ := Plans.unit_bind_eq_ok.mp h
  obtain ⟨segment, hsegment, h⟩ := except_bind_ok h
  obtain ⟨planChecksum, -, h⟩ := except_bind_ok h
  obtain ⟨createdUtc, -, h⟩ := except_bind_ok h
  obtain ⟨updatedUtc, -, h⟩ := except_bind_ok h
  rw [check_bind_eq_ok] at h
  obtain ⟨-, h⟩ := h
  obtain ⟨payloads, hpayloads, h⟩ := except_bind_ok h
  simp only [check_bind_eq_ok] at h
  obtain ⟨-, -, h⟩ := h
  obtain ⟨hbinding, h⟩ := Plans.unit_bind_eq_ok.mp h
  cases h
  exact ⟨⟨header, hheader, hsegment⟩, hpayloads, hbinding⟩

theorem parseDocument_eq_ok {document : List Char}
    (h : parseTargetRecoveryIntentSegmentDocument lib document = .ok parsed) :
    ∃ first rest, Json.splitLines document = first :: rest ∧
      DocumentRead lib first rest parsed := by
  unfold parseTargetRecoveryIntentSegmentDocument at h
  split_ifs at h
  split at h
  · cases h
  · rename_i first rest hlines
    split_ifs at h
    exact ⟨first, rest, hlines, parseLines_eq_ok h⟩

end

end MediaSync.Execution
