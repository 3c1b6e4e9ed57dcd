import MediaSync.Plans.Checksum
import MediaSync.Snapshots.Records

/-! A snapshot is sealed over the rows of its batches, in an order of their own, with a checksum of
the fields its schema version has. -/
namespace MediaSync.Snapshots
open Text SortKeys
open Plans (jsonText jsonInt)

structure SnapshotBatchSummary where
  sequenceNo : Int
  payloadHash : String
  entryCount : Int
  coverageUpdateCount : Int
  issueCount : Int
  approximateBytes : Int
  filterDecisionCount : Int := 0
  deriving DecidableEq

structure SealedSnapshot where
  snapshotId : String
  snapshotSchemaVersion : Int
  checksumAlgorithm : String
  serializerVersion : String
  snapshotChecksum : String
  entryCount : Int
  totalBytes : Int
  batchCount : Int
  directoryCoverageCount : Int
  issueCount : Int
  blockingIssueCount : Int
  caseCollisionGroupCount : Int
  filterDecisionCount : Int := 0
  complete : Bool := true
  immutable : Bool := true
  deriving DecidableEq

/-- The arguments of `snapshot_seal`. -/
structure SnapshotRows where
  snapshotId : String
  entries : List SnapshotFileEntry
  coverage : List SnapshotDirectoryCoverage
  issues : List SnapshotIssue
  filterDecisions : List SnapshotFilterDecision := []
  batches : List SnapshotBatchSummary
  caseCollisionGroupCount : Int
  snapshotSchemaVersion : Int := 4

def validSnapshotPath (value : String) : Bool :=
  validRelativePath value && (components value).all fun part => !part.toList.contains ':'

def validCoveragePath (value : String) : Bool := value == "." || validSnapshotPath value

def validateEntries : List String → List String → List SnapshotFileEntry → Except String Unit
  | _, _, [] => .ok ()
  | entryIds, relativePaths, entry :: rest => do
    check (nonBlank entry.entryId) "SNAPSHOT_ENTRY_REQUIRES_ID"
    check (!entryIds.contains entry.entryId) "SNAPSHOT_ENTRY_IDS_MUST_BE_UNIQUE_IN_BATCH"
    check (validSnapshotPath entry.relativePath) "SNAPSHOT_ENTRY_REQUIRES_RELATIVE_PATH"
    check (!relativePaths.contains entry.relativePath)
      "SNAPSHOT_ENTRY_PATHS_MUST_BE_UNIQUE_IN_BATCH"
    check (nonBlank entry.comparisonKey) "SNAPSHOT_ENTRY_REQUIRES_COMPARISON_KEY"
    check (nonBlank entry.objectType) "SNAPSHOT_ENTRY_REQUIRES_OBJECT_TYPE"
    check (entry.sizeBytes.all fun n => 0 ≤ n) "SNAPSHOT_ENTRY_SIZE_MUST_BE_NON_NEGATIVE"
    check (entry.birthtimeNs.all fun n => 0 ≤ n)
      "SNAPSHOT_ENTRY_BIRTHTIME_MUST_BE_NON_NEGATIVE"
    check (entry.identityFingerprintHash.all isHash)
      "SNAPSHOT_ENTRY_IDENTITY_FINGERPRINT_INVALID"
    validateEntries (entry.entryId :: entryIds) (entry.relativePath :: relativePaths) rest

def coverageStates : List String :=
  ["COMPLETE", "VOLATILE", "UNREADABLE", "DISAPPEARED", "REPARSE_BLOCKED", "CASE_CONTEXT_UNKNOWN",
    "FILTER_INCOMPLETE", "CANCELLED"]

def caseModes : List String := ["CASE_SENSITIVE", "CASE_INSENSITIVE", "UNKNOWN"]

def validateDirectoryCoverage : List String → List SnapshotDirectoryCoverage → Except String Unit
  | _, [] => .ok ()
  | relativePaths, coverage :: rest => do
    check (validCoveragePath coverage.relativePath) "SNAPSHOT_COVERAGE_REQUIRES_RELATIVE_PATH"
    check (!relativePaths.contains coverage.relativePath)
      "SNAPSHOT_COVERAGE_PATHS_MUST_BE_UNIQUE_IN_BATCH"
    check (nonBlank coverage.comparisonKey) "SNAPSHOT_COVERAGE_REQUIRES_COMPARISON_KEY"
    check (coverageStates.contains coverage.coverageState) "SNAPSHOT_COVERAGE_STATE_UNKNOWN"
    check (caseModes.contains coverage.caseMode) "SNAPSHOT_COVERAGE_CASE_MODE_UNKNOWN"
    check (nonBlank coverage.caseModeEvidence) "SNAPSHOT_COVERAGE_REQUIRES_CASE_MODE_EVIDENCE"
    check (isHash coverage.caseContextHash) "SNAPSHOT_COVERAGE_REQUIRES_CASE_CONTEXT_HASH"
    validateDirectoryCoverage (coverage.relativePath :: relativePaths) rest

def validateSnapshotIssues : List SnapshotIssue → Except String Unit
  | [] => .ok ()
  | issue :: rest => do
    check (validCoveragePath issue.relativePath) "SNAPSHOT_ISSUE_REQUIRES_RELATIVE_PATH"
    check (nonBlank issue.issueType) "SNAPSHOT_ISSUE_REQUIRES_TYPE"
    validateSnapshotIssues rest

def validateSnapshotFilterDecisions : List String → List SnapshotFilterDecision →
    Except String Unit
  | _, [] => .ok ()
  | relativePaths, decision :: rest => do
    check (validSnapshotPath decision.relativePath) "SNAPSHOT_FILTER_REQUIRES_RELATIVE_PATH"
    check (!relativePaths.contains decision.relativePath)
      "SNAPSHOT_FILTER_PATHS_MUST_BE_UNIQUE_IN_BATCH"
    check (["file", "directory", "reparse", "other"].contains decision.objectType)
      "SNAPSHOT_FILTER_OBJECT_TYPE_UNKNOWN"
    check (["INCLUDED", "EXCLUDED", "ERROR"].contains decision.decisionState)
      "SNAPSHOT_FILTER_DECISION_STATE_UNKNOWN"
    check (nonBlank decision.reasonCode) "SNAPSHOT_FILTER_REQUIRES_REASON_CODE"
    check (decision.matchedRuleId.all nonBlank) "SNAPSHOT_FILTER_RULE_ID_INVALID"
    check (["CONTROL_AREA", "PRE_METADATA", "METADATA", "EMPTY_DIRECTORY"].contains
      decision.evaluationStage) "SNAPSHOT_FILTER_EVALUATION_STAGE_UNKNOWN"
    validateSnapshotFilterDecisions (decision.relativePath :: relativePaths) rest

/-- `sum(entry.size_bytes or 0 for entry in entries)`. -/
def totalBytes (entries : List SnapshotFileEntry) : Int :=
  (entries.map fun entry => entry.sizeBytes.getD 0).sum

/-- `validate_snapshot_entry_batch` of the batch that stands for the whole snapshot. -/
def validateSnapshotRows (rows : SnapshotRows) : Except String Unit := do
  check (0 ≤ totalBytes rows.entries) "SNAPSHOT_BATCH_BYTES_MUST_BE_NON_NEGATIVE"
  validateEntries [] [] rows.entries
  validateDirectoryCoverage [] rows.coverage
  validateSnapshotIssues rows.issues
  validateSnapshotFilterDecisions [] rows.filterDecisions

def validateBatchSummary (batch : SnapshotBatchSummary) : Except String Unit := do
  check (isHash batch.payloadHash) "SNAPSHOT_SEAL_REQUIRES_BATCH_PAYLOAD_HASH"
  check (0 ≤ batch.entryCount) "SNAPSHOT_SEAL_BATCH_ENTRY_COUNT_MUST_BE_NON_NEGATIVE"
  check (0 ≤ batch.coverageUpdateCount)
    "SNAPSHOT_SEAL_BATCH_COVERAGE_COUNT_MUST_BE_NON_NEGATIVE"
  check (0 ≤ batch.issueCount) "SNAPSHOT_SEAL_BATCH_ISSUE_COUNT_MUST_BE_NON_NEGATIVE"
  check (0 ≤ batch.filterDecisionCount)
    "SNAPSHOT_SEAL_BATCH_FILTER_COUNT_MUST_BE_NON_NEGATIVE"
  check (0 ≤ batch.approximateBytes) "SNAPSHOT_SEAL_BATCH_BYTES_MUST_BE_NON_NEGATIVE"

def validateSnapshotBatchSummaries (batches : List SnapshotBatchSummary) : Except String Unit := do
  check (batches.map SnapshotBatchSummary.sequenceNo ==
    (List.range batches.length).map Int.ofNat) "SNAPSHOT_SEAL_REQUIRES_CONTIGUOUS_BATCHES"
  batches.forM validateBatchSummary

def snapshotSerializerVersion (version : Int) : Except String String :=
  if version = 1 then .ok "0B-SNAPSHOT-CANONICAL-JSON-V1"
  else if version = 2 then .ok "0B-SNAPSHOT-CANONICAL-JSON-V2"
  else if version = 3 then .ok "0B-SNAPSHOT-CANONICAL-JSON-V3"
  else if version = 4 then .ok "0B-SNAPSHOT-CANONICAL-JSON-V4"
  else .error "SNAPSHOT_SEAL_SCHEMA_VERSION_UNSUPPORTED"

def validateSnapshotSealInputs (rows : SnapshotRows) : Except String Unit := do
  check (nonBlank rows.snapshotId) "SNAPSHOT_SEAL_REQUIRES_SNAPSHOT_ID"
  check (0 ≤ rows.caseCollisionGroupCount)
    "SNAPSHOT_SEAL_CASE_GROUP_COUNT_MUST_BE_NON_NEGATIVE"
  let _ ← snapshotSerializerVersion rows.snapshotSchemaVersion
  check (!(2 ≤ rows.snapshotSchemaVersion && rows.entries.any fun entry =>
    entry.objectType == "file" && !isHash (entry.identityFingerprintHash.getD "")))
    "SNAPSHOT_SEAL_REQUIRES_FILE_IDENTITY_FINGERPRINT"
  check (!(3 ≤ rows.snapshotSchemaVersion && rows.entries.any fun entry =>
    ["file", "directory"].contains entry.objectType && entry.birthtimeNs.isNone))
    "SNAPSHOT_SEAL_REQUIRES_BIRTHTIME"
  validateSnapshotRows rows
  validateSnapshotBatchSummaries rows.batches
  check ((rows.batches.map SnapshotBatchSummary.entryCount).sum == rows.entries.length)
    "SNAPSHOT_SEAL_ENTRY_COUNT_MISMATCH"
  check ((rows.batches.map SnapshotBatchSummary.coverageUpdateCount).sum == rows.coverage.length)
    "SNAPSHOT_SEAL_COVERAGE_COUNT_MISMATCH"
  check ((rows.batches.map SnapshotBatchSummary.issueCount).sum == rows.issues.length)
    "SNAPSHOT_SEAL_ISSUE_COUNT_MISMATCH"
  check ((rows.batches.map SnapshotBatchSummary.filterDecisionCount).sum ==
    rows.filterDecisions.length) "SNAPSHOT_SEAL_FILTER_COUNT_MISMATCH"
  check (!rows.coverage.isEmpty) "SNAPSHOT_SEAL_REQUIRES_COVERAGE"
  check (rows.coverage.all fun item => item.coverageState == completeCoverageState)
    "SNAPSHOT_SEAL_COVERAGE_INCOMPLETE"
  check (!rows.issues.any SnapshotIssue.blocksDestructiveActions) "SNAPSHOT_SEAL_BLOCKING_ISSUES"

def entrySortKey (entry : SnapshotFileEntry) : List String := [entry.relativePath, entry.entryId]

def coverageSortKey (coverage : SnapshotDirectoryCoverage) : List String := [coverage.relativePath]

/-- A missing text is taken for the empty one, and `False` comes before `True`. -/
def snapshotIssueSortKey (issue : SnapshotIssue) : List String :=
  [issue.relativePath, issue.issueType, issue.errorCode.getD "", issue.sanitizedMessage.getD "",
    if issue.blocksDestructiveActions then "1" else "0"]

def snapshotFilterDecisionSortKey (decision : SnapshotFilterDecision) : List String :=
  [decision.relativePath, decision.decisionState, decision.reasonCode,
    decision.matchedRuleId.getD "", decision.evaluationStage]

def sortBatches (batches : List SnapshotBatchSummary) : List SnapshotBatchSummary :=
  batches.insertionSort fun a b => a.sequenceNo ≤ b.sequenceNo

def SnapshotRows.ordered (rows : SnapshotRows) : SnapshotRows :=
  { rows with
    entries := sortByKey entrySortKey rows.entries
    coverage := sortByKey coverageSortKey rows.coverage
    issues := sortByKey snapshotIssueSortKey rows.issues
    filterDecisions := sortByKey snapshotFilterDecisionSortKey rows.filterDecisions
    batches := sortBatches rows.batches }

def batchPayload (version : Int) (batch : SnapshotBatchSummary) : Json :=
  .obj ([("approximate_bytes", .int batch.approximateBytes),
      ("coverage_update_count", .int batch.coverageUpdateCount),
      ("entry_count", .int batch.entryCount),
      ("issue_count", .int batch.issueCount),
      ("payload_hash", .str batch.payloadHash),
      ("sequence_no", .int batch.sequenceNo)] ++
    if 4 ≤ version then [("filter_decision_count", .int batch.filterDecisionCount)] else [])

def snapshotEntryPayload (version : Int) (entry : SnapshotFileEntry) : Json :=
  .obj ([("comparison_key", .str entry.comparisonKey),
      ("entry_id", .str entry.entryId),
      ("object_type", .str entry.objectType),
      ("relative_path", .str entry.relativePath),
      ("size_bytes", jsonInt entry.sizeBytes)] ++
    (if 2 ≤ version then
      [("identity_fingerprint_hash", jsonText entry.identityFingerprintHash)] else []) ++
    if 3 ≤ version then [("birthtime_ns", jsonInt entry.birthtimeNs)] else [])

def directoryCoveragePayload (coverage : SnapshotDirectoryCoverage) : Json :=
  .obj [("case_context_hash", .str coverage.caseContextHash),
    ("case_mode", .str coverage.caseMode),
    ("case_mode_evidence", .str coverage.caseModeEvidence),
    ("case_probe_error", jsonText coverage.caseProbeError),
    ("comparison_key", .str coverage.comparisonKey),
    ("coverage_state", .str coverage.coverageState),
    ("relative_path", .str coverage.relativePath)]

def snapshotIssuePayload (issue : SnapshotIssue) : Json :=
  .obj [("blocks_destructive_actions", .bool issue.blocksDestructiveActions),
    ("error_code", jsonText issue.errorCode),
    ("issue_type", .str issue.issueType),
    ("relative_path", .str issue.relativePath),
    ("sanitized_message", jsonText issue.sanitizedMessage)]

def snapshotFilterDecisionPayload (decision : SnapshotFilterDecision) : Json :=
  .obj [("decision_state", .str decision.decisionState),
    ("evaluation_stage", .str decision.evaluationStage),
    ("matched_rule_id", jsonText decision.matchedRuleId),
    ("object_type", .str decision.objectType),
    ("reason_code", .str decision.reasonCode),
    ("relative_path", .str decision.relativePath)]

def blockingIssueCount (issues : List SnapshotIssue) : Nat :=
  issues.countP SnapshotIssue.blocksDestructiveActions

/-- The payload of `_snapshot_checksum`. -/
def snapshotPayload (rows : SnapshotRows) (serializerVersion : String) : Json :=
  .obj ([("batch_count", .int rows.batches.length),
      ("batches", .arr (rows.batches.map (batchPayload rows.snapshotSchemaVersion))),
      ("case_collision_group_count", .int rows.caseCollisionGroupCount),
      ("checksum_algorithm", .str "SHA-256"),
      ("complete", .bool true),
      ("coverage", .arr (rows.coverage.map directoryCoveragePayload)),
      ("directory_coverage_count", .int rows.coverage.length),
      ("entries", .arr (rows.entries.map (snapshotEntryPayload rows.snapshotSchemaVersion))),
      ("entry_count", .int rows.entries.length),
      ("immutable", .bool true),
      ("issue_count", .int rows.issues.length),
      ("issues", .arr (rows.issues.map snapshotIssuePayload)),
      ("blocking_issue_count", .int (blockingIssueCount rows.issues)),
      ("serializer_version", .str serializerVersion),
      ("snapshot_id", .str rows.snapshotId),
      ("snapshot_schema_version", .int rows.snapshotSchemaVersion),
      ("total_bytes", .int (totalBytes rows.entries))] ++
    if 4 ≤ rows.snapshotSchemaVersion then
      [("filter_decision_count", .int rows.filterDecisions.length),
        ("filter_decisions", .arr (rows.filterDecisions.map snapshotFilterDecisionPayload))]
    else [])

def snapshotText (rows : SnapshotRows) (serializerVersion : String) : String :=
  (snapshotPayload rows serializerVersion).dump

def sealedSnapshot (rows : SnapshotRows) (serializerVersion : String) : SealedSnapshot where
  snapshotId := rows.snapshotId
  snapshotSchemaVersion := rows.snapshotSchemaVersion
  checksumAlgorithm := "SHA-256"
  serializerVersion
  snapshotChecksum := Sha256.hexdigest (snapshotText rows serializerVersion)
  entryCount := rows.entries.length
  totalBytes := totalBytes rows.entries
  batchCount := rows.batches.length
  directoryCoverageCount := rows.coverage.length
  issueCount := rows.issues.length
  blockingIssueCount := blockingIssueCount rows.issues
  caseCollisionGroupCount := rows.caseCollisionGroupCount
  filterDecisionCount := rows.filterDecisions.length

def validateSealedSnapshot (snapshot : SealedSnapshot) : Except String Unit := do
  check (nonBlank snapshot.snapshotId) "SNAPSHOT_SEAL_REQUIRES_SNAPSHOT_ID"
  check (1 ≤ snapshot.snapshotSchemaVersion) "SNAPSHOT_SEAL_REQUIRES_SCHEMA_VERSION"
  check (snapshot.checksumAlgorithm == "SHA-256") "SNAPSHOT_SEAL_REQUIRES_CHECKSUM_ALGORITHM"
  let serializerVersion ← snapshotSerializerVersion snapshot.snapshotSchemaVersion
  check (snapshot.serializerVersion == serializerVersion)
    "SNAPSHOT_SEAL_REQUIRES_SERIALIZER_VERSION"
  check (isHash snapshot.snapshotChecksum) "SNAPSHOT_SEAL_REQUIRES_CHECKSUM"
  check (0 ≤ snapshot.entryCount) "SNAPSHOT_SEAL_ENTRY_COUNT_MUST_BE_NON_NEGATIVE"
  check (0 ≤ snapshot.totalBytes) "SNAPSHOT_SEAL_BYTES_MUST_BE_NON_NEGATIVE"
  check (0 ≤ snapshot.batchCount) "SNAPSHOT_SEAL_BATCH_COUNT_MUST_BE_NON_NEGATIVE"
  check (1 ≤ snapshot.directoryCoverageCount) "SNAPSHOT_SEAL_REQUIRES_COVERAGE"
  check (0 ≤ snapshot.issueCount) "SNAPSHOT_SEAL_ISSUE_COUNT_MUST_BE_NON_NEGATIVE"
  check (0 ≤ snapshot.blockingIssueCount)
    "SNAPSHOT_SEAL_BLOCKING_COUNT_MUST_BE_NON_NEGATIVE"
  check (snapshot.blockingIssueCount ≤ snapshot.issueCount)
    "SNAPSHOT_SEAL_BLOCKING_COUNT_MISMATCH"
  check (0 ≤ snapshot.caseCollisionGroupCount)
    "SNAPSHOT_SEAL_CASE_GROUP_COUNT_MUST_BE_NON_NEGATIVE"
  check (0 ≤ snapshot.filterDecisionCount) "SNAPSHOT_SEAL_FILTER_COUNT_MUST_BE_NON_NEGATIVE"
  check (snapshot.complete && snapshot.immutable)
    "SNAPSHOT_SEAL_MUST_BE_COMPLETE_AND_IMMUTABLE"

def snapshotSeal (rows : SnapshotRows) : Except String SealedSnapshot := do
  validateSnapshotSealInputs rows.ordered
  let serializerVersion ← snapshotSerializerVersion rows.snapshotSchemaVersion
  validateSealedSnapshot (sealedSnapshot rows.ordered serializerVersion)
  return sealedSnapshot rows.ordered serializerVersion

def verifySnapshotChecksum (snapshot : SealedSnapshot) (entries : List SnapshotFileEntry)
    (coverage : List SnapshotDirectoryCoverage) (issues : List SnapshotIssue)
    (batches : List SnapshotBatchSummary) (filterDecisions : List SnapshotFilterDecision) : Bool :=
  if snapshot.complete && snapshot.immutable then
    match snapshotSeal {
        snapshotId := snapshot.snapshotId, entries, coverage, issues, filterDecisions, batches
        caseCollisionGroupCount := snapshot.caseCollisionGroupCount
        snapshotSchemaVersion := snapshot.snapshotSchemaVersion } with
    | .error _ => false
    | .ok expected =>
      snapshot.snapshotSchemaVersion = expected.snapshotSchemaVersion &&
        snapshot.checksumAlgorithm = expected.checksumAlgorithm &&
        snapshot.serializerVersion = expected.serializerVersion &&
        snapshot.snapshotChecksum = expected.snapshotChecksum &&
        snapshot.entryCount = expected.entryCount &&
        snapshot.totalBytes = expected.totalBytes &&
        snapshot.batchCount = expected.batchCount &&
        snapshot.directoryCoverageCount = expected.directoryCoverageCount &&
        snapshot.issueCount = expected.issueCount &&
        snapshot.blockingIssueCount = expected.blockingIssueCount &&
        snapshot.filterDecisionCount = expected.filterDecisionCount
  else false

end MediaSync.Snapshots
