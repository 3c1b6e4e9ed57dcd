import MediaSync.Foundation.Text

/-! The hash of a file's content, as it was read for an analysis, with the fingerprints of the file
before and after. -/
namespace MediaSync.Snapshots
open Text

inductive HashEvidenceKind where
  | currentReadHash
  deriving DecidableEq

def HashEvidenceKind.value : HashEvidenceKind → String
  | .currentReadHash => "CURRENT_READ_HASH"

def currentReadHashAlgorithm : String := "BLAKE3-256"

def currentReadHashSchemaVersion : Int := 1

structure CurrentReadHashEvidence where
  snapshotId : String
  entryId : String
  endpointId : String
  contentHash : String
  sizeBytes : Int
  algorithm : String := currentReadHashAlgorithm
  hashSchemaVersion : Int := currentReadHashSchemaVersion
  evidenceKind : HashEvidenceKind := .currentReadHash
  readStartedFingerprintHash : String
  readCompletedFingerprintHash : String
  computedUtc : String
  deriving DecidableEq

def CurrentReadHashEvidence.validate (evidence : CurrentReadHashEvidence) :
    Except String Unit := do
  check (nonEmpty [evidence.snapshotId, evidence.entryId, evidence.endpointId])
    "CURRENT_READ_HASH_IDENTITY_INVALID"
  check (0 ≤ evidence.sizeBytes) "CURRENT_READ_HASH_SIZE_INVALID"
  check (evidence.algorithm = currentReadHashAlgorithm &&
      evidence.hashSchemaVersion = currentReadHashSchemaVersion &&
      evidence.evidenceKind = .currentReadHash && isHash evidence.contentHash &&
      isHash evidence.readStartedFingerprintHash && isHash evidence.readCompletedFingerprintHash &&
      evidence.readStartedFingerprintHash = evidence.readCompletedFingerprintHash &&
      nonBlank evidence.computedUtc)
    "CURRENT_READ_HASH_EVIDENCE_INVALID"

def compatibleCurrentReadHashes (left right : Option CurrentReadHashEvidence)
    (leftSnapshotId leftEntryId rightSnapshotId rightEntryId : String) (expectedSize : Int) :
    Bool :=
  match left, right with
  | some left, some right =>
    left.snapshotId = leftSnapshotId && left.entryId = leftEntryId &&
      right.snapshotId = rightSnapshotId && right.entryId = rightEntryId &&
      left.sizeBytes = expectedSize && right.sizeBytes = expectedSize &&
      left.algorithm = right.algorithm && right.algorithm = currentReadHashAlgorithm &&
      left.hashSchemaVersion = right.hashSchemaVersion &&
      right.hashSchemaVersion = currentReadHashSchemaVersion &&
      left.evidenceKind = right.evidenceKind && right.evidenceKind = .currentReadHash
  | _, _ => false

end MediaSync.Snapshots
