import MediaSync.Foundation.Text

/-! The rows a scan of an endpoint hands to the snapshot store, and the scan itself. -/
namespace MediaSync.Snapshots

def completeCoverageState : String := "COMPLETE"

structure SnapshotFileEntry where
  entryId : String
  relativePath : String
  comparisonKey : String
  objectType : String
  sizeBytes : Option Int := none
  birthtimeNs : Option Int := none
  identityFingerprintHash : Option String := none
  deriving DecidableEq

structure SnapshotDirectoryCoverage where
  relativePath : String
  comparisonKey : String
  coverageState : String
  caseMode : String
  caseModeEvidence : String
  caseContextHash : String
  caseProbeError : Option String := none
  deriving DecidableEq

structure SnapshotIssue where
  relativePath : String
  issueType : String
  blocksDestructiveActions : Bool
  errorCode : Option String := none
  sanitizedMessage : Option String := none
  deriving DecidableEq

structure SnapshotFilterDecision where
  relativePath : String
  objectType : String
  decisionState : String
  reasonCode : String
  matchedRuleId : Option String
  evaluationStage : String
  deriving DecidableEq

structure FilesystemSnapshotScan where
  snapshotId : String
  entries : List SnapshotFileEntry
  coverage : List SnapshotDirectoryCoverage
  issues : List SnapshotIssue
  controlAreaExcluded : Bool
  filterDecisions : List SnapshotFilterDecision := []
  rescanAttemptCount : Nat := 0

def FilesystemSnapshotScan.complete (scan : FilesystemSnapshotScan) : Bool :=
  !scan.coverage.isEmpty &&
    scan.coverage.all (fun item => item.coverageState == completeCoverageState) &&
      !scan.issues.any fun issue => issue.blocksDestructiveActions

end MediaSync.Snapshots
