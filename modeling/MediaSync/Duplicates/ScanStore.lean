import MediaSync.Foundation.Table
import MediaSync.Foundation.Text

/-! A scan takes the files of an analysis whose sizes occur more than once, enqueues a request for
each, has their quick signatures read, and has those that agree in size and signature read in full.
-/
namespace MediaSync.Duplicates
open Text

inductive ScanState where
  | queued
  | running
  | paused
  | completed
  | failed
  deriving DecidableEq

inductive ScanStage where
  | quickSignature
  | fullHash
  | materialize
  | done
  deriving DecidableEq

inductive RequestStage where
  | quickSignature
  | fullHash
  | done
  deriving DecidableEq

inductive RequestState where
  | pending
  | running
  | succeeded
  | failed
  deriving DecidableEq

def RequestState.isOpen : RequestState → Bool
  | .pending | .running => true
  | _ => false

def maxAttemptsPerFile : Nat := 3

/-- The bound of the check on `attempt_count`. -/
def attemptCountBound : Nat := 3

/-- A file of a complete snapshot, as `physical_entries` reads it. -/
structure FileEntry where
  snapshotId : String
  fileEntryId : String
  endpointId : String
  physicalObjectKey : String
  relativePath : String
  sizeBytes : Nat
  deriving DecidableEq

/-- A row of `duplicate_scans`, without its progress counters. -/
structure DuplicateScan where
  analysisId : String
  state : ScanState := .queued
  stage : ScanStage := .quickSignature
  quickCursor : Option (String × String) := none
  quickEnumerationComplete : Bool := false
  candidateFileCount : Nat
  reasonCode : Option String := none
  requestedUtc : String
  completedUtc : Option String := none
  deriving DecidableEq

structure QuickEvidence where
  quickCacheIdentityHash : String
  quickHash : String
  deriving DecidableEq

structure HashRequest where
  analysisId : String
  entry : FileEntry
  requestStage : RequestStage := .quickSignature
  state : RequestState := .pending
  attemptCount : Nat := 0
  quick : Option QuickEvidence := none
  fullHash : Option String := none
  lastErrorCode : Option String := none
  deriving DecidableEq

abbrev RequestKey := String × String × String

def HashRequest.key (request : HashRequest) : RequestKey :=
  (request.analysisId, request.entry.snapshotId, request.entry.fileEntryId)

/-- The checks of `hash_requests`. -/
def HashRequest.admissible (request : HashRequest) : Bool :=
  request.attemptCount ≤ attemptCountBound &&
    (request.requestStage = .quickSignature || request.quick.isSome ||
      (request.requestStage = .done && request.state = .failed)) &&
    (request.fullHash.isNone || request.requestStage = .fullHash)

structure ScanStore where
  scans : List DuplicateScan := []
  requests : List HashRequest := []

structure ScannerLimits where
  maxCandidateFiles : Nat
  maxActiveJobs : Nat
  maxHistoryRows : Nat
  maxPersistedRequests : Nat
  workBatchSize : Nat
  candidates : 1 ≤ maxCandidateFiles ∧ maxCandidateFiles ≤ 1000000
  activeJobs : 1 ≤ maxActiveJobs ∧ maxActiveJobs ≤ 4
  history : 1 ≤ maxHistoryRows ∧ maxHistoryRows ≤ 10000
  persisted : 1 ≤ maxPersistedRequests ∧ maxPersistedRequests ≤ 1000000
  batch : 1 ≤ workBatchSize ∧ workBatchSize ≤ 64

structure ScanDigests where
  scanId : String → String
  requestId : RequestKey → String

section
variable (entries : List FileEntry)

def canonicalEntries : List FileEntry :=
  entries.filter fun entry => entries.all fun other =>
    !(other.snapshotId = entry.snapshotId && other.physicalObjectKey = entry.physicalObjectKey &&
      other.fileEntryId < entry.fileEntryId)

/-- The order of the candidates: `snapshot_id, file_entry_id`. -/
def entryOrder (a b : FileEntry) : Prop :=
  a.snapshotId < b.snapshotId ∨ (a.snapshotId = b.snapshotId ∧ a.fileEntryId ≤ b.fileEntryId)

instance : DecidableRel entryOrder := fun a b => by unfold entryOrder; infer_instance

def duplicateCandidates : List FileEntry :=
  let canonical := canonicalEntries entries
  (canonical.filter fun entry =>
    2 ≤ canonical.countP fun other => other.sizeBytes = entry.sizeBytes).insertionSort entryOrder

end

def afterCursor (cursor : Option (String × String)) (entry : FileEntry) : Bool :=
  match cursor with
  | none => true
  | some (afterSnapshot, afterEntry) =>
    afterSnapshot < entry.snapshotId ||
      (entry.snapshotId = afterSnapshot && afterEntry < entry.fileEntryId)

namespace ScanStore

variable (limits : ScannerLimits) (digests : ScanDigests) (analyses : String → List FileEntry)
  (st : ScanStore)

def loadDuplicateScan (analysisId : String) : Option DuplicateScan :=
  Table.lookup DuplicateScan.analysisId st.scans analysisId

def updateScan (analysisId : String) (p : DuplicateScan → Bool)
    (f : DuplicateScan → DuplicateScan) : ScanStore :=
  { st with scans :=
    Table.updateWhere st.scans (fun scan => scan.analysisId = analysisId && p scan) f }

def requestsOf (analysisId : String) : List HashRequest :=
  st.requests.filter fun request => request.analysisId = analysisId

def ScanState.isActive : ScanState → Bool
  | .queued | .running | .paused => true
  | _ => false

def historyOrder (a b : DuplicateScan) : Prop :=
  b.completedUtc.getD "" < a.completedUtc.getD "" ∨
    (b.completedUtc.getD "" = a.completedUtc.getD "" ∧
      digests.scanId b.analysisId ≤ digests.scanId a.analysisId)

instance : DecidableRel (historyOrder digests) := fun a b => by
  unfold historyOrder
  infer_instance

def pruneScanHistory : ScanStore :=
  let pruned := (((st.scans.filter fun scan =>
    scan.state = .completed || scan.state = .failed).insertionSort (historyOrder digests)).drop
      (limits.maxHistoryRows - 1)).map DuplicateScan.analysisId
  { scans := st.scans.filter fun scan => !pruned.contains scan.analysisId
    requests := st.requests.filter fun request => !pruned.contains request.analysisId }

/-- `start_scan`; `ready` is what the materialization of known relations says. -/
def startScan (analysisId requestedUtc : String) (ready : Except String Unit) :
    Except String ScanStore :=
  let normalized := strip analysisId
  if normalized = "" || !nonBlank requestedUtc then .error "DUPLICATE_SCAN_REQUEST_INVALID"
  else
    match ready with
    | .error _ => .error "DUPLICATE_SCAN_ANALYSIS_NOT_READY"
    | .ok () =>
      match st.loadDuplicateScan normalized with
      | some _ => .ok st
      | none =>
        let candidates := duplicateCandidates (analyses normalized)
        if limits.maxActiveJobs ≤ st.scans.countP (fun scan => ScanState.isActive scan.state) then
          .error "DUPLICATE_SCAN_ACTIVE_LIMIT_REACHED"
        else if limits.maxCandidateFiles < candidates.length then
          .error "DUPLICATE_SCAN_CANDIDATE_LIMIT_EXCEEDED"
        else
          let pruned := st.pruneScanHistory limits digests
          .ok { pruned with scans := Table.insert pruned.scans {
            analysisId := normalized
            candidateFileCount := candidates.length
            requestedUtc } }

def pauseScan (analysisId : String) : ScanStore :=
  st.updateScan analysisId (fun scan => scan.state = .queued || scan.state = .running) fun scan =>
    { scan with state := .paused, reasonCode := some "USER_REQUESTED" }

def resumeScan (analysisId : String) : ScanStore :=
  st.updateScan analysisId (fun scan => scan.state = .paused) fun scan =>
    { scan with state := .running, reasonCode := none }

def recoverInterruptedRequests : ScanStore :=
  let requests := Table.updateWhere st.requests (fun request => request.state = .running)
    fun request => { request with
      state := .pending
      lastErrorCode := some "HASH_REQUEST_INTERRUPTED" }
  { st with requests }

/-- The order of the scans: `requested_utc, id`. -/
def scanOrder (a b : DuplicateScan) : Prop :=
  a.requestedUtc < b.requestedUtc ∨
    (a.requestedUtc = b.requestedUtc ∧ digests.scanId a.analysisId ≤ digests.scanId b.analysisId)

instance : DecidableRel (scanOrder digests) := fun a b => by
  unfold scanOrder
  infer_instance

def firstScan (p : DuplicateScan → Bool) : Option DuplicateScan :=
  ((st.scans.filter p).insertionSort (scanOrder digests)).head?

def pausedForBackup (scan : DuplicateScan) : Bool :=
  scan.state = .paused && scan.reasonCode = some "ACTIVE_BACKUP"

def loadNextCycleScan : ScanStore × Option DuplicateScan :=
  match st.firstScan digests pausedForBackup with
  | some paused =>
    let resumed := st.resumeScan paused.analysisId
    (resumed, resumed.loadDuplicateScan paused.analysisId)
  | none =>
    match st.firstScan digests fun scan => scan.state = .queued || scan.state = .running with
    | none => (st, none)
    | some next =>
      let started := st.updateScan next.analysisId (fun scan => scan.state = .queued) fun scan =>
        { scan with state := .running, reasonCode := none }
      (started, started.loadDuplicateScan next.analysisId)

def pauseForActiveBackup (analysisId : String) : ScanStore :=
  st.updateScan analysisId (fun scan => scan.state = .queued || scan.state = .running) fun scan =>
    { scan with state := .paused, reasonCode := some "ACTIVE_BACKUP" }

def markQuickEnumerationComplete (analysisId : String) : ScanStore :=
  st.updateScan analysisId (fun _ => true) fun scan =>
    { scan with quickEnumerationComplete := true }

def remainingCandidates (scan : DuplicateScan) : List FileEntry :=
  (duplicateCandidates (analyses scan.analysisId)).filter (afterCursor scan.quickCursor)

def insertRequest (analysisId : String) (requests : List HashRequest) (entry : FileEntry) :
    List HashRequest :=
  let request : HashRequest := { analysisId, entry }
  match Table.lookup HashRequest.key requests request.key with
  | some _ => requests
  | none => Table.insert requests request

def enqueueQuickRequests (scan : DuplicateScan) : ScanStore × Nat :=
  let available := limits.maxPersistedRequests - st.requests.length
  if available = 0 then
    if scan.candidateFileCount ≤ (st.requestsOf scan.analysisId).length then
      (st.markQuickEnumerationComplete scan.analysisId, 0)
    else (st, 0)
  else
    let rows := (remainingCandidates analyses scan).take (min limits.workBatchSize available)
    match rows.getLast? with
    | none => (st.markQuickEnumerationComplete scan.analysisId, 0)
    | some last =>
      let requests := rows.foldl (insertRequest scan.analysisId) st.requests
      let inserted : ScanStore := { st with requests }
      let enumerated := scan.candidateFileCount ≤ (inserted.requestsOf scan.analysisId).length
      (inserted.updateScan scan.analysisId (fun _ => true) fun row => { row with
        quickCursor := some (last.snapshotId, last.fileEntryId)
        quickEnumerationComplete := enumerated || row.quickEnumerationComplete }, rows.length)

def quickStageComplete (analysisId : String) : Bool :=
  (st.loadDuplicateScan analysisId).any fun scan => scan.quickEnumerationComplete &&
    (st.requestsOf analysisId).all fun request =>
      !(request.requestStage = .quickSignature && request.state.isOpen)

def pendingRequests (analysisId : String) (requestStage : RequestStage) : List HashRequest :=
  (st.requests.filter fun request => request.analysisId = analysisId &&
    request.requestStage = requestStage && request.state = .pending).insertionSort fun a b =>
      digests.requestId a.key ≤ digests.requestId b.key

def claimNextRequest (analysisId : String) (requestStage : RequestStage) :
    Except String (ScanStore × Option HashRequest) :=
  match st.pendingRequests digests analysisId requestStage with
  | [] => .ok (st, none)
  | request :: _ =>
    if attemptCountBound < request.attemptCount + 1 then .error "CHECK constraint failed"
    else
      let claimed := { request with state := .running, attemptCount := request.attemptCount + 1 }
      .ok ({ st with requests := Table.overwrite HashRequest.key st.requests claimed },
        some claimed)

def updateRunning (key : RequestKey) (p : HashRequest → Bool) (f : HashRequest → HashRequest) :
    ScanStore :=
  let requests := Table.updateWhere st.requests (fun request =>
    request.key = key && request.state = .running && p request) f
  { st with requests }

def completeQuickRequest (key : RequestKey) (evidence : QuickEvidence) : ScanStore :=
  st.updateRunning key (fun request => request.requestStage = .quickSignature) fun request =>
    { request with state := .succeeded, quick := some evidence, lastErrorCode := none }

/-- The end of `_process_full_hash_request`. -/
def completeFullHashRequest (key : RequestKey) (fullHash : String) : ScanStore :=
  st.updateRunning key (fun request => request.requestStage = .fullHash) fun request =>
    { request with state := .succeeded, fullHash := some fullHash, lastErrorCode := none }

def retryOrFailRequest (item : HashRequest) (errorCode : String) : ScanStore :=
  let terminal := decide (maxAttemptsPerFile ≤ item.attemptCount)
  let terminalStage : RequestStage :=
    if item.requestStage = .quickSignature then .done else item.requestStage
  st.updateRunning item.key (fun _ => true) fun request => { request with
    requestStage := if terminal then terminalStage else request.requestStage
    state := if terminal then .failed else .pending
    lastErrorCode := some errorCode }

def processQuickRequest (item : HashRequest) (answer : Except String QuickEvidence) : ScanStore :=
  match answer with
  | .error errorCode => st.retryOrFailRequest item errorCode
  | .ok evidence =>
    if !isHash evidence.quickCacheIdentityHash || !isHash evidence.quickHash then
      st.retryOrFailRequest item "INTEGRITYERROR"
    else st.completeQuickRequest item.key evidence

def processFullHashRequest (item : HashRequest) (answer : Except String String) : ScanStore :=
  if item.quick.isNone then st.retryOrFailRequest item "FULL_HASH_QUICK_EVIDENCE_MISSING"
  else
    match answer with
    | .error errorCode => st.retryOrFailRequest item errorCode
    | .ok fullHash =>
      if !isHash fullHash then st.retryOrFailRequest item "INTEGRITYERROR"
      else st.completeFullHashRequest item.key fullHash

def signed (analysisId : String) (request : HashRequest) : Bool :=
  request.analysisId = analysisId && request.requestStage = .quickSignature &&
    request.state = .succeeded

def sameSignature (a b : HashRequest) : Bool :=
  a.quick.isSome && a.entry.sizeBytes = b.entry.sizeBytes &&
    a.quick.map (·.quickHash) = b.quick.map (·.quickHash)

/-- A request in one of the `matching_quick_groups`. -/
def matching (analysisId : String) (request : HashRequest) : Bool :=
  signed analysisId request &&
    2 ≤ st.requests.countP fun other => signed analysisId other && sameSignature request other

def advanceToFullHash (analysisId : String) : ScanStore :=
  let advanced := Table.updateWhere st.requests (st.matching analysisId) fun request =>
    { request with requestStage := .fullHash, state := .pending }
  let requests := Table.updateWhere advanced (signed analysisId) fun request =>
    { request with requestStage := .done }
  ({ st with requests } : ScanStore).updateScan analysisId (fun scan =>
    scan.stage = .quickSignature) fun scan => { scan with stage := .fullHash }

def advanceToMaterialization (analysisId : String) : ScanStore :=
  if (st.requestsOf analysisId).any fun request =>
      request.requestStage = .fullHash && request.state.isOpen then st
  else st.updateScan analysisId (fun scan => scan.stage = .fullHash) fun scan =>
    { scan with stage := .materialize }

def materializeAndComplete (analysisId completedUtc : String) : ScanStore :=
  let failed := (st.requestsOf analysisId).any fun request => request.state = .failed
  let kept : ScanStore :=
    { st with requests := st.requests.filter (·.analysisId ≠ analysisId) }
  kept.updateScan analysisId (fun scan => scan.stage = .materialize) fun scan => { scan with
    state := .completed
    stage := .done
    reasonCode := some (if failed then "COMPLETED_WITH_ISSUES" else "DUPLICATE_SCAN_COMPLETED")
    completedUtc := some completedUtc }

end ScanStore

end MediaSync.Duplicates
