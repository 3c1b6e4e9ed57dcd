import MediaSync.Snapshots.Scanner

/-! The scan that hands its entries and filter decisions to a sink while it walks, in batches, and
takes the batches of a directory back when the directory has changed under it. -/
namespace MediaSync.Snapshots

structure ScanBatch where
  sequenceNo : Nat
  entries : List SnapshotFileEntry
  filterDecisions : List SnapshotFilterDecision

structure Savepoint where
  serial : Nat
  batches : List ScanBatch

structure BatchSink where
  batches : List ScanBatch := []
  batchCount : Nat := 0
  checkpointSerial : Nat := 0
  savepoints : List Savepoint := []

structure SinkCheckpoint where
  serial : Nat
  batchCount : Nat

namespace BatchSink

variable (sink : BatchSink)

def checkpoint : SinkCheckpoint × BatchSink :=
  let serial := sink.checkpointSerial + 1
  (⟨serial, sink.batchCount⟩,
    { sink with
      checkpointSerial := serial
      savepoints := ⟨serial, sink.batches⟩ :: sink.savepoints })

def emit (entries : List SnapshotFileEntry) (filterDecisions : List SnapshotFilterDecision) :
    BatchSink :=
  { sink with
    batches := sink.batches ++ [⟨sink.batchCount, entries, filterDecisions⟩]
    batchCount := sink.batchCount + 1 }

def savepointsFrom (checkpoint : SinkCheckpoint) : List Savepoint :=
  sink.savepoints.dropWhile fun savepoint => savepoint.serial ≠ checkpoint.serial

/-- `RELEASE SAVEPOINT`. -/
def accept (checkpoint : SinkCheckpoint) : BatchSink :=
  { sink with savepoints := (sink.savepointsFrom checkpoint).tail }

/-- `ROLLBACK TO SAVEPOINT` and `RELEASE SAVEPOINT`. -/
def rollback (checkpoint : SinkCheckpoint) : BatchSink :=
  { sink with
    batches := ((sink.savepointsFrom checkpoint).head?.map Savepoint.batches).getD sink.batches
    batchCount := checkpoint.batchCount
    savepoints := (sink.savepointsFrom checkpoint).tail }

end BatchSink

/-- The sum of `entry.size_bytes or 0`. -/
def byteSum (entries : List SnapshotFileEntry) : Int :=
  (entries.map fun entry => entry.sizeBytes.getD 0).sum

structure StreamState where
  lists : Attempt
  rescanAttemptCount : Nat := 0
  streamedEntryCount : Nat := 0
  streamedTotalBytes : Int := 0
  streamedFilterDecisionCount : Nat := 0
  sink : BatchSink := {}

structure ScanCheckpoint where
  entries : Nat
  coverage : Nat
  issues : Nat
  filterDecisions : Nat
  subjects : Nat
  queue : Nat
  reportedErrors : List (Option String × String)
  examinedEntries : Nat
  controlAreaExcluded : Bool
  streamedEntryCount : Nat
  streamedTotalBytes : Int
  streamedFilterDecisionCount : Nat
  sink : SinkCheckpoint

def Attempt.fresh (attempt : Attempt) : Attempt :=
  { attempt with filterIncomplete := false, limitHit := false, changed := false }

def streamingScanBatchEntries : Nat := 1000

def Attempt.isFull (attempt : Attempt) : Bool :=
  streamingScanBatchEntries ≤ attempt.entries.length ||
    streamingScanBatchEntries ≤ attempt.filterDecisions.length

namespace StreamState

variable (s : StreamState)

def withQueue (queue : List QueuedDirectory) : StreamState :=
  { s with lists := { s.lists with queued := queue } }

def flushStreamBatch : StreamState :=
  if s.lists.entries.isEmpty && s.lists.filterDecisions.isEmpty then s
  else
    { s with
      lists := { s.lists with entries := [], filterDecisions := [] }
      streamedEntryCount := s.streamedEntryCount + s.lists.entries.length
      streamedTotalBytes := s.streamedTotalBytes + byteSum s.lists.entries
      streamedFilterDecisionCount :=
        s.streamedFilterDecisionCount + s.lists.filterDecisions.length
      sink := s.sink.emit s.lists.entries s.lists.filterDecisions }

def checkpoint : ScanCheckpoint × StreamState :=
  let (checkpoint, sink) := s.sink.checkpoint
  ({ entries := s.lists.entries.length
     coverage := s.lists.coverage.length
     issues := s.lists.issues.length
     filterDecisions := s.lists.filterDecisions.length
     subjects := s.lists.subjects.length
     queue := s.lists.queued.length
     reportedErrors := s.lists.reportedErrors
     examinedEntries := s.lists.examinedEntries
     controlAreaExcluded := s.lists.controlAreaExcluded
     streamedEntryCount := s.streamedEntryCount
     streamedTotalBytes := s.streamedTotalBytes
     streamedFilterDecisionCount := s.streamedFilterDecisionCount
     sink := checkpoint },
    { s with sink := sink })

def accept (checkpoint : Option ScanCheckpoint) : StreamState :=
  match checkpoint with
  | some checkpoint => { s with sink := s.sink.accept checkpoint.sink }
  | none => s

def rollback (checkpoint : ScanCheckpoint) : StreamState :=
  { lists :=
      { entries := s.lists.entries.take checkpoint.entries
        coverage := s.lists.coverage.take checkpoint.coverage
        issues := s.lists.issues.take checkpoint.issues
        filterDecisions := s.lists.filterDecisions.take checkpoint.filterDecisions
        subjects := s.lists.subjects.take checkpoint.subjects
        queued := s.lists.queued.take checkpoint.queue
        reportedErrors := checkpoint.reportedErrors
        examinedEntries := checkpoint.examinedEntries
        controlAreaExcluded := checkpoint.controlAreaExcluded }
    rescanAttemptCount := s.rescanAttemptCount + 1
    streamedEntryCount := checkpoint.streamedEntryCount
    streamedTotalBytes := checkpoint.streamedTotalBytes
    streamedFilterDecisionCount := checkpoint.streamedFilterDecisionCount
    sink := s.sink.rollback checkpoint.sink }

end StreamState

def DirectoryObservation.opened (observation : DirectoryObservation) : Option ReparseInspection :=
  observation.before.filter fun before => before.present && !before.isReparsePoint

structure StreamedScan extends FilesystemSnapshotScan where
  streamedEntryCount : Nat := 0
  streamedTotalBytes : Int := 0
  streamedFilterDecisionCount : Nat := 0
  streamedBatchCount : Nat := 0

namespace StreamedScan

variable (scan : StreamedScan)

def entryCount : Nat := scan.streamedEntryCount + scan.entries.length

def totalBytes : Int := scan.streamedTotalBytes + byteSum scan.entries

def filterDecisionCount : Nat := scan.streamedFilterDecisionCount + scan.filterDecisions.length

end StreamedScan

namespace SnapshotScanner

variable (scanner : SnapshotScanner)

def streamChildren (queued : QueuedDirectory) (context : DirectoryCaseContext) :
    List ChildObservation → StreamState → Except String StreamState
  | [], s => .ok s
  | child :: rest, s => do
    let s := if s.lists.isFull then s.flushStreamBatch else s
    let lists ← scanner.scanChildren queued context [child] s.lists
    if lists.limitHit then .ok { s with lists := lists }
    else streamChildren queued context rest { s with lists := lists }

def streamOpened (queued : QueuedDirectory) (observation : DirectoryObservation)
    (before : ReparseInspection) (s : StreamState) : Except String StreamState :=
  match observation.signatureBefore, observation.listing with
  | some signature, some listing => do
    let lists := s.lists.withNamedStreams scanner.namedStreamPolicy queued.relativePath
      .directory observation.namedStreams
    let s ← scanner.streamChildren queued observation.caseContext
      (scanner.sortedChildren listing.children) { s with lists := lists }
    let s := s.flushStreamBatch
    if s.lists.limitHit then .ok s
    else .ok { s with lists := closeDirectory queued observation before signature s.lists }
  -- without its children the directory is covered as in the buffered scan
  | _, _ => do
    let lists ← scanner.attemptDirectory queued observation s.lists
    return { s with lists := lists }

def streamAttempt (queued : QueuedDirectory) (observation : DirectoryObservation)
    (s : StreamState) : Except String (Option ScanCheckpoint × StreamState) :=
  let s := { s with lists := s.lists.fresh }
  match observation.opened with
  | some before => do
    let (checkpoint, s) := s.checkpoint
    let s ← scanner.streamOpened queued observation before s
    return (some checkpoint, s)
  | none => do
    let lists ← scanner.attemptDirectory queued observation s.lists
    return (none, { s with lists := lists })

variable (observations : Observations)

def streamDirectory : Nat → QueuedDirectory → StreamState → Except String StreamState
  | 0, queued, s => do
    let attempted ← scanner.streamAttempt queued
      (observations queued.relativePath queued.rescanAttempt) s
    return attempted.2.accept attempted.1
  | rescans + 1, queued, s => do
    let attempted ← scanner.streamAttempt queued
      (observations queued.relativePath queued.rescanAttempt) s
    match attempted.1, attempted.2.lists.changed with
    | some checkpoint, true =>
      streamDirectory rescans { queued with rescanAttempt := queued.rescanAttempt + 1 }
        (attempted.2.rollback checkpoint)
    | _, _ => return attempted.2.accept attempted.1

def streamQueue : Nat → StreamState → Except String StreamState
  | directories, s =>
    match s.lists.queued with
    | [] => .ok s
    | queued :: queue =>
      let s := s.withQueue queue
      match directories with
      | 0 => .ok { s with lists := s.lists.limitBlock queued "SNAPSHOT_DIRECTORY_LIMIT_EXCEEDED" }
      | directories + 1 => do
        let s ← scanner.streamDirectory observations scanner.maxVolatileRescans queued s
        if s.lists.limitHit then .ok s else streamQueue directories s

def streamStart : StreamState where
  lists :=
    { queued := [⟨".", ".", 0⟩]
      reportedErrors := []
      examinedEntries := 0
      controlAreaExcluded := false }

def scanStreaming : Except String (StreamedScan × List ScanBatch) :=
  if scanner.policy.hasEmptyDirectoryRules then
    (scanner.scan observations).map fun scan => ({ scan with }, [])
  else do
    let s ← scanner.streamQueue observations scanner.maxDirectories streamStart
    return ({ snapshotId := scanner.snapshotId
              entries := s.lists.entries
              coverage := s.lists.coverage
              issues := s.lists.issues
              controlAreaExcluded := s.lists.controlAreaExcluded
              filterDecisions := s.lists.filterDecisions
              rescanAttemptCount := s.rescanAttemptCount
              streamedEntryCount := s.streamedEntryCount
              streamedTotalBytes := s.streamedTotalBytes
              streamedFilterDecisionCount := s.streamedFilterDecisionCount
              streamedBatchCount := s.sink.batchCount }, s.sink.batches)

end SnapshotScanner

end MediaSync.Snapshots
