import MediaSync.Recovery.Tables

/-! Publication, import and lifecycle of target intent segments. -/
namespace MediaSync.Recovery
open Text

variable {Dir : Type}

def validateRecoveryIntentSegment (segment : IntentSegment) : Except String Unit := do
  check (nonEmpty [segment.segmentId, segment.runId, segment.runTargetId,
    segment.targetEndpointId, segment.targetEndpointRevisionId, segment.ownerInstallationId,
    segment.leaseId]) "RECOVERY_INTENT_SEGMENT_REQUIRES_IDENTIFIERS"
  check (validRelativePath segment.relativePath) "RECOVERY_INTENT_SEGMENT_REQUIRES_RELATIVE_PATH"
  check (1 ≤ segment.endpointGeneration && 1 ≤ segment.ownershipEpoch &&
    1 ≤ segment.fencingToken && 0 ≤ segment.segmentSequence && 1 ≤ segment.schemaVersion)
    "RECOVERY_INTENT_SEGMENT_REQUIRES_POSITIVE_NUMBERS"
  check (1 ≤ segment.operationCount && segment.operationCount ≤ 10000)
    "RECOVERY_INTENT_SEGMENT_OPERATION_COUNT_OUT_OF_RANGE"
  check (0 ≤ segment.byteCount && segment.byteCount ≤ 16777216)
    "RECOVERY_INTENT_SEGMENT_BYTE_COUNT_OUT_OF_RANGE"
  check (isHash segment.segmentHash) "RECOVERY_INTENT_SEGMENT_REQUIRES_HASH"
  check (segment.previousSegmentHash.all isHash) "RECOVERY_INTENT_SEGMENT_REQUIRES_PREVIOUS_HASH"
  check (segment.state = .durable) "RECOVERY_INTENT_SEGMENT_REQUIRES_DURABLE_STATE"
  check (segment.durabilityState = .durable) "RECOVERY_INTENT_SEGMENT_REQUIRES_DURABLE_STORAGE"

/-- `_require_active_matching_lease` of the segment store. -/
def segmentActiveLease (t : Tables Dir) (segment : IntentSegment) : Bool :=
  match Table.lookup ResourceLease.leaseId t.leases segment.leaseId with
  | none => false
  | some row =>
    row.ownerInstanceId == segment.ownerInstallationId &&
      row.ownershipEpoch == segment.ownershipEpoch && row.fencingToken == segment.fencingToken &&
      row.endpointId == segment.targetEndpointId && row.state == .acquired

def segmentHistoricalLease (t : Tables Dir) (segment : IntentSegment) : Bool :=
  match Table.lookup ResourceLease.leaseId t.leases segment.leaseId with
  | none => false
  | some row =>
    row.ownerInstanceId == segment.ownerInstallationId &&
      row.ownershipEpoch == segment.ownershipEpoch && row.fencingToken == segment.fencingToken &&
      row.runId == segment.runId && row.runTargetId == segment.runTargetId &&
      row.endpointId == segment.targetEndpointId

def segmentChains (t : Tables Dir) (segment : IntentSegment) : Bool :=
  if segment.segmentSequence = 0 then segment.previousSegmentHash.isNone
  else
    match t.segments.find? fun row => row.runTargetId == segment.runTargetId &&
        row.segmentSequence == segment.segmentSequence - 1 with
    | none => false
    | some row => segment.previousSegmentHash == some row.segmentHash

/-- The unique constraints of `recovery_intent_segments` besides the primary key. -/
def segmentUnique (t : Tables Dir) (segment : IntentSegment) : Bool :=
  t.segments.all fun row => row.runTargetId != segment.runTargetId ||
    (row.segmentSequence != segment.segmentSequence && row.relativePath != segment.relativePath)

def insertIntentSegment (leaseAccepted : Bool) (leaseCode conflictCode : String)
    (segment : IntentSegment) : Body Dir IntentSegment := fun t =>
  match t.loadIntentSegment segment.segmentId with
  | some existing =>
    if existing ≠ segment then
      (.error (.storeError "RECOVERY_INTENT_SEGMENT_IDEMPOTENCY_CONFLICT"), t)
    else (.ok existing, t)
  | none =>
    if !leaseAccepted then (.error (.storeError leaseCode), t)
    else if !segmentChains t segment then
      (.error (.storeError "RECOVERY_INTENT_SEGMENT_CHAIN_MISMATCH"), t)
    else if !segmentUnique t segment then (.error (.storeError conflictCode), t)
    else (.ok segment, { t with segments := Table.insert t.segments segment })

def publishIntentSegment (segment : IntentSegment) : Body Dir IntentSegment := fun t =>
  insertIntentSegment (segmentActiveLease t segment) "RECOVERY_INTENT_SEGMENT_LEASE_MISMATCH"
    "RECOVERY_INTENT_SEGMENT_PERSISTENCE_CONFLICT" segment t

def importIntentSegment (segment : IntentSegment) : Body Dir IntentSegment := fun t =>
  insertIntentSegment (segmentHistoricalLease t segment)
    "RECOVERY_INTENT_SEGMENT_HISTORICAL_LEASE_MISMATCH"
    "RECOVERY_INTENT_SEGMENT_IMPORT_CONFLICT" segment t

/-- The segment lifecycle: `allowed` of `transition_intent_segment_state`. -/
def nextSegmentState : SegmentState → Option SegmentState
  | .durable => some .reconciled
  | .reconciled => some .cleanupEligible
  | .cleanupEligible => some .cleaned
  | _ => none

def setSegmentState (chosen : IntentSegment → Bool) (state : SegmentState)
    (segments : List IntentSegment) : List IntentSegment :=
  segments.map fun row => if chosen row then { row with state } else row

def transitionIntentSegmentState (segmentId : String) (expectedState nextState : SegmentState) :
    Body Dir Bool := fun t =>
  let chosen := fun row : IntentSegment =>
    row.segmentId == segmentId && row.state == expectedState
  if nextSegmentState expectedState ≠ some nextState then
    (.error (.storeError "RECOVERY_INTENT_SEGMENT_LIFECYCLE_TRANSITION_INVALID"), t)
  else if t.segments.any chosen then
    (.ok true, { t with segments := setSegmentState chosen nextState t.segments })
  else (.ok false, t)

def targetOperations (t : Tables Dir) (runId runTargetId : String) : List RecoveryOperation :=
  t.operations.filter fun row => row.runId == runId && row.runTargetId == runTargetId

def finalizeMissingTerminalIntentSegment (segmentId : String) : Body Dir Bool := fun t =>
  let chosen := fun row : IntentSegment =>
    row.segmentId == segmentId && (row.state == .durable || row.state == .reconciled) &&
      (targetOperations t row.runId row.runTargetId).any (fun bound =>
        bound.intentSegmentId == some row.segmentId) &&
      (targetOperations t row.runId row.runTargetId).all (fun finished =>
        finished.phase ∈ Phase.terminalPhases)
  (.ok (t.segments.any chosen), { t with segments := setSegmentState chosen .cleaned t.segments })

def IntentSegment.evidence (segment : IntentSegment) : IntentSegment :=
  { segment with state := .durable }

/-- Every row of `before` is still there, with the same evidence. -/
def SegmentsKept (before after : List IntentSegment) : Prop :=
  ∀ segment ∈ before, ∃ segment' ∈ after, segment'.evidence = segment.evidence

theorem SegmentsKept.refl (segments : List IntentSegment) : SegmentsKept segments segments :=
  fun segment h => ⟨segment, h, rfl⟩

theorem segmentsKept_setSegmentState (chosen : IntentSegment → Bool) (state : SegmentState)
    (segments : List IntentSegment) :
    SegmentsKept segments (setSegmentState chosen state segments) := by
  intro segment h
  refine ⟨_, List.mem_map.mpr ⟨segment, h, rfl⟩, ?_⟩
  split <;> rfl

theorem segmentsKept_insert (leaseAccepted : Bool) (leaseCode conflictCode : String)
    (segment : IntentSegment) (t : Tables Dir) :
    SegmentsKept t.segments
      (insertIntentSegment leaseAccepted leaseCode conflictCode segment t).2.segments := by
  unfold insertIntentSegment
  split
  · split <;> exact .refl _
  · split
    · exact .refl _
    · split
      · exact .refl _
      · split
        · exact .refl _
        · exact fun row h => ⟨row, Table.mem_insert.mpr (.inl h), rfl⟩

theorem insertIntentSegment_frame (leaseAccepted : Bool) (leaseCode conflictCode : String)
    (segment : IntentSegment) (t : Tables Dir) :
    let t' := (insertIntentSegment leaseAccepted leaseCode conflictCode segment t).2
    t'.operations = t.operations ∧ t'.events = t.events := by
  unfold insertIntentSegment
  repeat' split
  all_goals exact ⟨rfl, rfl⟩

theorem segmentsKept_publish (segment : IntentSegment) (t : Tables Dir) :
    SegmentsKept t.segments (publishIntentSegment segment t).2.segments :=
  segmentsKept_insert _ _ _ segment t

theorem segmentsKept_import (segment : IntentSegment) (t : Tables Dir) :
    SegmentsKept t.segments (importIntentSegment segment t).2.segments :=
  segmentsKept_insert _ _ _ segment t

theorem segmentsKept_transition (segmentId : String) (expectedState nextState : SegmentState)
    (t : Tables Dir) : SegmentsKept t.segments
      (transitionIntentSegmentState segmentId expectedState nextState t).2.segments := by
  unfold transitionIntentSegmentState
  dsimp only
  split
  · exact .refl _
  · split
    · exact segmentsKept_setSegmentState _ _ _
    · exact .refl _

theorem segmentsKept_finalize (segmentId : String) (t : Tables Dir) :
    SegmentsKept t.segments (finalizeMissingTerminalIntentSegment segmentId t).2.segments :=
  segmentsKept_setSegmentState _ _ _

end MediaSync.Recovery
