import MediaSync.Foundation.Sha256
import MediaSync.Foundation.Table
import MediaSync.Recovery.Operation

/-! The rows of `recovery.sqlite` that the journal reads and writes, and the store bodies that run
inside one transaction. -/
namespace MediaSync.Recovery
open Text

inductive LeaseState where
  | acquired
  | released
  deriving DecidableEq

structure ResourceLease where
  leaseId : String
  resourceKey : String
  ownershipEpoch : Int
  fencingToken : Int
  ownerInstanceId : String
  runId : String
  runTargetId : String
  endpointId : String
  endpointGeneration : Option Int
  state : LeaseState
  deriving DecidableEq

structure LeaseCounter where
  resourceKey : String
  ownershipEpoch : Int
  lastFencingToken : Int
  deriving DecidableEq

inductive SegmentDurabilityState where
  | pending
  | durable
  deriving DecidableEq

inductive SegmentState where
  | building
  | durable
  | reconciled
  | cleanupEligible
  | cleaned
  deriving DecidableEq

/-- `RecoveryIntentSegment`, a row of `recovery_intent_segments`. -/
structure IntentSegment where
  segmentId : String
  runId : String
  runTargetId : String
  targetEndpointId : String
  targetEndpointRevisionId : String
  endpointGeneration : Int
  ownerInstallationId : String
  ownershipEpoch : Int
  leaseId : String
  fencingToken : Int
  segmentSequence : Int
  relativePath : String
  schemaVersion : Int
  operationCount : Int
  byteCount : Int
  segmentHash : String
  previousSegmentHash : Option String := none
  durabilityState : SegmentDurabilityState := .durable
  state : SegmentState := .durable
  deriving DecidableEq

structure RecoveryEvent where
  runId : String
  runSequence : Nat
  operationId : String
  fromPhase : Option Phase
  toPhase : Phase
  processInstanceId : String
  payload : Payload
  previousEventHash : Option String
  eventHash : String

def RecoveryEvent.key (event : RecoveryEvent) : String × String :=
  (event.runId, event.operationId)

structure Tables (Dir : Type) where
  operations : List RecoveryOperation := []
  events : List RecoveryEvent := []
  leases : List ResourceLease := []
  counters : List LeaseCounter := []
  segments : List IntentSegment := []
  directories : Dir

inductive Raised where
  | storeError (code : String)
  | violation (code : String)
  | directoryError (code : String)
  deriving DecidableEq

def Raised.code : Raised → String
  | .storeError code => code
  | .violation code => code
  | .directoryError code => code

/-- An `OverflowError` or `ValueError`, which no handler catches, like a violation. -/
def Raised.overflow : Raised := .violation "OverflowError"

abbrev Body (Dir α : Type) := Tables Dir → Except Raised α × Tables Dir

namespace Tables

variable {Dir : Type} (t : Tables Dir)

def loadOperation (runId operationId : String) : Option RecoveryOperation :=
  Table.lookup RecoveryOperation.key t.operations (runId, operationId)

/-- The lease row, when it is in force for the operation: `_require_active_matching_lease`. -/
def activeMatchingLease (operation : RecoveryOperation) : Bool :=
  match Table.lookup ResourceLease.leaseId t.leases operation.leaseId with
  | none => false
  | some row =>
    row.resourceKey == operation.leaseResourceKey &&
      row.ownerInstanceId == operation.ownerInstallationId &&
      row.ownershipEpoch == operation.ownershipEpoch &&
      row.fencingToken == operation.fencingToken &&
      row.endpointId == operation.targetEndpointId && row.state == .acquired

/-- The columns `_require_matching_intent_segment` compares, apart from the segment's state. -/
def segmentBinds (segment : IntentSegment) (operation : RecoveryOperation) : Bool :=
  segment.runId == operation.runId && segment.runTargetId == operation.runTargetId &&
    segment.targetEndpointId == operation.targetEndpointId &&
    segment.targetEndpointRevisionId == operation.targetEndpointRevisionId &&
    segment.endpointGeneration == operation.endpointGeneration &&
    segment.ownerInstallationId == operation.ownerInstallationId &&
    segment.ownershipEpoch == operation.ownershipEpoch &&
    segment.leaseId == operation.leaseId && segment.fencingToken == operation.fencingToken &&
    segment.durabilityState == .durable

def loadIntentSegment (segmentId : String) : Option IntentSegment :=
  Table.lookup IntentSegment.segmentId t.segments segmentId

def matchingIntentSegment (operation : RecoveryOperation) : Bool :=
  match operation.intentSegmentId.bind t.loadIntentSegment with
  | none => false
  | some segment => segmentBinds segment operation && segment.state == .durable

/-- The text shape `recovery_operations` requires of a stored retry time. -/
def retryTextAccepted (text : Option String) : Bool :=
  text.all fun value =>
    20 ≤ value.toList.length && value.toList.length ≤ 64 && value.toList.getLast? == some 'Z'

/-- The constraints of `recovery_operations` that a validated row can still break: the foreign
key to its segment, the unique ordinal within it, and the ordinal and retry text checks. -/
def acceptsRow (operation : RecoveryOperation) : Bool :=
  operation.intentSegmentId.all (fun segmentId => (t.loadIntentSegment segmentId).isSome) &&
    operation.intentOrdinal.all (fun ordinal => 0 ≤ ordinal) &&
    retryTextAccepted operation.stagingRetryNotBeforeUtc &&
    (operation.intentSegmentId.isNone || operation.intentOrdinal.isNone ||
      t.operations.all fun other =>
        other.key == operation.key || other.intentSegmentId != operation.intentSegmentId ||
          other.intentOrdinal != operation.intentOrdinal)

/-- The event of a run with the highest `run_sequence`. -/
def lastEvent (runId : String) : Option RecoveryEvent :=
  Table.newestBy RecoveryEvent.runSequence (t.events.filter fun event => event.runId = runId)

/-- `run_sequence` of the next event of a run. -/
def nextRunSequence (runId : String) : Nat :=
  match t.lastEvent runId with
  | none => 0
  | some event => event.runSequence + 1

def eventHash (runId : String) (runSequence : Nat) (operationId : String)
    (fromPhase : Option Phase) (toPhase : Phase) (processInstanceId payloadJson : String)
    (previousEventHash : Option String) : String :=
  Sha256.hexdigest (Json.dump (.obj [("schema_version", .int 1), ("run_id", .str runId),
    ("run_sequence", .int runSequence), ("operation_id", .str operationId),
    ("from_phase", (fromPhase.map fun phase => Json.str phase.value).getD .null),
    ("to_phase", .str toPhase.value), ("process_instance_id", .str processInstanceId),
    ("payload_json", .str payloadJson),
    ("previous_event_hash", (previousEventHash.map Json.str).getD .null)]))

def operationAuditPayload (operation : RecoveryOperation) : Json :=
  let text : Option String → Json := fun value => (value.map Json.str).getD .null
  .obj [("assurance_level", text operation.assuranceLevel),
    ("durability_level",
      text ((operation.finalDurabilityState.filter fun value => value != "") <|>
        operation.stagingDurabilityState)),
    ("fencing_token", .int operation.fencingToken), ("lease_id", .str operation.leaseId),
    ("ownership_epoch", .int operation.ownershipEpoch),
    ("planned_bytes", .int operation.plannedBytes),
    ("source_guard_evidence_hash", text operation.sourceGuardEvidenceHash),
    ("source_guard_kind", text operation.sourceGuardKind),
    ("staging_object_id", text operation.stagingObjectId),
    ("transfer_state", text operation.transferState)]

/-- Whether `_append_event` adds the audit payload to an event. -/
def carriesAudit (payload : Payload) (fromPhase : Option Phase) (toPhase : Phase) : Bool :=
  (match Json.get payload "event_kind" with
    | some (.str kind) => kind == "STAGING_ATTEMPT_FAILED"
    | _ => false) ||
  (fromPhase == some .stagingDurable && toPhase == .stagingVerified)

def appendEvent (runId operationId : String) (fromPhase : Option Phase) (toPhase : Phase)
    (processInstanceId : String) (payload : Option Payload) : Tables Dir :=
  let given := payload.getD []
  let recorded :=
    match t.loadOperation runId operationId with
    | some operation =>
      if carriesAudit given fromPhase toPhase then
        given.put "operation_audit" (operationAuditPayload operation)
      else given
    | none => given
  let previousEventHash := (t.lastEvent runId).map RecoveryEvent.eventHash
  { t with
    events := t.events ++ [{
      runId, operationId, fromPhase, toPhase, processInstanceId, previousEventHash
      runSequence := t.nextRunSequence runId
      payload := recorded
      eventHash := eventHash runId (t.nextRunSequence runId) operationId fromPhase toPhase
        processInstanceId (Json.dump (.obj recorded)) previousEventHash }] }

def recordChange (operation updated : RecoveryOperation) (processInstanceId : String)
    (payload : Option Payload) : Tables Dir :=
  { t with operations := Table.overwrite RecoveryOperation.key t.operations updated }.appendEvent
    operation.runId operation.operationId (some operation.phase) updated.phase
    processInstanceId payload

def insertPlanned (operation : RecoveryOperation) (processInstanceId : String)
    (payload : Option Payload) : Tables Dir :=
  { t with operations := Table.insert t.operations operation }.appendEvent
    operation.runId operation.operationId none operation.phase processInstanceId payload

theorem appendEvent_events (r o : String) (a : Option Phase) (b : Phase) (p : String)
    (q : Option Payload) : ∃ event : RecoveryEvent,
      (t.appendEvent r o a b p q).events = t.events ++ [event] ∧ event.key = (r, o) ∧
        event.fromPhase = a ∧ event.toPhase = b :=
  ⟨_, rfl, rfl, rfl, rfl⟩

end Tables

structure Connection (Dir : Type) where
  committed : Tables Dir
  current : Tables Dir
  inTransaction : Bool

namespace Connection

variable {Dir α : Type}

/-- A store method's body under `outer_transaction` handling. -/
def execute (body : Body Dir α) (c : Connection Dir) : Except Raised α × Connection Dir :=
  let next := body c.current
  if c.inTransaction then (next.1, { c with current := next.2 })
  else
    match next.1 with
    | .ok value => (.ok value, ⟨next.2, next.2, false⟩)
    | .error (.storeError code) => (.error (.storeError code), ⟨c.committed, c.committed, false⟩)
    | .error (.violation code) => (.error (.violation code), ⟨c.committed, next.2, true⟩)
    | .error (.directoryError code) => (.error (.directoryError code), ⟨c.committed, next.2, true⟩)

variable {body : Body Dir α} {c : Connection Dir}

theorem execute_ok {value : α} (h : (c.execute body).1 = .ok value) :
    (body c.current).1 = .ok value ∧ (c.execute body).2.current = (body c.current).2 := by
  obtain ⟨committed, current, inTransaction⟩ := c
  cases inTransaction with
  | true => exact ⟨h, rfl⟩
  | false =>
    simp only [Connection.execute, Bool.false_eq_true, if_false] at h ⊢
    rcases hresult : (body current).1 with (code | code | code) | result <;> rw [hresult] at h
    · cases h
    · cases h
    · cases h
    · exact ⟨h, rfl⟩

def Settled (c : Connection Dir) : Prop := c.inTransaction = false → c.current = c.committed

theorem Settled.execute (hc : c.Settled) (body : Body Dir α) : (c.execute body).2.Settled ∧
      ((c.execute body).2.current = (body c.current).2 ∨ (c.execute body).2 = c) := by
  obtain ⟨committed, current, inTransaction⟩ := c
  cases inTransaction with
  | true => exact ⟨fun h => Bool.noConfusion h, .inl rfl⟩
  | false =>
    have hsame : current = committed := hc rfl
    subst hsame
    simp only [Connection.execute, Bool.false_eq_true, if_false]
    rcases (body current).1 with (code | code | code) | value
    · exact ⟨fun _ => rfl, .inr rfl⟩
    · exact ⟨fun h => Bool.noConfusion h, .inl rfl⟩
    · exact ⟨fun h => Bool.noConfusion h, .inl rfl⟩
    · exact ⟨fun _ => rfl, .inl rfl⟩

def Holds (P : Tables Dir → Prop) (c : Connection Dir) : Prop := P c.committed ∧ P c.current

theorem Holds.execute {P : Tables Dir → Prop} (hc : c.Holds P) (hnext : P (body c.current).2) :
    (execute body c).2.Holds P := by
  unfold Connection.execute
  by_cases ht : c.inTransaction = true
  · simp only [ht, if_true]
    exact ⟨hc.1, hnext⟩
  · simp only [ht]
    rcases (body c.current).1 with (code | code | code) | value
    · exact ⟨hc.1, hc.1⟩
    · exact ⟨hc.1, hnext⟩
    · exact ⟨hc.1, hnext⟩
    · exact ⟨hnext, hnext⟩

end Connection

end MediaSync.Recovery
