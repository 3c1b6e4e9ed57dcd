import MediaSync.Foundation.Table
import MediaSync.Foundation.Text

/-! Messages of the catalog's outbox and the tombstones of delivered ones, with the methods of the
store. -/
namespace MediaSync.Catalog
open Text

inductive OutboxMessageState where
  | pending
  | claimed
  | delivered
  | deadLetter
  deriving DecidableEq

structure OutboxMessage where
  messageId : String
  messageType : String
  aggregateType : String
  aggregateId : String
  idempotencyKey : String
  payloadJson : String
  payloadHash : String
  state : OutboxMessageState := .pending
  claimOwnerInstanceId : Option String := none
  claimGeneration : Int := 0
  claimToken : Option String := none
  claimStartedUtc : Option String := none
  claimTtlMs : Option Int := none
  attemptCount : Int := 0
  terminalEffectHash : Option String := none
  lastErrorCode : Option String := none
  deriving DecidableEq

/-- A row of `outbox_messages`: the message with the times its statements compare or require. -/
structure OutboxRow extends OutboxMessage where
  nextAttemptUtc : String
  deliveredUtc : Option String := none
  deriving DecidableEq

/-- A row of `effect_dedup_tombstones` of the kind `outbox`. -/
structure OutboxTombstone where
  deduplicationKey : String
  payloadHash : String
  effectEntityType : String
  effectEntityId : String
  terminalEffectHash : String
  deriving DecidableEq

structure OutboxTables where
  messages : List OutboxRow := []
  tombstones : List OutboxTombstone := []
  deriving DecidableEq

def hashLength (text : String) : Bool := text.toList.length == 64

/-- The constraints of `outbox_messages` on one row. -/
def OutboxRow.accepted (row : OutboxRow) : Bool :=
  hashLength row.payloadHash && row.claimTtlMs.all (fun ttl => 0 < ttl) &&
    0 ≤ row.claimGeneration && 0 ≤ row.attemptCount && row.terminalEffectHash.all hashLength &&
    (row.state != .claimed || (row.claimOwnerInstanceId.isSome && row.claimToken.isSome &&
      row.claimStartedUtc.isSome)) &&
    (row.state != .delivered || (row.deliveredUtc.isSome && row.terminalEffectHash.isSome))

/-- `value.strip() and value.endswith("Z")`. -/
def endsWithZ (value : String) : Bool :=
  nonBlank value && value.toList.getLast? == some 'Z'

namespace OutboxTables

variable (t : OutboxTables)

def load (messageId : String) : Option OutboxRow :=
  Table.lookup (fun row : OutboxRow => row.messageId) t.messages messageId

def loadByIdempotencyKey (idempotencyKey : String) : Option OutboxRow :=
  Table.lookup (fun row : OutboxRow => row.idempotencyKey) t.messages idempotencyKey

def loadTombstone (deduplicationKey : String) : Option OutboxTombstone :=
  Table.lookup OutboxTombstone.deduplicationKey t.tombstones deduplicationKey

/-- An `UPDATE` that has to change one row, under the constraints of the table. -/
def updateOne (p : OutboxRow → Bool) (f : OutboxRow → OutboxRow) (failed mismatch : String) :
    Except String OutboxTables :=
  (Table.updateOne OutboxRow.accepted t.messages p f failed mismatch).map fun messages =>
    { t with messages }

/-- Such an `UPDATE`, and the message it leaves. -/
def updateAndLoad (messageId : String) (p : OutboxRow → Bool) (f : OutboxRow → OutboxRow)
    (failed mismatch notLoaded : String) : Except String (OutboxMessage × OutboxTables) := do
  let t' ← t.updateOne p f failed mismatch
  match t'.load messageId with
  | none => .error notLoaded
  | some row => .ok (row.toOutboxMessage, t')

end OutboxTables

def OutboxRow.enqueued (message : OutboxMessage) (now : String) : OutboxRow where
  messageId := message.messageId
  messageType := message.messageType
  aggregateType := message.aggregateType
  aggregateId := message.aggregateId
  idempotencyKey := message.idempotencyKey
  payloadJson := message.payloadJson
  payloadHash := message.payloadHash
  state := message.state
  nextAttemptUtc := now

def OutboxRow.claimedBy (ownerInstanceId claimToken claimStartedUtc : String) (claimTtlMs : Int)
    (row : OutboxRow) : OutboxRow :=
  { row with
    state := .claimed
    claimOwnerInstanceId := some ownerInstanceId
    claimGeneration := row.claimGeneration + 1
    claimToken := some claimToken
    claimStartedUtc := some claimStartedUtc
    claimTtlMs := some claimTtlMs
    attemptCount := row.attemptCount + 1 }

def OutboxRow.requeuedAfterExpiry (requeuedUtc : String) (row : OutboxRow) : OutboxRow :=
  { row with
    state := .pending
    claimOwnerInstanceId := none
    claimGeneration := row.claimGeneration + 1
    claimToken := none
    claimStartedUtc := none
    claimTtlMs := none
    nextAttemptUtc := requeuedUtc
    lastErrorCode := some "OUTBOX_CLAIM_REQUEUED_AFTER_MONOTONIC_EXPIRY" }

def OutboxRow.requeuedAfterStartup (now : String) (row : OutboxRow) : OutboxRow :=
  { row with
    state := .pending
    claimOwnerInstanceId := none
    claimGeneration := row.claimGeneration + 1
    claimToken := none
    claimStartedUtc := none
    nextAttemptUtc := now
    lastErrorCode := some "OUTBOX_CLAIM_REQUEUED_AFTER_STARTUP" }

def OutboxRow.deliveredAs (terminalEffectHash now : String) (row : OutboxRow) : OutboxRow :=
  { row with
    state := .delivered
    deliveredUtc := some now
    terminalEffectHash := some terminalEffectHash
    lastErrorCode := none }

def OutboxRow.deadLettered (errorCode : String) (row : OutboxRow) : OutboxRow :=
  { row with state := .deadLetter, lastErrorCode := some errorCode }

def deliveredMessageFromTombstone (message : OutboxMessage) (terminalEffectHash : String) :
    OutboxMessage :=
  { message with
    state := .delivered
    terminalEffectHash := some terminalEffectHash
    lastErrorCode := none }

def enqueueOutboxMessage (t : OutboxTables) (message : OutboxMessage) (now : String) :
    Except String (OutboxMessage × OutboxTables) :=
  match t.loadByIdempotencyKey message.idempotencyKey, t.loadTombstone message.idempotencyKey with
  | some existing, tombstone =>
    if existing.payloadHash != message.payloadHash then .error "OUTBOX_IDEMPOTENCY_CONFLICT"
    else if tombstone.any (fun row => row.payloadHash != existing.payloadHash) then
      .error "OUTBOX_IDEMPOTENCY_CONFLICT"
    else .ok (existing.toOutboxMessage, t)
  | none, some tombstone =>
    if tombstone.payloadHash != message.payloadHash then .error "OUTBOX_IDEMPOTENCY_CONFLICT"
    else .ok (deliveredMessageFromTombstone message tombstone.terminalEffectHash, t)
  | none, none =>
    let row := OutboxRow.enqueued message now
    if (t.load message.messageId).isSome || !row.accepted then .error "OUTBOX_ENQUEUE_FAILED"
    else .ok (message, { t with messages := Table.insert t.messages row })

/-- `ORDER BY next_attempt_utc, id`. -/
def OutboxRow.attemptedBefore (a b : OutboxRow) : Prop :=
  a.nextAttemptUtc < b.nextAttemptUtc ∨
    (a.nextAttemptUtc = b.nextAttemptUtc ∧ a.messageId ≤ b.messageId)

instance : DecidableRel OutboxRow.attemptedBefore := fun _ _ => inferInstanceAs (Decidable (_ ∨ _))

/-- At the database's clock `now`. -/
def claimNextPending (t : OutboxTables) (ownerInstanceId claimToken claimStartedUtc : String)
    (claimTtlMs : Int) (now : String) : Except String (Option OutboxMessage × OutboxTables) :=
  if claimTtlMs ≤ 0 then .error "OUTBOX_CLAIM_TTL_MUST_BE_POSITIVE"
  else if !endsWithZ claimStartedUtc then .error "OUTBOX_CLAIM_STARTED_UTC_INVALID"
  else
    let due := t.messages.filter fun row => row.state == .pending && row.nextAttemptUtc ≤ now
    match (due.insertionSort OutboxRow.attemptedBefore).head? with
    | none => .ok (none, t)
    | some next => do
      let (message, t') ← t.updateAndLoad next.messageId
        (fun row => row.messageId == next.messageId && row.state == .pending &&
          row.claimGeneration == next.claimGeneration)
        (OutboxRow.claimedBy ownerInstanceId claimToken claimStartedUtc claimTtlMs)
        "OUTBOX_CLAIM_FAILED" "OUTBOX_CLAIM_CONFLICT" "OUTBOX_CLAIM_LOAD_FAILED"
      .ok (some message, t')

def requeueExpiredClaim (t : OutboxTables) (messageId ownerInstanceId : String)
    (claimGeneration : Int) (claimToken requeuedUtc : String) :
    Except String (OutboxMessage × OutboxTables) :=
  if claimGeneration < 1 then .error "OUTBOX_EXPIRED_CLAIM_GENERATION_INVALID"
  else if !endsWithZ requeuedUtc then .error "OUTBOX_EXPIRED_CLAIM_REQUEUED_UTC_INVALID"
  else
    t.updateAndLoad messageId
      (fun row => row.messageId == messageId && row.state == .claimed &&
        row.claimOwnerInstanceId == some ownerInstanceId &&
        row.claimGeneration == claimGeneration && row.claimToken == some claimToken)
      (OutboxRow.requeuedAfterExpiry requeuedUtc)
      "OUTBOX_EXPIRED_CLAIM_REQUEUE_FAILED" "OUTBOX_EXPIRED_CLAIM_MISMATCH"
      "OUTBOX_EXPIRED_CLAIM_LOAD_FAILED"

/-- `INSERT … ON CONFLICT(deduplication_key) DO UPDATE`. -/
def upsertTombstone (t : OutboxTables) (tombstone : OutboxTombstone) : Except String OutboxTables :=
  if !(hashLength tombstone.payloadHash && hashLength tombstone.terminalEffectHash) then
    .error "OUTBOX_DELIVERY_FAILED"
  else .ok { t with
    tombstones :=
      if (t.loadTombstone tombstone.deduplicationKey).isSome then
        Table.overwrite OutboxTombstone.deduplicationKey t.tombstones tombstone
      else Table.insert t.tombstones tombstone }

def markDelivered (t : OutboxTables) (messageId claimToken terminalEffectHash now : String) :
    Except String (OutboxMessage × OutboxTables) :=
  match t.load messageId with
  | none => .error "OUTBOX_MESSAGE_NOT_FOUND"
  | some message => do
    let updated ← t.updateOne
      (fun row => row.messageId == messageId && row.state == .claimed &&
        row.claimToken == some claimToken && row.payloadHash == message.payloadHash)
      (OutboxRow.deliveredAs terminalEffectHash now)
      "OUTBOX_DELIVERY_FAILED" "OUTBOX_DELIVERY_CLAIM_MISMATCH"
    let t' ← upsertTombstone updated {
      deduplicationKey := message.idempotencyKey
      payloadHash := message.payloadHash
      effectEntityType := message.aggregateType
      effectEntityId := message.aggregateId
      terminalEffectHash }
    match t'.load messageId with
    | none => .error "OUTBOX_DELIVERY_LOAD_FAILED"
    | some row => .ok (row.toOutboxMessage, t')

def markDeadLetter (t : OutboxTables) (messageId claimToken errorCode : String) :
    Except String (OutboxMessage × OutboxTables) :=
  t.updateAndLoad messageId
    (fun row => row.messageId == messageId && row.state == .claimed &&
      row.claimToken == some claimToken)
    (OutboxRow.deadLettered errorCode)
    "OUTBOX_DEAD_LETTER_FAILED" "OUTBOX_DEAD_LETTER_CLAIM_MISMATCH"
    "OUTBOX_DEAD_LETTER_LOAD_FAILED"

structure OutboxStartupRequest where
  reconcilerInstanceId : String
  inactiveOwnerInstanceIds : List String
  limit : Int
  deriving DecidableEq

def validateOutboxStartupRequest (request : OutboxStartupRequest) : Except String Unit := do
  check (nonBlank request.reconcilerInstanceId) "OUTBOX_RECONCILIATION_REQUIRES_RECONCILER"
  check (1 ≤ request.limit) "OUTBOX_RECONCILIATION_LIMIT_MUST_BE_POSITIVE"
  check (request.limit ≤ 1000) "OUTBOX_RECONCILIATION_LIMIT_TOO_LARGE"
  check (!request.inactiveOwnerInstanceIds.isEmpty)
    "OUTBOX_RECONCILIATION_REQUIRES_INACTIVE_OWNER_PROOF"
  request.inactiveOwnerInstanceIds.forM fun owner => do
    check (nonBlank owner) "OUTBOX_RECONCILIATION_REQUIRES_INACTIVE_OWNER_PROOF"
    check (owner != request.reconcilerInstanceId)
      "OUTBOX_RECONCILIATION_CANNOT_STEAL_CURRENT_OWNER"
  check (request.inactiveOwnerInstanceIds.Nodup) "OUTBOX_RECONCILIATION_OWNERS_MUST_BE_UNIQUE"

/-- `ORDER BY claim_started_utc, id`; a claimed row has a start. -/
def OutboxRow.startedBefore (a b : OutboxRow) : Prop :=
  a.claimStartedUtc.getD "" < b.claimStartedUtc.getD "" ∨
    (a.claimStartedUtc.getD "" = b.claimStartedUtc.getD "" ∧ a.messageId ≤ b.messageId)

instance : DecidableRel OutboxRow.startedBefore := fun _ _ => inferInstanceAs (Decidable (_ ∨ _))

def OutboxRow.ownedByOneOf (owners : List String) (row : OutboxRow) : Bool :=
  row.state == .claimed && row.claimOwnerInstanceId.any owners.contains

/-- The loop of `requeue_claimed_after_startup` over the selected rows. -/
def requeueEach (owners : List String) (now : String) :
    List OutboxRow → OutboxTables → Except String OutboxTables
  | [], t => .ok t
  | selected :: rest, t => do
    let t' ← t.updateOne
      (fun row => row.messageId == selected.messageId &&
        row.claimGeneration == selected.claimGeneration && row.ownedByOneOf owners)
      (OutboxRow.requeuedAfterStartup now)
      "OUTBOX_RECONCILIATION_FAILED" "OUTBOX_RECONCILIATION_CLAIM_CONFLICT"
    requeueEach owners now rest t'

def requeueClaimedAfterStartup (t : OutboxTables) (request : OutboxStartupRequest)
    (now : String) : Except String (List String × OutboxTables) := do
  validateOutboxStartupRequest request
  let owned := t.messages.filter (OutboxRow.ownedByOneOf request.inactiveOwnerInstanceIds)
  let rows := (owned.insertionSort OutboxRow.startedBefore).take request.limit.toNat
  let t' ← requeueEach request.inactiveOwnerInstanceIds now rows t
  .ok (rows.map (fun row => row.messageId), t')

inductive OutboxCall where
  | enqueue (message : OutboxMessage) (now : String)
  | claimNext (ownerInstanceId claimToken claimStartedUtc : String) (claimTtlMs : Int)
      (now : String)
  | requeueExpired (messageId ownerInstanceId : String) (claimGeneration : Int)
      (claimToken requeuedUtc : String)
  | deliver (messageId claimToken terminalEffectHash now : String)
  | requeueAtStartup (request : OutboxStartupRequest) (now : String)
  | deadLetter (messageId claimToken errorCode : String)

namespace OutboxCall

def body (t : OutboxTables) : OutboxCall → Except String (Option OutboxMessage × OutboxTables)
  | enqueue message now => (enqueueOutboxMessage t message now).map fun (m, t') => (some m, t')
  | claimNext owner token started ttl now => claimNextPending t owner token started ttl now
  | requeueExpired messageId owner generation token requeuedUtc =>
    (requeueExpiredClaim t messageId owner generation token requeuedUtc).map
      fun (m, t') => (some m, t')
  | deliver messageId token hash now =>
    (markDelivered t messageId token hash now).map fun (m, t') => (some m, t')
  | requeueAtStartup request now =>
    (requeueClaimedAfterStartup t request now).map fun (_, t') => (none, t')
  | deadLetter messageId token errorCode =>
    (markDeadLetter t messageId token errorCode).map fun (m, t') => (some m, t')

def perform (call : OutboxCall) (t : OutboxTables) :
    Except String (Option OutboxMessage) × OutboxTables :=
  match call.body t with
  | .ok (message, t') => (.ok message, t')
  | .error code => (.error code, t)

end OutboxCall

def OutboxTables.compact (t : OutboxTables) (messageId : String) : OutboxTables :=
  { t with messages := t.messages.filter fun row =>
      !(row.messageId == messageId && row.state == .delivered) }

end MediaSync.Catalog
