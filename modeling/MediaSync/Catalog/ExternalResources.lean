import MediaSync.Catalog.Outbox

/-! What a resource outside the database should be, what it was last observed to be, and the claim
under which an owner brings it up to date. -/
namespace MediaSync.Catalog
open Text

inductive ExternalResourceType where
  | taskScheduler
  | notificationChannel
  | controlMarker
  deriving DecidableEq

inductive ExternalResourceState where
  | pending
  | claimed
  | inSync
  | blocked
  deriving DecidableEq

/-- A row of `external_resource_state`. -/
structure ExternalResourceRecord where
  resourceType : ExternalResourceType
  resourceId : String
  desiredGeneration : Int
  desiredHash : String
  observedGeneration : Option Int := none
  observedHash : Option String := none
  state : ExternalResourceState := .pending
  claimOwnerInstanceId : Option String := none
  claimGeneration : Int := 0
  claimToken : Option String := none
  claimStartedUtc : Option String := none
  claimTtlMs : Option Int := none
  lastAttemptUtc : Option String := none
  lastSuccessUtc : Option String := none
  lastErrorCode : Option String := none
  attemptCount : Int := 0
  rowVersion : Int := 1
  deriving DecidableEq

def ExternalResourceRecord.key (record : ExternalResourceRecord) : ExternalResourceType × String :=
  (record.resourceType, record.resourceId)

/-- The constraints of `external_resource_state` on one row. -/
def ExternalResourceRecord.accepted (record : ExternalResourceRecord) : Bool :=
  1 ≤ record.desiredGeneration && hashLength record.desiredHash &&
    record.observedGeneration.all (fun generation => 1 ≤ generation) &&
    record.observedHash.all hashLength && 0 ≤ record.claimGeneration &&
    record.claimTtlMs.all (fun ttl => 0 < ttl) && 0 ≤ record.attemptCount &&
    1 ≤ record.rowVersion &&
    (record.state != .claimed || (record.claimOwnerInstanceId.isSome &&
      record.claimToken.isSome && record.claimStartedUtc.isSome)) &&
    (record.state != .inSync || (record.observedGeneration == some record.desiredGeneration &&
      record.observedHash == some record.desiredHash && record.lastSuccessUtc.isSome))

def isIdentifierHead (c : Char) : Bool :=
  ('A' ≤ c && c ≤ 'Z') || ('a' ≤ c && c ≤ 'z') || ('0' ≤ c && c ≤ '9')

/-- `IDENTIFIER_PATTERN`: a letter or digit, then up to 127 of these and `_.:-`. -/
def isIdentifier (value : String) : Bool :=
  match value.toList with
  | [] => false
  | head :: rest =>
    isIdentifierHead head && rest.length ≤ 127 &&
      rest.all fun c => isIdentifierHead c || ['_', '.', ':', '-'].contains c

/-- `_identifier` over the identifiers a request names. -/
def identifiers (values : List String) : Bool := values.all isIdentifier

structure ResourceStartupRequest where
  reconcilerInstanceId : String
  resourceType : ExternalResourceType
  inactiveOwnerInstanceIds : List String
  limit : Int
  deriving DecidableEq

def ResourceStartupRequest.valid (request : ResourceStartupRequest) : Bool :=
  isIdentifier request.reconcilerInstanceId && 1 ≤ request.limit && request.limit ≤ 100 &&
    !request.inactiveOwnerInstanceIds.isEmpty &&
    request.inactiveOwnerInstanceIds.all (fun owner =>
      isIdentifier owner && owner != request.reconcilerInstanceId) &&
    decide request.inactiveOwnerInstanceIds.Nodup

namespace ExternalResourceRecord

def desired (desiredGeneration : Int) (desiredHash : String) (record : ExternalResourceRecord) :
    ExternalResourceRecord :=
  { record with
    desiredGeneration
    desiredHash
    state := .pending
    claimOwnerInstanceId := none
    claimGeneration := record.claimGeneration + 1
    claimToken := none
    claimStartedUtc := none
    claimTtlMs := none
    lastErrorCode := none
    rowVersion := record.rowVersion + 1 }

def claimedBy (ownerInstanceId claimToken claimStartedUtc : String) (claimTtlMs : Int)
    (now : String) (record : ExternalResourceRecord) : ExternalResourceRecord :=
  { record with
    state := .claimed
    claimOwnerInstanceId := some ownerInstanceId
    claimGeneration := record.claimGeneration + 1
    claimToken := some claimToken
    claimStartedUtc := some claimStartedUtc
    claimTtlMs := some claimTtlMs
    lastAttemptUtc := some now
    attemptCount := record.attemptCount + 1
    rowVersion := record.rowVersion + 1 }

def requeued (lastErrorCode : String) (record : ExternalResourceRecord) : ExternalResourceRecord :=
  { record with
    state := .pending
    claimOwnerInstanceId := none
    claimGeneration := record.claimGeneration + 1
    claimToken := none
    claimStartedUtc := none
    claimTtlMs := none
    lastErrorCode := some lastErrorCode
    rowVersion := record.rowVersion + 1 }

def observed (observedHash now : String) (record : ExternalResourceRecord) :
    ExternalResourceRecord :=
  { record with
    observedGeneration := some record.desiredGeneration
    observedHash := some observedHash
    state := .inSync
    claimOwnerInstanceId := none
    claimToken := none
    claimStartedUtc := none
    claimTtlMs := none
    lastSuccessUtc := some now
    lastErrorCode := none
    rowVersion := record.rowVersion + 1 }

def blockedBy (errorCode : String) (record : ExternalResourceRecord) : ExternalResourceRecord :=
  { record with
    state := .blocked
    claimOwnerInstanceId := none
    claimToken := none
    claimStartedUtc := none
    claimTtlMs := none
    lastErrorCode := some errorCode
    rowVersion := record.rowVersion + 1 }

end ExternalResourceRecord

def loadResource (t : List ExternalResourceRecord) (key : ExternalResourceType × String) :
    Option ExternalResourceRecord :=
  Table.lookup ExternalResourceRecord.key t key

def returnLoaded (t : List ExternalResourceRecord) (key : ExternalResourceType × String) :
    Except String (ExternalResourceRecord × List ExternalResourceRecord) :=
  match loadResource t key with
  | none => .error "EXTERNAL_RESOURCE_LOAD_FAILED"
  | some record => .ok (record, t)

def upsertDesiredResourceState (t : List ExternalResourceRecord)
    (key : ExternalResourceType × String) (desiredGeneration : Int) (desiredHash : String) :
    Except String (ExternalResourceRecord × List ExternalResourceRecord) :=
  if !(isIdentifier key.2 && 1 ≤ desiredGeneration && isHash desiredHash) then
    .error "EXTERNAL_RESOURCE_VALIDATION_FAILED"
  else
    match loadResource t key with
    | none =>
      let record : ExternalResourceRecord :=
        { resourceType := key.1, resourceId := key.2, desiredGeneration, desiredHash }
      if !record.accepted then .error "EXTERNAL_RESOURCE_UPSERT_FAILED"
      else returnLoaded (Table.insert t record) key
    | some existing =>
      if desiredGeneration < existing.desiredGeneration then
        .error "EXTERNAL_RESOURCE_DESIRED_GENERATION_REGRESSION"
      else if desiredGeneration = existing.desiredGeneration ∧
          desiredHash ≠ existing.desiredHash then
        .error "EXTERNAL_RESOURCE_DESIRED_HASH_CONFLICT"
      else if existing.desiredGeneration < desiredGeneration then
        let record := existing.desired desiredGeneration desiredHash
        if !record.accepted then .error "EXTERNAL_RESOURCE_UPSERT_FAILED"
        else returnLoaded (Table.overwrite ExternalResourceRecord.key t record) key
      else returnLoaded t key

/-- `claim_next_pending_external_resource`, at the database's clock `now`. -/
def claimNextPendingResource (t : List ExternalResourceRecord)
    (resourceType : ExternalResourceType) (ownerInstanceId claimToken claimStartedUtc : String)
    (claimTtlMs : Int) (now : String) :
    Except String (Option ExternalResourceRecord × List ExternalResourceRecord) :=
  if !(identifiers [ownerInstanceId, claimToken] && endsWithZ claimStartedUtc &&
      0 < claimTtlMs) then .error "EXTERNAL_RESOURCE_VALIDATION_FAILED"
  else
    let pending := t.filter fun record =>
      record.resourceType == resourceType && record.state == .pending
    match (pending.insertionSort fun a b => a.resourceId ≤ b.resourceId).head? with
    | none => .ok (none, t)
    | some next => do
      let t' ← Table.updateOne ExternalResourceRecord.accepted t
        (fun record => record.key == next.key && record.state == .pending &&
          record.claimGeneration == next.claimGeneration)
        (ExternalResourceRecord.claimedBy ownerInstanceId claimToken claimStartedUtc claimTtlMs
          now)
        "EXTERNAL_RESOURCE_CLAIM_FAILED" "EXTERNAL_RESOURCE_CLAIM_CONFLICT"
      let (record, t') ← returnLoaded t' next.key
      .ok (some record, t')

def requeueExpiredResourceClaim (t : List ExternalResourceRecord)
    (key : ExternalResourceType × String) (ownerInstanceId : String) (claimGeneration : Int)
    (claimToken requeuedUtc : String) :
    Except String (ExternalResourceRecord × List ExternalResourceRecord) :=
  if !(identifiers [key.2, ownerInstanceId, claimToken] && 1 ≤ claimGeneration &&
      endsWithZ requeuedUtc) then .error "EXTERNAL_RESOURCE_VALIDATION_FAILED"
  else do
    let t' ← Table.updateOne ExternalResourceRecord.accepted t
      (fun record => record.key == key && record.state == .claimed &&
        record.claimOwnerInstanceId == some ownerInstanceId &&
        record.claimGeneration == claimGeneration && record.claimToken == some claimToken)
      (ExternalResourceRecord.requeued
        "EXTERNAL_RESOURCE_CLAIM_REQUEUED_AFTER_MONOTONIC_EXPIRY")
      "EXTERNAL_RESOURCE_EXPIRED_CLAIM_REQUEUE_FAILED" "EXTERNAL_RESOURCE_EXPIRED_CLAIM_MISMATCH"
    returnLoaded t' key

def markInSync (t : List ExternalResourceRecord) (key : ExternalResourceType × String)
    (desiredGeneration : Int) (claimToken observedHash now : String) :
    Except String (ExternalResourceRecord × List ExternalResourceRecord) :=
  if !(identifiers [key.2, claimToken] && 1 ≤ desiredGeneration && isHash observedHash) then
    .error "EXTERNAL_RESOURCE_VALIDATION_FAILED"
  else do
    let t' ← Table.updateOne ExternalResourceRecord.accepted t
      (fun record => record.key == key && record.desiredGeneration == desiredGeneration &&
        record.desiredHash == observedHash && record.state == .claimed &&
        record.claimToken == some claimToken)
      (ExternalResourceRecord.observed observedHash now)
      "EXTERNAL_RESOURCE_COMPLETE_FAILED" "EXTERNAL_RESOURCE_COMPLETION_CLAIM_MISMATCH"
    returnLoaded t' key

/-- `mark_external_resource_blocked`; unlike the completion it does not compare the desired
generation. -/
def markBlocked (t : List ExternalResourceRecord) (key : ExternalResourceType × String)
    (claimToken errorCode : String) :
    Except String (ExternalResourceRecord × List ExternalResourceRecord) :=
  if !identifiers [key.2, claimToken, errorCode] then .error "EXTERNAL_RESOURCE_VALIDATION_FAILED"
  else do
    let t' ← Table.updateOne ExternalResourceRecord.accepted t
      (fun record => record.key == key && record.state == .claimed &&
        record.claimToken == some claimToken)
      (ExternalResourceRecord.blockedBy errorCode)
      "EXTERNAL_RESOURCE_BLOCK_FAILED" "EXTERNAL_RESOURCE_BLOCK_CLAIM_MISMATCH"
    returnLoaded t' key

/-- `ORDER BY claim_started_utc, resource_id`; a claimed row has a start. -/
def ExternalResourceRecord.startedBefore (a b : ExternalResourceRecord) : Prop :=
  a.claimStartedUtc.getD "" < b.claimStartedUtc.getD "" ∨
    (a.claimStartedUtc.getD "" = b.claimStartedUtc.getD "" ∧ a.resourceId ≤ b.resourceId)

instance : DecidableRel ExternalResourceRecord.startedBefore :=
  fun _ _ => inferInstanceAs (Decidable (_ ∨ _))

def ExternalResourceRecord.ownedByOneOf (owners : List String)
    (record : ExternalResourceRecord) : Bool :=
  record.state == .claimed && record.claimOwnerInstanceId.any owners.contains

/-- The loop of `requeue_claimed_after_startup` over the selected rows. -/
def requeueEachResource (owners : List String) :
    List ExternalResourceRecord → List ExternalResourceRecord →
      Except String (List ExternalResourceRecord)
  | [], t => .ok t
  | selected :: rest, t => do
    let t' ← Table.updateOne ExternalResourceRecord.accepted t
      (fun record => record.key == selected.key &&
        record.claimGeneration == selected.claimGeneration && record.ownedByOneOf owners)
      (ExternalResourceRecord.requeued "EXTERNAL_RESOURCE_CLAIM_REQUEUED_AFTER_STARTUP")
      "EXTERNAL_RESOURCE_RECONCILIATION_FAILED" "EXTERNAL_RESOURCE_RECONCILIATION_CLAIM_CONFLICT"
    requeueEachResource owners rest t'

/-- `requeue_claimed_after_startup`, with the ids it reports. -/
def requeueResourcesAfterStartup (t : List ExternalResourceRecord)
    (request : ResourceStartupRequest) :
    Except String (List String × List ExternalResourceRecord) :=
  if !request.valid then .error "EXTERNAL_RESOURCE_VALIDATION_FAILED"
  else do
    let owned := t.filter fun record => record.resourceType == request.resourceType &&
      record.ownedByOneOf request.inactiveOwnerInstanceIds
    let rows := (owned.insertionSort ExternalResourceRecord.startedBefore).take
      request.limit.toNat
    let t' ← requeueEachResource request.inactiveOwnerInstanceIds rows t
    .ok (rows.map ExternalResourceRecord.resourceId, t')

inductive ResourceCall where
  | desire (key : ExternalResourceType × String) (desiredGeneration : Int) (desiredHash : String)
  | claimNext (resourceType : ExternalResourceType)
      (ownerInstanceId claimToken claimStartedUtc : String) (claimTtlMs : Int) (now : String)
  | requeueExpired (key : ExternalResourceType × String) (ownerInstanceId : String)
      (claimGeneration : Int) (claimToken requeuedUtc : String)
  | complete (key : ExternalResourceType × String) (desiredGeneration : Int)
      (claimToken observedHash now : String)
  | block (key : ExternalResourceType × String) (claimToken errorCode : String)
  | requeueAtStartup (request : ResourceStartupRequest)

namespace ResourceCall

def body (t : List ExternalResourceRecord) :
    ResourceCall → Except String (Option ExternalResourceRecord × List ExternalResourceRecord)
  | desire key generation hash =>
    (upsertDesiredResourceState t key generation hash).map fun (r, t') => (some r, t')
  | claimNext type owner token started ttl now =>
    claimNextPendingResource t type owner token started ttl now
  | requeueExpired key owner generation token requeuedUtc =>
    (requeueExpiredResourceClaim t key owner generation token requeuedUtc).map
      fun (r, t') => (some r, t')
  | complete key generation token hash now =>
    (markInSync t key generation token hash now).map fun (r, t') => (some r, t')
  | block key token code => (markBlocked t key token code).map fun (r, t') => (some r, t')
  | requeueAtStartup request =>
    (requeueResourcesAfterStartup t request).map fun (_, t') => (none, t')

def perform (call : ResourceCall) (t : List ExternalResourceRecord) :
    Except String (Option ExternalResourceRecord) × List ExternalResourceRecord :=
  match call.body t with
  | .ok (record, t') => (.ok record, t')
  | .error code => (.error code, t)

end ResourceCall

end MediaSync.Catalog
