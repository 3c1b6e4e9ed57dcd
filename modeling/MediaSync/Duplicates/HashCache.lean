import MediaSync.Foundation.Sessions
import MediaSync.Foundation.Table
import MediaSync.Foundation.Transition
import MediaSync.Plans.Sealing

/-! The cache keeps, for each identity of a file, the strongest evidence of its content as the
active record, and a bounded number of records that were weaker or are superseded. -/
namespace MediaSync.Duplicates
open Transition Plans

inductive HashCacheEvidenceKind where
  | currentReadHash
  | usnContinuityValidatedHash
  | metadataRevalidatedCachedHash
  | staleHashHint
  | quickSignatureOnly
  deriving DecidableEq

def HashCacheEvidenceKind.value : HashCacheEvidenceKind → String
  | currentReadHash => "CURRENT_READ_HASH"
  | usnContinuityValidatedHash => "USN_CONTINUITY_VALIDATED_HASH"
  | metadataRevalidatedCachedHash => "METADATA_REVALIDATED_CACHED_HASH"
  | staleHashHint => "STALE_HASH_HINT"
  | quickSignatureOnly => "QUICK_SIGNATURE_ONLY"

def evidenceStrength : HashCacheEvidenceKind → Nat
  | .staleHashHint => 0
  | .quickSignatureOnly => 1
  | .metadataRevalidatedCachedHash => 2
  | .usnContinuityValidatedHash => 3
  | .currentReadHash => 4

structure HashCacheIdentity where
  endpointId : String
  endpointGeneration : Int
  volumeIdentity : Option String
  relativePath : String
  comparisonKey : String
  comparisonKeyVersion : Int
  parentCaseContextHash : String
  entryType : String
  sizeBytes : Int
  mtimeNs : Int
  birthtimeNs : Option Int
  attributes : Option Int
  reparseTag : Option Int
  fileId : Option String
  fileIdReliability : String
  linkCount : Option Int

structure HashCacheRecord where
  identity : HashCacheIdentity
  evidenceKind : HashCacheEvidenceKind
  evidenceGeneration : Nat
  computedUtc : String
  quickHash : Option String := none
  fullHash : Option String := none
  algorithm : String := "BLAKE3-256"
  hashSchemaVersion : Int := 1
  signatureSchemaVersion : Option Int := none
  readStartedFingerprintHash : Option String := none
  readCompletedFingerprintHash : Option String := none
  usnJournalId : Option String := none
  usnFirstRecord : Option String := none
  usnLastRecord : Option String := none

def HashCacheIdentity.identityHash (identity : HashCacheIdentity) : String :=
  Sha256.hexdigest (Json.dump (.obj [("attributes", jsonInt identity.attributes),
    ("birthtime_ns", jsonInt identity.birthtimeNs),
    ("comparison_key", .str identity.comparisonKey),
    ("comparison_key_version", .int identity.comparisonKeyVersion),
    ("endpoint_generation", .int identity.endpointGeneration),
    ("endpoint_id", .str identity.endpointId), ("entry_type", .str identity.entryType),
    ("file_id", jsonText identity.fileId),
    ("file_id_reliability", .str identity.fileIdReliability),
    ("link_count", jsonInt identity.linkCount), ("mtime_ns", .int identity.mtimeNs),
    ("parent_case_context_hash", .str identity.parentCaseContextHash),
    ("relative_path", .str identity.relativePath),
    ("reparse_tag", jsonInt identity.reparseTag), ("size_bytes", .int identity.sizeBytes),
    ("volume_identity", jsonText identity.volumeIdentity)]))

def HashCacheRecord.evidenceHash (record : HashCacheRecord) : String :=
  Sha256.hexdigest (Json.dump (.obj [("algorithm", .str record.algorithm),
    ("cache_identity_hash", .str record.identity.identityHash),
    ("evidence_kind", .str record.evidenceKind.value),
    ("full_hash", jsonText record.fullHash),
    ("hash_schema_version", .int record.hashSchemaVersion),
    ("quick_hash", jsonText record.quickHash),
    ("read_completed_fingerprint_hash", jsonText record.readCompletedFingerprintHash),
    ("read_started_fingerprint_hash", jsonText record.readStartedFingerprintHash),
    ("signature_schema_version", jsonInt record.signatureSchemaVersion),
    ("usn_first_record", jsonText record.usnFirstRecord),
    ("usn_journal_id", jsonText record.usnJournalId),
    ("usn_last_record", jsonText record.usnLastRecord)]))

structure HashCacheRow where
  id : Nat
  cacheIdentityHash : String
  evidenceHash : String
  record : HashCacheRecord
  active : Bool

inductive HashCacheWriteState where
  | inserted
  | promoted
  | replayed
  | retainedStronger
  | capacityRejected
  deriving DecidableEq

structure HashCacheWriteReport where
  state : HashCacheWriteState
  cacheIdentityHash : String
  evidenceHash : String
  recordId : Option Nat
  evidenceGeneration : Option Nat
  activeEvidenceKind : Option HashCacheEvidenceKind

structure HashCacheLimits where
  maxActiveRows : Nat
  maxHistoryPerIdentity : Nat
  activeRows : 1 ≤ maxActiveRows ∧ maxActiveRows ≤ 1000000

inductive HashCacheStatement where
  | begin
  | select
  | deactivate
  | insert
  | prune
  | commit

abbrev SqliteFaults := HashCacheStatement → Option String

abbrev HashCacheProcedure := Procedure (List HashCacheRow) String

def executeCache (faults : SqliteFaults) (statement : HashCacheStatement)
    (f : List HashCacheRow → List HashCacheRow) : HashCacheProcedure Unit := fun rows =>
  match faults statement with
  | some raised => (.error raised, rows)
  | none => (.ok (), f rows)

def readRows : HashCacheProcedure (List HashCacheRow) := fun rows => (.ok rows, rows)

def loadEvidence (rows : List HashCacheRow) (identityHash evidenceHash : String) :
    Option HashCacheRow :=
  rows.find? fun row => row.cacheIdentityHash = identityHash && row.evidenceHash = evidenceHash

def loadActiveRow (rows : List HashCacheRow) (identityHash : String) : Option HashCacheRow :=
  rows.find? fun row => row.cacheIdentityHash = identityHash && row.active

def nextGeneration (rows : List HashCacheRow) (identityHash : String) : Nat :=
  ((rows.filter fun row => row.cacheIdentityHash = identityHash).map
    (·.record.evidenceGeneration)).foldl max 0 + 1

def newId (rows : List HashCacheRow) : Nat := (rows.map HashCacheRow.id).foldl max 0 + 1

structure HashedRecord where
  record : HashCacheRecord
  identityHash : String
  evidenceHash : String

def HashCacheRecord.hashed (record : HashCacheRecord) : HashedRecord where
  record
  identityHash := record.identity.identityHash
  evidenceHash := record.evidenceHash

def insertRow (r : HashedRecord) (evidenceGeneration : Nat) (active : Bool)
    (rows : List HashCacheRow) : List HashCacheRow :=
  Table.insert rows {
    id := newId rows
    cacheIdentityHash := r.identityHash
    evidenceHash := r.evidenceHash
    record := { r.record with evidenceGeneration }
    active }

/-- The order of the history: `evidence_generation DESC, id DESC`. -/
def historyAfter (a b : HashCacheRow) : Prop :=
  b.record.evidenceGeneration < a.record.evidenceGeneration ∨
    (b.record.evidenceGeneration = a.record.evidenceGeneration ∧ b.id ≤ a.id)

instance : DecidableRel historyAfter := fun a b => by unfold historyAfter; infer_instance

def pruneHistory (limits : HashCacheLimits) (identityHash : String)
    (rows : List HashCacheRow) : List HashCacheRow :=
  let pruned := (((rows.filter fun row => row.cacheIdentityHash = identityHash && !row.active)
    |>.insertionSort historyAfter).drop limits.maxHistoryPerIdentity).map HashCacheRow.id
  rows.filter fun row => !pruned.contains row.id

/-- The `UPDATE` that takes the active flag of a row away. -/
def deactivate (id : Nat) (rows : List HashCacheRow) : List HashCacheRow :=
  Table.updateWhere rows (fun row => row.id = id) fun row => { row with active := false }

section
variable (limits : HashCacheLimits) (faults : SqliteFaults) (r : HashedRecord)

def reportOf (state : HashCacheWriteState) (recordId evidenceGeneration : Option Nat)
    (activeEvidenceKind : Option HashCacheEvidenceKind) : HashCacheWriteReport :=
  { state, recordId, evidenceGeneration, activeEvidenceKind
    cacheIdentityHash := r.identityHash
    evidenceHash := r.evidenceHash }

def acceptRecord (state : HashCacheWriteState) (evidenceGeneration : Nat) (active : Bool)
    (activeEvidenceKind : HashCacheEvidenceKind) : HashCacheProcedure HashCacheWriteReport := do
  let rows ← readRows
  executeCache faults .insert (insertRow r evidenceGeneration active)
  executeCache faults .prune (pruneHistory limits r.identityHash)
  executeCache faults .commit id
  return reportOf r state (some (newId rows)) (some evidenceGeneration)
    (some activeEvidenceKind)

/-- The statements of `persist_evidence`. -/
def persistRows : HashCacheProcedure HashCacheWriteReport := do
  executeCache faults .begin id
  executeCache faults .select id
  let rows ← readRows
  let active := loadActiveRow rows r.identityHash
  match loadEvidence rows r.identityHash r.evidenceHash with
  | some replay =>
    executeCache faults .commit id
    return reportOf r .replayed (some replay.id) (some replay.record.evidenceGeneration)
      (active.map (·.record.evidenceKind))
  | none =>
    let generation := nextGeneration rows r.identityHash
    match active with
    | none =>
      if limits.maxActiveRows ≤ rows.countP (·.active) then do
        executeCache faults .commit id
        return reportOf r .capacityRejected none none none
      else acceptRecord limits faults r .inserted generation true r.record.evidenceKind
    | some current =>
      let activeKind := current.record.evidenceKind
      if evidenceStrength r.record.evidenceKind = evidenceStrength activeKind then
        Procedure.raise "HASH_CACHE_EQUAL_STRENGTH_CONFLICT"
      else if evidenceStrength activeKind < evidenceStrength r.record.evidenceKind then do
        executeCache faults .deactivate (deactivate current.id)
        acceptRecord limits faults r .promoted generation true r.record.evidenceKind
      else acceptRecord limits faults r .retainedStronger generation false activeKind

def persistHashed : Procedure (Session (List HashCacheRow)) String HashCacheWriteReport :=
  fun c =>
    if c.saved.isSome then (.error "HASH_CACHE_WRITE_REQUIRES_IDLE_CONNECTION", c)
    else Session.immediate (fun _ => true) (persistRows limits faults r) c

def persistEvidence (record : HashCacheRecord) :
    Procedure (Session (List HashCacheRow)) String HashCacheWriteReport :=
  persistHashed limits faults record.hashed

end

/-- What `load_reusable_quick_signature` is asked for: a file entry. -/
structure ReusableEntry where
  endpointId : String
  endpointGeneration : Int
  relativePath : String
  comparisonKey : String
  comparisonKeyVersion : Int
  parentCaseContextHash : String
  sizeBytes : Int
  birthtimeNs : Option Int
  identityFingerprintHash : String

def ReusableEntry.selects (entry : ReusableEntry) (row : HashCacheRow) : Bool :=
  row.record.identity.endpointId = entry.endpointId &&
    row.record.identity.endpointGeneration = entry.endpointGeneration &&
    row.record.identity.relativePath = entry.relativePath &&
    row.record.identity.comparisonKey = entry.comparisonKey &&
    row.record.identity.comparisonKeyVersion = entry.comparisonKeyVersion &&
    row.record.identity.parentCaseContextHash = entry.parentCaseContextHash &&
    row.record.identity.entryType = "file" && row.record.identity.sizeBytes = entry.sizeBytes &&
    row.record.identity.birthtimeNs = entry.birthtimeNs &&
    row.record.readStartedFingerprintHash = some entry.identityFingerprintHash &&
    row.record.readCompletedFingerprintHash = some entry.identityFingerprintHash &&
    row.record.quickHash.isSome && row.record.signatureSchemaVersion = some 1 && row.active

def loadReusableQuickSignature (rows : List HashCacheRow) (entry : ReusableEntry) :
    Except String (Option HashCacheRecord) :=
  match ((rows.filter entry.selects).insertionSort historyAfter).take 2 with
  | [] => .ok none
  | [row] => .ok (some row.record)
  | _ => .error "HASH_CACHE_REUSE_AMBIGUOUS"

structure Acceptance where
  cacheIdentityHash : String
  evidenceHash : String
  evidenceKind : HashCacheEvidenceKind
  evidenceGeneration : Nat
  deriving DecidableEq

structure HashCache where
  session : Session (List HashCacheRow) := ⟨[], none⟩
  accepted : List Acceptance := []

def HashCache.rows (s : HashCache) : List HashCacheRow := s.session.current

def HashCacheWriteReport.acceptance (report : HashCacheWriteReport)
    (evidenceKind : HashCacheEvidenceKind) : List Acceptance :=
  match report.state, report.evidenceGeneration with
  | .replayed, _ | .capacityRejected, _ | _, none => []
  | _, some evidenceGeneration => [{ report with evidenceKind, evidenceGeneration }]

/-- A call of `persist_evidence`. -/
structure PersistCall where
  record : HashCacheRecord
  faults : SqliteFaults := fun _ => none

def HashCache.after (s : HashCache) (evidenceKind : HashCacheEvidenceKind) :
    Except String HashCacheWriteReport × Session (List HashCacheRow) → HashCache
  | (.error _, session) => { s with session }
  | (.ok report, session) => { session, accepted := s.accepted ++ report.acceptance evidenceKind }

def HashCache.persist (limits : HashCacheLimits) (s : HashCache) (call : PersistCall) : HashCache :=
  s.after call.record.evidenceKind (persistEvidence limits call.faults call.record s.session)

def hashCache (limits : HashCacheLimits) : System HashCache PersistCall where
  init s := s = {}
  step s call := some (s.persist limits call)

/-- The records of a state; `kept` says when the generations are to grow. -/
structure CacheState (limits : HashCacheLimits) (kept : Prop) (s : HashCache) : Prop where
  oneActive : ∀ row ∈ s.rows, ∀ other ∈ s.rows, row.active = true → other.active = true →
    row.cacheIdentityHash = other.cacheIdentityHash → row = other
  strongest : ∀ a ∈ s.accepted, ∃ row ∈ s.rows, row.active = true ∧
    row.cacheIdentityHash = a.cacheIdentityHash ∧
    evidenceStrength a.evidenceKind ≤ evidenceStrength row.record.evidenceKind
  stored : ∀ row ∈ s.rows, ∃ a ∈ s.accepted, a.cacheIdentityHash = row.cacheIdentityHash ∧
    a.evidenceHash = row.evidenceHash ∧ a.evidenceKind = row.record.evidenceKind
  generations : kept → s.accepted.Pairwise fun a b =>
    a.cacheIdentityHash = b.cacheIdentityHash → a.evidenceGeneration < b.evidenceGeneration
  activeRows : s.rows.countP (·.active) ≤ limits.maxActiveRows
  historyRows : ∀ identityHash, s.rows.countP (fun row =>
    row.cacheIdentityHash = identityHash && !row.active) ≤ limits.maxHistoryPerIdentity

/-- What is promised of the cache; `repeated` says when an evidence is a repeated one. -/
structure CachePromise (limits : HashCacheLimits) (repeated : HashCache → HashCacheRecord → Prop)
    (kept : Prop) (s : HashCache) : Prop extends CacheState limits kept s where
  promoted : ∀ call, ∀ row ∈ s.rows, row.active = true → ∃ row' ∈ (s.persist limits call).rows,
    row'.active = true ∧ row'.cacheIdentityHash = row.cacheIdentityHash ∧ (row' = row ∨
      evidenceStrength row.record.evidenceKind < evidenceStrength row'.record.evidenceKind)
  unchanged : ∀ call, repeated s call.record ∨
    (s.persist limits call).accepted = s.accepted → (s.persist limits call).rows = s.rows
  reused : ∀ entry record, loadReusableQuickSignature s.rows entry = .ok (some record) →
    (∃ row ∈ s.rows, row.active = true ∧ row.record = record) ∧ record.quickHash.isSome = true ∧
      record.readStartedFingerprintHash = some entry.identityFingerprintHash ∧
      record.readCompletedFingerprintHash = some entry.identityFingerprintHash

def EvidenceStored (s : HashCache) (record : HashCacheRecord) : Prop :=
  ∃ row ∈ s.rows, row.cacheIdentityHash = record.identity.identityHash ∧
    row.evidenceHash = record.evidenceHash

def EvidenceAccepted (s : HashCache) (record : HashCacheRecord) : Prop :=
  ∃ a ∈ s.accepted, a.cacheIdentityHash = record.identity.identityHash ∧
    a.evidenceHash = record.evidenceHash

end MediaSync.Duplicates
