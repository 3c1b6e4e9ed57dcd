import MediaSync.Jobs.Dispatch

/-! The table of receipts and the table of tombstones that terminal receipts are compacted into. -/
namespace MediaSync.Jobs
open Runs Text

inductive ReceiptRaised where
  /-- `CommandReceiptConflict`. -/
  | conflict (message : String)
  /-- `CommandReceiptTransitionViolation`. -/
  | transition (message : String)
  /-- `CommandReceiptReconciliationViolation`. -/
  | reconciliation (code : String)
  /-- `SqliteCommandReceiptStoreError`. -/
  | store (code : String)
  deriving DecidableEq

def ReceiptState.value : ReceiptState → String
  | .received => "RECEIVED"
  | .validated => "VALIDATED"
  | .effectPrepared => "EFFECT_PREPARED"
  | .accepted => "ACCEPTED"
  | .running => "RUNNING"
  | .succeeded => "SUCCEEDED"
  | .rejected => "REJECTED"
  | .failed => "FAILED"
  | .cancelled => "CANCELLED"

def terminalReceiptStates : List ReceiptState := [.succeeded, .rejected, .failed, .cancelled]

def earlyReceiptStates : List ReceiptState := [.received, .validated]

def pendingReceiptStates : List ReceiptState := [.effectPrepared, .accepted, .running]

/-- With the message of its `CommandReceiptConflict`. -/
def ensureIdempotencyCompatible (existing incoming : JobReceipt) : Except String JobReceipt :=
  let compared : List (String × Bool) :=
    [("client_instance_id",
        existing.identity.clientInstanceId = incoming.identity.clientInstanceId),
      ("principal_fingerprint",
        existing.identity.principalFingerprint = incoming.identity.principalFingerprint),
      ("command_name", existing.commandName = incoming.commandName),
      ("expected_entity_revision",
        existing.identity.expectedEntityRevision = incoming.identity.expectedEntityRevision),
      ("payload_hash_scope",
        existing.identity.payloadHashScope = incoming.identity.payloadHashScope),
      ("payload_canonicalization_algorithm",
        existing.identity.payloadCanonicalizationAlgorithm =
          incoming.identity.payloadCanonicalizationAlgorithm),
      ("payload_hash_algorithm",
        existing.identity.payloadHashAlgorithm = incoming.identity.payloadHashAlgorithm),
      ("payload_hash", existing.identity.payloadHash = incoming.identity.payloadHash),
      ("protocol_version", existing.identity.protocolVersion = incoming.identity.protocolVersion),
      ("schema_version", existing.identity.schemaVersion = incoming.identity.schemaVersion)]
  match compared.find? fun field => !field.2 with
  | some field => .error ("COMMAND_IDEMPOTENCY_CONFLICT:" ++ field.1)
  | none => .ok existing

def transitionReceipt (receipt : JobReceipt) (nextState : ReceiptState)
    (resultEntityType resultEntityId rejectionReason : Option String) :
    Except ReceiptRaised JobReceipt :=
  if receipt.state = nextState then .ok receipt
  else if !receipt.state.allowed.contains nextState then
    .error (.transition ("COMMAND_RECEIPT_TRANSITION_FORBIDDEN:" ++
      ReceiptState.value receipt.state ++ "->" ++ ReceiptState.value nextState))
  else
    .ok { receipt with
      state := nextState
      resultEntityType := resultEntityType.or receipt.resultEntityType
      resultEntityId := resultEntityId.or receipt.resultEntityId
      rejectionReason := rejectionReason.or receipt.rejectionReason }

structure ReceiptRow where
  receipt : JobReceipt
  createdUtc : String
  updatedUtc : String
  deriving DecidableEq

def ReceiptRow.key (row : ReceiptRow) : String := row.receipt.key

structure ReceiptTombstone where
  receipt : JobReceipt
  terminalEffectHash : String
  firstSeenUtc : String
  compactedUtc : String
  deriving DecidableEq

def ReceiptTombstone.key (tombstone : ReceiptTombstone) : String := tombstone.receipt.key

structure ReceiptReconciliationRequest where
  reconcilerInstanceId : String
  limit : Int
  deriving DecidableEq

structure ReceiptReconciliationReport where
  reconcilerInstanceId : String
  scanned : Nat
  rejectedIdempotencyKeys : List String
  pendingEffectReconciliationKeys : List String
  deriving DecidableEq

def receiptRejectedAfterStartupReconciliation : String :=
  "COMMAND_RECEIPT_REJECTED_AFTER_STARTUP_RECONCILIATION"

def validateReconciliationRequest (request : ReceiptReconciliationRequest) :
    Except ReceiptRaised Unit :=
  if !nonBlank request.reconcilerInstanceId then
    .error (.reconciliation "COMMAND_RECEIPT_RECONCILIATION_REQUIRES_RECONCILER")
  else if request.limit < 1 then
    .error (.reconciliation "COMMAND_RECEIPT_RECONCILIATION_LIMIT_MUST_BE_POSITIVE")
  else if request.limit > 1000 then
    .error (.reconciliation "COMMAND_RECEIPT_RECONCILIATION_LIMIT_TOO_LARGE")
  else .ok ()

def optionalText : Option String → Json
  | some text => .str text
  | none => .null

def terminalEffectHash (receipt : JobReceipt) : String :=
  Sha256.hexdigest (Json.dump (.obj
    [("command_name", .str receipt.commandName),
      ("idempotency_key", .str receipt.idempotencyKey),
      ("rejection_reason", optionalText receipt.rejectionReason),
      ("result_entity_id", optionalText receipt.resultEntityId),
      ("result_entity_type", optionalText receipt.resultEntityType),
      ("terminal_state", .str (ReceiptState.value receipt.state))]))

structure ReceiptStore where
  receipts : List ReceiptRow := []
  tombstones : List ReceiptTombstone := []

namespace ReceiptStore

variable (s : ReceiptStore)

def loadActive (idempotencyKey : String) : Option JobReceipt :=
  (Table.lookup ReceiptRow.key s.receipts idempotencyKey).map ReceiptRow.receipt

def loadTombstone (idempotencyKey : String) : Option JobReceipt :=
  (Table.lookup ReceiptTombstone.key s.tombstones idempotencyKey).map ReceiptTombstone.receipt

def load (idempotencyKey : String) : Option JobReceipt :=
  (s.loadActive idempotencyKey).or (s.loadTombstone idempotencyKey)

/-- At the time `now`. -/
def recordReceived (receipt : JobReceipt) (now : String) :
    Except ReceiptRaised (ReceiptStore × JobReceipt) :=
  match s.load receipt.key with
  | some existing =>
    match ensureIdempotencyCompatible existing receipt with
    | .ok found => .ok (s, found)
    | .error message => .error (.conflict message)
  | none =>
    .ok ({ s with receipts := Table.insert s.receipts ⟨receipt, now, now⟩ }, receipt)

def updateReceipt (receipt : JobReceipt) (now : String) : Except ReceiptRaised ReceiptStore :=
  let named := fun row : ReceiptRow => decide (row.key = receipt.key)
  if Table.rowcount s.receipts named ≠ 1 then .error (.store "COMMAND_RECEIPT_NOT_FOUND")
  else
    .ok { s with
      receipts := Table.updateWhere s.receipts named fun row =>
        { row with receipt := receipt, updatedUtc := now } }

/-- `compact_terminal_command_receipt`; `referenced` is whether a run refers to the receipt, which
restricts its deletion. -/
def compact (idempotencyKey : String) (referenced : Bool) (now : String) :
    Except ReceiptRaised (ReceiptStore × JobReceipt) :=
  match Table.lookup ReceiptRow.key s.receipts idempotencyKey with
  | none =>
    match s.loadTombstone idempotencyKey with
    | none => .error (.store "COMMAND_RECEIPT_NOT_FOUND")
    | some compacted => .ok (s, compacted)
  | some row =>
    if row.receipt.state ∉ terminalReceiptStates then
      .error (.store "COMMAND_RECEIPT_COMPACTION_REQUIRES_TERMINAL")
    else if row.receipt.identity.payloadHash.length ≠ 64 ∨
        (s.loadTombstone idempotencyKey).isSome ∨ referenced then
      .error (.store "COMMAND_RECEIPT_COMPACTION_FAILED")
    else if Table.rowcount s.receipts (fun row => decide (row.key = idempotencyKey)) ≠ 1 then
      .error (.store "COMMAND_RECEIPT_COMPACTION_DELETE_FAILED")
    else
      .ok ({
        receipts := s.receipts.filter fun row => row.key ≠ idempotencyKey
        tombstones := Table.insert s.tombstones
          ⟨row.receipt, terminalEffectHash row.receipt, row.createdUtc, now⟩ }, row.receipt)

/-- `ORDER BY updated_utc, idempotency_key`. -/
def updatedBefore (a b : ReceiptRow) : Bool :=
  a.updatedUtc < b.updatedUtc || (a.updatedUtc = b.updatedUtc && a.key ≤ b.key)

def reconcilable (limit : Int) : List ReceiptRow :=
  ((s.receipts.filter fun row => (earlyReceiptStates ++ pendingReceiptStates).contains
    row.receipt.state).insertionSort fun a b => updatedBefore a b = true).take limit.toNat

def rejectRow (now : String) (row : ReceiptRow) : ReceiptRow :=
  { row with
    receipt := { row.receipt with
      state := .rejected
      rejectionReason := some receiptRejectedAfterStartupReconciliation }
    updatedUtc := now }

/-- The loop of `reconcile_non_terminal_after_startup`. -/
def reconcileRows (now : String) :
    List ReceiptRow → ReceiptStore → List String → List String →
      Except ReceiptRaised (ReceiptStore × List String × List String)
  | [], s, rejected, pending => .ok (s, rejected, pending)
  | row :: rest, s, rejected, pending =>
    if row.receipt.state ∈ earlyReceiptStates then
      let named := fun other : ReceiptRow =>
        decide (other.key = row.key) && decide (other.receipt.state = row.receipt.state)
      if Table.rowcount s.receipts named ≠ 1 then
        .error (.store "COMMAND_RECEIPT_RECONCILIATION_STATE_CONFLICT")
      else
        reconcileRows now rest
          { s with receipts := Table.updateWhere s.receipts named (rejectRow now) }
          (rejected ++ [row.key]) pending
    else if row.receipt.state ∈ pendingReceiptStates then
      reconcileRows now rest s rejected (pending ++ [row.key])
    else .error (.store "COMMAND_RECEIPT_RECONCILIATION_STATE_UNSUPPORTED")

/-- `reconcile_non_terminal_after_startup`. -/
def reconcile (request : ReceiptReconciliationRequest) (now : String) :
    Except ReceiptRaised (ReceiptStore × ReceiptReconciliationReport) := do
  validateReconciliationRequest request
  let rows := s.reconcilable request.limit
  let (after, rejected, pending) ← reconcileRows now rows s [] []
  return (after, {
    reconcilerInstanceId := request.reconcilerInstanceId
    scanned := rows.length
    rejectedIdempotencyKeys := rejected
    pendingEffectReconciliationKeys := pending })

end ReceiptStore

inductive ReceiptOp where
  | receive (receipt : JobReceipt) (now : String)
  | update (receipt : JobReceipt) (now : String)
  | reconcile (request : ReceiptReconciliationRequest) (now : String)
  | compact (idempotencyKey : String) (referenced : Bool) (now : String)

/-- How `record_received` answers an incoming receipt. -/
inductive ReceiptAnswer where
  | fresh
  | replay
  | conflict (message : String)
  deriving DecidableEq

namespace ReceiptStore

def apply (s : ReceiptStore) : ReceiptOp → Except ReceiptRaised ReceiptStore
  | .receive receipt now => (s.recordReceived receipt now).map Prod.fst
  | .update receipt now => s.updateReceipt receipt now
  | .reconcile request now => (s.reconcile request now).map Prod.fst
  | .compact idempotencyKey referenced now =>
    (s.compact idempotencyKey referenced now).map Prod.fst

def step (s : ReceiptStore) (op : ReceiptOp) : ReceiptStore :=
  match s.apply op with
  | .ok after => after
  | .error _ => s

def run (ops : List ReceiptOp) : ReceiptStore := ops.foldl step {}

def classify (s : ReceiptStore) (incoming : JobReceipt) : ReceiptAnswer :=
  match s.load incoming.key with
  | none => .fresh
  | some existing =>
    match ensureIdempotencyCompatible existing incoming with
    | .ok _ => .replay
    | .error message => .conflict message

variable {s : ReceiptStore} {receipt : JobReceipt} {now : String}

theorem lookup_changed {rows : List ReceiptRow} {named : ReceiptRow → Bool}
    {f : ReceiptRow → ReceiptRow} (hf : ∀ row, named row = true → (f row).key = row.key)
    (idempotencyKey : String) :
    Table.lookup ReceiptRow.key (Table.updateWhere rows named f) idempotencyKey =
      (Table.lookup ReceiptRow.key rows idempotencyKey).map fun row =>
        if named row then f row else row := by
  have hsame : Table.updateWhere rows named f =
      Table.updateWhere rows named fun row => if named row then f row else row := by
    refine List.map_congr_left fun row _ => ?_
    by_cases hnamed : named row = true <;> simp [hnamed]
  rw [hsame, Table.lookup_updateWhere]
  · congr 1
    funext row
    by_cases hnamed : named row = true <;> simp [hnamed]
  · intro row
    by_cases hnamed : named row = true
    · simp [hnamed, hf row hnamed]
    · simp [hnamed]

variable {after : ReceiptStore} {answer : JobReceipt}

theorem load_recordReceived (h : s.recordReceived receipt now = .ok (after, answer))
    (idempotencyKey : String) : after.load idempotencyKey =
      if s.load receipt.key = none ∧ receipt.key = idempotencyKey then some receipt
      else s.load idempotencyKey := by
  unfold recordReceived at h
  cases hload : s.load receipt.key with
  | some existing =>
    rw [hload] at h
    dsimp only at h
    split at h
    · cases h
      simp
    · cases h
  | none =>
    rw [hload] at h
    cases h
    have hactive : s.loadActive receipt.key = none := (Option.or_eq_none_iff.mp hload).1
    have hfresh : Table.lookup ReceiptRow.key s.receipts
        (ReceiptRow.key ⟨receipt, now, now⟩) = none := Option.map_eq_none_iff.mp hactive
    by_cases hkey : receipt.key = idempotencyKey
    · subst hkey
      have hself := Table.lookup_insert_self hfresh
      have hfound : loadActive { s with
          receipts := Table.insert s.receipts ⟨receipt, now, now⟩ } receipt.key =
            some receipt := congrArg (Option.map ReceiptRow.receipt) hself
      rw [load, hfound]
      simp
    · have hother := @Table.lookup_insert_other _ _ _ ReceiptRow.key s.receipts
        ⟨receipt, now, now⟩ _ hkey
      have hactive' : loadActive { s with
          receipts := Table.insert s.receipts ⟨receipt, now, now⟩ } idempotencyKey =
            s.loadActive idempotencyKey := congrArg (Option.map ReceiptRow.receipt) hother
      rw [load, hactive', if_neg fun h => hkey h.2]
      rfl

theorem load_updateReceipt (h : s.updateReceipt receipt now = .ok after) :
    (∃ stored, s.load receipt.key = some stored) ∧ ∀ idempotencyKey,
      after.load idempotencyKey =
        if receipt.key = idempotencyKey then some receipt else s.load idempotencyKey := by
  unfold updateReceipt at h
  dsimp only at h
  split at h
  · cases h
  · rename_i hcount
    cases h
    obtain ⟨row, hrow⟩ : ∃ row, Table.lookup ReceiptRow.key s.receipts receipt.key = some row := by
      cases hlookup : Table.lookup ReceiptRow.key s.receipts receipt.key with
      | some row => exact ⟨row, rfl⟩
      | none =>
        have hnone := Table.lookup_none_iff.mp hlookup
        have hzero : Table.rowcount s.receipts
            (fun row => decide (row.key = receipt.key)) = 0 :=
          List.countP_eq_zero.mpr fun row hmem => by simp [hnone row hmem]
        exact absurd (not_not.mp hcount) (by rw [hzero]; decide)
    refine ⟨⟨row.receipt, ?_⟩, fun idempotencyKey => ?_⟩
    · rw [load, loadActive, hrow]
      rfl
    · have hlookup := @lookup_changed s.receipts
        (fun row => decide (row.key = receipt.key))
        (fun row => { row with receipt := receipt, updatedUtc := now })
        (fun row hnamed => (of_decide_eq_true hnamed).symm) idempotencyKey
      rw [load, loadActive, hlookup]
      by_cases hkey : receipt.key = idempotencyKey
      · subst hkey
        have hrowKey : row.key = receipt.key := Table.lookup_key hrow
        simp [hrow, hrowKey]
      · rw [if_neg hkey, load, loadActive]
        cases hfound : Table.lookup ReceiptRow.key s.receipts idempotencyKey with
        | none => rfl
        | some other =>
          have hother : other.key ≠ receipt.key := fun heq =>
            hkey (heq.symm.trans (Table.lookup_key hfound))
          simp [hother]

variable {idempotencyKey : String}

theorem load_compact {referenced : Bool}
    (h : s.compact idempotencyKey referenced now = .ok (after, answer)) (other : String) :
    after.load other = s.load other := by
  unfold compact at h
  cases hlookup : Table.lookup ReceiptRow.key s.receipts idempotencyKey with
  | none =>
    rw [hlookup] at h
    dsimp only at h
    split at h
    · cases h
    · cases h
      rfl
  | some row =>
    rw [hlookup] at h
    dsimp only at h
    split_ifs at h with hterminal hfails hcount
    cases h
    have hrowKey : row.key = idempotencyKey := Table.lookup_key hlookup
    have hnone : s.loadTombstone idempotencyKey = none := by
      have hnot := (not_or.mp (not_or.mp hfails).2).1
      simpa using hnot
    have hfresh : Table.lookup ReceiptTombstone.key s.tombstones
        (ReceiptTombstone.key ⟨row.receipt, terminalEffectHash row.receipt, row.createdUtc, now⟩) =
          none := by
      have hkey : ReceiptTombstone.key
          ⟨row.receipt, terminalEffectHash row.receipt, row.createdUtc, now⟩ = idempotencyKey :=
        hrowKey
      rw [hkey]
      exact Option.map_eq_none_iff.mp hnone
    by_cases hother : other = idempotencyKey
    · subst hother
      have hactive : Table.lookup ReceiptRow.key
          (s.receipts.filter fun row => row.key ≠ other) other = none := by
        rw [Table.lookup_none_iff]
        intro row' hrow'
        simpa using (List.mem_filter.mp hrow').2
      have hself := Table.lookup_insert_self hfresh
      have hkey : ReceiptTombstone.key
          ⟨row.receipt, terminalEffectHash row.receipt, row.createdUtc, now⟩ = other := hrowKey
      rw [hkey] at hself
      simp only [load, loadActive, loadTombstone, hactive, hself, hlookup]
      rfl
    · have hactive : Table.lookup ReceiptRow.key
          (s.receipts.filter fun row => row.key ≠ idempotencyKey) other =
            Table.lookup ReceiptRow.key s.receipts other := by
        refine Table.lookup_filter_of_imp fun row' hrow' => ?_
        simpa [hrow'] using hother
      have htombstone := @Table.lookup_insert_other _ _ _ ReceiptTombstone.key s.tombstones
        ⟨row.receipt, terminalEffectHash row.receipt, row.createdUtc, now⟩
        other (fun heq => hother (heq.symm.trans hrowKey))
      simp only [load, loadActive, loadTombstone, hactive, htombstone]

def rejectedEarly (receipt : JobReceipt) : JobReceipt :=
  { receipt with
    state := .rejected
    rejectionReason := some receiptRejectedAfterStartupReconciliation }

def Reconciled (before after : Option JobReceipt) : Prop :=
  after = before ∨
    ∃ receipt, before = some receipt ∧ receipt.state ∈ earlyReceiptStates ∧
      after = some (rejectedEarly receipt)

theorem Reconciled.trans {a b c : Option JobReceipt} (h : Reconciled a b) (h' : Reconciled b c) :
    Reconciled a c := by
  rcases h with rfl | ⟨receipt, rfl, hearly, rfl⟩
  · exact h'
  · rcases h' with rfl | ⟨other, hother, hstate, -⟩
    · exact .inr ⟨receipt, rfl, hearly, rfl⟩
    · -- a rejected receipt is not early
      cases hother
      simp [rejectedEarly, earlyReceiptStates] at hstate

theorem load_reconcileRows (rows : List ReceiptRow) {s after : ReceiptStore}
    {rejected pending rejected' pending' : List String}
    (h : reconcileRows now rows s rejected pending = .ok (after, rejected', pending'))
    (idempotencyKey : String) : Reconciled (s.load idempotencyKey) (after.load idempotencyKey) := by
  induction rows generalizing s rejected pending with
  | nil =>
    cases h
    exact .inl rfl
  | cons row rest ih =>
    rw [reconcileRows] at h
    dsimp only at h
    split_ifs at h with hearly hcount hpending
    · refine Reconciled.trans ?_ (ih h)
      have hlookup := @lookup_changed s.receipts
        (fun other => decide (other.key = row.key) &&
          decide (other.receipt.state = row.receipt.state))
        (rejectRow now) (fun other _ => rfl) idempotencyKey
      simp only [load, loadActive, hlookup]
      cases hfound : Table.lookup ReceiptRow.key s.receipts idempotencyKey with
      | none => exact .inl rfl
      | some other =>
        by_cases hnamed : (decide (other.key = row.key) &&
            decide (other.receipt.state = row.receipt.state)) = true
        · rw [Bool.and_eq_true, decide_eq_true_eq, decide_eq_true_eq] at hnamed
          refine .inr ⟨other.receipt, rfl, hnamed.2 ▸ hearly, ?_⟩
          simp only [Option.map_some, hnamed, decide_true, Bool.and_true, if_true]
          rfl
        · rw [Bool.and_eq_true, decide_eq_true_eq, decide_eq_true_eq] at hnamed
          refine .inl ?_
          simp [hnamed]
    · exact ih h

theorem load_reconcile {request : ReceiptReconciliationRequest}
    {report : ReceiptReconciliationReport} (h : s.reconcile request now = .ok (after, report))
    (idempotencyKey : String) : Reconciled (s.load idempotencyKey) (after.load idempotencyKey) := by
  unfold reconcile at h
  obtain ⟨_, -, h⟩ := except_bind_ok h
  obtain ⟨⟨reached, rejected, pending⟩, hloop, h⟩ := except_bind_ok h
  cases h
  exact load_reconcileRows _ hloop idempotencyKey

theorem load_step (s : ReceiptStore) (op : ReceiptOp) (idempotencyKey : String) :
    (s.step op).load idempotencyKey = s.load idempotencyKey ∨
    (∃ receipt now, op = .receive receipt now ∧ receipt.key = idempotencyKey ∧
      s.load idempotencyKey = none ∧ (s.step op).load idempotencyKey = some receipt) ∨
    (∃ receipt now stored, op = .update receipt now ∧ receipt.key = idempotencyKey ∧
      s.load idempotencyKey = some stored ∧ (s.step op).load idempotencyKey = some receipt) ∨
    (∃ request now receipt, op = .reconcile request now ∧
      s.load idempotencyKey = some receipt ∧ receipt.state ∈ earlyReceiptStates ∧
      (s.step op).load idempotencyKey = some (rejectedEarly receipt)) := by
  unfold step
  cases happly : s.apply op with
  | error raised => exact .inl rfl
  | ok after =>
    dsimp only
    cases op with
    | receive receipt now =>
      obtain ⟨⟨reached, answer⟩, hrecord, rfl⟩ := except_map_ok happly
      have hload := load_recordReceived hrecord idempotencyKey
      split at hload
      · rename_i hfresh
        obtain ⟨hnone, rfl⟩ := hfresh
        exact .inr (.inl ⟨receipt, now, rfl, rfl, hnone, hload⟩)
      · exact .inl hload
    | update receipt now =>
      obtain ⟨⟨stored, hstored⟩, hloads⟩ := load_updateReceipt happly
      have hload := hloads idempotencyKey
      split at hload
      · rename_i hkey
        subst hkey
        exact .inr (.inr (.inl ⟨receipt, now, stored, rfl, rfl, hstored, hload⟩))
      · exact .inl hload
    | reconcile request now =>
      obtain ⟨⟨reached, report⟩, hreconcile, rfl⟩ := except_map_ok happly
      rcases load_reconcile hreconcile idempotencyKey with
        hsame | ⟨receipt, hbefore, hearly, hafter⟩
      · exact .inl hsame
      · exact .inr (.inr (.inr ⟨request, now, receipt, rfl, hbefore, hearly, hafter⟩))
    | compact key referenced now =>
      obtain ⟨⟨reached, answer⟩, hcompact, rfl⟩ := except_map_ok happly
      exact .inl (load_compact hcompact idempotencyKey)

/-- What `ensure_idempotency_compatible` compares. -/
def compared (receipt : JobReceipt) : String × EnvelopeIdentity :=
  (receipt.commandName, receipt.identity)

theorem ensureIdempotencyCompatible_congr {existing existing' incoming : JobReceipt}
    (h : compared existing = compared existing') :
    (ensureIdempotencyCompatible existing incoming).map (fun _ => ()) =
      (ensureIdempotencyCompatible existing' incoming).map fun _ => () := by
  obtain ⟨hname, hidentity⟩ := Prod.mk.inj h
  unfold ensureIdempotencyCompatible
  rw [hname, hidentity]
  dsimp only
  split <;> rfl

theorem classify_congr {s s' : ReceiptStore} {incoming : JobReceipt}
    (h : (s.load incoming.key).map compared = (s'.load incoming.key).map compared) :
    s.classify incoming = s'.classify incoming := by
  unfold classify
  cases hload : s.load incoming.key with
  | none =>
    rw [hload, Option.map_none, eq_comm, Option.map_eq_none_iff] at h
    rw [h]
  | some existing =>
    rw [hload, Option.map_some, eq_comm, Option.map_eq_some_iff] at h
    obtain ⟨existing', hload', hcompared⟩ := h
    have hsame := @ensureIdempotencyCompatible_congr _ _ incoming hcompared
    rw [hload']
    dsimp only
    cases hfirst : ensureIdempotencyCompatible existing incoming with
    | ok found =>
      cases hsecond : ensureIdempotencyCompatible existing' incoming with
      | ok found' => rfl
      | error message => rw [hfirst, hsecond] at hsame; cases hsame
    | error message =>
      cases hsecond : ensureIdempotencyCompatible existing' incoming with
      | ok found' => rw [hfirst, hsecond] at hsame; cases hsame
      | error message' =>
        rw [hfirst, hsecond] at hsame
        cases hsame
        rfl

def KeepsCompared (s : ReceiptStore) : ReceiptOp → Prop
  | .update receipt _ => ∀ stored, s.load receipt.key = some stored →
    compared stored = compared receipt
  | _ => True

/-- The callers update a receipt to what `transition_command_receipt` makes of the stored one. -/
def FromStored (s : ReceiptStore) : ReceiptOp → Prop
  | .update receipt _ => ∀ stored, s.load receipt.key = some stored →
    ∃ nextState resultEntityType resultEntityId rejectionReason,
      transitionReceipt stored nextState resultEntityType resultEntityId rejectionReason =
        .ok receipt
  | _ => True

/-- Every operation meets `ok` in the state that it finds. -/
def Along (ok : ReceiptStore → ReceiptOp → Prop) : ReceiptStore → List ReceiptOp → Prop
  | _, [] => True
  | s, op :: ops => ok s op ∧ Along ok (s.step op) ops

theorem compared_step {s : ReceiptStore} {op : ReceiptOp} (hkeeps : KeepsCompared s op)
    (idempotencyKey : String) :
    ((s.step op).load idempotencyKey).map compared = (s.load idempotencyKey).map compared ∨
    ∃ receipt now, op = .receive receipt now ∧ receipt.key = idempotencyKey ∧
      s.load idempotencyKey = none ∧
      ((s.step op).load idempotencyKey).map compared = some (compared receipt) := by
  rcases load_step s op idempotencyKey with
    hsame | ⟨receipt, now, hop, hkey, hnone, hafter⟩ |
      ⟨receipt, now, stored, rfl, rfl, hstored, hafter⟩ |
      ⟨request, now, receipt, rfl, hbefore, -, hafter⟩
  · exact .inl (by rw [hsame])
  · exact .inr ⟨receipt, now, hop, hkey, hnone, by rw [hafter]; rfl⟩
  · refine .inl ?_
    rw [hafter, hstored, Option.map_some, Option.map_some, hkeeps stored hstored]
  · refine .inl ?_
    rw [hafter, hbefore]
    rfl

def isCompaction : ReceiptOp → Bool
  | .compact .. => true
  | _ => false

theorem load_receive (h : s.load receipt.key = none) :
    (s.step (.receive receipt now)).load receipt.key = some receipt := by
  have hrecord : s.recordReceived receipt now = .ok
      ({ s with receipts := Table.insert s.receipts ⟨receipt, now, now⟩ }, receipt) := by
    simp only [recordReceived, h]
  have hstep : s.step (.receive receipt now) =
      { s with receipts := Table.insert s.receipts ⟨receipt, now, now⟩ } := by
    simp only [step, apply, hrecord]
    rfl
  rw [hstep, load_recordReceived hrecord, if_pos ⟨h, rfl⟩]

theorem compared_foldl (ops : List ReceiptOp) {s s' : ReceiptStore}
    (hkeeps : Along KeepsCompared s ops)
    (hsame : ∀ idempotencyKey,
      (s.load idempotencyKey).map compared = (s'.load idempotencyKey).map compared)
    (idempotencyKey : String) :
    ((ops.foldl step s).load idempotencyKey).map compared =
      (((ops.filter fun op => !isCompaction op).foldl step s').load idempotencyKey).map
        compared := by
  induction ops generalizing s s' with
  | nil => exact hsame idempotencyKey
  | cons op ops ih =>
    have hkeeps' : KeepsCompared s' op := by
      cases op with
      | update receipt now =>
        intro stored hstored
        have hcompared := hsame receipt.key
        rw [hstored, Option.map_some, Option.map_eq_some_iff] at hcompared
        obtain ⟨other, hother, heq⟩ := hcompared
        exact heq.symm.trans (hkeeps.1 other hother)
      | receive receipt now => trivial
      | reconcile request now => trivial
      | compact key referenced now => trivial
    rw [List.foldl_cons]
    by_cases hcompaction : isCompaction op = true
    · rw [List.filter_cons_of_neg (by simp [hcompaction])]
      refine ih hkeeps.2 fun key => ?_
      rw [← hsame key]
      rcases compared_step hkeeps.1 key with hafter | ⟨receipt, now, rfl, -, -, -⟩
      · exact hafter
      · cases hcompaction
    · rw [List.filter_cons_of_pos (by simp [hcompaction]), List.foldl_cons]
      refine ih hkeeps.2 fun key => ?_
      have hnone : s.load key = none ↔ s'.load key = none := by
        rw [← Option.map_eq_none_iff (f := compared), hsame key, Option.map_eq_none_iff]
      -- both stores take the receipt as new, or neither does
      rcases compared_step hkeeps.1 key with
        hafter | ⟨receipt, now, hop, hkey, hload, hafter⟩
      · rcases compared_step hkeeps' key with
          hafter' | ⟨receipt, now, hop, hkey, hload', hafter'⟩
        · rw [hafter, hafter', hsame key]
        · have hload := hnone.mpr hload'
          subst hop hkey
          rw [load_receive hload, hafter']
          rfl
      · have hload' := hnone.mp hload
        subst hop hkey
        rw [load_receive hload', hafter]
        rfl

variable {state : ReceiptState}

theorem allowed_of_terminal (h : state ∈ terminalReceiptStates) : state.allowed = [] := by
  revert h
  cases state <;> decide

theorem not_early_of_terminal (h : state ∈ terminalReceiptStates) : state ∉ earlyReceiptStates := by
  revert h
  cases state <;> decide

theorem not_early_of_allowed {state nextState : ReceiptState} (h : state ∉ earlyReceiptStates)
    (hallowed : state.allowed.contains nextState = true) : nextState ∉ earlyReceiptStates := by
  revert h hallowed
  cases state <;> cases nextState <;> decide

variable {nextState : ReceiptState}
  {resultEntityType resultEntityId rejectionReason : Option String}

theorem transitionReceipt_terminal {receipt after : JobReceipt}
    (hterminal : receipt.state ∈ terminalReceiptStates)
    (h : transitionReceipt receipt nextState resultEntityType resultEntityId rejectionReason =
      .ok after) : after = receipt := by
  unfold transitionReceipt at h
  split at h
  · cases h
    rfl
  · rw [allowed_of_terminal hterminal] at h
    cases h

theorem transitionReceipt_started {receipt after : JobReceipt}
    (hstarted : receipt.state ∉ earlyReceiptStates)
    (h : transitionReceipt receipt nextState resultEntityType resultEntityId rejectionReason =
      .ok after) : after.state ∉ earlyReceiptStates := by
  unfold transitionReceipt at h
  split at h
  · cases h
    exact hstarted
  · split at h
    · cases h
    · rename_i hallowed
      cases h
      exact not_early_of_allowed hstarted (by simpa using hallowed)

theorem terminal_foldl (ops : List ReceiptOp) {s : ReceiptStore} (hops : Along FromStored s ops)
    {receipt : JobReceipt} (hload : s.load idempotencyKey = some receipt)
    (hterminal : receipt.state ∈ terminalReceiptStates) :
    (ops.foldl step s).load idempotencyKey = some receipt := by
  induction ops generalizing s with
  | nil => exact hload
  | cons op ops ih =>
    refine ih hops.2 ?_
    rcases load_step s op idempotencyKey with
      hsame | ⟨incoming, now, -, -, hnone, -⟩ | ⟨updated, now, stored, rfl, rfl, hstored, hafter⟩ |
        ⟨request, now, early, -, hbefore, hearly, -⟩
    · exact hsame.trans hload
    · rw [hnone] at hload
      cases hload
    · obtain rfl : stored = receipt := Option.some.inj (hstored.symm.trans hload)
      obtain ⟨nextState, entityType, entityId, reason, htransition⟩ := hops.1 stored hstored
      rw [hafter, transitionReceipt_terminal hterminal htransition]
    · obtain rfl : early = receipt := Option.some.inj (hbefore.symm.trans hload)
      exact absurd hearly (not_early_of_terminal hterminal)

theorem started_foldl (ops : List ReceiptOp) {s : ReceiptStore} (hops : Along FromStored s ops)
    {receipt : JobReceipt} (hload : s.load idempotencyKey = some receipt)
    (hstarted : receipt.state ∉ earlyReceiptStates) :
    ∃ later, (ops.foldl step s).load idempotencyKey = some later ∧
      later.state ∉ earlyReceiptStates := by
  induction ops generalizing s receipt with
  | nil => exact ⟨receipt, hload, hstarted⟩
  | cons op ops ih =>
    rcases load_step s op idempotencyKey with
      hsame | ⟨incoming, now, -, -, hnone, -⟩ | ⟨updated, now, stored, rfl, rfl, hstored, hafter⟩ |
        ⟨request, now, early, -, hbefore, hearly, -⟩
    · exact ih hops.2 (hsame.trans hload) hstarted
    · rw [hnone] at hload
      cases hload
    · obtain rfl : stored = receipt := Option.some.inj (hstored.symm.trans hload)
      obtain ⟨nextState, entityType, entityId, reason, htransition⟩ := hops.1 stored hstored
      exact ih hops.2 hafter (transitionReceipt_started hstarted htransition)
    · obtain rfl : early = receipt := Option.some.inj (hbefore.symm.trans hload)
      exact absurd hearly hstarted

theorem transitionReceipt_compared {receipt after : JobReceipt}
    (h : transitionReceipt receipt nextState resultEntityType resultEntityId rejectionReason =
      .ok after) : compared receipt = compared after := by
  unfold transitionReceipt at h
  split at h
  · cases h
    rfl
  · split at h
    · cases h
    · cases h
      rfl

theorem FromStored.keepsCompared {op : ReceiptOp} (h : FromStored s op) : KeepsCompared s op := by
  cases op with
  | update receipt now =>
    intro stored hstored
    obtain ⟨nextState, entityType, entityId, reason, htransition⟩ := h stored hstored
    exact transitionReceipt_compared htransition
  | receive receipt now => trivial
  | reconcile request now => trivial
  | compact key referenced now => trivial

theorem fromStored_of_load {stored : JobReceipt} (hload : s.load receipt.key = some stored)
    (h : transitionReceipt stored nextState resultEntityType resultEntityId rejectionReason =
      .ok receipt) : FromStored s (.update receipt now) := by
  intro other hother
  obtain rfl := Option.some.inj (hload.symm.trans hother)
  exact ⟨_, _, _, _, h⟩

theorem along_mono {ok ok' : ReceiptStore → ReceiptOp → Prop}
    (hmono : ∀ s op, ok s op → ok' s op) {ops : List ReceiptOp} (h : Along ok s ops) :
    Along ok' s ops := by
  induction ops generalizing s with
  | nil => trivial
  | cons op ops ih => exact ⟨hmono s op h.1, ih h.2⟩

theorem along_append {ok : ReceiptStore → ReceiptOp → Prop} (earlier later : List ReceiptOp)
    {s : ReceiptStore} (h : Along ok s (earlier ++ later)) :
    Along ok s earlier ∧ Along ok (earlier.foldl step s) later := by
  induction earlier generalizing s with
  | nil => exact ⟨trivial, h⟩
  | cons op earlier ih =>
    obtain ⟨hfirst, hrest⟩ := ih h.2
    exact ⟨⟨h.1, hfirst⟩, hrest⟩

/-- Any sequence of operations. An incoming receipt is answered as if nothing had been compacted, if
updates keep what receipts are compared in. -/
theorem receipts_compact_transparently (earlier later : List ReceiptOp) :
    (Along KeepsCompared {} (earlier ++ later) → ∀ incoming,
      (run (earlier ++ later)).classify incoming =
        (run ((earlier ++ later).filter fun op => !isCompaction op)).classify incoming) ∧
    (Along FromStored {} (earlier ++ later) → ∀ idempotencyKey receipt,
      (run earlier).load idempotencyKey = some receipt →
      (receipt.state ∈ terminalReceiptStates →
        (run (earlier ++ later)).load idempotencyKey = some receipt) ∧
      (receipt.state ∉ earlyReceiptStates → ∀ request now,
        ((run (earlier ++ later)).step (.reconcile request now)).load idempotencyKey =
          (run (earlier ++ later)).load idempotencyKey)) ∧
    ∀ request now idempotencyKey, Reconciled ((run (earlier ++ later)).load idempotencyKey)
      (((run (earlier ++ later)).step (.reconcile request now)).load idempotencyKey) := by
  have hreconciled : ∀ request now idempotencyKey,
      Reconciled ((run (earlier ++ later)).load idempotencyKey)
        (((run (earlier ++ later)).step (.reconcile request now)).load idempotencyKey) := by
    intro request now idempotencyKey
    rcases load_step (run (earlier ++ later)) (.reconcile request now) idempotencyKey with
      hsame | ⟨_, _, hop, -⟩ | ⟨_, _, _, hop, -⟩ |
        ⟨_, _, receipt, -, hbefore, hearly, hafter⟩
    · exact .inl hsame
    · cases hop
    · cases hop
    · exact .inr ⟨receipt, hbefore, hearly, hafter⟩
  refine ⟨fun hkeeps incoming => ?_, fun hstored idempotencyKey receipt hload => ?_, hreconciled⟩
  · exact classify_congr (compared_foldl _ hkeeps (fun _ => rfl) incoming.key)
  · obtain ⟨-, hlater⟩ := along_append earlier later hstored
    have hrun : run (earlier ++ later) = later.foldl step (run earlier) := List.foldl_append
    refine ⟨fun hterminal => ?_, fun hstarted request now => ?_⟩
    · rw [hrun]
      exact terminal_foldl later hlater hload hterminal
    · obtain ⟨last, hlast, hnotEarly⟩ := started_foldl later hlater hload hstarted
      have hlast' : (run (earlier ++ later)).load idempotencyKey = some last := hrun ▸ hlast
      rcases hreconciled request now idempotencyKey with hsame | ⟨early, hbefore, hearly, -⟩
      · exact hsame
      · obtain rfl : early = last := Option.some.inj (hbefore.symm.trans hlast')
        exact absurd hearly hnotEarly

def sampleReceipt : JobReceipt where
  idempotencyKey := "key-1"
  requestId := "request-1"
  commandName := "START_RUN"
  state := .received
  resultEntityType := none
  resultEntityId := none
  identity :=
    { clientInstanceId := "client-1"
      principalFingerprint := "principal-1"
      payloadHash := "00"
      protocolVersion := 1
      schemaVersion := 1 }

def succeedingWith (receipt : JobReceipt) : List ReceiptOp :=
  [.receive receipt "t0", .update { receipt with state := .validated } "t1",
    .update { receipt with state := .effectPrepared } "t2",
    .update { receipt with state := .accepted } "t3",
    .update { receipt with state := .succeeded } "t4"]

/-- With a payload hash that the table of tombstones takes. -/
def hashedReceipt : JobReceipt :=
  { sampleReceipt with
    identity := { sampleReceipt.identity with
      payloadHash := String.ofList (List.replicate 64 '0') } }

def compactingAndReplaying : List ReceiptOp :=
  [.compact "key-1" false "t5", .receive hashedReceipt "t6"]

theorem fromStored_succeeding :
    Along FromStored {} (succeedingWith hashedReceipt ++ compactingAndReplaying) := by
  have hstep : ∀ (s : ReceiptStore) stored nextState receipt now,
      s.load receipt.key = some stored ∧ transitionReceipt stored nextState none none none =
        .ok receipt → FromStored s (.update receipt now) :=
    fun s stored nextState receipt now h => fromStored_of_load h.1 h.2
  refine ⟨trivial, hstep _ hashedReceipt .validated _ _ ?_,
    hstep _ { hashedReceipt with state := .validated } .effectPrepared _ _ ?_,
    hstep _ { hashedReceipt with state := .effectPrepared } .accepted _ _ ?_,
    hstep _ { hashedReceipt with state := .accepted } .succeeded _ _ ?_, trivial, trivial,
    trivial⟩
  · decide +kernel
  · decide +kernel
  · decide +kernel
  · decide +kernel

/-- The receipt is compacted into a tombstone and received once more. -/
theorem receipts_compact_transparently_replayed :
    let ops := succeedingWith hashedReceipt ++ compactingAndReplaying
    (run ops).receipts = [] ∧
      (∀ incoming, (run ops).classify incoming =
        (run (ops.filter fun op => !isCompaction op)).classify incoming) ∧
      (run ops).load "key-1" = some { hashedReceipt with state := .succeeded } := by
  have hgoverned := receipts_compact_transparently (succeedingWith hashedReceipt)
    compactingAndReplaying
  refine ⟨by decide +kernel,
    hgoverned.1 (along_mono (fun _ _ => FromStored.keepsCompared) fromStored_succeeding), ?_⟩
  exact (hgoverned.2.1 fromStored_succeeding "key-1" { hashedReceipt with state := .succeeded }
    (by decide +kernel)).1 (by decide)

def succeeding : List ReceiptOp := succeedingWith sampleReceipt

/-- An update that was made from the accepted receipt overwrites the outcome when it comes late. -/
theorem late_update_overwrites :
    transitionReceipt { sampleReceipt with state := .accepted } .failed none none none =
        .ok { sampleReceipt with state := .failed } ∧
      (run succeeding).load "key-1" = some { sampleReceipt with state := .succeeded } ∧
      (run (succeeding ++ [.update { sampleReceipt with state := .failed } "t5"])).load "key-1" =
        some { sampleReceipt with state := .failed } := by
  decide +kernel

end ReceiptStore

end MediaSync.Jobs
