import MediaSync.Foundation.JsonText
import MediaSync.Foundation.Sessions
import MediaSync.Foundation.Sha256
import MediaSync.Runs.StartSaga

/-! The SQLite stores that keep the handoff rows of both sides, with their exceptions, the checks of
their tables and their transactions. -/
namespace MediaSync.Runs.HandoffStore
open CrossStore Text

inductive HandoffRaised where
  /-- `CrossStoreHandoffError`, with its validation code. -/
  | crossStore (code : String)
  /-- `SqliteCrossStoreHandoffError`. -/
  | sqlite (code : String)
  deriving DecidableEq

inductive HandoffTable where
  | catalog
  | recovery
  deriving DecidableEq

abbrev StoredHandoff := CrossStoreHandoff String

def hashHandoffPayload (payloadJson : String) : String := Sha256.hexdigest payloadJson

def decodeHandoffPayload (evidence : HandoffEvidence String) :
    Except String (List (String × Json)) :=
  if hashHandoffPayload evidence.payload ≠ evidence.payloadHash then
    .error "CROSS_STORE_HANDOFF_PAYLOAD_HASH_MISMATCH"
  else
    match Json.loads evidence.payload with
    | some (.obj payload) => .ok payload
    | _ => .error "CROSS_STORE_HANDOFF_PAYLOAD_INVALID"

def evidenceMismatch (source peer : HandoffEvidence String) : Option String :=
  let columns : List (String × Bool) :=
    [("HANDOFF_ID", source.handoffId = peer.handoffId),
      ("HANDOFF_TYPE", source.handoffType = peer.handoffType),
      ("DIRECTION", source.direction = peer.direction),
      ("PAYLOAD_SCHEMA_VERSION", source.payloadSchemaVersion = peer.payloadSchemaVersion),
      ("ENTITY_TYPE", source.entityType = peer.entityType),
      ("ENTITY_ID", source.entityId = peer.entityId),
      ("PAYLOAD_JSON", source.payload = peer.payload),
      ("PAYLOAD_HASH", source.payloadHash = peer.payloadHash)]
  match columns.find? fun column => !column.2 with
  | some column => some ("CROSS_STORE_HANDOFF_" ++ column.1 ++ "_MISMATCH")
  | none =>
    match decodeHandoffPayload source >>= fun _ => decodeHandoffPayload peer with
    | .error code => some code
    | .ok _ => none

def pairedStates : HandoffState → HandoffState
  | .prepared => .peerCommitted
  | .peerCommitted => .sourceConfirmed
  | _ => .completed

/-- `length(trim(text)) > 0`. -/
def notOnlySpaces (text : String) : Bool := text.toList.any (· ≠ ' ')

section
variable (jsonValid : String → Bool) (table : HandoffTable)

/-- The constraints of a handoff table on a row that is inserted; `jsonValid` is SQLite's
`json_valid`. -/
def insertAccepted (rows : List StoredHandoff) (handoff : StoredHandoff) : Bool :=
  [handoff.evidence.handoffType, handoff.evidence.entityType, handoff.evidence.entityId].all
      notOnlySpaces &&
    ["CATALOG_TO_RECOVERY", "RECOVERY_TO_CATALOG"].contains handoff.evidence.direction &&
    1 ≤ handoff.evidence.payloadSchemaVersion && jsonValid handoff.evidence.payload &&
    isHash handoff.evidence.payloadHash &&
    handoff.expectedPeerState = pairedStates handoff.state &&
    (table = .catalog || handoff.evidence.handoffType ≠ "RUN_START" ||
      (handoff.evidence.entityType = "RUN" &&
        handoff.evidence.direction = "CATALOG_TO_RECOVERY")) &&
    rows.all fun row => row.id ≠ handoff.id &&
      (row.evidence.handoffType, row.evidence.entityType, row.evidence.entityId,
          row.evidence.payloadHash) ≠
        (handoff.evidence.handoffType, handoff.evidence.entityType, handoff.evidence.entityId,
          handoff.evidence.payloadHash)

/-- The checks of `record_handoff` before its transaction. -/
def checkRecord (handoff : StoredHandoff) : Except HandoffRaised Unit :=
  match decodeHandoffPayload handoff.evidence with
  | .error code => .error (.crossStore code)
  | .ok _ =>
    if handoff.state ∉ [HandoffState.prepared, .peerCommitted] then
      .error (.sqlite "HANDOFF_INSERT_STATE_INVALID")
    else .ok ()

/-- The statements of `record_handoff`. -/
def recordRows (handoff : StoredHandoff) :
    Procedure (List StoredHandoff) HandoffRaised StoredHandoff := fun rows =>
  match loadHandoff rows handoff.id with
  | some existing =>
    if (evidenceMismatch existing.evidence handoff.evidence).isSome then
      (.error (.sqlite "HANDOFF_IDEMPOTENCY_CONFLICT"), rows)
    else if existing.state ≠ handoff.state && !terminalHandoffStates.contains existing.state then
      (.error (.sqlite "HANDOFF_STATE_CONFLICT"), rows)
    else (.ok existing, rows)
  | none =>
    if insertAccepted jsonValid table rows handoff then (.ok handoff, Table.insert rows handoff)
    else (.error (.sqlite "HANDOFF_PERSISTENCE_FAILED"), rows)

end

def HandoffState.value : HandoffState → String
  | .prepared => "PREPARED"
  | .peerCommitted => "PEER_COMMITTED"
  | .sourceConfirmed => "SOURCE_CONFIRMED"
  | .completed => "COMPLETED"
  | .aborted => "ABORTED"
  | .ambiguous => "AMBIGUOUS"

def validateTransition (source target : HandoffState) : Except HandoffRaised Unit :=
  if (allowedTransition source).contains target then .ok ()
  else .error (.sqlite ("HANDOFF_TRANSITION_FORBIDDEN:" ++ HandoffState.value source ++ "->" ++
    HandoffState.value target))

/-- The statements of `transition_handoff`. -/
def transitionRows (handoffId : String) (expectedState nextState : HandoffState)
    (expectedPayloadHash : String) (lastErrorCode : Option String) :
    Procedure (List StoredHandoff) HandoffRaised (Option StoredHandoff) := fun rows =>
  match loadHandoff rows handoffId with
  | none => (.ok none, rows)
  | some current =>
    if current.evidence.payloadHash ≠ expectedPayloadHash then
      (.error (.sqlite "HANDOFF_PAYLOAD_HASH_CONFLICT"), rows)
    else if current.state = nextState then (.ok (some current), rows)
    else if current.state ≠ expectedState then (.ok none, rows)
    else
      let updated := { current with
        state := nextState, expectedPeerState := expectedPeerAfter nextState, lastErrorCode
        attemptCount := current.attemptCount + 1 }
      (.ok (some updated), Table.overwrite CrossStoreHandoff.id rows updated)

def caught : HandoffRaised → Bool
  | .sqlite _ => true
  | .crossStore _ => false

def guarded {State α : Type} (check : Except HandoffRaised Unit)
    (p : Procedure State HandoffRaised α) : Procedure State HandoffRaised α := fun s =>
  match check with
  | .error raised => (.error raised, s)
  | .ok () => p s

structure RowsIn (Db : Type) where
  get : Db → List StoredHandoff
  set : Db → List StoredHandoff → Db
  get_set : ∀ db rows, get (set db rows) = rows
  set_get : ∀ db, set db (get db) = db

structure RecoveryTables where
  handoffs : List StoredHandoff
  runs : List RecoveryRunBinding

def catalogRows : RowsIn (List StoredHandoff) where
  get rows := rows
  set _ rows := rows
  get_set _ _ := rfl
  set_get _ := rfl

def recoveryRows : RowsIn RecoveryTables where
  get tables := tables.handoffs
  set tables rows := { tables with handoffs := rows }
  get_set _ _ := rfl
  set_get _ := rfl

section
variable {Db : Type} (rowsIn : RowsIn Db) (jsonValid : String → Bool)

def method {α : Type} (check : Except HandoffRaised Unit)
    (p : Procedure (List StoredHandoff) HandoffRaised α) : Procedure (Session Db) HandoffRaised α :=
  guarded check (Session.immediate caught (Procedure.onState rowsIn.get rowsIn.set p))

def recordHandoff (table : HandoffTable) (handoff : StoredHandoff) :
    Procedure (Session Db) HandoffRaised StoredHandoff :=
  method rowsIn (checkRecord handoff) (recordRows jsonValid table handoff)

/-- Where nothing is returned nothing was written, and its ROLLBACK is taken for a COMMIT. -/
def transitionHandoff (handoffId : String) (expectedState nextState : HandoffState)
    (expectedPayloadHash : String) (lastErrorCode : Option String) :
    Procedure (Session Db) HandoffRaised (Option StoredHandoff) :=
  method rowsIn (validateTransition expectedState nextState)
    (transitionRows handoffId expectedState nextState expectedPayloadHash lastErrorCode)

def bindRun (binding : RecoveryRunBinding) :
    Procedure (List RecoveryRunBinding) HandoffRaised Unit := fun runs =>
  match Table.lookup RecoveryRunBinding.runId runs binding.runId with
  | none =>
    if binding.accepted && !runs.any fun row => row.startHandoffId = binding.startHandoffId then
      (.ok (), Table.insert runs binding)
    else (.error (.sqlite "RECOVERY_RUN_BINDING_FAILED"), runs)
  | some existing =>
    if existing ≠ binding then (.error (.sqlite "RECOVERY_RUN_BINDING_CONFLICT"), runs)
    else (.ok (), runs)

/-- The statements of `commit_run_start_peer`; `record_handoff` runs in their transaction. -/
def commitRows (binding : RecoveryRunBinding) (handoff : StoredHandoff) :
    Procedure RecoveryTables HandoffRaised StoredHandoff :=
  Procedure.onState RecoveryTables.runs (fun tables runs => { tables with runs })
      (bindRun binding) >>= fun _ =>
    Procedure.onState recoveryRows.get recoveryRows.set
      (guarded (checkRecord handoff) (recordRows jsonValid .recovery handoff))

def commitRunStartPeer (binding : RecoveryRunBinding) (handoff : StoredHandoff) :
    Procedure (Session RecoveryTables) HandoffRaised StoredHandoff :=
  Session.immediate caught (commitRows jsonValid binding handoff)

end

section
variable {jsonValid : String → Bool} {table : HandoffTable} {rows : List StoredHandoff}
  {handoff : StoredHandoff}

theorem evidenceMismatch_eq_none {source peer : HandoffEvidence String}
    (h : evidenceMismatch source peer = none) : source = peer := by
  obtain ⟨a, b, c, d, e, f, g, i⟩ := source
  obtain ⟨a', b', c', d', e', f', g', i'⟩ := peer
  unfold evidenceMismatch at h
  dsimp only at h
  split at h
  · cases h
  · rename_i hfind
    simp only [List.find?_eq_none, List.mem_cons, List.not_mem_nil, or_false,
      forall_eq_or_imp, forall_eq, Bool.not_eq_true', Bool.not_eq_false,
      decide_eq_true_eq] at hfind
    obtain ⟨rfl, rfl, rfl, rfl, rfl, rfl, rfl, rfl⟩ := hfind
    rfl

variable {evidence : HandoffEvidence String} {payload : List (String × Json)}

theorem evidenceMismatch_self (h : decodeHandoffPayload evidence = .ok payload) :
    evidenceMismatch evidence evidence = none := by
  unfold evidenceMismatch
  simp [h, bind, Except.bind]

theorem checkRecord_ok (h : checkRecord handoff = .ok ()) :
    (∃ payload, decodeHandoffPayload handoff.evidence = .ok payload) ∧
      handoff.state ∈ [HandoffState.prepared, .peerCommitted] := by
  unfold checkRecord at h
  split at h
  · cases h
  · rename_i payload hpayload
    split at h
    · cases h
    · rename_i hstate
      exact ⟨⟨payload, hpayload⟩, not_not.mp hstate⟩

theorem recordRows_cases (jsonValid : String → Bool) (table : HandoffTable)
    (handoff : StoredHandoff) (rows : List StoredHandoff) :
    (∃ code, recordRows jsonValid table handoff rows = (.error (.sqlite code), rows)) ∨
    (∃ existing, loadHandoff rows handoff.id = some existing ∧
      existing.evidence = handoff.evidence ∧
      (existing.state = handoff.state ∨ existing.state ∈ terminalHandoffStates) ∧
      recordRows jsonValid table handoff rows = (.ok existing, rows)) ∨
    (loadHandoff rows handoff.id = none ∧
      recordRows jsonValid table handoff rows = (.ok handoff, Table.insert rows handoff)) := by
  unfold recordRows
  cases hload : loadHandoff rows handoff.id with
  | some existing =>
    dsimp only
    split_ifs with hmismatch hstate
    · exact .inl ⟨_, rfl⟩
    · exact .inl ⟨_, rfl⟩
    · refine .inr (.inl ⟨existing, rfl, evidenceMismatch_eq_none (by simpa using hmismatch), ?_,
        rfl⟩)
      by_cases hsame : existing.state = handoff.state
      · exact .inl hsame
      · exact .inr (by simpa [hsame] using hstate)
  | none =>
    dsimp only
    split_ifs
    · exact .inr (.inr ⟨rfl, rfl⟩)
    · exact .inl ⟨_, rfl⟩

theorem transitionRows_cases (handoffId : String) (expectedState nextState : HandoffState)
    (expectedPayloadHash : String) (lastErrorCode : Option String) (rows : List StoredHandoff) :
    let run := transitionRows handoffId expectedState nextState expectedPayloadHash
      lastErrorCode rows
    (∃ code, run = (.error (.sqlite code), rows)) ∨ run = (.ok none, rows) ∨
    ∃ current, loadHandoff rows handoffId = some current ∧
      current.evidence.payloadHash = expectedPayloadHash ∧
      (current.state = nextState ∧ run = (.ok (some current), rows) ∨
        current.state = expectedState ∧ ∃ updated : StoredHandoff,
          updated.evidence = current.evidence ∧ updated.state = nextState ∧
          run = (.ok (some updated), Table.overwrite CrossStoreHandoff.id rows updated)) := by
  unfold transitionRows
  cases hload : loadHandoff rows handoffId with
  | none => exact .inr (.inl rfl)
  | some current =>
    dsimp only
    split_ifs with hhash hnext hexpected
    · exact .inl ⟨_, rfl⟩
    · exact .inr (.inr ⟨current, rfl, not_not.mp hhash, .inl ⟨hnext, rfl⟩⟩)
    · exact .inr (.inl rfl)
    · refine .inr (.inr ⟨current, rfl, not_not.mp hhash, .inr ⟨not_not.mp hexpected, ?_⟩⟩)
      exact ⟨{ current with
        state := nextState, expectedPeerState := expectedPeerAfter nextState, lastErrorCode
        attemptCount := current.attemptCount + 1 }, rfl, rfl, rfl⟩

variable {row : StoredHandoff}

/-- A row that is there with the evidence of the handoff is returned, unless the handoff has moved
on and is not closed. -/
theorem recordRows_again (hcheck : checkRecord handoff = .ok ())
    (hload : loadHandoff rows handoff.id = some row) (hevidence : row.evidence = handoff.evidence) :
    recordRows jsonValid table handoff rows =
      (if row.state = handoff.state ∨ row.state ∈ terminalHandoffStates then .ok row
        else .error (.sqlite "HANDOFF_STATE_CONFLICT"), rows) := by
  obtain ⟨⟨payload, hpayload⟩, -⟩ := checkRecord_ok hcheck
  unfold recordRows
  rw [hload]
  dsimp only
  rw [hevidence, evidenceMismatch_self hpayload, Option.isSome_none, if_neg Bool.false_ne_true]
  by_cases hsame : row.state = handoff.state
  · simp [hsame]
  · by_cases hterminal : row.state ∈ terminalHandoffStates <;> simp [hsame, hterminal]

theorem recordRows_conflict (hload : loadHandoff rows handoff.id = some row)
    (hevidence : row.evidence ≠ handoff.evidence) : recordRows jsonValid table handoff rows =
      (.error (.sqlite "HANDOFF_IDEMPOTENCY_CONFLICT"), rows) := by
  unfold recordRows
  rw [hload]
  dsimp only
  cases hmismatch : evidenceMismatch row.evidence handoff.evidence with
  | some code => rfl
  | none => exact absurd (evidenceMismatch_eq_none hmismatch) hevidence

theorem decodes_of_decodeHandoffPayload (h : decodeHandoffPayload evidence = .ok payload) :
    decodes hashHandoffPayload evidence = true := by
  unfold decodeHandoffPayload at h
  split at h
  · cases h
  · rename_i hhash
    exact decide_eq_true (not_not.mp hhash)

variable {rows' : List StoredHandoff} {recorded : StoredHandoff}

theorem recordRows_coarse (hcheck : checkRecord handoff = .ok ())
    (h : recordRows jsonValid table handoff rows = (.ok recorded, rows')) :
    CrossStore.recordHandoff hashHandoffPayload rows handoff = some (rows', recorded) := by
  obtain ⟨⟨payload, hpayload⟩, hstate⟩ := checkRecord_ok hcheck
  have hdecodes := decodes_of_decodeHandoffPayload hpayload
  unfold CrossStore.recordHandoff
  rw [if_neg (by simp [hdecodes, hstate])]
  rcases recordRows_cases jsonValid table handoff rows with
    ⟨code, hrun⟩ | ⟨existing, hload, hevidence, hsettled, hrun⟩ | ⟨hload, hrun⟩
  · rw [hrun] at h
    cases h
  · obtain ⟨rfl, rfl⟩ : existing = recorded ∧ rows = rows' := by
      simpa using hrun.symm.trans h
    have hmismatch : handoffEvidenceMismatch hashHandoffPayload existing.evidence
        handoff.evidence = none :=
      mismatch_none_iff.mpr ⟨hevidence, hevidence ▸ hdecodes⟩
    rw [hload]
    rcases hsettled with hsame | hterminal
    · simp [hmismatch, hsame]
    · simp [hmismatch, hterminal]
  · obtain ⟨rfl, rfl⟩ : handoff = recorded ∧ Table.insert rows handoff = rows' := by
      simpa using hrun.symm.trans h
    rw [hload]

theorem transitionRows_coarse {handoffId payloadHash : String} {expected next : HandoffState}
    {code : Option String} (hallowed : (allowedTransition expected).contains next = true)
    (h : transitionRows handoffId expected next payloadHash code rows =
      (.ok (some recorded), rows')) :
    CrossStore.transitionHandoff rows handoffId expected next payloadHash code =
      some (rows', recorded) := by
  unfold CrossStore.transitionHandoff
  unfold transitionRows at h
  rw [if_neg (by simpa using hallowed)]
  cases hload : loadHandoff rows handoffId with
  | none => simp [hload] at h
  | some current =>
    rw [hload] at h
    dsimp only at h ⊢
    split_ifs at h ⊢ with hhash hnext hexpected
    · cases h
    · cases h
      rfl
    · cases h
    · cases h
      rfl

end

end MediaSync.Runs.HandoffStore
