import MediaSync.Execution.Permit

/-! `reconcile_next_run_target_operation_audit`: the executor's cycle first checks that the attempts
and the outcome of every operation of the target are recorded in the catalog. -/
namespace MediaSync.Execution
open Text Recovery

inductive TransferState where
  | notStarted
  | transferred
  | failed
  | cancelled
  deriving DecidableEq

def normalized (value : Option String) : Option String :=
  (value.map fun text => upper (strip text)).filter (· ≠ "")

def canonicalTransferState (raw : Option String) (fallback : TransferState) : TransferState :=
  match normalized raw with
  | none => fallback
  | some "NOT_STARTED" => .notStarted
  | some "TRANSFERRED" => .transferred
  | some "FAILED" => .failed
  | some "CANCELLED" => .cancelled
  | some text =>
    if instr text "NOT_TRANSFERRED" then .failed
    else if instr text "TRANSFERRED" then .transferred
    else fallback

/-- The texts that `canonical_assurance_level` reads as a level other than `NONE`. -/
def assuredLevels : List String :=
  ["MANIFEST_VERIFIED", "METADATA_VERIFIED", "PRIMARY_STREAM_HASH_VERIFIED",
    "NAMED_STREAMS_VERIFIED", "FULL_OBJECT_VERIFIED", "FULL_HASH",
    "STAGING_HASH_MATCHES_POST_TRANSFER_SOURCE_HASH", "STAGING_DIRECTORY_MARKER_VERIFIED"]

/-- `canonical_assurance_level(raw) is not AssuranceLevel.NONE`. -/
def isAssured (raw : Option String) : Bool := (normalized raw).any assuredLevels.contains

def optionalText : Option Json → Option String
  | some (.str text) => if nonBlank text then some (strip text) else none
  | _ => none

def positiveInt : Option Json → Option Int
  | some (.int n) => if 1 ≤ n then some n else none
  | _ => none

def auditEvidence (payload : Payload) : Payload :=
  match Json.get payload "operation_audit" with
  | some (.obj fields) => fields
  | _ => []

def evidenceText (evidence : Payload) (key : String) (fallback : Option String) : Option String :=
  (optionalText (Json.get evidence key)).orElse fun _ => fallback

/-- `_outcome_state(phase) is OperationOutcomeState.SUCCEEDED`. -/
def succeededPhases : List Phase := [.catalogRecorded, .cleaned]

def terminalEvent (phase : Phase) (events : List RecoveryEvent) : Option RecoveryEvent :=
  let preferred := if phase = .cleaned then .catalogRecorded else phase
  events.reverse.find? fun event => event.toPhase = preferred

/-- `_operation_outcome(…) is not None`: the phase has an outcome state, the event that led to it
is there, and a success shows a transfer and an assurance. -/
def hasOutcome (operation : RecoveryOperation) (events : List RecoveryEvent) : Bool :=
  (operation.phase = .catalogRecorded || operation.phase.isTerminal) &&
    (terminalEvent operation.phase events).any fun event =>
      let evidence := auditEvidence event.payload
      !succeededPhases.contains operation.phase ||
        (canonicalTransferState (evidenceText evidence "transfer_state" operation.transferState)
            .notStarted = .transferred &&
          isAssured (evidenceText evidence "assurance_level" operation.assuranceLevel))

def failedAttemptCode (processes : List String) (event : RecoveryEvent) : Option String :=
  match Json.get event.payload "event_kind" with
  | some (.str "STAGING_ATTEMPT_FAILED") =>
    if (positiveInt (Json.get event.payload "attempt_number")).isNone then
      some "OPERATION_AUDIT_FAILURE_ATTEMPT_INVALID"
    else if processes.contains event.processInstanceId then none
    else some "OPERATION_AUDIT_RUN_ATTEMPT_MISSING"
  | _ => none

/-- Why `_operation_attempts` raises. -/
def attemptsCode (processes : List String) (events : List RecoveryEvent) : Option String :=
  (events.findSome? (failedAttemptCode processes)).orElse fun _ =>
    let verified := events.find? fun event =>
      event.fromPhase = some .stagingDurable && event.toPhase = .stagingVerified
    if verified.all fun event => processes.contains event.processInstanceId then none
    else some "OPERATION_AUDIT_RUN_ATTEMPT_MISSING"

/-- `reconcile_operation_audit` of the catalog: whether it wrote, or what it raises. -/
abbrev AuditStore := RecoveryOperation → List RecoveryEvent → Except String Bool

inductive AuditOutcome where
  | raised (code : String)
  | changed (operationId : String)
  | current (terminalOutcomesComplete : Bool)

section
variable {Dir : Type} (store : AuditStore) (t : Tables Dir)

/-- `list_operation_audit_events`, in the order of their sequence numbers. -/
def auditEvents (operation : RecoveryOperation) : List RecoveryEvent :=
  t.events.filter fun event => event.key = operation.key

/-- The process instances of `list_run_process_audit_evidence`. -/
def runProcesses (runId : String) : List String :=
  ((t.events.filter fun event => event.runId = runId).map
    RecoveryEvent.processInstanceId).dedup

def reconcileOperations (processes : List String) : List RecoveryOperation → Bool → AuditOutcome
  | [], complete => .current complete
  | operation :: rest, complete =>
    let events := auditEvents t operation
    if 128 < events.length then .raised "OPERATION_AUDIT_EVENT_LIMIT_REACHED"
    else
      match attemptsCode processes events, store operation events with
      | some code, _ => .raised code
      | none, .error code => .raised code
      | none, .ok true => .changed operation.operationId
      | none, .ok false =>
        reconcileOperations processes rest
          (complete && (!operation.phase.isTerminal || hasOutcome operation events))

def reconcileNextRunTargetOperationAudit (runId runTargetId : String) (maxOperations : Int) :
    AuditOutcome :=
  if !nonBlank runId || !nonBlank runTargetId then
    .raised "OPERATION_AUDIT_REQUIRES_TARGET_IDENTIFIERS"
  else if maxOperations < 1 then .raised "OPERATION_AUDIT_REQUIRES_POSITIVE_LIMIT"
  else if 10000 < maxOperations then .raised "OPERATION_AUDIT_LIMIT_TOO_LARGE"
  else
    let operations :=
      listOperationsForRunTarget t.operations runId runTargetId maxOperations.toNat
    if maxOperations ≤ operations.length then .raised "OPERATION_AUDIT_OPERATION_LIMIT_REACHED"
    else if 128 < (runProcesses t runId).length then
      .raised "OPERATION_AUDIT_PROCESS_LIMIT_REACHED"
    else reconcileOperations store t (runProcesses t runId) operations true

end

section
variable {Dir : Type} {store : AuditStore} {t : Tables Dir}

/-- The audit of the operation is recorded, with nothing left to write. -/
structure Audited (store : AuditStore) (t : Tables Dir) (processes : List String)
    (operation : RecoveryOperation) : Prop where
  events : (auditEvents t operation).length ≤ 128
  attempts : attemptsCode processes (auditEvents t operation) = none
  outcome : operation.phase.isTerminal = true →
    hasOutcome operation (auditEvents t operation) = true
  recorded : store operation (auditEvents t operation) = .ok false

/-- The audit has read all operations of the target, and each is audited. -/
structure AuditComplete (store : AuditStore) (t : Tables Dir) (runId runTargetId : String)
    (maxOperations : Int) : Prop where
  identifiers : nonBlank runId = true ∧ nonBlank runTargetId = true
  limit : 1 ≤ maxOperations ∧ maxOperations ≤ 10000
  operations : ((listOperationsForRunTarget t.operations runId runTargetId
    maxOperations.toNat).length : Int) < maxOperations
  processes : (runProcesses t runId).length ≤ 128
  audited : ∀ operation ∈ listOperationsForRunTarget t.operations runId runTargetId
    maxOperations.toNat, Audited store t (runProcesses t runId) operation

theorem reconcileOperations_complete_iff {processes : List String}
    {operations : List RecoveryOperation} {complete : Bool} :
    reconcileOperations store t processes operations complete = .current true ↔
      complete = true ∧ ∀ operation ∈ operations, Audited store t processes operation := by
  induction operations generalizing complete with
  | nil => simp [reconcileOperations]
  | cons operation rest ih =>
    unfold reconcileOperations
    dsimp only
    rw [List.forall_mem_cons]
    by_cases hevents : 128 < (auditEvents t operation).length
    · rw [if_pos hevents]
      have hno : ¬ Audited store t processes operation := fun h => absurd h.events (by omega)
      simp [hno]
    · rw [if_neg hevents]
      split
      · rename_i code hcode
        have hno : ¬ Audited store t processes operation := fun h => by simp [h.attempts] at hcode
        simp [hno]
      · rename_i hstore
        have hno : ¬ Audited store t processes operation := fun h => by simp [h.recorded] at hstore
        simp [hno]
      · rename_i hstore
        have hno : ¬ Audited store t processes operation := fun h => by simp [h.recorded] at hstore
        simp [hno]
      · rename_i hattempts hstore
        rw [ih, Bool.and_eq_true, Bool.or_eq_true, Bool.not_eq_true', and_assoc]
        have hlength : (auditEvents t operation).length ≤ 128 := by omega
        have haudited : Audited store t processes operation ↔
            (operation.phase.isTerminal = false ∨
              hasOutcome operation (auditEvents t operation) = true) := by
          constructor
          · intro h
            cases hterminal : operation.phase.isTerminal with
            | false => exact .inl rfl
            | true => exact .inr (h.outcome hterminal)
          · intro h
            refine ⟨hlength, hattempts, fun hterminal => h.resolve_left ?_, hstore⟩
            simp [hterminal]
        rw [haudited]

theorem reconcile_complete_iff {runId runTargetId : String} {maxOperations : Int} :
    reconcileNextRunTargetOperationAudit store t runId runTargetId maxOperations =
        .current true ↔
      AuditComplete store t runId runTargetId maxOperations := by
  unfold reconcileNextRunTargetOperationAudit
  by_cases hids : (!nonBlank runId || !nonBlank runTargetId) = true
  · rw [if_pos hids]
    refine ⟨fun h => (nomatch h), fun h => ?_⟩
    simp [h.identifiers.1, h.identifiers.2] at hids
  rw [if_neg hids]
  by_cases hlow : maxOperations < 1
  · rw [if_pos hlow]
    exact ⟨fun h => (nomatch h), fun h => absurd h.limit.1 (by omega)⟩
  rw [if_neg hlow]
  by_cases hhigh : 10000 < maxOperations
  · rw [if_pos hhigh]
    exact ⟨fun h => (nomatch h), fun h => absurd h.limit.2 (by omega)⟩
  rw [if_neg hhigh]
  dsimp only
  by_cases hmany : maxOperations ≤ (listOperationsForRunTarget t.operations runId runTargetId
      maxOperations.toNat).length
  · rw [if_pos hmany]
    exact ⟨fun h => (nomatch h), fun h => absurd h.operations (by omega)⟩
  rw [if_neg hmany]
  by_cases hprocesses : 128 < (runProcesses t runId).length
  · rw [if_pos hprocesses]
    exact ⟨fun h => (nomatch h), fun h => absurd h.processes (by omega)⟩
  rw [if_neg hprocesses, reconcileOperations_complete_iff]
  have hids' : nonBlank runId = true ∧ nonBlank runTargetId = true := by
    simpa using hids
  constructor
  · rintro ⟨-, haudited⟩
    exact ⟨hids', ⟨by omega, by omega⟩, by omega, by omega, haudited⟩
  · exact fun h => ⟨rfl, h.audited⟩

end

end MediaSync.Execution
