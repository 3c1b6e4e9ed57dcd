import MediaSync.Execution.Permit
import MediaSync.Recovery.StagingRetry

/-! `execute_next_run_target_staging_step`: it picks the next operation that waits for staging, asks
the staging port for its phase, and records the transition or the failed attempt. -/
namespace MediaSync.Execution
open Text Recovery Runs

/-- A `RuntimeError`, by the attributes that `_error_code` and `_error_next_action` read. -/
structure StagingError where
  validationCode : Option String := none
  nextAction : Option String := none
  message : String := ""
  typeName : String := "RuntimeError"

inductive PortRaised where
  | endpointWaitRequired (reasonCode nextAction : String)
  | runtimeError (error : StagingError)
  /-- An exception that the step does not catch. -/
  | uncaught (message : String)

structure SourceValidationEvidence where
  fingerprintJson : String
  hashEvidenceKind : String

structure SourceStabilityEvidence where
  guardKind : String
  guardEvidenceHash : String

structure StagingVerificationEvidence where
  fingerprintJson : String
  finalFingerprintJson : String
  assuranceLevel : String

/-- `RunTargetStagingPort`; evidence of one field is given by that field. -/
structure StagingPort where
  validateSourceFile : RecoveryOperation → Except PortRaised SourceValidationEvidence
  bindSourceStability : RecoveryOperation → Except PortRaised SourceStabilityEvidence
  validateTargetPrecondition : MutationPermit → RecoveryOperation → Except PortRaised String
  allocateStagingObject : RecoveryOperation → Except PortRaised String
  transferToStaging : RecoveryOperation → Except PortRaised String
  transferBatchToStaging :
    Option (RecoveryOperation → List RecoveryOperation → Except PortRaised String)
  ensureStagingDurable : RecoveryOperation → Except PortRaised String
  verifyStagingArtifact : RecoveryOperation → Except PortRaised StagingVerificationEvidence

structure StagingOutcome where
  idle : Bool
  advanced : Bool
  runId : String
  runTargetId : String
  operationId : Option String
  phase : Option Phase
  validationCodes : List String
  nextAction : String
  endpointWaitReasonCode : Option String := none
  retryDeferred : Bool := false
  retryAttempt : Option Int := none
  retryBackoffMs : Option Int := none
  retryNotBeforeUtc : Option String := none

def stagingExecutionPhases : List Phase :=
  [.planned, .sourceValidated, .sourceStabilityBound, .targetPreconditionValidated,
    .stagingAllocated, .transferred, .stagingDurable]

def maxStagingTransferBatchOperations : Nat := 256

def maxStagingAttempts : Int := 3

def retryableStagingFailureCodes : List String :=
  ["LOCAL_STAGING_ALLOCATION_FAILED", "LOCAL_STAGING_DURABILITY_FAILED",
    "LOCAL_STAGING_SOURCE_FILE_UNREADABLE", "LOCAL_STAGING_TARGET_DIRECTORY_EMPTY_READ_FAILED",
    "LOCAL_STAGING_TRANSFER_FAILED", "LOCAL_STAGING_VERIFICATION_FAILED",
    "ROBOCOPY_PROCESS_WAIT_FAILED", "ROBOCOPY_TRANSFER_FAILED", "ROBOCOPY_TRANSFER_TIMED_OUT"]

/-- `min(candidates, key=lambda candidate: candidate.plan_sequence_no)`. -/
def firstPlanned (candidates : List RecoveryOperation) : Option RecoveryOperation :=
  firstBy (fun a b => decide (a.planSequenceNo ≤ b.planSequenceNo)) candidates

def nextStagingOperation (operations : List RecoveryOperation) (permit : MutationPermit) :
    Option RecoveryOperation :=
  let listed := fun phase =>
    listOperationsForRunTargetInPhase operations permit.runId permit.runTargetId phase
      (if phase = .stagingAllocated then maxStagingTransferBatchOperations else 1)
  let candidates := stagingExecutionPhases.filterMap fun phase => (listed phase).head?
  match firstPlanned candidates with
  | none => none
  | some head =>
    if head.phase ≠ .stagingAllocated ∨ head.operationKind ≠ .copyNew ∨
        maxStagingTransferBatchOperations ≤ (listed .stagingAllocated).length then
      some head
    else
      let preparatory := candidates.filter fun candidate =>
        stagingExecutionPhases.idxOf candidate.phase <
          stagingExecutionPhases.idxOf Phase.stagingAllocated
      match firstPlanned preparatory with
      | none => some head
      | some next => if next.operationKind ≠ .copyNew then some head else some next

def operationMatchesPermit (operation : RecoveryOperation) (permit : MutationPermit) : Bool :=
  operation.phase ∈ stagingExecutionPhases && staticBinding operation permit &&
    sameLease operation permit

abbrev PhaseWork := Phase × RecoveryOperationMetadata × Payload

/-- The transfer of `_execute_phase`: in a batch where the port has one and there is one. -/
def transferEvidence (operation : RecoveryOperation) (port : StagingPort)
    (transferCandidates : List RecoveryOperation) : Except PortRaised String :=
  match port.transferBatchToStaging with
  | some batchTransfer =>
    if transferCandidates.isEmpty then port.transferToStaging operation
    else batchTransfer operation transferCandidates
  | none => port.transferToStaging operation

def executePhase (permit : MutationPermit) (operation : RecoveryOperation) (port : StagingPort)
    (transferCandidates : List RecoveryOperation) : Except PortRaised PhaseWork :=
  match operation.phase with
  | .planned => do
    let evidence ← port.validateSourceFile operation
    return (.sourceValidated,
      { expectedSourceFingerprintJson := some evidence.fingerprintJson
        sourceHashEvidenceKind := some evidence.hashEvidenceKind },
      [("source_hash_evidence_kind", .str evidence.hashEvidenceKind),
        ("source_fingerprint_json", .str evidence.fingerprintJson)])
  | .sourceValidated => do
    let evidence ← port.bindSourceStability operation
    return (.sourceStabilityBound,
      { sourceGuardKind := some evidence.guardKind
        sourceGuardEvidenceHash := some evidence.guardEvidenceHash },
      [("source_guard_kind", .str evidence.guardKind),
        ("source_guard_evidence_hash", .str evidence.guardEvidenceHash)])
  | .sourceStabilityBound => do
    let fingerprintJson ← port.validateTargetPrecondition permit operation
    return (.targetPreconditionValidated,
      { expectedTargetFingerprintJson := some fingerprintJson },
      [("target_precondition_fingerprint_json", .str fingerprintJson)])
  | .targetPreconditionValidated => do
    let stagingObjectId ← port.allocateStagingObject operation
    return (.stagingAllocated, { stagingObjectId := some stagingObjectId },
      [("staging_object_id", .str stagingObjectId)])
  | .stagingAllocated => do
    let transferState ← transferEvidence operation port transferCandidates
    return (.transferred, { transferState := some transferState },
      [("transfer_state", .str transferState)])
  | .transferred => do
    let durabilityState ← port.ensureStagingDurable operation
    return (.stagingDurable, { stagingDurabilityState := some durabilityState },
      [("staging_durability_state", .str durabilityState)])
  | .stagingDurable => do
    let evidence ← port.verifyStagingArtifact operation
    return (.stagingVerified,
      { expectedStagingFingerprintJson := some evidence.fingerprintJson
        expectedFinalFingerprintJson := some evidence.finalFingerprintJson
        assuranceLevel := some evidence.assuranceLevel },
      [("assurance_level", .str evidence.assuranceLevel),
        ("staging_fingerprint_json", .str evidence.fingerprintJson)])
  | _ => .error (.runtimeError { message := "RUN_TARGET_STAGING_PHASE_UNSUPPORTED" })

def StagingError.code (error : StagingError) : String :=
  match error.validationCode.filter nonBlank with
  | some code => code
  | none => if nonBlank error.message then error.message else error.typeName

def StagingError.nextActionOr (error : StagingError) (fallback : String) : String :=
  (error.nextAction.filter nonBlank).getD fallback

def failedStaging (permit : MutationPermit) (operationId : Option String) (phase : Option Phase)
    (validationCode nextAction : String) : StagingOutcome where
  idle := false
  advanced := false
  runId := permit.runId
  runTargetId := permit.runTargetId
  operationId := operationId
  phase := phase
  validationCodes := [validationCode]
  nextAction := nextAction

structure StagingClock where
  head : ClockReading
  candidate : RecoveryOperation → ClockReading
  failure : ClockReading

inductive StagingRaised where
  | store (raised : Raised)
  | port (message : String)

section
variable (py : PythonLibrary) (calendar : RetryCalendar) {Dir : Type}
  (dirs : Option (DirectoryRecoveryStore Dir))

def dueCandidates (reading : RecoveryOperation → ClockReading) :
    List RecoveryOperation → Deadlines → Except Raised (List RecoveryOperation) × Deadlines
  | [], deadlines => (.ok [], deadlines)
  | candidate :: rest, deadlines =>
    match stagingRetryIsDue py calendar candidate (reading candidate) deadlines with
    | .error raised => (.error raised, deadlines)
    | .ok (due, deadlines) =>
      match dueCandidates reading rest deadlines with
      | (.error raised, deadlines) => (.error raised, deadlines)
      | (.ok others, deadlines) => (.ok (if due then candidate :: others else others), deadlines)

inductive StagingAttempt where
  | ended (result : Except StagingRaised StagingOutcome) (deadlines : Deadlines)
  | answered (operation : RecoveryOperation) (answer : Except PortRaised PhaseWork)
      (deadlines : Deadlines)

def stagingAttempt (permit : MutationPermit) (port : StagingPort) (processInstanceId : String)
    (clock : StagingClock) (store : StagingStore Dir) : StagingAttempt :=
  if !nonBlank processInstanceId then
    .ended (.ok (failedStaging permit none none "RUN_TARGET_STAGING_REQUIRES_PROCESS_INSTANCE"
      "Bind staging execution to the Engine Host process instance.")) store.deadlines
  else
    match nextStagingOperation store.connection.current.operations permit with
    | none => .ended (.ok {
        idle := true
        advanced := false
        runId := permit.runId
        runTargetId := permit.runTargetId
        operationId := none
        phase := none
        validationCodes := []
        nextAction := "No run-target operation is waiting for staging." }) store.deadlines
    | some operation =>
      if !operationMatchesPermit operation permit then
        .ended (.ok (failedStaging permit operation.operationId operation.phase
          "RUN_TARGET_STAGING_PERMIT_MISMATCH"
          "Reacquire the endpoint lease before staging this operation.")) store.deadlines
      else
        match stagingRetryIsDue py calendar operation clock.head store.deadlines with
        | .error raised => .ended (.error (.store raised)) store.deadlines
        | .ok (false, deadlines) => .ended (.ok {
            idle := true
            advanced := false
            runId := permit.runId
            runTargetId := permit.runTargetId
            operationId := operation.operationId
            phase := operation.phase
            validationCodes := []
            nextAction := "Staging retry is scheduled after " ++
              operation.stagingRetryNotBeforeUtc.getD "None" ++ "."
            retryDeferred := true
            retryAttempt := some (operation.stagingFailureCount + 1)
            retryBackoffMs := operation.stagingRetryBackoffMs
            retryNotBeforeUtc := operation.stagingRetryNotBeforeUtc }) deadlines
        | .ok (true, deadlines) =>
          if operation.phase = .stagingAllocated then
            match dueCandidates py calendar clock.candidate
              (listOperationsForRunTargetInPhase store.connection.current.operations permit.runId
                permit.runTargetId .stagingAllocated maxStagingTransferBatchOperations)
              deadlines with
            | (.error raised, deadlines) => .ended (.error (.store raised)) deadlines
            | (.ok transferCandidates, deadlines) =>
              .answered operation (executePhase permit operation port transferCandidates) deadlines
          else .answered operation (executePhase permit operation port []) deadlines

def failureArgs (operation : RecoveryOperation) (code processInstanceId : String) :
    StagingFailureArgs where
  runId := operation.runId
  operationId := operation.operationId
  expectedPhase := operation.phase
  expectedFailureCount := operation.stagingFailureCount
  nextPhase :=
    if maxStagingAttempts ≤ operation.stagingFailureCount + 1 then .skipped else operation.phase
  errorCode := code
  processInstanceId := processInstanceId
  payload := some [("staging_phase", .str operation.phase.value)]

def advanceArgs (operation : RecoveryOperation) (work : PhaseWork) (processInstanceId : String) :
    TransitionArgs where
  runId := operation.runId
  operationId := operation.operationId
  expectedPhase := operation.phase
  nextPhase := work.1
  processInstanceId := processInstanceId
  payload := some work.2.2
  operationMetadata := some work.2.1

def failedAttempt (permit : MutationPermit) (operation updated : RecoveryOperation) :
    StagingOutcome :=
  let attemptNumber := operation.stagingFailureCount + 1
  let exhausted := maxStagingAttempts ≤ attemptNumber
  { idle := false
    advanced := true
    runId := permit.runId
    runTargetId := permit.runTargetId
    operationId := operation.operationId
    phase := updated.phase
    validationCodes := []
    nextAction :=
      if exhausted then
        "Skipped file after " ++ toString attemptNumber ++ " failed staging attempts."
      else
        "Staging attempt " ++ toString attemptNumber ++ " failed; retry scheduled after " ++
          updated.stagingRetryNotBeforeUtc.getD "None" ++ "."
    retryAttempt := if exhausted then none else some (attemptNumber + 1)
    retryBackoffMs := updated.stagingRetryBackoffMs
    retryNotBeforeUtc := updated.stagingRetryNotBeforeUtc }

def settleAttempt (permit : MutationPermit) (processInstanceId : String) (clock : StagingClock)
    (operation : RecoveryOperation) (answer : Except PortRaised PhaseWork)
    (store : StagingStore Dir) : Except StagingRaised StagingOutcome × StagingStore Dir :=
  match answer with
  | .error (.uncaught message) => (.error (.port message), store)
  | .error (.endpointWaitRequired reasonCode nextAction) => (.ok {
      idle := false
      advanced := false
      runId := permit.runId
      runTargetId := permit.runTargetId
      operationId := operation.operationId
      phase := operation.phase
      validationCodes := []
      nextAction
      endpointWaitReasonCode := reasonCode }, store)
  | .error (.runtimeError error) =>
    if error.code ∈ retryableStagingFailureCodes then
      match recordStagingFailure py calendar dirs
        (failureArgs operation error.code processInstanceId) clock.failure store with
      | (.error raised, store) => (.error (.store raised), store)
      | (.ok none, store) => (.ok (failedStaging permit operation.operationId operation.phase
          "RUN_TARGET_STAGING_FAILURE_RECORD_CONFLICT"
          "Reload recovery state before retrying staging execution."), store)
      | (.ok (some updated), store) => (.ok (failedAttempt permit operation updated), store)
    else (.ok (failedStaging permit operation.operationId operation.phase error.code
      (error.nextActionOr "Reload staging state and retry this operation.")), store)
  | .ok work =>
    match recordTransition py dirs (advanceArgs operation work processInstanceId) store with
    | (.error raised, store) => (.error (.store raised), store)
    | (.ok none, store) => (.ok (failedStaging permit operation.operationId operation.phase
        "RUN_TARGET_STAGING_PHASE_CONFLICT"
        "Reload recovery state before retrying staging execution."), store)
    | (.ok (some updated), store) => (.ok {
        idle := false
        advanced := true
        runId := permit.runId
        runTargetId := permit.runTargetId
        operationId := operation.operationId
        phase := updated.phase
        validationCodes := []
        nextAction := "Operation advanced to " ++ updated.phase.value ++ "." }, store)

def executeNextRunTargetStagingStep (permit : MutationPermit) (port : StagingPort)
    (processInstanceId : String) (clock : StagingClock) (store : StagingStore Dir) :
    Except StagingRaised StagingOutcome × StagingStore Dir :=
  match stagingAttempt py calendar permit port processInstanceId clock store with
  | .ended result deadlines => (result, { store with deadlines })
  | .answered operation answer deadlines =>
    settleAttempt py calendar dirs permit processInstanceId clock operation answer
      { store with deadlines }

end

theorem firstBy_mem {Row : Type} {le : Row → Row → Bool} {rows : List Row} {row : Row}
    (h : firstBy le rows = some row) : row ∈ rows := by
  induction rows generalizing row with
  | nil => cases h
  | cons first rest ih =>
    rw [firstBy] at h
    cases hbest : firstBy le rest with
    | none =>
      rw [hbest] at h
      cases h
      exact List.mem_cons_self
    | some best =>
      rw [hbest] at h
      dsimp only at h
      split at h
      · cases h
        exact List.mem_cons_self
      · cases h
        exact List.mem_cons_of_mem _ (ih hbest)

variable {operation : RecoveryOperation}

theorem firstPlanned_mem {candidates : List RecoveryOperation}
    (h : firstPlanned candidates = some operation) : operation ∈ candidates :=
  firstBy_mem h

variable {permit : MutationPermit}

theorem nextStagingOperation_mem {operations : List RecoveryOperation}
    (h : nextStagingOperation operations permit = some operation) : operation ∈ operations := by
  unfold nextStagingOperation at h
  extract_lets listed candidates at h
  have hcandidates : ∀ candidate ∈ candidates, candidate ∈ operations := by
    intro candidate hmem
    obtain ⟨phase, -, hhead⟩ := List.mem_filterMap.mp hmem
    exact (mem_inPhase (List.mem_of_mem_head? hhead)).1
  cases hfirst : firstPlanned candidates with
  | none =>
    rw [hfirst] at h
    cases h
  | some head =>
    have hhead := hcandidates head (firstPlanned_mem hfirst)
    rw [hfirst] at h
    dsimp only at h
    split at h
    · cases h
      exact hhead
    · split at h
      · cases h
        exact hhead
      · rename_i next hnext
        have hnext := hcandidates next (List.mem_of_mem_filter (firstPlanned_mem hnext))
        split at h <;> cases h
        · exact hhead
        · exact hnext

theorem executePhase_next {port : StagingPort} {transferCandidates : List RecoveryOperation}
    {work : PhaseWork} (h : executePhase permit operation port transferCandidates = .ok work) :
    work.1 ∈ Phase.successTransitions operation.phase ∧ work.1 ≠ .skipped ∧
      work.1 ≠ .catalogRecorded := by
  unfold executePhase at h
  split at h <;> rename_i hphase
  all_goals first
    | obtain ⟨_, -, h⟩ := except_bind_ok h
      cases h
      rw [hphase]
      exact ⟨List.mem_singleton_self _, nofun, nofun⟩
    | cases h

section
variable {py : PythonLibrary} {calendar : RetryCalendar} {Dir : Type}
  {permit : MutationPermit} {port : StagingPort} {processInstanceId : String}
  {clock : StagingClock} {store : StagingStore Dir}

theorem stagingAttempt_answered {operation : RecoveryOperation}
    {answer : Except PortRaised PhaseWork} {deadlines : Deadlines}
    (h : stagingAttempt py calendar permit port processInstanceId clock store =
      .answered operation answer deadlines) :
    operation ∈ store.connection.current.operations ∧
      operation.phase ∈ stagingExecutionPhases ∧
      ∃ transferCandidates, answer = executePhase permit operation port transferCandidates := by
  unfold stagingAttempt at h
  split at h
  · cases h
  · split at h
    · cases h
    · rename_i picked hpicked
      split at h
      · cases h
      · rename_i hmatches
        have hphase : picked.phase ∈ stagingExecutionPhases := by
          simp only [operationMatchesPermit, Bool.not_eq_true', Bool.not_eq_false,
            Bool.and_eq_true, decide_eq_true_eq] at hmatches
          exact hmatches.1.1
        split at h
        · cases h
        · cases h
        · split at h
          · split at h
            · cases h
            · cases h
              exact ⟨nextStagingOperation_mem hpicked, hphase, _, rfl⟩
          · cases h
            exact ⟨nextStagingOperation_mem hpicked, hphase, _, rfl⟩

end

end MediaSync.Execution
