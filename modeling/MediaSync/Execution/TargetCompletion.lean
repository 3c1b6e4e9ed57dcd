import Mathlib.Algebra.Order.BigOperators.Group.List
import Mathlib.Algebra.Order.Ring.Int
import MediaSync.Execution.Permit
import MediaSync.Runs.Completion

/-! `complete_run_target_after_catalog_handoffs` and `complete_run_target_after_terminal_recovery`:
the checks of the run, the target and its recovery operations, and the completion method of the run
store that follows. -/
namespace MediaSync.Execution
open Text Recovery Runs

inductive CompletionOutcome where
  | completed (t : RunTables)
  | failed (code : String)
  | raised (code : String)

def completeRunTarget (t : RunTables) (runId : String) (o : TargetOutcome)
    (invalid : Option String) (missing conflict loadFailed : String)
    (counts : RunTargetRow → Bool) : CompletionOutcome :=
  match invalid, t.loadStartedRun runId with
  | some code, _ => .failed code
  | none, none => .failed "RUN_NOT_FOUND"
  | none, some run =>
    if run.state ≠ .executing then .failed "RUN_NOT_EXECUTING"
    else
      match t.loadTarget runId o.runTargetId with
      | none => .failed missing
      | some target =>
        if target.state ≠ .executing then .failed "RUN_TARGET_NOT_EXECUTING"
        else if !counts target then .failed "RUN_TARGET_COMPLETION_COUNTS_MISMATCH"
        else
          match t.recordOutcome runId o with
          | none => .failed conflict
          | some t' =>
            if (t'.loadTarget runId o.runTargetId).isNone then .raised loadFailed
            else .completed t'

section
variable (t : RunTables) (runId runTargetId : String)

def completeRunTargetSuccess (operations bytes : Int) : CompletionOutcome :=
  completeRunTarget t runId ⟨runTargetId, .succeeded operations bytes⟩
    (if operations < 0 ∨ bytes < 0 then some "RUN_TARGET_COMPLETION_REQUIRES_NON_NEGATIVE_COUNTS"
      else none)
    "RUN_TARGET_NOT_FOUND" "RUN_TARGET_COMPLETION_CONFLICT" "RUN_TARGET_COMPLETION_LOAD_FAILED"
    fun target => operations = target.plannedOperations && bytes = target.plannedBytes

def completeRunTargetWithWarnings (operations bytes skipped skippedBytes : Int)
    (lastErrorCode : String) : CompletionOutcome :=
  completeRunTarget t runId
    ⟨runTargetId, .succeededWithWarnings operations bytes skipped skippedBytes
      (strip lastErrorCode)⟩
    (if operations < 0 ∨ bytes < 0 ∨ skipped < 1 ∨ skippedBytes < 0 ∨ strip lastErrorCode = "" then
      some "RUN_TARGET_WARNING_COMPLETION_REQUIRES_VALID_COUNTS" else none)
    "RUN_TARGET_NOT_EXECUTING" "RUN_TARGET_WARNING_COMPLETION_CONFLICT"
    "RUN_TARGET_WARNING_COMPLETION_LOAD_FAILED"
    fun target => operations + skipped = target.plannedOperations &&
      bytes + skippedBytes = target.plannedBytes

def completeRunTargetRecoveryRequired (lastErrorCode : String) : CompletionOutcome :=
  completeRunTarget t runId ⟨runTargetId, .recoveryRequired (strip lastErrorCode)⟩
    (if strip lastErrorCode = "" then some "RUN_TARGET_TERMINAL_RECOVERY_REQUIRES_ERROR_CODE"
      else none)
    "RUN_TARGET_NOT_FOUND" "RUN_TARGET_TERMINAL_RECOVERY_CONFLICT"
    "RUN_TARGET_TERMINAL_RECOVERY_LOAD_FAILED" fun _ => true

def completeRunTargetCancelled (lastErrorCode : String) : CompletionOutcome :=
  completeRunTarget t runId ⟨runTargetId, .cancelled (strip lastErrorCode)⟩
    (if strip lastErrorCode = "" then some "RUN_TARGET_TERMINAL_RECOVERY_REQUIRES_ERROR_CODE"
      else none)
    "RUN_TARGET_NOT_FOUND" "RUN_TARGET_TERMINAL_RECOVERY_CONFLICT"
    "RUN_TARGET_TERMINAL_RECOVERY_LOAD_FAILED" fun _ => true

end

def restoredOldTargetCancelCode : String := "RUN_TARGET_PRESERVED_OLD_TARGET_RESTORED"

def userDecisionRequiredCode : String := "RUN_TARGET_USER_DECISION_REQUIRED"

/-- The `byte_count` of one fingerprint column. -/
def byteCount (py : PythonLibrary) (column : Option String) : Option Int :=
  match column.bind py.jsonLoads with
  | some (.obj fields) =>
    match Json.get fields "byte_count" with
    | some (.int n) => if 0 ≤ n then some n else none
    | some (.bool b) => some (if b then 1 else 0)
    | _ => none
  | _ => none

def operationByteCount (py : PythonLibrary) (operation : RecoveryOperation) : Int :=
  ((byteCount py operation.expectedFinalFingerprintJson).orElse fun _ =>
    byteCount py operation.expectedStagingFingerprintJson).getD 0

def firstErrorCode (operations : List RecoveryOperation) (fallback : String) : String :=
  ((operations.filterMap RecoveryOperation.lastErrorCode).find? nonBlank).elim fallback strip

section
variable (operations : List RecoveryOperation) (permit : MutationPermit) (target : RunTargetRow)

def terminalOperations (phase : Phase) : List RecoveryOperation :=
  if target.plannedOperations = 0 then []
  else listOperationsForRunTargetInPhase operations permit.runId permit.runTargetId phase
    (queryLimit target.plannedOperations)

def catalogedOperations : List RecoveryOperation :=
  (terminalOperations operations permit target .catalogRecorded ++
    terminalOperations operations permit target .cleaned).insertionSort
      fun a b => a.operationId ≤ b.operationId

/-- No operation of the list fails `_operation_matches_permit` or, in its phase,
`_operation_matches_terminal_permit`. -/
def allBound (bound : List RecoveryOperation) : Bool := bound.all (staticBinding · permit)

end

def completionTarget (t : RunTables) (permit : MutationPermit) : Except String RunTargetRow :=
  match t.loadStartedRun permit.runId with
  | none => .error "RUN_NOT_FOUND"
  | some run =>
    if run.state ≠ .executing then .error "RUN_NOT_EXECUTING"
    else
      match t.loadTarget permit.runId permit.runTargetId with
      | none => .error "RUN_TARGET_NOT_FOUND"
      | some target =>
        if target.state ≠ .executing then .error "RUN_TARGET_NOT_EXECUTING"
        else if targetPermitMismatch target permit then
          .error "RUN_TARGET_COMPLETION_PERMIT_MISMATCH"
        else .ok target

section
variable (py : PythonLibrary) (t : RunTables) (operations : List RecoveryOperation)
  (permit : MutationPermit)

def completeRunTargetAfterCatalogHandoffs : CompletionOutcome :=
  match completionTarget t permit with
  | .error code => .failed code
  | .ok target =>
    let cataloged := catalogedOperations operations permit target
    if !allBound permit cataloged then .failed "RUN_TARGET_COMPLETION_OPERATION_PERMIT_MISMATCH"
    else
      completeRunTargetSuccess t permit.runId permit.runTargetId cataloged.length
        (cataloged.map (operationByteCount py)).sum

/-- The rest of `complete_run_target_after_terminal_recovery`, when no operation waits for a
decision. -/
def completeWithoutDecisions (skipped cataloged cancelled : List RecoveryOperation)
    (plannedOperations : Int) : CompletionOutcome :=
  if !allBound permit skipped then
    .failed "RUN_TARGET_TERMINAL_RECOVERY_OPERATION_PERMIT_MISMATCH"
  else if !allBound permit cataloged then
    .failed "RUN_TARGET_COMPLETION_OPERATION_PERMIT_MISMATCH"
  else if skipped ≠ [] ∧ plannedOperations ≤ skipped.length + cataloged.length then
    completeRunTargetWithWarnings t permit.runId permit.runTargetId cataloged.length
      (cataloged.map (operationByteCount py)).sum skipped.length
      (skipped.map RecoveryOperation.plannedBytes).sum
      (firstErrorCode skipped "RUN_TARGET_STAGING_ATTEMPTS_EXHAUSTED")
  else if !allBound permit cancelled then
    .failed "RUN_TARGET_TERMINAL_RECOVERY_OPERATION_PERMIT_MISMATCH"
  else if cancelled.any (·.lastErrorCode ≠ some restoredOldTargetCancelCode) then
    .failed "RUN_TARGET_TERMINAL_RECOVERY_CANCEL_REASON_UNSUPPORTED"
  else if cancelled ≠ [] ∧ plannedOperations ≤ cancelled.length + cataloged.length then
    completeRunTargetCancelled t permit.runId permit.runTargetId restoredOldTargetCancelCode
  else .failed "RUN_TARGET_TERMINAL_RECOVERY_NOT_READY"

def completeRunTargetAfterTerminalRecovery : CompletionOutcome :=
  match completionTarget t permit with
  | .error code => .failed code
  | .ok target =>
    let decisions := terminalOperations operations permit target .userDecisionRequired
    if !allBound permit decisions then
      .failed "RUN_TARGET_TERMINAL_RECOVERY_OPERATION_PERMIT_MISMATCH"
    else if decisions ≠ [] then
      completeRunTargetRecoveryRequired t permit.runId permit.runTargetId
        (firstErrorCode decisions userDecisionRequiredCode)
    else
      completeWithoutDecisions py t permit (terminalOperations operations permit target .skipped)
        (catalogedOperations operations permit target)
        (terminalOperations operations permit target .cancelled) target.plannedOperations

end

/-- The target executes under its permit, in an executing run. -/
structure ExecutingTarget (t : RunTables) (permit : MutationPermit) (target : RunTargetRow) :
    Prop where
  keyed : t.Keyed
  run : ∃ run ∈ t.runs, run.id = permit.runId ∧ run.state = .executing
  stored : target ∈ t.targets
  runId : target.runId = permit.runId
  id : target.id = permit.runTargetId
  executing : target.state = .executing
  planned : 0 ≤ target.plannedOperations
  held : targetPermitMismatch target permit = false

def closedTargetStates : List RunTargetState :=
  [.succeeded, .succeededWithWarnings, .recoveryRequired, .cancelled]

def ClosedIn (t' : RunTables) (permit : MutationPermit) : Prop :=
  ∃ row, t'.loadTarget permit.runId permit.runTargetId = some row ∧ row.state ∈ closedTargetStates

def CompletionOutcome.Closes (permit : MutationPermit) (outcome : CompletionOutcome) : Prop :=
  ∃ t', outcome = .completed t' ∧ ClosedIn t' permit

theorem not_closes_failed {permit : MutationPermit} {code : String} :
    ¬ (CompletionOutcome.failed code).Closes permit := by
  rintro ⟨t', hcompleted, -⟩
  cases hcompleted

section
variable {t : RunTables} {permit : MutationPermit} {target : RunTargetRow}
  (h : ExecutingTarget t permit target)

include h

theorem ExecutingTarget.loadTarget :
    t.loadTarget permit.runId permit.runTargetId = some target := by
  unfold RunTables.loadTarget
  have hsome : (t.targets.find? fun row => row.runId = permit.runId ∧
      row.id = permit.runTargetId).isSome = true :=
    List.find?_isSome.mpr ⟨target, h.stored, by simp [h.runId, h.id]⟩
  obtain ⟨row, hrow⟩ := Option.isSome_iff_exists.mp hsome
  have hfound := List.find?_some hrow
  simp only [Bool.decide_and, Bool.and_eq_true, decide_eq_true_eq] at hfound
  rw [hrow, Table.key_injOn h.keyed.targets (List.mem_of_find?_eq_some hrow) h.stored
    (hfound.2.trans h.id.symm)]

theorem ExecutingTarget.completionTarget : completionTarget t permit = .ok target := by
  obtain ⟨run, hrun, hid, hstate⟩ := h.run
  have hload : t.loadStartedRun permit.runId = some run :=
    hid ▸ Table.lookup_of_mem h.keyed.runs hrun
  simp only [Execution.completionTarget, hload, hstate, h.loadTarget, h.executing, h.held,
    ne_eq, not_true_eq_false, if_false, Bool.false_eq_true]

variable {outcome : Outcome}

theorem ExecutingTarget.recordOutcome (hfits : outcome.fits target = true) :
    ∃ t', t.recordOutcome permit.runId ⟨permit.runTargetId, outcome⟩ = some t' ∧
      ClosedIn t' permit := by
  obtain ⟨run, hrun, hid, hstate⟩ := h.run
  have hfollows : t.Follows permit.runId (RunTables.actionRequired run)
      ⟨t.tallied permit.runId, .executing⟩ :=
    ⟨h.keyed, ⟨run, hrun, hid, hstate, rfl⟩, rfl⟩
  have hmem : target ∈ t.loadTargets permit.runId :=
    RunTables.mem_loadTargets.mpr ⟨h.stored, h.runId⟩
  obtain ⟨t', hrecord, hfollows', -⟩ :=
    @RunTables.recordOutcome_accepted t permit.runId (RunTables.actionRequired run) _
      ⟨permit.runTargetId, outcome⟩ hfollows rfl target hmem h.id h.executing hfits
  refine ⟨t', hrecord, ?_⟩
  -- the moved target is the only one with its id
  have hpair : (permit.runTargetId, outcome.targetState) ∈ t'.tallied permit.runId := by
    rw [hfollows'.targets, Tally.close, if_pos rfl]
    refine List.mem_map.mpr ⟨(target.id, target.state), List.mem_map_of_mem hmem, ?_⟩
    rw [if_pos h.id, h.id]
  obtain ⟨row, hrow, hrowPair⟩ := List.mem_map.mp hpair
  obtain ⟨hrowId, hrowState⟩ := Prod.mk.inj hrowPair
  obtain ⟨hrowStored, hrowRun⟩ := RunTables.mem_loadTargets.mp hrow
  have hclosed : outcome.targetState ∈ closedTargetStates := by
    cases outcome <;> simp [Outcome.targetState, closedTargetStates]
  refine ⟨row, ?_, hrowState ▸ hclosed⟩
  unfold RunTables.loadTarget
  have hsome : (t'.targets.find? fun x => x.runId = permit.runId ∧
      x.id = permit.runTargetId).isSome = true :=
    List.find?_isSome.mpr ⟨row, hrowStored, by simp [hrowRun, hrowId]⟩
  obtain ⟨found, hfound⟩ := Option.isSome_iff_exists.mp hsome
  have hspec := List.find?_some hfound
  simp only [Bool.decide_and, Bool.and_eq_true, decide_eq_true_eq] at hspec
  rw [hfound, Table.key_injOn hfollows'.keyed.targets (List.mem_of_find?_eq_some hfound) hrowStored
    (hspec.2.trans hrowId.symm)]

theorem ExecutingTarget.closes_iff {invalid : Option String} {missing conflict loadFailed : String}
    {counts : RunTargetRow → Bool}
    (hfits : outcome.fits target = (invalid.isNone && counts target)) :
    (completeRunTarget t permit.runId ⟨permit.runTargetId, outcome⟩ invalid missing conflict
        loadFailed counts).Closes permit ↔ outcome.fits target = true := by
  obtain ⟨run, hrun, hid, hstate⟩ := h.run
  have hload : t.loadStartedRun permit.runId = some run :=
    hid ▸ Table.lookup_of_mem h.keyed.runs hrun
  unfold completeRunTarget
  cases invalid with
  | some code => simp [hfits, CompletionOutcome.Closes]
  | none =>
    simp only [hload, hstate, h.loadTarget, h.executing, ne_eq, not_true_eq_false, if_false]
    cases hcounts : counts target with
    | false => simp [hfits, hcounts, CompletionOutcome.Closes]
    | true =>
      have hfit : outcome.fits target = true := by simp [hfits, hcounts]
      obtain ⟨t', hrecord, row, hrow, hrowState⟩ := h.recordOutcome hfit
      simp only [hrecord, hrow, Bool.not_true, Bool.false_eq_true, if_false, Option.isNone_some]
      exact ⟨fun _ => hfit, fun _ => ⟨t', rfl, row, hrow, hrowState⟩⟩

theorem ExecutingTarget.success_iff {operations bytes : Int} (hoperations : 0 ≤ operations)
    (hbytes : 0 ≤ bytes) :
    (completeRunTargetSuccess t permit.runId permit.runTargetId operations bytes).Closes permit ↔
      operations = target.plannedOperations ∧ bytes = target.plannedBytes := by
  have hvalid : ¬ (operations < 0 ∨ bytes < 0) := by omega
  unfold completeRunTargetSuccess
  rw [if_neg hvalid, h.closes_iff (by simp [Outcome.fits, @eq_comm Int operations,
    @eq_comm Int bytes])]
  simp [Outcome.fits, @eq_comm Int operations, @eq_comm Int bytes]

theorem ExecutingTarget.withWarnings_iff {operations bytes skipped skippedBytes : Int}
    {code : String} (hcode : nonBlank code = true) (hoperations : 0 ≤ operations)
    (hbytes : 0 ≤ bytes) (hskipped : 1 ≤ skipped) :
    (completeRunTargetWithWarnings t permit.runId permit.runTargetId operations bytes skipped
        skippedBytes code).Closes permit ↔
      0 ≤ skippedBytes ∧ operations + skipped = target.plannedOperations ∧
        bytes + skippedBytes = target.plannedBytes := by
  have hstrip : strip code ≠ "" := strip_ne_empty hcode
  have hstrip' : strip (strip code) ≠ "" := strip_ne_empty (by rw [nonBlank_strip, hcode])
  unfold completeRunTargetWithWarnings
  rw [h.closes_iff]
  · simp only [Outcome.fits, Bool.and_eq_true, decide_eq_true_eq]
    constructor
    · rintro ⟨⟨⟨⟨-, hbytesSkipped⟩, -⟩, hcounts⟩, hsums⟩
      exact ⟨hbytesSkipped, hcounts.symm, hsums.symm⟩
    · rintro ⟨hbytesSkipped, hcounts, hsums⟩
      exact ⟨⟨⟨⟨⟨⟨hoperations, hbytes⟩, hskipped⟩, hbytesSkipped⟩, hstrip'⟩, hcounts.symm⟩,
        hsums.symm⟩
  · by_cases hnegative : skippedBytes < 0
    · have hno : ¬ 0 ≤ skippedBytes := by omega
      simp [Outcome.fits, hnegative, hno]
    · have hvalid : ¬ (operations < 0 ∨ bytes < 0 ∨ skipped < 1 ∨ skippedBytes < 0 ∨
          strip code = "") := by
        rintro (hlt | hlt | hlt | hlt | heq)
        · omega
        · omega
        · omega
        · omega
        · exact hstrip heq
      have hyes : 0 ≤ skippedBytes := by omega
      rw [if_neg hvalid]
      simp [Outcome.fits, hstrip', hoperations, hbytes, hskipped, hyes,
        @eq_comm Int (operations + skipped), @eq_comm Int (bytes + skippedBytes)]

theorem ExecutingTarget.recoveryRequired_closes (code : String) (hcode : nonBlank code = true) :
    (completeRunTargetRecoveryRequired t permit.runId permit.runTargetId code).Closes permit := by
  have hstrip : strip code ≠ "" := strip_ne_empty hcode
  have hstrip' : strip (strip code) ≠ "" := strip_ne_empty (by rw [nonBlank_strip, hcode])
  unfold completeRunTargetRecoveryRequired
  rw [if_neg hstrip, h.closes_iff (by simp [Outcome.fits, hstrip'])]
  simp [Outcome.fits, hstrip']

theorem ExecutingTarget.cancelled_closes (code : String) (hcode : nonBlank code = true) :
    (completeRunTargetCancelled t permit.runId permit.runTargetId code).Closes permit := by
  have hstrip : strip code ≠ "" := strip_ne_empty hcode
  have hstrip' : strip (strip code) ≠ "" := strip_ne_empty (by rw [nonBlank_strip, hcode])
  unfold completeRunTargetCancelled
  rw [if_neg hstrip, h.closes_iff (by simp [Outcome.fits, hstrip'])]
  simp [Outcome.fits, hstrip']

end

theorem operationByteCount_nonneg (py : PythonLibrary) (operation : RecoveryOperation) :
    0 ≤ operationByteCount py operation := by
  have hcount : ∀ column n, byteCount py column = some n → 0 ≤ n := by
    intro column n hn
    unfold byteCount at hn
    split at hn
    · split at hn
      · split at hn
        · rename_i hle
          exact Option.some.inj hn ▸ hle
        · cases hn
      · rename_i b _
        have hb := Option.some.inj hn
        cases b <;> simp at hb <;> omega
      · cases hn
    · cases hn
  unfold operationByteCount
  cases hfinal : byteCount py operation.expectedFinalFingerprintJson with
  | some n => exact hcount _ n hfinal
  | none =>
    cases hstaging : byteCount py operation.expectedStagingFingerprintJson with
    | some n => exact hcount _ n hstaging
    | none => exact le_refl 0

theorem nonBlank_firstErrorCode {operations : List RecoveryOperation} {fallback : String}
    (h : nonBlank fallback = true) : nonBlank (firstErrorCode operations fallback) = true := by
  unfold firstErrorCode
  cases hfound : (operations.filterMap RecoveryOperation.lastErrorCode).find? nonBlank with
  | none => exact h
  | some code => rw [Option.elim_some, nonBlank_strip, List.find?_some hfound]

section
variable (py : PythonLibrary) (permit : MutationPermit) (target : RunTargetRow)
  (skipped cataloged cancelled : List RecoveryOperation)

def SkippedSuffice : Prop :=
  skipped ≠ [] ∧ target.plannedOperations ≤ skipped.length + cataloged.length

/-- They are the planned operations, and account for the planned bytes. -/
structure EndsWithWarnings : Prop where
  suffice : SkippedSuffice target skipped cataloged
  skippedBound : allBound permit skipped = true
  catalogedBound : allBound permit cataloged = true
  counts : (cataloged.length + skipped.length : Int) = target.plannedOperations
  skippedBytes : 0 ≤ (skipped.map RecoveryOperation.plannedBytes).sum
  bytes : (cataloged.map (operationByteCount py)).sum +
    (skipped.map RecoveryOperation.plannedBytes).sum = target.plannedBytes

/-- The target ends as cancelled. -/
structure EndsCancelled : Prop where
  notSkipped : ¬ SkippedSuffice target skipped cataloged
  skippedBound : allBound permit skipped = true
  catalogedBound : allBound permit cataloged = true
  cancelledBound : allBound permit cancelled = true
  present : cancelled ≠ []
  reason : ∀ operation ∈ cancelled, operation.lastErrorCode = some restoredOldTargetCancelCode
  suffice : target.plannedOperations ≤ cancelled.length + cataloged.length

/-- The cataloged operations are the planned ones, with the planned bytes. -/
structure EndsInSuccess : Prop where
  catalogedBound : allBound permit cataloged = true
  counts : (cataloged.length : Int) = target.plannedOperations
  bytes : (cataloged.map (operationByteCount py)).sum = target.plannedBytes

def EndsTerminal (operations : List RecoveryOperation) : Prop :=
  (terminalOperations operations permit target .userDecisionRequired ≠ [] ∧
      allBound permit (terminalOperations operations permit target .userDecisionRequired) = true) ∨
    (terminalOperations operations permit target .userDecisionRequired = [] ∧
      (EndsWithWarnings py permit target (terminalOperations operations permit target .skipped)
          (catalogedOperations operations permit target) ∨
        EndsCancelled permit target (terminalOperations operations permit target .skipped)
          (catalogedOperations operations permit target)
          (terminalOperations operations permit target .cancelled)))

variable {py permit target skipped cataloged cancelled} {t : RunTables}
  {operations : List RecoveryOperation}

theorem byteCounts_nonneg (rows : List RecoveryOperation) :
    0 ≤ (rows.map (operationByteCount py)).sum := by
  refine List.sum_nonneg fun n hn => ?_
  obtain ⟨operation, -, rfl⟩ := List.mem_map.mp hn
  exact operationByteCount_nonneg py operation

theorem afterCatalogHandoffs_closes_iff (h : ExecutingTarget t permit target) :
    (completeRunTargetAfterCatalogHandoffs py t operations permit).Closes permit ↔
      EndsInSuccess py permit target (catalogedOperations operations permit target) := by
  unfold completeRunTargetAfterCatalogHandoffs
  rw [h.completionTarget]
  dsimp only
  by_cases hbound : allBound permit (catalogedOperations operations permit target) = true
  · rw [if_neg (by simp [hbound]), h.success_iff (Int.natCast_nonneg _) (byteCounts_nonneg _)]
    exact ⟨fun hcounts => ⟨hbound, hcounts.1, hcounts.2⟩, fun hends => ⟨hends.counts, hends.bytes⟩⟩
  · rw [if_pos (by simp [hbound])]
    exact ⟨fun hno => absurd hno not_closes_failed, fun hends => absurd hends.catalogedBound hbound⟩

theorem withoutDecisions_closes_iff (h : ExecutingTarget t permit target) :
    (completeWithoutDecisions py t permit skipped cataloged cancelled
        target.plannedOperations).Closes permit ↔
      EndsWithWarnings py permit target skipped cataloged ∨
        EndsCancelled permit target skipped cataloged cancelled := by
  unfold completeWithoutDecisions
  by_cases hskipped : allBound permit skipped = true
  case neg =>
    rw [if_pos (by simp [hskipped])]
    refine ⟨fun hno => absurd hno not_closes_failed, ?_⟩
    rintro (hends | hends)
    · exact absurd hends.skippedBound hskipped
    · exact absurd hends.skippedBound hskipped
  by_cases hcataloged : allBound permit cataloged = true
  case neg =>
    rw [if_neg (by simp [hskipped]), if_pos (by simp [hcataloged])]
    refine ⟨fun hno => absurd hno not_closes_failed, ?_⟩
    rintro (hends | hends)
    · exact absurd hends.catalogedBound hcataloged
    · exact absurd hends.catalogedBound hcataloged
  rw [if_neg (by simp [hskipped]), if_neg (by simp [hcataloged])]
  by_cases hsuffice : SkippedSuffice target skipped cataloged
  · have hlength : (1 : Int) ≤ skipped.length := by
      have hpos := List.length_pos_iff.mpr hsuffice.1
      omega
    have hnotCancelled : ¬ EndsCancelled permit target skipped cataloged cancelled :=
      fun hends => hends.notSkipped hsuffice
    have hguard : skipped ≠ [] ∧ target.plannedOperations ≤ skipped.length + cataloged.length :=
      hsuffice
    rw [if_pos hguard, h.withWarnings_iff (nonBlank_firstErrorCode (by decide))
      (Int.natCast_nonneg _) (byteCounts_nonneg _) hlength]
    constructor
    · rintro ⟨hbytes, hcounts, hsums⟩
      exact .inl ⟨hsuffice, hskipped, hcataloged, hcounts, hbytes, hsums⟩
    · intro hends
      have hwarnings := hends.resolve_right hnotCancelled
      exact ⟨hwarnings.skippedBytes, hwarnings.counts, hwarnings.bytes⟩
  · have hnotWarnings : ¬ EndsWithWarnings py permit target skipped cataloged :=
      fun hends => hsuffice hends.suffice
    have hguard : ¬ (skipped ≠ [] ∧
        target.plannedOperations ≤ skipped.length + cataloged.length) := hsuffice
    rw [if_neg hguard, or_iff_right hnotWarnings]
    by_cases hcancelled : allBound permit cancelled = true
    case neg =>
      rw [if_pos (by simp [hcancelled])]
      exact ⟨fun hno => absurd hno not_closes_failed, fun hends =>
        absurd hends.cancelledBound hcancelled⟩
    rw [if_neg (by simp [hcancelled])]
    by_cases hreason : ∀ operation ∈ cancelled,
        operation.lastErrorCode = some restoredOldTargetCancelCode
    case neg =>
      rw [if_pos (by simpa using hreason)]
      exact ⟨fun hno => absurd hno not_closes_failed, fun hends => absurd hends.reason hreason⟩
    rw [if_neg (by simpa using hreason)]
    by_cases hready : cancelled ≠ [] ∧
        target.plannedOperations ≤ cancelled.length + cataloged.length
    · rw [if_pos hready]
      have hcode : nonBlank restoredOldTargetCancelCode = true := by decide
      constructor
      · intro _
        exact ⟨hsuffice, hskipped, hcataloged, hcancelled, hready.1, hreason, hready.2⟩
      · intro _
        exact h.cancelled_closes restoredOldTargetCancelCode hcode
    · rw [if_neg hready]
      refine ⟨fun hno => absurd hno not_closes_failed, fun hends => ?_⟩
      exact absurd ⟨hends.present, hends.suffice⟩ hready

theorem afterTerminalRecovery_closes_iff (h : ExecutingTarget t permit target) :
    (completeRunTargetAfterTerminalRecovery py t operations permit).Closes permit ↔
      EndsTerminal py permit target operations := by
  unfold completeRunTargetAfterTerminalRecovery
  rw [h.completionTarget]
  dsimp only
  by_cases hdecision : terminalOperations operations permit target .userDecisionRequired = []
  · have hbound : allBound permit
        (terminalOperations operations permit target .userDecisionRequired) = true := by
      rw [hdecision]
      rfl
    rw [if_neg (by simp [hbound]), if_neg (not_not.mpr hdecision), withoutDecisions_closes_iff h]
    constructor
    · exact fun hends => .inr ⟨hdecision, hends⟩
    · rintro (hends | hends)
      · exact absurd hdecision hends.1
      · exact hends.2
  · by_cases hbound : allBound permit
        (terminalOperations operations permit target .userDecisionRequired) = true
    · rw [if_neg (by simp [hbound]), if_pos hdecision]
      have hclosed := h.recoveryRequired_closes (firstErrorCode
        (terminalOperations operations permit target .userDecisionRequired)
          userDecisionRequiredCode) (nonBlank_firstErrorCode (by decide))
      exact ⟨fun _ => .inl ⟨hdecision, hbound⟩, fun _ => hclosed⟩
    · rw [if_pos (by simp [hbound])]
      refine ⟨fun hno => absurd hno not_closes_failed, fun hends => ?_⟩
      rcases hends with hends | hends
      · exact absurd hends.2 hbound
      · exact absurd hends.1 hdecision

end

end MediaSync.Execution
