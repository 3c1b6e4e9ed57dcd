import MediaSync.Execution.Closing
import MediaSync.Runs.Moves

/-! `resume_catalog_recorded_run_targets_after_startup`: for each target with a cataloged operation
the engine host checks, before any executor runs, whether all planned operations are cataloged under
the lease of the target's row, and completes the target. -/
namespace MediaSync.Execution
open Text Recovery Runs Transition

/-- The actions of `RecoveryResumeAction` that this pass reports. -/
inductive RecoveryResumeAction where
  | targetCompleted
  | alreadyTerminal
  | blocked
  deriving DecidableEq

structure RecoveryResumeFinding where
  action : RecoveryResumeAction
  runId : String
  runTargetId : String
  operationIds : List String
  validationCodes : List String
  deriving DecidableEq

inductive ResumeOutcome where
  | completed (finding : RecoveryResumeFinding) (t : RunTables)
  | untouched (finding : RecoveryResumeFinding)
  | raised (code : String)

def columnPayload (py : PythonLibrary) (column : Option String) : Option Payload :=
  match column.bind py.jsonLoads with
  | some (.obj fields) => some fields
  | _ => none

def operationFingerprintPayloads (py : PythonLibrary) (operation : RecoveryOperation) :
    List Payload :=
  [operation.expectedFinalFingerprintJson, operation.expectedStagingFingerprintJson].filterMap
    (columnPayload py)

/-- The `byte_count` of a payload, if it is a non-negative integer. -/
def payloadByteCount (payload : Payload) : Option Int :=
  match Json.get payload "byte_count" with
  | some (.int n) => if 0 ≤ n then some n else none
  | some (.bool b) => some (if b then 1 else 0)
  | _ => none

/-- `_operation_byte_count` of the resume. -/
def resumedByteCount (py : PythonLibrary) (operation : RecoveryOperation) : Int :=
  ((operationFingerprintPayloads py operation).findSome? payloadByteCount).getD 0

def operationTargetBindingMismatch (operation : RecoveryOperation) (target : RunTargetRow)
    (expectedPhase : Phase) : Bool :=
  operation.phase ≠ expectedPhase ||
    operation.targetEndpointId ≠ target.endpointId ||
    operation.targetEndpointRevisionId ≠ target.endpointRevisionId ||
    some operation.leaseResourceKey ≠ target.leaseResourceKey ||
    some operation.leaseId ≠ target.lastLeaseId ||
    some operation.ownershipEpoch ≠ target.lastOwnershipEpoch ||
    some operation.fencingToken ≠ target.lastFencingToken ||
    !target.requiredOwnerInstallationId.all (· = operation.ownerInstallationId) ||
    !target.requiredOwnershipEpoch.all (· = operation.ownershipEpoch)

section
variable {Dir : Type} (py : PythonLibrary) (audits : Option (Nat → AuditStore)) (c : Connection Dir)

def auditCalls (runId runTargetId : String) (maxOperations : Int) :
    List AuditStore → Option AuditOutcome
  | [] => none
  | store :: rest =>
    match reconcileNextRunTargetOperationAudit store c.current runId runTargetId
        maxOperations with
    | .changed operationId =>
      some ((auditCalls runId runTargetId maxOperations rest).getD (.changed operationId))
    | outcome => some outcome

def auditGate (runId runTargetId : String) (plannedOperations : Int) : AuditOutcome :=
  match audits with
  | none => .current true
  | some answers =>
    (auditCalls c runId runTargetId (plannedOperations + 1)
      ((List.range (plannedOperations + 1).toNat).map answers)).getD (.changed "")

/-- `_resume_catalog_recorded_target` for an executing run and target. -/
def resumeExecutingTarget (t : RunTables) (operation : RecoveryOperation) (target : RunTargetRow) :
    ResumeOutcome :=
  let cataloged := listOperationsForRunTargetInPhase c.current.operations operation.runId
    operation.runTargetId .catalogRecorded (max (target.plannedOperations + 1) 1).toNat
  let finding (action : RecoveryResumeAction) (operations : List RecoveryOperation)
      (codes : List String) : RecoveryResumeFinding :=
    ⟨action, operation.runId, operation.runTargetId,
      operations.map RecoveryOperation.operationId, codes⟩
  if (cataloged.length : Int) ≠ target.plannedOperations then
    .untouched (finding .blocked cataloged ["RECOVERY_RESUME_CATALOG_RECORDED_COUNT_MISMATCH"])
  else if cataloged.any (operationTargetBindingMismatch · target .catalogRecorded) then
    .untouched (finding .blocked cataloged ["RECOVERY_RESUME_OPERATION_TARGET_BINDING_MISMATCH"])
  else
    match auditGate audits c operation.runId operation.runTargetId target.plannedOperations with
    | .raised code => .raised code
    | .changed _ =>
      .untouched (finding .blocked [operation] ["RECOVERY_RESUME_OPERATION_AUDIT_LIMIT_REACHED"])
    | .current false =>
      .untouched (finding .blocked [operation] ["RECOVERY_RESUME_OPERATION_AUDIT_INCOMPLETE"])
    | .current true =>
      match completeRunTargetSuccess t operation.runId operation.runTargetId cataloged.length
          (cataloged.map (resumedByteCount py)).sum with
      | .raised code => .raised code
      | .failed code => .untouched (finding .blocked cataloged [code])
      | .completed t' => .completed (finding .targetCompleted cataloged []) t'

def resumeCatalogRecordedTarget (t : RunTables) (operation : RecoveryOperation) : ResumeOutcome :=
  let blocked (code : String) : ResumeOutcome :=
    .untouched ⟨.blocked, operation.runId, operation.runTargetId, [operation.operationId], [code]⟩
  match t.loadStartedRun operation.runId, t.loadTarget operation.runId operation.runTargetId with
  | none, _ => blocked "RECOVERY_RESUME_RUN_NOT_FOUND"
  | some _, none => blocked "RECOVERY_RESUME_RUN_TARGET_NOT_FOUND"
  | some run, some target =>
    if [RunState.completed, .completedWithWarnings].contains run.state ||
        [RunTargetState.succeeded, .succeededWithWarnings].contains target.state then
      .untouched
        ⟨.alreadyTerminal, operation.runId, operation.runTargetId, [operation.operationId], []⟩
    else if run.state ≠ .executing ∨ target.state ≠ .executing then
      blocked "RECOVERY_RESUME_TARGET_NOT_EXECUTING"
    else resumeExecutingTarget py audits c t operation target

/-- The loop of `resume_catalog_recorded_run_targets_after_startup` over the scanned rows, with
the targets seen so far; an exception ends it. -/
def resumeScanned : List RecoveryOperation → List (String × String) → RunTables →
    Except String (List RecoveryResumeFinding) × RunTables
  | [], _, t => (.ok [], t)
  | operation :: rest, seen, t =>
    let key := (operation.runId, operation.runTargetId)
    if seen.contains key then resumeScanned rest seen t
    else
      match resumeCatalogRecordedTarget py audits c t operation with
      | .raised code => (.error code, t)
      | .untouched finding =>
        let next := resumeScanned rest (key :: seen) t
        (next.1.map (finding :: ·), next.2)
      | .completed finding t' =>
        let next := resumeScanned rest (key :: seen) t'
        (next.1.map (finding :: ·), next.2)

/-- `ORDER BY updated_utc, run_id, operation_id`. -/
def updateOrder (updatedUtc : RecoveryOperation → String) (a b : RecoveryOperation) : Bool :=
  updatedUtc a < updatedUtc b ||
    (updatedUtc a = updatedUtc b && (a.runId < b.runId ||
      (a.runId = b.runId && decide (a.operationId ≤ b.operationId))))

def listOperationsInPhase (operations : List RecoveryOperation)
    (updatedUtc : RecoveryOperation → String) (phase : Phase) (limit : Nat) :
    List RecoveryOperation :=
  ((operations.filter fun row => row.phase = phase).insertionSort
    (updateOrder updatedUtc · ·)).take limit

def recoveryResumeRequestCode (reconcilerInstanceId : String) (limit : Int) : Option String :=
  if !nonBlank reconcilerInstanceId then some "RECOVERY_RESUME_REQUIRES_RECONCILER"
  else if limit < 1 then some "RECOVERY_RESUME_LIMIT_MUST_BE_POSITIVE"
  else if 1000 < limit then some "RECOVERY_RESUME_LIMIT_TOO_LARGE"
  else none

def resumeCatalogRecordedRunTargets (updatedUtc : RecoveryOperation → String)
    (reconcilerInstanceId : String) (limit : Int) (t : RunTables) :
    Except String (List RecoveryResumeFinding) × RunTables :=
  match recoveryResumeRequestCode reconcilerInstanceId limit with
  | some code => (.error code, t)
  | none =>
    resumeScanned py audits c
      (listOperationsInPhase c.current.operations updatedUtc .catalogRecorded limit.toNat) [] t

end

def CompletionOutcome.closed : CompletionOutcome → Option RunTables
  | .completed t' => some t'
  | _ => none

def ResumeOutcome.closed : ResumeOutcome → Option RunTables
  | .completed _ t' => some t'
  | _ => none

def completionStep (py : PythonLibrary) (t : RunTables) (operations : List RecoveryOperation)
    (permit : MutationPermit) (target : RunTargetRow) : Option RunTables :=
  if terminalRecoveryReady operations permit target.plannedOperations then
    (completeRunTargetAfterTerminalRecovery py t operations permit).closed
  else if target.plannedOperations = 0 then
    (completeRunTargetAfterCatalogHandoffs py t operations permit).closed
  else if skippedRecoveryReady operations permit target.plannedOperations then
    (completeRunTargetAfterTerminalRecovery py t operations permit).closed
  else if target.plannedOperations ≤
      catalogRecordedCount operations permit target.plannedOperations then
    (completeRunTargetAfterCatalogHandoffs py t operations permit).closed
  else none

def Cataloged (operations : List RecoveryOperation) (target : RunTargetRow) : Prop :=
  ∀ operation ∈ operations, operation.runId = target.runId → operation.runTargetId = target.id →
    operationTargetBindingMismatch operation target .catalogRecorded = false

def targetRows (operations : List RecoveryOperation) (target : RunTargetRow) :
    List RecoveryOperation :=
  operations.filter fun row => row.runId = target.runId && row.runTargetId = target.id

theorem byteCount_eq (py : PythonLibrary) (column : Option String) :
    byteCount py column = (columnPayload py column).bind payloadByteCount := by
  unfold byteCount columnPayload
  cases column.bind py.jsonLoads with
  | none => rfl
  | some json => cases json <;> rfl

theorem resumedByteCount_eq (py : PythonLibrary) (operation : RecoveryOperation) :
    resumedByteCount py operation = operationByteCount py operation := by
  unfold resumedByteCount operationByteCount operationFingerprintPayloads
  rw [byteCount_eq, byteCount_eq]
  cases hfinal : columnPayload py operation.expectedFinalFingerprintJson with
  | none =>
    cases hstaging : columnPayload py operation.expectedStagingFingerprintJson with
    | none => simp [hfinal, hstaging]
    | some staging => cases hn : payloadByteCount staging <;>
        simp [hfinal, hstaging, hn]
  | some final =>
    cases hn : payloadByteCount final with
    | some n => simp [List.filterMap_cons, hfinal, hn]
    | none =>
      cases hstaging : columnPayload py operation.expectedStagingFingerprintJson with
      | none => simp [hfinal, hstaging, hn]
      | some staging => cases hm : payloadByteCount staging <;>
          simp [hfinal, hstaging, hn, hm]

theorem binding_phase {operation : RecoveryOperation} {target : RunTargetRow} {phase : Phase}
    (h : operationTargetBindingMismatch operation target phase = false) :
    operation.phase = phase := by
  simp only [operationTargetBindingMismatch, Bool.or_eq_false_iff, decide_eq_false_iff_not,
    not_not] at h
  exact h.1.1.1.1.1.1.1.1

section
variable {operations : List RecoveryOperation} {permit : MutationPermit} {target : RunTargetRow}
  {t : RunTables}

theorem ExecutingTarget.staticBinding (h : ExecutingTarget t permit target)
    (howned : target.requiredOwnerInstallationId.isSome = true) {operation : RecoveryOperation}
    (hrun : operation.runId = target.runId) (htarget : operation.runTargetId = target.id)
    (hbound : operationTargetBindingMismatch operation target .catalogRecorded = false) :
    Execution.staticBinding operation permit = true := by
  obtain ⟨owner, howner⟩ := Option.isSome_iff_exists.mp howned
  have hheld := h.held
  simp only [targetPermitMismatch, operationTargetBindingMismatch, Bool.or_eq_false_iff,
    decide_eq_false_iff_not, not_not, howner, Option.all_some, Bool.not_eq_false',
    decide_eq_true_eq] at hheld hbound
  obtain ⟨⟨⟨⟨⟨⟨⟨hendpoint, hrevision⟩, hkey⟩, -⟩, hepoch⟩, -⟩, hownerPermit⟩, -⟩ := hheld
  obtain ⟨⟨⟨⟨⟨⟨⟨⟨-, hopEndpoint⟩, hopRevision⟩, hopKey⟩, -⟩, hopEpoch⟩, -⟩, hopOwner⟩, -⟩ := hbound
  rw [hkey] at hopKey
  rw [hepoch] at hopEpoch
  simp [Execution.staticBinding, hrun, htarget, h.runId, h.id, hopEndpoint, hendpoint, hopRevision,
    hrevision, ← hopOwner, hownerPermit, Option.some.inj hopKey, Option.some.inj hopEpoch]

theorem inPhase_nil {runId runTargetId : String} {phase : Phase} {limit : Nat}
    (h : ∀ operation ∈ operations, operation.runId = runId → operation.runTargetId = runTargetId →
      operation.phase ≠ phase) :
    listOperationsForRunTargetInPhase operations runId runTargetId phase limit = [] := by
  refine List.eq_nil_iff_forall_not_mem.mpr fun operation hmem => ?_
  obtain ⟨hstored, hrun, htarget, hphase⟩ := mem_inPhase hmem
  exact h operation hstored hrun htarget hphase

theorem Cataloged.inPhase_perm (h : Cataloged operations target) {limit : Nat}
    (hlimit : (targetRows operations target).length ≤ limit) :
    (listOperationsForRunTargetInPhase operations target.runId target.id .catalogRecorded
      limit).Perm (targetRows operations target) := by
  have hfilter : (operations.filter fun row => row.runId = target.runId &&
      row.runTargetId = target.id && row.phase = .catalogRecorded) =
        targetRows operations target := by
    refine List.filter_congr fun row hrow => ?_
    by_cases hown : row.runId = target.runId ∧ row.runTargetId = target.id
    · simp [hown.1, hown.2, binding_phase (h row hrow hown.1 hown.2)]
    · by_cases hrun : row.runId = target.runId
      · have htarget : row.runTargetId ≠ target.id := fun htarget => hown ⟨hrun, htarget⟩
        simp [htarget]
      · simp [hrun]
  unfold listOperationsForRunTargetInPhase
  rw [hfilter, List.take_of_length_le (by rw [List.length_insertionSort]; exact hlimit)]
  exact List.perm_insertionSort _ _

theorem cataloged_of_count
    (hle : ((targetRows operations target).length : Int) ≤ target.plannedOperations)
    (hcount : ((listOperationsForRunTargetInPhase operations target.runId target.id
      .catalogRecorded (max (target.plannedOperations + 1) 1).toNat).length : Int) =
        target.plannedOperations)
    (hbound : ∀ operation ∈ listOperationsForRunTargetInPhase operations target.runId target.id
      .catalogRecorded (max (target.plannedOperations + 1) 1).toNat,
        operationTargetBindingMismatch operation target .catalogRecorded = false) :
    Cataloged operations target := by
  -- the listed rows are among the target's, and as many
  have hsub : (operations.filter fun row => row.runId = target.runId &&
      row.runTargetId = target.id && row.phase = .catalogRecorded).Sublist
        (targetRows operations target) := by
    have heq : (operations.filter fun row => row.runId = target.runId &&
        row.runTargetId = target.id && row.phase = .catalogRecorded) =
          (targetRows operations target).filter fun row => row.phase = .catalogRecorded := by
      unfold targetRows
      rw [List.filter_filter]
      refine List.filter_congr fun row _ => ?_
      rw [Bool.and_comm]
    rw [heq]
    exact List.filter_sublist
  have hlength : (operations.filter fun row => row.runId = target.runId &&
      row.runTargetId = target.id && row.phase = .catalogRecorded).length ≤
        (targetRows operations target).length := hsub.length_le
  unfold listOperationsForRunTargetInPhase at hcount hbound
  rw [List.take_of_length_le (by rw [List.length_insertionSort]; omega)] at hcount hbound
  rw [List.length_insertionSort] at hcount
  have hsame := hsub.eq_of_length (by omega)
  intro operation hmem hrun htarget
  have hrow : operation ∈ targetRows operations target :=
    List.mem_filter.mpr ⟨hmem, by simp [hrun, htarget]⟩
  exact hbound operation ((List.mem_insertionSort _).mpr (hsame ▸ hrow))

theorem Cataloged.phase_ne (h : Cataloged operations target) {phase : Phase}
    (hphase : phase ≠ .catalogRecorded) (operation : RecoveryOperation)
    (hmem : operation ∈ operations)
    (hrun : operation.runId = target.runId) (htarget : operation.runTargetId = target.id) :
    operation.phase ≠ phase := fun heq =>
  hphase (heq ▸ binding_phase (h operation hmem hrun htarget))

theorem Cataloged.completionStep_eq {py : PythonLibrary} (h : ExecutingTarget t permit target)
    (hcataloged : Cataloged operations target)
    (howned : target.requiredOwnerInstallationId.isSome = true)
    (hle : ((targetRows operations target).length : Int) ≤ target.plannedOperations) :
    completionStep py t operations permit target =
      if ((targetRows operations target).length : Int) = target.plannedOperations then
        (completeRunTargetSuccess t permit.runId permit.runTargetId
          (targetRows operations target).length
          ((targetRows operations target).map (operationByteCount py)).sum).closed
      else none := by
  have hnone : ∀ phase, phase ≠ .catalogRecorded → ∀ limit, listOperationsForRunTargetInPhase
      operations permit.runId permit.runTargetId phase limit = [] := by
    intro phase hphase limit
    rw [← h.runId, ← h.id]
    exact inPhase_nil (hcataloged.phase_ne hphase)
  have hlisted : ∀ limit, (targetRows operations target).length ≤ limit →
      (listOperationsForRunTargetInPhase operations permit.runId permit.runTargetId
        .catalogRecorded limit).Perm (targetRows operations target) := by
    intro limit hlimit
    rw [← h.runId, ← h.id]
    exact hcataloged.inPhase_perm hlimit
  have h0 := h.planned
  have hcount : catalogRecordedCount operations permit target.plannedOperations =
      (targetRows operations target).length := by
    unfold catalogRecordedCount cyclePhaseCount phaseCount
    rw [hnone .cleaned (by decide),
      (hlisted _ (by unfold queryLimit; omega)).length_eq]
    simp
  have hterminal : terminalRecoveryReady operations permit target.plannedOperations = false := by
    unfold terminalRecoveryReady cycleHasPhase hasPhase cyclePhaseCount phaseCount
    rw [hnone .userDecisionRequired (by decide), hnone .cancelled (by decide)]
    rfl
  have hskipped : skippedRecoveryReady operations permit target.plannedOperations = false := by
    unfold skippedRecoveryReady cyclePhaseCount phaseCount
    rw [hnone .skipped (by decide)]
    rfl
  -- the operations the completion reads are the recorded ones
  have hrows : (catalogedOperations operations permit target).Perm
      (targetRows operations target) := by
    unfold catalogedOperations terminalOperations
    refine (List.perm_insertionSort _ _).trans ?_
    by_cases hplanned : target.plannedOperations = 0
    · have hempty : targetRows operations target = [] :=
        List.length_eq_zero_iff.mp (by omega)
      rw [if_pos hplanned, if_pos hplanned, hempty]
      exact List.Perm.refl _
    · rw [if_neg hplanned, if_neg hplanned, hnone .cleaned (by decide), List.append_nil]
      exact hlisted _ (by unfold queryLimit; omega)
  have hbound : allBound permit (catalogedOperations operations permit target) = true := by
    refine List.all_eq_true.mpr fun operation hmem => ?_
    have hrow := List.mem_filter.mp (hrows.mem_iff.mp hmem)
    simp only [Bool.and_eq_true, decide_eq_true_eq] at hrow
    exact h.staticBinding howned hrow.2.1 hrow.2.2
      (hcataloged operation hrow.1 hrow.2.1 hrow.2.2)
  have hhandoffs : completeRunTargetAfterCatalogHandoffs py t operations permit =
      completeRunTargetSuccess t permit.runId permit.runTargetId
        (targetRows operations target).length
        ((targetRows operations target).map (operationByteCount py)).sum := by
    unfold completeRunTargetAfterCatalogHandoffs
    rw [h.completionTarget]
    dsimp only
    rw [if_neg (by simp [hbound]), hrows.length_eq,
      ((hrows.map (operationByteCount py)).sum_eq)]
  unfold completionStep
  rw [if_neg (by simp [hterminal]), if_neg (by simp [hskipped] : ¬ skippedRecoveryReady operations
    permit target.plannedOperations = true), hcount, hhandoffs]
  by_cases hall : ((targetRows operations target).length : Int) = target.plannedOperations
  · rw [if_pos hall, if_pos hall.ge, ite_self]
  · have hplanned : target.plannedOperations ≠ 0 := by omega
    have hfew : ¬ target.plannedOperations ≤ (targetRows operations target).length := by omega
    rw [if_neg hall, if_neg hplanned, if_neg hfew]

end

section
variable {Dir : Type} {py : PythonLibrary} {audits : Option (Nat → AuditStore)}
  {w : PlanningWorld Dir} {c : Connection Dir} {permit : MutationPermit} {target : RunTargetRow}
  {t : RunTables} {operation : RecoveryOperation}

theorem ExecutingTarget.resume_eq (h : ExecutingTarget t permit target)
    (hrun : operation.runId = target.runId) (htarget : operation.runTargetId = target.id) :
    resumeCatalogRecordedTarget py audits c t operation =
      resumeExecutingTarget py audits c t operation target := by
  obtain ⟨run, hrunMem, hid, hstate⟩ := h.run
  have hloadRun : t.loadStartedRun operation.runId = some run := by
    rw [hrun, h.runId, ← hid]
    exact Table.lookup_of_mem h.keyed.runs hrunMem
  have hloadTarget : t.loadTarget operation.runId operation.runTargetId = some target := by
    rw [hrun, htarget, h.runId, h.id]
    exact h.loadTarget
  unfold resumeCatalogRecordedTarget
  rw [hloadRun, hloadTarget]
  dsimp only
  rw [hstate, h.executing]
  rfl

theorem resumeExecutingTarget_checked {t' : RunTables}
    (h : (resumeExecutingTarget py audits c t operation target).closed = some t') :
    ((listOperationsForRunTargetInPhase c.current.operations operation.runId
        operation.runTargetId .catalogRecorded
          (max (target.plannedOperations + 1) 1).toNat).length : Int) =
        target.plannedOperations ∧
      (∀ row ∈ listOperationsForRunTargetInPhase c.current.operations operation.runId
        operation.runTargetId .catalogRecorded (max (target.plannedOperations + 1) 1).toNat,
          operationTargetBindingMismatch row target .catalogRecorded = false) ∧
      auditGate audits c operation.runId operation.runTargetId target.plannedOperations =
        .current true := by
  unfold resumeExecutingTarget at h
  dsimp only at h
  split at h
  · cases h
  rename_i hcount
  split at h
  · cases h
  rename_i hbound
  refine ⟨not_not.mp hcount, fun row hrow => ?_, ?_⟩
  · simpa using List.any_eq_false.mp (Bool.eq_false_iff.mpr hbound) row hrow
  · split at h
    · cases h
    · cases h
    · cases h
    · assumption

theorem Cataloged.resume_closed (h : ExecutingTarget t permit target)
    (hcataloged : Cataloged c.current.operations target)
    (howned : target.requiredOwnerInstallationId.isSome = true)
    (hle : ((targetRows c.current.operations target).length : Int) ≤ target.plannedOperations)
    (hrun : operation.runId = target.runId) (htarget : operation.runTargetId = target.id)
    (haudit : auditGate audits c target.runId target.id target.plannedOperations =
      .current true) :
    (resumeExecutingTarget py audits c t operation target).closed =
      completionStep py t c.current.operations permit target := by
  have h0 := h.planned
  have hrows : (listOperationsForRunTargetInPhase c.current.operations target.runId target.id
      .catalogRecorded (max (target.plannedOperations + 1) 1).toNat).Perm
        (targetRows c.current.operations target) := hcataloged.inPhase_perm (by omega)
  rw [hcataloged.completionStep_eq h howned hle]
  unfold resumeExecutingTarget
  dsimp only
  rw [hrun, htarget, hrows.length_eq]
  by_cases hall : ((targetRows c.current.operations target).length : Int) =
      target.plannedOperations
  · have hbound : (listOperationsForRunTargetInPhase c.current.operations target.runId target.id
        .catalogRecorded (max (target.plannedOperations + 1) 1).toNat).any
          (operationTargetBindingMismatch · target .catalogRecorded) = false := by
      refine List.any_eq_false.mpr fun row hrow => ?_
      obtain ⟨hstored, hrowRun, hrowTarget, -⟩ := mem_inPhase hrow
      simp [hcataloged row hstored hrowRun hrowTarget]
    have hbytes : ((listOperationsForRunTargetInPhase c.current.operations target.runId target.id
        .catalogRecorded (max (target.plannedOperations + 1) 1).toNat).map
          (resumedByteCount py)).sum =
        ((targetRows c.current.operations target).map (operationByteCount py)).sum := by
      rw [(hrows.map (resumedByteCount py)).sum_eq]
      exact congrArg List.sum (List.map_congr_left fun row _ => resumedByteCount_eq py row)
    rw [if_neg (not_not.mpr hall), if_neg (by simp [hbound]), if_pos hall, haudit, hbytes,
      ← h.runId, ← h.id]
    dsimp only
    cases completeRunTargetSuccess t target.runId target.id
      ((targetRows c.current.operations target).length)
      ((targetRows c.current.operations target).map (operationByteCount py)).sum with
    | completed t' => rfl
    | failed code => rfl
    | raised code => rfl
  · rw [if_pos hall, if_neg hall]
    rfl

theorem ExecutingTarget.resume_sound (h : ExecutingTarget t permit target)
    (howned : target.requiredOwnerInstallationId.isSome = true)
    (hle : ((targetRows c.current.operations target).length : Int) ≤ target.plannedOperations)
    (hrun : operation.runId = target.runId) (htarget : operation.runTargetId = target.id)
    {t' : RunTables}
    (hclosed : (resumeCatalogRecordedTarget py audits c t operation).closed = some t') :
    Cataloged c.current.operations target ∧
      completionStep py t c.current.operations permit target = some t' := by
  rw [h.resume_eq hrun htarget] at hclosed
  obtain ⟨hcount, hbound, haudit⟩ := resumeExecutingTarget_checked hclosed
  rw [hrun, htarget] at hcount hbound haudit
  have hcataloged : Cataloged c.current.operations target := cataloged_of_count hle hcount hbound
  rw [hcataloged.resume_closed h howned hle hrun htarget haudit] at hclosed
  exact ⟨hcataloged, hclosed⟩

/-- The resume closes a target only if all its operations are cataloged under the lease of its row,
and where the audit is complete it closes a target as the executor's completion step does. -/
theorem startup_completion_sound (hreach : (planning w).Reachable c)
    (h : ExecutingTarget t permit target) (hrunId : target.runId = w.run.id)
    (hid : target.id = w.target.id)
    (hplanned : target.plannedOperations = w.target.plannedOperations)
    (howned : target.requiredOwnerInstallationId.isSome = true)
    (hrun : operation.runId = target.runId) (htarget : operation.runTargetId = target.id) :
    (∀ t', (resumeCatalogRecordedTarget py audits c t operation).closed = some t' →
      Cataloged c.current.operations target ∧
        completionStep py t c.current.operations permit target = some t') ∧
    (Cataloged c.current.operations target →
      auditGate audits c target.runId target.id target.plannedOperations = .current true →
        (resumeCatalogRecordedTarget py audits c t operation).closed =
          completionStep py t c.current.operations permit target) := by
  have hle : ((targetRows c.current.operations target).length : Int) ≤
      target.plannedOperations := by
    have hrecorded := recorded_le_planned hreach (hplanned ▸ h.planned)
    rw [hplanned]
    unfold targetRows
    rw [hrunId, hid]
    exact hrecorded
  -- no target records more operations than it plans, so no listing is cut off
  refine ⟨fun t' hclosed => h.resume_sound howned hle hrun htarget hclosed, ?_⟩
  intro hcataloged haudit
  rw [h.resume_eq hrun htarget]
  exact hcataloged.resume_closed h howned hle hrun htarget haudit

end

def committedRun (operationId : String) (ordinal : Int) : List (PlanningLabel Unit) :=
  (committedTransitions operationId ordinal).map fun args =>
    .journal (.call (.recordOperationPhaseTransition args))

def catalogedRun : List (PlanningLabel Unit) :=
  nestedRun none ++ .journal (.publishSegment { sampleSegment with operationCount := 2 }) ::
    committedRun "operation-a" 0 ++ committedRun "operation-b" 1

def cleaningRun : List (PlanningLabel Unit) :=
  [.journal (.call (.recordOperationPhaseTransition (sampleTransition .catalogRecorded .cleaned)))]

def nestedPass (c : Connection Unit) : Option RunTargetState :=
  ((resumeCatalogRecordedRunTargets plainPython none c (fun _ => "2026-01-01T00:00:00Z") "host-b"
    1000 nestedTables).2.loadTarget "run-a" "run-a-target-0000").map RunTargetRow.state

def nestedStep (c : Connection Unit) : Option RunTargetState :=
  (completionStep plainPython nestedTables c.current.operations nestedPermit nestedTarget).bind
    fun t' => (t'.loadTarget "run-a" "run-a-target-0000").map RunTargetRow.state

theorem catalogedRun_passes : ((planning nestedWorld).replay emptyConnection catalogedRun).any
    (fun c => nestedPass c == some .succeeded &&
      (resumeCatalogRecordedTarget plainPython none c nestedTables
        sampleOperation).closed.isSome &&
      ((planning nestedWorld).replay c cleaningRun).any fun c' =>
        c'.current.operations.map RecoveryOperation.phase == [.cleaned, .catalogRecorded] &&
          nestedPass c' == some .executing && nestedStep c' == some .succeeded) = true := by
  decide +kernel

/-- The claim without the restriction fails: of the two operations of a target one is already
cleaned, the other cataloged. -/
theorem cleaned_target_left_open : ∃ c, (planning nestedWorld).Reachable c ∧
    c.current.operations.map RecoveryOperation.phase = [.cleaned, .catalogRecorded] ∧
      nestedPass c = some .executing ∧ nestedStep c = some .succeeded := by
  obtain ⟨c, hc, hany⟩ := (Option.any_eq_true _ _).mp catalogedRun_passes
  obtain ⟨c', hc', hany'⟩ := (Option.any_eq_true _ _).mp (Bool.and_eq_true _ _ ▸ hany).2
  simp only [Bool.and_eq_true, beq_iff_eq] at hany'
  obtain ⟨⟨hphases, hpass⟩, hstep⟩ := hany'
  have hreach : (planning nestedWorld).Reachable c' :=
    System.Reachable.replay (System.Reachable.replay (.init ⟨(), rfl⟩) catalogedRun hc)
      cleaningRun hc'
  exact ⟨c', hreach, hphases, hpass, hstep⟩

theorem startup_completion_cataloged : ∃ c, (planning nestedWorld).Reachable c ∧
    nestedPass c = some .succeeded ∧
    ∃ t', (resumeCatalogRecordedTarget plainPython none c nestedTables sampleOperation).closed =
        some t' ∧
      completionStep plainPython nestedTables c.current.operations nestedPermit nestedTarget =
        some t' := by
  obtain ⟨c, hc, hany⟩ := (Option.any_eq_true _ _).mp catalogedRun_passes
  simp only [Bool.and_eq_true, beq_iff_eq] at hany
  obtain ⟨⟨hpass, hsome⟩, -⟩ := hany
  obtain ⟨t', hclosed⟩ := Option.isSome_iff_exists.mp hsome
  have hreach : (planning nestedWorld).Reachable c :=
    System.Reachable.replay (.init ⟨(), rfl⟩) catalogedRun hc
  exact ⟨c, hreach, hpass, t', hclosed, ((startup_completion_sound hreach nested_executing rfl rfl
    rfl rfl rfl rfl).1 t' hclosed).2⟩

end MediaSync.Execution
