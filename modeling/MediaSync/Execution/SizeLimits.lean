import MediaSync.Execution.Cycle

/-! The cycle passes each bounded step the planned operations of its target plus one, and each step
has a maximum of its own: 10 000 for the audit, 1000 for the rebinding of leases and the two
refreshes, and none for the completions. -/
namespace MediaSync.Execution
open Text Recovery Runs

def isStale (permit : MutationPermit) (row : RecoveryOperation) : Bool :=
  !staticBinding row permit || !sameLease row permit

/-- The checks of a refresh, and the operation it works on; `stem` begins its codes. -/
def nextRefresh (stem : String) (phase : Phase) (processInstanceId : String)
    (operations : List RecoveryOperation) (permit : MutationPermit) (maxOperations : Int) :
    Except String (Option RecoveryOperation) :=
  if !nonBlank processInstanceId then .error (stem ++ "_REQUIRES_PROCESS_INSTANCE")
  else if maxOperations < 1 then .error (stem ++ "_REQUIRES_POSITIVE_LIMIT")
  else if 1000 < maxOperations then .error (stem ++ "_LIMIT_TOO_LARGE")
  else
    .ok ((listOperationsForRunTargetInPhase operations permit.runId permit.runTargetId phase
      maxOperations.toNat).find? (isStale permit))

def nextCommitRefresh : String → List RecoveryOperation → MutationPermit → Int →
    Except String (Option RecoveryOperation) :=
  nextRefresh "RUN_TARGET_COMMIT_INTENT_REFRESH" .commitIntentRecorded

def nextPreservedRefresh : String → List RecoveryOperation → MutationPermit → Int →
    Except String (Option RecoveryOperation) :=
  nextRefresh "RUN_TARGET_PRESERVED_COMMIT_REFRESH" .oldTargetPreserved

section
variable {Dir : Type} (ports : CyclePorts Dir) (permit : MutationPermit) (target : RunTargetRow)
  (t : RunTables) (c : Connection Dir)

/-- `advanceOperations` without the search for a stale lease. -/
def advanceFreshOperations (intentsCleaned auditComplete : Bool) : CycleOutcome Dir :=
  let has := cycleHasPhase c.current.operations permit target.plannedOperations
  if terminalRecoveryReady c.current.operations permit target.plannedOperations then
    gatedCompletion intentsCleaned auditComplete
      (completeRunTargetAfterTerminalRecovery ports.py t c.current.operations permit)
  else if has .finalVerified then .handedTo .recordCatalogHandoff
  else if has .oldTargetPreserved then .handedTo .commitPreserved
  else if has .commitIntentRecorded then .handedTo .commitIntent
  else if has .stagingVerified then .handedTo .publishIntent
  else if target.plannedOperations = 0 then
    .ofCompletion (completeRunTargetAfterCatalogHandoffs ports.py t c.current.operations permit)
  else if !hasAnyOperation c.current.operations permit.runId permit.runTargetId
      target.plannedOperations then
    .handedTo .planOperations
  else cleanThenComplete ports permit target t c intentsCleaned auditComplete

end

def rowsOf (operations : List RecoveryOperation) (runId runTargetId : String) :
    List RecoveryOperation :=
  operations.filter fun row => row.runId = runId && row.runTargetId = runTargetId

def FreshIn (phases : List Phase) (operations : List RecoveryOperation)
    (permit : MutationPermit) : Prop :=
  ∀ row ∈ rowsOf operations permit.runId permit.runTargetId, row.phase ∈ phases →
    isStale permit row = false

def Searches (phases : List Phase) (next : String → List RecoveryOperation → MutationPermit →
    Int → Except String (Option RecoveryOperation)) (planned : Nat) : Prop :=
  ∀ processInstanceId operations permit, nonBlank processInstanceId = true →
    (∃ found, next processInstanceId operations permit (planned + 1) = .ok found) ∧
      (FreshIn phases operations permit →
        next processInstanceId operations permit (planned + 1) = .ok none)

/-- No search of the cycle is cut off by the size of the target. -/
structure AnySizeProceeds (planned : Nat) : Prop where
  rebind : Searches Phase.preCommitLeaseRebindPhases nextRebind planned
  commitRefresh : Searches [.commitIntentRecorded] nextCommitRefresh planned
  preservedRefresh : Searches [.oldTargetPreserved] nextPreservedRefresh planned
  audit : ∀ (Dir : Type) (store : AuditStore) (tables : Tables Dir) runId runTargetId,
    nonBlank runId = true → nonBlank runTargetId = true →
    (runProcesses tables runId).length ≤ 128 →
    (rowsOf tables.operations runId runTargetId).length ≤ planned →
    reconcileNextRunTargetOperationAudit store tables runId runTargetId (planned + 1) =
      reconcileOperations store tables (runProcesses tables runId)
        ((rowsOf tables.operations runId runTargetId).insertionSort (planOrder · ·)) true
  completion : ∀ operations permit (target : RunTargetRow) phase,
    target.plannedOperations = planned →
    (rowsOf operations permit.runId permit.runTargetId).length ≤ planned →
    terminalOperations operations permit target phase =
      ((rowsOf operations permit.runId permit.runTargetId).filter
        (·.phase = phase)).insertionSort (planOrder · ·)
  cycle : ∀ (Dir : Type) (ports : CyclePorts Dir) permit (target : RunTargetRow) t c
      intentsCleaned auditComplete,
    nonBlank ports.processInstanceId = true → target.plannedOperations = planned →
    FreshIn Phase.preCommitLeaseRebindPhases c.current.operations permit →
    advanceOperations ports permit target t c intentsCleaned auditComplete =
      advanceFreshOperations ports permit target t c intentsCleaned auditComplete

section
variable {operations : List RecoveryOperation} {permit : MutationPermit} {planned : Nat}

variable {phase : Phase}

theorem mem_rowsOf {limit : Nat} {row : RecoveryOperation}
    (h : row ∈ listOperationsForRunTargetInPhase operations permit.runId permit.runTargetId phase
      limit) : row ∈ rowsOf operations permit.runId permit.runTargetId ∧ row.phase = phase := by
  obtain ⟨hmem, hrun, htarget, hphase⟩ := mem_inPhase h
  exact ⟨List.mem_filter.mpr ⟨hmem, by simp [hrun, htarget]⟩, hphase⟩

variable {phases : List Phase}

theorem find_listed_eq_none (limit : Nat) (h : FreshIn phases operations permit)
    (hphase : phase ∈ phases) :
    (listOperationsForRunTargetInPhase operations permit.runId permit.runTargetId phase
      limit).find? (isStale permit) = none := by
  refine List.find?_eq_none.mpr fun row hrow => ?_
  obtain ⟨hmem, rfl⟩ := mem_rowsOf hrow
  rw [h row hmem hphase]
  exact Bool.false_ne_true

theorem staleLeaseOperation_eq_none (h : FreshIn phases operations permit) (remaining : Nat) :
    staleLeaseOperation operations permit phases remaining = none := by
  induction phases generalizing remaining with
  | nil => rfl
  | cons phase rest ih =>
    have hnone := find_listed_eq_none remaining h List.mem_cons_self
    have hrest : FreshIn rest operations permit := fun row hrow hphase =>
      h row hrow (List.mem_cons_of_mem _ hphase)
    unfold staleLeaseOperation
    split
    · rfl
    · unfold isStale at hnone
      simp only [hnone]
      exact ih hrest _

theorem searches_nextRebind (hplanned : planned ≤ 999) :
    Searches Phase.preCommitLeaseRebindPhases nextRebind planned := by
  intro processInstanceId operations permit hprocess
  have hlow : ¬ (planned : Int) + 1 < 1 := by omega
  have hhigh : ¬ 1000 < (planned : Int) + 1 := by omega
  unfold nextRebind
  rw [hprocess, if_neg (by decide), if_neg hlow, if_neg hhigh]
  exact ⟨⟨_, rfl⟩, fun hfresh => by rw [staleLeaseOperation_eq_none hfresh]⟩

theorem not_searches_nextRebind (hlarge : 999 < planned) :
    ¬ Searches phases nextRebind planned := by
  intro hsearch
  obtain ⟨found, hfound⟩ := (hsearch "engine" [] ⟨"", "", "", 0, 0, "", "", "", "", 0⟩
    (by decide)).1
  have hlow : ¬ (planned : Int) + 1 < 1 := by omega
  have hhigh : 1000 < (planned : Int) + 1 := by omega
  rw [nextRebind, if_neg (by decide), if_neg hlow, if_pos hhigh] at hfound
  cases hfound

theorem searches_nextRefresh {stem : String} (hplanned : planned ≤ 999) :
    Searches [phase] (nextRefresh stem phase) planned := by
  intro processInstanceId operations permit hprocess
  have hlow : ¬ (planned : Int) + 1 < 1 := by omega
  have hhigh : ¬ 1000 < (planned : Int) + 1 := by omega
  unfold nextRefresh
  rw [hprocess, if_neg (by decide), if_neg hlow, if_neg hhigh]
  exact ⟨⟨_, rfl⟩, fun hfresh => by
    rw [find_listed_eq_none _ hfresh (List.mem_singleton_self _)]⟩

theorem reconcile_of_planned {Dir : Type} {store : AuditStore} {tables : Tables Dir}
    {runId runTargetId : String} (hplanned : planned ≤ 9999) (hrun : nonBlank runId = true)
    (htarget : nonBlank runTargetId = true)
    (hprocesses : (runProcesses tables runId).length ≤ 128)
    (hrows : (rowsOf tables.operations runId runTargetId).length ≤ planned) :
    reconcileNextRunTargetOperationAudit store tables runId runTargetId (planned + 1) =
      reconcileOperations store tables (runProcesses tables runId)
        ((rowsOf tables.operations runId runTargetId).insertionSort (planOrder · ·)) true := by
  have hlength : ((rowsOf tables.operations runId runTargetId).insertionSort
      (planOrder · ·)).length ≤ planned := by
    rwa [List.length_insertionSort]
  have hlisted : listOperationsForRunTarget tables.operations runId runTargetId
      ((planned : Int) + 1).toNat =
        (rowsOf tables.operations runId runTargetId).insertionSort (planOrder · ·) :=
    List.take_of_length_le (Nat.le_trans hlength (by omega))
  have hlow : ¬ (planned : Int) + 1 < 1 := by omega
  have hhigh : ¬ 10000 < (planned : Int) + 1 := by omega
  have hmany : ¬ (planned : Int) + 1 ≤ ((rowsOf tables.operations runId
      runTargetId).insertionSort (planOrder · ·)).length := by omega
  unfold reconcileNextRunTargetOperationAudit
  rw [hrun, htarget, if_neg (by decide), if_neg hlow, if_neg hhigh]
  simp only [hlisted]
  rw [if_neg hmany, if_neg (by omega)]

variable {target : RunTargetRow}

theorem terminalOperations_of_planned (htarget : target.plannedOperations = planned)
    (hrows : (rowsOf operations permit.runId permit.runTargetId).length ≤ planned) :
    terminalOperations operations permit target phase =
      ((rowsOf operations permit.runId permit.runTargetId).filter
        (·.phase = phase)).insertionSort (planOrder · ·) := by
  have hfilter :
      (rowsOf operations permit.runId permit.runTargetId).filter (·.phase = phase) =
        operations.filter fun row => row.runId = permit.runId &&
        row.runTargetId = permit.runTargetId && row.phase = phase := by
    rw [rowsOf, List.filter_filter]
    exact List.filter_congr fun row _ => Bool.and_comm _ _
  have hlength := List.length_filter_le (fun row : RecoveryOperation => decide (row.phase = phase))
    (rowsOf operations permit.runId permit.runTargetId)
  unfold terminalOperations
  split
  · have hnone : rowsOf operations permit.runId permit.runTargetId = [] :=
      List.length_eq_zero_iff.mp (by omega)
    rw [hnone]
    rfl
  · rw [listOperationsForRunTargetInPhase, ← hfilter]
    refine List.take_of_length_le ?_
    rw [List.length_insertionSort, queryLimit]
    omega

theorem advanceOperations_of_fresh {Dir : Type} {ports : CyclePorts Dir} {t : RunTables}
    {c : Connection Dir} {intentsCleaned auditComplete : Bool}
    (hsearch : Searches Phase.preCommitLeaseRebindPhases nextRebind planned)
    (hprocess : nonBlank ports.processInstanceId = true)
    (htarget : target.plannedOperations = planned)
    (hfresh : FreshIn Phase.preCommitLeaseRebindPhases c.current.operations permit) :
    advanceOperations ports permit target t c intentsCleaned auditComplete =
      advanceFreshOperations ports permit target t c intentsCleaned auditComplete := by
  have hrebind := (hsearch ports.processInstanceId c.current.operations permit hprocess).2 hfresh
  rw [← htarget] at hrebind
  simp only [advanceOperations, advanceFreshOperations, hrebind]

end

/-- The steps stop no target of 999 planned operations or fewer, and the rebinding of leases stops
every larger one. -/
theorem anySizeProceeds_iff (planned : Nat) : AnySizeProceeds planned ↔ planned ≤ 999 := by
  constructor
  · intro h
    by_contra hlarge
    exact not_searches_nextRebind (by omega) h.rebind
  · intro hplanned
    exact ⟨searches_nextRebind hplanned, searches_nextRefresh hplanned,
      searches_nextRefresh hplanned,
      fun Dir store tables runId runTargetId hrun htarget hprocesses hrows =>
        reconcile_of_planned (by omega) hrun htarget hprocesses hrows,
      fun operations permit target phase => terminalOperations_of_planned,
      fun Dir ports permit target t c intentsCleaned auditComplete =>
        advanceOperations_of_fresh (searches_nextRebind hplanned)⟩

/-- The lease of the target `disk`. -/
def diskPermit : MutationPermit :=
  ⟨"lease", "endpoint:disk", "installation", 1, 1, "run", "target", "disk", "revision", 1⟩

def thousandTarget : RunTargetRow where
  id := "target"
  runId := "run"
  endpointId := "disk"
  endpointRevisionId := "revision"
  requiredOwnerInstallationId := none
  requiredOwnershipEpoch := none
  state := .executing
  leaseResourceKey := some "endpoint:disk"
  lastLeaseId := some "lease"
  lastOwnershipEpoch := some 1
  lastFencingToken := some 1
  plannedOperations := 1000
  completedOperations := 0
  plannedBytes := 0
  completedBytes := 0
  warningCount := 0
  errorCount := 0
  result := none
  rowVersion := 1

def auditingPorts : CyclePorts Unit where
  py := ⟨fun _ => none, fun _ => true⟩
  dirs := none
  processInstanceId := "engine"
  operationAudits := some fun _ _ => .ok false
  intentSegmentLifecycle := false
  targetIntentCleanup := none
  recoveryObjectCleanup := none
  stagingTransfer := true

/-- The first cycle of a target of 1000 operations is blocked, before its operations are
planned. -/
theorem thousand_operations_blocked : ¬ AnySizeProceeds 1000 ∧
    ∀ t, advanceRetainedTarget auditingPorts diskPermit thousandTarget t
      ⟨{ directories := () }, { directories := () }, false⟩ =
        .blocked "RUN_TARGET_OPERATION_LEASE_REBIND_LIMIT_TOO_LARGE" :=
  ⟨fun h => not_searches_nextRebind (by decide) h.rebind, fun _ => rfl⟩

end MediaSync.Execution
