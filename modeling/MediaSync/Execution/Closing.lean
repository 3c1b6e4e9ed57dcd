import MediaSync.Execution.Cycle
import MediaSync.Execution.PlanningSafety

/-! A retained target all of whose operations are finished: in a terminal phase, or recorded in the
catalog. -/
namespace MediaSync.Execution
open Text Recovery Runs Plans Transition

def finishedPhases : List Phase := .catalogRecorded :: Phase.terminalPhases

/-- All operations of the target are over, and there are some exactly if some were planned. -/
structure Finished (operations : List RecoveryOperation) (permit : MutationPermit)
    (target : RunTargetRow) : Prop where
  phases : ∀ operation ∈ operations, operation.runId = permit.runId →
    operation.runTargetId = permit.runTargetId → operation.phase ∈ finishedPhases
  recorded : (∃ operation ∈ operations, operation.runId = permit.runId ∧
    operation.runTargetId = permit.runTargetId) ↔ target.plannedOperations ≠ 0

section
variable {operations : List RecoveryOperation} {permit : MutationPermit} {target : RunTargetRow}

theorem terminalOperations_eq (hplanned : target.plannedOperations ≠ 0) (phase : Phase) :
    terminalOperations operations permit target phase =
      listOperationsForRunTargetInPhase operations permit.runId permit.runTargetId phase
        (queryLimit target.plannedOperations) := if_neg hplanned

theorem queryLimit_pos (hplanned : 0 ≤ target.plannedOperations) :
    max (queryLimit target.plannedOperations) 1 = queryLimit target.plannedOperations := by
  unfold queryLimit
  omega

variable {phase : Phase}

theorem cycleHasPhase_iff (h0 : 0 ≤ target.plannedOperations)
    (hplanned : target.plannedOperations ≠ 0) :
    cycleHasPhase operations permit target.plannedOperations phase = true ↔
      terminalOperations operations permit target phase ≠ [] := by
  unfold cycleHasPhase hasPhase
  rw [queryLimit_pos h0, terminalOperations_eq hplanned]
  simp

theorem cyclePhaseCount_eq (h0 : 0 ≤ target.plannedOperations)
    (hplanned : target.plannedOperations ≠ 0) :
    cyclePhaseCount operations permit target.plannedOperations phase =
      (terminalOperations operations permit target phase).length := by
  unfold cyclePhaseCount phaseCount
  rw [queryLimit_pos h0, terminalOperations_eq hplanned]

theorem catalogRecordedCount_eq (h0 : 0 ≤ target.plannedOperations)
    (hplanned : target.plannedOperations ≠ 0) :
    catalogRecordedCount operations permit target.plannedOperations =
      (catalogedOperations operations permit target).length := by
  unfold catalogRecordedCount catalogedOperations
  rw [cyclePhaseCount_eq h0 hplanned, cyclePhaseCount_eq h0 hplanned, List.length_insertionSort,
    List.length_append]
  omega

theorem skippedRecoveryReady_iff (h0 : 0 ≤ target.plannedOperations)
    (hplanned : target.plannedOperations ≠ 0) :
    skippedRecoveryReady operations permit target.plannedOperations = true ↔
      SkippedSuffice target (terminalOperations operations permit target .skipped)
        (catalogedOperations operations permit target) := by
  unfold skippedRecoveryReady SkippedSuffice
  rw [cyclePhaseCount_eq h0 hplanned, catalogRecordedCount_eq h0 hplanned]
  simp

def CancelledSuffice (operations : List RecoveryOperation) (permit : MutationPermit)
    (target : RunTargetRow) : Prop :=
  terminalOperations operations permit target .cancelled ≠ [] ∧
    target.plannedOperations ≤ (terminalOperations operations permit target .cancelled).length +
      (catalogedOperations operations permit target).length

theorem terminalRecoveryReady_iff (h0 : 0 ≤ target.plannedOperations)
    (hplanned : target.plannedOperations ≠ 0) :
    terminalRecoveryReady operations permit target.plannedOperations = true ↔
      terminalOperations operations permit target .userDecisionRequired ≠ [] ∨
        CancelledSuffice operations permit target := by
  unfold terminalRecoveryReady CancelledSuffice
  rw [cyclePhaseCount_eq h0 hplanned, catalogRecordedCount_eq h0 hplanned, Bool.or_eq_true,
    cycleHasPhase_iff h0 hplanned]
  simp

variable {plannedOperations : Int}

theorem cycleHasPhase_false (h : ∀ operation ∈ operations, operation.runId = permit.runId →
      operation.runTargetId = permit.runTargetId → operation.phase ≠ phase) :
    cycleHasPhase operations permit plannedOperations phase = false := by
  rw [Bool.eq_false_iff]
  intro hhas
  obtain ⟨operation, hmem, hrun, htarget, hphase⟩ := hasPhase_iff.mp hhas
  exact h operation hmem hrun htarget hphase

theorem Finished.hasPhase_false (h : Finished operations permit target)
    (hphase : phase ∉ finishedPhases) :
    cycleHasPhase operations permit plannedOperations phase = false :=
  cycleHasPhase_false fun operation hmem hrun htarget heq =>
    hphase (heq ▸ h.phases operation hmem hrun htarget)

theorem Finished.staleLease_none (h : Finished operations permit target) (phases : List Phase)
    (hphases : ∀ phase ∈ phases, phase ∉ finishedPhases) (remaining : Nat) :
    staleLeaseOperation operations permit phases remaining = none := by
  induction phases generalizing remaining with
  | nil => rfl
  | cons phase rest ih =>
    have hempty : listOperationsForRunTargetInPhase operations permit.runId permit.runTargetId
        phase remaining = [] := by
      refine List.eq_nil_iff_forall_not_mem.mpr fun operation hmem => ?_
      obtain ⟨hstored, hrun, htarget, hphase⟩ := mem_inPhase hmem
      exact hphases phase List.mem_cons_self (hphase ▸ h.phases operation hstored hrun htarget)
    unfold staleLeaseOperation
    rw [hempty]
    split
    · rfl
    · exact ih (fun p hp => hphases p (List.mem_cons_of_mem _ hp)) _

theorem Finished.none_recorded (h : Finished operations permit target)
    (hplanned : target.plannedOperations = 0) (phase : Phase) :
    cycleHasPhase operations permit target.plannedOperations phase = false := by
  refine cycleHasPhase_false fun operation hmem hrun htarget _ => ?_
  exact h.recorded.mp ⟨operation, hmem, hrun, htarget⟩ hplanned

end

section
variable {Dir : Type} (ports : CyclePorts Dir) (permit : MutationPermit) (target : RunTargetRow)
  (c : Connection Dir)

/-- The cycle gets past its lease scan, and no recovery object is left to clean. -/
structure Searched : Prop where
  process : nonBlank ports.processInstanceId = true
  limit : target.plannedOperations < 1000
  cleaned : ports.recoveryObjectCleanup.isSome = true →
    ∀ operation ∈ listOperationsForRunTargetInPhase c.current.operations permit.runId
      permit.runTargetId .catalogRecorded (target.plannedOperations + 1).toNat,
      requiresCleanup operation = false

/-- The tallies of phases that a target is closed from, with what each asks for. -/
inductive Ending : Prop
  /-- Nothing was planned. -/
  | empty (hplanned : target.plannedOperations = 0) (hbytes : target.plannedBytes = 0)
      (hprocess : nonBlank ports.processInstanceId = true)
  /-- An operation waits for a decision. -/
  | decision (hplanned : target.plannedOperations ≠ 0)
      (hsome : terminalOperations c.current.operations permit target .userDecisionRequired ≠ [])
      (hbound : allBound permit
        (terminalOperations c.current.operations permit target .userDecisionRequired) = true)
  /-- Every operation is skipped or cataloged. -/
  | warnings (hplanned : target.plannedOperations ≠ 0)
      (hnone : terminalOperations c.current.operations permit target .userDecisionRequired = [])
      (hends : EndsWithWarnings ports.py permit target
        (terminalOperations c.current.operations permit target .skipped)
        (catalogedOperations c.current.operations permit target))
      (hsearch : CancelledSuffice c.current.operations permit target ∨
        Searched ports permit target c)
  /-- Every operation is cancelled, its old target restored, or cataloged. -/
  | cancelled (hplanned : target.plannedOperations ≠ 0)
      (hnone : terminalOperations c.current.operations permit target .userDecisionRequired = [])
      (hends : EndsCancelled permit target
        (terminalOperations c.current.operations permit target .skipped)
        (catalogedOperations c.current.operations permit target)
        (terminalOperations c.current.operations permit target .cancelled))
  /-- Every operation is cataloged. -/
  | success (hplanned : target.plannedOperations ≠ 0)
      (hnone : ∀ phase ∈ [Phase.userDecisionRequired, .cancelled, .skipped],
        terminalOperations c.current.operations permit target phase = [])
      (hends : EndsInSuccess ports.py permit target
        (catalogedOperations c.current.operations permit target))
      (hsearch : Searched ports permit target c)

/-- No intent segment of the target is left to be cleaned up. -/
structure IntentsCleaned : Prop where
  configured : ports.intentSegmentLifecycle = ports.targetIntentCleanup.isSome
  cleaned : ports.intentSegmentLifecycle = true →
    nextLifecycleCandidate c.current permit.runId permit.runTargetId = none

/-- The next segment's evidence is not to be cleaned yet. -/
structure IntentsWait : Prop where
  configured : ports.intentSegmentLifecycle = true ∧ ports.targetIntentCleanup.isSome = true
  waits : ∃ segment, nextLifecycleCandidate c.current permit.runId permit.runTargetId =
      some segment ∧ segmentMatchesPermit segment permit = true ∧ segment.state = .durable ∧
    intentSegmentReconciliationReady c.current segment = false

/-- An ending, with the audit complete and the intent evidence cleaned. -/
structure Closable : Prop where
  audit : ∀ store, ports.operationAudits = some store →
    AuditComplete store c.current permit.runId permit.runTargetId (target.plannedOperations + 1)
  intents : IntentsCleaned ports permit c ∨
    target.plannedOperations = 0 ∧ IntentsWait ports permit c
  ending : Ending ports permit target c

def CycleOutcome.Closes (permit : MutationPermit) (outcome : CycleOutcome Dir) : Prop :=
  ∃ t', outcome = .targetClosed t' ∧ ClosedIn t' permit

end

section
variable {Dir : Type} {ports : CyclePorts Dir} {permit : MutationPermit} {target : RunTargetRow}
  {t : RunTables} {c : Connection Dir}

variable {completion : CompletionOutcome}

theorem ofCompletion_closes_iff :
    (CycleOutcome.ofCompletion completion : CycleOutcome Dir).Closes permit ↔
      completion.Closes permit := by
  cases completion with
  | completed t' => simp [CycleOutcome.ofCompletion, CycleOutcome.Closes, CompletionOutcome.Closes]
  | failed code => simp [CycleOutcome.ofCompletion, CycleOutcome.Closes, CompletionOutcome.Closes]
  | raised code => simp [CycleOutcome.ofCompletion, CycleOutcome.Closes, CompletionOutcome.Closes]

variable {intentsCleaned auditComplete : Bool}

theorem gatedCompletion_closes_iff :
    (gatedCompletion intentsCleaned auditComplete completion : CycleOutcome Dir).Closes permit ↔
      intentsCleaned = true ∧ auditComplete = true ∧ completion.Closes permit := by
  unfold gatedCompletion
  cases intentsCleaned with
  | false => simp [CycleOutcome.Closes]
  | true =>
    cases auditComplete with
    | false => simp [CycleOutcome.Closes]
    | true => simp [ofCompletion_closes_iff]

theorem completeOrStage_closes_iff (h : ExecutingTarget t permit target)
    (hplanned : target.plannedOperations ≠ 0) :
    (completeOrStage ports permit target t c intentsCleaned auditComplete).Closes permit ↔
      (intentsCleaned = true ∧ auditComplete = true) ∧
        (SkippedSuffice target (terminalOperations c.current.operations permit target .skipped)
              (catalogedOperations c.current.operations permit target) ∧
            EndsTerminal ports.py permit target c.current.operations ∨
          ¬ SkippedSuffice target (terminalOperations c.current.operations permit target .skipped)
              (catalogedOperations c.current.operations permit target) ∧
            EndsInSuccess ports.py permit target
              (catalogedOperations c.current.operations permit target)) := by
  unfold completeOrStage
  dsimp only
  by_cases hskipped : SkippedSuffice target
      (terminalOperations c.current.operations permit target .skipped)
      (catalogedOperations c.current.operations permit target)
  · rw [if_pos ((skippedRecoveryReady_iff h.planned hplanned).mpr hskipped),
      gatedCompletion_closes_iff, afterTerminalRecovery_closes_iff h]
    simp [hskipped, and_assoc]
  · have hready : ¬ skippedRecoveryReady c.current.operations permit target.plannedOperations =
        true := fun hyes => hskipped ((skippedRecoveryReady_iff h.planned hplanned).mp hyes)
    rw [if_neg hready, catalogRecordedCount_eq h.planned hplanned]
    by_cases hcount : target.plannedOperations ≤
        (catalogedOperations c.current.operations permit target).length
    · rw [if_pos hcount, gatedCompletion_closes_iff, afterCatalogHandoffs_closes_iff h]
      simp [hskipped, and_assoc]
    · have hno : ¬ EndsInSuccess ports.py permit target
          (catalogedOperations c.current.operations permit target) := by
        intro hends
        have := hends.counts
        omega
      rw [if_neg hcount]
      simp only [hskipped, hno, false_and, and_false, or_false, iff_false]
      rintro ⟨t', hclosed, -⟩
      split at hclosed
      · split at hclosed <;> cases hclosed
      · cases hclosed

theorem cleanThenComplete_closes_iff (hprocess : nonBlank ports.processInstanceId = true)
    (hlimit : target.plannedOperations < 1000) (hplanned : 0 ≤ target.plannedOperations) :
    (cleanThenComplete ports permit target t c intentsCleaned auditComplete).Closes permit ↔
      Searched ports permit target c ∧
        (completeOrStage ports permit target t c intentsCleaned auditComplete).Closes permit := by
  unfold cleanThenComplete
  cases hcleanup : ports.recoveryObjectCleanup with
  | none =>
    have hsearched : Searched ports permit target c :=
      ⟨hprocess, hlimit, fun hsome => by simp [hcleanup] at hsome⟩
    simp [hsearched]
  | some cleanup =>
    dsimp only
    by_cases hdue : (listOperationsForRunTargetInPhase c.current.operations permit.runId
        permit.runTargetId .catalogRecorded (target.plannedOperations + 1).toNat).find?
          requiresCleanup = none
    · have hidle : cleanupRecoveryObject ports cleanup permit (target.plannedOperations + 1) c =
          .idle := by
        unfold cleanupRecoveryObject
        rw [if_neg (by simp [hprocess]), if_neg (by omega), hdue]
      have hsearched : Searched ports permit target c :=
        ⟨hprocess, hlimit, fun _ operation hmem => by
          simpa using List.find?_eq_none.mp hdue operation hmem⟩
      rw [hidle]
      simp [hsearched]
    · have hno : ¬ Searched ports permit target c := by
        intro hsearched
        refine hdue (List.find?_eq_none.mpr fun operation hmem => ?_)
        simpa using hsearched.cleaned (by simp [hcleanup]) operation hmem
      simp only [hno, false_and, iff_false]
      rintro ⟨t', hclosed, -⟩
      split at hclosed
      · cases hclosed
      · cases hclosed
      · cases hclosed
      · rename_i hidle
        unfold cleanupRecoveryObject at hidle
        rw [if_neg (by simp [hprocess]), if_neg (by omega)] at hidle
        split at hidle
        · rename_i hnone
          exact hdue hnone
        · split at hidle
          · cases hidle
          · split at hidle
            · cases hidle
            · split at hidle
              · cases hidle
              · split at hidle <;> cases hidle

theorem Finished.nextRebind (hfin : Finished c.current.operations permit target)
    (h0 : 0 ≤ target.plannedOperations) :
    nextRebind ports.processInstanceId c.current.operations permit
        (target.plannedOperations + 1) = .ok none ↔
      nonBlank ports.processInstanceId = true ∧ target.plannedOperations < 1000 := by
  have hnone : staleLeaseOperation c.current.operations permit Phase.preCommitLeaseRebindPhases
      (target.plannedOperations + 1).toNat = none :=
    hfin.staleLease_none _ (by decide) _
  unfold Execution.nextRebind
  rw [hnone]
  by_cases hprocess : nonBlank ports.processInstanceId = true
  · rw [if_neg (by simp [hprocess]), if_neg (by omega)]
    by_cases hlimit : target.plannedOperations < 1000
    · rw [if_neg (by omega)]
      simp [hprocess, hlimit]
    · rw [if_pos (by omega)]
      simp [hlimit]
  · rw [if_pos (by simp [hprocess])]
    simp [hprocess]

theorem hasAny_of_mem {operations : List RecoveryOperation} {operation : RecoveryOperation}
    {phase : Phase} (hphase : phase ∈ plannedPhases)
    (hmem : operation ∈ terminalOperations operations permit target phase) :
    hasAnyOperation operations permit.runId permit.runTargetId target.plannedOperations = true := by
  unfold terminalOperations at hmem
  split at hmem
  · cases hmem
  · obtain ⟨hstored, hrun, htarget, hin⟩ := mem_inPhase hmem
    exact hasAnyOperation_iff.mpr ⟨operation, hstored, hrun, htarget, hin ▸ hphase⟩

theorem ending_after_search_iff (hplanned : target.plannedOperations ≠ 0)
    (hnone : terminalOperations c.current.operations permit target .userDecisionRequired = [])
    (hcancelled : ¬ CancelledSuffice c.current.operations permit target) :
    Ending ports permit target c ↔
      Searched ports permit target c ∧
        (SkippedSuffice target (terminalOperations c.current.operations permit target .skipped)
              (catalogedOperations c.current.operations permit target) ∧
            EndsTerminal ports.py permit target c.current.operations ∨
          ¬ SkippedSuffice target (terminalOperations c.current.operations permit target .skipped)
              (catalogedOperations c.current.operations permit target) ∧
            EndsInSuccess ports.py permit target
              (catalogedOperations c.current.operations permit target)) := by
  constructor
  · intro hending
    cases hending with
    | empty hzero _ _ => exact absurd hzero hplanned
    | decision _ hsome _ => exact absurd hnone hsome
    | warnings _ _ hends hsearch =>
      exact ⟨hsearch.resolve_left hcancelled, .inl ⟨hends.suffice, .inr ⟨hnone, .inl hends⟩⟩⟩
    | cancelled _ _ hends => exact absurd ⟨hends.present, hends.suffice⟩ hcancelled
    | success _ hempty hends hsearch =>
      refine ⟨hsearch, .inr ⟨fun hsuffice => hsuffice.1 ?_, hends⟩⟩
      exact hempty .skipped (by decide)
  · rintro ⟨hsearch, ⟨hsuffice, hends⟩ | ⟨hshort, hends⟩⟩
    · rcases hends with hends | ⟨-, hends | hends⟩
      · exact absurd hnone hends.1
      · exact .warnings hplanned hnone hends (.inr hsearch)
      · exact absurd hsuffice hends.notSkipped
    · -- all planned operations are cataloged, so any other one would suffice with them
      have hcounts := hends.counts
      refine .success hplanned (fun phase hphase => ?_) hends hsearch
      have hcases : phase = .userDecisionRequired ∨ phase = .cancelled ∨ phase = .skipped := by
        simpa using hphase
      rcases hcases with rfl | rfl | rfl
      · exact hnone
      · by_contra hsome
        exact hcancelled ⟨hsome, by omega⟩
      · by_contra hsome
        exact hshort ⟨hsome, by omega⟩

theorem advanceOperations_closes_iff (h : ExecutingTarget t permit target)
    (hfin : Finished c.current.operations permit target) :
    (advanceOperations ports permit target t c intentsCleaned auditComplete).Closes permit ↔
      (target.plannedOperations ≠ 0 → intentsCleaned = true ∧ auditComplete = true) ∧
        Ending ports permit target c := by
  have hhas : ∀ phase, phase ∉ finishedPhases →
      cycleHasPhase c.current.operations permit target.plannedOperations phase = false :=
    fun _ hphase => hfin.hasPhase_false hphase
  unfold advanceOperations
  dsimp only
  by_cases hready :
    terminalRecoveryReady c.current.operations permit target.plannedOperations = true
  · have hplanned : target.plannedOperations ≠ 0 := by
      intro hzero
      have hcount : cyclePhaseCount c.current.operations permit target.plannedOperations .cancelled
          = 0 := by
        have hno := hfin.none_recorded hzero .cancelled
        unfold cycleHasPhase hasPhase at hno
        simpa [cyclePhaseCount, phaseCount] using hno
      simp [terminalRecoveryReady, hfin.none_recorded hzero, hcount] at hready
    rw [if_pos hready, gatedCompletion_closes_iff, afterTerminalRecovery_closes_iff h]
    have hterminal := (terminalRecoveryReady_iff h.planned hplanned).mp hready
    have hends : EndsTerminal ports.py permit target c.current.operations ↔
        Ending ports permit target c := by
      constructor
      · rintro (hends | ⟨hnone, hends | hends⟩)
        · exact .decision hplanned hends.1 hends.2
        · exact .warnings hplanned hnone hends (.inl (hterminal.resolve_left (not_not.mpr hnone)))
        · exact .cancelled hplanned hnone hends
      · intro hending
        cases hending with
        | empty hzero _ _ => exact absurd hzero hplanned
        | decision _ hsome hbound => exact .inl ⟨hsome, hbound⟩
        | warnings _ hnone hends _ => exact .inr ⟨hnone, .inl hends⟩
        | cancelled _ hnone hends => exact .inr ⟨hnone, .inr hends⟩
        | success _ hempty _ _ =>
          rcases hterminal with hsome | hsuffice
          · exact absurd (hempty .userDecisionRequired (by decide)) hsome
          · exact absurd (hempty .cancelled (by decide)) hsuffice.1
    rw [hends, ← and_assoc]
    simp [hplanned]
  rw [if_neg hready, if_neg (by simp [hhas .finalVerified (by decide)]),
    if_neg (by simp [hhas .oldTargetPreserved (by decide)]),
    if_neg (by simp [hhas .commitIntentRecorded (by decide)])]
  -- no decision waits, and the cancelled operations are not enough
  have hnone : target.plannedOperations ≠ 0 →
      terminalOperations c.current.operations permit target .userDecisionRequired = [] ∧
        ¬ CancelledSuffice c.current.operations permit target := by
    intro hplanned
    rw [terminalRecoveryReady_iff h.planned hplanned, not_or, not_not] at hready
    exact hready
  by_cases hscan : nonBlank ports.processInstanceId = true ∧ target.plannedOperations < 1000
  case neg =>
    have hending : ¬ Ending ports permit target c := by
      intro hending
      by_cases hplanned : target.plannedOperations = 0
      · cases hending with
        | empty _ _ hprocess => exact hscan ⟨hprocess, by omega⟩
        | decision hne _ _ => exact hne hplanned
        | warnings hne _ _ _ => exact hne hplanned
        | cancelled hne _ _ => exact hne hplanned
        | success hne _ _ _ => exact hne hplanned
      · obtain ⟨hsearch, -⟩ :=
          (ending_after_search_iff hplanned (hnone hplanned).1 (hnone hplanned).2).mp hending
        exact hscan ⟨hsearch.process, hsearch.limit⟩
    simp only [hending, and_false, iff_false]
    rintro ⟨t', hclosed, -⟩
    split at hclosed
    · cases hclosed
    · cases hclosed
    · rename_i hrebind
      exact hscan ((hfin.nextRebind h.planned).mp hrebind)
  rw [(hfin.nextRebind h.planned).mpr hscan]
  dsimp only
  rw [if_neg (by simp [hhas .stagingVerified (by decide)])]
  by_cases hplanned : target.plannedOperations = 0
  · have hempty : catalogedOperations c.current.operations permit target = [] := by
      simp [catalogedOperations, terminalOperations, hplanned]
    rw [if_pos hplanned, ofCompletion_closes_iff, afterCatalogHandoffs_closes_iff h, hempty]
    constructor
    · intro hends
      exact ⟨fun hne => absurd hplanned hne, .empty hplanned hends.bytes.symm hscan.1⟩
    · rintro ⟨-, hending⟩
      cases hending with
      | empty _ hbytes _ => exact ⟨rfl, hplanned.symm, hbytes.symm⟩
      | decision hne _ _ => exact absurd hplanned hne
      | warnings hne _ _ _ => exact absurd hplanned hne
      | cancelled hne _ _ => exact absurd hplanned hne
      | success hne _ _ _ => exact absurd hplanned hne
  rw [if_neg hplanned]
  have hiff := @ending_after_search_iff Dir ports permit target c hplanned (hnone hplanned).1
    (hnone hplanned).2
  by_cases hany : hasAnyOperation c.current.operations permit.runId permit.runTargetId
      target.plannedOperations = true
  · rw [if_neg (by simp [hany]), cleanThenComplete_closes_iff hscan.1 hscan.2 h.planned,
      completeOrStage_closes_iff h hplanned, hiff, and_left_comm]
    simp [hplanned]
  · -- nothing is skipped or cataloged: the target is planned again
    have hseen : ∀ phase ∈ plannedPhases,
        terminalOperations c.current.operations permit target phase = [] := by
      intro phase hphase
      refine List.eq_nil_iff_forall_not_mem.mpr fun operation hmem => ?_
      exact hany (hasAny_of_mem hphase hmem)
    have hending : ¬ Ending ports permit target c := by
      rw [hiff]
      rintro ⟨-, ⟨hsuffice, -⟩ | ⟨-, hends⟩⟩
      · exact hsuffice.1 (hseen .skipped (by decide))
      · have hcounts := hends.counts
        rw [catalogedOperations, hseen .catalogRecorded (by decide),
          hseen .cleaned (by decide)] at hcounts
        exact hplanned hcounts.symm
    rw [if_pos (by simpa using hany)]
    simp only [hending, and_false, iff_false]
    rintro ⟨t', hclosed, -⟩
    cases hclosed

theorem operationAudit_complete_iff : operationAudit ports permit target c = .current true ↔
    ∀ store, ports.operationAudits = some store →
      AuditComplete store c.current permit.runId permit.runTargetId
        (target.plannedOperations + 1) := by
  unfold operationAudit
  cases haudits : ports.operationAudits with
  | none => simp
  | some store => simp [reconcile_complete_iff]

theorem operationAudit_of_empty (hfin : Finished c.current.operations permit target)
    (hplanned : target.plannedOperations = 0) :
    operationAudit ports permit target c ≠ .current false := by
  unfold operationAudit
  cases ports.operationAudits with
  | none => simp
  | some store =>
    dsimp only
    have hempty : listOperationsForRunTarget c.current.operations permit.runId permit.runTargetId
        (target.plannedOperations + 1).toNat = [] := by
      have hfilter : (c.current.operations.filter fun row =>
          row.runId = permit.runId && row.runTargetId = permit.runTargetId) = [] := by
        refine List.filter_eq_nil_iff.mpr fun operation hmem hrow => ?_
        simp only [Bool.and_eq_true, decide_eq_true_eq] at hrow
        exact hfin.recorded.mp ⟨operation, hmem, hrow⟩ hplanned
      unfold listOperationsForRunTarget
      rw [hfilter]
      simp
    unfold reconcileNextRunTargetOperationAudit
    rw [hempty]
    dsimp only
    intro hfalse
    split at hfalse
    · cases hfalse
    · split at hfalse
      · cases hfalse
      · split at hfalse
        · cases hfalse
        · split at hfalse
          · cases hfalse
          · split at hfalse
            · cases hfalse
            · cases hfalse

variable {allCleaned : Bool}

theorem transitionSegment_ne_idle {segment : IntentSegment} {nextState : SegmentState} :
    transitionSegment segment nextState c ≠ .idle allCleaned := by
  unfold transitionSegment
  split <;> simp

theorem advanceIntentCleanup_idle_iff
    {cleanup : MutationPermit → IntentSegment → Except String Bool} :
    advanceIntentCleanup cleanup permit c = .idle allCleaned ↔
      (nextLifecycleCandidate c.current permit.runId permit.runTargetId = none ∧
          allCleaned = true) ∨
        ∃ segment, nextLifecycleCandidate c.current permit.runId permit.runTargetId =
            some segment ∧ segmentMatchesPermit segment permit = true ∧
          segment.state = .durable ∧
            intentSegmentReconciliationReady c.current segment = false ∧ allCleaned = false := by
  unfold advanceIntentCleanup
  cases hcandidate : nextLifecycleCandidate c.current permit.runId permit.runTargetId with
  | none => cases allCleaned <;> simp
  | some segment =>
    simp only [reduceCtorEq, false_and, Option.some.injEq, false_or, exists_eq_left']
    cases hmatches : segmentMatchesPermit segment permit with
    | false => simp
    | true =>
      simp only [Bool.not_true, Bool.false_eq_true, if_false, true_and]
      cases hstate : segment.state with
      | building => simp
      | durable =>
        cases hready : intentSegmentReconciliationReady c.current segment with
        | false => cases allCleaned <;> simp
        | true => simp [transitionSegment_ne_idle]
      | reconciled => simp [transitionSegment_ne_idle]
      | cleanupEligible =>
        dsimp only
        split
        · simp
        · simp
        · simp [transitionSegment_ne_idle]
      | cleaned => simp

theorem intentCleanup_cleaned_iff :
    intentCleanup ports permit c = .idle true ↔ IntentsCleaned ports permit c := by
  unfold intentCleanup
  cases hlifecycle : ports.intentSegmentLifecycle with
  | false =>
    cases hcleanup : ports.targetIntentCleanup with
    | none =>
      have hcleaned : IntentsCleaned ports permit c :=
        ⟨by simp [hlifecycle, hcleanup], fun hyes => by simp [hlifecycle] at hyes⟩
      simp [hcleaned]
    | some cleanup =>
      have hnot : ¬ IntentsCleaned ports permit c := fun hyes => by
        simpa [hlifecycle, hcleanup] using hyes.configured
      simp [hnot]
  | true =>
    cases hcleanup : ports.targetIntentCleanup with
    | none =>
      have hnot : ¬ IntentsCleaned ports permit c := fun hyes => by
        simpa [hlifecycle, hcleanup] using hyes.configured
      simp [hnot]
    | some cleanup =>
      dsimp only
      rw [advanceIntentCleanup_idle_iff]
      constructor
      · rintro (⟨hnone, -⟩ | ⟨segment, -, -, -, -, hfalse⟩)
        · exact ⟨by simp [hlifecycle, hcleanup], fun _ => hnone⟩
        · cases hfalse
      · exact fun hyes => .inl ⟨hyes.cleaned hlifecycle, rfl⟩

theorem intentCleanup_waits_iff :
    intentCleanup ports permit c = .idle false ↔ IntentsWait ports permit c := by
  unfold intentCleanup
  cases hlifecycle : ports.intentSegmentLifecycle with
  | false =>
    have hnot : ¬ IntentsWait ports permit c := fun hyes => by
      simpa [hlifecycle] using hyes.configured.1
    cases hcleanup : ports.targetIntentCleanup with
    | none => simp [hnot]
    | some cleanup => simp [hnot]
  | true =>
    cases hcleanup : ports.targetIntentCleanup with
    | none =>
      have hnot : ¬ IntentsWait ports permit c := fun hyes => by
        simpa [hcleanup] using hyes.configured.2
      simp [hnot]
    | some cleanup =>
      dsimp only
      rw [advanceIntentCleanup_idle_iff]
      constructor
      · rintro (⟨-, hfalse⟩ | ⟨segment, hcandidate, hmatches, hstate, hready, -⟩)
        · cases hfalse
        · exact ⟨⟨hlifecycle, by simp [hcleanup]⟩, segment, hcandidate, hmatches, hstate, hready⟩
      · rintro ⟨-, segment, hcandidate, hmatches, hstate, hready⟩
        exact .inr ⟨segment, hcandidate, hmatches, hstate, hready, rfl⟩

/-- The cycle closes a retained target whose operations are all finished, in a terminal or
decision-required state, exactly when it is closable. -/
theorem finished_target_closes_iff (h : ExecutingTarget t permit target)
    (hfin : Finished c.current.operations permit target) :
    (advanceRetainedTarget ports permit target t c).Closes permit ↔
      Closable ports permit target c := by
  constructor
  -- a cycle that closes has passed the audit and the intents
  · intro hcloses
    unfold advanceRetainedTarget at hcloses
    cases haudit : operationAudit ports permit target c with
    | raised code =>
      rw [haudit] at hcloses
      obtain ⟨t', hclosed, -⟩ := hcloses
      cases hclosed
    | changed operationId =>
      rw [haudit] at hcloses
      obtain ⟨t', hclosed, -⟩ := hcloses
      cases hclosed
    | current auditComplete =>
      rw [haudit] at hcloses
      dsimp only at hcloses
      cases hintents : intentCleanup ports permit c with
      | advanced c' =>
        rw [hintents] at hcloses
        obtain ⟨t', hclosed, -⟩ := hcloses
        cases hclosed
      | blocked code =>
        rw [hintents] at hcloses
        obtain ⟨t', hclosed, -⟩ := hcloses
        cases hclosed
      | idle intentsCleaned =>
        rw [hintents] at hcloses
        obtain ⟨hgates, hending⟩ := (advanceOperations_closes_iff h hfin).mp hcloses
        -- with nothing planned the two gates are not asked, so the audit is read off its own step
        by_cases hplanned : target.plannedOperations = 0
        · have hcomplete : auditComplete = true := by
            cases auditComplete with
            | true => rfl
            | false => exact absurd haudit (operationAudit_of_empty hfin hplanned)
          refine ⟨operationAudit_complete_iff.mp (hcomplete ▸ haudit), ?_, hending⟩
          cases intentsCleaned with
          | true => exact .inl (intentCleanup_cleaned_iff.mp hintents)
          | false => exact .inr ⟨hplanned, intentCleanup_waits_iff.mp hintents⟩
        · obtain ⟨hcleaned, hcomplete⟩ := hgates hplanned
          exact ⟨operationAudit_complete_iff.mp (hcomplete ▸ haudit),
            .inl (intentCleanup_cleaned_iff.mp (hcleaned ▸ hintents)), hending⟩
  · intro hclosable
    unfold advanceRetainedTarget
    rw [operationAudit_complete_iff.mpr hclosable.audit]
    dsimp only
    rcases hclosable.intents with hcleaned | ⟨hplanned, hwaits⟩
    · rw [intentCleanup_cleaned_iff.mpr hcleaned]
      exact (advanceOperations_closes_iff h hfin).mpr ⟨fun _ => ⟨rfl, rfl⟩, hclosable.ending⟩
    · rw [intentCleanup_waits_iff.mpr hwaits]
      exact (advanceOperations_closes_iff h hfin).mpr
        ⟨fun hne => absurd hplanned hne, hclosable.ending⟩

end

def barePorts : CyclePorts Unit where
  py := plainPython
  dirs := none
  processInstanceId := "process-a"
  operationAudits := none
  intentSegmentLifecycle := false
  targetIntentCleanup := none
  recoveryObjectCleanup := none
  stagingTransfer := false

def endedRun (phase : Phase) : List (PlanningLabel Unit) :=
  nestedRun none ++ ["operation-a", "operation-b"].map fun operationId =>
    .journal (.call (.recordOperationPhaseTransition
      { sampleTransition .planned phase with operationId }))

def nestedPermit : MutationPermit := (nestedCall none).permit

def nestedTables : RunTables := nestedWorld.tables (nestedCall none).view

def nestedTarget : RunTargetRow := nestedWorld.targetRow (nestedCall none).view

theorem nested_executing : ExecutingTarget nestedTables nestedPermit nestedTarget where
  keyed := ⟨by simp [Table.KeysUnique, nestedTables, PlanningWorld.tables],
    by simp [Table.KeysUnique, nestedTables, PlanningWorld.tables],
    by simp [Table.KeysUnique, nestedTables, PlanningWorld.tables]⟩
  run := ⟨_, List.mem_singleton.mpr rfl, rfl, rfl⟩
  stored := List.mem_singleton.mpr rfl
  runId := rfl
  id := rfl
  executing := rfl
  planned := by decide
  held := by decide

def endedIn (phase : Phase) (c : Connection Unit) : Bool :=
  finishedPhases.contains phase && c.current.operations.map (fun row => (row.runId,
    row.runTargetId, row.phase)) == List.replicate 2 ("run-a", "run-a-target-0000", phase)

theorem finished_of_endedIn {phase : Phase} {c : Connection Unit} (h : endedIn phase c = true) :
    Finished c.current.operations nestedPermit nestedTarget := by
  unfold endedIn at h
  rw [Bool.and_eq_true, beq_iff_eq, List.contains_iff_mem] at h
  obtain ⟨hphase, hrows⟩ := h
  refine ⟨fun operation hmem _ _ => ?_, fun _ => by decide, fun _ => ?_⟩
  · have hrow : (operation.runId, operation.runTargetId, operation.phase) ∈
        List.replicate 2 ("run-a", "run-a-target-0000", phase) := hrows ▸ List.mem_map_of_mem hmem
    have heq := List.eq_of_mem_replicate hrow
    simp only [Prod.mk.injEq] at heq
    exact heq.2.2 ▸ hphase
  · have hrow : ("run-a", "run-a-target-0000", phase) ∈
        c.current.operations.map fun row => (row.runId, row.runTargetId, row.phase) := by
      rw [hrows]
      exact List.mem_replicate.mpr ⟨by decide, rfl⟩
    obtain ⟨operation, hmem, heq⟩ := List.mem_map.mp hrow
    simp only [Prod.mk.injEq] at heq
    exact ⟨operation, hmem, heq.1, heq.2.1⟩

/-- When both operations have failed, the cycle plans the target again, the planning is refused, and
nothing has changed. -/
theorem failed_target_stays : ∃ c, (planning nestedWorld).Reachable c ∧
    Finished c.current.operations nestedPermit nestedTarget ∧
    advanceRetainedTarget barePorts nestedPermit nestedTarget nestedTables c =
      .handedTo .planOperations ∧
    ∃ c', planRunTargetRecoveryOperations nestedWorld.py nestedWorld.dirs nestedWorld.verifies
        nestedWorld.plans nestedTables nestedPermit "process-a" none c =
          (.failed "RECOVERY_OPERATION_IDEMPOTENCY_CONFLICT", c') ∧
      c'.current.operations = c.current.operations := by
  have hrun : ((planning nestedWorld).replay emptyConnection (endedRun .failedRetryable)).any
      (fun c =>
        let planned := planRunTargetRecoveryOperations nestedWorld.py nestedWorld.dirs
          nestedWorld.verifies nestedWorld.plans nestedTables nestedPermit "process-a" none c
        endedIn .failedRetryable c &&
          (match advanceRetainedTarget barePorts nestedPermit nestedTarget nestedTables c with
            | .handedTo .planOperations => true
            | _ => false) &&
          planned.1 == .failed "RECOVERY_OPERATION_IDEMPOTENCY_CONFLICT" &&
          planned.2.current.operations == c.current.operations) = true := by decide
  obtain ⟨c, hc, hany⟩ := (Option.any_eq_true _ _).mp hrun
  simp only [Bool.and_eq_true, beq_iff_eq] at hany
  obtain ⟨⟨⟨hended, hcycle⟩, hrefused⟩, hsame⟩ := hany
  have hreach : (planning nestedWorld).Reachable c :=
    System.Reachable.replay (.init ⟨(), rfl⟩) (endedRun .failedRetryable) hc
  have hstep : advanceRetainedTarget barePorts nestedPermit nestedTarget nestedTables c =
      .handedTo .planOperations := by
    split at hcycle
    · assumption
    · cases hcycle
  exact ⟨c, hreach, finished_of_endedIn hended, hstep, _, Prod.ext hrefused rfl, hsame⟩

theorem decision_target_closes : ∃ c, (planning nestedWorld).Reachable c ∧
    (advanceRetainedTarget barePorts nestedPermit nestedTarget nestedTables c).Closes
      nestedPermit := by
  have hrun : ((planning nestedWorld).replay emptyConnection (endedRun .userDecisionRequired)).any
      (fun c => endedIn .userDecisionRequired c &&
        terminalOperations c.current.operations nestedPermit nestedTarget
          .userDecisionRequired != []
          && allBound nestedPermit (terminalOperations c.current.operations nestedPermit
            nestedTarget .userDecisionRequired)) = true := by decide
  obtain ⟨c, hc, hany⟩ := (Option.any_eq_true _ _).mp hrun
  simp only [Bool.and_eq_true, bne_iff_ne] at hany
  obtain ⟨⟨hended, hsome⟩, hbound⟩ := hany
  have hreach : (planning nestedWorld).Reachable c :=
    System.Reachable.replay (.init ⟨(), rfl⟩) (endedRun .userDecisionRequired) hc
  have hclosable : Closable barePorts nestedPermit nestedTarget c :=
    ⟨fun _ hstore => (nomatch hstore), .inl ⟨rfl, fun hno => (nomatch hno)⟩,
      .decision (by decide) hsome hbound⟩
  exact ⟨c, hreach,
    (finished_target_closes_iff nested_executing (finished_of_endedIn hended)).mpr hclosable⟩

end MediaSync.Execution
