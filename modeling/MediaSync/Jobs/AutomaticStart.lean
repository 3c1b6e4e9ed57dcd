import MediaSync.Execution.SealedPlans
import MediaSync.Plans.Decisions

/-! After an analysis the engine starts a sealed plan by itself where `_safe_for_automatic_start`
holds. -/
namespace MediaSync.Jobs
open Plans

/-- `AutomationPolicy(value)`; no policy where the constructor raises. -/
def automationPolicyOf (value : String) : Option AutomationPolicy :=
  [AutomationPolicy.newFilesOnly, .newAndChangedWithVersions, .analyzeOnly].find?
    (policyValue · = value)

@[simp] theorem automationPolicyOf_value (policy : AutomationPolicy) :
    automationPolicyOf (policyValue policy) = some policy := by
  cases policy <;> decide

def newFileOperationIsSafe (operation : PlanOperation) : Bool :=
  operation.riskLevel = .low && (operation.operationType = .createDirectory ||
    (operation.operationType = .copyNew && operation.targetPreconditionKind = .absent &&
      operation.reasonCode = "COPY_NEW"))

def replacementIsSafe (operation : PlanOperation) : Bool :=
  operation.operationType = .copyNew && operation.targetPreconditionKind = .matchFingerprint &&
    operation.reasonCode = "REPLACE_WITH_VERSION" && operation.riskLevel = .medium

def safeForAutomaticStart (plan : PlanRecord) : Bool :=
  let mutating := plan.operations.filter PlanOperation.mutating
  match automationPolicyOf plan.executionPolicy with
  | none => !mutating.isEmpty && plan.highestRisk = some RiskLevel.low.value &&
      mutating.all newFileOperationIsSafe && mutating.length = plan.operations.length
  | some policy =>
    if policy = .analyzeOnly || mutating.isEmpty then false
    else if plan.highestRisk = some RiskLevel.blocked.value then false
    else if plan.operations.any fun operation =>
        !(operation.mutating || operation.operationType = .deferAutomationPolicy) then false
    else if policy = .newFilesOnly then mutating.all newFileOperationIsSafe
    else mutating.all fun operation =>
      newFileOperationIsSafe operation || replacementIsSafe operation

def LowRiskCreation (operation : PlanOperation) : Prop :=
  operation.riskLevel = .low ∧ (operation.operationType = .createDirectory ∨
    operation.operationType = .copyNew ∧ operation.targetPreconditionKind = .absent)

def VersionedReplacement (operation : PlanOperation) : Prop :=
  operation.operationType = .copyNew ∧ operation.targetPreconditionKind = .matchFingerprint ∧
    operation.reasonCode = "REPLACE_WITH_VERSION"

def Permitted : Option AutomationPolicy → PlanOperation → Prop
  | some .analyzeOnly, _ => False
  | some .newFilesOnly, operation | none, operation => LowRiskCreation operation
  | some .newAndChangedWithVersions, operation =>
    LowRiskCreation operation ∨ VersionedReplacement operation

section
variable {plan : PlanRecord} {operation : PlanOperation}

theorem LowRiskCreation.of_safe (h : newFileOperationIsSafe operation = true) :
    LowRiskCreation operation := by
  simp only [newFileOperationIsSafe, Bool.and_eq_true, Bool.or_eq_true, decide_eq_true_eq] at h
  exact ⟨h.1, h.2.imp id And.left⟩

theorem VersionedReplacement.of_safe (h : replacementIsSafe operation = true) :
    VersionedReplacement operation := by
  simp only [replacementIsSafe, Bool.and_eq_true, decide_eq_true_eq] at h
  exact ⟨h.1.1.1, h.1.1.2, h.1.2⟩

theorem ite_false_eq_true {p : Prop} [Decidable p] {test : Bool} :
    (if p then false else test) = true ↔ ¬p ∧ test = true := by
  by_cases h : p <;> simp [h]

variable {policy : AutomationPolicy}

theorem safe_under_policy (hpolicy : automationPolicyOf plan.executionPolicy = some policy) :
    safeForAutomaticStart plan = true ↔ policy ≠ .analyzeOnly ∧
      (∃ operation ∈ plan.operations, operation.mutating = true) ∧
      plan.highestRisk ≠ some RiskLevel.blocked.value ∧
      ∀ operation ∈ plan.operations,
        (operation.mutating = true → newFileOperationIsSafe operation = true ∨
          policy = .newAndChangedWithVersions ∧ replacementIsSafe operation = true) ∧
        (operation.mutating = false → operation.operationType = .deferAutomationPolicy) := by
  have hsome : (plan.operations.filter PlanOperation.mutating).isEmpty = false ↔
      ∃ operation ∈ plan.operations, operation.mutating = true := by
    simp [List.isEmpty_eq_false_iff]
  have hother : (plan.operations.any fun operation =>
        !(operation.mutating || operation.operationType = .deferAutomationPolicy)) = false ↔
      ∀ operation ∈ plan.operations,
        operation.mutating = false → operation.operationType = .deferAutomationPolicy := by
    simp [List.any_eq_false]
  have hall : ∀ test : PlanOperation → Bool,
      (plan.operations.filter PlanOperation.mutating).all test = true ↔
        ∀ operation ∈ plan.operations, operation.mutating = true → test operation = true := by
    intro test
    simp [List.all_filter, Bool.or_eq_true, ← imp_iff_not_or, ← Bool.not_eq_true]
  simp only [safeForAutomaticStart, hpolicy, ite_false_eq_true, Bool.or_eq_true,
    decide_eq_true_eq, not_or, Bool.not_eq_true, hsome, hother, forall₂_and]
  rw [and_assoc]
  refine and_congr_right fun hpolicy => and_congr_right fun _ => and_congr_right fun _ => ?_
  rw [and_comm]
  refine and_congr_left fun _ => ?_
  cases policy with
  | analyzeOnly => exact absurd rfl hpolicy
  | newFilesOnly =>
    rw [if_pos rfl, hall]
    simp
  | newAndChangedWithVersions =>
    rw [if_neg (by decide), hall]
    simp

theorem permitted_of_safe (h : safeForAutomaticStart plan = true)
    (hmem : operation ∈ plan.operations) :
    (operation.mutating = true →
      Permitted (automationPolicyOf plan.executionPolicy) operation) ∧
    (operation.mutating = false → operation.operationType = .deferAutomationPolicy) := by
  cases hpolicy : automationPolicyOf plan.executionPolicy with
  | none =>
    simp only [safeForAutomaticStart, hpolicy, Bool.and_eq_true, decide_eq_true_eq,
      List.all_eq_true, List.mem_filter] at h
    have hmutating : operation.mutating = true :=
      List.length_filter_eq_length_iff.mp h.2 operation hmem
    refine ⟨fun _ => LowRiskCreation.of_safe (h.1.2 operation ⟨hmem, hmutating⟩), fun hnot => ?_⟩
    rw [hmutating] at hnot
    cases hnot
  | some policy =>
    obtain ⟨hanalyze, -, -, hall⟩ := (safe_under_policy hpolicy).mp h
    refine ⟨fun hmutating => ?_, (hall operation hmem).2⟩
    have hsafe := (hall operation hmem).1 hmutating
    cases policy with
    | analyzeOnly => exact absurd rfl hanalyze
    | newFilesOnly =>
      exact LowRiskCreation.of_safe (hsafe.resolve_right fun hother => by cases hother.1)
    | newAndChangedWithVersions =>
      exact hsafe.imp LowRiskCreation.of_safe fun hother => VersionedReplacement.of_safe hother.2

theorem highest_eq_blocked (occurs : RiskLevel → Bool) :
    (([RiskLevel.blocked, .high, .medium, .low].find? occurs).getD .low).value =
      RiskLevel.blocked.value ↔ occurs .blocked = true := by
  cases hblocked : occurs .blocked with
  | true => simp [hblocked]
  | false =>
    cases hhigh : occurs .high <;> cases hmedium : occurs .medium <;> cases hlow : occurs .low <;>
      simp [hblocked, hhigh, hmedium, hlow, RiskLevel.value]

theorem highestRisk_eq_blocked (hsummary : plan.riskSummary = riskSummary plan.operations) :
    plan.highestRisk = some RiskLevel.blocked.value ↔
      ∃ operation ∈ plan.operations, operation.riskLevel = .blocked := by
  have hhighest : plan.highestRisk = some (([RiskLevel.blocked, .high, .medium, .low].find?
      fun risk => plan.operations.countP (·.riskLevel = risk) ≠ 0).getD .low).value := by
    rw [PlanRecord.highestRisk, hsummary]
    rfl
  rw [hhighest, Option.some.injEq, highest_eq_blocked]
  simp [List.countP_eq_zero]

theorem safe_of_planned (h : Planned policy operation) (hmutating : operation.mutating = true) :
    newFileOperationIsSafe operation = true ∨
      policy = .newAndChangedWithVersions ∧ replacementIsSafe operation = true := by
  cases h with
  | blocked htype _ | deferred htype _ =>
    rw [PlanOperation.mutating, htype] at hmutating
    cases hmutating
  | directory _ htype _ hrisk => exact .inl (by simp [newFileOperationIsSafe, htype, hrisk])
  | copy _ htype hkind hreason hrisk =>
    exact .inl (by simp [newFileOperationIsSafe, htype, hkind, hreason, hrisk])
  | replacement hpolicy htype hkind hreason hrisk =>
    exact .inr ⟨hpolicy, by simp [replacementIsSafe, htype, hkind, hreason, hrisk]⟩

theorem policy_of_mutating (h : Planned policy operation) (hmutating : operation.mutating = true) :
    policy ≠ .analyzeOnly := by
  cases h with
  | blocked htype _ | deferred htype _ =>
    rw [PlanOperation.mutating, htype] at hmutating
    cases hmutating
  | directory hallowed | copy hallowed => exact hallowed
  | replacement hallowed =>
    rw [hallowed]
    decide

theorem blocked_or_deferred (h : Planned policy operation)
    (hmutating : operation.mutating = false) :
    operation.riskLevel = .blocked ∨ operation.operationType = .deferAutomationPolicy := by
  cases h with
  | blocked _ hrisk => exact .inl hrisk
  | deferred htype _ => exact .inr htype
  | directory _ htype | copy _ htype | replacement _ htype =>
    rw [PlanOperation.mutating, htype] at hmutating
    cases hmutating

theorem absent_of_planned (h : Planned policy operation) (hmutating : operation.mutating = true)
    (hrisk : operation.riskLevel = .low) : operation.targetPreconditionKind = .absent := by
  cases h with
  | blocked htype _ | deferred htype _ =>
    rw [PlanOperation.mutating, htype] at hmutating
    cases hmutating
  | directory _ _ hkind | copy _ _ hkind => exact hkind
  | replacement _ _ _ _ hmedium =>
    rw [hmedium] at hrisk
    cases hrisk

theorem safe_iff_of_planned (hpolicy : automationPolicyOf plan.executionPolicy = some policy)
    (hsummary : plan.riskSummary = riskSummary plan.operations)
    (hplanned : ∀ operation ∈ plan.operations, Planned policy operation) :
    safeForAutomaticStart plan = true ↔
      (∃ operation ∈ plan.operations, operation.mutating = true) ∧
        ∀ operation ∈ plan.operations, operation.riskLevel ≠ .blocked := by
  have hblocked : plan.highestRisk ≠ some RiskLevel.blocked.value ↔
      ∀ operation ∈ plan.operations, operation.riskLevel ≠ .blocked := by
    rw [ne_eq, highestRisk_eq_blocked hsummary]
    simp
  rw [safe_under_policy hpolicy, hblocked]
  constructor
  · exact fun h => ⟨h.2.1, h.2.2.1⟩
  · rintro ⟨⟨operation, hmem, hmutating⟩, hnone⟩
    refine ⟨policy_of_mutating (hplanned operation hmem) hmutating,
      ⟨operation, hmem, hmutating⟩, hnone, fun other hother => ⟨?_, fun hnot => ?_⟩⟩
    · exact safe_of_planned (hplanned other hother)
    · exact (blocked_or_deferred (hplanned other hother) hnot).resolve_left (hnone other hother)

end

/-- A sealed plan that the gate accepts asks for nothing that its policy does not permit, and a
plan that the planner has built is accepted where it has something to do and nothing blocked. -/
theorem automatic_start_permitted :
    (∀ interpreter request plan, sealPlan interpreter request = .ok plan →
      safeForAutomaticStart plan = true → ∀ operation ∈ plan.operations,
        (operation.mutating = true →
          Permitted (automationPolicyOf plan.executionPolicy) operation ∧
            operation.targetPreconditionKind ≠ .none) ∧
        (operation.mutating = false → operation.operationType = .deferAutomationPolicy)) ∧
    ∀ folding interpreter request build plan,
      buildInitialBackupPlan folding interpreter request = .ok build → build.plan = some plan →
      (safeForAutomaticStart plan = true ↔
        (∃ operation ∈ plan.operations, operation.mutating = true) ∧
          ∀ operation ∈ plan.operations, operation.riskLevel ≠ .blocked) ∧
      ∀ operation ∈ plan.operations, operation.mutating = true → operation.riskLevel = .low →
        operation.targetPreconditionKind = .absent := by
  refine ⟨fun interpreter request plan hseal hsafe operation hmem => ?_,
    fun folding interpreter request build plan hbuild hplan => ?_⟩
  -- the gate gives the permission, the seal gives the precondition
  · obtain ⟨hpermitted, hdeferred⟩ := permitted_of_safe hsafe hmem
    refine ⟨fun hmutating => ⟨hpermitted hmutating, ?_⟩, hdeferred⟩
    have hchecked := operationChecked_of_sealPlan hseal hmem
    exact (Execution.guarded_of_checked hchecked (.inl hmutating)).precondition
  · obtain ⟨hpolicy, hsummary, hplanned⟩ := planned_of_build hbuild hplan
    refine ⟨safe_iff_of_planned (hpolicy ▸ automationPolicyOf_value _) hsummary hplanned, ?_⟩
    exact fun operation hmem => absent_of_planned (hplanned operation hmem)

def drive (endpointId : String) (role : EndpointRole) : PlanEndpoint where
  endpointId
  endpointRevisionId := "revision"
  snapshotId := "snapshot"
  role
  capabilitiesHash := "capabilities"
  rootCaseContextHash := "context"
  endpointGeneration := 1
  targetOrdinal := if role = .source then none else some 0
  requiredOwnerInstallationId := if role = .source then none else some "installation"
  requiredOwnershipEpoch := if role = .source then none else some 1
  controlSchemaVersion := if role = .source then none else some 4

def backupSide (endpointId : String) (role : EndpointRole)
    (entries : List Snapshots.SnapshotFileEntry) : InitialBackupPlanningEndpoint where
  endpointId
  endpointRevisionId := "revision"
  endpointGeneration := 1
  snapshotId := "snapshot-" ++ endpointId
  snapshotChecksum := "checksum"
  rootCaseContextHash := "context"
  rootCaseMode := "CASE_INSENSITIVE"
  capabilitiesHash := "capabilities"
  destructiveEvidence := ⟨true, true⟩
  entries
  role
  targetOrdinal := if role = .source then none else some 0
  requiredOwnerInstallationId := if role = .source then none else some "installation"
  requiredOwnershipEpoch := if role = .source then none else some 1
  controlSchemaVersion := if role = .source then none else some 4

def photosBackup : InitialBackupPlanRequest where
  planId := "plan"
  analysisId := "analysis"
  jobId := "job"
  jobRevisionId := "job-revision"
  endpoints := [
    backupSide "source" .source [{
      entryId := "entry", relativePath := "Photos", comparisonKey := "photos",
      objectType := "directory" }],
    backupSide "target" .targetWritable []]

theorem automatic_start_photos : ∃ build plan,
    buildInitialBackupPlan Text.asciiFolding (Execution.interpreterFor "" []) photosBackup =
      .ok build ∧ build.plan = some plan ∧ safeForAutomaticStart plan = true ∧
    ∀ operation ∈ plan.operations, operation.mutating = true → operation.riskLevel = .low →
      operation.targetPreconditionKind = .absent := by
  have hrun : (buildInitialBackupPlan Text.asciiFolding (Execution.interpreterFor "" [])
      photosBackup).toOption.any (fun build => build.plan.any fun plan =>
        plan.operations.any PlanOperation.mutating &&
          plan.operations.all (·.riskLevel ≠ .blocked)) = true := by
    decide +kernel
  cases hbuild : buildInitialBackupPlan Text.asciiFolding (Execution.interpreterFor "" [])
    photosBackup with
  | error raised =>
    rw [hbuild] at hrun
    cases hrun
  | ok build =>
    rw [hbuild] at hrun
    obtain ⟨plan, hplan, htests⟩ := (Option.any_eq_true _ build.plan).mp hrun
    have hgate := automatic_start_permitted.2 _ _ _ _ _ hbuild hplan
    refine ⟨build, plan, rfl, hplan, hgate.1.mpr ?_, hgate.2⟩
    simpa using htests

def overEmptyDirectory : PlanRequest where
  planId := "plan"
  analysisId := "analysis"
  jobId := "job"
  jobRevisionId := "job-revision"
  endpoints := [drive "source" .source, drive "target" .targetWritable]
  operations := [{ Execution.photosOperation with targetPreconditionKind := .directoryEmpty }]
  executionPolicy := "NEW_FILES_ONLY"

/-- The gate starts a directory creation that does not wait for an absent target. -/
theorem directory_started_over_empty : ∃ plan,
    sealPlan (Execution.interpreterFor "" []) overEmptyDirectory = .ok plan ∧
    safeForAutomaticStart plan = true ∧ plan.executionPolicy = "NEW_FILES_ONLY" ∧
    ∃ operation ∈ plan.operations, operation.mutating = true ∧
      operation.targetPreconditionKind ≠ .absent := by
  have hchecks : validatePlanIdentity overEmptyDirectory = .ok () ∧
      validateEndpoints overEmptyDirectory.orderedEndpoints = .ok () ∧
      validateOperations (Execution.interpreterFor "" []).library
        overEmptyDirectory.orderedOperations overEmptyDirectory.orderedEndpoints = .ok () ∧
      validateDependencies (Execution.interpreterFor "" []) overEmptyDirectory.orderedOperations
        overEmptyDirectory.orderedDependencies = .ok () := by
    decide +kernel
  refine ⟨_, sealPlan_eq_ok.mpr ⟨hchecks.1, hchecks.2.1, hchecks.2.2.1, hchecks.2.2.2, rfl⟩, ?_⟩
  decide +kernel

end MediaSync.Jobs
