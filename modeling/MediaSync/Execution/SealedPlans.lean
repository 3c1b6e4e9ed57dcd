import MediaSync.Execution.Planning
import MediaSync.Plans.Dependencies

/-! What the checks of sealing mean for the planning of recovery operations. -/
namespace MediaSync.Execution
open Text Recovery Runs Plans

/-- The operation names a relative target path and a precondition on it. -/
structure Guarded (operation : PlanOperation) : Prop where
  path : someNonBlank operation.targetRelativePath = true
  relative : operation.targetRelativePath.all (fun path => !looksAbsolutePath path) = true
  precondition : operation.targetPreconditionKind ≠ .none

variable {operation : PlanOperation}

theorem guarded_of_checked {library : PythonLibrary} {writable : List String}
    (h : OperationChecked library writable operation)
    (hwrites : operation.mutating = true ∨ operation.operationType = .deferAutomationPolicy) :
    Guarded operation := by
  have hcheck := h.targetPrecondition
  have hcase : (operation.mutating || operation.operationType = .deferAutomationPolicy) = true := by
    simpa using hwrites
  simp only [validateTargetPrecondition, hcase, if_true, unit_bind_eq_ok, check_eq_ok,
    decide_eq_true_eq] at hcheck
  exact ⟨hcheck.2.1, hcheck.2.2, hcheck.1⟩

theorem recoveryKind_isSome (operation : PlanOperation) :
    (recoveryKind operation.operationType).isSome = operation.mutating := by
  unfold PlanOperation.mutating
  cases operation.operationType <;> rfl

section
variable {py : PythonLibrary} {permit : MutationPermit} {run : RunRow} {target : RunTargetRow}
  {source : Option PlanEndpoint} {operation : PlanOperation} {row : RecoveryOperation}

theorem copyRow_target {planned : RecoveryOperation}
    (h : copyRow py row source operation = .ok planned) :
    planned.finalRelativePath = row.finalRelativePath ∧
      planned.targetPreconditionKind = row.targetPreconditionKind ∧
      planned.expectedTargetFingerprintJson = row.expectedTargetFingerprintJson := by
  unfold copyRow at h
  split at h
  · cases h
  · split at h
    · cases h
    · split at h <;> cases h
      exact ⟨rfl, rfl, rfl⟩

theorem plannedRecoveryOperation_target
    (h : plannedRecoveryOperation py permit run target source operation = .ok row) :
    operation.mutating = true ∧ operation.targetRelativePath = some row.finalRelativePath ∧
      row.targetPreconditionKind = recoveryPrecondition operation.targetPreconditionKind ∧
      row.expectedTargetFingerprintJson = none := by
  unfold plannedRecoveryOperation at h
  split at h
  · cases h
  · cases h
  · rename_i path kind hpath hkind
    have hmutating : operation.mutating = true := by
      rw [← recoveryKind_isSome, hkind]
      rfl
    refine ⟨hmutating, ?_⟩
    simp only at h
    split at h
    · cases h
    · rename_i planned hplanned
      have htarget : planned.finalRelativePath = path ∧
          planned.targetPreconditionKind =
            recoveryPrecondition operation.targetPreconditionKind ∧
          planned.expectedTargetFingerprintJson = none := by
        split at hplanned
        · exact copyRow_target hplanned
        · cases hplanned
          exact ⟨rfl, rfl, rfl⟩
      split at h <;> cases h
      exact ⟨htarget.1 ▸ hpath, htarget.2⟩

theorem recoveryPrecondition_ne_none {kind : PreconditionKind} (h : kind ≠ .none) :
    recoveryPrecondition kind ≠ .none := by
  cases kind with
  | none => exact absurd rfl h
  | absent | matchFingerprint | directoryEmpty => exact fun heq => by cases heq

end

/-- What the executor writes for in a sealed plan is guarded, and so are the rows that are planned
from it. A `REPLACE_CHANGED` is never selected. -/
theorem sealed_operation_guarded {interpreter : Interpreter} {request : PlanRequest}
    {plan : PlanRecord} (h : sealPlan interpreter request = .ok plan) {operation : PlanOperation}
    (hmem : operation ∈ plan.operations) :
    ((operation.mutating = true ∨ operation.operationType = .deferAutomationPolicy) →
      Guarded operation) ∧
    (operation.operationType = .replaceChanged → ∀ endpointId scope,
      operation ∉ selectedOperations (plan.sealedPlan (wellFormed_of_sealPlan h)) endpointId
        scope) ∧
    (∀ endpointId scope,
      operation ∈ selectedOperations (plan.sealedPlan (wellFormed_of_sealPlan h)) endpointId
        scope →
      (recoveryKind operation.operationType).isSome = true ∧
      ∀ py permit run target source row,
        plannedRecoveryOperation py permit run target source operation = .ok row →
        operation.targetRelativePath = some row.finalRelativePath ∧
          row.targetPreconditionKind = recoveryPrecondition operation.targetPreconditionKind ∧
          row.targetPreconditionKind ≠ .none ∧ row.expectedTargetFingerprintJson = none) := by
  have hguarded : (operation.mutating = true ∨
      operation.operationType = .deferAutomationPolicy) → Guarded operation :=
    guarded_of_checked (operationChecked_of_sealPlan h hmem)
  refine ⟨hguarded, fun hreplace endpointId scope hselected => ?_, fun endpointId scope hselected =>
    ⟨?_, fun py permit run target source row hrow => ?_⟩⟩
  -- a replacement does not mutate in the sense of the selection
  · have hmutating := (List.mem_filter.mp hselected).2
    simp [PlanOperation.mutating, hreplace, mutatingOperationTypes] at hmutating
  · have hmutating := (List.mem_filter.mp hselected).2
    simp only [Bool.and_eq_true] at hmutating
    rw [recoveryKind_isSome]
    exact hmutating.1.1
  · obtain ⟨hmutating, hpath, hkind, hold⟩ := plannedRecoveryOperation_target hrow
    have hprecondition := (hguarded (.inl hmutating)).precondition
    exact ⟨hpath, hkind, hkind ▸ recoveryPrecondition_ne_none hprecondition, hold⟩

def interpreterFor (text : String) (fields : Payload) : Interpreter where
  library := ⟨fun payload => if payload = text then some (.obj fields) else none, fun _ => true⟩
  sets := following [] List.nodup_nil
  frames := 1000

def requestOf (operations : List PlanOperation) : PlanRequest where
  planId := "plan"
  analysisId := "analysis"
  jobId := "job"
  jobRevisionId := "revision"
  operations

theorem sealPlan_requestOf {interpreter : Interpreter} {operations : List PlanOperation}
    (hvalid : validateOperations interpreter.library operations [] = .ok ())
    (hsorted : (requestOf operations).orderedOperations = operations)
    (hframes : 1 ≤ interpreter.frames) :
    ∃ plan, sealPlan interpreter (requestOf operations) = .ok plan ∧
      plan.operations = operations := by
  have hidentity : validatePlanIdentity (requestOf operations) = .ok () := by
    simp only [validatePlanIdentity, unit_bind_eq_ok, check_eq_ok, requestOf]
    decide
  have hwithout : (requestOf operations).withoutDependencies = requestOf operations := rfl
  have hother : OtherwiseValid interpreter.library (requestOf operations) :=
    ⟨hidentity, rfl, hsorted.symm ▸ hvalid⟩
  have hsealable := sealable_withoutDependencies_iff.mpr ⟨hother, hframes⟩
  rw [hwithout] at hsealable
  obtain ⟨plan, hplan⟩ := hsealable
  refine ⟨plan, hplan, ?_⟩
  obtain ⟨-, -, -, -, rfl⟩ := sealPlan_eq_ok.mp hplan
  exact hsorted

/-- A directory that is to be created. -/
def photosOperation : PlanOperation where
  operationId := "photos"
  operationType := .createDirectory
  sequenceNo := 0
  executionPhase := 0
  stableOrderKey := "photos"
  targetPreconditionKind := .absent
  reasonCode := "NEW_DIRECTORY"
  riskLevel := .low
  targetRelativePath := some "photos"

def photoFields : Payload := [
  ("identity_fingerprint_hash",
    .str "0000000000000000000000000000000000000000000000000000000000000000"),
  ("object_type", .str "file"), ("relative_path", .str "photo.jpg"), ("schema_version", .int 1),
  ("size_bytes", .int 7), ("snapshot_entry_id", .str "entry"), ("snapshot_id", .str "snapshot")]

def photoInterpreter : Interpreter := interpreterFor (Json.dump (.obj photoFields)) photoFields

theorem photoFields_parsed : SourceFilePrecondition.fromJson photoInterpreter.library
    (some (Json.dump (.obj photoFields))) = .ok ⟨"snapshot", "entry", "photo.jpg", 7,
      "0000000000000000000000000000000000000000000000000000000000000000", 1, "file"⟩ := by
  simp only [SourceFilePrecondition.fromJson, photoInterpreter, interpreterFor, if_true]
  rfl

/-- The copy of a file into the new directory. -/
def copyPhoto : PlanOperation where
  operationId := "copy"
  operationType := .copyNew
  sequenceNo := 1
  executionPhase := 1
  stableOrderKey := "photos/photo.jpg"
  targetPreconditionKind := .absent
  reasonCode := "NEW_FILE"
  riskLevel := .low
  targetRelativePath := some "photos/photo.jpg"
  sourceRelativePath := some "photo.jpg"
  sourcePreconditionJson := some (Json.dump (.obj photoFields))
  plannedBytes := 7

theorem sealed_photos : ∃ plan,
    sealPlan photoInterpreter (requestOf [photosOperation, copyPhoto]) = .ok plan ∧
      plan.operations = [photosOperation, copyPhoto] := by
  have hsource : Plans.validateSourcePrecondition photoInterpreter.library copyPhoto = .ok () := by
    unfold Plans.validateSourcePrecondition
    rw [show copyPhoto.sourcePreconditionJson = some (Json.dump (.obj photoFields)) from rfl,
      photoFields_parsed]
    decide
  have hphotos : OperationChecked photoInterpreter.library [] photosOperation :=
    ⟨by decide, by decide, by decide, by decide, by decide, by decide, rfl, rfl, by decide, rfl⟩
  have hcopy : OperationChecked photoInterpreter.library [] copyPhoto :=
    ⟨by decide, by decide, by decide, by decide, by decide, by decide, rfl, rfl, by decide, hsource⟩
  refine sealPlan_requestOf (validateOperations_eq_ok.mpr ⟨List.cons_ne_nil _ _, ?_, by decide,
    by decide⟩) rfl (by decide)
  exact List.forall_mem_cons.mpr ⟨hphotos, List.forall_mem_singleton.mpr hcopy⟩

theorem sealed_photos_guarded : ∃ plan,
    sealPlan photoInterpreter (requestOf [photosOperation, copyPhoto]) = .ok plan ∧
    plan.operations = [photosOperation, copyPhoto] ∧
    Guarded photosOperation ∧ Guarded copyPhoto := by
  obtain ⟨plan, hplan, hoperations⟩ := sealed_photos
  refine ⟨plan, hplan, hoperations, ?_, ?_⟩
  · exact (sealed_operation_guarded hplan (hoperations ▸ List.mem_cons_self)).1 (.inl rfl)
  · exact (sealed_operation_guarded hplan
      (hoperations ▸ List.mem_cons_of_mem _ List.mem_cons_self)).1 (.inl rfl)

def replacePhoto : PlanOperation where
  operationId := "replace"
  operationType := .replaceChanged
  sequenceNo := 0
  executionPhase := 0
  stableOrderKey := "photo"
  targetPreconditionKind := .none
  reasonCode := "CHANGED"
  riskLevel := .low
  sourceRelativePath := some "photo.jpg"
  sourcePreconditionJson := some (Json.dump (.obj photoFields))
  plannedBytes := 7

/-- Sealing accepts a replacement without a target path and without a precondition. -/
theorem unguarded_replacement_sealed : ∃ plan,
    sealPlan photoInterpreter (requestOf [replacePhoto]) = .ok plan ∧
    ∃ operation ∈ plan.operations, operation.operationType = .replaceChanged ∧
      operation.targetRelativePath = none ∧ operation.targetPreconditionKind = .none := by
  have hsource : Plans.validateSourcePrecondition photoInterpreter.library replacePhoto =
      .ok () := by
    unfold Plans.validateSourcePrecondition
    rw [show replacePhoto.sourcePreconditionJson = some (Json.dump (.obj photoFields)) from rfl,
      photoFields_parsed]
    decide
  have hchecked : OperationChecked photoInterpreter.library [] replacePhoto :=
    ⟨by decide, by decide, by decide, by decide, by decide, by decide, rfl, rfl, rfl, hsource⟩
  obtain ⟨plan, hplan, hoperations⟩ := sealPlan_requestOf (validateOperations_eq_ok.mpr
    ⟨List.cons_ne_nil _ _, List.forall_mem_singleton.mpr hchecked, by decide, by decide⟩) rfl
    (by decide)
  exact ⟨plan, hplan, replacePhoto, hoperations ▸ List.mem_singleton_self _, rfl, rfl, rfl⟩

end MediaSync.Execution
