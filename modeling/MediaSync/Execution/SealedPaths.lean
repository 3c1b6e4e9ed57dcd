import MediaSync.Execution.SealedPlans
import MediaSync.Foundation.SafePaths

/-! Sealing only looks for a leading slash and for a colon in the first component. -/
namespace MediaSync.Execution
open Text Recovery Runs Plans

def relativePaths (plan : PlanRecord) : List String :=
  plan.operations.flatMap fun operation =>
    operation.targetRelativePath.toList ++ operation.sourceRelativePath.toList

/-- The snapshot, the recovery store and the parser accept the path. -/
structure PathAccepted (path : String) : Prop where
  snapshot : validSnapshotPath path = true
  recovery : validRelativePath path = true
  parsed : ∃ parsed, parseEndpointRelativePath path = .ok parsed

variable {path : String}

theorem pathAccepted_iff : PathAccepted path ↔ ∀ part ∈ components path, PortableName part := by
  refine ⟨fun h => parses_iff.mp h.parsed, fun h => ?_⟩
  have hsnapshot := validSnapshotPath_of_portable h
  exact ⟨hsnapshot, validRelativePath_of_snapshot hsnapshot, parses_iff.mpr h⟩

theorem mem_relativePaths {plan : PlanRecord} :
    path ∈ relativePaths plan ↔ ∃ operation ∈ plan.operations,
      operation.targetRelativePath = some path ∨ operation.sourceRelativePath = some path := by
  simp [relativePaths, Option.mem_toList]

theorem relative_of_checked {library : PythonLibrary} {writable : List String}
    {operation : PlanOperation} (h : OperationChecked library writable operation)
    (hpath : operation.targetRelativePath = some path ∨
      operation.sourceRelativePath = some path) : looksAbsolutePath path = false := by
  rcases hpath with htarget | hsource
  · have hcheck := h.targetPrecondition
    have hrelative : operation.targetRelativePath.all (fun path => !looksAbsolutePath path) =
        true := by
      unfold validateTargetPrecondition at hcheck
      split at hcheck
      · simp only [unit_bind_eq_ok, check_eq_ok] at hcheck
        exact hcheck.2.2
      · exact check_eq_ok.mp hcheck
    simpa [htarget] using hrelative
  · have hcheck := h.sourcePrecondition
    unfold Plans.validateSourcePrecondition at hcheck
    split at hcheck
    · simp [hsource] at hcheck
    · simp only [check_bind_eq_ok] at hcheck
      simpa [hsource] using hcheck.2.1

section
variable {py : PythonLibrary} {permit : MutationPermit} {run : RunRow} {target : RunTargetRow}
  {source : Option PlanEndpoint} {operation : PlanOperation} {row : RecoveryOperation}

theorem plannedRecoveryOperation_source
    (h : plannedRecoveryOperation py permit run target source operation = .ok row) {path : String}
    (hpath : row.sourceRelativePath = some path) : operation.sourceRelativePath = some path := by
  unfold plannedRecoveryOperation at h
  split at h
  · cases h
  · cases h
  · simp only at h
    split at h
    · cases h
    · rename_i planned hplanned
      split at h
      · cases h
      · cases h
        split at hplanned
        · unfold copyRow at hplanned
          split at hplanned
          · cases hplanned
          · split at hplanned
            · cases hplanned
            · split at hplanned <;> cases hplanned
              exact hpath
        · cases hplanned
          cases hpath

end

/-- A sealed plan has no absolute path, and the later checks accept its paths exactly when all their
components are portable names. -/
theorem sealed_paths_accepted_iff {interpreter : Interpreter} {request : PlanRequest}
    {plan : PlanRecord} (h : sealPlan interpreter request = .ok plan) :
    (∀ path ∈ relativePaths plan, looksAbsolutePath path = false) ∧
    ((∀ path ∈ relativePaths plan, PathAccepted path) ↔
      ∀ path ∈ relativePaths plan, ∀ part ∈ components path, PortableName part) ∧
    ((∀ path ∈ relativePaths plan, ∀ part ∈ components path, PortableName part) →
      ∀ operation ∈ plan.operations, ∀ py permit run target source row,
        plannedRecoveryOperation py permit run target source operation = .ok row →
        ∀ path, (row.finalRelativePath = path ∨ row.sourceRelativePath = some path) →
          PathAccepted path) := by
  refine ⟨fun path hpath => ?_, ⟨fun haccepted path hpath => ?_, fun hportable path hpath => ?_⟩,
    fun hportable operation hmem py permit run target source row hrow path hpath => ?_⟩
  -- the seal refuses absolute paths only
  · obtain ⟨operation, hmem, hnamed⟩ := mem_relativePaths.mp hpath
    exact relative_of_checked (operationChecked_of_sealPlan h hmem) hnamed
  · exact pathAccepted_iff.mp (haccepted path hpath)
  · exact pathAccepted_iff.mpr (hportable path hpath)
  · refine pathAccepted_iff.mpr (hportable path (mem_relativePaths.mpr ⟨operation, hmem, ?_⟩))
    rcases hpath with rfl | hsource
    · exact .inl (plannedRecoveryOperation_target hrow).2.1
    · exact .inr (plannedRecoveryOperation_source hrow hsource)

theorem sealed_photos_accepted : ∃ plan,
    sealPlan photoInterpreter (requestOf [photosOperation, copyPhoto]) = .ok plan ∧
    relativePaths plan = ["photos", "photos/photo.jpg", "photo.jpg"] ∧
    ∀ path ∈ relativePaths plan, PathAccepted path := by
  obtain ⟨plan, hplan, hoperations⟩ := sealed_photos
  have hpaths : relativePaths plan = ["photos", "photos/photo.jpg", "photo.jpg"] := by
    rw [relativePaths, hoperations]
    rfl
  refine ⟨plan, hplan, hpaths, (sealed_paths_accepted_iff hplan).2.1.mpr ?_⟩
  have hportable : ∀ path ∈ ["photos", "photos/photo.jpg", "photo.jpg"],
      validateEndpointRelativePath path = .ok () := by decide
  rw [hpaths]
  exact fun path hpath => validateEndpointRelativePath_eq_ok.mp (hportable path hpath)

def deviceOperation : PlanOperation :=
  { photosOperation with targetRelativePath := some "photos/CON" }

/-- A path is sealed, and accepted for the recovery operation, that the parser rejects. -/
theorem sealed_device_rejected : ∃ plan, sealPlan (interpreterFor "" [])
    (requestOf [deviceOperation]) = .ok plan ∧ "photos/CON" ∈ relativePaths plan ∧
    validRelativePath "photos/CON" = true ∧
    parseEndpointRelativePath "photos/CON" = .error "SAFE_PATH_RESERVED_DEVICE_NAME" ∧
    ¬ ∀ path ∈ relativePaths plan, PathAccepted path := by
  have hchecked : OperationChecked (interpreterFor "" []).library [] deviceOperation :=
    ⟨by decide, by decide, by decide, by decide, by decide, by decide, rfl, rfl, by decide, rfl⟩
  obtain ⟨plan, hplan, hoperations⟩ := sealPlan_requestOf (validateOperations_eq_ok.mpr
    ⟨List.cons_ne_nil _ _, List.forall_mem_singleton.mpr hchecked, by decide, by decide⟩) rfl
    (by decide)
  have hpaths : relativePaths plan = ["photos/CON"] := by
    rw [relativePaths, hoperations]
    rfl
  have hrejected : parseEndpointRelativePath "photos/CON" =
      .error "SAFE_PATH_RESERVED_DEVICE_NAME" :=
    parseEndpointRelativePath_eq_error (by decide)
  refine ⟨plan, hplan, hpaths ▸ List.mem_singleton_self _, by decide, hrejected,
    fun haccepted => ?_⟩
  obtain ⟨parsed, hparsed⟩ := (haccepted _ (hpaths ▸ List.mem_singleton_self _)).parsed
  rw [hrejected] at hparsed
  cases hparsed

end MediaSync.Execution
