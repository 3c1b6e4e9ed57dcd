import MediaSync.Recovery.JournalSafety

/-! One statement for every call of the operation store: it leaves the operations as they are,
inserts a planned row, or overwrites one row with a row of the same plan columns that stands under a
lease in force. -/
namespace MediaSync.Recovery
open Text

variable {Dir : Type}

def RecoveryOperation.asPlanned (operation : RecoveryOperation) : RecoveryOperation :=
  { operation with
    ownerInstallationId := ""
    ownershipEpoch := 0
    leaseId := ""
    fencingToken := 0
    phase := .planned
    sourceGuardKind := none
    sourceGuardEvidenceHash := none
    sourceHashEvidenceKind := none
    stagingObjectId := none
    versionObjectId := none
    versionCreatedUtc := none
    versionRetentionUntilUtc := none
    versionManifestHash := none
    quarantineObjectId := none
    intentSegmentId := none
    intentOrdinal := none
    expectedSourceFingerprintJson := none
    expectedTargetFingerprintJson := none
    expectedStagingFingerprintJson := none
    expectedFinalFingerprintJson := none
    transferState := none
    assuranceLevel := none
    stagingDurabilityState := none
    finalDurabilityState := none
    catalogHandoffId := none
    lastErrorCode := none
    stagingFailureCount := 0
    stagingRetryBackoffMs := none
    stagingRetryNotBeforeUtc := none }

theorem key_of_asPlanned {a b : RecoveryOperation} (h : a.asPlanned = b.asPlanned) :
    a.key = b.key :=
  (congrArg RecoveryOperation.key h : a.asPlanned.key = b.asPlanned.key)

theorem withMetadata_asPlanned (operation : RecoveryOperation)
    (metadata : Option RecoveryOperationMetadata) :
    (operation.withMetadata metadata).asPlanned = operation.asPlanned := by
  cases metadata <;> rfl

/-- A stored row and the row a call replaces it with. -/
structure Change (t : Tables Dir) (operation updated : RecoveryOperation) : Prop where
  stored : operation ∈ t.operations
  asPlanned : updated.asPlanned = operation.asPlanned
  lease : t.activeMatchingLease updated = true
  edge : updated.phase = operation.phase ∨
    Phase.validateRecoveryPhaseTransition operation.phase updated.phase = .ok ()

inductive Writes (call : Call) (t : Tables Dir) (after : List RecoveryOperation) : Prop
  | unchanged (h : after = t.operations)
  | planned (operation : RecoveryOperation) (processInstanceId : String)
      (payload : Option Payload)
      (hcall : call = .recordPlannedOperation operation processInstanceId payload)
      (hfresh : t.loadOperation operation.runId operation.operationId = none)
      (hlease : t.activeMatchingLease operation = true)
      (h : after = Table.insert t.operations operation)
  | changed (operation updated : RecoveryOperation) (hchange : Change t operation updated)
      (h : after = Table.overwrite RecoveryOperation.key t.operations updated)

theorem Writes.keysUnique {call : Call} {t : Tables Dir} {after : List RecoveryOperation}
    (h : Writes call t after) (hu : Table.KeysUnique RecoveryOperation.key t.operations) :
    Table.KeysUnique RecoveryOperation.key after := by
  cases h with
  | unchanged h => exact h ▸ hu
  | planned operation _ _ _ hfresh _ h => exact h ▸ hu.insert hfresh
  | changed _ _ _ h => exact h ▸ hu.overwrite

theorem Change.map_asPlanned {t : Tables Dir} {operation updated : RecoveryOperation}
    (h : Change t operation updated) (hu : Table.KeysUnique RecoveryOperation.key t.operations) :
    (Table.overwrite RecoveryOperation.key t.operations updated).map
      RecoveryOperation.asPlanned = t.operations.map RecoveryOperation.asPlanned := by
  simp only [Table.overwrite, List.map_map]
  refine List.map_congr_left fun row hrow => ?_
  by_cases hkey : row.key = updated.key
  · obtain rfl : row = operation :=
      Table.key_injOn hu hrow h.stored (hkey.trans (key_of_asPlanned h.asPlanned))
    simp [hkey, h.asPlanned]
  · simp [hkey]

section
variable {py : PythonLibrary} {dirs : Option (DirectoryRecoveryStore Dir)}

variable {t : Tables Dir}

theorem andThen_frame {α : Type} {value : α} {body : Body Dir Unit} :
    (body.andThen value t).2 = (body t).2 := by
  unfold Body.andThen
  rcases body t with ⟨raised | ⟨⟩, after⟩ <;> rfl

variable {args : TransitionArgs}

theorem operationAfterTransition_asPlanned {operation updated : RecoveryOperation}
    (h : operationAfterTransition py operation args = .ok updated) :
    updated.asPlanned = operation.asPlanned := by
  unfold operationAfterTransition at h
  obtain ⟨moved, hmoved, h⟩ := except_bind_ok h
  obtain ⟨_, -, h⟩ := except_bind_ok h
  cases h
  rw [withMetadata_asPlanned]
  unfold operationInPhase at hmoved
  split at hmoved
  · obtain ⟨_, -, hmoved⟩ := except_bind_ok hmoved
    obtain ⟨_, -, hmoved⟩ := except_bind_ok hmoved
    cases hmoved
    rfl
  · split at hmoved
    · obtain ⟨_, -, hmoved⟩ := except_bind_ok hmoved
      obtain ⟨_, -, hmoved⟩ := except_bind_ok hmoved
      cases hmoved
      rfl
    · obtain ⟨_, -, hmoved⟩ := except_bind_ok hmoved
      obtain ⟨_, -, hmoved⟩ := except_bind_ok hmoved
      cases hmoved
      rfl

theorem writes_recordPlanned {operation : RecoveryOperation} {processInstanceId : String}
    {payload : Option Payload} (t : Tables Dir) :
    Writes (.recordPlannedOperation operation processInstanceId payload) t
      (recordPlannedOperationBody dirs operation processInstanceId payload t).2.operations := by
  unfold recordPlannedOperationBody
  split
  · rename_i existing _
    split
    · exact .unchanged rfl
    · rw [andThen_frame]
      exact .unchanged (recordDirectory_frame dirs existing processInstanceId t).1
  · rename_i hfresh
    split
    · exact .unchanged rfl
    · rename_i hlease
      split
      · exact .unchanged rfl
      · rw [andThen_frame]
        exact .planned operation processInstanceId payload rfl hfresh (by simpa using hlease)
          (recordDirectory_frame dirs operation processInstanceId _).1

theorem writes_recordTransition
    (hcheck : Phase.validateRecoveryPhaseTransition args.expectedPhase args.nextPhase = .ok ()) :
    Writes (.recordOperationPhaseTransition args) t
      (recordOperationPhaseTransitionBody py dirs args t).2.operations := by
  unfold recordOperationPhaseTransitionBody
  split
  · exact .unchanged rfl
  · rename_i operation hload
    split
    · exact .unchanged rfl
    · rename_i hexpected
      split
      · exact .unchanged rfl
      · rename_i updated hupdated
        split
        · exact .unchanged rfl
        · rename_i hlease
          split
          · exact .unchanged rfl
          · split
            · exact .unchanged rfl
            · have hchange : Change t operation updated := by
                refine ⟨loadOperation_mem hload, operationAfterTransition_asPlanned hupdated,
                  by simpa using hlease, .inr ?_⟩
                rw [not_not.mp hexpected, (operationAfterTransition_spec hupdated).phase]
                exact hcheck
              dsimp only
              split
              · rw [andThen_frame]
                exact .changed operation updated hchange (catalogTerminal_frame dirs updated
                  args.processInstanceId args.payload _).1
              · exact .changed operation updated hchange rfl

theorem writes_recordStagingFailure {args : StagingFailureArgs}
    (hstaging : args.expectedPhase ∈ Phase.stagingPhases)
    (hnext : args.nextPhase = args.expectedPhase ∨ args.nextPhase = .skipped) :
    Writes (.recordStagingFailure args) t (recordStagingFailureBody py args t).2.operations := by
  unfold recordStagingFailureBody
  split
  · exact .unchanged rfl
  · rename_i operation hload
    split
    · exact .unchanged rfl
    · rename_i hexpected
      have hexpected : operation.phase = args.expectedPhase := not_not.mp (not_or.mp hexpected).1
      dsimp only
      split
      · exact .unchanged rfl
      · split
        · exact .unchanged rfl
        · split
          · exact .unchanged rfl
          · rename_i hlease
            split
            · exact .unchanged rfl
            · refine .changed operation (stagingFailureRow operation args)
                ⟨loadOperation_mem hload, rfl, by simpa using hlease, ?_⟩ rfl
              rcases hnext with hsame | hskipped
              · exact .inl (hsame.trans hexpected.symm)
              · right
                change Phase.validateRecoveryPhaseTransition operation.phase args.nextPhase = _
                rw [hexpected, hskipped]
                revert hstaging
                cases args.expectedPhase <;> decide

variable {expectedPhase : Phase}

theorem writes_recordLeaseRebound {args : RebindArgs} :
    Writes (.recordOperationLeaseRebound expectedPhase args) t
      (recordOperationLeaseReboundBody py expectedPhase args t).2.operations := by
  unfold recordOperationLeaseReboundBody
  split
  · exact .unchanged rfl
  · rename_i operation hload
    split
    · exact .unchanged rfl
    · split
      · exact .unchanged rfl
      · dsimp only
        split
        · exact .unchanged rfl
        · split
          · exact .unchanged rfl
          · rename_i hlease
            exact .changed operation (underLease operation args)
              ⟨loadOperation_mem hload, rfl, by simpa using hlease, .inl rfl⟩ rfl

theorem writes_recordIntentRefreshed {call : Call} {args : RefreshArgs} :
    Writes call t (recordIntentRefreshedBody py expectedPhase args t).2.operations := by
  unfold recordIntentRefreshedBody
  split
  · exact .unchanged rfl
  · rename_i operation hload
    split
    · exact .unchanged rfl
    · split
      · exact .unchanged rfl
      · dsimp only
        split
        · exact .unchanged rfl
        · split
          · exact .unchanged rfl
          · rename_i hlease
            split
            · exact .unchanged rfl
            · split
              · exact .unchanged rfl
              · exact .changed operation (refreshedRow operation args)
                  ⟨loadOperation_mem hload, rfl, by simpa using hlease, .inl rfl⟩ rfl

theorem writes_of_call {call : Call} (hcheck : call.precheck py = .ok ()) (t : Tables Dir) :
    Writes call t (call.body py dirs t).2.operations := by
  cases call with
  | recordPlannedOperation operation processInstanceId payload => exact writes_recordPlanned t
  | recordOperationPhaseTransition args =>
    obtain ⟨_, -, hcheck⟩ := except_bind_ok hcheck
    exact writes_recordTransition (raiseViolation_ok hcheck)
  | recordStagingFailure args =>
    obtain ⟨hstaging, hnext⟩ := stagingFailure_checked hcheck
    exact writes_recordStagingFailure hstaging hnext
  | recordOperationLeaseRebound expectedPhase args => exact writes_recordLeaseRebound
  | recordCommitIntentRefreshed args => exact writes_recordIntentRefreshed
  | recordOldTargetPreservedCommitIntentRefreshed args => exact writes_recordIntentRefreshed

theorem registerLease_operations (request : LeaseRequest) (t : Tables Dir) :
    (registerAcquiredResourceLease request t).2.operations = t.operations := by
  unfold registerAcquiredResourceLease
  repeat' split
  all_goals rfl

theorem releaseLease_operations (leaseId : String) (t : Tables Dir) :
    (releaseResourceLease leaseId t).2.operations = t.operations := by
  unfold releaseResourceLease
  dsimp only
  split <;> rfl

theorem reconcileLeases_operations (resourceKey endpointId : String) (t : Tables Dir) :
    (reconcileStaleActiveResourceLease resourceKey endpointId t).2.operations = t.operations := by
  unfold reconcileStaleActiveResourceLease
  dsimp only
  split <;> rfl

inductive TableStep (py : PythonLibrary) (dirs : Option (DirectoryRecoveryStore Dir))
    (t : Tables Dir) : Label Dir → Tables Dir → Prop
  | call {call : Call} (hcheck : call.precheck py = .ok ()) :
      TableStep py dirs t (.call call) (call.body py dirs t).2
  | registerLease {request : LeaseRequest} (hvalid : request.valid = true) :
      TableStep py dirs t (.registerLease request) (registerAcquiredResourceLease request t).2
  | releaseLease {leaseId : String} :
      TableStep py dirs t (.releaseLease leaseId) (releaseResourceLease leaseId t).2
  | reconcileLeases {resourceKey endpointId : String} :
      TableStep py dirs t (.reconcileLeases resourceKey endpointId)
        (reconcileStaleActiveResourceLease resourceKey endpointId t).2
  | neighbour {label : Label Dir} {t' : Tables Dir} (hops : t'.operations = t.operations)
      (hleases : t'.leases = t.leases) : TableStep py dirs t label t'

theorem insertIntentSegment_leases (leaseAccepted : Bool) (leaseCode conflictCode : String)
    (segment : IntentSegment) (t : Tables Dir) :
    (insertIntentSegment leaseAccepted leaseCode conflictCode segment t).2.leases = t.leases := by
  unfold insertIntentSegment
  repeat' split
  all_goals rfl

theorem holds_of_tableStep {P : Tables Dir → Prop} {c c' : Connection Dir} {label : Label Dir}
    (hc : c.Holds P) (hnext : ∀ t', TableStep py dirs c.current label t' → P t')
    (hstep : connectionStep py dirs c label = some c') : c'.Holds P := by
  cases label with
  | call call =>
    obtain rfl := Option.some.inj hstep
    unfold performCall
    split
    · exact hc
    · rename_i hcheck
      exact hc.execute (hnext _ (.call hcheck))
  | begin =>
    simp only [connectionStep] at hstep
    split at hstep
    · cases hstep
    · obtain rfl := Option.some.inj hstep
      exact hc
  | commit =>
    simp only [connectionStep] at hstep
    split at hstep
    · obtain rfl := Option.some.inj hstep
      exact ⟨hc.2, hc.2⟩
    · cases hstep
  | rollback =>
    obtain rfl := Option.some.inj hstep
    exact ⟨hc.1, hc.1⟩
  | registerLease request =>
    obtain rfl := Option.some.inj hstep
    split
    · rename_i hvalid
      exact hc.execute (hnext _ (.registerLease hvalid))
    · exact hc
  | releaseLease leaseId =>
    obtain rfl := Option.some.inj hstep
    exact hc.execute (hnext _ .releaseLease)
  | reconcileLeases resourceKey endpointId =>
    obtain rfl := Option.some.inj hstep
    exact hc.execute (hnext _ .reconcileLeases)
  | publishSegment segment =>
    obtain rfl := Option.some.inj hstep
    split
    · exact hc.execute (hnext _ (.neighbour (insertIntentSegment_frame _ _ _ segment _).1
        (insertIntentSegment_leases _ _ _ segment _)))
    · exact hc
  | importSegment segment =>
    obtain rfl := Option.some.inj hstep
    split
    · exact hc.execute (hnext _ (.neighbour (insertIntentSegment_frame _ _ _ segment _).1
        (insertIntentSegment_leases _ _ _ segment _)))
    · exact hc
  | transitionSegment segmentId expectedState nextState =>
    obtain rfl := Option.some.inj hstep
    refine hc.execute (hnext _ (.neighbour ?_ ?_))
    · unfold transitionIntentSegmentState
      dsimp only
      repeat' split
      all_goals rfl
    · unfold transitionIntentSegmentState
      dsimp only
      repeat' split
      all_goals rfl
  | finalizeSegment segmentId =>
    obtain rfl := Option.some.inj hstep
    exact hc.execute (hnext _ (.neighbour rfl rfl))
  | writeDirectories directories =>
    obtain rfl := Option.some.inj hstep
    exact hc.execute (hnext _ (.neighbour rfl rfl))

end

end MediaSync.Recovery
