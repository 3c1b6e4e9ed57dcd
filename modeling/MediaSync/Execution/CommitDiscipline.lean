import MediaSync.Execution.JournaledCommit
import MediaSync.Recovery.StoredRows

/-! The final commit port is called only on a journalled precondition check and, over an old target,
only after the target is preserved under a managed object. -/
namespace MediaSync.Execution
open Recovery Text

def rowInPhase (operation : RecoveryOperation) (phase : Phase)
    (metadata : RecoveryOperationMetadata) : RecoveryOperation :=
  { operation with
    phase
    stagingRetryBackoffMs := none
    stagingRetryNotBeforeUtc := none }.withMetadata (some metadata)

/-- The store takes the row. -/
structure Takes (py : PythonLibrary) (t : Tables DirectoryTables) (row : RecoveryOperation) :
    Prop where
  valid : validateRecoveryOperation py row = .ok ()
  lease : t.activeMatchingLease row = true
  accepted : t.acceptsRow row = true

section
variable {py : PythonLibrary} {t t' : Tables DirectoryTables} {operation row : RecoveryOperation}
  {phase : Phase} {metadata : RecoveryOperationMetadata}

variable {lastErrorCode finalDurabilityState : Option String}

theorem validate_rowInPhase (h : validateRecoveryOperation py row = .ok ())
    (hintent : row.phase ∈ Phase.phasesRequiringIntent)
    (hhandoff : phase ∉ Phase.phasesRequiringCatalogHandoff) : validateRecoveryOperation py
      (rowInPhase row phase { lastErrorCode, finalDurabilityState }) = .ok () := by
  obtain ⟨_, hidentifiers, h⟩ := except_bind_ok h
  obtain ⟨_, hjob, h⟩ := except_bind_ok h
  obtain ⟨_, hversion, h⟩ := except_bind_ok h
  obtain ⟨_, hretry, h⟩ := except_bind_ok h
  obtain ⟨_, hpaths, h⟩ := except_bind_ok h
  obtain ⟨_, hhashes, h⟩ := except_bind_ok h
  obtain ⟨_, hbinding, -⟩ := except_bind_ok h
  have hcount : 0 ≤ row.stagingFailureCount := by
    unfold validateStagingRetry at hretry
    simp only [check_bind_eq_ok, decide_eq_true_eq] at hretry
    exact hretry.1
  have hretry' : validateStagingRetry py
      (rowInPhase row phase { lastErrorCode, finalDurabilityState }) = .ok () := by
    show (do
      check (decide (0 ≤ row.stagingFailureCount))
        "RECOVERY_OPERATION_REQUIRES_NONNEGATIVE_FAILURE_COUNT"
      validateStagingRetryPersistence py none none
      check true "RECOVERY_OPERATION_STAGING_RETRY_STATE_INVALID") = Except.ok ()
    simp [hcount, validateStagingRetryPersistence, bind, Except.bind, pure, Except.pure, check]
  have hbinding' : validateIntentBinding
      (rowInPhase row phase { lastErrorCode, finalDurabilityState }) = .ok () := by
    unfold validateIntentBinding at hbinding ⊢
    rw [if_pos hintent] at hbinding
    split
    · exact hbinding
    · rfl
  have hhandoff' : validateCatalogHandoff
      (rowInPhase row phase { lastErrorCode, finalDurabilityState }) = .ok () := by
    unfold validateCatalogHandoff
    exact if_neg hhandoff
  show (do
    validateIdentifiers row
    validateJobBinding row
    validateVersionMetadata row
    validateStagingRetry py (rowInPhase row phase { lastErrorCode, finalDurabilityState })
    validatePaths py row
    validateHashes row
    validateIntentBinding (rowInPhase row phase { lastErrorCode, finalDurabilityState })
    validateCatalogHandoff (rowInPhase row phase { lastErrorCode, finalDurabilityState })) =
      Except.ok ()
  rw [hidentifiers, hjob, hversion, hretry', hpaths, hhashes, hbinding', hhandoff']
  rfl

theorem Takes.frame (h : Takes py t row) (hleases : t'.leases = t.leases)
    (hsegments : t'.segments = t.segments)
    (hoperations : ∀ other ∈ t'.operations, other ∈ t.operations ∨ other.key = row.key) :
    Takes py t' row := by
  refine ⟨h.valid, ?_, ?_⟩
  · have hlease := h.lease
    unfold Tables.activeMatchingLease at hlease ⊢
    rw [hleases]
    exact hlease
  · obtain ⟨hcolumns, hplaces⟩ := acceptsRow_iff.mp h.accepted
    refine acceptsRow_iff.mpr ⟨?_, fun other hother hsame => ?_⟩
    · unfold Tables.columnsAccepted Tables.loadIntentSegment at hcolumns ⊢
      rw [hsegments]
      exact hcolumns
    · rcases hoperations other hother with hold | hkey
      · exact hplaces other hold hsame
      · exact hkey

theorem Takes.next (h : Takes py t row) (hintent : row.phase ∈ Phase.phasesRequiringIntent)
    (hhandoff : phase ∉ Phase.phasesRequiringCatalogHandoff) :
    Takes py t (rowInPhase row phase { lastErrorCode, finalDurabilityState }) := by
  refine ⟨validate_rowInPhase h.valid hintent hhandoff, h.lease, ?_⟩
  obtain ⟨hcolumns, hplaces⟩ := acceptsRow_iff.mp h.accepted
  refine acceptsRow_iff.mpr ⟨?_, hplaces⟩
  unfold Tables.columnsAccepted at hcolumns ⊢
  simp only [Bool.and_eq_true] at hcolumns ⊢
  exact ⟨hcolumns.1, rfl⟩

end

namespace JournaledFinalCommitPort

variable {Files : Type} (port : JournaledFinalCommitPort Files)

/-- The tables after `operation` is moved on. -/
def moved (t : Tables DirectoryTables) (operation row : RecoveryOperation) (payload : Payload) :
    Tables DirectoryTables :=
  t.recordChange operation row port.processInstanceId (some payload)

section
variable {s : CommitState Files} {t : Tables DirectoryTables}
  {operation row : RecoveryOperation} {next : Phase}

theorem operationAfterTransition_plain (py : PythonLibrary) (operation : RecoveryOperation)
    (args : TransitionArgs) (hcommit : args.nextPhase ≠ .commitIntentRecorded)
    (hcatalog : args.nextPhase ≠ .catalogRecorded) (hsegment : args.intentSegmentId = none)
    (hordinal : args.intentOrdinal = none) (hhandoff : args.catalogHandoffId = none) :
    operationAfterTransition py operation args =
      validatedRow py (rowInPhase operation args.nextPhase (args.operationMetadata.getD {})) := by
  have hrow : { { operation with phase := args.nextPhase } with
      stagingRetryBackoffMs := none, stagingRetryNotBeforeUtc := none }.withMetadata
        args.operationMetadata =
      rowInPhase operation args.nextPhase (args.operationMetadata.getD {}) := by
    cases args.operationMetadata <;> rfl
  have hmoved : operationInPhase operation args =
      .ok { operation with phase := args.nextPhase } := by
    unfold operationInPhase
    rw [if_neg hcommit, if_neg hcatalog, hsegment, hordinal, hhandoff]
    rfl
  unfold operationAfterTransition validatedRow
  rw [hmoved]
  show (do
    raiseViolation (validateRecoveryOperation py _)
    pure _) = _
  rw [hrow]
  cases validateRecoveryOperation py
    (rowInPhase operation args.nextPhase (args.operationMetadata.getD {})) <;> rfl

theorem record_run (payload : Payload) (metadata : Option RecoveryOperationMetadata)
    (conflict : String) (hs : s.recovery = idle t)
    (hload : t.loadOperation operation.runId operation.operationId = some operation)
    (hstep : Phase.validateRecoveryPhaseTransition operation.phase next = .ok ())
    (hcommit : next ≠ .commitIntentRecorded) (hcatalog : next ≠ .catalogRecorded)
    (hrow : rowInPhase operation next (metadata.getD {}) = row) :
    (Takes port.py t row ∧
      port.record operation next payload metadata conflict s =
        (.ok row, { s with recovery := idle (port.moved t operation row payload) })) ∨
    (¬ Takes port.py t row ∧ ∃ exc recovery,
      port.record operation next payload metadata conflict s =
        (.error exc, { s with recovery }) ∧ recovery.committed = t) := by
  have hcheck : (port.transitionCall operation next payload metadata).precheck port.py =
      .ok () := by
    simp only [transitionCall, Call.precheck, validateProcessInstanceId,
      port.requiresProcessInstance, if_true, hstep, raiseViolation]
    rfl
  have hafter := operationAfterTransition_plain port.py operation
    { runId := operation.runId
      operationId := operation.operationId
      expectedPhase := operation.phase
      nextPhase := next
      processInstanceId := port.processInstanceId
      payload := some payload
      operationMetadata := metadata } hcommit hcatalog rfl rfl rfl
  simp only [hrow] at hafter
  have hrun : performCall port.py (attachedDirectories port.py port.attached)
      (port.transitionCall operation next payload metadata) s.recovery =
      (idle t).execute ((port.transitionCall operation next payload metadata).body port.py
        (attachedDirectories port.py port.attached)) := by
    unfold performCall
    rw [hcheck, hs]
  unfold record
  rw [hrun]
  simp only [Connection.execute, idle, Bool.false_eq_true, if_false, transitionCall, Call.body,
    recordOperationPhaseTransitionBody, hload, hafter, ne_eq, not_true_eq_false, hcommit, hcatalog,
    decide_false, Bool.false_and]
  cases hvalid : validateRecoveryOperation port.py row with
  | error code =>
    refine .inr ⟨fun h => ?_, ?_⟩
    · have := h.valid
      rw [hvalid] at this
      cases this
    · simp only [validatedRow, hvalid]
      exact ⟨_, _, rfl, rfl⟩
  | ok _ =>
    simp only [validatedRow, hvalid]
    cases hlease : t.activeMatchingLease row with
    | false =>
      refine .inr ⟨fun h => ?_, ?_⟩
      · have := h.lease
        rw [hlease] at this
        cases this
      · simp only [Bool.not_false, if_true]
        exact ⟨_, _, rfl, rfl⟩
    | true =>
      cases haccepts : t.acceptsRow row with
      | false =>
        refine .inr ⟨fun h => ?_, ?_⟩
        · have := h.accepted
          rw [haccepts] at this
          cases this
        · simp only [Bool.not_true, Bool.false_eq_true, if_false, Bool.not_false, if_true]
          exact ⟨_, _, rfl, rfl⟩
      | true =>
        simp only [Bool.not_true, Bool.false_eq_true, if_false]
        exact .inl ⟨⟨hvalid, hlease, haccepts⟩, rfl⟩

end

section
variable {t : Tables DirectoryTables} {operation row other : RecoveryOperation}
  {payload : Payload}

theorem moved_load (hload : t.loadOperation operation.runId operation.operationId = some operation)
    (hkey : row.key = operation.key) :
    (port.moved t operation row payload).loadOperation operation.runId operation.operationId =
      some row := by
  show Table.lookup RecoveryOperation.key
    (Table.overwrite RecoveryOperation.key t.operations row) operation.key = some row
  have hrow : Table.lookup RecoveryOperation.key t.operations row.key = some operation := by
    rw [hkey]
    exact hload
  rw [← hkey]
  exact Table.lookup_overwrite_self hrow

theorem moved_takes (hkey : row.key = other.key) :
    Takes port.py (port.moved t operation row payload) other ↔ Takes port.py t other := by
  constructor
  · intro h
    refine h.frame rfl rfl fun stored hstored => ?_
    by_cases hsame : stored.key = row.key
    · exact .inr (hsame.trans hkey)
    · exact .inl (Table.mem_overwrite_of_ne hstored hsame)
  · intro h
    refine h.frame rfl rfl fun stored hstored => ?_
    rcases Table.mem_overwrite hstored with rfl | ⟨hold, -⟩
    · exact .inr hkey
    · exact .inl hold

theorem takes_directories {directories : DirectoryTables} :
    Takes port.py { t with directories } row ↔ Takes port.py t row :=
  ⟨fun h => h.frame rfl rfl fun _ hmem => .inl hmem,
    fun h => h.frame rfl rfl fun _ hmem => .inl hmem⟩

theorem moved_event (t : Tables DirectoryTables) (operation row : RecoveryOperation)
    (payload : Payload) : ∃ event ∈ (port.moved t operation row payload).events,
    event.key = operation.key ∧ event.toPhase = row.phase := by
  obtain ⟨event, hevents, hkey, -, hto⟩ := Tables.appendEvent_events
    { t with operations := Table.overwrite RecoveryOperation.key t.operations row }
    operation.runId operation.operationId (some operation.phase) row.phase
    port.processInstanceId (some payload)
  exact ⟨event, by rw [moved, Tables.recordChange, hevents]; simp, hkey, hto⟩

theorem moved_events (event : RecoveryEvent) (h : event ∈ t.events) :
    event ∈ (port.moved t operation row payload).events := by
  obtain ⟨_, hevents, -⟩ := Tables.appendEvent_events
    { t with operations := Table.overwrite RecoveryOperation.key t.operations row }
    operation.runId operation.operationId (some operation.phase) row.phase
    port.processInstanceId (some payload)
  rw [moved, Tables.recordChange, hevents]
  exact List.mem_append_left _ h

end

/-- Only the journal of the directories has moved. -/
structure OnlyDirectories (s s' : CommitState Files) : Prop where
  settled : s.recovery.Settled → s'.recovery.Settled
  committed : s.recovery.Settled →
    ∃ directories, s'.recovery.committed = { s.recovery.committed with directories }
  calls : s'.finalCommits = s.finalCommits

theorem OnlyDirectories.refl (s : CommitState Files) : OnlyDirectories s s :=
  ⟨id, fun _ => ⟨_, rfl⟩, rfl⟩

theorem OnlyDirectories.trans (s m s' : CommitState Files) (h : OnlyDirectories s m)
    (h' : OnlyDirectories m s') : OnlyDirectories s s' := by
  refine ⟨fun hs => h'.settled (h.settled hs), fun hs => ?_, h'.calls.trans h.calls⟩
  obtain ⟨_, hfirst⟩ := h.committed hs
  obtain ⟨directories, hsecond⟩ := h'.committed (h.settled hs)
  exact ⟨directories, by rw [hsecond, hfirst]⟩

def SameFiles (s s' : CommitState Files) : Prop := s'.files = s.files

def Closed (s : CommitState Files) : Prop := s.recovery.inTransaction = false

theorem perform_onlyDirectories (call : DirectoryCall) (attached : Bool) (py : PythonLibrary)
    {c : Connection DirectoryTables} (hc : c.Settled) :
    ((Mutation.directory call).performBounded py attached c).2.Settled ∧
      ∃ directories, ((Mutation.directory call).performBounded py attached c).2.committed =
        { c.committed with directories } := by
  unfold Mutation.performBounded
  split
  · exact ⟨hc, _, rfl⟩
  · refine ⟨(hc.execute _).1, ?_⟩
    obtain ⟨committed, current, inTransaction⟩ := c
    cases inTransaction with
    | true => exact ⟨_, rfl⟩
    | false =>
      have hsame : current = committed := hc rfl
      subst hsame
      have htables : ∃ directories,
          ((Mutation.directory call).bounded py attached current).2 =
            { current with directories } := by
        simp only [Mutation.bounded]
        split <;> exact ⟨_, rfl⟩
      simp only [Connection.execute, Bool.false_eq_true, if_false]
      rcases ((Mutation.directory call).bounded py attached current).1 with
        (code | code | code) | value
      · exact ⟨_, rfl⟩
      · exact ⟨_, rfl⟩
      · exact ⟨_, rfl⟩
      · exact htables

theorem directoryCall_stays (call : DirectoryCall) :
    (port.directoryCall call).Stays OnlyDirectories := by
  intro s
  have hend : (port.directoryCall call s).2 =
      { s with recovery := ((Mutation.directory call).performBounded port.py port.attached
        s.recovery).2 } := by
    simp only [directoryCall]
    split <;> rfl
  rw [hend]
  exact ⟨fun hs => (perform_onlyDirectories call port.attached port.py hs).1,
    fun hs => (perform_onlyDirectories call port.attached port.py hs).2, rfl⟩

theorem directoryCall_files (call : DirectoryCall) :
    (port.directoryCall call).Stays SameFiles := by
  intro s
  simp only [directoryCall, SameFiles]
  split <;> rfl

theorem directoryCall_keeps (call : DirectoryCall) : (port.directoryCall call).Keeps Closed := by
  intro s value s' hs hrun
  simp only [directoryCall] at hrun
  split at hrun
  · rename_i found hperformed
    cases hrun
    unfold Closed at hs ⊢
    simp only [Mutation.performBounded, Mutation.precheck]
    simp only [DirectoryCall.perform] at hperformed
    split at hperformed
    · cases hperformed
    · rename_i hcheck
      simp only [hcheck, Connection.execute, hs, Bool.false_eq_true, if_false,
        Mutation.bounded]
      rcases hbody : call.body port.py s.recovery.current.directories with ⟨raised | value, rows⟩
      · rw [hbody] at hperformed
        cases hperformed
      · rfl
  · cases hrun

section

section
variable {R : CommitState Files → CommitState Files → Prop}
  (hrefl : ∀ s, R s s) (htrans : ∀ s m s', R s m → R m s' → R s s')
  (hcall : ∀ call, (port.directoryCall call).Stays R)

include hrefl htrans hcall

theorem advanceThrough_stays {payload : Payload} {managedObjectId : Option String}
    (states : List DirectoryRecoveryState) (operation : DirectoryRecoveryOperation) :
    (port.advanceThrough payload managedObjectId states operation).Stays R := by
  induction states generalizing operation with
  | nil => exact .pure hrefl operation
  | cons nextState rest ih =>
    refine (hcall _).bind htrans fun found => ?_
    cases found with
    | none => exact .raise hrefl _
    | some updated => exact ih updated

theorem advanceDirectoryTo_stays (operation : DirectoryRecoveryOperation) (targetIndex : Nat)
    (payload : Payload) (managedObjectId : Option String) :
    (port.advanceDirectoryTo operation targetIndex payload managedObjectId).Stays R := by
  unfold advanceDirectoryTo
  dsimp only
  split
  · exact port.advanceThrough_stays hrefl htrans hcall _ _
  · exact .raise hrefl _

theorem followQuarantine_stays (operation : RecoveryOperation)
    (receipt : OldTargetPreservationReceipt)
    (directoryOperation : Option DirectoryRecoveryOperation) :
    (port.followQuarantine operation receipt directoryOperation).Stays R := by
  unfold followQuarantine
  split
  · cases directoryOperation with
    | none => exact .raise hrefl _
    | some stored =>
      exact (port.advanceDirectoryTo_stays hrefl htrans hcall stored 4 _ _).map htrans hrefl some
  · exact .pure hrefl _

theorem followCreate_stays (operation : RecoveryOperation) (targetIndex : Nat) (payload : Payload)
    (directoryOperation : Option DirectoryRecoveryOperation) :
    (port.followCreate operation targetIndex payload directoryOperation).Stays R := by
  unfold followCreate
  split
  · cases directoryOperation with
    | none => exact .raise hrefl _
    | some stored =>
      exact (port.advanceDirectoryTo_stays hrefl htrans hcall stored targetIndex _ _).map
        htrans hrefl
        some
  · exact .pure hrefl _

end

theorem advanceThrough_keeps {payload : Payload} {managedObjectId : Option String}
    (states : List DirectoryRecoveryState) (operation : DirectoryRecoveryOperation) :
    (port.advanceThrough payload managedObjectId states operation).Keeps Closed := by
  induction states generalizing operation with
  | nil => exact .pure operation
  | cons nextState rest ih =>
    refine (port.directoryCall_keeps _).bind fun found => ?_
    cases found with
    | none => exact .raise _
    | some updated => exact ih updated

theorem advanceDirectoryTo_keeps (operation : DirectoryRecoveryOperation) (targetIndex : Nat)
    (payload : Payload) (managedObjectId : Option String) :
    (port.advanceDirectoryTo operation targetIndex payload managedObjectId).Keeps Closed := by
  unfold advanceDirectoryTo
  dsimp only
  split
  · exact port.advanceThrough_keeps _ _
  · exact .raise _

theorem followQuarantine_keeps (operation : RecoveryOperation)
    (receipt : OldTargetPreservationReceipt)
    (directoryOperation : Option DirectoryRecoveryOperation) :
    (port.followQuarantine operation receipt directoryOperation).Keeps Closed := by
  unfold followQuarantine
  split
  · cases directoryOperation with
    | none => exact .raise _
    | some stored => exact (port.advanceDirectoryTo_keeps stored 4 _ _).map some
  · exact .pure _

theorem followCreate_keeps (operation : RecoveryOperation) (targetIndex : Nat) (payload : Payload)
    (directoryOperation : Option DirectoryRecoveryOperation) :
    (port.followCreate operation targetIndex payload directoryOperation).Keeps Closed := by
  unfold followCreate
  split
  · cases directoryOperation with
    | none => exact .raise _
    | some stored => exact (port.advanceDirectoryTo_keeps stored targetIndex _ _).map some
  · exact .pure _

theorem onFiles_stays {α : Type} (call : Procedure Files CommitException α) :
    (onFiles call).Stays OnlyDirectories := fun _ => ⟨id, fun _ => ⟨_, rfl⟩, rfl⟩

theorem onFiles_keeps {α : Type} (call : Procedure Files CommitException α) :
    (onFiles call).Keeps Closed := by
  intro s a s' hs hrun
  cases congrArg Prod.snd hrun
  exact hs

theorem orRaise_stays {R : CommitState Files → CommitState Files → Prop} (hrefl : ∀ s, R s s)
    (checked : Except CommitException Unit) :
    (orRaise checked : CommitProcedure Files Unit).Stays R := by
  unfold orRaise
  split
  · exact .pure hrefl ()
  · exact .raise hrefl _

theorem orRaise_keeps (checked : Except CommitException Unit) :
    (orRaise checked : CommitProcedure Files Unit).Keeps Closed := by
  unfold orRaise
  split
  · exact .pure ()
  · exact .raise _

theorem loadDirectoryOperation_end (recoveryId : String) (s : CommitState Files) :
    (port.loadDirectoryOperation recoveryId s).2 = s := by
  unfold loadDirectoryOperation
  split <;> rfl

theorem prepareDirectory_stays (permit : MutationPermit) (operation : RecoveryOperation)
    (artifact : VerifiedStagingArtifact) :
    (port.prepareDirectory permit operation artifact).Stays OnlyDirectories := by
  have hrefl : ∀ s : CommitState Files, OnlyDirectories s s := OnlyDirectories.refl
  have htrans : ∀ s m s' : CommitState Files, OnlyDirectories s m → OnlyDirectories m s' →
      OnlyDirectories s s' := OnlyDirectories.trans
  unfold prepareDirectory
  split
  · exact .pure hrefl none
  · refine Procedure.Stays.map ?_ htrans hrefl some
    unfold prepareDirectoryMutation
    split
    · exact .raise hrefl _
    · refine Procedure.Stays.bind (fun s => ?_) htrans fun stored => ?_
      · rw [loadDirectoryOperation_end]
        exact hrefl s
      · refine (onFiles_stays _).bind htrans fun receipt => ?_
        refine (orRaise_stays hrefl _).bind htrans fun _ => ?_
        exact port.advanceDirectoryTo_stays hrefl htrans port.directoryCall_stays stored 2 _ none

theorem prepareDirectory_keeps (permit : MutationPermit) (operation : RecoveryOperation)
    (artifact : VerifiedStagingArtifact) :
    (port.prepareDirectory permit operation artifact).Keeps Closed := by
  unfold prepareDirectory
  split
  · exact .pure none
  · refine Procedure.Keeps.map ?_ some
    unfold prepareDirectoryMutation
    split
    · exact .raise _
    · refine Procedure.Keeps.bind (fun s stored s' hs hrun => ?_) fun stored => ?_
      · have hend : s = s' :=
          (port.loadDirectoryOperation_end _ s).symm.trans (congrArg Prod.snd hrun)
        exact hend ▸ hs
      · refine (onFiles_keeps _).bind fun receipt => ?_
        refine (orRaise_keeps _).bind fun _ => ?_
        exact port.advanceDirectoryTo_keeps stored 2 _ none

end

/-- The journal says that the file may be moved to its final path. -/
structure ReadyToCommit (t : Tables DirectoryTables) (operation commitSource : RecoveryOperation) :
    Prop where
  stored : t.loadOperation operation.runId operation.operationId = some commitSource
  revalidated : ∃ event ∈ t.events, event.key = operation.key ∧
    event.toPhase = .commitPreconditionsRevalidated
  source :
    if commitSource.targetPreconditionKind = .absent then
      commitSource.phase = .commitPreconditionsRevalidated
    else
      commitSource.phase = .oldTargetPreserved ∧
        (∃ event ∈ t.events, event.key = operation.key ∧ event.toPhase = .oldTargetPreserved) ∧
        (commitSource.versionObjectId.isSome ∨ commitSource.quarantineObjectId.isSome)

/-- The directory is prepared and the preconditions can be recorded. -/
structure Prepared (permit : MutationPermit) (artifact : VerifiedStagingArtifact)
    (t : Tables DirectoryTables) (files : Files) (operation : RecoveryOperation)
    (directoryOperation : Option DirectoryRecoveryOperation) (s : CommitState Files) : Prop where
  loaded : port.loadAndValidateOperation permit artifact t = .ok operation
  ran : port.prepareDirectory permit operation artifact ⟨idle t, files, []⟩ =
    (.ok directoryOperation, s)
  takes : Takes port.py t (rowInPhase operation .commitPreconditionsRevalidated {})

def afterPreconditions (artifact : VerifiedStagingArtifact) (operation : RecoveryOperation)
    (s : CommitState Files) : CommitState Files :=
  { s with recovery := idle (port.moved s.recovery.committed operation
      (rowInPhase operation .commitPreconditionsRevalidated {}) (preconditionsPayload artifact)) }

/-- The operation that the final commit is made for. -/
inductive CommitSource (permit : MutationPermit) (artifact : VerifiedStagingArtifact)
    (t : Tables DirectoryTables) (files : Files) (operation : RecoveryOperation) :
    RecoveryOperation → Option DirectoryRecoveryOperation → CommitState Files → Prop
  | absent (directoryOperation : Option DirectoryRecoveryOperation) (s : CommitState Files)
      (hprepared : Prepared port permit artifact t files operation directoryOperation s)
      (habsent : operation.targetPreconditionKind = .absent) :
      CommitSource permit artifact t files operation
        (rowInPhase operation .commitPreconditionsRevalidated {}) directoryOperation
        (port.afterPreconditions artifact operation s)
  | preserved (directoryOperation followed : Option DirectoryRecoveryOperation)
      (s m s' : CommitState Files) (preserve : MutationPermit → RecoveryOperation →
        Procedure Files CommitException OldTargetPreservationReceipt)
      (receipt : OldTargetPreservationReceipt)
      (hprepared : Prepared port permit artifact t files operation directoryOperation s)
      (hrequires : requiresOldTargetPreservation operation = true)
      (hport : port.ports.oldTargetPreservation = some preserve)
      (hpreserved : preserveOldTarget preserve permit
        (rowInPhase operation .commitPreconditionsRevalidated {})
        (port.afterPreconditions artifact operation s) = (.ok receipt, m))
      (htakes : Takes port.py t (rowInPhase operation .oldTargetPreserved
        (preservationMetadata receipt)))
      (hfollowed : port.followQuarantine operation receipt directoryOperation
        { m with recovery := idle (port.moved m.recovery.committed
          (rowInPhase operation .commitPreconditionsRevalidated {})
          (rowInPhase operation .oldTargetPreserved (preservationMetadata receipt))
          (preservationPayload receipt)) } = (.ok followed, s')) :
      CommitSource permit artifact t files operation
        (rowInPhase operation .oldTargetPreserved (preservationMetadata receipt)) followed s'

/-- A failure after the final path was changed. -/
inductive FailsAfterTouching {Object : Type} (final : Files → Object) (permit : MutationPermit)
    (artifact : VerifiedStagingArtifact) (t : Tables DirectoryTables) (files : Files) : Prop
  | preparing (operation : RecoveryOperation) (exc : CommitException) (s : CommitState Files)
      (hloaded : port.loadAndValidateOperation permit artifact t = .ok operation)
      (hfails : port.prepareDirectory permit operation artifact ⟨idle t, files, []⟩ =
        (.error exc, s)) (hclosed : s.recovery.inTransaction = false)
      (htakes : Takes port.py t
        (rowInPhase operation .failedRetryable { lastErrorCode := some exc.errorCode }))
      (htouched : final s.files ≠ final files)
  | preserving (operation : RecoveryOperation)
      (directoryOperation : Option DirectoryRecoveryOperation) (exc : CommitException)
      (s m : CommitState Files) (preserve : MutationPermit → RecoveryOperation →
        Procedure Files CommitException OldTargetPreservationReceipt)
      (hprepared : Prepared port permit artifact t files operation directoryOperation s)
      (hrequires : requiresOldTargetPreservation operation = true)
      (hport : port.ports.oldTargetPreservation = some preserve)
      (hfails : preserveOldTarget preserve permit
        (rowInPhase operation .commitPreconditionsRevalidated {})
        (port.afterPreconditions artifact operation s) = (.error exc, m))
      (htouched : final m.files ≠ final files)
  | committing (operation commitSource : RecoveryOperation)
      (directoryOperation : Option DirectoryRecoveryOperation) (exc : CommitException)
      (s : CommitState Files) (files' : Files)
      (hsource : CommitSource port permit artifact t files operation commitSource
        directoryOperation s)
      (hfails : port.ports.finalCommit permit artifact s.files = (.error exc, files'))
      (hretryable : recoveryPhaseForCommitFailure commitSource exc.errorCode = .failedRetryable)
      (htouched : final files' ≠ final files)
  | mismatched (operation commitSource : RecoveryOperation)
      (directoryOperation followed : Option DirectoryRecoveryOperation) (receipt : CommitReceipt)
      (exc : CommitException) (s m : CommitState Files) (files' : Files)
      (hsource : CommitSource port permit artifact t files operation commitSource
        directoryOperation s)
      (hcommits : port.ports.finalCommit permit artifact s.files = (.ok receipt, files'))
      (hfollowed : port.followCreate operation 3 (createdPayload receipt) directoryOperation
        { s with
          files := files'
          finalCommits := s.finalCommits ++ [s.recovery.committed] } = (.ok followed, m))
      (hmismatch : validateReceipt operation artifact receipt = .error exc)
      (htouched : final files' ≠ final files)

/-- The discipline of a commit that starts on the tables `t` and ends with `ended`. -/
structure Disciplined {Object : Type} (final : Files → Object) (permit : MutationPermit)
    (artifact : VerifiedStagingArtifact) (files : Files)
    (ended : Except CommitException CommitReceipt × CommitState Files) : Prop where
  /-- Each call of the final commit port finds its operation ready in the committed journal. -/
  ready : ∀ t ∈ ended.2.finalCommits, ∃ operation commitSource,
    operation.runId = permit.runId ∧ operation.operationId = artifact.objectId ∧
      ReadyToCommit t operation commitSource
  /-- A failed commit leaves a retryable or skipped operation only where the final path is as it
  was. -/
  untouched : ∀ exc, ended.1 = .error exc → ∀ row,
    ended.2.recovery.committed.loadOperation permit.runId artifact.objectId = some row →
      row.phase = .failedRetryable ∨ row.phase = .skipped → final ended.2.files = final files

section
variable {port} {permit : MutationPermit} {artifact : VerifiedStagingArtifact}
  {t : Tables DirectoryTables} {files : Files}
  {operation commitSource : RecoveryOperation}
  {directoryOperation : Option DirectoryRecoveryOperation} {s s' : CommitState Files}
  {calls : List (Tables DirectoryTables)}

/-- What `load_and_validate_operation` has checked. -/
structure Loaded (port : JournaledFinalCommitPort Files) (permit : MutationPermit)
    (artifact : VerifiedStagingArtifact) (t : Tables DirectoryTables)
    (operation : RecoveryOperation) : Prop where
  stored : t.loadOperation operation.runId operation.operationId = some operation
  runId : operation.runId = permit.runId
  operationId : operation.operationId = artifact.objectId
  phase : operation.phase = .commitIntentRecorded
  supported : operation.targetPreconditionKind = .absent ∨
    requiresOldTargetPreservation operation = true ∧
      port.ports.oldTargetPreservation.isSome = true

theorem commitCheck_ok {test : Bool} {code : String} {u : Unit}
    (h : commitCheck test code = .ok u) : test = true := by
  unfold commitCheck at h
  split at h
  · assumption
  · cases h

theorem loaded_of_ok (h : port.loadAndValidateOperation permit artifact t = .ok operation) :
    Loaded port permit artifact t operation := by
  unfold loadAndValidateOperation at h
  split at h
  · cases h
  · rename_i found hfound
    obtain ⟨_, hbinding, h⟩ := except_bind_ok h
    obtain ⟨_, hsupport, h⟩ := except_bind_ok h
    cases h
    have hkey : operation.key = (permit.runId, artifact.objectId) := Table.lookup_key hfound
    have hrun : operation.runId = permit.runId := congrArg Prod.fst hkey
    have hid : operation.operationId = artifact.objectId := congrArg Prod.snd hkey
    obtain ⟨_, hphase, -⟩ := except_bind_ok hbinding
    refine ⟨by rw [hrun, hid]; exact hfound, hrun, hid,
      of_decide_eq_true (commitCheck_ok hphase), ?_⟩
    unfold validateTargetPreconditionSupport at hsupport
    unfold requiresOldTargetPreservation
    cases hkind : operation.targetPreconditionKind with
    | absent => exact .inl rfl
    | matchFingerprint =>
      rw [hkind] at hsupport
      exact .inr ⟨by simp, commitCheck_ok hsupport⟩
    | directoryEmpty =>
      rw [hkind] at hsupport
      exact .inr ⟨by simp, commitCheck_ok hsupport⟩
    | none =>
      rw [hkind] at hsupport
      cases hsupport

theorem idle_of_closed {c : Connection DirectoryTables} (hsettled : c.Settled)
    (hclosed : c.inTransaction = false) : c = idle c.committed := by
  obtain ⟨committed, current, inTransaction⟩ := c
  cases hclosed
  have hsame : current = committed := hsettled rfl
  rw [hsame]
  rfl

theorem prepareDirectory_idle (h : port.prepareDirectory permit operation artifact
      ⟨idle t, files, []⟩ = (.ok directoryOperation, s)) :
    ∃ directories, s.recovery = idle { t with directories } ∧ s.finalCommits = [] := by
  have hsettled : (idle t).Settled := fun _ => rfl
  have honly := port.prepareDirectory_stays permit operation artifact
    ⟨idle t, files, []⟩
  rw [h] at honly
  have hclosed := port.prepareDirectory_keeps permit operation artifact
    ⟨idle t, files, []⟩ directoryOperation s rfl h
  obtain ⟨directories, hcommitted⟩ := honly.committed hsettled
  refine ⟨directories, ?_, honly.calls⟩
  rw [idle_of_closed (honly.settled hsettled) hclosed, hcommitted]
  rfl

/-- The journal after the precondition check: `row` is the operation's committed row. -/
structure Stage (port : JournaledFinalCommitPort Files) (t : Tables DirectoryTables)
    (calls : List (Tables DirectoryTables)) (operation row : RecoveryOperation)
    (s : CommitState Files) : Prop where
  recovery : s.recovery = idle s.recovery.committed
  calls : s.finalCommits = calls
  key : row.key = operation.key
  stored : s.recovery.committed.loadOperation operation.runId operation.operationId = some row
  revalidated : ∃ event ∈ s.recovery.committed.events, event.key = operation.key ∧
    event.toPhase = .commitPreconditionsRevalidated
  journalled : ∃ event ∈ s.recovery.committed.events, event.key = operation.key ∧
    event.toPhase = row.phase
  takes : ∀ other, other.key = operation.key →
    (Takes port.py s.recovery.committed other ↔ Takes port.py t other)

variable {row : RecoveryOperation}

theorem Stage.runId (h : Stage port t calls operation row s) :
    row.runId = operation.runId := congrArg Prod.fst h.key

theorem Stage.operationId (h : Stage port t calls operation row s) :
    row.operationId = operation.operationId := congrArg Prod.snd h.key

theorem Stage.self (h : Stage port t calls operation row s) :
    s.recovery.committed.loadOperation row.runId row.operationId = some row := by
  rw [h.runId, h.operationId]
  exact h.stored

theorem Stage.step {row : RecoveryOperation} (h : Stage port t calls operation row s)
    (row' : RecoveryOperation) (payload : Payload) (hkey : row'.key = row.key) :
    Stage port t calls operation row'
      { s with recovery := idle (port.moved s.recovery.committed row row' payload) } := by
  obtain ⟨event, hmem, hevent⟩ := h.revalidated
  refine ⟨rfl, h.calls, hkey.trans h.key, ?_, ⟨event, port.moved_events event hmem, hevent⟩, ?_, ?_⟩
  · have hload : (port.moved s.recovery.committed row row' payload).loadOperation row.runId
        row.operationId = some row' := port.moved_load h.self hkey
    rw [h.runId, h.operationId] at hload
    exact hload
  · obtain ⟨event, hmem, hsame, hto⟩ :=
      port.moved_event s.recovery.committed row row' payload
    exact ⟨event, hmem, hsame.trans h.key, hto⟩
  · intro other hother
    exact (port.moved_takes (hkey.trans (h.key.trans hother.symm))).trans (h.takes other hother)

theorem Stage.withFiles (h : Stage port t calls operation row s) (changed : Files) :
    Stage port t calls operation row { s with files := changed } :=
  ⟨h.recovery, h.calls, h.key, h.stored, h.revalidated, h.journalled, h.takes⟩

theorem Stage.follow {α : Type} {p : CommitProcedure Files α} {a : α}
    (h : Stage port t calls operation row s) (hstays : p.Stays OnlyDirectories)
    (hkeeps : p.Keeps Closed) (hrun : p s = (.ok a, s')) : Stage port t calls operation row s' := by
  have honly := hstays s
  rw [hrun] at honly
  have hsettled : s.recovery.Settled := by
    rw [h.recovery]
    exact fun _ => rfl
  have hclosed : s.recovery.inTransaction = false := by
    rw [h.recovery]
    rfl
  obtain ⟨directories, hcommitted⟩ := honly.committed hsettled
  refine ⟨idle_of_closed (honly.settled hsettled) (hkeeps s a s' hclosed hrun),
    honly.calls.trans h.calls, h.key, ?_, ?_, ?_, ?_⟩
  · rw [hcommitted]
    exact h.stored
  · rw [hcommitted]
    exact h.revalidated
  · rw [hcommitted]
    exact h.journalled
  · intro other hother
    rw [hcommitted]
    exact port.takes_directories.trans (h.takes other hother)

theorem Prepared.stage
    (h : Prepared port permit artifact t files operation directoryOperation s) :
    Stage port t [] operation (rowInPhase operation .commitPreconditionsRevalidated {})
      (port.afterPreconditions artifact operation s) := by
  obtain ⟨directories, hrecovery, hcalls⟩ := prepareDirectory_idle h.ran
  have hstored : s.recovery.committed.loadOperation operation.runId operation.operationId =
      some operation := by
    rw [hrecovery]
    exact (loaded_of_ok h.loaded).stored
  have hevent := port.moved_event s.recovery.committed operation
    (rowInPhase operation .commitPreconditionsRevalidated {}) (preconditionsPayload artifact)
  refine ⟨rfl, hcalls, rfl, port.moved_load hstored rfl, hevent, hevent, ?_⟩
  · intro other hother
    have hkey : (rowInPhase operation .commitPreconditionsRevalidated {}).key = other.key :=
      hother.symm
    refine (port.moved_takes hkey).trans ?_
    rw [hrecovery]
    exact port.takes_directories

variable {preconditions : RecoveryOperation}

theorem preserveOldTarget_run {preserve : MutationPermit → RecoveryOperation →
      Procedure Files CommitException OldTargetPreservationReceipt}
    {result : Except CommitException OldTargetPreservationReceipt}
    (h : preserveOldTarget preserve permit preconditions s = (result, s')) :
    s' = { s with files := s'.files } ∧ ∀ receipt, result = .ok receipt →
      validatePreservationReceipt preconditions receipt = .ok () := by
  unfold preserveOldTarget at h
  rcases Procedure.bind_cases (onFiles (preserve permit preconditions)) (fun receipt => do
      orRaise (validatePreservationReceipt preconditions receipt)
      pure receipt) s with ⟨exc, m, hrun, hbind⟩ | ⟨receipt, m, hrun, hbind⟩
  · have hend : m = { s with files := m.files } := by
      cases congrArg Prod.snd hrun
      rfl
    rw [hbind] at h
    cases h
    exact ⟨hend, fun _ hok => by cases hok⟩
  · rw [hbind] at h
    have hend : m = { s with files := m.files } := by
      cases congrArg Prod.snd hrun
      rfl
    unfold orRaise at h
    cases hvalid : validatePreservationReceipt preconditions receipt with
    | error exc =>
      rw [hvalid] at h
      cases h
      exact ⟨hend, fun _ hok => by cases hok⟩
    | ok _ =>
      rw [hvalid] at h
      cases h
      exact ⟨hend, fun _ hok => by cases hok; exact hvalid⟩

theorem isSome_orElse {a b : Option String} (h : a.isSome = true) :
    (a <|> b).isSome = true := by
  cases a with
  | none => cases h
  | some value => rfl

theorem preserved_object {receipt : OldTargetPreservationReceipt}
    (h : validatePreservationReceipt preconditions receipt = .ok ()) :
    receipt.versionObjectId.isSome = true ∨ receipt.quarantineObjectId.isSome = true := by
  obtain ⟨_, -, h⟩ := except_bind_ok h
  obtain ⟨_, -, h⟩ := except_bind_ok h
  obtain ⟨_, hobject, -⟩ := except_bind_ok h
  have hobject := commitCheck_ok hobject
  rwa [Bool.or_eq_true] at hobject

/-- The source of the commit is ready, and so is the store. -/
structure SourceReady (port : JournaledFinalCommitPort Files) (t : Tables DirectoryTables)
    (operation commitSource : RecoveryOperation) (s : CommitState Files) : Prop where
  stage : Stage port t [] operation commitSource s
  ready : ReadyToCommit s.recovery.committed operation commitSource
  takes : Takes port.py t commitSource
  phase : commitSource.phase = .commitPreconditionsRevalidated ∨
    commitSource.phase = .oldTargetPreserved

theorem CommitSource.ready
    (h : CommitSource port permit artifact t files operation commitSource directoryOperation s) :
    SourceReady port t operation commitSource s := by
  cases h with
  | absent _ before hprepared habsent =>
    have hstage := hprepared.stage
    refine ⟨hstage, ⟨hstage.stored, hstage.revalidated, ?_⟩, hprepared.takes, .inl rfl⟩
    rw [if_pos]
    · rfl
    · exact habsent
  | preserved _ followed before m _ preserve receipt hprepared hrequires hport hpreserved htakes
      hfollowed =>
    obtain ⟨hm, hvalid⟩ := preserveOldTarget_run hpreserved
    have hstage : Stage port t [] operation
        (rowInPhase operation .commitPreconditionsRevalidated {}) m := by
      rw [hm]
      exact hprepared.stage.withFiles m.files
    have hstep := hstage.step
      (rowInPhase operation .oldTargetPreserved (preservationMetadata receipt))
      (preservationPayload receipt) rfl
    have hend := hstep.follow
      (port.followQuarantine_stays OnlyDirectories.refl OnlyDirectories.trans
        port.directoryCall_stays
        operation receipt _) (port.followQuarantine_keeps operation receipt _) hfollowed
    refine ⟨hend, ⟨hend.stored, hend.revalidated, ?_⟩, htakes, .inr rfl⟩
    rw [if_neg]
    · refine ⟨rfl, hend.journalled, ?_⟩
      -- a managed object of the receipt replaces the stored one
      rcases preserved_object (hvalid receipt rfl) with hversion | hquarantine
      · exact .inl (isSome_orElse hversion)
      · exact .inr (isSome_orElse hquarantine)
    · intro habsent
      have habsent : operation.targetPreconditionKind = .absent := habsent
      rw [requiresOldTargetPreservation, habsent] at hrequires
      cases hrequires

end

section
variable {s : CommitState Files} {t : Tables DirectoryTables} {row : RecoveryOperation}
  {α : Type}

theorem recoveryPhaseForCommitFailure_cases (operation : RecoveryOperation) (code : String) :
    recoveryPhaseForCommitFailure operation code = .userDecisionRequired ∨
      recoveryPhaseForCommitFailure operation code = .failedRetryable := by
  unfold recoveryPhaseForCommitFailure
  split
  · exact .inl rfl
  · split
    · exact .inl rfl
    · exact .inr rfl

def failurePayload (exc : CommitException) : Payload :=
  [("error_code", .str exc.errorCode), ("error_type", .str exc.typeName)]

def failedRow (row : RecoveryOperation) (exc : CommitException) : RecoveryOperation :=
  rowInPhase row (recoveryPhaseForCommitFailure row exc.errorCode)
    { lastErrorCode := some exc.errorCode }

theorem failedRow_takes (h : Takes port.py t row)
    (hintent : row.phase ∈ Phase.phasesRequiringIntent) (exc : CommitException) :
    Takes port.py t (failedRow row exc) := by
  apply h.next hintent
  rcases recoveryPhaseForCommitFailure_cases row exc.errorCode with hphase | hphase <;>
    · rw [hphase]
      decide

theorem recordFailure_closed (hs : s.recovery = idle t)
    (hload : t.loadOperation row.runId row.operationId = some row)
    (hphase : row.phase ∉ Phase.terminalPhases) (exc : CommitException) :
    (Takes port.py t (failedRow row exc) ∧
      (port.recordFailure row exc : CommitProcedure Files α) s = (.error exc,
        { s with recovery := idle (port.moved t row (failedRow row exc) (failurePayload exc)) })) ∨
    (¬ Takes port.py t (failedRow row exc) ∧ ∃ exc' recovery,
      (port.recordFailure row exc : CommitProcedure Files α) s =
        (.error exc', { s with recovery }) ∧ recovery.committed = t) := by
  have hcases := recoveryPhaseForCommitFailure_cases row exc.errorCode
  have hstep : Phase.validateRecoveryPhaseTransition row.phase
      (recoveryPhaseForCommitFailure row exc.errorCode) = .ok () := by
    unfold Phase.validateRecoveryPhaseTransition
    rw [if_neg hphase, if_pos]
    rcases hcases with h | h <;>
      · rw [h]
        decide
  have hrun := port.record_run (failurePayload exc)
    (some { lastErrorCode := some exc.errorCode }) "RECOVERY_COMMIT_FAILURE_JOURNAL_CONFLICT" hs
    hload hstep (by rcases hcases with h | h <;> rw [h] <;> decide)
    (by rcases hcases with h | h <;> rw [h] <;> decide)
    (show rowInPhase row _ _ = failedRow row exc from rfl)
  rcases hrun with ⟨htakes, hrun⟩ | ⟨hrefused, exc', recovery, hrun, hcommitted⟩
  · exact .inl ⟨htakes, (Procedure.bind_ok hrun).trans rfl⟩
  · exact .inr ⟨hrefused, exc', recovery, Procedure.bind_error hrun, hcommitted⟩

theorem recordFailure_open (row : RecoveryOperation) (hs : s.recovery.inTransaction = true)
    (exc : CommitException) :
    ∃ exc' recovery, (port.recordFailure row exc : CommitProcedure Files α) s =
      (.error exc', { s with recovery }) ∧ recovery.committed = s.recovery.committed := by
  have hcall : ∀ call, (performCall port.py (attachedDirectories port.py port.attached) call
      s.recovery).2.committed = s.recovery.committed := by
    intro call
    unfold performCall
    split
    · rfl
    · simp only [Connection.execute, hs, if_true]
  have hrecord : ∃ result recovery,
      port.record row (recoveryPhaseForCommitFailure row exc.errorCode) (failurePayload exc)
        (some { lastErrorCode := some exc.errorCode })
        "RECOVERY_COMMIT_FAILURE_JOURNAL_CONFLICT" s = (result, { s with recovery }) ∧
        recovery.committed = s.recovery.committed := by
    unfold record
    have hcommitted := hcall (port.transitionCall row
      (recoveryPhaseForCommitFailure row exc.errorCode) (failurePayload exc)
      (some { lastErrorCode := some exc.errorCode }))
    split
    all_goals
      rename_i hperformed
      rw [hperformed] at hcommitted
      exact ⟨_, _, rfl, hcommitted⟩
  obtain ⟨result, recovery, hrun, hcommitted⟩ := hrecord
  cases result with
  | error exc' => exact ⟨exc', recovery, Procedure.bind_error hrun, hcommitted⟩
  | ok updated => exact ⟨exc, recovery, (Procedure.bind_ok hrun).trans rfl, hcommitted⟩

end

/-- The operation's committed row is in a phase that satisfies `P`. -/
def StoredIn (operation : RecoveryOperation) (P : Phase → Prop) (s : CommitState Files) : Prop :=
  ∃ row, s.recovery.committed.loadOperation operation.runId operation.operationId = some row ∧
    P row.phase

def Unfailed (phase : Phase) : Prop := phase ≠ .failedRetryable ∧ phase ≠ .skipped

/-- Where a recorded failure ends: with the files `files`, and the operation in the phase of the
failure. -/
structure FailedIn (operation : RecoveryOperation) (phase : Phase) (files : Files)
    (calls : List (Tables DirectoryTables)) (s : CommitState Files) : Prop where
  calls : s.finalCommits = calls
  files : s.files = files
  stored : StoredIn operation (· = phase) s

section
variable {port} {permit : MutationPermit} {artifact : VerifiedStagingArtifact}
  {t : Tables DirectoryTables} {files : Files} {operation commitSource row : RecoveryOperation}
  {directoryOperation : Option DirectoryRecoveryOperation} {s s' m : CommitState Files}
  {calls : List (Tables DirectoryTables)} {exc : CommitException}

theorem unfailed_of_intent {phase : Phase} (h : phase ∈ Phase.phasesRequiringIntent) :
    Unfailed phase := by
  revert h
  unfold Unfailed
  cases phase <;> decide

variable {P : Phase → Prop}

theorem storedIn_of_stays {α : Type} {p : CommitProcedure Files α}
    {result : Except CommitException α} (hsettled : s.recovery.Settled)
    (hstays : p.Stays OnlyDirectories) (hrun : p s = (result, s'))
    (hstored : StoredIn operation P s) :
    StoredIn operation P s' ∧ s'.finalCommits = s.finalCommits := by
  have honly := hstays s
  rw [hrun] at honly
  obtain ⟨directories, hcommitted⟩ := honly.committed hsettled
  obtain ⟨stored, hload, hP⟩ := hstored
  refine ⟨⟨stored, ?_, hP⟩, honly.calls⟩
  rw [hcommitted]
  exact hload

theorem Stage.storedIn (h : Stage port t calls operation row s) (hP : P row.phase) :
    StoredIn operation P s := ⟨row, h.stored, hP⟩

theorem Stage.settled (h : Stage port t calls operation row s) : s.recovery.Settled := by
  rw [h.recovery]
  exact fun _ => rfl

theorem Stage.recordFailure {α : Type} (h : Stage port t calls operation row s)
    (htakes : Takes port.py t row) (hintent : row.phase ∈ Phase.phasesRequiringIntent)
    (hphase : row.phase ∉ Phase.terminalPhases) (exc : CommitException) :
    ∃ s', (port.recordFailure row exc : CommitProcedure Files α) s = (.error exc, s') ∧
      FailedIn operation (recoveryPhaseForCommitFailure row exc.errorCode) s.files calls s' := by
  rcases port.recordFailure_closed (α := α) h.recovery h.self hphase exc with
    ⟨-, hrun⟩ | ⟨hrefused, -⟩
  · exact ⟨_, hrun, h.calls, rfl,
      (h.step (failedRow row exc) (failurePayload exc) rfl).storedIn rfl⟩
  · exact absurd ((h.takes (failedRow row exc) h.key).mpr (port.failedRow_takes htakes hintent exc))
      hrefused

theorem Stage.transition {row' : RecoveryOperation} {next : Phase}
    (h : Stage port t calls operation row s) (payload : Payload)
    (metadata : Option RecoveryOperationMetadata)
    (hstep : Phase.validateRecoveryPhaseTransition row.phase next = .ok ())
    (hcommit : next ≠ .commitIntentRecorded) (hcatalog : next ≠ .catalogRecorded)
    (hrow : rowInPhase row next (metadata.getD {}) = row') :
    (Takes port.py t row' ∧ port.transition row next payload metadata s = (.ok row',
        { s with recovery := idle (port.moved s.recovery.committed row row' payload) })) ∨
      (¬ Takes port.py t row' ∧ ∃ exc recovery,
        port.transition row next payload metadata s = (.error exc, { s with recovery }) ∧
          recovery.committed = s.recovery.committed) := by
  have hkey : row'.key = operation.key := by
    rw [← hrow]
    exact h.key
  have hsame := h.takes row' hkey
  rcases port.record_run payload metadata "RECOVERY_COMMIT_PHASE_CONFLICT" h.recovery h.self hstep
      hcommit hcatalog hrow with
    ⟨htakes, hrun⟩ | ⟨hrefused, hrun⟩
  · exact .inl ⟨hsame.mp htakes, hrun⟩
  · exact .inr ⟨fun htakes => hrefused (hsame.mpr htakes), hrun⟩

theorem Stage.refused {recovery : Connection DirectoryTables} {P : Phase → Prop}
    (h : Stage port t calls operation row s) (hP : P row.phase)
    (hcommitted : recovery.committed = s.recovery.committed) :
    StoredIn operation P { s with recovery } := by
  refine ⟨row, ?_, hP⟩
  show recovery.committed.loadOperation _ _ = _
  rw [hcommitted]
  exact h.stored

theorem preparing_runs (hloaded : Loaded port permit artifact t operation)
    (hfails : port.prepareDirectory permit operation artifact ⟨idle t, files, []⟩ =
      (.error exc, s)) (hclosed : s.recovery.inTransaction = false)
    (htakes : Takes port.py t
      (rowInPhase operation .failedRetryable { lastErrorCode := some exc.errorCode })) :
    ∃ s', port.prepareCommitSource permit artifact operation ⟨idle t, files, []⟩ =
      (.error exc, s') ∧ FailedIn operation .failedRetryable s.files [] s' := by
  have honly := port.prepareDirectory_stays permit operation artifact ⟨idle t, files, []⟩
  rw [hfails] at honly
  have hsettled : (idle t).Settled := fun _ => rfl
  obtain ⟨directories, hcommitted⟩ := honly.committed hsettled
  have hcommitted : s.recovery.committed = { t with directories } := hcommitted
  have hidle := idle_of_closed (honly.settled hsettled) hclosed
  have hload : s.recovery.committed.loadOperation operation.runId operation.operationId =
      some operation := by
    rw [hcommitted]
    exact hloaded.stored
  have hphase : operation.phase ∉ Phase.terminalPhases := by
    rw [hloaded.phase]
    decide
  have hfailed : recoveryPhaseForCommitFailure operation exc.errorCode = .failedRetryable := by
    simp [recoveryPhaseForCommitFailure, hloaded.phase]
  have htaken : Takes port.py s.recovery.committed (failedRow operation exc) := by
    unfold failedRow
    rw [hfailed, hcommitted]
    exact port.takes_directories.mpr htakes
  unfold prepareCommitSource
  rcases port.recordFailure_closed (α := Option DirectoryRecoveryOperation) hidle hload hphase
      exc with ⟨-, hrecord⟩ | ⟨hrefused, -⟩
  · rw [Procedure.bind_error ((Procedure.rescue_error hfails).trans hrecord)]
    exact ⟨_, rfl, honly.calls, rfl, failedRow operation exc, port.moved_load hload rfl, hfailed⟩
  · exact absurd htaken hrefused

theorem Prepared.runs
    (h : Prepared port permit artifact t files operation directoryOperation s) :
    port.prepareCommitSource permit artifact operation ⟨idle t, files, []⟩ =
      port.preserveCommitSource permit operation
        (rowInPhase operation .commitPreconditionsRevalidated {}) directoryOperation
        (port.afterPreconditions artifact operation s) := by
  have hloaded := loaded_of_ok h.loaded
  obtain ⟨directories, hrecovery, -⟩ := prepareDirectory_idle h.ran
  have hload : ({ t with directories } : Tables DirectoryTables).loadOperation operation.runId
      operation.operationId = some operation := hloaded.stored
  have hstep : Phase.validateRecoveryPhaseTransition operation.phase
      .commitPreconditionsRevalidated = .ok () := by
    rw [hloaded.phase]
    rfl
  unfold prepareCommitSource
  rw [Procedure.bind_ok (Procedure.rescue_ok h.ran)]
  rcases port.record_run (preconditionsPayload artifact) none "RECOVERY_COMMIT_PHASE_CONFLICT"
      hrecovery hload hstep (by decide) (by decide) (show rowInPhase operation _ _ =
        rowInPhase operation .commitPreconditionsRevalidated {} from rfl) with
    ⟨-, hmoved⟩ | ⟨hrefused, -⟩
  · have hafter : port.afterPreconditions artifact operation s = { s with
        recovery := idle (port.moved { t with directories } operation
          (rowInPhase operation .commitPreconditionsRevalidated {})
          (preconditionsPayload artifact)) } := by
      unfold afterPreconditions
      rw [hrecovery]
      rfl
    rw [hafter]
    exact Procedure.bind_ok hmoved
  · exact absurd (port.takes_directories.mpr h.takes) hrefused

theorem preserving_runs {preserve : MutationPermit → RecoveryOperation →
      Procedure Files CommitException OldTargetPreservationReceipt}
    (hprepared : Prepared port permit artifact t files operation directoryOperation s)
    (hrequires : requiresOldTargetPreservation operation = true)
    (hport : port.ports.oldTargetPreservation = some preserve)
    (hfails : preserveOldTarget preserve permit
      (rowInPhase operation .commitPreconditionsRevalidated {})
      (port.afterPreconditions artifact operation s) = (.error exc, m)) :
    ∃ s', port.prepareCommitSource permit artifact operation ⟨idle t, files, []⟩ =
      (.error exc, s') ∧ FailedIn operation .failedRetryable m.files [] s' := by
  have hrequires' : requiresOldTargetPreservation
      (rowInPhase operation .commitPreconditionsRevalidated {}) = true := hrequires
  obtain ⟨hm, -⟩ := preserveOldTarget_run hfails
  have hstage : Stage port t [] operation
      (rowInPhase operation .commitPreconditionsRevalidated {}) m := by
    rw [hm]
    exact hprepared.stage.withFiles m.files
  obtain ⟨s', hrecord, hfailed⟩ :=
    hstage.recordFailure (α := OldTargetPreservationReceipt) hprepared.takes
      (show Phase.commitPreconditionsRevalidated ∈ _ by decide)
      (show Phase.commitPreconditionsRevalidated ∉ _ by decide) exc
  refine ⟨s', ?_, hfailed⟩
  rw [hprepared.runs]
  unfold preserveCommitSource
  rw [hrequires', if_pos rfl, hport]
  exact Procedure.bind_error ((Procedure.rescue_error hfails).trans hrecord)

theorem CommitSource.runs
    (h : CommitSource port permit artifact t files operation commitSource directoryOperation s) :
    port.prepareCommitSource permit artifact operation ⟨idle t, files, []⟩ =
      (.ok (commitSource, directoryOperation), s) := by
  cases h with
  | absent _ before hprepared habsent =>
    have hnot : requiresOldTargetPreservation
        (rowInPhase operation .commitPreconditionsRevalidated {}) = false := by
      show requiresOldTargetPreservation operation = false
      rw [requiresOldTargetPreservation, habsent]
      rfl
    rw [hprepared.runs]
    unfold preserveCommitSource
    rw [hnot, if_neg Bool.false_ne_true]
    rfl
  | preserved _ followed before m _ preserve receipt hprepared hrequires hport hpreserved htakes
      hfollowed =>
    have hrequires' : requiresOldTargetPreservation
        (rowInPhase operation .commitPreconditionsRevalidated {}) = true := hrequires
    obtain ⟨hm, -⟩ := preserveOldTarget_run hpreserved
    have hstage : Stage port t [] operation
        (rowInPhase operation .commitPreconditionsRevalidated {}) m := by
      rw [hm]
      exact hprepared.stage.withFiles m.files
    rw [hprepared.runs]
    unfold preserveCommitSource
    rw [hrequires', if_pos rfl, hport]
    dsimp only
    rw [Procedure.bind_ok (Procedure.rescue_ok hpreserved)]
    rcases hstage.transition (preservationPayload receipt) (some (preservationMetadata receipt))
        rfl (by decide) (by decide) (show rowInPhase _ .oldTargetPreserved _ =
          rowInPhase operation .oldTargetPreserved (preservationMetadata receipt) from rfl) with
      ⟨-, hmoved⟩ | ⟨hrefused, -⟩
    · rw [Procedure.bind_ok hmoved, Procedure.bind_ok hfollowed]
      rfl
    · exact absurd htakes hrefused

end

/-- The ways in which preparing the source ends without a commit. -/
inductive SourceEnding (permit : MutationPermit) (artifact : VerifiedStagingArtifact)
    (t : Tables DirectoryTables) (files : Files) (operation : RecoveryOperation) : Prop
  | unrecorded (exc : CommitException) (s : CommitState Files)
      (hended : port.prepareCommitSource permit artifact operation ⟨idle t, files, []⟩ =
        (.error exc, s)) (hcalls : s.finalCommits = []) (hstored : StoredIn operation Unfailed s)
  | preparing (exc : CommitException) (s : CommitState Files)
      (hfails : port.prepareDirectory permit operation artifact ⟨idle t, files, []⟩ =
        (.error exc, s)) (hclosed : s.recovery.inTransaction = false)
      (htakes : Takes port.py t
        (rowInPhase operation .failedRetryable { lastErrorCode := some exc.errorCode }))
  | preserving (directoryOperation : Option DirectoryRecoveryOperation) (exc : CommitException)
      (s m : CommitState Files) (preserve : MutationPermit → RecoveryOperation →
        Procedure Files CommitException OldTargetPreservationReceipt)
      (hprepared : Prepared port permit artifact t files operation directoryOperation s)
      (hrequires : requiresOldTargetPreservation operation = true)
      (hport : port.ports.oldTargetPreservation = some preserve)
      (hfails : preserveOldTarget preserve permit
        (rowInPhase operation .commitPreconditionsRevalidated {})
        (port.afterPreconditions artifact operation s) = (.error exc, m))
  | ready (commitSource : RecoveryOperation)
      (directoryOperation : Option DirectoryRecoveryOperation) (s : CommitState Files)
      (hsource : CommitSource port permit artifact t files operation commitSource
        directoryOperation s)

section
variable {port} {permit : MutationPermit} {artifact : VerifiedStagingArtifact}
  {t : Tables DirectoryTables} {files : Files} {operation commitSource row : RecoveryOperation}
  {directoryOperation : Option DirectoryRecoveryOperation} {s s' : CommitState Files}
  {calls : List (Tables DirectoryTables)} {exc : CommitException}

theorem preserveCommitSource_ending
    (hprepared : Prepared port permit artifact t files operation directoryOperation s) :
    SourceEnding port permit artifact t files operation := by
  have hstage := hprepared.stage
  rcases (loaded_of_ok hprepared.loaded).supported with habsent | ⟨hrequires, hsome⟩
  · exact .ready _ _ _ (.absent directoryOperation s hprepared habsent)
  · obtain ⟨preserve, hport⟩ := Option.isSome_iff_exists.mp hsome
    have hrequires' : requiresOldTargetPreservation
        (rowInPhase operation .commitPreconditionsRevalidated {}) = true := hrequires
    have hbefore : ∀ {result}, port.preserveCommitSource permit operation
        (rowInPhase operation .commitPreconditionsRevalidated {}) directoryOperation
        (port.afterPreconditions artifact operation s) = result →
        port.prepareCommitSource permit artifact operation ⟨idle t, files, []⟩ = result :=
      fun h => hprepared.runs.trans h
    unfold preserveCommitSource at hbefore
    rw [hrequires', if_pos rfl, hport] at hbefore
    dsimp only at hbefore
    rcases hrun : preserveOldTarget preserve permit
        (rowInPhase operation .commitPreconditionsRevalidated {})
        (port.afterPreconditions artifact operation s) with ⟨exc | receipt, m⟩
    · exact .preserving directoryOperation exc s m preserve hprepared hrequires hport hrun
    · obtain ⟨hm, -⟩ := preserveOldTarget_run hrun
      have hmstage : Stage port t [] operation
          (rowInPhase operation .commitPreconditionsRevalidated {}) m := by
        rw [hm]
        exact hstage.withFiles m.files
      rw [Procedure.bind_ok (Procedure.rescue_ok hrun)] at hbefore
      rcases hmstage.transition (preservationPayload receipt) (some (preservationMetadata receipt))
          rfl (by decide) (by decide) (show rowInPhase _ .oldTargetPreserved _ =
            rowInPhase operation .oldTargetPreserved (preservationMetadata receipt) from rfl) with
        ⟨htakes, hmoved⟩ | ⟨-, exc, recovery, hmoved, hcommitted⟩
      · have hpreserved := hmstage.step
          (rowInPhase operation .oldTargetPreserved (preservationMetadata receipt))
          (preservationPayload receipt) rfl
        have hstays := port.followQuarantine_stays OnlyDirectories.refl
          OnlyDirectories.trans port.directoryCall_stays operation receipt directoryOperation
        rw [Procedure.bind_ok hmoved] at hbefore
        rcases hfollow : port.followQuarantine operation receipt directoryOperation
            { m with recovery := idle (port.moved m.recovery.committed
              (rowInPhase operation .commitPreconditionsRevalidated {})
              (rowInPhase operation .oldTargetPreserved (preservationMetadata receipt))
              (preservationPayload receipt)) } with ⟨exc | followed, s'⟩
        · obtain ⟨hstored, hcalls⟩ := storedIn_of_stays hpreserved.settled hstays hfollow
            (hpreserved.storedIn (unfailed_of_intent
              (show Phase.oldTargetPreserved ∈ _ by decide)))
          exact .unrecorded exc s' (hbefore (Procedure.bind_error hfollow))
            (hcalls.trans hpreserved.calls) hstored
        · exact .ready _ followed s' (.preserved directoryOperation followed s m s' preserve receipt
            hprepared hrequires hport hrun htakes hfollow)
      · exact .unrecorded exc _ (hbefore (Procedure.bind_error hmoved)) hmstage.calls
          (hmstage.refused (unfailed_of_intent
            (show Phase.commitPreconditionsRevalidated ∈ _ by decide)) hcommitted)

theorem prepareCommitSource_ending (files : Files)
    (hok : port.loadAndValidateOperation permit artifact t = .ok operation) :
    SourceEnding port permit artifact t files operation := by
  have hloaded := loaded_of_ok hok
  have hsettled : (idle t).Settled := fun _ => rfl
  have hunfailed : Unfailed operation.phase := by
    rw [hloaded.phase]
    exact ⟨by decide, by decide⟩
  have honly := port.prepareDirectory_stays permit operation artifact ⟨idle t, files, []⟩
  rcases hrun : port.prepareDirectory permit operation artifact ⟨idle t, files, []⟩ with
    ⟨result, s⟩
  rw [hrun] at honly
  obtain ⟨directories, hcommitted⟩ := honly.committed hsettled
  have hcommitted : s.recovery.committed = { t with directories } := hcommitted
  have hload : s.recovery.committed.loadOperation operation.runId operation.operationId =
      some operation := by
    rw [hcommitted]
    exact hloaded.stored
  have hkept : ∀ recovery : Connection DirectoryTables,
      recovery.committed = s.recovery.committed →
        StoredIn operation Unfailed { s with recovery } := by
    intro recovery hsame
    refine ⟨operation, ?_, hunfailed⟩
    show recovery.committed.loadOperation _ _ = _
    rw [hsame]
    exact hload
  cases result with
  | error exc =>
    -- the failure is recorded in force unless a transaction is still open
    cases hopen : s.recovery.inTransaction with
    | true =>
      obtain ⟨exc', recovery, hrecord, hsame⟩ :=
        port.recordFailure_open (α := Option DirectoryRecoveryOperation) operation hopen exc
      exact .unrecorded exc' _
        (Procedure.bind_error ((Procedure.rescue_error hrun).trans hrecord)) honly.calls
        (hkept recovery hsame)
    | false =>
      have hphase : operation.phase ∉ Phase.terminalPhases := by
        rw [hloaded.phase]
        decide
      have hfailed : recoveryPhaseForCommitFailure operation exc.errorCode = .failedRetryable := by
        simp [recoveryPhaseForCommitFailure, hloaded.phase]
      rcases port.recordFailure_closed (α := Option DirectoryRecoveryOperation)
          (idle_of_closed (honly.settled hsettled) hopen) hload hphase exc with
        ⟨htakes, -⟩ | ⟨-, exc', recovery, hrecord, hsame⟩
      · unfold failedRow at htakes
        rw [hfailed, hcommitted] at htakes
        exact .preparing exc s hrun hopen (port.takes_directories.mp htakes)
      · exact .unrecorded exc' _
          (Procedure.bind_error ((Procedure.rescue_error hrun).trans hrecord)) honly.calls
          (hkept recovery hsame)
  | ok directoryOperation =>
    obtain ⟨_, hrecovery, hcalls⟩ := prepareDirectory_idle hrun
    have hidle : s.recovery = idle s.recovery.committed := by
      rw [hrecovery]
      rfl
    have hstep : Phase.validateRecoveryPhaseTransition operation.phase
        .commitPreconditionsRevalidated = .ok () := by
      rw [hloaded.phase]
      rfl
    rcases port.record_run (preconditionsPayload artifact) none "RECOVERY_COMMIT_PHASE_CONFLICT"
        hidle hload hstep (by decide) (by decide) (show rowInPhase operation _ _ =
          rowInPhase operation .commitPreconditionsRevalidated {} from rfl) with
      ⟨htakes, -⟩ | ⟨-, exc, recovery, hmoved, hsame⟩
    · rw [hcommitted] at htakes
      exact preserveCommitSource_ending ⟨hok, hrun, port.takes_directories.mp htakes⟩
    · refine .unrecorded exc { s with recovery } ?_ hcalls (hkept recovery hsame)
      unfold prepareCommitSource
      rw [Procedure.bind_ok (Procedure.rescue_ok hrun)]
      exact Procedure.bind_error hmoved

def afterFinalCommit (s : CommitState Files) (files' : Files) : CommitState Files :=
  { s with files := files', finalCommits := s.finalCommits ++ [s.recovery.committed] }

variable {files' : Files}

theorem callFinalCommit_run {result : Except CommitException CommitReceipt}
    (h : port.ports.finalCommit permit artifact s.files = (result, files')) :
    port.callFinalCommit permit artifact s = (result, afterFinalCommit s files') := by
  simp only [callFinalCommit, onFiles, Procedure.onState, h, afterFinalCommit]

theorem SourceReady.called (h : SourceReady port t operation commitSource s) (files' : Files) :
    Stage port t [s.recovery.committed] operation commitSource (afterFinalCommit s files') := by
  refine ⟨h.stage.recovery, ?_, h.stage.key, h.stage.stored, h.stage.revalidated,
    h.stage.journalled, h.stage.takes⟩
  show s.finalCommits ++ _ = _
  rw [h.stage.calls]
  rfl

theorem SourceReady.intent (h : SourceReady port t operation commitSource s) :
    commitSource.phase ∈ Phase.phasesRequiringIntent ∧
      commitSource.phase ∉ Phase.terminalPhases := by
  rcases h.phase with hphase | hphase <;>
    · rw [hphase]
      decide

theorem Stage.advance (h : Stage port t calls operation row s) (htakes : Takes port.py t row)
    (hintent : row.phase ∈ Phase.phasesRequiringIntent) (next : Phase)
    (finalDurabilityState : Option String) (payload : Payload)
    (metadata : Option RecoveryOperationMetadata)
    (hmetadata : metadata.getD {} = { finalDurabilityState })
    (hstep : Phase.validateRecoveryPhaseTransition row.phase next = .ok ())
    (hcommit : next ≠ .commitIntentRecorded)
    (hhandoff : next ∉ Phase.phasesRequiringCatalogHandoff) :
    ∃ s', port.transition row next payload metadata s =
        (.ok (rowInPhase row next { finalDurabilityState }), s') ∧ s'.files = s.files ∧
      Stage port t calls operation (rowInPhase row next { finalDurabilityState }) s' ∧
      Takes port.py t (rowInPhase row next { finalDurabilityState }) := by
  have hcatalog : next ≠ .catalogRecorded := by
    intro hnext
    rw [hnext] at hhandoff
    exact hhandoff (by decide)
  have hnext : Takes port.py t (rowInPhase row next { finalDurabilityState }) :=
    htakes.next hintent hhandoff
  rcases h.transition payload metadata hstep hcommit hcatalog (by rw [hmetadata]) with
    ⟨-, hmoved⟩ | ⟨hrefused, -⟩
  · exact ⟨_, hmoved, rfl, h.step _ payload rfl, hnext⟩
  · exact absurd hnext hrefused

theorem raised_runs (directoryOperation : Option DirectoryRecoveryOperation)
    (hready : SourceReady port t operation commitSource s)
    (hfails : port.ports.finalCommit permit artifact s.files = (.error exc, files')) :
    ∃ s', port.applyCommit permit artifact operation commitSource directoryOperation s =
      (.error exc, s') ∧ FailedIn operation (recoveryPhaseForCommitFailure commitSource
        exc.errorCode) files' [s.recovery.committed] s' := by
  obtain ⟨s', hrecord, hfailed⟩ := (hready.called files').recordFailure (α := CommitReceipt)
    hready.takes hready.intent.1 hready.intent.2 exc
  refine ⟨s', ?_, hfailed⟩
  unfold applyCommit
  exact Procedure.bind_error ((Procedure.rescue_error (callFinalCommit_run hfails)).trans hrecord)

variable {receipt : CommitReceipt} {followed : Option DirectoryRecoveryOperation}
  {m : CommitState Files}

theorem applied_runs (hready : SourceReady port t operation commitSource s)
    (hcommits : port.ports.finalCommit permit artifact s.files = (.ok receipt, files'))
    (hfollowed : port.followCreate operation 3 (createdPayload receipt) directoryOperation
      (afterFinalCommit s files') = (.ok followed, m)) :
    ∃ s', port.applyCommit permit artifact operation commitSource directoryOperation s =
        ((orRaise (validateReceipt operation artifact receipt)).rescue
            (port.recordFailure (rowInPhase commitSource .filesystemApplied {})) >>= fun _ =>
          port.verifyFinal artifact operation (rowInPhase commitSource .filesystemApplied {})
            receipt followed) s' ∧
      s'.files = files' ∧
      Stage port t [s.recovery.committed] operation
        (rowInPhase commitSource .filesystemApplied {}) s' ∧
      Takes port.py t (rowInPhase commitSource .filesystemApplied {}) := by
  have hstays := port.followCreate_stays OnlyDirectories.refl OnlyDirectories.trans
    port.directoryCall_stays operation 3 (createdPayload receipt) directoryOperation
  have hsame := port.followCreate_stays (R := SameFiles) (fun _ => rfl)
    (fun _ _ _ h h' => h'.trans h) port.directoryCall_files operation 3 (createdPayload receipt)
    directoryOperation (afterFinalCommit s files')
  rw [hfollowed] at hsame
  have hm := (hready.called files').follow hstays
    (port.followCreate_keeps operation 3 _ directoryOperation) hfollowed
  obtain ⟨s', happlied, hfiles, hstage, htakes⟩ := hm.advance hready.takes hready.intent.1
    .filesystemApplied none (appliedPayload receipt) none rfl
    (by rcases hready.phase with hphase | hphase <;> rw [hphase] <;> rfl) (by decide) (by decide)
  refine ⟨s', ?_, hfiles.trans hsame, hstage, htakes⟩
  unfold applyCommit
  rw [Procedure.bind_ok (Procedure.rescue_ok (callFinalCommit_run hcommits)),
    Procedure.bind_ok hfollowed, Procedure.bind_ok happlied]

theorem mismatched_runs (hready : SourceReady port t operation commitSource s)
    (hcommits : port.ports.finalCommit permit artifact s.files = (.ok receipt, files'))
    (hfollowed : port.followCreate operation 3 (createdPayload receipt) directoryOperation
      (afterFinalCommit s files') = (.ok followed, m))
    (hmismatch : validateReceipt operation artifact receipt = .error exc) :
    ∃ s', port.applyCommit permit artifact operation commitSource directoryOperation s =
      (.error exc, s') ∧
        FailedIn operation .failedRetryable files' [s.recovery.committed] s' := by
  obtain ⟨m', hrun, hfiles, hstage, htakes⟩ := applied_runs hready hcommits hfollowed
  obtain ⟨s', hrecord, hfailed⟩ := hstage.recordFailure (α := Unit) htakes
    (show Phase.filesystemApplied ∈ _ by decide) (show Phase.filesystemApplied ∉ _ by decide) exc
  have hraise : (orRaise (validateReceipt operation artifact receipt) : CommitProcedure Files Unit)
      m' = (.error exc, m') := by
    rw [hmismatch]
    rfl
  refine ⟨s', ?_, ?_⟩
  · rw [hrun]
    exact Procedure.bind_error ((Procedure.rescue_error hraise).trans hrecord)
  · rw [hfiles] at hfailed
    exact hfailed

theorem verifyFinal_ending (artifact : VerifiedStagingArtifact) (receipt : CommitReceipt)
    (directory : Option DirectoryRecoveryOperation) {applied : RecoveryOperation}
    (happlied : applied.phase = .filesystemApplied)
    (hstage : Stage port t calls operation applied s) (htakes : Takes port.py t applied) :
    (port.verifyFinal artifact operation applied receipt directory s).2.finalCommits = calls ∧
      ∀ exc, (port.verifyFinal artifact operation applied receipt directory s).1 = .error exc →
        StoredIn operation Unfailed
          (port.verifyFinal artifact operation applied receipt directory s).2 := by
  have hstays := port.followCreate_stays OnlyDirectories.refl OnlyDirectories.trans
    port.directoryCall_stays operation 4 [("artifact_content_hash", .str artifact.contentHash),
      ("receipt_operation_id", .str receipt.operationId)] directory
  have hintent : applied.phase ∈ Phase.phasesRequiringIntent := by
    rw [happlied]
    decide
  unfold verifyFinal
  rcases hfollow : port.followCreate operation 4
      [("artifact_content_hash", .str artifact.contentHash),
        ("receipt_operation_id", .str receipt.operationId)] directory s with ⟨exc | followed, m⟩
  · rw [Procedure.bind_error hfollow]
    obtain ⟨hstored, hcalls⟩ := storedIn_of_stays hstage.settled hstays hfollow
      (hstage.storedIn (unfailed_of_intent hintent))
    exact ⟨hcalls.trans hstage.calls, fun _ _ => hstored⟩
  · rw [Procedure.bind_ok hfollow]
    have hm := hstage.follow hstays (port.followCreate_keeps operation 4 _ directory) hfollow
    obtain ⟨s₁, hdurable, -, hstage₁, htakes₁⟩ := hm.advance htakes hintent .finalDurable
      (some receipt.durabilityState) (durablePayload receipt)
      (some { finalDurabilityState := some receipt.durabilityState }) rfl
      (by rw [happlied]; rfl) (by decide) (by decide)
    rw [Procedure.bind_ok hdurable]
    obtain ⟨s₂, hverified, -, hstage₂, -⟩ := hstage₁.advance htakes₁
      (show Phase.finalDurable ∈ _ by decide) .finalVerified none
      [("content_hash", .str artifact.contentHash),
        ("final_relative_path", .str artifact.relativePath)] none rfl rfl (by decide) (by decide)
    rw [Procedure.bind_ok hverified]
    exact ⟨hstage₂.calls, fun _ hraised => by cases hraised⟩

/-- The ways the final commit and the steps after it end: the port raises, its receipt does not
match, or the port is called once and what fails then is not recorded. -/
theorem applyCommit_ending (permit : MutationPermit) (artifact : VerifiedStagingArtifact)
    (directoryOperation : Option DirectoryRecoveryOperation)
    (hready : SourceReady port t operation commitSource s) :
    (∃ exc files', port.ports.finalCommit permit artifact s.files = (.error exc, files')) ∨
    (∃ receipt files' followed m exc,
      port.ports.finalCommit permit artifact s.files = (.ok receipt, files') ∧
      port.followCreate operation 3 (createdPayload receipt) directoryOperation
        (afterFinalCommit s files') = (.ok followed, m) ∧
      validateReceipt operation artifact receipt = .error exc) ∨
    ∃ result s',
      port.applyCommit permit artifact operation commitSource directoryOperation s =
        (result, s') ∧ s'.finalCommits = [s.recovery.committed] ∧
      ∀ exc, result = .error exc → StoredIn operation Unfailed s' := by
  rcases hport : port.ports.finalCommit permit artifact s.files with ⟨exc | receipt, files'⟩
  · exact .inl ⟨exc, files', rfl⟩
  · have hstage := hready.called files'
    have hstays := port.followCreate_stays OnlyDirectories.refl OnlyDirectories.trans
      port.directoryCall_stays operation 3 (createdPayload receipt) directoryOperation
    rcases hfollow : port.followCreate operation 3 (createdPayload receipt) directoryOperation
        (afterFinalCommit s files') with ⟨exc | followed, m⟩
    · obtain ⟨hstored, hcalls⟩ := storedIn_of_stays hstage.settled hstays hfollow
        (hstage.storedIn (unfailed_of_intent hready.intent.1))
      refine .inr (.inr ⟨.error exc, m, ?_, hcalls.trans hstage.calls, fun _ _ => hstored⟩)
      unfold applyCommit
      rw [Procedure.bind_ok (Procedure.rescue_ok (callFinalCommit_run hport))]
      exact Procedure.bind_error hfollow
    · cases hvalid : validateReceipt operation artifact receipt with
      | error exc =>
        exact .inr (.inl ⟨receipt, files', followed, m, exc, rfl, hfollow, hvalid⟩)
      | ok _ =>
        obtain ⟨m', hrun, hfiles, happlied, htakes⟩ := applied_runs hready hport hfollow
        have hpass : (orRaise (validateReceipt operation artifact receipt) :
            CommitProcedure Files Unit) m' = (.ok (), m') := by
          rw [hvalid]
          rfl
        rw [Procedure.bind_ok (Procedure.rescue_ok hpass)] at hrun
        obtain ⟨hcalls, hstored⟩ := verifyFinal_ending artifact receipt followed rfl happlied htakes
        exact .inr (.inr ⟨_, _, hrun, hcalls, hstored⟩)

end

section
variable {Object : Type} {final : Files → Object} {permit : MutationPermit}
  {artifact : VerifiedStagingArtifact} {t : Tables DirectoryTables} {files : Files}
  {operation commitSource : RecoveryOperation}
  {directoryOperation : Option DirectoryRecoveryOperation}

theorem commit_run (files : Files)
    (hok : port.loadAndValidateOperation permit artifact t = .ok operation) :
    port.commitVerifiedArtifact permit artifact ⟨idle t, files, []⟩ =
      (port.prepareCommitSource permit artifact operation >>= fun (source, directory) =>
        port.applyCommit permit artifact operation source directory) ⟨idle t, files, []⟩ := by
  unfold commitVerifiedArtifact
  have hcurrent : (⟨idle t, files, []⟩ : CommitState Files).recovery.current = t := rfl
  rw [hcurrent, hok]

variable {s : CommitState Files}

theorem CommitSource.loaded
    (h : CommitSource port permit artifact t files operation commitSource directoryOperation s) :
    port.loadAndValidateOperation permit artifact t = .ok operation := by
  cases h with
  | absent _ before hprepared habsent => exact hprepared.loaded
  | preserved _ _ before m _ preserve receipt hprepared hrequires hport hpreserved htakes
      hfollowed => exact hprepared.loaded

variable {ended : Except CommitException CommitReceipt × CommitState Files} {exc : CommitException}
  {calls : List (Tables DirectoryTables)}

theorem FailedIn.undisciplined {files' : Files} (hended : ended = (.error exc, s))
    (hloaded : Loaded port permit artifact t operation)
    (h : FailedIn operation .failedRetryable files' calls s)
    (htouched : final files' ≠ final files) :
    ¬ Disciplined final permit artifact files ended := by
  intro hdisciplined
  subst hended
  obtain ⟨row, hload, hphase⟩ := h.stored
  rw [hloaded.runId, hloaded.operationId] at hload
  apply htouched
  rw [← h.files]
  exact hdisciplined.untouched exc rfl row hload (.inl hphase)

theorem undisciplined_of_fails
    (h : FailsAfterTouching port final permit artifact t files) :
    ¬ Disciplined final permit artifact files
      (port.commitVerifiedArtifact permit artifact ⟨idle t, files, []⟩) := by
  cases h with
  | preparing operation exc s hok hfails hclosed htakes htouched =>
    have hloaded := loaded_of_ok hok
    obtain ⟨s', hrun, hfailed⟩ := preparing_runs hloaded hfails hclosed htakes
    exact hfailed.undisciplined port
      ((port.commit_run files hok).trans (Procedure.bind_error hrun)) hloaded
      htouched
  | preserving operation directoryOperation exc s m preserve hprepared hrequires hport hfails
      htouched =>
    obtain ⟨s', hrun, hfailed⟩ := preserving_runs hprepared hrequires hport hfails
    exact hfailed.undisciplined port
      ((port.commit_run files hprepared.loaded).trans (Procedure.bind_error hrun))
      (loaded_of_ok hprepared.loaded) htouched
  | committing operation commitSource directoryOperation exc s files' hsource hfails hretryable
      htouched =>
    obtain ⟨s', hrun, hfailed⟩ := raised_runs directoryOperation hsource.ready hfails
    rw [hretryable] at hfailed
    exact hfailed.undisciplined port
      ((port.commit_run files hsource.loaded).trans ((Procedure.bind_ok hsource.runs).trans hrun))
      (loaded_of_ok hsource.loaded) htouched
  | mismatched operation commitSource directoryOperation followed receipt exc s m files' hsource
      hcommits hfollowed hmismatch htouched =>
    obtain ⟨s', hrun, hfailed⟩ := mismatched_runs hsource.ready hcommits hfollowed hmismatch
    exact hfailed.undisciplined port
      ((port.commit_run files hsource.loaded).trans ((Procedure.bind_ok hsource.runs).trans hrun))
      (loaded_of_ok hsource.loaded) htouched

theorem disciplined_of_stored {result : Except CommitException CommitReceipt}
    (hended : ended = (result, s)) (hready : ∀ t ∈ s.finalCommits, ∃ operation commitSource,
      operation.runId = permit.runId ∧ operation.operationId = artifact.objectId ∧
        ReadyToCommit t operation commitSource) (hloaded : Loaded port permit artifact t operation)
    (hstored : ∀ exc, result = .error exc → StoredIn operation Unfailed s) :
    Disciplined final permit artifact files ended := by
  subst hended
  refine ⟨hready, fun exc hraised row hload hphase => ?_⟩
  obtain ⟨stored, hfound, hunfailed⟩ := hstored exc hraised
  rw [hloaded.runId, hloaded.operationId] at hfound
  rw [hfound] at hload
  cases hload
  exact absurd hphase (not_or.mpr hunfailed)

theorem FailedIn.disciplined {files' : Files} {phase : Phase} (hended : ended = (.error exc, s))
    (hready : ∀ t ∈ calls, ∃ operation commitSource,
      operation.runId = permit.runId ∧ operation.operationId = artifact.objectId ∧
        ReadyToCommit t operation commitSource) (hloaded : Loaded port permit artifact t operation)
    (h : FailedIn operation phase files' calls s)
    (huntouched : phase = .failedRetryable ∨ phase = .skipped → final files' = final files) :
    Disciplined final permit artifact files ended := by
  subst hended
  refine ⟨?_, fun _ _ row hload hphase => ?_⟩
  · rw [h.calls]
    exact hready
  · obtain ⟨stored, hfound, hstored⟩ := h.stored
    rw [hloaded.runId, hloaded.operationId] at hfound
    rw [hfound] at hload
    cases hload
    rw [h.files]
    exact huntouched (hstored ▸ hphase)

theorem disciplined_of_not_fails
    (h : ¬ FailsAfterTouching port final permit artifact t files) :
    Disciplined final permit artifact files
      (port.commitVerifiedArtifact permit artifact ⟨idle t, files, []⟩) := by
  have hnone : ∀ t' ∈ ([] : List (Tables DirectoryTables)), ∃ operation commitSource,
      operation.runId = permit.runId ∧ operation.operationId = artifact.objectId ∧
        ReadyToCommit t' operation commitSource := fun _ hmem => absurd hmem List.not_mem_nil
  cases hok : port.loadAndValidateOperation permit artifact t with
  | error exc =>
    have hrun : port.commitVerifiedArtifact permit artifact ⟨idle t, files, []⟩ =
        (.error exc, ⟨idle t, files, []⟩) := by
      unfold commitVerifiedArtifact
      have hcurrent : (⟨idle t, files, []⟩ : CommitState Files).recovery.current = t := rfl
      rw [hcurrent, hok]
    rw [hrun]
    exact ⟨hnone, fun _ _ _ _ _ => rfl⟩
  | ok operation =>
    have hloaded := loaded_of_ok hok
    have hcommit := port.commit_run files hok
    -- each way to end after a touch is one of the cases that `h` excludes
    cases prepareCommitSource_ending files hok with
    | unrecorded exc s hended hcalls hstored =>
      refine disciplined_of_stored port (hcommit.trans (Procedure.bind_error hended)) ?_ hloaded
        fun _ _ => hstored
      rw [hcalls]
      exact hnone
    | preparing exc s hfails hclosed htakes =>
      obtain ⟨s', hrun, hfailed⟩ := preparing_runs hloaded hfails hclosed htakes
      refine hfailed.disciplined port (hcommit.trans (Procedure.bind_error hrun)) hnone hloaded
        fun _ => ?_
      by_contra htouched
      exact h (.preparing operation exc s hok hfails hclosed htakes htouched)
    | preserving directoryOperation exc s m preserve hprepared hrequires hport hfails =>
      obtain ⟨s', hrun, hfailed⟩ := preserving_runs hprepared hrequires hport hfails
      refine hfailed.disciplined port (hcommit.trans (Procedure.bind_error hrun)) hnone hloaded
        fun _ => ?_
      by_contra htouched
      exact h (.preserving operation directoryOperation exc s m preserve hprepared hrequires hport
        hfails htouched)
    | ready commitSource directoryOperation s hsource =>
      have hready := hsource.ready
      have hcommit := hcommit.trans (Procedure.bind_ok hsource.runs)
      have hcalls : ∀ t' ∈ [s.recovery.committed], ∃ operation commitSource,
          operation.runId = permit.runId ∧ operation.operationId = artifact.objectId ∧
            ReadyToCommit t' operation commitSource := by
        intro t' hmem
        rw [List.mem_singleton.mp hmem]
        exact ⟨operation, commitSource, hloaded.runId, hloaded.operationId, hready.ready⟩
      rcases applyCommit_ending permit artifact directoryOperation hready with
        ⟨exc, files', hfails⟩ | ⟨receipt, files', followed, m, exc, hcommits, hfollowed,
          hmismatch⟩ | ⟨result, s', hrun, hcalled, hstored⟩
      · obtain ⟨s', hrun, hfailed⟩ := raised_runs directoryOperation hready hfails
        refine hfailed.disciplined port (hcommit.trans hrun) hcalls hloaded fun hphase => ?_
        have hretryable : recoveryPhaseForCommitFailure commitSource exc.errorCode =
            .failedRetryable := by
          rcases recoveryPhaseForCommitFailure_cases commitSource exc.errorCode with hcase | hcase
          · rw [hcase] at hphase
            rcases hphase with hphase | hphase <;> cases hphase
          · exact hcase
        by_contra htouched
        exact h (.committing operation commitSource directoryOperation exc s files' hsource hfails
          hretryable htouched)
      · obtain ⟨s', hrun, hfailed⟩ := mismatched_runs hready hcommits hfollowed hmismatch
        refine hfailed.disciplined port (hcommit.trans hrun) hcalls hloaded fun _ => ?_
        by_contra htouched
        exact h (.mismatched operation commitSource directoryOperation followed receipt exc s m
          files' hsource hcommits hfollowed hmismatch htouched)
      · refine disciplined_of_stored port (hcommit.trans hrun) ?_ hloaded hstored
        rw [hcalled]
        exact hcalls

/-- A commit is disciplined exactly when it does not fail after it touched the final path. -/
theorem commit_disciplined_iff {Files Object : Type} (port : JournaledFinalCommitPort Files)
    (final : Files → Object) (permit : MutationPermit) (artifact : VerifiedStagingArtifact)
    (t : Tables DirectoryTables) (files : Files) :
    Disciplined final permit artifact files
        (port.commitVerifiedArtifact permit artifact ⟨idle t, files, []⟩) ↔
      ¬ FailsAfterTouching port final permit artifact t files :=
  ⟨fun h hfails => undisciplined_of_fails port hfails h, disciplined_of_not_fails port⟩

end

def intendedOperation : RecoveryOperation :=
  { sampleOperation with
    phase := .commitIntentRecorded
    intentSegmentId := some "segment-a"
    intentOrdinal := some 0 }

def intendedTables : Tables DirectoryTables :=
  { plannedTables with operations := [intendedOperation], segments := [sampleSegment] }

def samplePermit : MutationPermit where
  leaseId := "lease-a"
  resourceKey := "endpoint:target-a"
  ownerInstallationId := "owner-a"
  ownershipEpoch := 1
  fencingToken := 1
  runId := "run-a"
  runTargetId := "run-a-target-0000"
  endpointId := "target-a"
  endpointRevisionId := "target-rev-a"
  endpointGeneration := 1

def sampleArtifact : VerifiedStagingArtifact where
  objectId := "operation-a"
  relativePath := "Photos/2026/image.jpg"
  contentHash := "new"

def unflushed : CommitException :=
  { typeName := "FinalCommitAdapterError", validationCode := some "LOCAL_FINAL_FILE_FLUSH_FAILED" }

def unflushedPort : JournaledFinalCommitPort (Option String) where
  py := plainPython
  attached := true
  ports := { finalCommit := fun _ _ _ => (.error unflushed, some "new") }
  directoryRecovery := true
  processInstanceId := "process-a"
  requiresProcessInstance := by decide

/-- The moved file is journalled as a retryable failure. -/
theorem unflushed_commit_undisciplined :
    ¬ Disciplined id samplePermit sampleArtifact none
      (unflushedPort.commitVerifiedArtifact samplePermit sampleArtifact
        ⟨idle intendedTables, none, []⟩) := by
  have hprepared : Prepared unflushedPort samplePermit sampleArtifact intendedTables none
      intendedOperation none ⟨idle intendedTables, none, []⟩ :=
    ⟨by decide, rfl, by decide, by decide, by decide⟩
  exact undisciplined_of_fails unflushedPort (.committing _ _ _ unflushed _ (some "new")
    (.absent none _ hprepared rfl) rfl (by decide) (by decide))

end JournaledFinalCommitPort

end MediaSync.Execution
