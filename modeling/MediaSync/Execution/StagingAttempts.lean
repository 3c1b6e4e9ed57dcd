import MediaSync.Execution.Staging
import MediaSync.Recovery.EventChain

/-! The failure counts of staging under arbitrary staging steps and restarts, interleaved with the
other callers of the recovery stores. -/
namespace MediaSync.Execution
open Text Recovery Runs Transition

variable {Dir : Type} {py : PythonLibrary} {calendar : RetryCalendar}
  {dirs : Option (DirectoryRecoveryStore Dir)}

/-- The failures of the operation stay within the maximum, which skips it. -/
structure AttemptsKept (py : PythonLibrary) (operation : RecoveryOperation) : Prop where
  valid : validateRecoveryOperation py operation = .ok ()
  bound : operation.stagingFailureCount ≤ maxStagingAttempts
  skipped : operation.phase = .skipped ↔ operation.stagingFailureCount = maxStagingAttempts

/-- Each operation is stored once and keeps to its attempts. -/
structure TableKept (py : PythonLibrary) (t : Tables Dir) : Prop where
  keys : Table.KeysUnique RecoveryOperation.key t.operations
  rows : ∀ operation ∈ t.operations, AttemptsKept py operation

variable {operation : RecoveryOperation}

theorem validated_identity (h : validateRecoveryOperation py operation = .ok ()) :
    (nonBlank operation.runId && nonBlank operation.operationId) = true := by
  obtain ⟨_, hidentifiers, -⟩ := except_bind_ok h
  obtain ⟨_, hnames, -⟩ := except_bind_ok hidentifiers
  have hnames := check_eq_ok.mp hnames
  simp only [nonEmpty, List.all_cons, Bool.and_eq_true] at hnames ⊢
  exact ⟨hnames.1, hnames.2.2.1⟩

theorem validated_retry (h : validateRecoveryOperation py operation = .ok ()) :
    0 ≤ operation.stagingFailureCount ∧
      validateStagingRetryPersistence py operation.stagingRetryBackoffMs
        operation.stagingRetryNotBeforeUtc = .ok () := by
  obtain ⟨_, -, h⟩ := except_bind_ok h
  obtain ⟨_, -, h⟩ := except_bind_ok h
  obtain ⟨_, -, h⟩ := except_bind_ok h
  obtain ⟨_, hretry, -⟩ := except_bind_ok h
  obtain ⟨_, hcount, hretry⟩ := except_bind_ok hretry
  obtain ⟨_, hpersisted, -⟩ := except_bind_ok hretry
  exact ⟨of_decide_eq_true (check_eq_ok.mp hcount), hpersisted⟩

theorem TableKept.congr {t t' : Tables Dir} (h : TableKept py t)
    (hops : t'.operations = t.operations) : TableKept py t' where
  keys := hops ▸ h.keys
  rows := hops ▸ h.rows

theorem TableKept.overwrite {t t' : Tables Dir} (h : TableKept py t)
    {updated : RecoveryOperation} (hrow : AttemptsKept py updated)
    (hops : t'.operations = Table.overwrite RecoveryOperation.key t.operations updated) :
    TableKept py t' where
  keys := hops ▸ h.keys.overwrite
  rows := by
    intro operation hmem
    rw [hops] at hmem
    rcases Table.mem_overwrite hmem with rfl | ⟨hold, -⟩
    · exact hrow
    · exact h.rows operation hold

theorem TableKept.insert {t t' : Tables Dir} (h : TableKept py t) (hrow : AttemptsKept py operation)
    (hfresh : Table.lookup RecoveryOperation.key t.operations operation.key = none)
    (hops : t'.operations = Table.insert t.operations operation) : TableKept py t' where
  keys := hops ▸ h.keys.insert hfresh
  rows := by
    intro other hmem
    rw [hops] at hmem
    rcases Table.mem_insert.mp hmem with hold | rfl
    · exact h.rows other hold
    · exact hrow

variable {t : Tables Dir} {change : RowChange Dir}

theorem TableKept.rowChange (h : TableKept py t) (hframed : change.Framed)
    (hrow : ∀ operation updated, AttemptsKept py operation → change.expects operation = true →
      change.row operation = .ok updated → AttemptsKept py updated) :
    TableKept py (change.body t).2 := by
  have houtcome := change.outcome t
  generalize change.body t = result at houtcome ⊢
  cases houtcome with
  | unexpected _ => exact h
  | raised _ _ _ _ _ => exact h
  | refused _ _ _ _ _ _ _ => exact h
  | wrote operation updated hload hexpects hnew _ =>
    have hkept := hrow operation updated (h.rows operation (loadOperation_mem hload)) hexpects hnew
    refine h.overwrite hkept ?_
    rw [andThen_tables]
    exact (hframed.frame _ _).1

theorem withMetadata_attempts (operation : RecoveryOperation)
    (metadata : Option RecoveryOperationMetadata) :
    (operation.withMetadata metadata).stagingFailureCount = operation.stagingFailureCount ∧
      (operation.withMetadata metadata).stagingRetryBackoffMs =
        operation.stagingRetryBackoffMs ∧
      (operation.withMetadata metadata).stagingRetryNotBeforeUtc =
        operation.stagingRetryNotBeforeUtc := by
  cases metadata <;> exact ⟨rfl, rfl, rfl⟩

theorem operationInPhase_count {operation moved : RecoveryOperation} {args : TransitionArgs}
    (h : operationInPhase operation args = .ok moved) :
    moved.stagingFailureCount = operation.stagingFailureCount := by
  unfold operationInPhase at h
  split at h
  · obtain ⟨_, -, h⟩ := except_bind_ok h
    obtain ⟨_, -, h⟩ := except_bind_ok h
    cases h
    rfl
  · split at h
    · obtain ⟨_, -, h⟩ := except_bind_ok h
      obtain ⟨_, -, h⟩ := except_bind_ok h
      cases h
      rfl
    · obtain ⟨_, -, h⟩ := except_bind_ok h
      obtain ⟨_, -, h⟩ := except_bind_ok h
      cases h
      rfl

theorem operationAfterTransition_attempts {operation updated : RecoveryOperation}
    {args : TransitionArgs} (h : operationAfterTransition py operation args = .ok updated) :
    updated.stagingFailureCount = operation.stagingFailureCount ∧
      updated.stagingRetryBackoffMs = none ∧ updated.stagingRetryNotBeforeUtc = none := by
  unfold operationAfterTransition at h
  obtain ⟨moved, hmoved, h⟩ := except_bind_ok h
  obtain ⟨_, -, h⟩ := except_bind_ok h
  cases h
  obtain ⟨hcount, hbackoff, hutc⟩ := withMetadata_attempts
    { moved with stagingRetryBackoffMs := none, stagingRetryNotBeforeUtc := none }
    args.operationMetadata
  have hmovedCount := operationInPhase_count hmoved
  exact ⟨hcount.trans hmovedCount, hbackoff, hutc⟩

theorem AttemptsKept.transition {operation updated : RecoveryOperation} {args : TransitionArgs}
    (h : AttemptsKept py operation) (hlive : operation.phase ≠ .skipped)
    (hnext : args.nextPhase ≠ .skipped)
    (hrow : operationAfterTransition py operation args = .ok updated) :
    AttemptsKept py updated := by
  have hspec := operationAfterTransition_spec hrow
  obtain ⟨hcount, -, -⟩ := operationAfterTransition_attempts hrow
  have hbelow := mt h.skipped.mpr hlive
  refine ⟨hspec.valid, hcount ▸ h.bound, ?_⟩
  rw [hspec.phase, hcount]
  exact ⟨fun hphase => absurd hphase hnext, fun hmax => absurd hmax hbelow⟩

theorem AttemptsKept.rebound {operation updated row : RecoveryOperation}
    (h : AttemptsKept py operation) (hrow : validatedRow py updated = .ok row)
    (hphase : updated.phase = operation.phase)
    (hcount : updated.stagingFailureCount = operation.stagingFailureCount) :
    AttemptsKept py row := by
  obtain ⟨rfl, hvalid⟩ := validatedRow_ok hrow
  exact ⟨hvalid, hcount ▸ h.bound, by rw [hphase, hcount]; exact h.skipped⟩

def failurePhase (phase : Phase) (failureCount : Int) : Phase :=
  if maxStagingAttempts ≤ failureCount + 1 then .skipped else phase

variable {args : StagingFailureArgs}

theorem AttemptsKept.failure {operation row : RecoveryOperation} (h : AttemptsKept py operation)
    (hlive : operation.phase ≠ .skipped)
    (hcount : operation.stagingFailureCount = args.expectedFailureCount)
    (hnext : args.nextPhase = failurePhase operation.phase operation.stagingFailureCount)
    (hrow : validatedRow py (stagingFailureRow operation args) = .ok row) :
    AttemptsKept py row := by
  obtain ⟨rfl, hvalid⟩ := validatedRow_ok hrow
  have hbelow : operation.stagingFailureCount < maxStagingAttempts :=
    lt_of_le_of_ne h.bound (mt h.skipped.mpr hlive)
  have hfailures : (stagingFailureRow operation args).stagingFailureCount =
      operation.stagingFailureCount + 1 := congrArg (· + 1) hcount.symm
  have hphase : (stagingFailureRow operation args).phase =
      failurePhase operation.phase operation.stagingFailureCount := hnext
  refine ⟨hvalid, by omega, ?_⟩
  rw [hphase, hfailures, failurePhase]
  split
  · simp only [true_iff]
    omega
  · rename_i hearly
    simp only [hlive, false_iff]
    omega

/-- A staging step, a call of another caller, or a restart that loses the open transaction and the
deadlines in memory. -/
inductive StagingLabel (Dir : Type) where
  | stage (permit : MutationPermit) (port : StagingPort) (processInstanceId : String)
      (clock : StagingClock)
  | transition (args : TransitionArgs)
  | other (label : Label Dir)
  | restart

def othersCall : Label Dir → Bool
  | .call (.recordPlannedOperation operation _ _) => operation.stagingFailureCount = 0
  | .call (.recordOperationPhaseTransition _) => false
  | .call (.recordStagingFailure _) => false
  | _ => true

section
variable (py calendar dirs)

/-- The recovery store of the process under a label; no caller asks for the transition into
`skipped`. -/
def stagingRunStep (store : StagingStore Dir) : StagingLabel Dir → Option (StagingStore Dir)
  | .stage permit port processInstanceId clock =>
    some (executeNextRunTargetStagingStep py calendar dirs permit port processInstanceId clock
      store).2
  | .transition args =>
    if args.nextPhase = .skipped then none else some (recordTransition py dirs args store).2
  | .other label =>
    if othersCall label then
      (connectionStep py dirs store.connection label).map fun connection =>
        { store with connection }
    else none
  | .restart =>
    some ⟨⟨store.connection.committed, store.connection.committed, false⟩, fun _ => none⟩

def stagingRuns : System (StagingStore Dir) (StagingLabel Dir) where
  init store := (journal py dirs).init store.connection ∧ ∀ key, store.deadlines key = none
  step := stagingRunStep py calendar dirs

end

/-- No transaction is open, and the table is kept. -/
structure StoreKept (py : PythonLibrary) (connection : Connection Dir) : Prop where
  settled : connection.Settled
  holds : connection.Holds (TableKept py)

variable {c : Connection Dir}

theorem StoreKept.call (h : StoreKept py c) {call : Call}
    (hbody : call.precheck py = .ok () → TableKept py (call.body py dirs c.current).2) :
    StoreKept py (performCall py dirs call c).2 := by
  unfold performCall
  split
  · exact h
  · rename_i hcheck
    exact ⟨(h.settled.execute _).1, h.holds.execute (hbody hcheck)⟩

theorem transition_live {args : TransitionArgs}
    (hcheck : (Call.recordOperationPhaseTransition args).precheck py = .ok ()) :
    args.expectedPhase ≠ .skipped := by
  obtain ⟨_, -, hcheck⟩ := except_bind_ok hcheck
  intro hskipped
  have hlive := Phase.not_terminal_of_validated (raiseViolation_ok hcheck)
  rw [hskipped] at hlive
  exact hlive (by decide)

theorem StoreKept.transition (h : StoreKept py c) {args : TransitionArgs}
    (hnext : args.nextPhase ≠ .skipped) :
    StoreKept py (performCall py dirs (.recordOperationPhaseTransition args) c).2 := by
  refine h.call fun hcheck => ?_
  have hchange : (Call.recordOperationPhaseTransition args).rowChange py dirs =
      some (transitionChange py dirs args) := rfl
  rw [Call.body_rowChange hchange]
  refine h.holds.2.rowChange (Call.rowChange_framed hchange) ?_
  intro operation updated hkept hexpects hrow
  have hphase : operation.phase = args.expectedPhase := of_decide_eq_true hexpects
  exact hkept.transition (hphase ▸ transition_live hcheck) hnext hrow

theorem staging_live {phase : Phase} (h : phase ∈ Phase.stagingPhases) : phase ≠ .skipped := by
  rintro rfl
  revert h
  decide

theorem StoreKept.failure (h : StoreKept py c)
    (hnext : args.nextPhase = failurePhase args.expectedPhase args.expectedFailureCount) :
    StoreKept py (performCall py dirs (.recordStagingFailure args) c).2 := by
  refine h.call fun hcheck => ?_
  have hchange : (Call.recordStagingFailure args).rowChange py dirs =
      some (stagingFailureChange py args) := rfl
  rw [Call.body_rowChange hchange]
  refine h.holds.2.rowChange (Call.rowChange_framed hchange) ?_
  intro operation updated hkept hexpects hrow
  obtain ⟨hphase, hcount⟩ := of_decide_eq_true hexpects
  simp only [stagingFailureChange] at hrow
  split at hrow
  · cases hrow
  · refine hkept.failure ?_ hcount (by rw [hphase, hcount, hnext]) hrow
    rw [hphase]
    exact staging_live (stagingFailure_checked hcheck).1

theorem tableKept_planned (h : TableKept py t) (hphase : operation.phase = .planned)
    (hvalid : validateRecoveryOperation py operation = .ok ())
    (hcount : operation.stagingFailureCount = 0) (processInstanceId : String)
    (payload : Option Payload) :
    TableKept py (recordPlannedOperationBody dirs operation processInstanceId payload t).2 := by
  have hrow : AttemptsKept py operation := by
    refine ⟨hvalid, ?_, ?_⟩
    · rw [hcount]
      decide
    · rw [hphase, hcount]
      decide
  unfold recordPlannedOperationBody
  split
  · rename_i existing _
    split
    · exact h
    · rw [andThen_tables]
      exact h.congr (recordDirectory_frame dirs existing processInstanceId t).1
  · rename_i hfresh
    split
    · exact h
    · split
      · exact h
      · rw [andThen_tables]
        exact h.insert hrow hfresh (recordDirectory_frame dirs operation processInstanceId
          (t.insertPlanned operation processInstanceId payload)).1

theorem StoreKept.rebound (h : StoreKept py c) {call : Call}
    (hchange : call.rowChange py dirs = some change)
    {newRow : RecoveryOperation → RecoveryOperation}
    (hnew : ∀ operation, change.row operation = validatedRow py (newRow operation) ∧
      (newRow operation).phase = operation.phase ∧
      (newRow operation).stagingFailureCount = operation.stagingFailureCount) :
    StoreKept py (performCall py dirs call c).2 := by
  refine h.call fun _ => ?_
  rw [Call.body_rowChange hchange]
  refine h.holds.2.rowChange (Call.rowChange_framed hchange) ?_
  intro operation updated hkept _ hrow
  obtain ⟨hvalidated, hphase, hcount⟩ := hnew operation
  exact hkept.rebound (hvalidated ▸ hrow) hphase hcount

theorem StoreKept.other {c c' : Connection Dir} {label : Label Dir} (h : StoreKept py c)
    (hothers : othersCall label = true) (hstep : connectionStep py dirs c label = some c') :
    StoreKept py c' := by
  cases stepCases hstep with
  | call call =>
    cases call with
    | recordPlannedOperation operation processInstanceId payload =>
      refine h.call fun hcheck => ?_
      obtain ⟨_, hphase, hcheck⟩ := except_bind_ok hcheck
      obtain ⟨_, -, hvalid⟩ := except_bind_ok hcheck
      have hphase : operation.phase = .planned := by
        by_contra hne
        simp [raiseStoreErrorUnless, hne] at hphase
      exact tableKept_planned h.holds.2 hphase (raiseViolation_ok hvalid)
        (of_decide_eq_true hothers) processInstanceId payload
    | recordOperationPhaseTransition args => cases hothers
    | recordStagingFailure args => cases hothers
    | recordOperationLeaseRebound expectedPhase args =>
      exact h.rebound rfl fun operation => ⟨rfl, rfl, rfl⟩
    | recordCommitIntentRefreshed args =>
      exact h.rebound rfl fun operation => ⟨rfl, rfl, rfl⟩
    | recordOldTargetPreservedCommitIntentRefreshed args =>
      exact h.rebound rfl fun operation => ⟨rfl, rfl, rfl⟩
  | begin _ => exact ⟨fun hidle => Bool.noConfusion hidle, h.holds⟩
  | commit _ => exact ⟨fun _ => rfl, h.holds.2, h.holds.2⟩
  | rollback => exact ⟨fun _ => rfl, h.holds.1, h.holds.1⟩
  | skipped => exact h
  | neighbour body hops _ _ =>
    exact ⟨(h.settled.execute body).1, h.holds.execute (h.holds.2.congr hops)⟩

theorem recordTransition_connection (args : TransitionArgs) (store : StagingStore Dir) :
    (recordTransition py dirs args store).2.connection =
      (performCall py dirs (.recordOperationPhaseTransition args) store.connection).2 := by
  unfold recordTransition
  split
  · rename_i hcall
    rw [hcall]
    dsimp only
    split <;> rfl
  · rename_i hcall
    rw [hcall]

theorem afterStagingFailure_connection (args : StagingFailureArgs)
    (timing : Option StagingRetryTiming) (deadlines : Deadlines)
    (answer : Except Raised (Option RecoveryOperation) × Connection Dir) :
    (afterStagingFailure py calendar args timing deadlines answer).2.connection = answer.2 := by
  unfold afterStagingFailure
  split
  · split <;> rfl
  · rfl

theorem execute_answer {α : Type} (body : Body Dir α) (c : Connection Dir) :
    (c.execute body).1 = (body c.current).1 := by
  unfold Connection.execute
  by_cases hopen : c.inTransaction = true
  · rw [if_pos hopen]
  · rw [if_neg hopen]
    rcases (body c.current).1 with (code | code | code) | value <;> rfl

variable (dirs) in
theorem performCall_rowChange (hsettled : c.Settled) (call : Call)
    (hcheck : call.precheck py = .ok ()) (hchange : call.rowChange py dirs = some change)
    (hafter : change.after = noDirectoryStep)
    (hload : c.current.loadOperation change.runId change.operationId = some operation)
    (hexpects : change.expects operation = true) : (∃ updated, change.row operation = .ok updated ∧
      (performCall py dirs call c).1 = .ok (some updated) ∧
      (performCall py dirs call c).2.current.operations =
        Table.overwrite RecoveryOperation.key c.current.operations updated) ∨
    (∃ raised, (performCall py dirs call c).1 = .error raised ∧
      (performCall py dirs call c).2.current.operations = c.current.operations ∧
      (change.row operation = .error raised ∨ ∃ updated code, change.row operation = .ok updated ∧
        change.refusal c.current updated = some code)) := by
  unfold performCall
  rw [hcheck]
  dsimp only
  rw [Call.body_rowChange hchange]
  have hanswer := execute_answer change.body c
  have hcurrent : (c.execute change.body).2.current = (change.body c.current).2 ∨
      (c.execute change.body).2.current = c.current := by
    rcases (hsettled.execute change.body).2 with hnext | hsame
    · exact .inl hnext
    · exact .inr (by rw [hsame])
  have houtcome := change.outcome c.current
  generalize hresult : change.body c.current = result at houtcome hanswer hcurrent
  have hraised : ∀ raised, result = (.error raised, c.current) →
      (c.execute change.body).1 = .error raised ∧
        (c.execute change.body).2.current.operations = c.current.operations := by
    rintro raised rfl
    refine ⟨hanswer, ?_⟩
    rcases hcurrent with hnext | hsame
    · rw [hnext]
    · rw [hsame]
  have hsame : ∀ other, c.current.loadOperation change.runId change.operationId = some other →
      other = operation := fun other hother => Option.some.inj (hother.symm.trans hload)
  cases houtcome with
  | unexpected h => exact absurd (h operation hload) (by rw [hexpects]; exact nofun)
  | raised other raised hother _ hrow =>
    obtain rfl := hsame other hother
    exact .inr ⟨raised, (hraised raised rfl).1, (hraised raised rfl).2, .inl hrow⟩
  | refused other updated code hother _ hrow hrefusal =>
    obtain rfl := hsame other hother
    exact .inr ⟨.storeError code, (hraised _ rfl).1, (hraised _ rfl).2,
      .inr ⟨updated, code, hrow, hrefusal⟩⟩
  | wrote other updated hother _ hrow _ =>
    obtain rfl := hsame other hother
    rw [hafter] at hanswer hresult
    refine .inl ⟨updated, hrow, hanswer, ?_⟩
    rw [(Connection.execute_ok hanswer).2, hresult]
    rfl

/-- One row is replaced, under the same key. -/
structure Replaces (before after : List RecoveryOperation)
    (operation updated : RecoveryOperation) : Prop where
  stored : operation ∈ before
  key : updated.key = operation.key
  written : updated ∈ after
  alone : ∀ other ∈ after, other.key = operation.key → other = updated
  others : ∀ other, other.key ≠ operation.key → (other ∈ after ↔ other ∈ before)

theorem replaces_overwrite {before : List RecoveryOperation}
    {operation updated : RecoveryOperation} (hstored : operation ∈ before)
    (hkey : updated.key = operation.key) :
    Replaces before (Table.overwrite RecoveryOperation.key before updated) operation updated where
  stored := hstored
  key := hkey
  written := Table.mem_overwrite_self hstored hkey.symm
  alone := by
    intro other hmem hsame
    rcases Table.mem_overwrite hmem with rfl | ⟨-, hne⟩
    · rfl
    · exact absurd (hsame.trans hkey.symm) hne
  others := by
    intro other hne
    constructor
    · intro hmem
      rcases Table.mem_overwrite hmem with rfl | ⟨hold, -⟩
      · exact absurd hkey hne
      · exact hold
    · exact fun hold => Table.mem_overwrite_of_ne hold fun h => hne (h.trans hkey)

theorem TableKept.load (h : TableKept py t) (hmem : operation ∈ t.operations) :
    t.loadOperation operation.runId operation.operationId = some operation :=
  Table.lookup_of_mem h.keys hmem

/-- The retry of an operation is due once its backoff has passed: since the reading it was
planned with, and in a restarted process since its first look. -/
def RetryBecomesDue (py : PythonLibrary) (calendar : RetryCalendar) (operation : RecoveryOperation)
    (planned : ClockReading) (deadlines : Deadlines) : Prop :=
  ∃ backoffMs, operation.stagingRetryBackoffMs = some backoffMs ∧
    1 ≤ backoffMs ∧ backoffMs ≤ stagingRetryMaxMs ∧
    (∀ reading, planned.monotonicNs + backoffMs * 1000000 ≤ reading.monotonicNs →
      stagingRetryIsDue py calendar operation reading deadlines = .ok (true, deadlines)) ∧
    ∀ first due seen later,
      stagingRetryIsDue py calendar operation first (fun _ => none) = .ok (due, seen) →
      first.monotonicNs + backoffMs * 1000000 ≤ later.monotonicNs →
      stagingRetryIsDue py calendar operation later seen = .ok (true, seen)

/-- The UTC text of a retry that is planned at a clock reading. -/
def retryUtc (calendar : RetryCalendar) (reading : ClockReading) (backoffMs : Int) : String :=
  calendar.formatUtc (calendar.instant reading.utcNow + backoffMs * 1000)

variable {reading : ClockReading} {timing : StagingRetryTiming}

theorem plannedTiming_some (h : plannedTiming py calendar args reading = some timing) :
    args.nextPhase = args.expectedPhase ∧ 0 ≤ reading.monotonicNs ∧
      1 ≤ timing.backoffMs ∧ timing.backoffMs ≤ stagingRetryMaxMs ∧
      timing.deadlineMonotonicNs = reading.monotonicNs + timing.backoffMs * 1000000 ∧
      timing.retryNotBeforeUtc = retryUtc calendar reading timing.backoffMs := by
  unfold plannedTiming at h
  split at h
  · rename_i hnext
    cases hplan : (stagingRetryBackoffMs args.runId args.operationId
        (args.expectedFailureCount + 1)).bind (planRetry py calendar reading) with
    | error code =>
      rw [hplan] at h
      cases h
    | ok planned =>
      rw [hplan] at h
      cases h
      obtain ⟨backoffMs, hbackoff, hplan⟩ := except_bind_ok hplan
      obtain ⟨_, -, hplan⟩ := except_bind_ok hplan
      obtain ⟨observed, hobserved, hplan⟩ := except_bind_ok hplan
      obtain ⟨started, hstarted, hplan⟩ := except_bind_ok hplan
      obtain ⟨hclock, rfl⟩ := monotonicNow_eq_ok.mp hstarted
      obtain ⟨hlow, hhigh⟩ := stagingRetryBackoffMs_bounds hbackoff
      unfold parseUtc at hobserved
      split at hobserved
      · cases hobserved
        rw [← Except.ok.inj hplan]
        exact ⟨hnext, hclock, hlow, hhigh, rfl, rfl⟩
      · cases hobserved
  · cases h

theorem plannedTiming_none (hidentity : (nonBlank args.runId && nonBlank args.operationId) = true)
    (hcount : 0 ≤ args.expectedFailureCount) (hnext : args.nextPhase = args.expectedPhase)
    (h : plannedTiming py calendar args reading = none) :
    parsesAsUtc py reading.utcNow = false ∨ reading.monotonicNs < 0 := by
  obtain ⟨backoffMs, hbackoff⟩ : ∃ backoffMs, stagingRetryBackoffMs args.runId args.operationId
      (args.expectedFailureCount + 1) = .ok backoffMs := by
    have hattempt : decide (1 ≤ args.expectedFailureCount + 1) = true := decide_eq_true (by omega)
    unfold stagingRetryBackoffMs
    simp only [hidentity, hattempt, check, if_true, bind, Except.bind]
    exact ⟨_, rfl⟩
  obtain ⟨hlow, hhigh⟩ := stagingRetryBackoffMs_bounds hbackoff
  have hbounds : validateBackoff backoffMs = .ok () := check_eq_ok.mpr (by simp [hlow, hhigh])
  by_contra hclock
  rw [not_or, Bool.not_eq_false, not_lt] at hclock
  have hparse : parseUtc py calendar reading.utcNow = .ok (calendar.instant reading.utcNow) :=
    if_pos hclock.1
  have hnow : monotonicNow reading = .ok reading.monotonicNs := if_neg (not_lt.mpr hclock.2)
  unfold plannedTiming planRetry at h
  rw [if_pos hnext, hbackoff] at h
  simp only [Except.bind, bind, hbounds, hparse, hnow] at h
  cases h

variable {row : RecoveryOperation}

theorem activateRetry_ok (hvalid : validateRecoveryOperation py row = .ok ())
    (hbackoff : row.stagingRetryBackoffMs = some timing.backoffMs)
    (hutc : row.stagingRetryNotBeforeUtc = some timing.retryNotBeforeUtc) (deadlines : Deadlines) :
    ∃ after, activateRetry py calendar row.runId row.operationId timing deadlines = .ok after := by
  have hpersisted := (validated_retry hvalid).2
  rw [hbackoff, hutc] at hpersisted
  obtain ⟨_, -, hpersisted⟩ := except_bind_ok hpersisted
  obtain ⟨_, hbounds, hparses⟩ := except_bind_ok hpersisted
  have hkey : operationKey row.runId row.operationId =
      .ok (strip row.runId, strip row.operationId) :=
    operationKey_eq_ok.mpr ⟨validated_identity hvalid, rfl⟩
  have hbackoff : validateBackoff timing.backoffMs = .ok () := hbounds
  have hparse : parseUtc py calendar timing.retryNotBeforeUtc =
      .ok (calendar.instant timing.retryNotBeforeUtc) := if_pos (check_eq_ok.mp hparses)
  unfold activateRetry
  rw [hkey]
  simp only [hbackoff, hparse, bind, Except.bind, pure, Except.pure]
  exact ⟨_, rfl⟩

theorem discardRetry_ok (hvalid : validateRecoveryOperation py row = .ok ())
    (deadlines : Deadlines) :
    ∃ after, discardRetry row.runId row.operationId deadlines = .ok after := by
  have hkey : operationKey row.runId row.operationId =
      .ok (strip row.runId, strip row.operationId) :=
    operationKey_eq_ok.mpr ⟨validated_identity hvalid, rfl⟩
  unfold discardRetry
  rw [hkey]
  exact ⟨_, rfl⟩

variable {deadlines after : Deadlines}

theorem stagingRetryIsDue_of_retry {backoffMs : Int} {utc : String}
    (hbackoff : row.stagingRetryBackoffMs = some backoffMs)
    (hutc : row.stagingRetryNotBeforeUtc = some utc) {due : Bool} :
    stagingRetryIsDue py calendar row reading deadlines = .ok (due, after) ↔
      retryIsDue py calendar row.runId row.operationId backoffMs utc reading deadlines =
        .ok (due, after) := by
  unfold stagingRetryIsDue
  rw [hbackoff, hutc]
  dsimp only
  cases retryIsDue py calendar row.runId row.operationId backoffMs utc reading deadlines <;> simp

theorem retryBecomesDue_activated {planned : ClockReading}
    (htiming : plannedTiming py calendar args planned = some timing)
    (hbackoff : row.stagingRetryBackoffMs = some timing.backoffMs)
    (hutc : row.stagingRetryNotBeforeUtc = some timing.retryNotBeforeUtc)
    (hactivate : activateRetry py calendar row.runId row.operationId timing deadlines =
      .ok after) : RetryBecomesDue py calendar row planned after := by
  obtain ⟨-, hclock, hlow, hhigh, hdeadline, -⟩ := plannedTiming_some htiming
  refine ⟨timing.backoffMs, hbackoff, hlow, hhigh, ?_, ?_⟩
  · intro reading hpassed
    rw [stagingRetryIsDue_of_retry hbackoff hutc,
      retryIsDue_activated hactivate (by omega), decide_eq_true (by omega)]
  · intro first due seen later hfirst hpassed
    rw [stagingRetryIsDue_of_retry hbackoff hutc] at hfirst ⊢
    exact retryIsDue_restarted (fun _ => rfl) hfirst hpassed

theorem rescheduled_ok {timing : Option StagingRetryTiming}
    (hvalid : validateRecoveryOperation py row = .ok ()) (hrun : args.runId = row.runId)
    (hoperation : args.operationId = row.operationId)
    (hbackoff : row.stagingRetryBackoffMs = timing.map StagingRetryTiming.backoffMs)
    (hutc : row.stagingRetryNotBeforeUtc = timing.map StagingRetryTiming.retryNotBeforeUtc)
    (deadlines : Deadlines) :
    ∃ after, rescheduled py calendar args timing deadlines = .ok after := by
  unfold rescheduled
  rw [hrun, hoperation]
  cases timing with
  | none => exact discardRetry_ok hvalid deadlines
  | some timing => exact activateRetry_ok hvalid hbackoff hutc deadlines

/-- The failure that the staging step reports for the operation it has read. -/
structure StepFailure (operation : RecoveryOperation) (args : StagingFailureArgs) : Prop where
  runId : args.runId = operation.runId
  operationId : args.operationId = operation.operationId
  expectedPhase : args.expectedPhase = operation.phase
  expectedFailureCount : args.expectedFailureCount = operation.stagingFailureCount
  nextPhase : args.nextPhase = failurePhase operation.phase operation.stagingFailureCount

theorem failureArgs_stepFailure (operation : RecoveryOperation) (code processInstanceId : String) :
    StepFailure operation (failureArgs operation code processInstanceId) :=
  ⟨rfl, rfl, rfl, rfl, rfl⟩

/-- Why the failure of a stored operation's attempt is not recorded: the clock gives no retry, or
one whose text the store refuses, or the operation's lease is not in force, or its row itself
breaks the constraints of its table. -/
inductive FailureRefused (py : PythonLibrary) (calendar : RetryCalendar) (t : Tables Dir)
    (operation : RecoveryOperation) (reading : ClockReading) : Prop
  | clock (hearly : operation.stagingFailureCount + 1 < maxStagingAttempts)
      (h : parsesAsUtc py reading.utcNow = false ∨ reading.monotonicNs < 0)
  | retryTime (hearly : operation.stagingFailureCount + 1 < maxStagingAttempts) (backoffMs : Int)
      (hbounds : 1 ≤ backoffMs ∧ backoffMs ≤ stagingRetryMaxMs)
      (h : parsesAsUtc py (retryUtc calendar reading backoffMs) = false ∨
        Tables.retryTextAccepted (some (retryUtc calendar reading backoffMs)) = false)
  | lease (h : t.activeMatchingLease operation = false)
  | constraint (h : t.acceptsRow operation = false)

theorem stagingFailure_precheck {operation : RecoveryOperation}
    (hvalid : validateRecoveryOperation py operation = .ok ())
    (hphase : operation.phase ∈ stagingExecutionPhases) {code processInstanceId : String}
    (hcode : code ∈ retryableStagingFailureCodes) (hprocess : nonBlank processInstanceId = true)
    (plannedRetry : Option (Int × String)) :
    (Call.recordStagingFailure { failureArgs operation code processInstanceId with
      plannedRetry }).precheck py = .ok () := by
  have hnonBlank : ∀ code ∈ retryableStagingFailureCodes, nonBlank code = true := by decide
  have hnext : ((failureArgs operation code processInstanceId).nextPhase = operation.phase ||
      (failureArgs operation code processInstanceId).nextPhase = .skipped) = true := by
    simp only [failureArgs]
    split <;> simp
  have hstaging : operation.phase ∈ Phase.stagingPhases := hphase
  unfold Call.precheck validateProcessInstanceId raiseStoreErrorUnless
  simp only [failureArgs] at hnext ⊢
  simp only [hprocess, (validated_retry hvalid).1, hnonBlank code hcode, hstaging, decide_true,
    if_true, bind, Except.bind]
  exact if_pos hnext

theorem stagingFailureRow_valid (hvalid : validateRecoveryOperation py operation = .ok ())
    (hargs : StepFailure operation args) (hphase : operation.phase ∈ stagingExecutionPhases)
    (hretry : ∀ backoffMs utc, args.plannedRetry = some (backoffMs, utc) →
      1 ≤ backoffMs ∧ backoffMs ≤ stagingRetryMaxMs ∧ parsesAsUtc py utc = true) :
    validateRecoveryOperation py (stagingFailureRow operation args) = .ok () := by
  have hcount := (validated_retry hvalid).1
  obtain ⟨_, hidentifiers, hrest⟩ := except_bind_ok hvalid
  obtain ⟨_, hjob, hrest⟩ := except_bind_ok hrest
  obtain ⟨_, hversion, hrest⟩ := except_bind_ok hrest
  obtain ⟨_, -, hrest⟩ := except_bind_ok hrest
  obtain ⟨_, hpaths, hrest⟩ := except_bind_ok hrest
  obtain ⟨_, hhashes, -⟩ := except_bind_ok hrest
  have hlive : args.nextPhase = operation.phase ∨ args.nextPhase = .skipped := by
    rw [hargs.nextPhase, failurePhase]
    split
    · exact .inr rfl
    · exact .inl rfl
  have hnoIntent : ∀ phase ∈ stagingExecutionPhases, phase ∉ Phase.phasesRequiringIntent ∧
      phase ∉ Phase.phasesRequiringCatalogHandoff := by decide
  have hnextPhase : args.nextPhase ∉ Phase.phasesRequiringIntent ∧
      args.nextPhase ∉ Phase.phasesRequiringCatalogHandoff := by
    rcases hlive with hsame | hskipped
    · exact hsame ▸ hnoIntent _ hphase
    · exact hskipped ▸ (by decide)
  have hintent : validateIntentBinding (stagingFailureRow operation args) = .ok () :=
    if_neg hnextPhase.1
  have hhandoff : validateCatalogHandoff (stagingFailureRow operation args) = .ok () :=
    if_neg hnextPhase.2
  have htiming : validateStagingRetry py (stagingFailureRow operation args) = .ok () := by
    have hnonneg : 0 ≤ args.expectedFailureCount + 1 := by
      rw [hargs.expectedFailureCount]
      omega
    have hpositive : 1 ≤ args.expectedFailureCount + 1 := by
      rw [hargs.expectedFailureCount]
      omega
    unfold validateStagingRetry validateStagingRetryPersistence stagingFailureRow
    by_cases hsame : args.nextPhase = args.expectedPhase
    · have hstaging : args.expectedPhase ∈ Phase.stagingPhases := hargs.expectedPhase ▸ hphase
      cases hplanned : args.plannedRetry with
      | none => simp [check, hsame, hnonneg, bind, Except.bind, pure, Except.pure]
      | some planned =>
        obtain ⟨hlow, hhigh, hparses⟩ := hretry planned.1 planned.2 hplanned
        simp [check, hsame, hnonneg, hpositive, hlow, hhigh, hparses, hstaging, bind, Except.bind]
    · simp [check, hsame, hnonneg, bind, Except.bind, pure, Except.pure]
  have hidentifiers : validateIdentifiers (stagingFailureRow operation args) = .ok () :=
    hidentifiers
  have hjob : validateJobBinding (stagingFailureRow operation args) = .ok () := hjob
  have hversion : validateVersionMetadata (stagingFailureRow operation args) = .ok () := hversion
  have hpaths : validatePaths py (stagingFailureRow operation args) = .ok () := hpaths
  have hhashes : validateHashes (stagingFailureRow operation args) = .ok () := hhashes
  simp only [validateRecoveryOperation, hidentifiers, hjob, hversion, htiming, hpaths, hhashes,
    hintent, hhandoff, bind, Except.bind]

theorem acceptsRow_stagingFailure (haccepts : t.acceptsRow operation = true)
    (hretry : Tables.retryTextAccepted
      (stagingFailureRow operation args).stagingRetryNotBeforeUtc = true) :
    t.acceptsRow (stagingFailureRow operation args) = true := by
  unfold Tables.acceptsRow at haccepts ⊢
  simp only [Bool.and_eq_true] at haccepts ⊢
  obtain ⟨⟨⟨hsegment, hordinal⟩, -⟩, hunique⟩ := haccepts
  exact ⟨⟨⟨hsegment, hordinal⟩, hretry⟩, hunique⟩

variable {store : StagingStore Dir} {answer : Except Raised (Option RecoveryOperation)}

theorem failureRefused_of_valid {raised : Raised}
    (hplanned : ¬ (args.nextPhase = args.expectedPhase ∧ args.plannedRetry = none))
    (hvalid : validateRecoveryOperation py (stagingFailureRow operation args) = .ok ())
    (hretry : Tables.retryTextAccepted
      (stagingFailureRow operation args).stagingRetryNotBeforeUtc = true)
    (hwhy : (stagingFailureChange py args : RowChange Dir).row operation = .error raised ∨
      ∃ updated code, (stagingFailureChange py args : RowChange Dir).row operation = .ok updated ∧
        (stagingFailureChange py args).refusal t updated = some code) :
    FailureRefused py calendar t operation reading := by
  have hrow : (stagingFailureChange py args : RowChange Dir).row operation =
      .ok (stagingFailureRow operation args) := by
    simp only [stagingFailureChange, hplanned, if_false, validatedRow, hvalid]
  rw [hrow] at hwhy
  rcases hwhy with herror | ⟨updated, code, hupdated, hrefusal⟩
  · cases herror
  · cases hupdated
    cases hlease : t.activeMatchingLease operation with
    | false => exact .lease hlease
    | true =>
      have hlease : t.activeMatchingLease (stagingFailureRow operation args) = true := hlease
      cases haccepts : t.acceptsRow operation with
      | false => exact .constraint haccepts
      | true =>
        have haccepts := acceptsRow_stagingFailure haccepts hretry
        simp [stagingFailureChange, firstRefusal, hlease, haccepts] at hrefusal

theorem failureRefused_of (hvalid : validateRecoveryOperation py operation = .ok ())
    (hphase : operation.phase ∈ stagingExecutionPhases) (hargs : StepFailure operation args)
    (hplanned : args.plannedRetry = (plannedTiming py calendar args reading).map fun timing =>
      (timing.backoffMs, timing.retryNotBeforeUtc)) {raised : Raised}
    (hwhy : (stagingFailureChange py args : RowChange Dir).row operation = .error raised ∨
      ∃ updated code, (stagingFailureChange py args : RowChange Dir).row operation = .ok updated ∧
        (stagingFailureChange py args).refusal t updated = some code) :
    FailureRefused py calendar t operation reading := by
  have hearly : args.nextPhase = args.expectedPhase →
      operation.stagingFailureCount + 1 < maxStagingAttempts := by
    intro hsame
    by_contra hlate
    have hskipped := hargs.nextPhase.trans (if_pos (not_lt.mp hlate))
    exact staging_live hphase (hargs.expectedPhase.symm.trans (hsame.symm.trans hskipped))
  have hidentity : (nonBlank args.runId && nonBlank args.operationId) = true := by
    rw [hargs.runId, hargs.operationId]
    exact validated_identity hvalid
  have hcount : 0 ≤ args.expectedFailureCount := by
    rw [hargs.expectedFailureCount]
    exact (validated_retry hvalid).1
  cases htiming : plannedTiming py calendar args reading with
  | none =>
    rw [htiming, Option.map_none] at hplanned
    by_cases hsame : args.nextPhase = args.expectedPhase
    · exact .clock (hearly hsame) (plannedTiming_none hidentity hcount hsame htiming)
    · have hrow := stagingFailureRow_valid hvalid hargs hphase (by rw [hplanned]; exact nofun)
      exact failureRefused_of_valid (fun h => hsame h.1) hrow
        (by simp [stagingFailureRow, hsame, Tables.retryTextAccepted]) hwhy
  | some timing =>
    obtain ⟨hsame, -, hlow, hhigh, -, hutc⟩ := plannedTiming_some htiming
    rw [htiming, Option.map_some, hutc] at hplanned
    by_cases htext : parsesAsUtc py (retryUtc calendar reading timing.backoffMs) = true ∧
        Tables.retryTextAccepted (some (retryUtc calendar reading timing.backoffMs)) = true
    · have hrow := stagingFailureRow_valid hvalid hargs hphase fun backoffMs utc hgiven => by
        rw [hplanned] at hgiven
        cases hgiven
        exact ⟨hlow, hhigh, htext.1⟩
      exact failureRefused_of_valid (by simp [hplanned]) hrow
        (by simpa [stagingFailureRow, hsame, hplanned] using htext.2) hwhy
    · rw [not_and_or, Bool.not_eq_true, Bool.not_eq_true] at htext
      exact .retryTime (hearly hsame) timing.backoffMs ⟨hlow, hhigh⟩ htext

theorem recordStagingFailure_effect (hkept : StoreKept py store.connection)
    (hstored : operation ∈ store.connection.current.operations)
    (hphase : operation.phase ∈ stagingExecutionPhases) (hargs : StepFailure operation args)
    (hcheck : ∀ plannedRetry,
      (Call.recordStagingFailure { args with plannedRetry }).precheck py = .ok ())
    {after : StagingStore Dir}
    (h : recordStagingFailure py calendar dirs args reading store = (answer, after)) :
    (∃ updated, answer = .ok (some updated) ∧
      after.connection.current.operations = Table.overwrite RecoveryOperation.key
        store.connection.current.operations updated ∧
      updated.key = operation.key ∧
      updated.stagingFailureCount = operation.stagingFailureCount + 1 ∧
      updated.phase = failurePhase operation.phase operation.stagingFailureCount ∧
      (updated.phase = operation.phase →
        RetryBecomesDue py calendar updated reading after.deadlines)) ∨
    (∃ raised, answer = .error raised ∧
      after.connection.current.operations = store.connection.current.operations ∧
      FailureRefused py calendar store.connection.current operation reading) := by
  unfold recordStagingFailure at h
  extract_lets timing plannedRetry at h
  have hload := hkept.holds.2.load hstored
  rw [← hargs.runId, ← hargs.operationId] at hload
  have hexpects : (stagingFailureChange py { args with plannedRetry } : RowChange Dir).expects
      operation = true :=
    decide_eq_true ⟨hargs.expectedPhase.symm, hargs.expectedFailureCount.symm⟩
  have hvalid := (hkept.holds.2.rows operation hstored).valid
  -- the call either writes the one row or says why it does not
  have heffect := performCall_rowChange dirs hkept.settled
    (.recordStagingFailure { args with plannedRetry }) (hcheck plannedRetry) rfl rfl hload hexpects
  generalize performCall py dirs (.recordStagingFailure { args with plannedRetry })
    store.connection = called at h heffect
  obtain ⟨returned, connection⟩ := called
  obtain ⟨updated, hrow, hanswer, hops⟩ | ⟨raised, hanswer, hops, hwhy⟩ := heffect
  · obtain rfl : returned = .ok (some updated) := hanswer
    simp only [stagingFailureChange] at hrow
    split at hrow
    · cases hrow
    · rename_i hplanned
      obtain ⟨rfl, hvalid⟩ := validatedRow_ok hrow
      have hretry : (if args.nextPhase = args.expectedPhase then plannedRetry else none) =
          plannedRetry := by
        split
        · rfl
        · rename_i hnext
          cases htiming : timing with
          | none => simp only [plannedRetry, htiming, Option.map_none]
          | some planned => exact absurd (plannedTiming_some htiming).1 hnext
      have hbackoff :
          (stagingFailureRow operation { args with plannedRetry }).stagingRetryBackoffMs =
          timing.map StagingRetryTiming.backoffMs := by
        simp only [stagingFailureRow, hretry, plannedRetry, Option.map_map]
        rfl
      have hutc :
          (stagingFailureRow operation { args with plannedRetry }).stagingRetryNotBeforeUtc =
            timing.map StagingRetryTiming.retryNotBeforeUtc := by
        simp only [stagingFailureRow, hretry, plannedRetry, Option.map_map]
        rfl
      -- what was recorded is what the scheduler is given, so it accepts it
      obtain ⟨deadlines, hscheduled⟩ : ∃ deadlines,
          rescheduled py calendar args timing store.deadlines = .ok deadlines :=
        rescheduled_ok hvalid hargs.runId hargs.operationId hbackoff hutc store.deadlines
      simp only [afterStagingFailure, hscheduled] at h
      obtain ⟨rfl, rfl⟩ := Prod.mk.inj h
      have hcount : (stagingFailureRow operation { args with plannedRetry }).stagingFailureCount =
          operation.stagingFailureCount + 1 :=
        congrArg (· + 1) hargs.expectedFailureCount
      refine .inl ⟨_, rfl, hops, rfl, hcount, hargs.nextPhase, ?_⟩
      intro hphase
      have hsame : args.nextPhase = args.expectedPhase := hphase.trans hargs.expectedPhase.symm
      cases htiming : timing with
      | none => exact absurd ⟨hsame, by simp only [plannedRetry, htiming, Option.map_none]⟩ hplanned
      | some planned =>
        rw [htiming] at hbackoff hutc hscheduled
        have hactivate : activateRetry py calendar args.runId args.operationId planned
            store.deadlines = .ok deadlines := hscheduled
        rw [hargs.runId, hargs.operationId] at hactivate
        exact retryBecomesDue_activated htiming hbackoff hutc hactivate
  · obtain rfl : returned = .error raised := hanswer
    obtain ⟨rfl, rfl⟩ := Prod.mk.inj h
    have hargs' : StepFailure operation { args with plannedRetry } :=
      ⟨hargs.runId, hargs.operationId, hargs.expectedPhase, hargs.expectedFailureCount,
        hargs.nextPhase⟩
    exact .inr ⟨raised, rfl, hops, failureRefused_of hvalid hphase hargs' rfl hwhy⟩

/-- Why a stored operation's transition is not recorded. -/
inductive TransitionRefused (py : PythonLibrary) (t : Tables Dir) (operation : RecoveryOperation)
    (args : TransitionArgs) : Prop
  | row (raised : Raised) (h : operationAfterTransition py operation args = .error raised)
  | lease (updated : RecoveryOperation)
      (hrow : operationAfterTransition py operation args = .ok updated)
      (h : t.activeMatchingLease updated = false)
  | constraint (updated : RecoveryOperation)
      (hrow : operationAfterTransition py operation args = .ok updated)
      (h : t.acceptsRow updated = false)

theorem transitionRefused_of {args : TransitionArgs} {raised : Raised}
    (hnext : args.nextPhase ≠ .commitIntentRecorded)
    (hwhy : operationAfterTransition py operation args = .error raised ∨
      ∃ updated code, operationAfterTransition py operation args = .ok updated ∧
        (transitionChange py dirs args).refusal t updated = some code) :
    TransitionRefused py t operation args := by
  rcases hwhy with hrow | ⟨updated, code, hrow, hrefusal⟩
  · exact .row raised hrow
  · cases hlease : t.activeMatchingLease updated with
    | false => exact .lease updated hrow hlease
    | true =>
      cases haccepts : t.acceptsRow updated with
      | false => exact .constraint updated hrow haccepts
      | true => simp [transitionChange, firstRefusal, hlease, haccepts, hnext] at hrefusal

theorem recordTransition_effect (hkept : StoreKept py store.connection)
    (hstored : operation ∈ store.connection.current.operations)
    (hphase : operation.phase ∈ stagingExecutionPhases) {work : PhaseWork}
    (hsuccess : work.1 ∈ Phase.successTransitions operation.phase)
    (hnext : work.1 ≠ .catalogRecorded) {processInstanceId : String}
    (hprocess : nonBlank processInstanceId = true) {after : StagingStore Dir}
    (h : recordTransition py dirs (advanceArgs operation work processInstanceId) store =
      (answer, after)) : (∃ updated, answer = .ok (some updated) ∧
      after.connection.current.operations = Table.overwrite RecoveryOperation.key
        store.connection.current.operations updated ∧
      updated.key = operation.key ∧ updated.phase = work.1 ∧
      updated.stagingFailureCount = operation.stagingFailureCount ∧
      updated.stagingRetryBackoffMs = none ∧ updated.stagingRetryNotBeforeUtc = none) ∨
    (∃ raised, answer = .error raised ∧
      after.connection.current.operations = store.connection.current.operations ∧
      TransitionRefused py store.connection.current operation
        (advanceArgs operation work processInstanceId)) := by
  have hallowed : ∀ phase ∈ stagingExecutionPhases, ∀ next ∈ Phase.successTransitions phase,
      next ≠ .commitIntentRecorded ∧
        Phase.validateRecoveryPhaseTransition phase next = .ok () := by decide
  obtain ⟨hintent, hmove⟩ := hallowed _ hphase _ hsuccess
  have hcheck : (Call.recordOperationPhaseTransition (advanceArgs operation work
      processInstanceId)).precheck py = .ok () := by
    simp only [Call.precheck, advanceArgs, validateProcessInstanceId, hprocess, hmove,
      raiseViolation, if_true, bind, Except.bind]
  have hload : store.connection.current.loadOperation
      (advanceArgs operation work processInstanceId).runId
      (advanceArgs operation work processInstanceId).operationId = some operation :=
    hkept.holds.2.load hstored
  have hafter : (transitionChange py dirs (advanceArgs operation work processInstanceId)).after =
      noDirectoryStep := by
    funext updated
    exact if_neg hnext
  have heffect := performCall_rowChange dirs hkept.settled
    (.recordOperationPhaseTransition (advanceArgs operation work processInstanceId)) hcheck rfl
    hafter hload (decide_eq_true rfl)
  unfold recordTransition at h
  generalize performCall py dirs (.recordOperationPhaseTransition (advanceArgs operation work
    processInstanceId)) store.connection = called at h heffect
  obtain ⟨returned, connection⟩ := called
  obtain ⟨updated, hrow, hanswer, hops⟩ | ⟨raised, hanswer, hops, hwhy⟩ := heffect
  · obtain rfl : returned = .ok (some updated) := hanswer
    have hspec := operationAfterTransition_spec hrow
    obtain ⟨hcount, hbackoff, hutc⟩ := operationAfterTransition_attempts hrow
    have hkey : operation.runId = updated.runId ∧ operation.operationId = updated.operationId :=
      Prod.mk.inj hspec.key.symm
    obtain ⟨deadlines, hdiscard⟩ := discardRetry_ok hspec.valid store.deadlines
    rw [← hkey.1, ← hkey.2] at hdiscard
    have hdiscard : discardRetry (advanceArgs operation work processInstanceId).runId
        (advanceArgs operation work processInstanceId).operationId store.deadlines =
          .ok deadlines := hdiscard
    simp only [hdiscard] at h
    obtain ⟨rfl, rfl⟩ := Prod.mk.inj h
    exact .inl ⟨updated, rfl, hops, hspec.key, hspec.phase, hcount, hbackoff, hutc⟩
  · obtain rfl : returned = .error raised := hanswer
    obtain ⟨rfl, rfl⟩ := Prod.mk.inj h
    exact .inr ⟨raised, rfl, hops, transitionRefused_of hintent hwhy⟩

def StagingAttempt.recorded : StagingAttempt → Bool
  | .ended _ _ => false
  | .answered _ (.ok _) _ => true
  | .answered _ (.error (.runtimeError error)) _ => error.code ∈ retryableStagingFailureCodes
  | .answered _ (.error _) _ => false

theorem stagingAttempt_process {permit : MutationPermit} {port : StagingPort}
    {processInstanceId : String} {clock : StagingClock} {answer : Except PortRaised PhaseWork}
    (h : stagingAttempt py calendar permit port processInstanceId clock store =
      .answered operation answer deadlines) : nonBlank processInstanceId = true := by
  unfold stagingAttempt at h
  cases hprocess : nonBlank processInstanceId with
  | true => rfl
  | false =>
    rw [hprocess] at h
    cases h

/-- What a step does with an attempt: an attempt that is to be recorded is recorded, unless the
store refuses it for one of the reasons given. -/
inductive StagingEffect (py : PythonLibrary) (calendar : RetryCalendar) (clock : StagingClock)
    (processInstanceId : String) (before after : StagingStore Dir) :
    StagingAttempt → Except StagingRaised StagingOutcome → Prop
  | idle {attempt : StagingAttempt} {result : Except StagingRaised StagingOutcome}
      (hnothing : attempt.recorded = false)
      (hops : after.connection.current.operations = before.connection.current.operations) :
      StagingEffect py calendar clock processInstanceId before after attempt result
  | failureRefused (operation : RecoveryOperation) (error : StagingError) (deadlines : Deadlines)
      (raised : Raised) (hretryable : error.code ∈ retryableStagingFailureCodes)
      (hwhy : FailureRefused py calendar before.connection.current operation clock.failure)
      (hops : after.connection.current.operations = before.connection.current.operations) :
      StagingEffect py calendar clock processInstanceId before after
        (.answered operation (.error (.runtimeError error)) deadlines) (.error (.store raised))
  | transitionRefused (operation : RecoveryOperation) (work : PhaseWork) (deadlines : Deadlines)
      (raised : Raised)
      (hwhy : TransitionRefused py before.connection.current operation
        (advanceArgs operation work processInstanceId))
      (hops : after.connection.current.operations = before.connection.current.operations) :
      StagingEffect py calendar clock processInstanceId before after
        (.answered operation (.ok work) deadlines) (.error (.store raised))
  | failed (operation updated : RecoveryOperation) (error : StagingError) (deadlines : Deadlines)
      {outcome : StagingOutcome} (hretryable : error.code ∈ retryableStagingFailureCodes)
      (hphase : operation.phase ∈ stagingExecutionPhases)
      (hreplaced : Replaces before.connection.current.operations
        after.connection.current.operations operation updated)
      (hcount : updated.stagingFailureCount = operation.stagingFailureCount + 1)
      (hskipped : updated.phase = .skipped ↔ updated.stagingFailureCount = maxStagingAttempts)
      (hretry : updated.stagingFailureCount < maxStagingAttempts →
        updated.phase = operation.phase ∧
          RetryBecomesDue py calendar updated clock.failure after.deadlines)
      (houtcome : outcome.advanced = true ∧ outcome.phase = some updated.phase) :
      StagingEffect py calendar clock processInstanceId before after
        (.answered operation (.error (.runtimeError error)) deadlines) (.ok outcome)
  | advanced (operation updated : RecoveryOperation) (work : PhaseWork) (deadlines : Deadlines)
      {outcome : StagingOutcome} (hphase : operation.phase ∈ stagingExecutionPhases)
      (hreplaced : Replaces before.connection.current.operations
        after.connection.current.operations operation updated)
      (hnext : updated.phase = work.1 ∧ work.1 ∈ Phase.successTransitions operation.phase)
      (hcount : updated.stagingFailureCount = operation.stagingFailureCount)
      (hcleared : updated.stagingRetryBackoffMs = none ∧ updated.stagingRetryNotBeforeUtc = none)
      (houtcome : outcome.advanced = true ∧ outcome.phase = some updated.phase) :
      StagingEffect py calendar clock processInstanceId before after
        (.answered operation (.ok work) deadlines) (.ok outcome)

variable {updated : RecoveryOperation}

theorem failurePhase_of_kept (h : AttemptsKept py operation)
    (hphase : operation.phase ∈ stagingExecutionPhases)
    (hcount : updated.stagingFailureCount = operation.stagingFailureCount + 1)
    (hnext : updated.phase = failurePhase operation.phase operation.stagingFailureCount) :
    (updated.phase = .skipped ↔ updated.stagingFailureCount = maxStagingAttempts) ∧
      (updated.stagingFailureCount < maxStagingAttempts → updated.phase = operation.phase) := by
  have hlive : operation.phase ≠ .skipped := staging_live hphase
  have hbelow : operation.stagingFailureCount < maxStagingAttempts :=
    lt_of_le_of_ne h.bound (mt h.skipped.mpr hlive)
  rw [hnext, hcount, failurePhase]
  split
  · refine ⟨⟨fun _ => by omega, fun _ => rfl⟩, fun _ => by omega⟩
  · exact ⟨⟨fun hskipped => absurd hskipped hlive, fun hmax => by omega⟩, fun _ => rfl⟩

theorem stagingStep_effect (hkept : StoreKept py store.connection) (permit : MutationPermit)
    (port : StagingPort) (processInstanceId : String) (clock : StagingClock) :
    StagingEffect py calendar clock processInstanceId store
      (executeNextRunTargetStagingStep py calendar dirs permit port processInstanceId clock store).2
      (stagingAttempt py calendar permit port processInstanceId clock store)
      (executeNextRunTargetStagingStep py calendar dirs permit port processInstanceId clock
        store).1 := by
  unfold executeNextRunTargetStagingStep
  cases hattempt : stagingAttempt py calendar permit port processInstanceId clock store with
  | ended result deadlines => exact .idle rfl rfl
  | answered operation answer deadlines =>
    obtain ⟨hstored, hphase, transferCandidates, hanswer⟩ := stagingAttempt_answered hattempt
    have hprocess := stagingAttempt_process hattempt
    have hvalid := (hkept.holds.2.rows operation hstored).valid
    dsimp only
    have hstore : StoreKept py ({ store with deadlines } : StagingStore Dir).connection := hkept
    unfold settleAttempt
    match answer with
    | .error (.uncaught message) => exact .idle rfl rfl
    | .error (.endpointWaitRequired reasonCode nextAction) => exact .idle rfl rfl
    | .error (.runtimeError error) =>
      dsimp only
      by_cases hretryable : error.code ∈ retryableStagingFailureCodes
      · rw [if_pos hretryable]
        generalize hrecord : recordStagingFailure py calendar dirs
          (failureArgs operation error.code processInstanceId) clock.failure
          { store with deadlines } = recorded
        obtain ⟨returned, after⟩ := recorded
        have hcheck := stagingFailure_precheck hvalid hphase hretryable hprocess
        obtain ⟨updated, rfl, hops, hkey, hcount, hnext, hretry⟩ | ⟨raised, rfl, hops, hwhy⟩ :=
          recordStagingFailure_effect hstore hstored hphase (failureArgs_stepFailure ..) hcheck
            hrecord
        · have hrow := failurePhase_of_kept (hkept.holds.2.rows operation hstored) hphase hcount
            hnext
          have hreplaced := replaces_overwrite hstored hkey
          refine .failed operation updated error deadlines hretryable hphase ?_ hcount hrow.1 ?_
            ⟨rfl, rfl⟩
          · rw [hops]
            exact hreplaced
          · exact fun hearly => ⟨hrow.2 hearly, hretry (hrow.2 hearly)⟩
        · exact .failureRefused operation error deadlines raised hretryable hwhy hops
      · rw [if_neg hretryable]
        exact .idle (decide_eq_false hretryable) rfl
    | .ok work =>
      dsimp only
      obtain ⟨hsuccess, -, hcatalog⟩ := executePhase_next hanswer.symm
      generalize hrecord : recordTransition py dirs
        (advanceArgs operation work processInstanceId) { store with deadlines } = recorded
      obtain ⟨returned, after⟩ := recorded
      obtain ⟨updated, rfl, hops, hkey, hnext, hcount, hcleared⟩ | ⟨raised, rfl, hops, hwhy⟩ :=
        recordTransition_effect hstore hstored hphase hsuccess hcatalog hprocess hrecord
      · have hreplaced := replaces_overwrite hstored hkey
        refine .advanced operation updated work deadlines hphase ?_ ⟨hnext, hsuccess⟩ hcount
          hcleared ⟨rfl, rfl⟩
        rw [hops]
        exact hreplaced
      · exact .transitionRefused operation work deadlines raised hwhy hops

theorem StoreKept.stage (h : StoreKept py store.connection) (permit : MutationPermit)
    (port : StagingPort) (processInstanceId : String) (clock : StagingClock) :
    StoreKept py (executeNextRunTargetStagingStep py calendar dirs permit port processInstanceId
      clock store).2.connection := by
  unfold executeNextRunTargetStagingStep
  cases hattempt : stagingAttempt py calendar permit port processInstanceId clock store with
  | ended result deadlines => exact h
  | answered operation answer deadlines =>
    obtain ⟨-, -, transferCandidates, hanswer⟩ := stagingAttempt_answered hattempt
    dsimp only
    unfold settleAttempt
    match answer with
    | .error (.uncaught message) => exact h
    | .error (.endpointWaitRequired reasonCode nextAction) => exact h
    | .error (.runtimeError error) =>
      dsimp only
      by_cases hretryable : error.code ∈ retryableStagingFailureCodes
      · rw [if_pos hretryable]
        have hnext : StoreKept py (recordStagingFailure py calendar dirs
            (failureArgs operation error.code processInstanceId) clock.failure
            { store with deadlines }).2.connection := by
          unfold recordStagingFailure
          rw [afterStagingFailure_connection]
          exact h.failure rfl
        split <;> rename_i hrecord <;> rw [hrecord] at hnext <;> exact hnext
      · rw [if_neg hretryable]
        exact h
    | .ok work =>
      dsimp only
      have hnext : StoreKept py (recordTransition py dirs
          (advanceArgs operation work processInstanceId)
          { store with deadlines }).2.connection := by
        rw [recordTransition_connection]
        exact h.transition (executePhase_next hanswer.symm).2.1
      split <;> rename_i hrecord <;> rw [hrecord] at hnext <;> exact hnext

theorem storeKept_step {store after : StagingStore Dir} {label : StagingLabel Dir}
    (h : StoreKept py store.connection)
    (hstep : stagingRunStep py calendar dirs store label = some after) :
    StoreKept py after.connection := by
  cases label with
  | stage permit port processInstanceId clock =>
    cases hstep
    exact h.stage permit port processInstanceId clock
  | transition args =>
    simp only [stagingRunStep] at hstep
    split at hstep
    · cases hstep
    · rename_i hnext
      cases hstep
      rw [recordTransition_connection]
      exact h.transition hnext
  | other label =>
    simp only [stagingRunStep] at hstep
    split at hstep
    · rename_i hothers
      obtain ⟨connection, hconnection, rfl⟩ := Option.map_eq_some_iff.mp hstep
      exact h.other hothers hconnection
    · cases hstep
  | restart =>
    cases hstep
    exact ⟨fun _ => rfl, h.holds.1, h.holds.1⟩

theorem stagingRuns_kept (h : (stagingRuns py calendar dirs).Reachable store) :
    StoreKept py store.connection := by
  refine h.invariant (P := fun store => StoreKept py store.connection) ?_ ?_
  · rintro s ⟨⟨directories, hconnection⟩, -⟩
    have hempty : TableKept py ({ directories } : Tables Dir) :=
      ⟨List.nodup_nil, fun operation hmem => nomatch hmem⟩
    rw [hconnection]
    exact ⟨fun _ => rfl, hempty, hempty⟩
  · intro s label s' _ hs _ hstep
    exact storeKept_step hs hstep

theorem recordTransition_clears {args : TransitionArgs}
    (h : (recordTransition py dirs args store).1 = .ok (some updated)) :
    updated.stagingRetryBackoffMs = none ∧ updated.stagingRetryNotBeforeUtc = none ∧
      (recordTransition py dirs args store).2.connection.current.loadOperation args.runId
        args.operationId = some updated := by
  have hcall : (performCall py dirs (.recordOperationPhaseTransition args)
      store.connection).1 = .ok (some updated) := by
    unfold recordTransition at h
    split at h
    · rename_i loaded connection hcall
      rw [hcall]
      split at h
      · exact h
      · cases h
    · rename_i hcall
      rw [hcall]
      exact h
  rw [recordTransition_connection]
  unfold performCall at hcall ⊢
  split at hcall
  · cases hcall
  · have hchange : (Call.recordOperationPhaseTransition args).rowChange py dirs =
        some (transitionChange py dirs args) := rfl
    rw [Call.body_rowChange hchange] at hcall ⊢
    obtain ⟨hanswer, hcurrent⟩ := Connection.execute_ok hcall
    rw [hcurrent]
    have houtcome := (transitionChange py dirs args).outcome store.connection.current
    generalize (transitionChange py dirs args).body store.connection.current = result
      at houtcome hanswer ⊢
    cases houtcome with
    | unexpected _ => cases hanswer
    | raised _ _ _ _ _ => cases hanswer
    | refused _ _ _ _ _ _ _ => cases hanswer
    | wrote operation row hload _ hrow _ =>
      rw [Option.some.inj (andThen_ok hanswer)]
      obtain ⟨-, hbackoff, hutc⟩ := operationAfterTransition_attempts hrow
      have hkey := (Call.rowChange_framed hchange).key operation row hrow
      have hself := loadOperation_self hload
      have hops : ((transitionChange py dirs args).after row
          (store.connection.current.recordChange operation row args.processInstanceId
            args.payload)).2.operations =
          Table.overwrite RecoveryOperation.key store.connection.current.operations row :=
        ((Call.rowChange_framed hchange).frame row _).1
      have hkeys : (args.runId, args.operationId) = row.key :=
        (Table.lookup_key hload).symm.trans hkey.symm
      refine ⟨hbackoff, hutc, ?_⟩
      rw [← hkey] at hself
      rw [andThen_tables, Tables.loadOperation, hkeys]
      exact (congrArg (Table.lookup RecoveryOperation.key · row.key) hops).trans
        (Table.lookup_overwrite_self hself)

/-- No operation fails more often than it may, and the skipped operations are those that have failed
that often; before, an operation stays in its phase, with a retry that becomes due. -/
theorem staging_attempts {store : StagingStore Dir}
    (h : (stagingRuns py calendar dirs).Reachable store) :
    (∀ t, t = store.connection.committed ∨ t = store.connection.current →
      ∀ operation ∈ t.operations, 0 ≤ operation.stagingFailureCount ∧
        operation.stagingFailureCount ≤ maxStagingAttempts ∧
        (operation.phase = .skipped ↔ operation.stagingFailureCount = maxStagingAttempts)) ∧
    (∀ permit port processInstanceId clock,
      StagingEffect py calendar clock processInstanceId store
        (executeNextRunTargetStagingStep py calendar dirs permit port processInstanceId clock
          store).2
        (stagingAttempt py calendar permit port processInstanceId clock store)
        (executeNextRunTargetStagingStep py calendar dirs permit port processInstanceId clock
          store).1) ∧
    ∀ args updated, (recordTransition py dirs args store).1 = .ok (some updated) →
      updated.stagingRetryBackoffMs = none ∧ updated.stagingRetryNotBeforeUtc = none ∧
        (recordTransition py dirs args store).2.connection.current.loadOperation args.runId
          args.operationId = some updated := by
  -- what every step keeps, in the committed tables and in the open ones
  have hkept := stagingRuns_kept h
  have hrows : ∀ t : Tables Dir, TableKept py t → ∀ operation ∈ t.operations,
      0 ≤ operation.stagingFailureCount ∧
        operation.stagingFailureCount ≤ maxStagingAttempts ∧
        (operation.phase = .skipped ↔ operation.stagingFailureCount = maxStagingAttempts) := by
    intro t ht operation hmem
    have hrow := ht.rows operation hmem
    exact ⟨(validated_retry hrow.valid).1, hrow.bound, hrow.skipped⟩
  refine ⟨?_, fun permit port processInstanceId clock => stagingStep_effect hkept permit port
    processInstanceId clock, fun args updated => recordTransition_clears⟩
  rintro t (rfl | rfl)
  · exact hrows _ hkept.holds.1
  · exact hrows _ hkept.holds.2

def emptyStagingStore : StagingStore Unit := ⟨emptyConnection, fun _ => none⟩

def isoPython : PythonLibrary := ⟨fun _ => none, fun _ => true⟩

/-- The calendar on the instants that the three failures below read and plan. -/
def firstSeconds : RetryCalendar where
  instant text :=
    if text = "1970-01-01T00:00:00.850Z" then 850000
    else if text = "1970-01-01T00:00:01.000Z" then 1000000
    else if text = "1970-01-01T00:00:02.618Z" then 2618000
    else if text = "1970-01-01T00:00:03.000Z" then 3000000
    else 0
  formatUtc instant :=
    if instant = 850000 then "1970-01-01T00:00:00.850Z"
    else if instant = 1000000 then "1970-01-01T00:00:01.000Z"
    else if instant = 2618000 then "1970-01-01T00:00:02.618Z"
    else if instant = 3000000 then "1970-01-01T00:00:03.000Z"
    else "1970-01-01T00:00:00.000Z"
  ceilMs difference := max 0 ((difference + 999) / 1000)

def stagingPermit : MutationPermit where
  leaseId := "lease-a"
  resourceKey := "endpoint:target-a"
  ownerInstallationId := "owner-a"
  ownershipEpoch := 1
  fencingToken := 1
  runId := "run-a"
  runTargetId := "run-a-target-0000"
  endpointId := "target-a"
  endpointRevisionId := "target-rev-a"
  endpointGeneration := 1

/-- A port whose source file cannot be read. -/
def unreadablePort : StagingPort :=
  let unreadable := PortRaised.runtimeError
    { validationCode := some "LOCAL_STAGING_SOURCE_FILE_UNREADABLE" }
  { validateSourceFile := fun _ => .error unreadable
    bindSourceStability := fun _ => .error unreadable
    validateTargetPrecondition := fun _ _ => .error unreadable
    allocateStagingObject := fun _ => .error unreadable
    transferToStaging := fun _ => .error unreadable
    transferBatchToStaging := none
    ensureStagingDurable := fun _ => .error unreadable
    verifyStagingArtifact := fun _ => .error unreadable }

def clockAt (utcNow : String) (monotonicNs : Int) : StagingClock where
  head := ⟨utcNow, monotonicNs⟩
  candidate := fun _ => ⟨utcNow, monotonicNs⟩
  failure := ⟨utcNow, monotonicNs⟩

/-- Two failures of an operation, with a restart of the process between them. -/
def twoFailures : List (StagingLabel Unit) :=
  [.other (.registerLease sampleLease),
    .other (.call (.recordPlannedOperation sampleOperation "process-a" none)),
    .stage stagingPermit unreadablePort "process-a" (clockAt "1970-01-01T00:00:00.000Z" 0),
    .restart,
    .stage stagingPermit unreadablePort "process-b" (clockAt "1970-01-01T00:00:01.000Z" 50000000)]

def lastFailure (store : StagingStore Unit) : StagingStore Unit :=
  (executeNextRunTargetStagingStep isoPython firstSeconds none stagingPermit unreadablePort
    "process-b" (clockAt "1970-01-01T00:00:03.000Z" 2050000000) store).2

theorem staging_attempts_skipped : ∃ store : StagingStore Unit,
    store.connection.committed.operations.map (fun operation =>
      (operation.phase, operation.stagingFailureCount)) = [(.planned, 2)] ∧
    (lastFailure store).connection.committed.operations.map (fun operation =>
      (operation.phase, operation.stagingFailureCount)) = [(.skipped, 3)] ∧
    ∀ operation ∈ (lastFailure store).connection.committed.operations,
      operation.phase = .skipped ↔ operation.stagingFailureCount = maxStagingAttempts := by
  have hrun : ((stagingRuns isoPython firstSeconds none).replay emptyStagingStore
      twoFailures).any (fun store =>
        store.connection.committed.operations.map (fun operation =>
          (operation.phase, operation.stagingFailureCount)) == [(.planned, 2)] &&
        (lastFailure store).connection.committed.operations.map (fun operation =>
          (operation.phase, operation.stagingFailureCount)) == [(.skipped, 3)]) = true := by
    decide +kernel
  obtain ⟨store, hstore, hcounts⟩ := (Option.any_eq_true _ _).mp hrun
  rw [Bool.and_eq_true, beq_iff_eq, beq_iff_eq] at hcounts
  have hreach : (stagingRuns isoPython firstSeconds none).Reachable (lastFailure store) :=
    .step (System.Reachable.replay (.init ⟨⟨(), rfl⟩, fun _ => rfl⟩) twoFailures hstore) trivial
      (l := .stage stagingPermit unreadablePort "process-b"
        (clockAt "1970-01-01T00:00:03.000Z" 2050000000)) rfl
  exact ⟨store, hcounts.1, hcounts.2, fun operation hmem =>
    ((staging_attempts hreach).1 _ (.inl rfl) operation hmem).2.2⟩

end MediaSync.Execution
