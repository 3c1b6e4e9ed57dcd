import MediaSync.Recovery.OperationStore

/-! Every call of the operation store but the planning one has the same course inside its
transaction: it loads a row, returns nothing when the row is not the one it expects, computes the
new row, checks it against the tables, writes it with its event, and hands over to the directory
journal. -/
namespace MediaSync.Recovery
open Text

structure RowChange (Dir : Type) where
  runId : String
  operationId : String
  processInstanceId : String
  expects : RecoveryOperation → Bool
  /-- The row to write, or what computing and validating it raises. -/
  row : RecoveryOperation → Except Raised RecoveryOperation
  /-- The code with which the tables refuse the row. -/
  refusal : Tables Dir → RecoveryOperation → Option String
  payload : RecoveryOperation → Option Payload
  /-- What follows the event, in the directory journal. -/
  after : RecoveryOperation → Body Dir Unit

def firstRefusal : List (Bool × String) → Option String
  | [] => none
  | (test, code) :: rest => if test then firstRefusal rest else some code

namespace RowChange

variable {Dir : Type}

def body (change : RowChange Dir) : Body Dir (Option RecoveryOperation) := fun t =>
  match t.loadOperation change.runId change.operationId with
  | none => (.ok none, t)
  | some operation =>
    if !change.expects operation then (.ok none, t)
    else
      match change.row operation with
      | .error raised => (.error raised, t)
      | .ok updated =>
        match change.refusal t updated with
        | some code => (.error (.storeError code), t)
        | none =>
          (change.after updated).andThen (some updated)
            (t.recordChange operation updated change.processInstanceId (change.payload updated))

/-- The ways a call can end on the tables `t`. -/
inductive Outcome (change : RowChange Dir) (t : Tables Dir) :
    Except Raised (Option RecoveryOperation) × Tables Dir → Prop
  | unexpected
      (h : ∀ operation, t.loadOperation change.runId change.operationId = some operation →
        change.expects operation = false) : Outcome change t (.ok none, t)
  | raised (operation : RecoveryOperation) (raised : Raised)
      (hload : t.loadOperation change.runId change.operationId = some operation)
      (hexpects : change.expects operation = true)
      (hrow : change.row operation = .error raised) : Outcome change t (.error raised, t)
  | refused (operation updated : RecoveryOperation) (code : String)
      (hload : t.loadOperation change.runId change.operationId = some operation)
      (hexpects : change.expects operation = true)
      (hrow : change.row operation = .ok updated)
      (hrefusal : change.refusal t updated = some code) :
      Outcome change t (.error (.storeError code), t)
  | wrote (operation updated : RecoveryOperation)
      (hload : t.loadOperation change.runId change.operationId = some operation)
      (hexpects : change.expects operation = true)
      (hrow : change.row operation = .ok updated) (hrefusal : change.refusal t updated = none) :
      Outcome change t ((change.after updated).andThen (some updated)
        (t.recordChange operation updated change.processInstanceId (change.payload updated)))

theorem outcome (change : RowChange Dir) (t : Tables Dir) :
    change.Outcome t (change.body t) := by
  unfold body
  split
  · rename_i hload
    exact .unexpected fun operation h => by rw [hload] at h; cases h
  · rename_i operation hload
    cases hexpects : change.expects operation with
    | false =>
      simp only [Bool.not_false, if_true]
      refine .unexpected fun other h => ?_
      rw [hload] at h
      cases h
      exact hexpects
    | true =>
      simp only [Bool.not_true, Bool.false_eq_true, if_false]
      split
      · rename_i raised hrow
        exact .raised operation raised hload hexpects hrow
      · rename_i updated hrow
        split
        · rename_i code hrefusal
          exact .refused operation updated code hload hexpects hrow hrefusal
        · rename_i hrefusal
          exact .wrote operation updated hload hexpects hrow hrefusal

end RowChange

section
variable (py : PythonLibrary) {Dir : Type} (dirs : Option (DirectoryRecoveryStore Dir))

/-- A row that passes `validate_recovery_operation`, as the store requires it. -/
def validatedRow (updated : RecoveryOperation) : Except Raised RecoveryOperation :=
  match validateRecoveryOperation py updated with
  | .error code => .error (.violation code)
  | .ok () => .ok updated

def noDirectoryStep (_ : RecoveryOperation) : Body Dir Unit := fun t => (.ok (), t)

def transitionChange (args : TransitionArgs) : RowChange Dir where
  runId := args.runId
  operationId := args.operationId
  processInstanceId := args.processInstanceId
  expects operation := operation.phase = args.expectedPhase
  row operation := operationAfterTransition py operation args
  refusal t updated := firstRefusal
    [(t.activeMatchingLease updated, "RECOVERY_OPERATION_LEASE_MISMATCH"),
      (!(args.nextPhase = .commitIntentRecorded) || t.matchingIntentSegment updated,
        "RECOVERY_OPERATION_INTENT_SEGMENT_MISMATCH"),
      (t.acceptsRow updated, "RECOVERY_OPERATION_PERSISTENCE_CONFLICT")]
  payload _ := args.payload
  after updated :=
    if args.nextPhase = .catalogRecorded then
      recordDirectoryCatalogTerminal dirs updated args.processInstanceId args.payload
    else noDirectoryStep updated

def stagingFailureChange (args : StagingFailureArgs) : RowChange Dir where
  runId := args.runId
  operationId := args.operationId
  processInstanceId := args.processInstanceId
  expects operation := operation.phase = args.expectedPhase ∧
    operation.stagingFailureCount = args.expectedFailureCount
  row operation :=
    if args.nextPhase = args.expectedPhase ∧ args.plannedRetry = none then
      .error (.storeError "RECOVERY_OPERATION_PERSISTENCE_FAILED")
    else validatedRow py (stagingFailureRow operation args)
  refusal t updated := firstRefusal
    [(t.activeMatchingLease updated, "RECOVERY_OPERATION_LEASE_MISMATCH"),
      (t.acceptsRow updated, "RECOVERY_OPERATION_PERSISTENCE_CONFLICT")]
  payload updated := some (stagingFailurePayload args updated)
  after := noDirectoryStep

def leaseReboundChange (expectedPhase : Phase) (args : RebindArgs) : RowChange Dir where
  runId := args.runId
  operationId := args.operationId
  processInstanceId := args.processInstanceId
  expects operation := operation.phase = expectedPhase ∧ expectedLease operation args
  row operation := validatedRow py (underLease operation args)
  refusal t updated := firstRefusal
    [(t.activeMatchingLease updated, "RECOVERY_OPERATION_LEASE_MISMATCH")]
  payload _ := args.payload
  after := noDirectoryStep

def intentRefreshedChange (expectedPhase : Phase) (args : RefreshArgs) : RowChange Dir where
  runId := args.runId
  operationId := args.operationId
  processInstanceId := args.processInstanceId
  expects operation := operation.phase = expectedPhase ∧ expectedLease operation args.toRebindArgs
  row operation := validatedRow py (refreshedRow operation args)
  refusal t updated := firstRefusal
    [(t.activeMatchingLease updated, "RECOVERY_OPERATION_LEASE_MISMATCH"),
      (t.matchingIntentSegment updated, "RECOVERY_OPERATION_INTENT_SEGMENT_MISMATCH"),
      (t.acceptsRow updated, "RECOVERY_OPERATION_PERSISTENCE_CONFLICT")]
  payload _ := args.payload
  after := noDirectoryStep

def Call.rowChange : Call → Option (RowChange Dir)
  | .recordPlannedOperation _ _ _ => none
  | .recordOperationPhaseTransition args => some (transitionChange py dirs args)
  | .recordStagingFailure args => some (stagingFailureChange py args)
  | .recordOperationLeaseRebound expectedPhase args =>
    some (leaseReboundChange py expectedPhase args)
  | .recordCommitIntentRefreshed args => some (intentRefreshedChange py .commitIntentRecorded args)
  | .recordOldTargetPreservedCommitIntentRefreshed args =>
    some (intentRefreshedChange py .oldTargetPreserved args)

variable {py dirs}

theorem recordOperationPhaseTransitionBody_eq (args : TransitionArgs) :
    recordOperationPhaseTransitionBody py dirs args = (transitionChange py dirs args).body := by
  funext t
  unfold recordOperationPhaseTransitionBody RowChange.body transitionChange
  dsimp only
  cases t.loadOperation args.runId args.operationId with
  | none => rfl
  | some operation =>
    by_cases hphase : operation.phase = args.expectedPhase
    · simp only [hphase, ne_eq, not_true_eq_false, if_false, decide_true, Bool.not_true,
        Bool.false_eq_true]
      cases operationAfterTransition py operation args with
      | error raised => rfl
      | ok updated =>
        cases hlease : t.activeMatchingLease updated
        · simp [firstRefusal, hlease]
        · by_cases hcommit : args.nextPhase = .commitIntentRecorded
          · cases hsegment : t.matchingIntentSegment updated
            · simp [firstRefusal, hlease, hcommit, hsegment]
            · cases haccepts : t.acceptsRow updated
              · simp [firstRefusal, hlease, hcommit, hsegment, haccepts]
              · simp [firstRefusal, hlease, hcommit, hsegment, haccepts, Body.andThen,
                  noDirectoryStep]
          · cases haccepts : t.acceptsRow updated
            · simp [firstRefusal, hlease, hcommit, haccepts]
            · by_cases hcatalog : args.nextPhase = .catalogRecorded
              · simp [firstRefusal, hlease, haccepts, hcatalog]
              · simp [firstRefusal, hlease, hcommit, haccepts, hcatalog, Body.andThen,
                  noDirectoryStep]
    · simp [hphase]

theorem recordStagingFailureBody_eq (args : StagingFailureArgs) :
    (recordStagingFailureBody py args : Body Dir (Option RecoveryOperation)) =
      (stagingFailureChange py args).body := by
  funext t
  unfold recordStagingFailureBody RowChange.body stagingFailureChange
  dsimp only
  cases t.loadOperation args.runId args.operationId with
  | none => rfl
  | some operation =>
    by_cases hexpects : operation.phase = args.expectedPhase ∧
        operation.stagingFailureCount = args.expectedFailureCount
    · by_cases hretry : args.nextPhase = args.expectedPhase ∧ args.plannedRetry = none
      · simp [hexpects, hretry]
      · simp only [hexpects, hretry, validatedRow, ne_eq, not_true_eq_false, or_self, if_false,
          and_self, decide_true, Bool.not_true, Bool.false_eq_true]
        cases validateRecoveryOperation py (stagingFailureRow operation args) with
        | error code => rfl
        | ok _ =>
          cases hlease : t.activeMatchingLease (stagingFailureRow operation args) <;>
            cases haccepts : t.acceptsRow (stagingFailureRow operation args) <;>
            simp [firstRefusal, hlease, haccepts, Body.andThen, noDirectoryStep]
    · have hunexpected : operation.phase ≠ args.expectedPhase ∨
          operation.stagingFailureCount ≠ args.expectedFailureCount := not_and_or.mp hexpects
      simp only [hexpects, hunexpected, if_true, decide_false, Bool.not_false]

theorem recordOperationLeaseReboundBody_eq (expectedPhase : Phase) (args : RebindArgs) :
    (recordOperationLeaseReboundBody py expectedPhase args :
      Body Dir (Option RecoveryOperation)) =
      (leaseReboundChange py expectedPhase args).body := by
  funext t
  unfold recordOperationLeaseReboundBody RowChange.body leaseReboundChange
  dsimp only
  cases t.loadOperation args.runId args.operationId with
  | none => rfl
  | some operation =>
    by_cases hphase : operation.phase = expectedPhase
    · cases hexpected : expectedLease operation args with
      | false => simp [hphase, hexpected]
      | true =>
        simp only [hphase, hexpected, validatedRow, ne_eq, not_true_eq_false, if_false, and_self,
          decide_true, Bool.not_true, Bool.false_eq_true]
        cases validateRecoveryOperation py (underLease operation args) with
        | error code => rfl
        | ok _ =>
          cases hlease : t.activeMatchingLease (underLease operation args) <;>
            simp [firstRefusal, hlease, Body.andThen, noDirectoryStep]
    · simp [hphase]

theorem recordIntentRefreshedBody_eq (expectedPhase : Phase) (args : RefreshArgs) :
    (recordIntentRefreshedBody py expectedPhase args : Body Dir (Option RecoveryOperation)) =
      (intentRefreshedChange py expectedPhase args).body := by
  funext t
  unfold recordIntentRefreshedBody RowChange.body intentRefreshedChange
  dsimp only
  cases t.loadOperation args.runId args.operationId with
  | none => rfl
  | some operation =>
    by_cases hphase : operation.phase = expectedPhase
    · cases hexpected : expectedLease operation args.toRebindArgs with
      | false => simp [hphase, hexpected]
      | true =>
        simp only [hphase, hexpected, validatedRow, ne_eq, not_true_eq_false, if_false, and_self,
          decide_true, Bool.not_true, Bool.false_eq_true]
        cases validateRecoveryOperation py (refreshedRow operation args) with
        | error code => rfl
        | ok _ =>
          cases hlease : t.activeMatchingLease (refreshedRow operation args) <;>
            cases hsegment : t.matchingIntentSegment (refreshedRow operation args) <;>
            cases haccepts : t.acceptsRow (refreshedRow operation args) <;>
            simp [firstRefusal, hlease, hsegment, haccepts, Body.andThen, noDirectoryStep]
    · simp [hphase]

theorem Call.body_rowChange {call : Call} {change : RowChange Dir}
    (h : call.rowChange py dirs = some change) : call.body py dirs = change.body := by
  cases call with
  | recordPlannedOperation operation processInstanceId payload => cases h
  | recordOperationPhaseTransition args =>
    cases h
    exact recordOperationPhaseTransitionBody_eq args
  | recordStagingFailure args =>
    cases h
    exact recordStagingFailureBody_eq args
  | recordOperationLeaseRebound expectedPhase args =>
    cases h
    exact recordOperationLeaseReboundBody_eq expectedPhase args
  | recordCommitIntentRefreshed args =>
    cases h
    exact recordIntentRefreshedBody_eq .commitIntentRecorded args
  | recordOldTargetPreservedCommitIntentRefreshed args =>
    cases h
    exact recordIntentRefreshedBody_eq .oldTargetPreserved args

end

end MediaSync.Recovery
