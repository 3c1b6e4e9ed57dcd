import MediaSync.Execution.Planning
import MediaSync.Recovery.Writes

/-! One run target over the life of its journal: planning calls, which the executor makes while it
sees no operation of the target, in between all other calls on the recovery database. -/
namespace MediaSync.Execution
open Text Recovery Runs Plans Transition

structure PlannedColumns where
  operationId : String
  operationKind : Option OperationKind
  sequenceNo : Int
  finalRelativePath : Option String
  targetPreconditionKind : TargetPreconditionKind
  plannedBytes : Int
  sourceRelativePath : Option String
  sourcePreconditionJson : Option String
  deriving DecidableEq

def plannedColumns (operation : RecoveryOperation) : PlannedColumns where
  operationId := operation.operationId
  operationKind := some operation.operationKind
  sequenceNo := operation.planSequenceNo
  finalRelativePath := some operation.finalRelativePath
  targetPreconditionKind := operation.targetPreconditionKind
  plannedBytes := operation.plannedBytes
  sourceRelativePath := operation.sourceRelativePath
  sourcePreconditionJson := operation.sourcePreconditionJson

def columnsInPlan (operation : PlanOperation) : PlannedColumns where
  operationId := operation.operationId
  operationKind := recoveryKind operation.operationType
  sequenceNo := operation.sequenceNo
  finalRelativePath := operation.targetRelativePath
  targetPreconditionKind := recoveryPrecondition operation.targetPreconditionKind
  plannedBytes := operation.plannedBytes
  sourceRelativePath :=
    if operation.operationType = .copyNew then operation.sourceRelativePath else none
  sourcePreconditionJson :=
    if operation.operationType = .copyNew then operation.sourcePreconditionJson else none

structure PlanningWorld (Dir : Type) where
  py : PythonLibrary
  dirs : Option (DirectoryRecoveryStore Dir)
  verifies : SealedPlan → Bool
  plans : String → Option SealedPlan
  run : RunRow
  target : RunTargetRow
  belongs : target.runId = run.id

structure CatalogView where
  runState : RunState
  targetState : RunTargetState
  lastLeaseId : Option String
  lastOwnershipEpoch : Option Int
  lastFencingToken : Option Int

structure PlanningCall where
  view : CatalogView
  permit : MutationPermit
  processInstanceId : String
  crashAfter : Option Nat

namespace PlanningWorld

variable {Dir : Type} (w : PlanningWorld Dir)

def runRow (view : CatalogView) : RunRow := { w.run with state := view.runState }

def targetRow (view : CatalogView) : RunTargetRow :=
  { w.target with
    state := view.targetState
    lastLeaseId := view.lastLeaseId
    lastOwnershipEpoch := view.lastOwnershipEpoch
    lastFencingToken := view.lastFencingToken }

def tables (view : CatalogView) : RunTables where
  runs := [w.runRow view]
  targets := [w.targetRow view]
  stops := []
  waitEvents := []

def selection : List PlanOperation :=
  match w.plans w.run.planId with
  | none => []
  | some plan =>
    match operationScopeFromRun w.run.summary plan with
    | .error _ => []
    | .ok scope => selectedOperations plan w.target.endpointId scope

def recordedColumns (operations : List RecoveryOperation) : List PlannedColumns :=
  (operations.filter fun row => row.runId = w.run.id && row.runTargetId = w.target.id).map
    plannedColumns

def hasAny (t : Tables Dir) : Bool :=
  hasAnyOperation t.operations w.run.id w.target.id w.target.plannedOperations

def rowOf (call : PlanningCall) (plan : SealedPlan) (operation : PlanOperation) :
    Except String RecoveryOperation :=
  plannedRecoveryOperation w.py call.permit (w.runRow call.view) (w.targetRow call.view)
    plan.singleSourceEndpoint operation

def insertable (call : PlanningCall) (plan : SealedPlan) (t : Tables Dir)
    (operation : PlanOperation) : Bool :=
  match w.rowOf call plan operation with
  | .error _ => false
  | .ok row =>
    ((Call.recordPlannedOperation row call.processInstanceId none).precheck w.py).isOk &&
      (t.loadOperation row.runId row.operationId).isNone && t.activeMatchingLease row &&
      t.acceptsRow row

def directoriesAccept (call : PlanningCall) (plan : SealedPlan) : Dir → List PlanOperation → Bool
  | _, [] => true
  | directories, operation :: rest =>
    match w.rowOf call plan operation with
    | .error _ => false
    | .ok row =>
      match w.dirs, directoryKind row with
      | some store, some kind =>
        match store.record kind row call.processInstanceId directories with
        | .ok directories' => directoriesAccept call plan directories' rest
        | .error _ => false
      | _, _ => directoriesAccept call plan directories rest

def recordable (call : PlanningCall) (plan : SealedPlan) (t : Tables Dir)
    (operations : List PlanOperation) : Bool :=
  operations.all (w.insertable call plan t) &&
    w.directoriesAccept call plan t.directories operations

end PlanningWorld

inductive PlanningLabel (Dir : Type) where
  | plan (call : PlanningCall)
  | journal (label : Label Dir)

section
variable {Dir : Type} (w : PlanningWorld Dir)

def recordsElsewhere : Label Dir → Bool
  | .call (.recordPlannedOperation operation _ _) =>
    operation.runId ≠ w.run.id || operation.runTargetId ≠ w.target.id
  | _ => true

def planning : System (Connection Dir) (PlanningLabel Dir) where
  init c := ∃ directories, c = ⟨{ directories }, { directories }, false⟩
  step c
    | .plan call =>
      if call.permit.runId = w.run.id ∧ call.permit.runTargetId = w.target.id ∧
          w.target.plannedOperations ≠ 0 ∧ w.hasAny c.current = false then
        some (planRunTargetRecoveryOperations w.py w.dirs w.verifies w.plans (w.tables call.view)
          call.permit call.processInstanceId call.crashAfter c).2
      else none
    | .journal label =>
      if recordsElsewhere w label then connectionStep w.py w.dirs c label else none

def PlannedExactly (t : Tables Dir) : Prop :=
  w.recordedColumns t.operations = w.selection.map columnsInPlan

/-- The process does not end between two recordings, and a call whose first operation is
inserted can record them all. A call that fails its checks records nothing. -/
def uninterrupted (c : Connection Dir) : PlanningLabel Dir → Bool
  | .plan call =>
    match planningScope w.py w.verifies w.plans (w.tables call.view) call.permit
        call.processInstanceId with
    | .error _ => true
    | .ok scope =>
      call.crashAfter.all (fun n => n = 0 || scope.operations.length ≤ n) &&
        (!(scope.operations.head?.any (w.insertable call scope.plan c.current)) ||
          w.recordable call scope.plan c.current scope.operations)
  | .journal _ => true

def Uninterrupted (c : Connection Dir) (label : PlanningLabel Dir) : Prop :=
  uninterrupted w c label = true

end

section
variable {py : PythonLibrary} {permit : MutationPermit} {run : RunRow} {target : RunTargetRow}
  {source : Option PlanEndpoint} {operation : PlanOperation} {row : RecoveryOperation}

/-- The row that is planned for an operation. -/
structure RowOf (permit : MutationPermit) (operation : PlanOperation) (row : RecoveryOperation) :
    Prop where
  columns : plannedColumns row = columnsInPlan operation
  runId : row.runId = permit.runId
  runTargetId : row.runTargetId = permit.runTargetId
  phase : row.phase = .planned
  intent : row.intentSegmentId = none

theorem plannedRecoveryOperation_spec
    (h : plannedRecoveryOperation py permit run target source operation = .ok row) :
    RowOf permit operation row := by
  unfold plannedRecoveryOperation at h
  split at h
  · cases h
  · cases h
  · rename_i path kind hpath hkind
    dsimp only at h
    split at h
    · cases h
    · rename_i planned hplanned
      split at h
      · cases h
      · obtain rfl := Except.ok.inj h
        by_cases hcopy : kind = .copyNew
        · -- a copy: its row has passed the source checks
          rw [if_pos hcopy] at hplanned
          have htype : operation.operationType = .copyNew := by
            rw [hcopy] at hkind
            revert hkind
            cases operation.operationType <;> decide
          unfold copyRow at hplanned
          split at hplanned
          · cases hplanned
          · split at hplanned
            · cases hplanned
            · split at hplanned
              · cases hplanned
              · obtain rfl := Except.ok.inj hplanned
                exact ⟨by simp [plannedColumns, columnsInPlan, plannedRow, hpath, hcopy, htype,
                  recoveryKind], rfl, rfl, rfl, rfl⟩
        · rw [if_neg hcopy] at hplanned
          obtain rfl := Except.ok.inj hplanned
          have htype : operation.operationType ≠ .copyNew := by
            intro htype
            rw [htype] at hkind
            exact hcopy (Option.some.inj hkind).symm
          exact ⟨by simp [plannedColumns, columnsInPlan, plannedRow, hpath, hkind, htype],
            rfl, rfl, rfl, rfl⟩

end

section
variable {Dir : Type} {w : PlanningWorld Dir} {call : PlanningCall} {plan : SealedPlan}
  {endpoint : PlanEndpoint} {c c' : Connection Dir} {operation : PlanOperation}
  {row : RecoveryOperation}

def recordOne (w : PlanningWorld Dir) (call : PlanningCall) (plan : SealedPlan)
    (endpoint : PlanEndpoint) (operation : PlanOperation) (c : Connection Dir) :
    Except PlanningOutcome Unit × Connection Dir :=
  recordOperation w.py call.permit (w.runRow call.view) (w.targetRow call.view) w.dirs plan endpoint
    call.processInstanceId operation c

def record (w : PlanningWorld Dir) (call : PlanningCall) (plan : SealedPlan)
    (endpoint : PlanEndpoint) (operations : List PlanOperation) (left : Option Nat)
    (recorded : Nat) (c : Connection Dir) : PlanningOutcome × Connection Dir :=
  recordSelected w.py call.permit (w.runRow call.view) (w.targetRow call.view) w.dirs plan endpoint
    call.processInstanceId operations left recorded c

variable {P : Tables Dir → Prop}

theorem recordOne_holds (hP : ∀ t (storeCall : Call), storeCall.precheck w.py = .ok () → P t →
      P (storeCall.body w.py w.dirs t).2) (hc : c.Holds P) :
    (recordOne w call plan endpoint operation c).2.Holds P := by
  unfold recordOne recordOperation
  split
  · exact hc
  · split
    · exact hc
    · rename_i row _
      have hcall : ∀ payload, (performCall w.py w.dirs (.recordPlannedOperation row
          call.processInstanceId payload) c).2.Holds P := by
        intro payload
        unfold performCall
        split
        · exact hc
        · rename_i hcheck
          exact hc.execute (hP _ _ hcheck hc.2)
      have hnext := hcall (some (plannedPayload plan endpoint operation))
      split
      · rename_i hperform
        rw [hperform] at hnext
        exact hnext
      · rename_i hperform
        rw [hperform] at hnext
        exact hnext

theorem record_holds (hP : ∀ t (storeCall : Call), storeCall.precheck w.py = .ok () → P t →
      P (storeCall.body w.py w.dirs t).2) (operations : List PlanOperation) (left : Option Nat)
    (recorded : Nat) (hc : c.Holds P) :
    (record w call plan endpoint operations left recorded c).2.Holds P := by
  induction operations generalizing left recorded c with
  | nil => exact hc
  | cons operation rest ih =>
    unfold record recordSelected
    split
    · exact ⟨hc.1, hc.1⟩
    · have hnext : (recordOne w call plan endpoint operation c).2.Holds P := recordOne_holds hP hc
      unfold recordOne at hnext
      split
      · rename_i hround
        rw [hround] at hnext
        exact hnext
      · rename_i hround
        rw [hround] at hnext
        exact ih _ _ hnext

theorem execute_ok {α : Type} {body : Body Dir α} {value : α} {t' : Tables Dir}
    (h : body c.current = (.ok value, t')) :
    (c.execute body).1 = .ok value ∧ (c.execute body).2.current = t' ∧
      (c.execute body).2.inTransaction = c.inTransaction ∧
        (c.execute body).2.committed = if c.inTransaction then c.committed else t' := by
  unfold Connection.execute
  rw [h]
  by_cases ht : c.inTransaction = true
  · simp [ht]
  · have hf : c.inTransaction = false := by simpa using ht
    simp [hf]

theorem recordOne_insertable (hrow : w.rowOf call plan operation = .ok row)
    (hinsert : w.insertable call plan c.current operation = true) {rest : List PlanOperation}
    (haccept : w.directoriesAccept call plan c.current.directories (operation :: rest) = true) :
    ∃ c', recordOne w call plan endpoint operation c = (.ok (), c') ∧
      c'.current.operations = c.current.operations ++ [row] ∧
        c'.current.leases = c.current.leases ∧
          w.directoriesAccept call plan c'.current.directories rest = true ∧
            c'.inTransaction = c.inTransaction ∧
              c'.committed = if c.inTransaction then c.committed else c'.current := by
  simp only [PlanningWorld.insertable, hrow, Bool.and_eq_true] at hinsert
  obtain ⟨⟨⟨hcheck, hfresh⟩, hlease⟩, haccepts⟩ := hinsert
  have hpath : ∃ path, operation.targetRelativePath = some path := by
    cases hpath : operation.targetRelativePath with
    | none =>
      simp only [PlanningWorld.rowOf, plannedRecoveryOperation, hpath] at hrow
      cases hrow
    | some path => exact ⟨path, rfl⟩
  obtain ⟨path, hpath⟩ := hpath
  let storeCall : Call := .recordPlannedOperation row call.processInstanceId
    (some (plannedPayload plan endpoint operation))
  have hprecheck : storeCall.precheck w.py = .ok () := by
    have hsame : storeCall.precheck w.py =
      (Call.recordPlannedOperation row call.processInstanceId none).precheck w.py := rfl
    rw [hsame]
    revert hcheck
    cases (Call.recordPlannedOperation row call.processInstanceId none).precheck w.py with
    | error raised => exact fun h => absurd h (by simp [Except.isOk, Except.toBool])
    | ok u => exact fun _ => rfl
  -- the body inserts the row and the directory journal takes its lifecycle
  have hbody : ∃ t', storeCall.body w.py w.dirs c.current = (.ok (some row), t') ∧
      t'.operations = c.current.operations ++ [row] ∧ t'.leases = c.current.leases ∧
        w.directoriesAccept call plan t'.directories rest = true := by
    have hnone : c.current.loadOperation row.runId row.operationId = none := by simpa using hfresh
    simp only [storeCall, Call.body, recordPlannedOperationBody, hnone, hlease, haccepts,
      Bool.not_true, Bool.false_eq_true, if_false]
    simp only [PlanningWorld.directoriesAccept, hrow] at haccept
    unfold Body.andThen recordDirectoryRecoveryIfApplicable
    split at haccept
    · rename_i store kind hdirs hkind
      split at haccept
      · rename_i directories' hrecord
        have hrecord' : store.record kind row call.processInstanceId
            (c.current.insertPlanned row call.processInstanceId
              (some (plannedPayload plan endpoint operation))).directories = .ok directories' :=
          hrecord
        simp only [hdirs, hkind, hrecord']
        exact ⟨_, rfl, rfl, rfl, haccept⟩
      · cases haccept
    · rename_i hnodirs
      cases hdirs : w.dirs with
      | none => exact ⟨_, rfl, rfl, rfl, haccept⟩
      | some store =>
        cases hkind : directoryKind row with
        | none => exact ⟨_, rfl, rfl, rfl, haccept⟩
        | some kind => exact absurd hkind (hnodirs store kind hdirs)
  obtain ⟨t', hbody, hops, hleases, hrest⟩ := hbody
  obtain ⟨hvalue, hcurrent, htransaction, hcommitted⟩ := execute_ok hbody
  have hperform : performCall w.py w.dirs storeCall c = c.execute (storeCall.body w.py w.dirs) := by
    unfold performCall
    rw [hprecheck]
  refine ⟨(c.execute (storeCall.body w.py w.dirs)).2, ?_, ?_, ?_, ?_, htransaction, ?_⟩
  · have hrow' : plannedRecoveryOperation w.py call.permit (w.runRow call.view)
        (w.targetRow call.view) plan.singleSourceEndpoint operation = .ok row := hrow
    unfold recordOne recordOperation
    simp only [hpath, hrow']
    have hpair : performCall w.py w.dirs storeCall c =
        (.ok (some row), (c.execute (storeCall.body w.py w.dirs)).2) := by
      rw [hperform]
      exact Prod.ext hvalue rfl
    simp only [storeCall] at hpair
    rw [hpair]
  · rw [hcurrent, hops]
  · rw [hcurrent, hleases]
  · rw [hcurrent, hrest]
  · rw [hcommitted, hcurrent]

theorem rowOf_spec (hrow : w.rowOf call plan operation = .ok row) :
    RowOf call.permit operation row := plannedRecoveryOperation_spec hrow

theorem RowOf.operationId (h : RowOf call.permit operation row) :
    row.operationId = operation.operationId := congrArg PlannedColumns.operationId h.columns

theorem insertable_next {t t' : Tables Dir} {other : PlanOperation}
    (hrow : RowOf call.permit operation row) (hne : other.operationId ≠ operation.operationId)
    (hops : t'.operations = t.operations ++ [row]) (hleases : t'.leases = t.leases)
    (hinsert : w.insertable call plan t other = true) :
    w.insertable call plan t' other = true := by
  unfold PlanningWorld.insertable at hinsert ⊢
  split at hinsert
  · cases hinsert
  · rename_i row' hrow'
    have hspec := rowOf_spec hrow'
    simp only [Bool.and_eq_true] at hinsert ⊢
    obtain ⟨⟨⟨hcheck, hfresh⟩, hlease⟩, haccepts⟩ := hinsert
    refine ⟨⟨⟨hcheck, ?_⟩, ?_⟩, ?_⟩
    · have hkey : row.key ≠ (row'.runId, row'.operationId) := by
        intro hkey
        have hid : row.operationId = row'.operationId := congrArg Prod.snd hkey
        rw [hrow.operationId, hspec.operationId] at hid
        exact hne hid.symm
      have hload : t'.loadOperation row'.runId row'.operationId =
          t.loadOperation row'.runId row'.operationId := by
        unfold Tables.loadOperation
        rw [hops]
        exact Table.lookup_insert_other hkey
      rw [hload]
      exact hfresh
    · unfold Tables.activeMatchingLease at hlease ⊢
      rw [hleases]
      exact hlease
    · unfold Tables.acceptsRow at haccepts ⊢
      rw [hspec.intent] at haccepts ⊢
      simpa using haccepts

theorem record_recordable (endpoint : PlanEndpoint) {operations : List PlanOperation}
    {left : Option Nat} {recorded : Nat}
    (hids : (operations.map PlanOperation.operationId).Nodup)
    (hleft : left.all (fun n => operations.length ≤ n) = true)
    (hrecordable : w.recordable call plan c.current operations = true) :
    ∃ rows, List.Forall₂ (RowOf call.permit) operations rows ∧
      (record w call plan endpoint operations left recorded c).2.current.operations =
        c.current.operations ++ rows ∧
      (c.inTransaction = true →
        (record w call plan endpoint operations left recorded c).2.committed = c.committed) ∧
      (c.inTransaction = false → c.committed = c.current ∨ operations ≠ [] →
        (record w call plan endpoint operations left recorded c).2.committed =
          (record w call plan endpoint operations left recorded c).2.current) := by
  induction operations generalizing left recorded c with
  | nil =>
    refine ⟨[], .nil, by simp [record, recordSelected], fun _ => rfl, fun _ hsame => ?_⟩
    exact hsame.resolve_right fun hne => hne rfl
  | cons operation rest ih =>
    simp only [PlanningWorld.recordable, Bool.and_eq_true, List.all_cons] at hrecordable
    obtain ⟨⟨hfirst, hothers⟩, haccept⟩ := hrecordable
    have hrow : ∃ row, w.rowOf call plan operation = .ok row := by
      unfold PlanningWorld.insertable at hfirst
      split at hfirst
      · cases hfirst
      · rename_i row hrow
        exact ⟨row, hrow⟩
    obtain ⟨row, hrow⟩ := hrow
    have hspec := rowOf_spec hrow
    obtain ⟨c', hround, hops, hleases, hrest, htransaction, hcommitted⟩ :=
      @recordOne_insertable Dir w call plan endpoint c operation row hrow hfirst rest haccept
    obtain ⟨hnew, hrestIds⟩ := List.nodup_cons.mp hids
    have hnext : w.recordable call plan c'.current rest = true := by
      unfold PlanningWorld.recordable
      rw [Bool.and_eq_true, List.all_eq_true]
      refine ⟨fun other hother => ?_, hrest⟩
      refine insertable_next hspec ?_ hops hleases (List.all_eq_true.mp hothers other hother)
      intro heq
      exact hnew (heq ▸ List.mem_map_of_mem hother)
    have hleft' : (left.map (· - 1)).all (fun n => rest.length ≤ n) = true := by
      cases left with
      | none => rfl
      | some n =>
        simp only [Option.all_some, List.length_cons, decide_eq_true_eq] at hleft
        simp only [Option.map_some, Option.all_some, decide_eq_true_eq]
        omega
    obtain ⟨rows, hrows, hcurrent, hopen, hclosed⟩ :=
      @ih c' (left.map (· - 1)) (recorded + 1) hrestIds hleft' hnext
    have hstep : record w call plan endpoint (operation :: rest) left recorded c =
        record w call plan endpoint rest (left.map (· - 1)) (recorded + 1) c' := by
      unfold recordOne at hround
      unfold record
      rw [recordSelected]
      have hlive : left ≠ some 0 := by
        rintro rfl
        simp at hleft
      rw [if_neg hlive, hround]
    rw [hstep]
    refine ⟨row :: rows, .cons hspec hrows, by rw [hcurrent, hops]; simp, fun ht => ?_,
      fun ht _ => ?_⟩
    · rw [hopen (htransaction.trans ht), hcommitted, if_pos ht]
    · refine hclosed (htransaction.trans ht) (.inl ?_)
      rw [hcommitted, ht]
      rfl

theorem recordOne_refused (endpoint : PlanEndpoint) (hrun : call.permit.runId = w.run.id)
    (htarget : call.permit.runTargetId = w.target.id) (hnone : w.hasAny c.current = false)
    (hno : w.insertable call plan c.current operation = false) :
    ∃ outcome c', recordOne w call plan endpoint operation c = (.error outcome, c') ∧
      ∀ P : Tables Dir → Prop, c.Holds P → c'.Holds P := by
  unfold recordOne recordOperation
  split
  · exact ⟨_, c, rfl, fun _ hc => hc⟩
  · split
    · exact ⟨_, c, rfl, fun _ hc => hc⟩
    · rename_i row hrow
      have hspec : RowOf call.permit operation row := plannedRecoveryOperation_spec hrow
      have hinsertable : w.insertable call plan c.current operation =
          (((Call.recordPlannedOperation row call.processInstanceId none).precheck w.py).isOk &&
            (c.current.loadOperation row.runId row.operationId).isNone &&
              c.current.activeMatchingLease row && c.current.acceptsRow row) := by
        unfold PlanningWorld.insertable PlanningWorld.rowOf
        rw [hrow]
      rw [hinsertable] at hno
      have hprecheck : ∀ payload, (Call.recordPlannedOperation row call.processInstanceId
          payload).precheck w.py = (Call.recordPlannedOperation row call.processInstanceId
            none).precheck w.py := fun _ => rfl
      unfold performCall
      rw [hprecheck]
      cases hcheck :
        (Call.recordPlannedOperation row call.processInstanceId none).precheck w.py with
      | error raised => exact ⟨_, c, rfl, fun _ hc => hc⟩
      | ok u =>
        rw [hcheck] at hno
        have hbody : ∃ code, (Call.recordPlannedOperation row call.processInstanceId
            (some (plannedPayload plan endpoint operation))).body w.py w.dirs c.current =
              (.error (.storeError code), c.current) := by
          simp only [Call.body, recordPlannedOperationBody]
          cases hload : c.current.loadOperation row.runId row.operationId with
          | some existing =>
            dsimp only
            split
            · exact ⟨_, rfl⟩
            · -- the very row is stored: the executor would have seen it
              rename_i hsame
              obtain rfl : existing = row := not_not.mp hsame
              have hany : w.hasAny c.current = true := by
                refine hasAnyOperation_iff.mpr ⟨existing, loadOperation_mem hload,
                  hspec.runId.trans hrun, hspec.runTargetId.trans htarget, ?_⟩
                rw [hspec.phase]
                decide
              rw [hany] at hnone
              cases hnone
          | none =>
            dsimp only
            split
            · exact ⟨_, rfl⟩
            · rename_i hlease
              split
              · exact ⟨_, rfl⟩
              · rename_i haccepts
                have hlease' : c.current.activeMatchingLease row = true := by simpa using hlease
                have haccepts' : c.current.acceptsRow row = true := by simpa using haccepts
                rw [hload, hlease', haccepts'] at hno
                cases hno
        obtain ⟨code, hbody⟩ := hbody
        have hexecute : c.execute ((Call.recordPlannedOperation row call.processInstanceId
            (some (plannedPayload plan endpoint operation))).body w.py w.dirs) =
              (.error (.storeError code), (c.execute ((Call.recordPlannedOperation row
                call.processInstanceId (some (plannedPayload plan endpoint operation))).body w.py
                  w.dirs)).2) := by
          refine Prod.ext ?_ rfl
          unfold Connection.execute
          rw [hbody]
          dsimp only
          split <;> rfl
        dsimp only
        rw [hexecute]
        refine ⟨_, _, rfl, fun P hc => hc.execute ?_⟩
        rw [hbody]
        exact hc.2

end

section
variable {Dir : Type} {w : PlanningWorld Dir} {c c' : Connection Dir}

/-- Nothing of the selection is recorded, or all of it in its order. -/
structure AllOrNothing (w : PlanningWorld Dir) (operations : List RecoveryOperation) : Prop where
  keys : Table.KeysUnique RecoveryOperation.key operations
  columns : w.recordedColumns operations = [] ∨
    w.recordedColumns operations = w.selection.map columnsInPlan

theorem recordedColumns_congr {operations operations' : List RecoveryOperation}
    (h : operations'.map RecoveryOperation.asPlanned = operations.map RecoveryOperation.asPlanned) :
    w.recordedColumns operations' = w.recordedColumns operations := by
  have hplanned : ∀ rows : List RecoveryOperation, w.recordedColumns rows =
      w.recordedColumns (rows.map RecoveryOperation.asPlanned) := by
    intro rows
    unfold PlanningWorld.recordedColumns
    rw [List.filter_map, List.map_map]
    rfl
  rw [hplanned, h, ← hplanned]

theorem recordedColumns_append (operations rows : List RecoveryOperation) :
    w.recordedColumns (operations ++ rows) =
      w.recordedColumns operations ++ w.recordedColumns rows := by
  simp [PlanningWorld.recordedColumns]

variable {t : Tables Dir} {after : List RecoveryOperation}

theorem recordedColumns_writes {call : Call}
    (hkeys : Table.KeysUnique RecoveryOperation.key t.operations) (hwrites : Writes call t after)
    (helsewhere : recordsElsewhere w (.call call : Label Dir) = true) :
    w.recordedColumns after = w.recordedColumns t.operations := by
  cases hwrites with
  | unchanged heq => rw [heq]
  | planned operation process payload hcall _ _ heq =>
    subst hcall
    have hother : w.recordedColumns [operation] = [] := by
      have hno : (operation.runId = w.run.id && operation.runTargetId = w.target.id) = false := by
        by_contra hyes
        simp_all [recordsElsewhere]
      simp only [PlanningWorld.recordedColumns, List.filter_cons, hno]
      rfl
    rw [heq, Table.insert, recordedColumns_append, hother, List.append_nil]
  | changed operation updated hchange heq =>
    rw [heq, recordedColumns_congr (hchange.map_asPlanned hkeys)]

theorem AllOrNothing.writes {call : Call} (h : AllOrNothing w t.operations)
    (hwrites : Writes call t after)
    (helsewhere : recordsElsewhere w (.call call : Label Dir) = true) : AllOrNothing w after where
  keys := hwrites.keysUnique h.keys
  columns := by
    rw [recordedColumns_writes h.keys hwrites helsewhere]
    exact h.columns

theorem holds_journal {P : List RecoveryOperation → Prop} {label : Label Dir}
    (hwrites : ∀ {t : Tables Dir} {call : Call} {after : List RecoveryOperation},
      P t.operations → Writes call t after →
        recordsElsewhere w (.call call : Label Dir) = true → P after)
    (h : c.Holds fun t => P t.operations) (helsewhere : recordsElsewhere w label = true)
    (hstep : connectionStep w.py w.dirs c label = some c') :
    c'.Holds fun t => P t.operations := by
  refine holds_of_tableStep (P := fun t => P t.operations) h ?_ hstep
  intro t' hstepTo
  cases hstepTo with
  | call hcheck => exact hwrites h.2 (writes_of_call hcheck c.current) helsewhere
  | registerLease _ => exact (registerLease_operations _ c.current).symm ▸ h.2
  | releaseLease => exact (releaseLease_operations _ c.current).symm ▸ h.2
  | reconcileLeases => exact (reconcileLeases_operations _ _ c.current).symm ▸ h.2
  | neighbour hops _ => exact hops.symm ▸ h.2

variable {call : PlanningCall}

theorem planningScope_spec {scope : PlanningScope} (hrun : call.permit.runId = w.run.id)
    (htarget : call.permit.runTargetId = w.target.id)
    (h : planningScope w.py w.verifies w.plans (w.tables call.view) call.permit
      call.processInstanceId = .ok scope) :
    scope.run = w.runRow call.view ∧ scope.target = w.targetRow call.view ∧
      w.plans w.run.planId = some scope.plan ∧ scope.operations = w.selection ∧
      (w.selection.length : Int) = w.target.plannedOperations := by
  have hloadRun : (w.tables call.view).loadStartedRun call.permit.runId =
      some (w.runRow call.view) := by
    simp [RunTables.loadStartedRun, Table.lookup, PlanningWorld.tables, PlanningWorld.runRow, hrun]
  have hloadTarget : (w.tables call.view).loadTarget call.permit.runId call.permit.runTargetId =
      some (w.targetRow call.view) := by
    simp [RunTables.loadTarget, PlanningWorld.tables, PlanningWorld.targetRow, hrun, htarget,
      w.belongs]
  unfold planningScope at h
  rw [hloadRun, hloadTarget] at h
  dsimp only at h
  split at h
  · cases h
  split at h
  · cases h
  split at h
  · cases h
  · cases h
  rename_i plan _ hplan
  split at h
  · cases h
  · cases h
  · cases h
  rename_i endpoint _ _ hendpoint
  split at h
  · cases h
  split at h
  · cases h
  rename_i scopeIds hscope
  split at h
  · cases h
  rename_i hcount
  split at h
  · cases h
  obtain rfl := Except.ok.inj h
  have hid : endpoint.endpointId = w.target.endpointId := by
    have hfound := List.find?_some hendpoint
    simp only [Bool.and_eq_true, decide_eq_true_eq] at hfound
    exact hfound.1
  have hplan' : w.plans w.run.planId = some plan := hplan
  have hscope' : operationScopeFromRun w.run.summary plan = .ok scopeIds := hscope
  have hselection : selectedOperations plan endpoint.endpointId scopeIds = w.selection := by
    unfold PlanningWorld.selection
    rw [hplan']
    dsimp only
    rw [hscope', hid]
  refine ⟨rfl, rfl, hplan', hselection, ?_⟩
  rw [← hselection]
  exact not_not.mp hcount

theorem selection_nodup {plan : SealedPlan} (hplan : w.plans w.run.planId = some plan) :
    (w.selection.map PlanOperation.operationId).Nodup := by
  unfold PlanningWorld.selection
  rw [hplan]
  dsimp only
  split
  · exact List.nodup_nil
  · exact plan.uniqueIds.sublist (List.filter_sublist.map _)

variable {permit : MutationPermit}

theorem recordedColumns_rows (hrun : permit.runId = w.run.id)
    (htarget : permit.runTargetId = w.target.id) {operations : List PlanOperation}
    {rows : List RecoveryOperation} (h : List.Forall₂ (RowOf permit) operations rows) :
    w.recordedColumns rows = operations.map columnsInPlan := by
  induction h with
  | nil => rfl
  | @cons operation row _ rows hrow _ ih =>
    have hown : (row.runId = w.run.id && row.runTargetId = w.target.id) = true := by
      simp [hrow.runId, hrow.runTargetId, hrun, htarget]
    unfold PlanningWorld.recordedColumns at ih ⊢
    rw [List.filter_cons, if_pos hown, List.map_cons, List.map_cons, ih, hrow.columns]

variable {operation : PlanOperation}

theorem AllOrNothing.columns_of_insertable {plan : SealedPlan} {rest : List PlanOperation}
    (h : AllOrNothing w t.operations) (hrun : call.permit.runId = w.run.id)
    (hselection : w.selection = operation :: rest)
    (hinsert : w.insertable call plan t operation = true) :
    w.recordedColumns t.operations = [] := by
  refine h.columns.resolve_right fun hwhole => ?_
  have hmem : columnsInPlan operation ∈ w.recordedColumns t.operations := by
    rw [hwhole, hselection]
    exact List.mem_cons_self
  obtain ⟨stored, hstored, hcolumns⟩ := List.mem_map.mp hmem
  have hrow := List.mem_filter.mp hstored
  have hown : stored.runId = w.run.id := by
    have := hrow.2
    simp only [Bool.and_eq_true, decide_eq_true_eq] at this
    exact this.1
  unfold PlanningWorld.insertable at hinsert
  split at hinsert
  · cases hinsert
  · rename_i row hrowOf
    have hspec := rowOf_spec hrowOf
    simp only [Bool.and_eq_true] at hinsert
    have hfresh : t.loadOperation row.runId row.operationId = none := by
      simpa using hinsert.1.1.2
    refine Table.lookup_none_iff.mp hfresh stored hrow.1 (Prod.ext ?_ ?_)
    · exact hown.trans (hrun.symm.trans hspec.runId.symm)
    · exact (congrArg PlannedColumns.operationId hcolumns).trans hspec.operationId.symm

theorem AllOrNothing.plan {call : PlanningCall}
    (h : c.Holds fun t => AllOrNothing w t.operations) (hok : Uninterrupted w c (.plan call))
    (hstep : (planning w).step c (.plan call) = some c') :
    c'.Holds fun t => AllOrNothing w t.operations := by
  simp only [planning] at hstep
  split at hstep
  · rename_i hcall
    obtain ⟨hrun, htarget, -, hnone⟩ := hcall
    obtain rfl := Option.some.inj hstep
    unfold planRunTargetRecoveryOperations
    split
    · exact h
    rename_i scope hscope
    obtain ⟨hscopeRun, hscopeTarget, hplan, hoperations, -⟩ :=
      planningScope_spec hrun htarget hscope
    rw [hscopeRun, hscopeTarget, hoperations]
    simp only [Uninterrupted, uninterrupted, hscope, hoperations, Bool.and_eq_true] at hok
    obtain ⟨hcrash, hwhole⟩ := hok
    change (record w call scope.plan scope.endpoint w.selection call.crashAfter 0 c).2.Holds _
    cases hselection : w.selection with
    | nil => exact h
    | cons operation rest =>
      by_cases hnow : call.crashAfter = some 0
      · -- the process ends before the first recording
        unfold record recordSelected
        rw [if_pos hnow]
        exact ⟨h.1, h.1⟩
      by_cases hinsert : w.insertable call scope.plan c.current operation = true
      · have hrecordable : w.recordable call scope.plan c.current w.selection = true := by
          simpa [hselection, hinsert] using hwhole
        have hleft : call.crashAfter.all (fun n => w.selection.length ≤ n) = true := by
          cases hn : call.crashAfter with
          | none => rfl
          | some n =>
            have hne : n ≠ 0 := fun hzero => hnow (hzero ▸ hn)
            rw [hn] at hcrash
            simpa [hne] using hcrash
        have hkeys :
            (record w call scope.plan scope.endpoint w.selection call.crashAfter 0 c).2.Holds
            fun t => Table.KeysUnique RecoveryOperation.key t.operations :=
          record_holds (fun t _ hcheck hu => (writes_of_call hcheck t).keysUnique hu) _ _ _
            ⟨h.1.keys, h.2.keys⟩
        obtain ⟨rows, hrows, hcurrent, hopen, hclosed⟩ :=
          record_recordable scope.endpoint (selection_nodup hplan) hleft hrecordable
        rw [← hselection]
        have hcolumns : AllOrNothing w (record w call scope.plan scope.endpoint w.selection
            call.crashAfter 0 c).2.current.operations := by
          refine ⟨hkeys.2, .inr ?_⟩
          rw [hcurrent, recordedColumns_append,
            h.2.columns_of_insertable hrun hselection hinsert, List.nil_append]
          exact recordedColumns_rows hrun htarget hrows
        refine ⟨?_, hcolumns⟩
        cases htransaction : c.inTransaction with
        | true =>
          rw [hopen htransaction]
          exact h.1
        | false =>
          rw [hclosed htransaction (.inr (by rw [hselection]; exact List.cons_ne_nil _ _))]
          exact hcolumns
      · obtain ⟨outcome, c'', hround, hkeeps⟩ := recordOne_refused scope.endpoint hrun
          htarget hnone (by simpa using hinsert)
        unfold recordOne at hround
        unfold record recordSelected
        rw [if_neg hnow, hround]
        exact hkeeps _ h
  · cases hstep

theorem AllOrNothing.plannedExactly (h : AllOrNothing w t.operations) (hany : w.hasAny t = true) :
    PlannedExactly w t := by
  refine h.columns.resolve_left fun hnone => ?_
  obtain ⟨operation, hmem, hrun, htarget, -⟩ := hasAnyOperation_iff.mp hany
  have hrow : plannedColumns operation ∈ w.recordedColumns t.operations :=
    List.mem_map_of_mem (List.mem_filter.mpr ⟨hmem, by simp [hrun, htarget]⟩)
  rw [hnone] at hrow
  cases hrow

/-- In every run in which no planning call is interrupted between its first and its last
recording, the executor sees operations of the target only when they are exactly the selected
ones, with the plan's columns, on disk and in the open transaction. -/
theorem planning_all_or_nothing (h : (planning w).ReachableWhen (Uninterrupted w) c) :
    (w.hasAny c.committed = true → PlannedExactly w c.committed) ∧
      (w.hasAny c.current = true → PlannedExactly w c.current) := by
  have hinv : c.Holds fun t => AllOrNothing w t.operations := by
    refine h.invariant ?_ ?_
    · rintro s ⟨directories, rfl⟩
      have hempty : AllOrNothing w ([] : List RecoveryOperation) :=
        ⟨by simp [Table.KeysUnique], .inl rfl⟩
      exact ⟨hempty, hempty⟩
    · intro s label s' _ hs hok hstep
      cases label with
      | plan call => exact AllOrNothing.plan hs hok hstep
      | journal label =>
        simp only [planning] at hstep
        split at hstep
        · rename_i helsewhere
          exact holds_journal AllOrNothing.writes hs helsewhere hstep
        · cases hstep
  exact ⟨fun hany => hinv.1.plannedExactly hany, fun hany => hinv.2.plannedExactly hany⟩

/-- Nothing but the selection is recorded. -/
structure WithinPlan (w : PlanningWorld Dir) (operations : List RecoveryOperation) : Prop where
  keys : Table.KeysUnique RecoveryOperation.key operations
  selected : ∀ columns ∈ w.recordedColumns operations,
    columns.operationId ∈ w.selection.map PlanOperation.operationId
  counted : w.recordedColumns operations ≠ [] →
    (w.selection.length : Int) = w.target.plannedOperations

theorem WithinPlan.writes {call : Call} (h : WithinPlan w t.operations)
    (hwrites : Writes call t after)
    (helsewhere : recordsElsewhere w (.call call : Label Dir) = true) : WithinPlan w after := by
  have hcolumns := recordedColumns_writes h.keys hwrites helsewhere
  exact ⟨hwrites.keysUnique h.keys, hcolumns ▸ h.selected, hcolumns ▸ h.counted⟩

theorem WithinPlan.recorded {row : RecoveryOperation} {processInstanceId : String}
    {payload : Option Payload} (h : WithinPlan w t.operations)
    (hwrites : Writes (.recordPlannedOperation row processInstanceId payload) t after)
    (hrow : RowOf permit operation row) (hmem : operation ∈ w.selection)
    (hlength : (w.selection.length : Int) = w.target.plannedOperations) : WithinPlan w after := by
  refine ⟨hwrites.keysUnique h.keys, ?_, fun _ => hlength⟩
  cases hwrites with
  | unchanged heq => exact heq ▸ h.selected
  | planned stored process stored_payload hcall _ _ heq =>
    obtain ⟨rfl, -, -⟩ := Call.recordPlannedOperation.inj hcall
    rw [heq, Table.insert, recordedColumns_append]
    intro columns hcolumns
    rcases List.mem_append.mp hcolumns with hold | hnew
    · exact h.selected columns hold
    · obtain ⟨_, hrowMem, rfl⟩ := List.mem_map.mp hnew
      rw [List.mem_singleton.mp (List.mem_of_mem_filter hrowMem), hrow.columns]
      exact List.mem_map_of_mem hmem
  | changed stored updated hchange heq =>
    rw [heq, recordedColumns_congr (hchange.map_asPlanned h.keys)]
    exact h.selected

variable {endpoint : PlanEndpoint}

theorem WithinPlan.recordOne {plan : SealedPlan} (h : c.Holds fun t => WithinPlan w t.operations)
    (hmem : operation ∈ w.selection)
    (hlength : (w.selection.length : Int) = w.target.plannedOperations) :
    (recordOne w call plan endpoint operation c).2.Holds fun t => WithinPlan w t.operations := by
  unfold Execution.recordOne recordOperation
  split
  · exact h
  · split
    · exact h
    · rename_i row hrow
      have hcall : ∀ payload, (performCall w.py w.dirs (.recordPlannedOperation row
          call.processInstanceId payload) c).2.Holds fun t => WithinPlan w t.operations := by
        intro payload
        unfold performCall
        split
        · exact h
        · rename_i hcheck
          exact h.execute (h.2.recorded (writes_of_call hcheck _) (rowOf_spec hrow) hmem hlength)
      have hnext := hcall (some (plannedPayload plan endpoint operation))
      split
      · rename_i hperform
        rw [hperform] at hnext
        exact hnext
      · rename_i hperform
        rw [hperform] at hnext
        exact hnext

theorem WithinPlan.record {plan : SealedPlan}
    (hlength : (w.selection.length : Int) = w.target.plannedOperations)
    (operations : List PlanOperation) (left : Option Nat) (recorded : Nat)
    (h : c.Holds fun t => WithinPlan w t.operations)
    (hmem : ∀ operation ∈ operations, operation ∈ w.selection) :
    (record w call plan endpoint operations left recorded c).2.Holds
      fun t => WithinPlan w t.operations := by
  induction operations generalizing left recorded c with
  | nil => exact h
  | cons operation rest ih =>
    unfold Execution.record recordSelected
    split
    · exact ⟨h.1, h.1⟩
    · have hnext : (Execution.recordOne w call plan endpoint operation c).2.Holds
          fun t => WithinPlan w t.operations :=
        WithinPlan.recordOne h (hmem operation List.mem_cons_self) hlength
      unfold Execution.recordOne at hnext
      split
      · rename_i hround
        rw [hround] at hnext
        exact hnext
      · rename_i hround
        rw [hround] at hnext
        exact ih _ _ hnext fun other hother => hmem other (List.mem_cons_of_mem _ hother)

theorem WithinPlan.plan {call : PlanningCall} (h : c.Holds fun t => WithinPlan w t.operations)
    (hstep : (planning w).step c (.plan call) = some c') :
    c'.Holds fun t => WithinPlan w t.operations := by
  simp only [planning] at hstep
  split at hstep
  · rename_i hcall
    obtain ⟨hrun, htarget, -, -⟩ := hcall
    obtain rfl := Option.some.inj hstep
    unfold planRunTargetRecoveryOperations
    split
    · exact h
    rename_i scope hscope
    obtain ⟨hscopeRun, hscopeTarget, -, hoperations, hlength⟩ :=
      planningScope_spec hrun htarget hscope
    rw [hscopeRun, hscopeTarget, hoperations]
    exact WithinPlan.record hlength w.selection call.crashAfter 0 h fun _ hmem => hmem
  · cases hstep

theorem withinPlan (h : (planning w).Reachable c) : c.Holds fun t => WithinPlan w t.operations := by
  refine h.invariant ?_ ?_
  · rintro s ⟨directories, rfl⟩
    have hempty : WithinPlan w ([] : List RecoveryOperation) :=
      ⟨by simp [Table.KeysUnique], fun _ hmem => (nomatch hmem), fun hno => absurd rfl hno⟩
    exact ⟨hempty, hempty⟩
  · intro s label s' _ hs _ hstep
    cases label with
    | plan call => exact WithinPlan.plan hs hstep
    | journal label =>
      simp only [planning] at hstep
      split at hstep
      · rename_i helsewhere
        exact holds_journal WithinPlan.writes hs helsewhere hstep
      · cases hstep

theorem WithinPlan.length_le {operations : List RecoveryOperation} (h : WithinPlan w operations)
    (hplanned : 0 ≤ w.target.plannedOperations) :
    ((w.recordedColumns operations).length : Int) ≤ w.target.plannedOperations := by
  by_cases hnone : w.recordedColumns operations = []
  · rw [hnone]
    exact hplanned
  · -- the identifiers are distinct, for the rows belong to one run
    have hnodup : ((w.recordedColumns operations).map PlannedColumns.operationId).Nodup := by
      unfold PlanningWorld.recordedColumns
      rw [List.map_map]
      refine List.Nodup.map_on ?_ ((List.Nodup.of_map _ h.keys).filter _)
      intro a ha b hb heq
      have hrows := And.intro (List.mem_filter.mp ha) (List.mem_filter.mp hb)
      simp only [Bool.and_eq_true, decide_eq_true_eq] at hrows
      exact Table.key_injOn h.keys hrows.1.1 hrows.2.1
        (Prod.ext (hrows.1.2.1.trans hrows.2.2.1.symm) heq)
    have hsubset : (w.recordedColumns operations).map PlannedColumns.operationId ⊆
        w.selection.map PlanOperation.operationId := by
      intro operationId hmem
      obtain ⟨columns, hcolumns, rfl⟩ := List.mem_map.mp hmem
      exact h.selected columns hcolumns
    have hle := hnodup.length_le_of_subset hsubset
    simp only [List.length_map] at hle
    have hcount := h.counted hnone
    omega

theorem recorded_le_planned (h : (planning w).Reachable c)
    (hplanned : 0 ≤ w.target.plannedOperations) :
    ((c.current.operations.filter fun row =>
      row.runId = w.run.id && row.runTargetId = w.target.id).length : Int) ≤
        w.target.plannedOperations := by
  have hle := (withinPlan h).2.length_le hplanned
  simpa [PlanningWorld.recordedColumns] using hle

end

def nestedDirectory (operationId : String) (sequenceNo : Int) (path : String) : PlanOperation where
  operationId
  operationType := .createDirectory
  sequenceNo
  executionPhase := 100
  stableOrderKey := path
  targetPreconditionKind := .absent
  reasonCode := "CREATE_MISSING_DIRECTORY"
  riskLevel := .low
  targetEndpointId := some "target-a"
  targetRelativePath := some path

def nestedPlan : SealedPlan where
  planId := "plan-a"
  jobId := "job-a"
  jobRevisionId := "job-rev-a"
  endpoints := [{
    endpointId := "target-a"
    endpointRevisionId := "target-rev-a"
    snapshotId := "snapshot-a"
    role := .targetWritable
    capabilitiesHash := "capabilities-a"
    rootCaseContextHash := "case-a"
    endpointGeneration := 1 }]
  operations :=
    [nestedDirectory "operation-a" 0 "Photos", nestedDirectory "operation-b" 1 "Photos/2026"]
  dependencies := [⟨"operation-a", "operation-b"⟩]
  operationSchemaVersion := 3
  executionPolicy := "STANDARD"
  planChecksum := "checksum-a"
  uniqueIds := by decide
  uniqueSequence := by decide
  knownDependencies := by decide

def nestedWorld : PlanningWorld Unit where
  py := plainPython
  dirs := none
  verifies := fun _ => true
  plans := fun planId => if planId = "plan-a" then some nestedPlan else none
  run := {
    id := "run-a", jobId := "job-a", jobRevisionId := "job-rev-a", planId := "plan-a"
    planChecksum := "checksum-a", state := .executing, startedUtc := "2026-01-01T00:00:00Z"
    summary := [], warningCount := 0, errorCount := 0, plannedOperations := 2, plannedBytes := 0
    rowVersion := 1 }
  target := {
    id := "run-a-target-0000", runId := "run-a", endpointId := "target-a"
    endpointRevisionId := "target-rev-a", requiredOwnerInstallationId := some "owner-a"
    requiredOwnershipEpoch := some 1, state := .executing
    leaseResourceKey := some "endpoint:target-a", lastLeaseId := none, lastOwnershipEpoch := none
    lastFencingToken := none, plannedOperations := 2, completedOperations := 0, plannedBytes := 0
    completedBytes := 0, warningCount := 0, errorCount := 0, result := none, rowVersion := 1 }
  belongs := rfl

def nestedCall (crashAfter : Option Nat) : PlanningCall where
  view := ⟨.executing, .executing, some "lease-a", some 1, some 1⟩
  permit := {
    leaseId := "lease-a", resourceKey := "endpoint:target-a", ownerInstallationId := "owner-a"
    ownershipEpoch := 1, fencingToken := 1, runId := "run-a", runTargetId := "run-a-target-0000"
    endpointId := "target-a", endpointRevisionId := "target-rev-a", endpointGeneration := 1 }
  processInstanceId := "process-a"
  crashAfter

/-- The lease, and a planning call in a process that ends after `crashAfter` recordings. -/
def nestedRun (crashAfter : Option Nat) : List (PlanningLabel Unit) :=
  [.journal (.registerLease sampleLease), .plan (nestedCall crashAfter)]

/-- Without the guard the claim fails: the process ends after the first of two recordings, and
from then on the one recorded operation is taken for the whole plan. -/
theorem interrupted_planning_stands : ∃ c, (planning nestedWorld).Reachable c ∧
    nestedWorld.hasAny c.committed = true ∧ ¬ PlannedExactly nestedWorld c.committed ∧
      ∀ call, (planning nestedWorld).step c (.plan call) = none := by
  have hrun : ((planning nestedWorld).replay emptyConnection (nestedRun (some 1))).any (fun c =>
      nestedWorld.hasAny c.committed && nestedWorld.hasAny c.current &&
        nestedWorld.recordedColumns c.committed.operations !=
          nestedWorld.selection.map columnsInPlan) = true := by decide
  obtain ⟨c, hc, hany⟩ := (Option.any_eq_true _ _).mp hrun
  simp only [Bool.and_eq_true, bne_iff_ne] at hany
  obtain ⟨⟨hcommitted, hcurrent⟩, hpart⟩ := hany
  have hreach : (planning nestedWorld).Reachable c :=
    System.Reachable.replay (.init ⟨(), rfl⟩) (nestedRun (some 1)) hc
  refine ⟨c, hreach, hcommitted, hpart, fun call => ?_⟩
  have hstep : (planning nestedWorld).step c (.plan call) =
      if call.permit.runId = nestedWorld.run.id ∧ call.permit.runTargetId = nestedWorld.target.id ∧
          nestedWorld.target.plannedOperations ≠ 0 ∧ nestedWorld.hasAny c.current = false then
        some (planRunTargetRecoveryOperations nestedWorld.py nestedWorld.dirs nestedWorld.verifies
          nestedWorld.plans (nestedWorld.tables call.view) call.permit call.processInstanceId
          call.crashAfter c).2
      else none := rfl
  rw [hstep, if_neg]
  rintro ⟨-, -, -, hnone⟩
  rw [hcurrent] at hnone
  cases hnone

theorem planning_all_or_nothing_nested : ∃ c : Connection Unit,
    nestedWorld.hasAny c.committed = true ∧ PlannedExactly nestedWorld c.committed ∧
      nestedWorld.recordedColumns c.committed.operations ≠ [] := by
  have hrun : ((planning nestedWorld).replayWhile (uninterrupted nestedWorld) emptyConnection
      (nestedRun none)).any (fun c => nestedWorld.hasAny c.committed &&
        nestedWorld.recordedColumns c.committed.operations != []) = true := by decide
  obtain ⟨c, hc, hany⟩ := (Option.any_eq_true _ _).mp hrun
  simp only [Bool.and_eq_true, bne_iff_ne] at hany
  have hreach : (planning nestedWorld).ReachableWhen (Uninterrupted nestedWorld) c :=
    System.ReachableWhen.replayWhile (fun _ _ hok => hok) (.init ⟨(), rfl⟩) (nestedRun none) hc
  exact ⟨c, hany.1, (planning_all_or_nothing hreach).1 hany.1, hany.2⟩

end MediaSync.Execution
