import MediaSync.Foundation.Text
import MediaSync.Runs.Tables

/-! Every public mutating method of `SqliteRunStore`. A method is one transaction: `none` stands for
a rollback, whether it returns `None` or raises, and the row a method returns is the one the
resulting tables hold. Clock readings and generated ids are arguments. -/
namespace MediaSync.Runs
open Text

/-- What `_started_run_target` takes from the plan for one target. -/
structure RunTargetStart where
  targetOrdinal : Nat
  endpointId : String
  endpointRevisionId : String
  requiredOwnerInstallationId : Option String
  requiredOwnershipEpoch : Option Int
  plannedOperations : Nat
  plannedBytes : Nat

/-- What `_started_run_from_plan` takes from the plan and the command. -/
structure RunStart where
  runId : String
  jobId : String
  jobRevisionId : String
  planId : String
  planChecksum : String
  startedUtc : String
  summary : Payload
  plannedOperations : Nat
  plannedBytes : Nat
  deferUntilRecoveryBound : Bool
  targets : List RunTargetStart

/-- `f"{ordinal:04d}"`. -/
def fourDigits (n : Nat) : String :=
  let digits := toString n
  String.ofList (List.replicate (4 - digits.length) '0') ++ digits

def startedRunTarget (runId : String) (target : RunTargetStart) : RunTargetRow where
  id := runId ++ "-target-" ++ fourDigits target.targetOrdinal
  runId := runId
  endpointId := target.endpointId
  endpointRevisionId := target.endpointRevisionId
  requiredOwnerInstallationId := target.requiredOwnerInstallationId
  requiredOwnershipEpoch := target.requiredOwnershipEpoch
  state := .pending
  leaseResourceKey := some ("endpoint:" ++ target.endpointId)
  lastLeaseId := none
  lastOwnershipEpoch := none
  lastFencingToken := none
  plannedOperations := target.plannedOperations
  completedOperations := 0
  plannedBytes := target.plannedBytes
  completedBytes := 0
  warningCount := 0
  errorCount := 0
  result := none
  rowVersion := 1

def startedRunFromPlan (start : RunStart) : RunRow where
  id := start.runId
  jobId := start.jobId
  jobRevisionId := start.jobRevisionId
  planId := start.planId
  planChecksum := start.planChecksum
  state := if start.deferUntilRecoveryBound then .created else .queued
  startedUtc := start.startedUtc
  summary := start.summary
  warningCount := 0
  errorCount := 0
  plannedOperations := start.plannedOperations
  plannedBytes := start.plannedBytes
  rowVersion := 1

structure RunLease where
  leaseId : String
  ownerInstallationId : String
  ownershipEpoch : Int
  fencingToken : Int
  deriving DecidableEq

structure EndpointRetryTiming where
  observedUtc : String
  backoffMs : Int
  retryNotBeforeUtc : String

structure RunTargetStopProgress where
  runTargetId : String
  completedOperations : Int
  completedBytes : Int

namespace RunTargetRow

variable (target : RunTargetRow)

def admits (lease : RunLease) : Bool :=
  target.requiredOwnerInstallationId.all (· = lease.ownerInstallationId) &&
    target.requiredOwnershipEpoch.all (· = lease.ownershipEpoch)

def lastLeaseIs (leaseId : String) (ownershipEpoch fencingToken : Int) : Bool :=
  target.lastLeaseId = some leaseId && target.lastOwnershipEpoch = some ownershipEpoch &&
    target.lastFencingToken = some fencingToken

def withLease (lease : RunLease) : RunTargetRow :=
  { target with
    lastLeaseId := some lease.leaseId
    lastOwnershipEpoch := some lease.ownershipEpoch
    lastFencingToken := some lease.fencingToken }

/-- The move to `state` that also clears the three lease columns. -/
def withoutLease (state : RunTargetState) : RunTargetRow :=
  { target with
    state, lastLeaseId := none, lastOwnershipEpoch := none, lastFencingToken := none }

/-- `lease_resource_key IS NOT NULL AND trim(lease_resource_key) != ''`. -/
def hasLeaseResourceKey : Bool :=
  target.leaseResourceKey.any fun resourceKey => resourceKey.toList.any (· ≠ ' ')

end RunTargetRow

namespace RunTables

variable (t : RunTables)

def moveTarget (runId runTargetId : String) (p : RunTargetRow → Bool)
    (f : RunTargetRow → RunTargetRow) : Option RunTables :=
  if t.targetsMatching runId (fun target => target.id = runTargetId && p target) ≠ 1 then none
  else some (t.updateTargets runId (fun target => target.id = runTargetId && p target) f)

def moveRun (runId : String) (p : RunRow → Bool) (f : RunRow → RunRow) : Option RunTables :=
  if t.runsMatching runId p ≠ 1 then none else some (t.updateRuns runId p f)

section
variable {t} {t' : RunTables} {r x : String} {p : RunTargetRow → Bool}
  {f : RunTargetRow → RunTargetRow} {q : RunRow → Bool} {g : RunRow → RunRow}

theorem moveTarget_eq_some (h : t.moveTarget r x p f = some t') :
    t' = t.updateTargets r (fun target => target.id = x && p target) f ∧
      ∃ target ∈ t.targets, target.runId = r ∧ target.id = x ∧ p target = true := by
  unfold moveTarget at h
  split at h
  · cases h
  · rename_i hcount
    obtain ⟨target, htarget, hp⟩ := Table.exists_of_rowcount_eq_one (not_not.mp hcount)
    simp only [Bool.and_eq_true, decide_eq_true_eq] at hp
    exact ⟨by simpa using h.symm, target, htarget, hp.1, hp.2.1, hp.2.2⟩

theorem moveRun_eq_some (h : t.moveRun r q g = some t') :
    t' = t.updateRuns r q g ∧ ∃ run ∈ t.runs, run.id = r ∧ q run = true := by
  unfold moveRun at h
  split at h
  · cases h
  · rename_i hcount
    obtain ⟨run, hrun, hq⟩ := Table.exists_of_rowcount_eq_one (not_not.mp hcount)
    simp only [Bool.and_eq_true, decide_eq_true_eq] at hq
    exact ⟨by simpa using h.symm, run, hrun, hq.1, hq.2⟩

theorem moveTarget_of_mem (hk : t.Keyed) {target : RunTargetRow} (htarget : target ∈ t.targets)
    (hr : target.runId = r) (hx : target.id = x) (hp : p target = true) :
    t.moveTarget r x p f = some (t.updateTargets r (fun y => y.id = x && p y) f) := by
  have hone := Table.rowcount_eq_one hk.targets htarget
    (p := fun y => y.runId = r && (y.id = x && p y)) (by simp [hr, hx, hp])
    (by intro y hy; simp only [Bool.and_eq_true, decide_eq_true_eq] at hy; rw [hy.2.1, hx])
  simp only [moveTarget, targetsMatching, hone, ne_eq, not_true_eq_false, if_false]

theorem moveRun_of_mem (hk : t.Keyed) {run : RunRow} (hrun : run ∈ t.runs) (hr : run.id = r)
    (hq : q run = true) : t.moveRun r q g = some (t.updateRuns r q g) := by
  have hone := Table.rowcount_eq_one hk.runs hrun (p := fun y => y.id = r && q y)
    (by simp [hr, hq]) (by intro y hy; simp only [Bool.and_eq_true, decide_eq_true_eq] at hy
                           rw [hy.1, hr])
  simp only [moveRun, runsMatching, hone, ne_eq, not_true_eq_false, if_false]

end

def insertConflicts (run : RunRow) (targets : List RunTargetRow) : Bool :=
  t.runs.any (fun row => row.id = run.id) ||
    !decide ((targets.map RunTargetRow.id).Nodup) ||
    !decide ((targets.map RunTargetRow.endpointId).Nodup) ||
    targets.any fun target => t.targets.any fun row =>
      row.id = target.id || (row.runId = target.runId && row.endpointId = target.endpointId)

/-- `save_started_run` of the run that `start_run_from_sealed_plan` builds. -/
def saveStartedRun (start : RunStart) : Option RunTables :=
  let run := startedRunFromPlan start
  let targets := start.targets.map (startedRunTarget start.runId)
  if t.insertConflicts run targets then none
  else some { t with runs := Table.insert t.runs run, targets := t.targets ++ targets }

def releaseCreatedRun (runId : String) : Option RunTables :=
  let released := t.updateRuns runId (·.state = .created) ({ · with state := .queued })
  match released.loadStartedRun runId with
  | none => none
  | some run =>
    if t.runsMatching runId (·.state = .created) = 0 && run.state = .created then none
    else some released

def requestRunPause (runId : String) : Option RunTables :=
  t.moveRun runId
    (fun run => [RunState.created, .queued, .preflight, .executing].contains run.state &&
      (t.loadRunStopRequest runId).isNone)
    ({ · with state := .pausing })

def finalizeRequestedRunPause (runId : String) : Option RunTables :=
  let parked := t.updateTargets runId
    (fun target =>
      [RunTargetState.acquiringLease, .revalidating, .executing, .waitingForEndpoint].contains
        target.state && t.runStateIn runId [.pausing])
    (·.withoutLease .paused)
  parked.moveRun runId (·.state = .pausing) ({ · with state := .paused })

def resumePausedRun (runId : String) : Option RunTables :=
  let woken := t.updateTargets runId
    (fun target => target.state = .paused && t.runStateIn runId [.paused])
    (·.withoutLease .pending)
  woken.moveRun runId
    (fun run => run.state = .paused && (t.loadRunStopRequest runId).isNone &&
      woken.targetStateIn runId [.pending])
    ({ · with state := .queued })

def stoppableRunStates : List RunState :=
  [.created, .queued, .preflight, .executing, .pausing, .paused]

def requestedStop (runId requestedUtc : String) : StopRow :=
  { runId, requestedUtc, state := .pending, boundaryRunTargetId := none
    boundaryOperationId := none, rowVersion := 1 }

def requestRunStopAfterActiveFile (runId requestedUtc : String) : Option RunTables :=
  if t.runStateIn runId stoppableRunStates && !t.stops.any (fun stop => stop.runId = runId) then
    some (({ t with stops := Table.insert t.stops (requestedStop runId requestedUtc) } :
      RunTables).updateRuns runId (fun _ => true) id)
  else
    match t.loadRunStopRequest runId with
    | none => none
    | some _ => if (t.loadStartedRun runId).isSome then some t else none

def bindRequestedRunStopBoundary (runId runTargetId operationId : String) : Option RunTables :=
  let unbound : StopRow → Bool := fun stop =>
    stop.runId = runId && stop.state = .pending && stop.boundaryRunTargetId.isNone &&
      stop.boundaryOperationId.isNone
  if Table.rowcount t.stops unbound ≠ 1 then none
  else some { t with
    stops := Table.updateWhere t.stops unbound fun stop =>
      { stop with
        boundaryRunTargetId := some runTargetId
        boundaryOperationId := some operationId
        rowVersion := stop.rowVersion + 1 } }

def activatedState (runId : String) : RunState :=
  if t.targetStateIn runId [.executing] then .executing
  else if t.targetStateIn runId [.revalidating, .acquiringLease] then .preflight
  else .queued

def activateRequestedRunStop (runId : String) : Option RunTables :=
  match t.loadStartedRun runId, t.loadRunStopRequest runId with
  | some run, some stop =>
    if run.state = .paused then
      match stop.boundaryRunTargetId with
      | none => none
      | some boundary =>
        (t.moveTarget runId boundary (·.state = .paused) (·.withoutLease .pending)).map
          fun woken => woken.updateRuns runId (·.state = .paused) ({ · with state := .queued })
    else if run.state = .pausing then
      some (t.updateRuns runId (·.state = .pausing) ({ · with state := t.activatedState runId }))
    else some t
  | _, _ => none

def progressOf (progress : List RunTargetStopProgress) (runTargetId : String) :
    Option RunTargetStopProgress :=
  progress.reverse.find? fun item => item.runTargetId = runTargetId

/-- A target cancelled by `finalize_requested_run_stop`. -/
def stoppedTarget (progress : List RunTargetStopProgress) (target : RunTargetRow) : RunTargetRow :=
  let reported := progressOf progress target.id
  { target.withoutLease .cancelled with
    completedOperations :=
      max target.completedOperations ((reported.map (·.completedOperations)).getD 0)
    completedBytes := max target.completedBytes ((reported.map (·.completedBytes)).getD 0)
    result := some [("reason", .str "USER_STOP_AFTER_ACTIVE_FILE")] }

/-- The run closed by `finalize_requested_run_stop`. -/
def stoppedRun (run : RunRow) : RunRow :=
  { run with
    state := .cancelled
    summary := (run.summary.put "result" (.str "STOPPED")).put "stop_mode"
      (.str "AFTER_ACTIVE_FILE") }

def finalizeRequestedRunStop (runId : String) (progress : List RunTargetStopProgress) :
    Option RunTables :=
  match t.loadStartedRun runId, t.loadRunStopRequest runId with
  | some _, some _ => do
    let cancelled := t.updateTargets runId (·.state.isUnfinished) (stoppedTarget progress)
    let closed ← cancelled.moveRun runId (fun run => stoppableRunStates.contains run.state)
      stoppedRun
    some { closed with
      stops := Table.updateWhere closed.stops
        (fun stop => stop.runId = runId && stop.state = .pending)
        fun stop => { stop with state := .applied, rowVersion := stop.rowVersion + 1 } }
  | _, _ => none

def beginRunTargetPreflight (runId runTargetId : String) : Option RunTables := do
  let claimed ← t.moveTarget runId runTargetId
    (fun target => target.state = .pending && target.hasLeaseResourceKey &&
      t.runStateIn runId [.queued, .preflight, .executing])
    ({ · with state := .acquiringLease })
  claimed.moveRun runId
    (fun run => [RunState.queued, .preflight, .executing].contains run.state)
    fun run => { run with state := if run.state = .executing then .executing else .preflight }

/-- The `result_json` of a waiting target. -/
def waitResult (timing : EndpointRetryTiming) (attemptNo : Nat) (reason : String) : Payload :=
  [("endpoint_retry_backoff_ms", .int timing.backoffMs),
    ("endpoint_retry_not_before_utc", .str timing.retryNotBeforeUtc),
    ("endpoint_wait_attempts", .int attemptNo), ("last_endpoint_error_code", .str reason),
    ("status", .str "WAITING_FOR_ENDPOINT")]

/-- `coalesce(max(attempt_no), 0) + 1`. -/
def nextAttemptNo (runId runTargetId : String) : Nat :=
  ((t.waitEvents.filter fun event => event.runId = runId ∧ event.runTargetId = runTargetId).map
    WaitEvent.attemptNo).foldl max 0 + 1

def recordRunTargetWaitingForEndpoint (runId runTargetId : String)
    (expectedState : RunTargetState) (reasonCode : String) (timing : EndpointRetryTiming) :
    Option RunTables := do
  let reason := strip reasonCode
  if expectedState ∉ [RunTargetState.acquiringLease, .revalidating, .executing] ∨ reason = "" then
    none
  else
    let attemptNo := t.nextAttemptNo runId runTargetId
    let waiting ← t.moveTarget runId runTargetId
      (fun target => target.state = expectedState && t.runStateIn runId [.preflight, .executing])
      fun target => { target.withoutLease .waitingForEndpoint with
        result := some (waitResult timing attemptNo reason) }
    some { waiting with
      waitEvents := t.waitEvents ++ [{
        runId, runTargetId, attemptNo, reasonCode := reason, observedUtc := timing.observedUtc
        backoffMs := timing.backoffMs, retryNotBeforeUtc := timing.retryNotBeforeUtc }] }

def maxEndpointRetryCandidates : Nat := 128

def waitCandidates : List WaitEvent :=
  (t.waitEvents.tails.filterMap fun rest =>
    match rest with
    | [] => none
    | event :: later =>
      if !later.any (fun x => x.runId = event.runId && x.runTargetId = event.runTargetId) &&
          t.targets.any (fun target => target.runId = event.runId &&
            target.id = event.runTargetId && target.state = .waitingForEndpoint) &&
          t.runStateIn event.runId [.queued, .preflight, .executing] then some event
      else none).take maxEndpointRetryCandidates

/-- `requeue_next_due_waiting_run_target`; `due` tells which retry time has passed. -/
def requeueNextDueWaitingRunTarget (due : WaitEvent → Bool) : Option RunTables :=
  match t.waitCandidates.find? due with
  | none => none
  | some event =>
    t.moveTarget event.runId event.runTargetId (·.state = .waitingForEndpoint)
      ({ · with state := .pending, result := none })

def recordRunTargetLeaseAcquired (runId runTargetId : String) (lease : RunLease) :
    Option RunTables :=
  t.moveTarget runId runTargetId
    (fun target => target.state = .acquiringLease && target.admits lease &&
      t.runStateIn runId [.preflight, .executing])
    fun target => { target.withLease lease with state := .revalidating }

def recordRunTargetLeaseReacquired (runId runTargetId expectedLeaseId : String)
    (expectedOwnershipEpoch expectedFencingToken : Int) (lease : RunLease) : Option RunTables :=
  t.moveTarget runId runTargetId
    (fun target =>
      target.lastLeaseIs expectedLeaseId expectedOwnershipEpoch expectedFencingToken &&
        target.admits lease &&
        ((target.state = .revalidating && t.runStateIn runId [.preflight, .executing]) ||
          (target.state = .executing && t.runStateIn runId [.executing])))
    (·.withLease lease)

def recordRunTargetExecutionStarted (runId runTargetId : String) (lease : RunLease) :
    Option RunTables := do
  let started ← t.moveTarget runId runTargetId
    (fun target => target.state = .revalidating &&
      target.lastLeaseIs lease.leaseId lease.ownershipEpoch lease.fencingToken &&
      target.admits lease && t.runStateIn runId [.preflight, .executing])
    ({ · with state := .executing })
  started.moveRun runId (fun run => [RunState.preflight, .executing].contains run.state)
    ({ · with state := .executing })

def finishTarget (runId runTargetId : String) (p : RunTargetRow → Bool)
    (f : RunTargetRow → RunTargetRow) (g : RunTables → RunRow → RunRow) : Option RunTables := do
  let moved ← t.moveTarget runId runTargetId
    (fun target => target.state = .executing && p target && t.runStateIn runId [.executing]) f
  moved.moveRun runId (·.state = .executing) (g moved)

/-- `NOT EXISTS (… run_targets.state NOT IN …)`. -/
def everyTargetIn (runId : String) (states : List RunTargetState) : Bool :=
  !t.targets.any fun target => target.runId = runId && !states.contains target.state

/-- `instr(summary_json, '"action_required":true') > 0`. -/
def actionRequired (run : RunRow) : Bool := instr run.summaryJson "\"action_required\":true"

def succeededState (moved : RunTables) (run : RunRow) : RunState :=
  if moved.targetStateIn run.id unfinishedTargetStates then run.state
  else if actionRequired run then .completedWithWarnings
  else if moved.everyTargetIn run.id [.succeeded] then .completed
  else if moved.everyTargetIn run.id [.succeeded, .succeededWithWarnings] then
    .completedWithWarnings
  else .partialFailure

def warnedState (moved : RunTables) (run : RunRow) : RunState :=
  if moved.targetStateIn run.id unfinishedTargetStates then run.state
  else if moved.everyTargetIn run.id [.succeeded, .succeededWithWarnings] then
    .completedWithWarnings
  else .partialFailure

def cancelledState (moved : RunTables) (run : RunRow) : RunState :=
  if moved.targetStateIn run.id unfinishedTargetStates then run.state
  else if moved.everyTargetIn run.id [.cancelled] then .cancelled
  else .partialFailure

def recordRunTargetSucceeded (runId runTargetId : String)
    (completedOperations completedBytes : Int) : Option RunTables :=
  t.finishTarget runId runTargetId
    (fun target => target.plannedOperations = completedOperations &&
      target.plannedBytes = completedBytes)
    ({ · with state := .succeeded, completedOperations, completedBytes })
    fun moved run => { run with state := moved.succeededState run }

def recordRunTargetSucceededWithWarnings (runId runTargetId : String)
    (completedOperations completedBytes skippedOperations skippedBytes : Int)
    (lastErrorCode : String) : Option RunTables :=
  let code := strip lastErrorCode
  if completedOperations < 0 ∨ completedBytes < 0 ∨ skippedOperations < 1 ∨ skippedBytes < 0 ∨
      code = "" then none
  else
    t.finishTarget runId runTargetId
      (fun target => target.plannedOperations = completedOperations + skippedOperations &&
        target.plannedBytes = completedBytes + skippedBytes)
      (fun target => { target with
        state := .succeededWithWarnings, completedOperations, completedBytes
        warningCount := target.warningCount + skippedOperations
        result := some [("last_error_code", .str code), ("skipped_bytes", .int skippedBytes),
          ("skipped_operations", .int skippedOperations)] })
      fun moved run => { run with
        state := moved.warnedState run, warningCount := run.warningCount + skippedOperations }

def recordRunTargetRecoveryRequired (runId runTargetId lastErrorCode : String) : Option RunTables :=
  let code := strip lastErrorCode
  if code = "" then none
  else
    t.finishTarget runId runTargetId (fun _ => true)
      (fun target => { target with
        state := .recoveryRequired, errorCount := target.errorCount + 1
        result := some [("last_error_code", .str code),
          ("terminal_recovery_phase", .str "USER_DECISION_REQUIRED")] })
      fun _ run => { run with state := .recoveryRequired, errorCount := run.errorCount + 1 }

def recordRunTargetCancelled (runId runTargetId lastErrorCode : String) : Option RunTables :=
  let code := strip lastErrorCode
  if code = "" then none
  else
    t.finishTarget runId runTargetId (fun _ => true)
      (fun target => { target with
        state := .cancelled, errorCount := target.errorCount + 1
        result := some [("last_error_code", .str code),
          ("terminal_recovery_phase", .str "CANCELLED")] })
      fun moved run => { run with
        state := moved.cancelledState run, errorCount := run.errorCount + 1 }

end RunTables

end MediaSync.Runs
