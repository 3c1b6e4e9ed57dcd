import MediaSync.Jobs.Starts

/-! One maintenance thread claims a queued request, looks at the job's active run, refreshes
endpoints, snapshots, hashes and plans, may start a run of the sealed plan, completes the request
and tells the trigger occurrence behind it. -/
namespace MediaSync.Jobs
open Runs Triggers

/-- `JobSnapshotMaterializationResult`, as the worker reads it. -/
structure SnapshotResult where
  state : String
  jobRevisionId : String
  reasonCode : String
  analysisId : Option String
  deriving DecidableEq

/-- `InitialBackupPlanResult`, as the worker reads it. -/
structure PlanResult where
  state : String
  reasonCode : String
  analysisId : Option String
  planId : Option String
  planChecksum : Option String
  operationCount : Int
  plannedBytes : Int
  deriving DecidableEq

/-- What the refreshers report for the job of a request; `storedPlan` is the plan behind the
plan result, with `_safe_for_automatic_start` of it. -/
structure AnalysisReports where
  snapshot : Option SnapshotResult
  hashEvidence : Except String Unit
  plan : Option PlanResult
  storedPlan : Option StartablePlan
  safeForAutomaticStart : Bool

inductive Conclusion where
  | complete (completion : AnalysisCompletion)
  | start (plan : StartablePlan) (result : PlanResult)
  deriving DecidableEq

def PlanResult.completion (result : PlanResult) (state : BackupAnalysisRequestState)
    (reasonCode : String) (startedRunId : Option String) : AnalysisCompletion where
  state := state
  reasonCode := reasonCode
  analysisId := result.analysisId
  planId := result.planId
  operationCount := result.operationCount
  plannedBytes := result.plannedBytes
  startedRunId := startedRunId

def requestStateOf (state : String) : BackupAnalysisRequestState :=
  if state = "SEALED" then .succeeded
  else if state = "NO_CHANGES" then .noChanges
  else if state = "BLOCKED" then .blocked
  else .failed

/-- `_complete_after_safe_start` up to the start. -/
def PlanResult.concludeSafeStart (result : PlanResult) (storedPlan : Option StartablePlan)
    (safeForAutomaticStart : Bool) : Conclusion :=
  match result.planId, result.planChecksum with
  | some _, some planChecksum =>
    match storedPlan with
    | none => .complete (result.completion .failed "BACKUP_ANALYSIS_SAFE_PLAN_UNAVAILABLE" none)
    | some plan =>
      if plan.planChecksum ≠ planChecksum then
        .complete (result.completion .failed "BACKUP_ANALYSIS_SAFE_PLAN_UNAVAILABLE" none)
      else if !safeForAutomaticStart then
        .complete (result.completion .succeeded result.reasonCode none)
      else .start plan result
  | _, _ => .complete (result.completion .failed "BACKUP_ANALYSIS_SAFE_RUN_NOT_CONFIGURED" none)

/-- `execute_next_backup_analysis` from the plan's report on. -/
def BackupAnalysisRequest.concludePlan (request : BackupAnalysisRequest)
    (reports : AnalysisReports) (analysisId : String) : Conclusion :=
  match reports.plan with
  | none => .complete {
      state := .failed
      reasonCode := "BACKUP_ANALYSIS_PLAN_RESULT_MISSING"
      analysisId := some analysisId }
  | some result =>
    let state := requestStateOf result.state
    if state = .succeeded && request.startWhenSafe then
      result.concludeSafeStart reports.storedPlan reports.safeForAutomaticStart
    else .complete (result.completion state result.reasonCode none)

/-- `execute_next_backup_analysis` from the snapshots' report on. -/
def BackupAnalysisRequest.conclude (request : BackupAnalysisRequest) (reports : AnalysisReports) :
    Conclusion :=
  match reports.snapshot with
  | none => .complete { state := .failed, reasonCode := "BACKUP_ANALYSIS_JOB_NOT_FOUND" }
  | some snapshot =>
    if snapshot.state ≠ "SEALED" then .complete {
      state := if snapshot.state = "BLOCKED" then .blocked else .failed
      reasonCode := snapshot.reasonCode
      analysisId := snapshot.analysisId }
    else if snapshot.jobRevisionId ≠ request.jobRevisionId then .complete {
      state := .blocked
      reasonCode := "BACKUP_ANALYSIS_JOB_REVISION_CHANGED"
      analysisId := snapshot.analysisId }
    else
      match snapshot.analysisId, reports.hashEvidence with
      | none, _ => .complete {
          state := .failed
          reasonCode := "BACKUP_ANALYSIS_HASH_ANALYSIS_MISSING" }
      | some analysisId, .error reasonCode => .complete {
          state := .blocked
          reasonCode
          analysisId := some analysisId }
      | some analysisId, .ok () => request.concludePlan reports analysisId

def isTriggerRequest (requestId : String) : Bool := "trigger:".toList.isPrefixOf requestId.toList

def safeRunKey (requestId : String) : String := "backup-analysis-run:" ++ requestId

def BackupAnalysisRequest.safeStartCommand (request : BackupAnalysisRequest)
    (plan : StartablePlan) : StartRunCommand where
  requestId := request.requestId
  idempotencyKey := request.commandIdempotencyKey
  runIdempotencyKey := some (safeRunKey request.requestId)
  planId := plan.planId
  planChecksum := plan.planChecksum
  triggerOccurrenceId := if isTriggerRequest request.requestId then some request.requestId else none

def BackupAnalysisRequest.completionAfterStart (request : BackupAnalysisRequest)
    (result : PlanResult) (outcome : RunStartOutcome) : AnalysisCompletion :=
  match outcome.run with
  | some run =>
    if !outcome.planRunnable || run.commandRequestId ≠ request.requestId then
      result.completion .blocked "BACKUP_ANALYSIS_SAFE_RUN_START_FAILED" none
    else result.completion .succeeded "BACKUP_ANALYSIS_SAFE_RUN_QUEUED" (some run.runId)
  | none => result.completion .blocked "BACKUP_ANALYSIS_SAFE_RUN_START_FAILED" none

def BackupAnalysisRequest.completionOfActive (request : BackupAnalysisRequest)
    (active : StartedRun) : AnalysisCompletion :=
  if request.startWhenSafe && active.commandRequestId = request.requestId then {
    state := .succeeded
    reasonCode := "BACKUP_ANALYSIS_SAFE_RUN_QUEUED"
    startedRunId := some active.runId }
  else { state := .blocked, reasonCode := "BACKUP_ANALYSIS_ACTIVE_RUN" }

def sanitizedFailureReason (error : String) : String :=
  if error ≠ "" && error.length ≤ 128 && error.toList.all fun c => c.isUpper || c.isDigit || c = '_'
  then error else "BACKUP_ANALYSIS_EXECUTION_FAILED"

def failedCompletion (error : String) : AnalysisCompletion :=
  { state := .failed, reasonCode := sanitizedFailureReason error }

/-- Where the worker is; `guarded` tells whether a completion that raises is caught and replaced
by a failed one. -/
inductive Worker where
  | idle
  | claimed (request : BackupAnalysisRequest)
  | analysing (request : BackupAnalysisRequest)
  | starting (request : BackupAnalysisRequest) (plan : StartablePlan) (result : PlanResult)
  | completing (request : BackupAnalysisRequest) (completion : AnalysisCompletion)
      (guarded : Bool)
  | reporting (request : BackupAnalysisRequest)
  deriving DecidableEq

def Worker.unfinished : Worker → Option BackupAnalysisRequest
  | .claimed request | .analysing request | .starting request _ _ | .completing request _ _ =>
    some request
  | .idle | .reporting _ => none

def occurrenceStateOf : BackupAnalysisRequestState → TriggerOccurrenceState
  | .noChanges => .succeeded
  | .failed => .failed
  | _ => .rejected

def reconcileTriggerAnalysis (t : TriggerTables) (request : BackupAnalysisRequest) :
    Except String TriggerTables :=
  if !isTriggerRequest request.requestId then .ok t
  else
    match t.loadTriggerOccurrence request.requestId, request.startedRunId with
    | none, _ => .ok t
    | some occurrence, some runId => t.markRunEnqueued occurrence.deduplicationKey runId
    | some occurrence, none =>
      if !request.state.isTerminal then .ok t
      else t.markTerminal occurrence.deduplicationKey (occurrenceStateOf request.state)
        (Sha256.hexdigest request.toDict.dump) none

def terminalTriggerOccurrenceStateForRun : RunState → Option TriggerOccurrenceState
  | .completed | .completedWithWarnings => some .succeeded
  | .partialFailure | .failed | .recoveryRequired => some .failed
  | .cancelled => some .cancelled
  | .blockedBySafety => some .rejected
  | _ => none

/-- `RunState`'s values. -/
def runStateValue : RunState → String
  | .created => "CREATED"
  | .queued => "QUEUED"
  | .preflight => "PREFLIGHT"
  | .executing => "EXECUTING"
  | .pausing => "PAUSING"
  | .paused => "PAUSED"
  | .completed => "COMPLETED"
  | .completedWithWarnings => "COMPLETED_WITH_WARNINGS"
  | .partialFailure => "PARTIAL_FAILURE"
  | .failed => "FAILED"
  | .cancelled => "CANCELLED"
  | .blockedBySafety => "BLOCKED_BY_SAFETY"
  | .recoveryRequired => "RECOVERY_REQUIRED"

def runEffectHash (occurrence : TriggerOccurrence) (run : StartedRun) : String :=
  Sha256.hexdigest (Json.obj [
    ("error_count", .int run.errorCount),
    ("job_id", .str run.jobId),
    ("job_revision_id", .str run.jobRevisionId),
    ("occurrence_id", .str occurrence.occurrenceId),
    ("plan_checksum", .str run.planChecksum),
    ("plan_id", .str run.planId),
    ("run_id", .str run.runId),
    ("run_state", .str (runStateValue run.state)),
    ("warning_count", .int run.warningCount)]).dump

/-- One turn of `_reconcile_terminal_trigger_runs`. -/
def reconcileTerminalTriggerRun (c : JobCatalog) (t : TriggerTables)
    (occurrence : TriggerOccurrence) : Except String TriggerTables :=
  match occurrence.runId with
  | none => .error "TRIGGER_OCCURRENCE_RUN_BINDING_MISSING"
  | some runId =>
    match c.loadStartedRun runId with
    | none => .error "TRIGGER_OCCURRENCE_RUN_NOT_FOUND"
    | some run =>
      if run.triggerOccurrenceId ≠ some occurrence.occurrenceId then
        .error "TRIGGER_OCCURRENCE_RUN_BINDING_MISMATCH"
      else
        match terminalTriggerOccurrenceStateForRun run.state with
        | none => .ok t
        | some state =>
          t.markTerminal occurrence.deduplicationKey state (runEffectHash occurrence run)
            (some runId)

variable {rows : List BackupAnalysisRequest}

/-- The values that `complete_backup_analysis` accepts. -/
def AnalysisCompletion.Valid (completion : AnalysisCompletion) : Prop :=
  completion.state.isTerminal = true ∧ 0 ≤ completion.operationCount ∧
    0 ≤ completion.plannedBytes ∧ completion.reasonCode ≠ ""

theorem completeBackupAnalysis_running {requestId completedUtc : String}
    {completion : AnalysisCompletion} {row : BackupAnalysisRequest} (hvalid : completion.Valid)
    (hload : loadBackupAnalysisRequest rows requestId = some row)
    (hrunning : row.state = .running) :
    (completeBackupAnalysis rows requestId completion completedUtc).isOk = true := by
  obtain ⟨hterminal, hoperations, hbytes, hreason⟩ := hvalid
  unfold completeBackupAnalysis
  rw [hload]
  simp [hterminal, hrunning, hreason, Int.not_lt.mpr hoperations, Int.not_lt.mpr hbytes,
    Except.isOk, Except.toBool]

theorem sanitizedFailureReason_ne (error : String) : sanitizedFailureReason error ≠ "" := by
  unfold sanitizedFailureReason
  split
  · rename_i h
    simp only [Bool.and_eq_true, decide_eq_true_eq] at h
    exact h.1.1
  · decide

theorem failedCompletion_valid (error : String) : (failedCompletion error).Valid :=
  ⟨rfl, Int.le_refl 0, Int.le_refl 0, sanitizedFailureReason_ne error⟩

end MediaSync.Jobs
