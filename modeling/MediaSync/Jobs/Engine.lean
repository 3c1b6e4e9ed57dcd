import MediaSync.Jobs.RootClaims
import MediaSync.Jobs.Dispatch

/-! The dispatchers' threads and the maintenance thread, one transaction at a time: commands in any
order between any two steps of an analysis, runs that move on, occurrences that are compacted, and
restarts that queue the interrupted analyses again. -/
namespace MediaSync.Jobs
open Runs Transition Triggers

structure LifecycleAnswer where
  name : JobLifecycleCommandName
  idempotencyKey : String
  identity : EnvelopeIdentity
  answer : Answer JobLifecycleTransitionOutcome
  deriving DecidableEq

structure JobEngine where
  desk : Desk
  worker : Worker := .idle
  answers : List LifecycleAnswer := []

inductive JobStep where
  | lifecycle (name : JobLifecycleCommandName) (command : ChangeJobLifecycleCommand)
      (identity : EnvelopeIdentity) (occurredUtc : String)
  | gateClosed (requestId idempotencyKey commandName : String) (identity : EnvelopeIdentity)
  | otherReceipt (receipt : JobReceipt)
  | saveJob (command : JobCommand)
  | saveSchedules (schedules : List ScheduleDefinition)
  | checkBackup (command : CheckBackupCommand) (identity : EnvelopeIdentity)
      (requestedUtc : String)
  | trigger (command : EnqueueTriggerOccurrenceCommand) (identity : EnvelopeIdentity)
  | startRun (requestId idempotencyKey planId planChecksum : String)
      (identity : EnvelopeIdentity) (plan : Option StartablePlan) (runId : String)
      (recorded : Except String Unit)
  | claim (startedUtc : String)
  | lookForActiveRun
  | analyse (reports : Except String AnalysisReports)
  | safeStart (runId : String) (recorded advanced : Except String Unit)
  | complete (completedUtc : String)
  | report
  | moveRun (runId : String) (state : RunState) (targets : List RunTargetState)
      (warningCount errorCount : Int)
  | reconcileRun (occurrenceId : String)
  | compact (deduplicationKey : String)
  | restart

def remember (receipts : List JobReceipt) (answers : List LifecycleAnswer)
    (name : JobLifecycleCommandName) (idempotencyKey : String) (identity : EnvelopeIdentity)
    (answer : Answer JobLifecycleTransitionOutcome) : List LifecycleAnswer :=
  if (Table.lookup JobReceipt.key receipts idempotencyKey).isSome then answers
  else answers ++ [⟨name, idempotencyKey, identity, answer⟩]

namespace JobEngine

variable (py : PathLibrary) (host : SchedulerContext) (installationId : String) (s : JobEngine)

def atDesk {α : Type} (result : Except String (Desk × α)) : JobEngine :=
  match result with
  | .ok (desk, _) => { s with desk }
  | .error _ => s

def lifecycle (name : JobLifecycleCommandName) (command : ChangeJobLifecycleCommand)
    (identity : EnvelopeIdentity) (occurredUtc : String) : JobEngine :=
  match s.desk.dispatchJobLifecycle host name command identity occurredUtc with
  | .error _ => s
  | .ok (desk, answer) => { s with
      desk
      answers := remember s.desk.receipts s.answers name command.idempotencyKey identity answer }

def otherReceipt (receipt : JobReceipt) : Option JobEngine :=
  if lifecycleCommandNames.contains receipt.commandName then none
  else
    match Table.lookup JobReceipt.key s.desk.receipts receipt.key with
    | none =>
      some { s with desk := { s.desk with receipts := Table.insert s.desk.receipts receipt } }
    | some existing =>
      if lifecycleCommandNames.contains existing.commandName then none
      else some { s with desk := s.desk.settle s.desk.receipts receipt }

/-- `claim_next_backup_analysis` by an idle worker. -/
def claim (startedUtc : String) : Option JobEngine :=
  match s.worker with
  | .idle =>
    match claimNextBackupAnalysis s.desk.catalog.requests s.desk.catalog.isActive startedUtc with
    | none => some s
    | some (requests, request) => some { s with
        desk := { s.desk with catalog := { s.desk.catalog with requests } }
        worker := .claimed request }
  | _ => none

def lookForActiveRun : Option JobEngine :=
  match s.worker with
  | .claimed request =>
    match s.desk.catalog.loadActiveRunForJob request.jobId with
    | some active =>
      some { s with worker := .completing request (request.completionOfActive active) false }
    | none => some { s with worker := .analysing request }
  | _ => none

def analyse (reports : Except String AnalysisReports) : Option JobEngine :=
  match s.worker, reports with
  | .analysing request, .error error =>
    some { s with worker := .completing request (failedCompletion error) false }
  | .analysing request, .ok reports =>
    match request.conclude reports with
    | .complete completion => some { s with worker := .completing request completion true }
    | .start plan result =>
      if plan.jobId ≠ request.jobId then none
      else some { s with worker := .starting request plan result }
  | _, _ => none

def safeStart (runId : String) (recorded advanced : Except String Unit) : Option JobEngine :=
  match s.worker with
  | .starting request plan result =>
    match s.desk.catalog.prepareRun (request.safeStartCommand plan) (some plan) false runId
        recorded with
    | .error error =>
      some { s with worker := .completing request (failedCompletion error) false }
    | .ok (catalog, outcome) =>
      let started : JobEngine := { s with desk := { s.desk with catalog } }
      match outcome.run, advanced with
      | some _, .error error =>
        some { started with worker := .completing request (failedCompletion error) false }
      | _, _ => some { started with
          worker := .completing request (request.completionAfterStart result outcome) true }
  | _ => none

/-- `_complete_request`; a guarded completion that raises is followed by a failed one. -/
def complete (completedUtc : String) : Option JobEngine :=
  match s.worker with
  | .completing request completion guarded =>
    match completeBackupAnalysis s.desk.catalog.requests request.requestId completion
        completedUtc with
    | .ok (requests, completed) => some { s with
        desk := { s.desk with catalog := { s.desk.catalog with requests } }
        worker := .reporting completed }
    | .error error =>
      if guarded then
        some { s with worker := .completing request (failedCompletion error) false }
      else some { s with worker := .idle }
  | _ => none

/-- `_reconcile_trigger_analysis`, then the end of the cycle. -/
def report : Option JobEngine :=
  match s.worker with
  | .reporting request =>
    match reconcileTriggerAnalysis s.desk.triggers request with
    | .ok triggers => some { s with desk := { s.desk with triggers }, worker := .idle }
    | .error _ => some { s with worker := .idle }
  | _ => none

def moveRun (runId : String) (state : RunState) (targets : List RunTargetState)
    (warningCount errorCount : Int) : Option JobEngine :=
  match s.desk.catalog.loadStartedRun runId with
  | none => none
  | some run =>
    if !run.isBlocking then none
    else
      let moved := { run with state, targets, warningCount, errorCount }
      let runs := Table.overwrite StartedRun.runId s.desk.catalog.runs moved
      some { s with desk := { s.desk with catalog := { s.desk.catalog with runs } } }

def maxTriggerRunReconciliationBatch : Nat := 100

/-- A turn of `_reconcile_terminal_trigger_runs` on a listed occurrence. -/
def reconcileRun (occurrenceId : String) : Option JobEngine :=
  match (s.desk.triggers.listRunEnqueued maxTriggerRunReconciliationBatch).find? fun occurrence =>
      occurrence.occurrenceId = occurrenceId with
  | none => none
  | some occurrence =>
    match reconcileTerminalTriggerRun s.desk.catalog s.desk.triggers occurrence with
    | .ok triggers => some { s with desk := { s.desk with triggers } }
    | .error _ => some s

/-- `compact_terminal_trigger_occurrence`. -/
def compact (deduplicationKey : String) : Option JobEngine :=
  match s.desk.triggers.compactTerminal deduplicationKey with
  | .ok triggers => some { s with desk := { s.desk with triggers } }
  | .error _ => some s

/-- The end of the process and `requeue_interrupted_backup_analyses` of the next one. -/
def restart : JobEngine :=
  let requests := requeueInterruptedBackupAnalyses s.desk.catalog.requests
  { s with desk := { s.desk with catalog := { s.desk.catalog with requests } }, worker := .idle }

def saveJob : JobCommand → Option JobEngine
  | .create command draft ids =>
    let catalog := performCommand py host s.desk.catalog (.create command draft ids)
    some { s with desk := { s.desk with catalog } }
  | .edit command revisionId =>
    let catalog := performCommand py host s.desk.catalog (.edit command revisionId)
    some { s with desk := { s.desk with catalog } }
  | _ => none

/-- `save_schedule` validates the id of the job. -/
def saveSchedules (schedules : List ScheduleDefinition) : Option JobEngine :=
  if !schedules.all fun schedule => isIdentifier schedule.jobId then none
  else some { s with desk := { s.desk with catalog := { s.desk.catalog with schedules } } }

def step : JobStep → Option JobEngine
  | .lifecycle name command identity occurredUtc =>
    some (s.lifecycle host name command identity occurredUtc)
  | .gateClosed requestId idempotencyKey commandName identity =>
    let incoming := receiptFromEnvelope requestId idempotencyKey commandName identity
    some { s with desk := s.desk.recordGateClosed incoming }
  | .otherReceipt receipt => s.otherReceipt receipt
  | .saveJob command => s.saveJob py host command
  | .saveSchedules schedules => s.saveSchedules schedules
  | .checkBackup command identity requestedUtc =>
    some (s.atDesk (s.desk.dispatchCheckBackup command identity requestedUtc))
  | .trigger command identity =>
    some (s.atDesk (s.desk.dispatchTriggerOccurrence installationId command identity))
  | .startRun requestId idempotencyKey planId planChecksum identity plan runId recorded =>
    let command := parseStartRunCommand requestId idempotencyKey planId planChecksum
    some (s.atDesk (s.desk.dispatchStartRun command identity plan runId recorded))
  | .claim startedUtc => s.claim startedUtc
  | .lookForActiveRun => s.lookForActiveRun
  | .analyse reports => s.analyse reports
  | .safeStart runId recorded advanced => s.safeStart runId recorded advanced
  | .complete completedUtc => s.complete completedUtc
  | .report => s.report
  | .moveRun runId state targets warningCount errorCount =>
    s.moveRun runId state targets warningCount errorCount
  | .reconcileRun occurrenceId => s.reconcileRun occurrenceId
  | .compact deduplicationKey => s.compact deduplicationKey
  | .restart => some s.restart

end JobEngine

def jobEngine (py : PathLibrary) (host : SchedulerContext) (installationId : String) :
    System JobEngine JobStep where
  init s := s = { desk := { catalog := {}, triggers := ⟨[], []⟩, receipts := [] } }
  step s l := s.step py host installationId l

end MediaSync.Jobs
