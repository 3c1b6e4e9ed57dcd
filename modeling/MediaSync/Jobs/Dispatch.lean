import MediaSync.Jobs.Editing
import MediaSync.Jobs.Worker
import MediaSync.Runs.Receipts

/-! Each dispatcher runs in one catalog transaction: it records the command's receipt, or finds the
one of an earlier delivery, applies the command and settles the receipt. -/
namespace MediaSync.Jobs
open Runs Triggers

structure EnvelopeIdentity where
  clientInstanceId : String
  principalFingerprint : String
  expectedEntityRevision : Option Int := none
  payloadHashScope : String := "PAYLOAD_ONLY"
  payloadCanonicalizationAlgorithm : String := "JCS-RFC8785"
  payloadHashAlgorithm : String := "BLAKE3-256"
  payloadHash : String
  protocolVersion : Int
  schemaVersion : Int
  deriving DecidableEq

/-- `CommandReceipt`, with the fields that only the dispatchers read. -/
structure JobReceipt extends CommandReceipt where
  identity : EnvelopeIdentity
  rejectionReason : Option String := none
  deriving DecidableEq

def JobReceipt.key (receipt : JobReceipt) : String := receipt.idempotencyKey

def receiptFromEnvelope (requestId idempotencyKey commandName : String)
    (identity : EnvelopeIdentity) : JobReceipt where
  idempotencyKey := idempotencyKey
  requestId := requestId
  commandName := commandName
  state := .received
  resultEntityType := none
  resultEntityId := none
  identity := identity

def recordReceived (receipts : List JobReceipt) (incoming : JobReceipt) :
    Except String (List JobReceipt × JobReceipt) :=
  match Table.lookup JobReceipt.key receipts incoming.key with
  | some existing =>
    if existing.commandName ≠ incoming.commandName ∨ existing.identity ≠ incoming.identity then
      .error "COMMAND_IDEMPOTENCY_CONFLICT"
    else .ok (receipts, existing)
  | none => .ok (Table.insert receipts incoming, incoming)

def JobReceipt.rejected (receipt : JobReceipt) (rejectionReason : String) : JobReceipt :=
  { receipt with state := .rejected, rejectionReason := some rejectionReason }

def JobReceipt.prepared (receipt : JobReceipt) (resultEntityType resultEntityId : String) :
    JobReceipt :=
  { receipt with
    state := .effectPrepared
    resultEntityType := some resultEntityType
    resultEntityId := some resultEntityId }

def JobReceipt.succeeded (receipt : JobReceipt) (resultEntityType resultEntityId : String) :
    JobReceipt :=
  { receipt.prepared resultEntityType resultEntityId with state := .succeeded }

/-- `JobLifecycleCommandName`'s values. -/
def JobLifecycleCommandName.value : JobLifecycleCommandName → String
  | .archive => "ARCHIVE_STANDARD_BACKUP_JOB"
  | .delete => "DELETE_STANDARD_BACKUP_JOB"
  | .reactivate => "REACTIVATE_STANDARD_BACKUP_JOB"

def lifecycleCommandNames : List String :=
  [JobLifecycleCommandName.archive, .delete, .reactivate].map (·.value)

def JobLifecycleCommandName.resultEntityType : JobLifecycleCommandName → String
  | .delete => "job_deletion"
  | _ => "job_lifecycle_event"

inductive Answer (Outcome : Type) where
  | conflict
  | accepted (outcome : Outcome)
  | rejected (reason : String) (outcome : Outcome)
  deriving DecidableEq

structure Desk where
  catalog : JobCatalog
  triggers : TriggerTables
  receipts : List JobReceipt

namespace Desk

variable (d : Desk)

def settle (receipts : List JobReceipt) (receipt : JobReceipt) : Desk :=
  { d with receipts := Table.overwrite JobReceipt.key receipts receipt }

/-- `_record_terminal_rejected_receipt`, while mutating commands are disabled. -/
def recordGateClosed (incoming : JobReceipt) : Desk :=
  match recordReceived d.receipts incoming with
  | .error _ => d
  | .ok (receipts, receipt) =>
    if receipt.state ≠ .received then d
    else d.settle receipts (receipt.rejected "MUTATING_COMMANDS_DISABLED")

def requestOfReactivation (command : ChangeJobLifecycleCommand) (record : JobLifecycleRecord)
    (occurredUtc : String) : BackupAnalysisRequest where
  requestId := command.requestId
  commandIdempotencyKey := command.idempotencyKey
  jobId := record.jobId
  jobRevisionId := record.jobRevisionId
  state := .queued
  requestedUtc := occurredUtc
  startWhenSafe := false

def requestsAfter (name : JobLifecycleCommandName) (command : ChangeJobLifecycleCommand)
    (record : JobLifecycleRecord) (occurredUtc : String) (requests : List BackupAnalysisRequest) :
    Except String (List BackupAnalysisRequest) :=
  match name with
  | .reactivate =>
    (enqueueBackupAnalysis requests (requestOfReactivation command record occurredUtc)).map
      Prod.fst
  | _ => .ok requests

variable (host : SchedulerContext)

/-- `_dispatch_job_lifecycle_in_transaction` for a receipt that has just been recorded. -/
def applyJobLifecycle (name : JobLifecycleCommandName) (command : ChangeJobLifecycleCommand)
    (occurredUtc : String) (receipts : List JobReceipt) (receipt : JobReceipt) :
    Except String (Desk × Answer JobLifecycleTransitionOutcome) := do
  let (catalog, outcome) ← d.catalog.changeLifecycle host name command occurredUtc
  match outcome.applied, outcome.record with
  | true, some record => do
    let requests ← requestsAfter name command record occurredUtc catalog.requests
    return (({ d with catalog := { catalog with requests } } : Desk).settle receipts
      (receipt.succeeded name.resultEntityType command.requestId), .accepted outcome)
  | _, _ =>
    let reason := "COMMAND_PRECONDITION_FAILED"
    return (({ d with catalog } : Desk).settle receipts (receipt.rejected reason),
      .rejected reason outcome)

def replayJobLifecycle (name : JobLifecycleCommandName) (command : ChangeJobLifecycleCommand)
    (occurredUtc : String) (receipt : JobReceipt) :
    Except String (Desk × Answer JobLifecycleTransitionOutcome) := do
  let (catalog, outcome) ← d.catalog.changeLifecycle host name command occurredUtc
  if receipt.state = .rejected then
    return ({ d with catalog },
      .rejected (receipt.rejectionReason.getD "COMMAND_PRECONDITION_FAILED") outcome)
  else return ({ d with catalog }, .accepted outcome)

def dispatchJobLifecycle (name : JobLifecycleCommandName) (command : ChangeJobLifecycleCommand)
    (identity : EnvelopeIdentity) (occurredUtc : String) :
    Except String (Desk × Answer JobLifecycleTransitionOutcome) :=
  match recordReceived d.receipts
      (receiptFromEnvelope command.requestId command.idempotencyKey name.value identity) with
  | .error _ => .ok (d, .conflict)
  | .ok (receipts, receipt) =>
    if receipt.state ≠ .received then d.replayJobLifecycle host name command occurredUtc receipt
    else d.applyJobLifecycle host name command occurredUtc receipts receipt

end Desk

/-- A row of `load_standard_backup_job_detail`: the head of a job that is not deleted, with its
lifecycle state. -/
def JobCatalog.loadStandardBackupJobDetail (c : JobCatalog) (jobId : String) :
    Option (SealedStandardBackupJob × JobLifecycleState) := do
  let row ← c.loadJobRow jobId
  let job ← c.loadRevision jobId row.activeRevisionId
  if c.isDeleted jobId then none else some (job, if row.archived then .archived else .active)

structure CheckBackupCommand where
  requestId : String
  idempotencyKey : String
  jobId : String
  startWhenSafe : Bool := false
  deriving DecidableEq

inductive ScheduleTriggerResolution where
  | ready (schedule : ScheduleDefinition)
  | notFound
  | disabled
  | revisionMismatch
  deriving DecidableEq

structure TriggerRunEnqueueOutcome where
  enqueued : Bool := false
  deduplicated : Bool := false
  compacted : Bool := false
  validationCode : Option String := none
  occurrence : Option TriggerOccurrence := none
  analysisRequest : Option BackupAnalysisRequest := none
  deriving DecidableEq

namespace JobCatalog

variable (c : JobCatalog)

def resolveScheduleForTrigger (scheduleId scheduleRevisionHash : String) :
    ScheduleTriggerResolution :=
  match Table.lookup ScheduleDefinition.scheduleId c.schedules scheduleId with
  | none => .notFound
  | some schedule =>
    if !schedule.enabled then .disabled
    else if schedule.desiredDefinitionHash ≠ scheduleRevisionHash then .revisionMismatch
    else .ready schedule

/-- The gates of `enqueue_trigger_occurrence_analysis`: the schedule and the job's head, or the
code of the refusal. -/
def admitTrigger (command : EnqueueTriggerOccurrenceCommand) :
    Except String (ScheduleDefinition × SealedStandardBackupJob) :=
  match c.resolveScheduleForTrigger command.scheduleId command.scheduleRevisionHash with
  | .notFound => .error "TRIGGER_SCHEDULE_NOT_FOUND"
  | .disabled => .error "TRIGGER_SCHEDULE_DISABLED"
  | .revisionMismatch => .error "TRIGGER_SCHEDULE_REVISION_MISMATCH"
  | .ready schedule =>
    if schedule.triggerType ≠ command.delivery.triggerKind then
      .error "TRIGGER_SCHEDULE_KIND_MISMATCH"
    else
      match c.loadStandardBackupJobDetail schedule.jobId with
      | none => .error "TRIGGER_JOB_NOT_FOUND"
      | some (job, state) =>
        if state ≠ .active then .error "TRIGGER_JOB_ARCHIVED" else .ok (schedule, job)

end JobCatalog

def requestOfOccurrence (occurrence : TriggerOccurrence) (job : SealedStandardBackupJob)
    (observedStartUtc : String) : BackupAnalysisRequest where
  requestId := occurrence.occurrenceId
  commandIdempotencyKey := occurrence.firstDeliveryId
  jobId := job.jobId
  jobRevisionId := job.jobRevisionId
  state := .queued
  requestedUtc := observedStartUtc
  startWhenSafe := true

namespace Desk

variable (d : Desk)

/-- `enqueue_trigger_occurrence_analysis` behind its gates. -/
def enqueueAdmitted (installationId : String) (command : EnqueueTriggerOccurrenceCommand)
    (schedule : ScheduleDefinition) (job : SealedStandardBackupJob) :
    Except String (Desk × TriggerRunEnqueueOutcome) := do
  let built ← buildTriggerOccurrence installationId schedule.jobId command
  let (triggers, registration) ← d.triggers.recordReceived built
  let occurrence := registration.occurrence
  if occurrence.state.isTerminal then
    return ({ d with triggers }, {
      deduplicated := registration.deduplicated
      compacted := registration.compacted
      validationCode := some "TRIGGER_OCCURRENCE_ALREADY_TERMINAL"
      occurrence := some occurrence })
  else
    let (requests, request) ← enqueueBackupAnalysis d.catalog.requests
      (requestOfOccurrence occurrence job command.delivery.observedStartUtc)
    return ({ d with triggers, catalog := { d.catalog with requests } }, {
      enqueued := true
      deduplicated := registration.deduplicated
      compacted := registration.compacted
      occurrence := some occurrence
      analysisRequest := some request })

def enqueueTriggerOccurrenceAnalysis (installationId : String)
    (command : EnqueueTriggerOccurrenceCommand) : Except String (Desk × TriggerRunEnqueueOutcome) :=
  match d.catalog.admitTrigger command with
  | .error code => .ok (d, { validationCode := some code })
  | .ok (schedule, job) => d.enqueueAdmitted installationId command schedule job

def replayAnswer {Outcome : Type} (receipt : JobReceipt) (outcome : Outcome) : Answer Outcome :=
  if receipt.state = .rejected then
    .rejected (receipt.rejectionReason.getD "COMMAND_PRECONDITION_FAILED") outcome
  else .accepted outcome

def dispatchTriggerOccurrence (installationId : String)
    (command : EnqueueTriggerOccurrenceCommand) (identity : EnvelopeIdentity) :
    Except String (Desk × Answer TriggerRunEnqueueOutcome) :=
  match recordReceived d.receipts (receiptFromEnvelope command.requestId command.idempotencyKey
      "ENQUEUE_TRIGGER_OCCURRENCE" identity) with
  | .error _ => .ok (d, .conflict)
  | .ok (receipts, receipt) =>
    if receipt.state ≠ .received then
      let request := receipt.resultEntityId.bind (loadBackupAnalysisRequest d.catalog.requests)
      .ok (d, replayAnswer receipt {
        enqueued := receipt.state = .succeeded
        analysisRequest := request })
    else do
      let (desk, outcome) ← d.enqueueTriggerOccurrenceAnalysis installationId command
      match outcome.analysisRequest with
      | some request => return (desk.settle receipts
          (receipt.succeeded "backup_analysis_request" request.requestId), .accepted outcome)
      | none =>
        let reason := "COMMAND_PRECONDITION_FAILED"
        return (desk.settle receipts (receipt.rejected reason), .rejected reason outcome)

def checkable (jobId : String) : Option SealedStandardBackupJob :=
  if d.catalog.isActive jobId && (d.catalog.loadActiveRunForJob jobId).isNone then
    (d.catalog.loadStandardBackupJobDetail jobId).map Prod.fst
  else none

def dispatchCheckBackup (command : CheckBackupCommand) (identity : EnvelopeIdentity)
    (requestedUtc : String) : Except String (Desk × Answer (Option BackupAnalysisRequest)) :=
  match recordReceived d.receipts (receiptFromEnvelope command.requestId command.idempotencyKey
      "CHECK_BACKUP" identity) with
  | .error _ => .ok (d, .conflict)
  | .ok (receipts, receipt) =>
    if receipt.state ≠ .received then
      .ok (d, replayAnswer receipt
        (receipt.resultEntityId.bind (loadBackupAnalysisRequest d.catalog.requests)))
    else
      match d.checkable command.jobId with
      | none =>
        let reason := "COMMAND_PRECONDITION_FAILED"
        .ok (d.settle receipts (receipt.rejected reason), .rejected reason none)
      | some job => do
        let (requests, request) ← enqueueBackupAnalysis d.catalog.requests {
          requestId := command.requestId
          commandIdempotencyKey := command.idempotencyKey
          jobId := job.jobId
          jobRevisionId := job.jobRevisionId
          state := .queued
          requestedUtc
          startWhenSafe := command.startWhenSafe }
        return (({ d with catalog := { d.catalog with requests } } : Desk).settle receipts
          (receipt.succeeded "backup_analysis_request" request.requestId), .accepted (some request))

/-- `_dispatch_start_run_in_transaction`; the receipt is accepted when the handoff advances. -/
def dispatchStartRun (command : StartRunCommand) (identity : EnvelopeIdentity)
    (plan : Option StartablePlan) (runId : String) (recorded : Except String Unit) :
    Except String (Desk × Answer RunStartOutcome) :=
  match recordReceived d.receipts (receiptFromEnvelope command.requestId command.idempotencyKey
      "START_RUN" identity) with
  | .error _ => .ok (d, .conflict)
  | .ok (receipts, receipt) =>
    if receipt.state ≠ .received then
      .ok (d, replayAnswer receipt {
        idempotentReplay := true
        run := d.catalog.loadStartedRunByIdempotencyKey command.idempotencyKey })
    else do
      let (catalog, outcome) ← d.catalog.prepareRun command plan true runId recorded
      match outcome.run with
      | none =>
        let reason := "COMMAND_PRECONDITION_FAILED"
        return (({ d with catalog } : Desk).settle receipts (receipt.rejected reason),
          .rejected reason outcome)
      | some run => return (({ d with catalog } : Desk).settle receipts
          (receipt.prepared "run" run.runId), .accepted outcome)

end Desk

section
variable {receipts receipts' : List JobReceipt} {incoming receipt : JobReceipt}

theorem recordReceived_cases (h : recordReceived receipts incoming = .ok (receipts', receipt)) :
    (receipts' = receipts ∧ Table.lookup JobReceipt.key receipts incoming.key = some receipt ∧
        receipt.commandName = incoming.commandName ∧ receipt.identity = incoming.identity) ∨
      (Table.lookup JobReceipt.key receipts incoming.key = none ∧
        receipts' = Table.insert receipts incoming ∧ receipt = incoming) := by
  unfold recordReceived at h
  split at h
  · rename_i existing hload
    split at h
    · cases h
    · rename_i hsame
      obtain ⟨rfl, rfl⟩ := Prod.mk.inj (Except.ok.inj h)
      rw [not_or, not_not, not_not] at hsame
      exact .inl ⟨rfl, hload, hsame.1, hsame.2⟩
  · rename_i hload
    obtain ⟨rfl, rfl⟩ := Prod.mk.inj (Except.ok.inj h)
    exact .inr ⟨hload, rfl, rfl⟩

theorem recordReceived_conflict {code : String}
    (h : recordReceived receipts incoming = .error code) :
    ∃ existing, Table.lookup JobReceipt.key receipts incoming.key = some existing := by
  unfold recordReceived at h
  split at h
  · exact ⟨_, by assumption⟩
  · cases h

theorem recordReceived_found
    (hload : Table.lookup JobReceipt.key receipts incoming.key = some receipt)
    (hname : receipt.commandName = incoming.commandName)
    (hidentity : receipt.identity = incoming.identity) :
    recordReceived receipts incoming = .ok (receipts, receipt) := by
  unfold recordReceived
  rw [hload]
  simp [hname, hidentity]

def KeepsReceipts (receipts receipts' : List JobReceipt) : Prop :=
  ∀ key receipt, Table.lookup JobReceipt.key receipts key = some receipt →
    receipt.state ≠ .received → lifecycleCommandNames.contains receipt.commandName = true →
    Table.lookup JobReceipt.key receipts' key = some receipt

theorem KeepsReceipts.refl : KeepsReceipts receipts receipts := fun _ _ hload _ _ => hload

variable {settled : JobReceipt}

theorem KeepsReceipts.settle (h : recordReceived receipts incoming = .ok (receipts', receipt))
    (hreceived : receipt.state = .received) (hkey : settled.key = incoming.key) :
    KeepsReceipts receipts (Table.overwrite JobReceipt.key receipts' settled) := by
  intro key found hload hsettled _
  rcases recordReceived_cases h with ⟨rfl, hfound, -, -⟩ | ⟨hnone, rfl, -⟩
  · have hne : settled.key ≠ key := by
      rintro rfl
      obtain rfl := Option.some.inj ((hkey ▸ hload).symm.trans hfound)
      exact hsettled hreceived
    rwa [Table.lookup_overwrite_other hne]
  · have hne : settled.key ≠ key := by
      rintro rfl
      rw [hkey, hnone] at hload
      cases hload
    rw [Table.lookup_overwrite_other hne]
    exact Table.lookup_insert_of_some hload

theorem lookup_settled (h : recordReceived receipts incoming = .ok (receipts', receipt))
    (hkey : settled.key = incoming.key) :
    Table.lookup JobReceipt.key (Table.overwrite JobReceipt.key receipts' settled) incoming.key =
      some settled := by
  have hfound : ∃ row, Table.lookup JobReceipt.key receipts' settled.key = some row := by
    rcases recordReceived_cases h with ⟨rfl, hfound, -, -⟩ | ⟨hnone, rfl, -⟩
    · exact ⟨receipt, hkey ▸ hfound⟩
    · exact ⟨incoming, hkey ▸ Table.lookup_insert_self hnone⟩
  obtain ⟨row, hrow⟩ := hfound
  rw [← hkey]
  exact Table.lookup_overwrite_self hrow

theorem lookup_settled_other {key : String}
    (h : recordReceived receipts incoming = .ok (receipts', receipt))
    (hkey : settled.key = incoming.key) (hne : incoming.key ≠ key) :
    Table.lookup JobReceipt.key (Table.overwrite JobReceipt.key receipts' settled) key =
      Table.lookup JobReceipt.key receipts key := by
  rw [Table.lookup_overwrite_other (hkey.symm ▸ hne)]
  rcases recordReceived_cases h with ⟨rfl, -, -, -⟩ | ⟨-, rfl, -⟩
  · rfl
  · exact Table.lookup_insert_other hne

theorem received_of_fresh
    (hfresh : Table.lookup JobReceipt.key receipts incoming.key = none)
    (h : recordReceived receipts incoming = .ok (receipts', receipt)) : receipt = incoming := by
  rcases recordReceived_cases h with ⟨-, hfound, -, -⟩ | ⟨-, -, hsame⟩
  · rw [hfresh] at hfound
    cases hfound
  · exact hsame

theorem recordReceived_key (h : recordReceived receipts incoming = .ok (receipts', receipt)) :
    receipt.key = incoming.key := by
  rcases recordReceived_cases h with ⟨-, hfound, -, -⟩ | ⟨-, -, rfl⟩
  · exact Table.lookup_key hfound
  · rfl

end

end MediaSync.Jobs
