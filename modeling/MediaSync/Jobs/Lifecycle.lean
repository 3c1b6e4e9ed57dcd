import MediaSync.Jobs.Catalog

/-! A job is archived, reactivated or deleted by commands that name the revision and the lifecycle
version they were made for. -/
namespace MediaSync.Jobs
open Runs

inductive JobLifecycleCommandName where
  | archive
  | delete
  | reactivate
  deriving DecidableEq

structure ChangeJobLifecycleCommand where
  requestId : String
  idempotencyKey : String
  jobId : String
  expectedJobRevisionId : String
  expectedLifecycleRowVersion : Nat
  deriving DecidableEq

structure JobLifecycleTransitionOutcome where
  applied : Bool
  validationCode : String
  nextAction : String
  record : Option JobLifecycleRecord := none
  disabledScheduleCount : Nat := 0
  analysisRequestId : Option String := none
  idempotentReplay : Bool := false
  deriving DecidableEq

structure SchedulerContext where
  executablePath : Option String
  definitionHash : ScheduleDefinition → String

def refused (validationCode nextAction : String) (record : Option JobLifecycleRecord) :
    JobLifecycleTransitionOutcome := { applied := false, validationCode, nextAction, record }

def validateVersions (current : Option JobLifecycleRecord) (command : ChangeJobLifecycleCommand)
    (refresh : String) : Except JobLifecycleTransitionOutcome JobLifecycleRecord :=
  match current with
  | none => .error (refused "JOB_LIFECYCLE_JOB_NOT_FOUND"
      "Refresh the Jobs view and choose an existing job." none)
  | some current =>
    if current.jobRevisionId ≠ command.expectedJobRevisionId then
      .error (refused "JOB_LIFECYCLE_REVISION_STALE" refresh (some current))
    else if current.rowVersion ≠ command.expectedLifecycleRowVersion then
      .error (refused "JOB_LIFECYCLE_VERSION_STALE" refresh (some current))
    else .ok current

def validateTransition (current : Option JobLifecycleRecord)
    (command : ChangeJobLifecycleCommand) (expectedState : JobLifecycleState) :
    Except JobLifecycleTransitionOutcome JobLifecycleRecord := do
  let refresh := "Refresh the job before changing its lifecycle."
  let current ← validateVersions current command refresh
  if current.state ≠ expectedState then
    .error (refused "JOB_LIFECYCLE_STATE_CHANGED" refresh (some current))
  else .ok current

def validateDeletion (current : Option JobLifecycleRecord)
    (command : ChangeJobLifecycleCommand) :
    Except JobLifecycleTransitionOutcome JobLifecycleRecord := do
  let current ← validateVersions current command "Refresh the job before deleting it."
  if current.state = .deleted then
    .error (refused "JOB_ALREADY_DELETED" "Refresh the Jobs view." (some current))
  else .ok current

namespace JobCatalog

variable (host : SchedulerContext) (c : JobCatalog)

def blockingRunState (jobId : String) : Option RunState :=
  (c.runs.reverse.find? fun run => run.jobId = jobId && run.isBlocking).map (·.state)

def disableEnabledSchedules (jobId codePrefix : String) : Except String (JobCatalog × Nat) :=
  let enabled := c.schedules.filter fun schedule => schedule.jobId = jobId && schedule.enabled
  if enabled.isEmpty then .ok (c, 0)
  else if !Text.someNonBlank host.executablePath then
    .error (codePrefix ++ "_SCHEDULER_CONTEXT_UNAVAILABLE")
  else
    let disable := fun (schedule : ScheduleDefinition) =>
      let disabled := { schedule with
        enabled := false
        definitionGeneration := schedule.definitionGeneration + 1
        rowVersion := schedule.rowVersion + 1 }
      { disabled with desiredDefinitionHash := host.definitionHash disabled }
    let schedules := Table.updateWhere c.schedules
      (fun schedule => schedule.jobId = jobId && schedule.enabled) disable
    .ok ({ c with schedules }, enabled.length)

structure Ending where
  codePrefix : String
  activeRunAction : String
  recoveryAction : String
  blockedReason : String

def archiving : Ending where
  codePrefix := "JOB_ARCHIVE"
  activeRunAction := "Wait for the active backup to finish or stop it safely."
  recoveryAction := "Resolve recovery before archiving this job."
  blockedReason := "BACKUP_ANALYSIS_JOB_ARCHIVED"

def deleting : Ending where
  codePrefix := "JOB_DELETE"
  activeRunAction := "Wait for the active backup to finish or stop it safely."
  recoveryAction := "Resolve recovery before deleting this job."
  blockedReason := "BACKUP_ANALYSIS_JOB_DELETED"

def endable (ending : Ending) (current : JobLifecycleRecord) :
    Except JobLifecycleTransitionOutcome (JobCatalog × Nat) :=
  match c.blockingRunState current.jobId with
  | some .recoveryRequired => .error (refused (ending.codePrefix ++ "_RECOVERY_REQUIRED")
      ending.recoveryAction (some current))
  | some _ => .error (refused (ending.codePrefix ++ "_ACTIVE_RUN")
      ending.activeRunAction (some current))
  | none =>
    if c.hasRecoveryRequiredTarget current.jobId then
      .error (refused (ending.codePrefix ++ "_RECOVERY_REQUIRED") ending.recoveryAction
        (some current))
    else
      match c.disableEnabledSchedules host current.jobId ending.codePrefix with
      | .ok disabled => .ok disabled
      | .error code => .error (refused code
          "Restore Task Scheduler reconciliation context and retry." (some current))

def loadEventOutcome (idempotencyKey : String) : Option JobLifecycleTransitionOutcome :=
  (Table.lookup JobLifecycleEvent.commandIdempotencyKey c.events idempotencyKey).map fun event =>
    let archived := event.nextState = .archived
    { applied := true
      validationCode := if archived then "JOB_ARCHIVED" else "JOB_REACTIVATED_NEEDS_CHECK"
      nextAction :=
        if archived then "The job is archived; history and files are retained."
        else "Run the queued full check before starting another backup."
      record := some {
        jobId := event.jobId
        jobRevisionId := event.jobRevisionId
        state := event.nextState
        rowVersion := event.lifecycleRowVersion
        archivedUtc := if archived then some event.occurredUtc else none }
      disabledScheduleCount := event.disabledScheduleCount
      analysisRequestId := event.analysisRequestId }

def loadDeletionOutcome (idempotencyKey : String) : Option JobLifecycleTransitionOutcome :=
  (Table.lookup JobDeletion.commandIdempotencyKey c.deletions idempotencyKey).map fun deletion =>
    { applied := true
      validationCode := "JOB_DELETED"
      nextAction := "The job configuration was deleted; history and files are retained."
      record := some {
        jobId := deletion.jobId
        jobRevisionId := deletion.jobRevisionId
        state := .deleted
        rowVersion := deletion.lifecycleRowVersion }
      disabledScheduleCount := deletion.disabledScheduleCount }

/-- The row of a lifecycle command in `job_lifecycle_events`; a key or an id that is taken
aborts the transaction. -/
def recordEvent (event : JobLifecycleEvent) : Except String JobCatalog :=
  if c.events.any fun other => other.eventId = event.eventId ||
      other.commandIdempotencyKey = event.commandIdempotencyKey then
    .error "JOB_LIFECYCLE_EVENT_EXISTS"
  else .ok { c with events := Table.insert c.events event }

abbrev Answered := Except String (JobCatalog × JobLifecycleTransitionOutcome)

/-- `archive_standard_backup_job` after its checks. -/
def applyArchive (command : ChangeJobLifecycleCommand) (occurredUtc : String)
    (row : JobRow) (disabledScheduleCount : Nat) : Answered := do
  let archived := { row with
    archived := true
    archivedUtc := some occurredUtc
    lifecycleRowVersion := row.lifecycleRowVersion + 1 }
  let changed := { c with
    jobs := Table.overwrite JobRow.id c.jobs archived
    requests := blockAnalysesOfJob c.requests row.id archiving.blockedReason occurredUtc }
  let recorded ← changed.recordEvent {
    eventId := command.requestId
    jobId := row.id
    jobRevisionId := row.activeRevisionId
    commandRequestId := command.requestId
    commandIdempotencyKey := command.idempotencyKey
    previousState := .active
    nextState := .archived
    occurredUtc
    lifecycleRowVersion := archived.lifecycleRowVersion
    disabledScheduleCount
    analysisRequestId := none }
  return (recorded, {
    applied := true
    validationCode := "JOB_ARCHIVED"
    nextAction := "The job is archived; history and files are retained."
    record := changed.loadJobLifecycle row.id
    disabledScheduleCount })

/-- `reactivate_standard_backup_job` after its checks. -/
def applyReactivate (command : ChangeJobLifecycleCommand) (occurredUtc : String)
    (row : JobRow) : Answered := do
  let active := { row with
    archived := false
    archivedUtc := none
    lifecycleRowVersion := row.lifecycleRowVersion + 1 }
  let changed := { c with jobs := Table.overwrite JobRow.id c.jobs active }
  let recorded ← changed.recordEvent {
    eventId := command.requestId
    jobId := row.id
    jobRevisionId := row.activeRevisionId
    commandRequestId := command.requestId
    commandIdempotencyKey := command.idempotencyKey
    previousState := .archived
    nextState := .active
    occurredUtc
    lifecycleRowVersion := active.lifecycleRowVersion
    disabledScheduleCount := 0
    analysisRequestId := some command.requestId }
  return (recorded, {
    applied := true
    validationCode := "JOB_REACTIVATED_NEEDS_CHECK"
    nextAction := "Run the queued full check before starting another backup."
    record := changed.loadJobLifecycle row.id
    analysisRequestId := some command.requestId })

/-- `delete_standard_backup_job` after its checks. -/
def applyDelete (command : ChangeJobLifecycleCommand) (occurredUtc : String)
    (row : JobRow) (disabledScheduleCount : Nat) : Answered :=
  let deletion : JobDeletion := {
    jobId := row.id
    jobRevisionId := command.expectedJobRevisionId
    commandRequestId := command.requestId
    commandIdempotencyKey := command.idempotencyKey
    occurredUtc
    lifecycleRowVersion := row.lifecycleRowVersion + 1
    disabledScheduleCount }
  if c.deletions.any fun other => other.jobId = deletion.jobId ||
      other.commandRequestId = deletion.commandRequestId ||
      other.commandIdempotencyKey = deletion.commandIdempotencyKey then
    .error "JOB_DELETION_EXISTS"
  else
    let changed := { c with
      jobs := Table.overwrite JobRow.id c.jobs { row with
        lifecycleRowVersion := row.lifecycleRowVersion + 1 }
      deletions := Table.insert c.deletions deletion
      requests := blockAnalysesOfJob c.requests row.id deleting.blockedReason occurredUtc }
    .ok (changed, {
      applied := true
      validationCode := "JOB_DELETED"
      nextAction := "The job configuration was deleted; history and files are retained."
      record := changed.loadJobLifecycle row.id
      disabledScheduleCount })

def archiveStandardBackupJob (command : ChangeJobLifecycleCommand) (occurredUtc : String) :
    Answered :=
  match c.loadEventOutcome command.idempotencyKey with
  | some replay => .ok (c, { replay with idempotentReplay := true })
  | none =>
    match validateTransition (c.loadJobLifecycle command.jobId) command .active with
    | .error rejection => .ok (c, rejection)
    | .ok current =>
      match c.endable host archiving current, c.loadJobRow command.jobId with
      | .error rejection, _ => .ok (c, rejection)
      | .ok (disabled, count), some row => disabled.applyArchive command occurredUtc row count
      | .ok _, none => .error "JOB_LIFECYCLE_TRANSITION_CONFLICT"

def reactivateStandardBackupJob (command : ChangeJobLifecycleCommand) (occurredUtc : String) :
    Answered :=
  match c.loadEventOutcome command.idempotencyKey with
  | some replay => .ok (c, { replay with idempotentReplay := true })
  | none =>
    match validateTransition (c.loadJobLifecycle command.jobId) command .archived with
    | .error rejection => .ok (c, rejection)
    | .ok _ =>
      match c.loadJobRow command.jobId with
      | some row => c.applyReactivate command occurredUtc row
      | none => .error "JOB_LIFECYCLE_TRANSITION_CONFLICT"

def deleteStandardBackupJob (command : ChangeJobLifecycleCommand) (occurredUtc : String) :
    Answered :=
  match c.loadDeletionOutcome command.idempotencyKey with
  | some replay => .ok (c, { replay with idempotentReplay := true })
  | none =>
    match validateDeletion (c.loadJobLifecycle command.jobId) command with
    | .error rejection => .ok (c, rejection)
    | .ok current =>
      match c.endable host deleting current, c.loadJobRow command.jobId with
      | .error rejection, _ => .ok (c, rejection)
      | .ok (disabled, count), some row => disabled.applyDelete command occurredUtc row count
      | .ok _, none => .error "JOB_LIFECYCLE_TRANSITION_CONFLICT"

def changeLifecycle (name : JobLifecycleCommandName) (command : ChangeJobLifecycleCommand)
    (occurredUtc : String) : Answered :=
  match name with
  | .archive => c.archiveStandardBackupJob host command occurredUtc
  | .delete => c.deleteStandardBackupJob host command occurredUtc
  | .reactivate => c.reactivateStandardBackupJob command occurredUtc

def storedOutcome (name : JobLifecycleCommandName) (idempotencyKey : String) :
    Option JobLifecycleTransitionOutcome :=
  match name with
  | .delete => c.loadDeletionOutcome idempotencyKey
  | _ => c.loadEventOutcome idempotencyKey

variable {host : SchedulerContext} {c c' : JobCatalog} {command : ChangeJobLifecycleCommand}
  {occurredUtc : String} {name : JobLifecycleCommandName}
  {outcome : JobLifecycleTransitionOutcome}

def ended (c : JobCatalog) (ending : Ending) (occurredUtc : String) (row : JobRow)
    (schedules : List ScheduleDefinition) : JobCatalog := { c with
  jobs := Table.overwrite JobRow.id c.jobs row
  schedules
  requests := blockAnalysesOfJob c.requests row.id ending.blockedReason occurredUtc }

inductive Change (c : JobCatalog) (command : ChangeJobLifecycleCommand) (occurredUtc : String) :
    JobLifecycleCommandName → JobCatalog → JobLifecycleTransitionOutcome → Prop
  | archive {row schedules count} {archived : JobRow} {event : JobLifecycleEvent}
      {outcome : JobLifecycleTransitionOutcome} :
      c.loadJobRow command.jobId = some row → row.archived = false →
      c.isDeleted command.jobId = false → c.blockingRunState command.jobId = none →
      archived = { row with
        archived := true
        archivedUtc := some occurredUtc
        lifecycleRowVersion := row.lifecycleRowVersion + 1 } →
      event = {
        eventId := command.requestId
        jobId := row.id
        jobRevisionId := row.activeRevisionId
        commandRequestId := command.requestId
        commandIdempotencyKey := command.idempotencyKey
        previousState := .active
        nextState := .archived
        occurredUtc
        lifecycleRowVersion := row.lifecycleRowVersion + 1
        disabledScheduleCount := count
        analysisRequestId := none } →
      outcome = {
        applied := true
        validationCode := "JOB_ARCHIVED"
        nextAction := "The job is archived; history and files are retained."
        record := some {
          jobId := row.id
          jobRevisionId := row.activeRevisionId
          state := .archived
          rowVersion := row.lifecycleRowVersion + 1
          archivedUtc := some occurredUtc }
        disabledScheduleCount := count } →
      Change c command occurredUtc .archive
        { c.ended archiving occurredUtc archived schedules with
          events := Table.insert c.events event } outcome
  | reactivate {row} {active : JobRow} {event : JobLifecycleEvent}
      {outcome : JobLifecycleTransitionOutcome} :
      (validateTransition (c.loadJobLifecycle command.jobId) command .archived).isOk = true →
      c.loadJobRow command.jobId = some row → row.archived = true →
      c.isDeleted command.jobId = false →
      active = { row with
        archived := false
        archivedUtc := none
        lifecycleRowVersion := row.lifecycleRowVersion + 1 } →
      event = {
        eventId := command.requestId
        jobId := row.id
        jobRevisionId := row.activeRevisionId
        commandRequestId := command.requestId
        commandIdempotencyKey := command.idempotencyKey
        previousState := .archived
        nextState := .active
        occurredUtc
        lifecycleRowVersion := row.lifecycleRowVersion + 1
        disabledScheduleCount := 0
        analysisRequestId := some command.requestId } →
      outcome = {
        applied := true
        validationCode := "JOB_REACTIVATED_NEEDS_CHECK"
        nextAction := "Run the queued full check before starting another backup."
        record := some {
          jobId := row.id
          jobRevisionId := row.activeRevisionId
          state := .active
          rowVersion := row.lifecycleRowVersion + 1 }
        analysisRequestId := some command.requestId } →
      Change c command occurredUtc .reactivate
        { c with
          jobs := Table.overwrite JobRow.id c.jobs active
          events := Table.insert c.events event } outcome
  | delete {row schedules count} {deletion : JobDeletion}
      {outcome : JobLifecycleTransitionOutcome} :
      c.loadJobRow command.jobId = some row → c.isDeleted command.jobId = false →
      c.blockingRunState command.jobId = none →
      deletion = {
        jobId := row.id
        jobRevisionId := command.expectedJobRevisionId
        commandRequestId := command.requestId
        commandIdempotencyKey := command.idempotencyKey
        occurredUtc
        lifecycleRowVersion := row.lifecycleRowVersion + 1
        disabledScheduleCount := count } →
      row.activeRevisionId = command.expectedJobRevisionId →
      outcome = {
        applied := true
        validationCode := "JOB_DELETED"
        nextAction := "The job configuration was deleted; history and files are retained."
        record := some {
          jobId := row.id
          jobRevisionId := row.activeRevisionId
          state := .deleted
          rowVersion := row.lifecycleRowVersion + 1
          archivedUtc := row.archivedUtc }
        disabledScheduleCount := count } →
      Change c command occurredUtc .delete
        { c.ended deleting occurredUtc
            { row with lifecycleRowVersion := row.lifecycleRowVersion + 1 } schedules with
          deletions := Table.insert c.deletions deletion } outcome

variable {current : Option JobLifecycleRecord} {record : JobLifecycleRecord}

theorem validateVersions_ok {refresh : String}
    (h : validateVersions current command refresh = .ok record) :
    current = some record ∧ record.jobRevisionId = command.expectedJobRevisionId := by
  unfold validateVersions at h
  split at h
  · cases h
  · split at h
    · cases h
    · rename_i hrevision
      split at h
      · cases h
      · exact ⟨congrArg some (Except.ok.inj h), Except.ok.inj h ▸ not_not.mp hrevision⟩

variable {expected : JobLifecycleState}

theorem validateTransition_ok (h : validateTransition current command expected = .ok record) :
    current = some record ∧ record.state = expected := by
  obtain ⟨found, hversions, h⟩ := Text.except_bind_ok h
  obtain ⟨hcurrent, -⟩ := validateVersions_ok hversions
  split at h
  · cases h
  · rename_i hstate
    obtain rfl := Except.ok.inj h
    exact ⟨hcurrent, not_not.mp hstate⟩

theorem validateDeletion_ok (h : validateDeletion current command = .ok record) :
    current = some record ∧ record.state ≠ .deleted ∧
      record.jobRevisionId = command.expectedJobRevisionId := by
  obtain ⟨found, hversions, h⟩ := Text.except_bind_ok h
  obtain ⟨hcurrent, hrevision⟩ := validateVersions_ok hversions
  split at h
  · cases h
  · rename_i hstate
    obtain rfl := Except.ok.inj h
    exact ⟨hcurrent, hstate, hrevision⟩

theorem loadJobLifecycle_some {jobId : String} (h : c.loadJobLifecycle jobId = some record) :
    ∃ row, c.loadJobRow jobId = some row ∧ row.id = jobId ∧ record.jobId = jobId ∧
      record.jobRevisionId = row.activeRevisionId ∧
      record.state =
        if c.isDeleted jobId then .deleted else if row.archived then .archived else .active := by
  obtain ⟨row, hrow, rfl⟩ := Option.map_eq_some_iff.mp h
  have hid : row.id = jobId := Table.lookup_key hrow
  exact ⟨row, hrow, hid, hid, rfl, rfl⟩

theorem disableEnabledSchedules_ok {jobId codePrefix : String} {count : Nat}
    (h : c.disableEnabledSchedules host jobId codePrefix = .ok (c', count)) :
    ∃ schedules, c' = { c with schedules } := by
  unfold disableEnabledSchedules at h
  simp only at h
  split at h
  · obtain ⟨rfl, -⟩ := Prod.mk.inj (Except.ok.inj h)
    exact ⟨c.schedules, rfl⟩
  · split at h
    · cases h
    · obtain ⟨rfl, -⟩ := Prod.mk.inj (Except.ok.inj h)
      exact ⟨_, rfl⟩

theorem endable_ok {ending : Ending} {current : JobLifecycleRecord} {count : Nat}
    (h : c.endable host ending current = .ok (c', count)) :
    c.blockingRunState current.jobId = none ∧ ∃ schedules, c' = { c with schedules } := by
  unfold endable at h
  split at h
  · cases h
  · cases h
  · rename_i hblocking
    split at h
    · cases h
    · split at h
      · rename_i disabled hdisabled
        obtain rfl := Except.ok.inj h
        exact ⟨hblocking, disableEnabledSchedules_ok hdisabled⟩
      · cases h

theorem recordEvent_ok {event : JobLifecycleEvent} (h : c.recordEvent event = .ok c') :
    c' = { c with events := Table.insert c.events event } ∧
      Table.lookup JobLifecycleEvent.commandIdempotencyKey c.events
        event.commandIdempotencyKey = none := by
  unfold recordEvent at h
  split at h
  · cases h
  · rename_i hfresh
    refine ⟨(Except.ok.inj h).symm, Table.lookup_none_iff.mpr fun other hother hkey => hfresh ?_⟩
    exact List.any_eq_true.mpr ⟨other, hother, by simp [hkey]⟩

theorem validateVersions_error {refresh : String}
    (h : validateVersions current command refresh = .error outcome) : outcome.applied = false := by
  unfold validateVersions at h
  split at h
  · exact Except.error.inj h ▸ rfl
  · split at h
    · exact Except.error.inj h ▸ rfl
    · split at h
      · exact Except.error.inj h ▸ rfl
      · cases h

theorem validateTransition_error
    (h : validateTransition current command expected = .error outcome) :
    outcome.applied = false := by
  rcases Text.except_bind_error h with hversions | ⟨found, hversions, h⟩
  · exact validateVersions_error hversions
  · split at h
    · exact Except.error.inj h ▸ rfl
    · cases h

theorem validateDeletion_error (h : validateDeletion current command = .error outcome) :
    outcome.applied = false := by
  rcases Text.except_bind_error h with hversions | ⟨found, hversions, h⟩
  · exact validateVersions_error hversions
  · split at h
    · exact Except.error.inj h ▸ rfl
    · cases h

theorem endable_error {ending : Ending} {current : JobLifecycleRecord}
    (h : c.endable host ending current = .error outcome) : outcome.applied = false := by
  unfold endable at h
  split at h
  · exact Except.error.inj h ▸ rfl
  · exact Except.error.inj h ▸ rfl
  · split at h
    · exact Except.error.inj h ▸ rfl
    · split at h
      · cases h
      · exact Except.error.inj h ▸ rfl

def Unchanged (c : JobCatalog) (name : JobLifecycleCommandName) (idempotencyKey : String)
    (c' : JobCatalog) (outcome : JobLifecycleTransitionOutcome) : Prop :=
  c' = c ∧ (outcome.applied = false ∧ c.storedOutcome name idempotencyKey = none ∨
    ∃ stored, c.storedOutcome name idempotencyKey = some stored ∧
      outcome = { stored with idempotentReplay := true })

theorem state_cases {deleted archived : Bool} {state : JobLifecycleState}
    (h : state = if deleted then .deleted else if archived then .archived else .active) :
    (state = .active ↔ deleted = false ∧ archived = false) ∧
      (state = .archived ↔ deleted = false ∧ archived = true) ∧
        (state = .deleted ↔ deleted = true) := by
  subst h
  cases deleted <;> cases archived <;> simp

theorem loadJobLifecycle_row (h : c.loadJobLifecycle command.jobId = some record) {row : JobRow}
    (hrow : c.loadJobRow command.jobId = some row) :
    record.jobId = command.jobId ∧ row.id = command.jobId ∧
      record.jobRevisionId = row.activeRevisionId ∧
      (record.state = .active → c.isDeleted command.jobId = false ∧ row.archived = false) ∧
      (record.state = .archived → c.isDeleted command.jobId = false ∧ row.archived = true) ∧
      (record.state ≠ .deleted → c.isDeleted command.jobId = false) := by
  obtain ⟨found, hfound, hid, hjob, hrevision, hstate⟩ := loadJobLifecycle_some h
  obtain rfl := Option.some.inj (hrow.symm.trans hfound)
  obtain ⟨hactive, harchived, hdeleted⟩ := state_cases hstate
  refine ⟨hjob, hid, hrevision, hactive.mp, harchived.mp, fun hne => ?_⟩
  rw [Ne, hdeleted] at hne
  exact Bool.eq_false_iff.mpr hne

theorem loadJobLifecycle_overwrite {row : JobRow} {jobId : String} (row' : JobRow)
    (hrow : c.loadJobRow jobId = some row) (hid : row'.id = jobId)
    (hjobs : c'.jobs = Table.overwrite JobRow.id c.jobs row') :
    c'.loadJobLifecycle jobId = some {
      jobId := row'.id
      jobRevisionId := row'.activeRevisionId
      state :=
        if c'.isDeleted jobId then .deleted else if row'.archived then .archived else .active
      rowVersion := row'.lifecycleRowVersion
      archivedUtc := row'.archivedUtc } := by
  subst hid
  have hload : c'.loadJobRow row'.id = some row' := by
    unfold loadJobRow
    rw [hjobs]
    exact Table.lookup_overwrite_self hrow
  unfold loadJobLifecycle
  rw [hload]
  rfl

theorem archiveStandardBackupJob_cases
    (h : c.archiveStandardBackupJob host command occurredUtc = .ok (c', outcome)) :
    c.Unchanged .archive command.idempotencyKey c' outcome ∨
      c.storedOutcome .archive command.idempotencyKey = none ∧
        Change c command occurredUtc .archive c' outcome := by
  unfold archiveStandardBackupJob at h
  split at h
  · rename_i stored hstored
    obtain ⟨rfl, rfl⟩ := Prod.mk.inj (Except.ok.inj h)
    exact .inl ⟨rfl, .inr ⟨stored, hstored, rfl⟩⟩
  · rename_i hstored
    split at h
    · rename_i rejection hrejected
      obtain ⟨rfl, rfl⟩ := Prod.mk.inj (Except.ok.inj h)
      exact .inl ⟨rfl, .inl ⟨validateTransition_error hrejected, hstored⟩⟩
    · rename_i current hcurrent
      split at h
      · rename_i rejection _ hrejected
        obtain ⟨rfl, rfl⟩ := Prod.mk.inj (Except.ok.inj h)
        exact .inl ⟨rfl, .inl ⟨endable_error hrejected, hstored⟩⟩
      · rename_i disabled count row hdisabled hrow
        obtain ⟨hload, hstate⟩ := validateTransition_ok hcurrent
        obtain ⟨hjob, hid, -, hactive, -, -⟩ := loadJobLifecycle_row hload hrow
        obtain ⟨hdeleted, harchived⟩ := hactive hstate
        obtain ⟨hblocking, schedules, rfl⟩ := endable_ok hdisabled
        obtain ⟨recorded, hrecorded, h⟩ := Text.except_bind_ok h
        obtain ⟨rfl, -⟩ := recordEvent_ok hrecorded
        obtain ⟨rfl, rfl⟩ := Prod.mk.inj (Except.ok.inj h)
        refine .inr ⟨hstored, @Change.archive c command occurredUtc row schedules count _ _ _ hrow
          harchived hdeleted (hjob ▸ hblocking) rfl rfl ?_⟩
        rw [loadJobLifecycle_overwrite { row with
            archived := true
            archivedUtc := some occurredUtc
            lifecycleRowVersion := row.lifecycleRowVersion + 1 } (hid.symm ▸ hrow) rfl rfl]
        have hkept : c.isDeleted row.id = false := hid.symm ▸ hdeleted
        simp only [isDeleted] at hkept ⊢
        simp [hkept]
      · cases h

theorem reactivateStandardBackupJob_cases
    (h : c.reactivateStandardBackupJob command occurredUtc = .ok (c', outcome)) :
    c.Unchanged .reactivate command.idempotencyKey c' outcome ∨
      c.storedOutcome .reactivate command.idempotencyKey = none ∧
        Change c command occurredUtc .reactivate c' outcome := by
  unfold reactivateStandardBackupJob at h
  split at h
  · rename_i stored hstored
    obtain ⟨rfl, rfl⟩ := Prod.mk.inj (Except.ok.inj h)
    exact .inl ⟨rfl, .inr ⟨stored, hstored, rfl⟩⟩
  · rename_i hstored
    split at h
    · rename_i rejection hrejected
      obtain ⟨rfl, rfl⟩ := Prod.mk.inj (Except.ok.inj h)
      exact .inl ⟨rfl, .inl ⟨validateTransition_error hrejected, hstored⟩⟩
    · rename_i current hcurrent
      split at h
      · rename_i row hrow
        obtain ⟨hload, hstate⟩ := validateTransition_ok hcurrent
        obtain ⟨-, hid, -, -, harchive, -⟩ := loadJobLifecycle_row hload hrow
        obtain ⟨hdeleted, harchived⟩ := harchive hstate
        obtain ⟨recorded, hrecorded, h⟩ := Text.except_bind_ok h
        obtain ⟨rfl, -⟩ := recordEvent_ok hrecorded
        obtain ⟨rfl, rfl⟩ := Prod.mk.inj (Except.ok.inj h)
        refine .inr ⟨hstored, @Change.reactivate c command occurredUtc row _ _ _
          (by rw [hcurrent]; rfl) hrow harchived hdeleted rfl rfl ?_⟩
        rw [loadJobLifecycle_overwrite { row with
            archived := false
            archivedUtc := none
            lifecycleRowVersion := row.lifecycleRowVersion + 1 } (hid.symm ▸ hrow) rfl rfl]
        have hkept : c.isDeleted row.id = false := hid.symm ▸ hdeleted
        simp only [isDeleted] at hkept ⊢
        simp [hkept]
      · cases h

theorem deleteStandardBackupJob_cases
    (h : c.deleteStandardBackupJob host command occurredUtc = .ok (c', outcome)) :
    c.Unchanged .delete command.idempotencyKey c' outcome ∨
      c.storedOutcome .delete command.idempotencyKey = none ∧
        Change c command occurredUtc .delete c' outcome := by
  unfold deleteStandardBackupJob at h
  split at h
  · rename_i stored hstored
    obtain ⟨rfl, rfl⟩ := Prod.mk.inj (Except.ok.inj h)
    exact .inl ⟨rfl, .inr ⟨stored, hstored, rfl⟩⟩
  · rename_i hstored
    split at h
    · rename_i rejection hrejected
      obtain ⟨rfl, rfl⟩ := Prod.mk.inj (Except.ok.inj h)
      exact .inl ⟨rfl, .inl ⟨validateDeletion_error hrejected, hstored⟩⟩
    · rename_i current hcurrent
      split at h
      · rename_i rejection _ hrejected
        obtain ⟨rfl, rfl⟩ := Prod.mk.inj (Except.ok.inj h)
        exact .inl ⟨rfl, .inl ⟨endable_error hrejected, hstored⟩⟩
      · rename_i disabled count row hdisabled hrow
        obtain ⟨hload, hstate, hexpected⟩ := validateDeletion_ok hcurrent
        obtain ⟨hjob, hid, hrevision, -, -, hkept⟩ := loadJobLifecycle_row hload hrow
        have hdeleted := hkept hstate
        obtain ⟨hblocking, schedules, rfl⟩ := endable_ok hdisabled
        unfold applyDelete at h
        simp only at h
        split at h
        · cases h
        · obtain ⟨rfl, rfl⟩ := Prod.mk.inj (Except.ok.inj h)
          refine .inr ⟨hstored, @Change.delete c command occurredUtc row schedules count _ _ hrow
            hdeleted (hjob ▸ hblocking) rfl (hrevision.symm.trans hexpected) ?_⟩
          rw [loadJobLifecycle_overwrite { row with
              lifecycleRowVersion := row.lifecycleRowVersion + 1 } (hid.symm ▸ hrow) rfl rfl]
          simp [isDeleted, Table.insert, Table.lookup, List.find?_append]
      · cases h

theorem changeLifecycle_cases
    (h : c.changeLifecycle host name command occurredUtc = .ok (c', outcome)) :
    c.Unchanged name command.idempotencyKey c' outcome ∨
      c.storedOutcome name command.idempotencyKey = none ∧
        Change c command occurredUtc name c' outcome := by
  cases name with
  | archive => exact archiveStandardBackupJob_cases h
  | delete => exact deleteStandardBackupJob_cases h
  | reactivate => exact reactivateStandardBackupJob_cases h

end JobCatalog

end MediaSync.Jobs
