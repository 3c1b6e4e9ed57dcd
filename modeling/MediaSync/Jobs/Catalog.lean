import MediaSync.Jobs.Analysis
import MediaSync.Jobs.Drafts
import MediaSync.Runs.Tables
import MediaSync.Triggers.Occurrences

/-! The catalog's rows of backup jobs: the jobs with their heads and revisions, deletions, lifecycle
events, schedules, runs and analysis requests. -/
namespace MediaSync.Jobs
open Runs Triggers

inductive JobLifecycleState where
  | active
  | archived
  | deleted
  deriving DecidableEq

/-- A row of `jobs` with its `job_heads` row. -/
structure JobRow where
  id : String
  archived : Bool := false
  lifecycleRowVersion : Nat := 1
  archivedUtc : Option String := none
  activeRevisionId : String
  deriving DecidableEq

structure JobDeletion where
  jobId : String
  jobRevisionId : String
  commandRequestId : String
  commandIdempotencyKey : String
  occurredUtc : String
  lifecycleRowVersion : Nat
  disabledScheduleCount : Nat
  deriving DecidableEq

structure JobLifecycleEvent where
  eventId : String
  jobId : String
  jobRevisionId : String
  commandRequestId : String
  commandIdempotencyKey : String
  previousState : JobLifecycleState
  nextState : JobLifecycleState
  occurredUtc : String
  lifecycleRowVersion : Nat
  disabledScheduleCount : Nat
  analysisRequestId : Option String
  deriving DecidableEq

structure JobLifecycleRecord where
  jobId : String
  jobRevisionId : String
  state : JobLifecycleState
  rowVersion : Nat
  archivedUtc : Option String := none
  deriving DecidableEq

structure ScheduleDefinition where
  scheduleId : String
  jobId : String
  triggerType : TriggerKind
  definitionGeneration : Nat
  desiredDefinitionHash : String
  enabled : Bool := true
  rowVersion : Nat := 1
  deriving DecidableEq

structure StartedRun where
  runId : String
  jobId : String
  jobRevisionId : String
  planId : String
  planChecksum : String
  commandRequestId : String
  idempotencyKey : String
  triggerOccurrenceId : Option String := none
  state : RunState
  targets : List RunTargetState := []
  warningCount : Int := 0
  errorCount : Int := 0
  deriving DecidableEq

structure JobCatalog where
  jobs : List JobRow := []
  revisions : List SealedStandardBackupJob := []
  deletions : List JobDeletion := []
  events : List JobLifecycleEvent := []
  schedules : List ScheduleDefinition := []
  requests : List BackupAnalysisRequest := []
  runs : List StartedRun := []

/-- The states that keep a job busy: `load_active_run_for_job` and `_BLOCKING_RUN_STATES`. -/
def blockingRunStates : List RunState :=
  [.created, .queued, .preflight, .executing, .pausing, .paused, .recoveryRequired]

def StartedRun.isBlocking (run : StartedRun) : Bool := blockingRunStates.contains run.state

namespace JobCatalog

variable (c : JobCatalog)

def loadJobRow (jobId : String) : Option JobRow := Table.lookup JobRow.id c.jobs jobId

/-- Whether `job_deletions` has a row of the job. -/
def isDeleted (jobId : String) : Bool := (Table.lookup JobDeletion.jobId c.deletions jobId).isSome

def loadRevision (jobId jobRevisionId : String) : Option SealedStandardBackupJob :=
  c.revisions.find? fun job => job.jobId = jobId && job.jobRevisionId = jobRevisionId

def loadByIdempotencyKey (idempotencyKey : String) : Option SealedStandardBackupJob :=
  c.revisions.find? fun job => job.idempotencyKey = idempotencyKey

def loadJobLifecycle (jobId : String) : Option JobLifecycleRecord :=
  (c.loadJobRow jobId).map fun row => {
    jobId := row.id
    jobRevisionId := row.activeRevisionId
    state := if c.isDeleted jobId then .deleted else if row.archived then .archived else .active
    rowVersion := row.lifecycleRowVersion
    archivedUtc := row.archivedUtc }

def isActive (jobId : String) : Bool :=
  (c.loadJobLifecycle jobId).any fun record => record.state = .active

def loadStandardBackupJob (jobId : String) : Option SealedStandardBackupJob := do
  let row ← c.loadJobRow jobId
  if row.archived then none else c.loadRevision jobId row.activeRevisionId

def listActiveStandardBackupJobs : List SealedStandardBackupJob :=
  (c.jobs.filter fun row => !row.archived && !c.isDeleted row.id).filterMap fun row =>
    c.loadRevision row.id row.activeRevisionId

def loadActiveRunForJob (jobId : String) : Option StartedRun :=
  c.runs.find? fun run => run.jobId = jobId && run.isBlocking

def hasRecoveryRequiredTarget (jobId : String) : Bool :=
  c.runs.any fun run => run.jobId = jobId && run.targets.contains .recoveryRequired

variable (py : PathLibrary)

def rootListsOverlap : List (String × Bool) → List (String × Bool) → Except String Bool
  | [], _ => .ok false
  | root :: rest, others => do
    let overlaps ← others.anyM fun other =>
      if !root.2 && !other.2 then pure false
      else draftPathLabelsOverlap py (some root.1) (some other.1)
    if overlaps then return true else rootListsOverlap rest others

/-- Whether roots overlap those of a listed job other than `exclude`. -/
def overlapsListedJob (roots : List (String × Bool)) (exclude : Option String)
    (jobs : List SealedStandardBackupJob) : Except String Bool :=
  jobs.anyM fun job =>
    if exclude = some job.jobId then pure false else rootListsOverlap py roots job.roots

def rejectActiveRootOverlap (job : SealedStandardBackupJob) (exclude : Option String) :
    Except String Unit := do
  let overlaps ← overlapsListedJob py job.roots exclude c.listActiveStandardBackupJobs
  if overlaps then .error "STANDARD_BACKUP_JOB_ROOT_OVERLAP" else .ok ()

def revisionFresh (job : SealedStandardBackupJob) : Bool :=
  (c.loadRevision job.jobId job.jobRevisionId).isNone &&
    (c.loadByIdempotencyKey job.idempotencyKey).isNone

def saveStandardBackupJob (job : SealedStandardBackupJob) : Except String JobCatalog := do
  c.rejectActiveRootOverlap py job none
  if (c.loadJobRow job.jobId).isSome || !c.revisionFresh job then
    .error "STANDARD_BACKUP_JOB_PERSISTENCE_FAILED"
  else .ok { c with
    jobs := Table.insert c.jobs { id := job.jobId, activeRevisionId := job.jobRevisionId }
    revisions := Table.insert c.revisions job }

def appendStandardBackupJobRevision (job : SealedStandardBackupJob)
    (expectedActiveRevisionId : String) : Except String JobCatalog :=
  match c.loadJobRow job.jobId with
  | none => .error "STANDARD_BACKUP_JOB_NOT_FOUND"
  | some row =>
    if row.archived then .error "STANDARD_BACKUP_JOB_NOT_ACTIVE"
    else if row.activeRevisionId ≠ expectedActiveRevisionId then
      .error "STANDARD_BACKUP_JOB_REVISION_STALE"
    else do
      c.rejectActiveRootOverlap py job (some job.jobId)
      if !c.revisionFresh job then .error "STANDARD_BACKUP_JOB_REVISION_APPEND_FAILED"
      else .ok { c with
        jobs := Table.overwrite JobRow.id c.jobs { row with activeRevisionId := job.jobRevisionId }
        revisions := Table.insert c.revisions job }

variable {py : PathLibrary} {c : JobCatalog}

theorem anyM_eq_false {α : Type} {test : α → Except String Bool} :
    ∀ {items : List α}, items.anyM test = .ok false → ∀ x ∈ items, test x = .ok false
  | [], _, _, hmem => absurd hmem List.not_mem_nil
  | item :: rest, h, x, hmem => by
    obtain ⟨hit, hitem, h⟩ := Text.except_bind_ok h
    cases hit with
    | true => simp [pure, Except.pure] at h
    | false =>
      rcases List.mem_cons.mp hmem with rfl | hmem
      · exact hitem
      · exact anyM_eq_false h x hmem

def ListsApart (py : PathLibrary) (roots others : List (String × Bool)) : Prop :=
  ∀ root ∈ roots, ∀ other ∈ others, (root.2 || other.2) = true → Disjoint py root.1 other.1

variable {roots others : List (String × Bool)}

theorem ListsApart.symm (h : ListsApart py roots others) :
    ListsApart py others roots := fun root hroot other hother hwrites =>
  (h other hother root hroot (by rwa [Bool.or_comm])).symm

theorem listsApart_of_noOverlap (h : rootListsOverlap py roots others = .ok false) :
    ListsApart py roots others := by
  induction roots with
  | nil => exact fun _ hmem => absurd hmem List.not_mem_nil
  | cons head rest ih =>
    obtain ⟨hit, hhead, h⟩ := Text.except_bind_ok h
    cases hit with
    | true => simp [pure, Except.pure] at h
    | false =>
      intro root hroot other hother hwrites
      rcases List.mem_cons.mp hroot with rfl | hroot
      · have htest := anyM_eq_false hhead other hother
        have hboth : ¬ (!root.2 && !other.2) = true := by
          revert hwrites
          cases root.2 <;> cases other.2 <;> simp
        rw [if_neg hboth] at htest
        exact htest
      · exact ih h root hroot other hother hwrites

variable {job : SealedStandardBackupJob}

theorem apart_of_rejectActiveRootOverlap {exclude : Option String}
    (h : c.rejectActiveRootOverlap py job exclude = .ok ()) :
    ∀ other ∈ c.listActiveStandardBackupJobs, exclude ≠ some other.jobId →
      ListsApart py job.roots other.roots := by
  intro other hother hexclude
  obtain ⟨hit, hlist, h⟩ := Text.except_bind_ok h
  cases hit with
  | true => simp at h
  | false =>
    have htest := anyM_eq_false hlist other hother
    rw [if_neg hexclude] at htest
    exact listsApart_of_noOverlap htest

theorem mem_listActive :
    job ∈ c.listActiveStandardBackupJobs ↔ ∃ row ∈ c.jobs, row.archived = false ∧
      c.isDeleted row.id = false ∧ c.loadRevision row.id row.activeRevisionId = some job := by
  simp only [listActiveStandardBackupJobs, List.mem_filterMap, List.mem_filter,
    Bool.and_eq_true, Bool.not_eq_true', and_assoc]

theorem loadRevision_key {jobId jobRevisionId : String}
    (h : c.loadRevision jobId jobRevisionId = some job) :
    job.jobId = jobId ∧ job.jobRevisionId = jobRevisionId := by
  simpa using List.find?_some h

theorem loadRevision_insert (hfresh : c.revisionFresh job = true) (jobId jobRevisionId : String) :
    (Table.insert c.revisions job).find? (fun other =>
        other.jobId = jobId && other.jobRevisionId = jobRevisionId) =
      if job.jobId = jobId ∧ job.jobRevisionId = jobRevisionId then some job
      else c.loadRevision jobId jobRevisionId := by
  have hnone : c.loadRevision job.jobId job.jobRevisionId = none := by
    simp only [revisionFresh, Bool.and_eq_true, Option.isNone_iff_eq_none] at hfresh
    exact hfresh.1
  unfold Table.insert
  rw [List.find?_append]
  by_cases hkey : job.jobId = jobId ∧ job.jobRevisionId = jobRevisionId
  · obtain ⟨rfl, rfl⟩ := hkey
    unfold loadRevision at hnone
    simp [hnone]
  · rw [if_neg hkey]
    unfold loadRevision
    have hnew : [job].find? (fun other =>
        other.jobId = jobId && other.jobRevisionId = jobRevisionId) = none := by
      simpa [List.find?_eq_none] using hkey
    rw [hnew, Option.or_none]

theorem saveStandardBackupJob_cases {c' : JobCatalog}
    (h : c.saveStandardBackupJob py job = .ok c') :
    c.rejectActiveRootOverlap py job none = .ok () ∧ c.loadJobRow job.jobId = none ∧
      c.revisionFresh job = true ∧ c' = { c with
        jobs := Table.insert c.jobs { id := job.jobId, activeRevisionId := job.jobRevisionId }
        revisions := Table.insert c.revisions job } := by
  obtain ⟨⟨⟩, hreject, h⟩ := Text.except_bind_ok h
  split at h
  · cases h
  · rename_i hguard
    simp only [Bool.or_eq_true, Bool.not_eq_true', not_or, Bool.not_eq_true,
      Option.isSome_eq_false_iff, Option.isNone_iff_eq_none, Bool.not_eq_false] at hguard
    exact ⟨hreject, hguard.1, hguard.2, (Except.ok.inj h).symm⟩

theorem appendStandardBackupJobRevision_cases {expectedActiveRevisionId : String} {c' : JobCatalog}
    (h : c.appendStandardBackupJobRevision py job expectedActiveRevisionId = .ok c') :
    ∃ row, c.loadJobRow job.jobId = some row ∧ row.archived = false ∧
      row.activeRevisionId = expectedActiveRevisionId ∧
      c.rejectActiveRootOverlap py job (some job.jobId) = .ok () ∧
      c.revisionFresh job = true ∧ c' = { c with
        jobs := Table.overwrite JobRow.id c.jobs { row with activeRevisionId := job.jobRevisionId }
        revisions := Table.insert c.revisions job } := by
  unfold appendStandardBackupJobRevision at h
  split at h
  · cases h
  · rename_i row hrow
    split at h
    · cases h
    · rename_i harchived
      split at h
      · cases h
      · rename_i hrevision
        obtain ⟨⟨⟩, hreject, h⟩ := Text.except_bind_ok h
        split at h
        · cases h
        · rename_i hfresh
          exact ⟨row, hrow, by simpa using harchived, not_not.mp hrevision, hreject,
            by simpa using hfresh, (Except.ok.inj h).symm⟩

end JobCatalog

end MediaSync.Jobs
