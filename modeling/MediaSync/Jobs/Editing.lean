import MediaSync.Jobs.Lifecycle

/-! A job is created from a draft, and edited by sealing a draft into a new revision. -/
namespace MediaSync.Jobs
open Text

structure CreateStandardBackupJobCommand where
  requestId : String
  idempotencyKey : String
  draftId : String
  deriving DecidableEq

structure StandardBackupJobIds where
  jobId : String
  jobRevisionId : String
  deriving DecidableEq

structure UpdateStandardBackupJobCommand where
  requestId : String
  idempotencyKey : String
  jobId : String
  expectedJobRevisionId : String
  expectedLifecycleRowVersion : Nat
  draft : StandardBackupJobDraft
  deriving DecidableEq

structure JobSavingOutcome where
  saved : Bool
  validationCodes : List String
  job : Option SealedStandardBackupJob := none
  requiresFullCheck : Bool := false
  changedFields : List String := []
  idempotentReplay : Bool := false
  disabledScheduleCount : Nat := 0
  deriving DecidableEq

def rootOverlapsExistingJob : String := "STANDARD_BACKUP_JOB_ROOT_OVERLAPS_EXISTING_JOB"

def rejected (validationCode : String) : JobSavingOutcome :=
  { saved := false, validationCodes := [validationCode] }

def requiredText (value : Option String) (reason : String) : Except String String :=
  match value with
  | some text => if nonBlank text then .ok text else .error reason
  | none => .error reason

def sealStandardBackupJob (command : CreateStandardBackupJobCommand)
    (draft : StandardBackupJobDraft) (ids : StandardBackupJobIds) :
    Except String SealedStandardBackupJob := do
  return {
    jobId := ids.jobId
    jobRevisionId := ids.jobRevisionId
    draftId := draft.draftId
    commandRequestId := command.requestId
    idempotencyKey := command.idempotencyKey
    sourceName := ← requiredText draft.sourceName "SOURCE_REQUIRED"
    sourcePathLabel := ← requiredText draft.sourcePathLabel "SOURCE_LABEL_REQUIRED"
    targets := draft.targets
    defaults := draft.defaults }

def sealEditedJob (command : UpdateStandardBackupJobCommand) (current : SealedStandardBackupJob)
    (revisionId : String) : SealedStandardBackupJob where
  jobId := current.jobId
  jobRevisionId := revisionId
  draftId := command.draft.draftId
  commandRequestId := command.requestId
  idempotencyKey := command.idempotencyKey
  sourceName := command.draft.sourceName.getD ""
  sourcePathLabel := command.draft.sourcePathLabel.getD ""
  targets := command.draft.targets
  defaults := command.draft.defaults

/-- `_changed_fields` and `_draft_changed_fields`, on the fields of the later version. -/
def changedFieldsOf (current : SealedStandardBackupJob) (sourceName sourcePathLabel : Option String)
    (targets : List DraftTarget) (defaults : StandardBackupDefaults) : List String :=
  (if some current.sourceName ≠ sourceName then ["name"] else []) ++
    (if some current.sourcePathLabel ≠ sourcePathLabel then ["source"] else []) ++
    (if current.targets ≠ targets then ["targets"] else []) ++
    (if current.defaults ≠ defaults then ["defaults"] else [])

def changedFields (current edited : SealedStandardBackupJob) : List String :=
  changedFieldsOf current (some edited.sourceName) (some edited.sourcePathLabel) edited.targets
    edited.defaults

def draftChangedFields (current : SealedStandardBackupJob) (draft : StandardBackupJobDraft) :
    List String :=
  changedFieldsOf current draft.sourceName draft.sourcePathLabel draft.targets draft.defaults

def requiresFullCheck (changedFields : List String) : Bool := changedFields.any (· ≠ "name")

namespace JobCatalog

variable (py : PathLibrary) (host : SchedulerContext) (c : JobCatalog)

def createStandardBackupJobFromDraft (command : CreateStandardBackupJobCommand)
    (draft : Option StandardBackupJobDraft) (ids : StandardBackupJobIds) :
    Except String (JobCatalog × JobSavingOutcome) :=
  match c.loadByIdempotencyKey command.idempotencyKey with
  | some existing =>
    .ok (c, { saved := false, validationCodes := [], job := existing, idempotentReplay := true })
  | none =>
    match draft with
    | none => .ok (c, rejected "DRAFT_NOT_FOUND")
    | some draft => do
      let issues ← draft.validationIssues py
      if issues ≠ [] then
        return (c, { saved := false, validationCodes := issues.map (·.code.value) })
      else if ← overlapsListedJob py draft.roots none c.listActiveStandardBackupJobs then
        return (c, rejected rootOverlapsExistingJob)
      else
        let job ← sealStandardBackupJob command draft ids
        let saved ← c.saveStandardBackupJob py job
        return (saved, { saved := true, validationCodes := [], job := some job })

/-- `update_standard_backup_job_from_draft` up to the checks of the job's record. -/
def editable (command : UpdateStandardBackupJobCommand) : Except String SealedStandardBackupJob :=
  match c.loadJobLifecycle command.jobId with
  | none => .error "STANDARD_BACKUP_JOB_NOT_FOUND"
  | some record =>
    if record.state ≠ .active then .error "STANDARD_BACKUP_JOB_ARCHIVED"
    else if record.rowVersion ≠ command.expectedLifecycleRowVersion then
      .error "STANDARD_BACKUP_JOB_LIFECYCLE_STALE"
    else
      match c.loadStandardBackupJob command.jobId with
      | none => .error "STANDARD_BACKUP_JOB_NOT_FOUND"
      | some current =>
        if current.jobRevisionId ≠ command.expectedJobRevisionId then
          .error "STANDARD_BACKUP_JOB_REVISION_STALE"
        else .ok current

def disableIfRequired (required : Bool) (jobId : String) : Except String (JobCatalog × Nat) :=
  if required then c.disableEnabledSchedules host jobId "JOB_LIFECYCLE" else .ok (c, 0)

def saveEdit (command : UpdateStandardBackupJobCommand) (current : SealedStandardBackupJob)
    (revisionId : String) : Except String (JobCatalog × JobSavingOutcome) := do
  let changed := draftChangedFields current command.draft
  let edited := sealEditedJob command current revisionId
  let appended ← c.appendStandardBackupJobRevision py edited current.jobRevisionId
  let (saved, disabledScheduleCount) ←
    appended.disableIfRequired host (requiresFullCheck changed) command.jobId
  return (saved, {
    saved := true
    validationCodes := ["STANDARD_BACKUP_JOB_UPDATED"]
    job := some edited
    requiresFullCheck := requiresFullCheck changed
    changedFields := changed
    disabledScheduleCount })

def updateStandardBackupJobFromDraft (command : UpdateStandardBackupJobCommand)
    (revisionId : String) : Except String (JobCatalog × JobSavingOutcome) :=
  match c.loadByIdempotencyKey command.idempotencyKey with
  | some replay =>
    let changed := (c.loadRevision command.jobId command.expectedJobRevisionId).elim []
      fun previous => changedFields previous replay
    .ok (c, {
      saved := true
      validationCodes := ["STANDARD_BACKUP_JOB_UPDATED"]
      job := (c.loadStandardBackupJob command.jobId).or (some replay)
      requiresFullCheck := requiresFullCheck changed
      changedFields := changed
      idempotentReplay := true })
  | none =>
    match c.editable command with
    | .error code => .ok (c, rejected code)
    | .ok current => do
      let activeRun := (c.loadActiveRunForJob command.jobId).isSome
      let issues ← command.draft.validationIssues py
      match issues with
      | issue :: _ => return (c, rejected issue.code.value)
      | [] =>
        if ← overlapsListedJob py command.draft.roots (some command.jobId)
            c.listActiveStandardBackupJobs then
          return (c, rejected rootOverlapsExistingJob)
        else
          let changed := draftChangedFields current command.draft
          if changed.isEmpty then return (c, rejected "STANDARD_BACKUP_JOB_NO_CHANGES")
          else if activeRun && requiresFullCheck changed then
            return (c, rejected "STANDARD_BACKUP_JOB_ACTIVE_RUN")
          else c.saveEdit py host command current revisionId

variable {py : PathLibrary} {host : SchedulerContext} {c c' : JobCatalog}
  {outcome : JobSavingOutcome}

theorem requiredText_ok {value : Option String} {reason text : String}
    (h : requiredText value reason = .ok text) : value = some text := by
  unfold requiredText at h
  split at h
  · split at h
    · exact congrArg some (Except.ok.inj h)
    · cases h
  · cases h

variable {ids : StandardBackupJobIds}

theorem sealStandardBackupJob_ok {command : CreateStandardBackupJobCommand}
    {draft : StandardBackupJobDraft} {job : SealedStandardBackupJob}
    (h : sealStandardBackupJob command draft ids = .ok job) :
    draft.sourcePathLabel = some job.sourcePathLabel ∧ job.targets = draft.targets ∧
      job.idempotencyKey = command.idempotencyKey := by
  obtain ⟨sourceName, -, h⟩ := except_bind_ok h
  obtain ⟨sourcePathLabel, hsource, h⟩ := except_bind_ok h
  obtain rfl := Except.ok.inj h
  exact ⟨requiredText_ok hsource, rfl, rfl⟩

theorem createStandardBackupJobFromDraft_cases {command : CreateStandardBackupJobCommand}
    {draft : Option StandardBackupJobDraft}
    (h : c.createStandardBackupJobFromDraft py command draft ids = .ok (c', outcome)) :
    c' = c ∨ ∃ job, RootsApart py job.sourcePathLabel job.targets ∧
      c.saveStandardBackupJob py job = .ok c' := by
  unfold createStandardBackupJobFromDraft at h
  split at h
  · exact .inl (Prod.mk.inj (Except.ok.inj h)).1.symm
  · split at h
    · exact .inl (Prod.mk.inj (Except.ok.inj h)).1.symm
    · rename_i draft
      obtain ⟨issues, hissues, h⟩ := except_bind_ok h
      split at h
      · exact .inl (Prod.mk.inj (Except.ok.inj h)).1.symm
      · rename_i hnone
        obtain ⟨overlaps, -, h⟩ := except_bind_ok h
        cases overlaps with
        | true => exact .inl (Prod.mk.inj (Except.ok.inj h)).1.symm
        | false =>
          obtain ⟨job, hjob, h⟩ := except_bind_ok h
          obtain ⟨saved, hsaved, h⟩ := except_bind_ok h
          obtain ⟨rfl, -⟩ := Prod.mk.inj (Except.ok.inj h)
          obtain rfl := not_not.mp hnone
          obtain ⟨source, hsource, hapart⟩ := rootsApart_of_noIssues hissues
          obtain ⟨hlabel, htargets, -⟩ := sealStandardBackupJob_ok hjob
          obtain rfl := Option.some.inj (hlabel.symm.trans hsource)
          exact .inr ⟨job, htargets ▸ hapart, hsaved⟩

variable {command : UpdateStandardBackupJobCommand} {current : SealedStandardBackupJob}

theorem editable_ok (h : c.editable command = .ok current) :
    c.isActive command.jobId = true ∧ c.loadStandardBackupJob command.jobId = some current ∧
      current.jobRevisionId = command.expectedJobRevisionId := by
  unfold editable at h
  split at h
  · cases h
  · rename_i record hrecord
    split at h
    · cases h
    · rename_i hactive
      split at h
      · cases h
      · split at h
        · cases h
        · rename_i found hfound
          split at h
          · cases h
          · rename_i hrevision
            obtain rfl := Except.ok.inj h
            refine ⟨?_, hfound, not_not.mp hrevision⟩
            unfold isActive
            rw [hrecord]
            simpa using not_not.mp hactive

theorem disableIfRequired_ok {required : Bool} {jobId : String} {count : Nat}
    (h : c.disableIfRequired host required jobId = .ok (c', count)) :
    ∃ schedules, c' = { c with schedules } := by
  unfold disableIfRequired at h
  split at h
  · exact disableEnabledSchedules_ok h
  · obtain ⟨rfl, -⟩ := Prod.mk.inj (Except.ok.inj h)
    exact ⟨c.schedules, rfl⟩

variable {revisionId : String}

theorem saveEdit_ok (h : c.saveEdit py host command current revisionId = .ok (c', outcome)) :
    ∃ appended schedules, c.appendStandardBackupJobRevision py
        (sealEditedJob command current revisionId) current.jobRevisionId = .ok appended ∧
      c' = { appended with schedules } := by
  obtain ⟨appended, happended, h⟩ := except_bind_ok h
  obtain ⟨⟨saved, count⟩, hsaved, h⟩ := except_bind_ok h
  obtain ⟨rfl, -⟩ := Prod.mk.inj (Except.ok.inj h)
  obtain ⟨schedules, rfl⟩ := disableIfRequired_ok hsaved
  exact ⟨appended, schedules, happended, rfl⟩

theorem updateStandardBackupJobFromDraft_cases
    (h : c.updateStandardBackupJobFromDraft py host command revisionId = .ok (c', outcome)) :
    c' = c ∨ ∃ current edited appended schedules, c.isActive command.jobId = true ∧
      c.loadStandardBackupJob command.jobId = some current ∧ edited.jobId = current.jobId ∧
      RootsApart py edited.sourcePathLabel edited.targets ∧
      c.appendStandardBackupJobRevision py edited current.jobRevisionId = .ok appended ∧
      c' = { appended with schedules } := by
  unfold updateStandardBackupJobFromDraft at h
  split at h
  · exact .inl (Prod.mk.inj (Except.ok.inj h)).1.symm
  · split at h
    · exact .inl (Prod.mk.inj (Except.ok.inj h)).1.symm
    · rename_i current hcurrent
      simp only at h
      obtain ⟨issues, hissues, h⟩ := except_bind_ok h
      cases issues with
      | cons issue rest => exact .inl (Prod.mk.inj (Except.ok.inj h)).1.symm
      | nil =>
        obtain ⟨overlaps, -, h⟩ := except_bind_ok h
        cases overlaps with
        | true => exact .inl (Prod.mk.inj (Except.ok.inj h)).1.symm
        | false =>
          simp only [Bool.false_eq_true, if_false] at h
          split at h
          · exact .inl (Prod.mk.inj (Except.ok.inj h)).1.symm
          · split at h
            · exact .inl (Prod.mk.inj (Except.ok.inj h)).1.symm
            · obtain ⟨appended, schedules, happended, hc'⟩ := saveEdit_ok h
              obtain ⟨source, hsource, hapart⟩ := rootsApart_of_noIssues hissues
              obtain ⟨hactive, hload, -⟩ := editable_ok hcurrent
              refine .inr ⟨current, sealEditedJob command current revisionId, appended, schedules,
                hactive, hload, rfl, ?_, happended, hc'⟩
              simpa [sealEditedJob, hsource] using hapart

end JobCatalog

end MediaSync.Jobs
