import MediaSync.Foundation.Json
import MediaSync.Foundation.Table

/-! The queue of analyses of the catalog: a request is enqueued under its id and its command's key,
claimed by the worker, completed once, and queued again when the engine starts. -/
namespace MediaSync.Jobs

inductive BackupAnalysisRequestState where
  | queued
  | running
  | succeeded
  | noChanges
  | blocked
  | failed
  deriving DecidableEq

def BackupAnalysisRequestState.value : BackupAnalysisRequestState → String
  | .queued => "QUEUED"
  | .running => "RUNNING"
  | .succeeded => "SUCCEEDED"
  | .noChanges => "NO_CHANGES"
  | .blocked => "BLOCKED"
  | .failed => "FAILED"

def BackupAnalysisRequestState.isTerminal : BackupAnalysisRequestState → Bool
  | .queued | .running => false
  | _ => true

structure BackupAnalysisRequest where
  requestId : String
  commandIdempotencyKey : String
  jobId : String
  jobRevisionId : String
  state : BackupAnalysisRequestState
  requestedUtc : String
  startedUtc : Option String := none
  completedUtc : Option String := none
  analysisId : Option String := none
  planId : Option String := none
  reasonCode : Option String := none
  operationCount : Int := 0
  plannedBytes : Int := 0
  startWhenSafe : Bool := false
  startedRunId : Option String := none
  rowVersion : Nat := 1
  deriving DecidableEq

/-- A text that may be `null`. -/
def nullable : Option String → Json
  | some text => .str text
  | none => .null

def BackupAnalysisRequest.toDict (request : BackupAnalysisRequest) : Json := .obj [
  ("request_id", .str request.requestId),
  ("job_id", .str request.jobId),
  ("job_revision_id", .str request.jobRevisionId),
  ("state", .str request.state.value),
  ("requested_utc", .str request.requestedUtc),
  ("started_utc", nullable request.startedUtc),
  ("completed_utc", nullable request.completedUtc),
  ("analysis_id", nullable request.analysisId),
  ("plan_id", nullable request.planId),
  ("reason_code", nullable request.reasonCode),
  ("operation_count", .int request.operationCount),
  ("planned_bytes", .int request.plannedBytes),
  ("start_when_safe", .bool request.startWhenSafe),
  ("started_run_id", nullable request.startedRunId),
  ("row_version", .int request.rowVersion)]

structure AnalysisCompletion where
  state : BackupAnalysisRequestState
  reasonCode : String
  analysisId : Option String := none
  planId : Option String := none
  operationCount : Int := 0
  plannedBytes : Int := 0
  startedRunId : Option String := none
  deriving DecidableEq

def loadBackupAnalysisRequest (rows : List BackupAnalysisRequest) (requestId : String) :
    Option BackupAnalysisRequest :=
  Table.lookup BackupAnalysisRequest.requestId rows requestId

def BackupAnalysisRequest.identity (request : BackupAnalysisRequest) :
    String × String × String × Bool :=
  (request.commandIdempotencyKey, request.jobId, request.jobRevisionId, request.startWhenSafe)

def enqueueBackupAnalysis (rows : List BackupAnalysisRequest) (request : BackupAnalysisRequest) :
    Except String (List BackupAnalysisRequest × BackupAnalysisRequest) :=
  if request.state ≠ .queued then .error "backup analysis must be queued when enqueued"
  else if rows.any fun row => row.requestId = request.requestId ||
      row.commandIdempotencyKey = request.commandIdempotencyKey then
    match loadBackupAnalysisRequest rows request.requestId with
    | none => .error "BACKUP_ANALYSIS_REQUEST_CONFLICT"
    | some existing =>
      if existing.identity ≠ request.identity then .error "BACKUP_ANALYSIS_REQUEST_CONFLICT"
      else .ok (rows, existing)
  else
    let recorded : BackupAnalysisRequest := {
      requestId := request.requestId
      commandIdempotencyKey := request.commandIdempotencyKey
      jobId := request.jobId
      jobRevisionId := request.jobRevisionId
      state := .queued
      requestedUtc := request.requestedUtc
      startWhenSafe := request.startWhenSafe }
    .ok (Table.insert rows recorded, recorded)

/-- The order of the queue: `requested_utc, request_id`. -/
def queueOrder (a b : BackupAnalysisRequest) : Bool :=
  a.requestedUtc < b.requestedUtc ||
    (a.requestedUtc = b.requestedUtc && a.requestId ≤ b.requestId)

def claimNextBackupAnalysis (rows : List BackupAnalysisRequest) (active : String → Bool)
    (startedUtc : String) : Option (List BackupAnalysisRequest × BackupAnalysisRequest) :=
  match (rows.filter fun row => row.state = .queued && active row.jobId).insertionSort
      (fun a b => queueOrder a b = true) with
  | [] => none
  | request :: _ =>
    let claimed := { request with
      state := .running
      startedUtc := some startedUtc
      rowVersion := request.rowVersion + 1 }
    some (Table.overwrite BackupAnalysisRequest.requestId rows claimed, claimed)

def completeBackupAnalysis (rows : List BackupAnalysisRequest) (requestId : String)
    (completion : AnalysisCompletion) (completedUtc : String) :
    Except String (List BackupAnalysisRequest × BackupAnalysisRequest) :=
  if !completion.state.isTerminal then
    .error "backup analysis completion state must be terminal"
  else if completion.operationCount < 0 || completion.plannedBytes < 0 ||
      completion.reasonCode = "" then
    .error "backup analysis completion values are invalid"
  else
    match loadBackupAnalysisRequest rows requestId with
    | some row =>
      if row.state ≠ .running then .error "BACKUP_ANALYSIS_COMPLETION_CONFLICT"
      else
        let completed := { row with
          state := completion.state
          completedUtc := some completedUtc
          analysisId := completion.analysisId
          planId := completion.planId
          reasonCode := some completion.reasonCode
          operationCount := completion.operationCount
          plannedBytes := completion.plannedBytes
          startedRunId := completion.startedRunId
          rowVersion := row.rowVersion + 1 }
        .ok (Table.overwrite BackupAnalysisRequest.requestId rows completed, completed)
    | none => .error "BACKUP_ANALYSIS_COMPLETION_CONFLICT"

def requeueInterruptedBackupAnalyses (rows : List BackupAnalysisRequest) :
    List BackupAnalysisRequest :=
  Table.updateWhere rows (fun row => row.state = .running) fun row => { row with
    state := .queued
    startedUtc := none
    rowVersion := row.rowVersion + 1 }

def blockAnalysesOfJob (rows : List BackupAnalysisRequest) (jobId reasonCode occurredUtc : String) :
    List BackupAnalysisRequest :=
  Table.updateWhere rows (fun row => row.jobId = jobId && !row.state.isTerminal) fun row =>
    { row with
      state := .blocked
      startedUtc := row.startedUtc.or (some occurredUtc)
      completedUtc := some occurredUtc
      reasonCode := some reasonCode
      rowVersion := row.rowVersion + 1 }

variable {rows rows' : List BackupAnalysisRequest} {request recorded : BackupAnalysisRequest}

abbrev RequestsUnique (rows : List BackupAnalysisRequest) : Prop :=
  Table.KeysUnique BackupAnalysisRequest.requestId rows

theorem enqueueBackupAnalysis_cases
    (h : enqueueBackupAnalysis rows request = .ok (rows', recorded)) :
    (rows' = rows ∧ loadBackupAnalysisRequest rows request.requestId = some recorded ∧
        recorded.identity = request.identity) ∨
      (loadBackupAnalysisRequest rows request.requestId = none ∧
        rows' = Table.insert rows recorded ∧ recorded.requestId = request.requestId ∧
        recorded.identity = request.identity ∧ recorded.state = .queued) := by
  unfold enqueueBackupAnalysis at h
  split at h
  · cases h
  · split at h
    · split at h
      · cases h
      · rename_i existing hload
        split at h
        · cases h
        · rename_i hidentity
          obtain ⟨rfl, rfl⟩ := Prod.mk.inj (Except.ok.inj h)
          exact .inl ⟨rfl, hload, not_not.mp hidentity⟩
    · rename_i hfresh
      obtain ⟨rfl, rfl⟩ := Prod.mk.inj (Except.ok.inj h)
      refine .inr ⟨Table.lookup_none_iff.mpr fun row hrow hid => hfresh ?_, rfl, rfl, rfl, rfl⟩
      exact List.any_eq_true.mpr ⟨row, hrow, by simp [hid]⟩

theorem enqueueBackupAnalysis_existing {existing : BackupAnalysisRequest}
    (hstate : request.state = .queued)
    (hload : loadBackupAnalysisRequest rows request.requestId = some existing) :
    enqueueBackupAnalysis rows request =
      if existing.identity = request.identity then .ok (rows, existing)
      else .error "BACKUP_ANALYSIS_REQUEST_CONFLICT" := by
  have hany : (rows.any fun row => row.requestId = request.requestId ||
      row.commandIdempotencyKey = request.commandIdempotencyKey) = true := by
    refine List.any_eq_true.mpr ⟨existing, Table.lookup_mem hload, ?_⟩
    have hid : existing.requestId = request.requestId := Table.lookup_key hload
    simp [hid]
  unfold enqueueBackupAnalysis
  rw [if_neg (not_not.mpr hstate), if_pos hany, hload]
  by_cases hidentity : existing.identity = request.identity
  · simp [hidentity]
  · simp [hidentity]

theorem claimNextBackupAnalysis_cases {active : String → Bool} {startedUtc : String}
    (h : claimNextBackupAnalysis rows active startedUtc = some (rows', recorded)) :
    ∃ row ∈ rows, row.state = .queued ∧ active row.jobId = true ∧
      recorded = { row with
        state := .running
        startedUtc := some startedUtc
        rowVersion := row.rowVersion + 1 } ∧
      rows' = Table.overwrite BackupAnalysisRequest.requestId rows recorded := by
  unfold claimNextBackupAnalysis at h
  split at h
  · cases h
  · rename_i row rest hsorted
    have hmem : row ∈ rows.filter fun row => row.state = .queued && active row.jobId := by
      refine (List.perm_insertionSort (fun a b => queueOrder a b = true) _).mem_iff.mp ?_
      rw [hsorted]
      exact List.mem_cons_self
    obtain ⟨hrow, hqueued⟩ := List.mem_filter.mp hmem
    simp only [Bool.and_eq_true, decide_eq_true_eq] at hqueued
    obtain ⟨rfl, rfl⟩ := Prod.mk.inj (Option.some.inj h)
    exact ⟨row, hrow, hqueued.1, hqueued.2, rfl, rfl⟩

theorem completeBackupAnalysis_cases {requestId completedUtc : String}
    {completion : AnalysisCompletion}
    (h : completeBackupAnalysis rows requestId completion completedUtc = .ok (rows', recorded)) :
    ∃ row, loadBackupAnalysisRequest rows requestId = some row ∧ row.state = .running ∧
      completion.state.isTerminal = true ∧ recorded.state = completion.state ∧
      recorded.requestId = row.requestId ∧ recorded.identity = row.identity ∧
      recorded.startedRunId = completion.startedRunId ∧
      rows' = Table.overwrite BackupAnalysisRequest.requestId rows recorded := by
  unfold completeBackupAnalysis at h
  split at h
  · cases h
  · rename_i hterminal
    split at h
    · cases h
    · split at h
      · rename_i row hload
        split at h
        · cases h
        · rename_i hrunning
          obtain ⟨rfl, rfl⟩ := Prod.mk.inj (Except.ok.inj h)
          exact ⟨row, hload, not_not.mp hrunning, by simpa using hterminal, rfl, rfl, rfl, rfl, rfl⟩
      · cases h

end MediaSync.Jobs
