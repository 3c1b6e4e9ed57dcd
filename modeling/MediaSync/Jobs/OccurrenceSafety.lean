import MediaSync.Jobs.LifecycleSafety

/-! An occurrence, its analysis request and its run are written in transactions of their own. -/
namespace MediaSync.Jobs
open Runs Transition Triggers JobCatalog

def Evolves (rows rows' : List BackupAnalysisRequest) : Prop :=
  ∀ requestId request, loadBackupAnalysisRequest rows requestId = some request →
    ∃ request', loadBackupAnalysisRequest rows' requestId = some request' ∧
      request'.identity = request.identity ∧
      (request.state.isTerminal = true → request'.state.isTerminal = true)

section
variable {rows rows' : List BackupAnalysisRequest} {request recorded : BackupAnalysisRequest}

theorem Evolves.refl : Evolves rows rows := fun _ request hload => ⟨request, hload, rfl, id⟩

theorem Evolves.enqueue (h : enqueueBackupAnalysis rows request = .ok (rows', recorded)) :
    Evolves rows rows' := by
  rcases enqueueBackupAnalysis_cases h with ⟨rfl, -, -⟩ | ⟨-, rfl, -, -, -⟩
  · exact Evolves.refl
  · exact fun _ found hload => ⟨found, Table.lookup_insert_of_some hload, rfl, id⟩

theorem Evolves.overwrite (hload : loadBackupAnalysisRequest rows recorded.requestId = some request)
    (hopen : request.state.isTerminal = false) (hidentity : recorded.identity = request.identity) :
    Evolves rows (Table.overwrite BackupAnalysisRequest.requestId rows recorded) := by
  intro requestId found hfound
  by_cases hid : recorded.requestId = requestId
  · subst hid
    obtain rfl := Option.some.inj (hload.symm.trans hfound)
    refine ⟨recorded, Table.lookup_overwrite_self hload, hidentity, fun hterminal => ?_⟩
    rw [hopen] at hterminal
    cases hterminal
  · exact ⟨found, (Table.lookup_overwrite_other hid).trans hfound, rfl, id⟩

theorem Evolves.updateWhere {p : BackupAnalysisRequest → Bool}
    {f : BackupAnalysisRequest → BackupAnalysisRequest}
    (hkey : ∀ r, (f r).requestId = r.requestId) (hidentity : ∀ r, (f r).identity = r.identity)
    (hopen : ∀ r, p r = true → r.state.isTerminal = false) :
    Evolves rows (Table.updateWhere rows p f) := by
  intro requestId found hfound
  have hrow : Table.lookup BackupAnalysisRequest.requestId rows requestId = some found := hfound
  have hafter : Table.lookup BackupAnalysisRequest.requestId (Table.updateWhere rows p f)
      requestId = (Table.lookup BackupAnalysisRequest.requestId rows requestId).map
        fun r => if p r then f r else r := Table.lookup_updateWhere hkey requestId
  rw [hrow] at hafter
  refine ⟨_, hafter, ?_, fun hterminal => ?_⟩
  · show (if p found then f found else found).identity = found.identity
    split
    · exact hidentity found
    · rfl
  · show (if p found then f found else found).state.isTerminal = true
    split
    · rename_i hp
      rw [hopen found hp] at hterminal
      cases hterminal
    · exact hterminal

theorem Evolves.block {jobId reasonCode occurredUtc : String} :
    Evolves rows (blockAnalysesOfJob rows jobId reasonCode occurredUtc) := by
  refine Evolves.updateWhere (fun _ => rfl) (fun _ => rfl) fun r hp => ?_
  simp only [Bool.and_eq_true, Bool.not_eq_true'] at hp
  exact hp.2

theorem Evolves.requeue : Evolves rows (requeueInterruptedBackupAnalyses rows) := by
  refine Evolves.updateWhere (fun _ => rfl) (fun _ => rfl) fun r hp => ?_
  rw [of_decide_eq_true hp]
  rfl

end

section
variable {c c' : JobCatalog} {host : SchedulerContext}

def KeepsScheduleJobs (c c' : JobCatalog) : Prop :=
  ∀ schedule ∈ c'.schedules, ∃ old ∈ c.schedules, schedule.jobId = old.jobId

theorem KeepsScheduleJobs.of_eq (h : c'.schedules = c.schedules) : KeepsScheduleJobs c c' :=
  fun schedule hschedule => ⟨schedule, h ▸ hschedule, rfl⟩

theorem KeepsScheduleJobs.unchanged {α : Type} {a b : α}
    (h : (.ok (c, a) : Except String (JobCatalog × α)) = .ok (c', b)) : KeepsScheduleJobs c c' := by
  obtain ⟨rfl, -⟩ := Prod.mk.inj (Except.ok.inj h)
  exact .of_eq rfl

variable {count : Nat}

theorem disableEnabledSchedules_jobs {jobId codePrefix : String}
    (h : c.disableEnabledSchedules host jobId codePrefix = .ok (c', count)) :
    KeepsScheduleJobs c c' := by
  unfold JobCatalog.disableEnabledSchedules at h
  simp only at h
  split at h
  · obtain ⟨rfl, -⟩ := Prod.mk.inj (Except.ok.inj h)
    exact .of_eq rfl
  · split at h
    · cases h
    · obtain ⟨rfl, -⟩ := Prod.mk.inj (Except.ok.inj h)
      intro schedule hschedule
      obtain ⟨old, hold, rfl⟩ := Table.mem_updateWhere.mp hschedule
      refine ⟨old, hold, ?_⟩
      split <;> rfl

theorem endable_jobs {ending : Ending} {current : JobLifecycleRecord}
    (h : c.endable host ending current = .ok (c', count)) : KeepsScheduleJobs c c' := by
  unfold JobCatalog.endable at h
  split at h
  · cases h
  · cases h
  · split at h
    · cases h
    · split at h
      · rename_i disabled hdisabled
        obtain rfl := Except.ok.inj h
        exact disableEnabledSchedules_jobs hdisabled
      · cases h

variable {command : ChangeJobLifecycleCommand} {occurredUtc : String}
  {outcome : JobLifecycleTransitionOutcome}

theorem applyArchive_schedules {row : JobRow}
    (h : c.applyArchive command occurredUtc row count = .ok (c', outcome)) :
    c'.schedules = c.schedules := by
  obtain ⟨recorded, hrecorded, h⟩ := Text.except_bind_ok h
  obtain ⟨rfl, -⟩ := recordEvent_ok hrecorded
  obtain ⟨rfl, -⟩ := Prod.mk.inj (Except.ok.inj h)
  rfl

theorem applyDelete_schedules {row : JobRow}
    (h : c.applyDelete command occurredUtc row count = .ok (c', outcome)) :
    c'.schedules = c.schedules := by
  unfold JobCatalog.applyDelete at h
  simp only at h
  split at h
  · cases h
  · obtain ⟨rfl, -⟩ := Prod.mk.inj (Except.ok.inj h)
    rfl

theorem changeLifecycle_jobs {name : JobLifecycleCommandName}
    (h : c.changeLifecycle host name command occurredUtc = .ok (c', outcome)) :
    KeepsScheduleJobs c c' := by
  cases name with
  | reactivate =>
    have h : c.reactivateStandardBackupJob command occurredUtc = .ok (c', outcome) := h
    rcases reactivateStandardBackupJob_cases h with ⟨rfl, -⟩ | ⟨-, hchange⟩
    · exact .of_eq rfl
    · cases hchange
      exact .of_eq rfl
  | archive =>
    have h : c.archiveStandardBackupJob host command occurredUtc = .ok (c', outcome) := h
    unfold archiveStandardBackupJob at h
    split at h
    · exact .unchanged h
    · split at h
      · exact .unchanged h
      · split at h
        · exact .unchanged h
        · rename_i disabled count row hdisabled _
          intro schedule hschedule
          rw [applyArchive_schedules h] at hschedule
          exact endable_jobs hdisabled schedule hschedule
        · cases h
  | delete =>
    have h : c.deleteStandardBackupJob host command occurredUtc = .ok (c', outcome) := h
    unfold deleteStandardBackupJob at h
    split at h
    · exact .unchanged h
    · split at h
      · exact .unchanged h
      · split at h
        · exact .unchanged h
        · rename_i disabled count row hdisabled _
          intro schedule hschedule
          rw [applyDelete_schedules h] at hschedule
          exact endable_jobs hdisabled schedule hschedule
        · cases h

variable {py : PathLibrary} {edit : UpdateStandardBackupJobCommand} {revisionId : String}
  {saving : JobSavingOutcome}

theorem saveEdit_jobs {current : SealedStandardBackupJob}
    (h : c.saveEdit py host edit current revisionId = .ok (c', saving)) :
    KeepsScheduleJobs c c' := by
  obtain ⟨appended, happended, h⟩ := Text.except_bind_ok h
  obtain ⟨⟨saved, count⟩, hsaved, h⟩ := Text.except_bind_ok h
  obtain ⟨rfl, -⟩ := Prod.mk.inj (Except.ok.inj h)
  obtain ⟨row, -, -, -, -, -, hc'⟩ := appendStandardBackupJobRevision_cases happended
  have hsame : appended.schedules = c.schedules := by rw [hc']
  unfold disableIfRequired at hsaved
  split at hsaved
  · exact fun schedule hschedule => hsame ▸ disableEnabledSchedules_jobs hsaved schedule hschedule
  · obtain ⟨rfl, -⟩ := Prod.mk.inj (Except.ok.inj hsaved)
    exact .of_eq hsame

theorem updateStandardBackupJobFromDraft_jobs
    (h : c.updateStandardBackupJobFromDraft py host edit revisionId = .ok (c', saving)) :
    KeepsScheduleJobs c c' := by
  unfold updateStandardBackupJobFromDraft at h
  split at h
  · exact .unchanged h
  · split at h
    · exact .unchanged h
    · rename_i current hcurrent
      simp only at h
      obtain ⟨issues, -, h⟩ := Text.except_bind_ok h
      cases issues with
      | cons issue rest => exact .unchanged h
      | nil =>
        obtain ⟨overlaps, -, h⟩ := Text.except_bind_ok h
        cases overlaps with
        | true => exact .unchanged h
        | false =>
          simp only [Bool.false_eq_true, if_false] at h
          split at h
          · exact .unchanged h
          · split at h
            · exact .unchanged h
            · exact saveEdit_jobs h

theorem saves_jobs {job : JobCommand} (hjob : ∀ a b c, job ≠ .elsewhere a b c)
    (hlifecycle : ∀ a b c, job ≠ .lifecycle a b c) :
    KeepsScheduleJobs c (performCommand py host c job) := by
  cases job with
  | create command draft ids =>
    refine committed_of (.of_eq rfl) fun c' outcome hcreate => ?_
    rcases createStandardBackupJobFromDraft_cases hcreate with rfl | ⟨job, -, hsaved⟩
    · exact .of_eq rfl
    · obtain ⟨-, -, -, rfl⟩ := saveStandardBackupJob_cases hsaved
      exact .of_eq rfl
  | edit command revisionId =>
    refine committed_of (.of_eq rfl) fun c' outcome hedit => ?_
    exact updateStandardBackupJobFromDraft_jobs hedit
  | lifecycle name command occurredUtc => exact absurd rfl (hlifecycle _ _ _)
  | elsewhere schedules requests runs => exact absurd rfl (hjob _ _ _)

end

def Worker.held : Worker → Option BackupAnalysisRequest
  | .reporting request => some request
  | worker => worker.unfinished

/-- Each occurrence has its request, each of its runs its key; a settled occurrence has an ended
request, and one whose request is held is open. -/
structure Traced (s : JobEngine) : Prop where
  sound : s.desk.triggers.Sound
  schedules : ∀ schedule ∈ s.desk.catalog.schedules, isIdentifier schedule.jobId = true
  requests : RequestsUnique s.desk.catalog.requests
  runIds : Table.KeysUnique StartedRun.runId s.desk.catalog.runs
  runKeys : Table.KeysUnique StartedRun.idempotencyKey s.desk.catalog.runs
  origin : ∀ occurrence ∈ s.desk.triggers.occurrences, ∃ request,
    loadBackupAnalysisRequest s.desk.catalog.requests occurrence.occurrenceId = some request ∧
      request.commandIdempotencyKey = occurrence.firstDeliveryId ∧
      request.jobId = occurrence.jobId ∧ request.startWhenSafe = true ∧
      (occurrence.state ≠ .received → request.state.isTerminal = true)
  working : ∀ request, s.worker.held = some request →
    ∀ occurrence ∈ s.desk.triggers.occurrences, occurrence.occurrenceId = request.requestId →
      occurrence.state = .received
  reporting : ∀ request, s.worker = .reporting request → ∃ row,
    loadBackupAnalysisRequest s.desk.catalog.requests request.requestId = some row ∧
      row.state.isTerminal = true
  runs : ∀ run ∈ s.desk.catalog.runs, ∀ occurrenceId, run.triggerOccurrenceId = some occurrenceId →
    run.idempotencyKey = safeRunKey occurrenceId

/-- A step keeps the traces, and the outcomes that are settled. -/
structure Follows (s s' : JobEngine) : Prop where
  traced : Traced s'
  outcomes : ∀ key outcome, s.desk.triggers.outcome key = some outcome →
    s'.desk.triggers.outcome key = some outcome

section
variable {s s' : JobEngine}

theorem Traced.stay (h : Traced s) : Follows s s := ⟨h, fun _ _ houtcome => houtcome⟩

structure RunsTraced (c : JobCatalog) : Prop where
  runIds : Table.KeysUnique StartedRun.runId c.runs
  runKeys : Table.KeysUnique StartedRun.idempotencyKey c.runs
  runs : ∀ run ∈ c.runs, ∀ occurrenceId, run.triggerOccurrenceId = some occurrenceId →
    run.idempotencyKey = safeRunKey occurrenceId

theorem Traced.runsTraced (h : Traced s) : RunsTraced s.desk.catalog :=
  ⟨h.runIds, h.runKeys, h.runs⟩

theorem Traced.evolve (h : Traced s) (htriggers : s'.desk.triggers = s.desk.triggers)
    (hschedules : ∀ schedule ∈ s'.desk.catalog.schedules, isIdentifier schedule.jobId = true)
    (hunique : RequestsUnique s'.desk.catalog.requests)
    (hevolves : Evolves s.desk.catalog.requests s'.desk.catalog.requests)
    (hruns : RunsTraced s'.desk.catalog)
    (hworking : ∀ request, s'.worker.held = some request →
      ∀ occurrence ∈ s.desk.triggers.occurrences, occurrence.occurrenceId = request.requestId →
        occurrence.state = .received)
    (hreporting : ∀ request, s'.worker = .reporting request → ∃ row,
      loadBackupAnalysisRequest s'.desk.catalog.requests request.requestId = some row ∧
        row.state.isTerminal = true) : Follows s s' := by
  refine ⟨⟨htriggers ▸ h.sound, hschedules, hunique, hruns.runIds, hruns.runKeys, ?_,
    htriggers ▸ hworking, hreporting, hruns.runs⟩, fun key outcome houtcome => htriggers ▸ houtcome⟩
  intro occurrence hoccurrence
  rw [htriggers] at hoccurrence
  obtain ⟨request, hload, hkey, hjob, hsafe, hended⟩ := h.origin occurrence hoccurrence
  obtain ⟨request', hload', hidentity, hkept⟩ := hevolves _ request hload
  have hkey' : request'.commandIdempotencyKey = request.commandIdempotencyKey :=
    congrArg Prod.fst hidentity
  have hjob' : request'.jobId = request.jobId := congrArg (fun x => x.2.1) hidentity
  have hsafe' : request'.startWhenSafe = request.startWhenSafe :=
    congrArg (fun x => x.2.2.2) hidentity
  exact ⟨request', hload', hkey'.trans hkey, hjob'.trans hjob, hsafe'.trans hsafe,
    fun hstate => hkept (hended hstate)⟩

theorem Traced.reporting_evolve (h : Traced s) {rows : List BackupAnalysisRequest}
    (hevolves : Evolves s.desk.catalog.requests rows) {request : BackupAnalysisRequest}
    (hworker : s.worker = .reporting request) : ∃ row,
      loadBackupAnalysisRequest rows request.requestId = some row ∧
        row.state.isTerminal = true := by
  obtain ⟨row, hload, hterminal⟩ := h.reporting request hworker
  obtain ⟨row', hload', -, hkept⟩ := hevolves _ row hload
  exact ⟨row', hload', hkept hterminal⟩

theorem Traced.catalog (h : Traced s) {c' : JobCatalog} {receipts : List JobReceipt}
    {answers : List LifecycleAnswer} (hjobs : KeepsScheduleJobs s.desk.catalog c')
    (hunique : RequestsUnique c'.requests) (hevolves : Evolves s.desk.catalog.requests c'.requests)
    (hruns : RunsTraced c') :
    Follows s { s with desk := { s.desk with catalog := c', receipts }, answers } := by
  refine h.evolve rfl (fun schedule hschedule => ?_) hunique hevolves hruns h.working
    fun request hworker => h.reporting_evolve hevolves hworker
  obtain ⟨old, hold, hjob⟩ := hjobs schedule hschedule
  exact hjob ▸ h.schedules old hold

theorem Traced.work (h : Traced s) {worker : Worker}
    (hheld : ∀ request, worker.held = some request → s.worker.held = some request)
    (hreporting : ∀ request, worker ≠ .reporting request) : Follows s { s with worker } :=
  h.evolve rfl h.schedules h.requests Evolves.refl h.runsTraced
    (fun request hrequest => h.working request (hheld request hrequest))
    fun request hworker => absurd hworker (hreporting request)

theorem RunsTraced.start {c c' : JobCatalog} (h : RunsTraced c) {command : StartRunCommand}
    {plan : Option StartablePlan} {readsLifecycle : Bool} {runId : String}
    {recorded : Except String Unit} {outcome : RunStartOutcome}
    (hstart : c.prepareRun command plan readsLifecycle runId recorded = .ok (c', outcome))
    (hkey : ∀ occurrenceId, command.triggerOccurrenceId = some occurrenceId →
      command.effectiveRunIdempotencyKey = safeRunKey occurrenceId) :
    RunsTraced c' ∧ c'.requests = c.requests ∧ c'.schedules = c.schedules := by
  rcases prepareRun_cases hstart with ⟨rfl, -⟩ | ⟨found, -, hstarts, rfl, -⟩
  · exact ⟨h, rfl, rfl⟩
  · refine ⟨⟨h.runIds.insert hstarts.freshId, h.runKeys.insert hstarts.freshKey, ?_⟩, rfl, rfl⟩
    intro run hrun occurrenceId htrigger
    rcases Table.mem_insert.mp hrun with hold | rfl
    · exact h.runs run hold occurrenceId htrigger
    · exact hkey occurrenceId htrigger

theorem RunsTraced.move {c : JobCatalog} (h : RunsTraced c) {run moved : StartedRun}
    (hrun : c.loadStartedRun moved.runId = some run)
    (hkey : moved.idempotencyKey = run.idempotencyKey)
    (htrigger : moved.triggerOccurrenceId = run.triggerOccurrenceId) :
    RunsTraced { c with runs := Table.overwrite StartedRun.runId c.runs moved } := by
  have hmem : run ∈ c.runs := Table.lookup_mem hrun
  have hid : run.runId = moved.runId := Table.lookup_key hrun
  have hkeys : (Table.overwrite StartedRun.runId c.runs moved).map StartedRun.idempotencyKey =
      c.runs.map StartedRun.idempotencyKey := by
    unfold Table.overwrite
    rw [List.map_map]
    refine List.map_congr_left fun other hother => ?_
    show (if other.runId = moved.runId then moved else other).idempotencyKey = other.idempotencyKey
    split
    · rename_i hsame
      rw [Table.key_injOn h.runIds hother hmem (hsame.trans hid.symm), hkey]
    · rfl
  refine ⟨h.runIds.overwrite, ?_, fun other hother occurrenceId hoccurrence => ?_⟩
  · show ((Table.overwrite StartedRun.runId c.runs moved).map StartedRun.idempotencyKey).Nodup
    rw [hkeys]
    exact h.runKeys
  · rcases Table.mem_overwrite hother with rfl | ⟨hold, -⟩
    · rw [hkey]
      exact h.runs run hmem occurrenceId (htrigger ▸ hoccurrence)
    · exact h.runs other hold occurrenceId hoccurrence

end

structure Proceeds (c c' : JobCatalog) : Prop where
  jobs : KeepsScheduleJobs c c'
  unique : RequestsUnique c.requests → RequestsUnique c'.requests
  evolves : Evolves c.requests c'.requests
  runs : c'.runs = c.runs

section
variable {s s' : JobEngine} {c c' : JobCatalog}

theorem Proceeds.refl : Proceeds c c := ⟨.of_eq rfl, id, Evolves.refl, rfl⟩

theorem Proceeds.enqueue {rows : List BackupAnalysisRequest}
    {request recorded : BackupAnalysisRequest}
    (h : enqueueBackupAnalysis c.requests request = .ok (rows, recorded)) :
    Proceeds c { c with requests := rows } := by
  refine ⟨.of_eq rfl, fun hunique => ?_, Evolves.enqueue h, rfl⟩
  rcases enqueueBackupAnalysis_cases h with ⟨rfl, -, -⟩ | ⟨hnone, rfl, hid, -, -⟩
  · exact hunique
  · exact hunique.insert (hid ▸ hnone)

theorem Traced.proceed (h : Traced s) (hproceeds : Proceeds s.desk.catalog c')
    (receipts : List JobReceipt) (answers : List LifecycleAnswer) :
    Follows s { s with desk := { s.desk with catalog := c', receipts }, answers } := by
  have hruns : RunsTraced c' := by
    have hsame := hproceeds.runs
    exact ⟨hsame ▸ h.runIds, hsame ▸ h.runKeys, hsame ▸ h.runs⟩
  exact h.catalog hproceeds.jobs (hproceeds.unique h.requests) hproceeds.evolves hruns

variable {host : SchedulerContext} {name : JobLifecycleCommandName}
  {command : ChangeJobLifecycleCommand} {occurredUtc : String}

theorem Proceeds.changeLifecycle {outcome : JobLifecycleTransitionOutcome}
    (h : c.changeLifecycle host name command occurredUtc = .ok (c', outcome)) : Proceeds c c' := by
  have hjobs := changeLifecycle_jobs h
  rcases changeLifecycle_cases h with ⟨rfl, -⟩ | ⟨-, hchange⟩
  · exact Proceeds.refl
  · have heffects := hchange.effects
    by_cases hname : name = .reactivate
    · have hrequests := (heffects.reactivation hname).2.2
      exact ⟨hjobs, fun hunique => hrequests ▸ hunique, hrequests ▸ Evolves.refl, heffects.runs⟩
    · obtain ⟨-, reasonCode, hrequests⟩ := heffects.ending hname
      refine ⟨hjobs, fun hunique => ?_, hrequests ▸ Evolves.block, heffects.runs⟩
      rw [hrequests]
      exact hunique.updateWhere fun _ => rfl

theorem Proceeds.trans {c'' : JobCatalog} (h : Proceeds c c') (h' : Proceeds c' c'') :
    Proceeds c c'' := by
  refine ⟨fun schedule hschedule => ?_, fun hunique => h'.unique (h.unique hunique),
    fun requestId request hload => ?_, h'.runs.trans h.runs⟩
  · obtain ⟨middle, hmiddle, hjob⟩ := h'.jobs schedule hschedule
    obtain ⟨old, hold, hjob'⟩ := h.jobs middle hmiddle
    exact ⟨old, hold, hjob.trans hjob'⟩
  · obtain ⟨middle, hmiddle, hidentity, hended⟩ := h.evolves requestId request hload
    obtain ⟨last, hlast, hidentity', hended'⟩ := h'.evolves requestId middle hmiddle
    exact ⟨last, hlast, hidentity'.trans hidentity, fun hterminal => hended' (hended hterminal)⟩

variable {identity : EnvelopeIdentity}

theorem Proceeds.dispatch {d d' : Desk} {answer : Answer JobLifecycleTransitionOutcome}
    (h : d.dispatchJobLifecycle host name command identity occurredUtc = .ok (d', answer)) :
    Proceeds d.catalog d'.catalog ∧ d'.triggers = d.triggers := by
  unfold Desk.dispatchJobLifecycle at h
  split at h
  · obtain ⟨rfl, -⟩ := Prod.mk.inj (Except.ok.inj h)
    exact ⟨Proceeds.refl, rfl⟩
  · split at h
    · obtain ⟨⟨catalog, outcome⟩, hchange, h⟩ := Text.except_bind_ok h
      have hproceeds := Proceeds.changeLifecycle hchange
      simp only at h
      split at h
      all_goals
        obtain ⟨rfl, -⟩ := Prod.mk.inj (Except.ok.inj h)
        exact ⟨hproceeds, rfl⟩
    · obtain ⟨⟨catalog, outcome⟩, hchange, h⟩ := Text.except_bind_ok h
      have hproceeds := Proceeds.changeLifecycle hchange
      simp only at h
      split at h
      · obtain ⟨requests, hrequests, h⟩ := Text.except_bind_ok h
        obtain ⟨rfl, -⟩ := Prod.mk.inj (Except.ok.inj h)
        refine ⟨hproceeds.trans ?_, rfl⟩
        cases name with
        | reactivate =>
          obtain ⟨⟨rows, recorded⟩, henqueue, rfl⟩ := Text.except_map_ok hrequests
          exact Proceeds.enqueue henqueue
        | archive =>
          obtain rfl := Except.ok.inj hrequests
          exact Proceeds.refl
        | delete =>
          obtain rfl := Except.ok.inj hrequests
          exact Proceeds.refl
      · obtain ⟨rfl, -⟩ := Prod.mk.inj (Except.ok.inj h)
        exact ⟨hproceeds, rfl⟩

theorem Traced.lifecycle (h : Traced s) :
    Follows s (s.lifecycle host name command identity occurredUtc) := by
  unfold JobEngine.lifecycle
  split
  · exact h.stay
  · rename_i desk answer hdispatch
    obtain ⟨hproceeds, htriggers⟩ := Proceeds.dispatch hdispatch
    have hdesk : desk = { s.desk with catalog := desk.catalog, receipts := desk.receipts } := by
      cases desk
      cases htriggers
      rfl
    rw [hdesk]
    exact h.proceed hproceeds _ _

theorem Traced.saveJob (h : Traced s) {py : PathLibrary} {command : JobCommand}
    (hstep : s.saveJob py host command = some s') : Follows s s' := by
  have hproceeds : ∀ c', s.desk.catalog.Saves c' → KeepsScheduleJobs s.desk.catalog c' →
      Proceeds s.desk.catalog c' := by
    intro c' hsaves hjobs
    have hrequests := hsaves.requests
    exact ⟨hjobs, fun hunique => hrequests ▸ hunique, hrequests ▸ Evolves.refl, hsaves.runs⟩
  cases command with
  | create command draft ids =>
    obtain rfl := Option.some.inj hstep
    exact h.proceed (hproceeds _ (saves_create command draft ids)
      (saves_jobs (fun _ _ _ h => by cases h) fun _ _ _ h => by cases h)) _ _
  | edit command revisionId =>
    obtain rfl := Option.some.inj hstep
    exact h.proceed (hproceeds _ (saves_edit command revisionId)
      (saves_jobs (fun _ _ _ h => by cases h) fun _ _ _ h => by cases h)) _ _
  | lifecycle => cases hstep
  | elsewhere => cases hstep

theorem Traced.saveSchedules (h : Traced s) {schedules : List ScheduleDefinition}
    (hstep : s.saveSchedules schedules = some s') : Follows s s' := by
  unfold JobEngine.saveSchedules at hstep
  split at hstep
  · cases hstep
  · rename_i hvalid
    rw [Bool.not_eq_true, Bool.not_eq_false', List.all_eq_true] at hvalid
    obtain rfl := Option.some.inj hstep
    exact h.evolve rfl hvalid h.requests Evolves.refl ⟨h.runIds, h.runKeys, h.runs⟩ h.working
      h.reporting

theorem Traced.receipts (h : Traced s) (receipts : List JobReceipt) :
    Follows s { s with desk := { s.desk with receipts } } :=
      h.proceed Proceeds.refl receipts s.answers

theorem Traced.otherReceipt (h : Traced s) {receipt : JobReceipt}
    (hstep : s.otherReceipt receipt = some s') : Follows s s' := by
  unfold JobEngine.otherReceipt at hstep
  split at hstep
  · cases hstep
  · split at hstep
    · obtain rfl := Option.some.inj hstep
      exact h.receipts _
    · split at hstep
      · cases hstep
      · obtain rfl := Option.some.inj hstep
        exact h.receipts _

theorem Traced.gateClosed (h : Traced s) (incoming : JobReceipt) :
    Follows s { s with desk := s.desk.recordGateClosed incoming } := by
  unfold Desk.recordGateClosed
  split
  · exact h.stay
  · split
    · exact h.stay
    · exact h.receipts _

theorem Traced.checkBackup (h : Traced s) {command : CheckBackupCommand} {requestedUtc : String} :
    Follows s (s.atDesk (s.desk.dispatchCheckBackup command identity requestedUtc)) := by
  unfold JobEngine.atDesk
  split
  · rename_i desk answer hd
    unfold Desk.dispatchCheckBackup at hd
    split at hd
    · obtain ⟨rfl, -⟩ := Prod.mk.inj (Except.ok.inj hd)
      exact h.stay
    · split at hd
      · obtain ⟨rfl, -⟩ := Prod.mk.inj (Except.ok.inj hd)
        exact h.stay
      · split at hd
        · obtain ⟨rfl, -⟩ := Prod.mk.inj (Except.ok.inj hd)
          exact h.receipts _
        · obtain ⟨⟨rows, recorded⟩, henqueue, hd⟩ := Text.except_bind_ok hd
          obtain ⟨rfl, -⟩ := Prod.mk.inj (Except.ok.inj hd)
          exact h.proceed (Proceeds.enqueue henqueue) _ _
  · exact h.stay

variable {plan : Option StartablePlan} {recorded : Except String Unit}

theorem Traced.prepareRun (h : Traced s) {command : StartRunCommand} {readsLifecycle : Bool}
    {runId : String} {outcome : RunStartOutcome}
    (hstart : s.desk.catalog.prepareRun command plan readsLifecycle runId recorded =
      .ok (c', outcome)) (hkey : ∀ occurrenceId, command.triggerOccurrenceId = some occurrenceId →
      command.effectiveRunIdempotencyKey = safeRunKey occurrenceId) (receipts : List JobReceipt) :
    Follows s { s with desk := { s.desk with catalog := c', receipts } } := by
  obtain ⟨hruns, hrequests, hschedules⟩ := h.runsTraced.start hstart hkey
  exact h.catalog (.of_eq hschedules) (hrequests ▸ h.requests) (hrequests ▸ Evolves.refl) hruns

theorem Traced.startRun (h : Traced s) {requestId idempotencyKey planId planChecksum : String}
    {runId : String} : Follows s (s.atDesk (s.desk.dispatchStartRun
      (parseStartRunCommand requestId idempotencyKey planId planChecksum) identity plan runId
      recorded)) := by
  unfold JobEngine.atDesk
  split
  · rename_i desk answer hd
    unfold Desk.dispatchStartRun at hd
    split at hd
    · obtain ⟨rfl, -⟩ := Prod.mk.inj (Except.ok.inj hd)
      exact h.stay
    · split at hd
      · obtain ⟨rfl, -⟩ := Prod.mk.inj (Except.ok.inj hd)
        exact h.stay
      · obtain ⟨⟨catalog, outcome⟩, hprepared, hd⟩ := Text.except_bind_ok hd
        have hfollows := h.prepareRun hprepared fun _ htrigger => by cases htrigger
        simp only at hd
        split at hd
        all_goals
          obtain ⟨rfl, -⟩ := Prod.mk.inj (Except.ok.inj hd)
          exact hfollows _
  · exact h.stay

end

section
variable {s s' : JobEngine} {installationId : String} {command : EnqueueTriggerOccurrenceCommand}
  {schedule : ScheduleDefinition} {job : SealedStandardBackupJob}

theorem isSpace_of_identifierChar {first : Bool} {c : Char} (h : isIdentifierChar first c = true) :
    Text.isSpace c = false := by
  have hrange : (33 ≤ c.toNat ∧ c.toNat ≤ 126) := by
    simp only [isIdentifierChar, Text.isAsciiLetter, Bool.or_eq_true, Bool.and_eq_true,
      decide_eq_true_eq, Char.le_def, UInt32.le_iff_toNat_le, List.contains_iff_mem,
      List.mem_cons, List.not_mem_nil, or_false] at h
    have htoNat : c.toNat = c.val.toNat := rfl
    rcases h with ((⟨h₁, h₂⟩ | ⟨h₁, h₂⟩) | ⟨h₁, h₂⟩) | ⟨-, rfl | rfl | rfl | rfl⟩
    · exact ⟨Nat.le_trans (by decide) h₁, Nat.le_trans h₂ (by decide)⟩
    · exact ⟨Nat.le_trans (by decide) h₁, Nat.le_trans h₂ (by decide)⟩
    · exact ⟨Nat.le_trans (by decide) h₁, Nat.le_trans h₂ (by decide)⟩
    all_goals decide
  unfold Text.isSpace
  simp only [Bool.or_eq_false_iff, Bool.and_eq_false_iff, decide_eq_false_iff_not,
    beq_eq_false_iff_ne]
  omega

theorem strip_identifier {value : String} (h : isIdentifier value = true) :
    Text.strip value = value := by
  have hall : ∀ c ∈ value.toList, Text.isSpace c = false := by
    unfold isIdentifier at h
    split at h
    · cases h
    · rename_i first rest hlist
      simp only [Bool.and_eq_true, List.all_eq_true] at h
      rw [hlist]
      rintro c (_ | ⟨_, hc⟩)
      · exact isSpace_of_identifierChar h.1.1
      · exact isSpace_of_identifierChar (h.1.2 c hc)
  have hkept : ∀ text : List Char, (∀ c ∈ text, Text.isSpace c = false) →
      text.dropWhile Text.isSpace = text := by
    intro text htext
    cases text with
    | nil => rfl
    | cons c rest =>
      refine List.dropWhile_cons_of_neg ?_
      rw [htext c List.mem_cons_self]
      exact Bool.false_ne_true
  unfold Text.strip
  rw [hkept value.toList hall, hkept value.toList.reverse fun c hc =>
    hall c (List.mem_reverse.mp hc),
    List.reverse_reverse, String.ofList_toList]

theorem admitTrigger_schedule {c : JobCatalog} (h : c.admitTrigger command = .ok (schedule, job)) :
    schedule ∈ c.schedules := by
  unfold JobCatalog.admitTrigger at h
  split at h
  · cases h
  · cases h
  · cases h
  · rename_i found hresolved
    have hmem : found ∈ c.schedules := by
      unfold JobCatalog.resolveScheduleForTrigger at hresolved
      split at hresolved
      · cases hresolved
      · rename_i row hrow
        split at hresolved
        · cases hresolved
        · split at hresolved
          · cases hresolved
          · obtain rfl := ScheduleTriggerResolution.ready.inj hresolved
            exact Table.lookup_mem hrow
    split at h
    · cases h
    · split at h
      · cases h
      · split at h
        · cases h
        · obtain ⟨rfl, -⟩ := Prod.mk.inj (Except.ok.inj h)
          exact hmem

theorem buildTriggerOccurrence_ok {jobId : String} {built : TriggerOccurrence}
    (h : buildTriggerOccurrence installationId jobId command = .ok built) :
    built.state = .received ∧ built.occurrenceId = occurrenceIdOf built.deduplicationKey ∧
      built.firstDeliveryId = command.delivery.deliveryId ∧ built.jobId = Text.strip jobId := by
  obtain ⟨strippedInstallation, -, h⟩ := Text.except_bind_ok h
  obtain ⟨strippedJob, hjob, h⟩ := Text.except_bind_ok h
  simp only [requiredIdentifier, Text.check_bind_eq_ok, pure, Except.pure, Except.ok.injEq] at hjob
  obtain rfl := Except.ok.inj h
  exact ⟨rfl, rfl, rfl, hjob.2.2.symm⟩

theorem Follows.trans {m : JobEngine} (h : Follows s m) (h' : Follows m s') : Follows s s' :=
  ⟨h'.traced, fun key outcome houtcome => h'.outcomes key outcome (h.outcomes key outcome houtcome)⟩

theorem Traced.insertOccurrence (h : Traced s) {incoming : TriggerOccurrence}
    {request : BackupAnalysisRequest}
    (hload : s.desk.triggers.load incoming.deduplicationKey = none)
    (htombstone : s.desk.triggers.loadTombstone incoming.deduplicationKey = none)
    (hid : incoming.occurrenceId = occurrenceIdOf incoming.deduplicationKey)
    (hstate : incoming.state = .received)
    (hrequest : loadBackupAnalysisRequest s.desk.catalog.requests incoming.occurrenceId =
      some request)
    (hidentity : request.commandIdempotencyKey = incoming.firstDeliveryId ∧
      request.jobId = incoming.jobId ∧ request.startWhenSafe = true) :
    Follows s { s with desk := { s.desk with triggers := { s.desk.triggers with
      occurrences := Table.insert s.desk.triggers.occurrences incoming } } } := by
  refine ⟨⟨h.sound.insert hload htombstone hid, h.schedules, h.requests, h.runIds, h.runKeys,
    fun occurrence hoccurrence => ?_, fun held hheld occurrence hoccurrence hsame => ?_,
    h.reporting, h.runs⟩, fun key outcome houtcome => ?_⟩
  · rcases Table.mem_insert.mp hoccurrence with hold | rfl
    · exact h.origin occurrence hold
    · exact ⟨request, hrequest, hidentity.1, hidentity.2.1, hidentity.2.2,
        fun hsettled => absurd hstate hsettled⟩
  · rcases Table.mem_insert.mp hoccurrence with hold | rfl
    · exact h.working held hheld occurrence hold hsame
    · exact hstate
  · have hsame := TriggerTables.outcome_insert hload htombstone (by rw [hstate]; rfl) key
    exact hsame.trans houtcome

theorem Traced.enqueueAdmitted (h : Traced s) {d' : Desk} {outcome : TriggerRunEnqueueOutcome}
    (hadmitted : s.desk.catalog.admitTrigger command = .ok (schedule, job))
    (hd : s.desk.enqueueAdmitted installationId command schedule job = .ok (d', outcome))
    (receipts : List JobReceipt) : Follows s { s with desk := { d' with receipts } } := by
  obtain ⟨built, hbuilt, hd⟩ := Text.except_bind_ok hd
  obtain ⟨⟨triggers, registration⟩, hrecorded, hd⟩ := Text.except_bind_ok hd
  simp only at hd
  rcases TriggerTables.recordReceived_cases hrecorded with
    ⟨existing, -, -, rfl, -⟩ | ⟨tombstone, -, -, -, rfl, -⟩ | ⟨hload, htombstone, rfl, rfl⟩
  iterate 2
    · -- the trigger tables stay
      split at hd
      · obtain ⟨rfl, -⟩ := Prod.mk.inj (Except.ok.inj hd)
        exact h.receipts receipts
      · obtain ⟨⟨rows, recorded⟩, henqueue, hd⟩ := Text.except_bind_ok hd
        obtain ⟨rfl, -⟩ := Prod.mk.inj (Except.ok.inj hd)
        exact h.proceed (Proceeds.enqueue henqueue) _ _
  · obtain ⟨hstate, hid, hdelivery, hjob⟩ := buildTriggerOccurrence_ok hbuilt
    rw [if_neg (by rw [hstate]; decide)] at hd
    obtain ⟨⟨rows, recorded⟩, henqueue, hd⟩ := Text.except_bind_ok hd
    obtain ⟨rfl, -⟩ := Prod.mk.inj (Except.ok.inj hd)
    have hproceed := h.proceed (Proceeds.enqueue henqueue) receipts s.answers
    have hrow : loadBackupAnalysisRequest rows built.occurrenceId = some recorded ∧
        recorded.identity =
          (requestOfOccurrence built job command.delivery.observedStartUtc).identity := by
      rcases enqueueBackupAnalysis_cases henqueue with
        ⟨rfl, hfound, hidentity⟩ | ⟨hnone, rfl, hkey, hidentity, -⟩
      · exact ⟨hfound, hidentity⟩
      · refine ⟨?_, hidentity⟩
        rw [← show recorded.requestId = built.occurrenceId from hkey]
        exact Table.lookup_insert_self (hkey ▸ hnone)
    have hschedule := h.schedules schedule (admitTrigger_schedule hadmitted)
    have hsameJob : recorded.jobId = built.jobId := by
      rw [hjob, strip_identifier hschedule, ← (admitTrigger_active hadmitted).2]
      exact congrArg (fun x => x.2.1) hrow.2
    refine hproceed.trans (hproceed.traced.insertOccurrence hload htombstone hid hstate hrow.1 ?_)
    exact ⟨congrArg Prod.fst hrow.2, hsameJob, congrArg (fun x => x.2.2.2) hrow.2⟩

theorem Traced.trigger (h : Traced s) {identity : EnvelopeIdentity} :
    Follows s (s.atDesk (s.desk.dispatchTriggerOccurrence installationId command identity)) := by
  unfold JobEngine.atDesk
  split
  · rename_i desk answer hd
    unfold Desk.dispatchTriggerOccurrence at hd
    split at hd
    · obtain ⟨rfl, -⟩ := Prod.mk.inj (Except.ok.inj hd)
      exact h.stay
    · split at hd
      · obtain ⟨rfl, -⟩ := Prod.mk.inj (Except.ok.inj hd)
        exact h.stay
      · obtain ⟨⟨d', outcome⟩, hd', hd⟩ := Text.except_bind_ok hd
        have hfollows : ∀ receipts, Follows s { s with desk := { d' with receipts } } := by
          intro receipts
          unfold Desk.enqueueTriggerOccurrenceAnalysis at hd'
          split at hd'
          · obtain ⟨rfl, -⟩ := Prod.mk.inj (Except.ok.inj hd')
            exact h.receipts receipts
          · rename_i hadmitted
            exact h.enqueueAdmitted hadmitted hd' receipts
        simp only at hd
        split at hd
        all_goals
          obtain ⟨rfl, -⟩ := Prod.mk.inj (Except.ok.inj hd)
          exact hfollows _
  · exact h.stay

end

section

open TriggerTables

variable {s s' : JobEngine}

theorem Traced.claim (h : Traced s) {startedUtc : String} (hstep : s.claim startedUtc = some s') :
    Follows s s' := by
  unfold JobEngine.claim at hstep
  split at hstep
  · rename_i hidle
    split at hstep
    · obtain rfl := Option.some.inj hstep
      exact h.stay
    · rename_i requests request hclaim
      obtain rfl := Option.some.inj hstep
      obtain ⟨row, hrow, hqueued, -, rfl, rfl⟩ := claimNextBackupAnalysis_cases hclaim
      have hload : loadBackupAnalysisRequest s.desk.catalog.requests row.requestId = some row :=
        Table.lookup_of_mem h.requests hrow
      have hopen : row.state.isTerminal = false := by rw [hqueued]; rfl
      refine h.evolve rfl h.schedules h.requests.overwrite (Evolves.overwrite hload hopen rfl)
        ⟨h.runIds, h.runKeys, h.runs⟩ (fun held hheld occurrence hoccurrence hsame => ?_)
        fun held hworker => by cases hworker
      obtain rfl := Option.some.inj hheld
      -- a settled occurrence has an ended request, and this one was queued
      refine Decidable.byContradiction fun hsettled => ?_
      obtain ⟨found, hfound, -, -, -, hended⟩ := h.origin occurrence hoccurrence
      obtain rfl := Option.some.inj (hload.symm.trans (hsame ▸ hfound))
      rw [hended hsettled] at hopen
      cases hopen
  · cases hstep

theorem Traced.lookForActiveRun (h : Traced s) (hstep : s.lookForActiveRun = some s') :
    Follows s s' := by
  unfold JobEngine.lookForActiveRun at hstep
  split at hstep
  · rename_i request hworker
    split at hstep
    all_goals
      obtain rfl := Option.some.inj hstep
      exact h.work (fun held hheld => by rw [hworker]; exact hheld) fun _ hother => by cases hother
  · cases hstep

theorem Traced.analyse (h : Traced s) {reports : Except String AnalysisReports}
    (hstep : s.analyse reports = some s') : Follows s s' := by
  unfold JobEngine.analyse at hstep
  split at hstep
  · rename_i request error hworker
    obtain rfl := Option.some.inj hstep
    exact h.work (fun held hheld => by rw [hworker]; exact hheld) fun _ hother => by cases hother
  · rename_i request reports hworker
    split at hstep
    · obtain rfl := Option.some.inj hstep
      exact h.work (fun held hheld => by rw [hworker]; exact hheld) fun _ hother => by cases hother
    · split at hstep
      · cases hstep
      · obtain rfl := Option.some.inj hstep
        exact h.work (fun held hheld => by rw [hworker]; exact hheld)
          fun _ hother => by cases hother
  · cases hstep

theorem safeRunKey_ne_empty (requestId : String) : safeRunKey requestId ≠ "" := by
  have hne : ¬ ("backup-analysis-run:" = "" ∧ requestId = "") := by simp
  exact fun hempty => hne (String.append_eq_empty_iff.mp hempty)

variable {request : BackupAnalysisRequest} {occurrenceId : String}

theorem safeStartCommand_key {plan : StartablePlan}
    (h : (request.safeStartCommand plan).triggerOccurrenceId = some occurrenceId) :
    (request.safeStartCommand plan).effectiveRunIdempotencyKey = safeRunKey occurrenceId := by
  have hrequest : request.requestId = occurrenceId := by
    unfold BackupAnalysisRequest.safeStartCommand at h
    split at h
    · exact Option.some.inj h
    · cases h
  show (truthy (some (safeRunKey request.requestId))).getD _ = _
  rw [truthy, Option.filter_some, decide_eq_true (safeRunKey_ne_empty _), hrequest]
  rfl

theorem Traced.safeStart (h : Traced s) {runId : String} {recorded advanced : Except String Unit}
    (hstep : s.safeStart runId recorded advanced = some s') : Follows s s' := by
  unfold JobEngine.safeStart at hstep
  split at hstep
  · rename_i request plan result hworker
    split at hstep
    · obtain rfl := Option.some.inj hstep
      exact h.work (fun held hheld => by rw [hworker]; exact hheld) fun _ hother => by cases hother
    · rename_i catalog outcome hprepared
      have hstarted := h.prepareRun hprepared (fun _ => safeStartCommand_key) s.desk.receipts
      simp only at hstep
      split at hstep
      all_goals
        obtain rfl := Option.some.inj hstep
        exact hstarted.trans (hstarted.traced.work (fun held hheld => by
          show s.worker.held = some held
          rw [hworker]
          exact hheld) fun _ hother => by cases hother)
  · cases hstep

theorem Traced.complete (h : Traced s) {completedUtc : String}
    (hstep : s.complete completedUtc = some s') : Follows s s' := by
  unfold JobEngine.complete at hstep
  split at hstep
  · rename_i request completion guarded hworker
    split at hstep
    · rename_i requests completed hcomplete
      obtain rfl := Option.some.inj hstep
      obtain ⟨row, hload, hrunning, hterminal, hstate, hid, hidentity, -, rfl⟩ :=
        completeBackupAnalysis_cases hcomplete
      have hkey : row.requestId = request.requestId := Table.lookup_key hload
      have hrow : loadBackupAnalysisRequest s.desk.catalog.requests completed.requestId =
          some row := by rw [hid, hkey]; exact hload
      have hopen : row.state.isTerminal = false := by rw [hrunning]; rfl
      refine h.evolve rfl h.schedules h.requests.overwrite (Evolves.overwrite hrow hopen hidentity)
        ⟨h.runIds, h.runKeys, h.runs⟩ (fun held hheld occurrence hoccurrence hsame => ?_)
        fun held hheld => ?_
      · obtain rfl := Option.some.inj hheld
        refine h.working request (by rw [hworker]; rfl) occurrence hoccurrence ?_
        rw [hsame, hid, hkey]
      · obtain rfl := Worker.reporting.inj hheld
        exact ⟨completed, Table.lookup_overwrite_self hrow, hstate ▸ hterminal⟩
    · split at hstep
      · obtain rfl := Option.some.inj hstep
        exact h.work (fun held hheld => by rw [hworker]; exact hheld)
          fun _ hother => by cases hother
      · obtain rfl := Option.some.inj hstep
        exact h.work (fun held hheld => by cases hheld) fun _ hother => by cases hother
  · cases hstep

theorem Traced.moveRun (h : Traced s) {runId : String} {state : RunState}
    {targets : List RunTargetState} {warningCount errorCount : Int}
    (hstep : s.moveRun runId state targets warningCount errorCount = some s') : Follows s s' := by
  unfold JobEngine.moveRun at hstep
  split at hstep
  · cases hstep
  · rename_i run hrun
    split at hstep
    · cases hstep
    · obtain rfl := Option.some.inj hstep
      obtain rfl : run.runId = runId := Table.lookup_key hrun
      exact h.catalog (.of_eq rfl) h.requests Evolves.refl
        (@RunsTraced.move _ h.runsTraced run { run with state, targets, warningCount, errorCount }
          hrun rfl rfl)

theorem Traced.rewrite (h : Traced s) {occurrence row : TriggerOccurrence} {worker : Worker}
    (hload : s.desk.triggers.load row.deduplicationKey = some occurrence)
    (hid : row.occurrenceId = occurrence.occurrenceId)
    (hdelivery : row.firstDeliveryId = occurrence.firstDeliveryId)
    (hjob : row.jobId = occurrence.jobId) (hopen : occurrence.state.isTerminal = false)
    (hended : ∀ request, loadBackupAnalysisRequest s.desk.catalog.requests
      occurrence.occurrenceId = some request → request.state.isTerminal = true)
    (hheld : ∀ request, worker.held = some request →
      s.worker.held = some request ∧ request.requestId ≠ occurrence.occurrenceId)
    (hreporting : ∀ request, worker = .reporting request → s.worker = .reporting request) :
    Follows s { s with
      desk := { s.desk with triggers := s.desk.triggers.rewrite row }
      worker } := by
  have hmem := load_mem hload
  refine ⟨⟨h.sound.rewrite hload hid, h.schedules, h.requests, h.runIds, h.runKeys,
    fun other hother => ?_, fun request hrequest other hother hsame => ?_,
    fun request hworker => h.reporting request (hreporting request hworker), h.runs⟩,
    fun key outcome houtcome => ?_⟩
  · rcases Table.mem_overwrite hother with rfl | ⟨hold, -⟩
    · obtain ⟨request, hrequest, hkey, hjob', hsafe, -⟩ := h.origin occurrence hmem
      rw [hid, hdelivery, hjob]
      exact ⟨request, hrequest, hkey, hjob', hsafe, fun _ => hended request hrequest⟩
    · exact h.origin other hold
  · obtain ⟨hbefore, hne⟩ := hheld request hrequest
    rcases Table.mem_overwrite hother with rfl | ⟨hold, -⟩
    · exact absurd (hsame.symm.trans hid) hne
    · exact h.working request hbefore other hold hsame
  · by_cases hkey : row.deduplicationKey = key
    · subst hkey
      rw [TriggerTables.outcome_open hload hopen] at houtcome
      cases houtcome
    · exact (TriggerTables.outcome_rewrite_other hkey).trans houtcome

theorem reconcileTriggerAnalysis_cases {t t' : TriggerTables}
    (h : reconcileTriggerAnalysis t request = .ok t') :
    t' = t ∨ ∃ found occurrence row, t.loadTriggerOccurrence request.requestId = some found ∧
      t.load row.deduplicationKey = some occurrence ∧
      occurrence.deduplicationKey = found.deduplicationKey ∧
      row.occurrenceId = occurrence.occurrenceId ∧
      row.firstDeliveryId = occurrence.firstDeliveryId ∧ row.jobId = occurrence.jobId ∧
      t' = t.rewrite row := by
  unfold reconcileTriggerAnalysis at h
  split at h
  · exact .inl (Except.ok.inj h).symm
  · split at h
    · exact .inl (Except.ok.inj h).symm
    · rename_i found runId hfound _
      obtain ⟨occurrence, hload, -, rfl⟩ := markRunEnqueued_cases h
      have hkey := load_key hload
      refine .inr ⟨found, occurrence, _, hfound, ?_, hkey, ?_, ?_, ?_, rfl⟩
      · exact hkey.symm ▸ hload
      all_goals rfl
    · rename_i found hfound _
      split at h
      · exact .inl (Except.ok.inj h).symm
      · obtain ⟨-, occurrence, hload, rfl⟩ := markTerminal_cases h
        have hkey := load_key hload
        refine .inr ⟨found, occurrence, _, hfound, ?_, hkey, ?_, ?_, ?_, rfl⟩
        · exact hkey.symm ▸ hload
        all_goals rfl

theorem Traced.report (h : Traced s) (hstep : s.report = some s') : Follows s s' := by
  unfold JobEngine.report at hstep
  split at hstep
  · rename_i request hworker
    split at hstep
    · rename_i triggers hreconciled
      obtain rfl := Option.some.inj hstep
      have hheld : s.worker.held = some request := by rw [hworker]; rfl
      rcases reconcileTriggerAnalysis_cases hreconciled with
        rfl | ⟨found, occurrence, row, hfound, hload, hsame, hid, hdelivery, hjob, rfl⟩
      · exact h.work (fun _ hother => by cases hother) fun _ hother => by cases hother
      · have hmem := load_mem hload
        have hoccurrence : occurrence.occurrenceId = request.requestId := by
          rw [h.sound.ids occurrence hmem, hsame, ← h.sound.ids found (Table.lookup_mem hfound)]
          exact Table.lookup_key hfound
        have hreceived := h.working request hheld occurrence hmem hoccurrence
        refine h.rewrite hload hid hdelivery hjob (by rw [hreceived]; rfl)
          (fun stored hstored => ?_) (fun _ hother => by cases hother)
            fun _ hother => by cases hother
        obtain ⟨ended, hended, hterminal⟩ := h.reporting request hworker
        obtain rfl := Option.some.inj (hended.symm.trans (hoccurrence ▸ hstored))
        exact hterminal
    · obtain rfl := Option.some.inj hstep
      exact h.work (fun _ hother => by cases hother) fun _ hother => by cases hother
  · cases hstep

theorem Traced.reconcileRun (h : Traced s) (hstep : s.reconcileRun occurrenceId = some s') :
    Follows s s' := by
  unfold JobEngine.reconcileRun at hstep
  split at hstep
  · cases hstep
  · rename_i listed hlisted
    have henqueued : listed ∈ s.desk.triggers.occurrences ∧ listed.state = .runEnqueued := by
      have hmem := List.mem_of_mem_take (List.mem_of_find?_eq_some hlisted)
      rw [List.mem_insertionSort] at hmem
      obtain ⟨hrow, htest⟩ := List.mem_filter.mp hmem
      simp only [Bool.and_eq_true, decide_eq_true_eq] at htest
      exact ⟨hrow, htest.1⟩
    split at hstep
    · rename_i triggers hreconciled
      obtain rfl := Option.some.inj hstep
      unfold reconcileTerminalTriggerRun at hreconciled
      split at hreconciled
      · cases hreconciled
      · split at hreconciled
        · cases hreconciled
        · split at hreconciled
          · cases hreconciled
          · split at hreconciled
            · obtain rfl := Except.ok.inj hreconciled
              exact h.stay
            · obtain ⟨-, occurrence, hload, rfl⟩ := markTerminal_cases hreconciled
              have hrow := h.sound.load_of_mem henqueued.1
              obtain rfl := Option.some.inj (hrow.symm.trans hload)
              have hnot : listed.state ≠ .received := by rw [henqueued.2]; decide
              refine h.rewrite hload rfl rfl rfl (by rw [henqueued.2]; rfl)
                (fun request hrequest => ?_)
                (fun request hheld => ⟨hheld, fun hsame => ?_⟩) fun _ hworker => hworker
              · obtain ⟨found, hfound, -, -, -, hended⟩ := h.origin listed henqueued.1
                obtain rfl := Option.some.inj (hfound.symm.trans hrequest)
                exact hended hnot
              · exact hnot (h.working request hheld listed henqueued.1 hsame.symm)
    · obtain rfl := Option.some.inj hstep
      exact h.stay

theorem Traced.compact (h : Traced s) {deduplicationKey : String}
    (hstep : s.compact deduplicationKey = some s') : Follows s s' := by
  unfold JobEngine.compact at hstep
  split at hstep
  · rename_i triggers hcompact
    obtain rfl := Option.some.inj hstep
    obtain ⟨hsound, houtcomes, -, -, -⟩ := h.sound.compact hcompact
    have hkept : ∀ occurrence ∈ triggers.occurrences,
        occurrence ∈ s.desk.triggers.occurrences := by
      obtain ⟨_, _, -, -, -, -, rfl⟩ := compactTerminal_cases hcompact
      exact fun occurrence hoccurrence => (List.mem_filter.mp hoccurrence).1
    exact ⟨⟨hsound, h.schedules, h.requests, h.runIds, h.runKeys,
      fun occurrence hoccurrence => h.origin occurrence (hkept occurrence hoccurrence),
      fun request hheld occurrence hoccurrence =>
        h.working request hheld occurrence (hkept occurrence hoccurrence), h.reporting, h.runs⟩,
      fun key outcome houtcome => (houtcomes key).trans houtcome⟩
  · obtain rfl := Option.some.inj hstep
    exact h.stay

theorem Traced.restart (h : Traced s) : Follows s s.restart :=
  h.evolve rfl h.schedules (h.requests.updateWhere fun _ => rfl) Evolves.requeue
    ⟨h.runIds, h.runKeys, h.runs⟩ (fun _ hheld => by cases hheld) fun _ hheld => by cases hheld

variable {py : PathLibrary} {host : SchedulerContext} {installationId : String} {l : JobStep}

theorem Traced.step (h : Traced s) (hstep : s.step py host installationId l = some s') :
    Follows s s' := by
  cases l with
  | lifecycle name command identity occurredUtc =>
    obtain rfl := Option.some.inj hstep
    exact h.lifecycle
  | gateClosed requestId idempotencyKey commandName identity =>
    obtain rfl := Option.some.inj hstep
    exact h.gateClosed _
  | otherReceipt receipt => exact h.otherReceipt hstep
  | saveJob command => exact h.saveJob hstep
  | saveSchedules schedules => exact h.saveSchedules hstep
  | checkBackup command identity requestedUtc =>
    obtain rfl := Option.some.inj hstep
    exact h.checkBackup
  | trigger command identity =>
    obtain rfl := Option.some.inj hstep
    exact h.trigger
  | startRun requestId idempotencyKey planId planChecksum identity plan runId recorded =>
    obtain rfl := Option.some.inj hstep
    exact h.startRun
  | claim startedUtc => exact h.claim hstep
  | lookForActiveRun => exact h.lookForActiveRun hstep
  | analyse reports => exact h.analyse hstep
  | safeStart runId recorded advanced => exact h.safeStart hstep
  | complete completedUtc => exact h.complete hstep
  | report => exact h.report hstep
  | moveRun runId state targets warningCount errorCount => exact h.moveRun hstep
  | reconcileRun occurrenceId => exact h.reconcileRun hstep
  | compact deduplicationKey => exact h.compact hstep
  | restart =>
    obtain rfl := Option.some.inj hstep
    exact h.restart

theorem Traced.reachable (h : (jobEngine py host installationId).Reachable s) : Traced s := by
  refine System.ReachableWhen.invariant (fun s hinit => ?_)
    (fun s l s' _ htraced _ hstep => (htraced.step hstep).traced) h
  obtain rfl : s = _ := hinit
  have hsound : TriggerTables.Sound ⟨[], []⟩ := by
    refine ⟨List.nodup_nil, List.nodup_nil, fun _ hmem => ?_, fun _ hmem => ?_, fun _ hmem => ?_⟩
    all_goals exact absurd hmem List.not_mem_nil
  exact {
    sound := hsound
    schedules := fun _ hmem => absurd hmem List.not_mem_nil
    requests := List.nodup_nil
    runIds := List.nodup_nil
    runKeys := List.nodup_nil
    origin := fun _ hmem => absurd hmem List.not_mem_nil
    working := fun _ _ _ hmem => absurd hmem List.not_mem_nil
    reporting := fun _ hworker => by cases hworker
    runs := fun _ hmem => absurd hmem List.not_mem_nil }

end

structure RunsOnce (c : JobCatalog) : Prop where
  requests : ∀ request ∈ c.requests, ∀ other ∈ c.requests,
    request.requestId = other.requestId → request = other
  runs : ∀ run ∈ c.runs, ∀ other ∈ c.runs, run.triggerOccurrenceId.isSome = true →
    run.triggerOccurrenceId = other.triggerOccurrenceId → run = other

def OutcomesKept (py : PathLibrary) (host : SchedulerContext) (installationId : String)
    (s : JobEngine) : Prop :=
  ∀ s', (jobEngine py host installationId).Leads s s' → ∀ key outcome,
    s.desk.triggers.outcome key = some outcome → s'.desk.triggers.outcome key = some outcome

namespace Desk

variable (d : Desk) (installationId : String) (command : EnqueueTriggerOccurrenceCommand)
  (identity : EnvelopeIdentity)

def Fresh : Prop := ∃ receipts receipt,
  Jobs.recordReceived d.receipts (receiptFromEnvelope command.requestId command.idempotencyKey
    "ENQUEUE_TRIGGER_OCCURRENCE" identity) = .ok (receipts, receipt) ∧ receipt.state = .received

def Names (schedule : ScheduleDefinition) (job : SealedStandardBackupJob)
    (built : TriggerOccurrence) : Prop :=
  d.catalog.admitTrigger command = .ok (schedule, job) ∧
    buildTriggerOccurrence installationId schedule.jobId command = .ok built

/-- A delivery of an occurrence that is recorded: its row, or its tombstone, agrees with it. -/
def Redelivered : Prop := ∀ schedule job,
  d.catalog.admitTrigger command = .ok (schedule, job) → ∃ built,
    buildTriggerOccurrence installationId schedule.jobId command = .ok built ∧
      ((∃ existing, d.triggers.load built.deduplicationKey = some existing ∧
        existing.Same built) ∨
      (d.triggers.load built.deduplicationKey = none ∧ ∃ tombstone,
        d.triggers.loadTombstone built.deduplicationKey = some tombstone ∧
          tombstone.payloadHash = built.payloadHash))

def AnsweredAgain : Prop := ∃ d' answer,
  d.dispatchTriggerOccurrence installationId command identity = .ok (d', answer) ∧
    ∀ schedule job built outcome, d.Fresh command identity →
      d.Names installationId command schedule job built →
      d.triggers.outcome built.deduplicationKey = some outcome →
      ∃ result occurrence, answer = .rejected "COMMAND_PRECONDITION_FAILED" result ∧
        result.validationCode = some "TRIGGER_OCCURRENCE_ALREADY_TERMINAL" ∧
        result.occurrence = some occurrence ∧
        (occurrence.state, occurrence.terminalEffectHash) = outcome

def RevisionMoved : Prop := d.Fresh command identity ∧
  ∃ schedule job built occurrence request, d.Names installationId command schedule job built ∧
    d.triggers.load built.deduplicationKey = some occurrence ∧
    occurrence.state.isTerminal = false ∧
    loadBackupAnalysisRequest d.catalog.requests occurrence.occurrenceId = some request ∧
    request.jobRevisionId ≠ job.jobRevisionId

end Desk

section
variable {s : JobEngine} {installationId : String} {command : EnqueueTriggerOccurrenceCommand}
  {identity : EnvelopeIdentity} {schedule : ScheduleDefinition} {job : SealedStandardBackupJob}
  {built : TriggerOccurrence}

theorem Traced.runsOnce (h : Traced s) : RunsOnce s.desk.catalog := by
  refine ⟨fun request hrequest other hother hid => Table.key_injOn h.requests hrequest hother hid,
    fun run hrun other hother hsome hsame => ?_⟩
  obtain ⟨occurrenceId, hoccurrence⟩ := Option.isSome_iff_exists.mp hsome
  have hkey := h.runs run hrun occurrenceId hoccurrence
  have hkey' := h.runs other hother occurrenceId (hsame ▸ hoccurrence)
  exact Table.key_injOn h.runKeys hrun hother (hkey.trans hkey'.symm)

theorem Traced.outcomesKept {py : PathLibrary} {host : SchedulerContext} (h : Traced s) :
    OutcomesKept py host installationId s := by
  have hleads : ∀ s', (jobEngine py host installationId).Leads s s' → Follows s s' := by
    intro s' hleads
    induction hleads with
    | refl => exact h.stay
    | tail _ hlast ih =>
      obtain ⟨l, hstep⟩ := hlast
      exact ih.trans (ih.traced.step hstep)
  exact fun s' hs' => (hleads s' hs').outcomes

theorem Traced.enqueue_recorded (h : Traced s)
    (hnames : s.desk.Names installationId command schedule job built)
    {existing : TriggerOccurrence}
    (hload : s.desk.triggers.load built.deduplicationKey = some existing)
    (hsame : existing.Same built) :
    ∃ request, loadBackupAnalysisRequest s.desk.catalog.requests existing.occurrenceId =
        some request ∧
      enqueueBackupAnalysis s.desk.catalog.requests
          (requestOfOccurrence existing job command.delivery.observedStartUtc) =
        if request.jobRevisionId = job.jobRevisionId then .ok (s.desk.catalog.requests, request)
        else .error "BACKUP_ANALYSIS_REQUEST_CONFLICT" := by
  obtain ⟨hadmitted, hbuilt⟩ := hnames
  obtain ⟨request, hrequest, hkey, hjob, hsafe, -⟩ :=
    h.origin existing (TriggerTables.load_mem hload)
  have hschedule := h.schedules schedule (admitTrigger_schedule hadmitted)
  have hsameJob : request.jobId = job.jobId := by
    rw [hjob, hsame.jobId, (buildTriggerOccurrence_ok hbuilt).2.2.2, strip_identifier hschedule,
      (admitTrigger_active hadmitted).2]
  have hidentity : request.identity =
        (requestOfOccurrence existing job command.delivery.observedStartUtc).identity ↔
      request.jobRevisionId = job.jobRevisionId := by
    unfold BackupAnalysisRequest.identity requestOfOccurrence
    simp [hkey, hsameJob, hsafe]
  refine ⟨request, hrequest, ?_⟩
  rw [enqueueBackupAnalysis_existing rfl hrequest]
  by_cases hrevision : request.jobRevisionId = job.jobRevisionId
  · rw [if_pos (hidentity.mpr hrevision), if_pos hrevision]
  · rw [if_neg (fun hagrees => hrevision (hidentity.mp hagrees)), if_neg hrevision]

theorem Traced.enqueueAdmitted_recorded (h : Traced s)
    (hnames : s.desk.Names installationId command schedule job built)
    (hrecorded : (∃ existing, s.desk.triggers.load built.deduplicationKey = some existing ∧
        existing.Same built) ∨
      (s.desk.triggers.load built.deduplicationKey = none ∧ ∃ tombstone,
        s.desk.triggers.loadTombstone built.deduplicationKey = some tombstone ∧
          tombstone.payloadHash = built.payloadHash)) :
    (∃ occurrence result,
      s.desk.enqueueAdmitted installationId command schedule job = .ok (s.desk, result) ∧
        result.analysisRequest = none ∧
        result.validationCode = some "TRIGGER_OCCURRENCE_ALREADY_TERMINAL" ∧
        result.occurrence = some occurrence ∧
        s.desk.triggers.outcome built.deduplicationKey =
          some (occurrence.state, occurrence.terminalEffectHash)) ∨
    (∃ occurrence request, s.desk.triggers.load built.deduplicationKey = some occurrence ∧
      occurrence.state.isTerminal = false ∧
      loadBackupAnalysisRequest s.desk.catalog.requests occurrence.occurrenceId = some request ∧
      (request.jobRevisionId = job.jobRevisionId → ∃ result,
        s.desk.enqueueAdmitted installationId command schedule job = .ok (s.desk, result)) ∧
      (request.jobRevisionId ≠ job.jobRevisionId →
        s.desk.enqueueAdmitted installationId command schedule job =
          .error "BACKUP_ANALYSIS_REQUEST_CONFLICT")) := by
  have hbuilt := hnames.2
  unfold Desk.enqueueAdmitted
  simp only [hbuilt, bind, Except.bind]
  rcases hrecorded with ⟨existing, hload, hsame⟩ | ⟨hload, tombstone, htombstone, hpayload⟩
  · simp only [h.sound.recordReceived_same hload hsame]
    by_cases hterminal : existing.state.isTerminal = true
    · refine .inl ⟨existing, _, if_pos hterminal, rfl, rfl, rfl, ?_⟩
      unfold TriggerTables.outcome
      rw [hload]
      simp [hterminal]
    · rw [Bool.not_eq_true] at hterminal
      obtain ⟨request, hrequest, henqueue⟩ := h.enqueue_recorded hnames hload hsame
      refine .inr ⟨existing, request, hload, hterminal, hrequest, fun hrevision => ?_,
        fun hrevision => ?_⟩
      · rw [if_neg (by rw [hterminal]; exact Bool.false_ne_true), henqueue, if_pos hrevision]
        exact ⟨_, rfl⟩
      · rw [if_neg (by rw [hterminal]; exact Bool.false_ne_true), henqueue, if_neg hrevision]
  · simp only [TriggerTables.recordReceived_compacted hload htombstone hpayload]
    have hterminal := h.sound.compacted tombstone (Table.lookup_mem htombstone)
    refine .inl ⟨_, _, if_pos hterminal, rfl, rfl, rfl, ?_⟩
    unfold TriggerTables.outcome
    rw [hload, htombstone]

theorem Traced.raises (h : Traced s) (hmoved : s.desk.RevisionMoved installationId command identity)
    (hknown : s.desk.Redelivered installationId command) :
    s.desk.dispatchTriggerOccurrence installationId command identity =
      .error "BACKUP_ANALYSIS_REQUEST_CONFLICT" := by
  obtain ⟨⟨receipts, receipt, hrecord, hreceived⟩, schedule, job, built, occurrence, request,
    hnames, hload, hopen, hrequest, hrevision⟩ := hmoved
  obtain ⟨built', hbuilt', hrecorded⟩ := hknown schedule job hnames.1
  obtain rfl := Except.ok.inj (hnames.2.symm.trans hbuilt')
  have hraises : s.desk.enqueueAdmitted installationId command schedule job =
      .error "BACKUP_ANALYSIS_REQUEST_CONFLICT" := by
    rcases h.enqueueAdmitted_recorded hnames hrecorded with
      ⟨_, _, -, -, -, -, houtcome⟩ | ⟨found, row, hfound, -, hrow, -, hconflict⟩
    · rw [TriggerTables.outcome_open hload hopen] at houtcome
      cases houtcome
    · obtain rfl := Option.some.inj (hload.symm.trans hfound)
      obtain rfl := Option.some.inj (hrequest.symm.trans hrow)
      exact hconflict hrevision
  unfold Desk.dispatchTriggerOccurrence Desk.enqueueTriggerOccurrenceAnalysis
  rw [hrecord]
  simp only [hreceived, hnames.1, hraises]
  rfl

theorem Traced.answers (h : Traced s) (hknown : s.desk.Redelivered installationId command)
    (hkept : ¬ s.desk.RevisionMoved installationId command identity) :
    s.desk.AnsweredAgain installationId command identity := by
  unfold Desk.AnsweredAgain Desk.dispatchTriggerOccurrence
  cases hrecord : Jobs.recordReceived s.desk.receipts (receiptFromEnvelope command.requestId
      command.idempotencyKey "ENQUEUE_TRIGGER_OCCURRENCE" identity) with
  | error code =>
    refine ⟨_, _, rfl, fun _ _ _ _ ⟨_, _, hfresh, _⟩ => ?_⟩
    rw [hrecord] at hfresh
    cases hfresh
  | ok recorded =>
    obtain ⟨receipts, receipt⟩ := recorded
    by_cases hreceived : receipt.state = .received
    · have hfresh : s.desk.Fresh command identity := ⟨receipts, receipt, hrecord, hreceived⟩
      simp only [hreceived, ne_eq, not_true_eq_false, if_false]
      unfold Desk.enqueueTriggerOccurrenceAnalysis
      cases hadmitted : s.desk.catalog.admitTrigger command with
      | error code =>
        refine ⟨_, _, rfl, fun _ _ _ _ _ hnames => ?_⟩
        rw [hnames.1] at hadmitted
        cases hadmitted
      | ok admitted =>
        obtain ⟨schedule, job⟩ := admitted
        obtain ⟨built, hbuilt, hrecorded⟩ := hknown schedule job hadmitted
        have hnames : s.desk.Names installationId command schedule job built := ⟨hadmitted, hbuilt⟩
        have hunique : ∀ schedule' job' built',
            s.desk.Names installationId command schedule' job' built' → built' = built := by
          rintro schedule' job' built' ⟨hadmitted', hbuilt'⟩
          obtain ⟨rfl, rfl⟩ := Prod.mk.inj (Except.ok.inj (hadmitted.symm.trans hadmitted'))
          exact Except.ok.inj (hbuilt'.symm.trans hbuilt)
        rcases h.enqueueAdmitted_recorded hnames hrecorded with
          ⟨occurrence, result, hresult, hnone, hcode, hoccurrence, houtcome⟩ |
            ⟨occurrence, request, hload, hopen, hrequest, hanswered, -⟩
        · simp only [hresult, bind, Except.bind, hnone]
          refine ⟨_, _, rfl, fun schedule' job' built' outcome _ hnames' houtcome' => ?_⟩
          obtain rfl := hunique _ _ _ hnames'
          exact ⟨result, occurrence, rfl, hcode, hoccurrence,
            Option.some.inj (houtcome.symm.trans houtcome')⟩
        · have hrevision : request.jobRevisionId = job.jobRevisionId := by
            refine Decidable.byContradiction fun hmoved => hkept ⟨hfresh, ?_⟩
            exact ⟨schedule, job, built, occurrence, request, hnames, hload, hopen,
              hrequest, hmoved⟩
          obtain ⟨result, hresult⟩ := hanswered hrevision
          simp only [hresult, bind, Except.bind]
          have hopened : ∀ schedule' job' built' outcome,
              s.desk.Names installationId command schedule' job' built' →
              s.desk.triggers.outcome built'.deduplicationKey = some outcome → False := by
            intro schedule' job' built' outcome hnames' houtcome
            obtain rfl := hunique _ _ _ hnames'
            rw [TriggerTables.outcome_open hload hopen] at houtcome
            cases houtcome
          cases result.analysisRequest with
          | none => exact ⟨_, _, rfl, fun _ _ _ _ _ hnames' houtcome =>
              (hopened _ _ _ _ hnames' houtcome).elim⟩
          | some request => exact ⟨_, _, rfl, fun _ _ _ _ _ hnames' houtcome =>
              (hopened _ _ _ _ hnames' houtcome).elim⟩
    · simp only [ne_eq, hreceived, not_false_eq_true, if_true]
      refine ⟨_, _, rfl, fun _ _ _ _ ⟨_, _, hfresh, hnew⟩ => ?_⟩
      obtain ⟨-, rfl⟩ := Prod.mk.inj (Except.ok.inj (hrecord.symm.trans hfresh))
      exact absurd hnew hreceived

/-- An occurrence that is delivered again has at most one request and one run, and it is answered
with its outcome, unless it is open and its job has another revision. -/
theorem redelivery_iff {py : PathLibrary} {host : SchedulerContext}
    (h : (jobEngine py host installationId).Reachable s)
    (hknown : s.desk.Redelivered installationId command) :
    (RunsOnce s.desk.catalog ∧ OutcomesKept py host installationId s ∧
      s.desk.AnsweredAgain installationId command identity) ↔
        ¬ s.desk.RevisionMoved installationId command identity := by
  have htraced := Traced.reachable h
  constructor
  · rintro ⟨-, -, d', answer, hanswered, -⟩ hmoved
    rw [htraced.raises hmoved hknown] at hanswered
    cases hanswered
  · exact fun hkept => ⟨htraced.runsOnce, htraced.outcomesKept, htraced.answers hknown hkept⟩

end

def photosSchedule : ScheduleDefinition where
  scheduleId := "schedule-photos"
  jobId := "job-photos"
  triggerType := .scheduledTime
  definitionGeneration := 1
  desiredDefinitionHash := "definition"

def photosDelivery (deliveryId : String) : EnqueueTriggerOccurrenceCommand where
  requestId := deliveryId
  idempotencyKey := deliveryId
  scheduleId := "schedule-photos"
  scheduleRevisionHash := "definition"
  delivery := {
    deliveryId
    observedStartUtc := "2026-08-01T02:00:01Z"
    triggerKind := .scheduledTime
    taskDefinitionHash := "definition"
    scheduledSlotUtc := some "2026-08-01T02:00:00Z" }

def renamePhotos : JobCommand :=
  .edit ⟨"rename", "rename", "job-photos", "revision-photos", 1, {
    draftId := "draft-rename"
    sourceName := some "pictures"
    sourcePathLabel := some "C:\\Photos"
    targets := [⟨"Disk", "D:\\Backup", none⟩] }⟩ "revision-pictures"

def deliveredOnce : List JobStep := [
  .saveJob createPhotos,
  .saveSchedules [photosSchedule],
  .trigger (photosDelivery "delivery-1") (sampleIdentity "delivery-1")]

def agreesWithRow (d : Desk) (command : EnqueueTriggerOccurrenceCommand) : Bool :=
  match d.catalog.admitTrigger command with
  | .error _ => true
  | .ok (schedule, _) =>
    match buildTriggerOccurrence "installation" schedule.jobId command with
    | .error _ => false
    | .ok built => (d.triggers.load built.deduplicationKey).any fun existing =>
      (ensureTriggerOccurrenceCompatible existing built).isOk

theorem redelivered_of_agrees {d : Desk} {command : EnqueueTriggerOccurrenceCommand}
    (h : agreesWithRow d command = true) : d.Redelivered "installation" command := by
  intro schedule job hadmitted
  unfold agreesWithRow at h
  rw [hadmitted] at h
  simp only at h
  split at h
  · cases h
  · rename_i built hbuilt
    obtain ⟨existing, hload, hcompatible⟩ := (Option.any_eq_true _ _).mp h
    refine ⟨built, hbuilt, .inl ⟨existing, hload, ?_⟩⟩
    cases hchecked : ensureTriggerOccurrenceCompatible existing built with
    | error code =>
      rw [hchecked] at hcompatible
      cases hcompatible
    | ok found => exact (ensureTriggerOccurrenceCompatible_eq_ok.mp hchecked).1

theorem photos_delivered : ((sampleEngine.replay emptyEngine deliveredOnce).any fun s =>
    agreesWithRow s.desk (photosDelivery "delivery-2") &&
      (sampleEngine.step s (.saveJob renamePhotos)).any fun s' =>
        agreesWithRow s'.desk (photosDelivery "delivery-2") &&
          !(s'.desk.dispatchTriggerOccurrence "installation" (photosDelivery "delivery-2")
            (sampleIdentity "delivery-2")).isOk) = true := by decide +kernel

/-- The second delivery of a slot is not answered when the job was renamed after the first. -/
theorem redelivery_raises : ¬ ∀ s, sampleEngine.Reachable s → ∀ command identity,
    s.desk.Redelivered "installation" command →
    s.desk.AnsweredAgain "installation" command identity := by
  intro h
  obtain ⟨s, hs, hdelivered⟩ := (Option.any_eq_true _ _).mp photos_delivered
  have hreachable : sampleEngine.Reachable s := System.Reachable.replay (.init rfl) deliveredOnce hs
  obtain ⟨s', hs', hraises⟩ := (Option.any_eq_true _ _).mp (Bool.and_eq_true_iff.mp hdelivered).2
  simp only [Bool.and_eq_true, Bool.not_eq_true'] at hraises
  obtain ⟨d', answer, hanswered, -⟩ := h s' (.step hreachable trivial hs') _
    (sampleIdentity "delivery-2") (redelivered_of_agrees hraises.1)
  rw [hanswered] at hraises
  cases hraises.2

def deliveredEngine : JobEngine := (sampleEngine.replay emptyEngine deliveredOnce).getD emptyEngine

theorem redelivery_iff_delivered :
    (RunsOnce deliveredEngine.desk.catalog ∧
      OutcomesKept asciiPaths noTasks "installation" deliveredEngine ∧
      deliveredEngine.desk.AnsweredAgain "installation" (photosDelivery "delivery-2")
        (sampleIdentity "delivery-2")) ↔
      ¬ deliveredEngine.desk.RevisionMoved "installation" (photosDelivery "delivery-2")
        (sampleIdentity "delivery-2") := by
  obtain ⟨s, hs, hdelivered⟩ := (Option.any_eq_true _ _).mp photos_delivered
  have hengine : deliveredEngine = s := by
    unfold deliveredEngine
    rw [hs]
    rfl
  have hreachable : sampleEngine.Reachable deliveredEngine :=
    hengine ▸ System.Reachable.replay (.init rfl) deliveredOnce hs
  have hagrees : agreesWithRow deliveredEngine.desk (photosDelivery "delivery-2") = true :=
    hengine ▸ (Bool.and_eq_true_iff.mp hdelivered).1
  exact redelivery_iff hreachable (redelivered_of_agrees hagrees)

end MediaSync.Jobs
