import MediaSync.Jobs.Activity

/-! One lemma for each transaction: the catalog stays quiet, settled receipts and stored outcomes
stay, new runs are of active jobs, and the requests that a worker holds keep running. -/
namespace MediaSync.Jobs
open Runs Transition Triggers JobCatalog

def HoldsRunning (c : JobCatalog) (request : BackupAnalysisRequest) : Prop :=
  ∃ row, loadBackupAnalysisRequest c.requests request.requestId = some row ∧
    row.state = .running ∧ row.jobId = request.jobId

def Worker.Concluded : Worker → Prop
  | .starting request plan _ => plan.jobId = request.jobId
  | .completing _ completion false => completion.Valid
  | _ => True

/-- What a transaction other than a lifecycle command does to the tables. -/
structure Serves (d d' : Desk) : Prop where
  quiet : d'.catalog.Quiet
  events : d'.catalog.events = d.catalog.events
  deletions : d'.catalog.deletions = d.catalog.deletions
  grows : d.catalog.Grows d'.catalog
  receipts : KeepsReceipts d.receipts d'.receipts
  others : ∀ key receipt, Table.lookup JobReceipt.key d'.receipts key = some receipt →
    lifecycleCommandNames.contains receipt.commandName = true →
    receipt.state = .rejected ∨ Table.lookup JobReceipt.key d.receipts key = some receipt
  starts : ∀ run ∈ d'.catalog.runs, d.catalog.loadStartedRun run.runId = none →
    d.catalog.isActive run.jobId = true
  active : ∀ jobId, d.catalog.isActive jobId = true → d'.catalog.isActive jobId = true

section
variable {d d' : Desk}

theorem no_start {c : JobCatalog} {run : StartedRun} (hrun : run ∈ c.runs)
    (hnew : c.loadStartedRun run.runId = none) : False :=
  Table.lookup_none_iff.mp hnew run hrun rfl

theorem Serves.of_catalog {c' : JobCatalog} (hquiet : c'.Quiet)
    (hevents : c'.events = d.catalog.events) (hdeletions : c'.deletions = d.catalog.deletions)
    (hgrows : d.catalog.Grows c')
    (hstarts : ∀ run ∈ c'.runs, d.catalog.loadStartedRun run.runId = none →
      d.catalog.isActive run.jobId = true)
    (hactive : ∀ jobId, d.catalog.isActive jobId = true → c'.isActive jobId = true) :
    Serves d { d with catalog := c' } where
  quiet := hquiet
  events := hevents
  deletions := hdeletions
  grows := hgrows
  receipts := KeepsReceipts.refl
  others := fun _ _ hload _ => .inr hload
  starts := hstarts
  active := hactive

theorem Serves.of_requests {rows : List BackupAnalysisRequest}
    (h : ({ d.catalog with requests := rows } : JobCatalog).Quiet) :
    Serves d { d with catalog := { d.catalog with requests := rows } } := by
  refine Serves.of_catalog h rfl rfl (Grows.of_same rfl rfl rfl) ?_ fun _ hactive => hactive
  exact fun _ hrun hnew => (no_start hrun hnew).elim

theorem Serves.of_triggers (h : d.catalog.Quiet) {triggers : TriggerTables} :
    Serves d { d with triggers } where
  quiet := h
  events := rfl
  deletions := rfl
  grows := Grows.of_same rfl rfl rfl
  receipts := KeepsReceipts.refl
  others := fun _ _ hload _ => .inr hload
  starts := fun _ hrun hnew => (no_start hrun hnew).elim
  active := fun _ hactive => hactive

theorem Serves.refl (h : d.catalog.Quiet) : Serves d d := Serves.of_triggers h

theorem Serves.settle (h : Serves d d') {receipts : List JobReceipt}
    {incoming receipt settled : JobReceipt}
    (hrecord : recordReceived d.receipts incoming = .ok (receipts, receipt))
    (hreceived : receipt.state = .received) (hkey : settled.key = receipt.key)
    (hname : lifecycleCommandNames.contains settled.commandName = false ∨
      settled.state = .rejected) : Serves d (d'.settle receipts settled) where
  quiet := h.quiet
  events := h.events
  deletions := h.deletions
  grows := h.grows
  receipts := KeepsReceipts.settle hrecord hreceived (hkey.trans (recordReceived_key hrecord))
  others := by
    intro key found hload hlifecycle
    have hself := lookup_settled hrecord (hkey.trans (recordReceived_key hrecord))
    by_cases hat : incoming.key = key
    · subst hat
      obtain rfl := Option.some.inj (hself.symm.trans hload)
      rcases hname with hother | hrejected
      · rw [hother] at hlifecycle
        cases hlifecycle
      · exact .inl hrejected
    · have hne : settled.key ≠ key := by
        rw [hkey, recordReceived_key hrecord]
        exact hat
      have hkept : Table.lookup JobReceipt.key receipts key = some found :=
        (Table.lookup_overwrite_other hne).symm.trans hload
      rcases recordReceived_cases hrecord with ⟨rfl, -, -, -⟩ | ⟨-, rfl, -⟩
      · exact .inr hkept
      · exact .inr ((Table.lookup_insert_other hat).symm.trans hkept)
  starts := h.starts
  active := h.active

end

section
variable {d d' : Desk} {identity : EnvelopeIdentity}

/-- The rows that workers hold stay. -/
def KeepsRunning (d d' : Desk) : Prop :=
  ∀ request, HoldsRunning d.catalog request → HoldsRunning d'.catalog request

theorem serves_nothing (h : d.catalog.Quiet) : Serves d d ∧ KeepsRunning d d :=
  ⟨Serves.refl h, fun _ hheld => hheld⟩

theorem holdsRunning_enqueue {c : JobCatalog} {request recorded held : BackupAnalysisRequest}
    {rows : List BackupAnalysisRequest}
    (h : enqueueBackupAnalysis c.requests request = .ok (rows, recorded))
    (hheld : HoldsRunning c held) :
    HoldsRunning { c with requests := rows } held := by
  obtain ⟨row, hload, hrunning, hjob⟩ := hheld
  rcases enqueueBackupAnalysis_cases h with ⟨rfl, -, -⟩ | ⟨-, rfl, -, -, -⟩
  · exact ⟨row, hload, hrunning, hjob⟩
  · exact ⟨row, Table.lookup_insert_of_some hload, hrunning, hjob⟩

variable {receipts receipts' : List JobReceipt} {incoming receipt : JobReceipt}

theorem recordReceived_name (h : recordReceived receipts incoming = .ok (receipts', receipt)) :
    receipt.commandName = incoming.commandName := by
  rcases recordReceived_cases h with ⟨-, -, hname, -⟩ | ⟨-, -, rfl⟩
  · exact hname
  · rfl

theorem received_other (h : recordReceived receipts incoming = .ok (receipts', receipt))
    (hother : lifecycleCommandNames.contains incoming.commandName = false) :
    lifecycleCommandNames.contains receipt.commandName = false := by
  rw [recordReceived_name h]
  exact hother

theorem serves_gateClosed (h : d.catalog.Quiet) (incoming : JobReceipt) :
    Serves d (d.recordGateClosed incoming) := by
  unfold Desk.recordGateClosed
  split
  · exact Serves.refl h
  · rename_i receipts receipt hrecord
    split
    · exact Serves.refl h
    · rename_i hreceived
      exact (Serves.refl h).settle hrecord (not_not.mp hreceived) rfl (.inr rfl)

theorem serves_checkBackup {command : CheckBackupCommand} {requestedUtc : String}
    {answer : Answer (Option BackupAnalysisRequest)} (h : d.catalog.Quiet)
    (hd : d.dispatchCheckBackup command identity requestedUtc = .ok (d', answer)) :
    Serves d d' ∧ KeepsRunning d d' := by
  unfold Desk.dispatchCheckBackup at hd
  split at hd
  · obtain ⟨rfl, -⟩ := Prod.mk.inj (Except.ok.inj hd)
    exact serves_nothing h
  · rename_i receipts receipt hrecord
    have hother := received_other hrecord
      (by decide : lifecycleCommandNames.contains "CHECK_BACKUP" = false)
    split at hd
    · obtain ⟨rfl, -⟩ := Prod.mk.inj (Except.ok.inj hd)
      exact serves_nothing h
    · rename_i hreceived
      split at hd
      · obtain ⟨rfl, -⟩ := Prod.mk.inj (Except.ok.inj hd)
        exact ⟨(Serves.refl h).settle hrecord (not_not.mp hreceived) rfl (.inr rfl),
          fun _ hheld => hheld⟩
      · rename_i job hcheckable
        obtain ⟨⟨rows, recorded⟩, henqueue, hd⟩ := Text.except_bind_ok hd
        obtain ⟨rfl, -⟩ := Prod.mk.inj (Except.ok.inj hd)
        have hactive : d.catalog.isActive job.jobId = true := by
          unfold Desk.checkable at hcheckable
          split at hcheckable
          · rename_i hguard
            simp only [Bool.and_eq_true] at hguard
            obtain ⟨⟨found, state⟩, hdetail, rfl⟩ := Option.map_eq_some_iff.mp hcheckable
            obtain ⟨row, -, hrevision⟩ := Option.bind_eq_some_iff.mp hdetail
            obtain ⟨loaded, hloaded, hsome⟩ := Option.bind_eq_some_iff.mp hrevision
            split at hsome
            · cases hsome
            · obtain ⟨rfl, -⟩ := Prod.mk.inj (Option.some.inj hsome)
              rw [(loadRevision_key hloaded).1]
              exact hguard.1
          · cases hcheckable
        have hquiet := h.enqueue henqueue hactive
        exact ⟨(Serves.of_requests hquiet).settle hrecord (not_not.mp hreceived) rfl (.inl hother),
          fun _ hheld => holdsRunning_enqueue henqueue hheld⟩

variable {command : EnqueueTriggerOccurrenceCommand}

theorem admitTrigger_active {c : JobCatalog} {schedule : ScheduleDefinition}
    {job : SealedStandardBackupJob} (h : c.admitTrigger command = .ok (schedule, job)) :
    c.isActive job.jobId = true ∧ job.jobId = schedule.jobId := by
  unfold JobCatalog.admitTrigger at h
  split at h
  · cases h
  · cases h
  · cases h
  · rename_i found _
    split at h
    · cases h
    · split at h
      · cases h
      · rename_i loaded state hdetail
        split at h
        · cases h
        · rename_i hstate
          obtain ⟨rfl, rfl⟩ := Prod.mk.inj (Except.ok.inj h)
          obtain ⟨row, hrow, hrevision⟩ := Option.bind_eq_some_iff.mp hdetail
          obtain ⟨revision, hloaded, hsome⟩ := Option.bind_eq_some_iff.mp hrevision
          split at hsome
          · cases hsome
          · rename_i hdeleted
            obtain ⟨rfl, rfl⟩ := Prod.mk.inj (Option.some.inj hsome)
            have hkey := (loadRevision_key hloaded).1
            refine ⟨isActive_iff.mpr ⟨row, hkey ▸ hrow, ?_, ?_⟩, hkey⟩
            · cases harchived : row.archived with
              | false => rfl
              | true => exact absurd (by rw [harchived]; decide) hstate
            · exact hkey ▸ by simpa using hdeleted

variable {installationId : String}

theorem serves_enqueued {outcome : TriggerRunEnqueueOutcome} (h : d.catalog.Quiet)
    (hd : d.enqueueTriggerOccurrenceAnalysis installationId command = .ok (d', outcome)) :
    Serves d d' ∧ KeepsRunning d d' := by
  unfold Desk.enqueueTriggerOccurrenceAnalysis at hd
  split at hd
  · obtain ⟨rfl, -⟩ := Prod.mk.inj (Except.ok.inj hd)
    exact serves_nothing h
  · rename_i schedule job hadmitted
    obtain ⟨built, -, hd⟩ := Text.except_bind_ok hd
    obtain ⟨⟨triggers, registration⟩, -, hd⟩ := Text.except_bind_ok hd
    simp only at hd
    split at hd
    · obtain ⟨rfl, -⟩ := Prod.mk.inj (Except.ok.inj hd)
      exact ⟨Serves.of_triggers h, fun _ hheld => hheld⟩
    · obtain ⟨⟨rows, recorded⟩, henqueue, hd⟩ := Text.except_bind_ok hd
      obtain ⟨rfl, -⟩ := Prod.mk.inj (Except.ok.inj hd)
      have hquiet := h.enqueue henqueue (admitTrigger_active hadmitted).1
      have hserves := Serves.of_requests hquiet
      exact ⟨⟨hquiet, rfl, rfl, hserves.grows, hserves.receipts, hserves.others, hserves.starts,
        hserves.active⟩, fun _ hheld => holdsRunning_enqueue henqueue hheld⟩

theorem serves_trigger {answer : Answer TriggerRunEnqueueOutcome} (h : d.catalog.Quiet)
    (hd : d.dispatchTriggerOccurrence installationId command identity = .ok (d', answer)) :
    Serves d d' ∧ KeepsRunning d d' := by
  unfold Desk.dispatchTriggerOccurrence at hd
  split at hd
  · obtain ⟨rfl, -⟩ := Prod.mk.inj (Except.ok.inj hd)
    exact serves_nothing h
  · rename_i receipts receipt hrecord
    have hother := received_other hrecord
      (by decide : lifecycleCommandNames.contains "ENQUEUE_TRIGGER_OCCURRENCE" = false)
    split at hd
    · obtain ⟨rfl, -⟩ := Prod.mk.inj (Except.ok.inj hd)
      exact serves_nothing h
    · rename_i hreceived
      obtain ⟨⟨desk, outcome⟩, henqueued, hd⟩ := Text.except_bind_ok hd
      have hdesk : Serves d desk ∧ KeepsRunning d desk := serves_enqueued h henqueued
      simp only at hd
      split at hd
      · obtain ⟨rfl, -⟩ := Prod.mk.inj (Except.ok.inj hd)
        exact ⟨hdesk.1.settle hrecord (not_not.mp hreceived) rfl (.inl hother), hdesk.2⟩
      · obtain ⟨rfl, -⟩ := Prod.mk.inj (Except.ok.inj hd)
        exact ⟨hdesk.1.settle hrecord (not_not.mp hreceived) rfl (.inr rfl), hdesk.2⟩

variable {plan : Option StartablePlan} {recorded : Except String Unit}

theorem serves_prepareRun {command : StartRunCommand} {readsLifecycle : Bool} {runId : String}
    {c' : JobCatalog} {outcome : RunStartOutcome} (h : d.catalog.Quiet)
    (hd : d.catalog.prepareRun command plan readsLifecycle runId recorded = .ok (c', outcome))
    (hactive : ∀ found, plan = some found → Starts d.catalog command readsLifecycle found runId →
      d.catalog.isActive found.jobId = true) :
    Serves d { d with catalog := c' } ∧ KeepsRunning d { d with catalog := c' } := by
  rcases prepareRun_cases hd with ⟨rfl, -⟩ | ⟨found, hplan, hstarts, rfl, -⟩
  · exact serves_nothing h
  · have hjob := hactive found hplan hstarts
    refine ⟨Serves.of_catalog (h.insert_run hjob) rfl rfl (Grows.of_same rfl rfl rfl) ?_
      fun _ hbefore => hbefore, fun _ hheld => hheld⟩
    intro run hrun hnew
    rcases Table.mem_insert.mp hrun with hold | rfl
    · exact (no_start hold hnew).elim
    · exact hjob

theorem serves_startRun {command : StartRunCommand} {runId : String}
    {answer : Answer RunStartOutcome} (h : d.catalog.Quiet)
    (hd : d.dispatchStartRun command identity plan runId recorded = .ok (d', answer)) :
    Serves d d' ∧ KeepsRunning d d' := by
  unfold Desk.dispatchStartRun at hd
  split at hd
  · obtain ⟨rfl, -⟩ := Prod.mk.inj (Except.ok.inj hd)
    exact serves_nothing h
  · rename_i receipts receipt hrecord
    have hother := received_other hrecord
      (by decide : lifecycleCommandNames.contains "START_RUN" = false)
    split at hd
    · obtain ⟨rfl, -⟩ := Prod.mk.inj (Except.ok.inj hd)
      exact serves_nothing h
    · rename_i hreceived
      obtain ⟨⟨catalog, outcome⟩, hprepared, hd⟩ := Text.except_bind_ok hd
      have hcatalog : Serves d { d with catalog } ∧ KeepsRunning d { d with catalog } :=
        serves_prepareRun h hprepared fun _ _ hstarts => hstarts.active rfl
      simp only at hd
      split at hd
      · obtain ⟨rfl, -⟩ := Prod.mk.inj (Except.ok.inj hd)
        exact ⟨hcatalog.1.settle hrecord (not_not.mp hreceived) rfl (.inr rfl), hcatalog.2⟩
      · obtain ⟨rfl, -⟩ := Prod.mk.inj (Except.ok.inj hd)
        exact ⟨hcatalog.1.settle hrecord (not_not.mp hreceived) rfl (.inl hother), hcatalog.2⟩

end

section
variable (host : SchedulerContext)

def JobCatalog.ends (c : JobCatalog) (name : JobLifecycleCommandName)
    (command : ChangeJobLifecycleCommand) : Bool :=
  let current := c.loadJobLifecycle command.jobId
  match name with
  | .archive => (validateTransition current command .active >>= c.endable host archiving).isOk
  | .delete => (validateDeletion current command >>= c.endable host deleting).isOk
  | .reactivate => false

variable {host} {c c' : JobCatalog} {name : JobLifecycleCommandName}
  {command : ChangeJobLifecycleCommand} {occurredUtc : String}
  {outcome : JobLifecycleTransitionOutcome}

theorem changeLifecycle_of_not_ends (hends : c.ends host name command = false)
    (hname : name ≠ .reactivate)
    (h : c.changeLifecycle host name command occurredUtc = .ok (c', outcome)) : c' = c := by
  cases name with
  | reactivate => exact absurd rfl hname
  | archive =>
    have h : c.archiveStandardBackupJob host command occurredUtc = .ok (c', outcome) := h
    unfold archiveStandardBackupJob at h
    split at h
    · exact (Prod.mk.inj (Except.ok.inj h)).1.symm
    · split at h
      · exact (Prod.mk.inj (Except.ok.inj h)).1.symm
      · rename_i current hcurrent
        have hends : (c.endable host archiving current).isOk = false := by
          simpa [JobCatalog.ends, hcurrent, bind, Except.bind] using hends
        split at h
        · exact (Prod.mk.inj (Except.ok.inj h)).1.symm
        · rename_i hendable _
          rw [hendable] at hends
          cases hends
        · cases h
  | delete =>
    have h : c.deleteStandardBackupJob host command occurredUtc = .ok (c', outcome) := h
    unfold deleteStandardBackupJob at h
    split at h
    · exact (Prod.mk.inj (Except.ok.inj h)).1.symm
    · split at h
      · exact (Prod.mk.inj (Except.ok.inj h)).1.symm
      · rename_i current hcurrent
        have hends : (c.endable host deleting current).isOk = false := by
          simpa [JobCatalog.ends, hcurrent, bind, Except.bind] using hends
        split at h
        · exact (Prod.mk.inj (Except.ok.inj h)).1.symm
        · rename_i hendable _
          rw [hendable] at hends
          cases hends
        · cases h

theorem changeLifecycle_stored {stored : JobLifecycleTransitionOutcome}
    (hstored : c.storedOutcome name command.idempotencyKey = some stored) :
    c.changeLifecycle host name command occurredUtc =
      .ok (c, { stored with idempotentReplay := true }) := by
  cases name with
  | archive =>
    have hstored : c.loadEventOutcome command.idempotencyKey = some stored := hstored
    show c.archiveStandardBackupJob host command occurredUtc = _
    unfold archiveStandardBackupJob
    rw [hstored]
  | reactivate =>
    have hstored : c.loadEventOutcome command.idempotencyKey = some stored := hstored
    show c.reactivateStandardBackupJob command occurredUtc = _
    unfold reactivateStandardBackupJob
    rw [hstored]
  | delete =>
    have hstored : c.loadDeletionOutcome command.idempotencyKey = some stored := hstored
    show c.deleteStandardBackupJob host command occurredUtc = _
    unfold deleteStandardBackupJob
    rw [hstored]

theorem JobCatalog.Change.answer (h : Change c command occurredUtc name c' outcome) :
    outcome.applied = true ∧ outcome.idempotentReplay = false ∧
      ∃ record, outcome.record = some record ∧ record.jobId = command.jobId := by
  cases h with
  | @archive row _ _ _ _ _ hrow _ _ _ _ _ hout =>
    subst hout
    have hid : row.id = command.jobId := Table.lookup_key hrow
    exact ⟨rfl, rfl, _, rfl, hid⟩
  | @reactivate row _ _ _ _ hrow _ _ _ _ hout =>
    subst hout
    have hid : row.id = command.jobId := Table.lookup_key hrow
    exact ⟨rfl, rfl, _, rfl, hid⟩
  | @delete row _ _ _ _ hrow _ _ _ _ hout =>
    subst hout
    have hid : row.id = command.jobId := Table.lookup_key hrow
    exact ⟨rfl, rfl, _, rfl, hid⟩

theorem JobCatalog.Change.storedOutcome_other (h : Change c command occurredUtc name c' outcome)
    {key : String} (hkey : command.idempotencyKey ≠ key) (other : JobLifecycleCommandName) :
    c'.storedOutcome other key = c.storedOutcome other key := by
  have hrows : Table.lookup JobLifecycleEvent.commandIdempotencyKey c'.events key =
        Table.lookup JobLifecycleEvent.commandIdempotencyKey c.events key ∧
      Table.lookup JobDeletion.commandIdempotencyKey c'.deletions key =
        Table.lookup JobDeletion.commandIdempotencyKey c.deletions key := by
    cases h with
    | archive _ _ _ _ _ hevent _ =>
      subst hevent
      exact ⟨Table.lookup_insert_other hkey, rfl⟩
    | reactivate _ _ _ _ _ hevent _ =>
      subst hevent
      exact ⟨Table.lookup_insert_other hkey, rfl⟩
    | delete _ _ _ hdeletion _ _ =>
      subst hdeletion
      exact ⟨rfl, Table.lookup_insert_other hkey⟩
  have hsame : c'.loadEventOutcome key = c.loadEventOutcome key ∧
      c'.loadDeletionOutcome key = c.loadDeletionOutcome key := by
    unfold loadEventOutcome loadDeletionOutcome
    rw [hrows.1, hrows.2]
    exact ⟨rfl, rfl⟩
  cases other with
  | archive => exact hsame.1
  | reactivate => exact hsame.1
  | delete => exact hsame.2

variable {record : JobLifecycleRecord} {requests : List BackupAnalysisRequest}

theorem JobCatalog.Quiet.afterCommand (h : c.Quiet)
    (hchange : Change c command occurredUtc name c' outcome)
    (hrecord : outcome.record = some record)
    (hrequests : Desk.requestsAfter name command record occurredUtc c'.requests = .ok requests) :
    ({ c' with requests } : JobCatalog).Quiet := by
  have hquiet := h.change hchange
  obtain ⟨-, -, found, hfound, hjob⟩ := hchange.answer
  obtain rfl := Option.some.inj (hrecord.symm.trans hfound)
  cases name with
  | archive =>
    obtain rfl := Except.ok.inj hrequests
    exact hquiet
  | delete =>
    obtain rfl := Except.ok.inj hrequests
    exact hquiet
  | reactivate =>
    obtain ⟨⟨rows, recorded⟩, henqueue, rfl⟩ := Text.except_map_ok hrequests
    obtain ⟨-, hactive, -⟩ := hchange.effects.reactivation rfl
    refine hquiet.enqueue henqueue ?_
    show c'.isActive record.jobId = true
    rw [hjob]
    exact hactive

theorem HoldsRunning.afterCommand {held : BackupAnalysisRequest} (h : HoldsRunning c held)
    (hchange : Change c command occurredUtc name c' outcome)
    (hjob : name ≠ .reactivate → held.jobId ≠ command.jobId)
    (hrequests : Desk.requestsAfter name command record occurredUtc c'.requests = .ok requests) :
    HoldsRunning { c' with requests } held := by
  have heffects := hchange.effects
  have hkept : HoldsRunning c' held := by
    by_cases hname : name = .reactivate
    · obtain ⟨row, hload, hrunning, hsame⟩ := h
      have hrows := (heffects.reactivation hname).2.2
      exact ⟨row, hrows ▸ hload, hrunning, hsame⟩
    · obtain ⟨row, hload, hrunning, hsame⟩ := h
      obtain ⟨-, reasonCode, hrows⟩ := heffects.ending hname
      refine ⟨row, ?_, hrunning, hsame⟩
      rw [hrows]
      exact load_blockAnalyses hload (hsame ▸ hjob hname)
  cases name with
  | archive =>
    obtain rfl := Except.ok.inj hrequests
    exact hkept
  | delete =>
    obtain rfl := Except.ok.inj hrequests
    exact hkept
  | reactivate =>
    obtain ⟨⟨rows, recorded⟩, henqueue, rfl⟩ := Text.except_map_ok hrequests
    exact holdsRunning_enqueue henqueue hkept

end

end MediaSync.Jobs
