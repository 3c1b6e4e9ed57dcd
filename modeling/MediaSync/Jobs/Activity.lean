import MediaSync.Jobs.Engine

/-! What each catalog transaction does to the active jobs: a quiet catalog has unfinished runs and
pending requests of active jobs only. -/
namespace MediaSync.Jobs
open Runs Triggers

/-- The outcome as it was when the command was first accepted. -/
def JobLifecycleTransitionOutcome.unmarked (outcome : JobLifecycleTransitionOutcome) :
    JobLifecycleTransitionOutcome := { outcome with idempotentReplay := false }

def JobLifecycleTransitionOutcome.withArchivedUtc (outcome : JobLifecycleTransitionOutcome)
    (archivedUtc : Option String) : JobLifecycleTransitionOutcome :=
  { outcome with record := outcome.record.map fun record => { record with archivedUtc } }

namespace JobCatalog

variable {c c' : JobCatalog} {jobId : String}

theorem isActive_iff : c.isActive jobId = true ↔
    ∃ row, c.loadJobRow jobId = some row ∧ row.archived = false ∧ c.isDeleted jobId = false := by
  unfold isActive loadJobLifecycle
  cases c.loadJobRow jobId with
  | none => simp
  | some row => cases hd : c.isDeleted jobId <;> cases ha : row.archived <;> simp

theorem isActive_congr (hrow : c'.loadJobRow jobId = c.loadJobRow jobId)
    (hdeleted : c'.isDeleted jobId = c.isDeleted jobId) : c'.isActive jobId = c.isActive jobId := by
  unfold isActive loadJobLifecycle
  rw [hrow, hdeleted]

theorem isActive_overwrite {row row' : JobRow} (hrow : c.loadJobRow row'.id = some row)
    (harchived : row'.archived = row.archived)
    (hjobs : c'.jobs = Table.overwrite JobRow.id c.jobs row')
    (hdeletions : c'.deletions = c.deletions) (jobId : String) :
    c'.isActive jobId = c.isActive jobId := by
  by_cases hid : row'.id = jobId
  · subst hid
    have hfound : c'.loadJobRow row'.id = some row' := by
      unfold loadJobRow
      rw [hjobs]
      exact Table.lookup_overwrite_self hrow
    unfold isActive loadJobLifecycle isDeleted
    rw [hfound, hrow, hdeletions]
    simp [harchived]
  · apply isActive_congr
    · unfold loadJobRow
      rw [hjobs]
      exact Table.lookup_overwrite_other hid
    · unfold isDeleted
      rw [hdeletions]

theorem isActive_insert {row : JobRow} (hactive : c.isActive jobId = true)
    (hjobs : c'.jobs = Table.insert c.jobs row) (hdeletions : c'.deletions = c.deletions) :
    c'.isActive jobId = true := by
  obtain ⟨found, hfound, harchived, hdeleted⟩ := isActive_iff.mp hactive
  refine isActive_iff.mpr ⟨found, ?_, harchived, ?_⟩
  · unfold loadJobRow
    rw [hjobs]
    exact Table.lookup_insert_of_some hfound
  · unfold isDeleted
    rw [hdeletions]
    exact hdeleted

theorem isDeleted_insert {deletion : JobDeletion} (hne : deletion.jobId ≠ jobId)
    (hdeletions : c'.deletions = Table.insert c.deletions deletion) :
    c'.isDeleted jobId = c.isDeleted jobId := by
  unfold isDeleted
  rw [hdeletions, Table.lookup_insert_other hne]

/-- No run is blocking, and no analysis unfinished, for a job that is not active. -/
structure Quiet (c : JobCatalog) : Prop where
  unique : RequestsUnique c.requests
  runs : ∀ run ∈ c.runs, run.isBlocking = true → c.isActive run.jobId = true
  requests : ∀ request ∈ c.requests, request.state.isTerminal = false →
    c.isActive request.jobId = true

theorem Quiet.of_same (h : c.Quiet) (hruns : c'.runs = c.runs)
    (hrequests : c'.requests = c.requests)
    (hactive : ∀ jobId, c.isActive jobId = true → c'.isActive jobId = true) : c'.Quiet := by
  refine ⟨hrequests ▸ h.unique, fun run hrun hblocking => ?_, fun request hrequest hpending => ?_⟩
  · exact hactive _ (h.runs run (hruns ▸ hrun) hblocking)
  · exact hactive _ (h.requests request (hrequests ▸ hrequest) hpending)

variable {rows : List BackupAnalysisRequest}

theorem Quiet.of_requests (h : c.Quiet) (hunique : RequestsUnique rows)
    (hrows : ∀ request ∈ rows, request.state.isTerminal = false →
      c.isActive request.jobId = true) : ({ c with requests := rows } : JobCatalog).Quiet :=
  ⟨hunique, h.runs, hrows⟩

theorem Quiet.insert_run (h : c.Quiet) {run : StartedRun} (hactive : c.isActive run.jobId = true) :
    ({ c with runs := Table.insert c.runs run } : JobCatalog).Quiet := by
  refine ⟨h.unique, fun other hother hblocking => ?_, h.requests⟩
  rcases Table.mem_insert.mp hother with hold | rfl
  · exact h.runs other hold hblocking
  · exact hactive

theorem Quiet.enqueue (h : c.Quiet) {request recorded : BackupAnalysisRequest}
    (henqueue : enqueueBackupAnalysis c.requests request = .ok (rows, recorded))
    (hactive : c.isActive request.jobId = true) :
    ({ c with requests := rows } : JobCatalog).Quiet := by
  rcases enqueueBackupAnalysis_cases henqueue with ⟨rfl, -, -⟩ | ⟨hnone, rfl, hid, hsame, -⟩
  · exact h
  · have hjob : recorded.jobId = request.jobId := congrArg (fun x => x.2.1) hsame
    refine h.of_requests (h.unique.insert (hid ▸ hnone)) fun other hother hpending => ?_
    rcases Table.mem_insert.mp hother with hold | rfl
    · exact h.requests other hold hpending
    · rw [hjob]
      exact hactive

theorem Quiet.overwrite (h : c.Quiet) {row : BackupAnalysisRequest}
    (hrow : row.state.isTerminal = false → c.isActive row.jobId = true) :
    ({ c with requests :=
        Table.overwrite BackupAnalysisRequest.requestId c.requests row } : JobCatalog).Quiet := by
  refine h.of_requests h.unique.overwrite fun other hother hpending => ?_
  rcases Table.mem_overwrite hother with rfl | ⟨hold, -⟩
  · exact hrow hpending
  · exact h.requests other hold hpending

theorem Quiet.requeue (h : c.Quiet) :
    ({ c with requests := requeueInterruptedBackupAnalyses c.requests } : JobCatalog).Quiet := by
  refine h.of_requests (h.unique.updateWhere fun _ => rfl) fun other hother hpending => ?_
  obtain ⟨row, hrow, rfl⟩ := Table.mem_updateWhere.mp hother
  by_cases hrunning : row.state = .running
  · have hjob := h.requests row hrow (by rw [hrunning]; rfl)
    simpa [hrunning] using hjob
  · simp only [hrunning, decide_false, Bool.false_eq_true, if_false] at hpending ⊢
    exact h.requests row hrow hpending

variable {command : ChangeJobLifecycleCommand} {occurredUtc : String}
  {name : JobLifecycleCommandName} {outcome : JobLifecycleTransitionOutcome}

theorem blockingRunState_none (h : c.blockingRunState jobId = none) :
    ∀ run ∈ c.runs, run.jobId = jobId → run.isBlocking = false := by
  intro run hrun hjob
  rw [blockingRunState, Option.map_eq_none_iff, List.find?_eq_none] at h
  have hnot := h run (List.mem_reverse.mpr hrun)
  simpa [hjob] using hnot

/-- What an accepted lifecycle command changes outside its own job row. -/
structure Change.Effects (c : JobCatalog) (command : ChangeJobLifecycleCommand)
    (occurredUtc : String) (name : JobLifecycleCommandName) (c' : JobCatalog) : Prop where
  runs : c'.runs = c.runs
  others : ∀ jobId, jobId ≠ command.jobId → c'.isActive jobId = c.isActive jobId
  ending : name ≠ .reactivate → c.blockingRunState command.jobId = none ∧
    ∃ reasonCode, c'.requests =
      blockAnalysesOfJob c.requests command.jobId reasonCode occurredUtc
  reactivation : name = .reactivate → c.isActive command.jobId = false ∧
    c'.isActive command.jobId = true ∧ c'.requests = c.requests

theorem loadJobRow_overwrite_self {row row' : JobRow} (hrow : c.loadJobRow row'.id = some row)
    (hjobs : c'.jobs = Table.overwrite JobRow.id c.jobs row') :
    c'.loadJobRow row'.id = some row' := by
  unfold loadJobRow
  rw [hjobs]
  exact Table.lookup_overwrite_self hrow

theorem loadJobRow_overwrite_other {row' : JobRow} (hne : row'.id ≠ jobId)
    (hjobs : c'.jobs = Table.overwrite JobRow.id c.jobs row') :
    c'.loadJobRow jobId = c.loadJobRow jobId := by
  unfold loadJobRow
  rw [hjobs]
  exact Table.lookup_overwrite_other hne

theorem Change.effects (h : Change c command occurredUtc name c' outcome) :
    Change.Effects c command occurredUtc name c' := by
  cases h with
  | @archive row schedules count archived event outcome hrow hopen hdeleted hblocking harchived =>
    have hid : row.id = command.jobId := Table.lookup_key hrow
    have hid' : archived.id = command.jobId := harchived ▸ hid
    refine ⟨rfl, fun jobId hne => ?_, fun _ => ⟨hblocking, archiving.blockedReason, ?_⟩,
      fun hname => by cases hname⟩
    · exact isActive_congr (loadJobRow_overwrite_other (hid'.symm ▸ Ne.symm hne) rfl) rfl
    · rw [← hid']
      rfl
  | @reactivate row active event outcome hvalid hrow hclosed hdeleted hactive =>
    have hid : row.id = command.jobId := Table.lookup_key hrow
    have hid' : active.id = command.jobId := hactive ▸ hid
    refine ⟨rfl, fun jobId hne => ?_, fun hname => absurd rfl hname, fun _ => ⟨?_, ?_, rfl⟩⟩
    · exact isActive_congr (loadJobRow_overwrite_other (hid'.symm ▸ Ne.symm hne) rfl) rfl
    · refine Bool.eq_false_iff.mpr fun hbefore => ?_
      obtain ⟨found, hfound, harchived, -⟩ := isActive_iff.mp hbefore
      obtain rfl := Option.some.inj (hrow.symm.trans hfound)
      rw [hclosed] at harchived
      cases harchived
    · refine isActive_iff.mpr ⟨active, ?_, by rw [hactive], hdeleted⟩
      rw [← hid']
      exact loadJobRow_overwrite_self (hid'.symm ▸ hrow) rfl
  | @delete row schedules count deletion outcome hrow hdeleted hblocking hdeletion =>
    have hid : row.id = command.jobId := Table.lookup_key hrow
    refine ⟨rfl, fun jobId hne => ?_, fun _ => ⟨hblocking, deleting.blockedReason, ?_⟩,
      fun hname => by cases hname⟩
    · refine isActive_congr (loadJobRow_overwrite_other (hid.symm ▸ Ne.symm hne) rfl)
        (isDeleted_insert ?_ rfl)
      rw [hdeletion]
      exact hid.symm ▸ Ne.symm hne
    · rw [← hid]
      rfl

theorem load_blockAnalyses {requestId reasonCode : String} {row : BackupAnalysisRequest}
    (hload : loadBackupAnalysisRequest rows requestId = some row) (hjob : row.jobId ≠ jobId) :
    loadBackupAnalysisRequest (blockAnalysesOfJob rows jobId reasonCode occurredUtc) requestId =
      some row := by
  have hrow : Table.lookup BackupAnalysisRequest.requestId rows requestId = some row := hload
  unfold loadBackupAnalysisRequest blockAnalysesOfJob
  refine (Table.lookup_updateWhere ?_ requestId).trans ?_
  · exact fun _ => rfl
  · rw [hrow]
    simp [hjob]

theorem Quiet.change (h : c.Quiet) (hchange : Change c command occurredUtc name c' outcome) :
    c'.Quiet := by
  have heffects := hchange.effects
  by_cases hname : name = .reactivate
  · obtain ⟨-, hactive, hrequests⟩ := heffects.reactivation hname
    refine h.of_same heffects.runs hrequests fun jobId hbefore => ?_
    by_cases hjob : jobId = command.jobId
    · exact hjob ▸ hactive
    · rw [heffects.others jobId hjob]
      exact hbefore
  · obtain ⟨hblocking, reasonCode, hrequests⟩ := heffects.ending hname
    refine ⟨?_, fun run hrun hbusy => ?_, fun request hrequest hpending => ?_⟩
    · rw [hrequests]
      exact h.unique.updateWhere fun _ => rfl
    · rw [heffects.runs] at hrun
      have hjob : run.jobId ≠ command.jobId := fun heq => by
        have hidle := blockingRunState_none hblocking run hrun heq
        rw [hidle] at hbusy
        cases hbusy
      rw [heffects.others run.jobId hjob]
      exact h.runs run hrun hbusy
    · rw [hrequests] at hrequest
      obtain ⟨row, hrow, rfl⟩ := Table.mem_updateWhere.mp hrequest
      by_cases hblocked : (row.jobId = command.jobId && !row.state.isTerminal) = true
      · rw [if_pos hblocked] at hpending
        cases hpending
      · rw [if_neg hblocked] at hpending ⊢
        have hjob : row.jobId ≠ command.jobId := fun heq => hblocked (by simp [heq, hpending])
        rw [heffects.others row.jobId hjob]
        exact h.requests row hrow hpending

/-- The stored events and deletions of `c` are still there. -/
structure Grows (c c' : JobCatalog) : Prop where
  events : ∀ key event,
    Table.lookup JobLifecycleEvent.commandIdempotencyKey c.events key = some event →
    Table.lookup JobLifecycleEvent.commandIdempotencyKey c'.events key = some event
  deletions : ∀ key deletion,
    Table.lookup JobDeletion.commandIdempotencyKey c.deletions key = some deletion →
    Table.lookup JobDeletion.commandIdempotencyKey c'.deletions key = some deletion
  deleted : ∀ jobId row, c.isDeleted jobId = true → c.loadJobRow jobId = some row →
    c'.isDeleted jobId = true ∧
      ∃ row', c'.loadJobRow jobId = some row' ∧ row'.archivedUtc = row.archivedUtc

theorem Grows.of_tables (hevents : c'.events = c.events) (hdeletions : c'.deletions = c.deletions)
    (hjobs : ∀ jobId row, c.isDeleted jobId = true → c.loadJobRow jobId = some row →
      ∃ row', c'.loadJobRow jobId = some row' ∧ row'.archivedUtc = row.archivedUtc) :
    c.Grows c' := by
  refine ⟨fun _ _ hevent => hevents ▸ hevent, fun _ _ hdeletion => hdeletions ▸ hdeletion,
    fun jobId row hdeleted hrow => ⟨?_, hjobs jobId row hdeleted hrow⟩⟩
  unfold isDeleted at hdeleted ⊢
  rwa [hdeletions]

theorem Grows.of_same (hjobs : c'.jobs = c.jobs) (hevents : c'.events = c.events)
    (hdeletions : c'.deletions = c.deletions) : c.Grows c' := by
  refine Grows.of_tables hevents hdeletions fun jobId row _ hrow => ⟨row, ?_, rfl⟩
  unfold loadJobRow at hrow ⊢
  rwa [hjobs]

theorem Grows.trans {c'' : JobCatalog} (h : c.Grows c') (h' : c'.Grows c'') : c.Grows c'' := by
  refine ⟨fun key event hevent => h'.events _ _ (h.events _ _ hevent),
    fun key deletion hdeletion => h'.deletions _ _ (h.deletions _ _ hdeletion),
    fun jobId row hdeleted hrow => ?_⟩
  obtain ⟨hdeleted', row', hrow', harchived⟩ := h.deleted jobId row hdeleted hrow
  obtain ⟨hdeleted'', row'', hrow'', harchived'⟩ := h'.deleted jobId row' hdeleted' hrow'
  exact ⟨hdeleted'', row'', hrow'', harchived'.trans harchived⟩

theorem Grows.overwrite {row row' : JobRow} (hrow : c.loadJobRow row'.id = some row)
    (harchived : row'.archivedUtc = row.archivedUtc)
    (hjobs : c'.jobs = Table.overwrite JobRow.id c.jobs row') (hevents : c'.events = c.events)
    (hdeletions : c'.deletions = c.deletions) : c.Grows c' := by
  refine Grows.of_tables hevents hdeletions fun jobId found _ hfound => ?_
  by_cases hid : row'.id = jobId
  · subst hid
    obtain rfl := Option.some.inj (hrow.symm.trans hfound)
    exact ⟨row', loadJobRow_overwrite_self hrow hjobs, harchived⟩
  · exact ⟨found, (loadJobRow_overwrite_other hid hjobs).trans hfound, rfl⟩

theorem Grows.insert {row : JobRow} (hjobs : c'.jobs = Table.insert c.jobs row)
    (hevents : c'.events = c.events) (hdeletions : c'.deletions = c.deletions) : c.Grows c' := by
  refine Grows.of_tables hevents hdeletions fun jobId found _ hfound => ⟨found, ?_, rfl⟩
  unfold loadJobRow
  rw [hjobs]
  exact Table.lookup_insert_of_some hfound

theorem Grows.change (hchange : Change c command occurredUtc name c' outcome) : c.Grows c' := by
  have hother : ∀ {row' : JobRow} {jobId : String}, row'.id = command.jobId →
      c.isDeleted command.jobId = false → c.isDeleted jobId = true → row'.id ≠ jobId := by
    rintro row' jobId hid hkept hdeleted rfl
    rw [hid, hkept] at hdeleted
    cases hdeleted
  cases hchange with
  | @archive row schedules count archived event outcome hrow hopen hkept hblocking harchived =>
    have hid : row.id = command.jobId := Table.lookup_key hrow
    have hid' : archived.id = command.jobId := harchived ▸ hid
    refine ⟨fun _ _ hevent => Table.lookup_insert_of_some hevent, fun _ _ hdeletion => hdeletion,
      fun jobId found hdeleted hfound => ⟨hdeleted, found, ?_, rfl⟩⟩
    exact (loadJobRow_overwrite_other (hother hid' hkept hdeleted) rfl).trans hfound
  | @reactivate row active event outcome hvalid hrow hclosed hkept hactive =>
    have hid : row.id = command.jobId := Table.lookup_key hrow
    have hid' : active.id = command.jobId := hactive ▸ hid
    refine ⟨fun _ _ hevent => Table.lookup_insert_of_some hevent, fun _ _ hdeletion => hdeletion,
      fun jobId found hdeleted hfound => ⟨hdeleted, found, ?_, rfl⟩⟩
    exact (loadJobRow_overwrite_other (hother hid' hkept hdeleted) rfl).trans hfound
  | @delete row schedules count deletion outcome hrow hkept hblocking hdeletion =>
    have hid : row.id = command.jobId := Table.lookup_key hrow
    refine ⟨fun _ _ hevent => hevent, fun _ _ hfound => Table.lookup_insert_of_some hfound,
      fun jobId found hdeleted hfound => ⟨?_, found, ?_, rfl⟩⟩
    · obtain ⟨other, hother⟩ := Option.isSome_iff_exists.mp hdeleted
      exact Option.isSome_iff_exists.mpr ⟨other, Table.lookup_insert_of_some hother⟩
    · exact (loadJobRow_overwrite_other (@hother { row with
        lifecycleRowVersion := row.lifecycleRowVersion + 1 } _ hid hkept hdeleted) rfl).trans hfound

/-- What saving a job keeps. -/
structure Saves (c c' : JobCatalog) : Prop where
  runs : c'.runs = c.runs
  requests : c'.requests = c.requests
  events : c'.events = c.events
  deletions : c'.deletions = c.deletions
  grows : c.Grows c'
  active : ∀ jobId, c.isActive jobId = true → c'.isActive jobId = true

theorem Saves.refl : c.Saves c :=
  ⟨rfl, rfl, rfl, rfl, Grows.of_same rfl rfl rfl, fun _ hactive => hactive⟩

variable {py : PathLibrary} {host : SchedulerContext}

theorem saves_create (command : CreateStandardBackupJobCommand)
    (draft : Option StandardBackupJobDraft) (ids : StandardBackupJobIds) :
    c.Saves (performCommand py host c (.create command draft ids)) := by
  refine committed_of Saves.refl fun c' outcome hcreate => ?_
  rcases createStandardBackupJobFromDraft_cases hcreate with rfl | ⟨job, -, hsaved⟩
  · exact Saves.refl
  · obtain ⟨-, -, -, rfl⟩ := saveStandardBackupJob_cases hsaved
    exact ⟨rfl, rfl, rfl, rfl, Grows.insert rfl rfl rfl,
      fun _ hactive => isActive_insert hactive rfl rfl⟩

theorem saves_edit (command : UpdateStandardBackupJobCommand) (revisionId : String) :
    c.Saves (performCommand py host c (.edit command revisionId)) := by
  refine committed_of Saves.refl fun c' outcome hedit => ?_
  rcases updateStandardBackupJobFromDraft_cases hedit with
    rfl | ⟨current, edited, appended, schedules, -, -, -, -, happended, rfl⟩
  · exact Saves.refl
  · obtain ⟨row, hrow, -, -, -, -, hc'⟩ := appendStandardBackupJobRevision_cases happended
    have hid : row.id = edited.jobId := Table.lookup_key hrow
    have hfound : c.loadJobRow row.id = some row := hid.symm ▸ hrow
    refine ⟨by rw [hc'], by rw [hc'], by rw [hc'], by rw [hc'], ?_, fun jobId hactive => ?_⟩
    · exact @Grows.overwrite c _ row { row with activeRevisionId := edited.jobRevisionId } hfound
        rfl (by rw [hc']) (by rw [hc']) (by rw [hc'])
    · have hsame := @isActive_overwrite c { appended with schedules } row
        { row with activeRevisionId := edited.jobRevisionId } hfound rfl (by rw [hc']) (by rw [hc'])
      exact (hsame jobId).trans hactive

/-- The outcome that a command was answered with can still be read back. -/
def Retained (c : JobCatalog) (name : JobLifecycleCommandName) (idempotencyKey : String)
    (outcome : JobLifecycleTransitionOutcome) : Prop :=
  ∃ stored, c.storedOutcome name idempotencyKey = some stored ∧
    (outcome.unmarked = stored ∨ name = .delete ∧ ∃ deletion row,
      Table.lookup JobDeletion.commandIdempotencyKey c.deletions idempotencyKey = some deletion ∧
      c.isDeleted deletion.jobId = true ∧ c.loadJobRow deletion.jobId = some row ∧
      outcome.unmarked = stored.withArchivedUtc row.archivedUtc)

variable {idempotencyKey : String}

theorem Grows.storedOutcome (h : c.Grows c') {stored : JobLifecycleTransitionOutcome}
    (hstored : c.storedOutcome name idempotencyKey = some stored) :
    c'.storedOutcome name idempotencyKey = some stored := by
  have hevent : c.loadEventOutcome idempotencyKey = some stored →
      c'.loadEventOutcome idempotencyKey = some stored := by
    intro hload
    obtain ⟨event, hfound, hout⟩ := Option.map_eq_some_iff.mp hload
    exact Option.map_eq_some_iff.mpr ⟨event, h.events _ _ hfound, hout⟩
  cases name with
  | archive => exact hevent hstored
  | reactivate => exact hevent hstored
  | delete =>
    obtain ⟨deletion, hfound, hout⟩ := Option.map_eq_some_iff.mp hstored
    exact Option.map_eq_some_iff.mpr ⟨deletion, h.deletions _ _ hfound, hout⟩

theorem Retained.grows (h : c.Retained name idempotencyKey outcome) (hgrows : c.Grows c') :
    c'.Retained name idempotencyKey outcome := by
  obtain ⟨stored, hstored, hout⟩ := h
  refine ⟨stored, hgrows.storedOutcome hstored, hout.imp id ?_⟩
  rintro ⟨hname, deletion, row, hdeletion, hdeleted, hrow, hsame⟩
  obtain ⟨hdeleted', row', hrow', harchived⟩ := hgrows.deleted _ row hdeleted hrow
  exact ⟨hname, deletion, row', hgrows.deletions _ _ hdeletion, hdeleted', hrow',
    harchived ▸ hsame⟩

theorem Change.retained (h : Change c command occurredUtc name c' outcome)
    (hfresh : c.storedOutcome name command.idempotencyKey = none) :
    c'.Retained name command.idempotencyKey outcome := by
  cases h with
  | @archive row schedules count archived event outcome hrow hopen hkept hblocking harchived hevent
      hout =>
    subst hevent hout
    have hnone := Option.map_eq_none_iff.mp hfresh
    refine ⟨_, Option.map_eq_some_iff.mpr ⟨_, Table.lookup_insert_self hnone, rfl⟩, .inl ?_⟩
    simp [JobLifecycleTransitionOutcome.unmarked]
  | @reactivate row active event outcome hvalid hrow hclosed hkept hactive hevent hout =>
    subst hevent hout
    have hnone := Option.map_eq_none_iff.mp hfresh
    refine ⟨_, Option.map_eq_some_iff.mpr ⟨_, Table.lookup_insert_self hnone, rfl⟩, .inl ?_⟩
    simp [JobLifecycleTransitionOutcome.unmarked]
  | @delete row schedules count deletion outcome hrow hkept hblocking hdeletion hrevision hout =>
    subst hdeletion hout
    have hnone := Option.map_eq_none_iff.mp hfresh
    refine ⟨_, Option.map_eq_some_iff.mpr ⟨_, Table.lookup_insert_self hnone, rfl⟩,
      .inr ⟨rfl, _, { row with lifecycleRowVersion := row.lifecycleRowVersion + 1 },
        Table.lookup_insert_self hnone, ?_, ?_, ?_⟩⟩
    · simp [isDeleted, Table.insert, Table.lookup, List.find?_append]
    · have hid : row.id = command.jobId := Table.lookup_key hrow
      have hfound : c.loadJobRow row.id = some row := hid.symm ▸ hrow
      exact @loadJobRow_overwrite_self c _ row
        { row with lifecycleRowVersion := row.lifecycleRowVersion + 1 } hfound rfl
    · simp [JobLifecycleTransitionOutcome.unmarked, JobLifecycleTransitionOutcome.withArchivedUtc,
        hrevision]

end JobCatalog

end MediaSync.Jobs
