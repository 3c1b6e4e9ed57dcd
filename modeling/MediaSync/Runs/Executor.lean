import MediaSync.Foundation.Transition
import MediaSync.Runs.Moves

/-! The run store together with the leases one executor process retains. -/
namespace MediaSync.Runs
open Transition

inductive StoreCall where
  | saveStartedRun (start : RunStart)
  | releaseCreatedRun (runId : String)
  | requestRunPause (runId : String)
  | resumePausedRun (runId : String)
  | requestRunStopAfterActiveFile (runId requestedUtc : String)
  | bindRequestedRunStopBoundary (runId runTargetId operationId : String)
  | activateRequestedRunStop (runId : String)
  | beginRunTargetPreflight (runId runTargetId : String)
  | requeueNextDueWaitingRunTarget (due : WaitEvent → Bool)

def StoreCall.perform (t : RunTables) : StoreCall → Option RunTables
  | .saveStartedRun start => t.saveStartedRun start
  | .releaseCreatedRun runId => t.releaseCreatedRun runId
  | .requestRunPause runId => t.requestRunPause runId
  | .resumePausedRun runId => t.resumePausedRun runId
  | .requestRunStopAfterActiveFile runId utc => t.requestRunStopAfterActiveFile runId utc
  | .bindRequestedRunStopBoundary runId runTargetId operationId =>
    t.bindRequestedRunStopBoundary runId runTargetId operationId
  | .activateRequestedRunStop runId => t.activateRequestedRunStop runId
  | .beginRunTargetPreflight runId runTargetId => t.beginRunTargetPreflight runId runTargetId
  | .requeueNextDueWaitingRunTarget due => t.requeueNextDueWaitingRunTarget due

def StoreCall.released : StoreCall → RunRow → Prop
  | .releaseCreatedRun runId, run => run.id = runId
  | .requestRunPause runId, run => run.id = runId
  | _, _ => False

/-- `(run_id, run_target_id)`. -/
abbrev RunTargetKey := String × String

/-- The run tables and the `_leases` of the registry. -/
structure ExecutorState where
  tables : RunTables
  leases : List (RunTargetKey × RunLease)

namespace ExecutorState

variable (s : ExecutorState)

def loadRetained (runId runTargetId : String) : Option RunLease :=
  (s.leases.find? fun entry => entry.1 = (runId, runTargetId)).map Prod.snd

/-- `release_retained_run_target_lease`. -/
def release (runId runTargetId : String) : ExecutorState :=
  { s with leases := s.leases.filter fun entry => entry.1 ≠ (runId, runTargetId) }

/-- `retain_run_target_lease`: another lease under the key is released. -/
def retain (runId runTargetId : String) (lease : RunLease) : ExecutorState :=
  { s with leases := (s.release runId runTargetId).leases ++ [((runId, runTargetId), lease)] }

def releaseRun (runId : String) : ExecutorState :=
  { s with leases := s.leases.filter fun entry => entry.1.1 ≠ runId }

def acquireRunTargetLease (runId runTargetId : String) (lease : RunLease) : ExecutorState :=
  match s.tables.recordRunTargetLeaseAcquired runId runTargetId lease with
  | some tables => { s with tables }.retain runId runTargetId lease
  | none => s

def reacquireRunTargetLease (runId runTargetId : String) (lease : RunLease) :
    Option ExecutorState :=
  match s.loadRetained runId runTargetId, s.tables.loadTarget runId runTargetId with
  | none, some target =>
    match target.lastLeaseId, target.lastOwnershipEpoch, target.lastFencingToken with
    | some leaseId, some epoch, some token =>
      match s.tables.recordRunTargetLeaseReacquired runId runTargetId leaseId epoch token lease with
      | some tables => some ({ s with tables }.retain runId runTargetId lease)
      | none => some s
    | _, _, _ => none
  | _, _ => none

def waitForEndpoint (runId runTargetId : String) (expectedState : RunTargetState)
    (reasonCode : String) (timing : EndpointRetryTiming) : Option ExecutorState :=
  match s.loadRetained runId runTargetId with
  | some _ => none
  | none =>
    (s.tables.recordRunTargetWaitingForEndpoint runId runTargetId expectedState reasonCode
      timing).map fun tables => { s with tables }

def interruptStaging (runId runTargetId reasonCode : String) (timing : EndpointRetryTiming) :
    ExecutorState :=
  match s.tables.recordRunTargetWaitingForEndpoint runId runTargetId .executing
    reasonCode timing with
  | some tables => { s with tables }.release runId runTargetId
  | none => s

def startRunTargetExecution (runId runTargetId : String) : Option ExecutorState :=
  match s.loadRetained runId runTargetId with
  | none => none
  | some lease =>
    match s.tables.recordRunTargetExecutionStarted runId runTargetId lease with
    | some tables => some { s with tables }
    | none => some (s.release runId runTargetId)

def finishRunTarget (runId : String) (o : TargetOutcome) : ExecutorState :=
  match s.tables.recordOutcome runId o with
  | some tables => { s with tables }.release runId o.runTargetId
  | none => s

def finalizePause (runId : String) : Option ExecutorState :=
  if s.tables.runStateIn runId [.pausing] then
    match s.tables.finalizeRequestedRunPause runId with
    | some tables => some { s.releaseRun runId with tables }
    | none => some (s.releaseRun runId)
  else none

def finalizeStop (runId : String) (progress : List RunTargetStopProgress) : Option ExecutorState :=
  match s.tables.loadRunStopRequest runId with
  | none => none
  | some _ =>
    match s.tables.finalizeRequestedRunStop runId progress with
    | some tables => some { s.releaseRun runId with tables }
    | none => some (s.releaseRun runId)

/-- The leases `_retained_executing_targets` does not release. -/
def retainedExecutingTargets : ExecutorState :=
  { s with
    leases := s.leases.filter fun entry =>
      (s.tables.loadStartedRun entry.1.1).isSome &&
        (s.tables.loadTarget entry.1.1 entry.1.2).all fun target =>
          activeTargetStates.contains target.state }

end ExecutorState

inductive ExecutorLabel where
  | command (call : StoreCall)
  | acquireLease (runId runTargetId : String) (lease : RunLease)
  | reacquireLease (runId runTargetId : String) (lease : RunLease)
  | waitForEndpoint (runId runTargetId : String) (expectedState : RunTargetState)
      (reasonCode : String) (timing : EndpointRetryTiming)
  | interruptStaging (runId runTargetId reasonCode : String) (timing : EndpointRetryTiming)
  | startExecution (runId runTargetId : String)
  | finishTarget (runId : String) (o : TargetOutcome)
  | finalizePause (runId : String)
  | finalizeStop (runId : String) (progress : List RunTargetStopProgress)
  | sweepLeases
  /-- `release_all` at shutdown, or the end of the process. -/
  | releaseAll

def executor : System ExecutorState ExecutorLabel where
  init s := s = ⟨⟨[], [], [], []⟩, []⟩
  step s
    | .command call => (call.perform s.tables).map fun tables => { s with tables }
    | .acquireLease runId runTargetId lease =>
      some (s.acquireRunTargetLease runId runTargetId lease)
    | .reacquireLease runId runTargetId lease => s.reacquireRunTargetLease runId runTargetId lease
    | .waitForEndpoint runId runTargetId expectedState reasonCode timing =>
      s.waitForEndpoint runId runTargetId expectedState reasonCode timing
    | .interruptStaging runId runTargetId reasonCode timing =>
      some (s.interruptStaging runId runTargetId reasonCode timing)
    | .startExecution runId runTargetId => s.startRunTargetExecution runId runTargetId
    | .finishTarget runId o => some (s.finishRunTarget runId o)
    | .finalizePause runId => s.finalizePause runId
    | .finalizeStop runId progress => s.finalizeStop runId progress
    | .sweepLeases => some s.retainedExecutingTargets
    | .releaseAll => some { s with leases := [] }

def ExecutorLabel.released : ExecutorLabel → RunRow → Prop
  | .command call => call.released
  | _ => fun _ => False

namespace RunTables

structure Sound (t : RunTables) : Prop where
  keyed : t.Keyed
  owned : ∀ target ∈ t.targets, ∃ run ∈ t.runs, run.id = target.runId
  agrees : ∀ run ∈ t.runs, ∀ target ∈ t.targets, target.runId = run.id →
    agrees run.state target.state = true
  stops : ∀ stop ∈ t.stops, ∃ run ∈ t.runs, run.id = stop.runId ∧
    (stop.state = .applied → run.state.isTerminal = true)

variable {resolved : Prop} {released : RunRow → Prop} {parked : RunTargetRow → Prop}
  {t t' : RunTables}

theorem Sound.moves (h : t.Sound) (hmoves : Moves resolved released parked t t')
    (hres : resolved) : t'.Sound := by
  obtain ⟨f, g, hf, hg, hrows⟩ := hmoves.rows
  have hid : ∀ run, (g run).id = run.id := fun run => congrArg Prod.fst (hrows.runIdentity run)
  refine ⟨hmoves.keyed h.keyed, ?_, ?_, ?_⟩
  · intro target htarget
    obtain ⟨old, hold, rfl⟩ := List.mem_map.mp (hf ▸ htarget)
    obtain ⟨run, hrun, hrunId⟩ := h.owned old hold
    exact ⟨g run, hg ▸ List.mem_map_of_mem hrun,
      (hid run).trans (hrunId.trans (hrows.targetKey old).2.symm)⟩
  · intro run hrun target htarget hrunId
    obtain ⟨oldRun, holdRun, rfl⟩ := List.mem_map.mp (hg ▸ hrun)
    obtain ⟨old, hold, rfl⟩ := List.mem_map.mp (hf ▸ htarget)
    have hold' : old.runId = oldRun.id := by
      rw [← (hrows.targetKey old).2, hrunId, hid]
    exact hrows.agrees hres oldRun holdRun old hold hold' (h.agrees oldRun holdRun old hold hold')
  · intro stop hstop
    rcases hmoves.stops stop hstop with ⟨old, hold, hsame, happlied⟩ | hstored
    · obtain ⟨run, hrun, hrunId, hterminal⟩ := h.stops old hold
      refine ⟨g run, hg ▸ List.mem_map_of_mem hrun, (hid run).trans (hrunId.trans hsame), ?_⟩
      intro hnow
      have hbefore := hterminal (happlied hnow)
      rw [hrows.closedRun run hrun hbefore]
      exact hbefore
    · exact hstored

structure SavedRows (start : RunStart) (t t' : RunTables) : Prop where
  runs : t'.runs = t.runs ++ [startedRunFromPlan start]
  targets : t'.targets = t.targets ++ start.targets.map (startedRunTarget start.runId)
  stops : t'.stops = t.stops
  freshRun : ∀ run ∈ t.runs, run.id ≠ start.runId
  distinct : ((start.targets.map (startedRunTarget start.runId)).map RunTargetRow.id).Nodup
  freshTargets : ∀ new ∈ start.targets.map (startedRunTarget start.runId), ∀ old ∈ t.targets,
    old.id ≠ new.id

theorem saveStartedRun_rows {start : RunStart} (h : t.saveStartedRun start = some t') :
    SavedRows start t t' := by
  unfold saveStartedRun at h
  dsimp only at h
  split at h
  · cases h
  · rename_i hconflict
    obtain rfl := Option.some.inj h
    simp only [insertConflicts, Bool.or_eq_true, not_or, Bool.not_eq_true, List.any_eq_false,
      Bool.not_eq_false', decide_eq_true_eq, Bool.and_eq_true, not_and] at hconflict
    obtain ⟨⟨⟨hfreshRun, hids⟩, -⟩, hfreshTargets⟩ := hconflict
    exact ⟨rfl, rfl, rfl, hfreshRun, hids, fun new hnew old hold =>
      (hfreshTargets new hnew old hold).1⟩

theorem SavedRows.new_target {start : RunStart} {target : RunTargetRow}
    (h : target ∈ start.targets.map (startedRunTarget start.runId)) :
    target.runId = start.runId ∧ target.state = .pending := by
  obtain ⟨row, -, rfl⟩ := List.mem_map.mp h
  exact ⟨rfl, rfl⟩

theorem Keyed.save (hk : t.Keyed) {start : RunStart} (h : SavedRows start t t') : t'.Keyed := by
  refine ⟨?_, ?_, h.stops ▸ hk.stops⟩
  · rw [h.runs]
    exact hk.runs.insert (Table.lookup_none_iff.mpr h.freshRun)
  · have hold : (t.targets.map RunTargetRow.id).Nodup := hk.targets
    rw [Table.KeysUnique, h.targets, List.map_append, List.nodup_append]
    refine ⟨hold, h.distinct, ?_⟩
    intro a ha b hb hab
    obtain ⟨old, hold', rfl⟩ := List.mem_map.mp ha
    obtain ⟨new, hnew, rfl⟩ := List.mem_map.mp hb
    exact absurd hab (h.freshTargets new hnew old hold')

theorem Sound.save (h : t.Sound) {start : RunStart} (hsave : SavedRows start t t') :
    t'.Sound := by
  have hopen : (startedRunFromPlan start).state.isTerminal = false := by
    unfold startedRunFromPlan
    dsimp only
    split <;> rfl
  have hrunCases : ∀ run ∈ t'.runs, run ∈ t.runs ∨ run = startedRunFromPlan start := by
    intro run hrun
    rw [hsave.runs, List.mem_append, List.mem_singleton] at hrun
    exact hrun
  refine ⟨h.keyed.save hsave, ?_, ?_, ?_⟩
  · intro target htarget
    rcases List.mem_append.mp (hsave.targets ▸ htarget) with hold | hadded
    · obtain ⟨run, hrun, hid⟩ := h.owned target hold
      exact ⟨run, hsave.runs ▸ List.mem_append_left _ hrun, hid⟩
    · exact ⟨_, hsave.runs ▸ List.mem_append_right _ (List.mem_singleton.mpr rfl),
        (SavedRows.new_target hadded).1.symm⟩
  · intro run hrun target htarget hid
    rcases List.mem_append.mp (hsave.targets ▸ htarget) with hold | hadded
    · rcases hrunCases run hrun with hstored | rfl
      · exact h.agrees run hstored target hold hid
      · obtain ⟨owner, howner, hownerId⟩ := h.owned target hold
        exact absurd (hownerId.trans hid) (hsave.freshRun owner howner)
    · have hnew := SavedRows.new_target hadded
      rcases hrunCases run hrun with hstored | rfl
      · exact absurd (hid.symm.trans hnew.1) (hsave.freshRun run hstored)
      · rw [hnew.2]
        exact agrees_of_open hopen (by decide)
  · intro stop hstop
    obtain ⟨run, hrun, hrest⟩ := h.stops stop (hsave.stops ▸ hstop)
    exact ⟨run, hsave.runs ▸ List.mem_append_left _ hrun, hrest⟩

theorem StoreCall.moves {call : StoreCall} (hk : t.Keyed) (h : call.perform t = some t') :
    Moves True call.released (fun _ => False) t t' ∨
      ∃ start, call = .saveStartedRun start ∧ t.saveStartedRun start = some t' := by
  cases call with
  | saveStartedRun start => exact .inr ⟨start, rfl, h⟩
  | releaseCreatedRun runId => exact .inl (releaseCreatedRun_moves h)
  | requestRunPause runId => exact .inl (requestRunPause_moves h)
  | resumePausedRun runId => exact .inl (resumePausedRun_moves hk h)
  | requestRunStopAfterActiveFile runId utc =>
    exact .inl (requestRunStopAfterActiveFile_moves hk h)
  | bindRequestedRunStopBoundary runId runTargetId operationId =>
    exact .inl (bindRequestedRunStopBoundary_moves h)
  | activateRequestedRunStop runId => exact .inl (activateRequestedRunStop_moves hk h)
  | beginRunTargetPreflight runId runTargetId => exact .inl (beginRunTargetPreflight_moves hk h)
  | requeueNextDueWaitingRunTarget due => exact .inl (requeueNextDueWaitingRunTarget_moves hk h)

theorem recordOutcome_executing {r : String} {o : TargetOutcome}
    (h : t.recordOutcome r o = some t') : t.runStateIn r [.executing] = true := by
  obtain ⟨p, f, g, hfinish, -⟩ := recordOutcome_cases h
  simp only [finishTarget, bind, Option.bind_eq_some_iff] at hfinish
  obtain ⟨moved, hmove, -⟩ := hfinish
  obtain ⟨-, target, -, -, -, hp⟩ := moveTarget_eq_some hmove
  exact Bool.and_elim_right hp

end RunTables

namespace ExecutorState

def Holds (s : ExecutorState) (runId runTargetId : String) : Prop :=
  ∃ entry ∈ s.leases, entry.1 = (runId, runTargetId)

def Retained (s : ExecutorState) : Prop :=
  ∀ entry ∈ s.leases, ∃ target ∈ s.tables.targets, target.runId = entry.1.1 ∧
    target.id = entry.1.2 ∧ target.state ∈ activeTargetStates

structure Invariant (s : ExecutorState) : Prop where
  sound : s.tables.Sound
  retained : s.Retained

variable {s s' : ExecutorState} {resolved : Prop} {released : RunRow → Prop}
  {parked : RunTargetRow → Prop} {tables : RunTables} {r x : String}

variable {leases : List (RunTargetKey × RunLease)}

theorem Invariant.moves (h : s.Invariant)
    (hmoves : RunTables.Moves resolved released parked s.tables tables) (hres : resolved)
    (hsub : ∀ entry ∈ leases, entry ∈ s.leases)
    (hparked : ∀ entry ∈ leases, ∀ target ∈ s.tables.targets, target.runId = entry.1.1 →
      target.id = entry.1.2 → ¬ parked target) : Invariant ⟨tables, leases⟩ := by
  refine ⟨h.sound.moves hmoves hres, fun entry hentry => ?_⟩
  obtain ⟨f, g, hf, -, hrows⟩ := hmoves.rows
  obtain ⟨target, htarget, hr, hx, hactive⟩ := h.retained entry (hsub entry hentry)
  exact ⟨f target, hf ▸ List.mem_map_of_mem htarget, (hrows.targetKey target).2.trans hr,
    (hrows.targetKey target).1.trans hx,
    hrows.active target htarget hactive (hparked entry hentry target htarget hr hx)⟩

theorem Invariant.drop (h : s.Invariant) (hsub : ∀ entry ∈ leases, entry ∈ s.leases) :
    Invariant ⟨s.tables, leases⟩ :=
  ⟨h.sound, fun entry hentry => h.retained entry (hsub entry hentry)⟩

variable {lease : RunLease}

theorem Invariant.retain (h : s.Invariant) {target : RunTargetRow}
    (htarget : target ∈ s.tables.targets) (hr : target.runId = r) (hx : target.id = x)
    (hactive : target.state ∈ activeTargetStates) : (s.retain r x lease).Invariant := by
  refine ⟨h.sound, fun entry hentry => ?_⟩
  rcases List.mem_append.mp hentry with hold | hnew
  · exact h.retained entry (List.mem_filter.mp hold).1
  · obtain rfl := List.mem_singleton.mp hnew
    exact ⟨target, htarget, hr, hx, hactive⟩

variable {entry : RunTargetKey × RunLease}

theorem mem_release (h : entry ∈ (s.release r x).leases) : entry ∈ s.leases ∧ entry.1 ≠ (r, x) := by
  obtain ⟨hmem, hne⟩ := List.mem_filter.mp h
  exact ⟨hmem, of_decide_eq_true hne⟩

theorem mem_releaseRun (h : entry ∈ (s.releaseRun r).leases) :
    entry ∈ s.leases ∧ entry.1.1 ≠ r := by
  obtain ⟨hmem, hne⟩ := List.mem_filter.mp h
  exact ⟨hmem, of_decide_eq_true hne⟩

theorem Invariant.command (h : s.Invariant) {call : StoreCall}
    (hcall : call.perform s.tables = some tables) : Invariant { s with tables } := by
  rcases RunTables.StoreCall.moves h.sound.keyed hcall with hmoves | ⟨start, rfl, hsave⟩
  · exact h.moves hmoves trivial (fun _ he => he) fun _ _ _ _ _ _ hfalse => hfalse
  · have hrows := RunTables.saveStartedRun_rows hsave
    refine ⟨h.sound.save hrows, fun entry hentry => ?_⟩
    obtain ⟨target, htarget, hrest⟩ := h.retained entry hentry
    exact ⟨target, hrows.targets ▸ List.mem_append_left _ htarget, hrest⟩

theorem Invariant.acquire (h : s.Invariant) : (s.acquireRunTargetLease r x lease).Invariant := by
  unfold acquireRunTargetLease
  split
  · rename_i tables hacquire
    have hmoves := RunTables.recordRunTargetLeaseAcquired_moves h.sound.keyed hacquire
    have hnext : Invariant { s with tables } :=
      h.moves hmoves trivial (fun _ he => he) fun _ _ _ _ _ _ hfalse => hfalse
    obtain ⟨rfl, target, htarget, hr, hx, hp⟩ := RunTables.moveTarget_eq_some hacquire
    exact hnext.retain (RunTables.mem_updateTargets_of_mem htarget hr (by simp [hx, hp])) hr hx
      (by decide : RunTargetState.revalidating ∈ activeTargetStates)
  · exact h

theorem Invariant.reacquire (h : s.Invariant)
    (hstep : s.reacquireRunTargetLease r x lease = some s') : s'.Invariant := by
  unfold reacquireRunTargetLease at hstep
  split at hstep
  · split at hstep
    · split at hstep
      · rename_i tables hreacquire
        obtain rfl := Option.some.inj hstep
        have hmoves := RunTables.recordRunTargetLeaseReacquired_moves h.sound.keyed hreacquire
        have hnext : Invariant { s with tables } :=
          h.moves hmoves trivial (fun _ he => he) fun _ _ _ _ _ _ hfalse => hfalse
        obtain ⟨rfl, target, htarget, hr, hx, hp⟩ := RunTables.moveTarget_eq_some hreacquire
        have hactive : target.state ∈ activeTargetStates := by
          rcases Bool.or_eq_true _ _ ▸ Bool.and_elim_right hp with hpre | hexec
          · rw [of_decide_eq_true (Bool.and_elim_left hpre)]
            decide
          · rw [of_decide_eq_true (Bool.and_elim_left hexec)]
            decide
        exact hnext.retain (RunTables.mem_updateTargets_of_mem htarget hr (by simp [hx, hp])) hr hx
          hactive
      · obtain rfl := Option.some.inj hstep
        exact h
    · cases hstep
  · cases hstep

theorem loadRetained_none (h : s.loadRetained r x = none) :
    ∀ entry ∈ s.leases, entry.1 ≠ (r, x) := by
  intro entry hentry
  simp only [loadRetained, Option.map_eq_none_iff, List.find?_eq_none, decide_eq_true_eq] at h
  exact h entry hentry

variable {d : EndpointRetryTiming}

theorem Invariant.wait (h : s.Invariant) {a : RunTargetState} {c : String}
    (hstep : s.waitForEndpoint r x a c d = some s') : s'.Invariant := by
  unfold waitForEndpoint at hstep
  split at hstep
  · cases hstep
  · rename_i hnone
    obtain ⟨tables, hwait, rfl⟩ := Option.map_eq_some_iff.mp hstep
    have hmoves := RunTables.recordRunTargetWaitingForEndpoint_moves h.sound.keyed hwait
    refine h.moves hmoves trivial (fun _ he => he) fun entry hentry target _ hr hx hparked => ?_
    exact loadRetained_none hnone entry hentry
      (Prod.ext (hr.symm.trans hparked.1) (hx.symm.trans hparked.2))

theorem Invariant.interrupt (h : s.Invariant) {c : String} :
    (s.interruptStaging r x c d).Invariant := by
  unfold interruptStaging
  split
  · rename_i tables hwait
    have hmoves := RunTables.recordRunTargetWaitingForEndpoint_moves h.sound.keyed hwait
    refine h.moves hmoves trivial (fun _ he => (mem_release he).1)
      fun entry hentry target _ hr hx hparked => ?_
    exact (mem_release hentry).2 (Prod.ext (hr.symm.trans hparked.1) (hx.symm.trans hparked.2))
  · exact h

theorem Invariant.start (h : s.Invariant) (hstep : s.startRunTargetExecution r x = some s') :
    s'.Invariant := by
  unfold startRunTargetExecution at hstep
  split at hstep
  · cases hstep
  · split at hstep
    · rename_i tables hstart
      obtain rfl := Option.some.inj hstep
      exact h.moves (RunTables.recordRunTargetExecutionStarted_moves h.sound.keyed hstart) trivial
        (fun _ he => he) fun _ _ _ _ _ _ hfalse => hfalse
    · obtain rfl := Option.some.inj hstep
      exact h.drop fun _ he => (mem_release he).1

theorem Invariant.finish (h : s.Invariant) {o : TargetOutcome}
    (hguard : s.tables.runStateIn r [.executing] = true → s.tables.LastOrResolved r o) :
    (s.finishRunTarget r o).Invariant := by
  unfold finishRunTarget
  split
  · rename_i tables hrecord
    have hmoves := RunTables.recordOutcome_moves h.sound.keyed hrecord
    refine h.moves hmoves (hguard (RunTables.recordOutcome_executing hrecord))
      (fun _ he => (mem_release he).1)
      fun entry hentry target _ hr hx hparked => ?_
    exact (mem_release hentry).2 (Prod.ext (hr.symm.trans hparked.1) (hx.symm.trans hparked.2))
  · exact h

theorem Invariant.pause (h : s.Invariant) (hstep : s.finalizePause r = some s') :
    s'.Invariant := by
  unfold finalizePause at hstep
  split at hstep
  · split at hstep
    · rename_i tables hpause
      obtain rfl := Option.some.inj hstep
      refine h.moves (RunTables.finalizeRequestedRunPause_moves h.sound.keyed hpause) trivial
        (fun _ he => (mem_releaseRun he).1) fun entry hentry target _ hr _ hparked => ?_
      exact (mem_releaseRun hentry).2 (hr.symm.trans hparked)
    · obtain rfl := Option.some.inj hstep
      exact h.drop fun _ he => (mem_releaseRun he).1
  · cases hstep

theorem Invariant.stop (h : s.Invariant) {progress : List RunTargetStopProgress}
    (hstep : s.finalizeStop r progress = some s') : s'.Invariant := by
  unfold finalizeStop at hstep
  split at hstep
  · cases hstep
  · split at hstep
    · rename_i tables hstop
      obtain rfl := Option.some.inj hstep
      refine h.moves (RunTables.finalizeRequestedRunStop_moves h.sound.keyed hstop) trivial
        (fun _ he => (mem_releaseRun he).1) fun entry hentry target _ hr _ hparked => ?_
      exact (mem_releaseRun hentry).2 (hr.symm.trans hparked)
    · obtain rfl := Option.some.inj hstep
      exact h.drop fun _ he => (mem_releaseRun he).1

end ExecutorState

open ExecutorState

variable {label : ExecutorLabel}

theorem step_moves {s s' : ExecutorState} (hk : s.tables.Keyed)
    (hstep : executor.step s label = some s') :
    (∃ resolved parked, RunTables.Moves resolved label.released parked s.tables s'.tables) ∨
      ∃ start, label = .command (.saveStartedRun start) ∧
        s.tables.saveStartedRun start = some s'.tables := by
  cases label with
  | command call =>
    obtain ⟨tables, hcall, rfl⟩ := Option.map_eq_some_iff.mp hstep
    rcases RunTables.StoreCall.moves hk hcall with hmoves | ⟨start, rfl, hsave⟩
    · exact .inl ⟨_, _, hmoves⟩
    · exact .inr ⟨start, rfl, hsave⟩
  | acquireLease runId runTargetId lease =>
    obtain rfl := Option.some.inj hstep
    unfold acquireRunTargetLease
    split
    · rename_i tables hacquire
      exact .inl ⟨_, _, RunTables.recordRunTargetLeaseAcquired_moves hk hacquire⟩
    · exact .inl ⟨True, fun _ => True, RunTables.Moves.refl⟩
  | reacquireLease runId runTargetId lease =>
    simp only [executor, reacquireRunTargetLease] at hstep
    split at hstep
    · split at hstep
      · split at hstep
        · rename_i tables hreacquire
          obtain rfl := Option.some.inj hstep
          exact .inl ⟨_, _, RunTables.recordRunTargetLeaseReacquired_moves hk hreacquire⟩
        · obtain rfl := Option.some.inj hstep
          exact .inl ⟨True, fun _ => True, RunTables.Moves.refl⟩
      · cases hstep
    · cases hstep
  | waitForEndpoint runId runTargetId expectedState reasonCode timing =>
    simp only [executor, waitForEndpoint] at hstep
    split at hstep
    · cases hstep
    · obtain ⟨tables, hwait, rfl⟩ := Option.map_eq_some_iff.mp hstep
      exact .inl ⟨_, _, RunTables.recordRunTargetWaitingForEndpoint_moves hk hwait⟩
  -- a call that is refused leaves the tables, which is a move too
  | interruptStaging runId runTargetId reasonCode timing =>
    obtain rfl := Option.some.inj hstep
    unfold interruptStaging
    split
    · rename_i tables hwait
      exact .inl ⟨_, _, RunTables.recordRunTargetWaitingForEndpoint_moves hk hwait⟩
    · exact .inl ⟨True, fun _ => True, RunTables.Moves.refl⟩
  | startExecution runId runTargetId =>
    simp only [executor, startRunTargetExecution] at hstep
    split at hstep
    · cases hstep
    · split at hstep
      · rename_i tables hstart
        obtain rfl := Option.some.inj hstep
        exact .inl ⟨_, _, RunTables.recordRunTargetExecutionStarted_moves hk hstart⟩
      · obtain rfl := Option.some.inj hstep
        exact .inl ⟨True, fun _ => True, RunTables.Moves.refl⟩
  | finishTarget runId o =>
    obtain rfl := Option.some.inj hstep
    unfold finishRunTarget
    split
    · rename_i tables hrecord
      exact .inl ⟨_, _, RunTables.recordOutcome_moves hk hrecord⟩
    · exact .inl ⟨True, fun _ => True, RunTables.Moves.refl⟩
  | finalizePause runId =>
    simp only [executor, finalizePause] at hstep
    split at hstep
    · split at hstep
      · rename_i tables hpause
        obtain rfl := Option.some.inj hstep
        exact .inl ⟨_, _, RunTables.finalizeRequestedRunPause_moves hk hpause⟩
      · obtain rfl := Option.some.inj hstep
        exact .inl ⟨True, fun _ => True, RunTables.Moves.refl⟩
    · cases hstep
  | finalizeStop runId progress =>
    simp only [executor, finalizeStop] at hstep
    split at hstep
    · cases hstep
    · split at hstep
      · rename_i tables hstop
        obtain rfl := Option.some.inj hstep
        exact .inl ⟨_, _, RunTables.finalizeRequestedRunStop_moves hk hstop⟩
      · obtain rfl := Option.some.inj hstep
        exact .inl ⟨True, fun _ => True, RunTables.Moves.refl⟩
  | sweepLeases =>
    obtain rfl := Option.some.inj hstep
    exact .inl ⟨True, fun _ => True, RunTables.Moves.refl⟩
  | releaseAll =>
    obtain rfl := Option.some.inj hstep
    exact .inl ⟨True, fun _ => True, RunTables.Moves.refl⟩

theorem keyed_reachable {s : ExecutorState} (h : executor.Reachable s) : s.tables.Keyed := by
  refine System.ReachableWhen.invariant (P := fun s : ExecutorState => s.tables.Keyed)
    (fun s hs => ?_) (fun s label s' _ hk _ hstep => ?_) h
  · subst hs
    exact ⟨List.nodup_nil, List.nodup_nil, List.nodup_nil⟩
  · rcases step_moves hk hstep with ⟨resolved, parked, hmoves⟩ | ⟨start, -, hsave⟩
    · exact hmoves.keyed hk
    · exact hk.save (RunTables.saveStartedRun_rows hsave)

def DecisionsLast (s : ExecutorState) (label : ExecutorLabel) : Prop :=
  ∀ runId runTargetId code, label = .finishTarget runId ⟨runTargetId, .recoveryRequired code⟩ →
    s.tables.runStateIn runId [.executing] = true →
      ∀ target ∈ s.tables.targets, target.runId = runId → target.id ≠ runTargetId →
        target.state.isUnfinished = false

def ClosedWhenTerminal (s : ExecutorState) : Prop :=
  ∀ run ∈ s.tables.runs, run.state.isTerminal = true →
    ∀ target ∈ s.tables.targets, target.runId = run.id →
      target.state.isUnfinished = false ∧ ¬ s.Holds run.id target.id

theorem invariant_step {s s' : ExecutorState} (h : s.Invariant) (hok : DecisionsLast s label)
    (hstep : executor.step s label = some s') : s'.Invariant := by
  cases label with
  | command call =>
    obtain ⟨tables, hcall, rfl⟩ := Option.map_eq_some_iff.mp hstep
    exact h.command hcall
  | acquireLease runId runTargetId lease =>
    obtain rfl := Option.some.inj hstep
    exact h.acquire
  | reacquireLease runId runTargetId lease => exact h.reacquire hstep
  | waitForEndpoint runId runTargetId expectedState reasonCode timing => exact h.wait hstep
  | interruptStaging runId runTargetId reasonCode timing =>
    obtain rfl := Option.some.inj hstep
    exact h.interrupt
  | startExecution runId runTargetId => exact h.start hstep
  | finishTarget runId o =>
    obtain rfl := Option.some.inj hstep
    refine h.finish fun hexecuting hdecision => ?_
    obtain ⟨runTargetId, outcome⟩ := o
    cases outcome with
    | recoveryRequired code => exact hok runId runTargetId code rfl hexecuting
    | succeeded a b => cases hdecision
    | succeededWithWarnings a b c d e => cases hdecision
    | cancelled code => cases hdecision
  | finalizePause runId => exact h.pause hstep
  | finalizeStop runId progress => exact h.stop hstep
  | sweepLeases =>
    obtain rfl := Option.some.inj hstep
    exact h.drop fun _ he => (List.mem_filter.mp he).1
  | releaseAll =>
    obtain rfl := Option.some.inj hstep
    exact h.drop fun _ he => absurd he List.not_mem_nil

theorem invariant_reachable {s : ExecutorState} (h : executor.ReachableWhen DecisionsLast s) :
    s.Invariant := by
  refine h.invariant (fun s hs => ?_) fun s label s' _ hinv hok hstep =>
    invariant_step hinv hok hstep
  subst hs
  exact ⟨⟨⟨List.nodup_nil, List.nodup_nil, List.nodup_nil⟩, by simp, by simp, by simp⟩,
    fun _ he => absurd he List.not_mem_nil⟩

theorem closedWhenTerminal_of_invariant {s : ExecutorState} (h : s.Invariant) :
    ClosedWhenTerminal s := by
  intro run hrun hterminal target htarget hid
  have hfinished := finished_of_agrees (h.sound.agrees run hrun target htarget hid) hterminal
  refine ⟨hfinished, ?_⟩
  rintro ⟨entry, hentry, hkey⟩
  -- a held lease belongs to an active target, which the terminal run does not have
  obtain ⟨held, hheld, -, hx, hactive⟩ := h.retained entry hentry
  have hsame : held = target :=
    Table.key_injOn h.sound.keyed.targets hheld htarget (by rw [hx, hkey])
  rw [hsame] at hactive
  revert hactive hfinished
  generalize target.state = state
  cases state <;> decide

/-- In every run in which a decision is asked for only by the last unfinished target of its run,
a terminal run is closed. -/
theorem terminal_runs_closed {s : ExecutorState} (h : executor.ReachableWhen DecisionsLast s) :
    ClosedWhenTerminal s :=
  closedWhenTerminal_of_invariant (invariant_reachable h)

end MediaSync.Runs
