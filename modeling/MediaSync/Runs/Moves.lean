import MediaSync.Runs.Completion

/-! Every method but the one that inserts a run rewrites the rows of a single run in place. -/
namespace MediaSync.Runs

def agrees (run : RunState) (target : RunTargetState) : Bool :=
  (!run.isTerminal || !target.isUnfinished) &&
    (target ≠ .executing || run = .executing || run = .pausing)

variable {run : RunState} {target : RunTargetState}

theorem agrees_of_open (hrun : run.isTerminal = false) (htarget : target ≠ .executing) :
    agrees run target = true := by
  simp [agrees, hrun, htarget]

theorem agrees_of_running (h : run = .executing ∨ run = .pausing) : agrees run target = true := by
  rcases h with rfl | rfl <;> cases target <;> rfl

theorem agrees_of_finished (h : target.isUnfinished = false) : agrees run target = true := by
  revert h
  cases target <;>
    first
    | exact fun h => absurd h (by decide)
    | simp [agrees, RunTargetState.isUnfinished, unfinishedTargetStates]

theorem not_executing_of_agrees (h : agrees run target = true) (hexecuting : run ≠ .executing)
    (hpausing : run ≠ .pausing) : target ≠ .executing := by
  rintro rfl
  simp [agrees, hexecuting, hpausing] at h

theorem finished_of_agrees (h : agrees run target = true) (hrun : run.isTerminal = true) :
    target.isUnfinished = false := by
  simp only [agrees, hrun, Bool.and_eq_true] at h
  simpa using h.1

theorem Outcome.finished (o : Outcome) : o.targetState.isUnfinished = false := by
  cases o <;> rfl

def RunRow.identity (run : RunRow) : String × String × String × String × String :=
  (run.id, run.jobId, run.jobRevisionId, run.planId, run.planChecksum)

def activeTargetStates : List RunTargetState := [.revalidating, .executing]

def RunTargetRow.columns (target : RunTargetRow) :
    String × String × Option String × Option Int × Option String × Int × Int :=
  (target.endpointId, target.endpointRevisionId, target.requiredOwnerInstallationId,
    target.requiredOwnershipEpoch, target.leaseResourceKey, target.plannedOperations,
    target.plannedBytes)

namespace RunTables

/-- What the row functions of a call keep: row keys, fixed columns, agreement of states if
`resolved`, the states of a terminal run and its targets, the runs in CREATED unless `released`,
the runs that have left CREATED, and the active targets unless `parked`. -/
structure RowMoves (resolved : Prop) (released : RunRow → Prop) (parked : RunTargetRow → Prop)
    (t : RunTables) (f : RunTargetRow → RunTargetRow) (g : RunRow → RunRow) : Prop where
  targetKey : ∀ target, (f target).id = target.id ∧ (f target).runId = target.runId
  targetColumns : ∀ target, (f target).columns = target.columns
  runIdentity : ∀ run, (g run).identity = run.identity
  agrees : resolved → ∀ run ∈ t.runs, ∀ target ∈ t.targets, target.runId = run.id →
    agrees run.state target.state = true → agrees (g run).state (f target).state = true
  closedRun : ∀ run ∈ t.runs, run.state.isTerminal = true → (g run).state = run.state
  closedTarget : ∀ run ∈ t.runs, run.state.isTerminal = true → ∀ target ∈ t.targets,
    target.runId = run.id → (f target).state = target.state
  created : ∀ run ∈ t.runs, run.state = .created → ¬ released run →
    (g run).state = .created ∨ (g run).state.isTerminal = true
  departed : ∀ run ∈ t.runs, run.state ≠ .created → (g run).state ≠ .created
  active : ∀ target ∈ t.targets, target.state ∈ activeTargetStates → ¬ parked target →
    (f target).state ∈ activeTargetStates

def StopMoves (t t' : RunTables) : Prop :=
  ∀ stop ∈ t'.stops,
    (∃ old ∈ t.stops, old.runId = stop.runId ∧ (stop.state = .applied → old.state = .applied)) ∨
      ∃ run ∈ t'.runs, run.id = stop.runId ∧ (stop.state = .applied → run.state.isTerminal = true)

structure Moves (resolved : Prop) (released : RunRow → Prop) (parked : RunTargetRow → Prop)
    (t t' : RunTables) : Prop where
  rows : ∃ f g, t'.targets = t.targets.map f ∧ t'.runs = t.runs.map g ∧
    RowMoves resolved released parked t f g
  stops : StopMoves t t'
  uniqueStops : Table.KeysUnique StopRow.runId t.stops → Table.KeysUnique StopRow.runId t'.stops

/-- The same, for an update of the rows of run `r`. -/
structure UpdateFits (resolved : Prop) (released : RunRow → Prop) (parked : RunTargetRow → Prop)
    (t : RunTables) (r : String) (p : RunTargetRow → Bool) (f : RunTargetRow → RunTargetRow)
    (q : RunRow → Bool) (g : RunRow → RunRow) : Prop where
  targetKey : ∀ target, (f target).id = target.id ∧ (f target).runId = target.runId
  targetColumns : ∀ target, (f target).columns = target.columns
  runIdentity : ∀ run, (g run).identity = run.identity
  agrees : resolved → ∀ run ∈ t.runs, run.id = r → ∀ target ∈ t.targets, target.runId = r →
    agrees run.state target.state = true →
      agrees (if q run then (g run).state else run.state)
        (if p target then (f target).state else target.state) = true
  opened : ∀ run ∈ t.runs, run.id = r →
    (q run = true ∨ ∃ target ∈ t.targets, target.runId = r ∧ p target = true) →
      run.state.isTerminal = false
  created : ∀ run ∈ t.runs, run.id = r → run.state = .created → ¬ released run → q run = true →
    (g run).state = .created ∨ (g run).state.isTerminal = true
  departed : ∀ run ∈ t.runs, run.id = r → run.state ≠ .created → q run = true →
    (g run).state ≠ .created
  active : ∀ target ∈ t.targets, target.runId = r → p target = true →
    target.state ∈ activeTargetStates → ¬ parked target → (f target).state ∈ activeTargetStates

variable {resolved : Prop} {released : RunRow → Prop} {parked : RunTargetRow → Prop}
    {t t' : RunTables}
  {r x : String} {p : RunTargetRow → Bool} {f : RunTargetRow → RunTargetRow} {q : RunRow → Bool}
  {g : RunRow → RunRow}

theorem UpdateFits.moves (h : UpdateFits resolved released parked t r p f q g) :
    Moves resolved released parked t ((t.updateTargets r p f).updateRuns r q g) := by
  refine ⟨?_, fun stop hstop => .inl ⟨stop, hstop, rfl, id⟩, id⟩
  refine ⟨fun target => if decide (target.runId = r) && p target then
      { f target with rowVersion := target.rowVersion + 1 } else target,
    fun run => if decide (run.id = r) && q run then
      { g run with rowVersion := run.rowVersion + 1 } else run, rfl, rfl, ?_⟩
  refine ⟨fun target => ?_, fun target => ?_, fun run => ?_,
    fun hres run hrun target htarget hid hagrees => ?_, fun run hrun hterminal => ?_,
    fun run hrun hterminal target htarget hid => ?_,
    fun run hrun hcreated hreleased => ?_, fun run hrun hdeparted => ?_,
    fun target htarget hactive hparked => ?_⟩
  · dsimp only
    split
    · exact h.targetKey target
    · exact ⟨rfl, rfl⟩
  · dsimp only
    split
    · exact h.targetColumns target
    · rfl
  · dsimp only
    split
    · exact h.runIdentity run
    · rfl
  · by_cases hr : run.id = r
    · have hpair := h.agrees hres run hrun hr target htarget (hid.trans hr) hagrees
      simp only [hr, hid.trans hr, decide_true, Bool.true_and]
      split <;> split <;> simp_all
    · have htr : target.runId ≠ r := fun heq => hr (hid.symm.trans heq)
      simpa [hr, htr] using hagrees
  · dsimp only
    split
    · rename_i hq
      simp only [Bool.and_eq_true, decide_eq_true_eq] at hq
      exact absurd hterminal (by simp [h.opened run hrun hq.1 (.inl hq.2)])
    · rfl
  · dsimp only
    split
    · rename_i hp
      simp only [Bool.and_eq_true, decide_eq_true_eq] at hp
      have hopen := h.opened run hrun (hid.symm.trans hp.1) (.inr ⟨target, htarget, hp⟩)
      exact absurd hterminal (by simp [hopen])
    · rfl
  · dsimp only
    split
    · rename_i hq
      simp only [Bool.and_eq_true, decide_eq_true_eq] at hq
      exact h.created run hrun hq.1 hcreated hreleased hq.2
    · exact .inl hcreated
  · dsimp only
    split
    · rename_i hq
      simp only [Bool.and_eq_true, decide_eq_true_eq] at hq
      exact h.departed run hrun hq.1 hdeparted hq.2
    · exact hdeparted
  · dsimp only
    split
    · rename_i hp
      simp only [Bool.and_eq_true, decide_eq_true_eq] at hp
      exact h.active target htarget hp.1 hp.2 hactive hparked
    · exact hactive

theorem updateTargets_none : t.updateTargets r (fun _ => false) id = t := by
  simp [updateTargets, Table.updateWhere]

theorem updateRuns_none : t.updateRuns r (fun _ => false) id = t := by
  simp [updateRuns, Table.updateWhere]

theorem UpdateFits.movesRuns (h : UpdateFits resolved released parked t r (fun _ => false) id q g) :
    Moves resolved released parked t (t.updateRuns r q g) := by
  have hmoves := h.moves
  rwa [updateTargets_none] at hmoves

theorem UpdateFits.movesTargets
    (h : UpdateFits resolved released parked t r p f (fun _ => false) id) :
    Moves resolved released parked t (t.updateTargets r p f) := by
  have hmoves := h.moves
  rwa [updateRuns_none] at hmoves

theorem Moves.of_rows (htargets : t'.targets = t.targets) (hruns : t'.runs = t.runs)
    (hstops : StopMoves t t')
    (hunique : Table.KeysUnique StopRow.runId t.stops → Table.KeysUnique StopRow.runId t'.stops) :
    Moves resolved released parked t t' where
  rows :=
    ⟨id, id, by simp [htargets], by simp [hruns], ⟨fun _ => ⟨rfl, rfl⟩, fun _ => rfl, fun _ => rfl,
    fun _ _ _ _ _ _ h => h, fun _ _ _ => rfl, fun _ _ _ _ _ _ => rfl,
    fun _ _ h _ => .inl h, fun _ _ h => h, fun _ _ h _ => h⟩⟩
  stops := hstops
  uniqueStops := hunique

theorem Moves.refl : Moves resolved released parked t t :=
  .of_rows rfl rfl (fun stop hstop => .inl ⟨stop, hstop, rfl, id⟩) id

theorem Moves.congr {u : RunTables} (h : Moves resolved released parked t u)
    (htargets : t'.targets = u.targets) (hruns : t'.runs = u.runs) (hstops : StopMoves t t')
    (hunique : Table.KeysUnique StopRow.runId t.stops → Table.KeysUnique StopRow.runId t'.stops) :
    Moves resolved released parked t t' := by
  obtain ⟨f, g, hf, hg, hrows⟩ := h.rows
  exact ⟨⟨f, g, htargets.trans hf, hruns.trans hg, hrows⟩, hstops, hunique⟩

theorem Moves.keyed (h : Moves resolved released parked t t') (hk : t.Keyed) : t'.Keyed := by
  obtain ⟨f, g, hf, hg, hrows⟩ := h.rows
  refine ⟨?_, ?_, h.uniqueStops hk.stops⟩
  · have hids : (t.runs.map g).map RunRow.id = t.runs.map RunRow.id := by
      rw [List.map_map]
      exact List.map_congr_left fun run _ => congrArg Prod.fst (hrows.runIdentity run)
    rw [Table.KeysUnique, hg, hids]
    exact hk.runs
  · have hids : (t.targets.map f).map RunTargetRow.id = t.targets.map RunTargetRow.id := by
      rw [List.map_map]
      exact List.map_congr_left fun target _ => (hrows.targetKey target).1
    rw [Table.KeysUnique, hf, hids]
    exact hk.targets

section
variable (hk : t.Keyed)

include hk

theorem Keyed.selected (h : ∃ run ∈ t.runs, run.id = r ∧ q run = true) :
    ∀ run ∈ t.runs, run.id = r → q run = true := by
  obtain ⟨found, hfound, hid, hq⟩ := h
  intro run hrun hr
  rw [Table.key_injOn hk.runs hrun hfound (hr.trans hid.symm)]
  exact hq

omit hk in
theorem releaseCreatedRun_moves (h : t.releaseCreatedRun r = some t') :
    Moves True (·.id = r) (fun _ => False) t t' := by
  have hrows : t' = t.updateRuns r (·.state = .created) ({ · with state := .queued }) := by
    unfold releaseCreatedRun at h
    dsimp only at h
    split at h
    · cases h
    · split at h
      · cases h
      · exact (Option.some.inj h).symm
  subst hrows
  refine UpdateFits.movesRuns ⟨fun _ => ⟨rfl, rfl⟩, fun _ => rfl, fun _ => rfl, ?_, ?_, ?_, ?_, ?_⟩
  · intro _ run hrun hid target htarget hr hagrees
    by_cases hcreated : run.state = .created
    · rw [hcreated] at hagrees
      have htarget := not_executing_of_agrees hagrees (by decide) (by decide)
      simpa [hcreated] using agrees_of_open (by decide) htarget
    · simpa [hcreated] using hagrees
  · rintro run hrun hid (hq | ⟨target, -, -, hp⟩)
    · have hcreated : run.state = .created := by simpa using hq
      rw [hcreated]
      decide
    · cases hp
  · intro run _ hid _ hreleased
    exact absurd hid hreleased
  · intro run _ _ _ _ heq
    cases heq
  · intro target _ _ hp
    cases hp

omit hk in
theorem requestRunPause_moves (h : t.requestRunPause r = some t') :
    Moves True (·.id = r) (fun _ => False) t t' := by
  obtain ⟨rfl, -⟩ := moveRun_eq_some h
  refine UpdateFits.movesRuns ⟨fun _ => ⟨rfl, rfl⟩, fun _ => rfl, fun _ => rfl, ?_, ?_, ?_, ?_, ?_⟩
  · intro _ run hrun hid target htarget hr hagrees
    dsimp only
    split
    · exact agrees_of_running (.inr rfl)
    · exact hagrees
  · rintro run hrun hid (hq | ⟨target, -, -, hp⟩)
    · have hstate := List.contains_iff_mem.mp (Bool.and_elim_left hq)
      revert hstate
      generalize run.state = state
      cases state <;> decide
    · cases hp
  · intro run _ hid _ hreleased
    exact absurd hid hreleased
  · intro run _ _ _ _ heq
    cases heq
  · intro target _ _ hp
    cases hp

theorem finalizeRequestedRunPause_moves (h : t.finalizeRequestedRunPause r = some t') :
    Moves True (fun _ => False) (·.runId = r) t t' := by
  obtain ⟨rfl, hfound⟩ := moveRun_eq_some h
  have hpausing : ∀ run ∈ t.runs, run.id = r → run.state = .pausing := fun run hrun hid => by
    simpa using hk.selected hfound run hrun hid
  refine UpdateFits.moves ⟨fun _ => ⟨rfl, rfl⟩, fun _ => rfl, fun _ => rfl, ?_, ?_, ?_, ?_, ?_⟩
  · intro _ run hrun hid target htarget hr hagrees
    have hstate := hpausing run hrun hid
    have hin : t.runStateIn r [.pausing] = true :=
      runStateIn_iff.mpr ⟨run, hrun, hid, by simp [hstate]⟩
    simp only [hstate, decide_true, if_true, hin, Bool.and_true]
    refine agrees_of_open (by decide) ?_
    split
    · exact (by decide : RunTargetState.paused ≠ .executing)
    · rename_i hnot
      rintro hexecuting
      exact hnot (by simp [hexecuting])
  · intro run hrun hid _
    rw [hpausing run hrun hid]
    decide
  · intro run hrun hid hcreated
    rw [hpausing run hrun hid] at hcreated
    cases hcreated
  · intro run _ _ _ _ heq
    cases heq
  · intro target _ hr _ _ hparked
    exact absurd hr hparked

theorem resumePausedRun_moves (h : t.resumePausedRun r = some t') :
    Moves True (fun _ => False) (fun _ => False) t t' := by
  obtain ⟨rfl, hfound⟩ := moveRun_eq_some h
  have hpaused : ∀ run ∈ t.runs, run.id = r → run.state = .paused := fun run hrun hid => by
    have hq := hk.selected hfound run hrun hid
    simp only [Bool.and_eq_true, decide_eq_true_eq] at hq
    exact hq.1.1
  refine UpdateFits.moves ⟨fun _ => ⟨rfl, rfl⟩, fun _ => rfl, fun _ => rfl, ?_, ?_, ?_, ?_, ?_⟩
  · intro _ run hrun hid target htarget hr hagrees
    have hstate := hpaused run hrun hid
    have hnot : target.state ≠ .executing :=
      not_executing_of_agrees (hstate ▸ hagrees) (by decide) (by decide)
    refine agrees_of_open ?_ ?_
    · split
      · rfl
      · rw [hstate]
        rfl
    · split
      · exact (by decide : RunTargetState.pending ≠ .executing)
      · exact hnot
  · intro run hrun hid _
    rw [hpaused run hrun hid]
    decide
  · intro run hrun hid hcreated
    rw [hpaused run hrun hid] at hcreated
    cases hcreated
  · intro run _ _ _ _ heq
    cases heq
  · intro target _ _ hp hactive
    simp only [Bool.and_eq_true, decide_eq_true_eq] at hp
    rw [hp.1] at hactive
    exact absurd hactive (by decide)

theorem requestRunStopAfterActiveFile_moves {utc : String}
    (h : t.requestRunStopAfterActiveFile r utc = some t') :
    Moves True (fun _ => False) (fun _ => False) t t' := by
  unfold requestRunStopAfterActiveFile at h
  split at h
  · rename_i hguard
    have hin := Bool.and_elim_left hguard
    obtain rfl := Option.some.inj h
    obtain ⟨stopped, hstopped, hstoppedId, -⟩ := runStateIn_iff.mp hin
    have hfresh : Table.lookup StopRow.runId t.stops r = none := by
      refine Table.lookup_none_iff.mpr fun stop hstop heq => ?_
      have hnone := Bool.and_elim_right hguard
      simp only [Bool.not_eq_true', List.any_eq_false] at hnone
      exact hnone stop hstop (by simp [heq])
    refine Moves.congr (u := t.updateRuns r (fun _ => true) id)
      (UpdateFits.movesRuns
        ⟨fun _ => ⟨rfl, rfl⟩, fun _ => rfl, fun _ => rfl, ?_, ?_, ?_, ?_, ?_⟩) rfl rfl
      (fun stop hstop => ?_) fun hunique => hunique.insert hfresh
    rotate_right
    · -- the new request is pending and its run is stored
      rcases Table.mem_insert.mp hstop with hold | rfl
      · exact .inl ⟨stop, hold, rfl, id⟩
      · exact .inr ⟨_, mem_updateRuns_of_mem hstopped hstoppedId rfl, hstoppedId,
          fun happlied => absurd happlied (by simp [requestedStop])⟩
    · intro _ run hrun hid target htarget hr hagrees
      exact hagrees
    · intro run hrun hid _
      have hmem := hk.state_mem hrun (hid ▸ hin)
      revert hmem
      generalize run.state = state
      cases state <;> decide
    · intro run _ _ hcreated _ _
      exact .inl hcreated
    · intro run _ _ hdeparted _
      exact hdeparted
    · intro target _ _ hp
      cases hp
  · split at h
    · cases h
    · split at h
      · obtain rfl := Option.some.inj h
        exact Moves.refl
      · cases h

omit hk in
theorem bindRequestedRunStopBoundary_moves {o : String}
    (h : t.bindRequestedRunStopBoundary r x o = some t') :
    Moves True (fun _ => False) (fun _ => False) t t' := by
  unfold bindRequestedRunStopBoundary at h
  dsimp only at h
  split at h
  · cases h
  · obtain rfl := Option.some.inj h
    refine Moves.of_rows rfl rfl (fun stop hstop => ?_) fun hunique =>
      hunique.updateWhere fun stop => rfl
    obtain ⟨old, hold, rfl⟩ := Table.mem_updateWhere.mp hstop
    refine .inl ⟨old, hold, ?_⟩
    split <;> exact ⟨rfl, id⟩

theorem Keyed.loaded {run : RunRow} (h : t.loadStartedRun r = some run) :
    ∀ other ∈ t.runs, other.id = r → other = run := fun _ hother hid =>
  Table.key_injOn hk.runs hother (Table.lookup_mem h) (hid.trans (Table.lookup_key h).symm)

theorem activateRequestedRunStop_moves (h : t.activateRequestedRunStop r = some t') :
    Moves True (fun _ => False) (fun _ => False) t t' := by
  unfold activateRequestedRunStop at h
  split at h
  · rename_i run stop hload hstop
    have hrow := hk.loaded hload
    split at h
    · -- a paused run wakes its boundary target
      rename_i hpaused
      split at h
      · cases h
      · rename_i boundary hboundary
        obtain ⟨woken, hmove, rfl⟩ := Option.map_eq_some_iff.mp h
        obtain ⟨rfl, -⟩ := moveTarget_eq_some hmove
        refine UpdateFits.moves
          ⟨fun _ => ⟨rfl, rfl⟩, fun _ => rfl, fun _ => rfl, ?_, ?_, ?_, ?_, ?_⟩
        · intro _ other hother hid target htarget hr hagrees
          obtain rfl := hrow other hother hid
          have hnot := not_executing_of_agrees (hpaused ▸ hagrees) (by decide) (by decide)
          simp only [hpaused, decide_true, if_true]
          refine agrees_of_open (by decide) ?_
          split
          · exact (by decide : RunTargetState.pending ≠ .executing)
          · exact hnot
        · intro other hother hid _
          rw [hrow other hother hid, hpaused]
          decide
        · intro other hother hid hcreated
          rw [hrow other hother hid, hpaused] at hcreated
          cases hcreated
        · intro other _ _ _ _ heq
          cases heq
        · intro target _ _ hp hactive
          simp only [Bool.and_eq_true, decide_eq_true_eq] at hp
          rw [hp.2] at hactive
          exact absurd hactive (by decide)
    · split at h
      · -- a pausing run goes back to what its targets are doing
        rename_i hpausing
        obtain rfl := Option.some.inj h
        refine UpdateFits.movesRuns
          ⟨fun _ => ⟨rfl, rfl⟩, fun _ => rfl, fun _ => rfl, ?_, ?_, ?_, ?_, ?_⟩
        · intro _ other hother hid target htarget hr hagrees
          obtain rfl := hrow other hother hid
          simp only [hpausing, decide_true, if_true]
          show Runs.agrees (t.activatedState r) target.state = true
          by_cases hexecuting : t.targetStateIn r [.executing] = true
          · rw [activatedState, if_pos hexecuting]
            exact agrees_of_running (.inl rfl)
          · have hnot : target.state ≠ .executing := fun heq =>
              hexecuting (targetStateIn_iff.mpr ⟨target, htarget, hr, by simp [heq]⟩)
            refine agrees_of_open ?_ hnot
            rw [activatedState, if_neg hexecuting]
            split <;> rfl
        · intro other hother hid _
          rw [hrow other hother hid, hpausing]
          decide
        · intro other hother hid hcreated
          rw [hrow other hother hid, hpausing] at hcreated
          cases hcreated
        · intro other _ _ _ _
          show t.activatedState r ≠ .created
          unfold activatedState
          split
          · decide
          · split <;> decide
        · intro target _ _ hp
          cases hp
      · obtain rfl := Option.some.inj h
        exact Moves.refl
  · cases h

theorem finalizeRequestedRunStop_moves {progress : List RunTargetStopProgress}
    (h : t.finalizeRequestedRunStop r progress = some t') :
    Moves True (fun _ => False) (·.runId = r) t t' := by
  unfold finalizeRequestedRunStop at h
  split at h
  · simp only [bind, Option.bind_eq_some_iff] at h
    obtain ⟨closed, hmove, hstop⟩ := h
    obtain ⟨rfl, hfound⟩ := moveRun_eq_some hmove
    obtain rfl := Option.some.inj hstop
    have hstoppable := hk.selected hfound
    refine Moves.congr (u := (t.updateTargets r (·.state.isUnfinished)
      (stoppedTarget progress)).updateRuns r (fun run => stoppableRunStates.contains run.state)
      stoppedRun) (UpdateFits.moves
        ⟨fun _ => ⟨rfl, rfl⟩, fun _ => rfl, fun _ => rfl, ?_, ?_, ?_, ?_, ?_⟩) rfl rfl
      (fun stop hstop => ?_) fun hunique => hunique.updateWhere fun stop => rfl
    rotate_right
    · -- a request is applied together with the close of its run
      obtain ⟨old, hold, rfl⟩ := Table.mem_updateWhere.mp hstop
      split
      · rename_i hsel
        obtain ⟨run, hrun, hid, hq⟩ := hfound
        exact .inr ⟨_, mem_updateRuns_of_mem hrun hid hq,
          hid.trans (of_decide_eq_true (Bool.and_elim_left hsel)).symm, fun _ => rfl⟩
      · exact .inl ⟨old, hold, rfl, id⟩
    · intro _ run hrun hid target htarget hr hagrees
      refine agrees_of_finished ?_
      split
      · rfl
      · rename_i hfinished
        simpa using hfinished
    · intro run hrun hid _
      have hmem := List.contains_iff_mem.mp (hstoppable run hrun hid)
      revert hmem
      generalize run.state = state
      cases state <;> decide
    · intro run hrun hid _ _ _
      exact .inr (by decide : RunState.cancelled.isTerminal = true)
    · intro run _ _ _ _ heq
      cases heq
    · intro target _ hr _ _ hparked
      exact absurd hr hparked
  · cases h

theorem beginRunTargetPreflight_moves (h : t.beginRunTargetPreflight r x = some t') :
    Moves True (fun _ => False) (fun _ => False) t t' := by
  simp only [beginRunTargetPreflight, bind, Option.bind_eq_some_iff] at h
  obtain ⟨claimed, hclaim, hrun⟩ := h
  obtain ⟨rfl, -⟩ := moveTarget_eq_some hclaim
  obtain ⟨rfl, hfound⟩ := moveRun_eq_some hrun
  have hrunnable := hk.selected hfound
  refine UpdateFits.moves ⟨fun _ => ⟨rfl, rfl⟩, fun _ => rfl, fun _ => rfl, ?_, ?_, ?_, ?_, ?_⟩
  · intro _ run hrun hid target htarget hr hagrees
    rw [if_pos (hrunnable run hrun hid)]
    by_cases hexecuting : run.state = .executing
    · exact agrees_of_running (.inl (by simp [hexecuting]))
    · have hpausing : run.state ≠ .pausing := fun heq => by
        have hmem := hrunnable run hrun hid
        rw [heq] at hmem
        exact absurd hmem (by decide)
      refine agrees_of_open (by simp [hexecuting]; rfl) ?_
      split
      · exact (by decide : RunTargetState.acquiringLease ≠ .executing)
      · exact not_executing_of_agrees hagrees hexecuting hpausing
  · intro run hrun hid _
    have hmem := List.contains_iff_mem.mp (hrunnable run hrun hid)
    revert hmem
    generalize run.state = state
    cases state <;> decide
  · intro run hrun hid hcreated
    have hmem := hrunnable run hrun hid
    rw [hcreated] at hmem
    exact absurd hmem (by decide)
  · intro run _ _ _ _
    dsimp only
    split <;> decide
  · intro target _ _ hp hactive
    simp only [Bool.and_eq_true, decide_eq_true_eq] at hp
    rw [hp.2.1.1] at hactive
    exact absurd hactive (by decide)

theorem moveTarget_moves (states : List RunState) (h : t.moveTarget r x p f = some t')
    (hkey : ∀ target, (f target).id = target.id ∧ (f target).runId = target.runId)
    (hcolumns : ∀ target, (f target).columns = target.columns)
    (hguard : ∀ target, p target = true → t.runStateIn r states = true)
    (hstates : ∀ state ∈ states, state.isTerminal = false)
    (hstate : ∀ target, (f target).state ≠ .executing ∨ (f target).state = target.state)
    (hactive : ∀ target ∈ t.targets, target.runId = r → target.id = x → p target = true →
      target.state ∈ activeTargetStates → ¬ parked target → (f target).state ∈ activeTargetStates) :
    Moves resolved released parked t t' := by
  obtain ⟨rfl, found, -, -, -, hp⟩ := moveTarget_eq_some h
  have hopen : ∀ run ∈ t.runs, run.id = r → run.state.isTerminal = false := fun run hrun hid =>
    hstates _ (hk.state_mem hrun (hid ▸ hguard found hp))
  refine UpdateFits.movesTargets ⟨hkey, hcolumns, fun _ => rfl, ?_, ?_, ?_, ?_, ?_⟩
  · intro _ run hrun hid target htarget hr hagrees
    simp only [Bool.false_eq_true, if_false]
    split
    · rcases hstate target with hnot | hsame
      · exact agrees_of_open (hopen run hrun hid) hnot
      · rw [hsame]
        exact hagrees
    · exact hagrees
  · intro run hrun hid _
    exact hopen run hrun hid
  · intro run _ _ _ _ hq
    cases hq
  · intro run _ _ _ hq
    cases hq
  · intro target htarget hr hsel
    simp only [Bool.and_eq_true, decide_eq_true_eq] at hsel
    exact hactive target htarget hr hsel.1 hsel.2

theorem recordRunTargetWaitingForEndpoint_moves {a : RunTargetState} {c : String}
    {d : EndpointRetryTiming}
    (h : t.recordRunTargetWaitingForEndpoint r x a c d = some t') :
    Moves True (fun _ => False) (fun target => target.runId = r ∧ target.id = x) t t' := by
  unfold recordRunTargetWaitingForEndpoint at h
  dsimp only at h
  split at h
  · cases h
  · simp only [bind, Option.bind_eq_some_iff] at h
    obtain ⟨waiting, hmove, hevent⟩ := h
    obtain rfl := Option.some.inj hevent
    refine Moves.congr (moveTarget_moves hk _ hmove (fun _ => ⟨rfl, rfl⟩) (fun _ => rfl)
      (fun target hp => Bool.and_elim_right hp) (by decide)
      (fun target => .inl (by decide : RunTargetState.waitingForEndpoint ≠ .executing))
      fun target _ hr hx _ _ hparked => absurd ⟨hr, hx⟩ hparked) rfl rfl
      (fun stop hstop => .inl ⟨stop, ?_, rfl, id⟩) ?_
    · rwa [(moveTarget_eq_some hmove).1] at hstop
    · rw [(moveTarget_eq_some hmove).1]
      exact id

theorem requeueNextDueWaitingRunTarget_moves {due : WaitEvent → Bool}
    (h : t.requeueNextDueWaitingRunTarget due = some t') :
    Moves True (fun _ => False) (fun _ => False) t t' := by
  unfold requeueNextDueWaitingRunTarget at h
  split at h
  · cases h
  · rename_i event hfind
    have hcandidate := List.mem_of_mem_take (List.mem_of_find?_eq_some hfind)
    obtain ⟨rest, -, hrest⟩ := List.mem_filterMap.mp hcandidate
    have hguard : t.runStateIn event.runId [.queued, .preflight, .executing] = true := by
      split at hrest
      · cases hrest
      · split at hrest
        · rename_i hcond
          obtain rfl := Option.some.inj hrest
          exact Bool.and_elim_right hcond
        · cases hrest
    refine moveTarget_moves hk _ h (fun _ => ⟨rfl, rfl⟩) (fun _ => rfl)
      (fun _ _ => hguard) (by decide)
      (fun target => .inl (by decide : RunTargetState.pending ≠ .executing)) ?_
    intro target _ _ _ hp hactive
    rw [of_decide_eq_true hp] at hactive
    exact absurd hactive (by decide)

variable {lease : RunLease}

theorem recordRunTargetLeaseAcquired_moves
    (h : t.recordRunTargetLeaseAcquired r x lease = some t') :
    Moves True (fun _ => False) (fun _ => False) t t' :=
  moveTarget_moves hk _ h (fun _ => ⟨rfl, rfl⟩) (fun _ => rfl)
    (fun target hp => Bool.and_elim_right hp) (by decide)
    (fun target => .inl (by decide : RunTargetState.revalidating ≠ .executing))
    fun target _ _ _ _ _ _ => (by decide : RunTargetState.revalidating ∈ activeTargetStates)

theorem recordRunTargetLeaseReacquired_moves {a : String} {b c : Int}
    (h : t.recordRunTargetLeaseReacquired r x a b c lease = some t') :
    Moves True (fun _ => False) (fun _ => False) t t' := by
  refine moveTarget_moves hk [.preflight, .executing] h (fun _ => ⟨rfl, rfl⟩) (fun _ => rfl) ?_
    (by decide) (fun target => .inr rfl) fun target _ _ _ _ hactive _ => hactive
  intro target hp
  rcases Bool.or_eq_true _ _ ▸ Bool.and_elim_right hp with hpre | hexec
  · exact Bool.and_elim_right hpre
  · obtain ⟨run, hrun, hid, hmem⟩ := runStateIn_iff.mp (Bool.and_elim_right hexec)
    exact runStateIn_iff.mpr ⟨run, hrun, hid, List.mem_cons_of_mem _ hmem⟩

theorem recordRunTargetExecutionStarted_moves
    (h : t.recordRunTargetExecutionStarted r x lease = some t') :
    Moves True (fun _ => False) (fun _ => False) t t' := by
  simp only [recordRunTargetExecutionStarted, bind, Option.bind_eq_some_iff] at h
  obtain ⟨started, hstart, hrun⟩ := h
  obtain ⟨rfl, -⟩ := moveTarget_eq_some hstart
  obtain ⟨rfl, hfound⟩ := moveRun_eq_some hrun
  have hrunning := hk.selected hfound
  refine UpdateFits.moves ⟨fun _ => ⟨rfl, rfl⟩, fun _ => rfl, fun _ => rfl, ?_, ?_, ?_, ?_, ?_⟩
  · intro _ run hrun hid target htarget hr hagrees
    rw [if_pos (hrunning run hrun hid)]
    exact agrees_of_running (.inl rfl)
  · intro run hrun hid _
    have hmem := List.contains_iff_mem.mp (hrunning run hrun hid)
    revert hmem
    generalize run.state = state
    cases state <;> decide
  · intro run hrun hid hcreated
    have hmem := hrunning run hrun hid
    rw [hcreated] at hmem
    exact absurd hmem (by decide)
  · intro run _ _ _ _ heq
    cases heq
  · intro target _ _ _ _ _
    exact (by decide : RunTargetState.executing ∈ activeTargetStates)

/-- The guard of a completion that may leave a sibling unfinished. -/
def LastOrResolved (t : RunTables) (runId : String) (o : TargetOutcome) : Prop :=
  o.outcome.targetState = .recoveryRequired → ∀ target ∈ t.targets, target.runId = runId →
    target.id ≠ o.runTargetId → target.state.isUnfinished = false

variable {o : TargetOutcome}

omit hk in
theorem recordOutcome_cases (h : t.recordOutcome r o = some t') :
    ∃ p f g, t.finishTarget r o.runTargetId p f g = some t' ∧
      (∀ target : RunTargetRow, (f target).id = target.id ∧ (f target).runId = target.runId ∧
        (f target).state = o.outcome.targetState ∧ (f target).columns = target.columns) ∧
      (∀ m run, (g m run).identity = run.identity) ∧
      (∀ (m : RunTables) (run : RunRow), run.state = .executing →
        (∃ target ∈ m.targets, target.runId = run.id ∧ target.state.isUnfinished = true) →
          (g m run).state = .executing ∨ o.outcome.targetState = .recoveryRequired) ∧
      ∀ (m : RunTables) (run : RunRow), run.state = .executing → (g m run).state ≠ .created := by
  have hopen : ∀ (m : RunTables) (run : RunRow),
      (∃ target ∈ m.targets, target.runId = run.id ∧ target.state.isUnfinished = true) →
        m.targetStateIn run.id unfinishedTargetStates = true := by
    rintro m run ⟨target, htarget, hid, hunfinished⟩
    exact targetStateIn_iff.mpr ⟨target, htarget, hid, List.contains_iff_mem.mp hunfinished⟩
  unfold recordOutcome at h
  cases hout : o.outcome with
  | succeeded operations bytes =>
    rw [hout] at h
    refine ⟨_, _, _, h, fun _ => ⟨rfl, rfl, rfl, rfl⟩, fun _ _ => rfl,
      fun m run hrun hsome => .inl ?_, fun m run hrun => ?_⟩
    · simp only [succeededState, hopen m run hsome, if_true, hrun]
    · show m.succeededState run ≠ .created
      unfold succeededState
      repeat' split
      · rw [hrun]
        decide
      all_goals decide
  | succeededWithWarnings operations bytes skipped skippedBytes code =>
    rw [hout] at h
    simp only [recordRunTargetSucceededWithWarnings] at h
    split at h
    · cases h
    · refine ⟨_, _, _, h, fun _ => ⟨rfl, rfl, rfl, rfl⟩, fun _ _ => rfl,
        fun m run hrun hsome => .inl ?_, fun m run hrun => ?_⟩
      · simp only [warnedState, hopen m run hsome, if_true, hrun]
      · show m.warnedState run ≠ .created
        unfold warnedState
        repeat' split
        · rw [hrun]
          decide
        all_goals decide
  | recoveryRequired code =>
    rw [hout] at h
    simp only [recordRunTargetRecoveryRequired] at h
    split at h
    · cases h
    · exact ⟨_, _, _, h, fun _ => ⟨rfl, rfl, rfl, rfl⟩, fun _ _ => rfl, fun _ _ _ _ => .inr rfl,
        fun _ _ _ heq => by cases heq⟩
  | cancelled code =>
    rw [hout] at h
    simp only [recordRunTargetCancelled] at h
    split at h
    · cases h
    · refine ⟨_, _, _, h, fun _ => ⟨rfl, rfl, rfl, rfl⟩, fun _ _ => rfl,
        fun m run hrun hsome => .inl ?_, fun m run hrun => ?_⟩
      · simp only [cancelledState, hopen m run hsome, if_true, hrun]
      · show m.cancelledState run ≠ .created
        unfold cancelledState
        repeat' split
        · rw [hrun]
          decide
        all_goals decide

theorem recordOutcome_moves (h : t.recordOutcome r o = some t') :
    Moves (t.LastOrResolved r o) (fun _ => False)
      (fun target => target.runId = r ∧ target.id = o.runTargetId) t t' := by
  obtain ⟨p, f, g, hfinish, hf, hg, hverdict, hdeparts⟩ := recordOutcome_cases h
  simp only [finishTarget, bind, Option.bind_eq_some_iff] at hfinish
  obtain ⟨moved, hmove, hclose⟩ := hfinish
  obtain ⟨hmoved, -⟩ := moveTarget_eq_some hmove
  obtain ⟨rfl, hfound⟩ := moveRun_eq_some hclose
  subst hmoved
  have hexecuting : ∀ run ∈ t.runs, run.id = r → run.state = .executing := fun run hrun hid => by
    simpa using hk.selected hfound run hrun hid
  refine UpdateFits.moves ⟨fun target => ⟨(hf target).1, (hf target).2.1⟩, fun target =>
    (hf target).2.2.2,
    hg _, ?_, ?_, ?_, ?_, ?_⟩
  · intro hguard run hrun hid target htarget hr hagrees
    rw [if_pos (by simp [hexecuting run hrun hid])]
    split
    · rw [(hf target).2.2.1]
      exact agrees_of_finished (Outcome.finished _)
    · rename_i hunselected
      by_cases hfinished : target.state.isUnfinished = false
      · exact agrees_of_finished hfinished
      · -- an unfinished sibling keeps the run executing
        have hunfinished : target.state.isUnfinished = true := by simpa using hfinished
        have hkept : target ∈ (t.updateTargets r (fun y => y.id = o.runTargetId &&
            (y.state = .executing && p y && t.runStateIn r [.executing])) f).targets :=
          mem_updateTargets_of_not htarget fun hsel => hunselected hsel.2
        rcases hverdict _ run (hexecuting run hrun hid)
          ⟨target, hkept, hr.trans hid.symm, hunfinished⟩ with hstill | hdecision
        · exact agrees_of_running (.inl hstill)
        · have hid' : target.id ≠ o.runTargetId := fun heq => hunselected (by
            obtain ⟨-, found, hfound', hfr, hfx, hfp⟩ := moveTarget_eq_some hmove
            rw [Table.key_injOn hk.targets htarget hfound' (heq.trans hfx.symm)]
            simp only [hfx, hfp, decide_true, Bool.and_self])
          exact absurd hunfinished (by simp [hguard hdecision target htarget hr hid'])
  · intro run hrun hid _
    rw [hexecuting run hrun hid]
    rfl
  · intro run hrun hid hcreated
    rw [hexecuting run hrun hid] at hcreated
    cases hcreated
  · intro run hrun hid _ _
    exact hdeparts _ run (hexecuting run hrun hid)
  · intro target _ hr hsel _ hparked
    exact absurd ⟨hr, of_decide_eq_true (Bool.and_elim_left hsel)⟩ hparked

end

end RunTables

end MediaSync.Runs
