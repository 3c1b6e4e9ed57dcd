import MediaSync.Runs.Executor

/-! A paused run holds only targets that are pending, paused or finished, and at least one that is
not finished, so that resuming it always queues it again. -/
namespace MediaSync.Runs
open Text Transition

/-- What `RunControlOutcome` tells the caller of a control command. -/
structure RunControlOutcome where
  applied : Bool
  validationCodes : List String
  deriving DecidableEq

def resumePausedRun (runId : String) (t : RunTables) : RunControlOutcome × RunTables :=
  match t.loadStartedRun runId with
  | none => (⟨false, ["RUN_NOT_FOUND"]⟩, t)
  | some run =>
    if run.state = .pausing then (⟨false, ["RUN_PAUSE_BOUNDARY_PENDING"]⟩, t)
    else if run.state ≠ .paused then (⟨false, ["RUN_NOT_RESUMABLE"]⟩, t)
    else
      match t.resumePausedRun runId with
      | none => (⟨false, ["RUN_RESUME_STATE_CONFLICT"]⟩, t)
      | some t' => (⟨true, []⟩, t')

namespace RunTables

/-- An open run has an unfinished target, those of a paused run are pending or paused, none waits
for a review, and every target has a lease resource. -/
structure Parks (t : RunTables) : Prop where
  unfinished : ∀ run ∈ t.runs, run.state.isTerminal = false →
    ∃ target ∈ t.targets, target.runId = run.id ∧ target.state.isUnfinished = true
  parked : ∀ run ∈ t.runs, run.state = .paused → ∀ target ∈ t.targets, target.runId = run.id →
    target.state.isUnfinished = true → target.state = .pending ∨ target.state = .paused
  reviewed : ∀ target ∈ t.targets, target.state ≠ .needsReview
  leasable : ∀ target ∈ t.targets, target.hasLeaseResourceKey = true

variable {t t' : RunTables} {r x : String} {p : RunTargetRow → Bool}
  {f : RunTargetRow → RunTargetRow} {q : RunRow → Bool} {g : RunRow → RunRow}

theorem leasable_of_columns {a b : RunTargetRow} (h : a.columns = b.columns) :
    a.hasLeaseResourceKey = b.hasLeaseResourceKey := by
  have hkey : a.leaseResourceKey = b.leaseResourceKey := by
    simp only [RunTargetRow.columns, Prod.mk.injEq] at h
    exact h.2.2.2.2.1
  rw [RunTargetRow.hasLeaseResourceKey, hkey, RunTargetRow.hasLeaseResourceKey]

theorem Parks.update (h : t.Parks)
    (hkey : ∀ target, (f target).runId = target.runId) (hid : ∀ run, (g run).id = run.id)
    (hcolumns : ∀ target, (f target).columns = target.columns)
    (hunfinished : ∀ run ∈ t.runs, run.id = r →
      (if q run then (g run).state else run.state).isTerminal = false →
      ∃ target ∈ t.targets, target.runId = r ∧
        (if p target then (f target).state else target.state).isUnfinished = true)
    (hparked : ∀ run ∈ t.runs, run.id = r →
      (if q run then (g run).state else run.state) = .paused →
      ∀ target ∈ t.targets, target.runId = r →
        (if p target then (f target).state else target.state).isUnfinished = true →
        (if p target then (f target).state else target.state) = .pending ∨
          (if p target then (f target).state else target.state) = .paused)
    (hreviewed : ∀ target, target.state ≠ .needsReview → (f target).state ≠ .needsReview) :
    ((t.updateTargets r p f).updateRuns r q g).Parks := by
  have htargets : ∀ target ∈ t.targets, ∃ target' ∈ (t.updateTargets r p f).targets,
      target'.runId = target.runId ∧ target'.state =
        if target.runId = r ∧ p target = true then (f target).state else target.state := by
    intro target htarget
    by_cases hsel : target.runId = r ∧ p target = true
    · exact ⟨_, mem_updateTargets_of_mem htarget hsel.1 hsel.2, hkey target, by rw [if_pos hsel]⟩
    · exact ⟨target, mem_updateTargets_of_not htarget hsel, rfl, by rw [if_neg hsel]⟩
  -- each new row with the state it has by the update
  have hrows : ∀ target' ∈ (t.updateTargets r p f).targets, ∃ target ∈ t.targets,
      target'.runId = target.runId ∧ target'.columns = target.columns ∧ target'.state =
        if target.runId = r ∧ p target = true then (f target).state else target.state := by
    intro target' htarget'
    obtain ⟨target, htarget, ⟨hr, hp, rfl⟩ | ⟨hnot, rfl⟩⟩ := mem_updateTargets htarget'
    · exact ⟨target, htarget, hkey target, hcolumns target, by rw [if_pos ⟨hr, hp⟩]⟩
    · exact ⟨target', htarget, rfl, rfl, by rw [if_neg hnot]⟩
  have hruns : ∀ run' ∈ ((t.updateTargets r p f).updateRuns r q g).runs, ∃ run ∈ t.runs,
      run'.id = run.id ∧ run'.state =
        if run.id = r ∧ q run = true then (g run).state else run.state := by
    intro run' hrun'
    obtain ⟨run, hrun, ⟨hr, hq, rfl⟩ | ⟨hnot, rfl⟩⟩ := mem_updateRuns hrun'
    · exact ⟨run, hrun, hid run, by rw [if_pos ⟨hr, hq⟩]⟩
    · exact ⟨run', hrun, rfl, by rw [if_neg hnot]⟩
  refine ⟨?_, ?_, ?_, ?_⟩
  · intro run' hrun' hopen
    obtain ⟨run, hrun, hrunId, hstate⟩ := hruns run' hrun'
    by_cases hr : run.id = r
    · obtain ⟨target, htarget, htr, hunf⟩ := hunfinished run hrun hr
        (by simpa [hstate, hr] using hopen)
      obtain ⟨target', htarget', hkey', hstate'⟩ := htargets target htarget
      exact ⟨target', htarget', by rw [hkey', htr, hrunId, hr],
        by simpa [hstate', htr] using hunf⟩
    · obtain ⟨target, htarget, htr, hunf⟩ := h.unfinished run hrun
        (by simpa [hstate, hr] using hopen)
      obtain ⟨target', htarget', hkey', hstate'⟩ := htargets target htarget
      have hne : target.runId ≠ r := htr ▸ hr
      exact ⟨target', htarget', by rw [hkey', htr, hrunId], by simpa [hstate', hne] using hunf⟩
  · intro run' hrun' hpaused target' htarget' hbelongs
    obtain ⟨run, hrun, hrunId, hstate⟩ := hruns run' hrun'
    obtain ⟨target, htarget, hkey', -, hstate'⟩ := hrows target' htarget'
    have hsame : target.runId = run.id := by rw [← hkey', hbelongs, hrunId]
    by_cases hr : run.id = r
    · have htr : target.runId = r := hsame.trans hr
      simpa [hstate', htr] using
        hparked run hrun hr (by simpa [hstate, hr] using hpaused) target htarget htr
    · have hne : target.runId ≠ r := hsame ▸ hr
      simpa [hstate', hne] using
        h.parked run hrun (by simpa [hstate, hr] using hpaused) target htarget hsame
  · intro target' htarget'
    obtain ⟨target, htarget, -, -, hstate'⟩ := hrows target' htarget'
    rw [hstate']
    split
    · exact hreviewed target (h.reviewed target htarget)
    · exact h.reviewed target htarget
  · intro target' htarget'
    obtain ⟨target, htarget, -, hcolumns', -⟩ := hrows target' htarget'
    rw [leasable_of_columns hcolumns']
    exact h.leasable target htarget

theorem Parks.updateRuns (h : t.Parks) (hid : ∀ run, (g run).id = run.id)
    (hopen : ∀ run ∈ t.runs, run.id = r → q run = true → run.state.isTerminal = false)
    (hpaused : ∀ run, q run = true → (g run).state ≠ .paused) : (t.updateRuns r q g).Parks := by
  rw [← updateTargets_none (t := t) (r := r)]
  refine h.update (fun _ => rfl) hid (fun _ => rfl) ?_ ?_ fun _ hstate => hstate
  · intro run hrun hr hstate
    have hrunOpen : run.state.isTerminal = false := by
      by_cases hq : q run = true
      · exact hopen run hrun hr hq
      · simpa [hq] using hstate
    obtain ⟨target, htarget, htr, hunf⟩ := h.unfinished run hrun hrunOpen
    exact ⟨target, htarget, htr.trans hr, by simpa using hunf⟩
  · intro run hrun hr hstate target htarget htr
    by_cases hq : q run = true
    · exact absurd (by simpa [hq] using hstate) (hpaused run hq)
    · simpa using h.parked run hrun (by simpa [hq] using hstate) target htarget (htr.trans hr.symm)

theorem Parks.running (h : t.Parks) (hk : t.Keyed)
    (hkey : ∀ target, (f target).runId = target.runId) (hid : ∀ run, (g run).id = run.id)
    (hcolumns : ∀ target, (f target).columns = target.columns)
    (hrunning : t.runStateIn r [.queued, .preflight, .executing] = true)
    (hstate : ∀ target, (f target).state.isUnfinished = true ∧ (f target).state ≠ .needsReview ∨
      (f target).state = target.state)
    (hkept : ∀ run, q run = true → (g run).state ≠ .paused) :
    ((t.updateTargets r p f).updateRuns r q g).Parks := by
  have hopen : ∀ run ∈ t.runs, run.id = r →
      run.state ∈ [RunState.queued, .preflight, .executing] := fun run hrun hr =>
    hk.state_mem hrun (hr ▸ hrunning)
  have hcases : ∀ state ∈ [RunState.queued, .preflight, .executing],
      state.isTerminal = false ∧ state ≠ .paused := by decide
  refine h.update hkey hid hcolumns ?_ ?_ ?_
  · intro run hrun hr _
    obtain ⟨target, htarget, htr, hunf⟩ := h.unfinished run hrun (hcases _ (hopen run hrun hr)).1
    refine ⟨target, htarget, htr.trans hr, ?_⟩
    split
    · rcases hstate target with hnew | hsame
      · exact hnew.1
      · exact hsame ▸ hunf
    · exact hunf
  · intro run hrun hr hpaused
    refine absurd hpaused ?_
    split
    · rename_i hq
      exact hkept run hq
    · exact (hcases _ (hopen run hrun hr)).2
  · intro target hreviewed
    rcases hstate target with hnew | hsame
    · exact hnew.2
    · exact hsame ▸ hreviewed

theorem Parks.running_target (h : t.Parks) (hk : t.Keyed)
    (hkey : ∀ target, (f target).runId = target.runId)
    (hcolumns : ∀ target, (f target).columns = target.columns)
    (hrunning : t.runStateIn r [.queued, .preflight, .executing] = true)
    (hstate : ∀ target, (f target).state.isUnfinished = true ∧ (f target).state ≠ .needsReview ∨
      (f target).state = target.state) :
    (t.updateTargets r p f).Parks := by
  have hboth := h.running (p := p) (f := f) (q := fun _ => false) (g := id) hk hkey (fun _ => rfl)
    hcolumns hrunning hstate (fun _ hq => by cases hq)
  rwa [updateRuns_none] at hboth

theorem Parks.congr (h : t.Parks) (hruns : t'.runs = t.runs) (htargets : t'.targets = t.targets) :
    t'.Parks :=
  ⟨by rw [hruns, htargets]; exact h.unfinished, by rw [hruns, htargets]; exact h.parked,
    by rw [htargets]; exact h.reviewed, by rw [htargets]; exact h.leasable⟩

theorem Parks.save (h : t.Parks) {start : RunStart} (hsave : SavedRows start t t')
    (hstarts : start.targets ≠ []) : t'.Parks := by
  have hnew : (startedRunFromPlan start).state ≠ .paused := by
    unfold startedRunFromPlan
    dsimp only
    split <;> decide
  refine ⟨?_, ?_, ?_, ?_⟩
  · intro run hrun hopen
    rcases List.mem_append.mp (hsave.runs ▸ hrun) with hold | hadded
    · obtain ⟨target, htarget, hrest⟩ := h.unfinished run hold hopen
      exact ⟨target, hsave.targets ▸ List.mem_append_left _ htarget, hrest⟩
    · obtain rfl := List.mem_singleton.mp hadded
      obtain ⟨target, htarget⟩ := List.exists_mem_of_ne_nil _ hstarts
      exact ⟨startedRunTarget start.runId target,
        hsave.targets ▸ List.mem_append_right _ (List.mem_map_of_mem htarget), rfl, rfl⟩
  · intro run hrun hpaused target htarget hbelongs
    rcases List.mem_append.mp (hsave.runs ▸ hrun) with hold | hadded
    · rcases List.mem_append.mp (hsave.targets ▸ htarget) with htold | htadded
      · exact h.parked run hold hpaused target htold hbelongs
      · have hid := (SavedRows.new_target htadded).1
        exact absurd (hbelongs.symm.trans hid) (hsave.freshRun run hold)
    · rw [List.mem_singleton.mp hadded] at hpaused
      exact absurd hpaused hnew
  · intro target htarget
    rcases List.mem_append.mp (hsave.targets ▸ htarget) with hold | hadded
    · exact h.reviewed target hold
    · rw [(SavedRows.new_target hadded).2]
      decide
  · intro target htarget
    rcases List.mem_append.mp (hsave.targets ▸ htarget) with hold | hadded
    · exact h.leasable target hold
    · obtain ⟨start', -, rfl⟩ := List.mem_map.mp hadded
      simp only [RunTargetRow.hasLeaseResourceKey, startedRunTarget, Option.any_some,
        String.toList_append, List.any_append, Bool.or_eq_true]
      exact .inl (by decide)

theorem Parks.releaseCreatedRun (h : t.Parks) (hcall : t.releaseCreatedRun r = some t') :
    t'.Parks := by
  have hrows : t' = t.updateRuns r (·.state = .created) ({ · with state := .queued }) := by
    unfold RunTables.releaseCreatedRun at hcall
    dsimp only at hcall
    split at hcall
    · cases hcall
    · split at hcall
      · cases hcall
      · exact (Option.some.inj hcall).symm
  rw [hrows]
  refine h.updateRuns (fun _ => rfl) ?_ fun _ _ => (by decide : RunState.queued ≠ .paused)
  intro run _ _ hq
  rw [of_decide_eq_true hq]
  rfl

theorem Parks.requestRunPause (h : t.Parks) (hcall : t.requestRunPause r = some t') :
    t'.Parks := by
  obtain ⟨rfl, -⟩ := moveRun_eq_some hcall
  refine h.updateRuns (fun _ => rfl) ?_ fun _ _ => (by decide : RunState.pausing ≠ .paused)
  intro run _ _ hq
  have hstate := List.contains_iff_mem.mp (Bool.and_elim_left hq)
  revert hstate
  generalize run.state = state
  cases state <;> decide

theorem Parks.finalizeRequestedRunPause (h : t.Parks) (hk : t.Keyed)
    (hcall : t.finalizeRequestedRunPause r = some t') : t'.Parks := by
  obtain ⟨rfl, hfound⟩ := moveRun_eq_some hcall
  have hpausing : ∀ run ∈ t.runs, run.id = r → run.state = .pausing := fun run hrun hid => by
    simpa using hk.selected hfound run hrun hid
  refine h.update (fun _ => rfl) (fun _ => rfl) (fun _ => rfl) ?_ ?_
    fun _ _ => (by decide : RunTargetState.paused ≠ .needsReview)
  · intro run hrun hr _
    obtain ⟨target, htarget, htr, hunf⟩ := h.unfinished run hrun
      (by rw [hpausing run hrun hr]; rfl)
    refine ⟨target, htarget, htr.trans hr, ?_⟩
    split
    · rfl
    · exact hunf
  · intro run hrun hr _ target htarget htr hunf
    have hin : t.runStateIn r [.pausing] = true :=
      runStateIn_iff.mpr ⟨run, hrun, hr, by simp [hpausing run hrun hr]⟩
    have hreviewed := h.reviewed target htarget
    -- a target the update does not park is pending or paused already, or finished
    split
    · exact .inr rfl
    · rename_i hnot
      rw [if_neg hnot] at hunf
      rw [hin, Bool.and_true] at hnot
      revert hunf hnot hreviewed
      cases target.state <;> decide

theorem Parks.resumePausedRun (h : t.Parks) (hk : t.Keyed)
    (hcall : t.resumePausedRun r = some t') : t'.Parks := by
  obtain ⟨rfl, hfound⟩ := moveRun_eq_some hcall
  have hselected := hk.selected hfound
  refine h.update (fun _ => rfl) (fun _ => rfl) (fun _ => rfl) ?_ ?_
    fun _ _ => (by decide : RunTargetState.pending ≠ .needsReview)
  · intro run hrun hr _
    have hq := hselected run hrun hr
    simp only [Bool.and_eq_true, decide_eq_true_eq] at hq
    obtain ⟨target, htarget, htr, hunf⟩ := h.unfinished run hrun (by rw [hq.1.1]; rfl)
    refine ⟨target, htarget, htr.trans hr, ?_⟩
    split
    · rfl
    · exact hunf
  · intro run hrun hr hstate
    rw [if_pos (hselected run hrun hr)] at hstate
    cases hstate

theorem Parks.requestRunStop {utc : String} (h : t.Parks)
    (hcall : t.requestRunStopAfterActiveFile r utc = some t') : t'.Parks := by
  unfold requestRunStopAfterActiveFile at hcall
  split at hcall
  · obtain rfl := Option.some.inj hcall
    have hstops : ({ t with stops := Table.insert t.stops (requestedStop r utc) } :
        RunTables).Parks := h.congr rfl rfl
    rw [← updateTargets_none (t := { t with stops := Table.insert t.stops (requestedStop r utc) })
      (r := r)]
    refine hstops.update (fun _ => rfl) (fun _ => rfl) (fun _ => rfl) ?_ ?_ fun _ hstate => hstate
    · intro run hrun hr hopen
      obtain ⟨target, htarget, htr, hunf⟩ := h.unfinished run hrun (by simpa using hopen)
      exact ⟨target, htarget, htr.trans hr, by simpa using hunf⟩
    · intro run hrun hr hpaused target htarget htr hunf
      simpa using h.parked run hrun (by simpa using hpaused) target htarget (htr.trans hr.symm)
        (by simpa using hunf)
  · split at hcall
    · cases hcall
    · split at hcall
      · exact Option.some.inj hcall ▸ h
      · cases hcall

theorem Parks.activateRequestedRunStop (h : t.Parks)
    (hcall : t.activateRequestedRunStop r = some t') : t'.Parks := by
  unfold RunTables.activateRequestedRunStop at hcall
  split at hcall
  · rename_i run stop hload _
    split at hcall
    · rename_i hpaused
      split at hcall
      · cases hcall
      · obtain ⟨woken, hwoken, rfl⟩ := Option.map_eq_some_iff.mp hcall
        obtain ⟨rfl, -⟩ := moveTarget_eq_some hwoken
        refine h.update (fun _ => rfl) (fun _ => rfl) (fun _ => rfl) ?_ ?_
          fun _ _ => (by decide : RunTargetState.pending ≠ .needsReview)
        · intro other hother hr hopen
          have hother : other.state.isTerminal = false := by
            by_cases hq : other.state = .paused
            · rw [hq]
              rfl
            · simpa [hq] using hopen
          obtain ⟨target, htarget, htr, hunf⟩ := h.unfinished other ‹_› hother
          refine ⟨target, htarget, htr.trans hr, ?_⟩
          split
          · rfl
          · exact hunf
        · intro other _ _ hstate
          split at hstate
          · cases hstate
          · rename_i hq
            exact absurd hstate (by simpa using hq)
    · split at hcall
      · obtain rfl := Option.some.inj hcall
        refine h.updateRuns (fun _ => rfl) ?_ ?_
        · intro other _ _ hq
          rw [of_decide_eq_true hq]
          rfl
        · intro other _
          change t.activatedState r ≠ .paused
          unfold activatedState
          split
          · decide
          · split <;> decide
      · exact Option.some.inj hcall ▸ h
  · cases hcall

theorem running_of_subset {states : List RunState}
    (hsub : ∀ state ∈ states, state ∈ [RunState.queued, .preflight, .executing])
    (h : t.runStateIn r states = true) :
    t.runStateIn r [.queued, .preflight, .executing] = true := by
  obtain ⟨run, hrun, hr, hstate⟩ := runStateIn_iff.mp h
  exact runStateIn_iff.mpr ⟨run, hrun, hr, hsub _ hstate⟩

theorem Parks.beginRunTargetPreflight (h : t.Parks) (hk : t.Keyed)
    (hcall : t.beginRunTargetPreflight r x = some t') : t'.Parks := by
  simp only [RunTables.beginRunTargetPreflight, bind, Option.bind_eq_some_iff] at hcall
  obtain ⟨claimed, hclaim, hrun⟩ := hcall
  obtain ⟨rfl, found, -, -, -, hp⟩ := moveTarget_eq_some hclaim
  obtain ⟨rfl, -⟩ := moveRun_eq_some hrun
  refine h.running hk (fun _ => rfl) (fun _ => rfl) (fun _ => rfl) (Bool.and_elim_right hp)
    (fun _ => .inl ⟨rfl, (by decide : RunTargetState.acquiringLease ≠ .needsReview)⟩) ?_
  intro run _
  dsimp only
  split <;> decide

theorem Parks.requeue {due : WaitEvent → Bool} (h : t.Parks) (hk : t.Keyed)
    (hcall : t.requeueNextDueWaitingRunTarget due = some t') : t'.Parks := by
  unfold requeueNextDueWaitingRunTarget at hcall
  split at hcall
  · cases hcall
  · rename_i event hfind
    obtain ⟨rfl, -⟩ := moveTarget_eq_some hcall
    have hcandidate := List.mem_of_mem_take (List.mem_of_find?_eq_some hfind)
    obtain ⟨rest, -, hrest⟩ := List.mem_filterMap.mp hcandidate
    have hguard : t.runStateIn event.runId [.queued, .preflight, .executing] = true := by
      split at hrest
      · cases hrest
      · split at hrest
        · rename_i hcond
          obtain rfl := Option.some.inj hrest
          exact Bool.and_elim_right hcond
        · cases hrest
    exact h.running_target hk (fun _ => rfl) (fun _ => rfl) hguard
      fun _ => .inl ⟨rfl, (by decide : RunTargetState.pending ≠ .needsReview)⟩

theorem Parks.waitForEndpoint {a : RunTargetState} {c : String} {d : EndpointRetryTiming}
    (h : t.Parks) (hk : t.Keyed)
    (hcall : t.recordRunTargetWaitingForEndpoint r x a c d = some t') : t'.Parks := by
  unfold recordRunTargetWaitingForEndpoint at hcall
  dsimp only at hcall
  split at hcall
  · cases hcall
  · simp only [bind, Option.bind_eq_some_iff] at hcall
    obtain ⟨waiting, hmove, hevent⟩ := hcall
    obtain rfl := Option.some.inj hevent
    obtain ⟨rfl, found, -, -, -, hp⟩ := moveTarget_eq_some hmove
    refine (h.running_target hk (p := _) (f := _) ?_ ?_
      (running_of_subset (by decide) (Bool.and_elim_right hp)) ?_).congr rfl rfl
    · exact fun _ => rfl
    · exact fun _ => rfl
    · exact fun _ => .inl ⟨rfl, (by decide : RunTargetState.waitingForEndpoint ≠ .needsReview)⟩

variable {lease : RunLease}

theorem Parks.leaseAcquired (h : t.Parks) (hk : t.Keyed)
    (hcall : t.recordRunTargetLeaseAcquired r x lease = some t') : t'.Parks := by
  obtain ⟨rfl, found, -, -, -, hp⟩ := moveTarget_eq_some hcall
  exact h.running_target hk (fun _ => rfl) (fun _ => rfl)
    (running_of_subset (by decide) (Bool.and_elim_right hp))
    fun _ => .inl ⟨rfl, (by decide : RunTargetState.revalidating ≠ .needsReview)⟩

theorem Parks.leaseReacquired {a : String} {b c : Int} (h : t.Parks) (hk : t.Keyed)
    (hcall : t.recordRunTargetLeaseReacquired r x a b c lease = some t') : t'.Parks := by
  obtain ⟨rfl, found, -, -, -, hp⟩ := moveTarget_eq_some hcall
  refine h.running_target hk (fun _ => rfl) (fun _ => rfl) ?_ fun _ => .inr rfl
  rcases Bool.or_eq_true _ _ ▸ Bool.and_elim_right hp with hpre | hexec
  · exact running_of_subset (by decide) (Bool.and_elim_right hpre)
  · exact running_of_subset (by decide) (Bool.and_elim_right hexec)

theorem Parks.executionStarted (h : t.Parks) (hk : t.Keyed)
    (hcall : t.recordRunTargetExecutionStarted r x lease = some t') : t'.Parks := by
  simp only [recordRunTargetExecutionStarted, bind, Option.bind_eq_some_iff] at hcall
  obtain ⟨started, hstart, hrun⟩ := hcall
  obtain ⟨rfl, found, -, -, -, hp⟩ := moveTarget_eq_some hstart
  obtain ⟨rfl, -⟩ := moveRun_eq_some hrun
  exact h.running hk (fun _ => rfl) (fun _ => rfl) (fun _ => rfl)
    (running_of_subset (by decide) (Bool.and_elim_right hp))
    (fun _ => .inl ⟨rfl, (by decide : RunTargetState.executing ≠ .needsReview)⟩)
    fun _ _ => (by decide : RunState.executing ≠ .paused)

theorem Parks.finalizeRequestedRunStop {progress : List RunTargetStopProgress} (h : t.Parks)
    (hk : t.Keyed) (hcall : t.finalizeRequestedRunStop r progress = some t') : t'.Parks := by
  unfold RunTables.finalizeRequestedRunStop at hcall
  split at hcall
  · simp only [bind, Option.bind_eq_some_iff] at hcall
    obtain ⟨closed, hclose, hstops⟩ := hcall
    obtain rfl := Option.some.inj hstops
    obtain ⟨rfl, hfound⟩ := moveRun_eq_some hclose
    have hselected := hk.selected hfound
    refine Parks.congr (h.update (p := (·.state.isUnfinished)) (f := stoppedTarget progress)
      (q := fun run => stoppableRunStates.contains run.state) (g := stoppedRun) (r := r)
      (fun _ => rfl) (fun _ => rfl) (fun _ => rfl) ?_ ?_ ?_) rfl rfl
    · intro run hrun hr hopen
      rw [if_pos (hselected run hrun hr)] at hopen
      cases hopen
    · intro run hrun hr hpaused
      rw [if_pos (hselected run hrun hr)] at hpaused
      cases hpaused
    · exact fun _ _ => (by decide : RunTargetState.cancelled ≠ .needsReview)
  · cases hcall

variable {o : TargetOutcome}

theorem recordOutcome_open (h : t.recordOutcome r o = some t') :
    ∃ p f g, t.finishTarget r o.runTargetId p f g = some t' ∧
      (∀ target : RunTargetRow, (f target).runId = target.runId ∧
        (f target).columns = target.columns ∧ (f target).state = o.outcome.targetState) ∧
      (∀ m run, (g m run).id = run.id) ∧
      ∀ (m : RunTables) (run : RunRow), (g m run).state.isTerminal = false →
        m.targetStateIn run.id unfinishedTargetStates = true ∧ (g m run).state = run.state := by
  unfold recordOutcome at h
  cases hout : o.outcome with
  | succeeded operations bytes =>
    rw [hout] at h
    refine ⟨_, _, _, h, fun _ => ⟨rfl, rfl, rfl⟩, fun _ _ => rfl, fun m run hopen => ?_⟩
    simp only [succeededState] at hopen ⊢
    repeat' split at hopen
    all_goals first | exact absurd hopen (by decide) | simp_all
  | succeededWithWarnings operations bytes skipped skippedBytes code =>
    rw [hout] at h
    simp only [recordRunTargetSucceededWithWarnings] at h
    split at h
    · cases h
    · refine ⟨_, _, _, h, fun _ => ⟨rfl, rfl, rfl⟩, fun _ _ => rfl, fun m run hopen => ?_⟩
      simp only [warnedState] at hopen ⊢
      repeat' split at hopen
      all_goals first | exact absurd hopen (by decide) | simp_all
  | recoveryRequired code =>
    rw [hout] at h
    simp only [recordRunTargetRecoveryRequired] at h
    split at h
    · cases h
    · exact ⟨_, _, _, h, fun _ => ⟨rfl, rfl, rfl⟩, fun _ _ => rfl,
        fun _ _ hopen => by simp [RunState.isTerminal, terminalRunStates] at hopen⟩
  | cancelled code =>
    rw [hout] at h
    simp only [recordRunTargetCancelled] at h
    split at h
    · cases h
    · refine ⟨_, _, _, h, fun _ => ⟨rfl, rfl, rfl⟩, fun _ _ => rfl, fun m run hopen => ?_⟩
      simp only [cancelledState] at hopen ⊢
      repeat' split at hopen
      all_goals first | exact absurd hopen (by decide) | simp_all

theorem Parks.recordOutcome (h : t.Parks) (hk : t.Keyed) (hcall : t.recordOutcome r o = some t') :
    t'.Parks := by
  obtain ⟨p, f, g, hfinish, hf, hg, hverdict⟩ := recordOutcome_open hcall
  simp only [finishTarget, bind, Option.bind_eq_some_iff] at hfinish
  obtain ⟨moved, hmove, hclose⟩ := hfinish
  obtain ⟨hmoved, -⟩ := moveTarget_eq_some hmove
  obtain ⟨rfl, hfound⟩ := moveRun_eq_some hclose
  have hexecuting : ∀ run ∈ t.runs, run.id = r → run.state = .executing := fun run hrun hid => by
    subst hmoved
    simpa using hk.selected hfound run hrun hid
  subst hmoved
  refine h.update (fun target => (hf target).1) (hg _) (fun target => (hf target).2.1) ?_ ?_ ?_
  · intro run hrun hr hopen
    rw [if_pos (by simp [hexecuting run hrun hr])] at hopen
    obtain ⟨target', htarget', htr', hstate'⟩ := targetStateIn_iff.mp (hverdict _ run hopen).1
    obtain ⟨target, htarget, ⟨htr, hp, rfl⟩ | ⟨hnot, rfl⟩⟩ := mem_updateTargets htarget'
    · have hfinished : (f target).state.isUnfinished = false := by
        rw [(hf target).2.2]
        exact Outcome.finished _
      have hunfinished : (f target).state.isUnfinished = true := List.contains_iff_mem.mpr hstate'
      rw [hfinished] at hunfinished
      cases hunfinished
    · refine ⟨target', htarget, htr'.trans hr, ?_⟩
      rw [if_neg fun hp => hnot ⟨htr'.trans hr, hp⟩]
      exact List.contains_iff_mem.mpr hstate'
  · intro run hrun hr hpaused
    rw [if_pos (by simp [hexecuting run hrun hr])] at hpaused
    have hsame := (hverdict _ run (by rw [hpaused]; rfl)).2
    rw [hexecuting run hrun hr, hpaused] at hsame
    cases hsame
  · intro target _ hreview
    have hfinished := Outcome.finished o.outcome
    rw [← (hf target).2.2, hreview] at hfinished
    cases hfinished

end RunTables

open RunTables

/-- Runs are started with a target: `PLAN_REQUIRES_TARGET_ENDPOINT`. -/
def StartsTargets (_ : ExecutorState) (label : ExecutorLabel) : Prop :=
  ∀ start, label = .command (.saveStartedRun start) → start.targets ≠ []

theorem StoreCall.parks {t t' : RunTables} {call : StoreCall} (h : t.Parks) (hk : t.Keyed)
    (hstarts : ∀ start, call = .saveStartedRun start → start.targets ≠ [])
    (hcall : call.perform t = some t') : t'.Parks := by
  cases call with
  | saveStartedRun start => exact h.save (saveStartedRun_rows hcall) (hstarts start rfl)
  | releaseCreatedRun runId => exact h.releaseCreatedRun hcall
  | requestRunPause runId => exact h.requestRunPause hcall
  | resumePausedRun runId => exact h.resumePausedRun hk hcall
  | requestRunStopAfterActiveFile runId utc => exact h.requestRunStop hcall
  | bindRequestedRunStopBoundary runId runTargetId operationId =>
    simp only [StoreCall.perform, RunTables.bindRequestedRunStopBoundary] at hcall
    split at hcall
    · cases hcall
    · exact Option.some.inj hcall ▸ h.congr rfl rfl
  | activateRequestedRunStop runId => exact h.activateRequestedRunStop hcall
  | beginRunTargetPreflight runId runTargetId => exact h.beginRunTargetPreflight hk hcall
  | requeueNextDueWaitingRunTarget due => exact h.requeue hk hcall

theorem parks_step {s s' : ExecutorState} {label : ExecutorLabel} (h : s.tables.Parks)
    (hk : s.tables.Keyed) (hstarts : StartsTargets s label)
    (hstep : executor.step s label = some s') : s'.tables.Parks := by
  cases label with
  -- a call of the store parks what it leaves; the steps of the executor are such calls
  | command call =>
    obtain ⟨tables, hcall, rfl⟩ := Option.map_eq_some_iff.mp hstep
    exact call.parks h hk (fun start hstart => hstarts start (hstart ▸ rfl)) hcall
  | acquireLease runId runTargetId lease =>
    obtain rfl := Option.some.inj hstep
    unfold ExecutorState.acquireRunTargetLease
    split
    · exact h.leaseAcquired hk ‹_›
    · exact h
  | reacquireLease runId runTargetId lease =>
    simp only [executor, ExecutorState.reacquireRunTargetLease] at hstep
    split at hstep
    · split at hstep
      · split at hstep
        · obtain rfl := Option.some.inj hstep
          exact h.leaseReacquired hk ‹_›
        · exact Option.some.inj hstep ▸ h
      · cases hstep
    · cases hstep
  | waitForEndpoint runId runTargetId expectedState reasonCode timing =>
    simp only [executor, ExecutorState.waitForEndpoint] at hstep
    split at hstep
    · cases hstep
    · obtain ⟨tables, hwait, rfl⟩ := Option.map_eq_some_iff.mp hstep
      exact h.waitForEndpoint hk hwait
  | interruptStaging runId runTargetId reasonCode timing =>
    obtain rfl := Option.some.inj hstep
    unfold ExecutorState.interruptStaging
    split
    · exact h.waitForEndpoint hk ‹_›
    · exact h
  | startExecution runId runTargetId =>
    simp only [executor, ExecutorState.startRunTargetExecution] at hstep
    split at hstep
    · cases hstep
    · split at hstep
      · obtain rfl := Option.some.inj hstep
        exact h.executionStarted hk ‹_›
      · exact Option.some.inj hstep ▸ h
  | finishTarget runId o =>
    obtain rfl := Option.some.inj hstep
    unfold ExecutorState.finishRunTarget
    split
    · exact h.recordOutcome hk ‹_›
    · exact h
  | finalizePause runId =>
    simp only [executor, ExecutorState.finalizePause] at hstep
    split at hstep
    · split at hstep
      · obtain rfl := Option.some.inj hstep
        exact h.finalizeRequestedRunPause hk ‹_›
      · exact Option.some.inj hstep ▸ h
    · cases hstep
  | finalizeStop runId progress =>
    simp only [executor, ExecutorState.finalizeStop] at hstep
    split at hstep
    · cases hstep
    · split at hstep
      · obtain rfl := Option.some.inj hstep
        exact h.finalizeRequestedRunStop hk ‹_›
      · exact Option.some.inj hstep ▸ h
  | sweepLeases => exact Option.some.inj hstep ▸ h
  | releaseAll => exact Option.some.inj hstep ▸ h

theorem parks_reachable {s : ExecutorState} (h : executor.ReachableWhen StartsTargets s) :
    s.tables.Parks := by
  refine System.ReachableWhen.invariant (P := fun s : ExecutorState => s.tables.Parks)
    (fun s hs => ?_) (fun s label s' hr hparks hstarts hstep => ?_) h
  · subst hs
    constructor
    · intro run hrun
      cases hrun
    · intro run hrun
      cases hrun
    · intro target htarget
      cases htarget
    · intro target htarget
      cases htarget
  · exact parks_step hparks (keyed_reachable hr.reachable) hstarts hstep

/-- The run is queued again, and each of its unfinished targets can be claimed. -/
structure Resumed (run : RunRow) (t t' : RunTables) : Prop where
  queued : ∃ row ∈ t'.runs, row.id = run.id ∧ row.state = .queued
  pending : ∀ target ∈ t.targets, target.runId = run.id → target.state.isUnfinished = true →
    ∃ target' ∈ t'.targets, target'.id = target.id ∧ target'.runId = run.id ∧
      target'.state = .pending ∧
        ∃ claimed, t'.beginRunTargetPreflight run.id target.id = some claimed
  finished : ∀ target ∈ t.targets, target.runId ≠ run.id ∨ target.state.isUnfinished = false →
    target ∈ t'.targets

theorem claimable {t : RunTables} (hk : t.Keyed) {run : RunRow} {target : RunTargetRow}
    (hrun : run ∈ t.runs) (hqueued : run.state = .queued) (htarget : target ∈ t.targets)
    (hbelongs : target.runId = run.id) (hpending : target.state = .pending)
    (hleasable : target.hasLeaseResourceKey = true) :
    ∃ claimed, t.beginRunTargetPreflight run.id target.id = some claimed := by
  have hin : t.runStateIn run.id [.queued, .preflight, .executing] = true :=
    runStateIn_iff.mpr ⟨run, hrun, rfl, by simp [hqueued]⟩
  have hclaim := moveTarget_of_mem (p := fun target => target.state = .pending &&
      target.hasLeaseResourceKey && t.runStateIn run.id [.queued, .preflight, .executing])
    (f := ({ · with state := .acquiringLease })) hk htarget hbelongs rfl
    (by simp [hpending, hleasable, hin])
  have hstart := moveRun_of_mem
    (q := fun run => [RunState.queued, .preflight, .executing].contains run.state)
    (g :=
      fun run => { run with state := if run.state = .executing then .executing else .preflight })
    (hk.updateTargets (p := fun y => y.id = target.id && (y.state = .pending &&
      y.hasLeaseResourceKey && t.runStateIn run.id [.queued, .preflight, .executing]))
      (f := ({ · with state := .acquiringLease })) (r := run.id) fun _ => rfl) hrun rfl
    (by simp [hqueued])
  unfold beginRunTargetPreflight
  rw [hclaim]
  exact ⟨_, hstart⟩

theorem RunTables.Parks.resumed {t : RunTables} (h : t.Parks) (hk : t.Keyed) {run : RunRow}
    (hrun : run ∈ t.runs) (hpaused : run.state = .paused)
    (hstop : t.loadRunStopRequest run.id = none) :
    ∃ t', t.resumePausedRun run.id = some t' ∧ Resumed run t t' := by
  have hin : t.runStateIn run.id [.paused] = true :=
    runStateIn_iff.mpr ⟨run, hrun, rfl, by simp [hpaused]⟩
  let wakes : RunTargetRow → Bool := fun target =>
    target.state = .paused && t.runStateIn run.id [.paused]
  let woken := t.updateTargets run.id wakes (·.withoutLease .pending)
  -- every unfinished target of the run is pending once it is woken
  have hwoken : ∀ target ∈ t.targets, target.runId = run.id → target.state.isUnfinished = true →
      ∃ target' ∈ woken.targets, target'.id = target.id ∧ target'.runId = run.id ∧
        target'.state = .pending ∧ target'.hasLeaseResourceKey = true := by
    intro target htarget hbelongs hunfinished
    rcases h.parked run hrun hpaused target htarget hbelongs hunfinished with hpending | hparked
    · refine ⟨target, mem_updateTargets_of_not htarget ?_, rfl, hbelongs, hpending,
        h.leasable target htarget⟩
      simp [wakes, hpending]
    · have hwakes : wakes target = true := by simp [wakes, hparked, hin]
      exact ⟨_, mem_updateTargets_of_mem htarget hbelongs hwakes, rfl, hbelongs, rfl,
        h.leasable target htarget⟩
  obtain ⟨some', hsome, hbelongs, hunfinished⟩ := h.unfinished run hrun (by rw [hpaused]; rfl)
  obtain ⟨pending, hpendingMem, -, hpendingRun, hpending, -⟩ :=
    hwoken some' hsome hbelongs hunfinished
  have hany : woken.targetStateIn run.id [.pending] = true :=
    targetStateIn_iff.mpr ⟨pending, hpendingMem, hpendingRun, by simp [hpending]⟩
  have hwokenKeyed : woken.Keyed := hk.updateTargets fun _ => rfl
  have hselects : (run.state = .paused && (t.loadRunStopRequest run.id).isNone &&
      woken.targetStateIn run.id [.pending]) = true := by simp [hpaused, hstop, hany]
  let resumed := woken.updateRuns run.id (fun other => other.state = .paused &&
    (t.loadRunStopRequest run.id).isNone && woken.targetStateIn run.id [.pending])
      ({ · with state := .queued })
  have hmove : t.resumePausedRun run.id = some resumed :=
    moveRun_of_mem hwokenKeyed hrun rfl hselects
  have hkeyed : resumed.Keyed := hwokenKeyed.updateRuns fun _ => rfl
  obtain ⟨row, hrow, hrowId, hrowState⟩ : ∃ row ∈ resumed.runs, row.id = run.id ∧
      row.state = .queued := ⟨_, mem_updateRuns_of_mem (t := woken) hrun rfl hselects, rfl, rfl⟩
  have htargets : resumed.targets = woken.targets := rfl
  refine ⟨resumed, hmove, ⟨row, hrow, hrowId, hrowState⟩, ?_, ?_⟩
  · intro target htarget hbelongs hunfinished
    obtain ⟨target', htarget', hid, hrunId, hstate, hleasable⟩ :=
      hwoken target htarget hbelongs hunfinished
    rw [← htargets] at htarget'
    have hclaim := claimable hkeyed hrow hrowState htarget' (hrunId.trans hrowId.symm) hstate
      hleasable
    rw [hrowId, hid] at hclaim
    exact ⟨target', htarget', hid, hrunId, hstate, hclaim⟩
  · rw [htargets]
    intro target htarget hother
    refine mem_updateTargets_of_not htarget ?_
    rintro ⟨hbelongs', hwakes⟩
    rcases hother with hne | hfinished
    · exact hne hbelongs'
    · simp only [wakes, Bool.and_eq_true, decide_eq_true_eq] at hwakes
      rw [hwakes.1] at hfinished
      cases hfinished

/-- A paused run without a pending stop resumes: the command is applied, the run is queued and
its unfinished targets are pending and claimable, and no finished target changes. -/
theorem paused_run_resumes {s : ExecutorState} (h : executor.ReachableWhen StartsTargets s)
    {run : RunRow} (hrun : run ∈ s.tables.runs) (hpaused : run.state = .paused)
    (hstop : s.tables.loadRunStopRequest run.id = none) :
    (resumePausedRun run.id s.tables).1 = ⟨true, []⟩ ∧
      Resumed run s.tables (resumePausedRun run.id s.tables).2 := by
  have hk := keyed_reachable h.reachable
  obtain ⟨t', hcall, hresumed⟩ := (parks_reachable h).resumed hk hrun hpaused hstop
  have hload : s.tables.loadStartedRun run.id = some run := Table.lookup_of_mem hk.runs hrun
  have hcommand : resumePausedRun run.id s.tables = (⟨true, []⟩, t') := by
    unfold resumePausedRun
    simp only [hload, hpaused, hcall, reduceCtorEq, if_false, ne_eq, not_true_eq_false]
  rw [hcommand]
  exact ⟨rfl, hresumed⟩

theorem paused_run_resumes_executing : ∃ s : ExecutorState, ∃ run ∈ s.tables.runs,
    s.tables.targets.map RunTargetRow.state = [.paused, .pending] ∧
      (resumePausedRun run.id s.tables).1 = ⟨true, []⟩ ∧
        Resumed run s.tables (resumePausedRun run.id s.tables).2 := by
  let labels : List ExecutorLabel := [.command (.saveStartedRun RunTables.pairStart),
    .command (.beginRunTargetPreflight "run-1" "run-1-target-0000"),
    .acquireLease "run-1" "run-1-target-0000" (RunTables.leaseOf "lease-a"),
    .startExecution "run-1" "run-1-target-0000", .command (.requestRunPause "run-1"),
    .finalizePause "run-1"]
  have hrun : (executor.replay ⟨⟨[], [], [], []⟩, []⟩ labels).any (fun s =>
      s.tables.runs.any (fun run => run.state = .paused &&
        (s.tables.loadRunStopRequest run.id).isNone) &&
        s.tables.targets.map RunTargetRow.state = [.paused, .pending]) = true := by decide
  obtain ⟨s, hs, hrows⟩ := (Option.any_eq_true _ _).mp hrun
  rw [Bool.and_eq_true, decide_eq_true_eq, List.any_eq_true] at hrows
  obtain ⟨⟨run, hmem, hpaused⟩, htargets⟩ := hrows
  rw [Bool.and_eq_true, decide_eq_true_eq, Option.isNone_iff_eq_none] at hpaused
  refine ⟨s, run, hmem, htargets, paused_run_resumes (System.ReachableWhen.replay (.init rfl)
    labels (fun label hlabel m start heq => ?_) hs) hmem hpaused.1 hpaused.2⟩
  subst heq
  obtain rfl : start = RunTables.pairStart := by simpa [labels] using hlabel
  decide

end MediaSync.Runs
