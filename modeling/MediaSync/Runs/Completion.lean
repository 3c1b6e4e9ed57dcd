import MediaSync.Runs.Store

/-! A run's terminal state is rewritten by each completion method from the state of its targets at
that moment. -/
namespace MediaSync.Runs
open Text

inductive Outcome where
  | succeeded (completedOperations completedBytes : Int)
  | succeededWithWarnings (completedOperations completedBytes skippedOperations
      skippedBytes : Int) (lastErrorCode : String)
  | recoveryRequired (lastErrorCode : String)
  | cancelled (lastErrorCode : String)
  deriving DecidableEq

structure TargetOutcome where
  runTargetId : String
  outcome : Outcome
  deriving DecidableEq

def Outcome.targetState : Outcome → RunTargetState
  | .succeeded .. => .succeeded
  | .succeededWithWarnings .. => .succeededWithWarnings
  | .recoveryRequired _ => .recoveryRequired
  | .cancelled _ => .cancelled

def Outcome.fits (target : RunTargetRow) : Outcome → Bool
  | .succeeded operations bytes =>
    target.plannedOperations = operations && target.plannedBytes = bytes
  | .succeededWithWarnings operations bytes skipped skippedBytes code =>
    0 ≤ operations && 0 ≤ bytes && 1 ≤ skipped && 0 ≤ skippedBytes && strip code ≠ "" &&
      target.plannedOperations = operations + skipped && target.plannedBytes = bytes + skippedBytes
  | .recoveryRequired code => strip code ≠ ""
  | .cancelled code => strip code ≠ ""

def failedTargetStates : List RunTargetState := [.failed, .cancelled, .blocked, .recoveryRequired]

def completedStates : List RunState := [.completed, .completedWithWarnings]

structure Tally where
  targets : List (String × RunTargetState)
  state : RunState

namespace Tally

def verdict (actionRequired : Bool) (outcome : Outcome) (states : List RunTargetState) : RunState :=
  match outcome with
  | .recoveryRequired _ => .recoveryRequired
  | .succeeded .. =>
    if states.any (·.isUnfinished) then .executing
    else if actionRequired then .completedWithWarnings
    else if states.all (· = .succeeded) then .completed
    else if states.all [RunTargetState.succeeded, .succeededWithWarnings].contains then
      .completedWithWarnings
    else .partialFailure
  | .succeededWithWarnings .. =>
    if states.any (·.isUnfinished) then .executing
    else if states.all [RunTargetState.succeeded, .succeededWithWarnings].contains then
      .completedWithWarnings
    else .partialFailure
  | .cancelled _ =>
    if states.any (·.isUnfinished) then .executing
    else if states.all (· = .cancelled) then .cancelled
    else .partialFailure

/-- The targets once `runTargetId` has been moved to `state`. -/
def moved (targets : List (String × RunTargetState)) (o : TargetOutcome) :
    List (String × RunTargetState) :=
  targets.map fun target =>
    if target.1 = o.runTargetId then (target.1, o.outcome.targetState) else target

def close (actionRequired : Bool) (tally : Tally) (o : TargetOutcome) : Tally :=
  if tally.state = .executing then
    { targets := moved tally.targets o
      state := verdict actionRequired o.outcome ((moved tally.targets o).map Prod.snd) }
  else tally

def closeAll (actionRequired : Bool) (tally : Tally) (os : List TargetOutcome) : Tally :=
  os.foldl (close actionRequired) tally

def stateAfter (os : List TargetOutcome) (target : String × RunTargetState) : RunTargetState :=
  match Table.lookup TargetOutcome.runTargetId os target.1 with
  | some o => o.outcome.targetState
  | none => target.2

def statesAfter (targets : List (String × RunTargetState)) (os : List TargetOutcome) :
    List RunTargetState :=
  targets.map (stateAfter os)

/-- The run state after the outcomes, the last of which is `last`. -/
def settled (actionRequired : Bool) (targets : List (String × RunTargetState))
    (os : List TargetOutcome) : RunState :=
  if os.any (·.outcome.targetState = .recoveryRequired) then .recoveryRequired
  else
    match os.getLast? with
    | none => .executing
    | some last => verdict actionRequired last.outcome (statesAfter targets os)

def Closes (targets : List (String × RunTargetState)) (os : List TargetOutcome) : Prop :=
  Table.KeysUnique TargetOutcome.runTargetId os ∧
    ∀ o ∈ os, (o.runTargetId, RunTargetState.executing) ∈ targets

variable {ar : Bool} {tally : Tally} {targets : List (String × RunTargetState)}
  {o : TargetOutcome} {os : List TargetOutcome}

theorem closeAll_of_not_executing (h : tally.state ≠ .executing) :
    closeAll ar tally os = tally := by
  induction os with
  | nil => rfl
  | cons o os ih =>
    have hclose : close ar tally o = tally := if_neg h
    rw [closeAll, List.foldl_cons, hclose]
    exact ih

variable {outcome : Outcome} {states : List RunTargetState}

theorem verdict_executing (hout : outcome.targetState ≠ .recoveryRequired)
    (h : states.any (·.isUnfinished) = true) : verdict ar outcome states = .executing := by
  cases outcome with
  | recoveryRequired code => exact absurd rfl hout
  | succeeded a b => simp [verdict, h]
  | succeededWithWarnings a b c d e => simp [verdict, h]
  | cancelled code => simp [verdict, h]

theorem Closes.tail (h : Closes targets (o :: os)) : Closes (moved targets o) os := by
  obtain ⟨hunique, hmem⟩ := h
  have hcons :=
    List.nodup_cons.mp (show ((o :: os).map TargetOutcome.runTargetId).Nodup from hunique)
  refine ⟨hcons.2, fun x hx => ?_⟩
  have hne : x.runTargetId ≠ o.runTargetId := fun heq =>
    hcons.1 (heq ▸ List.mem_map_of_mem hx)
  exact List.mem_map.mpr ⟨_, hmem x (List.mem_cons_of_mem _ hx), by simp [hne]⟩

theorem statesAfter_moved (h : Table.KeysUnique TargetOutcome.runTargetId (o :: os)) :
    statesAfter (moved targets o) os = statesAfter targets (o :: os) := by
  have hfresh : Table.lookup TargetOutcome.runTargetId os o.runTargetId = none := by
    refine Table.lookup_none_iff.mpr fun x hx heq => ?_
    exact (List.nodup_cons.mp (show ((o :: os).map TargetOutcome.runTargetId).Nodup from h)).1
      (heq ▸ List.mem_map_of_mem hx)
  simp only [statesAfter, moved, List.map_map]
  refine List.map_congr_left fun target _ => ?_
  by_cases heq : target.1 = o.runTargetId
  · have hnow : Table.lookup TargetOutcome.runTargetId (o :: os) target.1 = some o := by
      simp [Table.lookup, heq]
    simp only [Function.comp_apply, stateAfter, if_pos heq, hnow]
    rw [heq, hfresh]
  · have hlater : Table.lookup TargetOutcome.runTargetId (o :: os) target.1 =
        Table.lookup TargetOutcome.runTargetId os target.1 := by
      have hne : o.runTargetId ≠ target.1 := fun h => heq h.symm
      simp [Table.lookup, hne]
    simp only [Function.comp_apply, stateAfter, if_neg heq, hlater]

theorem close_open {next : TargetOutcome} (h : Closes targets (o :: os)) (hnext : next ∈ os)
    (hdecision : o.outcome.targetState ≠ .recoveryRequired) :
    close ar ⟨targets, .executing⟩ o = ⟨moved targets o, .executing⟩ := by
  have hopen : ((moved targets o).map Prod.snd).any (·.isUnfinished) = true :=
    List.any_eq_true.mpr ⟨.executing, List.mem_map.mpr ⟨_, h.tail.2 next hnext, rfl⟩, by decide⟩
  rw [close, if_pos rfl, verdict_executing hdecision hopen]

theorem closeAll_eq (h : Closes targets os)
    (hdecision : ∀ o ∈ os, o.outcome.targetState ≠ .recoveryRequired) :
    closeAll ar ⟨targets, .executing⟩ os =
      ⟨targets.map fun target => (target.1, stateAfter os target), settled ar targets os⟩ := by
  induction os generalizing targets with
  | nil => simp [closeAll, settled, stateAfter, Table.lookup]
  | cons o os ih =>
    have hids : (moved targets o).map (fun target => (target.1, stateAfter os target)) =
        targets.map fun target => (target.1, stateAfter (o :: os) target) := by
      have hstates := @statesAfter_moved targets _ _ h.1
      simp only [statesAfter, moved, List.map_map] at hstates ⊢
      refine List.map_congr_left fun target htarget => ?_
      have hstate := List.map_inj_left.mp hstates target htarget
      simp only [Function.comp_apply] at hstate ⊢
      rw [← hstate]
      split <;> rfl
    have hany : (o :: os).any (·.outcome.targetState = .recoveryRequired) = false := by
      rw [List.any_eq_false]
      intro x hx
      simpa using hdecision x hx
    cases os with
    | nil =>
      have hone : (moved targets o).map Prod.snd = statesAfter targets [o] := by
        rw [← statesAfter_moved h.1]
        simp [statesAfter, stateAfter, Table.lookup]
      have hpairs : moved targets o = targets.map fun target =>
          (target.1, stateAfter [o] target) := by
        rw [← hids]
        simp [stateAfter, Table.lookup]
      simp only [closeAll, List.foldl_cons, List.foldl_nil, close, if_true, settled, hany, hone,
        ← hpairs]
      rfl
    | cons next rest =>
      have hrest := ih h.tail fun x hx => hdecision x (List.mem_cons_of_mem _ hx)
      rw [closeAll, List.foldl_cons,
        close_open h List.mem_cons_self (hdecision o List.mem_cons_self)]
      refine hrest.trans ?_
      have hanyRest : (next :: rest).any (·.outcome.targetState = .recoveryRequired) = false :=
        (List.any_cons ▸ Bool.or_eq_false_iff.mp (List.any_cons ▸ hany)).2
      have hlast : (o :: next :: rest).getLast? = (next :: rest).getLast? := by simp
      rw [hids]
      simp only [settled, hany, hanyRest, hlast, statesAfter_moved h.1]

theorem closeAll_decision (h : Closes targets os) (ho : o ∈ os)
    (hdecision : o.outcome.targetState = .recoveryRequired) :
    (closeAll ar ⟨targets, .executing⟩ os).state = .recoveryRequired := by
  induction os generalizing targets with
  | nil => simp at ho
  | cons first os ih =>
    rw [closeAll, List.foldl_cons]
    by_cases hfirst : first.outcome.targetState = .recoveryRequired
    · -- the run has left EXECUTING and takes no further outcome
      have hclose : (close ar ⟨targets, .executing⟩ first).state = .recoveryRequired := by
        rw [close, if_pos rfl]
        cases hout : first.outcome with
        | recoveryRequired code => rfl
        | succeeded a b => simp [hout, Outcome.targetState] at hfirst
        | succeededWithWarnings a b c d e => simp [hout, Outcome.targetState] at hfirst
        | cancelled code => simp [hout, Outcome.targetState] at hfirst
      have hstop : closeAll ar (close ar ⟨targets, .executing⟩ first) os =
          close ar ⟨targets, .executing⟩ first :=
        closeAll_of_not_executing (by rw [hclose]; decide)
      show (closeAll ar (close ar ⟨targets, .executing⟩ first) os).state = .recoveryRequired
      rw [hstop, hclose]
    · have hrest : o ∈ os := (List.mem_cons.mp ho).resolve_left fun heq => hfirst (heq ▸ hdecision)
      rw [close_open h hrest hfirst]
      exact ih h.tail hrest

theorem closeAll_settled (h : Closes targets os) :
    (closeAll ar ⟨targets, .executing⟩ os).state = settled ar targets os := by
  by_cases hdecision : ∃ o ∈ os, o.outcome.targetState = .recoveryRequired
  · obtain ⟨o, ho, hstate⟩ := hdecision
    have hany : os.any (·.outcome.targetState = .recoveryRequired) = true :=
      List.any_eq_true.mpr ⟨o, ho, by simpa using hstate⟩
    rw [closeAll_decision h ho hstate, settled, if_pos hany]
  · rw [closeAll_eq h fun o ho hstate => hdecision ⟨o, ho, hstate⟩]

def summary (actionRequired : Bool) (states : List RunTargetState) : RunState :=
  if states.any (·.isUnfinished) then .executing
  else if states.all [RunTargetState.succeeded, .succeededWithWarnings].contains then
    if !actionRequired && states.all (· = .succeeded) then .completed else .completedWithWarnings
  else if states.all (· = .cancelled) then .cancelled
  else .partialFailure

def SuccessCoversFailure (actionRequired : Bool) (targets : List (String × RunTargetState))
    (os : List TargetOutcome) : Prop :=
  actionRequired = true ∧ (∃ o ∈ os, o.outcome.targetState = .succeeded) ∧
    (∀ o ∈ os, o.outcome.targetState ≠ .recoveryRequired) ∧
    (∀ state ∈ statesAfter targets os, state.isUnfinished = false) ∧
    ∃ state ∈ statesAfter targets os, state ∈ failedTargetStates

theorem failed_of_finished {state : RunTargetState} (hfinished : state.isUnfinished = false)
    (hgood : state ∉ [RunTargetState.succeeded, .succeededWithWarnings]) :
    state ∈ failedTargetStates := by
  revert hfinished hgood
  cases state <;> decide

theorem statesAfter_perm {os' : List TargetOutcome}
    (hu : Table.KeysUnique TargetOutcome.runTargetId os) (hp : os.Perm os') :
    statesAfter targets os' = statesAfter targets os := by
  refine List.map_congr_left fun target _ => ?_
  simp only [stateAfter, Table.lookup_perm hu hp]

theorem targetState_mem_statesAfter (h : Closes targets os) (ho : o ∈ os) :
    o.outcome.targetState ∈ statesAfter targets os := by
  refine List.mem_map.mpr ⟨_, h.2 o ho, ?_⟩
  simp only [stateAfter, Table.lookup_of_mem h.1 ho]

/-- An outcome whose state is among the states is summed up without regard to it, unless it is
the success that covers a failure. -/
theorem verdict_eq_summary (hmem : outcome.targetState ∈ states)
    (hdecision : outcome.targetState ≠ .recoveryRequired)
    (hcover : ¬ (ar = true ∧ outcome.targetState = .succeeded ∧
      states.any (·.isUnfinished) = false ∧
      states.all [RunTargetState.succeeded, .succeededWithWarnings].contains = false)) :
    verdict ar outcome states = summary ar states := by
  by_cases hopen : states.any (·.isUnfinished) = true
  · rw [verdict_executing hdecision hopen, summary, if_pos hopen]
  have hclosed : states.any (·.isUnfinished) = false := by simpa using hopen
  cases outcome with
  | recoveryRequired code => exact absurd rfl hdecision
  | succeeded a b =>
    have hnot : states.all (· = .cancelled) = false :=
      List.all_eq_false.mpr ⟨_, hmem, by simp [Outcome.targetState]⟩
    by_cases hgood : states.all [RunTargetState.succeeded, .succeededWithWarnings].contains = true
    · by_cases har : ar = true
      · simp [verdict, summary, hclosed, hgood, har]
      · by_cases hall : states.all (· = .succeeded) = true
        · simp [verdict, summary, hclosed, hgood, har, hall]
        · simp [verdict, summary, hclosed, hgood, har, hall]
    · have har : ar = false := by
        by_contra hne
        exact hcover ⟨by simpa using hne, rfl, hclosed, by simpa using hgood⟩
      have hall : states.all (· = .succeeded) = false := by
        refine Bool.eq_false_iff.mpr fun hall => hgood (List.all_eq_true.mpr fun x hx => ?_)
        have hx' : x = .succeeded := by simpa using List.all_eq_true.mp hall x hx
        rw [hx']
        decide
      simp [verdict, summary, hclosed, hgood, har, hall, hnot]
  | succeededWithWarnings a b c d e =>
    have hnot : states.all (· = .cancelled) = false :=
      List.all_eq_false.mpr ⟨_, hmem, by simp [Outcome.targetState]⟩
    have hall : states.all (· = .succeeded) = false :=
      List.all_eq_false.mpr ⟨_, hmem, by simp [Outcome.targetState]⟩
    simp [verdict, summary, hclosed, hnot, hall]
  | cancelled code =>
    have hgood : states.all [RunTargetState.succeeded, .succeededWithWarnings].contains = false :=
      List.all_eq_false.mpr ⟨_, hmem, by simp [Outcome.targetState]⟩
    simp [verdict, summary, hclosed, hgood]

theorem settled_eq_summary (h : Closes targets os) (hne : os ≠ [])
    (hdecision : ∀ o ∈ os, o.outcome.targetState ≠ .recoveryRequired)
    (hcover : ¬ SuccessCoversFailure ar targets os) :
    settled ar targets os = summary ar (statesAfter targets os) := by
  have hnone : os.any (·.outcome.targetState = .recoveryRequired) = false := by
    rw [List.any_eq_false]
    intro o ho
    simpa using hdecision o ho
  have hlast : os.getLast? = some (os.getLast hne) := List.getLast?_eq_some_getLast hne
  have hmem : os.getLast hne ∈ os := List.getLast_mem hne
  simp only [settled, hnone, hlast]
  refine verdict_eq_summary (targetState_mem_statesAfter h hmem) (hdecision _ hmem) ?_
  rintro ⟨har, hsucc, hclosed, hbad⟩
  obtain ⟨state, hstate, hgood⟩ := List.all_eq_false.mp hbad
  have hfinished : ∀ x ∈ statesAfter targets os, x.isUnfinished = false := fun x hx => by
    simpa using List.any_eq_false.mp hclosed x hx
  exact hcover ⟨har, ⟨_, hmem, hsucc⟩, hdecision, hfinished, state, hstate,
    failed_of_finished (hfinished state hstate) (by simpa using hgood)⟩

theorem not_failed_of_summary (h : summary ar states ∈ completedStates) :
    ∀ state ∈ states, state ∉ failedTargetStates := by
  have hgood : states.all [RunTargetState.succeeded, .succeededWithWarnings].contains = true := by
    by_contra hbad
    unfold summary at h
    rw [if_neg hbad] at h
    split at h
    · exact absurd h (by decide)
    · split at h <;> exact absurd h (by decide)
  intro state hstate
  have hs : state = .succeeded ∨ state = .succeededWithWarnings := by
    simpa using List.all_eq_true.mp hgood state hstate
  rcases hs with rfl | rfl <;> decide

def Settles (actionRequired : Bool) (targets : List (String × RunTargetState))
    (os : List TargetOutcome) (state : RunState) : Prop :=
  ∀ os', os'.Perm os → settled actionRequired targets os' = state ∧
    (state ∈ completedStates → ∀ x ∈ statesAfter targets os', x ∉ failedTargetStates)

theorem settles_of_not_covered (h : Closes targets os)
    (hcover : ¬ SuccessCoversFailure ar targets os) : ∃ state, Settles ar targets os state := by
  by_cases hdecision : os.any (·.outcome.targetState = .recoveryRequired) = true
  · refine ⟨.recoveryRequired, fun os' hp => ⟨?_, fun hc => absurd hc (by decide)⟩⟩
    have hany : os'.any (·.outcome.targetState = .recoveryRequired) = true := by
      obtain ⟨o, ho, hstate⟩ := List.any_eq_true.mp hdecision
      exact List.any_eq_true.mpr ⟨o, hp.mem_iff.mpr ho, hstate⟩
    simp only [settled, hany, if_true]
  · have hnone : ∀ o ∈ os, o.outcome.targetState ≠ .recoveryRequired := by
      simpa using hdecision
    by_cases hos : os = []
    · subst hos
      refine ⟨.executing, fun os' hp => ⟨?_, fun hc => absurd hc (by decide)⟩⟩
      rw [List.perm_nil.mp hp]
      rfl
    · refine ⟨summary ar (statesAfter targets os), fun os' hp => ?_⟩
      have hstates : statesAfter targets os' = statesAfter targets os :=
        statesAfter_perm h.1 hp.symm
      have h' : Closes targets os' :=
        ⟨(hp.map _).nodup_iff.mpr h.1, fun o ho => h.2 o (hp.mem_iff.mp ho)⟩
      have hcover' : ¬ SuccessCoversFailure ar targets os' := by
        rintro ⟨har, ⟨o, ho, hsucc⟩, _, hfinished, hfailed⟩
        rw [hstates] at hfinished hfailed
        exact hcover ⟨har, ⟨o, hp.mem_iff.mp ho, hsucc⟩, hnone, hfinished, hfailed⟩
      have hne : os' ≠ [] := fun hnil => hos (List.perm_nil.mp (hnil ▸ hp.symm))
      rw [settled_eq_summary h' hne (fun o ho => hnone o (hp.mem_iff.mp ho)) hcover', hstates]
      exact ⟨rfl, not_failed_of_summary⟩

theorem not_settles_of_covered (h : Closes targets os)
    (hcover : SuccessCoversFailure ar targets os) (state : RunState) :
    ¬ Settles ar targets os state := by
  obtain ⟨har, ⟨o, ho, hsucc⟩, hnone, hfinished, x, hx, hfailed⟩ := hcover
  intro hsettles
  have hp : (os.erase o ++ [o]).Perm os :=
    (List.perm_append_singleton o _).trans (List.perm_cons_erase ho).symm
  obtain ⟨hstate, hclean⟩ := hsettles _ hp
  have hstates : statesAfter targets (os.erase o ++ [o]) = statesAfter targets os :=
    statesAfter_perm h.1 hp.symm
  have hopen : (statesAfter targets os).any (·.isUnfinished) = false := by
    rw [List.any_eq_false]
    intro y hy
    simp [hfinished y hy]
  have hdecision : (os.erase o ++ [o]).any (·.outcome.targetState = .recoveryRequired) = false := by
    rw [List.any_eq_false]
    intro y hy
    simpa using hnone y (hp.mem_iff.mp hy)
  have hcompleted : state = .completedWithWarnings := by
    rw [← hstate]
    cases hout : o.outcome with
    | succeeded a b =>
      simp [settled, hdecision, hout, hstates, verdict, hopen, har]
    | succeededWithWarnings a b c d e => simp [hout, Outcome.targetState] at hsucc
    | recoveryRequired code => simp [hout, Outcome.targetState] at hsucc
    | cancelled code => simp [hout, Outcome.targetState] at hsucc
  exact hclean (by rw [hcompleted]; decide) x (hstates ▸ hx) hfailed

end Tally

namespace RunTables

variable (t : RunTables)

def recordOutcome (runId : String) (o : TargetOutcome) : Option RunTables :=
  match o.outcome with
  | .succeeded operations bytes => t.recordRunTargetSucceeded runId o.runTargetId operations bytes
  | .succeededWithWarnings operations bytes skipped skippedBytes code =>
    t.recordRunTargetSucceededWithWarnings runId o.runTargetId operations bytes skipped
      skippedBytes code
  | .recoveryRequired code => t.recordRunTargetRecoveryRequired runId o.runTargetId code
  | .cancelled code => t.recordRunTargetCancelled runId o.runTargetId code

def recordAll (runId : String) (os : List TargetOutcome) : RunTables :=
  os.foldl (fun t o => (t.recordOutcome runId o).getD t) t

def runState (runId : String) : Option RunState := (t.loadStartedRun runId).map RunRow.state

structure Recordable (runId : String) (os : List TargetOutcome) : Prop where
  executing : ∃ run ∈ t.runs, run.id = runId ∧ run.state = .executing
  once : Table.KeysUnique TargetOutcome.runTargetId os
  fits : ∀ o ∈ os, ∃ target ∈ t.loadTargets runId,
    target.id = o.runTargetId ∧ target.state = .executing ∧ o.outcome.fits target = true

/-- Every two orders of the outcomes end the run in the same state, and that state is a
completed one only if no target of the run was cancelled or failed. -/
def OrderIndependent (runId : String) (os : List TargetOutcome) : Prop :=
  ∀ os₁ os₂, os₁.Perm os → os₂.Perm os →
    (t.recordAll runId os₁).runState runId = (t.recordAll runId os₂).runState runId ∧
      ∀ state ∈ (t.recordAll runId os₁).runState runId, state ∈ completedStates →
        ∀ target ∈ (t.recordAll runId os₁).loadTargets runId, target.state ∉ failedTargetStates

def tallied (runId : String) : List (String × RunTargetState) :=
  (t.loadTargets runId).map fun target => (target.id, target.state)

/-- A plain success is recorded on a run that asks for action, all targets of the run end
closed without a decision, and one of them ends cancelled or failed. -/
def SuccessCoversFailure (runId : String) (os : List TargetOutcome) : Prop :=
  ∃ run ∈ t.runs, run.id = runId ∧
    Tally.SuccessCoversFailure (actionRequired run) (t.tallied runId) os

structure Follows (runId : String) (ar : Bool) (tally : Tally) : Prop where
  keyed : t.Keyed
  run : ∃ run ∈ t.runs, run.id = runId ∧ run.state = tally.state ∧ actionRequired run = ar
  targets : t.tallied runId = tally.targets

variable {t} {t' : RunTables} {runId : String} {ar : Bool} {tally : Tally} {o : TargetOutcome}
  {os : List TargetOutcome}

theorem targetStateIn_unfinished : t.targetStateIn runId unfinishedTargetStates =
    ((t.loadTargets runId).map RunTargetRow.state).any (·.isUnfinished) := by
  simp only [targetStateIn, loadTargets, List.any_map, List.any_filter]
  rfl

theorem everyTargetIn_eq {states : List RunTargetState} : t.everyTargetIn runId states =
    ((t.loadTargets runId).map RunTargetRow.state).all states.contains := by
  simp only [everyTargetIn, loadTargets, List.all_map, List.all_filter, List.not_any_eq_all_not]
  congr 1
  funext target
  by_cases h : target.runId = runId <;> simp [h]

theorem recordOutcome_eq {target : RunTargetRow} (hfits : o.outcome.fits target = true) :
    ∃ p f g, t.recordOutcome runId o = t.finishTarget runId o.runTargetId p f g ∧
      p target = true ∧
      (∀ x : RunTargetRow, (f x).id = x.id ∧ (f x).runId = x.runId ∧
        (f x).state = o.outcome.targetState) ∧
      ∀ (m : RunTables) (run : RunRow), (g m run).id = run.id ∧
        (g m run).summary = run.summary ∧ (run.state = .executing → (g m run).state =
          Tally.verdict (actionRequired run) o.outcome
            ((m.loadTargets run.id).map RunTargetRow.state)) := by
  unfold recordOutcome
  cases hout : o.outcome with
  | succeeded operations bytes =>
    refine ⟨_, _, _, rfl, by simpa [Outcome.fits, hout] using hfits,
      fun x => ⟨rfl, rfl, rfl⟩, fun m run => ⟨rfl, rfl, fun hrun => ?_⟩⟩
    have hall :
        ((m.loadTargets run.id).map RunTargetRow.state).all [RunTargetState.succeeded].contains
        = ((m.loadTargets run.id).map RunTargetRow.state).all (· = .succeeded) := by
      congr 1
      funext x
      simp
    simp only [succeededState, targetStateIn_unfinished, everyTargetIn_eq, hall, hrun,
      Tally.verdict]
  | succeededWithWarnings operations bytes skipped skippedBytes code =>
    simp only [Outcome.fits, hout, Bool.and_eq_true, decide_eq_true_eq] at hfits
    obtain ⟨⟨⟨⟨⟨⟨h1, h2⟩, h3⟩, h4⟩, h5⟩, h6⟩, h7⟩ := hfits
    have hguard : ¬ (operations < 0 ∨ bytes < 0 ∨ skipped < 1 ∨ skippedBytes < 0 ∨
        strip code = "") := by
      rintro (h | h | h | h | h)
      · omega
      · omega
      · omega
      · omega
      · exact h5 h
    refine ⟨_, _, _, if_neg hguard, by simp [h6, h7], fun x => ⟨rfl, rfl, rfl⟩,
      fun m run => ⟨rfl, rfl, fun hrun => ?_⟩⟩
    simp only [warnedState, targetStateIn_unfinished, everyTargetIn_eq, hrun, Tally.verdict]
  | recoveryRequired code =>
    have hguard : ¬ strip code = "" := by simpa [Outcome.fits, hout] using hfits
    exact ⟨_, _, _, if_neg hguard, rfl, fun x => ⟨rfl, rfl, rfl⟩,
      fun m run => ⟨rfl, rfl, fun _ => rfl⟩⟩
  | cancelled code =>
    have hguard : ¬ strip code = "" := by simpa [Outcome.fits, hout] using hfits
    refine ⟨_, _, _, if_neg hguard, rfl, fun x => ⟨rfl, rfl, rfl⟩,
      fun m run => ⟨rfl, rfl, fun hrun => ?_⟩⟩
    have hall :
        ((m.loadTargets run.id).map RunTargetRow.state).all [RunTargetState.cancelled].contains
        = ((m.loadTargets run.id).map RunTargetRow.state).all (· = .cancelled) := by
      congr 1
      funext x
      simp
    simp only [cancelledState, targetStateIn_unfinished, everyTargetIn_eq, hall, hrun,
      Tally.verdict]

theorem recordOutcome_refused (h : t.Follows runId ar tally) (hstate : tally.state ≠ .executing) :
    t.recordOutcome runId o = none := by
  have hnone : ∀ p f g, t.finishTarget runId o.runTargetId p f g = none := by
    intro p f g
    unfold finishTarget
    cases hmove : t.moveTarget runId o.runTargetId _ f with
    | none => rfl
    | some moved =>
      obtain ⟨-, target, -, -, -, hp⟩ := moveTarget_eq_some hmove
      simp only [Bool.and_eq_true] at hp
      obtain ⟨run, hrun, hid, hrunState, -⟩ := h.run
      have hmem := h.keyed.state_mem hrun (hid ▸ hp.2)
      exact absurd (hrunState ▸ List.mem_singleton.mp hmem) hstate
  unfold recordOutcome
  cases o.outcome with
  | succeeded operations bytes => exact hnone _ _ _
  | succeededWithWarnings operations bytes skipped skippedBytes code =>
    unfold recordRunTargetSucceededWithWarnings
    dsimp only
    split
    · rfl
    · exact hnone _ _ _
  | recoveryRequired code =>
    unfold recordRunTargetRecoveryRequired
    dsimp only
    split
    · rfl
    · exact hnone _ _ _
  | cancelled code =>
    unfold recordRunTargetCancelled
    dsimp only
    split
    · rfl
    · exact hnone _ _ _

theorem recordOutcome_accepted (h : t.Follows runId ar tally) (hstate : tally.state = .executing)
    {target : RunTargetRow} (htarget : target ∈ t.loadTargets runId)
    (hid : target.id = o.runTargetId) (hexecuting : target.state = .executing)
    (hfits : o.outcome.fits target = true) :
    ∃ t', t.recordOutcome runId o = some t' ∧ t'.Follows runId ar (tally.close ar o) ∧
      ∀ other ∈ t.loadTargets runId, other.id ≠ o.runTargetId → other ∈ t'.loadTargets runId := by
  obtain ⟨p, f, g, hrecord, hp, hf, hg⟩ := @recordOutcome_eq t runId o _ hfits
  obtain ⟨run, hrun, hrunId, hrunState, har⟩ := h.run
  have hmem := mem_loadTargets.mp htarget
  have hguard : t.runStateIn runId [.executing] = true :=
    runStateIn_iff.mpr ⟨run, hrun, hrunId, by simp [hrunState, hstate]⟩
  let selected : RunTargetRow → Bool := fun x => x.id = o.runTargetId &&
    (x.state = .executing && p x && t.runStateIn runId [.executing])
  let moved := t.updateTargets runId selected f
  have hmove : t.moveTarget runId o.runTargetId
      (fun x => x.state = .executing && p x && t.runStateIn runId [.executing]) f = some moved :=
    moveTarget_of_mem h.keyed hmem.1 hmem.2 hid (by simp [hexecuting, hp, hguard])
  have hkeyed : moved.Keyed := h.keyed.updateTargets fun x => (hf x).1
  have hclose : moved.moveRun runId (·.state = .executing) (g moved) =
      some (moved.updateRuns runId (·.state = .executing) (g moved)) :=
    moveRun_of_mem hkeyed hrun hrunId (by simp [hrunState, hstate])
  -- the selected target is the only one with its id
  have hselected : ∀ x ∈ t.loadTargets runId, selected x = true ↔ x.id = o.runTargetId := by
    intro x hx
    refine ⟨fun hsel => of_decide_eq_true (Bool.and_elim_left hsel), fun hxid => ?_⟩
    rw [Table.key_injOn h.keyed.targets (mem_loadTargets.mp hx).1 hmem.1 (hxid.trans hid.symm)]
    simp only [selected, hid, hexecuting, hp, hguard, decide_true, Bool.and_self]
  have hload : moved.loadTargets runId = (t.loadTargets runId).map fun x =>
      if selected x then { f x with rowVersion := x.rowVersion + 1 } else x :=
    loadTargets_updateTargets fun x => (hf x).2.1
  have htallied : moved.tallied runId = Tally.moved tally.targets o := by
    rw [← h.targets]
    simp only [tallied, hload, Tally.moved, List.map_map]
    refine List.map_congr_left fun x hx => ?_
    by_cases hxid : x.id = o.runTargetId
    · simp [(hselected x hx).mpr hxid, hxid, hf]
    · have hnot : selected x = false :=
        Bool.eq_false_iff.mpr fun hsel => hxid ((hselected x hx).mp hsel)
      simp [hnot, hxid]
  have haccepted : t.finishTarget runId o.runTargetId p f g =
      some (moved.updateRuns runId (·.state = .executing) (g moved)) := by
    unfold finishTarget
    rw [hmove]
    exact hclose
  refine ⟨_, hrecord.trans haccepted, ?_, ?_⟩
  · have hsummary := hg moved run
    refine ⟨hkeyed.updateRuns fun x => (hg moved x).1, ⟨_, mem_updateRuns_of_mem hrun hrunId
      (by simp [hrunState, hstate]), hsummary.1.trans hrunId, ?_, ?_⟩, ?_⟩
    · rw [Tally.close, if_pos hstate]
      refine (hsummary.2.2 (hrunState.trans hstate)).trans ?_
      rw [har, hrunId, ← htallied]
      simp [tallied, Function.comp_def]
    · exact (congrArg (fun payload => instr (Json.obj payload).dump _) hsummary.2.1).trans har
    · rw [Tally.close, if_pos hstate]
      exact htallied
  · intro other hother hne
    have hnot : selected other = false :=
      Bool.eq_false_iff.mpr fun hsel => hne ((hselected other hother).mp hsel)
    show other ∈ moved.loadTargets runId
    rw [hload]
    exact List.mem_map.mpr ⟨other, hother, by simp [hnot]⟩

theorem recordAll_follows (h : t.Follows runId ar tally)
    (hunique : Table.KeysUnique TargetOutcome.runTargetId os)
    (hfits : ∀ o ∈ os, ∃ target ∈ t.loadTargets runId,
      target.id = o.runTargetId ∧ target.state = .executing ∧ o.outcome.fits target = true) :
    (t.recordAll runId os).Follows runId ar (tally.closeAll ar os) := by
  induction os generalizing t tally with
  | nil => exact h
  | cons o os ih =>
    by_cases hstate : tally.state = .executing
    · obtain ⟨target, htarget, hid, hexecuting, hfit⟩ := hfits o List.mem_cons_self
      obtain ⟨t', hrecord, hfollows, hrest⟩ :=
        recordOutcome_accepted h hstate htarget hid hexecuting hfit
      have hcons := List.nodup_cons.mp
        (show ((o :: os).map TargetOutcome.runTargetId).Nodup from hunique)
      rw [recordAll, List.foldl_cons, hrecord]
      refine ih hfollows hcons.2 fun x hx => ?_
      obtain ⟨row, hrow, hrowId, hrowRest⟩ := hfits x (List.mem_cons_of_mem _ hx)
      have hne : row.id ≠ o.runTargetId := fun heq =>
        hcons.1 ((hrowId ▸ heq) ▸ List.mem_map_of_mem hx)
      exact ⟨row, hrest row hrow hne, hrowId, hrowRest⟩
    · -- the run has left EXECUTING: every outcome is refused
      have hstop : ∀ rest : List TargetOutcome, t.recordAll runId rest = t := by
        intro rest
        induction rest with
        | nil => rfl
        | cons x rest ihrest =>
          rw [recordAll, List.foldl_cons, recordOutcome_refused h hstate]
          exact ihrest
      rw [hstop, Tally.closeAll_of_not_executing hstate]
      exact h

theorem Follows.runState (h : t.Follows runId ar tally) : t.runState runId = some tally.state := by
  obtain ⟨run, hrun, hid, hstate, -⟩ := h.run
  have hload : t.loadStartedRun runId = some run := hid ▸ Table.lookup_of_mem h.keyed.runs hrun
  rw [RunTables.runState, hload, Option.map_some, hstate]

theorem Recordable.closes (h : t.Recordable runId os) : Tally.Closes (t.tallied runId) os := by
  refine ⟨h.once, fun o ho => ?_⟩
  obtain ⟨target, htarget, hid, hexecuting, -⟩ := h.fits o ho
  exact List.mem_map.mpr ⟨target, htarget, by rw [hid, hexecuting]⟩

theorem Recordable.perm {os' : List TargetOutcome} (h : t.Recordable runId os)
    (hp : os'.Perm os) : t.Recordable runId os' where
  executing := h.executing
  once := (hp.map _).nodup_iff.mpr h.once
  fits := fun o ho => h.fits o (hp.mem_iff.mp ho)

section
variable {run : RunRow} (hk : t.Keyed) (hrun : run ∈ t.runs) (hrunState : run.state = .executing)
  (hrec : t.Recordable run.id os)

include hk hrun hrunState hrec

theorem recordable_follows : (t.recordAll run.id os).Follows run.id (actionRequired run)
    (Tally.closeAll (actionRequired run) ⟨t.tallied run.id, .executing⟩ os) :=
  recordAll_follows ⟨hk, ⟨run, hrun, rfl, hrunState, rfl⟩, rfl⟩ hrec.once hrec.fits

theorem recordAll_runState : (t.recordAll run.id os).runState run.id =
    some (Tally.settled (actionRequired run) (t.tallied run.id) os) := by
  rw [(recordable_follows hk hrun hrunState hrec).runState, Tally.closeAll_settled hrec.closes]

theorem recordAll_states
    (hdone : Tally.settled (actionRequired run) (t.tallied run.id) os ∈ completedStates) :
    ((t.recordAll run.id os).loadTargets run.id).map RunTargetRow.state =
      Tally.statesAfter (t.tallied run.id) os := by
  have hnone : ∀ o ∈ os, o.outcome.targetState ≠ .recoveryRequired := by
    intro o ho hdecision
    rw [← Tally.closeAll_settled hrec.closes, Tally.closeAll_decision hrec.closes ho hdecision]
      at hdone
    exact absurd hdone (by decide)
  have htargets := (recordable_follows hk hrun hrunState hrec).targets
  rw [Tally.closeAll_eq hrec.closes hnone] at htargets
  have hstates := congrArg (List.map Prod.snd) htargets
  simpa [tallied, Tally.statesAfter, Function.comp_def] using hstates

end

/-- The order in which recordable outcomes are recorded is irrelevant exactly when no plain
success covers a failed target of an action-required run. -/
theorem orderIndependent_iff (t : RunTables) (runId : String) (os : List TargetOutcome)
    (hk : t.Keyed) (hrec : t.Recordable runId os) :
    t.OrderIndependent runId os ↔ ¬ t.SuccessCoversFailure runId os := by
  obtain ⟨run, hrun, rfl, hrunState⟩ := hrec.executing
  have hstate : ∀ os', os'.Perm os → (t.recordAll run.id os').runState run.id =
      some (Tally.settled (actionRequired run) (t.tallied run.id) os') := fun os' hp =>
    recordAll_runState hk hrun hrunState (hrec.perm hp)
  constructor
  -- an order in which the success comes last hides the failure
  · rintro hindependent ⟨other, hother, hid, hcover⟩
    obtain rfl : other = run := Table.key_injOn hk.runs hother hrun hid
    refine Tally.not_settles_of_covered hrec.closes hcover
      (Tally.settled (actionRequired other) (t.tallied other.id) os) fun os' hp => ?_
    obtain ⟨hsame, hclean⟩ := hindependent os' os hp (List.Perm.refl os)
    rw [hstate os' hp, hstate os (List.Perm.refl os)] at hsame
    have hsettled := Option.some.inj hsame
    refine ⟨hsettled, fun hdone x hx => ?_⟩
    rw [← hsettled] at hdone
    rw [← recordAll_states hk hrun hrunState (hrec.perm hp) hdone] at hx
    obtain ⟨target, htarget, rfl⟩ := List.mem_map.mp hx
    exact hclean _ (hstate os' hp) hdone target htarget
  -- all orders settle in the state that the tally gives
  · intro hcover os₁ os₂ hp₁ hp₂
    have hnot : ¬ Tally.SuccessCoversFailure (actionRequired run) (t.tallied run.id) os :=
      fun hc => hcover ⟨run, hrun, rfl, hc⟩
    obtain ⟨state, hsettles⟩ := Tally.settles_of_not_covered hrec.closes hnot
    refine ⟨?_, fun final hfinal hdone target htarget => ?_⟩
    · rw [hstate os₁ hp₁, hstate os₂ hp₂, (hsettles os₁ hp₁).1, (hsettles os₂ hp₂).1]
    · rw [hstate os₁ hp₁] at hfinal
      obtain rfl := Option.some.inj hfinal
      have hx := List.mem_map_of_mem (f := RunTargetRow.state) htarget
      rw [recordAll_states hk hrun hrunState (hrec.perm hp₁) hdone] at hx
      exact (hsettles os₁ hp₁).2 ((hsettles os₁ hp₁).1 ▸ hdone) _ hx

def pairStart : RunStart where
  runId := "run-1"
  jobId := "job-1"
  jobRevisionId := "job-1-r1"
  planId := "plan-1"
  planChecksum := "checksum"
  startedUtc := "2024-01-01T00:00:00.000Z"
  summary := [("executor_pending", .bool true), ("action_required", .bool true)]
  plannedOperations := 2
  plannedBytes := 20
  deferUntilRecoveryBound := false
  targets := [
    { targetOrdinal := 0, endpointId := "disk-a", endpointRevisionId := "disk-a-r1"
      requiredOwnerInstallationId := none, requiredOwnershipEpoch := none
      plannedOperations := 1, plannedBytes := 10 },
    { targetOrdinal := 1, endpointId := "disk-b", endpointRevisionId := "disk-b-r1"
      requiredOwnerInstallationId := none, requiredOwnershipEpoch := none
      plannedOperations := 1, plannedBytes := 10 }]

def leaseOf (leaseId : String) : RunLease :=
  { leaseId, ownerInstallationId := "host", ownershipEpoch := 1, fencingToken := 1 }

def startTarget (t : RunTables) (runId runTargetId : String) (lease : RunLease) :
    Option RunTables := do
  let claimed ← t.beginRunTargetPreflight runId runTargetId
  let leased ← claimed.recordRunTargetLeaseAcquired runId runTargetId lease
  leased.recordRunTargetExecutionStarted runId runTargetId lease

def executingPair : RunTables :=
  ((do
    let queued ← (RunTables.mk [] [] [] []).saveStartedRun pairStart
    let first ← queued.startTarget "run-1" "run-1-target-0000" (leaseOf "lease-a")
    first.startTarget "run-1" "run-1-target-0001" (leaseOf "lease-b")) :
      Option RunTables).getD ⟨[], [], [], []⟩

theorem executingPair_keyed : executingPair.Keyed where
  runs := by unfold Table.KeysUnique; decide
  targets := by unfold Table.KeysUnique; decide
  stops := by unfold Table.KeysUnique; decide

theorem executingPair_recordable {a b : Outcome}
    (ha : executingPair.targets.all fun target => a.fits target)
    (hb : executingPair.targets.all fun target => b.fits target) :
    executingPair.Recordable "run-1" [⟨"run-1-target-0000", a⟩, ⟨"run-1-target-0001", b⟩] where
  executing := by
    have h : executingPair.runStateIn "run-1" [.executing] = true := by decide
    simpa using runStateIn_iff.mp h
  once := by simp [Table.KeysUnique]
  fits := by
    have hfind : ∀ x ∈ ["run-1-target-0000", "run-1-target-0001"],
        (executingPair.loadTargets "run-1").any (fun target => target.id = x &&
          target.state = .executing) = true := by decide
    have hfound : ∀ x ∈ ["run-1-target-0000", "run-1-target-0001"],
        ∃ target ∈ executingPair.loadTargets "run-1", target.id = x ∧
          target.state = .executing := by
      intro x hx
      simpa using hfind x hx
    intro o ho
    rcases List.mem_pair.mp ho with rfl | rfl
    · obtain ⟨target, htarget, hid, hstate⟩ := hfound "run-1-target-0000" (by simp)
      exact ⟨target, htarget, hid, hstate,
        List.all_eq_true.mp ha target (mem_loadTargets.mp htarget).1⟩
    · obtain ⟨target, htarget, hid, hstate⟩ := hfound "run-1-target-0001" (by simp)
      exact ⟨target, htarget, hid, hstate,
        List.all_eq_true.mp hb target (mem_loadTargets.mp htarget).1⟩

def mixedOutcomes : List TargetOutcome :=
  [⟨"run-1-target-0000", .succeeded 1 10⟩,
    ⟨"run-1-target-0001", .cancelled "RUN_TARGET_PRESERVED_OLD_TARGET_RESTORED"⟩]

/-- Cancelled last the run is a partial failure, cancelled first it completes. -/
theorem mixedOutcomes_order_dependent : executingPair.Keyed ∧
    executingPair.Recordable "run-1" mixedOutcomes ∧
      ¬ executingPair.OrderIndependent "run-1" mixedOutcomes := by
  refine ⟨executingPair_keyed, executingPair_recordable (by decide) (by decide), fun h => ?_⟩
  have hsame := (h mixedOutcomes mixedOutcomes.reverse (List.Perm.refl _)
    (List.reverse_perm _)).1
  exact absurd hsame (by decide)

theorem two_successes_orderIndependent : executingPair.OrderIndependent "run-1"
    [⟨"run-1-target-0000", .succeeded 1 10⟩, ⟨"run-1-target-0001", .succeeded 1 10⟩] := by
  refine (orderIndependent_iff _ _ _ executingPair_keyed
    (executingPair_recordable (by decide) (by decide))).mpr ?_
  rintro ⟨run, -, -, -, -, -, -, state, hstate, hfailed⟩
  revert state
  decide

end RunTables

end MediaSync.Runs
