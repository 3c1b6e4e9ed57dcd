import MediaSync.CrossStore.Reconciliation
import MediaSync.Runs.StartSaga

/-! The coordinator's composite steps, and the reconciliation that the engine host makes when it
starts: it goes over the open handoffs and does what is left of each. -/
namespace MediaSync.Runs
open CrossStore Transition Text

/-- How `advance_run_start` ends, with what its transactions have committed by then. -/
inductive Advanced where
  | returned (s : SagaState)
  /-- The evidence differs: both records are marked, and the mismatch is raised. -/
  | mismatched (s : SagaState)
  | raised (s : SagaState)

namespace SagaState

variable (hash : RunStartPayload → String) (s : SagaState)

def markAmbiguous (runId : String) : Option SagaState :=
  (s.start.markAmbiguous hash runId false).map fun marked => { s with start := marked }

/-- `complete_run_start` on matching evidence. -/
def completeRunStart (runId : String) : Advanced :=
  match s.start.matchingHandoffs hash runId with
  | none => .raised s
  | some (source, peer) =>
    if source.state = .completed then
      if peer.state = .completed then .returned s else .raised s
    else
      let acknowledged :=
        ((s.start.completePeer hash runId).map fun start => { s with start }).getD s
      match acknowledged.start.completeSource hash runId with
      | some completed => .returned { acknowledged with start := completed }
      | none => .raised acknowledged

def advanceRunStart (runId : String) : Advanced :=
  match s.commitRecoveryPeer hash runId with
  | none => .raised s
  | some committed =>
    match committed.markAmbiguous hash runId with
    | some marked => .mismatched marked
    | none =>
      match committed.confirmCatalogSource hash runId with
      | none => .raised committed
      | some confirmed =>
        match confirmed.markAmbiguous hash runId with
        | some marked => .mismatched marked
        | none => confirmed.completeRunStart hash runId

end SagaState

namespace SagaState

variable (hash : RunStartPayload → String) (s : SagaState)

/-- One turn of the loop of `reconcile_pending`. -/
def reconcileHandoff (handoffId : String) : Reconciled SagaState :=
  let peer := loadHandoff s.start.peers handoffId
  let diverged :=
    ((s.start.reconcileDiverged handoffId).map fun start => { s with start }).getD s
  match loadHandoff s.start.sources handoffId with
  | none => .ambiguous diverged
  | some source =>
    if source.state = .ambiguous || peer.any (fun peer => peer.state = .ambiguous) then
      .ambiguous s
    else if source.state = .completed then
      if peer.any (fun peer => peer.state = .completed) then .settled else .ambiguous diverged
    else
      match s.advanceRunStart hash source.evidence.entityId with
      | .returned advanced => .completed advanced
      | .mismatched marked => .ambiguous marked
      | .raised reached => .raised reached

/-- The handoffs that `reconcile_pending` looks at. -/
def candidateIds (updatedUtc : String → String) (limit : Nat) : List String :=
  CrossStore.candidateIds updatedUtc "RUN_START" "CATALOG_TO_RECOVERY" limit s.start.sources
    s.start.peers

def reconcilePending (updatedUtc : String → String) (limit : Nat) :
    SagaState × Option ReconciliationReport :=
  CrossStore.reconcilePending (fun handoffId s => s.reconcileHandoff hash handoffId)
    (s.candidateIds updatedUtc limit) limit s

def openSources : List RunStartHandoff := openHandoffs s.start.sources

end SagaState

open StartState

section
variable {hash : RunStartPayload → String} {s s' : SagaState} {label : SagaLabel} {r : String}

theorem start_forward {start start' : StartState} {action : StartLabel}
    (h : StartInvariant hash start) (hstep : (runStart hash).step start action = some start') :
    MovesForward start.sources start'.sources ∧ MovesForward start.peers start'.peers := by
  cases action with
  | startRun run receiptId transition =>
    simp only [runStart, startRun] at hstep
    split at hstep
    · cases hstep
    · obtain ⟨_, rows, _, -, rfl, hrecord⟩ := prepareRunStart_spec hstep
      exact ⟨recordHandoff_forward hrecord, .refl _⟩
  | prepareRunStart runId receiptId transition =>
    obtain ⟨_, rows, _, -, rfl, hrecord⟩ := prepareRunStart_spec hstep
    exact ⟨recordHandoff_forward hrecord, .refl _⟩
  -- the peer is recorded beside its binding, the sources stay
  | commitRecoveryPeer runId =>
    simp only [runStart, StartState.commitRecoveryPeer, bind, Option.bind_eq_some_iff] at hstep
    obtain ⟨source, -, hif⟩ := hstep
    split at hif
    · simp only [Option.bind_eq_some_iff] at hif
      obtain ⟨binding, -, ⟨bindings, peers⟩, hcommit, heq⟩ := hif
      obtain rfl := Option.some.inj heq
      obtain ⟨-, -, recorded, hrecord⟩ := commitRunStartPeer_rows hcommit
      exact ⟨.refl _, recordHandoff_forward hrecord⟩
    · cases hif
  -- the source moves when the run is released; a second confirmation changes no row
  | confirmCatalogSource runId accepted =>
    simp only [runStart, StartState.confirmCatalogSource, bind, Option.bind_eq_some_iff] at hstep
    obtain ⟨⟨source, peer⟩, -, hif⟩ := hstep
    dsimp only at hif
    split at hif
    · cases hif
    · obtain ⟨confirmed, hrelease, hreceipt⟩ := Option.bind_eq_some_iff.mp hif
      split at hreceipt
      · cases hreceipt
      · obtain rfl := Option.some.inj hreceipt
        unfold releasePrepared at hrelease
        split at hrelease
        · simp only [bind, Option.bind_eq_some_iff] at hrelease
          obtain ⟨tables, -, run, -, hrest⟩ := hrelease
          split at hrest
          · cases hrest
          · obtain ⟨⟨rows, recorded⟩, htransition, heq⟩ := Option.bind_eq_some_iff.mp hrest
            obtain rfl := Option.some.inj heq
            exact ⟨transitionHandoff_forward h.handoffs.uniqueSources htransition, .refl _⟩
        · obtain rfl := Option.some.inj hrelease
          exact ⟨.refl _, .refl _⟩
  | completePeer runId =>
    simp only [runStart, completePeer, bind, Option.bind_eq_some_iff] at hstep
    obtain ⟨⟨source, peer⟩, -, hif⟩ := hstep
    dsimp only at hif
    split at hif
    · obtain ⟨⟨rows, recorded⟩, htransition, heq⟩ := Option.bind_eq_some_iff.mp hif
      obtain rfl := Option.some.inj heq
      exact ⟨.refl _, transitionHandoff_forward h.handoffs.uniquePeers htransition⟩
    · cases hif
  | completeSource runId =>
    simp only [runStart, completeSource, bind, Option.bind_eq_some_iff] at hstep
    obtain ⟨⟨source, peer⟩, -, hif⟩ := hstep
    dsimp only at hif
    split at hif
    · obtain ⟨⟨rows, recorded⟩, htransition, heq⟩ := Option.bind_eq_some_iff.mp hif
      obtain rfl := Option.some.inj heq
      exact ⟨transitionHandoff_forward h.handoffs.uniqueSources htransition, .refl _⟩
    · cases hif
  -- no reachable state offers the two ambiguous steps
  | markAmbiguous runId crashed =>
    rw [show (runStart hash).step start (.markAmbiguous runId crashed) = none from
      markAmbiguous_none h.handoffs crashed] at hstep
    cases hstep
  | reconcileDiverged handoffId =>
    rw [show (runStart hash).step start (.reconcileDiverged handoffId) = none from
      reconcileDiverged_none h.handoffs handoffId] at hstep
    cases hstep
  | executor action =>
    simp only [runStart] at hstep
    split at hstep
    · cases hstep
    · obtain ⟨e, -, rfl⟩ := Option.map_eq_some_iff.mp hstep
      exact ⟨.refl _, .refl _⟩

theorem saga_step_start (hstep : (startSaga hash).step s label = some s') :
    s'.start = s.start ∨ ∃ action, (runStart hash).step s.start action = some s'.start := by
  cases label with
  | dispatchStartRun received start =>
    simp only [startSaga, SagaState.dispatchStartRun] at hstep
    split at hstep
    · simp only [bind, Option.bind_eq_some_iff] at hstep
      obtain ⟨commands, -, started, hstart, heq⟩ := hstep
      obtain rfl := Option.some.inj heq
      exact .inr ⟨.startRun _ _ _, hstart⟩
    · cases hstep
  | dispatchExistingRun received runId receiptId =>
    simp only [startSaga, SagaState.dispatchExistingRun] at hstep
    split at hstep
    · simp only [bind, Option.bind_eq_some_iff] at hstep
      obtain ⟨commands, -, prepared, hprepare, heq⟩ := hstep
      obtain rfl := Option.some.inj heq
      exact .inr ⟨.prepareRunStart _ _ _, hprepare⟩
    · cases hstep
  | startTriggeredRun start receiptId =>
    simp only [startSaga, SagaState.startTriggeredRun] at hstep
    split at hstep
    · obtain ⟨started, hstart, rfl⟩ := Option.map_eq_some_iff.mp hstep
      exact .inr ⟨.startRun _ _ _, hstart⟩
    · cases hstep
  | prepareTriggeredRun runId receiptId =>
    obtain ⟨prepared, hprepare, rfl⟩ := Option.map_eq_some_iff.mp hstep
    exact .inr ⟨.prepareRunStart _ _ _, hprepare⟩
  | commitRecoveryPeer runId =>
    simp only [startSaga, SagaState.commitRecoveryPeer, bind, Option.bind_eq_some_iff] at hstep
    obtain ⟨source, -, binding, -, hif⟩ := hstep
    split at hif
    · obtain ⟨start, hcommit, rfl⟩ := Option.map_eq_some_iff.mp hif
      exact .inr ⟨.commitRecoveryPeer _, hcommit⟩
    · cases hif
  | confirmCatalogSource runId =>
    simp only [startSaga, SagaState.confirmCatalogSource, bind, Option.bind_eq_some_iff] at hstep
    obtain ⟨start, hconfirm, source, -, commands, -, heq⟩ := hstep
    obtain rfl := Option.some.inj heq
    exact .inr ⟨.confirmCatalogSource _ _, hconfirm⟩
  | completePeer runId =>
    obtain ⟨start, hcomplete, rfl⟩ := Option.map_eq_some_iff.mp hstep
    exact .inr ⟨.completePeer _, hcomplete⟩
  | completeSource runId =>
    obtain ⟨start, hcomplete, rfl⟩ := Option.map_eq_some_iff.mp hstep
    exact .inr ⟨.completeSource _, hcomplete⟩
  | markAmbiguous runId crashed =>
    obtain ⟨start, hmark, rfl⟩ := Option.map_eq_some_iff.mp hstep
    exact .inr ⟨.markAmbiguous _ _, hmark⟩
  | reconcileDiverged handoffId =>
    obtain ⟨start, hmark, rfl⟩ := Option.map_eq_some_iff.mp hstep
    exact .inr ⟨.reconcileDiverged _, hmark⟩
  -- the steps on commands alone leave the start as it is
  | recordReceipt received =>
    simp only [startSaga] at hstep
    split at hstep
    · obtain ⟨recorded, -, rfl⟩ := Option.map_eq_some_iff.mp hstep
      exact .inl rfl
    · cases hstep
  | moveReceipt key next entityType entityId =>
    simp only [startSaga, SagaState.moveReceipt] at hstep
    split at hstep
    · cases hstep
    · simp only [bind, Option.bind_eq_some_iff] at hstep
      obtain ⟨receipt, -, moved, -, heq⟩ := hstep
      obtain rfl := Option.some.inj heq
      exact .inl rfl
  | enqueueEffect key =>
    simp only [startSaga, SagaState.enqueueEffect, bind, Option.bind_eq_some_iff] at hstep
    obtain ⟨receipt, -, message, -, outbox, -, heq⟩ := hstep
    obtain rfl := Option.some.inj heq
    exact .inl rfl
  | executor action =>
    obtain ⟨start, haction, rfl⟩ := Option.map_eq_some_iff.mp hstep
    exact .inr ⟨.executor _, haction⟩

/-- The handoffs of both stores in `s` have moved forward in `s'`. -/
def HandoffsForward (s s' : SagaState) : Prop :=
  MovesForward s.start.sources s'.start.sources ∧ MovesForward s.start.peers s'.start.peers

theorem saga_step_forward (h : SagaInvariant hash s)
    (hstep : (startSaga hash).step s label = some s') : HandoffsForward s s' := by
  rcases saga_step_start hstep with hsame | ⟨action, haction⟩
  · unfold HandoffsForward
    rw [hsame]
    exact ⟨.refl _, .refl _⟩
  · exact start_forward h.start haction

theorem saga_run_forward (hreach : (startSaga hash).Reachable s)
    (hleads : (startSaga hash).Leads s s') : HandoffsForward s s' := by
  induction hleads with
  | refl => exact ⟨.refl _, .refl _⟩
  | @tail middle last hmiddle hlast ih =>
    obtain ⟨label, hstep⟩ := hlast
    have hforward := saga_step_forward
      (sagaInvariant_reachable (System.Leads.reachable hreach hmiddle)) hstep
    exact ⟨ih.1.trans hforward.1, ih.2.trans hforward.2⟩

theorem any_ne_space {text : String} (h : nonBlank text = true) :
    text.toList.any (· ≠ ' ') = true := by
  obtain ⟨c, hc, hspace⟩ := List.any_eq_true.mp h
  refine List.any_eq_true.mpr ⟨c, hc, ?_⟩
  rw [decide_eq_true_eq]
  rintro rfl
  revert hspace
  decide

variable {source : RunStartHandoff}

theorem binding_of_starts {run : RunRow} (hsealed : run.Sealed) (hstarts : Starts source run) :
    recoveryRunBindingFromHandoff source.evidence = some run.binding ∧
      run.binding.accepted = true := by
  obtain ⟨htexts, hchecksum⟩ := hsealed
  simp only [nonEmpty, List.all_cons, List.all_nil, Bool.and_true, Bool.and_eq_true] at htexts
  obtain ⟨hrun, hjob, hrevision, hplan⟩ := htexts
  have hchecksumText : nonBlank run.planChecksum = true := by
    simp only [isHash, Bool.and_eq_true, beq_iff_eq] at hchecksum
    cases htext : run.planChecksum.toList with
    | nil => simp [htext] at hchecksum
    | cons c rest =>
      refine List.any_eq_true.mpr ⟨c, htext ▸ List.mem_cons_self, ?_⟩
      have hhex : isLowerHex c = true :=
        List.all_eq_true.mp hchecksum.2 c (htext ▸ List.mem_cons_self)
      simp only [isLowerHex, isSpace, Char.le_def, Bool.or_eq_true, Bool.and_eq_true,
        decide_eq_true_eq, Bool.not_eq_true', Bool.or_eq_false_iff, Bool.and_eq_false_iff,
        UInt32.le_iff_toNat_le, Char.toNat] at hhex ⊢
      simp at hhex ⊢
      omega
  have hpayload := hstarts.describes.payload
  simp only [RunRow.identity, Prod.mk.injEq] at hpayload
  obtain ⟨h1, h2, h3, h4, h5⟩ := hpayload
  constructor
  · unfold recoveryRunBindingFromHandoff
    simp only [h1, h2, h3, h4, h5, hrun, hjob, hrevision, hplan, hchecksumText, hstarts.entity,
      decide_true, Bool.and_true, if_true, RunRow.binding, hstarts.describes.id]
  · simp only [RecoveryRunBinding.accepted, RunRow.binding, List.all_cons, List.all_nil,
      any_ne_space hjob, any_ne_space hrevision, any_ne_space hplan, hchecksum, Bool.and_self]

theorem bindRecoveryRun_ready (h : SagaInvariant hash s) {run : RunRow}
    (hrun : run ∈ s.start.executor.tables.runs) (hstarts : Starts source run) :
    ∃ bindings, bindRecoveryRun s.start.bindings run.binding = some bindings := by
  -- every stored binding is the binding of its run
  have hstored : ∀ row ∈ s.start.bindings, ∃ other ∈ s.start.executor.tables.runs,
      row = other.binding := by
    intro row hrow
    obtain ⟨otherSource, hother, hread⟩ := h.bindings row hrow
    obtain ⟨other, hotherRun, hotherStarts⟩ := h.sources otherSource hother
    exact ⟨other, hotherRun, hotherStarts.describes.binding hread⟩
  unfold bindRecoveryRun
  cases hload : Table.lookup RecoveryRunBinding.runId s.start.bindings run.binding.runId with
  | some existing =>
    obtain ⟨other, hother, rfl⟩ := hstored existing (Table.lookup_mem hload)
    have hid : other.binding.runId = run.binding.runId := Table.lookup_key hload
    obtain rfl := Table.key_injOn h.start.keyed.runs hother hrun hid
    exact ⟨_, if_neg (by simp)⟩
  | none =>
    have hfresh : ¬ s.start.bindings.any
        (fun row => row.startHandoffId = run.binding.startHandoffId) = true := by
      intro hany
      obtain ⟨row, hrow, hsame⟩ := List.any_eq_true.mp hany
      obtain ⟨other, -, rfl⟩ := hstored row hrow
      exact Table.lookup_none_iff.mp hload _ hrow
        (runStartHandoffId_injective (of_decide_eq_true hsame))
    exact ⟨_, if_neg hfresh⟩

theorem commitRecoveryPeer_ready (h : SagaInvariant hash s) (hsource : source ∈ s.start.sources)
    (hid : source.id = runStartHandoffId r) :
    ∃ s', s.commitRecoveryPeer hash r = some s' ∧ s'.start.sources = s.start.sources ∧
      ∃ peer ∈ s'.start.peers, peer.evidence = source.evidence := by
  obtain ⟨run, hrun, hstarts⟩ := h.sources source hsource
  obtain ⟨hread, haccepted⟩ := binding_of_starts (h.isSealed run hrun) hstarts
  obtain ⟨bindings, hbind⟩ := bindRecoveryRun_ready h hrun hstarts
  have hload := loadHandoff_of_mem h.start.handoffs.uniqueSources hsource hid
  have hdecodes := h.start.handoffs.decoded source hsource
  have hassert : isSourceRunStartHandoff hash source = true := by
    obtain ⟨htype, hdirection, hentity⟩ := hstarts.kind
    simp only [isSourceRunStartHandoff, htype, hdirection, hentity, decide_true, Bool.true_and,
      hdecodes, Bool.and_true]
    exact List.contains_iff_mem.mpr hstarts.state
  -- a stored peer of the source has its evidence and is committed or completed
  have hrecord : ∃ peers peer, recordHandoff hash s.start.peers
      { source with state := .peerCommitted, expectedPeerState := .sourceConfirmed } =
        some (peers, peer) := by
    unfold recordHandoff
    rw [if_neg (by simp [hdecodes])]
    cases hpeer : loadHandoff s.start.peers source.id with
    | none => exact ⟨_, _, by
        rw [show CrossStoreHandoff.id { source with
          state := .peerCommitted, expectedPeerState := .sourceConfirmed } = source.id from rfl,
          hpeer]⟩
    | some existing =>
      have hexisting := Table.lookup_mem hpeer
      have heq := evidence_eq h.start.handoffs hsource hexisting (Table.lookup_key hpeer)
      refine ⟨s.start.peers, existing, ?_⟩
      rw [show CrossStoreHandoff.id { source with
        state := .peerCommitted, expectedPeerState := .sourceConfirmed } = source.id from rfl,
        hpeer]
      dsimp only
      have hreplayed : ∀ state : HandoffState, state ∈ [.peerCommitted, .completed] →
          ¬ (decide (state ≠ .peerCommitted) && !terminalHandoffStates.contains state) = true := by
        intro state
        cases state <;> decide
      rw [mismatch_none_iff.mpr ⟨heq.symm, heq ▸ hdecodes⟩, if_neg (by simp),
        if_neg (hreplayed _ (h.start.handoffs.peerStates existing hexisting))]
  obtain ⟨peers, peer, hrecord⟩ := hrecord
  obtain ⟨-, hevidence, hmem, -⟩ := recordHandoff_rows hrecord
  have hcommit : commitRunStartPeer hash s.start.bindings s.start.peers run.binding
      { source with state := .peerCommitted, expectedPeerState := .sourceConfirmed } =
        some (bindings, peers) := by
    simp only [commitRunStartPeer, bind, hbind, hrecord, Option.bind_some]
  refine ⟨{ s with start := { s.start with bindings, peers } }, ?_, rfl, peer, hmem, hevidence⟩
  simp only [SagaState.commitRecoveryPeer, StartState.commitRecoveryPeer, bind, hload, hread,
    haccepted, hassert, hcommit, Option.bind_some, if_true, Option.map_some]

def SagaState.Settled (s : SagaState) (handoffId : String) : Prop :=
  (∃ source ∈ s.start.sources, source.id = handoffId ∧ source.state = .completed) ∧
    ∃ peer ∈ s.start.peers, peer.id = handoffId ∧ peer.state = .completed

/-- The steps of the saga that settle one handoff. -/
structure Settles (hash : RunStartPayload → String) (s : SagaState) (handoffId : String)
    (s' : SagaState) : Prop where
  leads : (startSaga hash).Leads s s'
  settled : s'.Settled handoffId
  ids : s'.start.sources.map CrossStoreHandoff.id = s.start.sources.map CrossStoreHandoff.id

theorem completeSource_ready (h : SagaInvariant hash s) {source peer : RunStartHandoff}
    (hsource : source ∈ s.start.sources) (hpeer : peer ∈ s.start.peers)
    (hid : source.id = runStartHandoffId r) (heq : peer.evidence = source.evidence)
    (hconfirmed : source.state = .sourceConfirmed) (hcompleted : peer.state = .completed) :
    ∃ start, s.start.completeSource hash r = some start ∧
      Settles hash s source.id { s with start } := by
  obtain ⟨updated, htransition, hevidence, hstate⟩ := transitionHandoff_of_mem
    .completed h.start.handoffs.uniqueSources hsource hconfirmed (by decide) (by decide)
  have hupdatedId : updated.id = source.id := congrArg HandoffEvidence.handoffId hevidence
  have hcomplete : s.start.completeSource hash r = some { s.start with
      sources := Table.overwrite CrossStoreHandoff.id s.start.sources updated } := by
    simp only [completeSource, bind, matchingHandoffs_of_mem h.start.handoffs hsource hpeer hid heq,
      Option.bind_some, hconfirmed, hcompleted, and_self, if_true, htransition]
  have hstep : (startSaga hash).step s (.completeSource r) = some { s with start := { s.start with
      sources := Table.overwrite CrossStoreHandoff.id s.start.sources updated } } := by
    simp only [startSaga, hcomplete, Option.map_some]
  exact ⟨_, hcomplete, System.Leads.head hstep .refl,
    ⟨⟨updated, Table.mem_overwrite_self hsource hupdatedId.symm, hupdatedId, hstate⟩, peer, hpeer,
      congrArg HandoffEvidence.handoffId heq, hcompleted⟩, Table.map_key_overwrite⟩

theorem completeRunStart_ready (h : SagaInvariant hash s) {source peer : RunStartHandoff}
    (hsource : source ∈ s.start.sources) (hpeer : peer ∈ s.start.peers)
    (hid : source.id = runStartHandoffId r) (heq : peer.evidence = source.evidence)
    (hconfirmed : source.state = .sourceConfirmed) :
    ∃ s', s.completeRunStart hash r = .returned s' ∧ Settles hash s source.id s' := by
  have hmatching := matchingHandoffs_of_mem h.start.handoffs hsource hpeer hid heq
  unfold SagaState.completeRunStart
  rw [hmatching]
  dsimp only
  rw [if_neg (by simp [hconfirmed])]
  have hpeerState := h.start.handoffs.peerStates peer hpeer
  rw [List.mem_pair] at hpeerState
  rcases hpeerState with hcommitted | hcompleted
  · -- both halves are still to be done
    obtain ⟨updated, htransition, hevidence, hstate⟩ := transitionHandoff_of_mem
      .completed h.start.handoffs.uniquePeers hpeer hcommitted (by decide) (by decide)
    have hcompletePeer : s.start.completePeer hash r = some { s.start with
        peers := Table.overwrite CrossStoreHandoff.id s.start.peers updated } := by
      simp only [completePeer, bind, hmatching, Option.bind_some, hconfirmed, hcommitted, and_self,
        if_true, htransition]
    have hupdated : updated ∈ Table.overwrite CrossStoreHandoff.id s.start.peers updated :=
      Table.mem_overwrite_self hpeer (congrArg HandoffEvidence.handoffId hevidence).symm
    obtain ⟨start, hcompleteSource, hsettles⟩ := completeSource_ready
      (completePeer_invariant h hcompletePeer) hsource hupdated hid (hevidence.trans heq)
      hconfirmed hstate
    have hfirst : (startSaga hash).step s (.completePeer r) = some { s with start := { s.start with
        peers := Table.overwrite CrossStoreHandoff.id s.start.peers updated } } := by
      simp only [startSaga, hcompletePeer, Option.map_some]
    rw [hcompletePeer]
    dsimp only [Option.map_some, Option.getD_some]
    rw [hcompleteSource]
    exact ⟨_, rfl, System.Leads.head hfirst hsettles.leads, hsettles.settled, hsettles.ids⟩
  · obtain ⟨start, hcompleteSource, hsettles⟩ :=
      completeSource_ready h hsource hpeer hid heq hconfirmed hcompleted
    have hcompletePeer : s.start.completePeer hash r = none := by
      simp [completePeer, bind, hmatching, hcompleted]
    rw [hcompletePeer]
    dsimp only [Option.map_none, Option.getD_none]
    rw [hcompleteSource]
    exact ⟨_, rfl, hsettles⟩

theorem advanceRunStart_completes (h : SagaInvariant hash s) (hsource : source ∈ s.start.sources)
    (hopen : source.state ≠ .completed) :
    ∃ s', s.advanceRunStart hash source.evidence.entityId = .returned s' ∧
      Settles hash s source.id s' := by
  obtain ⟨run, hrun, hstarts⟩ := h.sources source hsource
  have hid : source.id = runStartHandoffId source.evidence.entityId := by
    rw [hstarts.entity]
    exact hstarts.describes.id
  obtain ⟨committed, hcommit, hsources, peer, hpeer, heq⟩ := commitRecoveryPeer_ready h hsource hid
  have hcommitted := commitRecoveryPeer_invariant h hcommit
  obtain ⟨confirmed, hconfirm, hspec⟩ :=
    confirmCatalogSource_spec hcommitted (hsources.symm ▸ hsource) hpeer hid heq
  obtain ⟨kept, hkept, hkeptEvidence, hkeptState⟩ := hspec.source
  have hconfirmedState : kept.state = .sourceConfirmed := by
    have hstates : ∀ state : HandoffState, state ≠ .completed →
        state ∈ [HandoffState.prepared, .sourceConfirmed, .completed] →
          (if state = .prepared then HandoffState.sourceConfirmed else state) =
            .sourceConfirmed := by
      intro state
      cases state <;> decide
    rw [hkeptState]
    exact hstates _ hopen hstarts.state
  have hkeptId : kept.id = source.id := congrArg HandoffEvidence.handoffId hkeptEvidence
  obtain ⟨completed, hcomplete, hsettles⟩ := completeRunStart_ready hspec.invariant hkept
    (hspec.peers.symm ▸ hpeer) (hkeptId.trans hid) (heq.trans hkeptEvidence.symm) hconfirmedState
  have hfirst : (startSaga hash).step s (.commitRecoveryPeer source.evidence.entityId) =
      some committed := hcommit
  have hsecond : (startSaga hash).step committed (.confirmCatalogSource source.evidence.entityId) =
      some confirmed := hconfirm
  have hids : completed.start.sources.map CrossStoreHandoff.id =
      s.start.sources.map CrossStoreHandoff.id := by
    rw [hsettles.ids, hspec.ids, hsources]
  refine ⟨completed, ?_, System.Leads.head hfirst (System.Leads.head hsecond hsettles.leads),
    hkeptId ▸ hsettles.settled, hids⟩
  unfold SagaState.advanceRunStart
  rw [hcommit]
  dsimp only [SagaState.markAmbiguous]
  rw [markAmbiguous_none hcommitted.start.handoffs]
  dsimp only [Option.map_none]
  rw [hconfirm]
  dsimp only
  rw [markAmbiguous_none hspec.invariant.start.handoffs]
  exact hcomplete

variable {handoffId : String}

theorem SagaState.Settled.leads (hreach : (startSaga hash).Reachable s)
    (hleads : (startSaga hash).Leads s s') (h : s.Settled handoffId) : s'.Settled handoffId := by
  obtain ⟨⟨source, hsource, hsourceId, hsourceState⟩, peer, hpeer, hpeerId, hpeerState⟩ := h
  have hforward := saga_run_forward hreach hleads
  obtain ⟨kept, hkept, hevidence, hmoved, -⟩ := hforward.1 source hsource
  obtain ⟨keptPeer, hkeptPeer, hpeerEvidence, hpeerMoved, -⟩ := hforward.2 peer hpeer
  rw [hsourceState] at hmoved
  rw [hpeerState] at hpeerMoved
  exact ⟨⟨kept, hkept, (congrArg HandoffEvidence.handoffId hevidence).trans hsourceId,
    hmoved.of_completed⟩, keptPeer, hkeptPeer,
    (congrArg HandoffEvidence.handoffId hpeerEvidence).trans hpeerId, hpeerMoved.of_completed⟩

theorem reconcileHandoff_ready (h : SagaInvariant hash s) (hsource : source ∈ s.start.sources) :
    s.reconcileHandoff hash source.id = .settled ∧ s.Settled source.id ∨
      ∃ s', s.reconcileHandoff hash source.id = .completed s' ∧ Settles hash s source.id s' := by
  obtain ⟨run, -, hstarts⟩ := h.sources source hsource
  -- neither record is AMBIGUOUS
  have hsourceState : source.state ≠ .ambiguous := by
    intro hambiguous
    have hstate := hstarts.state
    rw [hambiguous] at hstate
    revert hstate
    decide
  have hpeerState : (loadHandoff s.start.peers source.id).any
      (fun peer => peer.state = .ambiguous) = false := by
    refine Bool.eq_false_iff.mpr fun hany => ?_
    obtain ⟨peer, hload, hambiguous⟩ := (Option.any_eq_true _ _).mp hany
    have hstate := h.start.handoffs.peerStates peer (Table.lookup_mem hload)
    rw [of_decide_eq_true hambiguous] at hstate
    revert hstate
    decide
  unfold SagaState.reconcileHandoff
  rw [loadHandoff_of_mem h.start.handoffs.uniqueSources hsource rfl]
  dsimp only
  rw [if_neg (by simp [hsourceState, hpeerState])]
  by_cases hcompleted : source.state = .completed
  · obtain ⟨peer, hpeer, hpeerId, hpeerCompleted⟩ :=
      h.start.handoffs.completed source hsource hcompleted
    refine .inl ⟨?_, ⟨source, hsource, rfl, hcompleted⟩, peer, hpeer, hpeerId, hpeerCompleted⟩
    rw [if_pos hcompleted, loadHandoff_of_mem h.start.handoffs.uniquePeers hpeer hpeerId,
      if_pos (by simp [hpeerCompleted])]
  · obtain ⟨advanced, hadvance, hsettles⟩ := advanceRunStart_completes h hsource hcompleted
    refine .inr ⟨advanced, ?_, hsettles⟩
    rw [if_neg hcompleted, hadvance]

theorem reconcileHandoff_settled (h : SagaInvariant hash s) (hsettled : s.Settled handoffId) :
    s.reconcileHandoff hash handoffId = .settled := by
  obtain ⟨⟨source, hsource, rfl, hstate⟩, -⟩ := hsettled
  obtain ⟨peer, hpeer, hpeerId, hpeerState⟩ := h.start.handoffs.completed source hsource hstate
  unfold SagaState.reconcileHandoff
  rw [loadHandoff_of_mem h.start.handoffs.uniqueSources hsource rfl,
    loadHandoff_of_mem h.start.handoffs.uniquePeers hpeer hpeerId]
  simp [hstate, hpeerState]

theorem completesEach : CompletesEach (fun handoffId s => s.reconcileHandoff hash handoffId)
    (startSaga hash).Reachable
    (fun s s' => (startSaga hash).Leads s s' ∧ s'.start.sources.map CrossStoreHandoff.id =
      s.start.sources.map CrossStoreHandoff.id)
    (fun s handoffId => handoffId ∈ s.start.sources.map CrossStoreHandoff.id)
    SagaState.Settled where
  refl _ := ⟨.refl, rfl⟩
  trans hab hbc := ⟨hab.1.trans hbc.1, hbc.2.trans hab.2⟩
  good hs hstep := System.Leads.reachable hs hstep.1
  known hknown hstep := hstep.2 ▸ hknown
  settled hs hstep hsettled := hsettled.leads hs hstep.1
  turn := by
    intro s handoffId hs hknown
    obtain ⟨source, hsource, rfl⟩ := List.mem_map.mp hknown
    rcases reconcileHandoff_ready (sagaInvariant_reachable hs) hsource with
      hsettled | ⟨next, hturn, hsettles⟩
    · exact .inl hsettled
    · exact .inr ⟨next, hturn, ⟨hsettles.leads, hsettles.ids⟩, hsettles.settled⟩

variable {updatedUtc : String → String} {limit : Nat}

theorem candidate_source (h : SagaInvariant hash s)
    (hid : handoffId ∈ s.candidateIds updatedUtc limit) :
    handoffId ∈ s.start.sources.map CrossStoreHandoff.id := by
  obtain ⟨handoff, hsource | hpeer, rfl⟩ := mem_of_candidate hid
  · exact List.mem_map_of_mem hsource
  · obtain ⟨source, hsource, hevidence⟩ := h.start.handoffs.sourced handoff hpeer
    exact List.mem_map.mpr ⟨source, hsource, congrArg HandoffEvidence.handoffId hevidence⟩

theorem openSource_candidate (h : SagaInvariant hash s) (hfits : s.openSources.length ≤ limit)
    (hsource : source ∈ s.start.sources) (hopen : source.state ≠ .completed) :
    source.id ∈ s.candidateIds updatedUtc limit := by
  obtain ⟨run, -, hstarts⟩ := h.sources source hsource
  have haborted : source.state ≠ .aborted := by
    intro haborted
    have hstate := hstarts.state
    rw [haborted] at hstate
    revert hstate
    decide
  exact open_candidate hfits hsource hstarts.kind.1 hstarts.kind.2.1 haborted hopen

theorem SagaState.Settled.kept (hreach : (startSaga hash).Reachable s)
    (hleads : (startSaga hash).Leads s s') (h : s.Settled handoffId) :
    (∀ source ∈ s.start.sources, source.id = handoffId → source ∈ s'.start.sources) ∧
      ∀ peer ∈ s.start.peers, peer.id = handoffId → peer ∈ s'.start.peers := by
  have hinv := sagaInvariant_reachable hreach
  have hforward := saga_run_forward hreach hleads
  obtain ⟨⟨source, hsource, rfl, hstate⟩, peer, hpeer, hpeerId, hpeerState⟩ := h
  constructor
  · intro other hother hid
    obtain rfl := Table.key_injOn hinv.start.handoffs.uniqueSources hother hsource hid
    obtain ⟨kept, hkept, -, hmoved, hsame⟩ := hforward.1 other hother
    rw [hstate] at hmoved hsame
    exact hsame hmoved.of_completed ▸ hkept
  · intro other hother hid
    obtain rfl := Table.key_injOn hinv.start.handoffs.uniquePeers hother hpeer
      (hid.trans hpeerId.symm)
    obtain ⟨kept, hkept, -, hmoved, hsame⟩ := hforward.2 other hother
    rw [hpeerState] at hmoved hsame
    exact hsame hmoved.of_completed ▸ hkept

theorem reconcilePending_completes (hreach : (startSaga hash).Reachable s)
    (updatedUtc : String → String) (hlimit : 1 ≤ limit ∧ limit ≤ 1000) :
    ∃ s' report, s.reconcilePending hash updatedUtc limit = (s', some report) ∧
      (startSaga hash).Leads s s' ∧ report.scanned = s.candidateIds updatedUtc limit ∧
        report.ambiguous = [] ∧ (∀ handoffId ∈ report.scanned, s'.Settled handoffId) ∧
          s'.start.sources.map CrossStoreHandoff.id =
            s.start.sources.map CrossStoreHandoff.id := by
  obtain ⟨s', completed, hloop, ⟨hleads, hids⟩, hsettled⟩ := reconcileEach_completes
    completesEach hreach (s.candidateIds updatedUtc limit) [] []
    fun _ hid => candidate_source (sagaInvariant_reachable hreach) hid
  refine ⟨s', ⟨s.candidateIds updatedUtc limit, completed, []⟩, ?_, hleads, rfl, rfl,
    hsettled, hids⟩
  unfold SagaState.reconcilePending CrossStore.reconcilePending
  rw [if_neg (by omega)]
  dsimp only
  rw [hloop]
  rfl

theorem reconcilePending_leads (hreach : (startSaga hash).Reachable s)
    (updatedUtc : String → String) (limit : Nat) :
    (startSaga hash).Leads s (s.reconcilePending hash updatedUtc limit).1 := by
  by_cases hlimit : 1 ≤ limit ∧ limit ≤ 1000
  · obtain ⟨s', report, hpending, hleads, -⟩ :=
      reconcilePending_completes hreach updatedUtc hlimit
    rw [hpending]
    exact hleads
  · unfold SagaState.reconcilePending CrossStore.reconcilePending
    rw [if_pos (by omega)]
    exact .refl

theorem reconcilePending_idle (h : SagaInvariant hash s)
    (hclosed : ∀ source ∈ s.start.sources, source.state = .completed)
    (updatedUtc : String → String) (limit : Nat) :
    (s.reconcilePending hash updatedUtc limit).1 = s := by
  unfold SagaState.reconcilePending CrossStore.reconcilePending
  split
  · rfl
  · dsimp only
    rw [reconcileEach_settled]
    intro handoffId hid
    obtain ⟨source, hsource, rfl⟩ := List.mem_map.mp (candidate_source h hid)
    have hcompleted := hclosed source hsource
    obtain ⟨peer, hpeer, hpeerId, hpeerState⟩ :=
      h.start.handoffs.completed source hsource hcompleted
    exact reconcileHandoff_settled h
      ⟨⟨source, hsource, rfl, hcompleted⟩, peer, hpeer, hpeerId, hpeerState⟩

/-- What a reconciliation pass leaves. -/
structure SagaState.Converged (hash : RunStartPayload → String) (s : SagaState) (limit : Nat)
    (s' : SagaState) (report : ReconciliationReport) : Prop where
  leads : (startSaga hash).Leads s s'
  unambiguous : report.ambiguous = []
  settled : ∀ handoffId ∈ report.scanned, s'.Settled handoffId
  scanned : s.openSources.length ≤ limit → ∀ source ∈ s.openSources, source.id ∈ report.scanned
  again : ∀ updatedUtc limit', ∀ handoffId ∈ report.scanned,
    let second := (s'.reconcilePending hash updatedUtc limit').1
    (∀ source ∈ s'.start.sources, source.id = handoffId → source ∈ second.start.sources) ∧
      ∀ peer ∈ s'.start.peers, peer.id = handoffId → peer ∈ second.start.peers
  idle : s.openSources.length ≤ limit →
    ∀ updatedUtc limit', (s'.reconcilePending hash updatedUtc limit').1 = s'

def SagaState.ReceiptsFollow (s : SagaState) : Prop :=
  ∀ source ∈ s.start.sources, source.evidence.payload.transitionCommandReceipt = true →
    ∀ receipt ∈ s.commands.receipts,
      receipt.idempotencyKey = source.evidence.payload.commandReceiptId →
        receipt.state = .succeeded →
          (∃ run ∈ s.start.executor.tables.runs, run.id = source.evidence.entityId ∧
            run.state ≠ .created) ∧
          ∃ peer ∈ s.start.peers, peer.evidence = source.evidence ∧
            peer.state ∈ [HandoffState.peerCommitted, .completed]

theorem reconcilePending_converges (hreach : (startSaga hash).Reachable s)
    (updatedUtc : String → String) (hlimit : 1 ≤ limit ∧ limit ≤ 1000) :
    ∃ s' report, s.reconcilePending hash updatedUtc limit = (s', some report) ∧
      s.Converged hash limit s' report := by
  have hinv := sagaInvariant_reachable hreach
  obtain ⟨s', report, hpending, hleads, hscanned, hambiguous, hsettled, hids⟩ :=
    reconcilePending_completes hreach updatedUtc hlimit
  have hreach' := System.Leads.reachable hreach hleads
  have hinv' := sagaInvariant_reachable hreach'
  have hopen : s.openSources.length ≤ limit → ∀ source ∈ s.openSources,
      source.id ∈ report.scanned := by
    intro hfits source hsource
    obtain ⟨hmem, hstate⟩ := List.mem_filter.mp hsource
    rw [hscanned]
    exact openSource_candidate hinv hfits hmem (of_decide_eq_true hstate)
  refine ⟨s', report, hpending, hleads, hambiguous, hsettled, hopen,
    fun updatedUtc limit' handoffId hid => ?_, fun hfits updatedUtc limit' => ?_⟩
  · exact (hsettled handoffId hid).kept hreach' (reconcilePending_leads hreach' updatedUtc limit')
  · refine reconcilePending_idle hinv' (fun source' hsource' => ?_) updatedUtc limit'
    -- the record was there before; it was completed, or it has been scanned
    obtain ⟨source, hsource, hid⟩ := List.mem_map.mp (hids ▸ List.mem_map_of_mem hsource')
    have hsettles : s'.Settled source.id := by
      by_cases hcompleted : source.state = .completed
      · obtain ⟨peer, hpeer, hpeerId, hpeerState⟩ :=
          hinv.start.handoffs.completed source hsource hcompleted
        exact SagaState.Settled.leads hreach hleads
          ⟨⟨source, hsource, rfl, hcompleted⟩, peer, hpeer, hpeerId, hpeerState⟩
      · exact hsettled _ (hopen hfits source (List.mem_filter.mpr
          ⟨hsource, decide_eq_true hcompleted⟩))
    obtain ⟨⟨settled, hmem, hsettledId, hstate⟩, -⟩ := hsettles
    obtain rfl := Table.key_injOn hinv'.start.handoffs.uniqueSources hmem hsource'
      (hsettledId.trans hid)
    exact hstate

theorem receipts_follow (h : SagaInvariant hash s) : s.ReceiptsFollow := by
  intro source hsource htransition receipt hreceipt hkey hsucceeded
  obtain ⟨own, hown, howned, hstate⟩ := h.owned source hsource htransition
  obtain rfl := Table.key_injOn h.commands.receipts hreceipt hown (hkey.trans howned.key.symm)
  have hconfirmed : source.state ≠ .prepared := by
    intro hprepared
    rw [hsucceeded, hprepared] at hstate
    cases hstate
  obtain ⟨run, hrun, hstarts⟩ := h.sources source hsource
  obtain ⟨peer, hpeer, heq⟩ := h.peered source hsource hconfirmed
  exact ⟨⟨run, hrun, hstarts.entity.symm, hstarts.departed hconfirmed⟩, peer, hpeer, heq,
    h.start.handoffs.peerStates peer hpeer⟩

end

/-- From every state the saga can be left in: the handoffs only move forward, a receipt is
SUCCEEDED only behind a run past CREATED and a committed peer, and a reconciliation completes
what it scans, once. -/
theorem run_start_saga_converges (hash : RunStartPayload → String) (s : SagaState)
    (hreach : (startSaga hash).Reachable s) :
    (∀ s', (startSaga hash).Leads s s' → HandoffsForward s s') ∧ s.ReceiptsFollow ∧
      ∀ updatedUtc limit, 1 ≤ limit ∧ limit ≤ 1000 →
        ∃ s' report, s.reconcilePending hash updatedUtc limit = (s', some report) ∧
          s.Converged hash limit s' report :=
  ⟨fun _ hleads => saga_run_forward hreach hleads,
    receipts_follow (sagaInvariant_reachable hreach),
    fun updatedUtc _ hlimit => reconcilePending_converges hreach updatedUtc hlimit⟩

def sealedStart (runId jobId : String) : RunStart :=
  { RunTables.pairStart with
    runId, jobId
    planChecksum := "b718ee842215d460e63fc9802858a2d9258b167f49eb5f18dd1794d0c5984663" }

def receivedCommand (idempotencyKey : String) : CommandReceipt where
  idempotencyKey
  requestId := "request-1"
  commandName := "StartRun"
  state := .received
  resultEntityType := none
  resultEntityId := none

def emptySaga : SagaState := ⟨⟨⟨⟨[], [], [], []⟩, []⟩, [], [], []⟩, ⟨[], []⟩⟩

def interruptedStart : List SagaLabel :=
  [.dispatchStartRun (receivedCommand "command-1") (sealedStart "run-1" "job-1"),
    .commitRecoveryPeer "run-1", .confirmCatalogSource "run-1", .executor .releaseAll]

theorem run_start_saga_converges_interrupted : ∃ s : SagaState,
    s.openSources.length = 1 ∧ s.commands.receipts.map CommandReceipt.state = [.succeeded] ∧
      (∀ s', (startSaga pairHash).Leads s s' → HandoffsForward s s') ∧ s.ReceiptsFollow ∧
        ∀ updatedUtc limit, 1 ≤ limit ∧ limit ≤ 1000 →
          ∃ s' report, s.reconcilePending pairHash updatedUtc limit = (s', some report) ∧
            s.Converged pairHash limit s' report := by
  have hrun : ((startSaga pairHash).replay emptySaga interruptedStart).any (fun s =>
      s.openSources.length = 1 &&
        s.commands.receipts.map CommandReceipt.state = [.succeeded]) = true := by
    decide +kernel
  obtain ⟨s, hs, hrows⟩ := (Option.any_eq_true _ _).mp hrun
  rw [Bool.and_eq_true, decide_eq_true_eq, decide_eq_true_eq] at hrows
  exact ⟨s, hrows.1, hrows.2, run_start_saga_converges pairHash s
    (System.Reachable.replay (.init rfl) interruptedStart hs)⟩

def stoppedStart : List SagaLabel :=
  [.dispatchStartRun (receivedCommand "command-1") (sealedStart "run-1" "job-1"),
    .executor (.command (.requestRunStopAfterActiveFile "run-1" "2024-01-01T00:01:00.000Z")),
    .executor (.finalizeStop "run-1" []), .commitRecoveryPeer "run-1",
    .confirmCatalogSource "run-1"]

def openStarts : List SagaLabel :=
  [.dispatchStartRun (receivedCommand "command-1") (sealedStart "run-1" "job-1"),
    .dispatchStartRun (receivedCommand "command-2") (sealedStart "run-2" "job-2")]

/-- A receipt succeeds though its run is cancelled and has never been released; and behind a
limit of one, a second reconciliation goes on to the next handoff. -/
theorem receipt_succeeds_unreleased :
    (∃ s, (startSaga pairHash).replay emptySaga stoppedStart = some s ∧
      s.commands.receipts.map CommandReceipt.state = [.succeeded] ∧
      s.start.executor.tables.runs.map RunRow.state = [.cancelled] ∧
      ∀ n, ∀ t, (startSaga pairHash).replay emptySaga (stoppedStart.take n) = some t →
        .queued ∉ t.start.executor.tables.runs.map RunRow.state) ∧
    ∃ s first, (startSaga pairHash).replay emptySaga openStarts = some s ∧
      (s.reconcilePending pairHash id 1).1 = first ∧
      first.openSources.map CrossStoreHandoff.id = ["run-start:run-2"] ∧
      (first.reconcilePending pairHash id 1).1.openSources = [] := by
  constructor
  · have hrun : ((startSaga pairHash).replay emptySaga stoppedStart).any (fun s =>
        s.commands.receipts.map CommandReceipt.state = [.succeeded] &&
          s.start.executor.tables.runs.map RunRow.state = [.cancelled]) = true := by
      decide +kernel
    have hprefixes : ∀ n ≤ stoppedStart.length,
        ((startSaga pairHash).replay emptySaga (stoppedStart.take n)).all (fun t =>
          .queued ∉ t.start.executor.tables.runs.map RunRow.state) = true := by
      decide +kernel
    obtain ⟨s, hs, hrows⟩ := (Option.any_eq_true _ _).mp hrun
    rw [Bool.and_eq_true, decide_eq_true_eq, decide_eq_true_eq] at hrows
    refine ⟨s, hs, hrows.1, hrows.2, fun n t ht => ?_⟩
    have hpre : (startSaga pairHash).replay emptySaga
        (stoppedStart.take (min n stoppedStart.length)) = some t := by
      rwa [← List.take_eq_take_min]
    have hall := hprefixes _ (Nat.min_le_right n stoppedStart.length)
    rw [hpre] at hall
    exact of_decide_eq_true hall
  · have hrun : ((startSaga pairHash).replay emptySaga openStarts).any (fun s =>
        (s.reconcilePending pairHash id 1).1.openSources.map CrossStoreHandoff.id =
          ["run-start:run-2"] &&
        ((s.reconcilePending pairHash id 1).1.reconcilePending pairHash id 1).1.openSources =
          []) = true := by
      decide +kernel
    obtain ⟨s, hs, hrows⟩ := (Option.any_eq_true _ _).mp hrun
    rw [Bool.and_eq_true, decide_eq_true_eq, decide_eq_true_eq] at hrows
    exact ⟨s, _, hs, rfl, hrows.1, hrows.2⟩

end MediaSync.Runs
