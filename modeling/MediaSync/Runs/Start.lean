import MediaSync.Runs.Executor
import MediaSync.Runs.Handoff

/-! A run is saved as CREATED together with its source handoff in the catalog. -/
namespace MediaSync.Runs
open CrossStore Transition

structure StartState where
  executor : ExecutorState
  sources : List RunStartHandoff
  bindings : List RecoveryRunBinding
  peers : List RunStartHandoff

namespace StartState

variable (hash : RunStartPayload → String) (s : StartState)

def prepareRunStart (runId commandReceiptId : String) (transitionCommandReceipt : Bool) :
    Option StartState :=
  match s.executor.tables.loadStartedRun runId with
  | none => none
  | some run =>
    if run.state ≠ .created then none
    else
      (recordHandoff hash s.sources (runStartSourceHandoff hash run
        (s.executor.tables.loadTargets runId) commandReceiptId transitionCommandReceipt)).map
          fun recorded => { s with sources := recorded.1 }

def startRun (start : RunStart) (commandReceiptId : String) (transitionCommandReceipt : Bool) :
    Option StartState :=
  match s.executor.tables.saveStartedRun { start with deferUntilRecoveryBound := true } with
  | none => none
  | some tables =>
    ({ s with executor := { s.executor with tables } } : StartState).prepareRunStart hash
      start.runId commandReceiptId transitionCommandReceipt

def commitRecoveryPeer (runId : String) : Option StartState := do
  let source ← loadHandoff s.sources (runStartHandoffId runId)
  if isSourceRunStartHandoff hash source then
    let binding ← recoveryRunBindingFromHandoff source.evidence
    let committed ← commitRunStartPeer hash s.bindings s.peers binding
      { source with state := .peerCommitted, expectedPeerState := .sourceConfirmed }
    some { s with bindings := committed.1, peers := committed.2 }
  else none

def matchingHandoffs (runId : String) : Option (RunStartHandoff × RunStartHandoff) := do
  let source ← loadHandoff s.sources (runStartHandoffId runId)
  let peer ← loadHandoff s.peers source.id
  if (handoffEvidenceMismatch hash source.evidence peer.evidence).isSome then none
  else some (source, peer)

/-- The `confirm` body up to the receipt: a PREPARED source is confirmed and its run queued. -/
def releasePrepared (runId : String) (source : RunStartHandoff) : Option StartState :=
  if source.state = .prepared then do
    let tables ← s.executor.tables.releaseCreatedRun runId
    let run ← tables.loadStartedRun runId
    if run.state = .created then none
    else
      let transitioned ← transitionHandoff s.sources source.id .prepared .sourceConfirmed
        source.evidence.payloadHash none
      some { s with executor := { s.executor with tables }, sources := transitioned.1 }
  else some s

def confirmCatalogSource (runId : String) (receiptAccepted : Bool) : Option StartState := do
  let (source, peer) ← s.matchingHandoffs hash runId
  if peer.state ∉ [HandoffState.peerCommitted, .completed] then none
  else
    let confirmed ← s.releasePrepared runId source
    if source.evidence.payload.transitionCommandReceipt && !receiptAccepted then none
    else some confirmed

/-- The recovery half of `complete_run_start`. -/
def completePeer (runId : String) : Option StartState := do
  let (source, peer) ← s.matchingHandoffs hash runId
  if source.state = .sourceConfirmed ∧ peer.state = .peerCommitted then
    let completed ← transitionHandoff s.peers peer.id .peerCommitted .completed
      peer.evidence.payloadHash none
    some { s with peers := completed.1 }
  else none

/-- The catalog half of `complete_run_start`. -/
def completeSource (runId : String) : Option StartState := do
  let (source, peer) ← s.matchingHandoffs hash runId
  if source.state = .sourceConfirmed ∧ peer.state = .completed then
    let completed ← transitionHandoff s.sources source.id .sourceConfirmed .completed
      source.evidence.payloadHash none
    some { s with sources := completed.1 }
  else none

/-- `_mark_ambiguous` on a mismatch; after a crash only the catalog is marked. -/
def markAmbiguous (runId : String) (crashed : Bool) : Option StartState := do
  let source ← loadHandoff s.sources (runStartHandoffId runId)
  let peer ← loadHandoff s.peers source.id
  let code ← handoffEvidenceMismatch hash source.evidence peer.evidence
  let mark (rows : List RunStartHandoff) (handoff : RunStartHandoff) :=
    if terminalHandoffStates.contains handoff.state then rows
    else ((transitionHandoff rows handoff.id handoff.state .ambiguous
      handoff.evidence.payloadHash (some code)).map Prod.fst).getD rows
  some { s with
    sources := mark s.sources source
    peers := if crashed then s.peers else mark s.peers peer }

/-- Why `reconcile_pending` gives a peer up: no source, or a completed one. -/
def divergence (handoffId : String) : Option String :=
  match loadHandoff s.sources handoffId with
  | none => some "RUN_START_SOURCE_HANDOFF_NOT_FOUND"
  | some source =>
    if source.state = .completed then some "RUN_START_COMPLETION_STATE_DIVERGED" else none

/-- The branches of `reconcile_pending` that give a peer up. -/
def reconcileDiverged (handoffId : String) : Option StartState := do
  let peer ← loadHandoff s.peers handoffId
  let code ← s.divergence handoffId
  if peer.state ∈ [HandoffState.ambiguous, .completed] then none
  else
    let marked ← transitionHandoff s.peers handoffId peer.state .ambiguous
      peer.evidence.payloadHash (some code)
    some { s with peers := marked.1 }

end StartState

inductive StartLabel where
  | startRun (start : RunStart) (commandReceiptId : String) (transitionCommandReceipt : Bool)
  | prepareRunStart (runId commandReceiptId : String) (transitionCommandReceipt : Bool)
  | commitRecoveryPeer (runId : String)
  | confirmCatalogSource (runId : String) (receiptAccepted : Bool)
  | completePeer (runId : String)
  | completeSource (runId : String)
  | markAmbiguous (runId : String) (crashed : Bool)
  | reconcileDiverged (handoffId : String)
  | executor (label : ExecutorLabel)

def ExecutorLabel.startsRun : ExecutorLabel → Bool
  | .command (.saveStartedRun _) => true
  | .command (.releaseCreatedRun _) => true
  | _ => false

def runStart (hash : RunStartPayload → String) : System StartState StartLabel where
  init s := s = ⟨⟨⟨[], [], [], []⟩, []⟩, [], [], []⟩
  step s
    | .startRun start receiptId transition => s.startRun hash start receiptId transition
    | .prepareRunStart runId receiptId transition =>
      s.prepareRunStart hash runId receiptId transition
    | .commitRecoveryPeer runId => s.commitRecoveryPeer hash runId
    | .confirmCatalogSource runId accepted => s.confirmCatalogSource hash runId accepted
    | .completePeer runId => s.completePeer hash runId
    | .completeSource runId => s.completeSource hash runId
    | .markAmbiguous runId crashed => s.markAmbiguous hash runId crashed
    | .reconcileDiverged handoffId => s.reconcileDiverged handoffId
    | .executor label =>
      if label.startsRun then none
      else (Runs.executor.step s.executor label).map fun executor => { s with executor }

def RunRow.claimable (run : RunRow) : Prop := run.state ≠ .created ∧ run.state.isTerminal = false

def RunRow.binding (run : RunRow) : RecoveryRunBinding where
  runId := run.id
  jobId := run.jobId
  jobRevisionId := run.jobRevisionId
  planId := run.planId
  planChecksum := run.planChecksum
  startHandoffId := runStartHandoffId run.id

namespace StartState

def RecoveryHolds (s : StartState) (run : RunRow) : Prop :=
  run.binding ∈ s.bindings ∧ ∃ source ∈ s.sources, ∃ peer ∈ s.peers,
    source.id = runStartHandoffId run.id ∧ peer.evidence = source.evidence ∧
      peer.state ∈ [HandoffState.peerCommitted, .completed]

def SourceConfirmed (s : StartState) (run : RunRow) : Prop :=
  ∃ source ∈ s.sources, source.id = runStartHandoffId run.id ∧
    source.state ∈ [HandoffState.sourceConfirmed, .completed]

end StartState

def PausesBound (s : StartState) (label : StartLabel) : Prop :=
  ∀ runId, label = .executor (.command (.requestRunPause runId)) →
    ∀ run ∈ s.executor.tables.runs, run.id = runId → run.state = .created → s.RecoveryHolds run

def PausesReleased (s : StartState) (label : StartLabel) : Prop :=
  ∀ runId, label = .executor (.command (.requestRunPause runId)) →
    ∀ run ∈ s.executor.tables.runs, run.id = runId → run.state ≠ .created

/-- The evidence names the run and what it was started for. -/
structure Describes (evidence : RunStartEvidence) (run : RunRow) : Prop where
  id : evidence.handoffId = runStartHandoffId run.id
  payload : (evidence.payload.runId, evidence.payload.jobId, evidence.payload.jobRevisionId,
    evidence.payload.planId, evidence.payload.planChecksum) = run.identity

theorem runStartHandoffId_injective {a b : String} (h : runStartHandoffId a = runStartHandoffId b) :
    a = b := (String.append_right_inj _).mp h

theorem runStartSourceHandoff_describes (hash : RunStartPayload → String) (run : RunRow)
    (targets : List RunTargetRow) (receiptId : String) (transition : Bool) :
    Describes (runStartSourceHandoff hash run targets receiptId transition).evidence run :=
  ⟨rfl, rfl⟩

variable {evidence : RunStartEvidence} {run run' : RunRow}

theorem Describes.congr (h : Describes evidence run) (hid : run'.identity = run.identity) :
    Describes evidence run' := by
  have hrun : run'.id = run.id := congrArg Prod.fst hid
  exact ⟨by rw [h.id, hrun], by rw [h.payload, hid]⟩

theorem binding_congr (hid : run'.identity = run.identity) : run'.binding = run.binding := by
  simp only [RunRow.identity, Prod.mk.injEq] at hid
  obtain ⟨h1, h2, h3, h4, h5⟩ := hid
  simp only [RunRow.binding, h1, h2, h3, h4, h5]

theorem Describes.binding {run : RunRow} {binding : RecoveryRunBinding} (h : Describes evidence run)
    (hbinding : recoveryRunBindingFromHandoff evidence = some binding) : binding = run.binding := by
  have hpayload := h.payload
  simp only [RunRow.identity, Prod.mk.injEq] at hpayload
  obtain ⟨h1, h2, h3, h4, h5⟩ := hpayload
  unfold recoveryRunBindingFromHandoff at hbinding
  dsimp only at hbinding
  split at hbinding
  · rw [← Option.some.inj hbinding]
    simp only [RunRow.binding, h.id, h1, h2, h3, h4, h5]
  · cases hbinding

/-- The records of both stores: every peer stands for a source and is bound, and a source is
completed after its peer. -/
structure Handoffs (hash : RunStartPayload → String) (s : StartState) : Prop where
  uniqueSources : Table.KeysUnique CrossStoreHandoff.id s.sources
  uniquePeers : Table.KeysUnique CrossStoreHandoff.id s.peers
  decoded : ∀ source ∈ s.sources, decodes hash source.evidence = true
  peerStates : ∀ peer ∈ s.peers, peer.state ∈ [HandoffState.peerCommitted, .completed]
  sourced : ∀ peer ∈ s.peers, ∃ source ∈ s.sources, source.evidence = peer.evidence
  bound : ∀ peer ∈ s.peers, ∃ binding ∈ s.bindings,
    recoveryRunBindingFromHandoff peer.evidence = some binding
  completed : ∀ source ∈ s.sources, source.state = .completed →
    ∃ peer ∈ s.peers, peer.id = source.id ∧ peer.state = .completed

/-- No record of `s` is lost, and none falls behind the state it was in. -/
structure Grows (s s' : StartState) : Prop where
  bindings : ∀ binding ∈ s.bindings, binding ∈ s'.bindings
  sources : ∀ source ∈ s.sources, ∃ kept ∈ s'.sources, kept.evidence = source.evidence ∧
    (source.state ∈ [HandoffState.sourceConfirmed, .completed] →
      kept.state ∈ [HandoffState.sourceConfirmed, .completed])
  peers : ∀ peer ∈ s.peers, ∃ kept ∈ s'.peers, kept.evidence = peer.evidence ∧
    (peer.state ∈ [HandoffState.peerCommitted, .completed] →
      kept.state ∈ [HandoffState.peerCommitted, .completed])

namespace StartState

variable {hash : RunStartPayload → String} {s s' : StartState} {run run' : RunRow} {r : String}

theorem Grows.of_same (hbindings : s'.bindings = s.bindings) (hsources : s'.sources = s.sources)
    (hpeers : s'.peers = s.peers) : Grows s s' :=
  ⟨fun _ h => hbindings ▸ h, fun source h => ⟨source, hsources ▸ h, rfl, id⟩,
    fun peer h => ⟨peer, hpeers ▸ h, rfl, id⟩⟩

theorem RecoveryHolds.grows (h : s.RecoveryHolds run) (hgrows : Grows s s')
    (hid : run'.identity = run.identity) : s'.RecoveryHolds run' := by
  obtain ⟨hbinding, source, hsource, peer, hpeer, hsourceId, hevidence, hstate⟩ := h
  obtain ⟨source', hsource', hsourceEvidence, -⟩ := hgrows.sources source hsource
  obtain ⟨peer', hpeer', hpeerEvidence, hpeerState⟩ := hgrows.peers peer hpeer
  refine ⟨binding_congr hid ▸ hgrows.bindings _ hbinding, source', hsource', peer', hpeer', ?_,
    by rw [hpeerEvidence, hevidence, hsourceEvidence], hpeerState hstate⟩
  have hrun : run'.id = run.id := congrArg Prod.fst hid
  rw [hrun, ← hsourceId]
  exact congrArg HandoffEvidence.handoffId hsourceEvidence

theorem SourceConfirmed.grows (h : s.SourceConfirmed run) (hgrows : Grows s s')
    (hid : run'.identity = run.identity) : s'.SourceConfirmed run' := by
  obtain ⟨source, hsource, hsourceId, hstate⟩ := h
  obtain ⟨source', hsource', hevidence, hkept⟩ := hgrows.sources source hsource
  refine ⟨source', hsource', ?_, hkept hstate⟩
  have hrun : run'.id = run.id := congrArg Prod.fst hid
  rw [hrun, ← hsourceId]
  exact congrArg HandoffEvidence.handoffId hevidence

variable {source peer : RunStartHandoff}

theorem evidence_eq (h : Handoffs hash s) (hsource : source ∈ s.sources) (hpeer : peer ∈ s.peers)
    (hid : peer.id = source.id) : source.evidence = peer.evidence := by
  obtain ⟨other, hother, hevidence⟩ := h.sourced peer hpeer
  have hsame : other.id = source.id := (congrArg HandoffEvidence.handoffId hevidence).trans hid
  rw [← Table.key_injOn h.uniqueSources hother hsource hsame, hevidence]

theorem matchingHandoffs_spec (hmatch : s.matchingHandoffs hash r = some (source, peer)) :
    source ∈ s.sources ∧ peer ∈ s.peers ∧ source.id = runStartHandoffId r ∧
      source.evidence = peer.evidence := by
  simp only [matchingHandoffs, bind, Option.bind_eq_some_iff] at hmatch
  obtain ⟨a, ha, b, hb, hif⟩ := hmatch
  split at hif
  · cases hif
  · rename_i hmismatch
    obtain ⟨rfl, rfl⟩ := Prod.mk.inj (Option.some.inj hif)
    exact ⟨Table.lookup_mem ha, Table.lookup_mem hb, Table.lookup_key ha,
      (mismatch_none_iff.mp (by simpa using hmismatch)).1⟩

variable {rows : List RunStartHandoff} {e : ExecutorState}

theorem record_source (h : Handoffs hash s) {handoff recorded : RunStartHandoff}
    (hstate : handoff.state = .prepared)
    (hrecord : recordHandoff hash s.sources handoff = some (rows, recorded)) :
    Handoffs hash { s with executor := e, sources := rows } ∧
      Grows s { s with executor := e, sources := rows } ∧
        ∃ source ∈ rows, source.evidence = handoff.evidence := by
  obtain ⟨hdecodes, hevidence, hmem, hrows⟩ := recordHandoff_rows hrecord
  have hkept : ∀ source ∈ s.sources, source ∈ rows := by
    intro source hsource
    rcases hrows with rfl | ⟨-, rfl⟩
    · exact hsource
    · exact Table.mem_insert.mpr (.inl hsource)
  have hcases : ∀ source ∈ rows, source ∈ s.sources ∨ source = handoff := by
    intro source hsource
    rcases hrows with rfl | ⟨-, rfl⟩
    · exact .inl hsource
    · exact Table.mem_insert.mp hsource
  refine ⟨⟨recordHandoff_unique hrecord h.uniqueSources, h.uniquePeers, ?_, h.peerStates, ?_,
    h.bound, ?_⟩, ⟨fun _ hb => hb, fun source hs => ⟨source, hkept source hs, rfl, id⟩,
      fun peer hp => ⟨peer, hp, rfl, id⟩⟩, recorded, hmem, hevidence⟩
  · intro source hsource
    rcases hcases source hsource with hold | rfl
    · exact h.decoded source hold
    · exact hdecodes
  · intro peer hpeer
    obtain ⟨source, hsource, heq⟩ := h.sourced peer hpeer
    exact ⟨source, hkept source hsource, heq⟩
  · intro source hsource hcompleted
    rcases hcases source hsource with hold | rfl
    · exact h.completed source hold hcompleted
    · rw [hstate] at hcompleted
      cases hcompleted

variable {code : Option String}

theorem transition_source (h : Handoffs hash s) {source recorded : RunStartHandoff}
    {expected next : HandoffState} (hnext : next ∈ [HandoffState.sourceConfirmed, .completed])
    (hpeer : next = .completed → ∃ peer ∈ s.peers, peer.id = source.id ∧ peer.state = .completed)
    (htransition : transitionHandoff s.sources source.id expected next source.evidence.payloadHash
      code = some (rows, recorded)) : Handoffs hash { s with executor := e, sources := rows } ∧
      Grows s { s with executor := e, sources := rows } := by
  obtain ⟨f, rfl, hf⟩ := transitionHandoff_map h.uniqueSources htransition
  refine ⟨⟨transitionHandoff_unique h.uniqueSources htransition, h.uniquePeers, ?_, h.peerStates,
    ?_, h.bound, ?_⟩, ⟨fun _ hb => hb, ?_, fun peer hp => ⟨peer, hp, rfl, id⟩⟩⟩
  · intro moved hmoved
    obtain ⟨row, hrow, rfl⟩ := List.mem_map.mp hmoved
    rw [(hf row hrow).1]
    exact h.decoded row hrow
  · intro peer hpeer
    obtain ⟨row, hrow, heq⟩ := h.sourced peer hpeer
    exact ⟨f row, List.mem_map_of_mem hrow, (hf row hrow).1.trans heq⟩
  · intro moved hmoved hcompleted
    obtain ⟨row, hrow, rfl⟩ := List.mem_map.mp hmoved
    have hid : (f row).id = row.id := congrArg HandoffEvidence.handoffId (hf row hrow).1
    rcases (hf row hrow).2 with hsame | ⟨hrowId, -, hmovedState⟩
    · rw [hsame] at hcompleted ⊢
      exact h.completed row hrow hcompleted
    · obtain ⟨peer, hpeerMem, hpeerId, hpeerState⟩ := hpeer (hmovedState.symm.trans hcompleted)
      exact ⟨peer, hpeerMem, by rw [hid, hrowId, hpeerId], hpeerState⟩
  · intro row hrow
    refine ⟨f row, List.mem_map_of_mem hrow, (hf row hrow).1, fun hstate => ?_⟩
    rcases (hf row hrow).2 with hsame | ⟨-, -, hmovedState⟩
    · rw [hsame]
      exact hstate
    · rw [hmovedState]
      exact hnext

theorem complete_peer (h : Handoffs hash s) {peer recorded : RunStartHandoff}
    (htransition : transitionHandoff s.peers peer.id .peerCommitted .completed
      peer.evidence.payloadHash code = some (rows, recorded)) :
    Handoffs hash { s with peers := rows } ∧ Grows s { s with peers := rows } := by
  obtain ⟨f, rfl, hf⟩ := transitionHandoff_map h.uniquePeers htransition
  have hstates : ∀ row ∈ s.peers, (f row).state ∈ [HandoffState.peerCommitted, .completed] ∧
      (row.state = .completed → (f row).state = .completed) := by
    intro row hrow
    rcases (hf row hrow).2 with hsame | ⟨-, -, hmoved⟩
    · rw [hsame]
      exact ⟨h.peerStates row hrow, id⟩
    · rw [hmoved]
      exact ⟨by decide, fun _ => rfl⟩
  refine ⟨⟨h.uniqueSources, transitionHandoff_unique h.uniquePeers htransition, h.decoded, ?_, ?_,
    ?_, ?_⟩, ⟨fun _ hb => hb, fun source hs => ⟨source, hs, rfl, id⟩, fun row hrow =>
      ⟨f row, List.mem_map_of_mem hrow, (hf row hrow).1, fun _ => (hstates row hrow).1⟩⟩⟩
  · intro moved hmoved
    obtain ⟨row, hrow, rfl⟩ := List.mem_map.mp hmoved
    exact (hstates row hrow).1
  · intro moved hmoved
    obtain ⟨row, hrow, rfl⟩ := List.mem_map.mp hmoved
    rw [(hf row hrow).1]
    exact h.sourced row hrow
  · intro moved hmoved
    obtain ⟨row, hrow, rfl⟩ := List.mem_map.mp hmoved
    rw [(hf row hrow).1]
    exact h.bound row hrow
  · intro source hsource hcompleted
    obtain ⟨row, hrow, hid, hstate⟩ := h.completed source hsource hcompleted
    exact ⟨f row, List.mem_map_of_mem hrow,
      (congrArg HandoffEvidence.handoffId (hf row hrow).1).trans hid, (hstates row hrow).2 hstate⟩

theorem commitRunStartPeer_rows {bindings bindings' : List RecoveryRunBinding}
    {peers peers' : List RunStartHandoff} {binding : RecoveryRunBinding}
    {handoff : RunStartHandoff}
    (hcommit : commitRunStartPeer hash bindings peers binding handoff = some (bindings', peers')) :
    (∀ row ∈ bindings, row ∈ bindings') ∧ binding ∈ bindings' ∧
      ∃ recorded, recordHandoff hash peers handoff = some (peers', recorded) := by
  simp only [commitRunStartPeer, bind, Option.bind_eq_some_iff] at hcommit
  obtain ⟨bound, hbound, ⟨rows, recorded⟩, hrecord, heq⟩ := hcommit
  obtain ⟨rfl, rfl⟩ := Prod.mk.inj (Option.some.inj heq)
  unfold bindRecoveryRun at hbound
  split at hbound
  · split at hbound
    · cases hbound
    · obtain rfl := Option.some.inj hbound
      exact ⟨fun row hrow => Table.mem_insert.mpr (.inl hrow), Table.mem_insert.mpr (.inr rfl),
        recorded, hrecord⟩
  · rename_i existing hload
    split at hbound
    · cases hbound
    · rename_i hsame
      obtain rfl := Option.some.inj hbound
      exact ⟨fun _ hrow => hrow, not_not.mp hsame ▸ Table.lookup_mem hload, recorded, hrecord⟩

theorem commit_peer (h : Handoffs hash s) (hstep : s.commitRecoveryPeer hash r = some s') :
    Handoffs hash s' ∧ Grows s s' ∧ s'.executor = s.executor := by
  simp only [commitRecoveryPeer, bind, Option.bind_eq_some_iff] at hstep
  obtain ⟨source, hload, hif⟩ := hstep
  split at hif
  · simp only [Option.bind_eq_some_iff] at hif
    obtain ⟨binding, hbinding, ⟨bindings, peers⟩, hcommit, heq⟩ := hif
    obtain rfl := (Option.some.inj heq).symm
    obtain ⟨hbindings, hbindingMem, recorded, hrecord⟩ := commitRunStartPeer_rows hcommit
    obtain ⟨-, -, -, hrows⟩ := recordHandoff_rows hrecord
    have hsource := Table.lookup_mem hload
    -- a new peer has the source's evidence and its binding
    have hcases : ∀ peer ∈ peers, peer ∈ s.peers ∨
        peer.evidence = source.evidence ∧ peer.state = .peerCommitted := by
      intro peer hpeer
      rcases hrows with rfl | ⟨-, rfl⟩
      · exact .inl hpeer
      · rcases Table.mem_insert.mp hpeer with hold | rfl
        · exact .inl hold
        · exact .inr ⟨rfl, rfl⟩
    have hkept : ∀ peer ∈ s.peers, peer ∈ peers := by
      intro peer hpeer
      rcases hrows with rfl | ⟨-, rfl⟩
      · exact hpeer
      · exact Table.mem_insert.mpr (.inl hpeer)
    refine ⟨⟨h.uniqueSources, recordHandoff_unique hrecord h.uniquePeers, h.decoded, ?_,
      ?_, ?_, ?_⟩,
      ⟨hbindings, fun source hs => ⟨source, hs, rfl, id⟩,
        fun peer hp => ⟨peer, hkept peer hp, rfl, id⟩⟩, rfl⟩
    · intro peer hpeer
      rcases hcases peer hpeer with hold | ⟨-, hstate⟩
      · exact h.peerStates peer hold
      · rw [hstate]
        decide
    · intro peer hpeer
      rcases hcases peer hpeer with hold | ⟨hevidence, -⟩
      · exact h.sourced peer hold
      · exact ⟨source, hsource, hevidence.symm⟩
    · intro peer hpeer
      rcases hcases peer hpeer with hold | ⟨hevidence, -⟩
      · obtain ⟨old, hold', heq⟩ := h.bound peer hold
        exact ⟨old, hbindings old hold', heq⟩
      · exact ⟨binding, hbindingMem, hevidence ▸ hbinding⟩
    · intro other hother hcompleted
      obtain ⟨peer, hpeer, hrest⟩ := h.completed other hother hcompleted
      exact ⟨peer, hkept peer hpeer, hrest⟩
  · cases hif

theorem markAmbiguous_none (h : Handoffs hash s) (crashed : Bool) :
    s.markAmbiguous hash r crashed = none := by
  by_contra hsome
  obtain ⟨s', hstep⟩ := Option.ne_none_iff_exists'.mp hsome
  simp only [markAmbiguous, bind, Option.bind_eq_some_iff] at hstep
  obtain ⟨source, hload, peer, hpeer, code, hmismatch, -⟩ := hstep
  have heq := evidence_eq h (Table.lookup_mem hload) (Table.lookup_mem hpeer)
    (Table.lookup_key hpeer)
  rw [mismatch_none_iff.mpr ⟨heq, h.decoded source (Table.lookup_mem hload)⟩] at hmismatch
  cases hmismatch

theorem reconcileDiverged_none (h : Handoffs hash s) (handoffId : String) :
    s.reconcileDiverged handoffId = none := by
  by_contra hsome
  obtain ⟨s', hstep⟩ := Option.ne_none_iff_exists'.mp hsome
  simp only [reconcileDiverged, bind, Option.bind_eq_some_iff] at hstep
  obtain ⟨peer, hload, code, hcode, hif⟩ := hstep
  have hpeer := Table.lookup_mem hload
  split at hif
  · cases hif
  · rename_i hopen
    unfold divergence at hcode
    split at hcode
    · rename_i hmissing
      obtain ⟨source, hsource, heq⟩ := h.sourced peer hpeer
      have hid : source.id = peer.id := congrArg HandoffEvidence.handoffId heq
      exact Table.lookup_none_iff.mp hmissing source hsource (hid.trans (Table.lookup_key hload))
    · rename_i source hsource
      split at hcode
      · rename_i hcompleted
        obtain ⟨other, hother, hid, hstate⟩ :=
          h.completed source (Table.lookup_mem hsource) hcompleted
        obtain rfl : other = peer := Table.key_injOn h.uniquePeers hother hpeer
          (hid.trans ((Table.lookup_key hsource).trans (Table.lookup_key hload).symm))
        exact hopen (by simp [hstate])
      · cases hcode

end StartState

/-- The invariant of the start saga without its receipts. -/
structure StartInvariant (hash : RunStartPayload → String) (s : StartState) : Prop where
  keyed : s.executor.tables.Keyed
  handoffs : Handoffs hash s
  described : ∀ run ∈ s.executor.tables.runs, ∃ source ∈ s.sources, Describes source.evidence run

def Claims (s : StartState) (label : StartLabel) (s' : StartState) (run' : RunRow) : Prop :=
  (s'.RecoveryHolds run' ∧ s'.SourceConfirmed run') ∨
    ∃ run ∈ s.executor.tables.runs, run'.identity = run.identity ∧ (run.claimable ∨
      run.state = .created ∧ label = .executor (.command (.requestRunPause run.id)))

/-- What one step of the start does. -/
structure StartEffect (hash : RunStartPayload → String) (s : StartState) (label : StartLabel)
    (s' : StartState) : Prop where
  invariant : StartInvariant hash s'
  grows : Grows s s'
  claims : ∀ run' ∈ s'.executor.tables.runs, run'.claimable → Claims s label s' run'

namespace StartState

variable {hash : RunStartPayload → String} {s s' : StartState} {label : StartLabel} {r : String}

theorem StartEffect.of_records (h : StartInvariant hash s) (hhandoffs : Handoffs hash s')
    (hgrows : Grows s s') (hexecutor : s'.executor = s.executor) :
    StartEffect hash s label s' := by
  refine ⟨⟨hexecutor ▸ h.keyed, hhandoffs, fun run hrun => ?_⟩, hgrows, fun run hrun hclaim => ?_⟩
  · rw [hexecutor] at hrun
    obtain ⟨source, hsource, hdescribes⟩ := h.described run hrun
    obtain ⟨kept, hkept, heq, -⟩ := hgrows.sources source hsource
    exact ⟨kept, hkept, heq ▸ hdescribes⟩
  · rw [hexecutor] at hrun
    exact .inr ⟨run, hrun, rfl, .inl hclaim⟩

variable {receiptId : String} {transition : Bool}

theorem prepareRunStart_spec (hstep : s.prepareRunStart hash r receiptId transition = some s') :
    ∃ run rows recorded, s.executor.tables.loadStartedRun r = some run ∧
      s' = { s with sources := rows } ∧ recordHandoff hash s.sources (runStartSourceHandoff hash run
        (s.executor.tables.loadTargets r) receiptId transition) = some (rows, recorded) := by
  unfold prepareRunStart at hstep
  split at hstep
  · cases hstep
  · rename_i run hload
    split at hstep
    · cases hstep
    · obtain ⟨⟨rows, recorded⟩, hrecord, rfl⟩ := Option.map_eq_some_iff.mp hstep
      exact ⟨run, rows, recorded, hload, rfl, hrecord⟩

theorem startRun_effect (h : StartInvariant hash s) {start : RunStart}
    (hstep : s.startRun hash start receiptId transition = some s') :
    StartEffect hash s label s' := by
  unfold startRun at hstep
  split at hstep
  · cases hstep
  · rename_i tables hsave
    have hrows := RunTables.saveStartedRun_rows hsave
    obtain ⟨run, rows, recorded, hload, rfl, hrecord⟩ := prepareRunStart_spec hstep
    obtain ⟨hhandoffs, hgrows, source, hsource, hevidence⟩ :=
      record_source (e := { s.executor with tables }) h.handoffs rfl hrecord
    have hkeyed : tables.Keyed := h.keyed.save hrows
    have hrunId : run.id = start.runId := Table.lookup_key hload
    refine ⟨⟨hkeyed, hhandoffs, fun other hother => ?_⟩, hgrows, fun other hother hclaim => ?_⟩
    · rcases List.mem_append.mp (hrows.runs ▸ hother) with hold | hnew
      · obtain ⟨old, hold', hdescribes⟩ := h.described other hold
        obtain ⟨kept, hkept, heq, -⟩ := hgrows.sources old hold'
        exact ⟨kept, hkept, heq ▸ hdescribes⟩
      · have hid : other.id = run.id := by
          rw [List.mem_singleton.mp hnew, hrunId]
          rfl
        obtain rfl : other = run := Table.key_injOn hkeyed.runs hother (Table.lookup_mem hload) hid
        exact ⟨source, hsource, hevidence ▸ runStartSourceHandoff_describes hash _ _ _ _⟩
    · rcases List.mem_append.mp (hrows.runs ▸ hother) with hold | hnew
      · exact .inr ⟨other, hold, rfl, .inl hclaim⟩
      · rw [List.mem_singleton.mp hnew] at hclaim
        exact absurd rfl hclaim.1

theorem prepareRunStart_effect (h : StartInvariant hash s)
    (hstep : s.prepareRunStart hash r receiptId transition = some s') :
    StartEffect hash s label s' := by
  obtain ⟨run, rows, recorded, -, rfl, hrecord⟩ := prepareRunStart_spec hstep
  obtain ⟨hhandoffs, hgrows, -⟩ := record_source (e := s.executor) h.handoffs rfl hrecord
  exact StartEffect.of_records h hhandoffs hgrows rfl

theorem recoveryHolds_of_matching (h : StartInvariant hash s) {run : RunRow}
    {source peer : RunStartHandoff} (hrun : run ∈ s.executor.tables.runs)
    (hmatch : s.matchingHandoffs hash run.id = some (source, peer)) : s.RecoveryHolds run := by
  obtain ⟨hsource, hpeer, hid, heq⟩ := matchingHandoffs_spec hmatch
  obtain ⟨own, hown, hdescribes⟩ := h.described run hrun
  obtain rfl : own = source :=
    Table.key_injOn h.handoffs.uniqueSources hown hsource (hdescribes.id.trans hid.symm)
  obtain ⟨binding, hbinding, hread⟩ := h.handoffs.bound peer hpeer
  rw [← heq] at hread
  exact ⟨hdescribes.binding hread ▸ hbinding, own, hsource, peer, hpeer, hid, heq.symm,
    h.handoffs.peerStates peer hpeer⟩

theorem described_moves {tables : RunTables} {resolved : Prop} {released : RunRow → Prop}
    {parked : RunTargetRow → Prop} (h : StartInvariant hash s) (hgrows : Grows s s')
    (hmoves : RunTables.Moves resolved released parked s.executor.tables tables) :
    (∀ run' ∈ tables.runs, ∃ source ∈ s'.sources, Describes source.evidence run') ∧
      ∀ run' ∈ tables.runs, run'.claimable → ∃ run ∈ s.executor.tables.runs,
        run'.identity = run.identity ∧ (run.claimable ∨ run.state = .created ∧ released run) := by
  obtain ⟨f, g, -, hg, hrows⟩ := hmoves.rows
  constructor
  · intro run' hrun'
    obtain ⟨run, hrun, rfl⟩ := List.mem_map.mp (hg ▸ hrun')
    obtain ⟨source, hsource, hdescribes⟩ := h.described run hrun
    obtain ⟨kept, hkept, heq, -⟩ := hgrows.sources source hsource
    exact ⟨kept, hkept, heq ▸ hdescribes.congr (hrows.runIdentity run)⟩
  · intro run' hrun' hclaim
    obtain ⟨run, hrun, rfl⟩ := List.mem_map.mp (hg ▸ hrun')
    refine ⟨run, hrun, hrows.runIdentity run, ?_⟩
    cases hterminal : run.state.isTerminal with
    | true =>
      -- a terminal run keeps its state
      have hstate := hrows.closedRun run hrun hterminal
      exact absurd hclaim.2 (by rw [hstate, hterminal]; decide)
    | false =>
      by_cases hcreated : run.state = .created
      · by_cases hreleased : released run
        · exact .inr ⟨hcreated, hreleased⟩
        · rcases hrows.created run hrun hcreated hreleased with hstill | hclosed
          · exact absurd hstill hclaim.1
          · exact absurd hclaim.2 (by rw [hclosed]; decide)
      · exact .inl ⟨hcreated, hterminal⟩

theorem confirmCatalogSource_effect (h : StartInvariant hash s) {accepted : Bool}
    (hstep : s.confirmCatalogSource hash r accepted = some s') : StartEffect hash s label s' := by
  simp only [confirmCatalogSource, bind, Option.bind_eq_some_iff] at hstep
  obtain ⟨⟨source, peer⟩, hmatch, hif⟩ := hstep
  dsimp only at hif
  split at hif
  · cases hif
  · obtain ⟨confirmed, hrelease, hreceipt⟩ := Option.bind_eq_some_iff.mp hif
    split at hreceipt
    · cases hreceipt
    · obtain rfl := Option.some.inj hreceipt
      unfold releasePrepared at hrelease
      split at hrelease
      · simp only [bind, Option.bind_eq_some_iff] at hrelease
        obtain ⟨tables, hreleased, run, hload, hrest⟩ := hrelease
        split at hrest
        · cases hrest
        · obtain ⟨⟨rows, recorded⟩, htransition, heq⟩ := Option.bind_eq_some_iff.mp hrest
          obtain rfl := Option.some.inj heq
          obtain ⟨hsource, -, hid, -⟩ := matchingHandoffs_spec hmatch
          obtain ⟨hhandoffs, hgrows⟩ := transition_source (e := { s.executor with tables })
            h.handoffs (by decide) (fun hcompleted => by cases hcompleted) htransition
          have hmoves := RunTables.releaseCreatedRun_moves hreleased
          obtain ⟨hdescribed, hclaims⟩ := described_moves h hgrows hmoves
          refine ⟨⟨hmoves.keyed h.keyed, hhandoffs, hdescribed⟩, hgrows,
            fun run' hrun' hclaim => ?_⟩
          obtain ⟨old, hold, hidentity, hbefore | ⟨-, hreleasedRun⟩⟩ := hclaims run' hrun' hclaim
          · exact .inr ⟨old, hold, hidentity, .inl hbefore⟩
          · -- the released run: its source is confirmed, and the peer was there before
            obtain rfl : old.id = r := hreleasedRun
            refine .inl ⟨(recoveryHolds_of_matching h hold hmatch).grows hgrows hidentity, ?_⟩
            obtain ⟨current, hcurrent, hcurrentId, hevidence, hstate, hrows⟩ :=
              transitionHandoff_rows htransition
            have hmem : recorded ∈ rows := by
              rcases hrows with ⟨rfl, rfl⟩ | ⟨-, rfl⟩
              · exact hcurrent
              · exact Table.mem_overwrite_self hcurrent
                  (congrArg HandoffEvidence.handoffId hevidence.symm)
            have hrunId : run'.id = old.id := congrArg Prod.fst hidentity
            refine ⟨recorded, hmem, ?_, by rw [hstate]; decide⟩
            rw [hrunId, ← hid, ← hcurrentId]
            exact congrArg HandoffEvidence.handoffId hevidence
      · obtain rfl := Option.some.inj hrelease
        exact StartEffect.of_records h h.handoffs (Grows.of_same rfl rfl rfl) rfl

theorem executor_effect (h : StartInvariant hash s) {action : ExecutorLabel} {e : ExecutorState}
    (hallowed : action.startsRun = false) (hstep : Runs.executor.step s.executor action = some e) :
    StartEffect hash s (.executor action) { s with executor := e } := by
  have hgrows : Grows s { s with executor := e } := Grows.of_same rfl rfl rfl
  rcases step_moves h.keyed hstep with ⟨resolved, parked, hmoves⟩ | ⟨start, rfl, -⟩
  · obtain ⟨hdescribed, hclaims⟩ := described_moves h hgrows hmoves
    refine ⟨⟨hmoves.keyed h.keyed, ⟨h.handoffs.uniqueSources, h.handoffs.uniquePeers,
      h.handoffs.decoded, h.handoffs.peerStates, h.handoffs.sourced, h.handoffs.bound,
      h.handoffs.completed⟩, hdescribed⟩, hgrows, fun run' hrun' hclaim => ?_⟩
    obtain ⟨run, hrun, hidentity, hbefore | ⟨hcreated, hreleased⟩⟩ := hclaims run' hrun' hclaim
    · exact .inr ⟨run, hrun, hidentity, .inl hbefore⟩
    · refine .inr ⟨run, hrun, hidentity, .inr ⟨hcreated, ?_⟩⟩
      cases action with
      | command call =>
        cases call with
        | requestRunPause runId => rw [show run.id = runId from hreleased]
        | releaseCreatedRun runId => cases hallowed
        | _ => cases hreleased
      | _ => cases hreleased
  · cases hallowed

theorem step_effect (label : StartLabel) (h : StartInvariant hash s)
    (hstep : (runStart hash).step s label = some s') :
    StartEffect hash s label s' := by
  cases label with
  | startRun start receiptId transition => exact startRun_effect h hstep
  | prepareRunStart runId receiptId transition => exact prepareRunStart_effect h hstep
  | commitRecoveryPeer runId =>
    obtain ⟨hhandoffs, hgrows, hexecutor⟩ := commit_peer h.handoffs hstep
    exact StartEffect.of_records h hhandoffs hgrows hexecutor
  | confirmCatalogSource runId accepted => exact confirmCatalogSource_effect h hstep
  | completePeer runId =>
    simp only [runStart, completePeer, bind, Option.bind_eq_some_iff] at hstep
    obtain ⟨⟨source, peer⟩, hmatch, hif⟩ := hstep
    dsimp only at hif
    split at hif
    · obtain ⟨⟨rows, recorded⟩, htransition, heq⟩ := Option.bind_eq_some_iff.mp hif
      obtain rfl := Option.some.inj heq
      obtain ⟨hhandoffs, hgrows⟩ := complete_peer h.handoffs htransition
      exact StartEffect.of_records h hhandoffs hgrows rfl
    · cases hif
  | completeSource runId =>
    simp only [runStart, completeSource, bind, Option.bind_eq_some_iff] at hstep
    obtain ⟨⟨source, peer⟩, hmatch, hif⟩ := hstep
    dsimp only at hif
    split at hif
    · rename_i hstates
      obtain ⟨⟨rows, recorded⟩, htransition, heq⟩ := Option.bind_eq_some_iff.mp hif
      obtain rfl := Option.some.inj heq
      obtain ⟨-, hpeer, -, hevidence⟩ := matchingHandoffs_spec hmatch
      obtain ⟨hhandoffs, hgrows⟩ := transition_source (e := s.executor) h.handoffs (by decide)
        (fun _ => ⟨peer, hpeer, congrArg HandoffEvidence.handoffId hevidence.symm, hstates.2⟩)
        htransition
      exact StartEffect.of_records h hhandoffs hgrows rfl
    · cases hif
  | markAmbiguous runId crashed =>
    rw [show (runStart hash).step s (.markAmbiguous runId crashed) = none from
      markAmbiguous_none h.handoffs crashed] at hstep
    cases hstep
  | reconcileDiverged handoffId =>
    rw [show (runStart hash).step s (.reconcileDiverged handoffId) = none from
      reconcileDiverged_none h.handoffs handoffId] at hstep
    cases hstep
  | executor action =>
    simp only [runStart] at hstep
    split at hstep
    · cases hstep
    · rename_i hallowed
      obtain ⟨e, haction, rfl⟩ := Option.map_eq_some_iff.mp hstep
      exact executor_effect h (by simpa using hallowed) haction

theorem startInvariant_reachable (h : (runStart hash).Reachable s) : StartInvariant hash s := by
  refine System.ReachableWhen.invariant (P := StartInvariant hash) (fun s hs => ?_)
    (fun s label s' _ hinv _ hstep => (step_effect label hinv hstep).invariant) h
  obtain rfl : s = _ := hs
  exact ⟨⟨List.nodup_nil, List.nodup_nil, List.nodup_nil⟩,
    ⟨List.nodup_nil, List.nodup_nil, by simp, by simp, by simp, by simp, by simp⟩, by simp⟩

end StartState

open StartState in
/-- Every claimable run is bound in the recovery store if pause requests find CREATED runs
bound, and its source handoff is confirmed if they find no CREATED run. -/
theorem claimable_run_bound (hash : RunStartPayload → String) (s : StartState) :
    ((runStart hash).ReachableWhen PausesBound s →
        ∀ run ∈ s.executor.tables.runs, run.claimable → s.RecoveryHolds run) ∧
      ((runStart hash).ReachableWhen PausesReleased s →
        ∀ run ∈ s.executor.tables.runs, run.claimable →
          s.RecoveryHolds run ∧ s.SourceConfirmed run) := by
  constructor
  · refine fun hreach => hreach.invariant (P := fun s => ∀ run ∈ s.executor.tables.runs,
      run.claimable → s.RecoveryHolds run) (fun s hs run hrun => ?_)
      fun s label s' hreach ih hok hstep run' hrun' hclaim => ?_
    · obtain rfl : s = _ := hs
      cases hrun
    · have heffect := step_effect label (startInvariant_reachable hreach.reachable) hstep
      -- a run is claimable by its release, as before, or by a pause of the condition
      rcases heffect.claims run' hrun' hclaim with ⟨hholds, -⟩ | ⟨run, hrun, hid, hbefore | hpaused⟩
      · exact hholds
      · exact (ih run hrun hbefore).grows heffect.grows hid
      · exact (hok run.id hpaused.2 run hrun rfl hpaused.1).grows heffect.grows hid
  · refine fun hreach => hreach.invariant (P := fun s => ∀ run ∈ s.executor.tables.runs,
      run.claimable → s.RecoveryHolds run ∧ s.SourceConfirmed run) (fun s hs run hrun => ?_)
      fun s label s' hreach ih hok hstep run' hrun' hclaim => ?_
    · obtain rfl : s = _ := hs
      cases hrun
    · have heffect := step_effect label (startInvariant_reachable hreach.reachable) hstep
      -- the same, and the release has confirmed the source
      rcases heffect.claims run' hrun' hclaim with hboth | ⟨run, hrun, hid, hbefore | hpaused⟩
      · exact hboth
      · obtain ⟨hholds, hconfirmed⟩ := ih run hrun hbefore
        exact ⟨hholds.grows heffect.grows hid, hconfirmed.grows heffect.grows hid⟩
      · exact absurd hpaused.1 (hok run.id hpaused.2 run hrun rfl)

/-- The SHA-256 of the payload of `RunTables.pairStart` under receipt "receipt-1". -/
def pairHash : RunStartPayload → String :=
  fun _ => "b718ee842215d460e63fc9802858a2d9258b167f49eb5f18dd1794d0c5984663"

theorem claimable_run_bound_confirmed : ∃ s : StartState,
    s.executor.tables.runs.map RunRow.state = [.queued] ∧
      ∀ run ∈ s.executor.tables.runs, run.claimable → s.RecoveryHolds run ∧
        s.SourceConfirmed run := by
  let labels : List StartLabel := [.startRun RunTables.pairStart "receipt-1" true,
    .commitRecoveryPeer "run-1", .confirmCatalogSource "run-1" true]
  have hrun : ((runStart pairHash).replay ⟨⟨⟨[], [], [], []⟩, []⟩, [], [], []⟩ labels).any (fun s =>
      s.executor.tables.runs.map RunRow.state = [.queued]) = true := by decide
  obtain ⟨s, hs, hqueued⟩ := (Option.any_eq_true _ _).mp hrun
  refine ⟨s, of_decide_eq_true hqueued, (claimable_run_bound pairHash s).2
    (System.ReachableWhen.replay (.init rfl) labels (fun label hlabel m => ?_) hs)⟩
  intro runId heq
  subst heq
  simp [labels] at hlabel

def pausedStart : List StartLabel :=
  [.startRun RunTables.pairStart "receipt-1" true,
    .executor (.command (.requestRunPause "run-1")), .executor (.finalizePause "run-1"),
    .executor (.command (.resumePausedRun "run-1"))]

/-- The pause accepts a CREATED run, and its resumption queues it: the recovery store holds
nothing. -/
theorem pause_skips_handoff : ∃ s, (runStart pairHash).Reachable s ∧
    ∃ run ∈ s.executor.tables.runs, run.state = .queued ∧ ¬ s.RecoveryHolds run := by
  have hrun : ((runStart pairHash).replay ⟨⟨⟨[], [], [], []⟩, []⟩, [], [], []⟩ pausedStart).any
      (fun s => s.executor.tables.runs.map RunRow.state = [.queued] && s.peers = []) = true := by
    decide
  obtain ⟨s, hs, hrows⟩ := (Option.any_eq_true _ _).mp hrun
  rw [Bool.and_eq_true, decide_eq_true_eq, decide_eq_true_eq] at hrows
  have hmem : RunState.queued ∈ s.executor.tables.runs.map RunRow.state := by simp [hrows.1]
  obtain ⟨run, hrunMem, hstate⟩ := List.mem_map.mp hmem
  refine ⟨s, System.Reachable.replay (.init rfl) pausedStart hs, run, hrunMem, hstate, ?_⟩
  rintro ⟨-, source, -, peer, hpeer, -⟩
  rw [hrows.2] at hpeer
  cases hpeer

end MediaSync.Runs
