import MediaSync.Foundation.Table
import MediaSync.Foundation.Text
import Mathlib.Logic.Relation

/-! The records by which the catalog and the recovery store agree on an effect that touches both.
The same table exists in both stores; a record's evidence never changes after it is inserted. The
text of a payload is its canonical JSON, so a payload stands for its text and is what decoding that
text returns. The SHA-256 of a payload's text is a parameter. -/
namespace MediaSync.CrossStore
open Text

inductive HandoffState where
  | prepared
  | peerCommitted
  | sourceConfirmed
  | completed
  | aborted
  | ambiguous
  deriving DecidableEq

structure HandoffEvidence (Payload : Type) where
  handoffId : String
  handoffType : String
  direction : String
  payloadSchemaVersion : Nat
  entityType : String
  entityId : String
  payload : Payload
  payloadHash : String
  deriving DecidableEq

structure CrossStoreHandoff (Payload : Type) where
  evidence : HandoffEvidence Payload
  state : HandoffState
  expectedPeerState : HandoffState
  attemptCount : Nat
  lastErrorCode : Option String
  deriving DecidableEq

def CrossStoreHandoff.id {Payload : Type} (handoff : CrossStoreHandoff Payload) : String :=
  handoff.evidence.handoffId

def terminalHandoffStates : List HandoffState := [.completed, .aborted, .ambiguous]

/-- The table of `_validate_transition`. -/
def allowedTransition : HandoffState → List HandoffState
  | .prepared => [.sourceConfirmed, .aborted, .ambiguous]
  | .peerCommitted => [.completed, .ambiguous]
  | .sourceConfirmed => [.completed, .ambiguous]
  | _ => []

def expectedPeerAfter : HandoffState → HandoffState
  | .sourceConfirmed => .completed
  | .completed => .completed
  | .aborted => .completed
  | .ambiguous => .completed
  | _ => .peerCommitted

section
variable {Payload : Type} [DecidableEq Payload] (hash : Payload → String)

/-- Whether `decode_handoff_payload` returns. -/
def decodes (evidence : HandoffEvidence Payload) : Bool :=
  hash evidence.payload = evidence.payloadHash

def handoffEvidenceMismatch (source peer : HandoffEvidence Payload) : Option String :=
  let columns : List (String × Bool) :=
    [("HANDOFF_ID", source.handoffId = peer.handoffId),
      ("HANDOFF_TYPE", source.handoffType = peer.handoffType),
      ("DIRECTION", source.direction = peer.direction),
      ("PAYLOAD_SCHEMA_VERSION", source.payloadSchemaVersion = peer.payloadSchemaVersion),
      ("ENTITY_TYPE", source.entityType = peer.entityType),
      ("ENTITY_ID", source.entityId = peer.entityId),
      ("PAYLOAD_JSON", source.payload = peer.payload),
      ("PAYLOAD_HASH", source.payloadHash = peer.payloadHash)]
  match columns.find? fun column => !column.2 with
  | some column => some ("CROSS_STORE_HANDOFF_" ++ column.1 ++ "_MISMATCH")
  | none =>
    if decodes hash source && decodes hash peer then none
    else some "CROSS_STORE_HANDOFF_PAYLOAD_HASH_MISMATCH"

def loadHandoff (rows : List (CrossStoreHandoff Payload)) (handoffId : String) :
    Option (CrossStoreHandoff Payload) :=
  Table.lookup CrossStoreHandoff.id rows handoffId

def recordHandoff (rows : List (CrossStoreHandoff Payload)) (handoff : CrossStoreHandoff Payload) :
    Option (List (CrossStoreHandoff Payload) × CrossStoreHandoff Payload) :=
  if decodes hash handoff.evidence = false ∨ handoff.state ∉ [HandoffState.prepared, .peerCommitted]
  then none
  else
    match loadHandoff rows handoff.id with
    | some existing =>
      if (handoffEvidenceMismatch hash existing.evidence handoff.evidence).isSome then none
      else if existing.state ≠ handoff.state && !terminalHandoffStates.contains existing.state then
        none
      else some (rows, existing)
    | none => some (Table.insert rows handoff, handoff)

def transitionHandoff (rows : List (CrossStoreHandoff Payload)) (handoffId : String)
    (expectedState nextState : HandoffState) (expectedPayloadHash : String)
    (lastErrorCode : Option String) :
    Option (List (CrossStoreHandoff Payload) × CrossStoreHandoff Payload) :=
  if !(allowedTransition expectedState).contains nextState then none
  else
    match loadHandoff rows handoffId with
    | none => none
    | some current =>
      if current.evidence.payloadHash ≠ expectedPayloadHash then none
      else if current.state = nextState then some (rows, current)
      else if current.state ≠ expectedState then none
      else
        let updated := { current with
          state := nextState, expectedPeerState := expectedPeerAfter nextState, lastErrorCode
          attemptCount := current.attemptCount + 1 }
        some (Table.overwrite CrossStoreHandoff.id rows updated, updated)

end

section
variable {Payload : Type} {rows rows' : List (CrossStoreHandoff Payload)}
  {handoff recorded : CrossStoreHandoff Payload}

variable {handoffId payloadHash : String} {expected next : HandoffState} {code : Option String}

theorem transitionHandoff_rows
    (h : transitionHandoff rows handoffId expected next payloadHash code = some (rows', recorded)) :
    ∃ current ∈ rows, current.id = handoffId ∧ recorded.evidence = current.evidence ∧
      recorded.state = next ∧ (rows' = rows ∧ recorded = current ∨
        current.state = expected ∧ rows' = Table.overwrite CrossStoreHandoff.id rows recorded) := by
  unfold transitionHandoff at h
  split at h
  · cases h
  · split at h
    · cases h
    · rename_i current hload
      split at h
      · cases h
      · split at h
        · rename_i hstate
          obtain ⟨rfl, rfl⟩ := Prod.mk.inj (Option.some.inj h)
          exact ⟨current, Table.lookup_mem hload, Table.lookup_key hload, rfl, hstate,
            .inl ⟨rfl, rfl⟩⟩
        · split at h
          · cases h
          · rename_i hstate
            obtain ⟨rfl, rfl⟩ := Prod.mk.inj (Option.some.inj h)
            exact ⟨current, Table.lookup_mem hload, Table.lookup_key hload, rfl, rfl,
              .inr ⟨not_not.mp hstate, rfl⟩⟩

theorem transitionHandoff_map (hu : Table.KeysUnique CrossStoreHandoff.id rows)
    (h : transitionHandoff rows handoffId expected next payloadHash code = some (rows', recorded)) :
    ∃ f : CrossStoreHandoff Payload → CrossStoreHandoff Payload, rows' = rows.map f ∧ ∀ row ∈ rows,
      (f row).evidence = row.evidence ∧
        (f row = row ∨ row.id = handoffId ∧ row.state = expected ∧ (f row).state = next) := by
  obtain ⟨current, hcurrent, hid, hevidence, hnext, ⟨rfl, rfl⟩ | ⟨hstate, rfl⟩⟩ :=
    transitionHandoff_rows h
  · exact ⟨id, List.map_id _ |>.symm, fun row _ => ⟨rfl, .inl rfl⟩⟩
  · refine ⟨fun row => if row.id = recorded.id then recorded else row, rfl, fun row hrow => ?_⟩
    have hrecorded : recorded.id = current.id := congrArg HandoffEvidence.handoffId hevidence
    dsimp only
    split
    · rename_i hsame
      obtain rfl : row = current := Table.key_injOn hu hrow hcurrent (hsame.trans hrecorded)
      exact ⟨hevidence, .inr ⟨hid, hstate, hnext⟩⟩
    · exact ⟨rfl, .inl rfl⟩

theorem transitionHandoff_unique (hu : Table.KeysUnique CrossStoreHandoff.id rows)
    (h : transitionHandoff rows handoffId expected next payloadHash code = some (rows', recorded)) :
    Table.KeysUnique CrossStoreHandoff.id rows' := by
  obtain ⟨-, -, -, -, -, ⟨rfl, rfl⟩ | ⟨-, rfl⟩⟩ := transitionHandoff_rows h
  · exact hu
  · exact hu.overwrite

variable {row : CrossStoreHandoff Payload}

theorem loadHandoff_of_mem {rows : List (CrossStoreHandoff Payload)}
    (hunique : Table.KeysUnique CrossStoreHandoff.id rows) (hrow : row ∈ rows) {handoffId : String}
    (hid : row.id = handoffId) : loadHandoff rows handoffId = some row :=
  hid ▸ Table.lookup_of_mem hunique hrow

theorem transitionHandoff_of_mem {rows : List (CrossStoreHandoff Payload)} {expected : HandoffState}
    (next : HandoffState) (hunique : Table.KeysUnique CrossStoreHandoff.id rows) (hrow : row ∈ rows)
    (hstate : row.state = expected) (hallowed : (allowedTransition expected).contains next = true)
    (hne : expected ≠ next) :
    ∃ updated, transitionHandoff rows row.id expected next row.evidence.payloadHash none =
        some (Table.overwrite CrossStoreHandoff.id rows updated, updated) ∧
      updated.evidence = row.evidence ∧ updated.state = next := by
  unfold transitionHandoff
  rw [if_neg (by simpa using hallowed), loadHandoff_of_mem hunique hrow rfl]
  dsimp only
  rw [if_neg (by simp), if_neg (by rw [hstate]; exact hne), if_neg (by simp [hstate])]
  exact ⟨_, rfl, rfl, rfl⟩

def HandoffState.Leads : HandoffState → HandoffState → Prop :=
  Relation.ReflTransGen fun state next => next ∈ allowedTransition state

def MovesForward (rows rows' : List (CrossStoreHandoff Payload)) : Prop :=
  ∀ row ∈ rows, ∃ kept ∈ rows', kept.evidence = row.evidence ∧ row.state.Leads kept.state ∧
    (kept.state = row.state → kept = row)

def HandoffState.rank : HandoffState → Nat
  | .prepared => 0
  | .peerCommitted => 1
  | .sourceConfirmed => 1
  | .completed => 2
  | .aborted => 2
  | .ambiguous => 2

theorem HandoffState.Leads.rank_lt {state next : HandoffState} (h : state.Leads next) :
    next = state ∨ state.rank < next.rank := by
  induction h with
  | refl => exact .inl rfl
  | @tail middle last _ hlast ih =>
    have hstep : middle.rank < last.rank := by
      revert hlast
      cases middle <;> cases last <;> decide
    rcases ih with rfl | hlt
    · exact .inr hstep
    · exact .inr (hlt.trans hstep)

theorem HandoffState.Leads.of_completed {next : HandoffState}
    (h : HandoffState.Leads .completed next) : next = .completed := by
  rcases h.rank_lt with rfl | hlt
  · rfl
  · revert hlt
    cases next <;> decide

theorem MovesForward.refl (rows : List (CrossStoreHandoff Payload)) : MovesForward rows rows :=
  fun row hrow => ⟨row, hrow, rfl, .refl, fun _ => rfl⟩

theorem MovesForward.trans {a b c : List (CrossStoreHandoff Payload)} (h : MovesForward a b)
    (h' : MovesForward b c) : MovesForward a c := by
  intro row hrow
  obtain ⟨middle, hmiddle, hevidence, hleads, hsame⟩ := h row hrow
  obtain ⟨last, hlast, hevidence', hleads', hsame'⟩ := h' middle hmiddle
  refine ⟨last, hlast, hevidence'.trans hevidence, hleads.trans hleads', fun heq => ?_⟩
  -- ranks grow strictly, so a record back in its state has not moved
  have hmiddleState : middle.state = row.state := by
    rcases hleads.rank_lt with hstill | hlt
    · exact hstill
    · rcases hleads'.rank_lt with hstill' | hlt'
      · exact hstill'.symm.trans heq
      · rw [heq] at hlt'
        omega
  rw [hsame' (heq.trans hmiddleState.symm), hsame hmiddleState]

theorem MovesForward.insert (rows : List (CrossStoreHandoff Payload))
    (row : CrossStoreHandoff Payload) :
    MovesForward rows (Table.insert rows row) :=
  fun old hold => ⟨old, Table.mem_insert.mpr (.inl hold), rfl, .refl, fun _ => rfl⟩

theorem transitionHandoff_forward {rows rows' : List (CrossStoreHandoff Payload)}
    {recorded : CrossStoreHandoff Payload} (hunique : Table.KeysUnique CrossStoreHandoff.id rows)
    (h : transitionHandoff rows handoffId expected next payloadHash code = some (rows', recorded)) :
    MovesForward rows rows' := by
  have hallowed : next ∈ allowedTransition expected := by
    by_contra hnot
    rw [transitionHandoff, if_pos (by simpa using hnot)] at h
    cases h
  obtain ⟨f, rfl, hf⟩ := transitionHandoff_map hunique h
  intro row hrow
  refine ⟨f row, List.mem_map_of_mem hrow, (hf row hrow).1, ?_⟩
  rcases (hf row hrow).2 with hsame | ⟨-, hfrom, hto⟩
  · rw [hsame]
    exact ⟨.refl, fun _ => rfl⟩
  · rw [hfrom, hto]
    have hself : expected ∉ allowedTransition expected := by
      cases expected <;> decide
    exact ⟨.single hallowed, fun heq => absurd (heq ▸ hallowed) hself⟩

variable [DecidableEq Payload] {hash : Payload → String}

theorem mismatch_none_iff {source peer : HandoffEvidence Payload} :
    handoffEvidenceMismatch hash source peer = none ↔
      source = peer ∧ decodes hash source = true := by
  obtain ⟨a, b, c, d, e, f, g, h⟩ := source
  obtain ⟨a', b', c', d', e', f', g', h'⟩ := peer
  unfold handoffEvidenceMismatch
  dsimp only
  constructor
  · intro hnone
    split at hnone
    · cases hnone
    · rename_i hfind
      simp only [List.find?_eq_none, List.mem_cons, List.not_mem_nil, or_false,
        forall_eq_or_imp, forall_eq, Bool.not_eq_true', Bool.not_eq_false,
        decide_eq_true_eq] at hfind
      obtain ⟨rfl, rfl, rfl, rfl, rfl, rfl, rfl, rfl⟩ := hfind
      split at hnone
      · rename_i hdecodes
        exact ⟨rfl, Bool.and_elim_left hdecodes⟩
      · cases hnone
  · rintro ⟨heq, hdecodes⟩
    cases heq
    simp [hdecodes]

theorem recordHandoff_rows (h : recordHandoff hash rows handoff = some (rows', recorded)) :
    decodes hash handoff.evidence = true ∧ recorded.evidence = handoff.evidence ∧
      recorded ∈ rows' ∧
      (rows' = rows ∨
        loadHandoff rows handoff.id = none ∧ rows' = Table.insert rows handoff) := by
  unfold recordHandoff at h
  split at h
  · cases h
  · rename_i hguard
    have hdecodes : decodes hash handoff.evidence = true := by
      by_contra hnot
      exact hguard (by simp [hnot])
    split at h
    · rename_i existing hload
      split at h
      · cases h
      · rename_i hmismatch
        have heq := mismatch_none_iff.mp (by simpa using hmismatch)
        split at h
        · cases h
        · obtain ⟨rfl, rfl⟩ := Prod.mk.inj (Option.some.inj h)
          exact ⟨hdecodes, heq.1, Table.lookup_mem hload, .inl rfl⟩
    · rename_i hload
      obtain ⟨rfl, rfl⟩ := Prod.mk.inj (Option.some.inj h)
      exact ⟨hdecodes, rfl, Table.mem_insert.mpr (.inr rfl), .inr ⟨hload, rfl⟩⟩

theorem recordHandoff_unique (h : recordHandoff hash rows handoff = some (rows', recorded))
    (hu : Table.KeysUnique CrossStoreHandoff.id rows) :
    Table.KeysUnique CrossStoreHandoff.id rows' := by
  rcases (recordHandoff_rows h).2.2.2 with rfl | ⟨hfresh, rfl⟩
  · exact hu
  · exact hu.insert hfresh

theorem recordHandoff_forward {rows rows' : List (CrossStoreHandoff Payload)}
    {handoff recorded : CrossStoreHandoff Payload}
    (h : recordHandoff hash rows handoff = some (rows', recorded)) : MovesForward rows rows' := by
  rcases (recordHandoff_rows h).2.2.2 with rfl | ⟨-, rfl⟩
  · exact .refl _
  · exact .insert _ _

end

end MediaSync.CrossStore
