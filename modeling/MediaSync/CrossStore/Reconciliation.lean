import MediaSync.CrossStore.Handoff

/-! When the engine host starts, a coordinator lists the handoffs of both stores, the open ones
first, and takes them one by one: it does what is left of a handoff, goes over a settled one, and
gives up one whose records differ. -/
namespace MediaSync.CrossStore

section
variable {Payload : Type}

/-- `CASE WHEN state = 'COMPLETED' THEN 1 ELSE 0 END`. -/
def CrossStoreHandoff.settledRank (handoff : CrossStoreHandoff Payload) : Nat :=
  if handoff.state = .completed then 1 else 0

/-- `ORDER BY CASE WHEN state = 'COMPLETED' THEN 1 ELSE 0 END, updated_utc, id`, for the clock
readings `updatedUtc`. -/
def reconciledBefore (updatedUtc : String → String) (a b : CrossStoreHandoff Payload) : Bool :=
  a.settledRank < b.settledRank || (a.settledRank = b.settledRank &&
    (updatedUtc a.id < updatedUtc b.id || (updatedUtc a.id = updatedUtc b.id && a.id ≤ b.id)))

variable (updatedUtc : String → String) (handoffType direction : String) (limit : Nat)

def listHandoffsForReconciliation (rows : List (CrossStoreHandoff Payload)) :
    List (CrossStoreHandoff Payload) :=
  ((rows.filter fun handoff => handoff.evidence.handoffType = handoffType &&
    handoff.evidence.direction = direction && handoff.state ≠ .aborted).insertionSort
      fun a b => reconciledBefore updatedUtc a b = true).take limit

def candidateIds (sources peers : List (CrossStoreHandoff Payload)) : List String :=
  ((listHandoffsForReconciliation updatedUtc handoffType direction limit sources ++
    listHandoffsForReconciliation updatedUtc handoffType direction limit peers).map
      CrossStoreHandoff.id).eraseDups

def openHandoffs (rows : List (CrossStoreHandoff Payload)) : List (CrossStoreHandoff Payload) :=
  rows.filter fun handoff => handoff.state ≠ .completed

variable {updatedUtc handoffType direction limit}
variable {rows sources peers : List (CrossStoreHandoff Payload)}
  {handoff : CrossStoreHandoff Payload} {handoffId : String}

theorem mem_of_listed
    (h : handoff ∈ listHandoffsForReconciliation updatedUtc handoffType direction limit rows) :
    handoff ∈ rows :=
  List.mem_of_mem_filter ((List.mem_insertionSort _).mp (List.mem_of_mem_take h))

theorem mem_of_candidate
    (h : handoffId ∈ candidateIds updatedUtc handoffType direction limit sources peers) :
    ∃ handoff, (handoff ∈ sources ∨ handoff ∈ peers) ∧ handoff.id = handoffId := by
  rw [candidateIds, List.mem_eraseDups] at h
  obtain ⟨handoff, hmem, hid⟩ := List.mem_map.mp h
  refine ⟨handoff, ?_, hid⟩
  rcases List.mem_append.mp hmem with hsource | hpeer
  · exact .inl (mem_of_listed hsource)
  · exact .inr (mem_of_listed hpeer)

theorem settledRank_zero : handoff.settledRank = 0 ↔ handoff.state ≠ .completed := by
  unfold CrossStoreHandoff.settledRank
  split <;> simp_all

theorem open_candidate (hfits : (openHandoffs sources).length ≤ limit) (hmem : handoff ∈ sources)
    (htype : handoff.evidence.handoffType = handoffType)
    (hdirection : handoff.evidence.direction = direction) (haborted : handoff.state ≠ .aborted)
    (hopen : handoff.state ≠ .completed) :
    handoff.id ∈ candidateIds updatedUtc handoffType direction limit sources peers := by
  have hlisted : handoff ∈
      listHandoffsForReconciliation updatedUtc handoffType direction limit sources := by
    unfold listHandoffsForReconciliation
    refine Table.mem_take_sorted CrossStoreHandoff.settledRank (fun a b hle => ?_)
      (fun a b hnot => ?_) (List.mem_filter.mpr ⟨hmem, ?_⟩) (settledRank_zero.mpr hopen) ?_
    · simp only [reconciledBefore, Bool.or_eq_true, Bool.and_eq_true, decide_eq_true_eq] at hle
      omega
    · simp only [reconciledBefore, Bool.or_eq_true, Bool.and_eq_true, decide_eq_true_eq] at hnot
      omega
    · simp [htype, hdirection, haborted]
    · refine le_trans ?_ hfits
      rw [openHandoffs, ← List.countP_eq_length_filter]
      refine (List.Sublist.countP_le List.filter_sublist).trans (List.countP_mono_left ?_)
      intro row _ hzero
      exact decide_eq_true (settledRank_zero.mp (of_decide_eq_true hzero))
  rw [candidateIds, List.mem_eraseDups]
  exact List.mem_map_of_mem (List.mem_append_left _ hlisted)

end

inductive Reconciled (State : Type) where
  | completed (s : State)
  | ambiguous (s : State)
  /-- Both records are COMPLETED: the loop goes on. -/
  | settled
  | raised (s : State)

structure ReconciliationReport where
  scanned : List String
  completed : List String
  ambiguous : List String
  deriving DecidableEq

section
variable {State : Type}

/-- The loop of `reconcile_pending`; a raise ends it, and with it the report. -/
def reconcileEach (turn : String → State → Reconciled State) :
    List String → State → List String → List String → State × Option (List String × List String)
  | [], s, completed, ambiguous => (s, some (completed, ambiguous))
  | handoffId :: rest, s, completed, ambiguous =>
    match turn handoffId s with
    | .completed next => reconcileEach turn rest next (completed ++ [handoffId]) ambiguous
    | .ambiguous next => reconcileEach turn rest next completed (ambiguous ++ [handoffId])
    | .settled => reconcileEach turn rest s completed ambiguous
    | .raised reached => (reached, none)

def reconcilePending (turn : String → State → Reconciled State) (scanned : List String)
    (limit : Nat) (s : State) : State × Option ReconciliationReport :=
  if limit < 1 ∨ limit > 1000 then (s, none)
  else
    let ended := reconcileEach turn scanned s [] []
    (ended.1, ended.2.map fun lists =>
      { scanned, completed := lists.1, ambiguous := lists.2 })

/-- Each turn settles its handoff and keeps what is known and settled of the others. -/
structure CompletesEach (turn : String → State → Reconciled State) (Good : State → Prop)
    (Step : State → State → Prop) (Known Settled : State → String → Prop) : Prop where
  refl : ∀ s, Step s s
  trans : ∀ {a b c}, Step a b → Step b c → Step a c
  good : ∀ {s s'}, Good s → Step s s' → Good s'
  known : ∀ {s s' handoffId}, Known s handoffId → Step s s' → Known s' handoffId
  settled : ∀ {s s' handoffId}, Good s → Step s s' → Settled s handoffId → Settled s' handoffId
  turn : ∀ {s handoffId}, Good s → Known s handoffId →
    turn handoffId s = .settled ∧ Settled s handoffId ∨
      ∃ s', turn handoffId s = .completed s' ∧ Step s s' ∧ Settled s' handoffId

variable {turn : String → State → Reconciled State} {Good : State → Prop}
  {Step : State → State → Prop} {Known Settled : State → String → Prop} {s : State}

theorem reconcileEach_completes (h : CompletesEach turn Good Step Known Settled) (hs : Good s)
    (ids completed ambiguous : List String) (hids : ∀ handoffId ∈ ids, Known s handoffId) :
    ∃ s' completed', reconcileEach turn ids s completed ambiguous =
        (s', some (completed', ambiguous)) ∧ Step s s' ∧
      ∀ handoffId ∈ ids, Settled s' handoffId := by
  induction ids generalizing s completed with
  | nil => exact ⟨s, completed, rfl, h.refl s, fun _ hmem => absurd hmem List.not_mem_nil⟩
  | cons handoffId rest ih =>
    have hrest : ∀ other ∈ rest, Known s other :=
      fun other hmem => hids other (List.mem_cons_of_mem _ hmem)
    rcases h.turn hs (hids handoffId List.mem_cons_self) with
      ⟨hturn, hsettled⟩ | ⟨next, hturn, hstep, hsettled⟩
    · obtain ⟨last, lists, hloop, hsteps, hall⟩ := ih hs completed hrest
      refine ⟨last, lists, ?_, hsteps, fun other hmem => ?_⟩
      · rw [reconcileEach, hturn]
        exact hloop
      · rcases List.mem_cons.mp hmem with rfl | hmem
        · exact h.settled hs hsteps hsettled
        · exact hall other hmem
    · have hnext := h.good hs hstep
      obtain ⟨last, lists, hloop, hsteps, hall⟩ := ih hnext (completed ++ [handoffId])
        fun other hmem => h.known (hrest other hmem) hstep
      refine ⟨last, lists, ?_, h.trans hstep hsteps, fun other hmem => ?_⟩
      · rw [reconcileEach, hturn]
        exact hloop
      · rcases List.mem_cons.mp hmem with rfl | hmem
        · exact h.settled hnext hsteps hsettled
        · exact hall other hmem

theorem reconcileEach_settled (ids completed ambiguous : List String)
    (hids : ∀ handoffId ∈ ids, turn handoffId s = .settled) :
    reconcileEach turn ids s completed ambiguous = (s, some (completed, ambiguous)) := by
  induction ids with
  | nil => rfl
  | cons handoffId rest ih =>
    rw [reconcileEach, hids handoffId List.mem_cons_self]
    exact ih fun other hmem => hids other (List.mem_cons_of_mem _ hmem)

end

end MediaSync.CrossStore
