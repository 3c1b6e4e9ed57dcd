import MediaSync.Recovery.Tables

/-! Registration, release and stale reconciliation of exclusive endpoint leases, with the fencing
token counters. -/
namespace MediaSync.Recovery
open Text

variable {Dir : Type}

/-- The arguments of `register_acquired_resource_lease`. -/
structure LeaseRequest where
  leaseId : String
  resourceKey : String
  ownerInstanceId : String
  ownershipEpoch : Int
  runId : String
  runTargetId : String
  endpointId : String
  endpointGeneration : Option Int
  deriving DecidableEq

def LeaseRequest.valid (request : LeaseRequest) : Bool :=
  nonEmpty [request.leaseId, request.resourceKey, request.ownerInstanceId, request.runId,
    request.runTargetId, request.endpointId] &&
  1 ≤ request.ownershipEpoch && request.endpointGeneration.all fun generation => 1 ≤ generation

def allocateToken (counters : List LeaseCounter) (resourceKey : String) (ownershipEpoch : Int) :
    Except Raised (Int × List LeaseCounter) :=
  match Table.lookup LeaseCounter.resourceKey counters resourceKey with
  | none =>
    if Table.fitsColumn ownershipEpoch then
      .ok (1, Table.insert counters ⟨resourceKey, ownershipEpoch, 1⟩)
    else .error .overflow
  | some counter =>
    if ownershipEpoch < counter.ownershipEpoch then
      .error (.storeError "ENDPOINT_FENCING_TOKEN_STALE_EPOCH")
    else
      let token := if counter.ownershipEpoch < ownershipEpoch then 1
        else counter.lastFencingToken + 1
      if Table.fitsColumn ownershipEpoch && Table.fitsColumn token then
        .ok (token, Table.overwrite LeaseCounter.resourceKey counters
          ⟨resourceKey, ownershipEpoch, token⟩)
      else .error .overflow

def activeLeasesFor (leases : List ResourceLease) (resourceKey : String) : List ResourceLease :=
  leases.filter fun row => row.resourceKey == resourceKey && row.state == .acquired

def registerAcquiredResourceLease (request : LeaseRequest) : Body Dir Int := fun t =>
  if (activeLeasesFor t.leases request.resourceKey).isEmpty then
    match allocateToken t.counters request.resourceKey request.ownershipEpoch with
    | .error raised => (.error raised, t)
    | .ok (token, counters) =>
      if !request.endpointGeneration.all Table.fitsColumn then
        (.error .overflow, { t with counters })
      else if (Table.lookup ResourceLease.leaseId t.leases request.leaseId).isSome ||
          t.leases.any (fun row => row.resourceKey == request.resourceKey &&
            row.ownershipEpoch == request.ownershipEpoch && row.fencingToken == token) then
        (.error (.storeError "ENDPOINT_RESOURCE_LEASE_PERSISTENCE_FAILED"), { t with counters })
      else
        (.ok token, { t with
          counters
          leases := Table.insert t.leases {
            leaseId := request.leaseId
            resourceKey := request.resourceKey
            ownershipEpoch := request.ownershipEpoch
            fencingToken := token
            ownerInstanceId := request.ownerInstanceId
            runId := request.runId
            runTargetId := request.runTargetId
            endpointId := request.endpointId
            endpointGeneration := request.endpointGeneration
            state := .acquired } })
  else (.error (.storeError "ENDPOINT_RESOURCE_LEASE_ACTIVE_CONFLICT"), t)

def releaseRows (chosen : ResourceLease → Bool) (leases : List ResourceLease) :
    List ResourceLease :=
  leases.map fun row => if chosen row then { row with state := .released } else row

def releaseResourceLease (leaseId : String) : Body Dir Unit := fun t =>
  let chosen := fun row : ResourceLease => row.leaseId == leaseId && row.state == .acquired
  if t.leases.any chosen then (.ok (), { t with leases := releaseRows chosen t.leases })
  else (.error (.storeError "ENDPOINT_RESOURCE_LEASE_RELEASE_CONFLICT"), t)

/-- `reconcile_stale_active_resource_lease_after_lock_acquired`, inside its transaction: the
holder of the operating-system lock releases the rows a crashed process left acquired. -/
def reconcileStaleActiveResourceLease (resourceKey endpointId : String) :
    Body Dir (List String) := fun t =>
  let rows := activeLeasesFor t.leases resourceKey
  if rows.any fun row => row.endpointId != endpointId then
    (.error (.storeError "ENDPOINT_RESOURCE_LEASE_ACTIVE_CONFLICT"), t)
  else
    (.ok (rows.map ResourceLease.leaseId), { t with
      leases := releaseRows
        (fun row => row.resourceKey == resourceKey && row.state == .acquired) t.leases })

structure ExclusiveLeases (leases : List ResourceLease) : Prop where
  ids : Table.KeysUnique ResourceLease.leaseId leases
  exclusive : ∀ a ∈ leases, ∀ b ∈ leases, a.state = .acquired → b.state = .acquired →
    a.resourceKey = b.resourceKey → a = b

variable {leases : List ResourceLease}

theorem mem_releaseRows {chosen : ResourceLease → Bool} {row : ResourceLease}
    (h : row ∈ releaseRows chosen leases) : row.state = .released ∨ row ∈ leases := by
  obtain ⟨old, hold, rfl⟩ := List.mem_map.mp h
  by_cases hc : chosen old = true
  · left; simp [hc]
  · right; simp [hc, hold]

theorem map_leaseId_releaseRows (chosen : ResourceLease → Bool) (leases : List ResourceLease) :
    (releaseRows chosen leases).map ResourceLease.leaseId = leases.map ResourceLease.leaseId := by
  simp only [releaseRows, List.map_map]
  refine List.map_congr_left fun row _ => ?_
  by_cases hc : chosen row = true <;> simp [hc]

theorem ExclusiveLeases.releaseRows (h : ExclusiveLeases leases) (chosen : ResourceLease → Bool) :
    ExclusiveLeases (releaseRows chosen leases) where
  ids := by
    unfold Table.KeysUnique
    rw [map_leaseId_releaseRows]
    exact h.ids
  exclusive := by
    intro a ha b hb hsa hsb hk
    rcases mem_releaseRows ha with hra | ha'
    · rw [hsa] at hra; cases hra
    · rcases mem_releaseRows hb with hrb | hb'
      · rw [hsb] at hrb; cases hrb
      · exact h.exclusive a ha' b hb' hsa hsb hk

variable {t : Tables Dir}

theorem ExclusiveLeases.release (h : ExclusiveLeases t.leases) (leaseId : String) :
    ExclusiveLeases (releaseResourceLease leaseId t).2.leases := by
  unfold releaseResourceLease
  dsimp only
  split
  · exact h.releaseRows _
  · exact h

theorem ExclusiveLeases.reconcile (h : ExclusiveLeases t.leases) (resourceKey endpointId : String) :
    ExclusiveLeases (reconcileStaleActiveResourceLease resourceKey endpointId t).2.leases := by
  unfold reconcileStaleActiveResourceLease
  dsimp only
  split
  · exact h
  · exact h.releaseRows _

theorem ExclusiveLeases.register (h : ExclusiveLeases t.leases) (request : LeaseRequest) :
    ExclusiveLeases (registerAcquiredResourceLease request t).2.leases := by
  unfold registerAcquiredResourceLease
  split
  · rename_i hfree
    rcases allocateToken t.counters request.resourceKey request.ownershipEpoch with
      code | ⟨token, counters⟩
    · exact h
    · dsimp only
      split
      · exact h
      split
      · exact h
      · rename_i hfresh
        simp only [Bool.or_eq_true, not_or, Bool.not_eq_true] at hfresh
        have hid := hfresh.1
        rw [Option.isSome_eq_false_iff, Option.isNone_iff_eq_none] at hid
        have hnone : ∀ a ∈ t.leases, a.state = .acquired → a.resourceKey ≠ request.resourceKey := by
          intro a ha hs hk
          have hmem : a ∈ activeLeasesFor t.leases request.resourceKey := by
            simp [activeLeasesFor, ha, hs, hk]
          rw [List.isEmpty_iff.mp hfree] at hmem
          exact List.not_mem_nil hmem
        refine ⟨h.ids.insert hid, ?_⟩
        intro a ha b hb hsa hsb hk
        rcases Table.mem_insert.mp ha with ha' | rfl
        · rcases Table.mem_insert.mp hb with hb' | rfl
          · exact h.exclusive a ha' b hb' hsa hsb hk
          · exact absurd hk (hnone a ha' hsa)
        · rcases Table.mem_insert.mp hb with hb' | rfl
          · exact absurd hk.symm (hnone b hb' hsb)
          · rfl
  · exact h

end MediaSync.Recovery
