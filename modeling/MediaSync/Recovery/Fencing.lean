import MediaSync.Foundation.Issuance
import MediaSync.Foundation.Transition
import MediaSync.Recovery.LeaseStore

/-! Arbitrary sequences of calls on the resource lease store and the fencing token store of one
recovery connection, with the tokens they hand out in order. -/
namespace MediaSync.Recovery
open Issuance Text Transition

variable {Dir : Type}

structure Issue where
  resourceKey : String
  ownershipEpoch : Int
  fencingToken : Int
  deriving DecidableEq

def Issue.pair (issue : Issue) : Int ×ₗ Int := toLex (issue.ownershipEpoch, issue.fencingToken)

def LeaseCounter.pair (counter : LeaseCounter) : Int ×ₗ Int :=
  toLex (counter.ownershipEpoch, counter.lastFencingToken)

/-- The pair the stored counter of a resource has reached, `⊥` without a counter. -/
def reached (counters : List LeaseCounter) (resourceKey : String) : WithBot (Int ×ₗ Int) :=
  match Table.lookup LeaseCounter.resourceKey counters resourceKey with
  | none => ⊥
  | some counter => counter.pair

def allocateNextFencingToken (resourceKey : String) (ownershipEpoch : Int) : Body Dir Int :=
  fun t =>
    match allocateToken t.counters resourceKey ownershipEpoch with
    | .error raised => (.error raised, t)
    | .ok (token, counters) => (.ok token, { t with counters })

inductive LeaseCall where
  | register (request : LeaseRequest)
  | reconcileStale (resourceKey endpointId : String)
  | release (leaseId : String)
  | allocate (resourceKey : String) (ownershipEpoch : Int)

namespace LeaseCall

def refusal : LeaseCall → Option String
  | register request =>
    if request.valid then none else some "ENDPOINT_RESOURCE_LEASE_INVALID_REQUEST"
  | reconcileStale resourceKey endpointId =>
    if nonEmpty [resourceKey, endpointId] then none
    else some "ENDPOINT_RESOURCE_LEASE_INVALID_REQUEST"
  | release leaseId =>
    if nonEmpty [leaseId] then none else some "ENDPOINT_RESOURCE_LEASE_INVALID_REQUEST"
  | allocate resourceKey ownershipEpoch =>
    if nonEmpty [resourceKey] && 1 ≤ ownershipEpoch then none
    else some "ENDPOINT_FENCING_TOKEN_INVALID_REQUEST"

def asks : LeaseCall → Option (String × Int)
  | register request => some (request.resourceKey, request.ownershipEpoch)
  | allocate resourceKey ownershipEpoch => some (resourceKey, ownershipEpoch)
  | reconcileStale .. | release _ => none

def body : LeaseCall → Body Dir (Option Int)
  | register request => fun t =>
    let next := registerAcquiredResourceLease request t
    (next.1.map some, next.2)
  | reconcileStale resourceKey endpointId => fun t =>
    let next := reconcileStaleActiveResourceLease resourceKey endpointId t
    (next.1.map fun _ => none, next.2)
  | release leaseId => fun t =>
    let next := releaseResourceLease leaseId t
    (next.1.map fun _ => none, next.2)
  | allocate resourceKey ownershipEpoch => fun t =>
    let next := allocateNextFencingToken resourceKey ownershipEpoch t
    (next.1.map some, next.2)

def perform (call : LeaseCall) (c : Connection Dir) : Except Raised (Option Int) × Connection Dir :=
  match call.refusal with
  | some code => (.error (.storeError code), c)
  | none => c.execute call.body

/-- A call that asks for an older epoch than the stored one. -/
def isStale (counters : List LeaseCounter) (resourceKey : String) (ownershipEpoch : Int) : Bool :=
  (Table.lookup LeaseCounter.resourceKey counters resourceKey).any fun counter =>
    ownershipEpoch < counter.ownershipEpoch

/-- Whether the epoch and the token after the stored one are numbers that SQLite stores. -/
def pairFits (counters : List LeaseCounter) (resourceKey : String) (ownershipEpoch : Int) : Bool :=
  Table.fitsColumn ownershipEpoch &&
    (Table.lookup LeaseCounter.resourceKey counters resourceKey).all fun counter =>
      counter.ownershipEpoch < ownershipEpoch || Table.fitsColumn (counter.lastFencingToken + 1)

def fits (t : Tables Dir) : LeaseCall → Bool
  | register request =>
    !(activeLeasesFor t.leases request.resourceKey).isEmpty ||
      isStale t.counters request.resourceKey request.ownershipEpoch ||
      (pairFits t.counters request.resourceKey request.ownershipEpoch &&
        request.endpointGeneration.all Table.fitsColumn)
  | allocate resourceKey ownershipEpoch =>
    isStale t.counters resourceKey ownershipEpoch || pairFits t.counters resourceKey ownershipEpoch
  | reconcileStale .. | release _ => true

def issues (call : LeaseCall) : Except Raised (Option Int) → List Issue
  | .ok (some token) => call.asks.toList.map fun (key, epoch) => ⟨key, epoch, token⟩
  | .ok none | .error _ => []

end LeaseCall

structure FencingState (Dir : Type) where
  store : Connection Dir
  issued : List Issue := []

def leaseStores (Dir : Type) : System (FencingState Dir) LeaseCall where
  init s := ∃ directories : Dir, s = { store := ⟨{ directories }, { directories }, false⟩ }
  step s call :=
    let next := call.perform s.store
    some ⟨next.2, s.issued ++ call.issues next.1⟩

/-- The call is refused before its transaction, or never binds a number beyond 64 bits. -/
def InRange (s : FencingState Dir) (call : LeaseCall) : Prop :=
  call.refusal.isSome = true ∨ call.fits s.store.current = true

theorem allocateToken_error {counters : List LeaseCounter} {key : String} {epoch : Int}
    {raised : Raised} (h : allocateToken counters key epoch = .error raised) :
    (∃ code, raised = .storeError code) ∨ raised = .overflow ∧
      LeaseCall.isStale counters key epoch = false ∧
      LeaseCall.pairFits counters key epoch = false := by
  rw [allocateToken] at h
  split at h
  · rename_i hnone
    split at h
    · cases h
    · rename_i hfits
      cases h
      exact .inr ⟨rfl, by simp [LeaseCall.isStale, hnone], by simp [LeaseCall.pairFits, hfits]⟩
  · rename_i counter hcounter
    split at h
    · cases h
      exact .inl ⟨_, rfl⟩
    · rename_i hstale
      dsimp only at h
      generalize htoken : (if counter.ownershipEpoch < epoch then 1
        else counter.lastFencingToken + 1) = token at h
      split at h
      · cases h
      · rename_i hfits
        cases h
        subst htoken
        refine .inr ⟨rfl, by simpa [LeaseCall.isStale, hcounter] using hstale, ?_⟩
        rw [LeaseCall.pairFits, hcounter, Option.all_some, Bool.eq_false_iff]
        intro hpair
        refine hfits ?_
        rw [Bool.and_eq_true] at hpair ⊢
        refine ⟨hpair.1, ?_⟩
        split
        · rfl
        · rename_i hless
          simpa [hless] using hpair.2

theorem allocateToken_not_stale {counters after : List LeaseCounter} {key : String}
    {epoch token : Int} (h : allocateToken counters key epoch = .ok (token, after)) :
    LeaseCall.isStale counters key epoch = false := by
  rw [allocateToken] at h
  rw [LeaseCall.isStale]
  cases hcounter : Table.lookup LeaseCounter.resourceKey counters key with
  | none => rfl
  | some counter =>
    rw [hcounter] at h
    rw [Option.any_some, decide_eq_false_iff_not]
    intro hstale
    simp only [hstale, if_true] at h
    cases h

theorem allocateToken_ok {counters after : List LeaseCounter} {key : String} {epoch token : Int}
    (h : allocateToken counters key epoch = .ok (token, after)) :
    reached after key = ((toLex (epoch, token) : Int ×ₗ Int) : WithBot _) ∧
    reached counters key < ((toLex (epoch, token) : Int ×ₗ Int) : WithBot _) ∧
    ∀ other, other ≠ key → reached after other = reached counters other := by
  rw [allocateToken] at h
  split at h
  · rename_i hnone
    split at h
    swap
    · cases h
    simp only [Except.ok.injEq, Prod.mk.injEq] at h
    obtain ⟨rfl, rfl⟩ := h
    let row : LeaseCounter := ⟨key, epoch, 1⟩
    refine ⟨?_, ?_, ?_⟩
    · have hself : Table.lookup LeaseCounter.resourceKey (Table.insert counters row)
          row.resourceKey = some row := Table.lookup_insert_self hnone
      rw [reached, hself]
      rfl
    · rw [reached, hnone]
      exact WithBot.bot_lt_coe _
    · intro other hother
      have hsame : Table.lookup LeaseCounter.resourceKey (Table.insert counters row) other = _ :=
        Table.lookup_insert_other fun heq => hother heq.symm
      rw [reached, hsame, reached]
  · rename_i counter hcounter
    split at h
    · cases h
    · rename_i hstale
      dsimp only at h
      generalize htoken : (if counter.ownershipEpoch < epoch then 1
        else counter.lastFencingToken + 1) = next at h
      split at h
      swap
      · cases h
      simp only [Except.ok.injEq, Prod.mk.injEq] at h
      obtain ⟨rfl, rfl⟩ := h
      subst htoken
      let row : LeaseCounter := ⟨key, epoch, if counter.ownershipEpoch < epoch then 1
        else counter.lastFencingToken + 1⟩
      refine ⟨?_, ?_, ?_⟩
      · have hself : Table.lookup LeaseCounter.resourceKey
            (Table.overwrite LeaseCounter.resourceKey counters row) row.resourceKey = some row :=
          Table.lookup_overwrite_self hcounter
        rw [reached, hself]
        rfl
      · rw [reached, hcounter]
        apply WithBot.coe_lt_coe.mpr
        rw [LeaseCounter.pair, Prod.Lex.toLex_lt_toLex]
        -- the epoch advanced, or the token of the same epoch did
        by_cases hless : counter.ownershipEpoch < epoch
        · exact .inl hless
        · right
          rw [if_neg hless]
          show counter.ownershipEpoch = epoch ∧ counter.lastFencingToken <
            counter.lastFencingToken + 1
          omega
      · intro other hother
        have hsame : Table.lookup LeaseCounter.resourceKey
            (Table.overwrite LeaseCounter.resourceKey counters row) other = _ :=
          Table.lookup_overwrite_other fun heq => hother heq.symm
        rw [reached, hsame, reached]

inductive Answered (call : LeaseCall) (t : Tables Dir) :
    Except Raised (Option Int) × Tables Dir → Prop
  | issued {key : String} {epoch token : Int} {t' : Tables Dir}
      (hasks : call.asks = some (key, epoch))
      (htoken : allocateToken t.counters key epoch = .ok (token, t'.counters)) :
      Answered call t (.ok (some token), t')
  | kept {t' : Tables Dir} (hasks : call.asks = none) (hcounters : t'.counters = t.counters) :
      Answered call t (.ok none, t')
  | raised {code : String} {t' : Tables Dir} : Answered call t (.error (.storeError code), t')
  | overflow {t' : Tables Dir} (hfits : call.fits t = false) :
      Answered call t (.error .overflow, t')

theorem answered_register (request : LeaseRequest) (t : Tables Dir) :
    Answered (.register request) t ((LeaseCall.register request).body t) := by
  simp only [LeaseCall.body, registerAcquiredResourceLease]
  by_cases hfree : (activeLeasesFor t.leases request.resourceKey).isEmpty = true
  · rw [if_pos hfree]
    cases hissued : allocateToken t.counters request.resourceKey request.ownershipEpoch with
    | error raised =>
      rcases allocateToken_error hissued with ⟨code, rfl⟩ | ⟨rfl, hstale, hpair⟩
      · exact .raised
      · exact .overflow (by simp only [LeaseCall.fits, hfree, hstale, hpair]; rfl)
    | ok next =>
      obtain ⟨token, counters⟩ := next
      dsimp only
      by_cases hgeneration : request.endpointGeneration.all Table.fitsColumn = true
      swap
      · rw [Bool.not_eq_true] at hgeneration
        rw [hgeneration]
        refine .overflow ?_
        have hstale := allocateToken_not_stale hissued
        simp only [LeaseCall.fits, hfree, hstale, hgeneration, Bool.and_false]
        rfl
      rw [hgeneration]
      simp only [Bool.not_true, Bool.false_eq_true, if_false]
      -- a row already under the new id or pair fails the insertion after the token was taken
      by_cases htaken : ((Table.lookup ResourceLease.leaseId t.leases request.leaseId).isSome ||
          t.leases.any fun row => row.resourceKey == request.resourceKey &&
            row.ownershipEpoch == request.ownershipEpoch && row.fencingToken == token) = true
      · rw [if_pos htaken]
        exact .raised
      · rw [if_neg htaken]
        exact .issued rfl hissued
  · rw [if_neg hfree]
    exact .raised

theorem answered_reconcile (resourceKey endpointId : String) (t : Tables Dir) :
    Answered (.reconcileStale resourceKey endpointId) t
      ((LeaseCall.reconcileStale resourceKey endpointId).body t) := by
  simp only [LeaseCall.body, reconcileStaleActiveResourceLease]
  by_cases hother : ((activeLeasesFor t.leases resourceKey).any fun row =>
      row.endpointId != endpointId) = true
  · rw [if_pos hother]
    exact .raised
  · rw [if_neg hother]
    exact .kept rfl rfl

theorem answered_release (leaseId : String) (t : Tables Dir) :
    Answered (.release leaseId) t ((LeaseCall.release leaseId).body t) := by
  simp only [LeaseCall.body, releaseResourceLease]
  by_cases hheld : (t.leases.any fun row => row.leaseId == leaseId && row.state == .acquired) = true
  · rw [if_pos hheld]
    exact .kept rfl rfl
  · rw [if_neg hheld]
    exact .raised

theorem answered_allocate (resourceKey : String) (ownershipEpoch : Int) (t : Tables Dir) :
    Answered (.allocate resourceKey ownershipEpoch) t
      ((LeaseCall.allocate resourceKey ownershipEpoch).body t) := by
  simp only [LeaseCall.body, allocateNextFencingToken]
  cases hissued : allocateToken t.counters resourceKey ownershipEpoch with
  | error raised =>
    rcases allocateToken_error hissued with ⟨code, rfl⟩ | ⟨rfl, hstale, hpair⟩
    · exact .raised
    · exact .overflow (by rw [LeaseCall.fits, hstale, hpair]; rfl)
  | ok next => exact .issued rfl hissued

theorem answered (call : LeaseCall) (t : Tables Dir) : Answered call t (call.body t) := by
  cases call with
  | register request => exact answered_register request t
  | reconcileStale resourceKey endpointId => exact answered_reconcile resourceKey endpointId t
  | release leaseId => exact answered_release leaseId t
  | allocate resourceKey ownershipEpoch => exact answered_allocate resourceKey ownershipEpoch t

theorem ExclusiveLeases.body {t : Tables Dir} (h : ExclusiveLeases t.leases) (call : LeaseCall) :
    ExclusiveLeases (call.body t).2.leases := by
  cases call with
  | register request => exact h.register request
  | reconcileStale resourceKey endpointId => exact h.reconcile resourceKey endpointId
  | release leaseId => exact h.release leaseId
  | allocate resourceKey ownershipEpoch =>
    simp only [LeaseCall.body, allocateNextFencingToken]
    cases allocateToken t.counters resourceKey ownershipEpoch <;> exact h

/-- No transaction is open, leases are exclusive, and the counters cover the pairs issued. -/
structure Fenced (s : FencingState Dir) : Prop where
  idle : s.store.inTransaction = false
  settled : s.store.current = s.store.committed
  leases : ExclusiveLeases s.store.current.leases
  issued : Issued Issue.resourceKey (fun issue => (issue.pair : WithBot (Int ×ₗ Int)))
    (reached s.store.current.counters) s.issued

variable {s : FencingState Dir}

theorem Fenced.perform (h : Fenced s) {call : LeaseCall} (hok : InRange s call) :
    (∃ token t', (call.perform s.store) = (.ok token, ⟨t', t', false⟩) ∧
      call.body s.store.current = (.ok token, t')) ∨
    ∃ raised, call.perform s.store = (.error raised, s.store) := by
  obtain ⟨⟨committed, current, inTransaction⟩, issued⟩ := s
  obtain rfl : inTransaction = false := h.idle
  obtain rfl : current = committed := h.settled
  rw [LeaseCall.perform]
  cases hrefusal : call.refusal with
  | some code => exact .inr ⟨_, rfl⟩
  | none =>
    have hanswer := answered call current
    simp only [Connection.execute, Bool.false_eq_true, if_false]
    generalize hbody : call.body current = next at hanswer
    cases hanswer with
    | issued hasks htoken => exact .inl ⟨_, _, rfl, rfl⟩
    | kept hasks' hcounters => exact .inl ⟨_, _, rfl, rfl⟩
    | raised => exact .inr ⟨_, rfl⟩
    | overflow hfits =>
      rcases hok with hrefused | hin
      · rw [hrefusal] at hrefused
        cases hrefused
      · exact absurd (hfits.symm.trans hin) Bool.false_ne_true

theorem Fenced.call (h : Fenced s) {call : LeaseCall} (hok : InRange s call) :
    Fenced ⟨(call.perform s.store).2, s.issued ++ call.issues (call.perform s.store).1⟩ := by
  obtain ⟨token, t', hperform, hbody⟩ | ⟨raised, hperform⟩ := h.perform hok
  · have hleases := h.leases.body call
    have hanswer := answered call s.store.current
    rw [hbody] at hleases hanswer
    rw [hperform]
    cases hanswer with
    | kept _ hcounters =>
      simp only [LeaseCall.issues, List.append_nil]
      refine ⟨rfl, rfl, hleases, ?_⟩
      show Issued _ _ (reached t'.counters) s.issued
      rw [hcounters]
      exact h.issued
    | @issued key epoch token _ hasks htoken =>
      obtain ⟨hstored, habove, hothers⟩ := allocateToken_ok htoken
      have hissues : call.issues (.ok (some token)) = [⟨key, epoch, token⟩] := by
        simp [LeaseCall.issues, hasks]
      rw [hissues]
      refine ⟨rfl, rfl, hleases, h.issued.append ?_ habove hstored.ge⟩
      intro other
      by_cases hother : other = key
      · rw [hother]
        exact (habove.trans_eq hstored.symm).le
      · exact (hothers other hother).ge
  · rw [hperform]
    simp only [LeaseCall.issues, List.append_nil]
    exact h

theorem fenced_reachable (h : (leaseStores Dir).ReachableWhen InRange s) : Fenced s := by
  apply h.invariant
  · rintro s ⟨directories, rfl⟩
    exact ⟨rfl, rfl, ⟨List.nodup_nil, fun a ha => absurd ha List.not_mem_nil⟩, .nil⟩
  · intro s call s' _ hs hok hstep
    cases hstep
    exact hs.call hok

theorem Fenced.stale (h : Fenced s) {call : LeaseCall} {key : String} {epoch : Int}
    (hasks : call.asks = some (key, epoch)) {issue : Issue} (hissue : issue ∈ s.issued)
    (hkey : issue.resourceKey = key) (hold : epoch < issue.ownershipEpoch) :
    ∃ raised, (call.perform s.store).1 = .error raised := by
  have hanswer := answered call s.store.current
  have hexecute : (s.store.execute call.body).1 = (call.body s.store.current).1 := by
    rw [Connection.execute, h.idle]
    rcases (call.body s.store.current).1 with (code | code | code) | token <;> rfl
  rw [LeaseCall.perform]
  split
  · exact ⟨_, rfl⟩
  rw [hexecute]
  generalize call.body s.store.current = next at hanswer
  cases hanswer with
  | raised => exact ⟨_, rfl⟩
  | overflow _ => exact ⟨_, rfl⟩
  | kept hnone _ =>
    rw [hasks] at hnone
    cases hnone
  | issued hasked htoken =>
    exfalso
    rw [hasks, Option.some.injEq, Prod.mk.injEq] at hasked
    obtain ⟨rfl, rfl⟩ := hasked
    obtain ⟨_, habove, _⟩ := allocateToken_ok htoken
    -- the issued pair is at most the counter's, which is below the new pair
    have hless := (h.issued.below issue hissue).trans_lt (hkey ▸ habove)
    rw [WithBot.coe_lt_coe, Issue.pair, Prod.Lex.toLex_lt_toLex] at hless
    omega

theorem ExclusiveLeases.length_active {leases : List ResourceLease} (h : ExclusiveLeases leases)
    (resourceKey : String) : (activeLeasesFor leases resourceKey).length ≤ 1 := by
  have hnodup : (activeLeasesFor leases resourceKey).Nodup :=
    (List.Nodup.of_map ResourceLease.leaseId h.ids).filter _
  have hsame : ∀ a ∈ activeLeasesFor leases resourceKey,
      ∀ b ∈ activeLeasesFor leases resourceKey, a = b := by
    intro a ha b hb
    simp only [activeLeasesFor, List.mem_filter, Bool.and_eq_true, beq_iff_eq] at ha hb
    exact h.exclusive a ha.1 b hb.1 ha.2.2 hb.2.2 (ha.2.1.trans hb.2.1.symm)
  cases hlist : activeLeasesFor leases resourceKey with
  | nil => exact Nat.zero_le _
  | cons first rest =>
    rw [hlist] at hnodup hsame
    cases rest with
    | nil => exact le_refl _
    | cons second rest =>
      have heq := hsame first List.mem_cons_self second (by simp)
      simp [heq] at hnodup

/-- As long as no call binds a number beyond 64 bits, a resource has at most one acquired lease,
the pairs issued for it increase, a call for an older epoch is rejected, and a rejected call changes
nothing. -/
theorem exclusive_leases_fenced {s : FencingState Dir}
    (h : (leaseStores Dir).ReachableWhen InRange s) :
    (∀ resourceKey, (s.store.current.leases.countP fun row =>
      row.resourceKey == resourceKey && row.state == .acquired) ≤ 1) ∧
    (s.issued.Pairwise fun earlier later =>
      earlier.resourceKey = later.resourceKey → earlier.pair < later.pair) ∧
    s.issued.Nodup ∧
    (∀ (call : LeaseCall) key epoch, call.asks = some (key, epoch) →
      (∃ issue ∈ s.issued, issue.resourceKey = key ∧ epoch < issue.ownershipEpoch) →
      ∃ raised, (call.perform s.store).1 = .error raised) ∧
    ∀ (call : LeaseCall) raised, InRange s call → (call.perform s.store).1 = .error raised →
      (call.perform s.store).2 = s.store := by
  have hinv := fenced_reachable h
  refine ⟨fun resourceKey => ?_, ?_, hinv.issued.nodup, ?_, ?_⟩
  · rw [List.countP_eq_length_filter]
    exact hinv.leases.length_active resourceKey
  -- the last issued pair of a key bounds the earlier ones
  · apply hinv.issued.increasing.imp
    intro earlier later hless hkey
    exact WithBot.coe_lt_coe.mp (hless hkey)
  · rintro call key epoch hasks ⟨issue, hissue, hkey, hold⟩
    exact hinv.stale hasks hissue hkey hold
  -- within 64 bits a call either answers or leaves the store as it found it
  · intro call raised hok hraised
    obtain ⟨token, t', hperform, _⟩ | ⟨raised', hperform⟩ := hinv.perform hok
    · rw [hperform] at hraised
      cases hraised
    · rw [hperform]

def volumeLease : LeaseRequest :=
  ⟨"lease-1", "volume", "engine", 1, "run", "target", "disk", some 1⟩

def fencedCalls : List LeaseCall :=
  [.register volumeLease, .allocate "volume" 2, .allocate "volume" 2, .release "lease-1",
    .register { volumeLease with ownershipEpoch := 2 }]

def noLeases : FencingState Unit := ⟨⟨{ directories := () }, { directories := () }, false⟩, []⟩

theorem exclusive_leases_fenced_replayed :
    ∃ s : FencingState Unit, (leaseStores Unit).replay noLeases fencedCalls = some s ∧
      s.issued = [⟨"volume", 1, 1⟩, ⟨"volume", 2, 1⟩, ⟨"volume", 2, 2⟩] ∧
      ∃ raised, (LeaseCall.perform (.allocate "volume" 1) s.store).1 = .error raised := by
  obtain ⟨s, hrun, hissued⟩ : ∃ s : FencingState Unit,
      (leaseStores Unit).replayWhile (fun s call => call.fits s.store.current) noLeases
        fencedCalls = some s ∧
      s.issued = [⟨"volume", 1, 1⟩, ⟨"volume", 2, 1⟩, ⟨"volume", 2, 2⟩] := ⟨_, rfl, by decide⟩
  have hreach : (leaseStores Unit).ReachableWhen InRange s :=
    System.ReachableWhen.replayWhile (fun _ _ hfits => .inr hfits) (.init ⟨(), rfl⟩) fencedCalls
      hrun
  refine ⟨s, hrun, hissued, ?_⟩
  refine (exclusive_leases_fenced hreach).2.2.2.1 _ "volume" 1 rfl ?_
  exact ⟨⟨"volume", 2, 1⟩, by simp [hissued], rfl, by decide⟩

def overflowedCalls : List LeaseCall :=
  [.allocate "volume" (2 ^ 63), .register volumeLease, .release "lease-1"]

/-- The allocation that overflows leaves its transaction open, and in it a registration under a
known lease id is refused after it has counted the token. -/
theorem overflow_unfences : ∃ s : FencingState Unit, (leaseStores Unit).Reachable s ∧
    ∃ (call : LeaseCall) (raised : Raised), (call.perform s.store).1 = .error raised ∧
      (call.perform s.store).2.current.counters.map LeaseCounter.lastFencingToken = [2] ∧
      s.store.current.counters.map LeaseCounter.lastFencingToken = [1] := by
  obtain ⟨s, hrun, hcalled⟩ : ∃ s : FencingState Unit,
      (leaseStores Unit).replay noLeases overflowedCalls = some s ∧
      (((LeaseCall.register volumeLease).perform s.store).1.toOption = none ∧
        ((LeaseCall.register volumeLease).perform s.store).2.current.counters.map
          LeaseCounter.lastFencingToken = [2] ∧
        s.store.current.counters.map LeaseCounter.lastFencingToken = [1]) :=
    ⟨_, rfl, by decide⟩
  refine ⟨s, System.Reachable.replay (.init ⟨(), rfl⟩) overflowedCalls hrun, .register volumeLease,
    ?_⟩
  obtain ⟨hfailed, hcounters, hbefore⟩ := hcalled
  cases hresult : ((LeaseCall.register volumeLease).perform s.store).1 with
  | ok token =>
    rw [hresult] at hfailed
    cases hfailed
  | error raised => exact ⟨raised, rfl, hcounters, hbefore⟩

end MediaSync.Recovery
