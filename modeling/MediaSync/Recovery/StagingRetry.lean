import Mathlib.Algebra.GroupWithZero.Nat
import Mathlib.Algebra.Ring.Int.Defs
import Mathlib.Logic.Function.Basic
import MediaSync.Recovery.OperationStore

/-! The backoff of a failed staging attempt, the deadlines that the retrying process keeps in
memory, and the operation store together with them. -/
namespace MediaSync.Recovery
open Text

/-- What `ClockPort` answers at one moment. -/
structure ClockReading where
  utcNow : String
  monotonicNs : Int

/-- The `datetime` functions the scheduler uses, with instants and differences in microseconds. -/
structure RetryCalendar where
  /-- The instant of a text that `_parse_utc` accepts. -/
  instant : String → Int
  /-- `_format_utc`. -/
  formatUtc : Int → String
  /-- `math.ceil(max(0.0, difference.total_seconds() * 1_000))`. -/
  ceilMs : Int → Int

def stagingRetryBaseMs : Int := 1000

def stagingRetryJitterFloorPercent : Int := 80

/-- `int.from_bytes(digest[:8], byteorder="big")` of the text's digest. -/
def leadingBytes (text : String) : Nat :=
  ((Sha256.digest (text.toUTF8.toList.map fun byte => byte.toBitVec)).take 2).foldl
    (fun value word => value * 2 ^ 32 + word.toNat) 0

def stagingRetryBackoffMs (runId operationId : String) (attemptNo : Int) : Except String Int := do
  check (nonBlank runId && nonBlank operationId) "STAGING_RETRY_REQUIRES_OPERATION_IDENTITY"
  check (1 ≤ attemptNo) "STAGING_RETRY_ATTEMPT_MUST_BE_POSITIVE"
  let exponent := min (attemptNo - 1).toNat 31
  let nominalMs := min (stagingRetryBaseMs * 2 ^ exponent) stagingRetryMaxMs
  let floorMs := nominalMs * stagingRetryJitterFloorPercent / 100
  let jitterSpanMs := nominalMs - floorMs
  let text := runId ++ "\x00" ++ operationId ++ "\x00" ++ toString attemptNo
  return floorMs + (leadingBytes text : Int) % (jitterSpanMs + 1)

theorem stagingRetryBackoffMs_bounds {runId operationId : String} {attemptNo backoffMs : Int}
    (h : stagingRetryBackoffMs runId operationId attemptNo = .ok backoffMs) :
    1 ≤ backoffMs ∧ backoffMs ≤ stagingRetryMaxMs := by
  obtain ⟨_, -, h⟩ := except_bind_ok h
  obtain ⟨_, -, h⟩ := except_bind_ok h
  have hpower : (0 : Int) < 2 ^ min (attemptNo - 1).toNat 31 := Int.pow_pos (by decide)
  have h := Except.ok.inj h
  simp only [stagingRetryBaseMs, stagingRetryMaxMs, stagingRetryJitterFloorPercent] at h ⊢
  generalize (leadingBytes _ : Int) = jitter at h
  generalize (2 : Int) ^ min (attemptNo - 1).toNat 31 = power at h hpower
  have hnominal : 1000 ≤ min (1000 * power) 30000 ∧ min (1000 * power) 30000 ≤ 30000 := by omega
  generalize min (1000 * power) 30000 = nominalMs at h hnominal
  have hspan : 0 < nominalMs - nominalMs * 80 / 100 + 1 := by omega
  have hlow := Int.emod_nonneg jitter hspan.ne'
  have hhigh := Int.emod_lt_of_pos jitter hspan
  omega

structure StagingRetryTiming where
  observedUtc : String
  retryNotBeforeUtc : String
  backoffMs : Int
  deadlineMonotonicNs : Int

structure ActiveDeadline where
  retryNotBeforeUtc : String
  backoffMs : Int
  deadlineMonotonicNs : Int

abbrev Deadlines := String × String → Option ActiveDeadline

section
variable (py : PythonLibrary) (calendar : RetryCalendar)

def operationKey (runId operationId : String) : Except String (String × String) :=
  if nonBlank runId && nonBlank operationId then .ok (strip runId, strip operationId)
  else .error "STAGING_RETRY_REQUIRES_OPERATION_IDENTITY"

def validateBackoff (backoffMs : Int) : Except String Unit :=
  check (1 ≤ backoffMs && backoffMs ≤ stagingRetryMaxMs) "STAGING_RETRY_BACKOFF_INVALID"

def monotonicNow (reading : ClockReading) : Except String Int :=
  if reading.monotonicNs < 0 then .error "STAGING_RETRY_MONOTONIC_CLOCK_INVALID"
  else .ok reading.monotonicNs

def parseUtc (value : String) : Except String Int :=
  if parsesAsUtc py value then .ok (calendar.instant value) else .error "STAGING_RETRY_UTC_INVALID"

def planRetry (reading : ClockReading) (backoffMs : Int) : Except String StagingRetryTiming := do
  validateBackoff backoffMs
  let observed ← parseUtc py calendar reading.utcNow
  let startedMonotonicNs ← monotonicNow reading
  return {
    observedUtc := calendar.formatUtc observed
    retryNotBeforeUtc := calendar.formatUtc (observed + backoffMs * 1000)
    backoffMs
    deadlineMonotonicNs := startedMonotonicNs + backoffMs * 1000000 }

def activateRetry (runId operationId : String) (timing : StagingRetryTiming)
    (deadlines : Deadlines) : Except String Deadlines := do
  let key ← operationKey runId operationId
  validateBackoff timing.backoffMs
  let _ ← parseUtc py calendar timing.retryNotBeforeUtc
  return Function.update deadlines key (some {
    retryNotBeforeUtc := timing.retryNotBeforeUtc
    backoffMs := timing.backoffMs
    deadlineMonotonicNs := timing.deadlineMonotonicNs })

def deadlineInForce (backoffMs : Int) (retryNotBeforeUtc : String) (retryNotBefore : Int)
    (reading : ClockReading) (active : Option ActiveDeadline) : Except String ActiveDeadline :=
  match active.filter fun active => active.backoffMs = backoffMs &&
    active.retryNotBeforeUtc = retryNotBeforeUtc with
  | some active => .ok active
  | none => do
    let nowUtc ← parseUtc py calendar reading.utcNow
    let remainingMs := min backoffMs (calendar.ceilMs (retryNotBefore - nowUtc))
    return {
      retryNotBeforeUtc
      backoffMs
      deadlineMonotonicNs := reading.monotonicNs + remainingMs * 1000000 }

def retryIsDue (runId operationId : String) (backoffMs : Int) (retryNotBeforeUtc : String)
    (reading : ClockReading) (deadlines : Deadlines) : Except String (Bool × Deadlines) := do
  let key ← operationKey runId operationId
  validateBackoff backoffMs
  let retryNotBefore ← parseUtc py calendar retryNotBeforeUtc
  let nowMonotonicNs ← monotonicNow reading
  let active ← deadlineInForce py calendar backoffMs retryNotBeforeUtc retryNotBefore reading
    (deadlines key)
  return (active.deadlineMonotonicNs ≤ nowMonotonicNs, Function.update deadlines key (some active))

def discardRetry (runId operationId : String) (deadlines : Deadlines) :
    Except String Deadlines := do
  let key ← operationKey runId operationId
  return Function.update deadlines key none

end

section
variable {py : PythonLibrary} {calendar : RetryCalendar} {runId operationId : String}
  {reading : ClockReading} {deadlines after : Deadlines}

theorem operationKey_eq_ok {key : String × String} :
    operationKey runId operationId = .ok key ↔
      (nonBlank runId && nonBlank operationId) = true ∧
        (strip runId, strip operationId) = key := by
  unfold operationKey
  cases nonBlank runId && nonBlank operationId <;> simp

theorem monotonicNow_eq_ok {now : Int} :
    monotonicNow reading = .ok now ↔ 0 ≤ reading.monotonicNs ∧ reading.monotonicNs = now := by
  unfold monotonicNow
  by_cases hneg : reading.monotonicNs < 0
  · simp [hneg, not_le.mpr hneg]
  · simp [hneg, not_lt.mp hneg]

theorem retryIsDue_known {key : String × String} {active : ActiveDeadline} {instant : Int}
    (hkey : operationKey runId operationId = .ok key)
    (hbackoff : validateBackoff active.backoffMs = .ok ())
    (hparse : parseUtc py calendar active.retryNotBeforeUtc = .ok instant)
    (hactive : deadlines key = some active) (hclock : 0 ≤ reading.monotonicNs) :
    retryIsDue py calendar runId operationId active.backoffMs active.retryNotBeforeUtc reading
        deadlines =
      .ok (active.deadlineMonotonicNs ≤ reading.monotonicNs, deadlines) := by
  have hnow : monotonicNow reading = .ok reading.monotonicNs :=
    monotonicNow_eq_ok.mpr ⟨hclock, rfl⟩
  have hforce : deadlineInForce py calendar active.backoffMs active.retryNotBeforeUtc instant
      reading (some active) = .ok active := by
    simp [deadlineInForce, Option.filter]
  have hsame : Function.update deadlines key (some active) = deadlines := by
    rw [← hactive]
    exact Function.update_eq_self key deadlines
  simp only [retryIsDue, hkey, hbackoff, hparse, hnow, hactive, hforce, hsame, bind, Except.bind,
    pure, Except.pure]

theorem retryIsDue_activated {timing : StagingRetryTiming}
    (h : activateRetry py calendar runId operationId timing deadlines = .ok after)
    (hclock : 0 ≤ reading.monotonicNs) :
    retryIsDue py calendar runId operationId timing.backoffMs timing.retryNotBeforeUtc reading
        after = .ok (timing.deadlineMonotonicNs ≤ reading.monotonicNs, after) := by
  obtain ⟨key, hkey, h⟩ := except_bind_ok h
  obtain ⟨_, hbackoff, h⟩ := except_bind_ok h
  obtain ⟨_, hparse, h⟩ := except_bind_ok h
  let active : ActiveDeadline :=
    ⟨timing.retryNotBeforeUtc, timing.backoffMs, timing.deadlineMonotonicNs⟩
  have hafter : Function.update deadlines key (some active) = after := Except.ok.inj h
  have hactive : after key = some active := by
    rw [← hafter, Function.update_self]
  have hdue := @retryIsDue_known py calendar runId operationId reading after key active _ hkey
    hbackoff hparse hactive hclock
  exact hdue

variable {retryNotBeforeUtc : String}

theorem deadlineInForce_fresh {backoffMs retryNotBefore : Int} {active : ActiveDeadline}
    (h : deadlineInForce py calendar backoffMs retryNotBeforeUtc retryNotBefore reading none =
      .ok active) : active.backoffMs = backoffMs ∧ active.retryNotBeforeUtc = retryNotBeforeUtc ∧
      active.deadlineMonotonicNs ≤ reading.monotonicNs + backoffMs * 1000000 := by
  obtain ⟨nowUtc, -, h⟩ := except_bind_ok h
  rw [← Except.ok.inj h]
  refine ⟨rfl, rfl, ?_⟩
  dsimp only
  omega

theorem retryIsDue_restarted {backoffMs : Int} {due : Bool} {later : ClockReading}
    (hfresh : ∀ key, deadlines key = none)
    (h : retryIsDue py calendar runId operationId backoffMs retryNotBeforeUtc reading deadlines =
      .ok (due, after)) (hlater : reading.monotonicNs + backoffMs * 1000000 ≤ later.monotonicNs) :
    retryIsDue py calendar runId operationId backoffMs retryNotBeforeUtc later after =
      .ok (true, after) := by
  obtain ⟨key, hkey, h⟩ := except_bind_ok h
  obtain ⟨_, hbackoff, h⟩ := except_bind_ok h
  obtain ⟨instant, hparse, h⟩ := except_bind_ok h
  obtain ⟨now, hnow, h⟩ := except_bind_ok h
  obtain ⟨active, hactive, h⟩ := except_bind_ok h
  rw [hfresh key] at hactive
  obtain ⟨hbackoffMs, hutc, hdeadline⟩ := deadlineInForce_fresh hactive
  have hpositive : 1 ≤ backoffMs := by
    have hbounds := check_eq_ok.mp hbackoff
    rw [Bool.and_eq_true, decide_eq_true_eq] at hbounds
    exact hbounds.1
  have hclock := (monotonicNow_eq_ok.mp hnow).1
  have hafter : after key = some active := by
    rw [← (Prod.mk.inj (Except.ok.inj h)).2, Function.update_self]
  rw [← hbackoffMs] at hbackoff hpositive hlater hdeadline ⊢
  rw [← hutc] at hparse ⊢
  have hpassed : active.deadlineMonotonicNs ≤ later.monotonicNs := hdeadline.trans hlater
  rw [retryIsDue_known hkey hbackoff hparse hafter (by omega), decide_eq_true hpassed]

end

/-- `SqliteRecoveryOperationStore`: the connection, and the deadlines of its scheduler. -/
structure StagingStore (Dir : Type) where
  connection : Connection Dir
  deadlines : Deadlines

section
variable (py : PythonLibrary) (calendar : RetryCalendar) {Dir : Type}
  (dirs : Option (DirectoryRecoveryStore Dir))

def stagingRetryIsDue (operation : RecoveryOperation) (reading : ClockReading)
    (deadlines : Deadlines) : Except Raised (Bool × Deadlines) :=
  match operation.stagingRetryBackoffMs, operation.stagingRetryNotBeforeUtc with
  | none, none => .ok (true, deadlines)
  | some backoffMs, some retryNotBeforeUtc =>
    match retryIsDue py calendar operation.runId operation.operationId backoffMs retryNotBeforeUtc
      reading deadlines with
    | .ok answer => .ok answer
    | .error _ => .error (.storeError "RECOVERY_OPERATION_STAGING_RETRY_INVALID")
  | _, _ => .error (.storeError "RECOVERY_OPERATION_STAGING_RETRY_INVALID")

/-- The retry that `record_staging_failure` plans when the operation keeps its phase. -/
def plannedTiming (args : StagingFailureArgs) (reading : ClockReading) :
    Option StagingRetryTiming :=
  if args.nextPhase = args.expectedPhase then
    ((stagingRetryBackoffMs args.runId args.operationId (args.expectedFailureCount + 1)).bind
      (planRetry py calendar reading)).toOption
  else none

def rescheduled (args : StagingFailureArgs) (timing : Option StagingRetryTiming)
    (deadlines : Deadlines) : Except String Deadlines :=
  match timing with
  | some timing => activateRetry py calendar args.runId args.operationId timing deadlines
  | none => discardRetry args.runId args.operationId deadlines

/-- What `record_staging_failure` makes of its transaction. -/
def afterStagingFailure (args : StagingFailureArgs) (timing : Option StagingRetryTiming)
    (deadlines : Deadlines) :
    Except Raised (Option RecoveryOperation) × Connection Dir →
      Except Raised (Option RecoveryOperation) × StagingStore Dir
  | (.ok (some loaded), connection) =>
    match rescheduled py calendar args timing deadlines with
    | .ok deadlines => (.ok (some loaded), { connection, deadlines })
    | .error _ => (.error (.storeError "RECOVERY_OPERATION_PERSISTENCE_FAILED"),
        { connection, deadlines })
  | (answer, connection) => (answer, { connection, deadlines })

def recordStagingFailure (args : StagingFailureArgs) (reading : ClockReading)
    (store : StagingStore Dir) : Except Raised (Option RecoveryOperation) × StagingStore Dir :=
  let timing := plannedTiming py calendar args reading
  let plannedRetry := timing.map fun timing => (timing.backoffMs, timing.retryNotBeforeUtc)
  afterStagingFailure py calendar args timing store.deadlines
    (performCall py dirs (.recordStagingFailure { args with plannedRetry }) store.connection)

def recordTransition (args : TransitionArgs) (store : StagingStore Dir) :
    Except Raised (Option RecoveryOperation) × StagingStore Dir :=
  match performCall py dirs (.recordOperationPhaseTransition args) store.connection with
  | (.ok (some loaded), connection) =>
    match discardRetry args.runId args.operationId store.deadlines with
    | .ok deadlines => (.ok (some loaded), { connection, deadlines })
    | .error code => (.error (.violation code), { store with connection })
  | (answer, connection) => (answer, { store with connection })

end

end MediaSync.Recovery
