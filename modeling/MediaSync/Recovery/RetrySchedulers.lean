import Mathlib.Data.Rat.Floor
import MediaSync.Foundation.Doubles
import MediaSync.Foundation.Transition
import MediaSync.Recovery.StagingRetry

/-! Endpoint and staging retries are scheduled by the same code over different keys, limits and
checks. -/
namespace MediaSync.Recovery
open Text Doubles Transition

/-- `math.ceil(max(0.0, difference.total_seconds() * 1_000))` of a difference in microseconds. -/
def ceilRemainingMs (difference : ℤ) : ℤ :=
  ⌈max 0 (nearestDouble (nearestDouble ((difference : ℚ) / 1000000) * 1000))⌉

structure RetryScheduler (Id Key : Type) where
  key : Id → Except String Key
  discardKey : Id → Except String Key
  parseUtc : String → Except String Int
  formatUtc : Int → String
  maxMs : Int
  maxMs_le : maxMs ≤ 300000
  backoffInvalid : String
  monotonicClockInvalid : String

namespace RetryScheduler

variable {Id Key : Type} [DecidableEq Key] (c : RetryScheduler Id Key)

def validateBackoff (backoffMs : Int) : Except String Unit :=
  check (1 ≤ backoffMs && backoffMs ≤ c.maxMs) c.backoffInvalid

def monotonicNow (reading : ClockReading) : Except String Int :=
  if reading.monotonicNs < 0 then .error c.monotonicClockInvalid else .ok reading.monotonicNs

def plan (reading : ClockReading) (backoffMs : Int) : Except String StagingRetryTiming := do
  c.validateBackoff backoffMs
  let observed ← c.parseUtc reading.utcNow
  let startedMonotonicNs ← c.monotonicNow reading
  return {
    observedUtc := c.formatUtc observed
    retryNotBeforeUtc := c.formatUtc (observed + backoffMs * 1000)
    backoffMs
    deadlineMonotonicNs := startedMonotonicNs + backoffMs * 1000000 }

def activate (id : Id) (timing : StagingRetryTiming) (deadlines : Key → Option ActiveDeadline) :
    Except String (Key → Option ActiveDeadline) := do
  let key ← c.key id
  c.validateBackoff timing.backoffMs
  let _ ← c.parseUtc timing.retryNotBeforeUtc
  return Function.update deadlines key (some {
    retryNotBeforeUtc := timing.retryNotBeforeUtc
    backoffMs := timing.backoffMs
    deadlineMonotonicNs := timing.deadlineMonotonicNs })

def deadlineInForce (backoffMs : Int) (retryNotBeforeUtc : String) (retryNotBefore : Int)
    (reading : ClockReading) (active : Option ActiveDeadline) : Except String ActiveDeadline :=
  match active.filter fun active => active.backoffMs = backoffMs &&
    active.retryNotBeforeUtc = retryNotBeforeUtc with
  | some active => .ok active
  | none => do
    let nowUtc ← c.parseUtc reading.utcNow
    let remainingMs := min backoffMs (ceilRemainingMs (retryNotBefore - nowUtc))
    return {
      retryNotBeforeUtc
      backoffMs
      deadlineMonotonicNs := reading.monotonicNs + remainingMs * 1000000 }

def isDue (id : Id) (backoffMs : Int) (retryNotBeforeUtc : String) (reading : ClockReading)
    (deadlines : Key → Option ActiveDeadline) :
    Except String (Bool × (Key → Option ActiveDeadline)) := do
  let key ← c.key id
  c.validateBackoff backoffMs
  let retryNotBefore ← c.parseUtc retryNotBeforeUtc
  let nowMonotonicNs ← c.monotonicNow reading
  let active ← c.deadlineInForce backoffMs retryNotBeforeUtc retryNotBefore reading
    (deadlines key)
  return (active.deadlineMonotonicNs ≤ nowMonotonicNs, Function.update deadlines key (some active))

def discard (id : Id) (deadlines : Key → Option ActiveDeadline) :
    Except String (Key → Option ActiveDeadline) := do
  let key ← c.discardKey id
  return Function.update deadlines key none

end RetryScheduler

def stagingScheduler (py : PythonLibrary) (calendar : RetryCalendar) :
    RetryScheduler (String × String) (String × String) where
  key id := operationKey id.1 id.2
  discardKey id := operationKey id.1 id.2
  parseUtc := parseUtc py calendar
  formatUtc := calendar.formatUtc
  maxMs := stagingRetryMaxMs
  maxMs_le := by decide
  backoffInvalid := "STAGING_RETRY_BACKOFF_INVALID"
  monotonicClockInvalid := "STAGING_RETRY_MONOTONIC_CLOCK_INVALID"

def endpointRetryMaxMs : Int := 300000

def validateEventId (eventId : Int) : Except String Int :=
  if eventId < 1 then .error "ENDPOINT_RETRY_EVENT_ID_INVALID" else .ok eventId

def parseEndpointUtc (py : PythonLibrary) (calendar : RetryCalendar) (value : String) :
    Except String Int :=
  let normalized := strip value
  if normalized.toList.getLast? == some 'Z' &&
      py.fromIsoformat (String.ofList normalized.toList.dropLast ++ "+00:00") then
    .ok (calendar.instant value)
  else .error "ENDPOINT_RETRY_UTC_INVALID"

/-- The endpoint scheduler; its `discard` takes any event id. -/
def endpointScheduler (py : PythonLibrary) (calendar : RetryCalendar) : RetryScheduler Int Int where
  key := validateEventId
  discardKey := .ok
  parseUtc := parseEndpointUtc py calendar
  formatUtc := calendar.formatUtc
  maxMs := endpointRetryMaxMs
  maxMs_le := le_rfl
  backoffInvalid := "ENDPOINT_RETRY_BACKOFF_INVALID"
  monotonicClockInvalid := "ENDPOINT_RETRY_MONOTONIC_CLOCK_INVALID"

/-- The store's scheduler is this one, once the ceiling is taken of doubles. -/
theorem stagingScheduler_isDue (py : PythonLibrary) (calendar : RetryCalendar)
    (runId operationId : String) (backoffMs : Int) (retryNotBeforeUtc : String)
    (reading : ClockReading) (deadlines : Deadlines) :
    (stagingScheduler py calendar).isDue (runId, operationId) backoffMs retryNotBeforeUtc reading
        deadlines =
      retryIsDue py { calendar with ceilMs := ceilRemainingMs } runId operationId backoffMs
        retryNotBeforeUtc reading deadlines := by
  have hparse : parseUtc py { calendar with ceilMs := ceilRemainingMs } = parseUtc py calendar :=
    rfl
  simp only [retryIsDue, deadlineInForce, hparse]
  rfl

theorem stagingScheduler_activate (py : PythonLibrary) (calendar : RetryCalendar)
    (runId operationId : String) (timing : StagingRetryTiming) (deadlines : Deadlines) :
    (stagingScheduler py calendar).activate (runId, operationId) timing deadlines =
      activateRetry py calendar runId operationId timing deadlines := rfl

inductive RetryCall (Id : Type)
  | plan (reading : ClockReading) (backoffMs : Int)
  | activate (id : Id) (timing : StagingRetryTiming)
  | isDue (id : Id) (backoffMs : Int) (retryNotBeforeUtc : String) (reading : ClockReading)
  | discard (id : Id)
  | restart

structure RetryState (Key : Type) where
  deadlines : Key → Option ActiveDeadline
  last : Int

namespace RetryScheduler

variable {Id Key : Type} [DecidableEq Key] (c : RetryScheduler Id Key)

def stored (s : RetryState Key) (result : Except String (Key → Option ActiveDeadline)) :
    RetryState Key :=
  { s with deadlines := result.toOption.getD s.deadlines }

def system : System (RetryState Key) (RetryCall Id) where
  init s := (∀ key, s.deadlines key = none) ∧ 0 ≤ s.last
  step s
    | .plan reading _ =>
      if reading.monotonicNs < s.last then none else some { s with last := reading.monotonicNs }
    | .activate id timing => some (stored s (c.activate id timing s.deadlines))
    | .isDue id backoffMs retryNotBeforeUtc reading =>
      if reading.monotonicNs < s.last then none
      else some (stored { s with last := reading.monotonicNs }
        ((c.isDue id backoffMs retryNotBeforeUtc reading s.deadlines).map (·.2)))
    | .discard id => some (stored s (c.discard id s.deadlines))
    | .restart => some { s with deadlines := fun _ => none }

/-- A call that neither changes nor discards the timing in force under `key`; a restart does. -/
def Spares (key : Key) (s : RetryState Key) : RetryCall Id → Prop
  | .plan _ _ => True
  | .activate id timing => c.key id = .ok key → s.deadlines key =
      some ⟨timing.retryNotBeforeUtc, timing.backoffMs, timing.deadlineMonotonicNs⟩
  | .isDue id backoffMs retryNotBeforeUtc _ => c.key id = .ok key →
      ∃ deadline, s.deadlines key = some ⟨retryNotBeforeUtc, backoffMs, deadline⟩
  | .discard id => c.discardKey id ≠ .ok key
  | .restart => False

/-- Runs of such calls. -/
def Undisturbed (key : Key) : RetryState Key → RetryState Key → Prop :=
  Relation.ReflTransGen fun s s' => ∃ call, c.Spares key s call ∧ c.system.step s call = some s'

structure SchedulesRetries : Prop where
  /-- From its activation on a planned retry is due when its back-off has passed. -/
  activated : ∀ s, c.system.Reachable s → ∀ id key reading backoffMs timing deadlines s' later,
    c.key id = .ok key → c.plan reading backoffMs = .ok timing →
    c.activate id timing s.deadlines = .ok deadlines →
    c.Undisturbed key { s with deadlines := deadlines } s' → s'.last ≤ later.monotonicNs →
    c.isDue id backoffMs timing.retryNotBeforeUtc later s'.deadlines =
      .ok (reading.monotonicNs + backoffMs * 1000000 ≤ later.monotonicNs, s'.deadlines)
  /-- A retry without a deadline is due between the remaining UTC time and one back-off after it
  is first asked for. -/
  firstAsked : ∀ s, c.system.Reachable s → ∀ id key backoffMs retryNotBeforeUtc first due
    deadlines retryNotBefore nowUtc s' later,
    c.key id = .ok key → s.last ≤ first.monotonicNs →
    (∀ deadline, s.deadlines key ≠ some ⟨retryNotBeforeUtc, backoffMs, deadline⟩) →
    c.parseUtc retryNotBeforeUtc = .ok retryNotBefore → c.parseUtc first.utcNow = .ok nowUtc →
    c.isDue id backoffMs retryNotBeforeUtc first s.deadlines = .ok (due, deadlines) →
    c.Undisturbed key ⟨deadlines, first.monotonicNs⟩ s' → s'.last ≤ later.monotonicNs →
    ∃ dueLater, c.isDue id backoffMs retryNotBeforeUtc later s'.deadlines =
        .ok (dueLater, s'.deadlines) ∧
      (later = first → dueLater = due) ∧
      (first.monotonicNs + backoffMs * 1000000 ≤ later.monotonicNs → dueLater = true) ∧
      (dueLater = true → first.monotonicNs +
        min (backoffMs * 1000) (retryNotBefore - nowUtc) * 1000 ≤ later.monotonicNs)
  staysDue : ∀ s, c.system.Reachable s → ∀ id key backoffMs retryNotBeforeUtc reading deadlines
    s' later,
    c.key id = .ok key → s.last ≤ reading.monotonicNs →
    c.isDue id backoffMs retryNotBeforeUtc reading s.deadlines = .ok (true, deadlines) →
    c.Undisturbed key ⟨deadlines, reading.monotonicNs⟩ s' → s'.last ≤ later.monotonicNs →
    c.isDue id backoffMs retryNotBeforeUtc later s'.deadlines = .ok (true, s'.deadlines)

end RetryScheduler

/-- Within the longest back-off the doubles do not shorten the remaining time. -/
theorem le_ceilRemainingMs {backoffMs difference : ℤ} (hpos : 0 ≤ backoffMs)
    (hmax : backoffMs ≤ 300000) :
    min (backoffMs * 1000) difference ≤ min backoffMs (ceilRemainingMs difference) * 1000 := by
  rcases le_or_gt difference 0 with hneg | hdiff
  · have hceil : 0 ≤ ceilRemainingMs difference := Int.ceil_nonneg (le_max_left _ _)
    omega
  rcases le_or_gt backoffMs (ceilRemainingMs difference) with hge | hlt
  · omega
  -- Below the back-off the two roundings are together off by less than a microsecond.
  have hd : (0 : ℚ) < difference := by exact_mod_cast hdiff
  have hseconds := le_nearestDouble (div_nonneg hd.le (by norm_num : (0 : ℚ) ≤ 1000000))
  have hnonneg : (0 : ℚ) ≤ nearestDouble ((difference : ℚ) / 1000000) := by linarith
  have hms := le_nearestDouble (mul_nonneg hnonneg (by norm_num : (0 : ℚ) ≤ 1000))
  have hceil := (le_max_right 0 _).trans (Int.le_ceil
    (max 0 (nearestDouble (nearestDouble ((difference : ℚ) / 1000000) * 1000))))
  have hbelow : (ceilRemainingMs difference : ℚ) + 1 ≤ 300000 := by
    exact_mod_cast (show ceilRemainingMs difference + 1 ≤ 300000 by omega)
  have hclose : (difference : ℚ) < ceilRemainingMs difference * 1000 + 1 := by
    unfold ceilRemainingMs at hbelow ⊢
    linarith
  have hle : difference ≤ ceilRemainingMs difference * 1000 := by
    exact Int.lt_add_one_iff.mp (by exact_mod_cast hclose)
  omega

namespace RetryScheduler

variable {Id Key : Type} {c : RetryScheduler Id Key} {id : Id} {key : Key}
  {backoffMs : Int} {retryNotBeforeUtc : String} {reading : ClockReading}
  {deadlines after : Key → Option ActiveDeadline} {s s' : RetryState Key} {due : Bool}
  {active : ActiveDeadline} {timing : StagingRetryTiming}

theorem monotonicNow_ok {now : Int} (h : c.monotonicNow reading = .ok now) :
    0 ≤ reading.monotonicNs ∧ reading.monotonicNs = now := by
  unfold monotonicNow at h
  split at h
  · cases h
  · exact ⟨by omega, Except.ok.inj h⟩

theorem validateBackoff_ok (h : c.validateBackoff backoffMs = .ok ()) :
    1 ≤ backoffMs ∧ backoffMs ≤ 300000 := by
  have hbounds := check_eq_ok.mp h
  simp only [Bool.and_eq_true, decide_eq_true_eq] at hbounds
  exact ⟨hbounds.1, hbounds.2.trans c.maxMs_le⟩

variable {instant deadline : Int}

theorem deadlineInForce_known : c.deadlineInForce backoffMs retryNotBeforeUtc instant reading
        (some ⟨retryNotBeforeUtc, backoffMs, deadline⟩) =
      .ok ⟨retryNotBeforeUtc, backoffMs, deadline⟩ := by
  simp [deadlineInForce, Option.filter]

/-- The deadline in force: the one in memory, or a new one from the UTC clock. -/
theorem deadlineInForce_cases {instant : Int} {entry : Option ActiveDeadline}
    (h : c.deadlineInForce backoffMs retryNotBeforeUtc instant reading entry = .ok active) :
    (entry = some active ∧ ∃ deadline, active = ⟨retryNotBeforeUtc, backoffMs, deadline⟩) ∨
      ∃ nowUtc, c.parseUtc reading.utcNow = .ok nowUtc ∧
        active = ⟨retryNotBeforeUtc, backoffMs, reading.monotonicNs +
          min backoffMs (ceilRemainingMs (instant - nowUtc)) * 1000000⟩ := by
  unfold deadlineInForce at h
  split at h
  · rename_i found hfound
    obtain rfl := Except.ok.inj h
    obtain ⟨hentry, hsame⟩ := Option.filter_eq_some_iff.mp hfound
    simp only [Bool.and_eq_true, decide_eq_true_eq] at hsame
    obtain ⟨rfl, rfl⟩ := hsame
    exact .inl ⟨hentry, _, rfl⟩
  · obtain ⟨nowUtc, hnow, h⟩ := except_bind_ok h
    exact .inr ⟨nowUtc, hnow, (Except.ok.inj h).symm⟩

theorem plan_ok (h : c.plan reading backoffMs = .ok timing) :
    timing.backoffMs = backoffMs ∧
      timing.deadlineMonotonicNs = reading.monotonicNs + backoffMs * 1000000 := by
  obtain ⟨_, -, h⟩ := except_bind_ok h
  obtain ⟨_, -, h⟩ := except_bind_ok h
  obtain ⟨_, hnow, h⟩ := except_bind_ok h
  obtain ⟨-, rfl⟩ := monotonicNow_ok hnow
  rw [← Except.ok.inj h]
  exact ⟨rfl, rfl⟩

variable [DecidableEq Key]

theorem activate_ok (h : c.activate id timing deadlines = .ok after) :
    ∃ key instant, c.key id = .ok key ∧ c.validateBackoff timing.backoffMs = .ok () ∧
      c.parseUtc timing.retryNotBeforeUtc = .ok instant ∧
      after = Function.update deadlines key
        (some ⟨timing.retryNotBeforeUtc, timing.backoffMs, timing.deadlineMonotonicNs⟩) := by
  obtain ⟨key, hkey, h⟩ := except_bind_ok h
  obtain ⟨_, hbackoff, h⟩ := except_bind_ok h
  obtain ⟨instant, hparse, h⟩ := except_bind_ok h
  exact ⟨key, instant, hkey, hbackoff, hparse, (Except.ok.inj h).symm⟩

theorem isDue_ok (h : c.isDue id backoffMs retryNotBeforeUtc reading deadlines = .ok (due, after)) :
    ∃ key instant active, c.key id = .ok key ∧ c.validateBackoff backoffMs = .ok () ∧
      c.parseUtc retryNotBeforeUtc = .ok instant ∧ 0 ≤ reading.monotonicNs ∧
      c.deadlineInForce backoffMs retryNotBeforeUtc instant reading (deadlines key) =
        .ok active ∧
      due = decide (active.deadlineMonotonicNs ≤ reading.monotonicNs) ∧
      after = Function.update deadlines key (some active) := by
  obtain ⟨key, hkey, h⟩ := except_bind_ok h
  obtain ⟨_, hbackoff, h⟩ := except_bind_ok h
  obtain ⟨instant, hparse, h⟩ := except_bind_ok h
  obtain ⟨_, hnow, h⟩ := except_bind_ok h
  obtain ⟨hclock, rfl⟩ := monotonicNow_ok hnow
  obtain ⟨active, hactive, h⟩ := except_bind_ok h
  obtain ⟨hdue, hafter⟩ := Prod.mk.inj (Except.ok.inj h)
  exact ⟨key, instant, active, hkey, hbackoff, hparse, hclock, hactive, hdue.symm, hafter.symm⟩

theorem isDue_known (hkey : c.key id = .ok key) (hbackoff : c.validateBackoff backoffMs = .ok ())
    (hparse : c.parseUtc retryNotBeforeUtc = .ok instant)
    (hactive : deadlines key = some ⟨retryNotBeforeUtc, backoffMs, deadline⟩)
    (hclock : 0 ≤ reading.monotonicNs) : c.isDue id backoffMs retryNotBeforeUtc reading deadlines =
      .ok (deadline ≤ reading.monotonicNs, deadlines) := by
  have hnow : c.monotonicNow reading = .ok reading.monotonicNs := if_neg (by omega)
  have hsame : Function.update deadlines key (some ⟨retryNotBeforeUtc, backoffMs, deadline⟩) =
      deadlines := hactive ▸ Function.update_eq_self key deadlines
  simp only [isDue, hkey, hbackoff, hparse, hnow, hactive, deadlineInForce_known, hsame, bind,
    Except.bind, pure, Except.pure]

theorem Spares.step {call : RetryCall Id} (hc : c.Spares key s call)
    (hs : c.system.step s call = some s') :
    s.last ≤ s'.last ∧
      ∀ active, s.deadlines key = some active → s'.deadlines key = some active := by
  cases call with
  | plan reading _ =>
    simp only [system] at hs
    split at hs
    · cases hs
    · obtain rfl := Option.some.inj hs
      exact ⟨not_lt.mp ‹_›, fun _ h => h⟩
  | activate id timing =>
    obtain rfl := Option.some.inj hs
    refine ⟨le_rfl, fun active hactive => ?_⟩
    cases hact : c.activate id timing s.deadlines with
    | error => exact hactive
    | ok after =>
      obtain ⟨key', instant, hkey, -, -, rfl⟩ := activate_ok hact
      by_cases heq : key = key'
      · subst heq
        exact (Function.update_self ..).trans ((hc hkey).symm.trans hactive)
      · exact (Function.update_of_ne heq ..).trans hactive
  | isDue id backoffMs retryNotBeforeUtc reading =>
    simp only [system] at hs
    split at hs
    · cases hs
    obtain rfl := Option.some.inj hs
    refine ⟨not_lt.mp ‹_›, fun active hactive => ?_⟩
    cases hdue : c.isDue id backoffMs retryNotBeforeUtc reading s.deadlines with
    | error => exact hactive
    | ok answer =>
      obtain ⟨key', instant, active', hkey, -, -, -, hforce, -, hafter⟩ := isDue_ok hdue
      simp only [stored, Except.map, Except.toOption, Option.getD_some, hafter]
      by_cases heq : key = key'
      · subst heq
        obtain ⟨deadline, hentry⟩ := hc hkey
        rw [hentry, deadlineInForce_known] at hforce
        rw [Function.update_self, ← Except.ok.inj hforce, ← hentry, hactive]
      · exact (Function.update_of_ne heq ..).trans hactive
  | discard id =>
    obtain rfl := Option.some.inj hs
    refine ⟨le_rfl, fun active hactive => ?_⟩
    cases hdis : c.discard id s.deadlines with
    | error => exact hactive
    | ok after =>
      obtain ⟨key', hkey, h⟩ := except_bind_ok hdis
      obtain rfl := Except.ok.inj h
      have hne : key ≠ key' := fun heq => hc (heq ▸ hkey)
      exact (Function.update_of_ne hne ..).trans hactive
  | restart => exact hc.elim

theorem Undisturbed.keeps (h : c.Undisturbed key s s') :
    s.last ≤ s'.last ∧
      ∀ active, s.deadlines key = some active → s'.deadlines key = some active := by
  induction h with
  | refl => exact ⟨le_rfl, fun _ h => h⟩
  | tail _ hlast ih =>
    obtain ⟨call, hspares, hs⟩ := hlast
    obtain ⟨hle, hkeep⟩ := hspares.step hs
    exact ⟨ih.1.trans hle, fun active hactive => hkeep active (ih.2 active hactive)⟩

theorem last_nonneg (h : c.system.Reachable s) : 0 ≤ s.last := by
  refine h.invariant (P := fun s => 0 ≤ s.last)
    (fun s (hs : c.system.init s) => hs.2) fun s call s' _ hi _ hs => ?_
  cases call <;> simp only [system] at hs
  case plan | isDue =>
    split at hs
    · cases hs
    · obtain rfl := Option.some.inj hs
      simp only [stored]
      omega
  all_goals
    obtain rfl := Option.some.inj hs
    exact hi

/-- A retry whose deadline is in memory is measured by it as long as nothing disturbs it. -/
theorem Undisturbed.isDue {later : ClockReading} (h : c.Undisturbed key s s')
    (hkey : c.key id = .ok key) (hbackoff : c.validateBackoff backoffMs = .ok ())
    (hparse : c.parseUtc retryNotBeforeUtc = .ok instant)
    (hactive : s.deadlines key = some ⟨retryNotBeforeUtc, backoffMs, deadline⟩)
    (hclock : 0 ≤ s.last) (hlater : s'.last ≤ later.monotonicNs) :
    c.isDue id backoffMs retryNotBeforeUtc later s'.deadlines =
      .ok (deadline ≤ later.monotonicNs, s'.deadlines) :=
  isDue_known hkey hbackoff hparse (h.keeps.2 _ hactive)
    (hclock.trans (h.keeps.1.trans hlater))

theorem schedulesRetries (c : RetryScheduler Id Key) : c.SchedulesRetries where
  activated s hs id key reading backoffMs timing deadlines s' later hkey hplan hact hrun
      hlater := by
    obtain ⟨rfl, hdeadline⟩ := plan_ok hplan
    obtain ⟨key', instant, hkey', hbackoff, hparse, rfl⟩ := activate_ok hact
    obtain rfl := Except.ok.inj (hkey.symm.trans hkey')
    have hclock := last_nonneg hs
    rw [← hdeadline]
    exact hrun.isDue hkey hbackoff hparse (Function.update_self ..) hclock hlater
  firstAsked s hs id key backoffMs retryNotBeforeUtc first due deadlines retryNotBefore nowUtc s'
      later hkey hfirst hfresh hparse hutc hdue hrun hlater := by
    obtain ⟨key', instant, active, hkey', hbackoff, hparse', hclock, hforce, rfl, rfl⟩ :=
      isDue_ok hdue
    obtain rfl := Except.ok.inj (hkey.symm.trans hkey')
    obtain rfl := Except.ok.inj (hparse.symm.trans hparse')
    obtain ⟨hentry, deadline, rfl⟩ | ⟨nowUtc', hutc', rfl⟩ := deadlineInForce_cases hforce
    · exact absurd hentry (hfresh deadline)
    obtain rfl := Except.ok.inj (hutc.symm.trans hutc')
    obtain ⟨hlow, hhigh⟩ := validateBackoff_ok hbackoff
    have hremaining := @le_ceilRemainingMs backoffMs (retryNotBefore - nowUtc) (by omega) hhigh
    refine ⟨_, hrun.isDue hkey hbackoff hparse (Function.update_self ..) hclock hlater, ?_, ?_, ?_⟩
    · rintro rfl
      rfl
    · simp only [decide_eq_true_eq]
      omega
    · simp only [decide_eq_true_eq]
      omega
  staysDue s hs id key backoffMs retryNotBeforeUtc reading deadlines s' later hkey _ hdue hrun
      hlater := by
    obtain ⟨key', instant, active, hkey', hbackoff, hparse, hclock, hforce, hreached, rfl⟩ :=
      isDue_ok hdue
    obtain rfl := Except.ok.inj (hkey.symm.trans hkey')
    obtain ⟨deadline, rfl⟩ : ∃ deadline, active = ⟨retryNotBeforeUtc, backoffMs, deadline⟩ := by
      obtain ⟨-, h⟩ | ⟨_, -, h⟩ := deadlineInForce_cases hforce
      · exact h
      · exact ⟨_, h⟩
    rw [hrun.isDue hkey hbackoff hparse (Function.update_self ..) hclock hlater]
    have hle := of_decide_eq_true hreached.symm
    have hlast := hrun.keeps.1
    simp only at hle hlast
    rw [decide_eq_true (by omega)]

end RetryScheduler

/-- Both stores plan and release their retries as `SchedulesRetries` says. -/
theorem retry_schedulers (py : PythonLibrary) (calendar : RetryCalendar) :
    (endpointScheduler py calendar).SchedulesRetries ∧
      (stagingScheduler py calendar).SchedulesRetries :=
  ⟨RetryScheduler.schedulesRetries _, RetryScheduler.schedulesRetries _⟩

def sampleCalendar : RetryCalendar where
  instant text := if text = "2026-01-01T00:00:05.000Z" then 1767225605000000 else 1767225600000000
  formatUtc instant :=
    if instant = 1767225605000000 then "2026-01-01T00:00:05.000Z" else "2026-01-01T00:00:00.000Z"
  ceilMs := ceilRemainingMs

def sampleLibrary : PythonLibrary where
  jsonLoads _ := none
  fromIsoformat text :=
    text == "2026-01-01T00:00:00.000+00:00" || text == "2026-01-01T00:00:05.000+00:00"

def sampleTiming : StagingRetryTiming :=
  ⟨"2026-01-01T00:00:00.000Z", "2026-01-01T00:00:05.000Z", 5000, 5000000000⟩

/-- What the endpoint scheduler answers 5 s after a retry was planned, after some calls and with the
UTC clock back where it was. -/
def sampleAnswer (calls : List (RetryCall Int)) : Option (Option Bool) :=
  let scheduler := endpointScheduler sampleLibrary sampleCalendar
  (scheduler.system.replay ⟨fun _ => none, 0⟩ calls).map fun s =>
    ((scheduler.isDue 1 5000 sampleTiming.retryNotBeforeUtc
      ⟨"2026-01-01T00:00:00.000Z", 5000000000⟩ s.deadlines).toOption.map (·.1))

/-- A retry that is due is not due after a restart, when the UTC clock has jumped back; nor is one
that was activated, discarded and asked for again. -/
theorem retry_schedulers_counterexample :
    ((endpointScheduler sampleLibrary sampleCalendar).plan ⟨"2026-01-01T00:00:00.000Z", 0⟩
        5000).toOption.map (fun timing => (timing.retryNotBeforeUtc, timing.backoffMs,
          timing.deadlineMonotonicNs)) =
      some (sampleTiming.retryNotBeforeUtc, 5000, 5000000000) ∧
    sampleAnswer [.activate 1 sampleTiming] = some (some true) ∧
    sampleAnswer [.activate 1 sampleTiming, .isDue 1 5000 sampleTiming.retryNotBeforeUtc
      ⟨"2026-01-01T00:00:05.000Z", 5000000000⟩, .restart] = some (some false) ∧
    sampleAnswer [.activate 1 sampleTiming, .discard 1] = some (some false) := by
  decide +kernel

end MediaSync.Recovery
