import MediaSync.Duplicates.ScanEnds

/-! A user's pause and the pause of a cycle that finds an active backup share one state. Commands
come in on the pipe server's connection while the maintenance thread is anywhere in `run_cycle`, so
the statements before its loop are steps of their own here. -/
namespace MediaSync.Duplicates
open Transition ScanStore

/-- Where `_load_next_cycle_scan` is, or the scan that it has returned. -/
inductive Choice where
  | resuming (analysisId : String)
  | seeking
  | starting (analysisId : String)
  | chosen (analysisId : String)

/-- A call of `run_cycle` before its loop. -/
structure Opening where
  observedUtc : String
  activeBackup : Bool
  limit : Nat
  choice : Choice

structure Engine where
  scanner : Scanner := {}
  opening : Option Opening := none

/-- A step of the scanner, where `run_cycle` only selects a scan that is paused for a backup, or
the next statement of a call before its loop. -/
inductive EngineStep where
  | scan (step : ScanStep)
  | choose

/-- The `UPDATE` of `_load_next_cycle_scan`. -/
def ScanStore.markStarted (st : ScanStore) (analysisId : String) : ScanStore :=
  st.updateScan analysisId (fun scan => scan.state = .queued) fun scan =>
    { scan with state := .running, reasonCode := none }

namespace Engine

variable (limits : ScannerLimits) (digests : ScanDigests) (analyses : String → List FileEntry)
  (e : Engine)

/-- Up to the first `SELECT` of `_load_next_cycle_scan`. -/
def runCycle (observedUtc : String) (activeBackup : Bool) (maxFiles : Option Nat) : Option Engine :=
  let limit := maxFiles.getD limits.workBatchSize
  if e.scanner.call ≠ .idle ∨ e.opening.isSome ∨ limit < 1 ∨ limits.workBatchSize < limit then none
  else
    let choice : Choice :=
      match e.scanner.store.firstScan digests pausedForBackup with
      | some paused => .resuming paused.analysisId
      | none => .seeking
    some { e with opening := some { observedUtc, activeBackup, limit, choice } }

def goOn (store : ScanStore) (opening : Option Opening) : Engine :=
  { scanner := { e.scanner with store }, opening }

def choose (opening : Opening) : Engine :=
  let st := e.scanner.store
  match opening.choice with
  | .resuming analysisId =>
    let resumed := st.resumeScan analysisId
    match resumed.loadDuplicateScan analysisId with
    | some _ => e.goOn resumed (some { opening with choice := .chosen analysisId })
    | none => e.goOn resumed (some { opening with choice := .seeking })
  | .seeking =>
    match st.firstScan digests fun scan => scan.state = .queued || scan.state = .running with
    | some next => e.goOn st (some { opening with choice := .starting next.analysisId })
    | none => e.goOn st none
  | .starting analysisId =>
    let started := st.markStarted analysisId
    match started.loadDuplicateScan analysisId with
    | some _ => e.goOn started (some { opening with choice := .chosen analysisId })
    | none => e.goOn started none
  | .chosen analysisId =>
    if opening.activeBackup then e.goOn (st.pauseForActiveBackup analysisId) none
    else
      let cycle := { analysisId, observedUtc := opening.observedUtc, limit := opening.limit }
      { scanner := { store := st, call := .looping cycle } }

def step : EngineStep → Option Engine
  | .scan (.runCycle observedUtc activeBackup maxFiles) =>
    e.runCycle limits digests observedUtc activeBackup maxFiles
  | .scan .restart =>
    some { scanner := { store := e.scanner.store.recoverInterruptedRequests, call := .idle } }
  | .scan l => (e.scanner.step limits digests analyses l).map fun scanner => { e with scanner }
  | .choose => e.opening.map (e.choose digests)

end Engine

def engine (limits : ScannerLimits) (digests : ScanDigests)
    (analyses : String → List FileEntry) : System Engine EngineStep where
  init e := e = {}
  step e l := e.step limits digests analyses l

def ScanStore.claims (analysisId : String) (st st' : ScanStore) : Bool :=
  st'.requests.any fun request => request.analysisId = analysisId && request.state = .running &&
    !st.requests.contains request

def Call.worksOn (analysisId : String) : Call → Bool
  | .idle => false
  | .looping cycle | .enumerated cycle | .hashing cycle _ => cycle.analysisId = analysisId

def Choice.worksOn (analysisId : String) : Choice → Bool
  | .seeking => false
  | .resuming other | .starting other | .chosen other => other = analysisId

def Engine.worksOn (e : Engine) (analysisId : String) : Bool :=
  e.scanner.call.worksOn analysisId || e.opening.any fun opening =>
    opening.choice.worksOn analysisId

def Heeded (e : Engine) (analysisId : String) : Prop :=
  (∀ scan, e.scanner.store.loadDuplicateScan analysisId = some scan →
    pausedForBackup scan = false) ∧ e.worksOn analysisId = false

/-- `e'` follows from `e` without a resume command for the scan. -/
def Unresumed (M : System Engine EngineStep) (analysisId : String) : Engine → Engine → Prop :=
  Relation.ReflTransGen fun e e' =>
    ∃ l, l ≠ .scan (.resumeScan analysisId) ∧ M.step e l = some e'

/-- `e'` follows from `e` by commands alone. -/
def ByCommands (M : System Engine EngineStep) : Engine → Engine → Prop :=
  Relation.ReflTransGen fun e e' => ∃ l : ScanStep, l.duringCall = true ∧ l.isPass = false ∧
    M.step e (.scan l) = some e'

/-- What a pause promises of the steps that come after it. -/
structure PausesHold (M : System Engine EngineStep) (ok : Engine → String → Prop) (e : Engine) :
    Prop where
  held : ∀ analysisId e' status, ok e analysisId →
    M.step e (.scan (.pauseScan analysisId)) = some e' →
    e'.scanner.store.loadDuplicateScan analysisId = some status →
    ScanState.isActive status.state = true → ∀ t, Unresumed M analysisId e' t →
      (∃ scan, t.scanner.store.loadDuplicateScan analysisId = some scan ∧ scan.state = .paused) ∧
      ∀ l t', l ≠ .scan (.resumeScan analysisId) → M.step t l = some t' →
        t.scanner.store.claims analysisId t'.scanner.store = false
  resumed : ∀ scan observedUtc maxFiles e',
    e.scanner.store.loadDuplicateScan scan.analysisId = some scan → pausedForBackup scan = true →
    M.step e (.scan (.runCycle observedUtc false maxFiles)) = some e' →
    ∀ t, ByCommands M e' t → ∃ t' found, M.step t .choose = some t' ∧
      t'.scanner.store.loadDuplicateScan scan.analysisId = some found ∧ found.state ≠ .paused

section
variable {limits : ScannerLimits} {digests : ScanDigests} {analyses : String → List FileEntry}
  {st st' st'' : ScanStore} {analysisId : String}

/-- What a statement for one scan does: it pauses no scan for a backup, and it leaves the rows of
the other scans and claims none of their requests. -/
structure Touches (analysisId : String) (st st' : ScanStore) : Prop where
  scans : ∃ f : DuplicateScan → DuplicateScan, st'.scans = st.scans.map f ∧
    (∀ scan, (f scan).analysisId = scan.analysisId) ∧
    (∀ scan, scan.analysisId ≠ analysisId → f scan = scan) ∧
    ∀ scan, pausedForBackup (f scan) = true → pausedForBackup scan = true
  requests : ∀ request ∈ st'.requests, request.state = .running →
    request.analysisId ≠ analysisId → request ∈ st.requests

theorem touches_requests (hscans : st'.scans = st.scans)
    (h : ∀ request ∈ st'.requests, request.state = .running →
      request.analysisId ≠ analysisId → request ∈ st.requests) : Touches analysisId st st' :=
  ⟨⟨id, by rw [hscans, List.map_id], fun _ => rfl, fun _ _ => rfl, fun _ h => h⟩, h⟩

theorem Touches.refl : Touches analysisId st st := touches_requests rfl fun _ h _ _ => h

theorem Touches.trans (h : Touches analysisId st st') (h' : Touches analysisId st' st'') :
    Touches analysisId st st'' := by
  obtain ⟨f, hf, hkey, hother, hback⟩ := h.scans
  obtain ⟨g, hg, hkey', hother', hback'⟩ := h'.scans
  refine ⟨⟨g ∘ f, by rw [hg, hf, List.map_map], fun scan => ?_, fun scan hne =>
    ?_, fun scan hg => ?_⟩,
    fun request hrequest hrunning hne => ?_⟩
  · exact (hkey' (f scan)).trans (hkey scan)
  · show g (f scan) = scan
    rw [hother scan hne, hother' scan hne]
  · exact hback scan (hback' (f scan) hg)
  · exact h.requests request (h'.requests request hrequest hrunning hne) hrunning hne

variable {p : DuplicateScan → Bool} {f : DuplicateScan → DuplicateScan}

theorem touches_updateScan (hkey : ∀ scan, (f scan).analysisId = scan.analysisId)
    (hback : ∀ scan, pausedForBackup (f scan) = true → pausedForBackup scan = true) :
    Touches analysisId st (st.updateScan analysisId p f) := by
  refine ⟨⟨onlyIf (fun scan => scan.analysisId = analysisId && p scan) f, rfl, onlyIf_key _ hkey,
    fun scan hne => ?_, fun scan h => ?_⟩, fun _ h _ _ => h⟩
  · unfold onlyIf
    rw [if_neg (by simp [hne])]
  · unfold onlyIf at h
    split at h
    · exact hback scan h
    · exact h

theorem Touches.updated (h : Touches analysisId st st')
    (hkey : ∀ scan, (f scan).analysisId = scan.analysisId)
    (hback : ∀ scan, pausedForBackup (f scan) = true → pausedForBackup scan = true) :
    Touches analysisId st (st'.updateScan analysisId p f) := h.trans (touches_updateScan hkey hback)

theorem touches_resumeScan : Touches analysisId st (st.resumeScan analysisId) :=
  touches_updateScan (fun _ => rfl) fun _ h => absurd h Bool.false_ne_true

variable {requests : List HashRequest} {request : HashRequest}

theorem mem_of_updateWhere_running {p : HashRequest → Bool} {f : HashRequest → HashRequest}
    (hf : ∀ row, p row = true → (f row).state ≠ .running) (hrunning : request.state = .running)
    (h : request ∈ Table.updateWhere requests p f) : request ∈ requests := by
  obtain ⟨row, hrow, rfl⟩ := Table.mem_updateWhere.mp h
  split at hrunning
  · rename_i hp
    exact absurd hrunning (hf row hp)
  · rw [if_neg ‹_›]
    exact hrow

theorem touches_markStarted : Touches analysisId st (st.markStarted analysisId) :=
  touches_updateScan (fun _ => rfl) fun _ h => absurd h Bool.false_ne_true

theorem touches_recover : Touches analysisId st st.recoverInterruptedRequests := by
  refine touches_requests rfl fun request hrequest hrunning _ => ?_
  refine mem_of_updateWhere_running ?_ hrunning hrequest
  exact fun _ _ => nofun

theorem touches_pauseScan : Touches analysisId st (st.pauseScan analysisId) :=
  touches_updateScan (fun _ => rfl) fun scan h => by simp [pausedForBackup] at h

variable {requestStage : RequestStage}

theorem touches_claim {found : Option HashRequest}
    (h : st.claimNextRequest digests analysisId requestStage = .ok (st', found)) :
    Touches analysisId st st' := by
  obtain ⟨rfl, -, -⟩ | ⟨claimed, -, hid, -, -, -, rfl⟩ := claimNextRequest_ok h
  · exact .refl
  · refine touches_requests rfl fun request hrequest _ hne => ?_
    rcases Table.mem_overwrite hrequest with rfl | ⟨hold, -⟩
    · exact absurd hid hne
    · exact hold

theorem mem_insertRequests (rows : List FileEntry)
    (h : request ∈ rows.foldl (insertRequest analysisId) requests) :
    request ∈ requests ∨ request.analysisId = analysisId := by
  induction rows generalizing requests with
  | nil => exact .inl h
  | cons entry rows ih =>
    rcases ih h with hinserted | hid
    · unfold insertRequest at hinserted
      simp only at hinserted
      split at hinserted
      · exact .inl hinserted
      · exact (Table.mem_insert.mp hinserted).imp_right fun hnew => by rw [hnew]
    · exact .inr hid

theorem touches_enqueue {scan : DuplicateScan} :
    Touches scan.analysisId st (st.enqueueQuickRequests limits analyses scan).1 := by
  rcases enqueueQuickRequests_cases with h | ⟨h, -, -⟩ | ⟨rows, last, flag, -, -, h⟩ <;> rw [h]
  · exact touches_updateScan (fun _ => rfl) fun _ h => h
  · exact .refl
  · dsimp only
    refine Touches.updated ?_ ?_ ?_
    · exact touches_requests rfl fun request hrequest _ hne =>
        (mem_insertRequests rows hrequest).resolve_right hne
    · exact fun _ => rfl
    · exact fun _ h => h

theorem touches_advanceToFullHash : Touches analysisId st (st.advanceToFullHash analysisId) := by
  unfold ScanStore.advanceToFullHash
  dsimp only
  refine Touches.updated ?_ ?_ ?_
  · refine touches_requests rfl fun request hrequest hrunning _ => ?_
    refine mem_of_updateWhere_running ?_ hrunning
      (mem_of_updateWhere_running (fun row hsigned => ?_) hrunning hrequest)
    · exact fun _ _ => nofun
    unfold signed at hsigned
    simp only [Bool.and_eq_true, decide_eq_true_eq] at hsigned
    show row.state ≠ .running
    rw [hsigned.2]
    nofun
  · exact fun _ => rfl
  · exact fun _ h => h

theorem touches_advanceToMaterialization :
    Touches analysisId st (st.advanceToMaterialization analysisId) := by
  unfold ScanStore.advanceToMaterialization
  split
  · exact .refl
  · exact touches_updateScan (fun _ => rfl) fun _ h => h

theorem touches_materialize {completedUtc : String} :
    Touches analysisId st (st.materializeAndComplete analysisId completedUtc) := by
  unfold ScanStore.materializeAndComplete
  refine Touches.updated ?_ ?_ ?_
  · exact touches_requests rfl fun _ h _ _ => (List.mem_filter.mp h).1
  · exact fun _ => rfl
  · exact fun _ h => absurd h Bool.false_ne_true

theorem touches_updateRunning {key : RequestKey} {p : HashRequest → Bool}
    {f : HashRequest → HashRequest} (hf : ∀ row, (f row).state ≠ .running) :
    Touches analysisId st (st.updateRunning key p f) :=
  touches_requests rfl fun _ h hrunning _ =>
    mem_of_updateWhere_running (fun row _ => hf row) hrunning h

variable {item : HashRequest}

theorem touches_retryOrFail {errorCode : String} :
    Touches analysisId st (st.retryOrFailRequest item errorCode) := by
  refine touches_updateRunning fun row => ?_
  dsimp only
  split <;> nofun

variable {answers : Answers}

theorem touches_afterHashing {cycle : Cycle} {s : Scanner} :
    Touches analysisId s.store (s.afterHashing cycle item answers).store := by
  unfold Scanner.afterHashing
  dsimp only
  split
  · unfold ScanStore.processQuickRequest
    split
    · exact touches_retryOrFail
    · split
      · exact touches_retryOrFail
      · exact touches_updateRunning fun _ => nofun
  · unfold ScanStore.processFullHashRequest
    split
    · exact touches_retryOrFail
    · split
      · exact touches_retryOrFail
      · split
        · exact touches_retryOrFail
        · exact touches_updateRunning fun _ => nofun

/-- A pass that works on one scan only. -/
structure PassFor (analysisId : String) (s s' : Scanner) : Prop where
  store : Touches analysisId s.store s'.store
  call : ∀ other, s'.call.worksOn other = true → other = analysisId

variable {s s' : Scanner} {cycle : Cycle}

variable {context : Except String Unit}

theorem passFor_claim (h : s.claim digests cycle requestStage context = some s') :
    PassFor cycle.analysisId s s' := by
  unfold Scanner.claim at h
  split at h
  · obtain rfl := Option.some.inj h
    exact ⟨.refl, nofun⟩
  · cases h
  · rename_i hclaim
    split at h <;> obtain rfl := Option.some.inj h
    · exact ⟨touches_claim hclaim, nofun⟩
    · exact ⟨touches_claim hclaim, fun other hother => (of_decide_eq_true hother).symm⟩

theorem worksOn_looping {other : String} (h : (Call.looping cycle).worksOn other = true) :
    other = cycle.analysisId := (of_decide_eq_true h).symm

theorem passFor_loopHead (hcall : s.call = .looping cycle) :
    PassFor cycle.analysisId s (s.loopHead limits digests analyses cycle context) := by
  unfold Scanner.loopHead
  split
  · exact ⟨.refl, nofun⟩
  · split
    · exact ⟨.refl, nofun⟩
    · rename_i scan hload
      have hid : scan.analysisId = cycle.analysisId := Table.lookup_key hload
      split
      · unfold Scanner.quickPass
        split
        · exact passFor_claim ‹_›
        · have htouches : Touches cycle.analysisId s.store
              (s.store.enqueueQuickRequests limits analyses scan).1 := hid ▸ touches_enqueue
          split <;> rename_i henqueue <;> rw [henqueue] at htouches
          · exact ⟨htouches, fun other => worksOn_looping⟩
          · exact ⟨htouches, fun other => worksOn_looping⟩
      · unfold Scanner.fullHashPass
        split
        · exact passFor_claim ‹_›
        · exact ⟨touches_advanceToMaterialization, fun other h => worksOn_looping (hcall ▸ h)⟩
      · exact ⟨touches_materialize, nofun⟩
      · exact ⟨.refl, nofun⟩

theorem passFor_afterEnumeration :
    PassFor cycle.analysisId s (s.afterEnumeration cycle) := by
  unfold Scanner.afterEnumeration
  split
  · exact ⟨touches_advanceToFullHash, fun other => worksOn_looping⟩
  · exact ⟨.refl, nofun⟩

theorem pass_passFor (h : s.pass limits digests analyses answers = some s') :
    ∃ analysisId, s.call.worksOn analysisId = true ∧ PassFor analysisId s s' := by
  unfold Scanner.pass at h
  split at h
  · cases h
  · rename_i cycle hcall
    obtain rfl := Option.some.inj h
    exact ⟨cycle.analysisId, by rw [hcall]; exact decide_eq_true rfl, passFor_loopHead hcall⟩
  · rename_i cycle hcall
    obtain rfl := Option.some.inj h
    exact ⟨cycle.analysisId, by rw [hcall]; exact decide_eq_true rfl, passFor_afterEnumeration⟩
  · rename_i cycle item hcall
    obtain rfl := Option.some.inj h
    exact ⟨cycle.analysisId, by rw [hcall]; exact decide_eq_true rfl,
      touches_afterHashing, fun other => worksOn_looping⟩

end

section
variable {limits : ScannerLimits} {digests : ScanDigests} {analyses : String → List FileEntry}
  {e e' : Engine} {st st' : ScanStore} {analysisId : String} {ids : String → Prop}

/-- Only scans of `ids` are paused for a backup. -/
def BackedUp (st : ScanStore) (ids : String → Prop) : Prop :=
  ∀ scan ∈ st.scans, pausedForBackup scan = true → ids scan.analysisId

def Backups (st : ScanStore) : Option Choice → Prop
  | none => ∃ analysisId, BackedUp st (· = analysisId)
  | some (.resuming analysisId) => BackedUp st (· = analysisId)
  | some _ => BackedUp st fun _ => False

/-- What every state keeps. -/
structure Sound (e : Engine) : Prop where
  unique : Table.KeysUnique DuplicateScan.analysisId e.scanner.store.scans
  backups : Backups e.scanner.store (e.opening.map Opening.choice)

variable {choice : Option Choice}

theorem Backups.carry (h : Backups st choice) (hcarry : ∀ ids, BackedUp st ids → BackedUp st' ids) :
    Backups st' choice := by
  cases choice with
  | none =>
    obtain ⟨analysisId, honly⟩ := h
    exact ⟨analysisId, hcarry _ honly⟩
  | some choice =>
    cases choice with
    | resuming analysisId => exact hcarry (· = analysisId) h
    | _ => exact hcarry (fun _ => False) h

theorem BackedUp.atMost (h : BackedUp st fun _ => False) (analysisId : String) :
    BackedUp st (· = analysisId) := fun scan hscan hp => (h scan hscan hp).elim

theorem Backups.atMostOne (h : Backups st choice) : Backups st none := by
  cases choice with
  | none => exact h
  | some choice =>
    cases choice with
    | resuming analysisId => exact ⟨analysisId, h⟩
    | _ => exact ⟨"", BackedUp.atMost h ""⟩

theorem Touches.unique (h : Touches analysisId st st')
    (hunique : Table.KeysUnique DuplicateScan.analysisId st.scans) :
    Table.KeysUnique DuplicateScan.analysisId st'.scans := by
  obtain ⟨f, hf, hkey, -, -⟩ := h.scans
  rw [hf]
  exact hunique.map hkey

theorem Touches.backedUp (h : Touches analysisId st st') (hbacked : BackedUp st ids) :
    BackedUp st' ids := by
  obtain ⟨f, hf, hkey, -, hback⟩ := h.scans
  intro scan hscan hp
  rw [hf] at hscan
  obtain ⟨old, hold, rfl⟩ := List.mem_map.mp hscan
  rw [hkey]
  exact hbacked old hold (hback old hp)

/-- What starting a scan leaves as it was. -/
structure Starts (st st' : ScanStore) : Prop where
  unique : Table.KeysUnique DuplicateScan.analysisId st'.scans
  backedUp : ∀ ids, BackedUp st ids → BackedUp st' ids
  active : ∀ analysisId scan, st.loadDuplicateScan analysisId = some scan →
    ScanState.isActive scan.state = true → st'.loadDuplicateScan analysisId = some scan
  requests : ∀ request ∈ st'.requests, request ∈ st.requests

theorem Starts.refl (h : Table.KeysUnique DuplicateScan.analysisId st.scans) : Starts st st :=
  ⟨h, fun _ h => h, fun _ _ h _ => h, fun _ h => h⟩

variable {scan : DuplicateScan}

theorem pruneScanHistory_active (hunique : Table.KeysUnique DuplicateScan.analysisId st.scans)
    (hload : st.loadDuplicateScan analysisId = some scan)
    (hactive : ScanState.isActive scan.state = true) :
    (st.pruneScanHistory limits digests).loadDuplicateScan analysisId = some scan := by
  rw [← hload]
  refine Table.lookup_filter_of_imp fun row hrow => ?_
  rw [hrow, Bool.not_eq_true', Bool.eq_false_iff]
  intro hcontains
  obtain ⟨other, hother, hid, hover⟩ := pruned_completed (List.contains_iff_mem.mp hcontains)
  have hfound := Table.lookup_of_mem hunique hother
  rw [hid] at hfound
  obtain rfl := Option.some.inj (hfound.symm.trans hload)
  rcases hover with hstate | hstate <;> rw [hstate] at hactive <;> cases hactive

variable {requestedUtc : String} {ready : Except String Unit}

theorem starts_startScan (hunique : Table.KeysUnique DuplicateScan.analysisId st.scans)
    (h : st.startScan limits digests analyses analysisId requestedUtc ready = .ok st') :
    Starts st st' := by
  unfold ScanStore.startScan at h
  simp only at h
  split at h
  · cases h
  · split at h
    · cases h
    · split at h
      · obtain rfl := Except.ok.inj h
        exact .refl hunique
      · rename_i hfresh
        split at h
        · cases h
        · split at h
          · cases h
          · obtain rfl := Except.ok.inj h
            refine ⟨hunique.filter.insert ?_, fun ids hbacked scan hscan hp => ?_,
              fun analysisId scan hload hactive => ?_, fun request hrequest => ?_⟩
            · exact Table.lookup_none_iff.mpr fun row hrow =>
                Table.lookup_none_iff.mp hfresh row (List.mem_filter.mp hrow).1
            · rcases Table.mem_insert.mp hscan with hold | rfl
              · exact hbacked scan (List.mem_filter.mp hold).1 hp
              · cases hp
            · exact Table.lookup_insert_of_some (pruneScanHistory_active hunique hload hactive)
            · exact (List.mem_filter.mp hrequest).1

theorem step_startScan (hunique : Table.KeysUnique DuplicateScan.analysisId e.scanner.store.scans)
    (hstep : e.step limits digests analyses (.scan (.startScan analysisId requestedUtc ready)) =
      some e') : e' = e ∨ ∃ store, Starts e.scanner.store store ∧
      e' = { e with scanner := { e.scanner with store } } := by
  obtain ⟨scanner, hscanner, rfl⟩ := Option.map_eq_some_iff.mp hstep
  unfold Scanner.step at hscanner
  dsimp only at hscanner
  split at hscanner
  · obtain rfl := Option.some.inj hscanner
    exact .inl rfl
  · rename_i store hstarted
    obtain rfl := Option.some.inj hscanner
    exact .inr ⟨store, starts_startScan hunique hstarted, rfl⟩

theorem firstScan_none {p : DuplicateScan → Bool} (h : st.firstScan digests p = none)
    (hscan : scan ∈ st.scans) : p scan = false := by
  refine Bool.eq_false_iff.mpr fun hp => ?_
  have hmem : scan ∈ (st.scans.filter p).insertionSort (scanOrder digests) := by
    rw [List.mem_insertionSort]
    exact List.mem_filter.mpr ⟨hscan, hp⟩
  rw [List.head?_eq_none_iff.mp h] at hmem
  cases hmem

theorem Sound.runCycle (h : Sound e) {observedUtc : String} {activeBackup : Bool}
    {maxFiles : Option Nat}
    (hstep : e.runCycle limits digests observedUtc activeBackup maxFiles = some e') : Sound e' := by
  unfold Engine.runCycle at hstep
  simp only at hstep
  split at hstep
  · cases hstep
  · obtain rfl := Option.some.inj hstep
    refine ⟨h.unique, ?_⟩
    obtain ⟨analysisId, honly⟩ := h.backups.atMostOne
    cases hfirst : e.scanner.store.firstScan digests pausedForBackup with
    | some paused =>
      obtain ⟨hmem, hp⟩ := firstScan_mem hfirst
      intro scan hscan hpaused
      exact (honly scan hscan hpaused).trans (honly paused hmem hp).symm
    | none =>
      intro scan hscan hpaused
      rw [firstScan_none hfirst hscan] at hpaused
      cases hpaused

theorem resumeScan_backedUp (h : BackedUp st (· = analysisId)) :
    BackedUp (st.resumeScan analysisId) fun _ => False := by
  intro scan hscan hp
  obtain ⟨old, hold, rfl⟩ := Table.mem_updateWhere.mp hscan
  split at hp
  · cases hp
  · rename_i hskip
    have hid : old.analysisId = analysisId := h old hold hp
    unfold pausedForBackup at hp
    rw [Bool.and_eq_true] at hp
    exact hskip (Bool.and_eq_true_iff.mpr ⟨decide_eq_true hid, hp.1⟩)

theorem pauseForActiveBackup_backedUp (h : BackedUp st fun _ => False) :
    BackedUp (st.pauseForActiveBackup analysisId) (· = analysisId) := by
  intro scan hscan hp
  obtain ⟨old, hold, rfl⟩ := Table.mem_updateWhere.mp hscan
  split at hp
  · rename_i hupdated
    rw [if_pos hupdated]
    exact of_decide_eq_true (Bool.and_eq_true_iff.mp hupdated).1
  · exact (h old hold hp).elim

theorem Sound.choose (h : Sound e) {opening : Opening} (hopen : e.opening = some opening) :
    Sound (e.choose digests opening) := by
  have hbackups : Backups e.scanner.store (some opening.choice) := by
    have hbackups := h.backups
    rw [hopen] at hbackups
    exact hbackups
  obtain ⟨observedUtc, activeBackup, limit, choice⟩ := opening
  unfold Engine.choose
  cases choice with
  | resuming analysisId =>
    -- the scan that was paused for a backup is the one that is resumed
    have hresumed := resumeScan_backedUp hbackups
    dsimp only
    split
    · exact ⟨touches_resumeScan.unique h.unique, hresumed⟩
    · exact ⟨touches_resumeScan.unique h.unique, hresumed⟩
  | seeking =>
    dsimp only
    split
    · exact ⟨h.unique, hbackups⟩
    · exact ⟨h.unique, "", BackedUp.atMost hbackups ""⟩
  | starting analysisId =>
    have hstarted : BackedUp (e.scanner.store.markStarted analysisId) fun _ => False :=
      touches_markStarted.backedUp hbackups
    dsimp only
    split
    · exact ⟨touches_markStarted.unique h.unique, hstarted⟩
    · exact ⟨touches_markStarted.unique h.unique, "", hstarted.atMost ""⟩
  | chosen analysisId =>
    dsimp only
    split
    -- with an active backup the cycle pauses its scan and works on nothing
    · refine ⟨?_, analysisId, pauseForActiveBackup_backedUp hbackups⟩
      exact h.unique.updateWhere fun _ => rfl
    · exact ⟨h.unique, "", BackedUp.atMost hbackups ""⟩

theorem Sound.touched (h : Sound e) {scanner : Scanner}
    (htouches : Touches analysisId e.scanner.store scanner.store) :
    Sound { e with scanner := scanner } :=
  ⟨htouches.unique h.unique, h.backups.carry fun _ => htouches.backedUp⟩

theorem Sound.step (h : Sound e) {l : EngineStep}
    (hstep : e.step limits digests analyses l = some e') : Sound e' := by
  cases l with
  | choose =>
    obtain ⟨opening, hopen, rfl⟩ := Option.map_eq_some_iff.mp hstep
    exact h.choose hopen
  | scan l =>
    cases l with
    | startScan analysisId requestedUtc ready =>
      obtain rfl | ⟨store, hstarts, rfl⟩ := step_startScan h.unique hstep
      · exact h
      · exact ⟨hstarts.unique, h.backups.carry hstarts.backedUp⟩
    | pauseScan analysisId =>
      obtain rfl := Option.some.inj hstep
      exact h.touched touches_pauseScan
    | resumeScan analysisId =>
      obtain rfl := Option.some.inj hstep
      exact h.touched touches_resumeScan
    | runCycle observedUtc activeBackup maxFiles => exact h.runCycle hstep
    | pass answers =>
      obtain ⟨scanner, hscanner, rfl⟩ := Option.map_eq_some_iff.mp hstep
      obtain ⟨analysisId, -, hpass⟩ := pass_passFor hscanner
      exact h.touched hpass.store
    | restart =>
      obtain rfl := Option.some.inj hstep
      have hrecover : Touches "" e.scanner.store _ := touches_recover
      exact ⟨hrecover.unique h.unique, (h.backups.carry fun _ => hrecover.backedUp).atMostOne⟩

theorem Sound.reachable (h : (engine limits digests analyses).Reachable e) : Sound e := by
  refine h.invariant (P := Sound) (fun e hinit => ?_) fun e l e' _ he _ hstep => he.step hstep
  obtain rfl : e = {} := hinit
  exact ⟨List.nodup_nil, "", fun scan hscan => nomatch hscan⟩

end
section
variable {limits : ScannerLimits} {digests : ScanDigests} {analyses : String → List FileEntry}
  {e e' : Engine} {st st' : ScanStore} {analysisId other : String}

/-- A paused scan is not changed, and no request of it begins to run. -/
structure Spares (analysisId : String) (st st' : ScanStore) : Prop where
  row : ∀ scan, st.loadDuplicateScan analysisId = some scan → scan.state = .paused →
    st'.loadDuplicateScan analysisId = some scan
  requests : ∀ request ∈ st'.requests, request.state = .running →
    request.analysisId = analysisId → request ∈ st.requests

/-- A paused scan that no cycle works on or resumes. -/
structure Held (e : Engine) (analysisId : String) : Prop where
  row : ∃ scan, e.scanner.store.loadDuplicateScan analysisId = some scan ∧
    scan.state = .paused ∧ pausedForBackup scan = false
  call : e.scanner.call.worksOn analysisId = false
  opening : ∀ opening, e.opening = some opening → opening.choice.worksOn analysisId = false

theorem Spares.refl : Spares analysisId st st := ⟨fun _ h _ => h, fun _ h _ _ => h⟩

theorem Spares.claims (h : Spares analysisId st st') : st.claims analysisId st' = false := by
  refine List.any_eq_false.mpr fun request hrequest hclaimed => ?_
  simp only [Bool.and_eq_true, decide_eq_true_eq, Bool.not_eq_true', Bool.eq_false_iff, ne_eq,
    List.contains_iff_mem] at hclaimed
  exact hclaimed.2 (h.requests request hrequest hclaimed.1.2 hclaimed.1.1)

theorem Touches.spares (h : Touches other st st') (hne : analysisId ≠ other) :
    Spares analysisId st st' := by
  obtain ⟨f, hf, hkey, hother, -⟩ := h.scans
  refine ⟨fun scan hload _ => ?_, fun request hrequest hrunning hid =>
    h.requests request hrequest hrunning (hid ▸ hne)⟩
  unfold ScanStore.loadDuplicateScan
  rw [hf, Table.lookup_map hkey]
  show (st.loadDuplicateScan analysisId).map f = some scan
  rw [hload]
  exact congrArg some (hother scan ((Table.lookup_key hload).symm ▸ hne))

variable {p : DuplicateScan → Bool} {f : DuplicateScan → DuplicateScan}

theorem spares_updateScan (hkey : ∀ scan, (f scan).analysisId = scan.analysisId)
    (h : other = analysisId → ∀ scan, p scan = true → scan.state ≠ .paused) :
    Spares analysisId st (st.updateScan other p f) := by
  refine ⟨fun scan hload hpaused => ?_, fun _ h _ _ => h⟩
  rw [loadDuplicateScan_updateScan hkey, hload]
  refine congrArg some (if_neg fun hupdated => ?_)
  obtain ⟨hid, hp⟩ := Bool.and_eq_true_iff.mp hupdated
  exact h ((of_decide_eq_true hid).symm.trans (Table.lookup_key hload)) scan hp hpaused

variable {scan : DuplicateScan}

theorem not_paused (h : (decide (scan.state = .queued) || decide (scan.state = .running)) = true) :
    scan.state ≠ .paused := by
  intro hpaused
  rw [hpaused] at h
  cases h

theorem Held.spared (h : Held e analysisId) (hspares : Spares analysisId e.scanner.store
    e'.scanner.store) (hcall : e'.scanner.call.worksOn analysisId = false)
    (hopening : ∀ opening, e'.opening = some opening →
      opening.choice.worksOn analysisId = false) :
    Held e' analysisId ∧ e.scanner.store.claims analysisId e'.scanner.store = false := by
  obtain ⟨scan, hload, hpaused, hback⟩ := h.row
  exact ⟨⟨⟨scan, hspares.row scan hload hpaused, hpaused, hback⟩, hcall, hopening⟩,
    hspares.claims⟩

theorem Held.ne_of_firstScan (h : Held e analysisId) (hsound : Sound e) {found : DuplicateScan}
    (hfound : e.scanner.store.firstScan digests p = some found)
    (hp : ∀ scan, scan.state = .paused → pausedForBackup scan = false → p scan = false) :
    found.analysisId ≠ analysisId := by
  intro hid
  obtain ⟨hmem, hpfound⟩ := firstScan_mem hfound
  obtain ⟨scan, hload, hpaused, hback⟩ := h.row
  have hlookup := Table.lookup_of_mem hsound.unique hmem
  rw [hid] at hlookup
  obtain rfl := Option.some.inj (hlookup.symm.trans hload)
  rw [hp found hpaused hback] at hpfound
  cases hpfound

variable {observedUtc : String} {activeBackup : Bool} {maxFiles : Option Nat}

theorem Held.runCycle (h : Held e analysisId) (hsound : Sound e)
    (hstep : e.runCycle limits digests observedUtc activeBackup maxFiles = some e') :
    Held e' analysisId ∧ e.scanner.store.claims analysisId e'.scanner.store = false := by
  unfold Engine.runCycle at hstep
  simp only at hstep
  split at hstep
  · cases hstep
  · obtain rfl := Option.some.inj hstep
    refine h.spared .refl h.call fun opening hopening => ?_
    obtain rfl := Option.some.inj hopening
    cases hfirst : e.scanner.store.firstScan digests pausedForBackup with
    | some paused =>
      exact decide_eq_false (h.ne_of_firstScan hsound hfirst fun _ _ hback => hback)
    | none => rfl

theorem Held.choose (h : Held e analysisId) (hsound : Sound e) {opening : Opening}
    (hopen : e.opening = some opening) :
    Held (e.choose digests opening) analysisId ∧
      e.scanner.store.claims analysisId (e.choose digests opening).scanner.store = false := by
  have hworks := h.opening opening hopen
  obtain ⟨observedUtc, activeBackup, limit, choice⟩ := opening
  unfold Engine.choose
  cases choice with
  | resuming other =>
    -- only a scan that was paused for a backup is resumed, and the held one was not
    have hne : other ≠ analysisId := of_decide_eq_false hworks
    have hspares : Spares analysisId e.scanner.store (e.scanner.store.resumeScan other) :=
      spares_updateScan (fun _ => rfl) fun heq => absurd heq hne
    dsimp only
    split
    · exact h.spared hspares h.call fun _ hopening => Option.some.inj hopening ▸ hworks
    · exact h.spared hspares h.call fun _ hopening => Option.some.inj hopening ▸ rfl
  | seeking =>
    dsimp only
    split
    · rename_i next hfirst
      have hne := h.ne_of_firstScan hsound hfirst fun scan hpaused _ =>
        Bool.eq_false_iff.mpr fun hp => not_paused hp hpaused
      exact h.spared .refl h.call fun _ hopening => Option.some.inj hopening ▸ decide_eq_false hne
    · exact h.spared .refl h.call nofun
  | starting other =>
    have hspares : Spares analysisId e.scanner.store (e.scanner.store.markStarted other) :=
      spares_updateScan (fun _ => rfl) fun _ scan hp hpaused => by
        rw [hpaused] at hp
        cases hp
    dsimp only
    split
    · exact h.spared hspares h.call fun _ hopening => Option.some.inj hopening ▸ hworks
    · exact h.spared hspares h.call nofun
  | chosen other =>
    dsimp only
    split
    · exact h.spared (spares_updateScan (fun _ => rfl) fun _ scan => not_paused) h.call nofun
    · exact h.spared .refl hworks nofun

theorem Held.step (h : Held e analysisId) (hsound : Sound e) {l : EngineStep}
    (hl : l ≠ .scan (.resumeScan analysisId))
    (hstep : e.step limits digests analyses l = some e') :
    Held e' analysisId ∧ e.scanner.store.claims analysisId e'.scanner.store = false := by
  cases l with
  | choose =>
    obtain ⟨opening, hopen, rfl⟩ := Option.map_eq_some_iff.mp hstep
    exact h.choose hsound hopen
  | scan l =>
    cases l with
    | startScan other requestedUtc ready =>
      obtain rfl | ⟨store, hstarts, rfl⟩ := step_startScan hsound.unique hstep
      · exact h.spared .refl h.call h.opening
      · refine h.spared ⟨fun scan hload hpaused => ?_, fun request hrequest _ _ =>
          hstarts.requests request hrequest⟩ h.call h.opening
        exact hstarts.active _ scan hload (by rw [hpaused]; rfl)
    | pauseScan other =>
      obtain rfl := Option.some.inj hstep
      exact h.spared (spares_updateScan (fun _ => rfl) fun _ scan => not_paused) h.call h.opening
    | resumeScan other =>
      obtain rfl := Option.some.inj hstep
      have hne : analysisId ≠ other := fun heq => hl (heq ▸ rfl)
      exact h.spared (touches_resumeScan.spares hne) h.call h.opening
    | runCycle observedUtc activeBackup maxFiles => exact h.runCycle hsound hstep
    | pass answers =>
      obtain ⟨scanner, hscanner, rfl⟩ := Option.map_eq_some_iff.mp hstep
      obtain ⟨other, hworks, hpass⟩ := pass_passFor hscanner
      -- a pass works on the scan of its call, and the held scan has none
      have hne : analysisId ≠ other := by
        rintro rfl
        rw [h.call] at hworks
        cases hworks
      exact h.spared (hpass.store.spares hne)
        (Bool.eq_false_iff.mpr fun hcall => hne (hpass.call _ hcall)) h.opening
    | restart =>
      obtain rfl := Option.some.inj hstep
      refine h.spared ⟨fun _ hload _ => hload, fun request hrequest hrunning _ => ?_⟩ rfl nofun
      refine mem_of_updateWhere_running ?_ hrunning hrequest
      exact fun _ _ => nofun

theorem Held.unresumed (h : Held e analysisId)
    (hreach : (engine limits digests analyses).Reachable e)
    (hrun : Unresumed (engine limits digests analyses) analysisId e e') :
    Held e' analysisId ∧ (engine limits digests analyses).Reachable e' := by
  induction hrun with
  | refl => exact ⟨h, hreach⟩
  | tail _ hlast ih =>
    obtain ⟨l, hl, hstep⟩ := hlast
    exact ⟨(ih.1.step (.reachable ih.2) hl hstep).1, .step ih.2 trivial hstep⟩

theorem updateScan_self (hkey : ∀ scan, (f scan).analysisId = scan.analysisId)
    (hload : st.loadDuplicateScan analysisId = some scan) :
    (st.updateScan analysisId p f).loadDuplicateScan analysisId =
      some (if p scan then f scan else scan) := by
  rw [loadDuplicateScan_updateScan hkey, hload]
  show some (if (scan.analysisId = analysisId && p scan) = true then f scan else scan) = _
  rw [decide_eq_true (Table.lookup_key hload), Bool.true_and]

theorem resumeScan_self (hload : st.loadDuplicateScan analysisId = some scan) :
    ∃ found, (st.resumeScan analysisId).loadDuplicateScan analysisId = some found ∧
      found.state ≠ .paused := by
  unfold ScanStore.resumeScan
  refine ⟨_, updateScan_self ?_ hload, ?_⟩
  · exact fun _ => rfl
  · split
    · nofun
    · rename_i hother
      exact fun hpaused => hother (decide_eq_true hpaused)

theorem held_of_pauseScan (hheeded : Heeded e analysisId) {status : DuplicateScan}
    (hload : (e.scanner.store.pauseScan analysisId).loadDuplicateScan analysisId = some status)
    (hactive : ScanState.isActive status.state = true) :
    Held { e with scanner := { e.scanner with store := e.scanner.store.pauseScan analysisId } }
      analysisId := by
  obtain ⟨hback, hworks⟩ := hheeded
  rw [Engine.worksOn, Bool.or_eq_false_iff] at hworks
  refine ⟨⟨status, hload, ?_⟩, hworks.1, fun opening hopening => ?_⟩
  · cases hscan : e.scanner.store.loadDuplicateScan analysisId with
    | none =>
      rw [ScanStore.pauseScan, loadDuplicateScan_updateScan, hscan] at hload
      · cases hload
      · exact fun _ => rfl
    | some scan =>
      rw [ScanStore.pauseScan, updateScan_self ?_ hscan] at hload
      · obtain rfl := Option.some.inj hload
        split
        · exact ⟨rfl, rfl⟩
        · rename_i hother
          rw [if_neg hother] at hactive
          refine ⟨?_, hback scan hscan⟩
          cases hstate : scan.state <;> rw [hstate] at hactive hother <;>
            first | rfl | exact absurd rfl hother | cases hactive
      · exact fun _ => rfl
  · have hnone := hworks.2
    rw [hopening] at hnone
    exact hnone

/-- The engine is about to resume an active scan. -/
structure Resuming (e : Engine) (analysisId : String) : Prop where
  unique : Table.KeysUnique DuplicateScan.analysisId e.scanner.store.scans
  row : ∃ scan, e.scanner.store.loadDuplicateScan analysisId = some scan ∧
    ScanState.isActive scan.state = true
  opening : e.opening.map Opening.choice = some (.resuming analysisId)

theorem Resuming.updated (h : Resuming e analysisId)
    (hkey : ∀ scan, (f scan).analysisId = scan.analysisId)
    (hactive : ∀ scan, ScanState.isActive (f scan).state = true) : Resuming { e with scanner :=
      { e.scanner with store := e.scanner.store.updateScan other p f } } analysisId := by
  obtain ⟨scan, hload, hstate⟩ := h.row
  refine ⟨h.unique.updateWhere hkey,
    ⟨onlyIf (fun scan => scan.analysisId = other && p scan) f scan, ?_, ?_⟩, h.opening⟩
  · show (e.scanner.store.updateScan other p f).loadDuplicateScan analysisId = _
    rw [loadDuplicateScan_updateScan hkey, hload]
    rfl
  · unfold onlyIf
    split
    · exact hactive scan
    · exact hstate

theorem Resuming.byCommands (h : Resuming e analysisId)
    (hrun : ByCommands (engine limits digests analyses) e e') : Resuming e' analysisId := by
  induction hrun with
  | refl => exact h
  | tail _ hlast ih =>
    obtain ⟨l, hduring, hpass, hstep⟩ := hlast
    cases l with
    | startScan other requestedUtc ready =>
      obtain rfl | ⟨store, hstarts, rfl⟩ := step_startScan ih.unique hstep
      · exact ih
      · obtain ⟨scan, hload, hactive⟩ := ih.row
        exact ⟨hstarts.unique, ⟨scan, hstarts.active _ scan hload hactive, hactive⟩, ih.opening⟩
    | pauseScan other =>
      obtain rfl := Option.some.inj hstep
      exact ih.updated (fun _ => rfl) fun _ => rfl
    | resumeScan other =>
      obtain rfl := Option.some.inj hstep
      exact ih.updated (fun _ => rfl) fun _ => rfl
    | runCycle observedUtc activeBackup maxFiles => cases hduring
    | pass answers => cases hpass
    | restart => cases hduring

theorem Resuming.choose (h : Resuming e analysisId) : ∃ e' found,
    e.opening.map (e.choose digests) = some e' ∧
      e'.scanner.store.loadDuplicateScan analysisId = some found ∧ found.state ≠ .paused := by
  obtain ⟨scan, hload, -⟩ := h.row
  obtain ⟨opening, hopen, hchoice⟩ := Option.map_eq_some_iff.mp h.opening
  obtain ⟨found, hresumed, hstate⟩ := resumeScan_self hload
  refine ⟨e.choose digests opening, found, congrArg (Option.map _) hopen, ?_, hstate⟩
  unfold Engine.choose
  rw [hchoice]
  dsimp only
  rw [hresumed]
  exact hresumed

theorem Sound.resuming (h : Sound e)
    (hload : e.scanner.store.loadDuplicateScan scan.analysisId = some scan)
    (hback : pausedForBackup scan = true)
    (hstep : e.runCycle limits digests observedUtc activeBackup maxFiles = some e') :
    Resuming e' scan.analysisId := by
  have hmem : scan ∈ e.scanner.store.scans := Table.lookup_mem hload
  unfold Engine.runCycle at hstep
  simp only at hstep
  split at hstep
  · cases hstep
  · obtain rfl := Option.some.inj hstep
    refine ⟨h.unique, ⟨scan, hload, ?_⟩, ?_⟩
    · rw [of_decide_eq_true (Bool.and_eq_true_iff.mp hback).1]
      rfl
    · obtain ⟨analysisId, honly⟩ := h.backups.atMostOne
      cases hfirst : e.scanner.store.firstScan digests pausedForBackup with
      | some paused =>
        obtain ⟨hpaused, hp⟩ := firstScan_mem hfirst
        exact congrArg (some ∘ Choice.resuming)
          ((honly paused hpaused hp).trans (honly scan hmem hback).symm)
      | none =>
        rw [firstScan_none hfirst hmem] at hback
        cases hback

/-- A pause that comes before a cycle works on its scan holds until a resume command, and the first
cycle without a backup resumes what a backup has paused. -/
theorem pauses_hold (h : (engine limits digests analyses).Reachable e) :
    PausesHold (engine limits digests analyses) Heeded e := by
  have hsound := Sound.reachable h
  refine ⟨fun analysisId e' status hheeded hstep hload hactive t hrun => ?_,
    fun scan observedUtc maxFiles e' hload hback hstep t hrun => ?_⟩
  · have hpaused : (engine limits digests analyses).Reachable e' := .step h trivial hstep
    obtain rfl := Option.some.inj hstep
    obtain ⟨hheld, hreach⟩ := (held_of_pauseScan hheeded hload hactive).unresumed hpaused hrun
    obtain ⟨scan, hscan, hstate, -⟩ := hheld.row
    exact ⟨⟨scan, hscan, hstate⟩, fun l t' hl hnext =>
      (hheld.step (.reachable hreach) hl hnext).2⟩
  · exact ((hsound.resuming hload hback hstep).byCommands hrun).choose

end

section

def sampleEngine : System Engine EngineStep := engine sampleLimits sampleDigests sampleAnalyses

def backedUpScans : List EngineStep :=
  [.scan (.startScan "analysis" "2024-01-01" (.ok ())), .scan (.runCycle "2024-01-01" true none),
    .choose, .choose, .choose, .scan (.startScan "later" "2024-01-02" (.ok ()))]

theorem backedUpScans_run : (sampleEngine.replay {} backedUpScans).isSome = true := by
  decide +kernel

theorem pauses_hold_backedUpScans : PausesHold sampleEngine Heeded
    ((sampleEngine.replay {} backedUpScans).get backedUpScans_run) :=
  pauses_hold (System.Reachable.replay (.init rfl) backedUpScans
    (Option.some_get backedUpScans_run).symm)

def enqueuedScan : List EngineStep :=
  [.scan (.startScan "analysis" "2024-01-01" (.ok ())), .scan (.runCycle "2024-01-01" false none),
    .choose, .choose, .choose, .scan (.pass answered)]

theorem enqueuedScan_claimed : ((sampleEngine.replay {} enqueuedScan).any fun e =>
    (sampleEngine.step e (.scan (.pauseScan "analysis"))).any fun e' =>
      (e'.scanner.store.loadDuplicateScan "analysis").any (ScanState.isActive ·.state) &&
        (sampleEngine.step e' (.scan (.pass answered))).any fun t =>
          e'.scanner.store.claims "analysis" t.scanner.store) = true := by
  decide +kernel

/-- A cycle that works on a scan goes on with it after it is paused. -/
theorem pauses_unheeded : ¬ ∀ e, sampleEngine.Reachable e →
    PausesHold sampleEngine (fun _ _ => True) e := by
  intro h
  obtain ⟨e, he, hrun⟩ := (Option.any_eq_true _ _).mp enqueuedScan_claimed
  obtain ⟨e', hpause, hboth⟩ := (Option.any_eq_true _ _).mp hrun
  obtain ⟨hstatus, hpass⟩ := Bool.and_eq_true_iff.mp hboth
  obtain ⟨status, hload, hactive⟩ := (Option.any_eq_true _ _).mp hstatus
  obtain ⟨t, hnext, hclaims⟩ := (Option.any_eq_true _ _).mp hpass
  have hreach := System.Reachable.replay (.init rfl) enqueuedScan he
  have hheld := ((h e hreach).held "analysis" e' status trivial hpause hload hactive e' .refl).2
    (.scan (.pass answered)) t nofun hnext
  rw [hheld] at hclaims
  cases hclaims

end

end MediaSync.Duplicates
