import MediaSync.Duplicates.ScanCycle

/-! A request is at the stage of its scan or done, a running one is the one that the call is
hashing, and a pending one has an attempt left, as long as nothing takes a third attempt away from
it. -/
namespace MediaSync.Duplicates
open Transition ScanStore

/-- A request that its scan, in that stage, can hold. -/
structure Fits (stage : ScanStage) (request : HashRequest) : Prop where
  admissible : request.admissible = true
  waiting : request.state = .pending → request.attemptCount < maxAttemptsPerFile
  kept : stage ≠ .done
  place : (request.requestStage = .done ∧ request.state.isOpen = false) ∨
    (stage = .quickSignature ∧ request.requestStage = .quickSignature ∧
      request.state ≠ .failed ∧ (request.state = .succeeded → request.quick.isSome = true)) ∨
    (stage ≠ .quickSignature ∧ request.requestStage = .fullHash ∧
      (request.state.isOpen = true → stage = .fullHash))

/-- The state of a scan agrees with its stage and its reason. -/
structure Proper (scan : DuplicateScan) : Prop where
  completed : scan.state = .completed ↔ scan.stage = .done
  notFailed : scan.state ≠ .failed
  paused : scan.state = .paused →
    scan.reasonCode = some "USER_REQUESTED" ∨ scan.reasonCode = some "ACTIVE_BACKUP"

def Serves (st : ScanStore) (cycle : Cycle) : Prop :=
  1 ≤ cycle.limit ∧ ∃ scan, st.loadDuplicateScan cycle.analysisId = some scan ∧ scan.stage ≠ .done

def Call.Steady (st : ScanStore) : Call → Prop
  | .idle => True
  | .looping cycle => Serves st cycle
  | .enumerated cycle => Serves st cycle ∧ st.quickStageComplete cycle.analysisId = true ∧
      ∀ scan, st.loadDuplicateScan cycle.analysisId = some scan → scan.stage = .quickSignature
  | .hashing cycle item => Serves st cycle ∧ item ∈ st.requests ∧ item.state = .running ∧
      item.analysisId = cycle.analysisId

/-- What every state keeps. -/
structure Steady (s : Scanner) : Prop where
  scansUnique : Table.KeysUnique DuplicateScan.analysisId s.store.scans
  requestsUnique : Table.KeysUnique HashRequest.key s.store.requests
  scans : ∀ scan ∈ s.store.scans, Proper scan
  requests : ∀ request ∈ s.store.requests, ∃ scan,
    s.store.loadDuplicateScan request.analysisId = some scan ∧ Fits scan.stage request
  running : ∀ request ∈ s.store.requests, request.state = .running →
    ∃ cycle, s.call = .hashing cycle request
  call : s.call.Steady s.store

section
variable {s : Scanner} {st' : ScanStore} {call' : Call} {f : DuplicateScan → DuplicateScan}
  {g : HashRequest → HashRequest}

/-- Every scan and every request is rewritten in its place, under its key. -/
structure Rewrites (st st' : ScanStore) (f : DuplicateScan → DuplicateScan)
    (g : HashRequest → HashRequest) : Prop where
  scans : st'.scans = st.scans.map f
  requests : st'.requests = st.requests.map g
  scanKey : ∀ scan, (f scan).analysisId = scan.analysisId
  requestKey : ∀ request, (g request).key = request.key

theorem Rewrites.analysisId {st : ScanStore} (h : Rewrites st st' f g) (request : HashRequest) :
    (g request).analysisId = request.analysisId := congrArg Prod.fst (h.requestKey request)

theorem Rewrites.loadDuplicateScan {st : ScanStore} (h : Rewrites st st' f g)
    (analysisId : String) :
    st'.loadDuplicateScan analysisId = (st.loadDuplicateScan analysisId).map f := by
  unfold ScanStore.loadDuplicateScan
  rw [h.scans]
  exact Table.lookup_map h.scanKey analysisId

theorem Rewrites.requestsOf {st : ScanStore} (h : Rewrites st st' f g) (analysisId : String) :
    st'.requestsOf analysisId = (st.requestsOf analysisId).map g := by
  unfold ScanStore.requestsOf
  rw [h.requests, List.filter_map]
  refine congrArg (List.map g) (congrArg (fun p => st.requests.filter p) ?_)
  funext request
  simp [h.analysisId request]

theorem Steady.rewrite (h : Steady s) (hrewrites : Rewrites s.store st' f g)
    (hscans : ∀ scan ∈ s.store.scans, Proper (f scan))
    (hrequests : ∀ request ∈ s.store.requests, ∀ scan,
      s.store.loadDuplicateScan request.analysisId = some scan → Fits scan.stage request →
        Fits (f scan).stage (g request) ∧
          ((g request).state = .running → ∃ cycle, call' = .hashing cycle (g request)))
    (hcall : call'.Steady st') : Steady { store := st', call := call' } := by
  refine ⟨?_, ?_, ?_, ?_, ?_, hcall⟩
  · show Table.KeysUnique DuplicateScan.analysisId st'.scans
    rw [hrewrites.scans]
    exact h.scansUnique.map hrewrites.scanKey
  · show Table.KeysUnique HashRequest.key st'.requests
    rw [hrewrites.requests]
    exact h.requestsUnique.map hrewrites.requestKey
  · intro scan hscan
    rw [hrewrites.scans] at hscan
    obtain ⟨old, hold, rfl⟩ := List.mem_map.mp hscan
    exact hscans old hold
  · intro request hrequest
    rw [hrewrites.requests] at hrequest
    obtain ⟨old, hold, rfl⟩ := List.mem_map.mp hrequest
    obtain ⟨scan, hload, hfits⟩ := h.requests old hold
    refine ⟨f scan, ?_, (hrequests old hold scan hload hfits).1⟩
    rw [hrewrites.analysisId, hrewrites.loadDuplicateScan, hload]
    rfl
  · intro request hrequest hrunning
    rw [hrewrites.requests] at hrequest
    obtain ⟨old, hold, rfl⟩ := List.mem_map.mp hrequest
    obtain ⟨scan, hload, hfits⟩ := h.requests old hold
    exact (hrequests old hold scan hload hfits).2 hrunning

theorem Rewrites.serves {st : ScanStore} (h : Rewrites st st' f g) {cycle : Cycle}
    (hserves : Serves st cycle)
    (hstage : ∀ scan, st.loadDuplicateScan cycle.analysisId = some scan →
      scan.stage ≠ .done → (f scan).stage ≠ .done) : Serves st' cycle := by
  obtain ⟨hlimit, scan, hload, hopen⟩ := hserves
  exact ⟨hlimit, f scan, by rw [h.loadDuplicateScan, hload]; rfl, hstage scan hload hopen⟩

def onlyIf {Row : Type} (p : Row → Bool) (f : Row → Row) (row : Row) : Row :=
  if p row then f row else row

theorem onlyIf_key {Row Key : Type} (key : Row → Key) {p : Row → Bool} {f : Row → Row}
    (hf : ∀ row, key (f row) = key row) (row : Row) : key (onlyIf p f row) = key row := by
  unfold onlyIf
  split
  · exact hf row
  · rfl

variable {st : ScanStore} {analysisId : String}

variable {p : DuplicateScan → Bool}

theorem rewrites_updateScan {f : DuplicateScan → DuplicateScan}
    (hf : ∀ scan, (f scan).analysisId = scan.analysisId) :
    Rewrites st (st.updateScan analysisId p f)
      (onlyIf (fun scan => scan.analysisId = analysisId && p scan) f) id :=
  ⟨rfl, (List.map_id _).symm, onlyIf_key _ hf, fun _ => rfl⟩

theorem loadDuplicateScan_updateScan {f : DuplicateScan → DuplicateScan}
    (hf : ∀ scan, (f scan).analysisId = scan.analysisId) (other : String) :
    (st.updateScan analysisId p f).loadDuplicateScan other = (st.loadDuplicateScan other).map
        (onlyIf (fun scan => scan.analysisId = analysisId && p scan) f) :=
  (rewrites_updateScan hf).loadDuplicateScan other

theorem rewrites_updateRunning {key : RequestKey} {p : HashRequest → Bool}
    {g : HashRequest → HashRequest} (hg : ∀ request, (g request).key = request.key) :
    Rewrites st (st.updateRunning key p g) id
      (onlyIf (fun request => request.key = key && request.state = .running && p request) g) :=
  ⟨(List.map_id _).symm, rfl, fun _ => rfl, onlyIf_key _ hg⟩

theorem rewrites_recover : Rewrites st st.recoverInterruptedRequests id
    (onlyIf (fun request => request.state = .running) fun request => { request with
      state := .pending
      lastErrorCode := some "HASH_REQUEST_INTERRUPTED" }) :=
  ⟨(List.map_id _).symm, rfl, fun _ => rfl, onlyIf_key _ fun _ => rfl⟩

def ScanStore.withRequest (st : ScanStore) (request : HashRequest) : ScanStore :=
  { st with requests := Table.overwrite HashRequest.key st.requests request }

theorem rewrites_withRequest {claimed : HashRequest} : Rewrites st (st.withRequest claimed) id
      (fun request => if request.key = claimed.key then claimed else request) := by
  refine ⟨(List.map_id _).symm, rfl, fun _ => rfl, fun request => ?_⟩
  show (if request.key = claimed.key then claimed else request).key = request.key
  split
  · rename_i hkey
    exact hkey.symm
  · rfl

end

section
variable (limits : ScannerLimits)

def HasRoom (st : ScanStore) (scan : DuplicateScan) : Prop :=
  scan.quickEnumerationComplete = true ∨ st.requests.length < limits.maxPersistedRequests ∨
    scan.candidateFileCount ≤ (st.requestsOf scan.analysisId).length

/-- What the loop of a call needs for its next request or stage. -/
structure LoopSpared (st : ScanStore) (cycle : Cycle) (answers : Answers) : Prop where
  context : (∃ request ∈ st.requestsOf cycle.analysisId, request.state = .pending) →
    answers.context = .ok ()
  room : ∀ scan, st.loadDuplicateScan cycle.analysisId = some scan →
    scan.stage = .quickSignature →
    (∀ request ∈ st.requestsOf cycle.analysisId, request.state ≠ .pending) → HasRoom limits st scan

/-- The steps that spare the scans: no request goes to its second stage, or back to the queue
after a restart, with all its attempts used, contexts load, and there is room. -/
def Spared (s : Scanner) : ScanStep → Prop
  | .pass answers =>
    (∀ cycle, s.call = .looping cycle → cycle.attempted < cycle.limit →
      LoopSpared limits s.store cycle answers) ∧
    ∀ cycle, s.call = .enumerated cycle → ∀ request ∈ s.store.requests,
      s.store.matching cycle.analysisId request = true → request.attemptCount < maxAttemptsPerFile
  | .restart => ∀ request ∈ s.store.requests, request.state = .running →
    request.attemptCount < maxAttemptsPerFile
  | _ => True

end

section
variable {limits : ScannerLimits} {digests : ScanDigests} {analyses : String → List FileEntry}
  {s : Scanner} {st st' : ScanStore} {f : DuplicateScan → DuplicateScan} {analysisId : String}

theorem quickStageComplete_congr
    (hscan : st.loadDuplicateScan analysisId = some scan)
    (hscan' : st'.loadDuplicateScan analysisId = some scan')
    (hflag : scan.quickEnumerationComplete = true → scan'.quickEnumerationComplete = true)
    (hrequests : st'.requestsOf analysisId = st.requestsOf analysisId)
    (h : st.quickStageComplete analysisId = true) : st'.quickStageComplete analysisId = true := by
  unfold ScanStore.quickStageComplete at h ⊢
  rw [hscan, Option.any_some, Bool.and_eq_true] at h
  rw [hscan', Option.any_some, Bool.and_eq_true, hrequests]
  exact ⟨hflag h.1, h.2⟩

theorem mem_requestsOf {request : HashRequest} :
    request ∈ st.requestsOf analysisId ↔ request ∈ st.requests ∧
      request.analysisId = analysisId := by
  unfold ScanStore.requestsOf
  rw [List.mem_filter, decide_eq_true_eq]

theorem Call.Steady.carry {call : Call} (h : call.Steady st)
    (hkept : ∀ analysisId scan, st.loadDuplicateScan analysisId = some scan → scan.stage ≠ .done →
      st'.requestsOf analysisId = st.requestsOf analysisId ∧ ∃ scan',
        st'.loadDuplicateScan analysisId = some scan' ∧ scan'.stage = scan.stage ∧
          (scan.quickEnumerationComplete = true → scan'.quickEnumerationComplete = true)) :
    call.Steady st' := by
  have hserves : ∀ cycle, Serves st cycle → Serves st' cycle := by
    rintro cycle ⟨hlimit, scan, hscan, hopen⟩
    obtain ⟨-, scan', hscan', hstage, -⟩ := hkept _ scan hscan hopen
    exact ⟨hlimit, scan', hscan', hstage.symm ▸ hopen⟩
  cases call with
  | idle => trivial
  | looping cycle => exact hserves cycle h
  | enumerated cycle =>
    obtain ⟨hbefore, hcomplete, hquick⟩ := h
    obtain ⟨-, scan, hscan, hopen⟩ := id hbefore
    obtain ⟨hrequests, scan', hscan', hstage, hflag⟩ := hkept _ scan hscan hopen
    refine ⟨hserves cycle hbefore,
      quickStageComplete_congr hscan hscan' hflag hrequests hcomplete, fun found hfound => ?_⟩
    obtain rfl := Option.some.inj (hscan'.symm.trans hfound)
    exact hstage.trans (hquick scan hscan)
  | hashing cycle item =>
    obtain ⟨hbefore, hitem, hrunning, hid⟩ := h
    obtain ⟨-, scan, hscan, hopen⟩ := id hbefore
    have hmem : item ∈ st'.requestsOf cycle.analysisId := by
      rw [(hkept _ scan hscan hopen).1]
      exact mem_requestsOf.mpr ⟨hitem, hid⟩
    exact ⟨hserves cycle hbefore, (mem_requestsOf.mp hmem).1, hrunning, hid⟩

theorem Steady.retouch (h : Steady s) (hrewrites : Rewrites s.store st' f id)
    (hstage : ∀ scan, (f scan).stage = scan.stage)
    (hflag : ∀ scan, scan.quickEnumerationComplete = true →
      (f scan).quickEnumerationComplete = true)
    (hproper : ∀ scan ∈ s.store.scans, Proper (f scan)) : Steady { s with store := st' } := by
  refine h.rewrite hrewrites hproper (fun request hrequest scan hscan hfits => ?_)
    (h.call.carry fun analysisId scan hscan hopen => ?_)
  · refine ⟨?_, fun hrunning => h.running request hrequest hrunning⟩
    rw [hstage scan]
    exact hfits
  · refine ⟨(hrewrites.requestsOf analysisId).trans (List.map_id _), f scan, ?_, hstage scan,
      hflag scan⟩
    rw [hrewrites.loadDuplicateScan, hscan]
    rfl

theorem Steady.recall (h : Steady s) (hnot : ∀ cycle item, s.call ≠ .hashing cycle item)
    {call : Call} (hcall : call.Steady s.store) : Steady { s with call } :=
  ⟨h.scansUnique, h.requestsUnique, h.scans, h.requests, fun request hrequest hrunning => by
    obtain ⟨cycle, hhashing⟩ := h.running request hrequest hrunning
    exact absurd hhashing (hnot cycle request), hcall⟩

theorem Proper.move {scan : DuplicateScan} (h : Proper scan) {state : ScanState}
    {reasonCode : Option String} (hbefore : scan.state ≠ .completed) (hafter : state ≠ .completed)
    (hnotFailed : state ≠ .failed) (hpaused : state = .paused →
      reasonCode = some "USER_REQUESTED" ∨ reasonCode = some "ACTIVE_BACKUP") :
    Proper { scan with state, reasonCode } :=
  ⟨⟨fun hcompleted => absurd hcompleted hafter, fun hdone =>
    absurd (h.completed.mpr hdone) hbefore⟩,
    hnotFailed, hpaused⟩

theorem Steady.moveScan (h : Steady s) {p : DuplicateScan → Bool} {state : ScanState}
    {reasonCode : Option String} (hbefore : ∀ scan, p scan = true → scan.state ≠ .completed)
    (hafter : state ≠ .completed) (hnotFailed : state ≠ .failed)
    (hpaused : state = .paused →
      reasonCode = some "USER_REQUESTED" ∨ reasonCode = some "ACTIVE_BACKUP") :
    Steady { s with store := s.store.updateScan analysisId p fun scan =>
      { scan with state, reasonCode } } := by
  refine h.retouch (rewrites_updateScan fun _ => rfl) (fun scan => ?_) (fun scan hflag => ?_)
    fun scan hscan => ?_
  · refine onlyIf_key DuplicateScan.stage ?_ scan
    exact fun _ => rfl
  · refine Eq.trans (onlyIf_key DuplicateScan.quickEnumerationComplete ?_ scan) hflag
    exact fun _ => rfl
  · unfold onlyIf
    split
    · rename_i hp
      exact (h.scans scan hscan).move
        (hbefore scan (Bool.and_eq_true_iff.mp hp).2) hafter hnotFailed
        hpaused
    · exact h.scans scan hscan

theorem Steady.pauseScan (h : Steady s) :
    Steady { s with store := s.store.pauseScan analysisId } := by
  refine h.moveScan (fun scan hp => ?_) (by decide) (by decide) fun _ => .inl rfl
  rintro hcompleted
  rw [hcompleted] at hp
  cases hp

theorem Steady.pauseForActiveBackup (h : Steady s) :
    Steady { s with store := s.store.pauseForActiveBackup analysisId } := by
  refine h.moveScan (fun scan hp => ?_) (by decide) (by decide) fun _ => .inr rfl
  rintro hcompleted
  rw [hcompleted] at hp
  cases hp

theorem Steady.resumeScan (h : Steady s) :
    Steady { s with store := s.store.resumeScan analysisId } := by
  refine h.moveScan (fun scan hp => ?_) (by decide) (by decide) fun hpaused => by cases hpaused
  rintro hcompleted
  rw [hcompleted] at hp
  cases hp

theorem pruned_completed {analysisId : String}
    (h : analysisId ∈ (((st.scans.filter fun scan =>
      scan.state = .completed || scan.state = .failed).insertionSort
        (historyOrder digests)).drop (limits.maxHistoryRows - 1)).map DuplicateScan.analysisId) :
    ∃ scan ∈ st.scans, scan.analysisId = analysisId ∧
      (scan.state = .completed ∨ scan.state = .failed) := by
  obtain ⟨scan, hscan, hid⟩ := List.mem_map.mp h
  have hsorted := List.mem_of_mem_drop hscan
  rw [List.mem_insertionSort, List.mem_filter] at hsorted
  simp only [Bool.or_eq_true, decide_eq_true_eq] at hsorted
  exact ⟨scan, hsorted.1, hid, hsorted.2⟩

theorem Steady.prune (h : Steady s) : Steady
    { s with store := s.store.pruneScanHistory limits digests } := by
  set pruned := (((s.store.scans.filter fun scan =>
    scan.state = .completed || scan.state = .failed).insertionSort (historyOrder digests)).drop
      (limits.maxHistoryRows - 1)).map DuplicateScan.analysisId with hpruned
  have hstore : s.store.pruneScanHistory limits digests = {
      scans := s.store.scans.filter fun scan => !pruned.contains scan.analysisId
      requests :=
        s.store.requests.filter fun request => !pruned.contains request.analysisId } := rfl
  have hload : ∀ analysisId scan, s.store.loadDuplicateScan analysisId = some scan →
      scan.stage ≠ .done → pruned.contains analysisId = false ∧
        (s.store.pruneScanHistory limits digests).loadDuplicateScan analysisId = some scan := by
    intro analysisId scan hscan hopen
    have hkept : pruned.contains analysisId = false := by
      refine Bool.eq_false_iff.mpr fun hcontains => ?_
      obtain ⟨other, hother, hid, hover⟩ :=
        pruned_completed (List.contains_iff_mem.mp hcontains)
      have hsame : other = scan := by
        have hfound := Table.lookup_of_mem h.scansUnique hother
        rw [hid] at hfound
        exact Option.some.inj (hfound.symm.trans hscan)
      have hproper := h.scans scan (Table.lookup_mem hscan)
      rw [hsame] at hover
      rcases hover with hcompleted | hfailed
      · exact hopen (hproper.completed.mp hcompleted)
      · exact hproper.notFailed hfailed
    refine ⟨hkept, ?_⟩
    rw [← hscan, hstore]
    refine Table.lookup_filter_of_imp fun row hrow => ?_
    rw [hrow, hkept]
    rfl
  have hrequestsOf : ∀ analysisId, pruned.contains analysisId = false →
      (s.store.pruneScanHistory limits digests).requestsOf analysisId =
        s.store.requestsOf analysisId := by
    intro analysisId hkept
    unfold ScanStore.requestsOf
    rw [hstore, List.filter_filter]
    refine List.filter_congr fun request _ => ?_
    by_cases hid : request.analysisId = analysisId
    · rw [hid, hkept]
      simp
    · simp [hid]
  refine ⟨?_, ?_, ?_, ?_, ?_, ?_⟩
  · exact h.scansUnique.filter
  · exact h.requestsUnique.filter
  · exact fun scan hscan => h.scans scan (List.mem_filter.mp hscan).1
  · intro request hrequest
    obtain ⟨scan, hscan, hfits⟩ := h.requests request (List.mem_filter.mp hrequest).1
    exact ⟨scan, (hload _ scan hscan hfits.kept).2, hfits⟩
  · exact fun request hrequest => h.running request (List.mem_filter.mp hrequest).1
  · refine h.call.carry fun analysisId scan hscan hopen => ?_
    obtain ⟨hkept, hscan'⟩ := hload _ scan hscan hopen
    exact ⟨hrequestsOf _ hkept, scan, hscan', rfl, id⟩

theorem Steady.insertScan (h : Steady s) {scan : DuplicateScan}
    (hfresh : s.store.loadDuplicateScan scan.analysisId = none) (hproper : Proper scan) :
    Steady { s with store := { s.store with scans := Table.insert s.store.scans scan } } := by
  have hload : ∀ analysisId found, s.store.loadDuplicateScan analysisId = some found →
      ({ s.store with scans := Table.insert s.store.scans scan } : ScanStore).loadDuplicateScan
        analysisId = some found := fun analysisId found hfound => Table.lookup_insert_of_some hfound
  refine ⟨h.scansUnique.insert hfresh, h.requestsUnique, fun other hother => ?_,
    fun request hrequest => ?_, h.running, ?_⟩
  · rcases Table.mem_insert.mp hother with hold | rfl
    · exact h.scans other hold
    · exact hproper
  · obtain ⟨found, hfound, hfits⟩ := h.requests request hrequest
    exact ⟨found, hload _ found hfound, hfits⟩
  · exact h.call.carry fun analysisId found hfound _ => ⟨rfl, found, hload _ found hfound, rfl, id⟩

theorem Steady.startScan (h : Steady s) {requestedUtc : String} {ready : Except String Unit}
    (hstart : s.store.startScan limits digests analyses analysisId requestedUtc ready = .ok st') :
    Steady { s with store := st' } := by
  unfold ScanStore.startScan at hstart
  simp only at hstart
  split at hstart
  · cases hstart
  · split at hstart
    · cases hstart
    · split at hstart
      · obtain rfl := Except.ok.inj hstart
        exact h
      · rename_i hfresh
        split at hstart
        · cases hstart
        · split at hstart
          · cases hstart
          · obtain rfl := Except.ok.inj hstart
            have hpruned : Steady
              { s with store := s.store.pruneScanHistory limits digests } := h.prune
            refine hpruned.insertScan ?_ ⟨⟨nofun, nofun⟩, nofun, nofun⟩
            refine Table.lookup_none_iff.mpr fun row hrow => ?_
            exact Table.lookup_none_iff.mp hfresh row (List.mem_filter.mp hrow).1

end

section
variable {limits : ScannerLimits} {digests : ScanDigests} {analyses : String → List FileEntry}
  {s s' : Scanner} {analysisId : String} {cycle : Cycle} {item : HashRequest}

variable {st : ScanStore} {scan : DuplicateScan}

theorem loadDuplicateScan_mem (h : st.loadDuplicateScan analysisId = some scan) :
    scan ∈ st.scans ∧ scan.analysisId = analysisId := ⟨Table.lookup_mem h, Table.lookup_key h⟩

theorem firstScan_mem {p : DuplicateScan → Bool} (h : st.firstScan digests p = some scan) :
    scan ∈ st.scans ∧ p scan = true := by
  have hmem := List.mem_of_mem_head? h
  rw [List.mem_insertionSort] at hmem
  exact List.mem_filter.mp hmem

theorem Steady.loadNextCycleScan (h : Steady s) {found : Option DuplicateScan}
    (hnext : s.store.loadNextCycleScan digests = (st, found)) :
    Steady { s with store := st } ∧ ∀ scan, found = some scan →
      st.loadDuplicateScan scan.analysisId = some scan ∧ scan.stage ≠ .done := by
  have hchosen : ∀ (st' : ScanStore) (chosen : DuplicateScan), Steady { s with store := st' } →
      chosen ∈ s.store.scans → chosen.state ≠ .completed →
      (∀ scan, st'.loadDuplicateScan chosen.analysisId = some scan → scan.stage = chosen.stage) →
      ∀ scan, st'.loadDuplicateScan chosen.analysisId = some scan →
        st'.loadDuplicateScan scan.analysisId = some scan ∧ scan.stage ≠ .done := by
    intro st' chosen _ hmem hopen hstage scan hscan
    refine ⟨(loadDuplicateScan_mem hscan).2.symm ▸ hscan, ?_⟩
    rw [hstage scan hscan]
    exact fun hdone => hopen ((h.scans chosen hmem).completed.mpr hdone)
  have hstages : ∀ (p : DuplicateScan → Bool) (state : ScanState) (chosen : DuplicateScan),
      chosen ∈ s.store.scans → ∀ scan, (s.store.updateScan chosen.analysisId p fun scan =>
        { scan with state, reasonCode := none }).loadDuplicateScan chosen.analysisId = some scan →
      scan.stage = chosen.stage := by
    intro p state chosen hmem scan hscan
    have hchosenRow : s.store.loadDuplicateScan chosen.analysisId = some chosen :=
      Table.lookup_of_mem h.scansUnique hmem
    rw [loadDuplicateScan_updateScan, hchosenRow] at hscan
    · obtain rfl := Option.some.inj hscan
      refine onlyIf_key DuplicateScan.stage ?_ chosen
      exact fun _ => rfl
    · exact fun _ => rfl
  unfold ScanStore.loadNextCycleScan at hnext
  split at hnext
  · rename_i paused hpaused
    obtain ⟨rfl, rfl⟩ := Prod.mk.inj hnext
    obtain ⟨hmem, hstate⟩ := firstScan_mem hpaused
    have hopen : paused.state ≠ .completed := by
      unfold ScanStore.pausedForBackup at hstate
      rintro hcompleted
      rw [hcompleted] at hstate
      cases hstate
    exact ⟨h.resumeScan, hchosen _ paused h.resumeScan hmem hopen (hstages _ _ paused hmem)⟩
  · split at hnext
    · obtain ⟨rfl, rfl⟩ := Prod.mk.inj hnext
      exact ⟨h, nofun⟩
    · rename_i next hnextScan
      obtain ⟨rfl, rfl⟩ := Prod.mk.inj hnext
      obtain ⟨hmem, hstate⟩ := firstScan_mem hnextScan
      have hopen : next.state ≠ .completed := by
        rintro hcompleted
        rw [hcompleted] at hstate
        cases hstate
      set started :=
        s.store.updateScan next.analysisId (fun scan => scan.state = .queued) fun scan =>
        { scan with state := .running, reasonCode := none }
      have hsteady : Steady { s with store := started } := by
        refine h.moveScan (fun scan hp => ?_) (by decide) (by decide) nofun
        rw [of_decide_eq_true hp]
        decide
      exact ⟨hsteady, hchosen _ next hsteady hmem hopen (hstages _ _ next hmem)⟩

theorem Steady.runCycle (h : Steady s) {observedUtc : String} {activeBackup : Bool}
    {maxFiles : Option Nat}
    (hstep : s.runCycle limits digests observedUtc activeBackup maxFiles = some s') :
    Steady s' := by
  unfold Scanner.runCycle at hstep
  simp only at hstep
  split at hstep
  · cases hstep
  · rename_i hguard
    rw [not_or, not_or, not_not] at hguard
    obtain ⟨hidle, hlimit, -⟩ := hguard
    split at hstep
    · rename_i store hnext
      obtain rfl := Option.some.inj hstep
      exact (h.loadNextCycleScan hnext).1
    · rename_i store scan hnext
      obtain ⟨hsteady, hfound⟩ := h.loadNextCycleScan hnext
      obtain ⟨hload, hopen⟩ := hfound scan rfl
      split at hstep
      · obtain rfl := Option.some.inj hstep
        exact hsteady.pauseForActiveBackup
      · obtain rfl := Option.some.inj hstep
        refine hsteady.recall (fun cycle item hcall => ?_)
          ⟨Nat.le_of_not_lt hlimit, scan, hload, hopen⟩
        rw [show s.call = .idle from hidle] at hcall
        cases hcall

variable {requestStage : RequestStage}

theorem claimNextRequest_ok {st st' : ScanStore} {found : Option HashRequest}
    (h : st.claimNextRequest digests analysisId requestStage = .ok (st', found)) :
    (st' = st ∧ found = none ∧ ∀ request ∈ st.requestsOf analysisId,
        request.requestStage = requestStage → request.state ≠ .pending) ∨
      ∃ request ∈ st.requests, request.analysisId = analysisId ∧
        request.requestStage = requestStage ∧ request.state = .pending ∧
        found = some
          { request with state := .running, attemptCount := request.attemptCount + 1 } ∧
        st' = st.withRequest
          { request with state := .running, attemptCount := request.attemptCount + 1 } := by
  unfold ScanStore.claimNextRequest at h
  have hmem : ∀ request, request ∈ st.pendingRequests digests analysisId requestStage ↔
      request ∈ st.requests ∧ request.analysisId = analysisId ∧
        request.requestStage = requestStage ∧ request.state = .pending := by
    intro request
    unfold ScanStore.pendingRequests
    rw [List.mem_insertionSort, List.mem_filter]
    simp only [Bool.and_eq_true, decide_eq_true_eq, and_assoc]
  split at h
  · rename_i hnone
    obtain ⟨rfl, rfl⟩ := Prod.mk.inj (Except.ok.inj h)
    refine .inl ⟨rfl, rfl, fun request hrequest hstage hpending => ?_⟩
    obtain ⟨hrow, hid⟩ := mem_requestsOf.mp hrequest
    have hin := (hmem request).mpr ⟨hrow, hid, hstage, hpending⟩
    rw [hnone] at hin
    exact absurd hin List.not_mem_nil
  · rename_i request rest hfound
    split at h
    · cases h
    · obtain ⟨rfl, rfl⟩ := Prod.mk.inj (Except.ok.inj h)
      obtain ⟨hrow, hid, hstage, hpending⟩ := (hmem request).mp (hfound ▸ List.mem_cons_self)
      exact .inr ⟨request, hrow, hid, hstage, hpending, rfl, rfl⟩

theorem Steady.claim_accepted (h : Steady s) (analysisId : String) (requestStage : RequestStage) :
    (s.store.claimNextRequest digests analysisId requestStage).isOk = true := by
  unfold ScanStore.claimNextRequest
  split
  · rfl
  · rename_i request rest hfound
    have hmem : request ∈ s.store.pendingRequests digests analysisId requestStage :=
      hfound ▸ List.mem_cons_self
    unfold ScanStore.pendingRequests at hmem
    rw [List.mem_insertionSort, List.mem_filter] at hmem
    simp only [Bool.and_eq_true, decide_eq_true_eq] at hmem
    obtain ⟨scan, -, hfits⟩ := h.requests request hmem.1
    have hspare : request.attemptCount < 3 := hfits.waiting hmem.2.2
    rw [if_neg (by unfold attemptCountBound; omega)]
    rfl

theorem Fits.claimed {stage : ScanStage} {request : HashRequest} (h : Fits stage request)
    (hpending : request.state = .pending) : Fits stage
      { request with state := .running, attemptCount := request.attemptCount + 1 } := by
  have hspare : request.attemptCount < 3 := h.waiting hpending
  refine ⟨?_, nofun, h.kept, ?_⟩
  · have hadmissible := h.admissible
    unfold HashRequest.admissible attemptCountBound at hadmissible ⊢
    simp only [hpending, Bool.and_eq_true, decide_eq_true_eq, Bool.or_eq_true] at hadmissible ⊢
    refine ⟨⟨by omega, ?_⟩, hadmissible.2⟩
    rcases hadmissible.1.2 with hplace | ⟨-, hfailed⟩
    · exact .inl hplace
    · cases hfailed
  · rcases h.place with ⟨-, hover⟩ | ⟨hstage, hrequest, -, -⟩ | ⟨hstage, hrequest, hopen⟩
    · rw [hpending] at hover
      cases hover
    · exact .inr (.inl ⟨hstage, hrequest, nofun, nofun⟩)
    · exact .inr (.inr ⟨hstage, hrequest, fun _ => hopen (by rw [hpending]; rfl)⟩)

theorem Steady.claimed (h : Steady s) (hcall : s.call = .looping cycle) {request : HashRequest}
    (hrequest : request ∈ s.store.requests) (hid : request.analysisId = cycle.analysisId)
    (hpending : request.state = .pending) :
    let claimed := { request with state := .running, attemptCount := request.attemptCount + 1 }
    Steady { store := s.store.withRequest claimed, call := .hashing cycle claimed } := by
  intro claimed
  have hserves : Serves s.store cycle := by
    have hbefore := h.call
    rw [hcall] at hbefore
    exact hbefore
  have hrewrites : Rewrites s.store (s.store.withRequest claimed) id _ := rewrites_withRequest
  refine h.rewrite hrewrites h.scans (fun other hother scan hscan hfits => ?_)
    ⟨hrewrites.serves hserves fun _ _ hopen => hopen, ?_, rfl, hid⟩
  · by_cases hkey : other.key = claimed.key
    · obtain rfl : other = request := Table.key_injOn h.requestsUnique hother hrequest hkey
      rw [if_pos hkey]
      exact ⟨hfits.claimed hpending, fun _ => ⟨cycle, rfl⟩⟩
    · rw [if_neg hkey]
      refine ⟨hfits, fun hrunning => ?_⟩
      obtain ⟨_, hhashing⟩ := h.running other hother hrunning
      rw [hcall] at hhashing
      cases hhashing
  · exact Table.mem_overwrite_self hrequest rfl

theorem enqueueQuickRequests_cases {st : ScanStore} {scan : DuplicateScan} :
    st.enqueueQuickRequests limits analyses scan =
        (st.markQuickEnumerationComplete scan.analysisId, 0) ∨
      (st.enqueueQuickRequests limits analyses scan = (st, 0) ∧
        ¬ st.requests.length < limits.maxPersistedRequests ∧
        ¬ scan.candidateFileCount ≤ (st.requestsOf scan.analysisId).length) ∨
      ∃ rows last flag, rows = (remainingCandidates analyses scan).take rows.length ∧
        rows.getLast? = some last ∧
        st.enqueueQuickRequests limits analyses scan =
          (({ st with requests := rows.foldl (insertRequest scan.analysisId) st.requests } :
              ScanStore).updateScan scan.analysisId (fun _ => true) fun row => { row with
            quickCursor := some (last.snapshotId, last.fileEntryId)
            quickEnumerationComplete := flag || row.quickEnumerationComplete }, rows.length) := by
  unfold ScanStore.enqueueQuickRequests
  simp only
  split
  · rename_i hfull
    split
    · exact .inl rfl
    · rename_i hleft
      exact .inr (.inl ⟨rfl, by omega, hleft⟩)
  · split
    · exact .inl rfl
    · rename_i last hlast
      refine .inr (.inr ⟨_, last, _, ?_, hlast, rfl⟩)
      rw [List.length_take, List.take_eq_take_iff]
      omega

theorem fits_new {entry : FileEntry} : Fits .quickSignature { analysisId, entry } :=
  ⟨rfl, fun _ => Nat.zero_lt_succ 2, nofun, .inr (.inl ⟨rfl, rfl, nofun, nofun⟩)⟩

theorem Steady.insertRequests (h : Steady s) (hcall : s.call = .looping cycle)
    (hscan : s.store.loadDuplicateScan cycle.analysisId = some scan)
    (hquick : scan.stage = .quickSignature) (rows : List FileEntry) :
    Steady { s with store := { s.store with
      requests := rows.foldl (insertRequest scan.analysisId) s.store.requests } } := by
  induction rows generalizing s with
  | nil => exact h
  | cons entry rows ih =>
    have hid : scan.analysisId = cycle.analysisId := Table.lookup_key hscan
    suffices hinserted : Steady { s with store := { s.store with
        requests := insertRequest scan.analysisId s.store.requests entry } } from
      ih hinserted hcall hscan
    unfold insertRequest
    simp only
    split
    · exact h
    · rename_i hfresh
      refine ⟨h.scansUnique, h.requestsUnique.insert hfresh, h.scans, fun request hrequest => ?_,
        fun request hrequest hrunning => ?_, ?_⟩
      · rcases Table.mem_insert.mp hrequest with hold | rfl
        · exact h.requests request hold
        · exact ⟨scan, hid ▸ hscan, hquick ▸ fits_new⟩
      · rcases Table.mem_insert.mp hrequest with hold | rfl
        · exact h.running request hold hrunning
        · cases hrunning
      · have hbefore := h.call
        rw [hcall] at hbefore
        show s.call.Steady _
        rw [hcall]
        exact hbefore

theorem Steady.moveCursor (h : Steady s) {f : DuplicateScan → DuplicateScan}
    (hf : ∀ scan, ∃ cursor flag, f scan = { scan with
      quickCursor := cursor
      quickEnumerationComplete := flag || scan.quickEnumerationComplete }) :
    Steady { s with store := s.store.updateScan analysisId (fun _ => true) f } := by
  refine h.retouch (rewrites_updateScan fun scan => ?_) (fun scan => ?_) (fun scan hflag => ?_)
    fun scan hscan => ?_
  · obtain ⟨_, _, hscan⟩ := hf scan
    rw [hscan]
  · refine onlyIf_key DuplicateScan.stage (fun scan => ?_) scan
    obtain ⟨_, _, hscan⟩ := hf scan
    rw [hscan]
  · unfold onlyIf
    obtain ⟨cursor, flag, hscan⟩ := hf scan
    split
    · rw [hscan]
      show (flag || scan.quickEnumerationComplete) = true
      rw [hflag, Bool.or_true]
    · exact hflag
  · unfold onlyIf
    obtain ⟨cursor, flag, hrow⟩ := hf scan
    split
    · have hproper := h.scans scan hscan
      rw [hrow]
      exact ⟨hproper.completed, hproper.notFailed, hproper.paused⟩
    · exact h.scans scan hscan

theorem Steady.not_open (h : Steady s) (hnot : ∀ cycle item, s.call ≠ .hashing cycle item)
    (hpending : ∀ request ∈ s.store.requestsOf analysisId,
      request.requestStage = requestStage → request.state ≠ .pending) :
    ∀ request ∈ s.store.requestsOf analysisId, request.requestStage = requestStage →
      request.state.isOpen = false := by
  intro request hrequest hstage
  have hnotPending := hpending request hrequest hstage
  have hnotRunning : request.state ≠ .running := fun hrunning => by
    obtain ⟨cycle, hhashing⟩ := h.running request (mem_requestsOf.mp hrequest).1 hrunning
    exact hnot cycle request hhashing
  cases hstate : request.state with
  | pending => exact absurd hstate hnotPending
  | running => exact absurd hstate hnotRunning
  | succeeded => rfl
  | failed => rfl

variable {stage : ScanStage} {request : HashRequest}

theorem Fits.open_stage (h : Fits stage request) (hopen : request.state.isOpen = true) :
    (stage = .quickSignature ∧ request.requestStage = .quickSignature) ∨
      (stage = .fullHash ∧ request.requestStage = .fullHash) := by
  rcases h.place with ⟨-, hover⟩ | ⟨hstage, hrequest, -, -⟩ | ⟨-, hrequest, hfull⟩
  · rw [hopen] at hover
    cases hover
  · exact .inl ⟨hstage, hrequest⟩
  · exact .inr ⟨hfull hopen, hrequest⟩

theorem Steady.serves (h : Steady s) (hcall : s.call = .looping cycle) : Serves s.store cycle := by
  have hbefore := h.call
  rw [hcall] at hbefore
  exact hbefore

theorem looping_not_hashing (hcall : s.call = .looping cycle) (other : Cycle) (item : HashRequest) :
    s.call ≠ .hashing other item := by
  rw [hcall]
  exact nofun

theorem Steady.enumerated (h : Steady s) (hcall : s.call = .looping cycle)
    (hscan : s.store.loadDuplicateScan cycle.analysisId = some scan)
    (hquick : scan.stage = .quickSignature)
    (hpending : ∀ request ∈ s.store.requestsOf cycle.analysisId,
      request.requestStage = .quickSignature → request.state ≠ .pending)
    (hflag : scan.quickEnumerationComplete = true) :
    Steady { s with call := .enumerated cycle } := by
  refine h.recall (looping_not_hashing hcall) ⟨h.serves hcall, ?_, fun found hfound => ?_⟩
  · unfold ScanStore.quickStageComplete
    rw [hscan, Option.any_some, Bool.and_eq_true, List.all_eq_true]
    refine ⟨hflag, fun request hrequest => ?_⟩
    have hclosed := h.not_open (looping_not_hashing hcall) hpending request hrequest
    by_cases hstage : request.requestStage = .quickSignature
    · simp [hclosed hstage]
    · simp [hstage]
  · obtain rfl := Option.some.inj (hscan.symm.trans hfound)
    exact hquick

theorem Steady.markComplete (h : Steady s) :
    Steady { s with store := s.store.markQuickEnumerationComplete analysisId } :=
  h.moveCursor fun scan => ⟨scan.quickCursor, true, rfl⟩

theorem Scanner.claim_cases {requestStage : RequestStage} {context : Except String Unit}
    (h : Steady s)
    (hcontext : (∃ request ∈ s.store.requestsOf cycle.analysisId, request.state = .pending) →
      context = .ok ()) :
    (s.claim digests cycle requestStage context = none ∧
        ∀ request ∈ s.store.requestsOf cycle.analysisId,
          request.requestStage = requestStage → request.state ≠ .pending) ∨
      ∃ request ∈ s.store.requests, request.analysisId = cycle.analysisId ∧
        request.requestStage = requestStage ∧ request.state = .pending ∧
        s.claim digests cycle requestStage context = some {
          store := s.store.withRequest
            { request with state := .running, attemptCount := request.attemptCount + 1 }
          call := .hashing cycle
            { request with state := .running, attemptCount := request.attemptCount + 1 } } := by
  unfold Scanner.claim
  cases hclaim : s.store.claimNextRequest digests cycle.analysisId requestStage with
  | error code =>
    have haccepted := @Steady.claim_accepted digests s h cycle.analysisId requestStage
    rw [hclaim] at haccepted
    cases haccepted
  | ok claimed =>
    obtain ⟨store, found⟩ := claimed
    rcases claimNextRequest_ok hclaim with
      ⟨-, rfl, hnone⟩ | ⟨request, hrequest, hid, hstage, hpending, rfl, rfl⟩
    · exact .inl ⟨rfl, hnone⟩
    · rw [hcontext ⟨request, mem_requestsOf.mpr ⟨hrequest, hid⟩, hpending⟩]
      exact .inr ⟨request, hrequest, hid, hstage, hpending, rfl⟩

variable {answers : Answers}

theorem Steady.quickPass (h : Steady s) (hcall : s.call = .looping cycle)
    (hscan : s.store.loadDuplicateScan cycle.analysisId = some scan)
    (hquick : scan.stage = .quickSignature) (hspared : LoopSpared limits s.store cycle answers) :
    Steady (s.quickPass limits digests analyses cycle scan answers.context) := by
  have hid : scan.analysisId = cycle.analysisId := Table.lookup_key hscan
  unfold Scanner.quickPass
  rcases @Scanner.claim_cases digests s cycle .quickSignature _ h hspared.context with
    ⟨hclaim, hpending⟩ | ⟨request, hrequest, hrow, -, hstate, hclaim⟩
  · rw [hclaim]
    simp only
    have hmarked : ∀ st, st = s.store.markQuickEnumerationComplete scan.analysisId →
        Steady { store := st, call := .enumerated cycle } := by
      rintro st rfl
      have hsteady : Steady { s with
        store := s.store.markQuickEnumerationComplete scan.analysisId } := h.markComplete
      have hscan' : (s.store.markQuickEnumerationComplete scan.analysisId).loadDuplicateScan
          cycle.analysisId = some { scan with quickEnumerationComplete := true } := by
        unfold markQuickEnumerationComplete
        rw [loadDuplicateScan_updateScan, hscan]
        · simp [onlyIf]
        · exact fun _ => rfl
      exact hsteady.enumerated hcall hscan' hquick hpending rfl
    rcases @enqueueQuickRequests_cases limits analyses s.store scan with
      hmark | ⟨hfull, hnoRoom, hleft⟩ | ⟨rows, last, flag, -, hlast, htaken⟩
    · rw [hmark]
      exact hmarked _ rfl
    · rw [hfull]
      have hroom := hspared.room scan hscan hquick fun request hrequest hstate => by
        obtain ⟨found, hfound, hfits⟩ := h.requests request (mem_requestsOf.mp hrequest).1
        rw [(mem_requestsOf.mp hrequest).2] at hfound
        obtain rfl := Option.some.inj (hscan.symm.trans hfound)
        rcases hfits.open_stage (by rw [hstate]; rfl) with ⟨-, hstage⟩ | ⟨hother, -⟩
        · exact hpending request hrequest hstage hstate
        · rw [hquick] at hother
          cases hother
      have hflag := (hroom.resolve_right fun hor => hor.elim hnoRoom hleft)
      exact h.enumerated hcall hscan hquick hpending hflag
    · rw [htaken]
      have hsteady := @Steady.moveCursor _ scan.analysisId
        (h.insertRequests hcall hscan hquick rows)
        (fun row => { row with
          quickCursor := some (last.snapshotId, last.fileEntryId)
          quickEnumerationComplete := flag || row.quickEnumerationComplete })
        fun row => ⟨some (last.snapshotId, last.fileEntryId), flag, rfl⟩
      have hlength : rows.length ≠ 0 := by
        intro hzero
        rw [List.length_eq_zero_iff.mp hzero] at hlast
        cases hlast
      obtain ⟨count, hcount⟩ := Nat.exists_eq_succ_of_ne_zero hlength
      rw [hcount]
      simp only
      rw [← hcall]
      exact hsteady
  · rw [hclaim]
    exact h.claimed hcall hrequest hrow hstate

theorem Steady.none_open (h : Steady s) (hcall : s.call = .looping cycle)
    (hpending : ∀ request ∈ s.store.requestsOf cycle.analysisId,
      request.requestStage = .fullHash → request.state ≠ .pending) :
    ((s.store.requestsOf cycle.analysisId).any fun request =>
      request.requestStage = .fullHash && request.state.isOpen) = false := by
  refine List.any_eq_false.mpr fun request hrequest => ?_
  simp only [Bool.and_eq_true, decide_eq_true_eq, not_and, Bool.not_eq_true]
  exact h.not_open (looping_not_hashing hcall) hpending request hrequest

theorem Steady.fullHashPass (h : Steady s) (hcall : s.call = .looping cycle)
    (hspared : LoopSpared limits s.store cycle answers) :
    Steady (s.fullHashPass digests cycle answers.context) := by
  unfold Scanner.fullHashPass
  rcases @Scanner.claim_cases digests s cycle .fullHash _ h hspared.context with
    ⟨hclaim, hpending⟩ | ⟨request, hrequest, hrow, -, hstate, hclaim⟩
  · rw [hclaim]
    simp only
    have hclosed := h.not_open (looping_not_hashing hcall) hpending
    unfold ScanStore.advanceToMaterialization
    rw [h.none_open hcall hpending]
    simp only [Bool.false_eq_true, if_false]
    have hrewrites : Rewrites s.store (s.store.updateScan cycle.analysisId
        (fun scan => scan.stage = .fullHash) fun scan =>
          { scan with stage := .materialize }) _ id :=
      rewrites_updateScan fun _ => rfl
    refine h.rewrite hrewrites (fun other hother => ?_)
      (fun request hrequest other hother hfits => ?_) ?_
    · unfold onlyIf
      split
      · rename_i hp
        simp only [Bool.and_eq_true, decide_eq_true_eq] at hp
        have hproper := h.scans other hother
        refine ⟨⟨fun hcompleted => ?_, nofun⟩, hproper.notFailed, hproper.paused⟩
        have hdone := hproper.completed.mp hcompleted
        rw [hp.2] at hdone
        cases hdone
      · exact h.scans other hother
    · refine ⟨?_, fun hrunning => h.running request hrequest hrunning |>.imp fun _ hhashing => by
        rw [hcall] at hhashing
        cases hhashing⟩
      unfold onlyIf
      split
      · rename_i hp
        simp only [Bool.and_eq_true, decide_eq_true_eq] at hp
        have hrow : request.analysisId = cycle.analysisId :=
          (Table.lookup_key hother).symm.trans hp.1
        refine ⟨hfits.admissible, hfits.waiting, nofun, ?_⟩
        rcases hfits.place with hdone | ⟨hquick, -, -, -⟩ | ⟨-, hstage, -⟩
        · exact .inl hdone
        · rw [hp.2] at hquick
          cases hquick
        · refine .inr (.inr ⟨nofun, hstage, fun hopen => ?_⟩)
          have hover := hclosed request (mem_requestsOf.mpr ⟨hrequest, hrow⟩) hstage
          exact absurd (hopen.symm.trans hover) nofun
      · exact hfits
    · rw [hcall]
      refine hrewrites.serves (h.serves hcall) fun found hfound hopen => ?_
      unfold onlyIf
      split
      · exact nofun
      · exact hopen
  · rw [hclaim]
    exact h.claimed hcall hrequest hrow hstate

theorem Steady.settle (h : Steady s) (hcall : s.call = .hashing cycle item)
    {p : HashRequest → Bool} {g : HashRequest → HashRequest}
    (hkey : ∀ request, (g request).key = request.key) (hp : p item = true)
    (hclosed : (g item).state ≠ .running)
    (hfits : ∀ stage, Fits stage item → Fits stage (g item)) :
    Steady {
      store := s.store.updateRunning item.key p g
      call := .looping { cycle with attempted := cycle.attempted + 1 } } := by
  have hbefore := h.call
  rw [hcall] at hbefore
  obtain ⟨hserves, hitem, hrunning, -⟩ := hbefore
  have hrewrites : Rewrites s.store (s.store.updateRunning item.key p g) id _ :=
    rewrites_updateRunning hkey
  refine h.rewrite hrewrites h.scans (fun request hrequest scan hscan hrow => ?_) ?_
  · by_cases hsame : request.key = item.key
    · obtain rfl : request = item := Table.key_injOn h.requestsUnique hrequest hitem hsame
      unfold onlyIf
      rw [if_pos (by simp [hrunning, hp])]
      exact ⟨hfits _ hrow, fun hstill => absurd hstill hclosed⟩
    · unfold onlyIf
      rw [if_neg (by simp [hsame])]
      refine ⟨hrow, fun hother => ?_⟩
      obtain ⟨_, hhashing⟩ := h.running request hrequest hother
      rw [hcall] at hhashing
      cases hhashing
      exact absurd rfl hsame
  · exact hrewrites.serves hserves fun _ _ hopen => hopen

theorem Fits.retried (h : Fits stage item) (hrunning : item.state = .running)
    (errorCode : Option String) : Fits stage { item with
      requestStage := if maxAttemptsPerFile ≤ item.attemptCount then
        (if item.requestStage = .quickSignature then .done else item.requestStage)
        else item.requestStage
      state := if maxAttemptsPerFile ≤ item.attemptCount then .failed else .pending
      lastErrorCode := errorCode } := by
  have hadmissible := h.admissible
  unfold HashRequest.admissible at hadmissible
  simp only [hrunning, Bool.and_eq_true, decide_eq_true_eq, Bool.or_eq_true] at hadmissible
  obtain ⟨⟨hbound, hevidence⟩, hfullHash⟩ := hadmissible
  have hopen := h.open_stage (by rw [hrunning]; rfl)
  by_cases hterminal : maxAttemptsPerFile ≤ item.attemptCount
  · simp only [if_pos hterminal]
    rcases hopen with ⟨hstage, hrequest⟩ | ⟨hstage, hrequest⟩
    · rw [if_pos hrequest]
      refine ⟨?_, nofun, h.kept, .inl ⟨rfl, rfl⟩⟩
      have hnone : item.fullHash.isNone = true := hfullHash.resolve_right fun hfull => by
        rw [hrequest] at hfull
        cases hfull
      unfold HashRequest.admissible
      simp [hbound, hnone]
    · rw [if_neg (by rw [hrequest]; nofun)]
      refine ⟨?_, nofun, h.kept, .inr (.inr ⟨by rw [hstage]; nofun, hrequest, nofun⟩)⟩
      have hquick : item.quick.isSome = true := by
        rcases hevidence with (hfirst | hquick) | ⟨-, hfailed⟩
        · rw [hrequest] at hfirst
          cases hfirst
        · exact hquick
        · cases hfailed
      unfold HashRequest.admissible
      simp [hbound, hquick, hrequest]
  · simp only [if_neg hterminal]
    refine ⟨?_, fun _ => Nat.lt_of_not_le hterminal, h.kept, ?_⟩
    · unfold HashRequest.admissible
      simp only [Bool.and_eq_true, decide_eq_true_eq, Bool.or_eq_true]
      refine ⟨⟨hbound, .inl ?_⟩, hfullHash⟩
      rcases hevidence with hevidence | ⟨-, hfailed⟩
      · exact hevidence
      · cases hfailed
    · rcases hopen with ⟨hstage, hrequest⟩ | ⟨hstage, hrequest⟩
      · exact .inr (.inl ⟨hstage, hrequest, nofun, nofun⟩)
      · exact .inr (.inr ⟨by rw [hstage]; nofun, hrequest, fun _ => hstage⟩)

theorem Steady.hashed (h : Steady s) (hcall : s.call = .hashing cycle item) :
    item ∈ s.store.requests ∧ item.state = .running ∧ item.analysisId = cycle.analysisId := by
  have hbefore := h.call
  rw [hcall] at hbefore
  exact hbefore.2

theorem Steady.retryOrFail (h : Steady s) (hcall : s.call = .hashing cycle item)
    (errorCode : String) : Steady {
      store := s.store.retryOrFailRequest item errorCode
      call := .looping { cycle with attempted := cycle.attempted + 1 } } := by
  have hrunning := (h.hashed hcall).2.1
  refine h.settle hcall ?_ ?_ ?_ fun stage hfits => ?_
  · exact fun _ => rfl
  · rfl
  · simp only [decide_eq_true_eq]
    split
    · nofun
    · nofun
  · simpa only [decide_eq_true_eq] using hfits.retried hrunning (some errorCode)

theorem Steady.afterHashing (h : Steady s) (hcall : s.call = .hashing cycle item)
    (answers : Answers) : Steady (s.afterHashing cycle item answers) := by
  obtain ⟨-, hrunning, -⟩ := h.hashed hcall
  have hadmissible : ∀ stage, Fits stage item → item.attemptCount ≤ attemptCountBound ∧
      (item.requestStage = .quickSignature → item.fullHash = none) := by
    intro stage hfits
    have hchecked := hfits.admissible
    unfold HashRequest.admissible at hchecked
    simp only [Bool.and_eq_true, decide_eq_true_eq, Bool.or_eq_true] at hchecked
    refine ⟨hchecked.1.1, fun hquick => Option.isNone_iff_eq_none.mp ?_⟩
    refine hchecked.2.resolve_right fun hfull => ?_
    rw [hquick] at hfull
    cases hfull
  unfold Scanner.afterHashing
  by_cases hquick : item.requestStage = .quickSignature
  · rw [if_pos hquick]
    unfold processQuickRequest
    split
    · exact h.retryOrFail hcall _
    · rename_i evidence hanswer
      split
      · exact h.retryOrFail hcall _
      · refine h.settle hcall ?_ ?_ ?_ fun stage hfits => ?_
        · exact fun _ => rfl
        · exact decide_eq_true hquick
        · exact nofun
        obtain ⟨hbound, hfull⟩ := hadmissible stage hfits
        refine ⟨by simp [HashRequest.admissible, hbound, hquick, hfull hquick], nofun,
          hfits.kept, ?_⟩
        rcases hfits.open_stage (by rw [hrunning]; rfl) with ⟨hstage, -⟩ | ⟨-, hother⟩
        · exact .inr (.inl ⟨hstage, hquick, nofun, fun _ => rfl⟩)
        · rw [hquick] at hother
          cases hother
  · rw [if_neg hquick]
    unfold processFullHashRequest
    split
    · exact h.retryOrFail hcall _
    · rename_i hevidence
      split
      · exact h.retryOrFail hcall _
      · rename_i fullHash hanswer
        split
        · exact h.retryOrFail hcall _
        · have hstages : ∀ stage, Fits stage item →
              stage = .fullHash ∧ item.requestStage = .fullHash := fun stage hfits =>
            (hfits.open_stage (by rw [hrunning]; rfl)).resolve_left fun hfirst => hquick hfirst.2
          obtain ⟨scan, -, hplaced⟩ := h.requests item (h.hashed hcall).1
          have hfullStage := (hstages _ hplaced).2
          refine h.settle hcall ?_ ?_ ?_ fun stage hfits => ?_
          · exact fun _ => rfl
          · exact decide_eq_true hfullStage
          · exact nofun
          have hsome : item.quick.isSome = true := by
            simpa [Option.isSome_iff_ne_none] using hevidence
          refine ⟨by simp [HashRequest.admissible, (hadmissible stage hfits).1, hsome, hfullStage],
            nofun, hfits.kept, .inr (.inr ⟨?_, hfullStage, nofun⟩)⟩
          rw [(hstages stage hfits).1]
          exact nofun

def advanced (st : ScanStore) (analysisId : String) (request : HashRequest) : HashRequest :=
  onlyIf (signed analysisId) (fun request => { request with requestStage := .done })
    (onlyIf (st.matching analysisId) (fun request =>
      { request with requestStage := .fullHash, state := .pending }) request)

theorem rewrites_advanceToFullHash {st : ScanStore} :
    Rewrites st (st.advanceToFullHash analysisId)
      (onlyIf (fun scan => scan.analysisId = analysisId && decide (scan.stage = .quickSignature))
        fun scan => { scan with stage := .fullHash }) (advanced st analysisId) := by
  refine ⟨rfl, ?_, onlyIf_key _ fun _ => rfl, fun request => ?_⟩
  · show Table.updateWhere (Table.updateWhere st.requests _ _) _ _ = _
    unfold Table.updateWhere
    rw [List.map_map]
    rfl
  · unfold advanced
    rw [onlyIf_key HashRequest.key, onlyIf_key HashRequest.key]
    · exact fun _ => rfl
    · exact fun _ => rfl

theorem matching_signed (h : st.matching analysisId request = true) :
    signed analysisId request = true := by
  unfold ScanStore.matching at h
  exact (Bool.and_eq_true_iff.mp h).1

theorem advanced_other (h : signed analysisId request = false) :
    advanced st analysisId request = request := by
  have hnot : st.matching analysisId request = false :=
    Bool.eq_false_iff.mpr fun hmatching => by
      rw [matching_signed hmatching] at h
      cases h
  unfold advanced onlyIf
  simp only [hnot, Bool.false_eq_true, if_false, h]

theorem advanced_signed (h : signed analysisId request = true) : advanced st analysisId request =
      if st.matching analysisId request then
        { request with requestStage := .fullHash, state := .pending }
      else { request with requestStage := .done } := by
  unfold advanced onlyIf
  by_cases hmatching : st.matching analysisId request = true
  · simp [hmatching, signed]
  · simp [hmatching, h]

theorem Fits.advanced (h : Fits .quickSignature request)
    (hclosed : request.requestStage = .quickSignature → request.state.isOpen = false)
    (hid : request.analysisId = analysisId)
    (hspare : st.matching analysisId request = true → request.attemptCount < maxAttemptsPerFile) :
    Fits .fullHash (advanced st analysisId request) := by
  rcases h.place with ⟨hdone, hover⟩ | ⟨-, hquick, hnotFailed, hevidence⟩ | ⟨hstage, -, -⟩
  · rw [advanced_other (by simp [signed, hdone])]
    exact ⟨h.admissible, h.waiting, nofun, .inl ⟨hdone, hover⟩⟩
  · have hsucceeded : request.state = .succeeded := by
      have hover := hclosed hquick
      cases hstate : request.state with
      | pending => rw [hstate] at hover; cases hover
      | running => rw [hstate] at hover; cases hover
      | succeeded => rfl
      | failed => exact absurd hstate hnotFailed
    have hsigned : signed analysisId request = true := by simp [signed, hid, hquick, hsucceeded]
    have hchecked := h.admissible
    unfold HashRequest.admissible at hchecked
    simp only [Bool.and_eq_true, decide_eq_true_eq, Bool.or_eq_true, hquick, reduceCtorEq,
      or_false] at hchecked
    rw [advanced_signed hsigned]
    split
    · rename_i hmatching
      refine ⟨?_, fun _ => hspare hmatching, nofun, .inr (.inr ⟨nofun, rfl, fun _ => rfl⟩)⟩
      simp [HashRequest.admissible, hchecked.1.1, hevidence hsucceeded]
    · refine ⟨?_, ?_, nofun, .inl ⟨rfl, ?_⟩⟩
      · simp [HashRequest.admissible, hchecked.1.1, hevidence hsucceeded, hchecked.2]
      · show request.state = .pending → _
        rw [hsucceeded]
        exact nofun
      · show request.state.isOpen = false
        rw [hsucceeded]
        rfl
  · exact absurd rfl hstage

theorem Steady.afterEnumeration (h : Steady s) (hcall : s.call = .enumerated cycle)
    (hspare : ∀ request ∈ s.store.requests,
      s.store.matching cycle.analysisId request = true →
        request.attemptCount < maxAttemptsPerFile) :
    Steady (s.afterEnumeration cycle) := by
  have hbefore := h.call
  rw [hcall] at hbefore
  obtain ⟨hserves, hcomplete, hquick⟩ := hbefore
  unfold Scanner.afterEnumeration
  rw [if_pos hcomplete]
  have hrewrites := @rewrites_advanceToFullHash cycle.analysisId s.store
  refine h.rewrite hrewrites (fun scan hscan => ?_) (fun request hrequest scan hscan hfits => ?_) ?_
  · unfold onlyIf
    split
    · rename_i hp
      simp only [Bool.and_eq_true, decide_eq_true_eq] at hp
      have hproper := h.scans scan hscan
      refine ⟨⟨fun hcompleted => ?_, nofun⟩, hproper.notFailed, hproper.paused⟩
      have hdone := hproper.completed.mp hcompleted
      rw [hp.2] at hdone
      cases hdone
    · exact h.scans scan hscan
  · have hkey : scan.analysisId = request.analysisId := Table.lookup_key hscan
    have hnotRunning : request.state ≠ .running := fun hrunning => by
      obtain ⟨_, hhashing⟩ := h.running request hrequest hrunning
      rw [hcall] at hhashing
      cases hhashing
    by_cases hid : request.analysisId = cycle.analysisId
    · have hstage := hquick scan (hid ▸ hscan)
      have hclosed : request.requestStage = .quickSignature → request.state.isOpen = false := by
        intro hrequestStage
        unfold ScanStore.quickStageComplete at hcomplete
        rw [← hid, hscan, Option.any_some, Bool.and_eq_true, List.all_eq_true] at hcomplete
        have hover := hcomplete.2 request (mem_requestsOf.mpr ⟨hrequest, rfl⟩)
        simpa [hrequestStage] using hover
      have hfits' : Fits .fullHash (advanced s.store cycle.analysisId request) :=
        (hstage ▸ hfits).advanced hclosed hid (hspare request hrequest)
      refine ⟨?_, fun hrunning => ?_⟩
      · unfold onlyIf
        rw [if_pos (by simp [hkey, hid, hstage])]
        exact hfits'
      · by_cases hsigned : signed cycle.analysisId request = true
        · rw [advanced_signed hsigned] at hrunning
          split at hrunning
          · cases hrunning
          · exact absurd hrunning hnotRunning
        · rw [advanced_other (Bool.eq_false_iff.mpr hsigned)] at hrunning
          exact absurd hrunning hnotRunning
    · have hother : signed cycle.analysisId request = false := by simp [signed, hid]
      rw [advanced_other hother]
      refine ⟨?_, fun hrunning => absurd hrunning hnotRunning⟩
      unfold onlyIf
      rw [if_neg (by simp [hkey, hid])]
      exact hfits
  · refine hrewrites.serves hserves fun scan _ hopen => ?_
    unfold onlyIf
    split
    · exact nofun
    · exact hopen

theorem Steady.materializeAndComplete (h : Steady s) (hcall : s.call = .looping cycle)
    (completedUtc : String) : Steady {
      store := s.store.materializeAndComplete cycle.analysisId completedUtc
      call := .idle } := by
  unfold ScanStore.materializeAndComplete
  simp only
  set reason := some (if (s.store.requestsOf cycle.analysisId).any (fun request =>
    request.state = .failed) then "COMPLETED_WITH_ISSUES" else "DUPLICATE_SCAN_COMPLETED")
  have hidle : Steady { s with call := .idle } := h.recall (looping_not_hashing hcall) trivial
  -- the rows of the scan go first, and then no row is left that its completion could strand
  have hkept : Steady {
      store := { s.store with requests :=
        s.store.requests.filter (·.analysisId ≠ cycle.analysisId) }
      call := .idle } := by
    refine ⟨hidle.scansUnique, hidle.requestsUnique.filter, hidle.scans, fun request hrequest => ?_,
      fun request hrequest => ?_, trivial⟩
    · exact hidle.requests request (List.mem_filter.mp hrequest).1
    · exact hidle.running request (List.mem_filter.mp hrequest).1
  refine hkept.rewrite (rewrites_updateScan fun _ => rfl) (fun scan hscan => ?_)
    (fun request hrequest scan hscan hfits => ⟨?_, hkept.running request hrequest⟩) trivial
  · unfold onlyIf
    split
    · exact ⟨⟨fun _ => rfl, fun _ => rfl⟩, nofun, nofun⟩
    · exact h.scans scan hscan
  · have hid : scan.analysisId ≠ cycle.analysisId := by
      rw [Table.lookup_key hscan]
      exact of_decide_eq_true (List.mem_filter.mp hrequest).2
    unfold onlyIf
    rw [if_neg (by simp [hid])]
    exact hfits

theorem Steady.loopHead (h : Steady s) (hcall : s.call = .looping cycle)
    (hspared : cycle.attempted < cycle.limit → LoopSpared limits s.store cycle answers) :
    Steady (s.loopHead limits digests analyses cycle answers.context) := by
  have hidle : Steady { s with call := .idle } := h.recall (looping_not_hashing hcall) trivial
  unfold Scanner.loopHead
  split
  · exact hidle
  · rename_i hlimit
    have hspared' := hspared (Nat.lt_of_not_le hlimit)
    split
    · exact hidle
    · rename_i scan hscan
      split
      · rename_i hstage
        exact h.quickPass hcall hscan hstage hspared'
      · exact h.fullHashPass hcall hspared'
      · exact h.materializeAndComplete hcall _
      · exact hidle

theorem Steady.pass (h : Steady s) (hspared : Spared limits s (.pass answers))
    (hstep : s.pass limits digests analyses answers = some s') : Steady s' := by
  unfold Scanner.pass at hstep
  split at hstep
  · cases hstep
  · rename_i cycle hcall
    obtain rfl := Option.some.inj hstep
    exact h.loopHead hcall (hspared.1 cycle hcall)
  · rename_i cycle hcall
    obtain rfl := Option.some.inj hstep
    exact h.afterEnumeration hcall (hspared.2 cycle hcall)
  · rename_i cycle item hcall
    obtain rfl := Option.some.inj hstep
    exact h.afterHashing hcall answers

theorem Steady.restart (h : Steady s) (hspare : ∀ request ∈ s.store.requests,
    request.state = .running → request.attemptCount < maxAttemptsPerFile) :
    Steady { store := s.store.recoverInterruptedRequests, call := .idle } := by
  refine h.rewrite rewrites_recover h.scans (fun request hrequest scan hscan hfits => ?_) trivial
  unfold onlyIf
  split
  · rename_i hrunning
    have hrunning := of_decide_eq_true hrunning
    refine ⟨⟨?_, fun _ => hspare request hrequest hrunning, hfits.kept, ?_⟩, nofun⟩
    · have hchecked := hfits.admissible
      unfold HashRequest.admissible at hchecked ⊢
      simpa [hrunning] using hchecked
    · rcases hfits.open_stage (by rw [hrunning]; rfl) with ⟨hstage, hrequest⟩ | ⟨hstage, hrequest⟩
      · exact .inr (.inl ⟨hstage, hrequest, nofun, nofun⟩)
      · have hlater : scan.stage ≠ .quickSignature := by
          rw [hstage]
          exact nofun
        exact .inr (.inr ⟨hlater, hrequest, fun _ => hstage⟩)
  · rename_i hnot
    exact ⟨hfits, fun hrunning => absurd (decide_eq_true hrunning) hnot⟩

end

section
variable {limits : ScannerLimits} {digests : ScanDigests} {analyses : String → List FileEntry}
  {s s' : Scanner} {l : ScanStep}

theorem Steady.step (h : Steady s) (hspared : Spared limits s l)
    (hstep : (scanner limits digests analyses).step s l = some s') : Steady s' := by
  change s.step limits digests analyses l = some s' at hstep
  cases l with
  | startScan analysisId requestedUtc ready =>
    unfold Scanner.step at hstep
    simp only at hstep
    split at hstep
    · obtain rfl := Option.some.inj hstep
      exact h
    · rename_i hstart
      obtain rfl := Option.some.inj hstep
      exact h.startScan hstart
  | pauseScan analysisId =>
    obtain rfl := Option.some.inj hstep
    exact h.pauseScan
  | resumeScan analysisId =>
    obtain rfl := Option.some.inj hstep
    exact h.resumeScan
  | runCycle observedUtc activeBackup maxFiles => exact h.runCycle hstep
  | pass answers => exact h.pass hspared hstep
  | restart =>
    obtain rfl := Option.some.inj hstep
    exact h.restart hspared

theorem Steady.empty : Steady {} :=
  ⟨List.Pairwise.nil, List.Pairwise.nil, nofun, nofun, nofun, trivial⟩

theorem Steady.reachable
    (h : (scanner limits digests analyses).ReachableWhen (Spared limits) s) : Steady s := by
  induction h with
  | init hinit =>
    obtain rfl := hinit
    exact Steady.empty
  | step _ hspared hstep ih => exact ih.step hspared hstep

end

end MediaSync.Duplicates
