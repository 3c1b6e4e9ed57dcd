import MediaSync.Duplicates.ScanStore
import MediaSync.Foundation.Ranking

/-! The maintenance thread calls `run_cycle`, whose loop looks at the scan's stage, claims a
request, hashes its file and settles it, up to a limit of files. -/
namespace MediaSync.Duplicates
open Transition

/-- What a call of `run_cycle` carries through its loop. -/
structure Cycle where
  analysisId : String
  observedUtc : String
  attempted : Nat := 0
  limit : Nat
  deriving DecidableEq

inductive Call where
  | idle
  | looping (cycle : Cycle)
  | enumerated (cycle : Cycle)
  | hashing (cycle : Cycle) (item : HashRequest)
  deriving DecidableEq

structure Answers where
  context : Except String Unit
  quick : Except String QuickEvidence
  full : Except String String

structure Scanner where
  store : ScanStore := {}
  call : Call := .idle

/-- A step: a command on scans, a call of `run_cycle`, a pass of its loop, or the end of the
process and the recovery of the next one. -/
inductive ScanStep where
  | startScan (analysisId requestedUtc : String) (ready : Except String Unit)
  | pauseScan (analysisId : String)
  | resumeScan (analysisId : String)
  | runCycle (observedUtc : String) (activeBackup : Bool) (maxFiles : Option Nat)
  | pass (answers : Answers)
  | restart

namespace Scanner

variable (limits : ScannerLimits) (digests : ScanDigests) (analyses : String → List FileEntry)
  (s : Scanner)

def runCycle (observedUtc : String) (activeBackup : Bool) (maxFiles : Option Nat) :
    Option Scanner :=
  let limit := maxFiles.getD limits.workBatchSize
  if s.call ≠ .idle ∨ limit < 1 ∨ limits.workBatchSize < limit then none
  else
    match s.store.loadNextCycleScan digests with
    | (store, none) => some { s with store }
    | (store, some scan) =>
      if activeBackup then some { s with store := store.pauseForActiveBackup scan.analysisId }
      else some { store, call := .looping { analysisId := scan.analysisId, observedUtc, limit } }

def claim (cycle : Cycle) (requestStage : RequestStage) (context : Except String Unit) :
    Option Scanner :=
  match s.store.claimNextRequest digests cycle.analysisId requestStage with
  | .error _ => some { s with call := .idle }
  | .ok (_, none) => none
  | .ok (store, some item) =>
    match context with
    | .error _ => some { store, call := .idle }
    | .ok () => some { store, call := .hashing cycle item }

def quickPass (cycle : Cycle) (scan : DuplicateScan) (context : Except String Unit) : Scanner :=
  match s.claim digests cycle .quickSignature context with
  | some claimed => claimed
  | none =>
    match s.store.enqueueQuickRequests limits analyses scan with
    | (store, 0) => { store, call := .enumerated cycle }
    | (store, _ + 1) => { store, call := .looping cycle }

def fullHashPass (cycle : Cycle) (context : Except String Unit) : Scanner :=
  match s.claim digests cycle .fullHash context with
  | some claimed => claimed
  | none => { s with store := s.store.advanceToMaterialization cycle.analysisId }

def loopHead (cycle : Cycle) (context : Except String Unit) : Scanner :=
  if cycle.limit ≤ cycle.attempted then { s with call := .idle }
  else
    match s.store.loadDuplicateScan cycle.analysisId with
    | none => { s with call := .idle }
    | some scan =>
      match scan.stage with
      | .quickSignature => s.quickPass limits digests analyses cycle scan context
      | .fullHash => s.fullHashPass digests cycle context
      | .materialize => {
          store := s.store.materializeAndComplete cycle.analysisId cycle.observedUtc
          call := .idle }
      | .done => { s with call := .idle }

def afterEnumeration (cycle : Cycle) : Scanner :=
  if s.store.quickStageComplete cycle.analysisId then {
    store := s.store.advanceToFullHash cycle.analysisId
    call := .looping cycle }
  else { s with call := .idle }

def afterHashing (cycle : Cycle) (item : HashRequest) (answers : Answers) : Scanner where
  store :=
    if item.requestStage = .quickSignature then s.store.processQuickRequest item answers.quick
    else s.store.processFullHashRequest item answers.full
  call := .looping { cycle with attempted := cycle.attempted + 1 }

def pass (answers : Answers) : Option Scanner :=
  match s.call with
  | .idle => none
  | .looping cycle => some (s.loopHead limits digests analyses cycle answers.context)
  | .enumerated cycle => some (s.afterEnumeration cycle)
  | .hashing cycle item => some (s.afterHashing cycle item answers)

def step : ScanStep → Option Scanner
  | .startScan analysisId requestedUtc ready =>
    match s.store.startScan limits digests analyses analysisId requestedUtc ready with
    | .error _ => some s
    | .ok store => some { s with store }
  | .pauseScan analysisId => some { s with store := s.store.pauseScan analysisId }
  | .resumeScan analysisId => some { s with store := s.store.resumeScan analysisId }
  | .runCycle observedUtc activeBackup maxFiles =>
    s.runCycle limits digests observedUtc activeBackup maxFiles
  | .pass answers => s.pass limits digests analyses answers
  | .restart => some { store := s.store.recoverInterruptedRequests, call := .idle }

end Scanner

def scanner (limits : ScannerLimits) (digests : ScanDigests)
    (analyses : String → List FileEntry) : System Scanner ScanStep where
  init s := s = {}
  step s l := s.step limits digests analyses l

end MediaSync.Duplicates
