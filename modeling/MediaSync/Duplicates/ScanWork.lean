import Mathlib.Algebra.Order.BigOperators.Group.List
import Mathlib.Algebra.Order.Group.Nat
import Mathlib.Algebra.Ring.Int.Defs
import Mathlib.Algebra.GroupWithZero.Nat
import Mathlib.Data.List.Pairwise
import Mathlib.Data.Prod.Lex
import MediaSync.Duplicates.ScanSound

/-! Each scan has its stages and the candidates after its cursor to go through, each request its
attempts and its stages. -/
namespace MediaSync.Duplicates
open Transition ScanStore

/-- What is left to do for a request: its attempts, and the rest of its stages. -/
def HashRequest.work (request : HashRequest) : Nat :=
  8 * (maxAttemptsPerFile - request.attemptCount) +
    match request.requestStage, request.state with
    | .quickSignature, .running => 6
    | .quickSignature, .pending => 5
    | .quickSignature, _ => 4
    | .fullHash, .running => 3
    | .fullHash, .pending => 2
    | _, _ => 0

def ScanStage.work : ScanStage → Nat
  | .quickSignature => 3
  | .fullHash => 2
  | .materialize => 1
  | .done => 0

def candidateWork : Nat := 30

section
variable (analyses : String → List FileEntry) (p : String → Bool)

/-- The stages of a scan and the candidates after its cursor. -/
def scanWork (scan : DuplicateScan) : Nat :=
  scan.stage.work + candidateWork * (remainingCandidates analyses scan).length

def scansWork (scans : List DuplicateScan) : Nat :=
  (scans.map fun scan => if p scan.analysisId then scanWork analyses scan else 0).sum

def requestsWork (requests : List HashRequest) : Nat :=
  (requests.map fun request => if p request.analysisId then request.work else 0).sum

/-- The work that the scans and the requests with `p` have left. -/
def ScanStore.work (st : ScanStore) : Nat :=
  scansWork analyses p st.scans + requestsWork p st.requests

/-- How far a call is from the next change of the store. -/
def Call.place : Call → Nat
  | .idle => 3
  | .looping cycle => if cycle.attempted = 0 then 2 else 4
  | .enumerated _ => 1
  | .hashing _ _ => 4

/-- What every step of a spared scanner lowers. -/
def Scanner.rank (s : Scanner) : Nat := 6 * s.store.work analyses p + s.call.place

end

section
variable {analyses : String → List FileEntry} {p : String → Bool} {st st' : ScanStore}
  {f : DuplicateScan → DuplicateScan} {g : HashRequest → HashRequest}

variable {scan : DuplicateScan}

end

section
variable {analyses : String → List FileEntry} {p : String → Bool} {st : ScanStore}

instance : Std.Refl entryOrder := ⟨fun _ => .inr ⟨rfl, String.le_refl _⟩⟩

instance : Std.Total entryOrder where
  total a b := by
    by_cases hlt : a.snapshotId < b.snapshotId
    · exact .inl (.inl hlt)
    · by_cases hgt : b.snapshotId < a.snapshotId
      · exact .inr (.inl hgt)
      · have heq : a.snapshotId = b.snapshotId :=
          String.le_antisymm (String.not_lt.mp hgt) (String.not_lt.mp hlt)
        rcases String.le_total a.fileEntryId b.fileEntryId with hle | hle
        · exact .inl (.inr ⟨heq, hle⟩)
        · exact .inr (.inr ⟨heq.symm, hle⟩)

instance : IsTrans FileEntry entryOrder where
  trans a b c hab hbc := by
    rcases hab with hab | ⟨hab, hle⟩
    · rcases hbc with hbc | ⟨hbc, -⟩
      · exact .inl (String.lt_trans hab hbc)
      · exact .inl (hbc ▸ hab)
    · rcases hbc with hbc | ⟨hbc, hle'⟩
      · exact .inl (hab ▸ hbc)
      · exact .inr ⟨hab.trans hbc, String.le_trans hle hle'⟩

variable {entry last : FileEntry}

end

section
variable {limits : ScannerLimits} {digests : ScanDigests} {analyses : String → List FileEntry}
  {p : String → Bool} {s s' : Scanner} {cycle : Cycle} {item : HashRequest}

variable {stage : ScanStage} {request : HashRequest}

variable {scan : DuplicateScan}

variable {st : ScanStore}

variable {answers : Answers}

end

end MediaSync.Duplicates
