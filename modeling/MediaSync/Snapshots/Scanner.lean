import Mathlib.Algebra.GroupWithZero.Nat
import Mathlib.Algebra.Ring.Int.Defs
import Mathlib.Data.Prod.Lex
import Mathlib.Data.String.Basic
import MediaSync.Foundation.Json
import MediaSync.Foundation.Sha256
import MediaSync.Snapshots.Filters
import MediaSync.Snapshots.Paths
import MediaSync.Snapshots.Records

/-! The walk over an endpoint, directory by directory from a queue, and the empty-directory rules
that are applied after it. -/
namespace MediaSync.Snapshots

inductive NamedStreamState where
  | none
  | present
  | unconfirmed
  deriving DecidableEq

structure NamedStreamInspection where
  state : NamedStreamState
  errorCode : Option String := Option.none

inductive NamedStreamPolicy where
  | blockIfPresentOrUnconfirmed
  | preserveWhenPortableBlockIfUnconfirmed
  deriving DecidableEq

/-- The answer of the reparse probe about a directory; `present` is its field `exists`. -/
structure ReparseInspection where
  present : Bool
  isReparsePoint : Bool
  identity : Option String := none
  finalPath : Option String := none

structure DirectorySignature where
  device : Int
  inode : Int
  modifiedNs : Int
  size : Int
  deriving DecidableEq

structure DirectoryCaseContext where
  caseMode : String
  evidence : String
  errorCode : Option String := none

inductive FileMode where
  | directory
  | regular
  | other
  deriving DecidableEq

/-- What `os.stat` and the probes tell about a child. -/
structure ChildStat where
  mode : FileMode
  isSymlink : Bool := false
  fileAttributes : Nat := 0
  sizeBytes : Int := 0
  modifiedNs : Int := 0
  birthtimeNs : Option Int := none
  identityHash : String := ""
  namedStreams : NamedStreamInspection := ⟨.none, none⟩

/-- A child of a directory: its type and its metadata, `none` where reading them failed. -/
structure ChildObservation where
  name : EntryName
  objectType : Option ObjectType
  stat : Option ChildStat

/-- The children `os.scandir` yields, each name once. -/
structure DirectoryListing where
  children : List ChildObservation
  names_unique : (children.map fun child => child.name.text).Nodup

structure DirectoryObservation where
  before : Option ReparseInspection
  namedStreams : NamedStreamInspection := ⟨.none, none⟩
  caseContext : DirectoryCaseContext
  signatureBefore : Option DirectorySignature
  listing : Option DirectoryListing
  signatureAfter : Option DirectorySignature
  after : Option ReparseInspection

abbrev Observations := String → Nat → DirectoryObservation

def controlDirectoryName : String := ".mediasync"

/-- `_issue`: every issue the scanner raises on its own blocks destructive actions. -/
def scanIssue (relativePath issueType errorCode : String)
    (sanitizedMessage : String := "The endpoint could not be completely and safely enumerated.") :
    SnapshotIssue :=
  { relativePath := relativePath
    issueType := issueType
    blocksDestructiveActions := true
    errorCode := some errorCode
    sanitizedMessage := some sanitizedMessage }

def caseContextHash (relativePath caseMode evidence : String) : String :=
  Sha256.hexdigest (Json.dump (.obj [("case_mode", .str caseMode), ("evidence", .str evidence),
    ("relative_path", .str relativePath)]))

structure QueuedDirectory where
  relativePath : String
  comparisonKey : String
  rescanAttempt : Nat := 0
  deriving DecidableEq

def QueuedDirectory.coverage (queued : QueuedDirectory) (context : DirectoryCaseContext)
    (coverageState : String) : SnapshotDirectoryCoverage :=
  { relativePath := queued.relativePath
    comparisonKey := queued.comparisonKey
    coverageState := coverageState
    caseMode := context.caseMode
    caseModeEvidence := context.evidence
    caseContextHash := caseContextHash queued.relativePath context.caseMode context.evidence
    caseProbeError := context.errorCode }

def QueuedDirectory.blockedCoverage (queued : QueuedDirectory) (coverageState errorCode : String) :
    SnapshotDirectoryCoverage :=
  queued.coverage ⟨"UNKNOWN", "QUEUED_DIRECTORY_REVALIDATION_V1", some errorCode⟩ coverageState

/-- The coverage of `_append_limit_block`. -/
def QueuedDirectory.limitCoverage (queued : QueuedDirectory) (reasonCode : String) :
    SnapshotDirectoryCoverage :=
  queued.coverage ⟨"UNKNOWN", "BOUNDED_LOCAL_SNAPSHOT_SCANNER_V1", some reasonCode⟩ "CANCELLED"

def namedStreamIssue (policy : NamedStreamPolicy) (relativePath : String) (objectType : ObjectType)
    (inspection : NamedStreamInspection) : SnapshotIssue :=
  if inspection.state = .present then
    match policy with
    | .blockIfPresentOrUnconfirmed =>
      scanIssue relativePath "NAMED_STREAM_PRESENT" "SNAPSHOT_NAMED_STREAM_PRESENT"
        "The item contains a Windows named stream, and full-object copying is not enabled."
    | .preserveWhenPortableBlockIfUnconfirmed =>
      if objectType = .directory then
        scanIssue relativePath "DIRECTORY_NAMED_STREAM_PRESENT"
          "SNAPSHOT_DIRECTORY_NAMED_STREAM_PRESENT"
          "The directory contains a Windows named stream that cannot yet be preserved."
      else
        { relativePath := relativePath
          issueType := "NAMED_STREAM_PRESENT"
          blocksDestructiveActions := false
          errorCode := some "SNAPSHOT_NAMED_STREAM_PRESENT"
          sanitizedMessage := some
            "The item contains Windows named streams that must be preserved and verified on every target." }
  else
    scanIssue relativePath "NAMED_STREAM_ENUMERATION_UNCONFIRMED"
      (inspection.errorCode.getD "SNAPSHOT_NAMED_STREAM_ENUMERATION_UNCONFIRMED")
      "The item could not be checked completely for Windows named streams."

structure Attempt where
  entries : List SnapshotFileEntry := []
  coverage : List SnapshotDirectoryCoverage := []
  issues : List SnapshotIssue := []
  filterDecisions : List SnapshotFilterDecision := []
  subjects : List FileFilterSubject := []
  queued : List QueuedDirectory := []
  reportedErrors : List (Option String × String)
  examinedEntries : Nat
  controlAreaExcluded : Bool
  filterIncomplete : Bool := false
  limitHit : Bool := false
  /-- The directory changed while it was scanned. -/
  changed : Bool := false

namespace Attempt

variable (attempt : Attempt)

def withEntry (entry : SnapshotFileEntry) : Attempt :=
  { attempt with entries := attempt.entries ++ [entry] }

def withCoverage (item : SnapshotDirectoryCoverage) : Attempt :=
  { attempt with coverage := attempt.coverage ++ [item] }

def withIssue (issue : SnapshotIssue) : Attempt :=
  { attempt with issues := attempt.issues ++ [issue] }

def limitBlock (directory : QueuedDirectory) (reasonCode : String) : Attempt :=
  { (attempt.withCoverage (directory.limitCoverage reasonCode)).withIssue
      (scanIssue directory.relativePath "SCAN_LIMIT_EXCEEDED" reasonCode) with limitHit := true }

def withNamedStreams (policy : NamedStreamPolicy) (relativePath : String) (objectType : ObjectType)
    (inspection : NamedStreamInspection) : Attempt :=
  if inspection.state = .none then attempt
  else attempt.withIssue (namedStreamIssue policy relativePath objectType inspection)

end Attempt

/-- `_append_filter_decision`: what is recorded of a decision. -/
def filterDecisionRecord (relativePath objectType evaluationStage : String)
    (decision : FileFilterDecision) : List SnapshotFilterDecision :=
  if decision.matchedRuleId.isNone && decision.included && decision.errorCode.isNone then []
  else
    [{ relativePath := relativePath
       objectType := objectType
       decisionState :=
         if decision.errorCode.isSome then "ERROR"
         else if decision.included then "INCLUDED" else "EXCLUDED"
       reasonCode := decision.reasonCode
       matchedRuleId := decision.matchedRuleId
       evaluationStage := evaluationStage }]

/-- `_append_filter_error`: the issue of a failed evaluation, once for each rule and code. -/
def filterErrorIssue (reported : List (Option String × String)) (relativePath : String)
    (decision : FileFilterDecision) : List (Option String × String) × List SnapshotIssue :=
  match decision.errorCode with
  | none => (reported, [])
  | some code =>
    if reported.contains (decision.matchedRuleId, code) then (reported, [])
    else
      (reported ++ [(decision.matchedRuleId, code)],
        [scanIssue relativePath "FILTER_EVALUATION_INCOMPLETE" code
          "A file-selection rule exceeded its bounded evaluation policy."])

namespace Attempt

variable (attempt : Attempt)

def withDecision (relativePath : String) (objectType : ObjectType) (evaluationStage : String)
    (decision : FileFilterDecision) : Attempt :=
  { attempt with
    filterDecisions := attempt.filterDecisions ++
      filterDecisionRecord relativePath objectType.text evaluationStage decision }

def withFilterError (relativePath : String) (decision : FileFilterDecision) : Attempt :=
  let reported := filterErrorIssue attempt.reportedErrors relativePath decision
  { attempt with
    reportedErrors := reported.1
    issues := attempt.issues ++ reported.2
    filterIncomplete := true }

end Attempt

structure SnapshotScanner where
  snapshotId : String
  excludeControlArea : Bool
  policy : FileFilterPolicy
  host : FilterHost
  namedStreamPolicy : NamedStreamPolicy
  maxEntries : Nat
  maxDirectories : Nat
  maxVolatileRescans : Nat

namespace SnapshotScanner

variable (scanner : SnapshotScanner)

def entry (relativePath comparisonKey objectType : String) (sizeBytes birthtimeNs : Option Int)
    (identityFingerprintHash : Option String) : SnapshotFileEntry :=
  let digest := Sha256.hexdigest (scanner.snapshotId ++ "\x00" ++ relativePath)
  { entryId := "entry:" ++ String.ofList (digest.toList.take 32)
    relativePath := relativePath
    comparisonKey := comparisonKey
    objectType := objectType
    sizeBytes := sizeBytes
    birthtimeNs := birthtimeNs
    identityFingerprintHash := identityFingerprintHash }

def childComparisonKey (parent name caseMode : String) : String :=
  childRelativePath parent
    (if caseMode != "CASE_INSENSITIVE" then name else scanner.host.casefold name)

def statObjectType (stat : ChildStat) : ObjectType :=
  if stat.isSymlink || stat.fileAttributes.testBit 10 then .reparse
  else
    match stat.mode with
    | .directory => .directory
    | .regular => .file
    | .other => .other

def birthtime (stat : ChildStat) : Option Int :=
  if statObjectType stat = .file || statObjectType stat = .directory then stat.birthtimeNs else none

def childSubject (relativePath : String) (stat : ChildStat) : FileFilterSubject :=
  let isFile := statObjectType stat = .file
  { relativePath := relativePath
    objectType := statObjectType stat
    sizeBytes := if isFile then some stat.sizeBytes else none
    modifiedNs := if isFile then some stat.modifiedNs else none
    createdNs := if isFile then birthtime stat else none
    fileAttributes := stat.fileAttributes }

def evaluateBeforeMetadata (queued : QueuedDirectory) (relativePath : String)
    (objectType : ObjectType) (attempt : Attempt) : Except String (Attempt × Bool) :=
  if !scanner.policy.canEvaluateBeforeMetadata then .ok (attempt, true)
  else do
    let subject ← FileFilterSubject.validated
      { relativePath := relativePath, objectType := objectType }
    let decision := scanner.policy.evaluate scanner.host (.walk queued.rescanAttempt) subject
    let attempt := attempt.withDecision relativePath objectType "PRE_METADATA" decision
    if decision.errorCode.isSome then .ok (attempt.withFilterError relativePath decision, false)
    else .ok (attempt, decision.included)

def evaluateMetadata (queued : QueuedDirectory) (subject : FileFilterSubject) (attempt : Attempt) :
    Attempt × Bool :=
  if scanner.policy.canEvaluateBeforeMetadata then (attempt, true)
  else
    let decision := scanner.policy.evaluate scanner.host (.walk queued.rescanAttempt) subject
    let postponed :=
      subject.objectType = .directory && scanner.policy.hasEmptyDirectoryRules
    let attempt :=
      if postponed then attempt
      else attempt.withDecision subject.relativePath subject.objectType "METADATA" decision
    if decision.errorCode.isSome then (attempt.withFilterError subject.relativePath decision, false)
    else (attempt, decision.included || postponed)

def recordChild (comparisonKey : String) (subject : FileFilterSubject) (stat : ChildStat)
    (attempt : Attempt) : Attempt :=
  let relativePath := subject.relativePath
  match subject.objectType with
  | .reparse =>
    let attempt :=
      (attempt.withEntry
        (scanner.entry relativePath comparisonKey "reparse" none none none)).withIssue
        (scanIssue relativePath "REPARSE_POINT_NOT_TRAVERSED" "SNAPSHOT_REPARSE_POINT_BLOCKED")
    if stat.mode = .directory then
      attempt.withCoverage
        { relativePath := relativePath
          comparisonKey := comparisonKey
          coverageState := "REPARSE_BLOCKED"
          caseMode := "UNKNOWN"
          caseModeEvidence := "REPARSE_POINT_NOT_TRAVERSED_V1"
          caseContextHash :=
            caseContextHash relativePath "UNKNOWN" "REPARSE_POINT_NOT_TRAVERSED_V1"
          caseProbeError := some "SNAPSHOT_REPARSE_POINT_BLOCKED" }
    else attempt
  | objectType =>
    let attempt :=
      if (birthtime stat).isNone then
        attempt.withIssue
          (scanIssue relativePath "BIRTHTIME_UNAVAILABLE" "SNAPSHOT_BIRTHTIME_UNAVAILABLE")
      else attempt
    match objectType with
    | .directory =>
      let attempt := attempt.withEntry
        (scanner.entry relativePath comparisonKey "directory" none (birthtime stat) none)
      { attempt with
        subjects := attempt.subjects ++ [subject]
        queued := attempt.queued ++ [⟨relativePath, comparisonKey, 0⟩] }
    | .file =>
      (attempt.withNamedStreams scanner.namedStreamPolicy relativePath .file
        stat.namedStreams).withEntry
        (scanner.entry relativePath comparisonKey "file" (some stat.sizeBytes) (birthtime stat)
          (some stat.identityHash))
    | _ =>
      (attempt.withEntry
        (scanner.entry relativePath comparisonKey "other" none none none)).withIssue
        (scanIssue relativePath "UNSUPPORTED_OBJECT_TYPE" "SNAPSHOT_OBJECT_TYPE_UNSUPPORTED")

def examineChild (queued : QueuedDirectory) (context : DirectoryCaseContext)
    (child : ChildObservation) (objectType : ObjectType) (attempt : Attempt) :
    Except String Attempt := do
  let relativePath := childRelativePath queued.relativePath child.name.text
  let (attempt, proceed) ←
    scanner.evaluateBeforeMetadata queued relativePath objectType attempt
  if !proceed then .ok attempt
  else
    match child.stat with
    | none =>
      .ok (attempt.withIssue
        (scanIssue relativePath "ENTRY_UNREADABLE" "SNAPSHOT_ENTRY_STAT_FAILED"))
    | some stat =>
      let subject ← (childSubject relativePath stat).validated
      let evaluated := scanner.evaluateMetadata queued subject attempt
      if !evaluated.2 then .ok evaluated.1
      else
        .ok (scanner.recordChild
          (scanner.childComparisonKey queued.comparisonKey child.name.text context.caseMode)
          subject stat evaluated.1)

def isControlArea (queued : QueuedDirectory) (child : ChildObservation) : Bool :=
  queued.relativePath == "." && child.name.text == controlDirectoryName &&
    scanner.excludeControlArea

def scanChildren (queued : QueuedDirectory) (context : DirectoryCaseContext) :
    List ChildObservation → Attempt → Except String Attempt
  | [], attempt => .ok attempt
  | child :: rest, attempt =>
    if scanner.isControlArea queued child then
      scanChildren queued context rest
        { attempt with
          controlAreaExcluded := true
          filterDecisions := attempt.filterDecisions ++
            [⟨controlDirectoryName, "directory", "EXCLUDED", "FILTER_CONTROL_AREA_EXCLUDED", none,
              "CONTROL_AREA"⟩] }
    else if scanner.maxEntries ≤ attempt.examinedEntries then
      .ok (attempt.limitBlock queued "SNAPSHOT_ENTRY_LIMIT_EXCEEDED")
    else
      let attempt := { attempt with examinedEntries := attempt.examinedEntries + 1 }
      match child.objectType with
      | none =>
        scanChildren queued context rest (attempt.withIssue
          (scanIssue (childRelativePath queued.relativePath child.name.text) "ENTRY_UNREADABLE"
            "SNAPSHOT_ENTRY_TYPE_FAILED"))
      | some objectType => do
        let attempt ← scanner.examineChild queued context child objectType attempt
        scanChildren queued context rest attempt

/-- `sorted(iterator, key=lambda item: (item.name.casefold(), item.name))`. -/
def sortedChildren (children : List ChildObservation) : List ChildObservation :=
  let key := fun child : ChildObservation =>
    toLex (scanner.host.casefold child.name.text, child.name.text)
  children.mergeSort fun a b => key a ≤ key b

def closeDirectory (queued : QueuedDirectory) (observation : DirectoryObservation)
    (before : ReparseInspection) (signature : DirectorySignature) (attempt : Attempt) : Attempt :=
  let closed := fun (state : String) (issues : List SnapshotIssue) =>
    { attempt with
      coverage := attempt.coverage ++ [queued.coverage observation.caseContext state]
      issues := attempt.issues ++ issues }
  if observation.caseContext.caseMode = "UNKNOWN" then
    closed "CASE_CONTEXT_UNKNOWN" [scanIssue queued.relativePath "CASE_CONTEXT_UNKNOWN"
      (observation.caseContext.errorCode.getD "SNAPSHOT_CASE_CONTEXT_UNKNOWN")]
  else
    match observation.after with
    | none =>
      closed "UNREADABLE" [scanIssue queued.relativePath "DIRECTORY_UNREADABLE"
        "SNAPSHOT_DIRECTORY_REVALIDATION_FAILED"]
    | some after =>
      if !after.present || observation.signatureAfter.isNone then
        closed "DISAPPEARED" [scanIssue queued.relativePath "DIRECTORY_DISAPPEARED"
          "SNAPSHOT_DIRECTORY_DISAPPEARED"]
      else if after.isReparsePoint then
        closed "REPARSE_BLOCKED" [scanIssue queued.relativePath "REPARSE_POINT_NOT_TRAVERSED"
          "SNAPSHOT_REPARSE_POINT_BLOCKED"]
      else if observation.signatureAfter ≠ some signature ∨ before.identity ≠ after.identity ∨
          before.finalPath ≠ after.finalPath then
        { closed "VOLATILE" [scanIssue queued.relativePath "DIRECTORY_CHANGED_DURING_SCAN"
            "SNAPSHOT_DIRECTORY_VOLATILE"] with changed := true }
      else if attempt.filterIncomplete then closed "FILTER_INCOMPLETE" []
      else closed completeCoverageState []

def attemptDirectory (queued : QueuedDirectory) (observation : DirectoryObservation)
    (attempt : Attempt) : Except String Attempt :=
  let blocked := fun (coverage : SnapshotDirectoryCoverage) (issueType errorCode : String)
      (attempt : Attempt) =>
    (attempt.withCoverage coverage).withIssue (scanIssue queued.relativePath issueType errorCode)
  match observation.before with
  | none =>
    .ok (blocked (queued.blockedCoverage "UNREADABLE" "SNAPSHOT_DIRECTORY_REVALIDATION_FAILED")
      "DIRECTORY_UNREADABLE" "SNAPSHOT_DIRECTORY_REVALIDATION_FAILED" attempt)
  | some before =>
    if !before.present then
      .ok (blocked (queued.blockedCoverage "DISAPPEARED" "SNAPSHOT_DIRECTORY_DISAPPEARED")
        "DIRECTORY_DISAPPEARED" "SNAPSHOT_DIRECTORY_DISAPPEARED" attempt)
    else if before.isReparsePoint then
      .ok (blocked (queued.blockedCoverage "REPARSE_BLOCKED" "SNAPSHOT_REPARSE_POINT_BLOCKED")
        "REPARSE_POINT_NOT_TRAVERSED" "SNAPSHOT_REPARSE_POINT_BLOCKED" attempt)
    else
      let attempt := attempt.withNamedStreams scanner.namedStreamPolicy queued.relativePath
        .directory observation.namedStreams
      match observation.signatureBefore, observation.listing with
      | none, _ =>
        .ok (blocked (queued.coverage observation.caseContext "DISAPPEARED")
          "DIRECTORY_DISAPPEARED" "SNAPSHOT_DIRECTORY_DISAPPEARED" attempt)
      | some _, none =>
        .ok (blocked (queued.coverage observation.caseContext "UNREADABLE")
          "DIRECTORY_UNREADABLE" "SNAPSHOT_DIRECTORY_ENUMERATION_FAILED" attempt)
      | some signature, some listing => do
        let attempt ← scanner.scanChildren queued observation.caseContext
          (scanner.sortedChildren listing.children) attempt
        if attempt.limitHit then .ok attempt
        else .ok (closeDirectory queued observation before signature attempt)

structure Visit where
  directory : QueuedDirectory
  added : Attempt

variable (observations : Observations)

def visitDirectory (start : Attempt) : Nat → QueuedDirectory → Except String Visit
  | 0, queued => do
    let added ← scanner.attemptDirectory queued
      (observations queued.relativePath queued.rescanAttempt) start
    return ⟨queued, added⟩
  | rescans + 1, queued => do
    let added ← scanner.attemptDirectory queued
      (observations queued.relativePath queued.rescanAttempt) start
    if added.changed then
      visitDirectory start rescans { queued with rescanAttempt := queued.rescanAttempt + 1 }
    else return ⟨queued, added⟩

structure Walk where
  visits : List Visit := []
  queue : List QueuedDirectory
  reportedErrors : List (Option String × String) := []
  examinedEntries : Nat := 0
  controlAreaExcluded : Bool := false

namespace Walk

variable (walk : Walk)

def entries : List SnapshotFileEntry := walk.visits.flatMap fun visit => visit.added.entries

def coverage : List SnapshotDirectoryCoverage :=
  walk.visits.flatMap fun visit => visit.added.coverage

def issues : List SnapshotIssue := walk.visits.flatMap fun visit => visit.added.issues

def filterDecisions : List SnapshotFilterDecision :=
  walk.visits.flatMap fun visit => visit.added.filterDecisions

def rescanAttemptCount : Nat := (walk.visits.map fun visit => visit.directory.rescanAttempt).sum

/-- `directory_filter_subjects.get(path)`. -/
def subjectOf (path : String) : Option FileFilterSubject :=
  (walk.visits.flatMap fun visit => visit.added.subjects).reverse.find?
    fun subject => subject.relativePath == path

def start : Attempt :=
  { reportedErrors := walk.reportedErrors
    examinedEntries := walk.examinedEntries
    controlAreaExcluded := walk.controlAreaExcluded }

def after (visit : Visit) : Walk :=
  { visits := walk.visits ++ [visit]
    queue := walk.queue.tail ++ visit.added.queued
    reportedErrors := visit.added.reportedErrors
    examinedEntries := visit.added.examinedEntries
    controlAreaExcluded := visit.added.controlAreaExcluded }

end Walk

def scanQueue : Nat → Walk → Except String Walk
  | directories, walk =>
    match walk.queue with
    | [] => .ok walk
    | queued :: _ =>
      match directories with
      | 0 =>
        .ok (walk.after
          ⟨queued, walk.start.limitBlock queued "SNAPSHOT_DIRECTORY_LIMIT_EXCEEDED"⟩)
      | directories + 1 => do
        let visit ← scanner.visitDirectory observations walk.start scanner.maxVolatileRescans queued
        if visit.added.limitHit then .ok (walk.after visit)
        else scanQueue directories (walk.after visit)

def walk : Except String Walk :=
  scanner.scanQueue observations scanner.maxDirectories { queue := [⟨".", ".", 0⟩] }

structure DirectoryDecision where
  relativePath : String
  isEmptyDirectory : Bool
  decision : FileFilterDecision

def decideDirectory (subject : FileFilterSubject) (isEmpty : Bool) : FileFilterDecision :=
  scanner.policy.evaluate scanner.host .afterWalk { subject with isEmptyDirectory := isEmpty }

/-- The loop of `_apply_empty_directory_filters`; `counted` holds the parent of every child
counted so far. -/
def decideDirectories : List FileFilterSubject → List String → List DirectoryDecision
  | [], _ => []
  | subject :: rest, counted =>
    let isEmpty := counted.count subject.relativePath == 0
    let decision := scanner.decideDirectory subject isEmpty
    ⟨subject.relativePath, isEmpty, decision⟩ ::
      decideDirectories rest
        (if decision.excludes then counted
        else counted ++ [parentRelativePath subject.relativePath])

def directories (walk : Walk) : List FileFilterSubject :=
  let key := fun subject : FileFilterSubject =>
    toLex (subject.relativePath.toList.count '/', subject.relativePath)
  (walk.entries.filterMap fun entry =>
    if entry.objectType = "directory" then walk.subjectOf entry.relativePath else none).mergeSort
      fun a b => key b ≤ key a

def directoryDecisions (walk : Walk) : List DirectoryDecision :=
  scanner.decideDirectories (directories walk)
    ((walk.entries.filter fun entry => entry.objectType ≠ "directory").map fun entry =>
      parentRelativePath entry.relativePath)

def excludedDirectories (walk : Walk) : List String :=
  ((scanner.directoryDecisions walk).filter fun decided => decided.decision.excludes).map
    DirectoryDecision.relativePath

def filterErrorIssues : List (Option String × String) → List DirectoryDecision → List SnapshotIssue
  | _, [] => []
  | reported, decided :: rest =>
    let answer := filterErrorIssue reported decided.relativePath decided.decision
    answer.2 ++ filterErrorIssues answer.1 rest

/-- `filter_errors.get(path)`. -/
def filterError (walk : Walk) (path : String) : Option String :=
  ((scanner.directoryDecisions walk).reverse.find? fun decided =>
    decided.relativePath == path && decided.decision.errorCode.isSome).bind
      fun decided => decided.decision.errorCode

def withFilterError (walk : Walk) (item : SnapshotDirectoryCoverage) : SnapshotDirectoryCoverage :=
  match scanner.filterError walk item.relativePath with
  | some code =>
    if item.coverageState = completeCoverageState then
      { item with coverageState := "FILTER_INCOMPLETE", caseProbeError := some code }
    else item
  | none => item

def applyEmptyDirectoryFilters (walk : Walk) : FilesystemSnapshotScan :=
  let excluded := scanner.excludedDirectories walk
  let decisions := scanner.directoryDecisions walk
  { snapshotId := scanner.snapshotId
    entries := walk.entries.filter fun entry => !pathIsWithinAny entry.relativePath excluded
    coverage :=
      (walk.coverage.filter fun item => !pathIsWithinAny item.relativePath excluded).map
        (scanner.withFilterError walk)
    issues :=
      (walk.issues ++ filterErrorIssues walk.reportedErrors decisions).filter
        fun issue => !pathIsWithinAny issue.relativePath excluded
    controlAreaExcluded := walk.controlAreaExcluded
    filterDecisions := walk.filterDecisions ++ decisions.flatMap fun decided =>
      filterDecisionRecord decided.relativePath "directory" "EMPTY_DIRECTORY" decided.decision
    rescanAttemptCount := walk.rescanAttemptCount }

def finish (walk : Walk) : FilesystemSnapshotScan :=
  if scanner.policy.hasEmptyDirectoryRules then scanner.applyEmptyDirectoryFilters walk
  else
    { snapshotId := scanner.snapshotId
      entries := walk.entries
      coverage := walk.coverage
      issues := walk.issues
      controlAreaExcluded := walk.controlAreaExcluded
      filterDecisions := walk.filterDecisions
      rescanAttemptCount := walk.rescanAttemptCount }

def scan : Except String FilesystemSnapshotScan :=
  (scanner.walk observations).map scanner.finish

end SnapshotScanner

end MediaSync.Snapshots
