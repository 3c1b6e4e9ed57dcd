import MediaSync.Foundation.Agreement
import MediaSync.Snapshots.Streaming

/-! Without empty-directory rules, the batches that the sink keeps hold what the buffered scan
returns, and everything else is the same. -/
namespace MediaSync.Snapshots

attribute [ext] Attempt

def Attempt.Blank (start : Attempt) : Prop :=
  ∃ reportedErrors examinedEntries controlAreaExcluded, start =
    { reportedErrors := reportedErrors
      examinedEntries := examinedEntries
      controlAreaExcluded := controlAreaExcluded }

/-- What `attempt` adds, after what `base` holds. -/
def Attempt.onto (base attempt : Attempt) : Attempt :=
  { attempt with
    entries := base.entries ++ attempt.entries
    coverage := base.coverage ++ attempt.coverage
    issues := base.issues ++ attempt.issues
    filterDecisions := base.filterDecisions ++ attempt.filterDecisions
    subjects := base.subjects ++ attempt.subjects
    queued := base.queued ++ attempt.queued }

namespace Attempt

variable (base attempt : Attempt)

@[simp]
theorem onto_withEntry (entry : SnapshotFileEntry) :
    (base.onto attempt).withEntry entry = base.onto (attempt.withEntry entry) := by
  simp only [onto, withEntry, List.append_assoc]

@[simp]
theorem onto_withCoverage (item : SnapshotDirectoryCoverage) :
    (base.onto attempt).withCoverage item = base.onto (attempt.withCoverage item) := by
  simp only [onto, withCoverage, List.append_assoc]

@[simp]
theorem onto_withIssue (issue : SnapshotIssue) :
    (base.onto attempt).withIssue issue = base.onto (attempt.withIssue issue) := by
  simp only [onto, withIssue, List.append_assoc]

@[simp]
theorem onto_limitBlock (directory : QueuedDirectory) (reasonCode : String) :
    (base.onto attempt).limitBlock directory reasonCode =
      base.onto (attempt.limitBlock directory reasonCode) := by
  simp only [limitBlock, onto_withCoverage, onto_withIssue]
  rfl

@[simp]
theorem onto_withNamedStreams (policy : NamedStreamPolicy) (relativePath : String)
    (objectType : ObjectType) (inspection : NamedStreamInspection) :
    (base.onto attempt).withNamedStreams policy relativePath objectType inspection =
      base.onto (attempt.withNamedStreams policy relativePath objectType inspection) := by
  unfold withNamedStreams
  split
  · rfl
  · exact onto_withIssue base attempt _

@[simp]
theorem onto_withDecision (relativePath : String) (objectType : ObjectType) (stage : String)
    (decision : FileFilterDecision) :
    (base.onto attempt).withDecision relativePath objectType stage decision =
      base.onto (attempt.withDecision relativePath objectType stage decision) := by
  simp only [onto, withDecision, List.append_assoc]

@[simp]
theorem onto_withFilterError (relativePath : String) (decision : FileFilterDecision) :
    (base.onto attempt).withFilterError relativePath decision =
      base.onto (attempt.withFilterError relativePath decision) := by
  simp only [onto, withFilterError, List.append_assoc]

end Attempt

namespace SnapshotScanner

variable {scanner : SnapshotScanner} (base : Attempt)

theorem recordChild_onto (key : String) (subject : FileFilterSubject) (stat : ChildStat)
    (a : Attempt) :
    scanner.recordChild key subject stat (base.onto a) =
      base.onto (scanner.recordChild key subject stat a) := by
  cases hobject : subject.objectType with
  | reparse =>
    simp only [recordChild, hobject]
    split
    · simp only [Attempt.onto_withEntry, Attempt.onto_withIssue, Attempt.onto_withCoverage]
    · simp only [Attempt.onto_withEntry, Attempt.onto_withIssue]
  | directory =>
    simp only [recordChild, hobject]
    split
    · simp only [Attempt.onto_withEntry, Attempt.onto_withIssue]
      simp only [Attempt.onto, List.append_assoc]
    · simp only [Attempt.onto_withEntry]
      simp only [Attempt.onto, List.append_assoc]
  | file =>
    simp only [recordChild, hobject]
    split
    · simp only [Attempt.onto_withEntry, Attempt.onto_withIssue, Attempt.onto_withNamedStreams]
    · simp only [Attempt.onto_withEntry, Attempt.onto_withNamedStreams]
  | other =>
    simp only [recordChild, hobject]
    split
    · simp only [Attempt.onto_withEntry, Attempt.onto_withIssue]
    · simp only [Attempt.onto_withEntry, Attempt.onto_withIssue]

theorem evaluateBeforeMetadata_onto (queued : QueuedDirectory) (relativePath : String)
    (objectType : ObjectType) (a : Attempt) :
    scanner.evaluateBeforeMetadata queued relativePath objectType (base.onto a) =
      (scanner.evaluateBeforeMetadata queued relativePath objectType a).map
        fun evaluated => (base.onto evaluated.1, evaluated.2) := by
  unfold evaluateBeforeMetadata
  split
  · rfl
  · cases FileFilterSubject.validated
        { relativePath := relativePath, objectType := objectType } with
    | error code => rfl
    | ok subject =>
      simp only [bind, Except.bind, Attempt.onto_withDecision]
      split
      · rw [Attempt.onto_withFilterError]
        rfl
      · rfl

theorem evaluateMetadata_onto (queued : QueuedDirectory) (subject : FileFilterSubject)
    (a : Attempt) :
    scanner.evaluateMetadata queued subject (base.onto a) =
      (base.onto (scanner.evaluateMetadata queued subject a).1,
        (scanner.evaluateMetadata queued subject a).2) := by
  unfold evaluateMetadata
  split
  · rfl
  · cases subject.objectType = .directory && scanner.policy.hasEmptyDirectoryRules with
    | true =>
      simp only [if_true]
      split
      · rw [Attempt.onto_withFilterError]
      · rfl
    | false =>
      simp only [Bool.false_eq_true, if_false, Attempt.onto_withDecision]
      split
      · rw [Attempt.onto_withFilterError]
      · rfl

theorem examineChild_onto (queued : QueuedDirectory) (context : DirectoryCaseContext)
    (child : ChildObservation) (objectType : ObjectType) (a : Attempt) :
    scanner.examineChild queued context child objectType (base.onto a) =
      (scanner.examineChild queued context child objectType a).map base.onto := by
  unfold examineChild
  dsimp only
  rw [evaluateBeforeMetadata_onto]
  cases scanner.evaluateBeforeMetadata queued
      (childRelativePath queued.relativePath child.name.text) objectType a with
  | error code => rfl
  | ok evaluated =>
    obtain ⟨before, proceed⟩ := evaluated
    cases proceed with
    | false => rfl
    | true =>
      simp only [bind, Except.bind, Except.map, Bool.not_true, Bool.false_eq_true, if_false]
      cases child.stat with
      | none =>
        dsimp only
        rw [Attempt.onto_withIssue]
      | some stat =>
        dsimp only
        cases (childSubject (childRelativePath queued.relativePath child.name.text)
            stat).validated with
        | error code => rfl
        | ok subject =>
          dsimp only
          rw [evaluateMetadata_onto]
          cases (scanner.evaluateMetadata queued subject before).2 with
          | false => rfl
          | true =>
            simp only [Bool.not_true, Bool.false_eq_true, if_false]
            rw [recordChild_onto]

theorem scanChildren_onto (queued : QueuedDirectory) (context : DirectoryCaseContext)
    (children : List ChildObservation) (a : Attempt) :
    scanner.scanChildren queued context children (base.onto a) =
      (scanner.scanChildren queued context children a).map base.onto := by
  induction children generalizing a with
  | nil => rfl
  | cons child rest ih =>
    have hexamined : (base.onto a).examinedEntries = a.examinedEntries := rfl
    simp only [scanChildren, hexamined]
    by_cases hcontrol : scanner.isControlArea queued child = true
    · rw [if_pos hcontrol, if_pos hcontrol, ← ih]
      simp only [Attempt.onto, List.append_assoc]
    · rw [if_neg hcontrol, if_neg hcontrol]
      by_cases hfull : scanner.maxEntries ≤ a.examinedEntries
      · rw [if_pos hfull, if_pos hfull, Attempt.onto_limitBlock]
        rfl
      · rw [if_neg hfull, if_neg hfull]
        cases child.objectType with
        | none =>
          dsimp only
          rw [← ih, ← Attempt.onto_withIssue]
          rfl
        | some objectType =>
          dsimp only
          have hchild := @examineChild_onto scanner base queued context child objectType
            { a with examinedEntries := a.examinedEntries + 1 }
          refine (congrArg (fun x => x >>= scanner.scanChildren queued context rest)
            hchild).trans ?_
          cases scanner.examineChild queued context child objectType
              { a with examinedEntries := a.examinedEntries + 1 } with
          | error code => rfl
          | ok b => exact ih b

theorem closeDirectory_onto (queued : QueuedDirectory) (observation : DirectoryObservation)
    (before : ReparseInspection) (signature : DirectorySignature) (a : Attempt) :
    closeDirectory queued observation before signature (base.onto a) =
      base.onto (closeDirectory queued observation before signature a) := by
  unfold closeDirectory
  split
  · simp only [Attempt.onto, List.append_assoc]
  · cases observation.after with
    | none => simp only [Attempt.onto, List.append_assoc]
    | some after =>
      dsimp only
      split
      · simp only [Attempt.onto, List.append_assoc]
      · split
        · simp only [Attempt.onto, List.append_assoc]
        · split
          · simp only [Attempt.onto, List.append_assoc]
          · have hsame : (base.onto a).filterIncomplete = a.filterIncomplete := rfl
            rw [hsame]
            split
            · simp only [Attempt.onto, List.append_assoc]
            · simp only [Attempt.onto, List.append_assoc]

theorem attemptDirectory_onto (queued : QueuedDirectory) (observation : DirectoryObservation)
    (a : Attempt) :
    scanner.attemptDirectory queued observation (base.onto a) =
      (scanner.attemptDirectory queued observation a).map base.onto := by
  unfold attemptDirectory
  cases observation.before with
  | none => simp only [Attempt.onto_withCoverage, Attempt.onto_withIssue, Except.map]
  | some before =>
    dsimp only
    split
    · simp only [Attempt.onto_withCoverage, Attempt.onto_withIssue, Except.map]
    · split
      · simp only [Attempt.onto_withCoverage, Attempt.onto_withIssue, Except.map]
      · rw [Attempt.onto_withNamedStreams]
        cases observation.signatureBefore with
        | none => simp only [Attempt.onto_withCoverage, Attempt.onto_withIssue, Except.map]
        | some signature =>
          cases observation.listing with
          | none => simp only [Attempt.onto_withCoverage, Attempt.onto_withIssue, Except.map]
          | some listing =>
            simp only [scanChildren_onto]
            cases scanner.scanChildren queued observation.caseContext
                (scanner.sortedChildren listing.children)
                (a.withNamedStreams scanner.namedStreamPolicy queued.relativePath .directory
                  observation.namedStreams) with
            | error code => rfl
            | ok scanned =>
              have hlimit : (base.onto scanned).limitHit = scanned.limitHit := rfl
              simp only [bind, Except.bind, Except.map, hlimit]
              cases scanned.limitHit with
              | true => rfl
              | false => exact congrArg Except.ok (closeDirectory_onto base _ _ _ _ _)

end SnapshotScanner

/-- The limit is not hit, and no directory is queued with rescans behind it. -/
structure Attempt.Tame (a a' : Attempt) : Prop where
  limitHit : a'.limitHit = a.limitHit
  queued : (∀ directory ∈ a.queued, directory.rescanAttempt = 0) →
    ∀ directory ∈ a'.queued, directory.rescanAttempt = 0

namespace Attempt.Tame

variable {a b c : Attempt}

theorem of_eq (hlimit : b.limitHit = a.limitHit) (hqueued : b.queued = a.queued) : a.Tame b :=
  ⟨hlimit, fun h => hqueued ▸ h⟩

theorem trans (hab : a.Tame b) (hbc : b.Tame c) : a.Tame c :=
  ⟨hbc.limitHit.trans hab.limitHit, fun h => hbc.queued (hab.queued h)⟩

theorem withNamedStreams (policy : NamedStreamPolicy) (relativePath : String)
    (objectType : ObjectType) (inspection : NamedStreamInspection) :
    a.Tame (a.withNamedStreams policy relativePath objectType inspection) := by
  unfold Attempt.withNamedStreams
  split
  · exact of_eq rfl rfl
  · exact of_eq rfl rfl

end Attempt.Tame

namespace SnapshotScanner

variable {scanner : SnapshotScanner} {a a' : Attempt}

theorem recordChild_tame (key : String) (subject : FileFilterSubject) (stat : ChildStat) :
    a.Tame (scanner.recordChild key subject stat a) := by
  cases hobject : subject.objectType with
  | reparse =>
    simp only [recordChild, hobject]
    split
    · exact .of_eq rfl rfl
    · exact .of_eq rfl rfl
  | directory =>
    simp only [recordChild, hobject]
    have hqueued : ∀ b : Attempt, b.limitHit = a.limitHit →
        b.queued = a.queued ++ [⟨subject.relativePath, key, 0⟩] → a.Tame b := by
      refine fun b hlimit hqueued => ⟨hlimit, fun h directory hmem => ?_⟩
      rw [hqueued] at hmem
      rcases List.mem_append.mp hmem with hold | hnew
      · exact h directory hold
      · rw [List.mem_singleton.mp hnew]
    split
    · exact hqueued _ rfl rfl
    · exact hqueued _ rfl rfl
  | file =>
    simp only [recordChild, hobject]
    have hnamed : ∀ b : Attempt, a.Tame b → ∀ entry : SnapshotFileEntry,
        a.Tame ((b.withNamedStreams scanner.namedStreamPolicy subject.relativePath .file
          stat.namedStreams).withEntry entry) := by
      refine fun b hb entry => hb.trans ((Attempt.Tame.withNamedStreams
        scanner.namedStreamPolicy subject.relativePath .file stat.namedStreams).trans ?_)
      exact .of_eq rfl rfl
    split
    · exact hnamed (a.withIssue _) (.of_eq rfl rfl) _
    · exact hnamed a (.of_eq rfl rfl) _
  | other =>
    simp only [recordChild, hobject]
    split
    · exact .of_eq rfl rfl
    · exact .of_eq rfl rfl

variable {queued : QueuedDirectory} {objectType : ObjectType}

theorem evaluateBeforeMetadata_tame {relativePath : String} {evaluated : Attempt × Bool}
    (h : scanner.evaluateBeforeMetadata queued relativePath objectType a = .ok evaluated) :
    a.Tame evaluated.1 := by
  unfold evaluateBeforeMetadata at h
  split at h
  · cases h
    exact .of_eq rfl rfl
  · cases hsubject : FileFilterSubject.validated
        { relativePath := relativePath, objectType := objectType } with
    | error code =>
      rw [hsubject] at h
      cases h
    | ok subject =>
      rw [hsubject] at h
      simp only [bind, Except.bind] at h
      split at h
      · cases h
        exact .of_eq rfl rfl
      · cases h
        exact .of_eq rfl rfl

theorem evaluateMetadata_tame (queued : QueuedDirectory) (subject : FileFilterSubject) :
    a.Tame (scanner.evaluateMetadata queued subject a).1 := by
  unfold evaluateMetadata
  split
  · exact .of_eq rfl rfl
  · cases subject.objectType = .directory && scanner.policy.hasEmptyDirectoryRules with
    | true =>
      simp only [if_true]
      split
      · exact .of_eq rfl rfl
      · exact .of_eq rfl rfl
    | false =>
      simp only [Bool.false_eq_true, if_false]
      split
      · exact .of_eq rfl rfl
      · exact .of_eq rfl rfl

variable {context : DirectoryCaseContext}

theorem examineChild_tame {child : ChildObservation}
    (h : scanner.examineChild queued context child objectType a = .ok a') : a.Tame a' := by
  unfold examineChild at h
  dsimp only at h
  cases hbefore : scanner.evaluateBeforeMetadata queued
      (childRelativePath queued.relativePath child.name.text) objectType a with
  | error code =>
    rw [hbefore] at h
    cases h
  | ok evaluated =>
    rw [hbefore] at h
    obtain ⟨b, proceed⟩ := evaluated
    have hb : a.Tame b := evaluateBeforeMetadata_tame hbefore
    refine hb.trans ?_
    cases proceed with
    | false =>
      cases h
      exact .of_eq rfl rfl
    | true =>
      simp only [bind, Except.bind, Bool.not_true, Bool.false_eq_true, if_false] at h
      cases hstat : child.stat with
      | none =>
        rw [hstat] at h
        cases h
        exact .of_eq rfl rfl
      | some stat =>
        rw [hstat] at h
        cases hsubject : (childSubject (childRelativePath queued.relativePath child.name.text)
            stat).validated with
        | error code =>
          simp only [hsubject] at h
          cases h
        | ok subject =>
          simp only [hsubject] at h
          refine (@evaluateMetadata_tame scanner b queued subject).trans ?_
          split at h
          · cases h
            exact .of_eq rfl rfl
          · cases h
            exact recordChild_tame _ _ _

theorem scanChildren_cons (child : ChildObservation) (rest : List ChildObservation)
    (hlimit : a.limitHit = false) : scanner.scanChildren queued context (child :: rest) a =
      scanner.scanChildren queued context [child] a >>= fun a' =>
        if a'.limitHit then .ok a' else scanner.scanChildren queued context rest a' := by
  have hcontinue : ∀ b : Attempt, a.Tame b →
      (if b.limitHit then .ok b else scanner.scanChildren queued context rest b) =
        scanner.scanChildren queued context rest b := by
    intro b hb
    rw [hb.limitHit, hlimit, if_neg Bool.false_ne_true]
  simp only [scanChildren]
  by_cases hcontrol : scanner.isControlArea queued child = true
  · rw [if_pos hcontrol, if_pos hcontrol]
    refine (hcontinue _ ?_).symm
    exact .of_eq rfl rfl
  · rw [if_neg hcontrol, if_neg hcontrol]
    by_cases hfull : scanner.maxEntries ≤ a.examinedEntries
    · rw [if_pos hfull, if_pos hfull]
      rfl
    · rw [if_neg hfull, if_neg hfull]
      cases child.objectType with
      | none =>
        refine (hcontinue _ ?_).symm
        exact .of_eq rfl rfl
      | some objectType =>
        dsimp only
        cases hexamined : scanner.examineChild queued context child objectType
            { a with examinedEntries := a.examinedEntries + 1 } with
        | error code => rfl
        | ok b =>
          have htame := examineChild_tame hexamined
          exact (hcontinue b ⟨htame.limitHit, htame.queued⟩).symm

theorem scanChildren_queued {children : List ChildObservation}
    (h : scanner.scanChildren queued context children a = .ok a')
    (hqueued : ∀ directory ∈ a.queued, directory.rescanAttempt = 0) :
    ∀ directory ∈ a'.queued, directory.rescanAttempt = 0 := by
  induction children generalizing a with
  | nil =>
    cases h
    exact hqueued
  | cons child rest ih =>
    unfold scanChildren at h
    split at h
    · exact ih h hqueued
    · split at h
      · cases h
        exact hqueued
      · cases hobject : child.objectType with
        | none =>
          rw [hobject] at h
          exact ih h hqueued
        | some objectType =>
          rw [hobject] at h
          dsimp only at h
          cases hexamined : scanner.examineChild queued context child objectType
              { a with examinedEntries := a.examinedEntries + 1 } with
          | error code =>
            rw [hexamined] at h
            cases h
          | ok b =>
            rw [hexamined] at h
            have htame := examineChild_tame hexamined
            exact ih h (htame.queued hqueued)

theorem closeDirectory_keeps (queued : QueuedDirectory) (observation : DirectoryObservation)
    (before : ReparseInspection) (signature : DirectorySignature) :
    (closeDirectory queued observation before signature a).queued = a.queued ∧
      (closeDirectory queued observation before signature a).entries = a.entries ∧
      (closeDirectory queued observation before signature a).filterDecisions =
        a.filterDecisions := by
  unfold closeDirectory
  split
  · exact ⟨rfl, rfl, rfl⟩
  · cases observation.after with
    | none => exact ⟨rfl, rfl, rfl⟩
    | some after =>
      dsimp only
      split
      · exact ⟨rfl, rfl, rfl⟩
      · split
        · exact ⟨rfl, rfl, rfl⟩
        · split
          · exact ⟨rfl, rfl, rfl⟩
          · split
            · exact ⟨rfl, rfl, rfl⟩
            · exact ⟨rfl, rfl, rfl⟩

theorem attemptDirectory_unlisted {queued : QueuedDirectory} {observation : DirectoryObservation}
    (h : observation.opened = none ∨ observation.signatureBefore = none ∨
      observation.listing = none) (a : Attempt) :
    ∃ a', scanner.attemptDirectory queued observation a = .ok a' ∧ a'.entries = a.entries ∧
      a'.filterDecisions = a.filterDecisions ∧ a'.queued = a.queued ∧ a'.changed = a.changed := by
  unfold attemptDirectory
  cases hbefore : observation.before with
  | none => exact ⟨_, rfl, rfl, rfl, rfl, rfl⟩
  | some before =>
    dsimp only
    split
    · exact ⟨_, rfl, rfl, rfl, rfl, rfl⟩
    · rename_i hpresent
      split
      · exact ⟨_, rfl, rfl, rfl, rfl, rfl⟩
      · rename_i hreparse
        have hstreams : ∀ item issue, ∃ a', (Except.ok ((((a.withNamedStreams
            scanner.namedStreamPolicy queued.relativePath .directory
            observation.namedStreams).withCoverage item).withIssue issue)) :
              Except String Attempt) = .ok a' ∧ a'.entries = a.entries ∧
            a'.filterDecisions = a.filterDecisions ∧ a'.queued = a.queued ∧
            a'.changed = a.changed := by
          intro item issue
          unfold Attempt.withNamedStreams
          split
          · exact ⟨_, rfl, rfl, rfl, rfl, rfl⟩
          · exact ⟨_, rfl, rfl, rfl, rfl, rfl⟩
        cases hsignature : observation.signatureBefore with
        | none => exact hstreams _ _
        | some signature =>
          cases hlisting : observation.listing with
          | none => exact hstreams _ _
          | some listing =>
            rcases h with hopened | hnone | hnone
            · refine absurd hopened ?_
              rw [Bool.not_eq_true', Bool.not_eq_false] at hpresent
              simp [DirectoryObservation.opened, hbefore, hpresent, hreparse]
            · rw [hsignature] at hnone
              cases hnone
            · rw [hlisting] at hnone
              cases hnone

variable {observation : DirectoryObservation}

theorem attemptDirectory_listed {before : ReparseInspection} {signature : DirectorySignature}
    {listing : DirectoryListing} (hopened : observation.opened = some before)
    (hsignature : observation.signatureBefore = some signature)
    (hlisting : observation.listing = some listing) (a : Attempt) :
    scanner.attemptDirectory queued observation a =
      scanner.scanChildren queued observation.caseContext
          (scanner.sortedChildren listing.children)
          (a.withNamedStreams scanner.namedStreamPolicy queued.relativePath .directory
            observation.namedStreams) >>= fun a' =>
        if a'.limitHit then .ok a'
        else .ok (closeDirectory queued observation before signature a') := by
  obtain ⟨hbefore, htraversed⟩ := Option.filter_eq_some_iff.mp hopened
  rw [Bool.and_eq_true, Bool.not_eq_true'] at htraversed
  unfold attemptDirectory
  simp only [hbefore, htraversed, hsignature, hlisting, Bool.not_true, Bool.false_eq_true, if_false]

theorem attemptDirectory_queued (h : scanner.attemptDirectory queued observation a = .ok a')
    (hqueued : ∀ directory ∈ a.queued, directory.rescanAttempt = 0) :
    ∀ directory ∈ a'.queued, directory.rescanAttempt = 0 := by
  by_cases hunlisted : observation.opened = none ∨ observation.signatureBefore = none ∨
      observation.listing = none
  · obtain ⟨covered, hcovered, -, -, hsame, -⟩ := attemptDirectory_unlisted hunlisted a
    rw [hcovered] at h
    cases h
    rw [hsame]
    exact hqueued
  · rw [not_or, not_or] at hunlisted
    obtain ⟨before, hopened⟩ := Option.ne_none_iff_exists'.mp hunlisted.1
    obtain ⟨signature, hsignature⟩ := Option.ne_none_iff_exists'.mp hunlisted.2.1
    obtain ⟨listing, hlisting⟩ := Option.ne_none_iff_exists'.mp hunlisted.2.2
    rw [attemptDirectory_listed hopened hsignature hlisting] at h
    have hnamed := (Attempt.Tame.withNamedStreams (a := a) scanner.namedStreamPolicy
      queued.relativePath .directory observation.namedStreams).queued hqueued
    cases hscanned : scanner.scanChildren queued observation.caseContext
        (scanner.sortedChildren listing.children)
        (a.withNamedStreams scanner.namedStreamPolicy queued.relativePath .directory
          observation.namedStreams) with
    | error code =>
      rw [hscanned] at h
      cases h
    | ok scanned =>
      rw [hscanned] at h
      simp only [bind, Except.bind] at h
      split at h
      · cases h
        exact scanChildren_queued hscanned hnamed
      · cases h
        rw [(closeDirectory_keeps _ _ _ _).1]
        exact scanChildren_queued hscanned hnamed

end SnapshotScanner

def BatchSink.emitted (sink : BatchSink) : Attempt where
  entries := sink.batches.flatMap ScanBatch.entries
  filterDecisions := sink.batches.flatMap ScanBatch.filterDecisions
  reportedErrors := []
  examinedEntries := 0
  controlAreaExcluded := false

def StreamState.gathered (s : StreamState) : Attempt := s.sink.emitted.onto s.lists

/-- The counters are those of the batches that were emitted. -/
structure StreamState.Counted (s : StreamState) : Prop where
  entries : s.streamedEntryCount = s.sink.emitted.entries.length
  bytes : s.streamedTotalBytes = byteSum s.sink.emitted.entries
  filterDecisions : s.streamedFilterDecisionCount = s.sink.emitted.filterDecisions.length
  batches : s.sink.batchCount = s.sink.batches.length
  ordinals : s.sink.batches.map ScanBatch.sequenceNo = List.range s.sink.batches.length

/-- Nothing waits for a batch. -/
structure StreamState.Flushed (s : StreamState) : Prop where
  entries : s.lists.entries = []
  filterDecisions : s.lists.filterDecisions = []

/-- The scan has come to `s` within an attempt that began at `s₀`. -/
structure Within (s₀ s : StreamState) : Prop where
  counted : s.Counted
  savepoints : s.sink.savepoints = s₀.sink.savepoints
  rescans : s.rescanAttemptCount = s₀.rescanAttemptCount

variable {s₀ s : StreamState}

theorem byteSum_append (entries others : List SnapshotFileEntry) :
    byteSum (entries ++ others) = byteSum entries + byteSum others := by
  simp only [byteSum, List.map_append, List.sum_append]

theorem BatchSink.emitted_emit (sink : BatchSink) (entries : List SnapshotFileEntry)
    (filterDecisions : List SnapshotFilterDecision) :
    (sink.emit entries filterDecisions).emitted =
      { sink.emitted with
        entries := sink.emitted.entries ++ entries
        filterDecisions := sink.emitted.filterDecisions ++ filterDecisions } := by
  simp only [emitted, emit, List.flatMap_append, List.flatMap_cons, List.flatMap_nil,
    List.append_nil]

theorem StreamState.gathered_flush : s.flushStreamBatch.gathered = s.gathered := by
  unfold flushStreamBatch
  split
  · rfl
  · simp only [gathered, BatchSink.emitted_emit, Attempt.onto, List.append_nil]

theorem StreamState.flushed_flush : s.flushStreamBatch.Flushed := by
  unfold flushStreamBatch
  split
  · rename_i hempty
    rw [Bool.and_eq_true, List.isEmpty_iff, List.isEmpty_iff] at hempty
    exact ⟨hempty.1, hempty.2⟩
  · exact ⟨rfl, rfl⟩

theorem StreamState.Counted.flush (h : s.Counted) : s.flushStreamBatch.Counted := by
  unfold flushStreamBatch
  split
  · exact h
  · constructor
    · rw [BatchSink.emitted_emit, List.length_append, ← h.entries]
    · rw [BatchSink.emitted_emit, byteSum_append, ← h.bytes]
    · rw [BatchSink.emitted_emit, List.length_append, ← h.filterDecisions]
    · simp only [BatchSink.emit, List.length_append, h.batches, List.length_singleton]
    · simp only [BatchSink.emit, List.map_append, h.ordinals, List.map_cons, List.map_nil,
        List.length_append, List.length_singleton, h.batches, List.range_succ]

theorem Within.flush (h : Within s₀ s) : Within s₀ s.flushStreamBatch := by
  refine ⟨h.counted.flush, ?_, ?_⟩
  · rw [← h.savepoints]
    unfold StreamState.flushStreamBatch
    split
    · rfl
    · rfl
  · rw [← h.rescans]
    unfold StreamState.flushStreamBatch
    split
    · rfl
    · rfl

theorem Within.lists (h : Within s₀ s) (lists : Attempt) : Within s₀ { s with lists := lists } :=
  ⟨⟨h.counted.entries, h.counted.bytes, h.counted.filterDecisions, h.counted.batches,
    h.counted.ordinals⟩, h.savepoints, h.rescans⟩

namespace SnapshotScanner

variable {scanner : SnapshotScanner} {base a : Attempt}

variable {queued : QueuedDirectory}

theorem streamChildren_agrees {context : DirectoryCaseContext} {children : List ChildObservation}
    (hs : Within s₀ s) (hgathered : s.gathered = base.onto a) (hlimit : a.limitHit = false) :
    Agrees (fun s a => Within s₀ s ∧ s.gathered = base.onto a)
      (scanner.streamChildren queued context children s)
      (scanner.scanChildren queued context children a) := by
  induction children generalizing s a with
  | nil => exact .ok ⟨hs, hgathered⟩
  | cons child rest ih =>
    unfold streamChildren
    rw [scanChildren_cons child rest hlimit]
    generalize hflushed : (if s.lists.isFull then s.flushStreamBatch else s) = s'
    have hs' : Within s₀ s' ∧ s'.gathered = base.onto a := by
      rw [← hflushed]
      split
      · exact ⟨hs.flush, StreamState.gathered_flush.trans hgathered⟩
      · exact ⟨hs, hgathered⟩
    obtain ⟨hs', hgathered'⟩ := hs'
    have hchild : (scanner.scanChildren queued context [child] s'.lists).map s'.sink.emitted.onto =
        (scanner.scanChildren queued context [child] a).map base.onto := by
      rw [← scanChildren_onto, ← scanChildren_onto]
      exact congrArg _ hgathered'
    refine (Agrees.of_map_eq hchild).bind fun lists added h => ?_
    have hsame : lists.limitHit = added.limitHit := (congrArg Attempt.limitHit h :)
    rw [hsame]
    by_cases hhit : added.limitHit = true
    · rw [if_pos hhit, if_pos hhit]
      exact .ok ⟨hs'.lists lists, h⟩
    · rw [if_neg hhit, if_neg hhit]
      exact ih (hs'.lists lists) h (by simpa using hhit)

theorem streamOpened_agrees {queued : QueuedDirectory} {observation : DirectoryObservation}
    {before : ReparseInspection} (hopened : observation.opened = some before)
    (hs : Within s₀ s) (hflushed : s.Flushed) (hgathered : s.gathered = base.onto a)
    (hlimit : a.limitHit = false) :
    Agrees (fun s a => Within s₀ s ∧ s.Flushed ∧ s.gathered = base.onto a)
      (scanner.streamOpened queued observation before s)
      (scanner.attemptDirectory queued observation a) := by
  by_cases hunlisted : observation.signatureBefore = none ∨ observation.listing = none
  · have hcovered : (scanner.attemptDirectory queued observation s.lists).map s.sink.emitted.onto =
        (scanner.attemptDirectory queued observation a).map base.onto := by
      rw [← attemptDirectory_onto, ← attemptDirectory_onto]
      exact congrArg _ hgathered
    have hopened : scanner.streamOpened queued observation before s = do
        let lists ← scanner.attemptDirectory queued observation s.lists
        return { s with lists := lists } := by
      unfold streamOpened
      rcases hunlisted with hnone | hnone
      · rw [hnone]
      · rw [hnone]
        cases observation.signatureBefore with
        | none => rfl
        | some signature => rfl
    obtain ⟨covered, heq, hentries, hdecisions, -, -⟩ :=
      @attemptDirectory_unlisted scanner queued observation (.inr hunlisted) s.lists
    rw [heq] at hcovered
    rw [hopened, heq]
    cases hattempted : scanner.attemptDirectory queued observation a with
    | error code =>
      rw [hattempted] at hcovered
      cases hcovered
    | ok a' =>
      rw [hattempted] at hcovered
      exact .ok ⟨hs.lists covered, ⟨hentries.trans hflushed.entries,
        hdecisions.trans hflushed.filterDecisions⟩, Except.ok.inj hcovered⟩
  · rw [not_or] at hunlisted
    obtain ⟨signature, hsignature⟩ := Option.ne_none_iff_exists'.mp hunlisted.1
    obtain ⟨listing, hlisting⟩ := Option.ne_none_iff_exists'.mp hunlisted.2
    rw [attemptDirectory_listed hopened hsignature hlisting]
    unfold streamOpened
    rw [hsignature, hlisting]
    dsimp only
    have hnamed : (s.sink.emitted.onto (s.lists.withNamedStreams scanner.namedStreamPolicy
        queued.relativePath .directory observation.namedStreams)) =
          base.onto (a.withNamedStreams scanner.namedStreamPolicy queued.relativePath .directory
            observation.namedStreams) := by
      rw [← Attempt.onto_withNamedStreams, ← Attempt.onto_withNamedStreams]
      exact congrArg (fun x : Attempt => x.withNamedStreams scanner.namedStreamPolicy
        queued.relativePath .directory observation.namedStreams) hgathered
    have hlimit' : (a.withNamedStreams scanner.namedStreamPolicy queued.relativePath .directory
        observation.namedStreams).limitHit = false :=
      (Attempt.Tame.withNamedStreams _ _ _ _).limitHit.trans hlimit
    refine (streamChildren_agrees (hs.lists (s.lists.withNamedStreams scanner.namedStreamPolicy
      queued.relativePath .directory observation.namedStreams)) hnamed hlimit').bind ?_
    rintro s a ⟨hs, hgathered⟩
    have hflush : s.flushStreamBatch.gathered = base.onto a :=
      StreamState.gathered_flush.trans hgathered
    have hsame : s.flushStreamBatch.lists.limitHit = a.limitHit :=
      (congrArg Attempt.limitHit hflush :)
    rw [hsame]
    by_cases hhit : a.limitHit = true
    · rw [if_pos hhit, if_pos hhit]
      exact .ok ⟨hs.flush, StreamState.flushed_flush, hflush⟩
    · rw [if_neg hhit, if_neg hhit]
      refine .ok ⟨hs.flush.lists _, ?_, ?_⟩
      · obtain ⟨-, hentries, hdecisions⟩ := closeDirectory_keeps (a := s.flushStreamBatch.lists)
          queued observation before signature
        exact ⟨hentries.trans StreamState.flushed_flush.entries,
          hdecisions.trans StreamState.flushed_flush.filterDecisions⟩
      · show s.flushStreamBatch.sink.emitted.onto _ = _
        rw [← closeDirectory_onto, ← closeDirectory_onto]
        exact congrArg _ hflush

/-- How an attempt that began at `s₀` ends. -/
structure AttemptEnd (s₀ : StreamState) (checkpoint : Option ScanCheckpoint) (s : StreamState) :
    Prop where
  counted : s.Counted
  flushed : s.Flushed
  rescans : s.rescanAttemptCount = s₀.rescanAttemptCount
  unopened : checkpoint = none → s.lists.changed = false
  opened : ∀ c, checkpoint = some c →
    c = s₀.checkpoint.1 ∧ s.sink.savepoints = s₀.checkpoint.2.sink.savepoints

theorem streamAttempt_agrees {observation : DirectoryObservation} (hcounted : s.Counted)
    (hflushed : s.Flushed) (hgathered : s.gathered.fresh = base.onto a)
    (hblank : a.limitHit = false ∧ a.changed = false) :
    Agrees (fun attempted a => AttemptEnd { s with lists := s.lists.fresh } attempted.1
        attempted.2 ∧ attempted.2.gathered = base.onto a)
      (scanner.streamAttempt queued observation s)
      (scanner.attemptDirectory queued observation a) := by
  have hcounted' : ({ s with lists := s.lists.fresh } : StreamState).Counted :=
    ⟨hcounted.entries, hcounted.bytes, hcounted.filterDecisions, hcounted.batches,
      hcounted.ordinals⟩
  have hflushed' : ({ s with lists := s.lists.fresh } : StreamState).Flushed :=
    ⟨hflushed.entries, hflushed.filterDecisions⟩
  have hgathered' : ({ s with lists := s.lists.fresh } : StreamState).gathered = base.onto a :=
    hgathered
  unfold streamAttempt
  generalize ({ s with lists := s.lists.fresh } : StreamState) = s₀ at *
  cases hopened : observation.opened with
  | none =>
    dsimp only
    have hcovered : (scanner.attemptDirectory queued observation s₀.lists).map
        s₀.sink.emitted.onto =
          (scanner.attemptDirectory queued observation a).map base.onto := by
      rw [← attemptDirectory_onto, ← attemptDirectory_onto]
      exact congrArg _ hgathered'
    obtain ⟨covered, heq, hentries, hdecisions, -, hchanged⟩ :=
      @attemptDirectory_unlisted scanner queued observation (.inl hopened) s₀.lists
    rw [heq] at hcovered ⊢
    cases hattempted : scanner.attemptDirectory queued observation a with
    | error code =>
      rw [hattempted] at hcovered
      cases hcovered
    | ok a' =>
      rw [hattempted] at hcovered
      have hsame : s₀.lists.changed = a.changed := (congrArg Attempt.changed hgathered' :)
      refine .ok ⟨{ counted := ⟨hcounted'.entries, hcounted'.bytes, hcounted'.filterDecisions,
                      hcounted'.batches, hcounted'.ordinals⟩
                    flushed := ⟨hentries.trans hflushed'.entries,
                      hdecisions.trans hflushed'.filterDecisions⟩
                    rescans := rfl
                    unopened := fun _ => hchanged.trans (hsame.trans hblank.2)
                    opened := fun c hc => by cases hc }, Except.ok.inj hcovered⟩
  | some before =>
    dsimp only
    have hwithin : Within s₀.checkpoint.2 s₀.checkpoint.2 :=
      ⟨⟨hcounted'.entries, hcounted'.bytes, hcounted'.filterDecisions, hcounted'.batches,
        hcounted'.ordinals⟩, rfl, rfl⟩
    have hopen := @streamOpened_agrees _ _ scanner base a queued observation before hopened hwithin
      ⟨hflushed'.entries, hflushed'.filterDecisions⟩ hgathered' hblank.1
    rw [← bind_pure (scanner.attemptDirectory queued observation a)]
    refine hopen.bind ?_
    rintro s a ⟨hs, hflushed, hgathered⟩
    refine .ok ⟨{ counted := hs.counted, flushed := hflushed, rescans := hs.rescans
                  unopened := fun h => by cases h
                  opened := ?_ }, hgathered⟩
    rintro c hc
    cases hc
    exact ⟨rfl, hs.savepoints⟩

theorem take_onto {α : Type} {held now base added : List α} (hheld : [] ++ held = base ++ [])
    (hnow : [] ++ now = base ++ added) : now.take held.length = held := by
  rw [List.nil_append] at hheld hnow
  rw [List.append_nil] at hheld
  rw [hnow, hheld, List.take_left]

variable {checkpoint : Option ScanCheckpoint}

theorem AttemptEnd.rollback {c : ScanCheckpoint} {start : Attempt} (h : AttemptEnd s₀ checkpoint s)
    (hc : checkpoint = some c) (hflushed : s₀.Flushed) (hblank : start.Blank)
    (hstart : s₀.gathered = base.onto start) (hgathered : s.gathered = base.onto a) :
    (s.rollback c).lists = s₀.lists ∧ (s.rollback c).sink.batches = s₀.sink.batches ∧
      (s.rollback c).sink.batchCount = s₀.sink.batchCount := by
  obtain ⟨rfl, hsavepoints⟩ := h.opened c hc
  obtain ⟨reportedErrors, examinedEntries, controlAreaExcluded, rfl⟩ := hblank
  have hfrom : s.sink.savepointsFrom s₀.checkpoint.1.sink = s₀.checkpoint.2.sink.savepoints := by
    unfold BatchSink.savepointsFrom
    rw [hsavepoints]
    simp [StreamState.checkpoint, BatchSink.checkpoint]
  refine ⟨Attempt.ext ?_ ?_ ?_ ?_ ?_ ?_ rfl rfl rfl ?_ ?_ ?_, ?_, rfl⟩
  · show s.lists.entries.take s₀.lists.entries.length = s₀.lists.entries
    rw [hflushed.entries]
    rfl
  · exact take_onto (congrArg Attempt.coverage hstart) (congrArg Attempt.coverage hgathered)
  · exact take_onto (congrArg Attempt.issues hstart) (congrArg Attempt.issues hgathered)
  · show s.lists.filterDecisions.take s₀.lists.filterDecisions.length = s₀.lists.filterDecisions
    rw [hflushed.filterDecisions]
    rfl
  · exact take_onto (congrArg Attempt.subjects hstart) (congrArg Attempt.subjects hgathered)
  · exact take_onto (congrArg Attempt.queued hstart) (congrArg Attempt.queued hgathered)
  · exact (congrArg Attempt.filterIncomplete hstart).symm
  · exact (congrArg Attempt.limitHit hstart).symm
  · exact (congrArg Attempt.changed hstart).symm
  · simp only [StreamState.rollback, BatchSink.rollback, hfrom]
    rfl

theorem AttemptEnd.accept (h : AttemptEnd s₀ checkpoint s) :
    (s.accept checkpoint).Counted ∧ (s.accept checkpoint).Flushed ∧
      (s.accept checkpoint).gathered = s.gathered ∧
      (s.accept checkpoint).rescanAttemptCount = s₀.rescanAttemptCount := by
  cases checkpoint with
  | none => exact ⟨h.counted, h.flushed, rfl, h.rescans⟩
  | some c =>
    exact ⟨⟨h.counted.entries, h.counted.bytes, h.counted.filterDecisions, h.counted.batches,
      h.counted.ordinals⟩, ⟨h.flushed.entries, h.flushed.filterDecisions⟩, rfl, h.rescans⟩

variable {observations : Observations}

/-- The state after the visit of one directory. -/
structure Visited (base : Attempt) (s : StreamState) (queued : QueuedDirectory) (s' : StreamState)
    (visit : Visit) : Prop where
  counted : s'.Counted
  flushed : s'.Flushed
  gathered : s'.gathered = base.onto visit.added
  rescans : s'.rescanAttemptCount + queued.rescanAttempt =
    s.rescanAttemptCount + visit.directory.rescanAttempt
  unvisited : ∀ directory ∈ visit.added.queued, directory.rescanAttempt = 0

theorem streamDirectory_agrees {start : Attempt} (hblank : start.Blank) {rescans : Nat}
    (hcounted : s.Counted) (hflushed : s.Flushed) (hgathered : s.gathered.fresh = base.onto start) :
    Agrees (Visited base s queued) (scanner.streamDirectory observations rescans queued s)
      (scanner.visitDirectory observations start rescans queued) := by
  have hflags : start.limitHit = false ∧ start.changed = false := by
    obtain ⟨_, _, _, rfl⟩ := hblank
    exact ⟨rfl, rfl⟩
  have hnone : ∀ directory ∈ start.queued, directory.rescanAttempt = 0 := by
    obtain ⟨_, _, _, rfl⟩ := hblank
    exact fun _ hmem => (List.not_mem_nil hmem).elim
  induction rescans generalizing queued s with
  | zero =>
    unfold streamDirectory visitDirectory
    refine (streamAttempt_agrees hcounted hflushed hgathered hflags).attach.bind ?_
    rintro ⟨checkpoint, s'⟩ added ⟨⟨hend, hadded⟩, -, hattempted⟩
    obtain ⟨hcounted', hflushed', hsame, hrescans⟩ := hend.accept
    exact .ok ⟨hcounted', hflushed', hsame.trans hadded,
      congrArg (· + queued.rescanAttempt) hrescans, attemptDirectory_queued hattempted hnone⟩
  | succ rescans ih =>
    unfold streamDirectory visitDirectory
    refine (streamAttempt_agrees hcounted hflushed hgathered hflags).attach.bind ?_
    rintro ⟨checkpoint, s'⟩ added ⟨⟨hend, hadded⟩, -, hattempted⟩
    have hchanged : s'.lists.changed = added.changed := (congrArg Attempt.changed hadded :)
    have haccepted : Agrees (Visited base s queued)
        (.ok (s'.accept checkpoint) : Except String StreamState) (.ok ⟨queued, added⟩) := by
      obtain ⟨hcounted', hflushed', hsame, hrescans⟩ := hend.accept
      exact .ok ⟨hcounted', hflushed', hsame.trans hadded,
        congrArg (· + queued.rescanAttempt) hrescans, attemptDirectory_queued hattempted hnone⟩
    dsimp only at hend hadded ⊢
    rw [← hchanged]
    cases checkpoint with
    | none =>
      rw [hend.unopened rfl, if_neg Bool.false_ne_true]
      exact haccepted
    | some c =>
      cases hflag : s'.lists.changed with
      | false =>
        rw [if_neg Bool.false_ne_true]
        exact haccepted
      | true =>
        rw [if_pos rfl]
        obtain ⟨hlists, hbatches, hcount⟩ := hend.rollback rfl
          ⟨hflushed.entries, hflushed.filterDecisions⟩ hblank hgathered hadded
        have hemitted : (s'.rollback c).sink.emitted = s.sink.emitted := by
          unfold BatchSink.emitted
          rw [hbatches]
        obtain ⟨rfl, -⟩ := hend.opened c rfl
        have hstored : (s'.rollback _).Counted :=
          { entries := by
              rw [hemitted]
              exact hcounted.entries
            bytes := by
              rw [hemitted]
              exact hcounted.bytes
            filterDecisions := by
              rw [hemitted]
              exact hcounted.filterDecisions
            batches := hcount.trans (hcounted.batches.trans (congrArg _ hbatches.symm))
            ordinals := by
              rw [hbatches]
              exact hcounted.ordinals }
        refine (ih hstored ⟨?_, ?_⟩ ?_).mono fun s'' visit h => ?_
        · rw [hlists]
          exact hflushed.entries
        · rw [hlists]
          exact hflushed.filterDecisions
        · unfold StreamState.gathered
          rw [hlists, hemitted]
          exact hgathered
        · have hfirst : s'.rescanAttemptCount = s.rescanAttemptCount := hend.rescans
          have hlater : s''.rescanAttemptCount + (queued.rescanAttempt + 1) =
            s'.rescanAttemptCount + 1 + visit.directory.rescanAttempt := h.rescans
          exact ⟨h.counted, h.flushed, h.gathered, by omega, h.unvisited⟩

def Walk.gathered (walk : Walk) : Attempt where
  entries := walk.entries
  coverage := walk.coverage
  issues := walk.issues
  filterDecisions := walk.filterDecisions
  subjects := walk.visits.flatMap fun visit => visit.added.subjects
  queued := walk.queue
  reportedErrors := walk.reportedErrors
  examinedEntries := walk.examinedEntries
  controlAreaExcluded := walk.controlAreaExcluded

def Walk.popped (walk : Walk) : Attempt := { walk.gathered with queued := walk.queue.tail }

theorem Walk.gathered_after (walk : Walk) (visit : Visit) :
    (walk.after visit).gathered = (walk.popped.onto visit.added).fresh := by
  simp only [gathered, popped, after, Attempt.onto, Attempt.fresh, entries, coverage, issues,
    filterDecisions, List.flatMap_append, List.flatMap_cons, List.flatMap_nil, List.append_nil]

theorem Walk.popped_start (walk : Walk) :
    walk.popped.onto walk.start = walk.popped := by
  simp only [popped, gathered, Attempt.onto, start, List.append_nil]

/-- The state has streamed what the walk has gathered. -/
structure Walk.Streamed (walk : Walk) (s : StreamState) : Prop where
  counted : s.Counted
  flushed : s.Flushed
  gathered : s.gathered.fresh = walk.gathered
  rescans : s.rescanAttemptCount = walk.rescanAttemptCount
  queue : ∀ directory ∈ walk.queue, directory.rescanAttempt = 0

theorem Walk.rescanAttemptCount_after (walk : Walk) (visit : Visit) :
    (walk.after visit).rescanAttemptCount =
      walk.rescanAttemptCount + visit.directory.rescanAttempt := by
  simp only [rescanAttemptCount, after, List.map_append, List.map_cons, List.map_nil,
    List.sum_append, List.sum_cons, List.sum_nil, Nat.add_zero]

variable {walk : Walk}

theorem Walk.Streamed.pop {rest : List QueuedDirectory} (h : walk.Streamed s)
    (hqueue : walk.queue = queued :: rest) :
    (s.withQueue rest).Counted ∧ (s.withQueue rest).Flushed ∧
      (s.withQueue rest).gathered.fresh = walk.popped.onto walk.start := by
  refine ⟨⟨h.counted.entries, h.counted.bytes, h.counted.filterDecisions, h.counted.batches,
    h.counted.ordinals⟩, ⟨h.flushed.entries, h.flushed.filterDecisions⟩, ?_⟩
  rw [popped_start]
  unfold popped
  rw [hqueue, ← h.gathered]
  rfl

theorem Walk.Streamed.after {s' : StreamState} {visit : Visit} (h : walk.Streamed s)
    (hcounted : s'.Counted) (hflushed : s'.Flushed)
    (hgathered : s'.gathered.fresh = (walk.popped.onto visit.added).fresh)
    (hrescans : s'.rescanAttemptCount = s.rescanAttemptCount + visit.directory.rescanAttempt)
    (hunvisited : ∀ directory ∈ visit.added.queued, directory.rescanAttempt = 0) :
    (walk.after visit).Streamed s' where
  counted := hcounted
  flushed := hflushed
  gathered := hgathered.trans (walk.gathered_after visit).symm
  rescans := by rw [walk.rescanAttemptCount_after, hrescans, h.rescans]
  queue directory hmem := by
    rcases List.mem_append.mp hmem with hold | hnew
    · exact h.queue directory (List.mem_of_mem_tail hold)
    · exact hunvisited directory hnew

theorem streamQueue_agrees {directories : Nat} (h : walk.Streamed s) :
    Agrees (fun s walk => walk.Streamed s) (scanner.streamQueue observations directories s)
      (scanner.scanQueue observations directories walk) := by
  induction directories generalizing s walk with
  | zero =>
    have hsame : s.lists.queued = walk.queue := (congrArg Attempt.queued h.gathered :)
    unfold streamQueue scanQueue
    rw [hsame]
    cases hqueue : walk.queue with
    | nil => exact .ok h
    | cons queued rest =>
      obtain ⟨hcounted, hflushed, hpopped⟩ := h.pop hqueue
      refine .ok (h.after ?_ ⟨hflushed.entries, hflushed.filterDecisions⟩ ?_ ?_ ?_)
      · exact ⟨hcounted.entries, hcounted.bytes, hcounted.filterDecisions, hcounted.batches,
          hcounted.ordinals⟩
      · show (s.sink.emitted.onto (Attempt.limitBlock _ _ _)).fresh = _
        rw [← Attempt.onto_limitBlock, ← Attempt.onto_limitBlock, ← hpopped]
        rfl
      · show s.rescanAttemptCount = s.rescanAttemptCount + queued.rescanAttempt
        rw [h.queue queued (hqueue ▸ List.mem_cons_self), Nat.add_zero]
      · exact fun _ hmem => (List.not_mem_nil hmem).elim
  | succ directories ih =>
    have hsame : s.lists.queued = walk.queue := (congrArg Attempt.queued h.gathered :)
    unfold streamQueue scanQueue
    rw [hsame]
    cases hqueue : walk.queue with
    | nil => exact .ok h
    | cons queued rest =>
      obtain ⟨hcounted, hflushed, hpopped⟩ := h.pop hqueue
      refine (streamDirectory_agrees ⟨_, _, _, rfl⟩ hcounted hflushed hpopped).bind
        fun s' visit hvisited => ?_
      have hrescans : s'.rescanAttemptCount + queued.rescanAttempt =
        s.rescanAttemptCount + visit.directory.rescanAttempt := hvisited.rescans
      rw [h.queue queued (hqueue ▸ List.mem_cons_self), Nat.add_zero] at hrescans
      have hafter : (walk.after visit).Streamed s' := h.after hvisited.counted hvisited.flushed
        (congrArg Attempt.fresh hvisited.gathered) hrescans hvisited.unvisited
      have hlimit : s'.lists.limitHit = visit.added.limitHit :=
        (congrArg Attempt.limitHit hvisited.gathered :)
      rw [hlimit]
      cases visit.added.limitHit with
      | true => exact .ok hafter
      | false => exact ih hafter

theorem Walk.Streamed.start : Walk.Streamed { queue := [⟨".", ".", 0⟩] } streamStart where
  counted := ⟨rfl, rfl, rfl, rfl, rfl⟩
  flushed := ⟨rfl, rfl⟩
  gathered := rfl
  rescans := rfl
  queue directory hmem := by rw [List.mem_singleton.mp hmem]

/-- The batches hold what the buffered scan holds. -/
structure SameScan (streamed : StreamedScan × List ScanBatch)
    (buffered : FilesystemSnapshotScan) : Prop where
  snapshotId : streamed.1.snapshotId = buffered.snapshotId
  entries : streamed.2.flatMap ScanBatch.entries = buffered.entries
  filterDecisions : streamed.2.flatMap ScanBatch.filterDecisions = buffered.filterDecisions
  nothingLeft : streamed.1.entries = [] ∧ streamed.1.filterDecisions = []
  coverage : streamed.1.coverage = buffered.coverage
  issues : streamed.1.issues = buffered.issues
  controlAreaExcluded : streamed.1.controlAreaExcluded = buffered.controlAreaExcluded
  rescanAttemptCount : streamed.1.rescanAttemptCount = buffered.rescanAttemptCount
  entryCount : streamed.1.entryCount = buffered.entries.length
  totalBytes : streamed.1.totalBytes = byteSum buffered.entries
  filterDecisionCount : streamed.1.filterDecisionCount = buffered.filterDecisions.length
  batchCount : streamed.1.streamedBatchCount = streamed.2.length
  ordinals : streamed.2.map ScanBatch.sequenceNo = List.range streamed.2.length

/-- Without empty-directory rules the streaming scan and the buffered scan fail alike, or agree in
entries, order, coverage, issues and counters. -/
theorem streaming_scan (scanner : SnapshotScanner) (observations : Observations)
    (hrules : scanner.policy.hasEmptyDirectoryRules = false) :
    Agrees SameScan (scanner.scanStreaming observations) (scanner.scan observations) := by
  unfold scanStreaming scan
  rw [hrules, if_neg Bool.false_ne_true]
  have hfinish : ∀ walk : Walk, scanner.finish walk =
      { snapshotId := scanner.snapshotId
        entries := walk.entries
        coverage := walk.coverage
        issues := walk.issues
        controlAreaExcluded := walk.controlAreaExcluded
        filterDecisions := walk.filterDecisions
        rescanAttemptCount := walk.rescanAttemptCount } := by
    intro walk
    unfold finish
    rw [hrules, if_neg Bool.false_ne_true]
  -- the queues agree, and what was flushed last leaves the lists empty
  refine Agrees.map (streamQueue_agrees Walk.Streamed.start) fun s walk h => ?_
  rw [hfinish]
  have hentries : s.sink.emitted.entries = walk.entries := by
    have hall : s.sink.emitted.entries ++ s.lists.entries = walk.entries :=
      congrArg Attempt.entries h.gathered
    rw [← hall, h.flushed.entries, List.append_nil]
  have hdecisions : s.sink.emitted.filterDecisions = walk.filterDecisions := by
    have hall : s.sink.emitted.filterDecisions ++ s.lists.filterDecisions =
      walk.filterDecisions := congrArg Attempt.filterDecisions h.gathered
    rw [← hall, h.flushed.filterDecisions, List.append_nil]
  exact
    { snapshotId := rfl
      entries := hentries
      filterDecisions := hdecisions
      nothingLeft := ⟨h.flushed.entries, h.flushed.filterDecisions⟩
      coverage := (congrArg Attempt.coverage h.gathered :)
      issues := (congrArg Attempt.issues h.gathered :)
      controlAreaExcluded := (congrArg Attempt.controlAreaExcluded h.gathered :)
      rescanAttemptCount := h.rescans
      entryCount := by
        show s.streamedEntryCount + s.lists.entries.length = walk.entries.length
        rw [h.counted.entries, h.flushed.entries, hentries]
        rfl
      totalBytes := by
        show s.streamedTotalBytes + byteSum s.lists.entries = byteSum walk.entries
        rw [h.counted.bytes, ← byteSum_append, h.flushed.entries, List.append_nil, hentries]
      filterDecisionCount := by
        show s.streamedFilterDecisionCount + s.lists.filterDecisions.length =
          walk.filterDecisions.length
        rw [h.counted.filterDecisions, h.flushed.filterDecisions, hdecisions]
        rfl
      batchCount := h.counted.batches
      ordinals := h.counted.ordinals }

def changingRoot : Observations := fun _ attempt =>
  { before := some ⟨true, false, none, none⟩
    caseContext := ⟨"CASE_SENSITIVE", "POSIX_CASE_SENSITIVE_DEFAULT_V1", none⟩
    signatureBefore := some ⟨1, 1, attempt, 0⟩
    listing := some
      ⟨[⟨⟨"a.jpg", by decide, by decide, by decide, by decide⟩, some .file,
        some { mode := .regular, sizeBytes := 7, birthtimeNs := some 0 }⟩], by decide⟩
    signatureAfter := some ⟨1, 1, 1, 0⟩
    after := some ⟨true, false, none, none⟩ }

def plainScanner : SnapshotScanner where
  snapshotId := "snapshot-1"
  excludeControlArea := true
  policy := { rules := [], ruleIds_unique := List.nodup_nil }
  host := ⟨id, fun _ _ _ => .unmatched⟩
  namedStreamPolicy := .blockIfPresentOrUnconfirmed
  maxEntries := 1000000
  maxDirectories := 250000
  maxVolatileRescans := 2

theorem streaming_scan_changingRoot :
    ∃ streamed buffered, plainScanner.scanStreaming changingRoot = .ok streamed ∧
      plainScanner.scan changingRoot = .ok buffered ∧ SameScan streamed buffered ∧
        buffered.rescanAttemptCount = 1 ∧ buffered.entries.length = 1 := by
  have hbuffered : (plainScanner.scan changingRoot).toOption.any (fun buffered =>
      buffered.rescanAttemptCount == 1 && buffered.entries.length == 1) = true := by
    decide +kernel
  have hsame := (streaming_scan plainScanner changingRoot (by decide)).attach
  cases hscan : plainScanner.scan changingRoot with
  | error code =>
    rw [hscan] at hbuffered
    cases hbuffered
  | ok buffered =>
    rw [hscan] at hbuffered hsame
    have hcounts : buffered.rescanAttemptCount = 1 ∧ buffered.entries.length = 1 := by
      obtain ⟨hrescans, hentries⟩ := (Bool.and_eq_true _ _).mp hbuffered
      exact ⟨eq_of_beq hrescans, eq_of_beq hentries⟩
    cases hstreamed : plainScanner.scanStreaming changingRoot with
    | error code =>
      rw [hstreamed] at hsame
      cases hsame
    | ok streamed =>
      rw [hstreamed] at hsame
      cases hsame with
      | ok h => exact ⟨streamed, buffered, rfl, rfl, h.1, hcounts⟩

end SnapshotScanner

end MediaSync.Snapshots
