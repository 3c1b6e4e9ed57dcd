import MediaSync.Snapshots.Scanner

/-! Every directory is visited at most once, every directory that is found is visited or still
queued, and a directory that could not be enumerated is marked in the records of its visit. -/
namespace MediaSync.Snapshots

/-- What examining children has added to an attempt. -/
structure Attempt.Adds (a a' : Attempt) (entries : List SnapshotFileEntry)
    (subjects : List FileFilterSubject) (queued : List QueuedDirectory) : Prop where
  entries : a'.entries = a.entries ++ entries
  subjects : a'.subjects = a.subjects ++ subjects
  queued : a'.queued = a.queued ++ queued
  issues : a.issues ⊆ a'.issues
  filterIncomplete : a.filterIncomplete = true → a'.filterIncomplete = true
  limitHit : a'.limitHit = a.limitHit

namespace Attempt.Adds

variable {a b c : Attempt} {entries entries' : List SnapshotFileEntry}
  {subjects subjects' : List FileFilterSubject} {queued queued' : List QueuedDirectory}

theorem refl : a.Adds a [] [] [] := by
  constructor <;> simp

theorem trans (hab : a.Adds b entries subjects queued) (hbc : b.Adds c entries' subjects' queued') :
    a.Adds c (entries ++ entries') (subjects ++ subjects') (queued ++ queued') where
  entries := by rw [hbc.entries, hab.entries, List.append_assoc]
  subjects := by rw [hbc.subjects, hab.subjects, List.append_assoc]
  queued := by rw [hbc.queued, hab.queued, List.append_assoc]
  issues := fun _ h => hbc.issues (hab.issues h)
  filterIncomplete := fun h => hbc.filterIncomplete (hab.filterIncomplete h)
  limitHit := hbc.limitHit.trans hab.limitHit

theorem withIssue (issue : SnapshotIssue) : a.Adds (a.withIssue issue) [] [] [] := by
  constructor <;> simp [Attempt.withIssue]

theorem withCoverage (item : SnapshotDirectoryCoverage) :
    a.Adds (a.withCoverage item) [] [] [] := by
  constructor <;> simp [Attempt.withCoverage]

theorem withEntry (entry : SnapshotFileEntry) : a.Adds (a.withEntry entry) [entry] [] [] := by
  constructor <;> simp [Attempt.withEntry]

theorem withNamedStreams (policy : NamedStreamPolicy) (path : String) (objectType : ObjectType)
    (inspection : NamedStreamInspection) :
    a.Adds (a.withNamedStreams policy path objectType inspection) [] [] [] := by
  unfold Attempt.withNamedStreams
  split
  · exact refl
  · exact withIssue _

theorem withDecision (path : String) (objectType : ObjectType) (stage : String)
    (decision : FileFilterDecision) :
    a.Adds (a.withDecision path objectType stage decision) [] [] [] := by
  constructor <;> simp [Attempt.withDecision]

theorem withFilterError (path : String) (decision : FileFilterDecision) :
    a.Adds (a.withFilterError path decision) [] [] [] := by
  constructor <;> simp [Attempt.withFilterError]

end Attempt.Adds

/-- What is recorded for one child: nothing, an object, or a directory to be visited. -/
inductive Recorded (path : String) :
    List SnapshotFileEntry → List FileFilterSubject → List QueuedDirectory → Prop where
  | nothing : Recorded path [] [] []
  | object (entry : SnapshotFileEntry) (hpath : entry.relativePath = path)
      (htype : entry.objectType ≠ "directory") : Recorded path [entry] [] []
  | directory (entry : SnapshotFileEntry) (subject : FileFilterSubject) (key : String)
      (hpath : entry.relativePath = path) (htype : entry.objectType = "directory")
      (hsubject : subject.relativePath = path) : Recorded path [entry] [subject] [⟨path, key, 0⟩]

theorem FileFilterSubject.validated_ok {subject subject' : FileFilterSubject}
    (h : subject.validated = .ok subject') : subject' = subject := by
  unfold validated at h
  simp only at h
  split at h
  · cases h
  · split at h
    · cases h
    · split at h
      · cases h
      · exact (Except.ok.inj h).symm

namespace SnapshotScanner

variable (scanner : SnapshotScanner)

def ChildRead (queued : QueuedDirectory) (child : ChildObservation) : Prop :=
  scanner.isControlArea queued child = true ∨
    child.objectType.isSome = true ∧ ∃ stat, child.stat = some stat ∧
      (scanner.policy.evaluate scanner.host (.walk queued.rescanAttempt)
        (childSubject (childRelativePath queued.relativePath child.name.text) stat)).errorCode =
          none

def ChildMarked (path : String) (a : Attempt) : Prop :=
  a.filterIncomplete = true ∨
    ∃ issue ∈ a.issues, issue.blocksDestructiveActions = true ∧ issue.relativePath = path

variable {scanner}

variable {a a' : Attempt}

theorem ChildMarked.adds {path : String} {entries : List SnapshotFileEntry}
    {subjects : List FileFilterSubject} {queued : List QueuedDirectory} (h : ChildMarked path a)
    (hadds : a.Adds a' entries subjects queued) : ChildMarked path a' := by
  cases h with
  | inl h => exact .inl (hadds.filterIncomplete h)
  | inr h =>
    obtain ⟨issue, hmem, hissue⟩ := h
    exact .inr ⟨issue, hadds.issues hmem, hissue⟩

theorem recordChild_recorded (scanner : SnapshotScanner) (key : String)
    (subject : FileFilterSubject) (stat : ChildStat)
    (a : Attempt) :
    ∃ entries subjects queued,
      a.Adds (scanner.recordChild key subject stat a) entries subjects queued ∧
        Recorded subject.relativePath entries subjects queued := by
  have hbirth : ∀ a : Attempt, a.Adds
      (if (birthtime stat).isNone then
        a.withIssue (scanIssue subject.relativePath "BIRTHTIME_UNAVAILABLE"
          "SNAPSHOT_BIRTHTIME_UNAVAILABLE")
      else a) [] [] [] := by
    intro a
    split
    · exact .withIssue _
    · exact .refl
  unfold recordChild
  cases subject.objectType with
  | reparse =>
    refine ⟨_, _, _, ?_, .object (scanner.entry subject.relativePath key "reparse" none none none)
      rfl (show "reparse" ≠ "directory" by decide)⟩
    simp only
    split
    · exact ((Attempt.Adds.withEntry _).trans (.withIssue _)).trans (.withCoverage _)
    · exact (Attempt.Adds.withEntry _).trans (.withIssue _)
  | file =>
    exact ⟨_, _, _, ((hbirth a).trans (.withNamedStreams _ _ _ _)).trans (.withEntry _),
      .object _ rfl (show "file" ≠ "directory" by decide)⟩
  | other =>
    exact ⟨_, _, _, ((hbirth a).trans (.withEntry _)).trans (.withIssue _),
      .object _ rfl (show "other" ≠ "directory" by decide)⟩
  | directory =>
    have hadds := hbirth a
    refine ⟨_, _, _, ⟨?_, ?_, ?_, ?_, ?_, ?_⟩, .directory
      (scanner.entry subject.relativePath key "directory" none (birthtime stat) none)
      subject key rfl rfl rfl⟩
    · simpa [Attempt.withEntry] using hadds.entries
    · simpa [Attempt.withEntry] using hadds.subjects
    · simpa [Attempt.withEntry] using hadds.queued
    · exact hadds.issues
    · exact hadds.filterIncomplete
    · exact hadds.limitHit

theorem evaluateMetadata_adds (hrules : scanner.policy.hasEmptyDirectoryRules = true)
    (queued : QueuedDirectory) (subject : FileFilterSubject) (a : Attempt) :
    a.Adds (scanner.evaluateMetadata queued subject a).1 [] [] [] ∧
      ((scanner.policy.evaluate scanner.host
        (.walk queued.rescanAttempt) subject).errorCode ≠ none →
        (scanner.evaluateMetadata queued subject a).2 = false ∧
          (scanner.evaluateMetadata queued subject a).1.filterIncomplete = true) := by
  have hdecision : ∀ decision : FileFilterDecision, a.Adds
      (if (subject.objectType = .directory && scanner.policy.hasEmptyDirectoryRules) = true then a
      else a.withDecision subject.relativePath subject.objectType "METADATA" decision)
        [] [] [] := by
    intro decision
    split
    · exact .refl
    · exact .withDecision _ _ _ _
  unfold evaluateMetadata
  simp only [FileFilterPolicy.not_before_metadata _ hrules, Bool.false_eq_true, if_false]
  split
  · exact ⟨(hdecision _).trans (.withFilterError _ _), fun _ => ⟨rfl, rfl⟩⟩
  · rename_i hnone
    exact ⟨hdecision _, fun herror => absurd (Option.isSome_iff_ne_none.mpr herror) hnone⟩

variable {queued : QueuedDirectory} {context : DirectoryCaseContext}

theorem examineChild_recorded (hrules : scanner.policy.hasEmptyDirectoryRules = true)
    {child : ChildObservation} {objectType : ObjectType}
    (htype : child.objectType = some objectType)
    (h : scanner.examineChild queued context child objectType a = .ok a') :
    ∃ entries subjects directories, a.Adds a' entries subjects directories ∧
      Recorded
        (childRelativePath queued.relativePath child.name.text) entries subjects directories ∧
        (scanner.ChildRead queued child ∨ entries = [] ∧
          ChildMarked (childRelativePath queued.relativePath child.name.text) a') := by
  simp only [examineChild, evaluateBeforeMetadata, FileFilterPolicy.not_before_metadata _ hrules,
    Bool.not_false, if_true, Except.bind, bind, Bool.not_true, Bool.false_eq_true, if_false] at h
  cases hstat : child.stat with
  | none =>
    rw [hstat] at h
    obtain rfl := Except.ok.inj h
    exact ⟨_, _, _, .withIssue _, .nothing,
      .inr ⟨rfl, .inr ⟨_, List.mem_append_right _ (List.mem_singleton_self _), rfl, rfl⟩⟩⟩
  | some stat =>
    rw [hstat] at h
    simp only at h
    cases hvalid : (childSubject (childRelativePath queued.relativePath child.name.text)
        stat).validated with
    | error code =>
      rw [hvalid] at h
      cases h
    | ok subject =>
      rw [hvalid] at h
      have hsubject := FileFilterSubject.validated_ok hvalid
      obtain ⟨hadds, herror⟩ := evaluateMetadata_adds hrules queued subject a
      simp only at h
      by_cases hread : (scanner.policy.evaluate scanner.host (.walk queued.rescanAttempt)
          subject).errorCode = none
      · -- the rules were evaluated: the child is excluded, or recorded
        have hchild : scanner.ChildRead queued child :=
          .inr ⟨by rw [htype]; rfl, stat, hstat, hsubject ▸ hread⟩
        cases hproceed : (scanner.evaluateMetadata queued subject a).2 with
        | false =>
          rw [hproceed] at h
          obtain rfl := Except.ok.inj h
          exact ⟨_, _, _, hadds, .nothing, .inl hchild⟩
        | true =>
          rw [hproceed] at h
          obtain rfl := Except.ok.inj h
          obtain ⟨entries, subjects, directories, hrecord, hrecorded⟩ :=
            recordChild_recorded scanner
              (scanner.childComparisonKey queued.comparisonKey child.name.text context.caseMode)
              subject stat (scanner.evaluateMetadata queued subject a).1
          refine ⟨entries, subjects, directories, hadds.trans hrecord, ?_, .inl hchild⟩
          rw [hsubject] at hrecorded
          exact hrecorded
      · obtain ⟨hproceed, hincomplete⟩ := herror hread
        rw [hproceed] at h
        obtain rfl := Except.ok.inj h
        exact ⟨_, _, _, hadds, .nothing, .inr ⟨rfl, .inl hincomplete⟩⟩

/-- The entries and directories are those of the children seen so far. -/
structure Progress (scanner : SnapshotScanner) (queued : QueuedDirectory)
    (seen : List ChildObservation) (a : Attempt) : Prop where
  entry_seen : ∀ entry ∈ a.entries, ∃ child ∈ seen,
    entry.relativePath = childRelativePath queued.relativePath child.name.text
  directory_queued : ∀ entry ∈ a.entries, entry.objectType = "directory" →
    (∃ subject ∈ a.subjects, subject.relativePath = entry.relativePath) ∧
      ∃ directory ∈ a.queued, directory.relativePath = entry.relativePath
  queued_found : ∀ directory ∈ a.queued, ∃ entry ∈ a.entries,
    entry.objectType = "directory" ∧ entry.relativePath = directory.relativePath
  queued_once : (a.queued.map QueuedDirectory.relativePath).Nodup
  unread_marked : ∀ child ∈ seen, ¬ scanner.ChildRead queued child →
    ChildMarked (childRelativePath queued.relativePath child.name.text) a ∧
      ∀ entry ∈ a.entries,
        entry.relativePath ≠ childRelativePath queued.relativePath child.name.text

namespace Progress

variable {queued : QueuedDirectory} {seen : List ChildObservation} {a a' : Attempt}

theorem nothing (h : a.entries = [] ∧ a.subjects = [] ∧ a.queued = []) :
    Progress scanner queued [] a where
  entry_seen := by simp [h.1]
  directory_queued := by simp [h.1]
  queued_found := by simp [h.2.2]
  queued_once := by simp [h.2.2]
  unread_marked := by simp

theorem adds (h : Progress scanner queued seen a) (hadds : a.Adds a' [] [] []) :
    Progress scanner queued seen a' := by
  have hentries : a'.entries = a.entries := by simpa using hadds.entries
  have hsubjects : a'.subjects = a.subjects := by simpa using hadds.subjects
  have hqueued : a'.queued = a.queued := by simpa using hadds.queued
  refine ⟨?_, ?_, ?_, ?_, ?_⟩
  · rw [hentries]
    exact h.entry_seen
  · rw [hentries, hsubjects, hqueued]
    exact h.directory_queued
  · rw [hentries, hqueued]
    exact h.queued_found
  · rw [hqueued]
    exact h.queued_once
  · rw [hentries]
    exact fun child hchild hread =>
      ⟨(h.unread_marked child hchild hread).1.adds hadds, (h.unread_marked child hchild hread).2⟩

theorem child (h : Progress scanner queued seen a) {child : ChildObservation}
    (hfresh : child.name.text ∉ seen.map fun child => child.name.text)
    {entries : List SnapshotFileEntry} {subjects : List FileFilterSubject}
    {directories : List QueuedDirectory} (hadds : a.Adds a' entries subjects directories)
    (hrecorded : Recorded (childRelativePath queued.relativePath child.name.text) entries subjects
      directories)
    (hread : scanner.ChildRead queued child ∨ entries = [] ∧
      ChildMarked (childRelativePath queued.relativePath child.name.text) a') :
    Progress scanner queued (seen ++ [child]) a' := by
  have hother : ∀ earlier ∈ seen, childRelativePath queued.relativePath earlier.name.text ≠
      childRelativePath queued.relativePath child.name.text := fun earlier hearlier hpath =>
    hfresh (List.mem_map.mpr
      ⟨earlier, hearlier, (childRelativePath_injective _ _ hpath).2⟩)
  have hpath : ∀ entry ∈ entries,
      entry.relativePath = childRelativePath queued.relativePath child.name.text := by
    intro entry hentry
    cases hrecorded with
    | nothing => exact absurd hentry List.not_mem_nil
    | object found hpath _ => exact List.mem_singleton.mp hentry ▸ hpath
    | directory found _ _ hpath _ _ => exact List.mem_singleton.mp hentry ▸ hpath
  refine ⟨?_, ?_, ?_, ?_, ?_⟩
  -- every entry has the path of a child that was seen
  · intro entry hentry
    rw [hadds.entries, List.mem_append] at hentry
    cases hentry with
    | inl hentry =>
      obtain ⟨earlier, hearlier, hpath⟩ := h.entry_seen entry hentry
      exact ⟨earlier, List.mem_append_left _ hearlier, hpath⟩
    | inr hentry =>
      exact ⟨child, List.mem_append_right _ (List.mem_singleton_self _), hpath entry hentry⟩
  -- a directory that was found is queued
  · intro entry hentry htype
    rw [hadds.subjects, hadds.queued]
    rw [hadds.entries, List.mem_append] at hentry
    cases hentry with
    | inl hentry =>
      obtain ⟨⟨subject, hsubject, hpath⟩, directory, hdirectory, hpath'⟩ :=
        h.directory_queued entry hentry htype
      exact ⟨⟨subject, List.mem_append_left _ hsubject, hpath⟩, directory,
        List.mem_append_left _ hdirectory, hpath'⟩
    | inr hentry =>
      have hentryPath := hpath entry hentry
      cases hrecorded with
      | nothing => exact absurd hentry List.not_mem_nil
      | object found _ hfile =>
        rw [List.mem_singleton.mp hentry] at htype
        exact absurd htype hfile
      | directory found subject key _ _ hsubject =>
        rw [hentryPath]
        exact ⟨⟨subject, by simp, hsubject⟩, _,
          List.mem_append_right _ (List.mem_singleton_self _), rfl⟩
  -- what is queued was found
  · intro directory hdirectory
    rw [hadds.entries]
    rw [hadds.queued, List.mem_append] at hdirectory
    cases hdirectory with
    | inl hdirectory =>
      obtain ⟨entry, hentry, hfound⟩ := h.queued_found directory hdirectory
      exact ⟨entry, List.mem_append_left _ hentry, hfound⟩
    | inr hdirectory =>
      cases hrecorded with
      | nothing => exact absurd hdirectory List.not_mem_nil
      | object found _ _ => exact absurd hdirectory List.not_mem_nil
      | directory found subject key hfound htype _ =>
        rw [List.mem_singleton.mp hdirectory]
        exact ⟨found, by simp, htype, hfound⟩
  · rw [hadds.queued, List.map_append, List.nodup_append]
    refine ⟨h.queued_once, ?_, ?_⟩
    · cases hrecorded <;> simp
    · -- an earlier directory has the path of an earlier child
      intro path hpath' _ hnew hsame
      subst hsame
      obtain ⟨directory, hdirectory, rfl⟩ := List.mem_map.mp hpath'
      obtain ⟨entry, hentry, -, hentryPath⟩ := h.queued_found directory hdirectory
      obtain ⟨earlier, hearlier, hearlierPath⟩ := h.entry_seen entry hentry
      cases hrecorded with
      | nothing => exact absurd hnew List.not_mem_nil
      | object found _ _ => exact absurd hnew List.not_mem_nil
      | directory found subject key _ _ _ =>
        refine hother earlier hearlier ?_
        rw [← hearlierPath, hentryPath]
        simpa using hnew
  -- a child that could not be read is marked and has no entry
  · intro earlier hearlier hunread
    rw [hadds.entries]
    rw [List.mem_append] at hearlier
    cases hearlier with
    | inl hearlier =>
      obtain ⟨hmarked, hentries⟩ := h.unread_marked earlier hearlier hunread
      refine ⟨hmarked.adds hadds, fun entry hentry => ?_⟩
      rw [List.mem_append] at hentry
      cases hentry with
      | inl hentry => exact hentries entry hentry
      | inr hentry =>
        rw [hpath entry hentry]
        exact (hother earlier hearlier).symm
    | inr hearlier =>
      obtain rfl := List.mem_singleton.mp hearlier
      obtain ⟨hnone, hmarked⟩ := hread.resolve_left hunread
      refine ⟨hmarked, fun entry hentry => ?_⟩
      rw [hnone, List.append_nil] at hentry
      obtain ⟨other, hmem, hentryPath⟩ := h.entry_seen entry hentry
      rw [hentryPath]
      exact hother other hmem

end Progress

theorem scanChildren_progress (hrules : scanner.policy.hasEmptyDirectoryRules = true) :
    ∀ (children seen : List ChildObservation) {a a' : Attempt},
      scanner.scanChildren queued context children a = .ok a' →
        Progress scanner queued seen a → a.limitHit = false →
          ((seen ++ children).map fun child => child.name.text).Nodup →
            ∃ seen', Progress scanner queued seen' a' ∧
              (a'.limitHit = false ∧ seen' = seen ++ children ∨
                a'.limitHit = true ∧ ∃ item ∈ a'.coverage,
                  item.relativePath = queued.relativePath ∧
                    item.coverageState ≠ completeCoverageState)
  | [], seen, a, a', h, hprogress, hlimit, _ => by
    obtain rfl := Except.ok.inj h
    exact ⟨seen, hprogress, .inl ⟨hlimit, (List.append_nil _).symm⟩⟩
  | child :: rest, seen, a, a', h, hprogress, hlimit, hnodup => by
    have hassoc : seen ++ child :: rest = (seen ++ [child]) ++ rest := by simp
    have hfresh : child.name.text ∉ seen.map fun child => child.name.text := by
      rw [List.map_append, List.nodup_append] at hnodup
      exact fun hmem => hnodup.2.2 _ hmem _ (by simp) rfl
    rw [hassoc] at hnodup ⊢
    unfold scanChildren at h
    by_cases hcontrol : scanner.isControlArea queued child = true
    · rw [if_pos hcontrol] at h
      refine scanChildren_progress hrules rest (seen ++ [child]) h ?_ hlimit hnodup
      exact hprogress.child hfresh (by constructor <;> simp) .nothing (.inl (.inl hcontrol))
    rw [if_neg hcontrol] at h
    by_cases hfull : scanner.maxEntries ≤ a.examinedEntries
    · rw [if_pos hfull] at h
      obtain rfl := Except.ok.inj h
      have hblocked := hprogress.adds ((Attempt.Adds.withCoverage
        (queued.limitCoverage "SNAPSHOT_ENTRY_LIMIT_EXCEEDED")).trans (.withIssue
          (scanIssue queued.relativePath "SCAN_LIMIT_EXCEEDED" "SNAPSHOT_ENTRY_LIMIT_EXCEEDED")))
      exact ⟨seen, ⟨hblocked.1, hblocked.2, hblocked.3, hblocked.4, hblocked.5⟩, .inr ⟨rfl, _,
        List.mem_append_right _ (List.mem_singleton_self _), rfl,
        show "CANCELLED" ≠ "COMPLETE" by decide⟩⟩
    rw [if_neg hfull] at h
    have hexamined : a.Adds { a with examinedEntries := a.examinedEntries + 1 } [] [] [] := by
      constructor <;> simp
    cases htype : child.objectType with
    | none =>
      rw [htype] at h
      refine scanChildren_progress hrules rest (seen ++ [child]) h ?_ hlimit hnodup
      exact hprogress.child hfresh (hexamined.trans (.withIssue _)) .nothing
        (.inr ⟨rfl, .inr ⟨_, List.mem_append_right _ (List.mem_singleton_self _), rfl, rfl⟩⟩)
    | some objectType =>
      rw [htype] at h
      simp only [bind, Except.bind] at h
      cases hexamine : scanner.examineChild queued context child objectType
          { a with examinedEntries := a.examinedEntries + 1 } with
      | error code =>
        rw [hexamine] at h
        cases h
      | ok b =>
        rw [hexamine] at h
        obtain ⟨entries, subjects, directories, hadds, hrecorded, hread⟩ :=
          examineChild_recorded hrules htype hexamine
        refine scanChildren_progress hrules rest (seen ++ [child]) h ?_ ?_ hnodup
        · exact hprogress.child hfresh (hexamined.trans hadds) hrecorded hread
        · exact hadds.limitHit.trans hlimit

/-- The directory was read to its end, and did not change meanwhile. -/
structure EnumeratedBy (scanner : SnapshotScanner) (queued : QueuedDirectory)
    (observation : DirectoryObservation) (added : Attempt) : Prop where
  within_limits : added.limitHit = false
  case_known : observation.caseContext.caseMode ≠ "UNKNOWN"
  signature_kept : observation.signatureBefore.isSome = true ∧
    observation.signatureAfter = observation.signatureBefore
  inspections : ∃ before after, observation.before = some before ∧ observation.after = some after ∧
    before.present = true ∧ before.isReparsePoint = false ∧ after.present = true ∧
      after.isReparsePoint = false ∧ before.identity = after.identity ∧
        before.finalPath = after.finalPath
  children_read : ∃ listing, observation.listing = some listing ∧
    ∀ child ∈ listing.children, scanner.ChildRead queued child

/-- The records of an attempt keep the snapshot from being complete: the coverage, or a blocking
issue about the directory or something in it without an entry. -/
def MarkedIn (queued : QueuedDirectory) (added : Attempt) : Prop :=
  (∃ item ∈ added.coverage, item.relativePath = queued.relativePath ∧
    item.coverageState ≠ completeCoverageState) ∨
  ∃ issue ∈ added.issues, issue.blocksDestructiveActions = true ∧
    ∃ name : EntryName, issue.relativePath = childRelativePath queued.relativePath name.text ∧
      ∀ entry ∈ added.entries, entry.relativePath ≠ issue.relativePath

/-- The attempt covers its directory, and is marked if that was not read to its end. -/
structure AttemptSound (scanner : SnapshotScanner) (queued : QueuedDirectory)
    (observation : DirectoryObservation) (added : Attempt) : Prop where
  progress : ∃ seen, Progress scanner queued seen added
  covered : ∃ item ∈ added.coverage, item.relativePath = queued.relativePath
  marked : ¬ EnumeratedBy scanner queued observation added → MarkedIn queued added

variable {observation : DirectoryObservation}

theorem AttemptSound.blocked {added : Attempt}
    (hprogress : ∃ seen, Progress scanner queued seen added)
    (hcoverage : ∃ item ∈ added.coverage, item.relativePath = queued.relativePath ∧
      item.coverageState ≠ completeCoverageState) :
    AttemptSound scanner queued observation added := by
  refine ⟨hprogress, ?_, fun _ => .inl hcoverage⟩
  obtain ⟨item, hitem, hpath, -⟩ := hcoverage
  exact ⟨item, hitem, hpath⟩

theorem closeDirectory_cases (queued : QueuedDirectory) (observation : DirectoryObservation)
    (before : ReparseInspection) (signature : DirectorySignature) (a : Attempt) :
    a.Adds (closeDirectory queued observation before signature a) [] [] [] ∧
      ∃ item ∈ (closeDirectory queued observation before signature a).coverage,
        item.relativePath = queued.relativePath ∧
          (item.coverageState ≠ completeCoverageState ∨
            a.filterIncomplete = false ∧ observation.caseContext.caseMode ≠ "UNKNOWN" ∧
              observation.signatureAfter = some signature ∧
                ∃ after, observation.after = some after ∧ after.present = true ∧
                  after.isReparsePoint = false ∧ before.identity = after.identity ∧
                    before.finalPath = after.finalPath) := by
  have hclosed : ∀ (state : String) (issues : List SnapshotIssue) (changed : Bool),
      a.Adds
        { a with
          coverage := a.coverage ++ [queued.coverage observation.caseContext state]
          issues := a.issues ++ issues
          changed := changed } [] [] [] := by
    intro state issues changed
    constructor <;> simp
  have hlast : ∀ state : String, queued.coverage observation.caseContext state ∈
      a.coverage ++ [queued.coverage observation.caseContext state] := fun state =>
    List.mem_append_right _ (List.mem_singleton_self _)
  unfold closeDirectory
  simp only
  by_cases hcase : observation.caseContext.caseMode = "UNKNOWN"
  · rw [if_pos hcase]
    exact ⟨hclosed _ _ _, _, hlast _, rfl,
      .inl (show "CASE_CONTEXT_UNKNOWN" ≠ "COMPLETE" by decide)⟩
  rw [if_neg hcase]
  cases hafter : observation.after with
  | none =>
    exact ⟨hclosed _ _ _, _, hlast _, rfl, .inl (show "UNREADABLE" ≠ "COMPLETE" by decide)⟩
  | some after =>
    simp only
    split
    · exact ⟨hclosed _ _ _, _, hlast _, rfl, .inl (show "DISAPPEARED" ≠ "COMPLETE" by decide)⟩
    · rename_i hpresent
      split
      · exact ⟨hclosed _ _ _, _, hlast _, rfl,
          .inl (show "REPARSE_BLOCKED" ≠ "COMPLETE" by decide)⟩
      · rename_i hreparse
        split
        · exact ⟨hclosed _ _ _, _, hlast _, rfl, .inl (show "VOLATILE" ≠ "COMPLETE" by decide)⟩
        · rename_i hsame
          split
          · exact ⟨hclosed _ _ _, _, hlast _, rfl,
              .inl (show "FILTER_INCOMPLETE" ≠ "COMPLETE" by decide)⟩
          · rename_i hfilter
            simp only [ne_eq, not_or, not_not] at hsame
            simp only [Bool.or_eq_true, Bool.not_eq_true', not_or, Bool.not_eq_false] at hpresent
            exact ⟨hclosed _ _ _, _, hlast _, rfl, .inr ⟨by simpa using hfilter, hcase, hsame.1,
              after, rfl, hpresent.1, by simpa using hreparse, hsame.2.1, hsame.2.2⟩⟩

theorem attemptDirectory_sound (hrules : scanner.policy.hasEmptyDirectoryRules = true)
    (hstart : a.entries = [] ∧ a.subjects = [] ∧ a.queued = []) (hlimit : a.limitHit = false)
    (h : scanner.attemptDirectory queued observation a = .ok a') :
    AttemptSound scanner queued observation a' := by
  have hprogress : Progress scanner queued [] a := .nothing hstart
  -- the directory could not be listed at all
  have hblocked : ∀ (b : Attempt) (item : SnapshotDirectoryCoverage) (issue : SnapshotIssue),
      Progress scanner queued [] b → item.relativePath = queued.relativePath →
        item.coverageState ≠ completeCoverageState →
          AttemptSound scanner queued observation ((b.withCoverage item).withIssue issue) :=
    fun b item issue hb hpath hstate =>
      .blocked ⟨[], (hb.adds (.withCoverage item)).adds (.withIssue issue)⟩
        ⟨item, List.mem_append_right _ (List.mem_singleton_self _), hpath, hstate⟩
  unfold attemptDirectory at h
  simp only at h
  cases hbefore : observation.before with
  | none =>
    rw [hbefore] at h
    obtain rfl := Except.ok.inj h
    exact hblocked _ _ _ hprogress rfl (show "UNREADABLE" ≠ "COMPLETE" by decide)
  | some before =>
    rw [hbefore] at h
    simp only at h
    by_cases hpresent : before.present = true
    · rw [hpresent, Bool.not_true, if_neg Bool.false_ne_true] at h
      by_cases hreparse : before.isReparsePoint = true
      · rw [if_pos hreparse] at h
        obtain rfl := Except.ok.inj h
        exact hblocked _ _ _ hprogress rfl (show "REPARSE_BLOCKED" ≠ "COMPLETE" by decide)
      rw [if_neg hreparse] at h
      have hstreams := Attempt.Adds.withNamedStreams (a := a) scanner.namedStreamPolicy
        queued.relativePath .directory observation.namedStreams
      have hnamed := hprogress.adds hstreams
      cases hsignature : observation.signatureBefore with
      | none =>
        rw [hsignature] at h
        obtain rfl := Except.ok.inj h
        exact hblocked _ _ _ hnamed rfl (show "DISAPPEARED" ≠ "COMPLETE" by decide)
      | some signature =>
        cases hlisting : observation.listing with
        | none =>
          rw [hsignature, hlisting] at h
          obtain rfl := Except.ok.inj h
          exact hblocked _ _ _ hnamed rfl (show "UNREADABLE" ≠ "COMPLETE" by decide)
        | some listing =>
          rw [hsignature, hlisting] at h
          simp only [bind, Except.bind] at h
          have hperm : (scanner.sortedChildren listing.children).Perm listing.children :=
            List.mergeSort_perm _ _
          cases hscan : scanner.scanChildren queued observation.caseContext
              (scanner.sortedChildren listing.children)
              (a.withNamedStreams scanner.namedStreamPolicy queued.relativePath .directory
                observation.namedStreams) with
          | error code =>
            rw [hscan] at h
            cases h
          | ok b =>
            rw [hscan] at h
            obtain ⟨seen, hseen, hend⟩ := scanChildren_progress hrules _ [] hscan hnamed
              (hstreams.limitHit.trans hlimit)
              ((hperm.map _).nodup_iff.mpr listing.names_unique)
            cases hend with
            | inr hstopped =>
              simp only [hstopped.1, if_true] at h
              obtain rfl := Except.ok.inj h
              exact .blocked ⟨seen, hseen⟩ hstopped.2
            | inl hall =>
              simp only [hall.1, Bool.false_eq_true, if_false] at h
              obtain rfl := Except.ok.inj h
              obtain ⟨hadds, item, hitem, hpath, hstate⟩ :=
                closeDirectory_cases queued observation before signature b
              have hclosed := hseen.adds hadds
              refine ⟨⟨seen, hclosed⟩, ⟨item, hitem, hpath⟩, fun hunread => ?_⟩
              cases hstate with
              | inl hstate => exact .inl ⟨item, hitem, hpath, hstate⟩
              | inr hsteady =>
                obtain ⟨hfilter, hcase, hafter, after, hsome, hthere, hordinary, hidentity,
                  hfinal⟩ := hsteady
                -- only a child can be what was not read
                have hchild : ∃ child ∈ seen, ¬ scanner.ChildRead queued child := by
                  by_contra hnone
                  push Not at hnone
                  refine hunread ⟨hadds.limitHit.trans hall.1, hcase, ?_, ?_, ?_⟩
                  · exact ⟨by rw [hsignature]; rfl, hafter.trans hsignature.symm⟩
                  · exact ⟨before, after, hbefore, hsome, hpresent, by simpa using hreparse,
                      hthere, hordinary, hidentity, hfinal⟩
                  · refine ⟨listing, hlisting, fun child hchild => hnone child ?_⟩
                    rw [hall.2]
                    exact hperm.mem_iff.mpr hchild
                obtain ⟨child, hmem, hchild⟩ := hchild
                obtain ⟨hmarked, hentries⟩ := hseen.unread_marked child hmem hchild
                cases hmarked with
                | inl hincomplete =>
                  rw [hfilter] at hincomplete
                  cases hincomplete
                | inr hissue =>
                  obtain ⟨issue, hissue, hblocks, hissuePath⟩ := hissue
                  refine .inr ⟨issue, hadds.issues hissue, hblocks, child.name, hissuePath, ?_⟩
                  rw [hissuePath, hadds.entries, List.append_nil]
                  exact hentries
    · rw [Bool.eq_false_iff.mpr hpresent, Bool.not_false, if_pos rfl] at h
      obtain rfl := Except.ok.inj h
      exact hblocked _ _ _ hprogress rfl (show "DISAPPEARED" ≠ "COMPLETE" by decide)

theorem AttemptSound.stopped {a : Attempt}
    (hstart : a.entries = [] ∧ a.subjects = [] ∧ a.queued = []) (reason : String) :
    AttemptSound scanner queued observation (a.limitBlock queued reason) :=
  .blocked ⟨[], .nothing hstart⟩ ⟨_, List.mem_append_right _ (List.mem_singleton_self _), rfl,
    show "CANCELLED" ≠ "COMPLETE" by decide⟩

variable {observations : Observations}

def Visit.Sound (scanner : SnapshotScanner) (observations : Observations) (visit : Visit) : Prop :=
  AttemptSound scanner visit.directory
    (observations visit.directory.relativePath visit.directory.rescanAttempt) visit.added

def Visit.Enumerated (scanner : SnapshotScanner) (observations : Observations) (visit : Visit) :
    Prop :=
  EnumeratedBy scanner visit.directory
    (observations visit.directory.relativePath visit.directory.rescanAttempt) visit.added

def Visit.path (visit : Visit) : String := visit.directory.relativePath

variable {visit : Visit}

theorem visitDirectory_sound (hrules : scanner.policy.hasEmptyDirectoryRules = true)
    {start : Attempt} (hstart : start.entries = [] ∧ start.subjects = [] ∧ start.queued = [])
    (hlimit : start.limitHit = false) : ∀ {rescans : Nat} {queued : QueuedDirectory},
      scanner.visitDirectory observations start rescans queued = .ok visit →
        visit.path = queued.relativePath ∧ visit.Sound scanner observations := by
  intro rescans
  induction rescans with
  | zero =>
    intro queued h
    simp only [visitDirectory, bind, Except.bind] at h
    cases hattempt : scanner.attemptDirectory queued
        (observations queued.relativePath queued.rescanAttempt) start with
    | error code =>
      rw [hattempt] at h
      cases h
    | ok added =>
      rw [hattempt] at h
      obtain rfl := Except.ok.inj h
      exact ⟨rfl, attemptDirectory_sound hrules hstart hlimit hattempt⟩
  | succ rescans ih =>
    intro queued h
    simp only [visitDirectory, bind, Except.bind] at h
    cases hattempt : scanner.attemptDirectory queued
        (observations queued.relativePath queued.rescanAttempt) start with
    | error code =>
      rw [hattempt] at h
      cases h
    | ok added =>
      rw [hattempt] at h
      simp only at h
      split at h
      · obtain ⟨hpath, hsound⟩ := ih h
        exact ⟨hpath, hsound⟩
      · obtain rfl := Except.ok.inj h
        exact ⟨rfl, attemptDirectory_sound hrules hstart hlimit hattempt⟩

def Walk.known (walk : Walk) : List String :=
  walk.visits.map Visit.path ++ walk.queue.map QueuedDirectory.relativePath

def Walk.HasDirectory (walk : Walk) (path : String) : Prop :=
  ∃ entry ∈ walk.entries, entry.objectType = "directory" ∧ entry.relativePath = path

variable {walk : Walk}

theorem Walk.HasDirectory.found {path : String} (h : walk.HasDirectory path)
    (hvisits : ∀ visit ∈ walk.visits, visit.Sound scanner observations) :
    ∃ visit ∈ walk.visits, ∃ name : EntryName,
      path = childRelativePath visit.path name.text := by
  obtain ⟨entry, hentry, -, rfl⟩ := h
  obtain ⟨visit, hvisit, hadded⟩ := List.mem_flatMap.mp hentry
  obtain ⟨seen, hprogress⟩ := (hvisits visit hvisit).progress
  obtain ⟨child, -, hpath⟩ := hprogress.entry_seen entry hadded
  exact ⟨visit, hvisit, child.name, hpath⟩

/-- The walk has visited each directory that it found, once. -/
structure Walk.Sound (scanner : SnapshotScanner) (observations : Observations) (walk : Walk) :
    Prop where
  visits : ∀ visit ∈ walk.visits, visit.Sound scanner observations
  once : walk.known.Nodup
  recorded : ∀ path ∈ walk.known, path = "." ∨ walk.HasDirectory path
  reached : ∀ path, walk.HasDirectory path → path ∈ walk.known
  root : "." ∈ walk.known
  paths : ∀ path ∈ walk.known, ScanPath path

theorem Walk.Sound.start :
    Walk.Sound scanner observations { queue := [⟨".", ".", 0⟩] } where
  visits := by simp
  once := by simp [Walk.known]
  recorded := by simp [Walk.known]
  reached := by
    rintro path ⟨entry, hentry, -⟩
    exact absurd hentry List.not_mem_nil
  root := by simp [Walk.known]
  paths := by
    intro path hpath
    obtain rfl : path = "." := by simpa [Walk.known] using hpath
    exact .root

variable {rest : List QueuedDirectory}

theorem Walk.known_after (hqueue : walk.queue = queued :: rest)
    (hpath : visit.path = queued.relativePath) : (walk.after visit).known =
      walk.known ++ visit.added.queued.map QueuedDirectory.relativePath := by
  simp [Walk.known, Walk.after, hqueue, hpath]

theorem Walk.entries_after (walk : Walk) (visit : Visit) :
    (walk.after visit).entries = walk.entries ++ visit.added.entries := by
  simp [Walk.entries, Walk.after]

theorem Walk.Sound.after (h : walk.Sound scanner observations)
    (hqueue : walk.queue = queued :: rest) (hpath : visit.path = queued.relativePath)
    (hvisit : visit.Sound scanner observations) :
    (walk.after visit).Sound scanner observations := by
  obtain ⟨seen, hprogress⟩ := hvisit.progress
  have hknown : queued.relativePath ∈ walk.known := by simp [Walk.known, hqueue]
  have hunvisited : ∀ earlier ∈ walk.visits, earlier.path ≠ queued.relativePath := by
    intro earlier hearlier hsame
    have hdisjoint := (List.nodup_append.mp h.once).2.2
    exact hdisjoint _ (List.mem_map_of_mem hearlier) _ (by simp [hqueue]) hsame
  have hkept : ∀ path, walk.HasDirectory path → (walk.after visit).HasDirectory path := by
    rintro path ⟨entry, hentry, hfound⟩
    exact ⟨entry, by rw [Walk.entries_after]; exact List.mem_append_left _ hentry, hfound⟩
  have hnew : ∀ directory ∈ visit.added.queued, ∃ name : EntryName,
      directory.relativePath = childRelativePath visit.path name.text := by
    intro directory hdirectory
    obtain ⟨entry, hentry, -, hentryPath⟩ := hprogress.queued_found directory hdirectory
    obtain ⟨child, -, hchild⟩ := hprogress.entry_seen entry hentry
    exact ⟨child.name, hentryPath.symm.trans hchild⟩
  refine ⟨?_, ?_, ?_, ?_, ?_, ?_⟩
  · intro other hother
    cases List.mem_append.mp hother with
    | inl hother => exact h.visits other hother
    | inr hother => exact List.mem_singleton.mp hother ▸ hvisit
  · rw [Walk.known_after hqueue hpath, List.nodup_append]
    refine ⟨h.once, hprogress.queued_once, ?_⟩
    -- a directory found now was not known: its parent had not been visited
    rintro path hmem _ hqueued rfl
    obtain ⟨directory, hdirectory, rfl⟩ := List.mem_map.mp hqueued
    obtain ⟨name, hname⟩ := hnew directory hdirectory
    cases h.recorded _ hmem with
    | inl hroot =>
      rw [hname] at hroot
      exact childRelativePath_ne_dot _ _ hroot
    | inr hfound =>
      obtain ⟨earlier, hearlier, name', hpath'⟩ := hfound.found h.visits
      have hparents := (childRelativePath_injective _ _ (hname.symm.trans hpath')).1
      exact hunvisited earlier hearlier (hparents.symm.trans hpath)
  · intro path hmem
    rw [Walk.known_after hqueue hpath, List.mem_append] at hmem
    cases hmem with
    | inl hmem => exact (h.recorded path hmem).imp id (hkept path)
    | inr hmem =>
      obtain ⟨directory, hdirectory, rfl⟩ := List.mem_map.mp hmem
      obtain ⟨entry, hentry, hfound⟩ := hprogress.queued_found directory hdirectory
      exact .inr ⟨entry, by rw [Walk.entries_after]; exact List.mem_append_right _ hentry, hfound⟩
  · rintro path ⟨entry, hentry, htype, rfl⟩
    rw [Walk.known_after hqueue hpath, List.mem_append]
    rw [Walk.entries_after, List.mem_append] at hentry
    cases hentry with
    | inl hentry => exact .inl (h.reached _ ⟨entry, hentry, htype, rfl⟩)
    | inr hentry =>
      obtain ⟨-, directory, hdirectory, hsame⟩ := hprogress.directory_queued entry hentry htype
      exact .inr (List.mem_map.mpr ⟨directory, hdirectory, hsame⟩)
  · rw [Walk.known_after hqueue hpath]
    exact List.mem_append_left _ h.root
  · intro path hmem
    rw [Walk.known_after hqueue hpath, List.mem_append] at hmem
    cases hmem with
    | inl hmem => exact h.paths path hmem
    | inr hmem =>
      obtain ⟨directory, hdirectory, rfl⟩ := List.mem_map.mp hmem
      obtain ⟨name, hname⟩ := hnew directory hdirectory
      rw [hname, hpath]
      exact .child name (h.paths _ hknown)

def Walk.Ended (walk : Walk) : Prop :=
  walk.queue = [] ∨ ∃ visit ∈ walk.visits, visit.added.limitHit = true

theorem scanQueue_sound (hrules : scanner.policy.hasEmptyDirectoryRules = true) {walk' : Walk} :
    ∀ {directories : Nat} {walk : Walk}, walk.Sound scanner observations →
      scanner.scanQueue observations directories walk = .ok walk' →
        walk'.Sound scanner observations ∧ walk'.Ended := by
  intro directories
  induction directories with
  | zero =>
    intro walk hsound h
    unfold scanQueue at h
    cases hqueue : walk.queue with
    | nil =>
      simp only [hqueue] at h
      obtain rfl := Except.ok.inj h
      exact ⟨hsound, .inl hqueue⟩
    | cons queued rest =>
      simp only [hqueue] at h
      obtain rfl := Except.ok.inj h
      refine ⟨hsound.after hqueue rfl (AttemptSound.stopped ⟨rfl, rfl, rfl⟩ _), .inr ?_⟩
      exact ⟨_, List.mem_append_right _ (List.mem_singleton_self _), rfl⟩
  | succ directories ih =>
    intro walk hsound h
    unfold scanQueue at h
    cases hqueue : walk.queue with
    | nil =>
      simp only [hqueue] at h
      obtain rfl := Except.ok.inj h
      exact ⟨hsound, .inl hqueue⟩
    | cons queued rest =>
      simp only [hqueue, bind, Except.bind] at h
      cases hvisit : scanner.visitDirectory observations walk.start scanner.maxVolatileRescans
          queued with
      | error code =>
        rw [hvisit] at h
        cases h
      | ok visit =>
        rw [hvisit] at h
        obtain ⟨hpath, hvisited⟩ := visitDirectory_sound hrules ⟨rfl, rfl, rfl⟩ rfl hvisit
        have hafter := hsound.after hqueue hpath hvisited
        simp only at h
        split at h
        · rename_i hlimit
          obtain rfl := Except.ok.inj h
          exact ⟨hafter, .inr
            ⟨visit, List.mem_append_right _ (List.mem_singleton_self _), hlimit⟩⟩
        · exact ih hafter h

theorem walk_sound (hrules : scanner.policy.hasEmptyDirectoryRules = true)
    (h : scanner.walk observations = .ok walk) : walk.Sound scanner observations :=
  (scanQueue_sound hrules .start h).1

theorem walk_ended (hrules : scanner.policy.hasEmptyDirectoryRules = true)
    (h : scanner.walk observations = .ok walk) : walk.Ended :=
  (scanQueue_sound hrules .start h).2

theorem Walk.Sound.subject (h : walk.Sound scanner observations) {path : String}
    (hdirectory : walk.HasDirectory path) :
    ∃ subject, walk.subjectOf path = some subject ∧ subject.relativePath = path := by
  obtain ⟨entry, hentry, htype, rfl⟩ := hdirectory
  obtain ⟨visit, hvisit, hadded⟩ := List.mem_flatMap.mp hentry
  obtain ⟨seen, hprogress⟩ := (h.visits visit hvisit).progress
  obtain ⟨⟨subject, hsubject, hpath⟩, -⟩ := hprogress.directory_queued entry hadded htype
  have hmem : subject ∈ (walk.visits.flatMap fun visit => visit.added.subjects).reverse :=
    List.mem_reverse.mpr (List.mem_flatMap.mpr ⟨visit, hvisit, hsubject⟩)
  unfold Walk.subjectOf
  cases hfind : (walk.visits.flatMap fun visit => visit.added.subjects).reverse.find?
      fun subject => subject.relativePath == entry.relativePath with
  | none =>
    have hnone := List.find?_eq_none.mp hfind subject hmem
    simp [hpath] at hnone
  | some found => exact ⟨found, rfl, by simpa using List.find?_some hfind⟩

theorem Walk.Sound.visit_unique (h : walk.Sound scanner observations) {visit visit' : Visit}
    (hvisit : visit ∈ walk.visits) (hvisit' : visit' ∈ walk.visits)
    (hpath : visit.path = visit'.path) : visit = visit' :=
  List.inj_on_of_nodup_map (List.nodup_append.mp h.once).1 hvisit hvisit' hpath

end SnapshotScanner

end MediaSync.Snapshots
