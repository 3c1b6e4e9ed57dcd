import MediaSync.Snapshots.Walk

/-! Which directories the policy removes, stated from the leaves upwards: a directory counts as
empty when everything found in it is a directory that is removed. -/
namespace MediaSync.Snapshots

namespace SnapshotScanner

variable (scanner : SnapshotScanner) (observations : Observations) (walk : Walk)

def isHollow (removed : String → Bool) (path : String) : Bool :=
  walk.entries.all fun entry =>
    parentRelativePath entry.relativePath != path ||
      (entry.objectType == "directory" && removed entry.relativePath)

def removes : Nat → String → Bool
  | 0, _ => false
  | below + 1, path =>
    (walk.subjectOf path).any fun subject =>
      (scanner.decideDirectory subject (isHollow walk (removes below) path)).excludes

def Walk.depth : Nat := (walk.entries.map fun entry => levels entry.relativePath).foldr max 0

def removed (path : String) : Bool := scanner.removes walk (walk.depth + 1) path

def hollow (path : String) : Bool := isHollow walk (scanner.removed walk) path

def emptyRuleExcludes (path : String) : Bool :=
  (walk.subjectOf path).any fun subject =>
    (scanner.decideDirectory subject true).excludes &&
      scanner.policy.byEmptyDirectoryRule (scanner.decideDirectory subject true)

def RemovedAsEmpty (path : String) : Prop :=
  walk.HasDirectory path ∧ scanner.hollow walk path = true ∧
    scanner.emptyRuleExcludes walk path = true

def InScope (path : String) : Prop :=
  ∀ root, walk.HasDirectory root → scanner.removed walk root = true →
    ¬ scanner.RemovedAsEmpty walk root → pathIsWithinAny path [root] = false

/-- The walk found the directory and did not enumerate it. -/
def Unenumerated (path : String) : Prop :=
  (path = "." ∨ walk.HasDirectory path) ∧
    ¬ ∃ visit ∈ walk.visits, visit.path = path ∧ visit.Enumerated scanner observations

def Tells (visit : Visit) (path : String) : Prop :=
  visit ∈ walk.visits ∧
    (visit.path = path ∨ path ∉ walk.visits.map Visit.path ∧ visit.added.limitHit = true)

def ExcludedAsEmpty (path : String) : Prop :=
  ∃ decided ∈ scanner.directoryDecisions walk, decided.relativePath = path ∧
    decided.isEmptyDirectory = true ∧ decided.decision.excludes = true ∧
      scanner.policy.byEmptyDirectoryRule decided.decision = true

/-- What a visit has recorded of its directory is in the finished scan. -/
structure RecordsKept (visit : Visit) : Prop where
  coverage : ∀ item ∈ visit.added.coverage, item.relativePath = visit.path →
    ∃ item' ∈ (scanner.finish walk).coverage, item'.relativePath = visit.path ∧
      (item.coverageState ≠ completeCoverageState → item' = item)
  issues : ∀ issue ∈ visit.added.issues,
    issue.relativePath = visit.path ∨
      (∃ name : EntryName, issue.relativePath = childRelativePath visit.path name.text) ∧
        (∀ entry ∈ walk.entries, entry.relativePath ≠ issue.relativePath) →
          issue ∈ (scanner.finish walk).issues

/-- A directory that is left out as empty was enumerated, and only such are below it. -/
structure HidesNothing : Prop where
  empty_enumerated : ∀ path, scanner.ExcludedAsEmpty walk path →
    (∃ visit ∈ walk.visits, visit.path = path ∧ visit.Enumerated scanner observations) ∧
      ∀ entry ∈ walk.entries, parentRelativePath entry.relativePath = path →
        entry.objectType = "directory" ∧
          entry.relativePath ∈ scanner.excludedDirectories walk
  records_kept : ∀ path visit, scanner.Unenumerated observations walk path →
    scanner.InScope walk path → Tells walk visit path → scanner.RecordsKept walk visit
  never_complete : ∀ path, scanner.Unenumerated observations walk path →
    scanner.InScope walk path → (scanner.finish walk).complete = false

/-- No directory that was not enumerated is taken for empty, and a limit did not stop the walk while
directories in scope were left. -/
structure EmptinessObserved : Prop where
  survivor : ∀ path, scanner.Unenumerated observations walk path → walk.HasDirectory path →
    (∃ entry ∈ walk.entries, parentRelativePath entry.relativePath = path ∧
      (entry.objectType ≠ "directory" ∨ scanner.removed walk entry.relativePath = false)) ∨
        scanner.emptyRuleExcludes walk path = false
  stop_in_scope : ∀ path, scanner.Unenumerated observations walk path →
    scanner.InScope walk path → path ∉ walk.visits.map Visit.path →
      ∀ visit ∈ walk.visits, visit.added.limitHit = true → scanner.InScope walk visit.path

variable {scanner observations walk}

variable {entry : SnapshotFileEntry}

theorem levels_le_depth (h : entry ∈ walk.entries) : levels entry.relativePath ≤ walk.depth := by
  unfold Walk.depth
  generalize walk.entries = entries at h
  induction entries with
  | nil => exact absurd h List.not_mem_nil
  | cons first rest ih =>
    rw [List.map_cons, List.foldr_cons]
    cases List.mem_cons.mp h with
    | inl h => exact h ▸ le_max_left _ _
    | inr h => exact (ih h).trans (le_max_right _ _)

theorem Walk.Sound.levels_entry (h : walk.Sound scanner observations)
    (hentry : entry ∈ walk.entries) :
    levels entry.relativePath = levels (parentRelativePath entry.relativePath) + 1 := by
  obtain ⟨visit, hvisit, hadded⟩ := List.mem_flatMap.mp hentry
  obtain ⟨seen, hprogress⟩ := (h.visits visit hvisit).progress
  obtain ⟨child, -, hpath⟩ := hprogress.entry_seen entry hadded
  rw [hpath, parentRelativePath_child, levels_child]

variable {path : String}

theorem isHollow_congr {removed removed' : String → Bool}
    (h : ∀ entry ∈ walk.entries, parentRelativePath entry.relativePath = path →
      removed entry.relativePath = removed' entry.relativePath) :
    isHollow walk removed path = isHollow walk removed' path := by
  unfold isHollow
  apply Bool.eq_iff_iff.mpr
  rw [List.all_eq_true, List.all_eq_true]
  apply forall₂_congr
  intro entry hentry
  by_cases hparent : parentRelativePath entry.relativePath = path
  · rw [h entry hentry hparent]
  · simp [hparent]

theorem removes_succ (h : walk.Sound scanner observations) {below : Nat} :
    ∀ {entry : SnapshotFileEntry}, entry ∈ walk.entries →
      walk.depth < below + levels entry.relativePath →
        scanner.removes walk below entry.relativePath =
          scanner.removes walk (below + 1) entry.relativePath := by
  induction below with
  | zero =>
    intro entry hentry hdeep
    have := levels_le_depth hentry
    omega
  | succ below ih =>
    intro entry hentry hdeep
    have hbelow : isHollow walk (scanner.removes walk below) entry.relativePath =
        isHollow walk (scanner.removes walk (below + 1)) entry.relativePath := by
      apply isHollow_congr
      intro child hchild hparent
      apply ih hchild
      rw [h.levels_entry hchild, hparent]
      omega
    rw [removes, hbelow]
    rfl

theorem removed_eq (h : walk.Sound scanner observations) (hpath : 1 ≤ levels path) :
    scanner.removed walk path = (walk.subjectOf path).any fun subject =>
      (scanner.decideDirectory subject (scanner.hollow walk path)).excludes := by
  have hbelow :
      isHollow walk (scanner.removes walk walk.depth) path = scanner.hollow walk path := by
    apply isHollow_congr
    intro child hchild hparent
    apply removes_succ h hchild
    rw [h.levels_entry hchild, hparent]
    omega
  rw [removed, removes, hbelow]

variable {subject : FileFilterSubject}

theorem mem_directories (h : walk.Sound scanner observations) : subject ∈ directories walk ↔
      walk.HasDirectory subject.relativePath ∧
        walk.subjectOf subject.relativePath = some subject := by
  unfold directories
  rw [List.mem_mergeSort, List.mem_filterMap]
  constructor
  · rintro ⟨entry, hentry, hsubject⟩
    split at hsubject
    · rename_i htype
      obtain ⟨found, hfound, hpath⟩ := h.subject ⟨entry, hentry, htype, rfl⟩
      rw [hfound] at hsubject
      obtain rfl := Option.some.inj hsubject
      rw [hpath]
      exact ⟨⟨entry, hentry, htype, rfl⟩, hfound⟩
    · cases hsubject
  · rintro ⟨⟨entry, hentry, htype, hpath⟩, hsubject⟩
    exact ⟨entry, hentry, by rw [if_pos htype, hpath, hsubject]⟩

theorem directories_sorted (walk : Walk) : (directories walk).Pairwise fun first second =>
    second.relativePath.toList.count '/' ≤ first.relativePath.toList.count '/' := by
  have hsorted : (directories walk).Pairwise fun a b : FileFilterSubject =>
      decide (toLex (b.relativePath.toList.count '/', b.relativePath) ≤
        toLex (a.relativePath.toList.count '/', a.relativePath)) = true := by
    apply List.pairwise_mergeSort
    · intro a b c hab hbc
      exact decide_eq_true (le_trans (of_decide_eq_true hbc) (of_decide_eq_true hab))
    · intro a b
      simpa using le_total _ _
  refine hsorted.imp ?_
  intro a b hab
  have hle := of_decide_eq_true hab
  rw [Prod.Lex.toLex_le_toLex] at hle
  cases hle with
  | inl hlt => exact le_of_lt hlt
  | inr heq => exact le_of_eq heq.1

theorem Walk.HasDirectory.ne_root (h : walk.Sound scanner observations)
    (hpath : walk.HasDirectory path) : path ≠ "." := by
  obtain ⟨visit, -, name, rfl⟩ := hpath.found h.visits
  exact childRelativePath_ne_dot _ _

theorem Walk.HasDirectory.levels_eq (h : walk.Sound scanner observations)
    (hpath : walk.HasDirectory path) : levels path = path.toList.count '/' + 1 := by
  rw [levels, if_neg (hpath.ne_root h)]

def Counted (scanner : SnapshotScanner) (walk : Walk) (decided : List FileFilterSubject)
    (counted : List String) : Prop :=
  ∀ path, path ∈ counted ↔
    (∃ entry ∈ walk.entries, entry.objectType ≠ "directory" ∧
      parentRelativePath entry.relativePath = path) ∨
    ∃ subject ∈ decided, parentRelativePath subject.relativePath = path ∧
      scanner.removed walk subject.relativePath = false

theorem Counted.hollow_eq (h : walk.Sound scanner observations)
    {decided rest : List FileFilterSubject} {counted : List String}
    (hlist : decided ++ subject :: rest = directories walk)
    (hcounted : Counted scanner walk decided counted) :
    (counted.count subject.relativePath == 0) = scanner.hollow walk subject.relativePath := by
  have hmem : ∀ other ∈ decided ++ subject :: rest, walk.HasDirectory other.relativePath :=
    fun other hother => ((mem_directories h).mp (hlist ▸ hother)).1
  have hsubject : walk.HasDirectory subject.relativePath := hmem subject (by simp)
  apply Bool.eq_iff_iff.mpr
  rw [beq_iff_eq, List.count_eq_zero, hcounted, hollow, isHollow, List.all_eq_true]
  constructor
  · intro hnone entry hentry
    by_cases hparent : parentRelativePath entry.relativePath = subject.relativePath
    · have htype : entry.objectType = "directory" := by
        by_contra htype
        exact hnone (.inl ⟨entry, hentry, htype, hparent⟩)
      have hdirectory : walk.HasDirectory entry.relativePath := ⟨entry, hentry, htype, rfl⟩
      obtain ⟨found, hfound, hpath⟩ := h.subject hdirectory
      have hlisted : found ∈ decided ++ subject :: rest := by
        rw [hlist, mem_directories h, hpath]
        exact ⟨hdirectory, hfound⟩
      -- a child is deeper, so it was decided before
      have hdeeper : subject.relativePath.toList.count '/' <
          found.relativePath.toList.count '/' := by
        have hlevels := h.levels_entry hentry
        rw [hparent, hsubject.levels_eq h, hdirectory.levels_eq h] at hlevels
        rw [hpath]
        omega
      have hearlier : found ∈ decided := by
        have hsorted := hlist ▸ directories_sorted walk
        rw [List.pairwise_append, List.pairwise_cons] at hsorted
        rw [List.mem_append, List.mem_cons] at hlisted
        rcases hlisted with hlisted | rfl | hlisted
        · exact hlisted
        · exact absurd hdeeper (lt_irrefl _)
        · exact absurd (hsorted.2.1.1 found hlisted) (not_le.mpr hdeeper)
      cases hremoved : scanner.removed walk entry.relativePath with
      | true => simp [htype]
      | false =>
        refine absurd (.inr ⟨found, hearlier, ?_, ?_⟩) hnone
        · rw [hpath, hparent]
        · rw [hpath, hremoved]
    · simp [hparent]
  · rintro hall (⟨entry, hentry, htype, hparent⟩ | ⟨other, hother, hparent, hkept⟩)
    · have := hall entry hentry
      simp [hparent, htype] at this
    · obtain ⟨entry, hentry, -, hpath⟩ := hmem other (List.mem_append_left _ hother)
      have := hall entry hentry
      simp [hpath, hparent, hkept] at this

theorem decideDirectories_eq (h : walk.Sound scanner observations) :
    ∀ (rest decided : List FileFilterSubject) (counted : List String),
      decided ++ rest = directories walk → Counted scanner walk decided counted →
        scanner.decideDirectories rest counted = rest.map fun subject =>
          ⟨subject.relativePath, scanner.hollow walk subject.relativePath,
            scanner.decideDirectory subject (scanner.hollow walk subject.relativePath)⟩
  | [], _, _, _, _ => rfl
  | subject :: rest, decided, counted, hlist, hcounted => by
    have hsubject := (mem_directories h).mp
      (show subject ∈ directories walk by rw [← hlist]; simp)
    have hremoved : scanner.removed walk subject.relativePath =
        (scanner.decideDirectory subject (scanner.hollow walk subject.relativePath)).excludes := by
      rw [removed_eq h (by rw [hsubject.1.levels_eq h]; omega), hsubject.2, Option.any_some]
    rw [decideDirectories, hcounted.hollow_eq h hlist, List.map_cons]
    congr 1
    apply decideDirectories_eq h rest (decided ++ [subject]) _ (by simpa using hlist)
    intro path
    simp only [List.mem_append, List.mem_singleton, or_and_right, exists_or, exists_eq_left]
    rw [← or_assoc]
    cases hexcludes : (scanner.decideDirectory subject
        (scanner.hollow walk subject.relativePath)).excludes with
    | true =>
      rw [hexcludes] at hremoved
      simp only [if_true, hcounted path, hremoved]
      simp
    | false =>
      rw [hexcludes] at hremoved
      simp only [Bool.false_eq_true, if_false, List.mem_append, List.mem_singleton, hcounted path,
        hremoved, and_true]
      exact or_congr_right eq_comm

theorem directoryDecisions_eq (h : walk.Sound scanner observations) :
    scanner.directoryDecisions walk = (directories walk).map fun subject =>
      ⟨subject.relativePath, scanner.hollow walk subject.relativePath,
        scanner.decideDirectory subject (scanner.hollow walk subject.relativePath)⟩ := by
  apply decideDirectories_eq h _ [] _ rfl
  intro path
  simp only [List.mem_map, List.mem_filter, decide_eq_true_eq, List.not_mem_nil, false_and,
    exists_false, or_false, and_assoc]

theorem mem_excludedDirectories (h : walk.Sound scanner observations) :
    path ∈ scanner.excludedDirectories walk ↔
      walk.HasDirectory path ∧ scanner.removed walk path = true := by
  unfold excludedDirectories
  rw [directoryDecisions_eq h, List.mem_map]
  constructor
  · rintro ⟨decided, hdecided, rfl⟩
    obtain ⟨hmem, hexcludes⟩ := List.mem_filter.mp hdecided
    obtain ⟨subject, hsubject, rfl⟩ := List.mem_map.mp hmem
    obtain ⟨hdirectory, hfound⟩ := (mem_directories h).mp hsubject
    refine ⟨hdirectory, ?_⟩
    rw [removed_eq h (by rw [hdirectory.levels_eq h]; omega), hfound, Option.any_some]
    exact hexcludes
  · rintro ⟨hdirectory, hremoved⟩
    obtain ⟨subject, hfound, rfl⟩ := h.subject hdirectory
    rw [removed_eq h (by rw [hdirectory.levels_eq h]; omega), hfound, Option.any_some] at hremoved
    exact ⟨_, List.mem_filter.mpr ⟨List.mem_map_of_mem
      ((mem_directories h).mpr ⟨hdirectory, hfound⟩), hremoved⟩, rfl⟩

theorem excludedAsEmpty_iff (h : walk.Sound scanner observations) :
    scanner.ExcludedAsEmpty walk path ↔ scanner.RemovedAsEmpty walk path := by
  unfold ExcludedAsEmpty RemovedAsEmpty
  rw [directoryDecisions_eq h]
  constructor
  · rintro ⟨decided, hmem, rfl, hempty, hexcludes, hrule⟩
    obtain ⟨subject, hsubject, rfl⟩ := List.mem_map.mp hmem
    obtain ⟨hdirectory, hfound⟩ := (mem_directories h).mp hsubject
    refine ⟨hdirectory, hempty, ?_⟩
    simp only at hempty hexcludes hrule
    rw [hempty] at hexcludes hrule
    rw [emptyRuleExcludes, hfound, Option.any_some, hexcludes, hrule]
    rfl
  · rintro ⟨hdirectory, hhollow, hrule⟩
    obtain ⟨subject, hfound, rfl⟩ := h.subject hdirectory
    rw [emptyRuleExcludes, hfound, Option.any_some, Bool.and_eq_true] at hrule
    refine ⟨_, List.mem_map_of_mem ((mem_directories h).mpr ⟨hdirectory, hfound⟩), rfl, hhollow,
      ?_, ?_⟩
    · simp only [hhollow]
      exact hrule.1
    · simp only [hhollow]
      exact hrule.2

theorem pathIsWithinAny_iff (hpath : ScanPath path) {roots : List String} :
    pathIsWithinAny path roots = true ↔ ∃ root ∈ roots, pathIsWithinAny path [root] = true := by
  induction hpath with
  | root => simp
  | @child parent name _ ih =>
    rw [pathIsWithinAny_child, Bool.or_eq_true, ih]
    simp only [pathIsWithinAny_child, Bool.or_eq_true, List.contains_iff_mem, List.mem_singleton]
    constructor
    · rintro (hmem | ⟨root, hroot, hwithin⟩)
      · exact ⟨_, hmem, .inl rfl⟩
      · exact ⟨root, hroot, .inr hwithin⟩
    · rintro ⟨root, hroot, hsame | hwithin⟩
      · exact .inl (hsame ▸ hroot)
      · exact .inr ⟨root, hroot, hwithin⟩

theorem InScope.parent {parent : String} {name : EntryName}
    (h : scanner.InScope walk (childRelativePath parent name.text)) :
    scanner.InScope walk parent := by
  intro root hroot hremoved hother
  have := h root hroot hremoved hother
  rw [pathIsWithinAny_child, Bool.or_eq_false_iff] at this
  exact this.2

theorem RemovedAsEmpty.below (h : walk.Sound scanner observations) {root path : String}
    (hroot : scanner.RemovedAsEmpty walk root) (hpath : ScanPath path)
    (hfound : walk.HasDirectory path) (hscope : scanner.InScope walk path)
    (hwithin : pathIsWithinAny path [root] = true) : scanner.RemovedAsEmpty walk path := by
  induction hpath with
  | root => simp at hwithin
  | @child parent name hparent ih =>
    rw [pathIsWithinAny_child, Bool.or_eq_true] at hwithin
    cases hwithin with
    | inl hsame =>
      obtain rfl : childRelativePath parent name.text = root := by simpa using hsame
      exact hroot
    | inr hwithin =>
      -- the parent is removed as empty, so this directory is removed
      obtain ⟨visit, hvisit, name', hpath'⟩ := hfound.found h.visits
      obtain ⟨rfl, -⟩ := childRelativePath_injective _ _ hpath'
      have hknown : visit.path ∈ walk.known :=
        List.mem_append_left _ (List.mem_map_of_mem hvisit)
      have hfoundParent : walk.HasDirectory visit.path := by
        cases h.recorded _ hknown with
        | inl hdot =>
          rw [hdot] at hwithin
          simp at hwithin
        | inr hfoundParent => exact hfoundParent
      obtain ⟨-, hhollow, -⟩ := ih hfoundParent hscope.parent hwithin
      obtain ⟨entry, hentry, htype, hentryPath⟩ := hfound
      have hremoved := List.all_eq_true.mp hhollow entry hentry
      rw [hentryPath, parentRelativePath_child] at hremoved
      simp only [bne_self_eq_false, Bool.false_or, Bool.and_eq_true] at hremoved
      by_contra hother
      have := hscope _ ⟨entry, hentry, htype, hentryPath⟩ hremoved.2 hother
      rw [pathIsWithinAny_child] at this
      simp at this

theorem Unenumerated.scanPath (h : walk.Sound scanner observations)
    (hpath : scanner.Unenumerated observations walk path) : ScanPath path := by
  cases hpath.1 with
  | inl hroot => exact hroot ▸ .root
  | inr hdirectory => exact h.paths _ (h.reached _ hdirectory)

theorem Unenumerated.kept (h : walk.Sound scanner observations)
    (hsurvivor : ∀ path, scanner.Unenumerated observations walk path →
      ¬ scanner.RemovedAsEmpty walk path) (hpath : scanner.Unenumerated observations walk path)
    (hscope : scanner.InScope walk path) :
    pathIsWithinAny path (scanner.excludedDirectories walk) = false := by
  have hscan := hpath.scanPath h
  by_contra hwithin
  obtain ⟨root, hroot, hwithin⟩ :=
    (pathIsWithinAny_iff hscan).mp (Bool.eq_true_of_not_eq_false hwithin)
  obtain ⟨hdirectory, hremoved⟩ := (mem_excludedDirectories h).mp hroot
  by_cases hempty : scanner.RemovedAsEmpty walk root
  · cases hpath.1 with
    | inl hdot =>
      rw [hdot] at hwithin
      simp at hwithin
    | inr hfound => exact hsurvivor path hpath (hempty.below h hscan hfound hscope hwithin)
  · rw [hscope root hdirectory hremoved hempty] at hwithin
    cases hwithin

theorem removedAsEmpty_iff_of_survivor :
    ¬ scanner.RemovedAsEmpty walk path ↔ (walk.HasDirectory path →
      (∃ entry ∈ walk.entries, parentRelativePath entry.relativePath = path ∧
        (entry.objectType ≠ "directory" ∨ scanner.removed walk entry.relativePath = false)) ∨
          scanner.emptyRuleExcludes walk path = false) := by
  have hhollow : scanner.hollow walk path = false ↔
      ∃ entry ∈ walk.entries, parentRelativePath entry.relativePath = path ∧
        (entry.objectType ≠ "directory" ∨ scanner.removed walk entry.relativePath = false) := by
    rw [hollow, isHollow, List.all_eq_false]
    apply exists_congr
    intro entry
    by_cases hparent : parentRelativePath entry.relativePath = path <;>
      by_cases htype : entry.objectType = "directory" <;> simp [hparent, htype]
  rw [← hhollow, RemovedAsEmpty, not_and, not_and_or, Bool.not_eq_true, Bool.not_eq_true]

theorem withFilterError_path (item : SnapshotDirectoryCoverage) :
    (scanner.withFilterError walk item).relativePath = item.relativePath := by
  unfold withFilterError
  split
  · split <;> rfl
  · rfl

theorem withFilterError_incomplete {item : SnapshotDirectoryCoverage}
    (h : item.coverageState ≠ completeCoverageState) :
    scanner.withFilterError walk item = item := by
  unfold withFilterError
  split
  · rw [if_neg h]
  · rfl

variable {visit : Visit}

theorem recordsKept (hrules : scanner.policy.hasEmptyDirectoryRules = true)
    (h : walk.Sound scanner observations) (hvisit : visit ∈ walk.visits)
    (hkept : pathIsWithinAny visit.path (scanner.excludedDirectories walk) = false) :
    scanner.RecordsKept walk visit := by
  have hfinish : scanner.finish walk = scanner.applyEmptyDirectoryFilters walk := by
    rw [finish, if_pos hrules]
  constructor
  · intro item hitem hpath
    rw [hfinish]
    refine ⟨scanner.withFilterError walk item, List.mem_map_of_mem (List.mem_filter.mpr
      ⟨List.mem_flatMap.mpr ⟨visit, hvisit, hitem⟩, ?_⟩), ?_, withFilterError_incomplete⟩
    · rw [hpath, hkept]
      rfl
    · rw [withFilterError_path, hpath]
  · intro issue hissue habout
    rw [hfinish]
    refine List.mem_filter.mpr ⟨List.mem_append_left _
      (List.mem_flatMap.mpr ⟨visit, hvisit, hissue⟩), ?_⟩
    cases habout with
    | inl hpath =>
      rw [hpath, hkept]
      rfl
    | inr habsent =>
      obtain ⟨⟨name, hpath⟩, habsent⟩ := habsent
      have hout : childRelativePath visit.path name.text ∉ scanner.excludedDirectories walk := by
        intro hmem
        obtain ⟨⟨entry, hentry, -, hentryPath⟩, -⟩ := (mem_excludedDirectories h).mp hmem
        exact habsent entry hentry (hentryPath.trans hpath.symm)
      rw [hpath, pathIsWithinAny_child, hkept, Bool.or_false]
      simpa using hout

theorem never_complete_of_marked (h : walk.Sound scanner observations)
    (hvisit : visit ∈ walk.visits) (hkept : scanner.RecordsKept walk visit)
    (hmarked : MarkedIn visit.directory visit.added) : (scanner.finish walk).complete = false := by
  unfold FilesystemSnapshotScan.complete
  cases hmarked with
  | inl hcoverage =>
    obtain ⟨item, hitem, hpath, hstate⟩ := hcoverage
    obtain ⟨item', hitem', -, hsame⟩ := hkept.coverage item hitem hpath
    have hnot : (scanner.finish walk).coverage.all
        (fun item => item.coverageState == completeCoverageState) = false :=
      List.all_eq_false.mpr ⟨item', hitem', by simpa [hsame hstate] using hstate⟩
    rw [hnot, Bool.and_false, Bool.false_and]
  | inr hissue =>
    obtain ⟨issue, hmem, hblocks, name, hpath, habsent⟩ := hissue
    have hnowhere : ∀ entry ∈ walk.entries, entry.relativePath ≠ issue.relativePath := by
      intro entry hentry hsame
      obtain ⟨other, hother, hadded⟩ := List.mem_flatMap.mp hentry
      obtain ⟨seen, hprogress⟩ := (h.visits other hother).progress
      obtain ⟨child, -, hchild⟩ := hprogress.entry_seen entry hadded
      have hparents := (childRelativePath_injective _ _
        ((hchild.symm.trans hsame).trans hpath)).1
      have hvisits := h.visit_unique hother hvisit hparents
      exact habsent entry (hvisits ▸ hadded) hsame
    have hkeptIssue := hkept.issues issue hmem (.inr ⟨⟨name, hpath⟩, hnowhere⟩)
    have hany : (scanner.finish walk).issues.any
        (fun issue => issue.blocksDestructiveActions) = true :=
      List.any_eq_true.mpr ⟨issue, hkeptIssue, hblocks⟩
    rw [hany, Bool.not_true, Bool.and_false]

theorem Unenumerated.told (h : walk.Sound scanner observations) (hended : walk.Ended)
    (hpath : scanner.Unenumerated observations walk path) :
    ∃ visit, Tells walk visit path ∧ ¬ visit.Enumerated scanner observations := by
  by_cases hvisited : path ∈ walk.visits.map Visit.path
  · obtain ⟨visit, hvisit, rfl⟩ := List.mem_map.mp hvisited
    exact ⟨visit, ⟨hvisit, .inl rfl⟩, fun hread => hpath.2 ⟨visit, hvisit, rfl, hread⟩⟩
  · have hknown : path ∈ walk.known := hpath.1.elim (fun hroot => hroot ▸ h.root) (h.reached path)
    cases hended with
    | inl hqueue =>
      rw [Walk.known, hqueue, List.map_nil, List.append_nil] at hknown
      exact absurd hknown hvisited
    | inr hstopped =>
      obtain ⟨visit, hvisit, hlimit⟩ := hstopped
      refine ⟨visit, ⟨hvisit, .inr ⟨hvisited, hlimit⟩⟩, fun hread => ?_⟩
      rw [hread.within_limits] at hlimit
      cases hlimit

theorem Walk.Sound.visit_found (h : walk.Sound scanner observations)
    (hvisit : visit ∈ walk.visits) :
    visit.path = "." ∨ walk.HasDirectory visit.path :=
  h.recorded _ (List.mem_append_left _ (List.mem_map_of_mem hvisit))

theorem Tells.kept (h : walk.Sound scanner observations)
    (hobserved : scanner.EmptinessObserved observations walk)
    (hpath : scanner.Unenumerated observations walk path) (hscope : scanner.InScope walk path)
    (htells : Tells walk visit path) :
    pathIsWithinAny visit.path (scanner.excludedDirectories walk) = false := by
  have hsurvivor : ∀ path, scanner.Unenumerated observations walk path →
      ¬ scanner.RemovedAsEmpty walk path := fun path hpath =>
    removedAsEmpty_iff_of_survivor.mpr (hobserved.survivor path hpath)
  obtain ⟨hvisit, rfl | ⟨hunvisited, hlimit⟩⟩ := htells
  · exact hpath.kept h hsurvivor hscope
  · have hstopped : scanner.Unenumerated observations walk visit.path := by
      refine ⟨h.visit_found hvisit, ?_⟩
      rintro ⟨other, hother, hsame, hread⟩
      rw [h.visit_unique hother hvisit hsame] at hread
      rw [hread.within_limits] at hlimit
      cases hlimit
    exact hstopped.kept h hsurvivor
      (hobserved.stop_in_scope path hpath hscope hunvisited visit hvisit hlimit)

theorem hidesNothing_of_sound (hrules : scanner.policy.hasEmptyDirectoryRules = true)
    (h : walk.Sound scanner observations) (hended : walk.Ended) :
    scanner.HidesNothing observations walk ↔ scanner.EmptinessObserved observations walk := by
  constructor
  · intro hhides
    constructor
    · intro path hpath
      apply removedAsEmpty_iff_of_survivor.mp
      intro hempty
      exact hpath.2 (hhides.empty_enumerated path ((excludedAsEmpty_iff h).mpr hempty)).1
    · intro path hpath hscope hunvisited visit hvisit hlimit root hroot hremoved _
      obtain ⟨item, hitem, hcovered⟩ := (h.visits visit hvisit).covered
      obtain ⟨item', hitem', hkeptPath, -⟩ := (hhides.records_kept path visit hpath hscope
        ⟨hvisit, .inr ⟨hunvisited, hlimit⟩⟩).coverage item hitem hcovered
      rw [finish, if_pos hrules] at hitem'
      obtain ⟨kept, hkept, rfl⟩ := List.mem_map.mp hitem'
      rw [withFilterError_path] at hkeptPath
      have hout := (List.mem_filter.mp hkept).2
      rw [hkeptPath] at hout
      by_contra hwithin
      have hany := (pathIsWithinAny_iff (h.paths _ (List.mem_append_left _
        (List.mem_map_of_mem hvisit)))).mpr ⟨root, (mem_excludedDirectories h).mpr
          ⟨hroot, hremoved⟩, Bool.eq_true_of_not_eq_false hwithin⟩
      rw [hany] at hout
      cases hout
  · intro hobserved
    refine ⟨?_, ?_, ?_⟩
    · intro path hexcluded
      have hempty := (excludedAsEmpty_iff h).mp hexcluded
      constructor
      · by_contra hunread
        exact removedAsEmpty_iff_of_survivor.mpr
          (hobserved.survivor path ⟨.inr hempty.1, hunread⟩) hempty
      · intro entry hentry hparent
        have hall := List.all_eq_true.mp hempty.2.1 entry hentry
        rw [hparent] at hall
        simp only [bne_self_eq_false, Bool.false_or, Bool.and_eq_true, beq_iff_eq] at hall
        exact ⟨hall.1, (mem_excludedDirectories h).mpr ⟨⟨entry, hentry, hall.1, rfl⟩, hall.2⟩⟩
    · intro path visit hpath hscope htells
      exact recordsKept hrules h htells.1 (htells.kept h hobserved hpath hscope)
    · intro path hpath hscope
      obtain ⟨visit, htells, hunread⟩ := hpath.told h hended
      exact never_complete_of_marked h htells.1
        (recordsKept hrules h htells.1 (htells.kept h hobserved hpath hscope))
        ((h.visits visit htells.1).marked hunread)

/-- For every sequence of observations, policy with empty-directory rules and limits. -/
theorem hidesNothing_iff (hrules : scanner.policy.hasEmptyDirectoryRules = true)
    (hwalk : scanner.walk observations = .ok walk) :
    scanner.HidesNothing observations walk ↔ scanner.EmptinessObserved observations walk :=
  hidesNothing_of_sound hrules (walk_sound hrules hwalk) (walk_ended hrules hwalk)

def photos : EntryName := ⟨"photos", by decide, by decide, by decide, by decide⟩

def steadyDirectory (listing : Option DirectoryListing) : DirectoryObservation :=
  { before := some ⟨true, false, none, none⟩
    caseContext := ⟨"CASE_SENSITIVE", "POSIX_CASE_SENSITIVE_DEFAULT_V1", none⟩
    signatureBefore := some ⟨1, 1, 0, 0⟩
    listing := listing
    signatureAfter := some ⟨1, 1, 0, 0⟩
    after := some ⟨true, false, none, none⟩ }

def unreadablePhotos : Observations := fun path _ =>
  if path = "." then
    steadyDirectory (some
      ⟨[⟨photos, some .directory, some { mode := .directory, birthtimeNs := some 0 }⟩], by decide⟩)
  else steadyDirectory none

def pruningScanner : SnapshotScanner :=
  { snapshotId := "snapshot-1"
    excludeControlArea := true
    policy :=
      { rules := [⟨"exclude-empty-directories", .excludes, .emptyDirectory⟩]
        ruleIds_unique := by decide }
    host := ⟨id, fun _ _ _ => .unmatched⟩
    namedStreamPolicy := .blockIfPresentOrUnconfirmed
    maxEntries := 1000000
    maxDirectories := 250000
    maxVolatileRescans := 2 }

theorem pruningScanner_walks : (pruningScanner.walk unreadablePhotos).isOk = true := by
  decide +kernel

/-- The unreadable directory is left out as an empty one, and the scan is complete. -/
theorem unreadable_directory_hidden :
    ∃ walk, pruningScanner.walk unreadablePhotos = .ok walk ∧
      ¬ pruningScanner.HidesNothing unreadablePhotos walk ∧
        (pruningScanner.finish walk).complete = true := by
  have hexcluded : (pruningScanner.walk unreadablePhotos).toOption.any
      (fun walk => (pruningScanner.directoryDecisions walk).any fun decided =>
        decided.relativePath == "photos" && decided.isEmptyDirectory && decided.decision.excludes &&
          pruningScanner.policy.byEmptyDirectoryRule decided.decision) = true := by
    decide +kernel
  have hcomplete : (pruningScanner.walk unreadablePhotos).toOption.any
      (fun walk => (pruningScanner.finish walk).complete) = true := by
    decide +kernel
  have hwalks := pruningScanner_walks
  cases hwalk : pruningScanner.walk unreadablePhotos with
  | error code =>
    rw [hwalk] at hwalks
    cases hwalks
  | ok walk =>
    rw [hwalk] at hexcluded hcomplete
    refine ⟨walk, rfl, fun hhides => ?_, hcomplete⟩
    obtain ⟨decided, hdecided, hfacts⟩ := List.any_eq_true.mp hexcluded
    simp only [Bool.and_eq_true, beq_iff_eq] at hfacts
    obtain ⟨⟨visit, -, hpath, hread⟩, -⟩ := hhides.empty_enumerated "photos"
      ⟨decided, hdecided, hfacts.1.1.1, hfacts.1.1.2, hfacts.1.2, hfacts.2⟩
    obtain ⟨listing, hlisting, -⟩ := hread.children_read
    have hpath' : visit.directory.relativePath = "photos" := hpath
    rw [hpath'] at hlisting
    cases hlisting

theorem hidesNothing_iff_unreadable :
    ∃ walk, pruningScanner.policy.hasEmptyDirectoryRules = true ∧
      pruningScanner.walk unreadablePhotos = .ok walk ∧
        (pruningScanner.HidesNothing unreadablePhotos walk ↔
          pruningScanner.EmptinessObserved unreadablePhotos walk) := by
  have hwalks := pruningScanner_walks
  cases hwalk : pruningScanner.walk unreadablePhotos with
  | error code =>
    rw [hwalk] at hwalks
    cases hwalks
  | ok walk => exact ⟨walk, by decide, rfl, hidesNothing_iff (by decide) hwalk⟩

end SnapshotScanner

end MediaSync.Snapshots
