import MediaSync.Jobs.Roots

/-! A draft names a source and up to three targets. -/
namespace MediaSync.Jobs
open Text

inductive AutomationPolicy where
  | newFilesOnly
  | newAndChangedWithVersions
  | analyzeOnly
  deriving DecidableEq

structure StandardBackupDefaults where
  automationPolicy : AutomationPolicy := .newFilesOnly
  deriving DecidableEq

structure DraftTarget where
  name : String
  pathLabel : String
  independentDeviceId : Option String := none
  deriving DecidableEq

structure StandardBackupJobDraft where
  draftId : String
  sourceName : Option String := none
  sourcePathLabel : Option String := none
  targets : List DraftTarget := []
  defaults : StandardBackupDefaults := {}
  deriving DecidableEq

inductive DraftValidationCode where
  | sourceRequired
  | sourceLabelRequired
  | targetRequired
  | tooManyTargets
  | targetNameRequired
  | targetLabelRequired
  | duplicateTargetName
  | targetRootOverlapsSource
  | targetRootOverlapsTarget
  deriving DecidableEq

def DraftValidationCode.value : DraftValidationCode → String
  | .sourceRequired => "SOURCE_REQUIRED"
  | .sourceLabelRequired => "SOURCE_LABEL_REQUIRED"
  | .targetRequired => "TARGET_REQUIRED"
  | .tooManyTargets => "TOO_MANY_TARGETS"
  | .targetNameRequired => "TARGET_NAME_REQUIRED"
  | .targetLabelRequired => "TARGET_LABEL_REQUIRED"
  | .duplicateTargetName => "DUPLICATE_TARGET_NAME"
  | .targetRootOverlapsSource => "TARGET_ROOT_OVERLAPS_SOURCE"
  | .targetRootOverlapsTarget => "TARGET_ROOT_OVERLAPS_TARGET"

structure DraftValidationIssue where
  code : DraftValidationCode
  field : String
  deriving DecidableEq

def maxStandardBackupTargets : Nat := 3

structure SealedStandardBackupJob where
  jobId : String
  jobRevisionId : String
  draftId : String
  commandRequestId : String
  idempotencyKey : String
  sourceName : String
  sourcePathLabel : String
  targets : List DraftTarget
  defaults : StandardBackupDefaults
  deriving DecidableEq

/-- The labels of a job, each with whether it is a target: `_job_roots`. -/
def SealedStandardBackupJob.roots (job : SealedStandardBackupJob) : List (String × Bool) :=
  (job.sourcePathLabel, false) :: job.targets.map fun target => (target.pathLabel, true)

def StandardBackupJobDraft.roots (draft : StandardBackupJobDraft) : List (String × Bool) :=
  (draft.sourcePathLabel.toList.map fun label => (label, false)) ++
    draft.targets.map fun target => (target.pathLabel, true)

variable (py : PathLibrary)

def issueWhen (test : Bool) (code : DraftValidationCode) (field : String) :
    List DraftValidationIssue := if test then [⟨code, field⟩] else []

def targetNameIssues (fieldPrefix : String) (seenTargetNames : List String)
    (target : DraftTarget) : List DraftValidationIssue × List String :=
  let normalizedName := py.casefold (strip target.name)
  if normalizedName = "" then
    ([⟨.targetNameRequired, fieldPrefix ++ ".name"⟩], seenTargetNames)
  else if seenTargetNames.contains normalizedName then
    ([⟨.duplicateTargetName, fieldPrefix ++ ".name"⟩], seenTargetNames)
  else ([], normalizedName :: seenTargetNames)

def targetIssues (sourceRoot : Option DraftRootKey) :
    Nat → List String → List DraftRootKey → List DraftTarget →
      Except String (List DraftValidationIssue)
  | _, _, _, [] => .ok []
  | index, seenTargetNames, seenTargetRoots, target :: rest => do
    let fieldPrefix := "targets[" ++ toString index ++ "]"
    let (nameIssues, seenTargetNames) := targetNameIssues py fieldPrefix seenTargetNames target
    if !nonBlank target.pathLabel then
      let issues ← targetIssues sourceRoot (index + 1) seenTargetNames seenTargetRoots rest
      return nameIssues ++ ⟨.targetLabelRequired, fieldPrefix ++ ".path_label"⟩ :: issues
    else
      match ← draftRootKey py (some target.pathLabel) with
      | none =>
        let issues ← targetIssues sourceRoot (index + 1) seenTargetNames seenTargetRoots rest
        return nameIssues ++ issues
      | some targetRoot =>
        let issues ←
          targetIssues sourceRoot (index + 1) seenTargetNames (targetRoot :: seenTargetRoots) rest
        return nameIssues ++
          issueWhen (keysOverlap sourceRoot (some targetRoot)) .targetRootOverlapsSource
            (fieldPrefix ++ ".path_label") ++
          issueWhen (seenTargetRoots.any fun existing => rootsOverlap existing targetRoot)
            .targetRootOverlapsTarget (fieldPrefix ++ ".path_label") ++ issues

def StandardBackupJobDraft.validationIssues (draft : StandardBackupJobDraft) :
    Except String (List DraftValidationIssue) := do
  let sourceRoot ← draftRootKey py draft.sourcePathLabel
  let issues ← targetIssues py sourceRoot 0 [] [] draft.targets
  return issueWhen (!someNonBlank draft.sourceName) .sourceRequired "source_name" ++
    issueWhen (!someNonBlank draft.sourcePathLabel) .sourceLabelRequired "source_path_label" ++
    issueWhen draft.targets.isEmpty .targetRequired "targets" ++
    issueWhen (maxStandardBackupTargets < draft.targets.length) .tooManyTargets "targets" ++
    issues

/-- Two labels can be compared and do not overlap. -/
def Disjoint (first second : String) : Prop :=
  draftPathLabelsOverlap py (some first) (some second) = .ok false

instance (first second : String) : Decidable (Disjoint py first second) :=
  decidable_of_iff ((draftPathLabelsOverlap py (some first) (some second)).toOption = some false) <|
    by
      unfold Disjoint
      cases draftPathLabelsOverlap py (some first) (some second) <;> simp [Except.toOption]

def RootsApart (source : String) (targets : List DraftTarget) : Prop :=
  (∀ target ∈ targets, Disjoint py source target.pathLabel) ∧
    targets.Pairwise fun a b => Disjoint py a.pathLabel b.pathLabel

variable {py}

variable {first second : String}

theorem Disjoint.symm (h : Disjoint py first second) :
    Disjoint py second first := draftPathLabelsOverlap_comm h

theorem disjoint_iff : Disjoint py first second ↔
    ∃ a b, draftRootKey py (some first) = .ok a ∧ draftRootKey py (some second) = .ok b ∧
      keysOverlap a b = false := draftPathLabelsOverlap_eq_ok

theorem issueWhen_eq_nil {test : Bool} {code : DraftValidationCode} {field : String} :
    issueWhen test code field = [] ↔ test = false := by
  cases test <;> simp [issueWhen]

variable {sourceRoot : Option DraftRootKey}

theorem targetIssues_cons {index : Nat} {names : List String} {roots : List DraftRootKey}
    {target : DraftTarget} {rest : List DraftTarget}
    (h : targetIssues py sourceRoot index names roots (target :: rest) = .ok []) :
    ∃ key names', draftRootKey py (some target.pathLabel) = .ok key ∧
      keysOverlap sourceRoot key = false ∧
      (∀ existing ∈ roots, keysOverlap (some existing) key = false) ∧
      targetIssues py sourceRoot (index + 1) names' (key.toList ++ roots) rest = .ok [] := by
  unfold targetIssues at h
  simp only at h
  split at h
  · -- a blank label is an issue
    obtain ⟨issues, -, hissues⟩ := except_bind_ok h
    simp [pure, Except.pure] at hissues
  · obtain ⟨key, hkey, h⟩ := except_bind_ok h
    cases key with
    | none =>
      obtain ⟨issues, hrest, hissues⟩ := except_bind_ok h
      simp only [pure, Except.pure, Except.ok.injEq, List.append_eq_nil_iff] at hissues
      obtain ⟨-, rfl⟩ := hissues
      exact ⟨none, _, hkey, by cases sourceRoot <;> rfl, fun _ _ => rfl, hrest⟩
    | some root =>
      obtain ⟨issues, hrest, hissues⟩ := except_bind_ok h
      simp only [pure, Except.pure, Except.ok.injEq, List.append_eq_nil_iff,
        issueWhen_eq_nil] at hissues
      obtain ⟨⟨⟨-, hsource⟩, hseen⟩, rfl⟩ := hissues
      refine ⟨some root, _, hkey, hsource, fun existing hmem => ?_, hrest⟩
      have hnone := List.any_eq_false.mp hseen existing hmem
      simpa [keysOverlap] using hnone

variable {targets : List DraftTarget}

theorem targetIssues_seen : ∀ {index : Nat} {names : List String} {roots : List DraftRootKey},
      targetIssues py sourceRoot index names roots targets = .ok [] →
      ∀ target ∈ targets, ∃ key, draftRootKey py (some target.pathLabel) = .ok key ∧
        keysOverlap sourceRoot key = false ∧
          ∀ existing ∈ roots, keysOverlap (some existing) key = false := by
  induction targets with
  | nil => exact fun _ _ hmem => absurd hmem List.not_mem_nil
  | cons head rest ih =>
    intro index names roots h target hmem
    obtain ⟨key, names', hkey, hsource, hseen, hrest⟩ := targetIssues_cons h
    rcases List.mem_cons.mp hmem with rfl | hmem
    · exact ⟨key, hkey, hsource, hseen⟩
    · obtain ⟨other, hother, hsource', hseen'⟩ := ih hrest target hmem
      exact ⟨other, hother, hsource', fun existing hexisting =>
        hseen' existing (List.mem_append_right _ hexisting)⟩

theorem targetIssues_pairwise : ∀ {index : Nat} {names : List String} {roots : List DraftRootKey},
      targetIssues py sourceRoot index names roots targets = .ok [] →
      targets.Pairwise fun a b => Disjoint py a.pathLabel b.pathLabel := by
  induction targets with
  | nil => exact fun _ => List.Pairwise.nil
  | cons head rest ih =>
    intro index names roots h
    obtain ⟨key, names', hkey, hsource, hseen, hrest⟩ := targetIssues_cons h
    refine List.pairwise_cons.mpr ⟨fun target hmem => ?_, ih hrest⟩
    obtain ⟨other, hother, -, hothers⟩ := targetIssues_seen hrest target hmem
    refine disjoint_iff.mpr ⟨key, other, hkey, hother, ?_⟩
    cases key with
    | none => cases other <;> rfl
    | some root => exact hothers root (by simp)

theorem rootsApart_of_noIssues {draft : StandardBackupJobDraft}
    (h : draft.validationIssues py = .ok []) :
    ∃ source, draft.sourcePathLabel = some source ∧ RootsApart py source draft.targets := by
  obtain ⟨sourceRoot, hroot, h⟩ := except_bind_ok h
  obtain ⟨issues, hissues, h⟩ := except_bind_ok h
  simp only [pure, Except.pure, Except.ok.injEq, List.append_eq_nil_iff, issueWhen_eq_nil,
    Bool.not_eq_false'] at h
  obtain ⟨⟨⟨⟨-, hlabel⟩, -⟩, -⟩, rfl⟩ := h
  obtain ⟨source, hsource⟩ : ∃ source, draft.sourcePathLabel = some source := by
    cases hcase : draft.sourcePathLabel with
    | none => simp [hcase, someNonBlank] at hlabel
    | some source => exact ⟨source, rfl⟩
  refine ⟨source, hsource, fun target hmem => ?_, targetIssues_pairwise hissues⟩
  obtain ⟨key, hkey, hoverlap, -⟩ := targetIssues_seen hissues target hmem
  exact disjoint_iff.mpr ⟨sourceRoot, key, hsource ▸ hroot, hkey, hoverlap⟩

end MediaSync.Jobs
