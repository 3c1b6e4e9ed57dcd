import MediaSync.Foundation.Transition
import MediaSync.Jobs.Editing

/-! Create and edit commands compare the roots of a job with those of the active jobs. -/
namespace MediaSync.Jobs
open Transition

inductive JobCommand where
  | create (command : CreateStandardBackupJobCommand) (draft : Option StandardBackupJobDraft)
      (ids : StandardBackupJobIds)
  | edit (command : UpdateStandardBackupJobCommand) (revisionId : String)
  | lifecycle (name : JobLifecycleCommandName) (command : ChangeJobLifecycleCommand)
      (occurredUtc : String)
  | elsewhere (schedules : List ScheduleDefinition) (requests : List BackupAnalysisRequest)
      (runs : List StartedRun)

def committed {α : Type} (c : JobCatalog) : Except String (JobCatalog × α) → JobCatalog
  | .ok (c', _) => c'
  | .error _ => c

theorem committed_of {α : Type} {P : JobCatalog → Prop} {c : JobCatalog}
    {result : Except String (JobCatalog × α)} (h : P c)
    (hok : ∀ c' a, result = .ok (c', a) → P c') : P (committed c result) := by
  cases hresult : result with
  | error => exact h
  | ok value => exact hok value.1 value.2 hresult

variable (py : PathLibrary) (host : SchedulerContext)

def performCommand (c : JobCatalog) : JobCommand → JobCatalog
  | .create command draft ids =>
    committed c (c.createStandardBackupJobFromDraft py command draft ids)
  | .edit command revisionId =>
    committed c (c.updateStandardBackupJobFromDraft py host command revisionId)
  | .lifecycle name command occurredUtc =>
    committed c (c.changeLifecycle host name command occurredUtc)
  | .elsewhere schedules requests runs => { c with schedules, requests, runs }

def jobCommands : System JobCatalog JobCommand where
  init c := c = {}
  step c command := some (performCommand py host c command)

structure RootsClaimed (c : JobCatalog) : Prop where
  between : ∀ a ∈ c.listActiveStandardBackupJobs, ∀ b ∈ c.listActiveStandardBackupJobs,
    a.jobId ≠ b.jobId → JobCatalog.ListsApart py a.roots b.roots
  within : ∀ a ∈ c.listActiveStandardBackupJobs, RootsApart py a.sourcePathLabel a.targets

def ReactivatesApart (c : JobCatalog) : JobCommand → Prop
  | .lifecycle .reactivate command _ =>
    c.loadEventOutcome command.idempotencyKey = none →
    (validateTransition (c.loadJobLifecycle command.jobId) command .archived).isOk = true →
    ∀ row job, c.loadJobRow command.jobId = some row →
      c.loadRevision row.id row.activeRevisionId = some job →
      c.rejectActiveRootOverlap py job none = .ok ()
  | _ => True

variable {py : PathLibrary} {host : SchedulerContext} {c c' : JobCatalog}

namespace JobCatalog

variable {job : SealedStandardBackupJob}

theorem loadRevision_mem {jobId revisionId : String}
    (h : c.loadRevision jobId revisionId = some job) : job ∈ c.revisions :=
  List.mem_of_find?_eq_some h

def Sealed (py : PathLibrary) (c : JobCatalog) : Prop :=
  ∀ job ∈ c.revisions, RootsApart py job.sourcePathLabel job.targets

theorem listActive_revision (h : job ∈ c.listActiveStandardBackupJobs) : job ∈ c.revisions := by
  obtain ⟨row, -, -, -, hload⟩ := mem_listActive.mp h
  exact loadRevision_mem hload

theorem rootsClaimed_of_added (hsealed : c'.Sealed py) (h : RootsClaimed py c)
    (hactive : ∀ a ∈ c'.listActiveStandardBackupJobs, a ∈ c.listActiveStandardBackupJobs ∨
      ∀ b ∈ c.listActiveStandardBackupJobs, b.jobId ≠ a.jobId → ListsApart py a.roots b.roots)
    (hone : ∀ a ∈ c'.listActiveStandardBackupJobs, ∀ b ∈ c'.listActiveStandardBackupJobs,
      a ∉ c.listActiveStandardBackupJobs → b ∉ c.listActiveStandardBackupJobs → a.jobId = b.jobId) :
    RootsClaimed py c' := by
  refine ⟨fun a ha b hb hne => ?_, fun a ha => hsealed a (listActive_revision ha)⟩
  by_cases haold : a ∈ c.listActiveStandardBackupJobs
  · by_cases hbold : b ∈ c.listActiveStandardBackupJobs
    · exact h.between a haold b hbold hne
    · exact (((hactive b hb).resolve_left hbold) a haold hne).symm
  · by_cases hbold : b ∈ c.listActiveStandardBackupJobs
    · exact ((hactive a ha).resolve_left haold) b hbold (Ne.symm hne)
    · exact absurd (hone a ha b hb haold hbold) hne

theorem rootsClaimed_of_subset (hsealed : c'.Sealed py) (h : RootsClaimed py c)
    (hactive : ∀ a ∈ c'.listActiveStandardBackupJobs, a ∈ c.listActiveStandardBackupJobs) :
    RootsClaimed py c' :=
  rootsClaimed_of_added hsealed h (fun a ha => .inl (hactive a ha))
    fun a ha _ _ hanew => absurd (hactive a ha) hanew

theorem Sealed.insert (h : c.Sealed py) (hjob : RootsApart py job.sourcePathLabel job.targets)
    (hrevisions : c'.revisions = Table.insert c.revisions job) : c'.Sealed py := by
  intro other hother
  rw [hrevisions] at hother
  rcases Table.mem_insert.mp hother with hold | rfl
  · exact h other hold
  · exact hjob

theorem listActive_save (h : c.saveStandardBackupJob py job = .ok c') :
    ∀ a ∈ c'.listActiveStandardBackupJobs, a ∈ c.listActiveStandardBackupJobs ∨ a = job := by
  obtain ⟨-, hnew, hfresh, rfl⟩ := saveStandardBackupJob_cases h
  intro a ha
  obtain ⟨row, hrow, harchived, hdeleted, hload⟩ := mem_listActive.mp ha
  have hfound := (loadRevision_insert hfresh row.id row.activeRevisionId).symm.trans hload
  rcases Table.mem_insert.mp hrow with hold | rfl
  · have hne : ¬ (job.jobId = row.id ∧ job.jobRevisionId = row.activeRevisionId) := fun hkey =>
      Table.lookup_none_iff.mp hnew row hold hkey.1.symm
    rw [if_neg hne] at hfound
    exact .inl (mem_listActive.mpr ⟨row, hold, harchived, hdeleted, hfound⟩)
  · rw [if_pos ⟨rfl, rfl⟩] at hfound
    exact .inr (Option.some.inj hfound).symm

theorem listActive_append {expected : String}
    (h : c.appendStandardBackupJobRevision py job expected = .ok c') :
    ∀ a ∈ c'.listActiveStandardBackupJobs,
      (a ∈ c.listActiveStandardBackupJobs ∧ a.jobId ≠ job.jobId) ∨ a = job := by
  obtain ⟨row, hload, -, -, -, hfresh, rfl⟩ := appendStandardBackupJobRevision_cases h
  have hid : row.id = job.jobId := Table.lookup_key hload
  intro a ha
  obtain ⟨other, hother, harchived, hdeleted, hhead⟩ := mem_listActive.mp ha
  have hfound := (loadRevision_insert hfresh other.id other.activeRevisionId).symm.trans hhead
  rcases Table.mem_overwrite hother with rfl | ⟨hold, hne⟩
  · rw [if_pos ⟨hid.symm, rfl⟩] at hfound
    exact .inr (Option.some.inj hfound).symm
  · have hne' : other.id ≠ job.jobId := fun heq => hne (heq.trans hid.symm)
    rw [if_neg fun hkey => hne' hkey.1.symm] at hfound
    refine .inl ⟨mem_listActive.mpr ⟨other, hold, harchived, hdeleted, hfound⟩, ?_⟩
    rw [(loadRevision_key hfound).1]
    exact hne'

theorem listActive_ended {row : JobRow}
    (hjobs : c'.jobs = Table.overwrite JobRow.id c.jobs row)
    (hrevisions : c'.revisions = c.revisions)
    (hdeletions : ∀ jobId, c'.isDeleted jobId = false → c.isDeleted jobId = false)
    (hrow : row.archived = true ∨ c'.isDeleted row.id = true) :
    ∀ a ∈ c'.listActiveStandardBackupJobs, a ∈ c.listActiveStandardBackupJobs := by
  intro a ha
  obtain ⟨other, hother, harchived, hdeleted, hload⟩ := mem_listActive.mp ha
  rw [hjobs] at hother
  have hload' : c.loadRevision other.id other.activeRevisionId = some a := by
    unfold loadRevision at hload ⊢
    rwa [hrevisions] at hload
  rcases Table.mem_overwrite hother with rfl | ⟨hold, -⟩
  · rcases hrow with h | h
    · rw [harchived] at h
      cases h
    · rw [hdeleted] at h
      cases h
  · exact mem_listActive.mpr ⟨other, hold, harchived, hdeletions other.id hdeleted, hload'⟩

variable {command : ChangeJobLifecycleCommand} {occurredUtc : String}
  {outcome : JobLifecycleTransitionOutcome}

theorem listActive_change {name : JobLifecycleCommandName}
    (h : Change c command occurredUtc name c' outcome) :
    c'.revisions = c.revisions ∧ (name ≠ .reactivate →
      ∀ a ∈ c'.listActiveStandardBackupJobs, a ∈ c.listActiveStandardBackupJobs) := by
  cases h with
  | archive hrow _ _ _ harchived _ _ =>
    subst harchived
    exact ⟨rfl, fun _ => listActive_ended rfl rfl (fun _ h => h) (.inl rfl)⟩
  | reactivate => exact ⟨rfl, fun hne => absurd rfl hne⟩
  | delete hrow _ _ hdeletion _ _ =>
    subst hdeletion
    refine ⟨rfl, fun _ => listActive_ended rfl rfl (fun jobId h => ?_) (.inr ?_)⟩
    · simp only [isDeleted, Option.isSome_eq_false_iff, Option.isNone_iff_eq_none] at h ⊢
      exact Table.lookup_none_iff.mpr fun other hother =>
        Table.lookup_none_iff.mp h other (Table.mem_insert.mpr (.inl hother))
    · simp [isDeleted, Table.insert, Table.lookup, List.find?_append]

theorem listActive_reactivate (h : Change c command occurredUtc .reactivate c' outcome) :
    (validateTransition (c.loadJobLifecycle command.jobId) command .archived).isOk = true ∧
      ∀ a ∈ c'.listActiveStandardBackupJobs, a ∈ c.listActiveStandardBackupJobs ∨
        ∃ row, c.loadJobRow command.jobId = some row ∧
          c.loadRevision row.id row.activeRevisionId = some a := by
  cases h with
  | @reactivate row active _ _ hvalid hrow harchived hdeleted hactive _ _ =>
    subst hactive
    refine ⟨hvalid, fun a ha => ?_⟩
    obtain ⟨other, hother, hother', hdeleted', hload⟩ := mem_listActive.mp ha
    rcases Table.mem_overwrite hother with rfl | ⟨hold, -⟩
    · exact .inr ⟨row, hrow, hload⟩
    · exact .inl (mem_listActive.mpr ⟨other, hold, hother', hdeleted', hload⟩)

end JobCatalog

open JobCatalog

structure Claims (py : PathLibrary) (c : JobCatalog) : Prop where
  revisions : c.Sealed py
  roots : RootsClaimed py c

theorem Claims.added (h : Claims py c) {job : SealedStandardBackupJob}
    (hsealed : c'.Sealed py) {exclude : Option String}
    (hreject : c.rejectActiveRootOverlap py job exclude = .ok ())
    (hexclude : exclude = none ∨ exclude = some job.jobId)
    (hactive : ∀ a ∈ c'.listActiveStandardBackupJobs,
      a ∈ c.listActiveStandardBackupJobs ∨ a = job) : Claims py c' := by
  refine ⟨hsealed, rootsClaimed_of_added hsealed h.roots (fun a ha => ?_)
    fun a ha b hb hanew hbnew => ?_⟩
  · refine (hactive a ha).imp id ?_
    rintro rfl b hb hne
    refine apart_of_rejectActiveRootOverlap hreject b hb ?_
    rcases hexclude with rfl | rfl
    · simp
    · simpa using Ne.symm hne
  · rw [(hactive a ha).resolve_left hanew, (hactive b hb).resolve_left hbnew]

theorem Claims.perform (h : Claims py c) (command : JobCommand)
    (hok : ReactivatesApart py c command) :
    Claims py (performCommand py host c command) := by
  cases command with
  | create command draft ids =>
    refine committed_of h fun c' outcome hcreate => ?_
    rcases createStandardBackupJobFromDraft_cases hcreate with rfl | ⟨job, hapart, hsaved⟩
    · exact h
    · obtain ⟨hreject, -, -, hc'⟩ := saveStandardBackupJob_cases hsaved
      have hsealed : c'.Sealed py := h.revisions.insert hapart (by rw [hc'])
      exact h.added hsealed hreject (.inl rfl) (listActive_save hsaved)
  | edit command revisionId =>
    refine committed_of h fun c' outcome hedit => ?_
    rcases updateStandardBackupJobFromDraft_cases hedit with
      rfl | ⟨current, edited, appended, schedules, -, -, -, hapart, happended, rfl⟩
    · exact h
    · obtain ⟨row, -, -, -, hreject, -, hc'⟩ := appendStandardBackupJobRevision_cases happended
      have hsealed : appended.Sealed py := h.revisions.insert hapart (by rw [hc'])
      have hclaims : Claims py appended := h.added hsealed hreject (.inr rfl) fun a ha =>
        (listActive_append happended a ha).imp And.left id
      exact ⟨hsealed, rootsClaimed_of_subset hsealed hclaims.roots fun a ha => ha⟩
  | lifecycle name command occurredUtc =>
    refine committed_of h fun c' outcome hchange => ?_
    rcases changeLifecycle_cases hchange with hsame | ⟨hstored, hchange⟩
    · rw [hsame.1]
      exact h
    · have hsealed : c'.Sealed py := by
        intro job hjob
        rw [(listActive_change hchange).1] at hjob
        exact h.revisions job hjob
      by_cases hname : name = .reactivate
      · subst hname
        obtain ⟨hvalid, hactive⟩ := listActive_reactivate hchange
        refine ⟨hsealed, rootsClaimed_of_added hsealed h.roots (fun a ha => ?_)
          fun a ha b hb hanew hbnew => ?_⟩
        · refine (hactive a ha).imp id ?_
          rintro ⟨row, hrow, hload⟩ b hb hne
          have hreject := hok hstored hvalid row a hrow hload
          exact apart_of_rejectActiveRootOverlap hreject b hb (by simp)
        · obtain ⟨row, hrow, hload⟩ := (hactive a ha).resolve_left hanew
          obtain ⟨row', hrow', hload'⟩ := (hactive b hb).resolve_left hbnew
          obtain rfl := Option.some.inj (hrow.symm.trans hrow')
          rw [(loadRevision_key hload).1, (loadRevision_key hload').1]
      · exact ⟨hsealed,
          rootsClaimed_of_subset hsealed h.roots ((listActive_change hchange).2 hname)⟩
  | elsewhere schedules requests runs =>
    have hsealed : ({ c with schedules, requests, runs } : JobCatalog).Sealed py := h.revisions
    exact ⟨hsealed, rootsClaimed_of_subset hsealed h.roots fun a ha => ha⟩

/-- The roots of the active jobs stay apart in every run whose reactivations do not bring back
a job that overlaps the active ones. -/
theorem rootsClaimed_of_reactivatesApart
    (h : (jobCommands py host).ReachableWhen (ReactivatesApart py) c) : RootsClaimed py c := by
  have hclaims : Claims py c := by
    refine h.invariant (P := Claims py) (fun c hinit => ?_) fun c command c' _ ih hok hstep => ?_
    · obtain rfl : c = {} := hinit
      refine ⟨fun job hjob => absurd hjob List.not_mem_nil, fun a ha => ?_, fun a ha => ?_⟩
      · exact absurd ha List.not_mem_nil
      · exact absurd ha List.not_mem_nil
    · obtain rfl := Option.some.inj hstep
      exact ih.perform command hok
  exact hclaims.roots

def asciiPaths : PathLibrary where
  casefold value := String.ofList (value.toList.map Char.toLower)
  isAlpha c := c.isAlpha
  urlparse value := some ⟨"", "", value⟩

def noTasks : SchedulerContext := ⟨none, fun _ => ""⟩

def createSample (name source target : String) : JobCommand :=
  .create ⟨"request-" ++ name, "create-" ++ name, "draft-" ++ name⟩
    (some {
      draftId := "draft-" ++ name
      sourceName := some name
      sourcePathLabel := some source
      targets := [⟨"Disk", target, none⟩] })
    ⟨"job-" ++ name, "revision-" ++ name⟩

def changeSample (kind : JobLifecycleCommandName) (name key : String) (version : Nat) :
    JobCommand :=
  .lifecycle kind ⟨key, key, "job-" ++ name, "revision-" ++ name, version⟩ "2026-08-01T00:00:00Z"

def photosAway : List JobCommand := [
  createSample "photos" "C:\\Photos" "D:\\Backup",
  changeSample .archive "photos" "archive-photos" 1,
  createSample "music" "C:\\Music" "d:/backup/Music"]

def catalogAfter (commands : List JobCommand) : JobCatalog :=
  commands.foldl (performCommand asciiPaths noTasks) {}

def photosBack : List JobCommand :=
  photosAway ++ [changeSample .reactivate "photos" "reactivate-photos" 2]

/-- After the reactivation both jobs write under one root. -/
theorem reactivation_overlaps :
    ∃ c, (jobCommands asciiPaths noTasks).Reachable c ∧ ¬ RootsClaimed asciiPaths c := by
  refine ⟨catalogAfter photosBack, System.Reachable.replay (.init rfl) photosBack rfl, fun h => ?_⟩
  have hactive : (catalogAfter photosBack).listActiveStandardBackupJobs.map
      (fun job => (job.jobId, job.roots)) =
        [("job-photos", [("C:\\Photos", false), ("D:\\Backup", true)]),
          ("job-music", [("C:\\Music", false), ("d:/backup/Music", true)])] := by
    decide +kernel
  obtain ⟨photos, hphotos, hphotosRow⟩ := List.mem_map.mp (hactive ▸ List.mem_cons_self)
  obtain ⟨music, hmusic, hmusicRow⟩ :=
    List.mem_map.mp (hactive ▸ List.mem_cons_of_mem _ List.mem_cons_self)
  obtain ⟨hphotosId, hphotosRoots⟩ := Prod.mk.inj hphotosRow
  obtain ⟨hmusicId, hmusicRoots⟩ := Prod.mk.inj hmusicRow
  have hne : photos.jobId ≠ music.jobId := by
    rw [hphotosId, hmusicId]
    decide
  have happly := h.between photos hphotos music hmusic hne
  rw [hphotosRoots, hmusicRoots] at happly
  have hdisjoint : Disjoint asciiPaths "D:\\Backup" "d:/backup/Music" :=
    happly ("D:\\Backup", true) (by simp) ("d:/backup/Music", true) (by simp) rfl
  exact absurd hdisjoint (by decide +kernel)

def createPhotos : JobCommand := createSample "photos" "C:\\Photos" "D:\\Backup"

def archivePhotos : JobCommand := changeSample .archive "photos" "archive-photos" 1

def reactivatePhotos : JobCommand := changeSample .reactivate "photos" "reactivate-photos" 2

def createMusic : JobCommand := createSample "music" "C:\\Music" "E:\\Music"

theorem photos_apart_from_music {job : SealedStandardBackupJob}
    (hjob : job ∈ (catalogAfter [createPhotos, archivePhotos, createMusic]).revisions)
    (hid : job.jobId = "job-photos") :
    (catalogAfter [createPhotos, archivePhotos, createMusic]).rejectActiveRootOverlap asciiPaths
      job none = .ok () := by
  have hchecked : (catalogAfter [createPhotos, archivePhotos, createMusic]).revisions.all
      (fun job => job.jobId ≠ "job-photos" ||
        ((catalogAfter [createPhotos, archivePhotos, createMusic]).rejectActiveRootOverlap
          asciiPaths job none).isOk) = true := by
    decide +kernel
  have hok := List.all_eq_true.mp hchecked job hjob
  simp only [hid, ne_eq, not_true_eq_false, decide_false, Bool.false_or] at hok
  cases hresult : (catalogAfter [createPhotos, archivePhotos, createMusic]).rejectActiveRootOverlap
      asciiPaths job none with
  | ok => rfl
  | error code =>
    rw [hresult] at hok
    cases hok

theorem rootsClaimed_photosAndMusic :
    (catalogAfter [createPhotos, archivePhotos, createMusic,
        reactivatePhotos]).listActiveStandardBackupJobs.map SealedStandardBackupJob.jobId =
      ["job-photos", "job-music"] ∧
    RootsClaimed asciiPaths
      (catalogAfter [createPhotos, archivePhotos, createMusic, reactivatePhotos]) := by
  have hcreated : (jobCommands asciiPaths noTasks).ReachableWhen (ReactivatesApart asciiPaths)
      (catalogAfter [createPhotos]) :=
    .step (.init rfl) (show ReactivatesApart asciiPaths {} createPhotos from trivial) rfl
  have harchived : (jobCommands asciiPaths noTasks).ReachableWhen (ReactivatesApart asciiPaths)
      (catalogAfter [createPhotos, archivePhotos]) :=
    .step hcreated (show ReactivatesApart asciiPaths _ archivePhotos from trivial) rfl
  have hmusic : (jobCommands asciiPaths noTasks).ReachableWhen (ReactivatesApart asciiPaths)
      (catalogAfter [createPhotos, archivePhotos, createMusic]) :=
    .step harchived (show ReactivatesApart asciiPaths _ createMusic from trivial) rfl
  refine ⟨by decide +kernel, rootsClaimed_of_reactivatesApart (.step hmusic
    (show ReactivatesApart asciiPaths _ reactivatePhotos from fun _ _ row job hrow hload => ?_)
    rfl)⟩
  refine photos_apart_from_music (JobCatalog.loadRevision_mem hload)
    ((JobCatalog.loadRevision_key hload).1.trans ?_)
  exact Table.lookup_key hrow

end MediaSync.Jobs
