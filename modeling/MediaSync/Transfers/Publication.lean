import Mathlib.Data.List.Nodup
import MediaSync.Transfers.Inbox

/-! Which payloads a publication leaves, however it ends and wherever it is interrupted, and what a
second publication makes of what the first has left. -/
namespace MediaSync.Transfers

variable {manifest : RobocopyBatchManifest} {d₀ d : StagingDisk}

def VerifiedCopy (manifest : RobocopyBatchManifest) (copy : String × Node) : Prop :=
  ∃ content entry, copy.2 = .file content ∧ expectedByName manifest copy.1 = some entry ∧
    fingerprintFile content = entry.expected

def CopiesVerified (manifest : RobocopyBatchManifest) (copies : List (String × Node)) : Prop :=
  ∀ copy ∈ copies, VerifiedCopy manifest copy

def Verified (manifest : RobocopyBatchManifest) (d : StagingDisk) : Prop :=
  ∃ copies, d.inbox = some copies ∧ namesMatch manifest copies = true ∧
    CopiesVerified manifest copies

def ClearEntry (d : StagingDisk) (entry : RobocopyBatchManifestEntry) : Prop :=
  d.payloads entry.payloadPath = none ∨ ∃ node content,
    d.payloads entry.payloadPath = some node ∧ readable node = some content ∧
      fingerprintFile content = entry.expected

def Clear (manifest : RobocopyBatchManifest) (d : StagingDisk) : Prop :=
  ∀ entry ∈ manifest.entries, ClearEntry d entry

def published (manifest : RobocopyBatchManifest) (d : StagingDisk) (path : PayloadPath) :
    Option Node :=
  match d.payloads path with
  | some node => some node
  | none => (manifest.entries.find? fun entry => entry.payloadPath = path).bind fun entry =>
      d.copy entry.sourceFileName

variable {entry : RobocopyBatchManifestEntry}

theorem expectedByName_eq (h : entry ∈ manifest.entries) :
    expectedByName manifest entry.sourceFileName = some entry := by
  unfold expectedByName
  cases hfound :
      manifest.entries.find? fun other => other.sourceFileName = entry.sourceFileName with
  | none =>
    have hnone := List.find?_eq_none.mp hfound entry h
    simp at hnone
  | some other =>
    have hname : other.sourceFileName = entry.sourceFileName := by
      simpa using List.find?_some hfound
    rw [List.inj_on_of_nodup_map manifest.sourceNames (List.mem_of_find?_eq_some hfound) h hname]

theorem payloadPath_injective {entry other : RobocopyBatchManifestEntry}
    (h : entry ∈ manifest.entries) (hother : other ∈ manifest.entries)
    (hpath : other.payloadPath = entry.payloadPath) : other = entry :=
  List.inj_on_of_nodup_map manifest.payloadNames hother h (congrArg PayloadPath.name hpath)

theorem entryByPath_eq (h : entry ∈ manifest.entries) :
    (manifest.entries.find? fun other => other.payloadPath = entry.payloadPath) = some entry := by
  cases hfound : manifest.entries.find? fun other => other.payloadPath = entry.payloadPath with
  | none =>
    have hnone := List.find?_eq_none.mp hfound entry h
    simp at hnone
  | some other =>
    have hpath : other.payloadPath = entry.payloadPath := by
      simpa using List.find?_some hfound
    rw [payloadPath_injective h (List.mem_of_find?_eq_some hfound) hpath]

theorem published_of_none (h : entry ∈ manifest.entries)
    (hnone : d.payloads entry.payloadPath = none) :
    published manifest d entry.payloadPath = d.copy entry.sourceFileName := by
  unfold published
  rw [hnone, entryByPath_eq h]
  rfl

theorem published_of_some {path : PayloadPath} {node : Node} (h : d.payloads path = some node) :
    published manifest d path = some node := by
  unfold published
  rw [h]

theorem published_cases (path : PayloadPath) :
    published manifest d path = d.payloads path ∨
      d.payloads path = none ∧ ∃ entry ∈ manifest.entries, entry.payloadPath = path := by
  cases hnode : d.payloads path with
  | some node => exact .inl (published_of_some hnode)
  | none =>
    cases hfound : manifest.entries.find? fun entry => entry.payloadPath = path with
    | none =>
      refine .inl ?_
      unfold published
      rw [hnode, hfound]
      rfl
    | some entry =>
      have hpath : entry.payloadPath = path := by simpa using List.find?_some hfound
      exact .inr ⟨rfl, entry, List.mem_of_find?_eq_some hfound, hpath⟩

variable {copies : List (String × Node)}

theorem mem_of_lookup {name : String} {node : Node} (h : copies.lookup name = some node) :
    (name, node) ∈ copies := by
  obtain ⟨before, after, rfl, -⟩ := List.lookup_eq_some_iff.mp h
  exact List.mem_append_right before List.mem_cons_self

theorem copy_of_namesMatch (h : namesMatch manifest copies = true)
    (hentry : entry ∈ manifest.entries) : ∃ copy ∈ copies, copy.1 = entry.sourceFileName := by
  rw [namesMatch, Bool.and_eq_true, List.all_eq_true, List.all_eq_true] at h
  simpa using h.2 entry hentry

theorem Verified.copy (h : Verified manifest d) (hentry : entry ∈ manifest.entries) :
    ∃ content, d.copy entry.sourceFileName = some (.file content) ∧
      fingerprintFile content = entry.expected := by
  obtain ⟨copies, hinbox, hnames, hverified⟩ := h
  obtain ⟨copy, hmem, hname⟩ := copy_of_namesMatch hnames hentry
  obtain ⟨node, hnode⟩ := Option.isSome_iff_exists.mp
    (List.lookup_isSome_iff.mpr ⟨copy, hmem, beq_iff_eq.mpr hname.symm⟩)
  obtain ⟨content, expected, hfile, hexpected, hfingerprint⟩ :=
    hverified _ (mem_of_lookup hnode)
  rw [expectedByName_eq hentry] at hexpected
  cases hexpected
  refine ⟨content, ?_, hfingerprint⟩
  rw [StagingDisk.copy, StagingDisk.copies, hinbox]
  exact hnode.trans (congrArg some hfile)

section
variable (faulty : Prop)

def mayFail : PublishStep → Fault Unit → StagingDisk → Prop := fun _ _ _ => faulty

variable {E : StagingDisk → Prop}

theorem verifyCopy_ensures {copy : String × Node}
    (hraised : (VerifiedCopy manifest copy → faulty) → E d₀) :
    (verifyCopy manifest copy).Ensures stagingEffects (mayFail faulty) (fun d => d = d₀ ∧ faulty) E
      (fun observed d => d = d₀ ∧ VerifiedCopy manifest copy ∧
        ∀ entry, expectedByName manifest copy.1 = some entry → observed = entry.expected) d₀ := by
  obtain ⟨name, node⟩ := copy
  have hunverified : ¬ VerifiedCopy manifest (name, node) → E d₀ :=
    fun h => hraised fun hverified => absurd hverified h
  unfold verifyCopy
  split
  · rename_i content entry hnode hentry
    dsimp only at hnode hentry ⊢
    refine ⟨?_, fun cut hfault => hraised fun _ => hfault, fun cut hfault => ⟨rfl, hfault⟩⟩
    split
    · rename_i hobserved
      refine ⟨rfl, ⟨content, entry, hnode, hentry, hobserved⟩, fun other hother => ?_⟩
      rw [hentry] at hother
      cases hother
      exact hobserved
    · rename_i hobserved
      refine hunverified ?_
      rintro ⟨other, expected, hother, hexpected, hfingerprint⟩
      rw [hnode] at hother
      rw [hentry] at hexpected
      cases hother
      cases hexpected
      exact hobserved hfingerprint
  · rename_i hneither
    refine hunverified ?_
    rintro ⟨content, entry, hnode, hentry, -⟩
    exact hneither content entry hnode hentry

variable {copies : List (String × Node)}

theorem verifyCopies_ensures (hraised : (CopiesVerified manifest copies → faulty) → E d₀) :
    (verifyCopies manifest copies).Ensures stagingEffects (mayFail faulty)
      (fun d => d = d₀ ∧ faulty) E (fun observed d => d = d₀ ∧ CopiesVerified manifest copies ∧
        ∀ entry ∈ manifest.entries, (∃ copy ∈ copies, copy.1 = entry.sourceFileName) →
          observed.lookup entry.sourceFileName = some entry.expected) d₀ := by
  induction copies with
  | nil => exact ⟨rfl, fun _ hmem => (List.not_mem_nil hmem).elim, by simp⟩
  | cons copy rest ih =>
    unfold verifyCopies
    refine Faulty.Ensures.bind (verifyCopy_ensures faulty fun h => hraised fun hall =>
      h (hall copy List.mem_cons_self)) ?_
    rintro observed _ ⟨rfl, hcopy, hobserved⟩
    refine Faulty.Ensures.bind (ih fun h => hraised fun hall =>
      h fun other hother => hall other (List.mem_cons_of_mem _ hother)) ?_
    rintro others _ ⟨rfl, hrest, hothers⟩
    refine Faulty.Ensures.pure ⟨rfl, ?_, ?_⟩
    · intro other hother
      rcases List.mem_cons.mp hother with rfl | hother
      · exact hcopy
      · exact hrest other hother
    · rintro entry hentry ⟨other, hmem, hname⟩
      rw [List.lookup_cons]
      by_cases hfirst : entry.sourceFileName = copy.1
      · rw [hfirst, beq_self_eq_true]
        exact congrArg some (hobserved entry (hfirst ▸ expectedByName_eq hentry))
      · rw [beq_false_of_ne hfirst]
        rcases List.mem_cons.mp hmem with rfl | hmem
        · exact absurd hname.symm hfirst
        · exact hothers entry hentry ⟨other, hmem, hname⟩

/-- The disk with the entries of `rest` still to be published. -/
structure Publishing (manifest : RobocopyBatchManifest) (d₀ : StagingDisk)
    (rest : List RobocopyBatchManifestEntry) (d : StagingDisk) : Prop where
  part : rest.Sublist manifest.entries
  inbox : ∃ copies, d.inbox = some copies ∧
    ∀ copy ∈ copies, ∃ entry ∈ rest, copy.1 = entry.sourceFileName
  kept : ∀ entry ∈ rest, d.copy entry.sourceFileName = d₀.copy entry.sourceFileName
  whole : d.inbox = d₀.inbox ∨ ∃ entry ∈ manifest.entries, ∀ copy ∈ d.copies,
    copy.1 ≠ entry.sourceFileName
  payloads : ∀ path, d.payloads path = d₀.payloads path ∨
    d.payloads path = published manifest d₀ path
  ahead : ∀ entry ∈ rest, d.payloads entry.payloadPath = d₀.payloads entry.payloadPath
  behind : ∀ entry ∈ manifest.entries, entry ∉ rest → ClearEntry d₀ entry ∧
    d.payloads entry.payloadPath = published manifest d₀ entry.payloadPath

/-- What an interrupted publication leaves: each payload as it was or published, and the inbox
whole, without the copy of an entry, or removed. -/
structure Reached (manifest : RobocopyBatchManifest) (d₀ d : StagingDisk) : Prop where
  whole : d.inbox = d₀.inbox ∨ ∃ entry ∈ manifest.entries, ∀ copy ∈ d.copies,
    copy.1 ≠ entry.sourceFileName
  payloads : ∀ path, d.payloads path = d₀.payloads path ∨
    d.payloads path = published manifest d₀ path

variable {rest : List RobocopyBatchManifestEntry}

theorem Publishing.reached (h : Publishing manifest d₀ rest d) :
    Reached manifest d₀ d := ⟨h.whole, h.payloads⟩

variable {name other : String}

theorem lookup_filter_ne (hne : other ≠ name) :
    (copies.filter fun copy => copy.1 ≠ name).lookup other = copies.lookup other := by
  induction copies with
  | nil => rfl
  | cons copy rest ih =>
    obtain ⟨found, node⟩ := copy
    by_cases hname : found = name
    · rw [List.filter_cons_of_neg (by simpa using hname), ih, List.lookup_cons,
        beq_false_of_ne (hname ▸ hne)]
    · rw [List.filter_cons_of_pos (by simpa using hname), List.lookup_cons, List.lookup_cons, ih]

theorem StagingDisk.copy_unlink (hne : other ≠ name) :
    (d.unlink name).copy other = d.copy other := by
  unfold StagingDisk.copy StagingDisk.copies StagingDisk.unlink
  cases d.inbox with
  | none => rfl
  | some copies => exact lookup_filter_ne hne

variable {entry : RobocopyBatchManifestEntry}

theorem Publishing.unlink (h : Publishing manifest d₀ (entry :: rest) d)
    {payloads : PayloadPath → Option Node}
    (hothers : ∀ path, path ≠ entry.payloadPath → payloads path = d.payloads path)
    (hclear : ClearEntry d₀ entry)
    (hpayload : payloads entry.payloadPath = published manifest d₀ entry.payloadPath) :
    Publishing manifest d₀ rest ({ d with payloads }.unlink entry.sourceFileName) := by
  have hentry : entry ∈ manifest.entries := h.part.subset List.mem_cons_self
  have hpart : rest.Sublist manifest.entries := (List.sublist_cons_self entry rest).trans h.part
  have hnodup : ((entry :: rest).map RobocopyBatchManifestEntry.sourceFileName).Nodup :=
    (h.part.map _).nodup manifest.sourceNames
  have hname : ∀ other ∈ rest, other.sourceFileName ≠ entry.sourceFileName := by
    intro other hother hsame
    exact (List.nodup_cons.mp hnodup).1 (List.mem_map.mpr ⟨other, hother, hsame⟩)
  have hpath : ∀ other ∈ manifest.entries, other ≠ entry → other.payloadPath ≠ entry.payloadPath :=
    fun other hother hne hsame => hne (payloadPath_injective hentry hother hsame)
  have hrest : ∀ other ∈ rest, other ≠ entry := fun other hother hsame =>
    hname other hother (congrArg _ hsame)
  obtain ⟨copies, hinbox, hcopies⟩ := h.inbox
  have hleft : ({ d with payloads }.unlink entry.sourceFileName).inbox =
      some (copies.filter fun copy => copy.1 ≠ entry.sourceFileName) := by
    simp only [StagingDisk.unlink, hinbox, Option.map_some]
  refine { part := hpart, inbox := ⟨_, hleft, ?_⟩, kept := ?_, whole := .inr ⟨entry, hentry, ?_⟩,
           payloads := ?_, ahead := ?_, behind := ?_ }
  · intro copy hmem
    obtain ⟨hold, hne⟩ := List.mem_filter.mp hmem
    obtain ⟨other, hother, hcopy⟩ := hcopies copy hold
    rcases List.mem_cons.mp hother with rfl | hother
    · exact absurd hcopy (by simpa using hne)
    · exact ⟨other, hother, hcopy⟩
  · intro other hother
    rw [StagingDisk.copy_unlink (hname other hother)]
    exact h.kept other (List.mem_cons_of_mem _ hother)
  · intro copy hmem
    rw [StagingDisk.copies, hleft] at hmem
    simpa using (List.mem_filter.mp hmem).2
  · intro path
    by_cases hsame : path = entry.payloadPath
    · subst hsame
      exact .inr hpayload
    · have hpayloads := h.payloads path
      rw [← hothers path hsame] at hpayloads
      exact hpayloads
  · intro other hother
    exact (hothers _ (hpath other (hpart.subset hother) (hrest other hother))).trans
      (h.ahead other (List.mem_cons_of_mem _ hother))
  · intro other hother hdone
    by_cases hsame : other = entry
    · subst hsame
      exact ⟨hclear, hpayload⟩
    · obtain ⟨hbefore, hplaced⟩ := h.behind other hother (by simp [hsame, hdone])
      exact ⟨hbefore, (hothers _ (hpath other hother hsame)).trans hplaced⟩

theorem exists?_eq_true {node : Node} {content : FileContent} (h : readable node = some content) :
    exists? (some node) = true := by
  cases node with
  | file _ => rfl
  | directory => rfl
  | symlink target =>
    cases target with
    | none => cases h
    | some _ => rfl

variable {C : StagingDisk → Prop} {observedByName : List (String × FileFingerprint)}

theorem publishEntry_ensures (h : Publishing manifest d₀ (entry :: rest) d)
    (hobserved : observedByName.lookup entry.sourceFileName = some entry.expected)
    (hkilled : ∀ d, Reached manifest d₀ d → faulty → C d)
    (hraised : ∀ d, Reached manifest d₀ d → (ClearEntry d₀ entry → faulty) → E d) :
    (publishEntry observedByName entry).Ensures stagingEffects (mayFail faulty) C E
      (fun _ d => Publishing manifest d₀ rest d) d := by
  have hentry : entry ∈ manifest.entries := h.part.subset List.mem_cons_self
  have hahead := h.ahead entry List.mem_cons_self
  have hfault : faulty → E d := fun hfault => hraised d h.reached fun _ => hfault
  have hrace : ¬ ClearEntry d₀ entry → E d :=
    fun hrace => hraised d h.reached fun hclear => absurd hclear hrace
  unfold publishEntry
  refine Faulty.Ensures.bind (Q := fun _ after => d = after)
    (Faulty.Ensures.step rfl (fun _ => hfault) fun _ => hkilled d h.reached) ?_
  rintro _ _ rfl
  extract_lets unlinkCopy
  show Faulty.Ensures stagingEffects (mayFail faulty) C E (if _ then _ else _) _ _
  cases hnode : d₀.payloads entry.payloadPath with
  | none =>
    -- the path is free: the copy is linked, then its name in the inbox is removed
    have hfree := hahead.trans hnode
    have hexists : exists? none = false := rfl
    rw [hfree, hexists, if_neg Bool.false_ne_true, Option.isSome_none, if_neg Bool.false_ne_true]
    have hlinked : (d.link entry.sourceFileName entry.payloadPath).payloads entry.payloadPath =
        published manifest d₀ entry.payloadPath := by
      rw [published_of_none hentry hnode, ← h.kept entry List.mem_cons_self]
      exact if_pos rfl
    have hothers : ∀ path, path ≠ entry.payloadPath →
        (d.link entry.sourceFileName entry.payloadPath).payloads path = d.payloads path :=
      fun path hne => if_neg hne
    have hreached : Reached manifest d₀ (d.link entry.sourceFileName entry.payloadPath) := by
      refine ⟨h.whole, fun path => ?_⟩
      by_cases hsame : path = entry.payloadPath
      · subst hsame
        exact .inr hlinked
      · rw [hothers path hsame]
        exact h.payloads path
    refine ⟨?_, fun _ => hfault, fun _ => hkilled d h.reached⟩
    exact Faulty.Ensures.step (h.unlink hothers (.inl hnode) hlinked)
      (fun _ hfault => hraised _ hreached fun _ => hfault) fun _ => hkilled _ hreached
  | some node =>
    -- something stands at the path: it is kept, and must be what the entry expects
    have hplaced := hahead.trans hnode
    have hclear : ClearEntry d₀ entry ↔ ∃ content, readable node = some content ∧
        fingerprintFile content = entry.expected := by
      unfold ClearEntry
      rw [hnode]
      constructor
      · rintro (hnone | ⟨other, content, hother, hcontent⟩)
        · cases hnone
        · cases hother
          exact ⟨content, hcontent⟩
      · rintro ⟨content, hcontent⟩
        exact .inr ⟨node, content, rfl, hcontent⟩
    rw [hplaced]
    by_cases hexists : exists? (some node) = true
    · rw [if_pos hexists]
      refine ⟨?_, fun _ => hfault, fun _ => hkilled d h.reached⟩
      rw [Option.bind_some]
      cases hcontent : readable node with
      | none =>
        refine hrace fun hok => ?_
        obtain ⟨content, hother, -⟩ := hclear.mp hok
        rw [hcontent] at hother
        cases hother
      | some content =>
        dsimp only
        rw [hobserved]
        by_cases hsame : fingerprintFile content = entry.expected
        · rw [if_pos (congrArg some hsame)]
          have hkept : d.payloads entry.payloadPath = published manifest d₀ entry.payloadPath :=
            hplaced.trans (published_of_some hnode).symm
          exact Faulty.Ensures.step
            (h.unlink (fun _ _ => rfl) (hclear.mpr ⟨content, hcontent, hsame⟩) hkept)
            (fun _ => hfault) fun _ => hkilled d h.reached
        · rw [if_neg fun hok => hsame (Option.some.inj hok)]
          refine hrace fun hok => ?_
          obtain ⟨other, hother, hfingerprint⟩ := hclear.mp hok
          rw [hcontent] at hother
          cases hother
          exact hsame hfingerprint
    · rw [if_neg hexists, Option.isSome_some, if_pos rfl]
      refine hrace fun hok => ?_
      obtain ⟨content, hcontent, -⟩ := hclear.mp hok
      exact hexists (exists?_eq_true hcontent)

theorem publishing_start (hinbox : d₀.inbox = some copies)
    (hcopies : CopiesVerified manifest copies) : Publishing manifest d₀ manifest.entries d₀ where
  part := .refl _
  inbox := by
    refine ⟨copies, hinbox, fun copy hmem => ?_⟩
    obtain ⟨content, entry, -, hentry, -⟩ := hcopies copy hmem
    have hname : entry.sourceFileName = copy.1 := by simpa using List.find?_some hentry
    exact ⟨entry, List.mem_of_find?_eq_some hentry, hname.symm⟩
  kept _ _ := rfl
  whole := .inl rfl
  payloads _ := .inl rfl
  ahead _ _ := rfl
  behind entry hentry hdone := absurd hentry hdone

theorem Publishing.inbox_empty (h : Publishing manifest d₀ [] d) : d.inbox = some [] := by
  obtain ⟨copies, hinbox, hcopies⟩ := h.inbox
  have hnone : copies = [] := by
    refine List.eq_nil_iff_forall_not_mem.mpr fun copy hmem => ?_
    obtain ⟨entry, hentry, -⟩ := hcopies copy hmem
    exact List.not_mem_nil hentry
  rw [hinbox, hnone]

theorem Publishing.clear (h : Publishing manifest d₀ [] d) : Clear manifest d₀ :=
  fun entry hentry => (h.behind entry hentry List.not_mem_nil).1

theorem Publishing.all_published (h : Publishing manifest d₀ [] d) (path : PayloadPath) :
    d.payloads path = published manifest d₀ path := by
  rcases h.payloads path with hkept | hpublished
  · cases hnode : d₀.payloads path with
    | some node => rw [hkept, hnode, published_of_some hnode]
    | none =>
      cases hfound : manifest.entries.find? fun entry => entry.payloadPath = path with
      | none =>
        unfold published
        rw [hkept, hnode, hfound]
        rfl
      | some entry =>
        have hpath : entry.payloadPath = path := by simpa using List.find?_some hfound
        rw [← hpath]
        exact (h.behind entry (List.mem_of_find?_eq_some hfound) List.not_mem_nil).2
  · exact hpublished

/-- What a publication that does not return leaves. -/
def Outcome (manifest : RobocopyBatchManifest) (d₀ d : StagingDisk) : Prop :=
  d = d₀ ∨ Verified manifest d₀ ∧ Reached manifest d₀ d

theorem publish_ensures :
    (publishRobocopyBatchInbox manifest).Ensures stagingEffects (mayFail faulty)
      (fun d => Outcome manifest d₀ d ∧ faulty)
      (fun d => Outcome manifest d₀ d ∧ (Verified manifest d₀ → Clear manifest d₀ → faulty))
      (fun _ d => Verified manifest d₀ ∧ Clear manifest d₀ ∧
        (∀ path, d.payloads path = published manifest d₀ path) ∧
        (d.inbox = none ∨ faulty ∧ d.inbox = some [])) d₀ := by
  have hsame : ∀ C : Prop, (Verified manifest d₀ → C) →
      Outcome manifest d₀ d₀ ∧ (Verified manifest d₀ → Clear manifest d₀ → C) :=
    fun C h => ⟨.inl rfl, fun hverified _ => h hverified⟩
  unfold publishRobocopyBatchInbox
  refine Faulty.Ensures.bind (Q := fun copies d => d₀ = d ∧ d₀.inbox = some copies) ?_ ?_
  · cases hinbox : d₀.inbox with
    | none =>
      simp only [enumerateInbox, Faulty.Ensures, hinbox]
      refine hsame faulty fun hverified => ?_
      obtain ⟨copies, hcopies, -⟩ := hverified
      rw [hinbox] at hcopies
      cases hcopies
    | some copies =>
      simp only [enumerateInbox, Faulty.Ensures, hinbox]
      exact ⟨⟨rfl, trivial⟩, fun _ hfault => hsame faulty fun _ => hfault,
        fun _ hfault => ⟨.inl rfl, hfault⟩⟩
  · rintro copies _ ⟨rfl, hinbox⟩
    by_cases hnames : namesMatch manifest copies = true
    · rw [if_pos hnames]
      refine Faulty.Ensures.bind ((verifyCopies_ensures faulty (E := fun d =>
        Outcome manifest d₀ d ∧ (Verified manifest d₀ → Clear manifest d₀ → faulty))
        fun h => ?_).mono (fun _ h => ⟨.inl h.1, h.2⟩) (fun _ => id) fun _ _ => id) ?_
      · refine hsame faulty fun hverified => h ?_
        obtain ⟨others, hothers, -, hcopies⟩ := hverified
        rw [hinbox] at hothers
        cases hothers
        exact hcopies
      · rintro observedByName d ⟨hread, hcopies, hobserved⟩
        rw [hread]
        have hverified : Verified manifest d₀ := ⟨copies, hinbox, hnames, hcopies⟩
        refine Faulty.Ensures.bind (Q := fun _ d => Publishing manifest d₀ [] d)
          (Faulty.Ensures.forM (I := Publishing manifest d₀) (publishing_start hinbox hcopies) ?_)
          ?_
        · intro entry rest d h
          have hentry : entry ∈ manifest.entries := h.part.subset List.mem_cons_self
          exact publishEntry_ensures faulty h
            (hobserved entry hentry (copy_of_namesMatch hnames hentry))
            (fun d hreached hfault => ⟨.inr ⟨hverified, hreached⟩, hfault⟩)
            fun d hreached hnot => ⟨.inr ⟨hverified, hreached⟩,
              fun _ hclear => hnot (hclear entry hentry)⟩
        · intro _ d h
          have hempty := h.inbox_empty
          refine ⟨⟨hverified, h.clear, h.all_published, .inl ?_⟩,
            fun _ hfault => ⟨hverified, h.clear, h.all_published, .inr ⟨hfault, hempty⟩⟩,
            fun _ hfault => ⟨.inr ⟨hverified, h.reached⟩, hfault⟩⟩
          exact if_pos hempty
    · rw [if_neg hnames]
      refine hsame faulty fun hverified => ?_
      obtain ⟨others, hothers, hmatch, -⟩ := hverified
      rw [hinbox] at hothers
      cases hothers
      exact absurd hmatch hnames

end

def publication (manifest : RobocopyBatchManifest) (fates : List (Option (Fault Unit)))
    (d : StagingDisk) : Exit PublishRaised Unit × StagingDisk :=
  (publishRobocopyBatchInbox manifest).perform stagingEffects fates d

theorem meets_mayFail {α : Type} (p : Publication α) (fates : List (Option (Fault Unit)))
    (d : StagingDisk) : p.Meets stagingEffects (mayFail True) fates d := by
  induction p generalizing fates d with
  | ret a => exact trivial
  | raise error => exact trivial
  | look k ih => exact ih d fates d
  | act s next failed ihnext ihfailed =>
    match fates with
    | [] => exact ihnext [] _
    | none :: fates => exact ihnext fates _
    | some (.raised cut) :: fates => exact ⟨trivial, ihfailed fates _⟩
    | some (.killed cut) :: fates => exact trivial

theorem publication_outcome (fates : List (Option (Fault Unit))) :
    (publication manifest fates d).2 = d ∨ Verified manifest d ∧
      ((publication manifest fates d).2.inbox = d.inbox ∨ ∃ entry ∈ manifest.entries,
        ∀ copy ∈ (publication manifest fates d).2.copies, copy.1 ≠ entry.sourceFileName) ∧
      ∀ path, (publication manifest fates d).2.payloads path = d.payloads path ∨
        (publication manifest fates d).2.payloads path = published manifest d path := by
  have hends := (@publish_ensures manifest d True).sound
    (meets_mayFail (publishRobocopyBatchInbox manifest) fates d)
  unfold publication
  match hrun : (publishRobocopyBatchInbox manifest).perform stagingEffects fates d with
  | (.returned (), d') =>
    rw [hrun] at hends
    obtain ⟨hverified, -, hpayloads, hinbox⟩ := hends
    refine .inr ⟨hverified, .inr ?_, fun path => .inr (hpayloads path)⟩
    obtain ⟨entry, hentry⟩ := List.exists_mem_of_ne_nil _ manifest.nonempty
    refine ⟨entry, hentry, fun copy hmem => ?_⟩
    rcases hinbox with hnone | ⟨-, hempty⟩
    · simp [StagingDisk.copies, hnone] at hmem
    · simp [StagingDisk.copies, hempty] at hmem
  | (.raised error, d') =>
    rw [hrun] at hends
    obtain ⟨rfl | ⟨hverified, hreached⟩, -⟩ := hends
    · exact .inl rfl
    · exact .inr ⟨hverified, hreached.whole, hreached.payloads⟩
  | (.killed, d') =>
    rw [hrun] at hends
    obtain ⟨rfl | ⟨hverified, hreached⟩, -⟩ := hends
    · exact .inl rfl
    · exact .inr ⟨hverified, hreached.whole, hreached.payloads⟩

theorem publication_completes (hverified : Verified manifest d) (hclear : Clear manifest d) :
    publication manifest [] d = (.returned (), ⟨none, published manifest d⟩) := by
  have hends := (@publish_ensures manifest d False).sound
    (Faulty.meets_undisturbed (publishRobocopyBatchInbox manifest) d)
  unfold publication
  match hrun : (publishRobocopyBatchInbox manifest).perform stagingEffects [] d with
  | (.returned (), ⟨inbox, payloads⟩) =>
    rw [hrun] at hends
    obtain ⟨-, -, hpayloads, hinbox | ⟨hfalse, -⟩⟩ := hends
    · have hinbox : inbox = none := hinbox
      have hpayloads : payloads = published manifest d := funext hpayloads
      rw [hinbox, hpayloads]
    · exact hfalse.elim
  | (.raised error, d') =>
    rw [hrun] at hends
    exact (hends.2 hverified hclear).elim
  | (.killed, d') =>
    rw [hrun] at hends
    exact hends.2.elim

theorem publication_returned {fates : List (Option (Fault Unit))}
    (h : (publication manifest fates d).1 = .returned ()) :
    Verified manifest d ∧ Clear manifest d := by
  have hends := (@publish_ensures manifest d True).sound
    (meets_mayFail (publishRobocopyBatchInbox manifest) fates d)
  unfold publication at h
  match hrun : (publishRobocopyBatchInbox manifest).perform stagingEffects fates d with
  | (.returned (), d') =>
    rw [hrun] at hends
    exact ⟨hends.1, hends.2.1⟩
  | (.raised error, d') =>
    rw [hrun] at h
    cases h
  | (.killed, d') =>
    rw [hrun] at h
    cases h

theorem published_congr {d' : StagingDisk} (hinbox : d'.inbox = d.inbox)
    (hpayloads : ∀ path, d'.payloads path = d.payloads path ∨
      d'.payloads path = published manifest d path) :
    published manifest d' = published manifest d := by
  have hcopy : d'.copy = d.copy := by
    funext name
    rw [StagingDisk.copy, StagingDisk.copies, hinbox]
    rfl
  funext path
  cases hnode : d.payloads path with
  | some node =>
    have hkept : d'.payloads path = some node := by
      rcases hpayloads path with hkept | hpublished
      · rw [hkept, hnode]
      · rw [hpublished, published_of_some hnode]
    rw [published_of_some hkept, published_of_some hnode]
  | none =>
    cases hnode' : d'.payloads path with
    | none =>
      unfold published
      rw [hnode, hnode', hcopy]
    | some node =>
      rw [published_of_some hnode']
      rcases hpayloads path with hkept | hpublished
      · rw [hnode', hnode] at hkept
        cases hkept
      · rw [← hpublished, hnode']

theorem Clear.congr {d' : StagingDisk} (hverified : Verified manifest d)
    (hclear : Clear manifest d)
    (hpayloads : ∀ path, d'.payloads path = d.payloads path ∨
      d'.payloads path = published manifest d path) : Clear manifest d' := by
  intro entry hentry
  have hbefore := hclear entry hentry
  unfold ClearEntry at hbefore ⊢
  rcases hpayloads entry.payloadPath with hkept | hpublished
  · rw [hkept]
    exact hbefore
  · rw [hpublished]
    rcases hbefore with hnone | ⟨node, content, hnode, hcontent⟩
    · obtain ⟨content, hcopy, hfingerprint⟩ := hverified.copy hentry
      rw [published_of_none hentry hnone, hcopy]
      exact .inr ⟨_, content, rfl, rfl, hfingerprint⟩
    · rw [published_of_some hnode]
      exact .inr ⟨node, content, rfl, hcontent⟩

theorem publication_refused (hentry : entry ∈ manifest.entries)
    (hgone : ∀ copy ∈ d.copies, copy.1 ≠ entry.sourceFileName) :
    ∃ nextAction, publication manifest [] d =
      (.raised (.stagingError "STAGING_MANIFEST_MISMATCH" nextAction), d) := by
  have hrun : publication manifest [] d = Faulty.perform stagingEffects (enumerateInbox.bind
      fun copies => _) [] d := rfl
  rw [hrun]
  cases hinbox : d.inbox with
  | none =>
    refine ⟨"Retry the transfer because the Robocopy staging inbox cannot be enumerated.", ?_⟩
    simp only [enumerateInbox, Faulty.bind, Faulty.perform, hinbox, fail]
  | some copies =>
    have hnames : ¬ namesMatch manifest copies = true := by
      intro h
      obtain ⟨copy, hmem, hname⟩ := copy_of_namesMatch h hentry
      refine hgone copy ?_ hname
      rw [StagingDisk.copies, hinbox]
      exact hmem
    refine ⟨"Quarantine the staging inbox because it does not match the batch manifest.", ?_⟩
    simp only [enumerateInbox, Faulty.bind, Faulty.perform, hinbox, if_neg hnames, fail,
      stagingEffects]

/-- After any publication, interrupted or not, each payload path is as it was, or was free and holds
the file that its entry expects; repeated, an interrupted publication completes. -/
theorem inbox_publication (manifest : RobocopyBatchManifest) (d : StagingDisk)
    (fates : List (Option (Fault Unit))) :
    (∀ path, (publication manifest fates d).2.payloads path = d.payloads path ∨
      d.payloads path = none ∧ ∃ entry ∈ manifest.entries, entry.payloadPath = path ∧
        ∃ content, (publication manifest fates d).2.payloads path = some (.file content) ∧
          fingerprintFile content = entry.expected) ∧
    ((∃ path, (publication manifest fates d).2.payloads path ≠ d.payloads path) →
      Verified manifest d) ∧
    (∀ completed, publication manifest [] d = (.returned (), completed) →
      let interrupted := (publication manifest fates d).2
      (interrupted.inbox = d.inbox →
        publication manifest [] interrupted = (.returned (), completed)) ∧
      (interrupted.inbox ≠ d.inbox → ∃ nextAction, publication manifest [] interrupted =
        (.raised (.stagingError "STAGING_MANIFEST_MISMATCH" nextAction), interrupted))) ∧
    ∀ entry ∈ manifest.entries, ∀ content, d.payloads entry.payloadPath = none →
      (publication manifest fates d).2.payloads entry.payloadPath = some (.file content) →
      ∀ expected : ExpectedFingerprint, expected.toFileFingerprint = entry.expected →
        (∀ streams ∈ expected.namedStreams, content.namedStreams = streams) → ∀ recent,
        existingPayload ((publication manifest fates d).2.payloads entry.payloadPath) expected
          recent = .ok (if recent then "ROBOCOPY_BATCH_TRANSFERRED_EXISTING"
            else "ROBOCOPY_TRANSFERRED_EXISTING_MATCH") := by
  have houtcome := @publication_outcome manifest d fates
  generalize publication manifest fates d = after at houtcome
  obtain ⟨exit, d'⟩ := after
  dsimp only at houtcome ⊢
  have hplaced : ∀ path, d'.payloads path = d.payloads path ∨
      d.payloads path = none ∧ ∃ entry ∈ manifest.entries, entry.payloadPath = path ∧
        ∃ content, d'.payloads path = some (.file content) ∧
          fingerprintFile content = entry.expected := by
    intro path
    rcases houtcome with rfl | ⟨hverified, -, hpayloads⟩
    · exact .inl rfl
    · rcases hpayloads path with hkept | hpublished
      · exact .inl hkept
      · rcases published_cases path with hsame | ⟨hnone, entry, hentry, rfl⟩
        · exact .inl (hpublished.trans hsame)
        · obtain ⟨content, hcopy, hfingerprint⟩ := hverified.copy hentry
          refine .inr ⟨hnone, entry, hentry, rfl, content, ?_, hfingerprint⟩
          rw [hpublished, published_of_none hentry hnone, hcopy]
  refine ⟨hplaced, ?_, ?_, ?_⟩
  · rintro ⟨path, hchanged⟩
    rcases houtcome with rfl | ⟨hverified, -, -⟩
    · exact absurd rfl hchanged
    · exact hverified
  · intro completed hcompleted
    obtain ⟨hverified, hclear⟩ := publication_returned (congrArg Prod.fst hcompleted)
    have hdone := (publication_completes hverified hclear).symm.trans hcompleted
    have hpayloads : ∀ path, d'.payloads path = d.payloads path ∨
        d'.payloads path = published manifest d path := by
      rcases houtcome with rfl | ⟨-, -, hpayloads⟩
      · exact fun _ => .inl rfl
      · exact hpayloads
    constructor
    · intro hinbox
      have hverified' : Verified manifest d' := by
        obtain ⟨copies, hcopies, hrest⟩ := hverified
        exact ⟨copies, hinbox.trans hcopies, hrest⟩
      rw [publication_completes hverified' (hclear.congr hverified hpayloads),
        published_congr hinbox hpayloads]
      exact hdone
    · intro hinbox
      rcases houtcome with rfl | ⟨-, hsame | ⟨entry, hentry, hgone⟩, -⟩
      · exact absurd rfl hinbox
      · exact absurd hsame hinbox
      · exact publication_refused hentry hgone
  · intro entry hentry content hfree hpayload expected hexpected hstreams recent
    rw [hpayload]
    rcases hplaced entry.payloadPath with hkept | ⟨-, other, hother, hpath, found, hfound, hmatch⟩
    · rw [hkept, hfree] at hpayload
      cases hpayload
    · rw [hpayload] at hfound
      cases hfound
      rw [payloadPath_injective hentry hother hpath, ← hexpected] at hmatch
      have hfingerprints : fingerprintsMatch content expected = true := by
        rw [fingerprintsMatch, Bool.and_eq_true, decide_eq_true_eq]
        refine ⟨hmatch, ?_⟩
        cases hnamed : expected.namedStreams with
        | none => rfl
        | some streams => exact decide_eq_true (hstreams streams hnamed)
      cases recent with
      | false => exact if_pos hfingerprints
      | true => exact if_pos (congrArg FileFingerprint.byteCount hmatch)

def twoFiles : RobocopyBatchManifest where
  entries := [
    { sourceFileName := "a.jpg", payloadPath := ⟨"staging", "1.payload"⟩,
      expected := fingerprintFile { bytes := [] } },
    { sourceFileName := "b.jpg", payloadPath := ⟨"staging", "2.payload"⟩,
      expected := fingerprintFile { bytes := [] } }]
  nonempty := List.cons_ne_nil _ _
  sourceNames := by decide
  payloadNames := by decide

def twoCopies : StagingDisk where
  inbox := some [("a.jpg", .file { bytes := [] }), ("b.jpg", .file { bytes := [] })]
  payloads _ := none

def afterFirst : List (Option (Fault Unit)) := List.replicate 6 none ++ [some (.killed ())]

theorem twoCopies_verified : Verified twoFiles twoCopies := by
  refine ⟨_, rfl, by decide +kernel, ?_⟩
  intro copy hmem
  rcases List.mem_cons.mp hmem with rfl | hmem
  · exact ⟨_, _, rfl, rfl, rfl⟩
  · rcases List.mem_cons.mp hmem with rfl | hmem
    · exact ⟨_, _, rfl, rfl, rfl⟩
    · exact (List.not_mem_nil hmem).elim

theorem twoCopies_interrupted :
    (publication twoFiles afterFirst twoCopies).2.inbox =
      some [("b.jpg", .file { bytes := [] })] := by
  decide +kernel

def beforeUnlink : List (Option (Fault Unit)) := List.replicate 5 none ++ [some (.killed ())]

/-- Killed when the first payload stands and its copy is still in the inbox, the publication
completes when it is repeated. -/
theorem inbox_publication_repeated :
    ((publication twoFiles beforeUnlink twoCopies).2.payloads ⟨"staging", "1.payload"⟩).isSome ∧
      publication twoFiles [] (publication twoFiles beforeUnlink twoCopies).2 =
        (.returned (), ⟨none, published twoFiles twoCopies⟩) := by
  have hdone : publication twoFiles [] twoCopies =
      (.returned (), ⟨none, published twoFiles twoCopies⟩) :=
    publication_completes twoCopies_verified fun _ _ => .inl rfl
  exact ⟨by decide +kernel, ((inbox_publication twoFiles twoCopies beforeUnlink).2.2.1 _ hdone).1
    (by decide +kernel)⟩

/-- Killed after the first file, the publication is refused when it is repeated, though it would
have completed undisturbed. -/
theorem interrupted_publication_refused :
    (publication twoFiles [] twoCopies).1 = .returned () ∧
      (publication twoFiles [] (publication twoFiles afterFirst twoCopies).2).1 ≠ .returned () := by
  refine ⟨?_, fun hreturned => ?_⟩
  · rw [publication_completes twoCopies_verified fun _ _ => .inl rfl]
  · obtain ⟨hverified, -⟩ := publication_returned hreturned
    obtain ⟨copies, hinbox, hnames, -⟩ := hverified
    rw [twoCopies_interrupted] at hinbox
    cases hinbox
    revert hnames
    decide +kernel

end MediaSync.Transfers
