import MediaSync.Duplicates.HashCache
import MediaSync.Foundation.Sha256Bytes

/-! Whatever is persisted, the active record of an identity is of the strongest evidence that was
ever accepted for it. -/
namespace MediaSync.Duplicates
open Transition

section
variable {limits : HashCacheLimits} {faults : SqliteFaults} {r : HashedRecord}
  {rows base : List HashCacheRow} {flag : Bool} {s : HashCache} {call : PersistCall}

theorem executeCache_bind {α : Type} {statement : HashCacheStatement}
    {f : List HashCacheRow → List HashCacheRow} {k : Unit → HashCacheProcedure α} :
    (executeCache faults statement f >>= k) rows =
      match faults statement with
      | some raised => (.error raised, rows)
      | none => k () (f rows) := by
  cases h : faults statement with
  | none => exact Procedure.bind_ok (by unfold executeCache; rw [h])
  | some raised => exact Procedure.bind_error (by unfold executeCache; rw [h])

theorem readRows_bind {α : Type} {k : List HashCacheRow → HashCacheProcedure α} :
    (readRows >>= k) rows = k rows rows := rfl

/-- How a record of evidence is taken into the rows. -/
inductive Admits (limits : HashCacheLimits) (r : HashedRecord) (rows : List HashCacheRow) :
    List HashCacheRow → Bool → Prop
  | inserted : loadActiveRow rows r.identityHash = none →
      rows.countP (·.active) < limits.maxActiveRows → Admits limits r rows rows true
  | promoted (current) : loadActiveRow rows r.identityHash = some current →
      evidenceStrength current.record.evidenceKind < evidenceStrength r.record.evidenceKind →
      Admits limits r rows (deactivate current.id rows) true
  | retained (current) : loadActiveRow rows r.identityHash = some current →
      evidenceStrength r.record.evidenceKind < evidenceStrength current.record.evidenceKind →
      Admits limits r rows rows false

def acceptedRows (limits : HashCacheLimits) (r : HashedRecord)
    (rows base : List HashCacheRow) (flag : Bool) : List HashCacheRow :=
  pruneHistory limits r.identityHash
    (insertRow r (nextGeneration rows r.identityHash) flag base)

def acceptanceOf (r : HashedRecord) (rows : List HashCacheRow) : Acceptance where
  cacheIdentityHash := r.identityHash
  evidenceHash := r.evidenceHash
  evidenceKind := r.record.evidenceKind
  evidenceGeneration := nextGeneration rows r.identityHash

theorem acceptRecord_cases {state : HashCacheWriteState} {generation : Nat}
    {kind : HashCacheEvidenceKind} :
    (∃ raised, (acceptRecord limits faults r state generation flag kind rows).1 =
      .error raised) ∨
    acceptRecord limits faults r state generation flag kind rows =
      (.ok (reportOf r state (some (newId rows)) (some generation) (some kind)),
        pruneHistory limits r.identityHash
          (insertRow r generation flag rows)) := by
  unfold acceptRecord
  rw [readRows_bind, executeCache_bind]
  split
  · exact .inl ⟨_, rfl⟩
  · rw [executeCache_bind]
    split
    · exact .inl ⟨_, rfl⟩
    · rw [executeCache_bind]
      split
      · exact .inl ⟨_, rfl⟩
      · exact .inr rfl

theorem persistRows_cases :
    (∃ raised, (persistRows limits faults r rows).1 = .error raised) ∨
    (∃ report, persistRows limits faults r rows = (.ok report, rows) ∧
      report.acceptance r.record.evidenceKind = []) ∨
    ∃ report base flag, Admits limits r rows base flag ∧
      loadEvidence rows r.identityHash r.evidenceHash = none ∧
      persistRows limits faults r rows =
        (.ok report, acceptedRows limits r rows base flag) ∧
      report.acceptance r.record.evidenceKind = [acceptanceOf r rows] := by
  unfold persistRows
  rw [executeCache_bind]
  split
  · exact .inl ⟨_, rfl⟩
  · rw [executeCache_bind]
    split
    · exact .inl ⟨_, rfl⟩
    · rw [readRows_bind]
      simp only [id]
      cases hstored : loadEvidence rows r.identityHash r.evidenceHash with
      -- evidence that is stored is a replay, and only new evidence has a generation
      | some replay =>
        dsimp only
        rw [executeCache_bind]
        split
        · exact .inl ⟨_, rfl⟩
        · exact .inr (.inl ⟨_, rfl, rfl⟩)
      | none =>
        dsimp only
        cases hactive : loadActiveRow rows r.identityHash with
        | none =>
          dsimp only
          split
          · rw [executeCache_bind]
            split
            · exact .inl ⟨_, rfl⟩
            · exact .inr (.inl ⟨_, rfl, rfl⟩)
          · rename_i hroom
            rcases acceptRecord_cases with hraised | haccepted
            · exact .inl hraised
            · exact .inr (.inr ⟨_, rows, true, .inserted hactive (Nat.lt_of_not_le hroom), rfl,
                haccepted, rfl⟩)
        | some current =>
          dsimp only
          split
          · exact .inl ⟨_, rfl⟩
          · split
            · rename_i hstronger
              rw [executeCache_bind]
              split
              · exact .inl ⟨_, rfl⟩
              · rcases acceptRecord_cases with hraised | haccepted
                · exact .inl hraised
                · exact .inr (.inr ⟨_, _, true, .promoted current hactive hstronger, rfl,
                    haccepted, rfl⟩)
            · rename_i hdiffers hweaker
              rcases acceptRecord_cases with hraised | haccepted
              · exact .inl hraised
              · exact .inr (.inr ⟨_, rows, false, .retained current hactive (by omega), rfl,
                  haccepted, rfl⟩)

theorem persist_cases (hidle : s.session.saved = none) :
    s.persist limits call = s ∨ ∃ base flag, Admits limits call.record.hashed s.rows base flag ∧
      loadEvidence s.rows call.record.hashed.identityHash call.record.hashed.evidenceHash = none ∧
      s.persist limits call = {
        session := ⟨acceptedRows limits call.record.hashed s.rows base flag, none⟩
        accepted := s.accepted ++ [acceptanceOf call.record.hashed s.rows] } := by
  obtain ⟨⟨rows, saved⟩, accepted⟩ := s
  obtain rfl : saved = none := hidle
  unfold HashCache.persist persistEvidence persistHashed Session.immediate
  dsimp only [HashCache.rows]
  rcases @persistRows_cases limits call.faults call.record.hashed rows with ⟨raised, hraised⟩ |
    ⟨report, hsame, hnone⟩ | ⟨report, base, flag, hadmits, hnew, haccepted, hreport⟩
  · rcases h : persistRows limits call.faults call.record.hashed rows with ⟨error | report, after⟩
    · exact .inl rfl
    · rw [h] at hraised
      cases hraised
  · rw [hsame]
    refine .inl ?_
    show HashCache.mk ⟨rows, none⟩
      (accepted ++ report.acceptance call.record.hashed.record.evidenceKind) = _
    rw [hnone, List.append_nil]
  · rw [haccepted]
    refine .inr ⟨base, flag, hadmits, hnew, ?_⟩
    show HashCache.mk ⟨acceptedRows limits call.record.hashed rows base flag, none⟩
      (accepted ++ report.acceptance call.record.hashed.record.evidenceKind) = _
    rw [hreport]

end

section
variable {limits : HashCacheLimits} {r : HashedRecord} {rows base : List HashCacheRow}
  {row other current : HashCacheRow} {identityHash : String} {flag : Bool} {generation : Nat}

theorem le_foldl_max (l : List Nat) (a : Nat) :
    a ≤ l.foldl max a ∧ ∀ x ∈ l, x ≤ l.foldl max a := by
  induction l generalizing a with
  | nil => exact ⟨le_rfl, nofun⟩
  | cons x l ih =>
    obtain ⟨hmax, hrest⟩ := ih (max a x)
    refine ⟨(le_max_left a x).trans hmax, fun y hy => ?_⟩
    rcases List.mem_cons.mp hy with rfl | hy
    · exact (le_max_right a y).trans hmax
    · exact hrest y hy

theorem lt_newId (hrow : row ∈ rows) : row.id < newId rows :=
  Nat.lt_succ_of_le ((le_foldl_max _ 0).2 _ (List.mem_map_of_mem hrow))

theorem lt_nextGeneration (hrow : row ∈ rows) (hid : row.cacheIdentityHash = identityHash) :
    row.record.evidenceGeneration < nextGeneration rows identityHash := by
  refine Nat.lt_succ_of_le ((le_foldl_max _ 0).2 _ (List.mem_map_of_mem ?_))
  exact List.mem_filter.mpr ⟨hrow, decide_eq_true hid⟩

def newRow (r : HashedRecord) (generation : Nat) (flag : Bool)
    (rows : List HashCacheRow) : HashCacheRow where
  id := newId rows
  cacheIdentityHash := r.identityHash
  evidenceHash := r.evidenceHash
  record := { r.record with evidenceGeneration := generation }
  active := flag

theorem mem_insertRow : row ∈ insertRow r generation flag rows ↔
    row ∈ rows ∨ row = newRow r generation flag rows := Table.mem_insert

theorem insertRow_ids (h : Table.KeysUnique HashCacheRow.id rows) :
    Table.KeysUnique HashCacheRow.id (insertRow r generation flag rows) :=
  h.insert (Table.lookup_none_iff.mpr fun _ hrow => (lt_newId hrow).ne)

theorem countP_insertRow (p : HashCacheRow → Bool) :
    (insertRow r generation flag rows).countP p =
      rows.countP p + if p (newRow r generation flag rows) then 1 else 0 := by
  unfold insertRow Table.insert
  rw [List.countP_append, List.countP_singleton]
  rfl

theorem mem_of_mem_pruneHistory (h : row ∈ pruneHistory limits identityHash rows) : row ∈ rows :=
  (List.mem_filter.mp h).1

def historyOf (rows : List HashCacheRow) (identityHash : String) : List HashCacheRow :=
  (rows.filter fun row => row.cacheIdentityHash = identityHash && !row.active).insertionSort
    historyAfter

theorem mem_historyOf : row ∈ historyOf rows identityHash ↔
    row ∈ rows ∧ row.cacheIdentityHash = identityHash ∧ row.active = false := by
  unfold historyOf
  rw [List.mem_insertionSort, List.mem_filter, Bool.and_eq_true, decide_eq_true_eq,
    Bool.not_eq_true']

theorem mem_pruneHistory (hids : Table.KeysUnique HashCacheRow.id rows) (hrow : row ∈ rows)
    (h : row ∉ (historyOf rows identityHash).drop limits.maxHistoryPerIdentity) :
    row ∈ pruneHistory limits identityHash rows := by
  refine List.mem_filter.mpr ⟨hrow, ?_⟩
  rw [Bool.not_eq_true', Bool.eq_false_iff]
  intro hcontains
  obtain ⟨pruned, hpruned, hid⟩ := List.mem_map.mp (List.contains_iff_mem.mp hcontains)
  obtain rfl := Table.key_injOn hids (mem_historyOf.mp (List.mem_of_mem_drop hpruned)).1 hrow hid
  exact h hpruned

theorem mem_pruneHistory_of_kept (hids : Table.KeysUnique HashCacheRow.id rows)
    (hrow : row ∈ rows) (h : row.cacheIdentityHash ≠ identityHash ∨ row.active = true) :
    row ∈ pruneHistory limits identityHash rows := by
  refine mem_pruneHistory hids hrow fun hdrop => ?_
  obtain ⟨-, hid, hinactive⟩ := mem_historyOf.mp (List.mem_of_mem_drop hdrop)
  rcases h with hne | hactive
  · exact hne hid
  · rw [hactive] at hinactive
    cases hinactive

theorem historyOf_nodup (hids : Table.KeysUnique HashCacheRow.id rows) :
    (historyOf rows identityHash).Nodup :=
  ((List.perm_insertionSort _ _).nodup_iff).mpr ((List.Nodup.of_map _ hids).filter _)

theorem mem_pruneHistory_newest (hids : Table.KeysUnique HashCacheRow.id rows)
    (hlimit : 1 ≤ limits.maxHistoryPerIdentity) (hrow : row ∈ rows)
    (hnewest : ∀ other ∈ rows, other.cacheIdentityHash = identityHash →
      row.record.evidenceGeneration ≤ other.record.evidenceGeneration → other = row) :
    row ∈ pruneHistory limits identityHash rows := by
  refine mem_pruneHistory hids hrow fun hdrop => ?_
  have hmem := mem_historyOf.mp (List.mem_of_mem_drop hdrop)
  -- the history is sorted, so a row of the least rank is among those that are kept
  let rank : HashCacheRow → Nat := fun other =>
    if row.record.evidenceGeneration ≤ other.record.evidenceGeneration then 0 else 1
  have hfits : (rows.filter fun row => row.cacheIdentityHash = identityHash && !row.active).countP
      (rank · = 0) ≤ limits.maxHistoryPerIdentity := by
    rw [List.countP_eq_length_filter]
    have hnodup := ((List.Nodup.of_map _ hids).filter fun row =>
      row.cacheIdentityHash = identityHash && !row.active).filter (rank · = 0)
    have hsingle : List.Subperm _ [row] := List.subperm_of_subset hnodup fun other hother => by
      obtain ⟨hmem, hrank⟩ := List.mem_filter.mp hother
      obtain ⟨hother, hid⟩ := List.mem_filter.mp hmem
      rw [Bool.and_eq_true, decide_eq_true_eq] at hid
      refine List.mem_singleton.mpr (hnewest other hother hid.1 ?_)
      by_contra hless
      rw [decide_eq_true_eq, show rank other = 1 from if_neg hless] at hrank
      cases hrank
    exact hsingle.length_le.trans hlimit
  have htake : row ∈ (historyOf rows identityHash).take limits.maxHistoryPerIdentity := by
    refine Table.mem_take_sorted rank (fun a b hab => ?_) (fun a b hab => ?_)
      (List.mem_filter.mpr ⟨hrow, ?_⟩) (if_pos le_rfl) hfits
    · dsimp only [rank]
      unfold historyAfter at hab
      split_ifs <;> omega
    · dsimp only [rank]
      unfold historyAfter at hab
      split_ifs <;> omega
    · rw [hmem.2.1, hmem.2.2, decide_eq_true rfl]
      rfl
  exact List.disjoint_take_drop (historyOf_nodup hids) le_rfl htake hdrop

theorem countP_pruneHistory : (pruneHistory limits identityHash rows).countP (fun row =>
    row.cacheIdentityHash = identityHash && !row.active) ≤ limits.maxHistoryPerIdentity := by
  set p : HashCacheRow → Bool := fun row => row.cacheIdentityHash = identityHash && !row.active
  set pruned := (historyOf rows identityHash).drop limits.maxHistoryPerIdentity with hpruned
  set q : HashCacheRow → Bool := fun row => !(pruned.map HashCacheRow.id).contains row.id with hq
  have hdropped : pruned.countP q = 0 := by
    refine List.countP_eq_zero.mpr fun row hrow => ?_
    rw [hq, Bool.not_eq_true, Bool.not_eq_false', List.contains_iff_mem]
    exact List.mem_map_of_mem hrow
  calc (rows.filter q).countP p = (rows.filter p).countP q := by
        rw [List.countP_filter, List.countP_filter]
        exact List.countP_congr fun row _ => by rw [Bool.and_comm]
    _ = (historyOf rows identityHash).countP q :=
        ((List.perm_insertionSort historyAfter (rows.filter p)).countP_eq q).symm
    _ = ((historyOf rows identityHash).take limits.maxHistoryPerIdentity).countP q + 0 := by
        rw [← hdropped, hpruned, ← List.countP_append, List.take_append_drop]
    _ ≤ limits.maxHistoryPerIdentity :=
        List.countP_le_length.trans (List.length_take_le _ _)

theorem loadActiveRow_some (h : loadActiveRow rows identityHash = some current) :
    current ∈ rows ∧ current.cacheIdentityHash = identityHash ∧ current.active = true := by
  have hfound := List.find?_some h
  rw [Bool.and_eq_true, decide_eq_true_eq] at hfound
  exact ⟨List.mem_of_find?_eq_some h, hfound⟩

theorem loadActiveRow_none (h : loadActiveRow rows identityHash = none) (hrow : row ∈ rows)
    (hactive : row.active = true) : row.cacheIdentityHash ≠ identityHash := by
  intro hid
  refine List.find?_eq_none.mp h row hrow ?_
  rw [hactive, decide_eq_true hid]
  rfl

theorem mem_deactivate {id : Nat} : row ∈ deactivate id rows ↔
    ∃ old ∈ rows, (if old.id = id then { old with active := false } else old) = row := by
  unfold deactivate
  rw [Table.mem_updateWhere]
  simp only [decide_eq_true_eq]

theorem countP_deactivate (hcurrent : current ∈ rows) (hactive : current.active = true) :
    (deactivate current.id rows).countP (·.active) + 1 ≤ rows.countP (·.active) := by
  have hle : ∀ l : List HashCacheRow,
      (deactivate current.id l).countP (·.active) ≤ l.countP (·.active) := by
    intro l
    unfold deactivate Table.updateWhere
    rw [List.countP_map]
    refine List.countP_mono_left fun row _ h => ?_
    dsimp only [Function.comp_apply] at h
    split at h
    · cases h
    · exact h
  obtain ⟨before, after, rfl⟩ := List.append_of_mem hcurrent
  have hsplit : deactivate current.id (before ++ current :: after) =
      deactivate current.id before ++
        { current with active := false } :: deactivate current.id after := by
    unfold deactivate Table.updateWhere
    rw [List.map_append, List.map_cons, if_pos (decide_eq_true rfl)]
  have hcounted : (current :: after).countP (·.active) = after.countP (·.active) + 1 :=
    List.countP_cons_of_pos hactive
  rw [hsplit, List.countP_append, List.countP_append, hcounted, List.countP_cons_of_neg (by simp)]
  have hbefore := hle before
  have hafter := hle after
  omega

end

section
variable {limits : HashCacheLimits} {r : HashedRecord} {rows base : List HashCacheRow}
  {flag : Bool} {s : HashCache} {call : PersistCall}

/-- What every state keeps. -/
structure CacheSound (limits : HashCacheLimits) (s : HashCache) : Prop extends
    CacheState limits (1 ≤ limits.maxHistoryPerIdentity) s where
  idle : s.session.saved = none
  ids : Table.KeysUnique HashCacheRow.id s.rows
  newest : 1 ≤ limits.maxHistoryPerIdentity → ∀ a ∈ s.accepted, ∃ row ∈ s.rows,
    row.cacheIdentityHash = a.cacheIdentityHash ∧
    a.evidenceGeneration ≤ row.record.evidenceGeneration

/-- The rows that a new one is inserted into. -/
structure Base (limits : HashCacheLimits) (r : HashedRecord)
    (rows base : List HashCacheRow) (flag : Bool) : Prop where
  ids : Table.KeysUnique HashCacheRow.id base
  mem : ∀ row ∈ base, ∃ old ∈ rows, old.cacheIdentityHash = row.cacheIdentityHash ∧
    old.evidenceHash = row.evidenceHash ∧ old.record = row.record ∧
    (row.active = true → old = row)
  free : flag = true → ∀ row ∈ base, row.active = true →
    row.cacheIdentityHash ≠ r.identityHash
  active : ∀ row ∈ rows, row.active = true → row ∈ base ∨ (flag = true ∧
    row.cacheIdentityHash = r.identityHash ∧
    evidenceStrength row.record.evidenceKind < evidenceStrength r.record.evidenceKind)
  stronger : flag = false → ∃ current ∈ base, current.active = true ∧
    current.cacheIdentityHash = r.identityHash ∧
    evidenceStrength r.record.evidenceKind ≤ evidenceStrength current.record.evidenceKind
  others : ∀ row ∈ rows, row.cacheIdentityHash ≠ r.identityHash → row ∈ base
  activeRows : base.countP (·.active) + (if flag then 1 else 0) ≤ limits.maxActiveRows
  historyRows : ∀ identityHash, identityHash ≠ r.identityHash →
    base.countP (fun row => row.cacheIdentityHash = identityHash && !row.active) ≤
      limits.maxHistoryPerIdentity

theorem CacheSound.deactivated (h : CacheSound limits s) {current : HashCacheRow}
    (hfound : loadActiveRow s.rows r.identityHash = some current)
    (hstrength : evidenceStrength current.record.evidenceKind <
      evidenceStrength r.record.evidenceKind) :
    Base limits r s.rows (deactivate current.id s.rows) true := by
  obtain ⟨hcurrent, hid, hactive⟩ := loadActiveRow_some hfound
  have hsame : ∀ row ∈ s.rows, row.id = current.id → row = current :=
    fun row hrow => Table.key_injOn h.ids hrow hcurrent
  have hkept : ∀ row ∈ s.rows, row ≠ current → row ∈ deactivate current.id s.rows :=
    fun row hrow hne => mem_deactivate.mpr ⟨row, hrow, if_neg fun heq => hne (hsame row hrow heq)⟩
  refine ⟨h.ids.updateWhere fun _ => rfl, fun row hrow => ?_, fun _ row hrow hrowActive => ?_,
    fun row hrow hrowActive => ?_, nofun, fun row hrow hne => ?_, ?_, fun identityHash hne => ?_⟩
  · obtain ⟨old, hold, rfl⟩ := mem_deactivate.mp hrow
    split
    · exact ⟨old, hold, rfl, rfl, rfl, nofun⟩
    · exact ⟨old, hold, rfl, rfl, rfl, fun _ => rfl⟩
  · obtain ⟨old, hold, rfl⟩ := mem_deactivate.mp hrow
    split at hrowActive
    · cases hrowActive
    · rename_i hother
      rw [if_neg hother]
      intro hidentity
      exact hother (congrArg _ (h.oneActive old hold current hcurrent hrowActive hactive
        (hidentity.trans hid.symm)))
  · by_cases heq : row = current
    · exact .inr ⟨rfl, heq ▸ hid, heq ▸ hstrength⟩
    · exact .inl (hkept row hrow heq)
  · exact hkept row hrow fun heq => hne (heq ▸ hid)
  · exact (countP_deactivate hcurrent hactive).trans h.activeRows
  · refine le_trans ?_ (h.historyRows identityHash)
    unfold deactivate Table.updateWhere
    rw [List.countP_map]
    refine List.countP_mono_left fun row hrow hp => ?_
    dsimp only [Function.comp_apply] at hp
    split at hp
    · rename_i heq
      rw [hsame row hrow (of_decide_eq_true heq)] at hp
      rw [Bool.and_eq_true, decide_eq_true_eq] at hp
      exact absurd (hp.1.symm.trans hid) hne
    · exact hp

theorem CacheSound.admitted (h : CacheSound limits s)
    (hadmits : Admits limits r s.rows base flag) :
    Base limits r s.rows base flag := by
  have hmem : ∀ row ∈ s.rows, ∃ old ∈ s.rows, old.cacheIdentityHash = row.cacheIdentityHash ∧
      old.evidenceHash = row.evidenceHash ∧ old.record = row.record ∧
      (row.active = true → old = row) :=
    fun row hrow => ⟨row, hrow, rfl, rfl, rfl, fun _ => rfl⟩
  cases hadmits with
  | inserted hnone hroom =>
    exact ⟨h.ids, hmem, fun _ row hrow => loadActiveRow_none hnone hrow,
      fun row hrow _ => .inl hrow, nofun, fun row hrow _ => hrow, hroom,
      fun identityHash _ => h.historyRows identityHash⟩
  | promoted current hfound hstrength => exact h.deactivated hfound hstrength
  | retained current hfound hstrength =>
    obtain ⟨hcurrent, hid, hactive⟩ := loadActiveRow_some hfound
    exact ⟨h.ids, hmem, nofun, fun row hrow _ => .inl hrow,
      fun _ => ⟨current, hcurrent, hactive, hid, hstrength.le⟩, fun row hrow _ => hrow,
      h.activeRows, fun identityHash _ => h.historyRows identityHash⟩

variable {row : HashCacheRow}

theorem mem_acceptedRows (hrow : row ∈ acceptedRows limits r rows base flag) : row ∈ base ∨
      row = newRow r (nextGeneration rows r.identityHash) flag base :=
  mem_insertRow.mp (mem_of_mem_pruneHistory hrow)

theorem Base.kept (h : Base limits r rows base flag) (hrow : row ∈ base)
    (hkept : row.cacheIdentityHash ≠ r.identityHash ∨ row.active = true) :
    row ∈ acceptedRows limits r rows base flag :=
  mem_pruneHistory_of_kept (insertRow_ids h.ids) (mem_insertRow.mpr (.inl hrow)) hkept

theorem Base.new_kept (h : Base limits r rows base flag)
    (hkept : flag = true ∨ 1 ≤ limits.maxHistoryPerIdentity) :
    newRow r (nextGeneration rows r.identityHash) flag base ∈
      acceptedRows limits r rows base flag := by
  have hnew : newRow r (nextGeneration rows r.identityHash) flag base ∈
      insertRow r (nextGeneration rows r.identityHash) flag base :=
    mem_insertRow.mpr (.inr rfl)
  rcases hkept with hflag | hlimit
  · exact mem_pruneHistory_of_kept (insertRow_ids h.ids) hnew (.inr hflag)
  -- its generation is above that of every row that was there
  · refine mem_pruneHistory_newest (insertRow_ids h.ids) hlimit hnew fun other hother hid hle => ?_
    refine (mem_insertRow.mp hother).resolve_left fun hbase => ?_
    obtain ⟨old, hold, hidentity, -, hrecord, -⟩ := h.mem other hbase
    have hless := lt_nextGeneration hold (hidentity.trans hid)
    rw [hrecord] at hless
    exact absurd hless (Nat.not_lt_of_le hle)

theorem Base.replaced (h : Base limits r rows base flag) (hrow : row ∈ rows)
    (hactive : row.active = true) :
    ∃ row' ∈ acceptedRows limits r rows base flag, row'.active = true ∧
      row'.cacheIdentityHash = row.cacheIdentityHash ∧ (row' = row ∨
        evidenceStrength row.record.evidenceKind <
          evidenceStrength row'.record.evidenceKind) := by
  rcases h.active row hrow hactive with hbase | ⟨hflag, hid, hstrength⟩
  · exact ⟨row, h.kept hbase (.inr hactive), hactive, rfl, .inl rfl⟩
  · exact ⟨_, h.new_kept (.inl hflag), hflag, hid.symm, .inr hstrength⟩

theorem CacheSound.accept (h : CacheSound limits s)
    (hadmits : Admits limits r s.rows base flag) : CacheSound limits {
      session := ⟨acceptedRows limits r s.rows base flag, none⟩
      accepted := s.accepted ++ [acceptanceOf r s.rows] } := by
  have hbase := h.admitted hadmits
  refine ⟨⟨fun row hrow other hother hactive hotherActive hid => ?_, fun a ha => ?_,
    fun row hrow => ?_, fun hlimit => ?_, ?_, fun identityHash => ?_⟩, rfl,
    (insertRow_ids hbase.ids).filter, fun hlimit a ha => ?_⟩
  · rcases mem_acceptedRows hrow with hold | rfl
    · obtain ⟨old, hmem, -, -, -, hsame⟩ := hbase.mem row hold
      obtain rfl := hsame hactive
      rcases mem_acceptedRows hother with hold' | rfl
      · obtain ⟨old', hmem', -, -, -, hsame'⟩ := hbase.mem other hold'
        obtain rfl := hsame' hotherActive
        exact h.oneActive _ hmem _ hmem' hactive hotherActive hid
      · exact absurd hid (hbase.free hotherActive _ hold hactive)
    · rcases mem_acceptedRows hother with hold' | rfl
      · exact absurd hid.symm (hbase.free hactive _ hold' hotherActive)
      · rfl
  · rcases List.mem_append.mp ha with hold | hnew
    · obtain ⟨row, hrow, hactive, hid, hstrength⟩ := h.strongest a hold
      obtain ⟨row', hrow', hactive', hid', hreplaced⟩ := hbase.replaced hrow hactive
      refine ⟨row', hrow', hactive', hid'.trans hid, ?_⟩
      rcases hreplaced with rfl | hless
      · exact hstrength
      · exact hstrength.trans hless.le
    · obtain rfl := List.mem_singleton.mp hnew
      cases hflag : flag with
      | true => exact ⟨_, hflag ▸ hbase.new_kept (.inl hflag), rfl, rfl, le_rfl⟩
      | false =>
        obtain ⟨current, hcurrent, hactive, hid, hstrength⟩ := hbase.stronger hflag
        exact ⟨current, hflag ▸ hbase.kept hcurrent (.inr hactive), hactive, hid, hstrength⟩
  · rcases mem_acceptedRows hrow with hold | rfl
    · obtain ⟨old, hmem, hid, hevidence, hrecord, -⟩ := hbase.mem row hold
      obtain ⟨a, ha, hidentity, hhash, hkind⟩ := h.stored old hmem
      exact ⟨a, List.mem_append_left _ ha, hidentity.trans hid, hhash.trans hevidence,
        hkind.trans (hrecord ▸ rfl)⟩
    · exact ⟨_, List.mem_append_right _ List.mem_cons_self, rfl, rfl, rfl⟩
  -- the greatest generation of an identity stays in the rows, active or newest of the history
  · refine List.pairwise_append.mpr ⟨h.generations hlimit, List.pairwise_singleton _ _,
      fun a ha b hb hid => ?_⟩
    obtain rfl := List.mem_singleton.mp hb
    obtain ⟨row, hrow, hidentity, hle⟩ := h.newest hlimit a ha
    exact hle.trans_lt (lt_nextGeneration hrow (hidentity.trans hid))
  · refine le_trans List.filter_sublist.countP_le ?_
    rw [countP_insertRow]
    exact hbase.activeRows
  · by_cases hid : identityHash = r.identityHash
    · rw [hid]
      exact countP_pruneHistory
    · refine le_trans List.filter_sublist.countP_le ?_
      rw [countP_insertRow, if_neg (by simp [newRow, Ne.symm hid])]
      exact hbase.historyRows identityHash hid
  · rcases List.mem_append.mp ha with hold | hnew
    · obtain ⟨row, hrow, hid, hle⟩ := h.newest hlimit a hold
      by_cases hidentity : row.cacheIdentityHash = r.identityHash
      · exact ⟨_, hbase.new_kept (.inr hlimit), hidentity.symm.trans hid,
          hle.trans (lt_nextGeneration hrow hidentity).le⟩
      · exact ⟨row, hbase.kept (hbase.others row hrow hidentity) (.inl hidentity), hid, hle⟩
    · obtain rfl := List.mem_singleton.mp hnew
      exact ⟨_, hbase.new_kept (.inr hlimit), rfl, le_rfl⟩

theorem CacheSound.reachable (h : (hashCache limits).Reachable s) : CacheSound limits s := by
  refine h.invariant (P := CacheSound limits) (fun s hinit => ?_) fun s call s' _ hs _ hstep => ?_
  · obtain rfl : s = {} := hinit
    have hrows : ∀ {P : HashCacheRow → Prop}, ∀ row ∈ ([] : List HashCacheRow), P row :=
      fun _ hrow => absurd hrow List.not_mem_nil
    have haccepted : ∀ {P : Acceptance → Prop}, ∀ a ∈ ([] : List Acceptance), P a :=
      fun _ ha => absurd ha List.not_mem_nil
    exact ⟨⟨hrows, haccepted, hrows, fun _ => .nil, Nat.zero_le _, fun _ => Nat.zero_le _⟩, rfl,
      List.nodup_nil, fun _ => haccepted⟩
  · obtain rfl := Option.some.inj hstep
    rcases persist_cases hs.idle with hsame | ⟨base, flag, hadmits, -, haccepted⟩
    · rw [hsame]
      exact hs
    · rw [haccepted]
      exact hs.accept hadmits

theorem loadReusableQuickSignature_ok {entry : ReusableEntry} {record : HashCacheRecord}
    (h : loadReusableQuickSignature rows entry = .ok (some record)) :
    ∃ row ∈ rows, row.record = record ∧ entry.selects row = true := by
  unfold loadReusableQuickSignature at h
  split at h
  · cases h
  · rename_i row htake
    have hmem : row ∈ (rows.filter entry.selects).insertionSort historyAfter :=
      List.mem_of_mem_take (htake ▸ List.mem_cons_self)
    rw [List.mem_insertionSort, List.mem_filter] at hmem
    exact ⟨row, hmem.1, Option.some.inj (Except.ok.inj h), hmem.2⟩
  · cases h

/-- The cache keeps the strongest evidence of each identity and never accepts evidence again whose
row is still stored. -/
theorem hashCache_keeps_strongest (h : (hashCache limits).Reachable s) :
    CachePromise limits EvidenceStored (1 ≤ limits.maxHistoryPerIdentity) s := by
  have hs := CacheSound.reachable h
  refine ⟨hs.toCacheState, fun call row hrow hactive => ?_, fun call hcall => ?_,
    fun entry record hreused => ?_⟩
  -- evidence that is accepted replaces what is weaker, and only that
  · rcases persist_cases hs.idle with hsame | ⟨base, flag, hadmits, -, haccepted⟩
    · rw [hsame]
      exact ⟨row, hrow, hactive, rfl, .inl rfl⟩
    · rw [haccepted]
      exact (hs.admitted hadmits).replaced hrow hactive
  -- a repeated call finds its own row
  · rcases persist_cases hs.idle with hsame | ⟨base, flag, hadmits, hnew, haccepted⟩
    · rw [hsame]
    · rcases hcall with ⟨row, hrow, hid, hevidence⟩ | hnone
      · refine absurd ?_ (List.find?_eq_none.mp hnew row hrow)
        rw [Bool.and_eq_true, decide_eq_true_eq, decide_eq_true_eq]
        exact ⟨hid, hevidence⟩
      · rw [haccepted] at hnone
        simp at hnone
  · obtain ⟨row, hrow, rfl, hselects⟩ := loadReusableQuickSignature_ok hreused
    unfold ReusableEntry.selects at hselects
    simp only [Bool.and_eq_true, decide_eq_true_eq] at hselects
    obtain ⟨⟨⟨⟨⟨-, hstarted⟩, hcompleted⟩, hquick⟩, -⟩, hactive⟩ := hselects
    exact ⟨⟨row, hrow, hactive, rfl⟩, hquick, hstarted, hcompleted⟩

end

section

def cacheLimits (maxHistoryPerIdentity : Nat) : HashCacheLimits where
  maxActiveRows := 1000000
  maxHistoryPerIdentity
  activeRows := by decide

def sampleIdentity : HashCacheIdentity where
  endpointId := "e"
  endpointGeneration := 1
  volumeIdentity := none
  relativePath := "a"
  comparisonKey := "a"
  comparisonKeyVersion := 1
  parentCaseContextHash := String.ofList (List.replicate 64 '0')
  entryType := "file"
  sizeBytes := 1
  mtimeNs := 0
  birthtimeNs := none
  attributes := none
  reparseTag := none
  fileId := none
  fileIdReliability := "hint"
  linkCount := none

def sampleIdentityHash : String :=
  "5e4e2ca0ba2da5a984eead26601e1d0aa62ba8a926cf4f874098420919adb8db"

theorem sample_identityHash : sampleIdentity.identityHash = sampleIdentityHash := by
  unfold HashCacheIdentity.identityHash
  rw [Sha256.hexdigest_pack rfl]
  decide +kernel

def sampleRecord (evidenceKind : HashCacheEvidenceKind) (digit : Char) : HashCacheRecord where
  identity := sampleIdentity
  evidenceKind
  evidenceGeneration := 1
  computedUtc := "2024-01-01"
  fullHash := some (String.ofList (List.replicate 64 digit))

theorem sampleRecord_hashed {evidenceKind : HashCacheEvidenceKind} {digit : Char}
    {evidenceHash : String}
    (h : Sha256.hexdigest (Json.dump (.obj [("algorithm", .str "BLAKE3-256"),
      ("cache_identity_hash", .str sampleIdentityHash),
      ("evidence_kind", .str evidenceKind.value),
      ("full_hash", .str (String.ofList (List.replicate 64 digit))),
      ("hash_schema_version", .int 1), ("quick_hash", .null),
      ("read_completed_fingerprint_hash", .null), ("read_started_fingerprint_hash", .null),
      ("signature_schema_version", .null), ("usn_first_record", .null),
      ("usn_journal_id", .null), ("usn_last_record", .null)])) = evidenceHash) :
    (sampleRecord evidenceKind digit).hashed =
      ⟨sampleRecord evidenceKind digit, sampleIdentityHash, evidenceHash⟩ := by
  unfold HashCacheRecord.hashed HashCacheRecord.evidenceHash
  rw [show (sampleRecord evidenceKind digit).identity = sampleIdentity from rfl,
    sample_identityHash, ← h]
  rfl

def sampleStale : HashedRecord where
  record := sampleRecord .staleHashHint '2'
  identityHash := sampleIdentityHash
  evidenceHash := "6513c38c164f1971b1f9ebdd5d2fe191c90afab24f3f74466c2add3d20695fb1"

theorem sampleStale_hashed : sampleStale.record.hashed = sampleStale := by
  apply sampleRecord_hashed
  rw [Sha256.hexdigest_pack rfl]
  decide +kernel

def sampleRecords : List HashCacheRecord :=
  [sampleRecord .metadataRevalidatedCachedHash '1', sampleStale.record,
    sampleRecord .staleHashHint '3']

def sampleHashes : List HashedRecord :=
  [⟨sampleRecord .metadataRevalidatedCachedHash '1', sampleIdentityHash,
      "5d4950fe74ba2d9780779493c759ece3e296ba0b3e24d394b9057e6aff84ba29"⟩,
    sampleStale,
    ⟨sampleRecord .staleHashHint '3', sampleIdentityHash,
      "94ac4135c6472f5bcdf3d545f08180d27d100a44f37581c2d1edb7bdb62eceed"⟩]

theorem sampleRecords_hashed : sampleRecords.map HashCacheRecord.hashed = sampleHashes := by
  unfold sampleRecords sampleHashes
  rw [List.map_cons, List.map_cons, List.map_cons, List.map_nil, sampleStale_hashed]
  refine congrArg₂ _ (sampleRecord_hashed ?_)
    (congrArg _ (congrArg₂ _ (sampleRecord_hashed ?_) rfl))
  all_goals
    rw [Sha256.hexdigest_pack rfl]
    decide +kernel

def persistAll (limits : HashCacheLimits) (records : List HashCacheRecord) : HashCache :=
  records.foldl (fun s record => s.persist limits { record }) {}

def persistAllHashed (limits : HashCacheLimits) (hashes : List HashedRecord) : HashCache :=
  hashes.foldl (fun s r => s.after r.record.evidenceKind
    (persistHashed limits (fun _ => none) r s.session)) {}

variable {limits : HashCacheLimits} {records : List HashCacheRecord}

theorem persistAll_hashed :
    persistAll limits records = persistAllHashed limits (records.map HashCacheRecord.hashed) := by
  unfold persistAll persistAllHashed
  rw [List.foldl_map]
  rfl

theorem persistAll_append {record : HashCacheRecord} : persistAll limits (records ++ [record]) =
      (persistAll limits records).persist limits { record } := by
  unfold persistAll
  rw [List.foldl_append]
  rfl

theorem persistAll_reachable : (hashCache limits).Reachable (persistAll limits records) := by
  induction records using List.reverseRecOn with
  | nil => exact .init rfl
  | append_singleton records record ih =>
    rw [persistAll_append]
    exact .step ih trivial rfl

theorem hashCache_keeps_strongest_weakerEvidence :
    (persistAll (cacheLimits 1) sampleRecords).accepted.length = 3 ∧
      CachePromise (cacheLimits 1) EvidenceStored (1 ≤ 1)
        (persistAll (cacheLimits 1) sampleRecords) := by
  refine ⟨?_, hashCache_keeps_strongest persistAll_reachable⟩
  rw [persistAll_hashed, sampleRecords_hashed]
  decide +kernel

/-- A weaker evidence whose row was pruned is accepted again. -/
theorem weaker_evidence_accepted_again :
    (¬ ∀ s, (hashCache (cacheLimits 1)).Reachable s →
      CachePromise (cacheLimits 1) EvidenceAccepted True s) ∧
    ¬ ∀ s, (hashCache (cacheLimits 0)).Reachable s →
      CachePromise (cacheLimits 0) EvidenceAccepted True s := by
  refine ⟨fun hpromise => ?_, fun hpromise => ?_⟩
  · have haccepted : EvidenceAccepted (persistAll (cacheLimits 1) sampleRecords)
        sampleStale.record := by
      rw [persistAll_hashed, sampleRecords_hashed]
      exact ⟨⟨sampleIdentityHash, sampleStale.evidenceHash, .staleHashHint, 2⟩, by decide +kernel,
        (congrArg HashedRecord.identityHash sampleStale_hashed).symm,
        (congrArg HashedRecord.evidenceHash sampleStale_hashed).symm⟩
    have hsame := (hpromise _ persistAll_reachable).unchanged
      { record := sampleStale.record } (.inl haccepted)
    rw [← persistAll_append, persistAll_hashed, persistAll_hashed, List.map_append,
      List.map_singleton, sampleRecords_hashed, sampleStale_hashed] at hsame
    have hgenerations := congrArg (List.map fun row => row.record.evidenceGeneration) hsame
    revert hgenerations
    decide +kernel
  · have hgenerations := (hpromise (persistAll (cacheLimits 0) sampleRecords)
      persistAll_reachable).generations trivial
    rw [persistAll_hashed, sampleRecords_hashed] at hgenerations
    revert hgenerations
    decide +kernel

end

end MediaSync.Duplicates
