import MediaSync.History.Timeline

/-! A client that follows the cursors reads every activity of its filter once, whatever its limit
is, where no two activities tie in start, kind and id and the cursor of each activity is read back
as one that leads to the same rows. -/
namespace MediaSync.History
open Text Keyset

def Enumerated (tables : HistoryTables) (limit : Int) (filterText jobText : Option String)
    (rows : List HistoryRow) : Prop :=
  ∃ listed, Enumerates (timelinePages tables limit filterText jobText) none listed ∧
    listed.Perm (rows.map tables.activity) ∧
    listed.Pairwise fun a b => precedes timelineOrder a.toHistoryRow b.toHistoryRow

/-- No two rows tie in start, kind and id, and the cursor of a row that is not the last one is read
back as a cursor with the same rows behind it. -/
structure Pageable (rows : List HistoryRow) : Prop where
  distinct : Distinct timelineOrder rows
  readBack : ∀ row ∈ rows, (∃ later ∈ rows, compare row.cursor later.cursor = .lt) →
    ∃ cursor, normalizeCursor row.cursor.toDict = .ok cursor ∧
      ∀ other ∈ rows, compare cursor other.cursor = .lt ↔ compare row.cursor other.cursor = .lt

section
variable {tables : HistoryTables} {filterText jobText : Option String} {filter : ActivityFilter}
  {jobId : Option String}

variable {rows : List HistoryRow}

theorem separates_iff {row : HistoryRow} :
    Separates timelineOrder rows (fun cursor : HistoryCursor => normalizeCursor cursor.toDict)
        pastCursor HistoryRow.cursor row ↔
      ∃ cursor, normalizeCursor row.cursor.toDict = .ok cursor ∧
        ∀ other ∈ rows, compare cursor other.cursor = .lt ↔
          compare row.cursor other.cursor = .lt := by
  simp only [Separates, pastCursor_iff]
  rfl

theorem resumes_iff_pageable : Resumes (rowsBehind tables filter jobId) HistoryRow.cursor
      (orderBy timelineOrder (timeline tables filter jobId)) ↔
    Pageable (timeline tables filter jobId) := by
  constructor
  · intro h
    obtain ⟨hdistinct, hread⟩ :=
      Resumes.separates (fun cursor _ _ => @pastCursor_mono cursor _ _) h
    exact ⟨hdistinct, fun row hrow hlater => separates_iff.mp (hread row hrow hlater)⟩
  · intro h
    exact resumes_of_separates h.distinct fun row hrow hlater =>
      separates_iff.mpr (h.readBack row hrow hlater)

theorem rowsBehind_suffix {cursor : HistoryCursor}
    (h : rowsBehind tables filter jobId (some cursor) = .ok rows) :
    rows <:+ orderBy timelineOrder (timeline tables filter jobId) := by
  rw [rowsBehind, rowsPast] at h
  cases hread : normalizeCursor cursor.toDict with
  | error code => simp [hread, Except.map] at h
  | ok normalized =>
    obtain rfl : orderBy timelineOrder ((timeline tables filter jobId).filter
        (pastCursor normalized)) = rows := by simpa [hread, Except.map] using h
    rw [← filter_orderBy]
    exact filter_suffix (fun _ _ => pastCursor_mono) (pairwise_orderBy timelineOrder _)

theorem pageable_of_enumerated_one (hfilter : normalizeActivityFilter filterText = .ok filter)
    (hjob : normalizeJobId jobText = .ok jobId)
    (h : Enumerated tables 1 filterText jobText (timeline tables filter jobId)) :
    Pageable (timeline tables filter jobId) := by
  obtain ⟨listed, hlisted, hperm, hpairwise⟩ := h
  rw [timelinePages_eq ⟨le_rfl, by omega⟩ hfilter hjob, enumerates_mapPage] at hlisted
  obtain ⟨rows, rfl, hrows⟩ := hlisted
  refine resumes_iff_pageable.mp (resumes_of_enumerates (pairwise_orderBy timelineOrder _) rfl
    (fun _ _ => rowsBehind_suffix) (fun a b => compare_eq_eq) hrows ?_ ?_)
  · exact (@List.pairwise_map _ _ tables.activity _ _).mp hpairwise
  · have hlength := hperm.length_eq
    rw [List.length_map, List.length_map] at hlength
    rw [hlength, (perm_orderBy timelineOrder _).length_eq]

theorem enumerated_iff_pageable (hfilter : normalizeActivityFilter filterText = .ok filter)
    (hjob : normalizeJobId jobText = .ok jobId) :
    (∀ limit : Int, 1 ≤ limit → limit ≤ 25 →
      Enumerated tables limit filterText jobText (timeline tables filter jobId)) ↔
        Pageable (timeline tables filter jobId) := by
  constructor
  · exact fun h => pageable_of_enumerated_one hfilter hjob (h 1 le_rfl (by omega))
  · intro h limit hlower hupper
    refine ⟨(orderBy timelineOrder (timeline tables filter jobId)).map tables.activity, ?_, ?_, ?_⟩
    · rw [timelinePages_eq ⟨hlower, hupper⟩ hfilter hjob, enumerates_mapPage]
      exact ⟨_, rfl, (resumes_iff_pageable.mpr h).enumerates (by omega)⟩
    · exact (perm_orderBy timelineOrder _).map _
    · exact List.pairwise_map.mpr (pairwise_orderBy timelineOrder _)

end

end MediaSync.History
