import MediaSync.Recovery.Atomicity

/-! The row that an insertion and an update leave, the rows that loading accepts, and the
constraints of the table of operations, each column's own and the one on places in a segment. -/
namespace MediaSync.Recovery
open Text

variable {py : PythonLibrary} {Dir : Type}

theorem overwrite_insert {rows : List DirectoryRecoveryOperation}
    {inserted row : DirectoryRecoveryOperation} (hid : row.recoveryId = inserted.recoveryId)
    (hfresh : Table.lookup DirectoryRecoveryOperation.recoveryId rows inserted.recoveryId = none) :
    Table.overwrite DirectoryRecoveryOperation.recoveryId (Table.insert rows inserted) row =
      Table.insert rows row := by
  have hrest : rows.map (fun r => if r.recoveryId = row.recoveryId then row else r) = rows := by
    refine (List.map_congr_left fun r hr => ?_).trans (List.map_id rows)
    exact if_neg (hid ▸ Table.lookup_none_iff.mp hfresh r hr)
  simp [Table.overwrite, Table.insert, hid, hid ▸ hrest]

theorem load_row {t : DirectoryTables} {recoveryId : String} {row : DirectoryRecoveryOperation}
    (h : t.load py recoveryId = .ok (some row)) :
    t.row recoveryId = some row ∧ ValidDirectory py row := by
  unfold DirectoryTables.load at h
  split at h
  · cases h
  · rename_i hrow
    split at h
    · rename_i hvalid
      cases h
      exact ⟨hrow, validateDirectoryRecoveryOperation_iff.mp hvalid⟩
    · cases h

def SamePlace (a b : RecoveryOperation) : Prop :=
  a.intentSegmentId = b.intentSegmentId ∧ a.intentOrdinal = b.intentOrdinal ∧
    a.intentSegmentId ≠ none ∧ a.intentOrdinal ≠ none

/-- The constraints of `acceptsRow` that do not look at other operations. -/
def Tables.columnsAccepted (t : Tables Dir) (operation : RecoveryOperation) : Bool :=
  operation.intentSegmentId.all (fun segmentId => (t.loadIntentSegment segmentId).isSome) &&
    operation.intentOrdinal.all (fun ordinal => 0 ≤ ordinal) &&
    Tables.retryTextAccepted operation.stagingRetryNotBeforeUtc

theorem acceptsRow_iff {t : Tables Dir} {operation : RecoveryOperation} :
    t.acceptsRow operation = true ↔ t.columnsAccepted operation = true ∧
      ∀ other ∈ t.operations, SamePlace operation other → other.key = operation.key := by
  have hplaces : (operation.intentSegmentId.isNone || operation.intentOrdinal.isNone ||
      t.operations.all fun other => other.key == operation.key ||
        other.intentSegmentId != operation.intentSegmentId ||
          other.intentOrdinal != operation.intentOrdinal) = true ↔
      ∀ other ∈ t.operations, SamePlace operation other → other.key = operation.key := by
    cases hsegment : operation.intentSegmentId with
    | none => simp [SamePlace, hsegment]
    | some segmentId =>
      cases hordinal : operation.intentOrdinal with
      | none => simp [SamePlace, hordinal]
      | some ordinal =>
        simp only [Option.isNone_some, Bool.false_or, List.all_eq_true, Bool.or_eq_true,
          beq_iff_eq, bne_iff_ne, SamePlace, hsegment, hordinal]
        refine forall₂_congr fun other _ => ⟨fun h hsame => ?_, fun h => ?_⟩
        · rcases h with (hkey | hne) | hne
          · exact hkey
          · exact absurd hsame.1.symm hne
          · exact absurd hsame.2.1.symm hne
        · by_cases hkey : other.key = operation.key
          · exact .inl (.inl hkey)
          · by_cases hsame : other.intentSegmentId = some segmentId
            · refine .inr fun hother => hkey (h ⟨hsame.symm, hother.symm, ?_, ?_⟩) <;> simp
            · exact .inl (.inr hsame)
  rw [Tables.acceptsRow, Bool.and_eq_true, hplaces]
  exact Iff.rfl

end MediaSync.Recovery
