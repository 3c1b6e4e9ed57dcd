import Mathlib.Data.List.Nodup
import Mathlib.Data.List.Sort

/-! A table is the list of its rows; `key` projects a row to its primary key. -/
namespace MediaSync.Table

/-- Whether `sqlite3` binds the number: it raises `OverflowError` beyond 64 bits. -/
def fitsColumn (number : Int) : Bool :=
  -9223372036854775808 ≤ number && number < 9223372036854775808

variable {Row Key : Type*} [DecidableEq Key] (key : Row → Key)

/-- The row stored under `k`. -/
def lookup (rows : List Row) (k : Key) : Option Row := rows.find? fun r => key r = k

def insert (rows : List Row) (row : Row) : List Row := rows ++ [row]

/-- Every row under the key of `row` is replaced by `row`. -/
def overwrite (rows : List Row) (row : Row) : List Row :=
  rows.map fun r => if key r = key row then row else r

/-- The rows `p` selects are changed by `f`. -/
def updateWhere (rows : List Row) (p : Row → Bool) (f : Row → Row) : List Row :=
  rows.map fun r => if p r then f r else r

/-- The number of rows `p` selects. -/
def rowcount (rows : List Row) (p : Row → Bool) : Nat := rows.countP p

/-- An `UPDATE` that has to change one row: `failed` when a changed row breaks the constraints,
`mismatch` when it does not select exactly one. -/
def updateOne (accepted : Row → Bool) (rows : List Row) (p : Row → Bool) (f : Row → Row)
    (failed mismatch : String) : Except String (List Row) :=
  if rows.any fun r => p r && !accepted (f r) then .error failed
  else if rowcount rows p ≠ 1 then .error mismatch
  else .ok (updateWhere rows p f)

def newestBy (measure : Row → Nat) (rows : List Row) : Option Row :=
  rows.foldl
    (fun best row =>
      match best with
      | none => some row
      | some found => if measure found < measure row then some row else some found)
    none

def KeysUnique (rows : List Row) : Prop := (rows.map key).Nodup

variable {key} {rows : List Row} {row r : Row} {k : Key}

theorem lookup_mem (h : lookup key rows k = some r) : r ∈ rows :=
  List.mem_of_find?_eq_some h

theorem lookup_key (h : lookup key rows k = some r) : key r = k := by
  simpa using List.find?_some h

theorem lookup_none_iff : lookup key rows k = none ↔ ∀ r ∈ rows, key r ≠ k := by
  simp [lookup]

omit [DecidableEq Key] in
theorem key_injOn (hu : KeysUnique key rows) {a b : Row} (ha : a ∈ rows) (hb : b ∈ rows)
    (hk : key a = key b) : a = b :=
  List.inj_on_of_nodup_map hu ha hb hk

theorem lookup_of_mem (hu : KeysUnique key rows) (hr : r ∈ rows) :
    lookup key rows (key r) = some r := by
  cases h : lookup key rows (key r) with
  | none => exact absurd rfl (lookup_none_iff.mp h r hr)
  | some r' => rw [key_injOn hu (lookup_mem h) hr (lookup_key h)]

theorem lookup_perm {rows' : List Row} (hu : KeysUnique key rows) (hp : rows.Perm rows') :
    lookup key rows k = lookup key rows' k := by
  have hu' : KeysUnique key rows' := (hp.map key).nodup_iff.mp hu
  cases h : lookup key rows k with
  | none =>
    exact (lookup_none_iff.mpr fun r hr => lookup_none_iff.mp h r (hp.mem_iff.mpr hr)).symm
  | some r =>
    rw [← lookup_key h]
    exact (lookup_of_mem hu' (hp.mem_iff.mp (lookup_mem h))).symm

theorem lookup_filter_of_imp {p : Row → Bool} (h : ∀ r, key r = k → p r = true) :
    lookup key (rows.filter p) k = lookup key rows k := by
  induction rows with
  | nil => rfl
  | cons x xs ih =>
    unfold lookup at ih ⊢
    by_cases hk : key x = k
    · rw [List.filter_cons_of_pos (h x hk), List.find?_cons_of_pos (by simpa using hk),
        List.find?_cons_of_pos (by simpa using hk)]
    · rw [List.find?_cons_of_neg (by simpa using hk), ← ih]
      by_cases hp : p x = true
      · rw [List.filter_cons_of_pos hp, List.find?_cons_of_neg (by simpa using hk)]
      · rw [List.filter_cons_of_neg hp]

theorem mem_overwrite (h : r ∈ overwrite key rows row) :
    r = row ∨ (r ∈ rows ∧ key r ≠ key row) := by
  obtain ⟨x, hx, rfl⟩ := List.mem_map.mp h
  by_cases hk : key x = key row
  · left; simp [hk]
  · right; simp [hk, hx]

theorem mem_overwrite_of_ne (hr : r ∈ rows) (hk : key r ≠ key row) : r ∈ overwrite key rows row :=
  List.mem_map.mpr ⟨r, hr, by simp [hk]⟩

theorem mem_overwrite_self (hr : r ∈ rows) (hk : key r = key row) : row ∈ overwrite key rows row :=
  List.mem_map.mpr ⟨r, hr, by simp [hk]⟩

theorem map_key_overwrite : (overwrite key rows row).map key = rows.map key := by
  simp only [overwrite, List.map_map]
  refine List.map_congr_left fun x _ => ?_
  by_cases hk : key x = key row <;> simp [hk]

theorem KeysUnique.overwrite (hu : KeysUnique key rows) :
    KeysUnique key (overwrite key rows row) := by
  unfold KeysUnique
  rw [map_key_overwrite]
  exact hu

theorem KeysUnique.insert (hu : KeysUnique key rows)
    (hfresh : lookup key rows (key row) = none) : KeysUnique key (insert rows row) := by
  unfold KeysUnique Table.insert
  rw [List.map_append, List.nodup_append]
  refine ⟨hu, by simp, ?_⟩
  intro a ha b hb hab
  obtain ⟨x, hx, rfl⟩ := List.mem_map.mp ha
  simp only [List.map_cons, List.map_nil, List.mem_singleton] at hb
  exact lookup_none_iff.mp hfresh x hx (hab.trans hb)

omit [DecidableEq Key] in
theorem KeysUnique.filter {p : Row → Bool} (hu : KeysUnique key rows) :
    KeysUnique key (rows.filter p) :=
  hu.sublist (List.filter_sublist.map key)

theorem mem_insert : r ∈ insert rows row ↔ r ∈ rows ∨ r = row := by
  simp [insert]

theorem lookup_overwrite_self (hr : lookup key rows (key row) = some r) :
    lookup key (overwrite key rows row) (key row) = some row := by
  induction rows with
  | nil => simp [lookup] at hr
  | cons x xs ih =>
    by_cases hk : key x = key row
    · simp [lookup, overwrite, hk]
    · have htail : lookup key xs (key row) = some r := by simpa [lookup, hk] using hr
      simpa [lookup, overwrite, hk] using ih htail

theorem lookup_overwrite_other (hk : key row ≠ k) :
    lookup key (overwrite key rows row) k = lookup key rows k := by
  induction rows with
  | nil => rfl
  | cons x xs ih =>
    have ih' : (xs.map fun r => if key r = key row then row else r).find?
        (fun r => decide (key r = k)) = xs.find? fun r => decide (key r = k) := ih
    by_cases hx : key x = key row
    · have hxk : key x ≠ k := hx ▸ hk
      simp [lookup, overwrite, hx, hk, ih']
    · by_cases hxk : key x = k
      · subst hxk
        simp [lookup, overwrite, hx]
      · simp [lookup, overwrite, hx, hxk, ih']

theorem lookup_insert_self (hfresh : lookup key rows (key row) = none) :
    lookup key (insert rows row) (key row) = some row := by
  have h : rows.find? (fun r => decide (key r = key row)) = none := hfresh
  simp [lookup, insert, List.find?_append, h]

theorem lookup_insert_other (hk : key row ≠ k) :
    lookup key (insert rows row) k = lookup key rows k := by
  simp [lookup, insert, List.find?_append, hk]

theorem lookup_insert_of_some (hr : lookup key rows k = some r) :
    lookup key (insert rows row) k = some r := by
  have h : rows.find? (fun r => decide (key r = k)) = some r := hr
  simp [lookup, insert, List.find?_append, h]

omit [DecidableEq Key] in
theorem newestBy_append {measure : Row → Nat} :
    newestBy measure (rows ++ [row]) =
      match newestBy measure rows with
      | none => some row
      | some found => if measure found < measure row then some row else some found := by
  rw [newestBy, List.foldl_append]
  rfl

section
variable {p : Row → Bool} {f : Row → Row}

omit [DecidableEq Key] in
theorem map_key_updateWhere (hf : ∀ r, key (f r) = key r) :
    (updateWhere rows p f).map key = rows.map key := by
  simp only [updateWhere, List.map_map]
  refine List.map_congr_left fun x _ => ?_
  by_cases hp : p x = true <;> simp [hp, hf]

omit [DecidableEq Key] in
theorem KeysUnique.updateWhere (hu : KeysUnique key rows) (hf : ∀ r, key (f r) = key r) :
    KeysUnique key (updateWhere rows p f) := by
  unfold KeysUnique
  rw [map_key_updateWhere hf]
  exact hu

theorem mem_updateWhere : r ∈ updateWhere rows p f ↔
    ∃ x ∈ rows, (if p x then f x else x) = r := List.mem_map

theorem lookup_updateWhere (hf : ∀ r, key (f r) = key r) (k : Key) :
    lookup key (updateWhere rows p f) k =
      (lookup key rows k).map fun r => if p r then f r else r := by
  have hkey : ((fun r => decide (key r = k)) ∘ fun r => if p r then f r else r) =
      fun r => decide (key r = k) := by
    funext r
    show decide (key (if p r then f r else r) = k) = decide (key r = k)
    split
    · rw [hf]
    · rfl
  unfold lookup updateWhere
  rw [List.find?_map, hkey]

theorem lookup_map {f : Row → Row} (hf : ∀ r, key (f r) = key r) (k : Key) :
    lookup key (rows.map f) k = (lookup key rows k).map f := by
  unfold lookup
  rw [List.find?_map]
  refine congrArg (Option.map f) (congrArg (fun p => rows.find? p) ?_)
  funext r
  simp [hf r]

omit [DecidableEq Key] in
theorem KeysUnique.map {f : Row → Row} (hu : KeysUnique key rows) (hf : ∀ r, key (f r) = key r) :
    KeysUnique key (rows.map f) := by
  have hkeys : (rows.map f).map key = rows.map key := by
    rw [List.map_map]
    exact List.map_congr_left fun r _ => hf r
  unfold KeysUnique
  rw [hkeys]
  exact hu

theorem exists_of_rowcount_eq_one (h : rowcount rows p = 1) : ∃ x ∈ rows, p x = true :=
  List.countP_pos_iff.mp (by rw [show rows.countP p = 1 from h]; exact Nat.one_pos)

omit [DecidableEq Key] in
theorem rowcount_eq_one (hu : KeysUnique key rows) (hr : r ∈ rows) (hp : p r = true)
    (honly : ∀ x, p x = true → key x = key r) : rowcount rows p = 1 := by
  have hfilter : rows.filter p = [r] := by
    have hnodup : rows.Nodup := List.Nodup.of_map key hu
    refine List.perm_singleton.mp ((List.perm_ext_iff_of_nodup (hnodup.filter _)
      (List.nodup_singleton r)).mpr fun x => ?_)
    rw [List.mem_filter, List.mem_singleton]
    constructor
    · rintro ⟨hx, hpx⟩
      exact key_injOn hu hx hr (honly x hpx)
    · rintro rfl
      exact ⟨hr, hp⟩
  rw [rowcount, List.countP_eq_length_filter, hfilter, List.length_singleton]

theorem updateWhere_eq_overwrite (hr : r ∈ rows) (hp : p r = true) (hkey : key (f r) = key r)
    (honly : ∀ x ∈ rows, p x = true → x = r) (hu : KeysUnique key rows) :
    updateWhere rows p f = overwrite key rows (f r) := by
  rw [updateWhere, overwrite]
  apply List.map_congr_left
  intro x hx
  by_cases hpx : p x = true
  · rw [honly x hx hpx, if_pos hp, if_pos hkey.symm]
  · have hne : key x ≠ key (f r) := by
      rw [hkey]
      intro heq
      exact hpx (key_injOn hu hx hr heq ▸ hp)
    rw [if_neg hpx, if_neg hne]

variable {accepted : Row → Bool} {failed mismatch : String}

theorem updateOne_ok {rows' : List Row} (hu : KeysUnique key rows)
    (hok : updateOne accepted rows p f failed mismatch = .ok rows')
    (hp : ∀ r, p r = true → key r = k) (hf : ∀ r, key (f r) = key r) :
    ∃ r ∈ rows, p r = true ∧ accepted (f r) = true ∧ rows' = overwrite key rows (f r) := by
  rw [updateOne] at hok
  split at hok
  · cases hok
  · rename_i haccepted
    split at hok
    · cases hok
    · rename_i hcount
      rw [not_not] at hcount
      cases hok
      obtain ⟨r, hr, hpr⟩ := exists_of_rowcount_eq_one hcount
      refine ⟨r, hr, hpr, ?_, ?_⟩
      · by_contra hrefused
        apply haccepted
        exact List.any_eq_true.mpr ⟨r, hr, by simp [hpr, hrefused]⟩
      · apply updateWhere_eq_overwrite hr hpr (hf r) ?_ hu
        intro x hx hpx
        exact key_injOn hu hx hr ((hp x hpx).trans (hp r hpr).symm)

omit [DecidableEq Key] in
theorem updateOne_none (h : ∀ r ∈ rows, p r = false) : updateOne accepted rows p f failed mismatch =
      .error mismatch := by
  have hkeeps : (rows.any fun r => p r && !accepted (f r)) = false := by
    rw [List.any_eq_false]
    intro r hr
    simp [h r hr]
  have hcount : rowcount rows p ≠ 1 := by
    rw [rowcount, List.countP_eq_zero.mpr fun r hr => by simp [h r hr]]
    exact Nat.zero_ne_one
  rw [updateOne, hkeeps, if_neg Bool.false_ne_true, if_pos hcount]

end

section
variable {le : Row → Row → Prop} [DecidableRel le] {rank : Row → Nat}

omit [DecidableEq Key] in
theorem pairwise_rank_insertionSort (hle : ∀ a b, le a b → rank a ≤ rank b)
    (hnot : ∀ a b, ¬ le a b → rank b ≤ rank a) (rows : List Row) :
    (rows.insertionSort le).Pairwise fun a b => rank a ≤ rank b := by
  have hinsert : ∀ (a : Row) (sorted : List Row), sorted.Pairwise (fun a b => rank a ≤ rank b) →
      (sorted.orderedInsert le a).Pairwise fun a b => rank a ≤ rank b := by
    intro a sorted hsorted
    induction sorted with
    | nil => exact List.pairwise_singleton _ _
    | cons b rest ih =>
      obtain ⟨hfirst, hrest⟩ := List.pairwise_cons.mp hsorted
      rw [List.orderedInsert]
      split
      · rename_i hab
        refine List.pairwise_cons.mpr ⟨fun x hx => ?_, hsorted⟩
        rcases List.mem_cons.mp hx with rfl | hmem
        · exact hle a x hab
        · exact (hle a b hab).trans (hfirst x hmem)
      · rename_i hab
        refine List.pairwise_cons.mpr ⟨fun x hx => ?_, ih hrest⟩
        rcases List.mem_orderedInsert _ |>.mp hx with rfl | hmem
        · exact hnot x b hab
        · exact hfirst x hmem
  induction rows with
  | nil => exact List.Pairwise.nil
  | cons a rest ih => exact hinsert a _ ih

omit [DecidableEq Key] in
theorem mem_take_of_rank {n : Nat} (hsorted : rows.Pairwise fun a b => rank a ≤ rank b)
    (hrow : row ∈ rows) (hrank : rank row = 0) (hfits : rows.countP (rank · = 0) ≤ n) :
    row ∈ rows.take n := by
  induction rows generalizing n with
  | nil => cases hrow
  | cons first rest ih =>
    obtain ⟨hfirst, hrest⟩ := List.pairwise_cons.mp hsorted
    -- the first row of a sorted list that holds rank 0 has rank 0
    have hzero : rank first = 0 := by
      rcases List.mem_cons.mp hrow with rfl | hmem
      · exact hrank
      · have := hfirst row hmem
        omega
    rw [List.countP_cons_of_pos (by simpa using hzero)] at hfits
    obtain ⟨m, rfl⟩ : ∃ m, n = m + 1 := ⟨n - 1, by omega⟩
    rw [List.take_succ_cons]
    rcases List.mem_cons.mp hrow with rfl | hmem
    · exact List.mem_cons_self
    · exact List.mem_cons_of_mem _ (ih hrest hmem (by omega))

omit [DecidableEq Key] in
theorem mem_take_sorted (rank : Row → Nat) {n : Nat} (hle : ∀ a b, le a b → rank a ≤ rank b)
    (hnot : ∀ a b, ¬ le a b → rank b ≤ rank a) (hrow : row ∈ rows) (hrank : rank row = 0)
    (hfits : rows.countP (rank · = 0) ≤ n) : row ∈ (rows.insertionSort le).take n := by
  refine mem_take_of_rank (pairwise_rank_insertionSort hle hnot rows)
    ((List.mem_insertionSort le).mpr hrow) hrank ?_
  rwa [(List.perm_insertionSort le rows).countP_eq]

end

end MediaSync.Table
