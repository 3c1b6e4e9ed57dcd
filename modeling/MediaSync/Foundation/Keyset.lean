import Mathlib.Data.List.Sort

/-! Rows that are read page by page in the order of a comparison: a page ends with a cursor made
from its last row, and the next page has the rows after that cursor. -/
namespace MediaSync.Keyset

variable {α : Type}

theorem text_compare_eq_lt {a b : String} : compare a b = .lt ↔ a < b := compareOfLessAndEq_eq_lt

theorem text_compare_eq_eq {a b : String} : compare a b = .eq ↔ a = b :=
  Std.LawfulEqCmp.compare_eq_iff_eq

section
variable (cmp : α → α → Ordering)

/-- A row that comes first, or ties. -/
def precedes (a b : α) : Prop := (cmp a b).isLE

instance : DecidableRel (precedes cmp) := fun _ _ => inferInstanceAs (Decidable (_ = true))

/-- `ORDER BY`, or a sort: rows that tie stay in the order they come in. -/
def orderBy (rows : List α) : List α := rows.insertionSort (precedes cmp)

def Distinct (rows : List α) : Prop := rows.Pairwise fun a b => cmp a b ≠ .eq

variable {rows : List α} {row : α}

@[simp] theorem mem_orderBy : row ∈ orderBy cmp rows ↔ row ∈ rows :=
  List.mem_insertionSort _

theorem orderBy_eq_self (h : rows.Pairwise (precedes cmp)) : orderBy cmp rows = rows :=
  List.Pairwise.insertionSort_eq h

variable {cmp} in
theorem orderBy_congr {cmp' : α → α → Ordering} (h : ∀ a ∈ rows, ∀ b ∈ rows, cmp a b = cmp' a b) :
    orderBy cmp rows = orderBy cmp' rows := by
  have hmap := List.map_insertionSort (precedes cmp) (precedes cmp') id rows fun a ha b hb => by
    rw [precedes, precedes, id, id, h a ha b hb]
  rwa [List.map_id, List.map_id] at hmap

theorem perm_orderBy (rows : List α) : (orderBy cmp rows).Perm rows := List.perm_insertionSort _ _

variable [Std.TransCmp cmp]

instance : Std.Total (precedes cmp) where
  total a b := by
    by_cases h : (cmp a b).isLE
    · exact .inl h
    · right
      exact Ordering.isLE_of_eq_lt (Std.OrientedCmp.lt_of_not_isLE h)

instance : IsTrans α (precedes cmp) := ⟨fun _ _ _ => Std.TransCmp.isLE_trans⟩

theorem pairwise_orderBy (rows : List α) : (orderBy cmp rows).Pairwise (precedes cmp) :=
  List.pairwise_insertionSort _ rows

variable {cmp}

theorem Distinct.perm {rows rows' : List α} (h : Distinct cmp rows) (hperm : rows.Perm rows') :
    Distinct cmp rows' :=
  (hperm.pairwise_iff fun hne heq => hne (Std.OrientedCmp.eq_symm heq)).mp h

omit [Std.TransCmp cmp] in
theorem Distinct.of_nodup {β : Type} {component : α → β} (hnodup : (rows.map component).Nodup)
    (hcomponent : ∀ a b, cmp a b = .eq → component a = component b) : Distinct cmp rows :=
  (List.pairwise_map.mp hnodup).imp fun hne heq => hne (hcomponent _ _ heq)

omit [Std.TransCmp cmp] in
theorem Distinct.filter (h : Distinct cmp rows) (p : α → Bool) : Distinct cmp (rows.filter p) :=
  h.sublist List.filter_sublist

theorem Distinct.strict (h : Distinct cmp rows) :
    (orderBy cmp rows).Pairwise fun a b => cmp a b = .lt := by
  refine (h.perm (perm_orderBy cmp rows).symm).imp₂ (fun a b hne hle => ?_)
    (pairwise_orderBy cmp rows)
  rcases Ordering.isLE_iff_eq_lt_or_eq_eq.mp hle with hlt | heq
  · exact hlt
  · exact absurd heq hne

theorem filter_orderedInsert_of_pos {p : α → Bool} (hrow : p row)
    (h : rows.Pairwise (precedes cmp)) :
    (rows.orderedInsert (precedes cmp) row).filter p =
      (rows.filter p).orderedInsert (precedes cmp) row := by
  induction rows with
  | nil => simp [hrow]
  | cons other rows ih =>
    have hrest := (List.pairwise_cons.mp h).2
    by_cases hle : precedes cmp row other
    · rw [List.orderedInsert_cons_of_le _ _ hle, List.filter_cons_of_pos hrow]
      -- everything that is left comes after the row
      have hall : ∀ b ∈ (other :: rows).filter p, precedes cmp row b := by
        intro b hb
        rcases List.mem_cons.mp (List.mem_of_mem_filter hb) with rfl | hb
        · exact hle
        · exact Std.TransCmp.isLE_trans hle ((List.pairwise_cons.mp h).1 b hb)
      cases hfilter : (other :: rows).filter p with
      | nil => rfl
      | cons b bs =>
        rw [List.orderedInsert_cons_of_le _ _ (hall b (hfilter ▸ List.mem_cons_self))]
    · rw [List.orderedInsert_of_not_le _ _ hle]
      by_cases hother : p other
      · rw [List.filter_cons_of_pos hother, List.filter_cons_of_pos hother,
          List.orderedInsert_of_not_le _ _ hle, ih hrest]
      · rw [List.filter_cons_of_neg hother, List.filter_cons_of_neg hother, ih hrest]

omit [Std.TransCmp cmp] in
theorem filter_orderedInsert_of_neg {p : α → Bool} (hrow : ¬ p row) (rows : List α) :
    (rows.orderedInsert (precedes cmp) row).filter p = rows.filter p := by
  induction rows with
  | nil => simp [hrow]
  | cons other rows ih =>
    by_cases hle : precedes cmp row other
    · rw [List.orderedInsert_cons_of_le _ _ hle, List.filter_cons_of_neg hrow]
    · rw [List.orderedInsert_of_not_le _ _ hle, List.filter_cons, List.filter_cons, ih]

theorem filter_orderBy (p : α → Bool) (rows : List α) :
    (orderBy cmp rows).filter p = orderBy cmp (rows.filter p) := by
  induction rows with
  | nil => rfl
  | cons row rows ih =>
    have hcons : orderBy cmp (row :: rows) =
        (orderBy cmp rows).orderedInsert (precedes cmp) row := rfl
    by_cases hrow : p row
    · rw [hcons, filter_orderedInsert_of_pos hrow (pairwise_orderBy cmp rows), ih,
        List.filter_cons_of_pos hrow]
      rfl
    · rw [hcons, filter_orderedInsert_of_neg hrow, ih, List.filter_cons_of_neg hrow]

theorem orderedInsert_comm {a b : α} (hab : ¬ precedes cmp a b) (rows : List α) :
    (rows.orderedInsert (precedes cmp) a).orderedInsert (precedes cmp) b =
      (rows.orderedInsert (precedes cmp) b).orderedInsert (precedes cmp) a := by
  have hba : precedes cmp b a := (Std.Total.total a b).resolve_left hab
  induction rows with
  | nil => simp [hab, hba]
  | cons row rows ih =>
    by_cases hbrow : precedes cmp b row
    · by_cases harow : precedes cmp a row
      · simp [harow, hbrow, hab, hba]
      · simp [harow, hbrow, hab]
    · have harow : ¬ precedes cmp a row := fun h =>
        hbrow (Std.TransCmp.isLE_trans hba h)
      simp [harow, hbrow, ih]

def insertAll (cmp : α → α → Ordering) (rows into : List α) : List α :=
  rows.foldr (fun row rest => rest.orderedInsert (precedes cmp) row) into

omit [Std.TransCmp cmp] in
theorem orderBy_append (rows rows' : List α) :
    orderBy cmp (rows ++ rows') = insertAll cmp rows (orderBy cmp rows') :=
  List.foldr_append

theorem insertAll_orderedInsert (row : α) (rows into : List α) :
    insertAll cmp (rows.orderedInsert (precedes cmp) row) into =
      (insertAll cmp rows into).orderedInsert (precedes cmp) row := by
  induction rows with
  | nil => rfl
  | cons other rows ih =>
    by_cases hle : precedes cmp row other
    · rw [List.orderedInsert_cons_of_le _ _ hle]
      rfl
    · rw [List.orderedInsert_of_not_le _ _ hle]
      have hcomm := orderedInsert_comm hle (insertAll cmp rows into)
      rw [show insertAll cmp (other :: rows.orderedInsert (precedes cmp) row) into =
        (insertAll cmp (rows.orderedInsert (precedes cmp) row) into).orderedInsert
          (precedes cmp) other from rfl, ih, hcomm]
      rfl

theorem insertAll_orderBy (rows into : List α) :
    insertAll cmp (orderBy cmp rows) into = insertAll cmp rows into := by
  induction rows with
  | nil => rfl
  | cons row rows ih =>
    rw [show orderBy cmp (row :: rows) = (orderBy cmp rows).orderedInsert (precedes cmp) row
      from rfl, insertAll_orderedInsert, ih]
    rfl

def merge (cmp : α → α → Ordering) (rows others : List α) : List α :=
  rows.merge others fun row other => (cmp row other).isLE

omit [Std.TransCmp cmp] in
@[simp] theorem nil_merge (others : List α) : merge cmp [] others = others := List.nil_merge _

omit [Std.TransCmp cmp] in
@[simp] theorem merge_nil (rows : List α) : merge cmp rows [] = rows := List.merge_right _

omit [Std.TransCmp cmp] in
theorem merge_cons_of_precedes {row other : α} (h : precedes cmp row other)
    (rows others : List α) : merge cmp (row :: rows) (other :: others) =
      row :: merge cmp rows (other :: others) :=
  List.cons_merge_cons_pos _ _ _ h

omit [Std.TransCmp cmp] in
theorem merge_cons_of_not_precedes {row other : α} (h : ¬ precedes cmp row other)
    (rows others : List α) : merge cmp (row :: rows) (other :: others) =
      other :: merge cmp (row :: rows) others :=
  List.cons_merge_cons_neg _ _ _ h

theorem orderedInsert_merge (h : (row :: rows).Pairwise (precedes cmp)) (others : List α) :
    (merge cmp rows others).orderedInsert (precedes cmp) row = merge cmp (row :: rows) others := by
  have hrow := (List.pairwise_cons.mp h).1
  induction others with
  | nil =>
    rw [merge_nil, merge_nil]
    cases rows with
    | nil => rfl
    | cons next rows => exact List.orderedInsert_cons_of_le _ _ (hrow next List.mem_cons_self)
  | cons other others ih =>
    by_cases hle : precedes cmp row other
    · rw [merge_cons_of_precedes hle]
      cases rows with
      | nil =>
        rw [nil_merge]
        exact List.orderedInsert_cons_of_le _ _ hle
      | cons next rows =>
        by_cases hnext : precedes cmp next other
        · rw [merge_cons_of_precedes hnext]
          exact List.orderedInsert_cons_of_le _ _ (hrow next List.mem_cons_self)
        · rw [merge_cons_of_not_precedes hnext]
          exact List.orderedInsert_cons_of_le _ _ hle
    · rw [merge_cons_of_not_precedes hle, ← ih]
      cases rows with
      | nil =>
        rw [nil_merge, nil_merge]
        exact List.orderedInsert_of_not_le _ _ hle
      | cons next rows =>
        have hnext : ¬ precedes cmp next other := fun hnext =>
          hle (Std.TransCmp.isLE_trans (hrow next List.mem_cons_self) hnext)
        rw [merge_cons_of_not_precedes hnext, List.orderedInsert_of_not_le _ _ hle]

theorem insertAll_eq_merge (h : rows.Pairwise (precedes cmp)) (others : List α) :
    insertAll cmp rows others = merge cmp rows others := by
  induction rows with
  | nil => simp [insertAll]
  | cons row rows ih =>
    rw [← orderedInsert_merge h, ← ih (List.pairwise_cons.mp h).2]
    rfl

theorem orderBy_append_eq_merge (rows others : List α) :
    orderBy cmp (rows ++ others) = merge cmp (orderBy cmp rows) (orderBy cmp others) := by
  rw [orderBy_append, ← insertAll_orderBy, insertAll_eq_merge (pairwise_orderBy cmp rows)]

omit [Std.TransCmp cmp] in
theorem take_merge (n : Nat) (rows others : List α) :
    (merge cmp rows others).take n = (merge cmp (rows.take n) (others.take n)).take n := by
  induction n generalizing rows others with
  | zero => rfl
  | succ n ih =>
    have hself (m : Nat) (l : List α) : (l.take m).take m = l.take m := by
      rw [List.take_take, Nat.min_self]
    have hcons (a : α) (l : List α) : (a :: l.take n).take n = (a :: l).take n := by
      cases n with
      | zero => rfl
      | succ n =>
        rw [List.take_succ_cons, List.take_succ_cons, List.take_take,
          Nat.min_eq_left (Nat.le_succ n)]
    cases rows with
    | nil => rw [List.take_nil, nil_merge, nil_merge, hself]
    | cons row rows =>
      cases others with
      | nil => rw [List.take_nil, merge_nil, merge_nil, hself]
      | cons other others =>
        rw [List.take_succ_cons, List.take_succ_cons]
        by_cases hle : precedes cmp row other
        · rw [merge_cons_of_precedes hle, merge_cons_of_precedes hle, List.take_succ_cons,
            List.take_succ_cons, ih, ih (rows.take n) (other :: others.take n), hself, hcons]
        · rw [merge_cons_of_not_precedes hle, merge_cons_of_not_precedes hle,
            List.take_succ_cons, List.take_succ_cons, ih, ih (row :: rows.take n), hself, hcons]

def Agree (cmp : α → α → Ordering) (n : Nat) (rows rows' : List α) : Prop :=
  (orderBy cmp rows).take n = (orderBy cmp rows').take n

theorem Agree.take (n : Nat) (rows : List α) :
    Agree cmp n ((orderBy cmp rows).take n) rows := by
  rw [Agree, orderBy_eq_self cmp ((pairwise_orderBy cmp rows).sublist (List.take_sublist _ _)),
    List.take_take, Nat.min_self]

theorem Agree.append {n : Nat} {rows rows' others others' : List α} (h : Agree cmp n rows rows')
    (h' : Agree cmp n others others') : Agree cmp n (rows ++ others) (rows' ++ others') := by
  rw [Agree, orderBy_append_eq_merge, orderBy_append_eq_merge, take_merge,
    take_merge n (orderBy cmp rows'), h, h']

end

section
variable {ε γ : Type}

def cut (cursor : α → γ) (limit : Nat) (rows : List α) : List α × Option γ :=
  (rows.take limit,
    if limit < rows.length then (rows.take limit).getLast?.map cursor else none)

def page (rowsAfter : Option γ → Except ε (List α)) (cursor : α → γ) (limit : Nat)
    (after : Option γ) : Except ε (List α × Option γ) :=
  (rowsAfter after).map fun rows => cut cursor limit (rows.take (limit + 1))

inductive Enumerates (fetch : Option γ → Except ε (List α × Option γ)) :
    Option γ → List α → Prop
  | last {after rows} : fetch after = .ok (rows, none) → Enumerates fetch after rows
  | more {after rows cursor rest} : fetch after = .ok (rows, some cursor) →
      Enumerates fetch (some cursor) rest → Enumerates fetch after (rows ++ rest)

variable {fetch : Option γ → Except ε (List α × Option γ)} {rows : List α}

theorem Enumerates.no_loop {cursor : γ} (h : Enumerates fetch (some cursor) rows) (found : List α) :
    fetch (some cursor) ≠ .ok (found, some cursor) := by
  generalize hafter : some cursor = after at h
  induction h with
  | last hfetch => rintro hloop; subst hafter; simp_all
  | more hfetch _ ih =>
    subst hafter
    intro hloop
    obtain ⟨rfl, rfl⟩ : _ = _ ∧ _ = _ := by simpa [hfetch] using hloop
    exact ih rfl hloop

def mapPage {β : Type} (f : α → β) (fetch : Option γ → Except ε (List α × Option γ))
    (after : Option γ) : Except ε (List β × Option γ) :=
  (fetch after).map fun found => (found.1.map f, found.2)

variable {after : Option γ}

theorem enumerates_mapPage {β : Type} {f : α → β} {listed : List β} :
    Enumerates (mapPage f fetch) after listed ↔
      ∃ rows, listed = rows.map f ∧ Enumerates fetch after rows := by
  constructor
  · intro h
    induction h with
    | @last after listed hfetch =>
      cases hrows : fetch after with
      | error e => simp [mapPage, hrows, Except.map] at hfetch
      | ok found =>
        obtain ⟨rows, next⟩ := found
        obtain ⟨rfl, rfl⟩ : rows.map f = listed ∧ next = none := by
          simpa [mapPage, hrows, Except.map] using hfetch
        exact ⟨rows, rfl, .last hrows⟩
    | @more after listed cursor rest hfetch _ ih =>
      obtain ⟨behind, rfl, hbehind⟩ := ih
      cases hrows : fetch after with
      | error e => simp [mapPage, hrows, Except.map] at hfetch
      | ok found =>
        obtain ⟨rows, next⟩ := found
        obtain ⟨rfl, rfl⟩ : rows.map f = listed ∧ next = some cursor := by
          simpa [mapPage, hrows, Except.map] using hfetch
        exact ⟨rows ++ behind, by rw [List.map_append], .more hrows hbehind⟩
  · rintro ⟨rows, rfl, h⟩
    induction h with
    | last hfetch => exact .last (by rw [mapPage, hfetch]; rfl)
    | more hfetch _ ih =>
      rw [List.map_append]
      exact .more (by rw [mapPage, hfetch]; rfl) ih

structure Resumes (rowsAfter : Option γ → Except ε (List α)) (cursor : α → γ) (ordered : List α) :
    Prop where
  start : rowsAfter none = .ok ordered
  next : ∀ done row rest, ordered = done ++ row :: rest → rest ≠ [] →
    rowsAfter (some (cursor row)) = .ok rest

variable {rowsAfter : Option γ → Except ε (List α)} {cursor : α → γ} {ordered : List α}
  {limit : Nat}

variable (cursor) in
theorem page_last (h : rowsAfter after = .ok rows) (hlength : rows.length ≤ limit) :
    page rowsAfter cursor limit after = .ok (rows, none) := by
  have htake : rows.take (limit + 1) = rows := List.take_of_length_le (by omega)
  rw [page, h, Except.map, htake, cut, List.take_of_length_le hlength, if_neg (by omega)]

variable (cursor) in
theorem page_more {row : α} {rest : List α} (h : rowsAfter after = .ok (rows ++ row :: rest))
    (hlength : rows.length + 1 = limit) (hrest : rest ≠ []) :
    page rowsAfter cursor limit after = .ok (rows ++ [row], some (cursor row)) := by
  have hpos : 0 < rest.length := List.length_pos_iff.mpr hrest
  have htake : ((rows ++ row :: rest).take (limit + 1)).take limit = rows ++ [row] := by
    rw [List.take_take, Nat.min_eq_left (Nat.le_succ _), List.append_cons]
    exact List.take_left' (by rw [List.length_append, List.length_singleton, hlength])
  rw [page, h, Except.map, cut, htake, if_pos, List.getLast?_append]
  · rfl
  · simp only [List.length_take, List.length_append, List.length_cons]
    omega

theorem Resumes.enumerates_from (h : Resumes rowsAfter cursor ordered) (hlimit : 0 < limit)
    (n : Nat) : ∀ {after : Option γ} (done : List α) {rest : List α}, rest.length ≤ n →
      ordered = done ++ rest → rowsAfter after = .ok rest →
        Enumerates (page rowsAfter cursor limit) after rest := by
  induction n with
  | zero =>
    intro after _ rest hn _ hafter
    exact .last (page_last cursor hafter (by omega))
  | succ n ih =>
    intro after done rest hn hordered hafter
    by_cases hlength : rest.length ≤ limit
    · exact .last (page_last cursor hafter hlength)
    · -- the page ends with the row at the limit, and its cursor leads to the rest
      obtain ⟨rows, row, rest', rfl, hrows⟩ :
          ∃ rows row rest', rest = rows ++ row :: rest' ∧ rows.length + 1 = limit := by
        have hlt : limit - 1 < rest.length := by omega
        refine ⟨rest.take (limit - 1), rest[limit - 1], rest.drop (limit - 1 + 1), ?_, ?_⟩
        · rw [List.getElem_cons_drop, List.take_append_drop]
        · rw [List.length_take]
          omega
      have hrest : rest' ≠ [] := by
        rintro rfl
        simp only [List.length_append, List.length_cons, List.length_nil] at hlength
        omega
      have hnext := h.next (done ++ rows) row rest' (by rw [hordered, List.append_assoc]) hrest
      have hmore := page_more cursor hafter hrows hrest
      have hle : rest'.length ≤ n := by
        simp only [List.length_append, List.length_cons] at hn
        omega
      have := Enumerates.more hmore
        (ih (done ++ (rows ++ [row])) hle (by simp [hordered]) hnext)
      rwa [List.append_assoc] at this

theorem Resumes.enumerates (h : Resumes rowsAfter cursor ordered) (hlimit : 0 < limit) :
    Enumerates (page rowsAfter cursor limit) none ordered :=
  h.enumerates_from hlimit ordered.length [] le_rfl (List.nil_append _).symm h.start

end

section
variable {ε γ κ : Type} {cmp : α → α → Ordering} [Std.TransCmp cmp]

theorem filter_of_strict {done rest : List α} {row : α}
    (h : (done ++ row :: rest).Pairwise fun a b => cmp a b = .lt) :
    (done ++ row :: rest).filter (fun other => cmp row other = .lt) = rest := by
  obtain ⟨-, hrow, hdone⟩ := List.pairwise_append.mp h
  have hself : cmp row row ≠ .lt := by simp [Std.ReflCmp.compare_self]
  have hbefore : done.filter (fun other => cmp row other = .lt) = [] := by
    refine List.filter_eq_nil_iff.mpr fun other hother => ?_
    have := Std.OrientedCmp.not_lt_of_lt (hdone other hother row List.mem_cons_self)
    simpa using this
  have hafter : rest.filter (fun other => cmp row other = .lt) = rest := by
    refine List.filter_eq_self.mpr fun other hother => ?_
    simpa using (List.pairwise_cons.mp hrow).1 other hother
  rw [List.filter_append, hbefore, List.nil_append, List.filter_cons_of_neg (by simpa using hself),
    hafter]

omit [Std.TransCmp cmp] in
theorem filter_suffix {p : α → Bool} (hp : ∀ a b, precedes cmp a b → p a → p b) {rows : List α}
    (h : rows.Pairwise (precedes cmp)) : rows.filter p <:+ rows := by
  induction rows with
  | nil => exact List.suffix_refl _
  | cons row rows ih =>
    obtain ⟨hrow, hrows⟩ := List.pairwise_cons.mp h
    by_cases hpos : p row
    · have hall : ∀ other ∈ row :: rows, p other = true := by
        intro other hother
        rcases List.mem_cons.mp hother with rfl | hother
        · exact hpos
        · exact hp row other (hrow other hother) hpos
      exact (List.filter_eq_self.mpr hall).symm ▸ List.suffix_refl (row :: rows)
    · rw [List.filter_cons_of_neg hpos]
      exact (ih hrows).trans (List.suffix_cons _ _)

/-- The rows after a cursor: `read` takes the cursor apart, and `past` selects the rows. -/
def rowsPast (cmp : α → α → Ordering) (rows : List α) (read : γ → Except ε κ)
    (past : κ → α → Bool) : Option γ → Except ε (List α)
  | none => .ok (orderBy cmp rows)
  | some cursor => (read cursor).map fun k => orderBy cmp (rows.filter (past k))

variable {rows : List α} {read : γ → Except ε κ} {past : κ → α → Bool} {cursor : α → γ}

def Separates (cmp : α → α → Ordering) (rows : List α) (read : γ → Except ε κ)
    (past : κ → α → Bool) (cursor : α → γ) (row : α) : Prop :=
  ∃ k, read (cursor row) = .ok k ∧ ∀ other ∈ rows, past k other = true ↔ cmp row other = .lt

theorem resumes_of_separates (hdistinct : Distinct cmp rows)
    (hread : ∀ row ∈ rows, (∃ later ∈ rows, cmp row later = .lt) →
      Separates cmp rows read past cursor row) :
    Resumes (rowsPast cmp rows read past) cursor (orderBy cmp rows) where
  start := rfl
  next done row rest hordered hrest := by
    have hstrict := hordered ▸ hdistinct.strict
    have hmem (other : α) : other ∈ rows ↔ other ∈ done ++ row :: rest := by
      rw [← hordered, mem_orderBy]
    obtain ⟨later, hlater⟩ := List.exists_mem_of_ne_nil rest hrest
    have hlt : cmp row later = .lt :=
      (List.pairwise_cons.mp (List.pairwise_append.mp hstrict).2.1).1 later hlater
    obtain ⟨k, hk, hpast⟩ := hread row ((hmem row).mpr (by simp))
      ⟨later, (hmem later).mpr (by simp [hlater]), hlt⟩
    have hfilter : rows.filter (past k) = rows.filter (fun other => cmp row other = .lt) :=
      List.filter_congr fun other hother => by
        rw [Bool.eq_iff_iff, hpast other hother, decide_eq_true_eq]
    rw [rowsPast, hk, Except.map, hfilter, ← filter_orderBy, hordered, filter_of_strict hstrict]

theorem Resumes.separates (hup : ∀ k a b, precedes cmp a b → past k a → past k b)
    (h : Resumes (rowsPast cmp rows read past) cursor (orderBy cmp rows)) :
    Distinct cmp rows ∧ ∀ row ∈ rows, (∃ later ∈ rows, cmp row later = .lt) →
      Separates cmp rows read past cursor row := by
  have hnext : ∀ done row rest, orderBy cmp rows = done ++ row :: rest → rest ≠ [] →
      ∃ k, read (cursor row) = .ok k ∧ (orderBy cmp rows).filter (past k) = rest := by
    intro done row rest hordered hrest
    have hrows := h.next done row rest hordered hrest
    cases hk : read (cursor row) with
    | error e => simp [rowsPast, hk, Except.map] at hrows
    | ok k =>
      refine ⟨k, rfl, ?_⟩
      rw [filter_orderBy]
      simpa [rowsPast, hk, Except.map] using hrows
  -- rows that tie are selected together, and one of them is on the page already
  have hdistinct : Distinct cmp (orderBy cmp rows) := by
    refine List.pairwise_iff_forall_sublist.mpr fun {row other} hsub htie => ?_
    obtain ⟨front, behind, hsplit, hrow, hother⟩ := List.cons_sublist_iff.mp hsub
    obtain ⟨done, between, rfl⟩ := List.append_of_mem hrow
    have hother : other ∈ behind := List.singleton_sublist.mp hother
    have hordered : orderBy cmp rows = done ++ row :: (between ++ behind) := by
      rw [hsplit, List.append_assoc, List.cons_append]
    obtain ⟨k, -, hfilter⟩ := hnext done row _ hordered (List.ne_nil_of_mem
      (List.mem_append_right between hother))
    have hpast : past k other = true :=
      List.of_mem_filter (hfilter ▸ List.mem_append_right between hother)
    have hties (x : α) (hx : cmp row x = .eq) : past k x = true :=
      hup k other x (Ordering.isLE_of_eq_eq
        (Std.TransCmp.eq_trans (Std.OrientedCmp.eq_symm htie) hx)) hpast
    have hcount : (between ++ behind).countP (fun x => cmp row x = .eq) =
        (orderBy cmp rows).countP fun x => cmp row x = .eq := by
      rw [← hfilter, List.countP_filter]
      refine List.countP_congr fun x _ => ?_
      simp only [Bool.and_eq_true, decide_eq_true_eq]
      exact ⟨And.left, fun hx => ⟨hx, hties x hx⟩⟩
    have hself : decide (cmp row row = .eq) = true := decide_eq_true Std.ReflCmp.compare_self
    rw [hordered, @List.countP_append _ _ done, List.countP_cons,
      if_pos hself] at hcount
    omega
  have hstrict := (hdistinct.perm (perm_orderBy cmp rows)).strict
  refine ⟨hdistinct.perm (perm_orderBy cmp rows), fun row hrow ⟨later, hlater, hlt⟩ => ?_⟩
  obtain ⟨done, rest, hordered⟩ := List.append_of_mem ((mem_orderBy cmp).mpr hrow)
  have hrest := filter_of_strict (hordered ▸ hstrict)
  have hafter (other : α) : other ∈ rest ↔ other ∈ rows ∧ cmp row other = .lt := by
    rw [← hrest, ← hordered, List.mem_filter, mem_orderBy, decide_eq_true_eq]
  obtain ⟨k, hk, hfilter⟩ := hnext done row rest hordered
    (List.ne_nil_of_mem ((hafter later).mpr ⟨hlater, hlt⟩))
  refine ⟨k, hk, fun other hother => ?_⟩
  have hmem : other ∈ rest ↔ past k other = true := by
    rw [← hfilter, List.mem_filter, mem_orderBy, and_iff_right hother]
  rw [← hmem, hafter, and_iff_right hother]

end

section
variable {β ε γ : Type}

structure Page (α γ : Type) where
  rows : List α
  nextCursor : Option γ
  hasMore : Bool

def fetchPage (cursor : α → γ) (limit : Int) (rows : List α) : Page α γ :=
  let fetched := rows.take (limit + 1).toNat
  let pageRows := fetched.take limit.toNat
  let hasMore := decide (limit < fetched.length)
  { rows := pageRows
    nextCursor := if hasMore then pageRows.getLast?.map cursor else none
    hasMore }

theorem fetchPage_eq_cut {cursor : α → γ} {limit : Int} (hlimit : 0 ≤ limit) (rows : List α) :
    ((fetchPage cursor limit rows).rows, (fetchPage cursor limit rows).nextCursor) =
      cut cursor limit.toNat (rows.take (limit.toNat + 1)) := by
  have htoNat : (limit + 1).toNat = limit.toNat + 1 := by omega
  have hmore : limit < ((rows.take (limit.toNat + 1)).length : Int) ↔
      limit.toNat < (rows.take (limit.toNat + 1)).length := by omega
  simp only [fetchPage, cut, htoNat]
  by_cases hlong : limit.toNat < (rows.take (limit.toNat + 1)).length
  · rw [if_pos hlong, decide_eq_true (hmore.mpr hlong), if_pos rfl]
  · rw [if_neg hlong, decide_eq_false fun h => hlong (hmore.mp h), if_neg Bool.false_ne_true]

variable {method : Option γ → Except ε (List β × Option γ)}

theorem enumerates_method {cmp : α → α → Ordering} [Std.TransCmp cmp] {rows : List α}
    (validate : Option γ → Except ε Unit) (past : γ → α → Bool) (cursor : α → γ) {limit : Int}
    {f : α → β} (hlimit : 1 ≤ limit) (hdistinct : Distinct cmp rows)
    (hfirst : validate none = .ok ())
    (hcursor : ∀ row ∈ rows, validate (some (cursor row)) = .ok () ∧
      ∀ other ∈ rows, past (cursor row) other = true ↔ cmp row other = .lt)
    (hmethod : ∀ after, method after = (validate after).map fun _ =>
      let found := fetchPage cursor limit
        (orderBy cmp (rows.filter fun row => after.all fun after => past after row))
      (found.rows.map f, found.nextCursor)) :
    Enumerates method none ((orderBy cmp rows).map f) := by
  let read (after : γ) : Except ε γ := (validate (some after)).map fun _ => after
  have hpage : method = mapPage f (page (rowsPast cmp rows read past) cursor limit.toNat) := by
    funext after
    have hcut := fun behind : List α => @fetchPage_eq_cut _ _ cursor limit (by omega) behind
    cases after with
    | none =>
      rw [hmethod, hfirst, mapPage, page, rowsPast]
      simp only [Except.map, Option.all_none, List.filter_true, ← hcut]
    | some after =>
      rw [hmethod, mapPage, page, rowsPast]
      cases hread : validate (some after) with
      | error e => simp only [read, hread, Except.map]
      | ok _ => simp only [read, hread, Except.map, Option.all_some, ← hcut]
  rw [hpage, enumerates_mapPage]
  refine ⟨_, rfl, Resumes.enumerates (resumes_of_separates hdistinct fun row hrow _ => ?_)
    (by omega)⟩
  obtain ⟨hvalid, hpast⟩ := hcursor row hrow
  exact ⟨cursor row, by simp only [read, hvalid, Except.map], hpast⟩

theorem not_enumerates_of_error {after : Option γ} {e : ε} (h : method after = .error e)
    (listed : List β) : ¬ Enumerates method after listed := by
  rintro (hmethod | ⟨hmethod, _⟩) <;> simp [h] at hmethod

end

section
variable {ε γ : Type} {cmp : α → α → Ordering} [Std.TransCmp cmp]
  {rowsAfter : Option γ → Except ε (List α)} {cursor : α → γ} {ordered : List α}

variable {after : Option γ}

variable (cursor) in
theorem page_one {rows : List α} (h : rowsAfter after = .ok rows) :
    rows.length ≤ 1 ∧ page rowsAfter cursor 1 after = .ok (rows, none) ∨
      ∃ row rest, rows = row :: rest ∧ rest ≠ [] ∧
        page rowsAfter cursor 1 after = .ok ([row], some (cursor row)) := by
  by_cases hlength : rows.length ≤ 1
  · exact .inl ⟨hlength, page_last cursor h hlength⟩
  · cases rows with
    | nil => exact absurd (Nat.zero_le 1) hlength
    | cons row rest =>
      have hrest : rest ≠ [] := by
        rintro rfl
        exact hlength le_rfl
      exact .inr ⟨row, rest, rfl, hrest, 
        page_more cursor (List.nil_append (row :: rest) ▸ h) rfl hrest⟩

theorem not_longer (hordered : ordered.Pairwise (precedes cmp))
    (hcursor : ∀ a b, cmp a b = .eq → cursor a = cursor b) {row : α} {rest left listed : List α}
    (hrest : rest ≠ []) (hleft : rowsAfter (some (cursor row)) = .ok left)
    (hsuffix : left <:+ ordered)
    (hlisted : Enumerates (page rowsAfter cursor 1) (some (cursor row)) listed)
    (hpairwise : (row :: listed).Pairwise (precedes cmp)) : ¬ row :: rest <:+ left := by
  intro hlonger
  rcases page_one cursor hleft with ⟨hlength, -⟩ | ⟨first, left', rfl, -, hmore⟩
  · have := hlonger.length_le
    have hpos : 0 < rest.length := List.length_pos_iff.mpr hrest
    simp only [List.length_cons] at this
    omega
  · -- the page behind the cursor begins with a row that ties, so its cursor is the same one
    have hfirst : precedes cmp first row := by
      have hsorted := hordered.sublist hsuffix.sublist
      rcases List.mem_cons.mp (hlonger.subset List.mem_cons_self) with rfl | hmem
      · exact Std.ReflCmp.isLE_rfl
      · exact (List.pairwise_cons.mp hsorted).1 row hmem
    have hrow : precedes cmp row first := by
      cases hlisted with
      | last hpage => simp [hmore] at hpage
      | more hpage _ =>
        obtain ⟨rfl, -⟩ : [first] = _ ∧ _ = _ := by simpa [hmore] using hpage
        exact (List.pairwise_cons.mp hpairwise).1 first List.mem_cons_self
    have htie := hcursor row first (Std.OrientedCmp.isLE_antisymm hrow hfirst)
    exact hlisted.no_loop [first] (htie ▸ hmore)

theorem enumerates_one (hordered : ordered.Pairwise (precedes cmp))
    (hsuffix : ∀ c rows, rowsAfter (some c) = .ok rows → rows <:+ ordered)
    (hcursor : ∀ a b, cmp a b = .eq → cursor a = cursor b) {listed : List α}
    (h : Enumerates (page rowsAfter cursor 1) after listed) :
    ∀ {rows}, rowsAfter after = .ok rows → rows <:+ ordered → listed.Pairwise (precedes cmp) →
      listed.length ≤ rows.length ∧ (listed.length = rows.length →
        ∀ done row rest, rows = done ++ row :: rest → rest ≠ [] →
          rowsAfter (some (cursor row)) = .ok rest) := by
  induction h with
  | last hpage =>
    intro rows hafter _ _
    rcases page_one cursor hafter with ⟨hlength, hlast⟩ | ⟨row, rest, -, -, hmore⟩
    · obtain rfl : rows = _ := by simpa [hlast] using hpage
      refine ⟨le_rfl, fun _ done row rest hrows hrest => ?_⟩
      have hpos : 0 < rest.length := List.length_pos_iff.mpr hrest
      rw [hrows, List.length_append, List.length_cons] at hlength
      omega
    · simp [hmore] at hpage
  | @more after found c listed hpage hlisted ih =>
    intro rows hafter hrows hpairwise
    rcases page_one cursor hafter with ⟨-, hlast⟩ | ⟨row, rest, rfl, hrest, hmore⟩
    · simp [hlast] at hpage
    obtain ⟨rfl, rfl⟩ : [row] = found ∧ cursor row = c := by simpa [hmore] using hpage
    obtain ⟨left, hleft⟩ : ∃ left, rowsAfter (some (cursor row)) = .ok left := by
      cases hleft : rowsAfter (some (cursor row)) with
      | ok left => exact ⟨left, rfl⟩
      | error e =>
        have herror : page rowsAfter cursor 1 (some (cursor row)) = .error e := by
          rw [page, hleft]
          rfl
        cases hlisted <;> simp_all
    have hleftSuffix := hsuffix _ _ hleft
    have hlistedSorted := (List.pairwise_cons.mp hpairwise).2
    obtain ⟨hle, hnext⟩ := ih hleft hleftSuffix hlistedSorted
    rcases List.suffix_or_suffix_of_suffix hleftSuffix hrows with hshorter | hlonger
    · rcases List.suffix_cons_iff.mp hshorter with heq | hrestSuffix
      · exact absurd (heq ▸ List.suffix_refl _)
          (not_longer hordered hcursor hrest hleft hleftSuffix hlisted hpairwise)
      · have hleftLength := hrestSuffix.length_le
        refine ⟨by simpa using hle.trans hleftLength,
          fun heq done other behind hsplit hbehind => ?_⟩
        have hlengths : left.length = rest.length := by
          simp only [List.cons_append, List.nil_append, List.length_cons] at heq
          omega
        obtain rfl := hrestSuffix.eq_of_length hlengths
        cases done with
        | nil =>
          obtain ⟨rfl, rfl⟩ := List.cons.inj hsplit
          exact hleft
        | cons first done =>
          obtain ⟨rfl, rfl⟩ := List.cons.inj hsplit
          refine hnext ?_ done other behind rfl hbehind
          simpa using heq
    · exact absurd hlonger
        (not_longer hordered hcursor hrest hleft hleftSuffix hlisted hpairwise)

theorem resumes_of_enumerates (hordered : ordered.Pairwise (precedes cmp))
    (hstart : rowsAfter none = .ok ordered)
    (hsuffix : ∀ c rows, rowsAfter (some c) = .ok rows → rows <:+ ordered)
    (hcursor : ∀ a b, cmp a b = .eq → cursor a = cursor b) {listed : List α}
    (h : Enumerates (page rowsAfter cursor 1) none listed)
    (hpairwise : listed.Pairwise (precedes cmp)) (hlength : listed.length = ordered.length) :
    Resumes rowsAfter cursor ordered where
  start := hstart
  next := (enumerates_one hordered hsuffix hcursor h hstart (List.suffix_refl _) hpairwise).2
    hlength

end

end MediaSync.Keyset
