import Mathlib.Data.List.Sort

/-! `sorted(items, key=...)` with keys that are tuples of texts. -/
namespace MediaSync.SortKeys

/-- Tuples of texts, compared from the left. -/
def keyLE : List String → List String → Prop
  | [], _ => True
  | _ :: _, [] => False
  | a :: key, b :: other => a < b ∨ a = b ∧ keyLE key other

instance keyLE_decidable : ∀ key other, Decidable (keyLE key other)
  | [], _ => isTrue trivial
  | _ :: _, [] => isFalse id
  | a :: key, b :: other =>
    have := keyLE_decidable key other
    inferInstanceAs (Decidable (a < b ∨ a = b ∧ keyLE key other))

theorem text_trichotomy (a b : String) : a < b ∨ a = b ∨ b < a := by
  by_cases hlt : a < b
  · exact .inl hlt
  · by_cases hgt : b < a
    · exact .inr (.inr hgt)
    · exact .inr (.inl (String.le_antisymm (String.not_lt.mp hgt) (String.not_lt.mp hlt)))

theorem keyLE_total (key other : List String) : keyLE key other ∨ keyLE other key := by
  induction key generalizing other with
  | nil => exact .inl trivial
  | cons a key ih =>
    cases other with
    | nil => exact .inr trivial
    | cons b other =>
      rcases text_trichotomy a b with hlt | heq | hgt
      · exact .inl (.inl hlt)
      · exact (ih other).imp (fun h => .inr ⟨heq, h⟩) fun h => .inr ⟨heq.symm, h⟩
      · exact .inr (.inl hgt)

theorem keyLE_trans {key other third : List String} (h : keyLE key other)
    (h' : keyLE other third) : keyLE key third := by
  induction key generalizing other third with
  | nil => trivial
  | cons a key ih =>
    cases other with
    | nil => exact h.elim
    | cons b other =>
      cases third with
      | nil => exact h'.elim
      | cons c third =>
        rcases h with hab | ⟨rfl, hkey⟩
        · rcases h' with hbc | ⟨rfl, -⟩
          · exact .inl (String.lt_trans hab hbc)
          · exact .inl hab
        · rcases h' with hbc | ⟨rfl, hother⟩
          · exact .inl hbc
          · exact .inr ⟨rfl, ih hkey hother⟩

theorem keyLE_antisymm {key other : List String} (h : keyLE key other) (h' : keyLE other key) :
    key = other := by
  induction key generalizing other with
  | nil =>
    cases other with
    | nil => rfl
    | cons b other => exact h'.elim
  | cons a key ih =>
    cases other with
    | nil => exact h.elim
    | cons b other =>
      rcases h with hab | ⟨rfl, hkey⟩
      · rcases h' with hba | ⟨rfl, -⟩
        · exact absurd hba (String.lt_asymm hab)
        · exact absurd hab (String.lt_irrefl _)
      · rcases h' with haa | ⟨-, hother⟩
        · exact absurd haa (String.lt_irrefl _)
        · rw [ih hkey hother]

section
variable {α : Type} (key : α → List String)

def byKey (a b : α) : Prop := keyLE (key a) (key b)

instance : DecidableRel (byKey key) := fun a b => keyLE_decidable (key a) (key b)

instance : Std.Total (byKey key) := ⟨fun a b => keyLE_total (key a) (key b)⟩

instance : IsTrans α (byKey key) := ⟨fun _ _ _ => keyLE_trans⟩

/-- `sorted(items, key=key)`. -/
def sortByKey (items : List α) : List α := items.insertionSort (byKey key)

def KeysDiffer (items : List α) : Prop := ∀ a ∈ items, ∀ b ∈ items, key a = key b → a = b

variable {key}

theorem perm_sortByKey (items : List α) : (sortByKey key items).Perm items :=
  List.perm_insertionSort _ items

@[simp] theorem mem_sortByKey {items : List α} {a : α} : a ∈ sortByKey key items ↔ a ∈ items :=
  (perm_sortByKey items).mem_iff

theorem sortByKey_eq_of_perm {items items' : List α} (hperm : items.Perm items')
    (hkeys : KeysDiffer key items) : sortByKey key items = sortByKey key items' := by
  refine List.Perm.eq_of_pairwise (fun a b ha hb hab hba => ?_)
    (List.pairwise_insertionSort (byKey key) items)
    (List.pairwise_insertionSort (byKey key) items') ?_
  · exact hkeys a (mem_sortByKey.mp ha) b (hperm.mem_iff.mpr (mem_sortByKey.mp hb))
      (keyLE_antisymm hab hba)
  · exact (perm_sortByKey items).trans (hperm.trans (perm_sortByKey items').symm)

theorem KeysDiffer.of_nodup {items : List α} {β : Type} {component : α → β}
    (hnodup : (items.map component).Nodup)
    (hcomponent : ∀ a b, key a = key b → component a = component b) : KeysDiffer key items :=
  fun _ ha _ hb heq => List.inj_on_of_nodup_map hnodup ha hb (hcomponent _ _ heq)

end

end MediaSync.SortKeys
