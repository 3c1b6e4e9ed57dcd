/-! The greatest of a list under a linear order, as a loop keeps it, and what a comparison of two
such marks says about the lists. -/
namespace MediaSync

section
variable {α : Type} [LT α] [DecidableLT α]

def raiseMark (mark : Option α) (x : α) : Option α :=
  match mark with
  | none => some x
  | some m => if m < x then some x else some m

def highWater (xs : List α) : Option α := xs.foldl raiseMark none

theorem raiseMark_isSome (mark : Option α) (x : α) : (raiseMark mark x).isSome = true := by
  unfold raiseMark
  split
  · rfl
  · split
    · rfl
    · rfl

variable [LE α] [Std.IsLinearOrder α] [Std.LawfulOrderLT α] {xs ys : List α} {m x : α}

theorem foldl_raiseMark (xs : List α) (mark : Option α) :
    (mark = none ∧ xs = [] ∧ xs.foldl raiseMark mark = none) ∨
      ∃ m, xs.foldl raiseMark mark = some m ∧ (mark = some m ∨ m ∈ xs) ∧
        (∀ k, mark = some k → k ≤ m) ∧ ∀ x ∈ xs, x ≤ m := by
  induction xs generalizing mark with
  | nil =>
    cases mark with
    | none => exact .inl ⟨rfl, rfl, rfl⟩
    | some k =>
      refine .inr ⟨k, rfl, .inl rfl, fun k' hk' => ?_, nofun⟩
      obtain rfl := Option.some.inj hk'
      exact Std.le_refl k
  | cons x xs ih =>
    rw [List.foldl_cons]
    rcases ih (raiseMark mark x) with ⟨hnone, -, -⟩ | ⟨m, hm, hfrom, hmark, hrest⟩
    · have hsome := raiseMark_isSome mark x
      rw [hnone] at hsome
      cases hsome
    · refine .inr ⟨m, hm, ?_⟩
      cases mark with
      | none =>
        have hx : x ≤ m := hmark x rfl
        refine ⟨.inr ?_, nofun, List.forall_mem_cons.mpr ⟨hx, hrest⟩⟩
        rcases hfrom with hfrom | hfrom
        · obtain rfl := Option.some.inj hfrom
          exact List.mem_cons_self
        · exact List.mem_cons_of_mem _ hfrom
      | some k =>
        by_cases hlt : k < x
        · have hraised : raiseMark (some k) x = some x := if_pos hlt
          rw [hraised] at hfrom hmark
          have hx : x ≤ m := hmark x rfl
          refine ⟨.inr ?_, fun k' hk' => ?_, List.forall_mem_cons.mpr ⟨hx, hrest⟩⟩
          · rcases hfrom with hfrom | hfrom
            · obtain rfl := Option.some.inj hfrom
              exact List.mem_cons_self
            · exact List.mem_cons_of_mem _ hfrom
          · obtain rfl := Option.some.inj hk'
            exact Std.le_trans (Std.le_of_lt hlt) hx
        · have hkept : raiseMark (some k) x = some k := if_neg hlt
          rw [hkept] at hfrom hmark
          have hk : k ≤ m := hmark k rfl
          have hx : x ≤ m := Std.le_trans (Std.not_lt.mp hlt) hk
          refine ⟨?_, hmark, List.forall_mem_cons.mpr ⟨hx, hrest⟩⟩
          exact hfrom.imp_right fun hmem => List.mem_cons_of_mem _ hmem

theorem highWater_eq_none : highWater xs = none ↔ xs = [] := by
  refine ⟨fun h => ?_, fun h => h ▸ rfl⟩
  rcases foldl_raiseMark xs none with ⟨-, hempty, -⟩ | ⟨m, hm, -⟩
  · exact hempty
  · rw [highWater, hm] at h
    cases h

theorem highWater_eq_some : highWater xs = some m ↔ m ∈ xs ∧ ∀ x ∈ xs, x ≤ m := by
  rcases foldl_raiseMark xs none with ⟨-, hempty, hnone⟩ | ⟨k, hk, hfrom, -, hle⟩
  · subst hempty
    exact ⟨nofun, fun h => absurd h.1 List.not_mem_nil⟩
  · have hmem : k ∈ xs := hfrom.resolve_left nofun
    rw [highWater, hk]
    refine ⟨fun h => ?_, fun h => congrArg some ?_⟩
    · obtain rfl := Option.some.inj h
      exact ⟨hmem, hle⟩
    · exact Std.le_antisymm (h.2 k hmem) (hle m h.1)

theorem exists_highWater (h : xs ≠ []) : ∃ m, highWater xs = some m := by
  cases hmark : highWater xs with
  | none => exact absurd (highWater_eq_none.mp hmark) h
  | some m => exact ⟨m, rfl⟩

theorem highWater_congr (hxs : ∀ x ∈ xs, ∃ y ∈ ys, x ≤ y) (hys : ∀ y ∈ ys, ∃ x ∈ xs, y ≤ x) :
    highWater xs = highWater ys := by
  cases hmark : highWater ys with
  | none =>
    have hempty := highWater_eq_none.mp hmark
    refine highWater_eq_none.mpr (List.eq_nil_iff_forall_not_mem.mpr fun x hx => ?_)
    obtain ⟨y, hy, -⟩ := hxs x hx
    rw [hempty] at hy
    exact absurd hy List.not_mem_nil
  | some m =>
    obtain ⟨hm, hle⟩ := highWater_eq_some.mp hmark
    obtain ⟨x, hx, hmx⟩ := hys m hm
    obtain ⟨y, hy, hxy⟩ := hxs x hx
    obtain rfl : x = m := Std.le_antisymm (Std.le_trans hxy (hle y hy)) hmx
    refine highWater_eq_some.mpr ⟨hx, fun x' hx' => ?_⟩
    obtain ⟨y', hy', hle'⟩ := hxs x' hx'
    exact Std.le_trans hle' (hle y' hy')

end

theorem except_isOk {ε α : Type} {x : Except ε α} (h : x.isOk = true) : ∃ a, x = .ok a := by
  cases x with
  | error code => cases h
  | ok a => exact ⟨a, rfl⟩

theorem foldlM_covers {ε α β γ : Type} {step : β → α → Except ε β} {xs : List α} {I : β → Prop}
    {asks : α → γ → Prop} {done : γ → β → Prop}
    (hstep : ∀ b x b', x ∈ xs → I b → step b x = .ok b' →
      I b' ∧ (∀ y, asks x y → done y b') ∧ ∀ y, done y b → done y b')
    {b b' : β} (hb : I b) (h : xs.foldlM step b = .ok b') :
    I b' ∧ (∀ x ∈ xs, ∀ y, asks x y → done y b') ∧ ∀ y, done y b → done y b' := by
  induction xs generalizing b with
  | nil =>
    obtain rfl : b = b' := by simpa [pure, Except.pure] using h
    exact ⟨hb, nofun, fun _ hy => hy⟩
  | cons x xs ih =>
    rw [List.foldlM_cons] at h
    cases hx : step b x with
    | error e =>
      rw [hx] at h
      cases h
    | ok m =>
      rw [hx] at h
      obtain ⟨hm, hasked, hkept⟩ := hstep b x m List.mem_cons_self hb hx
      obtain ⟨hend, hrest, hlater⟩ :=
        ih (fun c y c' hy => hstep c y c' (List.mem_cons_of_mem _ hy)) hm h
      refine ⟨hend, List.forall_mem_cons.mpr ⟨fun y hy => hlater y (hasked y hy), hrest⟩,
        fun y hy => hlater y (hkept y hy)⟩

end MediaSync
