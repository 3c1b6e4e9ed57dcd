import Mathlib.Data.List.Perm.Subperm

/-! The loop that takes a node from a list of pending ones and adds those that it requires and that
have not been reached yet. -/
namespace MediaSync.Worklist

variable {α : Type} [DecidableEq α]

def reach (required pending reached : List α) : List α × List α :=
  required.foldl (fun (state : List α × List α) node =>
    if node ∈ state.2 then state else (node :: state.1, node :: state.2)) (pending, reached)

def close (requires : α → List α) : Nat → List α → List α → Option (List α)
  | _, [], reached => some reached
  | 0, _ :: _, _ => none
  | turns + 1, node :: pending, reached =>
    let next := reach (requires node) pending reached
    close requires turns next.1 next.2

def Closed (requires : α → List α) (members : α → Prop) : Prop :=
  ∀ node, members node → ∀ required ∈ requires node, members required

section
variable {requires : α → List α}

structure Turn (required pending reached : List α) (next : List α × List α) : Prop where
  mem_reached : ∀ node, node ∈ next.2 ↔ node ∈ reached ∨ node ∈ required
  pending_old : ∀ node ∈ pending, node ∈ next.1
  pending_new : ∀ node ∈ next.2, node ∉ reached → node ∈ next.1
  reached_of_pending : ∀ node ∈ next.1, node ∈ pending ∨ node ∈ next.2
  nodup : reached.Nodup → next.2.Nodup
  length : next.1.length + reached.length = pending.length + next.2.length

theorem reach_turn (required pending reached : List α) :
    Turn required pending reached (reach required pending reached) := by
  induction required generalizing pending reached with
  | nil =>
    exact ⟨fun node => by simp [reach], fun _ h => h, fun _ h hnot => absurd h hnot,
      fun _ h => .inl h, id, Nat.add_comm _ _ ▸ rfl⟩
  | cons first rest ih =>
    by_cases hmem : first ∈ reached
    · have hstep : reach (first :: rest) pending reached = reach rest pending reached := by
        rw [reach, List.foldl_cons, if_pos hmem]
        rfl
      have hrest := ih pending reached
      rw [hstep]
      refine ⟨fun node => ?_, hrest.pending_old, hrest.pending_new, hrest.reached_of_pending,
        hrest.nodup, hrest.length⟩
      rw [hrest.mem_reached, List.mem_cons]
      constructor
      · exact fun h => h.imp id .inr
      · rintro (hold | rfl | hnew)
        · exact .inl hold
        · exact .inl hmem
        · exact .inr hnew
    · have hstep : reach (first :: rest) pending reached =
          reach rest (first :: pending) (first :: reached) := by
        rw [reach, List.foldl_cons, if_neg hmem]
        rfl
      have hrest := ih (first :: pending) (first :: reached)
      rw [hstep]
      refine ⟨fun node => ?_, fun node hnode =>
        hrest.pending_old node (List.mem_cons_of_mem _ hnode),
        fun node hnode hnew => ?_, fun node hnode => ?_,
        fun hnodup => hrest.nodup (List.nodup_cons.mpr ⟨hmem, hnodup⟩), ?_⟩
      · rw [hrest.mem_reached, List.mem_cons, List.mem_cons]
        tauto
      · by_cases heq : node = first
        · exact hrest.pending_old node (heq ▸ List.mem_cons_self)
        · exact hrest.pending_new node hnode fun h => (List.mem_cons.mp h).elim heq hnew
      · rcases hrest.reached_of_pending node hnode with hpending | hreached
        · rcases List.mem_cons.mp hpending with rfl | hold
          · exact .inr ((hrest.mem_reached node).mpr (.inl List.mem_cons_self))
          · exact .inl hold
        · exact .inr hreached
      · have hlength := hrest.length
        rw [List.length_cons, List.length_cons] at hlength
        omega

theorem close_spec {nodes : List α}
    (hnodes : ∀ node, ∀ required ∈ requires node, required ∈ nodes) :
    ∀ (turns : Nat) (pending reached : List α), reached.Nodup → (∀ node ∈ reached, node ∈ nodes) →
      (∀ node ∈ pending, node ∈ reached) →
      (∀ node ∈ reached, node ∉ pending → ∀ required ∈ requires node, required ∈ reached) →
      pending.length + nodes.length ≤ turns + reached.length →
      ∃ result, close requires turns pending reached = some result ∧ result.Nodup ∧
        (∀ node ∈ result, node ∈ nodes) ∧ (∀ node ∈ reached, node ∈ result) ∧
        Closed requires (· ∈ result) ∧
        ∀ members : α → Prop, (∀ node ∈ reached, members node) → Closed requires members →
          ∀ node ∈ result, members node := by
  intro turns
  induction turns with
  | zero =>
    intro pending reached hnodup hknown hpending hdone hturns
    have hle := (hnodup.subperm hknown).length_le
    obtain rfl : pending = [] := List.eq_nil_of_length_eq_zero (by omega)
    exact ⟨reached, rfl, hnodup, hknown, fun _ h => h,
      fun node hnode => hdone node hnode List.not_mem_nil, fun _ h _ => h⟩
  | succ turns ih =>
    intro pending reached hnodup hknown hpending hdone hturns
    cases pending with
    | nil =>
      exact ⟨reached, rfl, hnodup, hknown, fun _ h => h,
        fun node hnode => hdone node hnode List.not_mem_nil, fun _ h _ => h⟩
    | cons first rest =>
      have hturn := reach_turn (requires first) rest reached
      have hfirst := hpending first List.mem_cons_self
      obtain ⟨result, hresult, hresultNodup, hresultKnown, hkept, hclosed, hleast⟩ :=
        ih (reach (requires first) rest reached).1 (reach (requires first) rest reached).2
          (hturn.nodup hnodup)
          (fun node hnode => ((hturn.mem_reached node).mp hnode).elim (hknown node)
            (hnodes first node))
          (fun node hnode => (hturn.reached_of_pending node hnode).elim
            (fun hold => (hturn.mem_reached node).mpr
              (.inl (hpending node (List.mem_cons_of_mem _ hold)))) id)
          (fun node hnode hover required hrequired => by
            refine (hturn.mem_reached required).mpr ?_
            have hold : node ∈ reached := by
              by_contra hnew
              exact hover (hturn.pending_new node hnode hnew)
            by_cases heq : node = first
            · exact .inr (heq ▸ hrequired)
            · refine .inl (hdone node hold (fun hmem => ?_) required hrequired)
              exact (List.mem_cons.mp hmem).elim heq fun hrest =>
                hover (hturn.pending_old node hrest))
          (by
            have hlength := hturn.length
            rw [List.length_cons] at hturns
            omega)
      refine ⟨result, hresult, hresultNodup, hresultKnown,
        fun node hnode => hkept node ((hturn.mem_reached node).mpr (.inl hnode)), hclosed,
        fun members hstart hmembers => hleast members (fun node hnode => ?_) hmembers⟩
      rcases (hturn.mem_reached node).mp hnode with hold | hnew
      · exact hstart node hold
      · exact hmembers first (hstart first hfirst) node hnew

end

end MediaSync.Worklist
