import Mathlib.Algebra.Order.Group.Defs
import Mathlib.Algebra.Order.Group.Unbundled.Basic
import Mathlib.Data.List.TakeWhile
import Mathlib.Algebra.Order.Ring.Int

/-! A limiter keeps the times it admitted in a queue, oldest first, and drops the ones that have
left the window. `Tracks` ties the queue to the whole history, newest first; `Spread` says of a
history that no window holds more than `k` of its times. -/
namespace MediaSync.SlidingWindow

variable {α : Type*} [LinearOrder α] {W now last cutoff t : α} {k : ℤ} {history kept : List α}

/-- The queue without the front entries that are not past `cutoff`. -/
def discard (cutoff : α) (kept : List α) : List α := kept.dropWhile (· ≤ cutoff)

theorem discard_length_le : (discard cutoff kept).length ≤ kept.length :=
  (List.dropWhile_suffix _).length_le

theorem mem_of_discard (ht : t ∈ discard cutoff kept) : t ∈ kept :=
  (List.dropWhile_suffix _).subset ht

theorem discard_length_lt {x : α} (h : kept.head? = some x) (hx : x ≤ cutoff) :
    (discard cutoff kept).length < kept.length := by
  obtain ⟨rest, rfl⟩ := List.head?_eq_some_iff.mp h
  simpa [discard, hx, Nat.lt_succ_iff] using (List.dropWhile_suffix (l := rest) _).length_le

theorem discard_head {x : α} (h : (discard cutoff kept).head? = some x) : cutoff < x := by
  have := List.head?_dropWhile_not (fun x => decide (x ≤ cutoff)) kept
  rw [show kept.dropWhile _ = discard cutoff kept from rfl, h] at this
  simpa using this

variable [AddCommGroup α]

/-- What the queue no longer holds has left the window of length `W` that ends at `last`. -/
def Tracks (W last : α) (history kept : List α) : Prop :=
  ∃ old, history = kept.reverse ++ old ∧ ∀ t ∈ old, t ≤ last - W

def Spread (k : ℤ) (W : α) : List α → Prop
  | [] => True
  | t :: ts => ((t :: ts).countP (fun x => t - W < x) : ℤ) ≤ k ∧ Spread k W ts

theorem Tracks.discard (h : Tracks W now history kept) :
    Tracks W now history (discard (now - W) kept) := by
  obtain ⟨old, rfl, hold⟩ := h
  refine ⟨(kept.takeWhile (· ≤ now - W)).reverse ++ old, ?_, fun t ht => ?_⟩
  · rw [← List.append_assoc, ← List.reverse_append, SlidingWindow.discard,
      List.takeWhile_append_dropWhile]
  · rcases List.mem_append.mp ht with ht | ht
    · simpa using List.mem_takeWhile_imp (List.mem_reverse.mp ht)
    · exact hold t ht

theorem Tracks.record (h : Tracks W now history kept) :
    Tracks W now (now :: history) (kept ++ [now]) := by
  obtain ⟨old, rfl, hold⟩ := h
  exact ⟨old, by simp, hold⟩

/-- A time still inside the window is still in the queue. -/
theorem Tracks.mem (h : Tracks W last history kept) (ht : t ∈ history) (hin : last - W < t) :
    t ∈ kept := by
  obtain ⟨old, rfl, hold⟩ := h
  rcases List.mem_append.mp ht with ht | ht
  · exact List.mem_reverse.mp ht
  · exact absurd hin (hold t ht).not_gt

theorem Tracks.all_left (h : ∀ t ∈ history, t ≤ last - W) : Tracks W last history [] :=
  ⟨history, rfl, h⟩

/-- A limiter that admits `now` only while fewer than `k` times are kept spreads its history. -/
theorem Spread.record (h : Spread k W history) (htr : Tracks W now history kept)
    (hlt : (kept.length : ℤ) < k) : Spread k W (now :: history) := by
  refine ⟨?_, h⟩
  obtain ⟨old, rfl, hold⟩ := htr
  have hnone : old.countP (fun x => now - W < x) = 0 :=
    List.countP_eq_zero.mpr fun t ht => by simpa using hold t ht
  have hle := List.countP_le_length (p := fun x => decide (now - W < x)) (l := now :: kept.reverse)
  simp only [← List.cons_append, List.countP_append, hnone, List.length_cons,
    List.length_reverse] at hle ⊢
  omega

/-- Any set of times closer together than `W` holds at most `k` of the history. -/
theorem Spread.window (h : Spread k W history) (hk : 0 ≤ k) {p : α → Bool}
    (hp : ∀ x y, p x → p y → x - W < y) : (history.countP p : ℤ) ≤ k := by
  induction history with
  | nil => simpa using hk
  | cons t ts ih =>
    by_cases ht : p t
    · refine le_trans ?_ h.1
      exact_mod_cast List.countP_mono_left fun x _ hx => decide_eq_true (hp t x ht hx)
    · simpa [List.countP_cons, ht] using ih h.2

variable [IsOrderedAddMonoid α]

theorem Tracks.mono (h : Tracks W last history kept) (hle : last ≤ now) :
    Tracks W now history kept := by
  obtain ⟨old, rfl, hold⟩ := h
  exact ⟨old, rfl, fun t ht => (hold t ht).trans (sub_le_sub_right hle W)⟩

/-- Half-open windows are such sets. -/
theorem Spread.half_open (h : Spread k W history) (hk : 0 ≤ k) (a : α) :
    (history.countP (fun t => a ≤ t ∧ t < a + W) : ℤ) ≤ k := by
  refine h.window hk fun x y hx hy => ?_
  simp only [decide_eq_true_eq] at hx hy
  exact (sub_lt_iff_lt_add.mpr hx.2).trans_le hy.1

end MediaSync.SlidingWindow
