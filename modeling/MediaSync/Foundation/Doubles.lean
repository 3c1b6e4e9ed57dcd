import Mathlib.Algebra.Order.Floor.Ring
import Mathlib.Data.Int.Log
import Mathlib.Tactic.GCongr
import Mathlib.Tactic.Linarith
import Mathlib.Tactic.Positivity
import Mathlib.Tactic.Ring

/-! Binary floating-point numbers of 53 bits, as far as results stay within the normal range: the
nearest one to an exact value, the even one of two, and how far it is off. -/
namespace MediaSync.Doubles

variable {α : Type*} [Field α] [LinearOrder α] [IsStrictOrderedRing α] [FloorRing α]

/-- The nearest integer, of two the even one. -/
def nearestEven (x : α) : ℤ :=
  if x - ⌊x⌋ < 1 / 2 ∨ x - ⌊x⌋ = 1 / 2 ∧ ⌊x⌋ % 2 = 0 then ⌊x⌋ else ⌊x⌋ + 1

/-- The distance of the doubles around `x`. -/
def spacing (x : α) : α := 2 ^ (Int.log 2 |x| - 52)

def nearestDouble (x : α) : α :=
  if x = 0 then 0 else nearestEven (x / spacing x) * spacing x

theorem abs_nearestEven_sub_le (x : α) : |(nearestEven x : α) - x| ≤ 1 / 2 := by
  have hlow := Int.floor_le x
  have hhigh := Int.lt_floor_add_one x
  unfold nearestEven
  split_ifs with h
  · have hhalf : x - ⌊x⌋ ≤ 1 / 2 := h.elim le_of_lt fun h => h.1.le
    rw [abs_le]
    constructor <;> linarith
  · have hhalf : 1 / 2 ≤ x - ⌊x⌋ := not_lt.mp fun hlt => h (.inl hlt)
    push_cast
    rw [abs_le]
    constructor <;> linarith

theorem spacing_pos (x : α) : 0 < spacing x := zpow_pos two_pos _

/-- There are `2 ^ 52` steps below a value. -/
theorem spacing_le {x : α} (hx : x ≠ 0) : spacing x * 2 ^ 52 ≤ |x| := by
  have hscale : spacing x * 2 ^ 52 = 2 ^ Int.log 2 |x| := by
    rw [spacing, ← zpow_natCast, ← zpow_add₀ two_ne_zero]
    congr 1
    omega
  rw [hscale]
  exact_mod_cast Int.zpow_log_le_self one_lt_two (abs_pos.mpr hx)

theorem abs_nearestDouble_sub_le (x : α) : |nearestDouble x - x| ≤ |x| / 2 ^ 53 := by
  by_cases hx : x = 0
  · simp [nearestDouble, hx]
  · have hpos := spacing_pos x
    have hle := spacing_le hx
    have hsplit : nearestDouble x - x =
        (nearestEven (x / spacing x) - x / spacing x) * spacing x := by
      rw [nearestDouble, if_neg hx, sub_mul, div_mul_cancel₀ _ hpos.ne']
    rw [hsplit, abs_mul, abs_of_pos hpos, le_div_iff₀ (by positivity)]
    have hhalf := abs_nearestEven_sub_le (x / spacing x)
    calc |(nearestEven (x / spacing x) : α) - x / spacing x| * spacing x * 2 ^ 53
        ≤ 1 / 2 * spacing x * 2 ^ 53 := by gcongr
      _ = spacing x * 2 ^ 52 := by ring
      _ ≤ |x| := hle

/-- A rounded value does not fall short by more than its share. -/
theorem le_nearestDouble {x : α} (hx : 0 ≤ x) : x - x / 2 ^ 53 ≤ nearestDouble x := by
  have h := (abs_le.mp (abs_nearestDouble_sub_le x)).1
  rw [abs_of_nonneg hx] at h
  linarith

end MediaSync.Doubles
