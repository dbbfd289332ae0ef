import Mathlib.Algebra.Order.Floor.Ring
import Mathlib.Algebra.Order.Field.Basic
import Mathlib.Tactic.Linarith

/-!
# Rounding half to even

The integer nearest to a number, and the even one where two are equally near.
There is one such integer, and it grows with the number: at a tie this is so
because the even integer is the same from both sides (`NearestEven.mono`).
-/

variable {R : Type} [Field R] [LinearOrder R] [IsStrictOrderedRing R]

/-- **The integer is nearest to the number**, and even if another one is as
near. -/
structure NearestEven (x : R) (k : ℤ) : Prop where
  le : 2 * (k : R) ≤ 2 * x + 1
  ge : 2 * x - 1 ≤ 2 * (k : R)
  even : 2 * (k : R) = 2 * x + 1 ∨ 2 * (k : R) = 2 * x - 1 → Even k

namespace NearestEven

variable {x y : R} {k l : ℤ}

/-- **Rounding is monotone.** -/
theorem mono (hk : NearestEven x k) (hl : NearestEven y l) (h : x ≤ y) : k ≤ l := by
  by_contra hlt
  have hsucc : l + 1 ≤ k := not_le.mp hlt
  have hcast : (l : R) + 1 ≤ k := by exact_mod_cast hsucc
  have hle := hk.le
  have hge := hl.ge
  -- both are the same tie, and rounded to neighbours
  have heven := hk.even (Or.inl (by linarith))
  have hnext : k = l + 1 := by
    have : (k : R) = l + 1 := by linarith
    exact_mod_cast this
  rw [hnext, Int.even_add_one] at heven
  exact heven (hl.even (Or.inr (by linarith)))

theorem unique (hk : NearestEven x k) (hl : NearestEven x l) : k = l :=
  le_antisymm (hk.mono hl le_rfl) (hl.mono hk le_rfl)

/-- An integer is the nearest one. -/
theorem intCast (k : ℤ) : NearestEven (k : R) k :=
  ⟨by linarith, by linarith, fun h => by rcases h with h | h <;> linarith⟩

/-- Numbers more than one apart are told apart. -/
theorem lt (hk : NearestEven x k) (hl : NearestEven y l) (h : x + 1 < y) : k < l := by
  have hle := hk.le
  have hge := hl.ge
  have hcast : (k : R) < l := by linarith
  exact_mod_cast hcast

/-- What is more than one half does not vanish. -/
theorem pos (hk : NearestEven x k) (h : 1 < 2 * x) : 0 < k := by
  have hge := hk.ge
  have hcast : (0 : R) < k := by linarith
  exact_mod_cast hcast

end NearestEven
