import Mathlib.Analysis.Normed.Module.Ray

/-!
# Directions

The direction of a nonzero vector of a real normed space is the unit vector on
its ray. Two vectors have one direction just when they are on one ray
(`direction_eq_iff`), so scaling a vector by a positive number keeps its
direction.

A unit vector `u` with a weight is a vector whose length was forgotten. Adding
another vector `q • e` to it gives the direction it would have had with its
true length only by exception (`direction_add_eq_iff`): the weight is the
length, or `e` is on the line of `u` – and if it points backwards, it must
outweigh neither or both.
-/

variable {V : Type*} [NormedAddCommGroup V] [NormedSpace ℝ V]

/-- **The direction of a vector.** -/
noncomputable def direction (v : V) : V := ‖v‖⁻¹ • v

section Direction

variable {v w : V}

theorem norm_direction (hv : v ≠ 0) : ‖direction v‖ = 1 := by
  unfold direction
  rw [norm_smul, norm_inv, norm_norm, inv_mul_cancel₀ (norm_ne_zero_iff.mpr hv)]

/-- A vector is its length along its direction. -/
@[simp] theorem norm_smul_direction (v : V) : ‖v‖ • direction v = v := by
  by_cases hv : v = 0
  · simp [hv]
  · unfold direction
    rw [smul_smul, mul_inv_cancel₀ (norm_ne_zero_iff.mpr hv), one_smul]

theorem direction_eq_iff (hv : v ≠ 0) (hw : w ≠ 0) :
    direction v = direction w ↔ SameRay ℝ v w :=
  (sameRay_iff_inv_norm_smul_eq_of_ne hv hw).symm

theorem direction_smul_of_pos {a : ℝ} (ha : 0 < a) (v : V) :
    direction (a • v) = direction v := by
  unfold direction
  rw [norm_smul, Real.norm_of_nonneg ha.le, smul_smul, mul_inv, mul_comm a⁻¹, mul_assoc,
    inv_mul_cancel₀ ha.ne', mul_one]

/-- A vector of length one is its direction. -/
theorem direction_of_norm_one (hv : ‖v‖ = 1) : direction v = v := by
  unfold direction
  rw [hv, inv_one, one_smul]

end Direction

section Adding

variable {u e : V} {a w q : ℝ}

/-- Vectors on a line are on one ray just when they point the same way. -/
theorem sameRay_smul_iff_of_pos_mul (u : V) {s t : ℝ} (h : 0 < s * t) :
    SameRay ℝ (s • u) (t • u) := by
  have hs : s ≠ 0 := left_ne_zero_of_mul h.ne'
  have hray : t • u = (t / s) • (s • u) := by
    rw [smul_smul, div_mul_cancel₀ t hs]
  rw [hray]
  refine SameRay.sameRay_pos_smul_right _ ?_
  have hdiv : t / s = s * t / (s * s) := by field_simp
  rw [hdiv]
  exact div_pos h (mul_self_pos.mpr hs)

/-- **When a forgotten length does not matter.** -/
theorem direction_add_eq_iff (hu : ‖u‖ = 1) (he : ‖e‖ = 1) (ha : 0 < a) (haw : a ≤ w)
    (hq : 0 < q) (hne : a • u + q • e ≠ 0) :
    (w • u + q • e ≠ 0 ∧ direction (w • u + q • e) = direction (a • u + q • e))
      ↔ a = w ∨ e = u ∨ (e = -u ∧ ¬ (a < q ∧ q ≤ w)) := by
  have hu0 : u ≠ 0 := by
    rintro rfl
    simp at hu
  constructor
  · rintro ⟨hne', hdir⟩
    obtain ⟨r, hr, hray⟩ :=
      ((direction_eq_iff hne' hne).mp hdir).exists_pos_right hne' hne
    have hline : (w - r * a) • u = ((r - 1) * q) • e := by
      have hsub : (w - r * a) • u - ((r - 1) * q) • e
          = (w • u + q • e) - r • (a • u + q • e) := by module
      rw [← sub_eq_zero, hsub, hray, sub_self]
    by_cases hr1 : r = 1
    · rw [hr1, sub_self, zero_mul, zero_smul, one_mul] at hline
      exact Or.inl (sub_eq_zero.mp ((smul_eq_zero.mp hline).resolve_right hu0)).symm
    · -- the two vectors are on one line, so they are equal or opposite
      have hscale : (r - 1) * q ≠ 0 := mul_ne_zero (sub_ne_zero.mpr hr1) hq.ne'
      obtain ⟨c, hc⟩ : ∃ c : ℝ, e = c • u := by
        refine ⟨((r - 1) * q)⁻¹ * (w - r * a), ?_⟩
        rw [mul_smul, hline, smul_smul, inv_mul_cancel₀ hscale, one_smul]
      have hcone : |c| = 1 := by
        rw [hc, norm_smul, hu, mul_one, Real.norm_eq_abs] at he
        exact he
      rcases (abs_eq zero_le_one).mp hcone with rfl | rfl
      · exact Or.inr (Or.inl (by rw [hc, one_smul]))
      · rw [neg_one_smul] at hc
        refine Or.inr (Or.inr ⟨hc, ?_⟩)
        rintro ⟨haq, hqw⟩
        rw [hc, smul_neg, ← neg_smul] at hline
        have hcoeff : w - r * a = -((r - 1) * q) := smul_left_injective ℝ hu0 hline
        have hneg : r * (a - q) < 0 := mul_neg_of_pos_of_neg hr (sub_neg.mpr haq)
        linarith
  · rintro (rfl | rfl | ⟨rfl, hback⟩)
    · exact ⟨hne, rfl⟩
    · have hw : 0 < w + q := add_pos (ha.trans_le haw) hq
      rw [← add_smul, ← add_smul]
      refine ⟨smul_ne_zero hw.ne' hu0, ?_⟩
      rw [direction_smul_of_pos hw, direction_smul_of_pos (add_pos ha hq)]
    · have hline : ∀ t : ℝ, t • u + q • -u = (t - q) • u := fun t => by
        rw [smul_neg, ← sub_eq_add_neg, ← sub_smul]
      rw [hline] at hne ⊢
      rw [hline]
      have haq : a - q ≠ 0 := left_ne_zero_of_smul hne
      -- both are longer than what is taken off, or both are shorter
      have hsame : 0 < (w - q) * (a - q) := by
        rcases lt_or_gt_of_ne haq with hlt | hgt
        · have hwq : w < q := not_le.mp (fun h => hback ⟨sub_neg.mp hlt, h⟩)
          exact mul_pos_of_neg_of_neg (sub_neg.mpr hwq) hlt
        · exact mul_pos (by linarith) hgt
      have hne' : (w - q) • u ≠ 0 := smul_ne_zero (left_ne_zero_of_mul hsame.ne') hu0
      exact ⟨hne', (direction_eq_iff hne' hne).mpr (sameRay_smul_iff_of_pos_mul u hsame)⟩

end Adding
