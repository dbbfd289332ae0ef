import Mathlib.Algebra.BigOperators.WithTop
import Mathlib.Algebra.Order.BigOperators.Group.Finset

/-!
# Assignments in which every row may reject

Some cells of a matrix have no score, and each row has a column of its own: it
has a score there and no other row has (`OwnColumns`). A solver that knows
finite scores only is given a floor for the cells without one, below the scores
of the rows in their own columns.

Rows that are at the floor in some assignment may all go to their own columns
(`rejecting`): these were free or taken by rows at the floor, which leave as
well. All of them gain at once, whichever chain of rows sat in each other's
columns, so no assignment of maximum total has a row at the floor
(`IsOptimum.ne_bot`), and it is one of maximum total among those that keep to
the scores (`IsOptimum.of_floor`).
-/

variable {ι κ R : Type} {score : ι → κ → WithBot R} {own : ι → κ} {f g : ι → κ} {floor : R}

/-- **Each row has a column of its own**, where only it has a score. -/
structure OwnColumns (score : ι → κ → WithBot R) (own : ι → κ) : Prop where
  injective : Function.Injective own
  ne_bot : ∀ i, score i (own i) ≠ ⊥
  eq : ∀ {i l}, score l (own i) ≠ ⊥ → l = i

/-- The rows without a score go to their own columns. -/
def rejecting [DecidableEq (WithBot R)] (score : ι → κ → WithBot R) (own f : ι → κ) : ι → κ :=
  fun i => if score i (f i) = ⊥ then own i else f i

section Rejecting

variable [DecidableEq (WithBot R)]

theorem rejecting_ne_bot (hown : OwnColumns score own) (f : ι → κ) (i : ι) :
    score i (rejecting score own f i) ≠ ⊥ := by
  unfold rejecting
  split_ifs with hbot
  · exact hown.ne_bot i
  · exact hbot

/-- **No two rows meet on the way.** -/
theorem rejecting_injective (hown : OwnColumns score own) (hf : Function.Injective f) :
    Function.Injective (rejecting score own f) := by
  intro i l hil
  -- a row that has a score in another's own column is that row
  by_cases hi : score i (f i) = ⊥
  · have hto : rejecting score own f i = own i := if_pos hi
    refine (hown.eq (l := l) ?_).symm
    rw [← hto, hil]
    exact rejecting_ne_bot hown f l
  · by_cases hl : score l (f l) = ⊥
    · have hto : rejecting score own f l = own l := if_pos hl
      refine hown.eq ?_
      rw [← hto, ← hil]
      exact rejecting_ne_bot hown f i
    · unfold rejecting at hil
      rw [if_neg hi, if_neg hl] at hil
      exact hf hil

variable [LinearOrder R]

/-- Nobody loses. -/
theorem unbotD_le_rejecting (hfloor : ∀ i, ∀ s : R, score i (own i) = s → floor < s)
    (hown : OwnColumns score own) (f : ι → κ) (i : ι) :
    (score i (f i)).unbotD floor ≤ (score i (rejecting score own f i)).unbotD floor
      ∧ (score i (f i) = ⊥ → (score i (f i)).unbotD floor
        < (score i (rejecting score own f i)).unbotD floor) := by
  by_cases hbot : score i (f i) = ⊥
  · obtain ⟨s, hs⟩ := WithBot.ne_bot_iff_exists.mp (hown.ne_bot i)
    have hto : rejecting score own f i = own i := if_pos hbot
    have hlt : floor < s := hfloor i s hs.symm
    rw [hto, ← hs, hbot, WithBot.unbotD_bot, WithBot.unbotD_coe]
    exact ⟨hlt.le, fun _ => hlt⟩
  · have hto : rejecting score own f i = f i := if_neg hbot
    rw [hto]
    exact ⟨le_rfl, fun h => absurd h hbot⟩

end Rejecting

/-! ## Maximum totals -/

variable [Fintype ι]

/-- **An assignment of maximum total**, no two rows to the same column. -/
structure IsOptimum {R : Type} [AddCommMonoid R] [LE R] (score : ι → κ → R) (f : ι → κ) :
    Prop where
  injective : Function.Injective f
  sum_le : ∀ g : ι → κ, Function.Injective g → ∑ i, score i (g i) ≤ ∑ i, score i (f i)

/-- A total of scores does not know the floor. -/
theorem sum_eq_coe_sum_unbotD [AddCommMonoid R] (floor : R) (hg : ∀ i, score i (g i) ≠ ⊥) :
    ∑ i, score i (g i) = ((∑ i, (score i (g i)).unbotD floor : R) : WithBot R) := by
  rw [WithBot.coe_sum]
  refine Finset.sum_congr rfl (fun i _ => ?_)
  obtain ⟨s, hs⟩ := WithBot.ne_bot_iff_exists.mp (hg i)
  rw [← hs, WithBot.unbotD_coe]

variable [AddCommGroup R] [LinearOrder R] [IsOrderedAddMonoid R]

/-- **No assignment of maximum total has a row at the floor.** -/
theorem IsOptimum.ne_bot (h : IsOptimum (fun i c => (score i c).unbotD floor) f)
    (hown : OwnColumns score own) (hfloor : ∀ i, ∀ s : R, score i (own i) = s → floor < s)
    (i : ι) : score i (f i) ≠ ⊥ := by
  intro hbot
  have hgain := unbotD_le_rejecting hfloor hown f
  have hlt := Finset.sum_lt_sum (fun i _ => (hgain i).1)
    ⟨i, Finset.mem_univ i, (hgain i).2 hbot⟩
  exact absurd (h.sum_le _ (rejecting_injective hown h.injective)) (not_le.mpr hlt)

/-- **It is of maximum total with the scores there are**: with a row that has
none, the total is minus infinity. -/
theorem IsOptimum.of_floor (h : IsOptimum (fun i c => (score i c).unbotD floor) f)
    (hown : OwnColumns score own) (hfloor : ∀ i, ∀ s : R, score i (own i) = s → floor < s) :
    IsOptimum score f where
  injective := h.injective
  sum_le := by
    intro g hg
    by_cases hbot : ∃ i, score i (g i) = ⊥
    · obtain ⟨i, hi⟩ := hbot
      have hsum : ∑ i, score i (g i) = ⊥ :=
        WithBot.sum_eq_bot_iff.mpr ⟨i, Finset.mem_univ i, hi⟩
      rw [hsum]
      exact bot_le
    · rw [sum_eq_coe_sum_unbotD floor (fun i hi => hbot ⟨i, hi⟩),
        sum_eq_coe_sum_unbotD floor (h.ne_bot hown hfloor), WithBot.coe_le_coe]
      exact h.sum_le g hg
