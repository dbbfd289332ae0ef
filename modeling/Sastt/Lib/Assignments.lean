import Mathlib.Algebra.BigOperators.Fin
import Mathlib.Algebra.Order.BigOperators.Group.Finset
import Mathlib.Data.Finset.Max
import Mathlib.Data.Fintype.Pi
import Mathlib.Logic.Equiv.Basic

/-!
# Assignments of maximum total

Each of `n` rows is assigned one of `k` columns, no two rows the same, so
that the total of the scores is as large as it can be. A rule that does so is
a parameter of the programs that use one; that there is such a rule is
`exists_assignmentRule`.

What a program can rely on are exchanges: a row cannot gain by moving to a
free column (`score_le_of_free`), and two rows cannot gain by swapping theirs
(`score_swap_le`). A row may well get a column that is not its best: what
stops it is another row, in the best column or further down a chain.
-/

/-- An assignment of a column to each row. -/
abbrev AssignmentRule (R : Type) : Type :=
  ∀ {n k : ℕ}, n ≤ k → (Fin n → Fin k → R) → Fin n → Fin k

/-- **No two rows get the same column.** -/
def OneToOne {R : Type} (rule : AssignmentRule R) : Prop :=
  ∀ {n k : ℕ} (h : n ≤ k) (score : Fin n → Fin k → R), Function.Injective (rule h score)

section

variable {R : Type} [AddCommGroup R] [LinearOrder R] [IsOrderedAddMonoid R]

/-- **No other such assignment has a larger total.** -/
def MaximumTotal (rule : AssignmentRule R) : Prop :=
  ∀ {n k : ℕ} (h : n ≤ k) (score : Fin n → Fin k → R) (f : Fin n → Fin k),
    Function.Injective f → ∑ i, score i (f i) ≤ ∑ i, score i (rule h score i)

omit [IsOrderedAddMonoid R] in
/-- **There is a rule.** -/
theorem exists_assignmentRule : ∃ rule : AssignmentRule R, OneToOne rule ∧ MaximumTotal rule := by
  have hbest : ∀ {n k : ℕ} (_ : n ≤ k) (score : Fin n → Fin k → R),
      ∃ f : Fin n → Fin k, Function.Injective f ∧ ∀ g : Fin n → Fin k, Function.Injective g →
        ∑ i, score i (g i) ≤ ∑ i, score i (f i) := by
    intro n k h score
    have hsome : (Finset.univ.filter (fun f : Fin n → Fin k => Function.Injective f)).Nonempty :=
      ⟨Fin.castLE h, Finset.mem_filter.mpr ⟨Finset.mem_univ _, Fin.castLE_injective h⟩⟩
    obtain ⟨f, hf, hmax⟩ := Finset.exists_max_image _ (fun f => ∑ i, score i (f i)) hsome
    refine ⟨f, (Finset.mem_filter.mp hf).2, fun g hg => hmax g ?_⟩
    exact Finset.mem_filter.mpr ⟨Finset.mem_univ g, hg⟩
  choose rule hinjective hmax using @hbest
  exact ⟨rule, hinjective, hmax⟩

variable {rule : AssignmentRule R} {n k : ℕ}

/-- **A row cannot gain by moving to a free column.** -/
theorem score_le_of_free (hone : OneToOne rule) (hmax : MaximumTotal rule) {h : n ≤ k}
    {score : Fin n → Fin k → R} {i : Fin n} {c : Fin k}
    (hfree : ∀ l, rule h score l ≠ c) : score i c ≤ score i (rule h score i) := by
  classical
  have hmoved : Function.Injective (Function.update (rule h score) i c) := by
    intro a b hab
    by_cases ha : a = i
    · by_cases hb : b = i
      · rw [ha, hb]
      · rw [ha, Function.update_self, Function.update_of_ne hb] at hab
        exact absurd hab.symm (hfree b)
    · by_cases hb : b = i
      · rw [hb, Function.update_self, Function.update_of_ne ha] at hab
        exact absurd hab (hfree a)
      · rw [Function.update_of_ne ha, Function.update_of_ne hb] at hab
        exact hone h score hab
  have htotal := hmax h score _ hmoved
  rw [← Finset.add_sum_erase _ _ (Finset.mem_univ i),
    ← Finset.add_sum_erase _ _ (Finset.mem_univ i), Function.update_self] at htotal
  have hrest : ∑ l ∈ Finset.univ.erase i, score l (Function.update (rule h score) i c l)
      = ∑ l ∈ Finset.univ.erase i, score l (rule h score l) :=
    Finset.sum_congr rfl (fun l hl => by rw [Function.update_of_ne (Finset.ne_of_mem_erase hl)])
  rw [hrest] at htotal
  exact le_of_add_le_add_right htotal

/-- **Two rows cannot gain by swapping their columns.** -/
theorem score_swap_le (hone : OneToOne rule) (hmax : MaximumTotal rule) (h : n ≤ k)
    (score : Fin n → Fin k → R) {i l : Fin n} (hne : i ≠ l) :
    score i (rule h score l) + score l (rule h score i)
      ≤ score i (rule h score i) + score l (rule h score l) := by
  classical
  have htotal := hmax h score (rule h score ∘ Equiv.swap i l)
    ((hone h score).comp (Equiv.swap i l).injective)
  have hl : l ∈ Finset.univ.erase i := Finset.mem_erase.mpr ⟨hne.symm, Finset.mem_univ l⟩
  rw [← Finset.add_sum_erase _ _ (Finset.mem_univ i),
    ← Finset.add_sum_erase _ _ (Finset.mem_univ i), ← Finset.add_sum_erase _ _ hl,
    ← Finset.add_sum_erase _ _ hl] at htotal
  have hrest : ∑ a ∈ (Finset.univ.erase i).erase l, score a ((rule h score ∘ Equiv.swap i l) a)
      = ∑ a ∈ (Finset.univ.erase i).erase l, score a (rule h score a) := by
    refine Finset.sum_congr rfl (fun a ha => ?_)
    have hal := Finset.ne_of_mem_erase ha
    have hai := Finset.ne_of_mem_erase (Finset.mem_of_mem_erase ha)
    rw [Function.comp_apply, Equiv.swap_apply_of_ne_of_ne hai hal]
  rw [hrest, ← add_assoc, ← add_assoc] at htotal
  have hpair := le_of_add_le_add_right htotal
  rwa [Function.comp_apply, Function.comp_apply, Equiv.swap_apply_left,
    Equiv.swap_apply_right] at hpair

/-! ## The only optimum -/

/-- **One assignment has a larger total than every other.** -/
def UniqueOptimum (score : Fin n → Fin k → R) : Prop :=
  ∃ f : Fin n → Fin k, Function.Injective f ∧
    ∀ g : Fin n → Fin k, Function.Injective g → g ≠ f → ∑ i, score i (g i) < ∑ i, score i (f i)

omit [IsOrderedAddMonoid R] in
/-- An assignment of maximum total is the only optimum. -/
theorem eq_rule_of_uniqueOptimum (hone : OneToOne rule) (hmax : MaximumTotal rule) {h : n ≤ k}
    {score : Fin n → Fin k → R} (hunique : UniqueOptimum score) {g : Fin n → Fin k}
    (hg : Function.Injective g) (hbest : ∑ i, score i (rule h score i) ≤ ∑ i, score i (g i)) :
    g = rule h score := by
  obtain ⟨f, hf, hother⟩ := hunique
  have hrule : rule h score = f := by
    by_contra hne
    exact absurd (hmax h score f hf) (not_le.mpr (hother _ (hone h score) hne))
  by_contra hne
  have hless := hother g hg (hrule ▸ hne)
  rw [← hrule] at hless
  exact absurd hbest (not_le.mpr hless)

omit [IsOrderedAddMonoid R] in
/-- **Renaming the rows and the columns renames the only optimum.** -/
theorem rule_rename (hone : OneToOne rule) (hmax : MaximumTotal rule) (h : n ≤ k)
    {n' k' : ℕ} (h' : n' ≤ k') {score : Fin n → Fin k → R} (hunique : UniqueOptimum score)
    (σ : Fin n' ≃ Fin n) (τ : Fin k' ≃ Fin k) (i : Fin n') :
    τ (rule h' (fun i c => score (σ i) (τ c)) i) = rule h score (σ i) := by
  set score' : Fin n' → Fin k' → R := fun i c => score (σ i) (τ c)
  -- the assignment of the renamed problem, with the old names
  set g : Fin n → Fin k := fun i => τ (rule h' score' (σ.symm i)) with hg
  have hinjective : Function.Injective g :=
    (τ.injective.comp (hone h' score')).comp σ.symm.injective
  have htotal : ∑ i, score i (g i) = ∑ i, score' i (rule h' score' i) := by
    refine (Equiv.sum_comp σ _).symm.trans (Finset.sum_congr rfl (fun i _ => ?_))
    rw [hg]
    dsimp only
    rw [σ.symm_apply_apply]
  have hback : ∑ i, score' i (τ.symm (rule h score (σ i))) = ∑ i, score i (rule h score i) := by
    refine Eq.trans (Finset.sum_congr rfl (fun i _ => ?_)) (Equiv.sum_comp σ _)
    show score (σ i) (τ (τ.symm (rule h score (σ i)))) = _
    rw [τ.apply_symm_apply]
  have hbest := hmax h' score' (fun i => τ.symm (rule h score (σ i)))
    ((τ.symm.injective.comp (hone h score)).comp σ.injective)
  rw [hback, ← htotal] at hbest
  rw [← eq_rule_of_uniqueOptimum hone hmax hunique hinjective hbest, hg]
  dsimp only
  rw [σ.symm_apply_apply]

end
