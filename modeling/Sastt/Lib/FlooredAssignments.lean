import Mathlib.Data.Fintype.Sum
import Sastt.Lib.Assignments

/-!
# Assignments with cells that are priced out

A solver that knows no forbidden cells is given a floor in their place, a
score below every other one. `Floored` says so: the scores of the cells of
some rows and some columns are above the floor, and the others are at it.

Where there are enough of these columns, an assignment of maximum total gives
one to each of these rows (`isChoice_rule`), and among the ways of doing so it
takes one of largest total (`sum_le_of_isChoice`); which one it takes, if
there are several, is up to the rule (`exists_rule_of_isChoice`). So every
rule keeps to some of the columns exactly when a way through the others is
always beaten by one that does (`forall_rule_isChoice_iff`).
-/

variable {R : Type} {n k : ℕ}

/-- **A choice of distinct columns for the rows.** -/
structure IsChoice (rows : Finset (Fin n)) (cols : Finset (Fin k)) (f : Fin n → Fin k) : Prop where
  injOn : Set.InjOn f rows
  mem : ∀ i ∈ rows, f i ∈ cols

variable {rows : Finset (Fin n)} {cols kept : Finset (Fin k)} {f : Fin n → Fin k}

theorem IsChoice.card_le (h : IsChoice rows cols f) : rows.card ≤ cols.card :=
  Finset.card_le_card_of_injOn f h.mem h.injOn

theorem IsChoice.mono (h : IsChoice rows cols f) (hsub : cols ⊆ kept) : IsChoice rows kept f :=
  ⟨h.injOn, fun i hi => hsub (h.mem i hi)⟩

/-- A choice is part of an assignment. -/
theorem IsChoice.exists_injective (h : IsChoice rows cols f) (hle : n ≤ k) :
    ∃ g : Fin n → Fin k, Function.Injective g ∧ ∀ i ∈ rows, g i = f i := by
  have himage : (rows.image f).card ≤ n := Finset.card_image_le.trans (card_finset_fin_le rows)
  obtain ⟨t, hsub, -, hcard⟩ := Finset.exists_subsuperset_card_eq
    (Finset.subset_univ (rows.image f)) himage (by simpa using hle)
  obtain ⟨g, hg⟩ := Finset.exists_equiv_extend_of_card_eq
    ((Fintype.card_fin n).trans hcard.symm) hsub h.injOn
  exact ⟨fun i => g i, Subtype.val_injective.comp g.injective, hg⟩

/-- A choice among some columns is one among all of them. -/
theorem IsChoice.map {m : ℕ} {cols : Finset (Fin m)} {f : Fin n → Fin m}
    (h : IsChoice rows cols f) (e : Fin m ↪ Fin k) : IsChoice rows (cols.map e) (e ∘ f) :=
  ⟨e.injective.comp_injOn h.injOn, fun i hi => Finset.mem_map_of_mem e (h.mem i hi)⟩

theorem IsChoice.exists_of_map {m : ℕ} {cols : Finset (Fin m)} {e : Fin m ↪ Fin k}
    (h : IsChoice rows (cols.map e) f) (hrows : rows.Nonempty) :
    ∃ g, IsChoice rows cols g ∧ ∀ i ∈ rows, f i = e (g i) := by
  have hmem : ∀ i ∈ rows, ∃ j ∈ cols, f i = e j := by
    intro i hi
    obtain ⟨j, hj, hji⟩ := Finset.mem_map.mp (h.mem i hi)
    exact ⟨j, hj, hji.symm⟩
  obtain ⟨j₀, -⟩ := hmem _ hrows.choose_spec
  have : Nonempty (Fin m) := ⟨j₀⟩
  choose! g hg hfg using hmem
  refine ⟨g, ⟨fun i hi i' hi' heq => h.injOn hi hi' ?_, hg⟩, hfg⟩
  rw [hfg i hi, hfg i' hi', heq]

variable [AddCommGroup R] [LinearOrder R] {score : Fin n → Fin k → R} {floor : R}

/-- **Some cells are above the floor, and the others at it.** -/
structure Floored (score : Fin n → Fin k → R) (rows : Finset (Fin n)) (cols : Finset (Fin k))
    (floor : R) : Prop where
  above : ∀ i ∈ rows, ∀ c ∈ cols, floor < score i c
  other : ∀ i c, i ∉ rows ∨ c ∉ cols → score i c = floor

/-- The rows without a column are at the floor. -/
theorem Floored.sum_eq (hfloor : Floored score rows cols floor) (f : Fin n → Fin k) :
    ∑ i, score i (f i) = ∑ i ∈ rows, score i (f i) + ∑ _i ∈ rowsᶜ, floor := by
  rw [← Finset.sum_add_sum_compl rows]
  refine congrArg _ (Finset.sum_congr rfl (fun i hi => ?_))
  exact hfloor.other i _ (Or.inl (Finset.mem_compl.mp hi))

variable [IsOrderedAddMonoid R] {rule : AssignmentRule R}

/-- **Every row is given one of the columns**, where there are enough. -/
theorem isChoice_rule (hone : OneToOne rule) (hmax : MaximumTotal rule) (h : n ≤ k)
    (hfloor : Floored score rows cols floor) (hcard : rows.card ≤ cols.card) :
    IsChoice rows cols (rule h score) := by
  refine ⟨(hone h score).injOn, fun i hi => ?_⟩
  by_contra hout
  -- some column is left over by the other rows
  have hused : ((rows.erase i).image (rule h score)).card < cols.card := by
    have herase := Finset.card_erase_lt_of_mem hi
    exact (Finset.card_image_le.trans_lt herase).trans_le hcard
  obtain ⟨c, hc, hleft⟩ := Finset.exists_mem_notMem_of_card_lt_card hused
  have habove := hfloor.above i hi c hc
  have hat := hfloor.other i _ (Or.inr hout)
  by_cases hfree : ∀ l, rule h score l ≠ c
  · have hmove := score_le_of_free hone hmax hfree (i := i)
    rw [hat] at hmove
    exact absurd habove (not_lt.mpr hmove)
  · obtain ⟨l, hl⟩ := not_forall.mp hfree
    rw [not_not] at hl
    have hne : i ≠ l := by
      rintro rfl
      exact hout (hl ▸ hc)
    have hrow : l ∉ rows := fun hmem => hleft
      (hl ▸ Finset.mem_image_of_mem _ (Finset.mem_erase.mpr ⟨hne.symm, hmem⟩))
    have hswap := score_swap_le hone hmax h score hne
    rw [hl, hat, hfloor.other l _ (Or.inl hrow), hfloor.other l c (Or.inl hrow)] at hswap
    exact absurd habove (not_lt.mpr (le_of_add_le_add_right hswap))

/-- **It is a choice of largest total.** -/
theorem sum_le_of_isChoice (hmax : MaximumTotal rule) (h : n ≤ k)
    (hfloor : Floored score rows cols floor) (hf : IsChoice rows kept f) :
    ∑ i ∈ rows, score i (f i) ≤ ∑ i ∈ rows, score i (rule h score i) := by
  obtain ⟨g, hg, hgf⟩ := hf.exists_injective h
  have htotal := hmax h score g hg
  rw [hfloor.sum_eq, hfloor.sum_eq] at htotal
  rw [← Finset.sum_congr rfl (fun i hi => congrArg (score i) (hgf i hi))]
  exact le_of_add_le_add_right htotal

omit [IsOrderedAddMonoid R] in
/-- A rule may take any optimum there is. -/
theorem exists_rule_of_optimum (h : n ≤ k) (score : Fin n → Fin k → R) {g : Fin n → Fin k}
    (hg : Function.Injective g)
    (hbest : ∀ g', Function.Injective g' → ∑ i, score i (g' i) ≤ ∑ i, score i (g i)) :
    ∃ rule : AssignmentRule R, OneToOne rule ∧ MaximumTotal rule ∧ rule h score = g := by
  classical
  obtain ⟨rule₀, hone₀, hmax₀⟩ := exists_assignmentRule (R := R)
  -- each problem has its optima, and this one the optimum that is asked for
  have hchoice : ∀ (n' k' : ℕ) (h' : n' ≤ k') (score' : Fin n' → Fin k' → R),
      ∃ f : Fin n' → Fin k', Function.Injective f
        ∧ (∀ g', Function.Injective g' → ∑ i, score' i (g' i) ≤ ∑ i, score' i (f i))
        ∧ ∀ (hn : n' = n) (hk : k' = k),
          (∀ i c, score' i c = score (Fin.cast hn i) (Fin.cast hk c)) →
            ∀ i, Fin.cast hk (f i) = g (Fin.cast hn i) := by
    intro n' k' h' score'
    by_cases hsame : ∃ (hn : n' = n) (hk : k' = k),
        ∀ i c, score' i c = score (Fin.cast hn i) (Fin.cast hk c)
    · obtain ⟨rfl, rfl, hscore⟩ := hsame
      obtain rfl : score' = score := funext₂ hscore
      exact ⟨g, hg, hbest, fun _ _ _ _ => rfl⟩
    · exact ⟨rule₀ h' score', hone₀ h' score', hmax₀ h' score',
        fun hn hk hscore => absurd ⟨hn, hk, hscore⟩ hsame⟩
  choose rule hone hmax hat using hchoice
  refine ⟨fun {n' k'} h' score' => rule n' k' h' score', fun h' score' => hone _ _ h' score',
    fun h' score' g' hg' => hmax _ _ h' score' g' hg', funext (fun i => ?_)⟩
  exact hat n k h score rfl rfl (fun _ _ => rfl) i

/-- **Any choice of largest total is one a rule may take.** -/
theorem exists_rule_of_isChoice (h : n ≤ k) (hfloor : Floored score rows cols floor)
    (hf : IsChoice rows cols f)
    (hbest : ∀ g, IsChoice rows cols g → ∑ i ∈ rows, score i (g i) ≤ ∑ i ∈ rows, score i (f i)) :
    ∃ rule : AssignmentRule R, OneToOne rule ∧ MaximumTotal rule
      ∧ ∀ i ∈ rows, rule h score i = f i := by
  obtain ⟨rule₀, hone₀, hmax₀⟩ := exists_assignmentRule (R := R)
  obtain ⟨g, hg, hgf⟩ := hf.exists_injective h
  have hrule₀ := hbest _ (isChoice_rule hone₀ hmax₀ h hfloor hf.card_le)
  have htotal : ∀ g', Function.Injective g' → ∑ i, score i (g' i) ≤ ∑ i, score i (g i) := by
    refine fun g' hg' => (hmax₀ h score g' hg').trans ?_
    rw [hfloor.sum_eq, hfloor.sum_eq g,
      Finset.sum_congr rfl (fun i hi => congrArg (score i) (hgf i hi))]
    exact add_le_add_left hrule₀ _
  obtain ⟨rule, hone, hmax, hrule⟩ := exists_rule_of_optimum h score hg htotal
  exact ⟨rule, hone, hmax, fun i hi => (congrFun hrule i).trans (hgf i hi)⟩

/-- **When every rule keeps to some of the columns**: there are enough of
them, and a choice that takes another one is beaten by one that does not. -/
theorem forall_rule_isChoice_iff (h : n ≤ k) (hfloor : Floored score rows cols floor)
    (hsub : kept ⊆ cols) :
    (∀ rule : AssignmentRule R, OneToOne rule → MaximumTotal rule →
        IsChoice rows kept (rule h score))
      ↔ rows.card ≤ kept.card ∧ ∀ f, IsChoice rows cols f → (∃ i ∈ rows, f i ∉ kept) →
        ∃ g, IsChoice rows kept g ∧ ∑ i ∈ rows, score i (f i) < ∑ i ∈ rows, score i (g i) := by
  constructor
  · intro hall
    obtain ⟨rule₀, hone₀, hmax₀⟩ := exists_assignmentRule (R := R)
    have hkeeps := hall rule₀ hone₀ hmax₀
    refine ⟨hkeeps.card_le, fun f hf ⟨i, hi, hout⟩ => ?_⟩
    by_contra hunbeaten
    have hbest : ∀ g, IsChoice rows cols g →
        ∑ i ∈ rows, score i (g i) ≤ ∑ i ∈ rows, score i (f i) := fun g hg =>
      (sum_le_of_isChoice hmax₀ h hfloor hg).trans
        (not_lt.mp (fun hlt => hunbeaten ⟨_, hkeeps, hlt⟩))
    obtain ⟨rule, hone, hmax, hrule⟩ := exists_rule_of_isChoice h hfloor hf hbest
    exact hout (hrule i hi ▸ (hall rule hone hmax).mem i hi)
  · rintro ⟨hcard, hbeaten⟩ rule hone hmax
    have hcols := isChoice_rule hone hmax h hfloor (hcard.trans (Finset.card_le_card hsub))
    refine ⟨hcols.injOn, fun i hi => ?_⟩
    by_contra hout
    obtain ⟨g, hg, hlt⟩ := hbeaten _ hcols ⟨i, hi, hout⟩
    exact absurd (sum_le_of_isChoice hmax h hfloor hg) (not_le.mpr hlt)
