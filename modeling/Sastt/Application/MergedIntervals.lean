import Mathlib.Data.Finset.Union
import Mathlib.Order.Interval.Finset.Nat
import Sastt.Application.IntervalSets

/-!
# The union of intervals with its gaps closed

What `mergeIntervals` computes can be said without its loop: a list of
intervals more than the gap apart, in which each interval that was given lies,
which starts and ends where one of them does, and which bridges no stretch
longer than the gap (`IsGapUnion`). There is one such list only, and it is
determined by the set of the intervals that were given
(`IsGapUnion.unique`): it is the finest of all lists that are far enough apart
and lose nothing (`IsGapUnion.exists_inside`). So neither the order of the
intervals nor how often one is given makes a difference, and merging a second
time changes nothing.
-/

namespace Sastt

open TimeInterval

/-! ## What a merged list is -/

/-- The moment is in one of the intervals. -/
def Covered (intervals : List TimeInterval) (m : ℕ) : Prop :=
  ∃ i ∈ intervals, i.contains m = true

/-- **The union with its gaps closed.** -/
structure IsGapUnion (gap : ℕ) (intervals result : List TimeInterval) : Prop where
  apart : result.Pairwise (fun i j => i.endMs + gap < j.startMs)
  inside : ∀ i ∈ intervals, ∃ j ∈ result, i.Inside j
  starts : ∀ j ∈ result, ∃ i ∈ intervals, i.startMs = j.startMs
  ends : ∀ j ∈ result, ∃ i ∈ intervals, i.endMs = j.endMs
  /-- A stretch that no interval covers is at most as long as the gap. -/
  bridges : ∀ j ∈ result, ∀ a b, j.startMs ≤ a → b ≤ j.endMs →
    (∀ m, a ≤ m → m < b → ¬ Covered intervals m) → b ≤ a + gap

/-- One of the intervals ends more than the gap before the other starts. -/
def TimeInterval.Apart (gap : ℕ) (i j : TimeInterval) : Prop :=
  i.endMs + gap < j.startMs ∨ j.endMs + gap < i.startMs

instance (gap : ℕ) : Std.Symm (TimeInterval.Apart gap) := ⟨fun _ _ => Or.symm⟩

section GapUnion

variable {gap : ℕ} {intervals intervals' result result' others : List TimeInterval}
  {i j k : TimeInterval}

theorem TimeInterval.Inside.antisymm (h : i.Inside j) (h' : j.Inside i) : i = j := by
  have hstart := le_antisymm h'.1 h.1
  have hend := le_antisymm h.2 h'.2
  cases i
  cases j
  simp_all

/-- Members of a list that is apart are apart from each other. -/
theorem apart_of_mem (h : result.Pairwise (fun i j => i.endMs + gap < j.startMs))
    (hj : j ∈ result) (hk : k ∈ result) (hne : j ≠ k) : j.Apart gap k := by
  have hapart : result.Pairwise (TimeInterval.Apart gap) := h.imp Or.inl
  exact hapart.forall hj hk hne

/-- Two of them that have a part in common are one. -/
theorem eq_of_inside (h : result.Pairwise (fun i j => i.endMs + gap < j.startMs))
    (hj : j ∈ result) (hk : k ∈ result) (hij : i.Inside j) (hik : i.Inside k) : j = k := by
  by_contra hne
  have hi := i.start_lt_end
  have ⟨hstart, hend⟩ := hij
  have ⟨hstart', hend'⟩ := hik
  rcases apart_of_mem h hj hk hne with hbefore | hafter <;> omega

/-- **The gap union is the finest** list of intervals more than the gap apart
that loses nothing. -/
theorem IsGapUnion.exists_inside (h : IsGapUnion gap intervals result)
    (hapart : others.Pairwise (fun i j => i.endMs + gap < j.startMs))
    (hinside : ∀ i ∈ intervals, ∃ j ∈ others, i.Inside j) (hj : j ∈ result) :
    ∃ k ∈ others, j.Inside k := by
  obtain ⟨first, hfirst, hstart⟩ := h.starts j hj
  obtain ⟨last, hlast, hend⟩ := h.ends j hj
  obtain ⟨k, hk, hfk⟩ := hinside first hfirst
  refine ⟨k, hk, hstart ▸ hfk.1, ?_⟩
  by_contra hshort
  have hfirstpos := first.start_lt_end
  have hlastpos := last.start_lt_end
  have hjpos := j.start_lt_end
  have hkend := hfk.2
  -- after the end of `k` nothing is covered for longer than the gap
  have hfree : ∀ m, k.endMs ≤ m → m ≤ k.endMs + gap → ¬ Covered intervals m := by
    rintro m hm hgap ⟨i, hi, hcontains⟩
    obtain ⟨k', hk', hik'⟩ := hinside i hi
    have ⟨him, hmi⟩ := contains_iff.mp hcontains
    have ⟨hk'start, hk'end⟩ := hik'
    have hne : k ≠ k' := by
      rintro rfl
      omega
    rcases apart_of_mem hapart hk hk' hne with hbefore | hafter
    · omega
    · have hkpos := k.start_lt_end
      omega
  rcases Nat.lt_or_ge (k.endMs + gap) j.endMs with hlong | hclose
  · have hbridge := h.bridges j hj k.endMs (k.endMs + gap + 1) (by omega) hlong
      (fun m hm hm' => hfree m hm (by omega))
    omega
  · refine hfree (j.endMs - 1) (by omega) (by omega) ⟨last, hlast, contains_iff.mpr ?_⟩
    omega

/-- **It is determined by the set of the intervals.** -/
theorem IsGapUnion.unique (h : IsGapUnion gap intervals result)
    (h' : IsGapUnion gap intervals' result') (hmem : ∀ i, i ∈ intervals ↔ i ∈ intervals') :
    result = result' := by
  have hsub : ∀ {l l' r r' : List TimeInterval}, IsGapUnion gap l r → IsGapUnion gap l' r' →
      (∀ i, i ∈ l ↔ i ∈ l') → ∀ j ∈ r, j ∈ r' := by
    intro l l' r r' hr hr' hsame j hj
    obtain ⟨k, hk, hjk⟩ :=
      hr.exists_inside hr'.apart (fun i hi => hr'.inside i ((hsame i).mp hi)) hj
    obtain ⟨j', hj', hkj'⟩ :=
      hr'.exists_inside hr.apart (fun i hi => hr.inside i ((hsame i).mpr hi)) hk
    obtain rfl := eq_of_inside hr.apart hj hj' (Inside.refl j) (hjk.trans hkj')
    exact hjk.antisymm hkj' ▸ hk
  have hirrefl : Std.Irrefl (fun i j : TimeInterval => i.endMs + gap < j.startMs) :=
    ⟨fun i hi => absurd i.start_lt_end (by omega)⟩
  have hantisymm : Std.Antisymm (fun i j : TimeInterval => i.endMs + gap < j.startMs) :=
    ⟨fun i j hij hji => absurd i.start_lt_end (by have hj := j.start_lt_end; omega)⟩
  exact h.apart.eq_of_mem_iff h'.apart
    (fun j => ⟨hsub h h' hmem j, hsub h' h (fun i => (hmem i).symm) j⟩)

/-- A list that is far enough apart is its own gap union. -/
theorem isGapUnion_self (h : result.Pairwise (fun i j => i.endMs + gap < j.startMs)) :
    IsGapUnion gap result result where
  apart := h
  inside i hi := ⟨i, hi, Inside.refl i⟩
  starts j hj := ⟨j, hj, rfl⟩
  ends j hj := ⟨j, hj, rfl⟩
  bridges j hj a b ha hb hfree := by
    by_contra hlong
    exact hfree a le_rfl (by omega) ⟨j, hj, contains_iff.mpr ⟨ha, by omega⟩⟩

end GapUnion

/-! ## The loop -/

section Loop

variable {gap : ℕ} {last i j : TimeInterval} {rest intervals : List TimeInterval}
  {covered : ℕ → Prop}

/-- **What the loop knows about an interval**: it starts and ends with a moment
that is covered, and bridges no stretch longer than the gap. -/
structure Bridged (covered : ℕ → Prop) (gap : ℕ) (i : TimeInterval) : Prop where
  first : covered i.startMs
  last : covered (i.endMs - 1)
  stretch : ∀ a b, i.startMs ≤ a → b ≤ i.endMs → (∀ m, a ≤ m → m < b → ¬ covered m) → b ≤ a + gap

/-- An interval all of which is covered. -/
theorem bridged_of_covered (h : ∀ m, i.contains m = true → covered m) : Bridged covered gap i := by
  have hi := i.start_lt_end
  refine ⟨h _ (contains_iff.mpr ⟨le_rfl, hi⟩), h _ (contains_iff.mpr (by omega)), ?_⟩
  intro a b ha hb hfree
  by_contra hlong
  exact hfree a le_rfl (by omega) (h a (contains_iff.mpr ⟨ha, by omega⟩))

/-- **Two intervals that are merged** bridge no more than what is between
them. -/
theorem Bridged.merge (hlast : Bridged covered gap last) (hi : Bridged covered gap i)
    (hnear : i.startMs ≤ last.endMs + gap) (hmerged : j.startMs = last.startMs)
    (hend : j.endMs = max last.endMs i.endMs) : Bridged covered gap j := by
  have hlastpos := last.start_lt_end
  have hipos := i.start_lt_end
  refine ⟨hmerged ▸ hlast.first, ?_, fun a b ha hb hfree => ?_⟩
  · rcases max_cases last.endMs i.endMs with ⟨hmax, -⟩ | ⟨hmax, -⟩
    · rw [hend, hmax]
      exact hlast.last
    · rw [hend, hmax]
      exact hi.last
  · by_cases hbefore : b ≤ last.endMs
    · exact hlast.stretch a b (hmerged ▸ ha) hbefore hfree
    · by_cases hafter : i.startMs ≤ a
      · exact hi.stretch a b hafter (by omega) hfree
      · -- the stretch lies between the end of the one and the start of the other
        have hleft : ¬ (a ≤ last.endMs - 1 ∧ last.endMs - 1 < b) := fun ⟨h, h'⟩ =>
          hfree _ h h' hlast.last
        have hright : ¬ (a ≤ i.startMs ∧ i.startMs < b) := fun ⟨h, h'⟩ => hfree _ h h' hi.first
        omega

/-- The loop emits intervals that start where one starts, end where one ends,
and bridge no long stretch. -/
theorem mergeLoop_bridged (h : ∀ k ∈ last :: rest, Bridged covered gap k)
    (hj : j ∈ mergeLoop gap last rest) :
    (∃ k ∈ last :: rest, k.startMs = j.startMs) ∧ (∃ k ∈ last :: rest, k.endMs = j.endMs)
      ∧ Bridged covered gap j := by
  induction rest generalizing last with
  | nil =>
    obtain rfl := List.mem_singleton.mp hj
    exact ⟨⟨j, hj, rfl⟩, ⟨j, hj, rfl⟩, h j hj⟩
  | cons i rest ih =>
    have hlast := h last List.mem_cons_self
    have hi := h i (List.mem_cons_of_mem last List.mem_cons_self)
    have hrest : ∀ k ∈ rest, Bridged covered gap k := fun k hk =>
      h k (List.mem_cons_of_mem last (List.mem_cons_of_mem i hk))
    unfold mergeLoop at hj
    split at hj
    · next hnear =>
      let merged : TimeInterval := ⟨last.startMs, max last.endMs i.endMs,
        lt_of_lt_of_le last.start_lt_end (le_max_left _ _)⟩
      have hmerged : Bridged covered gap merged := hlast.merge hi (by omega) rfl rfl
      obtain ⟨⟨k, hk, hstart⟩, ⟨k', hk', hend⟩, hbridged⟩ :=
        @ih merged (List.forall_mem_cons.mpr ⟨hmerged, hrest⟩) hj
      refine ⟨?_, ?_, hbridged⟩
      · rcases List.mem_cons.mp hk with rfl | hk
        · exact ⟨last, List.mem_cons_self, hstart⟩
        · exact ⟨k, List.mem_cons_of_mem last (List.mem_cons_of_mem i hk), hstart⟩
      · rcases List.mem_cons.mp hk' with rfl | hk'
        · rcases max_cases last.endMs i.endMs with ⟨hmax, -⟩ | ⟨hmax, -⟩
          · exact ⟨last, List.mem_cons_self, hmax.symm.trans hend⟩
          · exact ⟨i, List.mem_cons_of_mem last List.mem_cons_self, hmax.symm.trans hend⟩
        · exact ⟨k', List.mem_cons_of_mem last (List.mem_cons_of_mem i hk'), hend⟩
    · rcases List.mem_cons.mp hj with rfl | hj
      · exact ⟨⟨j, List.mem_cons_self, rfl⟩, ⟨j, List.mem_cons_self, rfl⟩, hlast⟩
      · obtain ⟨⟨k, hk, hstart⟩, ⟨k', hk', hend⟩, hbridged⟩ :=
          ih (List.forall_mem_cons.mpr ⟨hi, hrest⟩) hj
        exact ⟨⟨k, List.mem_cons_of_mem last hk, hstart⟩,
          ⟨k', List.mem_cons_of_mem last hk', hend⟩, hbridged⟩

/-- **What `mergeIntervals` computes.** -/
theorem isGapUnion_mergeIntervals (intervals : List TimeInterval) (gap : ℕ) :
    IsGapUnion gap intervals (mergeIntervals intervals gap) := by
  have hbridged : ∀ j ∈ mergeIntervals intervals gap,
      (∃ k ∈ intervals, k.startMs = j.startMs) ∧ (∃ k ∈ intervals, k.endMs = j.endMs)
        ∧ Bridged (Covered intervals) gap j := by
    intro j hj
    unfold mergeIntervals at hj
    rcases hlist : intervals.insertionSort TimeInterval.le with _ | ⟨first, rest⟩
    · rw [hlist] at hj
      cases hj
    · rw [hlist] at hj
      have hmem : ∀ k, k ∈ first :: rest ↔ k ∈ intervals := by
        intro k
        rw [← hlist, List.mem_insertionSort]
      obtain ⟨⟨k, hk, hstart⟩, ⟨k', hk', hend⟩, hj⟩ := mergeLoop_bridged
        (fun k hk => bridged_of_covered
          (fun m hm => (⟨k, (hmem k).mp hk, hm⟩ : Covered intervals m))) hj
      exact ⟨⟨k, (hmem k).mp hk, hstart⟩, ⟨k', (hmem k').mp hk', hend⟩, hj⟩
  exact {
    apart := mergeIntervals_pairwise intervals gap
    inside := fun i hi => exists_mem_mergeIntervals gap hi
    starts := fun j hj => (hbridged j hj).1
    ends := fun j hj => (hbridged j hj).2.1
    bridges := fun j hj => (hbridged j hj).2.2.stretch }

end Loop

/-! ## Time that is covered -/

/-- The moments the intervals cover. -/
def moments (intervals : List TimeInterval) : Finset ℕ :=
  intervals.toFinset.biUnion (fun i => Finset.Ico i.startMs i.endMs)

theorem mem_moments {intervals : List TimeInterval} {m : ℕ} :
    m ∈ moments intervals ↔ Covered intervals m := by
  unfold moments Covered
  simp only [Finset.mem_biUnion, List.mem_toFinset, Finset.mem_Ico, contains_iff]

/-- **Separate intervals** cover as many moments as they are long. -/
theorem card_moments {intervals : List TimeInterval} (h : intervals.Pairwise Separate) :
    (moments intervals).card = (intervals.map durationMs).sum := by
  induction intervals with
  | nil => rfl
  | cons i intervals ih =>
    obtain ⟨hi, h⟩ := List.pairwise_cons.mp h
    have hsplit : moments (i :: intervals) = Finset.Ico i.startMs i.endMs ∪ moments intervals := by
      unfold moments
      rw [List.toFinset_cons, Finset.biUnion_insert]
    have hdisjoint : Disjoint (Finset.Ico i.startMs i.endMs) (moments intervals) := by
      rw [Finset.disjoint_left]
      intro m hm hmem
      obtain ⟨j, hj, hcontains⟩ := mem_moments.mp hmem
      have ⟨hstart, hend⟩ := Finset.mem_Ico.mp hm
      have ⟨hjm, hmj⟩ := contains_iff.mp hcontains
      have hsep := hi j hj
      unfold Separate at hsep
      omega
    rw [hsplit, Finset.card_union_of_disjoint hdisjoint, Nat.card_Ico, ih h]
    rfl

/-- Merging without a gap covers what was covered. -/
theorem moments_mergeIntervals (intervals : List TimeInterval) :
    moments (mergeIntervals intervals 0) = moments intervals := by
  ext m
  rw [mem_moments, mem_moments]
  constructor
  · rintro ⟨j, hj, hm⟩
    exact exists_mem_of_mergeIntervals hj hm
  · rintro ⟨i, hi, hm⟩
    obtain ⟨j, hj, hin⟩ := exists_mem_mergeIntervals 0 hi
    have ⟨him, hmi⟩ := contains_iff.mp hm
    exact ⟨j, hj, contains_iff.mpr ⟨hin.1.trans him, hmi.trans_le hin.2⟩⟩

/-- **`merge_intervals` computes the union with its gaps closed.** -/
theorem mergeIntervals_spec (intervals : List TimeInterval) (gap : ℕ) :
    ((mergeIntervals intervals gap).Pairwise (fun i j => i.startMs < j.startMs)
      ∧ (mergeIntervals intervals gap).Pairwise (fun i j => i.endMs + gap < j.startMs))
    ∧ (∀ i ∈ intervals, ∃! j, j ∈ mergeIntervals intervals gap ∧ i.Inside j)
    ∧ (∀ j ∈ mergeIntervals intervals gap, (∃ i ∈ intervals, i.startMs = j.startMs)
      ∧ (∃ i ∈ intervals, i.endMs = j.endMs)
      ∧ ∀ a b, j.startMs ≤ a → b ≤ j.endMs →
        (∀ m, a ≤ m → m < b → ∀ i ∈ intervals, i.contains m = false) → b ≤ a + gap)
    ∧ (∀ others, (∀ i, i ∈ others ↔ i ∈ intervals) →
      mergeIntervals others gap = mergeIntervals intervals gap)
    ∧ mergeIntervals (mergeIntervals intervals gap) gap = mergeIntervals intervals gap
    ∧ totalDurationMs intervals
      = (intervals.toFinset.biUnion (fun i => Finset.Ico i.startMs i.endMs)).card := by
  have h := isGapUnion_mergeIntervals intervals gap
  refine ⟨⟨h.apart.imp (fun {i j} hij => ?_), h.apart⟩, fun i hi => ?_, fun j hj => ?_,
    fun others hmem => ?_, ?_, ?_⟩
  · have hi := i.start_lt_end
    omega
  · obtain ⟨j, hj, hij⟩ := h.inside i hi
    exact ⟨j, ⟨hj, hij⟩, fun k hk => eq_of_inside h.apart hk.1 hj hk.2 hij⟩
  · refine ⟨h.starts j hj, h.ends j hj, fun a b ha hb hfree => h.bridges j hj a b ha hb ?_⟩
    rintro m hm hm' ⟨i, hi, hcontains⟩
    exact absurd hcontains (Bool.eq_false_iff.mp (hfree m hm hm' i hi))
  · exact (isGapUnion_mergeIntervals others gap).unique h hmem
  · exact (isGapUnion_mergeIntervals _ gap).unique (isGapUnion_self h.apart) (fun _ => Iff.rfl)
  · have hzero := (isGapUnion_mergeIntervals intervals 0).apart
    have hcard : (moments (mergeIntervals intervals 0)).card = totalDurationMs intervals :=
      card_moments (hzero.imp (fun h => Or.inl h.le))
    rw [← hcard, moments_mergeIntervals]
    rfl

end Sastt
