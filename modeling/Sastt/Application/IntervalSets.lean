import Sastt.Application.PipelineAdapters

/-!
# Sets of intervals

`mergeIntervals` turns a list of intervals into one whose members are more
than the gap apart, and each interval that was given lies inside one of them.
`subtractIntervals` leaves pieces of the intervals that are pairwise disjoint
and meet no hole. Both hold of any lists: nothing is asked of the order, and
the intervals given may overlap.
-/

namespace Sastt

namespace TimeInterval

/-- **Two intervals have no moment in common.** -/
def Separate (i j : TimeInterval) : Prop := i.endMs ≤ j.startMs ∨ j.endMs ≤ i.startMs

/-- One interval lies in another. -/
def Inside (i j : TimeInterval) : Prop := j.startMs ≤ i.startMs ∧ i.endMs ≤ j.endMs

instance (i j : TimeInterval) : Decidable (i.Separate j) := inferInstanceAs (Decidable (_ ∨ _))

variable {i j k : TimeInterval}

theorem Separate.symm (h : i.Separate j) : j.Separate i := Or.symm h

instance : Std.Symm Separate := ⟨fun _ _ => Separate.symm⟩

theorem Inside.refl (i : TimeInterval) : i.Inside i := ⟨le_rfl, le_rfl⟩

theorem Inside.trans (h : i.Inside j) (h' : j.Inside k) : i.Inside k :=
  ⟨h'.1.trans h.1, h.2.trans h'.2⟩

/-- Parts of separate intervals are separate. -/
theorem Separate.mono {i' j' : TimeInterval} (h : i.Separate j) (hi : i'.Inside i)
    (hj : j'.Inside j) : i'.Separate j' :=
  h.imp (fun h => hi.2.trans (h.trans hj.1)) (fun h => hj.2.trans (h.trans hi.1))

theorem separate_iff : i.Separate j ↔ i.intersects j = false := by
  unfold Separate intersects
  simp only [Bool.and_eq_false_iff, decide_eq_false_iff_not, not_lt]
  exact or_comm

theorem clamp_eq_none_iff : i.clamp j = none ↔ i.Separate j := by
  have hi := i.start_lt_end
  have hj := j.start_lt_end
  unfold clamp Separate
  split <;> simp <;> omega

theorem contains_iff {m : ℕ} : i.contains m = true ↔ i.startMs ≤ m ∧ m < i.endMs := by
  unfold contains
  rw [Bool.and_eq_true, decide_eq_true_eq, decide_eq_true_eq]

theorem Inside.contains {m : ℕ} (h : i.Inside j) (hm : i.contains m = true) :
    j.contains m = true := by
  rw [contains_iff] at hm ⊢
  exact ⟨h.1.trans hm.1, hm.2.trans_le h.2⟩

/-- The part inside the bounds is in both. -/
theorem clamp_eq_some_iff {k : TimeInterval} : i.clamp j = some k
    ↔ k.startMs = max i.startMs j.startMs ∧ k.endMs = min i.endMs j.endMs := by
  unfold clamp
  constructor
  · split
    · rintro ⟨⟩
      exact ⟨rfl, rfl⟩
    · rintro ⟨⟩
  · rintro ⟨hstart, hend⟩
    have hlt := k.start_lt_end
    rw [hstart, hend] at hlt
    rw [dif_pos hlt]
    cases k
    simp_all

theorem le_total (i j : TimeInterval) : i.le j ∨ j.le i := by
  unfold le
  omega

theorem le_trans' (h : i.le j) (h' : j.le k) : i.le k := by
  unfold le at *
  omega

theorem start_le_of_le (h : i.le j) : i.startMs ≤ j.startMs :=
  h.elim Nat.le_of_lt (fun h => h.1.le)

instance : Std.Total TimeInterval.le := ⟨le_total⟩

instance : IsTrans TimeInterval TimeInterval.le := ⟨fun _ _ _ => le_trans'⟩

end TimeInterval

open TimeInterval

/-! ## Merging -/

section Merging

variable {gap : ℕ} {last : TimeInterval} {rest : List TimeInterval}

/-- Nothing the loop emits starts before the interval it has open. -/
theorem le_start_of_mem_mergeLoop (h : ∀ i ∈ rest, last.startMs ≤ i.startMs)
    (hsorted : rest.Pairwise (fun i j => i.startMs ≤ j.startMs)) {j : TimeInterval}
    (hj : j ∈ mergeLoop gap last rest) : last.startMs ≤ j.startMs := by
  induction rest generalizing last with
  | nil =>
    obtain rfl := List.mem_singleton.mp hj
    exact le_rfl
  | cons i rest ih =>
    obtain ⟨hi, hsorted⟩ := List.pairwise_cons.mp hsorted
    unfold mergeLoop at hj
    split at hj
    · exact @ih ⟨last.startMs, max last.endMs i.endMs, _⟩
        (fun k hk => h k (List.mem_cons_of_mem i hk)) hsorted hj
    · rcases List.mem_cons.mp hj with rfl | hj
      · exact le_rfl
      · exact (h i List.mem_cons_self).trans (ih hi hsorted hj)

/-- **What the loop emits is more than the gap apart.** -/
theorem mergeLoop_pairwise (h : ∀ i ∈ rest, last.startMs ≤ i.startMs)
    (hsorted : rest.Pairwise (fun i j => i.startMs ≤ j.startMs)) :
    (mergeLoop gap last rest).Pairwise (fun i j => i.endMs + gap < j.startMs) := by
  induction rest generalizing last with
  | nil => exact List.pairwise_singleton _ _
  | cons i rest ih =>
    obtain ⟨hi, hsorted⟩ := List.pairwise_cons.mp hsorted
    unfold mergeLoop
    split
    · exact ih (fun k hk => h k (List.mem_cons_of_mem i hk)) hsorted
    · next hapart =>
      refine List.pairwise_cons.mpr ⟨fun j hj => ?_, ih hi hsorted⟩
      have hj' := le_start_of_mem_mergeLoop hi hsorted hj
      omega

/-- **No interval is lost**: each lies in one that is emitted. -/
theorem exists_mem_mergeLoop (h : ∀ i ∈ rest, last.startMs ≤ i.startMs)
    (hsorted : rest.Pairwise (fun i j => i.startMs ≤ j.startMs)) {k : TimeInterval}
    (hk : k ∈ last :: rest) : ∃ j ∈ mergeLoop gap last rest, k.Inside j := by
  induction rest generalizing last k with
  | nil =>
    obtain rfl := List.mem_singleton.mp hk
    exact ⟨k, List.mem_singleton_self k, Inside.refl k⟩
  | cons i rest ih =>
    obtain ⟨hi, hsorted⟩ := List.pairwise_cons.mp hsorted
    have hrest := fun k hk => h k (List.mem_cons_of_mem i hk)
    unfold mergeLoop
    split
    · -- both intervals lie in the one they are merged to
      let merged : TimeInterval := ⟨last.startMs, max last.endMs i.endMs,
        lt_of_lt_of_le last.start_lt_end (le_max_left _ _)⟩
      have hlast : last.Inside merged := ⟨le_rfl, le_max_left _ _⟩
      have hi' : i.Inside merged := ⟨h i List.mem_cons_self, le_max_right _ _⟩
      obtain ⟨j, hj, hin⟩ := @ih merged hrest hsorted merged List.mem_cons_self
      rcases List.mem_cons.mp hk with rfl | hk
      · exact ⟨j, hj, hlast.trans hin⟩
      · rcases List.mem_cons.mp hk with rfl | hk
        · exact ⟨j, hj, hi'.trans hin⟩
        · exact @ih merged hrest hsorted k (List.mem_cons_of_mem merged hk)
    · rcases List.mem_cons.mp hk with rfl | hk
      · exact ⟨k, List.mem_cons_self, Inside.refl k⟩
      · obtain ⟨j, hj, hin⟩ := ih hi hsorted hk
        exact ⟨j, List.mem_cons_of_mem last hj, hin⟩

/-- **Merging without a gap adds nothing.** -/
theorem exists_mem_of_mergeLoop {m : ℕ} {j : TimeInterval} (hj : j ∈ mergeLoop 0 last rest)
    (hm : j.contains m = true) : ∃ i ∈ last :: rest, i.contains m = true := by
  induction rest generalizing last with
  | nil => exact ⟨j, hj, hm⟩
  | cons i rest ih =>
    unfold mergeLoop at hj
    split at hj
    · next htouch =>
      obtain ⟨k, hk, hmk⟩ := ih hj
      rcases List.mem_cons.mp hk with rfl | hk
      · -- the merged interval: before the end of the first, or in the second
        rw [contains_iff] at hmk
        by_cases hlast : m < last.endMs
        · exact ⟨last, List.mem_cons_self, contains_iff.mpr ⟨hmk.1, hlast⟩⟩
        · refine ⟨i, List.mem_cons_of_mem _ List.mem_cons_self, contains_iff.mpr ⟨?_, ?_⟩⟩
          · omega
          · exact (lt_max_iff.mp hmk.2).resolve_left hlast
      · exact ⟨k, List.mem_cons_of_mem _ (List.mem_cons_of_mem _ hk), hmk⟩
    · rcases List.mem_cons.mp hj with rfl | hj
      · exact ⟨j, List.mem_cons_self, hm⟩
      · obtain ⟨k, hk, hmk⟩ := ih hj
        exact ⟨k, List.mem_cons_of_mem _ hk, hmk⟩

/-- Sorting puts the starts in order. -/
theorem starts_insertionSort (intervals : List TimeInterval) :
    (intervals.insertionSort TimeInterval.le).Pairwise (fun i j => i.startMs ≤ j.startMs) :=
  (List.pairwise_insertionSort TimeInterval.le intervals).imp start_le_of_le

/-- **Merged intervals are more than the gap apart.** -/
theorem mergeIntervals_pairwise (intervals : List TimeInterval) (gap : ℕ) :
    (mergeIntervals intervals gap).Pairwise (fun i j => i.endMs + gap < j.startMs) := by
  have hsorted := starts_insertionSort intervals
  unfold mergeIntervals
  cases hlist : intervals.insertionSort TimeInterval.le with
  | nil => exact List.Pairwise.nil
  | cons first rest =>
    rw [hlist] at hsorted
    obtain ⟨hfirst, hsorted⟩ := List.pairwise_cons.mp hsorted
    exact mergeLoop_pairwise hfirst hsorted

/-- **Merging loses nothing.** -/
theorem exists_mem_mergeIntervals {intervals : List TimeInterval} (gap : ℕ) {i : TimeInterval}
    (hi : i ∈ intervals) : ∃ j ∈ mergeIntervals intervals gap, i.Inside j := by
  have hsorted := starts_insertionSort intervals
  have hmem : i ∈ intervals.insertionSort TimeInterval.le :=
    (List.mem_insertionSort TimeInterval.le).mpr hi
  unfold mergeIntervals
  cases hlist : intervals.insertionSort TimeInterval.le with
  | nil =>
    rw [hlist] at hmem
    cases hmem
  | cons first rest =>
    rw [hlist] at hsorted hmem
    obtain ⟨hfirst, hsorted⟩ := List.pairwise_cons.mp hsorted
    exact exists_mem_mergeLoop hfirst hsorted hmem

theorem exists_mem_of_mergeIntervals {intervals : List TimeInterval} {m : ℕ} {j : TimeInterval}
    (hj : j ∈ mergeIntervals intervals 0) (hm : j.contains m = true) :
    ∃ i ∈ intervals, i.contains m = true := by
  unfold mergeIntervals at hj
  cases hlist : intervals.insertionSort TimeInterval.le with
  | nil =>
    rw [hlist] at hj
    cases hj
  | cons first rest =>
    rw [hlist] at hj
    obtain ⟨i, hi, hmi⟩ := exists_mem_of_mergeLoop hj hm
    rw [← hlist, List.mem_insertionSort] at hi
    exact ⟨i, hi, hmi⟩

theorem mergeIntervals_singleton (i : TimeInterval) (gap : ℕ) : mergeIntervals [i] gap = [i] := rfl

/-- Overlap regions are pairwise disjoint, whatever they were found from. -/
theorem mergeOverlapRegions_pairwise {R : Type} [Field R] [LinearOrder R]
    (diarizationRegions osdRegions : List (OverlapRegion R)) (gap minimum : ℕ) :
    (mergeOverlapRegions diarizationRegions osdRegions gap minimum).Pairwise
      (fun r r' => r.interval.Separate r'.interval) := by
  unfold mergeOverlapRegions
  rw [List.pairwise_map]
  exact ((mergeIntervals_pairwise _ gap).filter _).imp (fun h =>
    Or.inl ((Nat.le_add_right _ gap).trans h.le))

end Merging

/-! ## Subtracting -/

section Subtracting

variable {i j hole : TimeInterval} {intervals holes : List TimeInterval}

/-- What is left of an interval lies in it, and outside the hole. -/
theorem mem_minus (h : j ∈ i.minus hole) : j.Inside i ∧ j.Separate hole := by
  unfold minus at h
  split at h
  · next hmeets =>
    replace hmeets : i.startMs < hole.endMs ∧ hole.startMs < i.endMs := by
      simpa [intersects] using hmeets
    rcases List.mem_append.mp h with h | h
    · split at h
      · obtain rfl := List.mem_singleton.mp h
        exact ⟨⟨le_rfl, hmeets.2.le⟩, Or.inl le_rfl⟩
      · cases h
    · split at h
      · obtain rfl := List.mem_singleton.mp h
        exact ⟨⟨hmeets.1.le, le_rfl⟩, Or.inr le_rfl⟩
      · cases h
  · next hmeets =>
    obtain rfl := List.mem_singleton.mp h
    exact ⟨Inside.refl j, separate_iff.mpr (Bool.not_eq_true _ ▸ hmeets)⟩

/-- The two pieces around a hole are disjoint. -/
theorem minus_pairwise (i hole : TimeInterval) : (i.minus hole).Pairwise Separate := by
  have hhole := hole.start_lt_end
  unfold minus
  split
  · split <;> split
    · refine List.pairwise_pair.mpr (Or.inl ?_)
      exact hhole.le
    · exact List.pairwise_singleton _ _
    · exact List.pairwise_singleton _ _
    · exact List.Pairwise.nil
  · exact List.pairwise_singleton _ _

/-- **One more hole**: the pieces stay disjoint, stay inside what they were
pieces of, and are clear of the hole. -/
theorem pairwise_flatMap_minus (h : intervals.Pairwise Separate) (hole : TimeInterval) :
    (intervals.flatMap (·.minus hole)).Pairwise Separate := by
  refine List.pairwise_flatMap.mpr ⟨fun i _ => minus_pairwise i hole, h.imp ?_⟩
  exact fun hsep x hx y hy => hsep.mono (mem_minus hx).1 (mem_minus hy).1

/-- **Subtracting leaves disjoint pieces** of what there was, clear of every
hole. -/
theorem foldl_minus_spec (h : intervals.Pairwise Separate) :
    (holes.foldl (fun remaining hole => remaining.flatMap (·.minus hole)) intervals).Pairwise
        Separate
      ∧ ∀ j ∈ holes.foldl (fun remaining hole => remaining.flatMap (·.minus hole)) intervals,
        (∃ i ∈ intervals, j.Inside i) ∧ ∀ hole ∈ holes, j.Separate hole := by
  induction holes generalizing intervals with
  | nil => exact ⟨h, fun j hj => ⟨⟨j, hj, Inside.refl j⟩, fun _ hh => nomatch hh⟩⟩
  | cons hole holes ih =>
    obtain ⟨hpairwise, hpieces⟩ := ih (pairwise_flatMap_minus h hole)
    refine ⟨hpairwise, fun j hj => ?_⟩
    obtain ⟨⟨piece, hpiece, hj'⟩, hholes⟩ := hpieces j hj
    obtain ⟨i, hi, hpiece⟩ := List.mem_flatMap.mp hpiece
    obtain ⟨hin, hclear⟩ := mem_minus hpiece
    refine ⟨⟨i, hi, hj'.trans hin⟩, fun other hother => ?_⟩
    rcases List.mem_cons.mp hother with rfl | hother
    · exact hclear.mono hj' (Inside.refl other)
    · exact hholes other hother

/-- A moment outside the hole stays. -/
theorem exists_mem_minus {m : ℕ} (hm : i.contains m = true) (hhole : hole.contains m = false) :
    ∃ j ∈ i.minus hole, j.contains m = true := by
  rw [contains_iff] at hm
  rw [← Bool.not_eq_true, contains_iff] at hhole
  unfold minus
  split
  · by_cases hbefore : m < hole.startMs
    · refine ⟨⟨i.startMs, hole.startMs, by omega⟩, List.mem_append_left _ ?_,
        contains_iff.mpr ⟨hm.1, hbefore⟩⟩
      rw [dif_pos (by omega)]
      exact List.mem_singleton_self _
    · refine ⟨⟨hole.endMs, i.endMs, by omega⟩, List.mem_append_right _ ?_,
        contains_iff.mpr ⟨?_, hm.2⟩⟩
      · rw [dif_pos (by omega)]
        exact List.mem_singleton_self _
      · show hole.endMs ≤ m
        omega
  · exact ⟨i, List.mem_singleton_self i, contains_iff.mpr hm⟩

/-- **Subtracting takes away the holes and no more**: each moment is in a hole
or in a piece that is left. -/
theorem exists_mem_foldl_minus {m : ℕ} (hi : i ∈ intervals) (hm : i.contains m = true)
    (hholes : ∀ hole ∈ holes, hole.contains m = false) :
    ∃ j ∈ holes.foldl (fun remaining hole => remaining.flatMap (·.minus hole)) intervals,
      j.contains m = true := by
  induction holes generalizing intervals i with
  | nil => exact ⟨i, hi, hm⟩
  | cons hole holes ih =>
    obtain ⟨j, hj, hmj⟩ := exists_mem_minus hm (hholes hole List.mem_cons_self)
    exact ih (List.mem_flatMap.mpr ⟨i, hi, hj⟩) hmj
      (fun other hother => hholes other (List.mem_cons_of_mem hole hother))

theorem exists_mem_subtractIntervals {m : ℕ} (hi : i ∈ mergeIntervals intervals 0)
    (hm : i.contains m = true) : (∃ hole ∈ holes, hole.contains m = true)
      ∨ ∃ j ∈ subtractIntervals intervals holes, j.contains m = true := by
  by_cases hhole : ∃ merged ∈ mergeIntervals holes 0, merged.contains m = true
  · obtain ⟨merged, hmerged, hm⟩ := hhole
    exact Or.inl (exists_mem_of_mergeIntervals hmerged hm)
  · refine Or.inr (exists_mem_foldl_minus hi hm (fun merged hmerged => ?_))
    exact Bool.eq_false_iff.mpr (fun h => hhole ⟨merged, hmerged, h⟩)

theorem subtractIntervals_pairwise (intervals holes : List TimeInterval) :
    (subtractIntervals intervals holes).Pairwise Separate :=
  (foldl_minus_spec ((mergeIntervals_pairwise intervals 0).imp (fun h => Or.inl
    ((Nat.le_add_right _ 0).trans h.le)))).1

/-- What is left lies in a merged interval, and is clear of every hole. -/
theorem mem_subtractIntervals (h : j ∈ subtractIntervals intervals holes) :
    (∃ i ∈ mergeIntervals intervals 0, j.Inside i) ∧ ∀ hole ∈ holes, j.Separate hole := by
  obtain ⟨hin, hclear⟩ := (foldl_minus_spec ((mergeIntervals_pairwise intervals 0).imp
    (fun h => Or.inl ((Nat.le_add_right _ 0).trans h.le)))).2 j h
  refine ⟨hin, fun hole hhole => ?_⟩
  obtain ⟨merged, hmerged, hcover⟩ := exists_mem_mergeIntervals 0 hhole
  exact (hclear merged hmerged).mono (Inside.refl j) hcover

end Subtracting

end Sastt
