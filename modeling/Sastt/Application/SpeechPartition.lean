import Sastt.Application.MergedIntervals

/-!
# Speech, with and without overlap

The pipeline recognises each overlap region by itself and the speech outside
them slice by slice. The slices are what is left of the speech when the regions
are taken out, so slices and regions together are a partition of the moments
that are speech or in a region. A word belongs to the part its middle is in: it
is published once, whatever it straddles.
-/

namespace Sastt

open TimeInterval

section Partition

variable {parts intervals holes : List TimeInterval} {i j : TimeInterval} {m : ℕ}

/-- A moment is in one of a number of separate intervals at most. -/
theorem eq_of_contains (h : parts.Pairwise Separate) (hi : i ∈ parts) (hj : j ∈ parts)
    (hmi : i.contains m = true) (hmj : j.contains m = true) : i = j := by
  by_contra hne
  have hsep := h.forall hi hj hne
  rw [contains_iff] at hmi hmj
  unfold Separate at hsep
  omega

/-- It is in exactly one if it is covered. -/
theorem existsUnique_of_covered (h : parts.Pairwise Separate) (hm : Covered parts m) :
    ∃! i, i ∈ parts ∧ i.contains m = true := by
  obtain ⟨i, hi, hmi⟩ := hm
  exact ⟨i, ⟨hi, hmi⟩, fun j hj => eq_of_contains h hj.1 hi hj.2 hmi⟩

/-- A moment in an interval that is separate from others is in none of
them. -/
theorem not_covered_of_separate (hmi : i.contains m = true) (h : ∀ j ∈ holes, i.Separate j) :
    ¬ Covered holes m := by
  rintro ⟨j, hj, hmj⟩
  have hsep := h j hj
  rw [contains_iff] at hmi hmj
  unfold Separate at hsep
  omega

/-- **What subtracting leaves**: the moments that were there, and are in no
hole. -/
theorem covered_subtractIntervals :
    Covered (subtractIntervals intervals holes) m ↔ Covered intervals m ∧ ¬ Covered holes m := by
  constructor
  · rintro ⟨j, hj, hmj⟩
    obtain ⟨⟨i, hi, hij⟩, hclear⟩ := mem_subtractIntervals hj
    have ⟨hjm, hmj'⟩ := contains_iff.mp hmj
    have hmi : i.contains m = true := contains_iff.mpr ⟨hij.1.trans hjm, hmj'.trans_le hij.2⟩
    exact ⟨exists_mem_of_mergeIntervals hi hmi, not_covered_of_separate hmj hclear⟩
  · rintro ⟨⟨i, hi, hmi⟩, hclear⟩
    obtain ⟨merged, hmerged, hin⟩ := exists_mem_mergeIntervals 0 hi
    have ⟨him, hmi'⟩ := contains_iff.mp hmi
    have hm : merged.contains m = true :=
      contains_iff.mpr ⟨hin.1.trans him, hmi'.trans_le hin.2⟩
    exact (exists_mem_subtractIntervals hmerged hm).resolve_left hclear

/-- What is left and the holes, if they are separate, are a partition. -/
theorem subtractIntervals_append_pairwise (hholes : holes.Pairwise Separate) :
    (subtractIntervals intervals holes ++ holes).Pairwise Separate :=
  List.pairwise_append.mpr ⟨subtractIntervals_pairwise intervals holes, hholes,
    fun _ hi j hj => (mem_subtractIntervals hi).2 j hj⟩

theorem covered_append : Covered (intervals ++ holes) m ↔ Covered intervals m
    ∨ Covered holes m := by
  unfold Covered
  simp only [List.mem_append, or_and_right, exists_or]

end Partition

section Words

variable {R : Type} {words : List (Word R)} {word : Word R} {i : TimeInterval}

/-- The moment that decides to which interval a word belongs. -/
def Word.middle (word : Word R) : ℕ := (word.startMs + word.endMs) / 2

theorem mem_wordsOwnedBy : word ∈ wordsOwnedBy words i
    ↔ word ∈ words ∧ i.contains word.middle = true := List.mem_filter

end Words

/-- **Slices without overlap and overlap regions partition the speech**, and
the words. -/
theorem speech_partition {R : Type} [Field R] [LinearOrder R] (speech : List TimeInterval)
    (diarizationRegions osdRegions : List (OverlapRegion R)) (mergeGapMs minDurationMs : ℕ) :
    let regions := (mergeOverlapRegions diarizationRegions osdRegions mergeGapMs
      minDurationMs).map OverlapRegion.interval
    let slices := subtractIntervals speech regions
    (slices ++ regions).Pairwise Separate
    ∧ (∀ m, Covered speech m → ¬ Covered regions m → ∃! i, i ∈ slices ∧ i.contains m = true)
    ∧ (∀ i ∈ slices, ∀ m, i.contains m = true → Covered speech m ∧ ¬ Covered regions m)
    ∧ ∀ (words : List (Word R)) (word : Word R), word ∈ words →
      (∀ i ∈ slices ++ regions, ∀ j ∈ slices ++ regions,
        word ∈ wordsOwnedBy words i → word ∈ wordsOwnedBy words j → i = j)
      ∧ (Covered speech word.middle ∨ Covered regions word.middle →
        ∃! i, i ∈ slices ++ regions ∧ word ∈ wordsOwnedBy words i) := by
  intro regions slices
  have hregions : regions.Pairwise Separate :=
    List.pairwise_map.mpr (mergeOverlapRegions_pairwise diarizationRegions osdRegions mergeGapMs
      minDurationMs)
  have hparts : (slices ++ regions).Pairwise Separate := subtractIntervals_append_pairwise hregions
  refine ⟨hparts, fun m hm hclear => ?_, fun i hi m hm => ?_, fun words word hword => ⟨?_, ?_⟩⟩
  · exact existsUnique_of_covered (subtractIntervals_pairwise speech regions)
      (covered_subtractIntervals.mpr ⟨hm, hclear⟩)
  · exact covered_subtractIntervals.mp ⟨i, hi, hm⟩
  · intro i hi j hj hmi hmj
    exact eq_of_contains hparts hi hj (mem_wordsOwnedBy.mp hmi).2 (mem_wordsOwnedBy.mp hmj).2
  · intro hspoken
    have hcovered : Covered (slices ++ regions) word.middle := by
      rw [covered_append]
      by_cases hregion : Covered regions word.middle
      · exact Or.inr hregion
      · exact Or.inl (covered_subtractIntervals.mpr ⟨hspoken.resolve_right hregion, hregion⟩)
    obtain ⟨i, ⟨hi, hmi⟩, hunique⟩ := existsUnique_of_covered hparts hcovered
    exact ⟨i, ⟨hi, mem_wordsOwnedBy.mpr ⟨hword, hmi⟩⟩,
      fun j hj => hunique j ⟨hj.1, (mem_wordsOwnedBy.mp hj.2).2⟩⟩

end Sastt
