import Sastt.Application.MergedIntervals

/-!
# Stretches of a set of instants

A set of instants falls into stretches: intervals all of whose instants are in the set, and
none of whose neighbours is (`TimeInterval.StretchOf`). Of a list of intervals that do not
touch, the members are the stretches of what the list covers (`mem_iff_stretchOf`).

What `_subtract` leaves is such a list: it covers what the intervals cover and the holes do
not, and it is cut nowhere else (`mem_subtractIntervals_iff`).
-/

namespace Sastt

open TimeInterval

/-- **A stretch** of a set of instants. -/
structure TimeInterval.StretchOf (i : TimeInterval) (p : ℕ → Prop) : Prop where
  inside : ∀ m, i.contains m = true → p m
  starts : ∀ m, m + 1 = i.startMs → ¬ p m
  ends : ¬ p i.endMs

variable {i j hole : TimeInterval} {l intervals holes : List TimeInterval} {m : ℕ}
  {p q : ℕ → Prop}

theorem stretchOf_congr (h : ∀ m, p m ↔ q m) : i.StretchOf p ↔ i.StretchOf q := by
  rw [show p = q from funext (fun m => propext (h m))]

/-- **Intervals that do not touch are the stretches of what they cover.** -/
theorem mem_iff_stretchOf (hl : l.Pairwise (fun i j => i.endMs < j.startMs)) :
    i ∈ l ↔ i.StretchOf (Covered l) := by
  have hapart : ∀ {j k}, j ∈ l → k ∈ l → j ≠ k → j.Apart 0 k := apart_of_mem hl
  constructor
  · intro hi
    -- no other member covers an instant in `i`, or next to it
    have hself : ∀ {m}, i.startMs ≤ m + 1 → m ≤ i.endMs → Covered l m →
        i.contains m = true := by
      rintro m hstart hend ⟨k, hk, hm⟩
      by_contra hout
      have hne : i ≠ k := fun h => hout (h ▸ hm)
      rw [contains_iff] at hm
      rcases hapart hi hk hne with hbefore | hafter <;> omega
    refine ⟨fun m hm => ⟨i, hi, hm⟩, fun m hm hcovered => ?_, fun hcovered => ?_⟩
    · have hlt := i.start_lt_end
      have hin := contains_iff.mp (hself hm.ge (by omega) hcovered)
      omega
    · have hlt := i.start_lt_end
      have hin := contains_iff.mp (hself (by omega) le_rfl hcovered)
      omega
  · intro h
    obtain ⟨k, hk, hm⟩ := h.inside i.startMs (contains_iff.mpr ⟨le_rfl, i.start_lt_end⟩)
    have hin := contains_iff.mp hm
    have hstart : k.startMs = i.startMs := by
      by_contra hne
      have hbefore : k.contains (i.startMs - 1) = true := contains_iff.mpr (by omega)
      exact h.starts (i.startMs - 1) (by omega) ⟨k, hk, hbefore⟩
    have hend : k.endMs = i.endMs := by
      rcases lt_trichotomy k.endMs i.endMs with hlt | heq | hgt
      · -- `i` goes on where `k` ends, in another member, which `k` would touch
        obtain ⟨k', hk', hm'⟩ := h.inside k.endMs (contains_iff.mpr (by omega))
        have hin' := contains_iff.mp hm'
        have hne : k ≠ k' := fun heq => by
          subst heq
          omega
        rcases hapart hk hk' hne with hbefore | hafter <;> omega
      · exact heq
      · have hlt := i.start_lt_end
        exact absurd ⟨k, hk, contains_iff.mpr ⟨by omega, hgt⟩⟩ h.ends
    rwa [show i = k from Inside.antisymm ⟨hstart.le, hend.ge⟩ ⟨hstart.ge, hend.le⟩]

/-- What is left of an interval does not touch. -/
theorem minus_pairwise_lt (i hole : TimeInterval) :
    (i.minus hole).Pairwise (fun i j => i.endMs < j.startMs) := by
  unfold minus
  split
  · split <;> split
    · exact List.pairwise_pair.mpr hole.start_lt_end
    · exact List.pairwise_singleton _ _
    · exact List.pairwise_singleton _ _
    · exact List.Pairwise.nil
  · exact List.pairwise_singleton _ _

/-- **What is left does not touch**, and is in order. -/
theorem subtractIntervals_pairwise_lt (intervals holes : List TimeInterval) :
    (subtractIntervals intervals holes).Pairwise (fun i j => i.endMs < j.startMs) := by
  have hfold : ∀ (holes pieces : List TimeInterval),
      pieces.Pairwise (fun i j => i.endMs < j.startMs) →
      (holes.foldl (fun remaining hole => remaining.flatMap (·.minus hole)) pieces).Pairwise
        (fun i j => i.endMs < j.startMs) := by
    intro holes
    induction holes with
    | nil => exact fun _ h => h
    | cons hole holes ih =>
      refine fun pieces h => ih _ (List.pairwise_flatMap.mpr
        ⟨fun i _ => minus_pairwise_lt i hole, h.imp (fun hlt x hx y hy => ?_)⟩)
      exact (mem_minus hx).1.2.trans_lt (hlt.trans_le (mem_minus hy).1.1)
  exact hfold _ _ (mergeIntervals_pairwise intervals 0)

/-- **What is left covers what the intervals cover and the holes do not.** -/
theorem covered_subtractIntervals_iff :
    Covered (subtractIntervals intervals holes) m ↔ Covered intervals m ∧ ¬ Covered holes m := by
  constructor
  · rintro ⟨i, hi, hm⟩
    obtain ⟨⟨j, hj, hin⟩, hclear⟩ := mem_subtractIntervals hi
    refine ⟨exists_mem_of_mergeIntervals hj (hin.contains hm), ?_⟩
    rintro ⟨hole, hhole, hmhole⟩
    rw [contains_iff] at hm hmhole
    rcases hclear hole hhole with hbefore | hafter <;> omega
  · rintro ⟨⟨i, hi, hm⟩, hholes⟩
    obtain ⟨j, hj, hin⟩ := exists_mem_mergeIntervals 0 hi
    exact (exists_mem_subtractIntervals hj (hin.contains hm)).resolve_left hholes

/-- **What `_subtract` leaves** are the stretches outside the holes. -/
theorem mem_subtractIntervals_iff : i ∈ subtractIntervals intervals holes
    ↔ i.StretchOf (fun m => Covered intervals m ∧ ¬ Covered holes m) :=
  (mem_iff_stretchOf (subtractIntervals_pairwise_lt intervals holes)).trans
    (stretchOf_congr (fun _ => covered_subtractIntervals_iff))

theorem covered_mergeIntervals_iff :
    Covered (mergeIntervals intervals 0) m ↔ Covered intervals m := by
  constructor
  · rintro ⟨i, hi, hm⟩
    exact exists_mem_of_mergeIntervals hi hm
  · rintro ⟨i, hi, hm⟩
    obtain ⟨j, hj, hin⟩ := exists_mem_mergeIntervals 0 hi
    exact ⟨j, hj, hin.contains hm⟩

end Sastt
