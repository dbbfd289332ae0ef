import Sastt.Application.TalkingClusters
import Sastt.Lib.Slots

/-!
# The overlap regions of a diarizer

The diarizer finds the overlap regions in its own turns. The starts and ends of the turns
cut the time into slots, in each of which the same turns are active all along; the slots with
two turns or more are kept, and those that touch are merged.

So an instant is in a region exactly if two turns are active at it
(`contains_overlapRegionsFromTurns_iff`). A region is meant to be where more than one
speaker is active, and that is the same as long as no cluster has two turns at an instant
at which it talks alone (`overlaps_exact_iff`).
-/

namespace Sastt

variable {R : Type}

/-- The starts and ends of turns, in order. -/
def edges (turns : List (SpeakerTurn R)) : List ℕ :=
  (turns.flatMap (fun turn => [turn.interval.startMs, turn.interval.endMs])).dedup.insertionSort
    (· ≤ ·)

/-- The slots between the edges in which two turns are active. -/
def overlapSlots (turns : List (SpeakerTurn R)) : List TimeInterval :=
  (slots (edges turns)).filterMap fun (start, stop) =>
    if h : start < stop then
      let slot : TimeInterval := ⟨start, stop, h⟩
      if 2 ≤ turns.countP (fun turn => 0 < turn.interval.intersectionMs slot) then some slot
      else none
    else none

/-- **`_overlap_regions_from_turns`.** -/
def overlapRegionsFromTurns (turns : List (SpeakerTurn R)) (modelVersion : String) :
    List (OverlapRegion R) :=
  (mergeIntervals (overlapSlots turns) 0).map fun interval => { interval, modelVersion }

/-- The turns that are active at an instant. -/
def turnsAt (turns : List (SpeakerTurn R)) (m : ℕ) : List (SpeakerTurn R) :=
  turns.filter (fun turn => turn.interval.contains m)

variable {turns : List (SpeakerTurn R)} {m : ℕ} {modelVersion : String}

@[simp] theorem mem_edges {x : ℕ} : x ∈ edges turns
    ↔ ∃ turn ∈ turns, x = turn.interval.startMs ∨ x = turn.interval.endMs := by
  simp [edges]

/-- The edges are in order, each once. -/
theorem edges_pairwise (turns : List (SpeakerTurn R)) : (edges turns).Pairwise (· < ·) := by
  have hnodup : (edges turns).Nodup :=
    (List.perm_insertionSort _ _).nodup_iff.mpr (List.nodup_dedup _)
  exact ((List.pairwise_insertionSort (· ≤ ·) _).and hnodup).imp
    (fun h => lt_of_le_of_ne h.1 h.2)

/-- **A slot is all of a turn or nothing of it**: the turn meets the slot exactly if it is
active at an instant of it. -/
theorem intersectionMs_slot_pos_iff {turn : SpeakerTurn R} {slot : TimeInterval}
    (hslot : (slot.startMs, slot.endMs) ∈ slots (edges turns)) (hturn : turn ∈ turns)
    (hm : slot.contains m = true) :
    0 < turn.interval.intersectionMs slot ↔ turn.interval.contains m = true := by
  obtain ⟨-, hnone⟩ := le_or_le_of_mem_slots (edges_pairwise turns) hslot
  have hstart := hnone turn.interval.startMs (mem_edges.mpr ⟨turn, hturn, Or.inl rfl⟩)
  have hend := hnone turn.interval.endMs (mem_edges.mpr ⟨turn, hturn, Or.inr rfl⟩)
  rw [TimeInterval.contains_iff] at hm ⊢
  unfold TimeInterval.intersectionMs
  omega

/-- A turn that is active lies in a slot. -/
theorem exists_slot (h : turnsAt turns m ≠ []) :
    ∃ slot : TimeInterval, (slot.startMs, slot.endMs) ∈ slots (edges turns)
      ∧ slot.contains m = true := by
  obtain ⟨turn, hturn⟩ := List.exists_mem_of_ne_nil _ h
  obtain ⟨hturn, hactive⟩ := List.mem_filter.mp hturn
  rw [TimeInterval.contains_iff] at hactive
  obtain ⟨⟨start, stop⟩, hslot, hstart, hstop⟩ := exists_mem_slots (edges_pairwise turns)
    (mem_edges.mpr ⟨turn, hturn, Or.inl rfl⟩) hactive.1
    (mem_edges.mpr ⟨turn, hturn, Or.inr rfl⟩) hactive.2
  exact ⟨⟨start, stop, hstart.trans_lt hstop⟩, hslot,
    TimeInterval.contains_iff.mpr ⟨hstart, hstop⟩⟩

/-- The slots that are kept. -/
theorem mem_overlapSlots {slot : TimeInterval} : slot ∈ overlapSlots turns
    ↔ (slot.startMs, slot.endMs) ∈ slots (edges turns)
      ∧ 2 ≤ turns.countP (fun turn => 0 < turn.interval.intersectionMs slot) := by
  simp only [overlapSlots, List.mem_filterMap]
  constructor
  · rintro ⟨⟨start, stop⟩, hslot, hkept⟩
    dsimp only at hkept
    split_ifs at hkept with hlt htwo
    obtain rfl := Option.some.inj hkept
    exact ⟨hslot, htwo⟩
  · rintro ⟨hslot, htwo⟩
    refine ⟨_, hslot, ?_⟩
    dsimp only
    rw [dif_pos slot.start_lt_end, if_pos htwo]

/-- **An instant is in a region exactly if two turns are active at it.** -/
theorem contains_overlapRegionsFromTurns_iff :
    (∃ region ∈ overlapRegionsFromTurns turns modelVersion, region.interval.contains m = true)
      ↔ 2 ≤ (turnsAt turns m).length := by
  have hcount : ∀ slot : TimeInterval, (slot.startMs, slot.endMs) ∈ slots (edges turns) →
      slot.contains m = true →
      turns.countP (fun turn => 0 < turn.interval.intersectionMs slot)
        = (turnsAt turns m).length := by
    intro slot hslot hm
    unfold turnsAt
    rw [← List.countP_eq_length_filter]
    refine List.countP_congr (fun turn hturn => ?_)
    simpa using intersectionMs_slot_pos_iff hslot hturn hm
  constructor
  · rintro ⟨region, hregion, hm⟩
    obtain ⟨interval, hinterval, rfl⟩ := List.mem_map.mp hregion
    obtain ⟨slot, hslot, hmslot⟩ := exists_mem_of_mergeIntervals hinterval hm
    obtain ⟨hmem, htwo⟩ := mem_overlapSlots.mp hslot
    rwa [hcount slot hmem hmslot] at htwo
  · intro htwo
    have hne : turnsAt turns m ≠ [] := fun h => by simp [h] at htwo
    obtain ⟨slot, hslot, hm⟩ := exists_slot hne
    have hkept : slot ∈ overlapSlots turns :=
      mem_overlapSlots.mpr ⟨hslot, (hcount slot hslot hm).symm ▸ htwo⟩
    obtain ⟨interval, hinterval, hinside⟩ := exists_mem_mergeIntervals 0 hkept
    refine ⟨_, List.mem_map_of_mem hinterval, ?_⟩
    exact hinside.contains hm

/-- **The regions are in order and do not touch.** -/
theorem overlapRegionsFromTurns_pairwise (turns : List (SpeakerTurn R)) (modelVersion : String) :
    (overlapRegionsFromTurns turns modelVersion).Pairwise
      (fun r r' => r.interval.endMs < r'.interval.startMs) :=
  List.pairwise_map.mpr (mergeIntervals_pairwise (overlapSlots turns) 0)

/-- **The regions are where more than one speaker is active**, in order and apart. -/
structure FindsOverlaps (turns : List (SpeakerTurn R)) (regions : List (OverlapRegion R)) :
    Prop where
  contains_iff : ∀ m, (∃ region ∈ regions, region.interval.contains m = true)
    ↔ 2 ≤ (talkingAt turns m).length
  apart : regions.Pairwise (fun r r' => r.interval.endMs < r'.interval.startMs)

theorem length_talkingAt_le (turns : List (SpeakerTurn R)) (m : ℕ) :
    (talkingAt turns m).length ≤ (turnsAt turns m).length :=
  (List.dedup_sublist _).length_le.trans_eq (List.length_map _)

/-- **When the overlaps are found exactly**: no cluster has two turns at an instant at which it
talks alone. In any case an instant is in a region exactly if two turns are active at it. -/
theorem overlaps_exact_iff (turns : List (SpeakerTurn R)) (modelVersion : String) :
    (FindsOverlaps turns (overlapRegionsFromTurns turns modelVersion)
        ↔ ∀ m cluster, talkingAt turns m = [cluster] → (turnsAt turns m).length ≤ 1)
      ∧ (∀ m, (∃ region ∈ overlapRegionsFromTurns turns modelVersion,
          region.interval.contains m = true) ↔ 2 ≤ (turnsAt turns m).length)
      ∧ (overlapRegionsFromTurns turns modelVersion).Pairwise
        (fun r r' => r.interval.endMs < r'.interval.startMs) := by
  refine ⟨⟨fun h m cluster hone => ?_, fun h => ⟨fun m => ?_, ?_⟩⟩,
    fun m => contains_overlapRegionsFromTurns_iff, overlapRegionsFromTurns_pairwise _ _⟩
  · by_contra htwo
    have hin := (h.contains_iff m).mp
      (contains_overlapRegionsFromTurns_iff.mpr (not_le.mp htwo))
    rw [hone] at hin
    exact Nat.not_succ_le_self 1 hin
  · rw [contains_overlapRegionsFromTurns_iff]
    refine ⟨fun htwo => ?_, fun htwo => htwo.trans (length_talkingAt_le turns m)⟩
    rcases htalking : talkingAt turns m with _ | ⟨cluster, _ | ⟨other, rest⟩⟩
    · obtain ⟨turn, hturn⟩ :=
        List.exists_mem_of_length_pos (zero_lt_two.trans_le htwo)
      obtain ⟨hmem, hactive⟩ := List.mem_filter.mp hturn
      have htalks : turn.clusterId ∈ talkingAt turns m :=
        mem_talkingAt.mpr ⟨turn, hmem, hactive, rfl⟩
      rw [htalking] at htalks
      cases htalks
    · exact absurd htwo (not_le.mpr (Nat.lt_succ_of_le (h m cluster htalking)))
    · exact Nat.le_add_left 2 _
  · exact overlapRegionsFromTurns_pairwise _ _

/-- Two turns of one cluster, one after the start of the other. -/
def twoTurnsOfOne : List (SpeakerTurn ℚ) := [
  { clusterId := "cluster_A", interval := firstMs 1000 },
  { clusterId := "cluster_A", interval := ⟨500, 1500, by decide⟩ }]

/-- **One speaker is enough for an overlap region.** -/
theorem one_speaker_overlaps :
    (overlapRegionsFromTurns twoTurnsOfOne "pyannote").map OverlapRegion.interval
        = [⟨500, 1000, by decide⟩]
      ∧ ¬ FindsOverlaps twoTurnsOfOne (overlapRegionsFromTurns twoTurnsOfOne "pyannote") := by
  have hregions : (overlapRegionsFromTurns twoTurnsOfOne "pyannote").map OverlapRegion.interval
      = [⟨500, 1000, by decide⟩] := by
    decide +kernel
  refine ⟨hregions, fun h => ?_⟩
  have hin : 2 ≤ (talkingAt twoTurnsOfOne 500).length := by
    refine (h.contains_iff 500).mp ?_
    obtain ⟨region, hregion, hinterval⟩ := List.mem_map.mp
      (hregions ▸ List.mem_singleton_self (⟨500, 1000, by decide⟩ : TimeInterval))
    exact ⟨region, hregion, hinterval ▸ by decide⟩
  exact absurd hin (by decide)

end Sastt
