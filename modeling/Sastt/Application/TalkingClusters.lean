import Mathlib.Order.Interval.Finset.Nat
import Mathlib.Order.Lattice.Nat
import Sastt.Application.IntervalSets
import Sastt.Application.OverlapRegions

/-!
# Who talks at an instant

A diarizer gives turns, and a turn of a cluster says that somebody talks at each instant of
it (`talkingAt`). Over a stretch of time two numbers can be read off: how many clusters talk
anywhere in it (`activeClusters`), and how many talk at once, where that is most (`peak`).

The first is never smaller. The two agree exactly if at some instant everybody talks who
talks anywhere in the stretch (`length_activeClusters_le_peak_iff`).
-/

namespace Sastt

variable {R : Type}

/-- **The clusters that talk at an instant.** -/
def talkingAt (turns : List (SpeakerTurn R)) (m : ℕ) : List String :=
  ((turns.filter (fun turn => turn.interval.contains m)).map SpeakerTurn.clusterId).dedup

/-- **How many talk at once**, at the instant where that is most. -/
def peak (turns : List (SpeakerTurn R)) (i : TimeInterval) : ℕ :=
  (Finset.Ico i.startMs i.endMs).sup (fun m => (talkingAt turns m).length)

variable {turns : List (SpeakerTurn R)} {i : TimeInterval} {m n : ℕ} {cluster : String}

@[simp] theorem mem_talkingAt : cluster ∈ talkingAt turns m ↔
    ∃ turn ∈ turns, turn.interval.contains m = true ∧ turn.clusterId = cluster := by
  simp [talkingAt, and_assoc]

theorem talkingAt_nodup (turns : List (SpeakerTurn R)) (m : ℕ) : (talkingAt turns m).Nodup :=
  List.nodup_dedup _

theorem peak_le_iff : peak turns i ≤ n ↔
    ∀ m, i.contains m = true → (talkingAt turns m).length ≤ n := by
  simp only [peak, Finset.sup_le_iff, Finset.mem_Ico, TimeInterval.contains_iff]

/-- No more talk at an instant than where that is most. -/
theorem length_talkingAt_le_peak (hm : i.contains m = true) :
    (talkingAt turns m).length ≤ peak turns i :=
  peak_le_iff.mp (le_refl _) m hm

/-- There is an instant where most talk. -/
theorem exists_length_talkingAt (turns : List (SpeakerTurn R)) (i : TimeInterval) :
    ∃ m, i.contains m = true ∧ (talkingAt turns m).length = peak turns i := by
  have hne : (Finset.Ico i.startMs i.endMs).Nonempty := Finset.nonempty_Ico.mpr i.start_lt_end
  obtain ⟨m, hm, hpeak⟩ := Finset.exists_mem_eq_sup _ hne (fun m => (talkingAt turns m).length)
  exact ⟨m, TimeInterval.contains_iff.mpr (Finset.mem_Ico.mp hm), hpeak.symm⟩

/-- Intervals intersect if they have an instant in common. -/
theorem TimeInterval.intersects_iff {i j : TimeInterval} : i.intersects j = true ↔
    ∃ m, i.contains m = true ∧ j.contains m = true := by
  simp only [TimeInterval.intersects, TimeInterval.contains_iff, Bool.and_eq_true,
    decide_eq_true_eq]
  constructor
  · rintro ⟨hij, hji⟩
    exact ⟨max i.startMs j.startMs, ⟨le_max_left _ _, max_lt i.start_lt_end hji⟩,
      le_max_right _ _, max_lt hij j.start_lt_end⟩
  · rintro ⟨m, hi, hj⟩
    exact ⟨hi.1.trans_lt hj.2, hj.1.trans_lt hi.2⟩

namespace OfflinePipeline

variable [Field R] [LinearOrder R] [IsStrictOrderedRing R] {d : DiarizationResult R}

section

omit [Field R] [LinearOrder R] [IsStrictOrderedRing R]

/-- The clusters of a stretch are those that talk at an instant of it. -/
theorem mem_activeClusters : cluster ∈ activeClusters d i ↔
    ∃ m, i.contains m = true ∧ cluster ∈ talkingAt d.regularTracks m := by
  simp only [activeClusters, List.mem_dedup, List.mem_map, List.mem_filter,
    TimeInterval.intersects_iff, mem_talkingAt]
  constructor
  · rintro ⟨turn, ⟨hturn, m, hm, hi⟩, rfl⟩
    exact ⟨m, hi, turn, hturn, hm, rfl⟩
  · rintro ⟨m, hi, turn, hturn, hm, rfl⟩
    exact ⟨turn, ⟨hturn, m, hm, hi⟩, rfl⟩

/-- Who talks at an instant of a stretch talks in it. -/
theorem talkingAt_subperm (hm : i.contains m = true) :
    (talkingAt d.regularTracks m).Subperm (activeClusters d i) :=
  List.subperm_of_subset (talkingAt_nodup _ _)
    (fun _ hcluster => mem_activeClusters.mpr ⟨m, hm, hcluster⟩)

/-- **As many talk at once as in the whole stretch** exactly if at some instant all of them
do. -/
theorem length_activeClusters_le_peak_iff :
    (activeClusters d i).length ≤ peak d.regularTracks i
      ↔ ∃ m, i.contains m = true ∧ activeClusters d i ⊆ talkingAt d.regularTracks m := by
  constructor
  · intro hle
    obtain ⟨m, hm, hpeak⟩ := exists_length_talkingAt d.regularTracks i
    have hperm := (talkingAt_subperm hm).perm_of_length_le (hpeak ▸ hle)
    exact ⟨m, hm, hperm.symm.subset⟩
  · rintro ⟨m, hm, hall⟩
    exact (List.subperm_of_subset (List.nodup_dedup _) hall).length_le.trans
      (length_talkingAt_le_peak hm)

end

end OfflinePipeline

end Sastt
