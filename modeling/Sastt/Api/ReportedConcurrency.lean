import Sastt.Api.PublishedContract
import Sastt.Application.TalkingClusters

/-!
# The concurrency that is reported

The number that goes with the segments of an overlap region, and that routes it, is the
number of clusters that talk anywhere in the region, and is meant to be. How many talk at
once is a matter of instants: a chain of people who each talk over the next one is counted
as all of them, although no more than two ever talk at once, and is refused separation.

As many talk at once exactly if at some instant of the region all talk who talk anywhere in
it (`AllTalkAtOnce`). What is published is the number of a region, and no other
(`region_wordGroups`).
-/

namespace Sastt

open Method OfflinePipeline

variable {R V S : Type} [Field R] [LinearOrder R] [IsStrictOrderedRing R]

/-- What the pipeline makes of the turns over a region. -/
def regionEstimate (config : SasttConfig R) (d : DiarizationResult R) (i : TimeInterval) :
    SourceCountEstimate R :=
  estimateSourceCount (countingEvidence (some d) i) config

/-- **The count of a region is of people who talk at once.** -/
structure CountsConcurrency (config : SasttConfig R) (d : DiarizationResult R)
    (i : TimeInterval) : Prop where
  evidence : ∀ k ∈ (countingEvidence (some d) i).diarizationActiveSpeakers,
    k ≤ max 1 (peak d.regularTracks i)
  /-- Where nobody talks, two are assumed. -/
  count : activeClusters d i ≠ [] →
    ∀ k ∈ (regionEstimate config d i).count, k ≤ max 1 (peak d.regularTracks i)
  /-- A region in which no more than two talk at once is not refused separation. -/
  routed : peak d.regularTracks i ≤ 2 →
    (routeOverlap (regionEstimate config d i) config (countingEvidence (some d) i) true).route
      = .separateTwoSource

/-- **At some instant of the region all talk who talk anywhere in it.** -/
def AllTalkAtOnce (d : DiarizationResult R) (i : TimeInterval) : Prop :=
  ∃ m, i.contains m = true ∧ activeClusters d i ⊆ talkingAt d.regularTracks m

variable {config : SasttConfig R} {d : DiarizationResult R} {i : TimeInterval}

omit [Field R] [LinearOrder R] [IsStrictOrderedRing R] in
/-- The evidence is the number of clusters of the region. -/
theorem mem_countingEvidence {k : ℕ} :
    k ∈ (countingEvidence (some d) i).diarizationActiveSpeakers
      ↔ activeClusters d i ≠ [] ∧ k = (activeClusters d i).length := by
  unfold countingEvidence
  rw [Option.map_some]
  cases activeClusters d i with
  | nil => exact iff_of_false nofun (fun h => h.1 rfl)
  | cons cluster clusters =>
    show some _ = some k ↔ _
    rw [Option.some_inj, eq_comm]
    exact (and_iff_right (List.cons_ne_nil _ _)).symm

/-- So is the estimate, or two if there are none. -/
theorem count_regionEstimate : (regionEstimate config d i).count
    = some (if activeClusters d i = [] then 2 else (activeClusters d i).length) := by
  unfold regionEstimate countingEvidence
  rw [Option.map_some]
  cases activeClusters d i with
  | nil => rfl
  | cons cluster clusters =>
    rw [if_neg (List.cons_ne_nil _ _)]
    exact congrArg some (max_eq_right (Nat.succ_pos _))

/-- What is counted as two at most is separated. -/
theorem route_of_le_two {count : SourceCountEstimate R} (h : count.count.getD 2 ≤ 2)
    (config : SasttConfig R) (evidence : CountingEvidence R) :
    (routeOverlap count config evidence true).route = .separateTwoSource := by
  unfold routeOverlap
  dsimp only
  rw [if_neg (by simp), if_pos h]

omit [Field R] [LinearOrder R] [IsStrictOrderedRing R] in
/-- One cluster talks at some instant. -/
theorem one_le_peak (h : activeClusters d i ≠ []) : 1 ≤ peak d.regularTracks i := by
  obtain ⟨cluster, hcluster⟩ := List.exists_mem_of_ne_nil _ h
  obtain ⟨m, hm, htalks⟩ := mem_activeClusters.mp hcluster
  exact (List.length_pos_of_mem htalks).trans_le (length_talkingAt_le_peak hm)

/-- **The count is right exactly if all talk at once.** -/
theorem countsConcurrency_iff : CountsConcurrency config d i ↔ AllTalkAtOnce d i := by
  constructor
  · intro h
    refine length_activeClusters_le_peak_iff.mp ?_
    by_cases hnone : activeClusters d i = []
    · rw [hnone]
      exact Nat.zero_le _
    · have hle := h.evidence _ (mem_countingEvidence.mpr ⟨hnone, rfl⟩)
      rwa [max_eq_right (one_le_peak hnone)] at hle
  · intro h
    have hle := length_activeClusters_le_peak_iff.mpr h
    refine ⟨fun k hk => ?_, fun hsome k hk => ?_, fun htwo => route_of_le_two ?_ _ _⟩
    · obtain ⟨-, rfl⟩ := mem_countingEvidence.mp hk
      exact hle.trans (le_max_right _ _)
    · rw [count_regionEstimate, if_neg hsome] at hk
      obtain rfl := Option.some.inj hk
      exact hle.trans (le_max_right _ _)
    · rw [count_regionEstimate, Option.getD_some]
      split
      · exact le_refl 2
      · exact hle.trans htwo

variable [AddCommGroup V] [Module R V] [EmbeddingSpace R V]

/-- **The number a segment is published with** is that of an overlap region of the run. -/
theorem region_of_run {p : OfflinePipeline R} {c : RunContext R} {models : OfflineModels R V S}
    {ulids : ℕ → String} {pinned : Option String} {mono : AudioBuffer S}
    {osd : List (OverlapRegion R)} {result : OfflineResult R}
    (hmono : p.decodedMono models.decoded = .ok mono) (hd : models.diarizer mono = .ok d)
    (hosd : models.overlapDetector mono = .ok osd)
    (hok : p.run c models ulids pinned = .ok result) :
    ∀ seg ∈ result.segments, seg.estimatedConcurrentSpeakers = none
      ∨ ∃ region ∈ mergeOverlapRegions d.overlapRegions osd
          (secondsToMs p.config.overlapDetection.mergeGapSeconds)
          (secondsToMs p.config.overlapDetection.minDurationSeconds),
        seg.estimatedConcurrentSpeakers = (regionEstimate p.config d region.interval).count := by
  obtain ⟨_, _, _, _, segments, _, _, _, _, hmono', hd', hosd', -, hgroups, -, hfused, hall⟩ :=
    stages_of_run hok
  obtain rfl := Except.ok.inj (hmono'.symm.trans hmono)
  obtain rfl := Except.ok.inj (hd'.symm.trans hd)
  obtain rfl := Except.ok.inj (hosd'.symm.trans hosd)
  intro seg hseg
  have hmem : seg ∈ segments := (List.perm_insertionSort _ _).mem_iff.mp (hall ▸ hseg)
  obtain ⟨g, hg, hstamped⟩ := FusionEngine.stamped_fuse _ _ _ hfused seg hmem
  rw [hstamped.count]
  exact region_wordGroups _ _ _ _ hgroups g hg

section Example

/-- A chain of three people, of whom each talks over the next one. -/
def chain : DiarizationResult ℚ := .found
  [{ clusterId := "A", interval := firstMs 1000 },
    { clusterId := "B", interval := ⟨600, 1400, by decide⟩ },
    { clusterId := "C", interval := ⟨1000, 2000, by decide⟩ }]
  [⟨600, 1000, by decide⟩, ⟨1000, 1400, by decide⟩]

/-- Two seconds of audio, -/
def twoSeconds : AudioAsset Unit where
  durationMs := 2000
  mono := fortySamples

/-- and the models that hear them in it. -/
def chainModels : OfflineModels ℚ ℚ Unit where
  decoded := .ok twoSeconds
  adapters := {
    vad := fun _ buffer => .ok [buffer.interval]
    transcribe := fun _ _ _ _ => .ok {
      words := [{ text := "yes", startMs := 1050, endMs := 1150, start_lt_end := by decide }]
      detectedLanguage := "en"
      languageScore := none
      modelVersion := "whisper" }
    embed := fun _ _ _ _ _ _ => noVoice }
  diarizer _ := .ok chain
  overlapDetector _ := .ok []
  detectLanguage _ := .ok ("en", 1)

/-- The pipeline, as it is configured unless told otherwise. -/
def plainPipeline : OfflinePipeline ℚ where
  config := {}
  linearSumAssignment := fun h _ => Fin.castLE h

/-- What the recording comes to. -/
def chainResult : Except PyError (OfflineResult ℚ) :=
  plainPipeline.run .ofSession chainModels toString none

/-- The overlap regions of the run. -/
def chainRegions : List (OverlapRegion ℚ) :=
  mergeOverlapRegions chain.overlapRegions []
    (secondsToMs plainPipeline.config.overlapDetection.mergeGapSeconds)
    (secondsToMs plainPipeline.config.overlapDetection.minDurationSeconds)

end Example

end Sastt
