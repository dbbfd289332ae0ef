import Sastt.Api.Schemas
import Sastt.Application.FinalSpeakers
import Sastt.Application.FusedWords
import Sastt.Application.RegionGroups
import Sastt.Application.SpeakerSlots

/-!
# Everything published conforms

What the schema asks of a segment and its constructor does not is that of a run. The
ids are not empty, because the run drew them, or the registry was asked for them. And
no more than five people are said to talk at once, because so many speakers is the most
a session holds: every cluster of the diarizer has a speaker of its own before anything
is counted (`clusterIds_of_buildGlobalSpeakers`), and what is counted is clusters.
-/

namespace Sastt

open Method

variable {R V S : Type} [Field R] [LinearOrder R] [IsStrictOrderedRing R]

/-! ## How many talk at once -/

omit [Field R] [LinearOrder R] [IsStrictOrderedRing R] in
/-- The clusters of an interval are among those of the recording. -/
theorem length_activeClusters_le (d : DiarizationResult R) (interval : TimeInterval) :
    (OfflinePipeline.activeClusters d interval).length ≤ d.clusterIds.length := by
  refine (List.subperm_of_subset (List.nodup_dedup _) (fun cluster hcluster => ?_)).length_le
  obtain ⟨turn, hturn, rfl⟩ := List.mem_map.mp (List.mem_dedup.mp hcluster)
  have hmem : turn ∈ d.regularTracks.insertionSort
      (fun t u => t.interval.startMs ≤ u.interval.startMs) :=
    (List.mem_insertionSort _).mpr (List.mem_filter.mp hturn).1
  exact (Session.clusters_spec _ [] List.nodup_nil).2.2 turn hmem

/-- **What is counted** is at least one, and at most the clusters, or two if there are
none. -/
theorem count_estimateSourceCount {d : DiarizationResult R} {n : ℕ} (htwo : 2 ≤ n)
    (hd : d.clusterIds.length ≤ n) (interval : TimeInterval) (config : SasttConfig R) :
    ∀ k ∈ (estimateSourceCount
      (OfflinePipeline.countingEvidence (some d) interval) config).count, 1 ≤ k ∧ k ≤ n := by
  have hle := (length_activeClusters_le d interval).trans hd
  unfold OfflinePipeline.countingEvidence
  rw [Option.map_some]
  cases hactive : OfflinePipeline.activeClusters d interval with
  | nil =>
    rintro k hk
    cases hk
    exact ⟨one_le_two, htwo⟩
  | cons cluster clusters =>
    rintro k hk
    cases hk
    rw [hactive] at hle
    exact ⟨le_max_left _ _, max_le (one_le_two.trans htwo) hle⟩

variable [AddCommGroup V] [Module R V] [EmbeddingSpace R V]

/-- **A recording has no more clusters than a new session has places**, or registering
their speakers raises. -/
theorem clusterIds_of_buildGlobalSpeakers {ulids : ℕ → String} (hu : Function.Injective ulids)
    {sessionId version : String} {config : SasttConfig R} {adapters : PipelineAdapters R V S}
    {diarization : DiarizationResult R} {regions : List (OverlapRegion R)} {mono : AudioBuffer S}
    {s : Session R V}
    (hok : buildGlobalSpeakers adapters ulids diarization regions mono
      ⟨.new sessionId config version, 0⟩ = (.ok (), s)) :
    diarization.clusterIds.length ≤ config.product.maxSessionSpeakers := by
  have hready : Session.Ready ulids [] (⟨.new sessionId config version, 0⟩ : Session R V) :=
    ⟨SessionSpeakerState.wellFormed_new _ _ _, fun _ hid => absurd hid List.not_mem_nil, nofun⟩
  have hunnamed : (SessionSpeakerState.new sessionId config version :
      SessionSpeakerState R V).unnamed diarization.clusterIds = diarization.clusterIds :=
    List.filter_eq_self.mpr (fun cluster _ => decide_eq_true (fun h => nomatch h))
  by_contra hmore
  have hfull : ¬ (SessionSpeakerState.new sessionId config version :
      SessionSpeakerState R V).Room diarization.clusterIds := by
    unfold SessionSpeakerState.Room
    rw [hunnamed]
    rintro (hnone | hroom)
    · rw [hnone] at hmore
      exact hmore (Nat.zero_le _)
    · exact hmore ((Nat.le_add_left _ _).trans hroom)
  obtain ⟨e, t, herror, -⟩ := Session.buildGlobalSpeakers_of_full hu hready adapters diarization
    regions mono hfull
  rw [herror] at hok
  cases hok

namespace OfflinePipeline

variable {p : OfflinePipeline R} {ulids : ℕ → String}

/-- **A word group says how many talk in its region**, or nothing, if it is speech of one
person. -/
theorem region_wordGroups {models : OfflineModels R V S} {pinned : Option String}
    {mono : AudioBuffer S} {diarization : DiarizationResult R} (regions : List (OverlapRegion R)) :
    Returns (fun r => ∀ g ∈ r.1, g.estimatedConcurrentSpeakers = none
        ∨ ∃ region ∈ regions, g.estimatedConcurrentSpeakers
          = (estimateSourceCount (countingEvidence (some diarization) region.interval)
            p.config).count)
      (p.wordGroups models ulids pinned mono diarization regions) := by
  refine returns_bind (returns_of_true _) (fun speech _ => returns_bind (returns_of_true _)
    (fun language _ => returns_bind (returns_ofExcept (fun r h => count_of_transcribeSlices h))
      (fun alone halone => ?_)))
  refine returns_bind (returns_mapEach (fun x _ => groups_of_handleOverlapRegion _))
    (fun together htogether => returns_pure (fun g hg => ?_))
  rcases List.mem_append.mp hg with hg | hg
  · exact Or.inl (halone g hg)
  · obtain ⟨r, hr, hg⟩ := List.mem_flatMap.mp hg
    obtain ⟨x, hx, hgroups⟩ := exists_of_forall₂ htogether hr
    obtain ⟨slice, hfrom⟩ := hgroups g hg
    have hroute : ∀ (count : SourceCountEstimate R) (config : SasttConfig R) evidence osdPositive,
        (routeOverlap count config evidence osdPositive).count = count := by
      intro count config evidence osdPositive
      unfold routeOverlap
      dsimp only
      split_ifs <;> rfl
    refine Or.inr ⟨x.1, List.fst_mem_of_mem_zipIdx hx, ?_⟩
    rw [hfrom.count, hroute]
    rfl

/-- **What the word groups of a recording say** about how many talk at once. -/
theorem count_wordGroups {models : OfflineModels R V S} {pinned : Option String}
    {mono : AudioBuffer S} {diarization : DiarizationResult R} {n : ℕ} (htwo : 2 ≤ n)
    (hd : diarization.clusterIds.length ≤ n) (regions : List (OverlapRegion R)) :
    Returns (fun r => ∀ g ∈ r.1, ∀ k ∈ g.estimatedConcurrentSpeakers, 1 ≤ k ∧ k ≤ n)
      (p.wordGroups models ulids pinned mono diarization regions) := by
  intro s r t hok g hg k hk
  rcases region_wordGroups regions s r t hok g hg with hnone | ⟨region, -, hcount⟩
  · rw [hnone] at hk
    cases hk
  · exact count_estimateSourceCount htwo hd region.interval _ k (hcount ▸ hk)

end OfflinePipeline

/-! ## What a segment is stamped with -/

namespace FusionEngine

/-- **The ids of a segment**, and how many talk in it, as its group says. -/
structure Stamped (engine : FusionEngine R) (group : WordGroup R) (seg : TranscriptSegment R) :
    Prop where
  version : seg.schemaVersion = "2.0"
  session : seg.sessionId = engine.sessionId
  event : seg.eventId ≠ ""
  /-- A speaker that has an id is published under one. -/
  speaker : seg.sessionSpeakerId ≠ "" → seg.speakerId ≠ ""
  count : seg.estimatedConcurrentSpeakers = group.estimatedConcurrentSpeakers

section

omit [AddCommGroup V] [Module R V] [EmbeddingSpace R V]

theorem stamped_segmentOf (engine : FusionEngine R) (ulids : ℕ → String) (isFinal : Bool)
    (revision : ℕ) (supersedes : Option String) (u : Utterance R) :
    Returns (engine.Stamped u.group)
      (engine.segmentOf (V := V) ulids isFinal revision supersedes u) := by
  intro s seg s' hok
  unfold segmentOf at hok
  rw [read_bind] at hok
  obtain ⟨speaker, s₁, -, hok⟩ := bind_eq_ok.mp hok
  obtain ⟨ulid, s₂, -, hok⟩ := bind_eq_ok.mp hok
  obtain ⟨hnew, -⟩ := ofExcept_eq_ok.mp hok
  have hfields := TranscriptSegment.new_eq_ok hnew
  constructor <;> rw [hfields]
  · intro h
    have hlength := congrArg String.length h
    rw [String.length_append] at hlength
    exact absurd hlength (by simp)
  · intro h
    show speaker.publicSpeakerId ≠ ""
    unfold SessionSpeaker.publicSpeakerId
    split
    · split
      · exact h
      · next hne => exact hne
    · exact h

/-- An utterance is one of the groups it was coalesced from. -/
theorem group_mem_of_coalesce {engine : FusionEngine R} {ulids : ℕ → String}
    {groups : List (WordGroup R)} {turns : List (SpeakerTurn R)} {us : List (Utterance R)}
    {s s' : Session R V} (hok : engine.coalesce ulids groups turns s = (.ok us, s')) :
    ∀ u ∈ us, u.group ∈ groups := by
  obtain ⟨uss, s₁, huss, hok⟩ := bind_eq_ok.mp hok
  cases hok
  obtain ⟨attributed, -, hgroups, hall⟩ := coalesceGroups_eq huss
  intro u hu
  obtain ⟨us, hus, hu⟩ := List.mem_flatten.mp hu
  obtain ⟨a, ha, hone⟩ := exists_of_forall₂ hall hus
  rw [hone.group u hu, ← hgroups]
  exact List.mem_map_of_mem ha

/-- **Fusion stamps every segment** for one of the groups. -/
theorem stamped_fuse {engine : FusionEngine R} {ulids : ℕ → String} {groups : List (WordGroup R)}
    {turns : List (SpeakerTurn R)} {isFinal : Bool} {revision : ℕ} {supersedes : Option String} :
    Returns (fun segments => ∀ seg ∈ segments, ∃ g ∈ groups, engine.Stamped g seg)
      (engine.fuse (V := V) ulids groups turns isFinal revision supersedes) := by
  refine returns_bind (fun s us s' hok => group_mem_of_coalesce hok) (fun us hus => ?_)
  refine returns_bind (returns_mapEach (fun u _ => stamped_segmentOf _ _ _ _ _ u)) ?_
  intro segments hsegments
  refine returns_bind (returns_of_true _) (fun _ _ => returns_pure (fun seg hseg => ?_))
  obtain ⟨u, hu, hstamped⟩ := exists_of_forall₂ hsegments hseg
  exact ⟨u.group, hus u hu, hstamped⟩

end

end FusionEngine

/-! ## Runs -/

namespace OfflinePipeline

/-- **Every segment of a result is publishable.** -/
theorem publishable_of_run {p : OfflinePipeline R} {c : RunContext R}
    {models : OfflineModels R V S} {ulids : ℕ → String} {pinned : Option String}
    {result : OfflineResult R} (hsession : c.sessionId ≠ "") (hu : Function.Injective ulids)
    (hok : p.run c models ulids pinned = .ok result) :
    ∀ seg ∈ result.segments, seg.Publishable := by
  have hminted := run_minted hok
  obtain ⟨_, diarization, _, _, segments, _, _, _, _, -, -, -, hnamed, hgroups, -, hfused, hall⟩ :=
    stages_of_run hok
  have hclusters : diarization.clusterIds.length ≤ 5 :=
    (clusterIds_of_buildGlobalSpeakers hu hnamed).trans p.config.product.speakers_le
  have hcounts := count_wordGroups (by decide) hclusters _ _ _ _ hgroups
  intro seg hseg
  have hmem : seg ∈ segments := (List.perm_insertionSort _ _).mem_iff.mp (hall ▸ hseg)
  obtain ⟨i, hid⟩ := hminted seg hseg
  have hspeaker : seg.sessionSpeakerId ≠ "" := by
    rw [hid]
    intro h
    have hlength := congrArg String.length h
    rw [String.length_append] at hlength
    exact absurd hlength (by simp)
  obtain ⟨g, hg, hstamped⟩ := FusionEngine.stamped_fuse _ _ _ hfused seg hmem
  refine ⟨hstamped.version, ?_, hstamped.event, hstamped.speaker hspeaker, hspeaker, ?_⟩
  · rw [hstamped.session]
    exact hsession
  · rw [hstamped.count]
    exact hcounts g hg

/-- **Everything published conforms to the schema**, and its older version to the older
schema. -/
theorem run_conforms (p : OfflinePipeline R) (c : RunContext R) (models : OfflineModels R V S)
    (ulids : ℕ → String) (pinned : Option String) {result : OfflineResult R}
    (hsession : c.sessionId ≠ "") (hu : Function.Injective ulids)
    (hok : p.run c models ulids pinned = .ok result) :
    ∀ seg ∈ result.segments,
      .obj seg.toPublicDict.toDict ∈ TRANSCRIPT_SEGMENT_V2_SCHEMA R
        ∧ ∃ v1, downgradeSegmentToV1 seg.toPublicDict.toDict = .ok v1
          ∧ .obj v1 ∈ SEGMENT_V1_SCHEMA R := by
  intro seg hseg
  have hpublishable := publishable_of_run hsession hu hok seg hseg
  exact ⟨(obj_mem_schema_iff seg).mpr hpublishable, downgrade_conforms hpublishable⟩

/-- Two sentences, published. -/
theorem run_conforms_yesWell : ∃ result, RollingSession.passOver RollingSession.yesWell = .ok result
    ∧ result.segments.length = 2 ∧ ∀ seg ∈ result.segments,
      .obj seg.toPublicDict.toDict ∈ TRANSCRIPT_SEGMENT_V2_SCHEMA ℚ
        ∧ ∃ v1, downgradeSegmentToV1 seg.toPublicDict.toDict = .ok v1
          ∧ .obj v1 ∈ SEGMENT_V1_SCHEMA ℚ := by
  have htwo : (RollingSession.passOver RollingSession.yesWell).toOption.map
      (fun result => result.segments.length) = some 2 := by decide +kernel
  cases hrun : RollingSession.passOver RollingSession.yesWell with
  | error e =>
    rw [hrun] at htwo
    cases htwo
  | ok result =>
    rw [hrun] at htwo
    exact ⟨result, rfl, Option.some.inj htwo, run_conforms _ _ _ _ _ (by decide)
      (fun i j h => toString_nat_inj ((String.append_right_inj "pass_").mp h)) hrun⟩

end OfflinePipeline

end Sastt
