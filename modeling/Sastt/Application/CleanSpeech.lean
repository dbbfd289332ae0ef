import Sastt.Application.SpeakerSlots
import Sastt.Application.Stretches
import Sastt.Application.TalkingClusters
import Sastt.Lib.Leading

/-!
# What a clean centroid is built from

The first centroid of a cluster comes from stretches in which the cluster talks and no overlap
region lies (`CleanAt`): the three longest, unless they are too short
(`embeddedSegments_iff`). They are meant to be speech of one person.

The overlap regions are not the instants at which two clusters talk. They were merged, and
what was then too short was dropped, so another cluster may talk in a clean stretch. No such
stretch is embedded exactly if each of them is too short itself, or behind three others
(`embedsOneVoice_iff`).
-/

namespace Sastt

open Method TimeInterval

variable {R V S : Type}

/-! ## The stretches that are embedded -/

/-- One interval ends before another starts. -/
def TimeInterval.Before (i j : TimeInterval) : Prop := i.endMs < j.startMs

instance : Std.Irrefl TimeInterval.Before :=
  ⟨fun i h => lt_asymm h i.start_lt_end⟩

instance : Std.Asymm TimeInterval.Before :=
  ⟨fun i j h h' => lt_asymm (h.trans j.start_lt_end) (h'.trans i.start_lt_end)⟩

/-- **A cluster talks, and no overlap region is there.** -/
def CleanAt (turns : List (SpeakerTurn R)) (regions : List (OverlapRegion R)) (cluster : String)
    (m : ℕ) : Prop :=
  cluster ∈ talkingAt turns m ∧ ∀ region ∈ regions, region.interval.contains m = false

/-- **What `build_global_speakers` embeds of a cluster**, each with its place among the clean
segments. -/
def embeddedSegments (minimumSpeechMs : ℕ) (intervals : List TimeInterval)
    (overlapRegions : List (OverlapRegion R)) : List (TimeInterval × ℕ) :=
  (cleanSegments intervals overlapRegions).zipIdx.filter
    (fun x => minimumSpeechMs ≤ x.1.durationMs)

/-- **No other cluster talks in what is embedded of one.** -/
def EmbedsOneVoice (turns : List (SpeakerTurn R)) (regions : List (OverlapRegion R))
    (minimumSpeechMs : ℕ) : Prop :=
  ∀ c ∈ turnsPerCluster turns, ∀ x ∈ embeddedSegments minimumSpeechMs c.2 regions,
    ∀ m, x.1.contains m = true → ∀ other ∈ talkingAt turns m, other = c.1

/-- **A stretch is passed over**: it is too short, or behind as many others as are embedded. -/
def PassedOver (minimumSpeechMs : ℕ) (clean : ℕ → Prop) (i : TimeInterval) : Prop :=
  i.durationMs < minimumSpeechMs
    ∨ ∃ s : Finset TimeInterval, s.card = MAX_CLEAN_PROTOTYPE_SEGMENTS
      ∧ ∀ j ∈ s, j.StretchOf clean ∧ Ahead Before durationMs j i

variable {turns : List (SpeakerTurn R)} {regions : List (OverlapRegion R)} {cluster : String}
  {minimumSpeechMs m : ℕ} {i : TimeInterval} {c : String × List TimeInterval}

/-- The entry of a cluster holds its turns. -/
theorem intervals_of_mem_turnsPerCluster (h : c ∈ turnsPerCluster turns) :
    c.2 = (turns.filter (fun t => t.clusterId == c.1)).map SpeakerTurn.interval := by
  obtain ⟨cluster, -, rfl⟩ := List.mem_map.mp h
  rfl

/-- Each cluster that talks has an entry. -/
theorem exists_mem_turnsPerCluster (h : cluster ∈ talkingAt turns m) :
    ∃ c ∈ turnsPerCluster turns, c.1 = cluster := by
  obtain ⟨turn, hturn, -, rfl⟩ := mem_talkingAt.mp h
  exact ⟨_, List.mem_map_of_mem ((Session.clusters_spec turns [] List.nodup_nil).2.2 turn hturn),
    rfl⟩

theorem covered_iff_mem_talkingAt (h : c ∈ turnsPerCluster turns) :
    Covered c.2 m ↔ c.1 ∈ talkingAt turns m := by
  rw [intervals_of_mem_turnsPerCluster h, mem_talkingAt]
  constructor
  · rintro ⟨i, hi, hm⟩
    obtain ⟨turn, hturn, rfl⟩ := List.mem_map.mp hi
    obtain ⟨hturn, hcluster⟩ := List.mem_filter.mp hturn
    exact ⟨turn, hturn, hm, eq_of_beq hcluster⟩
  · rintro ⟨turn, hturn, hm, hcluster⟩
    exact ⟨turn.interval, List.mem_map_of_mem
      (List.mem_filter.mpr ⟨hturn, beq_of_eq hcluster⟩), hm⟩

theorem not_covered_regions_iff : ¬ Covered (regions.map OverlapRegion.interval) m
    ↔ ∀ region ∈ regions, region.interval.contains m = false := by
  simp [Covered]

/-- What is left of a cluster are the stretches in which it is clean. -/
theorem mem_pieces_iff (h : c ∈ turnsPerCluster turns) :
    i ∈ subtractIntervals (mergeIntervals c.2 0) (regions.map OverlapRegion.interval)
      ↔ i.StretchOf (CleanAt turns regions c.1) := by
  rw [mem_subtractIntervals_iff]
  refine stretchOf_congr (fun m => ?_)
  rw [covered_mergeIntervals_iff, covered_iff_mem_talkingAt h, not_covered_regions_iff]
  exact Iff.rfl

/-- **What is embedded** are the clean stretches that are not passed over. -/
theorem embeddedSegments_iff (h : c ∈ turnsPerCluster turns) :
    (∃ n, (i, n) ∈ embeddedSegments minimumSpeechMs c.2 regions)
      ↔ i.StretchOf (CleanAt turns regions c.1)
        ∧ ¬ PassedOver minimumSpeechMs (CleanAt turns regions c.1) i := by
  have hplaced : (∃ n, (i, n) ∈ embeddedSegments minimumSpeechMs c.2 regions)
      ↔ i ∈ cleanSegments c.2 regions ∧ minimumSpeechMs ≤ i.durationMs := by
    simp only [embeddedSegments, List.mem_filter, decide_eq_true_eq]
    constructor
    · rintro ⟨n, hn, hlong⟩
      exact ⟨List.fst_mem_of_mem_zipIdx hn, hlong⟩
    · rintro ⟨hi, hlong⟩
      obtain ⟨n, hn, rfl⟩ := List.mem_iff_getElem.mp hi
      exact ⟨n, List.mem_zipIdx_iff_getElem?.mpr (List.getElem?_eq_getElem hn), hlong⟩
  rw [hplaced, cleanSegments, mem_take_insertionSort_iff
    (show List.Pairwise Before _ from subtractIntervals_pairwise_lt _ _), mem_pieces_iff h,
    and_assoc]
  refine and_congr_right (fun _ => ?_)
  simp only [mem_pieces_iff h, PassedOver, not_or, not_lt, not_exists, not_and]
  rw [and_comm]
  refine and_congr_right (fun _ => ⟨fun hfew s hcard hahead => ?_, fun hnone s hahead => ?_⟩)
  · exact absurd hcard (hfew s hahead).ne
  · by_contra hmany
    obtain ⟨three, hthree, hcard⟩ := Finset.exists_subset_card_eq (not_lt.mp hmany)
    exact hnone three hcard (fun j hj => hahead j (hthree hj))

/-- **When what is embedded is speech of one person**: each clean stretch in which another
cluster talks is passed over. -/
theorem embedsOneVoice_iff : EmbedsOneVoice turns regions minimumSpeechMs
    ↔ ∀ cluster i, i.StretchOf (CleanAt turns regions cluster) →
      (∃ m, i.contains m = true ∧ ∃ other ∈ talkingAt turns m, other ≠ cluster) →
      PassedOver minimumSpeechMs (CleanAt turns regions cluster) i := by
  constructor
  · rintro h cluster i hi ⟨m, hm, other, hother, hne⟩
    obtain ⟨c, hc, rfl⟩ := exists_mem_turnsPerCluster (hi.inside m hm).1
    by_contra hembedded
    obtain ⟨n, hn⟩ := (embeddedSegments_iff hc).mpr ⟨hi, hembedded⟩
    exact hne (h c hc _ hn m hm other hother)
  · intro h c hc x hx m hm other hother
    by_contra hne
    obtain ⟨hi, hembedded⟩ := (embeddedSegments_iff hc).mp ⟨x.2, hx⟩
    exact hembedded (h c.1 x.1 hi ⟨m, hm, other, hother, hne⟩)

/-! ## The stage -/

section Stage

variable [Field R] [LinearOrder R] [IsStrictOrderedRing R] [AddCommGroup V] [Module R V]
  [EmbeddingSpace R V]

/-- Two states with the same settings. -/
def SessionSpeakerState.SameSettings (st st' : SessionSpeakerState R V) : Prop :=
  st'.config = st.config

instance : Std.Refl (SessionSpeakerState.SameSettings (R := R) (V := V)) := ⟨fun _ => rfl⟩

instance : IsTrans (SessionSpeakerState R V) SessionSpeakerState.SameSettings :=
  ⟨fun _ _ _ h h' => Eq.trans h' h⟩

/-- An update keeps the settings. -/
theorem SessionSpeakerState.within_updatePrototype_settings (id : String)
    (e : SpeakerEmbedding R V) (margin : Option R) (passed : Bool) :
    Within SessionSpeakerState.SameSettings (updatePrototype id e margin passed) := by
  unfold updatePrototype setPrototype updateSpeaker
  refine within_bind within_read (fun st => within_bind (within_ofExcept _) (fun speaker => ?_))
  split
  · exact within_pure _
  · refine within_bind within_read (fun st => ?_)
    split
    · exact within_throw _
    · split
      · exact within_bind (within_ofExcept _) (fun _ =>
          within_bind (within_modify (fun _ => rfl)) (fun _ => within_pure _))
      · exact within_bind (within_modify (fun _ => rfl)) (fun _ =>
          within_bind (within_ofExcept _) (fun _ =>
            within_bind (within_modify (fun _ => rfl)) (fun _ => within_pure _)))

omit [AddCommGroup V] [Module R V] [EmbeddingSpace R V] in
theorem minimumSpeechMs_congr {st st' : SessionSpeakerState R V} (h : st'.config = st.config) :
    st'.minimumSpeechMs = st.minimumSpeechMs := by
  rw [SessionSpeakerState.minimumSpeechMs, h]
  rfl

/-- Embed one segment of a speaker. -/
def embedClean (adapters : PipelineAdapters R V S) (mono : AudioBuffer S) (speakerId : String)
    (interval : TimeInterval) : Method PyError (Session R V) Unit := do
  match ← .ofExcept (embedBuffer adapters mono interval .clean none none none) with
  | none => return ()
  | some embedding =>
    let _ ← Session.onSpeakers
      (SessionSpeakerState.updatePrototype speakerId embedding none true)

theorem within_embedClean (adapters : PipelineAdapters R V S) (mono : AudioBuffer S)
    (speakerId : String) (interval : TimeInterval) :
    Within (InvImage SessionSpeakerState.SameSettings Session.speakers)
      (embedClean adapters mono speakerId interval) := by
  refine within_bind (within_ofExcept _) (fun embedding => ?_)
  split
  · exact within_pure _
  · exact within_bind (within_zoom
      (SessionSpeakerState.within_updatePrototype_settings _ _ _ _) (fun _ _ h => h))
      (fun _ => within_pure _)

/-- A segment is embedded if it is long enough, -/
theorem learnSegment_eq {adapters : PipelineAdapters R V S} {mono : AudioBuffer S} {id : String}
    {s : Session R V} (hlong : s.speakers.minimumSpeechMs ≤ i.durationMs) :
    learnSegment adapters mono id i s = embedClean adapters mono id i s := by
  unfold learnSegment
  rw [read_bind, if_neg (not_lt.mpr hlong)]
  rfl

/-- and otherwise nothing is done. -/
theorem learnSegment_of_short {adapters : PipelineAdapters R V S} {mono : AudioBuffer S}
    {id : String} {s : Session R V} (hshort : i.durationMs < s.speakers.minimumSpeechMs) :
    learnSegment adapters mono id i s = (.ok (), s) := by
  unfold learnSegment
  rw [read_bind, if_pos hshort]
  rfl

/-- **The loop over the segments of a cluster embeds those that are to be embedded**, and no
other. -/
theorem learnCluster_eq (adapters : PipelineAdapters R V S) (regions : List (OverlapRegion R))
    (mono : AudioBuffer S) (c : String × List TimeInterval) (s : Session R V) :
    learnCluster adapters regions mono c s
      = match s.speakers.byCluster c.1 with
        | none => (.ok (), s)
        | some speaker =>
          forEach (embeddedSegments s.speakers.minimumSpeechMs c.2 regions)
            (fun (interval, n) =>
              embedClean (adapters.at n) mono speaker.sessionSpeakerId interval) s := by
  unfold learnCluster
  rw [read_bind]
  cases s.speakers.byCluster c.1 with
  | none => rfl
  | some speaker =>
    refine forEach_filter (I := fun t => t.speakers.config = s.speakers.config)
      (fun x t hlong ht => learnSegment_eq ?_) (fun x t hshort ht => learnSegment_of_short ?_)
      (fun x t u ht hu => ?_) _ rfl
    · rw [minimumSpeechMs_congr ht]
      exact of_decide_eq_true hlong
    · rw [minimumSpeechMs_congr ht]
      exact not_le.mp (of_decide_eq_false hshort)
    · have hsame : u.speakers.config = t.speakers.config :=
        (within_embedClean (adapters.at x.2) mono _ x.1).rel hu
      exact hsame.trans ht

omit [Field R] [IsStrictOrderedRing R] in
/-- **What no region holds any more** was dropped for being short. -/
theorem short_of_dropped {diarizationRegions osdRegions : List (OverlapRegion R)}
    {gap minDurationMs : ℕ}
    (hfound : ∃ region ∈ diarizationRegions ++ osdRegions, region.interval.contains m = true)
    (hnone : ∀ region ∈ mergeOverlapRegions diarizationRegions osdRegions gap minDurationMs,
      region.interval.contains m = false) :
    ∃ merged ∈ mergeIntervals ((diarizationRegions ++ osdRegions).map OverlapRegion.interval) gap,
      merged.contains m = true ∧ merged.durationMs < minDurationMs := by
  obtain ⟨region, hregion, hm⟩ := hfound
  obtain ⟨merged, hmerged, hin⟩ :=
    exists_mem_mergeIntervals gap (List.mem_map_of_mem (f := OverlapRegion.interval) hregion)
  refine ⟨merged, hmerged, hin.contains hm, not_le.mp (fun hlong => ?_)⟩
  have hkept := hnone _ (List.mem_map_of_mem
    (List.mem_filter.mpr ⟨hmerged, decide_eq_true hlong⟩))
  exact Bool.noConfusion (hkept.symm.trans (hin.contains hm))

/-- **When clean centroids are built from one voice.** The stage embeds what is to be embedded,
and of that no other cluster talks in any exactly if each clean stretch of which that is not
true is passed over. A stretch is clean though two were found to talk in it only where what
was found was dropped for being short. -/
theorem clean_centroids_iff (d : DiarizationResult R) (osd : List (OverlapRegion R))
    (gap minDurationMs minimumSpeechMs : ℕ) :
    (EmbedsOneVoice d.regularTracks (mergeOverlapRegions d.overlapRegions osd gap minDurationMs)
          minimumSpeechMs
        ↔ ∀ cluster i, i.StretchOf (CleanAt d.regularTracks
              (mergeOverlapRegions d.overlapRegions osd gap minDurationMs) cluster) →
            (∃ m, i.contains m = true ∧ ∃ other ∈ talkingAt d.regularTracks m,
              other ≠ cluster) →
            PassedOver minimumSpeechMs (CleanAt d.regularTracks
              (mergeOverlapRegions d.overlapRegions osd gap minDurationMs) cluster) i)
      ∧ (∀ m, (∃ region ∈ d.overlapRegions ++ osd, region.interval.contains m = true) →
        (∀ region ∈ mergeOverlapRegions d.overlapRegions osd gap minDurationMs,
          region.interval.contains m = false) →
        ∃ merged ∈ mergeIntervals ((d.overlapRegions ++ osd).map OverlapRegion.interval) gap,
          merged.contains m = true ∧ merged.durationMs < minDurationMs)
      ∧ ∀ (adapters : PipelineAdapters R V S) (regions : List (OverlapRegion R))
        (mono : AudioBuffer S) (c : String × List TimeInterval) (s : Session R V),
        learnCluster adapters regions mono c s
          = match s.speakers.byCluster c.1 with
            | none => (.ok (), s)
            | some speaker =>
              forEach (embeddedSegments s.speakers.minimumSpeechMs c.2 regions)
                (fun (interval, n) =>
                  embedClean (adapters.at n) mono speaker.sessionSpeakerId interval) s :=
  ⟨embedsOneVoice_iff, fun _ => short_of_dropped, learnCluster_eq⟩

end Stage

section Example

/-- Two people, of whom the second begins to talk a tenth of a second before the first ends. -/
def cutIn : DiarizationResult ℚ := .found
  [{ clusterId := "A", interval := firstMs 2000 },
    { clusterId := "B", interval := ⟨1900, 4000, by decide⟩ }]
  [⟨1900, 2000, by decide⟩]

/-- The overlap regions, with the gap and the minimum of the defaults. -/
def cutInRegions : List (OverlapRegion ℚ) := mergeOverlapRegions cutIn.overlapRegions [] 200 300

/-- When the centroids of the two are built from one voice. -/
theorem clean_centroids_of_cutIn :
    EmbedsOneVoice cutIn.regularTracks cutInRegions 1000
      ↔ ∀ cluster i, i.StretchOf (CleanAt cutIn.regularTracks cutInRegions cluster) →
        (∃ m, i.contains m = true ∧ ∃ other ∈ talkingAt cutIn.regularTracks m, other ≠ cluster) →
        PassedOver 1000 (CleanAt cutIn.regularTracks cutInRegions cluster) i :=
  (clean_centroids_iff (V := ℚ) (S := Unit) cutIn [] 200 300 1000).1

/-- An embedder that says what it was given. -/
def candidEmbedder : PipelineAdapters ℚ ℚ Unit where
  vad _ buffer := .ok [buffer.interval]
  transcribe _ _ _ _ := .error (.valueError "not asked")
  embed _ buffer _ origin _ _ := .ok
    ((lineVoice true).slice buffer.interval.durationMs origin none (some buffer.interval))

/-- The session after the stage. -/
def cutInSession : Except PyError Unit × Session ℚ ℚ :=
  buildGlobalSpeakers candidEmbedder toString cutIn cutInRegions
    (silentSamples 79) ⟨.new "session" {} "campplus", 0⟩

/-- **A short overlap stays in a clean centroid**: that of the first person is built from all of
the turn, at the end of which the second one talks. -/
theorem cutIn_in_clean_centroid :
    ((cutInSession.2.speakers.byCluster "A").bind SessionSpeaker.prototype).map
          SpeakerPrototype.contributingSegments = some [⟨0, 2000, by decide⟩]
      ∧ talkingAt cutIn.regularTracks 1950 = ["A", "B"]
      ∧ ¬ EmbedsOneVoice cutIn.regularTracks cutInRegions
        cutInSession.2.speakers.minimumSpeechMs := by
  refine ⟨by decide +kernel, by decide +kernel, fun h => ?_⟩
  have hembedded : (⟨0, 2000, by decide⟩, 0) ∈ embeddedSegments
      cutInSession.2.speakers.minimumSpeechMs [⟨0, 2000, by decide⟩] cutInRegions := by
    decide +kernel
  have hother : "B" = "A" :=
    h ("A", [⟨0, 2000, by decide⟩]) (by decide +kernel) _ hembedded 1950 (by decide) "B"
      (by decide +kernel)
  exact absurd hother (by decide)

end Example

end Sastt
