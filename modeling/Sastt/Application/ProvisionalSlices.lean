import Sastt.Application.IntervalSets
import Sastt.Application.LinkMargins
import Sastt.Application.RegionGroups
import Sastt.Application.RollingSession
import Sastt.Lib.Programs

/-!
# What the provisional lane publishes twice

In each rolling step a session publishes the words of some slices of audio:
pieces of closed speech outside the overlap regions, and the slices of a region
that its windows own. The slices of one call are disjoint by construction, and
those of different calls by where the calls look: a piece of closed speech lies
after the mark, up to the new one, and outside every region.

A region does not. It is handed on whole, whatever part of it is pending, and
once for each closed interval it meets. `RegionsContained` asks that it stay
where the closed speech of the step is: after the mark, up to the end of a
closed interval, and in the pending part of one of them only. In a run whose
steps all have such regions no moment of the audio is published twice
(`published_pairwise`), and one region over a pause is enough for the
contrary.
-/

namespace Sastt

open Method TimeInterval

/-! ## One call -/

section

variable {R : Type}

/-- **The groups of a region are heard in slices of it**: two of them in the
same slice, or in separate ones. -/
def HeardOnce (region : TimeInterval) (groups : List (WordGroup R)) : Prop :=
  ∀ g ∈ groups, g.interval.Inside region
    ∧ ∀ g' ∈ groups, g.interval = g'.interval ∨ g.interval.Separate g'.interval

theorem mem_callSlices {groups : List (WordGroup R)} {i : TimeInterval} :
    i ∈ callSlices groups ↔ ∃ g ∈ groups, g.interval = i := by
  unfold callSlices
  rw [List.mem_dedup, List.mem_map]

/-- So the slices of its call are disjoint. -/
theorem HeardOnce.pairwise {region : TimeInterval} {groups : List (WordGroup R)}
    (h : HeardOnce region groups) : (callSlices groups).Pairwise Separate := by
  refine (List.nodup_dedup _).imp_of_mem (fun {i j} hi hj hne => ?_)
  obtain ⟨g, hg, rfl⟩ := mem_callSlices.mp hi
  obtain ⟨g', hg', rfl⟩ := mem_callSlices.mp hj
  exact ((h g hg).2 g' hg').resolve_left hne

/-- Groups that are all heard in the region itself. -/
theorem heardOnce_of_whole {region : TimeInterval} {groups : List (WordGroup R)}
    (h : ∀ g ∈ groups, g.interval = region) : HeardOnce region groups := by
  intro g hg
  rw [h g hg]
  exact ⟨Inside.refl region, fun g' hg' => Or.inl (h g' hg').symm⟩

/-- Groups that are heard in slices that tile a part of the region. -/
theorem heardOnce_of_tiles {region : TimeInterval} {stop : ℕ}
    {windows : List (TimeInterval × TimeInterval)} {groups : List (WordGroup R)}
    (hstop : stop ≤ region.endMs) (htiles : Tiles region.startMs (ownedSlices windows) stop)
    (h : ∀ g ∈ groups, ∃ w ∈ windows, g.interval = w.2) : HeardOnce region groups := by
  have hordered : (windows.map Prod.snd).Pairwise Separate :=
    List.pairwise_map.mpr ((List.pairwise_map.mp htiles.ordered).imp Or.inl)
  intro g hg
  obtain ⟨w, hw, hgw⟩ := h g hg
  rw [hgw]
  constructor
  · obtain ⟨hstart, hend⟩ := htiles.bounds_of_mem (List.mem_map_of_mem hw)
    exact ⟨hstart, hend.trans hstop⟩
  · intro g' hg'
    obtain ⟨w', hw', hgw'⟩ := h g' hg'
    rw [hgw']
    exact or_iff_not_imp_left.mpr (hordered.forall (List.mem_map_of_mem hw)
      (List.mem_map_of_mem hw'))

/-- What is heard in disjoint regions is disjoint. -/
theorem pairwise_of_regions {regions : List TimeInterval} {calls : List (List (WordGroup R))}
    (hregions : regions.Pairwise Separate) (h : List.Forall₂ HeardOnce regions calls) :
    (calls.flatMap callSlices).Pairwise Separate := by
  let HeardIn (region : TimeInterval) (slices : List TimeInterval) : Prop :=
    ∃ groups : List (WordGroup R), HeardOnce region groups ∧ slices = callSlices groups
  have hslices : List.Forall₂ HeardIn regions (calls.map callSlices) :=
    List.forall₂_map_right_iff.mpr (h.imp (fun _ groups hg => ⟨groups, hg, rfl⟩))
  refine pairwise_flatten_of_forall₂ hslices hregions ?_ ?_
  · rintro region _ ⟨groups, hgroups, rfl⟩
    exact hgroups.pairwise
  · rintro region region' _ _ hapart ⟨groups, hgroups, rfl⟩ ⟨groups', hgroups', rfl⟩ i hi j hj
    obtain ⟨g, hg, rfl⟩ := mem_callSlices.mp hi
    obtain ⟨g', hg', rfl⟩ := mem_callSlices.mp hj
    exact hapart.mono (hgroups g hg).1 (hgroups' g' hg').1

/-! ## All calls of a step -/

namespace RollingSession

/-- Whether a region meets the pending part of closed speech. -/
def MeetsPending (emittedUntilMs : ℕ) (region interval : TimeInterval) : Prop :=
  region.startMs < interval.endMs ∧ max interval.startMs emittedUntilMs < region.endMs

instance (emittedUntilMs : ℕ) (region interval : TimeInterval) :
    Decidable (MeetsPending emittedUntilMs region interval) :=
  inferInstanceAs (Decidable (_ ∧ _))

/-- **The regions stay where the closed speech is.** -/
structure RegionsContained (emittedUntilMs : ℕ) (closed regions : List TimeInterval) : Prop where
  /-- A region that is handed on starts after the mark, -/
  after : ∀ r ∈ regions, ∀ i ∈ closed, MeetsPending emittedUntilMs r i → emittedUntilMs ≤ r.startMs
  /-- ends by the end of closed speech, -/
  before : ∀ r ∈ regions, ∀ i ∈ closed, MeetsPending emittedUntilMs r i →
    ∃ j ∈ closed, r.endMs ≤ j.endMs
  /-- and is handed on once. -/
  once : closed.Pairwise (fun i j => ∀ r ∈ regions,
    ¬ (MeetsPending emittedUntilMs r i ∧ MeetsPending emittedUntilMs r j))

/-- **What the calls for one closed interval are made of**: pieces of its
pending part outside the regions, and groups heard in the regions that meet
it. -/
structure CallsFor (emittedUntilMs : ℕ) (regions : List TimeInterval) (interval : TimeInterval)
    (calls : List (List (WordGroup R))) : Prop where
  pairwise : (calls.flatMap callSlices).Pairwise Separate
  parts : ∀ i ∈ calls.flatMap callSlices,
    ((max interval.startMs emittedUntilMs ≤ i.startMs ∧ i.endMs ≤ interval.endMs)
        ∧ ∀ r ∈ regions, i.Separate r)
      ∨ ∃ r ∈ regions, MeetsPending emittedUntilMs r interval ∧ i.Inside r

/-- **All calls of a step**: their slices are disjoint, and lie between the mark
and the end of the closed speech. -/
theorem slices_of_step {emittedUntilMs : ℕ} {closed regions : List TimeInterval}
    {calls : List (List (List (WordGroup R)))} (hclosed : closed.Pairwise Separate)
    (hregions : regions.Pairwise Separate) (h : RegionsContained emittedUntilMs closed regions)
    (hcalls : List.Forall₂ (CallsFor emittedUntilMs regions) closed calls) :
    (calls.flatten.flatMap callSlices).Pairwise Separate
      ∧ ∀ i ∈ calls.flatten.flatMap callSlices,
        emittedUntilMs ≤ i.startMs ∧ ∃ j ∈ closed, i.endMs ≤ j.endMs := by
  constructor
  · let SlicesFor (interval : TimeInterval) (slices : List TimeInterval) : Prop :=
      ∃ calls : List (List (WordGroup R)), CallsFor emittedUntilMs regions interval calls
        ∧ slices = calls.flatMap callSlices
    have hslices : List.Forall₂ SlicesFor closed (calls.map (·.flatMap callSlices)) :=
      List.forall₂_map_right_iff.mpr (hcalls.imp (fun _ calls hc => ⟨calls, hc, rfl⟩))
    have hflat : calls.flatten.flatMap callSlices
        = (calls.map (·.flatMap callSlices)).flatten := by
      rw [← List.flatMap_id, List.flatMap_assoc, ← List.flatMap_def]
      rfl
    rw [hflat]
    refine pairwise_flatten_of_forall₂ hslices (hclosed.and h.once) ?_ ?_
    · rintro interval _ ⟨calls, hcalls, rfl⟩
      exact hcalls.pairwise
    · rintro i j _ _ ⟨hapart, honce⟩ ⟨calls, hi, rfl⟩ ⟨calls', hj, rfl⟩ x hx y hy
      rcases hi.parts x hx with ⟨⟨hxs, hxe⟩, hclear⟩ | ⟨r, hr, hmeets, hin⟩
      · rcases hj.parts y hy with ⟨⟨hys, hye⟩, -⟩ | ⟨r', hr', -, hin'⟩
        · exact hapart.mono ⟨(le_max_left _ _).trans hxs, hxe⟩ ⟨(le_max_left _ _).trans hys, hye⟩
        · exact (hclear r' hr').mono (Inside.refl x) hin'
      · rcases hj.parts y hy with ⟨-, hclear⟩ | ⟨r', hr', hmeets', hin'⟩
        · exact ((hclear r hr).mono (Inside.refl y) hin).symm
        · have hne : r ≠ r' := by
            rintro rfl
            exact honce r hr ⟨hmeets, hmeets'⟩
          exact (hregions.forall hr hr' hne).mono hin hin'
  · intro i hi
    obtain ⟨groups, hgroups, hi⟩ := List.mem_flatMap.mp hi
    obtain ⟨cs, hcs, hgroups⟩ := List.mem_flatten.mp hgroups
    obtain ⟨interval, hinterval, hfor⟩ := exists_of_forall₂ hcalls hcs
    rcases hfor.parts i (List.mem_flatMap.mpr ⟨groups, hgroups, hi⟩)
      with ⟨⟨hs, he⟩, -⟩ | ⟨r, hr, hmeets, hin⟩
    · exact ⟨(le_max_right _ _).trans hs, interval, hinterval, he⟩
    · obtain ⟨j, hj, hrj⟩ := h.before r hr interval hinterval hmeets
      exact ⟨(h.after r hr interval hinterval hmeets).trans hin.1, j, hj, hin.2.trans hrj⟩

end RollingSession

end

variable {R V S : Type} [Field R] [LinearOrder R] [IsStrictOrderedRing R] [AddCommGroup V]
  [Module R V] [EmbeddingSpace R V]

/-! ## What the calls return -/

namespace OfflinePipeline

variable {p : OfflinePipeline R} {adapters : PipelineAdapters R V S} {ulids : ℕ → String}

/-- **What `separateAndLink` returns is heard once.** -/
theorem returns_separateAndLink (c : RegionContext R S) (padded : TimeInterval)
    (separator : SpeechSeparator R S) :
    Returns (fun r => HeardOnce c.region.interval r.1)
      (p.separateAndLink adapters ulids c padded separator) := by
  refine returns_bind (returns_ofExcept (fun windows h => h)) (fun windows hwindows =>
    returns_bind (groups_of_separateWindows c separator 0 windows [] {}) (fun separated hgroups =>
      ?_))
  obtain ⟨stop, hstop, htiles⟩ := tiles_of_splitCrop hwindows
  dsimp only
  split
  · refine returns_pure (heardOnce_of_tiles hstop htiles (fun g hg => ?_))
    obtain ⟨w, hw, hfrom⟩ := (hgroups g hg).resolve_left (fun h => nomatch h)
    exact ⟨w, hw, hfrom.interval⟩
  · exact returns_bind (returns_ofExcept (fun r h => groups_of_mixtureFallback h))
      (fun r hr => returns_pure (heardOnce_of_whole (fun g hg => (hr g hg).interval)))

/-- **What a region is handed on for is heard once.** -/
theorem returns_handleOverlapRegion (c : RegionContext R S) :
    Returns (fun r => HeardOnce c.region.interval r.1)
      (p.handleOverlapRegion adapters ulids c) :=
  returns_of_handled (Q := fun groups _ => HeardOnce c.region.interval groups)
    (fun _ _ hgroups _ => heardOnce_of_whole (fun g hg => (hgroups g hg).interval))
    (fun separator n padded _ _ => returns_separateAndLink c padded (separator.at n))

/-- **Speech of one person is heard in the pieces it is cut into**, each at most
once. -/
theorem sublist_of_transcribeSlices {mono : AudioBuffer S} {n : ℕ} {pieces : List TimeInterval}
    {r : List (WordGroup R) × List String}
    (h : p.transcribeSlices adapters mono n pieces = .ok r) :
    (r.1.map WordGroup.interval).Sublist pieces := by
  induction pieces generalizing n r with
  | nil =>
    cases h
    exact List.Sublist.refl []
  | cons piece rest ih =>
    unfold transcribeSlices at h
    split at h
    · exact (ih h).cons piece
    · obtain ⟨crop, -, h⟩ := except_bind_eq_ok.mp h
      obtain ⟨result, -, h⟩ := except_bind_eq_ok.mp h
      obtain ⟨later, hrest, h⟩ := except_bind_eq_ok.mp h
      have hlater := ih hrest
      dsimp only at h
      split at h
      · cases h
        exact hlater.cons piece
      · split at h
        · cases h
          exact hlater.cons piece
        · cases h
          exact hlater.cons_cons piece

end OfflinePipeline

namespace RollingSession

variable {c : StreamingContext R}

/-- What the call for one region is made of. -/
theorem returns_regionGroups (models : RollingModels R V S) (p : OfflinePipeline R)
    (closes : ℕ → Bool) (mono : AudioBuffer S) (diarization : DiarizationResult R)
    (pending : TimeInterval) (n : ℕ) (region : OverlapRegion R) :
    Returns (fun groups => HeardOnce region.interval groups
        ∧ (groups = [] ∨ ¬ region.interval.Separate pending))
      (regionGroups c models p closes mono diarization pending n region) := by
  have hnone : HeardOnce (R := R) region.interval [] := fun _ hg => nomatch hg
  unfold regionGroups
  cases hclamp : region.interval.clamp pending with
  | none => exact returns_pure ⟨hnone, Or.inl rfl⟩
  | some clipped =>
    dsimp only
    split
    · exact returns_pure ⟨hnone, Or.inl rfl⟩
    · refine returns_bind (OfflinePipeline.returns_handleOverlapRegion _)
        (fun r hr => returns_pure ⟨hr, Or.inr (fun hseparate => ?_)⟩)
      rw [clamp_eq_none_iff.mpr hseparate] at hclamp
      cases hclamp

omit [AddCommGroup V] [Module R V] [EmbeddingSpace R V] in
/-- What is pending of closed speech. -/
theorem bounds_of_pendingPart {emittedUntilMs : ℕ} {interval pending : TimeInterval}
    (h : pendingPart emittedUntilMs interval = .ok pending) :
    pending.startMs = max interval.startMs emittedUntilMs ∧ pending.endMs = interval.endMs := by
  unfold pendingPart TimeInterval.new at h
  split at h
  · cases h
    exact ⟨rfl, rfl⟩
  · cases h

theorem returns_closedGroups (models : RollingModels R V S) (p : OfflinePipeline R)
    (closes : ℕ → Bool) (mono : AudioBuffer S) (diarization : DiarizationResult R)
    {regions : List (OverlapRegion R)}
    (hregions : regions.Pairwise (fun r r' => r.interval.Separate r'.interval))
    (emittedUntilMs : ℕ) (interval : TimeInterval) :
    Returns (CallsFor emittedUntilMs (regions.map OverlapRegion.interval) interval)
      (closedGroups c models p closes mono diarization regions emittedUntilMs interval) := by
  refine returns_bind (returns_ofExcept (fun pending h => h)) (fun pending hpending =>
    returns_bind (returns_ofExcept (fun r h => h)) (fun alone halone => ?_))
  dsimp only
  have hbounds := bounds_of_pendingPart hpending
  refine returns_bind (returns_mapEach (fun x _ => returns_regionGroups _ _ _ _ _ _ _ _))
    (fun together htogether => returns_pure ?_)
  -- forget the places of the calls
  have hcalls : List.Forall₂ (fun (r : OverlapRegion R) groups => HeardOnce r.interval groups
      ∧ (groups = [] ∨ ¬ r.interval.Separate pending)) regions together := by
    rw [← List.zipIdx_map_fst 0 regions]
    exact List.forall₂_map_left_iff.mpr htogether
  have hpieces := OfflinePipeline.sublist_of_transcribeSlices halone
  have hpiece : ∀ i ∈ callSlices alone.1, i.Inside pending
      ∧ ∀ r ∈ regions.map OverlapRegion.interval, i.Separate r := by
    intro i hi
    obtain ⟨⟨j, hj, hin⟩, hclear⟩ := mem_subtractIntervals
      (hpieces.subset (List.mem_dedup.mp hi))
    rw [mergeIntervals_singleton] at hj
    rw [List.mem_singleton.mp hj] at hin
    exact ⟨hin, hclear⟩
  have hheard : ∀ i ∈ together.flatMap callSlices, ∃ r ∈ regions,
      ¬ r.interval.Separate pending ∧ i.Inside r.interval := by
    intro i hi
    obtain ⟨groups, hgroups, hi⟩ := List.mem_flatMap.mp hi
    obtain ⟨r, hr, hgroups', hmeets⟩ := exists_of_forall₂ hcalls hgroups
    obtain ⟨g, hg, rfl⟩ := mem_callSlices.mp hi
    refine ⟨r, hr, hmeets.resolve_left ?_, (hgroups' g hg).1⟩
    rintro rfl
    cases hg
  constructor
  · rw [List.flatMap_cons]
    refine List.pairwise_append.mpr ⟨?_, ?_, fun i hi j hj => ?_⟩
    · exact ((subtractIntervals_pairwise _ _).sublist hpieces).sublist (List.dedup_sublist _)
    · refine pairwise_of_regions (List.pairwise_map.mpr hregions) ?_
      exact List.forall₂_map_left_iff.mpr (hcalls.imp (fun _ _ h => h.1))
    · obtain ⟨r, hr, -, hin⟩ := hheard j hj
      exact ((hpiece i hi).2 _ (List.mem_map_of_mem hr)).mono (Inside.refl i) hin
  · intro i hi
    rw [List.flatMap_cons] at hi
    rcases List.mem_append.mp hi with hi | hi
    · obtain ⟨hin, hclear⟩ := hpiece i hi
      rw [Inside, hbounds.1, hbounds.2] at hin
      exact Or.inl ⟨hin, hclear⟩
    · obtain ⟨r, hr, hmeets, hin⟩ := hheard i hi
      refine Or.inr ⟨r.interval, List.mem_map_of_mem hr, ?_, hin⟩
      unfold Separate at hmeets
      rw [hbounds.1, hbounds.2] at hmeets
      unfold MeetsPending
      omega

/-! ## One rolling step -/

/-- A method that publishes nothing provisionally, and hears nothing. -/
structure Unheard (s t : RollingSession R V S) : Prop where
  published : t.published = s.published
  emittedUntilMs : t.emittedUntilMs = s.emittedUntilMs
  totalSamples : t.totalSamples = s.totalSamples

instance : Std.Refl (Unheard (R := R) (V := V) (S := S)) := ⟨fun _ => ⟨rfl, rfl, rfl⟩⟩

instance : IsTrans (RollingSession R V S) Unheard where
  trans _ _ _ h h' := ⟨h'.published.trans h.published, h'.emittedUntilMs.trans h.emittedUntilMs,
    h'.totalSamples.trans h.totalSamples⟩

section

omit [AddCommGroup V] [Module R V] [EmbeddingSpace R V]

theorem within_onStreaming {α : Type} (m : Method PyError (StreamingSession R V) α) :
    Within Unheard (onStreaming (S := S) m) := fun _ => ⟨rfl, rfl, rfl⟩

theorem within_onSession {α : Type} (m : Method PyError (Session R V) α) :
    Within Unheard (onSession (S := S) m) := within_onStreaming _

theorem returns_onSession {α : Type} {P : α → Prop} {m : Method PyError (Session R V) α}
    (h : Returns P m) : Returns P (onSession (S := S) m) := by
  have hstreaming : Returns P (StreamingSession.onSession m) := returns_zoom h
  unfold onSession onStreaming
  exact returns_zoom hstreaming

end

/-- The regions of a step are disjoint, whatever they were found from. -/
theorem overlaps_pairwise (diarization : DiarizationResult R) (osd : List (OverlapRegion R)) :
    (overlaps c diarization osd).Pairwise (fun r r' => r.interval.Separate r'.interval) :=
  mergeOverlapRegions_pairwise _ _ _ _

theorem within_resolveLanguage (models : RollingModels R V S) (mono : AudioBuffer S)
    (speech : List TimeInterval) : Within Unheard (resolveLanguage c models mono speech) :=
  within_bind within_read (fun _ => within_bind (within_ofExcept _)
    (fun _ => within_modify (fun _ => ⟨rfl, rfl, rfl⟩)))

/-- **The regions of a step stay where its closed speech is**, whatever the
models say. -/
def StepContained (c : StreamingContext R) (models : RollingModels R V S) (forceClose : Bool)
    (s : RollingSession R V S) : Prop :=
  ∀ mono ∈ s.windowBuffer c, ∀ diarization osd speech,
    models.diarizer mono = .ok diarization → models.overlapDetector mono = .ok osd →
    models.adapters.vad [] mono = .ok speech →
      RegionsContained s.emittedUntilMs (s.closedIntervals c forceClose speech)
        ((overlaps c diarization osd).map OverlapRegion.interval)

/-- The intervals of one call of the voice activity detector are disjoint. -/
def VadDisjoint (models : RollingModels R V S) : Prop :=
  ∀ mono speech, models.adapters.vad [] mono = .ok speech → speech.Pairwise Separate

/-- **What has been published ends by the mark**, and no moment of it was
published twice. -/
structure PublishedOnce (s : RollingSession R V S) : Prop where
  pairwise : s.published.Pairwise Separate
  before : ∀ i ∈ s.published, i.endMs ≤ s.emittedUntilMs

omit [AddCommGroup V] [Module R V] [EmbeddingSpace R V] in
theorem PublishedOnce.of_unheard {s t : RollingSession R V S} (h : PublishedOnce s)
    (hst : Unheard s t) : PublishedOnce t := by
  constructor
  · rw [hst.published]
    exact h.pairwise
  · rw [hst.published, hst.emittedUntilMs]
    exact h.before

theorem le_foldl_max {l : List ℕ} {a n : ℕ} : n ≤ l.foldl max a ↔ n ≤ a ∨ ∃ m ∈ l, n ≤ m := by
  induction l generalizing a with
  | nil => simp
  | cons m l ih =>
    rw [List.foldl_cons, ih, le_max_iff, List.exists_mem_cons_iff, or_assoc]

omit [AddCommGroup V] [Module R V] [EmbeddingSpace R V] in
/-- **Publishing what lies between the mark and the end of the closed speech**
keeps everything published once. -/
theorem PublishedOnce.publish {s t : RollingSession R V S} {closed : List TimeInterval}
    {calls : List (List (WordGroup R))} (h : PublishedOnce s)
    (hpairwise : (calls.flatMap callSlices).Pairwise Separate)
    (hbounds : ∀ i ∈ calls.flatMap callSlices,
      s.emittedUntilMs ≤ i.startMs ∧ ∃ j ∈ closed, i.endMs ≤ j.endMs)
    (hpublished : t.published = s.published ++ calls.flatMap callSlices)
    (hmark : t.emittedUntilMs = (closed.map TimeInterval.endMs).foldl max s.emittedUntilMs) :
    PublishedOnce t := by
  constructor
  · rw [hpublished]
    refine List.pairwise_append.mpr ⟨h.pairwise, hpairwise, fun i hi j hj => Or.inl ?_⟩
    exact (h.before i hi).trans (hbounds j hj).1
  · intro i hi
    rw [hpublished] at hi
    rw [hmark, le_foldl_max]
    rcases List.mem_append.mp hi with hi | hi
    · exact Or.inl (h.before i hi)
    · obtain ⟨-, j, hj, hij⟩ := hbounds i hi
      exact Or.inr ⟨j.endMs, List.mem_map_of_mem hj, hij⟩

omit [AddCommGroup V] [Module R V] [EmbeddingSpace R V] in
/-- What `publish` does: all of it, or nothing that is remembered. -/
theorem publish_cases (closed : List TimeInterval) (turns : List (SpeakerTurn R))
    (calls : List (List (WordGroup R))) (s : RollingSession R V S) :
    Unheard s (publish c closed turns calls s).2
      ∨ (publish c closed turns calls s).2.published = s.published ++ calls.flatMap callSlices
        ∧ (publish c closed turns calls s).2.emittedUntilMs
          = (closed.map TimeInterval.endMs).foldl max s.emittedUntilMs := by
  unfold RollingSession.publish
  rw [read_bind]
  rcases (within_onStreaming _).bind_cases s with ⟨e, t, hst, hrun⟩ | ⟨events, t, hst, -, hrun⟩
  · rw [hrun]
    exact Or.inl hst
  · rw [hrun, modify_bind]
    refine Or.inr ⟨?_, ?_⟩
    · show t.published ++ _ = _
      rw [hst.published]
    · show (closed.map TimeInterval.endMs).foldl max t.emittedUntilMs = _
      rw [hst.emittedUntilMs]

/-- What the loop over the closed speech collects. -/
theorem returns_closedCalls (models : ℕ → RollingModels R V S) (p : OfflinePipeline R)
    (closes : ℕ → Bool) (mono : AudioBuffer S) (diarization : DiarizationResult R)
    {regions : List (OverlapRegion R)}
    (hregions : regions.Pairwise (fun r r' => r.interval.Separate r'.interval))
    (emittedUntilMs : ℕ) (closed : List TimeInterval) :
    Returns (List.Forall₂ (CallsFor emittedUntilMs (regions.map OverlapRegion.interval)) closed)
      (.mapEach closed.zipIdx fun (interval, n) =>
        closedGroups c (models n) p closes mono diarization regions emittedUntilMs interval) := by
  intro s calls t hrun
  have hcalls := returns_mapEach (fun x _ => returns_closedGroups (models x.2) p closes mono
    diarization hregions emittedUntilMs x.1) s calls t hrun
  rw [← List.zipIdx_map_fst 0 closed]
  exact List.forall₂_map_left_iff.mpr hcalls

omit [AddCommGroup V] [Module R V] [EmbeddingSpace R V] in
/-- **The end of a step**: the groups are published, and then changes of
labels. -/
theorem publishedOnce_publish {s : RollingSession R V S} {closed : List TimeInterval}
    {regions : List (OverlapRegion R)} {calls : List (List (List (WordGroup R)))}
    (h : PublishedOnce s) (hclosed : closed.Pairwise Separate)
    (hregions : regions.Pairwise (fun r r' => r.interval.Separate r'.interval))
    (hcontained : RegionsContained s.emittedUntilMs closed (regions.map OverlapRegion.interval))
    (hcalls : List.Forall₂ (CallsFor s.emittedUntilMs (regions.map OverlapRegion.interval)) closed
      calls) (turns : List (SpeakerTurn R)) :
    PublishedOnce ((publish c closed turns calls.flatten >>= fun events => do
      let changes ← onStreaming (StreamingSession.drainLabelRevisions c.supply)
      return events ++ changes) s).2 := by
  obtain ⟨hpairwise, hbounds⟩ := slices_of_step hclosed (List.pairwise_map.mpr hregions) hcontained
    hcalls
  have hnext : PublishedOnce (publish c closed turns calls.flatten s).2 := by
    rcases publish_cases (c := c) closed turns calls.flatten s with hst | ⟨hpublished, hmark⟩
    · exact h.of_unheard hst
    · exact h.publish hpairwise hbounds hpublished hmark
  rcases hrun : publish c closed turns calls.flatten s with ⟨e | events, t⟩
  · rw [hrun] at hnext
    rw [bind_of_error hrun]
    exact hnext
  · rw [hrun] at hnext
    rw [bind_of_ok hrun]
    exact hnext.of_unheard ((within_bind (within_onStreaming _) (fun _ => within_pure _)) t)

/-- **One rolling step** publishes nothing twice, if its regions stay where its
closed speech is. -/
theorem publishedOnce_process {s : RollingSession R V S} {models : RollingModels R V S}
    {forceClose : Bool} (h : PublishedOnce s) (hvad : VadDisjoint models)
    (hcontained : StepContained c models forceClose s) :
    PublishedOnce (process c models forceClose s).2 := by
  unfold process
  rw [modify_bind, read_bind]
  set s₁ : RollingSession R V S := { s with lastProcessMs := s.nowMs } with hs₁
  have h₁ : Unheard s s₁ := ⟨rfl, rfl, rfl⟩
  cases hbuffer : s₁.windowBuffer c with
  | none => exact h.of_unheard h₁
  | some mono =>
    dsimp only
    cases hdiarization : models.diarizer mono with
    | error e => exact h.of_unheard h₁
    | ok diarization =>
      cases hosd : models.overlapDetector mono with
      | error e => exact h.of_unheard h₁
      | ok osd =>
        rw [ofExcept_ok_bind, ofExcept_ok_bind]
        rcases (within_onSession _).bind_cases s₁ with ⟨e, t, ht, hrun⟩ | ⟨_, s₂, h₂, -, hrun⟩
        · rw [hrun]
          exact (h.of_unheard h₁).of_unheard ht
        rw [hrun]
        replace h₂ : Unheard s s₂ := IsTrans.trans s s₁ s₂ h₁ h₂
        cases hspeech : models.adapters.vad [] mono with
        | error e => exact h.of_unheard h₂
        | ok speech =>
          rw [ofExcept_ok_bind]
          rcases (within_resolveLanguage models mono speech).bind_cases s₂
            with ⟨e, t, ht, hrun⟩ | ⟨_, s₃, h₃, -, hrun⟩
          · rw [hrun]
            exact (h.of_unheard h₂).of_unheard ht
          rw [hrun, read_bind]
          replace h₃ : Unheard s s₃ := IsTrans.trans s s₂ s₃ h₂ h₃
          set closed := s₃.closedIntervals c forceClose speech with hclosed
          have hsame : closed = s.closedIntervals c forceClose speech := by
            rw [hclosed]
            unfold closedIntervals isClosed nowMs
            rw [h₃.emittedUntilMs, h₃.totalSamples]
          split
          · exact (h.of_unheard h₃).of_unheard (within_onStreaming _ s₃)
          · rcases (within_onSession _).bind_cases s₃ with ⟨e, t, ht, hrun⟩ |
              ⟨calls, s₄, h₄, hok, hrun⟩
            · rw [hrun]
              exact (h.of_unheard h₃).of_unheard ht
            rw [hrun]
            have hregions := overlaps_pairwise (c := c) diarization osd
            have hcalls := returns_onSession (returns_closedCalls
              (fun n => { models with adapters := models.adapters.at (n + 1) }) _ _ mono diarization
              hregions s₃.emittedUntilMs closed) s₃ calls s₄ hok
            have hdisjoint : closed.Pairwise Separate := (hvad mono speech hspeech).filter _
            refine publishedOnce_publish ((h.of_unheard h₃).of_unheard h₄) hdisjoint hregions ?_ ?_
              _
            · rw [h₄.emittedUntilMs, h₃.emittedUntilMs, hsame]
              exact hcontained mono hbuffer diarization osd speech hdiarization hosd hspeech
            · rw [h₄.emittedUntilMs]
              exact hcalls

/-! ## Whole sessions -/

/-- The step that a command makes, if it makes one, has its regions where its
closed speech is. -/
def Contained (c : StreamingContext R) (s : RollingSession R V S) : SessionCommand R V S → Prop
  | .push models frame => (receive c frame s).isDue c = true →
      StepContained c models false (receive c frame s)
  | .finalize models _ => s.isFinalized = false → StepContained c models true s
  | .start | .fail _ _ | .replay _ => True

/-- The models a command runs hear disjoint intervals of speech. -/
def SessionCommand.VadDisjoint : SessionCommand R V S → Prop
  | .push models _ | .finalize models _ => RollingSession.VadDisjoint models
  | .start | .fail _ _ | .replay _ => True

/-- **A command** publishes nothing twice under the same condition. -/
theorem publishedOnce_step {s : RollingSession R V S} {command : SessionCommand R V S}
    (h : PublishedOnce s) (hvad : command.VadDisjoint) (hcontained : Contained c s command) :
    PublishedOnce (step c s command) := by
  cases command with
  | start =>
    have hstart : Within Unheard (start (S := S) (V := V) c) := by
      refine within_bind within_read (fun t => ?_)
      split
      · exact within_throw _
      · exact within_bind (within_modify (fun _ => ⟨rfl, rfl, rfl⟩))
          (fun _ => within_onStreaming _)
    exact h.of_unheard (hstart s)
  | push models frame =>
    show PublishedOnce (push c models frame s).2
    unfold push
    rw [read_bind]
    split
    · exact h
    · rw [modify_bind, read_bind]
      have hreceived : PublishedOnce (receive c frame s) := ⟨h.pairwise, h.before⟩
      split
      · next hdue => exact publishedOnce_process hreceived hvad (hcontained hdue)
      · exact hreceived
  | finalize models secondPass =>
    show PublishedOnce (finalize c models secondPass s).2
    unfold finalize
    rw [read_bind]
    split
    · exact h
    · next hopen =>
      rw [modify_bind]
      have hclosing : PublishedOnce { s with stateMachine := .finalizing } :=
        ⟨h.pairwise, h.before⟩
      have hlast := publishedOnce_process hclosing hvad (hcontained (Bool.not_eq_true _ ▸ hopen))
      rcases hrun : process c models true { s with stateMachine :=
        .finalizing } with ⟨e | events, t⟩
      · rw [hrun] at hlast
        rw [bind_of_error hrun]
        exact hlast
      · rw [hrun] at hlast
        rw [bind_of_ok hrun]
        have hrest : ∀ m : Method PyError (RollingSession R V S)
            (List (ServerEvent (EventPayload R))), Within Unheard m → PublishedOnce (m t).2 :=
          fun m hm => hlast.of_unheard (hm t)
        exact hrest _ (within_bind (within_onStreaming _) (fun _ => within_bind
          (within_modify (fun _ => ⟨rfl, rfl, rfl⟩)) (fun _ => within_bind within_read (fun _ =>
            within_bind (within_onStreaming _) (fun _ => within_pure _)))))
  | fail errorCode message =>
    have hfail : Within Unheard (fail (S := S) (V := V) c errorCode message) :=
      within_bind (within_modify (fun _ => ⟨rfl, rfl, rfl⟩)) (fun _ => within_onStreaming _)
    exact h.of_unheard (hfail s)
  | replay lastSequenceNumber => exact h

/-- **No moment of the audio is published twice**, in a session whose regions
stay where the closed speech of their step is. -/
theorem published_pairwise (c : StreamingContext R) (modelVersions : ModelVersions)
    (embeddingModelVersion : String) (commands : List (SessionCommand R V S))
    (hvad : ∀ command ∈ commands, command.VadDisjoint)
    (hcontained : EachStep (step c) (Contained c) (new c modelVersions embeddingModelVersion)
      commands) :
    Along (step c) (fun s => s.published.Pairwise Separate)
      (new c modelVersions embeddingModelVersion) commands := by
  have honce : Along (step c) PublishedOnce (new c modelVersions embeddingModelVersion)
      commands := by
    refine along_of_eachStep (C := fun s command => command.VadDisjoint ∧ Contained c s command)
      ⟨List.Pairwise.nil, fun _ hi => nomatch hi⟩
      (fun s command h hC => publishedOnce_step h hC.1 hC.2) (fun pre command hpre => ?_)
    exact ⟨hvad command (hpre.subset (List.mem_append_right pre List.mem_cons_self)),
      hcontained pre command hpre⟩
  exact fun pre hpre => (honce pre hpre).pairwise

/-! ## A region over a pause -/

/-- A session with the default configuration. -/
def listening : StreamingContext ℚ := .ofConfig {}

/-- The detectors find this speech, and one region; the recogniser hears one
word, and there is no separator. -/
def oneRegion (speech : List TimeInterval) (region : TimeInterval) : RollingModels ℚ ℚ Unit where
  adapters := {
    vad := fun place buffer => .ok (if place = [] then speech else [buffer.interval])
    transcribe := fun _ _ _ _ => .ok (.english [.heard "yes" 100 300 none])
    embed := fun _ _ _ _ _ _ => noVoice }
  diarizer _ := .ok (.found [] [region])
  overlapDetector _ := .ok []
  detectLanguage _ := .ok ("en", 1)

/-- Four tenths of a second are heard, and then the session is closed. -/
def heardOnceAndClosed (models : RollingModels ℚ ℚ Unit) : List (SessionCommand ℚ ℚ Unit) :=
  [.start, .push models (List.replicate 6400 ()), .finalize models (.ok {
    jobId := "session"
    state := .succeeded
    segments := []
    configVersion := "1"
    modelVersions := {} })]

theorem vadDisjoint_heardOnceAndClosed {speech : List TimeInterval} (region : TimeInterval)
    (h : speech.Pairwise Separate) :
    ∀ command ∈ heardOnceAndClosed (oneRegion speech region), command.VadDisjoint := by
  have hvad : VadDisjoint (oneRegion speech region) := by
    rintro mono _ ⟨⟩
    exact h
  intro command hcommand
  simp only [heardOnceAndClosed, List.mem_cons, List.not_mem_nil, or_false] at hcommand
  rcases hcommand with rfl | rfl | rfl
  · trivial
  · exact hvad
  · exact hvad

/-- A region inside of what is said is published once. -/
theorem published_pairwise_of_inside :
    Along (step listening) (fun s => s.published.Pairwise Separate) (new listening {} "campplus")
      (heardOnceAndClosed (oneRegion [⟨0, 400, by decide⟩] ⟨50, 350, by decide⟩)) := by
  refine published_pairwise listening {} "campplus" _
    (vadDisjoint_heardOnceAndClosed _ (List.pairwise_singleton _ _)) ?_
  refine eachStep_cons.mpr ⟨trivial, eachStep_cons.mpr ⟨fun hdue => ?_, eachStep_cons.mpr
    ⟨fun _ => ?_, eachStep_nil⟩⟩⟩
  · exact absurd hdue (by decide +kernel)
  · rintro mono - _ _ _ ⟨⟩ ⟨⟩ ⟨⟩
    rw [if_pos rfl]
    exact ⟨by decide +kernel, by decide +kernel, by decide +kernel⟩

/-- **A region over a pause is published twice**: once for what was said before
the pause, and once for what was said after it. -/
theorem region_published_twice :
    (∀ command ∈ heardOnceAndClosed
        (oneRegion [⟨0, 150, by decide⟩, ⟨200, 400, by decide⟩] ⟨0, 400, by decide⟩),
      command.VadDisjoint)
      ∧ ¬ Along (step listening) (fun s => s.published.Pairwise Separate)
        (new listening {} "campplus") (heardOnceAndClosed
          (oneRegion [⟨0, 150, by decide⟩, ⟨200, 400, by decide⟩] ⟨0, 400, by decide⟩)) := by
  refine ⟨vadDisjoint_heardOnceAndClosed _ (List.pairwise_pair.mpr (by decide)), fun h => ?_⟩
  exact absurd (h _ (List.prefix_refl _)) (by decide +kernel)

end RollingSession

end Sastt
