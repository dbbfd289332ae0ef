import Sastt.Application.OverlapRegions

/-!
# The word groups of an overlap region

A region comes out as the words of its sources, window by window, or as those of the
mixture, heard in the whole of it. Either way every group says how many people talk
in the region (`GroupOf`), whatever was heard.

A region may be handled in several ways, one after another. What holds of the groups
of the mixture and of those of a separation that came out holds of the groups of the
region (`returns_of_handled`).
-/

namespace Sastt

open Method

variable {R V S : Type} [Field R] [LinearOrder R] [IsStrictOrderedRing R] [AddCommGroup V]
  [Module R V] [EmbeddingSpace R V]

namespace OfflinePipeline

variable {p : OfflinePipeline R} {adapters : PipelineAdapters R V S} {ulids : ℕ → String}
  {decision : RouteDecision R} {slice : TimeInterval} {g : WordGroup R}

/-- **A word group of a region**, heard in a slice of it. -/
structure GroupOf (decision : RouteDecision R) (slice : TimeInterval) (g : WordGroup R) :
    Prop where
  isOverlap : g.isOverlap = true
  interval : g.interval = slice
  count : g.estimatedConcurrentSpeakers = decision.count.count
  countConfidence : g.countConfidence = decision.count.confidence

/-- **A word group of the mixture** is of no source, and is marked as degraded. -/
structure MixtureOf (decision : RouteDecision R) (slice : TimeInterval) (g : WordGroup R) : Prop
    extends GroupOf decision slice g where
  sourceTrack : g.sourceTrack = none
  degradedMode : g.degradedMode = true

/-- **A word group of a separated source**: the separator was called, for as many sources as
the region asks for, and the group is of one that it returned. -/
structure SourceOf (c : RegionContext R S) (separator : SpeechSeparator R S)
    (slice : TimeInterval) (g : WordGroup R) : Prop extends GroupOf c.decision slice g where
  produced : ∃ place crop batch, separator.separate place crop c.requested = .ok batch
    ∧ ∃ track < batch.sources.length, g.sourceTrack = some track

omit [Field R] [LinearOrder R] [IsStrictOrderedRing R] in
/-- A call at a place is a call. -/
theorem SourceOf.of_at {c : RegionContext R S} {separator : SpeechSeparator R S} {n : ℕ}
    (h : SourceOf c (separator.at n) slice g) : SourceOf c separator slice g where
  toGroupOf := h.toGroupOf
  produced := by
    obtain ⟨place, crop, batch, hbatch, htrack⟩ := h.produced
    exact ⟨_, crop, batch, hbatch, htrack⟩

/-- The mixture is heard in the whole region. -/
theorem groups_of_mixtureFallback {mono : AudioBuffer S} {region : OverlapRegion R}
    {warnings : List String} {r : List (WordGroup R) × List String}
    (h : p.mixtureFallback adapters mono region decision warnings = .ok r) :
    ∀ g ∈ r.1, MixtureOf decision region.interval g := by
  obtain ⟨crop, -, h⟩ := except_bind_eq_ok.mp h
  obtain ⟨result, -, h⟩ := except_bind_eq_ok.mp h
  dsimp only at h
  split at h
  · cases h
    exact fun g hg => nomatch hg
  · obtain ⟨speech, -, h⟩ := except_bind_eq_ok.mp h
    split at h
    · cases h
      exact fun g hg => nomatch hg
    · cases h
      intro g hg
      rw [List.mem_singleton.mp hg]
      exact ⟨⟨rfl, rfl, rfl, rfl⟩, rfl, rfl⟩

/-- A source is heard in the slice its window owns. -/
theorem groups_of_emitSources (window : WindowContext R)
    (sources : List (SeparatedSource R V S × LinkingDecision R)) (assignedInCrop : List String)
    (result : CropResult R) :
    Returns (fun r => ∀ g ∈ r.2.groups, g ∈ result.groups
        ∨ GroupOf window.decision window.owned g
          ∧ ∃ linked ∈ sources, g.sourceTrack = some linked.1.track)
      (p.emitSources adapters ulids window sources assignedInCrop result) := by
  induction sources generalizing assignedInCrop result with
  | nil => exact returns_pure (fun g hg => Or.inl hg)
  | cons linked rest ih =>
    have hrest : ∀ assignedInCrop result, Returns (fun r => ∀ g ∈ r.2.groups, g ∈ result.groups
        ∨ GroupOf window.decision window.owned g
          ∧ ∃ other ∈ linked :: rest, g.sourceTrack = some other.1.track)
        (p.emitSources adapters ulids window rest assignedInCrop result) := by
      intro assignedInCrop result s r t hrun g hg
      exact (ih _ _ s r t hrun g hg).imp_right (fun ⟨hof, other, hmem, htrack⟩ =>
        ⟨hof, other, List.mem_cons_of_mem linked hmem, htrack⟩)
    refine returns_bind (returns_of_true _) (fun asr _ => ?_)
    dsimp only
    split
    · exact hrest _ _
    · split
      · exact returns_pure (fun g hg => Or.inl hg)
      · refine returns_bind (returns_of_true _) (fun speakerId _ =>
          returns_bind (returns_of_true _) (fun _ _ s r t hrun g hg => ?_))
        rcases hrest _ _ s r t hrun g hg with hg | hg
        · rcases List.mem_append.mp hg with hg | hg
          · exact Or.inl hg
          · rw [List.mem_singleton.mp hg]
            exact Or.inr ⟨⟨rfl, rfl, rfl, rfl⟩, linked, List.mem_cons_self, rfl⟩
        · exact Or.inr hg

/-- A source has the track it was listened to on. -/
theorem track_of_separatedSource {batch : SeparatedBatch R S} {window owned : TimeInterval}
    {track : ℕ} {samples : List S} {quality : SourceQuality R} {source : SeparatedSource R V S}
    (h : p.separatedSource adapters batch window owned track samples quality = .ok source) :
    source.track = track := by
  obtain ⟨_, -, h⟩ := except_bind_eq_ok.mp h
  obtain ⟨_, -, h⟩ := except_bind_eq_ok.mp h
  obtain ⟨_, -, h⟩ := except_bind_eq_ok.mp h
  dsimp only at h
  split at h
  all_goals
    obtain ⟨_, -, h⟩ := except_bind_eq_ok.mp h
    obtain ⟨_, -, h⟩ := except_bind_eq_ok.mp h
    cases h
    rfl

/-- **What was listened to** was returned by the separator. -/
theorem track_of_listenWindow {c : RegionContext R S} {separator : SpeechSeparator R S} {n : ℕ}
    {window owned : TimeInterval} {r : List String × List (SeparatedSource R V S)}
    (h : p.listenWindow adapters c separator n window owned = .ok r) :
    ∃ crop batch, separator.separate [n] crop c.requested = .ok batch
      ∧ ∀ source ∈ r.2, source.track < batch.sources.length := by
  obtain ⟨crop, -, h⟩ := except_bind_eq_ok.mp h
  obtain ⟨batch, hbatch, h⟩ := except_bind_eq_ok.mp h
  obtain ⟨sources, hsources, h⟩ := except_bind_eq_ok.mp h
  cases h
  refine ⟨crop, batch, hbatch, fun source hsource => ?_⟩
  obtain ⟨⟨⟨samples, quality⟩, track⟩, hmem, hone⟩ := mem_of_mapM hsources hsource
  have hlt : track < (batch.sources.zip batch.sourceQuality).length :=
    List.snd_lt_of_mem_zipIdx hmem
  rw [track_of_separatedSource hone]
  exact hlt.trans_le (List.length_zip.trans_le (min_le_left _ _))

theorem groups_of_separateWindows (c : RegionContext R S) (separator : SpeechSeparator R S) (n : ℕ)
    (windows : List (TimeInterval × TimeInterval)) (previousMapping : PreviousMapping)
    (result : CropResult R) :
    Returns (fun r => ∀ g ∈ r.2.groups,
        g ∈ result.groups ∨ ∃ w ∈ windows, SourceOf c separator w.2 g)
      (p.separateWindows adapters ulids c separator n windows previousMapping result) := by
  induction windows generalizing n previousMapping result with
  | nil => exact returns_pure (fun g hg => Or.inl hg)
  | cons window rest ih =>
    refine returns_bind (returns_ofExcept (fun r h => track_of_listenWindow h))
      (fun listened hlistened => returns_bind (returns_of_true _) (fun s _ =>
        returns_bind (returns_of_true _) (fun linked _ =>
          returns_bind (groups_of_emitSources _ _ _ _) (fun emitted hemitted => ?_))))
    obtain ⟨crop, batch, hbatch, htracks⟩ := hlistened
    have hfirst : ∀ g ∈ emitted.2.groups, g ∈ result.groups
        ∨ ∃ w ∈ window :: rest, SourceOf c separator w.2 g := by
      intro g hg
      refine (hemitted g hg).imp_right (fun ⟨hof, linked, hmem, htrack⟩ => ?_)
      exact ⟨window, List.mem_cons_self, hof, _, crop, batch, hbatch, _,
        htracks _ (List.of_mem_zip hmem).1, htrack⟩
    dsimp only
    split
    · intro s r t hrun g hg
      rcases ih _ _ _ s r t hrun g hg with hg | ⟨w, hw, hg⟩
      · exact hfirst g hg
      · exact Or.inr ⟨w, List.mem_cons_of_mem window hw, hg⟩
    · exact returns_pure hfirst

/-- **What `separateAndLink` returns** is heard in slices of the region, source by source, or
it is the mixture. -/
theorem groups_of_separateAndLink (c : RegionContext R S) (padded : TimeInterval)
    (separator : SpeechSeparator R S) :
    Returns (fun r => (∀ g ∈ r.1, ∃ slice, SourceOf c separator slice g)
        ∨ (∀ g ∈ r.1, MixtureOf c.decision c.region.interval g) ∧ r.2.2 = true)
      (p.separateAndLink adapters ulids c padded separator) := by
  refine returns_bind (returns_of_true _) (fun windows _ =>
    returns_bind (groups_of_separateWindows c separator 0 windows [] {}) (fun separated hgroups =>
      ?_))
  dsimp only
  split
  · refine returns_pure (Or.inl (fun g hg => ?_))
    obtain ⟨w, -, hfrom⟩ := (hgroups g hg).resolve_left (fun h => nomatch h)
    exact ⟨w.2, hfrom⟩
  · exact returns_bind (returns_ofExcept (fun r h => groups_of_mixtureFallback h))
      (fun r hr => returns_pure (Or.inr ⟨hr, rfl⟩))

/-- **What holds of the mixture and of a separation** holds of the region: the mixture is
degraded, but where no separator was to run and the route is not degraded, and a
separation is by the separator of the route. -/
theorem returns_of_handled {c : RegionContext R S} {Q : List (WordGroup R) → Bool → Prop}
    (hmixture : ∀ groups degraded, (∀ g ∈ groups, MixtureOf c.decision c.region.interval g) →
      (c.decision.runsSeparation = true ∨ c.decision.degraded = true → degraded = true) →
      Q groups degraded)
    (hseparated : ∀ {adapters' : PipelineAdapters R V S} (separator : SpeechSeparator R S) n padded,
      c.decision.runsSeparation = true → separatorFor adapters c.decision = some separator →
      Returns (fun r => Q r.1 (c.decision.degraded || r.2.2))
        (p.separateAndLink adapters' ulids c padded (separator.at n))) :
    Returns (fun r => Q r.1 r.2.2) (p.handleOverlapRegion adapters ulids c) := by
  have hwhole : ∀ (warnings : List String) (degraded : Bool),
      (c.decision.runsSeparation = true ∨ c.decision.degraded = true → degraded = true) →
      Returns (fun r => Q r.1 r.2.2)
        (Method.ofExcept (p.mixtureFallback adapters c.mono c.region c.decision warnings)
          >>= fun found : List (WordGroup R) × List String =>
            (return (found.1, found.2, degraded) : Method PyError (Session R V) _)) :=
    fun warnings degraded hdegraded => returns_bind (returns_ofExcept
      (fun r h => groups_of_mixtureFallback h))
      (fun r hr => returns_pure (hmixture _ _ hr hdegraded))
  unfold handleOverlapRegion
  dsimp only
  split
  · next hruns =>
    refine hwhole _ _ (fun h => ?_)
    rcases h with h | h
    · rw [h, Bool.not_true, Bool.false_or] at hruns
      rw [hruns, Bool.or_true]
    · rw [h, Bool.true_or]
  · next hruns =>
    have hseparates : c.decision.runsSeparation = true := by
      rw [Bool.or_eq_true, not_or, Bool.not_eq_true', Bool.not_eq_false] at hruns
      exact hruns.1
    split
    · exact hwhole _ _ (fun _ => rfl)
    · next separator hseparator =>
      have hattempt : ∀ (n : ℕ) (crop : TimeInterval),
          Returns (fun r => ∀ result ∈ r, Q result.1 (c.decision.degraded || result.2.2))
            (p.attempt adapters ulids c separator n crop) :=
        fun n crop => returns_bind (hseparated separator n crop hseparates hseparator)
          (fun r hr => returns_pure (fun result hresult => Option.mem_some.mp hresult ▸ hr))
      have hboth : Returns (fun r => ∀ result ∈ r, Q result.1 (c.decision.degraded || result.2.2))
          (p.attemptSeparation adapters ulids c separator) :=
        returns_catchIf (hattempt _ _) (fun _ => returns_catchIf (hattempt _ _)
          (fun _ => returns_pure (fun result h => absurd h (Option.not_mem_none result))))
      refine returns_bind hboth (fun r hr => ?_)
      split
      · next groups warnings degraded => exact returns_pure (hr (groups, warnings, degraded) rfl)
      · exact hwhole _ _ (fun _ => rfl)

/-- **All groups of a region say how many talk in it.** -/
theorem groups_of_handleOverlapRegion (c : RegionContext R S) :
    Returns (fun r => ∀ g ∈ r.1, ∃ slice, GroupOf c.decision slice g)
      (p.handleOverlapRegion adapters ulids c) :=
  returns_of_handled (Q := fun groups _ => ∀ g ∈ groups, ∃ slice, GroupOf c.decision slice g)
    (fun _ _ hgroups _ g hg => ⟨_, (hgroups g hg).toGroupOf⟩)
    (fun separator n padded _ _ s r t hok g hg => by
      rcases groups_of_separateAndLink c padded (separator.at n) s r t hok with hsources | hmixture
      · obtain ⟨slice, hof⟩ := hsources g hg
        exact ⟨slice, hof.toGroupOf⟩
      · exact ⟨_, (hmixture.1 g hg).toGroupOf⟩)

/-- Speech of one person does not say how many talk. -/
theorem count_of_transcribeSlices {mono : AudioBuffer S} {n : ℕ} {pieces : List TimeInterval}
    {r : List (WordGroup R) × List String}
    (h : p.transcribeSlices adapters mono n pieces = .ok r) :
    ∀ g ∈ r.1, g.estimatedConcurrentSpeakers = none := by
  induction pieces generalizing n r with
  | nil =>
    cases h
    exact fun g hg => nomatch hg
  | cons piece rest ih =>
    unfold transcribeSlices at h
    split at h
    · exact ih h
    · obtain ⟨crop, -, h⟩ := except_bind_eq_ok.mp h
      obtain ⟨result, -, h⟩ := except_bind_eq_ok.mp h
      obtain ⟨later, hrest, h⟩ := except_bind_eq_ok.mp h
      have hlater := ih hrest
      dsimp only at h
      split at h
      · cases h
        exact hlater
      · split at h
        · cases h
          exact hlater
        · cases h
          exact List.forall_mem_cons.mpr ⟨rfl, hlater⟩

end OfflinePipeline

end Sastt
