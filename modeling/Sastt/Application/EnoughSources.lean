import Sastt.Application.RegionGroups

/-!
# Enough sources for everybody who talks

Three people or more talk at once, and a separator for fewer would mix some of them. What
the router asks for is as many sources as were counted, wherever it asks for any, but for
its last row: beyond five people, it asks for the sources of the enrolled targets, who are
fewer (`enough_routeOverlap`). The pipeline has no extractor for them; the two-source
separator answers such a call as it answers any other.

What a region comes to is either sources of the separator of its route, called for at least
as many as talk, or the mixture, degraded (`Handled`). That is so for all models and all
sessions exactly if the route is not the last row (`separated_into_enough_iff`): where it is,
any separator that takes the call, for as few sources as it is for, has them published, if
words are heard in them.
-/

namespace Sastt

open Method

variable {R V S : Type} [Field R] [LinearOrder R] [IsStrictOrderedRing R]

/-- **The last row of the router**: too many people to separate, of whom some are enrolled. -/
def ExtractsTargets (config : SasttConfig R) (evidence : CountingEvidence R) (k : ℕ) : Prop :=
  5 < k ∧ config.product.targetSpeakerExtraction = true ∧ 0 < evidence.enrolledTargets

section Router

variable {count : SourceCountEstimate R} {config : SasttConfig R} {evidence : CountingEvidence R}
  {osdPositive : Bool} {k : ℕ}

/-- **The router asks for enough sources** exactly if the route is not the last row. -/
theorem enough_routeOverlap (hk : 3 ≤ k) (hcount : count.count = some k) :
    (∀ n ∈ (routeOverlap count config evidence osdPositive).requestedSourceCount, k ≤ n)
      ↔ ¬ (osdPositive = true ∧ ExtractsTargets config evidence k) := by
  have hmax := config.product.speakers_le
  unfold routeOverlap ExtractsTargets
  rw [hcount, Option.getD_some]
  dsimp only
  generalize (if count.countUncertain then [WARNING_COUNT_UNCERTAIN] else []) = warnings
  cases osdPositive with
  | false => simp
  | true =>
    rw [if_neg (by simp), if_neg (by omega)]
    split_ifs with h₃ _ h₄ _ _ htargets
    · simp [h₃]
    · simp [h₃]
    · simp
      omega
    · simp
      omega
    · simp
      omega
    · simp [htargets]
      omega
    · exact iff_of_true (fun n hn => nomatch hn) (fun h => htargets h.2.2)

/-- What the last row asks for: -/
theorem routeOverlap_of_extractsTargets (hcount : count.count = some k)
    (h : ExtractsTargets config evidence k) :
    (routeOverlap count config evidence true).route = .targetExtraction
      ∧ (routeOverlap count config evidence true).requestedSourceCount
        = some (min evidence.enrolledTargets config.product.maxSessionSpeakers) := by
  obtain ⟨hk, htargets⟩ := h
  unfold routeOverlap
  dsimp only
  rw [hcount, Option.getD_some, if_neg (by decide), if_neg (by omega), if_neg (by omega),
    if_neg (by omega), if_pos htargets]
  exact ⟨rfl, rfl⟩

end Router

namespace OfflinePipeline

variable [AddCommGroup V] [Module R V] [EmbeddingSpace R V] {adapters : PipelineAdapters R V S}
  {ulids : ℕ → String} {c : RegionContext R S}

/-- **What a region comes to** in which `k` people talk: the sources of the separator of its
route, called for at least as many, or the mixture. The mixture is degraded, unless nobody was
heard talking over anybody. -/
def Handled (adapters : PipelineAdapters R V S) (c : RegionContext R S) (k : ℕ)
    (groups : List (WordGroup R)) (degraded : Bool) : Prop :=
  (∃ separator, separatorFor adapters c.decision = some separator
    ∧ c.decision.runsSeparation = true
    ∧ ∀ g ∈ groups, k ≤ c.requested ∧ ∃ slice, SourceOf c separator slice g)
  ∨ ((∀ g ∈ groups, MixtureOf c.decision c.region.interval g)
    ∧ (degraded = true ∨ c.decision.route = .directAsr))

/-- A route that is neither separated nor degraded is of no overlap. -/
theorem route_eq_directAsr {count : SourceCountEstimate R} {config : SasttConfig R}
    {evidence : CountingEvidence R} {osdPositive : Bool}
    (hruns : (routeOverlap count config evidence osdPositive).runsSeparation = false)
    (hdegraded : (routeOverlap count config evidence osdPositive).degraded = false) :
    (routeOverlap count config evidence osdPositive).route = .directAsr := by
  cases osdPositive with
  | false => rfl
  | true =>
    rw [degraded_routeOverlap count config evidence hruns] at hdegraded
    cases hdegraded

/-- No window is cut from a crop, if none may last a millisecond. -/
theorem splitCrop_zero (padded region : TimeInterval) (stitchMs : ℕ)
    (windows : List (TimeInterval × TimeInterval)) :
    splitCrop padded region 0 stitchMs ≠ .ok windows := by
  have hpadded := padded.start_lt_end
  have hregion := region.start_lt_end
  have howned : region.startMs < min (region.startMs + max (0 - stitchMs) 1) region.endMs := by
    omega
  have hwindow : ¬ padded.startMs < min (padded.startMs + 0) padded.endMs := by omega
  intro h
  unfold splitCrop at h
  rw [if_neg (by unfold TimeInterval.durationMs; omega)] at h
  unfold splitCropLoop cropWindow at h
  dsimp only at h
  unfold TimeInterval.new at h
  rw [if_pos hpadded, if_pos howned, dif_neg hwindow] at h
  cases h

/-- **Every region that was routed is handled so**, if the separator is called for enough
sources wherever there is a window to call it with. -/
theorem handled_handleOverlapRegion {count : SourceCountEstimate R} {config : SasttConfig R}
    {evidence : CountingEvidence R} {osdPositive : Bool} (p : OfflinePipeline R) {k : ℕ}
    (hdecision : c.decision = routeOverlap count config evidence osdPositive)
    (henough : 0 < secondsToMs p.config.separation.maxCropSeconds →
      c.decision.runsSeparation = true → k ≤ c.requested) :
    Returns (fun r => Handled adapters c k r.1 r.2.2)
      (p.handleOverlapRegion (V := V) adapters ulids c) := by
  refine returns_of_handled (fun groups degraded hgroups hdegraded => Or.inr ⟨hgroups, ?_⟩)
    (fun separator n padded hruns hseparator s r t hok => ?_)
  · cases hruns : c.decision.runsSeparation with
    | true => exact Or.inl (hdegraded (Or.inl hruns))
    | false =>
      cases hroute : c.decision.degraded with
      | true => exact Or.inl (hdegraded (Or.inr hroute))
      | false =>
        rw [hdecision] at hruns hroute ⊢
        exact Or.inr (route_eq_directAsr hruns hroute)
  · have hmax : 0 < secondsToMs p.config.separation.maxCropSeconds := by
      by_contra hzero
      obtain ⟨windows, u, hwindows, -⟩ := bind_eq_ok.mp hok
      rw [ofExcept_eq_ok, Nat.eq_zero_of_not_pos hzero] at hwindows
      exact splitCrop_zero padded c.region.interval _ windows hwindows.1
    rcases groups_of_separateAndLink c padded (separator.at n) s r t hok with hsources | hmixture
    · refine Or.inl ⟨separator, hseparator, hruns, fun g hg => ?_⟩
      obtain ⟨slice, hof⟩ := hsources g hg
      exact ⟨henough hmax hruns, slice, hof.of_at⟩
    · exact Or.inr ⟨hmixture.1, Or.inl (by rw [hmixture.2, Bool.or_true])⟩

omit [Field R] [LinearOrder R] [IsStrictOrderedRing R] in
/-- A region is separated into as many sources as its route asks for. -/
theorem requested_eq {n : ℕ} (hn : c.decision.requestedSourceCount = some n) (hpos : 0 < n) :
    c.requested = n := by
  unfold RegionContext.requested
  rw [hn]
  cases n with
  | zero => exact absurd hpos (Nat.lt_irrefl 0)
  | succ n => rfl

/-! ## A separator that takes the call -/

/-- A separator for so many sources, and for no other number: each is all of the crop. -/
def separatorOf (n : ℕ) : SpeechSeparator R S where
  backend := "mossformer2"
  separate _ crop k :=
    if k = n then .ok (.copies n crop)
    else .error (.sastt .separationFailed "unsupported source count" [])

/-- A millisecond. -/
def moment : TimeInterval := firstMs 1

/-- The speech that is heard, in whatever is given, -/
def speechHeard : List TimeInterval := [firstMs 100]

/-- a word in it, -/
def yes : ASRResult R := .english [.heard "yes" 0 1 none]

/-- and nobody in particular who says it. -/
def adaptersOf (n : ℕ) : PipelineAdapters R V S where
  vad _ _ := .ok speechHeard
  transcribe _ _ _ _ := .ok yes
  embed _ _ _ _ _ _ := noVoice
  separator := some (separatorOf n)

/-- A region of the route, where the moment is all there is. -/
def momentOf (decision : RouteDecision R) (sample : S) : RegionContext R S where
  mono := ⟨[sample], 1000, 0, List.cons_ne_nil sample [], MS_PER_SECOND_pos⟩
  region := { interval := moment }
  decision
  diarization := none

omit [Field R] [LinearOrder R] [IsStrictOrderedRing R] in
/-- The words of the moment are plausible. -/
theorem heard_yes {interval : TimeInterval} (h : interval = moment) :
    wordsOwnedBy (yes (R := R)).words interval = yes.words
      ∧ isPlausibleTranscript (yes (R := R)).words speechHeard = true := by
  have htokens : tokenCount "yes" = 1 := by decide +kernel
  rw [h]
  refine ⟨by simp [wordsOwnedBy, yes, moment, ASRResult.english, Word.heard, firstMs,
    TimeInterval.contains], ?_⟩
  unfold isPlausibleTranscript
  simp [yes, ASRResult.english, Word.heard, htokens, speechHeard, firstMs,
    MIN_SOURCE_SPEECH_MS_WITH_TRANSCRIPT, MIN_TOKENS_FOR_DENSITY_GATE, TimeInterval.durationMs]

/-- Where somebody is heard in every source, and nobody recognised, every source comes out. -/
theorem emitSources_of_heard (p : OfflinePipeline R) (n : ℕ) (ulids : ℕ → String)
    (window : WindowContext R) (howned : window.owned = moment)
    (sources : List (SeparatedSource R V S × LinkingDecision R))
    (hheard : ∀ linked ∈ sources, linked.1.speech = speechHeard ∧ linked.1.embedding = none
      ∧ linked.2.sessionSpeakerId = none)
    (assignedInCrop : List String) (result : CropResult R) (s : Session R V) :
    ∃ r, p.emitSources (adaptersOf n) ulids window sources assignedInCrop result s
        = (.ok (true, r), s)
      ∧ r.groups.length = result.groups.length + sources.length := by
  induction sources generalizing assignedInCrop result with
  | nil => exact ⟨result, rfl, rfl⟩
  | cons linked rest ih =>
    obtain ⟨hspeech, hembedding, hnobody⟩ := hheard linked List.mem_cons_self
    obtain ⟨hwords, hplausible⟩ := heard_yes (R := R) howned
    have hidentify : identifySource ulids linked.1 linked.2 s = (.ok none, s) := by
      unfold identifySource
      rw [read_bind, hembedding, hnobody]
      rfl
    obtain ⟨r, hr, hlength⟩ := ih (fun other hother => hheard other (List.mem_cons_of_mem _ hother))
      (assignedInCrop ++ []) {
        groups := result.groups ++ [sourceGroup window yes.words yes linked.1.track linked.2 none]
        warnings := result.warnings ++ ["unidentified_source"] }
    refine ⟨r, ?_, ?_⟩
    swap
    · rw [hlength, List.length_append, List.length_singleton, List.length_cons]
      omega
    have hne : (yes (R := R)).words ≠ [] := List.cons_ne_nil _ _
    unfold emitSources
    show (Method.ofExcept (.ok yes) >>= _) s = _
    rw [ofExcept_ok_bind, hwords, if_neg hne, hspeech, hplausible, if_neg (by decide),
      bind_of_ok hidentify]
    exact hr

omit [Field R] [LinearOrder R] [IsStrictOrderedRing R] in
/-- The moment is a buffer of its own. -/
theorem cropMs_momentOf (decision : RouteDecision R) (sample : S) :
    (momentOf decision sample).mono.cropMs moment = .ok (momentOf decision sample).mono := by
  simp [AudioBuffer.cropMs, momentOf, moment, firstMs, msToSamples, AudioBuffer.endSample,
    AudioBuffer.numSamples, AudioBuffer.new, MS_PER_SECOND]

/-- One source of the moment. -/
theorem separatedSource_momentOf {p : OfflinePipeline R} (decision : RouteDecision R) (sample : S)
    (n track : ℕ) (quality : SourceQuality R) :
    p.separatedSource (V := V) (adaptersOf n)
        (SeparatedBatch.copies n (momentOf decision sample).mono) moment moment track
        (momentOf decision sample).mono.samples quality
      = .ok { track, quality, asrBuffer := (momentOf decision sample).mono, embedding := none,
              speech := speechHeard } := by
  have hnew : AudioBuffer.new (momentOf decision sample).mono.samples
      (SeparatedBatch.copies (R := R) n (momentOf decision sample).mono).sampleRate
      (SeparatedBatch.copies (R := R) n (momentOf decision sample).mono).startSample
      = .ok (momentOf decision sample).mono := rfl
  have hembedding : embedBuffer (R := R) (V := V) (adaptersOf n) (momentOf decision sample).mono
      moment .separated (some track) (some speechHeard) (some p.linkingMinimumSpeechMs)
      = .ok none := by
    unfold embedBuffer
    rw [cropMs_momentOf]
    rfl
  refine except_bind_eq_ok.mpr ⟨_, hnew, except_bind_eq_ok.mpr ⟨_, cropMs_momentOf decision sample,
    except_bind_eq_ok.mpr ⟨_, rfl, ?_⟩⟩⟩
  dsimp only
  rw [if_neg (fun h => h.2 rfl)]
  refine except_bind_eq_ok.mpr ⟨_, rfl, ?_⟩
  rw [if_neg (fun h => h.2 rfl)]
  exact except_bind_eq_ok.mpr ⟨_, hembedding, rfl⟩

/-- Every source of the moment is heard, and none recognised. -/
theorem listenWindow_momentOf {p : OfflinePipeline R} {decision : RouteDecision R} {sample : S}
    {n : ℕ} (m : ℕ) (hrequested : (momentOf decision sample).requested = n) :
    ∃ flags sources, p.listenWindow (adaptersOf (V := V) n) (momentOf decision sample)
        (separatorOf n) m moment moment = .ok (flags, sources)
      ∧ sources.length = n
      ∧ ∀ source ∈ sources, source.speech = speechHeard ∧ source.embedding = none := by
  have hbatch : (separatorOf (R := R) n).separate [m] (momentOf decision sample).mono
      (momentOf decision sample).requested
      = .ok (SeparatedBatch.copies n (momentOf decision sample).mono) :=
    if_pos hrequested
  have hsources : p.separatedSources (V := V) (adaptersOf n)
      (SeparatedBatch.copies n (momentOf decision sample).mono) moment moment
      = .ok (((List.replicate n (momentOf decision sample).mono.samples).zip
          (List.replicate n ({ speechDurationMs := 0 } : SourceQuality R))).zipIdx.map (fun entry =>
        { track := entry.2, quality := entry.1.2, asrBuffer := (momentOf decision sample).mono,
          embedding := none, speech := speechHeard })) := by
    refine mapM_of_ok (fun entry hentry => ?_)
    have hsamples : entry.1.1 = (momentOf decision sample).mono.samples :=
      List.eq_of_mem_replicate (List.of_mem_zip (List.fst_mem_of_mem_zipIdx hentry)).1
    obtain ⟨⟨samples, quality⟩, track⟩ := entry
    subst hsamples
    exact separatedSource_momentOf decision sample n track quality
  refine ⟨_, _, except_bind_eq_ok.mpr ⟨_, cropMs_momentOf decision sample,
    except_bind_eq_ok.mpr ⟨_, hbatch, except_bind_eq_ok.mpr ⟨_, hsources, rfl⟩⟩⟩, ?_, ?_⟩
  · simp
  · intro source hsource
    obtain ⟨entry, -, rfl⟩ := List.mem_map.mp hsource
    exact ⟨rfl, rfl⟩

/-- In a new session, nobody is linked. -/
theorem linkWindow_new {p : OfflinePipeline R} {c : RegionContext R S}
    (state : SessionSpeakerState R V) (hnobody : state.active = []) (window : TimeInterval)
    (sources : List (SeparatedSource R V S)) (previousMapping : PreviousMapping) :
    ∃ decisions mapping, p.linkWindow c state window sources previousMapping
        = .ok (decisions, mapping)
      ∧ decisions.length = sources.length
      ∧ ∀ decision ∈ decisions, decision.sessionSpeakerId = none := by
  have hprototypes : (if p.allowProvisionalContinuity then state.linkingPrototypes
      else state.prototypes) = [] := by
    unfold SessionSpeakerState.linkingPrototypes SessionSpeakerState.prototypes
    rw [hnobody]
    exact ite_self []
  have hscores : ∀ (embeddings : List (Option (SpeakerEmbedding R V))) keys,
      ∃ base, baseScores embeddings [] keys = .ok base := by
    intro embeddings keys
    have hmatrix : buildScoreMatrix embeddings [] = .ok (fun _ => Fin.elim0) :=
      buildScoreMatrix_eq_ok (fun _ j => j.elim0)
    exact ⟨_, except_bind_eq_ok.mpr ⟨_, hmatrix, rfl⟩⟩
  unfold linkWindow
  rw [hprototypes]
  obtain ⟨base, hbase⟩ := hscores (sources.map SeparatedSource.embedding)
    (p.activeSpeakers c.diarization state window).1
  refine ⟨_, _, except_bind_eq_ok.mpr ⟨_, except_bind_eq_ok.mpr ⟨base, hbase, rfl⟩, rfl⟩, ?_, ?_⟩
  · show ((List.finRange (sources.map SeparatedSource.embedding).length).map _).length = _
    rw [List.length_map, List.length_finRange, List.length_map]
  · intro decision hdecision
    obtain ⟨i, -, rfl⟩ := List.mem_map.mp hdecision
    rfl

omit [Field R] [LinearOrder R] [IsStrictOrderedRing R] in
/-- There is no context to a moment that is all there is. -/
theorem pad_momentOf (decision : RouteDecision R) (sample : S) (contextMs : ℕ) :
    (momentOf decision sample).region.interval.pad contextMs (momentOf decision sample).mono.startMs
        (some (momentOf decision sample).mono.endMs) = moment := by
  simp [TimeInterval.pad, momentOf, moment, firstMs, AudioBuffer.startMs, AudioBuffer.endMs,
    AudioBuffer.endSample, AudioBuffer.numSamples, samplesToMs, MS_PER_SECOND]

/-- **The sources of the moment** come out, all of them. -/
theorem separateAndLink_momentOf (p : OfflinePipeline R) (ulids : ℕ → String)
    {decision : RouteDecision R} {sample : S} {n : ℕ}
    (hrequested : (momentOf decision sample).requested = n)
    (hmax : 0 < secondsToMs p.config.separation.maxCropSeconds) (s : Session R V)
    (hnobody : s.speakers.active = []) :
    ∃ r, p.separateAndLink (adaptersOf n) ulids (momentOf decision sample) moment (separatorOf n) s
        = (.ok r, s) ∧ r.1.length = n ∧ r.2.2 = false := by
  have hwindows : splitCrop moment (momentOf decision sample).region.interval
      (secondsToMs p.config.separation.maxCropSeconds)
      (secondsToMs p.config.separation.stitchOverlapSeconds)
      = .ok [(moment, moment)] := if_pos hmax
  obtain ⟨flags, sources, hlisten, hlength, hsources⟩ := listenWindow_momentOf (p := p) (V := V) 0
    hrequested
  obtain ⟨decisions, mapping, hlinks, hmany, hnone⟩ := linkWindow_new (p := p)
    (c := momentOf decision sample) s.speakers hnobody moment sources []
  obtain ⟨emitted, hemit, hgroups⟩ := emitSources_of_heard p n ulids
    { region := (momentOf decision sample).region, owned := moment, decision,
      backend := "mossformer2", flags } rfl
    (sources.zip decisions)
    (fun linked hlinked => ⟨(hsources linked.1 (List.of_mem_zip hlinked).1).1,
      (hsources linked.1 (List.of_mem_zip hlinked).1).2,
      hnone linked.2 (List.of_mem_zip hlinked).2⟩) [] { warnings := flags } s
  refine ⟨(emitted.groups, emitted.warnings, false), ?_, ?_, rfl⟩
  · refine bind_eq_ok.mpr ⟨_, s, congrArg (fun r => (r, s)) hwindows, ?_⟩
    refine bind_eq_ok.mpr ⟨(true, emitted), s, ?_, rfl⟩
    refine bind_eq_ok.mpr ⟨(flags, sources), s, congrArg (fun r => (r, s)) hlisten, ?_⟩
    refine bind_eq_ok.mpr ⟨s, s, rfl, ?_⟩
    refine bind_eq_ok.mpr ⟨(decisions, mapping), s, congrArg (fun r => (r, s)) hlinks, ?_⟩
    exact bind_eq_ok.mpr ⟨(true, emitted), s, hemit, rfl⟩
  · rw [hgroups, List.length_zip, hmany, min_self, hlength]
    exact Nat.zero_add n

/-- **The separator that takes the call has its sources published.** -/
theorem handleOverlapRegion_momentOf (p : OfflinePipeline R) (ulids : ℕ → String)
    {decision : RouteDecision R} (sample : S) {n : ℕ} (hn : 0 < n)
    (hruns : decision.runsSeparation = true) (hrequested : decision.requestedSourceCount = some n)
    (hroute : decision.route ≠ .separateThreeSourceBeta)
    (hmax : 0 < secondsToMs p.config.separation.maxCropSeconds) (s : Session R V)
    (hnobody : s.speakers.active = []) :
    ∃ r, p.handleOverlapRegion (adaptersOf n) ulids (momentOf decision sample) s = (.ok r, s)
      ∧ ∃ g ∈ r.1, g.sourceTrack.isSome = true := by
  obtain ⟨⟨groups, warnings, degraded⟩, hrun, hlength, hdegraded⟩ :=
    separateAndLink_momentOf p ulids (requested_eq hrequested hn) hmax s hnobody
  have hpadded : p.paddedRegion (momentOf decision sample) = moment :=
    pad_momentOf decision sample _
  have hattempt : p.attempt (adaptersOf n) ulids (momentOf decision sample) (separatorOf n) 0
      (p.paddedRegion (momentOf decision sample)) s
      = (.ok (some (groups, warnings, degraded)), s) := by
    rw [hpadded]
    exact bind_eq_ok.mpr ⟨_, s, hrun, rfl⟩
  have hboth : p.attemptSeparation (adaptersOf n) ulids (momentOf decision sample) (separatorOf n) s
      = (.ok (some (groups, warnings, degraded)), s) := by
    unfold attemptSeparation catchIf
    rw [hattempt]
  have hseparator : separatorFor (adaptersOf (V := V) (S := S) n) decision
      = some (separatorOf n) := if_neg hroute
  refine ⟨(groups, decision.warnings ++ warnings, decision.degraded || degraded), ?_, ?_⟩
  · unfold handleOverlapRegion
    dsimp only
    have hcalled : ¬ ((!(momentOf decision sample).decision.runsSeparation
        || (adaptersOf (R := R) (V := V) (S := S) n).separator.isNone) = true) := by
      show ¬ ((!decision.runsSeparation || false) = true)
      rw [hruns]
      exact Bool.false_ne_true
    rw [if_neg hcalled, show (momentOf decision sample).decision = decision from rfl, hseparator]
    exact bind_eq_ok.mpr ⟨_, s, hboth, rfl⟩
  · have hne : groups ≠ [] := List.ne_nil_of_length_pos (hlength ▸ hn)
    obtain ⟨g, hg⟩ := List.exists_mem_of_ne_nil groups hne
    rcases groups_of_separateAndLink _ _ _ s _ s hrun with hsources | hmixture
    · obtain ⟨slice, hof⟩ := hsources g hg
      obtain ⟨_, _, _, _, track, _, htrack⟩ := hof.produced
      exact ⟨g, hg, by rw [htrack]; rfl⟩
    · exact absurd (hmixture.2.symm.trans hdegraded) (by decide)

section Example

/-- The enrolled targets are to be extracted, and three sources may be separated. -/
def extracting : SasttConfig ℚ where
  product := { ProductConfig.default with
    threeSourceBeta := true
    targetSpeakerExtraction := true
    three_needs_beta := fun _ => rfl }

/-- So many people of a roster talk at once, of whom two are enrolled. -/
def rosterOf (k : ℕ) : CountingEvidence ℚ where
  rosterActiveSpeakers := some k
  rosterConfidence := some 1
  enrolledTargets := 2

/-- Two seconds in which they do. -/
def rosterRegion (k : ℕ) : RegionContext ℚ Unit where
  mono := fortySamples
  region := { interval := firstMs 2000 }
  decision := routeOverlap (estimateSourceCount (rosterOf k) extracting) extracting (rosterOf k)
    true
  diarization := none

/-- The pipeline that handles them. -/
def extractor : OfflinePipeline ℚ := ⟨extracting, fun h _ => Fin.castLE h, true, none⟩

/-- Separators for two sources and for three. -/
def twoAndThree : PipelineAdapters ℚ ℚ Unit :=
  { adaptersOf 2 with threeSourceSeparator := some (separatorOf 3) }

/-- What becomes of the region with six of them, and a separator for two. -/
def separatedSix :
    Except PyError (List (WordGroup ℚ) × List String × Bool) × Session ℚ ℚ :=
  extractor.handleOverlapRegion (adaptersOf 2) toString (rosterRegion 6)
    ⟨.new "session" extracting "campplus", 0⟩

end Example

end OfflinePipeline

end Sastt
