import Sastt.Application.PipelineStages

/-!
# What a pipeline raises by itself

A pipeline raises what its models raise. By itself it only raises that a
buffer has no audio, or an exception of the language, when it computes with
what the models return. In particular none of the stages up to linking raises
`InvalidStateTransition` (`NotInvalid`), unless a model does: that one is left
to the speakers of the session.
-/

namespace Sastt

open Method

variable {R V S : Type} [Field R] [LinearOrder R] [IsStrictOrderedRing R] [AddCommGroup V]
  [Module R V] [EmbeddingSpace R V]

/-- Any error but that of a state machine. -/
def NotInvalid (e : PyError) : Prop := e.isClass .invalidStateTransition = false

theorem notInvalid_of_not_sastt {e : PyError} (h : e.isSastt = false) : NotInvalid e :=
  PyError.isClass_of_not_sastt h _

/-- **The models raise no error of a state machine.** -/
structure PipelineAdapters.NotInvalid (adapters : PipelineAdapters R V S) : Prop where
  vad : ∀ place buffer, Fails Sastt.NotInvalid (adapters.vad place buffer)
  transcribe : ∀ place buffer language track,
    Fails Sastt.NotInvalid (adapters.transcribe place buffer language track)
  embed : ∀ place buffer speech origin minimum track,
    Fails Sastt.NotInvalid (adapters.embed place buffer speech origin minimum track)
  separator : ∀ separator ∈ adapters.separator, ∀ place buffer n,
    Fails Sastt.NotInvalid (separator.separate place buffer n)
  threeSourceSeparator : ∀ separator ∈ adapters.threeSourceSeparator, ∀ place buffer n,
    Fails Sastt.NotInvalid (separator.separate place buffer n)

section Models

variable {adapters : PipelineAdapters R V S}

omit [IsStrictOrderedRing R] in
theorem PipelineAdapters.NotInvalid.at (h : adapters.NotInvalid) (n : ℕ) :
    (adapters.at n).NotInvalid where
  vad place := h.vad (n :: place)
  transcribe place := h.transcribe (n :: place)
  embed place := h.embed (n :: place)
  separator separator hmem place := by
    obtain ⟨here, hhere, rfl⟩ := Option.map_eq_some_iff.mp hmem
    exact h.separator here hhere (n :: place)
  threeSourceSeparator separator hmem place := by
    obtain ⟨here, hhere, rfl⟩ := Option.map_eq_some_iff.mp hmem
    exact h.threeSourceSeparator here hhere (n :: place)

/-! ## Audio -/

theorem fails_interval (startMs endMs : ℕ) : Fails NotInvalid (TimeInterval.new startMs endMs) := by
  unfold TimeInterval.new
  split
  · exact fails_ok _
  · exact fails_error rfl

theorem fails_audio (samples : List S) (sampleRate startSample : ℕ) :
    Fails NotInvalid (AudioBuffer.new samples sampleRate startSample) := by
  unfold AudioBuffer.new
  split
  · split
    · exact fails_ok _
    · exact fails_error rfl
  · exact fails_error rfl

theorem fails_cropMs (buffer : AudioBuffer S) (interval : TimeInterval) :
    Fails NotInvalid (buffer.cropMs interval) := by
  unfold AudioBuffer.cropMs
  dsimp only
  split
  · exact fails_error rfl
  · exact fails_audio _ _ _

theorem fails_splitCrop (padded region : TimeInterval) (maxCropMs stitchMs : ℕ) :
    Fails NotInvalid (splitCrop padded region maxCropMs stitchMs) := by
  have hwindow : ∀ step start ownedStart,
      Fails NotInvalid (cropWindow padded region maxCropMs step start ownedStart) := by
    intro step start ownedStart
    unfold cropWindow
    dsimp only
    split
    · exact fails_bind (fails_interval _ _) (fun _ => fails_bind (fails_interval _ _)
        (fun _ => fails_ok _))
    · exact fails_ok _
  have hloop : ∀ start ownedStart,
      Fails NotInvalid (splitCropLoop padded region maxCropMs stitchMs start ownedStart) := by
    intro start ownedStart
    fun_induction splitCropLoop padded region maxCropMs stitchMs start ownedStart with
    | case1 start ownedStart step hlt ih =>
      refine fails_bind (hwindow _ _ _) (fun here => ?_)
      split
      · exact fails_ok _
      · exact fails_bind ih (fun _ => fails_ok _)
    | case2 => exact fails_ok _
  unfold splitCrop
  split
  · exact fails_ok _
  · exact hloop _ _

omit [IsStrictOrderedRing R] in
/-- Too little speech is no error of `embed_buffer`. -/
theorem fails_embedded (h : adapters.NotInvalid) (crop : AudioBuffer S)
    (speech : List TimeInterval) (origin : EmbeddingOrigin) (minimumSpeechMs : Option ℕ)
    (sourceTrack : Option ℕ) :
    Fails NotInvalid (match adapters.embed [] crop speech origin minimumSpeechMs sourceTrack with
      | .ok embedding => pure (some embedding)
      | .error e => if e.isClass .insufficientSpeechForEmbedding then pure none else .error e) := by
  split
  · exact fails_ok _
  · next e he =>
    split
    · exact fails_ok _
    · exact fails_error (h.embed _ _ _ _ _ _ e he)

omit [IsStrictOrderedRing R] in
theorem fails_embedBuffer (h : adapters.NotInvalid) (buffer : AudioBuffer S)
    (interval : TimeInterval) (origin : EmbeddingOrigin) (sourceTrack : Option ℕ)
    (speechIntervals : Option (List TimeInterval)) (minimumSpeechMs : Option ℕ) :
    Fails NotInvalid (embedBuffer adapters buffer interval origin sourceTrack speechIntervals
      minimumSpeechMs) := by
  unfold embedBuffer
  split
  · next e he =>
    split
    · exact fails_ok _
    · exact fails_error (fails_cropMs buffer interval e he)
  · next crop _ =>
    dsimp only
    split
    · exact fails_bind (fails_ok _) (fun speech => fails_embedded h crop speech _ _ _)
    · exact fails_bind (h.vad _ _) (fun speech => fails_embedded h crop speech _ _ _)

theorem fails_poolPieces (mono : AudioBuffer S) (targetMs : ℕ) (speech : List TimeInterval)
    (pooledMs : ℕ) : Fails NotInvalid (poolPieces mono targetMs speech pooledMs) := by
  fun_induction poolPieces mono targetMs speech pooledMs with
  | case1 => exact fails_ok _
  | case2 _ _ _ _ ih => exact ih
  | case3 => exact fails_ok _
  | case4 interval rest pooledMs clipped hclipped take htake ih =>
    refine fails_bind (fails_interval _ _) (fun _ => fails_bind (fails_cropMs _ _) (fun _ => ?_))
    split
    · exact fails_ok _
    · exact fails_bind ih (fun _ => fails_ok _)

theorem fails_poolSpeech (mono : AudioBuffer S) (speech : List TimeInterval) (targetMs : ℕ) :
    Fails NotInvalid (poolSpeech mono speech targetMs) := by
  refine fails_bind (fails_poolPieces _ _ _ _) (fun pieces => ?_)
  dsimp only
  split
  · exact fails_ok _
  · split
    · exact fails_ok _
    · exact fails_bind (fails_audio _ _ _) (fun _ => fails_ok _)

/-! ## The stages of a pipeline -/

namespace OfflinePipeline

variable (p : OfflinePipeline R)

omit [IsStrictOrderedRing R] in
theorem fails_link (embeddings : List (Option (SpeakerEmbedding R V)))
    (prototypes : List (SpeakerPrototype R V)) :
    Fails NotInvalid (buildScoreMatrix embeddings prototypes) := by
  intro e he
  unfold buildScoreMatrix at he
  split at he
  · next e' hrefused =>
    cases he
    obtain ⟨score, hscore, hrefusal⟩ := List.exists_of_findSome?_eq_some hrefused
    obtain ⟨embedding, -, hscore⟩ := List.mem_flatMap.mp hscore
    obtain ⟨prototype, -, rfl⟩ := List.mem_map.mp hscore
    cases embedding with
    | none => cases hrefusal
    | some embedding =>
      unfold scoreOf SpeakerPrototype.similarity at hrefusal
      dsimp only at hrefusal
      split at hrefusal
      · cases hrefusal
        rfl
      · cases hrefusal
  · cases he

variable {p}

/-- Identifying the language. -/
theorem fails_resolveSessionLanguage {detectLanguage : AudioBuffer S → Except PyError (String × R)}
    (h : ∀ buffer, Fails NotInvalid (detectLanguage buffer)) (pinned : Option String)
    (mono : AudioBuffer S) (speech : List TimeInterval) :
    Fails NotInvalid (p.resolveSessionLanguage detectLanguage pinned mono speech) := by
  unfold resolveSessionLanguage
  dsimp only
  split
  · exact fails_ok _
  · refine fails_bind (fails_poolSpeech _ _ _) (fun pooled => ?_)
    split
    · exact fails_ok _
    · refine fails_bind (h _) (fun detected => ?_)
      split <;> exact fails_ok _

/-- Speech of one person. -/
theorem fails_transcribeNonOverlap (h : adapters.NotInvalid) (mono : AudioBuffer S)
    (speech : List TimeInterval) (overlapRegions : List (OverlapRegion R)) :
    Fails NotInvalid (p.transcribeNonOverlap adapters mono speech overlapRegions) := by
  unfold transcribeNonOverlap
  generalize subtractIntervals speech (overlapRegions.map OverlapRegion.interval) = slices
  generalize 0 = n
  induction slices generalizing n with
  | nil => exact fails_ok _
  | cons interval rest ih =>
    unfold transcribeSlices
    split
    · exact ih _
    · refine fails_bind (fails_cropMs _ _) (fun crop => fails_bind (h.transcribe _ _ _ _)
        (fun result => fails_bind (ih _) (fun (groups, warnings) => ?_)))
      dsimp only
      split
      · exact fails_ok _
      · split <;> exact fails_ok _

/-- The mixture. -/
theorem fails_mixtureFallback (h : adapters.NotInvalid) (mono : AudioBuffer S)
    (region : OverlapRegion R) (decision : RouteDecision R) (warnings : List String) :
    Fails NotInvalid (p.mixtureFallback adapters mono region decision warnings) := by
  refine fails_bind (fails_cropMs _ _) (fun crop => fails_bind (h.transcribe _ _ _ _)
    (fun result => ?_))
  dsimp only
  split
  · exact fails_ok _
  · refine fails_bind (h.vad _ _) (fun speech => ?_)
    split <;> exact fails_ok _

/-- The sources of a window. -/
theorem fails_separatedSources (h : adapters.NotInvalid) (batch : SeparatedBatch R S)
    (window owned : TimeInterval) :
    Fails NotInvalid (p.separatedSources adapters batch window owned) := by
  refine fails_mapM (fun ((samples, quality), track) _ => ?_)
  have hat := h.at track
  refine fails_bind (fails_audio _ _ _) (fun source => fails_bind (fails_cropMs _ _)
    (fun asrBuffer => fails_bind (hat.vad _ _) (fun speech => ?_)))
  have hrest : ∀ slice embedSpeech, Fails NotInvalid (do
      let embedding ← embedBuffer (adapters.at track) source slice .separated (some track)
        (some embedSpeech) (some p.linkingMinimumSpeechMs)
      return ({ track, asrBuffer, speech, embedding, quality } : SeparatedSource R V S)) :=
    fun _ _ => fails_bind (fails_embedBuffer hat _ _ _ _ _ _) (fun _ => fails_ok _)
  dsimp only
  split
  · exact fails_bind (hat.vad _ _) (hrest _)
  · exact fails_bind (fails_ok _) (hrest _)

/-- Listening to a window. -/
theorem fails_listenWindow (h : adapters.NotInvalid) (c : RegionContext R S)
    {separator : SpeechSeparator R S}
    (hseparator : ∀ place buffer n, Fails NotInvalid (separator.separate place buffer n)) (n : ℕ)
    (window owned : TimeInterval) :
    Fails NotInvalid (p.listenWindow adapters c separator n window owned) :=
  fails_bind (fails_cropMs _ _) (fun _ => fails_bind (hseparator _ _ _) (fun _ =>
    fails_bind (fails_separatedSources (h.at n) _ _ _) (fun _ => fails_ok _)))

/-- Linking its sources. -/
theorem fails_linkWindow (c : RegionContext R S) (state : SessionSpeakerState R V)
    (window : TimeInterval) (sources : List (SeparatedSource R V S))
    (previousMapping : PreviousMapping) :
    Fails NotInvalid (p.linkWindow c state window sources previousMapping) :=
  fails_bind (fails_bind (fails_bind (fails_link _ _) (fun _ => fails_ok _)) (fun _ => fails_ok _))
    (fun _ => fails_ok _)

end OfflinePipeline

end Models

end Sastt
