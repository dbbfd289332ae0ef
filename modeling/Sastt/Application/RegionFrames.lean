import Sastt.Application.OverlapRegions

/-!
# What handling an overlap region stays inside

Whatever is done to a session while a region is handled is done by four methods: a temporary
speaker is created under an id just drawn, two speakers are marked as different, and the voice of
a speaker is learned, or kept for later. A relation that each of them stays inside
(`OfflinePipeline.SourceFrame`) is one the region stays inside
(`SourceFrame.handleOverlapRegion`), and so does each stage of it.
-/

namespace Sastt

open Method

variable {R V S : Type} [Field R] [LinearOrder R] [IsStrictOrderedRing R] [AddCommGroup V]
  [Module R V] [EmbeddingSpace R V]

namespace OfflinePipeline

/-- **A frame of the sources**: what the methods that are called while a region is handled stay
inside. -/
structure SourceFrame (ulids : ℕ → String) (F : Session R V → Session R V → Prop) : Prop where
  create : Within F (Session.newUlid ulids >>= fun ulid =>
    Session.onSpeakers (SessionSpeakerState.createTemporarySpeaker ulid))
  mark : ∀ a b, Within F (Session.onSpeakers (SessionSpeakerState.addCannotLink a b))
  learn : ∀ id embedding margin passed, Within F
    (Session.onSpeakers (SessionSpeakerState.updatePrototype id embedding margin passed))
  buffer : ∀ id embedding, Within F
    (Session.onSpeakers (SessionSpeakerState.bufferProvisionalEmbedding id embedding))

namespace SourceFrame

variable {ulids : ℕ → String} {F : Session R V → Session R V → Prop} [Std.Refl F]
  [IsTrans (Session R V) F] {p : OfflinePipeline R} {adapters : PipelineAdapters R V S}

theorem identifySource (h : SourceFrame ulids F) (source : SeparatedSource R V S)
    (link : LinkingDecision R) : Within F (identifySource ulids source link) := by
  refine within_bind within_read (fun s => ?_)
  split
  · split
    · refine within_bind_two h.create (fun temporary => ?_)
      exact within_bind (h.buffer _ _) (fun _ => within_pure _)
    · exact within_pure _
  · refine within_bind (within_ofExcept _) (fun speaker => ?_)
    split
    · exact within_bind (h.buffer _ _) (fun _ => within_pure _)
    · exact within_bind (h.learn _ _ _ _) (fun _ => within_pure _)
  · exact within_pure _

theorem constrainSource (h : SourceFrame ulids F) (assignedInCrop : List String)
    (speakerId : Option String) : Within F (constrainSource assignedInCrop speakerId) := by
  unfold OfflinePipeline.constrainSource
  split
  · exact within_pure _
  · exact within_forEach (fun otherId _ => h.mark _ _)

theorem emitSources (h : SourceFrame ulids F) (window : WindowContext R)
    (sources : List (SeparatedSource R V S × LinkingDecision R)) (assignedInCrop : List String)
    (result : CropResult R) :
    Within F (p.emitSources adapters ulids window sources assignedInCrop result) := by
  induction sources generalizing assignedInCrop result with
  | nil => exact within_pure _
  | cons linked rest ih =>
    refine within_bind (within_ofExcept _) (fun asr => ?_)
    dsimp only
    split
    · exact ih _ _
    · split
      · exact within_pure _
      · exact within_bind (h.identifySource _ _) (fun speakerId =>
          within_bind (h.constrainSource _ _) (fun _ => ih _ _))

theorem separateWindows (h : SourceFrame ulids F) (c : RegionContext R S)
    (separator : SpeechSeparator R S) (n : ℕ) (windows : List (TimeInterval × TimeInterval))
    (previousMapping : PreviousMapping) (result : CropResult R) :
    Within F (p.separateWindows adapters ulids c separator n windows previousMapping result) := by
  induction windows generalizing n previousMapping result with
  | nil => exact within_pure _
  | cons window rest ih =>
    refine within_bind (within_ofExcept _) (fun listened => within_bind within_read (fun s =>
      within_bind (within_ofExcept _) (fun linked => within_bind (h.emitSources _ _ _ _)
        (fun emitted => ?_))))
    dsimp only
    split
    · exact ih _ _ _
    · exact within_pure _

theorem separateAndLink (h : SourceFrame ulids F) (c : RegionContext R S) (padded : TimeInterval)
    (separator : SpeechSeparator R S) :
    Within F (p.separateAndLink adapters ulids c padded separator) := by
  refine within_bind (within_ofExcept _) (fun windows =>
    within_bind (h.separateWindows c separator 0 windows [] {}) (fun separated => ?_))
  dsimp only
  split
  · exact within_pure _
  · exact within_bind (within_ofExcept _) (fun _ => within_pure _)

theorem attempt (h : SourceFrame ulids F) (c : RegionContext R S) (separator : SpeechSeparator R S)
    (n : ℕ) (crop : TimeInterval) : Within F (p.attempt adapters ulids c separator n crop) :=
  within_bind (h.separateAndLink c crop _) (fun _ => within_pure _)

/-- **Handling an overlap region stays inside.** -/
theorem handleOverlapRegion (h : SourceFrame ulids F) (c : RegionContext R S) :
    Within F (p.handleOverlapRegion adapters ulids c) := by
  have hmixture : ∀ (warnings : List String) (degraded : Bool),
      Within F (Method.ofExcept (p.mixtureFallback adapters c.mono c.region c.decision warnings)
        >>= fun found : List (WordGroup R) × List String =>
          (return (found.1, found.2, degraded) : Method PyError (Session R V) _)) :=
    fun warnings degraded => within_bind (within_ofExcept _) (fun _ => within_pure _)
  unfold OfflinePipeline.handleOverlapRegion
  dsimp only
  split
  · exact hmixture _ _
  · split
    · exact hmixture _ _
    · refine within_bind (within_catchIf (h.attempt _ _ _ _) (fun _ =>
        within_catchIf (h.attempt _ _ _ _) (fun _ => within_pure _))) (fun r => ?_)
      split
      · exact within_pure _
      · exact hmixture _ _

end SourceFrame

end OfflinePipeline

end Sastt
