import Sastt.Application.WatchedPipeline
import Sastt.Lib.Built
import Sastt.Lib.Refinement

/-!
# What the watched pipeline does

Two facts about every method of `WatchedPipeline`, each proved method by method
from those it calls.

Watching changes nothing: as long as nobody cancels, a watched method returns or
raises what the method of the pipeline does, and does the same to the session
(`WatchedPipeline.refines_runOn`). And a watched method is made of a few
primitives – a call, a method of the session, something written down – with two
kinds of handlers, those of `InsufficientSpeechForEmbeddingError` and of
`SeparationFailedError` (`WatchedPipeline.made_runOn`).
-/

namespace Sastt

open Method WatchedRun

variable {R V S : Type} [Field R] [LinearOrder R] [IsStrictOrderedRing R]

namespace WatchedPipeline

variable (t : WatchedPipeline R)

/-! ## Nobody cancels -/

/-- The caller does not cancel. -/
def NeverCancelled : Prop := ∀ n, t.around.cancelled n = false

variable {t}

section

variable (h : t.NeverCancelled)
include h

/-- No token is ever cancelled then. -/
theorem isCancelled_eq_false (n : ℕ) (token : CancellationToken) :
    t.around.isCancelled n token = false := by
  cases token with
  | caller => exact h n
  | own => rfl

variable {α : Type}

/-- A call that gets past its check is the adapter's answer. -/
theorem refines_call (ctx : CallContext) (port : Port) (reply : Except PyError α) :
    Refines (WatchedRun.session (R := R) (V := V)) (t.call ctx port reply)
      (.ofExcept reply) := by
  intro u
  have hchecked : ctx.check (t.around.isCancelled u.calls.length) = .ok () := by
    rw [CallContext.check, isCancelled_eq_false h, if_neg Bool.false_ne_true]
  show ((ctx.check (t.around.isCancelled u.calls.length) >>= fun _ => reply) = reply) ∧ _
  rw [hchecked]
  exact ⟨rfl, rfl⟩

theorem refines_ask (stage : String) (port : Port) (reply : Except PyError α) :
    Refines (WatchedRun.session (R := R) (V := V)) (t.ask stage port reply)
      (.ofExcept reply) :=
  fun u => refines_call h (t.ctx.child stage (t.around.now u.calls.length)) port reply u

end

section Speakers

variable {α β : Type}

theorem refines_speakers_bind {m' : Method PyError (WatchedRun R V) α}
    {m : Method PyError (SessionSpeakerState R V) α}
    {k' : α → Method PyError (WatchedRun R V) β}
    {k : α → Method PyError (SessionSpeakerState R V) β}
    (hm : Refines WatchedRun.session m' (Session.onSpeakers m))
    (hk : ∀ a, Refines WatchedRun.session (k' a) (Session.onSpeakers (k a))) :
    Refines WatchedRun.session (m' >>= k') (Session.onSpeakers (m >>= k)) := by
  refine refines_zoom_bind ?_ ?_ hm hk
  · exact fun _ _ => rfl
  · exact fun _ _ _ => rfl

theorem refines_speakers_read_bind {k' : WatchedRun R V → Method PyError (WatchedRun R V) β}
    {k : SessionSpeakerState R V → Method PyError (SessionSpeakerState R V) β}
    (hk : ∀ u, Refines WatchedRun.session (k' u) (Session.onSpeakers (k u.session.speakers))) :
    Refines WatchedRun.session (.read >>= k') (Session.onSpeakers (.read >>= k)) :=
  refines_zoom_read_bind hk

theorem refines_speakers_ofExcept {m' : Method PyError (WatchedRun R V) α}
    {x : Except PyError α} (hm : Refines WatchedRun.session m' (.ofExcept x)) :
    Refines WatchedRun.session m' (Session.onSpeakers (.ofExcept x)) :=
  refines_zoom_ofExcept (fun _ => rfl) hm

theorem refines_speakers_pure (a : α) :
    Refines (WatchedRun.session (R := R) (V := V)) (pure a) (Session.onSpeakers (pure a)) :=
  refines_speakers_ofExcept (refines_pure a)

theorem refines_speakers_forEach {xs : List α}
    {body' : α → Method PyError (WatchedRun R V) Unit}
    {body : α → Method PyError (SessionSpeakerState R V) Unit}
    (h : ∀ x, Refines WatchedRun.session (body' x) (Session.onSpeakers (body x))) :
    Refines WatchedRun.session (.forEach xs body') (Session.onSpeakers (.forEach xs body)) := by
  refine refines_zoom_forEach ?_ ?_ ?_ h
  · exact fun _ _ => rfl
  · exact fun _ _ _ => rfl
  · exact fun _ => rfl

end Speakers

theorem refines_onSession {α : Type} (m : Method PyError (Session R V) α) :
    Refines WatchedRun.session (onSession m) m := refines_zoom m (fun _ _ => rfl)

/-- What is written down is not part of the session. -/
theorem refines_noted {α : Type} {n : Note R} {k : Unit → Method PyError (WatchedRun R V) α}
    {m : Method PyError (Session R V) α} (hk : Refines WatchedRun.session (k ()) m) :
    Refines WatchedRun.session (note n >>= k) m :=
  refines_note_bind (fun _ => ⟨_, rfl, rfl⟩) hk

section Stages

variable (h : t.NeverCancelled)
include h

/-- Too little speech for an embedding is no error of the pipeline. -/
theorem refines_embedded {α : Type} {embedded : Except PyError α} {m : Except PyError (Option α)}
    (hok : ∀ a, embedded = .ok a → m = .ok (some a))
    (herror : ∀ e, embedded = .error e →
      m = if e.isClass .insufficientSpeechForEmbedding then .ok none else .error e) :
    Refines (WatchedRun.session (R := R) (V := V))
      ((some <$> t.ask "embedding" .embedder embedded).catchIf
        (·.isClass .insufficientSpeechForEmbedding) fun _ => return none)
      (.ofExcept m) := by
  rw [ofExcept_catchIf hok herror]
  exact refines_catchIf (refines_bind (refines_ask h _ _ _) (fun a => refines_pure (some a)))
    (fun _ => refines_pure none)

theorem refines_resolveSessionLanguage
    (detectLanguage : AudioBuffer S → Except PyError (String × R)) (pinned : Option String)
    (mono : AudioBuffer S) (speech : List TimeInterval) :
    Refines (WatchedRun.session (V := V))
      (t.resolveSessionLanguage detectLanguage pinned mono speech)
      (.ofExcept (t.toOfflinePipeline.resolveSessionLanguage detectLanguage pinned mono
        speech)) := by
  unfold WatchedPipeline.resolveSessionLanguage OfflinePipeline.resolveSessionLanguage
  dsimp only
  split
  · exact refines_pure _
  · rw [ofExcept_bind]
    refine refines_bind (refines_ofExcept _) (fun pooled => ?_)
    cases pooled with
    | none => exact refines_pure _
    | some pooled =>
      dsimp only
      rw [ofExcept_bind]
      refine refines_bind (refines_ask h _ _ _) (fun detected => ?_)
      split
      · exact refines_pure _
      · exact refines_pure _

variable [AddCommGroup V] [Module R V] [EmbeddingSpace R V]

theorem refines_embedBuffer (adapters : PipelineAdapters R V S) (buffer : AudioBuffer S)
    (interval : TimeInterval) (origin : EmbeddingOrigin) (sourceTrack : Option ℕ)
    (speechIntervals : Option (List TimeInterval)) (minimumSpeechMs : Option ℕ) :
    Refines WatchedRun.session
      (t.embedBuffer adapters buffer interval origin sourceTrack speechIntervals minimumSpeechMs)
      (.ofExcept (Sastt.embedBuffer adapters buffer interval origin sourceTrack speechIntervals
        minimumSpeechMs)) := by
  unfold WatchedPipeline.embedBuffer Sastt.embedBuffer
  cases buffer.cropMs interval with
  | error e =>
    dsimp only
    split
    · exact refines_pure none
    · exact refines_throw e
  | ok crop =>
    cases speechIntervals with
    | none =>
      dsimp only
      rw [ofExcept_bind]
      refine refines_bind (refines_ask h _ _ _) (fun speech => refines_embedded h ?_ ?_)
      · intro a hembedded
        rw [hembedded]
        rfl
      · intro e hembedded
        rw [hembedded]
        rfl
    | some speech =>
      refine refines_embedded h ?_ ?_
      · intro a hembedded
        dsimp only [bind, Except.bind]
        rw [hembedded]
        rfl
      · intro e hembedded
        dsimp only [bind, Except.bind]
        rw [hembedded]
        rfl

theorem refines_learnSegment (adapters : PipelineAdapters R V S) (mono : AudioBuffer S)
    (speakerId : String) (interval : TimeInterval) :
    Refines WatchedRun.session (t.learnSegment adapters mono speakerId interval)
      (Sastt.learnSegment adapters mono speakerId interval) := by
  refine refines_read_bind (fun u => ?_)
  split
  · exact refines_pure ()
  · refine refines_bind (refines_embedBuffer h adapters mono interval .clean none none none) ?_
    intro embedding
    cases embedding with
    | none => exact refines_pure ()
    | some embedding =>
      exact refines_bind (refines_onSession _) (fun _ => refines_pure ())

theorem refines_learnCluster (adapters : PipelineAdapters R V S)
    (overlapRegions : List (OverlapRegion R)) (mono : AudioBuffer S)
    (cluster : String × List TimeInterval) :
    Refines WatchedRun.session (t.learnCluster adapters overlapRegions mono cluster)
      (Sastt.learnCluster adapters overlapRegions mono cluster) := by
  refine refines_read_bind (fun u => ?_)
  cases u.session.speakers.byCluster cluster.1 with
  | none => exact refines_pure ()
  | some speaker => exact refines_forEach (fun _ => refines_learnSegment h _ _ _ _)

theorem refines_buildGlobalSpeakers (adapters : PipelineAdapters R V S) (ulids : ℕ → String)
    (diarization : DiarizationResult R) (overlapRegions : List (OverlapRegion R))
    (mono : AudioBuffer S) :
    Refines WatchedRun.session
      (t.buildGlobalSpeakers adapters ulids diarization overlapRegions mono)
      (Sastt.buildGlobalSpeakers adapters ulids diarization overlapRegions mono) :=
  refines_bind (refines_forEach (fun _ => refines_onSession _)) (fun _ =>
    refines_bind (refines_forEach (fun _ => refines_onSession _)) (fun _ =>
      refines_forEach (fun _ => refines_learnCluster h _ _ _ _)))

theorem refines_transcribeSlices (adapters : PipelineAdapters R V S) (mono : AudioBuffer S) (n : ℕ)
    (slices : List TimeInterval) :
    Refines WatchedRun.session (t.transcribeSlices adapters mono n slices)
      (.ofExcept (t.toOfflinePipeline.transcribeSlices adapters mono n slices)) := by
  induction slices generalizing n with
  | nil => exact refines_pure _
  | cons interval rest ih =>
    unfold WatchedPipeline.transcribeSlices OfflinePipeline.transcribeSlices
    split
    · exact ih (n + 1)
    · simp only [ofExcept_bind]
      refine refines_bind (refines_ofExcept _) (fun crop => ?_)
      refine refines_bind (refines_ask h _ _ _) (fun result => refines_noted ?_)
      refine refines_bind (ih (n + 1)) (fun found => ?_)
      split
      · exact refines_pure _
      · split
        · exact refines_pure _
        · exact refines_pure _

theorem refines_mixtureFallback (adapters : PipelineAdapters R V S) (mono : AudioBuffer S)
    (region : OverlapRegion R) (decision : RouteDecision R) (warnings : List String) :
    Refines WatchedRun.session (t.mixtureFallback adapters mono region decision warnings)
      (.ofExcept (t.toOfflinePipeline.mixtureFallback adapters mono region decision
        warnings)) := by
  intro u
  unfold WatchedPipeline.mixtureFallback OfflinePipeline.mixtureFallback
  simp only [ofExcept_bind]
  refine refines_bind (refines_ofExcept _) (fun crop => ?_) u
  refine refines_bind (refines_call h _ _ _) (fun result => ?_)
  split
  · exact refines_noted (refines_pure _)
  · rw [ofExcept_bind]
    intro v
    refine refines_bind (refines_call h _ _ _) (fun speech => refines_noted ?_) v
    split
    · exact refines_pure _
    · exact refines_pure _

theorem refines_separatedSource (adapters : PipelineAdapters R V S) (batch : SeparatedBatch R S)
    (window owned : TimeInterval) (track : ℕ) (samples : List S) (quality : SourceQuality R) :
    Refines WatchedRun.session
      (t.separatedSource adapters batch window owned track samples quality)
      (.ofExcept (t.toOfflinePipeline.separatedSource adapters batch window owned track samples
        quality)) := by
  unfold WatchedPipeline.separatedSource OfflinePipeline.separatedSource
  simp only [ofExcept_bind]
  refine refines_bind (refines_ofExcept _) (fun source => ?_)
  refine refines_bind (refines_ofExcept _) (fun asrBuffer => ?_)
  refine refines_bind (refines_ask h _ _ _) (fun speech => ?_)
  split
  · rw [ofExcept_bind]
    refine refines_bind (refines_ask h _ _ _) (fun embedSpeech => ?_)
    rw [ofExcept_bind]
    exact refines_bind (refines_embedBuffer h adapters source _ _ _ _ _)
      (fun embedding => refines_pure _)
  · simp only [ofExcept_bind]
    refine refines_bind (refines_pure speech) (fun embedSpeech => ?_)
    exact refines_bind (refines_embedBuffer h adapters source _ _ _ _ _)
      (fun embedding => refines_pure _)

theorem refines_separatedSources (adapters : PipelineAdapters R V S) (batch : SeparatedBatch R S)
    (window owned : TimeInterval) :
    Refines WatchedRun.session (t.separatedSources adapters batch window owned)
      (.ofExcept (t.toOfflinePipeline.separatedSources adapters batch window owned)) := by
  unfold OfflinePipeline.separatedSources
  rw [ofExcept_mapM]
  exact refines_mapEach (fun (x : (List S × SourceQuality R) × ℕ) =>
    refines_separatedSource h (adapters.at x.2) batch window owned x.2 x.1.1 x.1.2)

theorem refines_emitSources (adapters : PipelineAdapters R V S) (ulids : ℕ → String)
    (window : OfflinePipeline.WindowContext R)
    (sources : List (OfflinePipeline.SeparatedSource R V S × LinkingDecision R))
    (assignedInCrop : List String) (result : OfflinePipeline.CropResult R) :
    Refines WatchedRun.session
      (t.emitSources adapters ulids window sources assignedInCrop result)
      (t.toOfflinePipeline.emitSources adapters ulids window sources assignedInCrop result) := by
  induction sources generalizing assignedInCrop result with
  | nil => exact refines_pure _
  | cons source rest ih =>
    unfold WatchedPipeline.emitSources OfflinePipeline.emitSources
    refine refines_bind (refines_ask h _ _ _) (fun asr => refines_noted ?_)
    dsimp only
    split
    · exact ih assignedInCrop result
    · split
      · exact refines_pure _
      · exact refines_bind (refines_onSession _) (fun speakerId =>
          refines_bind (refines_onSession _) (fun _ => ih _ _))

theorem refines_listenWindow (adapters : PipelineAdapters R V S)
    (c : OfflinePipeline.RegionContext R S) (separator : SpeechSeparator R S) (n : ℕ)
    (window owned : TimeInterval) :
    Refines WatchedRun.session (t.listenWindow adapters c separator n window owned)
      (.ofExcept (t.toOfflinePipeline.listenWindow adapters c separator n window owned)) := by
  unfold WatchedPipeline.listenWindow OfflinePipeline.listenWindow
  simp only [ofExcept_bind]
  exact refines_bind (refines_ofExcept _) (fun crop =>
    refines_bind (refines_ask h _ _ _) (fun batch =>
      refines_bind (refines_separatedSources h _ _ _ _) (fun sources => refines_pure _)))

theorem refines_separateWindows (adapters : PipelineAdapters R V S) (ulids : ℕ → String)
    (c : OfflinePipeline.RegionContext R S) (separator : SpeechSeparator R S) (n : ℕ)
    (windows : List (TimeInterval × TimeInterval)) (previousMapping : PreviousMapping)
    (result : OfflinePipeline.CropResult R) :
    Refines WatchedRun.session
      (t.separateWindows adapters ulids c separator n windows previousMapping result)
      (t.toOfflinePipeline.separateWindows adapters ulids c separator n windows previousMapping
        result) := by
  induction windows generalizing n previousMapping result with
  | nil => exact refines_pure _
  | cons window rest ih =>
    unfold WatchedPipeline.separateWindows OfflinePipeline.separateWindows
    refine refines_bind (refines_listenWindow h _ _ _ _ _ _) (fun heard => ?_)
    refine refines_read_bind (fun u => refines_bind (refines_ofExcept _) (fun linked => ?_))
    refine refines_bind (refines_emitSources h _ _ _ _ _ _) (fun emitted => ?_)
    dsimp only
    split
    · exact ih _ _ _
    · exact refines_pure _

theorem refines_separateAndLink (adapters : PipelineAdapters R V S) (ulids : ℕ → String)
    (c : OfflinePipeline.RegionContext R S) (padded : TimeInterval)
    (separator : SpeechSeparator R S) :
    Refines WatchedRun.session (t.separateAndLink adapters ulids c padded separator)
      (t.toOfflinePipeline.separateAndLink adapters ulids c padded separator) := by
  refine refines_bind (refines_ofExcept _) (fun windows => ?_)
  refine refines_bind (refines_separateWindows h _ _ _ _ _ _ _ _) (fun emitted => ?_)
  dsimp only
  split
  · exact refines_pure _
  · exact refines_noted (refines_bind (refines_mixtureFallback h _ _ _ _ _)
      (fun _ => refines_pure _))

theorem refines_attempt (adapters : PipelineAdapters R V S) (ulids : ℕ → String)
    (c : OfflinePipeline.RegionContext R S) (separator : SpeechSeparator R S) (n : ℕ)
    (crop : TimeInterval) :
    Refines WatchedRun.session (t.attempt adapters ulids c separator n crop)
      (t.toOfflinePipeline.attempt adapters ulids c separator n crop) :=
  refines_bind (refines_separateAndLink h _ _ _ _ _) (fun _ => refines_pure _)

theorem refines_attemptSeparation (adapters : PipelineAdapters R V S) (ulids : ℕ → String)
    (c : OfflinePipeline.RegionContext R S) (separator : SpeechSeparator R S) :
    Refines WatchedRun.session (t.attemptSeparation adapters ulids c separator)
      (t.toOfflinePipeline.attemptSeparation adapters ulids c separator) :=
  refines_catchIf (refines_attempt h _ _ _ _ _ _) (fun _ => refines_noted
    (refines_catchIf (refines_attempt h _ _ _ _ _ _) (fun _ =>
      refines_noted (refines_noted (refines_pure none)))))

theorem refines_handleOverlapRegion (adapters : PipelineAdapters R V S) (ulids : ℕ → String)
    (c : OfflinePipeline.RegionContext R S) :
    Refines WatchedRun.session (t.handleOverlapRegion adapters ulids c)
      (t.toOfflinePipeline.handleOverlapRegion adapters ulids c) := by
  have hmixture : ∀ warnings degraded, Refines WatchedRun.session
      (t.mixture adapters c warnings degraded) _ := fun warnings degraded =>
    refines_bind (refines_mixtureFallback h adapters c.mono c.region c.decision warnings)
      (fun found => refines_pure (found.1, found.2, degraded))
  unfold WatchedPipeline.handleOverlapRegion OfflinePipeline.handleOverlapRegion
  dsimp only
  split
  · exact hmixture _ _
  · cases OfflinePipeline.separatorFor adapters c.decision with
    | none => exact hmixture _ _
    | some separator =>
      refine refines_bind (refines_attemptSeparation h _ _ _ _) (fun attempted => ?_)
      cases attempted with
      | none => exact hmixture _ _
      | some found => exact refines_pure _

/-! ### The run -/

theorem refines_identifySpeaker
    (identify : SpeakerEmbedding R V → Except PyError (VoiceIdDecision R)) (speakerId : String) :
    Refines WatchedRun.session (t.identifySpeaker identify speakerId)
      (Session.onSpeakers (OfflinePipeline.identifySpeaker identify speakerId)) := by
  refine refines_speakers_read_bind (fun u => ?_)
  cases (u.session.speakers.speakers speakerId).bind SessionSpeaker.prototype with
  | none => exact refines_speakers_pure ()
  | some prototype =>
    refine refines_speakers_bind (refines_speakers_ofExcept (refines_ofExcept _))
      (fun embedding => ?_)
    refine refines_speakers_bind (refines_speakers_ofExcept (refines_ask h _ _ _))
      (fun decision => ?_)
    exact refines_speakers_bind (refines_onSession _) (fun _ => refines_speakers_pure ())

theorem refines_applyVoiceId
    (registry : Option (ℕ → SpeakerEmbedding R V → Except PyError (VoiceIdDecision R))) :
    Refines WatchedRun.session (t.applyVoiceId registry)
      (Session.onSpeakers (t.toOfflinePipeline.applyVoiceId registry)) := by
  unfold WatchedPipeline.applyVoiceId OfflinePipeline.applyVoiceId
  cases registry.filter (fun _ => t.config.voiceId.enabled) with
  | none => exact refines_speakers_pure ()
  | some identify =>
    exact refines_speakers_read_bind (fun u =>
      refines_speakers_forEach (fun x => refines_identifySpeaker h (identify x.2) x.1))

theorem refines_resolveSpeakers
    (registry : Option (ℕ → SpeakerEmbedding R V → Except PyError (VoiceIdDecision R))) :
    Refines WatchedRun.session (t.resolveSpeakers registry)
      (Session.onSpeakers (t.toOfflinePipeline.resolveSpeakers registry)) :=
  refines_speakers_bind (refines_onSession _) (fun _ =>
    refines_speakers_bind (refines_applyVoiceId h registry) (fun _ =>
      refines_speakers_bind (refines_onSession _) (fun _ => refines_speakers_pure ())))

theorem refines_wordGroups (models : OfflineModels R V S) (ulids : ℕ → String)
    (pinned : Option String) (mono : AudioBuffer S) (diarization : DiarizationResult R)
    (regions : List (OverlapRegion R)) :
    Refines WatchedRun.session (t.wordGroups models ulids pinned mono diarization regions)
      (t.toOfflinePipeline.wordGroups models ulids pinned mono diarization regions) := by
  refine refines_bind (refines_ask h _ _ _) (fun speech => ?_)
  refine refines_bind (refines_resolveSessionLanguage h _ _ _ _) (fun decided => ?_)
  have hspoken : (t.speaking decided.1).NeverCancelled := h
  refine refines_bind (refines_transcribeSlices hspoken _ _ _ _) (fun alone => ?_)
  exact refines_bind (refines_mapEach (fun x => refines_handleOverlapRegion hspoken
    (models.adapters.at (x.2 + 2)) ulids _)) (fun together => refines_pure _)

/-- **Watching changes nothing.** While nobody cancels, the watched run returns or
raises what the run does, and does the same to the session. -/
theorem refines_runOn (c : RunContext R) (models : OfflineModels R V S) (ulids : ℕ → String)
    (pinned : Option String) :
    Refines WatchedRun.session (t.runOn c models ulids pinned)
      (t.toOfflinePipeline.runOn c models ulids pinned) := by
  unfold WatchedPipeline.runOn OfflinePipeline.runOn OfflinePipeline.decodedMono
  rw [ofExcept_bind, bind_assoc]
  refine refines_bind (refines_ask h _ _ _) (fun asset => ?_)
  refine refines_bind (refines_ofExcept _) (fun mono => ?_)
  refine refines_bind (refines_ask h _ _ _) (fun diarization => ?_)
  refine refines_bind (refines_ask h _ _ _) (fun osd => ?_)
  refine refines_bind (refines_buildGlobalSpeakers h _ _ _ _ _) (fun _ => ?_)
  refine refines_bind (refines_wordGroups h _ _ _ _ _ _) (fun recognised => ?_)
  refine refines_bind (refines_resolveSpeakers h _) (fun _ => ?_)
  exact refines_bind (refines_onSession _) (fun segments => refines_pure _)

/-- **What a watched run returns** or raises is what the run does, while nobody
cancels. -/
theorem run_fst (c : RunContext R) (models : OfflineModels R V S) (ulids : ℕ → String)
    (pinned : Option String) :
    (t.run c models ulids pinned).1 = t.toOfflinePipeline.run c models ulids pinned :=
  (refines_runOn h c models ulids pinned _).1

end Stages

/-! ## What a method is made of -/

/-- **What is done to the state of a run**: a call of an adapter, a method of the
session, and, where there is something to note, a note of it. -/
inductive Primitive (around : Surroundings) (noting : Prop) :
    ∀ α : Type, Method PyError (WatchedRun R V) α → Prop
  | call {α : Type} (t : WatchedPipeline R) (ht : t.around = around) (ctx : CallContext)
      (port : Port) (reply : Except PyError α) : Primitive around noting α (t.call ctx port reply)
  | onSession {α : Type} (m : Method PyError (Session R V) α) :
      Primitive around noting α (onSession m)
  | note (h : noting) (n : Note R) : Primitive around noting Unit (note n)

/-- **What is caught** in a run. -/
inductive Handler : (PyError → Bool) → Prop
  | insufficientSpeech : Handler (·.isClass .insufficientSpeechForEmbedding)
  | separationFailed : Handler (·.isClass .separationFailed)

/-- A method of a run is made of these. -/
abbrev Made {α : Type} (around : Surroundings) (noting : Prop)
    (m : Method PyError (WatchedRun R V) α) : Prop :=
  Built (Primitive around noting) Handler m

section Made

variable {around : Surroundings} {noting : Prop}

theorem made_onSession {α : Type} (m : Method PyError (Session R V) α) :
    Made around noting (onSession m) := .primitive (.onSession m)

theorem made_note (n : Note R) : Made (V := V) around True (note n) :=
  .primitive (.note trivial n)

variable (ht : t.around = around)
include ht

theorem made_call {α : Type} (ctx : CallContext) (port : Port) (reply : Except PyError α) :
    Made (V := V) around noting (t.call ctx port reply) := .primitive (.call t ht ctx port reply)

theorem made_ask {α : Type} (stage : String) (port : Port) (reply : Except PyError α) :
    Made (V := V) around noting (t.ask stage port reply) :=
  .bind (.bind .read (fun _ => .pure _)) (fun _ => made_call ht _ port reply)

theorem made_resolveSessionLanguage
    (detectLanguage : AudioBuffer S → Except PyError (String × R)) (pinned : Option String)
    (mono : AudioBuffer S) (speech : List TimeInterval) :
    Made (V := V) around noting (t.resolveSessionLanguage detectLanguage pinned mono speech) := by
  unfold WatchedPipeline.resolveSessionLanguage
  dsimp only
  split
  · exact .pure _
  · refine .bind (.ofExcept _) (fun pooled => ?_)
    cases pooled with
    | none => exact .pure _
    | some pooled =>
      refine .bind (made_ask ht _ _ _) (fun detected => ?_)
      split
      · exact .pure _
      · exact .pure _

variable [AddCommGroup V] [Module R V] [EmbeddingSpace R V]

theorem made_embedBuffer (adapters : PipelineAdapters R V S) (buffer : AudioBuffer S)
    (interval : TimeInterval) (origin : EmbeddingOrigin) (sourceTrack : Option ℕ)
    (speechIntervals : Option (List TimeInterval)) (minimumSpeechMs : Option ℕ) :
    Made around noting
      (t.embedBuffer adapters buffer interval origin sourceTrack speechIntervals
        minimumSpeechMs) := by
  unfold WatchedPipeline.embedBuffer
  split
  · split
    · exact .pure none
    · exact .throw _
  · refine .bind ?_ (fun speech =>
      .catchIf .insufficientSpeech (.bind (made_ask ht _ _ _) (fun _ => .pure _))
        (fun _ => .pure none))
    cases speechIntervals with
    | none => exact made_ask ht _ _ _
    | some speech => exact .pure speech

theorem made_learnSegment (adapters : PipelineAdapters R V S) (mono : AudioBuffer S)
    (speakerId : String) (interval : TimeInterval) :
    Made around noting (t.learnSegment adapters mono speakerId interval) := by
  refine .bind .read (fun u => ?_)
  split
  · exact .pure ()
  · refine .bind (made_embedBuffer ht _ _ _ _ _ _ _) (fun embedding => ?_)
    cases embedding with
    | none => exact .pure ()
    | some embedding => exact .bind (made_onSession _) (fun _ => .pure ())

theorem made_learnCluster (adapters : PipelineAdapters R V S)
    (overlapRegions : List (OverlapRegion R)) (mono : AudioBuffer S)
    (cluster : String × List TimeInterval) :
    Made around noting (t.learnCluster adapters overlapRegions mono cluster) := by
  refine .bind .read (fun u => ?_)
  split
  · exact .pure ()
  · exact .forEach (fun _ => made_learnSegment ht _ _ _ _)

theorem made_buildGlobalSpeakers (adapters : PipelineAdapters R V S) (ulids : ℕ → String)
    (diarization : DiarizationResult R) (overlapRegions : List (OverlapRegion R))
    (mono : AudioBuffer S) :
    Made around noting (t.buildGlobalSpeakers adapters ulids diarization overlapRegions mono) :=
  .bind (.forEach (fun _ => made_onSession _)) (fun _ =>
    .bind (.forEach (fun _ => made_onSession _)) (fun _ =>
      .forEach (fun _ => made_learnCluster ht _ _ _ _)))

theorem made_transcribeSlices (adapters : PipelineAdapters R V S) (mono : AudioBuffer S) (n : ℕ)
    (slices : List TimeInterval) :
    Made around True (t.transcribeSlices adapters mono n slices) := by
  induction slices generalizing n with
  | nil => exact .pure _
  | cons interval rest ih =>
    unfold WatchedPipeline.transcribeSlices
    split
    · exact ih (n + 1)
    · refine .bind (.ofExcept _) (fun crop => .bind (made_ask ht _ _ _) (fun result => ?_))
      refine .bind (made_note _) (fun _ => .bind (ih (n + 1)) (fun found => ?_))
      dsimp only
      split
      · exact .pure _
      · split
        · exact .pure _
        · exact .pure _

theorem made_mixtureFallback (adapters : PipelineAdapters R V S) (mono : AudioBuffer S)
    (region : OverlapRegion R) (decision : RouteDecision R) (warnings : List String) :
    Made around True (t.mixtureFallback adapters mono region decision warnings) := by
  have hclock : Made (V := V) around True t.clock := .bind .read (fun _ => .pure _)
  refine .bind hclock (fun now => .bind (.ofExcept _) (fun crop => ?_))
  refine .bind (made_call ht _ _ _) (fun result => ?_)
  dsimp only
  split
  · exact .bind (made_note _) (fun _ => .pure _)
  · refine .bind hclock (fun now => .bind (made_call ht _ _ _) (fun speech => ?_))
    refine .bind (made_note _) (fun _ => ?_)
    split
    · exact .pure _
    · exact .pure _

theorem made_separatedSource (adapters : PipelineAdapters R V S) (batch : SeparatedBatch R S)
    (window owned : TimeInterval) (track : ℕ) (samples : List S) (quality : SourceQuality R) :
    Made around noting (t.separatedSource adapters batch window owned track samples quality) := by
  refine .bind (.ofExcept _) (fun source => .bind (.ofExcept _) (fun asrBuffer => ?_))
  refine .bind (made_ask ht _ _ _) (fun speech => ?_)
  dsimp only
  split
  · exact .bind (made_ask ht _ _ _) (fun _ =>
      .bind (made_embedBuffer ht _ _ _ _ _ _ _) (fun _ => .pure _))
  · exact .bind (.pure speech) (fun _ =>
      .bind (made_embedBuffer ht _ _ _ _ _ _ _) (fun _ => .pure _))

theorem made_emitSources (adapters : PipelineAdapters R V S) (ulids : ℕ → String)
    (window : OfflinePipeline.WindowContext R)
    (sources : List (OfflinePipeline.SeparatedSource R V S × LinkingDecision R))
    (assignedInCrop : List String) (result : OfflinePipeline.CropResult R) :
    Made around True (t.emitSources adapters ulids window sources assignedInCrop result) := by
  induction sources generalizing assignedInCrop result with
  | nil => exact .pure _
  | cons source rest ih =>
    unfold WatchedPipeline.emitSources
    refine .bind (made_ask ht _ _ _) (fun asr => .bind (made_note _) (fun _ => ?_))
    split
    · exact ih _ _
    · split
      · exact .pure _
      · exact .bind (made_onSession _) (fun _ => .bind (made_onSession _) (fun _ => ih _ _))

theorem made_listenWindow (adapters : PipelineAdapters R V S)
    (c : OfflinePipeline.RegionContext R S) (separator : SpeechSeparator R S) (n : ℕ)
    (window owned : TimeInterval) :
    Made around noting (t.listenWindow adapters c separator n window owned) :=
  .bind (.ofExcept _) (fun _ => .bind (made_ask ht _ _ _) (fun _ =>
    .bind (.mapEach (fun _ => made_separatedSource ht _ _ _ _ _ _ _)) (fun _ => .pure _)))

theorem made_separateWindows (adapters : PipelineAdapters R V S) (ulids : ℕ → String)
    (c : OfflinePipeline.RegionContext R S) (separator : SpeechSeparator R S) (n : ℕ)
    (windows : List (TimeInterval × TimeInterval)) (previousMapping : PreviousMapping)
    (result : OfflinePipeline.CropResult R) :
    Made around True
      (t.separateWindows adapters ulids c separator n windows previousMapping result) := by
  induction windows generalizing n previousMapping result with
  | nil => exact .pure _
  | cons window rest ih =>
    unfold WatchedPipeline.separateWindows
    refine .bind (made_listenWindow ht _ _ _ _ _ _) (fun heard => .bind .read (fun u => ?_))
    refine .bind (.ofExcept _) (fun linked => .bind (made_emitSources ht _ _ _ _ _ _) ?_)
    intro emitted
    dsimp only
    split
    · exact ih _ _ _
    · exact .pure _

theorem made_attempt (adapters : PipelineAdapters R V S) (ulids : ℕ → String)
    (c : OfflinePipeline.RegionContext R S) (separator : SpeechSeparator R S) (n : ℕ)
    (crop : TimeInterval) : Made around True (t.attempt adapters ulids c separator n crop) := by
  refine .bind (.bind (.ofExcept _) (fun windows => ?_)) (fun _ => .pure _)
  refine .bind (made_separateWindows ht _ _ _ _ _ _ _ _) (fun emitted => ?_)
  dsimp only
  split
  · exact .pure _
  · exact .bind (made_note _) (fun _ =>
      .bind (made_mixtureFallback ht _ _ _ _ _) (fun _ => .pure _))

theorem made_handleOverlapRegion (adapters : PipelineAdapters R V S) (ulids : ℕ → String)
    (c : OfflinePipeline.RegionContext R S) :
    Made around True (t.handleOverlapRegion adapters ulids c) := by
  have hmixture : ∀ warnings degraded, Made around True (t.mixture adapters c warnings degraded) :=
    fun _ _ => .bind (made_mixtureFallback ht _ _ _ _ _) (fun _ => .pure _)
  unfold WatchedPipeline.handleOverlapRegion
  split
  · exact hmixture _ _
  · split
    · exact hmixture _ _
    · refine .bind (.catchIf .separationFailed (made_attempt ht _ _ _ _ _ _) (fun _ =>
        .bind (made_note _) (fun _ =>
          .catchIf .separationFailed (made_attempt ht _ _ _ _ _ _) (fun _ =>
            .bind (made_note _) (fun _ => .bind (made_note _) (fun _ => .pure none))))))
        (fun attempted => ?_)
      cases attempted with
      | none => exact hmixture _ _
      | some found => exact .pure _

theorem made_resolveSpeakers
    (registry : Option (ℕ → SpeakerEmbedding R V → Except PyError (VoiceIdDecision R))) :
    Made around noting (t.resolveSpeakers registry) := by
  refine .bind (made_onSession _) (fun _ => .bind ?_ (fun _ =>
    .bind (made_onSession _) (fun _ => .pure ())))
  unfold WatchedPipeline.applyVoiceId
  split
  · exact .pure ()
  · refine .bind .read (fun u => .forEach (fun _ => .bind .read (fun v => ?_)))
    split
    · exact .pure ()
    · exact .bind (.ofExcept _) (fun _ => .bind (made_ask ht _ _ _) (fun _ =>
        .bind (made_onSession _) (fun _ => .pure ())))

theorem made_wordGroups (models : OfflineModels R V S) (ulids : ℕ → String)
    (pinned : Option String) (mono : AudioBuffer S) (diarization : DiarizationResult R)
    (regions : List (OverlapRegion R)) :
    Made around True (t.wordGroups models ulids pinned mono diarization regions) := by
  refine .bind (made_ask ht _ _ _) (fun speech => ?_)
  refine .bind (made_resolveSessionLanguage ht _ _ _ _) (fun decided => ?_)
  have hspoken : (t.speaking decided.1).around = around := ht
  refine .bind (made_transcribeSlices hspoken _ _ _ _) (fun alone => ?_)
  exact .bind (.mapEach (fun _ => made_handleOverlapRegion hspoken _ _ _)) (fun _ => .pure _)

/-- **A run is made of calls of adapters, methods of the session and notes**, and
catches nothing else. -/
theorem made_runOn (c : RunContext R) (models : OfflineModels R V S) (ulids : ℕ → String)
    (pinned : Option String) : Made around True (t.runOn c models ulids pinned) := by
  refine .bind (made_ask ht _ _ _) (fun asset => .bind (.ofExcept _) (fun mono => ?_))
  refine .bind (made_ask ht _ _ _) (fun diarization => .bind (made_ask ht _ _ _) (fun osd => ?_))
  refine .bind (made_buildGlobalSpeakers ht _ _ _ _ _) (fun _ => ?_)
  refine .bind (made_wordGroups ht _ _ _ _ _ _) (fun recognised => ?_)
  exact .bind (made_resolveSpeakers ht _) (fun _ =>
    .bind (made_onSession _) (fun _ => .pure _))

end Made

end WatchedPipeline

end Sastt
