import Sastt.Application.PipelineStages
import Sastt.Domain.Events

/-!
# One run of the offline pipeline

`run` takes one recording from its bytes to the final transcript: the speakers
are registered, speech of one person is transcribed, the overlap regions are
handled one after another, temporary speakers are reconciled with those of the
clusters, the voice registry is asked who they are, and all words are fused.

A run works on a session of its own, and the ids it mints come from its own
draws `ulids` of the generator. A streaming session that is finalised makes
one such run over the whole recording.
-/

namespace Sastt

section

variable (R V S : Type) [Field R] [LinearOrder R] [IsStrictOrderedRing R] [AddCommGroup V]
  [Module R V] [EmbeddingSpace R V]

/-- **A decoded recording**: how long the original is, and its mono
derivative. -/
structure AudioAsset (S : Type) where
  durationMs : ℕ
  mono : AudioBuffer S

/-- **How the models behave in one run.** -/
structure OfflineModels where
  /-- `decoder.decode`, of the bytes of the recording. -/
  decoded : Except PyError (AudioAsset S)
  adapters : PipelineAdapters R V S
  diarizer : AudioBuffer S → Except PyError (DiarizationResult R)
  overlapDetector : AudioBuffer S → Except PyError (List (OverlapRegion R))
  detectLanguage : AudioBuffer S → Except PyError (String × R)
  /-- `registry.identify`, at each call, if there is a registry. -/
  registry : Option (ℕ → SpeakerEmbedding R V → Except PyError (VoiceIdDecision R)) := none

/-- What a run is told besides the recording. -/
structure RunContext where
  jobId : String := "job_local"
  sessionId : String
  modelVersions : ModelVersions
  configVersion : String
  embeddingModelVersion : String
  calibrator : ConfidenceCalibrator R

end

variable {R V S : Type} [Field R] [LinearOrder R] [IsStrictOrderedRing R] [AddCommGroup V]
  [Module R V] [EmbeddingSpace R V]

/-- The run of a session. -/
def RunContext.ofSession : RunContext R where
  sessionId := "session"
  modelVersions := {}
  configVersion := "1"
  embeddingModelVersion := "campplus"
  calibrator := NullConfidenceCalibrator R

/-- The embedding that stands for a centroid, if that is of norm one. -/
def SpeakerPrototype.asEmbedding (p : SpeakerPrototype R V) (speechDurationMs : ℕ)
    (origin : EmbeddingOrigin) : Except PyError (SpeakerEmbedding R V) :=
  if h : |EmbeddingSpace.norm (R := R) p.centroid - 1| ≤ 1 / 1000 then
    .ok {
      vector := p.centroid
      modelVersion := p.modelVersion
      quality := 1
      speechDurationMs, origin
      norm_close := h
      quality_nonneg := zero_le_one
      quality_le_one := le_refl 1 }
  else .error (.valueError "embedding vector must be L2-normalised")

namespace OfflinePipeline

variable (p : OfflinePipeline R)

/-! ## Overlap regions -/

/-- The turn of the loop over the overlap regions for one region. -/
def offlineRegion (adapters : PipelineAdapters R V S) (ulids : ℕ → String) (mono : AudioBuffer S)
    (diarization : DiarizationResult R) (region : OverlapRegion R) :
    Method PyError (Session R V) (List (WordGroup R) × List String × Bool) :=
  let evidence := countingEvidence (some diarization) region.interval
  let decision := routeOverlap (estimateSourceCount evidence p.config) p.config evidence true
  p.handleOverlapRegion adapters ulids
    { mono, region, decision, diarization := some diarization }

/-! ## Reconciliation -/

/-- The turn of the loop of `reconcile_temporary_speakers` for one provisional
speaker: it is merged into the speaker its centroid is linked to. -/
def reconcileSpeaker (prototypes : List (SpeakerPrototype R V)) (speakerId : String) :
    Method PyError (SessionSpeakerState R V) Unit := do
  let st ← .read
  match st.speakers speakerId with
  | none => .throw (.keyError speakerId)
  | some provisional =>
    match provisional.prototype with
    | none => return ()
    | some prototype =>
      let pseudo ← .ofExcept (prototype.asEmbedding st.minimumSpeechMs .separated)
      let result ← .ofExcept (linkSources p.linearSumAssignment [some pseudo] prototypes
        p.config.sourceLinking [] none false)
      match result.decisions.head?.filter (fun d => d.status = .linked)
        |>.bind LinkingDecision.sessionSpeakerId with
      | none => return ()
      | some target =>
        let allowed ← .ofExcept (st.canMerge speakerId target)
        if allowed then
          let _ ← SessionSpeakerState.merge speakerId target "overlap_start_reconciliation"
          return ()
        else return ()

/-- **`reconcile_temporary_speakers`**: the provisional speakers are compared
with the centroids of the others. -/
def reconcileTemporarySpeakers : Method PyError (SessionSpeakerState R V) Unit := do
  let st ← .read
  let prototypes := (st.active.filter (fun s =>
    s.prototype.isSome && s.state != .provisional)).filterMap
    SessionSpeaker.prototype
  if prototypes = [] then return ()
  else
    .forEach (st.provisionalSpeakers.map SessionSpeaker.sessionSpeakerId)
      (p.reconcileSpeaker prototypes)

/-! ## Voice identification -/

/-- The turn of the loop of `apply_voice_id` for one speaker. -/
def identifySpeaker
    (identify : SpeakerEmbedding R V → Except PyError (VoiceIdDecision R)) (speakerId : String) :
    Method PyError (SessionSpeakerState R V) Unit := do
  let st ← .read
  match (st.speakers speakerId).bind SessionSpeaker.prototype with
  | none => return ()
  | some prototype =>
    let embedding ← .ofExcept (prototype.asEmbedding st.minimumSpeechMs .clean)
    let decision ← .ofExcept (identify embedding)
    let _ ← SessionSpeakerState.applyVoiceId speakerId decision
    return ()

/-- **`apply_voice_id`** of the pipeline: the registry is asked about every
active speaker with a centroid. -/
def applyVoiceId
    (registry : Option (ℕ → SpeakerEmbedding R V → Except PyError (VoiceIdDecision R))) :
    Method PyError (SessionSpeakerState R V) Unit :=
  match registry.filter (fun _ => p.config.voiceId.enabled) with
  | none => return ()
  | some identify => do
    let st ← .read
    .forEach (st.active.map SessionSpeaker.sessionSpeakerId).zipIdx fun (speakerId, n) =>
      identifySpeaker (identify n) speakerId

/-! ## The run -/

/-- `max_ms`. -/
def maxFileMs : ℕ := ⌊p.config.audio.maxFileHours * 3600000⌋₊

/-- What the run decodes, if that is not too long. -/
def decodedMono (decoded : Except PyError (AudioAsset S)) : Except PyError (AudioBuffer S) := do
  let asset ← decoded
  if p.maxFileMs < asset.durationMs then
    .error (.sastt .audioTooLong (toString asset.durationMs ++ " ms exceeds the "
      ++ toString p.maxFileMs ++ " ms limit") [("duration_ms", .int asset.durationMs)])
  else return asset.mono

/-- The word groups of a recording: of speech of one person, and of all overlap
regions. -/
def wordGroups (models : OfflineModels R V S) (ulids : ℕ → String) (pinned : Option String)
    (mono : AudioBuffer S) (diarization : DiarizationResult R) (regions : List (OverlapRegion R)) :
    Method PyError (Session R V) (List (WordGroup R) × List String × Bool) := do
  let speech ← .ofExcept (models.adapters.vad [] mono)
  let (pinned, uncertain) ← .ofExcept
    (p.resolveSessionLanguage models.detectLanguage pinned mono speech)
  let spoken := p.speaking pinned
  let (alone, unreliable) ← .ofExcept
    (spoken.transcribeNonOverlap (models.adapters.at 1) mono speech regions)
  let warnings := uncertain ++ unreliable
  let together ← .mapEach regions.zipIdx fun (region, n) =>
    spoken.offlineRegion (models.adapters.at (n + 2)) ulids mono diarization region
  return (alone ++ together.flatMap (fun r => r.1), warnings ++ together.flatMap (fun r => r.2.1),
    !warnings.isEmpty || together.any (fun r => r.2.2))

/-- What is done to the speakers between recognition and fusion. -/
def resolveSpeakers
    (registry : Option (ℕ → SpeakerEmbedding R V → Except PyError (VoiceIdDecision R))) :
    Method PyError (SessionSpeakerState R V) Unit := do
  p.reconcileTemporarySpeakers
  p.applyVoiceId registry
  let _ ← SessionSpeakerState.finalizeUnresolved
  return ()

/-- **`run`** on a session, with the language that is pinned. -/
def runOn (c : RunContext R) (models : OfflineModels R V S) (ulids : ℕ → String)
    (pinned : Option String) : Method PyError (Session R V) (OfflineResult R) := do
  let mono ← .ofExcept (p.decodedMono models.decoded)
  let diarization ← .ofExcept (models.diarizer mono)
  let osd ← .ofExcept (models.overlapDetector mono)
  let regions := mergeOverlapRegions diarization.overlapRegions osd
    (secondsToMs p.config.overlapDetection.mergeGapSeconds)
    (secondsToMs p.config.overlapDetection.minDurationSeconds)
  buildGlobalSpeakers (models.adapters.at 0) ulids diarization regions mono
  let (groups, warnings, degraded) ← p.wordGroups models ulids pinned mono diarization regions
  Session.onSpeakers (p.resolveSpeakers models.registry)
  let engine := FusionEngine.new c.sessionId p.config c.modelVersions (some c.calibrator) none
  let segments ← engine.fuse ulids groups diarization.regularTracks true 1 none
  return {
    jobId := c.jobId
    state := if degraded then .degradedSucceeded else .succeeded
    segments := sortSegments segments
    configVersion := c.configVersion
    modelVersions := c.modelVersions
    warnings := warnings.dedup.insertionSort (· ≤ ·)
    degraded
    estimatedSessionSpeakers := diarization.estimatedSessionSpeakers }

/-- **`run`**, of a session nobody has spoken in. -/
def run (c : RunContext R) (models : OfflineModels R V S) (ulids : ℕ → String)
    (pinned : Option String) : Except PyError (OfflineResult R) :=
  (p.runOn c models ulids pinned ⟨.new c.sessionId p.config c.embeddingModelVersion, 0⟩).1

variable {p}

/-- **What a run that returns has done**, stage after stage. -/
theorem stages_of_run {c : RunContext R} {models : OfflineModels R V S} {ulids : ℕ → String}
    {pinned : Option String} {result : OfflineResult R}
    (hok : p.run c models ulids pinned = .ok result) :
    ∃ mono diarization osd groups segments s₁ s₂ s₃ t,
      p.decodedMono models.decoded = .ok mono ∧ models.diarizer mono = .ok diarization
      ∧ models.overlapDetector mono = .ok osd ∧
      let regions := mergeOverlapRegions diarization.overlapRegions osd
        (secondsToMs p.config.overlapDetection.mergeGapSeconds)
        (secondsToMs p.config.overlapDetection.minDurationSeconds)
      buildGlobalSpeakers (models.adapters.at 0) ulids diarization regions mono
          ⟨.new c.sessionId p.config c.embeddingModelVersion, 0⟩ = (.ok (), s₁)
        ∧ p.wordGroups models ulids pinned mono diarization regions s₁ = (.ok groups, s₂)
        ∧ Session.onSpeakers (p.resolveSpeakers models.registry) s₂ = (.ok (), s₃)
        ∧ (FusionEngine.new c.sessionId p.config c.modelVersions (some c.calibrator) none).fuse
            ulids groups.1 diarization.regularTracks true 1 none s₃ = (.ok segments, t)
        ∧ result.segments = sortSegments segments := by
  obtain ⟨t, hrun⟩ : ∃ t, p.runOn c models ulids pinned
      ⟨.new c.sessionId p.config c.embeddingModelVersion, 0⟩ = (.ok result, t) :=
    ⟨_, Prod.ext (show _ = Except.ok result from hok) rfl⟩
  obtain ⟨mono, _, h₁, hrun⟩ := Method.bind_eq_ok.mp hrun
  obtain ⟨diarization, _, h₂, hrun⟩ := Method.bind_eq_ok.mp hrun
  obtain ⟨osd, _, h₃, hrun⟩ := Method.bind_eq_ok.mp hrun
  obtain ⟨_, s₁, h₄, hrun⟩ := Method.bind_eq_ok.mp hrun
  obtain ⟨groups, s₂, h₅, hrun⟩ := Method.bind_eq_ok.mp hrun
  obtain ⟨_, s₃, h₆, hrun⟩ := Method.bind_eq_ok.mp hrun
  obtain ⟨segments, _, h₇, hrun⟩ := Method.bind_eq_ok.mp hrun
  cases hrun
  obtain ⟨hmono, rfl⟩ := Method.ofExcept_eq_ok.mp h₁
  obtain ⟨hdiarization, rfl⟩ := Method.ofExcept_eq_ok.mp h₂
  obtain ⟨hosd, rfl⟩ := Method.ofExcept_eq_ok.mp h₃
  exact ⟨mono, diarization, osd, groups, segments, s₁, s₂, s₃, t, hmono, hdiarization, hosd, h₄,
    h₅, h₆, h₇, rfl⟩

end OfflinePipeline

end Sastt
