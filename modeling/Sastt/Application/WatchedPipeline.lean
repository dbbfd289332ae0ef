import Sastt.Application.OfflineRun

/-!
# The offline pipeline, watched

Every call of an adapter is handed a context, and an adapter begins by checking
it: that is how a run is cancelled, and how its deadline is to be kept. A
context carries a cancellation token and the moment it was made. Those a run
hands on are children of the caller's, with the caller's token and a clock of
their own – except for the mixture of a region, which is recognised in a context
made on the spot.

`WatchedPipeline` is the offline pipeline with what happens around a run: what
the clock says at each call, and whether the caller has cancelled by then. Its
methods are those of the pipeline, over a state that writes down the calls that
are made, with their contexts, and what the recogniser heard. Nothing reads what
is written down. What is not about contexts is the same as without them
(`WatchedPipeline.refines_runOn`).
-/

namespace Sastt

open Method

/-! ## Contexts -/

/-- Whose cancellation a context follows. -/
inductive CancellationToken
  /-- The caller's. -/
  | caller
  /-- One that nobody else has, and nobody cancels. -/
  | own
deriving DecidableEq, Repr

/-- **The context of a call.** -/
structure CallContext where
  stage : String
  timeoutSeconds : ℚ := 60
  cancellation : CancellationToken
  startedMonotonic : ℚ
deriving DecidableEq, Repr

namespace CallContext

/-- `deadline_exceeded`. -/
def deadlineExceeded (ctx : CallContext) (now : ℚ) : Bool :=
  ctx.timeoutSeconds < now - ctx.startedMonotonic

/-- `child`: the same token, and a clock that starts now. -/
def child (ctx : CallContext) (stage : String) (now : ℚ) : CallContext :=
  { ctx with stage, startedMonotonic := now }

/-- What `raise_if_cancelled` raises. -/
def cancelledError : PyError := .sastt .cancelled "operation cancelled" []

/-- `check`. -/
def check (ctx : CallContext) (isCancelled : CancellationToken → Bool) : Except PyError Unit :=
  if isCancelled ctx.cancellation then .error cancelledError else .ok ()

end CallContext

/-- The adapters that are handed a context. -/
inductive Port
  | decoder
  | diarizer
  | overlapDetector
  | vad
  | languageDetector
  | recognizer
  | separator
  | embedder
  | registry
deriving DecidableEq, Repr

/-- A call of an adapter, and whether it got past its check. -/
structure AdapterCall where
  port : Port
  ctx : CallContext
  passed : Bool
deriving DecidableEq, Repr

/-- **What happens around a run**: the clock at each of its calls, and whether
the caller has cancelled by then. -/
structure Surroundings where
  now : ℕ → ℚ
  cancelled : ℕ → Bool
  /-- The clock does not run backwards. -/
  now_mono : Monotone now
  /-- What is cancelled stays cancelled. -/
  cancelled_mono : ∀ m n, m ≤ n → cancelled m = true → cancelled n = true

/-- A clock may stand still. -/
theorem monotone_zero : Monotone (fun _ : ℕ => (0 : ℚ)) := monotone_const

/-- Whether a token is cancelled at a call. -/
def Surroundings.isCancelled (around : Surroundings) (n : ℕ) : CancellationToken → Bool
  | .caller => around.cancelled n
  | .own => false

/-! ## What is heard -/

/-- What a recognizer is given: speech of one person, a separated source, or the
mixture of a region. -/
inductive HearingKind
  | nonOverlap
  | separated
  | mixture
deriving DecidableEq, Repr

/-- The warning that a transcript of this kind was withheld. -/
def HearingKind.warning : HearingKind → String
  | .nonOverlap => WARNING_UNRELIABLE_NON_OVERLAP_TRANSCRIPT
  | .separated => WARNING_UNRELIABLE_SEPARATED_TRANSCRIPT
  | .mixture => WARNING_UNRELIABLE_MIXTURE_TRANSCRIPT

/-- **A call of the recognizer**: the words its slice owns, and the speech they
are held against. -/
structure Hearing (R : Type) where
  kind : HearingKind
  interval : TimeInterval
  words : List (Word R)
  speech : List TimeInterval

/-- Whether there are words, and they are not believed. -/
def Hearing.rejected {R : Type} (h : Hearing R) : Bool :=
  h.words ≠ [] && !isPlausibleTranscript h.words h.speech

/-- Whether there are words, and they are believed. -/
def Hearing.believed {R : Type} (h : Hearing R) : Bool :=
  h.words ≠ [] && isPlausibleTranscript h.words h.speech

/-- What is written down of a run. -/
inductive Note (R : Type)
  | heard (hearing : Hearing R)
  /-- The separator makes an attempt at a region raise. -/
  | failed (region : TimeInterval)
  /-- The separation of a region is given up. -/
  | abandoned (region : TimeInterval)

section

variable (R V : Type) [Field R] [LinearOrder R] [IsStrictOrderedRing R] [AddCommGroup V]
  [Module R V] [EmbeddingSpace R V]

/-- **A run that is watched.** -/
structure WatchedRun where
  session : Session R V
  calls : List AdapterCall := []
  notes : List (Note R) := []

end

/-- **A pipeline that is watched**: who calls it, and what happens around the
run. -/
structure WatchedPipeline (R : Type) [Field R] [LinearOrder R] [IsStrictOrderedRing R] extends
    OfflinePipeline R where
  around : Surroundings
  stage : String
  timeoutSeconds : ℚ
  startedMonotonic : ℚ

variable {R V S : Type} [Field R] [LinearOrder R] [IsStrictOrderedRing R] [AddCommGroup V]
  [Module R V] [EmbeddingSpace R V]

namespace WatchedRun

/-- A method of the session. -/
def onSession {α : Type} (m : Method PyError (Session R V) α) :
    Method PyError (WatchedRun R V) α :=
  m.zoom session (fun u s => { u with session := s })

/-- Write something down. -/
def note (n : Note R) : Method PyError (WatchedRun R V) Unit :=
  .modify fun u => { u with notes := u.notes ++ [n] }

end WatchedRun

open WatchedRun

namespace WatchedPipeline

variable (t : WatchedPipeline R)

/-- The context of the caller. -/
def ctx : CallContext := ⟨t.stage, t.timeoutSeconds, .caller, t.startedMonotonic⟩

/-- `time.monotonic`. -/
def clock : Method PyError (WatchedRun R V) ℚ := do
  let u ← .read
  return t.around.now u.calls.length

/-- **An adapter is called** in a context, and checks it first. -/
def call {α : Type} (ctx : CallContext) (port : Port) (reply : Except PyError α) :
    Method PyError (WatchedRun R V) α := do
  let u ← .read
  let checked := ctx.check (t.around.isCancelled u.calls.length)
  .modify fun u => { u with calls := u.calls ++ [⟨port, ctx, checked.isOk⟩] }
  .ofExcept (checked >>= fun _ => reply)

/-- A call in a child of the caller's context. -/
def ask {α : Type} (stage : String) (port : Port) (reply : Except PyError α) :
    Method PyError (WatchedRun R V) α := do
  let now ← t.clock
  t.call (t.ctx.child stage now) port reply

/-! ## The stages both pipelines share -/

/-- The speech of a slice that is to be embedded. -/
def speechToEmbed (adapters : PipelineAdapters R V S) (crop : AudioBuffer S) :
    Option (List TimeInterval) → Method PyError (WatchedRun R V) (List TimeInterval)
  | some speech => return speech
  | none => t.ask "vad" .vad (adapters.vad [] crop)

/-- `embed_buffer`. -/
def embedBuffer (adapters : PipelineAdapters R V S) (buffer : AudioBuffer S)
    (interval : TimeInterval) (origin : EmbeddingOrigin) (sourceTrack : Option ℕ)
    (speechIntervals : Option (List TimeInterval)) (minimumSpeechMs : Option ℕ) :
    Method PyError (WatchedRun R V) (Option (SpeakerEmbedding R V)) :=
  match buffer.cropMs interval with
  | .error e => if e.isSastt then return none else .throw e
  | .ok crop => do
    let speech ← t.speechToEmbed adapters crop speechIntervals
    (some <$> t.ask "embedding" .embedder
        (adapters.embed [] crop speech origin minimumSpeechMs sourceTrack)).catchIf
      (·.isClass .insufficientSpeechForEmbedding) fun _ => return none

/-- The turn of the last loop of `build_global_speakers` for one segment. -/
def learnSegment (adapters : PipelineAdapters R V S) (mono : AudioBuffer S) (speakerId : String)
    (interval : TimeInterval) : Method PyError (WatchedRun R V) Unit := do
  let u ← .read
  if interval.durationMs < u.session.speakers.minimumSpeechMs then return ()
  else
    match ← t.embedBuffer adapters mono interval .clean none none none with
    | none => return ()
    | some embedding =>
      let _ ← onSession (Session.onSpeakers
        (SessionSpeakerState.updatePrototype speakerId embedding none true))

/-- The turn of the last loop for one cluster. -/
def learnCluster (adapters : PipelineAdapters R V S) (overlapRegions : List (OverlapRegion R))
    (mono : AudioBuffer S) (cluster : String × List TimeInterval) :
    Method PyError (WatchedRun R V) Unit := do
  let u ← .read
  match u.session.speakers.byCluster cluster.1 with
  | none => return ()
  | some speaker =>
    .forEach (cleanSegments cluster.2 overlapRegions).zipIdx fun (interval, n) =>
      t.learnSegment (adapters.at n) mono speaker.sessionSpeakerId interval

/-- `build_global_speakers`. -/
def buildGlobalSpeakers (adapters : PipelineAdapters R V S) (ulids : ℕ → String)
    (diarization : DiarizationResult R) (overlapRegions : List (OverlapRegion R))
    (mono : AudioBuffer S) : Method PyError (WatchedRun R V) Unit := do
  let perCluster := turnsPerCluster diarization.regularTracks
  .forEach diarization.clusterIds fun cluster => onSession do
    let ulid ← Session.newUlid ulids
    let _ ← Session.onSpeakers (SessionSpeakerState.ensureClusterSpeaker ulid cluster)
  .forEach (overlappingClusters perCluster) fun clusters => onSession (constrainClusters clusters)
  .forEach perCluster.zipIdx fun (cluster, n) =>
    t.learnCluster (adapters.at n) overlapRegions mono cluster

/-- `resolve_session_language`. -/
def resolveSessionLanguage (detectLanguage : AudioBuffer S → Except PyError (String × R))
    (pinned : Option String) (mono : AudioBuffer S) (speech : List TimeInterval) :
    Method PyError (WatchedRun R V) (Option String × List String) := do
  let settings := t.config.asr.languageDetection
  if truthy t.config.asr.language ∨ settings.mode ≠ .autoOnce ∨ pinned.isSome then
    return (pinned, [])
  else
    match ← .ofExcept (poolSpeech mono speech (secondsToMs settings.sampleSeconds)) with
    | none => return (none, [])
    | some pooled =>
      let (language, probability) ← t.ask "language_id" .languageDetector (detectLanguage pooled)
      if probability < settings.minProbability then return (none, [WARNING_LANGUAGE_UNCERTAIN])
      else return (some language, [])

/-- The pipeline with the language of the session. -/
def speaking (pinned : Option String) : WatchedPipeline R :=
  { t with toOfflinePipeline := t.toOfflinePipeline.speaking pinned }

/-! ## Recognition -/

/-- `transcribe_non_overlap`: the loop over the slices. -/
def transcribeSlices (adapters : PipelineAdapters R V S) (mono : AudioBuffer S) :
    ℕ → List TimeInterval → Method PyError (WatchedRun R V) (List (WordGroup R) × List String)
  | _, [] => return ([], [])
  | n, interval :: rest =>
    if interval.durationMs < 50 then transcribeSlices adapters mono (n + 1) rest
    else do
      let crop ← .ofExcept (mono.cropMs interval)
      let result ← t.ask "asr" .recognizer
        (adapters.transcribe [n] crop t.sessionLanguage none)
      let words := wordsOwnedBy result.words interval
      note (.heard ⟨.nonOverlap, interval, words, [interval]⟩)
      let (groups, warnings) ← transcribeSlices adapters mono (n + 1) rest
      if words = [] then return (groups, warnings)
      else if !isPlausibleTranscript words [interval] then
        return (groups, WARNING_UNRELIABLE_NON_OVERLAP_TRANSCRIPT :: warnings)
      else return ({ words, interval, rawScores := result.rawScores } :: groups, warnings)

/-- `transcribe_non_overlap`. -/
def transcribeNonOverlap (adapters : PipelineAdapters R V S) (mono : AudioBuffer S)
    (speech : List TimeInterval) (overlapRegions : List (OverlapRegion R)) :
    Method PyError (WatchedRun R V) (List (WordGroup R) × List String) :=
  t.transcribeSlices adapters mono 0
    (subtractIntervals speech (overlapRegions.map OverlapRegion.interval))

/-- The word group of the mixture of a region. -/
def mixtureGroup (region : OverlapRegion R) (decision : RouteDecision R) (warnings : List String)
    (result : ASRResult R) : WordGroup R where
  words := wordsOwnedBy result.words region.interval
  interval := region.interval
  isOverlap := true
  estimatedConcurrentSpeakers := decision.count.count
  countConfidence := decision.count.confidence
  rawScores := region.osdActivation.elim result.rawScores
    (fun activation => result.rawScores.set "osd_activation" activation)
  qualityFlags := warnings.dedup.insertionSort (· ≤ ·)
  degradedMode := true

/-- **`mixture_fallback`**, in a context of its own. -/
def mixtureFallback (adapters : PipelineAdapters R V S) (mono : AudioBuffer S)
    (region : OverlapRegion R) (decision : RouteDecision R) (warnings : List String) :
    Method PyError (WatchedRun R V) (List (WordGroup R) × List String) := do
  let now ← t.clock
  let ctx : CallContext := { stage := "asr_mixture", cancellation := .own, startedMonotonic := now }
  let crop ← .ofExcept (mono.cropMs region.interval)
  let result ← t.call ctx .recognizer (adapters.transcribe [] crop t.sessionLanguage none)
  let words := wordsOwnedBy result.words region.interval
  if words = [] then
    note (.heard ⟨.mixture, region.interval, words, []⟩)
    return ([], warnings)
  else
    let now ← t.clock
    let speech ← t.call (ctx.child "vad" now) .vad (adapters.vad [] crop)
    note (.heard ⟨.mixture, region.interval, words, speech⟩)
    if !isPlausibleTranscript words speech then
      return ([], warnings ++ [WARNING_UNRELIABLE_MIXTURE_TRANSCRIPT])
    else return ([mixtureGroup region decision warnings result], warnings)

/-! ## The sources of one window -/

/-- The turn of the loop that listens to one source. -/
def separatedSource (adapters : PipelineAdapters R V S) (batch : SeparatedBatch R S)
    (window owned : TimeInterval) (track : ℕ) (samples : List S) (quality : SourceQuality R) :
    Method PyError (WatchedRun R V) (OfflinePipeline.SeparatedSource R V S) := do
  let source ← .ofExcept (AudioBuffer.new samples batch.sampleRate batch.startSample)
  let asrBuffer ← .ofExcept (source.cropMs owned)
  let speech ← t.ask "vad" .vad (adapters.vad [0] asrBuffer)
  let padded := t.config.sourceLinking.embeddingWindow = .padded ∧ window ≠ owned
  let embedSpeech ← if padded then t.ask "vad" .vad (adapters.vad [1] source) else pure speech
  let embedding ← t.embedBuffer adapters source (if padded then window else owned) .separated
    (some track) (some embedSpeech) (some t.linkingMinimumSpeechMs)
  return { track, asrBuffer, speech, embedding, quality }

/-- The loop over the sources of a window. -/
def separatedSources (adapters : PipelineAdapters R V S) (batch : SeparatedBatch R S)
    (window owned : TimeInterval) :
    Method PyError (WatchedRun R V) (List (OfflinePipeline.SeparatedSource R V S)) :=
  .mapEach (batch.sources.zip batch.sourceQuality).zipIdx fun ((samples, quality), track) =>
    t.separatedSource (adapters.at track) batch window owned track samples quality

/-- The loop over the linked sources of a window. -/
def emitSources (adapters : PipelineAdapters R V S) (ulids : ℕ → String)
    (window : OfflinePipeline.WindowContext R) :
    List (OfflinePipeline.SeparatedSource R V S × LinkingDecision R) → List String →
      OfflinePipeline.CropResult R →
        Method PyError (WatchedRun R V) (Bool × OfflinePipeline.CropResult R)
  | [], _, result => return (true, result)
  | (source, link) :: rest, assignedInCrop, result => do
    let asr ← t.ask "asr" .recognizer (adapters.transcribe [source.track] source.asrBuffer
      t.sessionLanguage (some source.track))
    let words := wordsOwnedBy asr.words window.owned
    note (.heard ⟨.separated, window.owned, words, source.speech⟩)
    if words = [] then emitSources adapters ulids window rest assignedInCrop result
    else if !isPlausibleTranscript words source.speech then
      return (false, { result with
        warnings := result.warnings ++ [WARNING_UNRELIABLE_SEPARATED_TRANSCRIPT] })
    else
      let speakerId ← onSession (OfflinePipeline.identifySource ulids source link)
      onSession (OfflinePipeline.constrainSource assignedInCrop speakerId)
      emitSources adapters ulids window rest (assignedInCrop ++ speakerId.toList) {
        groups := result.groups
          ++ [OfflinePipeline.sourceGroup window words asr source.track link speakerId]
        warnings := result.warnings
          ++ (if speakerId.isNone then ["unidentified_source"] else []) }

/-! ## A region, window by window -/

/-- The first half of the loop over the windows of a region. -/
def listenWindow (adapters : PipelineAdapters R V S) (c : OfflinePipeline.RegionContext R S)
    (separator : SpeechSeparator R S) (n : ℕ) (window owned : TimeInterval) :
    Method PyError (WatchedRun R V)
      (List String × List (OfflinePipeline.SeparatedSource R V S)) := do
  let crop ← .ofExcept (c.mono.cropMs window)
  let batch ← t.ask "separation" .separator (separator.separate [n] crop c.requested)
  let sources ← t.separatedSources (adapters.at n) batch window owned
  return (detectSeparationSuspect batch, sources)

/-- The loop over the windows of a region. -/
def separateWindows (adapters : PipelineAdapters R V S) (ulids : ℕ → String)
    (c : OfflinePipeline.RegionContext R S) (separator : SpeechSeparator R S) :
    ℕ → List (TimeInterval × TimeInterval) → PreviousMapping → OfflinePipeline.CropResult R →
      Method PyError (WatchedRun R V) (Bool × OfflinePipeline.CropResult R)
  | _, [], _, result => return (true, result)
  | n, (window, owned) :: rest, previousMapping, result => do
    let (flags, sources) ← t.listenWindow adapters c separator n window owned
    let u ← .read
    let (decisions, mapping) ← .ofExcept
      (t.linkWindow c u.session.speakers window sources previousMapping)
    let (credible, result) ← t.emitSources (adapters.at n) ulids
      { region := c.region, owned, decision := c.decision, backend := separator.backend, flags }
      (sources.zip decisions) [] { result with warnings := result.warnings ++ flags }
    if credible then separateWindows adapters ulids c separator (n + 1) rest mapping result
    else return (false, result)

/-- `separate_and_link`. -/
def separateAndLink (adapters : PipelineAdapters R V S) (ulids : ℕ → String)
    (c : OfflinePipeline.RegionContext R S) (padded : TimeInterval)
    (separator : SpeechSeparator R S) :
    Method PyError (WatchedRun R V) (List (WordGroup R) × List String × Bool) := do
  let windows ← .ofExcept (splitCrop padded c.region.interval
    (secondsToMs t.config.separation.maxCropSeconds)
    (secondsToMs t.config.separation.stitchOverlapSeconds))
  let (credible, result) ← t.separateWindows adapters ulids c separator 0 windows [] {}
  if credible then return (result.groups, result.warnings, false)
  else
    note (.abandoned c.region.interval)
    let (groups, warnings) ← t.mixtureFallback adapters c.mono c.region c.decision result.warnings
    return (groups, warnings, true)

/-- One attempt at a region. -/
def attempt (adapters : PipelineAdapters R V S) (ulids : ℕ → String)
    (c : OfflinePipeline.RegionContext R S) (separator : SpeechSeparator R S) (n : ℕ)
    (crop : TimeInterval) :
    Method PyError (WatchedRun R V) (Option (List (WordGroup R) × List String × Bool)) := do
  return some (← t.separateAndLink (adapters.at n) ulids c crop (separator.at n))

/-- The two attempts at a region. -/
def attemptSeparation (adapters : PipelineAdapters R V S) (ulids : ℕ → String)
    (c : OfflinePipeline.RegionContext R S) (separator : SpeechSeparator R S) :
    Method PyError (WatchedRun R V) (Option (List (WordGroup R) × List String × Bool)) :=
  (t.attempt adapters ulids c separator 0 (t.paddedRegion c)).catchIf
    (·.isClass .separationFailed) fun _ => do
      note (.failed c.region.interval)
      (t.attempt adapters ulids c separator 1 c.region.interval).catchIf
        (·.isClass .separationFailed) fun _ => do
          note (.failed c.region.interval)
          note (.abandoned c.region.interval)
          return none

/-- A region that is recognised as a mixture. -/
def mixture (adapters : PipelineAdapters R V S) (c : OfflinePipeline.RegionContext R S)
    (warnings : List String) (degraded : Bool) :
    Method PyError (WatchedRun R V) (List (WordGroup R) × List String × Bool) := do
  let (groups, warnings) ← t.mixtureFallback adapters c.mono c.region c.decision warnings
  return (groups, warnings, degraded)

/-- **`handle_overlap_region`.** -/
def handleOverlapRegion (adapters : PipelineAdapters R V S) (ulids : ℕ → String)
    (c : OfflinePipeline.RegionContext R S) :
    Method PyError (WatchedRun R V) (List (WordGroup R) × List String × Bool) :=
  if !c.decision.runsSeparation || adapters.separator.isNone then
    t.mixture adapters c c.decision.warnings (c.decision.degraded || adapters.separator.isNone)
  else
    match OfflinePipeline.separatorFor adapters c.decision with
    | none => t.mixture adapters c (c.decision.warnings ++ ["separator_unavailable"]) true
    | some separator => do
      match ← t.attemptSeparation adapters ulids c separator with
      | some (groups, warnings, degraded) =>
        return (groups, c.decision.warnings ++ warnings, c.decision.degraded || degraded)
      | none => t.mixture adapters c (c.decision.warnings ++ ["separation_failed_degraded"]) true

/-- The turn of the loop over the overlap regions for one region. -/
def offlineRegion (adapters : PipelineAdapters R V S) (ulids : ℕ → String) (mono : AudioBuffer S)
    (diarization : DiarizationResult R) (region : OverlapRegion R) :
    Method PyError (WatchedRun R V) (List (WordGroup R) × List String × Bool) :=
  let evidence := OfflinePipeline.countingEvidence (some diarization) region.interval
  let decision := routeOverlap (estimateSourceCount evidence t.config) t.config evidence true
  t.handleOverlapRegion adapters ulids
    { mono, region, decision, diarization := some diarization }

/-! ## The run -/

/-- The turn of the loop of `apply_voice_id` for one speaker. -/
def identifySpeaker
    (identify : SpeakerEmbedding R V → Except PyError (VoiceIdDecision R)) (speakerId : String) :
    Method PyError (WatchedRun R V) Unit := do
  let u ← .read
  match (u.session.speakers.speakers speakerId).bind SessionSpeaker.prototype with
  | none => return ()
  | some prototype =>
    let embedding ← .ofExcept (prototype.asEmbedding u.session.speakers.minimumSpeechMs .clean)
    let decision ← t.ask "voice_id" .registry (identify embedding)
    let _ ← onSession (Session.onSpeakers (SessionSpeakerState.applyVoiceId speakerId decision))
    return ()

/-- `apply_voice_id`. -/
def applyVoiceId
    (registry : Option (ℕ → SpeakerEmbedding R V → Except PyError (VoiceIdDecision R))) :
    Method PyError (WatchedRun R V) Unit :=
  match registry.filter (fun _ => t.config.voiceId.enabled) with
  | none => return ()
  | some identify => do
    let u ← .read
    .forEach (u.session.speakers.active.map SessionSpeaker.sessionSpeakerId).zipIdx
      fun (speakerId, n) => t.identifySpeaker (identify n) speakerId

/-- The word groups of a recording. -/
def wordGroups (models : OfflineModels R V S) (ulids : ℕ → String) (pinned : Option String)
    (mono : AudioBuffer S) (diarization : DiarizationResult R) (regions : List (OverlapRegion R)) :
    Method PyError (WatchedRun R V) (List (WordGroup R) × List String × Bool) := do
  let speech ← t.ask "vad" .vad (models.adapters.vad [] mono)
  let (pinned, uncertain) ← t.resolveSessionLanguage models.detectLanguage pinned mono speech
  let spoken := t.speaking pinned
  let (alone, unreliable) ← spoken.transcribeNonOverlap (models.adapters.at 1) mono speech regions
  let warnings := uncertain ++ unreliable
  let together ← .mapEach regions.zipIdx fun (region, n) =>
    spoken.offlineRegion (models.adapters.at (n + 2)) ulids mono diarization region
  return (alone ++ together.flatMap (fun r => r.1), warnings ++ together.flatMap (fun r => r.2.1),
    !warnings.isEmpty || together.any (fun r => r.2.2))

/-- What is done to the speakers between recognition and fusion. -/
def resolveSpeakers
    (registry : Option (ℕ → SpeakerEmbedding R V → Except PyError (VoiceIdDecision R))) :
    Method PyError (WatchedRun R V) Unit := do
  onSession (Session.onSpeakers t.reconcileTemporarySpeakers)
  t.applyVoiceId registry
  let _ ← onSession (Session.onSpeakers SessionSpeakerState.finalizeUnresolved)
  return ()

/-- **`run`** on a session, with the language that is pinned. -/
def runOn (c : RunContext R) (models : OfflineModels R V S) (ulids : ℕ → String)
    (pinned : Option String) : Method PyError (WatchedRun R V) (OfflineResult R) := do
  let asset ← t.ask "decode" .decoder models.decoded
  let mono ← .ofExcept (t.decodedMono (.ok asset))
  let diarization ← t.ask "diarization" .diarizer (models.diarizer mono)
  let osd ← t.ask "osd" .overlapDetector (models.overlapDetector mono)
  let regions := mergeOverlapRegions diarization.overlapRegions osd
    (secondsToMs t.config.overlapDetection.mergeGapSeconds)
    (secondsToMs t.config.overlapDetection.minDurationSeconds)
  t.buildGlobalSpeakers (models.adapters.at 0) ulids diarization regions mono
  let (groups, warnings, degraded) ← t.wordGroups models ulids pinned mono diarization regions
  t.resolveSpeakers models.registry
  let engine := FusionEngine.new c.sessionId t.config c.modelVersions (some c.calibrator) none
  let segments ← onSession (engine.fuse ulids groups diarization.regularTracks true 1 none)
  return {
    jobId := c.jobId
    state := if degraded then .degradedSucceeded else .succeeded
    segments := sortSegments segments
    configVersion := c.configVersion
    modelVersions := c.modelVersions
    warnings := warnings.dedup.insertionSort (· ≤ ·)
    degraded
    estimatedSessionSpeakers := diarization.estimatedSessionSpeakers }

/-- **`run`**, of a session nobody has spoken in: what it returns or raises, and
what is written down of it. -/
def run (c : RunContext R) (models : OfflineModels R V S) (ulids : ℕ → String)
    (pinned : Option String) : Except PyError (OfflineResult R) × WatchedRun R V :=
  t.runOn c models ulids pinned ⟨⟨.new c.sessionId t.config c.embeddingModelVersion, 0⟩, [], []⟩

end WatchedPipeline

end Sastt
