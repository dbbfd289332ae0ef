import Sastt.Application.PipelineAdapters
import Sastt.Application.SourceLinking
import Sastt.Application.SplitCrop

/-!
# What the pipeline does with speech

`transcribeNonOverlap` transcribes the parts of the speech where one person
talks. An overlap region goes to `handleOverlapRegion`: if its route runs a
separator, the region is cut into windows, each window is separated into
sources, the sources are linked to speakers of the session, and what is
recognised of each source becomes a word group (`separateAndLink`). Linking
writes to the session as it goes, source by source.

Separation is given up when a source comes out implausible, or when the
separator fails twice; the region is then transcribed as the mixture it is
(`mixtureFallback`). What has been written to the session by then stays
written.
-/

namespace Sastt

variable {R V S : Type} [Field R] [LinearOrder R] [IsStrictOrderedRing R] [AddCommGroup V]
  [Module R V] [EmbeddingSpace R V]

/-- **A pipeline**: its configuration, the assignment of the numeric library,
and the language of the session once it is known. -/
structure OfflinePipeline (R : Type) [Field R] [LinearOrder R] [IsStrictOrderedRing R] where
  config : SasttConfig R
  linearSumAssignment : AssignmentRule R
  allowProvisionalContinuity : Bool := true
  sessionLanguage : Option String := none

namespace OfflinePipeline

variable (p : OfflinePipeline R)

/-- `linking_minimum_speech_ms`. -/
def linkingMinimumSpeechMs : ℕ :=
  p.config.sourceLinking.minEmbeddingMs.getD
    (secondsToMs p.config.speakerEmbedding.minimumCleanSpeechSeconds)

/-- The clusters the diarizer has active over an interval. -/
def activeClusters (diarization : DiarizationResult R) (interval : TimeInterval) : List String :=
  ((diarization.regularTracks.filter (fun turn => turn.interval.intersects interval)).map
    SpeakerTurn.clusterId).dedup

/-- `counting_evidence`. -/
def countingEvidence (diarization : Option (DiarizationResult R)) (interval : TimeInterval) :
    CountingEvidence R :=
  match diarization.map (fun d => activeClusters d interval) with
  | none | some [] => {}
  | some active => { diarizationActiveSpeakers := some active.length }

/-- `_active_speakers`: who may be linked to in a window, and how many of
them the diarizer has active there. Speakers without a cluster are carried
along. -/
def activeSpeakers (diarization : Option (DiarizationResult R))
    (state : SessionSpeakerState R V) (interval : TimeInterval) : Option (List String) × ℕ :=
  match diarization.filter (fun _ => p.config.sourceLinking.restrictToActiveClusters) with
  | none => (none, 0)
  | some d =>
    let keys := (((activeClusters d interval).filterMap state.byCluster).map
      SessionSpeaker.sessionSpeakerId).dedup
    if keys = [] then (none, 0)
    else
      let clusterless := (state.active.filter (fun s => s.clusterId.isNone)).map
        SessionSpeaker.sessionSpeakerId
      (some (keys ++ clusterless), keys.length)

/-! ## Speech of one person -/

/-- `transcribe_non_overlap`: the loop over the slices. -/
def transcribeSlices (adapters : PipelineAdapters R V S) (mono : AudioBuffer S) :
    ℕ → List TimeInterval → Except PyError (List (WordGroup R) × List String)
  | _, [] => return ([], [])
  | n, interval :: rest =>
    if interval.durationMs < 50 then transcribeSlices adapters mono (n + 1) rest
    else do
      let crop ← mono.cropMs interval
      let result ← adapters.transcribe [n] crop p.sessionLanguage none
      let words := wordsOwnedBy result.words interval
      let (groups, warnings) ← transcribeSlices adapters mono (n + 1) rest
      if words = [] then return (groups, warnings)
      else if !isPlausibleTranscript words [interval] then
        return (groups, WARNING_UNRELIABLE_NON_OVERLAP_TRANSCRIPT :: warnings)
      else return ({ words, interval, rawScores := result.rawScores } :: groups, warnings)

/-- **`transcribe_non_overlap`**: recognition on the speech outside the
overlap regions. -/
def transcribeNonOverlap (adapters : PipelineAdapters R V S) (mono : AudioBuffer S)
    (speech : List TimeInterval) (overlapRegions : List (OverlapRegion R)) :
    Except PyError (List (WordGroup R) × List String) :=
  p.transcribeSlices adapters mono 0
    (subtractIntervals speech (overlapRegions.map OverlapRegion.interval))

/-! ## The mixture -/

/-- **`mixture_fallback`**: the region is recognised as it is, and its words
belong to nobody. -/
def mixtureFallback (adapters : PipelineAdapters R V S) (mono : AudioBuffer S)
    (region : OverlapRegion R) (decision : RouteDecision R) (warnings : List String) :
    Except PyError (List (WordGroup R) × List String) := do
  let crop ← mono.cropMs region.interval
  let result ← adapters.transcribe [] crop p.sessionLanguage none
  let words := wordsOwnedBy result.words region.interval
  if words = [] then return ([], warnings)
  else
    let speech ← adapters.vad [] crop
    if !isPlausibleTranscript words speech then
      return ([], warnings ++ [WARNING_UNRELIABLE_MIXTURE_TRANSCRIPT])
    else
      return ([{
        words
        interval := region.interval
        isOverlap := true
        estimatedConcurrentSpeakers := decision.count.count
        countConfidence := decision.count.confidence
        rawScores := region.osdActivation.elim result.rawScores
          (fun activation => result.rawScores.set "osd_activation" activation)
        qualityFlags := warnings.dedup.insertionSort (· ≤ ·)
        degradedMode := true }], warnings)

/-! ## The sources of one window -/

/-- **A separated source**, with what was heard in it. -/
structure SeparatedSource (R V S : Type) [Field R] [LinearOrder R] [AddCommGroup V] [Module R V]
    [EmbeddingSpace R V] where
  track : ℕ
  asrBuffer : AudioBuffer S
  speech : List TimeInterval
  embedding : Option (SpeakerEmbedding R V)
  quality : SourceQuality R

/-- The turn of the loop that listens to one source: recognition stays inside
the slice the window owns, and the embedding may use the whole window. -/
def separatedSource (adapters : PipelineAdapters R V S) (batch : SeparatedBatch R S)
    (window owned : TimeInterval) (track : ℕ) (samples : List S) (quality : SourceQuality R) :
    Except PyError (SeparatedSource R V S) := do
  let source ← AudioBuffer.new samples batch.sampleRate batch.startSample
  let asrBuffer ← source.cropMs owned
  let speech ← adapters.vad [0] asrBuffer
  let padded := p.config.sourceLinking.embeddingWindow = .padded ∧ window ≠ owned
  let embedSpeech ← if padded then adapters.vad [1] source else .ok speech
  let embedding ← embedBuffer adapters source (if padded then window else owned) .separated
    (some track) (some embedSpeech) (some p.linkingMinimumSpeechMs)
  return { track, asrBuffer, speech, embedding, quality }

/-- The loop over the sources of a window. -/
def separatedSources (adapters : PipelineAdapters R V S) (batch : SeparatedBatch R S)
    (window owned : TimeInterval) : Except PyError (List (SeparatedSource R V S)) :=
  (batch.sources.zip batch.sourceQuality).zipIdx.mapM fun ((samples, quality), track) =>
    p.separatedSource (adapters.at track) batch window owned track samples quality

/-- Who a source is: the speaker it was linked to, whose evidence it adds to,
or a new temporary speaker if the source could be recognised again. -/
def identifySource (ulids : ℕ → String) (source : SeparatedSource R V S)
    (link : LinkingDecision R) : Method PyError (Session R V) (Option String) := do
  let s ← .read
  match link.sessionSpeakerId, source.embedding with
  | none, some embedding =>
    if s.speakers.minimumSpeechMs ≤ embedding.speechDurationMs ∧ s.speakers.canAdmitSpeaker then
      let ulid ← Session.newUlid ulids
      let temporary ← Session.onSpeakers (SessionSpeakerState.createTemporarySpeaker ulid)
      let id := temporary.sessionSpeakerId
      let _ ← Session.onSpeakers (SessionSpeakerState.bufferProvisionalEmbedding id embedding)
      return some id
    else return none
  | some id, some embedding =>
    let speaker ← .ofExcept (s.speakers.get id)
    if speaker.state = .provisional then
      let _ ← Session.onSpeakers (SessionSpeakerState.bufferProvisionalEmbedding id embedding)
      return some id
    else
      let _ ← Session.onSpeakers
        (SessionSpeakerState.updatePrototype id embedding link.margin source.quality.passedGate)
      return some id
  | speakerId, none => return speakerId

/-- The sources of one crop are different people. -/
def constrainSource (assignedInCrop : List String) (speakerId : Option String) :
    Method PyError (Session R V) Unit :=
  match speakerId with
  | none => return ()
  | some id => .forEach assignedInCrop fun otherId =>
      Session.onSpeakers (SessionSpeakerState.addCannotLink otherId id)

/-- What a crop has given so far. -/
structure CropResult (R : Type) where
  groups : List (WordGroup R) := []
  warnings : List String := []

/-- What the loop over the sources of a window is given besides the
sources. -/
structure WindowContext (R : Type) where
  region : OverlapRegion R
  owned : TimeInterval
  decision : RouteDecision R
  backend : String
  flags : List String

/-- The word group of a source. -/
def sourceGroup (window : WindowContext R) (words : List (Word R)) (asr : ASRResult R)
    (track : ℕ) (link : LinkingDecision R) (speakerId : Option String) : WordGroup R where
  words
  interval := window.owned
  isOverlap := true
  sourceTrack := some track
  separationBackend := some window.backend
  sessionSpeakerId := speakerId
  estimatedConcurrentSpeakers := window.decision.count.count
  countConfidence := window.decision.count.confidence
  rawScores :=
    let scores := link.score.elim asr.rawScores (asr.rawScores.set "speaker_cosine_similarity")
    window.region.osdActivation.elim scores
      (fun activation => scores.set "osd_activation" activation)
  qualityFlags := window.decision.warnings ++ window.flags
  degradedMode := window.decision.degraded

/-- **The loop over the linked sources of a window**: recognise each, find
out who it is, and emit its words. It returns whether all came out
plausible. -/
def emitSources (adapters : PipelineAdapters R V S) (ulids : ℕ → String)
    (window : WindowContext R) : List (SeparatedSource R V S × LinkingDecision R) →
      List String → CropResult R → Method PyError (Session R V) (Bool × CropResult R)
  | [], _, result => return (true, result)
  | (source, link) :: rest, assignedInCrop, result => do
    let asr ← .ofExcept (adapters.transcribe [source.track] source.asrBuffer p.sessionLanguage
      (some source.track))
    let words := wordsOwnedBy asr.words window.owned
    if words = [] then emitSources adapters ulids window rest assignedInCrop result
    else if !isPlausibleTranscript words source.speech then
      return (false, { result with
        warnings := result.warnings ++ [WARNING_UNRELIABLE_SEPARATED_TRANSCRIPT] })
    else
      let speakerId ← identifySource ulids source link
      constrainSource assignedInCrop speakerId
      emitSources adapters ulids window rest (assignedInCrop ++ speakerId.toList) {
        groups := result.groups ++ [sourceGroup window words asr source.track link speakerId]
        warnings := result.warnings
          ++ (if speakerId.isNone then ["unidentified_source"] else []) }

/-! ## A region, window by window -/

/-- What a region is handled with. -/
structure RegionContext (R S : Type) where
  mono : AudioBuffer S
  region : OverlapRegion R
  decision : RouteDecision R
  diarization : Option (DiarizationResult R)

/-- `decision.requested_source_count or 2`. -/
def RegionContext.requested (c : RegionContext R S) : ℕ :=
  match c.decision.requestedSourceCount with
  | none | some 0 => 2
  | some k => k

/-- The first half of the loop over the windows of a region: separate the
window, and listen to its sources. -/
def listenWindow (adapters : PipelineAdapters R V S) (c : RegionContext R S)
    (separator : SpeechSeparator R S) (n : ℕ) (window owned : TimeInterval) :
    Except PyError (List String × List (SeparatedSource R V S)) := do
  let crop ← c.mono.cropMs window
  let batch ← separator.separate [n] crop c.requested
  let sources ← p.separatedSources (adapters.at n) batch window owned
  return (detectSeparationSuspect batch, sources)

/-- The links of the sources of a window. -/
def linkWindow (c : RegionContext R S) (state : SessionSpeakerState R V) (window : TimeInterval)
    (sources : List (SeparatedSource R V S)) (previousMapping : PreviousMapping) :
    Except PyError (List (LinkingDecision R) × PreviousMapping) := do
  let embeddings := sources.map SeparatedSource.embedding
  let (activeKeys, activeClusters) := p.activeSpeakers c.diarization state window
  let embedded := embeddings.countP Option.isSome
  let result ← linkSources p.linearSumAssignment embeddings
    (if p.allowProvisionalContinuity then state.linkingPrototypes else state.prototypes)
    p.config.sourceLinking previousMapping activeKeys
    (p.config.sourceLinking.shortSourcePolicy = .diarizationConstrained
      && 1 < activeClusters && activeClusters = embedded)
  return (result.decisions, result.mapping)

/-- **The loop over the windows of a region.** It returns whether all sources
came out plausible. -/
def separateWindows (adapters : PipelineAdapters R V S) (ulids : ℕ → String)
    (c : RegionContext R S) (separator : SpeechSeparator R S) :
    ℕ → List (TimeInterval × TimeInterval) → PreviousMapping → CropResult R →
      Method PyError (Session R V) (Bool × CropResult R)
  | _, [], _, result => return (true, result)
  | n, (window, owned) :: rest, previousMapping, result => do
    let (flags, sources) ← .ofExcept (p.listenWindow adapters c separator n window owned)
    let s ← .read
    let (decisions, mapping) ← .ofExcept
      (p.linkWindow c s.speakers window sources previousMapping)
    let (credible, result) ← p.emitSources (adapters.at n) ulids
      { region := c.region, owned, decision := c.decision, backend := separator.backend, flags }
      (sources.zip decisions) [] { result with warnings := result.warnings ++ flags }
    if credible then separateWindows adapters ulids c separator (n + 1) rest mapping result
    else return (false, result)

/-- **`separate_and_link`**: the word groups of the sources of a region, its
warnings, and whether the region was given up and recognised as a
mixture. -/
def separateAndLink (adapters : PipelineAdapters R V S) (ulids : ℕ → String)
    (c : RegionContext R S) (padded : TimeInterval) (separator : SpeechSeparator R S) :
    Method PyError (Session R V) (List (WordGroup R) × List String × Bool) := do
  let windows ← .ofExcept (splitCrop padded c.region.interval
    (secondsToMs p.config.separation.maxCropSeconds)
    (secondsToMs p.config.separation.stitchOverlapSeconds))
  let (credible, result) ← p.separateWindows adapters ulids c separator 0 windows [] {}
  if credible then return (result.groups, result.warnings, false)
  else
    let (groups, warnings) ← .ofExcept
      (p.mixtureFallback adapters c.mono c.region c.decision result.warnings)
    return (groups, warnings, true)

/-- `_separator_for`. -/
def separatorFor (adapters : PipelineAdapters R V S) (decision : RouteDecision R) :
    Option (SpeechSeparator R S) :=
  if decision.route = .separateThreeSourceBeta then adapters.threeSourceSeparator
  else adapters.separator

/-- The crop of the first attempt at a region. -/
def paddedRegion (c : RegionContext R S) : TimeInterval :=
  c.region.interval.pad (secondsToMs p.config.audio.overlapContextSeconds) c.mono.startMs
    (some c.mono.endMs)

/-- One attempt at a region. -/
def attempt (adapters : PipelineAdapters R V S) (ulids : ℕ → String) (c : RegionContext R S)
    (separator : SpeechSeparator R S) (n : ℕ) (crop : TimeInterval) :
    Method PyError (Session R V) (Option (List (WordGroup R) × List String × Bool)) := do
  return some (← p.separateAndLink (adapters.at n) ulids c crop (separator.at n))

/-- The two attempts at a region, the second without context. None is
returned when the separator failed on both. -/
def attemptSeparation (adapters : PipelineAdapters R V S) (ulids : ℕ → String)
    (c : RegionContext R S) (separator : SpeechSeparator R S) :
    Method PyError (Session R V) (Option (List (WordGroup R) × List String × Bool)) :=
  (p.attempt adapters ulids c separator 0 (p.paddedRegion c)).catchIf
    (·.isClass .separationFailed) fun _ =>
      (p.attempt adapters ulids c separator 1 c.region.interval).catchIf
        (·.isClass .separationFailed) fun _ => return none

/-- **`handle_overlap_region`**: the word groups of a region, its warnings,
and whether it is degraded. -/
def handleOverlapRegion (adapters : PipelineAdapters R V S) (ulids : ℕ → String)
    (c : RegionContext R S) :
    Method PyError (Session R V) (List (WordGroup R) × List String × Bool) := do
  let mixture (warnings : List String) (degraded : Bool) :
      Method PyError (Session R V) (List (WordGroup R) × List String × Bool) := do
    let (groups, warnings) ← .ofExcept
      (p.mixtureFallback adapters c.mono c.region c.decision warnings)
    return (groups, warnings, degraded)
  if !c.decision.runsSeparation || adapters.separator.isNone then
    mixture c.decision.warnings (c.decision.degraded || adapters.separator.isNone)
  else
    match separatorFor adapters c.decision with
    | none => mixture (c.decision.warnings ++ ["separator_unavailable"]) true
    | some separator =>
      match ← p.attemptSeparation adapters ulids c separator with
      | some (groups, warnings, degraded) =>
        return (groups, c.decision.warnings ++ warnings, c.decision.degraded || degraded)
      | none => mixture (c.decision.warnings ++ ["separation_failed_degraded"]) true

end OfflinePipeline

end Sastt
