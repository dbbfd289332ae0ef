import Sastt.Application.PipelineStages
import Sastt.Application.StreamingFinal

/-!
# The rolling steps of a streaming session

Audio arrives frame by frame and is kept in a ring. Whenever a hop of it has
arrived, `process` looks at the last window: the speech that has come to an end
since the last step is transcribed and published provisionally, and the mark
`emittedUntilMs` moves to its end. Closing the session does the same once more,
for all speech there is, before the final pass.

Speech that was in progress at one step is looked at again in the next, and
the models may see it differently then. What keeps a step from publishing what
an earlier one has published is the mark, and nothing else: closed speech is
clipped to what lies after it.

A session remembers in `published` which slices of audio it has published the
words of. No method reads this; it is there to state what the mark is for.
-/

namespace Sastt

/-- `CANONICAL_SAMPLE_RATE`. -/
def CANONICAL_SAMPLE_RATE : ℕ := 16000

/-- Realtime session states. -/
inductive SessionState
  | created
  | streaming
  | finalizing
  | finalized
  | failed
deriving DecidableEq, Repr

def SessionState.value : SessionState → String
  | .created => "CREATED"
  | .streaming => "STREAMING"
  | .finalizing => "FINALIZING"
  | .finalized => "FINALIZED"
  | .failed => "FAILED"

section

variable (R V S : Type) [Field R] [LinearOrder R] [IsStrictOrderedRing R] [AddCommGroup V]
  [Module R V] [EmbeddingSpace R V]

/-- **How the models behave in one rolling step.** The step's own call of the
voice activity detector is the one at the empty place. -/
structure RollingModels where
  adapters : PipelineAdapters R V S
  diarizer : AudioBuffer S → Except PyError (DiarizationResult R)
  overlapDetector : AudioBuffer S → Except PyError (List (OverlapRegion R))
  detectLanguage : AudioBuffer S → Except PyError (String × R)

/-- What a session is created with. -/
structure StreamingContext where
  /-- The pipeline of the rolling steps, which links no source to a provisional
  speaker. -/
  pipeline : OfflinePipeline R
  sessionId : String
  calibrator : ConfidenceCalibrator R
  supply : Supply
  configVersion : String

/-- **A streaming session that listens.** -/
structure RollingSession extends StreamingSession R V where
  samples : List S := []
  totalSamples : ℕ := 0
  emittedUntilMs : ℕ := 0
  lastProcessMs : ℕ := 0
  pinnedLanguage : Option String := none
  stateMachine : SessionState := .created
  isFinalized : Bool := false
  /-- The slices of audio whose words have been published. -/
  published : List TimeInterval := []

end

variable {R V S : Type} [Field R] [LinearOrder R] [IsStrictOrderedRing R] [AddCommGroup V]
  [Module R V] [EmbeddingSpace R V]

/-- Models that hear nothing. -/
def RollingModels.deaf : RollingModels R V S where
  adapters := {
    vad := fun _ _ => .ok []
    transcribe := fun _ _ _ _ => .error (.other "not called")
    embed := fun _ _ _ _ _ _ => .error (.other "not called") }
  diarizer _ := .ok (.found [] [])
  overlapDetector _ := .ok []
  detectLanguage _ := .error (.other "not called")

/-- A session of this configuration. -/
def StreamingContext.ofConfig (config : SasttConfig R) : StreamingContext R where
  pipeline := {
    config
    linearSumAssignment := fun h _ => Fin.castLE h
    allowProvisionalContinuity := false }
  sessionId := "session"
  calibrator := NullConfidenceCalibrator R
  supply := { ulid := toString, nowMs := id }
  configVersion := "1"

/-- The slices of the word groups of one call. The sources of one crop are
heard in the same slice, which counts once. -/
def callSlices (groups : List (WordGroup R)) : List TimeInterval :=
  (groups.map WordGroup.interval).dedup

namespace RollingSession

variable (c : StreamingContext R)

/-- A method of what was a session before it listened. -/
def onStreaming {α : Type} (m : Method PyError (StreamingSession R V) α) :
    Method PyError (RollingSession R V S) α :=
  m.zoom toStreamingSession (fun s t => { s with toStreamingSession := t })

/-- A method of the speakers that draws ids. -/
def onSession {α : Type} (m : Method PyError (Session R V) α) :
    Method PyError (RollingSession R V S) α := onStreaming (StreamingSession.onSession m)

/-- `now_ms`. -/
def nowMs (s : RollingSession R V S) : ℕ := samplesToMs s.totalSamples CANONICAL_SAMPLE_RATE

/-- `_window_buffer`: the last window of the ring. -/
def windowBuffer (s : RollingSession R V S) : Option (AudioBuffer S) :=
  let windowSamples := msToSamples
    (secondsToMs c.pipeline.config.streaming.diarizationWindowSeconds) CANONICAL_SAMPLE_RATE
  let chunk := lastSlice windowSamples s.samples
  if h : chunk ≠ [] then
    some ⟨chunk, CANONICAL_SAMPLE_RATE, s.totalSamples - chunk.length, h, by decide⟩
  else none

/-- The regions of one step. -/
def overlaps (diarization : DiarizationResult R) (osd : List (OverlapRegion R)) :
    List (OverlapRegion R) :=
  mergeOverlapRegions diarization.overlapRegions osd
    (secondsToMs c.pipeline.config.overlapDetection.mergeGapSeconds)
    (secondsToMs c.pipeline.config.overlapDetection.minDurationSeconds)

/-- Whether speech that ends there has come to an end. -/
def isClosed (s : RollingSession R V S) (forceClose : Bool) (endMs : ℕ) : Bool :=
  forceClose
    || endMs + secondsToMs c.pipeline.config.streaming.finalizeAfterSilenceSeconds ≤ s.nowMs

/-- `closed`: the speech that ends after the mark and has come to an end. -/
def closedIntervals (s : RollingSession R V S) (forceClose : Bool) (speech : List TimeInterval) :
    List TimeInterval :=
  speech.filter (fun i => s.emittedUntilMs < i.endMs && s.isClosed c forceClose i.endMs)

/-- `pending`: the part of closed speech after the mark. -/
def pendingPart (emittedUntilMs : ℕ) (interval : TimeInterval) : Except PyError TimeInterval :=
  TimeInterval.new (max interval.startMs emittedUntilMs) interval.endMs

/-! ## One rolling step -/

/-- The turn of the inner loop for one region: a region that meets the pending
part is handed on whole. -/
def regionGroups (models : RollingModels R V S) (p : OfflinePipeline R)
    (closes : ℕ → Bool) (mono : AudioBuffer S) (diarization : DiarizationResult R)
    (pending : TimeInterval) (n : ℕ) (region : OverlapRegion R) :
    Method PyError (Session R V) (List (WordGroup R)) :=
  match region.interval.clamp pending with
  | none => return []
  | some clipped =>
    if !closes clipped.endMs then return []
    else do
      let evidence := OfflinePipeline.countingEvidence (some diarization) region.interval
      let decision := routeOverlap (estimateSourceCount evidence p.config) p.config evidence true
      let result ← p.handleOverlapRegion (models.adapters.at n) c.supply.ulid
        { mono, region, decision, diarization := some diarization }
      return result.1

/-- The turn of the outer loop for one closed interval: the groups of each
call, the first for the speech outside the regions and then one for each
region. -/
def closedGroups (models : RollingModels R V S) (p : OfflinePipeline R)
    (closes : ℕ → Bool) (mono : AudioBuffer S) (diarization : DiarizationResult R)
    (overlaps : List (OverlapRegion R)) (emittedUntilMs : ℕ) (interval : TimeInterval) :
    Method PyError (Session R V) (List (List (WordGroup R))) := do
  let pending ← .ofExcept (pendingPart emittedUntilMs interval)
  let (alone, _) ← .ofExcept
    (p.transcribeNonOverlap (models.adapters.at 0) mono [pending] overlaps)
  let together ← .mapEach overlaps.zipIdx fun (region, n) =>
    regionGroups c models p closes mono diarization pending (n + 1) region
  return alone :: together

/-- Decide on the language once there is enough speech. -/
def resolveLanguage (models : RollingModels R V S) (mono : AudioBuffer S)
    (speech : List TimeInterval) : Method PyError (RollingSession R V S) Unit := do
  let s ← .read
  let (pinned, _) ← .ofExcept
    (c.pipeline.resolveSessionLanguage models.detectLanguage s.pinnedLanguage mono speech)
  .modify fun s => { s with pinnedLanguage := pinned }

/-- The fusion engine of the session. -/
def engine (s : RollingSession R V S) : FusionEngine R :=
  .new c.sessionId c.pipeline.config s.modelVersions (some c.calibrator) none

/-- Publish the groups of closed speech, and move the mark to its end. -/
def publish (closed : List TimeInterval) (turns : List (SpeakerTurn R))
    (calls : List (List (WordGroup R))) :
    Method PyError (RollingSession R V S) (List (ServerEvent (EventPayload R))) := do
  let s ← .read
  let events ← onStreaming
    (StreamingSession.emitProvisional c.supply (s.engine c) calls.flatten turns)
  .modify fun s => { s with
    emittedUntilMs := (closed.map TimeInterval.endMs).foldl max s.emittedUntilMs
    published := s.published ++ calls.flatMap callSlices }
  return events

/-- **`_process`**: one rolling step. -/
def process (models : RollingModels R V S) (forceClose : Bool) :
    Method PyError (RollingSession R V S) (List (ServerEvent (EventPayload R))) := do
  .modify fun s => { s with lastProcessMs := s.nowMs }
  let s ← .read
  match s.windowBuffer c with
  | none => return []
  | some mono =>
    let diarization ← .ofExcept (models.diarizer mono)
    let osd ← .ofExcept (models.overlapDetector mono)
    let regions := overlaps c diarization osd
    onSession (buildGlobalSpeakers (models.adapters.at 0) c.supply.ulid diarization regions mono)
    let speech ← .ofExcept (models.adapters.vad [] mono)
    resolveLanguage c models mono speech
    let s ← .read
    let closed := s.closedIntervals c forceClose speech
    if closed = [] then onStreaming (StreamingSession.drainLabelRevisions c.supply)
    else
      let calls ← onSession (.mapEach closed.zipIdx fun (interval, n) =>
        closedGroups c { models with adapters := models.adapters.at (n + 1) }
          (c.pipeline.speaking s.pinnedLanguage) (s.isClosed c forceClose) mono diarization regions
          s.emittedUntilMs interval)
      let events ← publish c closed diarization.regularTracks calls.flatten
      let changes ← onStreaming (StreamingSession.drainLabelRevisions c.supply)
      return events ++ changes

/-! ## The life of a session -/

/-- A session nobody has spoken in. -/
def new (modelVersions : ModelVersions) (embeddingModelVersion : String) :
    RollingSession R V S where
  speakers := .new c.sessionId c.pipeline.config embeddingModelVersion
  log := { sessionId := c.sessionId }
  modelVersions := modelVersions
  configVersion := c.configVersion

/-- The event that opens a session. -/
def startedFields (s : RollingSession R V S) : EventFields (EventPayload R) where
  eventType := .sessionStarted
  modelVersions := some s.modelVersions
  configVersion := some c.configVersion

/-- `start`. -/
def start : Method PyError (RollingSession R V S) (ServerEvent (EventPayload R)) := do
  let s ← .read
  if s.stateMachine ≠ .created then .throw (.sastt .sasttError "session already started" [])
  else
    .modify fun s => { s with stateMachine := .streaming }
    onStreaming (StreamingSession.onLog (EventWriter.write c.supply (s.startedFields c)))

/-- A frame of samples goes into the ring. -/
def receive (frame : List S) (s : RollingSession R V S) : RollingSession R V S :=
  let ringSamples := msToSamples
    (secondsToMs c.pipeline.config.streaming.ringBufferSeconds) CANONICAL_SAMPLE_RATE
  let samples := s.samples ++ frame
  let kept := if ringSamples < samples.length then lastSlice ringSamples samples else samples
  { s with
    samples := kept
    bufferedSamples := kept.length
    totalSamples := s.totalSamples + frame.length }

/-- Whether a hop of audio has arrived since the last step. -/
def isDue (s : RollingSession R V S) : Bool :=
  s.lastProcessMs + secondsToMs c.pipeline.config.streaming.diarizationHopSeconds ≤ s.nowMs

/-- `push_pcm`, of the samples of a payload. -/
def push (models : RollingModels R V S) (frame : List S) :
    Method PyError (RollingSession R V S) (List (ServerEvent (EventPayload R))) := do
  let s ← .read
  if s.stateMachine ≠ .streaming then
    .throw (.sastt .sessionClockDiscontinuity "audio pushed outside the streaming state"
      [("state", .str s.stateMachine.value)])
  else
    .modify (receive c frame)
    let s ← .read
    if s.isDue c then process c models false else return []

/-- The event that ends a session. -/
def finalizedFields (s : RollingSession R V S) : EventFields (EventPayload R) where
  eventType := .sessionFinalized
  modelVersions := some s.modelVersions
  configVersion := some c.configVersion

/-- **`finalize`**: the last step, with all speech closed, and the final
pass. -/
def finalize (models : RollingModels R V S) (secondPass : Except PyError (OfflineResult R)) :
    Method PyError (RollingSession R V S) (List (ServerEvent (EventPayload R))) := do
  let s ← .read
  if s.isFinalized then return []
  else
    .modify fun s => { s with stateMachine := .finalizing }
    let events ← process c models true
    let finals ← onStreaming (StreamingSession.finalPass c.supply secondPass)
    .modify fun s => { s with stateMachine := .finalized, isFinalized := true }
    let s ← .read
    let last ← onStreaming
      (StreamingSession.onLog (EventWriter.write c.supply (s.finalizedFields c)))
    return events ++ finals ++ [last]

/-- The event that reports a failure. -/
def failedFields (errorCode message : String) : EventFields (EventPayload R) where
  eventType := .sessionFailed
  payload := some (.failure errorCode message)
  configVersion := some c.configVersion

/-- `fail`. -/
def fail (errorCode message : String) :
    Method PyError (RollingSession R V S) (ServerEvent (EventPayload R)) := do
  .modify fun s => { s with stateMachine := .failed }
  onStreaming (StreamingSession.onLog (EventWriter.write c.supply
    (failedFields c errorCode message)))

/-- `replay`: what a client has missed that reconnects. -/
def replay (lastSequenceNumber : ℤ) :
    Method PyError (RollingSession R V S) (List (ServerEvent (EventPayload R))) := do
  let s ← .read
  .ofExcept (s.log.replayFrom lastSequenceNumber)

/-- What happens to a session. -/
inductive SessionCommand (R V S : Type) [Field R] [LinearOrder R] [IsStrictOrderedRing R]
    [AddCommGroup V] [Module R V] [EmbeddingSpace R V] where
  | start
  | push (models : RollingModels R V S) (frame : List S)
  | finalize (models : RollingModels R V S) (secondPass : Except PyError (OfflineResult R))
  | fail (errorCode message : String)
  | replay (lastSequenceNumber : ℤ)

/-- **One command**, whether it returns or raises: an exception leaves the
session as it is at that moment, and a client may go on. -/
def step (s : RollingSession R V S) : SessionCommand R V S → RollingSession R V S
  | .start => (start c s).2
  | .push models frame => (push c models frame s).2
  | .finalize models secondPass => (finalize c models secondPass s).2
  | .fail errorCode message => (fail c errorCode message s).2
  | .replay lastSequenceNumber => (replay lastSequenceNumber s).2

end RollingSession

end Sastt
