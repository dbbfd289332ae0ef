import Sastt.Application.OfflineRun
import Sastt.Application.RollingSession
import Sastt.Lib.Refinement

/-!
# The languages a recognizer is called with

A recognizer is asked two things: what is said in a crop, in a language or in
whatever language it takes it to be, and which language a stretch of speech is
in. A pipeline asks the second at most once; what it is told, if that is
confident, is the language of all crops from then on. The crops of a session are
recognised at several places – outside the overlap regions, as separated
sources, as mixtures – and in two pipelines, since the final pass of a streaming
session has one of its own, which takes over the language the session has.

A state `Traced σ` is a `σ` with the calls of the recognizer that were made so
far. The methods here are those of the pipelines over such states; nothing reads
the calls. What is done to the session is the same
(`TracedSession.refines_process`, `TracedSession.state_step`).
-/

namespace Sastt

open Method

/-- **A call of a recognizer.** -/
inductive SpeechCall
  | transcribe (language : Option String)
  | detectLanguage
deriving DecidableEq, Repr

/-- The language a call is made in, if it is made in one. -/
def SpeechCall.language : SpeechCall → Option String
  | .transcribe language => language
  | .detectLanguage => none

/-- A state with the calls that were made. -/
structure Traced (σ : Type) where
  state : σ
  calls : List SpeechCall := []

namespace Traced

variable {σ τ ε α : Type}

/-- A method that makes no calls. -/
def on (m : Method ε σ α) : Method ε (Traced σ) α :=
  m.zoom state (fun u s => { u with state := s })

/-- A method of a part of the state, with the calls it makes. -/
def part (get : τ → σ) (set : τ → σ → τ) (m : Method ε (Traced σ) α) : Method ε (Traced τ) α :=
  m.zoom (fun u => ⟨get u.state, u.calls⟩) (fun u t => ⟨set u.state t.state, t.calls⟩)

/-- A call of the recognizer, and its answer. -/
def ask (call : SpeechCall) (answer : Except ε α) : Method ε (Traced σ) α := do
  .modify fun u => { u with calls := u.calls ++ [call] }
  .ofExcept answer

end Traced

open Traced

variable {R V S : Type} [Field R] [LinearOrder R] [IsStrictOrderedRing R] [AddCommGroup V]
  [Module R V] [EmbeddingSpace R V]

/-! ## The pipeline -/

namespace TracedPipeline

variable (p : OfflinePipeline R)

/-- `resolve_session_language`. -/
def resolveSessionLanguage (detectLanguage : AudioBuffer S → Except PyError (String × R))
    (pinned : Option String) (mono : AudioBuffer S) (speech : List TimeInterval) :
    Method PyError (Traced (Session R V)) (Option String × List String) := do
  let settings := p.config.asr.languageDetection
  if truthy p.config.asr.language ∨ settings.mode ≠ .autoOnce ∨ pinned.isSome then
    return (pinned, [])
  else
    match ← .ofExcept (poolSpeech mono speech (secondsToMs settings.sampleSeconds)) with
    | none => return (none, [])
    | some pooled =>
      let (language, probability) ← ask .detectLanguage (detectLanguage pooled)
      if probability < settings.minProbability then return (none, [WARNING_LANGUAGE_UNCERTAIN])
      else return (some language, [])

/-- `transcribe_non_overlap`: the loop over the slices. -/
def transcribeSlices (adapters : PipelineAdapters R V S) (mono : AudioBuffer S) :
    ℕ → List TimeInterval →
      Method PyError (Traced (Session R V)) (List (WordGroup R) × List String)
  | _, [] => return ([], [])
  | n, interval :: rest =>
    if interval.durationMs < 50 then transcribeSlices adapters mono (n + 1) rest
    else do
      let crop ← .ofExcept (mono.cropMs interval)
      let result ← ask (.transcribe p.sessionLanguage)
        (adapters.transcribe [n] crop p.sessionLanguage none)
      let words := wordsOwnedBy result.words interval
      let (groups, warnings) ← transcribeSlices adapters mono (n + 1) rest
      if words = [] then return (groups, warnings)
      else if !isPlausibleTranscript words [interval] then
        return (groups, WARNING_UNRELIABLE_NON_OVERLAP_TRANSCRIPT :: warnings)
      else return ({ words, interval, rawScores := result.rawScores } :: groups, warnings)

/-- `transcribe_non_overlap`. -/
def transcribeNonOverlap (adapters : PipelineAdapters R V S) (mono : AudioBuffer S)
    (speech : List TimeInterval) (overlapRegions : List (OverlapRegion R)) :
    Method PyError (Traced (Session R V)) (List (WordGroup R) × List String) :=
  transcribeSlices p adapters mono 0
    (subtractIntervals speech (overlapRegions.map OverlapRegion.interval))

/-- `mixture_fallback`. -/
def mixtureFallback (adapters : PipelineAdapters R V S) (mono : AudioBuffer S)
    (region : OverlapRegion R) (decision : RouteDecision R) (warnings : List String) :
    Method PyError (Traced (Session R V)) (List (WordGroup R) × List String) := do
  let crop ← .ofExcept (mono.cropMs region.interval)
  let result ← ask (.transcribe p.sessionLanguage)
    (adapters.transcribe [] crop p.sessionLanguage none)
  let words := wordsOwnedBy result.words region.interval
  if words = [] then return ([], warnings)
  else
    let speech ← .ofExcept (adapters.vad [] crop)
    if !isPlausibleTranscript words speech then
      return ([], warnings ++ [WARNING_UNRELIABLE_MIXTURE_TRANSCRIPT])
    else
      return ([{
        words
        interval := region.interval
        isOverlap := true
        estimatedConcurrentSpeakers := decision.count.count
        countConfidence := decision.count.confidence
        rawScores := region.osdActivation.elim result.rawScores
          (fun activation => result.rawScores.set "osd_activation" activation)
        qualityFlags := warnings.dedup.insertionSort (· ≤ ·)
        degradedMode := true }], warnings)

/-- The loop over the linked sources of a window. -/
def emitSources (adapters : PipelineAdapters R V S) (ulids : ℕ → String)
    (window : OfflinePipeline.WindowContext R) :
    List (OfflinePipeline.SeparatedSource R V S × LinkingDecision R) → List String →
      OfflinePipeline.CropResult R →
        Method PyError (Traced (Session R V)) (Bool × OfflinePipeline.CropResult R)
  | [], _, result => return (true, result)
  | (source, link) :: rest, assignedInCrop, result => do
    let asr ← ask (.transcribe p.sessionLanguage) (adapters.transcribe [source.track]
      source.asrBuffer p.sessionLanguage (some source.track))
    let words := wordsOwnedBy asr.words window.owned
    if words = [] then emitSources adapters ulids window rest assignedInCrop result
    else if !isPlausibleTranscript words source.speech then
      return (false, { result with
        warnings := result.warnings ++ [WARNING_UNRELIABLE_SEPARATED_TRANSCRIPT] })
    else
      let speakerId ← on (OfflinePipeline.identifySource ulids source link)
      on (OfflinePipeline.constrainSource assignedInCrop speakerId)
      emitSources adapters ulids window rest (assignedInCrop ++ speakerId.toList) {
        groups := result.groups
          ++ [OfflinePipeline.sourceGroup window words asr source.track link speakerId]
        warnings := result.warnings
          ++ (if speakerId.isNone then ["unidentified_source"] else []) }

/-- The loop over the windows of a region. -/
def separateWindows (adapters : PipelineAdapters R V S) (ulids : ℕ → String)
    (c : OfflinePipeline.RegionContext R S) (separator : SpeechSeparator R S) :
    ℕ → List (TimeInterval × TimeInterval) → PreviousMapping → OfflinePipeline.CropResult R →
      Method PyError (Traced (Session R V)) (Bool × OfflinePipeline.CropResult R)
  | _, [], _, result => return (true, result)
  | n, (window, owned) :: rest, previousMapping, result => do
    let (flags, sources) ← .ofExcept (p.listenWindow adapters c separator n window owned)
    let u ← .read
    let (decisions, mapping) ← .ofExcept
      (p.linkWindow c u.state.speakers window sources previousMapping)
    let (credible, result) ← emitSources p (adapters.at n) ulids
      { region := c.region, owned, decision := c.decision, backend := separator.backend, flags }
      (sources.zip decisions) [] { result with warnings := result.warnings ++ flags }
    if credible then separateWindows adapters ulids c separator (n + 1) rest mapping result
    else return (false, result)

/-- `separate_and_link`. -/
def separateAndLink (adapters : PipelineAdapters R V S) (ulids : ℕ → String)
    (c : OfflinePipeline.RegionContext R S) (padded : TimeInterval)
    (separator : SpeechSeparator R S) :
    Method PyError (Traced (Session R V)) (List (WordGroup R) × List String × Bool) := do
  let windows ← .ofExcept (splitCrop padded c.region.interval
    (secondsToMs p.config.separation.maxCropSeconds)
    (secondsToMs p.config.separation.stitchOverlapSeconds))
  let (credible, result) ← separateWindows p adapters ulids c separator 0 windows [] {}
  if credible then return (result.groups, result.warnings, false)
  else
    let (groups, warnings) ← mixtureFallback p adapters c.mono c.region c.decision result.warnings
    return (groups, warnings, true)

/-- One attempt at a region. -/
def attempt (adapters : PipelineAdapters R V S) (ulids : ℕ → String)
    (c : OfflinePipeline.RegionContext R S) (separator : SpeechSeparator R S) (n : ℕ)
    (crop : TimeInterval) : Method PyError (Traced (Session R V))
      (Option (List (WordGroup R) × List String × Bool)) := do
  return some (← separateAndLink p (adapters.at n) ulids c crop (separator.at n))

/-- The two attempts at a region. -/
def attemptSeparation (adapters : PipelineAdapters R V S) (ulids : ℕ → String)
    (c : OfflinePipeline.RegionContext R S) (separator : SpeechSeparator R S) :
    Method PyError (Traced (Session R V)) (Option (List (WordGroup R) × List String × Bool)) :=
  (attempt p adapters ulids c separator 0 (p.paddedRegion c)).catchIf
    (·.isClass .separationFailed) fun _ =>
      (attempt p adapters ulids c separator 1 c.region.interval).catchIf
        (·.isClass .separationFailed) fun _ => return none

/-- A region that is recognised as a mixture. -/
def mixture (adapters : PipelineAdapters R V S) (c : OfflinePipeline.RegionContext R S)
    (warnings : List String) (degraded : Bool) :
    Method PyError (Traced (Session R V)) (List (WordGroup R) × List String × Bool) := do
  let (groups, warnings) ← mixtureFallback p adapters c.mono c.region c.decision warnings
  return (groups, warnings, degraded)

/-- **`handle_overlap_region`.** -/
def handleOverlapRegion (adapters : PipelineAdapters R V S) (ulids : ℕ → String)
    (c : OfflinePipeline.RegionContext R S) :
    Method PyError (Traced (Session R V)) (List (WordGroup R) × List String × Bool) :=
  if !c.decision.runsSeparation || adapters.separator.isNone then
    mixture p adapters c c.decision.warnings (c.decision.degraded || adapters.separator.isNone)
  else
    match OfflinePipeline.separatorFor adapters c.decision with
    | none => mixture p adapters c (c.decision.warnings ++ ["separator_unavailable"]) true
    | some separator => do
      match ← attemptSeparation p adapters ulids c separator with
      | some (groups, warnings, degraded) =>
        return (groups, c.decision.warnings ++ warnings, c.decision.degraded || degraded)
      | none => mixture p adapters c (c.decision.warnings ++ ["separation_failed_degraded"]) true

/-- The turn of the loop over the overlap regions for one region. -/
def offlineRegion (adapters : PipelineAdapters R V S) (ulids : ℕ → String) (mono : AudioBuffer S)
    (diarization : DiarizationResult R) (region : OverlapRegion R) :
    Method PyError (Traced (Session R V)) (List (WordGroup R) × List String × Bool) :=
  let evidence := OfflinePipeline.countingEvidence (some diarization) region.interval
  let decision := routeOverlap (estimateSourceCount evidence p.config) p.config evidence true
  handleOverlapRegion p adapters ulids
    { mono, region, decision, diarization := some diarization }

/-- The word groups of a recording. -/
def wordGroups (models : OfflineModels R V S) (ulids : ℕ → String) (pinned : Option String)
    (mono : AudioBuffer S) (diarization : DiarizationResult R) (regions : List (OverlapRegion R)) :
    Method PyError (Traced (Session R V)) (List (WordGroup R) × List String × Bool) := do
  let speech ← .ofExcept (models.adapters.vad [] mono)
  let (pinned, uncertain) ← resolveSessionLanguage p models.detectLanguage pinned mono speech
  let spoken := p.speaking pinned
  let (alone, unreliable) ←
    transcribeNonOverlap spoken (models.adapters.at 1) mono speech regions
  let warnings := uncertain ++ unreliable
  let together ← .mapEach regions.zipIdx fun (region, n) =>
    offlineRegion spoken (models.adapters.at (n + 2)) ulids mono diarization region
  return (alone ++ together.flatMap (fun r => r.1), warnings ++ together.flatMap (fun r => r.2.1),
    !warnings.isEmpty || together.any (fun r => r.2.2))

/-- **`run`** on a session, with the language that is pinned. -/
def runOn (c : RunContext R) (models : OfflineModels R V S) (ulids : ℕ → String)
    (pinned : Option String) : Method PyError (Traced (Session R V)) (OfflineResult R) := do
  let mono ← .ofExcept (p.decodedMono models.decoded)
  let diarization ← .ofExcept (models.diarizer mono)
  let osd ← .ofExcept (models.overlapDetector mono)
  let regions := mergeOverlapRegions diarization.overlapRegions osd
    (secondsToMs p.config.overlapDetection.mergeGapSeconds)
    (secondsToMs p.config.overlapDetection.minDurationSeconds)
  on (buildGlobalSpeakers (models.adapters.at 0) ulids diarization regions mono)
  let (groups, warnings, degraded) ← wordGroups p models ulids pinned mono diarization regions
  on (Session.onSpeakers (p.resolveSpeakers models.registry))
  let engine := FusionEngine.new c.sessionId p.config c.modelVersions (some c.calibrator) none
  let segments ← on (engine.fuse ulids groups diarization.regularTracks true 1 none)
  return {
    jobId := c.jobId
    state := if degraded then .degradedSucceeded else .succeeded
    segments := sortSegments segments
    configVersion := c.configVersion
    modelVersions := c.modelVersions
    warnings := warnings.dedup.insertionSort (· ≤ ·)
    degraded
    estimatedSessionSpeakers := diarization.estimatedSessionSpeakers }

/-- **`run`**, of a session nobody has spoken in: what it returns or raises, and
the calls it adds to those before. -/
def run (c : RunContext R) (models : OfflineModels R V S) (ulids : ℕ → String)
    (pinned : Option String) (calls : List SpeechCall) :
    Except PyError (OfflineResult R) × Traced (Session R V) :=
  runOn p c models ulids pinned
    ⟨⟨.new c.sessionId p.config c.embeddingModelVersion, 0⟩, calls⟩

end TracedPipeline

/-! ## The session -/

section

variable (R V S : Type) [Field R] [LinearOrder R] [AddCommGroup V] [Module R V]
  [EmbeddingSpace R V]

/-- **What the final pass of a session is given**: how the models behave in it,
and what its run is told. -/
structure FinalPass where
  context : RunContext R
  models : OfflineModels R V S
  ulids : ℕ → String

end

/-- What happens to a session whose calls are written down. -/
inductive TracedCommand (R V S : Type) [Field R] [LinearOrder R] [IsStrictOrderedRing R]
    [AddCommGroup V] [Module R V] [EmbeddingSpace R V] where
  | start
  | push (models : RollingModels R V S) (frame : List S)
  | finalize (models : RollingModels R V S) (pass : FinalPass R V S)
  | fail (errorCode message : String)
  | replay (lastSequenceNumber : ℤ)

namespace TracedSession

variable (c : StreamingContext R)

/-- A method of the speakers that draws ids. -/
def onSession {α : Type} (m : Method PyError (Traced (Session R V)) α) :
    Method PyError (Traced (RollingSession R V S)) α :=
  part (fun s => ⟨s.speakers, s.drawn⟩)
    (fun s t => { s with speakers := t.speakers, drawn := t.drawn }) m

/-- The turn of the inner loop for one region. -/
def regionGroups (models : RollingModels R V S) (p : OfflinePipeline R)
    (closes : ℕ → Bool) (mono : AudioBuffer S) (diarization : DiarizationResult R)
    (pending : TimeInterval) (n : ℕ) (region : OverlapRegion R) :
    Method PyError (Traced (Session R V)) (List (WordGroup R)) :=
  match region.interval.clamp pending with
  | none => return []
  | some clipped =>
    if !closes clipped.endMs then return []
    else do
      let evidence := OfflinePipeline.countingEvidence (some diarization) region.interval
      let decision := routeOverlap (estimateSourceCount evidence p.config) p.config evidence true
      let result ← TracedPipeline.handleOverlapRegion p (models.adapters.at n) c.supply.ulid
        { mono, region, decision, diarization := some diarization }
      return result.1

/-- The turn of the outer loop for one closed interval. -/
def closedGroups (models : RollingModels R V S) (p : OfflinePipeline R)
    (closes : ℕ → Bool) (mono : AudioBuffer S) (diarization : DiarizationResult R)
    (overlaps : List (OverlapRegion R)) (emittedUntilMs : ℕ) (interval : TimeInterval) :
    Method PyError (Traced (Session R V)) (List (List (WordGroup R))) := do
  let pending ← .ofExcept (RollingSession.pendingPart emittedUntilMs interval)
  let (alone, _) ← TracedPipeline.transcribeNonOverlap p (models.adapters.at 0) mono [pending]
    overlaps
  let together ← .mapEach overlaps.zipIdx fun (region, n) =>
    regionGroups c models p closes mono diarization pending (n + 1) region
  return alone :: together

/-- Decide on the language once there is enough speech. -/
def resolveLanguage (models : RollingModels R V S) (mono : AudioBuffer S)
    (speech : List TimeInterval) : Method PyError (Traced (RollingSession R V S)) Unit := do
  let u ← .read
  let (pinned, _) ← onSession (TracedPipeline.resolveSessionLanguage c.pipeline
    models.detectLanguage u.state.pinnedLanguage mono speech)
  on (.modify fun s => { s with pinnedLanguage := pinned })

/-- **`_process`**: one rolling step. -/
def process (models : RollingModels R V S) (forceClose : Bool) :
    Method PyError (Traced (RollingSession R V S)) (List (ServerEvent (EventPayload R))) := do
  on (.modify fun s => { s with lastProcessMs := s.nowMs })
  let u ← .read
  match u.state.windowBuffer c with
  | none => return []
  | some mono =>
    let diarization ← .ofExcept (models.diarizer mono)
    let osd ← .ofExcept (models.overlapDetector mono)
    let regions := RollingSession.overlaps c diarization osd
    on (RollingSession.onSession
      (buildGlobalSpeakers (models.adapters.at 0) c.supply.ulid diarization regions mono))
    let speech ← .ofExcept (models.adapters.vad [] mono)
    resolveLanguage c models mono speech
    let u ← .read
    let s := u.state
    let closed := s.closedIntervals c forceClose speech
    if closed = [] then
      on (RollingSession.onStreaming (StreamingSession.drainLabelRevisions c.supply))
    else
      let calls ← onSession (.mapEach closed.zipIdx fun (interval, n) =>
        closedGroups c { models with adapters := models.adapters.at (n + 1) }
          (c.pipeline.speaking s.pinnedLanguage) (s.isClosed c forceClose) mono diarization regions
          s.emittedUntilMs interval)
      let events ← on (RollingSession.publish c closed diarization.regularTracks calls.flatten)
      let changes ← on
        (RollingSession.onStreaming (StreamingSession.drainLabelRevisions c.supply))
      return events ++ changes

/-- `push_pcm`. -/
def push (models : RollingModels R V S) (frame : List S) :
    Method PyError (Traced (RollingSession R V S)) (List (ServerEvent (EventPayload R))) := do
  let u ← .read
  if u.state.stateMachine ≠ .streaming then
    .throw (.sastt .sessionClockDiscontinuity "audio pushed outside the streaming state"
      [("state", .str u.state.stateMachine.value)])
  else
    on (.modify (RollingSession.receive c frame))
    let u ← .read
    if u.state.isDue c then process c models false else return []

/-- `session_language`, of the pipeline of the rolling steps. -/
def sessionLanguage (s : RollingSession R V S) : Option String :=
  (c.pipeline.speaking s.pinnedLanguage).sessionLanguage

/-- `pin_language`, of a pipeline with no language. -/
def pinLanguage (language : Option String) : Option String :=
  if truthy language then language else none

/-- The pipeline of the final pass. -/
def finalPipeline : OfflinePipeline R :=
  { c.pipeline with allowProvisionalContinuity := true }

/-- The run of the final pass, which starts with the language of the session. -/
def finalRun (pass : FinalPass R V S) (language : Option String) :
    Method PyError (Traced (RollingSession R V S)) (OfflineResult R) := fun u =>
  let run := TracedPipeline.run (finalPipeline c) pass.context pass.models pass.ulids
    (pinLanguage language) u.calls
  (run.1, { u with calls := run.2.calls })

/-- **`_final_pass`.** -/
def finalPass (pass : FinalPass R V S) :
    Method PyError (Traced (RollingSession R V S)) (List (ServerEvent (EventPayload R))) := do
  let u ← .read
  if u.state.bufferedSamples = 0 then return []
  else
    let result ← finalRun c pass (sessionLanguage c u.state)
    on (RollingSession.onStreaming (StreamingSession.finalPass c.supply (.ok result)))

/-- **`finalize`.** -/
def finalize (models : RollingModels R V S) (pass : FinalPass R V S) :
    Method PyError (Traced (RollingSession R V S)) (List (ServerEvent (EventPayload R))) := do
  let u ← .read
  if u.state.isFinalized then return []
  else
    on (.modify fun s => { s with stateMachine := .finalizing })
    let events ← process c models true
    let finals ← finalPass c pass
    on (.modify fun s => { s with stateMachine := .finalized, isFinalized := true })
    let u ← .read
    let last ← on (RollingSession.onStreaming
      (StreamingSession.onLog (EventWriter.write c.supply (u.state.finalizedFields c))))
    return events ++ finals ++ [last]

/-- **One command**, whether it returns or raises. -/
def step (u : Traced (RollingSession R V S)) :
    TracedCommand R V S → Traced (RollingSession R V S)
  | .start => (on (RollingSession.start c) u).2
  | .push models frame => (push c models frame u).2
  | .finalize models pass => (finalize c models pass u).2
  | .fail errorCode message => (on (RollingSession.fail c errorCode message) u).2
  | .replay lastSequenceNumber => (on (RollingSession.replay lastSequenceNumber) u).2

/-- A session nobody has spoken in. -/
def new (modelVersions : ModelVersions) (embeddingModelVersion : String) :
    Traced (RollingSession R V S) :=
  ⟨.new c modelVersions embeddingModelVersion, []⟩

/-! ## The same session -/

end TracedSession

namespace Traced

variable {σ τ ε α : Type}

theorem refines_on (m : Method ε σ α) : Refines state (on m) m := refines_zoom m (fun _ _ => rfl)

theorem refines_ask (call : SpeechCall) (answer : Except ε α) :
    Refines (state (σ := σ)) (ask call answer) (.ofExcept answer) := fun _ => ⟨rfl, rfl⟩

theorem refines_part {get : τ → σ} {set : τ → σ → τ} {m' : Method ε (Traced σ) α}
    {m : Method ε σ α} (hm : Refines state m' m) :
    Refines state (part get set m') (m.zoom get set) := fun u =>
  ⟨(hm ⟨get u.state, u.calls⟩).1, congrArg (set u.state) (hm ⟨get u.state, u.calls⟩).2⟩

end Traced

namespace TracedPipeline

variable {p : OfflinePipeline R}

omit [AddCommGroup V] [Module R V] [EmbeddingSpace R V] in
theorem refines_resolveSessionLanguage
    (detectLanguage : AudioBuffer S → Except PyError (String × R)) (pinned : Option String)
    (mono : AudioBuffer S) (speech : List TimeInterval) :
    Refines (state (σ := Session R V))
      (resolveSessionLanguage p detectLanguage pinned mono speech)
      (.ofExcept (p.resolveSessionLanguage detectLanguage pinned mono speech)) := by
  unfold resolveSessionLanguage OfflinePipeline.resolveSessionLanguage
  dsimp only
  split
  · exact refines_pure _
  · rw [ofExcept_bind]
    refine refines_bind (refines_ofExcept _) (fun pooled => ?_)
    cases pooled with
    | none => exact refines_pure _
    | some pooled =>
      dsimp only
      rw [ofExcept_bind]
      refine refines_bind (refines_ask _ _) (fun detected => ?_)
      split
      · exact refines_pure _
      · exact refines_pure _

theorem refines_transcribeSlices (adapters : PipelineAdapters R V S) (mono : AudioBuffer S) (n : ℕ)
    (slices : List TimeInterval) :
    Refines state (transcribeSlices p adapters mono n slices)
      (.ofExcept (p.transcribeSlices adapters mono n slices)) := by
  induction slices generalizing n with
  | nil => exact refines_pure _
  | cons interval rest ih =>
    unfold transcribeSlices OfflinePipeline.transcribeSlices
    split
    · exact ih (n + 1)
    · simp only [ofExcept_bind]
      refine refines_bind (refines_ofExcept _) (fun crop => ?_)
      refine refines_bind (refines_ask _ _) (fun result => ?_)
      refine refines_bind (ih (n + 1)) (fun found => ?_)
      split
      · exact refines_pure _
      · split
        · exact refines_pure _
        · exact refines_pure _

theorem refines_mixtureFallback (adapters : PipelineAdapters R V S) (mono : AudioBuffer S)
    (region : OverlapRegion R) (decision : RouteDecision R) (warnings : List String) :
    Refines state (mixtureFallback p adapters mono region decision warnings)
      (.ofExcept (p.mixtureFallback adapters mono region decision warnings)) := by
  unfold mixtureFallback OfflinePipeline.mixtureFallback
  simp only [ofExcept_bind]
  refine refines_bind (refines_ofExcept _) (fun crop => ?_)
  refine refines_bind (refines_ask _ _) (fun result => ?_)
  split
  · exact refines_pure _
  · rw [ofExcept_bind]
    refine refines_bind (refines_ofExcept _) (fun speech => ?_)
    split
    · exact refines_pure _
    · exact refines_pure _

theorem refines_emitSources (adapters : PipelineAdapters R V S) (ulids : ℕ → String)
    (window : OfflinePipeline.WindowContext R)
    (sources : List (OfflinePipeline.SeparatedSource R V S × LinkingDecision R))
    (assignedInCrop : List String) (result : OfflinePipeline.CropResult R) :
    Refines state (emitSources p adapters ulids window sources assignedInCrop result)
      (p.emitSources adapters ulids window sources assignedInCrop result) := by
  induction sources generalizing assignedInCrop result with
  | nil => exact refines_pure _
  | cons source rest ih =>
    unfold emitSources OfflinePipeline.emitSources
    refine refines_bind (refines_ask _ _) (fun asr => ?_)
    dsimp only
    split
    · exact ih assignedInCrop result
    · split
      · exact refines_pure _
      · exact refines_bind (refines_on _) (fun speakerId =>
          refines_bind (refines_on _) (fun _ => ih _ _))

theorem refines_separateWindows (adapters : PipelineAdapters R V S) (ulids : ℕ → String)
    (c : OfflinePipeline.RegionContext R S) (separator : SpeechSeparator R S) (n : ℕ)
    (windows : List (TimeInterval × TimeInterval)) (previousMapping : PreviousMapping)
    (result : OfflinePipeline.CropResult R) :
    Refines state (separateWindows p adapters ulids c separator n windows previousMapping result)
      (p.separateWindows adapters ulids c separator n windows previousMapping result) := by
  induction windows generalizing n previousMapping result with
  | nil => exact refines_pure _
  | cons window rest ih =>
    unfold separateWindows OfflinePipeline.separateWindows
    refine refines_bind (refines_ofExcept _) (fun heard => ?_)
    refine refines_read_bind (fun u => refines_bind (refines_ofExcept _) (fun linked => ?_))
    refine refines_bind (refines_emitSources _ _ _ _ _ _) (fun emitted => ?_)
    dsimp only
    split
    · exact ih _ _ _
    · exact refines_pure _

theorem refines_separateAndLink (adapters : PipelineAdapters R V S) (ulids : ℕ → String)
    (c : OfflinePipeline.RegionContext R S) (padded : TimeInterval)
    (separator : SpeechSeparator R S) :
    Refines state (separateAndLink p adapters ulids c padded separator)
      (p.separateAndLink adapters ulids c padded separator) := by
  refine refines_bind (refines_ofExcept _) (fun windows => ?_)
  refine refines_bind (refines_separateWindows _ _ _ _ _ _ _ _) (fun emitted => ?_)
  dsimp only
  split
  · exact refines_pure _
  · exact refines_bind (refines_mixtureFallback _ _ _ _ _) (fun _ => refines_pure _)

theorem refines_attempt (adapters : PipelineAdapters R V S) (ulids : ℕ → String)
    (c : OfflinePipeline.RegionContext R S) (separator : SpeechSeparator R S) (n : ℕ)
    (crop : TimeInterval) :
    Refines state (attempt p adapters ulids c separator n crop)
      (p.attempt adapters ulids c separator n crop) :=
  refines_bind (refines_separateAndLink _ _ _ _ _) (fun _ => refines_pure _)

theorem refines_handleOverlapRegion (adapters : PipelineAdapters R V S) (ulids : ℕ → String)
    (c : OfflinePipeline.RegionContext R S) :
    Refines state (handleOverlapRegion p adapters ulids c)
      (p.handleOverlapRegion adapters ulids c) := by
  have hmixture : ∀ warnings degraded, Refines state (mixture p adapters c warnings degraded) _ :=
    fun warnings degraded =>
      refines_bind (refines_mixtureFallback adapters c.mono c.region c.decision warnings)
        (fun found => refines_pure (found.1, found.2, degraded))
  unfold handleOverlapRegion OfflinePipeline.handleOverlapRegion
  dsimp only
  split
  · exact hmixture _ _
  · cases OfflinePipeline.separatorFor adapters c.decision with
    | none => exact hmixture _ _
    | some separator =>
      have hattempts : Refines state (attemptSeparation p adapters ulids c separator)
          (p.attemptSeparation adapters ulids c separator) :=
        refines_catchIf (refines_attempt _ _ _ _ _ _) (fun _ =>
          refines_catchIf (refines_attempt _ _ _ _ _ _) (fun _ => refines_pure none))
      refine refines_bind hattempts (fun attempted => ?_)
      cases attempted with
      | none => exact hmixture _ _
      | some found => exact refines_pure _

theorem refines_wordGroups (models : OfflineModels R V S) (ulids : ℕ → String)
    (pinned : Option String) (mono : AudioBuffer S) (diarization : DiarizationResult R)
    (regions : List (OverlapRegion R)) :
    Refines state (wordGroups p models ulids pinned mono diarization regions)
      (p.wordGroups models ulids pinned mono diarization regions) := by
  refine refines_bind (refines_ofExcept _) (fun speech => ?_)
  refine refines_bind (refines_resolveSessionLanguage _ _ _ _) (fun decided => ?_)
  refine refines_bind (refines_transcribeSlices _ _ _ _) (fun alone => ?_)
  exact refines_bind (refines_mapEach (fun x => refines_handleOverlapRegion
    (models.adapters.at (x.2 + 2)) ulids _)) (fun together => refines_pure _)

theorem refines_runOn (c : RunContext R) (models : OfflineModels R V S) (ulids : ℕ → String)
    (pinned : Option String) :
    Refines state (runOn p c models ulids pinned) (p.runOn c models ulids pinned) := by
  refine refines_bind (refines_ofExcept _) (fun mono => ?_)
  refine refines_bind (refines_ofExcept _) (fun diarization => ?_)
  refine refines_bind (refines_ofExcept _) (fun osd => ?_)
  refine refines_bind (refines_on _) (fun _ => ?_)
  refine refines_bind (refines_wordGroups _ _ _ _ _ _) (fun recognised => ?_)
  refine refines_bind (refines_on _) (fun _ => ?_)
  exact refines_bind (refines_on _) (fun segments => refines_pure _)

/-- **What a run returns** or raises does not depend on what is written down. -/
theorem run_fst (c : RunContext R) (models : OfflineModels R V S) (ulids : ℕ → String)
    (pinned : Option String) (calls : List SpeechCall) :
    (run p c models ulids pinned calls).1 = p.run c models ulids pinned :=
  (refines_runOn c models ulids pinned _).1

end TracedPipeline

namespace TracedSession

variable {c : StreamingContext R}

omit [AddCommGroup V] [Module R V] [EmbeddingSpace R V] in
theorem refines_onSession {α : Type} {m' : Method PyError (Traced (Session R V)) α}
    {m : Method PyError (Session R V) α} (hm : Refines state m' m) :
    Refines state (onSession (S := S) m') (RollingSession.onSession m) := refines_part hm

theorem refines_regionGroups (models : RollingModels R V S) (p : OfflinePipeline R)
    (closes : ℕ → Bool) (mono : AudioBuffer S) (diarization : DiarizationResult R)
    (pending : TimeInterval) (n : ℕ) (region : OverlapRegion R) :
    Refines state (regionGroups c models p closes mono diarization pending n region)
      (RollingSession.regionGroups c models p closes mono diarization pending n region) := by
  unfold regionGroups RollingSession.regionGroups
  cases region.interval.clamp pending with
  | none => exact refines_pure _
  | some clipped =>
    dsimp only
    split
    · exact refines_pure _
    · exact refines_bind (TracedPipeline.refines_handleOverlapRegion _ _ _)
        (fun result => refines_pure _)

theorem refines_closedGroups (models : RollingModels R V S) (p : OfflinePipeline R)
    (closes : ℕ → Bool) (mono : AudioBuffer S) (diarization : DiarizationResult R)
    (regions : List (OverlapRegion R)) (emittedUntilMs : ℕ) (interval : TimeInterval) :
    Refines state
      (closedGroups c models p closes mono diarization regions emittedUntilMs interval)
      (RollingSession.closedGroups c models p closes mono diarization regions emittedUntilMs
        interval) := by
  refine refines_bind (refines_ofExcept _) (fun pending => ?_)
  refine refines_bind (TracedPipeline.refines_transcribeSlices _ _ _ _) (fun alone => ?_)
  exact refines_bind (refines_mapEach (fun _ => refines_regionGroups _ _ _ _ _ _ _ _))
    (fun together => refines_pure _)

theorem refines_resolveLanguage (models : RollingModels R V S) (mono : AudioBuffer S)
    (speech : List TimeInterval) :
    Refines state (resolveLanguage c models mono speech)
      (RollingSession.resolveLanguage c models mono speech) := by
  refine refines_read_bind (fun u => ?_)
  have hresolve : Refines (state (σ := RollingSession R V S)) _ _ := refines_onSession
    (TracedPipeline.refines_resolveSessionLanguage (p := c.pipeline) models.detectLanguage
      u.state.pinnedLanguage mono speech)
  exact refines_bind hresolve (fun decided => refines_on _)

/-- **A step does to the session what it does without the calls.** -/
theorem refines_process (models : RollingModels R V S) (forceClose : Bool) :
    Refines state (process c models forceClose) (RollingSession.process c models forceClose) := by
  refine refines_bind (refines_on _) (fun _ => refines_read_bind (fun u => ?_))
  cases u.state.windowBuffer c with
  | none => exact refines_pure _
  | some mono =>
    refine refines_bind (refines_ofExcept _) (fun diarization => ?_)
    refine refines_bind (refines_ofExcept _) (fun osd => ?_)
    refine refines_bind (refines_on _) (fun _ => ?_)
    refine refines_bind (refines_ofExcept _) (fun speech => ?_)
    refine refines_bind (refines_resolveLanguage _ _ _) (fun _ => refines_read_bind (fun u => ?_))
    dsimp only
    split
    · exact refines_on _
    · refine refines_bind (refines_onSession (refines_mapEach
        (fun _ => refines_closedGroups _ _ _ _ _ _ _ _))) (fun calls => ?_)
      exact refines_bind (refines_on _) (fun events =>
        refines_bind (refines_on _) (fun changes => refines_pure _))

theorem refines_push (models : RollingModels R V S) (frame : List S) :
    Refines state (push c models frame) (RollingSession.push c models frame) := by
  refine refines_read_bind (fun u => ?_)
  split
  · exact refines_throw _
  · refine refines_bind (refines_on _) (fun _ => refines_read_bind (fun u => ?_))
    split
    · exact refines_process models false
    · exact refines_pure _

/-- What the run of the final pass returns or raises. -/
def secondPass (c : StreamingContext R) (pass : FinalPass R V S) (s : RollingSession R V S) :
    Except PyError (OfflineResult R) :=
  (finalPipeline c).run pass.context pass.models pass.ulids (pinLanguage (sessionLanguage c s))

/-- The final pass is that of the session, with what its run returns or
raises. -/
theorem refinesAt_finalPass (pass : FinalPass R V S) (u : Traced (RollingSession R V S)) :
    RefinesAt state (finalPass c pass) (RollingSession.onStreaming
      (StreamingSession.finalPass c.supply (secondPass c pass u.state))) u := by
  have hfst : (finalRun c pass (sessionLanguage c u.state) u).1 = secondPass c pass u.state :=
    TracedPipeline.run_fst pass.context pass.models pass.ulids _ u.calls
  have hsnd : (finalRun c pass (sessionLanguage c u.state) u).2.state = u.state := rfl
  unfold RefinesAt finalPass
  rw [show ∀ k, (Method.read >>= k : Method PyError (Traced (RollingSession R V S))
    (List (ServerEvent (EventPayload R)))) u = k u u from fun _ => rfl]
  by_cases hsilent : u.state.bufferedSamples = 0
  · have hnone : StreamingSession.finalPass c.supply (secondPass c pass u.state)
        u.state.toStreamingSession = (.ok [], u.state.toStreamingSession) := by
      show (if _ then _ else _ : Method PyError (StreamingSession R V) _) _ = _
      rw [if_pos hsilent]
      rfl
    rw [if_pos hsilent, RollingSession.onStreaming, zoom_eq hnone]
    exact ⟨rfl, rfl⟩
  · rw [if_neg hsilent]
    rcases hrun : finalRun c pass (sessionLanguage c u.state) u with ⟨e | result, t⟩
    · rw [hrun] at hfst hsnd
      have herror : StreamingSession.finalPass c.supply (secondPass c pass u.state)
          u.state.toStreamingSession = (.error e, u.state.toStreamingSession) := by
        show (if _ then _ else _ : Method PyError (StreamingSession R V) _) _ = _
        rw [if_neg hsilent, ← hfst]
        rfl
      rw [bind_of_error hrun, RollingSession.onStreaming, zoom_eq herror]
      exact ⟨rfl, hsnd⟩
    · rw [hrun] at hfst hsnd
      rw [bind_of_ok hrun, ← hfst, ← hsnd]
      exact ⟨rfl, rfl⟩

/-- **Closing the session** does to it what it does without the calls: the run of
the final pass starts with the language the last step has left. -/
theorem refinesAt_finalize (models : RollingModels R V S) (pass : FinalPass R V S)
    (u : Traced (RollingSession R V S)) :
    RefinesAt state (finalize c models pass) (RollingSession.finalize c models
      (secondPass c pass (RollingSession.process c models true
        { u.state with stateMachine := .finalizing }).2)) u := by
  refine refinesAt_read_bind ?_
  split
  · exact refines_pure _ u
  · refine refinesAt_bind (refines_on _ u) ?_
    rintro _ _ ⟨⟩
    have hprocess : RefinesAt state (process c models true) (RollingSession.process c models true)
      { u with state := { u.state with stateMachine := .finalizing } } := refines_process _ _ _
    refine refinesAt_bind hprocess (fun events t hrun => ?_)
    have hleft : t.state = (RollingSession.process c models true
        { u.state with stateMachine := .finalizing }).2 :=
      (congrArg (fun r => r.2.state) hrun).symm.trans hprocess.2
    rw [← hleft]
    refine refinesAt_bind (refinesAt_finalPass pass t) (fun finals t' _ => ?_)
    refine refines_bind (refines_on _) (fun _ => refines_read_bind (fun v => ?_)) t'
    exact refines_bind (refines_on _) (fun last => refines_pure _)

/-- The command a session sees. -/
def seen (c : StreamingContext R) (u : Traced (RollingSession R V S)) :
    TracedCommand R V S → RollingSession.SessionCommand R V S
  | .start => .start
  | .push models frame => .push models frame
  | .finalize models pass => .finalize models (secondPass c pass (RollingSession.process c models
      true { u.state with stateMachine := .finalizing }).2)
  | .fail errorCode message => .fail errorCode message
  | .replay lastSequenceNumber => .replay lastSequenceNumber

/-- **A session whose calls are written down is a session.** -/
theorem state_step (u : Traced (RollingSession R V S)) (command : TracedCommand R V S) :
    (step c u command).state = RollingSession.step c u.state (seen c u command) := by
  cases command with
  | start => rfl
  | push models frame => exact (refines_push models frame u).2
  | finalize models pass => exact (refinesAt_finalize models pass u).2
  | fail errorCode message => rfl
  | replay lastSequenceNumber => rfl

end TracedSession

end Sastt
