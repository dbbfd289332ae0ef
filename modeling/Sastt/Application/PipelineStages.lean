import Sastt.Application.OverlapRegions

/-!
# Stages both pipelines share

Before anything is transcribed, a pipeline registers the speakers the
diarizer found (`buildGlobalSpeakers`), and decides on the language of the
session once it has heard enough speech (`resolveSessionLanguage`). The
offline pipeline does this once for a recording, and a streaming session in
every rolling step.
-/

namespace Sastt

variable {R V S : Type} [Field R] [LinearOrder R] [IsStrictOrderedRing R] [AddCommGroup V]
  [Module R V] [EmbeddingSpace R V]

/-! ## Global speakers -/

def MAX_CLEAN_PROTOTYPE_SEGMENTS : ℕ := 3

/-- The turns of each cluster, in the order of the first ones. -/
def turnsPerCluster (turns : List (SpeakerTurn R)) : List (String × List TimeInterval) :=
  let clusters := turns.foldl
    (fun seen t => if t.clusterId ∈ seen then seen else seen ++ [t.clusterId]) []
  clusters.map fun cluster =>
    (cluster, (turns.filter (fun t => t.clusterId == cluster)).map SpeakerTurn.interval)

/-- The longest stretches in which a cluster talks alone. -/
def cleanSegments (intervals : List TimeInterval) (overlapRegions : List (OverlapRegion R)) :
    List TimeInterval :=
  ((subtractIntervals (mergeIntervals intervals 0)
      (overlapRegions.map OverlapRegion.interval)).insertionSort
    (fun i j => j.durationMs ≤ i.durationMs)).take MAX_CLEAN_PROTOTYPE_SEGMENTS

/-- Clusters that are active at the same time are different people. -/
def constrainClusters (clusters : String × String) : Method PyError (Session R V) Unit := do
  let s ← .read
  match s.speakers.byCluster clusters.1, s.speakers.byCluster clusters.2 with
  | some first, some second =>
    Session.onSpeakers
      (SessionSpeakerState.addCannotLink first.sessionSpeakerId second.sessionSpeakerId)
  | _, _ => return ()

/-- The turn of the last loop that embeds one clean segment of a cluster. -/
def learnSegment (adapters : PipelineAdapters R V S) (mono : AudioBuffer S) (speakerId : String)
    (interval : TimeInterval) : Method PyError (Session R V) Unit := do
  let s ← .read
  if interval.durationMs < s.speakers.minimumSpeechMs then return ()
  else
    match ← .ofExcept (embedBuffer adapters mono interval .clean none none none) with
    | none => return ()
    | some embedding =>
      let _ ← Session.onSpeakers
        (SessionSpeakerState.updatePrototype speakerId embedding none true)

/-- The turn of the last loop for one cluster. -/
def learnCluster (adapters : PipelineAdapters R V S) (overlapRegions : List (OverlapRegion R))
    (mono : AudioBuffer S) (cluster : String × List TimeInterval) :
    Method PyError (Session R V) Unit := do
  let s ← .read
  match s.speakers.byCluster cluster.1 with
  | none => return ()
  | some speaker =>
    .forEach (cleanSegments cluster.2 overlapRegions).zipIdx fun (interval, n) =>
      learnSegment (adapters.at n) mono speaker.sessionSpeakerId interval

/-- **`build_global_speakers`**: a speaker for each cluster, the marks of
clusters that talk at once, and centroids from clean speech. -/
def buildGlobalSpeakers (adapters : PipelineAdapters R V S) (ulids : ℕ → String)
    (diarization : DiarizationResult R) (overlapRegions : List (OverlapRegion R))
    (mono : AudioBuffer S) : Method PyError (Session R V) Unit := do
  let perCluster := turnsPerCluster diarization.regularTracks
  .forEach diarization.clusterIds fun cluster => do
    let ulid ← Session.newUlid ulids
    let _ ← Session.onSpeakers (SessionSpeakerState.ensureClusterSpeaker ulid cluster)
  .forEach (overlappingClusters perCluster) constrainClusters
  .forEach perCluster.zipIdx fun (cluster, n) =>
    learnCluster (adapters.at n) overlapRegions mono cluster

/-! ## The language of a session -/

def WARNING_LANGUAGE_UNCERTAIN : String := "session_language_uncertain"

/-- The loop of `_pool_speech`: the pieces of speech that are taken, and how
much they hold together. -/
def poolPieces (mono : AudioBuffer S) (targetMs : ℕ) :
    List TimeInterval → ℕ → Except PyError (List (AudioBuffer S) × ℕ)
  | [], pooledMs => return ([], pooledMs)
  | interval :: rest, pooledMs =>
    match interval.clamp mono.interval with
    | none => poolPieces mono targetMs rest pooledMs
    | some clipped => do
      let take := min clipped.durationMs (targetMs - pooledMs)
      if take = 0 then return ([], pooledMs)
      else
        let window ← TimeInterval.new clipped.startMs (clipped.startMs + take)
        let crop ← mono.cropMs window
        if targetMs ≤ pooledMs + take then return ([crop], pooledMs + take)
        else
          let (crops, totalMs) ← poolPieces mono targetMs rest (pooledMs + take)
          return (crop :: crops, totalMs)

/-- `_pool_speech`: the speech there is, up to a target, unless it is less
than half of that. -/
def poolSpeech (mono : AudioBuffer S) (speech : List TimeInterval) (targetMs : ℕ) :
    Except PyError (Option (AudioBuffer S)) := do
  let (pieces, pooledMs) ← poolPieces mono targetMs (mergeIntervals speech 0) 0
  match pieces with
  | [] => return none
  | first :: _ =>
    if pooledMs < targetMs / 2 then return none
    else
      return some (← AudioBuffer.new (pieces.flatMap AudioBuffer.samples) mono.sampleRate
        first.startSample)

namespace OfflinePipeline

variable (p : OfflinePipeline R)

/-- **`resolve_session_language`**, as far as it changes the language that is
pinned: identified once, from pooled speech, if that is confident. -/
def resolveSessionLanguage (detectLanguage : AudioBuffer S → Except PyError (String × R))
    (pinned : Option String) (mono : AudioBuffer S) (speech : List TimeInterval) :
    Except PyError (Option String × List String) := do
  let settings := p.config.asr.languageDetection
  if truthy p.config.asr.language ∨ settings.mode ≠ .autoOnce ∨ pinned.isSome then
    return (pinned, [])
  else
    match ← poolSpeech mono speech (secondsToMs settings.sampleSeconds) with
    | none => return (none, [])
    | some pooled =>
      let (language, probability) ← detectLanguage pooled
      if probability < settings.minProbability then return (none, [WARNING_LANGUAGE_UNCERTAIN])
      else return (some language, [])

/-- `session_language`: the pipeline with the language every call of the
recogniser uses. -/
def speaking (pinned : Option String) : OfflinePipeline R :=
  { p with sessionLanguage :=
      if truthy p.config.asr.language then p.config.asr.language else pinned }

end OfflinePipeline

end Sastt
