import Sastt.Application.Fusion
import Sastt.Application.OverlapRouter

/-!
# The adapters of a pipeline, and single calls of them

The models a pipeline runs – voice activity, separation, recognition,
embedding – are parameters. A model may answer two calls differently, so each
answer is looked up under the place of the call: a list of numbers, the path
to it through the loops of the pipeline. `PipelineAdapters.at` goes one step
down such a path. Nothing is asked of the answers, so what is proved holds
whatever the models do, on any call.

The rest of the module is what the pipeline does with one answer: which words
of a crop it keeps, which transcripts it believes, and how it embeds a slice
of audio.
-/

namespace Sastt

section

variable (R V S : Type) [Field R] [LinearOrder R] [AddCommGroup V] [Module R V]
  [EmbeddingSpace R V]

/-- A separator: its name, and how it answers the call at a place. -/
structure SpeechSeparator (R S : Type) where
  backend : String
  separate : List ℕ → AudioBuffer S → ℕ → Except PyError (SeparatedBatch R S)

/-- **The models one run of a pipeline needs.** -/
structure PipelineAdapters where
  /-- `vad.detect`. -/
  vad : List ℕ → AudioBuffer S → Except PyError (List TimeInterval)
  /-- `recognizer.transcribe`, with the language and the source track. -/
  transcribe : List ℕ → AudioBuffer S → Option String → Option ℕ → Except PyError (ASRResult R)
  /-- `embedder.embed`, with the speech intervals, the origin, the least
  speech and the source track. -/
  embed : List ℕ → AudioBuffer S → List TimeInterval → EmbeddingOrigin → Option ℕ → Option ℕ →
    Except PyError (SpeakerEmbedding R V)
  separator : Option (SpeechSeparator R S) := none
  threeSourceSeparator : Option (SpeechSeparator R S) := none

end

variable {R V S : Type} [Field R] [LinearOrder R] [IsStrictOrderedRing R] [AddCommGroup V]
  [Module R V] [EmbeddingSpace R V]

/-- There is too little speech to tell whose voice it is. -/
def noVoice : Except PyError (SpeakerEmbedding R V) :=
  .error (.sastt .insufficientSpeechForEmbedding "no speech" [])

/-- The separator, at the places below `n`. -/
def SpeechSeparator.at (separator : SpeechSeparator R S) (n : ℕ) : SpeechSeparator R S :=
  { separator with separate := fun place => separator.separate (n :: place) }

/-- **The adapters, at the places below `n`.** -/
def PipelineAdapters.at (adapters : PipelineAdapters R V S) (n : ℕ) : PipelineAdapters R V S where
  vad place := adapters.vad (n :: place)
  transcribe place := adapters.transcribe (n :: place)
  embed place := adapters.embed (n :: place)
  separator := adapters.separator.map (·.at n)
  threeSourceSeparator := adapters.threeSourceSeparator.map (·.at n)

/-! ## Words and transcripts -/

def MIN_SOURCE_SPEECH_MS_WITH_TRANSCRIPT : ℕ := 100
def MIN_SOURCE_SPEECH_MS_PER_TOKEN : ℕ := 60
def MIN_TOKENS_FOR_DENSITY_GATE : ℕ := 4
def WARNING_UNRELIABLE_SEPARATED_TRANSCRIPT : String := "unreliable_separated_transcript"
def WARNING_UNRELIABLE_MIXTURE_TRANSCRIPT : String := "unreliable_mixture_transcript"
def WARNING_UNRELIABLE_NON_OVERLAP_TRANSCRIPT : String := "unreliable_non_overlap_transcript"

/-- `words_owned_by`: a word belongs to the region its midpoint lies in. -/
def wordsOwnedBy (words : List (Word R)) (interval : TimeInterval) : List (Word R) :=
  words.filter (fun word => interval.contains ((word.startMs + word.endMs) / 2))

/-- `is_plausible_transcript`: whether a text is possible for the speech that
was heard. -/
def isPlausibleTranscript (words : List (Word R)) (speechIntervals : List TimeInterval) : Bool :=
  let speechMs := (speechIntervals.map TimeInterval.durationMs).sum
  let tokens := (words.map (fun word => max 1 (tokenCount word.text))).sum
  let minimumMs := tokens * MIN_SOURCE_SPEECH_MS_PER_TOKEN
  let wordSpanMs := (words.map Word.endMs).max?.getD 0 - (words.map Word.startMs).min?.getD 0
  if speechMs < MIN_SOURCE_SPEECH_MS_WITH_TRANSCRIPT then false
  else if tokens < MIN_TOKENS_FOR_DENSITY_GATE then true
  else minimumMs ≤ speechMs && minimumMs ≤ wordSpanMs

/-! ## Intervals -/

/-- What is left of an interval without a hole. -/
def TimeInterval.minus (i hole : TimeInterval) : List TimeInterval :=
  if i.intersects hole then
    (if h : i.startMs < hole.startMs then [⟨i.startMs, hole.startMs, h⟩] else [])
      ++ (if h : hole.endMs < i.endMs then [⟨hole.endMs, i.endMs, h⟩] else [])
  else [i]

/-- `_subtract`. -/
def subtractIntervals (intervals holes : List TimeInterval) : List TimeInterval :=
  (mergeIntervals holes 0).foldl (fun remaining hole => remaining.flatMap (·.minus hole))
    (mergeIntervals intervals 0)

/-- `_merge_overlap_regions`: what the diarizer and the detector found,
without what is too short. -/
def mergeOverlapRegions (diarizationRegions osdRegions : List (OverlapRegion R))
    (mergeGapMs minDurationMs : ℕ) : List (OverlapRegion R) :=
  let allRegions := diarizationRegions ++ osdRegions
  let merged := mergeIntervals (allRegions.map OverlapRegion.interval) mergeGapMs
  (merged.filter (fun i => minDurationMs ≤ i.durationMs)).map fun interval =>
    let here := allRegions.filter (fun region => region.interval.intersects interval)
    { interval
      osdActivation := (here.filterMap OverlapRegion.osdActivation).max?
      modelVersion := (here.head?.map OverlapRegion.modelVersion).getD "" }

/-! ## Embedding -/

/-- `embed_buffer`: an embedding of a slice of audio, if the slice exists and
holds enough speech. -/
def embedBuffer (adapters : PipelineAdapters R V S) (buffer : AudioBuffer S)
    (interval : TimeInterval) (origin : EmbeddingOrigin) (sourceTrack : Option ℕ)
    (speechIntervals : Option (List TimeInterval)) (minimumSpeechMs : Option ℕ) :
    Except PyError (Option (SpeakerEmbedding R V)) :=
  match buffer.cropMs interval with
  | .error e => if e.isSastt then .ok none else .error e
  | .ok crop => do
    let speech ← match speechIntervals with
      | some speech => .ok speech
      | none => adapters.vad [] crop
    match adapters.embed [] crop speech origin minimumSpeechMs sourceTrack with
    | .ok embedding => return some embedding
    | .error e => if e.isClass .insufficientSpeechForEmbedding then return none else .error e

end Sastt
