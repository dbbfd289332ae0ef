import Mathlib.Algebra.Order.Field.Rat
import Mathlib.Tactic.NormNum
import Sastt.Domain.Audio

/-!
# Configuration

The sections of the configuration tree that the modelled code reads, each
with the bounds its validators check as fields, so that a configuration the
loader would refuse cannot be written down. Durations are rational numbers
of seconds; thresholds that are compared with model scores are of the type
`R` of the scores.

A calibrated section is one whose two thresholds have been set; until then
every decision that needs them fails closed.
-/

namespace Sastt

structure ProductConfig where
  maxSessionSpeakers : ℕ := 5
  maxSupportedConcurrentSpeakers : ℕ := 2
  threeSourceBeta : Bool := false
  monoFourFiveSourceResearch : Bool := false
  multichannelGss : Bool := false
  targetSpeakerExtraction : Bool := false
  speakers_pos : 1 ≤ maxSessionSpeakers := by decide
  speakers_le : maxSessionSpeakers ≤ 5 := by decide
  concurrent_pos : 1 ≤ maxSupportedConcurrentSpeakers := by decide
  concurrent_le : maxSupportedConcurrentSpeakers ≤ maxSessionSpeakers := by decide
  three_needs_beta : 3 ≤ maxSupportedConcurrentSpeakers → threeSourceBeta = true := by decide
  four_needs_research : 4 ≤ maxSupportedConcurrentSpeakers →
    multichannelGss = true ∨ monoFourFiveSourceResearch = true := by decide

structure AudioConfig where
  maxFileHours : ℚ := 4
  overlapContextSeconds : ℚ := 1 / 2
  hours_pos : 0 < maxFileHours := by norm_num
  context_nonneg : 0 ≤ overlapContextSeconds := by norm_num

structure StreamingConfig where
  frameMs : ℕ := 40
  ringBufferSeconds : ℚ := 30
  diarizationWindowSeconds : ℚ := 10
  diarizationHopSeconds : ℚ := 2
  finalizeAfterSilenceSeconds : ℚ := 6 / 5
  provisionalUpdates : Bool := true
  allowRevision : Bool := true
  frame_ge : 20 ≤ frameMs := by decide
  frame_le : frameMs ≤ 100 := by decide
  hop_pos : 0 < diarizationHopSeconds := by norm_num
  hop_le_window : diarizationHopSeconds ≤ diarizationWindowSeconds := by norm_num
  window_le_ring : diarizationWindowSeconds ≤ ringBufferSeconds := by norm_num
  silence_pos : 0 < finalizeAfterSilenceSeconds := by norm_num
  updates_need_revision : provisionalUpdates = true → allowRevision = true := by decide

structure OverlapDetectionConfig where
  minDurationSeconds : ℚ := 3 / 10
  mergeGapSeconds : ℚ := 1 / 5
  duration_pos : 0 < minDurationSeconds := by norm_num
  gap_nonneg : 0 ≤ mergeGapSeconds := by norm_num

structure SourceCountConfig (R : Type) [Field R] [LinearOrder R] [IsStrictOrderedRing R] where
  minimumConfidence : R := 3 / 4
  confidence_nonneg : 0 ≤ minimumConfidence := by norm_num
  confidence_le_one : minimumConfidence ≤ 1 := by norm_num

structure SeparationConfig where
  twoSourceBackend : String := "mossformer2_ss_16k"
  threeSourceBackend : String := "sepformer_libri3mix"
  maxCropSeconds : ℚ := 10
  stitchOverlapSeconds : ℚ := 1
  crop_pos : 0 < maxCropSeconds := by norm_num
  stitch_nonneg : 0 ≤ stitchOverlapSeconds := by norm_num
  stitch_lt_crop : stitchOverlapSeconds < maxCropSeconds := by norm_num

structure SpeakerEmbeddingConfig where
  minimumCleanSpeechSeconds : ℚ := 3 / 2
  targetCleanSpeechSeconds : ℚ := 3
  updateFromSeparatedSources : Bool := false
  minimum_pos : 0 < minimumCleanSpeechSeconds := by norm_num
  minimum_le_target : minimumCleanSpeechSeconds ≤ targetCleanSpeechSeconds := by norm_num

/-- What to do with a source too short to embed reliably. -/
inductive ShortSourcePolicy
  | unknown
  | diarizationConstrained
deriving DecidableEq, Repr

/-- Which slice of a separated source is embedded for linking. -/
inductive EmbeddingWindow
  | owned
  | padded
deriving DecidableEq, Repr

structure SourceLinkingConfig (R : Type) [Field R] [LinearOrder R] [IsStrictOrderedRing R] where
  acceptThreshold : Option R := none
  ambiguousMargin : Option R := none
  continuityBonus : R := 1 / 50
  /-- Speech needed before a source may be *compared* to a centroid; none
  reuses the minimum for *building* one. -/
  minEmbeddingMs : Option ℕ := none
  restrictToActiveClusters : Bool := true
  shortSourcePolicy : ShortSourcePolicy := .unknown
  embeddingWindow : EmbeddingWindow := .owned
  bonus_nonneg : 0 ≤ continuityBonus := by norm_num
  bonus_le : continuityBonus ≤ 1 / 20 := by norm_num
  embedding_ge : ∀ ms ∈ minEmbeddingMs, 100 ≤ ms := by simp

/-- No bound is below the least one. -/
theorem embedding_ge_none : ∀ ms ∈ (none : Option ℕ), 100 ≤ ms := nofun

structure VoiceIdConfig where
  enabled : Bool := true

/-- How the language of a session is decided. -/
inductive LanguageMode
  | autoOnce
  | fixed
  | perSegment
deriving DecidableEq, Repr

structure LanguageDetectionConfig (R : Type) [Field R] [LinearOrder R] [IsStrictOrderedRing R] where
  mode : LanguageMode := .autoOnce
  sampleSeconds : ℚ := 30
  minProbability : R := 3 / 5
  sample_pos : 0 < sampleSeconds := by norm_num
  probability_nonneg : 0 ≤ minProbability := by norm_num
  probability_le_one : minProbability ≤ 1 := by norm_num

/-! The sections as they are by default. -/

section Defaults

def ProductConfig.default : ProductConfig := {}

def AudioConfig.default : AudioConfig := {}

def StreamingConfig.default : StreamingConfig := {}

def OverlapDetectionConfig.default : OverlapDetectionConfig := {}

def SeparationConfig.default : SeparationConfig := {}

def SpeakerEmbeddingConfig.default : SpeakerEmbeddingConfig := {}

variable {R : Type} [Field R] [LinearOrder R] [IsStrictOrderedRing R]

def SourceCountConfig.default : SourceCountConfig R := {}

def SourceLinkingConfig.default : SourceLinkingConfig R := {}

def LanguageDetectionConfig.default : LanguageDetectionConfig R := {}

end Defaults

structure AsrConfig (R : Type) [Field R] [LinearOrder R] [IsStrictOrderedRing R] where
  language : Option String := none
  languageDetection : LanguageDetectionConfig R := .default

/-- **The configuration tree**, as far as the modelled code reads it. -/
structure SasttConfig (R : Type) [Field R] [LinearOrder R] [IsStrictOrderedRing R] where
  product : ProductConfig := .default
  audio : AudioConfig := .default
  streaming : StreamingConfig := .default
  overlapDetection : OverlapDetectionConfig := .default
  sourceCount : SourceCountConfig R := .default
  separation : SeparationConfig := .default
  speakerEmbedding : SpeakerEmbeddingConfig := .default
  sourceLinking : SourceLinkingConfig R := .default
  voiceId : VoiceIdConfig := {}
  asr : AsrConfig R := {}

variable {R : Type} [Field R] [LinearOrder R] [IsStrictOrderedRing R]

/-- Whether both thresholds have been set. -/
def SourceLinkingConfig.isCalibrated (c : SourceLinkingConfig R) : Bool :=
  c.acceptThreshold.isSome && c.ambiguousMargin.isSome

end Sastt
