import Sastt.Domain.Config
import Sastt.Domain.Errors

/-!
# The tree a configuration is read from

`SasttConfig` carries the checks of its validators as fields, so an invalid one
cannot be written down. The source can make one all the same: its sections are
plain records, the validators run when a section is built from a file, and a
copy with a field replaced runs none. `ConfigTree` is that record, with every
field of every section, and `ConfigTree.Accepted` is what the validators check;
`ConfigTree.toConfig` builds the configuration of a tree that is accepted.

Of an integer only its bounds matter, and all bounds are from below by a
natural number, so a negative one is left out. Bounds on fields are conditions;
a validator with a message is a check that raises it.
-/

namespace Sastt

namespace ConfigTree

/-- `ValueError` unless a condition fails. -/
def raiseIf (condition : Prop) [Decidable condition] (message : String) : Except PyError Unit :=
  if condition then .error (.valueError message) else .ok ()

@[simp] theorem raiseIf_eq_ok {condition : Prop} [Decidable condition] {message : String} :
    raiseIf condition message = .ok () ↔ ¬ condition := by
  unfold raiseIf
  split <;> simp_all

@[simp] theorem raiseIf_bind_eq_ok {condition : Prop} [Decidable condition] {message : String}
    {next : Except PyError Unit} :
    (raiseIf condition message >>= fun _ => next) = .ok () ↔ ¬ condition ∧ next = .ok () := by
  unfold raiseIf
  split
  · next h => exact iff_of_false nofun (fun hnot => hnot.1 h)
  · next h => exact (and_iff_right h).symm

/-- Whether a path is given. -/
def isSet (path : Option String) : Bool := orDefault path "" ≠ ""

structure Product where
  maxSessionSpeakers : ℕ := 5
  maxSupportedConcurrentSpeakers : ℕ := 2
  threeSourceBeta : Bool := false
  monoFourFiveSourceResearch : Bool := false
  multichannelGss : Bool := false
  targetSpeakerExtraction : Bool := false
deriving DecidableEq, Repr

/-- `_check_bounds`. -/
def Product.checkBounds (c : Product) : Except PyError Unit := do
  raiseIf (c.maxSessionSpeakers < c.maxSupportedConcurrentSpeakers)
    "max_supported_concurrent_speakers cannot exceed max_session_speakers"
  raiseIf (3 ≤ c.maxSupportedConcurrentSpeakers ∧ ¬ c.threeSourceBeta)
    "three or more concurrent speakers requires three_source_beta (spec 0.1)"
  raiseIf (4 ≤ c.maxSupportedConcurrentSpeakers
      ∧ ¬ (c.multichannelGss ∨ c.monoFourFiveSourceResearch))
    ("four or five concurrent speakers requires multichannel GSS or the research flag "
      ++ "(spec 0.1.4, 1.2)")

theorem Product.checkBounds_eq_ok {c : Product} :
    c.checkBounds = .ok () ↔ c.maxSupportedConcurrentSpeakers ≤ c.maxSessionSpeakers
      ∧ (3 ≤ c.maxSupportedConcurrentSpeakers → c.threeSourceBeta = true)
      ∧ (4 ≤ c.maxSupportedConcurrentSpeakers →
        c.multichannelGss = true ∨ c.monoFourFiveSourceResearch = true) := by
  unfold checkBounds
  rw [raiseIf_bind_eq_ok, raiseIf_bind_eq_ok, raiseIf_eq_ok, not_lt, not_and_not_right,
    not_and_not_right]

def Product.Accepted (c : Product) : Prop :=
  (1 ≤ c.maxSessionSpeakers ∧ c.maxSessionSpeakers ≤ 5)
    ∧ (1 ≤ c.maxSupportedConcurrentSpeakers ∧ c.maxSupportedConcurrentSpeakers ≤ 5)
    ∧ c.checkBounds = .ok ()

structure Audio where
  canonicalSampleRate : ℕ := 16000
  preserveInputChannels : Bool := true
  maxChannels : ℕ := 8
  maxFileHours : ℚ := 4
  overlapContextSeconds : ℚ := 1 / 2
deriving DecidableEq, Repr

/-- `_must_preserve`. -/
def Audio.mustPreserve (c : Audio) : Except PyError Unit :=
  raiseIf (¬ c.preserveInputChannels) "input channels must be preserved (spec 1.1, 5.1.4)"

def Audio.Accepted (c : Audio) : Prop :=
  c.canonicalSampleRate = 16000 ∧ (1 ≤ c.maxChannels ∧ c.maxChannels ≤ 8)
    ∧ 0 < c.maxFileHours ∧ 0 ≤ c.overlapContextSeconds ∧ c.mustPreserve = .ok ()

structure Streaming where
  frameMs : ℕ := 40
  ringBufferSeconds : ℚ := 30
  diarizationWindowSeconds : ℚ := 10
  diarizationHopSeconds : ℚ := 2
  finalizeAfterSilenceSeconds : ℚ := 6 / 5
  provisionalUpdates : Bool := true
  allowRevision : Bool := true
deriving DecidableEq, Repr

/-- `_check_window`. -/
def Streaming.checkWindow (c : Streaming) : Except PyError Unit := do
  raiseIf (c.diarizationWindowSeconds < c.diarizationHopSeconds)
    "diarization hop cannot exceed the diarization window"
  raiseIf (c.ringBufferSeconds < c.diarizationWindowSeconds)
    "ring buffer must hold at least one diarization window"
  raiseIf (c.provisionalUpdates ∧ ¬ c.allowRevision)
    "provisional events without revisions would strand wrong labels (spec FR-011)"

theorem Streaming.checkWindow_eq_ok {c : Streaming} :
    c.checkWindow = .ok () ↔ c.diarizationHopSeconds ≤ c.diarizationWindowSeconds
      ∧ c.diarizationWindowSeconds ≤ c.ringBufferSeconds
      ∧ (c.provisionalUpdates = true → c.allowRevision = true) := by
  unfold checkWindow
  rw [raiseIf_bind_eq_ok, raiseIf_bind_eq_ok, raiseIf_eq_ok, not_lt, not_lt, not_and_not_right]

def Streaming.Accepted (c : Streaming) : Prop :=
  (20 ≤ c.frameMs ∧ c.frameMs ≤ 100) ∧ 0 < c.ringBufferSeconds
    ∧ 0 < c.diarizationWindowSeconds ∧ 0 < c.diarizationHopSeconds
    ∧ 0 < c.finalizeAfterSilenceSeconds ∧ c.checkWindow = .ok ()

structure Diarization where
  primary : String := "pyannote-community-1"
  modelPath : Option String := some "/models/pyannote-community-1"
  minSpeakers : ℕ := 1
  maxSpeakers : ℕ := 5
  regularOutputForOverlap : Bool := true
  exclusiveOutputForNonOverlapAlignment : Bool := true
deriving DecidableEq, Repr

/-- `_check_speakers`. -/
def Diarization.checkSpeakers (c : Diarization) : Except PyError Unit := do
  raiseIf (c.maxSpeakers < c.minSpeakers) "min_speakers cannot exceed max_speakers"
  raiseIf (¬ c.regularOutputForOverlap)
    ("regular tracks are the source of truth for overlap and cannot be disabled " ++ "(spec 5.2)")

def Diarization.Accepted (c : Diarization) : Prop :=
  (1 ≤ c.minSpeakers ∧ c.minSpeakers ≤ 5) ∧ (1 ≤ c.maxSpeakers ∧ c.maxSpeakers ≤ 5)
    ∧ c.checkSpeakers = .ok ()

/-- How many sources a region is taken to have. -/
inductive SourceCountDefault
  | fixedTwo
  | tsVad
  | multichannelActivity
  | multidecoderResearch
  | unknown
deriving DecidableEq, Repr

structure Separation where
  twoSourceBackend : String := "mossformer2_ss_16k"
  twoSourceModelPath : Option String := some "/models/mossformer2-ss-16k"
  threeSourceBackend : String := "sepformer_libri3mix"
  threeSourceModelPath : Option String := none
  maxCropSeconds : ℚ := 10
  stitchOverlapSeconds : ℚ := 1
deriving DecidableEq, Repr

/-- `_check_stitch`. -/
def Separation.checkStitch (c : Separation) : Except PyError Unit :=
  raiseIf (c.maxCropSeconds ≤ c.stitchOverlapSeconds)
    "stitch overlap must be shorter than the maximum crop"

theorem Separation.checkStitch_eq_ok {c : Separation} :
    c.checkStitch = .ok () ↔ c.stitchOverlapSeconds < c.maxCropSeconds := by
  unfold checkStitch
  rw [raiseIf_eq_ok, not_le]

def Separation.Accepted (c : Separation) : Prop :=
  0 < c.maxCropSeconds ∧ 0 ≤ c.stitchOverlapSeconds ∧ c.checkStitch = .ok ()

structure SpeakerEmbedding where
  backend : String := "3d_speaker_campplus"
  modelPath : Option String := some "/models/campplus"
  minimumCleanSpeechSeconds : ℚ := 3 / 2
  targetCleanSpeechSeconds : ℚ := 3
  updateFromSeparatedSources : Bool := false
deriving DecidableEq, Repr

/-- `_check_targets`. -/
def SpeakerEmbedding.checkTargets (c : SpeakerEmbedding) : Except PyError Unit :=
  raiseIf (c.targetCleanSpeechSeconds < c.minimumCleanSpeechSeconds)
    "target clean speech must be >= the minimum"

theorem SpeakerEmbedding.checkTargets_eq_ok {c : SpeakerEmbedding} :
    c.checkTargets = .ok () ↔ c.minimumCleanSpeechSeconds ≤ c.targetCleanSpeechSeconds := by
  unfold checkTargets
  rw [raiseIf_eq_ok, not_lt]

def SpeakerEmbedding.Accepted (c : SpeakerEmbedding) : Prop :=
  0 < c.minimumCleanSpeechSeconds ∧ 0 < c.targetCleanSpeechSeconds ∧ c.checkTargets = .ok ()

/-- How sources are assigned to speakers. -/
inductive LinkingAlgorithm
  | hungarian
deriving DecidableEq, Repr

structure Confidence where
  calibrationPath : Option String := none
  returnNullWhenUncalibrated : Bool := true
deriving DecidableEq, Repr

/-- `_check_null_policy`. -/
def Confidence.checkNullPolicy (c : Confidence) : Except PyError Unit :=
  raiseIf (c.calibrationPath = none ∧ ¬ c.returnNullWhenUncalibrated)
    "uncalibrated confidences must be returned as null (spec 0.3)"

def Confidence.Accepted (c : Confidence) : Prop := c.checkNullPolicy = .ok ()

section

variable {R : Type} [Field R] [LinearOrder R] [IsStrictOrderedRing R]

structure OverlapDetection (R : Type) [Field R] where
  modelPath : Option String := some "/models/pyannote-segmentation-3.0"
  onset : R := 3 / 5
  offset : R := 1 / 2
  minDurationSeconds : ℚ := 3 / 10
  mergeGapSeconds : ℚ := 1 / 5

/-- `_check_hysteresis`. -/
def OverlapDetection.checkHysteresis (c : OverlapDetection R) : Except PyError Unit :=
  raiseIf (c.onset < c.offset) "offset must not be higher than onset"

def OverlapDetection.Accepted (c : OverlapDetection R) : Prop :=
  (0 ≤ c.onset ∧ c.onset ≤ 1) ∧ (0 ≤ c.offset ∧ c.offset ≤ 1) ∧ 0 < c.minDurationSeconds
    ∧ 0 ≤ c.mergeGapSeconds ∧ c.checkHysteresis = .ok ()

structure SourceCount (R : Type) [Field R] where
  productionDefault : SourceCountDefault := .fixedTwo
  minimumConfidence : R := 3 / 4
  multidecoderResearchModelPath : Option String := none

def SourceCount.Accepted (c : SourceCount R) : Prop :=
  0 ≤ c.minimumConfidence ∧ c.minimumConfidence ≤ 1

structure SourceLinking (R : Type) [Field R] where
  acceptThreshold : Option R := none
  ambiguousMargin : Option R := none
  continuityBonus : R := 1 / 50
  algorithm : LinkingAlgorithm := .hungarian
  minEmbeddingMs : Option ℕ := none
  restrictToActiveClusters : Bool := true
  shortSourcePolicy : ShortSourcePolicy := .unknown
  embeddingWindow : EmbeddingWindow := .owned

def SourceLinking.Accepted (c : SourceLinking R) : Prop :=
  (0 ≤ c.continuityBonus ∧ c.continuityBonus ≤ 1 / 20) ∧ ∀ ms ∈ c.minEmbeddingMs, 100 ≤ ms

structure VoiceId (R : Type) where
  enabled : Bool := true
  acceptThreshold : Option R := none
  ambiguousMargin : Option R := none
  minimumEnrollmentClips : ℕ := 3
  minimumTotalSpeechSeconds : ℚ := 15
  failClosedWhenUncalibrated : Bool := true

/-- `is_calibrated`. -/
def VoiceId.isCalibrated (c : VoiceId R) : Bool :=
  c.acceptThreshold.isSome && c.ambiguousMargin.isSome

/-- `_check_fail_closed`. -/
def VoiceId.checkFailClosed (c : VoiceId R) : Except PyError Unit :=
  raiseIf (c.enabled ∧ ¬ c.isCalibrated ∧ ¬ c.failClosedWhenUncalibrated)
    "Voice ID without calibrated thresholds must fail closed (spec 5.10)"

def VoiceId.Accepted (c : VoiceId R) : Prop :=
  3 ≤ c.minimumEnrollmentClips ∧ 15 ≤ c.minimumTotalSpeechSeconds ∧ c.checkFailClosed = .ok ()

structure LanguageDetection (R : Type) [Field R] where
  mode : LanguageMode := .autoOnce
  sampleSeconds : ℚ := 30
  minProbability : R := 3 / 5

def LanguageDetection.Accepted (c : LanguageDetection R) : Prop :=
  0 < c.sampleSeconds ∧ 0 ≤ c.minProbability ∧ c.minProbability ≤ 1

structure Asr (R : Type) [Field R] where
  realtimeModelPath : Option String := some "/models/faster-whisper-large-v3-turbo"
  finalModelPath : Option String := some "/models/faster-whisper-large-v3"
  language : Option String := none
  languageDetection : LanguageDetection R := {}
  wordTimestamps : Bool := true
  computeType : String := "int8_float16"
  finalRescore : Bool := false

/-- `_check_rescore`. -/
def Asr.checkRescore (c : Asr R) : Except PyError Unit :=
  raiseIf (c.finalRescore ∧ ¬ isSet c.finalModelPath) "final_rescore requires final_model_path"

/-- `_check_fixed_language`. -/
def Asr.checkFixedLanguage (c : Asr R) : Except PyError Unit :=
  raiseIf (c.languageDetection.mode = .fixed ∧ ¬ isSet c.language)
    "language_detection.mode 'fixed' requires asr.language to be set"

omit [LinearOrder R] [IsStrictOrderedRing R] in
/-- A fixed language is one that is set. -/
theorem Asr.checkFixedLanguage_eq_ok {c : Asr R} :
    c.checkFixedLanguage = .ok ()
      ↔ (c.languageDetection.mode = .fixed → isSet c.language = true) := by
  unfold checkFixedLanguage
  rw [raiseIf_eq_ok, not_and_not_right]

def Asr.Accepted (c : Asr R) : Prop :=
  c.languageDetection.Accepted ∧ c.checkRescore = .ok () ∧ c.checkFixedLanguage = .ok ()

end

end ConfigTree

open ConfigTree

/-- **The full configuration tree**, as it is read, checked or not. -/
structure ConfigTree (R : Type) [Field R] where
  product : ConfigTree.Product := {}
  audio : ConfigTree.Audio := {}
  streaming : ConfigTree.Streaming := {}
  diarization : ConfigTree.Diarization := {}
  overlapDetection : ConfigTree.OverlapDetection R := {}
  sourceCount : ConfigTree.SourceCount R := {}
  separation : ConfigTree.Separation := {}
  speakerEmbedding : ConfigTree.SpeakerEmbedding := {}
  sourceLinking : ConfigTree.SourceLinking R := {}
  voiceId : ConfigTree.VoiceId R := {}
  asr : ConfigTree.Asr R := {}
  confidence : ConfigTree.Confidence := {}

namespace ConfigTree

variable {R : Type} [Field R] [LinearOrder R] [IsStrictOrderedRing R]

omit [LinearOrder R] [IsStrictOrderedRing R] in
/-- `_cross_section`. -/
def crossSection (c : ConfigTree R) : Except PyError Unit := do
  raiseIf (c.product.maxSessionSpeakers < c.diarization.maxSpeakers)
    "diarization.max_speakers cannot exceed product.max_session_speakers"
  raiseIf (c.product.threeSourceBeta ∧ ¬ isSet c.separation.threeSourceModelPath)
    "three_source_beta requires separation.three_source_model_path (spec 5.3 router)"
  raiseIf (c.product.monoFourFiveSourceResearch
      ∧ ¬ isSet c.sourceCount.multidecoderResearchModelPath)
    "the research branch requires source_count.multidecoder_research_model_path"

/-- **The validators accept the tree.** -/
structure Accepted (c : ConfigTree R) : Prop where
  product : c.product.Accepted
  audio : c.audio.Accepted
  streaming : c.streaming.Accepted
  diarization : c.diarization.Accepted
  overlapDetection : c.overlapDetection.Accepted
  sourceCount : c.sourceCount.Accepted
  separation : c.separation.Accepted
  speakerEmbedding : c.speakerEmbedding.Accepted
  sourceLinking : c.sourceLinking.Accepted
  voiceId : c.voiceId.Accepted
  asr : c.asr.Accepted
  confidence : c.confidence.Accepted
  crossSection : c.crossSection = .ok ()

/-- **The defaults pass their own checks.** -/
theorem accepted_default : ({} : ConfigTree R).Accepted where
  product := show ({} : Product).Accepted from ⟨by decide, by decide, rfl⟩
  audio := show ({} : Audio).Accepted from ⟨rfl, by decide, by norm_num, by norm_num, rfl⟩
  streaming := show ({} : Streaming).Accepted from
    ⟨by decide, by norm_num, by norm_num, by norm_num, by norm_num,
      Streaming.checkWindow_eq_ok.mpr ⟨by norm_num, by norm_num, fun h => h⟩⟩
  diarization := show ({} : Diarization).Accepted from ⟨by decide, by decide, rfl⟩
  overlapDetection := by
    refine ⟨by norm_num, by norm_num, by norm_num, by norm_num, raiseIf_eq_ok.mpr ?_⟩
    norm_num
  sourceCount := ⟨by norm_num, by norm_num⟩
  separation := show ({} : Separation).Accepted from
    ⟨by norm_num, by norm_num, Separation.checkStitch_eq_ok.mpr (by norm_num)⟩
  speakerEmbedding := show ({} : SpeakerEmbedding).Accepted from
    ⟨by norm_num, by norm_num, SpeakerEmbedding.checkTargets_eq_ok.mpr (by norm_num)⟩
  sourceLinking := ⟨by norm_num, nofun⟩
  voiceId := ⟨le_refl 3, le_refl 15, rfl⟩
  asr := ⟨⟨by norm_num, by norm_num, by norm_num⟩, rfl, rfl⟩
  confidence := rfl
  crossSection := rfl

/-- **The configuration of an accepted tree**: what the validators have checked
is what it carries. -/
def toConfig (c : ConfigTree R) (h : c.Accepted) : SasttConfig R where
  product :=
    { maxSessionSpeakers := c.product.maxSessionSpeakers
      maxSupportedConcurrentSpeakers := c.product.maxSupportedConcurrentSpeakers
      threeSourceBeta := c.product.threeSourceBeta
      monoFourFiveSourceResearch := c.product.monoFourFiveSourceResearch
      multichannelGss := c.product.multichannelGss
      targetSpeakerExtraction := c.product.targetSpeakerExtraction
      speakers_pos := h.product.1.1
      speakers_le := h.product.1.2
      concurrent_pos := h.product.2.1.1
      concurrent_le := (Product.checkBounds_eq_ok.mp h.product.2.2).1
      three_needs_beta := (Product.checkBounds_eq_ok.mp h.product.2.2).2.1
      four_needs_research := (Product.checkBounds_eq_ok.mp h.product.2.2).2.2 }
  audio :=
    { maxFileHours := c.audio.maxFileHours
      overlapContextSeconds := c.audio.overlapContextSeconds
      hours_pos := h.audio.2.2.1
      context_nonneg := h.audio.2.2.2.1 }
  streaming :=
    { frameMs := c.streaming.frameMs
      ringBufferSeconds := c.streaming.ringBufferSeconds
      diarizationWindowSeconds := c.streaming.diarizationWindowSeconds
      diarizationHopSeconds := c.streaming.diarizationHopSeconds
      finalizeAfterSilenceSeconds := c.streaming.finalizeAfterSilenceSeconds
      provisionalUpdates := c.streaming.provisionalUpdates
      allowRevision := c.streaming.allowRevision
      frame_ge := h.streaming.1.1
      frame_le := h.streaming.1.2
      hop_pos := h.streaming.2.2.2.1
      hop_le_window := (Streaming.checkWindow_eq_ok.mp h.streaming.2.2.2.2.2).1
      window_le_ring := (Streaming.checkWindow_eq_ok.mp h.streaming.2.2.2.2.2).2.1
      silence_pos := h.streaming.2.2.2.2.1
      updates_need_revision := (Streaming.checkWindow_eq_ok.mp h.streaming.2.2.2.2.2).2.2 }
  overlapDetection :=
    { minDurationSeconds := c.overlapDetection.minDurationSeconds
      mergeGapSeconds := c.overlapDetection.mergeGapSeconds
      duration_pos := h.overlapDetection.2.2.1
      gap_nonneg := h.overlapDetection.2.2.2.1 }
  sourceCount :=
    { minimumConfidence := c.sourceCount.minimumConfidence
      confidence_nonneg := h.sourceCount.1
      confidence_le_one := h.sourceCount.2 }
  separation :=
    { twoSourceBackend := c.separation.twoSourceBackend
      threeSourceBackend := c.separation.threeSourceBackend
      maxCropSeconds := c.separation.maxCropSeconds
      stitchOverlapSeconds := c.separation.stitchOverlapSeconds
      crop_pos := h.separation.1
      stitch_nonneg := h.separation.2.1
      stitch_lt_crop := Separation.checkStitch_eq_ok.mp h.separation.2.2 }
  speakerEmbedding :=
    { minimumCleanSpeechSeconds := c.speakerEmbedding.minimumCleanSpeechSeconds
      targetCleanSpeechSeconds := c.speakerEmbedding.targetCleanSpeechSeconds
      updateFromSeparatedSources := c.speakerEmbedding.updateFromSeparatedSources
      minimum_pos := h.speakerEmbedding.1
      minimum_le_target := SpeakerEmbedding.checkTargets_eq_ok.mp h.speakerEmbedding.2.2 }
  sourceLinking :=
    { acceptThreshold := c.sourceLinking.acceptThreshold
      ambiguousMargin := c.sourceLinking.ambiguousMargin
      continuityBonus := c.sourceLinking.continuityBonus
      minEmbeddingMs := c.sourceLinking.minEmbeddingMs
      restrictToActiveClusters := c.sourceLinking.restrictToActiveClusters
      shortSourcePolicy := c.sourceLinking.shortSourcePolicy
      embeddingWindow := c.sourceLinking.embeddingWindow
      bonus_nonneg := h.sourceLinking.1.1
      bonus_le := h.sourceLinking.1.2
      embedding_ge := h.sourceLinking.2 }
  voiceId := { enabled := c.voiceId.enabled }
  asr :=
    { language := c.asr.language
      languageDetection :=
        { mode := c.asr.languageDetection.mode
          sampleSeconds := c.asr.languageDetection.sampleSeconds
          minProbability := c.asr.languageDetection.minProbability
          sample_pos := h.asr.1.1
          probability_nonneg := h.asr.1.2.1
          probability_le_one := h.asr.1.2.2 } }

/-! ## A copy with another language -/

omit [LinearOrder R] [IsStrictOrderedRing R] in
/-- `model_copy`, of the section and of the tree. -/
def withAsrLanguage (c : ConfigTree R) (language : Option String) : ConfigTree R :=
  { c with asr := { c.asr with language } }

omit [IsStrictOrderedRing R] in
/-- **A copy is accepted** unless a fixed language is asked for and none is
set. -/
theorem accepted_withAsrLanguage_iff {c : ConfigTree R} (h : c.Accepted)
    (language : Option String) :
    (c.withAsrLanguage language).Accepted
      ↔ (c.asr.languageDetection.mode = .fixed → isSet language = true) := by
  constructor
  · exact fun hcopy => Asr.checkFixedLanguage_eq_ok.mp hcopy.asr.2.2
  · exact fun hset => { h with
      asr := ⟨h.asr.1, h.asr.2.1, Asr.checkFixedLanguage_eq_ok.mpr hset⟩ }

omit [LinearOrder R] [IsStrictOrderedRing R] in
theorem withAsrLanguage_eq_self_iff {c : ConfigTree R} {language : Option String} :
    c.withAsrLanguage language = c ↔ language = c.asr.language := by
  constructor
  · exact fun h => congrArg (fun c : ConfigTree R => c.asr.language) h
  · intro h
    rw [h]
    rfl

end ConfigTree

end Sastt
