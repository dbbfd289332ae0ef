import Sastt.Domain.Config
import Sastt.Domain.Transcript

/-!
# The production gate

Every model backend comes with a manifest: whether it is enabled, what the
review of its licence says about production, and which release of it was
fetched. Before a process serves, `validateForEnvironment` goes through the
backends its configuration may run and raises at the first whose manifest does
not allow it; outside production only a disabled backend is refused.

A configuration that passes in production has the separation of four and five
sources off, and the manifest of every backend on its list admits the backend
(`DeployedConfig.admits_of_validate`).
-/

namespace Sastt

inductive Environment
  | development
  | staging
  | production
deriving DecidableEq, Repr

/-- `is_production`. -/
def Environment.isProduction (e : Environment) : Bool := e = .production

/-- What the review of a licence says about production. -/
inductive ProductionAction
  | allow
  | productionCandidate
  | betaOnly
  | phase2
  | experimental
  | deny
deriving DecidableEq, Repr

/-- The `value` of an action. -/
def ProductionAction.value : ProductionAction → String
  | allow => "allow"
  | productionCandidate => "production_candidate"
  | betaOnly => "beta_only"
  | phase2 => "phase_2"
  | experimental => "experimental"
  | deny => "deny"

/-- `PRODUCTION_ALLOWLIST`. -/
def PRODUCTION_ALLOWLIST : List ProductionAction := [.allow, .productionCandidate]

/-- A manifest, as far as the gate reads it. -/
structure ModelManifest where
  revision : Option String := none
  sha256 : Option String := none
  weightLicense : String
  trainingDataCaveat : Option String := none
  productionAction : ProductionAction
  enabled : Bool := true
  requiresFlag : Option String := none
deriving DecidableEq, Repr

/-- `is_pinned`. -/
def ModelManifest.isPinned (m : ModelManifest) : Bool := truthy m.revision || truthy m.sha256

structure DiarizationConfig where
  primary : String := "pyannote-community-1"
  minSpeakers : ℕ := 1
  maxSpeakers : ℕ := 5
  min_pos : 1 ≤ minSpeakers := by decide
  min_le_max : minSpeakers ≤ maxSpeakers := by decide
  max_le : maxSpeakers ≤ 5 := by decide

/-- How the number of sources is counted by default. -/
inductive ProductionCounter
  | fixedTwo
  | tsVad
  | multichannelActivity
  | multidecoderResearch
  | unknown
deriving DecidableEq, Repr

/-- **A configuration as it is deployed**: with the settings that choose the
backends, and the checks across its sections. -/
structure DeployedConfig (R : Type) [Field R] [LinearOrder R] [IsStrictOrderedRing R]
    extends SasttConfig R where
  diarization : DiarizationConfig := {}
  /-- `overlap_detection.model_path`. -/
  overlapModelPath : Option String := some "/models/pyannote-segmentation-3.0"
  /-- `source_count.production_default`. -/
  productionDefault : ProductionCounter := .fixedTwo
  /-- `source_count.multidecoder_research_model_path`. -/
  multidecoderResearchModelPath : Option String := none
  /-- `separation.three_source_model_path`. -/
  threeSourceModelPath : Option String := none
  /-- `speaker_embedding.backend`. -/
  embeddingBackend : String := "3d_speaker_campplus"
  /-- `voice_id.accept_threshold`. -/
  voiceIdAcceptThreshold : Option R := none
  /-- `voice_id.ambiguous_margin`. -/
  voiceIdAmbiguousMargin : Option R := none
  /-- `voice_id.fail_closed_when_uncalibrated`. -/
  failClosedWhenUncalibrated : Bool := true
  /-- `asr.final_model_path`. -/
  finalModelPath : Option String := some "/models/faster-whisper-large-v3"
  /-- `asr.final_rescore`. -/
  finalRescore : Bool := false
  rescore_needs_model : finalRescore = true → truthy finalModelPath = true := by decide
  speakers_fit : diarization.maxSpeakers ≤ toSasttConfig.product.maxSessionSpeakers := by decide
  beta_needs_model : toSasttConfig.product.threeSourceBeta = true →
    truthy threeSourceModelPath = true := by decide
  research_needs_model : toSasttConfig.product.monoFourFiveSourceResearch = true →
    truthy multidecoderResearchModelPath = true := by decide
  fail_closed : toSasttConfig.voiceId.enabled = true → voiceIdAcceptThreshold = none
    ∨ voiceIdAmbiguousMargin = none → failClosedWhenUncalibrated = true := by decide

variable {R : Type} [Field R] [LinearOrder R] [IsStrictOrderedRing R]

namespace DeployedConfig

variable (config : DeployedConfig R)

/-- `voice_id.is_calibrated`. -/
def voiceIdIsCalibrated : Bool :=
  config.voiceIdAcceptThreshold.isSome && config.voiceIdAmbiguousMargin.isSome

/-- `_flag_enabled`. What the product section has under other names comes from
the validation library: `attributes` says which of those count as true. -/
def flagEnabled (attributes : String → Bool) : Option String → Bool
  | none => false
  | some flag =>
    if flag = "max_session_speakers" then config.product.maxSessionSpeakers ≠ 0
    else if flag = "max_supported_concurrent_speakers" then
      config.product.maxSupportedConcurrentSpeakers ≠ 0
    else if flag = "three_source_beta" then config.product.threeSourceBeta
    else if flag = "mono_four_five_source_research" then
      config.product.monoFourFiveSourceResearch
    else if flag = "multichannel_gss" then config.product.multichannelGss
    else if flag = "target_speaker_extraction" then config.product.targetSpeakerExtraction
    else attributes flag

/-- `_active_backends`: the components that may run, each with its backend. -/
def activeBackends : List (String × String) :=
  [("diarization", config.diarization.primary), ("embedding", config.embeddingBackend),
    ("asr", "faster_whisper"),
    ("separation_two_source", config.separation.twoSourceBackend)]
  ++ (if truthy config.overlapModelPath then [("overlap_detection", "pyannote_segmentation_3.0")]
    else [])
  ++ (if config.finalRescore then [("asr_final", "faster_whisper_large_v3")] else [])
  ++ (if config.product.threeSourceBeta then
      [("separation_three_source", config.separation.threeSourceBackend)] else [])
  ++ (if config.product.monoFourFiveSourceResearch then
      [("separation_research", "multidecoder_dprnn")] else [])
  ++ (if config.product.multichannelGss then [("separation_multichannel", "gpu_gss")] else [])
  ++ (if config.product.targetSpeakerExtraction then [("target_extraction", "wesep")] else [])
  ++ (if config.productionDefault = .multidecoderResearch then
      [("source_count", "multidecoder_dprnn")] else [])

end DeployedConfig

/-- A refusal of the gate. -/
def gateError (message : String) (cls : SasttErrorClass) : PyError :=
  .sastt .configuration message [("error_code", .str (cls.code.getD ""))]

namespace DeployedConfig

variable (config : DeployedConfig R) (attributes : String → Bool)

/-- The turn of the loop for one backend. -/
def checkBackend (environment : Environment) (manifests : String → Option ModelManifest)
    (active : String × String) : Except PyError Unit :=
  match manifests active.2 with
  | none =>
    if environment.isProduction then
      .error (gateError ("no model manifest for backend " ++ pyRepr active.2 ++ " (" ++ active.1
        ++ "); production requires a pinned, licence-reviewed manifest (spec 11.2)")
        .modelNotReady)
    else .ok ()
  | some manifest =>
    if !manifest.enabled then
      .error (gateError ("backend " ++ pyRepr active.2 ++ " is disabled by its manifest")
        .modelLicenseDisabled)
    else if !environment.isProduction then .ok ()
    else if manifest.productionAction = .deny then
      .error (gateError ("backend " ++ pyRepr active.2
        ++ " is denied in production by licence review (spec 20): "
        ++ orDefault manifest.trainingDataCaveat manifest.weightLicense) .modelLicenseDisabled)
    else if manifest.productionAction ∉ PRODUCTION_ALLOWLIST
        ∧ config.flagEnabled attributes manifest.requiresFlag = false then
      .error (gateError ("backend " ++ pyRepr active.2 ++ " is " ++ manifest.productionAction.value
        ++ " and needs the " ++ manifest.requiresFlag.elim "None" pyRepr
        ++ " flag to run in production (spec 12, 20)") .modelLicenseDisabled)
    else if !truthy manifest.revision && !truthy manifest.sha256 then
      .error (gateError ("backend " ++ pyRepr active.2
        ++ " is not pinned by revision or SHA-256 (spec 0.3, 11.2)") .modelNotReady)
    else .ok ()

/-- What is checked of the configuration itself. -/
def checkProduction : Except PyError Unit :=
  if config.product.monoFourFiveSourceResearch then
    .error (gateError ("mono_four_five_source_research is research-only and MUST be disabled in "
      ++ "production (spec 0.2, 20)") .modelLicenseDisabled)
  else if config.productionDefault = .multidecoderResearch then
    .error (gateError "the Multi-Decoder DPRNN counter is denied in production (spec 20)"
      .modelLicenseDisabled)
  else if config.voiceId.enabled && !config.voiceIdIsCalibrated
      && !config.failClosedWhenUncalibrated then
    .error (gateError "Voice ID must fail closed while uncalibrated (spec 5.10)"
      .voiceIdUncalibrated)
  else .ok ()

/-- **`validate_for_environment`.** -/
def validateForEnvironment (environment : Environment)
    (manifests : String → Option ModelManifest) : Except PyError Unit := do
  if environment.isProduction then config.checkProduction
  config.activeBackends.forM (config.checkBackend attributes environment manifests)

end DeployedConfig

end Sastt
