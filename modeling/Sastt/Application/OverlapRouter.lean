import Sastt.Domain.Config
import Sastt.Domain.Speakers

/-!
# The overlap router

How many people talk in an overlap region, and what is done about it. The
count takes the best evidence there is, in a fixed order; the router is the
table that turns a count and the switches of the product into a route. Only
some routes run a separator.
-/

namespace Sastt

/-- Where a region is routed. -/
inductive Route
  | directAsr
  | separateTwoSource
  | separateThreeSourceBeta
  | mixtureAsrUnsupported
  | degradedResearchDisabled
  | separateResearchMultidecoder
  | multichannelGss
  | targetExtraction
deriving DecidableEq, Repr

/-- **What the router decides about a region.** -/
structure RouteDecision (R : Type) where
  route : Route
  requestedSourceCount : Option ℕ := none
  backend : Option String := none
  count : SourceCountEstimate R
  warnings : List String := []
  errorCode : Option String := none
  degraded : Bool := false

/-- `runs_separation`. -/
def RouteDecision.runsSeparation {R : Type} (d : RouteDecision R) : Bool :=
  d.route ∈ [.separateTwoSource, .separateThreeSourceBeta, .separateResearchMultidecoder,
    .multichannelGss, .targetExtraction]

/-- The evidence there is about a count. -/
structure CountingEvidence (R : Type) where
  rosterActiveSpeakers : Option ℕ := none
  rosterConfidence : Option R := none
  /-- Distinct speakers the diarizer has active over the region. -/
  diarizationActiveSpeakers : Option ℕ := none
  multichannelActivitySpeakers : Option ℕ := none
  multichannelConfidence : Option R := none
  researchEstimate : Option ℕ := none
  researchConfidence : Option R := none
  isMultichannel : Bool := false
  hasActivityGuidance : Bool := false
  enrolledTargets : ℕ := 0

def WARNING_UNSUPPORTED_CONCURRENCY : String := "unsupported_concurrency"
def WARNING_RESEARCH_DISABLED : String := "research_checkpoint_disabled"
def WARNING_NARROWBAND_BETA : String := "narrowband_beta"
def WARNING_COUNT_UNCERTAIN : String := "count_uncertain"
def WARNING_SEPARATION_SUSPECT : String := "separation_suspect"

variable {R : Type} [Field R] [LinearOrder R] [IsStrictOrderedRing R]

/-- A count that comes with a confidence, if that is high enough. -/
def confidentCount (count : Option ℕ) (confidence : Option R) (minimum : R) : Option (ℕ × R) :=
  match count, confidence with
  | some k, some c => if minimum ≤ c then some (k, c) else none
  | _, _ => none

/-- `estimate_source_count`: the best evidence first, and two speakers when
there is none. -/
def estimateSourceCount (evidence : CountingEvidence R) (config : SasttConfig R) :
    SourceCountEstimate R :=
  let minimum := config.sourceCount.minimumConfidence
  match confidentCount evidence.rosterActiveSpeakers evidence.rosterConfidence minimum with
  | some (k, c) => { count := some k, confidence := some c, method := .tsVad }
  | none =>
    match confidentCount evidence.multichannelActivitySpeakers evidence.multichannelConfidence
        minimum with
    | some (k, c) => { count := some k, confidence := some c, method := .multichannelActivity }
    | none =>
      match evidence.researchEstimate.filter
          (fun _ => config.product.monoFourFiveSourceResearch) with
      | some k =>
        { count := some k, confidence := evidence.researchConfidence,
          method := .multidecoderResearch }
      | none =>
        match evidence.diarizationActiveSpeakers with
        -- diarization says how many, not how sure
        | some k =>
          { count := some (max 1 k), confidence := none, method := .diarizationActivity,
            countUncertain := true }
        | none =>
          { count := some 2, confidence := none, method := .fixedTwo, countUncertain := true }

/-- `route_overlap`: the rows of the routing table, in their order. -/
def routeOverlap (count : SourceCountEstimate R) (config : SasttConfig R)
    (evidence : CountingEvidence R) (osdPositive : Bool) : RouteDecision R :=
  let warnings := if count.countUncertain then [WARNING_COUNT_UNCERTAIN] else []
  let unsupported (route : Route) (more : List String) : RouteDecision R :=
    { route, count, warnings := warnings ++ more,
      errorCode := SasttErrorClass.unsupportedConcurrency.code, degraded := true }
  let k := count.count.getD 2
  if !osdPositive then { route := .directAsr, count, warnings }
  else if k ≤ 2 then
    { route := .separateTwoSource, requestedSourceCount := some 2,
      backend := some config.separation.twoSourceBackend, count, warnings }
  else if k = 3 then
    if config.product.threeSourceBeta then
      { route := .separateThreeSourceBeta, requestedSourceCount := some 3,
        backend := some config.separation.threeSourceBackend, count,
        warnings := warnings ++ [WARNING_NARROWBAND_BETA] }
    else unsupported .mixtureAsrUnsupported [WARNING_UNSUPPORTED_CONCURRENCY]
  else if k = 4 ∨ k = 5 then
    if config.product.multichannelGss && evidence.isMultichannel
        && evidence.hasActivityGuidance then
      { route := .multichannelGss, requestedSourceCount := some k, backend := some "gpu_gss",
        count, warnings }
    else if config.product.monoFourFiveSourceResearch then
      { route := .separateResearchMultidecoder, requestedSourceCount := some k,
        backend := some "multidecoder_dprnn", count,
        warnings := warnings ++ [WARNING_RESEARCH_DISABLED], degraded := true }
    else unsupported .degradedResearchDisabled
      [WARNING_UNSUPPORTED_CONCURRENCY, WARNING_RESEARCH_DISABLED]
  else if config.product.targetSpeakerExtraction ∧ 0 < evidence.enrolledTargets then
    { route := .targetExtraction,
      requestedSourceCount := some (min evidence.enrolledTargets
        config.product.maxSessionSpeakers),
      backend := some "wesep", count, warnings }
  else unsupported .degradedResearchDisabled [WARNING_UNSUPPORTED_CONCURRENCY]

/-- `detect_separation_suspect`: signs of more sources than were asked
for. -/
def detectSeparationSuspect {S : Type} (batch : SeparatedBatch R S) : List String :=
  if batch.estimatedSourceCount.any (fun k => batch.requestedSourceCount < k)
      || batch.sourceQuality.any (fun q => !q.passedGate) then [WARNING_SEPARATION_SUSPECT]
  else []

/-- A region that is routed through a separator has sources to ask for, and
no other has. -/
theorem runsSeparation_routeOverlap (count : SourceCountEstimate R) (config : SasttConfig R)
    (evidence : CountingEvidence R) (osdPositive : Bool) :
    (routeOverlap count config evidence osdPositive).runsSeparation
      = (routeOverlap count config evidence osdPositive).requestedSourceCount.any (0 < ·) := by
  have hmax := config.product.speakers_pos
  unfold routeOverlap RouteDecision.runsSeparation
  dsimp only
  split_ifs <;> simp <;> omega

/-- An overlap region that is not separated is degraded. -/
theorem degraded_routeOverlap (count : SourceCountEstimate R) (config : SasttConfig R)
    (evidence : CountingEvidence R)
    (h : (routeOverlap count config evidence true).runsSeparation = false) :
    (routeOverlap count config evidence true).degraded = true := by
  revert h
  unfold routeOverlap RouteDecision.runsSeparation
  dsimp only
  split_ifs <;> simp_all

end Sastt
