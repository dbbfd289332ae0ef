import Mathlib.Algebra.Module.Basic
import Mathlib.Algebra.Order.Field.Basic
import Mathlib.Algebra.Order.Ring.Abs
import Mathlib.Algebra.Module.Torsion.Field
import Mathlib.Tactic.NormNum
import Mathlib.Data.Finset.Basic
import Mathlib.Algebra.Order.Ring.Star
import Mathlib.Data.Rat.Star
import Mathlib.Order.WithBot
import Sastt.Domain.Audio
import Sastt.Domain.Identity

/-!
# Speakers

What the diarizer, the separator and the embedder report, the embeddings
and centroids built from them, and the record a session keeps of one
speaker.

Scores are exact numbers of an ordered field `R`, and embedding vectors are
elements of a module over it. What the vector library adds to that –
the norm and the scalar product – is a parameter of the development
(`EmbeddingSpace`), of which one fact is used: only the zero vector has norm
zero. Normalising raises on it (`l2Normalize_of_zero`) and on nothing else,
and this is the only way building a centroid can fail.
-/

namespace Sastt

/-- Norm and scalar product of the vector library. -/
class EmbeddingSpace (R V : Type) [Field R] [LinearOrder R] [AddCommGroup V] [Module R V] where
  norm : V → R
  dot : V → V → R
  norm_nonneg : ∀ v, 0 ≤ norm v
  norm_eq_zero : ∀ v, norm v = 0 ↔ v = 0

/-- Vectors of one dimension. -/
instance {R : Type} [Field R] [LinearOrder R] [IsStrictOrderedRing R] : EmbeddingSpace R R where
  norm v := |v|
  dot v w := v * w
  norm_nonneg v := abs_nonneg v
  norm_eq_zero _ := abs_eq_zero

/-! ## Diarization and separation -/

/-- One diarization turn, attributed to a cluster. -/
structure SpeakerTurn (R : Type) where
  clusterId : String
  interval : TimeInterval
  score : Option R := none

/-- A region in which more than one speaker is active. -/
structure OverlapRegion (R : Type) where
  interval : TimeInterval
  osdActivation : Option R := none
  modelVersion : String := ""
  calibrationVersion : Option String := none

/-- What the diarizer returns. -/
structure DiarizationResult (R : Type) where
  turns : List (SpeakerTurn R)
  regularTracks : List (SpeakerTurn R)
  exclusiveTracks : Option (List (SpeakerTurn R)) := none
  overlapRegions : List (OverlapRegion R)
  estimatedSessionSpeakers : ℕ
  modelVersion : String

/-- Turns of regular tracks, and overlap in these stretches. -/
def DiarizationResult.found {R : Type} (turns : List (SpeakerTurn R))
    (overlaps : List TimeInterval) : DiarizationResult R where
  turns
  regularTracks := turns
  overlapRegions := overlaps.map fun interval => { interval }
  estimatedSessionSpeakers := turns.length
  modelVersion := "pyannote"

/-- `cluster_ids`: the clusters in the order of their first turn. -/
def DiarizationResult.clusterIds {R : Type} (d : DiarizationResult R) : List String :=
  (d.regularTracks.insertionSort
    (fun t u => t.interval.startMs ≤ u.interval.startMs)).foldl
      (fun seen t => if t.clusterId ∈ seen then seen else seen ++ [t.clusterId]) []

/-- How a number of concurrent sources was arrived at. -/
inductive CountMethod
  | fixedTwo
  | tsVad
  | diarizationActivity
  | multichannelActivity
  | multidecoderResearch
  | unknown
deriving DecidableEq, Repr

structure SourceCountEstimate (R : Type) where
  count : Option ℕ
  confidence : Option R
  method : CountMethod
  countUncertain : Bool := false

/-- Diagnostics of one separated source. -/
structure SourceQuality (R : Type) where
  speechDurationMs : ℕ
  energyRatio : Option R := none
  leakageSimilarity : Option R := none
  residualSpeechRatio : Option R := none
  snrDb : Option R := none
  passedGate : Bool := true
  reasons : List String := []

/-- What the separator returns: the sources of one crop, each with its
diagnostics. -/
structure SeparatedBatch (R S : Type) where
  sources : List (List S)
  sampleRate : ℕ
  requestedSourceCount : ℕ
  estimatedSourceCount : Option ℕ
  sourceQuality : List (SourceQuality R)
  separatorVersion : String
  startSample : ℕ := 0
  /-- One entry of diagnostics for each source. -/
  quality_length : sourceQuality.length = sources.length

/-- So many sources, each of which is all of the crop. -/
def SeparatedBatch.copies {R S : Type} (n : ℕ) (crop : AudioBuffer S) : SeparatedBatch R S where
  sources := List.replicate n crop.samples
  sampleRate := crop.sampleRate
  requestedSourceCount := n
  estimatedSourceCount := none
  sourceQuality := List.replicate n { speechDurationMs := 0 }
  separatorVersion := "mossformer2"
  startSample := crop.startSample
  quality_length := by rw [List.length_replicate, List.length_replicate]

def SeparatedBatch.sourceCount {R S : Type} (b : SeparatedBatch R S) : ℕ := b.sources.length

/-! ## Embeddings and prototypes -/

/-- Where an embedded slice of speech came from. -/
inductive EmbeddingOrigin
  | clean
  | separated
  | enrollment
deriving DecidableEq, Repr

variable {R V : Type} [Field R] [LinearOrder R] [IsStrictOrderedRing R] [AddCommGroup V]
  [Module R V] [EmbeddingSpace R V]

/-- **An embedding**: a vector of norm one, up to a thousandth, with the
quality of the speech it was computed from. -/
structure SpeakerEmbedding (R V : Type) [Field R] [LinearOrder R] [AddCommGroup V]
    [Module R V] [EmbeddingSpace R V] where
  vector : V
  modelVersion : String
  quality : R
  speechDurationMs : ℕ
  origin : EmbeddingOrigin
  interval : Option TimeInterval := none
  sourceTrack : Option ℕ := none
  norm_close : |EmbeddingSpace.norm (R := R) vector - 1| ≤ 1 / 1000
  quality_nonneg : 0 ≤ quality
  quality_le_one : quality ≤ 1

/-- Another slice of the speech of one voice. -/
def SpeakerEmbedding.slice (e : SpeakerEmbedding R V) (speechDurationMs : ℕ)
    (origin : EmbeddingOrigin) (sourceTrack : Option ℕ := none)
    (interval : Option TimeInterval := none) (modelVersion : String := e.modelVersion) :
    SpeakerEmbedding R V :=
  { e with speechDurationMs, origin, sourceTrack, interval, modelVersion }

/-- Two seconds of a separated source, with a voice that is clear. -/
def sourceEmbedding {W : Type} [AddCommGroup W] [Module ℚ W] [EmbeddingSpace ℚ W] (vector : W)
    (h : |EmbeddingSpace.norm (R := ℚ) vector - 1| ≤ 1 / 1000) : SpeakerEmbedding ℚ W where
  vector
  modelVersion := "campplus"
  quality := 1
  speechDurationMs := 2000
  origin := .separated
  norm_close := h
  quality_nonneg := zero_le_one
  quality_le_one := le_rfl

/-- A voice that has one of the two directions of a line. -/
def lineVoice (forward : Bool) : SpeakerEmbedding ℚ ℚ :=
  sourceEmbedding (if forward then 1 else -1)
    (by cases forward <;> norm_num [EmbeddingSpace.norm])

/-- `l2_normalize`: raises on a vector of norm zero. -/
def l2Normalize (vector : V) : Except PyError V :=
  if EmbeddingSpace.norm (R := R) vector = 0 then
    .error (.valueError "cannot normalise an all-zero vector")
  else .ok ((EmbeddingSpace.norm (R := R) vector)⁻¹ • vector)

omit [IsStrictOrderedRing R] in
/-- **Normalising fails on the zero vector only.** -/
theorem l2Normalize_of_zero :
    l2Normalize (R := R) (0 : V) = .error (.valueError "cannot normalise an all-zero vector") := by
  unfold l2Normalize
  rw [if_pos ((EmbeddingSpace.norm_eq_zero 0).mpr rfl)]

omit [IsStrictOrderedRing R] in
theorem l2Normalize_of_ne_zero {v : V} (hv : v ≠ 0) :
    l2Normalize (R := R) v = .ok ((EmbeddingSpace.norm (R := R) v)⁻¹ • v) := by
  unfold l2Normalize
  rw [if_neg (fun h => hv ((EmbeddingSpace.norm_eq_zero v).mp h))]

/-- An embedding's vector is not zero. -/
theorem SpeakerEmbedding.vector_ne_zero (e : SpeakerEmbedding R V) : e.vector ≠ 0 := by
  intro h
  have hnorm := e.norm_close
  rw [(EmbeddingSpace.norm_eq_zero (R := R) e.vector).mpr h, zero_sub, abs_neg, abs_one] at hnorm
  norm_num at hnorm

/-- **A prototype**: the quality-weighted centroid of one speaker, with the
weight it was built from. -/
structure SpeakerPrototype (R V : Type) where
  speakerKey : String
  centroid : V
  weightSum : R
  modelVersion : String
  version : ℕ := 1
  contributingSegments : List TimeInterval := []

namespace SpeakerPrototype

/-- `from_embedding`: the first centroid of a speaker. -/
def fromEmbedding (speakerKey : String) (e : SpeakerEmbedding R V) :
    Except PyError (SpeakerPrototype R V) := do
  let centroid ← l2Normalize (R := R) (e.quality • e.vector)
  return {
    speakerKey, centroid
    weightSum := e.quality
    modelVersion := e.modelVersion
    version := 1
    contributingSegments := e.interval.toList }

/-- What an update accumulates before it normalises: the centroid at its
weight and the embedding at its quality. -/
def accumulated (p : SpeakerPrototype R V) (e : SpeakerEmbedding R V) : V :=
  p.weightSum • p.centroid + e.quality • e.vector

/-- `updated_with`: the centroid with one more embedding. -/
def updatedWith (p : SpeakerPrototype R V) (e : SpeakerEmbedding R V) :
    Except PyError (SpeakerPrototype R V) :=
  if e.modelVersion ≠ p.modelVersion then
    .error (.valueError "cannot update a prototype with another model version")
  else do
    let weightSum := p.weightSum + e.quality
    let centroid ← l2Normalize (R := R) (weightSum⁻¹ • p.accumulated e)
    return { p with
      centroid, weightSum
      version := p.version + 1
      contributingSegments := p.contributingSegments ++ e.interval.toList }

/-- `similarity`: refuses to compare across model versions. -/
def similarity (p : SpeakerPrototype R V) (e : SpeakerEmbedding R V) : Except PyError R :=
  if e.modelVersion ≠ p.modelVersion then
    .error (.valueError
      "refusing to compare an embedding against a prototype of another model version")
  else .ok (EmbeddingSpace.dot p.centroid e.vector)

/-- **A first centroid exists unless the quality is zero.** -/
theorem fromEmbedding_cases (key : String) (e : SpeakerEmbedding R V) :
    (e.quality = 0 ∧ ∃ err, fromEmbedding key e = .error err)
      ∨ (0 < e.quality ∧ ∃ p, fromEmbedding key e = .ok p ∧ p.speakerKey = key
        ∧ p.weightSum = e.quality ∧ p.modelVersion = e.modelVersion) := by
  unfold fromEmbedding
  rcases e.quality_nonneg.eq_or_lt with hq | hq
  · refine Or.inl ⟨hq.symm, .valueError "cannot normalise an all-zero vector", ?_⟩
    rw [← hq, zero_smul, l2Normalize_of_zero]
    rfl
  · have hv : e.quality • e.vector ≠ 0 := smul_ne_zero hq.ne' e.vector_ne_zero
    refine Or.inr ⟨hq, ?_⟩
    rw [l2Normalize_of_ne_zero hv]
    exact ⟨_, rfl, rfl, rfl, rfl⟩

/-- **A centroid of positive weight is updated unless the embedding cancels
it.** -/
theorem updatedWith_cases {p : SpeakerPrototype R V} {e : SpeakerEmbedding R V}
    (hversion : e.modelVersion = p.modelVersion) (hweight : 0 < p.weightSum) :
    (p.accumulated e = 0 ∧ ∃ err, p.updatedWith e = .error err)
      ∨ (p.accumulated e ≠ 0 ∧ ∃ p', p.updatedWith e = .ok p' ∧ p'.speakerKey = p.speakerKey
        ∧ p'.weightSum = p.weightSum + e.quality ∧ p'.modelVersion = p.modelVersion) := by
  unfold updatedWith
  rw [if_neg (not_not.mpr hversion)]
  dsimp only
  by_cases h : p.accumulated e = 0
  · refine Or.inl ⟨h, .valueError "cannot normalise an all-zero vector", ?_⟩
    rw [h, smul_zero, l2Normalize_of_zero]
    rfl
  · have hsum : (p.weightSum + e.quality)⁻¹ ≠ 0 :=
      inv_ne_zero (add_pos_of_pos_of_nonneg hweight e.quality_nonneg).ne'
    refine Or.inr ⟨h, ?_⟩
    rw [l2Normalize_of_ne_zero (smul_ne_zero hsum h)]
    exact ⟨_, rfl, rfl, rfl, rfl⟩

end SpeakerPrototype

/-! ## Decisions -/

/-- Verdict on one separated source. -/
inductive LinkStatus
  | linked
  | unknown
  | ambiguous
  | uncalibrated
deriving DecidableEq, Repr

/-- The assignment of one separated source to a session speaker. -/
structure LinkingDecision (R : Type) where
  sourceTrack : ℕ
  sessionSpeakerId : Option String
  status : LinkStatus
  /-- The score of the pair, minus infinity if it was not to be. -/
  score : Option (WithBot R) := none
  margin : Option R := none
  reason : String := ""

/-- Verdict of the voice registry. -/
inductive VoiceIdStatus
  | enrolled
  | unknown
  | ambiguous
  | uncalibrated
deriving DecidableEq, Repr

/-- An open-set voice identification. -/
structure VoiceIdDecision (R : Type) where
  status : VoiceIdStatus
  registrySpeakerId : Option String := none
  speakerName : Option String := none
  bestScore : Option R := none
  margin : Option R := none
  reason : String := ""

/-! ## The speakers of a session -/

/-- **A speaker of a session.** A speaker that was merged into another stays
registered and forwards to it. -/
structure SessionSpeaker (R V : Type) where
  sessionSpeakerId : String
  machine : SpeakerIdentityStateMachine
  displayLabel : String
  clusterId : Option String := none
  registrySpeakerId : Option String := none
  speakerName : Option String := none
  prototype : Option (SpeakerPrototype R V) := none
  prototypeHistory : List (SpeakerPrototype R V) := []
  mergedInto : Option String := none
  cannotLink : Finset String := ∅

namespace SessionSpeaker

def state (s : SessionSpeaker R V) : IdentityState := s.machine.state

/-- The speaker with its machine replaced. -/
def withMachine (s : SessionSpeaker R V) (machine : SpeakerIdentityStateMachine) :
    SessionSpeaker R V := { s with machine }

def identityStatus (s : SessionSpeaker R V) : IdentityStatus := s.machine.status

/-- The registry's id once there is one, else the session's. -/
def publicSpeakerId (s : SessionSpeaker R V) : String :=
  match s.registrySpeakerId with
  | some id => if id = "" then s.sessionSpeakerId else id
  | none => s.sessionSpeakerId

/-- `rollback_prototype`: the latest prototype in the history is taken back,
and nothing is done if there is none. -/
def rollbackPrototype (s : SessionSpeaker R V) : SessionSpeaker R V :=
  match s.prototypeHistory.getLast? with
  | none => s
  | some prototype =>
    { s with prototype := some prototype, prototypeHistory := s.prototypeHistory.dropLast }

end SessionSpeaker

end Sastt
