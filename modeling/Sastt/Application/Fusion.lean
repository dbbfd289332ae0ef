import Sastt.Application.SessionState

/-!
# Fusion

Word groups become transcript segments. The words of a group are attributed
to speakers one after another, and a run of words of one speaker without a
long pause or the end of a sentence becomes an utterance, which is published
as one segment. The words of an overlap group belong to the speaker its
source was linked to; those of any other group to the speaker of the turn
they overlap most. Words nobody claims go to a provisional speaker, or to
the sink of the session.

Fusion draws unique ids as it goes, so it runs on a `Session`: the speakers,
and how many ids have been drawn from the supply `ulids`.
-/

namespace Sastt

/-- `SENTENCE_FINAL`. -/
def SENTENCE_FINAL : List Char := ['.', '?', '!', '…']

/-- Whether a text ends a sentence. -/
def endsSentence (text : String) : Bool := text.toList.getLast?.any (fun c => c ∈ SENTENCE_FINAL)

/-- **Words from one call of the recogniser**, with where they came from. -/
structure WordGroup (R : Type) where
  words : List (Word R)
  interval : TimeInterval
  isOverlap : Bool := false
  sourceTrack : Option ℕ := none
  separationBackend : Option String := none
  sessionSpeakerId : Option String := none
  estimatedConcurrentSpeakers : Option ℕ := none
  countConfidence : Option R := none
  rawScores : RawScores R := []
  qualityFlags : List String := []
  degradedMode : Bool := false

section Calibration

variable (R : Type) [Field R] [LinearOrder R]

/-- A release that maps raw scores to confidences. -/
structure ConfidenceCalibrator where
  calibrationVersion : Option String
  calibrate : RawScores R → Confidences R

/-- The calibrator used while no release exists. -/
def NullConfidenceCalibrator : ConfidenceCalibrator R where
  calibrationVersion := none
  calibrate _ := .unknown

end Calibration

/-- **An utterance**: words of one speaker and one group. -/
structure Utterance (R : Type) where
  speakerId : String
  words : List (Word R)
  group : WordGroup R
  /-- An utterance has a word. -/
  words_ne_nil : words ≠ []

namespace Utterance

variable {R : Type}

def startMs (u : Utterance R) : ℕ := (u.words.map Word.startMs).min?.getD 0

def endMs (u : Utterance R) : ℕ := (u.words.map Word.endMs).max?.getD 0

def text (u : Utterance R) : String := strip (" ".intercalate (u.words.map Word.text))

/-- An utterance of one word. -/
def single (speakerId : String) (word : Word R) (group : WordGroup R) : Utterance R :=
  ⟨speakerId, [word], group, List.cons_ne_nil word []⟩

/-- `words.append`. -/
def add (u : Utterance R) (word : Word R) : Utterance R :=
  { u with words := u.words ++ [word], words_ne_nil := by simp }

/-- Whether the next word of a speaker continues the utterance. -/
def continues (u : Utterance R) (canonical : String) (word : Word R) (maxPauseMs : ℕ) : Bool :=
  u.speakerId == canonical && (word.startMs : ℤ) - u.endMs ≤ maxPauseMs
    && !endsSentence (u.words.getLast u.words_ne_nil).text

end Utterance

variable {R V : Type} [Field R] [LinearOrder R] [IsStrictOrderedRing R] [AddCommGroup V]
  [Module R V] [EmbeddingSpace R V]

section

variable (R V)

/-- **A session at work**: its speakers, and how many unique ids have been
drawn. -/
structure Session where
  speakers : SessionSpeakerState R V
  drawn : ℕ := 0

end

namespace Session

/-- A method of the speakers. -/
def onSpeakers {α : Type} (m : Method PyError (SessionSpeakerState R V) α) :
    Method PyError (Session R V) α :=
  m.zoom Session.speakers (fun s speakers => { s with speakers })

/-- `new_ulid`. -/
def newUlid (ulids : ℕ → String) : Method PyError (Session R V) String := fun s =>
  (.ok (ulids s.drawn), { s with drawn := s.drawn + 1 })

end Session

/-- **The fusion engine** of one session. -/
structure FusionEngine (R : Type) [Field R] [LinearOrder R] where
  sessionId : String
  modelVersions : ModelVersions
  calibrator : ConfidenceCalibrator R
  maxPauseMs : ℕ

namespace FusionEngine

/-- The constructor: the longest pause inside an utterance is the endpoint
silence, unless one is given. -/
def new (sessionId : String) (config : SasttConfig R) (modelVersions : ModelVersions)
    (calibrator : Option (ConfidenceCalibrator R)) (maxPauseMs : Option ℕ) : FusionEngine R where
  sessionId := sessionId
  modelVersions := modelVersions
  calibrator := calibrator.getD (NullConfidenceCalibrator R)
  maxPauseMs := maxPauseMs.getD (secondsToMs config.streaming.finalizeAfterSilenceSeconds)

/-! ## Attribution -/

/-- One turn of the loop of `attribute_word`: the cluster of the turn that
overlaps the word most so far, and by how much. An equal overlap wins only
if its speaker spoke the word before. -/
def betterTurn (st : SessionSpeakerState R V) (word : Word R) (previous : Option String)
    (best : Option String × ℕ) (turn : SpeakerTurn R) : Option String × ℕ :=
  let overlap := turn.interval.intersectionMs word.interval
  if overlap = 0 then best
  else if best.2 < overlap then (some turn.clusterId, overlap)
  else if overlap = best.2 ∧ previous.isSome
      ∧ (st.byCluster turn.clusterId).map (fun s => s.sessionSpeakerId) = previous then
    (some turn.clusterId, best.2)
  else best

/-- `attribute_word`: the speaker of the turn with the largest overlap. -/
def attributeWord (ulids : ℕ → String) (word : Word R) (turns : List (SpeakerTurn R))
    (previous : Option String) : Method PyError (Session R V) (Option String) := do
  let s ← .read
  match (turns.foldl (betterTurn s.speakers word previous) (none, 0)).1 with
  | none => return none
  | some cluster =>
    let ulid ← Session.newUlid ulids
    let speaker ← Session.onSpeakers (SessionSpeakerState.ensureClusterSpeaker ulid cluster)
    return some speaker.sessionSpeakerId

/-- `_fallback_speaker_id`: who unattributed words go to. -/
def fallbackSpeakerId (ulids : ℕ → String) : Method PyError (Session R V) String := do
  let s ← .read
  match s.speakers.provisionalSpeakers.head? with
  | some speaker => return speaker.sessionSpeakerId
  | none =>
    let ulid ← Session.newUlid ulids
    let speaker ← Session.onSpeakers (SessionSpeakerState.unattributedSpeaker ulid)
    return speaker.sessionSpeakerId

/-- Who a word of a group is first attributed to, if anybody. -/
def claimant (ulids : ℕ → String) (group : WordGroup R) (turns : List (SpeakerTurn R))
    (word : Word R) (previous : Option String) : Method PyError (Session R V) (Option String) :=
  if group.isOverlap || group.sessionSpeakerId.isSome then pure group.sessionSpeakerId
  else attributeWord ulids word turns previous

/-- The speaker a word goes to. -/
def wordSpeaker (ulids : ℕ → String) (group : WordGroup R) (turns : List (SpeakerTurn R))
    (word : Word R) (previous : Option String) : Method PyError (Session R V) String := do
  match ← claimant ulids group turns word previous with
  | some id => return id
  | none => fallbackSpeakerId ulids

/-! ## Coalescing -/

/-- The inner loop of `_coalesce`, over the words of one group: `previous`
is the speaker of the word before, `current` the utterance still open. -/
def coalesceWords (engine : FusionEngine R) (ulids : ℕ → String) (group : WordGroup R)
    (turns : List (SpeakerTurn R)) (previous : Option String) (current : Option (Utterance R)) :
    List (Word R) → Method PyError (Session R V) (List (Utterance R))
  | [] => pure current.toList
  | word :: words => do
    let speakerId ← wordSpeaker ulids group turns word previous
    let s ← .read
    let speaker ← .ofExcept (s.speakers.get speakerId)
    match current.filter
        (fun u => u.continues speaker.sessionSpeakerId word engine.maxPauseMs) with
    | some u =>
      coalesceWords engine ulids group turns (some speaker.sessionSpeakerId)
        (some (u.add word)) words
    | none =>
      let rest ← coalesceWords engine ulids group turns (some speaker.sessionSpeakerId)
        (some (Utterance.single speaker.sessionSpeakerId word group)) words
      return current.toList ++ rest

/-- `_coalesce`: the words of each group in the order of their times. -/
def coalesce (engine : FusionEngine R) (ulids : ℕ → String) (groups : List (WordGroup R))
    (turns : List (SpeakerTurn R)) : Method PyError (Session R V) (List (Utterance R)) := do
  let utterances ← .mapEach groups fun group =>
    coalesceWords engine ulids group turns none none (group.words.insertionSort Word.le)
  return utterances.flatten

/-! ## Segments -/

/-- The raw scores of an utterance: those of its group, with the mean word
probability unless the group has one. -/
def rawScores (u : Utterance R) : RawScores R :=
  let probabilities := u.words.filterMap (fun w => w.rawProbability)
  if probabilities = [] then u.group.rawScores
  else u.group.rawScores.setDefault "asr_word_probability"
    (probabilities.sum / probabilities.length : R)

/-- The releases an utterance was made with. -/
def versionsOf (engine : FusionEngine R) (group : WordGroup R) : ModelVersions :=
  if truthy group.separationBackend && !truthy engine.modelVersions.separation then
    { engine.modelVersions with separation := group.separationBackend }
  else engine.modelVersions

/-- One turn of the loop of `fuse`. -/
def segmentOf (engine : FusionEngine R) (ulids : ℕ → String) (isFinal : Bool) (revision : ℕ)
    (supersedesEventId : Option String) (u : Utterance R) :
    Method PyError (Session R V) (TranscriptSegment R) := do
  let s ← .read
  let speaker ← .ofExcept (s.speakers.get u.speakerId)
  let ulid ← Session.newUlid ulids
  .ofExcept (TranscriptSegment.new {
    sessionId := engine.sessionId
    eventId := "evt_" ++ ulid
    startMs := u.startMs
    endMs := u.endMs
    text := u.text
    speakerId := speaker.publicSpeakerId
    sessionSpeakerId := speaker.sessionSpeakerId
    identityStatus := speaker.identityStatus
    revision
    supersedesEventId
    registrySpeakerId := speaker.registrySpeakerId
    speakerLabel := speaker.displayLabel
    speakerName := speaker.speakerName
    isOverlap := u.group.isOverlap
    estimatedConcurrentSpeakers := u.group.estimatedConcurrentSpeakers
    countConfidence := u.group.countConfidence
    sourceTrack := u.group.sourceTrack
    separationBackend := u.group.separationBackend
    confidences := engine.calibrator.calibrate (rawScores u)
    rawScores := rawScores u
    qualityFlags := u.group.qualityFlags
    degradedMode := u.group.degradedMode
    isFinal
    modelVersions := engine.versionsOf u.group
    words := u.words })

/-- `_assert_concurrency_preserved`. -/
def assertConcurrencyPreserved (groups : List (WordGroup R))
    (segments : List (TranscriptSegment R)) : Except PyError Unit :=
  let spoken := (groups.map (fun g => g.words.length)).sum
  let emitted := (segments.map (fun s => s.words.length)).sum
  if emitted ≠ spoken then
    .error (.sastt .schemaInvariant
      ("fusion lost words: " ++ toString spoken ++ " in, " ++ toString emitted ++ " out")
      [("words_in", .int spoken), ("words_out", .int emitted)])
  else .ok ()

/-- **`fuse`**: word groups to transcript segments. -/
def fuse (engine : FusionEngine R) (ulids : ℕ → String) (groups : List (WordGroup R))
    (turns : List (SpeakerTurn R)) (isFinal : Bool) (revision : ℕ)
    (supersedesEventId : Option String) :
    Method PyError (Session R V) (List (TranscriptSegment R)) := do
  let utterances ← engine.coalesce ulids groups turns
  let segments ← .mapEach utterances (engine.segmentOf ulids isFinal revision supersedesEventId)
  .ofExcept (assertConcurrencyPreserved groups segments)
  return segments

end FusionEngine

end Sastt
