import Sastt.Domain.Speakers

/-!
# Transcript types

Words, the result of a recogniser, and the public segment with the checks
of its constructor. A segment that passed them is a `TranscriptSegment`; the
fields alone are `SegmentFields`, and `TranscriptSegment.new` raises with
the message of the first check that fails.

Two segments may overlap in time, and nothing about a segment makes it
unique but the id of its event.
-/

namespace Sastt

/-- The characters Python strips from the ends of a text and splits it
at. -/
def isSpace (c : Char) : Bool :=
  (9 ≤ c.toNat && c.toNat ≤ 13) || (28 ≤ c.toNat && c.toNat ≤ 32)
    || c.toNat ∈ [0x85, 0xa0, 0x1680, 0x2028, 0x2029, 0x202f, 0x205f, 0x3000]
    || (0x2000 ≤ c.toNat && c.toNat ≤ 0x200a)

/-- `str.strip`. -/
def strip (s : String) : String :=
  String.ofList ((s.toList.dropWhile isSpace).reverse.dropWhile isSpace).reverse

/-- The number of words `str.split` finds in a text: the characters that are
no space and stand at the start or after one. -/
def tokenCount (s : String) : ℕ :=
  ((' ' :: s.toList).zip s.toList).countP (fun (before, c) => isSpace before && !isSpace c)

/-- **One recognised word**, in absolute session time. -/
structure Word (R : Type) where
  text : String
  startMs : ℕ
  endMs : ℕ
  rawProbability : Option R := none
  sourceTrack : Option ℕ := none
  wordId : Option String := none
  /-- The word takes time. -/
  start_lt_end : startMs < endMs

namespace Word

variable {R : Type}

def interval (w : Word R) : TimeInterval := ⟨w.startMs, w.endMs, w.start_lt_end⟩

/-- The order fusion reads the words of a group in: by start, then by
end. -/
def le (v w : Word R) : Prop := v.interval.le w.interval

instance : DecidableRel (le (R := R)) := fun v w =>
  inferInstanceAs (Decidable (v.interval.le w.interval))

end Word

/-- Raw scores by name, in the order of their insertion. The score of a pair that
may not be linked is minus infinity. -/
abbrev RawScores (R : Type) := List (String × WithBot R)

/-- `scores[key] = value`. -/
def RawScores.set {R : Type} (scores : RawScores R) (key : String) (value : WithBot R) :
    RawScores R :=
  if scores.any (fun s => s.1 == key) then
    scores.map (fun s => if s.1 = key then (key, value) else s)
  else scores ++ [(key, value)]

/-- `scores.setdefault(key, value)`. -/
def RawScores.setDefault {R : Type} (scores : RawScores R) (key : String) (value : WithBot R) :
    RawScores R :=
  if scores.any (fun s => s.1 == key) then scores else scores ++ [(key, value)]

/-- What the recogniser returns. -/
structure ASRResult (R : Type) where
  words : List (Word R)
  detectedLanguage : String
  languageScore : Option R
  modelVersion : String
  rawScores : RawScores R := []

/-- A word that takes a millisecond at least. -/
def Word.heard {R : Type} (text : String) (startMs endMs : ℕ) (sourceTrack : Option ℕ) :
    Word R where
  text
  startMs
  endMs := max endMs (startMs + 1)
  sourceTrack
  start_lt_end := lt_max_of_lt_right (Nat.lt_succ_self startMs)

/-- Words of English. -/
def ASRResult.english {R : Type} (words : List (Word R)) : ASRResult R where
  words
  detectedLanguage := "en"
  languageScore := none
  modelVersion := "whisper"

/-- The releases an output was made with. -/
structure ModelVersions where
  diarization : Option String := none
  embedding : Option String := none
  separation : Option String := none
  asr : Option String := none
  calibration : Option String := none
deriving DecidableEq, Repr

/-- Whether confidences come from a calibration release. -/
inductive ConfidenceStatus
  | uncalibrated
  | calibrated
deriving DecidableEq, Repr

variable {R : Type} [Field R] [LinearOrder R]

/-- A confidence is a number between zero and one, if there is one. -/
def IsConfidence (value : Option R) : Prop := ∀ v ∈ value, 0 ≤ v ∧ v ≤ 1

instance (value : Option R) : Decidable (IsConfidence value) :=
  inferInstanceAs (Decidable (∀ v ∈ value, 0 ≤ v ∧ v ≤ 1))

/-- The confidences of a segment, component by component. -/
structure Confidences (R : Type) [Field R] [LinearOrder R] where
  asr : Option R := none
  diarization : Option R := none
  linking : Option R := none
  voiceId : Option R := none
  overlap : Option R := none
  overall : Option R := none
  status : ConfidenceStatus := .uncalibrated
  asr_ok : IsConfidence asr := by simp [IsConfidence]
  diarization_ok : IsConfidence diarization := by simp [IsConfidence]
  linking_ok : IsConfidence linking := by simp [IsConfidence]
  voiceId_ok : IsConfidence voiceId := by simp [IsConfidence]
  overlap_ok : IsConfidence overlap := by simp [IsConfidence]
  overall_ok : IsConfidence overall := by simp [IsConfidence]
  overall_calibrated : status = .uncalibrated → overall = none := by simp

/-- No confidence at all. -/
def Confidences.unknown {R : Type} [Field R] [LinearOrder R] : Confidences R := {}

/-- The fields of a public segment. -/
structure SegmentFields (R : Type) [Field R] [LinearOrder R] where
  sessionId : String
  eventId : String
  startMs : ℕ
  endMs : ℕ
  text : String
  speakerId : String
  sessionSpeakerId : String
  identityStatus : IdentityStatus
  revision : ℕ := 1
  supersedesEventId : Option String := none
  registrySpeakerId : Option String := none
  speakerLabel : String := ""
  speakerName : Option String := none
  isOverlap : Bool := false
  estimatedConcurrentSpeakers : Option ℕ := none
  countConfidence : Option R := none
  sourceTrack : Option ℕ := none
  separationBackend : Option String := none
  confidences : Confidences R := {}
  rawScores : RawScores R := []
  qualityFlags : List String := []
  degradedMode : Bool := false
  isFinal : Bool := false
  modelVersions : ModelVersions := {}
  words : List (Word R) := []
  schemaVersion : String := "2.0"

/-- Python's reading of an optional string as a condition. -/
def truthy (s : Option String) : Bool := s.isSome && s != some ""

/-- What the constructor of a segment checks. -/
structure SegmentFields.Valid (f : SegmentFields R) : Prop where
  interval : f.startMs < f.endMs
  revision : 1 ≤ f.revision
  track : f.separationBackend.isSome → f.sourceTrack.isSome
  confidence : IsConfidence f.countConfidence
  enrolled : f.identityStatus = .enrolled →
    truthy f.registrySpeakerId = true ∧ truthy f.speakerName = true
  anonymous : f.identityStatus ≠ .enrolled → f.speakerId = f.sessionSpeakerId

/-- **A public segment**: its fields, and that they passed the checks. -/
structure TranscriptSegment (R : Type) [Field R] [LinearOrder R]
    extends SegmentFields R where
  valid : toSegmentFields.Valid

namespace TranscriptSegment

/-- The constructor: the checks in their order, each with its message. -/
def new (f : SegmentFields R) : Except PyError (TranscriptSegment R) :=
  if hi : f.startMs < f.endMs then
    if hr : 1 ≤ f.revision then
      if ht : f.separationBackend.isSome → f.sourceTrack.isSome then
        if hc : IsConfidence f.countConfidence then
          if he : f.identityStatus = .enrolled →
              truthy f.registrySpeakerId = true ∧ truthy f.speakerName = true then
            if ha : f.identityStatus ≠ .enrolled → f.speakerId = f.sessionSpeakerId then
              .ok ⟨f, hi, hr, ht, hc, he, ha⟩
            else violated "speaker_id must fall back to session_speaker_id when not enrolled"
          else violated "registry_speaker_id and speaker_name are required when enrolled"
        else violated "count_confidence must be within [0,1]"
      else violated "source_track is required once separation has run"
    else violated ("revision must be >= 1, got " ++ toString f.revision)
  else violated ("invariant 0 <= start_ms < end_ms violated: " ++ toString f.startMs ++ ".."
    ++ toString f.endMs)
where
  /-- `raise SchemaInvariantError`. -/
  violated (message : String) : Except PyError (TranscriptSegment R) :=
    .error (.sastt .schemaInvariant message [])

/-- What `new` returns has the fields it was given. -/
theorem new_eq_ok {f : SegmentFields R} {s : TranscriptSegment R} (h : new f = .ok s) :
    s.toSegmentFields = f := by
  unfold new new.violated at h
  split_ifs at h
  cases h
  rfl

/-- Whatever `new` raises, it does not raise on valid fields. -/
theorem new_of_valid {f : SegmentFields R} (h : f.Valid) : new f = .ok ⟨f, h⟩ := by
  unfold new
  rw [dif_pos h.interval, dif_pos h.revision, dif_pos h.track, dif_pos h.confidence,
    dif_pos h.enrolled, dif_pos h.anonymous]

/-- `sort_key`, compared lexicographically. -/
def le (s t : TranscriptSegment R) : Prop :=
  s.startMs < t.startMs ∨ (s.startMs = t.startMs ∧
    (s.sessionSpeakerId < t.sessionSpeakerId ∨ (s.sessionSpeakerId = t.sessionSpeakerId ∧
      s.sourceTrack.getD 0 ≤ t.sourceTrack.getD 0)))

instance : DecidableRel (le (R := R)) := fun _ _ => inferInstanceAs (Decidable (_ ∨ _))

end TranscriptSegment

/-- `to_public_dict`: the published fields of a segment. -/
structure PublicSegment (R : Type) where
  schemaVersion : String
  sessionId : String
  eventId : String
  revision : ℕ
  supersedesEventId : Option String
  startMs : ℕ
  endMs : ℕ
  text : String
  speakerId : String
  sessionSpeakerId : String
  registrySpeakerId : Option String
  speakerLabel : String
  speakerName : Option String
  identityStatus : String
  isOverlap : Bool
  estimatedConcurrentSpeakers : Option ℕ
  countConfidence : Option R
  sourceTrack : Option ℕ
  separationBackend : Option String
  asrConfidence : Option R
  diarizationConfidence : Option R
  linkingConfidence : Option R
  voiceIdConfidence : Option R
  overlapConfidence : Option R
  overallConfidence : Option R
  confidenceStatus : ConfidenceStatus
  rawScores : RawScores R
  qualityFlags : List String
  degradedMode : Bool
  isFinal : Bool
  modelVersions : ModelVersions
deriving DecidableEq

/-- `to_public_dict`. -/
def TranscriptSegment.toPublicDict (s : TranscriptSegment R) : PublicSegment R where
  schemaVersion := s.schemaVersion
  sessionId := s.sessionId
  eventId := s.eventId
  revision := s.revision
  supersedesEventId := s.supersedesEventId
  startMs := s.startMs
  endMs := s.endMs
  text := s.text
  speakerId := s.speakerId
  sessionSpeakerId := s.sessionSpeakerId
  registrySpeakerId := s.registrySpeakerId
  speakerLabel := s.speakerLabel
  speakerName := s.speakerName
  identityStatus := s.identityStatus.value
  isOverlap := s.isOverlap
  estimatedConcurrentSpeakers := s.estimatedConcurrentSpeakers
  countConfidence := s.countConfidence
  sourceTrack := s.sourceTrack
  separationBackend := s.separationBackend
  asrConfidence := s.confidences.asr
  diarizationConfidence := s.confidences.diarization
  linkingConfidence := s.confidences.linking
  voiceIdConfidence := s.confidences.voiceId
  overlapConfidence := s.confidences.overlap
  overallConfidence := s.confidences.overall
  confidenceStatus := s.confidences.status
  rawScores := s.rawScores
  qualityFlags := s.qualityFlags
  degradedMode := s.degradedMode
  isFinal := s.isFinal
  modelVersions := s.modelVersions

/-- `sort_segments`: by start, speaker and track, and otherwise as they
came. -/
def sortSegments (segments : List (TranscriptSegment R)) : List (TranscriptSegment R) :=
  segments.insertionSort TranscriptSegment.le

end Sastt
