import Sastt.Domain.Transcript
import Sastt.Lib.JsonSchema

/-!
# The public schemas

What a client may rely on is written down twice: the constructor of a segment checks
its invariants, and a schema lists the fields of the published document. Neither is
derived from the other.

`obj_mem_schema_iff` says what is between them: a segment that was constructed conforms
to the schema exactly if it is `Publishable`, which is what the constructor does not
look at. Raw scores are not checked, and need not be: the schema asks for numbers, and
takes minus infinity for one (`rawScores_mem`), although JSON has no such number.
Publishable segments have conforming documents of the older version, too
(`downgrade_conforms`).
-/

namespace Sastt

open Json JsonSchema

/-- The `value` of a confidence status. -/
def ConfidenceStatus.value : ConfidenceStatus → String
  | .uncalibrated => "uncalibrated"
  | .calibrated => "calibrated"

/-- A published document. Its numbers are floats: those of the model, and minus
infinity. -/
abbrev Document (R : Type) := Json (WithBot R)

/-- A schema of published documents. -/
abbrev DocumentSchema (R : Type) := JsonSchema (WithBot R)

section Documents

variable {R : Type}

/-- The number of a confidence. -/
def confidence (c : R) : Document R := num (c : WithBot R)

/-- `ModelVersions.to_dict`. -/
def ModelVersions.toDict (versions : ModelVersions) : List (String × Document R) :=
  [("diarization", ofOption str versions.diarization),
    ("embedding", ofOption str versions.embedding),
    ("separation", ofOption str versions.separation),
    ("asr", ofOption str versions.asr),
    ("calibration", ofOption str versions.calibration)]

/-- The published fields, as the dictionary `to_public_dict` returns. -/
def PublicSegment.toDict [NatCast R] (s : PublicSegment R) : List (String × Document R) :=
  [("schema_version", str s.schemaVersion),
    ("session_id", str s.sessionId),
    ("event_id", str s.eventId),
    ("revision", num (s.revision : WithBot R)),
    ("supersedes_event_id", ofOption str s.supersedesEventId),
    ("start_ms", num (s.startMs : WithBot R)),
    ("end_ms", num (s.endMs : WithBot R)),
    ("text", str s.text),
    ("speaker_id", str s.speakerId),
    ("session_speaker_id", str s.sessionSpeakerId),
    ("registry_speaker_id", ofOption str s.registrySpeakerId),
    ("speaker_label", str s.speakerLabel),
    ("speaker_name", ofOption str s.speakerName),
    ("identity_status", str s.identityStatus),
    ("is_overlap", .bool s.isOverlap),
    ("estimated_concurrent_speakers",
      ofOption (fun k => num (k : WithBot R)) s.estimatedConcurrentSpeakers),
    ("count_confidence", ofOption confidence s.countConfidence),
    ("source_track", ofOption (fun k => num (k : WithBot R)) s.sourceTrack),
    ("separation_backend", ofOption str s.separationBackend),
    ("asr_confidence", ofOption confidence s.asrConfidence),
    ("diarization_confidence", ofOption confidence s.diarizationConfidence),
    ("linking_confidence", ofOption confidence s.linkingConfidence),
    ("voice_id_confidence", ofOption confidence s.voiceIdConfidence),
    ("overlap_confidence", ofOption confidence s.overlapConfidence),
    ("overall_confidence", ofOption confidence s.overallConfidence),
    ("confidence_status", str s.confidenceStatus.value),
    ("raw_scores", obj (s.rawScores.map (fun score => (score.1, num score.2)))),
    ("quality_flags", arr (s.qualityFlags.map str)),
    ("degraded_mode", .bool s.degradedMode),
    ("is_final", .bool s.isFinal),
    ("model_versions", obj s.modelVersions.toDict)]

end Documents

/-! ## The schemas -/

section Schemas

variable (R : Type) [Field R] [LinearOrder R]

/-- `_CONFIDENCE`. -/
def CONFIDENCE : DocumentSchema R := type [.number, .null] ∩ minimum 0 ∩ maximum 1

/-- The `properties` of a segment. -/
def SEGMENT_V2_PROPERTIES : List (String × DocumentSchema R) :=
  [("schema_version", const (str "2.0")),
    ("session_id", type [.string] ∩ minLength 1),
    ("event_id", type [.string] ∩ minLength 1),
    ("revision", type [.integer] ∩ minimum 1),
    ("supersedes_event_id", type [.string, .null]),
    ("start_ms", type [.integer] ∩ minimum 0),
    ("end_ms", type [.integer] ∩ minimum 1),
    ("text", type [.string]),
    ("speaker_id", type [.string] ∩ minLength 1),
    ("session_speaker_id", type [.string] ∩ minLength 1),
    ("registry_speaker_id", type [.string, .null]),
    ("speaker_label", type [.string]),
    ("speaker_name", type [.string, .null]),
    ("identity_status",
      enum [str "provisional", str "enrolled", str "anonymous", str "unknown", str "ambiguous"]),
    ("is_overlap", type [.boolean]),
    ("estimated_concurrent_speakers", type [.integer, .null] ∩ minimum 1 ∩ maximum 5),
    ("count_confidence", CONFIDENCE R),
    ("source_track", type [.integer, .null] ∩ minimum 0),
    ("separation_backend", type [.string, .null]),
    ("asr_confidence", CONFIDENCE R),
    ("diarization_confidence", CONFIDENCE R),
    ("linking_confidence", CONFIDENCE R),
    ("voice_id_confidence", CONFIDENCE R),
    ("overlap_confidence", CONFIDENCE R),
    ("overall_confidence", CONFIDENCE R),
    ("confidence_status", enum [str "uncalibrated", str "calibrated"]),
    ("raw_scores", type [.object] ∩ additionalProperties [] (type [.number])),
    ("quality_flags", type [.array] ∩ items (type [.string])),
    ("degraded_mode", type [.boolean]),
    ("is_final", type [.boolean]),
    ("model_versions", type [.object]
      ∩ additionalProperties ["diarization", "embedding", "separation", "asr", "calibration"] never
      ∩ properties [("diarization", type [.string, .null]),
        ("embedding", type [.string, .null]),
        ("separation", type [.string, .null]),
        ("asr", type [.string, .null]),
        ("calibration", type [.string, .null])])]

/-- **`TRANSCRIPT_SEGMENT_V2_SCHEMA`.** -/
def TRANSCRIPT_SEGMENT_V2_SCHEMA : DocumentSchema R :=
  type [.object]
    ∩ additionalProperties ((SEGMENT_V2_PROPERTIES R).map Prod.fst) never
    ∩ required ["schema_version", "session_id", "event_id", "revision", "start_ms", "end_ms",
      "text", "speaker_id", "session_speaker_id", "identity_status", "is_overlap",
      "confidence_status", "is_final", "model_versions"]
    ∩ properties (SEGMENT_V2_PROPERTIES R)
    ∩ allOf [
      ifThen (properties [("identity_status", const (str "enrolled"))])
        (required ["registry_speaker_id", "speaker_name"]
          ∩ properties [("registry_speaker_id", type [.string] ∩ minLength 1),
            ("speaker_name", type [.string] ∩ minLength 1)]),
      ifThen (properties [("separation_backend", type [.string])]
          ∩ required ["separation_backend"])
        (required ["source_track"]
          ∩ properties [("source_track", type [.integer] ∩ minimum 0)]),
      ifThen (properties [("confidence_status", const (str "uncalibrated"))])
        (properties [("overall_confidence", const null)])]

/-- **`SEGMENT_V1_SCHEMA`.** -/
def SEGMENT_V1_SCHEMA : DocumentSchema R :=
  type [.object]
    ∩ required ["schema_version", "start_ms", "end_ms", "text", "speaker_id", "speaker_label"]
    ∩ properties [("schema_version", const (str "1.0")),
      ("session_id", type [.string]),
      ("start_ms", type [.integer] ∩ minimum 0),
      ("end_ms", type [.integer] ∩ minimum 1),
      ("text", type [.string]),
      ("speaker_id", type [.string] ∩ minLength 1),
      ("speaker_label", type [.string]),
      ("is_overlap", type [.boolean]),
      ("is_final", type [.boolean])]

end Schemas

/-! ## What the schema asks for -/

section Conformance

variable {R : Type} [Field R] [LinearOrder R] [IsStrictOrderedRing R]

omit [LinearOrder R] [IsStrictOrderedRing R] in
@[simp] theorem str_mem_nonempty {s : String} :
    (str s : Document R) ∈ type [.string] ∩ minLength 1 ↔ s ≠ "" := by
  simp [kind, Nat.one_le_iff_ne_zero]

omit [LinearOrder R] [IsStrictOrderedRing R] in
@[simp] theorem ofOption_str_mem_type (o : Option String) :
    (ofOption str o : Document R) ∈ type [.string, .null] := by
  cases o <;> simp [ofOption, kind]

@[simp] theorem natCast_mem_nonneg (k : ℕ) : num (k : WithBot R) ∈ type [.integer] ∩ minimum 0 := by
  simp [kind]

@[simp] theorem natCast_mem_positive {k : ℕ} :
    num (k : WithBot R) ∈ type [.integer] ∩ minimum 1 ↔ 1 ≤ k := by
  simp [kind]

@[simp] theorem ofOption_natCast_mem_nonneg (o : Option ℕ) :
    ofOption (fun k => num (k : WithBot R)) o ∈ type [.integer, .null] ∩ minimum 0 := by
  cases o <;> simp [ofOption, kind]

/-- A number of speakers is one of those there may be. -/
@[simp] theorem ofOption_natCast_mem_count {o : Option ℕ} :
    ofOption (fun k => num (k : WithBot R)) o ∈ type [.integer, .null] ∩ minimum 1 ∩ maximum 5
      ↔ ∀ k ∈ o, 1 ≤ k ∧ k ≤ 5 := by
  cases o <;> simp [ofOption, kind]

omit [IsStrictOrderedRing R] in
@[simp] theorem ofOption_confidence_mem {value : Option R} :
    ofOption confidence value ∈ CONFIDENCE R ↔ IsConfidence value := by
  cases value <;> simp [ofOption, CONFIDENCE, confidence, kind, IsConfidence]

omit [LinearOrder R] [IsStrictOrderedRing R] in
/-- The releases of a segment are what the schema says they are. -/
theorem modelVersions_mem (versions : ModelVersions) :
    (obj versions.toDict : Document R) ∈ type [.object]
      ∩ additionalProperties ["diarization", "embedding", "separation", "asr", "calibration"] never
      ∩ properties [("diarization", type [.string, .null]),
        ("embedding", type [.string, .null]),
        ("separation", type [.string, .null]),
        ("asr", type [.string, .null]),
        ("calibration", type [.string, .null])] := by
  refine ⟨⟨by simp [kind], obj_mem_additionalProperties_of_eq rfl⟩, ?_⟩
  refine (obj_mem_properties_iff rfl ?_).mpr ?_
  · show ["diarization", "embedding", "separation", "asr", "calibration"].Nodup
    decide
  · simp only [ModelVersions.toDict, List.forall₂_cons, ofOption_str_mem_type, List.Forall₂.nil,
      and_self]

omit [LinearOrder R] [IsStrictOrderedRing R] in
/-- **Raw scores are what the schema says they are**, whatever they are: minus
infinity, the score of a pair that is not to be, passes for a number. -/
theorem rawScores_mem (scores : RawScores R) :
    (obj (scores.map (fun score => (score.1, num score.2))) : Document R)
      ∈ type [.object] ∩ additionalProperties [] (type [.number]) := by
  refine ⟨by simp [kind], obj_mem_additionalProperties.mpr fun field hfield _ => ?_⟩
  obtain ⟨score, -, rfl⟩ := List.mem_map.mp hfield
  simp [kind]

omit [IsStrictOrderedRing R] in
/-- No field is listed twice. -/
theorem nodup_properties : ((SEGMENT_V2_PROPERTIES R).map Prod.fst).Nodup := by
  have hnames : ((SEGMENT_V2_PROPERTIES ℚ).map Prod.fst).Nodup := by decide +kernel
  exact hnames

/-- **What the schema asks of a segment and its constructor does not.** -/
structure TranscriptSegment.Publishable (s : TranscriptSegment R) : Prop where
  version : s.schemaVersion = "2.0"
  session : s.sessionId ≠ ""
  event : s.eventId ≠ ""
  speaker : s.speakerId ≠ ""
  sessionSpeaker : s.sessionSpeakerId ≠ ""
  /-- Between one and five people talk at once, if that is known. -/
  count : ∀ k ∈ s.estimatedConcurrentSpeakers, 1 ≤ k ∧ k ≤ 5

/-- Field by field. -/
theorem mem_properties_iff (s : TranscriptSegment R) :
    obj s.toPublicDict.toDict ∈ properties (SEGMENT_V2_PROPERTIES R) ↔ s.Publishable := by
  rw [obj_mem_properties_iff rfl nodup_properties]
  have hstatus : (str s.identityStatus.value : Document R) ∈ enum
      [str "provisional", str "enrolled", str "anonymous", str "unknown", str "ambiguous"] := by
    cases s.identityStatus <;> simp [IdentityStatus.value]
  have hconfidence : (str s.confidences.status.value : Document R)
      ∈ enum [str "uncalibrated", str "calibrated"] := by
    cases s.confidences.status <;> simp [ConfidenceStatus.value]
  have hflags : (arr (s.qualityFlags.map str) : Document R)
      ∈ type [.array] ∩ items (type [.string]) := by
    simp [kind]
  have hstrings : ∀ x : String, (str x : Document R) ∈ type [.string] := fun x => by simp [kind]
  have hbools : ∀ b : Bool, (.bool b : Document R) ∈ type [.boolean] := fun b => by simp [kind]
  have hend : 1 ≤ s.endMs := (Nat.zero_le _).trans_lt s.valid.interval
  simp only [PublicSegment.toDict, SEGMENT_V2_PROPERTIES, TranscriptSegment.toPublicDict,
    List.forall₂_cons, List.Forall₂.nil, mem_const, str.injEq, str_mem_nonempty,
    natCast_mem_positive, natCast_mem_nonneg, ofOption_str_mem_type, hstrings, hbools, hstatus,
    hconfidence, rawScores_mem, hflags, ofOption_natCast_mem_count, ofOption_natCast_mem_nonneg,
    ofOption_confidence_mem, modelVersions_mem, s.valid.revision, s.valid.confidence, hend,
    s.confidences.asr_ok, s.confidences.diarization_ok, s.confidences.linking_ok,
    s.confidences.voiceId_ok, s.confidences.overlap_ok, s.confidences.overall_ok, true_and,
    and_true]
  constructor
  · rintro ⟨h₁, h₂, h₃, h₄, h₅, h₆⟩
    exact ⟨h₁, h₂, h₃, h₄, h₅, h₆⟩
  · intro h
    exact ⟨h.version, h.session, h.event, h.speaker, h.sessionSpeaker, h.count⟩

omit [IsStrictOrderedRing R] in
/-- All fields are always there. -/
theorem mem_required (s : TranscriptSegment R) {names : List String}
    (h : names ⊆ (SEGMENT_V2_PROPERTIES ℚ).map Prod.fst) :
    obj s.toPublicDict.toDict ∈ required names := by
  have hfields : s.toPublicDict.toDict.map Prod.fst = (SEGMENT_V2_PROPERTIES ℚ).map Prod.fst := rfl
  rw [obj_mem_required, hfields]
  exact h

/-! ### The conditional rules -/

omit [Field R] [LinearOrder R] [IsStrictOrderedRing R] in
/-- A property of a field that is there. -/
theorem mem_properties_of_lookup {fields : List (String × Document R)} {name : String}
    {value : Document R} (h : fields.lookup name = some value) (schema : DocumentSchema R) :
    obj fields ∈ properties [(name, schema)] ↔ value ∈ schema := by
  simp [h]

omit [LinearOrder R] [IsStrictOrderedRing R] in
/-- An optional text that is not empty. -/
theorem mem_nonempty_of_truthy {o : Option String} (h : truthy o = true) :
    (ofOption str o : Document R) ∈ type [.string] ∩ minLength 1 := by
  cases o with
  | none => cases h
  | some x =>
    refine str_mem_nonempty.mpr ?_
    rintro rfl
    cases h

omit [IsStrictOrderedRing R] in
/-- An enrolled speaker has the id and the name of the registry. -/
theorem enrolled_rule (s : TranscriptSegment R) : obj s.toPublicDict.toDict ∈
    ifThen (properties [("identity_status", const (str "enrolled"))])
      (required ["registry_speaker_id", "speaker_name"]
        ∩ properties [("registry_speaker_id", type [.string] ∩ minLength 1),
          ("speaker_name", type [.string] ∩ minLength 1)]) := by
  intro h
  have hvalue : (str s.identityStatus.value : Document R) = str "enrolled" :=
    (mem_properties_of_lookup rfl (const (str "enrolled"))).mp h
  have henrolled : s.identityStatus = .enrolled := by
    cases hs : s.identityStatus <;> rw [hs] at hvalue <;> simp [IdentityStatus.value] at hvalue ⊢
  obtain ⟨hid, hname⟩ := s.valid.enrolled henrolled
  refine ⟨mem_required s (by decide +kernel), obj_mem_properties.mpr ?_⟩
  have hlookups : s.toPublicDict.toDict.lookup "registry_speaker_id"
        = some (ofOption str s.registrySpeakerId)
      ∧ s.toPublicDict.toDict.lookup "speaker_name" = some (ofOption str s.speakerName) :=
    ⟨rfl, rfl⟩
  simp only [List.forall_mem_cons, hlookups, Option.mem_some_iff, forall_eq']
  exact ⟨mem_nonempty_of_truthy hid, mem_nonempty_of_truthy hname, nofun⟩

/-- A segment that was separated has its track. -/
theorem separated_rule (s : TranscriptSegment R) : obj s.toPublicDict.toDict ∈
    ifThen (properties [("separation_backend", type [.string])] ∩ required ["separation_backend"])
      (required ["source_track"]
        ∩ properties [("source_track", type [.integer] ∩ minimum 0)]) := by
  intro h
  have hbackend : (ofOption str s.separationBackend : Document R) ∈ type [.string] :=
    (mem_properties_of_lookup rfl (type [.string])).mp h.1
  have hsome : s.separationBackend.isSome := by
    cases hs : s.separationBackend with
    | none =>
      rw [hs] at hbackend
      simp [ofOption, kind] at hbackend
    | some backend => rfl
  obtain ⟨track, htrack⟩ := Option.isSome_iff_exists.mp (s.valid.track hsome)
  refine ⟨mem_required s (by decide +kernel), ?_⟩
  refine (mem_properties_of_lookup rfl (type [.integer] ∩ minimum 0)).mpr ?_
  show ofOption (fun k => num (k : WithBot R)) s.sourceTrack ∈ type [.integer] ∩ minimum 0
  rw [htrack]
  exact natCast_mem_nonneg track

omit [IsStrictOrderedRing R] in
/-- An overall confidence comes from a calibration. -/
theorem uncalibrated_rule (s : TranscriptSegment R) : obj s.toPublicDict.toDict ∈
    ifThen (properties [("confidence_status", const (str "uncalibrated"))])
      (properties [("overall_confidence", const null)]) := by
  intro h
  have hvalue : (str s.confidences.status.value : Document R) = str "uncalibrated" :=
    (mem_properties_of_lookup rfl (const (str "uncalibrated"))).mp h
  have hstatus : s.confidences.status = .uncalibrated := by
    cases hs : s.confidences.status with
    | uncalibrated => rfl
    | calibrated =>
      rw [hs] at hvalue
      simp [ConfidenceStatus.value] at hvalue
  refine (mem_properties_of_lookup rfl (const null)).mpr ?_
  show ofOption confidence s.confidences.overall = null
  rw [s.confidences.overall_calibrated hstatus]
  rfl

/-- **A segment conforms to the schema exactly if it is publishable.** -/
theorem obj_mem_schema_iff (s : TranscriptSegment R) :
    obj s.toPublicDict.toDict ∈ TRANSCRIPT_SEGMENT_V2_SCHEMA R ↔ s.Publishable := by
  constructor
  · intro h
    exact (mem_properties_iff s).mp h.1.2
  · intro h
    refine ⟨⟨⟨⟨?_, obj_mem_additionalProperties_of_eq rfl⟩, mem_required s (by decide +kernel)⟩,
      (mem_properties_iff s).mpr h⟩, ?_⟩
    · simp [kind]
    · simp only [mem_allOf, List.forall_mem_cons]
      exact ⟨enrolled_rule s, separated_rule s, uncalibrated_rule s, List.forall_mem_nil _⟩

end Conformance

/-! ## The older version -/

section Downgrade

variable {R : Type} [Field R] [LinearOrder R]

/-- Python's reading of a value as a condition. -/
def jsonTruthy : Document R → Bool
  | .null => false
  | .bool b => b
  | .num r => r != 0
  | .str s => s != ""
  | .arr xs => !xs.isEmpty
  | .obj fields => !fields.isEmpty

/-- `segment[key]`. -/
def item (segment : List (String × Document R)) (key : String) :
    Except PyError (Document R) :=
  match segment.lookup key with
  | some value => .ok value
  | none => .error (.keyError key)

/-- **`downgrade_segment_to_v1`**: the fields of the older version. -/
def downgradeSegmentToV1 (segment : List (String × Document R)) :
    Except PyError (List (String × Document R)) := do
  let sessionId ← item segment "session_id"
  let startMs ← item segment "start_ms"
  let endMs ← item segment "end_ms"
  let text ← item segment "text"
  let speakerId ← item segment "speaker_id"
  let speakerLabel ← match (segment.lookup "speaker_label").filter jsonTruthy with
    | some label => .ok label
    | none => item segment "session_speaker_id"
  return [("schema_version", str "1.0"),
    ("session_id", sessionId),
    ("start_ms", startMs),
    ("end_ms", endMs),
    ("text", text),
    ("speaker_id", speakerId),
    ("speaker_label", speakerLabel),
    ("is_overlap", .bool ((segment.lookup "is_overlap").any jsonTruthy)),
    ("is_final", .bool ((segment.lookup "is_final").any jsonTruthy))]

/-- **What a published segment is in the older version.** A speaker without a label is
called by the id. -/
theorem downgrade_eq (s : TranscriptSegment R) : downgradeSegmentToV1 s.toPublicDict.toDict = .ok
    [("schema_version", str "1.0"),
      ("session_id", str s.sessionId),
      ("start_ms", num (s.startMs : WithBot R)),
      ("end_ms", num (s.endMs : WithBot R)),
      ("text", str s.text),
      ("speaker_id", str s.speakerId),
      ("speaker_label",
        str (if s.speakerLabel = "" then s.sessionSpeakerId else s.speakerLabel)),
      ("is_overlap", .bool s.isOverlap),
      ("is_final", .bool s.isFinal)] := by
  have hlabel : s.toPublicDict.toDict.lookup "speaker_label" = some (str s.speakerLabel) := rfl
  unfold downgradeSegmentToV1
  rw [hlabel]
  by_cases hempty : s.speakerLabel = ""
  · rw [if_pos hempty, hempty]
    rfl
  · have htruthy : (some (str s.speakerLabel : Document R)).filter jsonTruthy
        = some (str s.speakerLabel) := by
      simp [Option.filter, jsonTruthy, hempty]
    rw [if_neg hempty, htruthy]
    rfl

/-- **A publishable segment conforms to the older version, too.** -/
theorem downgrade_conforms [IsStrictOrderedRing R] {s : TranscriptSegment R} (h : s.Publishable) :
    ∃ v1, downgradeSegmentToV1 s.toPublicDict.toDict = .ok v1
      ∧ obj v1 ∈ SEGMENT_V1_SCHEMA R := by
  have hend : 1 ≤ s.endMs := (Nat.zero_le _).trans_lt s.valid.interval
  have hstrings : ∀ x : String, (str x : Document R) ∈ type [.string] := fun x => by simp [kind]
  have hbools : ∀ b : Bool, (.bool b : Document R) ∈ type [.boolean] := fun b => by simp [kind]
  refine ⟨_, downgrade_eq s, ⟨by simp [kind], ?_⟩, (obj_mem_properties_iff rfl ?_).mpr ?_⟩
  · rw [obj_mem_required]
    show ["schema_version", "start_ms", "end_ms", "text", "speaker_id", "speaker_label"]
      ⊆ ["schema_version", "session_id", "start_ms", "end_ms", "text", "speaker_id",
        "speaker_label", "is_overlap", "is_final"]
    decide
  · show ["schema_version", "session_id", "start_ms", "end_ms", "text", "speaker_id",
      "speaker_label", "is_overlap", "is_final"].Nodup
    decide
  · simp only [List.forall₂_cons, List.Forall₂.nil, mem_const, natCast_mem_nonneg,
      natCast_mem_positive, str_mem_nonempty, hstrings, hbools, hend, and_true, true_and]
    exact h.speaker

end Downgrade

end Sastt
