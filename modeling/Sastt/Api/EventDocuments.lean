import Sastt.Adapters.EventStores
import Sastt.Api.Schemas
import Sastt.Application.StreamingFinal

/-!
# The documents of events

An event goes to the client as a document with an envelope, which is the same for all types,
and a payload. Events have a schema of their own, and nothing in the code checks one against
the other.

Of the envelope, the schema asks what nothing but a run can give: that the ids are there and
that the numbers count from one (`obj_mem_serverEventSchema_iff`). Of the payload it asks no
more than that it is an object. What a payload is made of depends on the type of the event
(`CarriesItsType`); that of a transcript is a segment, for which there is another schema.
-/

namespace Sastt

open Json JsonSchema

section Documents

variable {R : Type}

/-- What an event carries, as the dictionary that is handed to the log. -/
def EventPayload.toDict [NatCast R] : EventPayload R → List (String × Document R)
  | .segment seg => seg.toDict
  | .labelChange change =>
    [("session_speaker_id", str change.sessionSpeakerId),
      ("previous_label", str change.previousLabel),
      ("speaker_label", str change.newLabel),
      ("reason", str change.reason)]
  | .warnings texts degradedMode =>
    [("warnings", arr (texts.map str)), ("degraded_mode", .bool degradedMode)]
  | .failure errorCode message => [("error_code", str errorCode), ("message", str message)]

/-- `ServerEvent.to_dict`. The events that open and close a session count what there is to be
counted, in a dictionary `edge`. -/
def ServerEvent.toDict [NatCast R] (edge : List (String × Document R))
    (e : ServerEvent (EventPayload R)) : List (String × Document R) :=
  [("event_id", str e.eventId),
    ("session_id", str e.sessionId),
    ("sequence_number", num (e.sequenceNumber : WithBot R)),
    ("type", str e.eventType.value),
    ("server_time_ms", num (e.serverTimeMs : WithBot R)),
    ("revision", num (e.revision : WithBot R)),
    ("supersedes_event_id", ofOption str e.supersedesEventId),
    ("is_final", .bool e.isFinal),
    ("payload", obj (e.payload.elim edge EventPayload.toDict)),
    ("model_versions", obj (e.modelVersions.elim [] ModelVersions.toDict)),
    ("config_version", ofOption str e.configVersion)]

end Documents

section Schemas

variable (R : Type) [Field R] [LinearOrder R]

/-- The `properties` of an event. -/
def SERVER_EVENT_V2_PROPERTIES : List (String × DocumentSchema R) :=
  [("event_id", type [.string] ∩ minLength 1),
    ("session_id", type [.string] ∩ minLength 1),
    ("sequence_number", type [.integer] ∩ minimum 1),
    ("type", enum [str "session.started", str "transcript.provisional",
      str "transcript.revision", str "transcript.final", str "pipeline.warning",
      str "session.finalized", str "session.failed"]),
    ("server_time_ms", type [.integer] ∩ minimum 0),
    ("revision", type [.integer] ∩ minimum 1),
    ("supersedes_event_id", type [.string, .null]),
    ("is_final", type [.boolean]),
    ("payload", type [.object]),
    ("model_versions", type [.object]),
    ("config_version", type [.string, .null])]

/-- **`SERVER_EVENT_V2_SCHEMA`.** -/
def SERVER_EVENT_V2_SCHEMA : DocumentSchema R :=
  type [.object]
    ∩ required ["event_id", "session_id", "sequence_number", "type", "server_time_ms",
      "revision", "is_final"]
    ∩ properties (SERVER_EVENT_V2_PROPERTIES R)

end Schemas

variable {R : Type} [Field R] [LinearOrder R]

/-- **What the schema of events asks for.** -/
structure ServerEvent.Numbered {P : Type} (e : ServerEvent P) : Prop where
  id : e.eventId ≠ ""
  session : e.sessionId ≠ ""
  sequenceNumber : 1 ≤ e.sequenceNumber
  revision : 1 ≤ e.revision

/-- An envelope conforms if its ids are there and its numbers count from one. -/
theorem obj_mem_serverEventSchema_iff [IsStrictOrderedRing R] (edge : List (String × Document R))
    (e : ServerEvent (EventPayload R)) :
    obj (e.toDict edge) ∈ SERVER_EVENT_V2_SCHEMA R ↔ e.Numbered := by
  have hnames : (e.toDict edge).map Prod.fst = (SERVER_EVENT_V2_PROPERTIES R).map Prod.fst := rfl
  have hnodup : ((SERVER_EVENT_V2_PROPERTIES R).map Prod.fst).Nodup := by
    have hrational : ((SERVER_EVENT_V2_PROPERTIES ℚ).map Prod.fst).Nodup := by decide +kernel
    exact hrational
  have hrequired : obj (e.toDict edge) ∈ required ["event_id", "session_id", "sequence_number",
      "type", "server_time_ms", "revision", "is_final"] := by
    rw [obj_mem_required]
    show _ ⊆ ["event_id", "session_id", "sequence_number", "type", "server_time_ms", "revision",
      "supersedes_event_id", "is_final", "payload", "model_versions", "config_version"]
    decide
  have htype : (str e.eventType.value : Document R) ∈ enum [str "session.started",
      str "transcript.provisional", str "transcript.revision", str "transcript.final",
      str "pipeline.warning", str "session.finalized", str "session.failed"] := by
    cases e.eventType <;> simp [EventType.value]
  have hobject : ∀ fields : List (String × Document R),
      (obj fields : Document R) ∈ type [.object] := fun fields => by simp [kind]
  have hbool : (.bool e.isFinal : Document R) ∈ type [.boolean] := by simp [kind]
  rw [SERVER_EVENT_V2_SCHEMA, Set.mem_inter_iff, and_iff_right ⟨hobject _, hrequired⟩,
    obj_mem_properties_iff hnames hnodup]
  simp only [hobject, true_and, ServerEvent.toDict, SERVER_EVENT_V2_PROPERTIES,
    List.forall₂_cons, List.Forall₂.nil, str_mem_nonempty, natCast_mem_positive,
    natCast_mem_nonneg, ofOption_str_mem_type, htype, hbool, and_true]
  constructor
  · rintro ⟨hid, hsession, hnumber, hrevision⟩
    exact ⟨hid, hsession, hnumber, hrevision⟩
  · intro h
    exact ⟨h.id, h.session, h.sequenceNumber, h.revision⟩

/-! ## Payloads -/

/-- **A payload that is a segment**, of a transcript that is final or is not. -/
structure CarriesTranscript (payload : Option (EventPayload R)) (isFinal : Bool) : Prop where
  exists_segment : ∃ seg : TranscriptSegment R, payload = some (.segment seg.toPublicDict)
    ∧ seg.Publishable ∧ seg.isFinal = isFinal

/-- **What an event carries is what its type says.** Only a final transcript is marked as
final, and only it can have a provisional one to replace. -/
def CarriesItsType (eventType : EventType) (payload : Option (EventPayload R)) (isFinal : Bool)
    (supersedesEventId : Option String) : Prop :=
  match eventType with
  | .transcriptFinal => CarriesTranscript payload true ∧ isFinal = true
  | .transcriptProvisional =>
    CarriesTranscript payload false ∧ isFinal = false ∧ supersedesEventId = none
  | .transcriptRevision => (∃ change, payload = some (.labelChange change))
    ∧ isFinal = false ∧ supersedesEventId = none
  | .pipelineWarning => (∃ warnings degradedMode, warnings ≠ []
      ∧ payload = some (.warnings warnings degradedMode))
    ∧ isFinal = false ∧ supersedesEventId = none
  | .sessionFailed => (∃ errorCode message, payload = some (.failure errorCode message))
    ∧ isFinal = false ∧ supersedesEventId = none
  | .sessionStarted | .sessionFinalized =>
    payload = none ∧ isFinal = false ∧ supersedesEventId = none

/-- Whatever the type, a segment that is carried is one that can be published. -/
theorem CarriesItsType.exists_publishable {eventType : EventType}
    {payload : Option (EventPayload R)} {isFinal : Bool} {supersedesEventId : Option String}
    (h : CarriesItsType eventType payload isFinal supersedesEventId) {segment : PublicSegment R}
    (hsegment : payload = some (.segment segment)) :
    ∃ seg : TranscriptSegment R, segment = seg.toPublicDict ∧ seg.Publishable := by
  subst hsegment
  have htranscript : ∀ final, CarriesTranscript (some (.segment segment)) final →
      ∃ seg : TranscriptSegment R, segment = seg.toPublicDict ∧ seg.Publishable := by
    rintro final ⟨seg, hseg, hpublishable, -⟩
    cases hseg
    exact ⟨seg, rfl, hpublishable⟩
  cases eventType with
  | transcriptProvisional => exact htranscript false h.1
  | transcriptFinal => exact htranscript true h.1
  | transcriptRevision => exact (h.1.elim fun _ heq => nomatch heq)
  | pipelineWarning => exact (h.1.elim fun _ hrest => hrest.elim fun _ heq => nomatch heq.2)
  | sessionFailed => exact (h.1.elim fun _ hrest => hrest.elim fun _ heq => nomatch heq)
  | sessionStarted => exact nomatch h.1
  | sessionFinalized => exact nomatch h.1

/-- **An event that can be shown** to the client of a session. -/
structure Presentable (sessionId : String) (e : ServerEvent (EventPayload R)) : Prop
    extends e.Numbered where
  ofSession : e.sessionId = sessionId
  carries : CarriesItsType e.eventType e.payload e.isFinal e.supersedesEventId

end Sastt
