import Sastt.Api.AudioSocket
import Sastt.Api.CreateJob
import Sastt.Application.SessionResult
import Sastt.Domain.Rendering
import Sastt.Lib.Pairs

/-!
# Realtime sessions over the API

A session is created for a tenant and kept under its id. Whoever sends audio,
connects, closes it or asks for its result gives the id, and nothing else: none
of these handlers looks at the tenant of the session, nor at that of the
request.
-/

namespace Sastt

open Method

variable {R V S : Type} [Field R] [LinearOrder R] [IsStrictOrderedRing R] [AddCommGroup V]
  [Module R V] [EmbeddingSpace R V]

/-- **A session of the API**: its tenant, what it was created with, and its
sockets. -/
structure ApiSession (R V : Type) [Field R] [LinearOrder R] [IsStrictOrderedRing R]
    [AddCommGroup V] [Module R V] [EmbeddingSpace R V] where
  tenantId : String
  context : StreamingContext R
  streams : SessionSockets R V

/-- The sessions by their ids. -/
abbrev Sessions (R V : Type) [Field R] [LinearOrder R] [IsStrictOrderedRing R]
    [AddCommGroup V] [Module R V] [EmbeddingSpace R V] : Type := String → Option (ApiSession R V)

/-- What sessions run on. -/
structure SessionServices (R : Type) [Field R] [LinearOrder R] [IsStrictOrderedRing R] where
  config : SasttConfig R
  linearSumAssignment : AssignmentRule R
  calibrator : ConfidenceCalibrator R
  /-- The versions of the adapters for a scenario. -/
  modelVersions : String → ModelVersions
  embeddingModelVersion : String → String
  python : Interpreter

/-- What `POST /v1/sessions` returns. -/
structure SessionView where
  sessionId : String
  engine : String
  websocketUrl : String
  sampleRate : ℕ
  frameMs : ℕ
  configVersion : String
deriving DecidableEq, Repr

/-- What `GET /v1/sessions/{id}/result` returns. -/
structure SessionResultView (R : Type) where
  sessionId : String
  schemaVersion : String
  segments : List (PublicSegment R)
  text : String

/-- What is sent over a socket. -/
inductive SocketReply (R : Type) [Field R] [LinearOrder R] [IsStrictOrderedRing R]
  /-- `{"type": "session.failed", "payload": {"error_code": "UNKNOWN_SESSION"}}`. -/
  | unknownSession
  | outcome (outcome : AudioSocket.Outcome R)

namespace SessionServices

variable (sessions : SessionServices R) (services : ApiServices S R)

/-- `create_session`, with the id that would be drawn and what the session will
draw. -/
def createSession (tenantId : String) (payload : String → JsonValue) (newId : String)
    (supply : Supply) : Method PyError (Sessions R V) SessionView := do
  let scenario := payload "scenario"
  let scenarioName := if scenario.truthy then scenario.toStr else "s02_two_speaker_overlap"
  let _ ← .ofExcept (services.loadScenario scenarioName)
  let _ ← .ofExcept (services.adaptersFor (some scenarioName))
  let sessionId := "ses_" ++ newId
  let context : StreamingContext R := {
    pipeline := {
      config := sessions.config
      linearSumAssignment := sessions.linearSumAssignment
      allowProvisionalContinuity := false }
    sessionId
    calibrator := sessions.calibrator
    supply
    configVersion := services.configVersion }
  let session : SpooledSession R V := .new context true (sessions.modelVersions scenarioName)
    (sessions.embeddingModelVersion scenarioName)
  .modify fun known =>
    Function.update known sessionId (some { tenantId, context, streams := { session } })
  return {
    sessionId
    engine := services.engineName
    websocketUrl := "/v1/sessions/" ++ sessionId ++ "/audio"
    sampleRate := CANONICAL_SAMPLE_RATE
    frameMs := sessions.config.streaming.frameMs
    configVersion := services.configVersion }

/-- What is done with a session, if it is known. -/
def onSession {α : Type} (sessionId : String) (unknown : Except PyError α)
    (m : StreamingContext R → SessionSockets R V → Except PyError α × SessionSockets R V) :
    Method PyError (Sessions R V) α := fun known =>
  match known sessionId with
  | none => (unknown, known)
  | some session =>
    let r := m session.context session.streams
    (r.1, Function.update known sessionId (some { session with streams := r.2 }))

/-- `_session`, where it raises. -/
def unknownSession {α : Type} (sessionId : String) : Except PyError α :=
  .error (.http 404 ("unknown session " ++ sessionId))

/-- `finalize_session`. -/
def finalizeSession (sessionId : String) (models : RollingModels R V ℚ)
    (offline : Wav → Except PyError (OfflineResult R)) :
    Method PyError (Sessions R V) (List (ServerEvent (EventPayload R))) :=
  onSession sessionId (unknownSession sessionId) (fun c w =>
    let r := SpooledSession.finalize c models offline w.session
    (r.1, { w with session := r.2 }))

/-- `session_result`. -/
def sessionResult (sessionId : String) : Method PyError (Sessions R V) (SessionResultView R) :=
  onSession sessionId (unknownSession sessionId) (fun _ w =>
    (w.session.toStreamingSession.result.map (fun segments => {
      sessionId
      schemaVersion := "2.0"
      segments := segments.map TranscriptSegment.toPublicDict
      text := renderTranscript segments }), w))

/-- `audio_socket`, when a client connects. -/
def connect (sessionId : String) (socket : ℕ) :
    Method PyError (Sessions R V) (SocketReply R) :=
  onSession sessionId (.ok .unknownSession) (fun c w =>
    (.ok (.outcome (w.handle sessions.python c (.connect socket)).1),
      w.step sessions.python c (.connect socket)))

/-- `audio_socket`, when a client that is connected sends something. -/
def receive (sessionId : String) (socket : ℕ) (message : SocketMessage)
    (models : RollingModels R V ℚ) (offline : Wav → Except PyError (OfflineResult R)) :
    Method PyError (Sessions R V) (SocketReply R) :=
  onSession sessionId (.ok (.outcome {})) (fun c w =>
    (.ok (.outcome (w.handle sessions.python c (.receive socket message models offline)).1),
      w.step sessions.python c (.receive socket message models offline)))

end SessionServices

/-- **A request about sessions**, with what would be drawn for it, and how the
models behave while it is handled. -/
inductive SessionsRequest (R V : Type) [Field R] [LinearOrder R] [IsStrictOrderedRing R]
    [AddCommGroup V] [Module R V] [EmbeddingSpace R V]
  | create (payload : String → JsonValue) (newId : String) (supply : Supply)
  | connect (sessionId : String) (socket : ℕ)
  | receive (sessionId : String) (socket : ℕ) (message : SocketMessage)
      (models : RollingModels R V ℚ) (offline : Wav → Except PyError (OfflineResult R))
  | finalize (sessionId : String) (models : RollingModels R V ℚ)
      (offline : Wav → Except PyError (OfflineResult R))
  | result (sessionId : String)

/-- What it is answered. -/
inductive SessionsAnswer (R : Type) [Field R] [LinearOrder R] [IsStrictOrderedRing R]
  | session (view : SessionView)
  | socket (reply : SocketReply R)
  | events (events : List (ServerEvent (EventPayload R)))
  | transcript (view : SessionResultView R)

/-- The id of the session it is about, if there is to be one already. -/
def SessionsRequest.usedId : SessionsRequest R V → Option String
  | .create _ _ _ => none
  | .connect sessionId _ | .receive sessionId _ _ _ _ | .finalize sessionId _ _
  | .result sessionId => some sessionId

/-- The id of the session it creates, if it creates one. -/
def SessionsRequest.newId : SessionsRequest R V → Option String
  | .create _ newId _ => some ("ses_" ++ newId)
  | _ => none

/-- Handling a request. Only creating a session takes the tenant. -/
def SessionServices.handle (sessions : SessionServices R) (services : ApiServices S R)
    (tenantId : String) :
    SessionsRequest R V → Method PyError (Sessions R V) (SessionsAnswer R)
  | .create payload newId supply =>
    return .session (← sessions.createSession services tenantId payload newId supply)
  | .connect sessionId socket => return .socket (← sessions.connect sessionId socket)
  | .receive sessionId socket message models offline =>
    return .socket (← sessions.receive sessionId socket message models offline)
  | .finalize sessionId models offline =>
    return .events (← finalizeSession sessionId models offline)
  | .result sessionId => return .transcript (← sessionResult sessionId)

/-! ## Whose session it is -/

/-- **The session is not another tenant's**: it is unknown, or the tenant's. -/
def OwnSession (B sessionId : String) (known : Sessions R V) : Prop :=
  ∀ session ∈ known sessionId, session.tenantId = B

instance {B sessionId : String} {known : Sessions R V} : Decidable (OwnSession B sessionId known) :=
  inferInstanceAs (Decidable (∀ session ∈ known sessionId, session.tenantId = B))

/-- **The tenant's sessions are the same in both**, the second of which knows no
others. -/
def SeenSessions (B : String) (known known' : Sessions R V) : Prop :=
  ∀ id, known' id = (known id).filter (fun session => session.tenantId = B)

section Seen

variable {B sessionId : String} {known known' : Sessions R V} {α : Type}
  {unknown : Except PyError α}
  {m : StreamingContext R → SessionSockets R V → Except PyError α × SessionSockets R V}

theorem onSession_of_none (h : known sessionId = none) :
    SessionServices.onSession sessionId unknown m known = (unknown, known) := by
  unfold SessionServices.onSession
  rw [h]

theorem onSession_of_some {session : ApiSession R V} (h : known sessionId = some session) :
    SessionServices.onSession sessionId unknown m known
      = ((m session.context session.streams).1, Function.update known sessionId
        (some { session with streams := (m session.context session.streams).2 })) := by
  unfold SessionServices.onSession
  rw [h]

/-- A session of the tenant is kept in both. -/
theorem SeenSessions.update (h : SeenSessions B known known') (sessionId : String)
    {session : ApiSession R V} (hB : session.tenantId = B) :
    SeenSessions B (Function.update known sessionId (some session))
      (Function.update known' sessionId (some session)) := by
  intro id
  by_cases hid : id = sessionId
  · rw [hid, Function.update_self, Function.update_self, Option.filter_some,
      if_pos (by simpa using hB)]
  · rw [Function.update_of_ne hid, Function.update_of_ne hid]
    exact h id

/-- One of another tenant is kept, where the tenant has none. -/
theorem SeenSessions.update_of_ne (h : SeenSessions B known known') {session : ApiSession R V}
    (hB : session.tenantId ≠ B) (hnone : known' sessionId = none) :
    SeenSessions B (Function.update known sessionId (some session)) known' := by
  intro id
  by_cases hid : id = sessionId
  · rw [hid, hnone, Function.update_self, Option.filter_some, if_neg (by simpa using hB)]
  · rw [Function.update_of_ne hid]
    exact h id

/-- **A session of the tenant is used in both**, or is unknown in both. -/
theorem agreeAt_onSession (h : SeenSessions B known known') (hown : OwnSession B sessionId known) :
    AgreeAt (SeenSessions B) (fun _ => True) (SessionServices.onSession sessionId unknown m)
      (SessionServices.onSession sessionId unknown m) known known' := by
  cases hsession : known sessionId with
  | none =>
    have hnone : known' sessionId = none := by rw [h, hsession]; rfl
    rcases unknown with e | a
    · exact (agree_throw e known known' h).congr (onSession_of_none hsession)
        (onSession_of_none hnone)
    · exact (agree_pure trivial known known' h).congr (onSession_of_none hsession)
        (onSession_of_none hnone)
  | some session =>
    have hB : session.tenantId = B := hown session hsession
    have hsame : known' sessionId = some session := by
      rw [h, hsession, Option.filter_some, if_pos (by simpa using hB)]
    refine ⟨?_, ?_, fun _ _ => trivial⟩
    · rw [onSession_of_some hsession, onSession_of_some hsame]
    · rw [onSession_of_some hsession, onSession_of_some hsame]
      exact h.update sessionId hB

/-! ## Creating a session -/

variable {sessions : SessionServices R} {services : ApiServices S R} {newId : String}

/-- **A session is created in both.** -/
theorem agree_createSession (payload : String → JsonValue) (supply : Supply) :
    Agree (SeenSessions (R := R) (V := V) B) (fun _ => True)
      (sessions.createSession services B payload newId supply)
      (sessions.createSession services B payload newId supply) := by
  unfold SessionServices.createSession
  refine agree_bind (agree_ofExcept (fun _ _ => trivial)) (fun _ _ =>
    agree_bind (agree_ofExcept (fun _ _ => trivial)) (fun _ _ =>
    agree_bind (agree_modify (fun known known' h => ?_)) (fun _ _ => agree_pure trivial)))
  exact h.update _ rfl

/-! ## Requests -/

/-- **A request of the tenant is answered the same in both**, if the session it
uses is not another's. -/
theorem agreeAt_handleSessions {r : SessionsRequest R V} (h : SeenSessions B known known')
    (hown : ∀ id ∈ r.usedId, OwnSession B id known) :
    AgreeAt (SeenSessions B) (fun _ => True) (sessions.handle services B r)
      (sessions.handle services B r) known known' := by
  cases r with
  | create payload newId supply =>
    exact (agree_createSession payload supply known known' h).bind
      (fun _ _ => agree_pure trivial)
  | connect id socket =>
    exact (agreeAt_onSession h (hown id rfl)).bind (fun _ _ => agree_pure trivial)
  | receive id socket message models offline =>
    exact (agreeAt_onSession h (hown id rfl)).bind (fun _ _ => agree_pure trivial)
  | finalize id models offline =>
    exact (agreeAt_onSession h (hown id rfl)).bind (fun _ _ => agree_pure trivial)
  | result id => exact (agreeAt_onSession h (hown id rfl)).bind (fun _ _ => agree_pure trivial)

/-! ## What a request leaves -/

/-- **The sessions after a request**: nothing changed, or the tenant has a session
under the id that was drawn, or the session that was used went on. -/
inductive SessionsStep (tenantId : String) (r : SessionsRequest R V) (known : Sessions R V) :
    Sessions R V → Prop
  | same : SessionsStep tenantId r known known
  | created (id : String) (session : ApiSession R V) (drawn : id ∈ r.newId)
      (owner : session.tenantId = tenantId) :
      SessionsStep tenantId r known (Function.update known id (some session))
  | used (id : String) (session : ApiSession R V) (streams : SessionSockets R V)
      (given : id ∈ r.usedId) (found : known id = some session) :
      SessionsStep tenantId r known
        (Function.update known id (some { session with streams := streams }))

theorem createSession_step (payload : String → JsonValue) (supply : Supply) (tenantId : String)
    (known : Sessions R V) :
    SessionsStep tenantId (.create payload newId supply) known
      (sessions.createSession services tenantId payload newId supply known).2 := by
  unfold SessionServices.createSession
  dsimp only
  cases services.loadScenario (if (payload "scenario").truthy = true then
    (payload "scenario").toStr else "s02_two_speaker_overlap") with
  | error e => exact .same
  | ok audio =>
    rw [ofExcept_ok_bind]
    cases services.adaptersFor (some (if (payload "scenario").truthy = true then
      (payload "scenario").toStr else "s02_two_speaker_overlap")) with
    | error e => exact .same
    | ok adapters => exact .created _ _ rfl rfl

theorem onSession_step {tenantId : String} {r : SessionsRequest R V} (hr : sessionId ∈ r.usedId)
    (known : Sessions R V) :
    SessionsStep tenantId r known (SessionServices.onSession sessionId unknown m known).2 := by
  cases hsession : known sessionId with
  | none =>
    rw [onSession_of_none hsession]
    exact .same
  | some session =>
    rw [onSession_of_some hsession]
    exact .used sessionId session _ hr hsession

/-- **What a request leaves.** -/
theorem handleSessions_step (r : SessionsRequest R V) (tenantId : String)
    (known : Sessions R V) :
    SessionsStep tenantId r known (sessions.handle services tenantId r known).2 := by
  cases r with
  | create payload newId supply =>
    exact (bind_pure_snd _ known).symm ▸ createSession_step payload supply tenantId known
  | connect id socket => exact (bind_pure_snd _ known).symm ▸ onSession_step rfl known
  | receive id socket message models offline =>
    exact (bind_pure_snd _ known).symm ▸ onSession_step rfl known
  | finalize id models offline => exact (bind_pure_snd _ known).symm ▸ onSession_step rfl known
  | result id => exact (bind_pure_snd _ known).symm ▸ onSession_step rfl known

/-- **A request of another tenant is not seen**, if it uses no session of the
tenant and takes a new id. -/
theorem SeenSessions.step_of_ne {r : SessionsRequest R V} {next : Sessions R V} {A : String}
    (h : SeenSessions B known known') (hstep : SessionsStep A r known next) (hne : A ≠ B)
    (hown : ∀ id ∈ r.usedId, OwnSession A id known)
    (hfresh : ∀ id ∈ r.newId, known id = none) : SeenSessions B next known' := by
  cases hstep with
  | same => exact h
  | created id session drawn owner =>
    refine h.update_of_ne (fun hB => hne (owner.symm.trans hB)) ?_
    rw [h, hfresh id drawn]
    rfl
  | used id session streams given found =>
    have hA : session.tenantId ≠ B := fun hB => hne ((hown id given session found).symm.trans hB)
    refine h.update_of_ne hA ?_
    rw [h, found, Option.filter_some, if_neg (by simpa using hA)]

/-- A session that is known was known, or has the id that was drawn. -/
theorem SessionsStep.was_known {r : SessionsRequest R V} {next : Sessions R V}
    {tenantId id : String} (hstep : SessionsStep tenantId r known next) (h : next id ≠ none) :
    known id ≠ none ∨ id ∈ r.newId := by
  cases hstep with
  | same => exact .inl h
  | created drawnId session drawn owner =>
    by_cases hid : id = drawnId
    · exact .inr (hid ▸ drawn)
    · rw [Function.update_of_ne hid] at h
      exact .inl h
  | used usedId session streams given found =>
    by_cases hid : id = usedId
    · rw [hid, found]
      exact .inl nofun
    · rw [Function.update_of_ne hid] at h
      exact .inl h

end Seen

end Sastt
