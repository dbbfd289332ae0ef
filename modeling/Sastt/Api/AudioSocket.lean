import Mathlib.Data.Finset.Insert
import Mathlib.Data.Rat.Floor
import Sastt.Application.SentEvents

/-!
# The audio socket

A client of a session sends audio and control messages over a socket, and is
sent events. Several clients may be connected to one session, which may be
closed over HTTP at the same time; each message is handled in one piece.

Whatever a message makes the session raise ends in one of two ways. A
`SasttError` is reported to the client by a message that is written by hand:
it is no event of the log, has no number, and is not replayed. Any other
exception leaves the handler, and the client hears nothing. There is no third
way, since nothing calls `fail`, which would write to the log. So a message is
survived exactly if nothing is raised (`survives_iff_goes`), and much is raised
by what a client sends: audio after the end, half a sample, a control message
that is not an object, and a resume from what is no number or is out of range.
-/

namespace Sastt

open Method

/-! ## Control messages -/

/-- **What `json.loads` returns.** A dictionary has each of its keys once. -/
inductive DecodedJson
  | none
  | bool (value : Bool)
  | int (value : ℤ)
  /-- A number with a fraction or an exponent, by its value. -/
  | float (value : ℚ)
  | infinity (negative : Bool)
  | nan
  | str (value : String)
  | list (items : List DecodedJson)
  | dict (entries : List (String × DecodedJson))

namespace DecodedJson

/-- The name of the type. -/
def typeName : DecodedJson → String
  | none => "NoneType"
  | bool _ => "bool"
  | int _ => "int"
  | float _ | infinity _ | nan => "float"
  | str _ => "str"
  | list _ => "list"
  | dict _ => "dict"

/-- Whether a condition on the value holds. -/
def truthy : DecodedJson → Bool
  | none => false
  | bool b => b
  | int n => n ≠ 0
  | float q => q ≠ 0
  | infinity _ | nan => true
  | str s => s ≠ ""
  | list items => !items.isEmpty
  | dict entries => !entries.isEmpty

/-- `message.get`. Only a dictionary has it. -/
def get (key : String) : DecodedJson → Except PyError DecodedJson
  | dict entries => .ok ((entries.lookup key).getD none)
  | value =>
    .error (.other ("\x27" ++ value.typeName ++ "\x27 object has no attribute \x27get\x27"))

end DecodedJson

/-- **How the interpreter reads texts.** Both functions may raise, `loads` also
when it runs out of stack and `int` also when a text has too many digits. -/
structure Interpreter where
  loads : String → Except PyError DecodedJson
  intOfStr : String → Except PyError ℤ

/-- `int`, which cuts off a fraction. -/
def Interpreter.int (python : Interpreter) : DecodedJson → Except PyError ℤ
  | .bool b => .ok (if b then 1 else 0)
  | .int n => .ok n
  | .float q => .ok (if 0 ≤ q then ⌊q⌋ else ⌈q⌉)
  | .infinity _ => .error (.other "cannot convert float infinity to integer")
  | .nan => .error (.valueError "cannot convert float NaN to integer")
  | .str s => python.intOfStr s
  | value => .error (.other ("int() argument must be a string, a bytes-like object or a real "
      ++ "number, not \x27" ++ value.typeName ++ "\x27"))

/-- `except ValueError`. -/
def PyError.isValueError : PyError → Bool
  | .valueError _ => true
  | _ => false

/-- A message of the client, as the web framework hands it over. -/
inductive SocketMessage
  | disconnect
  | bytes (payload : List UInt8)
  | text (text : String)
  /-- Neither bytes nor a text. -/
  | empty

section

variable {R V : Type} [Field R] [LinearOrder R] [IsStrictOrderedRing R] [AddCommGroup V]
  [Module R V] [EmbeddingSpace R V]

namespace AudioSocket

variable (python : Interpreter) (c : StreamingContext R)

/-- The number a client asks to be resumed from:
`int(message.get("last_sequence_number") or 0)`. -/
def lastSequenceNumber (message : DecodedJson) : Except PyError ℤ := do
  let asked ← message.get "last_sequence_number"
  python.int (if asked.truthy then asked else .int 0)

/-- `_handle_control`, with what it sends. -/
def handleControl (models : RollingModels R V ℚ)
    (offline : Wav → Except PyError (OfflineResult R)) (text : String) :
    Method PyError (SpooledSession R V) (List (ServerEvent (EventPayload R))) :=
  match python.loads text with
  | .error e => if e.isValueError then return [] else .throw e
  | .ok message => do
    let kind ← .ofExcept (message.get "type")
    match kind with
    | .str "finalize" => SpooledSession.finalize c models offline
    | .str "resume" => do
      let last ← .ofExcept (lastSequenceNumber python message)
      SpooledSession.onRolling (RollingSession.replay last)
    | _ => return []

/-- `_is_finalize`. No other value than the text itself is written like that,
and all that `get` raises is caught. -/
def isFinalize (text : String) : Except PyError Bool :=
  match python.loads text with
  | .error e => if e.isValueError then .ok false else .error e
  | .ok message =>
    match message.get "type" with
    | .ok (.str "finalize") => .ok true
    | _ => .ok false

/-- What is done when a client connects. -/
def onConnect :
    Method PyError (SpooledSession R V) (List (ServerEvent (EventPayload R)) × Bool) := do
  let s ← .read
  if s.log.events.isEmpty then
    let event ← SpooledSession.onRolling (RollingSession.start c)
    return ([event], true)
  else return ([], true)

/-- One turn of the loop: what is sent, and whether the loop goes on. -/
def onMessage (models : RollingModels R V ℚ) (offline : Wav → Except PyError (OfflineResult R)) :
    SocketMessage →
      Method PyError (SpooledSession R V) (List (ServerEvent (EventPayload R)) × Bool)
  | .disconnect => return ([], false)
  | .bytes payload => do
    let events ← SpooledSession.push c models payload
    return (events, true)
  | .text text => do
    -- The events are sent before the text is looked at again. That cannot raise
    -- any more, since the text could be read before.
    let events ← handleControl python c models offline text
    let closes ← .ofExcept (isFinalize python text)
    return (events, !closes)
  | .empty => return ([], true)

/-- What the client is sent. -/
inductive Frame (R : Type) [Field R] [LinearOrder R] [IsStrictOrderedRing R]
  | event (event : ServerEvent (EventPayload R))
  /-- `{"type": "session.failed", "payload": exc.to_dict()}`. -/
  | failed (exc : PyError)

/-- Whether a failure is reported. -/
def Frame.ReportsFailure : Frame R → Prop
  | .event e => e.eventType = .sessionFailed
  | .failed _ => True

/-- **What comes of a message.** -/
structure Outcome (R : Type) [Field R] [LinearOrder R] [IsStrictOrderedRing R] where
  frames : List (Frame R) := []
  /-- What leaves the handler. -/
  raised : Option PyError := none
  /-- Whether the socket stays open. -/
  goesOn : Bool := true

/-- The `except` clauses of the handler. -/
def guarded
    (m : Method PyError (SpooledSession R V) (List (ServerEvent (EventPayload R)) × Bool))
    (s : SpooledSession R V) : Outcome R × SpooledSession R V :=
  match m s with
  | (.ok (events, goesOn), t) => ({ frames := events.map .event, goesOn }, t)
  | (.error exc, t) =>
    if exc.isSastt then ({ frames := [.failed exc], goesOn := false }, t)
    else ({ raised := some exc, goesOn := false }, t)

end AudioSocket

/-! ## A session and its sockets -/

variable (R V) in
/-- **A session and the sockets that are connected to it**, by their
numbers. -/
structure SessionSockets where
  session : SpooledSession R V
  sockets : Finset ℕ := ∅

/-- What happens. A message brings along how the models behave while it is
handled. -/
inductive SocketEvent (R V : Type) [Field R] [LinearOrder R] [IsStrictOrderedRing R]
    [AddCommGroup V] [Module R V] [EmbeddingSpace R V] where
  | connect (socket : ℕ)
  | receive (socket : ℕ) (message : SocketMessage) (models : RollingModels R V ℚ)
      (offline : Wav → Except PyError (OfflineResult R))
  /-- Somebody else uses the session, who is told what comes of it. -/
  | elsewhere (command : SpooledSession.Command R V)

namespace SessionSockets

variable (python : Interpreter) (c : StreamingContext R)

/-- **What comes of an event**, and the session after it. -/
def handle (w : SessionSockets R V) : SocketEvent R V →
    AudioSocket.Outcome R × SpooledSession R V
  | .connect _ => AudioSocket.guarded (AudioSocket.onConnect c) w.session
  | .receive socket message models offline =>
    if socket ∈ w.sockets then
      AudioSocket.guarded (AudioSocket.onMessage python c models offline message) w.session
    else ({}, w.session)
  | .elsewhere command => ({}, SpooledSession.step c w.session command)

/-- The sockets after an event. -/
def socketsAfter (goesOn : Bool) (sockets : Finset ℕ) : SocketEvent R V → Finset ℕ
  | .connect socket => if goesOn then insert socket sockets else sockets
  | .receive socket _ _ _ => if goesOn then sockets else sockets.erase socket
  | .elsewhere _ => sockets

/-- **One event.** -/
def step (w : SessionSockets R V) (e : SocketEvent R V) : SessionSockets R V where
  session := (handle python c w e).2
  sockets := socketsAfter (handle python c w e).1.goesOn w.sockets e

end SessionSockets

/-! ## A session that has not started -/

namespace RollingSession

variable {S : Type} {c : StreamingContext R}

/-- The session is not as it was created any more. -/
def Left (s : RollingSession R V S) : Prop := s.stateMachine ≠ .created

omit [AddCommGroup V] [Module R V] [EmbeddingSpace R V] in
theorem yields_left_onStreaming {α : Type} (m : Method PyError (StreamingSession R V) α) :
    Yields Left (fun _ => True) (onStreaming (S := S) m) := yields_of_snd (fun _ hs => hs)

theorem yields_left_process (models : RollingModels R V S) (forceClose : Bool) :
    Yields Left (fun _ => True) (process c models forceClose) :=
  yields_of_snd (fun s hs => by unfold Left; rwa [(talks_process models forceClose s).stateMachine])

/-- **No command leads back to the beginning**: after one that leaves the
session as it was created, all is as before. -/
theorem step_of_created {s : RollingSession R V S} (command : SessionCommand R V S)
    (h : (step c s command).stateMachine = .created) : step c s command = s := by
  cases command with
  | start =>
    replace h : (start c s).2.stateMachine = .created := h
    show (start c s).2 = s
    unfold start at h ⊢
    rw [read_bind] at h ⊢
    split at h
    · next hstarted => rw [if_pos hstarted]; rfl
    · cases h
  | push models frame =>
    replace h : (push c models frame s).2.stateMachine = .created := h
    show (push c models frame s).2 = s
    unfold push at h ⊢
    rw [read_bind] at h ⊢
    split at h
    · next hstopped => rw [if_pos hstopped]; rfl
    · next hstreaming =>
      have hleft : Left (receive c frame s) := fun hcreated =>
        absurd ((not_not.mp hstreaming).symm.trans hcreated) nofun
      rw [modify_bind, read_bind] at h
      split at h
      · exact absurd h ((yields_left_process models false).snd hleft)
      · exact absurd h hleft
  | finalize models secondPass =>
    replace h : (finalize c models secondPass s).2.stateMachine = .created := h
    show (finalize c models secondPass s).2 = s
    unfold finalize at h ⊢
    rw [read_bind] at h ⊢
    split at h
    · next hfinalized => rw [if_pos hfinalized]; rfl
    · rw [modify_bind] at h
      refine absurd h (show Left _ from Yields.snd (A := fun _ => True) ?_ nofun)
      exact yields_bind (yields_left_process models true) (fun events _ =>
        yields_bind (yields_left_onStreaming _) (fun finals _ =>
        yields_bind (yields_modify (fun _ _ => nofun)) (fun _ _ =>
        yields_bind yields_read (fun t _ => yields_bind (yields_left_onStreaming _) (fun last _ =>
        yields_pure trivial)))))
  | fail errorCode message => cases h
  | replay lastSequenceNumber => rfl

end RollingSession

namespace SpooledSession

variable {c : StreamingContext R} {s : SpooledSession R V}

/-- A session that has not started has an empty log. -/
def StartsFresh (s : SpooledSession R V) : Prop := s.stateMachine = .created → s.log.keys = ∅

omit [AddCommGroup V] [Module R V] [EmbeddingSpace R V] in
/-- A method that does not lead back to the beginning. -/
theorem StartsFresh.onRolling (h : StartsFresh s) {α : Type}
    {m : Method PyError (RollingSession R V ℚ) α}
    (hm : (m s.toRollingSession).2.stateMachine = .created →
      (m s.toRollingSession).2 = s.toRollingSession) :
    StartsFresh (onRolling m s).2 := by
  intro hcreated
  show (m s.toRollingSession).2.log.keys = ∅
  have hsame := hm hcreated
  rw [hsame]
  exact h (hsame ▸ hcreated)

theorem StartsFresh.push (h : StartsFresh s) (models : RollingModels R V ℚ)
    (payload : List UInt8) : StartsFresh (push c models payload s).2 := by
  unfold SpooledSession.push
  rw [read_bind]
  split
  · exact h
  · next hstreaming =>
    split
    · exact h
    · rw [modify_bind]
      set t : SpooledSession R V := { s with
        sessionPcm := s.sessionPcm.map (· ++ payload)
        pushed := s.pushed ++ frombuffer payload } with ht
      have hfresh : StartsFresh t := h
      exact hfresh.onRolling (fun hcreated => RollingSession.step_of_created (c := c)
        (.push models ((frombuffer payload).map sampleToFloat)) hcreated)

/-- **Every command keeps the invariant.** -/
theorem StartsFresh.step (h : StartsFresh s) (command : Command R V) :
    StartsFresh (step c s command) := by
  cases command with
  | start => exact h.onRolling (fun hcreated => RollingSession.step_of_created .start hcreated)
  | push models payload => exact h.push models payload
  | finalize models offline =>
    exact h.onRolling (fun hcreated =>
      RollingSession.step_of_created (.finalize models (offline s.finalWav)) hcreated)
  | fail errorCode message =>
    exact h.onRolling (fun hcreated =>
      RollingSession.step_of_created (.fail errorCode message) hcreated)
  | replay lastSequenceNumber => exact h

/-- What holds of every session that was created by `new`. -/
structure Lives (s : SpooledSession R V) : Prop where
  finals : FinalsReport s
  fresh : StartsFresh s

omit [AddCommGroup V] [Module R V] [EmbeddingSpace R V] in
theorem lives_new (keepSessionAudio : Bool) (modelVersions : ModelVersions)
    (embeddingModelVersion : String) :
    Lives (new (V := V) c keepSessionAudio modelVersions embeddingModelVersion) :=
  ⟨finalsReport_new _ _ _, fun _ => rfl⟩

theorem Lives.step (h : Lives s) (command : Command R V) : Lives (step c s command) :=
  ⟨h.finals.step command, h.fresh.step command⟩

end SpooledSession

/-! ## What is survived -/

namespace AudioSocket

variable {python : Interpreter} {c : StreamingContext R} {s : SpooledSession R V}

/-- **The message is survived**: nothing leaves the handler, and a failure that
is reported is an event of the log, one of those before or the next. -/
structure Survives (s t : SpooledSession R V) (o : Outcome R) : Prop where
  raised : o.raised = none
  logged : ∀ frame ∈ o.frames, frame.ReportsFailure →
    ∃ event ∈ t.log.events, frame = .event event
      ∧ (event ∈ s.log.events ∨ event.sequenceNumber = s.log.sequence + 1)

/-- What is sent is no report of a failure, or replayed. -/
def Told (s t : SpooledSession R V) (events : List (ServerEvent (EventPayload R))) : Prop :=
  ∀ e ∈ events, NoFailure e ∨ e ∈ s.log.events ∧ e ∈ t.log.events

omit [AddCommGroup V] [Module R V] [EmbeddingSpace R V] in
theorem told_nil {t : SpooledSession R V} : Told s t [] := fun _ he => absurd he List.not_mem_nil

omit [AddCommGroup V] [Module R V] [EmbeddingSpace R V] in
/-- **Both `except` clauses lose the failure.** -/
theorem survives_guarded_iff
    {m : Method PyError (SpooledSession R V) (List (ServerEvent (EventPayload R)) × Bool)}
    (hm : ∀ events goesOn t, m s = (.ok (events, goesOn), t) → Told s t events) :
    Survives s (guarded m s).2 (guarded m s).1 ↔ (m s).1.isOk = true := by
  unfold guarded
  rcases hms : m s with ⟨exc | ⟨events, goesOn⟩, t⟩
  · dsimp only
    split
    · refine iff_of_false (fun h => ?_) nofun
      obtain ⟨event, -, heq, -⟩ := h.logged (.failed exc) (List.mem_singleton_self _) trivial
      cases heq
    · exact iff_of_false (fun h => nomatch h.raised) nofun
  · refine iff_of_true ⟨rfl, fun frame hframe hfails => ?_⟩ rfl
    obtain ⟨e, he, rfl⟩ := List.mem_map.mp hframe
    rcases hm events goesOn t hms e he with hno | ⟨hs, ht⟩
    · exact absurd hfails hno
    · exact ⟨e, ht, rfl, Or.inl hs⟩

/-! ### Messages -/

/-- Whether the log can be replayed from there. -/
def Retains {P : Type} (log : SessionEventLog P) (last : ℤ) : Prop :=
  0 ≤ last ∧ last ≤ log.sequence
    ∧ ∀ e, log.events.head? = some e → (e.sequenceNumber : ℤ) - 1 ≤ last

theorem replayFrom_isOk_iff {P : Type} (log : SessionEventLog P) (last : ℤ) :
    (log.replayFrom last).isOk = true ↔ Retains log last := by
  unfold SessionEventLog.replayFrom Retains
  split
  · next hneg => exact iff_of_false nofun (fun h => absurd h.1 (not_le.mpr hneg))
  · next hneg =>
    split
    · next hahead => exact iff_of_false nofun (fun h => absurd h.2.1 (not_le.mpr hahead))
    · next hahead =>
      rw [← not_lt, ← not_lt, and_iff_right hneg, and_iff_right hahead]
      split
      · next hgone =>
        obtain ⟨e, he, hlt⟩ := Option.any_eq_true _ _ |>.mp hgone
        exact iff_of_false nofun (fun h => absurd (h e he) (not_le.mpr (of_decide_eq_true hlt)))
      · next hkept =>
        refine iff_of_true rfl (fun e he => not_lt.mp (fun hlt => hkept ?_))
        rw [he]
        exact decide_eq_true hlt

/-- What an object asks of the session: to be closed, if it is not yet, without
failing; or to be replayed from a number the log goes back to. -/
def AdmitsControl (python : Interpreter) (c : StreamingContext R) (s : SpooledSession R V)
    (models : RollingModels R V ℚ) (offline : Wav → Except PyError (OfflineResult R))
    (entries : List (String × DecodedJson)) : Prop :=
  match entries.lookup "type" with
  | some (.str "finalize") =>
    s.isFinalized = true ∨ (SpooledSession.finalize c models offline s).1.isOk = true
  | some (.str "resume") =>
    ∃ last, lastSequenceNumber python (.dict entries) = .ok last ∧ Retains s.log last
  | _ => True

/-- What a text may be: no JSON at all, or an object that the session can
answer. -/
def AdmitsText (python : Interpreter) (c : StreamingContext R) (s : SpooledSession R V)
    (models : RollingModels R V ℚ) (offline : Wav → Except PyError (OfflineResult R))
    (text : String) : Prop :=
  match python.loads text with
  | .error e => e.isValueError = true
  | .ok (.dict entries) => AdmitsControl python c s models offline entries
  | .ok _ => False

/-- What a frame of audio asks of the session: to be streaming; and of the
frame: to be of whole samples. If a rolling step is due, it must not fail. -/
def AdmitsAudio (c : StreamingContext R) (s : SpooledSession R V) (models : RollingModels R V ℚ)
    (payload : List UInt8) : Prop :=
  s.stateMachine = .streaming ∧ payload.length % 2 = 0
    ∧ ((SpooledSession.receive c payload s).isDue c = true →
      (RollingSession.process c models false
        (SpooledSession.receive c payload s).toRollingSession).1.isOk = true)

/-- **What may be sent.** -/
def Admits (python : Interpreter) (c : StreamingContext R) (s : SpooledSession R V)
    (models : RollingModels R V ℚ) (offline : Wav → Except PyError (OfflineResult R)) :
    SocketMessage → Prop
  | .disconnect | .empty => True
  | .bytes payload => AdmitsAudio c s models payload
  | .text text => AdmitsText python c s models offline text

variable {models : RollingModels R V ℚ} {offline : Wav → Except PyError (OfflineResult R)}

theorem push_isOk_iff (payload : List UInt8) :
    (SpooledSession.push c models payload s).1.isOk = true
      ↔ AdmitsAudio c s models payload := by
  unfold SpooledSession.push AdmitsAudio
  rw [read_bind]
  split
  · next hstopped => exact iff_of_false nofun (fun h => hstopped h.1)
  · next hstreaming =>
    rw [and_iff_right (not_not.mp hstreaming)]
    split
    · next hodd => exact iff_of_false nofun (fun h => hodd h.1)
    · next heven =>
      rw [and_iff_right (not_not.mp heven), modify_bind]
      unfold SpooledSession.onRolling zoom RollingSession.push
      dsimp only
      rw [read_bind, if_neg hstreaming, modify_bind, read_bind]
      show (if (SpooledSession.receive c payload s).isDue c = true then _ else _ :
        Method PyError (RollingSession R V ℚ) _) _ |>.1.isOk = true ↔ _
      split
      · next hdue => exact ⟨fun h _ => h, fun h => h hdue⟩
      · next hearly => exact iff_of_true rfl (fun hdue => absurd hdue hearly)

omit [AddCommGroup V] [Module R V] [EmbeddingSpace R V] in
/-- What a resume sends is of the log, which it leaves as it is. -/
theorem replay_cases (last : ℤ) {r : Except PyError (List (ServerEvent (EventPayload R)))}
    {t : SpooledSession R V}
    (h : SpooledSession.onRolling (RollingSession.replay last) s = (r, t)) :
    r = s.log.replayFrom last ∧ t = s := by
  cases h
  exact ⟨rfl, rfl⟩

theorem told_handleControl (h : SpooledSession.FinalsReport s) {text : String}
    {events : List (ServerEvent (EventPayload R))} {t : SpooledSession R V}
    (hok : handleControl python c models offline text s = (.ok events, t)) : Told s t events := by
  unfold handleControl at hok
  rcases hloads : python.loads text with e | message <;> rw [hloads] at hok <;> dsimp only at hok
  · split at hok
    · cases hok
      exact told_nil
    · cases hok
  · obtain ⟨kind, u, hkind, hrest⟩ := bind_eq_ok.mp hok
    obtain ⟨-, rfl⟩ := ofExcept_eq_ok.mp hkind
    split at hrest
    · have hsent := (SpooledSession.sends_finalize models offline).ok h hrest
      exact fun e he => Or.inl (hsent.2 e he)
    · obtain ⟨last, v, hlast, hreplay⟩ := bind_eq_ok.mp hrest
      obtain ⟨-, rfl⟩ := ofExcept_eq_ok.mp hlast
      obtain ⟨hevents, rfl⟩ := replay_cases last hreplay
      have hmem := fun e => SessionEventLog.mem_of_replayFrom (e := e) hevents.symm
      exact fun e he => Or.inr ⟨hmem e he, hmem e he⟩
    · cases hrest
      exact told_nil

theorem told_onMessage (h : SpooledSession.FinalsReport s) {message : SocketMessage}
    {events : List (ServerEvent (EventPayload R))} {goesOn : Bool} {t : SpooledSession R V}
    (hok : onMessage python c models offline message s = (.ok (events, goesOn), t)) :
    Told s t events := by
  cases message with
  | disconnect =>
    cases hok
    exact told_nil
  | bytes payload =>
    obtain ⟨sent, u, hsent, hpure⟩ := bind_eq_ok.mp hok
    cases hpure
    exact fun e he => Or.inl (((SpooledSession.sends_push models payload).ok h hsent).2 e he)
  | text text =>
    obtain ⟨sent, u, hsent, hrest⟩ := bind_eq_ok.mp hok
    obtain ⟨closes, v, hcloses, hpure⟩ := bind_eq_ok.mp hrest
    obtain ⟨-, rfl⟩ := ofExcept_eq_ok.mp hcloses
    cases hpure
    exact told_handleControl h hsent
  | empty =>
    cases hok
    exact told_nil

omit [AddCommGroup V] [Module R V] [EmbeddingSpace R V] in
theorem told_onConnect (h : SpooledSession.FinalsReport s)
    {events : List (ServerEvent (EventPayload R))} {goesOn : Bool} {t : SpooledSession R V}
    (hok : onConnect c s = (.ok (events, goesOn), t)) : Told s t events := by
  unfold onConnect at hok
  rw [read_bind] at hok
  split at hok
  · obtain ⟨event, u, hevent, hpure⟩ := bind_eq_ok.mp hok
    cases hpure
    have hsent := (SpooledSession.yields_onRolling RollingSession.yields_start).ok h hevent
    exact List.forall_mem_singleton.mpr (Or.inl hsent.2)
  · cases hok
    exact told_nil

/-! ### What is not raised -/

/-- A sequence returns when both of its methods do. -/
theorem bind_isOk_iff {ε σ α β : Type} {m : Method ε σ α} {k : α → Method ε σ β} {s : σ} :
    ((m >>= k) s).1.isOk = true ↔ ∃ a t, m s = (.ok a, t) ∧ (k a t).1.isOk = true := by
  constructor
  · intro h
    obtain ⟨b, u, hb⟩ := exists_of_isOk h
    obtain ⟨a, t, hm, hk⟩ := bind_eq_ok.mp hb
    exact ⟨a, t, hm, by rw [hk]; rfl⟩
  · rintro ⟨a, t, hm, hk⟩
    rwa [bind_of_ok hm]

omit [AddCommGroup V] [Module R V] [EmbeddingSpace R V] in
/-- A resume returns when it asks for a number, and for one the log goes back
to. -/
theorem resume_isOk_iff (message : DecodedJson) :
    ((ofExcept (lastSequenceNumber python message) >>= fun last =>
        SpooledSession.onRolling (RollingSession.replay last) :
      Method PyError (SpooledSession R V) (List (ServerEvent (EventPayload R)))) s).1.isOk = true
      ↔ ∃ last, lastSequenceNumber python message = .ok last ∧ Retains s.log last := by
  rw [bind_isOk_iff]
  constructor
  · rintro ⟨last, t, hasked, hreplay⟩
    obtain ⟨hlast, rfl⟩ := ofExcept_eq_ok.mp hasked
    exact ⟨last, hlast, (replayFrom_isOk_iff _ last).mp hreplay⟩
  · rintro ⟨last, hlast, hretains⟩
    exact ⟨last, s, ofExcept_eq_ok.mpr ⟨hlast, rfl⟩, (replayFrom_isOk_iff _ last).mpr hretains⟩

/-- Closing a session that is closed does nothing. -/
theorem finalize_isOk_of_finalized (h : s.isFinalized = true) :
    (SpooledSession.finalize c models offline s).1.isOk = true := by
  have hnothing : RollingSession.finalize c models (offline s.finalWav) s.toRollingSession
      = (.ok [], s.toRollingSession) := by
    unfold RollingSession.finalize
    rw [read_bind, if_pos h]
    rfl
  show (RollingSession.finalize c models (offline s.finalWav) s.toRollingSession).1.isOk = true
  rw [hnothing]
  rfl

theorem handleControl_isOk_iff (text : String) :
    (handleControl python c models offline text s).1.isOk = true
      ↔ AdmitsText python c s models offline text := by
  unfold handleControl AdmitsText
  rcases python.loads text with e | message
  · dsimp only
    split
    · next hvalue => exact iff_of_true rfl hvalue
    · next hother => exact iff_of_false nofun hother
  · cases message with
    | dict entries =>
      show ((ofExcept (.ok ((entries.lookup "type").getD .none)) >>= _ :
        Method PyError (SpooledSession R V) _) s).1.isOk = true
          ↔ AdmitsControl python c s models offline entries
      rw [ofExcept_ok_bind]
      unfold AdmitsControl
      split
      · next hkind =>
        rw [hkind]
        exact ⟨Or.inr, fun h => h.elim finalize_isOk_of_finalized id⟩
      · next hkind =>
        rw [hkind]
        exact resume_isOk_iff _
      · next hfinalize hresume =>
        refine iff_of_true ?_ trivial
        rcases hkind : entries.lookup "type" with _ | kind
        · rfl
        · cases kind with
          | str kind =>
            have hf : kind ≠ "finalize" := fun h => hfinalize (by rw [hkind, h])
            have hr : kind ≠ "resume" := fun h => hresume (by rw [hkind, h])
            simp [hf, hr, Except.isOk, Except.toBool]
          | _ => rfl
    | _ => exact iff_of_false nofun id

/-- What could be read once is looked at again without failing. -/
theorem isFinalize_isOk {text : String}
    (h : (handleControl python c models offline text s).1.isOk = true) :
    ∃ closes, isFinalize python text = .ok closes := by
  unfold handleControl at h
  unfold isFinalize
  rcases hloads : python.loads text with e | message
  · rw [hloads] at h
    dsimp only at h ⊢
    split at h
    · next hvalue => exact ⟨false, if_pos hvalue⟩
    · cases h
  · dsimp only
    split <;> exact ⟨_, rfl⟩

/-- **When a turn of the loop returns.** -/
theorem onMessage_isOk_iff (message : SocketMessage) :
    (onMessage python c models offline message s).1.isOk = true
      ↔ Admits python c s models offline message := by
  cases message with
  | disconnect => exact iff_of_true rfl trivial
  | empty => exact iff_of_true rfl trivial
  | bytes payload =>
    refine Iff.trans ⟨fun h => ?_, fun h => ?_⟩ (push_isOk_iff payload)
    · obtain ⟨events, t, hsent, -⟩ := bind_isOk_iff.mp h
      rw [hsent]
      rfl
    · obtain ⟨events, t, hsent⟩ := exists_of_isOk h
      exact bind_isOk_iff.mpr ⟨events, t, hsent, rfl⟩
  | text text =>
    refine Iff.trans ⟨fun h => ?_, fun h => ?_⟩ (handleControl_isOk_iff text)
    · obtain ⟨events, t, hsent, -⟩ := bind_isOk_iff.mp h
      rw [hsent]
      rfl
    · obtain ⟨events, t, hsent⟩ := exists_of_isOk h
      obtain ⟨closes, hcloses⟩ := isFinalize_isOk h
      refine bind_isOk_iff.mpr ⟨events, t, hsent, bind_isOk_iff.mpr ⟨closes, t, ?_, rfl⟩⟩
      exact ofExcept_eq_ok.mpr ⟨hcloses, rfl⟩

omit [AddCommGroup V] [Module R V] [EmbeddingSpace R V] in
/-- A session starts once, and then it does. -/
theorem start_isOk_iff (h : SpooledSession.StartsFresh s) :
    (SpooledSession.onRolling (RollingSession.start c) s).1.isOk = true
      ↔ s.stateMachine = .created := by
  show (RollingSession.start c s.toRollingSession).1.isOk = true ↔ _
  unfold RollingSession.start
  rw [read_bind]
  split
  · next hstarted => exact iff_of_false nofun hstarted
  · next hcreated =>
    replace hcreated : s.stateMachine = .created := not_not.mp hcreated
    refine iff_of_true ?_ hcreated
    let event := s.log.nextEvent (s.startedFields c) (c.supply.nowMs s.drawn)
      (c.supply.ulid s.drawn)
    have hunused : (event.eventId, (s.startedFields c).revision) ∉ s.log.keys := by
      rw [h hcreated]
      exact Finset.notMem_empty _
    show (SessionEventLog.append (s.startedFields c) (c.supply.nowMs s.drawn)
      (c.supply.ulid s.drawn) s.log).1.isOk = true
    rw [SessionEventLog.append_of_fresh rfl (le_refl 1) hunused]
    rfl

omit [AddCommGroup V] [Module R V] [EmbeddingSpace R V] in
/-- **A client that connects** opens the session, if nothing happened to it. -/
theorem onConnect_isOk_iff (h : SpooledSession.StartsFresh s) :
    (onConnect c s).1.isOk = true ↔ (s.log.events = [] → s.stateMachine = .created) := by
  unfold onConnect
  rw [read_bind]
  split
  · next hempty =>
    rw [forall_prop_of_true (List.isEmpty_iff.mp hempty), ← start_isOk_iff (c := c) h]
    constructor
    · intro hconnect
      obtain ⟨event, t, hstart, -⟩ := bind_isOk_iff.mp hconnect
      rw [hstart]
      rfl
    · intro hstart
      obtain ⟨event, t, hevent⟩ := exists_of_isOk hstart
      exact bind_isOk_iff.mpr ⟨event, t, hevent, rfl⟩
  · next hevents =>
    exact iff_of_true rfl (fun hempty => absurd (List.isEmpty_iff.mpr hempty) hevents)

end AudioSocket

namespace SessionSockets

variable {python : Interpreter} {c : StreamingContext R}

/-- The event is survived. -/
def Survives (python : Interpreter) (c : StreamingContext R) (w : SessionSockets R V)
    (e : SocketEvent R V) : Prop :=
  AudioSocket.Survives w.session (step python c w e).session (handle python c w e).1

/-- **What may happen**: a client connects to a session that has events or has
not started, and sends what the session admits. -/
def Goes (python : Interpreter) (c : StreamingContext R) (w : SessionSockets R V) :
    SocketEvent R V → Prop
  | .connect _ => w.session.log.events = [] → w.session.stateMachine = .created
  | .receive socket message models offline =>
    socket ∈ w.sockets → AudioSocket.Admits python c w.session models offline message
  | .elsewhere _ => True

/-- **An event is survived exactly if it may happen.** -/
theorem survives_iff_goes {w : SessionSockets R V} (h : w.session.Lives) (e : SocketEvent R V) :
    Survives python c w e ↔ Goes python c w e := by
  have hquiet : ∀ t : SpooledSession R V, AudioSocket.Survives w.session t {} := fun _ =>
    ⟨rfl, fun frame hframe => absurd hframe List.not_mem_nil⟩
  cases e with
  | connect socket =>
    exact (AudioSocket.survives_guarded_iff
      (fun _ _ _ => AudioSocket.told_onConnect h.finals)).trans
      (AudioSocket.onConnect_isOk_iff h.fresh)
  | receive socket message models offline =>
    unfold Survives Goes step handle
    dsimp only
    split
    · next hopen =>
      rw [forall_prop_of_true hopen]
      exact (AudioSocket.survives_guarded_iff
        (fun _ _ _ => AudioSocket.told_onMessage h.finals)).trans
        (AudioSocket.onMessage_isOk_iff message)
    · next hclosed => exact iff_of_true (hquiet _) (fun hopen => absurd hopen hclosed)
  | elsewhere command => exact iff_of_true (hquiet _) trivial

/-! ### Runs -/

omit [AddCommGroup V] [Module R V] [EmbeddingSpace R V] in
/-- The `except` clauses leave the session as it is. -/
theorem guarded_snd
    (m : Method PyError (SpooledSession R V) (List (ServerEvent (EventPayload R)) × Bool))
    (s : SpooledSession R V) : (AudioSocket.guarded m s).2 = (m s).2 := by
  unfold AudioSocket.guarded
  rcases m s with ⟨exc | ⟨events, goesOn⟩, t⟩ <;> dsimp only
  split <;> rfl

/-- A command, as a method. -/
theorem yields_of_command {α : Type} {m : Method PyError (SpooledSession R V) α}
    (command : SpooledSession.Command R V)
    (h : ∀ s, (m s).2 = SpooledSession.step c s command) :
    Yields SpooledSession.Lives (fun _ => True) m :=
  yields_of_snd (fun s hs => h s ▸ hs.step command)

theorem yields_onConnect :
    Yields SpooledSession.Lives (fun _ => True) (AudioSocket.onConnect (V := V) c) := by
  refine yields_bind yields_read (fun s _ => ?_)
  split
  · exact yields_bind (yields_of_command (c := c) .start (fun _ => rfl))
      (fun _ _ => yields_pure trivial)
  · exact yields_pure trivial

theorem yields_handleControl (models : RollingModels R V ℚ)
    (offline : Wav → Except PyError (OfflineResult R)) (text : String) :
    Yields SpooledSession.Lives (fun _ => True)
      (AudioSocket.handleControl python c models offline text) := by
  unfold AudioSocket.handleControl
  split
  · split
    · exact yields_pure trivial
    · exact yields_throw _
  · refine yields_bind (yields_ofExcept _) (fun kind _ => ?_)
    split
    · exact yields_of_command (c := c) (.finalize models offline) (fun _ => rfl)
    · exact yields_bind (yields_ofExcept _) (fun last _ =>
        yields_of_command (c := c) (.replay last) (fun _ => rfl))
    · exact yields_pure trivial

theorem yields_onMessage (models : RollingModels R V ℚ)
    (offline : Wav → Except PyError (OfflineResult R)) (message : SocketMessage) :
    Yields SpooledSession.Lives (fun _ => True)
      (AudioSocket.onMessage python c models offline message) := by
  cases message with
  | disconnect => exact yields_pure trivial
  | bytes payload =>
    exact yields_bind (yields_of_command (c := c) (.push models payload) (fun _ => rfl))
      (fun _ _ => yields_pure trivial)
  | text text =>
    exact yields_bind (yields_handleControl models offline text) (fun _ _ =>
      yields_bind (yields_ofExcept _) (fun _ _ => yields_pure trivial))
  | empty => exact yields_pure trivial

/-- **Every event keeps what holds of a session.** -/
theorem lives_step {w : SessionSockets R V} (h : w.session.Lives) (e : SocketEvent R V) :
    (step python c w e).session.Lives := by
  cases e with
  | connect socket =>
    show (AudioSocket.guarded _ _).2.Lives
    rw [guarded_snd]
    exact yields_onConnect.snd h
  | receive socket message models offline =>
    unfold step handle
    dsimp only
    split
    · rw [guarded_snd]
      exact (yields_onMessage models offline message).snd h
    · exact h
  | elsewhere command => exact h.step command

/-- **The audio socket survives a run exactly if all of its events may
happen**, whatever becomes of texts. -/
theorem survives_iff (python : Interpreter) (c : StreamingContext R) (keepSessionAudio : Bool)
    (modelVersions : ModelVersions) (embeddingModelVersion : String)
    (events : List (SocketEvent R V)) :
    EachStep (step python c) (Survives python c)
        { session := .new c keepSessionAudio modelVersions embeddingModelVersion } events
      ↔ EachStep (step python c) (Goes python c)
        { session := .new c keepSessionAudio modelVersions embeddingModelVersion } events :=
  eachStep_congr (I := fun w : SessionSockets R V => w.session.Lives)
    (SpooledSession.lives_new _ _ _) (fun _ e h => lives_step h e)
    (fun _ e h => survives_iff_goes h e)

end SessionSockets

end

/-! ## A short visit -/

namespace SessionSockets

/-- What the interpreter makes of three texts, and of texts that are no JSON. -/
def threeTexts : Interpreter where
  loads text :=
    if text = "\x7b\x22type\x22: \x22finalize\x22\x7d" then .ok (.dict [("type", .str "finalize")])
    else if text = "\x7b\x22type\x22: \x22resume\x22\x7d" then .ok (.dict [("type", .str "resume")])
    else if text = "[]" then .ok (.list [])
    else .error (.valueError "Expecting value: line 1 column 1 (char 0)")
  intOfStr text := .error (.valueError ("invalid literal for int() with base 10: " ++ pyRepr text))

/-- A client that connects, sends a sample and what is no JSON, asks for the
events so far, and closes the session, which finds nothing to say. -/
def visit : List (SocketEvent ℚ ℚ) :=
  let offline : Wav → Except PyError (OfflineResult ℚ) := fun _ => .ok {
    jobId := "job"
    state := .succeeded
    segments := []
    configVersion := "1"
    modelVersions := {} }
  [.connect 0,
   .receive 0 (.bytes [1, 0]) SpooledSession.deaf offline,
   .receive 0 (.text "hello") SpooledSession.deaf offline,
   .receive 0 (.text "\x7b\x22type\x22: \x22resume\x22\x7d") SpooledSession.deaf offline,
   .receive 0 (.text "\x7b\x22type\x22: \x22finalize\x22\x7d") SpooledSession.deaf offline]

theorem visit_survives :
    EachStep (step threeTexts SpooledSession.shortRing)
      (Survives threeTexts SpooledSession.shortRing)
      { session := .new SpooledSession.shortRing false {} "campplus" } visit := by
  refine (survives_iff threeTexts SpooledSession.shortRing false {} "campplus" visit).mpr ?_
  refine eachStep_cons.mpr ⟨fun _ => rfl, eachStep_cons.mpr ⟨fun _ => ?_,
    eachStep_cons.mpr ⟨fun _ => ?_, eachStep_cons.mpr ⟨fun _ => ?_,
    eachStep_cons.mpr ⟨fun _ => Or.inr ?_, eachStep_nil⟩⟩⟩⟩⟩
  · exact ⟨by decide +kernel, rfl, fun hdue => absurd hdue (by decide +kernel)⟩
  · exact rfl
  · exact ⟨0, rfl, by decide, by decide +kernel, by decide +kernel⟩
  · decide +kernel

/-- **A list is not survived**: it has no `get`, and nothing that is sent, or
logged, says so. -/
theorem list_not_survived :
    ¬ EachStep (step threeTexts SpooledSession.shortRing)
      (Survives threeTexts SpooledSession.shortRing)
      { session := .new SpooledSession.shortRing false {} "campplus" }
      [.connect 0, .receive 0 (.text "[]") SpooledSession.deaf
        (fun _ => .error (.other "not called"))] := by
  intro h
  have hsecond := (eachStep_cons.mp (eachStep_cons.mp h).2).1.raised
  revert hsecond
  decide +kernel

end SessionSockets

end Sastt
