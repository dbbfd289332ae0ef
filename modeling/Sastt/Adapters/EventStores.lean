import Mathlib.Data.Finset.Image
import Mathlib.Data.List.Sort
import Sastt.Domain.Events
import Sastt.Lib.Programs

/-!
# The stores of events

A client that reconnects is sent the events it has missed, from a store that
numbers them by session. `InMemoryEventStore` keeps a list for each session, and
remembers each revision of an event it was given; `PostgresEventStore` has a
table of rows and leaves it to its indexes.

The methods of the latter are programs of SQL statements on one connection. An
`INSERT` writes in the transaction of the connection, and others see the row
when it has committed. What the columns of the table can hold is a parameter.
-/

namespace Sastt

/-- The `value` of an event type. -/
def EventType.value : EventType → String
  | sessionStarted => "session.started"
  | transcriptProvisional => "transcript.provisional"
  | transcriptRevision => "transcript.revision"
  | transcriptFinal => "transcript.final"
  | pipelineWarning => "pipeline.warning"
  | sessionFinalized => "session.finalized"
  | sessionFailed => "session.failed"

/-- `EventType(value)`. -/
def EventType.ofValue : String → Except PyError EventType
  | "session.started" => .ok sessionStarted
  | "transcript.provisional" => .ok transcriptProvisional
  | "transcript.revision" => .ok transcriptRevision
  | "transcript.final" => .ok transcriptFinal
  | "pipeline.warning" => .ok pipelineWarning
  | "session.finalized" => .ok sessionFinalized
  | "session.failed" => .ok sessionFailed
  | value => .error (.valueError ("'" ++ value ++ "' is not a valid EventType"))

theorem EventType.ofValue_value (t : EventType) : ofValue t.value = .ok t := by
  cases t <;> rfl

/-- The refusal of an event that comes too late. -/
def notMonotonic (sessionId : String) : PyError :=
  .sastt .sasttError "sequence_number must increase monotonically per session"
    [("session_id", .str sessionId)]

/-- The refusal of a cursor that is too old. -/
def outsideRetention (sessionId : String) : PyError :=
  .sastt .sasttError "requested sequence is outside the retention window"
    [("session_id", .str sessionId)]

/-! ## In memory -/

/-- **`InMemoryEventStore`.** -/
structure InMemoryEventStore (P : Type) where
  retention : ℕ := 10000
  events : String → List (ServerEvent P) := fun _ => []
  keys : Finset (String × String × ℕ) := ∅

namespace InMemoryEventStore

variable {P : Type} (m : InMemoryEventStore P)

/-- What makes a revision of an event unique. -/
def key (event : ServerEvent P) : String × String × ℕ :=
  (event.sessionId, event.eventId, event.revision)

/-- `last_sequence_number`. -/
def lastSequenceNumber (sessionId : String) : ℕ :=
  ((m.events sessionId).getLast?.map ServerEvent.sequenceNumber).getD 0

/-- The event comes after the last one of its session. -/
def IsNext (event : ServerEvent P) : Prop :=
  ∀ last ∈ (m.events event.sessionId).getLast?, last.sequenceNumber < event.sequenceNumber

instance (event : ServerEvent P) : Decidable (m.IsNext event) :=
  inferInstanceAs (Decidable (∀ last ∈ _, _))

/-- **`append`.** -/
def append (event : ServerEvent P) : Method PyError (InMemoryEventStore P) (ServerEvent P) :=
  fun m =>
    if ¬ m.IsNext event then (.error (notMonotonic event.sessionId), m)
    else if key event ∈ m.keys then
      (.error (.sastt .sasttError "duplicate (session_id, event_id, revision)"
        [("key", .str ("('" ++ event.sessionId ++ "', '" ++ event.eventId ++ "', "
          ++ toString event.revision ++ ")"))]), m)
    else
      let events := m.events event.sessionId ++ [event]
      (.ok event, { m with
        keys := insert (key event) m.keys
        events := Function.update m.events event.sessionId
          (events.drop (events.length - m.retention)) })

/-- `replay`. -/
def replay (sessionId : String) (lastSequenceNumber : ℤ) : Except PyError (List (ServerEvent P)) :=
  match m.events sessionId with
  | [] => .ok []
  | first :: events =>
    if lastSequenceNumber < first.sequenceNumber - 1 then .error (outsideRetention sessionId)
    else .ok ((first :: events).filter (fun event => lastSequenceNumber < event.sequenceNumber))

end InMemoryEventStore

/-! ## In PostgreSQL -/

/-- The JSON object of an event: `to_dict`, and the deduplication key. -/
structure EventObject (P : Type) where
  eventId : String
  sessionId : String
  sequenceNumber : ℕ
  type : String
  serverTimeMs : ℕ
  revision : ℕ
  supersedesEventId : Option String
  isFinal : Bool
  payload : Option P
  modelVersions : Option ModelVersions
  configVersion : Option String
  dedupKey : Option String
deriving DecidableEq

/-- `{**event.to_dict(), "dedup_key": event.dedup_key}`. -/
def ServerEvent.toObject {P : Type} (event : ServerEvent P) : EventObject P where
  eventId := event.eventId
  sessionId := event.sessionId
  sequenceNumber := event.sequenceNumber
  type := event.eventType.value
  serverTimeMs := event.serverTimeMs
  revision := event.revision
  supersedesEventId := event.supersedesEventId
  isFinal := event.isFinal
  payload := event.payload
  modelVersions := event.modelVersions
  configVersion := event.configVersion
  dedupKey := event.dedupKey

/-- `_event_from_payload`. -/
def eventFromPayload {P : Type} (payload : EventObject P) : Except PyError (ServerEvent P) := do
  let eventType ← EventType.ofValue payload.type
  return {
    eventId := payload.eventId
    sessionId := payload.sessionId
    sequenceNumber := payload.sequenceNumber
    eventType
    serverTimeMs := payload.serverTimeMs
    revision := payload.revision
    supersedesEventId := payload.supersedesEventId
    isFinal := payload.isFinal
    payload := payload.payload
    modelVersions := payload.modelVersions
    configVersion := payload.configVersion
    dedupKey := payload.dedupKey }

/-- **An event comes back from the database as it was.** -/
theorem eventFromPayload_toObject {P : Type} (event : ServerEvent P) :
    eventFromPayload event.toObject = .ok event := by
  unfold eventFromPayload
  rw [show event.toObject.type = event.eventType.value from rfl, EventType.ofValue_value]
  rfl

/-- **A row of `transcript_events`**, as far as it is read or unique. -/
structure EventRow (P : Type) where
  id : String
  sessionId : String
  sequenceNumber : ℕ
  revision : ℕ
  payload : EventObject P
deriving DecidableEq

/-- The row of an event. -/
def ServerEvent.toRow {P : Type} (event : ServerEvent P) : EventRow P where
  id := event.eventId
  sessionId := event.sessionId
  sequenceNumber := event.sequenceNumber
  revision := event.revision
  payload := event.toObject

/-- **Two rows cannot both be there**: the primary key is the id of the event,
and there are two unique indexes. -/
def EventRow.Conflicts {P : Type} (a b : EventRow P) : Prop :=
  a.id = b.id ∨ (a.sessionId = b.sessionId ∧ a.sequenceNumber = b.sequenceNumber)
    ∨ (a.sessionId = b.sessionId ∧ a.id = b.id ∧ a.revision = b.revision)

instance {P : Type} (a b : EventRow P) : Decidable (a.Conflicts b) :=
  inferInstanceAs (Decidable (_ ∨ _ ∨ _))

/-- A statement, or the end of the transaction. -/
inductive EventCommand (P : Type)
  | selectMax (sessionId : String)
  | selectMin (sessionId : String)
  | selectAfter (sessionId : String) (lastSequenceNumber : ℤ)
  | insert (row : EventRow P)
  | commit
  | rollback

/-- What a statement replies with. An `INSERT` says whether it did not raise. -/
def EventReply {P : Type} : EventCommand P → Type
  | .selectMax _ | .selectMin _ => ℕ
  | .selectAfter _ _ => List (EventObject P)
  | .insert _ => Bool
  | .commit | .rollback => Unit

/-- A program of statements. -/
abbrev EventProgram (P : Type) (α : Type) : Type := Program (EventCommand P) EventReply α

namespace PostgresEventStore

variable {P : Type}

def selectMax (sessionId : String) : EventProgram P ℕ :=
  .issue (EventCommand.selectMax sessionId : EventCommand P)

def selectMin (sessionId : String) : EventProgram P ℕ :=
  .issue (EventCommand.selectMin sessionId : EventCommand P)

def selectAfter (sessionId : String) (lastSequenceNumber : ℤ) :
    EventProgram P (List (EventObject P)) :=
  .issue (EventCommand.selectAfter sessionId lastSequenceNumber : EventCommand P)

def insert (row : EventRow P) : EventProgram P Bool := .issue (EventCommand.insert row)

def commit : EventProgram P Unit := .issue (EventCommand.commit : EventCommand P)

def rollback : EventProgram P Unit := .issue (EventCommand.rollback : EventCommand P)

/-- **`append`.** -/
def append (event : ServerEvent P) : EventProgram P (Except PyError (ServerEvent P)) := do
  let highest ← selectMax event.sessionId
  if event.sequenceNumber ≤ highest then
    rollback
    return .error (notMonotonic event.sessionId)
  else if ← insert event.toRow then
    commit
    return .ok event
  else
    rollback
    return .error (.sastt .sasttError "duplicate (session_id, event_id, revision)"
      [("event_id", .str event.eventId)])

/-- `replay`. -/
def replay (sessionId : String) (lastSequenceNumber : ℤ) :
    EventProgram P (Except PyError (List (ServerEvent P))) := do
  let lowest ← selectMin sessionId
  if lowest ≠ 0 ∧ lastSequenceNumber < lowest - 1 then
    rollback
    return .error (outsideRetention sessionId)
  else
    let payloads ← selectAfter sessionId lastSequenceNumber
    commit
    return payloads.mapM eventFromPayload

/-- `last_sequence_number`. -/
def lastSequenceNumber (sessionId : String) : EventProgram P ℕ := do
  let last ← selectMax sessionId
  commit
  return last

end PostgresEventStore

theorem le_foldr_max {numbers : List ℕ} {n : ℕ} (h : n ∈ numbers) : n ≤ numbers.foldr max 0 := by
  induction numbers with
  | nil => exact absurd h List.not_mem_nil
  | cons m numbers ih =>
    rw [List.foldr_cons]
    cases List.mem_cons.mp h with
    | inl hn => exact hn ▸ Nat.le_max_left _ _
    | inr hn => exact (ih hn).trans (Nat.le_max_right _ _)

/-- **The table**: the rows that have committed, in that order, and those that a
connection has inserted and not committed. -/
structure EventTable (P : Type) where
  rows : List (EventRow P) := []
  pending : List (ℕ × EventRow P) := []

namespace EventTable

variable {P : Type} (t : EventTable P)

/-- The rows of a session. -/
def ofSession (sessionId : String) : List (EventRow P) :=
  t.rows.filter (fun row => row.sessionId = sessionId)

/-- The rows a connection has inserted. -/
def pendingOf (client : ℕ) : List (EventRow P) :=
  (t.pending.filter (fun p => p.1 = client)).map Prod.snd

/-- The end of the transaction of a connection: what it has inserted is gone. -/
def rollback (client : ℕ) : EventTable P :=
  { t with pending := t.pending.filter (fun p => p.1 ≠ client) }

/-- `COALESCE(MAX(sequence_number), 0)`. -/
def maxSequence (sessionId : String) : ℕ :=
  ((t.ofSession sessionId).map EventRow.sequenceNumber).foldr max 0

/-- `COALESCE(MIN(sequence_number), 0)`. -/
def minSequence (sessionId : String) : ℕ :=
  ((t.ofSession sessionId).map EventRow.sequenceNumber).min?.getD 0

/-- `WHERE session_id = … AND sequence_number > … ORDER BY sequence_number`. -/
def after (sessionId : String) (lastSequenceNumber : ℤ) : List (EventObject P) :=
  (((t.ofSession sessionId).filter (fun row =>
    lastSequenceNumber < row.sequenceNumber)).insertionSort
    (fun a b => a.sequenceNumber ≤ b.sequenceNumber)).map EventRow.payload

/-- No row of a session is above the greatest number. -/
theorem le_maxSequence {t : EventTable P} {row : EventRow P} (h : row ∈ t.rows) :
    row.sequenceNumber ≤ t.maxSequence row.sessionId :=
  le_foldr_max (List.mem_map_of_mem (List.mem_filter.mpr ⟨h, decide_eq_true rfl⟩))

/-- **One statement.** -/
def execute (fits : EventRow P → Bool) (_ : Unit) (client : ℕ) (t : EventTable P)
    (c : EventCommand P) : EventTable P × EventReply c :=
  match c with
  | .selectMax sessionId => (t, t.maxSequence sessionId)
  | .selectMin sessionId => (t, t.minSequence sessionId)
  | .selectAfter sessionId lastSequenceNumber => (t, t.after sessionId lastSequenceNumber)
  | .insert row =>
    if fits row ∧ ∀ other ∈ t.rows, ¬ row.Conflicts other then
      ({ t with pending := (client, row) :: t.pending }, true)
    else (t, false)
  | .commit => ({ t.rollback client with rows := t.rows ++ t.pendingOf client }, ())
  | .rollback => (t.rollback client, ())

end EventTable

/-- A transcript event of the session `sess`. -/
def transcriptEvent (eventId : String) (sequenceNumber revision : ℕ) : ServerEvent Unit where
  eventId
  sessionId := "sess"
  sequenceNumber
  eventType := .transcriptRevision
  serverTimeMs := 0
  revision
  supersedesEventId := none
  isFinal := false
  payload := none
  modelVersions := none
  configVersion := none
  dedupKey := none

end Sastt
