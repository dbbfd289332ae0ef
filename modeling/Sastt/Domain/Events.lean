import Mathlib.Data.Finset.Insert
import Mathlib.Logic.Function.Basic
import Sastt.Domain.Transcript
import Sastt.Lib.Method

/-!
# Events, the session log, and the lifecycle of a job

The events a session delivers to its client are numbered by a log. The log
keeps the latest of them for replay, and remembers by its deduplication key
every final event it was given: a final event whose key was used before is
not appended, and the earlier event is returned in its place. What an event
carries is up to whoever appends it, so the payload is a type parameter.

The clock and the generator of unique ids are not modelled: appending takes
the time it reads and the id it draws.

A job is a record with a state, and four of its states are final. One run of the
offline pipeline over its recording gives its result.
-/

namespace Sastt

/-- Server events. -/
inductive EventType
  | sessionStarted
  | transcriptProvisional
  | transcriptRevision
  | transcriptFinal
  | pipelineWarning
  | sessionFinalized
  | sessionFailed
deriving DecidableEq, Repr

/-- **One event** delivered to the client. -/
structure ServerEvent (P : Type) where
  eventId : String
  sessionId : String
  sequenceNumber : ℕ
  eventType : EventType
  serverTimeMs : ℕ
  revision : ℕ
  supersedesEventId : Option String
  isFinal : Bool
  payload : Option P
  modelVersions : Option ModelVersions
  configVersion : Option String
  dedupKey : Option String
deriving DecidableEq

/-- The arguments of `append`, with their defaults. -/
structure EventFields (P : Type) where
  eventType : EventType
  revision : ℕ := 1
  supersedesEventId : Option String := none
  isFinal : Bool := false
  payload : Option P := none
  modelVersions : Option ModelVersions := none
  configVersion : Option String := none
  dedupKey : Option String := none
  eventId : Option String := none

/-- **The event log of a session.** -/
structure SessionEventLog (P : Type) where
  sessionId : String
  retention : ℕ := 10000
  events : List (ServerEvent P) := []
  sequence : ℕ := 0
  keys : Finset (String × ℕ) := ∅
  finalByDedupKey : String → Option (ServerEvent P) := fun _ => none

/-- The slice `xs[-n:]`, which is the whole list for `n = 0`. -/
def lastSlice {α : Type} (n : ℕ) (xs : List α) : List α :=
  if n = 0 then xs else xs.drop (xs.length - n)

section LastSlice

variable {α β : Type}

theorem lastSlice_of_le {n : ℕ} {xs : List α} (h : xs.length ≤ n) : lastSlice n xs = xs := by
  unfold lastSlice
  split
  · rfl
  · rw [Nat.sub_eq_zero_of_le h, List.drop_zero]

/-- **Keeping the last samples of what is kept** is keeping the last samples
of all. -/
theorem lastSlice_lastSlice_append (n : ℕ) (xs ys : List α) :
    lastSlice n (lastSlice n xs ++ ys) = lastSlice n (xs ++ ys) := by
  unfold lastSlice
  split
  · rfl
  · rw [List.length_append, List.length_append, List.length_drop, ← List.drop_append_of_le_length
      (Nat.sub_le _ _), List.drop_drop]
    congr 1
    omega

theorem lastSlice_map (f : α → β) (n : ℕ) (xs : List α) :
    lastSlice n (xs.map f) = (lastSlice n xs).map f := by
  unfold lastSlice
  split
  · rfl
  · rw [List.length_map, List.map_drop]

theorem length_lastSlice {n : ℕ} (hn : n ≠ 0) (xs : List α) :
    (lastSlice n xs).length = min n xs.length := by
  unfold lastSlice
  rw [if_neg hn, List.length_drop]
  omega

theorem length_lastSlice_le (n : ℕ) (xs : List α) : (lastSlice n xs).length ≤ xs.length := by
  unfold lastSlice
  split
  · exact le_rfl
  · rw [List.length_drop]
    exact Nat.sub_le _ _

end LastSlice

/-- The deduplication key, of a final event that has one. -/
def EventFields.finalKey {P : Type} (f : EventFields P) : Option String :=
  if f.isFinal then f.dedupKey else none

namespace SessionEventLog

variable {P : Type}

section Append

variable (log : SessionEventLog P) (f : EventFields P) (nowMs : ℕ) (ulid : String)

/-- The earlier final event that is returned in place of appending one. -/
def suppressedBy : Option (ServerEvent P) := f.finalKey.bind log.finalByDedupKey

/-- The event that is appended. -/
def nextEvent : ServerEvent P where
  eventId := if truthy f.eventId then f.eventId.getD "" else "evt_" ++ ulid
  sessionId := log.sessionId
  sequenceNumber := log.sequence + 1
  eventType := f.eventType
  serverTimeMs := nowMs
  revision := f.revision
  supersedesEventId := f.supersedesEventId
  isFinal := f.isFinal
  payload := f.payload
  modelVersions := f.modelVersions
  configVersion := f.configVersion
  dedupKey := f.dedupKey

/-- The log with one more event. -/
def push (event : ServerEvent P) : SessionEventLog P :=
  { log with
    keys := insert (event.eventId, event.revision) log.keys
    sequence := event.sequenceNumber
    finalByDedupKey := match f.finalKey with
      | some key => Function.update log.finalByDedupKey key (some event)
      | none => log.finalByDedupKey
    events :=
      if log.retention < (log.events ++ [event]).length then
        lastSlice log.retention (log.events ++ [event])
      else log.events ++ [event] }

end Append

/-- What appending raises when the id of the event was used before. -/
def duplicateKey (log : SessionEventLog P) (event : ServerEvent P) : PyError :=
  .valueError ("duplicate (event_id, revision) ('" ++ event.eventId ++ "', "
    ++ toString event.revision ++ ") in session " ++ log.sessionId)

/-- **`append`**: append an event, or return the earlier final event with
its deduplication key. -/
def append (f : EventFields P) (nowMs : ℕ) (ulid : String) :
    Method PyError (SessionEventLog P) (ServerEvent P) := do
  let log ← .read
  match log.suppressedBy f with
  | some event => return event
  | none =>
    if f.revision < 1 then .throw (.valueError "revision must be >= 1")
    else if ((log.nextEvent f nowMs ulid).eventId, f.revision) ∈ log.keys then
      .throw (log.duplicateKey (log.nextEvent f nowMs ulid))
    else
      .modify fun log => log.push f (log.nextEvent f nowMs ulid)
      return log.nextEvent f nowMs ulid

/-- **`replay_from`**: the events after the one with number `last`, for a
client that was connected until then. -/
def replayFrom (log : SessionEventLog P) (last : ℤ) : Except PyError (List (ServerEvent P)) :=
  if last < 0 then .error (.valueError "last_sequence_number must be >= 0")
  else if (log.sequence : ℤ) < last then
    .error (.valueError ("last_sequence_number " ++ toString last
      ++ " is ahead of the server (" ++ toString log.sequence ++ ")"))
  else if log.events.head?.any (fun e => last < (e.sequenceNumber : ℤ) - 1) then
    .error (.valueError "requested sequence is outside the retention window")
  else .ok (log.events.filter (fun e => last < (e.sequenceNumber : ℤ)))

/-- What is replayed are events of the log. -/
theorem mem_of_replayFrom {log : SessionEventLog P} {last : ℤ} {events : List (ServerEvent P)}
    (h : log.replayFrom last = .ok events) {e : ServerEvent P} (he : e ∈ events) :
    e ∈ log.events := by
  unfold replayFrom at h
  split_ifs at h
  obtain rfl := Except.ok.inj h
  exact List.mem_of_mem_filter he

/-- `final_events`. -/
def finalEvents (log : SessionEventLog P) : List (ServerEvent P) :=
  log.events.filter (fun e => e.isFinal)

/-! ## What appending does -/

section Spec

variable {log : SessionEventLog P} {f : EventFields P} {event : ServerEvent P}

/-- A final event that was given before is not appended again. -/
theorem append_of_suppressed (h : log.suppressedBy f = some event) (nowMs : ℕ) (ulid : String) :
    append f nowMs ulid log = (.ok event, log) := by
  unfold append
  rw [Method.read_bind]
  simp only [h]
  rfl

/-- Any other event with a fresh id is appended. -/
theorem append_of_fresh (h : log.suppressedBy f = none) (hr : 1 ≤ f.revision) {nowMs : ℕ}
    {ulid : String} (hk : ((log.nextEvent f nowMs ulid).eventId, f.revision) ∉ log.keys) :
    append f nowMs ulid log
      = (.ok (log.nextEvent f nowMs ulid), log.push f (log.nextEvent f nowMs ulid)) := by
  unfold append
  rw [Method.read_bind]
  simp only [h, if_neg (Nat.not_lt.mpr hr), if_neg hk]
  rfl

/-- **What one call of `append` can do.** -/
theorem append_cases (log : SessionEventLog P) (f : EventFields P) (nowMs : ℕ) (ulid : String) :
    (∃ event, log.suppressedBy f = some event ∧ append f nowMs ulid log = (.ok event, log))
      ∨ (log.suppressedBy f = none
        ∧ ((∃ e, append f nowMs ulid log = (.error e, log))
          ∨ (1 ≤ f.revision ∧ ((log.nextEvent f nowMs ulid).eventId, f.revision) ∉ log.keys
            ∧ append f nowMs ulid log = (.ok (log.nextEvent f nowMs ulid),
                log.push f (log.nextEvent f nowMs ulid))))) := by
  rcases hs : log.suppressedBy f with _ | event
  · refine Or.inr ⟨rfl, ?_⟩
    by_cases hr : 1 ≤ f.revision
    · by_cases hk : ((log.nextEvent f nowMs ulid).eventId, f.revision) ∈ log.keys
      · refine Or.inl ⟨log.duplicateKey (log.nextEvent f nowMs ulid), ?_⟩
        unfold append
        rw [Method.read_bind]
        simp only [hs, if_neg (Nat.not_lt.mpr hr), if_pos hk]
        rfl
      · exact Or.inr ⟨hr, hk, append_of_fresh hs hr hk⟩
    · refine Or.inl ⟨.valueError "revision must be >= 1", ?_⟩
      unfold append
      rw [Method.read_bind]
      simp only [hs, if_pos (Nat.not_le.mp hr)]
      rfl
  · exact Or.inl ⟨event, rfl, append_of_suppressed hs nowMs ulid⟩

/-! ## Well-formed logs -/

/-- **A log that was filled by `append` only**: its events are numbered in
order, every one of them is accounted for among the keys, and the final
events it remembers were numbered by it. -/
structure WellFormed (log : SessionEventLog P) : Prop where
  increasing : log.events.Pairwise (fun e e' => e.sequenceNumber < e'.sequenceNumber)
  sequence_le : ∀ e ∈ log.events, e.sequenceNumber ≤ log.sequence
  keyed : ∀ e ∈ log.events, (e.eventId, e.revision) ∈ log.keys
  unique : log.events.Pairwise (fun e e' => (e.eventId, e.revision) ≠ (e'.eventId, e'.revision))
  finals : ∀ key e, log.finalByDedupKey key = some e →
    e.sequenceNumber ≤ log.sequence ∧ e.isFinal = true ∧ e.dedupKey = some key

theorem wellFormed_new (sessionId : String) (retention : ℕ) :
    ({ sessionId, retention } : SessionEventLog P).WellFormed where
  increasing := List.Pairwise.nil
  sequence_le e he := absurd he List.not_mem_nil
  keyed e he := absurd he List.not_mem_nil
  unique := List.Pairwise.nil
  finals key e he := by cases he

/-- The log keeps a part of what it was given, in its order. -/
theorem events_push_sublist : (log.push f event).events.Sublist (log.events ++ [event]) := by
  show (if log.retention < (log.events ++ [event]).length then _ else _ : List _).Sublist _
  split_ifs
  · unfold lastSlice
    split_ifs
    · exact List.Sublist.refl _
    · exact List.drop_sublist _ _
  · exact List.Sublist.refl _

theorem WellFormed.push (h : log.WellFormed) {nowMs : ℕ} {ulid : String}
    (hk : ((log.nextEvent f nowMs ulid).eventId, f.revision) ∉ log.keys) :
    (log.push f (log.nextEvent f nowMs ulid)).WellFormed where
  increasing := by
    refine List.Pairwise.sublist events_push_sublist (List.pairwise_append.mpr
      ⟨h.increasing, List.pairwise_singleton _ _, fun e he e' he' => ?_⟩)
    rw [List.mem_singleton.mp he']
    exact Nat.lt_succ_of_le (h.sequence_le e he)
  sequence_le := by
    intro e he
    rcases List.mem_append.mp (events_push_sublist.subset he) with he | he
    · exact Nat.le_succ_of_le (h.sequence_le e he)
    · rw [List.mem_singleton.mp he]
      exact Nat.le_refl _
  keyed := by
    intro e he
    rcases List.mem_append.mp (events_push_sublist.subset he) with he | he
    · exact Finset.mem_insert_of_mem (h.keyed e he)
    · rw [List.mem_singleton.mp he]
      exact Finset.mem_insert_self _ _
  unique := by
    refine List.Pairwise.sublist events_push_sublist (List.pairwise_append.mpr
      ⟨h.unique, List.pairwise_singleton _ _, fun e he e' he' heq => hk ?_⟩)
    rw [List.mem_singleton.mp he'] at heq
    have hmem := h.keyed e he
    rwa [heq] at hmem
  finals := by
    have hold : ∀ key e, log.finalByDedupKey key = some e →
        e.sequenceNumber ≤ log.sequence + 1 ∧ e.isFinal = true ∧ e.dedupKey = some key :=
      fun key e he => ⟨Nat.le_succ_of_le (h.finals key e he).1, (h.finals key e he).2⟩
    intro key e he
    replace he : (match f.finalKey with
      | some key => Function.update log.finalByDedupKey key (some (log.nextEvent f nowMs ulid))
      | none => log.finalByDedupKey) key = some e := he
    rcases hf : f.finalKey with _ | used
    · rw [hf] at he
      exact hold key e he
    · rw [hf] at he
      by_cases hkey : key = used
      · rw [hkey] at he ⊢
        simp only [Function.update_self, Option.some.injEq] at he
        rw [← he]
        unfold EventFields.finalKey at hf
        split_ifs at hf with hfinal
        exact ⟨Nat.le_refl _, hfinal, hf⟩
      · simp only [Function.update_of_ne hkey] at he
        exact hold key e he

/-- **Appending keeps the log well formed**, also when it raises. -/
theorem WellFormed.append (h : log.WellFormed) (f : EventFields P) (nowMs : ℕ) (ulid : String) :
    (SessionEventLog.append f nowMs ulid log).2.WellFormed := by
  rcases append_cases log f nowMs ulid with ⟨_, -, hs⟩ | ⟨-, ⟨_, hs⟩ | ⟨-, hk, hs⟩⟩
  · rw [hs]
    exact h
  · rw [hs]
    exact h
  · rw [hs]
    exact h.push hk

end Spec

/-- **The logs of a session**: those filled by a sequence of calls. -/
inductive Reachable : SessionEventLog P → Prop
  | new (sessionId : String) (retention : ℕ) : Reachable { sessionId, retention }
  | append (log : SessionEventLog P) (f : EventFields P) (nowMs : ℕ) (ulid : String)
      (h : Reachable log) : Reachable (SessionEventLog.append f nowMs ulid log).2

theorem Reachable.wellFormed {log : SessionEventLog P} (h : log.Reachable) : log.WellFormed := by
  induction h with
  | new sessionId retention => exact wellFormed_new sessionId retention
  | append log f nowMs ulid _ ih => exact ih.append f nowMs ulid

end SessionEventLog

/-! ## Jobs -/

/-- Offline job states. -/
inductive JobState
  | queued
  | preprocessing
  | diarizing
  | transcribing
  | separating
  | linking
  | fusing
  | succeeded
  | degradedSucceeded
  | failed
  | cancelled
deriving DecidableEq, Repr

/-- The `value` of a state. -/
def JobState.value : JobState → String
  | queued => "QUEUED"
  | preprocessing => "PREPROCESSING"
  | diarizing => "DIARIZING"
  | transcribing => "TRANSCRIBING"
  | separating => "SEPARATING"
  | linking => "LINKING"
  | fusing => "FUSING"
  | succeeded => "SUCCEEDED"
  | degradedSucceeded => "DEGRADED_SUCCEEDED"
  | failed => "FAILED"
  | cancelled => "CANCELLED"

/-- `TERMINAL_JOB_STATES`. -/
def JobState.terminal : List JobState := [succeeded, degradedSucceeded, failed, cancelled]

/-- **A job** as it is stored. -/
structure JobRecord where
  jobId : String
  tenantId : String
  idempotencyKey : String
  inputHash : String
  state : JobState := .queued
  configVersion : Option String := none
  errorCode : Option String := none
  warnings : List String := []
  degraded : Bool := false
deriving DecidableEq, Repr

namespace JobRecord

def isTerminal (job : JobRecord) : Bool := job.state ∈ JobState.terminal

/-- `transition`: a final state can only be set again. -/
def transition (job : JobRecord) (state : JobState) : Except PyError JobRecord :=
  if job.isTerminal ∧ state ≠ job.state then
    .error (.valueError ("job " ++ job.jobId ++ " is terminal in " ++ job.state.value))
  else .ok { job with state }

end JobRecord

/-- **The result of one offline run**: jobs store it, and a streaming session
publishes its segments as the final transcript. -/
structure OfflineResult (R : Type) [Field R] [LinearOrder R] where
  jobId : String
  state : JobState
  segments : List (TranscriptSegment R)
  configVersion : String
  modelVersions : ModelVersions
  warnings : List String := []
  degraded : Bool := false
  estimatedSessionSpeakers : ℕ := 0

/-- `succeeded`. -/
def OfflineResult.succeeded {R : Type} [Field R] [LinearOrder R] (r : OfflineResult R) : Bool :=
  r.state == .succeeded || r.state == .degradedSucceeded

end Sastt
