import Mathlib.Data.List.Range
import Sastt.Domain.Events

/-!
# The history of a session log

A log forgets: it keeps the latest `retention` events and drops the older
ones. What it promises to a client who comes back, and what it promises about
ids and deduplication keys, is about all events of the session, also those it
no longer has. So the log is read here beside its *history*, the list of all
events it ever accepted, which no field of it stores.

Which events were accepted is said by the calls alone: a call accepts the
event that it returns, unless it repeats a final event (`acceptedBy`). The
relation between log and history is `SessionEventLog.Recounts`: the events kept
are the last of the history, the counter is its length, the keys are its
keys, and the map of the final events is the history read by deduplication
key. One call of `append` either leaves both alone, whether it raises or
returns an earlier event, or extends both by the event it returns, and what
`replay_from` returns is read off the relation.
-/

namespace Sastt

variable {P : Type}

/-- What makes an event unique in its session. -/
def ServerEvent.key (e : ServerEvent P) : String × ℕ := (e.eventId, e.revision)

/-- The deduplication key, of a final event that has one. -/
def ServerEvent.finalKey (e : ServerEvent P) : Option String :=
  if e.isFinal then e.dedupKey else none

/-- One call of `append`, with the time it reads and the id it draws. -/
structure AppendCall (P : Type) where
  fields : EventFields P
  nowMs : ℕ
  ulid : String

/-- Among elements with consecutive numbers, those after number `n` are a
suffix. -/
theorem filter_lt_eq_drop {α : Type} (number : α → ℕ) (n : ℕ) {a : ℕ} {xs : List α}
    (h : xs.map number = List.range' a xs.length) :
    xs.filter (fun x => n < number x) = xs.drop (n + 1 - a) := by
  induction xs generalizing a with
  | nil => rw [List.filter_nil, List.drop_nil]
  | cons x xs ih =>
    rw [List.map_cons, List.length_cons, List.range'_succ, List.cons.injEq] at h
    rw [List.filter_cons, h.1, ih h.2]
    by_cases hn : n < a
    · have hfrom : n + 1 - a = 0 := by omega
      have hfrom' : n + 1 - (a + 1) = 0 := by omega
      simp only [hn, decide_true, if_true, hfrom, hfrom', List.drop_zero]
    · have hfrom : n + 1 - a = n + 1 - (a + 1) + 1 := by omega
      simp only [hn, decide_false, Bool.false_eq_true, if_false, hfrom, List.drop_succ_cons]

namespace SessionEventLog

/-! ## Histories -/

/-- The log after one call, whether it raised or returned. -/
def callAppend (log : SessionEventLog P) (call : AppendCall P) : SessionEventLog P :=
  (append call.fields call.nowMs call.ulid log).2

/-- The log after a sequence of calls. -/
def appendAll (log : SessionEventLog P) (calls : List (AppendCall P)) : SessionEventLog P :=
  calls.foldl callAppend log

/-- A call repeats a final event if one with its deduplication key was accepted
before, whether or not the log still has it. -/
def repeats (past : List (ServerEvent P)) (f : EventFields P) : Bool :=
  f.finalKey.isSome && past.any (fun e => e.finalKey = f.finalKey)

/-- **The event that a call accepts**: the one it returns, unless it repeats a
final event. What the log records of it is not asked. -/
def acceptedBy (past : List (ServerEvent P)) (log : SessionEventLog P) (call : AppendCall P) :
    Option (ServerEvent P) :=
  match (append call.fields call.nowMs call.ulid log).1 with
  | .ok event => if repeats past call.fields then none else some event
  | .error _ => none

/-- **The history**: the past, and the events that a sequence of calls
accepts. -/
def history (past : List (ServerEvent P)) (log : SessionEventLog P) :
    List (AppendCall P) → List (ServerEvent P)
  | [] => past
  | call :: calls => history (past ++ (acceptedBy past log call).toList) (log.callAppend call) calls

/-- **A log beside its history.** -/
structure Recounts (log : SessionEventLog P) (past : List (ServerEvent P)) : Prop where
  events : log.events = lastSlice log.retention past
  sequence : log.sequence = past.length
  numbers : past.map ServerEvent.sequenceNumber = List.range' 1 past.length
  keys : ∀ key, key ∈ log.keys ↔ key ∈ past.map ServerEvent.key
  unique : (past.map ServerEvent.key).Nodup
  finals : ∀ key e, log.finalByDedupKey key = some e ↔ e ∈ past ∧ e.finalKey = some key

theorem recounts_new (sessionId : String) (retention : ℕ) :
    ({ sessionId, retention } : SessionEventLog P).Recounts [] where
  events := (lastSlice_of_le (Nat.zero_le _)).symm
  sequence := rfl
  numbers := rfl
  keys _ := by simp
  unique := List.nodup_nil
  finals _ _ := by simp

section Step

variable {log : SessionEventLog P} {past : List (ServerEvent P)}

theorem push_events (log : SessionEventLog P) (f : EventFields P) (event : ServerEvent P) :
    (log.push f event).events = lastSlice log.retention (log.events ++ [event]) := by
  show (if log.retention < (log.events ++ [event]).length then _ else _ : List _) = _
  split_ifs with h
  · rfl
  · exact (lastSlice_of_le (Nat.le_of_not_lt h)).symm

/-- A new event extends the history. -/
theorem Recounts.push (h : log.Recounts past) {f : EventFields P} {nowMs : ℕ} {ulid : String}
    (hs : log.suppressedBy f = none)
    (hk : ((log.nextEvent f nowMs ulid).eventId, f.revision) ∉ log.keys) :
    (log.push f (log.nextEvent f nowMs ulid)).Recounts (past ++ [log.nextEvent f nowMs ulid]) where
  events := by
    rw [push_events, h.events]
    exact lastSlice_lastSlice_append _ _ _
  sequence := by
    rw [List.length_append, ← h.sequence]
    rfl
  numbers := by
    rw [List.map_append, h.numbers, List.length_append, List.length_singleton,
      List.range'_1_concat, ← h.sequence]
    simp only [List.map_cons, List.map_nil, nextEvent, Nat.add_comm]
  keys key := by
    show key ∈ insert _ log.keys ↔ _
    rw [Finset.mem_insert, h.keys, List.map_append, List.mem_append, or_comm]
    simp only [List.map_cons, List.map_nil, List.mem_singleton, ServerEvent.key]
  unique := by
    rw [List.map_append]
    refine List.nodup_append.mpr ⟨h.unique, List.nodup_singleton _, ?_⟩
    rintro key hkey key' hkey' rfl
    rw [List.map_singleton, List.mem_singleton] at hkey'
    rw [hkey'] at hkey
    exact hk ((h.keys _).mpr hkey)
  finals key e := by
    have hown : (log.nextEvent f nowMs ulid).finalKey = f.finalKey := rfl
    rw [List.mem_append, List.mem_singleton, or_and_right, ← h.finals]
    unfold SessionEventLog.push
    dsimp only
    rcases hf : f.finalKey with _ | used
    · refine ⟨Or.inl, fun h => h.resolve_right ?_⟩
      rintro ⟨rfl, hkey⟩
      rw [hown, hf] at hkey
      cases hkey
    · -- the key was not used before, since the event was not suppressed
      have hunused : log.finalByDedupKey used = none := by
        simpa only [suppressedBy, hf, Option.bind_some] using hs
      by_cases hkey : key = used
      · rw [hkey, hunused]
        simp only [Function.update_self, Option.some.injEq]
        constructor
        · rintro rfl
          exact Or.inr ⟨rfl, hown.trans hf⟩
        · rintro (h | ⟨h, -⟩)
          · cases h
          · exact h.symm
      · simp only [Function.update_of_ne hkey]
        refine ⟨Or.inl, fun h => h.resolve_right ?_⟩
        rintro ⟨rfl, h⟩
        rw [hown, hf] at h
        exact hkey (Option.some.inj h).symm

/-- The log suppresses the calls that repeat a final event of its history. -/
theorem Recounts.isSome_suppressedBy (h : log.Recounts past) (f : EventFields P) :
    (log.suppressedBy f).isSome = repeats past f := by
  unfold suppressedBy repeats
  cases f.finalKey with
  | none => rfl
  | some key =>
    rw [Option.bind_some, Option.isSome_some, Bool.true_and, Bool.eq_iff_iff,
      Option.isSome_iff_exists, List.any_eq_true]
    exact exists_congr (fun e => (h.finals key e).trans (and_congr_right' decide_eq_true_iff.symm))

/-- **What one call accepts**: nothing, and then it leaves the log alone, or the
next event, which the log then records. -/
theorem Recounts.acceptedBy_cases (h : log.Recounts past) (call : AppendCall P) :
    (acceptedBy past log call = none ∧ log.callAppend call = log)
      ∨ (log.suppressedBy call.fields = none
        ∧ ((log.nextEvent call.fields call.nowMs call.ulid).eventId, call.fields.revision)
          ∉ log.keys
        ∧ acceptedBy past log call = some (log.nextEvent call.fields call.nowMs call.ulid)
        ∧ log.callAppend call
          = log.push call.fields (log.nextEvent call.fields call.nowMs call.ulid)) := by
  have hrepeats := h.isSome_suppressedBy call.fields
  unfold SessionEventLog.callAppend acceptedBy
  rcases append_cases log call.fields call.nowMs call.ulid with
    ⟨event, hs, hok⟩ | ⟨hs, ⟨e, he⟩ | ⟨-, hk, hok⟩⟩
  · rw [hs, Option.isSome_some] at hrepeats
    rw [hok, ← hrepeats]
    exact Or.inl ⟨rfl, rfl⟩
  · rw [he]
    exact Or.inl ⟨rfl, rfl⟩
  · rw [hs, Option.isSome_none] at hrepeats
    rw [hok, ← hrepeats]
    exact Or.inr ⟨hs, hk, rfl, rfl⟩

/-- **What one call does** to the log and to its history. -/
theorem Recounts.callAppend (h : log.Recounts past) (call : AppendCall P) :
    (log.callAppend call).Recounts (past ++ (acceptedBy past log call).toList) := by
  rcases h.acceptedBy_cases call with ⟨hnone, hlog⟩ | ⟨hs, hk, hsome, hlog⟩
  · rw [hnone, hlog, Option.toList_none, List.append_nil]
    exact h
  · rw [hsome, hlog]
    exact h.push hs hk

theorem retention_callAppend (log : SessionEventLog P) (call : AppendCall P) :
    (log.callAppend call).retention = log.retention := by
  unfold SessionEventLog.callAppend
  rcases append_cases log call.fields call.nowMs call.ulid with
    ⟨_, -, hs⟩ | ⟨-, ⟨_, hs⟩ | ⟨-, -, hs⟩⟩
  · rw [hs]
  · rw [hs]
  · rw [hs]
    rfl

/-- An event of the history is of the past, or the event some call asked
for. -/
theorem Recounts.mem_history {calls : List (AppendCall P)} {e : ServerEvent P}
    (h : log.Recounts past) (he : e ∈ history past log calls) :
    e ∈ past ∨ ∃ call ∈ calls, ∃ log' : SessionEventLog P,
      e = log'.nextEvent call.fields call.nowMs call.ulid := by
  induction calls generalizing log past with
  | nil => exact Or.inl he
  | cons call calls ih =>
    rcases ih (h.callAppend call) he with hnow | ⟨call', hmem, log', hlog'⟩
    · refine (List.mem_append.mp hnow).imp_right (fun hnew => ?_)
      rcases h.acceptedBy_cases call with ⟨hnone, -⟩ | ⟨-, -, hsome, -⟩
      · rw [hnone] at hnew
        exact absurd hnew List.not_mem_nil
      · rw [hsome] at hnew
        exact ⟨call, List.mem_cons_self, log, List.mem_singleton.mp hnew⟩
    · exact Or.inr ⟨call', List.mem_cons_of_mem call hmem, log', hlog'⟩

end Step

theorem retention_appendAll (calls : List (AppendCall P)) (log : SessionEventLog P) :
    (log.appendAll calls).retention = log.retention := by
  induction calls generalizing log with
  | nil => rfl
  | cons call calls ih => exact (ih (log.callAppend call)).trans (retention_callAppend log call)

/-- **What a sequence of calls does.** -/
theorem Recounts.appendAll {log : SessionEventLog P} {past : List (ServerEvent P)}
    (h : log.Recounts past) (calls : List (AppendCall P)) :
    (log.appendAll calls).Recounts (history past log calls) := by
  induction calls generalizing log past with
  | nil => exact h
  | cons call calls ih => exact ih (h.callAppend call)

/-- The log of a session. -/
def sessionLog (sessionId : String) (retention : ℕ) (calls : List (AppendCall P)) :
    SessionEventLog P :=
  ({ sessionId, retention } : SessionEventLog P).appendAll calls

/-- All events that the log of a session ever accepted. -/
def sessionHistory (sessionId : String) (retention : ℕ) (calls : List (AppendCall P)) :
    List (ServerEvent P) :=
  history [] { sessionId, retention } calls

theorem recounts_sessionLog (sessionId : String) (retention : ℕ) (calls : List (AppendCall P)) :
    (sessionLog sessionId retention calls).Recounts (sessionHistory sessionId retention calls) :=
  (recounts_new sessionId retention).appendAll calls

/-- An event of the session is the event some call asked for. -/
theorem mem_sessionHistory {sessionId : String} {retention : ℕ} {calls : List (AppendCall P)}
    {e : ServerEvent P} (he : e ∈ sessionHistory sessionId retention calls) :
    ∃ call ∈ calls, ∃ log : SessionEventLog P,
      e = log.nextEvent call.fields call.nowMs call.ulid :=
  ((recounts_new sessionId retention).mem_history he).resolve_left List.not_mem_nil

theorem retention_sessionLog (sessionId : String) (retention : ℕ)
    (calls : List (AppendCall P)) : (sessionLog sessionId retention calls).retention = retention :=
  retention_appendAll calls _

/-! ## What the log keeps of its history -/

section Kept

variable {log : SessionEventLog P} {past : List (ServerEvent P)}

theorem Recounts.events_eq_drop (h : log.Recounts past) (hr : 1 ≤ log.retention) :
    log.events = past.drop (past.length - log.retention) := by
  rw [h.events, lastSlice, if_neg (Nat.one_le_iff_ne_zero.mp hr)]

theorem Recounts.length_events (h : log.Recounts past) (hr : 1 ≤ log.retention) :
    log.events.length = min log.retention past.length := by
  rw [h.events_eq_drop hr, List.length_drop]
  omega

/-- The events kept have consecutive numbers, up to the last one given. -/
theorem Recounts.numbers_events (h : log.Recounts past) (hr : 1 ≤ log.retention) :
    log.events.map ServerEvent.sequenceNumber
      = List.range' (log.sequence + 1 - log.events.length) log.events.length := by
  rw [h.length_events hr, h.events_eq_drop hr, List.map_drop, h.numbers, List.drop_range',
    h.sequence]
  congr 1 <;> omega

/-- Two final events with one deduplication key are one event. -/
theorem Recounts.finals_unique (h : log.Recounts past) :
    past.Pairwise (fun e e' => ∀ key, e.finalKey = some key → e'.finalKey ≠ some key) := by
  have hne : past.Pairwise (fun e e' => e ≠ e') := List.Nodup.of_map ServerEvent.key h.unique
  refine hne.imp_of_mem ?_
  intro e e' he he' hne key hkey hkey'
  have hfirst := (h.finals key e).mpr ⟨he, hkey⟩
  rw [(h.finals key e').mpr ⟨he', hkey'⟩] at hfirst
  exact hne (Option.some.inj hfirst).symm

/-- A final event that is appended again is returned as it was the first
time. -/
theorem Recounts.append_again (h : log.Recounts past) {e : ServerEvent P} (he : e ∈ past)
    {f : EventFields P} {key : String} (hkey : e.finalKey = some key)
    (hf : f.finalKey = some key) (nowMs : ℕ) (ulid : String) :
    append f nowMs ulid log = (.ok e, log) := by
  refine append_of_suppressed ?_ nowMs ulid
  rw [suppressedBy, hf, Option.bind_some]
  exact (h.finals key e).mpr ⟨he, hkey⟩

/-- The oldest event kept. -/
theorem Recounts.head_events (h : log.Recounts past) (hr : 1 ≤ log.retention)
    {e : ServerEvent P} (he : log.events.head? = some e) :
    e.sequenceNumber + log.events.length = log.sequence + 1 := by
  have hnumbers := h.numbers_events hr
  have hle : log.events.length ≤ log.sequence := by
    rw [h.length_events hr, h.sequence]
    exact Nat.min_le_right _ _
  obtain ⟨rest, hcons⟩ := List.head?_eq_some_iff.mp he
  rw [hcons, List.map_cons, List.length_cons, List.range'_succ, List.cons.injEq] at hnumbers
  rw [hcons, List.length_cons] at hle ⊢
  omega

/-- **When a client is turned away**: when it asks for a negative number, for
one that was not given yet, or for events that are no longer kept. -/
theorem Recounts.replayFrom_error (h : log.Recounts past) (hr : 1 ≤ log.retention) (n : ℤ) :
    (∃ e, log.replayFrom n = .error e)
      ↔ n < 0 ∨ (log.sequence : ℤ) < n ∨ n + log.events.length < log.sequence := by
  unfold replayFrom
  split_ifs with h0 h1 h2
  · exact ⟨fun _ => Or.inl h0, fun _ => ⟨_, rfl⟩⟩
  · exact ⟨fun _ => Or.inr (Or.inl h1), fun _ => ⟨_, rfl⟩⟩
  · refine ⟨fun _ => Or.inr (Or.inr ?_), fun _ => ⟨_, rfl⟩⟩
    rcases hhead : log.events.head? with _ | e
    · rw [hhead] at h2
      cases h2
    · rw [hhead, Option.any_some] at h2
      have hle := h.head_events hr hhead
      have hlt := of_decide_eq_true h2
      omega
  · refine ⟨fun ⟨_, he⟩ => absurd he (by simp), fun hbad => ?_⟩
    rcases hhead : log.events.head? with _ | e
    · have hnil := List.head?_eq_none_iff.mp hhead
      have hlen := h.length_events hr
      rw [hnil, ← h.sequence] at hlen
      rw [hnil] at hbad
      simp only [List.length_nil] at hlen hbad
      omega
    · rw [hhead] at h2
      have hle := h.head_events hr hhead
      simp only [Option.any_some, decide_eq_true_eq] at h2
      omega

/-- **What a client is sent.** -/
theorem Recounts.replayFrom_ok (h : log.Recounts past) (hr : 1 ≤ log.retention) {n : ℤ}
    {events : List (ServerEvent P)} (hok : log.replayFrom n = .ok events) :
    events = past.drop n.toNat := by
  have hgood : ¬ ∃ e, log.replayFrom n = .error e := by
    rintro ⟨e, he⟩
    rw [hok] at he
    cases he
  rw [h.replayFrom_error hr] at hgood
  have hlast : events = log.events.filter (fun e => n < (e.sequenceNumber : ℤ)) := by
    unfold replayFrom at hok
    split_ifs at hok
    exact (Except.ok.inj hok).symm
  have hnat : log.events.filter (fun e => n < (e.sequenceNumber : ℤ))
      = log.events.filter (fun e => n.toNat < e.sequenceNumber) := by
    refine List.filter_congr fun e _ => ?_
    rw [decide_eq_decide]
    omega
  have hlen := h.length_events hr
  rw [hlast, hnat, filter_lt_eq_drop _ _ (h.numbers_events hr), h.events_eq_drop hr,
    List.drop_drop]
  congr 1
  rw [← h.events_eq_drop hr, hlen, h.sequence]
  rw [hlen, h.sequence] at hgood
  omega

end Kept

section Answers

variable {log : SessionEventLog P} {past : List (ServerEvent P)}

/-- **A call that returns and does not repeat a final event is accepted**: its
event has the next number, and is the last one that the log keeps. -/
theorem Recounts.append_ok (h : log.Recounts past) (hr : 1 ≤ log.retention) {f : EventFields P}
    {nowMs : ℕ} {ulid : String} {event : ServerEvent P} {after : SessionEventLog P}
    (hok : append f nowMs ulid log = (.ok event, after)) (hnew : repeats past f = false) :
    event = log.nextEvent f nowMs ulid ∧ event.sequenceNumber = log.sequence + 1
      ∧ after.sequence = event.sequenceNumber ∧ after.events.getLast? = some event := by
  rcases append_cases log f nowMs ulid with ⟨_, hs, -⟩ | ⟨-, ⟨_, he⟩ | ⟨-, -, hpush⟩⟩
  · rw [← h.isSome_suppressedBy, hs] at hnew
    cases hnew
  · rw [he] at hok
    cases hok
  · rw [hpush] at hok
    cases hok
    refine ⟨rfl, rfl, rfl, ?_⟩
    rw [push_events, lastSlice, if_neg (Nat.one_le_iff_ne_zero.mp hr), List.getLast?_drop,
      if_neg, List.getLast?_concat]
    rw [List.length_append, List.length_singleton]
    omega

/-- **When a call raises**: it does not repeat a final event, and its revision
is not positive or its event id and revision were accepted before. -/
theorem Recounts.append_error_iff (h : log.Recounts past) (f : EventFields P) (nowMs : ℕ)
    (ulid : String) :
    (∃ e, (append f nowMs ulid log).1 = .error e)
      ↔ repeats past f = false ∧ (f.revision < 1
        ∨ ((log.nextEvent f nowMs ulid).eventId, f.revision) ∈ past.map ServerEvent.key) := by
  rw [← h.keys, ← h.isSome_suppressedBy]
  rcases hs : log.suppressedBy f with _ | event
  · refine ⟨fun ⟨e, he⟩ => ⟨rfl, ?_⟩, fun ⟨_, hbad⟩ => ?_⟩
    · by_contra hgood
      obtain ⟨hr, hk⟩ := not_or.mp hgood
      rw [append_of_fresh hs (Nat.not_lt.mp hr) hk] at he
      cases he
    · rcases append_cases log f nowMs ulid with ⟨_, hsome, -⟩ | ⟨-, ⟨e, he⟩ | ⟨hr, hk, -⟩⟩
      · rw [hs] at hsome
        cases hsome
      · exact ⟨e, congrArg Prod.fst he⟩
      · exact absurd hbad (not_or.mpr ⟨Nat.not_lt.mpr hr, hk⟩)
  · rw [append_of_suppressed hs nowMs ulid]
    exact ⟨fun ⟨e, he⟩ => absurd he (by simp), fun ⟨hsome, _⟩ => absurd hsome (by simp)⟩

end Answers

/-- A call that raises leaves the log as it was. -/
theorem append_error {log after : SessionEventLog P} {f : EventFields P} {nowMs : ℕ}
    {ulid : String} {e : PyError} (h : append f nowMs ulid log = (.error e, after)) :
    after = log := by
  rcases append_cases log f nowMs ulid with ⟨_, -, hs⟩ | ⟨-, ⟨_, hs⟩ | ⟨-, -, hs⟩⟩
  · rw [hs] at h
    cases h
  · rw [hs] at h
    exact (congrArg Prod.snd h).symm
  · rw [hs] at h
    cases h

/-! ## The promises of the log -/

/-- **What the log represents of its history**, and what its methods keep of
it. -/
structure Represents (log : SessionEventLog P) (past : List (ServerEvent P)) : Prop where
  latest : log.events <:+ past
  count : log.events.length = min log.retention past.length
  consecutive : log.events.map ServerEvent.sequenceNumber
    = List.range' (log.sequence + 1 - log.events.length) log.events.length
  accepted_once : (past.map ServerEvent.key).Nodup
  final_once : past.Pairwise
    (fun e e' => ∀ key, e.finalKey = some key → e'.finalKey ≠ some key)
  repeated : ∀ e ∈ past, ∀ key, e.finalKey = some key → ∀ f : EventFields P,
    f.finalKey = some key → ∀ nowMs ulid, append f nowMs ulid log = (.ok e, log)
  raised : ∀ f nowMs ulid e after, append f nowMs ulid log = (.error e, after) → after = log
  raises : ∀ f nowMs ulid, (∃ e, (append f nowMs ulid log).1 = .error e)
    ↔ repeats past f = false ∧ (f.revision < 1
      ∨ ((log.nextEvent f nowMs ulid).eventId, f.revision) ∈ past.map ServerEvent.key)
  accepted : ∀ f nowMs ulid event after, append f nowMs ulid log = (.ok event, after) →
    repeats past f = false → event = log.nextEvent f nowMs ulid
      ∧ event.sequenceNumber = log.sequence + 1 ∧ after.sequence = event.sequenceNumber
      ∧ after.events.getLast? = some event

/-- **The log is its latest history**: after any sequence of calls of `append`
it keeps the last `retention` events, numbered up to the last number given; no
event was accepted twice, by its id and revision or by its deduplication key.
A call that repeats a final event, or raises, changes nothing; a call raises for
its revision or its event id only, and any other call is accepted, with the
next number, and its event is kept. -/
theorem sessionLog_represents (sessionId : String) {retention : ℕ} (hr : 1 ≤ retention)
    (calls : List (AppendCall P)) :
    (sessionLog sessionId retention calls).Represents
      (sessionHistory sessionId retention calls) := by
  have h := recounts_sessionLog sessionId retention calls
  have hr' : 1 ≤ (sessionLog sessionId retention calls).retention :=
    (retention_sessionLog sessionId retention calls).symm ▸ hr
  refine ⟨?_, h.length_events hr', h.numbers_events hr', h.unique, h.finals_unique, ?_, ?_,
    h.append_error_iff, ?_⟩
  · rw [h.events_eq_drop hr']
    exact List.drop_suffix _ _
  · intro e he key hkey f hf nowMs ulid
    exact h.append_again he hkey hf nowMs ulid
  · intro f nowMs ulid e after hraised
    exact append_error hraised
  · intro f nowMs ulid event after hok hnew
    exact h.append_ok hr' hok hnew

/-- **What a client with events `1 … n` gets**: all that it lacks, each once
and in order, unless it is turned away; and when it is turned away. -/
structure Resumes (log : SessionEventLog P) (past : List (ServerEvent P)) (n : ℤ) : Prop where
  complete : ∀ events, log.replayFrom n = .ok events →
    past.take n.toNat ++ events = past
      ∧ events.map ServerEvent.sequenceNumber
        = List.range' (n.toNat + 1) (log.sequence - n.toNat)
  raises : (∃ e, log.replayFrom n = .error e)
    ↔ n < 0 ∨ (log.sequence : ℤ) < n
      ∨ ∃ event ∈ past, (event.sequenceNumber : ℤ) = n + 1 ∧ event ∉ log.events

/-- The event with a given number has left the log just when it is not among
the last `retention` ones. -/
theorem Recounts.evicted_iff {log : SessionEventLog P} {past : List (ServerEvent P)}
    (h : log.Recounts past) (hr : 1 ≤ log.retention) {n : ℤ} (h0 : 0 ≤ n) :
    (∃ event ∈ past, (event.sequenceNumber : ℤ) = n + 1 ∧ event ∉ log.events)
      ↔ n + log.events.length < log.sequence := by
  have hkept := h.numbers_events hr
  have hle : log.events.length ≤ log.sequence := by
    rw [h.length_events hr, h.sequence]
    exact Nat.min_le_right _ _
  constructor
  · rintro ⟨event, hmem, hnum, hnot⟩
    by_contra hlt
    have hpast : event.sequenceNumber ∈ past.map ServerEvent.sequenceNumber :=
      List.mem_map_of_mem hmem
    rw [h.numbers, List.mem_range'_1, ← h.sequence] at hpast
    have hin : event.sequenceNumber ∈ log.events.map ServerEvent.sequenceNumber := by
      rw [hkept, List.mem_range'_1]
      omega
    -- an event of the log with this number is the event itself
    obtain ⟨event', hmem', hnum'⟩ := List.mem_map.mp hin
    have hinj : (past.map ServerEvent.sequenceNumber).Nodup := by
      rw [h.numbers]
      exact List.nodup_range'
    have hpast' : event' ∈ past := by
      rw [h.events_eq_drop hr] at hmem'
      exact List.mem_of_mem_drop hmem'
    rw [List.inj_on_of_nodup_map hinj hpast' hmem hnum'] at hmem'
    exact hnot hmem'
  · intro hlt
    have hex : n.toNat + 1 ∈ past.map ServerEvent.sequenceNumber := by
      rw [h.numbers, List.mem_range'_1, ← h.sequence]
      omega
    obtain ⟨event, hmem, hnum⟩ := List.mem_map.mp hex
    refine ⟨event, hmem, by omega, fun hin => ?_⟩
    have hin := List.mem_map_of_mem hin (f := ServerEvent.sequenceNumber)
    rw [hkept, List.mem_range'_1] at hin
    omega

/-- **A client that reconnects misses nothing and gets nothing twice**, and it
is turned away just when its number is negative or ahead of the server, or the
next event exists and has left the log. -/
theorem sessionLog_resumes (sessionId : String) {retention : ℕ} (hr : 1 ≤ retention)
    (calls : List (AppendCall P)) (n : ℤ) :
    (sessionLog sessionId retention calls).Resumes
      (sessionHistory sessionId retention calls) n := by
  have h := recounts_sessionLog sessionId retention calls
  have hr' : 1 ≤ (sessionLog sessionId retention calls).retention :=
    (retention_sessionLog sessionId retention calls).symm ▸ hr
  constructor
  · intro events hok
    rw [h.replayFrom_ok hr' hok]
    refine ⟨List.take_append_drop _ _, ?_⟩
    rw [List.map_drop, h.numbers, List.drop_range', h.sequence]
    congr 1
    omega
  · rw [h.replayFrom_error hr']
    refine or_congr_right' fun h0 => or_congr_right ?_
    exact (h.evicted_iff hr' (Int.not_lt.mp h0)).symm

/-! ### A log that keeps one event -/

/-- A final event, a second one with its deduplication key, and a warning. -/
def threeCalls : List (AppendCall String) :=
  [{ fields := { eventType := .transcriptFinal, isFinal := true, dedupKey := some "seg" }
     nowMs := 1
     ulid := "1" },
   { fields := { eventType := .transcriptFinal, isFinal := true, dedupKey := some "seg" }
     nowMs := 2
     ulid := "2" },
   { fields := { eventType := .pipelineWarning }
     nowMs := 3
     ulid := "3" }]

theorem sessionLog_represents_threeCalls :
    (sessionLog "ses" 1 threeCalls).Represents (sessionHistory "ses" 1 threeCalls) :=
  sessionLog_represents "ses" (by decide) threeCalls

theorem sessionLog_resumes_threeCalls :
    (sessionLog "ses" 1 threeCalls).Resumes (sessionHistory "ses" 1 threeCalls) 0 :=
  sessionLog_resumes "ses" (by decide) threeCalls 0

end SessionEventLog

end Sastt
