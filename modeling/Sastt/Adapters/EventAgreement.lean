import Sastt.Adapters.EventStores

/-!
# The two event stores side by side

Both stores are given the same events, one after another. The one in memory
refuses an event that does not come after the last of its session, or whose
revision it has. The one in PostgreSQL refuses an event with a number up to the
greatest of its session, or whose id it has, in whatever session and revision:
the id is the primary key. So the stores accept the same logs exactly as long as
no event that comes next takes an id that was used before (`agree_iff`), and a
second revision is one that does (`second_revision_is_refused`).

As long as they accept the same events, they answer the same (`Mirrors.replay`).
-/

namespace Sastt

variable {P : Type}

/-! ## Increasing lists -/

theorem foldr_max_of_increasing {numbers : List ℕ} (h : numbers.Pairwise (· < ·)) :
    numbers.foldr max 0 = numbers.getLast?.getD 0 := by
  induction numbers with
  | nil => rfl
  | cons n numbers ih =>
    obtain ⟨hfirst, hrest⟩ := List.pairwise_cons.mp h
    rw [List.foldr_cons, ih hrest]
    cases hlast : numbers.getLast? with
    | none =>
      rw [List.getLast?_eq_none_iff.mp hlast]
      exact Nat.max_zero n
    | some last =>
      have hlt : n < last := hfirst last (List.mem_of_getLast? hlast)
      rw [List.getLast?_cons, hlast]
      exact Nat.max_eq_right hlt.le

theorem min?_of_increasing {numbers : List ℕ} (h : numbers.Pairwise (· < ·)) :
    numbers.min? = numbers.head? :=
  List.min?_eq_head? (h.imp (fun hlt => Nat.min_eq_left (Nat.le_of_lt hlt)))

/-! ## One after another -/

/-- `append` on a connection, with nobody else at work. -/
def EventTable.append (fits : EventRow P → Bool) (t : EventTable P) (event : ServerEvent P) :
    Except PyError (ServerEvent P) × EventTable P :=
  (PostgresEventStore.append event).alone (EventTable.execute fits () 0) t

/-- `replay`, with nobody else at work. -/
def EventTable.replay (fits : EventRow P → Bool) (t : EventTable P) (sessionId : String)
    (lastSequenceNumber : ℤ) : Except PyError (List (ServerEvent P)) :=
  ((PostgresEventStore.replay sessionId lastSequenceNumber).alone (EventTable.execute fits () 0)
    t).1

/-- `last_sequence_number`, with nobody else at work. -/
def EventTable.lastSequenceNumber (fits : EventRow P → Bool) (t : EventTable P)
    (sessionId : String) : ℕ :=
  ((PostgresEventStore.lastSequenceNumber sessionId).alone (EventTable.execute fits () 0) t).1

variable {fits : EventRow P → Bool}

section Statements

open PostgresEventStore EventTable

variable (t : EventTable P)

@[simp] theorem alone_selectMax (sessionId : String) :
    (selectMax sessionId).alone (execute fits () 0) t = (t.maxSequence sessionId, t) := rfl

@[simp] theorem alone_selectMin (sessionId : String) :
    (selectMin sessionId).alone (execute fits () 0) t = (t.minSequence sessionId, t) := rfl

@[simp] theorem alone_selectAfter (sessionId : String) (lastSequenceNumber : ℤ) :
    (selectAfter sessionId lastSequenceNumber).alone (execute fits () 0) t
      = (t.after sessionId lastSequenceNumber, t) := rfl

@[simp] theorem alone_insert (row : EventRow P) :
    (insert row).alone (execute fits () 0) t
      = if fits row ∧ ∀ other ∈ t.rows, ¬ row.Conflicts other then
          (true, { t with pending := (0, row) :: t.pending })
        else (false, t) := by
  show (((execute fits () 0 t (.insert row)).2, (execute fits () 0 t (.insert row)).1) :
    Bool × EventTable P) = _
  unfold execute
  dsimp only
  split <;> rfl

@[simp] theorem alone_commit :
    commit.alone (execute fits () 0) t
      = ((), { t.rollback 0 with rows := t.rows ++ t.pendingOf 0 }) := rfl

@[simp] theorem alone_rollback :
    rollback.alone (execute fits () 0) t
      = ((), t.rollback 0) := rfl

end Statements

/-- **What `append` does to the table.** -/
theorem EventTable.append_eq (t : EventTable P) (event : ServerEvent P)
    (hpending : t.pending = []) :
    t.append fits event =
      if event.sequenceNumber ≤ t.maxSequence event.sessionId then
        (.error (notMonotonic event.sessionId), t)
      else if fits event.toRow ∧ ∀ row ∈ t.rows, ¬ event.toRow.Conflicts row then
        (.ok event, { t with rows := t.rows ++ [event.toRow] })
      else (.error (.sastt .sasttError "duplicate (session_id, event_id, revision)"
        [("event_id", .str event.eventId)]), t) := by
  obtain ⟨rows, pending⟩ := t
  subst hpending
  unfold append PostgresEventStore.append
  split
  · next hlate => simp [hlate, rollback]
  · next hnext =>
    split
    · next hfits =>
      have hinsert : (PostgresEventStore.insert event.toRow).alone (execute fits () 0) { rows }
          = _ := (alone_insert _ _).trans (if_pos hfits)
      simp [hnext, hinsert, pendingOf, rollback, -alone_insert]
    · next hfits =>
      have hinsert : (PostgresEventStore.insert event.toRow).alone (execute fits () 0) { rows }
          = _ := (alone_insert _ _).trans (if_neg hfits)
      simp [hnext, hinsert, rollback, -alone_insert]

/-! ## Stores that have accepted the same -/

/-- **The two stores have accepted these events**, in this order. -/
structure Mirrors (accepted : List (ServerEvent P)) (m : InMemoryEventStore P) (t : EventTable P) :
    Prop where
  events : ∀ sessionId, m.events sessionId = accepted.filter (fun e => e.sessionId = sessionId)
  keys : ∀ key, key ∈ m.keys ↔ ∃ e ∈ accepted, InMemoryEventStore.key e = key
  rows : t.rows = accepted.map ServerEvent.toRow
  pending : t.pending = []
  increasing : ∀ sessionId, ((m.events sessionId).map ServerEvent.sequenceNumber).Pairwise (· < ·)
  positive : ∀ e ∈ accepted, 1 ≤ e.sequenceNumber

namespace Mirrors

variable {accepted : List (ServerEvent P)} {m : InMemoryEventStore P} {t : EventTable P}

theorem nil (retention : ℕ) : Mirrors [] ({ retention } : InMemoryEventStore P) {} where
  events _ := rfl
  keys _ := by simp
  rows := rfl
  pending := rfl
  increasing _ := List.Pairwise.nil
  positive _ h := absurd h List.not_mem_nil

theorem ofSession (h : Mirrors accepted m t) (sessionId : String) :
    t.ofSession sessionId = (m.events sessionId).map ServerEvent.toRow := by
  unfold EventTable.ofSession
  rw [h.rows, h.events, List.filter_map]
  rfl

theorem sequenceNumbers (h : Mirrors accepted m t) (sessionId : String) :
    (t.ofSession sessionId).map EventRow.sequenceNumber
      = (m.events sessionId).map ServerEvent.sequenceNumber := by
  rw [h.ofSession, List.map_map]
  rfl

theorem maxSequence (h : Mirrors accepted m t) (sessionId : String) :
    t.maxSequence sessionId = m.lastSequenceNumber sessionId := by
  unfold EventTable.maxSequence InMemoryEventStore.lastSequenceNumber
  rw [h.sequenceNumbers, foldr_max_of_increasing (h.increasing sessionId), List.getLast?_map]

/-- **The last number is the same.** -/
theorem lastSequenceNumber (h : Mirrors accepted m t) (sessionId : String) :
    t.lastSequenceNumber fits sessionId = m.lastSequenceNumber sessionId := by
  unfold EventTable.lastSequenceNumber PostgresEventStore.lastSequenceNumber
  simp [h.maxSequence]

/-- **An event is next for both stores or for neither.** -/
theorem isNext_iff (h : Mirrors accepted m t) {event : ServerEvent P}
    (hpos : 1 ≤ event.sequenceNumber) :
    m.IsNext event ↔ ¬ event.sequenceNumber ≤ t.maxSequence event.sessionId := by
  rw [h.maxSequence, Nat.not_le]
  unfold InMemoryEventStore.IsNext InMemoryEventStore.lastSequenceNumber
  generalize (m.events event.sessionId).getLast? = last
  cases last with
  | none => simpa using Nat.lt_of_lt_of_le Nat.zero_lt_one hpos
  | some last => simp

/-- What comes after a cursor is the same. -/
theorem after (h : Mirrors accepted m t) (sessionId : String) (lastSequenceNumber : ℤ) :
    (t.after sessionId lastSequenceNumber).mapM eventFromPayload
      = .ok ((m.events sessionId).filter (fun e => lastSequenceNumber < e.sequenceNumber)) := by
  have hsorted : ((t.ofSession sessionId).filter
      (fun row => lastSequenceNumber < row.sequenceNumber)).Pairwise
        (fun a b => a.sequenceNumber ≤ b.sequenceNumber) := by
    rw [h.ofSession]
    refine (List.pairwise_map.mpr ?_).filter _
    exact (List.pairwise_map.mp (h.increasing sessionId)).imp Nat.le_of_lt
  have hread : ∀ events : List (ServerEvent P),
      (events.map ServerEvent.toObject).mapM eventFromPayload = .ok events := by
    intro events
    induction events with
    | nil => rfl
    | cons event events ih =>
      rw [List.map_cons, List.mapM_cons, eventFromPayload_toObject, ih]
      rfl
  unfold EventTable.after
  rw [hsorted.insertionSort_eq, h.ofSession, List.filter_map, List.map_map]
  exact hread _

/-- **A replay is the same.** -/
theorem replay (h : Mirrors accepted m t) (sessionId : String) (lastSequenceNumber : ℤ) :
    t.replay fits sessionId lastSequenceNumber = m.replay sessionId lastSequenceNumber := by
  have hmin : t.minSequence sessionId
      = ((m.events sessionId).map ServerEvent.sequenceNumber).head?.getD 0 := by
    unfold EventTable.minSequence
    rw [h.sequenceNumbers, min?_of_increasing (h.increasing sessionId)]
  have hafter := h.after sessionId lastSequenceNumber
  unfold EventTable.replay PostgresEventStore.replay InMemoryEventStore.replay
  cases hevents : m.events sessionId with
  | nil =>
    rw [hevents] at hmin hafter
    simp_all
  | cons first events =>
    have hfirst : first.sequenceNumber ≠ 0 := by
      have hmem : first ∈ accepted :=
        List.mem_of_mem_filter (h.events sessionId ▸ hevents ▸ List.mem_cons_self)
      exact Nat.one_le_iff_ne_zero.mp (h.positive first hmem)
    rw [hevents] at hmin hafter
    by_cases hold : lastSequenceNumber < (first.sequenceNumber : ℤ) - 1
    · simp [hmin, hfirst, hold]
    · simp [hmin, hfirst, hold, hafter]

/-- **Under an event that is next, the rows it conflicts with are those with
its id.** -/
theorem conflicts_iff {event : ServerEvent P}
    (hnext : ¬ event.sequenceNumber ≤ t.maxSequence event.sessionId) {row : EventRow P}
    (hrow : row ∈ t.rows) : event.toRow.Conflicts row ↔ event.eventId = row.id := by
  constructor
  · rintro (hid | ⟨hsession, hnumber⟩ | ⟨-, hid, -⟩)
    · exact hid
    · have hle : row.sequenceNumber ≤ t.maxSequence event.sessionId :=
        (congrArg t.maxSequence hsession) ▸ EventTable.le_maxSequence hrow
      exact absurd (hnumber.trans_le hle) hnext
    · exact hid
  · exact fun hid => Or.inl hid

/-- An event with a new id has a new key. -/
theorem key_new (h : Mirrors accepted m t) {event : ServerEvent P}
    (hid : ∀ row ∈ t.rows, event.eventId ≠ row.id) : InMemoryEventStore.key event ∉ m.keys := by
  intro hkey
  obtain ⟨e, he, hsame⟩ := (h.keys _).mp hkey
  refine hid e.toRow (h.rows ▸ List.mem_map_of_mem he) ?_
  exact (congrArg (fun key => key.2.1) hsame).symm

end Mirrors

/-! ## Logs -/

/-- **The two stores.** -/
structure EventStores (P : Type) where
  memory : InMemoryEventStore P
  table : EventTable P := {}

namespace EventStores

/-- **One call to both.** -/
def append (fits : EventRow P → Bool) (s : EventStores P) (event : ServerEvent P) :
    EventStores P where
  memory := (InMemoryEventStore.append event s.memory).2
  table := (s.table.append fits event).2

/-- Both accept the event, or both refuse it. -/
def SameVerdict (fits : EventRow P → Bool) (s : EventStores P) (event : ServerEvent P) : Prop :=
  (InMemoryEventStore.append event s.memory).1.isOk = (s.table.append fits event).1.isOk

/-- **They answer the same**, whatever they are asked. -/
def SameAnswers (fits : EventRow P → Bool) (s : EventStores P) : Prop :=
  ∀ sessionId, s.table.lastSequenceNumber fits sessionId = s.memory.lastSequenceNumber sessionId
    ∧ ∀ lastSequenceNumber, s.table.replay fits sessionId lastSequenceNumber
        = s.memory.replay sessionId lastSequenceNumber

/-- **An event that is new in memory can be a row of the table**: its id is
that of no row, and the columns can hold it. -/
def IdsNew (fits : EventRow P → Bool) (s : EventStores P) (event : ServerEvent P) : Prop :=
  s.memory.IsNext event → InMemoryEventStore.key event ∉ s.memory.keys →
    fits event.toRow ∧ ∀ row ∈ s.table.rows, event.eventId ≠ row.id

instance (fits : EventRow P → Bool) (s : EventStores P) (event : ServerEvent P) :
    Decidable (s.SameVerdict fits event) := inferInstanceAs (Decidable (_ = _))

instance (fits : EventRow P → Bool) (s : EventStores P) (event : ServerEvent P) :
    Decidable (s.IdsNew fits event) := inferInstanceAs (Decidable (_ → _ → _))

/-- The call is one the stores are made for: the numbers start at 1, and the
session has fewer events than are retained. -/
def Regular (s : EventStores P) (event : ServerEvent P) : Prop :=
  1 ≤ event.sequenceNumber
    ∧ (s.memory.events event.sessionId).length < s.memory.retention

instance (s : EventStores P) (event : ServerEvent P) : Decidable (s.Regular event) :=
  inferInstanceAs (Decidable (_ ∧ _))

section Steps

variable {accepted : List (ServerEvent P)} {s : EventStores P} {event : ServerEvent P}

/-- **What PostgreSQL accepts.** -/
theorem accepts_iff (h : Mirrors accepted s.memory s.table) (hpos : 1 ≤ event.sequenceNumber) :
    (s.table.append fits event).1.isOk = true ↔
      s.memory.IsNext event ∧ fits event.toRow ∧ ∀ row ∈ s.table.rows, event.eventId ≠ row.id := by
  rw [EventTable.append_eq _ _ h.pending]
  by_cases hlate : event.sequenceNumber ≤ s.table.maxSequence event.sessionId
  · rw [if_pos hlate, h.isNext_iff hpos]
    exact iff_of_false Bool.false_ne_true (fun hnext => hnext.1 hlate)
  · have hconflicts : (∀ row ∈ s.table.rows, ¬ event.toRow.Conflicts row)
        ↔ ∀ row ∈ s.table.rows, event.eventId ≠ row.id :=
      forall₂_congr (fun _ hrow => not_congr (Mirrors.conflicts_iff hlate hrow))
    rw [if_neg hlate, h.isNext_iff hpos, ← hconflicts]
    split
    · next hfits => exact iff_of_true rfl ⟨hlate, hfits⟩
    · next hfits => exact iff_of_false Bool.false_ne_true (fun hnext => hfits hnext.2)

/-- **What memory accepts.** -/
theorem accepts_inMemory_iff : (InMemoryEventStore.append event s.memory).1.isOk = true ↔
    s.memory.IsNext event ∧ InMemoryEventStore.key event ∉ s.memory.keys := by
  unfold InMemoryEventStore.append
  split
  · next hlate => exact iff_of_false Bool.false_ne_true (fun hnext => hlate hnext.1)
  · next hnext =>
    split
    · next hkey => exact iff_of_false Bool.false_ne_true (fun hnew => hnew.2 hkey)
    · next hkey => exact iff_of_true rfl ⟨not_not.mp hnext, hkey⟩

/-- **The verdict is the same exactly if the id is new.** -/
theorem sameVerdict_iff (h : Mirrors accepted s.memory s.table)
    (hpos : 1 ≤ event.sequenceNumber) : s.SameVerdict fits event ↔ s.IdsNew fits event := by
  unfold SameVerdict IdsNew
  rw [Bool.eq_iff_iff, accepts_iff h hpos, accepts_inMemory_iff]
  constructor
  · exact fun hiff hnext hkey => (hiff.mp ⟨hnext, hkey⟩).2
  · exact fun hnew => ⟨fun ⟨hnext, hkey⟩ => ⟨hnext, hnew hnext hkey⟩,
      fun ⟨hnext, _, hid⟩ => ⟨hnext, h.key_new hid⟩⟩

/-- What an accepted event leaves in the two stores. -/
theorem append_of_accepted (h : Mirrors accepted s.memory s.table) (hregular : s.Regular event)
    (hmemory : (InMemoryEventStore.append event s.memory).1.isOk = true)
    (htable : (s.table.append fits event).1.isOk = true) :
    s.append fits event =
      { memory := { s.memory with
          keys := insert (InMemoryEventStore.key event) s.memory.keys
          events := Function.update s.memory.events event.sessionId
            (s.memory.events event.sessionId ++ [event]) }
        table := { s.table with rows := s.table.rows ++ [event.toRow] } } := by
  obtain ⟨hpos, hroom⟩ := hregular
  obtain ⟨hnext, hkey⟩ := accepts_inMemory_iff.mp hmemory
  obtain ⟨-, hfits⟩ := (accepts_iff h hpos).mp htable
  have hlate := (h.isNext_iff hpos).mp hnext
  have hfits' : fits event.toRow ∧ ∀ row ∈ s.table.rows, ¬ event.toRow.Conflicts row :=
    ⟨hfits.1, fun row hrow => mt (Mirrors.conflicts_iff hlate hrow).mp (hfits.2 row hrow)⟩
  have hdrop : (s.memory.events event.sessionId ++ [event]).length - s.memory.retention = 0 := by
    rw [List.length_append, List.length_singleton]
    omega
  unfold append
  rw [EventTable.append_eq _ _ h.pending, if_neg hlate, if_pos hfits']
  unfold InMemoryEventStore.append
  rw [if_neg (not_not.mpr hnext), if_neg hkey]
  dsimp only
  rw [hdrop, List.drop_zero]

/-- What a refused event leaves. -/
theorem append_of_refused (h : Mirrors accepted s.memory s.table)
    (hmemory : (InMemoryEventStore.append event s.memory).1.isOk = false)
    (htable : (s.table.append fits event).1.isOk = false) : s.append fits event = s := by
  have hm : (InMemoryEventStore.append event s.memory).2 = s.memory := by
    unfold InMemoryEventStore.append at hmemory ⊢
    split
    · rfl
    · next hnext =>
      rw [if_neg hnext] at hmemory
      split
      · rfl
      · next hkey =>
        rw [if_neg hkey] at hmemory
        cases hmemory
  have ht : (s.table.append fits event).2 = s.table := by
    rw [EventTable.append_eq _ _ h.pending] at htable ⊢
    split
    · rfl
    · next hlate =>
      rw [if_neg hlate] at htable
      split
      · next hfits =>
        rw [if_pos hfits] at htable
        cases htable
      · rfl
  unfold append
  rw [hm, ht]

/-- **One more event in both.** -/
theorem mirrors_accepted (h : Mirrors accepted s.memory s.table)
    (hpos : 1 ≤ event.sequenceNumber) (hnext : s.memory.IsNext event) :
    Mirrors (accepted ++ [event])
      { s.memory with
          keys := insert (InMemoryEventStore.key event) s.memory.keys
          events := Function.update s.memory.events event.sessionId
            (s.memory.events event.sessionId ++ [event]) }
      { s.table with rows := s.table.rows ++ [event.toRow] } where
  events sessionId := by
    rw [List.filter_append, ← h.events]
    by_cases hsession : sessionId = event.sessionId
    · subst hsession
      simp
    · simp [Function.update_of_ne hsession, Ne.symm hsession]
  keys key := by
    simp [h.keys, or_comm, or_and_right, exists_or, eq_comm]
  rows := by
    simp [h.rows]
  pending := h.pending
  increasing sessionId := by
    by_cases hsession : sessionId = event.sessionId
    · subst hsession
      simp only [Function.update_self, List.map_append]
      refine List.pairwise_append.mpr ⟨h.increasing _, List.pairwise_singleton _ _, ?_⟩
      intro n hn m hm
      rw [List.map_singleton, List.mem_singleton] at hm
      have hle : n ≤ s.table.maxSequence event.sessionId :=
        le_foldr_max ((h.sequenceNumbers event.sessionId).symm ▸ hn)
      have hlt := (h.isNext_iff hpos).mp hnext
      omega
    · simpa [Function.update_of_ne hsession] using h.increasing sessionId
  positive e he := by
    cases List.mem_append.mp he with
    | inl he => exact h.positive e he
    | inr he => exact List.mem_singleton.mp he ▸ hpos

/-- **As long as the verdicts are the same, the stores mirror each other.** -/
theorem mirrors_append (h : Mirrors accepted s.memory s.table) (hregular : s.Regular event)
    (hsame : s.SameVerdict fits event) :
    ∃ accepted, Mirrors accepted (s.append fits event).memory (s.append fits event).table := by
  unfold SameVerdict at hsame
  cases hmemory : (InMemoryEventStore.append event s.memory).1.isOk with
  | false =>
    rw [append_of_refused h hmemory (hsame ▸ hmemory)]
    exact ⟨accepted, h⟩
  | true =>
    rw [append_of_accepted h hregular hmemory (hsame ▸ hmemory)]
    exact ⟨_, mirrors_accepted h hregular.1 (accepts_inMemory_iff.mp hmemory).1⟩

end Steps

/-- **The stores accept the same logs and answer the same exactly as long as
an event that comes next has a new id.** -/
theorem agree_iff (fits : EventRow P → Bool) (retention : ℕ) (events : List (ServerEvent P))
    (hregular : EachStep (append fits) Regular { memory := { retention } } events) :
    (EachStep (append fits) (SameVerdict fits) { memory := { retention } } events
        ∧ Along (append fits) (SameAnswers fits) { memory := { retention } } events)
      ↔ EachStep (append fits) (IdsNew fits) { memory := { retention } } events := by
  let Mirroring (s : EventStores P) : Prop := ∃ accepted, Mirrors accepted s.memory s.table
  have hstart : Mirroring { memory := { retention } } := ⟨[], Mirrors.nil retention⟩
  have hcongr : EachStep (append fits) (fun s e => s.Regular e ∧ s.SameVerdict fits e)
        { memory := { retention } } events
      ↔ EachStep (append fits) (fun s e => s.Regular e ∧ s.IdsNew fits e)
        { memory := { retention } } events :=
    eachStep_congr_of_kept hstart
      (fun _ _ ⟨_, h⟩ => and_congr_right (fun hregular => sameVerdict_iff h hregular.1))
      (fun _ _ ⟨_, h⟩ hC => mirrors_append h hC.1 hC.2)
  rw [eachStep_and, eachStep_and] at hcongr
  constructor
  · exact fun ⟨hsame, _⟩ => (hcongr.mp ⟨hregular, hsame⟩).2
  · intro hnew
    have hsame := (hcongr.mpr ⟨hregular, hnew⟩).2
    refine ⟨hsame, fun pre hpre => ?_⟩
    obtain ⟨accepted, h⟩ := along_of_eachStep hstart
      (fun _ _ ⟨_, h⟩ hC => mirrors_append h hC.1 hC.2)
      (eachStep_and.mpr ⟨hregular, hsame⟩) pre hpre
    exact fun sessionId => ⟨h.lastSequenceNumber sessionId, h.replay sessionId⟩

/-! ### A second revision -/

/-- Two events with two ids are accepted by both stores. -/
theorem agree_iff_two :
    EachStep (append (fun _ => true)) (SameVerdict (fun _ => true))
        { memory := { retention := 10 } }
        [transcriptEvent "evt_1" 1 1, transcriptEvent "evt_2" 2 2]
      ∧ Along (append (fun _ => true)) (SameAnswers (fun _ => true))
        { memory := { retention := 10 } }
        [transcriptEvent "evt_1" 1 1, transcriptEvent "evt_2" 2 2] :=
  (agree_iff _ 10 _ (by decide +kernel)).mpr (by decide +kernel)

/-- **The second revision of an event is accepted in memory and refused in
PostgreSQL**: the id of the event is the primary key. -/
theorem second_revision_is_refused :
    EachStep (append (fun _ => true)) Regular { memory := { retention := 10 } }
        [transcriptEvent "evt_1" 1 1, transcriptEvent "evt_1" 2 2]
      ∧ ¬ EachStep (append (fun _ => true)) (SameVerdict (fun _ => true))
        { memory := { retention := 10 } }
        [transcriptEvent "evt_1" 1 1, transcriptEvent "evt_1" 2 2] := by
  decide +kernel

end EventStores

end Sastt
