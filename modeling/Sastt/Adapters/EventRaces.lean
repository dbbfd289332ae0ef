import Sastt.Adapters.EventStores

/-!
# Appends that race

`PostgresEventStore.append` asks for the greatest number of the session, and
then inserts. Appends of one session that overlap have asked the same question:
each has its number checked against what was there before both, and the index
only keeps the numbers apart. So the one with the greater number may commit
first, and a client that has replayed up to it never asks for the other
(`overtaken_event_is_missed`).

Apart from such races the log grows at its end, and cursors are sound
(`cursor_misses_nothing_iff`).
-/

namespace Sastt

variable {P : Type}

/-! ## Connections -/

/-- A call of the store, with what it needs. -/
inductive EventCall (P : Type)
  | append (event : ServerEvent P)
  | replay (sessionId : String) (lastSequenceNumber : ℤ)
  | lastSequenceNumber (sessionId : String)

/-- The program a call runs, on a connection of the pool: no transaction is open
on it. What it returns is for the caller. -/
def EventCall.program : EventCall P → EventProgram P Unit
  | .append event => do
    PostgresEventStore.rollback
    let _ ← PostgresEventStore.append event
    return ()
  | .replay sessionId cursor => do
    PostgresEventStore.rollback
    let _ ← PostgresEventStore.replay sessionId cursor
    return ()
  | .lastSequenceNumber sessionId => do
    PostgresEventStore.rollback
    let _ ← PostgresEventStore.lastSequenceNumber sessionId
    return ()

/-- **The table, and what each connection has read of it**: the greatest number
it was told last, of which session, and how many rows there were. -/
structure WatchedTable (P : Type) extends EventTable P where
  read : ℕ → Option (String × ℕ) := fun _ => none
  seen : ℕ → ℕ := fun _ => 0

/-- One statement, watched. -/
def WatchedTable.execute (fits : EventRow P → Bool) (_ : Unit) (client : ℕ) (t : WatchedTable P)
    (c : EventCommand P) : WatchedTable P × EventReply c :=
  let result := t.toEventTable.execute fits () client c
  ({ toEventTable := result.1
     read := match c with
      | .selectMax sessionId =>
        Function.update t.read client (some (sessionId, t.maxSequence sessionId))
      | _ => t.read
     seen := match c with
      | .selectMax _ => Function.update t.seen client t.rows.length
      | _ => t.seen }, result.2)

/-- The table and the connections to it. -/
abbrev EventSystem (P : Type) : Type := SharedStore (EventCommand P) EventReply (WatchedTable P)

abbrev EventSystemEvent (P : Type) : Type := ClientEvent (EventCall P) Unit

namespace EventSystem

/-- **An `INSERT` waits** for another connection that has inserted a row it
conflicts with, until that transaction has ended. -/
def Waits (s : EventSystem P) (e : EventSystemEvent P) : Prop :=
  match s.issued e with
  | some (client, _, .insert row) =>
    (∀ other ∈ s.store.rows, ¬ row.Conflicts other)
      ∧ ∃ p ∈ s.store.pending, p.1 ≠ client ∧ row.Conflicts p.2
  | _ => False

instance (s : EventSystem P) (e : EventSystemEvent P) : Decidable (s.Waits e) := by
  unfold Waits
  split <;> infer_instance

/-- **One event.** With a connection that breaks, its transaction is gone. -/
def step (fits : EventRow P → Bool) (s : EventSystem P) (e : EventSystemEvent P) : EventSystem P :=
  if s.Waits e then s
  else
    let next := SharedStore.step (WatchedTable.execute fits) EventCall.program s e
    match e with
    | .crash client =>
      { next with store := { next.store with toEventTable := next.store.rollback client } }
    | _ => next

/-! ## What a cursor needs -/

/-- **The log has grown at its end**: what has become visible has greater
numbers than what was visible. -/
def InOrder (s t : EventSystem P) : Prop :=
  ∃ new, t.store.rows = s.store.rows ++ new ∧
    ∀ row ∈ new, ∀ old ∈ s.store.rows, old.sessionId = row.sessionId →
      old.sequenceNumber < row.sequenceNumber

/-- **A client that goes on misses nothing**: what it was sent before, up to the
last number there was, and what it is sent from there on, is all there is. -/
def Continues (s t : EventSystem P) : Prop :=
  ∀ sessionId (lastSequenceNumber : ℤ), lastSequenceNumber ≤ s.store.maxSequence sessionId →
    t.store.after sessionId lastSequenceNumber
      = s.store.after sessionId lastSequenceNumber
        ++ t.store.after sessionId (s.store.maxSequence sessionId)

/-- **An append that commits has not been overtaken**: the rows of its session
that have become visible since it asked for the greatest number have smaller
numbers than its own. -/
def NotOvertaken (s : EventSystem P) (e : EventSystemEvent P) : Prop :=
  match s.issued e with
  | some (client, _, .commit) =>
    ∀ row ∈ s.store.pendingOf client, ∀ other ∈ s.store.rows.drop (s.store.seen client),
      other.sessionId = row.sessionId → other.sequenceNumber < row.sequenceNumber
  | _ => True

instance (s : EventSystem P) (e : EventSystemEvent P) : Decidable (s.NotOvertaken e) := by
  unfold NotOvertaken
  split <;> infer_instance

instance : Std.Refl (InOrder (P := P)) where
  refl _ := ⟨[], (List.append_nil _).symm, fun _ h => absurd h List.not_mem_nil⟩

instance : IsTrans (EventSystem P) InOrder where
  trans _ _ _ := by
    rintro ⟨new, ht, hnew⟩ ⟨newer, hu, hnewer⟩
    refine ⟨new ++ newer, by rw [hu, ht, List.append_assoc], fun row hrow old hold => ?_⟩
    cases List.mem_append.mp hrow with
    | inl hrow => exact hnew row hrow old hold
    | inr hrow => exact hnewer row hrow old (ht ▸ List.mem_append_left new hold)

end EventSystem

/-! ## The guard -/

/-- What `append` may insert, knowing what it has inserted and the greatest
number it was told: a row of that session with a greater one. It asks before it
inserts. -/
def guardedInserts :
    Discipline (EventCommand P) EventReply (List (EventRow P) × Option (String × ℕ)) where
  allows known
    | .selectMax _ => known.1 = []
    | .insert row =>
      ∃ highest, known.2 = some (row.sessionId, highest) ∧ highest < row.sequenceNumber
    | _ => True
  learn known
    | .selectMax sessionId => fun highest => (known.1, some (sessionId, highest))
    | .insert row => fun inserted : Bool => (if inserted then row :: known.1 else known.1, known.2)
    | .commit | .rollback => fun _ => ([], known.2)
    | .selectMin _ | .selectAfter _ _ => fun _ => known

/-- **The calls insert what they may.** -/
theorem guarded_eventProgram (call : EventCall P)
    (known : List (EventRow P) × Option (String × ℕ)) :
    call.program.Obeys guardedInserts known := by
  cases call with
  | append event =>
    refine ⟨True.intro, fun _ => Program.wp_bind (Program.wp_bind (Program.wp_bind ?_))⟩
    refine Program.wp_issue ?_ (fun highest => ?_)
    · exact rfl
    · split
      · exact ⟨True.intro, fun _ => True.intro⟩
      · next hnext =>
        refine ⟨⟨highest, rfl, Nat.not_le.mp hnext⟩, fun ok => ?_⟩
        cases ok <;> exact ⟨True.intro, fun _ => True.intro⟩
  | replay sessionId cursor =>
    refine ⟨True.intro, fun _ => Program.wp_bind (Program.wp_bind (Program.wp_bind ?_))⟩
    refine Program.wp_issue ?_ (fun lowest => ?_)
    · exact True.intro
    · split
      · exact ⟨True.intro, fun _ => True.intro⟩
      · exact ⟨True.intro, fun _ => ⟨True.intro, fun _ => True.intro⟩⟩
  | lastSequenceNumber sessionId =>
    exact ⟨True.intro, fun _ => ⟨rfl, fun _ => ⟨True.intro, fun _ => True.intro⟩⟩⟩

/-! ## Transactions -/

section Transactions

variable (t : EventTable P) {client client' : ℕ}

@[simp] theorem EventTable.pendingOf_rollback : (t.rollback client).pendingOf client = [] := by
  unfold rollback pendingOf
  simp [List.filter_filter]

theorem EventTable.pendingOf_rollback_of_ne (h : client' ≠ client) :
    (t.rollback client).pendingOf client' = t.pendingOf client' := by
  unfold rollback pendingOf
  rw [List.filter_filter]
  congr 1
  refine List.filter_congr (fun p _ => ?_)
  by_cases hp : p.1 = client'
  · simp [hp, h]
  · simp [hp]

theorem EventTable.pendingOf_insert (row : EventRow P) :
    ({ t with pending := (client, row) :: t.pending } : EventTable P).pendingOf client
      = row :: t.pendingOf client := by
  unfold pendingOf
  simp

theorem EventTable.pendingOf_insert_of_ne (row : EventRow P) (h : client' ≠ client) :
    ({ t with pending := (client, row) :: t.pending } : EventTable P).pendingOf client'
      = t.pendingOf client' := by
  unfold pendingOf
  rw [List.filter_cons_of_neg]
  simpa using h.symm

end Transactions

/-- What a connection knows. -/
def WatchedTable.known (t : WatchedTable P) (client : ℕ) :
    List (EventRow P) × Option (String × ℕ) :=
  (t.pendingOf client, t.read client)

variable {fits : EventRow P → Bool}

theorem WatchedTable.known_execute (t : WatchedTable P) (client : ℕ) (c : EventCommand P) :
    (t.execute fits () client c).1.known client
      = guardedInserts.learn (t.known client) c (t.execute fits () client c).2 := by
  cases c with
  | selectMax sessionId =>
    exact Prod.ext rfl (Function.update_self client _ t.read)
  | selectMin _ => rfl
  | selectAfter _ _ => rfl
  | insert row =>
    unfold execute EventTable.execute known
    dsimp only
    split
    · exact Prod.ext (EventTable.pendingOf_insert _ row) rfl
    · rfl
  | commit => exact Prod.ext (EventTable.pendingOf_rollback _) rfl
  | rollback => exact Prod.ext (EventTable.pendingOf_rollback _) rfl

theorem WatchedTable.known_execute_other (t : WatchedTable P) {client client' : ℕ}
    (c : EventCommand P) (h : client' ≠ client) :
    (t.execute fits () client c).1.known client' = t.known client' := by
  cases c with
  | selectMax sessionId => exact Prod.ext rfl (Function.update_of_ne h _ t.read)
  | selectMin _ => rfl
  | selectAfter _ _ => rfl
  | insert row =>
    unfold execute EventTable.execute known
    dsimp only
    split
    · exact Prod.ext (EventTable.pendingOf_insert_of_ne _ row h) rfl
    · rfl
  | commit => exact Prod.ext (EventTable.pendingOf_rollback_of_ne _ h) rfl
  | rollback => exact Prod.ext (EventTable.pendingOf_rollback_of_ne _ h) rfl

/-! ## What the guard was asked about -/

/-- **What is inserted comes after what was there** when its number was
checked. -/
structure WatchedTable.Checked (t : WatchedTable P) : Prop where
  seen_le : ∀ client, t.seen client ≤ t.rows.length
  read_le : ∀ client sessionId highest, t.read client = some (sessionId, highest) →
    ∀ old ∈ t.rows.take (t.seen client), old.sessionId = sessionId → old.sequenceNumber ≤ highest
  pending_lt : ∀ client, ∀ row ∈ t.pendingOf client, ∀ old ∈ t.rows.take (t.seen client),
    old.sessionId = row.sessionId → old.sequenceNumber < row.sequenceNumber
  pending_pos : ∀ client, ∀ row ∈ t.pendingOf client, 1 ≤ row.sequenceNumber
  rows_pos : ∀ row ∈ t.rows, 1 ≤ row.sequenceNumber

namespace WatchedTable.Checked

variable {t : WatchedTable P}

theorem rollback (h : t.Checked) (client : ℕ) :
    ({ t with toEventTable := t.toEventTable.rollback client } : WatchedTable P).Checked := by
  have hpending : ∀ client', ∀ row ∈ (t.toEventTable.rollback client).pendingOf client',
      row ∈ t.pendingOf client' := by
    intro client' row hrow
    by_cases hc : client' = client
    · subst hc
      rw [EventTable.pendingOf_rollback] at hrow
      exact absurd hrow List.not_mem_nil
    · rwa [EventTable.pendingOf_rollback_of_ne _ hc] at hrow
  exact ⟨h.seen_le, h.read_le, fun client' row hrow => h.pending_lt client' row (hpending _ _ hrow),
    fun client' row hrow => h.pending_pos client' row (hpending _ _ hrow), h.rows_pos⟩

theorem execute (h : t.Checked) {client : ℕ} {c : EventCommand P}
    (hc : guardedInserts.allows (t.known client) c) :
    (t.execute fits () client c).1.Checked := by
  cases c with
  | selectMax sessionId =>
    have hpending : t.pendingOf client = [] := hc
    refine ⟨fun client' => ?_, fun client' sessionId' highest hread old hold hsession => ?_,
      fun client' row hrow old hold => ?_, h.pending_pos, h.rows_pos⟩
    · by_cases hc' : client' = client
      · subst hc'
        exact (Function.update_self client' _ t.seen).le
      · exact (Function.update_of_ne hc' _ t.seen).trans_le (h.seen_le client')
    · by_cases hc' : client' = client
      · subst hc'
        have htold := (Function.update_self client' _ t.read).symm.trans hread
        cases htold
        exact hsession ▸ EventTable.le_maxSequence (List.mem_of_mem_take hold)
      · have htold := (Function.update_of_ne hc' _ t.read).symm.trans hread
        have hseen := Function.update_of_ne hc' t.rows.length t.seen
        exact h.read_le client' sessionId' highest htold old (hseen ▸ hold) hsession
    · by_cases hc' : client' = client
      · subst hc'
        exact absurd (hpending ▸ hrow) List.not_mem_nil
      · have hseen := Function.update_of_ne hc' t.rows.length t.seen
        exact h.pending_lt client' row hrow old (hseen ▸ hold)
  | selectMin _ => exact h
  | selectAfter _ _ => exact h
  | insert row =>
    obtain ⟨highest, hread, hlt⟩ := hc
    unfold WatchedTable.execute EventTable.execute
    dsimp only
    split
    · refine ⟨h.seen_le, h.read_le, fun client' row' hrow old hold hsession => ?_,
        fun client' row' hrow => ?_, h.rows_pos⟩
      · by_cases hc' : client' = client
        · subst hc'
          rw [EventTable.pendingOf_insert] at hrow
          cases List.mem_cons.mp hrow with
          | inl hrow =>
            subst hrow
            exact (h.read_le client' row'.sessionId highest hread old hold hsession).trans_lt hlt
          | inr hrow => exact h.pending_lt client' row' hrow old hold hsession
        · rw [EventTable.pendingOf_insert_of_ne _ _ hc'] at hrow
          exact h.pending_lt client' row' hrow old hold hsession
      · by_cases hc' : client' = client
        · subst hc'
          rw [EventTable.pendingOf_insert] at hrow
          cases List.mem_cons.mp hrow with
          | inl hrow => exact hrow ▸ Nat.one_le_of_lt hlt
          | inr hrow => exact h.pending_pos client' row' hrow
        · rw [EventTable.pendingOf_insert_of_ne _ _ hc'] at hrow
          exact h.pending_pos client' row' hrow
    · exact h
  | commit =>
    -- the rows that were counted are still the first ones
    have hrows : ∀ client', (t.rows ++ t.pendingOf client).take (t.seen client')
        = t.rows.take (t.seen client') :=
      fun client' => List.take_append_of_le_length (h.seen_le client')
    have hrolled := h.rollback client
    refine ⟨fun client' => ?_, fun client' sessionId highest hread old hold => ?_,
      fun client' row hrow old hold => ?_, hrolled.pending_pos, fun row hrow => ?_⟩
    · exact (h.seen_le client').trans ((List.prefix_append _ _).length_le)
    · exact h.read_le client' sessionId highest hread old (hrows client' ▸ hold)
    · exact hrolled.pending_lt client' row hrow old (hrows client' ▸ hold)
    · cases List.mem_append.mp hrow with
      | inl hrow => exact h.rows_pos row hrow
      | inr hrow => exact h.pending_pos client row hrow
  | rollback => exact h.rollback client

end WatchedTable.Checked

namespace EventSystem

/-- **The invariant of the runs**: the connections keep to the guard, and what
is inserted has been checked. -/
structure Guarded (s : EventSystem P) : Prop where
  obeys : s.Obeys guardedInserts WatchedTable.known
  checked : s.store.Checked

theorem guarded_start : Guarded ({ store := {} } : EventSystem P) where
  obeys _ _ hp := nomatch hp
  checked :=
    { seen_le := fun _ => Nat.le_refl 0
      read_le := fun _ _ _ hread => nomatch hread
      pending_lt := fun _ _ hrow => absurd hrow List.not_mem_nil
      pending_pos := fun _ _ hrow => absurd hrow List.not_mem_nil
      rows_pos := fun _ hrow => absurd hrow List.not_mem_nil }

theorem Guarded.step {s : EventSystem P} (h : s.Guarded) (e : EventSystemEvent P) :
    (s.step fits e).Guarded := by
  have hnext : (SharedStore.step (WatchedTable.execute fits) EventCall.program s e).Obeys
      guardedInserts WatchedTable.known :=
    SharedStore.Obeys.step (fun _ call _ => guarded_eventProgram call _)
      (fun _ client t c => WatchedTable.known_execute t client c)
      (fun _ client t c client' hc => WatchedTable.known_execute_other t c hc) h.obeys
  have hchecked :
      (SharedStore.step (WatchedTable.execute fits) EventCall.program s e).store.Checked := by
    rcases SharedStore.store_step (WatchedTable.execute fits) EventCall.program s e
      with ⟨-, hstore⟩ | ⟨client, _, c, hissued, hstore⟩
    · rw [hstore]
      exact h.checked
    · rw [hstore]
      exact h.checked.execute (h.obeys.issued hissued)
  unfold EventSystem.step
  split
  · exact h
  · cases e with
    | start client call => exact ⟨hnext, hchecked⟩
    | command client _ => exact ⟨hnext, hchecked⟩
    | crash client =>
      refine ⟨SharedStore.obeys_update nofun (fun client' p hc hp => ?_), h.checked.rollback client⟩
      have hknown : WatchedTable.known
          { s.store with toEventTable := s.store.rollback client } client'
            = s.store.known client' :=
        Prod.ext (EventTable.pendingOf_rollback_of_ne _ hc) rfl
      exact hknown ▸ h.obeys client' p hp

/-- A statement adds no row but by committing. -/
theorem rows_execute (t : WatchedTable P) (client : ℕ) (c : EventCommand P) :
    (c = .commit ∧ (t.execute fits () client c).1.rows = t.rows ++ t.pendingOf client)
      ∨ (c ≠ .commit ∧ (t.execute fits () client c).1.rows = t.rows) := by
  cases c with
  | commit => exact Or.inl ⟨rfl, rfl⟩
  | insert row =>
    refine Or.inr ⟨nofun, ?_⟩
    unfold WatchedTable.execute EventTable.execute
    dsimp only
    split <;> rfl
  | selectMax _ => exact Or.inr ⟨nofun, rfl⟩
  | selectMin _ => exact Or.inr ⟨nofun, rfl⟩
  | selectAfter _ _ => exact Or.inr ⟨nofun, rfl⟩
  | rollback => exact Or.inr ⟨nofun, rfl⟩

/-- **What a step adds to the rows**: those of a connection that commits. -/
theorem rows_step (fits : EventRow P → Bool) (s : EventSystem P) (e : EventSystemEvent P) :
    (∃ client, s.issued e = some (client, (), .commit)
        ∧ (s.step fits e).store.rows = s.store.rows ++ s.store.pendingOf client)
      ∨ ((∀ client, s.issued e ≠ some (client, (), .commit))
        ∧ (s.step fits e).store.rows = s.store.rows) := by
  have hnext : (∃ client, s.issued e = some (client, (), .commit)
        ∧ (SharedStore.step (WatchedTable.execute fits) EventCall.program s e).store.rows
          = s.store.rows ++ s.store.pendingOf client)
      ∨ ((∀ client, s.issued e ≠ some (client, (), .commit))
        ∧ (SharedStore.step (WatchedTable.execute fits) EventCall.program s e).store.rows
          = s.store.rows) := by
    rcases SharedStore.store_step (WatchedTable.execute fits) EventCall.program s e
      with ⟨hnone, hstore⟩ | ⟨client, _, c, hissued, hstore⟩
    · rw [hstore, hnone]
      exact Or.inr ⟨nofun, rfl⟩
    · rw [hstore, hissued]
      rcases rows_execute s.store client c with ⟨rfl, hrows⟩ | ⟨hc, hrows⟩
      · exact Or.inl ⟨client, rfl, hrows⟩
      · refine Or.inr ⟨fun client' heq => hc ?_, hrows⟩
        cases heq
        rfl
  unfold step
  split
  · next hwaits =>
    refine Or.inr ⟨fun client hissued => ?_, rfl⟩
    unfold Waits at hwaits
    rw [hissued] at hwaits
    exact hwaits
  · cases e with
    | start client call => exact hnext
    | command client _ => exact hnext
    | crash client => exact Or.inr ⟨nofun, rfl⟩

/-- **A step keeps the order exactly if nothing that commits was overtaken**: the
rows that were there when the number was checked are below it. -/
theorem inOrder_step_iff {s : EventSystem P} (h : s.Guarded) (e : EventSystemEvent P) :
    InOrder s (s.step fits e) ↔ s.NotOvertaken e := by
  unfold NotOvertaken
  rcases rows_step fits s e with ⟨client, hissued, hrows⟩ | ⟨hissued, hrows⟩
  · rw [hissued]
    dsimp only
    constructor
    · rintro ⟨new, hnew, horder⟩ row hrow other hother
      have hsame : s.store.pendingOf client = new := List.append_cancel_left (hrows.symm.trans hnew)
      exact horder row (hsame ▸ hrow) other (List.mem_of_mem_drop hother)
    · refine fun hnotovertaken => ⟨_, hrows, fun row hrow old hold => ?_⟩
      rw [← List.take_append_drop (s.store.seen client) s.store.rows] at hold
      cases List.mem_append.mp hold with
      | inl hold => exact h.checked.pending_lt client row hrow old hold
      | inr hold => exact hnotovertaken row hrow old hold
  · refine iff_of_true ⟨[], hrows.trans (List.append_nil _).symm,
      fun _ hrow => absurd hrow List.not_mem_nil⟩ ?_
    split
    · next client _ hcommit => exact absurd hcommit (hissued client)
    · exact True.intro

end EventSystem

/-! ## What a client that goes on is sent -/

theorem foldr_max_lt {numbers : List ℕ} {m : ℕ} (hm : 0 < m) (h : ∀ n ∈ numbers, n < m) :
    numbers.foldr max 0 < m := by
  induction numbers with
  | nil => exact hm
  | cons n numbers ih =>
    obtain ⟨hfirst, hrest⟩ := List.forall_mem_cons.mp h
    exact Nat.max_lt.mpr ⟨hfirst, ih hrest⟩

section Sorting

variable {α : Type} {r : α → α → Prop} [DecidableRel r]

theorem orderedInsert_append {a : α} {l m : List α} (h : ∀ b ∈ m, r a b) :
    List.orderedInsert r a (l ++ m) = List.orderedInsert r a l ++ m := by
  induction l with
  | nil =>
    cases m with
    | nil => rfl
    | cons b m => exact if_pos (h b List.mem_cons_self)
  | cons c l ih =>
    rw [List.cons_append, List.orderedInsert, List.orderedInsert, ih]
    split <;> rfl

/-- What comes after is sorted apart. -/
theorem insertionSort_append {l m : List α} (h : ∀ a ∈ l, ∀ b ∈ m, r a b) :
    (l ++ m).insertionSort r = l.insertionSort r ++ m.insertionSort r := by
  induction l with
  | nil => rfl
  | cons a l ih =>
    obtain ⟨hfirst, hrest⟩ := List.forall_mem_cons.mp h
    rw [List.cons_append, List.insertionSort_cons, List.insertionSort_cons, ih hrest]
    exact orderedInsert_append (fun b hb => hfirst b ((List.mem_insertionSort r).mp hb))

end Sorting

namespace EventSystem

/-- **In order, a client that goes on misses nothing.** -/
theorem InOrder.continues {s t : EventSystem P} (h : InOrder s t)
    (hpos : ∀ row ∈ t.store.rows, 1 ≤ row.sequenceNumber) : Continues s t := by
  intro sessionId lastSequenceNumber hcursor
  obtain ⟨new, hrows, horder⟩ := h
  let added : List (EventRow P) := new.filter (fun row => row.sessionId = sessionId)
  have hsession : t.store.ofSession sessionId = s.store.ofSession sessionId ++ added := by
    unfold EventTable.ofSession
    rw [hrows, List.filter_append]
  have hold : ∀ row ∈ s.store.ofSession sessionId,
      row.sequenceNumber ≤ s.store.maxSequence sessionId :=
    fun row hrow => le_foldr_max (List.mem_map_of_mem hrow)
  have hadded : ∀ row ∈ added, s.store.maxSequence sessionId < row.sequenceNumber := by
    intro row hrow
    obtain ⟨hmem, hid⟩ := List.mem_filter.mp hrow
    refine foldr_max_lt (hpos row (hrows ▸ List.mem_append_right _ hmem)) (fun n hn => ?_)
    obtain ⟨old, holdrow, rfl⟩ := List.mem_map.mp hn
    obtain ⟨holdmem, holdid⟩ := List.mem_filter.mp holdrow
    exact horder row hmem old holdmem ((of_decide_eq_true holdid).trans
      (of_decide_eq_true hid).symm)
  -- all that was added comes after either cursor
  have hall : ∀ cursor : ℤ, cursor ≤ s.store.maxSequence sessionId →
      added.filter (fun row => cursor < row.sequenceNumber) = added := by
    refine fun cursor hle => List.filter_eq_self.mpr (fun row hrow => decide_eq_true ?_)
    exact hle.trans_lt (Int.ofNat_lt.mpr (hadded row hrow))
  have hnone : (s.store.ofSession sessionId).filter
      (fun row => ((s.store.maxSequence sessionId : ℕ) : ℤ) < row.sequenceNumber) = [] := by
    refine List.filter_eq_nil_iff.mpr (fun row hrow hlt => ?_)
    exact absurd (Int.ofNat_lt.mp (of_decide_eq_true hlt)) (Nat.not_lt.mpr (hold row hrow))
  unfold EventTable.after
  rw [hsession, List.filter_append, List.filter_append, hall _ hcursor, hall _ (Int.le_refl _),
    hnone, List.nil_append, insertionSort_append, List.map_append]
  intro old hmem row hrow
  exact (hold old (List.mem_of_mem_filter hmem)).trans (hadded row hrow).le

/-- **A cursor misses nothing in a run exactly if no append is overtaken**: none
commits when a row of its session with a greater number has become visible since
it asked for the greatest. -/
theorem cursor_misses_nothing_iff (fits : EventRow P → Bool) (events : List (EventSystemEvent P)) :
    (Onward (step fits) InOrder { store := {} } events
        ∧ Onward (step fits) Continues { store := {} } events)
      ↔ EachStep (step fits) NotOvertaken { store := {} } events := by
  have horder : Onward (step fits) InOrder { store := {} } events
      ↔ EachStep (step fits) NotOvertaken { store := {} } events :=
    onward_iff.trans (eachStep_congr guarded_start (fun _ e h => h.step e)
      (fun _ e h => inOrder_step_iff h e))
  rw [← horder]
  refine and_iff_left_of_imp (fun h pre post hpre => ?_)
  have hguarded : ((pre ++ post).foldl (step fits) { store := {} }).Guarded :=
    invariant_foldl guarded_start (fun _ e hs => hs.step e)
  exact (h pre post hpre).continues hguarded.checked.rows_pos

/-! ### Two appends at once -/

/-- The first event of a session is appended. The next two are appended at once,
and the second of them commits. A client replays what there is. -/
def overtakingRun : List (EventSystemEvent Unit) :=
  [.start 1 (.append (transcriptEvent "evt_1" 1 1)),
    .command 1 (), .command 1 (), .command 1 (), .command 1 (),
    .start 1 (.append (transcriptEvent "evt_2" 2 2)), .command 1 (), .command 1 (),
    .start 2 (.append (transcriptEvent "evt_3" 3 3)), .command 2 (), .command 2 (),
    .command 1 (), .command 2 (), .command 2 (),
    .start 3 (.replay "sess" 0), .command 3 (), .command 3 (), .command 3 (), .command 3 ()]

/-- **An event that is overtaken is missed**: the other append commits now, with
the number 2, and the client goes on from 3. -/
theorem overtaken_event_is_missed :
    ¬ Onward (step (fun _ => true)) InOrder { store := {} } (overtakingRun ++ [.command 1 ()])
      ∧ ¬ Onward (step (fun _ => true)) Continues { store := {} }
        (overtakingRun ++ [.command 1 ()]) := by
  have hrows : (List.foldl (step (fun _ => true)) { store := {} }
        (overtakingRun ++ [.command 1 ()])).store.rows
      = (overtakingRun.foldl (step (fun _ => true)) { store := {} }).store.rows
        ++ [(transcriptEvent "evt_2" 2 2).toRow] := by decide +kernel
  have hvisible : (transcriptEvent "evt_3" 3 3).toRow
      ∈ (overtakingRun.foldl (step (fun _ => true)) { store := {} }).store.rows := by
    decide +kernel
  constructor
  · intro h
    obtain ⟨new, hnew, horder⟩ := h overtakingRun [.command 1 ()] (List.prefix_refl _)
    have hsame := List.append_cancel_left (hrows.symm.trans hnew)
    have hlt := horder (transcriptEvent "evt_2" 2 2).toRow (hsame ▸ List.mem_singleton_self _) _
      hvisible rfl
    exact absurd hlt (by decide)
  · intro h
    exact absurd (h overtakingRun [.command 1 ()] (List.prefix_refl _) "sess" 0 (by decide +kernel))
      (by decide +kernel)

end EventSystem

end Sastt
