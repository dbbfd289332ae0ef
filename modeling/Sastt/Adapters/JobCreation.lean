import Sastt.Adapters.PostgresJobs
import Sastt.Lib.Noninterference
import Sastt.Ports.JobStore

/-!
# Creating a job in PostgreSQL

`create_or_get` inserts a row, and when the insert is refused because there is
a row of the same tenant and idempotency key it reads that row back, in a
second statement. The unique index decides who has created the job. Any number
of retries may be at work at once, each between its two statements.

`JobsTable` is the table with its two keys, and a client is one of those that
retry under a key. Of all calls under one key the first to insert creates the
job, and each of the others is handed that job or is told that its input is a
different one (`createOrGet_once`). What happens under one key is not noticed
under another (`answers_of_other_key`).

A new id is random. That no id is drawn twice is what `FreshId` says of a
statement.
-/

namespace Sastt

/-- The columns of the index `jobs_tenant_idempotency_key`. -/
structure JobKey where
  tenantId : String
  idempotencyKey : String
deriving DecidableEq, Repr

def JobRow.key (row : JobRow) : JobKey := ⟨row.tenantId, row.idempotencyKey⟩

/-- **The table `jobs`** with its primary key and its unique index. -/
structure JobsTable where
  rows : List (String × JobRow)
  ids_nodup : (rows.map Prod.fst).Nodup
  keys_nodup : (rows.map (fun row => row.2.key)).Nodup

namespace JobsTable

/-- `WHERE tenant_id = … AND idempotency_key = …`. -/
def rowsOf (t : JobsTable) (key : JobKey) : List (String × JobRow) :=
  t.rows.filter (fun row => row.2.key = key)

/-- `INSERT … ON CONFLICT (tenant_id, idempotency_key) DO NOTHING RETURNING
id`: whether a row was inserted. -/
def insert (t : JobsTable) (jobId : String) (row : JobRow) : JobsTable × Except PyError Bool :=
  if hkey : row.key ∈ t.rows.map (fun row => row.2.key) then (t, .ok false)
  else if hid : jobId ∈ t.rows.map Prod.fst then (t, .error (.other "UniqueViolation"))
  else
    ({ rows := t.rows ++ [(jobId, row)]
       ids_nodup := by
        rw [List.map_append]
        exact t.ids_nodup.append (List.nodup_singleton _) (List.disjoint_singleton.mpr hid)
       keys_nodup := by
        rw [List.map_append]
        exact t.keys_nodup.append (List.nodup_singleton _) (List.disjoint_singleton.mpr hkey) },
      .ok true)

/-- There is a row of a key the index refuses. -/
theorem rowsOf_eq_nil (t : JobsTable) (key : JobKey) :
    t.rowsOf key = [] ↔ key ∉ t.rows.map (fun row => row.2.key) := by
  unfold rowsOf
  simp only [List.filter_eq_nil_iff, decide_eq_true_eq, List.mem_map, not_exists, not_and]

/-- What an insert can do. -/
theorem insert_cases (t : JobsTable) (jobId : String) (row : JobRow) :
    (t.rowsOf row.key ≠ [] ∧ t.insert jobId row = (t, .ok false))
      ∨ (t.rowsOf row.key = [] ∧ jobId ∈ t.rows.map Prod.fst
        ∧ t.insert jobId row = (t, .error (.other "UniqueViolation")))
      ∨ (t.rowsOf row.key = [] ∧ jobId ∉ t.rows.map Prod.fst ∧ (t.insert jobId row).2 = .ok true
        ∧ (t.insert jobId row).1.rows = t.rows ++ [(jobId, row)]) := by
  unfold insert
  by_cases hkey : row.key ∈ t.rows.map (fun row => row.2.key)
  · exact Or.inl ⟨fun h => (t.rowsOf_eq_nil row.key).mp h hkey, dif_pos hkey⟩
  · have hnil := (t.rowsOf_eq_nil row.key).mpr hkey
    by_cases hid : jobId ∈ t.rows.map Prod.fst
    · exact Or.inr (Or.inl ⟨hnil, hid, by rw [dif_neg hkey, dif_pos hid]⟩)
    · refine Or.inr (Or.inr ⟨hnil, hid, ?_⟩)
      rw [dif_neg hkey, dif_neg hid]
      exact ⟨rfl, rfl⟩

/-- An insert under one key leaves the rows of another. -/
theorem rowsOf_insert_of_ne {t : JobsTable} {jobId : String} {row : JobRow} {key : JobKey}
    (hne : row.key ≠ key) : (t.insert jobId row).1.rowsOf key = t.rowsOf key := by
  rcases t.insert_cases jobId row with ⟨-, h⟩ | ⟨-, -, h⟩ | ⟨-, -, -, h⟩
  · rw [h]
  · rw [h]
  · unfold rowsOf
    rw [h, List.filter_append, List.filter_cons_of_neg (by simpa using hne), List.filter_nil,
      List.append_nil]

end JobsTable

/-! ## The method -/

/-- A statement of `create_or_get`. -/
inductive CreateCommand
  | insert (jobId : String) (row : JobRow)
  | selectByKey (key : JobKey)

/-- What a statement replies with. -/
def CreateReply : CreateCommand → Type
  | .insert _ _ => Except PyError Bool
  | .selectByKey _ => Option (String × JobRow)

/-- The key a statement is about. -/
def CreateCommand.key : CreateCommand → JobKey
  | .insert _ row => row.key
  | .selectByKey key => key

/-- One statement. -/
def JobsTable.execute (t : JobsTable) (c : CreateCommand) : JobsTable × CreateReply c :=
  match c with
  | .insert jobId row => t.insert jobId row
  | .selectByKey key => (t, (t.rowsOf key).head?)

/-- The arguments of a call, with the id it draws. -/
structure CreateAttempt where
  newJobId : String
  inputHash : String
  configVersion : Option String := none
deriving DecidableEq, Repr

/-- The row a call inserts. -/
def CreateAttempt.row (a : CreateAttempt) (key : JobKey) : JobRow where
  tenantId := key.tenantId
  idempotencyKey := key.idempotencyKey
  state := .queued
  inputHash := a.inputHash
  configVersion := a.configVersion

/-- The job a call creates. -/
def CreateAttempt.record (a : CreateAttempt) (key : JobKey) : JobRecord :=
  .new a.newJobId key.tenantId key.idempotencyKey a.inputHash a.configVersion

/-- What a call returns or raises, with its arguments. -/
abbrev CreateAnswer : Type := CreateAttempt × Except PyError (JobRecord × Bool)

/-- The error of a key that is used again with another input. -/
def idempotencyConflict (idempotencyKey : String) : PyError :=
  .sastt .idempotencyConflict "idempotency key reused with a different input"
    [("idempotency_key", .str idempotencyKey)]

namespace PostgresJobStore

/-- What `create_or_get` makes of the row it has read. -/
def readAnswer (key : JobKey) (a : CreateAttempt) :
    Option (String × JobRow) → Except PyError (JobRecord × Bool)
  | none => .error (.sastt .sasttError "job vanished between insert and read" [])
  | some (jobId, row) =>
    let existing := jobFromRow jobId row
    if existing.inputHash ≠ a.inputHash then .error (idempotencyConflict key.idempotencyKey)
    else .ok (existing, false)

/-- The second half of `create_or_get`, after a refused insert. -/
def readBack (key : JobKey) (a : CreateAttempt) :
    Program CreateCommand CreateReply CreateAnswer := do
  let found ← .issue (CreateCommand.selectByKey key)
  return (a, readAnswer key a found)

/-- What `create_or_get` does after its insert. -/
def afterInsert (key : JobKey) (a : CreateAttempt) :
    Except PyError Bool → Program CreateCommand CreateReply CreateAnswer
  | .error e => return (a, .error e)
  | .ok true => return (a, .ok (a.record key, true))
  | .ok false => readBack key a

/-- **`create_or_get`.** -/
def createOrGet (key : JobKey) (a : CreateAttempt) :
    Program CreateCommand CreateReply CreateAnswer := do
  let inserted ← .issue (CreateCommand.insert a.newJobId (a.row key))
  afterInsert key a inserted

end PostgresJobStore

/-- A client that retries under a key. -/
structure JobClient where
  key : JobKey
  client : ℕ
deriving DecidableEq, Repr

namespace JobCreation

/-- The table and the calls under way. -/
abbrev System : Type := CallSystem JobClient CreateCommand CreateReply JobsTable CreateAnswer

/-- A turn of a client. -/
abbrev ClientTurn : Type := Turn JobClient CreateAttempt

/-- The program of a call. -/
def program (k : JobClient) (a : CreateAttempt) : Program CreateCommand CreateReply CreateAnswer :=
  PostgresJobStore.createOrGet k.key a

/-- One statement of one client. -/
def step (s : System) (e : ClientTurn) : System := s.step JobsTable.execute program e

/-- What a turn returns. -/
def result (s : System) (e : ClientTurn) : Option CreateAnswer :=
  s.result JobsTable.execute program e

/-- Nobody is at work on the table. -/
def start (t : JobsTable) : System := ⟨t, fun _ => none⟩

/-- **The answers to the calls under a key**, in the order they are given. -/
def answers (t : JobsTable) (turns : List ClientTurn) (key : JobKey) : List CreateAnswer :=
  (trace step result (start t) turns).filterMap (fun a =>
    if a.1.caller.key = key then a.2 else none)

/-- An id that is inserted is the id of no row. -/
def FreshId (t : JobsTable) : CreateCommand → Prop
  | .insert jobId _ => jobId ∉ t.rows.map Prod.fst
  | .selectByKey _ => True

instance (t : JobsTable) : (c : CreateCommand) → Decidable (FreshId t c)
  | .insert _ _ => inferInstanceAs (Decidable (_ ∉ _))
  | .selectByKey _ => isTrue trivial

/-- No id is drawn twice in the run. -/
def DrawsFresh (t : JobsTable) (turns : List ClientTurn) : Prop :=
  EachStep step (CallSystem.Meets program FreshId) (start t) turns

instance (t : JobsTable) (turns : List ClientTurn) : Decidable (DrawsFresh t turns) :=
  inferInstanceAs (Decidable (EachStep _ _ _ _))

/-- **The call has created the job of the key**: it is answered first, its row
is the only one, and every other answer is about its job. -/
structure CreatedBy (key : JobKey) (a : CreateAttempt) (t : JobsTable)
    (answers : List CreateAnswer) : Prop where
  first : answers.head? = some (a, .ok (a.record key, true))
  others : ∀ b ∈ answers.tail, b.2 =
    if b.1.inputHash = a.inputHash then .ok (a.record key, false)
    else .error (idempotencyConflict key.idempotencyKey)
  row : t.rowsOf key = [(a.newJobId, a.row key)]

/-! ## Under one key -/

/-- What a client may do: statements about its key. -/
def Allowed (k : JobClient) (c : CreateCommand) : Prop := c.key = k.key

theorem only_readBack (key : JobKey) (a : CreateAttempt) :
    (PostgresJobStore.readBack key a).Only (fun c => c.key = key) :=
  Program.only_bind (Program.only_issue rfl) (fun _ => Program.only_pure _)

/-- A call issues statements about its key. -/
theorem only_program (k : JobClient) (a : CreateAttempt) : (program k a).Only (Allowed k) := by
  refine Program.only_bind (Program.only_issue rfl) (fun inserted => ?_)
  match inserted with
  | .error e => exact Program.only_pure _
  | .ok true => exact Program.only_pure _
  | .ok false => exact only_readBack k.key a

/-- The calls under way of a key are between their two statements. -/
def Reading (key : JobKey) (s : System) : Prop :=
  ∀ k p, k.key = key → s.underWay k = some p → ∃ a, p = PostgresJobStore.readBack key a

/-- **The key is settled, or nobody has used it.** -/
def Settled (key : JobKey) (used : Prop) (s : System) (answers : List CreateAnswer) : Prop :=
  (¬ used ∧ answers = [] ∧ s.store.rowsOf key = [] ∧ ∀ k, k.key = key → s.underWay k = none)
    ∨ (used ∧ (∃ a, CreatedBy key a s.store answers) ∧ Reading key s)

/-- Statements under another key change nothing under this one. -/
theorem rowsOf_execute_of_ne {t : JobsTable} {c : CreateCommand} {key : JobKey}
    (hne : c.key ≠ key) :
    (t.execute c).1.rowsOf key = t.rowsOf key := by
  cases c with
  | insert jobId row => exact JobsTable.rowsOf_insert_of_ne hne
  | selectByKey _ => rfl

/-- So do turns of other clients. -/
theorem rowsOf_step_of_ne {s : System} {e : ClientTurn} {key : JobKey} (hne : e.caller.key ≠ key)
    (honly : (s.current program e).Only (Allowed e.caller)) :
    (step s e).store.rowsOf key = s.store.rowsOf key := by
  show (((s.current program e).advance JobsTable.execute s.store).1).rowsOf key = _
  cases hp : s.current program e with
  | ret a => rfl
  | call c next =>
    rw [hp] at honly
    exact rowsOf_execute_of_ne (fun heq => hne (honly.1.symm.trans heq))

/-- The row that is read back decides the answer. -/
theorem readAnswer_created (key : JobKey) (a b : CreateAttempt) :
    PostgresJobStore.readAnswer key b (some (a.newJobId, a.row key))
      = if b.inputHash = a.inputHash then .ok (a.record key, false)
        else .error (idempotencyConflict key.idempotencyKey) := by
  show (if a.inputHash ≠ b.inputHash then Except.error (idempotencyConflict key.idempotencyKey)
    else Except.ok (a.record key, false)) = _
  by_cases hhash : b.inputHash = a.inputHash
  · rw [if_pos hhash, if_neg (not_not.mpr hhash.symm)]
  · rw [if_neg hhash, if_pos (fun heq : a.inputHash = b.inputHash => hhash heq.symm)]

/-- A call that reads back is answered about the job of the key. -/
theorem advance_readBack {key : JobKey} {a b : CreateAttempt} {t : JobsTable}
    (hrow : t.rowsOf key = [(a.newJobId, a.row key)]) :
    (PostgresJobStore.readBack key b).advance JobsTable.execute t
      = (t, .ret (b, if b.inputHash = a.inputHash then .ok (a.record key, false)
          else .error (idempotencyConflict key.idempotencyKey))) := by
  show (t, Program.ret (b, PostgresJobStore.readAnswer key b (t.rowsOf key).head?)) = _
  rw [hrow, List.head?_cons, readAnswer_created]

/-- A call that inserts goes on with what the index says. -/
theorem advance_createOrGet (key : JobKey) (b : CreateAttempt) (t : JobsTable) :
    (PostgresJobStore.createOrGet key b).advance JobsTable.execute t
      = ((t.insert b.newJobId (b.row key)).1,
        PostgresJobStore.afterInsert key b (t.insert b.newJobId (b.row key)).2) := rfl

/-! ## One turn -/

theorem answers_append (t : JobsTable) (turns : List ClientTurn) (e : ClientTurn) (key : JobKey) :
    answers t (turns ++ [e]) key = answers t turns key
      ++ (if e.caller.key = key then result (turns.foldl step (start t)) e else none).toList := by
  unfold answers
  rw [trace_append, List.filterMap_append]
  congr 1

/-- One more answer about the job. -/
theorem CreatedBy.append {key : JobKey} {a b : CreateAttempt} {t : JobsTable}
    {answers : List CreateAnswer} (h : CreatedBy key a t answers) :
    CreatedBy key a t (answers ++ [(b, if b.inputHash = a.inputHash then .ok (a.record key, false)
      else .error (idempotencyConflict key.idempotencyKey))]) where
  first := by
    rw [List.head?_append, h.first]
    rfl
  others c hc := by
    have hne : answers ≠ [] := fun heq => by
      have hfirst := h.first
      rw [heq] at hfirst
      cases hfirst
    rw [List.tail_append_of_ne_nil hne, List.mem_append, List.mem_singleton] at hc
    cases hc with
    | inl hold => exact h.others c hold
    | inr hnew => rw [hnew]
  row := h.row

theorem CreatedBy.of_rowsOf {key : JobKey} {a : CreateAttempt} {t t' : JobsTable}
    {answers : List CreateAnswer} (h : CreatedBy key a t answers)
    (hrows : t'.rowsOf key = t.rowsOf key) : CreatedBy key a t' answers :=
  ⟨h.first, h.others, hrows.trans h.row⟩

variable {key : JobKey} {s : System} {e : ClientTurn} {given : List CreateAnswer}

/-- A turn under another key leaves the key as it is. -/
theorem Settled.step_of_ne {used : Prop} (h : Settled key used s given) (hne : e.caller.key ≠ key)
    (honly : (s.current program e).Only (Allowed e.caller)) :
    Settled key used (step s e) given := by
  have hrows := rowsOf_step_of_ne hne honly
  have hunderWay : ∀ k : JobClient, k.key = key → (step s e).underWay k = s.underWay k :=
    fun k hk => Function.update_of_ne (fun heq : k = e.caller => hne (heq ▸ hk)) _ _
  cases h with
  | inl h =>
    obtain ⟨hunused, hgiven, hnone, hidle⟩ := h
    exact Or.inl ⟨hunused, hgiven, hrows.trans hnone,
      fun k hk => (hunderWay k hk).trans (hidle k hk)⟩
  | inr h =>
    obtain ⟨hused, ⟨a, ha⟩, hreading⟩ := h
    exact Or.inr ⟨hused, ⟨a, ha.of_rowsOf hrows⟩,
      fun k p hk hp => hreading k p hk ((hunderWay k hk).symm.trans hp)⟩

/-- **The first turn under the key creates the job.** -/
theorem createdBy_of_unused (hkey : e.caller.key = key) (hnone : s.store.rowsOf key = [])
    (hidle : ∀ k : JobClient, k.key = key → s.underWay k = none)
    (hfresh : CallSystem.Meets program FreshId s e) :
    CreatedBy key e.call (step s e).store (result s e).toList ∧ Reading key (step s e) := by
  have hcurrent : s.current program e = PostgresJobStore.createOrGet key e.call := by
    unfold CallSystem.current
    rw [hidle e.caller hkey, Option.getD_none]
    exact congrArg (fun key => PostgresJobStore.createOrGet key e.call) hkey
  have hid : e.call.newJobId ∉ s.store.rows.map Prod.fst := by
    refine hfresh (.insert e.call.newJobId (e.call.row key)) ?_
    unfold CallSystem.issued
    rw [hcurrent]
    rfl
  rcases s.store.insert_cases e.call.newJobId (e.call.row key) with
    ⟨hrow, -⟩ | ⟨-, hdrawn, -⟩ | ⟨-, -, htrue, hrows⟩
  · exact absurd hnone hrow
  · exact absurd hdrawn hid
  · have hadvance : (s.current program e).advance JobsTable.execute s.store
        = ((s.store.insert e.call.newJobId (e.call.row key)).1,
          .ret (e.call, .ok (e.call.record key, true))) := by
      rw [hcurrent, advance_createOrGet, htrue]
      rfl
    have hresult : result s e = some (e.call, .ok (e.call.record key, true)) := by
      unfold result CallSystem.result
      rw [hadvance]
      rfl
    rw [hresult]
    refine ⟨⟨rfl, fun b hb => absurd hb List.not_mem_nil, ?_⟩, fun k p hk hp => ?_⟩
    · show (((s.current program e).advance JobsTable.execute s.store).1).rowsOf key = _
      rw [hadvance]
      unfold JobsTable.rowsOf at hnone ⊢
      rw [hrows, List.filter_append, hnone, List.filter_cons_of_pos (by simp [JobRow.key,
        CreateAttempt.row])]
      rfl
    · have hafter : (step s e).underWay k = none := by
        show Function.update s.underWay e.caller _ k = none
        by_cases hcaller : k = e.caller
        · subst hcaller
          rw [Function.update_self, hadvance]
          rfl
        · rw [Function.update_of_ne hcaller]
          exact hidle k hk
      cases hafter.symm.trans hp

/-- **Every later turn under the key** is one of an insert that is refused, or
is answered about the job. -/
theorem CreatedBy.later {a : CreateAttempt} (h : CreatedBy key a s.store given)
    (hreading : Reading key s) (hkey : e.caller.key = key) :
    CreatedBy key a (step s e).store (given ++ (result s e).toList) ∧ Reading key (step s e) := by
  -- what the turn leaves of the call is nothing, or the reading half
  have hnext : ∀ p : Program CreateCommand CreateReply CreateAnswer,
      (s.current program e).advance JobsTable.execute s.store = (s.store, p) →
      (∀ q, p.pending = some q → ∃ b, q = PostgresJobStore.readBack key b) →
      (step s e).store = s.store ∧ result s e = p.returned ∧ Reading key (step s e) := by
    intro p hp hpending
    refine ⟨congrArg Prod.fst hp, congrArg (fun r => r.2.returned) hp, fun k q hk hq => ?_⟩
    by_cases hcaller : k = e.caller
    · subst hcaller
      have hself : (JobCreation.step s e).underWay e.caller = p.pending :=
        (Function.update_self ..).trans (congrArg (fun r => r.2.pending) hp)
      exact hpending q (hself.symm.trans hq)
    · exact hreading k q hk ((Function.update_of_ne hcaller _ _).symm.trans hq)
  cases hunderWay : s.underWay e.caller with
  | some p =>
    obtain ⟨b, hb⟩ := hreading e.caller p hkey hunderWay
    have hcurrent : s.current program e = PostgresJobStore.readBack key b := by
      unfold CallSystem.current
      rw [hunderWay, hb]
      rfl
    obtain ⟨hstore, hresult, hreads⟩ := hnext _ (by rw [hcurrent, advance_readBack h.row])
      (fun q hq => by cases hq)
    rw [hstore, hresult]
    exact ⟨h.append, hreads⟩
  | none =>
    have hcurrent : s.current program e = PostgresJobStore.createOrGet key e.call := by
      unfold CallSystem.current
      rw [hunderWay, Option.getD_none]
      exact congrArg (fun key => PostgresJobStore.createOrGet key e.call) hkey
    rcases s.store.insert_cases e.call.newJobId (e.call.row key) with
      ⟨-, hrefused⟩ | ⟨hnil, -⟩ | ⟨hnil, -⟩
    · have hadvance : (s.current program e).advance JobsTable.execute s.store
          = (s.store, PostgresJobStore.readBack key e.call) := by
        rw [hcurrent, advance_createOrGet, hrefused]
        rfl
      obtain ⟨hstore, hresult, hreads⟩ := hnext _ hadvance
        (fun q hq => ⟨e.call, (Option.some.inj hq).symm⟩)
      have hreturned : (PostgresJobStore.readBack key e.call).returned = none := rfl
      rw [hstore, hresult, hreturned, Option.toList_none, List.append_nil]
      exact ⟨h, hreads⟩
    · cases h.row.symm.trans hnil
    · cases h.row.symm.trans hnil

/-! ## Runs -/

/-- The calls under way issue statements about their keys, after any run. -/
theorem only_underWay (t : JobsTable) (turns : List ClientTurn) (k : JobClient)
    (p : Program CreateCommand CreateReply CreateAnswer)
    (hp : (turns.foldl step (start t)).underWay k = some p) : p.Only (Allowed k) := by
  have hall : ∀ k p, (turns.foldl step (start t)).underWay k = some p → p.Only (Allowed k) :=
    invariant_foldl (I := fun s : System => ∀ k p, s.underWay k = some p → p.Only (Allowed k)) nofun
      (fun s e honly => CallSystem.only_step (CallSystem.only_current honly only_program e) honly)
  exact hall k p hp

/-- **What a run has done about a key.** -/
theorem settled_run {t : JobsTable} (hnone : t.rowsOf key = []) {turns : List ClientTurn}
    (hids : DrawsFresh t turns) :
    Settled key (∃ e ∈ turns, e.caller.key = key) (turns.foldl step (start t))
      (answers t turns key) := by
  induction turns using List.reverseRecOn with
  | nil => exact Or.inl ⟨fun ⟨e, he, _⟩ => absurd he List.not_mem_nil, rfl, hnone, fun _ _ => rfl⟩
  | append_singleton turns e ih =>
    have hbefore := ih (hids.of_prefix (List.prefix_append turns [e]))
    have hfresh := hids turns e (List.prefix_rfl)
    have hstep : (turns ++ [e]).foldl step (start t) = step (turns.foldl step (start t)) e :=
      List.foldl_append
    have hused : (∃ e' ∈ turns ++ [e], e'.caller.key = key)
        ↔ (∃ e' ∈ turns, e'.caller.key = key) ∨ e.caller.key = key := by
      simp only [List.mem_append, List.mem_singleton, or_and_right, exists_or, exists_eq_left]
    rw [hstep, answers_append]
    by_cases hkey : e.caller.key = key
    · rw [if_pos hkey]
      refine Or.inr ⟨hused.mpr (Or.inr hkey), ?_⟩
      cases hbefore with
      | inl h =>
        obtain ⟨-, hgiven, hrows, hidle⟩ := h
        have hcreated := createdBy_of_unused hkey hrows hidle hfresh
        rw [hgiven, List.nil_append]
        exact ⟨⟨e.call, hcreated.1⟩, hcreated.2⟩
      | inr h =>
        obtain ⟨-, ⟨a, ha⟩, hreading⟩ := h
        have hlater := ha.later hreading hkey
        exact ⟨⟨a, hlater.1⟩, hlater.2⟩
    · rw [if_neg hkey, Option.toList_none, List.append_nil]
      have honly := CallSystem.only_current (only_underWay t turns) only_program e
      have hsettled := hbefore.step_of_ne hkey honly
      rwa [show (∃ e' ∈ turns ++ [e], e'.caller.key = key) = (∃ e' ∈ turns, e'.caller.key = key)
        from propext (hused.trans (or_iff_left hkey))]

/-! ## Other keys -/

/-- The table without the row of a key. -/
def Without (key : JobKey) (s t : JobsTable) : Prop :=
  t.rows = s.rows.filter (fun row => row.2.key ≠ key)

theorem Without.rowsOf {s t : JobsTable} (h : Without key s t) {other : JobKey}
    (hne : other ≠ key) : t.rowsOf other = s.rowsOf other := by
  unfold JobsTable.rowsOf
  rw [h, List.filter_filter]
  refine List.filter_congr (fun row _ => ?_)
  by_cases hrow : row.2.key = other
  · simp [hrow, hne]
  · simp [hrow]

/-- A statement under another key does the same in both tables. -/
theorem Without.execute_keeps {s t : JobsTable} (h : Without key s t) {c : CreateCommand}
    (hne : c.key ≠ key) (hfresh : FreshId s c) :
    Without key (s.execute c).1 (t.execute c).1 ∧ (s.execute c).2 = (t.execute c).2 := by
  cases c with
  | selectByKey other => exact ⟨h, congrArg List.head? (h.rowsOf hne).symm⟩
  | insert jobId row =>
    have hrows := h.rowsOf hne
    have hfresh' : jobId ∉ t.rows.map Prod.fst := fun hmem => hfresh (by
      rw [h] at hmem
      exact List.map_subset _ (List.filter_subset_self _) hmem)
    rcases s.insert_cases jobId row with ⟨hs, hinsert⟩ | ⟨-, hid, -⟩ | ⟨hs, -, hok, hafter⟩
    · rcases t.insert_cases jobId row with ⟨-, hinsert'⟩ | ⟨ht, -⟩ | ⟨ht, -⟩
      · show Without key (s.insert jobId row).1 (t.insert jobId row).1
          ∧ (s.insert jobId row).2 = (t.insert jobId row).2
        rw [hinsert, hinsert']
        exact ⟨h, rfl⟩
      · exact absurd (hrows.symm.trans ht) hs
      · exact absurd (hrows.symm.trans ht) hs
    · exact absurd hid hfresh
    · rcases t.insert_cases jobId row with ⟨ht, -⟩ | ⟨-, hid, -⟩ | ⟨-, -, hok', hafter'⟩
      · exact absurd (hrows.trans hs) ht
      · exact absurd hid hfresh'
      · refine ⟨?_, hok.trans hok'.symm⟩
        show (t.insert jobId row).1.rows = _
        have hrow : row.key ≠ key := hne
        have hs' : (s.execute (.insert jobId row)).1.rows = s.rows ++ [(jobId, row)] := hafter
        rw [hafter', hs', List.filter_append, h,
          List.filter_cons_of_pos (by simpa using hrow), List.filter_nil]

/-- A statement under the key is not noticed. -/
theorem Without.execute_hides {s t : JobsTable} (h : Without key s t) {c : CreateCommand}
    (heq : c.key = key) : Without key (s.execute c).1 t := by
  cases c with
  | selectByKey other => exact h
  | insert jobId row =>
    show t.rows = (s.insert jobId row).1.rows.filter (fun row => row.2.key ≠ key)
    rcases s.insert_cases jobId row with ⟨-, hinsert⟩ | ⟨-, -, hinsert⟩ | ⟨-, -, -, hafter⟩
    · rw [hinsert]
      exact h
    · rw [hinsert]
      exact h
    · have hrow : row.key = key := heq
      rw [hafter, List.filter_append, List.filter_cons_of_neg (by simpa using hrow),
        List.filter_nil, List.append_nil]
      exact h

/-- **Calls under one key are not noticed under another.** -/
theorem answers_of_other_key {t : JobsTable} (hnone : t.rowsOf key = []) {other : JobKey}
    (hne : other ≠ key) {turns : List ClientTurn} (hids : DrawsFresh t turns) :
    answers t turns other = answers t (turns.filter (fun e => e.caller.key ≠ key)) other := by
  have hcommands : CallSystem.CommandUnwinding JobsTable.execute
      (fun k : JobClient => k.key ≠ key) Allowed FreshId (Without key) := by
    refine ⟨fun k c s t hk hc hst hfresh => ?_, fun k c s t hk hc hst hfresh => ?_,
      fun k c s t hk hc hst _ => ?_⟩
    · exact (hst.execute_keeps (fun heq => hk (hc.symm.trans heq)) hfresh).1
    · exact (hst.execute_keeps (fun heq => hk (hc.symm.trans heq)) hfresh).2
    · exact hst.execute_hides (hc.trans (not_not.mp hk))
  have hstart : Without key t t := by
    refine (List.filter_eq_self.mpr (fun row hrow => ?_)).symm
    have hall := List.filter_eq_nil_iff.mp hnone row hrow
    simpa using hall
  have htrace := (CallSystem.unwinding hcommands only_program).trace_eq
    (CallSystem.Related.refl (s := start t) hstart (fun _ => rfl)) hids
  unfold answers
  show _ = (trace (CallSystem.step JobsTable.execute program)
    (CallSystem.result JobsTable.execute program) (start t) _).filterMap _
  rw [← htrace, List.filterMap_filter]
  refine List.filterMap_congr (fun a _ => ?_)
  by_cases hother : a.1.caller.key = other
  · simp [hother, hne]
  · simp [hother]

/-- **One job for one key.** Of all calls under a key, however their
statements fall between those of others, the first to insert creates the job,
and every other call that is answered is answered about this job: with the
job, or with an error that says the input is another one. Calls under other
keys are answered as if none of them had been made. -/
theorem createOrGet_once (t : JobsTable) (key : JobKey) (hnone : t.rowsOf key = [])
    (turns : List ClientTurn) (hids : DrawsFresh t turns) :
    ((∃ e ∈ turns, e.caller.key = key) →
        ∃ a, CreatedBy key a (turns.foldl step (start t)).store (answers t turns key))
      ∧ ∀ other, other ≠ key → answers t turns other
        = answers t (turns.filter (fun e => e.caller.key ≠ key)) other := by
  refine ⟨fun hused => ?_, fun other hne => answers_of_other_key hnone hne hids⟩
  cases settled_run hnone hids with
  | inl h => exact absurd hused h.1
  | inr h => exact h.2.1

/-- Three retries under one key at once, the last of them with another
input. -/
def threeRetries : List ClientTurn :=
  [⟨⟨⟨"acme", "k1"⟩, 0⟩, ⟨"job_0", "9f86", none⟩⟩, ⟨⟨⟨"acme", "k1"⟩, 1⟩, ⟨"job_1", "9f86", none⟩⟩,
    ⟨⟨⟨"acme", "k1"⟩, 2⟩, ⟨"job_2", "60f0", none⟩⟩, ⟨⟨⟨"acme", "k1"⟩, 2⟩, ⟨"job_3", "60f0", none⟩⟩,
    ⟨⟨⟨"acme", "k1"⟩, 1⟩, ⟨"job_4", "9f86", none⟩⟩]

theorem createOrGet_once_of_three :
    ((∃ e ∈ threeRetries, e.caller.key = ⟨"acme", "k1"⟩) →
        ∃ a, CreatedBy ⟨"acme", "k1"⟩ a
          (threeRetries.foldl step (start ⟨[], List.nodup_nil, List.nodup_nil⟩)).store
          (answers ⟨[], List.nodup_nil, List.nodup_nil⟩ threeRetries ⟨"acme", "k1"⟩))
      ∧ ∀ other, other ≠ (⟨"acme", "k1"⟩ : JobKey) →
        answers ⟨[], List.nodup_nil, List.nodup_nil⟩ threeRetries other
          = answers ⟨[], List.nodup_nil, List.nodup_nil⟩
            (threeRetries.filter (fun e => e.caller.key ≠ ⟨"acme", "k1"⟩)) other :=
  createOrGet_once ⟨[], List.nodup_nil, List.nodup_nil⟩ ⟨"acme", "k1"⟩ rfl threeRetries
    (by decide +kernel)

example : (answers ⟨[], List.nodup_nil, List.nodup_nil⟩ threeRetries ⟨"acme", "k1"⟩).length
  = 3 := by
  decide +kernel

end JobCreation

end Sastt
