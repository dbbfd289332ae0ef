import Sastt.Workers.TaskTokens

/-!
# Attempts

A worker grants a task three attempts and then parks it. The attempts are
counted in the task itself, and by the worker: it pushes the task back with one
more. So an attempt is counted if the worker that makes it lives to count it.

As long as no process is killed between the call of a handler and what it has to
do after it, and no worker is started under the name of one that is running, a
task is handed to a handler three times at most, and is parked after that with
its job finished or failed (`attempts_bounded`). A worker that is killed by
what it handles leaves its task as it was, and the next one of its name starts
over (`killed_four_times`).
-/

namespace Sastt

open RedisTaskQueue

variable {G P : Type}

/-! ## What a worker may do -/

/-- **What a process may do in each phase.** -/
inductive PhaseAllows (q : RedisTaskQueue) (call : FleetCall P) :
    WorkerPhase P → WorkerCommand G P → Prop
  | llen (phase : WorkerPhase P) (key : String) : PhaseAllows q call phase (.queue (.llen key))
  | now (phase : WorkerPhase P) : PhaseAllows q call phase (.queue .now)
  | produce {task : Task P} (henqueues : call.enqueues = some task.taskId)
      (hattempts : task.attempts = 0) (hplain : ':' ∉ task.queue.toList) :
      PhaseAllows q call .idle (.queue (.lpush (q.key task.queue) task))
  | takeOut {consumer queue : String} (hcall : call.RunsAs consumer) (hplain : ':' ∉ queue.toList) :
      PhaseAllows q call .idle (.queue (.rpop (q.processingKey queue consumer)))
  | putBack {consumer : String} {task : Task P} (hcall : call.RunsAs consumer) :
      PhaseAllows q call (.taken task) (.queue (.lpush (q.processingKey task.queue consumer) task))
  | requeue {consumer : String} {task : Task P} (hcall : call.RunsAs consumer) :
      PhaseAllows q call (.taken task) (.queue (.lpush (q.key task.queue) task))
  | reserve {consumer queue : String} (hcall : call.RunsAs consumer)
      (hplain : ':' ∉ queue.toList) :
      PhaseAllows q call .idle
        (.queue (.rpoplpush (q.key queue) (q.processingKey queue consumer)))
  | await {consumer queue : String} (hcall : call.RunsAs consumer) (hplain : ':' ∉ queue.toList) :
      PhaseAllows q call .idle
        (.queue (.brpoplpush (q.key queue) (q.processingKey queue consumer)))
  | handle {consumer : String} {task : Task P} (hcall : call.RunsAs consumer) :
      PhaseAllows q call (.reserved task) (.handle task)
  | remove {consumer : String} {task : Task P} {succeeded : Bool} (hcall : call.RunsAs consumer) :
      PhaseAllows q call (.handled task succeeded)
        (.queue (.lrem (q.processingKey task.queue consumer) task))
  | retry {task : Task P} (hlast : ¬ OfflineWorker.IsLast task) :
      PhaseAllows q call (.removed task false) (.queue (.lpush (q.key task.queue) task.again))
  | park {task : Task P} (hlast : OfflineWorker.IsLast task) :
      PhaseAllows q call (.removed task false) (.queue (.lpush (q.deadKey task.queue) task.again))
  | select {phase : WorkerPhase P} {task : Task P}
      (hphase : phase = .parked task ∨ phase = .settled task) :
      PhaseAllows q call phase (.job (.select task.tenantId task.jobId))
  | setError {phase : WorkerPhase P} {task : Task P}
      (hphase : phase = .parked task ∨ phase = .settled task) (errorCode : String) :
      PhaseAllows q call phase (.job (.updateError task.tenantId task.jobId errorCode))
  | fail {phase : WorkerPhase P} {task : Task P}
      (hphase : phase = .parked task ∨ phase = .settled task) (errorCode : Option String)
      (warnings : List String) (degraded : Bool) :
      PhaseAllows q call phase
        (.job (.update task.tenantId task.jobId .failed errorCode warnings degraded))
  | endTurn {consumer : String} {phase : WorkerPhase P} {task : Task P}
      (hcall : call.RunsAs consumer)
      (hphase : phase = .removed task true ∨ phase = .retried task ∨ phase = .settled task) :
      PhaseAllows q call phase (.endTurn task)

/-- **The contract of a process**: it does what its phase allows, and what it
finds in a list belongs there. -/
def fleetContract (q : RedisTaskQueue) (call : FleetCall P) :
    Contract (WorkerCommand G P) WorkerReply (WorkerPhase P) where
  allows := PhaseAllows q call
  expects _ c :=
    match c with
    | .queue (.rpop key) => fun found => ∀ task, found = some task →
      ∃ consumer, call.RunsAs consumer ∧ key = q.processingKey task.queue consumer
    | .queue (.rpoplpush source _) => fun found => ∀ task, found = some task →
      source = q.key task.queue
    | .queue (.brpoplpush source _) => fun found => ∀ task, found = some task →
      source = q.key task.queue
    | _ => fun _ => True
  learn := WorkerPhase.next

/-- A worker has one name. -/
theorem FleetCall.RunsAs.unique {call : FleetCall P} {consumer consumer' : String}
    (h : call.RunsAs consumer) (h' : call.RunsAs consumer') : consumer = consumer' := by
  obtain ⟨queues, rounds, rfl⟩ := h
  obtain ⟨queues', rounds', heq⟩ := h'
  cases heq
  rfl

theorem FleetCall.RunsAs.enqueues {call : FleetCall P} {consumer : String}
    (h : call.RunsAs consumer) : call.enqueues = none := by
  obtain ⟨queues, rounds, rfl⟩ := h
  rfl

section Programs

open Program

variable {q : RedisTaskQueue} {call : FleetCall P} {consumer : String}

/-- The contract, as far as the queue is concerned. -/
abbrev queueContract (G : Type) (q : RedisTaskQueue) (call : FleetCall P) :
    Contract (QueueCommand P) QueueReply (WorkerPhase P) :=
  (fleetContract (G := G) q call).pull .queue (fun _ => Equiv.refl _)

/-- The phase of a worker after a reservation. -/
def WorkerPhase.ofReserved : Option (Task P) → WorkerPhase P
  | none => .idle
  | some task => .reserved task

theorem keeps_fleet_requeueLoop (hcall : call.RunsAs consumer) {queue : String}
    (hplain : ':' ∉ queue.toList) (rounds moved : ℕ) :
    (q.requeueLoop queue consumer rounds moved).Keeps (queueContract G q call)
      (fun phase _ => phase = .idle) .idle := by
  induction rounds generalizing moved with
  | zero => exact keeps_pure rfl
  | succ rounds ih =>
    refine keeps_bind (keeps_issue (.takeOut hcall hplain) (fun found hfound => ?_))
    cases found with
    | none => exact keeps_pure rfl
    | some task =>
      obtain ⟨consumer', hcall', hkey⟩ := hfound task rfl
      obtain rfl := hcall.unique hcall'
      obtain rfl : queue = task.queue := q.processingKey_left_inj hkey
      refine keeps_bind (keeps_issue (.now _) (fun now _ => ?_))
      split
      · exact keeps_bind (keeps_issue (.putBack hcall) (fun _ _ => keeps_pure rfl))
      · exact keeps_bind (keeps_issue (.requeue hcall) (fun _ _ => ih _))

/-- **The recovery** puts back what it takes out. -/
theorem keeps_fleet_recover (hcall : call.RunsAs consumer) (rounds : ℕ) {queues : List String}
    (hplain : ∀ queue ∈ queues, ':' ∉ queue.toList) :
    (q.recover consumer rounds queues).Keeps (queueContract G q call)
      (fun phase _ => phase = .idle) .idle := by
  induction queues with
  | nil => exact keeps_pure rfl
  | cons queue queues ih =>
    refine keeps_bind ((keeps_fleet_requeueLoop hcall (hplain queue List.mem_cons_self) rounds
      0).mono (fun phase _ hphase => ?_))
    subst hphase
    exact ih (fun other hother => hplain other (List.mem_cons_of_mem queue hother))

theorem keeps_fleet_reserveFirst (hcall : call.RunsAs consumer) {queues : List String}
    (hplain : ∀ queue ∈ queues, ':' ∉ queue.toList) :
    (q.reserveFirst consumer queues).Keeps (queueContract G q call)
      (fun phase found => phase = .ofReserved found) .idle := by
  induction queues with
  | nil => exact keeps_pure rfl
  | cons queue queues ih =>
    refine keeps_bind (keeps_issue (.reserve hcall (hplain queue List.mem_cons_self))
      (fun found _ => ?_))
    cases found with
    | none => exact ih (fun other hother => hplain other (List.mem_cons_of_mem queue hother))
    | some task => exact keeps_pure rfl

theorem keeps_fleet_reserve (hcall : call.RunsAs consumer) {queues : List String}
    (hplain : ∀ queue ∈ queues, ':' ∉ queue.toList) :
    (q.reserve queues consumer).Keeps (queueContract G q call)
      (fun phase found => phase = .ofReserved (found.toOption.getD none)) .idle := by
  refine keeps_bind ((keeps_fleet_reserveFirst hcall hplain).mono (fun phase found hphase => ?_))
  subst hphase
  cases found with
  | some task => exact keeps_pure rfl
  | none =>
    cases queues with
    | nil => exact keeps_pure rfl
    | cons queue queues =>
      refine keeps_bind (keeps_issue (.await hcall (hplain queue List.mem_cons_self))
        (fun found _ => ?_))
      cases found <;> exact keeps_pure rfl

theorem keeps_fleet_ack (hcall : call.RunsAs consumer) (task : Task P) (succeeded : Bool) :
    (q.ack task consumer).Keeps (queueContract G q call)
      (fun phase _ => phase = .removed task succeeded) (.handled task succeeded) :=
  keeps_bind (keeps_issue (.remove hcall) (fun _ _ => keeps_pure rfl))

/-- **A retry** puts the task back, with one more attempt, or parks it. -/
theorem keeps_fleet_retry (hcall : call.RunsAs consumer) (task : Task P) :
    (q.retry task consumer MAX_ATTEMPTS).Keeps (queueContract G q call)
      (fun phase retried => phase = if retried then .retried task else .parked task)
      (.handled task false) := by
  refine keeps_bind ((keeps_fleet_ack hcall task false).mono (fun phase _ hphase => ?_))
  subst hphase
  split
  · next hlast =>
    refine keeps_bind (keeps_issue (.park hlast) (fun _ _ => keeps_pure ?_))
    exact if_pos hlast
  · next hlast =>
    refine keeps_bind (keeps_issue (.retry hlast) (fun _ _ => keeps_pure ?_))
    exact if_neg hlast

/-- The contract, as far as the job store is concerned. -/
abbrev jobContract (q : RedisTaskQueue) (call : FleetCall P) :
    Contract (JobCommand G) JobReply (WorkerPhase P) :=
  (fleetContract (G := G) q call).pull .job (fun _ => Equiv.refl _)

/-- Reading a job settles it, unless there is still something to be done. -/
theorem keeps_fleet_get {phase : WorkerPhase P} {task : Task P}
    (hphase : phase = .parked task ∨ phase = .settled task) :
    (PostgresJobStore.get task.tenantId task.jobId).Keeps (jobContract (G := G) q call)
      (fun phase read => phase = .settled task
        ∨ phase = .parked task ∧ ∃ job, read = .ok job ∧ job.isTerminal = false) phase := by
  refine keeps_bind (keeps_issue (.select hphase) (fun row _ => ?_))
  cases row with
  | none =>
    refine keeps_pure (Or.inl ?_)
    rcases hphase with rfl | rfl <;> rfl
  | some row =>
    refine keeps_pure ?_
    rcases hphase with rfl | rfl
    · by_cases hterminal : row.state ∈ JobState.terminal
      · exact Or.inl (if_pos hterminal)
      · exact Or.inr ⟨if_neg hterminal, _, rfl, decide_eq_false hterminal⟩
    · exact Or.inl rfl

/-- Marking a job as failed settles it. -/
theorem keeps_fleet_updateState {phase : WorkerPhase P} {task : Task P}
    (hphase : phase = .parked task ∨ phase = .settled task) :
    (PostgresJobStore.updateState task.tenantId task.jobId .failed).Keeps
      (jobContract (G := G) q call) (fun phase _ => phase = .settled task) phase := by
  refine keeps_bind ((keeps_fleet_get hphase).mono (fun phase read hread => ?_))
  rcases hread with rfl | ⟨rfl, job, rfl, hopen⟩
  · cases read with
    | error e => exact keeps_pure rfl
    | ok job =>
      dsimp only
      split
      · exact keeps_pure rfl
      · next heq =>
        obtain ⟨rfl, -⟩ := JobRecord.transition_eq_ok heq
        exact keeps_bind (keeps_issue (.fail (Or.inr rfl) _ _ _) (fun _ _ => keeps_pure rfl))
  · have htransition : job.transition .failed = .ok { job with state := .failed } := by
      unfold JobRecord.transition
      rw [hopen, if_neg (fun h => Bool.false_ne_true h.1)]
    dsimp only
    rw [htransition]
    exact keeps_bind (keeps_issue (.fail (Or.inl rfl) _ _ _) (fun _ _ => keeps_pure rfl))

/-- **Failing a job** settles it: it is gone, or finished, or failed. -/
theorem keeps_fleet_failJob (task : Task P) (message : String) :
    (OfflineWorker.failJob task message).Keeps (jobContract (G := G) q call)
      (fun phase _ => phase = .settled task) (.parked task) := by
  have hset : (PostgresJobStore.setError task.tenantId task.jobId
      (OfflineWorker.errorCode message)).Keeps (jobContract (G := G) q call)
      (fun phase read => phase = .settled task ∨ phase = .parked task ∧ ∃ job, read = .ok job)
      (.parked task) := by
    refine keeps_bind ((keeps_fleet_get (Or.inl rfl)).mono (fun phase read hread => ?_))
    cases read with
    | error e =>
      refine keeps_pure (Or.inl (hread.resolve_right ?_))
      rintro ⟨-, job, hjob, -⟩
      cases hjob
    | ok job =>
      have hphase : phase = .parked task ∨ phase = .settled task :=
        hread.elim Or.inr (fun h => Or.inl h.1)
      refine keeps_bind (keeps_issue (.setError hphase _) (fun _ _ => keeps_pure ?_))
      rcases hphase with rfl | rfl
      · exact Or.inr ⟨rfl, _, rfl⟩
      · exact Or.inl rfl
  refine keeps_bind (hset.mono (fun phase read hread => ?_))
  cases read with
  | error e =>
    refine keeps_pure (hread.resolve_right ?_)
    rintro ⟨-, job, hjob⟩
    cases hjob
  | ok job =>
    exact keeps_bind ((keeps_fleet_updateState (hread.elim Or.inr (fun h => Or.inl h.1))).mono
      (fun _ _ hsettled => keeps_pure hsettled))

/-- **One turn** ends with nothing in hand. -/
theorem keeps_fleet_turn (hcall : call.RunsAs consumer) (task : Task P) :
    (WorkerLoop.turn (G := G) q consumer task).Keeps (fleetContract q call)
      (fun phase _ => phase = .idle) (.reserved task) := by
  refine keeps_bind (keeps_issue (.handle hcall) (fun outcome _ => ?_))
  have hend : ∀ {phase : WorkerPhase P},
      (phase = .removed task true ∨ phase = .retried task ∨ phase = .settled task) →
      (WorkerLoop.endTurn (G := G) task).Keeps (fleetContract q call)
        (fun phase _ => phase = .idle) phase := fun hphase =>
    keeps_issue (.endTurn hcall hphase) (fun _ _ => rfl)
  cases outcome with
  | ok _ =>
    refine keeps_bind (keeps_embed ((keeps_fleet_ack hcall task true).mono
      (fun phase _ hphase => ?_)))
    exact hend (Or.inl hphase)
  | error e =>
    refine keeps_bind (Keeps.mono (Q := fun phase _ =>
      phase = .retried task ∨ phase = .settled task) ?_ (fun phase _ hphase =>
        hend (Or.inr hphase)))
    refine keeps_bind (keeps_embed ((keeps_fleet_retry hcall task).mono
      (fun phase retried hphase => ?_)))
    subst hphase
    cases retried with
    | true => exact keeps_pure (Or.inl rfl)
    | false =>
      exact keeps_embed ((keeps_fleet_failJob task e.text).mono (fun _ _ hphase => Or.inr hphase))

theorem keeps_fleet_serve (hcall : call.RunsAs consumer) {queues : List String}
    (hplain : ∀ queue ∈ queues, ':' ∉ queue.toList) (rounds : ℕ) :
    (WorkerLoop.serve (G := G) q queues consumer rounds).Keeps (fleetContract q call)
      (fun phase _ => phase = .idle) .idle := by
  induction rounds with
  | zero => exact keeps_pure rfl
  | succ rounds ih =>
    refine keeps_bind (keeps_embed ((keeps_fleet_reserve hcall hplain).mono
      (fun phase found hphase => ?_)))
    subst hphase
    match found with
    | .error _ => exact keeps_pure rfl
    | .ok none => exact ih
    | .ok (some task) =>
      refine keeps_bind ((keeps_fleet_turn hcall task).mono (fun phase _ hphase => ?_))
      subst hphase
      exact ih

/-- The end of a process. -/
def WorkerPhase.AtEnd (phase : WorkerPhase P) : Prop := phase = .idle ∨ phase = .produced

/-- **Every process keeps its contract**, and ends with nothing in hand. -/
theorem keeps_fleet_program
    (hplain : ∀ queues consumer rounds, call = .runForever queues consumer rounds →
      ∀ queue ∈ queues, ':' ∉ queue.toList) :
    (call.program (G := G) q).Keeps (fleetContract q call) (fun phase _ => phase.AtEnd) .idle := by
  cases call with
  | enqueue queue taskId tenantId jobId payload =>
    refine keeps_bind (keeps_embed (Keeps.mono (Q := fun phase _ => phase.AtEnd) ?_
      (fun _ _ hphase => keeps_pure hphase)))
    unfold RedisTaskQueue.enqueue
    split
    · exact keeps_pure (Or.inl rfl)
    · next hknown =>
      have hqueue : ':' ∉ queue.toList :=
        (by decide : ∀ known ∈ ALL_QUEUES, ':' ∉ known.toList) queue (not_not.mp hknown)
      refine keeps_bind (keeps_issue (.llen _ _) (fun depth _ => ?_))
      split
      · exact keeps_pure (Or.inl rfl)
      · refine keeps_bind (keeps_issue (.now _) (fun now _ => ?_))
        let task : Task P :=
          { taskId := "tsk_" ++ taskId, queue, tenantId, jobId, payload, enqueuedMs := now }
        have hproduce : PhaseAllows (G := G) q (.enqueue queue taskId tenantId jobId payload) .idle
          (.queue (.lpush (q.key task.queue) task)) := .produce rfl rfl hqueue
        exact keeps_bind (keeps_issue hproduce (fun _ _ => keeps_pure (Or.inr rfl)))
  | runForever queues consumer rounds =>
    have hcall : (FleetCall.runForever queues consumer rounds : FleetCall P).RunsAs consumer :=
      ⟨queues, rounds, rfl⟩
    have hqueues := hplain queues consumer rounds rfl
    refine keeps_bind (keeps_embed ((keeps_fleet_recover hcall rounds hqueues).mono
      (fun phase _ hphase => ?_)))
    subst hphase
    exact (keeps_fleet_serve hcall hqueues rounds).mono (fun _ _ hphase => Or.inl hphase)

end Programs

/-! ## Where the tasks are -/

/-- The job of the task needs no more work. -/
def JobSettled (jobs : JobTable G) (task : Task P) : Prop :=
  ∀ row, jobs.find task.tenantId task.jobId = some row → row.state ∈ JobState.terminal

section Accounts

variable (w : WorkerFleet P) (alive : ℕ → Prop) (jobs : JobTable G)
  (tokens : String → Option (TaskToken P))

/-- **What a process in a phase holds** is what the tokens say it holds. A
process that is dead has reserved nothing, and one that is to enqueue a task
has not done so. -/
def PhaseFits (process : ℕ) : WorkerPhase P → Prop
  | .idle => ∀ id, (w.call process).enqueues = some id → tokens id = none
  | .taken task => tokens task.taskId = some (.taken process task)
  | .reserved task => alive process →
    ∃ consumer, (w.call process).RunsAs consumer ∧ tokens task.taskId = some (.held consumer task)
  | .handled task _ =>
    ∃ consumer, (w.call process).RunsAs consumer
      ∧ tokens task.taskId = some (.working process consumer task)
  | .removed task _ => tokens task.taskId = some (.removed process task)
  | .parked task => tokens task.taskId = some (.parked task.again)
  | .settled task => tokens task.taskId = some (.parked task.again) ∧ JobSettled jobs task
  | .retried _ | .produced => True

/-- **What the token says about the processes**: who holds the task knows that
it does, a parked task has its job failed, or a process is about to do that,
and a task is gone when its handler has returned. -/
def TokenFits (phase : ℕ → WorkerPhase P) (returned : Finset String) (id : String) :
    TaskToken P → Prop
  | .working process consumer task =>
    (w.call process).RunsAs consumer ∧ ∃ succeeded, phase process = .handled task succeeded
  | .removed process task => ∃ succeeded, phase process = .removed task succeeded
  | .parked task =>
    JobSettled jobs task ∨ ∃ process before, phase process = .parked before ∧ task = before.again
  | .gone _ => id ∈ returned
  | .waiting _ | .held _ _ | .taken _ _ => True

/-- A handler that has returned is remembered. -/
def ReturnFits (returned : Finset String) : WorkerPhase P → Prop
  | .handled task true | .removed task true => task.taskId ∈ returned
  | _ => True

/-- **Everything is accounted for**: what is in the lists, how often each task
was handed out, and what each process holds. -/
structure Accounted (q : RedisTaskQueue) (store : WorkerStore G P) : Prop where
  listed : Listed q store.queue.lists tokens
  handed : ∀ id, store.handed id = (tokens id).elim 0 TaskToken.handed
  valid : ∀ id token, tokens id = some token → token.Valid id
  phases : ∀ process, PhaseFits w alive store.jobs tokens process (store.phase process)
  tokens : ∀ id token, tokens id = some token →
    TokenFits w store.jobs store.phase store.returned id token
  returns : ∀ process, ReturnFits store.returned (store.phase process)

/-- **The processes that are running**: who owes something, and workers of
different names. -/
structure Manned (store : WorkerStore G P) : Prop where
  owes : ∀ {process}, (store.phase process).Owes → alive process
  names : ∀ {m n consumer}, alive m → alive n → (w.call m).RunsAs consumer →
    (w.call n).RunsAs consumer → m = n

/-- The token is none that a process relies on. -/
def Unclaimed (process : ℕ) (id : String) : Option (TaskToken P) → Prop
  | none => (w.call process).enqueues ≠ some id
  | some (.held consumer _) => ¬ (alive process ∧ (w.call process).RunsAs consumer)
  | some (.working other _ _) | some (.taken other _) | some (.removed other _) => other ≠ process
  | some (.parked _) => False
  | some (.waiting _) | some (.gone _) => True

end Accounts

section Steps

variable {w : WorkerFleet P} {alive : ℕ → Prop} {jobs : JobTable G}
  {tokens : String → Option (TaskToken P)} {q : RedisTaskQueue} {store : WorkerStore G P}

/-- **A process does not notice** that a token changes which it does not rely
on. -/
theorem PhaseFits.update {process : ℕ} {phase : WorkerPhase P} {id : String}
    {token : Option (TaskToken P)} (h : PhaseFits w alive jobs tokens process phase)
    (hid : Unclaimed w alive process id (tokens id)) :
    PhaseFits w alive jobs (Function.update tokens id token) process phase := by
  have hother : ∀ {id' v}, tokens id' = v → (id' = id → ¬ Unclaimed w alive process id v) →
      Function.update tokens id token id' = v := by
    intro id' v hv hclaims
    by_cases heq : id' = id
    · subst heq
      exact absurd (hv ▸ hid) (hclaims rfl)
    · rwa [Function.update_of_ne heq]
  cases phase with
  | idle => exact fun id' hid' => hother (h id' hid') (fun heq hnot => hnot (heq ▸ hid'))
  | taken task => exact hother h (fun _ hne => hne rfl)
  | reserved task =>
    intro halive
    obtain ⟨consumer, hcall, htoken⟩ := h halive
    exact ⟨consumer, hcall, hother htoken (fun _ hnot => hnot ⟨halive, hcall⟩)⟩
  | handled task succeeded =>
    obtain ⟨consumer, hcall, htoken⟩ := h
    exact ⟨consumer, hcall, hother htoken (fun _ hne => hne rfl)⟩
  | removed task succeeded => exact hother h (fun _ hne => hne rfl)
  | parked task => exact hother h (fun _ hfalse => hfalse)
  | settled task => exact ⟨hother h.1 (fun _ hfalse => hfalse), h.2⟩
  | retried task => trivial
  | produced => trivial

/-- Another token does not care what a process does that does not hold it. -/
theorem TokenFits.update {phase : ℕ → WorkerPhase P} {returned returned' : Finset String}
    {id : String} {token : TaskToken P} {process : ℕ} {next : WorkerPhase P}
    (h : TokenFits w jobs phase returned id token) (hvalid : token.Valid id)
    (hreturned : returned ⊆ returned')
    (hturn : ∀ task, (phase process).turn = some task → task.taskId ≠ id) :
    TokenFits w jobs (Function.update phase process next) returned' id token := by
  have hother : ∀ {process' task}, (phase process').turn = some task → task.taskId = id →
      Function.update phase process next process' = phase process' := by
    intro process' task hphase hid
    refine Function.update_of_ne (fun heq => ?_) _ _
    subst heq
    exact hturn task hphase hid
  cases token with
  | working process' consumer task =>
    obtain ⟨hcall, succeeded, hphase⟩ := h
    refine ⟨hcall, succeeded, ?_⟩
    rw [hother (by rw [hphase]; rfl) hvalid.1, hphase]
  | removed process' task =>
    obtain ⟨succeeded, hphase⟩ := h
    refine ⟨succeeded, ?_⟩
    rw [hother (by rw [hphase]; rfl) hvalid.1, hphase]
  | parked task =>
    refine h.imp_right (fun hexists => ?_)
    obtain ⟨process', before, hphase, rfl⟩ := hexists
    have hbefore : (phase process').turn = some before := by rw [hphase]; rfl
    exact ⟨process', before, (hother hbefore hvalid.1).trans hphase, rfl⟩
  | gone attempts => exact hreturned h
  | waiting task => trivial
  | held consumer task => trivial
  | taken process' task => trivial

/-- **A process that moves one task** leaves everything accounted for. -/
theorem Accounted.move (h : Accounted w alive tokens q store) {process : ℕ} {id : String}
    {token : TaskToken P} {next : WorkerPhase P} {store' : WorkerStore G P}
    (hclaim : ∀ other, other ≠ process → Unclaimed w alive other id (tokens id))
    (hturn : ∀ task, (store.phase process).turn = some task → task.taskId = id)
    (hphase : store'.phase = Function.update store.phase process next)
    (hjobs : store'.jobs = store.jobs) (hreturned : store.returned ⊆ store'.returned)
    (hlisted : Listed q store'.queue.lists (Function.update tokens id (some token)))
    (hhanded : store'.handed = Function.update store.handed id token.handed)
    (hvalid : token.Valid id)
    (hfits : PhaseFits w alive store.jobs (Function.update tokens id (some token)) process next)
    (htoken : TokenFits w store.jobs store'.phase store'.returned id token)
    (hreturns : ReturnFits store'.returned next) :
    Accounted w alive (Function.update tokens id (some token)) q store' where
  listed := hlisted
  handed id' := by
    rw [hhanded]
    by_cases hid : id' = id
    · rw [hid, Function.update_self, Function.update_self]
      rfl
    · rw [Function.update_of_ne hid, Function.update_of_ne hid, h.handed]
  valid id' token' htoken' := by
    by_cases hid : id' = id
    · rw [hid, Function.update_self] at htoken'
      rwa [hid, ← Option.some.inj htoken']
    · rw [Function.update_of_ne hid] at htoken'
      exact h.valid id' token' htoken'
  phases process' := by
    rw [hphase, hjobs]
    by_cases hprocess : process' = process
    · rw [hprocess, Function.update_self]
      exact hfits
    · rw [Function.update_of_ne hprocess]
      exact (h.phases process').update (hclaim process' hprocess)
  tokens id' token' htoken' := by
    by_cases hid : id' = id
    · rw [hid, Function.update_self] at htoken'
      rw [hid, ← Option.some.inj htoken', hjobs]
      exact htoken
    · rw [Function.update_of_ne hid] at htoken'
      rw [hphase, hjobs]
      exact (h.tokens id' token' htoken').update (h.valid id' token' htoken') hreturned
        (fun task htask heq => hid (heq.symm.trans (hturn task htask)))
  returns process' := by
    rw [hphase]
    by_cases hprocess : process' = process
    · rw [hprocess, Function.update_self]
      exact hreturns
    · rw [Function.update_of_ne hprocess]
      have hbefore := h.returns process'
      revert hbefore
      cases store.phase process' with
      | handled task succeeded =>
        cases succeeded
        · exact fun _ => trivial
        · exact fun hmem => hreturned hmem
      | removed task succeeded =>
        cases succeeded
        · exact fun _ => trivial
        · exact fun hmem => hreturned hmem
      | _ => exact fun _ => trivial

/-- What is settled stays so. -/
theorem PhaseFits.settles {process : ℕ} {phase : WorkerPhase P} {jobs' : JobTable G}
    (h : PhaseFits w alive jobs tokens process phase)
    (hsettles : ∀ task : Task P, JobSettled jobs task → JobSettled jobs' task) :
    PhaseFits w alive jobs' tokens process phase := by
  cases phase with
  | settled task => exact ⟨h.1, hsettles task h.2⟩
  | _ => exact h

/-- A process that holds nothing it has handled goes on, and has settled the job
of a task it has parked. -/
theorem TokenFits.rephase {phase : ℕ → WorkerPhase P} {returned : Finset String} {id : String}
    {token : TaskToken P} {process : ℕ} {next : WorkerPhase P} {jobs' : JobTable G}
    (h : TokenFits w jobs phase returned id token)
    (hsettles : ∀ task : Task P, JobSettled jobs task → JobSettled jobs' task)
    (hnow : next = phase process ∨ ∀ task succeeded,
      phase process ≠ .handled task succeeded ∧ phase process ≠ .removed task succeeded
        ∧ (phase process = .parked task → JobSettled jobs' task)) :
    TokenFits w jobs' (Function.update phase process next) returned id token := by
  rcases hnow with rfl | hnow
  · rw [Function.update_eq_self]
    cases token with
    | parked task => exact h.imp_left (hsettles task)
    | _ => exact h
  · cases token with
    | working process' consumer task =>
      obtain ⟨hcall, succeeded, hphase⟩ := h
      refine ⟨hcall, succeeded, (Function.update_of_ne (fun heq => ?_) _ _).trans hphase⟩
      exact (hnow task succeeded).1 (heq ▸ hphase)
    | removed process' task =>
      obtain ⟨succeeded, hphase⟩ := h
      refine ⟨succeeded, (Function.update_of_ne (fun heq => ?_) _ _).trans hphase⟩
      exact (hnow task succeeded).2.1 (heq ▸ hphase)
    | parked task =>
      rcases h with hsettled | ⟨process', before, hphase, rfl⟩
      · exact Or.inl (hsettles task hsettled)
      · by_cases heq : process' = process
        · exact Or.inl ((hnow before true).2.2 (heq ▸ hphase))
        · exact Or.inr ⟨process', before, (Function.update_of_ne heq _ _).trans hphase, rfl⟩
    | _ => exact h

/-- **A process that moves no task** leaves everything accounted for. -/
theorem Accounted.rephase (h : Accounted w alive tokens q store) {process : ℕ}
    {next : WorkerPhase P} {store' : WorkerStore G P}
    (hphase : store'.phase = Function.update store.phase process next)
    (hsettles : ∀ task : Task P, JobSettled store.jobs task → JobSettled store'.jobs task)
    (hreturned : store'.returned = store.returned) (hhanded : store'.handed = store.handed)
    (hlists : store'.queue.lists = store.queue.lists)
    (hnow : next = store.phase process ∨ ∀ task succeeded,
      store.phase process ≠ .handled task succeeded ∧ store.phase process ≠ .removed task succeeded
        ∧ (store.phase process = .parked task → JobSettled store'.jobs task))
    (hfits : PhaseFits w alive store'.jobs tokens process next)
    (hreturns : ReturnFits store.returned next) : Accounted w alive tokens q store' where
  listed := by rw [hlists]; exact h.listed
  handed id := by rw [hhanded, h.handed]
  valid := h.valid
  phases process' := by
    rw [hphase]
    by_cases hprocess : process' = process
    · rw [hprocess, Function.update_self]
      exact hfits
    · rw [Function.update_of_ne hprocess]
      exact (h.phases process').settles hsettles
  tokens id token htoken := by
    rw [hphase, hreturned]
    exact (h.tokens id token htoken).rephase hsettles hnow
  returns process' := by
    rw [hphase, hreturned]
    by_cases hprocess : process' = process
    · rw [hprocess, Function.update_self]
      exact hreturns
    · rw [Function.update_of_ne hprocess]
      exact h.returns process'

/-- A process that stays in its phase, with the jobs as they are. -/
theorem Accounted.same (h : Accounted w alive tokens q store) {process : ℕ}
    {store' : WorkerStore G P}
    (hphase : store'.phase = Function.update store.phase process (store.phase process))
    (hjobs : store'.jobs = store.jobs) (hreturned : store'.returned = store.returned)
    (hhanded : store'.handed = store.handed) (hlists : store'.queue.lists = store.queue.lists) :
    Accounted w alive tokens q store' :=
  h.rephase hphase (fun _ hsettled => hjobs ▸ hsettled) hreturned hhanded hlists (Or.inl rfl)
    (hjobs ▸ h.phases process) (h.returns process)

/-- A task that changes its place, and is not handed to anybody. -/
theorem Accounted.shift (h : Accounted w alive tokens q store) {process : ℕ} {id : String}
    {token : TaskToken P} {next : WorkerPhase P} {store' : WorkerStore G P}
    (hclaim : ∀ other, other ≠ process → Unclaimed w alive other id (tokens id))
    (hturn : ∀ task, (store.phase process).turn = some task → task.taskId = id)
    (hphase : store'.phase = Function.update store.phase process next)
    (hjobs : store'.jobs = store.jobs) (hreturned : store'.returned = store.returned)
    (hhanded : store'.handed = store.handed)
    (hlisted : Listed q store'.queue.lists (Function.update tokens id (some token)))
    (hattempts : (tokens id).elim 0 TaskToken.handed = token.handed) (hvalid : token.Valid id)
    (hfits : PhaseFits w alive store.jobs (Function.update tokens id (some token)) process next)
    (htoken : TokenFits w store.jobs store'.phase store'.returned id token)
    (hreturns : ReturnFits store.returned next) :
    Accounted w alive (Function.update tokens id (some token)) q store' :=
  h.move hclaim hturn hphase hjobs hreturned.ge hlisted
    (by rw [hhanded, ← hattempts, ← h.handed id, Function.update_eq_self]) hvalid hfits htoken
    (hreturned ▸ hreturns)

/-! ### Commands -/

section Commands

variable [DecidableEq P] {environment : WorkerEnvironment} {process : ℕ}

/-- The phase after a command. -/
theorem phase_execute {phase : WorkerPhase P} (hphase : store.phase process = phase)
    (c : WorkerCommand G P) :
    (store.execute environment process c).1.phase
      = Function.update store.phase process
        (phase.next c (store.execute environment process c).2) := by
  unfold WorkerStore.execute
  rw [hphase]

omit [DecidableEq P] in
/-- The process has handled nothing in this turn, or the task of that id. -/
theorem turn_of_phase {phase : WorkerPhase P} (hphase : store.phase process = phase) {id : String}
    (hturn : ∀ task, phase.turn = some task → task.taskId = id) :
    ∀ task, (store.phase process).turn = some task → task.taskId = id := by
  rw [hphase]
  exact hturn

/-- **A task is enqueued.** -/
theorem Accounted.produce (h : Accounted w alive tokens q store)
    (hphase : store.phase process = .idle) {task : Task P}
    (henqueues : (w.call process).enqueues = some task.taskId) (hattempts : task.attempts = 0)
    (hplain : ':' ∉ task.queue.toList) :
    Accounted w alive (Function.update tokens task.taskId (some (.waiting task))) q
      (store.execute environment process (.queue (.lpush (q.key task.queue) task))).1 := by
  have hfresh : tokens task.taskId = none := by
    have hfits := h.phases process
    rw [hphase] at hfits
    exact hfits task.taskId henqueues
  refine h.shift (fun other hother => ?_) (turn_of_phase hphase nofun) (phase_execute hphase _)
    rfl rfl rfl (h.listed.push (by rw [hfresh]; rfl) rfl) ?_ ?_ trivial trivial trivial
  · rw [hfresh]
    exact fun hid => hother (w.distinct _ _ _ hid henqueues)
  · rw [hfresh]
    exact hattempts.symm
  · exact ⟨rfl, hplain, by rw [hattempts]; decide⟩

/-- **A task goes back** to the processing list, or to its queue. -/
theorem Accounted.goBack (h : Accounted w alive tokens q store) {task : Task P}
    (hphase : store.phase process = .taken task) {token : TaskToken P} {key : String}
    (htoken : token = .waiting task ∨ ∃ consumer, token = .held consumer task)
    (hentry : token.entry q = some (key, task)) (hcall : (w.call process).enqueues = none) :
    Accounted w alive (Function.update tokens task.taskId (some token)) q
      (store.execute environment process (.queue (.lpush key task))).1 := by
  have hbefore : tokens task.taskId = some (.taken process task) := by
    have hfits := h.phases process
    rwa [hphase] at hfits
  have hvalid := h.valid _ _ hbefore
  refine h.shift (fun other hother => ?_) (turn_of_phase hphase nofun) (phase_execute hphase _)
    rfl rfl rfl (h.listed.push (by rw [hbefore]; rfl) hentry) ?_ ?_ ?_ ?_ trivial
  · rw [hbefore]
    exact hother.symm
  · rw [hbefore]
    rcases htoken with rfl | ⟨consumer, rfl⟩ <;> rfl
  · rcases htoken with rfl | ⟨consumer, rfl⟩ <;> exact hvalid
  · intro id hid
    rw [hcall] at hid
    cases hid
  · rcases htoken with rfl | ⟨consumer, rfl⟩ <;> trivial

/-- **A failed task** goes back with one attempt more, if it has one left. -/
theorem Accounted.retry (h : Accounted w alive tokens q store) {task : Task P}
    (hphase : store.phase process = .removed task false) (hlast : ¬ OfflineWorker.IsLast task) :
    Accounted w alive (Function.update tokens task.taskId (some (.waiting task.again))) q
      (store.execute environment process (.queue (.lpush (q.key task.queue) task.again))).1 := by
  have hbefore : tokens task.taskId = some (.removed process task) := by
    have hfits := h.phases process
    rwa [hphase] at hfits
  obtain ⟨hid, hplain, -⟩ := h.valid _ _ hbefore
  have hnext : (store.execute environment process
      (.queue (.lpush (q.key task.queue) task.again))).1.phase
        = Function.update store.phase process (.retried task) := by
    rw [phase_execute hphase]
    exact congrArg (Function.update store.phase process) (if_neg hlast)
  refine h.shift (fun other hother => ?_)
    (turn_of_phase hphase (fun before hbefore => by cases hbefore; rfl)) hnext
    rfl rfl rfl (h.listed.push (by rw [show task.again.taskId = task.taskId from rfl, hbefore]; rfl)
      rfl) ?_ ?_ trivial trivial trivial
  · rw [hbefore]
    exact hother.symm
  · rw [hbefore]
    rfl
  · exact ⟨hid, hplain, not_le.mp hlast⟩

/-- **A failed task is parked** when it has none left. -/
theorem Accounted.park (h : Accounted w alive tokens q store) {task : Task P}
    (hphase : store.phase process = .removed task false) (hlast : OfflineWorker.IsLast task) :
    Accounted w alive (Function.update tokens task.taskId (some (.parked task.again))) q
      (store.execute environment process
        (.queue (.lpush (q.deadKey task.queue) task.again))).1 := by
  have hbefore : tokens task.taskId = some (.removed process task) := by
    have hfits := h.phases process
    rwa [hphase] at hfits
  obtain ⟨hid, -, hattempts⟩ := h.valid _ _ hbefore
  have hnext : (store.execute environment process
      (.queue (.lpush (q.deadKey task.queue) task.again))).1.phase
        = Function.update store.phase process (.parked task) := by
    rw [phase_execute hphase]
    exact congrArg (Function.update store.phase process) (if_pos hlast)
  refine h.shift (fun other hother => ?_)
    (turn_of_phase hphase (fun before hbefore => by cases hbefore; rfl)) hnext
    rfl rfl rfl (h.listed.push (by rw [show task.again.taskId = task.taskId from rfl, hbefore]; rfl)
      rfl) ?_ ?_ (Function.update_self ..) (Or.inr ⟨process, task, ?_, rfl⟩) trivial
  · rw [hbefore]
    exact hother.symm
  · rw [hbefore]
    rfl
  · exact ⟨hid, le_antisymm hattempts hlast⟩
  · rw [hnext, Function.update_self]

/-! ### What is in a list -/

section

omit [DecidableEq P]

/-- What is in a list has a token that says so. -/
theorem Accounted.token_of_mem (h : Accounted w alive tokens q store) {key : String}
    {task : Task P} (hmem : task ∈ store.queue.lists key) :
    ∃ token, tokens task.taskId = some token ∧ token.entry q = some (key, task)
      ∧ token.Valid task.taskId := by
  obtain ⟨token, htoken, hentry⟩ := Option.bind_eq_some_iff.mp ((h.listed.mem_iff key task).mp hmem)
  exact ⟨token, htoken, hentry, h.valid _ _ htoken⟩

/-- **What is in a queue waits.** -/
theorem Accounted.waiting_of_mem (h : Accounted w alive tokens q store) {queue : String}
    {task : Task P} (hmem : task ∈ store.queue.lists (q.key queue)) :
    tokens task.taskId = some (.waiting task) ∧ task.queue = queue := by
  obtain ⟨token, htoken, hentry, -⟩ := h.token_of_mem hmem
  cases token with
  | waiting task' =>
    obtain ⟨hkey, rfl⟩ := Prod.mk.inj (Option.some.inj hentry)
    exact ⟨htoken, q.key_inj hkey⟩
  | held consumer task' =>
    exact absurd (Prod.mk.inj (Option.some.inj hentry)).1.symm (q.key_ne_processingKey _ _ _)
  | working other consumer task' =>
    exact absurd (Prod.mk.inj (Option.some.inj hentry)).1.symm (q.key_ne_processingKey _ _ _)
  | parked task' => exact absurd (Prod.mk.inj (Option.some.inj hentry)).1 (q.deadKey_ne_key _ _)
  | _ => cases hentry

/-- **What is in a worker's own list** is not being handled, unless by
itself. -/
theorem Accounted.held_of_mem (h : Accounted w alive tokens q store)
    (hmanned : Manned w alive store)
    {queue consumer : String} {task : Task P} (hplain : ':' ∉ queue.toList)
    (hmem : task ∈ store.queue.lists (q.processingKey queue consumer)) (halive : alive process)
    (hcall : (w.call process).RunsAs consumer) (hidle : (store.phase process).turn = none) :
    tokens task.taskId = some (.held consumer task) ∧ task.queue = queue := by
  obtain ⟨token, htoken, hentry, hvalid⟩ := h.token_of_mem hmem
  cases token with
  | waiting task' =>
    exact absurd (Prod.mk.inj (Option.some.inj hentry)).1 (q.key_ne_processingKey _ _ _)
  | held consumer' task' =>
    obtain ⟨hkey, rfl⟩ := Prod.mk.inj (Option.some.inj hentry)
    obtain ⟨hqueue, rfl⟩ := q.processingKey_inj hvalid.2.1 hplain hkey
    exact ⟨htoken, hqueue⟩
  | working other consumer' task' =>
    obtain ⟨hkey, rfl⟩ := Prod.mk.inj (Option.some.inj hentry)
    obtain ⟨hqueue, rfl⟩ := q.processingKey_inj hvalid.2.1 hplain hkey
    obtain ⟨hother, succeeded, hphase⟩ := h.tokens _ _ htoken
    -- the one that handles it would have the same name, and be the same
    obtain rfl := hmanned.names (hmanned.owes (by rw [hphase]; trivial)) halive hother hcall
    rw [hphase] at hidle
    cases hidle
  | parked task' =>
    exact absurd (Prod.mk.inj (Option.some.inj hentry)).1 (q.deadKey_ne_processingKey _ _ _)
  | _ => cases hentry

/-- A worker's own list is no other's. -/
theorem unclaimed_held {consumer : String} {task : Task P} {id : String}
    (hmanned : Manned w alive store) (halive : alive process)
    (hcall : (w.call process).RunsAs consumer) {other : ℕ}
    (hother : other ≠ process) : Unclaimed w alive other id (some (.held consumer task)) :=
  fun hboth => hother (hmanned.names hboth.1 halive hboth.2 hcall)

end

/-! ### Taking out, and reserving -/

/-- **The recovery takes a task out.** -/
theorem Accounted.takeOut (h : Accounted w alive tokens q store)
    (hmanned : Manned w alive store)
    (hphase : store.phase process = .idle) {queue consumer : String}
    (hplain : ':' ∉ queue.toList) (halive : alive process)
    (hcall : (w.call process).RunsAs consumer) {task : Task P}
    (hlast : (store.queue.lists (q.processingKey queue consumer)).getLast? = some task) :
    Accounted w alive (Function.update tokens task.taskId (some (.taken process task))) q
      (store.execute environment process (.queue (.rpop (q.processingKey queue consumer)))).1 := by
  obtain ⟨hbefore, -⟩ := h.held_of_mem hmanned hplain (List.mem_of_getLast? hlast)
    halive hcall (by rw [hphase]; rfl)
  have hvalid := h.valid _ _ hbefore
  have hnext : (store.execute environment process
      (.queue (.rpop (q.processingKey queue consumer)))).1.phase
        = Function.update store.phase process (.taken task) := by
    rw [phase_execute hphase]
    show Function.update store.phase process
      (((store.queue.lists (q.processingKey queue consumer)).getLast?).elim .idle .taken) = _
    rw [hlast]
    rfl
  refine h.shift (fun other hother => ?_) (turn_of_phase hphase nofun) hnext rfl rfl rfl
    (h.listed.pop hlast rfl) ?_ hvalid (Function.update_self ..) trivial trivial
  · rw [hbefore]
    exact unclaimed_held hmanned halive hcall hother
  · rw [hbefore]
    rfl

omit [DecidableEq P] in
/-- **A task is reserved**: it was moved into the worker's own list. -/
theorem Accounted.reserve (h : Accounted w alive tokens q store)
    (hphase : store.phase process = .idle)
    {queue consumer : String} (hcall : (w.call process).RunsAs consumer) {task : Task P}
    (hlast : (store.queue.lists (q.key queue)).getLast? = some task) {store' : WorkerStore G P}
    (hnext : store'.phase = Function.update store.phase process (.reserved task))
    (hjobs : store'.jobs = store.jobs) (hreturned : store'.returned = store.returned)
    (hhanded : store'.handed = store.handed)
    (hlists : store'.queue.lists
      = Function.update (Function.update store.queue.lists (q.key queue)
          (store.queue.lists (q.key queue)).dropLast) (q.processingKey queue consumer)
        (task :: Function.update store.queue.lists (q.key queue)
          (store.queue.lists (q.key queue)).dropLast (q.processingKey queue consumer))) :
    task.queue = queue
      ∧ Accounted w alive (Function.update tokens task.taskId (some (.held consumer task))) q
        store' := by
  obtain ⟨hbefore, rfl⟩ := h.waiting_of_mem (List.mem_of_getLast? hlast)
  have hvalid := h.valid _ _ hbefore
  refine ⟨rfl, h.shift (fun other hother => ?_) (turn_of_phase hphase nofun) hnext hjobs hreturned
    hhanded ?_ ?_ hvalid ?_ trivial trivial⟩
  · rw [hbefore]
    trivial
  · rw [hlists]
    exact h.listed.move hlast rfl
  · rw [hbefore]
    rfl
  · exact fun _ => ⟨consumer, hcall, Function.update_self ..⟩

/-! ### A turn -/

/-- **A task is handed to a handler.** -/
theorem Accounted.handle (h : Accounted w alive tokens q store)
    (hmanned : Manned w alive store) {task : Task P} (hphase : store.phase process = .reserved task)
    (halive : alive process) :
    ∃ consumer, Accounted w alive
      (Function.update tokens task.taskId (some (.working process consumer task))) q
      (store.execute environment process (.handle task)).1 := by
  have hfits := h.phases process
  rw [hphase] at hfits
  obtain ⟨consumer, hcall, hbefore⟩ := hfits halive
  have hvalid := h.valid _ _ hbefore
  refine ⟨consumer, h.move (fun other hother => ?_) (turn_of_phase hphase nofun)
    (phase_execute hphase _) rfl ?_ (h.listed.relabel ?_) ?_ hvalid ?_ ?_ ?_⟩
  · rw [hbefore]
    exact unclaimed_held hmanned halive hcall hother
  · show store.returned ⊆ if environment.outcome.isOk then _ else _
    split
    · exact Finset.subset_insert _ _
    · exact Finset.Subset.refl _
  · rw [hbefore]
    rfl
  · show Function.update store.handed task.taskId (store.handed task.taskId + 1) = _
    rw [h.handed task.taskId, hbefore]
    rfl
  · exact ⟨consumer, hcall, Function.update_self ..⟩
  · refine ⟨hcall, environment.outcome.isOk, ?_⟩
    rw [phase_execute hphase, Function.update_self]
    rfl
  · show ReturnFits (if environment.outcome.isOk then _ else _)
      (.handled task environment.outcome.isOk)
    cases environment.outcome with
    | ok _ => exact Finset.mem_insert_self _ _
    | error _ => trivial

/-- **A task that was handled is taken out**, to be put elsewhere or to be
gone. -/
theorem Accounted.remove (h : Accounted w alive tokens q store) {task : Task P} {succeeded : Bool}
    (hphase : store.phase process = .handled task succeeded) {consumer : String}
    (hcall : (w.call process).RunsAs consumer) :
    Accounted w alive (Function.update tokens task.taskId (some (.removed process task))) q
      (store.execute environment process
        (.queue (.lrem (q.processingKey task.queue consumer) task))).1 := by
  have hfits := h.phases process
  have hreturns := h.returns process
  rw [hphase] at hfits hreturns
  obtain ⟨consumer', hcall', hbefore⟩ := hfits
  obtain rfl := hcall.unique hcall'
  have hvalid := h.valid _ _ hbefore
  have hlists : (store.execute environment process
      (.queue (.lrem (q.processingKey task.queue consumer) task))).1.queue.lists
        = Function.update store.queue.lists (q.processingKey task.queue consumer)
          ((store.queue.lists (q.processingKey task.queue consumer)).erase task) := by
    unfold WorkerStore.execute WorkerStore.serve QueueStore.execute
    dsimp only
    split <;> rfl
  refine h.shift (fun other hother => ?_)
    (turn_of_phase hphase (fun before hbefore => by cases hbefore; rfl)) (phase_execute hphase _)
    rfl rfl rfl ?_ ?_ hvalid (Function.update_self ..) ⟨succeeded, ?_⟩ ?_
  · rw [hbefore]
    exact hother.symm
  · rw [hlists]
    exact h.listed.erase (by rw [hbefore]; rfl) rfl
  · rw [hbefore]
    rfl
  · rw [phase_execute hphase, Function.update_self]
    rfl
  · cases succeeded
    · trivial
    · exact hreturns

/-- **A task is gone** when its handler has returned. -/
theorem Accounted.finish (h : Accounted w alive tokens q store) {task : Task P}
    (hphase : store.phase process = .removed task true)
    (hcall : (w.call process).enqueues = none) :
    Accounted w alive (Function.update tokens task.taskId (some (.gone (task.attempts + 1)))) q
      (store.execute environment process (.endTurn task)).1 := by
  have hfits := h.phases process
  have hreturns := h.returns process
  rw [hphase] at hfits hreturns
  have hbefore : tokens task.taskId = some (.removed process task) := hfits
  obtain ⟨-, -, hattempts⟩ := h.valid _ _ hbefore
  refine h.shift (fun other hother => ?_)
    (turn_of_phase hphase (fun before hbefore => by cases hbefore; rfl)) (phase_execute hphase _)
    rfl rfl rfl (h.listed.relabel ?_) ?_ hattempts ?_ hreturns trivial
  · rw [hbefore]
    exact hother.symm
  · rw [hbefore]
    rfl
  · rw [hbefore]
    rfl
  · intro id hid
    rw [hcall] at hid
    cases hid

/-! ### Failing the job -/

omit [DecidableEq P] in
/-- An `UPDATE` that leaves a row with its tenant changes one row. -/
theorem JobTable.find_modify (jobs : JobTable G) (tenantId jobId : String) {set : JobRow → JobRow}
    (hset : ∀ row, (set row).tenantId = row.tenantId) (tenantId' jobId' : String) :
    (jobs.modify tenantId jobId set).find tenantId' jobId'
      = if tenantId' = tenantId ∧ jobId' = jobId then (jobs.find tenantId jobId).map set
        else jobs.find tenantId' jobId' := by
  rcases hfind : jobs.find tenantId jobId with _ | row
  · rw [modify_of_find_none hfind]
    split
    · next hboth => rw [hboth.1, hboth.2, hfind]; rfl
    · rfl
  · obtain ⟨hrow, htenant⟩ := Option.filter_eq_some_iff.mp hfind
    replace htenant : row.tenantId = tenantId := of_decide_eq_true htenant
    by_cases hjob : jobId' = jobId
    · subst hjob
      unfold find
      rw [modify_of_find hfind, Function.update_self, hrow]
      by_cases hsame : tenantId' = tenantId
      · rw [if_pos ⟨hsame, rfl⟩, hsame]
        exact Option.filter_eq_some_iff.mpr ⟨rfl, decide_eq_true ((hset row).trans htenant)⟩
      · rw [if_neg (fun h => hsame h.1)]
        have hno : ∀ r : JobRow, r.tenantId = tenantId →
            (some r).filter (fun row => row.tenantId = tenantId') = none := fun r hr =>
          if_neg (fun h => hsame ((of_decide_eq_true h).symm.trans hr))
        rw [hno _ ((hset row).trans htenant), hno _ htenant]
    · rw [if_neg (fun h => hjob h.2)]
      unfold find
      rw [modify_of_find hfind, Function.update_of_ne hjob]

omit [DecidableEq P] in
/-- What is settled stays so when a row changes and stays final. -/
theorem JobSettled.modify {task : Task P} {tenantId jobId : String} {set : JobRow → JobRow}
    (h : JobSettled jobs task) (htenant : ∀ row, (set row).tenantId = row.tenantId)
    (hset : ∀ row, row.state ∈ JobState.terminal → (set row).state ∈ JobState.terminal) :
    JobSettled (jobs.modify tenantId jobId set) task := by
  intro row hrow
  rw [JobTable.find_modify jobs tenantId jobId htenant] at hrow
  split at hrow
  · next hboth =>
    obtain ⟨before, hbefore, rfl⟩ := Option.map_eq_some_iff.mp hrow
    rw [← hboth.1, ← hboth.2] at hbefore
    exact hset before (h before hbefore)
  · exact h row hrow

omit [DecidableEq P] in
/-- A job is settled by an `UPDATE` that leaves its row final. -/
theorem jobSettled_modify (jobs : JobTable G) (task : Task P) {set : JobRow → JobRow}
    (htenant : ∀ row, (set row).tenantId = row.tenantId)
    (hset : ∀ row, (set row).state ∈ JobState.terminal) :
    JobSettled (jobs.modify task.tenantId task.jobId set) task := by
  intro row hrow
  rw [JobTable.find_modify jobs _ _ htenant, if_pos ⟨rfl, rfl⟩] at hrow
  obtain ⟨before, -, rfl⟩ := Option.map_eq_some_iff.mp hrow
  exact hset before

/-- **A process that fails a job** settles it. -/
theorem Accounted.job (h : Accounted w alive tokens q store) {phase : WorkerPhase P} {task : Task P}
    (hphase : store.phase process = phase) (htask : phase = .parked task ∨ phase = .settled task)
    {c : JobCommand G} {next : WorkerPhase P}
    (hsettles : ∀ task : Task P, JobSettled store.jobs task →
      JobSettled (JobTable.execute () process store.jobs c).1 task)
    (hnext : phase.next (.job c) (store.execute environment process (.job c)).2 = next)
    (hdone : next = phase
      ∨ next = .settled task ∧ JobSettled (JobTable.execute () process store.jobs c).1 task) :
    Accounted w alive tokens q (store.execute environment process (.job c)).1 := by
  have hfits := h.phases process
  rw [hphase] at hfits
  have hfits' := hfits.settles hsettles
  have hparked : tokens task.taskId = some (.parked task.again) := by
    rcases htask with rfl | rfl
    · exact hfits
    · exact hfits.1
  refine h.rephase ((phase_execute hphase _).trans (by rw [hnext])) hsettles rfl rfl rfl ?_ ?_ ?_
  · rcases hdone with hsame | ⟨-, hsettled⟩
    · exact Or.inl (hsame.trans hphase.symm)
    · refine Or.inr (fun task' succeeded => ?_)
      rw [hphase]
      rcases htask with rfl | rfl
      · exact ⟨nofun, nofun, fun heq => by cases heq; exact hsettled⟩
      · exact ⟨nofun, nofun, nofun⟩
  · rcases hdone with rfl | ⟨rfl, hsettled⟩
    · exact hfits'
    · exact ⟨hparked, hsettled⟩
  · rcases hdone with rfl | ⟨rfl, -⟩
    · rcases htask with rfl | rfl <;> trivial
    · trivial

/-! ### All commands -/

/-- A worker that ends a turn holds nothing. -/
theorem Accounted.rest (h : Accounted w alive tokens q store) {phase : WorkerPhase P}
    {task : Task P}
    (hphase : store.phase process = phase) (htask : phase = .retried task ∨ phase = .settled task)
    (hcall : (w.call process).enqueues = none) :
    Accounted w alive tokens q (store.execute environment process (.endTurn task)).1 := by
  refine h.rephase (phase_execute hphase _) (fun _ hsettled => hsettled) rfl rfl rfl ?_ ?_ trivial
  · refine Or.inr (fun task' succeeded => ?_)
    rw [hphase]
    rcases htask with rfl | rfl <;> exact ⟨nofun, nofun, nofun⟩
  · intro id hid
    rw [hcall] at hid
    cases hid

/-- **A worker looks into the list of a dead one**, which is its own. -/
theorem Accounted.execute_rpop (h : Accounted w alive tokens q store)
    (hmanned : Manned w alive store) (halive : alive process) (hphase : store.phase process = .idle)
    {queue consumer : String} (hcall : (w.call process).RunsAs consumer)
    (hplain : ':' ∉ queue.toList) :
    (∀ task, (store.queue.lists (q.processingKey queue consumer)).getLast? = some task →
        task.queue = queue)
      ∧ ∃ tokens', Accounted w alive tokens' q (store.execute environment process
        (.queue (.rpop (q.processingKey queue consumer)))).1 := by
  rcases hlast : (store.queue.lists (q.processingKey queue consumer)).getLast? with _ | task
  · have hnext : (store.execute environment process
        (.queue (.rpop (q.processingKey queue consumer)))).1.phase
          = Function.update store.phase process (store.phase process) := by
      rw [phase_execute hphase, hphase]
      show Function.update store.phase process
        (((store.queue.lists (q.processingKey queue consumer)).getLast?).elim .idle .taken) = _
      rw [hlast]
      rfl
    have hnil := List.getLast?_eq_none_iff.mp hlast
    refine ⟨nofun, tokens, h.same hnext rfl rfl rfl ?_⟩
    show Function.update store.queue.lists _ (store.queue.lists _).dropLast = _
    rw [hnil, List.dropLast_nil, ← hnil, Function.update_eq_self]
  · refine ⟨fun task' htask' => ?_, _, h.takeOut hmanned hphase hplain halive hcall hlast⟩
    cases htask'
    exact (h.held_of_mem hmanned hplain (List.mem_of_getLast? hlast) halive hcall
      (by rw [hphase]; rfl)).2

omit [DecidableEq P] in
/-- **A worker reserves a task**, whichever way it waits. -/
theorem Accounted.execute_move (h : Accounted w alive tokens q store)
    (hphase : store.phase process = .idle) {queue consumer : String}
    (hcall : (w.call process).RunsAs consumer) {store' : WorkerStore G P}
    {moved : QueueStore P × Option (Task P)} (hmoved : moved = QueueStore.move
      { store.queue with nowMs := store.queue.nowMs + environment.elapsedMs } (q.key queue)
      (q.processingKey queue consumer))
    (hqueue : store'.queue = moved.1)
    (hnext : store'.phase = Function.update store.phase process (moved.2.elim .idle .reserved))
    (hjobs : store'.jobs = store.jobs) (hreturned : store'.returned = store.returned)
    (hhanded : store'.handed = store.handed) :
    (∀ task, moved.2 = some task → task.queue = queue)
      ∧ ∃ tokens', Accounted w alive tokens' q store' := by
  unfold QueueStore.move at hmoved
  dsimp only at hmoved
  rcases hlast : (store.queue.lists (q.key queue)).getLast? with _ | task
  · rw [hlast] at hmoved
    rw [hmoved] at hqueue hnext ⊢
    refine ⟨nofun, tokens, h.same (hnext.trans (by rw [hphase]; rfl)) hjobs hreturned hhanded ?_⟩
    rw [hqueue]
  · rw [hlast] at hmoved
    rw [hmoved] at hqueue hnext ⊢
    obtain ⟨htask, haccounted⟩ := h.reserve hphase hcall hlast hnext hjobs hreturned hhanded
      (by rw [hqueue]; rfl)
    exact ⟨fun task' htask' => by cases htask'; exact htask, _, haccounted⟩

/-- **A worker reads the row of the job** it is to fail. -/
theorem Accounted.execute_select (h : Accounted w alive tokens q store) {phase : WorkerPhase P}
    {task : Task P} (hphase : store.phase process = phase)
    (htask : phase = .parked task ∨ phase = .settled task) :
    Accounted w alive tokens q
      (store.execute environment process (.job (.select task.tenantId task.jobId))).1 := by
  refine h.job hphase htask (fun _ hsettled => hsettled) rfl ?_
  show phase.afterSelect (store.jobs.find task.tenantId task.jobId) = phase
    ∨ phase.afterSelect (store.jobs.find task.tenantId task.jobId) = .settled task
      ∧ JobSettled store.jobs task
  unfold JobSettled
  rcases htask with rfl | rfl
  · rcases store.jobs.find task.tenantId task.jobId with _ | row
    · exact Or.inr ⟨rfl, nofun⟩
    · by_cases hterminal : row.state ∈ JobState.terminal
      · exact Or.inr ⟨if_pos hterminal, fun row' hrow => Option.some.inj hrow ▸ hterminal⟩
      · exact Or.inl (if_neg hterminal)
  · exact Or.inl rfl

/-- **A process that does what its phase allows** finds what it expects, and
leaves everything accounted for. -/
theorem Accounted.execute (h : Accounted w alive tokens q store) (hmanned : Manned w alive store)
    (halive : alive process) {phase : WorkerPhase P} (hphase : store.phase process = phase)
    {c : WorkerCommand G P} (hallows : PhaseAllows q (w.call process) phase c) :
    (fleetContract q (w.call process)).expects phase c (store.execute environment process c).2
      ∧ ∃ tokens', Accounted w alive tokens' q (store.execute environment process c).1 := by
  have hsame : phase.next c (store.execute environment process c).2 = phase →
      (store.execute environment process c).1.phase
        = Function.update store.phase process (store.phase process) := by
    intro hnext
    rw [phase_execute hphase, hnext, hphase]
  cases hallows with
  | llen key => exact ⟨trivial, tokens, h.same (hsame rfl) rfl rfl rfl rfl⟩
  | now => exact ⟨trivial, tokens, h.same (hsame rfl) rfl rfl rfl rfl⟩
  | produce henqueues hattempts hplain =>
    exact ⟨trivial, _, h.produce hphase henqueues hattempts hplain⟩
  | @takeOut consumer queue hcall hplain =>
    obtain ⟨hfound, haccounted⟩ := h.execute_rpop hmanned halive hphase hcall hplain
    exact ⟨fun task htask => ⟨consumer, hcall, by rw [hfound task htask]⟩, haccounted⟩
  | putBack hcall =>
    exact ⟨trivial, _, h.goBack hphase (Or.inr ⟨_, rfl⟩) rfl hcall.enqueues⟩
  | requeue hcall => exact ⟨trivial, _, h.goBack hphase (Or.inl rfl) rfl hcall.enqueues⟩
  | reserve hcall hplain =>
    refine And.imp_left (fun hfound task htask => ?_)
      (h.execute_move hphase hcall rfl rfl (phase_execute hphase _) rfl rfl rfl)
    rw [hfound task htask]
  | await hcall hplain =>
    refine And.imp_left (fun hfound task htask => ?_)
      (h.execute_move hphase hcall rfl rfl (phase_execute hphase _) rfl rfl rfl)
    rw [hfound task htask]
  | handle hcall => exact ⟨trivial, _, (h.handle hmanned hphase halive).choose_spec⟩
  | remove hcall => exact ⟨trivial, _, h.remove hphase hcall⟩
  | retry hlast => exact ⟨trivial, _, h.retry hphase hlast⟩
  | park hlast => exact ⟨trivial, _, h.park hphase hlast⟩
  | select htask => exact ⟨trivial, tokens, h.execute_select hphase htask⟩
  | setError htask errorCode =>
    refine ⟨trivial, tokens, h.job hphase htask (fun _ hsettled => ?_) rfl (Or.inl rfl)⟩
    exact hsettled.modify (fun _ => rfl) (fun _ hterminal => hterminal)
  | @fail phase task htask errorCode warnings degraded =>
    have hfailed : JobState.failed ∈ JobState.terminal := by decide
    refine ⟨trivial, tokens, h.job hphase htask (fun _ hsettled => ?_) rfl (Or.inr ⟨?_, ?_⟩)⟩
    · exact hsettled.modify (fun _ => rfl) (fun _ _ => hfailed)
    · rcases htask with rfl | rfl <;> rfl
    · exact jobSettled_modify store.jobs task (fun _ => rfl) (fun _ => hfailed)
  | @endTurn consumer phase task hcall htask =>
    rcases htask with rfl | htask
    · exact ⟨trivial, _, h.finish hphase hcall.enqueues⟩
    · exact ⟨trivial, tokens, h.rest hphase htask hcall.enqueues⟩

end Commands

end Steps

/-! ## The system -/

namespace FleetSystem

variable [DecidableEq P] {q : RedisTaskQueue} {w : WorkerFleet P} {s : FleetSystem G P}

/-- Every process keeps its contract, and what it knows is its phase. -/
def Contracted (q : RedisTaskQueue) (w : WorkerFleet P)
    (shared : SharedStore (WorkerCommand G P) WorkerReply (WorkerStore G P)) : Prop :=
  shared.Ensures (fun process => fleetContract q (w.call process))
    (fun store process phase => store.phase process = phase) (fun _ phase => phase.AtEnd)

/-- **What is true of the processes and of the store** along an orderly run. -/
structure Sound (q : RedisTaskQueue) (w : WorkerFleet P) (s : FleetSystem G P) : Prop where
  accounted : ∃ tokens, Accounted w s.Alive tokens q s.store
  contracts : Contracted q w s.shared
  manned : Manned w s.Alive s.store
  fresh : ∀ process ∉ s.started,
    s.shared.clients process = none ∧ s.store.phase process = .idle

/-- **An orderly event**: no worker is started under the name of one that is
running, none is killed after the call of a handler and before it has put the
task back, or parked it and failed its job, and a job that is finished or failed
stays as it is. -/
def Orderly (w : WorkerFleet P) (s : FleetSystem G P) : FleetEvent → Prop
  | .start process => ∀ consumer, (w.call process).RunsAs consumer →
    ∀ other, other ≠ process → s.Alive other → ¬ (w.call other).RunsAs consumer
  | .command _ _ => True
  | .kill process => ¬ (s.store.phase process).Owes
  | .elsewhere jobId change => ∀ row, s.store.jobs.jobs jobId = some row →
    row.state ∈ JobState.terminal → (change row).state = row.state

/-- **The attempts of every task are bounded**: no task is handed to a handler
more than three times, and one that has been handed out three times, and is not
being handled any more, is on the dead list with its job finished or failed,
unless a handler has returned. -/
def AttemptsBounded (q : RedisTaskQueue) (s : FleetSystem G P) : Prop :=
  ∀ id, s.store.handed id ≤ MAX_ATTEMPTS
    ∧ (s.store.handed id = MAX_ATTEMPTS → id ∉ s.store.returned →
      (∀ process task, s.Alive process → (s.store.phase process).turn = some task →
        task.taskId ≠ id) →
      ∃ task, task.taskId = id ∧ task ∈ s.store.queue.lists (q.deadKey task.queue)
        ∧ JobSettled s.store.jobs task)

omit [DecidableEq P] in
/-- **What is accounted for is bounded.** -/
theorem Sound.attemptsBounded (h : s.Sound q w) : s.AttemptsBounded q := by
  obtain ⟨tokens, haccounted⟩ := h.accounted
  intro id
  rw [haccounted.handed id]
  rcases htoken : tokens id with _ | token
  · exact ⟨Nat.zero_le _, fun hmax => absurd hmax.symm (Nat.succ_ne_zero 2)⟩
  · have hvalid := haccounted.valid id token htoken
    have hfits := haccounted.tokens id token htoken
    refine ⟨hvalid.handed_le, fun hmax hreturned hnobody => ?_⟩
    replace hmax : token.handed = MAX_ATTEMPTS := hmax
    cases token with
    | waiting task | held consumer task | taken process task =>
      exact absurd hmax hvalid.2.2.ne
    | working process consumer task =>
      obtain ⟨-, succeeded, hphase⟩ := hfits
      exact absurd hvalid.1 (hnobody process task
        (h.manned.owes (by rw [hphase]; trivial)) (by rw [hphase]; rfl))
    | removed process task =>
      obtain ⟨succeeded, hphase⟩ := hfits
      cases succeeded with
      | false =>
        -- the third attempt was its last, and the task is to be parked
        exact absurd hvalid.1 (hnobody process task
          (h.manned.owes (by rw [hphase]; exact ⟨rfl, hmax.ge⟩)) (by rw [hphase]; rfl))
      | true =>
        have hmem := haccounted.returns process
        rw [hphase] at hmem
        exact absurd (hvalid.1 ▸ hmem) hreturned
    | gone attempts => exact absurd hfits hreturned
    | parked task =>
      refine ⟨task, hvalid.1, ?_, ?_⟩
      · rw [haccounted.listed.mem_iff, hvalid.1, htoken]
        rfl
      · refine hfits.resolve_right ?_
        rintro ⟨process, before, hphase, rfl⟩
        exact hnobody process before (h.manned.owes (by rw [hphase]; trivial))
          (by rw [hphase]; rfl) hvalid.1

/-! ### Steps -/

omit [DecidableEq P] in
/-- **Fewer processes that run rely on less**, and one that is idle relies on
nothing. -/
theorem accounted_of_alive {alive alive' : ℕ → Prop} {tokens : String → Option (TaskToken P)}
    {store : WorkerStore G P} (h : Accounted w alive tokens q store)
    (halive : ∀ process, alive' process → alive process ∨ store.phase process = .idle) :
    Accounted w alive' tokens q store where
  listed := h.listed
  handed := h.handed
  valid := h.valid
  tokens := h.tokens
  returns := h.returns
  phases process := by
    have hfits := h.phases process
    rcases hphase : store.phase process with _ | _ | task | _ | _ | _ | _ | _ | _
    case reserved =>
      rw [hphase] at hfits
      refine fun halive' => hfits ((halive process halive').resolve_right ?_)
      rw [hphase]
      exact nofun
    all_goals
      rw [hphase] at hfits
      exact hfits

/-- **A process is started.** -/
theorem Sound.start (h : s.Sound q w) {process : ℕ} (he : s.Orderly w (.start process)) :
    (s.step q w (.start process)).Sound q w := by
  unfold step
  dsimp only
  split
  · exact h
  · next hstarted =>
    obtain ⟨hnone, hidle⟩ := h.fresh process hstarted
    have hcontracts : Contracted q w (SharedStore.step (E := WorkerEnvironment)
        WorkerStore.execute (FleetCall.program q) s.shared (.start process (w.call process))) :=
      SharedStore.Ensures.start h.contracts
        ⟨.idle, hidle, keeps_fleet_program (w.queues_plain process)⟩
    have hshared : SharedStore.step (E := WorkerEnvironment) WorkerStore.execute
        (FleetCall.program q) s.shared (.start process (w.call process))
          = ⟨s.store, Function.update s.shared.clients process
            (some ((w.call process).program q))⟩ := by
      unfold SharedStore.step
      dsimp only
      rw [hnone]
    rw [hshared] at hcontracts ⊢
    have halive : ∀ other, other ≠ process →
        (Function.update s.shared.clients process (some ((w.call process).program q)) other
          = s.shared.clients other) := fun other hother => Function.update_of_ne hother _ _
    constructor
    · obtain ⟨tokens, haccounted⟩ := h.accounted
      refine ⟨tokens, accounted_of_alive haccounted (fun other ⟨c, k, hother⟩ => ?_)⟩
      by_cases hsame : other = process
      · exact Or.inr (hsame ▸ hidle)
      · exact Or.inl ⟨c, k, (halive other hsame).symm.trans hother⟩
    · exact hcontracts
    · constructor
      · intro other howes
        replace howes : (s.store.phase other).Owes := howes
        have hne : other ≠ process := by
          rintro rfl
          rw [hidle] at howes
          exact howes
        obtain ⟨c, k, hother⟩ := h.manned.owes howes
        exact ⟨c, k, (halive other hne).trans hother⟩
      · rintro m n consumer ⟨c, k, hm⟩ ⟨c', k', hn⟩ hrunsm hrunsn
        by_cases hmp : m = process
        · by_cases hnp : n = process
          · exact hmp.trans hnp.symm
          · exact absurd hrunsn
              (he consumer (hmp ▸ hrunsm) n hnp ⟨c', k', (halive n hnp).symm.trans hn⟩)
        · by_cases hnp : n = process
          · exact absurd hrunsm
              (he consumer (hnp ▸ hrunsn) m hmp ⟨c, k, (halive m hmp).symm.trans hm⟩)
          · exact h.manned.names ⟨c, k, (halive m hmp).symm.trans hm⟩
              ⟨c', k', (halive n hnp).symm.trans hn⟩ hrunsm hrunsn
    · intro other hother
      obtain ⟨hne, hunstarted⟩ := not_or.mp (fun hmem => hother (Finset.mem_insert.mpr hmem))
      exact ⟨(halive other hne).trans (h.fresh other hunstarted).1, (h.fresh other hunstarted).2⟩

/-- **A process issues its next command.** -/
theorem Sound.command (h : s.Sound q w) (process : ℕ) (environment : WorkerEnvironment) :
    (s.step q w (.command process environment)).Sound q w := by
  obtain ⟨tokens, haccounted⟩ := h.accounted
  have hexecute : ∀ c k, s.shared.clients process = some (.call c k) →
      (fleetContract q (w.call process)).expects (s.store.phase process) c
        (s.store.execute environment process c).2
        ∧ ∃ tokens', Accounted w s.Alive tokens' q (s.store.execute environment process c).1 := by
    intro c k hclient
    obtain ⟨phase, hphase, hallows, -⟩ := h.contracts process _ hclient
    obtain rfl : s.store.phase process = phase := hphase
    exact haccounted.execute h.manned ⟨c, k, hclient⟩ rfl hallows
  have hother : ∀ c other, other ≠ process →
      (s.store.execute environment process c).1.phase other = s.store.phase other := by
    intro c other hne
    rw [phase_execute rfl, Function.update_of_ne hne]
  have hcontracts : Contracted q w (SharedStore.step WorkerStore.execute (FleetCall.program q)
      s.shared (.command process environment)) := by
    refine SharedStore.Ensures.command h.contracts (fun c k known hclient hknows _ => ?_)
      (fun c k other known _ hne hknows => (hother c other hne).trans hknows)
    obtain rfl : s.store.phase process = known := hknows
    refine ⟨(hexecute c k hclient).1, ?_⟩
    show (s.store.execute environment process c).1.phase process = _
    rw [phase_execute rfl, Function.update_self]
    rfl
  unfold step
  dsimp only
  unfold SharedStore.step at hcontracts ⊢
  dsimp only at hcontracts ⊢
  rcases hclient : s.shared.clients process with _ | ⟨_⟩ | ⟨c, k⟩
  · exact h
  · exact h
  · rw [hclient] at hcontracts
    dsimp only at hcontracts ⊢
    have hclients : ∀ other, other ≠ process →
        Function.update s.shared.clients process
          (some (k (s.store.execute environment process c).2)) other = s.shared.clients other :=
      fun other hne => Function.update_of_ne hne _ _
    have halive : ∀ other c' k', Function.update s.shared.clients process
        (some (k (s.store.execute environment process c).2)) other = some (.call c' k') →
        s.Alive other := by
      intro other c' k' hrunning
      by_cases hsame : other = process
      · exact hsame ▸ ⟨c, k, hclient⟩
      · exact ⟨c', k', (hclients other hsame).symm.trans hrunning⟩
    obtain ⟨-, tokens', haccounted'⟩ := hexecute c k hclient
    constructor
    · exact ⟨tokens', accounted_of_alive haccounted'
        (fun other ⟨c', k', hrunning⟩ => Or.inl (halive other c' k' hrunning))⟩
    · exact hcontracts
    · constructor
      · intro other howes
        replace howes : ((s.store.execute environment process c).1.phase other).Owes := howes
        by_cases hsame : other = process
        · subst hsame
          obtain ⟨phase, hphase, hkeeps⟩ := hcontracts other _ (Function.update_self ..)
          rcases hnext : k (s.store.execute environment other c).2 with _ | ⟨c', k'⟩
          · rw [hnext] at hkeeps
            obtain rfl : (s.store.execute environment other c).1.phase other = phase := hphase
            have hend : ((s.store.execute environment other c).1.phase other).AtEnd := hkeeps
            rcases hend with hend | hend <;> rw [hend] at howes <;> exact howes.elim
          · exact ⟨c', k', Function.update_self ..⟩
        · rw [hother c other hsame] at howes
          obtain ⟨c', k', hrunning⟩ := h.manned.owes howes
          exact ⟨c', k', (hclients other hsame).trans hrunning⟩
      · rintro m n consumer ⟨c₁, k₁, hm⟩ ⟨c₂, k₂, hn⟩
        exact h.manned.names (halive m c₁ k₁ hm) (halive n c₂ k₂ hn)
    · intro other hfresh
      obtain ⟨hnone, hidle⟩ := h.fresh other hfresh
      have hne : other ≠ process := by
        rintro rfl
        rw [hclient] at hnone
        cases hnone
      exact ⟨(hclients other hne).trans hnone, (hother c other hne).trans hidle⟩

/-- **A process is killed** that is not in the middle of a turn. -/
theorem Sound.kill (h : s.Sound q w) {process : ℕ}
    (he : s.Orderly w (.kill process)) : (s.step q w (.kill process)).Sound q w := by
  have halive : ∀ other c k, Function.update s.shared.clients process none other
      = some (.call c k) → other ≠ process ∧ s.shared.clients other = some (.call c k) := by
    intro other c k hrunning
    have hne : other ≠ process := by
      rintro rfl
      rw [Function.update_self] at hrunning
      cases hrunning
    exact ⟨hne, (Function.update_of_ne hne _ _).symm.trans hrunning⟩
  obtain ⟨tokens, haccounted⟩ := h.accounted
  constructor
  · exact ⟨tokens, accounted_of_alive haccounted
      (fun other ⟨c, k, hrunning⟩ => Or.inl ⟨c, k, (halive other c k hrunning).2⟩)⟩
  · exact SharedStore.Ensures.update h.contracts nofun (fun _ _ _ hknows => hknows)
  · constructor
    · intro other howes
      have hne : other ≠ process := by
        rintro rfl
        exact he howes
      obtain ⟨c, k, hrunning⟩ := h.manned.owes howes
      exact ⟨c, k, (Function.update_of_ne hne _ _).trans hrunning⟩
    · rintro m n consumer ⟨c₁, k₁, hm⟩ ⟨c₂, k₂, hn⟩
      exact h.manned.names ⟨c₁, k₁, (halive m c₁ k₁ hm).2⟩ ⟨c₂, k₂, (halive n c₂ k₂ hn).2⟩
  · intro other hfresh
    obtain ⟨hnone, hidle⟩ := h.fresh other hfresh
    refine ⟨?_, hidle⟩
    show Function.update s.shared.clients process none other = none
    by_cases hsame : other = process
    · rw [hsame, Function.update_self]
    · rw [Function.update_of_ne hsame, hnone]

omit [DecidableEq P] in
/-- A settled job stays settled when a row that is final keeps its state. -/
theorem jobSettled_changeJob {jobs : JobTable G} {jobId : String} {change : JobRow → JobRow}
    (hfinal : ∀ row, jobs.jobs jobId = some row → row.state ∈ JobState.terminal →
      (change row).state = row.state) {task : Task P} (h : JobSettled jobs task) :
    JobSettled (changeJob jobs jobId change) task := by
  intro row hrow
  obtain ⟨hread, htenant⟩ := Option.filter_eq_some_iff.mp hrow
  by_cases hjob : task.jobId = jobId
  · rw [← hjob] at hread hfinal
    have hmap : (jobs.jobs task.jobId).map
        (fun row => { change row with tenantId := row.tenantId }) = some row := by
      rw [← hread]
      exact (Function.update_self _ _ jobs.jobs).symm
    obtain ⟨before, hbefore, rfl⟩ := Option.map_eq_some_iff.mp hmap
    have hterminal := h before (Option.filter_eq_some_iff.mpr ⟨hbefore, htenant⟩)
    exact (hfinal before hbefore hterminal).symm ▸ hterminal
  · exact h row (Option.filter_eq_some_iff.mpr
      ⟨(Function.update_of_ne hjob _ _).symm.trans hread, htenant⟩)

/-- **Somebody changes a job.** -/
theorem Sound.elsewhere (h : s.Sound q w) {jobId : String}
    {change : JobRow → JobRow} (he : s.Orderly w (.elsewhere jobId change)) :
    (s.step q w (.elsewhere jobId change)).Sound q w := by
  obtain ⟨tokens, haccounted⟩ := h.accounted
  have hsettles : ∀ task : Task P, JobSettled s.store.jobs task →
      JobSettled (changeJob s.store.jobs jobId change) task :=
    fun task hsettled => jobSettled_changeJob he hsettled
  refine ⟨⟨tokens, ?_⟩, h.contracts, ⟨h.manned.owes, h.manned.names⟩, h.fresh⟩
  exact haccounted.rephase (Function.update_eq_self 0 _).symm hsettles rfl rfl rfl
    (Or.inl rfl) ((haccounted.phases 0).settles hsettles) (haccounted.returns 0)

/-- **An orderly event keeps everything accounted for.** -/
theorem Sound.step (h : s.Sound q w) {e : FleetEvent} (he : s.Orderly w e) :
    (s.step q w e).Sound q w := by
  cases e with
  | start process => exact h.start he
  | command process environment => exact h.command process environment
  | kill process => exact h.kill he
  | elsewhere jobId change => exact h.elsewhere he

omit [DecidableEq P] in
/-- Nothing is enqueued at first, and nobody is running. -/
theorem sound_initial (q : RedisTaskQueue) (w : WorkerFleet P) (jobs : JobTable G)
    (nowMs : ℕ) :
    Sound q w ({ shared := { store := { queue := { nowMs }, jobs } } } : FleetSystem G P) where
  accounted := ⟨fun _ => none,
    { listed := ⟨fun _ _ => iff_of_false List.not_mem_nil nofun, fun _ => List.nodup_nil⟩
      handed := fun _ => rfl
      valid := nofun
      phases := fun _ _ _ => rfl
      tokens := nofun
      returns := fun _ => trivial }⟩
  contracts := nofun
  manned := ⟨nofun, fun ⟨_, _, hm⟩ => nomatch hm⟩
  fresh _ _ := ⟨rfl, rfl⟩

/-- **No task is handed out more than three times** along a run of orderly
events, and it is parked after that, with its job finished or failed. -/
theorem attempts_bounded (q : RedisTaskQueue) (w : WorkerFleet P) (jobs : JobTable G) (nowMs : ℕ)
    (events : List FleetEvent)
    (h : EachStep (step q w) (Orderly w) { shared := { store := { queue := { nowMs }, jobs } } }
      events) :
    Along (step q w) (AttemptsBounded q) { shared := { store := { queue := { nowMs }, jobs } } }
      events := by
  have hsound := along_of_eachStep (sound_initial q w jobs nowMs) (fun _ _ hs he => hs.step he) h
  exact fun pre hpre => (hsound pre hpre).attemptsBounded

end FleetSystem

/-! ## Runs -/

/-- A job that waits. -/
def waitingJob : JobTable Unit where
  jobs := Function.update (fun _ => none) "job"
    (some { tenantId := "tenant", idempotencyKey := "key", state := .queued, inputHash := "",
            configVersion := "" })

/-- The API enqueues one task, and the first so many workers have one name. -/
def oneTask (workers : ℕ) : WorkerFleet ℕ where
  call n :=
    if n = 0 then .enqueue "speaker.batch" "1" "tenant" "job" 0
    else .runForever ["speaker.batch"] (if n ≤ workers then "worker" else "spare") 3
  distinct m n id hm hn := by
    have hzero : ∀ k : ℕ, (if k = 0 then .enqueue "speaker.batch" "1" "tenant" "job" 0
        else .runForever ["speaker.batch"] (if k ≤ workers then "worker" else "spare") 3 :
          FleetCall ℕ).enqueues = some id → k = 0 := by
      intro k hk
      by_contra hne
      rw [if_neg hne] at hk
      cases hk
    rw [hzero m hm, hzero n hn]
  queues_plain n queues consumer rounds hcall := by
    by_cases hn : n = 0
    · rw [if_pos hn] at hcall
      cases hcall
    · rw [if_neg hn] at hcall
      cases hcall
      decide

/-- The name of a worker. -/
theorem consumer_of_oneTask {workers n : ℕ} {consumer : String}
    (h : ((oneTask workers).call n).RunsAs consumer) :
    n ≠ 0 ∧ consumer = if n ≤ workers then "worker" else "spare" := by
  obtain ⟨queues, rounds, hcall⟩ := h
  replace hcall : (if n = 0 then .enqueue "speaker.batch" "1" "tenant" "job" 0
    else .runForever ["speaker.batch"] (if n ≤ workers then "worker" else "spare") 3 :
      FleetCall ℕ) = .runForever queues consumer rounds := hcall
  by_cases hn : n = 0
  · rw [if_pos hn] at hcall
    cases hcall
  · rw [if_neg hn] at hcall
    cases hcall
    exact ⟨hn, rfl⟩

/-- A handler that does not return. -/
def raises : WorkerEnvironment where
  outcome := .error (.valueError "no voice")

/-- The task is handled three times by one worker, and the handler raises. -/
def raisesThrice : List FleetEvent :=
  [.start 0, .command 0 {}, .command 0 {}, .command 0 {}, .start 1]
    ++ List.replicate 24 (.command 1 raises)

/-- A worker is started, puts back what the one before it held, reserves the
task, and is killed by the handler. -/
def killedBy (process : ℕ) : List FleetEvent :=
  [.start process, .command process { elapsedMs := 300000 }] ++
    (if process = 1 then [] else List.replicate 3 (.command process {})) ++
    [.command process {}, .command process raises, .kill process]

/-- One worker after another is killed by the same task. -/
def killsItsWorkers : List FleetEvent :=
  [.start 0, .command 0 {}, .command 0 {}, .command 0 {}] ++ killedBy 1 ++ killedBy 2 ++ killedBy 3
    ++ killedBy 4

/-- **A task whose handler raises** is handed out three times. -/
theorem raisesThrice_bounded :
    Along (FleetSystem.step {} (oneTask 1)) (FleetSystem.AttemptsBounded {})
        { shared := { store := { jobs := waitingJob } } } raisesThrice
      ∧ (raisesThrice.foldl (FleetSystem.step {} (oneTask 1))
        { shared := { store := { jobs := waitingJob } } }).store.handed "tsk_1" = 3 := by
  refine ⟨FleetSystem.attempts_bounded {} (oneTask 1) waitingJob 0 raisesThrice ?_,
    by decide +kernel⟩
  intro pre e hpre
  have hmem : e ∈ raisesThrice := hpre.subset (List.mem_append_right pre List.mem_cons_self)
  cases e with
  | start process =>
    intro consumer hcall other hne _ hother
    have hprocess : process ≤ 1 := by
      have hone : process = 0 ∨ process = 1 := by simpa [raisesThrice] using hmem
      omega
    obtain ⟨hpos, hname⟩ := consumer_of_oneTask hcall
    obtain ⟨hpos', hname'⟩ := consumer_of_oneTask hother
    have hspare : ¬ other ≤ 1 := by omega
    rw [hname, if_pos hprocess, if_neg hspare] at hname'
    exact absurd hname' (by decide)
  | command process environment => exact True.intro
  | kill process => simp [raisesThrice] at hmem
  | elsewhere jobId change => simp [raisesThrice] at hmem

/-- **A task that kills its workers** is handed out a fourth time. -/
theorem killed_four_times :
    ¬ Along (FleetSystem.step {} (oneTask 4)) (FleetSystem.AttemptsBounded {})
      { shared := { store := { jobs := waitingJob } } } killsItsWorkers := by
  intro h
  have hfour : (killsItsWorkers.foldl (FleetSystem.step {} (oneTask 4))
      { shared := { store := { jobs := waitingJob } } }).store.handed "tsk_1" = 4 := by
    decide +kernel
  have hbound := (h killsItsWorkers (List.prefix_refl _) "tsk_1").1
  rw [hfour] at hbound
  exact absurd hbound (by decide)

end Sastt
