import Sastt.Adapters.QueueDelivery
import Sastt.Lib.Contracts
import Sastt.Workers.OfflineWorker

/-!
# The loop of a worker

`run_forever` uses the queue and the job store: a task whose handler raises is
put back into its queue, and when it has no attempt left it is parked on a dead
list and its job is marked as failed. Here is the whole loop, as a program that
issues commands to Redis and statements to the database, with the handler as a
command of its own: whether it raises is decided by the environment, and what
it does to jobs meanwhile is done to them by somebody.

Workers are started under the name of a consumer, which a later worker may
have again, and the recovery at the start of the loop is for what an earlier one
left behind. Nothing is recovered before it has waited for long enough.
-/

namespace Sastt

variable {G P : Type}

/-- A command of a worker: one to Redis, a statement, the handling of a task,
or the end of a turn of the loop, which is a mark and does nothing. -/
inductive WorkerCommand (G P : Type)
  | queue (c : QueueCommand P)
  | job (c : JobCommand G)
  | handle (task : Task P)
  | endTurn (task : Task P)

/-- What a command replies with: of the handler, what it raises. -/
def WorkerReply : WorkerCommand G P → Type
  | .queue c => QueueReply c
  | .job c => JobReply c
  | .handle _ => Except PyError Unit
  | .endTurn _ => Unit

/-- A program of such commands. -/
abbrev WorkerProgram (G P : Type) (α : Type) : Type := Program (WorkerCommand G P) WorkerReply α

namespace WorkerLoop

/-- A program of the queue. -/
def onQueue {α : Type} (p : QueueProgram P α) : WorkerProgram G P α :=
  p.embed .queue (fun _ => Equiv.refl _)

/-- A program of the job store. -/
def onJobs {α : Type} (p : JobProgram G α) : WorkerProgram G P α :=
  p.embed .job (fun _ => Equiv.refl _)

/-- `self.handle(task)`. -/
def handle (task : Task P) : WorkerProgram G P (Except PyError Unit) :=
  .issue (.handle task : WorkerCommand G P)

def endTurn (task : Task P) : WorkerProgram G P Unit :=
  .issue (.endTurn task : WorkerCommand G P)

variable (q : RedisTaskQueue)

/-- The `except` clause: put the task back, or park it and fail its job. -/
def afterFailure (consumer : String) (task : Task P) (e : PyError) : WorkerProgram G P Unit := do
  let retried ← onQueue (q.retry task consumer RedisTaskQueue.MAX_ATTEMPTS)
  if retried then return () else onJobs (OfflineWorker.failJob task e.text)

/-- One turn of the loop, with a task. -/
def turn (consumer : String) (task : Task P) : WorkerProgram G P Unit := do
  match ← handle task with
  | .ok _ =>
    let _ ← onQueue (q.ack task consumer)
    endTurn task
  | .error e =>
    afterFailure q consumer task e
    endTurn task

/-- The loop. -/
def serve (queues : List String) (consumer : String) : ℕ → WorkerProgram G P Unit
  | 0 => return ()
  | rounds + 1 => do
    match ← onQueue (q.reserve queues consumer) with
    | .error _ => return ()
    | .ok none => serve queues consumer rounds
    | .ok (some task) =>
      turn q consumer task
      serve queues consumer rounds

/-- **`run_forever`.** -/
def runForever (queues : List String) (consumer : String) (rounds : ℕ) :
    WorkerProgram G P Unit := do
  onQueue (q.recover consumer rounds queues)
  serve q queues consumer rounds

end WorkerLoop

/-! ## Workers -/

/-- What a process is started to do. -/
inductive FleetCall (P : Type)
  | enqueue (queue taskId tenantId jobId : String) (payload : P)
  | runForever (queues : List String) (consumer : String) (rounds : ℕ)

/-- The process is a worker of that name. -/
def FleetCall.RunsAs (consumer : String) (call : FleetCall P) : Prop :=
  ∃ queues rounds, call = .runForever queues consumer rounds

/-- The id of the task it enqueues. -/
def FleetCall.enqueues : FleetCall P → Option String
  | .enqueue _ taskId _ _ _ => some ("tsk_" ++ taskId)
  | .runForever _ _ _ => none

/-- The program of a call. -/
def FleetCall.program (q : RedisTaskQueue) : FleetCall P → WorkerProgram G P Unit
  | .enqueue queue taskId tenantId jobId payload => do
    let _ ← WorkerLoop.onQueue (q.enqueue queue taskId tenantId jobId payload)
    return ()
  | .runForever queues consumer rounds => WorkerLoop.runForever q queues consumer rounds

/-- **All processes that are ever started**, in any order. The id of a task is
given once. -/
structure WorkerFleet (P : Type) where
  call : ℕ → FleetCall P
  distinct : ∀ m n id, (call m).enqueues = some id → (call n).enqueues = some id → m = n
  /-- There is no colon in the name of a queue. -/
  queues_plain : ∀ n queues consumer rounds, call n = .runForever queues consumer rounds →
    ∀ queue ∈ queues, ':' ∉ queue.toList

/-! ## The phases of a turn -/

/-- **Where in its loop a process is**: bookkeeping, of what it has in its
hands. -/
inductive WorkerPhase (P : Type)
  /-- It holds no task. -/
  | idle
  /-- The recovery has taken a task out of the processing list. -/
  | taken (task : Task P)
  /-- It has reserved a task. -/
  | reserved (task : Task P)
  /-- The handler has returned, or raised. -/
  | handled (task : Task P) (succeeded : Bool)
  /-- The task has been taken out of the processing list after that. -/
  | removed (task : Task P) (succeeded : Bool)
  /-- The task has been put back into its queue. -/
  | retried (task : Task P)
  /-- The task has been parked. -/
  | parked (task : Task P)
  /-- Its job is gone, or finished, or failed. -/
  | settled (task : Task P)
  /-- A task has been enqueued. -/
  | produced
deriving DecidableEq

/-- The task whose handler has been called in this turn, and which has not been
put back, or parked with its job settled. -/
def WorkerPhase.turn : WorkerPhase P → Option (Task P)
  | .handled task _ | .removed task _ | .parked task => some task
  | .idle | .taken _ | .reserved _ | .retried _ | .settled _ | .produced => none

/-- A task of which only this process knows that it was handled, or that it is
to be parked, or that its job is to be failed. -/
def WorkerPhase.Owes : WorkerPhase P → Prop
  | .handled _ _ | .parked _ => True
  | .removed task succeeded => succeeded = false ∧ OfflineWorker.IsLast task
  | .idle | .taken _ | .reserved _ | .retried _ | .settled _ | .produced => False

/-- What reading the row of its job does to the phase. -/
def WorkerPhase.afterSelect : WorkerPhase P → Option JobRow → WorkerPhase P
  | .parked task, none => .settled task
  | .parked task, some row => if row.state ∈ JobState.terminal then .settled task else .parked task
  | phase, _ => phase

/-- **What a command and its reply do to the phase.** -/
def WorkerPhase.next (phase : WorkerPhase P) : (c : WorkerCommand G P) → WorkerReply c →
    WorkerPhase P
  | .queue (.lpush _ _), _ =>
    match phase with
    | .taken _ => .idle
    | .removed task _ => if OfflineWorker.IsLast task then .parked task else .retried task
    | _ => .produced
  | .queue (.rpop _), found => (found : Option (Task P)).elim phase .taken
  | .queue (.rpoplpush _ _), found => (found : Option (Task P)).elim phase .reserved
  | .queue (.brpoplpush _ _), found => (found : Option (Task P)).elim phase .reserved
  | .queue (.lrem _ _), _ =>
    match phase with
    | .handled task succeeded => .removed task succeeded
    | phase => phase
  | .queue _, _ => phase
  | .job (.select _ _), row => phase.afterSelect row
  | .job (.update _ _ _ _ _ _), _ =>
    match phase with
    | .parked task => .settled task
    | phase => phase
  | .job _, _ => phase
  | .handle task, outcome => .handled task (outcome : Except PyError Unit).isOk
  | .endTurn _, _ => .idle

/-! ## The server -/

/-- **What Redis and the database hold**, how often each task has been handed
to a handler, for which ones a handler has returned, and where each process
is. -/
structure WorkerStore (G P : Type) where
  queue : QueueStore P := {}
  jobs : JobTable G
  handed : String → ℕ := fun _ => 0
  returned : Finset String := ∅
  phase : ℕ → WorkerPhase P := fun _ => .idle

/-- What the environment decides about a command: how much time has passed,
and what a handler raises. -/
structure WorkerEnvironment where
  elapsedMs : ℕ := 0
  outcome : Except PyError Unit := .ok ()

namespace WorkerStore

variable [DecidableEq P]

/-- One command, but for the phase. -/
def serve (environment : WorkerEnvironment) (client : ℕ) (s : WorkerStore G P) :
    (c : WorkerCommand G P) → WorkerStore G P × WorkerReply c
  | .queue c =>
    let result := QueueStore.execute { elapsedMs := environment.elapsedMs } client s.queue c
    ({ s with queue := result.1 }, result.2)
  | .job c =>
    let result := JobTable.execute () client s.jobs c
    ({ s with jobs := result.1 }, result.2)
  | .handle task =>
    ({ s with
        handed := Function.update s.handed task.taskId (s.handed task.taskId + 1)
        returned := if environment.outcome.isOk then insert task.taskId s.returned
          else s.returned }, environment.outcome)
  | .endTurn _ => (s, ())

/-- **One command.** -/
def execute (environment : WorkerEnvironment) (client : ℕ) (s : WorkerStore G P)
    (c : WorkerCommand G P) : WorkerStore G P × WorkerReply c :=
  let result := serve environment client s c
  ({ result.1 with
      phase := Function.update s.phase client ((s.phase client).next c result.2) }, result.2)

end WorkerStore

/-! ## The system -/

/-- **The store, the processes that are running, and those that were
started.** -/
structure FleetSystem (G P : Type) where
  shared : SharedStore (WorkerCommand G P) WorkerReply (WorkerStore G P)
  started : Finset ℕ := ∅

/-- What can happen: a process is started, issues its next command, or is
killed, or somebody – a handler, the API – changes the row of a job. -/
inductive FleetEvent
  | start (process : ℕ)
  | command (process : ℕ) (environment : WorkerEnvironment)
  | kill (process : ℕ)
  | elsewhere (jobId : String) (change : JobRow → JobRow)

namespace FleetSystem

variable [DecidableEq P]

/-- The store. -/
abbrev store (s : FleetSystem G P) : WorkerStore G P := s.shared.store

/-- The process is running. -/
def Alive (s : FleetSystem G P) (process : ℕ) : Prop :=
  ∃ c k, s.shared.clients process = some (.call c k)

/-- The row of a job after somebody has changed it. It stays with its
tenant. -/
def changeJob (jobs : JobTable G) (jobId : String) (change : JobRow → JobRow) : JobTable G :=
  { jobs with
    jobs := Function.update jobs.jobs jobId
      ((jobs.jobs jobId).map (fun row => { change row with tenantId := row.tenantId })) }

/-- **One event.** -/
def step (q : RedisTaskQueue) (w : WorkerFleet P) (s : FleetSystem G P) :
    FleetEvent → FleetSystem G P
  | .start process =>
    if process ∈ s.started then s
    else
      { shared := SharedStore.step WorkerStore.execute (FleetCall.program q) s.shared
          (.start process (w.call process))
        started := insert process s.started }
  | .command process environment =>
    { s with
      shared := SharedStore.step WorkerStore.execute (FleetCall.program q) s.shared
        (.command process environment) }
  | .kill process =>
    { s with
      shared := SharedStore.step (E := WorkerEnvironment) WorkerStore.execute
        (FleetCall.program q) s.shared (.crash process) }
  | .elsewhere jobId change =>
    { s with
      shared := { s.shared with
        store := { s.store with jobs := changeJob s.store.jobs jobId change } } }

end FleetSystem

end Sastt
