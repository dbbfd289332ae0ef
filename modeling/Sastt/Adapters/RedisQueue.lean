import Mathlib.Data.Finset.Insert
import Sastt.Domain.Errors
import Sastt.Lib.Numerals
import Sastt.Lib.Programs

/-!
# The Redis work queues

A queue is a Redis list, and so is what each consumer is holding: a task is
pushed at the head of the waiting list of its queue, moved from its tail to
the processing list of the consumer that reserves it, and removed from there
when it is acknowledged. The methods of `RedisTaskQueue` are programs of
Redis commands, each of which is atomic; between two of them other clients
run, and the client itself may die.

Redis holds a task as its JSON text, and finds one in a list by that text.
The text and the task determine each other, so the lists here hold the tasks
themselves. A loop that the source runs until a list is empty, or until the
process is told to stop, is given the number of its rounds.

`completed` is bookkeeping and no part of Redis: the ids of the tasks that
were acknowledged by a client whose handler had finished them.
-/

namespace Sastt

/-- `ALL_QUEUES`: realtime before batch. -/
def ALL_QUEUES : List String :=
  ["asr.realtime", "speaker.realtime", "asr.batch", "speaker.batch", "separation.two_source",
    "separation.beta", "gss.batch", "fusion"]

/-- **One unit of queued work**, with a payload the queue does not look
into. -/
structure Task (P : Type) where
  taskId : String
  queue : String
  tenantId : String
  jobId : String
  payload : P
  enqueuedMs : ℕ := 0
  attempts : ℕ := 0
deriving DecidableEq

/-- `age_ms`. -/
def Task.ageMs {P : Type} (t : Task P) (nowMs : ℕ) : ℕ := nowMs - t.enqueuedMs

/-- The task after one more attempt. -/
def Task.again {P : Type} (t : Task P) : Task P := { t with attempts := t.attempts + 1 }

/-- A command a client issues: one of Redis, a reading of the clock, or the
handling of a task. -/
inductive QueueCommand (P : Type)
  | llen (key : String)
  | lpush (key : String) (task : Task P)
  | rpop (key : String)
  | rpoplpush (source destination : String)
  | brpoplpush (source destination : String)
  | lrem (key : String) (task : Task P)
  | now
  | handle (task : Task P)

/-- What a command replies with. -/
def QueueReply {P : Type} : QueueCommand P → Type
  | .llen _ => ℕ
  | .lpush _ _ => ℕ
  | .rpop _ => Option (Task P)
  | .rpoplpush _ _ => Option (Task P)
  | .brpoplpush _ _ => Option (Task P)
  | .lrem _ _ => ℕ
  | .now => ℕ
  | .handle _ => Bool

/-- A program of queue commands. -/
abbrev QueueProgram (P : Type) (α : Type) : Type := Program (QueueCommand P) QueueReply α

/-! ## The client -/

namespace RedisClient

variable {P : Type}

def llen (key : String) : QueueProgram P ℕ := .issue (QueueCommand.llen key)

def lpush (key : String) (task : Task P) : QueueProgram P ℕ := .issue (QueueCommand.lpush key task)

def rpop (key : String) : QueueProgram P (Option (Task P)) := .issue (QueueCommand.rpop key)

def rpoplpush (source destination : String) : QueueProgram P (Option (Task P)) :=
  .issue (QueueCommand.rpoplpush source destination)

def brpoplpush (source destination : String) : QueueProgram P (Option (Task P)) :=
  .issue (QueueCommand.brpoplpush source destination)

/-- `lrem` of the first entry that is the task. -/
def lrem (key : String) (task : Task P) : QueueProgram P ℕ := .issue (QueueCommand.lrem key task)

/-- `_now_ms`. -/
def nowMs : QueueProgram P ℕ := .issue (QueueCommand.now : QueueCommand P)

/-- Whether the handler of the worker returns for the task. -/
def handle (task : Task P) : QueueProgram P Bool := .issue (QueueCommand.handle task)

end RedisClient

open RedisClient

/-- **The queue**, as it is configured. -/
structure RedisTaskQueue where
  namespacePrefix : String := "sastt"
  maxDepth : ℕ := 10000
  visibilityTimeoutMs : ℕ := 300000

namespace RedisTaskQueue

variable {P : Type} (q : RedisTaskQueue)

/-! ## Keys -/

/-- The waiting list of a queue. -/
def key (queue : String) : String := q.namespacePrefix ++ ":queue:" ++ queue

/-- The list of the tasks a consumer is holding. -/
def processingKey (queue consumer : String) : String :=
  q.namespacePrefix ++ ":processing:" ++ queue ++ ":" ++ consumer

/-- The list of the tasks that have run out of attempts. -/
def deadKey (queue : String) : String := q.namespacePrefix ++ ":dead:" ++ queue

theorem key_inj {queue queue' : String} (h : q.key queue = q.key queue') : queue = queue' := by
  unfold key at h
  exact String.append_right_inj _ |>.mp h

theorem key_ne_processingKey (queue queue' consumer : String) :
    q.key queue ≠ q.processingKey queue' consumer := by
  intro h
  have hlist := congrArg String.toList h
  simp [key, processingKey, String.append_assoc] at hlist

theorem deadKey_ne_key (queue queue' : String) : q.deadKey queue ≠ q.key queue' := by
  intro h
  have hlist := congrArg String.toList h
  simp [deadKey, key, String.append_assoc] at hlist

theorem deadKey_ne_processingKey (queue queue' consumer : String) :
    q.deadKey queue ≠ q.processingKey queue' consumer := by
  intro h
  have hlist := congrArg String.toList h
  simp [deadKey, processingKey, String.append_assoc] at hlist

theorem processingKey_left_inj {queue queue' consumer : String}
    (h : q.processingKey queue consumer = q.processingKey queue' consumer) : queue = queue' := by
  unfold processingKey at h
  rw [String.append_left_inj, String.append_left_inj, String.append_right_inj] at h
  exact h

/-- A processing list tells its queue and its consumer. -/
theorem processingKey_inj {queue queue' consumer consumer' : String} (h : ':' ∉ queue.toList)
    (h' : ':' ∉ queue'.toList)
    (heq : q.processingKey queue consumer = q.processingKey queue' consumer') :
    queue = queue' ∧ consumer = consumer' := by
  have hlist := congrArg String.toList heq
  have hcut : queue.toList ++ ':' :: consumer.toList = queue'.toList ++ ':' ::
    consumer'.toList := by
    simpa [processingKey] using hlist
  have ⟨hqueue, hconsumer⟩ := append_cons_inj_of_notMem_left hcut h h'
  exact ⟨String.toList_inj.mp hqueue, String.toList_inj.mp hconsumer⟩

/-! ## Producing -/

/-- `enqueue`: push a task, unless the queue is full. In the name of a queue that
is known there is nothing to escape. -/
def enqueue (queue taskId tenantId jobId : String) (payload : P) :
    QueueProgram P (Except PyError (Task P)) :=
  if queue ∉ ALL_QUEUES then
    return .error (.sastt .sasttError ("unknown queue " ++ pyRepr queue)
      [("queues", .strs ALL_QUEUES)])
  else do
    let depth ← llen (q.key queue)
    if q.maxDepth ≤ depth then
      return .error (.sastt .redisQueueOverloaded
        ("queue '" ++ queue ++ "' is at its bound of " ++ toString q.maxDepth)
        [("queue", .str queue), ("depth", .int depth)])
    else
      let enqueuedMs ← nowMs
      let task : Task P :=
        { taskId := "tsk_" ++ taskId, queue, tenantId, jobId, payload, enqueuedMs }
      let _ ← lpush (q.key queue) task
      return .ok task

/-! ## Consuming -/

/-- The loop of `reserve`: the first queue that has a task. -/
def reserveFirst (consumer : String) : List String → QueueProgram P (Option (Task P))
  | [] => return none
  | queue :: queues => do
    match ← rpoplpush (q.key queue) (q.processingKey queue consumer) with
    | some task => return some task
    | none => reserveFirst consumer queues

/-- `reserve`: the next task, of the first queue that has one; if none has,
wait at the first queue for a while. -/
def reserve (queues : List String) (consumer : String) :
    QueueProgram P (Except PyError (Option (Task P))) := do
  match ← q.reserveFirst consumer queues with
  | some task => return .ok (some task)
  | none =>
    match queues with
    | [] => return .error (.other "list index out of range")
    | queue :: _ =>
      let task ← brpoplpush (q.key queue) (q.processingKey queue consumer)
      return .ok task

/-- `ack`: remove a finished task from the processing list. -/
def ack (task : Task P) (consumer : String) : QueueProgram P Bool := do
  let removed ← lrem (q.processingKey task.queue consumer) task
  return removed != 0

/-- `retry`: return a failed task to its queue, or park it once its attempts
run out. -/
def retry (task : Task P) (consumer : String) (maxAttempts : ℕ) : QueueProgram P Bool := do
  let _ ← q.ack task consumer
  if maxAttempts ≤ task.attempts + 1 then
    let _ ← lpush (q.deadKey task.queue) task.again
    return false
  else
    let _ ← lpush (q.key task.queue) task.again
    return true

/-- The loop of `requeue_stale`. -/
def requeueLoop (queue consumer : String) : ℕ → ℕ → QueueProgram P ℕ
  | 0, moved => return moved
  | rounds + 1, moved => do
    match ← rpop (q.processingKey queue consumer) with
    | none => return moved
    | some task =>
      if task.ageMs (← nowMs) < q.visibilityTimeoutMs then
        -- still within its lease: put back
        let _ ← lpush (q.processingKey queue consumer) task
        return moved
      else
        let _ ← lpush (q.key queue) task
        requeueLoop queue consumer rounds (moved + 1)

/-- `requeue_stale`: return the tasks a dead consumer was holding. -/
def requeueStale (queue consumer : String) (rounds : ℕ) : QueueProgram P ℕ :=
  q.requeueLoop queue consumer rounds 0

/-! ## Workers -/

/-- The attempts a worker grants a task. -/
def MAX_ATTEMPTS : ℕ := 3

/-- The start of `run_forever`: recover what an earlier incarnation of the
consumer held. -/
def recover (consumer : String) (rounds : ℕ) : List String → QueueProgram P Unit
  | [] => return ()
  | queue :: queues => do
    let _ ← q.requeueStale queue consumer rounds
    recover consumer rounds queues

/-- The loop of `run_forever`. -/
def serve (queues : List String) (consumer : String) : ℕ → QueueProgram P Unit
  | 0 => return ()
  | rounds + 1 => do
    match ← q.reserve queues consumer with
    | .error _ => return ()
    | .ok none => serve queues consumer rounds
    | .ok (some task) =>
      if ← handle task then
        let _ ← q.ack task consumer
        serve queues consumer rounds
      else
        let _ ← q.retry task consumer MAX_ATTEMPTS
        serve queues consumer rounds

/-- **`run_forever`**: recover, and serve until told to stop. -/
def runForever (queues : List String) (consumer : String) (rounds : ℕ) : QueueProgram P Unit := do
  q.recover consumer rounds queues
  q.serve queues consumer rounds

/-- `--once`: handle one task and exit; if the handler raises, so does the
process. -/
def runOnce (queues : List String) (consumer : String) : QueueProgram P Unit := do
  match ← q.reserve queues consumer with
  | .ok (some task) =>
    if ← handle task then
      let _ ← q.ack task consumer
      return ()
    else return ()
  | _ => return ()

end RedisTaskQueue

/-- What a client can be started to do. -/
inductive QueueCall (P : Type)
  | enqueue (queue taskId tenantId jobId : String) (payload : P)
  | runForever (queues : List String) (consumer : String) (rounds : ℕ)
  | runOnce (queues : List String) (consumer : String)
  | requeueStale (queue consumer : String) (rounds : ℕ)

/-- The program of a call. -/
def RedisTaskQueue.program {P : Type} (q : RedisTaskQueue) : QueueCall P → QueueProgram P Unit
  | .enqueue queue taskId tenantId jobId payload => do
    let _ ← q.enqueue queue taskId tenantId jobId payload
    return ()
  | .runForever queues consumer rounds => q.runForever queues consumer rounds
  | .runOnce queues consumer => q.runOnce queues consumer
  | .requeueStale queue consumer rounds => do
    let _ ← q.requeueStale (P := P) queue consumer rounds
    return ()

/-! ## The server -/

/-- **What Redis holds**, the time, and which tasks have been completed.
`succeeded` is the task a client's handler has just finished. -/
structure QueueStore (P : Type) where
  lists : String → List (Task P) := fun _ => []
  nowMs : ℕ := 0
  enqueued : Finset String := ∅
  completed : Finset String := ∅
  succeeded : ℕ → Option (Task P) := fun _ => none

/-- What the environment decides about a command: how much time has passed,
and whether a handler succeeds. -/
structure QueueEnvironment where
  elapsedMs : ℕ := 0
  succeeds : Bool := true
deriving DecidableEq, Repr

namespace QueueStore

variable {P : Type} [DecidableEq P] (s : QueueStore P)

/-- The store with one list replaced. -/
def put (key : String) (tasks : List (Task P)) : QueueStore P :=
  { s with lists := Function.update s.lists key tasks }

omit [DecidableEq P] in
@[simp] theorem lists_put_self (key : String) (tasks : List (Task P)) :
    (s.put key tasks).lists key = tasks := Function.update_self ..

omit [DecidableEq P] in
theorem lists_put_of_ne {key key' : String} (h : key' ≠ key) (tasks : List (Task P)) :
    (s.put key tasks).lists key' = s.lists key' := Function.update_of_ne h ..

/-- Push at the head of a list. -/
def push (key : String) (task : Task P) : QueueStore P :=
  { s.put key (task :: s.lists key) with enqueued := insert task.taskId s.enqueued }

/-- Move from the tail of a list to the head of another. -/
def move (source destination : String) : QueueStore P × Option (Task P) :=
  match (s.lists source).getLast? with
  | none => (s, none)
  | some task => ((s.put source (s.lists source).dropLast).push destination task, some task)

/-- **One command**, at the time the environment says. -/
def execute (environment : QueueEnvironment) (client : ℕ) (s : QueueStore P)
    (c : QueueCommand P) : QueueStore P × QueueReply c :=
  let s := { s with nowMs := s.nowMs + environment.elapsedMs }
  match c with
  | .llen key => (s, (s.lists key).length)
  | .lpush key task => (s.push key task, (s.lists key).length + 1)
  | .rpop key => (s.put key (s.lists key).dropLast, (s.lists key).getLast?)
  | .rpoplpush source destination => s.move source destination
  | .brpoplpush source destination => s.move source destination
  | .lrem key task =>
    let removed := s.put key ((s.lists key).erase task)
    let count : ℕ := if task ∈ s.lists key then 1 else 0
    if s.succeeded client = some task then
      ({ removed with
        completed := insert task.taskId s.completed
        succeeded := Function.update s.succeeded client none }, count)
    else (removed, count)
  | .now => (s, s.nowMs)
  | .handle task =>
    let finished := if environment.succeeds then some task else none
    ({ s with succeeded := Function.update s.succeeded client finished }, environment.succeeds)

end QueueStore

end Sastt
