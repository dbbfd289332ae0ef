import Sastt.Adapters.QueueDelivery
import Sastt.Lib.Contracts
import Sastt.Lib.Numerals

/-!
# Worker processes

A worker reserves tasks under the name of its process, `host:pid`, and the
recovery at the start of `run_forever` looks at what is left under that name.
So it is meant for an earlier incarnation of the same process, and there is
none: a process that is started anew has a pid of its own, and finds nothing
(`Idle`). What a process held when it was killed stays in its processing list
for good (`stranded`).

So the recovery has nothing to recover exactly as long as no process dies with
a task in its hands, be it killed, or because the handler of a `--once` process
raises (`nothingStranded_of_emptyHanded`).
-/

namespace Sastt

variable {P : Type}

/-! ## Processes -/

/-- What a process is started to do. -/
inductive ProcessCall (P : Type)
  | enqueue (queue taskId tenantId jobId : String) (payload : P)
  | runForever (queues : List String) (rounds : ℕ)
  | runOnce (queues : List String)

/-- The call under the name of the process. -/
def ProcessCall.asConsumer (consumer : String) : ProcessCall P → QueueCall P
  | .enqueue queue taskId tenantId jobId payload => .enqueue queue taskId tenantId jobId payload
  | .runForever queues rounds => .runForever queues consumer rounds
  | .runOnce queues => .runOnce queues consumer

/-- The process is told to handle one task and exit. -/
def ProcessCall.once : ProcessCall P → Bool
  | .runOnce _ => true
  | _ => false

/-- **All processes that are ever started**, in any order: on which host,
under which pid, and to do what. A pid may be used again on another host. -/
structure ProcessTable (P : Type) where
  host : ℕ → String
  pid : ℕ → ℕ
  call : ℕ → ProcessCall P
  /-- There is no colon in the name of a host. -/
  host_plain : ∀ n, ':' ∉ (host n).toList
  distinct : ∀ m n, host m = host n → pid m = pid n → m = n

/-- The name a worker goes by: `f"{socket.gethostname()}:{os.getpid()}"`. -/
def ProcessTable.consumer (w : ProcessTable P) (n : ℕ) : String :=
  w.host n ++ ":" ++ toString (w.pid n)

/-! ## Keys -/

namespace RedisTaskQueue

variable (q : RedisTaskQueue)

theorem processingKey_consumer_toList (w : ProcessTable P) (queue : String) (n : ℕ) :
    (q.processingKey queue (w.consumer n)).toList
      = ((q.namespacePrefix ++ ":processing:" ++ queue).toList ++ ':' :: (w.host n).toList)
        ++ ':' :: (toString (w.pid n)).toList := by
  simp [processingKey, ProcessTable.consumer]

/-- **Different processes have different processing lists.** -/
theorem processingKey_consumer_inj (w : ProcessTable P) {queue queue' : String} {m n : ℕ}
    (h : q.processingKey queue (w.consumer m) = q.processingKey queue' (w.consumer n)) :
    m = n := by
  have hlist := congrArg String.toList h
  rw [processingKey_consumer_toList, processingKey_consumer_toList] at hlist
  have ⟨hrest, hpid⟩ := append_cons_inj_of_notMem_right hlist (colon_notMem_toString _)
    (colon_notMem_toString _)
  have ⟨_, hhost⟩ := append_cons_inj_of_notMem_right hrest (w.host_plain m) (w.host_plain n)
  exact w.distinct m n (String.toList_inj.mp hhost)
    (toString_nat_inj (String.toList_inj.mp hpid))

end RedisTaskQueue

/-! ## What a process holds -/

section Holding

open Program RedisTaskQueue

variable (q : RedisTaskQueue) (consumer : String)

/-- The processing lists of the consumer are empty. -/
def Idle (own : String → List (Task P)) : Prop := ∀ queue, own (q.processingKey queue consumer) = []

/-- The consumer holds one task, in the processing list of its queue. -/
def Holding (task : Task P) (own : String → List (Task P)) : Prop :=
  ∀ queue, own (q.processingKey queue consumer) = if queue = task.queue then [task] else []

/-- What the consumer holds after a reservation. -/
def Reserved (own : String → List (Task P)) : Option (Task P) → Prop
  | none => Idle q consumer own
  | some task => Holding q consumer task own

/-- **What a process can count on**, knowing its processing lists: that they
are as it left them, that a task it reserves is one of the queue, and, if the
process is to exit after one task, that the handler succeeds. In turn it puts
tasks into their own queues only. -/
def processContract [DecidableEq P] (once : Bool) :
    Contract (QueueCommand P) QueueReply (String → List (Task P)) where
  allows _ c :=
    match c with
    | .lpush key task => ∀ queue, key = q.key queue → task.queue = queue
    | _ => True
  expects own c :=
    match c with
    | .rpop key => fun found => found = (own key).getLast?
    | .rpoplpush source _ => fun found => ∀ task, found = some task → source = q.key task.queue
    | .brpoplpush source _ => fun found => ∀ task, found = some task → source = q.key task.queue
    | .handle _ => fun succeeded => once = true → succeeded = true
    | _ => fun _ => True
  learn own c :=
    match c with
    | .lpush key task => fun _ => Function.update own key (task :: own key)
    | .rpop key => fun _ => Function.update own key (own key).dropLast
    | .rpoplpush _ destination => fun found =>
      found.elim own (fun task => Function.update own destination (task :: own destination))
    | .brpoplpush _ destination => fun found =>
      found.elim own (fun task => Function.update own destination (task :: own destination))
    | .lrem key task => fun _ => Function.update own key ((own key).erase task)
    | _ => fun _ => own

variable {q consumer} {own : String → List (Task P)} {once : Bool}

/-- A list that is not the consumer's is none of its business. -/
theorem Idle.update (h : Idle q consumer own) {key : String} (tasks : List (Task P))
    (hkey : ∀ queue, key ≠ q.processingKey queue consumer) :
    Idle q consumer (Function.update own key tasks) := fun queue => by
  rw [Function.update_of_ne (hkey queue).symm]
  exact h queue

theorem Idle.reserve (h : Idle q consumer own) {task : Task P} {queue : String}
    (hqueue : q.key queue = q.key task.queue) :
    Holding q consumer task (Function.update own (q.processingKey queue consumer)
      (task :: own (q.processingKey queue consumer))) := by
  have heq : queue = task.queue := q.key_inj hqueue
  intro queue'
  by_cases hq : queue' = task.queue
  · rw [if_pos hq, hq, ← heq, Function.update_self, h queue]
  · rw [if_neg hq, Function.update_of_ne, h queue']
    exact fun hkey => hq ((q.processingKey_left_inj hkey).trans heq)

variable [DecidableEq P]

theorem Holding.ack {task : Task P} (h : Holding q consumer task own) :
    Idle q consumer (Function.update own (q.processingKey task.queue consumer)
      ((own (q.processingKey task.queue consumer)).erase task)) := by
  intro queue
  by_cases hq : queue = task.queue
  · rw [hq, Function.update_self, h task.queue, if_pos rfl, List.erase_cons_head]
  · rw [Function.update_of_ne (fun hkey => hq (q.processingKey_left_inj hkey)), h queue,
      if_neg hq]

theorem keeps_reserveFirst (h : Idle q consumer own) (queues : List String) :
    (q.reserveFirst consumer queues).Keeps (processContract q once) (Reserved q consumer) own := by
  induction queues with
  | nil => exact keeps_pure h
  | cons queue queues ih =>
    refine keeps_bind (keeps_issue True.intro (fun found hfound => ?_))
    cases found with
    | none => exact ih
    | some task => exact keeps_pure (h.reserve (hfound task rfl))

theorem keeps_reserve (h : Idle q consumer own) (queues : List String) :
    (q.reserve queues consumer).Keeps (processContract q once)
      (fun own reserved => Reserved q consumer own (reserved.toOption.getD none)) own := by
  refine keeps_bind ((keeps_reserveFirst h queues).mono (fun own found hfound => ?_))
  cases found with
  | some task => exact keeps_pure hfound
  | none =>
    cases queues with
    | nil => exact keeps_pure hfound
    | cons queue _ =>
      refine keeps_bind (keeps_issue True.intro (fun awaited hawaited => ?_))
      cases awaited with
      | none => exact keeps_pure hfound
      | some task => exact keeps_pure (Idle.reserve hfound (hawaited task rfl))

theorem keeps_ack {task : Task P} (h : Holding q consumer task own) :
    (q.ack task consumer).Keeps (processContract q once) (fun own _ => Idle q consumer own) own :=
  keeps_bind (keeps_issue True.intro (fun _ _ => keeps_pure h.ack))

theorem keeps_retry {task : Task P} (h : Holding q consumer task own) (maxAttempts : ℕ) :
    (q.retry task consumer maxAttempts).Keeps (processContract q once)
      (fun own _ => Idle q consumer own) own := by
  refine keeps_bind ((keeps_ack h).mono (fun own _ hidle => ?_))
  split
  · refine keeps_bind (keeps_issue (fun queue hkey => ?_) (fun _ _ => keeps_pure ?_))
    · exact absurd hkey (q.deadKey_ne_key _ _)
    · exact hidle.update _ (fun _ => q.deadKey_ne_processingKey _ _ _)
  · refine keeps_bind (keeps_issue (fun queue hkey => ?_) (fun _ _ => keeps_pure ?_))
    · exact q.key_inj hkey
    · exact hidle.update _ (fun _ => q.key_ne_processingKey _ _ _)

/-- **A process that holds nothing recovers nothing.** -/
theorem keeps_requeueStale (h : Idle q consumer own) (queue : String) (rounds : ℕ) :
    (q.requeueStale queue consumer rounds).Keeps (processContract (P := P) q once)
      (fun own moved => Idle q consumer own ∧ moved = 0) own := by
  cases rounds with
  | zero => exact keeps_pure ⟨h, rfl⟩
  | succ rounds =>
    refine keeps_bind (keeps_issue True.intro (fun popped hpopped => ?_))
    have hnone : popped = none := by
      rw [show popped = (own (q.processingKey queue consumer)).getLast? from hpopped, h queue]
      rfl
    rw [hnone]
    refine keeps_pure ⟨fun queue' => ?_, rfl⟩
    by_cases hq : queue' = queue
    · rw [hq]
      show Function.update own _ _ _ = _
      rw [Function.update_self, h queue]
      rfl
    · exact (Function.update_of_ne (fun hkey => hq (q.processingKey_left_inj hkey)) _ _).trans
        (h queue')

theorem keeps_recover (h : Idle q consumer own) (rounds : ℕ) (queues : List String) :
    (q.recover consumer rounds queues).Keeps (processContract (P := P) q once)
      (fun own _ => Idle q consumer own) own := by
  induction queues generalizing own with
  | nil => exact keeps_pure h
  | cons queue queues ih =>
    exact keeps_bind ((keeps_requeueStale h queue rounds).mono (fun own _ hown => ih hown.1))

theorem keeps_serve (h : Idle q consumer own) (queues : List String) (rounds : ℕ) :
    (q.serve queues consumer rounds).Keeps (processContract q once)
      (fun own _ => Idle q consumer own) own := by
  induction rounds generalizing own with
  | zero => exact keeps_pure h
  | succ rounds ih =>
    refine keeps_bind ((keeps_reserve h queues).mono (fun own reserved hreserved => ?_))
    match reserved with
    | .error _ => exact keeps_pure hreserved
    | .ok none => exact ih hreserved
    | .ok (some task) =>
      refine keeps_bind (keeps_issue True.intro (fun succeeded _ => ?_))
      split
      · exact keeps_bind ((keeps_ack hreserved).mono (fun own _ hidle => ih hidle))
      · exact keeps_bind ((keeps_retry hreserved _).mono (fun own _ hidle => ih hidle))

/-- **A process that holds nothing at its start holds nothing at its end.** -/
theorem keeps_program (h : Idle q consumer own) (call : ProcessCall P) :
    (q.program (call.asConsumer consumer)).Keeps (processContract q call.once)
      (fun own _ => Idle q consumer own) own := by
  cases call with
  | enqueue queue taskId tenantId jobId payload =>
    refine keeps_bind (Keeps.mono (Q := fun own _ => Idle q consumer own) ?_
      (fun own _ hidle => keeps_pure hidle))
    unfold RedisTaskQueue.enqueue
    split
    · exact keeps_pure h
    · refine keeps_bind (keeps_issue True.intro (fun depth _ => ?_))
      split
      · exact keeps_pure h
      · refine keeps_bind (keeps_issue True.intro (fun now _ => ?_))
        refine keeps_bind (keeps_issue (fun queue hkey => q.key_inj hkey)
          (fun _ _ => keeps_pure ?_))
        exact h.update _ (fun _ => q.key_ne_processingKey _ _ _)
  | runForever queues rounds =>
    exact keeps_bind ((keeps_recover h rounds queues).mono
      (fun own _ hidle => keeps_serve hidle queues rounds))
  | runOnce queues =>
    refine keeps_bind ((keeps_reserve h queues).mono (fun own reserved hreserved => ?_))
    match reserved with
    | .error _ => exact keeps_pure hreserved
    | .ok none => exact keeps_pure hreserved
    | .ok (some task) =>
      refine keeps_bind (keeps_issue True.intro (fun succeeded hsucceeded => ?_))
      rw [show succeeded = true from hsucceeded rfl]
      exact keeps_bind ((keeps_ack hreserved).mono (fun own _ hidle => keeps_pure hidle))

end Holding

/-! ## The system of processes -/

/-- **Redis, the processes that are running, and those that were started.** -/
structure WorkerSystem (P : Type) where
  queue : QueueSystem P
  started : Finset ℕ := ∅

/-- What can happen: a process is started, issues its next command, or is
killed. -/
inductive WorkerEvent
  | start (process : ℕ)
  | command (process : ℕ) (environment : QueueEnvironment)
  | kill (process : ℕ)

namespace WorkerSystem

/-- The tasks a process holds of a queue. -/
def processing (q : RedisTaskQueue) (w : ProcessTable P) (s : WorkerSystem P) (queue : String)
    (process : ℕ) : List (Task P) :=
  s.queue.store.lists (q.processingKey queue (w.consumer process))

/-- **The process is no longer alive.** -/
def Ended (s : WorkerSystem P) (process : ℕ) : Prop :=
  process ∈ s.started ∧ ∀ c k, s.queue.clients process ≠ some (.call c k)

/-- **The process has executed the recovery** of its queues, and nothing
else yet. -/
def HasRecovered (q : RedisTaskQueue) (w : ProcessTable P) (s : WorkerSystem P) (process : ℕ)
    (queues : List String) : Prop :=
  ∃ rounds, w.call process = .runForever queues rounds
    ∧ s.queue.clients process = some (q.serve queues (w.consumer process) rounds)

/-- **No task is left behind**: once a worker has executed the recovery of its
queues, their tasks that are past their lease are in no processing list of a
process that is no longer alive. -/
def NothingStranded (q : RedisTaskQueue) (w : ProcessTable P) (s : WorkerSystem P) : Prop :=
  ∀ process queues, s.HasRecovered q w process queues → ∀ queue ∈ queues, ∀ dead, s.Ended dead →
    ∀ task ∈ s.processing q w queue dead,
      task.ageMs s.queue.store.nowMs < q.visibilityTimeoutMs

/-- **No process dies with a task in its hands**: what is killed has empty
processing lists, and no handler of a `--once` process raises. -/
def EmptyHanded (q : RedisTaskQueue) (w : ProcessTable P) (s : WorkerSystem P) :
    WorkerEvent → Prop
  | .start _ => True
  | .kill process => ∀ queue, s.processing q w queue process = []
  | .command process environment => ∀ task k,
    s.queue.clients process = some (.call (.handle task) k) → (w.call process).once = true →
      environment.succeeds = true

variable [DecidableEq P]

/-- **One event.** A process is started once. -/
def step (q : RedisTaskQueue) (w : ProcessTable P) (s : WorkerSystem P) :
    WorkerEvent → WorkerSystem P
  | .start process =>
    if process ∈ s.started then s
    else
      ⟨s.queue.step q (.start process ((w.call process).asConsumer (w.consumer process))),
        insert process s.started⟩
  | .command process environment =>
    { s with queue := s.queue.step q (.command process environment) }
  | .kill process => { s with queue := s.queue.step q (.crash process) }

end WorkerSystem

/-! ## What is left behind -/

section Stranded

variable {q : RedisTaskQueue} {w : ProcessTable P}

/-- What a client may do depends on its name only. -/
def ownCommands (q : RedisTaskQueue) : Discipline (QueueCommand P) QueueReply String where
  allows consumer c := q.Uses consumer c
  learn consumer _ _ := consumer

variable [DecidableEq P]

/-- **A command changes the processing lists of its own consumer only.** -/
theorem lists_execute_of_uses {consumer key : String} {c : QueueCommand P}
    (hc : q.Uses consumer c) (hkey : ∀ queue, key ≠ q.processingKey queue consumer)
    (hwaiting : ∀ queue, key ≠ q.key queue) (hdead : ∀ queue, key ≠ q.deadKey queue)
    (environment : QueueEnvironment) (client : ℕ) (s : QueueStore P) :
    (s.execute environment client c).1.lists key = s.lists key := by
  have hmove : ∀ queue (s : QueueStore P),
      (s.move (q.key queue) (q.processingKey queue consumer)).1.lists key = s.lists key := by
    intro queue s
    unfold QueueStore.move
    split
    · rfl
    · exact (Function.update_of_ne (hkey queue) _ _).trans
        (Function.update_of_ne (hwaiting queue) _ _)
  cases hc with
  | llen _ => rfl
  | push queue task => exact Function.update_of_ne (hwaiting queue) _ _
  | park queue task => exact Function.update_of_ne (hdead queue) _ _
  | putBack queue task => exact Function.update_of_ne (hkey queue) _ _
  | takeOut queue => exact Function.update_of_ne (hkey queue) _ _
  | reserve queue => exact hmove queue _
  | await queue => exact hmove queue _
  | ack queue task =>
    unfold QueueStore.execute
    dsimp only
    split
    · exact Function.update_of_ne (hkey queue) _ _
    · exact Function.update_of_ne (hkey queue) _ _
  | now => rfl
  | handle task => rfl

/-- The commands of a process leave the lists of the others alone. -/
theorem processing_execute_of_ne {m n : ℕ} (hne : m ≠ n) {c : QueueCommand P}
    (hc : q.Uses (w.consumer m) c) (environment : QueueEnvironment) (s : QueueStore P)
    (queue : String) :
    (s.execute environment m c).1.lists (q.processingKey queue (w.consumer n))
      = s.lists (q.processingKey queue (w.consumer n)) :=
  lists_execute_of_uses hc (fun _ h => hne (q.processingKey_consumer_inj w h).symm)
    (fun _ h => q.key_ne_processingKey _ _ _ h.symm)
    (fun _ h => q.deadKey_ne_processingKey _ _ _ h.symm) environment m s

/-- **The processes go by their names**: each of them uses its own processing
lists only. -/
def WorkerSystem.OwnNames (q : RedisTaskQueue) (w : ProcessTable P) (s : WorkerSystem P) : Prop :=
  s.queue.Obeys (ownCommands q) (fun _ process => w.consumer process)

namespace WorkerSystem

variable {s : WorkerSystem P}

omit [DecidableEq P] in
theorem runsAs_asConsumer (consumer : String) (call : ProcessCall P) :
    (call.asConsumer consumer).RunsAs consumer := by
  cases call with
  | enqueue _ _ _ _ _ => exact True.intro
  | _ => rfl

theorem OwnNames.step (h : s.OwnNames q w) (e : WorkerEvent) : (s.step q w e).OwnNames q w := by
  have hqueue : ∀ e : QueueEvent P,
      (∀ process a, e = .start process a → a = (w.call process).asConsumer (w.consumer process)) →
      (s.queue.step q e).Obeys (ownCommands q) (fun _ process => w.consumer process) := by
    intro e he
    refine SharedStore.Obeys.step (fun process a ha => ?_) (fun _ _ _ _ => rfl)
      (fun _ _ _ _ _ _ => rfl) h
    rw [he process a ha]
    exact Program.Only.obeys (only_uses q (runsAs_asConsumer _ _)) (fun _ _ => rfl)
  cases e with
  | start process =>
    unfold WorkerSystem.step
    dsimp only
    split
    · exact h
    · refine hqueue _ (fun process' a ha => ?_)
      cases ha
      rfl
  | command process environment => exact hqueue (.command process environment) nofun
  | kill process => exact hqueue (.crash process) nofun

/-- Who has ended is not started again. -/
theorem Ended.step {dead : ℕ} (h : s.Ended dead) (e : WorkerEvent) :
    (s.step q w e).Ended dead := by
  have hqueue : ∀ e : QueueEvent P, (∀ a, e ≠ .start dead a) →
      ∀ c k, (s.queue.step q e).clients dead ≠ some (.call c k) := by
    intro e he c k
    by_cases hdead : dead = e.client
    · subst hdead
      cases e with
      | start process a => exact absurd rfl (he a)
      | command process environment =>
        unfold QueueSystem.step SharedStore.step
        dsimp only
        split
        · next c' k' hs => exact absurd hs (h.2 c' k')
        · exact h.2 c k
      | crash process =>
        show Function.update s.queue.clients process none process ≠ _
        rw [Function.update_self]
        exact nofun
    · show (SharedStore.step QueueStore.execute q.program s.queue e).clients dead ≠ _
      rw [SharedStore.clients_step_of_ne hdead]
      exact h.2 c k
  cases e with
  | start process =>
    unfold WorkerSystem.step
    dsimp only
    split
    · exact h
    · next hstarted =>
      refine ⟨Finset.mem_insert_of_mem h.1, hqueue _ (fun a ha => ?_)⟩
      cases ha
      exact hstarted h.1
  | command process environment => exact ⟨h.1, hqueue (.command process environment) nofun⟩
  | kill process => exact ⟨h.1, hqueue (.crash process) nofun⟩

/-- An event changes the processing lists of the process that issues its
command. -/
theorem processing_step (h : s.OwnNames q w) (e : WorkerEvent) {process : ℕ}
    (hprocess : ∀ environment, e = .command process environment →
      ∀ c k, s.queue.clients process ≠ some (.call c k)) (queue : String) :
    (s.step q w e).processing q w queue process = s.processing q w queue process := by
  have hqueue : ∀ e : QueueEvent P, (∀ environment, e = .command process environment →
      ∀ c k, s.queue.clients process ≠ some (.call c k)) →
      (s.queue.step q e).store.lists (q.processingKey queue (w.consumer process))
        = s.processing q w queue process := by
    intro e he
    rcases SharedStore.store_step QueueStore.execute q.program s.queue e with
      ⟨-, hstore⟩ | ⟨client, environment, c, hissued, hstore⟩
    · exact congrArg (fun s => QueueStore.lists s _) hstore
    · obtain ⟨hcommand, k, hclient⟩ := SharedStore.clients_of_issued hissued
      have hne : client ≠ process := by
        rintro rfl
        exact he environment hcommand c k hclient
      refine (congrArg (fun s => QueueStore.lists s _) hstore).trans ?_
      exact processing_execute_of_ne hne (h.issued hissued) environment s.queue.store queue
  cases e with
  | start process' =>
    unfold WorkerSystem.step
    dsimp only
    split
    · rfl
    · exact hqueue (.start process' _) nofun
  | command process' environment =>
    refine hqueue (.command process' environment) (fun environment' he => ?_)
    cases he
    exact hprocess environment rfl
  | kill process' => exact hqueue (.crash process') nofun

/-- **What a dead process held is never touched again**, whatever else is
started. -/
theorem stranded (h : s.OwnNames q w) {dead : ℕ} (hended : s.Ended dead) (queue : String)
    (events : List WorkerEvent) :
    (events.foldl (step q w) s).processing q w queue dead = s.processing q w queue dead := by
  induction events generalizing s with
  | nil => rfl
  | cons e events ih =>
    refine (ih (h.step e) (hended.step e)).trans (processing_step h e (fun _ _ => hended.2) queue)

end WorkerSystem

end Stranded

/-! ## Processes that die empty-handed -/

section EmptyHanded

variable {q : RedisTaskQueue} {w : ProcessTable P} {s : QueueStore P}

/-- The process knows its processing lists. -/
def KnowsOwn (q : RedisTaskQueue) (w : ProcessTable P) (s : QueueStore P) (process : ℕ)
    (own : String → List (Task P)) : Prop :=
  ∀ queue, own (q.processingKey queue (w.consumer process))
    = s.lists (q.processingKey queue (w.consumer process))

/-- The waiting tasks are in their own queues. -/
def QueueStore.Sorted (q : RedisTaskQueue) (s : QueueStore P) : Prop :=
  ∀ queue, ∀ task ∈ s.lists (q.key queue), task.queue = queue

/-- What is done to one list by the process is known to it. -/
theorem KnowsOwn.update {process : ℕ} {own : String → List (Task P)}
    (h : KnowsOwn q w s process own)
    {key : String} {tasks tasks' : List (Task P)}
    (htasks : ∀ queue, key = q.processingKey queue (w.consumer process) → tasks = tasks') :
    KnowsOwn q w (s.put key tasks') process (Function.update own key tasks) := by
  intro queue
  by_cases hkey : q.processingKey queue (w.consumer process) = key
  · rw [hkey, Function.update_self, s.lists_put_self, htasks queue hkey.symm]
  · rw [Function.update_of_ne hkey, s.lists_put_of_ne hkey]
    exact h queue

theorem KnowsOwn.move {process : ℕ} {own : String → List (Task P)}
    (h : KnowsOwn q w s process own) (hsorted : s.Sorted q) (queue : String) :
    (∀ task, (s.move (q.key queue) (q.processingKey queue (w.consumer process))).2 = some task →
        q.key queue = q.key task.queue)
      ∧ KnowsOwn q w (s.move (q.key queue) (q.processingKey queue (w.consumer process))).1 process
        ((s.move (q.key queue) (q.processingKey queue (w.consumer process))).2.elim own
          (fun task => Function.update own (q.processingKey queue (w.consumer process))
            (task :: own (q.processingKey queue (w.consumer process))))) := by
  unfold QueueStore.move
  cases hlast : (s.lists (q.key queue)).getLast? with
  | none => exact ⟨nofun, h⟩
  | some task =>
    constructor
    · rintro _ ⟨⟩
      rw [hsorted queue task (List.mem_of_getLast? hlast)]
    · -- the waiting list is nothing the process knows of
      have htaken : KnowsOwn q w (s.put (q.key queue) (s.lists (q.key queue)).dropLast) process
          own := fun queue' => by
        rw [s.lists_put_of_ne (q.key_ne_processingKey _ _ _).symm]
        exact h queue'
      refine htaken.update (fun queue' hkey => ?_)
      rw [htaken queue]

theorem QueueStore.Sorted.put (h : s.Sorted q) {key : String} {tasks : List (Task P)}
    (htasks : ∀ queue, key = q.key queue → ∀ task ∈ tasks, task.queue = queue) :
    (s.put key tasks).Sorted q := by
  intro queue task htask
  by_cases hkey : q.key queue = key
  · rw [hkey, s.lists_put_self] at htask
    exact htasks queue hkey.symm task htask
  · rw [s.lists_put_of_ne hkey] at htask
    exact h queue task htask

theorem QueueStore.Sorted.push (h : s.Sorted q) {key : String} {task : Task P}
    (htask : ∀ queue, key = q.key queue → task.queue = queue) : (s.push key task).Sorted q := by
  refine Sorted.put (s := s) h (fun queue hkey => List.forall_mem_cons.mpr ⟨htask queue hkey, ?_⟩)
  rw [hkey]
  exact h queue

variable [DecidableEq P]

/-- **A command is answered as the process expects**, and what the process
learns from the answer is true. -/
theorem processContract_execute {process : ℕ} {c : QueueCommand P}
    (hc : q.Uses (w.consumer process) c) {own : String → List (Task P)}
    (h : KnowsOwn q w s process own) (hsorted : s.Sorted q) {once : Bool}
    {environment : QueueEnvironment}
    (hhandle : ∀ task, c = .handle task → once = true → environment.succeeds = true) :
    (processContract q once).expects own c (s.execute environment process c).2
      ∧ KnowsOwn q w (s.execute environment process c).1 process
        ((processContract q once).learn own c (s.execute environment process c).2) := by
  set s' : QueueStore P := { s with nowMs := s.nowMs + environment.elapsedMs }
  have h' : KnowsOwn q w s' process own := h
  have hpush : ∀ key task, KnowsOwn q w (s'.push key task) process
      (Function.update own key (task :: own key)) := fun key task =>
    h'.update (fun queue hkey => by rw [hkey, h' queue])
  cases hc with
  | llen key => exact ⟨True.intro, h⟩
  | now => exact ⟨True.intro, h⟩
  | handle task => exact ⟨hhandle task rfl, h⟩
  | push queue task => exact ⟨True.intro, hpush _ task⟩
  | park queue task => exact ⟨True.intro, hpush _ task⟩
  | putBack queue task => exact ⟨True.intro, hpush _ task⟩
  | takeOut queue =>
    refine ⟨congrArg List.getLast? (h queue).symm, h'.update (fun queue' hkey => ?_)⟩
    rw [h queue]
  | reserve queue => exact h'.move hsorted queue
  | await queue => exact h'.move hsorted queue
  | ack queue task =>
    refine ⟨True.intro, ?_⟩
    have herase : KnowsOwn q w
        (s'.put (q.processingKey queue (w.consumer process))
          ((s'.lists (q.processingKey queue (w.consumer process))).erase task)) process
        (Function.update own (q.processingKey queue (w.consumer process))
          ((own (q.processingKey queue (w.consumer process))).erase task)) :=
      h'.update (fun queue' hkey => congrArg (fun tasks => List.erase tasks task) (h' queue))
    unfold QueueStore.execute
    dsimp only
    split
    · exact herase
    · exact herase

/-- **The tasks stay in their own queues.** -/
theorem QueueStore.Sorted.execute (h : s.Sorted q) {consumer : String} {c : QueueCommand P}
    (hc : q.Uses consumer c) {once : Bool} {own : String → List (Task P)}
    (hallows : (processContract q once).allows own c) (environment : QueueEnvironment)
    (client : ℕ) : (s.execute environment client c).1.Sorted q := by
  set s' : QueueStore P := { s with nowMs := s.nowMs + environment.elapsedMs }
  have h' : s'.Sorted q := h
  have hprocessing : ∀ queue tasks, (s'.put (q.processingKey queue consumer) tasks).Sorted q :=
    fun queue tasks => h'.put (fun _ hkey => absurd hkey.symm (q.key_ne_processingKey _ _ _))
  have hmove : ∀ queue, (s'.move (q.key queue) (q.processingKey queue consumer)).1.Sorted q := by
    intro queue
    unfold QueueStore.move
    split
    · exact h'
    · refine Sorted.push ?_ (fun _ hkey => absurd hkey.symm (q.key_ne_processingKey _ _ _))
      refine h'.put (fun queue' hkey task htask => ?_)
      rw [← q.key_inj hkey]
      exact h' queue task (List.mem_of_mem_dropLast htask)
  cases hc with
  | llen key => exact h
  | now => exact h
  | handle task => exact h
  | push queue task => exact h'.push hallows
  | park queue task => exact h'.push hallows
  | putBack queue task => exact h'.push hallows
  | takeOut queue => exact hprocessing queue _
  | reserve queue => exact hmove queue
  | await queue => exact hmove queue
  | ack queue task =>
    unfold QueueStore.execute
    dsimp only
    split
    · exact hprocessing queue _
    · exact hprocessing queue _

namespace WorkerSystem

variable {s : WorkerSystem P}

/-- **What holds as long as nobody has died with a task in its hands.** -/
structure Sound (q : RedisTaskQueue) (w : ProcessTable P) (s : WorkerSystem P) : Prop where
  ownNames : s.OwnNames q w
  contracts : s.queue.Ensures (fun process => processContract q (w.call process).once)
    (KnowsOwn q w) (fun process => Idle q (w.consumer process))
  sorted : s.queue.store.Sorted q
  /-- Who is not at work holds nothing. -/
  idle : ∀ process, s.queue.clients process = none → ∀ queue, s.processing q w queue process = []
  fresh : ∀ process ∉ s.started, s.queue.clients process = none

/-- Nobody who has come to an end holds anything. -/
theorem Sound.ended (h : s.Sound q w) {process : ℕ} (hended : s.Ended process) (queue : String) :
    s.processing q w queue process = [] := by
  cases hclient : s.queue.clients process with
  | none => exact h.idle process hclient queue
  | some p =>
    cases p with
    | call c k => exact absurd hclient (hended.2 c k)
    | ret _ =>
      obtain ⟨own, hknows, hidle⟩ := h.contracts.returned hclient
      exact (hknows queue).symm.trans (hidle queue)

theorem Sound.nothingStranded (h : s.Sound q w) : s.NothingStranded q w := by
  intro process queues _ queue _ dead hdead task htask
  rw [h.ended hdead queue] at htask
  exact absurd htask List.not_mem_nil

/-- The start of a process that has not been started. -/
theorem step_start {process : ℕ} (hstarted : process ∉ s.started)
    (hclient : s.queue.clients process = none) :
    s.step q w (.start process)
      = ⟨⟨s.queue.store, Function.update s.queue.clients process
          (some (q.program ((w.call process).asConsumer (w.consumer process))))⟩,
        insert process s.started⟩ := by
  unfold WorkerSystem.step QueueSystem.step SharedStore.step
  dsimp only
  rw [if_neg hstarted, hclient]

/-- A command is about the process that issues it. -/
theorem clients_command_of_ne {process process' : ℕ} (hne : process' ≠ process)
    (environment : QueueEnvironment) :
    (s.step q w (.command process environment)).queue.clients process'
      = s.queue.clients process' := by
  show (SharedStore.step QueueStore.execute q.program s.queue
    (.command process environment)).clients process' = _
  exact SharedStore.clients_step_of_ne hne

/-- Who is not at work after a command was not at work before. -/
theorem clients_of_command {process process' : ℕ} {environment : QueueEnvironment}
    (h : (s.step q w (.command process environment)).queue.clients process' = none) :
    s.queue.clients process' = none := by
  by_cases hprocess : process' = process
  · subst hprocess
    unfold WorkerSystem.step QueueSystem.step SharedStore.step at h
    dsimp only at h
    split at h
    · cases (Function.update_self process' _ s.queue.clients).symm.trans h
    · exact h
  · rwa [clients_command_of_ne hprocess] at h

theorem Sound.start (h : s.Sound q w) (process : ℕ) : (s.step q w (.start process)).Sound q w := by
  by_cases hstarted : process ∈ s.started
  · have hsame : s.step q w (.start process) = s := if_pos hstarted
    rwa [hsame]
  · have hclient := h.fresh process hstarted
    have hownNames := h.ownNames.step (.start process)
    rw [step_start hstarted hclient] at hownNames ⊢
    refine ⟨hownNames, h.contracts.update (fun p hp => ?_) (fun _ _ _ hknows => hknows), h.sorted,
      fun process' hnone => ?_, fun process' hstarted' => ?_⟩
    · cases hp
      exact ⟨s.queue.store.lists, fun _ => rfl, keeps_program (h.idle process hclient) _⟩
    · refine h.idle process' ?_
      by_cases hprocess : process' = process
      · rwa [hprocess]
      · exact (Function.update_of_ne hprocess _ _).symm.trans hnone
    · have hnot := fun hmem => hstarted' (Finset.mem_insert_of_mem hmem)
      have hprocess : process' ≠ process := fun heq => hstarted' (heq ▸ Finset.mem_insert_self _ _)
      exact (Function.update_of_ne hprocess _ _).trans (h.fresh process' hnot)

theorem Sound.command (h : s.Sound q w) {process : ℕ} {environment : QueueEnvironment}
    (he : s.EmptyHanded q w (.command process environment)) :
    (s.step q w (.command process environment)).Sound q w where
  ownNames := h.ownNames.step _
  contracts := by
    show (SharedStore.step QueueStore.execute q.program s.queue
      (.command process environment)).Ensures _ _ _
    refine h.contracts.command (fun c k own hclient hknows _ => ?_)
      (fun c k process' own hclient hne hknows queue => ?_)
    · refine processContract_execute (h.ownNames process _ hclient).1 hknows h.sorted
        (fun task hc => ?_)
      subst hc
      exact he task k hclient
    · refine (hknows queue).trans (processing_execute_of_ne hne.symm ?_ _ _ _).symm
      exact (h.ownNames process _ hclient).1
  sorted := by
    rcases SharedStore.store_step QueueStore.execute q.program s.queue
      (.command process environment) with ⟨-, hstore⟩ | ⟨client, environment', c, hissued, hstore⟩
    · exact (congrArg (QueueStore.Sorted q) hstore).mpr h.sorted
    · obtain ⟨own, -, hallows⟩ := h.contracts.issued hissued
      exact (congrArg (QueueStore.Sorted q) hstore).mpr
        (h.sorted.execute (h.ownNames.issued hissued) hallows environment' client)
  idle process' hnone queue := by
    have hbefore := clients_of_command hnone
    refine (processing_step h.ownNames _ (fun _ _ c k hclient => ?_) queue).trans
      (h.idle process' hbefore queue)
    rw [hbefore] at hclient
    cases hclient
  fresh process' hstarted := by
    have hbefore := h.fresh process' hstarted
    by_cases hprocess : process' = process
    · subst hprocess
      unfold WorkerSystem.step QueueSystem.step SharedStore.step
      dsimp only
      rw [hbefore]
      exact hbefore
    · rwa [clients_command_of_ne hprocess]

theorem Sound.kill (h : s.Sound q w) {process : ℕ} (he : s.EmptyHanded q w (.kill process)) :
    (s.step q w (.kill process)).Sound q w where
  ownNames := h.ownNames.step _
  contracts := h.contracts.update nofun (fun _ _ _ hknows => hknows)
  sorted := h.sorted
  idle process' hnone queue := by
    by_cases hprocess : process' = process
    · rw [hprocess]
      exact he queue
    · exact h.idle process' ((Function.update_of_ne hprocess _ _).symm.trans hnone) queue
  fresh process' hstarted := by
    by_cases hprocess : process' = process
    · subst hprocess
      exact Function.update_self ..
    · exact (Function.update_of_ne hprocess _ _).trans (h.fresh process' hstarted)

/-- **A step keeps the processes sound** unless one dies with a task in its
hands. -/
theorem Sound.step (h : s.Sound q w) {e : WorkerEvent} (he : s.EmptyHanded q w e) :
    (s.step q w e).Sound q w := by
  cases e with
  | start process => exact h.start process
  | command process environment => exact h.command he
  | kill process => exact h.kill he

theorem sound_initial (q : RedisTaskQueue) (w : ProcessTable P) (nowMs : ℕ) :
    Sound q w { queue := { store := { nowMs } } } where
  ownNames _ _ hp := nomatch hp
  contracts _ _ hp := nomatch hp
  sorted _ _ htask := absurd htask List.not_mem_nil
  idle _ _ _ := rfl
  fresh _ _ := rfl

/-- **Where no process dies with a task in its hands, nothing is left behind
by the recovery.** -/
theorem nothingStranded_of_emptyHanded (q : RedisTaskQueue) (w : ProcessTable P) (nowMs : ℕ)
    (events : List WorkerEvent)
    (h : EachStep (step q w) (EmptyHanded q w) { queue := { store := { nowMs } } } events) :
    Along (step q w) (NothingStranded q w) { queue := { store := { nowMs } } } events := by
  have hsound : Along (step q w) (Sound q w) { queue := { store := { nowMs } } } events :=
    along_of_eachStep (sound_initial q w nowMs) (fun _ _ hs he => hs.step he) h
  exact fun pre hpre => (hsound pre hpre).nothingStranded

/-- **What a process held when it died is missed by every later recovery** of
its queue, once the lease has expired. -/
theorem not_nothingStranded_of_ended (h : s.OwnNames q w) {dead : ℕ} (hended : s.Ended dead)
    {queue : String} {task : Task P} (htask : task ∈ s.processing q w queue dead)
    (events : List WorkerEvent) {process : ℕ} {queues : List String} (hqueue : queue ∈ queues)
    (hrecovered : (events.foldl (step q w) s).HasRecovered q w process queues)
    (hexpired : q.visibilityTimeoutMs
      ≤ task.ageMs (events.foldl (step q w) s).queue.store.nowMs) :
    ¬ (events.foldl (step q w) s).NothingStranded q w := by
  intro hnothing
  have hdead : (events.foldl (step q w) s).Ended dead :=
    invariant_foldl (I := fun s : WorkerSystem P => s.Ended dead) hended
      (fun _ e hs => Ended.step hs e)
  rw [← stranded h hended queue events] at htask
  exact absurd (hnothing process queues hrecovered queue hqueue dead hdead task htask)
    (Nat.not_lt.mpr hexpired)

/-- **In every run, what a process holds when it ends is left in its processing list**,
whatever is started, killed or recovered afterwards. -/
theorem stranded_run (q : RedisTaskQueue) (w : ProcessTable P) (nowMs : ℕ)
    (before after : List WorkerEvent) {dead : ℕ}
    (hended : (before.foldl (step q w) { queue := { store := { nowMs } } }).Ended dead)
    (queue : String) :
    ((before ++ after).foldl (step q w) { queue := { store := { nowMs } } }).processing q w queue
        dead
      = (before.foldl (step q w) { queue := { store := { nowMs } } }).processing q w queue
        dead := by
  have hown : (before.foldl (step q w) { queue := { store := { nowMs } } }).OwnNames q w :=
    invariant_foldl (I := fun s : WorkerSystem P => s.OwnNames q w)
      (sound_initial q w nowMs).ownNames (fun _ e hs => OwnNames.step hs e)
  rw [List.foldl_append]
  exact stranded hown hended queue after

end WorkerSystem

end EmptyHanded

/-! ## A restart -/

/-- Two workers of one host, one after the other, and the API. -/
def restartedWorker : ProcessTable ℕ where
  host _ := "worker"
  pid n := n
  call n :=
    if n ≤ 1 then .runForever ["speaker.batch"] 1
    else .enqueue "speaker.batch" (toString n) "tenant" "job" 0
  host_plain _ := by decide
  distinct _ _ _ h := h

/-- A worker finishes a task and is stopped; the next one starts. -/
def gracefulRestart : List WorkerEvent :=
  [.start 2, .command 2 {}, .command 2 {}, .command 2 {}, .start 0, .command 0 {}, .command 0 {},
    .command 0 {}, .command 0 {}, .start 1, .command 1 {}]

/-- A worker is killed with a task in its hands; the next one starts when the
lease has expired. -/
def killedWorker : List WorkerEvent :=
  [.start 2, .command 2 {}, .command 2 {}, .command 2 {}, .start 0, .command 0 {}, .command 0 {},
    .kill 0, .start 1, .command 1 { elapsedMs := 300000 }]

/-- The next worker of the host, and what it recovers, leave the task where it is. -/
theorem stranded_run_killedWorker :
    ((killedWorker.take 8 ++ killedWorker.drop 8).foldl (WorkerSystem.step {} restartedWorker)
        { queue := { store := {} } }).processing {} restartedWorker "speaker.batch" 0
      = [{ taskId := "tsk_2", queue := "speaker.batch", tenantId := "tenant", jobId := "job",
           payload := 0 }] := by
  have hended : WorkerSystem.Ended ((killedWorker.take 8).foldl
      (WorkerSystem.step {} restartedWorker) { queue := { store := {} } }) 0 :=
    ⟨by decide +kernel, fun c k hclient => nomatch hclient⟩
  rw [WorkerSystem.stranded_run {} restartedWorker 0 (killedWorker.take 8) (killedWorker.drop 8)
    hended "speaker.batch"]
  decide +kernel

/-- **The task of a killed worker does not come back.** -/
theorem killedWorker_stranded :
    ¬ Along (WorkerSystem.step {} restartedWorker) (WorkerSystem.NothingStranded {} restartedWorker)
      { queue := { store := {} } } killedWorker := by
  intro h
  have hend := h killedWorker (List.prefix_refl _)
  have hrecovered : WorkerSystem.HasRecovered {} restartedWorker
      (killedWorker.foldl (WorkerSystem.step {} restartedWorker) { queue := { store := {} } }) 1
      ["speaker.batch"] := ⟨1, rfl, rfl⟩
  have hended : WorkerSystem.Ended
      (killedWorker.foldl (WorkerSystem.step {} restartedWorker) { queue := { store := {} } }) 0 :=
    ⟨by decide +kernel, fun c k hclient => nomatch hclient⟩
  have hage := hend 1 _ hrecovered "speaker.batch" List.mem_cons_self 0 hended
    { taskId := "tsk_2", queue := "speaker.batch", tenantId := "tenant", jobId := "job",
      payload := 0 } (by decide +kernel)
  revert hage
  decide +kernel

/-- After a graceful restart the queue is in order. -/
theorem nothingStranded_of_gracefulRestart :
    Along (WorkerSystem.step {} restartedWorker) (WorkerSystem.NothingStranded {} restartedWorker)
      { queue := { store := {} } } gracefulRestart := by
  refine WorkerSystem.nothingStranded_of_emptyHanded {} restartedWorker 0 gracefulRestart ?_
  intro pre e hpre
  cases e with
  | start process => exact True.intro
  | command process environment =>
    -- nobody is told to handle one task and exit
    intro task k _ honce
    revert honce
    show (if process ≤ 1 then _ else _ : ProcessCall ℕ).once = true → _
    split <;> exact nofun
  | kill process =>
    have hmem := hpre.subset (List.mem_append_right pre List.mem_cons_self)
    simp [gracefulRestart] at hmem

end Sastt
