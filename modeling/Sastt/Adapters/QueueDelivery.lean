import Sastt.Adapters.RedisQueue

/-!
# Delivery of queued tasks

Delivery is meant to be at least once: a task that was enqueued and is not
completed is in some list of Redis at every moment, whatever the clients do
and whenever they die (`NothingLost`). Moving a task from list to list is
one command and loses nothing; acknowledging a finished task takes away what
is no longer needed.

`retry` and `requeue_stale` do it in two commands: they take the task out
first and put it back after. In between it is held by the client alone, so
nothing is lost along a run exactly when none of these removals takes the
last copy of an unfinished task (`nothingLost_iff`).
-/

namespace Sastt

variable {P : Type}

/-- The keys of the queue: of a waiting list, of a consumer's processing
list, or of a dead list. -/
inductive RedisTaskQueue.IsKey (q : RedisTaskQueue) : String → Prop
  | waiting (queue : String) : q.IsKey (q.key queue)
  | processing (queue consumer : String) : q.IsKey (q.processingKey queue consumer)
  | dead (queue : String) : q.IsKey (q.deadKey queue)

/-- **A copy of the task is in a list of the queue.** -/
def RedisTaskQueue.Held (q : RedisTaskQueue) (lists : String → List (Task P)) (taskId : String) :
    Prop :=
  ∃ key, q.IsKey key ∧ ∃ t ∈ lists key, t.taskId = taskId

/-- A task that was enqueued and is not completed. -/
def QueueStore.Unfinished (s : QueueStore P) (taskId : String) : Prop :=
  taskId ∈ s.enqueued ∧ taskId ∉ s.completed

/-- **No task is lost**: every unfinished task has a copy. -/
def NothingLost (q : RedisTaskQueue) (s : QueueStore P) : Prop :=
  ∀ taskId, s.Unfinished taskId → q.Held s.lists taskId

/-! ## What the programs issue -/

/-- **The commands of a client that runs as the consumer**: of the processing
lists it uses those of the consumer only, as the destination of what it
reserves and as the source of what it takes out. -/
inductive RedisTaskQueue.Uses (q : RedisTaskQueue) (consumer : String) : QueueCommand P → Prop
  | llen (key : String) : q.Uses consumer (.llen key)
  | push (queue : String) (task : Task P) : q.Uses consumer (.lpush (q.key queue) task)
  | park (queue : String) (task : Task P) : q.Uses consumer (.lpush (q.deadKey queue) task)
  | putBack (queue : String) (task : Task P) :
    q.Uses consumer (.lpush (q.processingKey queue consumer) task)
  | takeOut (queue : String) : q.Uses consumer (.rpop (q.processingKey queue consumer))
  | reserve (queue : String) :
    q.Uses consumer (.rpoplpush (q.key queue) (q.processingKey queue consumer))
  | await (queue : String) :
    q.Uses consumer (.brpoplpush (q.key queue) (q.processingKey queue consumer))
  | ack (queue : String) (task : Task P) :
    q.Uses consumer (.lrem (q.processingKey queue consumer) task)
  | now : q.Uses consumer .now
  | handle (task : Task P) : q.Uses consumer (.handle task)

/-- The call is made by a client that runs as the consumer. -/
def QueueCall.RunsAs (consumer : String) : QueueCall P → Prop
  | .enqueue _ _ _ _ _ => True
  | .runForever _ consumer' _ => consumer' = consumer
  | .runOnce _ consumer' => consumer' = consumer
  | .requeueStale _ consumer' _ => consumer' = consumer

/-- The commands put tasks into lists of the queue only. -/
def RedisTaskQueue.Allowed (q : RedisTaskQueue) : QueueCommand P → Prop
  | .lpush key _ => q.IsKey key
  | .rpoplpush _ destination => q.IsKey destination
  | .brpoplpush _ destination => q.IsKey destination
  | _ => True

theorem RedisTaskQueue.Uses.allowed {q : RedisTaskQueue} {consumer : String} {c : QueueCommand P}
    (h : q.Uses consumer c) : q.Allowed c := by
  cases h with
  | push queue _ => exact IsKey.waiting queue
  | park queue _ => exact IsKey.dead queue
  | putBack queue _ => exact IsKey.processing queue consumer
  | reserve queue => exact IsKey.processing queue consumer
  | await queue => exact IsKey.processing queue consumer
  | _ => exact True.intro

section Programs

open Program RedisTaskQueue

variable (q : RedisTaskQueue)

theorem only_enqueue (consumer queue taskId tenantId jobId : String) (payload : P) :
    (q.enqueue queue taskId tenantId jobId payload).Only (q.Uses consumer) := by
  unfold enqueue
  split
  · exact only_pure _
  · refine only_bind (only_issue (.llen _)) (fun depth => ?_)
    split
    · exact only_pure _
    · exact only_bind (only_issue .now) (fun _ =>
        only_bind (only_issue (.push _ _)) (fun _ => only_pure _))

theorem only_reserveFirst (consumer : String) (queues : List String) :
    (q.reserveFirst (P := P) consumer queues).Only (q.Uses consumer) := by
  induction queues with
  | nil => exact only_pure _
  | cons queue queues ih =>
    refine only_bind (only_issue (.reserve _)) (fun found => ?_)
    cases found with
    | some task => exact only_pure _
    | none => exact ih

theorem only_reserve (queues : List String) (consumer : String) :
    (q.reserve (P := P) queues consumer).Only (q.Uses consumer) := by
  refine only_bind (only_reserveFirst q consumer queues) (fun found => ?_)
  cases found with
  | some task => exact only_pure _
  | none =>
    cases queues with
    | nil => exact only_pure _
    | cons queue _ => exact only_bind (only_issue (.await _)) (fun _ => only_pure _)

theorem only_ack (task : Task P) (consumer : String) :
    (q.ack task consumer).Only (q.Uses consumer) :=
  only_bind (only_issue (.ack _ _)) (fun _ => only_pure _)

theorem only_retry (task : Task P) (consumer : String) (maxAttempts : ℕ) :
    (q.retry task consumer maxAttempts).Only (q.Uses consumer) := by
  refine only_bind (only_ack q task consumer) (fun _ => ?_)
  split
  · exact only_bind (only_issue (.park _ _)) (fun _ => only_pure _)
  · exact only_bind (only_issue (.push _ _)) (fun _ => only_pure _)

theorem only_requeueStale (queue consumer : String) (rounds : ℕ) :
    (q.requeueStale (P := P) queue consumer rounds).Only (q.Uses consumer) := by
  unfold requeueStale
  generalize 0 = moved
  induction rounds generalizing moved with
  | zero => exact only_pure _
  | succ rounds ih =>
    refine only_bind (only_issue (.takeOut _)) (fun popped => ?_)
    cases popped with
    | none => exact only_pure _
    | some task =>
      refine only_bind (only_issue .now) (fun now => ?_)
      split
      · exact only_bind (only_issue (.putBack _ _)) (fun _ => only_pure _)
      · exact only_bind (only_issue (.push _ _)) (fun _ => ih _)

theorem only_recover (consumer : String) (rounds : ℕ) (queues : List String) :
    (q.recover (P := P) consumer rounds queues).Only (q.Uses consumer) := by
  induction queues with
  | nil => exact only_pure _
  | cons queue queues ih => exact only_bind (only_requeueStale q _ _ _) (fun _ => ih)

theorem only_serve (queues : List String) (consumer : String) (rounds : ℕ) :
    (q.serve (P := P) queues consumer rounds).Only (q.Uses consumer) := by
  induction rounds with
  | zero => exact only_pure _
  | succ rounds ih =>
    refine only_bind (only_reserve q queues consumer) (fun reserved => ?_)
    match reserved with
    | .error _ => exact only_pure _
    | .ok none => exact ih
    | .ok (some task) =>
      refine only_bind (only_issue (.handle _)) (fun succeeded => ?_)
      split
      · exact only_bind (only_ack q task consumer) (fun _ => ih)
      · exact only_bind (only_retry q task consumer _) (fun _ => ih)

/-- **Whatever a client runs, it runs it as its consumer.** -/
theorem only_uses {call : QueueCall P} {consumer : String} (h : call.RunsAs consumer) :
    (q.program call).Only (q.Uses consumer) := by
  cases call with
  | enqueue queue taskId tenantId jobId payload =>
    exact only_bind (only_enqueue q _ _ _ _ _ _) (fun _ => only_pure _)
  | runForever queues consumer' rounds =>
    cases h
    exact only_bind (only_recover q _ _ _) (fun _ => only_serve q _ _ _)
  | runOnce queues consumer' =>
    cases h
    refine only_bind (only_reserve q queues consumer) (fun reserved => ?_)
    match reserved with
    | .error _ => exact only_pure _
    | .ok none => exact only_pure _
    | .ok (some task) =>
      refine only_bind (only_issue (.handle _)) (fun succeeded => ?_)
      split
      · exact only_bind (only_ack q task consumer) (fun _ => only_pure _)
      · exact only_pure _
  | requeueStale queue consumer' rounds =>
    cases h
    exact only_bind (only_requeueStale q _ _ _) (fun _ => only_pure _)

/-- The consumer of a call; to enqueue a task takes none. -/
def QueueCall.consumer : QueueCall P → String
  | .enqueue _ _ _ _ _ => ""
  | .runForever _ consumer _ => consumer
  | .runOnce _ consumer => consumer
  | .requeueStale _ consumer _ => consumer

theorem QueueCall.runsAs_consumer (call : QueueCall P) : call.RunsAs call.consumer := by
  cases call with
  | enqueue _ _ _ _ _ => exact True.intro
  | _ => rfl

/-- **Whatever a client runs puts tasks into lists of the queue only.** -/
theorem only_program (call : QueueCall P) : (q.program call).Only q.Allowed :=
  (only_uses q call.runsAs_consumer).imp (fun _ h => h.allowed)

end Programs

/-! ## Copies -/

section Copies

variable {q : RedisTaskQueue} {lists : String → List (Task P)} {taskId : String}

/-- A list with more tasks holds more. -/
theorem RedisTaskQueue.Held.update {key : String} {tasks : List (Task P)} (h : q.Held lists taskId)
    (hsub : ∀ t ∈ lists key, t.taskId = taskId → t ∈ tasks) :
    q.Held (Function.update lists key tasks) taskId := by
  obtain ⟨k, hk, t, ht, hid⟩ := h
  refine ⟨k, hk, t, ?_, hid⟩
  by_cases hkey : k = key
  · rw [hkey, Function.update_self]
    exact hsub t (hkey ▸ ht) hid
  · rwa [Function.update_of_ne hkey]

/-- A task that was pushed is held, and so is every task held before. -/
theorem held_push {s : QueueStore P} {key : String} (hkey : q.IsKey key) (t : Task P)
    (h : t.taskId = taskId ∨ q.Held s.lists taskId) : q.Held (s.push key t).lists taskId := by
  rcases h with h | h
  · refine ⟨key, hkey, t, ?_, h⟩
    show t ∈ Function.update s.lists key (t :: s.lists key) key
    rw [Function.update_self]
    exact List.mem_cons_self
  · exact h.update (fun _ ht _ => List.mem_cons_of_mem t ht)

/-- **Moving a task loses nothing.** -/
theorem held_move {s : QueueStore P} {source destination : String}
    (hkey : q.IsKey destination) (h : q.Held s.lists taskId) :
    q.Held (s.move source destination).1.lists taskId := by
  unfold QueueStore.move
  cases hlast : (s.lists source).getLast? with
  | none => exact h
  | some t =>
    refine held_push hkey t ?_
    by_cases hid : t.taskId = taskId
    · exact Or.inl hid
    · refine Or.inr (h.update (fun u hu huid => ?_))
      rw [← List.dropLast_append_getLast? t hlast] at hu
      rcases List.mem_append.mp hu with hu | hu
      · exact hu
      · rw [List.mem_singleton.mp hu] at huid
        exact absurd huid hid

/-- Taking an entry out of a list loses nothing but, possibly, the task of
the entry. -/
theorem nothingLost_put_iff {s : QueueStore P} (h : NothingLost q s) {key : String}
    {rest : List (Task P)} {t : Task P}
    (hrest : ∀ u ∈ s.lists key, u.taskId ≠ t.taskId → u ∈ rest) :
    NothingLost q (s.put key rest)
      ↔ (s.Unfinished t.taskId → q.Held (Function.update s.lists key rest) t.taskId) := by
  constructor
  · exact fun h' hu => h' t.taskId hu
  · intro h' taskId hu
    by_cases hid : taskId = t.taskId
    · rw [hid] at hu ⊢
      exact h' hu
    · refine (h taskId hu).update (fun u hu' huid => hrest u hu' ?_)
      rwa [huid]

theorem NothingLost.push {s : QueueStore P} (h : NothingLost q s) {key : String}
    (hkey : q.IsKey key) (t : Task P) : NothingLost q (s.push key t) := by
  intro taskId hu
  rcases Finset.mem_insert.mp hu.1 with hid | hid
  · exact held_push hkey t (Or.inl hid.symm)
  · exact held_push hkey t (Or.inr (h taskId ⟨hid, hu.2⟩))

theorem NothingLost.move {s : QueueStore P} (h : NothingLost q s) {source destination : String}
    (hkey : q.IsKey destination) : NothingLost q (s.move source destination).1 := by
  intro taskId hu
  by_cases hs : s.Unfinished taskId
  · exact held_move hkey (h taskId hs)
  · -- a task that was not enqueued before is the one that is pushed
    unfold QueueStore.move at hu ⊢
    cases hlast : (s.lists source).getLast? with
    | none =>
      rw [hlast] at hu
      exact absurd hu hs
    | some t =>
      rw [hlast] at hu
      rcases Finset.mem_insert.mp hu.1 with hid | hid
      · exact held_push hkey t (Or.inl hid.symm)
      · exact absurd ⟨hid, hu.2⟩ hs

end Copies

/-! ## Events -/

/-- A state of the queue and its clients. -/
abbrev QueueSystem (P : Type) : Type := SharedStore (QueueCommand P) QueueReply (QueueStore P)

/-- What can happen to the queue and its clients. -/
abbrev QueueEvent (P : Type) : Type := ClientEvent (QueueCall P) QueueEnvironment

variable [DecidableEq P]

/-- One event. -/
def QueueSystem.step (q : RedisTaskQueue) (s : QueueSystem P) (e : QueueEvent P) : QueueSystem P :=
  SharedStore.step QueueStore.execute q.program s e

/-- The entry a command takes out of a list, with the list and what is left
of it – unless it acknowledges a task the client has finished. -/
inductive Removes (s : QueueStore P) (client : ℕ) : QueueCommand P → String → List (Task P) →
    Task P → Prop
  | rpop (key : String) (t : Task P) (h : (s.lists key).getLast? = some t) :
      Removes s client (.rpop key) key (s.lists key).dropLast t
  | lrem (key : String) (t : Task P) (hmem : t ∈ s.lists key) (h : s.succeeded client ≠ some t) :
      Removes s client (.lrem key t) key ((s.lists key).erase t) t

/-- **The event takes no last copy**: if its command is the removal of
`retry` or of `requeue_stale`, and the task is unfinished, then there is
another copy of it. -/
def LeavesACopy (q : RedisTaskQueue) (s : QueueSystem P) (e : QueueEvent P) : Prop :=
  ∀ client environment c key rest t, s.issued e = some (client, environment, c) →
    Removes s.store client c key rest t → s.store.Unfinished t.taskId →
      q.Held (Function.update s.store.lists key rest) t.taskId

section Steps

variable {q : RedisTaskQueue} {s : QueueStore P} {client : ℕ} {environment : QueueEnvironment}

/-- **What one command does to the tasks**: it loses none exactly when it
takes no last copy. -/
theorem nothingLost_execute_iff (h : NothingLost q s) {c : QueueCommand P} (hc : q.Allowed c) :
    NothingLost q (s.execute environment client c).1
      ↔ ∀ key rest t, Removes s client c key rest t → s.Unfinished t.taskId →
        q.Held (Function.update s.lists key rest) t.taskId := by
  set s' : QueueStore P := { s with nowMs := s.nowMs + environment.elapsedMs }
  have h' : NothingLost q s' := h
  cases c with
  | llen key => exact ⟨fun _ => nofun, fun _ => h⟩
  | now => exact ⟨fun _ => nofun, fun _ => h⟩
  | handle task => exact ⟨fun _ => nofun, fun _ => h⟩
  | lpush key task => exact ⟨fun _ => nofun, fun _ => h'.push hc task⟩
  | rpoplpush source destination => exact ⟨fun _ => nofun, fun _ => h'.move hc⟩
  | brpoplpush source destination => exact ⟨fun _ => nofun, fun _ => h'.move hc⟩
  | rpop key =>
    cases hlast : (s.lists key).getLast? with
    | none =>
      have hnil : s.lists key = [] := List.getLast?_eq_none_iff.mp hlast
      constructor
      · rintro - key' rest t ⟨⟩
        next ht =>
          rw [hlast] at ht
          cases ht
      · intro _ taskId hu
        refine (h taskId hu).update (fun u hu' _ => ?_)
        rw [hnil] at hu'
        cases hu'
    | some t =>
      have hrest : ∀ u ∈ s.lists key, u.taskId ≠ t.taskId → u ∈ (s.lists key).dropLast := by
        intro u hu hne
        rw [← List.dropLast_append_getLast? t hlast] at hu
        rcases List.mem_append.mp hu with hu | hu
        · exact hu
        · rw [List.mem_singleton.mp hu] at hne
          exact absurd rfl hne
      refine (nothingLost_put_iff h' hrest).trans ⟨?_, fun hr => hr key _ t (.rpop key t hlast)⟩
      rintro hput key' rest t' ⟨⟩
      next ht =>
        rw [hlast] at ht
        cases ht
        exact hput
  | lrem key task =>
    unfold QueueStore.execute
    dsimp only
    by_cases hsucceeded : s.succeeded client = some task
    · rw [if_pos hsucceeded]
      constructor
      · rintro - key' rest t ⟨⟩
        next hne _ => exact absurd hsucceeded hne
      · -- the entry is that of a task which is completed now
        intro _ taskId hu
        have hne : taskId ≠ task.taskId := fun hid => hu.2 (hid ▸ Finset.mem_insert_self _ _)
        have hbefore : s.Unfinished taskId := ⟨hu.1, fun hc => hu.2 (Finset.mem_insert_of_mem hc)⟩
        refine (h taskId hbefore).update (fun u hu' huid => ?_)
        refine (List.mem_erase_of_ne (fun heq => hne ?_)).mpr hu'
        rw [← huid, heq]
    · rw [if_neg hsucceeded]
      have hrest : ∀ u ∈ s.lists key, u.taskId ≠ task.taskId → u ∈ (s.lists key).erase task := by
        intro u hu hne
        refine (List.mem_erase_of_ne (fun heq => hne ?_)).mpr hu
        rw [heq]
      refine (nothingLost_put_iff h' hrest).trans ⟨?_, fun hr hu => ?_⟩
      · rintro hput key' rest t ⟨⟩
        exact hput
      · by_cases hmem : task ∈ s.lists key
        · exact hr key _ task (.lrem key task hmem hsucceeded) hu
        · refine (h task.taskId hu).update (fun u hu' _ => ?_)
          rwa [List.erase_of_not_mem hmem]

/-- **One event keeps every task exactly when it takes no last copy.** -/
theorem nothingLost_step_iff {s : QueueSystem P} (hs : s.Issues q.Allowed)
    (h : NothingLost q s.store) (e : QueueEvent P) :
    NothingLost q (s.step q e).store ↔ LeavesACopy q s e := by
  rcases SharedStore.store_step QueueStore.execute q.program s e
    with ⟨hnone, hstore⟩ | ⟨client, environment, c, hissued, hstore⟩
  · refine iff_of_true ?_ (fun _ _ _ _ _ _ hissued => ?_)
    · show NothingLost q (SharedStore.step QueueStore.execute q.program s e).store
      rwa [hstore]
    · rw [hnone] at hissued
      cases hissued
  · show NothingLost q (SharedStore.step QueueStore.execute q.program s e).store ↔ _
    rw [hstore, nothingLost_execute_iff h (hs.issued hissued)]
    constructor
    · intro hkeep client' environment' c' key rest t hissued'
      rw [hissued] at hissued'
      cases hissued'
      exact hkeep key rest t
    · exact fun hkeep key rest t => hkeep client environment c key rest t hissued

/-- **Nothing is lost along a run exactly when no `retry` and no
`requeue_stale` takes the last copy of an unfinished task.** -/
theorem nothingLost_iff (q : RedisTaskQueue) (nowMs : ℕ) (events : List (QueueEvent P)) :
    Along (QueueSystem.step q) (fun s : QueueSystem P => NothingLost q s.store)
        { store := { nowMs } } events
      ↔ EachStep (QueueSystem.step q) (LeavesACopy q)
        ({ store := { nowMs } } : QueueSystem P) events := by
  refine along_iff (I := fun s : QueueSystem P => s.Issues q.Allowed) (fun _ _ hp => by cases hp)
    (fun _ hu => absurd hu.1 (Finset.notMem_empty _)) ?_ ?_
  · exact fun s e hs => hs.step (only_program q) e
  · exact fun s e hs h => nothingLost_step_iff hs h e

end Steps

/-- A task is enqueued and reserved, and its handler raises. -/
def failedRun : List (QueueEvent ℕ) :=
  [.start 0 (.enqueue "speaker.batch" "1" "tenant" "job" 0), .command 0 {}, .command 0 {},
    .command 0 {}, .start 1 (.runForever ["speaker.batch"] "worker" 1), .command 1 {},
    .command 1 {}, .command 1 { succeeds := false }, .command 1 {}]

theorem failedRun_store (key : String) :
    (failedRun.foldl (QueueSystem.step {}) { store := {} }).store.lists key = [] := by
  have hlists : (failedRun.foldl (QueueSystem.step {}) { store := {} }).store.lists key
      = Function.update (Function.update (Function.update (Function.update (Function.update
        (fun _ => []) "sastt:queue:speaker.batch" [_]) "sastt:processing:speaker.batch:worker" [])
        "sastt:queue:speaker.batch" []) "sastt:processing:speaker.batch:worker" [_])
        "sastt:processing:speaker.batch:worker" [] key := rfl
  rw [hlists]
  by_cases hprocessing : key = "sastt:processing:speaker.batch:worker"
  · rw [hprocessing, Function.update_self]
  · rw [Function.update_of_ne hprocessing, Function.update_of_ne hprocessing]
    by_cases hwaiting : key = "sastt:queue:speaker.batch"
    · rw [hwaiting, Function.update_self]
    · -- no command of the run is about another list
      rw [Function.update_of_ne hwaiting, Function.update_of_ne hprocessing,
        Function.update_of_ne hwaiting]

/-- **A task can be lost**: its only copy is taken out by `retry` before it is
put back. -/
theorem task_lost :
    ¬ Along (QueueSystem.step {}) (fun s : QueueSystem ℕ => NothingLost {} s.store)
      { store := {} } failedRun := by
  intro h
  have hend := h failedRun (List.prefix_refl _)
  obtain ⟨key, -, t, ht, -⟩ := hend "tsk_1" ⟨by decide +kernel, by decide +kernel⟩
  rw [failedRun_store] at ht
  cases ht

end Sastt
