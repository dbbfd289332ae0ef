import Sastt.Adapters.RedisQueue

/-!
# Leases

A task that a consumer has reserved is its own for the visibility timeout.
`requeue_stale` takes what a dead consumer was holding, and puts back what is
still within its lease. The age it asks for is that of the task, which began
when the task was enqueued, and not that of the lease: a task that has waited
for the timeout is taken from the consumer that has just reserved it
(`fresh_lease_is_broken`).

`WatchedQueue` notes when a task was reserved last, and what is moved back.
Leases are respected in every run in which no task of that age is found within
its lease (`leases_respected`).
-/

namespace Sastt

variable {P : Type}

/-- Where a client is in `requeue_stale`: it has taken a task out of a list, and
read the clock. -/
inductive RequeuePhase (P : Type)
  | idle
  | popped (source : String) (task : Task P)
  | timed (source : String) (task : Task P) (readMs : ℕ)

/-- **A task that was moved back**, out of which list, when it had been reserved
and when it was moved. -/
structure Requeue (P : Type) where
  source : String
  task : Task P
  reservedMs : ℕ
  movedMs : ℕ

/-- **The queue, and what there is to know of leases**: when a task was last
reserved into a list, where each client is and the lease of the task it has taken
out, and what was moved back. -/
structure WatchedQueue (P : Type) extends QueueStore P where
  reservedMs : String → Task P → ℕ := fun _ _ => 0
  phase : ℕ → RequeuePhase P := fun _ => .idle
  leaseMs : ℕ → ℕ := fun _ => 0
  requeues : List (Requeue P) := []

/-- **What `requeue_stale` may do with a task**, knowing what it has taken out and
what time it was: put it back, or move it if it is old. -/
def staleOnly (q : RedisTaskQueue) : Discipline (QueueCommand P) QueueReply (RequeuePhase P) where
  allows phase c :=
    match c, phase with
    | .lpush _ _, .popped _ _ => False
    | .lpush key task, .timed source task' readMs =>
      task = task' ∧ (key = source ∨ q.visibilityTimeoutMs ≤ task.ageMs readMs)
    | _, _ => True
  learn phase
    | .rpop key => fun task : Option (Task P) => task.elim .idle (.popped key)
    | .now => fun readMs : ℕ =>
      match phase with
      | .popped source task => .timed source task readMs
      | _ => .idle
    | _ => fun _ => .idle

/-! ## What the programs do -/

/-- A client has read the clock when it has just done so. -/
theorem learn_eq_timed {q : RedisTaskQueue} {phase : RequeuePhase P} {c : QueueCommand P}
    {reply : QueueReply c} {source : String} {task : Task P} {readMs : ℕ}
    (h : (staleOnly q).learn phase c reply = .timed source task readMs) :
    c = .now ∧ phase = .popped source task ∧ HEq reply readMs := by
  cases c with
  | now =>
    cases phase with
    | popped source' task' =>
      cases h
      exact ⟨rfl, rfl, HEq.rfl⟩
    | idle => cases h
    | timed _ _ _ => cases h
  | rpop key =>
    cases reply with
    | none => cases h
    | some _ => cases h
  | _ => cases h

section Programs

open Program RedisTaskQueue

variable (q : RedisTaskQueue)

theorem obeys_ret {α : Type} (a : α) (phase : RequeuePhase P) :
    (pure a : QueueProgram P α).Obeys (staleOnly q) phase := True.intro

/-- A client that is not in `requeue_stale` may push what it likes. -/
theorem obeys_push {α : Type} (key : String) (task : Task P) (a : α) :
    (do
      let _ ← RedisClient.lpush key task
      return a : QueueProgram P α).Obeys (staleOnly q) .idle := ⟨True.intro, fun _ => True.intro⟩

theorem stale_enqueue (queue taskId tenantId jobId : String) (payload : P)
    (phase : RequeuePhase P) :
    (q.enqueue queue taskId tenantId jobId payload).Obeys (staleOnly q) phase := by
  unfold enqueue
  split
  · exact obeys_ret q _ _
  · refine obeys_issue_bind True.intro (fun depth => ?_)
    split
    · exact obeys_ret q _ _
    · exact obeys_issue_bind True.intro (fun _ => obeys_push q _ _ _)

theorem stale_reserveFirst (consumer : String) (queues : List String) (phase : RequeuePhase P) :
    (q.reserveFirst consumer queues).Obeys (staleOnly q) phase := by
  induction queues generalizing phase with
  | nil => exact obeys_ret q _ _
  | cons queue queues ih =>
    refine obeys_issue_bind True.intro (fun found => ?_)
    cases found with
    | some task => exact obeys_ret q _ _
    | none => exact ih _

theorem stale_reserve (queues : List String) (consumer : String) (phase : RequeuePhase P) :
    (q.reserve queues consumer).Obeys (staleOnly q) phase := by
  refine obeys_bind (stale_reserveFirst q consumer queues phase) (fun phase found => ?_)
  cases found with
  | some task => exact obeys_ret q _ _
  | none =>
    cases queues with
    | nil => exact obeys_ret q _ _
    | cons queue _ => exact obeys_issue_bind True.intro (fun _ => obeys_ret q _ _)

theorem stale_ack (task : Task P) (consumer : String) (phase : RequeuePhase P) :
    (q.ack task consumer).Obeys (staleOnly q) phase :=
  obeys_issue_bind True.intro (fun _ => obeys_ret q _ _)

theorem stale_retry (task : Task P) (consumer : String) (maxAttempts : ℕ)
    (phase : RequeuePhase P) :
    (q.retry task consumer maxAttempts).Obeys (staleOnly q) phase := by
  refine wp_bind (wp_bind (wp_issue ?_ (fun removed => ?_)))
  · exact True.intro
  · show Program.Obeys (staleOnly q) (if maxAttempts ≤ task.attempts + 1 then _ else _) .idle
    split
    · exact obeys_push q _ _ _
    · exact obeys_push q _ _ _

/-- **`requeue_stale` moves what is old.** -/
theorem stale_requeueStale (queue consumer : String) (rounds : ℕ) (phase : RequeuePhase P) :
    (q.requeueStale queue consumer rounds).Obeys (staleOnly q) phase := by
  unfold requeueStale
  generalize 0 = moved
  induction rounds generalizing moved phase with
  | zero => exact obeys_ret q _ _
  | succ rounds ih =>
    refine obeys_issue_bind True.intro (fun popped => ?_)
    cases popped with
    | none => exact obeys_ret q _ _
    | some task =>
      refine obeys_issue_bind True.intro (fun readMs => ?_)
      split
      · exact obeys_issue_bind ⟨rfl, Or.inl rfl⟩ (fun _ => obeys_ret q _ _)
      · next hold =>
        exact obeys_issue_bind ⟨rfl, Or.inr (Nat.not_lt.mp hold)⟩ (fun _ => ih _ _)

theorem stale_recover (consumer : String) (rounds : ℕ) (queues : List String)
    (phase : RequeuePhase P) :
    (q.recover consumer rounds queues).Obeys (staleOnly q) phase := by
  induction queues generalizing phase with
  | nil => exact obeys_ret q _ _
  | cons queue queues ih =>
    exact obeys_bind (stale_requeueStale q _ _ _ _) (fun phase _ => ih phase)

theorem stale_serve (queues : List String) (consumer : String) (rounds : ℕ)
    (phase : RequeuePhase P) :
    (q.serve queues consumer rounds).Obeys (staleOnly q) phase := by
  induction rounds generalizing phase with
  | zero => exact obeys_ret q _ _
  | succ rounds ih =>
    refine obeys_bind (stale_reserve q queues consumer phase) (fun phase reserved => ?_)
    match reserved with
    | .error _ => exact obeys_ret q _ _
    | .ok none => exact ih phase
    | .ok (some task) =>
      refine obeys_issue_bind True.intro (fun succeeded => ?_)
      split
      · exact obeys_bind (stale_ack q task consumer _) (fun phase _ => ih phase)
      · exact obeys_bind (stale_retry q task consumer _ _) (fun phase _ => ih phase)

/-- **Whatever a client runs, it moves back what is old.** -/
theorem stale_program (call : QueueCall P) (phase : RequeuePhase P) :
    (q.program call).Obeys (staleOnly q) phase := by
  cases call with
  | enqueue queue taskId tenantId jobId payload =>
    exact obeys_bind (stale_enqueue q _ _ _ _ _ _) (fun phase _ => obeys_ret q _ phase)
  | runForever queues consumer rounds =>
    exact obeys_bind (stale_recover q _ _ _ _) (fun phase _ => stale_serve q _ _ _ phase)
  | runOnce queues consumer =>
    refine obeys_bind (stale_reserve q queues consumer phase) (fun phase reserved => ?_)
    match reserved with
    | .error _ => exact obeys_ret q _ _
    | .ok none => exact obeys_ret q _ _
    | .ok (some task) =>
      refine obeys_issue_bind True.intro (fun succeeded => ?_)
      split
      · exact obeys_bind (stale_ack q task consumer _) (fun phase _ => obeys_ret q _ phase)
      · exact obeys_ret q _ _
  | requeueStale queue consumer rounds =>
    exact obeys_bind (stale_requeueStale q _ _ _ _) (fun phase _ => obeys_ret q _ phase)

end Programs

/-! ## The watched queue -/

variable [DecidableEq P]

namespace WatchedQueue

variable (t : WatchedQueue P)

/-- The task at the tail of a list is reserved into another. -/
def lend (source destination : String) (nowMs : ℕ) : String → Task P → ℕ :=
  match (t.lists source).getLast? with
  | none => t.reservedMs
  | some task =>
    Function.update t.reservedMs destination
      (Function.update (t.reservedMs destination) task nowMs)

/-- One command, watched. -/
def execute (q : RedisTaskQueue) (environment : QueueEnvironment) (client : ℕ)
    (t : WatchedQueue P) (c : QueueCommand P) : WatchedQueue P × QueueReply c :=
  let result := t.toQueueStore.execute environment client c
  let nowMs := t.nowMs + environment.elapsedMs
  ({ toQueueStore := result.1
     reservedMs := match c with
      | .rpoplpush source destination | .brpoplpush source destination =>
        t.lend source destination nowMs
      | _ => t.reservedMs
     phase := Function.update t.phase client ((staleOnly q).learn (t.phase client) c result.2)
     leaseMs := match c with
      | .rpop key =>
        ((t.lists key).getLast?).elim t.leaseMs
          (fun task => Function.update t.leaseMs client (t.reservedMs key task))
      | _ => t.leaseMs
     requeues := match c, t.phase client with
      | .lpush key task, .timed source _ _ =>
        if key = source then t.requeues
        else { source, task, reservedMs := t.leaseMs client, movedMs := nowMs } :: t.requeues
      | _, _ => t.requeues }, result.2)

end WatchedQueue

/-- The watched queue and its clients. -/
abbrev LeaseSystem (P : Type) : Type := SharedStore (QueueCommand P) QueueReply (WatchedQueue P)

abbrev LeaseEvent (P : Type) : Type := ClientEvent (QueueCall P) QueueEnvironment

namespace LeaseSystem

/-- One event. -/
def step (q : RedisTaskQueue) (s : LeaseSystem P) (e : LeaseEvent P) : LeaseSystem P :=
  SharedStore.step (WatchedQueue.execute q) q.program s e

/-- **What was moved back had been reserved for the timeout.** -/
def LeasesRespected (q : RedisTaskQueue) (s : LeaseSystem P) : Prop :=
  ∀ r ∈ s.store.requeues, r.reservedMs + q.visibilityTimeoutMs ≤ r.movedMs

instance (q : RedisTaskQueue) (s : LeaseSystem P) : Decidable (s.LeasesRespected q) :=
  inferInstanceAs (Decidable (∀ r ∈ _, _))

/-- The task a client is handed by the event, if it is handed one. -/
def handed (s : LeaseSystem P) (e : LeaseEvent P) : Option (Task P) :=
  match s.issued e with
  | some (_, _, .rpoplpush source _) | some (_, _, .brpoplpush source _) =>
    (s.store.lists source).getLast?
  | _ => none

/-- The time of the event. -/
def timeOf (s : LeaseSystem P) (e : LeaseEvent P) : ℕ :=
  match s.issued e with
  | some (_, environment, _) => s.store.nowMs + environment.elapsedMs
  | none => s.store.nowMs

/-- **A task that is handed on, after it was moved back, is handed on after the
lease it was moved from.** -/
def HandedAfterLease (q : RedisTaskQueue) (s : LeaseSystem P) (e : LeaseEvent P) : Prop :=
  ∀ task ∈ s.handed e, ∀ r ∈ s.store.requeues, r.task = task →
    r.reservedMs + q.visibilityTimeoutMs ≤ s.timeOf e

instance (q : RedisTaskQueue) (s : LeaseSystem P) (e : LeaseEvent P) :
    Decidable (s.HandedAfterLease q e) :=
  inferInstanceAs (Decidable (∀ task ∈ _, ∀ r ∈ _, _ → _))

/-- **A task that is found to be old is one whose lease is over**: so it is if the
event is the reading of the clock in `requeue_stale`. -/
def LeaseOverWhenOld (q : RedisTaskQueue) (s : LeaseSystem P) (e : LeaseEvent P) : Prop :=
  match s.issued e with
  | some (client, _, .now) =>
    match s.store.phase client with
    | .popped _ task =>
      q.visibilityTimeoutMs ≤ task.ageMs (s.timeOf e) →
        s.store.leaseMs client + q.visibilityTimeoutMs ≤ s.timeOf e
    | _ => True
  | _ => True

instance (q : RedisTaskQueue) (s : LeaseSystem P) (e : LeaseEvent P) :
    Decidable (s.LeaseOverWhenOld q e) := by
  unfold LeaseOverWhenOld
  split
  · split <;> infer_instance
  · infer_instance

end LeaseSystem

/-! ## What has been timed -/

/-- A command takes the time the environment says. -/
theorem QueueStore.nowMs_execute (s : QueueStore P) (environment : QueueEnvironment) (client : ℕ)
    (c : QueueCommand P) :
    (s.execute environment client c).1.nowMs = s.nowMs + environment.elapsedMs := by
  have hmove : ∀ (s : QueueStore P) source destination,
      (s.move source destination).1.nowMs = s.nowMs := by
    intro s source destination
    unfold move
    cases (s.lists source).getLast? <;> rfl
  cases c with
  | rpoplpush source destination => exact hmove _ source destination
  | brpoplpush source destination => exact hmove _ source destination
  | lrem key task =>
    unfold execute
    dsimp only
    split <;> rfl
  | _ => rfl

/-- **What was found to be old had a lease that was over**, and so had what was
moved back. -/
structure WatchedQueue.Timed (q : RedisTaskQueue) (t : WatchedQueue P) : Prop where
  timed : ∀ client source task readMs, t.phase client = .timed source task readMs →
    readMs ≤ t.nowMs ∧ (q.visibilityTimeoutMs ≤ task.ageMs readMs →
      t.leaseMs client + q.visibilityTimeoutMs ≤ readMs)
  moved : ∀ r ∈ t.requeues, r.reservedMs + q.visibilityTimeoutMs ≤ r.movedMs ∧ r.movedMs ≤ t.nowMs

/-- The lease of the task a client has taken out is noted by itself. -/
theorem WatchedQueue.leaseMs_execute_of_ne {q : RedisTaskQueue} {t : WatchedQueue P}
    {environment : QueueEnvironment} {client client' : ℕ} (c : QueueCommand P)
    (h : client' ≠ client) :
    (t.execute q environment client c).1.leaseMs client' = t.leaseMs client' := by
  cases c with
  | rpop key =>
    unfold execute
    dsimp only
    cases (t.lists key).getLast? with
    | none => rfl
    | some task => exact Function.update_of_ne h _ _
  | _ => rfl

/-- **What is noted to be moved back** is what a client pushes that has taken it
out, into another list. -/
theorem WatchedQueue.requeues_execute {q : RedisTaskQueue} {t : WatchedQueue P}
    {environment : QueueEnvironment} {client : ℕ} (c : QueueCommand P) :
    (t.execute q environment client c).1.requeues = t.requeues
      ∨ ∃ key task source task' readMs, c = .lpush key task
        ∧ t.phase client = .timed source task' readMs ∧ key ≠ source
        ∧ (t.execute q environment client c).1.requeues
          = { source, task, reservedMs := t.leaseMs client
              movedMs := t.nowMs + environment.elapsedMs } :: t.requeues := by
  cases c with
  | lpush key task =>
    cases hphase : t.phase client with
    | timed source task' readMs =>
      by_cases hkey : key = source
      · refine Or.inl ?_
        simp [execute, hphase, hkey]
      · refine Or.inr ⟨key, task, source, task', readMs, rfl, rfl, hkey, ?_⟩
        simp [execute, hphase, hkey]
    | idle =>
      refine Or.inl ?_
      simp [execute, hphase]
    | popped _ _ =>
      refine Or.inl ?_
      simp [execute, hphase]
  | _ => exact Or.inl rfl

theorem WatchedQueue.Timed.execute {q : RedisTaskQueue} {t : WatchedQueue P} (h : t.Timed q)
    {environment : QueueEnvironment} {client : ℕ} {c : QueueCommand P}
    (hallows : (staleOnly q).allows (t.phase client) c)
    (hover : ∀ source task, c = .now → t.phase client = .popped source task →
      q.visibilityTimeoutMs ≤ task.ageMs (t.nowMs + environment.elapsedMs) →
        t.leaseMs client + q.visibilityTimeoutMs ≤ t.nowMs + environment.elapsedMs) :
    (t.execute q environment client c).1.Timed q := by
  have hnow : (t.execute q environment client c).1.nowMs = t.nowMs + environment.elapsedMs :=
    QueueStore.nowMs_execute ..
  constructor
  · intro client' source task readMs hphase
    rw [hnow]
    by_cases hc : client' = client
    · subst hc
      replace hphase := (Function.update_self client' _ t.phase).symm.trans hphase
      obtain ⟨rfl, hpopped, hread⟩ := learn_eq_timed hphase
      obtain rfl := eq_of_heq hread
      exact ⟨Nat.le_refl _, hover source task rfl hpopped⟩
    · replace hphase := (Function.update_of_ne hc _ t.phase).symm.trans hphase
      rw [leaseMs_execute_of_ne c hc]
      obtain ⟨hread, hlease⟩ := h.timed client' source task readMs hphase
      exact ⟨hread.trans (Nat.le_add_right _ _), hlease⟩
  · intro r hr
    rw [hnow]
    have hbefore : ∀ r ∈ t.requeues, r.reservedMs + q.visibilityTimeoutMs ≤ r.movedMs
        ∧ r.movedMs ≤ t.nowMs + environment.elapsedMs :=
      fun r hr => ⟨(h.moved r hr).1, (h.moved r hr).2.trans (Nat.le_add_right _ _)⟩
    rcases requeues_execute c with hsame |
      ⟨key, task, source, task', readMs, rfl, hphase, hkey, hcons⟩
    · exact hbefore r (hsame ▸ hr)
    · rw [hcons] at hr
      cases List.mem_cons.mp hr with
      | inr hr => exact hbefore r hr
      | inl hr =>
        subst hr
        have hallowed : task = task' ∧ (key = source ∨ q.visibilityTimeoutMs
          ≤ task.ageMs readMs) := by
          have hpush := hallows
          rwa [hphase] at hpush
        obtain ⟨rfl, hback⟩ := hallowed
        obtain ⟨hread, hlease⟩ := h.timed client source task readMs hphase
        -- it was not put back, so it was old
        have hover := hlease (hback.resolve_left hkey)
        dsimp only
        omega

/-! ## Runs -/

namespace LeaseSystem

/-- **The invariant of the runs**: the clients move back what is old, and what
was old had a lease that was over. -/
structure Sound (q : RedisTaskQueue) (s : LeaseSystem P) : Prop where
  obeys : s.Obeys (staleOnly q) (fun t client => t.phase client)
  timed : s.store.Timed q

omit [DecidableEq P] in
theorem sound_start (q : RedisTaskQueue) (nowMs : ℕ) :
    Sound q ({ store := { nowMs } } : LeaseSystem P) where
  obeys _ _ hp := nomatch hp
  timed := ⟨nofun, fun _ hr => absurd hr List.not_mem_nil⟩

theorem Sound.step {q : RedisTaskQueue} {s : LeaseSystem P} {e : LeaseEvent P} (h : s.Sound q)
    (hover : s.LeaseOverWhenOld q e) : (s.step q e).Sound q := by
  constructor
  · refine SharedStore.Obeys.step (fun _ call _ => stale_program q call _) ?_ ?_ h.obeys
    · exact fun environment client t c => Function.update_self client _ t.phase
    · exact fun environment client t c client' hc => Function.update_of_ne hc _ t.phase
  · unfold LeaseSystem.step
    rcases SharedStore.store_step (WatchedQueue.execute q) q.program s e
      with ⟨-, hstore⟩ | ⟨client, environment, c, hissued, hstore⟩
    · rw [hstore]
      exact h.timed
    · rw [hstore]
      refine h.timed.execute (h.obeys.issued hissued) ?_
      rintro source task rfl hpopped hold
      unfold LeaseOverWhenOld timeOf at hover
      rw [hissued] at hover
      dsimp only at hover
      rw [hpopped] at hover
      exact hover hold

/-- **Leases are respected**: in a run in which a task that `requeue_stale` finds to
be old is one whose lease is over, nothing is moved back that was reserved less
than the timeout ago, and nothing that was moved back is handed on before. -/
theorem leases_respected (q : RedisTaskQueue) (nowMs : ℕ) (events : List (LeaseEvent P))
    (hover : EachStep (step q) (LeaseOverWhenOld q) { store := { nowMs } } events) :
    Along (step q) (LeasesRespected q) { store := { nowMs } } events
      ∧ EachStep (step q) (HandedAfterLease q) { store := { nowMs } } events := by
  have hsound : Along (step q) (Sound q) { store := { nowMs } } events :=
    along_of_eachStep (sound_start q nowMs) (fun _ _ h => h.step) hover
  constructor
  · exact fun pre hpre r hr => ((hsound pre hpre).timed.moved r hr).1
  · intro pre e hpre task _ r hr _
    obtain ⟨hlease, hmoved⟩ :=
      (hsound pre ((List.prefix_append pre [e]).trans hpre)).timed.moved r hr
    refine (hlease.trans hmoved).trans ?_
    unfold timeOf
    split
    · exact Nat.le_add_right _ _
    · exact Nat.le_refl _

/-- A task is enqueued. It waits, a worker reserves it, and after a while it is asked
whether the worker holds anything stale. -/
def staleRun (waitMs heldMs : ℕ) : List (LeaseEvent ℕ) :=
  [.start 0 (.enqueue "speaker.batch" "1" "tenant" "job" 0), .command 0 {}, .command 0 {},
    .command 0 {}, .start 1 (.runForever ["speaker.batch"] "worker" 1), .command 1 {},
    .command 1 { elapsedMs := waitMs }, .start 2 (.requeueStale "speaker.batch" "worker" 1),
    .command 2 { elapsedMs := heldMs }, .command 2 {}, .command 2 {}]

/-- A task that is held for the timeout is moved back, and that is right. -/
theorem leases_respected_held :
    Along (step {}) (LeasesRespected {}) { store := { nowMs := 0 } } (staleRun 0 300000)
      ∧ EachStep (step {}) (HandedAfterLease {}) { store := { nowMs := 0 } } (staleRun 0 300000) :=
  leases_respected {} 0 (staleRun 0 300000) (by decide +kernel)

/-- **A fresh lease is broken**: the task has waited for longer than the timeout,
and is moved back a second after it was reserved. A second worker is handed it
while the first is at work on it. -/
theorem fresh_lease_is_broken :
    ¬ Along (step {}) (LeasesRespected {}) { store := { nowMs := 0 } } (staleRun 400000 1000)
      ∧ ¬ EachStep (step {}) (HandedAfterLease {}) { store := { nowMs := 0 } }
        (staleRun 400000 1000
          ++ [.start 3 (.runOnce ["speaker.batch"] "another"), .command 3 {}]) := by
  constructor
  · intro h
    exact absurd (h (staleRun 400000 1000) (List.prefix_refl _)) (by decide +kernel)
  · decide +kernel

end LeaseSystem

end Sastt
