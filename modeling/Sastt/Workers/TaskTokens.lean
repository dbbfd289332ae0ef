import Sastt.Workers.Redelivery
import Sastt.Workers.WorkerLoop
import Sastt.Workers.WorkerProcesses

/-!
# Where a task is

A task that was enqueued is in one place: it waits in its queue, or is in a
processing list, or a process has taken it out and is about to put it somewhere
else, or it is parked. `TaskToken` is that place, and a map from task ids to
tokens represents what Redis holds (`Listed`). The number of attempts that is
written in a task is the number of times it was handed to a handler, except
between the call of the handler and the push that counts it
(`TaskToken.handed`).

So a token has everything the bound on attempts is about, and a command moves
one token only.
-/

namespace Sastt

variable {G P : Type}

/-- **The place of a task**, with the task as it is there. -/
inductive TaskToken (P : Type)
  | waiting (task : Task P)
  /-- In the processing list of a consumer, and not being handled. -/
  | held (consumer : String) (task : Task P)
  /-- In the processing list of a consumer, and handled by a process. -/
  | working (process : ℕ) (consumer : String) (task : Task P)
  /-- Taken out by the recovery of a process. -/
  | taken (process : ℕ) (task : Task P)
  /-- Taken out by a process that has handled it. -/
  | removed (process : ℕ) (task : Task P)
  | parked (task : Task P)
  /-- Nowhere any more, after so many attempts. -/
  | gone (attempts : ℕ)

namespace TaskToken

/-- The list the task is in. -/
def entry (q : RedisTaskQueue) : TaskToken P → Option (String × Task P)
  | .waiting task => some (q.key task.queue, task)
  | .held consumer task | .working _ consumer task =>
    some (q.processingKey task.queue consumer, task)
  | .parked task => some (q.deadKey task.queue, task)
  | .taken _ _ | .removed _ _ | .gone _ => none

/-- **How often the task was handed to a handler.** -/
def handed : TaskToken P → ℕ
  | .waiting task | .held _ task | .taken _ task | .parked task => task.attempts
  | .working _ _ task | .removed _ task => task.attempts + 1
  | .gone attempts => attempts

/-- The token of a task of that id, which has an attempt left unless it is
parked. -/
def Valid (id : String) : TaskToken P → Prop
  | .waiting task | .held _ task | .working _ _ task | .taken _ task | .removed _ task =>
    task.taskId = id ∧ ':' ∉ task.queue.toList ∧ task.attempts < RedisTaskQueue.MAX_ATTEMPTS
  | .parked task => task.taskId = id ∧ task.attempts = RedisTaskQueue.MAX_ATTEMPTS
  | .gone attempts => attempts ≤ RedisTaskQueue.MAX_ATTEMPTS

variable {q : RedisTaskQueue} {id key : String} {token : TaskToken P} {task : Task P}

theorem Valid.handed_le (h : token.Valid id) : token.handed ≤ RedisTaskQueue.MAX_ATTEMPTS := by
  cases token with
  | waiting task | held consumer task | taken process task => exact h.2.2.le
  | working process consumer task | removed process task => exact h.2.2
  | parked task => exact h.2.le
  | gone attempts => exact h

end TaskToken

/-! ## Lists -/

/-- **The tokens tell what is in the lists**, where everything is once. -/
structure Listed (q : RedisTaskQueue) (lists : String → List (Task P))
    (tokens : String → Option (TaskToken P)) : Prop where
  mem_iff : ∀ key task, task ∈ lists key
    ↔ (tokens task.taskId).bind (TaskToken.entry q) = some (key, task)
  nodup : ∀ key, (lists key).Nodup

namespace Listed

variable {q : RedisTaskQueue} {lists : String → List (Task P)}
  {tokens : String → Option (TaskToken P)} {key : String} {task : Task P} {token : TaskToken P}

/-- **A task is pushed** that was in no list. -/
theorem push (h : Listed q lists tokens)
    (hnowhere : (tokens task.taskId).bind (TaskToken.entry q) = none)
    (hentry : token.entry q = some (key, task)) :
    Listed q (Function.update lists key (task :: lists key))
      (Function.update tokens task.taskId (some token)) := by
  have hnot : ∀ k t, t ∈ lists k → t.taskId ≠ task.taskId := by
    intro k t ht hid
    have hmem := (h.mem_iff k t).mp ht
    rw [hid, hnowhere] at hmem
    cases hmem
  constructor
  · intro k t
    by_cases hid : t.taskId = task.taskId
    · rw [hid, Function.update_self, Option.bind_some, hentry]
      simp only [Option.some.injEq, Prod.mk.injEq]
      constructor
      · intro ht
        by_cases hk : k = key
        · subst hk
          rw [Function.update_self] at ht
          rcases List.mem_cons.mp ht with rfl | ht
          · exact ⟨rfl, rfl⟩
          · exact absurd hid (hnot _ t ht)
        · rw [Function.update_of_ne hk] at ht
          exact absurd hid (hnot k t ht)
      · rintro ⟨rfl, rfl⟩
        rw [Function.update_self]
        exact List.mem_cons_self
    · rw [Function.update_of_ne hid, ← h.mem_iff k t]
      by_cases hk : k = key
      · subst hk
        rw [Function.update_self, List.mem_cons]
        exact or_iff_right (fun heq => hid (congrArg Task.taskId heq))
      · rw [Function.update_of_ne hk]
  · intro k
    by_cases hk : k = key
    · subst hk
      rw [Function.update_self]
      exact (h.nodup _).cons (fun ht => hnot _ task ht rfl)
    · rw [Function.update_of_ne hk]
      exact h.nodup k

/-- **A task is taken out** of the list it is in. -/
theorem remove (h : Listed q lists tokens)
    (hwhere : (tokens task.taskId).bind (TaskToken.entry q) = some (key, task))
    (hentry : token.entry q = none) {rest : List (Task P)} (hsub : rest.Sublist (lists key))
    (hrest : ∀ t, t ∈ rest ↔ t ∈ lists key ∧ t ≠ task) :
    Listed q (Function.update lists key rest)
      (Function.update tokens task.taskId (some token)) := by
  have hunique : ∀ k t, t ∈ lists k → t.taskId = task.taskId → k = key ∧ t = task := by
    intro k t ht hid
    have hmem := (h.mem_iff k t).mp ht
    rw [hid, hwhere] at hmem
    cases hmem
    exact ⟨rfl, rfl⟩
  constructor
  · intro k t
    by_cases hid : t.taskId = task.taskId
    · rw [hid, Function.update_self, Option.bind_some, hentry]
      refine iff_of_false (fun ht => ?_) nofun
      by_cases hk : k = key
      · subst hk
        rw [Function.update_self, hrest] at ht
        exact ht.2 (hunique _ t ht.1 hid).2
      · rw [Function.update_of_ne hk] at ht
        exact hk (hunique k t ht hid).1
    · rw [Function.update_of_ne hid, ← h.mem_iff k t]
      by_cases hk : k = key
      · subst hk
        rw [Function.update_self, hrest]
        exact and_iff_left (fun heq => hid (congrArg Task.taskId heq))
      · rw [Function.update_of_ne hk]
  · intro k
    by_cases hk : k = key
    · subst hk
      rw [Function.update_self]
      exact (h.nodup _).sublist hsub
    · rw [Function.update_of_ne hk]
      exact h.nodup k

/-- A task stays where it is, and its token changes. -/
theorem relabel (h : Listed q lists tokens) {id : String}
    (hentry : token.entry q = (tokens id).bind (TaskToken.entry q)) :
    Listed q lists (Function.update tokens id (some token)) := by
  refine ⟨fun k t => (h.mem_iff k t).trans ?_, h.nodup⟩
  by_cases hid : t.taskId = id
  · rw [hid, Function.update_self, Option.bind_some, hentry]
  · rw [Function.update_of_ne hid]

/-- The last task of a list is taken out. -/
theorem pop (h : Listed q lists tokens) (hlast : (lists key).getLast? = some task)
    (hentry : token.entry q = none) :
    Listed q (Function.update lists key (lists key).dropLast)
      (Function.update tokens task.taskId (some token)) := by
  have hsplit := List.dropLast_append_getLast? task hlast
  have hnodup := h.nodup key
  rw [← hsplit] at hnodup
  have hmem : task ∈ lists key := List.mem_of_getLast? hlast
  refine h.remove ((h.mem_iff key task).mp hmem) hentry (List.dropLast_sublist _) (fun t => ?_)
  constructor
  · intro ht
    refine ⟨List.mem_of_mem_dropLast ht, ?_⟩
    rintro rfl
    exact List.disjoint_of_nodup_append hnodup ht List.mem_cons_self
  · rintro ⟨ht, hne⟩
    rw [← hsplit, List.mem_append, List.mem_singleton] at ht
    exact ht.resolve_right hne

/-- A task is moved from the end of one list to the head of another. -/
theorem move {source : String} (h : Listed q lists tokens)
    (hlast : (lists source).getLast? = some task) (hentry : token.entry q = some (key, task)) :
    Listed q (Function.update (Function.update lists source (lists source).dropLast) key
        (task :: Function.update lists source (lists source).dropLast key))
      (Function.update tokens task.taskId (some token)) := by
  have hpopped : Listed q (Function.update lists source (lists source).dropLast)
      (Function.update tokens task.taskId (some (.gone 0))) := h.pop hlast rfl
  have hpushed := hpopped.push (by rw [Function.update_self]; rfl) hentry
  rwa [Function.update_idem] at hpushed

variable [DecidableEq P]

/-- A task is taken out of the list by its text. -/
theorem erase (h : Listed q lists tokens)
    (hwhere : (tokens task.taskId).bind (TaskToken.entry q) = some (key, task))
    (hentry : token.entry q = none) :
    Listed q (Function.update lists key ((lists key).erase task))
      (Function.update tokens task.taskId (some token)) :=
  h.remove hwhere hentry List.erase_sublist (fun t => by
    rw [(h.nodup key).mem_erase_iff]
    exact and_comm)

end Listed

end Sastt
