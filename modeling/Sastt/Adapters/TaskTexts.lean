import Sastt.Adapters.RedisQueue
import Sastt.Domain.ReadValues

/-!
# The texts of tasks

Redis holds a task as its JSON text, and `ack` removes a text: that of the task it is given,
written anew. It finds what was reserved because a task is read back from its text
(`fromJson_toJson`), and every text that gets into a list is that of a task
(`keeps_history`). So an acknowledgement by the consumer that reserved the task removes the
one entry that was reserved, and a retry does before it pushes the next
(`acknowledged_history`).

What is written is what `json.dumps` makes of a dictionary, and what is read is what
`json.loads` makes of a text: that one undoes the other is the assumption of `JsonModule`.
-/

namespace Sastt

variable {F : Type}

/-- **The module `json`**, and what Python makes of what it reads. -/
structure JsonModule (F : Type) extends PyConversions F where
  dumps : PyValue F → String
  loads : String → Except PyError (PyValue F)
  loads_dumps : ∀ v, v.KeysDistinct → loads (dumps v) = .ok v
  dumps_ne_empty : ∀ v, dumps v ≠ ""

/-- **A dictionary** that can be written down. -/
structure PyDict (F : Type) where
  fields : List (String × PyValue F) := []
  distinct : (Json.obj fields).KeysDistinct := by exact .obj List.nodup_nil nofun

/-- `Task`, with what its fields hold. -/
structure QueuedTask (F : Type) where
  taskId : String
  queue : String
  tenantId : String
  jobId : String
  payload : List (String × PyValue F) := []
  enqueuedMs : ℤ := 0
  attempts : ℤ := 0

namespace QueuedTask

/-- The dictionary of `to_json`. -/
def toDict (t : QueuedTask F) : PyValue F :=
  .obj [("task_id", .str t.taskId), ("queue", .str t.queue), ("tenant_id", .str t.tenantId),
    ("job_id", .str t.jobId), ("payload", .obj t.payload),
    ("enqueued_ms", PyValue.int t.enqueuedMs), ("attempts", PyValue.int t.attempts)]

/-- `to_json`. -/
def toJson (json : JsonModule F) (t : QueuedTask F) : String := json.dumps t.toDict

/-- `from_json`. -/
def fromJson (json : JsonModule F) (raw : String) : Except PyError (QueuedTask F) := do
  let data ← json.loads raw
  return {
    taskId := json.toStr (← data.item "task_id")
    queue := json.toStr (← data.item "queue")
    tenantId := json.toStr (← data.item "tenant_id")
    jobId := json.toStr (← data.item "job_id")
    payload := ← json.toPyConversions.toDict (← data.get "payload" (.obj []))
    enqueuedMs := ← json.toInt (← data.get "enqueued_ms" (PyValue.int 0))
    attempts := ← json.toInt (← data.get "attempts" (PyValue.int 0)) }

/-- `age_ms`. -/
def ageMs (t : QueuedTask F) (nowMs : ℤ) : ℤ := max 0 (nowMs - t.enqueuedMs)

/-- The task after one more attempt. -/
def again (t : QueuedTask F) : QueuedTask F := { t with attempts := t.attempts + 1 }

variable {t : QueuedTask F}

theorem toJson_ne_empty (json : JsonModule F) (t : QueuedTask F) : t.toJson json ≠ "" :=
  json.dumps_ne_empty _

theorem keysDistinct_toDict (h : (Json.obj t.payload).KeysDistinct) : t.toDict.KeysDistinct := by
  refine .obj (by simp) ?_
  simp only [List.forall_mem_cons, Json.KeysDistinct.str, Json.KeysDistinct.num, true_and]
  exact ⟨h, List.forall_mem_nil _⟩

/-- **A task is read back from its text.** -/
theorem fromJson_toJson (json : JsonModule F) (h : (Json.obj t.payload).KeysDistinct) :
    fromJson json (t.toJson json) = .ok t := by
  unfold fromJson toJson
  rw [json.loads_dumps _ (keysDistinct_toDict h)]
  rfl

/-- Different tasks have different texts. -/
theorem toJson_inj (json : JsonModule F) {t' : QueuedTask F}
    (h : (Json.obj t.payload).KeysDistinct) (h' : (Json.obj t'.payload).KeysDistinct)
    (heq : t.toJson json = t'.toJson json) : t = t' := by
  have hread := fromJson_toJson json h
  rw [heq, fromJson_toJson json h'] at hread
  exact (Except.ok.inj hread).symm

end QueuedTask

/-! ## Lists of texts -/

/-- **What Redis holds**, and the tasks that were returned to the callers. -/
structure TextStore (F : Type) where
  lists : String → List String := fun _ => []
  returned : List (QueuedTask F) := []

namespace TextStore

variable (s : TextStore F) (key raw : String)

def put (texts : List String) : TextStore F := { s with lists := Function.update s.lists key texts }

def lpush : TextStore F := s.put key (raw :: s.lists key)

def rpop : Option String × TextStore F :=
  ((s.lists key).getLast?, s.put key (s.lists key).dropLast)

def rpoplpush (source destination : String) : Option String × TextStore F :=
  match s.rpop source with
  | (none, _) => (none, s)
  | (some raw, s') => (some raw, s'.lpush destination raw)

/-- `lrem` of the first entry that is the text. -/
def lrem : ℕ × TextStore F :=
  (if raw ∈ s.lists key then 1 else 0, s.put key ((s.lists key).erase raw))

/-- The task is returned to a caller. -/
def giveOut : Option (QueuedTask F) → TextStore F
  | none => s
  | some task => { s with returned := s.returned ++ [task] }

end TextStore

/-- **The queue**, with the module it writes and reads texts with. -/
structure TextQueue (F : Type) extends RedisTaskQueue where
  json : JsonModule F

namespace TextQueue

variable (q : TextQueue F)

/-- `enqueue`. -/
def enqueue (queue taskId tenantId jobId : String) (payload : Option (PyDict F)) (nowMs : ℤ)
    (s : TextStore F) : Except PyError (QueuedTask F) × TextStore F :=
  let depth := (s.lists (q.key queue)).length
  if queue ∉ ALL_QUEUES then
    (.error (.sastt .sasttError ("unknown queue " ++ pyRepr queue)
      [("queues", .strs ALL_QUEUES)]), s)
  else if q.maxDepth ≤ depth then
    (.error (.sastt .redisQueueOverloaded
      ("queue '" ++ queue ++ "' is at its bound of " ++ toString q.maxDepth)
      [("queue", .str queue), ("depth", .int depth)]), s)
  else
    let task : QueuedTask F := {
      taskId := "tsk_" ++ taskId, queue, tenantId, jobId
      payload := (payload.getD {}).fields
      enqueuedMs := nowMs }
    (.ok task, s.lpush (q.key queue) (task.toJson q.json))

/-- The loop of `reserve`. An empty text is taken for none. -/
def reserveFirst (consumer : String) : List String → TextStore F → Option String × TextStore F
  | [], s => (none, s)
  | queue :: queues, s =>
    match s.rpoplpush (q.key queue) (q.processingKey queue consumer) with
    | (some raw, s') => if raw = "" then reserveFirst consumer queues s' else (some raw, s')
    | (none, s') => reserveFirst consumer queues s'

/-- `reserve`. -/
def reserve (queues : List String) (consumer : String) (s : TextStore F) :
    Except PyError (Option (QueuedTask F)) × TextStore F :=
  match q.reserveFirst consumer queues s with
  | (some raw, s') => ((QueuedTask.fromJson q.json raw).map some, s')
  | (none, s') =>
    match queues with
    | [] => (.error (.other "list index out of range"), s')
    | queue :: _ =>
      match s'.rpoplpush (q.key queue) (q.processingKey queue consumer) with
      | (some raw, s') =>
        if raw = "" then (.ok none, s') else ((QueuedTask.fromJson q.json raw).map some, s')
      | (none, s') => (.ok none, s')

/-- `ack`. -/
def ack (task : QueuedTask F) (consumer : String) (s : TextStore F) : Bool × TextStore F :=
  let removed := s.lrem (q.processingKey task.queue consumer) (task.toJson q.json)
  (removed.1 != 0, removed.2)

/-- `retry`. -/
def retry (task : QueuedTask F) (consumer : String) (maxAttempts : ℤ) (s : TextStore F) :
    Bool × TextStore F :=
  let s' := (q.ack task consumer s).2
  if maxAttempts ≤ task.attempts + 1 then
    (false, s'.lpush (q.deadKey task.queue) (task.again.toJson q.json))
  else (true, s'.lpush (q.key task.queue) (task.again.toJson q.json))

/-- The loop of `requeue_stale`, where `clock` is what each of its rounds reads. -/
def requeueLoop (queue consumer : String) (clock : ℕ → ℤ) :
    ℕ → ℕ → TextStore F → Except PyError ℕ × TextStore F
  | 0, moved, s => (.ok moved, s)
  | rounds + 1, moved, s =>
    match s.rpop (q.processingKey queue consumer) with
    | (none, s') => (.ok moved, s')
    | (some raw, s') =>
      if raw = "" then (.ok moved, s')
      else
        match QueuedTask.fromJson q.json raw with
        | .error e => (.error e, s')
        | .ok task =>
          if task.ageMs (clock moved) < q.visibilityTimeoutMs then
            (.ok moved, s'.lpush (q.processingKey queue consumer) raw)
          else requeueLoop queue consumer clock rounds (moved + 1) (s'.lpush (q.key queue) raw)

end TextQueue

/-- **A call**, of any client. A client has the tasks that were returned to it, and
recovers what is held of a queue there is. -/
inductive TextCall (F : Type)
  | enqueue (queue taskId tenantId jobId : String) (payload : Option (PyDict F)) (nowMs : ℤ)
  | reserve (queues : List String) (consumer : String)
  | ack (n : ℕ) (consumer : String)
  | retry (n : ℕ) (consumer : String) (maxAttempts : ℤ)
  | requeueStale (queue : {queue // queue ∈ ALL_QUEUES}) (consumer : String) (clock : ℕ → ℤ)
    (rounds : ℕ)

namespace TextQueue

variable (q : TextQueue F)

/-- One call. -/
def step (s : TextStore F) : TextCall F → TextStore F
  | .enqueue queue taskId tenantId jobId payload nowMs =>
    let result := q.enqueue queue taskId tenantId jobId payload nowMs s
    result.2.giveOut result.1.toOption
  | .reserve queues consumer =>
    let result := q.reserve queues consumer s
    result.2.giveOut result.1.toOption.join
  | .ack n consumer =>
    match s.returned[n]? with
    | none => s
    | some task => (q.ack task consumer s).2
  | .retry n consumer maxAttempts =>
    match s.returned[n]? with
    | none => s
    | some task => (q.retry task consumer maxAttempts s).2
  | .requeueStale queue consumer clock rounds =>
    (q.requeueLoop queue consumer clock rounds 0 s).2

/-- The lists after calls of any clients. -/
def history (calls : List (TextCall F)) : TextStore F := calls.foldl q.step {}

/-! ## What is in the lists -/

/-- **A task as `enqueue` makes it**: of a queue there is, with a payload that can be written
down. -/
structure Known (t : QueuedTask F) : Prop where
  queue : t.queue ∈ ALL_QUEUES
  distinct : (Json.obj t.payload).KeysDistinct

/-- The list is one of the queue of the task. -/
def Places (key : String) (t : QueuedTask F) : Prop :=
  key = q.key t.queue ∨ key = q.deadKey t.queue
    ∨ ∃ consumer, key = q.processingKey t.queue consumer

/-- **Every text in a list is that of a task**, in a list of its queue. -/
structure Keeps (s : TextStore F) : Prop where
  listed : ∀ key, ∀ raw ∈ s.lists key, ∃ t, Known t ∧ raw = t.toJson q.json ∧ q.Places key t
  returned : ∀ t ∈ s.returned, Known t

variable {q} {s s' : TextStore F} {t : QueuedTask F} {queue consumer : String}

theorem colon_notMem_queue (h : queue ∈ ALL_QUEUES) : ':' ∉ queue.toList := by
  have hall : ∀ queue ∈ ALL_QUEUES, ':' ∉ queue.toList := by decide
  exact hall queue h

/-- A waiting list is of one queue. -/
theorem Places.of_key (h : q.Places (q.key queue) t) : t.queue = queue := by
  rcases h with h | h | ⟨consumer, h⟩
  · exact (q.key_inj h).symm
  · exact absurd h.symm (q.deadKey_ne_key _ _)
  · exact absurd h (q.key_ne_processingKey _ _ _)

/-- And so is a processing list. -/
theorem Places.of_processingKey (ht : Known t) (hqueue : queue ∈ ALL_QUEUES)
    (h : q.Places (q.processingKey queue consumer) t) : t.queue = queue := by
  rcases h with h | h | ⟨consumer', h⟩
  · exact absurd h.symm (q.key_ne_processingKey _ _ _)
  · exact absurd h.symm (q.deadKey_ne_processingKey _ _ _)
  · exact (q.processingKey_inj (colon_notMem_queue hqueue) (colon_notMem_queue ht.queue) h).1.symm

theorem Keeps.put (h : q.Keeps s) {key : String} {texts : List String}
    (hsub : ∀ raw ∈ texts, raw ∈ s.lists key) : q.Keeps (s.put key texts) where
  listed key' raw hraw := by
    by_cases hkey : key' = key
    · subst hkey
      rw [show (s.put key' texts).lists key' = texts from Function.update_self _ _ _] at hraw
      exact h.listed key' raw (hsub raw hraw)
    · rw [show (s.put key texts).lists key' = s.lists key' from Function.update_of_ne hkey _ _]
        at hraw
      exact h.listed key' raw hraw
  returned := h.returned

theorem Keeps.lpush (h : q.Keeps s) (ht : Known t) {key : String} (hkey : q.Places key t) :
    q.Keeps (s.lpush key (t.toJson q.json)) where
  listed key' raw hraw := by
    by_cases hsame : key' = key
    · subst hsame
      rw [show (s.lpush key' (t.toJson q.json)).lists key' = t.toJson q.json :: s.lists key' from
        Function.update_self _ _ _] at hraw
      cases List.mem_cons.mp hraw with
      | inl hnew => exact ⟨t, ht, hnew, hkey⟩
      | inr hold => exact h.listed key' raw hold
    · rw [show (s.lpush key (t.toJson q.json)).lists key' = s.lists key' from
        Function.update_of_ne hsame _ _] at hraw
      exact h.listed key' raw hraw
  returned := h.returned

theorem Keeps.giveOut (h : q.Keeps s) {given : Option (QueuedTask F)}
    (hgiven : ∀ t ∈ given, Known t) : q.Keeps (s.giveOut given) := by
  cases given with
  | none => exact h
  | some t =>
    refine ⟨h.listed, fun t' ht' => ?_⟩
    cases List.mem_append.mp ht' with
    | inl hold => exact h.returned t' hold
    | inr hnew =>
      rw [List.mem_singleton.mp hnew]
      exact hgiven t rfl

/-- **The consumer has reserved the task**: its text is at the head of a processing list of
the consumer, and the lists of other queues and consumers are as they were. -/
structure Reserves (q : TextQueue F) (consumer : String) (t : QueuedTask F)
    (s s' : TextStore F) : Prop where
  known : Known t
  keeps : q.Keeps s'
  returned : s'.returned = s.returned
  head : s'.lists (q.processingKey t.queue consumer)
    = t.toJson q.json :: s.lists (q.processingKey t.queue consumer)
  others : ∀ key, key ≠ q.key t.queue → key ≠ q.processingKey t.queue consumer →
    s'.lists key = s.lists key

theorem rpoplpush_cases (h : q.Keeps s) (queue consumer : String) :
    s.rpoplpush (q.key queue) (q.processingKey queue consumer) = (none, s)
      ∨ ∃ t s', s.rpoplpush (q.key queue) (q.processingKey queue consumer)
        = (some (t.toJson q.json), s') ∧ Reserves q consumer t s s' := by
  have hkeys := q.key_ne_processingKey queue queue consumer
  unfold TextStore.rpoplpush TextStore.rpop
  cases hlast : (s.lists (q.key queue)).getLast? with
  | none => exact Or.inl rfl
  | some raw =>
    obtain ⟨t, ht, rfl, hplaces⟩ := h.listed _ raw (List.mem_of_getLast? hlast)
    obtain rfl := hplaces.of_key
    refine Or.inr ⟨t, _, rfl, ht, ?_, rfl, ?_, fun key hkey hown => ?_⟩
    · exact (h.put (fun raw hraw => List.mem_of_mem_dropLast hraw)).lpush ht
        (Or.inr (Or.inr ⟨consumer, rfl⟩))
    · refine (Function.update_self _ _ _).trans (congrArg (List.cons _) ?_)
      exact Function.update_of_ne hkeys.symm _ _
    · exact (Function.update_of_ne hown _ _).trans (Function.update_of_ne hkey _ _)

theorem reserveFirst_cases (h : q.Keeps s) (consumer : String) (queues : List String) :
    q.reserveFirst consumer queues s = (none, s)
      ∨ ∃ t s', q.reserveFirst consumer queues s = (some (t.toJson q.json), s')
        ∧ Reserves q consumer t s s' := by
  induction queues with
  | nil => exact Or.inl rfl
  | cons queue queues ih =>
    unfold reserveFirst
    rcases rpoplpush_cases h queue consumer with hnone | ⟨t, s', hsome, hreserves⟩
    · rw [hnone]
      exact ih
    · rw [hsome]
      dsimp only
      rw [if_neg (t.toJson_ne_empty _)]
      exact Or.inr ⟨t, s', rfl, hreserves⟩

/-- **What `reserve` can do.** -/
theorem reserve_cases (h : q.Keeps s) (queues : List String) (consumer : String) :
    (q.reserve queues consumer s).1.toOption.join = none ∧ (q.reserve queues consumer s).2 = s
      ∨ ∃ t s', q.reserve queues consumer s = (.ok (some t), s')
        ∧ Reserves q consumer t s s' := by
  have hread : ∀ {t s'}, Reserves q consumer t s s' →
      (QueuedTask.fromJson q.json (t.toJson q.json)).map some = .ok (some t) :=
    fun hreserves => by rw [QueuedTask.fromJson_toJson q.json hreserves.known.distinct]; rfl
  unfold reserve
  rcases reserveFirst_cases h consumer queues with hnone | ⟨t, s', hsome, hreserves⟩
  · rw [hnone]
    cases queues with
    | nil => exact Or.inl ⟨rfl, rfl⟩
    | cons queue queues =>
      dsimp only
      rcases rpoplpush_cases h queue consumer with hnone | ⟨t, s', hsome, hreserves⟩
      · rw [hnone]
        exact Or.inl ⟨rfl, rfl⟩
      · rw [hsome]
        dsimp only
        rw [if_neg (t.toJson_ne_empty _), hread hreserves]
        exact Or.inr ⟨t, s', rfl, hreserves⟩
  · rw [hsome]
    dsimp only
    rw [hread hreserves]
    exact Or.inr ⟨t, s', rfl, hreserves⟩

theorem Keeps.ack (h : q.Keeps s) (t : QueuedTask F) (consumer : String) :
    q.Keeps (q.ack t consumer s).2 :=
  h.put (fun _ hraw => List.mem_of_mem_erase hraw)

theorem Keeps.retry (h : q.Keeps s) (ht : Known t) (consumer : String) (maxAttempts : ℤ) :
    q.Keeps (q.retry t consumer maxAttempts s).2 := by
  have hagain : Known t.again := ⟨ht.queue, ht.distinct⟩
  unfold TextQueue.retry
  dsimp only
  split
  · exact (h.ack t consumer).lpush hagain (Or.inr (Or.inl rfl))
  · exact (h.ack t consumer).lpush hagain (Or.inl rfl)

/-- **What the loop of `requeue_stale` does**: it keeps the lists, and looks at two of them
only. -/
theorem requeueLoop_keeps (hqueue : queue ∈ ALL_QUEUES) (clock : ℕ → ℤ) (rounds moved : ℕ)
    (h : q.Keeps s) :
    q.Keeps (q.requeueLoop queue consumer clock rounds moved s).2
      ∧ ∀ key, key ≠ q.key queue → key ≠ q.processingKey queue consumer →
        (q.requeueLoop queue consumer clock rounds moved s).2.lists key = s.lists key := by
  induction rounds generalizing moved s with
  | zero => exact ⟨h, fun _ _ _ => rfl⟩
  | succ rounds ih =>
    have hpopped : q.Keeps (s.rpop (q.processingKey queue consumer)).2 :=
      h.put (fun raw hraw => List.mem_of_mem_dropLast hraw)
    have hother : ∀ key, key ≠ q.processingKey queue consumer →
        (s.rpop (q.processingKey queue consumer)).2.lists key = s.lists key :=
      fun key hkey => Function.update_of_ne hkey _ _
    unfold requeueLoop
    split
    · next s' hpop =>
      rw [hpop] at hpopped hother
      exact ⟨hpopped, fun key _ hown => hother key hown⟩
    · next raw s' hpop =>
      rw [hpop] at hpopped hother
      have hlast : (s.lists (q.processingKey queue consumer)).getLast? = some raw :=
        congrArg Prod.fst hpop
      obtain ⟨t, ht, rfl, hplaces⟩ := h.listed _ raw (List.mem_of_getLast? hlast)
      obtain rfl := hplaces.of_processingKey ht hqueue
      rw [if_neg (t.toJson_ne_empty _), QueuedTask.fromJson_toJson q.json ht.distinct]
      dsimp only
      split
      · refine ⟨hpopped.lpush ht hplaces, fun key hkey hown => ?_⟩
        exact (Function.update_of_ne hown _ _).trans (hother key hown)
      · obtain ⟨hkeeps, hrest⟩ := ih (moved + 1) (hpopped.lpush ht (Or.inl rfl))
        refine ⟨hkeeps, fun key hkey hown => (hrest key hkey hown).trans ?_⟩
        exact (Function.update_of_ne hkey _ _).trans (hother key hown)

/-- **One call keeps what is in the lists.** -/
theorem Keeps.step (h : q.Keeps s) (c : TextCall F) : q.Keeps (q.step s c) := by
  cases c with
  | enqueue queue taskId tenantId jobId payload nowMs =>
    unfold TextQueue.step TextQueue.enqueue
    dsimp only
    split
    · exact h
    · next hqueue =>
      split
      · exact h
      · have hmade : Known ({
            taskId := "tsk_" ++ taskId, queue, tenantId, jobId
            payload := (payload.getD {}).fields
            enqueuedMs := nowMs } : QueuedTask F) :=
          ⟨not_not.mp hqueue, (payload.getD {}).distinct⟩
        exact (h.lpush hmade (Or.inl rfl)).giveOut (fun t ht => Option.some.inj ht ▸ hmade)
  | reserve queues consumer =>
    unfold TextQueue.step
    dsimp only
    rcases reserve_cases h queues consumer with ⟨hnone, hsame⟩ | ⟨t, s', hsome, hreserves⟩
    · rw [hnone, hsame]
      exact h
    · rw [hsome]
      refine hreserves.keeps.giveOut (fun t' ht' => ?_)
      obtain rfl := Option.some.inj ht'
      exact hreserves.known
  | ack n consumer =>
    unfold TextQueue.step
    dsimp only
    split
    · exact h
    · exact h.ack _ _
  | retry n consumer maxAttempts =>
    unfold TextQueue.step
    dsimp only
    split
    · exact h
    · next t ht => exact h.retry (h.returned t (List.mem_of_getElem? ht)) _ _
  | requeueStale queue consumer clock rounds => exact (requeueLoop_keeps queue.2 clock rounds 0 h).1

theorem keeps_history (q : TextQueue F) (calls : List (TextCall F)) : q.Keeps (q.history calls) :=
  invariant_foldl (I := q.Keeps) ⟨fun _ _ hraw => absurd hraw List.not_mem_nil,
    fun _ ht => absurd ht List.not_mem_nil⟩ (fun _ c h => h.step c)

/-! ## Acknowledgements -/

/-- **The call leaves what the consumer has reserved**: it neither acknowledges nor retries
the task for the consumer, nor recovers what the consumer holds of its queue. -/
def Leaves (t : QueuedTask F) (consumer : String) (s : TextStore F) : TextCall F → Prop
  | .ack n consumer' => consumer' = consumer → s.returned[n]? ≠ some t
  | .retry n consumer' _ => consumer' = consumer → s.returned[n]? ≠ some t
  | .requeueStale queue consumer' _ _ => consumer' = consumer → queue.1 ≠ t.queue
  | _ => True

theorem lists_lpush (s : TextStore F) (key raw key' : String) :
    (s.lpush key raw).lists key' = if key' = key then raw :: s.lists key else s.lists key' := by
  show Function.update s.lists key (raw :: s.lists key) key' = _
  rw [Function.update_apply]

theorem mem_lpush {key key' raw raw' : String} (h : raw ∈ s.lists key') :
    raw ∈ (s.lpush key raw').lists key' := by
  rw [lists_lpush]
  split
  · next hkey => exact List.mem_cons_of_mem _ (hkey ▸ h)
  · exact h

/-- An acknowledgement of another task, or for another consumer, takes away another text. -/
theorem mem_ack {t' : QueuedTask F} {consumer' : String} (ht : Known t) (ht' : Known t')
    (hne : consumer' = consumer → t' ≠ t)
    (h : t.toJson q.json ∈ s.lists (q.processingKey t.queue consumer)) :
    t.toJson q.json ∈ (q.ack t' consumer' s).2.lists (q.processingKey t.queue consumer) := by
  show _ ∈ Function.update s.lists _ _ _
  by_cases hkey : q.processingKey t.queue consumer = q.processingKey t'.queue consumer'
  · obtain ⟨-, hconsumer⟩ := q.processingKey_inj (colon_notMem_queue ht.queue)
      (colon_notMem_queue ht'.queue) hkey
    rw [← hkey, Function.update_self]
    refine (List.mem_erase_of_ne (fun heq => hne hconsumer.symm ?_)).mpr h
    exact (QueuedTask.toJson_inj q.json ht.distinct ht'.distinct heq).symm
  · rw [Function.update_of_ne hkey]
    exact h

theorem mem_step (hkeeps : q.Keeps s) (ht : Known t) {c : TextCall F}
    (hleaves : Leaves t consumer s c)
    (h : t.toJson q.json ∈ s.lists (q.processingKey t.queue consumer)) :
    t.toJson q.json ∈ (q.step s c).lists (q.processingKey t.queue consumer) := by
  have hgiven : ∀ (s : TextStore F) given key, (s.giveOut given).lists key = s.lists key := by
    intro s given key
    cases given <;> rfl
  cases c with
  | enqueue queue taskId tenantId jobId payload nowMs =>
    unfold TextQueue.step TextQueue.enqueue
    dsimp only
    rw [hgiven]
    split
    · exact h
    · split
      · exact h
      · exact mem_lpush h
  | reserve queues consumer' =>
    unfold TextQueue.step
    dsimp only
    rw [hgiven]
    rcases reserve_cases hkeeps queues consumer' with ⟨-, hsame⟩ | ⟨t', s', hsome, hreserves⟩
    · rw [hsame]
      exact h
    · rw [hsome]
      by_cases hkey : q.processingKey t.queue consumer = q.processingKey t'.queue consumer'
      · rw [hkey, hreserves.head, ← hkey]
        exact List.mem_cons_of_mem _ h
      · rw [hreserves.others _ (q.key_ne_processingKey _ _ _).symm hkey]
        exact h
  | ack n consumer' =>
    unfold TextQueue.step
    dsimp only
    split
    · exact h
    · next t' ht' =>
      exact mem_ack ht (hkeeps.returned t' (List.mem_of_getElem? ht'))
        (fun hsame heq => hleaves hsame (heq ▸ ht')) h
  | retry n consumer' maxAttempts =>
    unfold TextQueue.step
    dsimp only
    split
    · exact h
    · next t' ht' =>
      have hack := mem_ack ht (hkeeps.returned t' (List.mem_of_getElem? ht'))
        (fun hsame heq => hleaves hsame (heq ▸ ht')) h
      unfold TextQueue.retry
      dsimp only
      split
      · exact mem_lpush hack
      · exact mem_lpush hack
  | requeueStale queue consumer' clock rounds =>
    refine ((requeueLoop_keeps queue.2 clock rounds 0 hkeeps).2 _
      (q.key_ne_processingKey _ _ _).symm (fun hkey => ?_)).symm ▸ h
    obtain ⟨hqueue, hconsumer⟩ := q.processingKey_inj (colon_notMem_queue ht.queue)
      (colon_notMem_queue queue.2) hkey
    exact hleaves hconsumer.symm hqueue.symm

/-- **What is in the list is acknowledged**, and nothing else. -/
theorem ack_eq (h : t.toJson q.json ∈ s.lists (q.processingKey t.queue consumer)) :
    q.ack t consumer s = (true, s.put (q.processingKey t.queue consumer)
      ((s.lists (q.processingKey t.queue consumer)).erase (t.toJson q.json))) := by
  unfold TextQueue.ack TextStore.lrem
  dsimp only
  rw [if_pos h]
  rfl

/-- **An acknowledgement finds its task.** Every text in a list is that of the task it is
read as. What a consumer has reserved stays in its processing list until it acknowledges
or retries it, or is taken for dead; and either way this one entry is removed. -/
theorem acknowledged_history (q : TextQueue F) (calls : List (TextCall F)) :
    (∀ key, ∀ raw ∈ (q.history calls).lists key,
        ∃ t, QueuedTask.fromJson q.json raw = .ok t ∧ t.toJson q.json = raw)
      ∧ ∀ queues consumer t s', q.reserve queues consumer (q.history calls) = (.ok (some t), s') →
        ∀ more, EachStep q.step (Leaves t consumer) (s'.giveOut (some t)) more →
          let s := more.foldl q.step (s'.giveOut (some t))
          let processing := q.processingKey t.queue consumer
          let rest := (s.lists processing).erase (t.toJson q.json)
          t.toJson q.json ∈ s.lists processing
            ∧ rest.length + 1 = (s.lists processing).length
            ∧ q.ack t consumer s = (true, s.put processing rest)
            ∧ ∀ maxAttempts, (q.retry t consumer maxAttempts s).2
              = (s.put processing rest).lpush
                (if maxAttempts ≤ t.attempts + 1 then q.deadKey t.queue else q.key t.queue)
                (t.again.toJson q.json) := by
  have hkeeps := keeps_history q calls
  refine ⟨fun key raw hraw => ?_, fun queues consumer t s' hreserve more hmore => ?_⟩
  · obtain ⟨t, ht, rfl, -⟩ := hkeeps.listed key raw hraw
    exact ⟨t, QueuedTask.fromJson_toJson q.json ht.distinct, rfl⟩
  · have hreserves : Reserves q consumer t (q.history calls) s' := by
      rcases reserve_cases hkeeps queues consumer with ⟨hnone, -⟩ | ⟨t', s'', hsome, hreserves⟩
      · rw [hreserve] at hnone
        cases hnone
      · cases hsome.symm.trans hreserve
        exact hreserves
    -- the text is there after the reservation, and no later call takes it away
    have hrun : Along q.step (fun s => q.Keeps s
        ∧ t.toJson q.json ∈ s.lists (q.processingKey t.queue consumer))
        (s'.giveOut (some t)) more := by
      refine along_of_eachStep ⟨hreserves.keeps.giveOut (fun t' ht' => ?_), ?_⟩
        (fun s c hs hc => ⟨hs.1.step c, mem_step hs.1 hreserves.known hc hs.2⟩) hmore
      · exact Option.some.inj ht' ▸ hreserves.known
      · show _ ∈ s'.lists _
        rw [hreserves.head]
        exact List.mem_cons_self
    have hmem := (hrun more List.prefix_rfl).2
    have hack := ack_eq hmem
    refine ⟨hmem, ?_, hack, fun maxAttempts => ?_⟩
    · rw [List.length_erase_of_mem hmem]
      exact Nat.sub_add_cancel (List.length_pos_of_mem hmem)
    · unfold TextQueue.retry
      dsimp only
      rw [hack]
      split <;> rfl

/-! ## One task -/

/-- A task without a payload. -/
def plainTask : QueuedTask Empty where
  taskId := "tsk_0123456789abcdef0123"
  queue := "speaker.batch"
  tenantId := "acme"
  jobId := "job_1"

/-- The number of a document. -/
noncomputable def documentNumber : PyValue Empty → ℕ := (exists_injective_nat _).choose

theorem documentNumber_injective : Function.Injective documentNumber :=
  (exists_injective_nat _).choose_spec

/-- The text of the task after a number of attempts. -/
def plainText (attempts : ℕ) : String :=
  "\x7b\"task_id\": \"tsk_0123456789abcdef0123\", \"queue\": \"speaker.batch\", "
    ++ "\"tenant_id\": \"acme\", \"job_id\": \"job_1\", \"payload\": \x7b\x7d, "
    ++ "\"enqueued_ms\": 0, \"attempts\": " ++ toString attempts ++ "\x7d"

/-- `json.dumps` of the task, and of it after its first retry. Any other document is written
down by its number. -/
noncomputable def plainDumps (v : PyValue Empty) : String :=
  open Classical in
  if v = plainTask.toDict then plainText 0
  else if v = plainTask.again.toDict then plainText 1
  else "#" ++ toString (documentNumber v)

theorem plainDumps_cases (v : PyValue Empty) :
    (v = plainTask.toDict ∧ plainDumps v = plainText 0)
      ∨ (v = plainTask.again.toDict ∧ plainDumps v = plainText 1)
      ∨ plainDumps v = "#" ++ toString (documentNumber v) := by
  unfold plainDumps
  split_ifs with hfirst hsecond
  · exact Or.inl ⟨hfirst, rfl⟩
  · exact Or.inr (Or.inl ⟨hsecond, rfl⟩)
  · exact Or.inr (Or.inr rfl)

theorem plainText_ne_number (attempts n : ℕ) : plainText attempts ≠ "#" ++ toString n := by
  intro h
  have htext : (plainText attempts).toList.head? = some '\x7b' := by
    unfold plainText
    simp only [String.append_assoc, String.toList_append]
    rfl
  have hnumber : ("#" ++ toString n).toList.head? = some '#' := by
    rw [String.toList_append]
    rfl
  rw [h, hnumber] at htext
  exact absurd (Option.some.inj htext) (by decide)

theorem plainDumps_injective : Function.Injective plainDumps := by
  intro v w h
  have hattempts : plainText 0 ≠ plainText 1 := by decide +kernel
  rcases plainDumps_cases v with ⟨hv, hv'⟩ | ⟨hv, hv'⟩ | hv'
  · rcases plainDumps_cases w with ⟨hw, hw'⟩ | ⟨hw, hw'⟩ | hw'
    · exact hv.trans hw.symm
    · exact absurd (hv'.symm.trans (h.trans hw')) hattempts
    · exact absurd (hv'.symm.trans (h.trans hw')) (plainText_ne_number _ _)
  · rcases plainDumps_cases w with ⟨hw, hw'⟩ | ⟨hw, hw'⟩ | hw'
    · exact absurd (hw'.symm.trans (h.symm.trans hv')) hattempts
    · exact hv.trans hw.symm
    · exact absurd (hv'.symm.trans (h.trans hw')) (plainText_ne_number _ _)
  · rcases plainDumps_cases w with ⟨hw, hw'⟩ | ⟨hw, hw'⟩ | hw'
    · exact absurd (hw'.symm.trans (h.symm.trans hv')) (plainText_ne_number _ _)
    · exact absurd (hw'.symm.trans (h.symm.trans hv')) (plainText_ne_number _ _)
    · have hnumber := hv'.symm.trans (h.trans hw')
      exact documentNumber_injective (toString_nat_inj ((String.append_right_inj _).mp hnumber))

/-- A module that writes the task as JSON, and reads what it has written. -/
noncomputable def plainJson : JsonModule Empty where
  str _ := "None"
  int _ := .error (.other "TypeError")
  dict _ := .error (.other "TypeError")
  dumps := plainDumps
  loads raw :=
    open Classical in
    if h : ∃ v, plainDumps v = raw then .ok h.choose else .error (.valueError "Expecting value")
  loads_dumps v _ := by
    have hwritten : ∃ w, plainDumps w = plainDumps v := ⟨v, rfl⟩
    rw [dif_pos hwritten, plainDumps_injective hwritten.choose_spec]
  dumps_ne_empty v := by
    rcases plainDumps_cases v with ⟨-, hv⟩ | ⟨-, hv⟩ | hv
    · rw [hv]
      decide +kernel
    · rw [hv]
      decide +kernel
    · rw [hv]
      exact fun h => by simpa using congrArg String.toList h

/-- The task is enqueued. -/
def plainCalls : List (TextCall Empty) :=
  [.enqueue "speaker.batch" "0123456789abcdef0123" "acme" "job_1" none 0]

/-- **The task is reserved under its text, and acknowledged.** -/
theorem acknowledged_plain : ∃ s',
    TextQueue.reserve { json := plainJson } ["speaker.batch"] "worker"
      (TextQueue.history { json := plainJson } plainCalls) = (.ok (some plainTask), s')
    ∧ s'.lists "sastt:processing:speaker.batch:worker" = [plainText 0]
    ∧ (TextQueue.ack { json := plainJson } plainTask "worker"
      (s'.giveOut (some plainTask))).1 = true := by
  let q : TextQueue Empty := { json := plainJson }
  have htext : plainTask.toJson plainJson = plainText 0 := if_pos rfl
  have hwaiting : (q.history plainCalls).lists (q.key "speaker.batch")
      = [plainTask.toJson plainJson] := rfl
  have hkeeps := keeps_history q plainCalls
  have hdistinct : (Json.obj plainTask.payload).KeysDistinct := .obj List.nodup_nil nofun
  obtain ⟨s', hsome, hreserves⟩ : ∃ s', q.reserve ["speaker.batch"] "worker"
      (q.history plainCalls) = (.ok (some plainTask), s')
        ∧ Reserves q "worker" plainTask (q.history plainCalls) s' := by
    rcases rpoplpush_cases hkeeps "speaker.batch" "worker" with hnone | ⟨t, s', hsome, hreserves⟩
    · unfold TextStore.rpoplpush TextStore.rpop at hnone
      rw [hwaiting] at hnone
      cases hnone
    · have hread : t.toJson q.json = plainTask.toJson q.json := by
        have hpopped := congrArg Prod.fst hsome
        unfold TextStore.rpoplpush TextStore.rpop at hpopped
        rw [hwaiting] at hpopped
        exact (Option.some.inj hpopped).symm
      obtain rfl := QueuedTask.toJson_inj q.json hreserves.known.distinct hdistinct hread
      refine ⟨s', ?_, hreserves⟩
      unfold TextQueue.reserve reserveFirst
      rw [hsome]
      dsimp only
      rw [if_neg (QueuedTask.toJson_ne_empty _ _)]
      dsimp only
      rw [QueuedTask.fromJson_toJson q.json hdistinct]
      rfl
  have hack := ((acknowledged_history q plainCalls).2 _ _ _ _ hsome [] eachStep_nil).2.2.1
  refine ⟨s', hsome, ?_, congrArg Prod.fst hack⟩
  rw [← htext]
  exact hreserves.head

end TextQueue

end Sastt
