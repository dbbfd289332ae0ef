import Mathlib.Data.List.DropRight
import Sastt.Adapters.RedisQueue

/-!
# Recovery of stale tasks

`requeue_stale` takes the tasks of a consumer from the tail of its processing list, as long as
they are expired. The first one that is not ends the loop, and is put back at the head. So
what is recovered are the expired tasks at the tail (`requeueStale_spec`), and what stays is
turned by one place. These are the expired tasks, and the order is the old one, exactly if no
expired task is before one that is not and these are all the same (`requeuesExpired_iff`).
-/

namespace Sastt

open QueueStore

section Turned

variable {α : Type}

/-- **The last entry is put back at the head.** -/
def turned (l : List α) : List α := l.getLast?.toList ++ l.dropLast

@[simp] theorem turned_concat (l : List α) (a : α) : turned (l ++ [a]) = a :: l := by
  simp [turned]

/-- Turning by one place is seen unless the entries are all the same. -/
theorem turned_eq_self_iff {l : List α} : turned l = l ↔ ∀ a ∈ l, ∀ b ∈ l, a = b := by
  have hcons : ∀ (l : List α) (a : α), a :: l = l ++ [a] ↔ ∀ b ∈ l, b = a := by
    intro l
    induction l with
    | nil => simp
    | cons b l ih =>
      intro a
      rw [List.cons_append, List.cons.injEq, List.forall_mem_cons, eq_comm (a := a)]
      refine and_congr_right (fun hab => ?_)
      rw [← hab]
      exact ih b
  induction l using List.reverseRecOn with
  | nil => simp [turned]
  | append_singleton l a _ =>
    rw [turned_concat, hcons]
    constructor
    · intro h b hb b' hb'
      have hsame : ∀ b ∈ l ++ [a], b = a := fun b hb =>
        (List.mem_append.mp hb).elim (h b) List.mem_singleton.mp
      rw [hsame b hb, hsame b' hb']
    · exact fun h b hb => h b (List.mem_append_left _ hb) a (by simp)

end Turned

variable {P : Type} [DecidableEq P] (q : RedisTaskQueue) (queue consumer : String)

/-- The task has been waiting for the timeout. -/
def RedisTaskQueue.expired (s : QueueStore P) (task : Task P) : Bool :=
  q.visibilityTimeoutMs ≤ task.ageMs s.nowMs

variable {q queue consumer} {s : QueueStore P}

/-- **The expired tasks at the tail are waiting again**, and what was before them is turned. -/
structure Recovers (q : RedisTaskQueue) (queue consumer : String) (s s' : QueueStore P) :
    Prop where
  waiting : s'.lists (q.key queue)
    = (s.lists (q.processingKey queue consumer)).rtakeWhile (q.expired s)
      ++ s.lists (q.key queue)
  held : s'.lists (q.processingKey queue consumer)
    = turned ((s.lists (q.processingKey queue consumer)).rdropWhile (q.expired s))
  others : ∀ key, key ≠ q.processingKey queue consumer → key ≠ q.key queue →
    s'.lists key = s.lists key
  nowMs : s'.nowMs = s.nowMs

theorem alone_rpop (key : String) : (RedisClient.rpop key).alone (execute {} 0) s
    = ((s.lists key).getLast?, s.put key (s.lists key).dropLast) := rfl

theorem alone_nowMs : RedisClient.nowMs.alone (execute {} 0) s = (s.nowMs, s) := rfl

theorem alone_lpush (key : String) (task : Task P) :
    (RedisClient.lpush key task).alone (execute {} 0) s
      = ((s.lists key).length + 1, s.push key task) := rfl

omit [DecidableEq P] in
theorem lists_push (key key' : String) (task : Task P) :
    (s.push key task).lists key' = if key' = key then task :: s.lists key else s.lists key' := by
  show Function.update s.lists key (task :: s.lists key) key' = _
  rw [Function.update_apply]

/-- **The loop of `requeue_stale`**, with no other client at work. -/
theorem requeueLoop_spec (rounds moved : ℕ) (s : QueueStore P)
    (hrounds : (s.lists (q.processingKey queue consumer)).length < rounds) :
    ((q.requeueLoop queue consumer rounds moved).alone (execute {} 0) s).1
        = moved + ((s.lists (q.processingKey queue consumer)).rtakeWhile (q.expired s)).length
      ∧ Recovers q queue consumer s
        ((q.requeueLoop queue consumer rounds moved).alone (execute {} 0) s).2 := by
  induction rounds generalizing moved s with
  | zero => exact absurd hrounds (Nat.not_lt_zero _)
  | succ rounds ih =>
    have hkeys := q.key_ne_processingKey queue queue consumer
    unfold RedisTaskQueue.requeueLoop
    rw [Program.alone_bind, alone_rpop]
    rcases List.eq_nil_or_concat (s.lists (q.processingKey queue consumer))
      with hheld | ⟨held, task, hheld⟩
    · rw [hheld]
      refine ⟨rfl, ?_, ?_, fun key hown hkey => ?_, rfl⟩
      · rw [hheld]
        exact s.lists_put_of_ne hkeys _
      · rw [hheld]
        exact s.lists_put_self _ _
      · exact s.lists_put_of_ne hown _
    · rw [hheld, List.concat_eq_append, List.getLast?_concat, List.dropLast_concat]
      rw [List.concat_eq_append] at hheld
      set popped := s.put (q.processingKey queue consumer) held with hpopped
      have hown : popped.lists (q.processingKey queue consumer) = held := s.lists_put_self _ _
      have hother : ∀ key, key ≠ q.processingKey queue consumer →
          popped.lists key = s.lists key := fun key hkey => s.lists_put_of_ne hkey _
      dsimp only
      rw [Program.alone_bind, alone_nowMs]
      dsimp only
      by_cases hexpired : q.expired s task = true
      · have hage : ¬ task.ageMs popped.nowMs < q.visibilityTimeoutMs :=
          not_lt.mpr (of_decide_eq_true hexpired)
        rw [if_neg hage, Program.alone_bind, alone_lpush]
        dsimp only
        have hheld' : (popped.push (q.key queue) task).lists (q.processingKey queue consumer)
            = held := by
          rw [lists_push, if_neg hkeys.symm, hown]
        have hshort : held.length < rounds := by
          rw [hheld, List.length_append, List.length_singleton] at hrounds
          exact Nat.lt_of_succ_lt_succ hrounds
        obtain ⟨hcount, hrecovers⟩ := ih (moved + 1) (popped.push (q.key queue) task)
          (hheld' ▸ hshort)
        rw [hheld'] at hcount
        refine ⟨?_, ?_, ?_, fun key hown hkey => ?_, hrecovers.nowMs⟩
        · rw [hcount, List.rtakeWhile_concat_pos _ _ _ hexpired, List.length_append,
            List.length_singleton, Nat.add_right_comm, Nat.add_assoc]
          rfl
        · rw [hrecovers.waiting, hheld', hheld, List.rtakeWhile_concat_pos _ _ _ hexpired,
            lists_push, if_pos rfl, hother _ hkeys, List.append_assoc]
          rfl
        · rw [hrecovers.held, hheld', hheld, List.rdropWhile_concat_pos _ _ _ hexpired]
          rfl
        · rw [hrecovers.others key hown hkey, lists_push, if_neg hkey, hother key hown]
      · -- the first task within its lease ends the loop
        have hage : task.ageMs popped.nowMs < q.visibilityTimeoutMs :=
          not_le.mp (fun hle => hexpired (decide_eq_true hle))
        rw [if_pos hage, Program.alone_bind, alone_lpush]
        dsimp only
        rw [Program.alone_pure]
        refine ⟨?_, ?_, ?_, fun key hown hkey => ?_, rfl⟩
        · rw [List.rtakeWhile_concat_neg _ _ _ hexpired]
          rfl
        · rw [hheld, List.rtakeWhile_concat_neg _ _ _ hexpired, lists_push, if_neg hkeys,
            hother _ hkeys]
          rfl
        · rw [hheld, List.rdropWhile_concat_neg _ _ _ hexpired, turned_concat, lists_push,
            if_pos rfl, hown]
        · rw [lists_push, if_neg hown, hother key hown]

/-! ## What is recovered -/

/-- `requeue_stale`, with no other client at work and at one time. The loop is given more
rounds than there are tasks. -/
def RedisTaskQueue.requeued (q : RedisTaskQueue) (queue consumer : String) (s : QueueStore P) :
    ℕ × QueueStore P :=
  (q.requeueStale queue consumer
    ((s.lists (q.processingKey queue consumer)).length + 1)).alone (execute {} 0) s

/-- **Exactly the expired tasks are recovered**, each once and unchanged, the rest stays in
its order, and a second call finds nothing. -/
structure RequeuesExpired (q : RedisTaskQueue) (queue consumer : String) (s : QueueStore P) :
    Prop where
  count : (q.requeued queue consumer s).1
    = ((s.lists (q.processingKey queue consumer)).filter (q.expired s)).length
  waiting : ∃ moved, moved.Perm ((s.lists (q.processingKey queue consumer)).filter (q.expired s))
    ∧ (q.requeued queue consumer s).2.lists (q.key queue) = moved ++ s.lists (q.key queue)
  held : (q.requeued queue consumer s).2.lists (q.processingKey queue consumer)
    = (s.lists (q.processingKey queue consumer)).filter (fun task => !q.expired s task)
  others : ∀ key, key ≠ q.processingKey queue consumer → key ≠ q.key queue →
    (q.requeued queue consumer s).2.lists key = s.lists key
  /-- The loop ends by itself. -/
  ends : ∀ rounds, (s.lists (q.processingKey queue consumer)).length < rounds →
    ((q.requeueStale queue consumer rounds).alone (execute {} 0) s).1
        = (q.requeued queue consumer s).1
      ∧ ((q.requeueStale queue consumer rounds).alone (execute {} 0) s).2.lists
        = (q.requeued queue consumer s).2.lists
  again : (q.requeued queue consumer (q.requeued queue consumer s).2).1 = 0
    ∧ (q.requeued queue consumer (q.requeued queue consumer s).2).2.lists
      = (q.requeued queue consumer s).2.lists

/-- **The tasks within their lease are the first, and all the same.** -/
def LeasedFirst (q : RedisTaskQueue) (queue consumer : String) (s : QueueStore P) : Prop :=
  ∃ leased stale, s.lists (q.processingKey queue consumer) = leased ++ stale
    ∧ (∀ task ∈ leased, ∀ other ∈ leased, task = other)
    ∧ (∀ task ∈ leased, q.expired s task = false) ∧ ∀ task ∈ stale, q.expired s task = true

theorem requeueStale_spec (s : QueueStore P) (rounds : ℕ)
    (hrounds : (s.lists (q.processingKey queue consumer)).length < rounds) :
    ((q.requeueStale queue consumer rounds).alone (execute {} 0) s).1
        = ((s.lists (q.processingKey queue consumer)).rtakeWhile (q.expired s)).length
      ∧ Recovers q queue consumer s
        ((q.requeueStale queue consumer rounds).alone (execute {} 0) s).2 := by
  obtain ⟨hcount, hrecovers⟩ := requeueLoop_spec rounds 0 s hrounds
  exact ⟨hcount.trans (Nat.zero_add _), hrecovers⟩

theorem requeued_spec (q : RedisTaskQueue) (queue consumer : String) (s : QueueStore P) :
    (q.requeued queue consumer s).1
        = ((s.lists (q.processingKey queue consumer)).rtakeWhile (q.expired s)).length
      ∧ Recovers q queue consumer s (q.requeued queue consumer s).2 :=
  requeueStale_spec s _ (Nat.lt_succ_self _)

omit [DecidableEq P] in
/-- Two recoveries of the same leave the same lists. -/
theorem Recovers.lists_eq {s₁ s₂ : QueueStore P} (h₁ : Recovers q queue consumer s s₁)
    (h₂ : Recovers q queue consumer s s₂) : s₁.lists = s₂.lists := by
  funext key
  by_cases hown : key = q.processingKey queue consumer
  · rw [hown, h₁.held, h₂.held]
  · by_cases hkey : key = q.key queue
    · rw [hkey, h₁.waiting, h₂.waiting]
    · rw [h₁.others key hown hkey, h₂.others key hown hkey]

omit [DecidableEq P] in
/-- A split by the lease is where the loop ends. -/
theorem splits_iff {held : List (Task P)} :
    (∃ leased stale, held = leased ++ stale
        ∧ (∀ task ∈ leased, ∀ other ∈ leased, task = other)
        ∧ (∀ task ∈ leased, q.expired s task = false) ∧ ∀ task ∈ stale, q.expired s task = true)
      ↔ (∀ task ∈ held.rdropWhile (q.expired s), q.expired s task = false)
        ∧ turned (held.rdropWhile (q.expired s)) = held.rdropWhile (q.expired s) := by
  rw [turned_eq_self_iff]
  constructor
  · rintro ⟨leased, stale, rfl, hsame, hleased, hstale⟩
    have hdrop : (leased ++ stale).rdropWhile (q.expired s) = leased := by
      induction stale using List.reverseRecOn with
      | nil =>
        rw [List.append_nil, List.rdropWhile_eq_self_iff]
        intro hne
        rw [hleased _ (List.getLast_mem hne)]
        exact nofun
      | append_singleton stale task ih =>
        rw [← List.append_assoc, List.rdropWhile_concat_pos _ _ _ (hstale task (by simp))]
        exact ih (fun task htask => hstale task (List.mem_append_left _ htask))
    rw [hdrop]
    exact ⟨hleased, hsame⟩
  · rintro ⟨hleased, hsame⟩
    exact ⟨_, _, (List.rdropWhile_append_rtakeWhile).symm, hsame, hleased,
      fun task htask => List.mem_rtakeWhile_imp htask⟩

/-- What the loop leaves, where no expired task is left, is not looked at again. -/
theorem requeued_again {held : List (Task P)}
    (hheld : s.lists (q.processingKey queue consumer) = held)
    (hleased : ∀ task ∈ held, q.expired s task = false) (hsame : turned held = held) :
    (q.requeued queue consumer s).1 = 0
      ∧ (q.requeued queue consumer s).2.lists = s.lists := by
  obtain ⟨hcount, hrecovers⟩ := requeued_spec q queue consumer s
  have hnone : held.rtakeWhile (q.expired s) = [] := by
    rw [List.rtakeWhile_eq_nil_iff]
    intro hne
    rw [hleased _ (List.getLast_mem hne)]
    exact nofun
  have hall : held.rdropWhile (q.expired s) = held := by
    have hparts := List.rdropWhile_append_rtakeWhile (p := q.expired s) (l := held)
    rwa [hnone, List.append_nil] at hparts
  refine ⟨?_, ?_⟩
  · rw [hheld, hnone] at hcount
    exact hcount
  · funext key
    by_cases hown : key = q.processingKey queue consumer
    · rw [hown]
      refine hrecovers.held.trans ?_
      rw [hheld, hall, hsame]
    · by_cases hkey : key = q.key queue
      · rw [hkey]
        refine hrecovers.waiting.trans ?_
        rw [hheld, hnone, List.nil_append]
      · exact hrecovers.others key hown hkey

/-- **`requeue_stale` recovers the expired tasks** exactly if the tasks within their lease are
the first of the processing list, and all the same. -/
theorem requeuesExpired_iff (q : RedisTaskQueue) (queue consumer : String) (s : QueueStore P) :
    RequeuesExpired q queue consumer s ↔ LeasedFirst q queue consumer s := by
  obtain ⟨hcount, hrecovers⟩ := requeued_spec q queue consumer s
  unfold LeasedFirst
  rw [splits_iff]
  have hparts := List.rdropWhile_append_rtakeWhile (p := q.expired s)
    (l := s.lists (q.processingKey queue consumer))
  have hstale : ∀ task ∈ (s.lists (q.processingKey queue consumer)).rtakeWhile (q.expired s),
      q.expired s task = true := fun _ => List.mem_rtakeWhile_imp
  have hheld := hrecovers.held
  have hwaiting := hrecovers.waiting
  set rest := (s.lists (q.processingKey queue consumer)).rdropWhile (q.expired s)
  set moved := (s.lists (q.processingKey queue consumer)).rtakeWhile (q.expired s)
  have hexpired : (s.lists (q.processingKey queue consumer)).filter (q.expired s)
      = rest.filter (q.expired s) ++ moved := by
    rw [← hparts, List.filter_append, List.filter_eq_self.mpr hstale]
  have hleased : (s.lists (q.processingKey queue consumer)).filter (fun task => !q.expired s task)
      = rest.filter (fun task => !q.expired s task) := by
    rw [← hparts, List.filter_append, List.append_right_eq_self, List.filter_eq_nil_iff]
    exact fun task htask => by simp [hstale task htask]
  constructor
  · intro h
    have hnone : rest.filter (q.expired s) = [] := by
      have hlength := h.count
      rw [hcount, hexpired, List.length_append] at hlength
      exact List.length_eq_zero_iff.mp (by omega)
    have hkept : ∀ task ∈ rest, q.expired s task = false := fun task htask =>
      Bool.eq_false_iff.mpr (List.filter_eq_nil_iff.mp hnone task htask)
    refine ⟨hkept, ?_⟩
    rw [← hheld, h.held, hleased]
    exact List.filter_eq_self.mpr (fun task htask => by simp [hkept task htask])
  · rintro ⟨hkept, hsame⟩
    have hnone : rest.filter (q.expired s) = [] :=
      List.filter_eq_nil_iff.mpr (fun task htask => Bool.eq_false_iff.mp (hkept task htask))
    rw [hnone, List.nil_append] at hexpired
    refine ⟨by rw [hcount, hexpired], ⟨moved, by rw [hexpired], hwaiting⟩, ?_, hrecovers.others,
      fun rounds hrounds => ?_, ?_⟩
    · rw [hheld, hsame, hleased]
      exact (List.filter_eq_self.mpr (fun task htask => by simp [hkept task htask])).symm
    · obtain ⟨hcount', hrecovers'⟩ := requeueStale_spec s rounds hrounds
      exact ⟨hcount'.trans hcount.symm, hrecovers'.lists_eq hrecovers⟩
    · refine requeued_again (hheld.trans hsame) (fun task htask => ?_) hsame
      unfold RedisTaskQueue.expired at hkept ⊢
      rw [hrecovers.nowMs]
      exact hkept task htask

/-- The worker holds two tasks, of which the first is expired and the second is not. -/
def leaseBehindStale : QueueStore Unit where
  lists := fun key => if key = "sastt:processing:speaker.batch:worker" then
    [⟨"tsk_old", "speaker.batch", "acme", "job_1", (), 0, 0⟩,
      ⟨"tsk_new", "speaker.batch", "acme", "job_2", (), 400000, 0⟩]
    else []
  nowMs := 500000

/-- **The task within its lease hides the expired one**, and is put before it. -/
theorem requeueStale_stops :
    (({ } : RedisTaskQueue).requeued "speaker.batch" "worker" leaseBehindStale).1 = 0
      ∧ ((({ } : RedisTaskQueue).requeued "speaker.batch" "worker" leaseBehindStale).2.lists
          "sastt:processing:speaker.batch:worker").map Task.taskId = ["tsk_new", "tsk_old"]
      ∧ ¬ ∀ s : QueueStore Unit, RequeuesExpired {} "speaker.batch" "worker" s := by
  have hmoved : (({ } : RedisTaskQueue).requeued "speaker.batch" "worker" leaseBehindStale).1
      = 0 := by decide +kernel
  refine ⟨hmoved, by decide +kernel, fun h => ?_⟩
  have hcount := (h leaseBehindStale).count
  rw [hmoved] at hcount
  exact absurd hcount (by decide +kernel)

end Sastt
