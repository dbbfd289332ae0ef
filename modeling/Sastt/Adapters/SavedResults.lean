import Mathlib.Data.List.Basic
import Sastt.Lib.Noninterference

/-!
# Saving the result of a job

`save_result` replaces the segments of a job in one transaction: a `DELETE`
of the rows that are there, an `INSERT` for each segment, and an `UPDATE` of
the job. At the isolation level of the database each statement sees what is
committed when it starts. Two deliveries of one task may be saving at the same
time, and then neither `DELETE` sees the rows of the other transaction.

`SegmentTable` is the table as far as one job goes, with the transactions
that are open. A transaction notes the rows its `DELETE` has seen. It takes
them away, and puts its own into their place, when it commits. The event ids of
different runs are different, so a row is a segment under the number of the
transaction that inserted it.

The rows of the job are those of one run throughout, exactly when no
transaction commits segments of its own while there are rows it has not seen
(`oneRun_iff`).
-/

namespace Sastt

/-- What one run of the pipeline saves. -/
structure SavedResult (G : Type) where
  segments : List G
  warnings : List String := []
  degraded : Bool := false

/-- A statement of `save_result`, or the end of its transaction. -/
inductive SaveCommand (G : Type)
  | delete
  | insert (segment : G)
  | updateJob (warnings : List String) (degraded : Bool)
  | commit

/-- Nobody waits for a reply. -/
def SaveReply {G : Type} (_ : SaveCommand G) : Type := Unit

/-- The `INSERT`s. -/
def insertSegments {G : Type} : List G → Program (SaveCommand G) SaveReply Unit
  | [] => return ()
  | segment :: segments => do
    let _ ← .issue (SaveCommand.insert segment)
    insertSegments segments

/-- **`save_result`.** -/
def saveResult {G : Type} (result : SavedResult G) : Program (SaveCommand G) SaveReply Unit := do
  let _ ← .issue (SaveCommand.delete : SaveCommand G)
  insertSegments result.segments
  let _ ← .issue (SaveCommand.updateJob result.warnings result.degraded : SaveCommand G)
  let _ ← .issue (SaveCommand.commit : SaveCommand G)
  return ()

/-! ## The table -/

/-- **An open transaction**: its number, the rows its `DELETE` has seen, and
what it has written. -/
structure SaveTransaction (G : Type) where
  run : ℕ
  seen : List (ℕ × G)
  inserted : List G := []
  outcome : Option (List String × Bool) := none

/-- **What is committed for the job**, and the transactions of the clients. -/
structure SegmentTable (G : Type) where
  rows : List (ℕ × G) := []
  outcome : List String × Bool := ([], false)
  transactions : ℕ → Option (SaveTransaction G) := fun _ => none
  nextRun : ℕ := 0

namespace SegmentTable

variable {G : Type}

/-- Write in the transaction of a client. -/
def inTransaction (s : SegmentTable G) (client : ℕ) (f : SaveTransaction G → SaveTransaction G) :
    SegmentTable G :=
  { s with transactions := Function.update s.transactions client ((s.transactions client).map f) }

variable [DecidableEq G]

/-- The rows once the transaction has committed. -/
def committed (s : SegmentTable G) (t : SaveTransaction G) : List (ℕ × G) :=
  s.rows.filter (fun row => row ∉ t.seen) ++ t.inserted.map (fun segment => (t.run, segment))

/-- **One statement** of a client. -/
def execute (_ : Unit) (client : ℕ) (s : SegmentTable G) (c : SaveCommand G) :
    SegmentTable G × SaveReply c :=
  match c with
  | .delete =>
    ({ s with
        transactions := Function.update s.transactions client
          (some { run := s.nextRun, seen := s.rows })
        nextRun := s.nextRun + 1 }, ())
  | .insert segment =>
    (s.inTransaction client (fun t => { t with inserted := t.inserted ++ [segment] }), ())
  | .updateJob warnings degraded =>
    (s.inTransaction client (fun t => { t with outcome := some (warnings, degraded) }), ())
  | .commit =>
    match s.transactions client with
    | none => (s, ())
    | some t =>
      ({ s with
          rows := s.committed t
          outcome := t.outcome.getD s.outcome
          transactions := Function.update s.transactions client none }, ())

end SegmentTable

/-! ## What a client has inserted -/

section Discipline

variable {G A : Type}

/-- A transaction commits a whole result, knowing what it has inserted. -/
def wholeResults (results : A → SavedResult G) :
    Discipline (SaveCommand G) SaveReply (Option (List G)) where
  allows known
    | .commit => ∃ a, known = some (results a).segments
    | _ => True
  learn known c _ :=
    match c with
    | .delete => some []
    | .insert segment => known.map (fun inserted => inserted ++ [segment])
    | .updateJob _ _ => known
    | .commit => none

theorem wp_insertSegments (results : A → SavedResult G) (segments inserted : List G) :
    (insertSegments segments).Wp (wholeResults results)
      (fun known _ => known = some (inserted ++ segments)) (some inserted) := by
  induction segments generalizing inserted with
  | nil => exact Program.wp_pure (congrArg some (List.append_nil inserted).symm)
  | cons segment segments ih =>
    refine Program.wp_bind (Program.wp_issue True.intro (fun _ => ?_))
    have hrest := ih (inserted ++ [segment])
    rw [List.append_assoc] at hrest
    exact hrest

/-- **`save_result` commits the whole result.** -/
theorem obeys_saveResult (results : A → SavedResult G) (a : A) (known : Option (List G)) :
    (saveResult (results a)).Obeys (wholeResults results) known := by
  refine Program.wp_bind (Program.wp_issue True.intro (fun _ => ?_))
  refine Program.wp_bind ((wp_insertSegments results (results a).segments []).mono ?_)
  rintro known - rfl
  refine Program.wp_bind (Program.wp_issue True.intro (fun _ => ?_))
  exact Program.wp_bind (Program.wp_issue ⟨a, rfl⟩ (fun _ => Program.wp_pure True.intro))

end Discipline

/-! ## Whole runs -/

namespace SegmentTable

variable {G : Type} {s : SegmentTable G}

/-- **What the transactions know of each other's rows.** Numbers are not
used again, nobody has seen the rows of an open transaction, and the rows of
one run are seen all or none. -/
structure Numbered (s : SegmentTable G) : Prop where
  rows_lt : ∀ row ∈ s.rows, row.1 < s.nextRun
  run_lt : ∀ client t, s.transactions client = some t → t.run < s.nextRun
  seen_lt : ∀ client t, s.transactions client = some t → ∀ row ∈ t.seen, row.1 < s.nextRun
  distinct : ∀ client t client' t', s.transactions client = some t →
    s.transactions client' = some t' → client ≠ client' → t.run ≠ t'.run
  rows_ne : ∀ client t, s.transactions client = some t → ∀ row ∈ s.rows, row.1 ≠ t.run
  seen_ne : ∀ client t client' t', s.transactions client = some t →
    s.transactions client' = some t' → ∀ row ∈ t'.seen, row.1 ≠ t.run
  whole : ∀ client t, s.transactions client = some t → ∀ row ∈ s.rows, ∀ row' ∈ s.rows,
    row.1 = row'.1 → row ∈ t.seen → row' ∈ t.seen

theorem Numbered.start : ({} : SegmentTable G).Numbered where
  rows_lt _ h := absurd h List.not_mem_nil
  run_lt _ _ h := nomatch h
  seen_lt _ _ h := nomatch h
  distinct _ _ _ _ h := nomatch h
  rows_ne _ _ h := nomatch h
  seen_ne _ _ _ _ h := nomatch h
  whole _ _ h := nomatch h

/-- Writing in a transaction changes neither its number nor what it has
seen. -/
theorem Numbered.inTransaction (h : s.Numbered) (client : ℕ)
    {f : SaveTransaction G → SaveTransaction G} (hrun : ∀ t, (f t).run = t.run)
    (hseen : ∀ t, (f t).seen = t.seen) : (s.inTransaction client f).Numbered := by
  -- every transaction is one there was, as far as number and rows seen go
  have hold : ∀ c t, (s.inTransaction client f).transactions c = some t →
      ∃ t₀, s.transactions c = some t₀ ∧ t.run = t₀.run ∧ t.seen = t₀.seen := by
    intro c t ht
    replace ht : Function.update s.transactions client ((s.transactions client).map f) c = some t :=
      ht
    by_cases hc : c = client
    · subst hc
      rw [Function.update_self, Option.map_eq_some_iff] at ht
      obtain ⟨t₀, ht₀, rfl⟩ := ht
      exact ⟨t₀, ht₀, hrun t₀, hseen t₀⟩
    · rw [Function.update_of_ne hc] at ht
      exact ⟨t, ht, rfl, rfl⟩
  constructor
  · exact h.rows_lt
  · intro c t ht
    obtain ⟨t₀, ht₀, hr, -⟩ := hold c t ht
    exact hr ▸ h.run_lt c t₀ ht₀
  · intro c t ht
    obtain ⟨t₀, ht₀, -, hs⟩ := hold c t ht
    exact hs ▸ h.seen_lt c t₀ ht₀
  · intro c t c' t' ht ht' hne
    obtain ⟨t₀, ht₀, hr, -⟩ := hold c t ht
    obtain ⟨t₀', ht₀', hr', -⟩ := hold c' t' ht'
    rw [hr, hr']
    exact h.distinct c t₀ c' t₀' ht₀ ht₀' hne
  · intro c t ht
    obtain ⟨t₀, ht₀, hr, -⟩ := hold c t ht
    exact hr ▸ h.rows_ne c t₀ ht₀
  · intro c t c' t' ht ht'
    obtain ⟨t₀, ht₀, hr, -⟩ := hold c t ht
    obtain ⟨t₀', ht₀', -, hs'⟩ := hold c' t' ht'
    rw [hr, hs']
    exact h.seen_ne c t₀ c' t₀' ht₀ ht₀'
  · intro c t ht
    obtain ⟨t₀, ht₀, -, hs⟩ := hold c t ht
    exact hs ▸ h.whole c t₀ ht₀

variable [DecidableEq G]

/-- A `DELETE` opens a transaction that has seen all rows. -/
theorem Numbered.delete (h : s.Numbered) (client : ℕ) :
    (s.execute () client .delete).1.Numbered := by
  have hcases : ∀ c t, (s.execute () client .delete).1.transactions c = some t →
      t = { run := s.nextRun, seen := s.rows } ∧ c = client
        ∨ s.transactions c = some t ∧ c ≠ client := by
    intro c t ht
    replace ht : Function.update s.transactions client (some { run := s.nextRun, seen := s.rows }) c
      = some t := ht
    by_cases hc : c = client
    · subst hc
      rw [Function.update_self] at ht
      exact Or.inl ⟨(Option.some.inj ht).symm, rfl⟩
    · exact Or.inr ⟨(Function.update_of_ne hc _ _).symm.trans ht, hc⟩
  constructor
  · exact fun row hrow => Nat.lt_succ_of_lt (h.rows_lt row hrow)
  · intro c t ht
    rcases hcases c t ht with ⟨rfl, -⟩ | ⟨hold, -⟩
    · exact Nat.lt_succ_self _
    · exact Nat.lt_succ_of_lt (h.run_lt c t hold)
  · intro c t ht row hrow
    rcases hcases c t ht with ⟨rfl, -⟩ | ⟨hold, -⟩
    · exact Nat.lt_succ_of_lt (h.rows_lt row hrow)
    · exact Nat.lt_succ_of_lt (h.seen_lt c t hold row hrow)
  · intro c t c' t' ht ht' hne
    rcases hcases c t ht with ⟨rfl, rfl⟩ | ⟨hold, -⟩
    · rcases hcases c' t' ht' with ⟨-, hc'⟩ | ⟨hold', -⟩
      · exact absurd hc'.symm hne
      · exact Nat.ne_of_gt (h.run_lt c' t' hold')
    · rcases hcases c' t' ht' with ⟨rfl, -⟩ | ⟨hold', -⟩
      · exact Nat.ne_of_lt (h.run_lt c t hold)
      · exact h.distinct c t c' t' hold hold' hne
  · intro c t ht row hrow
    rcases hcases c t ht with ⟨rfl, -⟩ | ⟨hold, -⟩
    · exact Nat.ne_of_lt (h.rows_lt row hrow)
    · exact h.rows_ne c t hold row hrow
  · intro c t c' t' ht ht' row hrow
    rcases hcases c t ht with ⟨rfl, -⟩ | ⟨hold, -⟩
    · rcases hcases c' t' ht' with ⟨rfl, -⟩ | ⟨hold', -⟩
      · exact Nat.ne_of_lt (h.rows_lt row hrow)
      · exact Nat.ne_of_lt (h.seen_lt c' t' hold' row hrow)
    · rcases hcases c' t' ht' with ⟨rfl, -⟩ | ⟨hold', -⟩
      · exact h.rows_ne c t hold row hrow
      · exact h.seen_ne c t c' t' hold hold' row hrow
  · intro c t ht row hrow row' hrow' heq hseen
    rcases hcases c t ht with ⟨rfl, -⟩ | ⟨hold, -⟩
    · exact hrow'
    · exact h.whole c t hold row hrow row' hrow' heq hseen

/-- A row after a commit is one that was not seen, or one of the
transaction. -/
theorem mem_committed {t : SaveTransaction G} {row : ℕ × G} :
    row ∈ s.committed t ↔ (row ∈ s.rows ∧ row ∉ t.seen) ∨ (row.1 = t.run ∧ row.2 ∈ t.inserted) := by
  unfold committed
  rw [List.mem_append, List.mem_filter, List.mem_map, decide_eq_true_eq]
  refine or_congr_right ⟨fun ⟨g, hg, heq⟩ => ?_, fun h => ⟨row.2, h.2, ?_⟩⟩
  · rw [← heq]
    exact ⟨rfl, hg⟩
  · rw [← h.1]

/-- A commit keeps the numbering. -/
theorem Numbered.commit (h : s.Numbered) {client : ℕ} {t : SaveTransaction G}
    (ht : s.transactions client = some t) :
    (s.execute () client .commit).1.Numbered
      ∧ (s.execute () client .commit).1.rows = s.committed t := by
  have hexecute : (s.execute () client .commit).1 = { s with
      rows := s.committed t
      outcome := t.outcome.getD s.outcome
      transactions := Function.update s.transactions client none } := by
    unfold execute
    dsimp only
    rw [ht]
  rw [hexecute]
  refine ⟨?_, rfl⟩
  have hold : ∀ c t', Function.update s.transactions client none c = some t' →
      s.transactions c = some t' ∧ client ≠ c := by
    intro c t' ht'
    by_cases hc : c = client
    · subst hc
      rw [Function.update_self] at ht'
      cases ht'
    · exact ⟨(Function.update_of_ne hc _ _).symm.trans ht', fun heq => hc heq.symm⟩
  constructor
  · intro row hrow
    rcases mem_committed.mp hrow with ⟨hmem, -⟩ | ⟨hrun, -⟩
    · exact h.rows_lt row hmem
    · exact hrun ▸ h.run_lt client t ht
  · exact fun c t' ht' => h.run_lt c t' (hold c t' ht').1
  · exact fun c t' ht' => h.seen_lt c t' (hold c t' ht').1
  · exact fun c t' c' t'' ht' ht'' => h.distinct c t' c' t'' (hold c t' ht').1 (hold c' t'' ht'').1
  · intro c t' ht' row hrow
    obtain ⟨hbefore, hne⟩ := hold c t' ht'
    rcases mem_committed.mp hrow with ⟨hmem, -⟩ | ⟨hrun, -⟩
    · exact h.rows_ne c t' hbefore row hmem
    · exact hrun ▸ h.distinct client t c t' ht hbefore hne
  · exact fun c t' c' t'' ht' ht'' => h.seen_ne c t' c' t'' (hold c t' ht').1 (hold c' t'' ht'').1
  · intro c t' ht' row hrow row' hrow' heq hseen
    obtain ⟨hbefore, hne⟩ := hold c t' ht'
    -- a row that was seen is not one of the transaction that commits
    have hother : row.1 ≠ t.run := h.seen_ne client t c t' ht hbefore row hseen
    rcases mem_committed.mp hrow with ⟨hmem, -⟩ | ⟨hrun, -⟩
    · rcases mem_committed.mp hrow' with ⟨hmem', -⟩ | ⟨hrun', -⟩
      · exact h.whole c t' hbefore row hmem row' hmem' heq hseen
      · exact absurd (heq.trans hrun') hother
    · exact absurd hrun hother

/-- **Every statement keeps the numbering.** -/
theorem Numbered.execute (h : s.Numbered) (client : ℕ) (c : SaveCommand G) :
    (s.execute () client c).1.Numbered := by
  cases c with
  | delete => exact h.delete client
  | insert segment => exact h.inTransaction client (fun _ => rfl) (fun _ => rfl)
  | updateJob warnings degraded => exact h.inTransaction client (fun _ => rfl) (fun _ => rfl)
  | commit =>
    cases ht : s.transactions client with
    | none =>
      have hsame : (s.execute () client .commit).1 = s := by
        unfold SegmentTable.execute
        dsimp only
        rw [ht]
      rw [hsame]
      exact h
    | some t => exact (h.commit ht).1

/-- Only a commit changes the rows. -/
theorem rows_execute_of_ne {client : ℕ} {c : SaveCommand G} (hc : c ≠ .commit) :
    (s.execute () client c).1.rows = s.rows := by
  cases c with
  | delete => rfl
  | insert segment => rfl
  | updateJob warnings degraded => rfl
  | commit => exact absurd rfl hc

end SegmentTable

/-! ## Concurrent calls -/

/-- The table and the calls at work on it. -/
abbrev SaveSystem (G : Type) : Type := SharedStore (SaveCommand G) SaveReply (SegmentTable G)

namespace SaveSystem

variable {G A : Type} [DecidableEq G]

/-- A call of `save_result` starts, goes on with its next statement, or dies
with its process. -/
def step (results : A → SavedResult G) (s : SaveSystem G) (e : ClientEvent A Unit) : SaveSystem G :=
  SharedStore.step SegmentTable.execute (fun a => saveResult (results a)) s e

omit [DecidableEq G] in
/-- **The rows of the job are those of one run**, or none was saved yet. -/
def OneRun (results : A → SavedResult G) (s : SaveSystem G) : Prop :=
  s.store.rows = []
    ∨ ∃ a run, s.store.rows = (results a).segments.map (fun segment => (run, segment))

omit [DecidableEq G] in
/-- **Nobody has saved in between**: a transaction that commits segments has
seen all rows there are. -/
def CommitsAlone (s : SaveSystem G) (e : ClientEvent A Unit) : Prop :=
  ∀ client t, s.issued e = some (client, (), .commit) → s.store.transactions client = some t →
    t.inserted = [] ∨ ∀ row ∈ s.store.rows, row ∈ t.seen

omit [DecidableEq G] in
/-- What a client has inserted. -/
def inserted (s : SegmentTable G) (client : ℕ) : Option (List G) :=
  (s.transactions client).map SaveTransaction.inserted

/-- **The numbering, and the discipline of the clients.** -/
structure Invariant (results : A → SavedResult G) (s : SaveSystem G) : Prop where
  numbered : s.store.Numbered
  obeys : s.Obeys (wholeResults results) inserted

variable {results : A → SavedResult G} {s : SaveSystem G}

theorem inserted_execute_self (client : ℕ) (t : SegmentTable G) (c : SaveCommand G) :
    inserted (t.execute () client c).1 client
      = (wholeResults results).learn (inserted t client) c (t.execute () client c).2 := by
  cases c with
  | delete =>
    show (Function.update t.transactions client _ client).map _ = _
    rw [Function.update_self]
    rfl
  | insert segment =>
    show (Function.update t.transactions client _ client).map _ = (inserted t client).map _
    rw [Function.update_self]
    unfold inserted
    rw [Option.map_map, Option.map_map]
    rfl
  | updateJob warnings degraded =>
    show (Function.update t.transactions client _ client).map _ = inserted t client
    rw [Function.update_self, Option.map_map]
    rfl
  | commit =>
    show inserted (t.execute () client .commit).1 client = none
    unfold SegmentTable.execute inserted
    dsimp only
    cases ht : t.transactions client with
    | none => exact congrArg _ ht
    | some _ =>
      show (Function.update t.transactions client none client).map _ = none
      rw [Function.update_self]
      rfl

theorem inserted_execute_other (client : ℕ) (t : SegmentTable G) (c : SaveCommand G) {other : ℕ}
    (hne : other ≠ client) : inserted (t.execute () client c).1 other = inserted t other := by
  have hupdate : ∀ x : Option (SaveTransaction G),
      (Function.update t.transactions client x other).map SaveTransaction.inserted
        = (t.transactions other).map SaveTransaction.inserted := fun x => by
    rw [Function.update_of_ne hne]
  cases c with
  | delete => exact hupdate _
  | insert segment => exact hupdate _
  | updateJob warnings degraded => exact hupdate _
  | commit =>
    unfold SegmentTable.execute inserted
    dsimp only
    cases ht : t.transactions client with
    | none => rfl
    | some _ => exact hupdate _

omit [DecidableEq G] in
theorem Invariant.start : Invariant results ({ store := {} } : SaveSystem G) :=
  ⟨.start, nofun⟩

/-- **Every event keeps the invariant.** -/
theorem Invariant.step (h : Invariant results s) (e : ClientEvent A Unit) :
    Invariant results (step results s e) where
  numbered := by
    rcases SharedStore.store_step SegmentTable.execute (fun a => saveResult (results a)) s e with
      ⟨-, hs⟩ | ⟨client, _, c, -, hs⟩
    · exact hs ▸ h.numbered
    · exact hs ▸ h.numbered.execute client c
  obeys := SharedStore.Obeys.step (fun _ a _ => obeys_saveResult results a _)
    (fun _ client t c => inserted_execute_self client t c)
    (fun _ client t c _ hne => inserted_execute_other client t c hne) h.obeys

/-- The rows of one run are seen all or none. -/
theorem filter_unseen_of_oneRun (h : OneRun results s) (hnumbered : s.store.Numbered) {client : ℕ}
    {t : SaveTransaction G} (ht : s.store.transactions client = some t) :
    s.store.rows.filter (fun row => row ∉ t.seen) = []
      ∨ s.store.rows.filter (fun row => row ∉ t.seen) = s.store.rows := by
  have hsame : ∀ row ∈ s.store.rows, ∀ row' ∈ s.store.rows, row.1 = row'.1 := by
    intro row hrow row' hrow'
    rcases h with hnil | ⟨a, run, hrows⟩
    · rw [hnil] at hrow
      exact absurd hrow List.not_mem_nil
    · rw [hrows, List.mem_map] at hrow hrow'
      obtain ⟨_, -, rfl⟩ := hrow
      obtain ⟨_, -, rfl⟩ := hrow'
      rfl
  by_cases hseen : ∃ row ∈ s.store.rows, row ∈ t.seen
  · obtain ⟨row, hrow, hmem⟩ := hseen
    refine Or.inl (List.filter_eq_nil_iff.mpr (fun row' hrow' => ?_))
    have hmem' := hnumbered.whole client t ht row hrow row' hrow' (hsame row hrow row' hrow') hmem
    simpa using hmem'
  · refine Or.inr (List.filter_eq_self.mpr (fun row hrow => ?_))
    have hunseen : row ∉ t.seen := fun hmem => hseen ⟨row, hrow, hmem⟩
    simpa using hunseen

/-- **A commit leaves the rows of one run exactly if it commits alone.** -/
theorem oneRun_committed_iff (h : OneRun results s) (hnumbered : s.store.Numbered) {client : ℕ}
    {t : SaveTransaction G} (ht : s.store.transactions client = some t)
    (hwhole : ∃ a, t.inserted = (results a).segments) {s' : SaveSystem G}
    (hs' : s'.store.rows = s.store.committed t) :
    OneRun results s' ↔ (t.inserted = [] ∨ ∀ row ∈ s.store.rows, row ∈ t.seen) := by
  constructor
  · intro hone
    by_contra hno
    obtain ⟨hinserted, hunseen⟩ := not_or.mp hno
    obtain ⟨segment, hsegment⟩ := List.exists_mem_of_ne_nil _ hinserted
    obtain ⟨row, hrow⟩ := not_forall.mp hunseen
    obtain ⟨hmem, hnot⟩ := Classical.not_imp.mp hrow
    have hold : row ∈ s'.store.rows := hs' ▸ SegmentTable.mem_committed.mpr (Or.inl ⟨hmem, hnot⟩)
    have hnew : (t.run, segment) ∈ s'.store.rows :=
      hs' ▸ SegmentTable.mem_committed.mpr (Or.inr ⟨rfl, hsegment⟩)
    rcases hone with hnil | ⟨a, run, hrows⟩
    · rw [hnil] at hold
      exact absurd hold List.not_mem_nil
    · rw [hrows, List.mem_map] at hold hnew
      obtain ⟨_, -, hold⟩ := hold
      obtain ⟨_, -, hnew⟩ := hnew
      exact hnumbered.rows_ne client t ht row hmem
        ((congrArg Prod.fst hold).symm.trans (congrArg Prod.fst hnew))
  · intro hcases
    unfold OneRun
    rw [hs']
    unfold SegmentTable.committed
    cases hcases with
    | inl hnil =>
      rw [hnil, List.map_nil, List.append_nil]
      cases filter_unseen_of_oneRun h hnumbered ht with
      | inl hfilter => exact Or.inl hfilter
      | inr hfilter =>
        rw [hfilter]
        exact h
    | inr hseen =>
      obtain ⟨a, ha⟩ := hwhole
      have hfilter : s.store.rows.filter (fun row => row ∉ t.seen) = [] :=
        List.filter_eq_nil_iff.mpr (fun row hrow => by simpa using hseen row hrow)
      rw [hfilter, List.nil_append, ha]
      exact Or.inr ⟨a, t.run, rfl⟩

/-- **One event.** -/
theorem oneRun_step_iff (h : Invariant results s) (hone : OneRun results s)
    (e : ClientEvent A Unit) : OneRun results (step results s e) ↔ CommitsAlone s e := by
  rcases SharedStore.store_step SegmentTable.execute (fun a => saveResult (results a)) s e with
    ⟨hissued, hs⟩ | ⟨client, _, c, hissued, hs⟩
  · refine iff_of_true ?_ (fun client t hcommit => ?_)
    · unfold OneRun
      rw [show (step results s e).store = s.store from hs]
      exact hone
    · rw [hissued] at hcommit
      cases hcommit
  · by_cases hc : c = .commit
    · subst hc
      obtain ⟨a, ha⟩ := h.obeys.issued hissued
      obtain ⟨t, ht, hinserted⟩ := Option.map_eq_some_iff.mp ha
      have hrows : (step results s e).store.rows = s.store.committed t :=
        (congrArg SegmentTable.rows hs).trans (h.numbered.commit ht).2
      rw [oneRun_committed_iff hone h.numbered ht ⟨a, hinserted⟩ hrows]
      refine ⟨fun hcases client' t' hissued' ht' => ?_, fun halone => halone client t hissued ht⟩
      cases hissued.symm.trans hissued'
      cases ht.symm.trans ht'
      exact hcases
    · refine iff_of_true ?_ (fun client' t hcommit => ?_)
      · unfold OneRun
        rw [show (step results s e).store.rows = s.store.rows from
          (congrArg SegmentTable.rows hs).trans (SegmentTable.rows_execute_of_ne hc)]
        exact hone
      · cases hissued.symm.trans hcommit
        exact absurd rfl hc

/-- **The rows are those of one run throughout, exactly when every transaction
commits alone.** -/
theorem oneRun_iff (results : A → SavedResult G) (events : List (ClientEvent A Unit)) :
    Along (step results) (OneRun results) { store := {} } events
      ↔ EachStep (step results) CommitsAlone { store := {} } events :=
  along_iff (I := Invariant results) .start (Or.inl rfl) (fun _ e h => h.step e)
    (fun _ e h hone => oneRun_step_iff h hone e)

/-! ## Two deliveries at once -/

/-- What two runs over one recording save. -/
def twoResults (second : Bool) : SavedResult String :=
  { segments := [if second then "evt_01B hello" else "evt_01A hello"] }

/-- Both transactions delete before either commits. -/
def bothDeleteFirst : List (ClientEvent Bool Unit) :=
  [.start 0 false, .start 1 true, .command 0 (), .command 1 (), .command 0 (), .command 1 (),
    .command 0 (), .command 0 (), .command 1 (), .command 1 ()]

/-- **The union of two runs.** Both calls have returned, and the job has the
segments of both. -/
theorem union_of_two_runs :
    ((bothDeleteFirst.foldl (step twoResults) { store := {} }).clients 0).bind Program.returned
        = some ()
      ∧ ((bothDeleteFirst.foldl (step twoResults) { store := {} }).clients 1).bind Program.returned
        = some ()
      ∧ ¬ OneRun twoResults (bothDeleteFirst.foldl (step twoResults) { store := {} }) := by
  refine ⟨by decide +kernel, by decide +kernel, fun h => ?_⟩
  have hrows : (bothDeleteFirst.foldl (step twoResults) { store := {} }).store.rows
      = [(0, "evt_01A hello"), (1, "evt_01B hello")] := by decide +kernel
  rcases h with hnil | ⟨a, run, hone⟩
  · cases hrows.symm.trans hnil
  · have hlength : 2 = 1 := congrArg List.length (hrows.symm.trans hone)
    cases hlength

end SaveSystem

end Sastt
