import Sastt.Workers.OfflineWorker

/-!
# Redelivery of a finished job

A queue delivers at least once, so the task of a job may come back after the
job has been finished or cancelled. The guard of `update_state` turns such a
delivery away at the first stage the pipeline reports, and nothing of its run
is saved. But the worker takes the refusal for a failure like any other: the
task is retried, and with its last attempt `_fail_job` puts an error code into
the row before the guard refuses to mark the job as failed.

This is the only write. Processed one after the other, deliveries leave the
job as it was exactly when the error code each of them ends with is the one
the job has (`along_redeliver_iff`), and however deliveries of any tasks run
at the same time and crash, the job and its segments stay as they were just as
long as no `UPDATE` of an error code gets through (`along_deliveries_iff`).
-/

namespace Sastt

open OfflineWorker

variable {G P : Type}

/-- The states of a job that needs no more work. -/
def JobState.finished : List JobState := [succeeded, degradedSucceeded, cancelled]

theorem JobState.terminal_of_finished {state : JobState} (h : state ∈ finished) :
    state ∈ terminal := by
  revert h
  cases state <;> decide

theorem JobState.ne_failed_of_finished {state : JobState} (h : state ∈ finished) :
    failed ≠ state := by
  rintro rfl
  revert h
  decide

/-- **The job and its segments are as they were.** -/
structure JobTable.Unchanged (jobId : String) (s₀ s : JobTable G) : Prop where
  row : s.jobs jobId = s₀.jobs jobId
  segments : ∀ tenantId, s.segments (tenantId, jobId) = s₀.segments (tenantId, jobId)

theorem JobTable.Unchanged.of_row {jobId : String} {s₀ s s' : JobTable G}
    (h : Unchanged jobId s₀ s) (hrow : s'.jobs jobId = s.jobs jobId)
    (hsegments : ∀ tenantId, s'.segments (tenantId, jobId) = s.segments (tenantId, jobId)) :
    Unchanged jobId s₀ s' :=
  ⟨hrow.trans h.row, fun tenantId => (hsegments tenantId).trans (h.segments tenantId)⟩

/-- The tables are as they were. -/
structure JobTable.SameTables (s₀ s : JobTable G) : Prop where
  jobs : s.jobs = s₀.jobs
  segments : s.segments = s₀.segments

theorem JobTable.SameTables.refl (s : JobTable G) : SameTables s s := ⟨rfl, rfl⟩

/-! ## One delivery after the other -/

section Alone

/-- What a program of statements does that has the database to itself. -/
def JobTable.runAlone {α : Type} (s : JobTable G) (p : JobProgram G α) : α × JobTable G :=
  p.alone (JobTable.execute () 0) s

namespace JobTable

variable {s : JobTable G} {jobId : String} {row : JobRow}

@[simp] theorem runAlone_pure {α : Type} (a : α) (s : JobTable G) :
    s.runAlone (pure a) = (a, s) := rfl

@[simp] theorem runAlone_bind {α β : Type} (p : JobProgram G α) (k : α → JobProgram G β)
    (s : JobTable G) :
    s.runAlone (p >>= k) = (s.runAlone p).2.runAlone (k (s.runAlone p).1) :=
  Program.alone_bind p k s

theorem find_own (hrow : s.jobs jobId = some row) : s.find row.tenantId jobId = some row := by
  simp [find, hrow]

/-- Reading a job changes no table. -/
theorem runAlone_get (hrow : s.jobs jobId = some row) :
    ∃ s', SameTables s s'
      ∧ s.runAlone (PostgresJobStore.get row.tenantId jobId)
        = (.ok (jobFromRow jobId row), s') := by
  have hselect : s.runAlone (PostgresJobStore.select row.tenantId jobId)
      = (some row, (s.execute () 0 (.select row.tenantId jobId)).1) := by
    show ((s.find row.tenantId jobId : Option JobRow), _) = _
    rw [find_own hrow]
  refine ⟨(s.execute () 0 (.select row.tenantId jobId)).1, ⟨rfl, rfl⟩, ?_⟩
  unfold PostgresJobStore.get
  rw [runAlone_bind, hselect]
  exact runAlone_pure _ _

/-- The refusal of the guard, for a job in a final state. -/
def terminalError (jobId : String) (row : JobRow) : PyError :=
  .valueError ("job " ++ jobId ++ " is terminal in " ++ row.state.value)

/-- **The guard refuses to move a finished job**, and changes no table. -/
theorem runAlone_updateState (hrow : s.jobs jobId = some row)
    (hterminal : row.state ∈ JobState.terminal) {state : JobState} (hne : state ≠ row.state) :
    ∃ s', SameTables s s'
      ∧ s.runAlone (PostgresJobStore.updateState row.tenantId jobId state)
        = (.error (terminalError jobId row), s') := by
  obtain ⟨s', hsame, hget⟩ := runAlone_get hrow
  have hguard : (jobFromRow jobId row).transition state
      = .error (terminalError jobId row) := by
    unfold JobRecord.transition
    exact if_pos ⟨decide_eq_true hterminal, hne⟩
  refine ⟨s', hsame, ?_⟩
  unfold PostgresJobStore.updateState
  rw [runAlone_bind, hget]
  dsimp only
  rw [hguard]
  exact runAlone_pure _ _

/-- So the first stage that is reported is refused. -/
theorem runAlone_reportStages (hrow : s.jobs jobId = some row)
    (hterminal : row.state ∈ JobState.terminal) {states : List JobState}
    (hstates : ∀ state ∈ states, state ∉ JobState.terminal) :
    ∃ s', SameTables s s'
      ∧ s.runAlone (reportStages row.tenantId jobId states)
        = (if states = [] then .ok () else .error (terminalError jobId row), s') := by
  cases states with
  | nil => exact ⟨s, SameTables.refl s, by simp [reportStages]⟩
  | cons state states =>
    have hne : state ≠ row.state := by
      rintro rfl
      exact hstates _ List.mem_cons_self hterminal
    obtain ⟨s', hsame, hrefused⟩ := runAlone_updateState hrow hterminal hne
    refine ⟨s', hsame, ?_⟩
    unfold reportStages
    rw [runAlone_bind, hrefused]
    simp

end JobTable

/-- What a run raises on a finished job: what comes before the first stage, or
the refusal. -/
def PipelineRun.failure (run : PipelineRun G) (jobId : String) (row : JobRow) : PyError :=
  match run.raises with
  | some (0, e) => e
  | _ => JobTable.terminalError jobId row

namespace JobTable

variable {s : JobTable G} {jobId : String} {row : JobRow} {task : Task P}

/-- **A delivery of a finished job raises, and changes no table.** -/
theorem runAlone_handle (hrow : s.jobs task.jobId = some row)
    (htenant : task.tenantId = row.tenantId)
    (hterminal : row.state ∈ JobState.terminal) (run : PipelineRun G) :
    ∃ s', SameTables s s'
      ∧ s.runAlone (handle task run) = (.error (run.failure task.jobId row), s') := by
  obtain ⟨s', hsame, hreport⟩ := runAlone_reportStages hrow hterminal
    (fun state hstate => run.stages_not_terminal (run.reported_subset hstate))
  refine ⟨s', hsame, ?_⟩
  unfold handle
  rw [runAlone_bind, htenant, hreport]
  have hstages : run.stages ≠ [] := by simp [PipelineRun.stages]
  unfold PipelineRun.failure PipelineRun.reported
  rcases run.raises with _ | ⟨_ | n, e⟩
  · simp [hstages]
  · simp
  · simp [hstages]

/-- **Failing a finished job writes its error code**, and nothing else. -/
theorem runAlone_failJob (hrow : s.jobs task.jobId = some row)
    (htenant : task.tenantId = row.tenantId) (hfinished : row.state ∈ JobState.finished)
    (message : String) :
    ∃ s', s'.jobs = Function.update s.jobs task.jobId
        (some { row with errorCode := some (errorCode message) })
      ∧ s'.segments = s.segments ∧ s.runAlone (OfflineWorker.failJob task message) = ((), s') := by
  obtain ⟨s₁, hsame, hget⟩ := runAlone_get hrow
  have hrow₁ : s₁.jobs task.jobId = some row := by rw [hsame.jobs, hrow]
  let marked : JobRow := { row with errorCode := some (errorCode message) }
  let s₂ := (s₁.execute () 0 (.updateError row.tenantId task.jobId (errorCode message))).1
  have hjobs₂ : s₂.jobs = Function.update s.jobs task.jobId (some marked) := by
    rw [← hsame.jobs]
    exact modify_of_find (find_own hrow₁) _
  have hsegments₂ : s₂.segments = s.segments := by
    rw [← hsame.segments]
    show (s₁.modify row.tenantId task.jobId _).segments = _
    unfold modify
    rw [find_own hrow₁]
  have hset : s.runAlone (PostgresJobStore.setError row.tenantId task.jobId (errorCode message))
      = (.ok { jobFromRow task.jobId row with errorCode := some (errorCode message) }, s₂) := by
    unfold PostgresJobStore.setError
    rw [runAlone_bind, hget]
    rfl
  have hmarked : s₂.jobs task.jobId = some marked := by rw [hjobs₂, Function.update_self]
  obtain ⟨s', hsame', hrefused⟩ := runAlone_updateState hmarked
    (JobState.terminal_of_finished hfinished) (JobState.ne_failed_of_finished hfinished)
  refine ⟨s', by rw [hsame'.jobs, hjobs₂], by rw [hsame'.segments, hsegments₂], ?_⟩
  unfold OfflineWorker.failJob
  rw [runAlone_bind, htenant, hset]
  show s₂.runAlone (PostgresJobStore.updateState row.tenantId task.jobId .failed >>= fun _ =>
    pure ()) = _
  rw [runAlone_bind, hrefused, runAlone_pure]

/-- The run of the last attempt a task has. -/
def lastRun (task : Task P) (runs : ℕ → PipelineRun G) : PipelineRun G :=
  runs (max task.attempts (RedisTaskQueue.MAX_ATTEMPTS - 1))

/-- **Processing a delivery to its end** writes the error code of the last
attempt, and nothing else. -/
theorem runAlone_deliverToEnd (hrow : s.jobs task.jobId = some row)
    (htenant : task.tenantId = row.tenantId) (hfinished : row.state ∈ JobState.finished)
    (runs : ℕ → PipelineRun G) :
    ∃ s', s'.jobs = Function.update s.jobs task.jobId (some { row with
        errorCode := some (errorCode ((lastRun task runs).failure task.jobId row).text) })
      ∧ s'.segments = s.segments ∧ s.runAlone (deliverToEnd task runs) = ((), s') := by
  obtain ⟨left, hleft⟩ : ∃ left, left = RedisTaskQueue.MAX_ATTEMPTS - task.attempts := ⟨_, rfl⟩
  induction left using Nat.strong_induction_on generalizing task s with
  | _ left ih =>
    obtain ⟨s₁, hsame, hraised⟩ := runAlone_handle hrow htenant
      (JobState.terminal_of_finished hfinished) (runs task.attempts)
    have hrow₁ : s₁.jobs task.jobId = some row := by rw [hsame.jobs, hrow]
    rw [deliverToEnd, runAlone_bind, hraised]
    by_cases hlast : IsLast task
    · have hrun : lastRun task runs = runs task.attempts := by
        unfold lastRun
        congr 1
        unfold IsLast at hlast
        omega
      obtain ⟨s', hjobs, hsegments, hfail⟩ := runAlone_failJob hrow₁ htenant hfinished
        ((runs task.attempts).failure task.jobId row).text
      refine ⟨s', by rw [hjobs, hsame.jobs, hrun], by rw [hsegments, hsame.segments], ?_⟩
      simpa [hlast] using hfail
    · have hrun : lastRun task.again runs = lastRun task runs := by
        unfold lastRun Task.again
        congr 1
        unfold IsLast at hlast
        simp only
        omega
      have hless : RedisTaskQueue.MAX_ATTEMPTS - task.again.attempts < left := by
        unfold IsLast at hlast
        show RedisTaskQueue.MAX_ATTEMPTS - (task.attempts + 1) < left
        omega
      have hrow' : s₁.jobs task.again.jobId = some row := hrow₁
      obtain ⟨s', hjobs, hsegments, hrest⟩ := ih _ hless hrow' htenant rfl
      rw [hrun] at hjobs
      refine ⟨s', hjobs.trans (by rw [hsame.jobs]; rfl), hsegments.trans hsame.segments, ?_⟩
      simpa [hlast] using hrest

end JobTable

/-- **A redelivery of the task of a job**, with what the pipeline does on each
attempt. -/
structure Redelivery (G P : Type) (tenantId jobId : String) where
  task : Task P
  runs : ℕ → PipelineRun G
  of_job : task.jobId = jobId
  of_tenant : task.tenantId = tenantId

/-- The error code that is written in the end. -/
def Redelivery.lastErrorCode {tenantId jobId : String} (d : Redelivery G P tenantId jobId)
    (row : JobRow) : String :=
  errorCode ((JobTable.lastRun d.task d.runs).failure jobId row).text

/-- Process a redelivery to its end. -/
def JobTable.redeliver {tenantId jobId : String} (s : JobTable G)
    (d : Redelivery G P tenantId jobId) : JobTable G :=
  (s.runAlone (deliverToEnd d.task d.runs)).2

/-- **Redeliveries that are processed one after the other are harmless exactly
if** each ends with the error code that the job has. -/
theorem along_redeliver_iff {s₀ : JobTable G} {jobId : String} {row : JobRow}
    (hrow : s₀.jobs jobId = some row) (hfinished : row.state ∈ JobState.finished)
    (ds : List (Redelivery G P row.tenantId jobId)) :
    Along JobTable.redeliver (JobTable.Unchanged jobId s₀) s₀ ds
      ↔ ∀ d ∈ ds, row.errorCode = some (d.lastErrorCode row) := by
  have hspec : ∀ (s : JobTable G) (r : JobRow) (d : Redelivery G P row.tenantId jobId),
      s.jobs jobId = some r → r.tenantId = row.tenantId → r.state = row.state →
      (s.redeliver d).jobs jobId = some { r with errorCode := some (d.lastErrorCode r) }
        ∧ (s.redeliver d).segments = s.segments := by
    rintro s r ⟨task, runs, rfl, htenant⟩ hr htenant' hstate
    obtain ⟨s', hjobs, hsegments, hrun⟩ := JobTable.runAlone_deliverToEnd hr
      (htenant.trans htenant'.symm) (hstate ▸ hfinished) runs
    unfold JobTable.redeliver
    rw [hrun]
    exact ⟨by rw [hjobs, Function.update_self]; rfl, hsegments⟩
  rw [along_iff (I := fun s => ∃ r, s.jobs jobId = some r ∧ r.tenantId = row.tenantId
      ∧ r.state = row.state) (C := fun _ d => row.errorCode = some (d.lastErrorCode row))
    ⟨row, hrow, rfl, rfl⟩ ⟨rfl, fun _ => rfl⟩]
  · constructor
    · intro h d hd
      obtain ⟨pre, post, rfl⟩ := List.append_of_mem hd
      exact h pre d ⟨post, by simp⟩
    · intro h pre d hpre
      exact h d (hpre.subset (by simp))
  · rintro s d ⟨r, hr, htenant, hstate⟩
    exact ⟨_, (hspec s r d hr htenant hstate).1, htenant, hstate⟩
  · rintro s d - hsame
    have hr : s.jobs jobId = some row := hsame.row.trans hrow
    obtain ⟨hjobs, hsegments⟩ := hspec s row d hr rfl rfl
    constructor
    · intro h
      have heq := hjobs.symm.trans (h.row.trans hrow)
      exact (congrArg JobRow.errorCode (Option.some.inj heq)).symm
    · intro h
      refine ⟨?_, fun tenantId => ?_⟩
      · rw [hjobs, hrow, ← h]
      · rw [hsegments]
        exact hsame.segments tenantId

end Alone

/-! ## Deliveries at the same time -/

section Together

/-- A delivery of a task, with what the pipeline does. -/
structure Delivery (G P : Type) where
  task : Task P
  run : PipelineRun G

/-- What a worker does about it. -/
def Delivery.program (d : Delivery G P) : JobProgram G Unit := deliver d.task d.run

/-- One event, of workers that process deliveries of any tasks. -/
def JobSystem.stepDelivery (s : JobSystem G) (e : ClientEvent (Delivery G P) Unit) :
    JobSystem G :=
  SharedStore.step JobTable.execute Delivery.program s e

/-- **The event marks the job as failed**: it is the `UPDATE` of a `set_error`,
with another error code than the job has. -/
def MarksFailed (jobId : String) (s : JobSystem G) (e : ClientEvent (Delivery G P) Unit) : Prop :=
  ∃ client tenantId code row, s.issued e = some (client, (), .updateError tenantId jobId code)
    ∧ s.store.find tenantId jobId = some row ∧ row.errorCode ≠ some code

/-- What a worker may write, knowing the job as it was read last: the outcome
of an `update_state` the guard allows, and the result of a job that is not in
a final state. -/
def deliveryUpdates : Discipline (JobCommand G) JobReply (Option JobRecord) where
  allows known
    | .replaceResult _ jobId _ _ _ _ =>
      ∃ job, known = some job ∧ job.jobId = jobId ∧ job.state ∉ JobState.terminal
    | c => guardedUpdates.allows known c
  learn := guardedUpdates.learn

variable {tenantId jobId : String} {known : Option JobRecord}

/-- What `update_state` leaves its caller with: the job it read, which the
guard allowed to move. -/
theorem wp_updateState {state : JobState}
    {Q : Option JobRecord → Except PyError JobRecord → Prop}
    (herror : ∀ known e, Q known (.error e))
    (hok : ∀ job job', job.jobId = jobId → (job.state ∈ JobState.terminal → state = job.state) →
      Q (some job) (.ok job')) :
    (PostgresJobStore.updateState tenantId jobId state : JobProgram G _).Wp deliveryUpdates Q
      known := by
  refine Program.wp_bind (Program.wp_bind (Program.wp_issue True.intro (fun row => ?_)))
  cases row with
  | none => exact herror _ _
  | some row =>
    refine Program.wp_pure ?_
    dsimp only
    cases hjob : (jobFromRow jobId row).transition state with
    | error e => exact herror _ _
    | ok job' =>
      obtain ⟨rfl, hguard⟩ := JobRecord.transition_eq_ok hjob
      exact Program.wp_bind (Program.wp_issue ⟨_, rfl, rfl, rfl, hguard⟩
        (fun _ => hok _ _ rfl hguard))

/-- The client knows of a job that is in no final state. -/
def KnowsOpen (jobId : String) (known : Option JobRecord) : Prop :=
  ∃ job, known = some job ∧ job.jobId = jobId ∧ job.state ∉ JobState.terminal

/-- **Whoever has reported a stage knows that the job was open.** -/
theorem wp_reportStages {states : List JobState}
    (hstates : ∀ state ∈ states, state ∉ JobState.terminal)
    {Q : Option JobRecord → Except PyError Unit → Prop} (herror : ∀ known e, Q known (.error e))
    (hok : ∀ known', (states = [] ∧ known' = known) ∨ KnowsOpen jobId known' →
      Q known' (.ok ())) :
    (reportStages tenantId jobId states : JobProgram G _).Wp deliveryUpdates Q known := by
  induction states generalizing known with
  | nil => exact hok known (Or.inl ⟨rfl, rfl⟩)
  | cons state states ih =>
    refine Program.wp_bind (wp_updateState (fun _ _ => herror _ _) (fun job _ hid hguard => ?_))
    have hopen : KnowsOpen jobId (some job) := by
      refine ⟨job, rfl, hid, fun hterminal => hstates state List.mem_cons_self ?_⟩
      rw [hguard hterminal]
      exact hterminal
    refine ih (fun s hs => hstates s (List.mem_cons_of_mem state hs)) (fun known' hknown => ?_)
    refine hok known' (Or.inr ?_)
    rcases hknown with ⟨-, rfl⟩ | hknown
    · exact hopen
    · exact hknown

/-- **A worker saves results of open jobs only**, and moves a job as the guard
allows. -/
theorem obeys_deliver (d : Delivery G P) (known : Option JobRecord) :
    d.program.Obeys deliveryUpdates known := by
  have hfail : ∀ (task : Task P) (message : String) (known : Option JobRecord),
      (OfflineWorker.failJob (G := G) task message).Wp deliveryUpdates (fun _ _ => True) known := by
    intro task message known
    refine Program.wp_bind (Program.wp_bind (Program.wp_bind
      (Program.wp_issue True.intro (fun row => ?_))))
    cases row with
    | none => exact True.intro
    | some row =>
      refine Program.wp_bind (Program.wp_issue True.intro (fun _ => ?_))
      exact Program.wp_bind (wp_updateState (fun _ _ => True.intro) (fun _ _ _ _ => True.intro))
  have hraised : ∀ (e : PyError) (known : Option JobRecord),
      (if IsLast d.task then OfflineWorker.failJob d.task e.text else pure () :
        JobProgram G Unit).Wp
        deliveryUpdates (fun _ _ => True) known := by
    intro e known
    split
    · exact hfail _ _ _
    · exact True.intro
  refine Program.wp_bind (Program.wp_bind (wp_reportStages
    (fun state hstate => d.run.stages_not_terminal (d.run.reported_subset hstate))
    (fun known e => hraised e known) (fun known' hknown => ?_)))
  unfold PipelineRun.reported at hknown
  cases hraises : d.run.raises with
  | some raised => exact hraised _ _
  | none =>
    rw [hraises] at hknown
    have hopen : KnowsOpen d.task.jobId known' :=
      hknown.resolve_left (fun h => by simp [PipelineRun.stages] at h)
    refine Program.wp_bind (Program.wp_bind (Program.wp_issue hopen (fun _ => ?_)))
    exact Program.wp_bind (wp_updateState (fun known e => hraised e known)
      (fun _ _ _ _ => True.intro))

/-! ### What a statement can do to a finished job -/

theorem JobTable.modify_jobs_of_ne {s : JobTable G} {otherId : String} (h : otherId ≠ jobId)
    (set : JobRow → JobRow) : (s.modify tenantId otherId set).jobs jobId = s.jobs jobId := by
  unfold JobTable.modify
  cases s.find tenantId otherId with
  | none => rfl
  | some row => exact Function.update_of_ne h.symm _ _

@[simp] theorem JobTable.modify_segments (s : JobTable G) (tenantId jobId : String)
    (set : JobRow → JobRow) : (s.modify tenantId jobId set).segments = s.segments := by
  unfold JobTable.modify
  cases s.find tenantId jobId <;> rfl

/-- What `modify` makes of the row. -/
theorem JobTable.modify_jobs_self {s : JobTable G} {row : JobRow} (hrow : s.jobs jobId = some row)
    (tenantId : String) (set : JobRow → JobRow) :
    (s.modify tenantId jobId set).jobs jobId
      = some (if row.tenantId = tenantId then set row else row) := by
  by_cases h : row.tenantId = tenantId
  · have hfind : s.find tenantId jobId = some row := by simp [JobTable.find, hrow, h]
    rw [JobTable.modify_of_find hfind, Function.update_self, if_pos h]
  · have hfind : s.find tenantId jobId = none := by simp [JobTable.find, hrow, h]
    rw [JobTable.modify_of_find_none hfind, hrow, if_neg h]

/-- **Everybody knows that the job is finished**: the workers keep to the
discipline, and whoever has read the job has seen its final state. -/
structure JobSystem.Finished (jobId : String) (state : JobState) (s : JobSystem G) : Prop where
  obeys : s.Obeys deliveryUpdates JobTable.read
  reads : ∀ client job, s.store.read client = some job → job.jobId = jobId → job.state = state
  row : ∃ row, s.store.jobs jobId = some row ∧ row.state = state

/-- What a client has read of the job after a statement was read by it before,
or is the row. -/
theorem read_execute_cases {s : JobTable G} {client client' : ℕ} {c : JobCommand G}
    {job : JobRecord} (h : (s.execute () client c).1.read client' = some job) :
    s.read client' = some job
      ∨ ∃ row, s.jobs job.jobId = some row ∧ job = jobFromRow job.jobId row := by
  by_cases hclient : client' = client
  · subst hclient
    rw [JobTable.read_execute] at h
    cases c with
    | select tenantId jobId =>
      obtain ⟨row, hfind, rfl⟩ := Option.map_eq_some_iff.mp h
      exact Or.inr ⟨row, JobTable.find_eq_some hfind, rfl⟩
    | update _ _ _ _ _ _ => exact Or.inl h
    | updateError _ _ _ => exact Or.inl h
    | replaceResult _ _ _ _ _ _ => exact Or.inl h
  · rw [JobTable.read_execute_other s c hclient] at h
    exact Or.inl h

/-- A row that a statement is not for stays. -/
theorem JobTable.modify_jobs_cases {s : JobTable G} {row : JobRow}
    (hrow : s.jobs jobId = some row) (tenantId otherId : String) (set : JobRow → JobRow) :
    (s.modify tenantId otherId set).jobs jobId = some row
      ∨ otherId = jobId ∧ row.tenantId = tenantId
        ∧ (s.modify tenantId otherId set).jobs jobId = some (set row) := by
  by_cases hid : otherId = jobId
  · subst hid
    rw [JobTable.modify_jobs_self hrow]
    by_cases htenant : row.tenantId = tenantId
    · exact Or.inr ⟨rfl, htenant, by rw [if_pos htenant]⟩
    · exact Or.inl (by rw [if_neg htenant])
  · exact Or.inl (by rw [JobTable.modify_jobs_of_ne hid, hrow])

/-- **One statement, on a finished job.** It is issued by a worker that knows
the job as finished, so it leaves the state and the segments; and it leaves
the row unless it writes an outcome or an error code. -/
theorem JobSystem.Finished.execute {s : JobSystem G} {state : JobState} {row : JobRow}
    (h : s.Finished jobId state) (hterminal : state ∈ JobState.terminal)
    (hrow : s.store.jobs jobId = some row) {e : ClientEvent (Delivery G P) Unit} {client : ℕ}
    {c : JobCommand G} (hissued : s.issued e = some (client, (), c)) :
    (∀ tenantId, (s.store.execute () client c).1.segments (tenantId, jobId)
        = s.store.segments (tenantId, jobId))
      ∧ ((s.store.execute () client c).1.jobs jobId = some row
        ∨ (∃ job, s.store.read client = some job ∧ job.jobId = jobId
          ∧ (s.store.execute () client c).1.jobs jobId = some { row with
            state
            errorCode := job.errorCode
            warnings := job.warnings
            degradedMode := job.degraded })
        ∨ ∃ code, c = .updateError row.tenantId jobId code
          ∧ (s.store.execute () client c).1.jobs jobId
            = some { row with errorCode := some code }) := by
  have hallowed := h.obeys.issued hissued
  cases c with
  | select tenantId' jobId' => exact ⟨fun _ => rfl, Or.inl hrow⟩
  | update tenantId' jobId' state' errorCode' warnings' degraded' =>
    refine ⟨fun tenantId => by
      show (s.store.modify _ _ _).segments _ = _
      simp, ?_⟩
    show (s.store.modify _ _ _).jobs jobId = _ ∨ _
    refine (JobTable.modify_jobs_cases hrow tenantId' jobId' _).imp_right ?_
    rintro ⟨rfl, rfl, hjobs⟩
    obtain ⟨job, hread, hjobId, houtcome, hguard⟩ := hallowed
    have hstate := h.reads client job hread hjobId
    obtain ⟨rfl, rfl, rfl⟩ := houtcome
    refine Or.inl ⟨job, hread, hjobId, hjobs.trans ?_⟩
    rw [hguard (hstate ▸ hterminal), hstate]
  | updateError tenantId' jobId' code =>
    refine ⟨fun tenantId => by
      show (s.store.modify _ _ _).segments _ = _
      simp, ?_⟩
    show (s.store.modify _ _ _).jobs jobId = _ ∨ _
    refine (JobTable.modify_jobs_cases hrow tenantId' jobId' _).imp_right ?_
    rintro ⟨rfl, rfl, hjobs⟩
    exact Or.inr ⟨code, rfl, hjobs⟩
  | replaceResult tenantId' jobId' sessionId segments warnings degraded =>
    obtain ⟨job, hread, hjobId, hopen⟩ := hallowed
    have hid : jobId' ≠ jobId := by
      rintro rfl
      rw [h.reads client job hread hjobId] at hopen
      exact hopen hterminal
    refine ⟨fun tenantId => ?_, Or.inl ?_⟩
    · show (JobTable.modify _ _ _ _).segments _ = _
      rw [JobTable.modify_segments]
      exact Function.update_of_ne (fun heq => hid (congrArg Prod.snd heq).symm) _ _
    · show (JobTable.modify _ _ _ _).jobs jobId = _
      rw [JobTable.modify_jobs_of_ne hid]
      exact hrow

/-- **The job stays finished**, and everybody knows. -/
theorem JobSystem.Finished.step {s : JobSystem G} {state : JobState} (h : s.Finished jobId state)
    (hterminal : state ∈ JobState.terminal) (e : ClientEvent (Delivery G P) Unit) :
    (s.stepDelivery e).Finished jobId state := by
  have hobeys : (s.stepDelivery e).Obeys deliveryUpdates JobTable.read :=
    SharedStore.Obeys.step (fun _ d _ => obeys_deliver d _)
      (fun _ client s c => JobTable.read_execute s client c)
      (fun _ client s c client' hc => JobTable.read_execute_other s c hc) h.obeys
  rcases SharedStore.store_step JobTable.execute Delivery.program s e with
    ⟨-, hstore⟩ | ⟨client, _, c, hissued, hstore⟩
  · refine ⟨hobeys, fun client job hread => ?_, ?_⟩
    · exact h.reads client job ((congrFun (congrArg JobTable.read hstore) client).symm.trans hread)
    · obtain ⟨row, hrow, hstate⟩ := h.row
      exact ⟨row, (congrFun (congrArg JobTable.jobs hstore) jobId).trans hrow, hstate⟩
  · obtain ⟨row, hrow, hstate⟩ := h.row
    refine ⟨hobeys, fun client' job hread hid => ?_, ?_⟩
    · rcases read_execute_cases
        ((congrFun (congrArg JobTable.read hstore) client').symm.trans hread) with
        hold | ⟨row', hrow', hjob⟩
      · exact h.reads client' job hold hid
      · rw [hid, hrow] at hrow'
        cases hrow'
        rw [hjob]
        exact hstate
    · have hjobs := congrFun (congrArg JobTable.jobs hstore) jobId
      obtain ⟨-, hsame | ⟨job, -, -, hset⟩ | ⟨code, -, hset⟩⟩ :=
        h.execute hterminal hrow hissued
      · exact ⟨row, hjobs.trans hsame, hstate⟩
      · exact ⟨_, hjobs.trans hset, rfl⟩
      · exact ⟨_, hjobs.trans hset, hstate⟩

/-- The job is as it was, and so is whatever has been read of it. -/
structure JobSystem.Settled (jobId : String) (s₀ : JobTable G) (row : JobRow) (s : JobSystem G) :
    Prop where
  unchanged : JobTable.Unchanged jobId s₀ s.store
  read : ∀ client job, s.store.read client = some job → job.jobId = jobId →
    job = jobFromRow jobId row

/-- **Deliveries leave a finished job as it was exactly as long as none marks
it as failed.** -/
theorem along_deliveries_iff {jobs : String → Option JobRow}
    {segments : String × String → List (String × G)} {row : JobRow}
    (hrow : jobs jobId = some row) (hfinished : row.state ∈ JobState.finished)
    (events : List (ClientEvent (Delivery G P) Unit)) :
    Along JobSystem.stepDelivery (fun s => JobTable.Unchanged jobId { jobs, segments } s.store)
        { store := { jobs, segments } } events
      ↔ EachStep JobSystem.stepDelivery (fun s e => ¬ MarksFailed jobId s e)
        { store := { jobs, segments } } events := by
  have hterminal := JobState.terminal_of_finished hfinished
  have hsettled : ∀ (s : JobSystem G) (e : ClientEvent (Delivery G P) Unit),
      s.Settled jobId { jobs, segments } row →
      JobTable.Unchanged jobId { jobs, segments } (s.stepDelivery e).store →
      (s.stepDelivery e).Settled jobId { jobs, segments } row := by
    intro s e h hnext
    refine ⟨hnext, fun client job hread hid => ?_⟩
    rcases SharedStore.store_step JobTable.execute Delivery.program s e with
      ⟨-, hstore⟩ | ⟨client', _, c, -, hstore⟩
    · exact h.read client job ((congrFun (congrArg JobTable.read hstore) client).symm.trans hread)
        hid
    · rcases read_execute_cases
        ((congrFun (congrArg JobTable.read hstore) client).symm.trans hread) with
        hold | ⟨row', hrow', hjob⟩
      · exact h.read client job hold hid
      · rw [hid, h.unchanged.row] at hrow'
        rw [hjob, hid, ← Option.some.inj (hrow.symm.trans hrow')]
  have hnew : JobSystem.Settled jobId { jobs, segments } row
      ({ store := { jobs, segments } } : JobSystem G) :=
    ⟨⟨rfl, fun _ => rfl⟩, fun _ _ hread => nomatch hread⟩
  rw [along_strengthen hnew (fun s h => h.unchanged) hsettled]
  refine along_iff (I := JobSystem.Finished jobId row.state) ?_ hnew
    (fun s e h => h.step hterminal e) (fun s e hI hP => ?_)
  · exact ⟨fun _ _ hp => (nomatch hp), fun _ _ hread => (nomatch hread), row, hrow, rfl⟩
  · have hown : s.store.jobs jobId = some row := hP.unchanged.row.trans hrow
    constructor
    · rintro hnext ⟨client, tenantId, code, row', hissued, hfind, hne⟩
      obtain rfl : row = row' := Option.some.inj (hown.symm.trans (JobTable.find_eq_some hfind))
      rcases SharedStore.store_step JobTable.execute Delivery.program s e with
        ⟨hnone, -⟩ | ⟨client', _, c, hsome, hstore⟩
      · rw [hissued] at hnone
        cases hnone
      · rw [hissued] at hsome
        cases hsome
        have hjobs : (s.stepDelivery e).store.jobs jobId
            = some { row with errorCode := some code } :=
          ((congrFun (congrArg JobTable.jobs hstore) jobId).trans
            (congrFun (JobTable.modify_of_find hfind _) jobId)).trans (Function.update_self ..)
        have heq := (hjobs.symm.trans hnext.unchanged.row).trans hrow
        exact hne (congrArg JobRow.errorCode (Option.some.inj heq)).symm
    · intro hmarks
      refine hsettled s e hP ?_
      rcases SharedStore.store_step JobTable.execute Delivery.program s e with
        ⟨-, hstore⟩ | ⟨client, _, c, hissued, hstore⟩
      · rw [show (s.stepDelivery e).store = s.store from hstore]
        exact hP.unchanged
      · obtain ⟨hsegments, hjobs⟩ := hI.execute hterminal hown hissued
        refine hP.unchanged.of_row ?_ (fun tenantId => ?_)
        · rw [show (s.stepDelivery e).store = _ from hstore, hown]
          rcases hjobs with hsame | ⟨job, hread, hid, hset⟩ | ⟨code, rfl, hset⟩
          · exact hsame
          · obtain rfl := hP.read client job hread hid
            exact hset
          · have hcode : row.errorCode = some code := by
              by_contra hne
              exact hmarks ⟨client, _, code, row, hissued, JobTable.find_own hown, hne⟩
            rw [hset, ← hcode]
        · rw [show (s.stepDelivery e).store = _ from hstore]
          exact hsegments tenantId

/-- **Redelivery is harmless exactly when it does not end in an error code**:
processed one after the other, when each ends with the error code the job has,
and processed at the same time, as long as none marks the job as failed. -/
theorem redelivery_harmless_iff {jobs : String → Option JobRow}
    {segments : String × String → List (String × G)} {row : JobRow}
    (hrow : jobs jobId = some row) (hfinished : row.state ∈ JobState.finished) :
    (∀ ds : List (Redelivery G P row.tenantId jobId),
      Along JobTable.redeliver (JobTable.Unchanged jobId { jobs, segments }) { jobs, segments } ds
        ↔ ∀ d ∈ ds, row.errorCode = some (d.lastErrorCode row))
      ∧ ∀ events : List (ClientEvent (Delivery G P) Unit),
        Along JobSystem.stepDelivery
            (fun s => JobTable.Unchanged jobId { jobs, segments } s.store)
            { store := { jobs, segments } } events
          ↔ EachStep JobSystem.stepDelivery (fun s e => ¬ MarksFailed jobId s e)
            { store := { jobs, segments } } events :=
  ⟨along_redeliver_iff hrow hfinished, along_deliveries_iff hrow hfinished⟩

/-- A job that has been transcribed, with the error code it has. -/
def succeededJob (errorCode : Option String) : JobRow where
  tenantId := "tenant"
  idempotencyKey := "key"
  state := .succeeded
  inputHash := "hash"
  errorCode

/-- The jobs table with this job only. -/
def succeededJobs (errorCode : Option String) (jobId : String) : Option JobRow :=
  if jobId = "job" then some (succeededJob errorCode) else none

/-- Its task, whose worker has died before the `ack`. -/
def unackedTask : Redelivery ℕ Unit "tenant" "job" where
  task := { taskId := "task", queue := "speaker_batch", tenantId := "tenant", jobId := "job"
            payload := () }
  runs := fun _ => {}
  of_job := rfl
  of_tenant := rfl

/-- A job that has the error code of a refusal keeps it. -/
theorem redelivery_harmless_iff_marked :
    Along JobTable.redeliver
        (JobTable.Unchanged "job" { jobs := succeededJobs (some "MODEL_NOT_READY") })
        { jobs := succeededJobs (some "MODEL_NOT_READY") } [unackedTask, unackedTask]
      ∧ Along JobSystem.stepDelivery
        (fun s => JobTable.Unchanged "job"
          { jobs := succeededJobs (some "MODEL_NOT_READY") } s.store)
        { store := { jobs := succeededJobs (some "MODEL_NOT_READY") } }
        [.start 0 (⟨unackedTask.task, {}⟩ : Delivery ℕ Unit), .crash 0] := by
  have hrow : succeededJobs (some "MODEL_NOT_READY") "job"
      = some (succeededJob (some "MODEL_NOT_READY")) := rfl
  obtain ⟨halone, htogether⟩ :=
    @redelivery_harmless_iff ℕ Unit _ _ (fun _ => []) _ hrow (by decide)
  refine ⟨(halone [unackedTask, unackedTask]).mpr ?_, (htogether _).mpr ?_⟩
  · have hcode : (succeededJob (some "MODEL_NOT_READY")).errorCode
        = some (unackedTask.lastErrorCode (succeededJob (some "MODEL_NOT_READY"))) := by
      decide +kernel
    exact List.forall_mem_cons.mpr ⟨hcode, List.forall_mem_singleton.mpr hcode⟩
  · rintro pre e hpre ⟨client, tenantId, code, row, hissued, -⟩
    have hmem : e ∈ [.start 0 (⟨unackedTask.task, {}⟩ : Delivery ℕ Unit), .crash 0] :=
      hpre.subset (by simp)
    simp only [List.mem_cons, List.not_mem_nil, or_false] at hmem
    rcases hmem with rfl | rfl <;> cases hissued

/-- **A finished job whose task comes back once more** ends with an error
code. -/
theorem succeeded_job_marked :
    ¬ Along JobTable.redeliver (JobTable.Unchanged "job" { jobs := succeededJobs none })
      { jobs := succeededJobs none } [unackedTask] := by
  intro h
  have hrow : ({ jobs := succeededJobs none } : JobTable ℕ).jobs "job"
      = some (succeededJob none) := rfl
  have hcode := (along_redeliver_iff hrow (by decide) [unackedTask]).mp h
    unackedTask List.mem_cons_self
  cases hcode

end Together

end Sastt
