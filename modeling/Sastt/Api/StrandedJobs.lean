import Sastt.Api.CreateJob

/-!
# Jobs that nobody will run

A client that retries a request with the same idempotency key is given the
job of the first request. That job should be finished, or waiting in the work
queue: otherwise the client waits for a job nobody will ever run
(`NoneStranded`).

The steps after the creation of a job are not covered by one handler.
Outcomes that leave the job behind are an object store that raises, a runner
that raises anything but a `SasttError`, a queue whose connection fails before
the push, and a cleanup that raises itself; and a job that is run in the
process is finished in the record the store returned, which is the stored one
for some stores only. `createJob_strands_none_iff` says that these are all.
-/

namespace Sastt

variable {S R : Type} [Field R] [LinearOrder R] {services : ApiServices S R}

/-- The tasks for a job in the work queue. -/
def AppState.tasksFor (services : ApiServices S R) (s : AppState S R) (jobId : String) : ℕ :=
  match services.taskQueue with
  | none => 0
  | some q => (s.queue.lists (q.key QUEUE_SPEAKER_BATCH)).countP (·.jobId = jobId)

/-- **The job under the key, if there is one, is finished, or it is waiting
and has exactly one task.** -/
def Settled (services : ApiServices S R) (tenantId idempotencyKey : String) (s : AppState S R) :
    Prop :=
  ∀ job, services.jobs.find s.jobs tenantId idempotencyKey = some job →
    job.state ∈ JobState.terminal ∨ (job.state = .queued ∧ s.tasksFor services job.jobId = 1)

/-- **The request strands no job**: the job that it created, if it created
one, is settled when it ends. -/
def NoneStranded (services : ApiServices S R) (request : JobRequest) (s : AppState S R) : Prop :=
  ∀ key, request.idempotencyKey = some key →
    services.jobs.find s.jobs request.tenantId key = none →
      Settled services request.tenantId key (createJob services request s).2

/-- The pipeline, if it is run in the process, finishes the stored job: it
returns with a final state, or raises a `SasttError`. -/
def PipelineFinishes (services : ApiServices S R) (input : JobInput) (jobId : String) : Prop :=
  services.jobs.sharesRecords = true ∧ services.adaptersFor input.scenario = .ok ()
    ∧ ∃ payload, pipelinePayload services input.audio = .ok payload
      ∧ match services.runPipeline input.language payload jobId with
        | .ok result => result.state ∈ JobState.terminal
        | .error e => e.isSastt = true

/-- The task is pushed, or it is refused with a `SasttError` and the job is
cancelled. -/
def QueueAnswers (services : ApiServices S R) (q : RedisTaskQueue) (request : JobRequest)
    (input : JobInput) (job : JobRecord) (s : AppState S R) : Prop :=
  let outcome := enqueueTask services q request.newTaskId request.tenantId job.jobId
    { audioKey := jobAudioKey job.jobId, scenario := request.payload "scenario",
      language := input.language } s
  outcome.2.tasksFor services job.jobId = 1
    ∨ ∃ e, outcome.1 = .error e ∧ e.isSastt = true ∧ services.deleteObject = .ok ()
      ∧ ∃ cancelled jobs, services.jobs.updateState request.tenantId job.jobId .cancelled s.jobs
        = (.ok cancelled, jobs)

/-- **What must not go wrong** after a job has been created. -/
def StepsSettle (services : ApiServices S R) (request : JobRequest) (s : AppState S R) : Prop :=
  ∀ input job jobs, checkRequest services request = .ok input →
    services.jobs.createOrGet ("job_" ++ request.newJobId) request.tenantId input.idempotencyKey
      (services.sha256 input.audio) (some services.configVersion) s.jobs = (.ok (job, true), jobs) →
    services.putObject = .ok () ∧
      match services.taskQueue with
      | none => PipelineFinishes services input job.jobId
      | some q => QueueAnswers services q request input job { s with jobs }

/-! ## The steps -/

/-- Storing the audio touches neither the jobs nor the queue. -/
theorem retainJobAudio_ok (tenantId jobId : String) (audio : Audio) (s : AppState S R)
    (hput : services.putObject = .ok ()) :
    ∃ s', retainJobAudio services tenantId jobId audio s = (.ok (jobAudioKey jobId), s')
      ∧ s'.jobs = s.jobs ∧ s'.queue = s.queue := by
  unfold retainJobAudio
  rw [hput]
  cases services.inMemoryObjects
  · exact ⟨_, rfl, rfl, rfl⟩
  · exact ⟨_, rfl, rfl, rfl⟩

theorem retainJobAudio_error {tenantId jobId : String} {audio : Audio} {e : PyError}
    (s : AppState S R) (hput : services.putObject = .error e) :
    retainJobAudio services tenantId jobId audio s = (.error e, s) := by
  unfold retainJobAudio
  rw [hput]
  rfl

/-- A job that is not final can be moved to any state. -/
theorem transition_of_not_terminal {job : JobRecord} (h : job.state ∉ JobState.terminal)
    (state : JobState) : job.transition state = .ok { job with state } := by
  unfold JobRecord.transition JobRecord.isTerminal
  rw [if_neg (fun hfinal => h (of_decide_eq_true hfinal.1))]

theorem transitionJob_of_not_terminal {job : JobRecord} (h : job.state ∉ JobState.terminal)
    (state : JobState) (s : AppState S R) :
    transitionJob services job state s
      = (.ok { job with state },
        { s with jobs := services.jobs.assign { job with state } s.jobs }) := by
  unfold transitionJob
  rw [transition_of_not_terminal h]
  rfl

/-- The job after `_run_job`, in a store that shares its records. -/
theorem find_runJob {job : JobRecord} {scenario : Option String} (language : Option String)
    (audio : Audio) {s : AppState S R} (hshares : services.jobs.sharesRecords = true)
    (hadapters : services.adaptersFor scenario = .ok ()) (hjob : job.state = .queued)
    (hfind : services.jobs.find s.jobs job.tenantId job.idempotencyKey = some job) :
    ∃ job', services.jobs.find (runJob services job scenario audio language s).2.jobs job.tenantId
        job.idempotencyKey = some job'
      ∧ job'.state = match pipelinePayload services audio with
        | .error _ => .preprocessing
        | .ok payload =>
          match services.runPipeline language payload job.jobId with
          | .ok result => result.state
          | .error e => if e.isSastt then .failed else .preprocessing := by
  have hqueued : job.state ∉ JobState.terminal := by
    rw [hjob]
    decide
  have hrunning : JobState.preprocessing ∉ JobState.terminal := by decide
  set job₁ : JobRecord := { job with state := .preprocessing } with hjob₁
  set s₁ : AppState S R := { s with jobs := services.jobs.assign job₁ s.jobs }
  have hfind₁ : services.jobs.find s₁.jobs job.tenantId job.idempotencyKey = some job₁ :=
    services.jobs.find_assign hshares hfind rfl
  have hstart : (transitionJob services job .preprocessing s) = (.ok job₁, s₁) :=
    transitionJob_of_not_terminal hqueued .preprocessing s
  unfold runJob
  rw [hadapters, Method.ofExcept_ok_bind, Method.bind_of_ok hstart]
  cases pipelinePayload services audio with
  | error e => exact ⟨job₁, hfind₁, rfl⟩
  | ok payload =>
    rw [Method.ofExcept_ok_bind]
    dsimp only
    have hid : job₁.jobId = job.jobId := rfl
    rw [hid]
    cases hrun : services.runPipeline language payload job.jobId with
    | ok result =>
      have hreturn : (Method.ofExcept (.ok result)).catchIf PyError.isSastt
          (failJob services job₁) s₁ = (.ok result, s₁) := rfl
      rw [Method.bind_of_ok hreturn, Method.modify_bind, transitionJob_of_not_terminal hrunning]
      refine ⟨{ job₁ with state := result.state }, ?_, rfl⟩
      exact services.jobs.find_assign hshares hfind₁ rfl
    | error e =>
      have hraise : (Method.ofExcept (.error e)).catchIf PyError.isSastt
          (failJob services job₁) s₁
            = if e.isSastt then failJob services job₁ e s₁ else (.error e, s₁) := rfl
      cases hsastt : e.isSastt with
      | false =>
        rw [hsastt] at hraise
        rw [Method.bind_of_error hraise]
        exact ⟨job₁, hfind₁, by simp [hsastt, hjob₁]⟩
      | true =>
        set job₂ : JobRecord := { job₁ with errorCode := some (e.code.getD "INTERNAL") }
        set s₂ : AppState S R := { s₁ with jobs := services.jobs.assign job₂ s₁.jobs }
        have hfind₂ : services.jobs.find s₂.jobs job.tenantId job.idempotencyKey = some job₂ :=
          services.jobs.find_assign hshares hfind₁ rfl
        have hfail : failJob services job₁ e s₁ = (.error e,
            { s₂ with jobs := services.jobs.assign { job₂ with state := .failed } s₂.jobs }) := by
          show (transitionJob services job₂ .failed >>= fun _ => Method.throw e) s₂ = _
          rw [Method.bind_of_ok (transitionJob_of_not_terminal hrunning .failed s₂)]
          rfl
        rw [hsastt, if_pos rfl, hfail] at hraise
        rw [Method.bind_of_error hraise]
        refine ⟨{ job₂ with state := .failed }, ?_, by simp [hsastt]⟩
        exact services.jobs.find_assign hshares hfind₂ rfl

/-- The job store is as it was. -/
def SameJobs (s t : AppState S R) : Prop := t.jobs = s.jobs

instance : Std.Refl (SameJobs (S := S) (R := R)) where
  refl _ := rfl

instance : IsTrans (AppState S R) SameJobs where
  trans _ _ _ h h' := Eq.trans h' h

section

open Method

/-- **A store that does not share its records sees nothing of a run in the
process.** -/
theorem within_runJob (hshares : services.jobs.sharesRecords = false) (job : JobRecord)
    (scenario : Option String) (audio : Audio) (language : Option String) :
    Within SameJobs (runJob services job scenario audio language) := by
  have hassign : ∀ job, Within SameJobs (assignJob services job) := fun job =>
    within_bind (within_modify (fun s => services.jobs.assign_eq hshares job s.jobs))
      (fun _ => within_pure _)
  have htransition : ∀ job state, Within SameJobs (transitionJob services job state) :=
    fun job state => within_bind (within_ofExcept _) (fun job => hassign job)
  refine within_bind (within_ofExcept _) (fun _ => within_bind (htransition _ _) (fun job => ?_))
  refine within_bind (within_ofExcept _) (fun payload => within_bind ?_ (fun result => ?_))
  · exact within_catchIf (within_ofExcept _) (fun e => within_bind (hassign _) (fun _ =>
      within_bind (htransition _ _) (fun _ => within_throw _)))
  · exact within_bind (within_modify (fun _ => rfl)) (fun _ => htransition _ _)

end

theorem settled_iff {tenantId idempotencyKey : String} {job : JobRecord} {s : AppState S R}
    (hfind : services.jobs.find s.jobs tenantId idempotencyKey = some job) :
    Settled services tenantId idempotencyKey s
      ↔ job.state ∈ JobState.terminal
        ∨ (job.state = .queued ∧ s.tasksFor services job.jobId = 1) := by
  constructor
  · exact fun h => h job hfind
  · intro h job' hfind'
    rw [hfind] at hfind'
    cases hfind'
    exact h

/-- **A run in the process settles its job exactly when the pipeline finishes
it.** -/
theorem settled_runJob_iff {input : JobInput} {job : JobRecord} {s : AppState S R}
    (hqueue : services.taskQueue = none) (hjob : job.state = .queued)
    (hfind : services.jobs.find s.jobs job.tenantId job.idempotencyKey = some job) :
    Settled services job.tenantId job.idempotencyKey
        (runJob services job input.scenario input.audio input.language s).2
      ↔ PipelineFinishes services input job.jobId := by
  set s' := (runJob services job input.scenario input.audio input.language s).2 with hs'
  -- there is no queue, so only a final state settles a job
  have hterminal : ∀ {job' : JobRecord},
      services.jobs.find s'.jobs job.tenantId job.idempotencyKey = some job' →
        (Settled services job.tenantId job.idempotencyKey s'
          ↔ job'.state ∈ JobState.terminal) := by
    intro job' hfind'
    have htasks : s'.tasksFor services job'.jobId = 0 := by
      unfold AppState.tasksFor
      rw [hqueue]
    simp [settled_iff hfind', htasks]
  have hqueued : job.state ∉ JobState.terminal := by
    rw [hjob]
    decide
  cases hshares : services.jobs.sharesRecords with
  | false =>
    have hsame : s'.jobs = s.jobs := within_runJob hshares _ _ _ _ s
    rw [hterminal (hsame ▸ hfind)]
    exact iff_of_false hqueued (fun h => nomatch hshares.symm.trans h.1)
  | true =>
    cases hadapters : services.adaptersFor input.scenario with
    | error e =>
      have herror : s' = s := by
        rw [hs']
        unfold runJob
        rw [hadapters]
        rfl
      rw [hterminal (herror ▸ hfind)]
      exact iff_of_false hqueued (fun h => nomatch hadapters.symm.trans h.2.1)
    | ok _ =>
      obtain ⟨job', hfind', hstate⟩ := find_runJob input.language input.audio hshares
        hadapters hjob hfind
      rw [hterminal hfind', hstate]
      unfold PipelineFinishes
      cases hpayload : pipelinePayload services input.audio with
      | error e =>
        have hrunning : JobState.preprocessing ∉ JobState.terminal := by decide
        refine iff_of_false hrunning ?_
        rintro ⟨-, -, payload, hsome, -⟩
        cases hsome
      | ok payload =>
        have hfinishes : (∃ payload', (Except.ok payload : Except PyError Audio) = .ok payload'
            ∧ match services.runPipeline input.language payload' job.jobId with
              | .ok result => result.state ∈ JobState.terminal
              | .error e => e.isSastt = true)
            ↔ match services.runPipeline input.language payload job.jobId with
              | .ok result => result.state ∈ JobState.terminal
              | .error e => e.isSastt = true := by
          constructor
          · rintro ⟨_, ⟨⟩, h⟩
            exact h
          · exact fun h => ⟨payload, rfl, h⟩
        rw [hfinishes]
        dsimp only
        cases services.runPipeline input.language payload job.jobId with
        | ok result => simp [hshares, hadapters]
        | error e => cases hsastt : e.isSastt <;> simp [hshares, hadapters, hsastt] <;> decide

/-! ## The queue -/

/-- What the queue may come back with: the task is pushed, or it is not and
something is raised. -/
def PushedOrRaised (q : RedisTaskQueue) (queue jobId : String) (s : QueueStore TaskPayload)
    (outcome : Except PyError (Except PyError (Task TaskPayload)) × QueueStore TaskPayload) :
    Prop :=
  (∃ task : Task TaskPayload, task.jobId = jobId
      ∧ outcome.2.lists = Function.update s.lists (q.key queue) (task :: s.lists (q.key queue)))
    ∨ (outcome.2.lists = s.lists ∧ ∀ task, outcome.1 ≠ .ok (.ok task))

theorem pushedOrRaised_enqueue (q : RedisTaskQueue) {queue taskId tenantId jobId : String}
    {payload : TaskPayload} (faults : ℕ → Option (Bool × PyError)) (s : QueueStore TaskPayload) :
    PushedOrRaised q queue jobId s
      ((q.enqueue queue taskId tenantId jobId payload).run (QueueStore.execute {} 0) faults s) := by
  unfold RedisTaskQueue.enqueue
  split
  · exact Or.inr ⟨rfl, nofun⟩
  · refine Program.run_issue_bind ?_ (fun _ => Or.inr ⟨rfl, nofun⟩) (fun _ => Or.inr ⟨rfl, nofun⟩)
    split
    · exact Or.inr ⟨rfl, nofun⟩
    · refine Program.run_issue_bind ?_ (fun _ => Or.inr ⟨rfl, nofun⟩) (fun _ => Or.inr ⟨rfl, nofun⟩)
      -- the push itself may be executed without a reply
      exact Program.run_issue_bind (Or.inl ⟨_, rfl, rfl⟩) (fun _ => Or.inr ⟨rfl, nofun⟩)
        (fun _ => Or.inl ⟨_, rfl, rfl⟩)

/-- Queueing is the program of the queue, on its part of the state. -/
theorem enqueueTask_eq (q : RedisTaskQueue) (taskId tenantId jobId : String)
    (payload : TaskPayload) (s : AppState S R) :
    let outcome := (q.enqueue QUEUE_SPEAKER_BATCH taskId tenantId jobId payload).run
      (QueueStore.execute {} 0) services.queueFaults s.queue
    enqueueTask services q taskId tenantId jobId payload s
      = (outcome.1.bind id, { s with queue := outcome.2 }) := by
  dsimp only
  cases hrun : (q.enqueue QUEUE_SPEAKER_BATCH taskId tenantId jobId payload).run
      (QueueStore.execute {} 0) services.queueFaults s.queue with
  | mk outcome queue =>
    cases outcome with
    | error e => exact Method.bind_of_error (Method.zoom_eq hrun)
    | ok task => exact Method.bind_of_ok (Method.zoom_eq hrun)

/-- **What queueing does**: the jobs are as they were, and the job has one task
more, or none and an exception is raised. -/
theorem enqueueTask_cases {q : RedisTaskQueue} (hq : services.taskQueue = some q)
    {taskId tenantId jobId : String} {payload : TaskPayload} {s s' : AppState S R}
    {r : Except PyError (Task TaskPayload)}
    (h : enqueueTask services q taskId tenantId jobId payload s = (r, s')) :
    s'.jobs = s.jobs
      ∧ (s'.tasksFor services jobId = s.tasksFor services jobId + 1
        ∨ (s'.tasksFor services jobId = s.tasksFor services jobId ∧ ∃ e, r = .error e)) := by
  have hcases : PushedOrRaised q QUEUE_SPEAKER_BATCH jobId s.queue
      ((q.enqueue QUEUE_SPEAKER_BATCH taskId tenantId jobId payload).run (QueueStore.execute {} 0)
        services.queueFaults s.queue) := pushedOrRaised_enqueue q services.queueFaults s.queue
  rw [enqueueTask_eq] at h
  cases hrun : (q.enqueue QUEUE_SPEAKER_BATCH taskId tenantId jobId payload).run
      (QueueStore.execute {} 0) services.queueFaults s.queue with
  | mk outcome queue =>
    rw [hrun] at hcases h
    cases h
    refine ⟨rfl, ?_⟩
    unfold AppState.tasksFor
    rw [hq]
    dsimp only
    rcases hcases with ⟨task, hjob, hlists⟩ | ⟨hlists, hraised⟩
    · left
      rw [hlists, Function.update_self, List.countP_cons_of_pos]
      exact decide_eq_true hjob
    · right
      rw [hlists]
      refine ⟨rfl, ?_⟩
      match outcome with
      | .error e => exact ⟨e, rfl⟩
      | .ok (.error e) => exact ⟨e, rfl⟩
      | .ok (.ok task) => exact absurd rfl (hraised task)

/-- **Queueing settles the job exactly when the queue answers.** -/
theorem settled_queueJob_iff {q : RedisTaskQueue} {request : JobRequest} {input : JobInput}
    {job : JobRecord} {s : AppState S R} {key : String} (hq : services.taskQueue = some q)
    (hjob : job.state = .queued)
    (hfind : services.jobs.find s.jobs request.tenantId key = some job)
    (hnew : s.tasksFor services job.jobId = 0) :
    Settled services request.tenantId key
        (queueJob services q request input job (jobAudioKey job.jobId) s).2
      ↔ QueueAnswers services q request input job s := by
  unfold QueueAnswers queueJob Method.catchIf
  dsimp only
  cases houtcome : enqueueTask services q request.newTaskId request.tenantId job.jobId
      { audioKey := jobAudioKey job.jobId, scenario := request.payload "scenario",
        language := input.language } s with
  | mk r s' =>
  obtain ⟨hjobs, htasks⟩ := enqueueTask_cases hq houtcome
  rw [hnew] at htasks
  -- as long as the job is queued, only its task settles it
  have hwaiting : ∀ t : AppState S R, t.jobs = s.jobs → t.queue = s'.queue →
      (Settled services request.tenantId key t ↔ s'.tasksFor services job.jobId = 1) := by
    intro t ht hqueue
    have htasks' : t.tasksFor services job.jobId = s'.tasksFor services job.jobId := by
      unfold AppState.tasksFor
      rw [hqueue]
    have hnot : JobState.queued ∉ JobState.terminal := by decide
    rw [settled_iff (ht ▸ hfind), htasks', hjob]
    simp [hnot]
  cases r with
  | ok task =>
    have htask : s'.tasksFor services job.jobId = 1 := by
      rcases htasks with htask | ⟨-, e, he⟩
      · exact htask
      · cases he
    exact iff_of_true ((hwaiting s' hjobs rfl).mpr htask) (Or.inl htask)
  | error e =>
    dsimp only
    cases hsastt : e.isSastt with
    | false =>
      refine (hwaiting s' hjobs rfl).trans ⟨Or.inl, ?_⟩
      rintro (htask | ⟨e', he, hsastt', -⟩)
      · exact htask
      · cases he
        exact absurd hsastt' (by simp [hsastt])
    | true =>
      rw [if_pos rfl]
      unfold cancelJob
      cases hdelete : services.deleteObject with
      | error e' =>
        refine (hwaiting s' hjobs rfl).trans ⟨Or.inl, ?_⟩
        rintro (htask | ⟨_, -, -, hdeleted, -⟩)
        · exact htask
        · cases hdeleted
      | ok _ =>
        rw [Method.ofExcept_ok_bind, Method.modify_bind]
        set t : AppState S R := { s' with
          objects := Function.update s'.objects (request.tenantId, jobAudioKey job.jobId) none
          jobAudioKeys := s'.jobAudioKeys.filter (·.1 ≠ job.jobId) }
        cases hupdate : services.jobs.updateState request.tenantId job.jobId .cancelled s.jobs with
        | mk cancelled jobs =>
        have hzoom : (services.jobs.updateState request.tenantId job.jobId .cancelled).zoom
            AppState.jobs (fun (s : AppState S R) jobs => { s with jobs }) t
            = (cancelled, { t with jobs }) := by
          refine Method.zoom_eq ?_
          rw [show t.jobs = s.jobs from hjobs, hupdate]
        cases cancelled with
        | error e' =>
          rw [Method.bind_of_error hzoom]
          refine (hwaiting { t with jobs } (services.jobs.updateState_error hupdate) rfl).trans
            ⟨Or.inl, ?_⟩
          rintro (htask | ⟨_, -, -, -, _, _, hcancelled⟩)
          · exact htask
          · cases hcancelled
        | ok cancelled =>
          rw [Method.bind_of_ok hzoom]
          have hfind' := services.jobs.find_updateState hupdate hfind rfl
          refine iff_of_true ((settled_iff hfind').mpr (Or.inl ?_))
            (Or.inr ⟨e, rfl, hsastt, rfl, cancelled, jobs, rfl⟩)
          show JobState.cancelled ∈ JobState.terminal
          decide

theorem queueAnswers_congr {q : RedisTaskQueue} {request : JobRequest} {input : JobInput}
    {job : JobRecord} {s t : AppState S R} (hjobs : t.jobs = s.jobs) (hqueue : t.queue = s.queue) :
    QueueAnswers services q request input job t ↔ QueueAnswers services q request input job s := by
  unfold QueueAnswers AppState.tasksFor
  rw [enqueueTask_eq, enqueueTask_eq, hjobs, hqueue]

/-- **What becomes of a job that was created.** -/
theorem settled_submitJob_iff (services : ApiServices S R) (request : JobRequest)
    (input : JobInput) (job : JobRecord) (s : AppState S R)
    (htenant : job.tenantId = request.tenantId) (hjob : job.state = .queued)
    (hfind : services.jobs.find s.jobs request.tenantId job.idempotencyKey = some job)
    (hnew : s.tasksFor services job.jobId = 0) :
    Settled services request.tenantId job.idempotencyKey (submitJob services request input job s).2
      ↔ services.putObject = .ok () ∧
        match services.taskQueue with
        | none => PipelineFinishes services input job.jobId
        | some q => QueueAnswers services q request input job s := by
  unfold submitJob
  rw [Method.modify_bind]
  set s₁ : AppState S R := { s with
    jobScenarios := Function.update s.jobScenarios job.jobId (some (input.scenario.getD "upload"))
    jobLanguages := Function.update s.jobLanguages job.jobId (some input.language) }
  cases hput : services.putObject with
  | error e =>
    rw [Method.bind_of_error (retainJobAudio_error s₁ hput)]
    refine iff_of_false (fun h => ?_) (fun h => nomatch h.1)
    have hfind₁ : services.jobs.find s₁.jobs request.tenantId job.idempotencyKey = some job := hfind
    rcases (settled_iff hfind₁).mp h with hterminal | ⟨-, htask⟩
    · rw [hjob] at hterminal
      revert hterminal
      decide
    · exact absurd (hnew.symm.trans htask) (by decide)
  | ok _ =>
    obtain ⟨s₂, hretain, hjobs, hqueue⟩ := retainJobAudio_ok request.tenantId job.jobId
      input.audio s₁ hput
    rw [Method.bind_of_ok hretain]
    have hfind₂ : services.jobs.find s₂.jobs request.tenantId job.idempotencyKey = some job :=
      hjobs ▸ hfind
    cases hq : services.taskQueue with
    | none =>
      rw [← htenant] at hfind₂ ⊢
      refine (settled_runJob_iff hq hjob hfind₂).trans ?_
      simp
    | some q =>
      dsimp only
      rw [Method.bind_pure_snd]
      have hnew₂ : s₂.tasksFor services job.jobId = 0 := by
        unfold AppState.tasksFor
        rw [hqueue]
        exact hnew
      refine (settled_queueJob_iff hq hjob hfind₂ hnew₂).trans ?_
      rw [queueAnswers_congr hjobs hqueue]
      simp only [true_and]
      exact queueAnswers_congr rfl rfl

/-! ## The request -/

/-- Whether a job was created is what the store says. -/
theorem createOrGetJob_eq {request : JobRequest} {input : JobInput} {s : AppState S R}
    {r : Except PyError (JobRecord × Bool)} {jobs : S}
    (h : services.jobs.createOrGet ("job_" ++ request.newJobId) request.tenantId
      input.idempotencyKey (services.sha256 input.audio) (some services.configVersion) s.jobs
        = (r, jobs)) :
    ∃ r', createOrGetJob services request input s = (r', { s with jobs })
      ∧ ∀ job created, r' = .ok (job, created) ↔ r = .ok (job, created) := by
  unfold createOrGetJob Method.catchIf
  rw [Method.zoom_eq h]
  cases r with
  | ok created => exact ⟨.ok created, rfl, fun _ _ => Iff.rfl⟩
  | error e =>
    dsimp only
    split
    · exact ⟨_, rfl, fun _ _ => iff_of_false nofun nofun⟩
    · exact ⟨_, rfl, fun _ _ => iff_of_false nofun nofun⟩

theorem idempotencyKey_of_checkRequest {request : JobRequest} {input : JobInput}
    (h : checkRequest services request = .ok input) :
    request.idempotencyKey = some input.idempotencyKey := by
  unfold checkRequest at h
  split at h
  · cases h
  · cases h
  · next key _ hkey =>
    cases hlanguage : requestedAsrLanguage (request.payload "language") with
    | error e =>
      rw [hlanguage] at h
      cases h
    | ok language =>
      rw [hlanguage] at h
      cases haudio : requestedAudio services request.payload with
      | error e =>
        rw [haudio] at h
        cases h
      | ok audio =>
        rw [haudio] at h
        cases h
        exact hkey

/-- **A request strands no job exactly when its steps settle it.** -/
theorem createJob_strands_none_iff (services : ApiServices S R) (request : JobRequest)
    (s : AppState S R) (hnew : s.tasksFor services ("job_" ++ request.newJobId) = 0) :
    NoneStranded services request s ↔ StepsSettle services request s := by
  -- a request that creates no job leaves nothing under a key that was free
  have hnothing : ∀ t : AppState S R, (createJob services request s).2 = t →
      (∀ key, request.idempotencyKey = some key →
        services.jobs.find s.jobs request.tenantId key = none →
          services.jobs.find t.jobs request.tenantId key = none) →
      NoneStranded services request s := by
    rintro t ht hfree key hkey hnone job hjob
    rw [ht, hfree key hkey hnone] at hjob
    cases hjob
  cases hinput : checkRequest services request with
  | error e =>
    have hend : createJob services request s = (.error e, s) := by
      unfold createJob
      rw [hinput]
      rfl
    refine iff_of_true (hnothing s (congrArg Prod.snd hend) (fun _ _ hnone => hnone)) ?_
    intro input _ _ hok
    rw [hinput] at hok
    cases hok
  | ok input =>
    have hkey := idempotencyKey_of_checkRequest hinput
    cases hstore : services.jobs.createOrGet ("job_" ++ request.newJobId) request.tenantId
        input.idempotencyKey (services.sha256 input.audio) (some services.configVersion) s.jobs with
    | mk r jobs =>
    obtain ⟨r', hcreate, hr⟩ := createOrGetJob_eq hstore
    by_cases hcreated : ∃ job, r = .ok (job, true)
    · obtain ⟨job, rfl⟩ := hcreated
      obtain ⟨hjob, hnone, hfind⟩ := services.jobs.created_eq_ok hstore
      have hr' : r' = .ok (job, true) := (hr job true).mpr rfl
      have hend : (createJob services request s).2
          = (submitJob services request input job { s with jobs }).2 := by
        unfold createJob
        rw [hinput, Method.ofExcept_ok_bind, Method.bind_of_ok (hr' ▸ hcreate)]
        dsimp only
        rw [if_pos rfl]
        rcases hsubmit : submitJob services request input job { s with jobs } with ⟨_ | _, t⟩
        · rw [Method.bind_of_error hsubmit]
        · rw [Method.bind_of_ok hsubmit]
          rfl
      have hid : job.idempotencyKey = input.idempotencyKey := by rw [hjob]; rfl
      have hsettled := settled_submitJob_iff services request input job { s with jobs }
        (by rw [hjob]; rfl) (by rw [hjob]; rfl) (by rw [hid]; exact hfind)
          (by rw [hjob]; exact hnew)
      rw [hid] at hsettled
      constructor
      · intro h input' job' jobs' hinput' hstore'
        rw [hinput] at hinput'
        cases hinput'
        rw [hstore] at hstore'
        cases hstore'
        refine hsettled.mp ?_
        rw [← hend]
        exact h _ hkey hnone
      · intro h key hkey' _
        rw [hkey] at hkey'
        cases hkey'
        rw [hend]
        exact hsettled.mpr (h input job jobs hinput hstore)
    · refine iff_of_true (hnothing { s with jobs } ?_ ?_) ?_
      · unfold createJob
        rw [hinput, Method.ofExcept_ok_bind]
        rcases r' with e | ⟨job, created⟩
        · rw [Method.bind_of_error hcreate]
        · cases created with
          | true => exact absurd ⟨job, (hr job true).mp rfl⟩ hcreated
          | false =>
            rw [Method.bind_of_ok hcreate]
            rfl
      · intro key hkey' hnone
        rw [hkey] at hkey'
        cases hkey'
        refine (services.jobs.find_of_not_created hstore ?_).trans hnone
        exact fun job hr'' => hcreated ⟨job, hr''⟩
      · intro input' job' jobs' hinput' hstore'
        rw [hinput] at hinput'
        cases hinput'
        rw [hstore] at hstore'
        cases hstore'
        exact absurd ⟨job', rfl⟩ hcreated

/-- Jobs run in the process, over a pipeline. -/
def inProcess (runPipeline : Except PyError (OfflineResult ℚ)) :
    ApiServices (List JobRecord) ℚ where
  jobs := jobRows true
  configVersion := "default"
  engineName := "real"
  loadScenario _ := .error (.http 404 "unknown demo scenario")
  decodeBase64 _ := .ok [0, 0]
  sha256 _ := "hash"
  inMemoryObjects := true
  putObject := .ok ()
  deleteObject := .ok ()
  taskQueue := none
  queueFaults _ := none
  adaptersFor _ := .ok ()
  runPipeline _ _ _ := runPipeline

/-- An upload. -/
def upload : JobRequest where
  idempotencyKey := some "key"
  tenantId := "tenant"
  payload name := if name = "audio_base64" then .str "AAA=" else .null
  newJobId := "1"
  newTaskId := "1"

/-- A pipeline that returns settles the job. -/
theorem createJob_strands_none_of_succeeded :
    NoneStranded (inProcess (.ok
      { jobId := "job_1"
        state := .succeeded
        segments := []
        configVersion := "default"
        modelVersions := {} })) upload { jobs := [] } := by
  refine (createJob_strands_none_iff _ upload { jobs := [] } rfl).mpr ?_
  intro input job jobs _ _
  refine ⟨rfl, rfl, rfl, input.audio, rfl, ?_⟩
  show JobState.succeeded ∈ JobState.terminal
  decide

/-- **A job can be stranded**: the pipeline raises an exception that is no
`SasttError`, and the job stays where it was. -/
theorem createJob_strands_a_job :
    ¬ NoneStranded (inProcess (.error (.other "CUDA out of memory"))) upload { jobs := [] } := by
  intro h
  have hjob := h "key" rfl rfl
    { JobRecord.new "job_1" "tenant" "key" "hash" (some "default") with state := .preprocessing }
    (by decide +kernel)
  revert hjob
  decide +kernel

end Sastt
