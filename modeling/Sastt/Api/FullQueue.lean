import Sastt.Api.ServedResults

/-!
# A full queue

A queue that is at its bound refuses a task, and the request the task was for
is undone: the audio is deleted, the job is cancelled, and the client is told
that the queue is overloaded (`RefusedCleanly`). Three layers take part in it –
the queue raises, the handler of the request cleans up, the handler of
exceptions makes a response of the code of the class – and they do not agree on
the class. The queue raises one of its own that has no code, so the response is
that of a bad request, at every full queue (`createJob_full_queue`). All the
rest is as it should be, and no history of requests takes the queue beyond its
bound.
-/

namespace Sastt

open Method

/-! ## Responses -/

/-- The body of a response. -/
inductive ResponseBody
  | job (view : JobView)
  /-- `SasttError.to_dict`. -/
  | error (errorCode : Option String) (message : String) (details : List (String × DetailValue))
  | detail (text : String)
  | empty
deriving DecidableEq, Repr

structure Response where
  statusCode : ℕ
  body : ResponseBody
deriving DecidableEq, Repr

/-- `_domain_error`. -/
def domainError (cls : SasttErrorClass) (message : String)
    (details : List (String × DetailValue)) : Response where
  statusCode :=
    if cls.code = some "MODEL_NOT_READY" then 503
    else if cls.code = some "QUEUE_OVERLOADED" then 429
    else 400
  body := .error cls.code message details

/-- What a client gets for a request for a job. -/
def respond : Except PyError JobView → Response
  | .ok view => { statusCode := 201, body := .job view }
  | .error (.sastt cls message details) => domainError cls message details
  | .error (.http status text) => { statusCode := status, body := .detail text }
  | .error _ => { statusCode := 500, body := .empty }

/-- A response bears a code only if the exception does. -/
theorem code_of_respond_eq {r : Except PyError JobView} {status : ℕ} {code message : String}
    {details : List (String × DetailValue)}
    (h : respond r = { statusCode := status, body := .error (some code) message details }) :
    ∃ e, r = .error e ∧ e.code = some code := by
  match r with
  | .ok view => cases h
  | .error (.sastt cls _ _) =>
    have hbody := congrArg Response.body h
    exact ⟨_, rfl, (ResponseBody.error.inj hbody).1⟩
  | .error (.http _ _) => cases h
  | .error (.valueError _) => cases h
  | .error (.keyError _) => cases h
  | .error (.other _) => cases h
  | .error .diverges => cases h

/-! ## Refusing a request -/

variable {S R : Type} [Field R] [LinearOrder R] {services : ApiServices S R}

/-- `depth` of the queue of the jobs. -/
def AppState.depth (s : AppState S R) (q : RedisTaskQueue) : ℕ :=
  (s.queue.lists (q.key QUEUE_SPEAKER_BATCH)).length

/-- **A request is undone**: its job is cancelled, its audio is gone, and the
queue is as it was. -/
structure Undone (services : ApiServices S R) (request : JobRequest) (s t : AppState S R) :
    Prop where
  job : ∃ key job, request.idempotencyKey = some key
    ∧ services.jobs.find t.jobs request.tenantId key = some job
    ∧ job.jobId = "job_" ++ request.newJobId ∧ job.state = .cancelled
  object : t.objects (request.tenantId, jobAudioKey ("job_" ++ request.newJobId)) = none
  audioKey : ∀ entry ∈ t.jobAudioKeys, entry.1 ≠ "job_" ++ request.newJobId
  queue : t.queue = s.queue

/-- **The request is refused cleanly**: it is undone, and the client is told
that the queue is overloaded. -/
def RefusedCleanly (services : ApiServices S R) (request : JobRequest) (s : AppState S R) :
    Prop :=
  (∃ message details, respond (createJob services request s).1
      = { statusCode := 429, body := .error (some "QUEUE_OVERLOADED") message details })
    ∧ Undone services request s (createJob services request s).2

/-- The exception of a queue that is full. -/
def overloaded (q : RedisTaskQueue) (depth : ℕ) : PyError :=
  .sastt .redisQueueOverloaded
    ("queue '" ++ QUEUE_SPEAKER_BATCH ++ "' is at its bound of " ++ toString q.maxDepth)
    [("queue", .str QUEUE_SPEAKER_BATCH), ("depth", .int depth)]

/-- What a request for a new job relies on: the object store, the connection to
the queue and the job store do not fail. -/
structure ServicesAnswer (services : ApiServices S R) (tenantId : String) (job : JobRecord)
    (jobs : S) : Prop where
  put : services.putObject = .ok ()
  delete : services.deleteObject = .ok ()
  queue : ∀ n, services.queueFaults n = none
  update : ∃ cancelled jobs', services.jobs.updateState tenantId job.jobId .cancelled jobs
    = (.ok cancelled, jobs')

/-- **A full queue raises**, unless its connection does, and nothing
changes. -/
theorem enqueueTask_full {q : RedisTaskQueue} {s : AppState S R} (hfull : q.maxDepth ≤ s.depth q)
    (taskId tenantId jobId : String) (payload : TaskPayload) :
    enqueueTask services q taskId tenantId jobId payload s
      = (.error (match services.queueFaults 0 with
          | none => overloaded q (s.depth q)
          | some (_, e) => e), s) := by
  have hrun : (q.enqueue QUEUE_SPEAKER_BATCH taskId tenantId jobId payload).run
      (QueueStore.execute {} 0) services.queueFaults s.queue
        = ((match services.queueFaults 0 with
          | none => .ok (.error (overloaded q (s.depth q)))
          | some (_, e) => .error e), s.queue) := by
    unfold RedisTaskQueue.enqueue
    rw [if_neg (by decide)]
    refine (Program.run_issue_bind_eq _ : _ = _).trans ?_
    cases services.queueFaults 0 with
    | none => exact congrArg (fun p : QueueProgram TaskPayload _ => p.run (QueueStore.execute {} 0)
        (fun n => services.queueFaults (n + 1)) s.queue) (if_pos hfull)
    | some fault =>
      obtain ⟨executed, e⟩ := fault
      cases executed
      · rfl
      · rfl
  rw [enqueueTask_eq, hrun]
  cases services.queueFaults 0 with
  | none => rfl
  | some fault => rfl

/-- **What a request for a new job comes to at a full queue**: something fails
and the job stays as it was created, or it is cancelled and the exception of the
queue goes on. -/
inductive Refused (services : ApiServices S R) (q : RedisTaskQueue) (tenantId key : String)
    (job : JobRecord) (s : AppState S R) : PyError → AppState S R → Prop
  | stuck {e : PyError} {t : AppState S R} (queue : t.queue = s.queue)
      (found : services.jobs.find t.jobs tenantId key = some job)
      (fails : ¬ ServicesAnswer services tenantId job s.jobs) :
      Refused services q tenantId key job s e t
  | cancelled {t : AppState S R} (queue : t.queue = s.queue)
      (found : services.jobs.find t.jobs tenantId key = some { job with state := .cancelled })
      (object : t.objects (tenantId, jobAudioKey job.jobId) = none)
      (audioKey : ∀ entry ∈ t.jobAudioKeys, entry.1 ≠ job.jobId) :
      Refused services q tenantId key job s (overloaded q (s.depth q)) t

/-- **The handler of the queueing** cancels the job, unless one of its own steps
fails. -/
theorem refused_cancelJob {q : RedisTaskQueue} {tenantId key : String} {job : JobRecord}
    {s : AppState S R} (hfind : services.jobs.find s.jobs tenantId key = some job) :
    ∃ e t, cancelJob services tenantId job.jobId (jobAudioKey job.jobId)
        (overloaded q (s.depth q)) s = (.error e, t)
      ∧ Refused services q tenantId key job s e t := by
  unfold cancelJob
  cases hdelete : services.deleteObject with
  | error e =>
    exact ⟨e, s, rfl, .stuck rfl hfind (fun h => nomatch hdelete.symm.trans h.delete)⟩
  | ok _ =>
    rw [ofExcept_ok_bind, modify_bind]
    set t : AppState S R := { s with
      objects := Function.update s.objects (tenantId, jobAudioKey job.jobId) none
      jobAudioKeys := s.jobAudioKeys.filter (·.1 ≠ job.jobId) } with ht
    cases hupdate : services.jobs.updateState tenantId job.jobId .cancelled s.jobs with
    | mk r jobs =>
    have hzoom : (services.jobs.updateState tenantId job.jobId .cancelled).zoom AppState.jobs
        (fun (s : AppState S R) jobs => { s with jobs }) t = (r, { t with jobs }) := zoom_eq hupdate
    cases r with
    | error e =>
      have hsame : jobs = s.jobs := services.jobs.updateState_error hupdate
      refine ⟨e, { t with jobs }, bind_of_error hzoom, .stuck rfl (hsame ▸ hfind) (fun h => ?_)⟩
      obtain ⟨cancelled, jobs', hok⟩ := h.update
      cases hupdate.symm.trans hok
    | ok cancelled =>
      refine ⟨overloaded q (s.depth q), { t with jobs }, bind_of_ok hzoom, .cancelled rfl ?_ ?_ ?_⟩
      · exact services.jobs.find_updateState hupdate hfind rfl
      · exact Function.update_self ..
      · intro entry hentry
        simpa using (List.mem_filter.mp hentry).2

/-- **Queueing at a full queue.** -/
theorem refused_queueJob {q : RedisTaskQueue} (request : JobRequest) (input : JobInput)
    {job : JobRecord} {key : String} {s : AppState S R} (hfull : q.maxDepth ≤ s.depth q)
    (hfaults : ∀ n executed e, services.queueFaults n = some (executed, e) → e.isSastt = false)
    (hfind : services.jobs.find s.jobs request.tenantId key = some job) :
    ∃ e t, queueJob services q request input job (jobAudioKey job.jobId) s = (.error e, t)
      ∧ Refused services q request.tenantId key job s e t := by
  unfold queueJob catchIf
  rw [enqueueTask_full hfull]
  cases hfault : services.queueFaults 0 with
  | none => exact refused_cancelJob hfind
  | some fault =>
    obtain ⟨executed, e⟩ := fault
    refine ⟨e, s, ?_, .stuck rfl hfind (fun h => nomatch hfault.symm.trans (h.queue 0))⟩
    dsimp only
    rw [hfaults 0 executed e hfault]
    rfl

/-- **A request for a new job at a full queue.** -/
theorem refused_submitJob {q : RedisTaskQueue} (request : JobRequest) (input : JobInput)
    {job : JobRecord} {key : String} {s : AppState S R} (hq : services.taskQueue = some q)
    (hfull : q.maxDepth ≤ s.depth q)
    (hfaults : ∀ n executed e, services.queueFaults n = some (executed, e) → e.isSastt = false)
    (hfind : services.jobs.find s.jobs request.tenantId key = some job) :
    ∃ e t, submitJob services request input job s = (.error e, t)
      ∧ Refused services q request.tenantId key job s e t := by
  unfold submitJob
  rw [modify_bind]
  set s₁ : AppState S R := { s with
    jobScenarios := Function.update s.jobScenarios job.jobId (some (input.scenario.getD "upload"))
    jobLanguages := Function.update s.jobLanguages job.jobId (some input.language) }
  cases hput : services.putObject with
  | error e =>
    exact ⟨e, s₁, bind_of_error (retainJobAudio_error s₁ hput),
      .stuck rfl hfind (fun h => nomatch hput.symm.trans h.put)⟩
  | ok _ =>
    obtain ⟨s₂, hretain, hjobs, hqueue⟩ := retainJobAudio_ok request.tenantId job.jobId
      input.audio s₁ hput
    have hjobs' : s₂.jobs = s.jobs := hjobs
    have hqueue' : s₂.queue = s.queue := hqueue
    have hdepth : s₂.depth q = s.depth q := by
      unfold AppState.depth
      rw [hqueue']
    have hfind₂ : services.jobs.find s₂.jobs request.tenantId key = some job := hjobs' ▸ hfind
    obtain ⟨e, t, hrun, hrefused⟩ :=
      refused_queueJob request input (hdepth ▸ hfull) hfaults hfind₂
    rw [bind_of_ok hretain, hq]
    refine ⟨e, t, bind_of_error hrun, ?_⟩
    -- retaining the audio changes neither what the store holds nor the queue
    cases hrefused with
    | stuck queue found fails =>
      exact .stuck (queue.trans hqueue') found (hjobs' ▸ fails)
    | cancelled queue found object audioKey =>
      rw [hdepth]
      exact .cancelled (queue.trans hqueue') found object audioKey

/-! ## The bound -/

/-- **Of the queue a request changes what queueing its task changes.** -/
theorem within_createJob_queue {T : QueueStore TaskPayload → QueueStore TaskPayload → Prop}
    [Std.Refl T] [IsTrans (QueueStore TaskPayload) T] {request : JobRequest}
    (h : ∀ q input jobId audioKey (s : AppState S R), services.taskQueue = some q →
      checkRequest services request = .ok input →
        T s.queue (enqueueTask services q request.newTaskId request.tenantId jobId
          { audioKey, scenario := request.payload "scenario",
            language := input.language } s).2.queue) :
    Within (fun s t => T s.queue t.queue) (createJob services request) := by
  have : Std.Refl (fun s t : AppState S R => T s.queue t.queue) := ⟨fun s => refl s.queue⟩
  have : IsTrans (AppState S R) (fun s t => T s.queue t.queue) :=
    ⟨fun _ _ _ h h' => Trans.trans (r := T) h h'⟩
  have hmodify : ∀ {f : AppState S R → AppState S R}, (∀ s, (f s).queue = s.queue) →
      Within (fun s t => T s.queue t.queue) (modify (ε := PyError) f) := by
    intro f hf
    refine within_modify (fun s => ?_)
    rw [hf]
    exact refl s.queue
  have hzoom : ∀ {α : Type} (m : Method PyError S α), Within (fun s t => T s.queue t.queue)
      (m.zoom AppState.jobs (fun (s : AppState S R) jobs => { s with jobs })) :=
    fun m s => refl s.queue
  have hassign : ∀ job, Within (fun s t => T s.queue t.queue) (assignJob services job) :=
    fun job => within_bind (hmodify (fun _ => rfl)) (fun _ => within_pure _)
  have htransition : ∀ job state,
      Within (fun s t => T s.queue t.queue) (transitionJob services job state) :=
    fun job state => within_bind (within_ofExcept _) (fun job => hassign job)
  have hretain : ∀ jobId audio, Within (fun s t => T s.queue t.queue)
      (retainJobAudio services request.tenantId jobId audio) := by
    intro jobId audio
    refine within_bind (within_ofExcept _) (fun _ => within_bind (hmodify (fun _ => rfl))
      (fun _ => within_bind (hmodify (fun _ => rfl)) (fun _ => ?_)))
    dsimp only
    split
    · exact within_bind (hmodify (fun _ => rfl)) (fun _ =>
        within_bind (hmodify (fun _ => rfl)) (fun _ => within_pure _))
    · exact within_bind (hmodify (fun _ => rfl)) (fun _ => within_pure _)
  have hrun : ∀ job scenario audio language, Within (fun s t => T s.queue t.queue)
      (runJob services job scenario audio language) := by
    intro job scenario audio language
    refine within_bind (within_ofExcept _) (fun _ => within_bind (htransition _ _)
      (fun job => within_bind (within_ofExcept _) (fun payload => within_bind
        (within_catchIf (within_ofExcept _) (fun e => within_bind (hassign _) (fun _ =>
          within_bind (htransition _ _) (fun _ => within_throw _)))) (fun result => ?_))))
    exact within_bind (hmodify (fun _ => rfl)) (fun _ => htransition _ _)
  cases hinput : checkRequest services request with
  | error e =>
    unfold createJob
    rw [hinput]
    exact fun s => refl s.queue
  | ok input =>
    have hsubmit : ∀ job, Within (fun s t => T s.queue t.queue)
        (submitJob services request input job) := by
      intro job
      refine within_bind (hmodify (fun _ => rfl)) (fun _ => within_bind (hretain _ _)
        (fun audioKey => ?_))
      cases hq : services.taskQueue with
      | none => exact hrun _ _ _ _
      | some q =>
        refine within_bind (within_catchIf (fun s => h q input job.jobId audioKey s hq hinput)
          (fun e => within_bind (within_ofExcept _) (fun _ => within_bind (hmodify (fun _ => rfl))
            (fun _ => within_bind (hzoom _) (fun _ => within_throw _))))) (fun _ => within_pure _)
    have hview : ∀ job created, Within (fun s t => T s.queue t.queue)
        ((read : Method PyError (AppState S R) _) >>= fun s =>
          pure (jobView services s job created)) :=
      fun job created => within_bind within_read (fun s => within_pure _)
    unfold createJob
    rw [hinput]
    refine within_ofExcept_ok_bind (within_bind
      (within_catchIf (hzoom _) (fun e => within_throw _)) (fun created => ?_))
    dsimp only
    split
    · exact within_bind (hsubmit _) (fun job => hview _ _)
    · exact within_bind (within_pure _) (fun job => hview _ _)

/-- A task that is pushed finds room. -/
theorem length_enqueue_le (q : RedisTaskQueue) {queue taskId tenantId jobId : String}
    {payload : TaskPayload} (faults : ℕ → Option (Bool × PyError)) {s : QueueStore TaskPayload}
    (h : (s.lists (q.key queue)).length ≤ q.maxDepth) :
    (((q.enqueue queue taskId tenantId jobId payload).run (QueueStore.execute {} 0) faults
      s).2.lists (q.key queue)).length ≤ q.maxDepth := by
  set bounded : Except PyError (Except PyError (Task TaskPayload)) × QueueStore TaskPayload →
      Prop := fun outcome => (outcome.2.lists (q.key queue)).length ≤ q.maxDepth with hbounded
  show bounded _
  unfold RedisTaskQueue.enqueue
  split
  · exact h
  · refine Program.run_issue_bind ?_ (fun _ => h) (fun _ => h)
    split
    · exact h
    · next hroom =>
      have hpush : ∀ task, (((QueueStore.execute {} 0 s (.lpush (q.key queue) task)).1).lists
          (q.key queue)).length ≤ q.maxDepth := by
        intro task
        show ((s.push (q.key queue) task).lists (q.key queue)).length ≤ q.maxDepth
        unfold QueueStore.push
        rw [QueueStore.lists_put_self, List.length_cons]
        exact Nat.succ_le_of_lt (not_le.mp hroom)
      refine Program.run_issue_bind ?_ (fun _ => h) (fun _ => h)
      exact Program.run_issue_bind (hpush _) (fun _ => h) (fun _ => hpush _)

/-- The queue is not beyond its bound, if it was not. -/
def KeepsBound (q : RedisTaskQueue) (s t : QueueStore TaskPayload) : Prop :=
  (s.lists (q.key QUEUE_SPEAKER_BATCH)).length ≤ q.maxDepth →
    (t.lists (q.key QUEUE_SPEAKER_BATCH)).length ≤ q.maxDepth

instance (q : RedisTaskQueue) : Std.Refl (KeepsBound q) where
  refl _ h := h

instance (q : RedisTaskQueue) : IsTrans (QueueStore TaskPayload) (KeepsBound q) where
  trans _ _ _ h h' hs := h' (h hs)

/-- **A request does not take the queue beyond its bound.** -/
theorem keepsBound_createJob {q : RedisTaskQueue} (hq : services.taskQueue = some q)
    (request : JobRequest) (s : AppState S R) :
    KeepsBound q s.queue (createJob services request s).2.queue := by
  refine within_createJob_queue (T := KeepsBound q) (fun q' input jobId audioKey s hq' _ => ?_) s
  cases hq.symm.trans hq'
  rw [enqueueTask_eq]
  exact length_enqueue_le q services.queueFaults

/-! ## The request -/

/-- **A request at a full queue is not refused cleanly.** It is undone, if the
object store, the connection and the job store answer; the response is that of
an error without a code. Requests made one after another never take the queue
beyond its bound. -/
theorem createJob_full_queue (q : RedisTaskQueue) :
    (∀ (services : ApiServices S R) (request : JobRequest) (s : AppState S R) (input : JobInput)
        (job : JobRecord) (jobs : S), services.taskQueue = some q →
      (∀ n executed e, services.queueFaults n = some (executed, e) → e.isSastt = false) →
      q.maxDepth ≤ s.depth q → checkRequest services request = .ok input →
      services.jobs.createOrGet ("job_" ++ request.newJobId) request.tenantId input.idempotencyKey
        (services.sha256 input.audio) (some services.configVersion) s.jobs
          = (.ok (job, true), jobs) →
        ¬ RefusedCleanly services request s
          ∧ (ServicesAnswer services request.tenantId job jobs →
            respond (createJob services request s).1
                = domainError .redisQueueOverloaded
                  ("queue 'speaker.batch' is at its bound of " ++ toString q.maxDepth)
                  [("queue", .str "speaker.batch"), ("depth", .int (s.depth q))]
              ∧ Undone services request s (createJob services request s).2))
    ∧ ∀ (s : AppState S R) (history : List (ApiServices S R × JobRequest)),
        s.depth q ≤ q.maxDepth → (∀ call ∈ history, call.1.taskQueue = some q) →
          Along (fun s call => (createJob call.1 call.2 s).2) (fun s => s.depth q ≤ q.maxDepth) s
            history := by
  refine ⟨fun services request s input job jobs hq hfaults hfull hinput hstore => ?_, ?_⟩
  · obtain ⟨hjob, -, hfind⟩ := services.jobs.created_eq_ok hstore
    obtain ⟨r, hcreate, hr⟩ := createOrGetJob_eq hstore
    cases (hr job true).mpr rfl
    set s₁ : AppState S R := { s with jobs }
    have hfull₁ : q.maxDepth ≤ s₁.depth q := hfull
    obtain ⟨e, t, hrun, hrefused⟩ := refused_submitJob request input hq hfull₁ hfaults hfind
    have hend : createJob services request s = (.error e, t) := by
      unfold createJob
      rw [hinput, ofExcept_ok_bind, bind_of_ok hcreate]
      exact bind_of_error hrun
    unfold RefusedCleanly
    rw [hend]
    have hkey := idempotencyKey_of_checkRequest hinput
    cases hrefused with
    | stuck queue found fails =>
      refine ⟨?_, fun hanswer => absurd hanswer fails⟩
      rintro ⟨-, hundone⟩
      obtain ⟨key, cancelled, hkey', hcancelled, -, hstate⟩ := hundone.job
      cases hkey.symm.trans hkey'
      cases found.symm.trans hcancelled
      rw [hjob] at hstate
      cases hstate
    | cancelled queue found object audioKey =>
      refine ⟨?_, fun _ => ⟨rfl, ?_⟩⟩
      · rintro ⟨⟨message, details, hresponse⟩, -⟩
        obtain ⟨e, he, hcode⟩ := code_of_respond_eq hresponse
        cases he
        cases hcode
      · have hid : job.jobId = "job_" ++ request.newJobId := by
          rw [hjob]
          rfl
        exact ⟨⟨_, _, hkey, found, hid, rfl⟩, hid ▸ object, hid ▸ audioKey, queue⟩
  · intro s history hs hcalls
    refine along_of_eachStep (C := fun _ call => call.1.taskQueue = some q) hs
      (fun s call hs hq => keepsBound_createJob hq call.2 s hs) ?_
    exact fun pre call hpre => hcalls call (hpre.subset (by simp))

/-- A queue of one job. -/
def oneJob : ApiServices (List JobRecord) ℚ :=
  { inProcess (.error (.other "not run")) with taskQueue := some { maxDepth := 1 } }

/-- The API after a first upload. -/
def afterUpload : AppState (List JobRecord) ℚ := (createJob oneJob upload { jobs := [] }).2

/-- Another upload. -/
def secondUpload : JobRequest :=
  { upload with idempotencyKey := some "other", newJobId := "2", newTaskId := "2" }

/-- The second upload is undone, the client is told that its request is bad, and
the bound is kept. -/
theorem createJob_full_queue_second_upload :
    ¬ RefusedCleanly oneJob secondUpload afterUpload
      ∧ respond (createJob oneJob secondUpload afterUpload).1
        = { statusCode := 400
            body := .error none "queue 'speaker.batch' is at its bound of 1"
              [("queue", .str "speaker.batch"), ("depth", .int 1)] }
      ∧ Undone oneJob secondUpload afterUpload (createJob oneJob secondUpload afterUpload).2
      ∧ Along (fun s call => (createJob call.1 call.2 s).2) (fun s => s.depth { maxDepth := 1 } ≤ 1)
        ({ jobs := [] } : AppState (List JobRecord) ℚ)
        [(oneJob, upload), (oneJob, secondUpload)] := by
  have hbound := (createJob_full_queue { maxDepth := 1 }).2 { jobs := [] }
    [(oneJob, upload), (oneJob, secondUpload)] (Nat.zero_le 1)
    (fun call hcall => by
      rcases List.mem_pair.mp hcall with rfl | rfl
      · rfl
      · rfl)
  have hrefused := (createJob_full_queue { maxDepth := 1 }).1 oneJob secondUpload afterUpload
    { idempotencyKey := "other", language := none, scenario := none, audio := [0, 0] }
    (.new "job_2" "tenant" "other" "hash" (some "default"))
    (afterUpload.jobs ++ [.new "job_2" "tenant" "other" "hash" (some "default")])
    rfl nofun (by decide +kernel) (by decide +kernel) (by decide +kernel)
  have hanswer : ServicesAnswer oneJob "tenant"
      (.new "job_2" "tenant" "other" "hash" (some "default"))
      (afterUpload.jobs ++ [.new "job_2" "tenant" "other" "hash" (some "default")]) := by
    refine ⟨rfl, rfl, fun _ => rfl, ?_⟩
    have hcancelled : (JobRows.updateState "tenant" "job_2" .cancelled
        (afterUpload.jobs ++ [.new "job_2" "tenant" "other" "hash" (some "default")])).1
          = .ok { JobRecord.new "job_2" "tenant" "other" "hash" (some "default") with
            state := .cancelled } := by decide +kernel
    exact ⟨_, _, Prod.ext hcancelled rfl⟩
  obtain ⟨hresponse, hundone⟩ := hrefused.2 hanswer
  refine ⟨hrefused.1, ?_, hundone, hbound⟩
  rw [hresponse]
  decide +kernel

/-- **A full queue is not refused cleanly**: after one upload to a queue of one
job, the second gets a response that says nothing of an overload. -/
theorem secondUpload_not_refusedCleanly :
    afterUpload.depth { maxDepth := 1 } = 1
      ∧ (respond (createJob oneJob secondUpload afterUpload).1).statusCode = 400
      ∧ ¬ RefusedCleanly oneJob secondUpload afterUpload := by
  have hstatus : (respond (createJob oneJob secondUpload afterUpload).1).statusCode = 400 := by
    decide +kernel
  refine ⟨by decide +kernel, hstatus, ?_⟩
  rintro ⟨⟨message, details, hresponse⟩, -⟩
  rw [hresponse] at hstatus
  cases hstatus

end Sastt
