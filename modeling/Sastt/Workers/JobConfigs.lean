import Sastt.Api.FullQueue
import Sastt.Domain.ConfigTree

/-!
# The configuration a job runs with

A request may name a language, and its job runs with a copy of the configuration
of the deployment in which that language is put in the place of the one there.
The copy is made in two places, for a job that is run in the process and by the
worker that is handed its task, and both make the same one. Nothing checks it.

A job should run with a configuration that the validators accept, which is that
of the deployment but for the language named, and whose version is the one
stored on the job (`RunsAsConfigured`). A request that names no language has
none put in the place of the language of the deployment, so this is so exactly
if a language is named or the deployment has none (`runsAsConfigured_iff`).
-/

namespace Sastt

open Method

variable {S R : Type} [Field R]

/-- The request names a language: one is given, and it is not `auto`. -/
def NamesLanguage (value : JsonValue) : Prop := value ≠ .null ∧ value ≠ .str "auto"

/-- `task.payload.get("language")`, of the task the API has queued. -/
def taskLanguage : Option String → JsonValue
  | none => .null
  | some language => .str language

/-- The configuration `handle` runs a task with. -/
def OfflineWorker.jobConfig (config : ConfigTree R) : JsonValue → Except PyError (ConfigTree R)
  | .null => .ok (config.withAsrLanguage none)
  | .str language => .ok (config.withAsrLanguage (some language))
  | _ => .error (.sastt .sasttError "task language must be a string or null" [])

theorem OfflineWorker.jobConfig_taskLanguage (config : ConfigTree R) (language : Option String) :
    OfflineWorker.jobConfig config (taskLanguage language)
      = .ok (config.withAsrLanguage language) := by
  cases language <;> rfl

variable [LinearOrder R]

/-- The language a request is checked to ask for. -/
def JobRequest.language (request : JobRequest) : Option String :=
  match requestedAsrLanguage (request.payload "language") with
  | .ok language => language
  | .error _ => none

/-- **The services of a deployment**: what is stored is the version of the copy
for the request, and a run in the process is one of the pipeline with that
copy. -/
def ApiServices.configured (services : ApiServices S R) (config : ConfigTree R)
    (version : ConfigTree R → String)
    (pipeline : ConfigTree R → Audio → String → Except PyError (OfflineResult R))
    (request : JobRequest) : ApiServices S R :=
  { services with
    configVersion := version (config.withAsrLanguage request.language)
    runPipeline := fun language => pipeline (config.withAsrLanguage language) }

/-- **The job runs as its deployment is configured**, up to the language that is
named. -/
structure RunsAsConfigured (deployment : ConfigTree R) (version : ConfigTree R → String)
    (value : JsonValue) (job : JobRecord) (config : ConfigTree R) : Prop where
  accepted : config.Accepted
  onlyLanguage : ∃ language, config = deployment.withAsrLanguage language
  unnamed : ¬ NamesLanguage value → config = deployment
  version : job.configVersion = some (version config)

/-! ## The language -/

/-- A language that is named is not empty, and none is asked for otherwise. -/
theorem requestedAsrLanguage_cases {value : JsonValue} {language : Option String}
    (h : requestedAsrLanguage value = .ok language) :
    (NamesLanguage value ∧ ConfigTree.isSet language = true)
      ∨ (¬ NamesLanguage value ∧ language = none) := by
  unfold requestedAsrLanguage at h
  split at h
  · next hauto =>
    cases h
    exact Or.inr ⟨fun hnames => hauto.elim hnames.1 hnames.2, rfl⟩
  · next hnames =>
    refine Or.inl ⟨not_or.mp hnames, ?_⟩
    split at h
    · next s =>
      split at h
      · next hcode =>
        cases h
        have hs : s ≠ "" := by
          rintro rfl
          revert hcode
          decide
        simp [ConfigTree.isSet, orDefault, hs]
      · cases h
    · cases h

theorem language_of_checkRequest {services : ApiServices S R} {request : JobRequest}
    {input : JobInput} (h : checkRequest services request = .ok input) :
    requestedAsrLanguage (request.payload "language") = .ok input.language := by
  unfold checkRequest at h
  split at h
  · cases h
  · cases h
  · cases hlanguage : requestedAsrLanguage (request.payload "language") with
    | error e =>
      rw [hlanguage] at h
      cases h
    | ok language =>
      rw [hlanguage] at h
      cases haudio : requestedAudio services request.payload with
      | error e =>
        rw [haudio] at h
        cases h
      | ok audio =>
        rw [haudio] at h
        cases h
        rfl

/-! ## The two places -/

/-- **A run in the process is one with the language of the request.** -/
theorem createJob_congr (services : ApiServices S R) {request : JobRequest}
    {runPipeline : Option String → Audio → String → Except PyError (OfflineResult R)}
    (h : ∀ input, checkRequest services request = .ok input →
      runPipeline input.language = services.runPipeline input.language) :
    createJob { services with runPipeline } request = createJob services request := by
  have hcheck : checkRequest { services with runPipeline } request
      = checkRequest services request := rfl
  unfold createJob
  rw [hcheck]
  cases hinput : checkRequest services request with
  | error e => rfl
  | ok input =>
    have hrun : ∀ job, runJob { services with runPipeline } job input.scenario input.audio
        input.language = runJob services job input.scenario input.audio input.language := by
      intro job
      unfold runJob
      dsimp only
      rw [h input hinput]
      rfl
    have hsubmit : submitJob { services with runPipeline } request input
        = submitJob services request input := by
      funext job
      unfold submitJob
      dsimp only
      rw [hrun job]
      rfl
    funext s
    rw [ofExcept_ok_bind, ofExcept_ok_bind, hsubmit]
    rfl

/-- The tasks of a queue are those from before and those with the payload that is
queued. -/
theorem mem_enqueue (q : RedisTaskQueue) {queue taskId tenantId jobId : String}
    {payload : TaskPayload} (faults : ℕ → Option (Bool × PyError)) {s : QueueStore TaskPayload}
    {task : Task TaskPayload}
    (h : task ∈ ((q.enqueue queue taskId tenantId jobId payload).run (QueueStore.execute {} 0)
      faults s).2.lists (q.key queue)) :
    task ∈ s.lists (q.key queue) ∨ task.payload = payload := by
  revert h
  set expected : Except PyError (Except PyError (Task TaskPayload)) × QueueStore TaskPayload →
      Prop := fun outcome => task ∈ outcome.2.lists (q.key queue) →
        task ∈ s.lists (q.key queue) ∨ task.payload = payload
  show expected _
  unfold RedisTaskQueue.enqueue
  split
  · exact Or.inl
  · refine Program.run_issue_bind ?_ (fun _ => Or.inl) (fun _ => Or.inl)
    split
    · exact Or.inl
    · have hpush : ∀ pushed : Task TaskPayload, pushed.payload = payload →
          task ∈ ((QueueStore.execute {} 0 s (.lpush (q.key queue) pushed)).1).lists
            (q.key queue) → task ∈ s.lists (q.key queue) ∨ task.payload = payload := by
        intro pushed hpayload hmem
        have hlists : task ∈ (s.push (q.key queue) pushed).lists (q.key queue) := hmem
        unfold QueueStore.push at hlists
        rw [QueueStore.lists_put_self] at hlists
        rcases List.mem_cons.mp hlists with rfl | hbefore
        · exact Or.inr hpayload
        · exact Or.inl hbefore
      refine Program.run_issue_bind ?_ (fun _ => Or.inl) (fun _ => Or.inl)
      exact Program.run_issue_bind (hpush _ rfl) (fun _ => Or.inl) (fun _ => hpush _ rfl)

/-- What a request puts into the queue has the language of the request. -/
def Brings (q : RedisTaskQueue) (language : Option String) (s t : QueueStore TaskPayload) : Prop :=
  ∀ task ∈ t.lists (q.key QUEUE_SPEAKER_BATCH),
    task ∈ s.lists (q.key QUEUE_SPEAKER_BATCH) ∨ task.payload.language = language

instance (q : RedisTaskQueue) (language : Option String) : Std.Refl (Brings q language) where
  refl _ _ := Or.inl

instance (q : RedisTaskQueue) (language : Option String) :
    IsTrans (QueueStore TaskPayload) (Brings q language) where
  trans _ _ _ h h' task htask := (h' task htask).elim (h task) Or.inr

/-- **A task is queued with the language of its request.** -/
theorem brings_createJob (services : ApiServices S R) {q : RedisTaskQueue}
    (hq : services.taskQueue = some q) {request : JobRequest} {input : JobInput}
    (hinput : checkRequest services request = .ok input) (s : AppState S R) :
    Brings q input.language s.queue (createJob services request s).2.queue := by
  refine within_createJob_queue (T := Brings q input.language)
    (fun q' input' jobId audioKey s hq' hinput' => ?_) s
  cases hq.symm.trans hq'
  cases hinput.symm.trans hinput'
  rw [enqueueTask_eq]
  intro task htask
  exact (mem_enqueue q services.queueFaults htask).imp_right (congrArg TaskPayload.language)

/-! ## The configuration -/

/-- **A job runs as its deployment is configured exactly if its request names a
language or the deployment has none.** The configuration in question is the one
the pipeline is run with in the process, and the one the worker makes of the task
that is queued. -/
theorem runsAsConfigured_iff {deployment : ConfigTree R} (h : deployment.Accepted)
    (version : ConfigTree R → String)
    (pipeline : ConfigTree R → Audio → String → Except PyError (OfflineResult R))
    {services : ApiServices S R} {request : JobRequest} (s : AppState S R) {input : JobInput}
    {job : JobRecord} {jobs : S}
    (hinput : checkRequest (services.configured deployment version pipeline request) request
      = .ok input)
    (hstore : services.jobs.createOrGet ("job_" ++ request.newJobId) request.tenantId
      input.idempotencyKey (services.sha256 input.audio)
        (some (services.configured deployment version pipeline request).configVersion) s.jobs
          = (.ok (job, true), jobs)) :
    let config := deployment.withAsrLanguage input.language
    (∀ pipeline', pipeline' config = pipeline config →
        createJob (services.configured deployment version pipeline' request) request s
          = createJob (services.configured deployment version pipeline request) request s)
      ∧ (∀ q, services.taskQueue = some q →
        ∀ task ∈ (createJob (services.configured deployment version pipeline request) request
            s).2.queue.lists (q.key QUEUE_SPEAKER_BATCH),
          task ∉ s.queue.lists (q.key QUEUE_SPEAKER_BATCH) →
            OfflineWorker.jobConfig deployment (taskLanguage task.payload.language) = .ok config)
      ∧ (RunsAsConfigured deployment version (request.payload "language") job config
        ↔ NamesLanguage (request.payload "language") ∨ deployment.asr.language = none) := by
  have hlanguage := language_of_checkRequest hinput
  have hrequest : request.language = input.language := by
    unfold JobRequest.language
    rw [hlanguage]
  refine ⟨fun pipeline' hpipeline => ?_, fun q hq task htask hnew => ?_, ?_⟩
  · refine congrFun (createJob_congr (services.configured deployment version pipeline request)
      (fun input' hinput' => ?_)) s
    cases hinput.symm.trans hinput'
    exact hpipeline
  · have hbrings := brings_createJob (services.configured deployment version pipeline request)
      hq hinput s
    rw [(hbrings task htask).resolve_left hnew]
    exact OfflineWorker.jobConfig_taskLanguage deployment input.language
  · have hversion : job.configVersion
        = some (version (deployment.withAsrLanguage input.language)) := by
      rw [(services.jobs.created_eq_ok hstore).1, ← hrequest]
      rfl
    rcases requestedAsrLanguage_cases hlanguage with ⟨hnames, hset⟩ | ⟨hnames, hnone⟩
    · refine iff_of_true ⟨?_, ⟨_, rfl⟩, fun hunnamed => absurd hnames hunnamed, hversion⟩
        (Or.inl hnames)
      exact (ConfigTree.accepted_withAsrLanguage_iff h _).mpr (fun _ => hset)
    · rw [or_iff_right hnames]
      constructor
      · intro hruns
        rw [← ConfigTree.withAsrLanguage_eq_self_iff.mp (hruns.unnamed hnames), hnone]
      · intro hdeployment
        have hsame : deployment.withAsrLanguage input.language = deployment :=
          ConfigTree.withAsrLanguage_eq_self_iff.mpr (hnone.trans hdeployment.symm)
        refine ⟨?_, ⟨_, rfl⟩, fun _ => hsame, hversion⟩
        rw [hsame]
        exact h

/-- A deployment for Vietnamese. -/
def fixedVi : ConfigTree ℚ :=
  { asr := { language := some "vi", languageDetection := { mode := .fixed } } }

theorem fixedVi_accepted : fixedVi.Accepted :=
  { ConfigTree.accepted_default (R := ℚ) with
    asr := ⟨⟨by decide +kernel, by decide +kernel, by decide +kernel⟩, rfl,
      ConfigTree.Asr.checkFixedLanguage_eq_ok.mpr (fun _ => rfl)⟩ }

/-- A job without a language runs as the default configuration says. -/
theorem runsAsConfigured_default :
    RunsAsConfigured ({} : ConfigTree ℚ) (fun _ => "cfg") .null
      (.new "job_1" "tenant" "key" "hash" (some "cfg")) ({} : ConfigTree ℚ) :=
  (runsAsConfigured_iff (R := ℚ) ConfigTree.accepted_default (fun _ => "cfg")
    (fun _ _ _ => .error (.other "not run")) { jobs := ([] : List JobRecord) }
    (show checkRequest ((inProcess (.error (.other "not run"))).configured {} (fun _ => "cfg")
        (fun _ _ _ => .error (.other "not run")) upload) upload
      = .ok { idempotencyKey := "key", language := none, scenario := none, audio := [0, 0] } by
        decide +kernel)
    (by rfl)).2.2.mpr (Or.inr rfl)

/-- **A job can run with a configuration its own validators refuse**: the
language of a deployment that has a fixed one is dropped. -/
theorem fixedVi_not_runsAsConfigured :
    fixedVi.Accepted
      ∧ (createJob ((inProcess (.error (.other "not run"))).configured fixedVi (fun _ => "cfg")
        (fun config _ _ => .error (.other (config.asr.language.getD "none"))) upload) upload
          { jobs := [] }).1 = .error (.other "none")
      ∧ ¬ (fixedVi.withAsrLanguage none).Accepted
      ∧ ¬ RunsAsConfigured fixedVi (fun _ => "cfg") (upload.payload "language")
        (.new "job_1" "tenant" "key" "hash" (some "cfg")) (fixedVi.withAsrLanguage none) := by
  have hrefused : ¬ (fixedVi.withAsrLanguage none).Accepted := by
    intro h
    have hset := ConfigTree.Asr.checkFixedLanguage_eq_ok.mp h.asr.2.2 rfl
    revert hset
    decide
  exact ⟨fixedVi_accepted, by decide +kernel, hrefused, fun h => hrefused h.accepted⟩

end Sastt
