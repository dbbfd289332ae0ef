import Sastt.Adapters.RedisQueue
import Sastt.Ports.JobStore

/-!
# Creating a job

`POST /v1/jobs`: a request is checked, a job is created for it or found, and
a job that was created has its audio stored and is then either run in the
process or put into the work queue. Each of these steps may raise, and what
the steps before it did stays done.

What the request does not decide – what the object store, the queue's
connection, the engine and the pipeline do – is a field of `ApiServices`.
The demo scenarios, the decoding of base64 and the hash are fields too:
nothing here depends on what they compute. The job store is any
implementation of the port, and the queue is the one of the Redis adapter,
run on a connection that may fail at every command.
-/

namespace Sastt

/-- Bytes of audio. -/
abbrev Audio : Type := List UInt8

/-- A value of the JSON payload. Of an array or an object, its text and
whether it has entries. -/
inductive JsonValue
  | null
  | bool (value : Bool)
  | int (value : ℤ)
  | str (value : String)
  | other (text : String) (nonempty : Bool)
deriving DecidableEq, Repr

namespace JsonValue

/-- Whether a condition on the value holds. -/
def truthy : JsonValue → Bool
  | null => false
  | bool b => b
  | int n => n ≠ 0
  | str s => s ≠ ""
  | other _ nonempty => nonempty

/-- `str(value)`. -/
def toStr : JsonValue → String
  | null => "None"
  | bool b => if b then "True" else "False"
  | int n => toString n
  | str s => s
  | other text _ => text

end JsonValue

/-- **A request**, with the ids that would be drawn for it. -/
structure JobRequest where
  idempotencyKey : Option String
  tenantId : String
  /-- `payload.get`. -/
  payload : String → JsonValue
  newJobId : String
  newTaskId : String

/-- The payload of the task of a job. -/
structure TaskPayload where
  audioKey : String
  scenario : JsonValue
  language : Option String
deriving DecidableEq, Repr

/-- **What a request runs on.** -/
structure ApiServices (S R : Type) [Field R] [LinearOrder R] where
  jobs : JobStore S
  configVersion : String
  engineName : String
  /-- `load_demo_scenario` and `scenario_wav`. -/
  loadScenario : String → Except PyError Audio
  /-- `b64decode`, raising `HTTPException` where it is not valid. -/
  decodeBase64 : String → Except PyError Audio
  sha256 : Audio → String
  /-- Whether the object store is an `InMemoryObjectStore`. -/
  inMemoryObjects : Bool
  putObject : Except PyError Unit
  deleteObject : Except PyError Unit
  /-- `task_queue`; without one, jobs are run in the process. -/
  taskQueue : Option RedisTaskQueue
  /-- Which commands to Redis raise, before or after they are executed. -/
  queueFaults : ℕ → Option (Bool × PyError)
  /-- `engine.adapters_for`, for the name of the scenario. -/
  adaptersFor : Option String → Except PyError Unit
  /-- `OfflinePipeline.run`, for the language, the payload and the id of the
  job. -/
  runPipeline : Option String → Audio → String → Except PyError (OfflineResult R)

/-- **The state of the API.** The dictionaries of the audio that is retained
are in the order of insertion. -/
structure AppState (S R : Type) [Field R] [LinearOrder R] where
  jobs : S
  queue : QueueStore TaskPayload := {}
  objects : String × String → Option Audio := fun _ => none
  results : String → Option (OfflineResult R) := fun _ => none
  jobScenarios : String → Option String := fun _ => none
  jobLanguages : String → Option (Option String) := fun _ => none
  jobAudioKeys : List (String × String × String) := []
  jobAudioPreviews : List (String × Audio) := []

/-- What a request returns. -/
structure JobView where
  jobId : String
  state : String
  created : Bool
  engine : String
  scenario : Option String
  asrLanguage : String
  configVersion : Option String
  warnings : List String
  degradedMode : Bool
  errorCode : Option String
deriving DecidableEq, Repr

/-! ## Checking the request -/

/-- Whether `_LANGUAGE_CODE` matches the whole string. -/
def isLanguageCode (s : String) : Bool :=
  let language := s.toList.takeWhile Char.isLower
  let region := s.toList.dropWhile Char.isLower
  (language.length == 2 || language.length == 3) &&
    match region with
    | [] => true
    | c :: letters => c == '-' && letters.all Char.isAlpha && 2 ≤ letters.length
        && letters.length ≤ 4

/-- `_requested_asr_language`. -/
def requestedAsrLanguage (value : JsonValue) : Except PyError (Option String) :=
  if value = .null ∨ value = .str "auto" then .ok none
  else
    match value with
    | .str s =>
      if isLanguageCode s then .ok (some s)
      else .error (.http 400 "language must be 'auto' or an ISO code such as en/vi")
    | _ => .error (.http 400 "language must be 'auto' or an ISO code such as en/vi")

/-- What a request asks for, once it is checked. -/
structure JobInput where
  idempotencyKey : String
  language : Option String
  scenario : Option String
  audio : Audio
deriving DecidableEq, Repr

section

variable {S R : Type} [Field R] [LinearOrder R] (services : ApiServices S R)

/-- The audio a request is about, with the name of its scenario. -/
def requestedAudio (payload : String → JsonValue) : Except PyError (Option String × Audio) :=
  let scenarioName := payload "scenario"
  if scenarioName.truthy then do
    let audio ← services.loadScenario scenarioName.toStr
    return (some scenarioName.toStr, audio)
  else
    let encoded := payload "audio_base64"
    if ¬ encoded.truthy then .error (.http 400 "provide either 'scenario' or 'audio_base64'")
    else if services.engineName = "fake" then
      .error (.sastt .modelNotReady
        "real audio needs the model engine; start the API with SASTT_ENGINE=real" [])
    else do
      let audio ← services.decodeBase64 encoded.toStr
      return (none, audio)

/-- The checks of `create_job`, up to the creation of the job. -/
def checkRequest (request : JobRequest) : Except PyError JobInput := do
  match request.idempotencyKey with
  | none | some "" => .error (.http 400 "Idempotency-Key header is required")
  | some idempotencyKey =>
    let language ← requestedAsrLanguage (request.payload "language")
    let (scenario, audio) ← requestedAudio services request.payload
    return { idempotencyKey, language, scenario, audio }

/-! ## Retaining the audio -/

/-- `MAX_RETAINED_JOB_AUDIO`. -/
def MAX_RETAINED_JOB_AUDIO : ℕ := 12

/-- `job_audio_key`. -/
def jobAudioKey (jobId : String) : String := "jobs/" ++ jobId ++ "/input"

/-- The eviction of the oldest inputs. -/
def evictAudio : List (String × String × String) → (String × String → Option Audio) →
    List (String × String × String) × (String × String → Option Audio)
  | [], objects => ([], objects)
  | (job, object) :: keys, objects =>
    if MAX_RETAINED_JOB_AUDIO < keys.length + 1 then
      evictAudio keys (Function.update objects object none)
    else ((job, object) :: keys, objects)

/-- `_retain_job_audio`. -/
def retainJobAudio (tenantId jobId : String) (audio : Audio) :
    Method PyError (AppState S R) String := do
  let key := jobAudioKey jobId
  .ofExcept services.putObject
  .modify fun s => { s with objects := Function.update s.objects (tenantId, key) (some audio) }
  .modify fun s => { s with
    jobAudioKeys := s.jobAudioKeys.filter (·.1 ≠ jobId) ++ [(jobId, tenantId, key)] }
  if services.inMemoryObjects then
    .modify fun s => { s with
      jobAudioKeys := (evictAudio s.jobAudioKeys s.objects).1
      objects := (evictAudio s.jobAudioKeys s.objects).2 }
  -- a preview never outlives its input
  .modify fun s => { s with
    jobAudioPreviews := s.jobAudioPreviews.filter (fun p => p.1 ∈ s.jobAudioKeys.map Prod.fst) }
  return key

/-! ## Running in the process -/

/-- Little-endian. -/
def leNat : List UInt8 → ℕ
  | [] => 0
  | b :: bytes => b.toNat + 256 * leNat bytes

/-- The loop of `_strip_wav_header`, over what is left of the stream. -/
def stripChunks (payload : Audio) : ℕ → Audio → Except PyError Audio
  | 0, _ => .ok payload
  | fuel + 1, stream =>
    if stream = [] then .ok payload
    else if stream.length < 8 then .error (.other "unpack requires a buffer of 8 bytes")
    else
      let size := leNat ((stream.drop 4).take 4)
      if stream.take 4 = "data".toUTF8.toList then .ok ((stream.drop 8).take size)
      else stripChunks payload fuel ((stream.drop 8).drop size)

/-- `_strip_wav_header`. A chunk has eight bytes at least, so the stream is
used up before the fuel is. -/
def stripWavHeader (payload : Audio) : Except PyError Audio :=
  if payload.take 4 ≠ "RIFF".toUTF8.toList then .ok payload
  else stripChunks payload payload.length (payload.drop 12)

/-- The fields of the record of a job are assigned to. -/
def assignJob (job : JobRecord) : Method PyError (AppState S R) JobRecord := do
  .modify fun s => { s with jobs := services.jobs.assign job s.jobs }
  return job

/-- `job.transition`, on the record the store returned. -/
def transitionJob (job : JobRecord) (state : JobState) :
    Method PyError (AppState S R) JobRecord := do
  let job ← .ofExcept (job.transition state)
  assignJob services job

/-- The payload `_run_job` gives to the pipeline. -/
def pipelinePayload (audio : Audio) : Except PyError Audio :=
  if services.engineName = "fake" then stripWavHeader audio else .ok audio

/-- The handler of `_run_job`: the job has failed, and the exception goes
on. -/
def failJob (job : JobRecord) (e : PyError) : Method PyError (AppState S R) (OfflineResult R) := do
  let job ← assignJob services { job with errorCode := some (e.code.getD "INTERNAL") }
  let _ ← transitionJob services job .failed
  .throw e

/-- `_run_job`: the job with its final state. -/
def runJob (job : JobRecord) (scenario : Option String) (audio : Audio)
    (language : Option String) : Method PyError (AppState S R) JobRecord := do
  .ofExcept (services.adaptersFor scenario)
  let job ← transitionJob services job .preprocessing
  let payload ← .ofExcept (pipelinePayload services audio)
  let result ← (Method.ofExcept (services.runPipeline language payload job.jobId)).catchIf
    PyError.isSastt (failJob services job)
  .modify fun s => { s with results := Function.update s.results job.jobId (some result) }
  transitionJob services job result.state

/-! ## Queueing -/

/-- `QUEUE_SPEAKER_BATCH`. -/
def QUEUE_SPEAKER_BATCH : String := "speaker.batch"

/-- `task_queue.enqueue`, run on a connection that may fail. -/
def enqueueTask (q : RedisTaskQueue) (taskId tenantId jobId : String) (payload : TaskPayload) :
    Method PyError (AppState S R) (Task TaskPayload) := do
  let outcome ← ((q.enqueue QUEUE_SPEAKER_BATCH taskId tenantId jobId payload).run
    (QueueStore.execute {} 0) services.queueFaults).zoom AppState.queue
      (fun s queue => { s with queue })
  .ofExcept outcome

/-- The handler of the queueing: the job that was refused is cancelled, and
the exception goes on. -/
def cancelJob (tenantId jobId audioKey : String) (e : PyError) :
    Method PyError (AppState S R) (Task TaskPayload) := do
  .ofExcept services.deleteObject
  .modify fun s => { s with
    objects := Function.update s.objects (tenantId, audioKey) none
    jobAudioKeys := s.jobAudioKeys.filter (·.1 ≠ jobId) }
  let _ ← (services.jobs.updateState tenantId jobId .cancelled).zoom AppState.jobs
    (fun s jobs => { s with jobs })
  .throw e

/-- Queue a job that was created. -/
def queueJob (q : RedisTaskQueue) (request : JobRequest) (input : JobInput) (job : JobRecord)
    (audioKey : String) : Method PyError (AppState S R) (Task TaskPayload) :=
  (enqueueTask services q request.newTaskId request.tenantId job.jobId
    { audioKey, scenario := request.payload "scenario", language := input.language }).catchIf
    PyError.isSastt (cancelJob services request.tenantId job.jobId audioKey)

/-! ## The request -/

/-- What a request does for a job that it created: the job as it is
then. -/
def submitJob (request : JobRequest) (input : JobInput) (job : JobRecord) :
    Method PyError (AppState S R) JobRecord := do
  .modify fun s => { s with
    jobScenarios := Function.update s.jobScenarios job.jobId
      (some (input.scenario.getD "upload"))
    jobLanguages := Function.update s.jobLanguages job.jobId (some input.language) }
  let audioKey ← retainJobAudio services request.tenantId job.jobId input.audio
  match services.taskQueue with
  | none => runJob services job input.scenario input.audio input.language
  | some q =>
    let _ ← queueJob services q request input job audioKey
    return job

/-- `_job_view`. -/
def jobView (s : AppState S R) (job : JobRecord) (created : Bool) : JobView where
  jobId := job.jobId
  state := job.state.value
  created
  engine := services.engineName
  scenario := s.jobScenarios job.jobId
  asrLanguage := ((s.jobLanguages job.jobId).join).getD "auto"
  configVersion := job.configVersion
  warnings := ((s.results job.jobId).map OfflineResult.warnings).getD []
  degradedMode := ((s.results job.jobId).map OfflineResult.degraded).getD false
  errorCode := job.errorCode

/-- `create_or_get` of the request. -/
def createOrGetJob (request : JobRequest) (input : JobInput) :
    Method PyError (AppState S R) (JobRecord × Bool) :=
  ((services.jobs.createOrGet ("job_" ++ request.newJobId) request.tenantId input.idempotencyKey
      (services.sha256 input.audio) (some services.configVersion)).zoom AppState.jobs
    (fun s jobs => { s with jobs })).catchIf (PyError.isClass .idempotencyConflict)
      (fun e => .throw (.http 409 e.message))

/-- **`create_job`.** -/
def createJob (request : JobRequest) : Method PyError (AppState S R) JobView := do
  let input ← .ofExcept (checkRequest services request)
  let (job, created) ← createOrGetJob services request input
  let job ← if created then submitJob services request input job else pure job
  return jobView services (← Method.read) job created

end

end Sastt
