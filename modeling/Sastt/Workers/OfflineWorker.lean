import Mathlib.Data.List.Infix
import Sastt.Adapters.JobRaces
import Sastt.Adapters.RedisQueue

/-!
# The offline worker

What a worker does about a task it was handed is a program of statements on
the job store: it walks the job through the stages of the pipeline, saves the
result and finishes the job (`handle`). If anything raises on the way the task
goes back to its queue, and when it has used up its attempts the job is marked
as failed (`deliver`).

The pipeline is a parameter. `PipelineRun` says what it does with the audio of
a task – whether it raises, after how many stages, and what it returns if it
does not. Loading the audio and the models comes before the first stage, and a
statement that fails is read as the pipeline raising in its place.
-/

namespace Sastt

/-- `str(exc)`. -/
def PyError.text : PyError → String
  | .sastt _ message _ => message
  | .valueError message => message
  | .keyError key => "'" ++ key ++ "'"
  | .http status detail => toString status ++ ": " ++ detail
  | .other message => message
  | .diverges => ""

/-- **What the pipeline does with a task.** -/
structure PipelineRun (G : Type) where
  /-- Whether the recording has overlap regions. -/
  overlaps : Bool := false
  /-- After how many stages it raises, and what. -/
  raises : Option (ℕ × PyError) := none
  segments : List G := []
  warnings : List String := []
  degraded : Bool := false

namespace PipelineRun

variable {G : Type} (run : PipelineRun G)

/-- The stages the pipeline reports, in their order. -/
def stages : List JobState :=
  [.preprocessing, .diarizing, .transcribing] ++ (if run.overlaps then [.separating] else [])
    ++ [.linking, .fusing]

/-- Those it reports before it raises. -/
def reported : List JobState :=
  match run.raises with
  | some (n, _) => run.stages.take n
  | none => run.stages

/-- The state a job is in that has run to its end. -/
def outcome : JobState := if run.degraded then .degradedSucceeded else .succeeded

theorem stages_not_terminal {state : JobState} (h : state ∈ run.stages) :
    state ∉ JobState.terminal := by
  have hall : ∀ state ∈ run.stages, state ∉ JobState.terminal := by
    unfold stages
    cases run.overlaps <;> decide
  exact hall state h

theorem reported_subset {state : JobState} (h : state ∈ run.reported) : state ∈ run.stages := by
  unfold reported at h
  split at h
  · exact List.mem_of_mem_take h
  · exact h

end PipelineRun

namespace OfflineWorker

variable {G P : Type}

/-- `update_stage`, for one stage after the other. -/
def reportStages (tenantId jobId : String) : List JobState → JobProgram G (Except PyError Unit)
  | [] => return .ok ()
  | state :: states => do
    match ← PostgresJobStore.updateState tenantId jobId state with
    | .error e => return .error e
    | .ok _ => reportStages tenantId jobId states

/-- **`handle`**: run one job to its end. -/
def handle (task : Task P) (run : PipelineRun G) : JobProgram G (Except PyError Unit) := do
  match ← reportStages task.tenantId task.jobId run.reported with
  | .error e => return .error e
  | .ok _ =>
    match run.raises with
    | some (_, e) => return .error e
    | none =>
      let _ ← PostgresJobStore.saveResult task.tenantId task.jobId run.segments task.jobId
        run.warnings run.degraded
      match ← PostgresJobStore.updateState task.tenantId task.jobId run.outcome with
      | .error e => return .error e
      | .ok _ => return .ok ()

/-- The error code of a job that failed with a message. -/
def errorCode (message : String) : String :=
  if "separation".toList <:+: message.toList then "SEPARATION_FAILED" else "MODEL_NOT_READY"

/-- `_fail_job`, which keeps to itself what it raises. -/
def failJob (task : Task P) (message : String) : JobProgram G Unit := do
  match ← PostgresJobStore.setError task.tenantId task.jobId (errorCode message) with
  | .error _ => return ()
  | .ok _ =>
    let _ ← PostgresJobStore.updateState task.tenantId task.jobId .failed
    return ()

/-- The task has no attempt left after this one. -/
def IsLast (task : Task P) : Prop := RedisTaskQueue.MAX_ATTEMPTS ≤ task.attempts + 1

instance (task : Task P) : Decidable (IsLast task) :=
  inferInstanceAs (Decidable (_ ≤ _))

/-- **One delivery of a task**: one turn of the loop of `run_forever`, as far
as the job is concerned. -/
def deliver (task : Task P) (run : PipelineRun G) : JobProgram G Unit := do
  match ← handle task run with
  | .ok _ => return ()
  | .error e => if IsLast task then failJob task e.text else return ()

/-- **A delivery and all that follow from it**: a task that failed is
delivered again until it is done or has no attempt left. -/
def deliverToEnd (task : Task P) (runs : ℕ → PipelineRun G) : JobProgram G Unit := do
  match ← handle task (runs task.attempts) with
  | .ok _ => return ()
  | .error e =>
    if _hlast : IsLast task then failJob task e.text else deliverToEnd task.again runs
termination_by RedisTaskQueue.MAX_ATTEMPTS - task.attempts
decreasing_by
  show RedisTaskQueue.MAX_ATTEMPTS - (task.attempts + 1) < _
  unfold IsLast at _hlast
  omega

end OfflineWorker

end Sastt
