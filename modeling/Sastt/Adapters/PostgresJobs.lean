import Sastt.Domain.Events
import Sastt.Lib.Programs

/-!
# The job store in PostgreSQL

The methods of `PostgresJobStore` that change a job are programs of SQL
statements. `get` is one statement, on a connection of its own, and
`update_state` issues its `UPDATE` on another one: what happens to the row
in between, the method does not see. `save_result` replaces the segments of
a job and updates the job in one transaction, which is one command here. A
statement that raises ends the call and changes nothing, as if the client
had died before it.

Two entries of `JobTable` are bookkeeping and no part of the database:
`writes` counts the updates of a row, and `read` and `seen` are the job a
client has read last and the count it read it at.
-/

namespace Sastt

/-- **A row of `jobs`**, under its primary key. -/
structure JobRow where
  tenantId : String
  idempotencyKey : String
  state : JobState
  inputHash : String
  configVersion : Option String := none
  errorCode : Option String := none
  warnings : List String := []
  degradedMode : Bool := false
deriving DecidableEq, Repr

/-- `_job_from_row`. -/
def jobFromRow (jobId : String) (row : JobRow) : JobRecord where
  jobId
  tenantId := row.tenantId
  idempotencyKey := row.idempotencyKey
  inputHash := row.inputHash
  state := row.state
  configVersion := row.configVersion
  errorCode := row.errorCode
  warnings := row.warnings
  degraded := row.degradedMode

/-- A statement: the `SELECT` of `get`, the `UPDATE` of `update_state`, the
`UPDATE` of `set_error`, or the transaction of `save_result`. -/
inductive JobCommand (G : Type)
  | select (tenantId jobId : String)
  | update (tenantId jobId : String) (state : JobState) (errorCode : Option String)
      (warnings : List String) (degraded : Bool)
  | updateError (tenantId jobId errorCode : String)
  | replaceResult (tenantId jobId sessionId : String) (segments : List G) (warnings : List String)
      (degraded : Bool)

/-- What a statement replies with. -/
def JobReply {G : Type} : JobCommand G → Type
  | .select _ _ => Option JobRow
  | _ => Unit

/-- A program of statements. -/
abbrev JobProgram (G : Type) (α : Type) : Type := Program (JobCommand G) JobReply α

/-! ## The store -/

namespace PostgresJobStore

variable {G : Type}

def select (tenantId jobId : String) : JobProgram G (Option JobRow) :=
  .issue (JobCommand.select tenantId jobId : JobCommand G)

def update (tenantId jobId : String) (job : JobRecord) : JobProgram G Unit :=
  .issue (JobCommand.update tenantId jobId job.state job.errorCode job.warnings job.degraded :
    JobCommand G)

/-- `get`. -/
def get (tenantId jobId : String) : JobProgram G (Except PyError JobRecord) := do
  match ← select tenantId jobId with
  | none =>
    return .error (.sastt .tenantAccessDenied "job not found for this tenant"
      [("job_id", .str jobId)])
  | some row => return .ok (jobFromRow jobId row)

/-- **`update_state`**: the domain guard on the job as it was read, and then
an update that is not conditional on anything. -/
def updateState (tenantId jobId : String) (state : JobState) :
    JobProgram G (Except PyError JobRecord) := do
  match ← get tenantId jobId with
  | .error e => return .error e
  | .ok job =>
    match job.transition state with
    | .error e => return .error e
    | .ok job =>
      update tenantId jobId job
      return .ok job

/-- `save_result`, for segments that are stored as they are. -/
def saveResult (tenantId jobId : String) (segments : List G) (sessionId : String)
    (warnings : List String) (degraded : Bool) : JobProgram G ℕ := do
  let _ ← .issue (JobCommand.replaceResult tenantId jobId sessionId segments warnings degraded)
  return segments.length

/-- `set_error`. -/
def setError (tenantId jobId errorCode : String) : JobProgram G (Except PyError JobRecord) := do
  match ← get tenantId jobId with
  | .error e => return .error e
  | .ok job =>
    let _ ← .issue (JobCommand.updateError tenantId jobId errorCode : JobCommand G)
    return .ok { job with errorCode := some errorCode }

end PostgresJobStore

/-- A call of the store. -/
inductive JobCall (G : Type)
  | updateState (tenantId jobId : String) (state : JobState)
  | setError (tenantId jobId errorCode : String)
  | saveResult (tenantId jobId : String) (segments : List G) (sessionId : String)
      (warnings : List String) (degraded : Bool)

/-- The program of a call, whose caller does what it likes with the
outcome. -/
def JobCall.program {G : Type} : JobCall G → JobProgram G Unit
  | updateState tenantId jobId state => do
    let _ ← PostgresJobStore.updateState tenantId jobId state
    return ()
  | setError tenantId jobId errorCode => do
    let _ ← PostgresJobStore.setError tenantId jobId errorCode
    return ()
  | saveResult tenantId jobId segments sessionId warnings degraded => do
    let _ ← PostgresJobStore.saveResult tenantId jobId segments sessionId warnings degraded
    return ()

/-! ## The database -/

/-- **The tables**: the rows of `jobs` by their primary key, and the segments
of each tenant and job, with the session they were saved for. -/
structure JobTable (G : Type) where
  jobs : String → Option JobRow
  segments : String × String → List (String × G) := fun _ => []
  writes : String → ℕ := fun _ => 0
  read : ℕ → Option JobRecord := fun _ => none
  seen : ℕ → ℕ := fun _ => 0

namespace JobTable

variable {G : Type} (s : JobTable G)

/-- `WHERE id = … AND tenant_id = …`. -/
def find (tenantId jobId : String) : Option JobRow :=
  (s.jobs jobId).filter (fun row => row.tenantId = tenantId)

/-- `UPDATE jobs SET … WHERE id = … AND tenant_id = …`. -/
def modify (tenantId jobId : String) (set : JobRow → JobRow) : JobTable G :=
  match s.find tenantId jobId with
  | none => s
  | some row =>
    { s with
      jobs := Function.update s.jobs jobId (some (set row))
      writes := Function.update s.writes jobId (s.writes jobId + 1) }

/-- **One statement.** -/
def execute (_ : Unit) (client : ℕ) (s : JobTable G) (c : JobCommand G) : JobTable G × JobReply c :=
  match c with
  | .select tenantId jobId =>
    ({ s with
        read := Function.update s.read client ((s.find tenantId jobId).map (jobFromRow jobId))
        seen := Function.update s.seen client (s.writes jobId) }, s.find tenantId jobId)
  | .update tenantId jobId state errorCode warnings degraded =>
    (s.modify tenantId jobId (fun row =>
      { row with state, errorCode, warnings, degradedMode := degraded }), ())
  | .updateError tenantId jobId errorCode =>
    (s.modify tenantId jobId (fun row => { row with errorCode := some errorCode }), ())
  | .replaceResult tenantId jobId sessionId segments warnings degraded =>
    let saved : JobTable G := { s with
      segments := Function.update s.segments (tenantId, jobId) (segments.map (sessionId, ·)) }
    (saved.modify tenantId jobId (fun row => { row with warnings, degradedMode := degraded }), ())

end JobTable

end Sastt
