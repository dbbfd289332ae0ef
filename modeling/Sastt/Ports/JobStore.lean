import Sastt.Domain.Events
import Sastt.Lib.Method

/-!
# The job store port

What the API knows of a job store, with what an implementation promises as
fields. Implementations differ in whether the record they return is the one
they hold: the in-memory store hands out its own object, and what a caller
assigns to it is stored; a database hands out a copy, and it is not
(`sharesRecords`). The port says nothing about it, and `assign` is the effect
of such assignments either way.

`jobRows` is both implementations at the level of the port: rows in the order
of their creation.
-/

namespace Sastt

/-- The record a job starts as. -/
def JobRecord.new (jobId tenantId idempotencyKey inputHash : String)
    (configVersion : Option String) : JobRecord :=
  { jobId, tenantId, idempotencyKey, inputHash, state := .queued, configVersion }

/-- **A job store** whose state is an `S`. `find` is the job stored under a
tenant and an idempotency key. -/
structure JobStore (S : Type) where
  /-- `create_or_get`, with the id a new job would be given. -/
  createOrGet (jobId tenantId idempotencyKey inputHash : String) (configVersion : Option String) :
    Method PyError S (JobRecord × Bool)
  updateState (tenantId jobId : String) (state : JobState) : Method PyError S JobRecord
  sharesRecords : Bool
  /-- The fields of a record that was returned are assigned to, and it is this
  record now. -/
  assign (job : JobRecord) (s : S) : S
  find (s : S) (tenantId idempotencyKey : String) : Option JobRecord
  created_eq_ok : ∀ {jobId tenantId idempotencyKey inputHash configVersion s job s'},
    createOrGet jobId tenantId idempotencyKey inputHash configVersion s = (.ok (job, true), s') →
      job = .new jobId tenantId idempotencyKey inputHash configVersion
        ∧ find s tenantId idempotencyKey = none ∧ find s' tenantId idempotencyKey = some job
  find_of_not_created : ∀ {jobId tenantId idempotencyKey inputHash configVersion s r s'},
    createOrGet jobId tenantId idempotencyKey inputHash configVersion s = (r, s') →
      (∀ job, r ≠ .ok (job, true)) →
        find s' tenantId idempotencyKey = find s tenantId idempotencyKey
  find_updateState : ∀ {tenantId jobId state s job s' idempotencyKey old},
    updateState tenantId jobId state s = (.ok job, s') →
      find s tenantId idempotencyKey = some old → old.jobId = jobId →
        find s' tenantId idempotencyKey = some { old with state }
  updateState_error : ∀ {tenantId jobId state s e s'},
    updateState tenantId jobId state s = (.error e, s') → s' = s
  find_assign : sharesRecords = true → ∀ {job s old},
    find s job.tenantId job.idempotencyKey = some old → old.jobId = job.jobId →
      find (assign job s) job.tenantId job.idempotencyKey = some job
  assign_eq : sharesRecords = false → ∀ job s, assign job s = s

/-! ## Rows -/

namespace JobRows

variable (rows : List JobRecord)

/-- The job under a tenant and an idempotency key. -/
def find (tenantId idempotencyKey : String) : Option JobRecord :=
  rows.find? (fun job => job.tenantId = tenantId ∧ job.idempotencyKey = idempotencyKey)

/-- `get`. -/
def get (tenantId jobId : String) : Except PyError JobRecord :=
  match rows.find? (fun job => job.jobId = jobId ∧ job.tenantId = tenantId) with
  | some job => .ok job
  | none => .error (.sastt .tenantAccessDenied "job not found for this tenant"
      [("job_id", .str jobId)])

/-- `create_or_get`. -/
def createOrGet (jobId tenantId idempotencyKey inputHash : String)
    (configVersion : Option String) : Method PyError (List JobRecord) (JobRecord × Bool) :=
  fun rows =>
    match find rows tenantId idempotencyKey with
    | some existing =>
      if existing.inputHash ≠ inputHash then
        (.error (.sastt .idempotencyConflict "idempotency key reused with a different input"
          [("idempotency_key", .str idempotencyKey)]), rows)
      else (.ok (existing, false), rows)
    | none =>
      let job := JobRecord.new jobId tenantId idempotencyKey inputHash configVersion
      (.ok (job, true), rows ++ [job])

/-- `update_state`. -/
def updateState (tenantId jobId : String) (state : JobState) :
    Method PyError (List JobRecord) JobRecord := fun rows =>
  match get rows tenantId jobId with
  | .error e => (.error e, rows)
  | .ok job =>
    match job.transition state with
    | .error e => (.error e, rows)
    | .ok job => (.ok job, rows.map (fun row =>
        if row.jobId = jobId ∧ row.tenantId = tenantId then { row with state } else row))

/-- The record with an id is this record now. -/
def assign (job : JobRecord) (rows : List JobRecord) : List JobRecord :=
  rows.map (fun row => if row.jobId = job.jobId then job else row)

/-- Rows that keep their tenant and key are found where they were. -/
theorem find_map {f : JobRecord → JobRecord} {tenantId idempotencyKey : String}
    (hf : ∀ row, ((f row).tenantId = tenantId ∧ (f row).idempotencyKey = idempotencyKey)
      ↔ (row.tenantId = tenantId ∧ row.idempotencyKey = idempotencyKey)) :
    find (rows.map f) tenantId idempotencyKey = (find rows tenantId idempotencyKey).map f := by
  unfold find
  rw [List.find?_map]
  congr 2
  funext row
  exact decide_eq_decide.mpr (hf row)

theorem find_eq_some {rows : List JobRecord} {tenantId idempotencyKey : String} {job : JobRecord}
    (h : find rows tenantId idempotencyKey = some job) :
    job.tenantId = tenantId ∧ job.idempotencyKey = idempotencyKey := by
  unfold find at h
  have hp := List.find?_some h
  exact of_decide_eq_true hp

theorem find_append_self {rows : List JobRecord} {job : JobRecord}
    (h : find rows job.tenantId job.idempotencyKey = none) :
    find (rows ++ [job]) job.tenantId job.idempotencyKey = some job := by
  unfold find at h ⊢
  rw [List.find?_append, h]
  simp

/-- `create_or_get` creates a job, or changes nothing. -/
theorem createOrGet_cases {jobId tenantId idempotencyKey inputHash : String}
    {configVersion : Option String} {rows rows' : List JobRecord}
    {r : Except PyError (JobRecord × Bool)}
    (h : createOrGet jobId tenantId idempotencyKey inputHash configVersion rows = (r, rows')) :
    (find rows tenantId idempotencyKey = none
        ∧ r = .ok (.new jobId tenantId idempotencyKey inputHash configVersion, true)
        ∧ rows' = rows ++ [.new jobId tenantId idempotencyKey inputHash configVersion])
      ∨ (∀ job, r ≠ .ok (job, true)) ∧ rows' = rows := by
  unfold createOrGet at h
  cases hfind : find rows tenantId idempotencyKey with
  | none =>
    simp only [hfind] at h
    cases h
    exact Or.inl ⟨rfl, rfl, rfl⟩
  | some existing =>
    simp only [hfind] at h
    split at h <;> cases h
    · exact Or.inr ⟨nofun, rfl⟩
    · exact Or.inr ⟨nofun, rfl⟩

theorem find_cons (row : JobRecord) (tenantId idempotencyKey : String) :
    find (row :: rows) tenantId idempotencyKey
      = if row.tenantId = tenantId ∧ row.idempotencyKey = idempotencyKey then some row
        else find rows tenantId idempotencyKey := by
  unfold find
  rw [List.find?_cons]
  split <;> simp_all

/-- A record that is assigned to is found as it is now. -/
theorem find_assign {job old : JobRecord} {rows : List JobRecord}
    (hold : find rows job.tenantId job.idempotencyKey = some old) (hid : old.jobId = job.jobId) :
    find (assign job rows) job.tenantId job.idempotencyKey = some job := by
  unfold assign
  induction rows with
  | nil => cases hold
  | cons row rows ih =>
    rw [find_cons] at hold
    rw [List.map_cons, find_cons]
    by_cases hrow : row.jobId = job.jobId
    · rw [if_pos hrow, if_pos ⟨rfl, rfl⟩]
    · rw [if_neg hrow]
      split at hold
      · cases hold
        exact absurd hid hrow
      · next hno =>
        rw [if_neg hno]
        exact ih hold

theorem updateState_eq_ok {tenantId jobId : String} {state : JobState} {rows rows' : List JobRecord}
    {job : JobRecord} (h : updateState tenantId jobId state rows = (.ok job, rows')) :
    rows' = rows.map (fun row =>
      if row.jobId = jobId ∧ row.tenantId = tenantId then { row with state } else row) := by
  unfold updateState at h
  split at h
  · cases h
  · split at h
    · cases h
    · cases h
      rfl

end JobRows

/-- **The stores of the source** at the level of the port: the in-memory one
shares its records, the one in PostgreSQL does not. -/
def jobRows (sharesRecords : Bool) : JobStore (List JobRecord) where
  createOrGet := JobRows.createOrGet
  updateState := JobRows.updateState
  sharesRecords
  assign job rows := if sharesRecords then JobRows.assign job rows else rows
  find := JobRows.find
  created_eq_ok h := by
    rcases JobRows.createOrGet_cases h with ⟨hnone, hjob, hrows⟩ | ⟨hno, -⟩
    · cases hjob
      exact ⟨rfl, hnone, hrows ▸ JobRows.find_append_self hnone⟩
    · exact absurd rfl (hno _)
  find_of_not_created h hno := by
    rcases JobRows.createOrGet_cases h with ⟨-, hjob, -⟩ | ⟨-, hrows⟩
    · exact absurd hjob (hno _)
    · rw [hrows]
  find_updateState h hold hid := by
    rw [JobRows.updateState_eq_ok h, JobRows.find_map _ (fun row => by split <;> rfl), hold]
    have htenant := (JobRows.find_eq_some hold).1
    simp [hid, htenant]
  updateState_error h := by
    unfold JobRows.updateState at h
    split at h
    · cases h
      rfl
    · split at h <;> cases h
      rfl
  find_assign hshares job rows old hold hid := by
    rw [if_pos hshares]
    exact JobRows.find_assign hold hid
  assign_eq hshares job rows := by simp [hshares]

end Sastt
