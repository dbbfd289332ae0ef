import Sastt.Adapters.PostgresJobs

/-!
# Races between calls on one job

A job that has reached a final state is meant to stay in it, and what one
call has stored about a job is not to be undone by another that has not seen
it. `update_state` checks the first on the row as it was read and writes all
of the row's outcome back, so both hold as long as nobody updates the row
between its two statements: then the row still is what was read
(`UpToDate`), and the domain guard has been asked of it
(`guarded_program`).

When somebody does, what has been written in between decides. A run keeps
final states and loses no write exactly when each such race is harmless
(`terminal_stays_iff`).
-/

namespace Sastt

variable {G : Type}

/-- A state of the database and its clients. -/
abbrev JobSystem (G : Type) : Type := SharedStore (JobCommand G) JobReply (JobTable G)

/-- What can happen. -/
abbrev JobEvent (G : Type) : Type := ClientEvent (JobCall G) Unit

/-- One event. -/
def JobSystem.step (s : JobSystem G) (e : JobEvent G) : JobSystem G :=
  SharedStore.step JobTable.execute JobCall.program s e

/-- **A final state stays**, between one state of the database and a later
one. -/
def KeepsTerminal (s t : JobSystem G) : Prop :=
  ∀ jobId row, s.store.jobs jobId = some row → row.state ∈ JobState.terminal →
    ∃ row', t.store.jobs jobId = some row' ∧ row'.state = row.state

instance : Std.Refl (KeepsTerminal (G := G)) where
  refl _ _ row h _ := ⟨row, h, rfl⟩

instance : IsTrans (JobSystem G) KeepsTerminal where
  trans _ _ _ h h' jobId row hrow hterminal := by
    obtain ⟨row', hrow', hstate⟩ := h jobId row hrow hterminal
    obtain ⟨row'', hrow'', hstate'⟩ := h' jobId row' hrow' (hstate ▸ hterminal)
    exact ⟨row'', hrow'', hstate'.trans hstate⟩

/-- The event is the update of an `update_state` on a row that another call
has written since the client has read it. -/
def Races (s : JobSystem G) (e : JobEvent G) (state : JobState) (errorCode : Option String)
    (warnings : List String) (degraded : Bool) (row : JobRow) : Prop :=
  ∃ client tenantId jobId,
    s.issued e = some (client, (), .update tenantId jobId state errorCode warnings degraded)
      ∧ s.store.find tenantId jobId = some row
      ∧ s.store.seen client ≠ s.store.writes jobId

/-- **The event loses a write**: it puts an error code, warnings or a mark of
degradation back that were read before another call's write. -/
def LosesWrite (s : JobSystem G) (e : JobEvent G) : Prop :=
  ∃ state errorCode warnings degraded row, Races s e state errorCode warnings degraded row
    ∧ (errorCode, warnings, degraded) ≠ (row.errorCode, row.warnings, row.degradedMode)

/-- **The race, if the event is one, is harmless**: the other call has left
the error code, the warnings and the mark of degradation that were read, and
no final state but the one that is being written. -/
def HarmlessRace (s : JobSystem G) (e : JobEvent G) : Prop :=
  ∀ state errorCode warnings degraded row, Races s e state errorCode warnings degraded row →
    (errorCode, warnings, degraded) = (row.errorCode, row.warnings, row.degradedMode)
      ∧ (row.state ∈ JobState.terminal → state = row.state)

/-! ## The guard -/

/-- What `update_state` may write, knowing the job as it was read: the
outcome of that job, and a state it can be moved to. -/
def guardedUpdates : Discipline (JobCommand G) JobReply (Option JobRecord) where
  allows known
    | .update _ jobId state errorCode warnings degraded =>
      ∃ job, known = some job ∧ job.jobId = jobId
        ∧ (errorCode, warnings, degraded) = (job.errorCode, job.warnings, job.degraded)
        ∧ (job.state ∈ JobState.terminal → state = job.state)
    | _ => True
  learn known
    | .select _ jobId => fun row => row.map (jobFromRow jobId)
    | _ => fun _ => known

theorem JobRecord.transition_eq_ok {job job' : JobRecord} {state : JobState}
    (h : job.transition state = .ok job') :
    job' = { job with state } ∧ (job.state ∈ JobState.terminal → state = job.state) := by
  unfold JobRecord.transition at h
  split at h
  · cases h
  · next hguard =>
    cases h
    refine ⟨rfl, fun hterminal => ?_⟩
    by_contra hne
    exact hguard ⟨decide_eq_true hterminal, hne⟩

/-- What `get` returns is what the client knows. -/
theorem wp_get {tenantId jobId : String} {known : Option JobRecord}
    {Q : Option JobRecord → Except PyError JobRecord → Prop}
    (herror : ∀ known e, Q known (.error e))
    (hok : ∀ job, job.jobId = jobId → Q (some job) (.ok job)) :
    (PostgresJobStore.get tenantId jobId : JobProgram G _).Wp guardedUpdates Q known := by
  refine Program.wp_bind (Program.wp_issue True.intro (fun row => ?_))
  cases row with
  | none => exact herror _ _
  | some row => exact hok (jobFromRow jobId row) rfl

/-- **The calls write what they may**: the guard of `update_state` is asked
of the job that was read. -/
theorem guarded_program (call : JobCall G) (known : Option JobRecord) :
    call.program.Obeys guardedUpdates known := by
  cases call with
  | updateState tenantId jobId state =>
    refine Program.wp_bind (Program.wp_bind (wp_get (fun _ _ => True.intro) (fun job hid => ?_)))
    dsimp only
    cases hjob : job.transition state with
    | error e => exact True.intro
    | ok job' =>
      obtain ⟨rfl, hguard⟩ := JobRecord.transition_eq_ok hjob
      exact Program.wp_bind (Program.wp_issue ⟨job, rfl, hid, rfl, hguard⟩ (fun _ => True.intro))
  | setError tenantId jobId errorCode =>
    refine Program.wp_bind (Program.wp_bind (wp_get (fun _ _ => True.intro) (fun job _ => ?_)))
    exact Program.wp_bind (Program.wp_issue True.intro (fun _ => True.intro))
  | saveResult tenantId jobId segments sessionId warnings degraded =>
    exact Program.wp_bind (Program.wp_bind (Program.wp_issue True.intro (fun _ => True.intro)))

/-! ## What has been read -/

/-- **A job that nobody has written since it was read is as it was read.** -/
structure JobTable.UpToDate (s : JobTable G) : Prop where
  seen_le : ∀ client job, s.read client = some job → s.seen client ≤ s.writes job.jobId
  read_eq : ∀ client job, s.read client = some job → s.seen client = s.writes job.jobId →
    (s.jobs job.jobId).map (jobFromRow job.jobId) = some job

theorem JobTable.find_eq_some {s : JobTable G} {tenantId jobId : String} {row : JobRow}
    (h : s.find tenantId jobId = some row) : s.jobs jobId = some row :=
  (Option.filter_eq_some_iff.mp h).1

@[simp] theorem JobTable.modify_read (s : JobTable G) (tenantId jobId : String)
    (set : JobRow → JobRow) : (s.modify tenantId jobId set).read = s.read := by
  unfold JobTable.modify
  cases s.find tenantId jobId <;> rfl

theorem JobTable.modify_of_find {s : JobTable G} {tenantId jobId : String} {row : JobRow}
    (h : s.find tenantId jobId = some row) (set : JobRow → JobRow) :
    (s.modify tenantId jobId set).jobs = Function.update s.jobs jobId (some (set row)) := by
  unfold JobTable.modify
  rw [h]

theorem JobTable.modify_of_find_none {s : JobTable G} {tenantId jobId : String}
    (h : s.find tenantId jobId = none) (set : JobRow → JobRow) :
    s.modify tenantId jobId set = s := by
  unfold JobTable.modify
  rw [h]

theorem JobTable.UpToDate.modify {s : JobTable G} (h : s.UpToDate) (tenantId jobId : String)
    (set : JobRow → JobRow) : (s.modify tenantId jobId set).UpToDate := by
  unfold JobTable.modify
  cases hfind : s.find tenantId jobId with
  | none => exact h
  | some row =>
    constructor
    · intro client job hread
      refine (h.seen_le client job hread).trans ?_
      by_cases hid : job.jobId = jobId
      · simp [hid]
      · simp [Function.update_of_ne hid]
    · intro client job hread hseen
      by_cases hid : job.jobId = jobId
      · -- what was read before this write is out of date now
        have hle := h.seen_le client job hread
        subst hid
        simp only [Function.update_self] at hseen
        omega
      · simp only [Function.update_of_ne hid] at hseen ⊢
        exact h.read_eq client job hread hseen

theorem JobTable.UpToDate.execute {s : JobTable G} (h : s.UpToDate) (client : ℕ)
    (c : JobCommand G) : (s.execute () client c).1.UpToDate := by
  cases c with
  | select tenantId jobId =>
    -- the client that reads is up to date, and the others know what they knew
    have hself : ∀ job, (s.find tenantId jobId).map (jobFromRow jobId) = some job →
        job.jobId = jobId ∧ (s.jobs jobId).map (jobFromRow jobId) = some job := by
      intro job hjob
      obtain ⟨row, hfind, rfl⟩ := Option.map_eq_some_iff.mp hjob
      exact ⟨rfl, by rw [find_eq_some hfind, Option.map_some]⟩
    constructor
    · intro client' job hread
      by_cases hc : client' = client
      · subst hc
        obtain ⟨hid, -⟩ := hself job ((Function.update_self client' _ s.read).symm.trans hread)
        refine le_of_eq ((Function.update_self client' _ s.seen).trans ?_)
        exact congrArg s.writes hid.symm
      · refine (Function.update_of_ne hc _ s.seen).trans_le (h.seen_le client' job ?_)
        exact (Function.update_of_ne hc _ s.read).symm.trans hread
    · intro client' job hread hseen
      by_cases hc : client' = client
      · subst hc
        obtain ⟨hid, hjob⟩ := hself job ((Function.update_self client' _ s.read).symm.trans hread)
        rw [hid]
        exact hjob
      · exact h.read_eq client' job ((Function.update_of_ne hc _ s.read).symm.trans hread)
          ((Function.update_of_ne hc _ s.seen).symm.trans hseen)
  | update tenantId jobId state errorCode warnings degraded => exact h.modify ..
  | updateError tenantId jobId errorCode => exact h.modify ..
  | replaceResult tenantId jobId sessionId segments warnings degraded =>
    refine JobTable.UpToDate.modify (s := { s with segments := _ }) ?_ tenantId jobId _
    exact ⟨h.seen_le, h.read_eq⟩

/-- What a client has read last is what the replies have taught it. -/
theorem JobTable.read_execute (s : JobTable G) (client : ℕ) (c : JobCommand G) :
    (s.execute () client c).1.read client
      = guardedUpdates.learn (s.read client) c (s.execute () client c).2 := by
  cases c with
  | select tenantId jobId => exact Function.update_self client _ s.read
  | update _ _ _ _ _ _ => exact congrFun (JobTable.modify_read ..) client
  | updateError _ _ _ => exact congrFun (JobTable.modify_read ..) client
  | replaceResult _ _ _ _ _ _ => exact congrFun (JobTable.modify_read ..) client

/-- Nobody reads for another. -/
theorem JobTable.read_execute_other (s : JobTable G) {client client' : ℕ} (c : JobCommand G)
    (hc : client' ≠ client) : (s.execute () client c).1.read client' = s.read client' := by
  cases c with
  | select tenantId jobId => exact Function.update_of_ne hc _ s.read
  | update _ _ _ _ _ _ => exact congrFun (JobTable.modify_read ..) client'
  | updateError _ _ _ => exact congrFun (JobTable.modify_read ..) client'
  | replaceResult _ _ _ _ _ _ => exact congrFun (JobTable.modify_read ..) client'

/-- **The invariant of the runs**: the clients keep to the guard, and what
they have read is up to date unless somebody has written. -/
structure JobSystem.Guarded (s : JobSystem G) : Prop where
  obeys : s.Obeys guardedUpdates JobTable.read
  upToDate : s.store.UpToDate

theorem JobSystem.Guarded.step {s : JobSystem G} (h : s.Guarded) (e : JobEvent G) :
    (s.step e).Guarded := by
  constructor
  · exact SharedStore.Obeys.step (fun _ call _ => guarded_program call _)
      (fun _ client s c => JobTable.read_execute s client c)
      (fun _ client s c client' hc => JobTable.read_execute_other s c hc) h.obeys
  · unfold JobSystem.step
    rcases SharedStore.store_step JobTable.execute JobCall.program s e
      with ⟨-, hstore⟩ | ⟨client, _, c, -, hstore⟩
    · rw [hstore]
      exact h.upToDate
    · rw [hstore]
      exact h.upToDate.execute client c

/-! ## Runs -/

/-- An update of a row keeps final states exactly when it keeps that of the
row, if the row is in one. -/
theorem keepsTerminal_iff {s t : JobSystem G} {jobId : String} {row row' : JobRow}
    (hrow : s.store.jobs jobId = some row)
    (ht : t.store.jobs = Function.update s.store.jobs jobId (some row')) :
    KeepsTerminal s t ↔ (row.state ∈ JobState.terminal → row'.state = row.state) := by
  have hself : t.store.jobs jobId = some row' := by rw [ht, Function.update_self]
  constructor
  · intro h hterminal
    obtain ⟨row'', hrow'', hstate⟩ := h jobId row hrow hterminal
    rw [hself] at hrow''
    cases hrow''
    exact hstate
  · intro h jobId' row'' hrow'' hterminal
    by_cases hid : jobId' = jobId
    · rw [hid, hrow] at hrow''
      cases hrow''
      exact ⟨row', hid ▸ hself, h hterminal⟩
    · exact ⟨row'', by rwa [ht, Function.update_of_ne hid], rfl⟩

theorem keepsTerminal_of_jobs_eq {s t : JobSystem G} (h : t.store.jobs = s.store.jobs) :
    KeepsTerminal s t := fun _ row hrow _ => ⟨row, h ▸ hrow, rfl⟩

/-- An update that sets no state keeps final states. -/
theorem keepsTerminal_modify {s t : JobSystem G} (table : JobTable G) {tenantId jobId : String}
    {set : JobRow → JobRow} (hjobs : table.jobs = s.store.jobs)
    (ht : t.store = table.modify tenantId jobId set) (hset : ∀ row, (set row).state = row.state) :
    KeepsTerminal s t := by
  cases hfind : table.find tenantId jobId with
  | none =>
    rw [JobTable.modify_of_find_none hfind] at ht
    exact keepsTerminal_of_jobs_eq (by rw [ht, hjobs])
  | some row =>
    have hrow : s.store.jobs jobId = some row := hjobs ▸ JobTable.find_eq_some hfind
    have hupdate : t.store.jobs = Function.update s.store.jobs jobId (some (set row)) := by
      rw [ht, JobTable.modify_of_find hfind, hjobs]
    exact (keepsTerminal_iff hrow hupdate).mpr (fun _ => hset row)

/-- **What one event does**: it keeps the final states and loses no write
exactly when, if it is a race, it is a harmless one. -/
theorem step_sound_iff {s : JobSystem G} (h : s.Guarded) (e : JobEvent G) :
    (KeepsTerminal s (s.step e) ∧ ¬ LosesWrite s e) ↔ HarmlessRace s e := by
  have hnorace : (∀ state errorCode warnings degraded row,
      ¬ Races s e state errorCode warnings degraded row) → KeepsTerminal s (s.step e) →
      ((KeepsTerminal s (s.step e) ∧ ¬ LosesWrite s e) ↔ HarmlessRace s e) := by
    intro hno hkeeps
    refine iff_of_true ⟨hkeeps, ?_⟩ (fun _ _ _ _ _ hrace => absurd hrace (hno _ _ _ _ _))
    rintro ⟨_, _, _, _, _, hrace, -⟩
    exact hno _ _ _ _ _ hrace
  rcases SharedStore.store_step JobTable.execute JobCall.program s e
    with ⟨hnone, hstore⟩ | ⟨client, _, c, hissued, hstore⟩
  · refine hnorace ?_ (keepsTerminal_of_jobs_eq (congrArg JobTable.jobs hstore))
    rintro _ _ _ _ _ ⟨_, _, _, hsome, -⟩
    rw [hnone] at hsome
    cases hsome
  · have hother : (∀ tenantId jobId state errorCode warnings degraded,
        c ≠ .update tenantId jobId state errorCode warnings degraded) →
        ∀ state errorCode warnings degraded row,
          ¬ Races s e state errorCode warnings degraded row := by
      rintro hc _ _ _ _ _ ⟨_, _, _, hsome, -⟩
      rw [hissued] at hsome
      cases hsome
      exact hc _ _ _ _ _ _ rfl
    cases c with
    | select tenantId jobId =>
      refine hnorace (hother nofun) (keepsTerminal_of_jobs_eq ?_)
      exact (congrArg JobTable.jobs hstore).trans rfl
    | updateError tenantId jobId errorCode =>
      exact hnorace (hother nofun) (keepsTerminal_modify s.store rfl hstore (fun _ => rfl))
    | replaceResult tenantId jobId sessionId segments warnings degraded =>
      refine hnorace (hother nofun) ?_
      let saved : JobTable G := { s.store with
        segments :=
          Function.update s.store.segments (tenantId, jobId) (segments.map (sessionId, ·)) }
      exact keepsTerminal_modify saved rfl hstore (fun _ => rfl)
    | update tenantId jobId state errorCode warnings degraded =>
      have hraces : ∀ state' errorCode' warnings' degraded' row',
          Races s e state' errorCode' warnings' degraded' row' →
            (state', errorCode', warnings', degraded') = (state, errorCode, warnings, degraded)
              ∧ s.store.find tenantId jobId = some row'
              ∧ s.store.seen client ≠ s.store.writes jobId := by
        rintro _ _ _ _ _ ⟨_, _, _, hsome, hfind, hseen⟩
        rw [hissued] at hsome
        cases hsome
        exact ⟨rfl, hfind, hseen⟩
      cases hfind : s.store.find tenantId jobId with
      | none =>
        refine hnorace (fun _ _ _ _ _ hrace => ?_) (keepsTerminal_of_jobs_eq ?_)
        · rw [(hraces _ _ _ _ _ hrace).2.1] at hfind
          cases hfind
        · exact congrArg JobTable.jobs (hstore.trans (JobTable.modify_of_find_none hfind _))
      | some row =>
        have hrow := JobTable.find_eq_some hfind
        have hkeeps := keepsTerminal_iff hrow
          ((congrArg JobTable.jobs hstore).trans (JobTable.modify_of_find hfind _))
        by_cases hseen : s.store.seen client = s.store.writes jobId
        · refine hnorace (fun _ _ _ _ _ hrace => (hraces _ _ _ _ _ hrace).2.2 hseen)
            (hkeeps.mpr ?_)
          -- nobody has written since the guard was asked
          obtain ⟨job, hread, rfl, -, hguard⟩ := h.obeys.issued hissued
          have hjob := h.upToDate.read_eq client job hread hseen
          rw [hrow, Option.map_some, Option.some_inj] at hjob
          rwa [← hjob] at hguard
        · have hrace : Races s e state errorCode warnings degraded row :=
            ⟨client, tenantId, jobId, hissued, hfind, hseen⟩
          constructor
          · rintro ⟨hkept, hloses⟩ _ _ _ _ _ hrace'
            obtain ⟨heq, hfind', -⟩ := hraces _ _ _ _ _ hrace'
            cases heq
            rw [hfind] at hfind'
            cases hfind'
            refine ⟨?_, hkeeps.mp hkept⟩
            by_contra hne
            exact hloses ⟨_, _, _, _, _, hrace, hne⟩
          · intro hharmless
            refine ⟨hkeeps.mpr (hharmless _ _ _ _ _ hrace).2, ?_⟩
            rintro ⟨_, _, _, _, _, hrace', hne⟩
            exact hne (hharmless _ _ _ _ _ hrace').1

/-- **Final states stay and no write is lost along a run exactly when each
race is harmless**: it reads the outcome that is there, and overwrites no
final state but with itself. -/
theorem terminal_stays_iff (jobs : String → Option JobRow) (events : List (JobEvent G)) :
    (Onward JobSystem.step KeepsTerminal { store := { jobs } } events
        ∧ EachStep JobSystem.step (fun s e => ¬ LosesWrite s e) { store := { jobs } } events)
      ↔ EachStep JobSystem.step HarmlessRace { store := { jobs } } events := by
  rw [onward_iff, ← eachStep_and]
  refine eachStep_congr (I := JobSystem.Guarded) ?_ ?_ ?_
  · exact ⟨fun _ _ hp => (nomatch hp),
      ⟨fun _ _ hread => (nomatch hread), fun _ _ hread => (nomatch hread)⟩⟩
  · exact fun s e h => h.step e
  · exact fun s e h => step_sound_iff h e

/-- A job that is being processed. -/
def processedJob : String → Option JobRow := fun jobId =>
  if jobId = "job" then
    some { tenantId := "tenant", idempotencyKey := "key", state := .fusing, inputHash := "hash" }
  else none

/-- A worker saves the result of a job and finishes it. -/
def finishJob : List (JobEvent ℕ) :=
  [.start 1 (.saveResult "tenant" "job" [] "job" ["ASR_PARTIAL"] true), .command 1 (),
    .start 1 (.updateState "tenant" "job" .degradedSucceeded), .command 1 (), .command 1 ()]

/-- The job is cancelled by a call that has read it before. -/
def cancelledRun : List (JobEvent ℕ) :=
  [.start 0 (.updateState "tenant" "job" .cancelled), .command 0 ()] ++ finishJob

/-- **A finished job can be cancelled**, and what was saved about it is
lost. -/
theorem finished_job_cancelled :
    ¬ Onward JobSystem.step KeepsTerminal { store := { jobs := processedJob } }
        (cancelledRun ++ [.command 0 ()])
      ∧ ¬ EachStep JobSystem.step (fun s e => ¬ LosesWrite s e)
        { store := { jobs := processedJob } } (cancelledRun ++ [.command 0 ()]) := by
  constructor
  · intro h
    obtain ⟨row, hrow, hstate⟩ := h cancelledRun [.command 0 ()] (List.prefix_refl _) "job"
      { tenantId := "tenant", idempotencyKey := "key", state := .degradedSucceeded,
        inputHash := "hash", warnings := ["ASR_PARTIAL"], degradedMode := true }
      (by decide +kernel) (by decide +kernel)
    have hcancelled : ((List.foldl JobSystem.step { store := { jobs := processedJob } }
        (cancelledRun ++ [.command 0 ()])).store.jobs "job").map JobRow.state
        = some .cancelled := by decide +kernel
    rw [hrow, Option.map_some, hstate] at hcancelled
    cases hcancelled
  · intro h
    refine h cancelledRun (.command 0 ()) (List.prefix_refl _)
      ⟨.cancelled, none, [], false, _, ⟨0, "tenant", "job", rfl, rfl, by decide +kernel⟩, ?_⟩
    decide +kernel

end Sastt
