import Sastt.Api.RetainedAudio
import Sastt.Lib.Pairs

/-!
# The jobs of one tenant

What the API knows of jobs is in one state for all tenants. `Seen` compares it
with the state of an API at which one tenant was alone: the rows of the tenant
are the same, so is what is known of its jobs, and the recordings that are
retained of them are the last ones the tenant would have by itself. There are
fewer of them, because the recordings of all tenants share the room there is.

A request of the tenant is answered the same in both states and leaves them
related, except that a recording may be gone that the tenant alone would still
have. A request of somebody else leaves the first state related to the second.
-/

namespace Sastt

open Method

variable {R : Type} [Field R] [LinearOrder R]

/-- **The API works in memory**: it runs jobs itself, and there are no other
stores than its own. -/
structure JobApi.InMemory (api : JobApi R) : Prop where
  keeps : api.toApiServices.KeepsInMemory
  taskQueue : api.taskQueue = none
  durable : api.durable = false

/-! ## Creating a job, in memory -/

section Equations

variable {services : ApiServices (List JobRecord) R} {s : AppState (List JobRecord) R}

/-- The state in which the audio of a job was just retained. -/
def withAudio (tenantId jobId : String) (audio : Audio) (s : AppState (List JobRecord) R) :
    AppState (List JobRecord) R :=
  let kept := evictAudio
    (s.jobAudioKeys.filter (·.1 ≠ jobId) ++ [(jobId, tenantId, jobAudioKey jobId)])
    (Function.update s.objects (tenantId, jobAudioKey jobId) (some audio))
  { s with
    objects := kept.2
    jobAudioKeys := kept.1
    jobAudioPreviews := s.jobAudioPreviews.filter (fun p => p.1 ∈ kept.1.map Prod.fst) }

theorem retainJobAudio_eq (hmemory : services.KeepsInMemory) (tenantId jobId : String)
    (audio : Audio) :
    retainJobAudio services tenantId jobId audio s
      = (.ok (jobAudioKey jobId), withAudio tenantId jobId audio s) := by
  unfold retainJobAudio withAudio
  rw [hmemory.putObject, ofExcept_ok_bind, modify_bind, modify_bind]
  dsimp only
  rw [if_pos hmemory.inMemoryObjects]
  rfl

/-- The state in which a job that was created is run. -/
def submitted (request : JobRequest) (input : JobInput) (job : JobRecord)
    (s : AppState (List JobRecord) R) : AppState (List JobRecord) R :=
  withAudio request.tenantId job.jobId input.audio { s with
    jobScenarios := Function.update s.jobScenarios job.jobId (some (input.scenario.getD "upload"))
    jobLanguages := Function.update s.jobLanguages job.jobId (some input.language) }

theorem submitJob_eq (hmemory : services.KeepsInMemory) (hqueue : services.taskQueue = none)
    (request : JobRequest) (input : JobInput) (job : JobRecord) :
    submitJob services request input job s
      = runJob services job input.scenario input.audio input.language
        (submitted request input job s) := by
  unfold submitJob submitted
  rw [modify_bind, bind_of_ok (retainJobAudio_eq hmemory _ _ _), hqueue]

/-- The record a request creates. -/
def JobRequest.newJob (services : ApiServices (List JobRecord) R) (request : JobRequest)
    (input : JobInput) : JobRecord :=
  .new request.jobId request.tenantId input.idempotencyKey (services.sha256 input.audio)
    (some services.configVersion)

/-- The row of a request is found, or made. -/
theorem createOrGetJob_rows {sharesRecords : Bool} (hjobs : services.jobs = jobRows sharesRecords)
    (request : JobRequest) (input : JobInput) :
    createOrGetJob services request input s
      = match JobRows.find s.jobs request.tenantId input.idempotencyKey with
        | some existing =>
          if existing.inputHash ≠ services.sha256 input.audio then
            (.error (.http 409 "idempotency key reused with a different input"), s)
          else (.ok (existing, false), s)
        | none => (.ok (request.newJob services input, true),
            { s with jobs := s.jobs ++ [request.newJob services input] }) := by
  unfold createOrGetJob catchIf zoom
  rw [hjobs]
  dsimp only [jobRows, JobRows.createOrGet]
  cases JobRows.find s.jobs request.tenantId input.idempotencyKey with
  | none => rfl
  | some existing =>
    dsimp only
    by_cases hhash : existing.inputHash ≠ services.sha256 input.audio
    · simp only [if_pos hhash]
      rfl
    · simp only [if_neg hhash]

/-- **What a request does**: a job is found, or created and run. -/
theorem createJob_eq {sharesRecords : Bool} (hjobs : services.jobs = jobRows sharesRecords)
    (request : JobRequest) :
    createJob services request s = match checkRequest services request with
      | .error e => (.error e, s)
      | .ok input =>
        match JobRows.find s.jobs request.tenantId input.idempotencyKey with
        | some existing =>
          if existing.inputHash ≠ services.sha256 input.audio then
            (.error (.http 409 "idempotency key reused with a different input"), s)
          else (.ok (jobView services s existing false), s)
        | none =>
          (submitJob services request input (request.newJob services input) >>= fun job =>
            read >>= fun u => pure (jobView services u job true))
              { s with jobs := s.jobs ++ [request.newJob services input] } := by
  unfold createJob
  cases checkRequest services request with
  | error e => rfl
  | ok input =>
    rw [ofExcept_ok_bind]
    dsimp only
    have hstore := createOrGetJob_rows (s := s) hjobs request input
    cases hfind : JobRows.find s.jobs request.tenantId input.idempotencyKey with
    | none =>
      rw [hfind] at hstore
      rw [bind_of_ok hstore]
      rfl
    | some existing =>
      rw [hfind] at hstore
      dsimp only at hstore ⊢
      split at hstore
      · next hhash => rw [if_pos hhash, bind_of_error hstore]
      · next hhash =>
        rw [if_neg hhash, bind_of_ok hstore]
        rfl

/-- The state after a request is that before it, or that in which a job was
submitted. -/
theorem createJob_snd {sharesRecords : Bool} (hjobs : services.jobs = jobRows sharesRecords)
    (request : JobRequest) :
    (createJob services request s).2 = s
      ∨ ∃ input, checkRequest services request = .ok input
        ∧ (createJob services request s).2
          = (submitJob services request input (request.newJob services input)
            { s with jobs := s.jobs ++ [request.newJob services input] }).2 := by
  rw [createJob_eq hjobs]
  cases checkRequest services request with
  | error e => exact Or.inl rfl
  | ok input =>
    dsimp only
    cases JobRows.find s.jobs request.tenantId input.idempotencyKey with
    | some existing =>
      dsimp only
      split <;> exact Or.inl rfl
    | none =>
      refine Or.inr ⟨input, rfl, ?_⟩
      dsimp only
      set s₁ : AppState (List JobRecord) R :=
        { s with jobs := s.jobs ++ [request.newJob services input] }
      rcases hrun : submitJob services request input (request.newJob services input) s₁ with
        ⟨e | job, v⟩
      · rw [bind_of_error hrun]
      · rw [bind_of_ok hrun]
        rfl

end Equations

/-! ## What a tenant sees -/

/-- No row with the id is another tenant's. -/
def OwnJob (B jobId : String) (rows : List JobRecord) : Prop :=
  ∀ row ∈ rows, row.jobId = jobId → row.tenantId = B

/-- **What the tenant sees is the same in both states**, the second of which has
nothing else. Of the recordings it is as much as is retained in the first. -/
structure Seen (B : String) (s t : AppState (List JobRecord) R) : Prop where
  jobs : t.jobs = s.jobs.filter (fun row => row.tenantId = B)
  results : ∀ j, OwnJob B j s.jobs → t.results j = s.results j
  jobScenarios : ∀ j, OwnJob B j s.jobs → t.jobScenarios j = s.jobScenarios j
  jobLanguages : ∀ j, OwnJob B j s.jobs → t.jobLanguages j = s.jobLanguages j
  jobAudioKeys : s.jobAudioKeys.filter (fun entry => entry.2.1 = B) <:+ t.jobAudioKeys

/-- The states are related, and the job is the tenant's. -/
def SeenJob (B jobId : String) (s t : AppState (List JobRecord) R) : Prop :=
  Seen B s t ∧ OwnJob B jobId s.jobs

section Seen

variable {B jobId : String} {s t : AppState (List JobRecord) R}

/-- What the tenant looks for among its rows is found in both. -/
theorem Seen.find? (h : Seen B s t) {p : JobRecord → Bool}
    (hp : ∀ row, p row = true → row.tenantId = B) : t.jobs.find? p = s.jobs.find? p := by
  rw [h.jobs, List.find?_filter]
  congr 1
  funext row
  cases hrow : p row with
  | false => simp
  | true => simpa using hp row hrow

theorem Seen.find (h : Seen B s t) (idempotencyKey : String) :
    JobRows.find t.jobs B idempotencyKey = JobRows.find s.jobs B idempotencyKey :=
  h.find? (fun _ hrow => (of_decide_eq_true hrow).1)

theorem Seen.get (h : Seen B s t) (jobId : String) :
    JobRows.get t.jobs B jobId = JobRows.get s.jobs B jobId := by
  unfold JobRows.get
  rw [h.find? (fun row hrow => (of_decide_eq_true hrow).2)]

theorem Seen.jobView (h : Seen B s t) (services : ApiServices (List JobRecord) R) {job : JobRecord}
    (hown : OwnJob B job.jobId s.jobs) (created : Bool) :
    Sastt.jobView services t job created = Sastt.jobView services s job created := by
  unfold Sastt.jobView
  rw [h.results _ hown, h.jobScenarios _ hown, h.jobLanguages _ hown]

/-- Rows that are written to in both states. -/
theorem Seen.map_jobs (h : Seen B s t) {write : JobRecord → JobRecord}
    (hwrite : ∀ row ∈ s.jobs, (write row).jobId = row.jobId
      ∧ ((write row).tenantId = B ↔ row.tenantId = B)) :
    Seen B { s with jobs := s.jobs.map write } { t with jobs := t.jobs.map write } := by
  have hown : ∀ j, OwnJob B j (s.jobs.map write) → OwnJob B j s.jobs := fun j hj row hrow hid =>
    (hwrite row hrow).2.mp (hj _ (List.mem_map_of_mem hrow) ((hwrite row hrow).1.trans hid))
  refine ⟨?_, fun j hj => h.results j (hown j hj), fun j hj => h.jobScenarios j (hown j hj),
    fun j hj => h.jobLanguages j (hown j hj), h.jobAudioKeys⟩
  show t.jobs.map write = (s.jobs.map write).filter _
  rw [h.jobs, List.filter_map]
  refine congrArg (List.map write) (List.filter_congr (fun row hrow => ?_))
  exact decide_eq_decide.mpr (hwrite row hrow).2.symm

theorem OwnJob.map {rows : List JobRecord} (h : OwnJob B jobId rows)
    {write : JobRecord → JobRecord} (hwrite : ∀ row ∈ rows, (write row).jobId = row.jobId
      ∧ ((write row).tenantId = B ↔ row.tenantId = B)) : OwnJob B jobId (rows.map write) := by
  intro row hrow hid
  obtain ⟨old, hold, rfl⟩ := List.mem_map.mp hrow
  exact (hwrite old hold).2.mpr (h old hold ((hwrite old hold).1.symm.trans hid))

/-- What is set in both dictionaries is the same where they are. -/
theorem eqOn_update {α : Type} {rows : List JobRecord} {f g : String → α}
    (h : ∀ j, OwnJob B j rows → g j = f j) (key : String) (value : α) :
    ∀ j, OwnJob B j rows → Function.update g key value j = Function.update f key value j := by
  intro j hj
  by_cases hid : j = key
  · rw [hid, Function.update_self, Function.update_self]
  · rw [Function.update_of_ne hid, Function.update_of_ne hid, h j hj]

/-! ### The same job in both -/

variable {services : ApiServices (List JobRecord) R} {sharesRecords : Bool} {job : JobRecord}

/-- The fields of a record of the job are assigned to in both states. -/
theorem agree_assignJob (hjobs : services.jobs = jobRows sharesRecords)
    (hjob : IsJob jobId B job) :
    Agree (SeenJob B jobId) (IsJob jobId B) (assignJob services job) (assignJob services job) := by
  refine agree_bind (agree_modify (fun s t hst => ?_)) (fun _ _ => agree_pure hjob)
  rw [hjobs]
  cases sharesRecords with
  | false => exact hst
  | true =>
    have hwrite : ∀ row ∈ s.jobs,
        (if row.jobId = job.jobId then job else row).jobId = row.jobId
          ∧ ((if row.jobId = job.jobId then job else row).tenantId = B ↔ row.tenantId = B) := by
      intro row hrow
      split
      · next hid => exact ⟨hid.symm, iff_of_true hjob.2 (hst.2 row hrow (hid.trans hjob.1))⟩
      · exact ⟨rfl, Iff.rfl⟩
    exact ⟨hst.1.map_jobs hwrite, hst.2.map hwrite⟩

theorem agree_transitionJob (hjobs : services.jobs = jobRows sharesRecords)
    (hjob : IsJob jobId B job) (state : JobState) :
    Agree (SeenJob B jobId) (IsJob jobId B) (transitionJob services job state)
      (transitionJob services job state) := by
  refine agree_bind (agree_ofExcept (A := IsJob jobId B) (fun job' hok => ?_))
    (fun job' hjob' => agree_assignJob hjobs hjob')
  unfold JobRecord.transition at hok
  split at hok <;> cases hok
  exact hjob

/-- **The job is run in both states.** -/
theorem agree_runJob (hjobs : services.jobs = jobRows sharesRecords) (hjob : IsJob jobId B job)
    (scenario : Option String) (audio : Audio) (language : Option String) :
    Agree (SeenJob B jobId) (IsJob jobId B) (runJob services job scenario audio language)
      (runJob services job scenario audio language) := by
  have htrue : ∀ {α : Type} (x : Except PyError α), Agree (SeenJob B jobId) (fun _ => True)
      (ofExcept x : Method PyError (AppState (List JobRecord) R) α) (ofExcept x) :=
    fun x => agree_ofExcept (fun _ _ => trivial)
  have hfail : ∀ job e, IsJob jobId B job → Agree (SeenJob B jobId) (fun _ => True)
      (failJob services job e) (failJob services job e) := by
    intro job e hjob
    exact agree_bind (agree_assignJob hjobs hjob) (fun job hjob =>
      agree_bind (agree_transitionJob hjobs hjob _) (fun _ _ => agree_throw e))
  refine agree_bind (htrue _) (fun _ _ => agree_bind (agree_transitionJob hjobs hjob _)
    (fun job hjob => agree_bind (htrue _) (fun payload _ => agree_bind
      (agree_catchIf (htrue _) (fun e => hfail job e hjob)) (fun result _ => agree_bind
        (agree_modify (fun s t hst =>
          ⟨{ hst.1 with results := eqOn_update hst.1.results _ _ }, hst.2⟩))
        (fun _ _ => agree_transitionJob hjobs hjob _)))))

/-! ### Creating a job -/

/-- A few entries at the end are at the end of the last ones there is room
for. -/
theorem suffix_drop_of_length_le {α : Type} {xs ys : List α} {n : ℕ} (h : xs <:+ ys)
    (hlength : xs.length ≤ n) : xs <:+ ys.drop (ys.length - n) := by
  refine List.suffix_of_suffix_length_le h (List.drop_suffix _ _) ?_
  rw [List.length_drop]
  have hle := h.length_le
  omega

/-- The audio of a job of the tenant is retained in both states. -/
theorem Seen.withAudio (h : Seen B s t) (jobId : String) (audio : Audio) :
    Seen B (withAudio B jobId audio s) (withAudio B jobId audio t) := by
  refine { h with jobAudioKeys := ?_ }
  set entry := (jobId, B, jobAudioKey jobId)
  set keys := s.jobAudioKeys.filter (·.1 ≠ jobId) ++ [entry] with hkeys
  set keys' := t.jobAudioKeys.filter (·.1 ≠ jobId) ++ [entry] with hkeys'
  show (evictAudio keys _).1.filter _ <:+ (evictAudio keys' _).1
  rw [evictAudio_fst, evictAudio_fst]
  have hsuffix : keys.filter (fun entry => entry.2.1 = B) <:+ keys' := by
    rw [hkeys, hkeys', List.filter_append, List.filter_filter,
      List.filter_cons_of_pos (by simp [entry])]
    have hold := h.jobAudioKeys.filter (fun e => e.1 ≠ jobId)
    rw [List.filter_filter] at hold
    simp only [Bool.and_comm] at hold ⊢
    obtain ⟨front, hfront⟩ := hold
    exact ⟨front, by rw [← List.append_assoc, hfront]; rfl⟩
  refine suffix_drop_of_length_le (((List.drop_suffix _ _).filter _).trans hsuffix) ?_
  refine (List.length_filter_le _ _).trans ?_
  rw [List.length_drop]
  omega

/-- The audio of a job of another tenant is retained, which may take the room of
the tenant's. -/
theorem suffix_withAudio {A : String} (hne : A ≠ B)
    (hfresh : ∀ entry ∈ s.jobAudioKeys, entry.1 ≠ jobId) (audio : Audio) :
    (withAudio A jobId audio s).jobAudioKeys.filter (fun entry => entry.2.1 = B)
      <:+ s.jobAudioKeys.filter (fun entry => entry.2.1 = B) := by
  unfold Sastt.withAudio
  dsimp only
  rw [evictAudio_fst, List.filter_eq_self.mpr (fun e he => decide_eq_true (hfresh e he))]
  refine ((List.drop_suffix _ _).filter _).trans ?_
  rw [List.filter_append, List.filter_cons_of_neg (by simpa using hne), List.filter_nil,
    List.append_nil]

/-- **Writing a job of another tenant** is not seen, once its row is there. -/
theorem Seen.of_onlyJob (h : Seen B s t) {A : String} (hne : A ≠ B)
    {v : AppState (List JobRecord) R} (honly : OnlyJob jobId A s v)
    (hrows : ∀ row ∈ s.jobs, row.jobId = jobId → row.tenantId = A)
    (hrow : ∃ row ∈ s.jobs, row.jobId = jobId)
    (hkeys : v.jobAudioKeys.filter (fun entry => entry.2.1 = B)
      <:+ s.jobAudioKeys.filter (fun entry => entry.2.1 = B)) : Seen B v t := by
  obtain ⟨write, added, hjobs, hother, hjob, hadded⟩ := honly.jobs
  have htenant : ∀ row ∈ s.jobs, row.jobId = jobId → (write row).tenantId = A := by
    intro row hrow hid
    rcases (hjob row hid).2 with hsame | hA
    · exact hsame.trans (hrows row hrow hid)
    · exact hA
  have hown : ∀ j, OwnJob B j v.jobs → j ≠ jobId ∧ OwnJob B j s.jobs := by
    intro j hj
    rw [hjobs] at hj
    have hmem : ∀ row ∈ s.jobs, write row ∈ s.jobs.map write ++ added := fun row hrow =>
      List.mem_append_left _ (List.mem_map_of_mem hrow)
    have hj' : j ≠ jobId := by
      rintro rfl
      obtain ⟨row, hmem', hid⟩ := hrow
      exact hne ((htenant row hmem' hid).symm.trans (hj _ (hmem row hmem') (hjob row hid).1))
    refine ⟨hj', fun row hrow hid => ?_⟩
    have hsame := hother row (fun heq => hj' (hid.symm.trans heq))
    have hB := hj _ (hmem row hrow) (by rw [hsame, hid])
    rwa [hsame] at hB
  refine ⟨?_, fun j hj => ?_, fun j hj => ?_, fun j hj => ?_, hkeys.trans h.jobAudioKeys⟩
  · have hadded' : added.filter (fun row => row.tenantId = B) = [] :=
      List.filter_eq_nil_iff.mpr (fun row hrow => by simpa [(hadded row hrow).2] using hne)
    rw [hjobs, List.filter_append, hadded', List.append_nil, List.filter_map, h.jobs]
    have hsame : s.jobs.filter ((fun row => decide (row.tenantId = B)) ∘ write)
        = s.jobs.filter (fun row => row.tenantId = B) := by
      refine List.filter_congr (fun row hrow => decide_eq_decide.mpr ?_)
      by_cases hid : row.jobId = jobId
      · rw [htenant row hrow hid, hrows row hrow hid]
      · rw [hother row hid]
    rw [hsame]
    have hkept : ∀ row ∈ s.jobs.filter (fun row => row.tenantId = B), write row = id row := by
      intro row hrow
      obtain ⟨hmem, hB⟩ := List.mem_filter.mp hrow
      refine hother row (fun hid => hne ?_)
      exact (hrows row hmem hid).symm.trans (of_decide_eq_true hB)
    exact ((List.map_congr_left hkept).trans (List.map_id _)).symm
  · rw [h.results j (hown j hj).2, honly.results j (hown j hj).1]
  · rw [h.jobScenarios j (hown j hj).2, honly.jobScenarios j (hown j hj).1]
  · rw [h.jobLanguages j (hown j hj).2, honly.jobLanguages j (hown j hj).1]

/-- A row of the tenant is added to both. -/
theorem Seen.append (h : Seen B s t) (hjob : job.tenantId = B) :
    Seen B { s with jobs := s.jobs ++ [job] } { t with jobs := t.jobs ++ [job] } := by
  have hown : ∀ j, OwnJob B j (s.jobs ++ [job]) → OwnJob B j s.jobs :=
    fun j hj row hrow => hj row (List.mem_append_left _ hrow)
  refine ⟨?_, fun j hj => h.results j (hown j hj), fun j hj => h.jobScenarios j (hown j hj),
    fun j hj => h.jobLanguages j (hown j hj), h.jobAudioKeys⟩
  show t.jobs ++ [job] = (s.jobs ++ [job]).filter _
  rw [List.filter_append, ← h.jobs, List.filter_cons_of_pos (by simpa using hjob), List.filter_nil]

/-- A row of another tenant is added. -/
theorem Seen.append_of_ne (h : Seen B s t) (hjob : job.tenantId ≠ B) :
    Seen B { s with jobs := s.jobs ++ [job] } t := by
  have hown : ∀ j, OwnJob B j (s.jobs ++ [job]) → OwnJob B j s.jobs :=
    fun j hj row hrow => hj row (List.mem_append_left _ hrow)
  refine ⟨?_, fun j hj => h.results j (hown j hj), fun j hj => h.jobScenarios j (hown j hj),
    fun j hj => h.jobLanguages j (hown j hj), h.jobAudioKeys⟩
  show t.jobs = (s.jobs ++ [job]).filter _
  rw [List.filter_append, ← h.jobs, List.filter_cons_of_neg (by simpa using hjob), List.filter_nil,
    List.append_nil]

/-- What is noted of a job is noted in both. -/
theorem Seen.submitted (h : Seen B s t) {request : JobRequest} (hrequest : request.tenantId = B)
    (input : JobInput) (job : JobRecord) :
    Seen B (submitted request input job s) (submitted request input job t) := by
  have hnoted : Seen B
      { s with
        jobScenarios := Function.update s.jobScenarios job.jobId
          (some (input.scenario.getD "upload"))
        jobLanguages := Function.update s.jobLanguages job.jobId (some input.language) }
      { t with
        jobScenarios := Function.update t.jobScenarios job.jobId
          (some (input.scenario.getD "upload"))
        jobLanguages := Function.update t.jobLanguages job.jobId (some input.language) } :=
    { h with
      jobScenarios := eqOn_update h.jobScenarios _ _
      jobLanguages := eqOn_update h.jobLanguages _ _ }
  unfold Sastt.submitted
  rw [hrequest]
  exact hnoted.withAudio _ _

variable (hjobs : services.jobs = jobRows sharesRecords) (hmemory : services.KeepsInMemory)
  (hqueue : services.taskQueue = none)

include hjobs hmemory hqueue

/-- **A job of the tenant is created in both states**, or found in both. -/
theorem agreeAt_createJob {request : JobRequest} (hst : Seen request.tenantId s t)
    (hfresh : ∀ row ∈ s.jobs, row.jobId ≠ request.jobId)
    (hown : ∀ row ∈ s.jobs, row.tenantId = request.tenantId →
      OwnJob request.tenantId row.jobId s.jobs) :
    AgreeAt (Seen request.tenantId) (fun _ => True) (createJob services request)
      (createJob services request) s t := by
  have heqs := createJob_eq (s := s) hjobs request
  have heqt := createJob_eq (s := t) hjobs request
  cases hcheck : checkRequest services request with
  | error e =>
    simp only [hcheck] at heqs heqt
    exact (agree_throw e s t hst).congr heqs heqt
  | ok input =>
    simp only [hcheck] at heqs heqt
    have hfind := hst.find input.idempotencyKey
    cases hfound : JobRows.find s.jobs request.tenantId input.idempotencyKey with
    | some existing =>
      rw [hfound] at hfind
      simp only [hfound] at heqs
      simp only [hfind] at heqt
      by_cases hhash : existing.inputHash ≠ services.sha256 input.audio
      · rw [if_pos hhash] at heqs heqt
        exact (agree_throw _ s t hst).congr heqs heqt
      · rw [if_neg hhash] at heqs heqt
        rw [hst.jobView services (hown existing (List.mem_of_find?_eq_some hfound)
          (JobRows.find_eq_some hfound).1)] at heqt
        exact (agree_pure trivial s t hst).congr heqs heqt
    | none =>
      rw [hfound] at hfind
      simp only [hfound] at heqs
      simp only [hfind] at heqt
      set job := request.newJob services input
      have hadded : OwnJob request.tenantId request.jobId (s.jobs ++ [job]) := by
        intro row hrow hid
        rcases List.mem_append.mp hrow with hold | hnew
        · exact absurd hid (hfresh row hold)
        · rw [List.mem_singleton.mp hnew]
          rfl
      set s₁ : AppState (List JobRecord) R := { s with jobs := s.jobs ++ [job] }
      set t₁ : AppState (List JobRecord) R := { t with jobs := t.jobs ++ [job] }
      have hseen : SeenJob request.tenantId request.jobId (submitted request input job s₁)
          (submitted request input job t₁) := ⟨(hst.append rfl).submitted rfl input job, hadded⟩
      have hjob : IsJob request.jobId request.tenantId job := ⟨rfl, rfl⟩
      have hrun := agree_runJob hjobs hjob input.scenario input.audio input.language _ _ hseen
      have hsubmit := hrun.congr (submitJob_eq (s := s₁) hmemory hqueue request input job)
        (submitJob_eq (s := t₁) hmemory hqueue request input job)
      have hview : AgreeAt (SeenJob request.tenantId request.jobId) (fun _ => True)
          (submitJob services request input job >>= fun job =>
            read >>= fun u => pure (Sastt.jobView services u job true))
          (submitJob services request input job >>= fun job =>
            read >>= fun u => pure (Sastt.jobView services u job true)) s₁ t₁ := by
        refine hsubmit.bind (fun job hjob => agree_read_bind (fun u v huv => ?_))
        rw [huv.1.jobView services (hjob.1 ▸ huv.2)]
        exact agree_pure trivial u v huv
      exact (hview.imp (fun _ _ huv => huv.1)).congr heqs heqt

/-- **A job of another tenant is created**, or found, in the first state. -/
theorem Seen.createJob_of_ne (h : Seen B s t) {request : JobRequest}
    (hne : request.tenantId ≠ B) (hfresh : ∀ row ∈ s.jobs, row.jobId ≠ request.jobId)
    (hkeys : ∀ entry ∈ s.jobAudioKeys, entry.1 ≠ request.jobId) :
    Seen B (createJob services request s).2 t := by
  rcases createJob_snd (s := s) hjobs request with hsame | ⟨input, -, hsubmit⟩
  · rw [hsame]
    exact h
  · rw [hsubmit]
    set job := request.newJob services input
    set s₁ : AppState (List JobRecord) R := { s with jobs := s.jobs ++ [job] }
    have honly : OnlyJob request.jobId request.tenantId s₁
        (submitJob services request input job s₁).2 :=
      (triple_submitJob hjobs input
        (show IsJob request.jobId request.tenantId job from ⟨rfl, rfl⟩)).snd OnlyJob.refl
    have hsame : (submitJob services request input job s₁).2.jobAudioKeys
        = (Sastt.submitted request input job s₁).jobAudioKeys := by
      rw [submitJob_eq hmemory hqueue]
      exact (sameAudio_runJob job _ _ _ _).jobAudioKeys
    refine (h.append_of_ne (show job.tenantId ≠ B from hne)).of_onlyJob hne honly
      (fun row hrow hid => ?_) ⟨job, List.mem_append_right _ (List.mem_singleton.mpr rfl), rfl⟩ ?_
    · rcases List.mem_append.mp hrow with hold | hnew
      · exact absurd hid (hfresh row hold)
      · rw [List.mem_singleton.mp hnew]
        rfl
    · rw [hsame]
      exact suffix_withAudio hne hkeys input.audio

end Seen

/-! ## Where all that is known of jobs comes from -/

/-- **Rows, recordings and previews are of jobs that were requested.** -/
structure Requested (api : JobApi R) (requests : List JobRequest)
    (s : AppState (List JobRecord) R) : Prop where
  retained : Retained api.toApiServices requests s
  rows : ∀ row ∈ s.jobs, ∃ r ∈ requests, r.jobId = row.jobId ∧ r.tenantId = row.tenantId
  previews : ∀ p ∈ s.jobAudioPreviews, ∃ r ∈ requests, ∃ input,
    checkRequest api.toApiServices r = .ok input ∧ r.jobId = p.1
      ∧ api.buildAudioPreview input.audio = some p.2

namespace Requested

variable {api : JobApi R} {requests : List JobRequest} {s : AppState (List JobRecord) R}

/-- Where nothing is known of any job. -/
theorem empty : Requested api requests { jobs := [] } where
  retained := .empty [] {}
  rows := nofun
  previews := nofun

/-- An API that checks requests and builds previews in the same way knows the
same. -/
theorem of_same (h : Requested api requests s) {api' : JobApi R}
    (hcheck : checkRequest api'.toApiServices = checkRequest api.toApiServices)
    (hbuild : api'.buildAudioPreview = api.buildAudioPreview) : Requested api' requests s where
  retained := { h.retained with own := hcheck ▸ h.retained.own }
  rows := h.rows
  previews := hcheck ▸ hbuild ▸ h.previews

/-- A job has one tenant. -/
theorem own (h : Requested api requests s) (hids : (requests.map JobRequest.jobId).Nodup)
    {row : JobRecord} (hrow : row ∈ s.jobs) : OwnJob row.tenantId row.jobId s.jobs := by
  intro row' hrow' hid
  obtain ⟨r, hr, hrid, hrtenant⟩ := h.rows row hrow
  obtain ⟨r', hr', hrid', hrtenant'⟩ := h.rows row' hrow'
  have hsame := List.inj_on_of_nodup_map hids hr' hr (hrid'.trans (hid.trans hrid.symm))
  rw [← hrtenant', hsame, hrtenant]

/-- What is retained of a job is with its tenant. -/
theorem entry_tenant (h : Requested api requests s)
    (hids : (requests.map JobRequest.jobId).Nodup) {row : JobRecord} (hrow : row ∈ s.jobs)
    {entry : String × String × String} (hentry : entry ∈ s.jobAudioKeys)
    (hid : entry.1 = row.jobId) : entry.2.1 = row.tenantId := by
  obtain ⟨r, hr, hrid, hrtenant⟩ := h.rows row hrow
  obtain ⟨r', hr', input, -, rfl, -⟩ := h.retained.own entry hentry
  have hsame := List.inj_on_of_nodup_map hids hr' hr (hid.trans hrid.symm)
  rw [← hrtenant, ← hsame]
  rfl

/-- Nothing is known of a job that was not requested. -/
theorem fresh (h : Requested api requests s) {request : JobRequest}
    (hfresh : ∀ r ∈ requests, r.jobId ≠ request.jobId) :
    (∀ row ∈ s.jobs, row.jobId ≠ request.jobId)
      ∧ ∀ entry ∈ s.jobAudioKeys, entry.1 ≠ request.jobId := by
  constructor
  · intro row hrow
    obtain ⟨r, hr, hid, -⟩ := h.rows row hrow
    exact hid ▸ hfresh r hr
  · intro entry hentry
    obtain ⟨r, hr, input, -, rfl, -⟩ := h.retained.own entry hentry
    exact hfresh r hr

/-- **What is known after a request for a job** was requested before, or is in
it. -/
theorem createJob (hmemory : api.InMemory) (h : Requested api requests s) {request : JobRequest}
    (hfresh : ∀ r ∈ requests, r.jobId ≠ request.jobId) :
    Requested api (requests ++ [request]) (Sastt.createJob api.toApiServices request s).2 := by
  have hmore : ∀ r ∈ requests, r ∈ requests ++ [request] := fun r => List.mem_append_left _
  refine ⟨h.retained.createJob hmemory.keeps request hfresh, fun row hrow => ?_, fun p hp => ?_⟩
  · obtain ⟨write, added, hjobs, hother, -, hadded⟩ :=
      (onlyJob_createJob api.jobs_eq request s).jobs
    rw [hjobs] at hrow
    rcases List.mem_append.mp hrow with hold | hnew
    · obtain ⟨old, hmem, rfl⟩ := List.mem_map.mp hold
      obtain ⟨r, hr, hid, htenant⟩ := h.rows old hmem
      rw [hother old ((h.fresh hfresh).1 old hmem)]
      exact ⟨r, hmore r hr, hid, htenant⟩
    · exact ⟨request, List.mem_append_right _ (List.mem_singleton.mpr rfl),
        (hadded row hnew).1.symm, (hadded row hnew).2.symm⟩
  · have hold : p ∈ s.jobAudioPreviews := by
      rcases createJob_snd (s := s) api.jobs_eq request with hsame | ⟨input, -, hsubmit⟩
      · rwa [hsame] at hp
      · rw [hsubmit, submitJob_eq hmemory.keeps hmemory.taskQueue,
          (sameAudio_runJob _ _ _ _ _).jobAudioPreviews] at hp
        exact List.mem_of_mem_filter hp
    obtain ⟨r, hr, hpreview⟩ := h.previews p hold
    exact ⟨r, hmore r hr, hpreview⟩

end Requested

end Sastt
