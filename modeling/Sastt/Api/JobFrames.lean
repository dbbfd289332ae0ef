import Sastt.Api.StrandedJobs
import Sastt.Lib.Triples

/-!
# What a request changes

A request for a new job writes the rows, the result and the audio of that job,
and of other jobs it at most evicts the audio (`onlyJob_createJob`). That is said
once, as a preorder on states, of each step of `create_job`.
-/

namespace Sastt

open Method

/-- **The rows of a job were written**: others are as they were, the job stays
with its tenant, and what was added is the job's. -/
def OnlyRows (jobId tenantId : String) (rows rows' : List JobRecord) : Prop :=
  ∃ (write : JobRecord → JobRecord) (added : List JobRecord), rows' = rows.map write ++ added
    ∧ (∀ row, row.jobId ≠ jobId → write row = row)
    ∧ (∀ row, row.jobId = jobId → (write row).jobId = jobId
      ∧ ((write row).tenantId = row.tenantId ∨ (write row).tenantId = tenantId))
    ∧ ∀ row ∈ added, row.jobId = jobId ∧ row.tenantId = tenantId

section Rows

variable {jobId tenantId : String} {rows rows' rows'' : List JobRecord}

theorem OnlyRows.refl : OnlyRows jobId tenantId rows rows :=
  ⟨id, [], by simp, fun _ _ => rfl, fun _ h => ⟨h, Or.inl rfl⟩, fun _ h => nomatch h⟩

theorem OnlyRows.trans (h : OnlyRows jobId tenantId rows rows')
    (h' : OnlyRows jobId tenantId rows' rows'') : OnlyRows jobId tenantId rows rows'' := by
  obtain ⟨f, added, rfl, hother, hjob, hadded⟩ := h
  obtain ⟨g, more, rfl, hother', hjob', hmore⟩ := h'
  refine ⟨g ∘ f, added.map g ++ more, by simp, ?_, ?_, ?_⟩
  · intro row hne
    show g (f row) = row
    rw [hother row hne, hother' row hne]
  · intro row hid
    obtain ⟨hid', htenant⟩ := hjob row hid
    obtain ⟨hid'', htenant'⟩ := hjob' (f row) hid'
    refine ⟨hid'', ?_⟩
    rcases htenant' with htenant' | htenant'
    · exact htenant.imp htenant'.trans htenant'.trans
    · exact Or.inr htenant'
  · intro row hrow
    rcases List.mem_append.mp hrow with hrow | hrow
    · obtain ⟨old, hold, rfl⟩ := List.mem_map.mp hrow
      obtain ⟨hid, htenant⟩ := hadded old hold
      obtain ⟨hid', htenant'⟩ := hjob' old hid
      exact ⟨hid', htenant'.elim (fun h => h.trans htenant) id⟩
    · exact hmore row hrow

theorem OnlyRows.of_append {job : JobRecord} (hid : job.jobId = jobId)
    (htenant : job.tenantId = tenantId) : OnlyRows jobId tenantId rows (rows ++ [job]) :=
  ⟨id, [job], by simp, fun _ _ => rfl, fun _ h => ⟨h, Or.inl rfl⟩,
    fun _ h => List.mem_singleton.mp h ▸ ⟨hid, htenant⟩⟩

theorem OnlyRows.of_map {write : JobRecord → JobRecord}
    (hother : ∀ row, row.jobId ≠ jobId → write row = row)
    (hjob : ∀ row, row.jobId = jobId → (write row).jobId = jobId
      ∧ ((write row).tenantId = row.tenantId ∨ (write row).tenantId = tenantId)) :
    OnlyRows jobId tenantId rows (rows.map write) :=
  ⟨write, [], by simp, hother, hjob, fun _ h => nomatch h⟩

end Rows

variable {R : Type} [Field R] [LinearOrder R] {services : ApiServices (List JobRecord) R}

/-- **The job was written**: of other jobs nothing is new. -/
structure OnlyJob (jobId tenantId : String) (s t : AppState (List JobRecord) R) : Prop where
  jobs : OnlyRows jobId tenantId s.jobs t.jobs
  results : ∀ j ≠ jobId, t.results j = s.results j
  jobScenarios : ∀ j ≠ jobId, t.jobScenarios j = s.jobScenarios j
  jobLanguages : ∀ j ≠ jobId, t.jobLanguages j = s.jobLanguages j
  /-- Audio of others is there as it was, or evicted. -/
  objects : ∀ o, o ≠ (tenantId, jobAudioKey jobId) → t.objects o = s.objects o ∨ t.objects o = none
  jobAudioKeys : ∀ entry ∈ t.jobAudioKeys, entry.1 ≠ jobId → entry ∈ s.jobAudioKeys
  jobAudioPreviews : ∀ entry ∈ t.jobAudioPreviews, entry.1 ≠ jobId → entry ∈ s.jobAudioPreviews

namespace OnlyJob

variable {jobId tenantId : String} {s t u : AppState (List JobRecord) R}

theorem refl : OnlyJob jobId tenantId s s where
  jobs := .refl
  results _ _ := rfl
  jobScenarios _ _ := rfl
  jobLanguages _ _ := rfl
  objects _ _ := Or.inl rfl
  jobAudioKeys _ h _ := h
  jobAudioPreviews _ h _ := h

theorem trans (h : OnlyJob jobId tenantId s t) (h' : OnlyJob jobId tenantId t u) :
    OnlyJob jobId tenantId s u where
  jobs := h.jobs.trans h'.jobs
  results j hj := (h'.results j hj).trans (h.results j hj)
  jobScenarios j hj := (h'.jobScenarios j hj).trans (h.jobScenarios j hj)
  jobLanguages j hj := (h'.jobLanguages j hj).trans (h.jobLanguages j hj)
  objects o ho := by
    rcases h'.objects o ho with hkept | hgone
    · exact (h.objects o ho).imp hkept.trans hkept.trans
    · exact Or.inr hgone
  jobAudioKeys entry hentry hne := h.jobAudioKeys entry (h'.jobAudioKeys entry hentry hne) hne
  jobAudioPreviews entry hentry hne :=
    h.jobAudioPreviews entry (h'.jobAudioPreviews entry hentry hne) hne

end OnlyJob

instance (jobId tenantId : String) : Std.Refl (OnlyJob (R := R) jobId tenantId) where
  refl _ := .refl

instance (jobId tenantId : String) :
    IsTrans (AppState (List JobRecord) R) (OnlyJob jobId tenantId) where
  trans _ _ _ h h' := h.trans h'

/-! ## The steps of `create_job` -/

section Steps

variable {jobId tenantId : String}

/-- The eviction forgets keys and deletes objects. -/
theorem evictAudio_spec (keys : List (String × String × String))
    (objects : String × String → Option Audio) :
    (evictAudio keys objects).1 ⊆ keys
      ∧ ∀ o, (evictAudio keys objects).2 o = objects o ∨ (evictAudio keys objects).2 o = none := by
  induction keys generalizing objects with
  | nil => exact ⟨List.Subset.refl _, fun _ => Or.inl rfl⟩
  | cons entry keys ih =>
    unfold evictAudio
    split
    · obtain ⟨hkeys, hobjects⟩ := ih (Function.update objects entry.2 none)
      refine ⟨fun e he => List.mem_cons_of_mem _ (hkeys he), fun o => ?_⟩
      rcases hobjects o with hkept | hgone
      · by_cases ho : o = entry.2
        · right
          rw [hkept, ho, Function.update_self]
        · left
          rw [hkept, Function.update_of_ne ho]
      · exact Or.inr hgone
    · exact ⟨List.Subset.refl _, fun _ => Or.inl rfl⟩

theorem within_retainJobAudio (audio : Audio) :
    Within (OnlyJob jobId tenantId) (retainJobAudio services tenantId jobId audio) := by
  have hstale : Within (OnlyJob jobId tenantId) ((.modify fun s => { s with
      jobAudioPreviews := s.jobAudioPreviews.filter (fun p => p.1 ∈ s.jobAudioKeys.map Prod.fst) } :
      Method PyError (AppState (List JobRecord) R) Unit) >>= fun _ => pure (jobAudioKey jobId)) :=
    within_bind (within_modify (fun s => { OnlyJob.refl with
      jobAudioPreviews := fun entry hentry _ => List.mem_of_mem_filter hentry }))
      (fun _ => within_pure _)
  refine within_bind (within_ofExcept _) (fun _ => within_bind (within_modify (fun s => ?_))
    (fun _ => within_bind (within_modify (fun s => ?_)) (fun _ => ?_)))
  · exact { OnlyJob.refl with objects := fun o ho => Or.inl (Function.update_of_ne ho _ _) }
  · refine { OnlyJob.refl with jobAudioKeys := fun entry hentry hne => ?_ }
    rcases List.mem_append.mp hentry with hentry | hentry
    · exact List.mem_of_mem_filter hentry
    · rw [List.mem_singleton.mp hentry] at hne
      exact absurd rfl hne
  · dsimp only
    split
    · refine within_bind (within_modify (fun s => ?_)) (fun _ => hstale)
      have hevict := evictAudio_spec s.jobAudioKeys s.objects
      exact { OnlyJob.refl with
        jobAudioKeys := fun entry hentry _ => hevict.1 hentry
        objects := fun o _ => hevict.2 o }
    · exact hstale

/-- A record of the job. -/
def IsJob (jobId tenantId : String) (job : JobRecord) : Prop :=
  job.jobId = jobId ∧ job.tenantId = tenantId

variable {sharesRecords : Bool} {s₀ : AppState (List JobRecord) R} {job : JobRecord}

/-- Two steps that both write the job. -/
theorem triple_onlyJob {α : Type} {m : Method PyError (AppState (List JobRecord) R) α}
    (hm : Within (OnlyJob jobId tenantId) m) :
    Triple (OnlyJob jobId tenantId s₀) m (fun _ => OnlyJob jobId tenantId s₀)
      (fun _ => OnlyJob jobId tenantId s₀) :=
  triple_of_snd (fun s hs => hs.trans (hm s))

theorem within_assignJob (hjobs : services.jobs = jobRows sharesRecords)
    (hjob : IsJob jobId tenantId job) :
    Within (OnlyJob jobId tenantId) (assignJob services job) := by
  refine within_bind (within_modify (fun s => { OnlyJob.refl with jobs := ?_ }))
    (fun _ => within_pure _)
  rw [hjobs]
  show OnlyRows jobId tenantId s.jobs (if sharesRecords then JobRows.assign job s.jobs else s.jobs)
  split
  · refine OnlyRows.of_map (fun row hne => ?_) (fun row hid => ?_)
    · rw [hjob.1, if_neg hne]
    · rw [hjob.1, if_pos hid]
      exact ⟨hjob.1, Or.inr hjob.2⟩
  · exact OnlyRows.refl

/-- A transition of the job returns a record of it. -/
theorem triple_transitionJob (hjobs : services.jobs = jobRows sharesRecords)
    (hjob : IsJob jobId tenantId job) (state : JobState) :
    Triple (OnlyJob jobId tenantId s₀) (transitionJob services job state)
      (fun job' s => IsJob jobId tenantId job' ∧ OnlyJob jobId tenantId s₀ s)
      (fun _ => OnlyJob jobId tenantId s₀) := by
  refine triple_bind (Q := fun job' s => IsJob jobId tenantId job' ∧ OnlyJob jobId tenantId s₀ s)
    (triple_ofExcept (fun job' hok s hs => ⟨?_, hs⟩) (fun _ _ _ hs => hs)) (fun job' => ?_)
  · unfold JobRecord.transition at hok
    split at hok <;> cases hok
    exact hjob
  · intro s hs
    refine ⟨fun a t hok => ?_, fun e t hraise =>
      hs.2.trans ((within_assignJob hjobs hs.1).rel hraise)⟩
    have ht := hs.2.trans ((within_assignJob hjobs hs.1).rel hok)
    obtain ⟨_, _, _, hpure⟩ := bind_eq_ok.mp hok
    cases hpure
    exact ⟨hs.1, ht⟩

/-- **A run in the process writes its job.** -/
theorem triple_runJob (hjobs : services.jobs = jobRows sharesRecords)
    (hjob : IsJob jobId tenantId job) (scenario : Option String) (audio : Audio)
    (language : Option String) :
    Triple (OnlyJob jobId tenantId s₀) (runJob services job scenario audio language)
      (fun _ => OnlyJob jobId tenantId s₀) (fun _ => OnlyJob jobId tenantId s₀) := by
  refine triple_bind (triple_onlyJob (within_ofExcept _)) (fun _ =>
    triple_bind (triple_transitionJob hjobs hjob _) (fun job' => triple_of_prop (fun hjob' => ?_)))
  have hfail : ∀ e, Triple (OnlyJob jobId tenantId s₀) (failJob services job' e)
      (fun _ => OnlyJob jobId tenantId s₀) (fun _ => OnlyJob jobId tenantId s₀) := by
    intro e
    refine triple_bind (Q := fun job s => IsJob jobId tenantId job ∧ OnlyJob jobId tenantId s₀ s)
      ?_ (fun job => triple_of_prop (fun hjob => triple_bind (triple_transitionJob hjobs hjob _)
        (fun _ => triple_throw (fun _ hs => hs.2))))
    intro s hs
    have hassign := within_assignJob hjobs
      (show IsJob jobId tenantId
        { job' with errorCode := some (e.code.getD "INTERNAL") } from hjob')
    refine ⟨fun a t hok => ⟨?_, hs.trans (hassign.rel hok)⟩,
      fun _ t hraise => hs.trans (hassign.rel hraise)⟩
    obtain ⟨_, _, _, hpure⟩ := bind_eq_ok.mp hok
    cases hpure
    exact hjob'
  refine triple_bind (triple_onlyJob (within_ofExcept _)) (fun payload => triple_bind
    (triple_catchIf (triple_onlyJob (within_ofExcept _)) hfail) (fun result => triple_bind
      (triple_onlyJob (within_modify (fun s => { OnlyJob.refl with results := fun j hj => ?_ })))
      (fun _ => (triple_transitionJob hjobs hjob' _).weaken (fun _ hs => hs) (fun _ _ hs => hs.2)
        (fun _ _ hs => hs))))
  exact Function.update_of_ne (hjob'.1 ▸ hj) _ _

/-- **Queueing the job writes it**, when the queue refuses it. -/
theorem within_queueJob (hjobs : services.jobs = jobRows sharesRecords) {q : RedisTaskQueue}
    {request : JobRequest} (input : JobInput) (hjob : IsJob jobId request.tenantId job) :
    Within (OnlyJob jobId request.tenantId)
      (queueJob services q request input job (jobAudioKey jobId)) := by
  refine within_catchIf (within_bind (fun s => { OnlyJob.refl with }) (fun _ => within_ofExcept _))
    (fun e => within_bind (within_ofExcept _) (fun _ => within_bind (within_modify (fun s => ?_))
      (fun _ => within_bind (fun s => { OnlyJob.refl with jobs := ?_ }) (fun _ => within_throw _))))
  · exact { OnlyJob.refl with
      objects := fun o ho => Or.inl (Function.update_of_ne ho _ _)
      jobAudioKeys := fun entry hentry _ => List.mem_of_mem_filter hentry }
  · rw [hjobs]
    show OnlyRows jobId request.tenantId s.jobs
      (JobRows.updateState request.tenantId job.jobId .cancelled s.jobs).2
    unfold JobRows.updateState
    split
    · exact OnlyRows.refl
    · split
      · exact OnlyRows.refl
      · refine OnlyRows.of_map (fun row hne => if_neg (fun h => hne (h.1.trans hjob.1)))
          (fun row hid => ?_)
        split <;> exact ⟨hid, Or.inl rfl⟩

theorem retainJobAudio_key {audio : Audio} {key : String} {s t : AppState (List JobRecord) R}
    (h : retainJobAudio services tenantId jobId audio s = (.ok key, t)) :
    key = jobAudioKey jobId := by
  unfold retainJobAudio at h
  cases hput : services.putObject with
  | error e =>
    rw [hput] at h
    cases h
  | ok _ =>
    rw [hput] at h
    cases hmemory : services.inMemoryObjects <;> rw [hmemory] at h <;> cases h <;> rfl

/-- **Submitting the job writes it.** -/
theorem triple_submitJob (hjobs : services.jobs = jobRows sharesRecords) {request : JobRequest}
    (input : JobInput) (hjob : IsJob jobId request.tenantId job) :
    Triple (OnlyJob jobId request.tenantId s₀) (submitJob services request input job)
      (fun _ => OnlyJob jobId request.tenantId s₀)
      (fun _ => OnlyJob jobId request.tenantId s₀) := by
  refine triple_bind (triple_onlyJob (within_modify (fun s => { OnlyJob.refl with
    jobScenarios := fun j hj => ?_
    jobLanguages := fun j hj => ?_ }))) (fun _ => triple_bind
      (Q := fun audioKey s => audioKey = jobAudioKey jobId ∧ OnlyJob jobId request.tenantId s₀ s)
      ?_ (fun audioKey => triple_of_prop (fun hkey => ?_)))
  · exact Function.update_of_ne (hjob.1 ▸ hj) _ _
  · exact Function.update_of_ne (hjob.1 ▸ hj) _ _
  · rw [hjob.1]
    have hretain : Within (OnlyJob jobId request.tenantId)
        (retainJobAudio services request.tenantId jobId input.audio) := within_retainJobAudio _
    exact fun s hs => ⟨fun a t hok => ⟨retainJobAudio_key hok, hs.trans (hretain.rel hok)⟩,
      fun _ t hraise => hs.trans (hretain.rel hraise)⟩
  · split
    · exact triple_runJob hjobs hjob _ _ _
    · rw [hkey]
      exact triple_onlyJob (within_bind (within_queueJob hjobs input hjob)
        (fun _ => within_pure _))

/-- **A request for a new job writes that job**, or finds one and writes
nothing. -/
theorem onlyJob_createJob (hjobs : services.jobs = jobRows sharesRecords) (request : JobRequest) :
    Within (OnlyJob ("job_" ++ request.newJobId) request.tenantId)
      (createJob services request) := by
  refine within_bind (within_ofExcept _) (fun input => ?_)
  intro s
  set jobId := "job_" ++ request.newJobId
  rcases hstore : services.jobs.createOrGet jobId request.tenantId input.idempotencyKey
    (services.sha256 input.audio) (some services.configVersion) s.jobs with ⟨r, jobs⟩
  have hcreate : OnlyJob jobId request.tenantId s { s with jobs } := by
    refine { OnlyJob.refl with jobs := ?_ }
    rw [hjobs] at hstore
    rcases JobRows.createOrGet_cases hstore with ⟨-, -, hrows⟩ | ⟨-, hrows⟩
    · rw [hrows]
      exact OnlyRows.of_append rfl rfl
    · rw [hrows]
      exact OnlyRows.refl
  obtain ⟨r', hr', hsame⟩ := createOrGetJob_eq hstore
  cases r' with
  | error e =>
    rw [bind_of_error hr']
    exact hcreate
  | ok found =>
    obtain ⟨job, created⟩ := found
    rw [bind_of_ok hr']
    cases created with
    | false => exact hcreate
    | true =>
      have hjob : IsJob jobId request.tenantId job := by
        rw [services.jobs.created_eq_ok (hstore.trans
          (Prod.ext ((hsame job true).mp rfl) rfl)) |>.1]
        exact ⟨rfl, rfl⟩
      have hsubmit := triple_bind (P := OnlyJob jobId request.tenantId s)
        (triple_submitJob hjobs input hjob)
        (k := fun job => read >>= fun s => pure (jobView services s job true))
        (fun _ => triple_onlyJob (within_bind within_read (fun _ => within_pure _)))
      show OnlyJob jobId request.tenantId s ((submitJob services request input job >>= fun job =>
        read >>= fun s => pure (jobView services s job true)) { s with jobs }).2
      rcases hrun : (submitJob services request input job >>= fun job =>
        read >>= fun s => pure (jobView services s job true)) { s with jobs } with ⟨e | view, t⟩
      · exact hsubmit.error hcreate hrun
      · exact hsubmit.ok hcreate hrun

end Steps

end Sastt
