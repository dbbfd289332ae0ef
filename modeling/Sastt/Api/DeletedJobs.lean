import Sastt.Api.JobFrames
import Sastt.Api.JobResults
import Sastt.Lib.Programs

/-!
# Jobs that were deleted

Once a job is deleted, nothing should be served of it any more, whatever
happens next: other jobs are created and run, workers save their results, the
API is started again (`Gone` is kept by all of that). But what deleting leaves
behind is served. The audio is deleted if the process remembers its key, which
it does not after a restart, although it derives the key when the audio is asked
for; and the segments a worker saved are not deleted at all
(`nothingServed_iff`, `deleted_job_is_served`).
-/

namespace Sastt

open Method

variable {R : Type} [Field R] [LinearOrder R] (api : JobApi R)

/-- **What may happen** at the API and its stores: requests, a restart, and what
workers do. -/
inductive JobServerEvent (R : Type)
  | create (request : JobRequest)
  | get (tenantId jobId : String)
  | result (tenantId jobId : String)
  | audio (tenantId jobId : String) (preview : Bool)
  | delete (tenantId jobId : String)
  | restart
  /-- Workers take tasks and put them back. -/
  | work (queue : QueueStore TaskPayload)
  | saveResult (tenantId jobId : String) (segments : List (PublicSegment R))
      (warnings : List String) (degraded : Bool)
  | updateState (tenantId jobId : String) (state : JobState)
  | setError (tenantId jobId errorCode : String)

/-- The state after an event. -/
def JobApi.step (s : JobServer R) : JobServerEvent R → JobServer R
  | .create request => (onApp (createJob api.toApiServices request) s).2
  | .get tenantId jobId => (api.getJob tenantId jobId s).2
  | .result tenantId jobId => (api.getJobResult tenantId jobId s).2
  | .audio tenantId jobId preview => (api.getJobAudio tenantId jobId preview s).2
  | .delete tenantId jobId => (api.deleteJob tenantId jobId s).2
  | .restart => restart s
  | .work queue => { s with queue }
  | .saveResult tenantId jobId segments warnings degraded =>
    saveResult tenantId jobId segments warnings degraded s
  | .updateState tenantId jobId state =>
    { s with jobs := (JobRows.updateState tenantId jobId state s.jobs).2 }
  | .setError tenantId jobId errorCode =>
    { s with jobs := s.jobs.map (fun row =>
        if row.jobId = jobId ∧ row.tenantId = tenantId then { row with errorCode := some errorCode }
        else row) }

/-- The event does not create the job again, and is not of a worker that runs
it. -/
def JobServerEvent.SparesJob (tenantId jobId : String) : JobServerEvent R → Prop
  | .create request => "job_" ++ request.newJobId ≠ jobId
  | .saveResult tenant job _ _ _ | .updateState tenant job _ | .setError tenant job _ =>
    (tenant, job) ≠ (tenantId, jobId)
  | _ => True

/-- **Nothing is served of the job**: no audio, with preview or without, and no
segment. -/
def JobApi.NothingServed (tenantId jobId : String) (s : JobServer R) : Prop :=
  (∀ preview, (api.getJobAudio tenantId jobId preview s).1
      = .error (.http 404 "input audio is no longer retained for this job"))
    ∧ ∀ view, (api.getJobResult tenantId jobId s).1 = .ok view → view.segments = []

/-- **Deleting the job reaches all that is stored of it**: its audio is
remembered, or there is none, and no segments are saved, or none are loaded. -/
def JobApi.ReachesAll (tenantId jobId : String) (s : JobServer R) : Prop :=
  (s.jobAudioKeys.lookup jobId = some (tenantId, jobAudioKey jobId)
      ∨ s.objects (tenantId, jobAudioKey jobId) = none)
    ∧ (api.durable = false ∨ s.segments (tenantId, jobId) = [])

/-! ## Deleting -/

/-- **The job is gone**: there is its row, and nothing to serve. -/
structure JobApi.Gone (tenantId jobId : String) (s : JobServer R) : Prop where
  row : ∃ row ∈ s.jobs, row.jobId = jobId ∧ row.tenantId = tenantId
  results : s.results jobId = none
  jobAudioKeys : ∀ entry ∈ s.jobAudioKeys, entry.1 ≠ jobId
  objects : s.objects (tenantId, jobAudioKey jobId) = none
  segments : api.durable = false ∨ s.segments (tenantId, jobId) = []

theorem jobAudioKey_injective : Function.Injective jobAudioKey := by
  intro j j' h
  have hlist := congrArg String.toList h
  simp only [jobAudioKey, String.toList_append] at hlist
  exact String.toList_inj.mp (List.append_cancel_left (List.append_cancel_right hlist))

/-- A row that is found. -/
theorem JobRows.get_eq_ok {rows : List JobRecord} {tenantId jobId : String} {job : JobRecord}
    (h : JobRows.get rows tenantId jobId = .ok job) :
    job ∈ rows ∧ job.jobId = jobId ∧ job.tenantId = tenantId := by
  unfold JobRows.get at h
  split at h
  · next found hfound =>
    cases h
    have hfields := List.find?_some hfound
    exact ⟨List.mem_of_find?_eq_some hfound, of_decide_eq_true hfields⟩
  · cases h

/-- A row that is there is found. -/
theorem JobRows.exists_get {rows : List JobRecord} {tenantId jobId : String}
    (h : ∃ row ∈ rows, row.jobId = jobId ∧ row.tenantId = tenantId) :
    ∃ job, JobRows.get rows tenantId jobId = .ok job := by
  obtain ⟨row, hmem, hrow⟩ := h
  unfold JobRows.get
  cases hfind : rows.find? (fun job => job.jobId = jobId ∧ job.tenantId = tenantId) with
  | some job => exact ⟨job, rfl⟩
  | none => exact absurd (decide_eq_true hrow) (List.find?_eq_none.mp hfind row hmem)

/-- Rows that are written to keep their ids are there as before. -/
theorem exists_row_map {rows : List JobRecord} {tenantId jobId : String}
    {write : JobRecord → JobRecord}
    (hwrite : ∀ row, (write row).jobId = row.jobId ∧ (write row).tenantId = row.tenantId)
    (h : ∃ row ∈ rows, row.jobId = jobId ∧ row.tenantId = tenantId) :
    ∃ row ∈ rows.map write, row.jobId = jobId ∧ row.tenantId = tenantId := by
  obtain ⟨row, hmem, hid, htenant⟩ := h
  exact ⟨write row, List.mem_map_of_mem hmem, (hwrite row).1.trans hid,
    (hwrite row).2.trans htenant⟩

theorem exists_row_updateState {rows : List JobRecord} {tenantId jobId : String}
    (tenant job : String) (state : JobState)
    (h : ∃ row ∈ rows, row.jobId = jobId ∧ row.tenantId = tenantId) :
    ∃ row ∈ (JobRows.updateState tenant job state rows).2,
      row.jobId = jobId ∧ row.tenantId = tenantId := by
  unfold JobRows.updateState
  split
  · exact h
  · split
    · exact h
    · exact exists_row_map (fun row => by split <;> exact ⟨rfl, rfl⟩) h

namespace JobApi

variable {api} {tenantId jobId : String} {s t : JobServer R}

/-- The key that is looked up for audio nobody remembers. -/
theorem audioKeyOf_of_forgotten (h : ∀ entry ∈ s.jobAudioKeys, entry.1 ≠ jobId) :
    audioKeyOf s jobId = jobAudioKey jobId := by
  have hnone : s.jobAudioKeys.lookup jobId = none :=
    List.lookup_eq_none_iff.mpr (fun entry hentry => bne_iff_ne.mpr (h entry hentry).symm)
  unfold audioKeyOf
  rw [hnone]
  rfl

/-- What a request for audio is answered where the job is found. -/
theorem getJobAudio_of_none (hrow : ∃ row ∈ s.jobs, row.jobId = jobId ∧ row.tenantId = tenantId)
    (hnone : s.objects (tenantId, audioKeyOf s jobId) = none) (preview : Bool) :
    api.getJobAudio tenantId jobId preview s
      = (.error (.http 404 "input audio is no longer retained for this job"), s) := by
  obtain ⟨job, hjob⟩ := JobRows.exists_get hrow
  obtain ⟨-, rfl, -⟩ := JobRows.get_eq_ok hjob
  have hfind : findJob tenantId job.jobId s = (.ok job, s) := Prod.ext hjob rfl
  unfold getJobAudio
  rw [bind_of_ok hfind, read_bind]
  have hread : readAudio s tenantId (audioKeyOf s job.jobId)
      = .error (.http 404 "input audio is no longer retained for this job") := by
    unfold readAudio
    rw [hnone]
  rw [hread]
  rfl

/-- What a request for a result is answered where the job is found. -/
theorem getJobResult_of_found {job : JobRecord} (h : JobRows.get s.jobs tenantId jobId = .ok job) :
    api.getJobResult tenantId jobId s = (match s.results jobId with
      | some result => .ok (api.memoryView job result)
      | none =>
        if ¬ job.isTerminal then notFinished job
        else if ¬ api.durable then notFinished job
        else if api.loadResult s tenantId jobId = [] then notFinished job
        else .ok (api.savedView job (api.loadResult s tenantId jobId)), s) := by
  obtain ⟨-, rfl, -⟩ := JobRows.get_eq_ok h
  have hfind : findJob tenantId job.jobId s = (.ok job, s) := Prod.ext h rfl
  unfold getJobResult
  rw [bind_of_ok hfind]
  rfl

/-- The query finds what is saved. -/
theorem loadResult_eq_nil_iff :
    api.loadResult s tenantId jobId = [] ↔ s.segments (tenantId, jobId) = [] := by
  have hperm := api.queryOrder.sort_perm (s.segments (tenantId, jobId))
  constructor <;> intro h
  · exact (show api.queryOrder.sort _ = [] from h) ▸ hperm |>.nil_eq.symm
  · rw [h] at hperm
    unfold loadResult
    rw [h]
    exact hperm.eq_nil

/-- **Nothing is served of a job that is gone.** -/
theorem nothingServed_of_gone (h : api.Gone tenantId jobId s) :
    api.NothingServed tenantId jobId s := by
  refine ⟨fun preview => ?_, fun view hview => ?_⟩
  · have hnone : s.objects (tenantId, audioKeyOf s jobId) = none := by
      rw [audioKeyOf_of_forgotten h.jobAudioKeys]
      exact h.objects
    rw [getJobAudio_of_none h.row hnone]
  · obtain ⟨job, hjob⟩ := JobRows.exists_get h.row
    rw [getJobResult_of_found hjob, h.results] at hview
    dsimp only at hview
    unfold notFinished at hview
    split_ifs at hview with hterminal hdurable hnil
    have hsaved := h.segments.resolve_left (by rw [hdurable]; decide)
    exact absurd (loadResult_eq_nil_iff.mpr hsaved) hnil

/-! ## Deleting -/

/-- **What deleting leaves.** -/
structure Deleted (tenantId jobId : String) (s t : JobServer R) : Prop where
  row : ∃ job, JobRows.get t.jobs tenantId jobId = .ok job ∧ job.isTerminal = true
  results : t.results jobId = none
  jobAudioKeys : ∀ entry ∈ t.jobAudioKeys, entry.1 ≠ jobId
  objects : t.objects = match s.jobAudioKeys.lookup jobId with
    | none => s.objects
    | some object => Function.update s.objects object none
  segments : t.segments = s.segments

/-- A job that was cancelled, or was over before, is found and is over. -/
theorem get_cancelUnlessTerminal {job job' : JobRecord}
    (hget : JobRows.get s.jobs tenantId job.jobId = .ok job)
    (h : cancelUnlessTerminal tenantId job s = (.ok job', t)) :
    (∃ found, JobRows.get t.jobs tenantId job.jobId = .ok found ∧ found.isTerminal = true)
      ∧ t = { s with jobs := t.jobs } := by
  unfold cancelUnlessTerminal at h
  split at h
  · next hterminal =>
    cases h
    exact ⟨⟨job, hget, hterminal⟩, rfl⟩
  · obtain ⟨rows, hupdate, rfl⟩ := zoom_eq_ok h
    refine ⟨?_, rfl⟩
    have hrow := (JobRows.get_eq_ok hget).2
    have hmap := JobRows.updateState_eq_ok hupdate
    show ∃ found, JobRows.get rows tenantId job.jobId = .ok found ∧ found.isTerminal = true
    obtain ⟨found, hfound⟩ := JobRows.exists_get
      (exists_row_updateState tenantId job.jobId .cancelled
      ⟨job, (JobRows.get_eq_ok hget).1, hrow⟩)
    rw [hupdate] at hfound
    refine ⟨found, hfound, ?_⟩
    obtain ⟨hmem, hfields⟩ := JobRows.get_eq_ok hfound
    rw [hmap] at hmem
    obtain ⟨row, -, rfl⟩ := List.mem_map.mp hmem
    split at hfields
    · next hrow =>
      rw [if_pos hrow]
      show decide (JobState.cancelled ∈ JobState.terminal) = true
      decide
    · next hrow => exact absurd hfields hrow

theorem deleteJob_eq_ok {view : DeletedView} (h : api.deleteJob tenantId jobId s = (.ok view, t)) :
    Deleted tenantId jobId s t := by
  unfold deleteJob at h
  obtain ⟨job, s₁, hfind, hrest⟩ := bind_eq_ok.mp h
  obtain ⟨hget, rfl⟩ := Prod.mk.inj hfind
  obtain ⟨-, rfl, -⟩ := JobRows.get_eq_ok hget
  rw [read_bind, modify_bind] at hrest
  obtain ⟨_, s₂, hretained, hrest⟩ := bind_eq_ok.mp hrest
  obtain ⟨job', s₃, hcancel, hrest⟩ := bind_eq_ok.mp hrest
  cases hrest
  have hs₂ : s₂ = { forget job.jobId s with
      objects := match s.jobAudioKeys.lookup job.jobId with
        | none => s.objects
        | some object => Function.update s.objects object none } := by
    cases hlookup : s.jobAudioKeys.lookup job.jobId with
    | none =>
      rw [hlookup] at hretained
      cases hretained
      rfl
    | some object =>
      rw [hlookup] at hretained
      obtain ⟨_, s', hdelete, hmodify⟩ := bind_eq_ok.mp hretained
      obtain ⟨-, rfl⟩ := ofExcept_eq_ok.mp hdelete
      cases hmodify
      rfl
  have hget₂ : JobRows.get s₂.jobs tenantId job.jobId = .ok job := by
    rw [hs₂]
    exact hget
  obtain ⟨hrow, ht⟩ := get_cancelUnlessTerminal hget₂ hcancel
  rw [hs₂] at ht
  rw [ht]
  refine ⟨ht ▸ hrow, Function.update_self .., fun entry hentry => ?_, rfl, rfl⟩
  exact of_decide_eq_true (List.mem_filter.mp hentry).2

/-- **Deleting the job reaches all of it exactly if the job is gone then.** -/
theorem Deleted.gone_iff (h : Deleted tenantId jobId s t) :
    api.Gone tenantId jobId t ↔ api.ReachesAll tenantId jobId s := by
  have hobjects : t.objects (tenantId, jobAudioKey jobId) = none
      ↔ s.jobAudioKeys.lookup jobId = some (tenantId, jobAudioKey jobId)
        ∨ s.objects (tenantId, jobAudioKey jobId) = none := by
    rw [h.objects]
    cases hlookup : s.jobAudioKeys.lookup jobId with
    | none => simp
    | some object =>
      by_cases hobject : object = (tenantId, jobAudioKey jobId)
      · simp [hobject]
      · simp [Function.update_of_ne (Ne.symm hobject), hobject]
  constructor
  · intro hgone
    exact ⟨hobjects.mp hgone.objects, h.segments ▸ hgone.segments⟩
  · intro hreaches
    obtain ⟨job, hjob, -⟩ := h.row
    obtain ⟨hmem, hid⟩ := JobRows.get_eq_ok hjob
    exact ⟨⟨job, hmem, hid⟩, h.results, h.jobAudioKeys, hobjects.mpr hreaches.1,
      h.segments ▸ hreaches.2⟩

/-- Where nothing is served right after deleting the job, the job is gone. -/
theorem Deleted.gone_of_nothingServed (h : Deleted tenantId jobId s t)
    (hnothing : api.NothingServed tenantId jobId t) : api.Gone tenantId jobId t := by
  obtain ⟨job, hjob, hterminal⟩ := h.row
  obtain ⟨hmem, rfl, htenant⟩ := JobRows.get_eq_ok hjob
  refine ⟨⟨job, hmem, rfl, htenant⟩, h.results, h.jobAudioKeys, ?_, ?_⟩
  · have haudio := hnothing.1 false
    rw [← audioKeyOf_of_forgotten h.jobAudioKeys]
    cases hpayload : t.objects (tenantId, audioKeyOf t job.jobId) with
    | none => rfl
    | some payload =>
      have hfind : findJob tenantId job.jobId t = (.ok job, t) := Prod.ext hjob rfl
      have hread : readAudio t tenantId (audioKeyOf t job.jobId) = .ok payload := by
        unfold readAudio
        rw [hpayload]
      unfold getJobAudio at haudio
      rw [bind_of_ok hfind, read_bind, hread] at haudio
      cases haudio
  · cases hdurable : api.durable with
    | false => exact Or.inl rfl
    | true =>
      right
      by_contra hsaved
      have hsome : api.loadResult t tenantId job.jobId ≠ [] :=
        fun hnil => hsaved (loadResult_eq_nil_iff.mp hnil)
      refine hsome (hnothing.2 (api.savedView job (api.loadResult t tenantId job.jobId)) ?_)
      rw [getJobResult_of_found hjob, h.results]
      simp [hterminal, hdurable, hsome]

/-! ## What happens next -/

/-- A job that is gone stays gone. -/
def KeepsGone (api : JobApi R) (tenantId jobId : String) (s t : JobServer R) : Prop :=
  api.Gone tenantId jobId s → api.Gone tenantId jobId t

instance : Std.Refl (KeepsGone api tenantId jobId) where
  refl _ := id

instance : IsTrans (JobServer R) (KeepsGone api tenantId jobId) where
  trans _ _ _ h h' := h' ∘ h

theorem within_findJob (tenant job : String) :
    Within (KeepsGone api tenantId jobId) (findJob tenant job) := fun _ => id

/-- A request for another job. -/
theorem within_onApp_createJob {request : JobRequest}
    (hne : "job_" ++ request.newJobId ≠ jobId) :
    Within (KeepsGone api tenantId jobId) (onApp (createJob api.toApiServices request)) := by
  intro s h
  have honly := onlyJob_createJob api.jobs_eq request s.toAppState
  set t := (createJob api.toApiServices request s.toAppState).2
  refine ⟨?_, ?_, ?_, ?_, h.segments⟩
  · obtain ⟨row, hmem, hrow⟩ := h.row
    obtain ⟨write, added, hrows, hother, -, -⟩ := honly.jobs
    refine ⟨row, ?_, hrow⟩
    show row ∈ t.jobs
    rw [hrows, ← hother row (hrow.1.trans_ne hne.symm)]
    exact List.mem_append_left _ (List.mem_map_of_mem hmem)
  · exact (honly.results jobId hne.symm).trans h.results
  · intro entry hentry hid
    exact h.jobAudioKeys entry (honly.jobAudioKeys entry hentry (hid.trans_ne hne.symm)) hid
  · have hkey : (tenantId, jobAudioKey jobId)
        ≠ (request.tenantId, jobAudioKey ("job_" ++ request.newJobId)) := fun heq =>
      hne.symm (jobAudioKey_injective (Prod.mk.inj heq).2)
    exact (honly.objects _ hkey).elim (fun hkept => hkept.trans h.objects) id

theorem within_getJobAudio (tenant job : String) (preview : Bool) :
    Within (KeepsGone api tenantId jobId) (api.getJobAudio tenant job preview) := by
  have hpreview : ∀ job payload, Within (KeepsGone api tenantId jobId)
      (api.previewOf job payload) := by
    refine fun job payload => within_bind within_read (fun s => ?_)
    split
    · exact within_pure _
    · split
      · exact within_bind (within_modify (fun _ h =>
          ⟨h.row, h.results, h.jobAudioKeys, h.objects, h.segments⟩)) (fun _ => within_pure _)
      · exact within_pure _
  refine within_bind (within_findJob _ _) (fun job => within_bind within_read (fun s =>
    within_bind (within_ofExcept _) (fun payload => ?_)))
  dsimp only
  split
  · exact within_bind (hpreview _ _) (fun _ => within_pure _)
  · exact within_bind (within_pure _) (fun _ => within_pure _)

/-- Deleting a job, this one or another. -/
theorem within_deleteJob (tenant job : String) :
    Within (KeepsGone api tenantId jobId) (api.deleteJob tenant job) := by
  refine within_bind (within_findJob _ _) (fun job => within_bind within_read (fun s =>
    within_bind (within_modify (fun t h => ?_)) (fun _ => within_bind ?_ (fun _ =>
      within_bind ?_ (fun _ => within_pure _)))))
  · refine ⟨h.row, ?_, fun entry hentry => h.jobAudioKeys entry (List.mem_of_mem_filter hentry),
      h.objects, h.segments⟩
    show Function.update t.results job.jobId none jobId = none
    by_cases hid : jobId = job.jobId
    · rw [hid, Function.update_self]
    · rw [Function.update_of_ne hid]
      exact h.results
  · unfold deleteRetained
    split
    · exact within_pure _
    · next object _ =>
      refine within_bind (within_ofExcept _) (fun _ => within_modify (fun t h =>
        ⟨h.row, h.results, h.jobAudioKeys, ?_, h.segments⟩))
      show Function.update t.objects object none (tenantId, jobAudioKey jobId) = none
      by_cases hobject : (tenantId, jobAudioKey jobId) = object
      · rw [hobject, Function.update_self]
      · rw [Function.update_of_ne hobject]
        exact h.objects
  · unfold cancelUnlessTerminal
    split
    · exact within_pure _
    · exact fun t h => ⟨exists_row_updateState _ _ _ h.row, h.results, h.jobAudioKeys, h.objects,
        h.segments⟩

/-- **Whatever happens next, a job that is gone stays gone.** -/
theorem keepsGone_step {e : JobServerEvent R} (he : e.SparesJob tenantId jobId) (s : JobServer R) :
    KeepsGone api tenantId jobId s (api.step s e) := by
  cases e with
  | create request => exact within_onApp_createJob he s
  | get tenant job => exact within_bind (within_findJob _ _) (fun _ => within_bind within_read
      (fun _ => within_pure _)) s
  | result tenant job => exact within_bind (within_findJob _ _) (fun _ => within_bind within_read
      (fun _ => within_ofExcept _)) s
  | audio tenant job preview => exact within_getJobAudio tenant job preview s
  | delete tenant job => exact within_deleteJob tenant job s
  | restart => exact fun h => ⟨h.row, rfl, (fun _ hentry => nomatch hentry), h.objects, h.segments⟩
  | work queue => exact fun h => ⟨h.row, h.results, h.jobAudioKeys, h.objects, h.segments⟩
  | saveResult tenant job segments warnings degraded =>
    refine fun h => ⟨exists_row_map (fun row => by split <;> exact ⟨rfl, rfl⟩) h.row, h.results,
      h.jobAudioKeys, h.objects, h.segments.imp id (fun hnil => ?_)⟩
    exact (Function.update_of_ne (Ne.symm he) _ _).trans hnil
  | updateState tenant job state =>
    exact fun h => ⟨exists_row_updateState _ _ _ h.row, h.results, h.jobAudioKeys, h.objects,
      h.segments⟩
  | setError tenant job errorCode =>
    exact fun h => ⟨exists_row_map (fun row => by split <;> exact ⟨rfl, rfl⟩) h.row, h.results,
      h.jobAudioKeys, h.objects, h.segments⟩

end JobApi

open JobApi

/-- **Nothing is served of a job that was deleted, whatever happens next,
exactly when deleting it reached all that was stored of it.** -/
theorem nothingServed_iff (api : JobApi R) (tenantId jobId : String) (s : JobServer R)
    {view : DeletedView} {t : JobServer R}
    (hdelete : api.deleteJob tenantId jobId s = (.ok view, t)) :
    (∀ events : List (JobServerEvent R), (∀ e ∈ events, e.SparesJob tenantId jobId) →
        api.NothingServed tenantId jobId (events.foldl api.step t))
      ↔ api.ReachesAll tenantId jobId s := by
  have hdeleted := deleteJob_eq_ok hdelete
  constructor
  · intro h
    exact hdeleted.gone_iff.mp (hdeleted.gone_of_nothingServed (h [] (fun _ he => nomatch he)))
  · intro hreaches events hspares
    have hgone := hdeleted.gone_iff.mpr hreaches
    clear hdelete hdeleted
    induction events generalizing t with
    | nil => exact nothingServed_of_gone hgone
    | cons e events ih =>
      exact ih (fun e' he' => hspares e' (List.mem_cons_of_mem e he'))
        (keepsGone_step (hspares e List.mem_cons_self) t hgone)

/-! ## A job that was stored -/

section Example

/-- Jobs that workers run, with their results in a database. -/
def queuedJobs : JobApi ℚ :=
  { inProcess (.error .diverges) with
    jobs := jobRows false
    durable := true
    jobs_eq := rfl
    queryOrder := binaryOrder ℚ
    buildAudioPreview := fun _ => none }

/-- A word somebody said. -/
def aWord : TranscriptSegment ℚ where
  sessionId := "job_1"
  eventId := "evt_1"
  startMs := 0
  endMs := 500
  text := "yes"
  speakerId := "sps_1"
  sessionSpeakerId := "sps_1"
  identityStatus := .anonymous
  speakerLabel := "Speaker 1"
  confidences := .unknown
  valid := by constructor <;> simp [IsConfidence]

/-- One job that is done, its audio and its result, as an API finds them that
was just started. -/
def stored : JobServer ℚ where
  jobs := [{
    jobId := "job_1"
    tenantId := "tenant"
    idempotencyKey := "key"
    inputHash := "hash"
    state := .succeeded }]
  objects := Function.update (fun _ => none) ("tenant", jobAudioKey "job_1") (some [0, 0])
  segments := Function.update (fun _ => []) ("tenant", "job_1") [aWord.toPublicDict]

/-- The API that stored the audio itself reaches it. -/
theorem nothingServed_iff_of_remembered :
    ∃ view t, queuedJobs.deleteJob "tenant" "job_1" { stored with
        jobAudioKeys := [("job_1", "tenant", jobAudioKey "job_1")]
        segments := fun _ => [] } = (.ok view, t)
      ∧ ((∀ events : List (JobServerEvent ℚ), (∀ e ∈ events, e.SparesJob "tenant" "job_1") →
          queuedJobs.NothingServed "tenant" "job_1" (events.foldl queuedJobs.step t))
        ↔ queuedJobs.ReachesAll "tenant" "job_1" { stored with
          jobAudioKeys := [("job_1", "tenant", jobAudioKey "job_1")]
          segments := fun _ => [] }) :=
  ⟨_, _, rfl, nothingServed_iff queuedJobs "tenant" "job_1" _ rfl⟩

/-- **A deleted job is served** by an API that was started again: its audio, and
what was said in it. -/
theorem deleted_job_is_served :
    ∃ t, queuedJobs.deleteJob "tenant" "job_1" stored
        = (.ok { jobId := "job_1", state := "SUCCEEDED" }, t)
      ∧ (queuedJobs.getJobAudio "tenant" "job_1" false t).1.toOption.map AudioResponse.content
        = some [0, 0]
      ∧ (queuedJobs.getJobResult "tenant" "job_1" t).1.toOption.map JobResultView.segments
        = some [aWord.toPublicDict] :=
  ⟨_, rfl, rfl, rfl⟩

end Example

end Sastt
