import Sastt.Api.DeletedJobs
import Sastt.Lib.Dictionaries

/-!
# The recordings that are retained

The API remembers in one dictionary under which key it stored the audio of a
job, the audio itself is in the object store, and a third place has the
previews. They are changed by whoever creates a job, is refused by the queue,
listens to a recording or deletes it, and creating a job can take away the audio
of another tenant's.

With objects in memory these places agree after every request: there are not
more recordings than `MAX_RETAINED_JOB_AUDIO`, the objects are those that the
dictionary names, each is the audio of the request for that job and is with the
tenant of that request, and there is no preview of anything else
(`retained_along`).

What is said here is about the audio only. The ids of jobs are drawn at random,
and it is assumed that none is drawn twice.
-/

namespace Sastt

open Method

variable {S R : Type} [Field R] [LinearOrder R]

/-- Objects are kept in memory, where storing and deleting them does not
fail. -/
structure ApiServices.KeepsInMemory (services : ApiServices S R) : Prop where
  inMemoryObjects : services.inMemoryObjects = true
  putObject : services.putObject = .ok ()
  deleteObject : services.deleteObject = .ok ()

/-- The job a request creates, if it creates one. -/
def JobRequest.jobId (request : JobRequest) : String := "job_" ++ request.newJobId

/-- What is remembered of its audio. -/
def JobRequest.audioEntry (request : JobRequest) : String × String × String :=
  (request.jobId, request.tenantId, jobAudioKey request.jobId)

/-- **What is retained** after some requests for jobs. -/
structure Retained (services : ApiServices S R) (requests : List JobRequest) (s : AppState S R) :
    Prop where
  bounded : s.jobAudioKeys.length ≤ MAX_RETAINED_JOB_AUDIO
  /-- A job has one recording. -/
  nodup : (s.jobAudioKeys.map Prod.fst).Nodup
  /-- The objects are those that are remembered. -/
  objects : ∀ o, (s.objects o).isSome = true ↔ o ∈ s.jobAudioKeys.map Prod.snd
  /-- Each is the audio of the request that created the job, and is with its
  tenant. -/
  own : ∀ entry ∈ s.jobAudioKeys, ∃ request ∈ requests, ∃ input,
    checkRequest services request = .ok input ∧ entry = request.audioEntry
      ∧ s.objects entry.2 = some input.audio
  previews : ∀ preview ∈ s.jobAudioPreviews, preview.1 ∈ s.jobAudioKeys.map Prod.fst

/-- The places where audio is are as they were. -/
structure SameAudio (s t : AppState S R) : Prop where
  objects : t.objects = s.objects
  jobAudioKeys : t.jobAudioKeys = s.jobAudioKeys
  jobAudioPreviews : t.jobAudioPreviews = s.jobAudioPreviews

theorem SameAudio.refl (s : AppState S R) : SameAudio s s := ⟨rfl, rfl, rfl⟩

instance : Std.Refl (SameAudio (S := S) (R := R)) where
  refl s := .refl s

instance : IsTrans (AppState S R) SameAudio where
  trans _ _ _ h h' := ⟨h'.objects.trans h.objects, h'.jobAudioKeys.trans h.jobAudioKeys,
    h'.jobAudioPreviews.trans h.jobAudioPreviews⟩

variable {services : ApiServices S R} {requests : List JobRequest} {s t : AppState S R}

namespace Retained

theorem empty (jobs : S) (queue : QueueStore TaskPayload) :
    Retained services requests { jobs, queue } :=
  ⟨Nat.zero_le _, List.nodup_nil, fun _ => iff_of_false nofun nofun, nofun, nofun⟩

theorem of_sameAudio (h : Retained services requests s) (hst : SameAudio s t) :
    Retained services requests t := by
  obtain ⟨hobjects, hkeys, hpreviews⟩ := hst
  refine ⟨?_, ?_, ?_, ?_, ?_⟩
  · rw [hkeys]
    exact h.bounded
  · rw [hkeys]
    exact h.nodup
  · rw [hkeys, hobjects]
    exact h.objects
  · rw [hkeys, hobjects]
    exact h.own
  · rw [hkeys, hpreviews]
    exact h.previews

/-- More requests may have been made. -/
theorem mono (h : Retained services requests s) {more : List JobRequest} (hle : requests ⊆ more) :
    Retained services more s :=
  { h with
    own := fun entry hentry =>
      let ⟨request, hrequest, hown⟩ := h.own entry hentry
      ⟨request, hle hrequest, hown⟩ }

/-- What is remembered is the key that is derived from the job. -/
theorem key_eq (h : Retained services requests s) {entry : String × String × String}
    (hentry : entry ∈ s.jobAudioKeys) : entry.2.2 = jobAudioKey entry.1 := by
  obtain ⟨request, -, input, -, rfl, -⟩ := h.own entry hentry
  rfl

/-- There is one entry for a job. -/
theorem entry_unique (h : Retained services requests s) {e e' : String × String × String}
    (he : e ∈ s.jobAudioKeys) (he' : e' ∈ s.jobAudioKeys) (hid : e.1 = e'.1) : e = e' :=
  List.inj_on_of_nodup_map h.nodup he he' hid

/-- The entries are what is looked up. -/
theorem lookup_eq_some_iff (h : Retained services requests s) {jobId : String}
    {o : String × String} : s.jobAudioKeys.lookup jobId = some o ↔ (jobId, o) ∈ s.jobAudioKeys :=
  lookup_eq_some_iff_mem h.nodup

/-- No two entries name the same object. -/
theorem nodup_snd (h : Retained services requests s) : (s.jobAudioKeys.map Prod.snd).Nodup := by
  refine List.Nodup.map_on (fun e he e' he' heq => ?_) h.nodup.of_map
  refine h.entry_unique he he' (jobAudioKey_injective ?_)
  rw [← h.key_eq he, ← h.key_eq he', heq]

/-- **Forgetting a job.** -/
theorem forget (h : Retained services requests s) {jobId : String}
    (hkeys : t.jobAudioKeys = s.jobAudioKeys.filter (·.1 ≠ jobId))
    (hgone : ∀ o, (jobId, o) ∈ s.jobAudioKeys → t.objects o = none)
    (hkept : ∀ o, (jobId, o) ∉ s.jobAudioKeys → t.objects o = s.objects o)
    (hpreviews : ∀ p ∈ t.jobAudioPreviews, p ∈ s.jobAudioPreviews ∧ p.1 ≠ jobId) :
    Retained services requests t := by
  have hmem : ∀ entry, entry ∈ t.jobAudioKeys ↔ entry ∈ s.jobAudioKeys ∧ entry.1 ≠ jobId := by
    intro entry
    rw [hkeys, List.mem_filter, decide_eq_true_iff]
  have hother : ∀ entry ∈ t.jobAudioKeys, t.objects entry.2 = s.objects entry.2 := by
    intro entry hentry
    obtain ⟨hold, hne⟩ := (hmem entry).mp hentry
    refine hkept entry.2 (fun hjob => hne ?_)
    have hsame := List.inj_on_of_nodup_map h.nodup_snd hold hjob rfl
    exact congrArg Prod.fst hsame
  refine ⟨?_, ?_, fun o => ?_, fun entry hentry => ?_, fun p hp => ?_⟩
  · rw [hkeys]
    exact (List.length_filter_le _ _).trans h.bounded
  · rw [hkeys]
    exact h.nodup.sublist (List.filter_sublist.map _)
  · constructor
    · intro hsome
      have hjob : (jobId, o) ∉ s.jobAudioKeys := by
        intro hjob
        rw [hgone o hjob] at hsome
        cases hsome
      rw [hkept o hjob, h.objects] at hsome
      obtain ⟨entry, hentry, rfl⟩ := List.mem_map.mp hsome
      refine List.mem_map_of_mem ((hmem entry).mpr ⟨hentry, fun hid => hjob ?_⟩)
      rw [← hid]
      exact hentry
    · intro ho
      obtain ⟨entry, hentry, rfl⟩ := List.mem_map.mp ho
      rw [hother entry hentry, h.objects]
      exact List.mem_map_of_mem ((hmem entry).mp hentry).1
  · obtain ⟨request, hrequest, input, hinput, heq, haudio⟩ := h.own entry ((hmem entry).mp hentry).1
    exact ⟨request, hrequest, input, hinput, heq, (hother entry hentry).trans haudio⟩
  · obtain ⟨hold, hne⟩ := hpreviews p hp
    obtain ⟨entry, hentry, hid⟩ := List.mem_map.mp (h.previews p hold)
    exact List.mem_map.mpr ⟨entry, (hmem entry).mpr ⟨hentry, hid.trans_ne hne⟩, hid⟩

end Retained

/-! ## Storing -/

/-- The eviction keeps the newest entries. -/
theorem evictAudio_fst (keys : List (String × String × String))
    (objects : String × String → Option Audio) :
    (evictAudio keys objects).1 = keys.drop (keys.length - MAX_RETAINED_JOB_AUDIO) := by
  induction keys generalizing objects with
  | nil => rfl
  | cons entry keys ih =>
    unfold evictAudio
    split
    · next hmany =>
      have hlength : (entry :: keys).length - MAX_RETAINED_JOB_AUDIO
          = keys.length - MAX_RETAINED_JOB_AUDIO + 1 := by
        rw [List.length_cons]
        omega
      rw [ih, hlength, List.drop_succ_cons]
    · next hfew =>
      have hlength : (entry :: keys).length - MAX_RETAINED_JOB_AUDIO = 0 := by
        rw [List.length_cons]
        omega
      rw [hlength, List.drop_zero]

/-- It deletes the objects of the others. -/
theorem evictAudio_snd {keys : List (String × String × String)}
    {objects : String × String → Option Audio} (hnodup : (keys.map Prod.snd).Nodup)
    (hobjects : ∀ o, (objects o).isSome = true ↔ o ∈ keys.map Prod.snd) :
    (∀ o, ((evictAudio keys objects).2 o).isSome = true
        ↔ o ∈ (evictAudio keys objects).1.map Prod.snd)
      ∧ ∀ o ∈ (evictAudio keys objects).1.map Prod.snd,
      (evictAudio keys objects).2 o = objects o := by
  induction keys generalizing objects with
  | nil => exact ⟨hobjects, fun _ _ => rfl⟩
  | cons entry keys ih =>
    unfold evictAudio
    split
    · obtain ⟨hentry, hrest⟩ := List.nodup_cons.mp hnodup
      have hdeleted : ∀ o, (Function.update objects entry.2 none o).isSome = true
          ↔ o ∈ keys.map Prod.snd := by
        intro o
        by_cases ho : o = entry.2
        · rw [ho, Function.update_self]
          exact iff_of_false Bool.false_ne_true hentry
        · rw [Function.update_of_ne ho, hobjects, List.map_cons, List.mem_cons]
          exact or_iff_right ho
      obtain ⟨hexact, hsame⟩ := ih hrest hdeleted
      refine ⟨hexact, fun o ho => (hsame o ho).trans (Function.update_of_ne ?_ _ _)⟩
      rintro rfl
      rw [evictAudio_fst] at ho
      exact hentry (List.map_subset _ (List.drop_subset _ _) ho)
    · exact ⟨hobjects, fun _ _ => rfl⟩

/-- **Storing the audio of a new job**: it is retained, and nothing older more
than there is room for. -/
theorem Retained.retainJobAudio (hmemory : services.KeepsInMemory)
    (h : Retained services requests s) {request : JobRequest} {input : JobInput}
    (hinput : checkRequest services request = .ok input)
    (hfresh : ∀ r ∈ requests, r.jobId ≠ request.jobId) :
    ∃ t, Sastt.retainJobAudio services request.tenantId request.jobId input.audio s
        = (.ok (jobAudioKey request.jobId), t)
      ∧ Retained services (requests ++ [request]) t ∧ request.audioEntry ∈ t.jobAudioKeys
      ∧ ∀ p ∈ t.jobAudioPreviews, p.1 ≠ request.jobId := by
  set object := (request.tenantId, jobAudioKey request.jobId)
  set keys := s.jobAudioKeys ++ [request.audioEntry] with hkeys
  set objects := Function.update s.objects object (some input.audio) with hobjects
  have hnew : ∀ entry ∈ s.jobAudioKeys, entry.1 ≠ request.jobId := by
    intro entry hentry
    obtain ⟨r, hr, _, _, rfl, _⟩ := h.own entry hentry
    exact hfresh r hr
  have hfilter : s.jobAudioKeys.filter (·.1 ≠ request.jobId) = s.jobAudioKeys :=
    List.filter_eq_self.mpr (fun entry hentry => decide_eq_true (hnew entry hentry))
  have hobject : object ∉ s.jobAudioKeys.map Prod.snd := by
    intro hmem
    obtain ⟨entry, hentry, heq⟩ := List.mem_map.mp hmem
    refine hnew entry hentry (jobAudioKey_injective ?_)
    rw [← h.key_eq hentry, heq]
  have hnodup : (keys.map Prod.fst).Nodup := by
    rw [hkeys, ← hfilter]
    exact nodup_set h.nodup _ _
  have hnodup' : (keys.map Prod.snd).Nodup := by
    rw [hkeys, List.map_append]
    refine List.nodup_append.mpr ⟨h.nodup_snd, List.nodup_singleton _, fun o ho o' ho' heq => ?_⟩
    rw [heq, List.mem_singleton.mp ho'] at ho
    exact hobject ho
  have hstored : ∀ o, (objects o).isSome = true ↔ o ∈ keys.map Prod.snd := by
    intro o
    rw [hkeys, List.map_append, List.mem_append, hobjects]
    by_cases ho : o = object
    · rw [ho, Function.update_self]
      exact iff_of_true rfl (Or.inr (List.mem_singleton.mpr rfl))
    · rw [Function.update_of_ne ho, h.objects]
      exact (or_iff_left (fun hlast => ho (List.mem_singleton.mp hlast))).symm
  obtain ⟨hexact, hsame⟩ := evictAudio_snd hnodup' hstored
  set kept := evictAudio keys objects with hkept
  have hdrop : kept.1 = keys.drop (keys.length - MAX_RETAINED_JOB_AUDIO) := evictAudio_fst _ _
  have hsub : kept.1 ⊆ keys := hdrop ▸ List.drop_subset _ _
  refine ⟨{ s with
    objects := kept.2
    jobAudioKeys := kept.1
    jobAudioPreviews := s.jobAudioPreviews.filter (fun p => p.1 ∈ kept.1.map Prod.fst) },
    ?_, ⟨?_, ?_, hexact, fun entry hentry => ?_, fun p hp => ?_⟩, ?_, fun p hp => ?_⟩
  · unfold Sastt.retainJobAudio
    rw [hmemory.putObject, ofExcept_ok_bind, modify_bind, modify_bind]
    dsimp only
    rw [if_pos hmemory.inMemoryObjects, hfilter]
    rfl
  · show kept.1.length ≤ _
    rw [hdrop, List.length_drop]
    omega
  · show (kept.1.map Prod.fst).Nodup
    rw [hdrop]
    exact hnodup.sublist ((List.drop_sublist _ _).map _)
  · have haudio : kept.2 entry.2 = objects entry.2 := hsame _ (List.mem_map_of_mem hentry)
    rcases List.mem_append.mp (hsub hentry) with hold | hlast
    · obtain ⟨r, hr, input', hinput', heq, haudio'⟩ := h.own entry hold
      refine ⟨r, List.mem_append_left _ hr, input', hinput', heq, ?_⟩
      show kept.2 entry.2 = _
      have hother : entry.2 ≠ object := fun heq => hobject (heq ▸ List.mem_map_of_mem hold)
      rw [haudio, hobjects, Function.update_of_ne hother, haudio']
    · rw [List.mem_singleton.mp hlast] at haudio ⊢
      refine ⟨request, List.mem_append_right _ (List.mem_singleton.mpr rfl), input, hinput, rfl, ?_⟩
      exact haudio.trans (Function.update_self ..)
  · exact of_decide_eq_true (List.mem_filter.mp hp).2
  · show request.audioEntry ∈ kept.1
    have hlength : keys.length - MAX_RETAINED_JOB_AUDIO ≤ s.jobAudioKeys.length := by
      rw [hkeys, List.length_append, List.length_singleton]
      unfold MAX_RETAINED_JOB_AUDIO
      omega
    rw [hdrop, hkeys, List.drop_append_of_le_length (hkeys ▸ hlength)]
    exact List.mem_append_right _ (List.mem_singleton.mpr rfl)
  · obtain ⟨entry, hentry, hid⟩ := List.mem_map.mp (h.previews p (List.mem_of_mem_filter hp))
    exact hid ▸ hnew entry hentry

/-! ## Creating a job -/

/-- Assigning to the fields of a job leaves the audio as it is. -/
theorem sameAudio_assignJob (job : JobRecord) : Within SameAudio (assignJob services job) :=
  within_bind (within_modify (fun _ => ⟨rfl, rfl, rfl⟩)) (fun _ => within_pure _)

theorem sameAudio_transitionJob (job : JobRecord) (state : JobState) :
    Within SameAudio (transitionJob services job state) :=
  within_bind (within_ofExcept _) (fun job => sameAudio_assignJob job)

/-- Running a job leaves the audio as it is. -/
theorem sameAudio_runJob (job : JobRecord) (scenario : Option String) (audio : Audio)
    (language : Option String) :
    Within SameAudio (runJob services job scenario audio language) := by
  refine within_bind (within_ofExcept _) (fun _ => within_bind (sameAudio_transitionJob _ _)
    (fun job => within_bind (within_ofExcept _) (fun payload => within_bind ?_ (fun result => ?_))))
  · exact within_catchIf (within_ofExcept _) (fun e => within_bind (sameAudio_assignJob _)
      (fun _ => within_bind (sameAudio_transitionJob _ _) (fun _ => within_throw _)))
  · exact within_bind (within_modify (fun _ => ⟨rfl, rfl, rfl⟩))
      (fun _ => sameAudio_transitionJob _ _)

/-- What is stored of a job that was just created. -/
def JustStored (services : ApiServices S R) (requests : List JobRequest) (request : JobRequest)
    (s : AppState S R) : Prop :=
  Retained services requests s ∧ request.audioEntry ∈ s.jobAudioKeys
    ∧ ∀ p ∈ s.jobAudioPreviews, p.1 ≠ request.jobId

/-- **The queue refuses the job**: its audio is taken back. -/
theorem JustStored.cancelJob (hmemory : services.KeepsInMemory) {request : JobRequest}
    (h : JustStored services requests request s) (e : PyError) :
    Retained services requests (Sastt.cancelJob services request.tenantId request.jobId
      (jobAudioKey request.jobId) e s).2 := by
  obtain ⟨hretained, hentry, hpreviews⟩ := h
  unfold Sastt.cancelJob
  rw [hmemory.deleteObject, ofExcept_ok_bind, modify_bind]
  have hrest : Within SameAudio ((services.jobs.updateState request.tenantId request.jobId
      .cancelled).zoom AppState.jobs (fun s jobs => { s with jobs }) >>= fun _ =>
        (.throw e : Method PyError (AppState S R) (Task TaskPayload))) :=
    within_bind (fun _ => ⟨rfl, rfl, rfl⟩) (fun _ => within_throw _)
  have hforgotten : Retained services requests { s with
      objects := Function.update s.objects (request.tenantId, jobAudioKey request.jobId) none
      jobAudioKeys := s.jobAudioKeys.filter (·.1 ≠ request.jobId) } := by
    refine hretained.forget rfl (fun o ho => ?_) (fun o ho => ?_) (fun p hp => ⟨hp, hpreviews p hp⟩)
    · have hsame := hretained.entry_unique ho hentry rfl
      rw [show o = request.audioEntry.2 from congrArg Prod.snd hsame]
      exact Function.update_self ..
    · refine Function.update_of_ne (fun heq => ho ?_) _ _
      rw [heq]
      exact hentry
  exact hforgotten.of_sameAudio (hrest _)

/-- **The job is put into the queue**, or its audio is taken back. -/
theorem JustStored.queueJob (hmemory : services.KeepsInMemory) {request : JobRequest}
    (h : JustStored services requests request s) {q : RedisTaskQueue} (input : JobInput)
    {job : JobRecord} (hjob : job.jobId = request.jobId) :
    Retained services requests
      (Sastt.queueJob services q request input job (jobAudioKey request.jobId) s).2 := by
  unfold Sastt.queueJob
  rw [hjob]
  have hqueue : ∀ payload s, JustStored services requests request s →
      JustStored services requests request
        (enqueueTask services q request.newTaskId request.tenantId request.jobId payload s).2 := by
    intro payload s hs
    have hsame : Within SameAudio
        (enqueueTask services q request.newTaskId request.tenantId request.jobId payload) :=
      within_bind (fun _ => ⟨rfl, rfl, rfl⟩) (fun _ => within_ofExcept _)
    refine ⟨hs.1.of_sameAudio (hsame s), ?_, ?_⟩
    · rw [(hsame s).jobAudioKeys]
      exact hs.2.1
    · rw [(hsame s).jobAudioPreviews]
      exact hs.2.2
  have henqueue : ∀ payload, Triple (JustStored services requests request)
      (enqueueTask services q request.newTaskId request.tenantId request.jobId payload)
      (fun _ => Retained services requests) (fun _ => JustStored services requests request) :=
    fun payload => (triple_of_snd (hqueue payload)).weaken (fun _ hs => hs) (fun _ _ hs => hs.1)
      (fun _ _ hs => hs)
  have hcancel : ∀ e, Triple (JustStored services requests request)
      (Sastt.cancelJob services request.tenantId request.jobId (jobAudioKey request.jobId) e)
      (fun _ => Retained services requests) (fun _ => Retained services requests) :=
    fun e => triple_of_snd (fun s hs => hs.cancelJob hmemory e)
  exact (triple_catchIf_raising (henqueue _) hcancel (fun _ _ hs => hs.1)).snd h

/-- **Submitting a new job.** -/
theorem Retained.submitJob (hmemory : services.KeepsInMemory) (h : Retained services requests s)
    {request : JobRequest} {input : JobInput}
    (hinput : checkRequest services request = .ok input)
    (hfresh : ∀ r ∈ requests, r.jobId ≠ request.jobId) {job : JobRecord}
    (hjob : job.jobId = request.jobId) :
    Retained services (requests ++ [request]) (Sastt.submitJob services request input job s).2 := by
  unfold Sastt.submitJob
  rw [modify_bind]
  have hstart := h.of_sameAudio (t := { s with
    jobScenarios := Function.update s.jobScenarios job.jobId (some (input.scenario.getD "upload"))
    jobLanguages := Function.update s.jobLanguages job.jobId (some input.language) })
    ⟨rfl, rfl, rfl⟩
  obtain ⟨t, hretain, hstored⟩ := hstart.retainJobAudio hmemory hinput hfresh
  rw [hjob] at hretain ⊢
  rw [bind_of_ok hretain]
  cases services.taskQueue with
  | none => exact hstored.1.of_sameAudio (sameAudio_runJob job _ _ _ t)
  | some q =>
    show Retained services _ ((Sastt.queueJob services q request input job
      (jobAudioKey request.jobId) >>= fun _ => pure job) t).2
    rw [bind_pure_snd (fun _ => job)]
    exact JustStored.queueJob hmemory hstored input hjob

/-- **A request for a job**, whatever becomes of it. -/
theorem Retained.createJob (hmemory : services.KeepsInMemory) (h : Retained services requests s)
    (request : JobRequest) (hfresh : ∀ r ∈ requests, r.jobId ≠ request.jobId) :
    Retained services (requests ++ [request]) (Sastt.createJob services request s).2 := by
  have hmore : Retained services (requests ++ [request]) s := h.mono (List.subset_append_left _ _)
  unfold Sastt.createJob
  cases hinput : checkRequest services request with
  | error e => exact hmore
  | ok input =>
    rw [ofExcept_ok_bind]
    rcases hstore : services.jobs.createOrGet request.jobId request.tenantId input.idempotencyKey
      (services.sha256 input.audio) (some services.configVersion) s.jobs with ⟨r, jobs⟩
    obtain ⟨r', hr', hsame⟩ := createOrGetJob_eq hstore
    cases r' with
    | error e =>
      rw [bind_of_error hr']
      exact hmore.of_sameAudio ⟨rfl, rfl, rfl⟩
    | ok found =>
      obtain ⟨job, created⟩ := found
      rw [bind_of_ok hr']
      cases created with
      | false => exact hmore.of_sameAudio ⟨rfl, rfl, rfl⟩
      | true =>
        have hjob : job.jobId = request.jobId := by
          rw [services.jobs.created_eq_ok
            (hstore.trans (Prod.ext ((hsame job true).mp rfl) rfl)) |>.1]
          rfl
        have hsubmit := (h.of_sameAudio (t := { s with jobs }) ⟨rfl, rfl, rfl⟩).submitJob hmemory
          hinput hfresh hjob
        show Retained services _ ((Sastt.submitJob services request input job >>= fun job =>
          read >>= fun s => pure (jobView services s job true)) { s with jobs }).2
        refine (triple_bind (P := fun t => t = { s with jobs })
          (Q := fun _ => Retained services (requests ++ [request]))
          (triple_of_snd (fun t ht => ht ▸ hsubmit))
          (fun job => triple_of_snd (fun t ht => ht))).snd rfl

/-! ## Listening and deleting -/

namespace JobApi

variable {api : JobApi R} {requests : List JobRequest} {s : JobServer R}

/-- Where audio is looked for is the key that is derived from the job. -/
theorem audioKeyOf_eq (h : Retained api.toApiServices requests s.toAppState) (jobId : String) :
    audioKeyOf s jobId = jobAudioKey jobId := by
  unfold audioKeyOf
  cases hlookup : s.jobAudioKeys.lookup jobId with
  | none => rfl
  | some object => exact h.key_eq (h.lookup_eq_some_iff.mp hlookup)

/-- A recording that is there is remembered. -/
theorem remembered_of_audio (h : Retained api.toApiServices requests s.toAppState)
    {tenantId jobId : String} {payload : Audio}
    (haudio : readAudio s tenantId (audioKeyOf s jobId) = .ok payload) :
    jobId ∈ s.jobAudioKeys.map Prod.fst := by
  have hsome : (s.objects (tenantId, audioKeyOf s jobId)).isSome = true := by
    unfold readAudio at haudio
    cases hobject : s.objects (tenantId, audioKeyOf s jobId) with
    | none =>
      rw [hobject] at haudio
      cases haudio
    | some payload => rfl
  obtain ⟨entry, hentry, heq⟩ := List.mem_map.mp ((h.objects _).mp hsome)
  refine List.mem_map.mpr ⟨entry, hentry, jobAudioKey_injective ?_⟩
  rw [← h.key_eq hentry, heq, audioKeyOf_eq h]

/-- A job is looked for first, and nothing changes if it is not found. -/
theorem findJob_bind {α : Type} {tenantId jobId : String}
    {k : JobRecord → Method PyError (JobServer R) α} {I : JobServer R → Prop} (hs : I s)
    (hk : ∀ job, I (k job s).2) : I ((findJob tenantId jobId >>= k) s).2 := by
  have hfind : findJob tenantId jobId s = (JobRows.get s.jobs tenantId jobId, s) := rfl
  cases hget : JobRows.get s.jobs tenantId jobId with
  | error e =>
    rw [hget] at hfind
    rw [bind_of_error hfind]
    exact hs
  | ok job =>
    rw [hget] at hfind
    rw [bind_of_ok hfind]
    exact hk job

/-- A preview of a recording that is remembered. -/
theorem retained_previewOf (h : Retained api.toApiServices requests s.toAppState) {jobId : String}
    (hjob : jobId ∈ s.jobAudioKeys.map Prod.fst) (payload : Audio) :
    Retained api.toApiServices requests (api.previewOf jobId payload s).2.toAppState := by
  unfold previewOf
  rw [read_bind]
  cases s.jobAudioPreviews.lookup jobId with
  | some encoded => exact h
  | none =>
    cases api.buildAudioPreview payload with
    | none => exact h
    | some encoded =>
      refine { h with previews := fun p hp => ?_ }
      rcases List.mem_append.mp hp with hold | hnew
      · exact h.previews p (List.mem_of_mem_filter hold)
      · rw [List.mem_singleton.mp hnew]
        exact hjob

/-- **Listening to a recording** keeps a preview of it at most. -/
theorem retained_getJobAudio (h : Retained api.toApiServices requests s.toAppState)
    (tenantId jobId : String) (preview : Bool) :
    Retained api.toApiServices requests
      (api.getJobAudio tenantId jobId preview s).2.toAppState := by
  refine findJob_bind (I := fun t => Retained api.toApiServices requests t.toAppState) h
    (fun job => ?_)
  rw [read_bind]
  cases haudio : readAudio s tenantId (audioKeyOf s job.jobId) with
  | error e => exact h
  | ok payload =>
    rw [ofExcept_ok_bind]
    cases preview with
    | false => exact h
    | true =>
      show Retained _ requests
        ((api.previewOf job.jobId payload >>= fun encoded => pure _) s).2.toAppState
      rw [bind_pure_snd]
      exact retained_previewOf h (remembered_of_audio h haudio) payload

/-- **Deleting a job** deletes its recording. -/
theorem retained_deleteJob (hmemory : api.toApiServices.KeepsInMemory)
    (h : Retained api.toApiServices requests s.toAppState) (tenantId jobId : String) :
    Retained api.toApiServices requests (api.deleteJob tenantId jobId s).2.toAppState := by
  refine findJob_bind (I := fun t => Retained api.toApiServices requests t.toAppState) h
    (fun job => ?_)
  rw [read_bind, modify_bind]
  set kept : JobServer R := { forget job.jobId s with
    objects := (s.jobAudioKeys.lookup job.jobId).elim s.objects
      (fun object => Function.update s.objects object none) } with hkept
  have hdelete : api.deleteRetained (s.jobAudioKeys.lookup job.jobId) (forget job.jobId s)
      = (.ok (), kept) := by
    unfold deleteRetained
    rw [hkept]
    cases s.jobAudioKeys.lookup job.jobId with
    | none => rfl
    | some object =>
      dsimp only
      rw [hmemory.deleteObject]
      rfl
  have hforgotten : Retained api.toApiServices requests kept.toAppState := by
    refine h.forget rfl (fun o ho => ?_) (fun o ho => ?_) (fun p hp => ?_)
    · rw [hkept]
      dsimp only
      rw [h.lookup_eq_some_iff.mpr ho]
      exact Function.update_self ..
    · rw [hkept]
      dsimp only
      cases hlookup : s.jobAudioKeys.lookup job.jobId with
      | none => rfl
      | some object =>
        refine Function.update_of_ne (fun heq => ho ?_) _ _
        rw [heq]
        exact h.lookup_eq_some_iff.mp hlookup
    · obtain ⟨hold, hne⟩ := List.mem_filter.mp hp
      exact ⟨hold, of_decide_eq_true hne⟩
  rw [bind_of_ok hdelete]
  have hcancel : SameAudio kept.toAppState
    (cancelUnlessTerminal tenantId job kept).2.toAppState := by
    unfold cancelUnlessTerminal
    split
    · exact .refl _
    · exact ⟨rfl, rfl, rfl⟩
  rw [bind_pure_snd]
  exact hforgotten.of_sameAudio hcancel

end JobApi

/-! ## Runs -/

/-- The request for a job that an event is, if it is one. -/
def JobServerEvent.request : JobServerEvent R → Option JobRequest
  | .create request => some request
  | _ => none

variable {api : JobApi R} {requests : List JobRequest}

/-- **One event**, of a process that goes on running. -/
theorem Retained.step (hmemory : api.toApiServices.KeepsInMemory) {s : JobServer R}
    (h : Retained api.toApiServices requests s.toAppState) {e : JobServerEvent R}
    (hrestart : e ≠ .restart) (hfresh : ∀ request ∈ e.request, ∀ r ∈ requests,
      r.jobId ≠ request.jobId) :
    Retained api.toApiServices (requests ++ e.request.toList) (api.step s e).toAppState := by
  cases e with
  | create request => exact h.createJob hmemory request (hfresh request rfl)
  | restart => exact absurd rfl hrestart
  | audio tenantId jobId preview =>
    rw [show JobServerEvent.request _ = none from rfl, Option.toList_none, List.append_nil]
    exact JobApi.retained_getJobAudio h tenantId jobId preview
  | delete tenantId jobId =>
    rw [show JobServerEvent.request _ = none from rfl, Option.toList_none, List.append_nil]
    exact JobApi.retained_deleteJob hmemory h tenantId jobId
  | get tenantId jobId =>
    exact (h.mono (List.subset_append_left _ _)).of_sameAudio (JobApi.findJob_bind
      (I := fun t => SameAudio s.toAppState t.toAppState) (.refl _) (fun _ => .refl _))
  | result tenantId jobId =>
    exact (h.mono (List.subset_append_left _ _)).of_sameAudio (JobApi.findJob_bind
      (I := fun t => SameAudio s.toAppState t.toAppState) (.refl _) (fun _ => .refl _))
  | work _ | saveResult _ _ _ _ _ | updateState _ _ _ | setError _ _ _ =>
    exact (h.mono (List.subset_append_left _ _)).of_sameAudio ⟨rfl, rfl, rfl⟩

/-- The requests for jobs among some events. -/
def jobRequests (events : List (JobServerEvent R)) : List JobRequest :=
  events.filterMap JobServerEvent.request

/-- **Retained recordings stay bounded and owned**: after every event of a
process that was started with no recordings, by whatever tenants and however
they come after one another. -/
theorem retained_along (api : JobApi R) (hmemory : api.toApiServices.KeepsInMemory)
    (jobs : List JobRecord) (queue : QueueStore TaskPayload)
    (segments : String × String → List (PublicSegment R)) (events : List (JobServerEvent R))
    (hprocess : ∀ e ∈ events, e ≠ .restart)
    (hids : ((jobRequests events).map JobRequest.newJobId).Nodup) :
    ∀ pre, pre <+: events → Retained api.toApiServices (jobRequests pre)
      (pre.foldl api.step { jobs, queue, segments }).toAppState := by
  intro pre hpre
  induction pre using List.reverseRecOn with
  | nil => exact .empty jobs queue
  | append_singleton pre e ih =>
    have hrequests : jobRequests (pre ++ [e]) = jobRequests pre ++ e.request.toList := by
      unfold jobRequests
      rw [List.filterMap_append]
      cases he : e.request <;> simp [he]
    rw [List.foldl_append, hrequests]
    refine (ih ((List.prefix_append pre [e]).trans hpre)).step hmemory
      (hprocess e (hpre.subset List.mem_concat_self)) (fun request hrequest r hr heq => ?_)
    have hsub : (jobRequests (pre ++ [e])).Sublist (jobRequests events) := hpre.sublist.filterMap _
    have hnodup := hids.sublist (hsub.map _)
    rw [hrequests, show e.request = some request from hrequest, List.map_append] at hnodup
    have hdisjoint := List.disjoint_of_nodup_append hnodup
    refine hdisjoint (List.mem_map_of_mem hr) (List.mem_singleton.mpr ?_)
    have hlists := congrArg String.toList heq
    simp only [JobRequest.jobId, String.toList_append] at hlists
    exact String.toList_inj.mp (List.append_cancel_left hlists)

section Example

/-- Jobs run in the process, which can make previews. -/
def listening : JobApi ℚ :=
  { inProcess (.error (.other "CUDA out of memory")) with
    durable := false
    jobs_eq := rfl
    queryOrder := binaryOrder ℚ
    buildAudioPreview := fun _ => some [1] }

/-- A job is created, whose run fails, and its recording is listened to. -/
def uploadHeard : List (JobServerEvent ℚ) := [.create upload, .audio "tenant" "job_1" true]

/-- There is one recording then, and a preview of it. -/
theorem retained_uploadHeard :
    Retained listening.toApiServices [upload]
        (uploadHeard.foldl listening.step { jobs := [] }).toAppState
      ∧ (uploadHeard.foldl listening.step { jobs := [] }).jobAudioKeys = [upload.audioEntry]
      ∧ (uploadHeard.foldl listening.step { jobs := [] }).jobAudioPreviews = [("job_1", [1])] :=
  ⟨retained_along listening ⟨rfl, rfl, rfl⟩ [] {} (fun _ => []) uploadHeard (by simp [uploadHeard])
    (List.nodup_singleton _) uploadHeard (List.prefix_refl _), by decide +kernel, by decide +kernel⟩

end Example

end Sastt
