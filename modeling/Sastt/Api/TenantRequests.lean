import Sastt.Api.TenantJobs

/-!
# Requests about jobs, by tenant

A tenant that asks for one of its jobs, for its result or to delete it is
answered as if it were alone. One that asks for a recording is, too, or is told
that it is no longer retained. What other tenants ask for or delete, it does not
see. Every handler looks for the job among the rows of the tenant first, and
that is what it takes.
-/

namespace Sastt

open Method

variable {R : Type} [Field R] [LinearOrder R]

/-- What the tenant sees of two servers is the same. -/
def SeenServer (B : String) (s t : JobServer R) : Prop := Seen B s.toAppState t.toAppState

/-- Jobs are not shared: another row with the id of a row is the same tenant's. -/
def OwnJobs (rows : List JobRecord) : Prop :=
  ∀ row ∈ rows, OwnJob row.tenantId row.jobId rows

/-- An answer that is right, or that a recording is not there any more. -/
def UpToRetention {α : Type} (a b : Except PyError α) : Prop :=
  a = b ∨ a = .error (.http 404 "input audio is no longer retained for this job")

theorem UpToRetention.map {α β : Type} {a b : Except PyError α} (h : UpToRetention a b)
    (f : α → β) : UpToRetention (a.map f) (b.map f) := by
  rcases h with rfl | rfl
  · exact .inl rfl
  · exact .inr rfl

namespace JobApi

variable {api : JobApi R} {B jobId : String} {s t : JobServer R} {requests : List JobRequest}

/-- **The job is looked for first**: both tell that it is not there, or go on with
the same record of it. -/
theorem agreeAt_findJob_bind {α : Type} {A : α → Prop}
    {k₁ k₂ : JobRecord → Method PyError (JobServer R) α} (h : SeenServer B s t)
    (hown : OwnJobs s.jobs) (hk : ∀ job, IsJob jobId B job → OwnJob B jobId s.jobs →
      AgreeAt (SeenServer B) A (k₁ job) (k₂ job) s t) :
    AgreeAt (SeenServer B) A (findJob B jobId >>= k₁) (findJob B jobId >>= k₂) s t := by
  have hs : findJob B jobId s = (JobRows.get s.jobs B jobId, s) := rfl
  have ht : findJob B jobId t = (JobRows.get s.jobs B jobId, t) := by
    rw [← h.get jobId]
    rfl
  cases hget : JobRows.get s.jobs B jobId with
  | error e =>
    rw [hget] at hs ht
    exact (agree_throw e s t h).congr (bind_of_error hs) (bind_of_error ht)
  | ok job =>
    rw [hget] at hs ht
    obtain ⟨hmem, rfl, rfl⟩ := JobRows.get_eq_ok hget
    exact (hk job ⟨rfl, rfl⟩ (hown job hmem)).congr (bind_of_ok hs) (bind_of_ok ht)

/-- **Looking at a job.** -/
theorem agreeAt_getJob (h : SeenServer B s t) (hown : OwnJobs s.jobs) :
    AgreeAt (SeenServer B) (fun _ => True) (api.getJob B jobId) (api.getJob B jobId) s t := by
  refine agreeAt_findJob_bind h hown (fun job hjob hmine => ?_)
  have hview := h.jobView api.toApiServices (hjob.1 ▸ hmine) false
  exact (agree_pure trivial s t h).congr rfl (by rw [← hview]; rfl)

/-- What a request for a result is answered by an API in memory. -/
theorem getJobResult_bind_eq (hmemory : api.InMemory) (job : JobRecord) (s : JobServer R) :
    (read >>= fun s => ofExcept (match s.results job.jobId with
      | some result => .ok (api.memoryView job result)
      | none =>
        if ¬ job.isTerminal then notFinished job
        else if ¬ api.durable then notFinished job
        else
          let segments := api.loadResult s B job.jobId
          if segments = [] then notFinished job else .ok (api.savedView job segments)) :
        Method PyError (JobServer R) (JobResultView R)) s
      = (((s.results job.jobId).map (fun result => .ok (api.memoryView job result))).getD
        (notFinished job), s) := by
  rw [read_bind]
  cases s.results job.jobId with
  | some result => rfl
  | none =>
    dsimp only [ofExcept_apply]
    rw [if_pos (show ¬ api.durable = true by simp [hmemory.durable]), ite_self]
    rfl

/-- **Asking for its result.** -/
theorem agreeAt_getJobResult (hmemory : api.InMemory) (h : SeenServer B s t)
    (hown : OwnJobs s.jobs) :
    AgreeAt (SeenServer B) (fun _ => True) (api.getJobResult B jobId) (api.getJobResult B jobId)
      s t := by
  refine agreeAt_findJob_bind h hown (fun job hjob hmine => ?_)
  refine (agree_ofExcept (fun _ _ => trivial) s t h).congr (getJobResult_bind_eq hmemory job s)
    ((getJobResult_bind_eq hmemory job t).trans ?_)
  rw [h.results job.jobId (hjob.1 ▸ hmine)]
  rfl

/-! ## Recordings -/

/-- What a recording is served as. -/
def audioResponse (api : JobApi R) (jobId : String) (payload : Audio) (preview : Bool) :
    AudioResponse :=
  let headers := [("Content-Disposition", "inline; filename=\"" ++ jobId ++ "\""),
    ("Cache-Control", "private, no-store")]
  match if preview then api.buildAudioPreview payload else none with
  | some encoded => { content := encoded, mediaType := AUDIO_PREVIEW_MEDIA_TYPE, headers }
  | none => { content := payload, mediaType := audioMediaType payload, headers }

/-- The recording of a job is that of the request for it. -/
theorem audio_of_object (h : Requested api requests s.toAppState) {payload : Audio}
    (hobject : s.objects (B, jobAudioKey jobId) = some payload) :
    ∃ r ∈ requests, ∃ input, checkRequest api.toApiServices r = .ok input ∧ r.jobId = jobId
      ∧ r.audioEntry ∈ s.jobAudioKeys ∧ input.audio = payload := by
  obtain ⟨entry, hentry, heq⟩ := List.mem_map.mp
    ((h.retained.objects _).mp (Option.isSome_of_eq_some hobject))
  obtain ⟨r, hr, input, hinput, rfl, haudio⟩ := h.retained.own entry hentry
  have hid : r.jobId = jobId := jobAudioKey_injective (congrArg Prod.snd heq)
  rw [heq, hobject] at haudio
  exact ⟨r, hr, input, hinput, hid, hentry, (Option.some.inj haudio).symm⟩

/-- **A preview is of the recording**, whether it is built now or was before. -/
theorem previewOf_fst (h : Requested api requests s.toAppState)
    (hids : (requests.map JobRequest.jobId).Nodup) {payload : Audio}
    (hobject : s.objects (B, jobAudioKey jobId) = some payload) :
    (api.previewOf jobId payload s).1 = .ok (api.buildAudioPreview payload) := by
  unfold previewOf
  rw [read_bind]
  cases hlookup : s.jobAudioPreviews.lookup jobId with
  | none =>
    cases hbuild : api.buildAudioPreview payload with
    | none => rfl
    | some encoded => rfl
  | some encoded =>
    obtain ⟨r, hr, input, hinput, hid, -, rfl⟩ := audio_of_object h hobject
    obtain ⟨front, back, heq, -⟩ := List.lookup_eq_some_iff.mp hlookup
    obtain ⟨r', hr', input', hinput', hid', hpreview⟩ := h.previews (jobId, encoded)
      (heq ▸ List.mem_append_right front List.mem_cons_self)
    have hsame := List.inj_on_of_nodup_map hids hr' hr (hid'.trans hid.symm)
    rw [hsame, hinput] at hinput'
    cases hinput'
    rw [hpreview]
    rfl

/-- **What a request for audio is answered.** -/
theorem getJobAudio_fst (h : Requested api requests s.toAppState)
    (hids : (requests.map JobRequest.jobId).Nodup) (preview : Bool) :
    (api.getJobAudio B jobId preview s).1 = match JobRows.get s.jobs B jobId with
      | .error e => .error e
      | .ok _ =>
        match s.objects (B, jobAudioKey jobId) with
        | none => .error (.http 404 "input audio is no longer retained for this job")
        | some payload => .ok (audioResponse api jobId payload preview) := by
  have hfind : findJob B jobId s = (JobRows.get s.jobs B jobId, s) := rfl
  unfold getJobAudio
  cases hget : JobRows.get s.jobs B jobId with
  | error e =>
    rw [hget] at hfind
    rw [bind_of_error hfind]
  | ok job =>
    rw [hget] at hfind
    obtain ⟨-, rfl, -⟩ := JobRows.get_eq_ok hget
    rw [bind_of_ok hfind, read_bind]
    unfold readAudio
    rw [audioKeyOf_eq h.retained]
    dsimp only
    cases hobject : s.objects (B, jobAudioKey job.jobId) with
    | none => rfl
    | some payload =>
      rw [ofExcept_ok_bind]
      unfold audioResponse
      cases preview with
      | false => rfl
      | true =>
        rcases hpreview : api.previewOf job.jobId payload s with ⟨r, u⟩
        have hbuild := previewOf_fst h hids hobject
        rw [hpreview] at hbuild
        dsimp only at hbuild
        subst hbuild
        simp only [if_true]
        rw [bind_of_ok hpreview]
        rfl

/-- The recordings the tenant still has are those it would have alone. -/
theorem objects_of_seen {requests' : List JobRequest} (h : SeenServer B s t)
    (hs : Requested api requests s.toAppState) (ht : Requested api requests' t.toAppState)
    (hids : (requests.map JobRequest.jobId).Nodup) (hsub : requests' ⊆ requests) {payload : Audio}
    (hobject : s.objects (B, jobAudioKey jobId) = some payload) :
    t.objects (B, jobAudioKey jobId) = some payload := by
  obtain ⟨entry, hentry, heq⟩ := List.mem_map.mp
    ((hs.retained.objects _).mp (Option.isSome_of_eq_some hobject))
  have hkept : entry ∈ t.jobAudioKeys := h.jobAudioKeys.subset
    (List.mem_filter.mpr ⟨hentry, by simp [heq]⟩)
  obtain ⟨r, hr, input, hinput, hentry_eq, haudio⟩ := hs.retained.own entry hentry
  obtain ⟨r', hr', input', hinput', hentry_eq', haudio'⟩ := ht.retained.own entry hkept
  have hsame : r' = r := List.inj_on_of_nodup_map hids (hsub hr') hr
    (congrArg Prod.fst (hentry_eq'.symm.trans hentry_eq))
  rw [hsame, hinput] at hinput'
  cases hinput'
  rw [heq] at haudio haudio'
  rw [haudio', ← haudio, hobject]

/-- **Asking for a recording**: the answer is that of an API at which the tenant is
alone, or that the recording is no longer retained. -/
theorem getJobAudio_seen {requests' : List JobRequest} (h : SeenServer B s t)
    (hs : Requested api requests s.toAppState) (ht : Requested api requests' t.toAppState)
    (hids : (requests.map JobRequest.jobId).Nodup)
    (hids' : (requests'.map JobRequest.jobId).Nodup) (hsub : requests' ⊆ requests)
    (preview : Bool) :
    UpToRetention (api.getJobAudio B jobId preview s).1 (api.getJobAudio B jobId preview t).1 := by
  rw [getJobAudio_fst hs hids, getJobAudio_fst ht hids', h.get]
  cases JobRows.get s.jobs B jobId with
  | error e => exact Or.inl rfl
  | ok job =>
    cases hobject : s.objects (B, jobAudioKey jobId) with
    | none => exact Or.inr rfl
    | some payload =>
      rw [objects_of_seen h hs ht hids hsub hobject]
      exact Or.inl rfl

/-- A request for audio remembers a preview at most. -/
theorem getJobAudio_snd (api : JobApi R) (s : JobServer R) (tenantId jobId : String)
    (preview : Bool) :
    (api.getJobAudio tenantId jobId preview s).2 = s
      ∨ ∃ payload encoded, readAudio s tenantId (audioKeyOf s jobId) = .ok payload
        ∧ api.buildAudioPreview payload = some encoded
        ∧ (api.getJobAudio tenantId jobId preview s).2 = { s with
          jobAudioPreviews :=
            s.jobAudioPreviews.filter (·.1 ≠ jobId) ++ [(jobId, encoded)] } := by
  have hfind : findJob tenantId jobId s = (JobRows.get s.jobs tenantId jobId, s) := rfl
  unfold getJobAudio
  cases hget : JobRows.get s.jobs tenantId jobId with
  | error e =>
    rw [hget] at hfind
    rw [bind_of_error hfind]
    exact Or.inl rfl
  | ok job =>
    rw [hget] at hfind
    obtain ⟨-, rfl, -⟩ := JobRows.get_eq_ok hget
    rw [bind_of_ok hfind, read_bind]
    cases haudio : readAudio s tenantId (audioKeyOf s job.jobId) with
    | error e => exact Or.inl rfl
    | ok payload =>
      rw [ofExcept_ok_bind]
      cases preview with
      | false => exact Or.inl rfl
      | true =>
        dsimp only
        rw [if_pos rfl, bind_pure_snd]
        unfold previewOf
        rw [read_bind]
        cases s.jobAudioPreviews.lookup job.jobId with
        | some encoded => exact Or.inl rfl
        | none =>
          cases hbuild : api.buildAudioPreview payload with
          | none => exact Or.inl rfl
          | some encoded => exact Or.inr ⟨payload, encoded, rfl, hbuild, rfl⟩

/-- No tenant sees that somebody asked for a recording. -/
theorem seen_getJobAudio (h : SeenServer B s t) (tenantId : String) (preview : Bool) :
    SeenServer B (api.getJobAudio tenantId jobId preview s).2 t := by
  rcases getJobAudio_snd api s tenantId jobId preview with
    hsame | ⟨payload, encoded, -, -, hpreview⟩
  · rw [hsame]
    exact h
  · rw [hpreview]
    exact { h with }

/-- Nor does it make a difference where the tenant is alone. -/
theorem seen_getJobAudio_alone (h : SeenServer B s t) (tenantId : String) (preview : Bool) :
    SeenServer B s (api.getJobAudio tenantId jobId preview t).2 := by
  rcases getJobAudio_snd api t tenantId jobId preview with
    hsame | ⟨payload, encoded, -, -, hpreview⟩
  · rw [hsame]
    exact h
  · rw [hpreview]
    exact { h with }

theorem requested_getJobAudio (h : Requested api requests s.toAppState) (tenantId : String)
    (preview : Bool) :
    Requested api requests (api.getJobAudio tenantId jobId preview s).2.toAppState := by
  have hretained := retained_getJobAudio h.retained tenantId jobId preview
  rcases getJobAudio_snd api s tenantId jobId preview with
    hsame | ⟨payload, encoded, haudio, hbuild, hpreview⟩
  · rw [hsame]
    exact h
  · rw [hpreview] at hretained ⊢
    refine ⟨hretained, h.rows, fun p hp => ?_⟩
    rcases List.mem_append.mp hp with hold | hnew
    · exact h.previews p (List.mem_of_mem_filter hold)
    · rw [List.mem_singleton.mp hnew]
      rw [audioKeyOf_eq h.retained] at haudio
      unfold readAudio at haudio
      cases hobject : s.objects (tenantId, jobAudioKey jobId) with
      | none =>
        rw [hobject] at haudio
        cases haudio
      | some audio =>
        rw [hobject] at haudio
        cases haudio
        obtain ⟨r, hr, input, hinput, hid, -, rfl⟩ := audio_of_object h hobject
        exact ⟨r, hr, input, hinput, hid, hbuild⟩

/-! ## Deleting -/

/-- The state in which the recording of a job was just deleted. -/
def forgotten (jobId : String) (s : JobServer R) : JobServer R :=
  { forget jobId s with
    objects := (s.jobAudioKeys.lookup jobId).elim s.objects
      (fun object => Function.update s.objects object none) }

/-- **What a request to delete a job does.** -/
theorem deleteJob_eq (hmemory : api.InMemory) (tenantId jobId : String) :
    api.deleteJob tenantId jobId s = match JobRows.get s.jobs tenantId jobId with
      | .error e => (.error e, s)
      | .ok job => (cancelUnlessTerminal tenantId job >>= fun job =>
          pure { jobId := job.jobId, state := job.state.value }) (forgotten jobId s) := by
  have hfind : findJob tenantId jobId s = (JobRows.get s.jobs tenantId jobId, s) := rfl
  unfold deleteJob
  cases hget : JobRows.get s.jobs tenantId jobId with
  | error e =>
    rw [hget] at hfind
    rw [bind_of_error hfind]
  | ok job =>
    rw [hget] at hfind
    obtain ⟨-, rfl, -⟩ := JobRows.get_eq_ok hget
    have hdelete : api.deleteRetained (s.jobAudioKeys.lookup job.jobId) (forget job.jobId s)
        = (.ok (), forgotten job.jobId s) := by
      unfold deleteRetained forgotten
      cases s.jobAudioKeys.lookup job.jobId with
      | none => rfl
      | some object =>
        dsimp only
        rw [hmemory.keeps.deleteObject]
        rfl
    rw [bind_of_ok hfind, read_bind, modify_bind, bind_of_ok hdelete]

/-- The row of a job after it was cancelled. -/
def cancelRow (tenantId jobId : String) (row : JobRecord) : JobRecord :=
  if row.jobId = jobId ∧ row.tenantId = tenantId then { row with state := .cancelled } else row

theorem cancelRow_fields (tenantId jobId : String) (row : JobRecord) :
    (cancelRow tenantId jobId row).jobId = row.jobId
      ∧ (cancelRow tenantId jobId row).tenantId = row.tenantId := by
  unfold cancelRow
  split <;> exact ⟨rfl, rfl⟩

/-- What cancelling a job does. -/
theorem cancelUnlessTerminal_eq (tenantId : String) (job : JobRecord) (s : JobServer R) :
    cancelUnlessTerminal tenantId job s
      = if job.isTerminal then (.ok job, s)
        else match JobRows.get s.jobs tenantId job.jobId >>= fun found =>
            found.transition .cancelled with
          | .error e => (.error e, s)
          | .ok job' =>
            (.ok job', { s with jobs := s.jobs.map (cancelRow tenantId job.jobId) }) := by
  unfold cancelUnlessTerminal
  split
  · rfl
  · unfold zoom JobRows.updateState
    cases JobRows.get s.jobs tenantId job.jobId with
    | error e => rfl
    | ok found =>
      dsimp only [bind, Except.bind]
      cases found.transition .cancelled <;> rfl

/-- **A job of the tenant is cancelled in both**, or in none. -/
theorem agree_cancelUnlessTerminal (job : JobRecord) :
    Agree (SeenServer B) (fun _ => True) (cancelUnlessTerminal B job)
      (cancelUnlessTerminal (R := R) B job) := by
  intro s t h
  have hs := cancelUnlessTerminal_eq B job s
  have ht := cancelUnlessTerminal_eq B job t
  rw [h.get] at ht
  split at hs
  · next hover =>
    rw [if_pos hover] at ht
    exact (agree_pure trivial s t h).congr hs ht
  · next hover =>
    rw [if_neg hover] at ht
    cases hcancel : JobRows.get s.jobs B job.jobId >>= fun found => found.transition .cancelled with
    | error e =>
      simp only [hcancel] at hs ht
      exact (agree_throw e s t h).congr hs ht
    | ok job' =>
      simp only [hcancel] at hs ht
      refine AgreeAt.congr (agree_pure trivial _ _ ?_) hs ht
      exact Seen.map_jobs h (fun row _ => ⟨(cancelRow_fields B job.jobId row).1,
        by rw [(cancelRow_fields B job.jobId row).2]⟩)

/-- What is kept of the tenant's recordings when others are taken out as well. -/
theorem filter_suffix_filter {α : Type} {xs ys : List α} {p : α → Bool} (h : xs.filter p <:+ ys)
    (q : α → Bool) : (xs.filter q).filter p <:+ ys.filter q := by
  have hboth := h.filter q
  rwa [List.filter_filter, funext (fun a => Bool.and_comm (q a) (p a)),
    ← List.filter_filter] at hboth

theorem seen_forgotten (h : SeenServer B s t) (jobId : String) :
    SeenServer B (forgotten jobId s) (forgotten jobId t) :=
  { h with
    results := eqOn_update h.results jobId none
    jobAudioKeys := filter_suffix_filter h.jobAudioKeys _ }

/-- **Deleting a job.** -/
theorem agreeAt_deleteJob (hmemory : api.InMemory) (h : SeenServer B s t) :
    AgreeAt (SeenServer B) (fun _ => True) (api.deleteJob B jobId) (api.deleteJob B jobId) s t := by
  have hs := deleteJob_eq (s := s) hmemory B jobId
  have ht := deleteJob_eq (s := t) hmemory B jobId
  rw [h.get] at ht
  cases hget : JobRows.get s.jobs B jobId with
  | error e =>
    simp only [hget] at hs ht
    exact (agree_throw e s t h).congr hs ht
  | ok job =>
    simp only [hget] at hs ht
    refine AgreeAt.congr (agree_bind (agree_cancelUnlessTerminal job)
      (fun _ _ => agree_pure trivial) _ _ (seen_forgotten h jobId)) hs ht

/-- **What is left after a job was deleted.** -/
theorem deleteJob_snd (hmemory : api.InMemory) (tenantId jobId : String) (s : JobServer R) :
    (api.deleteJob tenantId jobId s).2 = s
      ∨ (∃ row ∈ s.jobs, IsJob jobId tenantId row)
        ∧ ∃ write : JobRecord → JobRecord,
          (∀ row, (write row).jobId = row.jobId ∧ (write row).tenantId = row.tenantId)
          ∧ (∀ row, row.jobId ≠ jobId → write row = row)
          ∧ (api.deleteJob tenantId jobId s).2
            = { forgotten jobId s with jobs := s.jobs.map write } := by
  rw [deleteJob_eq hmemory]
  cases hget : JobRows.get s.jobs tenantId jobId with
  | error e => exact Or.inl rfl
  | ok job =>
    obtain ⟨hmem, rfl, htenant⟩ := JobRows.get_eq_ok hget
    refine Or.inr ⟨⟨job, hmem, rfl, htenant⟩, ?_⟩
    dsimp only
    rw [bind_pure_snd, cancelUnlessTerminal_eq]
    have hnothing : ∃ write : JobRecord → JobRecord,
        (∀ row, (write row).jobId = row.jobId ∧ (write row).tenantId = row.tenantId)
        ∧ (∀ row, row.jobId ≠ job.jobId → write row = row)
        ∧ forgotten job.jobId s = { forgotten job.jobId s with jobs := s.jobs.map write } :=
      ⟨id, fun _ => ⟨rfl, rfl⟩, fun _ _ => rfl, by rw [List.map_id]; rfl⟩
    split
    · exact hnothing
    · split
      · exact hnothing
      · exact ⟨cancelRow tenantId job.jobId, cancelRow_fields tenantId job.jobId,
          fun row hid => if_neg (fun hrow => hid hrow.1), rfl⟩

/-- **No other tenant sees that a job was deleted.** -/
theorem seen_deleteJob_of_ne (hmemory : api.InMemory) (h : SeenServer B s t)
    (hs : Requested api requests s.toAppState) (hids : (requests.map JobRequest.jobId).Nodup)
    {A : String} (hne : A ≠ B) : SeenServer B (api.deleteJob A jobId s).2 t := by
  rcases deleteJob_snd hmemory A jobId s with hsame | ⟨⟨row, hrow, hid, htenant⟩, write, hfields,
    hwrite, hdeleted⟩
  · rw [hsame]
    exact h
  · rw [hdeleted]
    have hown : ∀ row' ∈ s.jobs, row'.jobId = jobId → row'.tenantId = A := fun row' hrow' hid' =>
      (hs.own hids hrow row' hrow' (hid'.trans hid.symm)).trans htenant
    have honly : OnlyJob jobId A s.toAppState
        { (forgotten jobId s).toAppState with jobs := s.jobs.map write } :=
      { jobs := OnlyRows.of_map hwrite (fun row hid =>
          ⟨(hfields row).1.trans hid, Or.inl (hfields row).2⟩)
        results := fun j hj => Function.update_of_ne hj _ _
        jobScenarios := fun _ _ => rfl
        jobLanguages := fun _ _ => rfl
        objects := fun o _ => by
          unfold forgotten
          cases s.jobAudioKeys.lookup jobId with
          | none => exact Or.inl rfl
          | some object =>
            by_cases ho : o = object
            · exact Or.inr (ho ▸ Function.update_self ..)
            · exact Or.inl (Function.update_of_ne ho _ _)
        jobAudioKeys := fun entry hentry _ => List.mem_of_mem_filter hentry
        jobAudioPreviews := fun entry hentry _ => List.mem_of_mem_filter hentry }
    have hkeys : (s.jobAudioKeys.filter (·.1 ≠ jobId)).filter (fun entry => entry.2.1 = B)
        = s.jobAudioKeys.filter (fun entry => entry.2.1 = B) := by
      rw [List.filter_filter]
      refine List.filter_congr (fun entry hentry => ?_)
      by_cases hB : entry.2.1 = B
      · have hother : entry.1 ≠ jobId := fun heq => hne (htenant.symm.trans
          ((hs.entry_tenant hids hrow hentry (heq.trans hid.symm)).symm.trans hB))
        simp [hB, hother]
      · simp [hB]
    exact Seen.of_onlyJob h hne honly hown ⟨row, hrow, hid⟩ (hkeys ▸ List.suffix_refl _)

theorem requested_deleteJob (hmemory : api.InMemory) (h : Requested api requests s.toAppState)
    (tenantId jobId : String) :
    Requested api requests (api.deleteJob tenantId jobId s).2.toAppState := by
  have hretained := retained_deleteJob hmemory.keeps h.retained tenantId jobId
  rcases deleteJob_snd hmemory tenantId jobId s with hsame | ⟨-, write, hfields, -, hdeleted⟩
  · rw [hsame]
    exact h
  · rw [hdeleted] at hretained ⊢
    refine ⟨hretained, fun row hrow => ?_, fun p hp => h.previews p (List.mem_of_mem_filter hp)⟩
    obtain ⟨old, hmem, rfl⟩ := List.mem_map.mp hrow
    obtain ⟨r, hr, hid, htenant⟩ := h.rows old hmem
    exact ⟨r, hr, hid.trans (hfields old).1.symm, htenant.trans (hfields old).2.symm⟩

/-! ## Asking -/

/-- Asking for a job leaves everything as it is. -/
theorem getJob_snd (tenantId jobId : String) (s : JobServer R) :
    (api.getJob tenantId jobId s).2 = s :=
  findJob_bind (I := fun t => t = s) rfl (fun _ => rfl)

theorem getJobResult_snd (tenantId jobId : String) (s : JobServer R) :
    (api.getJobResult tenantId jobId s).2 = s :=
  findJob_bind (I := fun t => t = s) rfl (fun _ => rfl)

end JobApi

/-! ## Requests -/

/-- **A request about jobs**, with the ids that would be drawn. -/
inductive JobsRequest
  | create (idempotencyKey : Option String) (payload : String → JsonValue)
      (newJobId newTaskId : String)
  | get (jobId : String)
  | result (jobId : String)
  | audio (jobId : String) (preview : Bool)
  | delete (jobId : String)

/-- What it is answered. -/
inductive JobsAnswer (R : Type) [Field R] [LinearOrder R]
  | job (view : JobView)
  | result (view : JobResultView R)
  | audio (response : AudioResponse)
  | deleted (view : DeletedView)

/-- The job it creates, if it creates one. -/
def JobsRequest.jobRequest (tenantId : String) : JobsRequest → Option JobRequest
  | .create idempotencyKey payload newJobId newTaskId =>
    some { idempotencyKey, tenantId, payload, newJobId, newTaskId }
  | _ => none

/-- The job is the tenant's. -/
theorem tenantId_of_mem_jobRequest {request : JobsRequest} {A : String} :
    ∀ r ∈ (request.jobRequest A).toList, r.tenantId = A := by
  intro r hr
  cases request with
  | create idempotencyKey payload newJobId newTaskId => rw [List.mem_singleton.mp hr]
  | _ => exact absurd hr List.not_mem_nil

namespace JobApi

/-- Handling a request. -/
def handle (api : JobApi R) (tenantId : String) :
    JobsRequest → Method PyError (JobServer R) (JobsAnswer R)
  | .create idempotencyKey payload newJobId newTaskId =>
    return .job (← onApp (createJob api.toApiServices
      { idempotencyKey, tenantId, payload, newJobId, newTaskId }))
  | .get jobId => return .job (← api.getJob tenantId jobId)
  | .result jobId => return .result (← api.getJobResult tenantId jobId)
  | .audio jobId preview => return .audio (← api.getJobAudio tenantId jobId preview)
  | .delete jobId => return .deleted (← api.deleteJob tenantId jobId)

variable {api : JobApi R} {B : String} {s t : JobServer R} {requests : List JobRequest}

/-- The id of a request that comes last is new. -/
theorem fresh_of_nodup {request : JobRequest}
    (hids : ((requests ++ [request]).map JobRequest.jobId).Nodup) :
    (requests.map JobRequest.jobId).Nodup ∧ ∀ r ∈ requests, r.jobId ≠ request.jobId := by
  rw [List.map_append, List.nodup_append] at hids
  exact ⟨hids.1, fun r hr => hids.2.2 _ (List.mem_map_of_mem hr) _ (List.mem_singleton.mpr rfl)⟩

/-- **All that is known after a request was requested.** -/
theorem requested_handle (hmemory : api.InMemory) (h : Requested api requests s.toAppState)
    (tenantId : String) (r : JobsRequest)
    (hids : ((requests ++ (r.jobRequest tenantId).toList).map JobRequest.jobId).Nodup) :
    Requested api (requests ++ (r.jobRequest tenantId).toList)
      (api.handle tenantId r s).2.toAppState := by
  have hsame : requests ++ (none : Option JobRequest).toList = requests := List.append_nil _
  cases r with
  | create idempotencyKey payload newJobId newTaskId =>
    exact (bind_pure_snd _ s).symm ▸ h.createJob hmemory (fresh_of_nodup hids).2
  | get jobId =>
    exact hsame.symm ▸ ((bind_pure_snd _ s).trans (getJob_snd tenantId jobId s)).symm ▸ h
  | result jobId =>
    exact hsame.symm ▸ ((bind_pure_snd _ s).trans (getJobResult_snd tenantId jobId s)).symm ▸ h
  | audio jobId preview =>
    exact hsame.symm ▸ (bind_pure_snd _ s).symm ▸ requested_getJobAudio h tenantId preview
  | delete jobId =>
    exact hsame.symm ▸ (bind_pure_snd _ s).symm ▸ requested_deleteJob hmemory h tenantId jobId

/-- What agrees is answered the same, and is still seen to be the same. -/
theorem upToRetention_of_agreeAt {α : Type} {m m' : Method PyError (JobServer R) α}
    (h : AgreeAt (SeenServer B) (fun _ => True) m m' s t) :
    UpToRetention (m s).1 (m' t).1 ∧ SeenServer B (m s).2 (m' t).2 :=
  ⟨.inl h.answer.symm, h.state⟩

/-- **A request of the tenant**: it is answered as if the tenant were alone, up to
what is retained, and what the tenant sees is still the same. -/
theorem seen_handle (hmemory : api.InMemory) (h : SeenServer B s t)
    (hs : Requested api requests s.toAppState)
    (ht : Requested api (requests.filter (fun r => r.tenantId = B)) t.toAppState)
    (r : JobsRequest)
    (hids : ((requests ++ (r.jobRequest B).toList).map JobRequest.jobId).Nodup) :
    UpToRetention (api.handle B r s).1 (api.handle B r t).1
      ∧ SeenServer B (api.handle B r s).2 (api.handle B r t).2 := by
  have hold : (requests.map JobRequest.jobId).Nodup :=
    hids.sublist ((List.sublist_append_left _ _).map _)
  have hown : OwnJobs s.jobs := fun row => hs.own hold
  cases r with
  | create idempotencyKey payload newJobId newTaskId =>
    have hcreate := agreeAt_createJob api.jobs_eq hmemory.keeps hmemory.taskQueue
      (show Seen (JobRequest.tenantId ⟨idempotencyKey, B, payload, newJobId, newTaskId⟩) _ _ from h)
      (hs.fresh (fresh_of_nodup hids).2).1 (fun row hrow htenant => htenant ▸ hown row hrow)
    have hserver : AgreeAt (SeenServer B) (fun _ => True) (onApp (createJob api.toApiServices _))
        (onApp (createJob api.toApiServices _)) s t := hcreate.zoom (fun _ _ huv => huv)
    exact upToRetention_of_agreeAt (hserver.bind (fun _ _ => agree_pure trivial))
  | get jobId =>
    exact upToRetention_of_agreeAt ((agreeAt_getJob h hown).bind (fun _ _ => agree_pure trivial))
  | result jobId =>
    exact upToRetention_of_agreeAt
      ((agreeAt_getJobResult hmemory h hown).bind (fun _ _ => agree_pure trivial))
  | audio jobId preview =>
    have hanswer : UpToRetention (api.getJobAudio B jobId preview s).1
        (api.getJobAudio B jobId preview t).1 :=
      getJobAudio_seen h hs ht hold (hold.sublist (List.filter_sublist.map _))
        (List.filter_subset_self _) preview
    unfold handle
    rw [bind_pure_fst, bind_pure_fst, bind_pure_snd, bind_pure_snd]
    exact ⟨hanswer.map _, seen_getJobAudio_alone (seen_getJobAudio h B preview) B preview⟩
  | delete jobId =>
    exact upToRetention_of_agreeAt
      ((agreeAt_deleteJob hmemory h).bind (fun _ _ => agree_pure trivial))

/-- **A request of another tenant** is not seen. -/
theorem seen_handle_of_ne (hmemory : api.InMemory) (h : SeenServer B s t)
    (hs : Requested api requests s.toAppState) {A : String} (hne : A ≠ B) (r : JobsRequest)
    (hids : ((requests ++ (r.jobRequest A).toList).map JobRequest.jobId).Nodup) :
    SeenServer B (api.handle A r s).2 t := by
  have hold : (requests.map JobRequest.jobId).Nodup :=
    hids.sublist ((List.sublist_append_left _ _).map _)
  cases r with
  | create idempotencyKey payload newJobId newTaskId =>
    have hfresh := hs.fresh (fresh_of_nodup hids).2
    exact (bind_pure_snd _ s).symm ▸ Seen.createJob_of_ne api.jobs_eq hmemory.keeps
      hmemory.taskQueue h hne hfresh.1 hfresh.2
  | get jobId => exact ((bind_pure_snd _ s).trans (getJob_snd A jobId s)).symm ▸ h
  | result jobId => exact ((bind_pure_snd _ s).trans (getJobResult_snd A jobId s)).symm ▸ h
  | audio jobId preview => exact (bind_pure_snd _ s).symm ▸ seen_getJobAudio h A preview
  | delete jobId => exact (bind_pure_snd _ s).symm ▸ seen_deleteJob_of_ne hmemory h hs hold hne

end JobApi

end Sastt
