import Sastt.Api.Sessions
import Sastt.Api.TenantRequests
import Sastt.Api.VoiceIdentities
import Sastt.Lib.Noninterference

/-!
# Tenants of the API

All tenants of an API share its state: the jobs with their results and
recordings, the voices that were enrolled, and the sessions. What a tenant is
answered is not to contain anything of another's, whichever ids it gives. The
way to say so is to leave the others out: the tenant has to be answered as if
its own requests had been the only ones (`AnsweredAlone`). One thing may be
otherwise. The recordings of all tenants share the room there is, so that one
may no longer be retained.

Jobs and voices are looked up with the tenant of the request, and give nothing
away. A session is looked up by its id alone. So a tenant that has the id of
another's session reads its events and its transcript (`session_overheard`), and
as long as nobody uses a session of another tenant, all tenants are kept apart
(`answers_isolated`).

Ids of jobs and of sessions are drawn at random, and it is assumed that none is
drawn twice.
-/

namespace Sastt

open Method

section

variable (R V : Type) [Field R] [LinearOrder R] [IsStrictOrderedRing R] [AddCommGroup V]
  [Module R V] [EmbeddingSpace R V]

/-- **An API.** What the pipeline makes of a job depends on whom the registry
recognises, which it asks about the tenant of the job. -/
structure ApiServer extends JobApi R where
  runPipelineWith : (SpeakerEmbedding R V → Except PyError (VoiceIdDecision R)) →
    Option String → Audio → String → Except PyError (OfflineResult R)
  voices : VoiceServices R V
  sessions : SessionServices R

/-- **The state of the API.** -/
structure ApiState where
  server : JobServer R := { jobs := [] }
  sessions : Sessions R V := fun _ => none
  voices : VoiceState R V := {}

/-- **What may be requested.** -/
inductive ApiRequest
  | jobs (request : JobsRequest)
  | sessions (request : SessionsRequest R V)
  | voices (request : VoicesRequest)

/-- A request of a tenant. -/
structure TenantRequest where
  tenantId : String
  request : ApiRequest R V

end

/-- **What is answered.** -/
inductive ApiAnswer (R : Type) [Field R] [LinearOrder R] [IsStrictOrderedRing R]
  | jobs (answer : JobsAnswer R)
  | sessions (answer : SessionsAnswer R)
  | voices (answer : VoicesAnswer)

variable {R V : Type} [Field R] [LinearOrder R] [IsStrictOrderedRing R] [AddCommGroup V]
  [Module R V] [EmbeddingSpace R V]

namespace ApiServer

variable (api : ApiServer R V)

/-- What the jobs of a tenant are run with. -/
def jobApiOf (tenantId : String) (entries : RegistryEntries R V) : JobApi R :=
  { api.toJobApi with
    runPipeline := api.runPipelineWith
      (fun e => api.voices.registry.identify tenantId e entries) }

/-- **Handling a request.** -/
def handle (r : TenantRequest R V) : Method PyError (ApiState R V) (ApiAnswer R) :=
  match r.request with
  | .jobs request => do
    let s ← .read
    return .jobs (← ((api.jobApiOf r.tenantId s.voices.entries).handle r.tenantId request).zoom
      ApiState.server (fun s server => { s with server }))
  | .sessions request =>
    return .sessions (← (api.sessions.handle api.toApiServices r.tenantId request).zoom
      ApiState.sessions (fun s sessions => { s with sessions }))
  | .voices request =>
    return .voices (← (api.voices.handle api.toApiServices r.tenantId request).zoom
      ApiState.voices (fun s voices => { s with voices }))

/-- The state after a request. -/
def step (s : ApiState R V) (r : TenantRequest R V) : ApiState R V := (api.handle r s).2

/-- What it is answered. -/
def answer (s : ApiState R V) (r : TenantRequest R V) : Except PyError (ApiAnswer R) :=
  (api.handle r s).1

variable {api} {s : ApiState R V} {A : String}

theorem step_jobs (request : JobsRequest) :
    api.step s ⟨A, .jobs request⟩ = { s with
      server := ((api.jobApiOf A s.voices.entries).handle A request s.server).2 } :=
  bind_pure_snd ..

theorem step_sessions (request : SessionsRequest R V) :
    api.step s ⟨A, .sessions request⟩ = { s with
      sessions := (api.sessions.handle api.toApiServices A request s.sessions).2 } :=
  bind_pure_snd ..

theorem step_voices (request : VoicesRequest) :
    api.step s ⟨A, .voices request⟩ = { s with
      voices := (api.voices.handle api.toApiServices A request s.voices).2 } :=
  bind_pure_snd ..

theorem answer_jobs (request : JobsRequest) :
    api.answer s ⟨A, .jobs request⟩
      = ((api.jobApiOf A s.voices.entries).handle A request s.server).1.map .jobs :=
  bind_pure_fst ..

theorem answer_sessions (request : SessionsRequest R V) :
    api.answer s ⟨A, .sessions request⟩
      = (api.sessions.handle api.toApiServices A request s.sessions).1.map .sessions :=
  bind_pure_fst ..

theorem answer_voices (request : VoicesRequest) :
    api.answer s ⟨A, .voices request⟩
      = (api.voices.handle api.toApiServices A request s.voices).1.map .voices :=
  bind_pure_fst ..

end ApiServer

/-! ## What is drawn, and whose session is used -/

/-- The job it creates, if it creates one. -/
def TenantRequest.jobRequest (r : TenantRequest R V) : Option JobRequest :=
  match r.request with
  | .jobs request => request.jobRequest r.tenantId
  | _ => none

/-- The id of the session it creates, if it creates one. -/
def TenantRequest.newSession (r : TenantRequest R V) : Option String :=
  match r.request with
  | .sessions request => request.newId
  | _ => none

/-- The id of the session it uses, if it uses one. -/
def TenantRequest.usedSession (r : TenantRequest R V) : Option String :=
  match r.request with
  | .sessions request => request.usedId
  | _ => none

/-- The requests for jobs among some requests. -/
def requestedJobs (requests : List (TenantRequest R V)) : List JobRequest :=
  requests.filterMap TenantRequest.jobRequest

/-- The ids drawn for sessions. -/
def drawnSessions (requests : List (TenantRequest R V)) : List String :=
  requests.filterMap TenantRequest.newSession

/-- **No id is drawn twice.** -/
structure DrawnOnce (requests : List (TenantRequest R V)) : Prop where
  jobs : ((requestedJobs requests).map JobRequest.jobId).Nodup
  sessions : (drawnSessions requests).Nodup

/-- **No session of another tenant is used.** -/
def UsesOwnSession (s : ApiState R V) (r : TenantRequest R V) : Prop :=
  ∀ id ∈ r.usedSession, OwnSession r.tenantId id s.sessions

instance {s : ApiState R V} {r : TenantRequest R V} : Decidable (UsesOwnSession s r) :=
  inferInstanceAs (Decidable (∀ id ∈ r.usedSession, OwnSession r.tenantId id s.sessions))

/-- **The tenant is answered as if it were alone**: what its requests are answered
among all the requests is what they are answered by themselves. -/
def AnsweredAlone (api : ApiServer R V) (B : String) (requests : List (TenantRequest R V)) : Prop :=
  List.Forall₂ (fun a b => a.1 = b.1 ∧ UpToRetention a.2 b.2)
    ((trace api.step api.answer {} requests).filter (fun a => a.1.tenantId = B))
    (trace api.step api.answer {} (requests.filter (fun r => r.tenantId = B)))

section Drawn

variable {past : List (TenantRequest R V)} {r : TenantRequest R V}

theorem requestedJobs_append :
    requestedJobs (past ++ [r]) = requestedJobs past ++ r.jobRequest.toList := by
  unfold requestedJobs
  rw [List.filterMap_append]
  cases h : r.jobRequest <;> simp [h]

theorem drawnSessions_append :
    drawnSessions (past ++ [r]) = drawnSessions past ++ r.newSession.toList := by
  unfold drawnSessions
  rw [List.filterMap_append]
  cases h : r.newSession <;> simp [h]

theorem DrawnOnce.of_prefix {requests : List (TenantRequest R V)} (h : DrawnOnce requests)
    (hle : past <+: requests) : DrawnOnce past where
  jobs := h.jobs.sublist ((hle.sublist.filterMap _).map _)
  sessions := h.sessions.sublist (hle.sublist.filterMap _)

/-- The job is the tenant's. -/
theorem TenantRequest.tenantId_of_mem {job : JobRequest} (h : job ∈ r.jobRequest.toList) :
    job.tenantId = r.tenantId := by
  obtain ⟨tenantId, request⟩ := r
  cases request with
  | jobs request => exact tenantId_of_mem_jobRequest job h
  | _ => exact absurd h List.not_mem_nil

end Drawn

/-! ## What a tenant sees -/

/-- **What the tenant sees of two states is the same.** -/
structure SeenApi (B : String) (s t : ApiState R V) : Prop where
  server : SeenServer B s.server t.server
  sessions : SeenSessions B s.sessions t.sessions
  voices : SeenVoices B s.voices t.voices

section Steps

variable {api : ApiServer R V} {past : List (TenantRequest R V)} {requests : List JobRequest}
  {s t : ApiState R V} {B : String}

theorem inMemory_jobApiOf (h : api.toJobApi.InMemory) (tenantId : String)
    (entries : RegistryEntries R V) : (api.jobApiOf tenantId entries).InMemory :=
  ⟨⟨h.keeps.inMemoryObjects, h.keeps.putObject, h.keeps.deleteObject⟩, h.taskQueue, h.durable⟩

/-- The registry recognises the tenant's voices in both. -/
theorem jobApiOf_eq (h : SeenVoices B s.voices t.voices) :
    api.jobApiOf B t.voices.entries = api.jobApiOf B s.voices.entries := by
  have hidentify : ∀ e, api.voices.registry.identify B e t.voices.entries
      = api.voices.registry.identify B e s.voices.entries := by
    intro e
    unfold FakeVoiceRegistry.identify
    rw [h.entries]
  unfold ApiServer.jobApiOf
  rw [funext hidentify]

/-- **All that is known of jobs was requested**, whomever the registry
recognises. -/
theorem requested_step (hmemory : api.toJobApi.InMemory)
    (h : Requested api.toJobApi requests s.server.toAppState) (r : TenantRequest R V)
    (hids : ((requests ++ r.jobRequest.toList).map JobRequest.jobId).Nodup) :
    Requested api.toJobApi (requests ++ r.jobRequest.toList)
      (api.step s r).server.toAppState := by
  obtain ⟨A, request⟩ := r
  cases request with
  | jobs request =>
    rw [ApiServer.step_jobs]
    have hsame : Requested (api.jobApiOf A s.voices.entries) requests s.server.toAppState :=
      h.of_same rfl rfl
    have hnext := JobApi.requested_handle (inMemory_jobApiOf hmemory A _) hsame A request hids
    exact hnext.of_same rfl rfl
  | sessions request =>
    rw [ApiServer.step_sessions]
    exact (List.append_nil requests).symm ▸ h
  | voices request =>
    rw [ApiServer.step_voices]
    exact (List.append_nil requests).symm ▸ h

/-- A session that is known has an id that was drawn. -/
theorem drawn_step (h : ∀ id, s.sessions id ≠ none → id ∈ drawnSessions past)
    (r : TenantRequest R V) (id : String) (hknown : (api.step s r).sessions id ≠ none) :
    id ∈ drawnSessions (past ++ [r]) := by
  rw [drawnSessions_append]
  obtain ⟨A, request⟩ := r
  cases request with
  | jobs request =>
    rw [ApiServer.step_jobs] at hknown
    exact List.mem_append_left _ (h id hknown)
  | sessions request =>
    rw [ApiServer.step_sessions] at hknown
    rcases (handleSessions_step request A s.sessions).was_known hknown with hold | hnew
    · exact List.mem_append_left _ (h id hold)
    · exact List.mem_append_right _ (Option.mem_toList.mpr hnew)
  | voices request =>
    rw [ApiServer.step_voices] at hknown
    exact List.mem_append_left _ (h id hknown)

/-- **A request of the tenant is answered as if the tenant were alone**, and what
it sees stays the same. -/
theorem SeenApi.step (h : SeenApi B s t) (hmemory : api.toJobApi.InMemory)
    (hs : Requested api.toJobApi requests s.server.toAppState)
    (ht : Requested api.toJobApi (requests.filter (fun r => r.tenantId = B)) t.server.toAppState)
    {r : TenantRequest R V} (hB : r.tenantId = B) (hown : UsesOwnSession s r)
    (hids : ((requests ++ r.jobRequest.toList).map JobRequest.jobId).Nodup) :
    UpToRetention (api.answer s r) (api.answer t r)
      ∧ SeenApi B (api.step s r) (api.step t r) := by
  obtain ⟨tenantId, request⟩ := r
  obtain rfl : tenantId = B := hB
  cases request with
  | jobs request =>
    rw [ApiServer.answer_jobs, ApiServer.answer_jobs, ApiServer.step_jobs, ApiServer.step_jobs,
      jobApiOf_eq h.voices]
    have hnext := JobApi.seen_handle (inMemory_jobApiOf hmemory tenantId s.voices.entries) h.server
      (hs.of_same rfl rfl) (ht.of_same rfl rfl) request hids
    exact ⟨hnext.1.map _, { h with server := hnext.2 }⟩
  | sessions request =>
    rw [ApiServer.answer_sessions, ApiServer.answer_sessions, ApiServer.step_sessions,
      ApiServer.step_sessions]
    have hnext : AgreeAt _ _ (api.sessions.handle api.toApiServices tenantId request) _ _ _ :=
      agreeAt_handleSessions h.sessions hown
    exact ⟨.inl (congrArg _ hnext.answer.symm), { h with sessions := hnext.state }⟩
  | voices request =>
    rw [ApiServer.answer_voices, ApiServer.answer_voices, ApiServer.step_voices,
      ApiServer.step_voices]
    have hnext : AgreeAt _ _ (api.voices.handle api.toApiServices tenantId request) _ _ _ :=
      agree_handleVoices request _ _ h.voices
    exact ⟨.inl (congrArg _ hnext.answer.symm), { h with voices := hnext.state }⟩

/-- **A request of another tenant is not seen.** -/
theorem SeenApi.step_of_ne (h : SeenApi B s t) (hmemory : api.toJobApi.InMemory)
    (hs : Requested api.toJobApi requests s.server.toAppState)
    {r : TenantRequest R V} (hne : r.tenantId ≠ B) (hown : UsesOwnSession s r)
    (hids : ((requests ++ r.jobRequest.toList).map JobRequest.jobId).Nodup)
    (hfresh : ∀ id ∈ r.newSession, s.sessions id = none) : SeenApi B (api.step s r) t := by
  obtain ⟨A, request⟩ := r
  cases request with
  | jobs request =>
    rw [ApiServer.step_jobs]
    exact { h with
      server := JobApi.seen_handle_of_ne (inMemory_jobApiOf hmemory A _) h.server
        (hs.of_same rfl rfl) hne request hids }
  | sessions request =>
    rw [ApiServer.step_sessions]
    exact { h with
      sessions := h.sessions.step_of_ne (handleSessions_step request A s.sessions) hne hown hfresh }
  | voices request =>
    rw [ApiServer.step_voices]
    exact { h with
      voices := h.voices.of_keeps (keeps_handleVoices hne request s.voices) }

end Steps

/-! ## Apart from the others -/

/-- **The run of all tenants and that of one of them**: what it sees is the same,
and all that is known comes from the requests that were made. -/
structure Isolated (api : ApiServer R V) (B : String) (past : List (TenantRequest R V))
    (s t : ApiState R V) : Prop extends SeenApi B s t where
  requested : Requested api.toJobApi (requestedJobs past) s.server.toAppState
  alone : Requested api.toJobApi ((requestedJobs past).filter (fun r => r.tenantId = B))
    t.server.toAppState
  drawn : ∀ id, s.sessions id ≠ none → id ∈ drawnSessions past

/-- What a request has to meet, after those that were made. -/
def Apart (past : List (TenantRequest R V)) (s : ApiState R V) (r : TenantRequest R V) : Prop :=
  UsesOwnSession s r ∧ DrawnOnce (past ++ [r])

theorem Isolated.empty (api : ApiServer R V) (B : String) : Isolated api B [] {} {} where
  server := ⟨rfl, fun _ _ => rfl, fun _ _ => rfl, fun _ _ => rfl, List.suffix_refl _⟩
  sessions := fun _ => rfl
  voices := ⟨rfl, rfl⟩
  requested := .empty
  alone := .empty
  drawn := fun _ h => absurd rfl h

section Unwinding

variable {api : ApiServer R V} {B : String} {past : List (TenantRequest R V)} {s t : ApiState R V}
  {r : TenantRequest R V}

/-- The jobs that were requested have different ids. -/
theorem Apart.jobs (h : Apart past s r) :
    ((requestedJobs past ++ r.jobRequest.toList).map JobRequest.jobId).Nodup := by
  rw [← requestedJobs_append]
  exact h.2.jobs

/-- A session that is created has a new id. -/
theorem Apart.fresh (hapart : Apart past s r) (h : Isolated api B past s t) :
    ∀ id ∈ r.newSession, s.sessions id = none := by
  intro id hid
  by_contra hknown
  have hdrawn := hapart.2.sessions
  rw [drawnSessions_append, List.nodup_append] at hdrawn
  exact hdrawn.2.2 id (h.drawn id hknown) id (Option.mem_toList.mpr hid) rfl

/-- **A request of the tenant.** -/
theorem Isolated.own (h : Isolated api B past s t) (hmemory : api.toJobApi.InMemory)
    (hapart : Apart past s r) (hB : r.tenantId = B) :
    UpToRetention (api.answer s r) (api.answer t r)
      ∧ Isolated api B (past ++ [r]) (api.step s r) (api.step t r) := by
  have hids := hapart.jobs
  obtain ⟨hanswer, hseen⟩ :=
    h.toSeenApi.step hmemory h.requested h.alone hB hapart.1 hids
  have halone := requested_step hmemory h.alone r
    (hids.sublist ((List.filter_sublist.append_right _).map _))
  have hmine : r.jobRequest.toList.filter (fun job => job.tenantId = B) = r.jobRequest.toList :=
    List.filter_eq_self.mpr (fun job hjob =>
      decide_eq_true ((TenantRequest.tenantId_of_mem hjob).trans hB))
  refine ⟨hanswer, { hseen with requested := ?_, alone := ?_, drawn := drawn_step h.drawn r }⟩
  · rw [requestedJobs_append]
    exact requested_step hmemory h.requested r hids
  · rwa [requestedJobs_append, List.filter_append, hmine]

/-- **A request of another tenant.** -/
theorem Isolated.other (h : Isolated api B past s t) (hmemory : api.toJobApi.InMemory)
    (hapart : Apart past s r) (hne : r.tenantId ≠ B) :
    Isolated api B (past ++ [r]) (api.step s r) t := by
  have hids := hapart.jobs
  have hseen := h.toSeenApi.step_of_ne hmemory h.requested hne hapart.1 hids (hapart.fresh h)
  have hothers : r.jobRequest.toList.filter (fun job => job.tenantId = B) = [] :=
    List.filter_eq_nil_iff.mpr (fun job hjob => by
      simpa [TenantRequest.tenantId_of_mem hjob] using hne)
  refine { hseen with requested := ?_, alone := ?_, drawn := drawn_step h.drawn r }
  · rw [requestedJobs_append]
    exact requested_step hmemory h.requested r hids
  · rw [requestedJobs_append, List.filter_append, hothers, List.append_nil]
    exact h.alone

/-- **Requests unwind.** -/
theorem unwinding_api (hmemory : api.toJobApi.InMemory) (B : String) :
    LaxUnwinding api.step api.answer (fun r => r.tenantId = B) UpToRetention Apart
      (Isolated api B) where
  keeps _ _ _ _ h hapart hB := (h.own hmemory hapart hB).2
  answers _ _ _ _ h hapart hB := (h.own hmemory hapart hB).1
  hides _ _ _ _ h hapart hne := h.other hmemory hapart hne

end Unwinding

/-- **As long as nobody uses a session of another tenant, every tenant is answered
as if it were alone.** -/
theorem answers_isolated {api : ApiServer R V} (hmemory : api.toJobApi.InMemory) (B : String)
    {requests : List (TenantRequest R V)} (hdrawn : DrawnOnce requests)
    (hown : EachStep api.step UsesOwnSession {} requests) : AnsweredAlone api B requests :=
  (unwinding_api hmemory B).forall₂_trace [] (.empty api B)
    (fun pre r hpre => ⟨hown pre r hpre, hdrawn.of_prefix hpre⟩)

section Example

/-- An API for small sessions. -/
def smallApi : ApiServer ℚ ℚ where
  toJobApi := { listening with loadScenario := fun _ => .ok [] }
  runPipelineWith _ := listening.runPipeline
  voices := {
    registry := { modelVersion := "campplus" }
    lower := id
    scenarioSpeakers _ := .ok []
    embedSpeaker _ _ := .error (.other "not called")
    embedAudio _ := .error (.other "not called") }
  sessions := {
    config := SpooledSession.shortRing.pipeline.config
    linearSumAssignment := SpooledSession.shortRing.pipeline.linearSumAssignment
    calibrator := SpooledSession.shortRing.calibrator
    modelVersions _ := {}
    embeddingModelVersion _ := "campplus"
    python := SessionSockets.threeTexts }

/-- A session is requested. -/
def newSession (tenantId newId : String) : TenantRequest ℚ ℚ :=
  ⟨tenantId, .sessions (.create (fun _ => .null) newId { ulid := toString, nowMs := id })⟩

/-- Two tenants that keep to themselves, although one asks for a job of the
other. -/
def apart : List (TenantRequest ℚ ℚ) :=
  [⟨"acme", .jobs (.create upload.idempotencyKey upload.payload "1" "1")⟩,
    newSession "acme" "1",
    ⟨"acme", .sessions (.connect "ses_1" 0)⟩,
    newSession "bolt" "2",
    ⟨"bolt", .sessions (.connect "ses_2" 1)⟩,
    ⟨"bolt", .jobs (.audio "job_1" false)⟩,
    ⟨"bolt", .voices .list⟩]

theorem apart_isolated : AnsweredAlone smallApi "bolt" apart :=
  answers_isolated ⟨⟨rfl, rfl, rfl⟩, rfl, rfl⟩ "bolt" ⟨by decide +kernel, by decide +kernel⟩
    (by decide +kernel)

/-- The events that are sent in an answer, by their ids. -/
def sentEvents : Except PyError (ApiAnswer ℚ) → List String
  | .ok (.sessions (.socket (.outcome outcome))) => outcome.frames.filterMap
      (fun frame => match frame with
        | .event event => some event.eventId
        | .failed _ => none)
  | _ => []

/-- One tenant starts a session, and another connects to it and asks for what
happened. -/
def eavesdropping : List (TenantRequest ℚ ℚ) :=
  [newSession "acme" "1",
    ⟨"acme", .sessions (.connect "ses_1" 0)⟩,
    ⟨"bolt", .sessions (.connect "ses_1" 1)⟩,
    ⟨"bolt", .sessions (.receive "ses_1" 1 (.text "\x7b\x22type\x22: \x22resume\x22\x7d")
      SpooledSession.deaf (fun _ => .error (.other "not called")))⟩]

/-- **What another tenant's session sent is sent again.** -/
theorem session_overheard :
    (trace smallApi.step smallApi.answer {} eavesdropping).map (fun a => sentEvents a.2)
        = [[], ["evt_0"], [], ["evt_0"]]
      ∧ ¬ AnsweredAlone smallApi "bolt" eavesdropping := by
  refine ⟨by decide +kernel, fun h => ?_⟩
  have hlast := (h.get (i := 1) (by decide +kernel) (by decide +kernel)).2
  rcases hlast with hsame | hgone
  · have hsent := congrArg sentEvents hsame
    revert hsent
    decide +kernel
  · have hsent := congrArg sentEvents hgone
    revert hsent
    decide +kernel

end Example

end Sastt
