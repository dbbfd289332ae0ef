import Mathlib.Data.List.Sort
import Sastt.Api.CreateJob
import Sastt.Domain.Rendering

/-!
# What is served of a job

`GET /v1/jobs/{id}`, its result and its audio, and `DELETE /v1/jobs/{id}`. The
result of a job is served from the memory of the process that ran it, if there
is one, and from the rows a worker saved otherwise. The audio is looked up under
a key that is remembered, or derived from the id of the job where it is not.

A job store is durable if it has a `load_result`. Its query orders the rows by
the collation of the database, and rows that are equal in what it orders by come
in any order (`QueryOrder`).
-/

namespace Sastt

/-- `NULLS FIRST`. -/
def nullsFirst : Option ℕ → Option ℕ → Bool
  | none, _ => true
  | some _, none => false
  | some m, some n => m ≤ n

/-- `ORDER BY start_ms, session_speaker_id, source_track`, for texts in an
order. -/
def queryLe {R : Type} (textLe : String → String → Bool) (a b : PublicSegment R) : Prop :=
  a.startMs < b.startMs ∨ a.startMs = b.startMs ∧
    (textLe b.sessionSpeakerId a.sessionSpeakerId = false
      ∨ textLe a.sessionSpeakerId b.sessionSpeakerId ∧ nullsFirst a.sourceTrack b.sourceTrack)

instance {R : Type} (textLe : String → String → Bool) : DecidableRel (queryLe (R := R) textLe) :=
  fun _ _ => inferInstanceAs (Decidable (_ ∨ _))

/-- **The order of the rows of a query.** -/
structure QueryOrder (R : Type) where
  textLe : String → String → Bool
  sort : List (PublicSegment R) → List (PublicSegment R)
  sort_perm : ∀ rows, (sort rows).Perm rows
  sort_sorted : ∀ rows, (sort rows).Pairwise (queryLe textLe)

theorem nullsFirst_total (a b : Option ℕ) : nullsFirst a b = true ∨ nullsFirst b a = true := by
  cases a with
  | none => exact Or.inl rfl
  | some m =>
    cases b with
    | none => exact Or.inr rfl
    | some n => exact (Nat.le_total m n).imp decide_eq_true decide_eq_true

theorem nullsFirst_trans {a b c : Option ℕ} (h : nullsFirst a b = true)
    (h' : nullsFirst b c = true) : nullsFirst a c = true := by
  cases a with
  | none => rfl
  | some m =>
    cases b with
    | none => cases h
    | some n =>
      cases c with
      | none => cases h'
      | some k => exact decide_eq_true ((of_decide_eq_true h).trans (of_decide_eq_true h'))

section

variable {R : Type} (textLe : String → String → Bool)
  (htotal : ∀ x y, textLe x y = true ∨ textLe y x = true)
  (htrans : ∀ x y z, textLe x y = true → textLe y z = true → textLe x z = true)

include htotal in
theorem queryLe_total (a b : PublicSegment R) : queryLe textLe a b ∨ queryLe textLe b a := by
  unfold queryLe
  have hspeaker := htotal a.sessionSpeakerId b.sessionSpeakerId
  have htrack := nullsFirst_total a.sourceTrack b.sourceTrack
  grind

include htotal htrans in
theorem queryLe_trans {a b c : PublicSegment R} (h : queryLe textLe a b) (h' : queryLe textLe b c) :
    queryLe textLe a c := by
  unfold queryLe at *
  have h1 := htrans a.sessionSpeakerId b.sessionSpeakerId c.sessionSpeakerId
  have h2 := htrans c.sessionSpeakerId a.sessionSpeakerId b.sessionSpeakerId
  have h3 := htrans b.sessionSpeakerId c.sessionSpeakerId a.sessionSpeakerId
  have h4 := htotal a.sessionSpeakerId b.sessionSpeakerId
  have h5 := htotal b.sessionSpeakerId c.sessionSpeakerId
  have h6 := htotal a.sessionSpeakerId c.sessionSpeakerId
  have ht := @nullsFirst_trans a.sourceTrack b.sourceTrack c.sourceTrack
  grind

/-- Rows in order, for texts in any order. -/
def QueryOrder.ofTexts : QueryOrder R where
  textLe := textLe
  sort rows := rows.insertionSort (queryLe textLe)
  sort_perm := List.perm_insertionSort _
  sort_sorted rows := by
    have : Std.Total (queryLe (R := R) textLe) := ⟨queryLe_total textLe htotal⟩
    have : IsTrans (PublicSegment R) (queryLe textLe) :=
      ⟨fun _ _ _ => queryLe_trans textLe htotal htrans⟩
    exact List.pairwise_insertionSort _ rows
end

/-- The order of a database whose collation is by code points. -/
def binaryOrder (R : Type) : QueryOrder R :=
  .ofTexts (fun x y => decide (x ≤ y))
    (fun x y => (String.le_total x y).imp decide_eq_true decide_eq_true)
    (fun _ _ _ hxy hyz => decide_eq_true
      (String.le_trans (of_decide_eq_true hxy) (of_decide_eq_true hyz)))

/-- What jobs are served with. -/
structure JobApi (R : Type) [Field R] [LinearOrder R] extends ApiServices (List JobRecord) R where
  /-- The job store has a `load_result`. -/
  durable : Bool
  jobs_eq : jobs = jobRows (!durable)
  queryOrder : QueryOrder R
  /-- `build_audio_preview`. -/
  buildAudioPreview : Audio → Option Audio

/-- **The state of the API and of its database**: the segments that are saved
for a tenant and a job. -/
structure JobServer (R : Type) [Field R] [LinearOrder R]
    extends AppState (List JobRecord) R where
  segments : String × String → List (PublicSegment R) := fun _ => []

/-- What `GET /v1/jobs/{id}/result` returns. The two fields that are optional
are missing in what is served from the database. -/
structure JobResultView (R : Type) where
  jobId : String
  engine : String
  schemaVersion : String
  state : String
  configVersion : Option String
  modelVersions : Option ModelVersions := none
  warnings : List String
  degradedMode : Bool
  estimatedSessionSpeakers : Option ℕ := none
  sessionSpeakers : ℕ
  segments : List (PublicSegment R)
  text : String

/-- A response with audio. -/
structure AudioResponse where
  content : Audio
  mediaType : String
  headers : List (String × String)
deriving DecidableEq

/-- What `DELETE /v1/jobs/{id}` returns. -/
structure DeletedView where
  jobId : String
  state : String
deriving DecidableEq, Repr

/-! ## Rendering what is served -/

/-- `count_session_speakers`. -/
def countSessionSpeakers {R : Type} (segments : List (PublicSegment R)) : ℕ :=
  ((segments.filter (fun s => s.sessionSpeakerId ≠ "" ∧ s.identityStatus ≠ "unknown")).map
    PublicSegment.sessionSpeakerId).dedup.length

/-- Milliseconds as seconds with three decimals. -/
def formatSeconds (ms : ℕ) : String := toString (ms / 1000) ++ "." ++ zeroPadded 3 (ms % 1000)

/-- The key `render_transcript_from_public_segments` sorts by. -/
def renderLe {R : Type} (a b : PublicSegment R) : Prop :=
  a.startMs < b.startMs ∨ a.startMs = b.startMs ∧ a.sessionSpeakerId ≤ b.sessionSpeakerId

instance {R : Type} : DecidableRel (renderLe (R := R)) := fun _ _ =>
  inferInstanceAs (Decidable (_ ∨ _))

/-- A line of `render_transcript_from_public_segments`. -/
def renderPublicSegment {R : Type} (s : PublicSegment R) : String :=
  formatSeconds s.startMs ++ "–" ++ formatSeconds s.endMs ++ " — " ++ s.speakerLabel ++ ": "
    ++ s.text

/-- `render_transcript_from_public_segments`. -/
def renderTranscriptFromPublicSegments {R : Type} (segments : List (PublicSegment R)) : String :=
  "\n".intercalate ((segments.insertionSort renderLe).map renderPublicSegment)

/-- `audio_media_type`. -/
def audioMediaType (payload : Audio) : String :=
  let signatures := [("RIFF", "audio/wav"), ("fLaC", "audio/flac"), ("OggS", "audio/ogg"),
    ("ID3", "audio/mpeg")]
  match signatures.find? (fun s => s.1.toUTF8.toList.isPrefixOf payload) with
  | some (_, mediaType) => mediaType
  | none =>
    if (payload.drop 4).take 4 = "ftyp".toUTF8.toList then "audio/mp4"
    else if payload.take 2 ∈ [[0xff, 0xfb], [0xff, 0xf3], [0xff, 0xf2], [0xff, 0xe3]] then
      "audio/mpeg"
    else "application/octet-stream"

/-- `AUDIO_PREVIEW_MEDIA_TYPE`. -/
def AUDIO_PREVIEW_MEDIA_TYPE : String := "audio/ogg"

/-! ## The handlers -/

namespace JobApi

variable {R : Type} [Field R] [LinearOrder R] (api : JobApi R)

/-- A method of the process, without its database. -/
def onApp {α : Type} (m : Method PyError (AppState (List JobRecord) R) α) :
    Method PyError (JobServer R) α :=
  m.zoom JobServer.toAppState (fun s app => { s with toAppState := app })

/-- `state.jobs.get`. -/
def findJob (tenantId jobId : String) : Method PyError (JobServer R) JobRecord := fun s =>
  (JobRows.get s.jobs tenantId jobId, s)

/-- `load_result`. -/
def loadResult (s : JobServer R) (tenantId jobId : String) : List (PublicSegment R) :=
  api.queryOrder.sort (s.segments (tenantId, jobId))

/-- `get_job`. -/
def getJob (tenantId jobId : String) : Method PyError (JobServer R) JobView := do
  let job ← findJob tenantId jobId
  return jobView api.toApiServices (← Method.read).toAppState job false

/-- The refusal of a result that is not there. -/
def notFinished {α : Type} (job : JobRecord) : Except PyError α :=
  .error (.http 409 ("job is " ++ job.state.value ++ ", not finished"))

/-- What `get_job_result` returns for a result in memory. -/
def memoryView (job : JobRecord) (result : OfflineResult R) : JobResultView R where
  jobId := job.jobId
  engine := api.engineName
  schemaVersion := "2.0"
  state := job.state.value
  configVersion := some result.configVersion
  modelVersions := some result.modelVersions
  warnings := result.warnings
  degradedMode := result.degraded
  estimatedSessionSpeakers := some result.estimatedSessionSpeakers
  sessionSpeakers := countSessionSpeakers (result.segments.map TranscriptSegment.toPublicDict)
  segments := result.segments.map TranscriptSegment.toPublicDict
  text := renderTranscript result.segments

/-- What it returns for saved segments. -/
def savedView (job : JobRecord) (segments : List (PublicSegment R)) : JobResultView R where
  jobId := job.jobId
  engine := api.engineName
  schemaVersion := "2.0"
  state := job.state.value
  configVersion := job.configVersion
  warnings := job.warnings
  degradedMode := job.degraded
  sessionSpeakers := countSessionSpeakers segments
  segments
  text := renderTranscriptFromPublicSegments segments

/-- **`get_job_result`.** -/
def getJobResult (tenantId jobId : String) : Method PyError (JobServer R) (JobResultView R) := do
  let job ← findJob tenantId jobId
  let s ← Method.read
  .ofExcept <| match s.results job.jobId with
    | some result => .ok (api.memoryView job result)
    | none =>
      if ¬ job.isTerminal then notFinished job
      else if ¬ api.durable then notFinished job
      else
        let segments := api.loadResult s tenantId job.jobId
        if segments = [] then notFinished job else .ok (api.savedView job segments)

/-- `state.objects.get`, as the handler reads what it raises. -/
def readAudio (s : JobServer R) (tenantId key : String) : Except PyError Audio :=
  match s.objects (tenantId, key) with
  | some payload => .ok payload
  | none => .error (.http 404 "input audio is no longer retained for this job")

/-- The key a job's audio is looked up under. -/
def audioKeyOf (s : JobServer R) (jobId : String) : String :=
  ((s.jobAudioKeys.lookup jobId).map Prod.snd).getD (jobAudioKey jobId)

/-- The preview of a job's audio, which is built once. -/
def previewOf (jobId : String) (payload : Audio) :
    Method PyError (JobServer R) (Option Audio) := do
  match (← Method.read).jobAudioPreviews.lookup jobId with
  | some encoded => return some encoded
  | none =>
    match api.buildAudioPreview payload with
    | some encoded =>
      .modify fun s => { s with
        jobAudioPreviews := s.jobAudioPreviews.filter (·.1 ≠ jobId) ++ [(jobId, encoded)] }
      return some encoded
    | none => return none

/-- **`get_job_audio`.** -/
def getJobAudio (tenantId jobId : String) (preview : Bool) :
    Method PyError (JobServer R) AudioResponse := do
  let job ← findJob tenantId jobId
  let s ← Method.read
  let payload ← .ofExcept (readAudio s tenantId (audioKeyOf s job.jobId))
  let headers := [("Content-Disposition", "inline; filename=\"" ++ job.jobId ++ "\""),
    ("Cache-Control", "private, no-store")]
  let encoded ← if preview then api.previewOf job.jobId payload else pure none
  return match encoded with
    | some encoded => { content := encoded, mediaType := AUDIO_PREVIEW_MEDIA_TYPE, headers }
    | none => { content := payload, mediaType := audioMediaType payload, headers }

/-- The results, keys and previews of a job are popped. -/
def forget (jobId : String) (s : JobServer R) : JobServer R :=
  { s with
    results := Function.update s.results jobId none
    jobAudioKeys := s.jobAudioKeys.filter (·.1 ≠ jobId)
    jobAudioPreviews := s.jobAudioPreviews.filter (·.1 ≠ jobId) }

/-- The audio is deleted that was remembered. -/
def deleteRetained (retained : Option (String × String)) : Method PyError (JobServer R) Unit :=
  match retained with
  | none => pure ()
  | some object => do
    .ofExcept api.deleteObject
    .modify fun s => { s with objects := Function.update s.objects object none }

/-- A job that is not over is cancelled. -/
def cancelUnlessTerminal (tenantId : String) (job : JobRecord) :
    Method PyError (JobServer R) JobRecord :=
  if job.isTerminal then pure job
  else (JobRows.updateState tenantId job.jobId .cancelled).zoom (fun s => s.jobs)
    (fun s jobs => { s with jobs })

/-- **`delete_job`.** -/
def deleteJob (tenantId jobId : String) : Method PyError (JobServer R) DeletedView := do
  let job ← findJob tenantId jobId
  let retained := (← Method.read).jobAudioKeys.lookup job.jobId
  .modify (forget job.jobId)
  api.deleteRetained retained
  let job ← cancelUnlessTerminal tenantId job
  return { jobId := job.jobId, state := job.state.value }

/-- `save_result` of a worker. -/
def saveResult (tenantId jobId : String) (segments : List (PublicSegment R))
    (warnings : List String) (degraded : Bool) (s : JobServer R) : JobServer R :=
  { s with
    segments := Function.update s.segments (tenantId, jobId) segments
    jobs := s.jobs.map (fun row =>
      if row.jobId = jobId ∧ row.tenantId = tenantId then { row with warnings, degraded }
      else row) }

/-- **The API is started again**: what was in memory is lost, what was stored is
not. -/
def restart (s : JobServer R) : JobServer R where
  jobs := s.jobs
  queue := s.queue
  objects := s.objects
  segments := s.segments

end JobApi

end Sastt
