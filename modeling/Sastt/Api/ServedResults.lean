import Sastt.Api.DeletedJobs

/-!
# Results from memory and from the database

A result is served by the process that ran the job, or, where a worker ran it,
from what the worker saved. The two should not differ (`ServedAlike`), and they
always do: a result without segments is one of the process and none of the
database, and any other is rendered in two formats (`not_servedAlike`).

What the result says besides is the same in both, up to the order of the
segments (`savedView_agrees`, `savedResult_agrees`).
-/

namespace Sastt

open Method JobApi

/-- The status code of a response. -/
def statusCode {α : Type} : Except PyError α → ℕ
  | .ok _ => 200
  | .error (.http status _) => status
  | .error (.sastt .modelNotReady _ _) => 503
  | .error (.sastt .queueOverloaded _ _) => 429
  | .error (.sastt _ _ _) => 400
  | .error _ => 500

variable {R : Type} [Field R] [LinearOrder R]

/-- **The job is over and its result is in memory.** -/
structure InMemory (tenantId jobId : String) (result : OfflineResult R) (s : JobServer R) :
    Prop where
  row : ∃ job, JobRows.get s.jobs tenantId jobId = .ok job ∧ job.isTerminal = true
  results : s.results jobId = some result

/-- **The job is over and its result is saved.** -/
structure InDatabase (tenantId jobId : String) (result : OfflineResult R) (s : JobServer R) :
    Prop where
  row : ∃ job, JobRows.get s.jobs tenantId jobId = .ok job ∧ job.isTerminal = true
    ∧ job.warnings = result.warnings ∧ job.degraded = result.degraded
  results : s.results jobId = none
  segments : s.segments (tenantId, jobId) = result.segments.map TranscriptSegment.toPublicDict

/-- **Two results are the same to a client.** -/
structure SameResult (view view' : JobResultView R) : Prop where
  segments : view.segments = view'.segments
  text : view.text = view'.text
  warnings : view.warnings = view'.warnings
  degradedMode : view.degradedMode = view'.degradedMode
  sessionSpeakers : view.sessionSpeakers = view'.sessionSpeakers

/-- **Two APIs serve a job alike.** -/
structure ServedAlike (tenantId jobId : String) (memory database : JobApi R)
    (s t : JobServer R) : Prop where
  status : statusCode (memory.getJobResult tenantId jobId s).1
    = statusCode (database.getJobResult tenantId jobId t).1
  result : ∀ view view', (memory.getJobResult tenantId jobId s).1 = .ok view →
    (database.getJobResult tenantId jobId t).1 = .ok view' → SameResult view view'
  job : ∀ view view', (memory.getJob tenantId jobId s).1 = .ok view →
    (database.getJob tenantId jobId t).1 = .ok view' →
      view.warnings = view'.warnings ∧ view.degradedMode = view'.degradedMode

/-! ## The text -/

/-- Lines begin with the first of them. -/
theorem intercalate_cons_append (separator line : String) (lines : List String) :
    ∃ rest, separator.intercalate (line :: lines) = line ++ rest := by
  cases lines with
  | nil => exact ⟨"", by simp [String.intercalate_singleton]⟩
  | cons next lines =>
    exact ⟨separator ++ separator.intercalate (next :: lines), by
      rw [String.intercalate_cons_cons, String.append_assoc]⟩

/-- The text of a result in memory begins with minutes, -/
theorem toList_renderTranscript {segments : List (TranscriptSegment R)} (h : segments ≠ []) :
    ∃ digits rest, (renderTranscript segments).toList = digits ++ ':' :: rest
      ∧ ∀ d ∈ digits, d.isDigit = true := by
  unfold renderTranscript
  cases hsorted : sortSegments segments with
  | nil =>
    have hperm : (sortSegments segments).Perm segments := List.perm_insertionSort _ _
    exact absurd (hsorted ▸ hperm).nil_eq.symm h
  | cons segment sorted =>
    obtain ⟨rest, hrest⟩ := intercalate_cons_append "\n" (renderSegment segment)
      (sorted.map renderSegment)
    rw [List.map_cons, hrest]
    have hline : ∃ tail, (renderSegment segment ++ rest).toList
        = (zeroPadded 2 (segment.startMs / 60000)).toList ++ ':' :: tail := by
      simp [renderSegment, formatTimestamp]
    obtain ⟨tail, htail⟩ := hline
    exact ⟨_, tail, htail, fun d => isDigit_of_mem_zeroPadded⟩

omit [Field R] [LinearOrder R] in
/-- and that of a result from the database with seconds. -/
theorem toList_renderTranscriptFromPublicSegments {segments : List (PublicSegment R)}
    (h : segments ≠ []) :
    ∃ digits rest, (renderTranscriptFromPublicSegments segments).toList = digits ++ '.' :: rest
      ∧ ∀ d ∈ digits, d.isDigit = true := by
  unfold renderTranscriptFromPublicSegments
  cases hsorted : segments.insertionSort renderLe with
  | nil =>
    have hperm : (segments.insertionSort renderLe).Perm segments := List.perm_insertionSort _ _
    exact absurd (hsorted ▸ hperm).nil_eq.symm h
  | cons segment sorted =>
    obtain ⟨rest, hrest⟩ := intercalate_cons_append "\n" (renderPublicSegment segment)
      (sorted.map renderPublicSegment)
    rw [List.map_cons, hrest]
    have hline : ∃ tail, (renderPublicSegment segment ++ rest).toList
        = (toString (segment.startMs / 1000)).toList ++ '.' :: tail := by
      simp [renderPublicSegment, formatSeconds]
    obtain ⟨tail, htail⟩ := hline
    exact ⟨_, tail, htail, fun d => isDigit_of_mem_toString⟩

/-- **The two texts differ**, whatever the segments. -/
theorem renderTranscript_ne {segments : List (TranscriptSegment R)}
    {rows : List (PublicSegment R)} (h : segments ≠ []) (hrows : rows ≠ []) :
    renderTranscript segments ≠ renderTranscriptFromPublicSegments rows := by
  intro heq
  obtain ⟨digits, rest, hmemory, hdigits⟩ := toList_renderTranscript h
  obtain ⟨digits', rest', hsaved, hdigits'⟩ := toList_renderTranscriptFromPublicSegments hrows
  have hlists : digits ++ ':' :: rest = digits' ++ '.' :: rest' := by
    rw [← hmemory, heq, hsaved]
  have hafter : ':' :: rest = '.' :: rest' := by
    rw [← dropWhile_digits rest hdigits (by decide), hlists,
      dropWhile_digits rest' hdigits' (by decide)]
  exact absurd (List.cons.inj hafter).1 (by decide)

/-! ## The results -/

variable {memory database : JobApi R} {tenantId jobId : String} {result : OfflineResult R}
  {s t : JobServer R}

theorem getJobResult_of_inMemory (memory : JobApi R) (h : InMemory tenantId jobId result s) :
    ∃ job, memory.getJobResult tenantId jobId s = (.ok (memory.memoryView job result), s) := by
  obtain ⟨job, hjob, -⟩ := h.row
  refine ⟨job, ?_⟩
  rw [getJobResult_of_found hjob, h.results]

/-- What the database serves of a result. -/
theorem getJobResult_of_inDatabase (hdurable : database.durable = true)
    (h : InDatabase tenantId jobId result t) :
    ∃ job, job.warnings = result.warnings ∧ job.degraded = result.degraded
      ∧ database.getJobResult tenantId jobId t
        = (if result.segments = [] then notFinished job else .ok (database.savedView job
            (database.queryOrder.sort (result.segments.map TranscriptSegment.toPublicDict))),
            t) := by
  obtain ⟨job, hjob, hterminal, hwarnings, hdegraded⟩ := h.row
  refine ⟨job, hwarnings, hdegraded, ?_⟩
  have hnil : database.loadResult t tenantId jobId = [] ↔ result.segments = [] := by
    rw [loadResult_eq_nil_iff, h.segments, List.map_eq_nil_iff]
  rw [getJobResult_of_found hjob, h.results]
  simp only [hterminal, hdurable, hnil, not_true, if_false]
  rw [loadResult, h.segments]

omit [Field R] [LinearOrder R] in
/-- Speakers are counted in any order of the segments. -/
theorem countSessionSpeakers_perm {rows rows' : List (PublicSegment R)} (h : rows.Perm rows') :
    countSessionSpeakers rows = countSessionSpeakers rows' :=
  (((h.filter _).map _).dedup).length_eq

/-- **What the two results agree on**, if there is a segment: all but the text
and the order of the segments. -/
theorem savedView_agrees (hs : InMemory tenantId jobId result s)
    (ht : InDatabase tenantId jobId result t) (hdurable : database.durable = true)
    (hsome : result.segments ≠ []) :
    ∃ view view', memory.getJobResult tenantId jobId s = (.ok view, s)
      ∧ database.getJobResult tenantId jobId t = (.ok view', t)
      ∧ view'.segments.Perm view.segments ∧ view.warnings = view'.warnings
      ∧ view.degradedMode = view'.degradedMode ∧ view.sessionSpeakers = view'.sessionSpeakers := by
  obtain ⟨job, hmemory⟩ := getJobResult_of_inMemory memory hs
  obtain ⟨row, hwarnings, hdegraded, hdatabase⟩ := getJobResult_of_inDatabase hdurable ht
  rw [if_neg hsome] at hdatabase
  have hperm := database.queryOrder.sort_perm (result.segments.map TranscriptSegment.toPublicDict)
  exact ⟨_, _, hmemory, hdatabase, hperm, hwarnings.symm, hdegraded.symm,
    (countSessionSpeakers_perm hperm).symm⟩

/-- **A result is never served alike from memory and from the database.** -/
theorem not_servedAlike (memory database : JobApi R) (hdurable : database.durable = true)
    (tenantId jobId : String) (result : OfflineResult R) (s t : JobServer R)
    (hs : InMemory tenantId jobId result s) (ht : InDatabase tenantId jobId result t) :
    ¬ ServedAlike tenantId jobId memory database s t := by
  intro h
  obtain ⟨job, hmemory⟩ := getJobResult_of_inMemory memory hs
  obtain ⟨row, -, -, hdatabase⟩ := getJobResult_of_inDatabase hdurable ht
  by_cases hnil : result.segments = []
  · have hstatus := h.status
    rw [hmemory, hdatabase, if_pos hnil] at hstatus
    exact absurd (show 200 = 409 from hstatus) (by decide)
  · rw [if_neg hnil] at hdatabase
    have hsame := h.result _ _ (congrArg Prod.fst hmemory) (congrArg Prod.fst hdatabase)
    refine renderTranscript_ne hnil (fun hrows => ?_) hsame.text
    have hperm := database.queryOrder.sort_perm
      (result.segments.map TranscriptSegment.toPublicDict)
    rw [hrows] at hperm
    exact hnil (List.map_eq_nil_iff.mp hperm.nil_eq.symm)

/-! ## Saving the result -/

/-- A row that is written to is found as it is then. -/
theorem get_map {rows : List JobRecord} {job : JobRecord} (write : JobRecord → JobRecord)
    (hwrite : ∀ row, (write row).jobId = row.jobId ∧ (write row).tenantId = row.tenantId)
    (h : JobRows.get rows tenantId jobId = .ok job) :
    JobRows.get (rows.map write) tenantId jobId = .ok (write job) := by
  unfold JobRows.get at h ⊢
  have hsame : ((fun row => decide (row.jobId = jobId ∧ row.tenantId = tenantId)) ∘ write)
      = fun row : JobRecord => decide (row.jobId = jobId ∧ row.tenantId = tenantId) := by
    funext row
    show decide ((write row).jobId = jobId ∧ (write row).tenantId = tenantId) = _
    rw [(hwrite row).1, (hwrite row).2]
  rw [List.find?_map, hsame]
  split at h
  · next found hfound =>
    cases h
    rw [hfound]
    rfl
  · cases h

/-- A job that is running can be moved to a state, and is found in it. -/
theorem get_updateState {rows : List JobRecord} {job : JobRecord}
    (h : JobRows.get rows tenantId jobId = .ok job) (hrunning : job.state ∉ JobState.terminal)
    (state : JobState) :
    JobRows.get (JobRows.updateState tenantId jobId state rows).2 tenantId jobId
      = .ok { job with state } := by
  have hrows : (JobRows.updateState tenantId jobId state rows).2 = rows.map (fun row =>
      if row.jobId = jobId ∧ row.tenantId = tenantId then { row with state } else row) := by
    unfold JobRows.updateState
    rw [h]
    dsimp only
    rw [transition_of_not_terminal hrunning]
  have hids := (JobRows.get_eq_ok h).2
  have hfound := get_map (fun row =>
    if row.jobId = jobId ∧ row.tenantId = tenantId then { row with state } else row)
    (fun row => by split <;> exact ⟨rfl, rfl⟩) h
  rwa [if_pos hids, ← hrows] at hfound

/-- **What a worker saves is in the database**, when it has finished the job. -/
theorem inDatabase_saveResult {job : JobRecord} (hjob : JobRows.get t.jobs tenantId jobId = .ok job)
    (hrunning : job.state ∉ JobState.terminal) (hnone : t.results jobId = none)
    {state : JobState} (hstate : state ∈ JobState.terminal) :
    InDatabase tenantId jobId result
      (let saved := JobApi.saveResult tenantId jobId
        (result.segments.map TranscriptSegment.toPublicDict)
        result.warnings result.degraded t
      { saved with jobs := (JobRows.updateState tenantId jobId state saved.jobs).2 }) where
  row := by
    have hids := (JobRows.get_eq_ok hjob).2
    have hsaved := get_map (fun row =>
      if row.jobId = jobId ∧ row.tenantId = tenantId then
        { row with warnings := result.warnings, degraded := result.degraded }
      else row) (fun row => by split <;> exact ⟨rfl, rfl⟩) hjob
    rw [if_pos hids] at hsaved
    exact ⟨_, get_updateState hsaved hrunning state, decide_eq_true hstate, rfl, rfl⟩
  results := hnone
  segments := Function.update_self ..

/-- **A result survives the database** up to the text and the order of its segments: what
is served after a worker has saved it is what is served where it is in memory. -/
theorem savedResult_agrees (memory database : JobApi R) (hdurable : database.durable = true)
    (hs : InMemory tenantId jobId result s) {job : JobRecord}
    (hjob : JobRows.get t.jobs tenantId jobId = .ok job) (hrunning : job.state ∉ JobState.terminal)
    (hnone : t.results jobId = none) {state : JobState} (hstate : state ∈ JobState.terminal)
    (hsome : result.segments ≠ []) :
    let saved := JobApi.saveResult tenantId jobId
      (result.segments.map TranscriptSegment.toPublicDict) result.warnings result.degraded t
    let done := { saved with jobs := (JobRows.updateState tenantId jobId state saved.jobs).2 }
    ∃ view view', memory.getJobResult tenantId jobId s = (.ok view, s)
      ∧ database.getJobResult tenantId jobId done = (.ok view', done)
      ∧ view'.segments.Perm view.segments ∧ view.warnings = view'.warnings
      ∧ view.degradedMode = view'.degradedMode ∧ view.sessionSpeakers = view'.sessionSpeakers :=
  savedView_agrees hs (inDatabase_saveResult hjob hrunning hnone hstate) hdurable hsome

/-- What somebody else said then. -/
def answered : TranscriptSegment ℚ :=
  { aWord with
    startMs := 600
    endMs := 900
    speakerId := "sps_2"
    sessionSpeakerId := "sps_2"
    speakerLabel := "Speaker 2"
    valid := by constructor <;> simp [aWord, IsConfidence] }

/-- The result of a noisy conversation, with the later word first. -/
def conversation : OfflineResult ℚ where
  jobId := "job_1"
  state := .degradedSucceeded
  segments := [answered, aWord]
  warnings := ["noisy"]
  degraded := true
  configVersion := "default"
  modelVersions := {}

/-- The worker is done with it, and has not saved it yet. -/
def unsaved : JobServer ℚ :=
  { stored with jobs := stored.jobs.map (fun job => { job with state := .fusing }) }

theorem savedResult_agrees_conversation :
    let kept : JobServer ℚ := { stored with
      results := Function.update (fun _ => none) "job_1" (some conversation) }
    let saved := JobApi.saveResult "tenant" "job_1"
      (conversation.segments.map TranscriptSegment.toPublicDict) conversation.warnings
      conversation.degraded unsaved
    let done := { saved with
      jobs := (JobRows.updateState "tenant" "job_1" .degradedSucceeded saved.jobs).2 }
    ∃ view view', queuedJobs.getJobResult "tenant" "job_1" kept = (.ok view, kept)
      ∧ queuedJobs.getJobResult "tenant" "job_1" done = (.ok view', done)
      ∧ view'.segments.Perm view.segments ∧ view.warnings = view'.warnings
      ∧ view.degradedMode = view'.degradedMode ∧ view.sessionSpeakers = view'.sessionSpeakers :=
  savedResult_agrees queuedJobs queuedJobs rfl ⟨⟨_, rfl, rfl⟩, rfl⟩ rfl (by decide) rfl (by decide)
    (List.cons_ne_nil _ _)

/-! ## A silent recording -/

section Example

/-- The result of a recording in which nobody speaks. -/
def silence : OfflineResult ℚ where
  jobId := "job_1"
  state := .succeeded
  segments := []
  configVersion := "default"
  modelVersions := {}

theorem silence_inMemory :
    InMemory "tenant" "job_1" silence { stored with
      results := Function.update (fun _ => none) "job_1" (some silence) } :=
  ⟨⟨_, rfl, rfl⟩, rfl⟩

theorem silence_inDatabase :
    InDatabase "tenant" "job_1" silence { stored with segments := fun _ => [] } :=
  ⟨⟨_, rfl, rfl, rfl, rfl⟩, rfl, rfl⟩

theorem not_servedAlike_silence :
    ¬ ServedAlike "tenant" "job_1" queuedJobs queuedJobs
      { stored with results := Function.update (fun _ => none) "job_1" (some silence) }
      { stored with segments := fun _ => [] } :=
  not_servedAlike queuedJobs queuedJobs rfl "tenant" "job_1" silence _ _ silence_inMemory
    silence_inDatabase

/-- **A silent recording has a result in memory only.** -/
theorem silence_is_served_from_memory_only :
    statusCode (queuedJobs.getJobResult "tenant" "job_1" { stored with
        results := Function.update (fun _ => none) "job_1" (some silence) }).1 = 200
      ∧ statusCode (queuedJobs.getJobResult "tenant" "job_1"
        { stored with segments := fun _ => [] }).1 = 409 := by
  decide +kernel

end Example

end Sastt
