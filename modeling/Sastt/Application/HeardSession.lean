import Sastt.Application.RollingSession
import Sastt.Lib.Refinement

/-!
# A session that is heard

`HeardSession` is a streaming session that remembers what it handed to the
recognizer: the slices of speech of one person, and the regions where several
people talk. It remembers besides which slices were too short to be handed over,
and when the last rolling step was finished. No method reads this. What the
methods do to the session is the same (`HeardSession.toRollingSession_step`).
-/

namespace Sastt

open Method

section

variable (R V S : Type) [Field R] [LinearOrder R] [IsStrictOrderedRing R] [AddCommGroup V]
  [Module R V] [EmbeddingSpace R V]

/-- **A session that is heard.** -/
structure HeardSession extends RollingSession R V S where
  /-- The slices and the regions that were handed to the recognizer. -/
  handed : List TimeInterval := []
  /-- The slices that were too short for it. -/
  short : List TimeInterval := []
  /-- When the last rolling step was finished. -/
  steppedMs : ℕ := 0

end

variable {R V S : Type} [Field R] [LinearOrder R] [IsStrictOrderedRing R] [AddCommGroup V]
  [Module R V] [EmbeddingSpace R V]

namespace HeardSession

variable (c : StreamingContext R)

/-- A method of what was a session before it was heard. -/
def onRolling {α : Type} (m : Method PyError (RollingSession R V S) α) :
    Method PyError (HeardSession R V S) α :=
  m.zoom toRollingSession (fun h s => { h with toRollingSession := s })

/-- A method of the speakers that draws ids. -/
def onSession {α : Type} (m : Method PyError (Session R V) α) :
    Method PyError (HeardSession R V S) α := onRolling (RollingSession.onSession m)

/-- Remember what the recognizer was given. -/
def handOver (interval : TimeInterval) : Method PyError (HeardSession R V S) Unit :=
  .modify fun h => { h with handed := h.handed ++ [interval] }

/-- Remember what was too short for it. -/
def leaveOut (interval : TimeInterval) : Method PyError (HeardSession R V S) Unit :=
  .modify fun h => { h with short := h.short ++ [interval] }

/-- `transcribe_non_overlap`: the loop over the slices. -/
def transcribeSlices (p : OfflinePipeline R) (adapters : PipelineAdapters R V S)
    (mono : AudioBuffer S) : ℕ → List TimeInterval →
      Method PyError (HeardSession R V S) (List (WordGroup R) × List String)
  | _, [] => return ([], [])
  | n, interval :: rest =>
    if interval.durationMs < 50 then do
      leaveOut interval
      transcribeSlices p adapters mono (n + 1) rest
    else do
      let crop ← .ofExcept (mono.cropMs interval)
      let result ← .ofExcept (adapters.transcribe [n] crop p.sessionLanguage none)
      handOver interval
      let words := wordsOwnedBy result.words interval
      let (groups, warnings) ← transcribeSlices p adapters mono (n + 1) rest
      if words = [] then return (groups, warnings)
      else if !isPlausibleTranscript words [interval] then
        return (groups, WARNING_UNRELIABLE_NON_OVERLAP_TRANSCRIPT :: warnings)
      else return ({ words, interval, rawScores := result.rawScores } :: groups, warnings)

/-- The turn of the inner loop for one region. A region is heard by the time it
has been handled: on every route it is recognised, as its sources or as the
mixture it is. -/
def regionGroups (models : RollingModels R V S) (p : OfflinePipeline R)
    (closes : ℕ → Bool) (mono : AudioBuffer S) (diarization : DiarizationResult R)
    (pending : TimeInterval) (n : ℕ) (region : OverlapRegion R) :
    Method PyError (HeardSession R V S) (List (WordGroup R)) :=
  match region.interval.clamp pending with
  | none => return []
  | some clipped =>
    if !closes clipped.endMs then return []
    else do
      let evidence := OfflinePipeline.countingEvidence (some diarization) region.interval
      let decision := routeOverlap (estimateSourceCount evidence p.config) p.config evidence true
      let result ← onSession (p.handleOverlapRegion (models.adapters.at n) c.supply.ulid
        { mono, region, decision, diarization := some diarization })
      handOver region.interval
      return result.1

/-- The turn of the outer loop for one closed interval. -/
def closedGroups (models : RollingModels R V S) (p : OfflinePipeline R)
    (closes : ℕ → Bool) (mono : AudioBuffer S) (diarization : DiarizationResult R)
    (overlaps : List (OverlapRegion R)) (emittedUntilMs : ℕ) (interval : TimeInterval) :
    Method PyError (HeardSession R V S) (List (List (WordGroup R))) := do
  let pending ← .ofExcept (RollingSession.pendingPart emittedUntilMs interval)
  let (alone, _) ← transcribeSlices p (models.adapters.at 0) mono 0
    (subtractIntervals [pending] (overlaps.map OverlapRegion.interval))
  let together ← .mapEach overlaps.zipIdx fun (region, n) =>
    regionGroups c models p closes mono diarization pending (n + 1) region
  return alone :: together

/-- The second half of a step: the speech that has come to an end is
transcribed and published. -/
def transcribeClosed (models : RollingModels R V S) (forceClose : Bool) (mono : AudioBuffer S)
    (diarization : DiarizationResult R) (regions : List (OverlapRegion R))
    (speech : List TimeInterval) :
    Method PyError (HeardSession R V S) (List (ServerEvent (EventPayload R))) := do
  let h ← .read
  let closed := h.closedIntervals c forceClose speech
  if closed = [] then
    onRolling (RollingSession.onStreaming (StreamingSession.drainLabelRevisions c.supply))
  else
    let calls ← .mapEach closed.zipIdx fun (interval, n) =>
      closedGroups c { models with adapters := models.adapters.at (n + 1) }
        (c.pipeline.speaking h.pinnedLanguage) (h.isClosed c forceClose) mono diarization regions
        h.emittedUntilMs interval
    let events ← onRolling
      (RollingSession.publish c closed diarization.regularTracks calls.flatten)
    let changes ← onRolling
      (RollingSession.onStreaming (StreamingSession.drainLabelRevisions c.supply))
    return events ++ changes

/-- What a step does with its window. -/
def look (models : RollingModels R V S) (forceClose : Bool) (mono : AudioBuffer S) :
    Method PyError (HeardSession R V S) (List (ServerEvent (EventPayload R))) := do
  let diarization ← .ofExcept (models.diarizer mono)
  let osd ← .ofExcept (models.overlapDetector mono)
  let regions := RollingSession.overlaps c diarization osd
  onSession (buildGlobalSpeakers (models.adapters.at 0) c.supply.ulid diarization regions mono)
  let speech ← .ofExcept (models.adapters.vad [] mono)
  onRolling (RollingSession.resolveLanguage c models mono speech)
  transcribeClosed c models forceClose mono diarization regions speech

/-- **`_process`**: one rolling step. -/
def process (models : RollingModels R V S) (forceClose : Bool) :
    Method PyError (HeardSession R V S) (List (ServerEvent (EventPayload R))) := do
  onRolling (.modify fun s => { s with lastProcessMs := s.nowMs })
  let h ← .read
  match h.windowBuffer c with
  | none => return []
  | some mono =>
    let events ← look c models forceClose mono
    .modify fun h => { h with steppedMs := h.nowMs }
    return events

/-- `push_pcm`. -/
def push (models : RollingModels R V S) (frame : List S) :
    Method PyError (HeardSession R V S) (List (ServerEvent (EventPayload R))) := do
  let h ← .read
  if h.stateMachine ≠ .streaming then
    .throw (.sastt .sessionClockDiscontinuity "audio pushed outside the streaming state"
      [("state", .str h.stateMachine.value)])
  else
    onRolling (.modify (RollingSession.receive c frame))
    let h ← .read
    if h.isDue c then process c models false else return []

/-- `finalize`. -/
def finalize (models : RollingModels R V S) (secondPass : Except PyError (OfflineResult R)) :
    Method PyError (HeardSession R V S) (List (ServerEvent (EventPayload R))) := do
  let h ← .read
  if h.isFinalized then return []
  else
    onRolling (.modify fun s => { s with stateMachine := .finalizing })
    let events ← process c models true
    let finals ← onRolling
      (RollingSession.onStreaming (StreamingSession.finalPass c.supply secondPass))
    onRolling (.modify fun s => { s with stateMachine := .finalized, isFinalized := true })
    let h ← .read
    let last ← onRolling (RollingSession.onStreaming
      (StreamingSession.onLog (EventWriter.write c.supply (h.finalizedFields c))))
    return events ++ finals ++ [last]

/-- **One command.** -/
def step (h : HeardSession R V S) : RollingSession.SessionCommand R V S → HeardSession R V S
  | .start => (onRolling (RollingSession.start c) h).2
  | .push models frame => (push c models frame h).2
  | .finalize models secondPass => (finalize c models secondPass h).2
  | .fail errorCode message => (onRolling (RollingSession.fail c errorCode message) h).2
  | .replay lastSequenceNumber => (onRolling (RollingSession.replay lastSequenceNumber) h).2

/-- A session nobody has spoken in. -/
def new (modelVersions : ModelVersions) (embeddingModelVersion : String) : HeardSession R V S :=
  { toRollingSession := .new c modelVersions embeddingModelVersion }

/-! ## The same session -/

section Refinement

variable {c}

section

omit [AddCommGroup V] [Module R V] [EmbeddingSpace R V]

theorem refines_onRolling {α : Type} (m : Method PyError (RollingSession R V S) α) :
    Refines toRollingSession (onRolling m) m := refines_zoom m (fun _ _ => rfl)

theorem refines_onSession {α : Type} (m : Method PyError (Session R V) α) :
    Refines toRollingSession (onSession (S := S) m) (RollingSession.onSession m) :=
  refines_onRolling _

/-- The speakers and the ids drawn are a part of the session. -/
theorem onSession_eq_zoom {α : Type} (m : Method PyError (Session R V) α) :
    RollingSession.onSession (S := S) m = m.zoom (fun s => ⟨s.speakers, s.drawn⟩)
      (fun s t => { s with speakers := t.speakers, drawn := t.drawn }) := rfl

end

theorem refines_transcribeSlices (p : OfflinePipeline R) (adapters : PipelineAdapters R V S)
    (mono : AudioBuffer S) (n : ℕ) (slices : List TimeInterval) :
    Refines toRollingSession (transcribeSlices (V := V) p adapters mono n slices)
      (.ofExcept (p.transcribeSlices adapters mono n slices)) := by
  induction slices generalizing n with
  | nil => exact refines_pure _
  | cons interval rest ih =>
    unfold transcribeSlices OfflinePipeline.transcribeSlices
    split
    · exact refines_note_bind (fun _ => ⟨_, rfl, rfl⟩) (ih (n + 1))
    · simp only [ofExcept_bind]
      refine refines_bind (refines_ofExcept _) (fun crop => ?_)
      refine refines_bind (refines_ofExcept _) (fun result => ?_)
      refine refines_note_bind (fun _ =>
        ⟨_, rfl, rfl⟩) (refines_bind (ih (n + 1)) (fun found => ?_))
      split
      · exact refines_pure _
      · split
        · exact refines_pure _
        · exact refines_pure _

theorem refines_regionGroups (models : RollingModels R V S) (p : OfflinePipeline R)
    (closes : ℕ → Bool) (mono : AudioBuffer S) (diarization : DiarizationResult R)
    (pending : TimeInterval) (n : ℕ) (region : OverlapRegion R) :
    Refines toRollingSession (regionGroups c models p closes mono diarization pending n region)
      (RollingSession.onSession
        (RollingSession.regionGroups c models p closes mono diarization pending n region)) := by
  unfold regionGroups RollingSession.regionGroups
  rw [onSession_eq_zoom]
  cases region.interval.clamp pending with
  | none => exact refines_zoom_ofExcept (by intros; rfl) (refines_pure _)
  | some clipped =>
    dsimp only
    split
    · exact refines_zoom_ofExcept (by intros; rfl) (refines_pure _)
    · refine refines_zoom_bind (by intros; rfl) (by intros; rfl) (refines_onSession _)
        (fun result => ?_)
      exact refines_note_bind (fun _ => ⟨_, rfl, rfl⟩)
        (refines_zoom_ofExcept (by intros; rfl) (refines_pure _))

theorem refines_closedGroups (models : RollingModels R V S) (p : OfflinePipeline R)
    (closes : ℕ → Bool) (mono : AudioBuffer S) (diarization : DiarizationResult R)
    (regions : List (OverlapRegion R)) (emittedUntilMs : ℕ) (interval : TimeInterval) :
    Refines toRollingSession
      (closedGroups c models p closes mono diarization regions emittedUntilMs interval)
      (RollingSession.onSession (RollingSession.closedGroups c models p closes mono diarization
        regions emittedUntilMs interval)) := by
  rw [onSession_eq_zoom]
  refine refines_zoom_bind (by intros; rfl) (by intros; rfl)
    (refines_zoom_ofExcept (by intros; rfl) (refines_ofExcept _)) (fun pending => ?_)
  refine refines_zoom_bind (by intros; rfl) (by intros; rfl)
    (refines_zoom_ofExcept (by intros; rfl) (refines_transcribeSlices _ _ _ _ _)) (fun alone => ?_)
  refine refines_zoom_bind (by intros; rfl) (by intros; rfl)
    (refines_zoom_mapEach (by intros; rfl) (by intros; rfl) (by intros; rfl)
      (fun _ => refines_regionGroups _ _ _ _ _ _ _ _)) (fun together => ?_)
  exact refines_zoom_ofExcept (by intros; rfl) (refines_pure _)

/-- **A step does to the session what it does unheard.** -/
theorem refines_process (models : RollingModels R V S) (forceClose : Bool) :
    Refines toRollingSession (process c models forceClose)
      (RollingSession.process c models forceClose) := by
  refine refines_bind (refines_onRolling _) (fun _ => refines_read_bind (fun h => ?_))
  cases h.toRollingSession.windowBuffer c with
  | none => exact refines_pure _
  | some mono =>
    refine refines_then ?_ (fun _ => ⟨_, rfl, rfl⟩)
    refine refines_bind (refines_ofExcept _) (fun diarization => ?_)
    refine refines_bind (refines_ofExcept _) (fun osd => ?_)
    refine refines_bind (refines_onSession _) (fun _ => ?_)
    refine refines_bind (refines_ofExcept _) (fun speech => ?_)
    refine refines_bind (refines_onRolling _) (fun _ => refines_read_bind (fun h => ?_))
    dsimp only
    split
    · exact refines_onRolling _
    · rw [onSession_eq_zoom]
      refine refines_bind (refines_zoom_mapEach (by intros; rfl) (by intros; rfl)
        (by intros; rfl) (fun _ => refines_closedGroups _ _ _ _ _ _ _ _)) (fun calls => ?_)
      exact refines_bind (refines_onRolling _) (fun events =>
        refines_bind (refines_onRolling _) (fun changes => refines_pure _))

theorem refines_push (models : RollingModels R V S) (frame : List S) :
    Refines toRollingSession (push c models frame) (RollingSession.push c models frame) := by
  refine refines_read_bind (fun h => ?_)
  split
  · exact refines_throw _
  · refine refines_bind (refines_onRolling _) (fun _ => refines_read_bind (fun h => ?_))
    split
    · exact refines_process models false
    · exact refines_pure _

theorem refines_finalize (models : RollingModels R V S)
    (secondPass : Except PyError (OfflineResult R)) :
    Refines toRollingSession (finalize c models secondPass)
      (RollingSession.finalize c models secondPass) := by
  refine refines_read_bind (fun h => ?_)
  split
  · exact refines_pure _
  · refine refines_bind (refines_onRolling _) (fun _ =>
      refines_bind (refines_process models true) (fun events =>
        refines_bind (refines_onRolling _) (fun finals =>
          refines_bind (refines_onRolling _) (fun _ => refines_read_bind (fun h => ?_)))))
    exact refines_bind (refines_onRolling _) (fun last => refines_pure _)

/-- **A session that is heard is a session.** -/
theorem toRollingSession_step (h : HeardSession R V S)
    (command : RollingSession.SessionCommand R V S) :
    (step c h command).toRollingSession = RollingSession.step c h.toRollingSession command := by
  cases command with
  | start => rfl
  | push models frame => exact (refines_push models frame h).2
  | finalize models secondPass => exact (refines_finalize models secondPass h).2
  | fail errorCode message => rfl
  | replay lastSequenceNumber => rfl

end Refinement

end HeardSession

end Sastt
