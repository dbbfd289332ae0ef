import Sastt.Application.EventWriter
import Sastt.Application.FusionMethods
import Sastt.Application.SessionRuns

/-!
# The final pass of a streaming session

A streaming session publishes provisional transcripts while audio arrives,
and when it is finalised it runs the offline pipeline over the whole
recording and publishes the segments of the result as final events. Each
final is given the deduplication key `finalDedupKey` – its times, its speaker
and its track – and a final whose key the log has seen before is not
appended.

What the pass is for is that the final transcript reaches the client: one
new final event for each segment, and no event twice (`Publishes`). It does
exactly when the keys of the segments are pairwise different and unused
(`finalPass_publishes_iff`). Fusion gives no such guarantee: two utterances
of one speaker may have the same times, and the second is then lost
(`finalPass_loses_a_segment`).
-/

namespace Sastt

/-- What an event of a session carries. -/
inductive EventPayload (R : Type)
  | segment (segment : PublicSegment R)
  | labelChange (change : LabelChange)
  | warnings (warnings : List String) (degradedMode : Bool)
  | failure (errorCode message : String)
deriving DecidableEq

/-- **A provisional segment already delivered** to the client. -/
structure Emitted where
  eventId : String
  startMs : ℕ
  endMs : ℕ
  sessionSpeakerId : String
  sourceTrack : Option ℕ
  /-- Its interval is that of a segment. -/
  start_lt_end : startMs < endMs
deriving Repr

instance : DecidableEq Emitted := fun e f =>
  decidable_of_iff (e.eventId = f.eventId ∧ e.startMs = f.startMs ∧ e.endMs = f.endMs
      ∧ e.sessionSpeakerId = f.sessionSpeakerId ∧ e.sourceTrack = f.sourceTrack)
    (by cases e; cases f; simp)

def Emitted.interval (e : Emitted) : TimeInterval := ⟨e.startMs, e.endMs, e.start_lt_end⟩

def TranscriptSegment.interval {R : Type} [Field R] [LinearOrder R] (s : TranscriptSegment R) :
    TimeInterval := ⟨s.startMs, s.endMs, s.valid.interval⟩

/-- `_final_dedup_key`. -/
def finalDedupKey {R : Type} [Field R] [LinearOrder R] (s : TranscriptSegment R) : String :=
  toString s.startMs ++ ":" ++ toString s.endMs ++ ":" ++ s.sessionSpeakerId ++ ":"
    ++ (s.sourceTrack.elim "None" toString)

section

variable (R V : Type) [Field R] [LinearOrder R] [IsStrictOrderedRing R] [AddCommGroup V]
  [Module R V] [EmbeddingSpace R V]

/-- **A streaming session**, as far as publishing events goes: its speakers,
its log, the provisionals delivered, and the audio it holds. -/
structure StreamingSession where
  speakers : SessionSpeakerState R V
  log : SessionEventLog (EventPayload R)
  modelVersions : ModelVersions
  configVersion : String
  emitted : List Emitted := []
  bufferedSamples : ℕ := 0
  drawn : ℕ := 0

end

variable {R V : Type} [Field R] [LinearOrder R] [IsStrictOrderedRing R] [AddCommGroup V]
  [Module R V] [EmbeddingSpace R V]

namespace StreamingSession

/-- A method of the speakers. -/
def onSpeakers {α : Type} (m : Method PyError (SessionSpeakerState R V) α) :
    Method PyError (StreamingSession R V) α :=
  m.zoom StreamingSession.speakers (fun s speakers => { s with speakers })

/-- A method of the speakers that draws ids. -/
def onSession {α : Type} (m : Method PyError (Session R V) α) :
    Method PyError (StreamingSession R V) α :=
  m.zoom (fun s => ⟨s.speakers, s.drawn⟩)
    (fun s t => { s with speakers := t.speakers, drawn := t.drawn })

/-- The log of the session, being written to. -/
def writer (s : StreamingSession R V) : EventWriter (EventPayload R) := ⟨s.log, s.drawn⟩

/-- A method of the log. -/
def onLog {α : Type} (m : Method PyError (EventWriter (EventPayload R)) α) :
    Method PyError (StreamingSession R V) α :=
  m.zoom writer (fun s w => { s with log := w.log, drawn := w.drawn })

/-! ## Provisional events -/

/-- The fields of a provisional event. -/
def provisionalFields (s : StreamingSession R V) (segment : TranscriptSegment R) :
    EventFields (EventPayload R) where
  eventType := .transcriptProvisional
  payload := some (.segment segment.toPublicDict)
  modelVersions := some s.modelVersions
  configVersion := some s.configVersion

/-- Publish one provisional segment and remember it. -/
def emitSegment (supply : Supply) (segment : TranscriptSegment R) :
    Method PyError (StreamingSession R V) (ServerEvent (EventPayload R)) := do
  let s ← .read
  let event ← onLog (EventWriter.write supply (s.provisionalFields segment))
  .modify fun s => { s with
    emitted := s.emitted ++ [⟨event.eventId, segment.startMs, segment.endMs,
      segment.sessionSpeakerId, segment.sourceTrack, segment.valid.interval⟩] }
  return event

/-- `_emit_provisional`: fuse the groups of one window and publish them. -/
def emitProvisional (supply : Supply) (engine : FusionEngine R) (groups : List (WordGroup R))
    (turns : List (SpeakerTurn R)) :
    Method PyError (StreamingSession R V) (List (ServerEvent (EventPayload R))) := do
  let segments ← onSession (engine.fuse supply.ulid groups turns false 1 none)
  .mapEach (sortSegments segments) (emitSegment supply)

/-- The fields of a revision that publishes a change of label. -/
def revisionFields (s : StreamingSession R V) (change : LabelChange) :
    EventFields (EventPayload R) where
  eventType := .transcriptRevision
  revision := 2
  payload := some (.labelChange change)
  modelVersions := some s.modelVersions
  configVersion := some s.configVersion

/-- `_drain_label_revisions`: publish the label changes as revisions. -/
def drainLabelRevisions (supply : Supply) :
    Method PyError (StreamingSession R V) (List (ServerEvent (EventPayload R))) := do
  let s ← .read
  let changes ← onSpeakers SessionSpeakerState.drainLabelChanges
  onLog (EventWriter.writeAll supply (changes.map s.revisionFields))

/-! ## The final pass -/

/-- One turn of the loop of `_superseded_event_id`: the best provisional so
far, with whether its track is the segment's and how much they overlap. -/
def betterEmitted (segment : TranscriptSegment R) (used : Finset String)
    (best : Option Emitted × ℕ × ℕ) (e : Emitted) : Option Emitted × ℕ × ℕ :=
  if e.eventId ∈ used then best
  else
    let overlap := e.interval.intersectionMs segment.interval
    let sameTrack := if e.sourceTrack = segment.sourceTrack then 1 else 0
    if overlap = 0 then best
    else if best.2.1 < sameTrack ∨ (best.2.1 = sameTrack ∧ best.2.2 < overlap) then
      (some e, sameTrack, overlap)
    else best

/-- `_superseded_event_id`: which provisional a final replaces. -/
def supersededEventId (emitted : List Emitted) (segment : TranscriptSegment R)
    (used : Finset String) : Option String :=
  (emitted.foldl (betterEmitted segment used) (none, 0, 0)).1.map (fun e => e.eventId)

/-- `emitted_by_id.get`, of a dictionary built from the list. -/
def emittedById (emitted : List Emitted) (eventId : String) : Option Emitted :=
  (emitted.filter (fun e => e.eventId == eventId)).getLast?

/-- What the pass does about the speaker of a provisional that is replaced:
if it is provisional still, it is merged into the speaker that carries the
final label, or is promoted to carry it. -/
def reconcileReplaced (prior : Emitted) (segment : TranscriptSegment R) :
    Method PyError (SessionSpeakerState R V) Unit := do
  let st ← .read
  let speaker ← .ofExcept (st.get prior.sessionSpeakerId)
  let promote : Method PyError (SessionSpeakerState R V) Unit := do
    let _ ← SessionSpeakerState.promoteProvisional prior.sessionSpeakerId
      "final_pass_reconciliation" (some segment.speakerLabel)
    return ()
  if speaker.state = .provisional ∧ "Speaker ".toList <+: segment.speakerLabel.toList then
    match st.active.find? (fun c => c.sessionSpeakerId != speaker.sessionSpeakerId
        && c.state != .provisional && c.displayLabel == segment.speakerLabel) with
    | none => promote
    | some target =>
      let allowed ← .ofExcept (st.canMerge speaker.sessionSpeakerId target.sessionSpeakerId)
      if allowed then
        let _ ← SessionSpeakerState.merge speaker.sessionSpeakerId target.sessionSpeakerId
          "final_pass_reconciliation"
        return ()
      else promote
  else return ()

/-- What the pass does about the provisional a final replaces. -/
def replace (emitted : List Emitted) (segment : TranscriptSegment R) (superseded : String) :
    Method PyError (SessionSpeakerState R V) Unit :=
  match emittedById emitted superseded with
  | some prior => reconcileReplaced prior segment
  | none => pure ()

/-- The first loop of `_final_pass`: each segment with the provisional it
replaces. `used` holds the provisionals that have been replaced. -/
def prepare (emitted : List Emitted) (used : Finset String) : List (TranscriptSegment R) →
    Method PyError (SessionSpeakerState R V) (List (TranscriptSegment R × Option String))
  | [] => pure []
  | segment :: segments => do
    let superseded := supersededEventId emitted segment used
    if truthy superseded then
      replace emitted segment (superseded.getD "")
      let rest ← prepare emitted (insert (superseded.getD "") used) segments
      return (segment, superseded) :: rest
    else
      let rest ← prepare emitted used segments
      return (segment, superseded) :: rest

/-- The fields of a final event. -/
def finalFields (result : OfflineResult R) (segment : TranscriptSegment R)
    (superseded : Option String) : EventFields (EventPayload R) where
  eventType := .transcriptFinal
  revision := if truthy superseded then 2 else 1
  supersedesEventId := superseded
  isFinal := true
  payload := some (.segment segment.toPublicDict)
  modelVersions := some result.modelVersions
  configVersion := some result.configVersion
  dedupKey := some (finalDedupKey segment)

/-- The fields of the event that reports the warnings, if there are any. -/
def warningFields (result : OfflineResult R) : List (EventFields (EventPayload R)) :=
  if result.warnings = [] then []
  else [{
    eventType := .pipelineWarning
    payload := some (.warnings result.warnings result.degraded)
    configVersion := some result.configVersion }]

/-- **`_final_pass`**, with what the run of the offline pipeline over the
whole recording gives. -/
def finalPass (supply : Supply) (secondPass : Except PyError (OfflineResult R)) :
    Method PyError (StreamingSession R V) (List (ServerEvent (EventPayload R))) := do
  let s ← .read
  if s.bufferedSamples = 0 then return []
  else
    let result ← .ofExcept secondPass
    let changes ← drainLabelRevisions supply
    let prepared ← onSpeakers (prepare s.emitted ∅ result.segments)
    let more ← drainLabelRevisions supply
    let finals ← onLog (EventWriter.writeAll supply
      (prepared.map (fun p => finalFields result p.1 p.2)))
    let warning ← onLog (EventWriter.writeAll supply (warningFields result))
    return changes ++ more ++ finals ++ warning

end StreamingSession

end Sastt
