import Sastt.Application.FinalTranscript
import Sastt.Domain.EventHistory

/-!
# The canonical result of a streaming session

What a client is delivered are events, and what it may ask for later is the
result of the session: the segments of the transcript. `result` rebuilds them
from the payloads of the final events in the log (`segmentFromPayload`), and
publishing them again is meant to give these payloads back.

The decoder reads all fields but the confidences, the model versions and the
schema version, which come back as their defaults. So it succeeds on every
published segment, and gives the published fields back exactly for a segment
that has the defaults there (`publishedAgain_iff`). The result of a session is
what was delivered if all its finals are of this kind and the log still holds
all of them.

The finals of a session are more than the log holds: it drops old events. But
it remembers every final event under its deduplication key, and that is how
`DeliveredFinal` knows them. That each carries a published segment is an
invariant of the session's life (`Lives`), read off the calls of `append` that
its methods make (`Publishing`).
-/

namespace Sastt

open Method

variable {R V : Type} [Field R] [LinearOrder R] [IsStrictOrderedRing R]

/-! ## Rebuilding a segment -/

section Decoding

/-- `IdentityStatus(value)`. -/
def IdentityStatus.ofValue : String → Except PyError IdentityStatus
  | "provisional" => .ok .provisional
  | "enrolled" => .ok .enrolled
  | "anonymous" => .ok .anonymous
  | "unknown" => .ok .unknown
  | "ambiguous" => .ok .ambiguous
  | value => .error (.valueError ("'" ++ value ++ "' is not a valid IdentityStatus"))

/-- Every status is found by its value. -/
@[simp] theorem IdentityStatus.ofValue_value (status : IdentityStatus) :
    IdentityStatus.ofValue status.value = .ok status := by
  cases status <;> rfl

/-- The fields of the segment that is rebuilt from a payload. -/
def PublicSegment.fields (payload : PublicSegment R) (identityStatus : IdentityStatus) :
    SegmentFields R where
  sessionId := payload.sessionId
  eventId := payload.eventId
  startMs := payload.startMs
  endMs := payload.endMs
  text := payload.text
  speakerId := payload.speakerId
  sessionSpeakerId := payload.sessionSpeakerId
  identityStatus := identityStatus
  revision := payload.revision
  supersedesEventId := payload.supersedesEventId
  registrySpeakerId := payload.registrySpeakerId
  speakerLabel := payload.speakerLabel
  speakerName := payload.speakerName
  isOverlap := payload.isOverlap
  estimatedConcurrentSpeakers := payload.estimatedConcurrentSpeakers
  countConfidence := payload.countConfidence
  sourceTrack := payload.sourceTrack
  separationBackend := payload.separationBackend
  confidences := .unknown
  rawScores := payload.rawScores
  qualityFlags := payload.qualityFlags
  degradedMode := payload.degradedMode
  isFinal := payload.isFinal

/-- `_segment_from_payload`. -/
def segmentFromPayload (payload : PublicSegment R) : Except PyError (TranscriptSegment R) := do
  let identityStatus ← IdentityStatus.ofValue payload.identityStatus
  TranscriptSegment.new (payload.fields identityStatus)

/-- **What the decoder does not read**: a payload without confidences and
versions, of the schema in use. -/
structure PublicSegment.Plain (p : PublicSegment R) : Prop where
  schemaVersion : p.schemaVersion = "2.0"
  asr : p.asrConfidence = none
  diarization : p.diarizationConfidence = none
  linking : p.linkingConfidence = none
  voiceId : p.voiceIdConfidence = none
  overlap : p.overlapConfidence = none
  overall : p.overallConfidence = none
  status : p.confidenceStatus = .uncalibrated
  modelVersions : p.modelVersions = {}

/-- The payload as the decoder reads it. -/
def PublicSegment.plain (p : PublicSegment R) : PublicSegment R :=
  { p with
    schemaVersion := "2.0"
    asrConfidence := none
    diarizationConfidence := none
    linkingConfidence := none
    voiceIdConfidence := none
    overlapConfidence := none
    overallConfidence := none
    confidenceStatus := .uncalibrated
    modelVersions := {} }

omit [Field R] [LinearOrder R] [IsStrictOrderedRing R] in
theorem PublicSegment.plain_plain (p : PublicSegment R) : p.plain.Plain :=
  ⟨rfl, rfl, rfl, rfl, rfl, rfl, rfl, rfl, rfl⟩

omit [Field R] [LinearOrder R] [IsStrictOrderedRing R] in
theorem PublicSegment.plain_eq_iff (p : PublicSegment R) : p.plain = p ↔ p.Plain := by
  constructor
  · intro h
    rw [← h]
    exact p.plain_plain
  · rintro ⟨h₁, h₂, h₃, h₄, h₅, h₆, h₇, h₈, h₉⟩
    unfold PublicSegment.plain
    cases p
    simp only at h₁ h₂ h₃ h₄ h₅ h₆ h₇ h₈ h₉
    subst h₁ h₂ h₃ h₄ h₅ h₆ h₇ h₈ h₉
    rfl

omit [IsStrictOrderedRing R] in
/-- **Every published segment is rebuilt**, and published again is the payload
as the decoder reads it. -/
theorem segmentFromPayload_toPublicDict (s : TranscriptSegment R) :
    ∃ t, segmentFromPayload s.toPublicDict = .ok t
      ∧ t.toPublicDict = s.toPublicDict.plain := by
  have hstatus : IdentityStatus.ofValue s.toPublicDict.identityStatus = .ok s.identityStatus :=
    IdentityStatus.ofValue_value s.identityStatus
  -- what the constructor checks are fields of the segment, which passed before
  have hvalid : (s.toPublicDict.fields s.identityStatus).Valid :=
    ⟨s.valid.interval, s.valid.revision, s.valid.track, s.valid.confidence, s.valid.enrolled,
      s.valid.anonymous⟩
  refine ⟨⟨_, hvalid⟩, ?_, rfl⟩
  unfold segmentFromPayload
  rw [hstatus]
  exact TranscriptSegment.new_of_valid hvalid

/-- The segment is published again as it was. -/
def TranscriptSegment.PublishedAgain (s : TranscriptSegment R) : Prop :=
  ∃ t, segmentFromPayload s.toPublicDict = .ok t ∧ t.toPublicDict = s.toPublicDict

omit [IsStrictOrderedRing R] in
/-- **When a segment survives**: when it has nothing the decoder does not
read. -/
theorem publishedAgain_iff (s : TranscriptSegment R) :
    s.PublishedAgain ↔ s.toPublicDict.Plain := by
  obtain ⟨t, hdecode, hpublic⟩ := segmentFromPayload_toPublicDict s
  rw [← PublicSegment.plain_eq_iff, ← hpublic]
  constructor
  · rintro ⟨t', hdecode', hpublic'⟩
    rw [hdecode] at hdecode'
    cases hdecode'
    exact hpublic'
  · exact fun h => ⟨t, hdecode, h⟩

end Decoding

/-! ## The result -/

namespace StreamingSession

section Result

/-- A segment from the payload of an event. The payloads of other events lack
the first key that is read. -/
def segmentOfEvent (event : ServerEvent (EventPayload R)) : Except PyError (TranscriptSegment R) :=
  match event.payload with
  | some (.segment payload) => segmentFromPayload payload
  | _ => .error (.keyError "session_id")

variable (s : StreamingSession R V)

/-- The final events of the transcript that the log holds. -/
def transcriptFinals : List (ServerEvent (EventPayload R)) :=
  s.log.finalEvents.filter (fun e => e.eventType = .transcriptFinal)

/-- **`result`**: the canonical transcript. -/
def result : Except PyError (List (TranscriptSegment R)) := do
  let segments ← s.transcriptFinals.mapM segmentOfEvent
  return sortSegments segments

/-- A final event of the session, whether the log still holds it or not. -/
def DeliveredFinal (e : ServerEvent (EventPayload R)) : Prop :=
  ∃ key, s.log.finalByDedupKey key = some e

/-- **The result is what was delivered**: its segments, published again, are
the payloads of all final events of the session, each once. -/
def ServesFinals : Prop :=
  ∃ (segments : List (TranscriptSegment R)) (finals : List (ServerEvent (EventPayload R))),
    s.result = .ok segments ∧ finals.Nodup ∧ (∀ e, e ∈ finals ↔ s.DeliveredFinal e)
      ∧ (segments.map (fun seg => some (EventPayload.segment seg.toPublicDict))).Perm
        (finals.map (fun e => e.payload))

/-- **A final that can be served**: the log holds it, and its payload has
nothing the decoder does not read. -/
def Servable (e : ServerEvent (EventPayload R)) : Prop :=
  e ∈ s.log.events ∧ ∃ p, e.payload = some (.segment p) ∧ p.Plain

end Result

section Serving

variable {s : StreamingSession R V} {past : List (ServerEvent (EventPayload R))}

/-- The event carries a published segment, of a final transcript. -/
structure CarriesSegment (e : ServerEvent (EventPayload R)) : Prop where
  eventType : e.eventType = .transcriptFinal
  keyed : ∃ key, e.finalKey = some key
  payload : ∃ seg : TranscriptSegment R, e.payload = some (.segment seg.toPublicDict)

omit [IsStrictOrderedRing R] in
/-- **All finals are rebuilt.** -/
theorem mapM_segmentOfEvent {finals : List (ServerEvent (EventPayload R))}
    (h : ∀ e ∈ finals, CarriesSegment e) :
    ∃ segments, finals.mapM segmentOfEvent = .ok segments
      ∧ List.Forall₂ (fun e t => ∃ p : PublicSegment R, e.payload = some (.segment p)
        ∧ t.toPublicDict = p.plain) finals segments := by
  induction finals with
  | nil => exact ⟨[], rfl, List.Forall₂.nil⟩
  | cons e finals ih =>
    obtain ⟨segments, hall, hsegments⟩ := ih (fun e' he' => h e' (List.mem_cons_of_mem e he'))
    obtain ⟨seg, hpayload⟩ := (h e List.mem_cons_self).payload
    obtain ⟨t, hdecode, hpublic⟩ := segmentFromPayload_toPublicDict seg
    have hone : segmentOfEvent e = .ok t := by
      unfold segmentOfEvent
      rw [hpayload]
      exact hdecode
    refine ⟨t :: segments, ?_, List.Forall₂.cons ⟨_, hpayload, hpublic⟩ hsegments⟩
    rw [List.mapM_cons, hone, hall]
    rfl

/-- The delivered finals, in terms of the history of the log. -/
theorem deliveredFinal_iff (h : s.log.Recounts past)
    (hpast : ∀ e ∈ past, e.isFinal = true → CarriesSegment e)
    (e : ServerEvent (EventPayload R)) :
    s.DeliveredFinal e ↔ e ∈ past ∧ e.isFinal = true := by
  constructor
  · rintro ⟨key, hkey⟩
    obtain ⟨hmem, hfinal⟩ := (h.finals key e).mp hkey
    refine ⟨hmem, ?_⟩
    unfold ServerEvent.finalKey at hfinal
    split_ifs at hfinal with he
    exact he
  · rintro ⟨hmem, hfinal⟩
    obtain ⟨key, hkey⟩ := (hpast e hmem hfinal).keyed
    exact ⟨key, (h.finals key e).mpr ⟨hmem, hkey⟩⟩

/-- **When the result is what was delivered**, for a log that was given
published segments. -/
theorem servesFinals_iff (h : s.log.Recounts past) (hr : 1 ≤ s.log.retention)
    (hpast : ∀ e ∈ past, e.isFinal = true → CarriesSegment e) :
    s.ServesFinals ↔ ∀ e, s.DeliveredFinal e → s.Servable e := by
  have hsub : s.log.events.Sublist past := by
    rw [h.events_eq_drop hr]
    exact List.drop_sublist _ _
  have hpast_nodup : past.Nodup := List.Nodup.of_map ServerEvent.key h.unique
  have hkept : s.transcriptFinals = s.log.events.filter (fun e => e.isFinal) := by
    refine List.filter_eq_self.mpr (fun e he => ?_)
    obtain ⟨hmem, hfinal⟩ := List.mem_filter.mp he
    exact decide_eq_true (hpast e (hsub.subset hmem) hfinal).eventType
  have hkept_nodup : s.transcriptFinals.Nodup := by
    rw [hkept]
    exact (hsub.nodup hpast_nodup).filter _
  have hdelivered : ∀ e ∈ s.transcriptFinals, e ∈ past ∧ e.isFinal = true := by
    intro e he
    rw [hkept] at he
    obtain ⟨hmem, hfinal⟩ := List.mem_filter.mp he
    exact ⟨hsub.subset hmem, hfinal⟩
  obtain ⟨segments, hdecode, hsegments⟩ := mapM_segmentOfEvent
    (fun e he => hpast e (hdelivered e he).1 (hdelivered e he).2)
  have hresult : s.result = .ok (sortSegments segments) := by
    unfold result
    rw [hdecode]
    rfl
  have hsorted : (sortSegments segments).Perm segments := List.perm_insertionSort _ _
  constructor
  · rintro ⟨segments', finals, hresult', hnodup, hmem, hperm⟩ e he
    rw [hresult] at hresult'
    cases hresult'
    -- as many segments as finals are served, so none has left the log
    have hlength : finals.length = s.transcriptFinals.length := by
      have hserved := hperm.length_eq
      rw [List.length_map, List.length_map] at hserved
      rw [hsegments.length_eq, ← hsorted.length_eq, hserved]
    have hsubset : s.transcriptFinals ⊆ finals := fun e he =>
      (hmem e).mpr ((deliveredFinal_iff h hpast e).mpr (hdelivered e he))
    have hall : s.transcriptFinals.Perm finals :=
      (List.subperm_of_subset hkept_nodup hsubset).perm_of_length_le hlength.le
    have hin : e ∈ s.transcriptFinals := hall.mem_iff.mpr ((hmem e).mpr he)
    refine ⟨?_, ?_⟩
    · rw [hkept] at hin
      exact (List.mem_filter.mp hin).1
    · have hserved : e.payload ∈ (sortSegments segments).map
          (fun seg => some (EventPayload.segment seg.toPublicDict)) :=
        hperm.mem_iff.mpr (List.mem_map_of_mem ((hmem e).mpr he))
      obtain ⟨t, ht, hpayload⟩ := List.mem_map.mp hserved
      obtain ⟨e', -, p, -, hplain⟩ := exists_of_forall₂ hsegments (hsorted.mem_iff.mp ht)
      refine ⟨t.toPublicDict, hpayload.symm, ?_⟩
      rw [hplain]
      exact p.plain_plain
  · intro hservable
    refine ⟨sortSegments segments, s.transcriptFinals, hresult, hkept_nodup, fun e => ?_, ?_⟩
    · rw [deliveredFinal_iff h hpast]
      refine ⟨hdelivered e, fun he => ?_⟩
      rw [hkept]
      exact List.mem_filter.mpr
        ⟨(hservable e ((deliveredFinal_iff h hpast e).mpr he)).1, he.2⟩
    · have hpayloads : segments.map (fun seg => some (EventPayload.segment seg.toPublicDict))
          = s.transcriptFinals.map (fun e => e.payload) := by
        have hplain : ∀ e ∈ s.transcriptFinals, ∃ p, e.payload = some (.segment p) ∧ p.Plain :=
          fun e he => (hservable e ((deliveredFinal_iff h hpast e).mpr (hdelivered e he))).2
        generalize s.transcriptFinals = kept at hsegments hplain
        clear * - hsegments hplain
        induction hsegments with
        | nil => rfl
        | @cons e t finals segments hone _ ih =>
          obtain ⟨p, hpayload, hpublic⟩ := hone
          obtain ⟨p', hpayload', hp⟩ := hplain e List.mem_cons_self
          rw [hpayload] at hpayload'
          cases hpayload'
          rw [List.map_cons, List.map_cons, hpayload, hpublic, (p.plain_eq_iff).mpr hp,
            ih (fun e' he' => hplain e' (List.mem_cons_of_mem e he'))]
      rw [← hpayloads]
      exact hsorted.map _

end Serving

/-! ## The life of a session -/

section Lives

/-- What a session writes: an event that is final carries a segment of the
final transcript, under a deduplication key. -/
def WritesSegments (f : EventFields (EventPayload R)) : Prop :=
  f.isFinal = true → f.eventType = .transcriptFinal ∧ (∃ key, f.dedupKey = some key)
    ∧ ∃ seg : TranscriptSegment R, f.payload = some (.segment seg.toPublicDict)

/-- **The log goes on by events a session writes.** -/
def Publishing (log log' : SessionEventLog (EventPayload R)) : Prop :=
  ∃ calls : List (AppendCall (EventPayload R)), (∀ c ∈ calls, WritesSegments c.fields)
    ∧ log' = log.appendAll calls

instance : Std.Refl (Publishing (R := R)) where
  refl _ := ⟨[], fun _ hc => absurd hc List.not_mem_nil, rfl⟩

instance : IsTrans (SessionEventLog (EventPayload R)) Publishing where
  trans := by
    rintro log - - ⟨calls, hcalls, rfl⟩ ⟨more, hmore, rfl⟩
    refine ⟨calls ++ more, fun c hc => ?_, (List.foldl_append).symm⟩
    rcases List.mem_append.mp hc with hc | hc
    · exact hcalls c hc
    · exact hmore c hc

variable {supply : Supply} {f : EventFields (EventPayload R)}

omit [IsStrictOrderedRing R] in
theorem within_write_publishing (hf : WritesSegments f) :
    Within (InvImage Publishing EventWriter.log) (EventWriter.write supply f) := by
  refine fun w => ⟨[⟨f, supply.nowMs w.drawn, supply.ulid w.drawn⟩], fun c hc => ?_, rfl⟩
  rw [List.mem_singleton.mp hc]
  exact hf

/-- Writing to the log of a session. -/
theorem within_onLog_write (hf : WritesSegments f) :
    Within (InvImage Publishing StreamingSession.log)
      (onLog (V := V) (EventWriter.write supply f)) :=
  within_zoom (within_write_publishing hf) (fun _ _ h => h)

theorem within_onLog_writeAll {fs : List (EventFields (EventPayload R))}
    (hfs : ∀ f ∈ fs, WritesSegments f) :
    Within (InvImage Publishing StreamingSession.log)
      (onLog (V := V) (EventWriter.writeAll supply fs)) :=
  within_zoom (within_mapEach (fun f hf => within_write_publishing (hfs f hf))) (fun _ _ h => h)

/-- Moving the speakers does not write. -/
theorem within_onSpeakers_publishing {α : Type} (m : Method PyError (SessionSpeakerState R V) α) :
    Within (InvImage Publishing StreamingSession.log) (onSpeakers m) :=
  within_zoom_other m (fun _ _ => rfl)

theorem within_drainLabelRevisions_publishing :
    Within (InvImage Publishing StreamingSession.log)
      (StreamingSession.drainLabelRevisions (R := R) (V := V) supply) := by
  refine within_bind within_read (fun s => within_bind (within_onSpeakers_publishing _)
    (fun changes => within_onLog_writeAll (fun f hf => ?_)))
  obtain ⟨change, -, rfl⟩ := List.mem_map.mp hf
  exact nofun

theorem within_emitSegment_publishing (segment : TranscriptSegment R) :
    Within (InvImage Publishing StreamingSession.log)
      (StreamingSession.emitSegment (V := V) supply segment) := by
  refine within_bind within_read (fun s => within_bind (within_onLog_write nofun)
    (fun event => within_bind (within_modify (fun s => ?_)) (fun _ => within_pure _)))
  exact (Std.Refl.refl s.log : Publishing s.log s.log)

theorem within_emitProvisional_publishing (engine : FusionEngine R) (groups : List (WordGroup R))
    (turns : List (SpeakerTurn R)) :
    Within (InvImage Publishing StreamingSession.log)
      (StreamingSession.emitProvisional (V := V) supply engine groups turns) :=
  within_bind (within_zoom_other _ (fun _ _ => rfl))
    (fun _ => within_mapEach (fun segment _ => within_emitSegment_publishing segment))

/-- **The final pass writes published segments.** -/
theorem within_finalPass_publishing (secondPass : Except PyError (OfflineResult R)) :
    Within (InvImage Publishing StreamingSession.log)
      (StreamingSession.finalPass (V := V) supply secondPass) := by
  refine within_bind within_read (fun s => ?_)
  split
  · exact within_pure _
  · refine within_bind (within_ofExcept _) (fun result => within_bind
      within_drainLabelRevisions_publishing (fun _ => within_bind
        (within_onSpeakers_publishing _) (fun prepared => within_bind
          within_drainLabelRevisions_publishing (fun _ => within_bind
            (within_onLog_writeAll (fun f hf => ?_)) (fun _ => within_bind
              (within_onLog_writeAll (fun f hf => ?_)) (fun _ => within_pure _))))))
    · obtain ⟨p, -, rfl⟩ := List.mem_map.mp hf
      exact fun _ => ⟨rfl, ⟨_, rfl⟩, p.1, rfl⟩
    · intro hfinal
      rw [(notice_warningFields result f hf).notFinal] at hfinal
      cases hfinal

variable [AddCommGroup V] [Module R V] [EmbeddingSpace R V]

/-- **The life of a session**, at any moment before or after it is finalised:
speakers are moved by their methods, windows are published, label changes are
drained, events that are not final are written, and the final pass is run,
whether it returns or raises. -/
inductive Lives (supply : Supply) : StreamingSession R V → Prop
  | new (sessionId : String) (config : SasttConfig R) (embeddingModelVersion : String)
      (modelVersions : ModelVersions) (configVersion : String) :
      Lives supply { speakers := .new sessionId config embeddingModelVersion
                     log := { sessionId }
                     modelVersions, configVersion }
  | buffer (s : StreamingSession R V) (n : ℕ) (h : Lives supply s) :
      Lives supply { s with bufferedSamples := n }
  | speakers (s : StreamingSession R V) (op : Op R V) (h : Lives supply s) :
      Lives supply { s with speakers := s.speakers.step op }
  | emitProvisional (s : StreamingSession R V) (engine : FusionEngine R)
      (groups : List (WordGroup R)) (turns : List (SpeakerTurn R)) (h : Lives supply s) :
      Lives supply (StreamingSession.emitProvisional supply engine groups turns s).2
  | drainLabelRevisions (s : StreamingSession R V) (h : Lives supply s) :
      Lives supply (StreamingSession.drainLabelRevisions supply s).2
  | write (s : StreamingSession R V) (f : EventFields (EventPayload R)) (hf : f.isFinal = false)
      (h : Lives supply s) : Lives supply (onLog (EventWriter.write supply f) s).2
  | finalPass (s : StreamingSession R V) (secondPass : Except PyError (OfflineResult R))
      (h : Lives supply s) : Lives supply (StreamingSession.finalPass supply secondPass s).2

variable {s : StreamingSession R V}

/-- **The log of a session is one it wrote.** -/
theorem Lives.publishing (h : s.Lives supply) :
    ∃ sessionId, Publishing { sessionId } s.log := by
  have hnext : ∀ s t : StreamingSession R V, (∃ sessionId, Publishing { sessionId } s.log) →
      Publishing s.log t.log → ∃ sessionId, Publishing { sessionId } t.log :=
    fun s t ⟨sessionId, hs⟩ ht => ⟨sessionId, IsTrans.trans _ _ _ hs ht⟩
  induction h with
  | new sessionId => exact ⟨sessionId, Std.Refl.refl _⟩
  | buffer s n _ ih => exact ih
  | speakers s op _ ih => exact ih
  | emitProvisional s engine groups turns _ ih =>
    exact hnext _ _ ih (within_emitProvisional_publishing engine groups turns s)
  | drainLabelRevisions s _ ih => exact hnext _ _ ih (within_drainLabelRevisions_publishing s)
  | write s f hf _ ih =>
    refine hnext _ _ ih (within_onLog_write (fun hfinal => ?_) s)
    rw [hf] at hfinal
    cases hfinal
  | finalPass s secondPass _ ih => exact hnext _ _ ih (within_finalPass_publishing secondPass s)

/-- **When the result of a session is what was delivered**: when its log
still holds all finals, and the decoder reads all of each. -/
theorem Lives.servesFinals_iff (h : s.Lives supply) :
    s.ServesFinals ↔ ∀ e, s.DeliveredFinal e → s.Servable e := by
  obtain ⟨sessionId, calls, hcalls, hlog⟩ := h.publishing
  have hlog' : s.log = SessionEventLog.sessionLog sessionId 10000 calls := hlog
  have hrecounts := SessionEventLog.recounts_sessionLog sessionId 10000 calls
  have hretention := SessionEventLog.retention_sessionLog sessionId 10000 calls
  rw [← hlog'] at hrecounts hretention
  refine StreamingSession.servesFinals_iff hrecounts (by rw [hretention]; decide)
    (fun e he hfinal => ?_)
  obtain ⟨call, hmem, log, rfl⟩ := SessionEventLog.mem_sessionHistory he
  have hcall : call.fields.isFinal = true := hfinal
  obtain ⟨htype, ⟨key, hkey⟩, hpayload⟩ := hcalls call hmem hcall
  refine ⟨htype, ⟨key, ?_⟩, hpayload⟩
  show (if call.fields.isFinal then call.fields.dedupKey else none) = some key
  rw [if_pos hcall, hkey]

/-- **The canonical result is what was delivered just when nothing is lost on
the way**: of a segment what the decoder does not read, and of a session the
finals its log has dropped. -/
theorem result_canonical_iff (supply : Supply) :
    (∀ seg : TranscriptSegment R, seg.PublishedAgain ↔ seg.toPublicDict.Plain)
      ∧ ∀ s : StreamingSession R V, s.Lives supply →
        (s.ServesFinals ↔ ∀ e, s.DeliveredFinal e → s.Servable e) :=
  ⟨publishedAgain_iff, fun _ h => h.servesFinals_iff⟩

end Lives

/-! ### A segment with a model version -/

section Versions

theorem quietSession_lives : quietSession.Lives countingSupply :=
  .buffer _ 16000 (.new "session" {} "model" {} "config")

/-- A word of a recogniser of some version. -/
def recognisedFields (modelVersions : ModelVersions) : SegmentFields ℚ where
  sessionId := "session"
  eventId := "evt"
  startMs := 0
  endMs := 500
  text := "Yes."
  speakerId := "sess_spk_1"
  sessionSpeakerId := "sess_spk_1"
  identityStatus := .anonymous
  isFinal := true
  modelVersions

theorem recognisedFields_valid (modelVersions : ModelVersions) :
    (recognisedFields modelVersions).Valid := by
  constructor <;> simp [recognisedFields, IsConfidence]

/-- Its segment. -/
def recognisedBy (modelVersions : ModelVersions) : TranscriptSegment ℚ :=
  ⟨recognisedFields modelVersions, recognisedFields_valid modelVersions⟩

/-- The session that has published it. -/
def recognisedSession (modelVersions : ModelVersions) : StreamingSession ℚ ℚ :=
  (finalPass countingSupply (.ok (resultOf [recognisedBy modelVersions])) quietSession).2

theorem recognisedSession_lives (modelVersions : ModelVersions) :
    (recognisedSession modelVersions).Lives countingSupply :=
  .finalPass _ _ quietSession_lives

/-- It has one final event, which is in its log. -/
theorem finals_recognisedSession (modelVersions : ModelVersions) :
    (recognisedSession modelVersions).log.finalByDedupKey = Function.update (fun _ => none)
        (finalDedupKey (recognisedBy modelVersions))
        (recognisedSession modelVersions).log.events.getLast?
      ∧ (recognisedSession modelVersions).log.events.getLast?.map ServerEvent.payload
        = some (some (.segment (recognisedBy modelVersions).toPublicDict)) :=
  ⟨rfl, rfl⟩

/-- A recogniser that is known. -/
def largeV3 : ModelVersions := { asr := some "large-v3" }

/-- **The result does not say who recognised the words**, which the final
event did. -/
theorem result_loses_modelVersions :
    ¬ (recognisedBy largeV3).PublishedAgain
      ∧ (recognisedSession largeV3).Lives countingSupply
      ∧ ¬ (recognisedSession largeV3).ServesFinals := by
  have hplain : ¬ (recognisedBy largeV3).toPublicDict.Plain := by
    rintro ⟨-, -, -, -, -, -, -, -, h⟩
    revert h
    decide
  refine ⟨fun h => hplain ((publishedAgain_iff _).mp h), recognisedSession_lives _, fun h => ?_⟩
  obtain ⟨hfinals, hpayload⟩ := finals_recognisedSession largeV3
  obtain ⟨e, he, hsegment⟩ := Option.map_eq_some_iff.mp hpayload
  obtain ⟨-, p, hp, hservable⟩ := (recognisedSession_lives _).servesFinals_iff.mp h e
    ⟨_, by rw [hfinals, Function.update_self, he]⟩
  rw [hsegment] at hp
  cases hp
  exact hplain hservable

/-- Without it the segment is published again as it was, and the result of the
session is the final event. -/
theorem result_canonical_of_unversioned :
    (recognisedBy {}).PublishedAgain ∧ (recognisedSession {}).ServesFinals := by
  have h := result_canonical_iff (R := ℚ) (V := ℚ) countingSupply
  have hplain : (recognisedBy {}).toPublicDict.Plain :=
    ⟨rfl, rfl, rfl, rfl, rfl, rfl, rfl, rfl, rfl⟩
  refine ⟨(h.1 _).mpr hplain, (h.2 _ (recognisedSession_lives {})).mpr ?_⟩
  rintro e ⟨key, he⟩
  obtain ⟨hfinals, hpayload⟩ := finals_recognisedSession {}
  rw [hfinals, Function.update_apply] at he
  split at he
  · rw [he] at hpayload
    exact ⟨List.mem_of_getLast? he, _, Option.some.inj hpayload, hplain⟩
  · cases he

end Versions

end StreamingSession

end Sastt
