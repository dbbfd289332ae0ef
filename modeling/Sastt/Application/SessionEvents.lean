import Sastt.Application.FinalTranscript
import Sastt.Application.SessionLifecycle
import Sastt.Application.SpeakerLabels
import Sastt.Lib.Triples

/-!
# What a session says before its final pass

Every event of a session that has not been finalised is of one of two kinds
(`Uttered`): it is a provisional segment, which the session remembers under the
id of the event, or it says something about the session or its speakers. None
is a final segment, and none replaces another. `Said` is this as an invariant
of the session together with the events its client was told, and the triples
say that each method keeps it, adding the events it returns.
-/

namespace Sastt

open Method

variable {R V S : Type} [Field R] [LinearOrder R] [IsStrictOrderedRing R]

namespace StreamingSession

section

variable {supply : Supply} {s t : StreamingSession R V} {e : ServerEvent (EventPayload R)}
  {told : List (ServerEvent (EventPayload R))}

/-- **An event of a session that has not been finalised.** -/
structure Uttered (supply : Supply) (s : StreamingSession R V) (e : ServerEvent (EventPayload R)) :
    Prop where
  drawn : ∃ i < s.drawn, e.eventId = "evt_" ++ supply.ulid i
  notFinal : e.eventType ≠ .transcriptFinal
  supersedes : e.supersedesEventId = none
  /-- A provisional event is remembered. -/
  emitted : e.eventType = .transcriptProvisional → ∃ p ∈ s.emitted, p.eventId = e.eventId
  labels : ∀ change, e.payload = some (.labelChange change) → change.Plain

/-- **What a session has told its client** before it is finalised, and what it
remembers of it. -/
structure Said (supply : Supply) (told : List (ServerEvent (EventPayload R)))
    (s : StreamingSession R V) : Prop where
  wellFormed : s.WellFormed supply
  told : ∀ e ∈ told, Uttered supply s e
  logged : ∀ e ∈ s.log.events, Uttered supply s e
  nodup : (s.emitted.map Emitted.eventId).Nodup
  drawn : ∀ p ∈ s.emitted, ∃ i < s.drawn, p.eventId = "evt_" ++ supply.ulid i
  /-- No final segment was published. -/
  unfinished : ∀ key, s.log.finalByDedupKey key = none
  minted : Session.Minted supply.ulid ⟨s.speakers, s.drawn⟩
  labelled : s.speakers.Labelled

theorem Uttered.mono (h : Uttered supply s e) (hdrawn : s.drawn ≤ t.drawn)
    (hemitted : s.emitted ⊆ t.emitted) : Uttered supply t e where
  drawn := by
    obtain ⟨i, hi, hid⟩ := h.drawn
    exact ⟨i, hi.trans_le hdrawn, hid⟩
  notFinal := h.notFinal
  supersedes := h.supersedes
  emitted htype := by
    obtain ⟨p, hp, hid⟩ := h.emitted htype
    exact ⟨p, hemitted hp, hid⟩
  labels := h.labels

/-- No id of an event is empty. -/
theorem Said.eventId_ne_empty (h : Said supply told s) : ∀ p ∈ s.emitted, p.eventId ≠ "" := by
  intro p hp hempty
  obtain ⟨i, -, hid⟩ := h.drawn p hp
  have hlength := congrArg String.length (hempty.symm.trans hid)
  rw [String.length_append] at hlength
  exact (Nat.add_pos_left (show 0 < "evt_".length by decide) _).ne hlength

/-- The client may have been told less. -/
theorem Said.of_subset {less : List (ServerEvent (EventPayload R))} (h : Said supply told s)
    (hless : less ⊆ told) : Said supply less s :=
  { h with told := fun e he => h.told e (hless he) }

/-- It may be told what the log has. -/
theorem Said.append {more : List (ServerEvent (EventPayload R))} (h : Said supply told s)
    (hmore : ∀ e ∈ more, Uttered supply s e) : Said supply (told ++ more) s :=
  { h with told := fun e he => (List.mem_append.mp he).elim (h.told e) (hmore e) }

/-- What is done to the speakers is not heard. -/
theorem Said.of_session (h : Said supply told s) {speakers : SessionSpeakerState R V} {drawn : ℕ}
    (hspeakers : speakers.WellFormed) (hext : SessionSpeakerState.Extends s.speakers speakers)
    (hdrawn : s.drawn ≤ drawn) (hminted : Session.Minted supply.ulid ⟨speakers, drawn⟩)
    (hlabelled : speakers.Labelled) :
    Said supply told ({ s with speakers, drawn } : StreamingSession R V) where
  wellFormed := ⟨hspeakers, writer_mono h.wellFormed.writer hdrawn,
    fun p hp => hext.registered _ (h.wellFormed.emitted p hp)⟩
  told e he := (h.told e he).mono hdrawn (List.Subset.refl _)
  logged e he := (h.logged e he).mono hdrawn (List.Subset.refl _)
  nodup := h.nodup
  drawn p hp := by
    obtain ⟨i, hi, hid⟩ := h.drawn p hp
    exact ⟨i, hi.trans_le hdrawn, hid⟩
  unfinished := h.unfinished
  minted := hminted
  labelled := hlabelled

/-- Nor is audio. -/
theorem Said.buffer (h : Said supply told s) (n : ℕ) :
    Said supply told ({ s with bufferedSamples := n } : StreamingSession R V) where
  wellFormed := ⟨h.wellFormed.speakers, h.wellFormed.writer, h.wellFormed.emitted⟩
  told e he := (h.told e he).mono (le_refl _) (List.Subset.refl _)
  logged e he := (h.logged e he).mono (le_refl _) (List.Subset.refl _)
  nodup := h.nodup
  drawn := h.drawn
  unfinished := h.unfinished
  minted := h.minted
  labelled := h.labelled

/-- An event that is no final segment and replaces nothing. -/
structure Passing (f : EventFields (EventPayload R)) : Prop extends Notice f where
  supersedes : f.supersedesEventId = none

/-- An event that is no segment. -/
structure Remark (f : EventFields (EventPayload R)) : Prop extends Passing f where
  notProvisional : f.eventType ≠ .transcriptProvisional

theorem remark_revisionFields (s : StreamingSession R V) (change : LabelChange) :
    Remark (s.revisionFields change) :=
  ⟨⟨⟨draws_revisionFields s change, rfl, nofun⟩, rfl⟩, nofun⟩

/-- **One more event is told.** With a provisional event goes what the session
remembers of it. -/
theorem Said.write (h : Said supply told s) (hu : Function.Injective supply.ulid)
    {f : EventFields (EventPayload R)} (hf : Passing f)
    (hlabels : ∀ change, f.payload = some (.labelChange change) → change.Plain) :
    ∃ e, onLog (EventWriter.write supply f) s
        = (.ok e, { s with log := s.log.push f e, drawn := s.drawn + 1 })
      ∧ ∀ more : List Emitted, (∀ p ∈ more, p.eventId = e.eventId
          ∧ s.speakers.Registered p.sessionSpeakerId) → more.length ≤ 1 →
        (f.eventType = .transcriptProvisional → more ≠ []) →
        Said supply (told ++ [e])
          { s with log := s.log.push f e, drawn := s.drawn + 1, emitted := s.emitted ++ more } := by
  have hkey : f.finalKey = none := by
    unfold EventFields.finalKey
    rw [hf.notFinal]
    rfl
  have hfree : s.log.suppressedBy f = none := by
    unfold SessionEventLog.suppressedBy
    rw [hkey]
    rfl
  obtain ⟨e, hmade, hok⟩ := EventWriter.write_takes h.wellFormed.writer hu hf.toDraws hfree
  have htakes : EventWriter.Takes supply s.drawn f e :=
    hmade ▸ EventWriter.takes_nextEvent hf.toDraws _ _ _
  have hw := h.wellFormed.writer.write hf.toDraws
  rw [hok] at hw
  refine ⟨e, zoom_eq hok, fun more hmore hone hprovisional => ?_⟩
  set t : StreamingSession R V :=
    { s with log := s.log.push f e, drawn := s.drawn + 1, emitted := s.emitted ++ more }
  have hold : ∀ e', Uttered supply s e' → Uttered supply t e' := fun e' he' =>
    he'.mono (Nat.le_succ _) (List.subset_append_left _ _)
  have hnew : Uttered supply t e := by
    refine ⟨⟨s.drawn, Nat.lt_succ_self _, htakes.id⟩, ?_, ?_, fun htype => ?_, ?_⟩
    · rw [htakes.eventType]
      exact hf.eventType
    · rw [htakes.supersedes]
      exact hf.supersedes
    · rw [htakes.eventType] at htype
      obtain ⟨p, hp⟩ := List.exists_mem_of_ne_nil more (hprovisional htype)
      exact ⟨p, List.mem_append_right _ hp, (hmore p hp).1⟩
    · rw [htakes.payload]
      exact hlabels
  constructor
  · refine ⟨h.wellFormed.speakers, hw, fun p hp => ?_⟩
    exact (List.mem_append.mp hp).elim (h.wellFormed.emitted p) (fun hp => (hmore p hp).2)
  · intro e' he'
    rcases List.mem_append.mp he' with he' | he'
    · exact hold e' (h.told e' he')
    · rw [List.mem_singleton.mp he']
      exact hnew
  · intro e' he'
    rcases List.mem_append.mp (SessionEventLog.events_push_sublist.subset he') with he' | he'
    · exact hold e' (h.logged e' he')
    · rw [List.mem_singleton.mp he']
      exact hnew
  · show ((s.emitted ++ more).map Emitted.eventId).Nodup
    rw [List.map_append, List.nodup_append]
    refine ⟨h.nodup, ?_, fun id hid id' hid' => ?_⟩
    · obtain _ | ⟨p, _ | ⟨q, rest⟩⟩ := more
      · exact List.nodup_nil
      · exact List.nodup_singleton _
      · exact absurd hone (by simp)
    · obtain ⟨p, hp, rfl⟩ := List.mem_map.mp hid
      obtain ⟨q, hq, rfl⟩ := List.mem_map.mp hid'
      obtain ⟨i, hi, hpid⟩ := h.drawn p hp
      rw [hpid, (hmore q hq).1, htakes.id]
      exact fun heq => hi.ne (hu ((String.append_right_inj "evt_").mp heq))
  · intro p hp
    rcases List.mem_append.mp hp with hp | hp
    · obtain ⟨i, hi, hid⟩ := h.drawn p hp
      exact ⟨i, Nat.lt_succ_of_lt hi, hid⟩
    · exact ⟨s.drawn, Nat.lt_succ_self _, (hmore p hp).1.trans htakes.id⟩
  · intro key
    show (s.log.push f e).finalByDedupKey key = none
    rw [EventWriter.finalByDedupKey_push, if_neg (by rw [hkey]; exact nofun)]
    exact h.unfinished key
  · intro id hid
    obtain ⟨i, hi, hi'⟩ := h.minted id hid
    exact ⟨i, Nat.lt_succ_of_lt hi, hi'⟩
  · exact h.labelled

/-! ## Methods of a session -/

variable {E : PyError → StreamingSession R V → Prop}

/-- Writing an event that is no segment does not raise, and tells it. -/
theorem said_write (hu : Function.Injective supply.ulid) {f : EventFields (EventPayload R)}
    (hf : Remark f) (hlabels : ∀ change, f.payload = some (.labelChange change) → change.Plain) :
    Triple (Said (V := V) supply told) (onLog (EventWriter.write supply f))
      (fun e => Said supply (told ++ [e])) E := by
  refine triple_of_ok (fun s hs => ?_)
  obtain ⟨e, hok, hsaid⟩ := hs.write hu hf.toPassing hlabels
  have hsaid' := hsaid [] (fun p hp => absurd hp List.not_mem_nil) (Nat.zero_le 1)
    (fun htype => absurd htype hf.notProvisional)
  rw [List.append_nil] at hsaid'
  exact ⟨e, _, hok, hsaid'⟩

/-- Writing several events is writing one after the other. -/
theorem triple_writeAll {I : List (ServerEvent (EventPayload R)) → StreamingSession R V → Prop}
    {fs : List (EventFields (EventPayload R))}
    (h : ∀ f ∈ fs, ∀ es, Triple (I es) (onLog (EventWriter.write supply f))
      (fun e => I (es ++ [e])) E) :
    Triple (I []) (onLog (EventWriter.writeAll supply fs)) I E := by
  have hloop : onLog (V := V) (EventWriter.writeAll supply fs)
      = mapEach fs (fun f => onLog (EventWriter.write supply f)) := by
    unfold onLog EventWriter.writeAll
    exact zoom_mapEach (by intros; rfl) (by intros; rfl) (by intros; rfl) _ _
  rw [hloop]
  exact triple_mapEach h

/-- So does writing several. -/
theorem said_writeAll (hu : Function.Injective supply.ulid)
    {fs : List (EventFields (EventPayload R))}
    (hfs : ∀ f ∈ fs, Remark f)
    (hlabels : ∀ f ∈ fs, ∀ change, f.payload = some (.labelChange change) → change.Plain) :
    Triple (Said (V := V) supply told) (onLog (EventWriter.writeAll supply fs))
      (fun es => Said supply (told ++ es)) E := by
  refine (triple_writeAll (I := fun es => Said supply (told ++ es)) (fun f hf es => ?_)).weaken
    (fun s hs => by rwa [List.append_nil]) (fun _ _ hs => hs) (fun _ _ he => he)
  refine (said_write hu (hfs f hf) (hlabels f hf)).weaken (fun _ hs => hs) (fun e s hs => ?_)
    (fun _ _ he => he)
  rwa [List.append_assoc] at hs

/-- What is done to the speakers, with ids that are drawn for it, is not
heard. -/
theorem said_onSession {α : Type} [AddCommGroup V] [Module R V] [EmbeddingSpace R V]
    {m : Method PyError (Session R V) α} (hm : Within (Session.Calls supply.ulid Op.Plain) m) :
    Triple (Said supply told) (onSession m) (fun _ => Said supply told)
      (fun _ => Said supply told) := by
  have hsaid : ∀ s, Said supply told s →
      Said supply told (onSession m s).2 := by
    intro s hs
    have hcalls := hm ⟨s.speakers, s.drawn⟩
    obtain ⟨hwell, hext, hdrawn⟩ := hcalls.keeps hs.wellFormed.speakers
    exact hs.of_session hwell hext hdrawn (hcalls.minted hs.minted)
      (SessionSpeakerState.Labelled.calls (s := ⟨s.speakers, s.drawn⟩) hs.labelled hcalls)
  exact triple_of_snd hsaid

/-- Publishing the label changes tells the revisions. -/
theorem said_drainLabelRevisions (hu : Function.Injective supply.ulid) :
    Triple (Said (V := V) supply told) (drainLabelRevisions supply)
      (fun es => Said supply (told ++ es)) E := by
  refine triple_read (fun s hs => triple_bind
    (Q := fun changes t => (∀ change ∈ changes, change.Plain) ∧ Said supply told t)
    (triple_of_ok (fun t ht => ?_)) (fun changes => triple_of_prop (fun hplain =>
      said_writeAll hu (fun f hf => ?_) (fun f hf change hchange => ?_))))
  · obtain ⟨hwell, hkeeps⟩ := SessionSpeakerState.within_drainLabelChanges t.speakers
      ht.2.wellFormed.speakers
    exact ⟨_, _, rfl, ht.2.labelled.changes, ht.2.of_session hwell hkeeps.toExtends (le_refl _)
      ht.2.minted (SessionSpeakerState.labels_drainLabelChanges t.speakers ht.2.labelled)⟩
  · obtain ⟨change, -, rfl⟩ := List.mem_map.mp hf
    exact remark_revisionFields s change
  · obtain ⟨change', hmem, rfl⟩ := List.mem_map.mp hf
    cases hchange
    exact hplain _ hmem

/-- Publishing a provisional segment tells it, and remembers it. -/
theorem said_emitSegment (hu : Function.Injective supply.ulid) (segment : TranscriptSegment R)
    {K : SessionSpeakerState R V → Prop}
    (hK : ∀ st, K st → st.Registered segment.sessionSpeakerId) :
    Triple (fun s => Said supply told s ∧ K s.speakers) (emitSegment supply segment)
      (fun e s => Said supply (told ++ [e]) s ∧ K s.speakers) E := by
  refine triple_of_ok (fun s hs => ?_)
  have hpassing : Passing (s.provisionalFields segment) := ⟨⟨⟨rfl, le_refl 1⟩, rfl, nofun⟩, rfl⟩
  obtain ⟨e, hok, hsaid⟩ := hs.1.write hu hpassing nofun
  unfold emitSegment
  rw [read_bind, bind_of_ok hok]
  refine ⟨e, _, rfl, hsaid [_] (fun p hp => ?_) (le_refl 1) (fun _ => List.cons_ne_nil _ _), hs.2⟩
  rw [List.mem_singleton.mp hp]
  exact ⟨rfl, hK _ hs.2⟩

/-- The final pass raises only when the second pass has, and then nothing was
heard of it. -/
theorem said_finalPass (hu : Function.Injective supply.ulid)
    (secondPass : Except PyError (OfflineResult R)) :
    Triple (Said (V := V) supply told) (finalPass supply secondPass) (fun _ _ => True)
      (fun _ s => secondPass.isOk = false ∧ Said supply told s) := by
  intro s hs
  refine ⟨fun _ _ _ => trivial, fun e t hraised => ?_⟩
  cases secondPass with
  | ok result =>
    rcases Nat.eq_zero_or_pos s.bufferedSamples with hnone | hsome
    · unfold finalPass at hraised
      rw [read_bind, if_pos hnone] at hraised
      cases hraised
    · obtain ⟨events, t', _, hok, -⟩ := finalPass_run hs.wellFormed hu hsome result
      rw [hok] at hraised
      cases hraised
  | error e' =>
    have hstays : (finalPass supply (.error e') s).2 = s := by
      unfold finalPass
      rw [read_bind]
      split <;> rfl
    rw [hraised] at hstays
    exact ⟨rfl, (show t = s from hstays).symm ▸ hs⟩

variable [AddCommGroup V] [Module R V] [EmbeddingSpace R V]

/-- Fusing is not heard, and the speakers of the segments are registered. -/
theorem said_fuse (engine : FusionEngine R) (groups : List (WordGroup R))
    (turns : List (SpeakerTurn R)) :
    Triple (Said (V := V) supply told)
      (onSession (engine.fuse supply.ulid groups turns false 1 none))
      (fun segments s => Said supply told s
        ∧ ∀ seg ∈ sortSegments segments, s.speakers.Registered seg.sessionSpeakerId)
      (fun _ => Said supply told) := by
  have hcalls := @said_onSession R V _ _ _ supply told _ _ _ _ _
    ((Session.steps_calls supply.ulid).fuse (V := V) engine turns groups false 1 none)
  intro s hs
  refine ⟨fun segments t hok => ⟨hcalls.ok hs hok, fun seg hseg => ?_⟩, fun _ _ => hcalls.error hs⟩
  obtain ⟨t', hfused, rfl⟩ := zoom_eq_ok hok
  obtain ⟨us, _, -, hsegments⟩ := FusionEngine.fuse_spec hs.wellFormed.speakers hfused
  obtain ⟨_, -, -, -, hreg, -⟩ := exists_of_forall₂ hsegments
    ((List.perm_insertionSort _ _).mem_iff.mp hseg)
  exact hreg

omit [AddCommGroup V] [Module R V] [EmbeddingSpace R V] in
/-- Publishing segments of registered speakers does not raise, and tells them. -/
theorem said_emitAll (hu : Function.Injective supply.ulid) (segments : List (TranscriptSegment R)) :
    Triple (fun s : StreamingSession R V => Said supply told s
        ∧ ∀ seg ∈ segments, s.speakers.Registered seg.sessionSpeakerId)
      (mapEach segments (emitSegment supply)) (fun es => Said supply (told ++ es)) E := by
  refine (triple_mapEach (I := fun es s => Said supply (told ++ es) s
      ∧ ∀ seg ∈ segments, s.speakers.Registered seg.sessionSpeakerId)
    (fun seg hseg es => ?_)).weaken (fun s hs => by rwa [List.append_nil]) (fun _ _ hs => hs.1)
    (fun _ _ he => he)
  simp only [← List.append_assoc]
  exact said_emitSegment (K := fun st => ∀ seg ∈ segments, st.Registered seg.sessionSpeakerId) hu
    seg (fun st hst => hst seg hseg)

/-- **Publishing a window** tells its provisional segments. -/
theorem said_emitProvisional (hu : Function.Injective supply.ulid) (engine : FusionEngine R)
    (groups : List (WordGroup R)) (turns : List (SpeakerTurn R)) :
    Triple (Said (V := V) supply told) (emitProvisional supply engine groups turns)
      (fun es => Said supply (told ++ es)) (fun _ => Said supply told) :=
  triple_bind (said_fuse engine groups turns) (fun _ => said_emitAll hu _)

end

end StreamingSession

namespace RollingSession

open StreamingSession

variable {c : StreamingContext R} {told : List (ServerEvent (EventPayload R))}

/-- A method of what was a session before it listened. -/
theorem triple_onStreaming {α : Type} {P : StreamingSession R V → Prop}
    {m : Method PyError (StreamingSession R V) α} {Q : α → StreamingSession R V → Prop}
    {E : PyError → StreamingSession R V → Prop} (h : Triple P m Q E) :
    Triple (fun s : RollingSession R V S => P s.toStreamingSession) (onStreaming m)
      (fun a s => Q a s.toStreamingSession) (fun e s => E e s.toStreamingSession) := by
  unfold onStreaming
  exact h.zoom (by intros; rfl)

/-- A change of the audio and the marks is not heard. -/
theorem said_modify {f : RollingSession R V S → RollingSession R V S}
    {E : PyError → RollingSession R V S → Prop}
    (hf : ∀ s, (f s).toStreamingSession = s.toStreamingSession) :
    Triple (fun s => Said c.supply told s.toStreamingSession) (modify f)
      (fun _ s => Said c.supply told s.toStreamingSession) E :=
  triple_modify (fun s hs => by rwa [hf])

/-- Nor are models that raise. -/
theorem said_ofExcept {α : Type} (x : Except PyError α) :
    Triple (fun s : RollingSession R V S => Said c.supply told s.toStreamingSession) (ofExcept x)
      (fun _ s => Said c.supply told s.toStreamingSession)
      (fun _ s => Said c.supply told s.toStreamingSession) :=
  triple_ofExcept (fun _ _ _ hs => hs) (fun _ _ _ hs => hs)

/-- A session nobody has spoken in has told nothing. -/
theorem said_new (modelVersions : ModelVersions) (embeddingModelVersion : String) :
    Said c.supply []
      (new (V := V) (S := S) c modelVersions embeddingModelVersion).toStreamingSession where
  wellFormed := ⟨SessionSpeakerState.wellFormed_new _ _ _, ⟨SessionEventLog.wellFormed_new _ _,
    fun key hkey => absurd hkey (Finset.notMem_empty key)⟩, fun _ he => absurd he List.not_mem_nil⟩
  told _ he := absurd he List.not_mem_nil
  logged _ he := absurd he List.not_mem_nil
  nodup := List.nodup_nil
  drawn _ hp := absurd hp List.not_mem_nil
  unfinished _ := rfl
  minted _ h := absurd h List.not_mem_nil
  labelled := SessionSpeakerState.labelled_new _ _ _

variable [AddCommGroup V] [Module R V] [EmbeddingSpace R V]

/-- The crops of a step make plain calls. -/
theorem calls_closedGroups (models : RollingModels R V S) (p : OfflinePipeline R)
    (closes : ℕ → Bool) (mono : AudioBuffer S) (diarization : DiarizationResult R)
    (regions : List (OverlapRegion R)) (emittedUntilMs : ℕ) (interval : TimeInterval) :
    Within (Session.Calls c.supply.ulid Op.Plain)
      (closedGroups (V := V) c models p closes mono diarization regions emittedUntilMs
        interval) := by
  refine within_bind (within_ofExcept _) (fun pending => within_bind (within_ofExcept _)
    (fun alone => within_bind (within_mapEach (fun region _ => ?_)) (fun _ => within_pure _)))
  dsimp only
  unfold regionGroups
  split
  · exact within_pure _
  · split
    · exact within_pure _
    · exact within_bind (OfflinePipeline.calls_handleOverlapRegion _) (fun _ => within_pure _)

/-- The language is not heard. -/
theorem said_resolveLanguage (models : RollingModels R V S) (mono : AudioBuffer S)
    (speech : List TimeInterval) :
    Triple (fun s => Said c.supply told s.toStreamingSession)
      (resolveLanguage (V := V) c models mono speech)
      (fun _ s => Said c.supply told s.toStreamingSession)
      (fun _ s => Said c.supply told s.toStreamingSession) :=
  triple_read (fun _ _ => triple_bind
    (triple_ofExcept (fun _ _ _ ht => ht.2) (fun _ _ _ ht => ht.2))
    (fun _ => said_modify (fun _ => rfl)))

/-- Publishing closed speech tells its provisional segments. -/
theorem said_publish (hu : Function.Injective c.supply.ulid) (closed : List TimeInterval)
    (turns : List (SpeakerTurn R)) (calls : List (List (WordGroup R))) :
    Triple (fun s : RollingSession R V S => Said c.supply told s.toStreamingSession)
      (publish c closed turns calls)
      (fun es s => Said c.supply (told ++ es) s.toStreamingSession)
      (fun _ s => Said c.supply told s.toStreamingSession) := by
  refine triple_read (fun s hs => triple_bind
    (Q := fun es t => Said c.supply (told ++ es) t.toStreamingSession) ?_ (fun es => ?_))
  · exact (triple_onStreaming (said_emitProvisional hu _ _ turns)).weaken (fun t ht => ht.2)
      (fun _ _ ht => ht) (fun _ _ ht => ht)
  · exact triple_bind (said_modify (fun _ => rfl)) (fun _ => triple_pure (fun t ht => ht))

/-- **A rolling step** tells what it returns. -/
theorem said_process (hu : Function.Injective c.supply.ulid) (models : RollingModels R V S)
    (forceClose : Bool) :
    Triple (fun s => Said c.supply told s.toStreamingSession) (process c models forceClose)
      (fun es s => Said c.supply (told ++ es) s.toStreamingSession)
      (fun _ s => Said c.supply told s.toStreamingSession) := by
  have hcalls {α : Type} {m : Method PyError (Session R V) α}
      (hm : Within (Session.Calls c.supply.ulid Op.Plain) m) :
      Triple (fun s : RollingSession R V S => Said c.supply told s.toStreamingSession)
        (onSession m) (fun _ s => Said c.supply told s.toStreamingSession)
        (fun _ s => Said c.supply told s.toStreamingSession) :=
    triple_onStreaming (said_onSession hm)
  refine triple_bind (said_modify (fun _ => rfl)) (fun _ => triple_read (fun s hs => ?_))
  split
  · exact triple_pure (fun t ht => by rw [List.append_nil]; exact ht.2)
  · refine triple_bind (triple_ofExcept (fun _ _ t ht => ht.2) (fun _ _ t ht => ht.2))
      (fun diarization => triple_bind (said_ofExcept _) (fun osd => triple_bind
        (hcalls (Session.within_buildGlobalSpeakers _ _ _ _ _)) (fun _ => triple_bind
        (said_ofExcept _) (fun speech => triple_bind (said_resolveLanguage _ _ _)
        (fun _ => triple_read (fun t ht => ?_))))))
    dsimp only
    split
    · exact (triple_onStreaming (said_drainLabelRevisions hu)).weaken (fun _ hs => hs.2)
        (fun _ _ hs => hs) (fun _ _ hs => hs)
    · refine triple_bind ((hcalls (within_mapEach (fun x _ =>
        calls_closedGroups _ _ _ _ _ _ _ _))).weaken
        (fun _ hs => hs.2) (fun _ _ hs => hs) (fun _ _ hs => hs)) (fun calls =>
          triple_bind (said_publish hu _ _ _) (fun events => triple_bind
          (triple_onStreaming (said_drainLabelRevisions hu)) (fun changes =>
            triple_pure (fun u hu => ?_))))
      rwa [← List.append_assoc]

/-! ## Runs -/

/-- A command, with the events it returns. -/
def perform (c : StreamingContext R) : SessionCommand R V S →
    Method PyError (RollingSession R V S) (List (ServerEvent (EventPayload R)))
  | .start => do return [← start c]
  | .push models frame => push c models frame
  | .finalize models secondPass => finalize c models secondPass
  | .fail errorCode message => do return [← fail c errorCode message]
  | .replay lastSequenceNumber => replay lastSequenceNumber

/-- The events a client is sent for a command: none, if it raises. -/
def reply (c : StreamingContext R) (s : RollingSession R V S) (command : SessionCommand R V S) :
    List (ServerEvent (EventPayload R)) :=
  match (perform c command s).1 with
  | .ok events => events
  | .error _ => []

/-- **The events a client is sent** in the course of a run. -/
def sent (c : StreamingContext R) (s : RollingSession R V S) :
    List (SessionCommand R V S) → List (ServerEvent (EventPayload R))
  | [] => []
  | command :: commands => reply c s command ++ sent c (step c s command) commands

theorem step_eq_perform (s : RollingSession R V S) (command : SessionCommand R V S) :
    step c s command = (perform c command s).2 := by
  cases command with
  | start => exact (bind_pure_snd _ s).symm
  | fail errorCode message => exact (bind_pure_snd _ s).symm
  | push | finalize | replay => rfl

/-- A session that has been finalised stays so. -/
theorem isFinalized_perform {s : RollingSession R V S} (h : s.isFinalized = true)
    (command : SessionCommand R V S) : (perform c command s).2.isFinalized = true := by
  cases command with
  | start =>
    refine (bind_pure_snd _ s).symm ▸ ?_
    unfold start
    rw [read_bind]
    split <;> exact h
  | push models frame =>
    show (push c models frame s).2.isFinalized = true
    unfold push
    rw [read_bind]
    split
    · exact h
    · rw [modify_bind, read_bind]
      split
      · exact (talks_process models false _).isFinalized.trans h
      · exact h
  | finalize models secondPass =>
    show (finalize c models secondPass s).2.isFinalized = true
    unfold finalize
    rw [read_bind, if_pos h]
    exact h
  | fail errorCode message =>
    exact (bind_pure_snd _ s).symm ▸ h
  | replay lastSequenceNumber => exact h

/-- What comes after a last command is told by it, unless the session is
finalised. -/
def Heard (c : StreamingContext R) (told : List (ServerEvent (EventPayload R)))
    (s : RollingSession R V S) : Prop :=
  s.isFinalized = true ∨ Said c.supply told s.toStreamingSession

/-- **A command tells what it returns**, unless it finalises the session. -/
theorem heard_perform (hu : Function.Injective c.supply.ulid) (command : SessionCommand R V S) :
    Triple (fun s => Said c.supply told s.toStreamingSession) (perform c command)
      (fun es => Heard c (told ++ es)) (fun _ => Heard c told) := by
  have hwrite {f : EventFields (EventPayload R)} (hf : Remark f)
      (hlabels : ∀ change, f.payload = some (.labelChange change) → change.Plain) :
      Triple (fun s : RollingSession R V S => Said c.supply told s.toStreamingSession)
        (onStreaming (onLog (EventWriter.write c.supply f)))
        (fun e => Heard c (told ++ [e])) (fun _ => Heard c told) :=
    (triple_onStreaming (said_write (E := fun _ => Said c.supply told) hu hf hlabels)).weaken
      (fun _ hs => hs) (fun _ _ hs => Or.inr hs) (fun _ _ hs => Or.inr hs)
  cases command with
  | start =>
    refine triple_bind (Q := fun e => Heard c (told ++ [e])) (triple_read (fun s hs => ?_))
      (fun e => triple_pure (fun s hs => hs))
    split
    · exact triple_throw (fun t ht => Or.inr ht.2)
    · have hstarted : Remark (s.startedFields c) :=
        ⟨⟨⟨⟨rfl, le_refl 1⟩, rfl, nofun⟩, rfl⟩, nofun⟩
      exact triple_bind (Q := fun _ t => Said c.supply told t.toStreamingSession)
        (triple_modify (fun _ ht => ht.2)) (fun _ => hwrite hstarted nofun)
  | push models frame =>
    have hprocess : Triple (fun s => Said c.supply told s.toStreamingSession)
        (process c models false) (fun es => Heard c (told ++ es)) (fun _ => Heard c told) :=
      (said_process hu models false).weaken (fun _ hs => hs) (fun _ _ hs => Or.inr hs)
        (fun _ _ hs => Or.inr hs)
    refine triple_read (fun s hs => ?_)
    split
    · exact triple_throw (fun t ht => Or.inr ht.2)
    · refine triple_bind (Q := fun _ t => Said c.supply told t.toStreamingSession)
        (triple_modify (fun t ht => ht.2.buffer _)) (fun _ => triple_read (fun t ht => ?_))
      split
      · exact hprocess.weaken (fun _ hs => hs.2) (fun _ _ hs => hs) (fun _ _ hs => hs)
      · exact triple_pure (fun u hu => Or.inr (by rw [List.append_nil]; exact hu.2))
  | finalize models secondPass =>
    refine triple_read (fun s hs => ?_)
    split
    · exact triple_pure (fun t ht => Or.inr (by rw [List.append_nil]; exact ht.2))
    · refine triple_bind (Q := fun _ t => Said c.supply told t.toStreamingSession)
        (triple_modify (fun _ ht => ht.2)) (fun _ =>
          triple_bind ((said_process hu models true).weaken (fun _ ht => ht) (fun _ _ ht => ht)
          (fun _ _ ht => Or.inr ht)) (fun last =>
            triple_bind (Q := fun _ _ => True) ?_ (fun finals =>
        triple_bind (Q := fun _ t => t.isFinalized = true) (triple_modify (fun _ _ => rfl))
          (fun _ =>
        triple_read (fun t ht => triple_bind (Q := fun _ t => t.isFinalized = true) ?_ (fun _ =>
          triple_pure (fun _ ht => Or.inl ht)))))))
      · refine (triple_onStreaming (said_finalPass hu secondPass)).weaken (fun _ ht => ht)
          (fun _ _ _ => trivial) (fun _ t ht => Or.inr ?_)
        exact ht.2.of_subset (List.subset_append_left _ _)
      · exact (triple_of_snd (I := fun u => u.isFinalized = true) (fun _ hu => hu.2)).weaken
          (fun _ hu => hu) (fun _ _ hu => hu) (fun _ _ hu => Or.inl hu)
  | fail errorCode message =>
    have hfailed : Remark (failedFields c errorCode message) :=
      ⟨⟨⟨⟨rfl, le_refl 1⟩, rfl, nofun⟩, rfl⟩, nofun⟩
    exact triple_bind (Q := fun e => Heard c (told ++ [e])) (triple_bind
      (Q := fun _ t => Said c.supply told t.toStreamingSession) (triple_modify (fun _ ht => ht))
      (fun _ => hwrite hfailed nofun)) (fun e => triple_pure (fun s hs => hs))
  | replay lastSequenceNumber =>
    refine triple_read (fun s hs => triple_ofExcept (fun es hes t ht => Or.inr ?_)
      (fun _ _ t ht => Or.inr ht.2))
    obtain ⟨rfl, ht⟩ := ht
    exact ht.append (fun e he => ht.logged e (SessionEventLog.mem_of_replayFrom hes he))

/-- What the client of a session that has not been finalised was sent. -/
theorem said_sent (hu : Function.Injective c.supply.ulid) {s : RollingSession R V S}
    (hs : Said c.supply told s.toStreamingSession) {commands : List (SessionCommand R V S)}
    (hopen : (commands.foldl (step c) s).isFinalized = false) :
    Said c.supply (told ++ sent c s commands) (commands.foldl (step c) s).toStreamingSession := by
  induction commands generalizing s told with
  | nil => rwa [sent, List.append_nil]
  | cons command commands ih =>
    have hheard : Heard c (told ++ reply c s command) (step c s command) := by
      rw [step_eq_perform]
      unfold reply
      rcases hrun : perform c command s with ⟨e | events, t⟩
      · rw [List.append_nil]
        exact (heard_perform hu command).error hs hrun
      · exact (heard_perform hu command).ok hs hrun
    rcases hheard with hfinal | hsaid
    · have hstays : ∀ commands : List (SessionCommand R V S), ∀ t : RollingSession R V S,
          t.isFinalized = true → (commands.foldl (step c) t).isFinalized = true := by
        intro commands
        induction commands with
        | nil => exact fun t ht => ht
        | cons command commands ih =>
          refine fun t ht => ih _ ?_
          rw [step_eq_perform]
          exact isFinalized_perform ht command
      exact absurd (hstays commands _ hfinal) (Bool.eq_false_iff.mp hopen)
    · have hrest := ih hsaid hopen
      rwa [List.append_assoc] at hrest

end RollingSession

end Sastt
