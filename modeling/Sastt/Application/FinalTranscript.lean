import Sastt.Application.StreamingFinal

/-!
# The final transcript reaches the client

What `finalPass` publishes, in every session that streaming can lead to
(`StreamingSession.Reachable`). The pass always returns: the provisionals it
replaces are those of speakers the session knows, and every id it draws is
new. It writes one list of events to the log (`finalEvents`), of which only
the finals have a deduplication key, so `EventWriter.writeAll_spec` says when
all of them are appended.
-/

namespace Sastt

open Method

variable {R V : Type} [Field R] [LinearOrder R] [IsStrictOrderedRing R]

namespace SessionSpeakerState

variable {st : SessionSpeakerState R V} {id : String}

/-- **Promoting a registered speaker does not fail.** -/
theorem promoteProvisional_ok (h : st.WellFormed) (hid : st.Registered id) (reason : String)
    (label : Option String) :
    ∃ change st', promoteProvisional id reason label st = (.ok change, st') := by
  obtain ⟨speaker, hget, hs, hroot, -⟩ := h.get_of_registered hid
  rw [← hroot] at hs
  unfold promoteProvisional
  rw [read_bind, hget, ofExcept_ok_bind]
  by_cases hp : speaker.state = .provisional
  · have hcan : IdentityState.sessionAnonymous ∈ speaker.state.allowedTransitions := by
      rw [hp]
      decide
    rw [if_neg (not_not.mpr hp), bind_of_ok (transition_of_can hs hcan reason)]
    cases label with
    | some label => exact ⟨_, _, rfl⟩
    | none => exact ⟨_, _, rfl⟩
  · rw [if_pos hp]
    exact ⟨_, _, rfl⟩

end SessionSpeakerState

namespace StreamingSession

open SessionSpeakerState

/-! ## The speakers of the pass -/

section Speakers

variable {st : SessionSpeakerState R V}

/-- The promotion of `reconcileReplaced`. -/
theorem promote_ok (h : st.WellFormed) {id : String} (hid : st.Registered id)
    (reason label : String) :
    ∃ st', (promoteProvisional id reason (some label) >>= fun _ => pure ()) st = (.ok (), st')
      ∧ st'.WellFormed ∧ Extends st st' := by
  obtain ⟨change, st', hok⟩ := promoteProvisional_ok h hid reason (some label)
  have hkeeps := within_promoteProvisional id reason (some label) st h
  rw [hok] at hkeeps
  exact ⟨st', bind_of_ok hok, hkeeps.1, hkeeps.2.toExtends⟩

/-- **Reconciling a replaced provisional does not fail.** -/
theorem reconcileReplaced_ok (h : st.WellFormed) {prior : Emitted}
    (hprior : st.Registered prior.sessionSpeakerId) (segment : TranscriptSegment R) :
    ∃ st', reconcileReplaced prior segment st = (.ok (), st') ∧ st'.WellFormed
      ∧ Extends st st' := by
  obtain ⟨speaker, hget, hs, hroot, hm⟩ := h.get_of_registered hprior
  rw [← hroot] at hs
  have hpromote := promote_ok h hprior "final_pass_reconciliation" segment.speakerLabel
  unfold reconcileReplaced
  rw [read_bind, hget, ofExcept_ok_bind]
  split
  · cases hfind : st.active.find? (fun c => c.sessionSpeakerId != speaker.sessionSpeakerId
        && c.state != .provisional && c.displayLabel == segment.speakerLabel) with
    | none => exact hpromote
    | some target =>
      obtain ⟨ht, htm⟩ := h.mem_active.mp (List.mem_of_find?_eq_some hfind)
      have hsource := h.get_of_root hs hm
      have htarget := h.get_of_root ht htm
      simp only [canMerge_of_get hsource htarget, ofExcept_ok_bind]
      by_cases hallow : MergeAllowed speaker target
      · obtain ⟨_, st', hok, h', -, -, hext, -⟩ :=
          merge_of_allowed h hsource htarget hallow "final_pass_reconciliation"
        rw [decide_eq_true hallow, if_pos rfl, bind_of_ok hok]
        exact ⟨st', rfl, h', hext⟩
      · rw [decide_eq_false hallow]
        exact hpromote
  · exact ⟨st, rfl, h, Extends.refl st⟩

/-- A provisional that is replaced is one that was emitted. -/
theorem replace_ok (h : st.WellFormed) {emitted : List Emitted}
    (hemitted : ∀ e ∈ emitted, st.Registered e.sessionSpeakerId) (segment : TranscriptSegment R)
    (superseded : String) :
    ∃ st', replace emitted segment superseded st = (.ok (), st') ∧ st'.WellFormed
      ∧ Extends st st' := by
  unfold replace
  cases hprior : emittedById emitted superseded with
  | none => exact ⟨st, rfl, h, Extends.refl st⟩
  | some prior =>
    have hmem := List.mem_of_mem_filter (List.mem_of_getLast? hprior)
    exact reconcileReplaced_ok h (hemitted prior hmem) segment

/-- **The first loop of the pass does not fail**, and drops no segment. -/
theorem prepare_ok (h : st.WellFormed) {emitted : List Emitted}
    (hemitted : ∀ e ∈ emitted, st.Registered e.sessionSpeakerId)
    (segments : List (TranscriptSegment R)) (used : Finset String) :
    ∃ prepared st', prepare emitted used segments st = (.ok prepared, st') ∧ st'.WellFormed
      ∧ Extends st st' ∧ prepared.map (fun p => p.1) = segments := by
  induction segments generalizing st used with
  | nil => exact ⟨[], st, rfl, h, Extends.refl st, rfl⟩
  | cons segment segments ih =>
    unfold prepare
    dsimp only
    split
    · obtain ⟨st₁, hok, h₁, hext⟩ := replace_ok h hemitted segment
        ((supersededEventId emitted segment used).getD "")
      obtain ⟨rest, st', hrest, h', hext', hsegments⟩ :=
        ih h₁ (fun e he => hext.registered _ (hemitted e he)) _
      refine ⟨(segment, supersededEventId emitted segment used) :: rest, st', ?_, h',
        hext.trans hext', by rw [List.map_cons, hsegments]⟩
      rw [bind_of_ok hok, bind_of_ok hrest]
      rfl
    · obtain ⟨rest, st', hrest, h', hext', hsegments⟩ := ih h hemitted used
      refine ⟨(segment, supersededEventId emitted segment used) :: rest, st', ?_, h',
        hext', by rw [List.map_cons, hsegments]⟩
      rw [bind_of_ok hrest]
      rfl

end Speakers

/-! ## Well-formed sessions -/

/-- **What every session keeps**: its speakers and its log are well formed,
and the provisionals it delivered are those of its speakers. -/
structure WellFormed (supply : Supply) (s : StreamingSession R V) : Prop where
  speakers : s.speakers.WellFormed
  writer : s.writer.WellFormed supply
  emitted : ∀ e ∈ s.emitted, s.speakers.Registered e.sessionSpeakerId

variable {supply : Supply} {s s' : StreamingSession R V}

omit [Field R] [LinearOrder R] [IsStrictOrderedRing R] in
/-- Draws that nothing was written with do no harm. -/
theorem writer_mono {log : SessionEventLog (EventPayload R)} {n m : ℕ}
    (hw : (⟨log, n⟩ : EventWriter (EventPayload R)).WellFormed supply) (hle : n ≤ m) :
    (⟨log, m⟩ : EventWriter (EventPayload R)).WellFormed supply where
  log := hw.log
  drawn key hkey := by
    obtain ⟨i, hi, hid⟩ := hw.drawn key hkey
    exact ⟨i, lt_of_lt_of_le hi hle, hid⟩

/-- Speakers that are only added to keep the session well formed. -/
theorem WellFormed.of_speakers (h : s.WellFormed supply) {st : SessionSpeakerState R V}
    (hst : st.WellFormed) (hext : Extends s.speakers st) :
    ({ s with speakers := st } : StreamingSession R V).WellFormed supply where
  speakers := hst
  writer := h.writer
  emitted e he := hext.registered _ (h.emitted e he)

/-- Writing to the log keeps the session well formed. -/
theorem WellFormed.write (h : s.WellFormed supply) {f : EventFields (EventPayload R)}
    (hf : EventWriter.Draws f) :
    (onLog (EventWriter.write supply f) s).2.WellFormed supply where
  speakers := h.speakers
  writer := h.writer.write hf
  emitted := h.emitted

/-- Writing a list of events does not fail. -/
theorem WellFormed.writeAll (h : s.WellFormed supply) (hu : Function.Injective supply.ulid)
    (fs : List (EventFields (EventPayload R))) (hfs : ∀ f ∈ fs, EventWriter.Draws f) :
    ∃ events s', onLog (EventWriter.writeAll supply fs) s = (.ok events, s')
      ∧ s'.WellFormed supply ∧ s'.speakers = s.speakers ∧ s'.emitted = s.emitted
      ∧ EventWriter.writeAll supply fs s.writer = (.ok events, s'.writer) := by
  obtain ⟨events, w', hok, hw', -⟩ := EventWriter.writeAll_spec h.writer hu hfs
  refine ⟨events, { s with log := w'.log, drawn := w'.drawn }, ?_, ⟨h.speakers, hw', h.emitted⟩,
    rfl, rfl, hok⟩
  show ((EventWriter.writeAll supply fs s.writer).1, _) = _
  rw [hok]

theorem draws_revisionFields (s : StreamingSession R V) (change : LabelChange) :
    EventWriter.Draws (s.revisionFields change) := ⟨rfl, Nat.le_succ 1⟩

/-- The fields of the revisions that publish the label changes of a
session. -/
def revisions (s : StreamingSession R V) : List (EventFields (EventPayload R)) :=
  s.speakers.pendingLabelChanges.map s.revisionFields

/-- **Publishing the label changes does not fail.** -/
theorem WellFormed.drainLabelRevisions (h : s.WellFormed supply)
    (hu : Function.Injective supply.ulid) :
    ∃ events s', StreamingSession.drainLabelRevisions supply s = (.ok events, s')
      ∧ s'.WellFormed supply ∧ Extends s.speakers s'.speakers ∧ s'.emitted = s.emitted
      ∧ EventWriter.writeAll supply s.revisions s.writer = (.ok events, s'.writer) := by
  have hdrain := within_drainLabelChanges s.speakers h.speakers
  have h₁ := h.of_speakers hdrain.1 hdrain.2.toExtends
  obtain ⟨events, s', hok, h', hspeakers, hemitted, hwritten⟩ := h₁.writeAll hu
    s.revisions (fun f hf => by
      obtain ⟨change, -, rfl⟩ := List.mem_map.mp hf
      exact draws_revisionFields s change)
  refine ⟨events, s', hok, h', ?_, hemitted, hwritten⟩
  rw [hspeakers]
  exact hdrain.2.toExtends

/-- Publishing a provisional segment of a speaker of the session keeps the
session well formed. -/
theorem WellFormed.emitSegment (h : s.WellFormed supply) {segment : TranscriptSegment R}
    (hreg : s.speakers.Registered segment.sessionSpeakerId) :
    (StreamingSession.emitSegment supply segment s).2.WellFormed supply
      ∧ (StreamingSession.emitSegment supply segment s).2.speakers = s.speakers := by
  have hw := h.write (f := s.provisionalFields segment) ⟨rfl, le_refl 1⟩
  unfold StreamingSession.emitSegment
  rw [read_bind]
  rcases hone : onLog (EventWriter.write supply (s.provisionalFields segment)) s with ⟨e | event, t⟩
  · have ht : t = (onLog (EventWriter.write supply (s.provisionalFields segment)) s).2 := by
      rw [hone]
    rw [bind_of_error hone, ht]
    exact ⟨hw, rfl⟩
  · have ht : t = (onLog (EventWriter.write supply (s.provisionalFields segment)) s).2 := by
      rw [hone]
    rw [bind_of_ok hone, ht]
    refine ⟨⟨hw.speakers, hw.writer, fun e he => ?_⟩, rfl⟩
    rcases List.mem_append.mp he with he | he
    · exact h.emitted e he
    · rw [List.mem_singleton.mp he]
      exact hreg

/-- So does publishing a list of them. -/
theorem WellFormed.emitAll (h : s.WellFormed supply) {segments : List (TranscriptSegment R)}
    (hreg : ∀ seg ∈ segments, s.speakers.Registered seg.sessionSpeakerId) :
    (mapEach segments (StreamingSession.emitSegment supply) s).2.WellFormed supply := by
  induction segments generalizing s with
  | nil => exact h
  | cons segment segments ih =>
    obtain ⟨h', hspeakers⟩ := h.emitSegment (hreg segment List.mem_cons_self)
    unfold mapEach
    rcases hone : StreamingSession.emitSegment supply segment s with ⟨e | event, t⟩ <;>
      rw [hone] at h' hspeakers
    · rw [bind_of_error hone]
      exact h'
    · rw [bind_of_ok hone]
      have hrest := ih h' (fun seg hseg => by
        rw [hspeakers]
        exact hreg seg (List.mem_cons_of_mem segment hseg))
      rcases hall : mapEach segments (StreamingSession.emitSegment supply) t
        with ⟨e | events, u⟩ <;> rw [hall] at hrest
      · rw [bind_of_error hall]
        exact hrest
      · rw [bind_of_ok hall]
        exact hrest

/-- What fusion leaves of a well-formed session. -/
theorem WellFormed.of_fuses (h : s.WellFormed supply) {t : Session R V}
    (hfuses : Session.Fuses ⟨s.speakers, s.drawn⟩ t) :
    ({ s with speakers := t.speakers, drawn := t.drawn } : StreamingSession R V).WellFormed
      supply := by
  obtain ⟨hst, hq, -⟩ := hfuses.speakers h.speakers
  have hspeakers := h.of_speakers hst hq.toExtends
  exact ⟨hst, writer_mono hspeakers.writer hfuses.drawn, hspeakers.emitted⟩

/-- **Publishing a window keeps the session well formed**: its segments are
those of speakers fusion knows. -/
theorem WellFormed.emitProvisional (h : s.WellFormed supply) (engine : FusionEngine R)
    (groups : List (WordGroup R)) (turns : List (SpeakerTurn R)) :
    (StreamingSession.emitProvisional supply engine groups turns s).2.WellFormed supply := by
  have h' := h.of_fuses (FusionEngine.within_fuse engine supply.ulid turns groups false 1 none
    ⟨s.speakers, s.drawn⟩)
  unfold StreamingSession.emitProvisional
  rcases hfuse : engine.fuse supply.ulid groups turns false 1 none ⟨s.speakers, s.drawn⟩
    with ⟨e | segments, t⟩ <;> rw [hfuse] at h'
  · have hraise : onSession (engine.fuse supply.ulid groups turns false 1 none) s
        = (.error e, { s with speakers := t.speakers, drawn := t.drawn }) := by
      unfold onSession zoom
      rw [hfuse]
    rw [bind_of_error hraise]
    exact h'
  · have hreturn : onSession (engine.fuse supply.ulid groups turns false 1 none) s
        = (.ok segments, { s with speakers := t.speakers, drawn := t.drawn }) := by
      unfold onSession zoom
      rw [hfuse]
    obtain ⟨us, _, -, hsegments⟩ := FusionEngine.fuse_spec h.speakers hfuse
    rw [bind_of_ok hreturn]
    refine h'.emitAll (fun seg hseg => ?_)
    obtain ⟨u, -, -, -, hreg, -⟩ := exists_of_forall₂ hsegments
      ((List.perm_insertionSort _ _).mem_iff.mp hseg)
    exact hreg

section Reachable

variable [AddCommGroup V] [Module R V] [EmbeddingSpace R V]

/-- **The sessions streaming leads to**: speakers are moved by their methods,
windows are published, label changes are drained, and events are written to
the log in whatever order. -/
inductive Reachable (supply : Supply) : StreamingSession R V → Prop
  | new (sessionId : String) (config : SasttConfig R) (embeddingModelVersion : String)
      (modelVersions : ModelVersions) (configVersion : String) :
      Reachable supply { speakers := .new sessionId config embeddingModelVersion
                         log := { sessionId }
                         modelVersions, configVersion }
  | buffer (s : StreamingSession R V) (n : ℕ) (h : Reachable supply s) :
      Reachable supply { s with bufferedSamples := n }
  | speakers (s : StreamingSession R V) (op : Op R V) (h : Reachable supply s) :
      Reachable supply { s with speakers := s.speakers.step op }
  | emitProvisional (s : StreamingSession R V) (engine : FusionEngine R)
      (groups : List (WordGroup R)) (turns : List (SpeakerTurn R)) (h : Reachable supply s) :
      Reachable supply (StreamingSession.emitProvisional supply engine groups turns s).2
  | drainLabelRevisions (s : StreamingSession R V) (h : Reachable supply s) :
      Reachable supply (StreamingSession.drainLabelRevisions supply s).2
  | write (s : StreamingSession R V) (f : EventFields (EventPayload R))
      (hf : EventWriter.Draws f) (h : Reachable supply s) :
      Reachable supply (onLog (EventWriter.write supply f) s).2

/-- **Every session streaming leads to is well formed.** -/
theorem Reachable.wellFormed (hu : Function.Injective supply.ulid) (h : s.Reachable supply) :
    s.WellFormed supply := by
  induction h with
  | new sessionId config embeddingModelVersion modelVersions configVersion =>
    refine ⟨wellFormed_new _ _ _, ⟨SessionEventLog.wellFormed_new _ _, ?_⟩, ?_⟩
    · exact fun key hkey => absurd hkey (Finset.notMem_empty key)
    · exact fun e he => absurd he List.not_mem_nil
  | buffer s n _ ih => exact ⟨ih.speakers, ih.writer, ih.emitted⟩
  | speakers s op _ ih =>
    obtain ⟨hst, hext, -⟩ := step_cases ih.speakers op
    exact ih.of_speakers hst hext
  | emitProvisional s engine groups turns _ ih => exact ih.emitProvisional engine groups turns
  | drainLabelRevisions s _ ih =>
    obtain ⟨events, s', hok, h', -⟩ := ih.drainLabelRevisions hu
    rw [hok]
    exact h'
  | write s f hf _ ih => exact ih.write hf

end Reachable

/-! ## What the pass publishes -/

/-- The final events among those returned that the pass appended. -/
def appendedFinals (before : SessionEventLog (EventPayload R))
    (events : List (ServerEvent (EventPayload R))) : List (ServerEvent (EventPayload R)) :=
  events.filter (fun e => e.eventType = .transcriptFinal ∧ before.sequence < e.sequenceNumber)

/-- **The whole final transcript is published**: the final events appended
are one for each segment of the result, with its payload, and no event is
returned twice. -/
structure Publishes (before : SessionEventLog (EventPayload R)) (result : OfflineResult R)
    (events : List (ServerEvent (EventPayload R))) : Prop where
  payloads : ((appendedFinals before events).map (fun e => e.payload)).Perm
    (result.segments.map (fun seg => some (.segment seg.toPublicDict)))
  increasing : events.Pairwise (fun e e' => e.sequenceNumber < e'.sequenceNumber)

/-- **No two segments of the result have the same deduplication key**, and
no earlier final event of the session has one of them. -/
structure KeysUnused (log : SessionEventLog (EventPayload R)) (result : OfflineResult R) :
    Prop where
  nodup : (result.segments.map finalDedupKey).Nodup
  unused : ∀ seg ∈ result.segments, log.finalByDedupKey (finalDedupKey seg) = none

omit [IsStrictOrderedRing R] in
theorem draws_finalFields (result : OfflineResult R) (p : TranscriptSegment R × Option String) :
    EventWriter.Draws (finalFields result p.1 p.2) where
  id := rfl
  revision := by
    show 1 ≤ if truthy p.2 then 2 else 1
    split <;> decide

/-- An event that is not final and draws its id. -/
structure Notice (f : EventFields (EventPayload R)) : Prop extends EventWriter.Draws f where
  notFinal : f.isFinal = false
  eventType : f.eventType ≠ .transcriptFinal

theorem notice_revisions (s : StreamingSession R V) : ∀ f ∈ s.revisions, Notice f := by
  intro f hf
  obtain ⟨change, -, rfl⟩ := List.mem_map.mp hf
  exact ⟨draws_revisionFields s change, rfl, nofun⟩

omit [IsStrictOrderedRing R] in
theorem notice_warningFields (result : OfflineResult R) : ∀ f ∈ warningFields result, Notice f := by
  unfold warningFields
  split
  · simp
  · intro f hf
    rw [List.mem_singleton.mp hf]
    exact ⟨⟨rfl, le_refl 1⟩, rfl, nofun⟩

/-- The fields the pass writes to the log. -/
def passFields (result : OfflineResult R) (notices : List (EventFields (EventPayload R)))
    (prepared : List (TranscriptSegment R × Option String)) : List (EventFields (EventPayload R)) :=
  notices ++ prepared.map (fun p => finalFields result p.1 p.2) ++ warningFields result

/-- **What a run of the pass does**: it reconciles the speakers, and writes its
events to the log one after another. -/
structure PassRun (supply : Supply) (s : StreamingSession R V) (result : OfflineResult R)
    (events : List (ServerEvent (EventPayload R))) (s' : StreamingSession R V)
    (prepared : List (TranscriptSegment R × Option String)) where
  /-- The session when the speakers are reconciled, -/
  drained : StreamingSession R V
  /-- and the speakers after that. -/
  reconciled : SessionSpeakerState R V
  drain : (StreamingSession.drainLabelRevisions supply s).2 = drained
  prepare : StreamingSession.prepare s.emitted ∅ result.segments drained.speakers
    = (.ok prepared, reconciled)
  segments : prepared.map (fun p => p.1) = result.segments
  written : EventWriter.writeAll supply
    (passFields result (s.revisions ++ revisions { drained with speakers := reconciled }) prepared)
    s.writer = (.ok events, s'.writer)
  wellFormed : s'.WellFormed supply
  extends' : Extends s.speakers s'.speakers
  emitted : s'.emitted = s.emitted

/-- **The pass returns**, and what it returns is what writing its events to
the log gives. -/
theorem finalPass_run (h : s.WellFormed supply) (hu : Function.Injective supply.ulid)
    (hs : 0 < s.bufferedSamples) (result : OfflineResult R) :
    ∃ events s' prepared, finalPass supply (.ok result) s = (.ok events, s')
      ∧ Nonempty (PassRun supply s result events s' prepared) := by
  obtain ⟨changes, s₁, hchanges, h₁, hext, hemitted, hw₁⟩ := h.drainLabelRevisions hu
  have hknown : ∀ e ∈ s.emitted, s₁.speakers.Registered e.sessionSpeakerId :=
    fun e he => hext.registered _ (h.emitted e he)
  obtain ⟨prepared, st, hprepare, hst, hext₁, hsegments⟩ :=
    prepare_ok h₁.speakers hknown result.segments ∅
  have h₂ := h₁.of_speakers hst hext₁
  have hprepared : onSpeakers (StreamingSession.prepare s.emitted ∅ result.segments) s₁
      = (.ok prepared, { s₁ with speakers := st }) := by
    unfold onSpeakers zoom
    rw [hprepare]
  obtain ⟨more, s₃, hmore, h₃, hext₃, hemitted₃, hw₃⟩ := h₂.drainLabelRevisions hu
  obtain ⟨finals, s₄, hfinals, h₄, hspeakers₄, hemitted₄, hw₄⟩ := h₃.writeAll hu
    (prepared.map (fun p => finalFields result p.1 p.2)) (fun f hf => by
      obtain ⟨p, -, rfl⟩ := List.mem_map.mp hf
      exact draws_finalFields result p)
  obtain ⟨warning, s₅, hwarning, h₅, hspeakers₅, hemitted₅, hw₅⟩ := h₄.writeAll hu
    (warningFields result) (fun f hf => (notice_warningFields result f hf).toDraws)
  refine ⟨changes ++ more ++ finals ++ warning, s₅, prepared, ?_, ⟨{
    drained := s₁
    reconciled := st
    drain := congrArg Prod.snd hchanges
    prepare := hprepare
    segments := hsegments
    written := mapEach_append (mapEach_append (mapEach_append hw₁ hw₃) hw₄) hw₅
    wellFormed := h₅
    extends' := ?_
    emitted := hemitted₅.trans (hemitted₄.trans (hemitted₃.trans hemitted)) }⟩⟩
  · unfold finalPass
    rw [read_bind, if_neg hs.ne', ofExcept_ok_bind, bind_of_ok hchanges, bind_of_ok hprepared,
      bind_of_ok hmore, bind_of_ok hfinals, bind_of_ok hwarning]
    rfl
  · rw [hspeakers₅, hspeakers₄]
    exact (hext.trans hext₁).trans hext₃

/-- The revisions of the pass are notices. -/
theorem PassRun.notices {result : OfflineResult R} {events : List (ServerEvent (EventPayload R))}
    {prepared : List (TranscriptSegment R × Option String)}
    (run : PassRun supply s result events s' prepared) :
    ∀ f ∈ s.revisions ++ revisions { run.drained with speakers := run.reconciled }, Notice f :=
  fun f hf => (List.mem_append.mp hf).elim (notice_revisions _ f) (notice_revisions _ f)

/-! ## Counting the finals -/

section Counting

variable {log : SessionEventLog (EventPayload R)} {fs : List (EventFields (EventPayload R))}
  {events : List (ServerEvent (EventPayload R))}

/-- The finals among the fields. -/
def finalsOf (fs : List (EventFields (EventPayload R))) : List (EventFields (EventPayload R)) :=
  fs.filter (fun f => f.isFinal)

/-- Either an event is final and has a deduplication key, or it is a
notice. -/
def FinalOrNotice (f : EventFields (EventPayload R)) : Prop :=
  (f.isFinal = true ∧ f.finalKey.isSome ∧ f.eventType = .transcriptFinal)
    ∨ (f.isFinal = false ∧ f.eventType ≠ .transcriptFinal)

omit [Field R] [LinearOrder R] [IsStrictOrderedRing R] in
/-- Events that carry what they were given, and come after the log, are the
finals among what was given. -/
theorem appendedFinals_of_carries (hfs : ∀ f ∈ fs, FinalOrNotice f)
    (hcarries : List.Forall₂ Carries fs events)
    (hafter : ∀ e ∈ events, log.sequence < e.sequenceNumber) :
    (appendedFinals log events).map (fun e => e.payload)
      = (finalsOf fs).map (fun f => f.payload) := by
  induction hcarries with
  | nil => rfl
  | @cons f e fs events hfe _ ih =>
    have hrest := ih (fun g hg => hfs g (List.mem_cons_of_mem f hg))
      (fun e' he' => hafter e' (List.mem_cons_of_mem e he'))
    have he := hafter e List.mem_cons_self
    unfold appendedFinals finalsOf at hrest ⊢
    rcases hfs f List.mem_cons_self with ⟨hfinal, -, htype⟩ | ⟨hfinal, htype⟩
    · rw [List.filter_cons_of_pos (by simp [hfe.eventType, htype, he]),
        List.filter_cons_of_pos (by simp [hfinal]), List.map_cons, List.map_cons, hrest,
        hfe.payload]
    · rw [List.filter_cons_of_neg (by simp [hfe.eventType, htype]),
        List.filter_cons_of_neg (by simp [hfinal]), hrest]

omit [Field R] [LinearOrder R] [IsStrictOrderedRing R] in
/-- At most the finals are appended as finals, and if all of them are then
every event comes after the log. -/
theorem length_appendedFinals_le (hfs : ∀ f ∈ fs, FinalOrNotice f)
    (hkeyless : List.Forall₂ (fun f e => f.finalKey = none →
      Carries f e ∧ log.sequence < e.sequenceNumber) fs events) :
    (appendedFinals log events).length ≤ (finalsOf fs).length
      ∧ ((appendedFinals log events).length = (finalsOf fs).length →
        ∀ e ∈ events, log.sequence < e.sequenceNumber) := by
  induction hkeyless with
  | nil => exact ⟨le_refl _, fun _ e he => absurd he List.not_mem_nil⟩
  | @cons f e fs events hfe _ ih =>
    obtain ⟨hle, heq⟩ := ih (fun g hg => hfs g (List.mem_cons_of_mem f hg))
    unfold appendedFinals finalsOf at hle heq ⊢
    rcases hfs f List.mem_cons_self with ⟨hfinal, -, -⟩ | ⟨hfinal, htype⟩
    · rw [List.filter_cons_of_pos (l := fs) (by simp [hfinal]), List.filter_cons]
      split
      · next he =>
        rw [List.length_cons, List.length_cons]
        refine ⟨Nat.succ_le_succ hle, fun h e' he' => ?_⟩
        rcases List.mem_cons.mp he' with rfl | he'
        · exact (by simpa using he : _ ∧ _).2
        · exact heq (Nat.succ_injective h) e' he'
      · rw [List.length_cons]
        exact ⟨Nat.le_succ_of_le hle, fun h => absurd h (Nat.ne_of_lt (Nat.lt_succ_of_le hle))⟩
    · have hnone : f.finalKey = none := by
        unfold EventFields.finalKey
        rw [hfinal]
        rfl
      obtain ⟨hcarries, hafter⟩ := hfe hnone
      rw [List.filter_cons_of_neg (l := fs) (by simp [hfinal]),
        List.filter_cons_of_neg (by simp [hcarries.eventType, htype])]
      refine ⟨hle, fun h e' he' => ?_⟩
      rcases List.mem_cons.mp he' with rfl | he'
      · exact hafter
      · exact heq h e' he'

end Counting

section Keys

variable {result : OfflineResult R} {notices : List (EventFields (EventPayload R))}
  {prepared : List (TranscriptSegment R × Option String)}

omit [IsStrictOrderedRing R] in
theorem mem_passFields (hnotices : ∀ f ∈ notices, Notice f) {f : EventFields (EventPayload R)}
    (hf : f ∈ passFields result notices prepared) :
    Notice f ∨ ∃ p ∈ prepared, f = finalFields result p.1 p.2 := by
  rcases List.mem_append.mp hf with hf | hf
  · rcases List.mem_append.mp hf with hf | hf
    · exact Or.inl (hnotices f hf)
    · obtain ⟨p, hp, rfl⟩ := List.mem_map.mp hf
      exact Or.inr ⟨p, hp, rfl⟩
  · exact Or.inl (notice_warningFields result f hf)

omit [Field R] [LinearOrder R] [IsStrictOrderedRing R] in
/-- Notices are no finals. -/
theorem finalsOf_notices {fs : List (EventFields (EventPayload R))} (hfs : ∀ f ∈ fs, Notice f) :
    finalsOf fs = [] ∧ fs.filterMap EventFields.finalKey = [] := by
  constructor
  · exact List.filter_eq_nil_iff.mpr (fun f hf => by simp [(hfs f hf).notFinal])
  · refine List.filterMap_eq_nil_iff.mpr (fun f hf => ?_)
    unfold EventFields.finalKey
    rw [(hfs f hf).notFinal]
    rfl

section

omit [IsStrictOrderedRing R]

/-- The finals of the pass are those that were prepared. -/
theorem finalsOf_passFields_eq (hnotices : ∀ f ∈ notices, Notice f) :
    finalsOf (passFields result notices prepared)
      = prepared.map (fun p => finalFields result p.1 p.2) := by
  have hn := (finalsOf_notices hnotices).1
  have hw := (finalsOf_notices (notice_warningFields result)).1
  unfold finalsOf at hn hw ⊢
  unfold passFields
  rw [List.filter_append, List.filter_append, hn, hw, List.append_nil, List.nil_append]
  refine List.filter_eq_self.mpr (fun f hf => ?_)
  obtain ⟨p, -, rfl⟩ := List.mem_map.mp hf
  rfl

/-- **The finals of the pass are those of the segments**, each with its
deduplication key. -/
theorem finalsOf_passFields (hnotices : ∀ f ∈ notices, Notice f)
    (hsegments : prepared.map (fun p => p.1) = result.segments) :
    (finalsOf (passFields result notices prepared)).map (fun f => f.payload)
        = result.segments.map (fun seg => some (.segment seg.toPublicDict))
      ∧ (passFields result notices prepared).filterMap EventFields.finalKey
        = result.segments.map finalDedupKey := by
  have hnk := (finalsOf_notices hnotices).2
  have hwk := (finalsOf_notices (notice_warningFields result)).2
  constructor
  · rw [finalsOf_passFields_eq hnotices, ← hsegments, List.map_map, List.map_map]
    rfl
  · unfold passFields
    rw [List.filterMap_append, List.filterMap_append, hnk, hwk, List.append_nil, List.nil_append,
      ← hsegments, List.map_map, List.filterMap_map]
    exact List.filterMap_eq_map_iff_forall_eq_some.mpr (fun p _ => rfl)

/-- The keys of the pass are unused when those of the segments are. -/
theorem fresh_passFields (log : SessionEventLog (EventPayload R))
    (hnotices : ∀ f ∈ notices, Notice f)
    (hsegments : prepared.map (fun p => p.1) = result.segments) :
    EventWriter.Fresh log (passFields result notices prepared) ↔ KeysUnused log result := by
  have hkeys := (finalsOf_passFields hnotices hsegments).2
  constructor
  · rintro ⟨hnodup, hunused⟩
    rw [hkeys] at hnodup hunused
    exact ⟨hnodup, fun seg hseg => hunused _ (List.mem_map_of_mem hseg)⟩
  · rintro ⟨hnodup, hunused⟩
    refine ⟨by rwa [hkeys], fun key hkey => ?_⟩
    rw [hkeys] at hkey
    obtain ⟨seg, hseg, rfl⟩ := List.mem_map.mp hkey
    exact hunused seg hseg

end

end Keys

/-- **What the pass of a well-formed session publishes.** -/
theorem WellFormed.finalPass_spec (h : s.WellFormed supply) (hu : Function.Injective supply.ulid)
    (hn : 0 < s.bufferedSamples) (result : OfflineResult R) :
    ∃ events s', finalPass supply (.ok result) s = (.ok events, s')
      ∧ (Publishes s.log result events ↔ KeysUnused s.log result) := by
  obtain ⟨events, s', prepared, hok, ⟨run⟩⟩ := finalPass_run h hu hn result
  have hnotices := run.notices
  have hsegments := run.segments
  have hall := run.written
  set notices := s.revisions ++ revisions { run.drained with speakers := run.reconciled }
  refine ⟨events, s', hok, ?_⟩
  have hfinal : ∀ f ∈ passFields result notices prepared, FinalOrNotice f := by
    intro f hf
    rcases mem_passFields hnotices hf with hf | ⟨p, -, rfl⟩
    · exact Or.inr ⟨hf.notFinal, hf.eventType⟩
    · exact Or.inl ⟨rfl, rfl, rfl⟩
  have hdraws : ∀ f ∈ passFields result notices prepared, EventWriter.Draws f := by
    intro f hf
    rcases mem_passFields hnotices hf with hf | ⟨p, -, rfl⟩
    · exact hf.toDraws
    · exact draws_finalFields result p
  obtain ⟨events', w', hall', -, -, hwritten⟩ := EventWriter.writeAll_spec h.writer hu hdraws
  obtain rfl : events = events' := by
    have := hall.symm.trans hall'
    cases this
    rfl
  replace hwritten : EventWriter.Written s.log (passFields result notices prepared) events :=
    hwritten
  rw [← fresh_passFields s.log hnotices hsegments]
  have hpayloads := (finalsOf_passFields hnotices hsegments).1
  constructor
  · intro hp
    have hlength : (appendedFinals s.log events).length
        = (finalsOf (passFields result notices prepared)).length := by
      have := hp.payloads.length_eq
      rwa [← hpayloads, List.length_map, List.length_map] at this
    have hafter := (length_appendedFinals_le hfinal hwritten.keyless).2 hlength
    refine hwritten.onwards_iff.mp (List.pairwise_cons.mpr ⟨fun n hn => ?_, ?_⟩)
    · obtain ⟨e, he, rfl⟩ := List.mem_map.mp hn
      exact hafter e he
    · exact List.pairwise_map.mpr hp.increasing
  · intro hfresh
    have honwards := hwritten.onwards_iff.mpr hfresh
    refine ⟨?_, List.pairwise_map.mp (List.pairwise_cons.mp honwards).2⟩
    rw [appendedFinals_of_carries hfinal (hwritten.carries hfresh) honwards.lt, hpayloads]

section

variable [AddCommGroup V] [Module R V] [EmbeddingSpace R V]

/-- **The pass publishes the whole final transcript exactly when no
deduplication key of its segments was used before**, by an earlier final
event of the session or by another segment. -/
theorem finalPass_publishes_iff (supply : Supply) (hu : Function.Injective supply.ulid)
    (s : StreamingSession R V) (hs : s.Reachable supply) (hn : 0 < s.bufferedSamples)
    (result : OfflineResult R) :
    ∃ events s', finalPass supply (.ok result) s = (.ok events, s')
      ∧ (Publishes s.log result events ↔ KeysUnused s.log result) :=
  (hs.wellFormed hu).finalPass_spec hu hn result

end

/-- A supply of ids, each one character longer than the one before. -/
def countingSupply : Supply where
  ulid n := String.ofList (List.replicate n 'x')
  nowMs n := n

theorem countingSupply_injective : Function.Injective countingSupply.ulid := by
  intro n m h
  have hlists := String.ofList_injective h
  simpa using congrArg List.length hlists

/-- A session that holds a second of audio and has published nothing. -/
def quietSession : StreamingSession ℚ ℚ where
  speakers := .new "session" {} "model"
  log := { sessionId := "session" }
  modelVersions := {}
  configVersion := "config"
  bufferedSamples := 16000

theorem quietSession_reachable : quietSession.Reachable countingSupply :=
  .buffer _ 16000 (.new "session" {} "model" {} "config")

/-- A result with the given segments. -/
def resultOf (segments : List (TranscriptSegment ℚ)) : OfflineResult ℚ where
  jobId := "job_local"
  state := .succeeded
  segments := sortSegments segments
  configVersion := "config"
  modelVersions := {}

/-- Two words of one turn, each of which ends a sentence, -/
def twoWords (again : ℕ) : WordGroup ℚ where
  words := [.heard "Yes." 1000 1020 none, .heard "No." again (again + 20) none]
  interval := firstMs 2000

/-- and their segments. -/
def fuseTwoWords (again : ℕ) : Except PyError (List (TranscriptSegment ℚ)) × Session ℚ ℚ :=
  (FusionEngine.new "session" {} {} none none).fuse countingSupply.ulid [twoWords again]
    [{ clusterId := "A", interval := firstMs 2000 }] true 1 none
    ⟨.new "session" {} "model", 0⟩

/-- Of two words that were heard one after the other, both segments are published. -/
theorem finalPass_publishes_iff_of_two :
    ∃ segments events s', (fuseTwoWords 1400).1 = .ok segments ∧ segments.length = 2
      ∧ finalPass countingSupply (.ok (resultOf segments)) quietSession = (.ok events, s')
      ∧ Publishes quietSession.log (resultOf segments) events := by
  have hdiffer : (match (fuseTwoWords 1400).1 with
      | .ok segments => decide (segments.length = 2
        ∧ ((resultOf segments).segments.map finalDedupKey).Nodup)
      | .error _ => false) = true := by
    decide +kernel
  rcases hfuse : (fuseTwoWords 1400).1 with e | segments
  · rw [hfuse] at hdiffer
    cases hdiffer
  · rw [hfuse] at hdiffer
    obtain ⟨htwo, hnodup⟩ := of_decide_eq_true hdiffer
    obtain ⟨events, s', hok, hiff⟩ := finalPass_publishes_iff countingSupply
      countingSupply_injective quietSession quietSession_reachable (by decide) (resultOf segments)
    exact ⟨segments, events, s', rfl, htwo, hok, hiff.mpr ⟨hnodup, fun _ _ => rfl⟩⟩

/-- If they were heard at once, their segments have the same deduplication key. -/
theorem fuseTwoWords_repeats :
    (match (fuseTwoWords 1000).1 with
      | .ok segments => decide (¬ ((resultOf segments).segments.map finalDedupKey).Nodup)
      | .error _ => false) = true := by
  decide +kernel

/-- **A segment can be lost.** Fusion publishes the two words as two
segments, and the pass appends the first only. -/
theorem finalPass_loses_a_segment :
    ∃ segments events s', (fuseTwoWords 1000).1 = .ok segments
      ∧ finalPass countingSupply (.ok (resultOf segments)) quietSession = (.ok events, s')
      ∧ ¬ Publishes quietSession.log (resultOf segments) events := by
  have hrepeats := fuseTwoWords_repeats
  rcases hfuse : (fuseTwoWords 1000).1 with e | segments
  · rw [hfuse] at hrepeats
    cases hrepeats
  · rw [hfuse] at hrepeats
    have hwell := quietSession_reachable.wellFormed countingSupply_injective
    obtain ⟨events, s', hok, hiff⟩ := hwell.finalPass_spec countingSupply_injective (by decide)
      (resultOf segments)
    exact ⟨segments, events, s', rfl, hok, fun hp => of_decide_eq_true hrepeats (hiff.mp hp).nodup⟩

end StreamingSession

end Sastt
