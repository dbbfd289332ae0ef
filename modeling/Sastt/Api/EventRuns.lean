import Sastt.Api.EventDocuments
import Sastt.Api.PublishedContract
import Sastt.Application.SessionEvents

/-!
# Every event of a session can be shown

Whatever happens to a session, the events of its log are documents its client can read: the
envelope conforms to the schema of events, and the payload is what the type of the event says,
which for a transcript is a segment that conforms to the schema of segments. This is an
invariant of the session (`Presents`), kept by each method; and what a method returns are
events of the log, or final ones the log remembers. What it takes of a segment is what its
speakers were given for ids, and that no more people are heard at once than a session may have.
-/

namespace Sastt

open Method

variable {R V S : Type} [Field R] [LinearOrder R] [IsStrictOrderedRing R]

/-- All the events can be shown. -/
def Shown (sessionId : String) (es : List (ServerEvent (EventPayload R))) : Prop :=
  ∀ e ∈ es, Presentable sessionId e

omit [IsStrictOrderedRing R] in
theorem Shown.append {sessionId : String} {es es' : List (ServerEvent (EventPayload R))}
    (h : Shown sessionId es) (h' : Shown sessionId es') : Shown sessionId (es ++ es') :=
  List.forall_mem_append.mpr ⟨h, h'⟩

omit [IsStrictOrderedRing R] in
theorem shown_nil {sessionId : String} : Shown (R := R) sessionId [] :=
  fun _ he => absurd he List.not_mem_nil

/-! ## Writing -/

/-- **Fields of an event that can be shown**, once the log has numbered it. -/
structure FillsItsType (f : EventFields (EventPayload R)) : Prop extends EventWriter.Draws f where
  carries : CarriesItsType f.eventType f.payload f.isFinal f.supersedesEventId

section Writer

variable {sessionId : String} {supply : Supply} {log : SessionEventLog (EventPayload R)}
  {f : EventFields (EventPayload R)}

/-- **A log whose events can be shown.** -/
structure LogPresents (sessionId : String) (log : SessionEventLog (EventPayload R)) : Prop where
  session : log.sessionId = sessionId
  logged : ∀ e ∈ log.events, Presentable sessionId e
  finals : ∀ key e, log.finalByDedupKey key = some e → Presentable sessionId e

section

omit [IsStrictOrderedRing R]

theorem presentable_nextEvent (hsession : sessionId ≠ "") (hlog : log.sessionId = sessionId)
    (hf : FillsItsType f) (nowMs : ℕ) (ulid : String) :
    Presentable sessionId (log.nextEvent f nowMs ulid) where
  id := by
    unfold SessionEventLog.nextEvent
    rw [hf.id]
    show "evt_" ++ ulid ≠ ""
    intro h
    have hlength := congrArg String.length h
    rw [String.length_append] at hlength
    exact absurd hlength (by simp)
  session := by
    show log.sessionId ≠ ""
    rwa [hlog]
  sequenceNumber := Nat.le_add_left 1 _
  revision := hf.revision
  ofSession := hlog
  carries := hf.carries

/-- One more event that can be shown. -/
theorem LogPresents.push (h : LogPresents sessionId log) (hsession : sessionId ≠ "")
    (hf : FillsItsType f) (nowMs : ℕ) (ulid : String) :
    LogPresents sessionId (log.push f (log.nextEvent f nowMs ulid)) where
  session := h.session
  logged e he := by
    rcases List.mem_append.mp (SessionEventLog.events_push_sublist.subset he) with he | he
    · exact h.logged e he
    · rw [List.mem_singleton.mp he]
      exact presentable_nextEvent hsession h.session hf nowMs ulid
  finals key e he := by
    rw [EventWriter.finalByDedupKey_push] at he
    split at he
    · rw [← Option.some.inj he]
      exact presentable_nextEvent hsession h.session hf nowMs ulid
    · exact h.finals key e he

/-- **Writing returns an event that can be shown**, be it a new one or one from before. -/
theorem yields_write_presentable (hsession : sessionId ≠ "") (hf : FillsItsType f) :
    Yields (fun w : EventWriter (EventPayload R) => LogPresents sessionId w.log)
      (Presentable sessionId) (EventWriter.write supply f) := by
  intro w hw
  set event := w.log.nextEvent f (supply.nowMs w.drawn) (supply.ulid w.drawn) with hevent
  have hrun : EventWriter.write supply f w
      = ((SessionEventLog.append f (supply.nowMs w.drawn) (supply.ulid w.drawn) w.log).1,
        ⟨(SessionEventLog.append f (supply.nowMs w.drawn) (supply.ulid w.drawn) w.log).2,
          w.drawn + 1⟩) := rfl
  rcases SessionEventLog.append_cases w.log f (supply.nowMs w.drawn) (supply.ulid w.drawn) with
    ⟨old, hold, happend⟩ | ⟨-, ⟨e, happend⟩ | ⟨-, -, happend⟩⟩ <;> rw [happend] at hrun
  · obtain ⟨key, -, hkey⟩ := Option.bind_eq_some_iff.mp hold
    exact triple_at_ok hrun ⟨hw, hw.finals key old hkey⟩
  · exact triple_at_error hrun hw
  · rw [← hevent] at hrun
    exact triple_at_ok hrun ⟨hw.push hsession hf _ _,
      presentable_nextEvent hsession hw.session hf _ _⟩

end

end Writer

namespace StreamingSession

variable {supply : Supply} {sessionId : String} {s : StreamingSession R V}

/-- **A session whose events can be shown**, and whose speakers have ids that were drawn. -/
structure Presents (supply : Supply) (sessionId : String) (s : StreamingSession R V) : Prop where
  log : LogPresents sessionId s.log
  wellFormed : s.WellFormed supply
  minted : Session.Minted supply.ulid ⟨s.speakers, s.drawn⟩

/-- Of a method that keeps the log as it is, the rest is to be shown. -/
theorem yields_presents {α : Type} {A : α → Prop} {m : Method PyError (StreamingSession R V) α}
    (hlog : Yields (fun s => LogPresents sessionId s.log) A m)
    (hkeeps : ∀ s, s.WellFormed supply ∧ Session.Minted supply.ulid ⟨s.speakers, s.drawn⟩ →
      (m s).2.WellFormed supply
        ∧ Session.Minted supply.ulid ⟨(m s).2.speakers, (m s).2.drawn⟩) :
    Yields (Presents supply sessionId) A m :=
  Triple.weaken (hlog.and_keeps hkeeps) (fun _ hs => ⟨hs.log, hs.wellFormed, hs.minted⟩)
    (fun _ _ hs => ⟨⟨hs.1.1, hs.1.2.1, hs.1.2.2⟩, hs.2⟩) (fun _ _ hs => ⟨hs.1, hs.2.1, hs.2.2⟩)

theorem yields_silently {α : Type} {m : Method PyError (StreamingSession R V) α}
    (hm : Within (InvImage (· = ·) StreamingSession.log) m)
    (hkeeps : ∀ s, s.WellFormed supply ∧ Session.Minted supply.ulid ⟨s.speakers, s.drawn⟩ →
      (m s).2.WellFormed supply
        ∧ Session.Minted supply.ulid ⟨(m s).2.speakers, (m s).2.drawn⟩) :
    Yields (Presents supply sessionId) (fun _ => True) m :=
  yields_presents (yields_of_snd fun s hs => (show s.log = (m s).2.log from hm s) ▸ hs) hkeeps

/-- Draws that nothing was registered with do no harm. -/
theorem minted_mono {speakers : SessionSpeakerState R V} {n m : ℕ}
    (h : Session.Minted supply.ulid ⟨speakers, n⟩) (hle : n ≤ m) :
    Session.Minted supply.ulid ⟨speakers, m⟩ := by
  intro id hid
  obtain ⟨i, hi, hid⟩ := h id hid
  exact ⟨i, hi.trans_le hle, hid⟩

/-- **Writing one event.** -/
theorem yields_shown (hsession : sessionId ≠ "") {f : EventFields (EventPayload R)}
    (hf : FillsItsType f) :
    Yields (Presents (V := V) supply sessionId) (Presentable sessionId)
      (onLog (EventWriter.write supply f)) := by
  have hlog : Yields (fun s : StreamingSession R V => LogPresents sessionId s.writer.log)
      (Presentable sessionId) ((EventWriter.write supply f).zoom writer
        (fun s w => { s with log := w.log, drawn := w.drawn })) :=
    (yields_write_presentable hsession hf).zoom (fun _ _ => rfl)
  exact yields_presents hlog
    (fun s hs => ⟨hs.1.write hf.toDraws, minted_mono hs.2 (Nat.le_succ _)⟩)

/-- Writing several is writing one after another. -/
theorem onLog_writeAll (fs : List (EventFields (EventPayload R))) :
    onLog (V := V) (EventWriter.writeAll supply fs)
      = mapEach fs (fun f => onLog (EventWriter.write supply f)) := by
  unfold onLog EventWriter.writeAll
  exact zoom_mapEach (by intros; rfl) (by intros; rfl) (by intros; rfl) _ _

theorem yields_allShown (hsession : sessionId ≠ "") {fs : List (EventFields (EventPayload R))}
    (hfs : ∀ f ∈ fs, FillsItsType f) :
    Yields (Presents (V := V) supply sessionId) (Shown sessionId)
      (onLog (EventWriter.writeAll supply fs)) := by
  rw [onLog_writeAll]
  exact yields_mapEach (fun f hf => yields_shown hsession (hfs f hf))

/-! ## The speakers -/

/-- What is done to the speakers with drawn ids. -/
theorem yields_onSpeakers {α : Type} [AddCommGroup V] [Module R V] [EmbeddingSpace R V]
    {m : Method PyError (Session R V) α} {allowed : Op R V → Prop}
    (hm : Within (Session.Calls supply.ulid allowed) m) :
    Yields (Presents supply sessionId) (fun _ => True) (onSession m) := by
  refine yields_silently (fun _ => rfl) (fun s hs => ?_)
  have hcalls := hm ⟨s.speakers, s.drawn⟩
  obtain ⟨hwell, hext, hdrawn⟩ := hcalls.keeps hs.1.speakers
  have hspeakers := hs.1.of_speakers hwell hext
  exact ⟨⟨hwell, writer_mono hspeakers.writer hdrawn, hspeakers.emitted⟩, hcalls.minted hs.2⟩

/-- Publishing changes of labels. -/
theorem yields_drainLabelRevisions (hsession : sessionId ≠ "") :
    Yields (Presents (R := R) (V := V) supply sessionId) (Shown sessionId)
      (drainLabelRevisions supply) := by
  refine yields_bind yields_read (fun s _ => yields_bind (yields_silently (fun _ => rfl)
    (fun t ht => ?_)) (fun changes _ => yields_allShown hsession (fun f hf => ?_)))
  · obtain ⟨hwell, hkeeps⟩ := SessionSpeakerState.within_drainLabelChanges t.speakers
      ht.1.speakers
    exact ⟨ht.1.of_speakers hwell hkeeps.toExtends, ht.2⟩
  · obtain ⟨change, -, rfl⟩ := List.mem_map.mp hf
    exact ⟨⟨rfl, Nat.le_succ 1⟩, ⟨change, rfl⟩, rfl, rfl⟩

/-! ## Transcripts -/

/-- **A segment of a window**, that a client can read. -/
structure Showable (isFinal : Bool) (seg : TranscriptSegment R) : Prop extends seg.Publishable where
  final : seg.isFinal = isFinal

omit [IsStrictOrderedRing R] in
theorem Showable.carries {isFinal : Bool} {seg : TranscriptSegment R} (h : Showable isFinal seg) :
    CarriesTranscript (some (.segment seg.toPublicDict)) isFinal :=
  ⟨seg, rfl, h.toPublishable, h.final⟩

/-- Publishing one segment of a window. -/
theorem yields_shownSegment (hsession : sessionId ≠ "") {segment : TranscriptSegment R}
    (hshow : Showable false segment) {told : SessionSpeakerState R V → Prop}
    (htold : ∀ st, told st → st.Registered segment.sessionSpeakerId) :
    Yields (fun s => Presents supply sessionId s ∧ told s.speakers) (Presentable sessionId)
      (emitSegment supply segment) := by
  refine triple_read (fun s hs => ?_)
  have hfills : FillsItsType (s.provisionalFields segment) :=
    ⟨⟨rfl, le_refl 1⟩, hshow.carries, rfl, rfl⟩
  have hwrite : Yields (fun t : StreamingSession R V => Presents supply sessionId t
      ∧ told t.speakers) (Presentable sessionId)
      (onLog (EventWriter.write supply (s.provisionalFields segment))) :=
    (yields_shown hsession hfills).and_keeps (fun _ ht => ht)
  refine triple_bind (Triple.weaken hwrite (fun t ht => ht.2) (fun _ _ ht => ht)
    (fun _ _ ht => ht)) (fun e => triple_bind (triple_modify (fun t ht => ?_))
      (fun _ => triple_pure (fun _ ht => ht)))
  refine ⟨⟨⟨ht.1.1.log, ⟨ht.1.1.wellFormed.speakers, ht.1.1.wellFormed.writer, fun p hp => ?_⟩,
    ht.1.1.minted⟩, ht.1.2⟩, ht.2⟩
  rcases List.mem_append.mp hp with hp | hp
  · exact ht.1.1.wellFormed.emitted p hp
  · rw [List.mem_singleton.mp hp]
    exact htold _ ht.1.2

/-- How many are heard at once, if that is known. -/
def Countable (g : WordGroup R) : Prop := ∀ k ∈ g.estimatedConcurrentSpeakers, 1 ≤ k ∧ k ≤ 5

variable [AddCommGroup V] [Module R V] [EmbeddingSpace R V]

omit [AddCommGroup V] [Module R V] [EmbeddingSpace R V] in
/-- Fusion marks all segments alike. -/
theorem isFinal_fuse {engine : FusionEngine R} {ulids : ℕ → String} {groups : List (WordGroup R)}
    {turns : List (SpeakerTurn R)} {isFinal : Bool} {revision : ℕ} {supersedes : Option String} :
    Returns (fun segments => ∀ seg ∈ segments, seg.isFinal = isFinal)
      (engine.fuse (V := V) ulids groups turns isFinal revision supersedes) := by
  have hone : ∀ u, Returns (fun seg => seg.isFinal = isFinal)
      (engine.segmentOf (V := V) ulids isFinal revision supersedes u) := by
    intro u s seg s' hok
    unfold FusionEngine.segmentOf at hok
    rw [read_bind] at hok
    obtain ⟨speaker, s₁, -, hok⟩ := bind_eq_ok.mp hok
    obtain ⟨ulid, s₂, -, hok⟩ := bind_eq_ok.mp hok
    obtain ⟨hnew, -⟩ := ofExcept_eq_ok.mp hok
    rw [TranscriptSegment.new_eq_ok hnew]
  refine returns_bind (returns_of_true _) (fun us _ => returns_bind
    (returns_mapEach (fun u _ => hone u)) (fun segments hsegments => returns_bind
    (returns_of_true _) (fun _ _ => returns_pure (fun seg hseg => ?_))))
  obtain ⟨u, -, hfinal⟩ := exists_of_forall₂ hsegments hseg
  exact hfinal

/-- **The segments of a window can be shown**: their speakers are of the session, and so have
ids that were drawn. -/
theorem showable_fuse (hsession : sessionId ≠ "") {engine : FusionEngine R}
    (hengine : engine.sessionId = sessionId) {groups : List (WordGroup R)}
    (hcount : ∀ g ∈ groups, Countable g) (turns : List (SpeakerTurn R)) :
    Triple (Presents (V := V) supply sessionId)
      (onSession (engine.fuse supply.ulid groups turns false 1 none))
      (fun segments s => Presents supply sessionId s ∧ ∀ seg ∈ sortSegments segments,
        Showable false seg ∧ s.speakers.Registered seg.sessionSpeakerId)
      (fun _ => Presents supply sessionId) := by
  have hkeeps : Yields (Presents (V := V) supply sessionId) (fun _ => True)
      (onSession (engine.fuse supply.ulid groups turns false 1 none)) :=
    yields_onSpeakers ((Session.steps_calls supply.ulid).fuse (V := V) engine turns groups false 1
      none)
  intro s hs
  refine ⟨fun segments t hok => ?_, fun _ _ => hkeeps.error hs⟩
  obtain ⟨ht, -⟩ := hkeeps.ok hs hok
  refine ⟨ht, fun seg hseg => ?_⟩
  have hmem : seg ∈ segments := (List.perm_insertionSort _ _).mem_iff.mp hseg
  obtain ⟨t', hfused, rfl⟩ := zoom_eq_ok hok
  obtain ⟨us, _, -, hsegments⟩ := FusionEngine.fuse_spec hs.wellFormed.speakers hfused
  obtain ⟨_, -, -, -, hreg, -⟩ := exists_of_forall₂ hsegments hmem
  obtain ⟨g, hg, hstamped⟩ := FusionEngine.stamped_fuse _ _ _ hfused seg hmem
  have hspeaker : seg.sessionSpeakerId ≠ "" := by
    obtain ⟨i, -, hid⟩ := ht.minted _ ((ht.wellFormed.speakers.mem_order _).mpr hreg)
    rw [hid]
    intro h
    have hlength := congrArg String.length h
    rw [String.length_append] at hlength
    exact absurd hlength (by simp)
  refine ⟨⟨⟨hstamped.version, ?_, hstamped.event, hstamped.speaker hspeaker, hspeaker, ?_⟩,
    isFinal_fuse _ _ _ hfused seg hmem⟩, hreg⟩
  · rw [hstamped.session, hengine]
    exact hsession
  · rw [hstamped.count]
    exact hcount g hg

/-- **A window is shown** as its segments. -/
theorem yields_emitProvisional (hsession : sessionId ≠ "") {engine : FusionEngine R}
    (hengine : engine.sessionId = sessionId) {groups : List (WordGroup R)}
    (hcount : ∀ g ∈ groups, Countable g) (turns : List (SpeakerTurn R)) :
    Yields (Presents (V := V) supply sessionId) (Shown sessionId)
      (emitProvisional supply engine groups turns) := by
  refine triple_bind (showable_fuse hsession hengine hcount turns) (fun segments => ?_)
  set told : SessionSpeakerState R V → Prop := fun st =>
    ∀ seg ∈ sortSegments segments, st.Registered seg.sessionSpeakerId
  intro s hs
  have hall : Yields (fun s : StreamingSession R V => Presents supply sessionId s
      ∧ told s.speakers) (Shown sessionId)
      (mapEach (sortSegments segments) (emitSegment supply)) :=
    yields_mapEach (fun seg hseg => yields_shownSegment hsession (hs.2 seg hseg).1
      (fun st hst => hst seg hseg))
  exact Triple.weaken hall (fun _ ht => ht) (fun _ _ ht => ⟨ht.1.1, ht.2⟩) (fun _ _ ht => ht.1) s
    ⟨hs.1, fun seg hseg => (hs.2 seg hseg).2⟩

/-! ## The final pass -/

/-- Speakers that stay those they were, and more. -/
def KeepsSpeakers (st st' : SessionSpeakerState R V) : Prop :=
  st.WellFormed → st'.WellFormed ∧ SessionSpeakerState.Extends st st'

omit [AddCommGroup V] [Module R V] [EmbeddingSpace R V] in
instance : Std.Refl (KeepsSpeakers (R := R) (V := V)) :=
  ⟨fun st h => ⟨h, .refl st⟩⟩

omit [AddCommGroup V] [Module R V] [EmbeddingSpace R V] in
instance : IsTrans (SessionSpeakerState R V) KeepsSpeakers where
  trans st st' st'' h h' hst := by
    obtain ⟨hwell, hext⟩ := h hst
    obtain ⟨hwell', hext'⟩ := h' hwell
    exact ⟨hwell', hext.trans hext'⟩

/-- What the pass does about provisionals keeps the speakers. -/
theorem keeps_prepare (emitted : List Emitted) (used : Finset String)
    (segments : List (TranscriptSegment R)) :
    Within KeepsSpeakers (prepare (V := V) emitted used segments) := by
  have hstep : ∀ (op : Op R V) (st : SessionSpeakerState R V), KeepsSpeakers st (st.step op) :=
    fun op st hst =>
      ⟨(SessionSpeakerState.step_cases hst op).1, (SessionSpeakerState.step_cases hst op).2.1⟩
  exact within_prepare emitted used segments
    (fun id label _ st =>
      hstep (.promoteProvisional id "final_pass_reconciliation" (some label)) st)
    (fun a b st => hstep (.merge a b "final_pass_reconciliation") st)

omit [AddCommGroup V] [Module R V] [EmbeddingSpace R V] in
/-- The pass goes through the segments one by one. -/
theorem segments_prepare (emitted : List Emitted) (used : Finset String)
    (segments : List (TranscriptSegment R)) :
    Returns (fun prepared => prepared.map Prod.fst = segments)
      (prepare (V := V) emitted used segments) := by
  induction segments generalizing used with
  | nil => exact returns_pure rfl
  | cons segment segments ih =>
    have hrest : ∀ used' superseded, Returns (fun prepared => prepared.map Prod.fst
        = segment :: segments) (prepare (V := V) emitted used' segments >>= fun rest =>
          pure ((segment, superseded) :: rest)) := fun used' superseded =>
      returns_bind (ih used') (fun rest hmap =>
        returns_pure (congrArg (List.cons segment) hmap))
    unfold prepare
    dsimp only
    split
    · exact returns_bind (returns_of_true _) (fun _ _ => hrest _ _)
    · exact hrest _ _

theorem yields_prepare (emitted : List Emitted) (segments : List (TranscriptSegment R)) :
    Yields (Presents supply sessionId) (fun prepared => ∀ p ∈ prepared, p.1 ∈ segments)
      (onSpeakers (V := V) (prepare emitted ∅ segments)) := by
  have hkeeps : Yields (Presents supply sessionId) (fun _ => True)
      (onSpeakers (V := V) (prepare emitted ∅ segments)) := by
    refine yields_silently (fun _ => rfl) (fun t ht => ?_)
    obtain ⟨hwell, hext⟩ := keeps_prepare emitted ∅ segments t.speakers ht.1.speakers
    refine ⟨ht.1.of_speakers hwell hext, fun id hid => ?_⟩
    rcases registers_prepare emitted ∅ segments t.speakers id hid with hold | ⟨_, hnew, -⟩
    · exact ht.2 id hold
    · cases hnew
  refine (hkeeps.and_returns (returns_zoom (segments_prepare emitted ∅ segments))).weaken
    (fun prepared hprepared p hp => ?_)
  rw [← hprepared.2]
  exact List.mem_map_of_mem hp

/-- **The final pass shows** the segments of the second pass. -/
theorem yields_finalPass (hsession : sessionId ≠ "")
    {secondPass : Except PyError (OfflineResult R)}
    (hsecond : ∀ result, secondPass = .ok result → ∀ seg ∈ result.segments, Showable true seg) :
    Yields (Presents (V := V) supply sessionId) (Shown sessionId)
      (finalPass supply secondPass) := by
  refine yields_bind yields_read (fun s _ => ?_)
  split
  · exact yields_pure shown_nil
  · refine yields_bind ((yields_ofExcept secondPass).and_returns
      (returns_ofExcept (fun result h => h))) (fun result hresult => ?_)
    have hfinals : ∀ prepared : List (TranscriptSegment R × Option String),
        (∀ p ∈ prepared, p.1 ∈ result.segments) → Yields (Presents (V := V) supply sessionId)
          (Shown sessionId) (onLog (EventWriter.writeAll supply
            (prepared.map (fun p => finalFields result p.1 p.2)))) := by
      refine fun prepared hprepared => yields_allShown hsession (fun f hf => ?_)
      obtain ⟨p, hp, rfl⟩ := List.mem_map.mp hf
      refine ⟨⟨rfl, ?_⟩, (hsecond result hresult.2 _ (hprepared p hp)).carries, rfl⟩
      show 1 ≤ if truthy p.2 then 2 else 1
      split <;> decide
    have hwarning : Yields (Presents (V := V) supply sessionId) (Shown sessionId)
        (onLog (EventWriter.writeAll supply (warningFields result))) := by
      refine yields_allShown hsession (fun f hf => ?_)
      unfold warningFields at hf
      split at hf
      · exact absurd hf List.not_mem_nil
      · next hsome =>
        rw [List.mem_singleton.mp hf]
        exact ⟨⟨rfl, le_refl 1⟩, ⟨result.warnings, result.degraded, hsome, rfl⟩, rfl, rfl⟩
    exact yields_bind (yields_drainLabelRevisions hsession) (fun changes hchanges =>
      yields_bind (yields_prepare s.emitted result.segments) (fun prepared hprepared =>
      yields_bind (yields_drainLabelRevisions hsession) (fun more hmore =>
      yields_bind (hfinals prepared hprepared) (fun finals hfinals =>
      yields_bind hwarning (fun warning hwarning =>
      yields_pure (((hchanges.append hmore).append hfinals).append hwarning))))))

end StreamingSession

end Sastt
