import Sastt.Api.EventRuns
import Sastt.Application.ClientTranscript
import Sastt.Application.ProvisionalSlices

/-!
# What a session sends conforms

A session is started, is sent audio, is closed, fails, and is asked for what a client has
missed, in any order and any number of times. Every event it sends, and every event it keeps for
a client that reconnects, conforms to the schema of events, and every segment among them to the
schema of segments (`sent_conforms`).

Two things are taken for granted. The diarizer finds no more speakers than it is asked for, as
the speakers of a window are what is counted. And the second pass is a run of the pipeline that
was given the id of this session, which is what `finalize` makes of it.
-/

namespace Sastt

open Method Json

variable {R V S : Type} [Field R] [LinearOrder R] [IsStrictOrderedRing R]

namespace RollingSession

variable {c : StreamingContext R}

/-- **A session that listens, whose events can be shown.** -/
def Presents (c : StreamingContext R) (s : RollingSession R V S) : Prop :=
  StreamingSession.Presents c.supply c.sessionId s.toStreamingSession

theorem yields_onStreaming_presents {α : Type} {A : α → Prop}
    {m : Method PyError (StreamingSession R V) α}
    (h : Yields (StreamingSession.Presents c.supply c.sessionId) A m) :
    Yields (Presents c) A (onStreaming (S := S) m) := by
  have hzoom : Yields (fun s : RollingSession R V S =>
      StreamingSession.Presents c.supply c.sessionId s.toStreamingSession) A
      (m.zoom toStreamingSession (fun s t => { s with toStreamingSession := t })) :=
    h.zoom (fun _ _ => rfl)
  exact hzoom

/-- The marks are not shown. -/
theorem yields_mark_presents {f : RollingSession R V S → RollingSession R V S}
    (hf : ∀ s, (f s).toStreamingSession = s.toStreamingSession) :
    Yields (Presents c) (fun _ => True) (modify f : Method PyError (RollingSession R V S) Unit) :=
  yields_modify (fun s hs => by
    unfold Presents
    rwa [hf s])

/-- Events that are neither segments nor about speakers. -/
theorem yields_edge_presents (hsession : c.sessionId ≠ "") {f : EventFields (EventPayload R)}
    (hf : FillsItsType f) :
    Yields (Presents (V := V) (S := S) c) (Presentable c.sessionId)
      (onStreaming (StreamingSession.onLog (EventWriter.write c.supply f))) :=
  yields_onStreaming_presents (StreamingSession.yields_shown hsession hf)

/-- Routing does not change what was counted. -/
theorem count_routeOverlap (count : SourceCountEstimate R) (config : SasttConfig R)
    (evidence : CountingEvidence R) (osdPositive : Bool) :
    (routeOverlap count config evidence osdPositive).count = count := by
  unfold routeOverlap
  dsimp only
  split_ifs <;> rfl

variable [AddCommGroup V] [Module R V] [EmbeddingSpace R V]

/-- **A diarizer that finds no more speakers than it is asked for**, which is five at most. -/
def Capped (models : RollingModels R V S) : Prop :=
  ∀ mono diarization, models.diarizer mono = .ok diarization → diarization.clusterIds.length ≤ 5

/-- **The word groups of a step** do not claim more. -/
theorem countable_closedGroups (models : RollingModels R V S) (p : OfflinePipeline R)
    (closes : ℕ → Bool) (mono : AudioBuffer S) {diarization : DiarizationResult R}
    (hcapped : diarization.clusterIds.length ≤ 5) (regions : List (OverlapRegion R))
    (emittedUntilMs : ℕ) (interval : TimeInterval) :
    Returns (fun calls => ∀ groups ∈ calls, ∀ g ∈ groups, StreamingSession.Countable g)
      (closedGroups (V := V) c models p closes mono diarization regions emittedUntilMs
        interval) := by
  have hregion : ∀ pending n region, Returns (fun groups => ∀ g ∈ groups,
      StreamingSession.Countable g)
      (regionGroups (V := V) c models p closes mono diarization pending n region) := by
    intro pending n region
    unfold regionGroups
    split
    · exact returns_pure (fun g hg => absurd hg List.not_mem_nil)
    · split
      · exact returns_pure (fun g hg => absurd hg List.not_mem_nil)
      · refine returns_bind (OfflinePipeline.groups_of_handleOverlapRegion _) (fun r hr =>
          returns_pure (fun g hg k hk => ?_))
        obtain ⟨slice, hfrom⟩ := hr g hg
        rw [hfrom.count, count_routeOverlap] at hk
        exact count_estimateSourceCount (by decide) hcapped region.interval _ k hk
  refine returns_bind (returns_of_true _) (fun pending _ => returns_bind
    (returns_ofExcept (fun r h => OfflinePipeline.count_of_transcribeSlices h))
    (fun alone halone => returns_bind (returns_mapEach (fun x _ => hregion _ _ _))
      (fun together htogether => returns_pure ?_)))
  refine List.forall_mem_cons.mpr ⟨fun g hg k hk => ?_, fun groups hgroups => ?_⟩
  · rw [halone g hg] at hk
    cases hk
  · obtain ⟨x, -, hcount⟩ := exists_of_forall₂ htogether hgroups
    exact hcount

theorem yields_publish (hsession : c.sessionId ≠ "") (closed : List TimeInterval)
    (turns : List (SpeakerTurn R)) {calls : List (List (WordGroup R))}
    (hcalls : ∀ groups ∈ calls, ∀ g ∈ groups, StreamingSession.Countable g) :
    Yields (Presents (V := V) (S := S) c) (Shown c.sessionId) (publish c closed turns calls) := by
  have hflat : ∀ g ∈ calls.flatten, StreamingSession.Countable g := by
    intro g hg
    obtain ⟨groups, hgroups, hg⟩ := List.mem_flatten.mp hg
    exact hcalls groups hgroups g hg
  exact yields_bind yields_read (fun s _ => yields_bind (yields_onStreaming_presents
    (StreamingSession.yields_emitProvisional hsession rfl hflat turns)) (fun events hevents =>
      yields_bind (yields_mark_presents (fun _ => rfl)) (fun _ _ => yields_pure hevents)))

/-- **A rolling step shows** what it heard. -/
theorem yields_process (hsession : c.sessionId ≠ "") {models : RollingModels R V S}
    (hmodels : Capped models) (forceClose : Bool) :
    Yields (Presents c) (Shown c.sessionId) (process c models forceClose) := by
  have hspeakers {α : Type} {m : Method PyError (Session R V) α}
      (hm : Within (Session.Calls c.supply.ulid Op.Plain) m) :
      Yields (Presents (S := S) c) (fun _ => True) (onSession m) :=
    yields_onStreaming_presents (StreamingSession.yields_onSpeakers hm)
  have hchanges : Yields (Presents (V := V) (S := S) c) (Shown c.sessionId)
      (onStreaming (StreamingSession.drainLabelRevisions c.supply)) :=
    yields_onStreaming_presents (StreamingSession.yields_drainLabelRevisions hsession)
  refine yields_bind (yields_mark_presents (fun _ => rfl)) (fun _ _ =>
    yields_bind yields_read (fun s _ => ?_))
  split
  · exact yields_pure shown_nil
  · next mono hmono =>
    refine yields_bind ((yields_ofExcept (models.diarizer mono)).and_returns
      (returns_ofExcept (fun diarization h => hmodels mono diarization h)))
      (fun diarization hcapped => yields_bind (yields_ofExcept _) (fun osd _ =>
      yields_bind (hspeakers (Session.within_buildGlobalSpeakers _ _ _ _ _)) (fun _ _ =>
      yields_bind (yields_ofExcept _) (fun speech _ => yields_bind (yields_bind yields_read
        (fun _ _ => yields_bind (yields_ofExcept _) (fun _ _ =>
          yields_mark_presents (fun _ => rfl)))) (fun _ _ =>
      yields_bind yields_read (fun t _ => ?_))))))
    dsimp only
    split
    · exact hchanges
    · refine yields_bind ((hspeakers (within_mapEach (fun x _ =>
        calls_closedGroups _ _ _ _ _ _ _ _))).and_returns (returns_onSession (returns_mapEach
          (fun x _ => countable_closedGroups _ _ _ _ hcapped.2 _ _ _)))) (fun calls hcalls => ?_)
      have hflat : ∀ groups ∈ calls.flatten, ∀ g ∈ groups, StreamingSession.Countable g := by
        intro groups hgroups
        obtain ⟨call, hcall, hgroups⟩ := List.mem_flatten.mp hgroups
        obtain ⟨x, -, hcount⟩ := exists_of_forall₂ hcalls.2 hcall
        exact hcount groups hgroups
      exact yields_bind (yields_publish hsession _ _ hflat) (fun events hevents =>
        yields_bind hchanges (fun changes hchanges => yields_pure (hevents.append hchanges)))

/-! ## Commands and runs -/

/-- **A command as the service gives it**: the diarizer keeps to the number of speakers it is
asked for, and the second pass is a run of the offline pipeline for this session. -/
inductive AsServed (c : StreamingContext R) : SessionCommand R V S → Prop
  | start : AsServed c .start
  | push {models : RollingModels R V S} (hmodels : Capped models) (frame : List S) :
    AsServed c (.push models frame)
  | finalize {models : RollingModels R V S} (hmodels : Capped models) {p : OfflinePipeline R}
    {rc : RunContext R} (hrc : rc.sessionId = c.sessionId) {offline : OfflineModels R V S}
    {ulids : ℕ → String} (hulids : Function.Injective ulids) (pinned : Option String) :
    AsServed c (.finalize models (p.run rc offline ulids pinned))
  | fail (errorCode message : String) : AsServed c (.fail errorCode message)
  | replay (lastSequenceNumber : ℤ) : AsServed c (.replay lastSequenceNumber)

/-- **What a run of the pipeline gives** can be shown as final. -/
theorem showable_of_run {p : OfflinePipeline R} {rc : RunContext R} {offline : OfflineModels R V S}
    {ulids : ℕ → String} {pinned : Option String} {result : OfflineResult R}
    (hsession : rc.sessionId ≠ "") (hulids : Function.Injective ulids)
    (hok : p.run rc offline ulids pinned = .ok result) :
    ∀ seg ∈ result.segments, StreamingSession.Showable true seg := by
  intro seg hseg
  refine ⟨OfflinePipeline.publishable_of_run hsession hulids hok seg hseg, ?_⟩
  have hfinal : Returns (fun result => ∀ seg ∈ result.segments, seg.isFinal = true)
      (p.runOn rc offline ulids pinned) := by
    refine returns_bind (returns_of_true _) (fun _ _ => returns_bind (returns_of_true _)
      (fun _ _ => returns_bind (returns_of_true _) (fun _ _ => returns_bind (returns_of_true _)
      (fun _ _ => returns_bind (returns_of_true _) (fun _ _ => returns_bind (returns_of_true _)
      (fun _ _ => returns_bind StreamingSession.isFinal_fuse (fun segments hsegments =>
        returns_pure (fun seg hseg => hsegments seg ?_))))))))
    exact (List.perm_insertionSort _ _).mem_iff.mp hseg
  exact hfinal _ result _ (Prod.ext (show _ = Except.ok result from hok) rfl) seg hseg

/-- **A command keeps the invariant**, and returns events that can be shown. -/
theorem yields_perform (hsession : c.sessionId ≠ "") {command : SessionCommand R V S}
    (hcommand : AsServed c command) :
    Yields (Presents c) (Shown c.sessionId) (perform c command) := by
  have hsingle : ∀ e, Presentable (R := R) c.sessionId e → Shown c.sessionId [e] :=
    fun e he => List.forall_mem_singleton.mpr he
  cases hcommand with
  | start =>
    refine yields_bind (yields_bind yields_read (fun s _ => ?_))
      (fun e he => yields_pure (hsingle e he))
    split
    · exact yields_throw _
    · exact yields_bind (yields_mark_presents (fun _ => rfl)) (fun _ _ =>
        yields_edge_presents hsession ⟨⟨rfl, le_refl 1⟩, rfl, rfl, rfl⟩)
  | @push models hmodels frame =>
    refine yields_bind yields_read (fun s _ => ?_)
    split
    · exact yields_throw _
    · refine yields_bind (yields_modify (fun t ht => ?_)) (fun _ _ =>
        yields_bind yields_read (fun t _ => ?_))
      · exact ⟨ht.log, ⟨ht.wellFormed.speakers, ht.wellFormed.writer, ht.wellFormed.emitted⟩,
          ht.minted⟩
      · split
        · exact yields_process hsession hmodels false
        · exact yields_pure shown_nil
  | @finalize models hmodels p rc hrc offline ulids hulids pinned =>
    have hpass : ∀ result, p.run rc offline ulids pinned = .ok result → ∀ seg ∈ result.segments,
        StreamingSession.Showable true seg :=
      fun result hok => showable_of_run (hrc.symm ▸ hsession) hulids hok
    refine yields_bind yields_read (fun s _ => ?_)
    split
    · exact yields_pure shown_nil
    · exact yields_bind (yields_mark_presents (fun _ => rfl)) (fun _ _ =>
        yields_bind (yields_process hsession hmodels true) (fun events hevents =>
        yields_bind (yields_onStreaming_presents
          (StreamingSession.yields_finalPass hsession hpass)) (fun finals hfinals =>
        yields_bind (yields_mark_presents (fun _ => rfl)) (fun _ _ =>
        yields_bind yields_read (fun t _ => yields_bind (yields_edge_presents hsession
          ⟨⟨rfl, le_refl 1⟩, rfl, rfl, rfl⟩) (fun last hlast =>
        yields_pure ((hevents.append hfinals).append (hsingle last hlast))))))))
  | fail errorCode message =>
    exact yields_bind (yields_bind (yields_mark_presents (fun _ => rfl)) (fun _ _ =>
      yields_edge_presents hsession
        ⟨⟨rfl, le_refl 1⟩, ⟨errorCode, message, rfl⟩, rfl, rfl⟩))
      (fun e he => yields_pure (hsingle e he))
  | replay lastSequenceNumber =>
    refine triple_read (fun s hs => triple_ofExcept (fun es hes t ht => ⟨ht.2, fun e he => ?_⟩)
      (fun _ _ t ht => ht.2))
    exact hs.log.logged e (SessionEventLog.mem_of_replayFrom hes he)

omit [AddCommGroup V] [Module R V] [EmbeddingSpace R V] in
theorem presents_new (c : StreamingContext R) (modelVersions : ModelVersions)
    (embeddingModelVersion : String) :
    Presents c (new (V := V) (S := S) c modelVersions embeddingModelVersion) where
  log := ⟨rfl, fun _ he => absurd he List.not_mem_nil, fun key e he => by cases he⟩
  wellFormed := ⟨SessionSpeakerState.wellFormed_new _ _ _, ⟨SessionEventLog.wellFormed_new _ _,
    fun key hkey => absurd hkey (Finset.notMem_empty key)⟩, fun _ he => absurd he List.not_mem_nil⟩
  minted _ h := absurd h List.not_mem_nil

/-- **What is sent in a run can be shown**, and what is logged. -/
theorem shown_sent (hsession : c.sessionId ≠ "") {s : RollingSession R V S} (hs : Presents c s)
    {commands : List (SessionCommand R V S)}
    (hcommands : ∀ command ∈ commands, AsServed c command) :
    Shown c.sessionId (sent c s commands) ∧ Presents c (commands.foldl (step c) s) := by
  induction commands generalizing s with
  | nil => exact ⟨shown_nil, hs⟩
  | cons command commands ih =>
    have hperform := yields_perform hsession (hcommands command List.mem_cons_self)
    have hstep : Presents c (step c s command) := by
      rw [step_eq_perform]
      exact hperform.snd hs
    obtain ⟨hrest, hlast⟩ := ih hstep (fun other h => hcommands other (List.mem_cons_of_mem _ h))
    refine ⟨Shown.append ?_ hrest, hlast⟩
    unfold reply
    rcases hrun : perform c command s with ⟨e | events, t⟩
    · exact shown_nil
    · exact (hperform.ok hs hrun).2

/-- **Everything a session sends conforms**, in every run: the envelope of an event to the schema
of events, what it carries to the type it has, and a segment to the schema of segments and, in
its older version, to the older one. So does everything it keeps for a client that reconnects. -/
theorem sent_conforms (c : StreamingContext R) (hsession : c.sessionId ≠ "")
    (modelVersions : ModelVersions) (embeddingModelVersion : String)
    (commands : List (SessionCommand R V S)) (hcommands : ∀ command ∈ commands, AsServed c command)
    (edge : List (String × Document R)) (e : ServerEvent (EventPayload R))
    (he : e ∈ sent c (new c modelVersions embeddingModelVersion) commands
      ∨ e ∈ (commands.foldl (step c) (new c modelVersions embeddingModelVersion)).log.events) :
    obj (e.toDict edge) ∈ SERVER_EVENT_V2_SCHEMA R
      ∧ e.sessionId = c.sessionId
      ∧ CarriesItsType e.eventType e.payload e.isFinal e.supersedesEventId
      ∧ ∀ segment, e.payload = some (.segment segment) →
        obj segment.toDict ∈ TRANSCRIPT_SEGMENT_V2_SCHEMA R
          ∧ ∃ v1, downgradeSegmentToV1 segment.toDict = .ok v1 ∧ obj v1 ∈ SEGMENT_V1_SCHEMA R := by
  obtain ⟨hsent, hlast⟩ := shown_sent hsession
    (presents_new (V := V) (S := S) c modelVersions embeddingModelVersion) hcommands
  have hshown : Presentable c.sessionId e := he.elim (hsent e) (hlast.log.logged e)
  refine ⟨(obj_mem_serverEventSchema_iff edge e).mpr hshown.toNumbered, hshown.ofSession,
    hshown.carries, fun segment hsegment => ?_⟩
  obtain ⟨seg, rfl, hpublishable⟩ := hshown.carries.exists_publishable hsegment
  exact ⟨(obj_mem_schema_iff seg).mpr hpublishable, downgrade_conforms hpublishable⟩

/-- A session in which two sentences are said, until it is closed; and a client that has missed
all of it. -/
def saysYesWell : List (SessionCommand ℚ ℚ Unit) :=
  hearsOnce ++ [.finalize (hearing yesWell) (passOver yesWell), .replay 0]

theorem asServed_saysYesWell : ∀ command ∈ saysYesWell, AsServed unheard command := by
  have hcapped : Capped (hearing yesWell) := by
    rintro mono diarization ⟨⟩
    show oneTurn.clusterIds.length ≤ 5
    decide +kernel
  have hulids : Function.Injective (fun n : ℕ => "pass_" ++ toString n) := fun i j h =>
    toString_nat_inj ((String.append_right_inj "pass_").mp h)
  simp only [saysYesWell, hearsOnce, List.cons_append, List.nil_append, List.forall_mem_cons]
  exact ⟨.start, .push hcapped _, .finalize hcapped rfl hulids none, .replay 0,
    List.forall_mem_nil _⟩

theorem sent_conforms_yesWell :
    ∃ e ∈ sent unheard (new unheard {} "campplus") saysYesWell, e.eventType = .transcriptFinal
      ∧ obj (e.toDict []) ∈ SERVER_EVENT_V2_SCHEMA ℚ
      ∧ e.sessionId = unheard.sessionId
      ∧ CarriesItsType e.eventType e.payload e.isFinal e.supersedesEventId
      ∧ ∀ segment, e.payload = some (.segment segment) →
        obj segment.toDict ∈ TRANSCRIPT_SEGMENT_V2_SCHEMA ℚ
          ∧ ∃ v1, downgradeSegmentToV1 segment.toDict = .ok v1
            ∧ obj v1 ∈ SEGMENT_V1_SCHEMA ℚ := by
  have hfinal : ∃ e ∈ sent unheard (new unheard {} "campplus") saysYesWell,
      e.eventType = .transcriptFinal := by decide +kernel
  obtain ⟨e, he, htype⟩ := hfinal
  exact ⟨e, he, htype, sent_conforms unheard (by decide) {} "campplus" saysYesWell
    asServed_saysYesWell [] e (.inl he)⟩

end RollingSession

end Sastt
