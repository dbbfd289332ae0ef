import Sastt.Application.SessionAudio
import Sastt.Application.SessionLifecycle
import Sastt.Lib.Triples

/-!
# What the methods of a session send

The events a method of a session returns are sent to the client whose message
was handled. They are about what was said, or they open or close the session;
none reports a failure (`sends_push`, `sends_finalize`). An event may be one
that was sent before, since a final segment whose key the log has seen is
answered by the earlier event, so this takes an invariant on what the log
remembers (`FinalsReport`).
-/

namespace Sastt

open Method

variable {R V S : Type} [Field R] [LinearOrder R] [IsStrictOrderedRing R]

/-- **The final events a log remembers** are about what was said. -/
def FinalsReport {P : Type} (log : SessionEventLog P) : Prop :=
  ∀ key e, log.finalByDedupKey key = some e → e.eventType.isReport = true

/-- An event that is sent, and is no report of a failure. -/
def NoFailure {P : Type} (e : ServerEvent P) : Prop := e.eventType ≠ .sessionFailed

theorem noFailure_of_isReport {P : Type} {e : ServerEvent P} (h : e.eventType.isReport = true) :
    NoFailure e := by
  intro hfailed
  rw [hfailed] at h
  cases h

section Writer

variable {P : Type} {supply : Supply} {f : EventFields P}

/-- **Writing** returns the event that was given, or a final one from before. -/
theorem yields_write (hf : f.eventType.isReport = true ∨ f.finalKey = none) :
    Yields (fun w : EventWriter P => FinalsReport w.log)
      (fun e => e.eventType = f.eventType ∨ e.eventType.isReport = true)
      (EventWriter.write supply f) := by
  intro w hw
  rcases SessionEventLog.append_cases w.log f (supply.nowMs w.drawn) (supply.ulid w.drawn) with
    ⟨event, hevent, happend⟩ | ⟨-, ⟨e, happend⟩ | ⟨-, -, happend⟩⟩
  · have hrun : EventWriter.write supply f w = (.ok event, ⟨w.log, w.drawn + 1⟩) := by
      unfold EventWriter.write
      rw [happend]
    obtain ⟨key, -, hkey⟩ := Option.bind_eq_some_iff.mp hevent
    simp only [hrun, Prod.mk.injEq, Except.ok.injEq, reduceCtorEq, false_and, false_imp_iff,
      implies_true, and_true, and_imp, forall_eq', forall_apply_eq_imp_iff]
    exact ⟨hw, Or.inr (hw key event hkey)⟩
  · have hrun : EventWriter.write supply f w = (.error e, ⟨w.log, w.drawn + 1⟩) := by
      unfold EventWriter.write
      rw [happend]
    simp only [hrun, Prod.mk.injEq, reduceCtorEq, false_and, false_imp_iff, implies_true,
      true_and, and_imp, Except.error.injEq, forall_eq', forall_apply_eq_imp_iff]
    exact hw
  · set event := w.log.nextEvent f (supply.nowMs w.drawn) (supply.ulid w.drawn) with hevent
    have hrun : EventWriter.write supply f w = (.ok event, ⟨w.log.push f event, w.drawn + 1⟩) := by
      unfold EventWriter.write
      rw [happend]
    simp only [hrun, Prod.mk.injEq, Except.ok.injEq, reduceCtorEq, false_and, false_imp_iff,
      implies_true, and_true, and_imp, forall_eq', forall_apply_eq_imp_iff]
    refine ⟨fun key e he => ?_, Or.inl rfl⟩
    rw [EventWriter.finalByDedupKey_push] at he
    split at he
    · next hkey =>
      rw [← Option.some.inj he]
      exact hf.resolve_right (fun hnone => by rw [hnone] at hkey; cases hkey)
    · exact hw key e he

theorem yields_writeAll {fs : List (EventFields P)} (hfs : ∀ f ∈ fs, f.eventType.isReport = true) :
    Yields (fun w : EventWriter P => FinalsReport w.log) (fun es => ∀ e ∈ es, NoFailure e)
      (EventWriter.writeAll supply fs) :=
  yields_mapEach (fun f hf => (yields_write (Or.inl (hfs f hf))).weaken (fun _ he =>
    noFailure_of_isReport (he.elim (fun htype => htype ▸ hfs f hf) id)))

end Writer

namespace StreamingSession

variable {supply : Supply}

/-- The invariant, of the log of a session. -/
def FinalsReport (s : StreamingSession R V) : Prop := Sastt.FinalsReport s.log

/-- A method that sends, and reports no failure. -/
def Sends (m : Method PyError (StreamingSession R V) (List (ServerEvent (EventPayload R)))) :
    Prop := Yields FinalsReport (fun es => ∀ e ∈ es, NoFailure e) m

theorem yields_silent {α : Type} {m : Method PyError (StreamingSession R V) α}
    (hm : Within (InvImage (· = ·) log) m) : Yields FinalsReport (fun _ => True) m :=
  yields_of_snd (fun s hs => by
    unfold FinalsReport
    rw [← show s.log = (m s).2.log from hm s]
    exact hs)

theorem yields_onLog {α : Type} {A : α → Prop}
    {m : Method PyError (EventWriter (EventPayload R)) α}
    (h : Yields (fun w => Sastt.FinalsReport w.log) A m) :
    Yields FinalsReport A (onLog (V := V) m) := by
  show Yields (fun s : StreamingSession R V => Sastt.FinalsReport s.writer.log) A (m.zoom writer _)
  exact Yields.zoom h (fun _ _ => rfl)

theorem sends_writeAll {fs : List (EventFields (EventPayload R))}
    (hfs : ∀ f ∈ fs, f.eventType.isReport = true) :
    Sends (V := V) (onLog (EventWriter.writeAll supply fs)) :=
  yields_onLog (yields_writeAll hfs)

theorem sends_drainLabelRevisions :
    Sends (drainLabelRevisions (R := R) (V := V) supply) := by
  refine yields_bind yields_read (fun s _ => yields_bind (yields_silent (fun _ => rfl))
    (fun changes _ => sends_writeAll (fun f hf => ?_)))
  obtain ⟨change, -, rfl⟩ := List.mem_map.mp hf
  rfl

theorem yields_emitSegment (segment : TranscriptSegment R) :
    Yields (FinalsReport (R := R) (V := V)) NoFailure (emitSegment supply segment) := by
  refine yields_bind yields_read (fun s _ => ?_)
  have hwrite : Yields (FinalsReport (R := R) (V := V)) NoFailure
      (onLog (EventWriter.write supply (s.provisionalFields segment))) :=
    (yields_onLog (yields_write (Or.inl rfl))).weaken (fun e he =>
      noFailure_of_isReport (he.elim (fun htype => htype ▸ rfl) id))
  exact yields_bind hwrite (fun e he => yields_bind (yields_silent (fun _ => rfl))
    (fun _ _ => yields_pure he))

theorem sends_emitProvisional (engine : FusionEngine R) (groups : List (WordGroup R))
    (turns : List (SpeakerTurn R)) :
    Sends (emitProvisional (V := V) supply engine groups turns) := by
  have hfuse : Yields (FinalsReport (R := R) (V := V)) (fun _ => True)
      (onSession (engine.fuse supply.ulid groups turns false 1 none)) :=
    yields_silent (fun _ => rfl)
  exact yields_bind hfuse (fun segments _ => yields_mapEach (fun segment _ =>
    yields_emitSegment segment))

/-- Lists of events that go together. -/
theorem noFailure_append {P : Type} {es es' : List (ServerEvent P)} (h : ∀ e ∈ es, NoFailure e)
    (h' : ∀ e ∈ es', NoFailure e) : ∀ e ∈ es ++ es', NoFailure e :=
  List.forall_mem_append.mpr ⟨h, h'⟩

theorem sends_finalPass (secondPass : Except PyError (OfflineResult R)) :
    Sends (finalPass (V := V) supply secondPass) := by
  refine yields_bind yields_read (fun s _ => ?_)
  split
  · exact yields_pure (fun e he => absurd he List.not_mem_nil)
  · have hprepare : ∀ result : OfflineResult R, Yields (FinalsReport (R := R) (V := V))
        (fun _ => True) (onSpeakers (prepare s.emitted ∅ result.segments)) :=
      fun _ => yields_silent (fun _ => rfl)
    have hfinals : ∀ (result : OfflineResult R)
        (prepared : List (TranscriptSegment R × Option String)),
        Sends (V := V) (onLog (EventWriter.writeAll supply
          (prepared.map (fun p => finalFields result p.1 p.2)))) := fun result prepared =>
      sends_writeAll (fun f hf => by obtain ⟨p, -, rfl⟩ := List.mem_map.mp hf; rfl)
    have hwarning : ∀ result : OfflineResult R,
        Sends (V := V) (onLog (EventWriter.writeAll supply (warningFields result))) := fun result =>
      sends_writeAll (fun f hf => by
        unfold warningFields at hf
        split at hf
        · exact absurd hf List.not_mem_nil
        · rw [List.mem_singleton.mp hf]
          rfl)
    exact yields_bind (yields_ofExcept _) (fun result _ =>
      yields_bind sends_drainLabelRevisions (fun changes hchanges =>
      yields_bind (hprepare result) (fun prepared _ =>
      yields_bind sends_drainLabelRevisions (fun more hmore =>
      yields_bind (hfinals result prepared) (fun finals hfinals =>
      yields_bind (hwarning result) (fun warning hwarning =>
      yields_pure (noFailure_append (noFailure_append (noFailure_append hchanges hmore) hfinals)
        hwarning)))))))

end StreamingSession

namespace RollingSession

variable {c : StreamingContext R}

/-- The invariant, of a session that listens. -/
def FinalsReport (s : RollingSession R V S) : Prop := Sastt.FinalsReport s.log

/-- A method that sends, and reports no failure. -/
def Sends (m : Method PyError (RollingSession R V S) (List (ServerEvent (EventPayload R)))) :
    Prop := Yields FinalsReport (fun es => ∀ e ∈ es, NoFailure e) m

theorem yields_onStreaming {α : Type} {A : α → Prop}
    {m : Method PyError (StreamingSession R V) α} (h : Yields StreamingSession.FinalsReport A m) :
    Yields FinalsReport A (onStreaming (S := S) m) := by
  show Yields (fun s : RollingSession R V S => StreamingSession.FinalsReport s.toStreamingSession) A
    (m.zoom toStreamingSession _)
  exact Yields.zoom h (fun _ _ => rfl)

theorem yields_onSession {α : Type} (m : Method PyError (Session R V) α) :
    Yields FinalsReport (fun _ => True) (onSession (S := S) m) :=
  yields_onStreaming (StreamingSession.yields_silent (fun _ => rfl))

/-- What changes nothing but the audio and the marks. -/
theorem yields_mark {f : RollingSession R V S → RollingSession R V S}
    (hf : ∀ s, (f s).log = s.log) :
    Yields FinalsReport (fun _ => True) (modify f : Method PyError (RollingSession R V S) Unit) :=
  yields_modify (fun s hs => by unfold FinalsReport; rwa [hf s])

theorem sends_publish (closed : List TimeInterval) (turns : List (SpeakerTurn R))
    (calls : List (List (WordGroup R))) :
    Sends (publish (V := V) (S := S) c closed turns calls) :=
  yields_bind yields_read (fun _ _ =>
    yields_bind (yields_onStreaming (StreamingSession.sends_emitProvisional _ _ _))
      (fun _ hevents => yields_bind (yields_mark (fun _ => rfl)) (fun _ _ => yields_pure hevents)))

variable [AddCommGroup V] [Module R V] [EmbeddingSpace R V]

theorem yields_resolveLanguage (models : RollingModels R V S) (mono : AudioBuffer S)
    (speech : List TimeInterval) :
    Yields FinalsReport (fun _ => True) (resolveLanguage c models mono speech) :=
  yields_bind yields_read (fun _ _ => yields_bind (yields_ofExcept _) (fun _ _ =>
    yields_mark (fun _ => rfl)))

/-- **A rolling step sends** what it heard. -/
theorem sends_process (models : RollingModels R V S) (forceClose : Bool) :
    Sends (process c models forceClose) := by
  refine yields_bind (yields_mark (fun _ => rfl)) (fun _ _ =>
    yields_bind yields_read (fun s _ => ?_))
  split
  · exact yields_pure (fun e he => absurd he List.not_mem_nil)
  · refine yields_bind (yields_ofExcept _) (fun diarization _ =>
      yields_bind (yields_ofExcept _) (fun osd _ => yields_bind (yields_onSession _) (fun _ _ =>
      yields_bind (yields_ofExcept _) (fun speech _ =>
      yields_bind (yields_resolveLanguage models _ speech) (fun _ _ =>
      yields_bind yields_read (fun t _ => ?_))))))
    dsimp only
    split
    · exact yields_onStreaming StreamingSession.sends_drainLabelRevisions
    · exact yields_bind (yields_onSession _) (fun calls _ =>
        yields_bind (sends_publish _ _ _) (fun events hevents =>
        yields_bind (yields_onStreaming StreamingSession.sends_drainLabelRevisions)
          (fun changes hchanges =>
            yields_pure (StreamingSession.noFailure_append hevents hchanges))))

omit [AddCommGroup V] [Module R V] [EmbeddingSpace R V] in
/-- Opening and closing events are no reports, but no failures either. -/
theorem yields_edge {f : EventFields (EventPayload R)} (hkey : f.finalKey = none)
    (hf : f.eventType ≠ .sessionFailed) :
    Yields (FinalsReport (V := V) (S := S)) NoFailure
      (onStreaming (StreamingSession.onLog (EventWriter.write c.supply f))) :=
  yields_onStreaming (StreamingSession.yields_onLog ((yields_write (Or.inr hkey)).weaken
    (fun e he => he.elim (fun htype => by rw [NoFailure, htype]; exact hf) noFailure_of_isReport)))

omit [AddCommGroup V] [Module R V] [EmbeddingSpace R V] in
theorem yields_start : Yields (FinalsReport (V := V) (S := S)) NoFailure (start c) := by
  refine yields_bind yields_read (fun s _ => ?_)
  split
  · exact yields_throw _
  · exact yields_bind (yields_mark (fun _ => rfl)) (fun _ _ => yields_edge rfl nofun)

theorem sends_push (models : RollingModels R V S) (frame : List S) :
    Sends (push c models frame) := by
  refine yields_bind yields_read (fun s _ => ?_)
  split
  · exact yields_throw _
  · refine yields_bind (yields_mark (fun _ => rfl)) (fun _ _ =>
      yields_bind yields_read (fun t _ => ?_))
    split
    · exact sends_process models false
    · exact yields_pure (fun e he => absurd he List.not_mem_nil)

theorem sends_finalize (models : RollingModels R V S)
    (secondPass : Except PyError (OfflineResult R)) : Sends (finalize c models secondPass) := by
  refine yields_bind yields_read (fun s _ => ?_)
  split
  · exact yields_pure (fun e he => absurd he List.not_mem_nil)
  · exact yields_bind (yields_mark (fun _ => rfl)) (fun _ _ =>
      yields_bind (sends_process models true) (fun events hevents =>
      yields_bind (yields_onStreaming (StreamingSession.sends_finalPass secondPass))
        (fun finals hfinals => yields_bind (yields_mark (fun _ => rfl)) (fun _ _ =>
      yields_bind yields_read (fun t _ => yields_bind (yields_edge rfl nofun) (fun last hlast =>
      yields_pure (StreamingSession.noFailure_append
        (StreamingSession.noFailure_append hevents hfinals)
        (List.forall_mem_singleton.mpr hlast))))))))

end RollingSession

namespace SpooledSession

variable [AddCommGroup V] [Module R V] [EmbeddingSpace R V] {c : StreamingContext R}

/-- The invariant, of a session with a spool. -/
def FinalsReport (s : SpooledSession R V) : Prop := Sastt.FinalsReport s.log

/-- A method that sends, and reports no failure. -/
def Sends (m : Method PyError (SpooledSession R V) (List (ServerEvent (EventPayload R)))) : Prop :=
  Yields FinalsReport (fun es => ∀ e ∈ es, NoFailure e) m

omit [AddCommGroup V] [Module R V] [EmbeddingSpace R V] in
theorem yields_onRolling {α : Type} {A : α → Prop}
    {m : Method PyError (RollingSession R V ℚ) α} (h : Yields RollingSession.FinalsReport A m) :
    Yields FinalsReport A (onRolling m) := by
  show Yields (fun s : SpooledSession R V => RollingSession.FinalsReport s.toRollingSession) A
    (m.zoom toRollingSession _)
  exact Yields.zoom h (fun _ _ => rfl)

/-- **A frame of audio sends** what was heard. -/
theorem sends_push (models : RollingModels R V ℚ) (payload : List UInt8) :
    Sends (push c models payload) := by
  refine yields_bind yields_read (fun s _ => ?_)
  split
  · exact yields_throw _
  · split
    · exact yields_throw _
    · exact yields_bind (yields_modify (fun _ ht => ht)) (fun _ _ =>
        yields_onRolling (RollingSession.sends_push models _))

/-- **Closing a session sends** what was heard, and that it is closed. -/
theorem sends_finalize (models : RollingModels R V ℚ)
    (offline : Wav → Except PyError (OfflineResult R)) : Sends (finalize c models offline) :=
  yields_bind yields_read (fun _ _ =>
    yields_onRolling (RollingSession.sends_finalize models _))

omit [AddCommGroup V] [Module R V] [EmbeddingSpace R V] in
/-- Reporting a failure is no final event either. -/
theorem FinalsReport.fail {s : SpooledSession R V} (hs : FinalsReport s)
    (errorCode message : String) :
    FinalsReport (onRolling (RollingSession.fail c errorCode message) s).2 := by
  have hfail : Yields (RollingSession.FinalsReport (V := V) (S := ℚ)) (fun _ => True)
      (RollingSession.fail c errorCode message) :=
    yields_bind (RollingSession.yields_mark (fun _ => rfl)) (fun _ _ =>
      RollingSession.yields_onStreaming (StreamingSession.yields_onLog
        ((yields_write (Or.inr rfl)).weaken (fun _ _ => trivial))))
  exact (yields_onRolling hfail).snd hs

/-- **Every command keeps the invariant.** -/
theorem FinalsReport.step {s : SpooledSession R V} (hs : FinalsReport s) (command : Command R V) :
    FinalsReport (step c s command) := by
  cases command with
  | start => exact (yields_onRolling RollingSession.yields_start).snd hs
  | push models payload => exact (sends_push models payload).snd hs
  | finalize models offline => exact (sends_finalize models offline).snd hs
  | fail errorCode message => exact hs.fail errorCode message
  | replay lastSequenceNumber => exact hs

omit [AddCommGroup V] [Module R V] [EmbeddingSpace R V] in
theorem finalsReport_new (keepSessionAudio : Bool) (modelVersions : ModelVersions)
    (embeddingModelVersion : String) :
    FinalsReport (new (V := V) c keepSessionAudio modelVersions embeddingModelVersion) :=
  fun key e he => by cases he

end SpooledSession

end Sastt
