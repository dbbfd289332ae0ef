import Sastt.Application.RollingSession
import Sastt.Lib.Numerals
import Sastt.Lib.Programs

/-!
# The life of a session

The events of a session tell a story with a beginning and an end: the first
is `session.started`, and `session.finalized` or `session.failed` is the last
(`Protocol`). Audio is accepted in between only, and a session starts once.

That much the methods check. `finalize` and `fail` check less: `finalize` does
nothing if the session has been finalised, but does not ask whether it has
started or has failed, and `fail` asks nothing. So the events have their shape
as long as these two are called while the session is running
(`protocol_of_guarded`).

A log forgets its oldest events at some point, so the first and the last event
are found by their numbers, and the number of events a log keeps is arbitrary.
-/

namespace Sastt

open Method

/-- The event ends a session. -/
def EventType.isTerminal : EventType → Bool
  | .sessionFinalized | .sessionFailed => true
  | _ => false

/-- The event is about what is said, not about the session. -/
def EventType.isReport : EventType → Bool
  | .sessionStarted | .sessionFinalized | .sessionFailed => false
  | _ => true

section Logs

variable {P : Type}

/-- **The shape of the events**: the first is the start, and nothing comes
after an end. -/
structure Protocol (log : SessionEventLog P) : Prop where
  first : ∀ e ∈ log.events, e.sequenceNumber = 1 → e.eventType = .sessionStarted
  last : ∀ e ∈ log.events, e.eventType.isTerminal = true → e.sequenceNumber = log.sequence

/-- The log of a session that is running: it has started, and not ended. -/
structure Running (log : SessionEventLog P) : Prop where
  started : 1 ≤ log.sequence
  first : ∀ e ∈ log.events, e.sequenceNumber = 1 → e.eventType = .sessionStarted
  notEnded : ∀ e ∈ log.events, e.eventType.isTerminal = false
  sequence_le : ∀ e ∈ log.events, e.sequenceNumber ≤ log.sequence

theorem Running.protocol {log : SessionEventLog P} (h : Running log) : Protocol log where
  first := h.first
  last e he hend := by
    rw [h.notEnded e he] at hend
    cases hend

/-- **The log was extended by reports.** -/
structure Reports (log log' : SessionEventLog P) : Prop where
  sequence : log.sequence ≤ log'.sequence
  events : ∀ e ∈ log'.events, e ∈ log.events
    ∨ (log.sequence < e.sequenceNumber ∧ e.sequenceNumber ≤ log'.sequence
      ∧ e.eventType.isReport = true)

instance : Std.Refl (Reports (P := P)) := ⟨fun _ => ⟨le_refl _, fun _ he => Or.inl he⟩⟩

instance : IsTrans (SessionEventLog P) Reports where
  trans log₁ log₂ log₃ h h' := by
    refine ⟨h.sequence.trans h'.sequence, fun e he => ?_⟩
    rcases h'.events e he with he | ⟨hlt, hle, hreport⟩
    · rcases h.events e he with he | ⟨hlt, hle, hreport⟩
      · exact Or.inl he
      · exact Or.inr ⟨hlt, hle.trans h'.sequence, hreport⟩
    · exact Or.inr ⟨h.sequence.trans_lt hlt, hle, hreport⟩

/-- Reports do not end a session. -/
theorem Running.of_reports {log log' : SessionEventLog P} (h : Running log)
    (hreports : Reports log log') : Running log' where
  started := h.started.trans hreports.sequence
  first e he hone := by
    rcases hreports.events e he with he | ⟨hlt, -, -⟩
    · exact h.first e he hone
    · exact absurd h.started (by omega)
  notEnded e he := by
    rcases hreports.events e he with he | ⟨-, -, hreport⟩
    · exact h.notEnded e he
    · cases htype : e.eventType <;> rw [htype] at hreport <;> first | rfl | cases hreport
  sequence_le e he := by
    rcases hreports.events e he with he | ⟨-, hle, -⟩
    · exact (h.sequence_le e he).trans hreports.sequence
    · exact hle

/-- **What one write does to a log**: nothing, or it numbers one more event. -/
theorem log_write_cases (supply : Supply) (f : EventFields P) (w : EventWriter P) :
    (EventWriter.write supply f w).2.log = w.log
      ∨ ∃ event, event.sequenceNumber = w.log.sequence + 1 ∧ event.eventType = f.eventType
        ∧ (EventWriter.write supply f w).2.log.sequence = w.log.sequence + 1
        ∧ ∀ e ∈ (EventWriter.write supply f w).2.log.events, e ∈ w.log.events ∨ e = event := by
  show (SessionEventLog.append f _ _ w.log).2 = _ ∨ ∃ event, _ ∧ _
    ∧ (SessionEventLog.append f _ _ w.log).2.sequence = _
    ∧ ∀ e ∈ (SessionEventLog.append f _ _ w.log).2.events, _
  rcases SessionEventLog.append_cases w.log f (supply.nowMs w.drawn) (supply.ulid w.drawn) with
    ⟨event, -, hrun⟩ | ⟨-, ⟨e, hrun⟩ | ⟨-, -, hrun⟩⟩
  · rw [hrun]
    exact Or.inl rfl
  · rw [hrun]
    exact Or.inl rfl
  · rw [hrun]
    refine Or.inr ⟨w.log.nextEvent f (supply.nowMs w.drawn) (supply.ulid w.drawn), rfl, rfl, rfl,
      fun e he => ?_⟩
    rcases List.mem_append.mp (SessionEventLog.events_push_sublist.subset he) with he | he
    · exact Or.inl he
    · exact Or.inr (List.mem_singleton.mp he)

/-- Writing a report. -/
theorem within_write (supply : Supply) {f : EventFields P} (hf : f.eventType.isReport = true) :
    Within (InvImage Reports EventWriter.log) (EventWriter.write supply f) := by
  intro w
  rcases log_write_cases supply f w with hsame | ⟨event, hnumber, htype, hsequence, hevents⟩
  · show Reports w.log (EventWriter.write supply f w).2.log
    rw [hsame]
    exact Std.Refl.refl _
  · refine ⟨by omega, fun e he => ?_⟩
    rcases hevents e he with he | rfl
    · exact Or.inl he
    · exact Or.inr ⟨by omega, by omega, htype ▸ hf⟩

/-- **An end is the end** of a running session. -/
theorem Running.write_end {w : EventWriter P} (h : Running w.log) (supply : Supply)
    (f : EventFields P) : Protocol (EventWriter.write supply f w).2.log := by
  rcases log_write_cases supply f w with hsame | ⟨event, hnumber, -, hsequence, hevents⟩
  · rw [hsame]
    exact h.protocol
  · constructor
    · intro e he hone
      rcases hevents e he with he | rfl
      · exact h.first e he hone
      · exact absurd h.started (by omega)
    · intro e he hend
      rcases hevents e he with he | rfl
      · rw [h.notEnded e he] at hend
        cases hend
      · omega

end Logs

/-! ## What reports -/

section

variable {R V : Type} [Field R] [LinearOrder R] [IsStrictOrderedRing R]

namespace StreamingSession

theorem reports_onLog {α : Type} {m : Method PyError (EventWriter (EventPayload R)) α}
    (h : Within (InvImage Reports EventWriter.log) m) :
    Within (InvImage Reports StreamingSession.log) (onLog (V := V) m) :=
  within_zoom h (fun _ _ hreports => hreports)

theorem reports_writeAll (supply : Supply) {fs : List (EventFields (EventPayload R))}
    (hfs : ∀ f ∈ fs, f.eventType.isReport = true) :
    Within (InvImage Reports StreamingSession.log)
      (onLog (V := V) (EventWriter.writeAll supply fs)) :=
  reports_onLog (within_mapEach (fun f hf => within_write supply (hfs f hf)))

/-- What is done to the speakers leaves the log alone. -/
theorem reports_onSession {α : Type} (m : Method PyError (Session R V) α) :
    Within (InvImage Reports StreamingSession.log) (onSession m) :=
  within_zoom_other m (fun _ _ => rfl)

theorem reports_onSpeakers {α : Type} (m : Method PyError (SessionSpeakerState R V) α) :
    Within (InvImage Reports StreamingSession.log) (onSpeakers m) :=
  within_zoom_other m (fun _ _ => rfl)

theorem reports_emitProvisional (supply : Supply) (engine : FusionEngine R)
    (groups : List (WordGroup R)) (turns : List (SpeakerTurn R)) :
    Within (InvImage Reports StreamingSession.log)
      (emitProvisional (V := V) supply engine groups turns) := by
  refine within_bind (reports_onSession _) (fun segments => within_mapEach (fun segment _ => ?_))
  refine within_bind within_read (fun s => within_bind (reports_onLog (within_write supply rfl))
    (fun event => within_bind (within_modify (fun t => ?_)) (fun _ => within_pure _)))
  exact Std.Refl.refl t.log

theorem reports_drainLabelRevisions (supply : Supply) :
    Within (InvImage Reports StreamingSession.log)
      (drainLabelRevisions (R := R) (V := V) supply) := by
  refine within_bind within_read (fun s => within_bind (reports_onSpeakers _) (fun changes =>
    reports_writeAll supply (fun f hf => ?_)))
  obtain ⟨change, -, rfl⟩ := List.mem_map.mp hf
  rfl

theorem reports_finalPass (supply : Supply) (secondPass : Except PyError (OfflineResult R)) :
    Within (InvImage Reports StreamingSession.log) (finalPass (V := V) supply secondPass) := by
  refine within_bind within_read (fun s => ?_)
  split
  · exact within_pure _
  · refine within_bind (within_ofExcept _) (fun result =>
      within_bind (reports_drainLabelRevisions supply) (fun _ =>
      within_bind (reports_onSpeakers _) (fun prepared =>
      within_bind (reports_drainLabelRevisions supply) (fun _ =>
      within_bind (reports_writeAll supply (fun f hf => ?_)) (fun _ =>
      within_bind (reports_writeAll supply (fun f hf => ?_)) (fun _ => within_pure _))))))
    · obtain ⟨p, -, rfl⟩ := List.mem_map.mp hf
      rfl
    · unfold warningFields at hf
      split at hf
      · exact absurd hf List.not_mem_nil
      · rw [List.mem_singleton.mp hf]
        rfl

end StreamingSession

end

namespace RollingSession

section

variable {R V S : Type} [Field R] [LinearOrder R] [IsStrictOrderedRing R] {c : StreamingContext R}

/-- A method that reports, and leaves the session running. -/
structure Talks (s t : RollingSession R V S) : Prop where
  log : Reports s.log t.log
  stateMachine : t.stateMachine = s.stateMachine
  isFinalized : t.isFinalized = s.isFinalized

instance : Std.Refl (Talks (R := R) (V := V) (S := S)) := ⟨fun _ => ⟨Std.Refl.refl _, rfl, rfl⟩⟩

instance : IsTrans (RollingSession R V S) Talks where
  trans _ _ _ h h' := ⟨IsTrans.trans _ _ _ h.log h'.log, h'.stateMachine.trans h.stateMachine,
    h'.isFinalized.trans h.isFinalized⟩

theorem talks_onStreaming {α : Type} {m : Method PyError (StreamingSession R V) α}
    (h : Within (InvImage Reports StreamingSession.log) m) :
    Within Talks (onStreaming (S := S) m) :=
  within_zoom h (fun _ _ hreports => ⟨hreports, rfl, rfl⟩)

theorem talks_onSession {α : Type} (m : Method PyError (Session R V) α) :
    Within Talks (onSession (S := S) m) :=
  talks_onStreaming (StreamingSession.reports_onSession m)

/-- What changes nothing but the audio and the marks. -/
theorem talks_modify {f : RollingSession R V S → RollingSession R V S}
    (hlog : ∀ s, (f s).log = s.log) (hstate : ∀ s, (f s).stateMachine = s.stateMachine)
    (hfinalized : ∀ s, (f s).isFinalized = s.isFinalized) :
    Within Talks (modify f : Method PyError _ Unit) :=
  within_modify (fun s => ⟨by rw [hlog]; exact Std.Refl.refl _, hstate s, hfinalized s⟩)

/-! ## Phases -/

/-- **Where the state of the session says its events are.** -/
def Phase (s : RollingSession R V S) : Prop :=
  match s.stateMachine with
  | .created => s.isFinalized = false ∧ s.log.sequence = 0 ∧ s.log.events = [] ∧ s.log.keys = ∅
  | .streaming | .finalizing => s.isFinalized = false ∧ Running s.log
  | .finalized => s.isFinalized = true ∧ Protocol s.log
  | .failed => Protocol s.log

theorem Phase.protocol {s : RollingSession R V S} (h : Phase s) : Protocol s.log := by
  unfold Phase at h
  split at h
  · constructor <;> rw [h.2.2.1] <;> exact fun e he => absurd he List.not_mem_nil
  · exact h.2.protocol
  · exact h.2.protocol
  · exact h.2
  · exact h

/-- A session nobody has spoken in, whose log keeps that many events. -/
def newKeeping (c : StreamingContext R) (modelVersions : ModelVersions)
    (embeddingModelVersion : String) (retention : ℕ) : RollingSession R V S :=
  { new c modelVersions embeddingModelVersion with log := { sessionId := c.sessionId, retention } }

theorem phase_new (modelVersions : ModelVersions) (embeddingModelVersion : String)
    (retention : ℕ) :
    Phase (newKeeping (V := V) (S := S) c modelVersions embeddingModelVersion retention) :=
  ⟨rfl, rfl, rfl, rfl⟩

theorem phase_of_running {s t : RollingSession R V S}
    (hstate : s.stateMachine = .streaming ∨ s.stateMachine = .finalizing)
    (hfinalized : s.isFinalized = false) (hrunning : Running s.log) (h : Talks s t) : Phase t := by
  unfold Phase
  rw [h.stateMachine, h.isFinalized]
  rcases hstate with hstate | hstate <;> rw [hstate] <;>
    exact ⟨hfinalized, hrunning.of_reports h.log⟩

/-- The session is running. -/
theorem Phase.running {s : RollingSession R V S} (h : Phase s)
    (hstate : s.stateMachine = .streaming ∨ s.stateMachine = .finalizing) :
    s.isFinalized = false ∧ Running s.log := by
  unfold Phase at h
  rcases hstate with hstate | hstate <;> rw [hstate] at h <;> exact h

theorem Phase.start {s : RollingSession R V S} (h : Phase s) : Phase (start c s).2 := by
  unfold RollingSession.start
  rw [read_bind]
  split
  · exact h
  · next hcreated =>
    replace hcreated : s.stateMachine = .created := not_not.mp hcreated
    unfold Phase at h
    rw [hcreated] at h
    obtain ⟨hfinalized, hsequence, hevents, hkeys⟩ := h
    refine ⟨hfinalized, ?_⟩
    let event := s.log.nextEvent (s.startedFields c) (c.supply.nowMs s.drawn)
      (c.supply.ulid s.drawn)
    have hunused : (event.eventId, (s.startedFields c).revision) ∉ s.log.keys := by
      rw [hkeys]
      exact Finset.notMem_empty _
    have hfresh := SessionEventLog.append_of_fresh rfl (le_refl 1) hunused
    show Running (SessionEventLog.append (s.startedFields c) (c.supply.nowMs s.drawn)
      (c.supply.ulid s.drawn) s.log).2
    rw [hfresh]
    have hall : ∀ e ∈ (s.log.push (s.startedFields c) event).events, e.sequenceNumber
      = s.log.sequence + 1 ∧ e.eventType = .sessionStarted := by
      intro e he
      have hmem := SessionEventLog.events_push_sublist.subset he
      rw [hevents, List.nil_append, List.mem_singleton] at hmem
      rw [hmem]
      exact ⟨rfl, rfl⟩
    exact ⟨Nat.le_add_left 1 _, fun e he _ => (hall e he).2,
      fun e he => by rw [(hall e he).2]; rfl, fun e he => (hall e he).1.le⟩

/-! ## Commands -/

variable [AddCommGroup V] [Module R V] [EmbeddingSpace R V]

/-- **A rolling step reports.** -/
theorem talks_process (models : RollingModels R V S) (forceClose : Bool) :
    Within Talks (process c models forceClose) := by
  refine within_bind (talks_modify (fun _ => rfl) (fun _ => rfl) (fun _ => rfl)) (fun _ =>
    within_bind within_read (fun s => ?_))
  split
  · exact within_pure _
  · refine within_bind (within_ofExcept _) (fun diarization =>
      within_bind (within_ofExcept _) (fun osd => within_bind (talks_onSession _) (fun _ =>
      within_bind (within_ofExcept _) (fun speech => within_bind ?_ (fun _ =>
      within_bind within_read (fun t => ?_))))))
    · exact within_bind within_read (fun _ => within_bind (within_ofExcept _) (fun _ =>
        talks_modify (fun _ => rfl) (fun _ => rfl) (fun _ => rfl)))
    · dsimp only
      split
      · exact talks_onStreaming (StreamingSession.reports_drainLabelRevisions _)
      · refine within_bind (talks_onSession _) (fun calls => within_bind ?_ (fun _ =>
          within_bind (talks_onStreaming (StreamingSession.reports_drainLabelRevisions _))
            (fun _ => within_pure _)))
        exact within_bind within_read (fun _ => within_bind
          (talks_onStreaming (StreamingSession.reports_emitProvisional _ _ _ _)) (fun _ =>
            within_bind (talks_modify (fun _ => rfl) (fun _ => rfl) (fun _ => rfl))
              (fun _ => within_pure _)))

/-- **The session is finalised and failed while it runs**, or is not
finalised for the first time. -/
def Guarded (s : RollingSession R V S) : SessionCommand R V S → Prop
  | .finalize _ _ =>
    s.isFinalized = true ∨ s.stateMachine = .streaming ∨ s.stateMachine = .finalizing
  | .fail _ _ => s.stateMachine = .streaming ∨ s.stateMachine = .finalizing
  | .start | .push _ _ | .replay _ => True

theorem Phase.push {s : RollingSession R V S} (h : Phase s) (models : RollingModels R V S)
    (frame : List S) : Phase (push c models frame s).2 := by
  unfold RollingSession.push
  rw [read_bind]
  split
  · exact h
  · next hstreaming =>
    replace hstreaming : s.stateMachine = .streaming := not_not.mp hstreaming
    obtain ⟨hfinalized, hrunning⟩ := h.running (Or.inl hstreaming)
    rw [modify_bind, read_bind]
    split
    · exact phase_of_running (s := receive c frame s) (Or.inl hstreaming) hfinalized hrunning
        (talks_process models false _)
    · exact phase_of_running (s := receive c frame s) (Or.inl hstreaming) hfinalized hrunning
        (Std.Refl.refl _)

theorem Phase.finalize {s : RollingSession R V S} (h : Phase s) {models : RollingModels R V S}
    {secondPass : Except PyError (OfflineResult R)}
    (hguard : Guarded s (.finalize models secondPass)) :
    Phase (finalize c models secondPass s).2 := by
  unfold RollingSession.finalize
  rw [read_bind]
  split
  · exact h
  · next hopen =>
    obtain ⟨hfinalized, hrunning⟩ := h.running (hguard.resolve_left hopen)
    rw [modify_bind]
    have hlast := talks_process (c := c) models true
    have hfinal : Within Talks (onStreaming (S := S)
        (StreamingSession.finalPass (V := V) c.supply secondPass)) :=
      talks_onStreaming (StreamingSession.reports_finalPass c.supply secondPass)
    let s' : RollingSession R V S := { s with stateMachine := .finalizing }
    have hstep : ∀ {t : RollingSession R V S}, Talks s' t → Phase t := fun ht =>
      phase_of_running (s := s') (Or.inr rfl) hfinalized hrunning ht
    rcases hlast.bind_cases s' with ⟨e, t, ht, hrun⟩ | ⟨events, t, ht, -, hrun⟩
    · rw [hrun]
      exact hstep ht
    · rw [hrun]
      rcases hfinal.bind_cases t with ⟨e, u, hu, hrun⟩ | ⟨finals, u, hu, -, hrun⟩
      · rw [hrun]
        exact hstep (IsTrans.trans _ _ _ ht hu)
      · rw [hrun, modify_bind, read_bind]
        have hu' : Running u.log := hrunning.of_reports (IsTrans.trans s' t u ht hu).log
        rw [bind_pure_snd]
        exact ⟨rfl, hu'.write_end c.supply _⟩

theorem Phase.fail {s : RollingSession R V S} (h : Phase s) {errorCode message : String}
    (hguard : Guarded s (.fail errorCode message)) : Phase (fail c errorCode message s).2 :=
  (h.running hguard).2.write_end c.supply (failedFields c errorCode message)

/-- **A command leaves the events where the state says they are**, if it is
guarded. -/
theorem Phase.step {s : RollingSession R V S} (h : Phase s) {command : SessionCommand R V S}
    (hguard : Guarded s command) : Phase (step c s command) := by
  cases command with
  | start => exact h.start
  | push models frame => exact h.push models frame
  | finalize models secondPass => exact h.finalize hguard
  | fail errorCode message => exact h.fail hguard
  | replay lastSequenceNumber => exact h

/-- **The events of a session have their shape** as long as it is finalised
and failed only while it runs. -/
theorem protocol_of_guarded (c : StreamingContext R) (modelVersions : ModelVersions)
    (embeddingModelVersion : String) (retention : ℕ) (commands : List (SessionCommand R V S))
    (h : EachStep (step c) Guarded (newKeeping c modelVersions embeddingModelVersion retention)
      commands) :
    Along (step c) (fun s => Protocol s.log)
      (newKeeping c modelVersions embeddingModelVersion retention) commands := by
  have hphase : Along (step c) Phase
      (newKeeping c modelVersions embeddingModelVersion retention) commands :=
    along_of_eachStep (phase_new modelVersions embeddingModelVersion retention)
      (fun _ _ h hguard => h.step hguard) h
  exact fun pre hpre => (hphase pre hpre).protocol

end

/-! ## A session that is closed before it starts -/

/-- A session with the default configuration. -/
def unheard : StreamingContext ℚ := .ofConfig {}

theorem unheard_injective : Function.Injective unheard.supply.ulid := fun _ _ h =>
  toString_nat_inj h

/-- Closing a session. -/
def close : SessionCommand ℚ ℚ Unit := .finalize .deaf (.error (.other "not called"))

/-- A session that is started and closed, twice, and replayed. -/
theorem protocol_of_closed_twice :
    Along (step unheard) (fun s => Protocol s.log)
      (newKeeping unheard {} "campplus" 10000 : RollingSession ℚ ℚ Unit)
      [.start, close, close, .replay 0] := by
  refine protocol_of_guarded unheard {} "campplus" 10000 _ ?_
  refine eachStep_cons.mpr ⟨trivial, eachStep_cons.mpr ⟨Or.inr (Or.inl ?_),
    eachStep_cons.mpr ⟨Or.inl ?_, eachStep_cons.mpr ⟨trivial, eachStep_nil⟩⟩⟩⟩
  · decide +kernel
  · decide +kernel

/-- **A session that is closed first has its end at the beginning.** -/
theorem closed_before_start :
    ¬ Along (step unheard) (fun s => Protocol s.log)
      (newKeeping unheard {} "campplus" 10000 : RollingSession ℚ ℚ Unit) [close] := by
  intro h
  exact absurd (h _ (List.prefix_refl _)).first (by decide +kernel)

end RollingSession

end Sastt
