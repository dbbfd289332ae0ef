import Sastt.Application.SpeakerSlots

/-!
# Rolling sessions that are starved

A rolling step begins by giving each cluster of its window a speaker, and
raises if there is no place left. That is the only way for it to raise an error
of a state machine, if the models raise none (`process_of_room`,
`process_of_full`). Temporary speakers take their places for good: a step links
no source to them, and nothing promotes or merges them before the final pass.
So a session in which people talk at once before one of them talks alone may
have no place for the first cluster it hears (`cluster_is_starved`).
-/

namespace Sastt

open Method

variable {R V S : Type} [Field R] [LinearOrder R] [IsStrictOrderedRing R] [AddCommGroup V]
  [Module R V] [EmbeddingSpace R V]

/-- The models of a step raise no error of a state machine. -/
structure RollingModels.NotInvalid (models : RollingModels R V S) : Prop where
  adapters : models.adapters.NotInvalid
  diarizer : ∀ mono, Fails Sastt.NotInvalid (models.diarizer mono)
  overlapDetector : ∀ mono, Fails Sastt.NotInvalid (models.overlapDetector mono)
  detectLanguage : ∀ mono, Fails Sastt.NotInvalid (models.detectLanguage mono)

namespace RollingSession

open StreamingSession

variable {c : StreamingContext R} {told : List (ServerEvent (EventPayload R))}
  {clusters : List String}

/-- A session that has told its client that much, with speakers for some
clusters. -/
structure Seated (c : StreamingContext R) (told : List (ServerEvent (EventPayload R)))
    (clusters : List String) (s : RollingSession R V S) : Prop where
  said : Said c.supply told s.toStreamingSession
  named : ∀ cluster ∈ clusters, s.speakers.Named cluster

/-- **A method of the speakers**, at work in a session. -/
theorem seated_of_triple {α : Type} {m : Method PyError (Session R V) α}
    {P : Session R V → Prop} (hcalls : Within (Session.Calls c.supply.ulid Op.Plain) m)
    (hm : Triple (fun u => u.Ready c.supply.ulid [] ∧ P u) m
      (fun _ => Session.Ready c.supply.ulid clusters) (fun e _ => NotInvalid e)) :
    Triple (fun s : RollingSession R V S => Said c.supply told s.toStreamingSession
        ∧ P ⟨s.speakers, s.drawn⟩)
      (onSession m) (fun _ => Seated c told clusters) (fun e _ => NotInvalid e) := by
  have hsaid : Triple (fun s : RollingSession R V S => Said c.supply told s.toStreamingSession)
      (onSession m) (fun _ s => Said c.supply told s.toStreamingSession)
      (fun _ s => Said c.supply told s.toStreamingSession) :=
    triple_onStreaming (said_onSession hcalls)
  intro s hs
  have hready : Session.Ready c.supply.ulid [] ⟨s.speakers, s.drawn⟩ :=
    ⟨hs.1.wellFormed.speakers, hs.1.minted, fun _ h => absurd h List.not_mem_nil⟩
  constructor
  · intro a t hok
    have hsaid' := hsaid.ok hs.1 hok
    obtain ⟨u, hu, rfl⟩ := zoom_eq_ok
      (show onStreaming (StreamingSession.onSession m) s = (.ok a, t) from hok)
    obtain ⟨v, hv, rfl⟩ := zoom_eq_ok hu
    exact ⟨hsaid', (hm.ok ⟨hready, hs.2⟩ hv).named⟩
  · intro e t herror
    have hraised : (m ⟨s.speakers, s.drawn⟩).1 = .error e := congrArg Prod.fst herror
    exact hm.error ⟨hready, hs.2⟩ (Prod.ext hraised rfl)

/-- A safe one. -/
theorem seated_onSession {α : Type} {m : Method PyError (Session R V) α}
    (hcalls : Within (Session.Calls c.supply.ulid Op.Plain) m)
    (hsafe : Session.Safe c.supply.ulid clusters m) :
    Triple (Seated (S := S) c told clusters) (onSession m) (fun _ => Seated c told clusters)
      (fun e _ => NotInvalid e) := by
  have hm : Triple (fun u => u.Ready c.supply.ulid []
        ∧ ∀ cluster ∈ clusters, u.speakers.Named cluster) m
      (fun _ => Session.Ready c.supply.ulid clusters) (fun e _ => NotInvalid e) :=
    hsafe.weaken (fun u hu => ⟨hu.1.speakers, hu.1.minted, hu.2⟩) (fun _ _ hu => hu)
      (fun _ _ he => he.1)
  exact (seated_of_triple hcalls hm).weaken (fun s hs => ⟨hs.said, hs.named⟩) (fun _ _ hs => hs)
    (fun _ _ he => he)

section

omit [AddCommGroup V] [Module R V] [EmbeddingSpace R V]

/-- What changes only the audio and the marks. -/
theorem seated_modify {f : RollingSession R V S → RollingSession R V S}
    (hf : ∀ s, (f s).toStreamingSession = s.toStreamingSession) :
    Triple (Seated c told clusters) (modify f) (fun _ => Seated c told clusters)
      (fun e _ => NotInvalid e) :=
  triple_modify (fun s hs => ⟨by rw [hf]; exact hs.said, by rw [hf]; exact hs.named⟩)

theorem seated_ofExcept {α : Type} {x : Except PyError α} (hx : Fails NotInvalid x) :
    Triple (Seated (V := V) (S := S) c told clusters) (ofExcept x) (fun _ => Seated c told clusters)
      (fun e _ => NotInvalid e) :=
  triple_ofExcept (fun _ _ _ hs => hs) (fun e he _ _ => hx e he)

theorem seated_read {β : Type} {k : RollingSession R V S → Method PyError (RollingSession R V S) β}
    {Q : β → RollingSession R V S → Prop}
    (hk : ∀ s, Triple (Seated c told clusters) (k s) Q (fun e _ => NotInvalid e)) :
    Triple (Seated c told clusters) (read >>= k) Q (fun e _ => NotInvalid e) :=
  triple_read (fun s _ => (hk s).weaken (fun _ ht => ht.2) (fun _ _ h => h) (fun _ _ h => h))

end

/-! ## One rolling step -/

/-- The crops of a step. -/
theorem safe_closedGroups (hu : Function.Injective c.supply.ulid) {models : RollingModels R V S}
    (h : models.adapters.NotInvalid) (p : OfflinePipeline R) (closes : ℕ → Bool)
    (mono : AudioBuffer S) (diarization : DiarizationResult R) (regions : List (OverlapRegion R))
    (emittedUntilMs : ℕ) (interval : TimeInterval) :
    Session.Safe c.supply.ulid clusters
      (closedGroups (V := V) c models p closes mono diarization regions emittedUntilMs
        interval) := by
  have hregion : ∀ pending n region, Session.Safe c.supply.ulid clusters
      (regionGroups (V := V) c models p closes mono diarization pending n region) := by
    intro pending n region
    unfold regionGroups
    split
    · exact Session.safe_pure _
    · split
      · exact Session.safe_pure _
      · exact Session.safe_bind (OfflinePipeline.safe_handleOverlapRegion hu (h.at _) _)
          (fun _ => Session.safe_pure _)
  exact Session.safe_bind (Session.safe_ofExcept (fails_interval _ _)) (fun pending =>
    Session.safe_bind (Session.safe_ofExcept (OfflinePipeline.fails_transcribeNonOverlap (h.at 0)
      _ _ _)) (fun alone => Session.safe_bind (Session.safe_mapEach (fun x _ => hregion _ _ _))
      (fun _ => Session.safe_pure _)))

/-- **A rolling step has room** for the clusters of its window. -/
def HasRoom (c : StreamingContext R) (models : RollingModels R V S) (s : RollingSession R V S) :
    Prop :=
  ∀ mono ∈ s.windowBuffer c, ∀ diarization, models.diarizer mono = .ok diarization →
    (∃ osd, models.overlapDetector mono = .ok osd) → s.speakers.Room diarization.clusterIds

/-- Identifying the language. -/
theorem seated_resolveLanguage {models : RollingModels R V S} (h : models.NotInvalid)
    (mono : AudioBuffer S) (speech : List TimeInterval) :
    Triple (Seated c told clusters) (resolveLanguage (V := V) c models mono speech)
      (fun _ => Seated c told clusters) (fun e _ => NotInvalid e) :=
  seated_read (fun _ => triple_bind (seated_ofExcept
    (OfflinePipeline.fails_resolveSessionLanguage h.detectLanguage _ _ _))
    (fun _ => seated_modify (fun _ => rfl)))

omit [Field R] [LinearOrder R] [IsStrictOrderedRing R] in
/-- The turns of a window are those of its clusters. -/
theorem turns_mem (diarization : DiarizationResult R) :
    ∀ turn ∈ diarization.regularTracks, turn.clusterId ∈ diarization.clusterIds := fun turn hturn =>
  (Session.clusters_spec _ [] List.nodup_nil).2.2 turn
    ((List.perm_insertionSort _ _).mem_iff.mpr hturn)

/-- Publishing closed speech. -/
theorem seated_publish (hu : Function.Injective c.supply.ulid) {turns : List (SpeakerTurn R)}
    (hturns : ∀ turn ∈ turns, turn.clusterId ∈ clusters) (closed : List TimeInterval)
    (calls : List (List (WordGroup R))) :
    Triple (Seated (V := V) (S := S) c told clusters) (publish c closed turns calls)
      (fun es s => Said c.supply (told ++ es) s.toStreamingSession) (fun e _ => NotInvalid e) := by
  have hemit : ∀ engine : FusionEngine R,
      Triple (fun u : StreamingSession R V => Said c.supply told u
          ∧ ∀ cluster ∈ clusters, u.speakers.Named cluster)
        (StreamingSession.emitProvisional c.supply engine calls.flatten turns)
        (fun es => Said c.supply (told ++ es)) (fun e _ => NotInvalid e) := by
    intro engine
    refine triple_bind (fun u hu' => ⟨fun _ _ hok => (said_fuse _ _ _).ok hu'.1 hok,
      fun e v herror => ?_⟩) (fun _ => said_emitAll hu _)
    have hraised : (engine.fuse c.supply.ulid calls.flatten turns false 1 none
        ⟨u.speakers, u.drawn⟩).1 = .error e := congrArg Prod.fst herror
    have hready : Session.Ready c.supply.ulid clusters ⟨u.speakers, u.drawn⟩ :=
      ⟨hu'.1.wellFormed.speakers, hu'.1.minted, hu'.2⟩
    exact ((FusionEngine.safe_fuse hu hturns _ _ _ _).error hready (Prod.ext hraised rfl)).1
  refine triple_read (fun s _ => triple_bind
    ((triple_onStreaming (hemit _)).weaken (fun t ht => ⟨ht.2.said, ht.2.named⟩) (fun _ _ ht => ht)
      (fun _ _ he => he)) (fun es => triple_bind
      (Q := fun _ t => Said c.supply (told ++ es) t.toStreamingSession)
      (triple_modify (fun _ ht => ht)) (fun _ => triple_pure (fun _ ht => ht))))

/-- **A step that has room** raises no error of a state machine. -/
theorem process_of_room (hu : Function.Injective c.supply.ulid) {models : RollingModels R V S}
    (h : models.NotInvalid) (forceClose : Bool) :
    Triple (fun s => Said c.supply told s.toStreamingSession ∧ HasRoom c models s)
      (process c models forceClose) (fun _ _ => True) (fun e _ => NotInvalid e) := by
  refine triple_bind (Q := fun _ s => Said c.supply told s.toStreamingSession ∧ HasRoom c models s)
    (triple_modify (fun s hs => hs)) (fun _ => triple_read (fun s hs => ?_))
  cases hwindow : s.windowBuffer c with
  | none => exact triple_pure (fun _ _ => trivial)
  | some mono =>
    refine triple_bind (Q := fun diarization t => Said c.supply told t.toStreamingSession
        ∧ ((∃ osd, models.overlapDetector mono = .ok osd) →
          t.speakers.Room diarization.clusterIds))
      (triple_ofExcept (fun diarization hdiarizer t ht => ?_)
        (fun e he _ _ => h.diarizer mono e he)) (fun diarization => triple_bind
      (Q := fun _ t => Said c.supply told t.toStreamingSession
        ∧ t.speakers.Room diarization.clusterIds)
      (triple_ofExcept (fun osd hosd t ht => ⟨ht.1, ht.2 ⟨osd, hosd⟩⟩)
        (fun e he _ _ => h.overlapDetector mono e he)) (fun osd => ?_))
    · obtain ⟨rfl, hsaid, hroom⟩ := ht
      exact ⟨hsaid, hroom mono hwindow diarization hdiarizer⟩
    · refine triple_bind (seated_of_triple (P := fun u => u.speakers.Room diarization.clusterIds)
        (Session.within_buildGlobalSpeakers _ _ _ _ _)
        (Session.triple_buildGlobalSpeakers hu (h.adapters.at 0) diarization _ mono))
        (fun _ => triple_bind (seated_ofExcept (h.adapters.vad [] mono)) (fun speech =>
        triple_bind (seated_resolveLanguage h mono speech) (fun _ => seated_read (fun u => ?_))))
      dsimp only
      have hdrain : ∀ told, Triple (fun t : RollingSession R V S =>
        Said c.supply told t.toStreamingSession)
          (onStreaming (StreamingSession.drainLabelRevisions c.supply)) (fun _ _ => True)
          (fun e _ => NotInvalid e) := fun told =>
        (triple_onStreaming (said_drainLabelRevisions (E := fun e _ => NotInvalid e) hu)).weaken
          (fun _ ht => ht) (fun _ _ _ => trivial) (fun _ _ he => he)
      split
      · exact (hdrain told).weaken (fun _ ht => ht.said) (fun _ _ _ => trivial) (fun _ _ he => he)
      · exact triple_bind (seated_onSession
          (within_mapEach (fun x _ => calls_closedGroups _ _ _ _ _ _ _ _))
          (Session.safe_mapEach (fun x _ => safe_closedGroups hu (h.adapters.at _) _ _ _ _ _ _ _)))
          (fun calls => triple_bind (seated_publish hu (turns_mem diarization) _ _) (fun events =>
            triple_bind (hdrain _) (fun _ => triple_pure (fun _ _ => trivial))))

/-- **A step that has none** raises one. -/
theorem process_of_full (hu : Function.Injective c.supply.ulid) {models : RollingModels R V S}
    {s : RollingSession R V S} (hs : Said c.supply told s.toStreamingSession)
    (hfull : ¬ HasRoom c models s) (forceClose : Bool) :
    ∃ e, (process c models forceClose s).1 = .error e ∧ ¬ NotInvalid e := by
  unfold HasRoom at hfull
  push Not at hfull
  obtain ⟨mono, hmono, diarization, hdiarizer, ⟨osd, hosd⟩, hfull⟩ := hfull
  have hready : Session.Ready c.supply.ulid [] ⟨s.speakers, s.drawn⟩ :=
    ⟨hs.wellFormed.speakers, hs.minted, fun _ h => absurd h List.not_mem_nil⟩
  obtain ⟨e, t, herror, hinvalid⟩ := Session.buildGlobalSpeakers_of_full hu hready
    (models.adapters.at 0) diarization (overlaps c diarization osd) mono hfull
  have hraised : (onSession (buildGlobalSpeakers (models.adapters.at 0) c.supply.ulid diarization
      (overlaps c diarization osd) mono) { s with lastProcessMs := s.nowMs }).1 = .error e := by
    show (buildGlobalSpeakers (models.adapters.at 0) c.supply.ulid diarization
      (overlaps c diarization osd) mono ⟨s.speakers, s.drawn⟩).1 = .error e
    rw [herror]
  have hwindow : ({ s with lastProcessMs := s.nowMs } : RollingSession R V S).windowBuffer c
      = some mono := hmono
  obtain ⟨u, hcall⟩ : ∃ u, onSession (buildGlobalSpeakers (models.adapters.at 0) c.supply.ulid
      diarization (overlaps c diarization osd) mono) { s with lastProcessMs := s.nowMs }
      = (.error e, u) := ⟨_, Prod.ext hraised rfl⟩
  refine ⟨e, ?_, hinvalid⟩
  unfold process
  rw [modify_bind, read_bind, hwindow]
  dsimp only
  rw [hdiarizer, ofExcept_ok_bind, hosd, ofExcept_ok_bind, bind_of_error hcall]

/-! ## Whole sessions -/

/-- **A session that is closed does not stream.** -/
def Closed (s : RollingSession R V S) : Prop :=
  s.isFinalized = true → s.stateMachine = .finalized ∨ s.stateMachine = .failed

omit [AddCommGroup V] [Module R V] [EmbeddingSpace R V] in
/-- A session that is streaming is open. -/
theorem Closed.open {s : RollingSession R V S} (h : Closed s) (hs : s.stateMachine = .streaming) :
    s.isFinalized = false := by
  refine Bool.eq_false_iff.mpr (fun hfinalized => ?_)
  rcases h hfinalized with hstate | hstate <;> rw [hs] at hstate <;> cases hstate

/-- No command lets a closed session stream. -/
theorem closed_step {s : RollingSession R V S} (h : Closed s) (command : SessionCommand R V S) :
    Closed (step c s command) := by
  cases command with
  | start =>
    show Closed (start c s).2
    unfold start
    rw [read_bind]
    split
    · exact h
    · next hcreated =>
      intro hfinalized
      rcases h hfinalized with hstate | hstate <;> rw [not_not.mp hcreated] at hstate <;> cases
        hstate
  | push models frame =>
    show Closed (push c models frame s).2
    unfold push
    rw [read_bind]
    split
    · exact h
    · rw [modify_bind, read_bind]
      split
      · have htalks := talks_process (c := c) models false (receive c frame s)
        unfold Closed
        rw [htalks.isFinalized, htalks.stateMachine]
        exact h
      · exact h
  | finalize models secondPass =>
    show Closed (finalize c models secondPass s).2
    unfold finalize
    rw [read_bind]
    split
    · exact h
    · next hopen =>
      have hstays : ∀ t : RollingSession R V S, t.isFinalized = s.isFinalized → Closed t :=
        fun t ht hfinalized => absurd (ht.symm.trans hfinalized) hopen
      rw [modify_bind]
      have htalks := talks_process (c := c) models true
      rcases htalks.bind_cases { s with stateMachine := .finalizing } with
        ⟨e, t, ht, hrun⟩ | ⟨last, t, ht, -, hrun⟩
      · rw [hrun]
        exact hstays t ht.isFinalized
      · rw [hrun]
        have hpass : Within Talks (onStreaming (S := S)
            (StreamingSession.finalPass (V := V) c.supply secondPass)) :=
          talks_onStreaming (StreamingSession.reports_finalPass c.supply secondPass)
        rcases hpass.bind_cases t with ⟨e, u, hu, hrun⟩ | ⟨finals, u, hu, -, hrun⟩
        · rw [hrun]
          exact hstays u (hu.isFinalized.trans ht.isFinalized)
        · rw [hrun, modify_bind, read_bind, bind_pure_snd]
          exact fun _ => Or.inl rfl
  | fail errorCode message => exact fun _ => Or.inr rfl
  | replay lastSequenceNumber => exact h

/-- **A rolling step that is taken**: its models, whether all speech is closed,
and the session it starts from. -/
structure RollingStep (R V S : Type) [Field R] [LinearOrder R] [IsStrictOrderedRing R]
    [AddCommGroup V] [Module R V] [EmbeddingSpace R V] where
  models : RollingModels R V S
  forceClose : Bool
  session : RollingSession R V S

/-- The rolling step of a command, if it takes one. -/
def rollingStep (c : StreamingContext R) (s : RollingSession R V S) :
    SessionCommand R V S → Option (RollingStep R V S)
  | .push models frame =>
    if s.stateMachine = .streaming ∧ (receive c frame s).isDue c then
      some ⟨models, false, receive c frame s⟩
    else none
  | .finalize models _ =>
    if s.isFinalized then none else some ⟨models, true, { s with stateMachine := .finalizing }⟩
  | .start | .fail _ _ | .replay _ => none

/-- **The step raises an error of a state machine.** -/
def Starved (c : StreamingContext R) (r : RollingStep R V S) : Prop :=
  ∃ e, (process c r.models r.forceClose r.session).1 = .error e ∧ ¬ NotInvalid e

/-- The models of a command raise none. -/
def SessionCommand.NotInvalid : SessionCommand R V S → Prop
  | .push models _ | .finalize models _ => models.NotInvalid
  | .start | .fail _ _ | .replay _ => True

/-- A step that starts from what its client was told is starved when it has no
room. -/
theorem starved_iff (hu : Function.Injective c.supply.ulid) {r : RollingStep R V S}
    (hmodels : r.models.NotInvalid) (hs : Said c.supply told r.session.toStreamingSession) :
    Starved c r ↔ ¬ HasRoom c r.models r.session := by
  constructor
  · rintro ⟨e, hraised, hinvalid⟩ hroom
    exact hinvalid ((process_of_room hu hmodels r.forceClose).error ⟨hs, hroom⟩
      (Prod.ext hraised rfl))
  · exact fun hfull => process_of_full hu hs hfull r.forceClose

/-- So a step of a run is. -/
theorem starved_iff_of_run (hu : Function.Injective c.supply.ulid) (modelVersions : ModelVersions)
    (embeddingModelVersion : String) (commands : List (SessionCommand R V S))
    {command : SessionCommand R V S} (hcommand : command.NotInvalid) {r : RollingStep R V S}
    (hr : rollingStep c (commands.foldl (step c) (new c modelVersions embeddingModelVersion))
      command = some r) :
    Starved c r ↔ ¬ HasRoom c r.models r.session := by
  have hclosed : Closed (commands.foldl (step c) (new c modelVersions embeddingModelVersion)) :=
    invariant_foldl (fun h => nomatch h) (fun s command h => closed_step h command)
  have hnew : Said c.supply [] (new c modelVersions embeddingModelVersion :
      RollingSession R V S).toStreamingSession := said_new modelVersions embeddingModelVersion
  set s : RollingSession R V S :=
    commands.foldl (step c) (new c modelVersions embeddingModelVersion)
  have hsaid : s.isFinalized = false → ∃ told, Said c.supply told s.toStreamingSession :=
    fun hopen => ⟨_, said_sent hu hnew hopen⟩
  cases command with
  | push models frame =>
    obtain ⟨⟨hstreaming, -⟩, hr⟩ := Option.ite_none_right_eq_some.mp hr
    obtain rfl := Option.some.inj hr
    obtain ⟨told, hs⟩ := hsaid (hclosed.open hstreaming)
    exact starved_iff hu hcommand (hs.buffer _)
  | finalize models secondPass =>
    obtain ⟨hopen, hr⟩ := Option.ite_none_left_eq_some.mp hr
    obtain rfl := Option.some.inj hr
    obtain ⟨told, hs⟩ := hsaid (Bool.eq_false_iff.mpr hopen)
    exact starved_iff hu hcommand hs
  | start | fail | replay => cases hr

/-- **A session is never starved exactly when each of its steps has room.** -/
theorem neverStarved_iff (c : StreamingContext R) (hu : Function.Injective c.supply.ulid)
    (modelVersions : ModelVersions) (embeddingModelVersion : String)
    (commands : List (SessionCommand R V S)) (hmodels : ∀ command ∈ commands, command.NotInvalid) :
    EachStep (step c) (fun s command => ∀ r ∈ rollingStep c s command, ¬ Starved c r)
        (new c modelVersions embeddingModelVersion) commands
      ↔ EachStep (step c) (fun s command => ∀ r ∈ rollingStep c s command,
          HasRoom c r.models r.session) (new c modelVersions embeddingModelVersion) commands := by
  refine forall_congr' (fun pre => forall_congr' (fun command => imp_congr_right (fun hpre =>
    forall_congr' (fun r => imp_congr_right (fun hr => ?_)))))
  have hmem : command ∈ commands :=
    hpre.subset (List.mem_append_right _ (List.mem_singleton_self _))
  rw [starved_iff_of_run hu modelVersions embeddingModelVersion pre (hmodels command hmem) hr,
    not_not]

/-! ## A cluster without a place -/

section Example

/-- A context with two places, and steps of four tenths of a second. -/
def twoPlaces : StreamingContext ℚ :=
  { unheard with
    pipeline := { unheard.pipeline with
      config := {
        product := { ProductConfig.default with
          maxSessionSpeakers := 2
          speakers_pos := ProductConfig.default.concurrent_pos
          speakers_le := ProductConfig.default.concurrent_le
          concurrent_le := by decide }
        streaming := { StreamingConfig.default with
          diarizationHopSeconds := 2 / 5
          finalizeAfterSilenceSeconds := 1 / 5
          hop_pos := by norm_num
          hop_le_window := by norm_num [StreamingConfig.default]
          silence_pos := by norm_num } } } }

/-- Two people who say a word at the same time, well enough to be recognised
again. -/
def both : PipelineAdapters ℚ ℚ Unit where
  vad place buffer := .ok (if place = [] then [firstMs 200] else [buffer.interval])
  transcribe _ _ _ sourceTrack := .ok (.english [.heard "yes" 50 150 sourceTrack])
  embed _ _ _ _ _ sourceTrack := .ok ((lineVoice true).slice 2000 .separated sourceTrack)
  separator := some {
    backend := "mossformer2"
    separate := fun _ _ _ => .ok (.copies 2 (silentSamples 7)) }

/-- A step in which both talk, and no cluster is found, -/
def talkTogether : RollingModels ℚ ℚ Unit where
  adapters := both
  diarizer _ := .ok (.found [] [])
  overlapDetector _ := .ok [{ interval := ⟨0, 300, by decide⟩ }]
  detectLanguage _ := .ok ("en", 1)

/-- and one in which one of them talks alone. -/
def talkAlone : RollingModels ℚ ℚ Unit where
  adapters := both
  diarizer _ := .ok (.found [{ clusterId := "A", interval := firstMs 400 }] [])
  overlapDetector _ := .ok []
  detectLanguage _ := .ok ("en", 1)

/-- Four tenths of a second. -/
def frame : List Unit := List.replicate 6400 ()

theorem both_notInvalid : both.NotInvalid where
  vad _ _ := fails_ok _
  transcribe _ _ _ _ := fails_ok _
  embed _ _ _ _ _ _ := fails_ok _
  separator separator hmem _ _ _ := by
    obtain rfl := Option.some.inj hmem
    exact fails_ok _
  threeSourceSeparator _ hmem := nomatch hmem

theorem talkTogether_notInvalid : talkTogether.NotInvalid :=
  ⟨both_notInvalid, fun _ => fails_ok _, fun _ => fails_ok _, fun _ => fails_ok _⟩

theorem talkAlone_notInvalid : talkAlone.NotInvalid :=
  ⟨both_notInvalid, fun _ => fails_ok _, fun _ => fails_ok _, fun _ => fails_ok _⟩

/-- First both talk, then one of them alone. -/
def thenAlone : List (SessionCommand ℚ ℚ Unit) :=
  [.start, .push talkTogether frame, .push talkAlone frame]

theorem thenAlone_notInvalid : ∀ command ∈ thenAlone, command.NotInvalid := by
  simpa [thenAlone, SessionCommand.NotInvalid] using
    ⟨talkTogether_notInvalid, talkAlone_notInvalid⟩

/-- Who talks first makes no difference to what the theorem says. -/
theorem neverStarved_iff_thenAlone :
    EachStep (step twoPlaces) (fun s command => ∀ r ∈ rollingStep twoPlaces s command,
        ¬ Starved twoPlaces r) (new twoPlaces {} "campplus") thenAlone
      ↔ EachStep (step twoPlaces) (fun s command => ∀ r ∈ rollingStep twoPlaces s command,
        HasRoom twoPlaces r.models r.session) (new twoPlaces {} "campplus") thenAlone :=
  neverStarved_iff twoPlaces unheard_injective {} "campplus" thenAlone thenAlone_notInvalid

/-- The windows of a command have no other clusters than these. -/
def NamesOnly (clusterIds : List String) : SessionCommand ℚ ℚ Unit → Prop
  | .push models _ | .finalize models _ => ∀ mono diarization,
    models.diarizer mono = .ok diarization → diarization.clusterIds ⊆ clusterIds
  | .start | .fail _ _ | .replay _ => True

/-- The step in which one talks alone. -/
def alone : RollingStep ℚ ℚ Unit where
  models := talkAlone
  forceClose := false
  session := receive twoPlaces frame
    ([.start, .push talkTogether frame].foldl (step twoPlaces) (new twoPlaces {} "campplus"))

theorem rollingStep_alone :
    rollingStep twoPlaces ([.start, .push talkTogether frame].foldl (step twoPlaces)
      (new twoPlaces {} "campplus")) (.push talkAlone frame) = some alone :=
  if_pos (by decide +kernel)

/-- The two who talked at once have the two places. -/
theorem not_hasRoom_alone : ¬ HasRoom twoPlaces talkAlone alone.session := by
  intro h
  have hwindow : (alone.session.windowBuffer twoPlaces).isSome := by decide +kernel
  obtain ⟨mono, hmono⟩ := Option.isSome_iff_exists.mp hwindow
  have hfull : ¬ alone.session.speakers.Room ["A"] := by decide +kernel
  exact hfull (h mono hmono _ rfl ⟨_, rfl⟩)

theorem starved_alone : Starved twoPlaces alone := by
  have hu : Function.Injective twoPlaces.supply.ulid := unheard_injective
  have hcommand : SessionCommand.NotInvalid (.push talkAlone frame) := talkAlone_notInvalid
  exact (starved_iff_of_run hu _ _ _ hcommand rollingStep_alone).mpr not_hasRoom_alone

/-- **The cluster of one who talks alone has no place**, though it is the only
one of the session and there are two places. -/
theorem cluster_is_starved :
    (∃ clusterIds, clusterIds.length ≤ twoPlaces.pipeline.config.product.maxSessionSpeakers
        ∧ ∀ command ∈ thenAlone, NamesOnly clusterIds command)
      ∧ ¬ EachStep (step twoPlaces) (fun s command => ∀ r ∈ rollingStep twoPlaces s command,
        ¬ Starved twoPlaces r) (new twoPlaces {} "campplus") thenAlone := by
  refine ⟨⟨["A"], by decide, ?_⟩, fun h => ?_⟩
  · simp only [thenAlone, List.forall_mem_cons, NamesOnly]
    refine ⟨trivial, fun _ _ hd => ?_, fun _ _ hd => ?_, fun _ h => absurd h List.not_mem_nil⟩
    · obtain rfl := Except.ok.inj hd
      decide
    · obtain rfl := Except.ok.inj hd
      decide
  · exact h _ (.push talkAlone frame) (List.prefix_refl _) alone rollingStep_alone starved_alone

end Example

end RollingSession

end Sastt
