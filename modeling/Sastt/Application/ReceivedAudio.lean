import Mathlib.Data.List.DropRight
import Sastt.Application.SessionAudio

/-!
# What a session has heard

Audio arrives in payloads of any size. The ring, the window cut out of it and
the count of samples are written one after the other, each from the ones
before; none of them depends on where one payload ended and the next began.

`received` collects the bytes of a run that the session took, and `Buffered`
says what its buffers are in terms of these bytes alone: the ring is the end of
all samples, the window the end of that, and the first sample of the window is
at the index the window gives for it. Both holds where a ring and a window of
some samples were configured; the slice of none is the whole list.
-/

namespace Sastt

open Method

/-- There is one sample for two bytes. -/
theorem length_frombuffer (bytes : List UInt8) : (frombuffer bytes).length = bytes.length / 2 := by
  induction bytes using frombuffer.induct with
  | case1 low high rest ih =>
    rw [frombuffer, List.length_cons, ih, List.length_cons, List.length_cons]
    omega
  | case2 low => simp [frombuffer]
  | case3 => rfl

/-- The slice of the last elements, of which there is at least one. -/
theorem lastSlice_eq_rtake {α : Type} {n : ℕ} (hn : n ≠ 0) (xs : List α) :
    lastSlice n xs = xs.rtake (min xs.length n) := by
  unfold lastSlice List.rtake
  rw [if_neg hn]
  congr 1
  omega

/-- A number of milliseconds of audio has samples. -/
theorem msToSamples_ne_zero {ms : ℕ} (h : 1 ≤ ms) : msToSamples ms CANONICAL_SAMPLE_RATE ≠ 0 := by
  unfold msToSamples MS_PER_SECOND CANONICAL_SAMPLE_RATE
  omega

variable {R V : Type} [Field R] [LinearOrder R] [IsStrictOrderedRing R] [AddCommGroup V]
  [Module R V] [EmbeddingSpace R V]

namespace SpooledSession

/-! ## What was received -/

/-- The bytes a session takes of a payload: all or none. -/
def taken (s : SpooledSession R V) (payload : List UInt8) : List UInt8 :=
  if s.stateMachine = .streaming ∧ payload.length % 2 = 0 then payload else []

/-- The bytes a session receives from a run. -/
def received (c : StreamingContext R) (s : SpooledSession R V) :
    List (Command R V) → List UInt8
  | [] => []
  | .push models payload :: rest =>
    s.taken payload ++ received c (step c s (.push models payload)) rest
  | command :: rest => received c (step c s command) rest

/-- The samples of what was received. -/
def heard (bytes : List UInt8) : List ℚ := (frombuffer bytes).map sampleToFloat

theorem length_heard (bytes : List UInt8) : (heard bytes).length = bytes.length / 2 := by
  unfold heard
  rw [List.length_map, length_frombuffer]

/-- The samples a window holds. -/
def windowSamples (c : StreamingContext R) : ℕ :=
  msToSamples (secondsToMs c.pipeline.config.streaming.diarizationWindowSeconds)
    CANONICAL_SAMPLE_RATE

variable {c : StreamingContext R} {s : SpooledSession R V} {bytes : List UInt8}

/-- **Whether it returns or raises, a push leaves what it took.** -/
theorem pushed_push (models : RollingModels R V ℚ) (payload : List UInt8) :
    (push c models payload s).2.pushed = s.pushed ++ frombuffer (s.taken payload) := by
  unfold push taken
  rw [read_bind]
  by_cases hstreaming : s.stateMachine = .streaming
  · rw [if_neg (not_not.mpr hstreaming)]
    by_cases hwhole : payload.length % 2 = 0
    · rw [if_neg (not_not.mpr hwhole), if_pos ⟨hstreaming, hwhole⟩]
      rfl
    · rw [if_pos hwhole, if_neg (fun h => hwhole h.2)]
      exact (List.append_nil _).symm
  · rw [if_pos hstreaming, if_neg (fun h => hstreaming h.1)]
    exact (List.append_nil _).symm

omit [AddCommGroup V] [Module R V] [EmbeddingSpace R V] in
theorem length_taken (s : SpooledSession R V) (payload : List UInt8) :
    (s.taken payload).length % 2 = 0 := by
  unfold taken
  split
  · next h => exact h.2
  · rfl

/-- **The samples that were pushed are those of the bytes received.** -/
theorem pushed_run (bytes : List UInt8) (hwhole : bytes.length % 2 = 0)
    (hpushed : s.pushed = frombuffer bytes)
    (commands : List (Command R V)) :
    (commands.foldl (step c) s).pushed = frombuffer (bytes ++ received c s commands)
      ∧ (bytes ++ received c s commands).length % 2 = 0 := by
  induction commands generalizing s bytes with
  | nil => exact ⟨by rw [received, List.append_nil]; exact hpushed, by
      rwa [received, List.append_nil]⟩
  | cons command rest ih =>
    cases command with
    | push models payload =>
      have hnext : (step c s (.push models payload)).pushed
          = frombuffer (bytes ++ s.taken payload) := by
        rw [frombuffer_append hwhole, ← hpushed]
        exact pushed_push models payload
      have hlength : (bytes ++ s.taken payload).length % 2 = 0 := by
        rw [List.length_append, Nat.add_mod, hwhole, length_taken]
      have hrest := ih _ hlength hnext
      rwa [List.append_assoc] at hrest
    | start => exact ih bytes hwhole hpushed
    | finalize models offline => exact ih bytes hwhole hpushed
    | fail errorCode message => exact ih bytes hwhole hpushed
    | replay lastSequenceNumber => exact ih bytes hwhole hpushed

/-! ## The buffers -/

/-- **The buffers of a session that has received these bytes.** -/
structure Buffered (c : StreamingContext R) (bytes : List UInt8) (s : RollingSession R V ℚ) :
    Prop where
  total : s.totalSamples = bytes.length / 2
  now : s.nowMs = samplesToMs (bytes.length / 2) CANONICAL_SAMPLE_RATE
  /-- The ring is the end of what was heard. -/
  ring : s.samples = (heard bytes).rtake (min (bytes.length / 2) (ringSamples c))
  /-- There is nothing to look at as long as nothing was heard. -/
  silent : bytes.length / 2 = 0 → s.windowBuffer c = none
  /-- The window is the end of the ring, and knows where it starts. -/
  window : bytes.length / 2 ≠ 0 → ∃ mono, s.windowBuffer c = some mono
    ∧ mono.sampleRate = CANONICAL_SAMPLE_RATE
    ∧ mono.samples
      = (heard bytes).rtake (min (min (bytes.length / 2) (ringSamples c)) (windowSamples c))
    ∧ mono.samples = (heard bytes).drop mono.startSample
    ∧ mono.startSample + mono.samples.length = bytes.length / 2

/-- The end of the end of a list. -/
theorem rtake_rtake {α : Type} (m n : ℕ) (xs : List α) :
    (xs.rtake m).rtake n = xs.rtake (min m n) := by
  unfold List.rtake
  rw [List.length_drop, List.drop_drop]
  congr 1
  omega

omit [AddCommGroup V] [Module R V] [EmbeddingSpace R V] in
/-- **The buffers follow from what the session holds.** -/
theorem Holds.buffered {keepSessionAudio : Bool} (h : Holds c keepSessionAudio s)
    (hpushed : s.pushed = frombuffer bytes) (hring : ringSamples c ≠ 0)
    (hwindow : windowSamples c ≠ 0) : Buffered c bytes s.toRollingSession := by
  have htotal : s.totalSamples = bytes.length / 2 := by
    rw [h.total, hpushed, length_frombuffer]
  have hsamples : s.samples = (heard bytes).rtake (min (bytes.length / 2) (ringSamples c)) := by
    rw [h.ring, hpushed, ← lastSlice_map, lastSlice_eq_rtake hring, List.length_map,
      length_frombuffer]
    rfl
  have hchunk : lastSlice (windowSamples c) s.samples
      = (heard bytes).rtake (min (min (bytes.length / 2) (ringSamples c)) (windowSamples c)) := by
    rw [lastSlice_eq_rtake hwindow, hsamples, rtake_rtake]
    unfold List.rtake
    rw [List.length_drop, length_heard]
    congr 1
    omega
  set size := min (min (bytes.length / 2) (ringSamples c)) (windowSamples c)
  have hlength : ((heard bytes).rtake size).length = size := by
    unfold List.rtake
    rw [List.length_drop, length_heard]
    omega
  refine ⟨htotal, congrArg (samplesToMs · CANONICAL_SAMPLE_RATE) htotal, hsamples, ?_, ?_⟩
  · intro hnone
    have hempty : lastSlice (windowSamples c) s.samples = [] := by
      rw [hchunk]
      exact List.eq_nil_of_length_eq_zero (by omega)
    unfold RollingSession.windowBuffer
    exact dif_neg (not_not.mpr hempty)
  · intro hsome
    have hne : lastSlice (windowSamples c) s.samples ≠ [] := by
      rw [hchunk]
      intro hempty
      rw [hempty, List.length_nil] at hlength
      omega
    have hsize : (lastSlice (windowSamples c) s.samples).length = size := by rw [hchunk, hlength]
    refine ⟨⟨lastSlice (windowSamples c) s.samples, CANONICAL_SAMPLE_RATE,
      s.totalSamples - (lastSlice (windowSamples c) s.samples).length, hne, by decide⟩,
      dif_pos hne, rfl, hchunk, ?_, ?_⟩
    · dsimp only
      rw [hsize, hchunk, htotal]
      unfold List.rtake
      rw [length_heard]
    · dsimp only
      rw [hsize, htotal]
      omega

/-- A rolling step, if one is due. -/
def rollingStep (c : StreamingContext R) (models : RollingModels R V ℚ) :
    Method PyError (RollingSession R V ℚ) (List (ServerEvent (EventPayload R))) := do
  let s ← .read
  if s.isDue c then RollingSession.process c models false else return []

/-- **A push is the reception of its payload and the rolling step.** -/
theorem push_of_taken (models : RollingModels R V ℚ) {payload : List UInt8}
    (hstreaming : s.stateMachine = .streaming) (hwhole : payload.length % 2 = 0) :
    push c models payload s = onRolling (rollingStep c models) (receive c payload s) := by
  unfold push
  rw [read_bind, if_neg (not_not.mpr hstreaming), if_neg (not_not.mpr hwhole), modify_bind]
  unfold onRolling zoom RollingSession.push
  dsimp only
  rw [read_bind, if_neg (not_not.mpr hstreaming), modify_bind]
  rfl

/-- What closing a session does after its last rolling step. -/
def closing (c : StreamingContext R) (secondPass : Except PyError (OfflineResult R))
    (events : List (ServerEvent (EventPayload R))) :
    Method PyError (RollingSession R V ℚ) (List (ServerEvent (EventPayload R))) := do
  let finals ← RollingSession.onStreaming (StreamingSession.finalPass c.supply secondPass)
  .modify fun s => { s with stateMachine := .finalized, isFinalized := true }
  let s ← .read
  let last ← RollingSession.onStreaming
    (StreamingSession.onLog (EventWriter.write c.supply (s.finalizedFields c)))
  return events ++ finals ++ [last]

/-- **Closing a session is its last rolling step and the rest.** -/
theorem finalize_of_open {s : RollingSession R V ℚ} (models : RollingModels R V ℚ)
    (secondPass : Except PyError (OfflineResult R)) (hopen : s.isFinalized = false) :
    RollingSession.finalize c models secondPass s
      = (RollingSession.process c models true >>= closing c secondPass)
          { s with stateMachine := .finalizing } := by
  unfold RollingSession.finalize
  rw [read_bind, if_neg (Bool.eq_false_iff.mp hopen), modify_bind]
  rfl

omit [AddCommGroup V] [Module R V] [EmbeddingSpace R V] in
/-- The buffers are looked at only. -/
theorem Buffered.of_same {s t : RollingSession R V ℚ} (h : Buffered c bytes s)
    (hsame : SameAudio s t) : Buffered c bytes t := by
  have hwindow : t.windowBuffer c = s.windowBuffer c := by
    unfold RollingSession.windowBuffer
    rw [hsame.samples, hsame.totalSamples]
  have hnow : t.nowMs = s.nowMs := congrArg (samplesToMs · CANONICAL_SAMPLE_RATE) hsame.totalSamples
  refine ⟨hsame.totalSamples.trans h.total, hnow.trans h.now, hsame.samples.trans h.ring, ?_, ?_⟩
  · rw [hwindow]
    exact h.silent
  · rw [hwindow]
    exact h.window

omit [AddCommGroup V] [Module R V] [EmbeddingSpace R V] in
/-- **The same bytes make the same buffers.** -/
theorem Buffered.unique {s t : RollingSession R V ℚ} (h : Buffered c bytes s)
    (h' : Buffered c bytes t) : SameAudio s t :=
  ⟨h'.ring.trans h.ring.symm, h'.total.trans h.total.symm⟩

/-! ## Runs -/

section Runs

variable (c) (keepSessionAudio : Bool) (modelVersions : ModelVersions)
  (embeddingModelVersion : String) (commands : List (Command R V))

/-- The session a run leads to. -/
def after : SpooledSession R V :=
  commands.foldl (step c) (new c keepSessionAudio modelVersions embeddingModelVersion)

/-- The bytes it has received. -/
def heardBy : List UInt8 :=
  received c (new c keepSessionAudio modelVersions embeddingModelVersion) commands

/-- What is known of the session a run leads to. -/
theorem holds_after :
    Holds c keepSessionAudio (after c keepSessionAudio modelVersions embeddingModelVersion commands)
      ∧ (after c keepSessionAudio modelVersions embeddingModelVersion commands).pushed
        = frombuffer (heardBy c keepSessionAudio modelVersions embeddingModelVersion commands)
      ∧ (heardBy c keepSessionAudio modelVersions embeddingModelVersion commands).length % 2 = 0 :=
  ⟨invariant_foldl (holds_new modelVersions embeddingModelVersion)
      (fun _ command hs => hs.step command),
    pushed_run [] rfl rfl commands⟩

/-- **The rolling buffer is exact and independent of chunking.** In every state a
session reaches the buffers are those of the bytes it has received; so they are
when the rolling step of the next push begins, and that of closing the session;
and two sessions that have received the same bytes hold the same. -/
theorem buffered_run
    (hring : 1 ≤ secondsToMs c.pipeline.config.streaming.ringBufferSeconds)
    (hwindow : 1 ≤ secondsToMs c.pipeline.config.streaming.diarizationWindowSeconds) :
    let s := after c keepSessionAudio modelVersions embeddingModelVersion commands
    let bytes := heardBy c keepSessionAudio modelVersions embeddingModelVersion commands
    Buffered c bytes s.toRollingSession
      ∧ (∀ models payload, s.stateMachine = .streaming → payload.length % 2 = 0 →
        ∃ t, push c models payload s = onRolling (rollingStep c models) t
          ∧ Buffered c (bytes ++ payload) t.toRollingSession)
      ∧ (∀ models secondPass, s.isFinalized = false → ∃ t,
        RollingSession.finalize c models secondPass s.toRollingSession
            = (RollingSession.process c models true >>= closing c secondPass) t
          ∧ Buffered c bytes t)
      ∧ ∀ keepSessionAudio' modelVersions' embeddingModelVersion' commands',
        heardBy c keepSessionAudio' modelVersions' embeddingModelVersion' commands' = bytes →
        SameAudio s.toRollingSession (after c keepSessionAudio' modelVersions'
          embeddingModelVersion' commands').toRollingSession := by
  have hbuffered : ∀ keep versions version (commands : List (Command R V)),
      Buffered c (heardBy c keep versions version commands)
        (after c keep versions version commands).toRollingSession := by
    intro keep versions version commands
    obtain ⟨h, hpushed, -⟩ := holds_after c keep versions version commands
    exact h.buffered hpushed (msToSamples_ne_zero hring) (msToSamples_ne_zero hwindow)
  intro s bytes
  have hs : Buffered c bytes s.toRollingSession := hbuffered _ _ _ _
  refine ⟨hs, fun models payload hstreaming hwhole => ?_, fun models secondPass hopen => ?_,
    fun keep versions version commands' hbytes => ?_⟩
  · obtain ⟨h, hpushed, heven⟩ :=
      holds_after c keepSessionAudio modelVersions embeddingModelVersion commands
    refine ⟨receive c payload s, push_of_taken models hstreaming hwhole, ?_⟩
    refine (h.receive hwhole).buffered ?_ (msToSamples_ne_zero hring) (msToSamples_ne_zero hwindow)
    show s.pushed ++ frombuffer payload = frombuffer (bytes ++ payload)
    rw [frombuffer_append heven, hpushed]
  · exact ⟨_, finalize_of_open models secondPass hopen, hs.of_same ⟨rfl, rfl⟩⟩
  · have ht := hbuffered keep versions version commands'
    rw [hbytes] at ht
    exact hs.unique ht

end Runs

/-- Seventeen samples in two payloads: the ring holds the last sixteen. -/
theorem buffered_seventeen :
    Buffered shortRing (heardBy (V := ℚ) shortRing false {} "campplus"
        [.start, .push deaf [1, 0],
          .push deaf ((List.range 16).flatMap fun k => [UInt8.ofNat k, 0])])
      (after shortRing false {} "campplus"
        [.start, .push deaf [1, 0],
          .push deaf ((List.range 16).flatMap fun k => [UInt8.ofNat k, 0])]).toRollingSession :=
  (buffered_run shortRing false {} "campplus" _ (by decide +kernel) (by decide +kernel)).1

end SpooledSession

end Sastt
