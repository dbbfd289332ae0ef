import Sastt.Application.RollingSession
import Sastt.Lib.Programs

/-!
# The audio of a session

A session keeps what is pushed twice: as samples in the ring the rolling steps
look at, and, if it was asked to, as bytes in a spool for the final pass. The
final pass runs the offline pipeline over the spool if there is one and over
the ring if not, as a recording that starts at its first sample: there is no
place for another start in the container it is put in.

The spool holds the session from its first sample on, and the ring holds its
end. So the two agree until the ring has overflowed, and from then on a session
without a spool hands over audio whose every sample has lost its place
(`timeLineKept_iff`): times of the final transcript are then early by what
the ring has dropped (`finalWav_eq_drop`).

A session remembers in `pushed` the samples that were pushed. No method reads
it; it is the time line the audio is compared with.
-/

namespace Sastt

open Method

/-! ## Samples of sixteen bits -/

/-- A sample of two bytes, the low one first, with its sign. -/
def sampleOfBytes (low high : UInt8) : ℤ :=
  let n : ℕ := low.toNat + 256 * high.toNat
  if n < 32768 then n else (n : ℤ) - 65536

/-- `np.frombuffer(payload, dtype="<i2")`, of a payload of whole samples. -/
def frombuffer : List UInt8 → List ℤ
  | low :: high :: rest => sampleOfBytes low high :: frombuffer rest
  | [_] | [] => []

/-- A sample as a number between minus one and one. -/
def sampleToFloat (n : ℤ) : ℚ := n / 32768

/-- `_to_pcm16`, of one sample: the conversion cuts off toward zero. The product
is exact here. In single precision it is rounded, which never reaches the next
integer for a sample of sixteen bits, but may for another one: that of
`32769 / 2 ^ 24` comes to 64, and not to 63. -/
def toPcm16 (x : ℚ) : ℤ :=
  let scaled := min (max x (-1)) 1 * 32767
  if 0 ≤ scaled then ⌊scaled⌋ else ⌈scaled⌉

/-- What a sample is in the recording it is put in. -/
def storedSample (n : ℤ) : ℤ := toPcm16 (sampleToFloat n)

/-- The payloads of two pushes, one after the other. -/
theorem frombuffer_append {xs : List UInt8} (h : xs.length % 2 = 0) (ys : List UInt8) :
    frombuffer (xs ++ ys) = frombuffer xs ++ frombuffer ys := by
  induction xs using frombuffer.induct with
  | case1 low high rest ih =>
    have hrest : rest.length % 2 = 0 := by
      rw [List.length_cons, List.length_cons] at h
      omega
    show sampleOfBytes low high :: frombuffer (rest ++ ys) = _
    rw [ih hrest]
    rfl
  | case2 low => exact absurd h (by simp)
  | case3 => rfl

/-- **A sample is stored as itself**, up to one step toward zero. -/
theorem storedSample_close {n : ℤ} (h : -32768 ≤ n) (h' : n < 32768) :
    |storedSample n - n| ≤ 1 := by
  have hlow : (-32768 : ℚ) ≤ n := by exact_mod_cast h
  have hhigh : (n : ℚ) < 32768 := by exact_mod_cast h'
  have hclip : min (max (sampleToFloat n) (-1)) 1 = (n : ℚ) / 32768 := by
    unfold sampleToFloat
    rw [max_eq_left (by linarith), min_eq_left (by linarith)]
  unfold storedSample toPcm16
  rw [hclip]
  dsimp only
  rw [abs_le]
  split
  · next hpos =>
    have hn : (0 : ℚ) ≤ n := by linarith
    have hle : ⌊(n : ℚ) / 32768 * 32767⌋ ≤ ⌊(n : ℚ)⌋ := Int.floor_le_floor (by linarith)
    rw [Int.floor_intCast] at hle
    have hge : n - 1 ≤ ⌊(n : ℚ) / 32768 * 32767⌋ := by
      rw [Int.le_floor]
      push_cast
      linarith
    constructor <;> omega
  · next hneg =>
    have hn : (n : ℚ) ≤ 0 := by linarith
    have hge : ⌈(n : ℚ)⌉ ≤ ⌈(n : ℚ) / 32768 * 32767⌉ := Int.ceil_le_ceil (by linarith)
    rw [Int.ceil_intCast] at hge
    have hle : ⌈(n : ℚ) / 32768 * 32767⌉ ≤ n + 1 := by
      rw [Int.ceil_le]
      push_cast
      linarith
    constructor <;> omega

/-- A recording of one channel: what `_to_wav` makes of samples, and what the
offline pipeline is handed. -/
structure Wav where
  sampleRate : ℕ
  data : List ℤ

/-- `_to_wav`. -/
def toWav (samples : List ℚ) (sampleRate : ℕ) : Wav := ⟨sampleRate, samples.map toPcm16⟩

/-! ## Sessions with a spool -/

section

variable (R V : Type) [Field R] [LinearOrder R] [IsStrictOrderedRing R] [AddCommGroup V]
  [Module R V] [EmbeddingSpace R V]

/-- **A session with its spool.** -/
structure SpooledSession extends RollingSession R V ℚ where
  /-- The payloads that were pushed, if the session keeps its audio. -/
  sessionPcm : Option (List UInt8)
  /-- The samples that were pushed. -/
  pushed : List ℤ := []

end

variable {R V : Type} [Field R] [LinearOrder R] [IsStrictOrderedRing R] [AddCommGroup V]
  [Module R V] [EmbeddingSpace R V]

namespace SpooledSession

variable (c : StreamingContext R)

/-- A method of the session without its spool. -/
def onRolling {α : Type} (m : Method PyError (RollingSession R V ℚ) α) :
    Method PyError (SpooledSession R V) α :=
  m.zoom toRollingSession (fun s t => { s with toRollingSession := t })

/-- The samples the ring holds. -/
def ringSamples : ℕ :=
  msToSamples (secondsToMs c.pipeline.config.streaming.ringBufferSeconds) CANONICAL_SAMPLE_RATE

/-- A session nobody has spoken in. -/
def new (keepSessionAudio : Bool) (modelVersions : ModelVersions)
    (embeddingModelVersion : String) : SpooledSession R V where
  toRollingSession := .new c modelVersions embeddingModelVersion
  sessionPcm := if keepSessionAudio then some [] else none

/-- `push_pcm`. -/
def push (models : RollingModels R V ℚ) (payload : List UInt8) :
    Method PyError (SpooledSession R V) (List (ServerEvent (EventPayload R))) := do
  let s ← .read
  if s.stateMachine ≠ .streaming then
    .throw (.sastt .sessionClockDiscontinuity "audio pushed outside the streaming state"
      [("state", .str s.stateMachine.value)])
  else if payload.length % 2 ≠ 0 then
    .throw (.sastt .sasttError "PCM payload is not 16-bit aligned" [])
  else
    .modify fun s => { s with
      sessionPcm := s.sessionPcm.map (· ++ payload)
      pushed := s.pushed ++ frombuffer payload }
    onRolling (RollingSession.push c models ((frombuffer payload).map sampleToFloat))

/-- `_all_session_samples`. -/
def allSessionSamples (s : SpooledSession R V) : List ℚ :=
  match s.sessionPcm with
  | none => s.samples
  | some raw => (frombuffer raw).map sampleToFloat

/-- The recording the final pass hands to the offline pipeline. -/
def finalWav (s : SpooledSession R V) : Wav := toWav s.allSessionSamples CANONICAL_SAMPLE_RATE

/-- `finalize`, with what the offline pipeline makes of the recording it is
handed. -/
def finalize (models : RollingModels R V ℚ) (offline : Wav → Except PyError (OfflineResult R)) :
    Method PyError (SpooledSession R V) (List (ServerEvent (EventPayload R))) := do
  let s ← .read
  onRolling (RollingSession.finalize c models (offline s.finalWav))

/-- What happens to a session. -/
inductive Command (R V : Type) [Field R] [LinearOrder R] [IsStrictOrderedRing R]
    [AddCommGroup V] [Module R V] [EmbeddingSpace R V] where
  | start
  | push (models : RollingModels R V ℚ) (payload : List UInt8)
  | finalize (models : RollingModels R V ℚ) (offline : Wav → Except PyError (OfflineResult R))
  | fail (errorCode message : String)
  | replay (lastSequenceNumber : ℤ)

/-- One command, whether it returns or raises. -/
def step (s : SpooledSession R V) : Command R V → SpooledSession R V
  | .start => (onRolling (RollingSession.start c) s).2
  | .push models payload => (push c models payload s).2
  | .finalize models offline => (finalize c models offline s).2
  | .fail errorCode message => (onRolling (RollingSession.fail c errorCode message) s).2
  | .replay lastSequenceNumber => (onRolling (RollingSession.replay lastSequenceNumber) s).2

/-! ## What leaves the audio alone -/

/-- The ring and the count of samples are what they were. -/
structure SameAudio (s t : RollingSession R V ℚ) : Prop where
  samples : t.samples = s.samples
  totalSamples : t.totalSamples = s.totalSamples

instance : Std.Refl (SameAudio (R := R) (V := V)) := ⟨fun _ => ⟨rfl, rfl⟩⟩

instance : IsTrans (RollingSession R V ℚ) SameAudio where
  trans _ _ _ h h' := ⟨h'.samples.trans h.samples, h'.totalSamples.trans h.totalSamples⟩

variable {c}

omit [AddCommGroup V] [Module R V] [EmbeddingSpace R V] in
theorem sameAudio_onStreaming {α : Type} (m : Method PyError (StreamingSession R V) α) :
    Within SameAudio (RollingSession.onStreaming (S := ℚ) m) := fun _ => ⟨rfl, rfl⟩

omit [AddCommGroup V] [Module R V] [EmbeddingSpace R V] in
theorem sameAudio_onSession {α : Type} (m : Method PyError (Session R V) α) :
    Within SameAudio (RollingSession.onSession (S := ℚ) m) := sameAudio_onStreaming _

/-- **A rolling step only looks at the audio.** -/
theorem sameAudio_process (models : RollingModels R V ℚ) (forceClose : Bool) :
    Within SameAudio (RollingSession.process c models forceClose) := by
  refine within_bind (within_modify (fun _ => ⟨rfl, rfl⟩)) (fun _ =>
    within_bind within_read (fun s => ?_))
  split
  · exact within_pure _
  · refine within_bind (within_ofExcept _) (fun diarization =>
      within_bind (within_ofExcept _) (fun osd => within_bind (sameAudio_onSession _) (fun _ =>
      within_bind (within_ofExcept _) (fun speech => within_bind ?_ (fun _ =>
      within_bind within_read (fun t => ?_))))))
    · exact within_bind within_read (fun _ => within_bind (within_ofExcept _) (fun _ =>
        within_modify (fun _ => ⟨rfl, rfl⟩)))
    · dsimp only
      split
      · exact sameAudio_onStreaming _
      · refine within_bind (sameAudio_onSession _) (fun calls => within_bind ?_ (fun _ =>
          within_bind (sameAudio_onStreaming _) (fun _ => within_pure _)))
        exact within_bind within_read (fun _ => within_bind (sameAudio_onStreaming _) (fun _ =>
          within_bind (within_modify (fun _ => ⟨rfl, rfl⟩)) (fun _ => within_pure _)))

omit [AddCommGroup V] [Module R V] [EmbeddingSpace R V] in
theorem sameAudio_start : Within SameAudio (RollingSession.start (V := V) (S := ℚ) c) := by
  refine within_bind within_read (fun _ => ?_)
  split
  · exact within_throw _
  · exact within_bind (within_modify (fun _ => ⟨rfl, rfl⟩)) (fun _ => sameAudio_onStreaming _)

theorem sameAudio_finalize (models : RollingModels R V ℚ)
    (secondPass : Except PyError (OfflineResult R)) :
    Within SameAudio (RollingSession.finalize c models secondPass) := by
  refine within_bind within_read (fun _ => ?_)
  split
  · exact within_pure _
  · exact within_bind (within_modify (fun _ => ⟨rfl, rfl⟩)) (fun _ =>
      within_bind (sameAudio_process models true) (fun _ =>
      within_bind (sameAudio_onStreaming _) (fun _ =>
      within_bind (within_modify (fun _ => ⟨rfl, rfl⟩)) (fun _ =>
      within_bind within_read (fun _ =>
      within_bind (sameAudio_onStreaming _) (fun _ => within_pure _))))))

omit [AddCommGroup V] [Module R V] [EmbeddingSpace R V] in
theorem sameAudio_fail (errorCode message : String) :
    Within SameAudio (RollingSession.fail (V := V) (S := ℚ) c errorCode message) :=
  within_bind (within_modify (fun _ => ⟨rfl, rfl⟩)) (fun _ => sameAudio_onStreaming _)

/-! ## The invariant -/

/-- **What the session holds of what was pushed**: the ring its end, and the
spool, if there is one, all of it. -/
structure Holds (c : StreamingContext R) (keepSessionAudio : Bool) (s : SpooledSession R V) :
    Prop where
  total : s.totalSamples = s.pushed.length
  ring : s.samples = (lastSlice (ringSamples c) s.pushed).map sampleToFloat
  spool : if keepSessionAudio = true then ∃ raw, s.sessionPcm = some raw
      ∧ raw.length % 2 = 0 ∧ frombuffer raw = s.pushed
    else s.sessionPcm = none

variable {keepSessionAudio : Bool} {s : SpooledSession R V}

omit [AddCommGroup V] [Module R V] [EmbeddingSpace R V] in
theorem holds_new (modelVersions : ModelVersions) (embeddingModelVersion : String) :
    Holds c keepSessionAudio
      (new (V := V) c keepSessionAudio modelVersions embeddingModelVersion) where
  total := rfl
  ring := by
    rw [lastSlice_of_le (Nat.zero_le _)]
    rfl
  spool := by
    cases keepSessionAudio with
    | true => exact ⟨[], rfl, rfl, rfl⟩
    | false => rfl

omit [AddCommGroup V] [Module R V] [EmbeddingSpace R V] in
/-- What leaves the audio alone keeps the invariant. -/
theorem Holds.onRolling (h : Holds c keepSessionAudio s) {α : Type}
    {m : Method PyError (RollingSession R V ℚ) α} (hm : Within SameAudio m) :
    Holds c keepSessionAudio (onRolling m s).2 where
  total := (hm s.toRollingSession).totalSamples.trans h.total
  ring := (hm s.toRollingSession).samples.trans h.ring
  spool := h.spool

/-- What a payload of whole samples does to the session before the next
rolling step. -/
def receive (c : StreamingContext R) (payload : List UInt8) (s : SpooledSession R V) :
    SpooledSession R V where
  toRollingSession := RollingSession.receive c ((frombuffer payload).map sampleToFloat)
    s.toRollingSession
  sessionPcm := s.sessionPcm.map (· ++ payload)
  pushed := s.pushed ++ frombuffer payload

omit [AddCommGroup V] [Module R V] [EmbeddingSpace R V] in
theorem Holds.receive (h : Holds c keepSessionAudio s) {payload : List UInt8}
    (hpayload : payload.length % 2 = 0) : Holds c keepSessionAudio (receive c payload s) where
  total := by
    show s.totalSamples + ((frombuffer payload).map sampleToFloat).length
      = (s.pushed ++ frombuffer payload).length
    rw [List.length_map, List.length_append, h.total]
  ring := by
    show (if ringSamples c < (s.samples ++ (frombuffer payload).map sampleToFloat).length then
        lastSlice (ringSamples c) (s.samples ++ (frombuffer payload).map sampleToFloat)
      else s.samples ++ (frombuffer payload).map sampleToFloat)
      = (lastSlice (ringSamples c) (s.pushed ++ frombuffer payload)).map sampleToFloat
    have hend : (lastSlice (ringSamples c) (s.pushed ++ frombuffer payload)).map sampleToFloat
        = lastSlice (ringSamples c) (s.samples ++ (frombuffer payload).map sampleToFloat) := by
      rw [h.ring, ← lastSlice_map, ← lastSlice_map, lastSlice_lastSlice_append, List.map_append]
    rw [hend]
    split
    · rfl
    · next hfits => exact (lastSlice_of_le (not_lt.mp hfits)).symm
  spool := by
    have hspool := h.spool
    cases keepSessionAudio with
    | true =>
      obtain ⟨raw, hraw, hwhole, hpushed⟩ := hspool
      refine ⟨raw ++ payload, congrArg (Option.map (· ++ payload)) hraw, ?_, ?_⟩
      · rw [List.length_append]
        omega
      · rw [frombuffer_append hwhole, hpushed]
        rfl
    | false => exact congrArg (Option.map (· ++ payload)) hspool

/-- **Every command keeps the invariant.** -/
theorem Holds.step (h : Holds c keepSessionAudio s) (command : Command R V) :
    Holds c keepSessionAudio (step c s command) := by
  cases command with
  | start => exact h.onRolling sameAudio_start
  | push models payload =>
    show Holds c keepSessionAudio (push c models payload s).2
    unfold push
    rw [read_bind]
    split
    · exact h
    · next hstreaming =>
      split
      · exact h
      · next hwhole =>
        rw [modify_bind]
        have hreceived := h.receive (not_not.mp hwhole)
        unfold SpooledSession.onRolling zoom RollingSession.push
        dsimp only
        rw [read_bind, if_neg hstreaming, modify_bind, read_bind]
        split
        · have hsame := sameAudio_process (c := c) models false
            (RollingSession.receive c ((frombuffer payload).map sampleToFloat) s.toRollingSession)
          exact ⟨hsame.totalSamples.trans hreceived.total, hsame.samples.trans hreceived.ring,
            hreceived.spool⟩
        · exact hreceived
  | finalize models offline => exact h.onRolling (sameAudio_finalize models _)
  | fail errorCode message => exact h.onRolling (sameAudio_fail errorCode message)
  | replay lastSequenceNumber =>
    exact h.onRolling (within_bind within_read (fun _ => within_ofExcept _))

/-! ## The time line -/

/-- **The final pass keeps the time line of the session**: sample `k` of the
recording it hands over is sample `k` of the session. -/
def TimeLineKept (s : SpooledSession R V) : Prop :=
  ∀ k : ℕ, s.finalWav.data[k]? = s.pushed[k]?.map storedSample

section

omit [AddCommGroup V] [Module R V] [EmbeddingSpace R V]

theorem timeLineKept_iff_eq :
    s.TimeLineKept ↔ s.finalWav.data = s.pushed.map storedSample := by
  rw [List.ext_getElem?_iff]
  simp only [List.getElem?_map]
  rfl

/-- **What the final pass hands over**: with a spool all that was pushed, and
without one the end of it. -/
theorem Holds.finalWav_data (h : Holds c keepSessionAudio s) : s.finalWav.data
    = (if keepSessionAudio = true then s.pushed else lastSlice (ringSamples c) s.pushed).map
      storedSample := by
  have hspool := h.spool
  unfold finalWav allSessionSamples toWav
  cases keepSessionAudio with
  | true =>
    obtain ⟨raw, hraw, -, hpushed⟩ := hspool
    rw [hraw, ← hpushed]
    exact List.map_map
  | false =>
    rw [show s.sessionPcm = none from hspool, h.ring]
    exact List.map_map

/-- A ring that has overflowed hands over audio that begins after what it has
dropped, as if nothing had been. -/
theorem finalWav_eq_drop (h : Holds c false s) (hring : ringSamples c ≠ 0) :
    s.finalWav.data
      = (s.pushed.map storedSample).drop (s.totalSamples - ringSamples c) := by
  rw [h.finalWav_data, if_neg nofun, h.total, ← List.map_drop]
  unfold lastSlice
  rw [if_neg hring]

end

/-- **The time line of a session is kept, in every state it reaches, exactly
when it keeps its audio or its ring has never overflowed.** A ring of no samples
is never cut. -/
theorem timeLineKept_iff (c : StreamingContext R) (keepSessionAudio : Bool)
    (modelVersions : ModelVersions) (embeddingModelVersion : String)
    (commands : List (Command R V)) :
    (commands.foldl (step c)
        (new c keepSessionAudio modelVersions embeddingModelVersion)).TimeLineKept
      ↔ keepSessionAudio = true ∨ ringSamples c = 0
        ∨ (commands.foldl (step c)
          (new c keepSessionAudio modelVersions embeddingModelVersion)).totalSamples
            ≤ ringSamples c := by
  have h : Holds c keepSessionAudio (commands.foldl (step c)
      (new c keepSessionAudio modelVersions embeddingModelVersion)) :=
    invariant_foldl (holds_new modelVersions embeddingModelVersion)
      (fun _ command hs => hs.step command)
  generalize commands.foldl (step c)
    (new c keepSessionAudio modelVersions embeddingModelVersion) = s at h ⊢
  rw [timeLineKept_iff_eq, h.finalWav_data, h.total]
  cases keepSessionAudio with
  | true => exact iff_of_true rfl (Or.inl rfl)
  | false =>
    rw [if_neg nofun]
    by_cases hring : ringSamples c = 0
    · refine iff_of_true ?_ (Or.inr (Or.inl hring))
      unfold lastSlice
      rw [if_pos hring]
    · constructor
      · intro heq
        have hlength := congrArg List.length heq
        rw [List.length_map, List.length_map, length_lastSlice hring] at hlength
        exact Or.inr (Or.inr (min_eq_right_iff.mp hlength))
      · rintro (hkeep | hzero | hfits)
        · cases hkeep
        · exact absurd hzero hring
        · rw [lastSlice_of_le hfits]

/-! ## A ring of one millisecond -/

/-- A session whose ring, window and hop are of one millisecond. -/
def shortRing : StreamingContext ℚ := .ofConfig {
  streaming := { StreamingConfig.default with
    ringBufferSeconds := 1 / 1000
    diarizationWindowSeconds := 1 / 1000
    diarizationHopSeconds := 1 / 1000
    hop_pos := by norm_num
    hop_le_window := by norm_num
    window_le_ring := by norm_num } }

/-- Models that hear nothing. -/
def deaf : RollingModels ℚ ℚ ℚ := .deaf

/-- Sixteen samples fit into the ring. -/
theorem timeLineKept_of_sixteen :
    ([.start, .push deaf ((List.range 16).flatMap fun k => [UInt8.ofNat (k + 1), 0])].foldl
      (step shortRing) (new shortRing false {} "campplus")).TimeLineKept :=
  (timeLineKept_iff shortRing false {} "campplus" _).mpr (.inr (.inr (by decide +kernel)))

/-- **The time line is lost.** Seventeen samples are pushed, and the final pass
hands over the last sixteen as if they were the first. -/
theorem timeLine_lost :
    ¬ ([.start, .push deaf ((List.range 17).flatMap fun k => [UInt8.ofNat (k + 1), 0])].foldl
      (step shortRing) (new shortRing false {} "campplus")).TimeLineKept := by
  intro h
  have hfirst := h 0
  revert hfirst
  decide +kernel

end SpooledSession

end Sastt
