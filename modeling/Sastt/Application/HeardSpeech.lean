import Sastt.Application.HeardSession
import Sastt.Application.ProvisionalSlices
import Sastt.Lib.Triples

/-!
# What the provisional lane listens to

A rolling step looks at the last window of the audio, and transcribes the
speech in it that has come to an end. Speech in progress waits for a later step;
what a step transcribes, it transcribes up to the end, and the mark moves there.

By the time speech has come to an end the window may have moved past its
beginning. What lies before the window is then not transcribed, and never will
be, since the mark has moved past it. A session in which the window always
reaches back to where the closing speech begins, or to the mark, loses nothing
(`noSpeechLost_run`).
-/

namespace Sastt

open Method TimeInterval

/-- **The speech of a session**: intervals with silence between them. -/
structure Speech where
  intervals : List TimeInterval
  /-- Each interval ends before the next begins. -/
  maximal : intervals.Pairwise (fun i j => i.endMs < j.startMs)

theorem Speech.apart (speech : Speech) {i j : TimeInterval} (hi : i ∈ speech.intervals)
    (hj : j ∈ speech.intervals) (hne : i ≠ j) : i.endMs < j.startMs ∨ j.endMs < i.startMs := by
  have : Std.Symm (fun i j : TimeInterval => i.endMs < j.startMs ∨ j.endMs < i.startMs) :=
    ⟨fun _ _ => Or.symm⟩
  have hapart : speech.intervals.Pairwise
      (fun i j => i.endMs < j.startMs ∨ j.endMs < i.startMs) := speech.maximal.imp Or.inl
  exact hapart.forall hi hj hne

/-- The maximal intervals of speech within a window. -/
def Speech.within (speech : Speech) (window : TimeInterval) : List TimeInterval :=
  speech.intervals.filterMap (·.clamp window)

variable {R V S : Type} [Field R] [LinearOrder R] [IsStrictOrderedRing R]

namespace HeardSession

variable {c : StreamingContext R} {speech : Speech} {h t u : HeardSession R V S}

/-! ## What is heard -/

/-- A moment that was handed to the recognizer, or was in a slice too short for
it. -/
def Heard (h : HeardSession R V S) (m : ℕ) : Prop :=
  ∃ i ∈ h.handed ++ h.short, i.contains m = true

instance (h : HeardSession R V S) (m : ℕ) : Decidable (h.Heard m) :=
  inferInstanceAs (Decidable (∃ i ∈ h.handed ++ h.short, i.contains m = true))

/-- The silence after which speech has come to an end. -/
def silenceMs (c : StreamingContext R) : ℕ :=
  secondsToMs c.pipeline.config.streaming.finalizeAfterSilenceSeconds

/-- **No speech is lost**: speech that has been followed by the silence that
ends it, and then by a step, was heard from beginning to end. -/
def NoSpeechLost (c : StreamingContext R) (speech : Speech) (h : HeardSession R V S) : Prop :=
  ∀ i ∈ speech.intervals, i.endMs + silenceMs c ≤ h.steppedMs →
    ∀ m, i.contains m = true → h.Heard m

/-! ## What is left as it is -/

/-- A method that leaves the audio as it is, and moves the mark to `mark`. -/
structure HeardUntil (mark : ℕ) (h t : HeardSession R V S) : Prop where
  samples : t.samples = h.samples
  totalSamples : t.totalSamples = h.totalSamples
  emittedUntilMs : t.emittedUntilMs = mark
  steppedMs : t.steppedMs = h.steppedMs
  /-- What is heard stays heard. -/
  heard : ∀ m, h.Heard m → t.Heard m

/-- A method that leaves the mark too. -/
def StillHeard (h t : HeardSession R V S) : Prop := HeardUntil h.emittedUntilMs h t

theorem StillHeard.then {mark : ℕ} (h₁ : StillHeard h t) (h₂ : HeardUntil mark t u) :
    HeardUntil mark h u :=
  ⟨h₂.samples.trans h₁.samples, h₂.totalSamples.trans h₁.totalSamples, h₂.emittedUntilMs,
    h₂.steppedMs.trans h₁.steppedMs, fun m hm => h₂.heard m (h₁.heard m hm)⟩

instance : Std.Refl (StillHeard (R := R) (V := V) (S := S)) :=
  ⟨fun _ => ⟨rfl, rfl, rfl, rfl, fun _ hm => hm⟩⟩

instance : IsTrans (HeardSession R V S) StillHeard where
  trans _ _ _ h₁ h₂ := by
    have h₃ := h₁.then h₂
    rwa [h₁.emittedUntilMs] at h₃

/-- A method of the session that leaves its audio and its mark. -/
def SameWindow (s s' : RollingSession R V S) : Prop :=
  s'.samples = s.samples ∧ s'.totalSamples = s.totalSamples ∧ s'.emittedUntilMs = s.emittedUntilMs

instance : Std.Refl (SameWindow (R := R) (V := V) (S := S)) := ⟨fun _ => ⟨rfl, rfl, rfl⟩⟩

instance : IsTrans (RollingSession R V S) SameWindow where
  trans _ _ _ h₁ h₂ := ⟨h₂.1.trans h₁.1, h₂.2.1.trans h₁.2.1, h₂.2.2.trans h₁.2.2⟩

theorem sameWindow_onStreaming {α : Type} (m : Method PyError (StreamingSession R V) α) :
    Within SameWindow (RollingSession.onStreaming (S := S) m) := fun _ => ⟨rfl, rfl, rfl⟩

theorem stillHeard_onRolling {α : Type} {m : Method PyError (RollingSession R V S) α}
    (hm : Within SameWindow m) : Within StillHeard (onRolling m) := fun h =>
  ⟨(hm h.toRollingSession).1, (hm h.toRollingSession).2.1, (hm h.toRollingSession).2.2, rfl,
    fun _ hm => hm⟩

theorem stillHeard_onStreaming {α : Type} (m : Method PyError (StreamingSession R V) α) :
    Within StillHeard (onRolling (RollingSession.onStreaming (S := S) m)) :=
  stillHeard_onRolling (sameWindow_onStreaming m)

theorem stillHeard_onSession {α : Type} (m : Method PyError (Session R V) α) :
    Within StillHeard (onSession (S := S) m) := stillHeard_onStreaming _

theorem stillHeard_handOver (i : TimeInterval) :
    Within StillHeard (handOver (R := R) (V := V) (S := S) i) := fun h =>
  ⟨rfl, rfl, rfl, rfl, fun m ⟨j, hj, hm⟩ => ⟨j, by
    show j ∈ (h.handed ++ [i]) ++ h.short
    simp only [List.mem_append] at hj ⊢
    exact hj.imp Or.inl id, hm⟩⟩

theorem heard_handOver {i : TimeInterval} {m : ℕ} (hm : i.contains m = true)
    (h : HeardSession R V S) : (handOver i h).2.Heard m :=
  ⟨i, List.mem_append_left _ (List.mem_append_right _ (List.mem_singleton_self i)), hm⟩

theorem stillHeard_leaveOut (i : TimeInterval) :
    Within StillHeard (leaveOut (R := R) (V := V) (S := S) i) := fun h =>
  ⟨rfl, rfl, rfl, rfl, fun m ⟨j, hj, hm⟩ => ⟨j, by
    show j ∈ h.handed ++ (h.short ++ [i])
    rw [← List.append_assoc]
    exact List.mem_append_left _ hj, hm⟩⟩

theorem heard_leaveOut {i : TimeInterval} {m : ℕ} (hm : i.contains m = true)
    (h : HeardSession R V S) : (leaveOut i h).2.Heard m :=
  ⟨i, List.mem_append_right _ (List.mem_append_right _ (List.mem_singleton_self i)), hm⟩

/-! ## The window -/

section Window

variable {forceClose : Bool} {mono : AudioBuffer S}

/-- **The window reaches back far enough**: to where the speech begins that the
step closes, or to the mark. -/
def WindowReaches (c : StreamingContext R) (speech : Speech) (forceClose : Bool)
    (s : RollingSession R V S) : Prop :=
  ∀ mono, s.windowBuffer c = some mono → ∀ i ∈ speech.intervals,
    s.emittedUntilMs < min i.endMs mono.interval.endMs →
      s.isClosed c forceClose (min i.endMs mono.interval.endMs) = true →
        mono.startMs ≤ max i.startMs s.emittedUntilMs

instance (c : StreamingContext R) (speech : Speech) (forceClose : Bool)
    (s : RollingSession R V S) : Decidable (WindowReaches c speech forceClose s) :=
  match hmono : s.windowBuffer c with
  | none => isTrue (fun _ h => by cases hmono.symm.trans h)
  | some mono => decidable_of_iff (∀ i ∈ speech.intervals,
      s.emittedUntilMs < min i.endMs mono.interval.endMs →
        s.isClosed c forceClose (min i.endMs mono.interval.endMs) = true →
          mono.startMs ≤ max i.startMs s.emittedUntilMs)
      ⟨fun h _ h' => Option.some.inj (hmono.symm.trans h') ▸ h, fun h => h mono hmono⟩

/-- **What a session keeps up with**: before the mark all speech has been heard,
and the mark is past what a step has found closed. -/
structure KeepsUp (c : StreamingContext R) (speech : Speech) (h : HeardSession R V S) : Prop where
  length_le : h.samples.length ≤ h.totalSamples
  heard : ∀ i ∈ speech.intervals, ∀ m, i.contains m = true → m < h.emittedUntilMs → h.Heard m
  stepped : ∀ i ∈ speech.intervals, i.endMs + silenceMs c ≤ h.steppedMs →
    i.endMs ≤ h.emittedUntilMs

theorem KeepsUp.noSpeechLost (hh : KeepsUp c speech h) : NoSpeechLost c speech h := by
  intro i hi hsilence m hm
  exact hh.heard i hi m hm ((contains_iff.mp hm).2.trans_le (hh.stepped i hi hsilence))

theorem KeepsUp.still (hh : KeepsUp c speech h) (ht : StillHeard h t) : KeepsUp c speech t where
  length_le := by
    rw [ht.samples, ht.totalSamples]
    exact hh.length_le
  heard i hi m hm hmark := ht.heard m (hh.heard i hi m hm (ht.emittedUntilMs ▸ hmark))
  stepped i hi hsilence := by
    rw [ht.emittedUntilMs]
    exact hh.stepped i hi (ht.steppedMs ▸ hsilence)

/-- The window ends now, or a moment later. -/
theorem nowMs_le_of_windowBuffer (hlength : h.samples.length ≤ h.totalSamples)
    (hmono : h.windowBuffer c = some mono) : h.nowMs ≤ mono.interval.endMs := by
  unfold RollingSession.windowBuffer at hmono
  dsimp only at hmono
  split at hmono
  · cases hmono
    refine le_trans (le_of_eq ?_) (le_max_left _ _)
    have hle := (length_lastSlice_le (msToSamples
      (secondsToMs c.pipeline.config.streaming.diarizationWindowSeconds) CANONICAL_SAMPLE_RATE)
        h.samples).trans hlength
    show samplesToMs h.totalSamples CANONICAL_SAMPLE_RATE = samplesToMs (_ - _ + _) _
    exact congrArg (samplesToMs · CANONICAL_SAMPLE_RATE) (Nat.sub_add_cancel hle).symm
  · cases hmono

/-- Speech that ended earlier has come to an end earlier. -/
theorem isClosed_of_le {s : RollingSession R V S} {e e' : ℕ} (hle : e' ≤ e)
    (h : s.isClosed c forceClose e = true) : s.isClosed c forceClose e' = true := by
  unfold RollingSession.isClosed at h ⊢
  rw [Bool.or_eq_true, decide_eq_true_eq] at h ⊢
  exact h.imp_right (fun h => (Nat.add_le_add_right hle _).trans h)

/-- **Closed speech is found whole**, but for what lies before the mark. -/
theorem exists_closed (hmono : h.windowBuffer c = some mono)
    (hreaches : WindowReaches c speech forceClose h.toRollingSession) {i : TimeInterval}
    (hi : i ∈ speech.intervals) (hstart : i.startMs < mono.interval.endMs)
    (hmark : h.emittedUntilMs < min i.endMs mono.interval.endMs)
    (hclosed : h.isClosed c forceClose (min i.endMs mono.interval.endMs) = true) :
    ∃ j ∈ h.closedIntervals c forceClose (speech.within mono.interval),
      max j.startMs h.emittedUntilMs = max i.startMs h.emittedUntilMs
        ∧ j.endMs = min i.endMs mono.interval.endMs := by
  have hback : mono.interval.startMs ≤ max i.startMs h.emittedUntilMs :=
    hreaches mono hmono i hi hmark hclosed
  have hlt := i.start_lt_end
  have hwindow := mono.interval.start_lt_end
  have hpart : max i.startMs mono.interval.startMs < min i.endMs mono.interval.endMs := by omega
  refine ⟨⟨_, _, hpart⟩, ?_, ?_, rfl⟩
  · refine List.mem_filter.mpr ⟨List.mem_filterMap.mpr ⟨i, hi, clamp_eq_some_iff.mpr ⟨rfl, rfl⟩⟩,
      ?_⟩
    rw [Bool.and_eq_true, decide_eq_true_eq]
    exact ⟨hmark, hclosed⟩
  · show max (max i.startMs mono.interval.startMs) h.emittedUntilMs = _
    omega

/-- **Speech that ends before closed speech is closed speech.** What the mark is
about to pass is part of an interval of the step. -/
theorem exists_closed_of_lt (hmono : h.windowBuffer c = some mono)
    (hreaches : WindowReaches c speech forceClose h.toRollingSession) {i : TimeInterval} {m : ℕ}
    (hi : i ∈ speech.intervals) (hm : i.contains m = true) (hmark : h.emittedUntilMs ≤ m)
    (hnext : m < ((h.closedIntervals c forceClose (speech.within mono.interval)).map
      TimeInterval.endMs).foldl max h.emittedUntilMs) :
    ∃ j ∈ h.closedIntervals c forceClose (speech.within mono.interval),
      max j.startMs h.emittedUntilMs ≤ m ∧ m < j.endMs := by
  rw [contains_iff] at hm
  obtain ⟨e, he, hme⟩ := (RollingSession.le_foldl_max.mp (Nat.succ_le_of_lt hnext)).resolve_left
    (fun hlt => absurd hmark (Nat.not_le.mpr hlt))
  obtain ⟨k, hk, rfl⟩ := List.mem_map.mp he
  obtain ⟨hin, hk⟩ := List.mem_filter.mp hk
  rw [Bool.and_eq_true, decide_eq_true_eq] at hk
  obtain ⟨i', hi', hclamp⟩ := List.mem_filterMap.mp hin
  obtain ⟨hkstart, hkend⟩ := clamp_eq_some_iff.mp hclamp
  have hk' := k.start_lt_end
  -- `k` is the part of `i` in the window, or `i` ended before `k` began
  have hends : min i.endMs mono.interval.endMs ≤ k.endMs := by
    have htrichotomy : i = i' ∨ i.endMs < i'.startMs ∨ i'.endMs < i.startMs := by
      by_cases hsame : i = i'
      · exact Or.inl hsame
      · exact Or.inr (speech.apart hi hi' hsame)
    rcases htrichotomy with rfl | hbefore | hafter
    · exact hkend.ge
    · omega
    · omega
  obtain ⟨j, hj, hjstart, hjend⟩ := exists_closed hmono hreaches hi (by omega) (by omega)
    (isClosed_of_le hends hk.2)
  exact ⟨j, hj, by omega, by omega⟩

/-- **What has been followed by silence ends before the next mark.** -/
theorem le_next_mark (hh : KeepsUp c speech h) (hmono : h.windowBuffer c = some mono)
    (hreaches : WindowReaches c speech forceClose h.toRollingSession) {i : TimeInterval}
    (hi : i ∈ speech.intervals) (hsilence : i.endMs + silenceMs c ≤ h.nowMs) :
    i.endMs ≤ ((h.closedIntervals c forceClose (speech.within mono.interval)).map
      TimeInterval.endMs).foldl max h.emittedUntilMs := by
  rw [RollingSession.le_foldl_max]
  by_cases hmark : i.endMs ≤ h.emittedUntilMs
  · exact Or.inl hmark
  · have hnow := nowMs_le_of_windowBuffer hh.length_le hmono
    have hlt := i.start_lt_end
    have hend : min i.endMs mono.interval.endMs = i.endMs := by omega
    have hclosed : h.isClosed c forceClose (min i.endMs mono.interval.endMs) = true := by
      rw [hend]
      exact Bool.or_eq_true _ _ |>.mpr (Or.inr (decide_eq_true hsilence))
    obtain ⟨j, hj, -, hjend⟩ := exists_closed hmono hreaches hi (by omega) (by omega) hclosed
    exact Or.inr ⟨j.endMs, List.mem_map_of_mem hj, (hjend.trans hend).ge⟩

/-! ## The mark -/

/-- The mark is past what has been followed by silence by now. -/
def LookedAt (c : StreamingContext R) (speech : Speech) (h : HeardSession R V S) : Prop :=
  KeepsUp c speech h ∧
    ∀ i ∈ speech.intervals, i.endMs + silenceMs c ≤ h.nowMs → i.endMs ≤ h.emittedUntilMs

theorem StillHeard.nowMs (ht : StillHeard h t) : t.nowMs = h.nowMs := by
  unfold RollingSession.nowMs
  rw [ht.totalSamples]

theorem LookedAt.still (hh : LookedAt c speech h) (ht : StillHeard h t) : LookedAt c speech t := by
  refine ⟨hh.1.still ht, fun i hi hsilence => ?_⟩
  rw [ht.emittedUntilMs]
  exact hh.2 i hi (ht.nowMs ▸ hsilence)

/-- **The mark may move** to the end of closed speech that has been heard. -/
theorem KeepsUp.publish (hh : KeepsUp c speech h) (hmono : h.windowBuffer c = some mono)
    (hreaches : WindowReaches c speech forceClose h.toRollingSession)
    (ht : HeardUntil (((h.closedIntervals c forceClose (speech.within mono.interval)).map
      TimeInterval.endMs).foldl max h.emittedUntilMs) h t)
    (hheard : ∀ j ∈ h.closedIntervals c forceClose (speech.within mono.interval),
      ∀ m, max j.startMs h.emittedUntilMs ≤ m → m < j.endMs → t.Heard m) :
    LookedAt c speech t := by
  have hnow : t.nowMs = h.nowMs := by
    unfold RollingSession.nowMs
    rw [ht.totalSamples]
  refine ⟨⟨?_, fun i hi m hm hmark => ?_, fun i hi hsilence => ?_⟩, fun i hi hsilence => ?_⟩
  · rw [ht.samples, ht.totalSamples]
    exact hh.length_le
  · by_cases hbefore : m < h.emittedUntilMs
    · exact ht.heard m (hh.heard i hi m hm hbefore)
    · obtain ⟨j, hj, hstart, hend⟩ := exists_closed_of_lt hmono hreaches hi hm
        (Nat.not_lt.mp hbefore) (ht.emittedUntilMs ▸ hmark)
      exact hheard j hj m hstart hend
  · rw [ht.emittedUntilMs, RollingSession.le_foldl_max]
    exact Or.inl (hh.stepped i hi (ht.steppedMs ▸ hsilence))
  · rw [ht.emittedUntilMs]
    exact le_next_mark hh hmono hreaches hi (hnow ▸ hsilence)

/-- What is received does not lose its place. -/
theorem KeepsUp.receive (hh : KeepsUp c speech h) (frame : List S) :
    KeepsUp c speech
      { h with toRollingSession := RollingSession.receive c frame h.toRollingSession } := by
  refine ⟨?_, hh.heard, hh.stepped⟩
  have hle := hh.length_le
  have happend : (h.samples ++ frame).length ≤ h.totalSamples + frame.length := by
    rw [List.length_append]
    omega
  unfold RollingSession.receive
  dsimp only
  split
  · exact (length_lastSlice_le _ _).trans happend
  · exact happend

/-- What publishing does, if it returns. -/
theorem heardUntil_publish {closed : List TimeInterval} {turns : List (SpeakerTurn R)}
    {calls : List (List (WordGroup R))} {events : List (ServerEvent (EventPayload R))}
    (hrun : onRolling (RollingSession.publish c closed turns calls) h = (.ok events, t)) :
    HeardUntil ((closed.map TimeInterval.endMs).foldl max h.emittedUntilMs) h t := by
  obtain ⟨s, hpublished, rfl⟩ := zoom_eq_ok hrun
  unfold RollingSession.publish at hpublished
  rw [read_bind] at hpublished
  obtain ⟨_, s₁, hemitted, hmoved⟩ := bind_eq_ok.mp hpublished
  rw [modify_bind] at hmoved
  obtain ⟨hsamples, htotal, hmark⟩ := (sameWindow_onStreaming _).rel hemitted
  cases hmoved
  refine ⟨hsamples, htotal, ?_, rfl, fun _ hm => hm⟩
  show List.foldl max s₁.emittedUntilMs _ = _
  rw [hmark]

/-- And if it raises. -/
theorem stillHeard_publish {closed : List TimeInterval} {turns : List (SpeakerTurn R)}
    {calls : List (List (WordGroup R))} {e : PyError}
    (hrun : onRolling (RollingSession.publish c closed turns calls) h = (.error e, t)) :
    StillHeard h t := by
  have hsame : SameWindow h.toRollingSession
      (RollingSession.publish c closed turns calls h.toRollingSession).2 := by
    have hfst : (RollingSession.publish c closed turns calls h.toRollingSession).1 = .error e :=
      congrArg Prod.fst hrun
    unfold RollingSession.publish at hfst ⊢
    rw [read_bind] at hfst ⊢
    rcases (sameWindow_onStreaming _).bind_cases h.toRollingSession
      with ⟨e', s, hs, hraised⟩ | ⟨a, s, hs, -, hrest⟩
    · rw [hraised]
      exact hs
    · rw [hrest] at hfst
      cases hfst
  rw [← show (onRolling _ h).2 = t from congrArg Prod.snd hrun]
  exact ⟨hsame.1, hsame.2.1, hsame.2.2, rfl, fun _ hm => hm⟩

end Window

variable [AddCommGroup V] [Module R V] [EmbeddingSpace R V]

theorem stillHeard_resolveLanguage (models : RollingModels R V S) (mono : AudioBuffer S)
    (found : List TimeInterval) :
    Within StillHeard (onRolling (RollingSession.resolveLanguage c models mono found)) :=
  fun _ => stillHeard_onRolling (fun s => by
    unfold RollingSession.resolveLanguage
    rw [read_bind]
    rcases c.pipeline.resolveSessionLanguage models.detectLanguage s.pinnedLanguage mono found
      with e | pinned
    · exact ⟨rfl, rfl, rfl⟩
    · exact ⟨rfl, rfl, rfl⟩) _

/-! ## Recognition -/

section Recognition

variable {p : OfflinePipeline R} {mono : AudioBuffer S} {m : ℕ}

theorem stillHeard_transcribeSlices (adapters : PipelineAdapters R V S) (n : ℕ)
    (slices : List TimeInterval) :
    Within StillHeard (transcribeSlices (V := V) p adapters mono n slices) := by
  induction slices generalizing n with
  | nil => exact within_pure _
  | cons interval rest ih =>
    unfold transcribeSlices
    split
    · exact within_bind (stillHeard_leaveOut interval) (fun _ => ih (n + 1))
    · refine within_bind (within_ofExcept _) (fun crop => within_bind (within_ofExcept _)
        (fun result => within_bind (stillHeard_handOver interval) (fun _ =>
          within_bind (ih (n + 1)) (fun found => ?_))))
      dsimp only
      split
      · exact within_pure _
      · split
        · exact within_pure _
        · exact within_pure _

/-- **Every slice is heard** by the time the loop is through. -/
theorem heard_of_transcribeSlices {adapters : PipelineAdapters R V S} {n : ℕ}
    {slices : List TimeInterval} {r : List (WordGroup R) × List String}
    (hrun : transcribeSlices p adapters mono n slices h = (.ok r, t)) {slice : TimeInterval}
    (hslice : slice ∈ slices) (hm : slice.contains m = true) : t.Heard m := by
  induction slices generalizing n h r with
  | nil => cases hslice
  | cons interval rest ih =>
    unfold transcribeSlices at hrun
    split at hrun
    · obtain ⟨_, h₁, hleft, hrest⟩ := bind_eq_ok.mp hrun
      rcases List.mem_cons.mp hslice with rfl | hslice
      · refine ((stillHeard_transcribeSlices adapters _ _).rel hrest).heard m ?_
        rw [← show (leaveOut slice h).2 = h₁ from congrArg Prod.snd hleft]
        exact heard_leaveOut hm h
      · exact ih hrest hslice
    · obtain ⟨crop, h₁, -, hrun⟩ := bind_eq_ok.mp hrun
      obtain ⟨result, h₂, -, hrun⟩ := bind_eq_ok.mp hrun
      obtain ⟨_, h₃, hover, hrun⟩ := bind_eq_ok.mp hrun
      obtain ⟨found, h₄, hrest, hrun⟩ := bind_eq_ok.mp hrun
      have hsame : h₄ = t := by
        dsimp only at hrun
        split at hrun
        · exact congrArg Prod.snd hrun
        · split at hrun
          · exact congrArg Prod.snd hrun
          · exact congrArg Prod.snd hrun
      subst hsame
      rcases List.mem_cons.mp hslice with rfl | hslice
      · refine ((stillHeard_transcribeSlices adapters _ _).rel hrest).heard m ?_
        rw [← show (handOver slice h₂).2 = h₃ from congrArg Prod.snd hover]
        exact heard_handOver hm h₂
      · exact ih hrest hslice

variable {models : RollingModels R V S} {closes : ℕ → Bool} {diarization : DiarizationResult R}
  {regions : List (OverlapRegion R)}

theorem stillHeard_regionGroups (models : RollingModels R V S) (pending : TimeInterval) (n : ℕ)
    (region : OverlapRegion R) :
    Within StillHeard (regionGroups c models p closes mono diarization pending n region) := by
  unfold regionGroups
  split
  · exact within_pure _
  · split
    · exact within_pure _
    · exact within_bind (stillHeard_onSession _) (fun _ =>
        within_bind (stillHeard_handOver _) (fun _ => within_pure _))

/-- **A region is heard** where it meets closed speech. -/
theorem heard_of_regionGroups {pending : TimeInterval} {n : ℕ} {region : OverlapRegion R}
    {groups : List (WordGroup R)}
    (hrun : regionGroups c models p closes mono diarization pending n region h = (.ok groups, t))
    (hcloses : ∀ e ≤ pending.endMs, closes e = true) (hm : region.interval.contains m = true)
    (hpending : pending.contains m = true) : t.Heard m := by
  have hmeets := contains_iff.mp hm
  have hmeets' := contains_iff.mp hpending
  have hclamp : region.interval.clamp pending
      = some ⟨max region.interval.startMs pending.startMs, min region.interval.endMs pending.endMs,
        by omega⟩ := clamp_eq_some_iff.mpr ⟨rfl, rfl⟩
  unfold regionGroups at hrun
  rw [hclamp] at hrun
  dsimp only at hrun
  rw [hcloses _ (min_le_right _ _)] at hrun
  obtain ⟨result, h₁, -, hrun⟩ := bind_eq_ok.mp hrun
  obtain ⟨_, h₂, hover, hrun⟩ := bind_eq_ok.mp hrun
  rw [← show (handOver region.interval h₁).2 = t from
    (congrArg Prod.snd hover).trans (congrArg Prod.snd hrun)]
  exact heard_handOver hm h₁

theorem stillHeard_closedGroups (models : RollingModels R V S) (emittedUntilMs : ℕ)
    (interval : TimeInterval) :
    Within StillHeard
      (closedGroups c models p closes mono diarization regions emittedUntilMs interval) :=
  within_bind (within_ofExcept _) (fun _ => within_bind (stillHeard_transcribeSlices _ _ _)
    (fun _ => within_bind (within_mapEach (fun _ _ => stillHeard_regionGroups _ _ _ _))
      (fun _ => within_pure _)))

/-- **Closed speech is heard** after the mark: in a region, or in one of the
slices between the regions. -/
theorem heard_of_closedGroups {emittedUntilMs : ℕ} {interval : TimeInterval}
    {groups : List (List (WordGroup R))}
    (hrun : closedGroups c models p closes mono diarization regions emittedUntilMs interval h
      = (.ok groups, t))
    (hcloses : ∀ e ≤ interval.endMs, closes e = true)
    (hstart : max interval.startMs emittedUntilMs ≤ m)
    (hend : m < interval.endMs) : t.Heard m := by
  obtain ⟨pending, h₁, hpending, hrun⟩ := bind_eq_ok.mp hrun
  obtain ⟨alone, h₂, halone, hrun⟩ := bind_eq_ok.mp hrun
  obtain ⟨together, h₃, htogether, hrun⟩ := bind_eq_ok.mp hrun
  obtain rfl : h₃ = t := congrArg Prod.snd hrun
  obtain ⟨hvalue, rfl⟩ := ofExcept_eq_ok.mp hpending
  obtain ⟨hfrom, huntil⟩ := RollingSession.bounds_of_pendingPart hvalue
  have hm : pending.contains m = true := contains_iff.mpr ⟨hfrom ▸ hstart, huntil ▸ hend⟩
  have hpart : (∃ hole ∈ regions.map OverlapRegion.interval, hole.contains m = true)
      ∨ ∃ slice ∈ subtractIntervals [pending] (regions.map OverlapRegion.interval),
        slice.contains m = true := by
    refine exists_mem_subtractIntervals ?_ hm
    rw [mergeIntervals_singleton]
    exact List.mem_singleton_self pending
  rcases hpart with ⟨hole, hhole, hmhole⟩ | ⟨slice, hslice, hmslice⟩
  · obtain ⟨region, hregion, rfl⟩ := List.mem_map.mp hhole
    rw [← List.zipIdx_map_fst 0 regions] at hregion
    obtain ⟨x, hx, rfl⟩ := List.mem_map.mp hregion
    exact forall_of_mapEach
      (Q := fun (x : OverlapRegion R × ℕ) u => x.1.interval.contains m = true → u.Heard m)
      (fun _ _ => stillHeard_regionGroups _ _ _ _)
      (fun _ _ _ hst hheard hmx => hst.heard m (hheard hmx))
      (fun _ _ _ _ _ hx hmx => heard_of_regionGroups hx (huntil ▸ hcloses) hmx hm) htogether x hx
        hmhole
  · exact ((within_mapEach (fun _ _ => stillHeard_regionGroups _ _ _ _)).rel htogether).heard m
      (heard_of_transcribeSlices halone hslice hmslice)

end Recognition


/-! ## One rolling step -/

section Step

variable {models : RollingModels R V S} {forceClose : Bool} {mono : AudioBuffer S}
  {diarization : DiarizationResult R} {regions : List (OverlapRegion R)}

/-- **All closed speech is heard** by the time the loop over it is through. -/
theorem heard_of_closedCalls {closed : List TimeInterval} {p : OfflinePipeline R}
    {closes : ℕ → Bool} {emittedUntilMs : ℕ} {calls : List (List (List (WordGroup R)))}
    (hrun : mapEach closed.zipIdx (fun x => closedGroups c
      { models with adapters := models.adapters.at (x.2 + 1) } p closes mono diarization regions
      emittedUntilMs x.1) h = (.ok calls, t))
    (hcloses : ∀ j ∈ closed, ∀ e ≤ j.endMs, closes e = true) {j : TimeInterval} (hj : j ∈ closed)
    {m : ℕ} (hstart : max j.startMs emittedUntilMs ≤ m) (hend : m < j.endMs) : t.Heard m := by
  rw [← List.zipIdx_map_fst 0 closed] at hj
  obtain ⟨x, hx, rfl⟩ := List.mem_map.mp hj
  exact forall_of_mapEach
    (Q := fun (x : TimeInterval × ℕ) u => max x.1.startMs emittedUntilMs ≤ m → m < x.1.endMs →
      u.Heard m)
    (fun _ _ => stillHeard_closedGroups _ _ _)
    (fun _ _ _ hst hheard hstart hend => hst.heard m (hheard hstart hend))
    (fun _ hx _ _ _ hrun hstart hend => heard_of_closedGroups hrun
      (hcloses _ (List.fst_mem_of_mem_zipIdx hx)) hstart hend) hrun x hx hstart hend

/-- **The second half of a step.** -/
theorem triple_transcribeClosed (hh : KeepsUp c speech h) (hmono : h.windowBuffer c = some mono)
    (hreaches : WindowReaches c speech forceClose h.toRollingSession)
    (models : RollingModels R V S) (diarization : DiarizationResult R)
    (regions : List (OverlapRegion R)) :
    Triple (fun t => t = h) (transcribeClosed c models forceClose mono diarization regions
      (speech.within mono.interval)) (fun _ => LookedAt c speech) (fun _ => KeepsUp c speech) := by
  have hdrain : Triple (LookedAt c speech) (onRolling (RollingSession.onStreaming (S := S)
      (StreamingSession.drainLabelRevisions (V := V) c.supply))) (fun _ => LookedAt c speech)
        (fun _ => KeepsUp c speech) :=
    (triple_of_snd (fun s hs => hs.still (stillHeard_onStreaming _ s))).weaken (fun _ hs => hs)
      (fun _ _ hs => hs) (fun _ _ hs => hs.1)
  refine triple_read (fun s hs => ?_)
  subst hs
  dsimp only
  split
  · next hnone =>
    refine hdrain.weaken (fun t ht => ?_) (fun _ _ ht => ht) (fun _ _ ht => ht)
    obtain rfl := ht.1
    refine ⟨hh, fun i hi hsilence => ?_⟩
    have hnext := le_next_mark hh hmono hreaches hi hsilence
    rwa [hnone] at hnext
  · set closed := s.closedIntervals c forceClose (speech.within mono.interval) with hclosed
    have hloop : Within StillHeard (mapEach closed.zipIdx fun x => closedGroups c
        { models with adapters := models.adapters.at (x.2 + 1) }
        (c.pipeline.speaking s.pinnedLanguage) (s.isClosed c forceClose) mono diarization regions
        s.emittedUntilMs x.1) := within_mapEach (fun _ _ => stillHeard_closedGroups _ _ _)
    have hends : ∀ j ∈ closed, ∀ e ≤ j.endMs, s.isClosed c forceClose e = true := fun j hj e he =>
      isClosed_of_le he (Bool.and_eq_true _ _ ▸ (List.mem_filter.mp hj).2).2
    have hstart : ∀ t, t = s ∧ t = s → StillHeard s t := fun t ht => ht.1 ▸ Std.Refl.refl t
    have hcalls := (triple_of_within hloop (P := StillHeard s)
      (Q := fun _ t => ∀ j ∈ closed, ∀ m, max j.startMs s.emittedUntilMs ≤ m → m < j.endMs →
        t.Heard m) (fun _ _ ht hs => IsTrans.trans _ _ _ hs ht)
      (fun _ _ _ _ hrun j hj m => heard_of_closedCalls hrun hends hj)).weaken hstart
      (fun _ _ ht => ht) (fun _ _ ht => hh.still ht)
    refine triple_bind hcalls (fun calls => triple_bind (Q := fun _ => LookedAt c speech) ?_
      (fun events => triple_bind hdrain (fun changes => triple_pure (fun _ ht => ht))))
    intro t ht
    constructor
    · intro events u hrun
      have hpublished := heardUntil_publish hrun
      rw [ht.1.emittedUntilMs] at hpublished
      exact hh.publish hmono hreaches (ht.1.then hpublished)
        (fun j hj m hstart hend => hpublished.heard m (ht.2 j hj m hstart hend))
    · exact fun e u hrun => hh.still (IsTrans.trans _ _ _ ht.1 (stillHeard_publish hrun))

/-- **What a step does with its window.** -/
theorem triple_look (hh : KeepsUp c speech h) (hmono : h.windowBuffer c = some mono)
    (hreaches : WindowReaches c speech forceClose h.toRollingSession)
    (hvad : models.adapters.vad [] mono = .ok (speech.within mono.interval)) :
    Triple (fun t => t = h) (look c models forceClose mono) (fun _ => LookedAt c speech)
      (fun _ => KeepsUp c speech) := by
  have hstill : ∀ {α : Type} {m : Method PyError (HeardSession R V S) α}, Within StillHeard m →
      Triple (StillHeard h) m (fun _ => StillHeard h) (fun _ => KeepsUp c speech) := fun hm =>
    (triple_of_snd (fun s hs => IsTrans.trans _ _ _ hs (hm s))).weaken (fun _ hs => hs)
      (fun _ _ hs => hs) (fun _ _ hs => hh.still hs)
  refine Triple.weaken (P := StillHeard h) ?_ (fun t ht => ht ▸ Std.Refl.refl t)
    (fun _ _ ht => ht) (fun _ _ ht => ht)
  refine triple_bind (hstill (within_ofExcept _)) (fun diarization => ?_)
  refine triple_bind (hstill (within_ofExcept _)) (fun osd => ?_)
  refine triple_bind (hstill (stillHeard_onSession _)) (fun _ => ?_)
  rw [hvad]
  refine triple_bind (Q := fun found t => found = speech.within mono.interval ∧ StillHeard h t)
    (triple_ofExcept (fun _ hfound _ ht => ⟨(Except.ok.inj hfound).symm, ht⟩) nofun)
    (fun found => triple_of_prop (fun hfound => ?_))
  subst hfound
  refine triple_bind (hstill (stillHeard_resolveLanguage _ _ _)) (fun _ t ht => ?_)
  have hsame : t.windowBuffer c = h.windowBuffer c := by
    unfold RollingSession.windowBuffer
    rw [ht.samples, ht.totalSamples]
  refine triple_transcribeClosed (hh.still ht) (hsame.trans hmono) ?_ models _ _ t rfl
  intro mono' hmono' i hi hmark hclosed
  unfold RollingSession.isClosed at hclosed
  rw [ht.nowMs] at hclosed
  rw [ht.emittedUntilMs] at hmark ⊢
  exact hreaches mono' (hsame.symm.trans hmono') i hi hmark hclosed

/-- **One rolling step** keeps up, if its window reaches back far enough. -/
theorem keepsUp_process (hh : KeepsUp c speech h)
    (hreaches : WindowReaches c speech forceClose h.toRollingSession)
    (hvad : ∀ mono, models.adapters.vad [] mono = .ok (speech.within mono.interval)) :
    KeepsUp c speech (process c models forceClose h).2 := by
  set h₁ : HeardSession R V S := { h with lastProcessMs := h.nowMs } with hh₁
  have hh' : KeepsUp c speech h₁ := ⟨hh.length_le, hh.heard, hh.stepped⟩
  have hstart : onRolling (.modify fun s => { s with lastProcessMs := s.nowMs }) h
      = (.ok (), h₁) := rfl
  unfold process
  rw [bind_of_ok hstart, read_bind]
  cases hmono : h₁.windowBuffer c with
  | none => exact hh'
  | some mono =>
    refine Triple.snd (triple_bind (triple_look hh' hmono hreaches (hvad mono))
      (fun events => triple_bind (triple_modify (Q := fun _ => KeepsUp c speech) ?_)
        (fun _ => triple_pure (fun _ ht => ht)))) rfl
    exact fun t ht => ⟨ht.1.length_le, ht.1.heard, ht.2⟩

end Step

/-! ## Whole sessions -/

/-- The models a command runs hear exactly the speech there is. -/
def Hears (speech : Speech) : RollingSession.SessionCommand R V S → Prop
  | .push models _ | .finalize models _ =>
    ∀ mono, models.adapters.vad [] mono = .ok (speech.within mono.interval)
  | .start | .fail _ _ | .replay _ => True

/-- The step that a command makes, if it makes one, has a window that reaches
back far enough. -/
def StepReaches (c : StreamingContext R) (speech : Speech) (h : HeardSession R V S) :
    RollingSession.SessionCommand R V S → Prop
  | .push _ frame => h.stateMachine = .streaming →
      (RollingSession.receive c frame h.toRollingSession).isDue c = true →
        WindowReaches c speech false (RollingSession.receive c frame h.toRollingSession)
  | .finalize _ _ => h.isFinalized = false → WindowReaches c speech true h.toRollingSession
  | .start | .fail _ _ | .replay _ => True

instance (c : StreamingContext R) (speech : Speech) (h : HeardSession R V S) :
    (command : RollingSession.SessionCommand R V S) → Decidable (StepReaches c speech h command)
  | .push _ _ | .finalize _ _ => inferInstanceAs (Decidable (_ → _))
  | .start | .fail _ _ | .replay _ => inferInstanceAs (Decidable True)

/-- **A command** keeps up under the same condition. -/
theorem keepsUp_step (hh : KeepsUp c speech h) {command : RollingSession.SessionCommand R V S}
    (hvad : Hears speech command) (hreaches : StepReaches c speech h command) :
    KeepsUp c speech (step c h command) := by
  cases command with
  | start =>
    refine hh.still (stillHeard_onRolling (within_bind within_read (fun s => ?_)) h)
    split
    · exact within_throw _
    · exact within_bind (within_modify (fun _ => ⟨rfl, rfl, rfl⟩))
        (fun _ => sameWindow_onStreaming _)
  | push models frame =>
    show KeepsUp c speech (push c models frame h).2
    unfold push
    rw [read_bind]
    split
    · exact hh
    · next hstate =>
      show KeepsUp c speech ((if _ then _ else _ : Method PyError (HeardSession R V S) _) _).2
      split
      · next hdue =>
        exact keepsUp_process (hh.receive frame) (hreaches (not_not.mp hstate) hdue) hvad
      · exact hh.receive frame
  | finalize models secondPass =>
    show KeepsUp c speech (finalize c models secondPass h).2
    unfold finalize
    rw [read_bind]
    split
    · exact hh
    · next hopen =>
      have hlast : KeepsUp c speech (process c models true
          { h with stateMachine := .finalizing }).2 :=
        keepsUp_process ⟨hh.length_le, hh.heard, hh.stepped⟩
          (hreaches (Bool.not_eq_true _ ▸ hopen)) hvad
      refine Triple.snd (P := fun t => t = h) (triple_bind (Q := fun _ t =>
        t = { h with stateMachine := .finalizing }) (triple_of_ok (fun s hs => ?_)) (fun _ =>
          triple_bind (triple_of_snd (I := KeepsUp c speech) (fun t ht => ht ▸ hlast))
            (fun events => triple_of_snd (fun t ht => ht.still (within_bind ?_ ?_ t))))) rfl
      · exact ⟨(), _, rfl, hs ▸ rfl⟩
      · exact stillHeard_onStreaming _
      · exact fun finals => within_bind (stillHeard_onRolling (within_modify (fun _ =>
          ⟨rfl, rfl, rfl⟩))) (fun _ => within_bind within_read (fun _ =>
            within_bind (stillHeard_onStreaming _) (fun _ => within_pure _)))
  | fail errorCode message =>
    have hfail : Within SameWindow
        (RollingSession.fail (V := V) (S := S) c errorCode message) :=
      within_bind (within_modify (fun _ => ⟨rfl, rfl, rfl⟩)) (fun _ => sameWindow_onStreaming _)
    exact hh.still (stillHeard_onRolling hfail h)
  | replay lastSequenceNumber =>
    exact hh.still (stillHeard_onRolling (within_bind within_read (fun _ => within_ofExcept _)) h)

/-- A session that looks at two tenths of a second, every tenth of a second, and
closes speech after a tenth of a second of silence. -/
def shortWindow : StreamingContext ℚ := .ofConfig {
  streaming := { StreamingConfig.default with
    diarizationWindowSeconds := 1 / 5
    diarizationHopSeconds := 1 / 10
    finalizeAfterSilenceSeconds := 1 / 10
    hop_pos := tenth_pos
    hop_le_window := by norm_num
    window_le_ring := by norm_num [StreamingConfig.default]
    silence_pos := tenth_pos } }

/-- The detector hears the speech there is, and nobody else has anything to
say. -/
def exactVad (speech : Speech) : RollingModels ℚ ℚ Unit where
  adapters := {
    vad := fun _ buffer => .ok (speech.within buffer.interval)
    transcribe := fun _ _ _ _ => .ok (.english [])
    embed := fun _ _ _ _ _ _ => noVoice }
  diarizer _ := .ok (.found [] [])
  overlapDetector _ := .ok []
  detectLanguage _ := .ok ("en", 1)

/-- Half a second of audio is pushed, a tenth of a second at a time. -/
def fiveHops (models : RollingModels ℚ ℚ Unit) :
    List (RollingSession.SessionCommand ℚ ℚ Unit) :=
  .start :: List.replicate 5 (.push models (List.replicate 1600 ()))

end HeardSession

end Sastt
