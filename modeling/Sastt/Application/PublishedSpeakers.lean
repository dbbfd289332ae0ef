import Mathlib.Data.List.MinMax
import Sastt.Application.FusionMethods
import Sastt.Application.SpeakerRecords
import Sastt.Lib.Programs

/-!
# Speakers that can be published

A segment is published under a speaker id, and the constructor of segments
checks that it is the session's id unless the speaker is enrolled. Fusion
takes it from `public_speaker_id`, which is the registry's id once there is
one, and takes the status from the state machine. The two agree as long as
nobody has a registry id without being enrolled (`publishes_iff`).

Two calls of `apply_voice_id` make a speaker that does: an ambiguous decision
about an enrolled speaker moves the machine and leaves the registry id, and
an enrolled decision about a speaker given up as unknown sets the registry id
and cannot move the machine. From then on fusing a word of the speaker
raises. No other call does, and a run without these two calls can be
published at any time (`along_publishes_iff`).
-/

namespace Sastt

open Method

variable {R V : Type} [Field R] [LinearOrder R] [IsStrictOrderedRing R]

/-! ## Utterances -/

section Utterances

omit [Field R] [LinearOrder R] [IsStrictOrderedRing R] in
/-- An utterance takes time, as its words do. -/
theorem Utterance.start_lt_end (u : Utterance R) : u.startMs < u.endMs := by
  obtain ⟨w, hw⟩ := List.exists_mem_of_ne_nil u.words u.words_ne_nil
  have hstart : u.startMs ≤ w.startMs := by
    unfold Utterance.startMs
    obtain ⟨start, hs⟩ := Option.isSome_iff_exists.mp
      (List.isSome_min?_of_mem (List.mem_map_of_mem (f := Word.startMs) hw))
    rw [hs, Option.getD_some]
    exact (List.min?_eq_some_iff.mp hs).2 _ (List.mem_map_of_mem hw)
  have hend : w.endMs ≤ u.endMs := by
    unfold Utterance.endMs
    obtain ⟨stop, hs⟩ := Option.isSome_iff_exists.mp
      (List.isSome_max?_of_mem (List.mem_map_of_mem (f := Word.endMs) hw))
    rw [hs, Option.getD_some]
    exact (List.max?_eq_some_iff.mp hs).2 _ (List.mem_map_of_mem hw)
  exact hstart.trans_lt (w.start_lt_end.trans_le hend)

/-- The words of a list of utterances. -/
def wordCount (us : List (Utterance R)) : ℕ := (us.map (fun u => u.words.length)).sum

omit [Field R] [LinearOrder R] [IsStrictOrderedRing R] in
theorem wordCount_eq_length (us : List (Utterance R)) :
    wordCount us = (us.flatMap Utterance.words).length :=
  (List.length_flatMap ..).symm

variable {engine : FusionEngine R} {ulids : ℕ → String} {group : WordGroup R}
  {turns : List (SpeakerTurn R)} {s s' : Session R V}

/-- **No word of a group is lost or repeated**, and they stay in their order. -/
theorem words_coalesceWords {words : List (Word R)} {previous : Option String}
    {current : Option (Utterance R)} {us : List (Utterance R)}
    (h : engine.coalesceWords ulids group turns previous current words s = (.ok us, s')) :
    us.flatMap Utterance.words = current.toList.flatMap Utterance.words ++ words := by
  induction words generalizing s previous current us with
  | nil =>
    cases h
    exact (List.append_nil _).symm
  | cons word words ih =>
    obtain ⟨id, s₁, -, h⟩ := bind_eq_ok.mp h
    rw [read_bind] at h
    obtain ⟨speaker, s₂, -, h⟩ := bind_eq_ok.mp h
    cases hf : current.filter
        (fun u => u.continues speaker.sessionSpeakerId word engine.maxPauseMs) with
    | some u =>
      simp only [hf] at h
      obtain ⟨hcurrent, -⟩ := Option.filter_eq_some_iff.mp hf
      rw [ih h, hcurrent]
      simp [Utterance.add]
    | none =>
      simp only [hf] at h
      obtain ⟨rest, s₃, hrest, h⟩ := bind_eq_ok.mp h
      cases h
      rw [List.flatMap_append, ih hrest]
      simp [Utterance.single]

/-- Nor is a word of any group. -/
theorem words_coalesce {groups : List (WordGroup R)} {us : List (Utterance R)}
    (h : engine.coalesce ulids groups turns s = (.ok us, s')) :
    (us.flatMap Utterance.words).Perm (groups.flatMap WordGroup.words) := by
  obtain ⟨uss, s₁, hall, h⟩ := bind_eq_ok.mp h
  cases h
  clear * - hall
  induction groups generalizing s uss with
  | nil =>
    cases hall
    exact .refl _
  | cons g groups ih =>
    obtain ⟨us, s₂, hone, hall⟩ := bind_eq_ok.mp hall
    obtain ⟨vss, s₃, hrest, hall⟩ := bind_eq_ok.mp hall
    cases hall
    rw [List.flatten_cons, List.flatMap_append, List.flatMap_cons, words_coalesceWords hone]
    exact (List.perm_insertionSort _ _).append (ih _ hrest)

theorem wordCount_coalesce {groups : List (WordGroup R)} {us : List (Utterance R)}
    (h : engine.coalesce ulids groups turns s = (.ok us, s')) :
    wordCount us = (groups.map (fun g => g.words.length)).sum := by
  rw [wordCount_eq_length, (words_coalesce h).length_eq, List.length_flatMap]

/-- A segment has the words of its utterance. -/
theorem words_of_segmentOf {isFinal : Bool} {revision : ℕ} {supersedes : Option String}
    {u : Utterance R} {seg : TranscriptSegment R}
    (h : engine.segmentOf ulids isFinal revision supersedes u s = (.ok seg, s')) :
    seg.words = u.words := by
  unfold FusionEngine.segmentOf at h
  rw [read_bind] at h
  obtain ⟨speaker, s₁, -, h⟩ := bind_eq_ok.mp h
  obtain ⟨ulid, s₂, -, h⟩ := bind_eq_ok.mp h
  rw [TranscriptSegment.new_eq_ok (ofExcept_eq_ok.mp h).1]

/-- Nor is one lost or repeated when the segments are made. -/
theorem words_segments {us : List (Utterance R)} {segments : List (TranscriptSegment R)}
    {isFinal : Bool} {revision : ℕ} {supersedes : Option String}
    (h : mapEach us (engine.segmentOf ulids isFinal revision supersedes) s
      = (.ok segments, s')) :
    segments.flatMap (fun seg => seg.words) = us.flatMap Utterance.words := by
  induction us generalizing s segments with
  | nil =>
    cases h
    rfl
  | cons u us ih =>
    obtain ⟨seg, s₂, hone, hrest⟩ := bind_eq_ok.mp h
    obtain ⟨segs, s₃, hrest, hall⟩ := bind_eq_ok.mp hrest
    cases hall
    rw [List.flatMap_cons, List.flatMap_cons, words_of_segmentOf hone, ih hrest]

/-- **So the check that fusion loses no words always passes.** -/
theorem assertConcurrencyPreserved_of_segments {groups : List (WordGroup R)}
    {us : List (Utterance R)} {segments : List (TranscriptSegment R)} {isFinal : Bool}
    {revision : ℕ} {supersedes : Option String} {s₀ s₁ : Session R V}
    (hus : engine.coalesce ulids groups turns s₀ = (.ok us, s₁))
    (hsegments : mapEach us (engine.segmentOf ulids isFinal revision supersedes) s
      = (.ok segments, s')) :
    FusionEngine.assertConcurrencyPreserved groups segments = .ok () := by
  have hwords : (segments.map (fun seg => seg.words.length)).sum = wordCount us := by
    rw [← List.length_flatMap, words_segments hsegments, wordCount_eq_length]
  unfold FusionEngine.assertConcurrencyPreserved
  rw [hwords, wordCount_coalesce hus]
  simp

/-- **Fusion publishes the words it is given**, each once. -/
theorem words_fuse {groups : List (WordGroup R)} {segments : List (TranscriptSegment R)}
    {isFinal : Bool} {revision : ℕ} {supersedes : Option String}
    (h : engine.fuse ulids groups turns isFinal revision supersedes s = (.ok segments, s')) :
    (segments.flatMap (fun seg => seg.words)).Perm (groups.flatMap WordGroup.words) := by
  obtain ⟨us, s₁, hus, h⟩ := bind_eq_ok.mp h
  obtain ⟨segs, s₂, hsegments, h⟩ := bind_eq_ok.mp h
  obtain ⟨_, s₃, -, h⟩ := bind_eq_ok.mp h
  cases h
  rw [words_segments hsegments]
  exact words_coalesce hus

end Utterances

/-! ## What fusion raises -/

section Raising

/-- Any error but a broken invariant of a segment. -/
def NotSchema (e : PyError) : Prop := e.isClass .schemaInvariant = false

open SessionSpeakerState

theorem raises_register (s : SessionSpeaker R V) : Raises NotSchema (register s) := by
  refine raises_bind raises_read (fun st => ?_)
  split
  · exact raises_throw rfl
  · exact raises_modify _

theorem raises_get (st : SessionSpeakerState R V) (id : String) :
    ∀ e, st.get id = .error e → NotSchema e :=
  fun _ h => PyError.isClass_of_not_sastt (isSastt_of_get_error h) _

theorem raises_createSessionSpeaker (ulid : String) (clusterId label : Option String) :
    Raises NotSchema (createSessionSpeaker (R := R) (V := V) ulid clusterId label) := by
  refine raises_bind raises_read (fun st => ?_)
  split
  · exact raises_throw rfl
  · refine raises_bind (raises_modify _) (fun _ => raises_bind
      (raises_ofExcept (fun e he => nomatch he)) (fun _ => ?_))
    exact raises_bind (raises_register _) (fun _ => raises_pure _)

theorem raises_ensureClusterSpeaker (ulid clusterId : String) :
    Raises NotSchema (ensureClusterSpeaker (R := R) (V := V) ulid clusterId) := by
  refine raises_bind raises_read (fun st => ?_)
  split
  · exact raises_pure _
  · exact raises_createSessionSpeaker _ _ _

theorem raises_unattributedSpeaker (ulid : String) :
    Raises NotSchema (unattributedSpeaker (R := R) (V := V) ulid) := by
  refine raises_bind raises_read (fun st => ?_)
  split
  · split
    · exact raises_pure _
    · exact raises_throw rfl
  · refine raises_bind (raises_ofExcept (fun e he => nomatch he)) (fun _ => raises_bind
      (raises_ofExcept (fun e he => ?_)) (fun _ => raises_bind (raises_register _) (fun _ =>
        raises_bind (raises_modify _) (fun _ => raises_pure _))))
    unfold SpeakerIdentityStateMachine.transition at he
    split at he
    · cases he
    · cases he
      rfl

variable {engine : FusionEngine R} {ulids : ℕ → String} {turns : List (SpeakerTurn R)}

theorem raises_newUlid : Raises NotSchema (Session.newUlid (R := R) (V := V) ulids) :=
  fun _ _ h => nomatch h

theorem raises_wordSpeaker (group : WordGroup R) (word : Word R) (previous : Option String) :
    Raises NotSchema (FusionEngine.wordSpeaker (V := V) ulids group turns word previous) := by
  refine raises_bind ?_ (fun claimed => ?_)
  · unfold FusionEngine.claimant
    split
    · exact raises_pure _
    · refine raises_bind raises_read (fun s => ?_)
      split
      · exact raises_pure _
      · exact raises_bind raises_newUlid (fun _ => raises_bind
          (raises_zoom (raises_ensureClusterSpeaker _ _)) (fun _ => raises_pure _))
  · split
    · exact raises_pure _
    · refine raises_bind raises_read (fun s => ?_)
      split
      · exact raises_pure _
      · exact raises_bind raises_newUlid (fun _ => raises_bind
          (raises_zoom (raises_unattributedSpeaker _)) (fun _ => raises_pure _))

/-- **Attributing words breaks no invariant.** -/
theorem raises_coalesce (groups : List (WordGroup R)) :
    Raises NotSchema (engine.coalesce (V := V) ulids groups turns) := by
  refine raises_bind (raises_mapEach (fun group _ => ?_)) (fun _ => raises_pure _)
  generalize group.words.insertionSort Word.le = words
  generalize (none : Option String) = previous
  generalize (none : Option (Utterance R)) = current
  induction words generalizing previous current with
  | nil => exact raises_pure _
  | cons word words ih =>
    refine raises_bind (raises_wordSpeaker group word previous) (fun _ => raises_bind raises_read
      (fun s => raises_bind (raises_ofExcept (raises_get s.speakers _)) (fun _ => ?_)))
    split
    · exact ih _ _
    · exact raises_bind (ih _ _) (fun _ => raises_pure _)

end Raising

/-! ## Publishing the speakers of a state -/

namespace SessionSpeakerState

section Publishing

/-- **Enrolled speakers have an id and a name of the registry.** -/
def EnrolledNamed (st : SessionSpeakerState R V) : Prop :=
  ∀ id s, st.speakers id = some s → s.state = .enrolled →
    truthy s.registrySpeakerId = true ∧ truthy s.speakerName = true

/-- **Active speakers who are not enrolled go by the session's id.** -/
def SelfPublished (st : SessionSpeakerState R V) : Prop :=
  ∀ s ∈ st.active, s.state ≠ .enrolled → s.publicSpeakerId = s.sessionSpeakerId

variable {st st' : SessionSpeakerState R V}

theorem EnrolledNamed.of_steady (h : st.EnrolledNamed) (hs : Steady st st') :
    st'.EnrolledNamed := by
  intro id s' hs' henrolled
  cases hold : st.speakers id with
  | none => exact absurd henrolled (hs.added id s' hold hs').2
  | some s =>
    obtain ⟨t, ht, hsame⟩ := hs.kept id s hold
    rw [hs'] at ht
    cases ht
    rw [hsame.registry, hsame.name]
    exact h id s hold (hsame.enrolled.mp henrolled)

omit [Field R] [LinearOrder R] [IsStrictOrderedRing R] in
/-- A speaker that was never named goes by the session's id. -/
theorem publicSpeakerId_of_unnamed {s : SessionSpeaker R V} (h : s.Unnamed) :
    s.publicSpeakerId = s.sessionSpeakerId := by
  unfold SessionSpeaker.publicSpeakerId
  rw [h.1]

omit [Field R] [LinearOrder R] [IsStrictOrderedRing R] in
/-- So does one that shows the identity of one that does. -/
theorem publicSpeakerId_of_same {s s' : SessionSpeaker R V} (h : s.SameIdentity s') :
    s'.publicSpeakerId = s'.sessionSpeakerId ↔ s.publicSpeakerId = s.sessionSpeakerId := by
  unfold SessionSpeaker.publicSpeakerId
  rw [h.registry, h.id]

theorem SelfPublished.of_steady (h : st.SelfPublished) (hst : st.WellFormed)
    (hst' : st'.WellFormed) (hs : Steady st st') : st'.SelfPublished := by
  intro s' hs' hstate
  obtain ⟨hrecord, hactive⟩ := hst'.mem_active.mp hs'
  cases hold : st.speakers s'.sessionSpeakerId with
  | none => exact publicSpeakerId_of_unnamed (hs.added _ s' hold hrecord)
  | some s =>
    obtain ⟨t, ht, hsame⟩ := hs.kept _ s hold
    rw [hrecord] at ht
    cases ht
    refine (publicSpeakerId_of_same hsame).mpr (h s ?_ (fun he => hstate (hsame.enrolled.mpr he)))
    exact hst.mem_active.mpr ⟨hst.keyed hold, hsame.active hactive⟩

/-- What the steps of fusion keep of the speakers that can be published. -/
def KeepsSteady (st st' : SessionSpeakerState R V) : Prop :=
  st.WellFormed → st'.WellFormed ∧ Steady st st'

instance : Std.Refl (KeepsSteady (R := R) (V := V)) where
  refl st h := ⟨h, Std.Refl.refl st⟩

instance : IsTrans (SessionSpeakerState R V) KeepsSteady where
  trans _ _ _ h h' hst :=
    have ⟨hst', hs⟩ := h hst
    have ⟨hst'', hs'⟩ := h' hst'
    ⟨hst'', IsTrans.trans _ _ _ hs hs'⟩

end Publishing

end SessionSpeakerState

open SessionSpeakerState

/-- A session at work whose speakers stay who they are. -/
def Session.Steadies (s s' : Session R V) : Prop := KeepsSteady s.speakers s'.speakers

namespace FusionEngine

section Publishing

instance : Std.Refl (Session.Steadies (R := R) (V := V)) where
  refl s := Std.Refl.refl s.speakers

instance : IsTrans (Session R V) Session.Steadies where
  trans s s' s'' h h' :=
    (IsTrans.trans s.speakers s'.speakers s''.speakers h h' : KeepsSteady s.speakers s''.speakers)

/-- **Fusion names nobody.** -/
theorem frame_steadies (ulids : ℕ → String) :
    Frame (R := R) (V := V) ulids Session.Steadies where
  newUlid _ := Std.Refl.refl _
  ensureClusterSpeaker ulid cluster := within_zoom (R := KeepsSteady)
    (fun st h => ⟨(within_ensureClusterSpeaker ulid cluster st h).1,
      within_ensureClusterSpeaker_steady ulid cluster st⟩) (fun _ _ h => h)
  unattributedSpeaker ulid := within_zoom (R := KeepsSteady)
    (fun st h => ⟨(within_unattributedSpeaker ulid st h).1,
      within_unattributedSpeaker_steady ulid st⟩) (fun _ _ h => h)

variable {engine : FusionEngine R} {ulids : ℕ → String} {s s' : Session R V}

/-- **A word group as the recogniser's callers make it**: what was separated
has a track, and the confidence of the count is one. -/
structure WellFormedGroup (g : WordGroup R) : Prop where
  track : g.separationBackend.isSome → g.sourceTrack.isSome
  confidence : IsConfidence g.countConfidence

/-- The segment of an utterance passes the checks of its constructor where the
speaker can be published. -/
theorem segmentOf_notSchema {isFinal : Bool} {revision : ℕ} {supersedes : Option String}
    {u : Utterance R} (hw : s.speakers.WellFormed) (hn : s.speakers.EnrolledNamed)
    (hp : s.speakers.SelfPublished) (hu : WellFormedGroup u.group) (hr : 1 ≤ revision)
    {e : PyError} (h : (engine.segmentOf ulids isFinal revision supersedes u s).1 = .error e) :
    NotSchema e := by
  unfold segmentOf at h
  rw [read_bind] at h
  cases hget : s.speakers.get u.speakerId with
  | error e' =>
    rw [hget] at h
    cases h
    exact raises_get _ _ _ hget
  | ok speaker =>
    rw [hget, ofExcept_ok_bind] at h
    obtain ⟨-, hrecord, -, hactive⟩ := hw.get_eq_ok hget
    have hmem : speaker ∈ s.speakers.active :=
      hw.mem_active.mpr ⟨hw.keyed hrecord, hactive⟩
    -- the machine and the registry agree, so every check passes
    have hstatus : speaker.identityStatus = .enrolled ↔ speaker.state = .enrolled := by
      show speaker.machine.state.publicStatus = _ ↔ speaker.machine.state = _
      cases speaker.machine.state <;> simp [IdentityState.publicStatus]
    obtain ⟨ulid, t, hulid⟩ : ∃ ulid t,
        Session.newUlid (R := R) (V := V) ulids s = (.ok ulid, t) := ⟨_, _, rfl⟩
    rw [bind_of_ok hulid, ofExcept_apply, TranscriptSegment.new_of_valid] at h
    · cases h
    · refine ⟨u.start_lt_end, hr, hu.track, hu.confidence, fun he => ?_, fun he => ?_⟩
      · exact hn _ _ hrecord (hstatus.mp he)
      · exact hp speaker hmem (fun hstate => he (hstatus.mpr hstate))

/-- **Fusion breaks no invariant where all speakers can be published.** -/
theorem fuse_notSchema {groups : List (WordGroup R)} {turns : List (SpeakerTurn R)}
    {isFinal : Bool} {revision : ℕ} {supersedes : Option String}
    (hw : s.speakers.WellFormed) (hn : s.speakers.EnrolledNamed) (hp : s.speakers.SelfPublished)
    (hgroups : ∀ g ∈ groups, WellFormedGroup g) (hr : 1 ≤ revision) {e : PyError}
    (h : (engine.fuse ulids groups turns isFinal revision supersedes s).1 = .error e) :
    NotSchema e := by
  have hframe := (frame_steadies (R := R) (V := V) ulids).steps.coalesce engine turns groups s hw
  rcases hus : engine.coalesce ulids groups turns s with ⟨e' | us, s₁⟩
  · unfold fuse at h
    rw [bind_of_error hus] at h
    cases h
    exact raises_coalesce groups s e (by rw [hus])
  · rw [hus] at hframe
    obtain ⟨hw₁, hs₁⟩ := hframe
    unfold fuse at h
    rw [bind_of_ok hus] at h
    rcases hsegs : mapEach us (engine.segmentOf ulids isFinal revision supersedes) s₁ with
      ⟨e' | segments, s₂⟩
    · rw [bind_of_error hsegs] at h
      cases h
      obtain ⟨u, hu, t, hframe, hraised⟩ := mapEach_error (R := Session.Steadies)
        (fun u _ => (frame_steadies ulids).steps.segmentOf engine isFinal revision supersedes u)
        (by rw [hsegs])
      obtain ⟨hwt, hst⟩ := hframe hw₁
      obtain ⟨hgroup, -⟩ := coalesce_eq_ok hw hus u hu
      exact segmentOf_notSchema hwt ((hn.of_steady hs₁).of_steady hst)
        ((hp.of_steady hw hw₁ hs₁).of_steady hw₁ hwt hst) (hgroups _ hgroup) hr hraised
    · rw [bind_of_ok hsegs, assertConcurrencyPreserved_of_segments hus hsegs] at h
      cases h

/-- One word of a speaker. -/
def wordOf (id : String) : WordGroup R where
  words := [⟨"word", 0, 1, none, none, none, Nat.zero_lt_one⟩]
  interval := ⟨0, 1, Nat.zero_lt_one⟩
  sessionSpeakerId := some id

omit [IsStrictOrderedRing R] in
theorem wellFormedGroup_wordOf (id : String) : WellFormedGroup (wordOf (R := R) id) where
  track := nofun
  confidence := nofun

/-- The word is attributed to the speaker, and is an utterance. -/
theorem coalesce_wordOf {speaker : SessionSpeaker R V} {id : String}
    (hget : s.speakers.get id = .ok speaker) :
    ∃ u, u.speakerId = speaker.sessionSpeakerId ∧ u.group = wordOf id
      ∧ engine.coalesce ulids [wordOf id] [] s = (.ok [u], s) := by
  refine ⟨Utterance.single speaker.sessionSpeakerId ⟨"word", 0, 1, none, none, none,
    Nat.zero_lt_one⟩ (wordOf id), rfl, rfl, ?_⟩
  refine bind_eq_ok.mpr ⟨[[_]], s, bind_eq_ok.mpr ⟨[_], s, ?_, rfl⟩, rfl⟩
  refine bind_eq_ok.mpr ⟨id, s, rfl, ?_⟩
  exact bind_eq_ok.mpr ⟨s, s, rfl, bind_eq_ok.mpr ⟨speaker, s, ofExcept_eq_ok.mpr ⟨hget, rfl⟩, rfl⟩⟩

/-- **A speaker who goes by another id than the session's cannot be published**
unless enrolled. -/
theorem segmentOf_schema {isFinal : Bool} {revision : ℕ} {supersedes : Option String}
    {u : Utterance R} {speaker : SessionSpeaker R V}
    (hget : s.speakers.get u.speakerId = .ok speaker) (hu : WellFormedGroup u.group)
    (hr : 1 ≤ revision) (hstate : speaker.state ≠ .enrolled)
    (hid : speaker.publicSpeakerId ≠ speaker.sessionSpeakerId) :
    ∃ message t, engine.segmentOf ulids isFinal revision supersedes u s
      = (.error (.sastt .schemaInvariant message []), t) := by
  have hstatus : speaker.identityStatus ≠ .enrolled := by
    show speaker.machine.state.publicStatus ≠ _
    have hstate' : speaker.machine.state ≠ .enrolled := hstate
    revert hstate'
    cases speaker.machine.state <;> simp [IdentityState.publicStatus]
  refine ⟨"speaker_id must fall back to session_speaker_id when not enrolled",
    { s with drawn := s.drawn + 1 }, ?_⟩
  unfold segmentOf
  rw [read_bind, hget, ofExcept_ok_bind]
  obtain ⟨ulid, hulid⟩ : ∃ ulid, Session.newUlid (R := R) (V := V) ulids s
      = (.ok ulid, { s with drawn := s.drawn + 1 }) := ⟨_, rfl⟩
  rw [bind_of_ok hulid, ofExcept_apply]
  unfold TranscriptSegment.new
  rw [dif_pos u.start_lt_end, dif_pos hr, dif_pos hu.track, dif_pos hu.confidence,
    dif_pos (fun he => absurd he hstatus), dif_neg (fun h => hid (h hstatus))]
  rfl

end Publishing

end FusionEngine

namespace SessionSpeakerState

section Publishing

/-- **Every speaker can be published**: fusing any word groups against turns
of known clusters breaks no invariant of the segments. -/
def Publishes (st : SessionSpeakerState R V) : Prop :=
  ∀ (engine : FusionEngine R) (ulids : ℕ → String) (drawn : ℕ) (groups : List (WordGroup R))
    (turns : List (SpeakerTurn R)) (isFinal : Bool) (revision : ℕ) (supersedes : Option String),
    (∀ g ∈ groups, FusionEngine.WellFormedGroup g) →
    (∀ turn ∈ turns, (st.byCluster turn.clusterId).isSome) → 1 ≤ revision →
    ∀ e, (engine.fuse ulids groups turns isFinal revision supersedes ⟨st, drawn⟩).1 = .error e →
      NotSchema e

variable {st : SessionSpeakerState R V}

/-- **Exactly the states publish whose active speakers go by the session's id**
unless they are enrolled. -/
theorem publishes_iff (h : st.WellFormed) (hn : st.EnrolledNamed) :
    st.Publishes ↔ st.SelfPublished := by
  constructor
  · intro hpublishes s hs hstate
    by_contra hid
    obtain ⟨hrecord, hactive⟩ := h.mem_active.mp hs
    have hget : st.get s.sessionSpeakerId = .ok s := h.get_of_root hrecord hactive
    let engine : FusionEngine R := ⟨"", {}, NullConfidenceCalibrator R, 0⟩
    let ulids : ℕ → String := fun _ => ""
    have hcoalesce : ∃ u : Utterance R, u.speakerId = s.sessionSpeakerId
        ∧ u.group = FusionEngine.wordOf s.sessionSpeakerId
        ∧ engine.coalesce ulids [FusionEngine.wordOf s.sessionSpeakerId] [] ⟨st, 0⟩
          = (.ok [u], ⟨st, 0⟩) := FusionEngine.coalesce_wordOf hget
    obtain ⟨u, huid, hugroup, hcoalesce⟩ := hcoalesce
    have hsegment : ∃ message t, engine.segmentOf ulids false 1 none u ⟨st, 0⟩
        = (.error (.sastt .schemaInvariant message []), t) :=
      FusionEngine.segmentOf_schema (huid ▸ hget)
        (hugroup ▸ FusionEngine.wellFormedGroup_wordOf _) le_rfl hstate hid
    obtain ⟨message, t, hraised⟩ := hsegment
    have hfuse : (engine.fuse ulids [FusionEngine.wordOf s.sessionSpeakerId] [] false 1 none
        ⟨st, 0⟩).1 = .error (.sastt .schemaInvariant message []) := by
      unfold FusionEngine.fuse
      rw [bind_of_ok hcoalesce, mapEach, bind_of_error (bind_of_error hraised)]
    have hgroup : ∀ g ∈ [FusionEngine.wordOf (R := R) s.sessionSpeakerId],
        FusionEngine.WellFormedGroup g := by
      intro g hg
      rw [List.mem_singleton.mp hg]
      exact FusionEngine.wellFormedGroup_wordOf _
    have hnot := hpublishes engine ulids 0 _ [] false 1 none hgroup (by simp) le_rfl _ hfuse
    simp [NotSchema, PyError.isClass] at hnot
  · intro hself engine ulids drawn groups turns isFinal revision supersedes hgroups _ hr e he
    exact FusionEngine.fuse_notSchema h hn hself hgroups hr he

end Publishing

/-! ## Runs that can be published -/

section Runs

variable [AddCommGroup V] [Module R V] [EmbeddingSpace R V]

/-- **The calls that keep the speakers publishable**: an enrolled speaker is
put in doubt only if the registry knows it by the session's id, and nobody
else is given a name who cannot be enrolled. -/
def KeepsPublished (st : SessionSpeakerState R V) : Op R V → Prop
  | .applyVoiceId id decision => ∀ s, st.get id = .ok s →
      (decision.status = .ambiguous → s.state = .enrolled →
        s.publicSpeakerId = s.sessionSpeakerId)
      ∧ (Names decision → namedState s.state ≠ .enrolled →
        decision.registrySpeakerId = some s.sessionSpeakerId)
  | _ => True

variable {st : SessionSpeakerState R V}

/-- Naming a speaker keeps the enrolled ones named. -/
theorem enrolledNamed_step (h : st.WellFormed) (hn : st.EnrolledNamed) (op : Op R V) :
    (st.step op).EnrolledNamed := by
  by_cases hop : ∃ id decision, op = .applyVoiceId id decision
  · obtain ⟨id, decision, rfl⟩ := hop
    show EnrolledNamed (applyVoiceId id decision st).2
    rcases applyVoiceId_cases h id decision with
      ⟨heq, -⟩ | ⟨s, s', -, hspeakers, -, -, -, hcases⟩
    · rw [heq]
      exact hn
    · intro k t ht henrolled
      rw [hspeakers] at ht
      by_cases hk : k = s.sessionSpeakerId
      · rw [hk, Function.update_self] at ht
        cases ht
        rcases hcases with ⟨hnames, -, hregistry, hname⟩ | ⟨-, -, hdoubt, -⟩
        · rw [hregistry, hname]
          exact hnames.2
        · rw [hdoubt] at henrolled
          cases henrolled
      · rw [Function.update_of_ne hk] at ht
        exact hn k t ht henrolled
  · exact hn.of_steady (steady_step st op (fun id decision he => hop ⟨id, decision, he⟩))

omit [AddCommGroup V] [Module R V] [EmbeddingSpace R V] in
/-- Writing to the record of one active speaker leaves it to that record
whether all can be published. -/
theorem selfPublished_update {st' : SessionSpeakerState R V} {s s' : SessionSpeaker R V}
    (h : st.WellFormed) (h' : st'.WellFormed) (hself : st.SelfPublished)
    (hspeakers : st'.speakers = Function.update st.speakers s.sessionSpeakerId (some s'))
    (hid : s'.sessionSpeakerId = s.sessionSpeakerId) (hactive : s'.mergedInto = none) :
    st'.SelfPublished ↔ (s'.state ≠ .enrolled → s'.publicSpeakerId = s.sessionSpeakerId) := by
  constructor
  · intro hall hstate
    rw [← hid]
    refine hall s' (h'.mem_active.mpr ⟨?_, hactive⟩) hstate
    rw [hspeakers, hid, Function.update_self]
  · intro hone t ht hstate
    obtain ⟨hrecord, hroot⟩ := h'.mem_active.mp ht
    rw [hspeakers] at hrecord
    by_cases hk : t.sessionSpeakerId = s.sessionSpeakerId
    · rw [hk, Function.update_self] at hrecord
      cases hrecord
      rw [hid]
      exact hone hstate
    · rw [Function.update_of_ne hk] at hrecord
      exact hself t (h.mem_active.mpr ⟨hrecord, hroot⟩) hstate

/-- **A call keeps the speakers publishable exactly if** it is none of the
two that separate the registry's id from the machine. -/
theorem selfPublished_step (h : st.WellFormed) (hself : st.SelfPublished) (op : Op R V) :
    (st.step op).SelfPublished ↔ st.KeepsPublished op := by
  have h' := (step_cases h op).1
  by_cases hop : ∃ id decision, op = .applyVoiceId id decision
  · obtain ⟨id, decision, rfl⟩ := hop
    rcases applyVoiceId_cases h id decision with
      ⟨heq, hnothing⟩ | ⟨s, s', hget, hspeakers, -, hid, hmerged, hcases⟩
    · have hstep : st.step (.applyVoiceId id decision) = st := heq
      rw [hstep]
      refine ⟨fun _ s hs => ?_, fun _ => hself⟩
      exact ⟨fun hdoubt he => absurd ⟨hdoubt, he⟩ (hnothing s hs).2,
        fun hnames => absurd hnames (hnothing s hs).1⟩
    · obtain ⟨-, -, -, hactive⟩ := h.get_eq_ok hget
      rw [selfPublished_update h h' hself hspeakers hid (hmerged.trans hactive)]
      have hcond : st.KeepsPublished (.applyVoiceId id decision)
          ↔ (decision.status = .ambiguous → s.state = .enrolled →
              s.publicSpeakerId = s.sessionSpeakerId)
            ∧ (Names decision → namedState s.state ≠ .enrolled →
              decision.registrySpeakerId = some s.sessionSpeakerId) := by
        refine ⟨fun hc => hc s hget, fun hc t ht => ?_⟩
        rw [hget] at ht
        cases ht
        exact hc
      rw [hcond]
      rcases hcases with ⟨hnames, hstate, hregistry, -⟩ | ⟨hdoubt, henrolled, hstate, hregistry, -⟩
      · have hpublic : s'.publicSpeakerId = s.sessionSpeakerId
            ↔ decision.registrySpeakerId = some s.sessionSpeakerId := by
          obtain ⟨-, hid', -⟩ := hnames
          cases hreg : decision.registrySpeakerId with
          | none =>
            rw [hreg] at hid'
            cases hid'
          | some id' =>
            have hne : id' ≠ "" := by
              rintro rfl
              rw [hreg] at hid'
              simp [truthy] at hid'
            simp [SessionSpeaker.publicSpeakerId, hregistry, hreg, hne]
        rw [hstate, hpublic]
        refine ⟨fun hone => ⟨fun hamb => ?_, fun _ => hone⟩, fun hc => hc.2 hnames⟩
        rw [hnames.1] at hamb
        cases hamb
      · have hpublic : s'.publicSpeakerId = s.publicSpeakerId := by
          simp [SessionSpeaker.publicSpeakerId, hregistry, hid]
        rw [hstate, hpublic]
        refine ⟨fun hone => ⟨fun _ _ => hone nofun, fun hnames _ => ?_⟩,
          fun hc _ => hc.1 hdoubt henrolled⟩
        exact absurd (hdoubt.symm.trans hnames.1) nofun
  · refine iff_of_true ?_ ?_
    · exact hself.of_steady h h' (steady_step st op (fun id decision he => hop ⟨id, decision, he⟩))
    · cases op with
      | applyVoiceId id decision => exact absurd ⟨id, decision, rfl⟩ hop
      | _ => exact True.intro

omit [AddCommGroup V] [Module R V] [EmbeddingSpace R V] in
/-- A state without speakers can be published. -/
theorem selfPublished_new (sessionId : String) (config : SasttConfig R) (version : String) :
    (new sessionId config version : SessionSpeakerState R V).SelfPublished := by
  intro s hs
  cases hs

/-- **In which runs every speaker can be published throughout**: in those
without a call that separates the registry's id from the machine. -/
theorem along_publishes_iff (sessionId : String) (config : SasttConfig R) (version : String)
    (ops : List (Op R V)) :
    Along step Publishes (new sessionId config version) ops
      ↔ EachStep step KeepsPublished (new sessionId config version) ops := by
  have hnew := wellFormed_new (R := R) (V := V) sessionId config version
  have hnamed : (new sessionId config version : SessionSpeakerState R V).EnrolledNamed :=
    fun _ _ hs => nomatch hs
  rw [along_congr (I := fun st => st.WellFormed ∧ st.EnrolledNamed) ⟨hnew, hnamed⟩
    (fun st op hst => ⟨(step_cases hst.1 op).1, enrolledNamed_step hst.1 hst.2 op⟩)
    (fun st hst => publishes_iff hst.1 hst.2)]
  exact along_iff (I := WellFormed) hnew (selfPublished_new sessionId config version)
    (fun st op hst => (step_cases hst op).1)
    (fun st op hst hself => selfPublished_step hst hself op)

end Runs

/-! ### A speaker that is doubted -/

section Doubted

/-- A cluster that voice identification finds enrolled. -/
def enrolledOps : List (Op ℚ ℚ) :=
  [.createSessionSpeaker "1" (some "a") none,
    .applyVoiceId "sess_spk_1" { status := .enrolled, registrySpeakerId := some "reg_1",
                                 speakerName := some "An" }]

/-- Later it is not so sure. -/
def doubtedOps : List (Op ℚ ℚ) :=
  enrolledOps ++ [.applyVoiceId "sess_spk_1" { status := .ambiguous }]

/-- **A speaker who was enrolled and is in doubt cannot be published.** -/
theorem doubted_speaker_unpublishable :
    ¬ Along step Publishes (new "session" {} "campplus" : SessionSpeakerState ℚ ℚ)
      doubtedOps := by
  intro halong
  have hlast := (along_congr (I := fun st => st.WellFormed ∧ st.EnrolledNamed)
    ⟨wellFormed_new _ _ _, fun _ _ hs => nomatch hs⟩
    (fun st op hst => ⟨(step_cases hst.1 op).1, enrolledNamed_step hst.1 hst.2 op⟩)
    (fun st hst => publishes_iff hst.1 hst.2)).mp halong doubtedOps List.prefix_rfl
  revert hlast
  unfold SelfPublished
  decide +kernel

/-- Until then everything could be published. -/
theorem along_publishes_of_enrolled :
    Along step Publishes (new "session" {} "campplus" : SessionSpeakerState ℚ ℚ) enrolledOps := by
  refine (along_publishes_iff _ _ _ _).mpr (fun pre op hpre => ?_)
  obtain ⟨post, hpost⟩ := hpre
  match pre, hpost with
  | [], hpost =>
    cases hpost
    exact True.intro
  | [_], hpost =>
    cases hpost
    intro s hs
    have hstate : ((List.foldl step (new "session" {} "campplus" : SessionSpeakerState ℚ ℚ)
        [.createSessionSpeaker "1" (some "a") none]).get "sess_spk_1").map (fun s => s.state)
          = .ok .sessionAnonymous := by decide +kernel
    have hanonymous : s.state = .sessionAnonymous :=
      Except.ok.inj ((congrArg (Except.map SessionSpeaker.state) hs).symm.trans hstate)
    refine ⟨nofun, fun _ hne => absurd ?_ hne⟩
    rw [hanonymous]
    rfl
  | _ :: _ :: pre, hpost =>
    have hlength := congrArg List.length hpost
    simp [enrolledOps] at hlength

end Doubted

end SessionSpeakerState

end Sastt
