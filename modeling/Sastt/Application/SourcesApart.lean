import Sastt.Application.AbandonedSeparation
import Sastt.Application.FinalSpeakers
import Sastt.Application.FusedWords
import Sastt.Application.WindowSources

/-!
# Two sources of one window are published as two people

When a region is done, the sources of each of its windows that are somebody are different people
(`windowSources_separateAndLink`). Until their words are published two things can bring them
together. A merge may unite two of them: the marks that were set between them are looked up
under the ids they had then, so it may be let through. And fusion gives the words of a source
that is nobody to the first provisional speaker, who may be another source of the window, or be
given the words of a second source that is nobody. There is nothing else
(`sourcesApart_iff`): with no provisional speaker left they go to the sink, which is allowed.
-/

namespace Sastt

open Method

section

variable {R V S : Type} [Field R] [LinearOrder R] [IsStrictOrderedRing R] [AddCommGroup V]
  [Module R V] [EmbeddingSpace R V]

namespace SessionSpeakerState

variable {st st' : SessionSpeakerState R V} {ids : List String}

/-! ## Until fusion -/

/-- **The call unites two of the speakers.** -/
def Unites (ids : List String) (st : SessionSpeakerState R V) : Op R V → Prop
  | .merge a b _ => st.MergeSucceeds a b
      ∧ ∃ x ∈ ids, ∃ y ∈ ids, st.get x = st.get a ∧ st.get y = st.get b
  | _ => False

omit [AddCommGroup V] [Module R V] [EmbeddingSpace R V] in
/-- Two ids that are registered stand for one speaker exactly if they have one root. -/
theorem WellFormed.get_eq_iff (h : st.WellFormed) {a b : String} (ha : st.Registered a)
    (hb : st.Registered b) : st.get a = st.get b ↔ st.rootOf a = st.rootOf b := by
  obtain ⟨A, hgeta, hA, hida, -⟩ := h.get_of_registered ha
  obtain ⟨B, hgetb, hB, hidb, -⟩ := h.get_of_registered hb
  rw [hgeta, hgetb]
  constructor
  · intro heq
    cases heq
    rw [← hida, hidb]
  · intro heq
    rw [heq, hB] at hA
    rw [Option.some.inj hA]

omit [Field R] [LinearOrder R] [IsStrictOrderedRing R] [AddCommGroup V] [Module R V]
  [EmbeddingSpace R V] in
/-- Moving one value to another keeps a list apart exactly if it does not have both. -/
theorem nodup_map_link {f : String → String} {a b : String} (hne : a ≠ b)
    (h : (ids.map f).Nodup) : (ids.map (fun k => if f k = a then b else f k)).Nodup
      ↔ ¬ ∃ x ∈ ids, ∃ y ∈ ids, f x = a ∧ f y = b := by
  have hinj := List.inj_on_of_nodup_map h
  constructor
  · rintro hlinked ⟨x, hx, y, hy, hxa, hyb⟩
    have hxy : x = y := List.inj_on_of_nodup_map hlinked hx hy (by simp [hxa, hyb])
    exact hne (hxa.symm.trans (hxy ▸ hyb))
  · intro hnot
    refine List.Nodup.map_on (fun x hx y hy hxy => hinj hx hy ?_) (h.of_map f)
    by_cases hxa : f x = a <;> by_cases hya : f y = a
    · rw [hxa, hya]
    · rw [if_pos hxa, if_neg hya] at hxy
      exact absurd ⟨x, hx, y, hy, hxa, hxy.symm⟩ hnot
    · rw [if_neg hxa, if_pos hya] at hxy
      exact absurd ⟨y, hy, x, hx, hya, hxy⟩ hnot
    · rwa [if_neg hxa, if_neg hya] at hxy

/-- **What a call does to whom ids stand for**: nothing, or a merge unites two speakers. -/
theorem WellFormed.rootOf_step_cases (h : st.WellFormed) (op : Op R V) :
    (st.step op).rootOf = st.rootOf ∧ (∀ a b reason, op = .merge a b reason →
        ¬ st.MergeSucceeds a b)
      ∨ ∃ a b reason, op = .merge a b reason ∧ st.MergeSucceeds a b
        ∧ st.rootOf a ≠ st.rootOf b
        ∧ ∀ k, (st.step op).rootOf k = if st.rootOf k = st.rootOf a then st.rootOf b
          else st.rootOf k := by
  have h' := (step_cases h op).1
  generalize hst' : st.step op = st' at h'
  have heffect := (step_cases h op).2.2
  rw [hst'] at heffect
  cases heffect with
  | quiet op hq _ hmerge => exact Or.inl ⟨hq.rootOf h h', hmerge⟩
  | marked a b _ hp => exact Or.inl ⟨rootOf_congr h.ends h'.ends hp, nofun⟩
  | merged a b reason hs hp =>
    have hne : st.rootOf a ≠ st.rootOf b := by
      obtain ⟨A, B, ha, hb, hallow⟩ := hs
      rw [← (h.get_eq_ok ha).2.2.1, ← (h.get_eq_ok hb).2.2.1]
      exact hallow.1
    exact Or.inr ⟨a, b, reason, rfl, hs, hne,
      rootOf_of_linked h.ends h'.ends (h.parentOf_rootOf a) (h.parentOf_rootOf b) hne hp⟩

/-- **A call keeps speakers apart unless it unites two of them.** -/
theorem StandApart.step_iff (h : st.WellFormed) (hapart : st.StandApart ids) (op : Op R V) :
    (st.step op).StandApart ids ↔ ¬ Unites ids st op := by
  have hregistered : ∀ id ∈ ids, (st.step op).Registered id := fun id hid =>
    (step_cases h op).2.1.registered id (hapart.registered id hid)
  rcases h.rootOf_step_cases op with ⟨hroot, hmerge⟩ | ⟨a, b, reason, rfl, hs, hne, hroot⟩
  · refine iff_of_true ⟨hregistered, by rw [hroot]; exact hapart.apart⟩ ?_
    cases op with
    | merge a b reason => exact fun hunites => hmerge a b reason rfl hunites.1
    | _ => exact id
  · have hlink := nodup_map_link hne hapart.apart
    have hregistered' : st.Registered a ∧ st.Registered b := by
      obtain ⟨A, B, ha, hb, -⟩ := hs
      exact ⟨(h.get_eq_ok ha).1, (h.get_eq_ok hb).1⟩
    have hunites : Unites ids st (.merge a b reason)
        ↔ ∃ x ∈ ids, ∃ y ∈ ids, st.rootOf x = st.rootOf a ∧ st.rootOf y = st.rootOf b := by
      refine (and_iff_right hs).trans (exists_congr (fun x => and_congr_right (fun hx =>
        exists_congr (fun y => and_congr_right (fun hy => and_congr ?_ ?_)))))
      · exact h.get_eq_iff (hapart.registered x hx) hregistered'.1
      · exact h.get_eq_iff (hapart.registered y hy) hregistered'.2
    rw [hunites, ← hlink, ← funext hroot]
    exact ⟨fun h => h.apart, fun h => ⟨hregistered, h⟩⟩

/-- Whom a call found united stay united. -/
theorem StandApart.of_step (h : st.WellFormed) (hregistered : ∀ id ∈ ids, st.Registered id)
    (op : Op R V) (hapart : (st.step op).StandApart ids) : st.StandApart ids := by
  refine ⟨hregistered, ?_⟩
  rcases h.rootOf_step_cases op with ⟨hroot, -⟩ | ⟨a, b, -, -, -, -, hroot⟩
  · rw [← hroot]
    exact hapart.apart
  · have hlinked := hapart.apart
    rw [funext hroot] at hlinked
    refine List.Nodup.of_map (fun r => if r = st.rootOf a then st.rootOf b else r) ?_
    rwa [List.map_map]

/-- **Speakers are still apart at the end of a run exactly if no step united two of them.** -/
theorem StandApart.run_iff (h : st.WellFormed) (hapart : st.StandApart ids) (ops : List (Op R V)) :
    (st.run ops).StandApart ids ↔ EachStep step (fun st op => ¬ Unites ids st op) st ops :=
  foldl_iff_eachStep
    (I := fun st : SessionSpeakerState R V => st.WellFormed ∧ ∀ id ∈ ids, st.Registered id)
    (P := fun st => st.StandApart ids) ⟨h, hapart.registered⟩ hapart
    (fun _ op hI => ⟨(step_cases hI.1 op).1, fun id hid =>
      (step_cases hI.1 op).2.1.registered id (hI.2 id hid)⟩)
    (fun _ op hI hP => hP.step_iff hI.1 op) (fun _ op hI hP => hP.of_step hI.1 hI.2 op)

/-- Nobody is sunk by a run in which nobody asks for the sink. -/
theorem sink_run (hsink : st.unattributedId = none) {ops : List (Op R V)}
    (hops : ∀ op ∈ ops, ∀ ulid, op ≠ .unattributedSpeaker ulid) :
    (st.run ops).unattributedId = none := by
  induction ops generalizing st with
  | nil => exact hsink
  | cons op ops ih =>
    exact ih ((sameSink_step st op (hops op List.mem_cons_self)).trans hsink)
      (fun op' hop' => hops op' (List.mem_cons_of_mem op hop'))

/-! ## The sink of fusion -/

/-- Nobody leaves, and a sink that is chosen is new. -/
structure SinkNew (st st' : SessionSpeakerState R V) : Prop where
  registered : ∀ id, st.Registered id → st'.Registered id
  sink : ∀ id, st'.unattributedId = some id → st.unattributedId = some id ∨ ¬ st.Registered id

instance : Std.Refl (SinkNew (R := R) (V := V)) := ⟨fun _ => ⟨fun _ h => h, fun _ h => Or.inl h⟩⟩

instance : IsTrans (SessionSpeakerState R V) SinkNew where
  trans _ _ _ h h' := by
    refine ⟨fun id hid => h'.registered id (h.registered id hid), fun id hid => ?_⟩
    rcases h'.sink id hid with hid | hnew
    · exact h.sink id hid
    · exact Or.inr (fun hold => hnew (h.registered id hold))

section

omit [AddCommGroup V] [Module R V] [EmbeddingSpace R V]

theorem rosterFrame_sinkNew : RosterFrame (SinkNew (R := R) (V := V)) where
  books st st' hs _ hsink := by
    refine ⟨fun id hid => ?_, fun id hid => Or.inl (hsink ▸ hid)⟩
    unfold Registered
    rwa [hs]
  write id f st := ⟨fun k hk => registered_assign k |>.mpr hk, fun _ hid => Or.inl hid⟩

theorem registered_insertSpeaker {id : String} (s : SessionSpeaker R V) (h : st.Registered id) :
    (st.insertSpeaker s).Registered id := by
  show Option.isSome (Function.update st.speakers s.sessionSpeakerId (some s) id) = true
  rw [Function.update_apply]
  split
  · rfl
  · exact h

theorem admits_sinkNew (ulid : String) : Admits (SinkNew (R := R) (V := V)) ulid := by
  intro s _ _ _ _
  refine within_bind within_read (fun st => ?_)
  split
  · exact within_throw _
  · exact within_modify (fun st => ⟨fun id hid => registered_insertSpeaker _ hid,
      fun _ hid => Or.inl hid⟩)

theorem within_unattributedSpeaker_sinkNew (ulid : String) :
    Within SinkNew (unattributedSpeaker (R := R) (V := V) ulid) := by
  refine within_unattributedSpeaker_of ulid (fun st _ hfresh =>
    ⟨fun id hid => registered_insertSpeaker _ hid, fun id hid => Or.inr ?_⟩)
  cases hid
  unfold Registered
  rw [hfresh]
  exact Bool.false_ne_true

end

end SessionSpeakerState

open SessionSpeakerState

/-! ## Fusion, group by group -/

namespace FusionEngine

variable {engine : FusionEngine R} {ulids : ℕ → String} {groups : List (WordGroup R)}
  {turns : List (SpeakerTurn R)} {isFinal : Bool} {revision : ℕ} {supersedes : Option String}
  {s t : Session R V}

/-- `fuse`, each segment with the word group it is of. -/
def fuseGroups (engine : FusionEngine R) (ulids : ℕ → String) (groups : List (WordGroup R))
    (turns : List (SpeakerTurn R)) (isFinal : Bool) (revision : ℕ)
    (supersedesEventId : Option String) :
    Method PyError (Session R V) (List (WordGroup R × TranscriptSegment R)) := do
  let utterances ← engine.coalesce ulids groups turns
  let segments ← .mapEach utterances (engine.segmentOf ulids isFinal revision supersedesEventId)
  .ofExcept (assertConcurrencyPreserved groups segments)
  return (utterances.map Utterance.group).zip segments

section

omit [AddCommGroup V] [Module R V] [EmbeddingSpace R V]

/-- A segment is published of each utterance. -/
theorem length_segments {us : List (Utterance R)} {segments : List (TranscriptSegment R)}
    (h : mapEach us (engine.segmentOf ulids isFinal revision supersedes) s = (.ok segments, t)) :
    us.length = segments.length :=
  (returns_mapEach (fun u _ => returns_segmentOf engine ulids isFinal revision supersedes u) _ _ _
    h).length_eq

/-- **Fusion publishes these segments.** -/
theorem fuse_eq_ok_iff {segments : List (TranscriptSegment R)} :
    engine.fuse ulids groups turns isFinal revision supersedes s = (.ok segments, t)
      ↔ ∃ published, engine.fuseGroups ulids groups turns isFinal revision supersedes s
          = (.ok published, t) ∧ published.map Prod.snd = segments := by
  constructor
  · intro h
    obtain ⟨us, s₁, hus, h⟩ := bind_eq_ok.mp h
    obtain ⟨segs, s₂, hsegs, h⟩ := bind_eq_ok.mp h
    obtain ⟨_, s₃, hassert, h⟩ := bind_eq_ok.mp h
    cases h
    refine ⟨(us.map Utterance.group).zip segments, ?_, List.map_snd_zip ?_⟩
    · unfold fuseGroups
      rw [bind_of_ok hus, bind_of_ok hsegs, bind_of_ok hassert]
      rfl
    · rw [List.length_map, length_segments hsegs]
  · rintro ⟨published, h, rfl⟩
    obtain ⟨us, s₁, hus, h⟩ := bind_eq_ok.mp h
    obtain ⟨segs, s₂, hsegs, h⟩ := bind_eq_ok.mp h
    obtain ⟨_, s₃, hassert, h⟩ := bind_eq_ok.mp h
    cases h
    unfold fuse
    rw [bind_of_ok hus, bind_of_ok hsegs, bind_of_ok hassert, List.map_snd_zip]
    · rfl
    · rw [List.length_map, length_segments hsegs]

/-- Every group that has words has an utterance. -/
theorem exists_utterance {us : List (Utterance R)} {g : WordGroup R}
    (hok : engine.coalesce ulids groups turns s = (.ok us, t)) (hg : g ∈ groups)
    (hwords : g.words ≠ []) : ∃ u ∈ us, u.group = g := by
  obtain ⟨uss, s₁, huss, hok⟩ := bind_eq_ok.mp hok
  cases hok
  obtain ⟨attributed, -, hgroups, hall⟩ := coalesceGroups_eq huss
  rw [← hgroups] at hg
  obtain ⟨a, ha, rfl⟩ := List.mem_map.mp hg
  obtain ⟨us, hus, hone⟩ := exists_of_forall₂ hall.flip ha
  have hspoken : us ≠ [] := by
    rintro rfl
    have hnone : a.words = [] := by
      rw [← (Runs.isCut_of (breaks engine.maxPauseMs) a.words).flatten, ← hone.spoken]
      rfl
    have hperm := List.perm_insertionSort Word.le a.group.words
    rw [← hone.words, hnone] at hperm
    exact hwords (List.Perm.nil_eq hperm).symm
  obtain ⟨u, hu⟩ := List.exists_mem_of_ne_nil us hspoken
  exact ⟨u, List.mem_flatten.mpr ⟨us, hus, hu⟩, hone.group u hu⟩

/-- **What is published of a group** has its track and the speaker it is claimed for, and
something is published of every group that has words. -/
theorem fuseGroups_spec (h : s.speakers.WellFormed)
    {published : List (WordGroup R × TranscriptSegment R)}
    (hok : engine.fuseGroups ulids groups turns isFinal revision supersedes s
      = (.ok published, t)) :
    (∀ x ∈ published, x.2.sourceTrack = x.1.sourceTrack
      ∧ t.speakers.Claimed x.1 x.2.sessionSpeakerId)
    ∧ ∀ g ∈ groups, g.words ≠ [] → ∃ seg, (g, seg) ∈ published := by
  obtain ⟨us, s₁, hus, hpublished⟩ := fuse_spec h (fuse_eq_ok_iff.mpr ⟨published, hok, rfl⟩)
  unfold fuseGroups at hok
  rw [bind_of_ok hus] at hok
  obtain ⟨segments, s₂, hsegments, hok⟩ := bind_eq_ok.mp hok
  obtain ⟨_, s₃, hassert, hok⟩ := bind_eq_ok.mp hok
  cases hok
  have hlength : (us.map Utterance.group).length = segments.length :=
    (List.length_map _).trans (length_segments hsegments)
  rw [List.map_snd_zip hlength.ge] at hpublished
  have hall : List.Forall₂ (fun g seg => seg.sourceTrack = g.sourceTrack
      ∧ t.speakers.Claimed g seg.sessionSpeakerId) (us.map Utterance.group) segments :=
    List.forall₂_map_left_iff.mpr (hpublished.imp (fun _ _ hone => ⟨hone.2.1, hone.2.2.2⟩))
  refine ⟨fun x hx => (List.forall₂_iff_zip.mp hall).2 hx, fun g hg hwords => ?_⟩
  obtain ⟨u, hu, rfl⟩ := exists_utterance hus hg hwords
  have hmem := List.mem_map_of_mem (f := Utterance.group) hu
  rw [← List.map_fst_zip hlength.le] at hmem
  obtain ⟨x, hx, hgroup⟩ := List.mem_map.mp hmem
  exact ⟨x.2, hgroup ▸ hx⟩

/-- What is published is of a group. -/
theorem mem_groups_of_fuseGroups (h : s.speakers.WellFormed)
    {published : List (WordGroup R × TranscriptSegment R)}
    (hok : engine.fuseGroups ulids groups turns isFinal revision supersedes s
      = (.ok published, t)) {x : WordGroup R × TranscriptSegment R} (hx : x ∈ published) :
    x.1 ∈ groups := by
  obtain ⟨us, s₁, hus, hok⟩ := bind_eq_ok.mp hok
  obtain ⟨segments, s₂, -, hok⟩ := bind_eq_ok.mp hok
  obtain ⟨_, s₃, -, hok⟩ := bind_eq_ok.mp hok
  cases hok
  obtain ⟨u, hu, hgroup⟩ := List.mem_map.mp (List.of_mem_zip hx).1
  exact hgroup ▸ (coalesce_eq_ok h hus u hu).1

end

/-- The speakers after a sink that is new. -/
def SpeakersSinkNew : Session R V → Session R V → Prop := InvImage SinkNew Session.speakers

instance : Std.Refl (SpeakersSinkNew (R := R) (V := V)) :=
  inferInstanceAs (Std.Refl (InvImage SinkNew Session.speakers))

instance : IsTrans (Session R V) SpeakersSinkNew where
  trans s t u h h' := IsTrans.trans (r := SinkNew) s.speakers t.speakers u.speakers h h'

omit [AddCommGroup V] [Module R V] [EmbeddingSpace R V] in
theorem frame_sinkNew (ulids : ℕ → String) : Frame (R := R) (V := V) ulids SpeakersSinkNew where
  newUlid s := Std.Refl.refl (r := SinkNew) s.speakers
  ensureClusterSpeaker ulid cluster := within_zoom
    (rosterFrame_sinkNew.toBookFrame.ensureClusterSpeaker (admits_sinkNew ulid) cluster)
    (fun _ _ h => h)
  unattributedSpeaker ulid := within_zoom (within_unattributedSpeaker_sinkNew ulid)
    (fun _ _ h => h)

omit [AddCommGroup V] [Module R V] [EmbeddingSpace R V] in
/-- **The sink fusion chooses is nobody there was.** -/
theorem sink_of_fuseGroups {published : List (WordGroup R × TranscriptSegment R)}
    (hok : engine.fuseGroups ulids groups turns isFinal revision supersedes s
      = (.ok published, t)) (hsink : s.speakers.unattributedId = none) {id : String}
    (hid : t.speakers.unattributedId = some id) : ¬ s.speakers.Registered id := by
  have hnew := ((frame_sinkNew ulids).steps.fuse engine turns groups isFinal revision
    supersedes).rel (fuse_eq_ok_iff.mpr ⟨published, hok, rfl⟩)
  rcases hnew.sink id hid with hold | hnew
  · rw [hsink] at hold
    cases hold
  · exact hnew

end FusionEngine

/-! ## The sources of a window -/

/-- **No two sources of the window are published as one person**, but the sink. -/
def SourcesApart (window : List (WordGroup R))
    (published : List (WordGroup R × TranscriptSegment R)) (sink : Option String) : Prop :=
  ∀ x ∈ published, ∀ y ∈ published, x.1 ∈ window → y.1 ∈ window →
    x.2.sourceTrack ≠ y.2.sourceTrack → x.2.sessionSpeakerId = y.2.sessionSpeakerId →
      sink = some x.2.sessionSpeakerId

/-- **Unattributed words fall to nobody else of the window**: if somebody is provisional, every
other source was found to be somebody, and not the first of them. -/
def FallsAlone (st : SessionSpeakerState R V) (window : List (WordGroup R)) : Prop :=
  ∀ f ∈ st.provisionalSpeakers.head?, ∀ g ∈ window, ∀ g' ∈ window,
    g.sourceTrack ≠ g'.sourceTrack → g.sessionSpeakerId = none →
      ∃ id, g'.sessionSpeakerId = some id ∧ st.Different id f.sessionSpeakerId

section Window

variable {engine : FusionEngine R} {ulids : ℕ → String} {groups window : List (WordGroup R)}
  {turns : List (SpeakerTurn R)} {isFinal : Bool} {revision : ℕ} {supersedes : Option String}
  {s t : Session R V} {published : List (WordGroup R × TranscriptSegment R)}

section

omit [AddCommGroup V] [Module R V] [EmbeddingSpace R V]

/-- Two groups of a window name different people. -/
theorem SessionSpeakerState.StandApart.rootOf_ne {st : SessionSpeakerState R V}
    (h : st.StandApart (window.filterMap (fun g => g.sessionSpeakerId))) {g g' : WordGroup R}
    (hg : g ∈ window) (hg' : g' ∈ window) (hne : g ≠ g') {id id' : String}
    (hid : g.sessionSpeakerId = some id) (hid' : g'.sessionSpeakerId = some id') :
    st.rootOf id ≠ st.rootOf id' := by
  let Apart (g g' : WordGroup R) : Prop := ∀ id, g.sessionSpeakerId = some id →
    ∀ id', g'.sessionSpeakerId = some id' → st.rootOf id ≠ st.rootOf id'
  have hsymm : Std.Symm Apart := ⟨fun g g' h id hid id' hid' heq => h id' hid' id hid heq.symm⟩
  have hpairwise : window.Pairwise Apart :=
    List.pairwise_filterMap.mp (List.pairwise_map.mp h.apart)
  exact hpairwise.forall hg hg' hne id hid id' hid'

/-- The first provisional speaker stands for itself. -/
theorem SessionSpeakerState.WellFormed.rootOf_provisional {st : SessionSpeakerState R V}
    (h : st.WellFormed) {f : SessionSpeaker R V} (hf : f ∈ st.provisionalSpeakers.head?) :
    st.Registered f.sessionSpeakerId ∧ st.rootOf f.sessionSpeakerId = f.sessionSpeakerId := by
  obtain ⟨hrecord, hm⟩ := h.mem_active.mp (List.mem_of_mem_filter (List.mem_of_mem_head? hf))
  exact ⟨Option.isSome_iff_exists.mpr ⟨f, hrecord⟩,
    h.rootOf_of_parent_none ((parentOf_of_speaker hrecord).trans hm)⟩

end

variable (h : s.speakers.WellFormed)
  (hok : engine.fuseGroups ulids groups turns isFinal revision supersedes s = (.ok published, t))
  {x y : WordGroup R × TranscriptSegment R} (hx : x ∈ published) (hy : y ∈ published)
  (hxo : x.1.isOverlap = true) (hyo : y.1.isOverlap = true)

include h hok hx hxo

omit [AddCommGroup V] [Module R V] [EmbeddingSpace R V] in
/-- The words of a source that is somebody are published under whom that stands for. -/
theorem published_of_somebody {id : String} (hid : x.1.sessionSpeakerId = some id) :
    x.2.sessionSpeakerId = s.speakers.rootOf id := by
  obtain ⟨ht, hquiet, -⟩ := ((FusionEngine.within_fuse engine ulids turns groups isFinal revision
    supersedes).rel (FusionEngine.fuse_eq_ok_iff.mpr ⟨published, hok, rfl⟩)).speakers h
  obtain ⟨k, -, hroot, hgroup⟩ := ((FusionEngine.fuseGroups_spec h hok).1 x hx).2
  rw [hroot, hquiet.rootOf h ht]
  rcases hgroup hxo with hk | ⟨hnone, -⟩
  · rw [Option.some.inj (hid.symm.trans hk)]
  · rw [hid] at hnone
    cases hnone

omit [AddCommGroup V] [Module R V] [EmbeddingSpace R V] in
/-- **The words of a source that is nobody** are published under the first provisional speaker, or
under the sink. -/
theorem published_of_nobody (hsink : s.speakers.unattributedId = none)
    (hid : x.1.sessionSpeakerId = none) :
    (∀ f ∈ s.speakers.provisionalSpeakers.head?, x.2.sessionSpeakerId = f.sessionSpeakerId)
      ∧ (s.speakers.provisionalSpeakers.head? = none →
        t.speakers.unattributedId = some x.2.sessionSpeakerId) := by
  obtain ⟨ht, hquiet, hgrows⟩ := ((FusionEngine.within_fuse engine ulids turns groups isFinal
    revision supersedes).rel (FusionEngine.fuse_eq_ok_iff.mpr ⟨published, hok, rfl⟩)).speakers h
  obtain ⟨k, -, hroot, hgroup⟩ := ((FusionEngine.fuseGroups_spec h hok).1 x hx).2
  rw [hquiet.rootOf h ht] at hroot
  obtain hk | ⟨-, hfalls⟩ := hgroup hxo
  · rw [hid] at hk
    cases hk
  · unfold FallsTo at hfalls
    rw [provisionalSpeakers_of_grows h hgrows] at hfalls
    constructor
    · intro f hf
      rw [hf] at hfalls
      rw [hroot, hfalls, (h.rootOf_provisional hf).2]
    · intro hnone
      rw [hnone] at hfalls
      rw [hroot, rootOf_of_not_registered (FusionEngine.sink_of_fuseGroups hok hsink hfalls)]
      exact hfalls

include hy hyo

omit [AddCommGroup V] [Module R V] [EmbeddingSpace R V] in
/-- **Words that fall to nobody else of the window** are published under nobody else, but the
sink. -/
theorem sink_of_fallsAlone (hsink : s.speakers.unattributedId = none)
    (hfalls : FallsAlone s.speakers window) (hxw : x.1 ∈ window) (hyw : y.1 ∈ window)
    (htrack : x.1.sourceTrack ≠ y.1.sourceTrack) (hnone : x.1.sessionSpeakerId = none)
    (hsame : x.2.sessionSpeakerId = y.2.sessionSpeakerId) :
    t.speakers.unattributedId = some x.2.sessionSpeakerId := by
  obtain ⟨hprovisional, hsunk⟩ := published_of_nobody h hok hx hxo hsink hnone
  cases hfirst : s.speakers.provisionalSpeakers.head? with
  | none => exact hsunk hfirst
  | some f =>
    obtain ⟨id, hid, hdifferent⟩ := hfalls f hfirst x.1 hxw y.1 hyw htrack hnone
    refine absurd ?_ (h.different_iff.mp hdifferent).2.2
    rw [(h.rootOf_provisional hfirst).2, ← hprovisional f hfirst, hsame,
      published_of_somebody h hok hy hyo hid]

end Window

section Window

variable {engine : FusionEngine R} {ulids : ℕ → String} {groups window : List (WordGroup R)}
  {turns : List (SpeakerTurn R)} {isFinal : Bool} {revision : ℕ} {supersedes : Option String}
  {s t : Session R V} {published : List (WordGroup R × TranscriptSegment R)}

omit [AddCommGroup V] [Module R V] [EmbeddingSpace R V] in
/-- **When fusion keeps the sources of a window apart.** -/
theorem sourcesApart_fuse_iff (h : s.speakers.WellFormed)
    (hsink : s.speakers.unattributedId = none)
    (hregistered : ∀ id ∈ window.filterMap (fun g => g.sessionSpeakerId), s.speakers.Registered id)
    (htracks : (window.map (fun g => g.sourceTrack)).Nodup)
    (hspoken : ∀ g ∈ window, g.isOverlap = true ∧ g.words ≠ []) (hwindow : window ⊆ groups)
    (hok : engine.fuseGroups ulids groups turns isFinal revision supersedes s
      = (.ok published, t)) :
    SourcesApart window published t.speakers.unattributedId
      ↔ s.speakers.StandApart (window.filterMap (fun g => g.sessionSpeakerId))
        ∧ FallsAlone s.speakers window := by
  obtain ⟨hclaims, hcovers⟩ := FusionEngine.fuseGroups_spec h hok
  have hsomebody : ∀ {x}, x ∈ published → x.1 ∈ window → ∀ id, x.1.sessionSpeakerId = some id →
      x.2.sessionSpeakerId = s.speakers.rootOf id := fun hx hxw _ hid =>
    published_of_somebody h hok hx (hspoken _ hxw).1 hid
  constructor
  · intro hapart
    -- the sink is nobody there was, so it is no excuse for anybody who was
    have hmeet : ∀ {g g' seg seg'}, (g, seg) ∈ published → (g', seg') ∈ published → g ∈ window →
        g' ∈ window → g.sourceTrack ≠ g'.sourceTrack →
        s.speakers.Registered seg.sessionSpeakerId →
        seg.sessionSpeakerId ≠ seg'.sessionSpeakerId := by
      intro g g' seg seg' hseg hseg' hg hg' htrack hregistered hsame
      refine FusionEngine.sink_of_fuseGroups hok hsink (hapart _ hseg _ hseg' hg hg' ?_ hsame)
        hregistered
      rwa [(hclaims _ hseg).1, (hclaims _ hseg').1]
    have hpublished : ∀ g ∈ window, ∃ seg, (g, seg) ∈ published := fun g hg =>
      hcovers g (hwindow hg) (hspoken g hg).2
    have hnamed : ∀ g ∈ window, ∀ id, g.sessionSpeakerId = some id → s.speakers.Registered id :=
      fun g hg id hid => hregistered id (List.mem_filterMap.mpr ⟨g, hg, hid⟩)
    refine ⟨⟨hregistered, List.pairwise_map.mpr (List.pairwise_filterMap.mpr ?_)⟩, ?_⟩
    · refine (List.pairwise_map.mp htracks).imp_of_mem
        (fun {g g'} hg hg' htrack id hid id' hid' hroot => ?_)
      obtain ⟨seg, hseg⟩ := hpublished g hg
      obtain ⟨seg', hseg'⟩ := hpublished g' hg'
      have hroot₁ := hsomebody hseg hg id hid
      have hroot₂ := hsomebody hseg' hg' id' hid'
      refine hmeet hseg hseg' hg hg' htrack ?_ (hroot₁.trans (hroot.trans hroot₂.symm))
      obtain ⟨r, -, hr, -⟩ := h.get_of_registered (hnamed g hg id hid)
      exact hroot₁ ▸ Option.isSome_iff_exists.mpr ⟨r, hr⟩
    · intro f hf g hg g' hg' htrack hnone
      obtain ⟨hfregistered, hfroot⟩ := h.rootOf_provisional hf
      obtain ⟨seg, hseg⟩ := hpublished g hg
      obtain ⟨seg', hseg'⟩ := hpublished g' hg'
      have hnobody : ∀ {x}, x ∈ published → x.1 ∈ window → x.1.sessionSpeakerId = none →
          x.2.sessionSpeakerId = f.sessionSpeakerId := fun hx hxw hnone =>
        (published_of_nobody h hok hx (hspoken _ hxw).1 hsink hnone).1 f hf
      have hfalls := hnobody hseg hg hnone
      have hne := hmeet hseg hseg' hg hg' htrack (hfalls ▸ hfregistered)
      cases hid : g'.sessionSpeakerId with
      | none => exact absurd (hfalls.trans (hnobody hseg' hg' hid).symm) hne
      | some id =>
        refine ⟨id, rfl, h.different_iff.mpr ⟨hnamed g' hg' id hid, hfregistered, fun hroot => ?_⟩⟩
        exact hne (hfalls.trans
          (hfroot.symm.trans (hroot.symm.trans (hsomebody hseg' hg' id hid).symm)))
  · rintro ⟨hstand, hfalls⟩ x hx y hy hxw hyw htrack hsame
    rw [(hclaims x hx).1, (hclaims y hy).1] at htrack
    have hxo := (hspoken x.1 hxw).1
    have hyo := (hspoken y.1 hyw).1
    cases hxid : x.1.sessionSpeakerId with
    | none =>
      exact sink_of_fallsAlone h hok hx hy hxo hyo hsink hfalls hxw hyw htrack hxid hsame
    | some id =>
      cases hyid : y.1.sessionSpeakerId with
      | none =>
        exact hsame ▸ sink_of_fallsAlone h hok hy hx hyo hxo hsink hfalls hyw hxw htrack.symm hyid
          hsame.symm
      | some id' =>
        rw [hsomebody hx hxw id hxid, hsomebody hy hyw id' hyid] at hsame
        exact absurd hsame (hstand.rootOf_ne hxw hyw (fun heq => htrack (by rw [heq])) hxid hyid)

end Window

/-! ## A window, from its separation to its publication -/

/-- The speakers have the sink they had. -/
def SpeakersSameSink : Session R V → Session R V → Prop := InvImage SameSink Session.speakers

instance : Std.Refl (SpeakersSameSink (R := R) (V := V)) :=
  inferInstanceAs (Std.Refl (InvImage SameSink Session.speakers))

instance : IsTrans (Session R V) SpeakersSameSink where
  trans s t u h h' := IsTrans.trans (r := SameSink) s.speakers t.speakers u.speakers h h'

/-- **Handling a region asks nobody for the sink.** -/
theorem sourceFrame_sameSink (ulids : ℕ → String) :
    OfflinePipeline.SourceFrame (R := R) (V := V) ulids SpeakersSameSink where
  create := within_bind (fun s => Std.Refl.refl (r := SameSink) s.speakers) (fun ulid =>
    within_zoom (fun st => sameSink_step st (.createTemporarySpeaker ulid) nofun) (fun _ _ h => h))
  mark a b := within_zoom (fun st => sameSink_step st (.addCannotLink a b) nofun) (fun _ _ h => h)
  learn id e margin passed := within_zoom
    (fun st => sameSink_step st (.updatePrototype id e margin passed) nofun) (fun _ _ h => h)
  buffer id e := within_zoom
    (fun st => sameSink_step st (.bufferProvisionalEmbedding id e) nofun) (fun _ _ h => h)

namespace OfflinePipeline

/-- **What the pipeline does to the speakers between recognition and fusion** is a sequence of
calls that ask nobody for the sink. -/
theorem resolveSpeakers_run (p : OfflinePipeline R)
    (registry : Option (ℕ → SpeakerEmbedding R V → Except PyError (VoiceIdDecision R)))
    (st : SessionSpeakerState R V) :
    ∃ ops : List (Op R V), (∀ op ∈ ops, ∀ ulid, op ≠ .unattributedSpeaker ulid)
      ∧ (p.resolveSpeakers registry st).2 = st.run ops := by
  have hmoves := moves_resolveSpeakers (p := p) registry st
  generalize (p.resolveSpeakers registry st).2 = st' at hmoves
  induction hmoves with
  | refl => exact ⟨[], fun _ hop => (List.not_mem_nil hop).elim, rfl⟩
  | tail _ hop ih =>
    obtain ⟨ops, hops, rfl⟩ := ih
    obtain ⟨op, hulid, rfl⟩ := hop
    refine ⟨ops ++ [op], fun op' hop' ulid => ?_, by rw [run_append, run_singleton]⟩
    rcases List.mem_append.mp hop' with hop' | hop'
    · exact hops op' hop' ulid
    · rw [List.mem_singleton.mp hop']
      rintro rfl
      cases hulid

/-- What there is at fusion is well-formed. -/
theorem wellFormed_resolved (p : OfflinePipeline R) {adapters : PipelineAdapters R V S}
    {ulids : ℕ → String} {c : RegionContext R S} {padded : TimeInterval}
    {separator : SpeechSeparator R S} {s t : Session R V}
    {r : List (WordGroup R) × List String × Bool}
    (hregion : p.separateAndLink adapters ulids c padded separator s = (.ok r, t))
    (hs : s.speakers.WellFormed)
    (registry : Option (ℕ → SpeakerEmbedding R V → Except PyError (VoiceIdDecision R))) :
    (p.resolveSpeakers registry t.speakers).2.WellFormed := by
  obtain ⟨ops, -, hrun⟩ := resolveSpeakers_run p registry t.speakers
  rw [hrun]
  exact ((((sourceFrame_calls ulids).separateAndLink c padded separator).rel
    hregion).keeps hs).1.run ops

/-- **The sources of a window are published as different people** exactly if no call between
separation and fusion unites two of them, and fusion leaves what is said by nobody to nobody else
of the window. -/
theorem sourcesApart_iff (p : OfflinePipeline R) (hone : OneToOne p.linearSumAssignment)
    (adapters : PipelineAdapters R V S) (ulids : ℕ → String) (c : RegionContext R S)
    (padded : TimeInterval) (separator : SpeechSeparator R S) {s t u : Session R V}
    (hs : s.speakers.Reachable) (hsink : s.speakers.unattributedId = none)
    {r : List (WordGroup R) × List String × Bool}
    (hregion : p.separateAndLink adapters ulids c padded separator s = (.ok r, t))
    (slice : TimeInterval) (ops : List (Op R V))
    (hops : ∀ op ∈ ops, ∀ ulid, op ≠ .unattributedSpeaker ulid) (drawn : ℕ)
    (engine : FusionEngine R) (before after : List (WordGroup R)) (turns : List (SpeakerTurn R))
    (isFinal : Bool) (revision : ℕ) (supersedes : Option String)
    {published : List (WordGroup R × TranscriptSegment R)}
    (hfuse : engine.fuseGroups ulids (before ++ r.1 ++ after) turns isFinal revision supersedes
      ⟨t.speakers.run ops, drawn⟩ = (.ok published, u)) :
    SourcesApart (sliceGroups r.1 slice) published u.speakers.unattributedId
      ↔ EachStep step (fun st op => ¬ Unites
          ((sliceGroups r.1 slice).filterMap (fun g => g.sessionSpeakerId)) st op) t.speakers ops
        ∧ FallsAlone (t.speakers.run ops) (sliceGroups r.1 slice) := by
  have hwindow := windowSources_separateAndLink hone hs.wellFormed hregion slice
  have ht := ((((sourceFrame_calls ulids).separateAndLink c padded separator).rel
    hregion).keeps hs.wellFormed).1
  have hsame : SameSink s.speakers t.speakers :=
    ((sourceFrame_sameSink ulids).separateAndLink c padded separator).rel hregion
  have htsink : t.speakers.unattributedId = none := Eq.trans hsame hsink
  have hsub : sliceGroups r.1 slice ⊆ before ++ r.1 ++ after := fun g hg =>
    List.mem_append_left after (List.mem_append_right before (List.mem_of_mem_filter hg))
  have hregistered : ∀ id ∈ (sliceGroups r.1 slice).filterMap (fun g => g.sessionSpeakerId),
      (t.speakers.run ops).Registered id := fun id hid =>
    (Extends.run ht ops).registered id (hwindow.apart.registered id hid)
  rw [sourcesApart_fuse_iff (ht.run ops) (sink_run htsink hops) hregistered hwindow.tracks
    hwindow.spoken hsub hfuse, hwindow.apart.run_iff ht ops]

end OfflinePipeline

end

/-! ### Two voices -/

namespace OfflinePipeline

/-- Somebody is heard in both sources of the region, for that long in each. -/
def twoVoices (firstMs secondMs : ℕ) : PipelineAdapters ℚ ℚ Unit :=
  { secondSilent firstMs with
    vad := fun _ buffer => .ok [buffer.interval]
    embed := fun _ _ _ _ _ sourceTrack => .ok ((lineVoice true).slice
      (if sourceTrack = some 0 then firstMs else secondMs) .separated sourceTrack) }

/-- The separator of the region. -/
def voiceSeparator : SpeechSeparator ℚ Unit := (twoVoices 0 0).separator.get rfl

/-- The engine of a session with the default configuration. -/
def fusing : FusionEngine ℚ := .new "session" {} {} none none

/-- What becomes of the region: its groups, what is published of them, and the sink. -/
def publishVoices (firstMs secondMs : ℕ) : Method PyError (Session ℚ ℚ)
    (List (WordGroup ℚ) × List (WordGroup ℚ × TranscriptSegment ℚ) × Option String) := do
  let r ← uncalibrated.separateAndLink (twoVoices firstMs secondMs) toString talkedOver
    talkedOver.region.interval voiceSeparator
  Session.onSpeakers (uncalibrated.resolveSpeakers none)
  let published ← fusing.fuseGroups toString r.1 [] true 1 none
  let s ← .read
  return (r.1, published, s.speakers.unattributedId)

/-- What is done with it, step by step. -/
theorem publishVoices_eq_ok {firstMs secondMs : ℕ} {s u : Session ℚ ℚ}
    {result : List (WordGroup ℚ) × List (WordGroup ℚ × TranscriptSegment ℚ) × Option String}
    (h : publishVoices firstMs secondMs s = (.ok result, u)) :
    ∃ r t drawn, uncalibrated.separateAndLink (twoVoices firstMs secondMs) toString talkedOver
        talkedOver.region.interval voiceSeparator s = (.ok r, t)
      ∧ fusing.fuseGroups toString r.1 [] true 1 none
        ⟨(uncalibrated.resolveSpeakers none t.speakers).2, drawn⟩ = (.ok result.2.1, u)
      ∧ result.1 = r.1 ∧ result.2.2 = u.speakers.unattributedId := by
  obtain ⟨r, t, hregion, h⟩ := bind_eq_ok.mp h
  obtain ⟨_, t', hresolved, h⟩ := bind_eq_ok.mp h
  obtain ⟨published, u', hfuse, h⟩ := bind_eq_ok.mp h
  rw [read_bind] at h
  cases h
  have hresolve := congrArg Prod.snd hresolved
  cases hresolve
  exact ⟨r, t, t.drawn, hregion, hfuse, rfl, rfl⟩

theorem silentSession_reachable : silentSession.speakers.Reachable :=
  ⟨"session", {}, "campplus", [], rfl⟩

/-- What is published of the region, and the sink. -/
def voicesPublished (firstMs secondMs : ℕ) :
    Option (List (TimeInterval × Option ℕ × String) × Option String) :=
  (publishVoices firstMs secondMs silentSession).1.toOption.map (fun result =>
    (result.2.1.map (fun x => (x.1.interval, x.2.sourceTrack, x.2.sessionSpeakerId)), result.2.2))

/-- Something is published when something is seen to be. -/
theorem exists_published {firstMs secondMs : ℕ}
    {rows : List (TimeInterval × Option ℕ × String)} {sink : Option String}
    (h : voicesPublished firstMs secondMs = some (rows, sink)) :
    ∃ r t drawn published u, uncalibrated.separateAndLink (twoVoices firstMs secondMs) toString
        talkedOver talkedOver.region.interval voiceSeparator silentSession = (.ok r, t)
      ∧ fusing.fuseGroups toString r.1 [] true 1 none
        ⟨(uncalibrated.resolveSpeakers none t.speakers).2, drawn⟩ = (.ok published, u)
      ∧ published.map (fun x => (x.1.interval, x.2.sourceTrack, x.2.sessionSpeakerId)) = rows
      ∧ u.speakers.unattributedId = sink := by
  obtain ⟨result, hresult, hrows⟩ := Option.map_eq_some_iff.mp h
  cases hrows
  cases hrun : publishVoices firstMs secondMs silentSession with
  | mk outcome u =>
    rw [hrun] at hresult
    cases outcome with
    | error e => cases hresult
    | ok outcome =>
      cases hresult
      obtain ⟨r, t, drawn, hregion, hfuse, -, hsink⟩ := publishVoices_eq_ok hrun
      exact ⟨r, t, drawn, _, u, hregion, hfuse, rfl, hsink.symm⟩

/-- **A second voice that was too short to be somebody** is published as the
first one. -/
theorem two_voices_one_speaker :
    ∃ r t drawn published u, uncalibrated.separateAndLink (twoVoices 3000 100) toString
        talkedOver talkedOver.region.interval voiceSeparator silentSession = (.ok r, t)
      ∧ fusing.fuseGroups toString r.1 [] true 1 none
        ⟨(uncalibrated.resolveSpeakers none t.speakers).2, drawn⟩ = (.ok published, u)
      ∧ ¬ SourcesApart (sliceGroups r.1 talkedOver.region.interval) published
        u.speakers.unattributedId := by
  have hseen : voicesPublished 3000 100
      = some ([(talkedOver.region.interval, some 0, "sess_spk_0"),
        (talkedOver.region.interval, some 1, "sess_spk_0")], none) := by
    decide +kernel
  obtain ⟨r, t, drawn, published, u, hregion, hfuse, hrows, hsink⟩ := exists_published hseen
  have hwf := wellFormed_resolved uncalibrated hregion silentSession_reachable.wellFormed none
  -- both are of the window, and it is one speaker
  have hrow : ∀ track, (talkedOver.region.interval, some track, "sess_spk_0")
      ∈ published.map (fun x => (x.1.interval, x.2.sourceTrack, x.2.sessionSpeakerId)) →
      ∃ x ∈ published, x.1 ∈ sliceGroups r.1 talkedOver.region.interval
        ∧ x.2.sourceTrack = some track ∧ x.2.sessionSpeakerId = "sess_spk_0" := by
    intro track hmem
    obtain ⟨x, hx, heq⟩ := List.mem_map.mp hmem
    obtain ⟨hinterval, htrack, hspeaker⟩ := by simpa only [Prod.mk.injEq] using heq
    have hgroup := FusionEngine.mem_groups_of_fuseGroups hwf hfuse hx
    exact ⟨x, hx, List.mem_filter.mpr ⟨hgroup, decide_eq_true hinterval⟩, htrack, hspeaker⟩
  obtain ⟨x, hx, hxw, hxtrack, hxspeaker⟩ := hrow 0 (hrows ▸ List.mem_cons_self)
  obtain ⟨y, hy, hyw, hytrack, hyspeaker⟩ := hrow 1
    (hrows ▸ List.mem_cons_of_mem _ List.mem_cons_self)
  refine ⟨r, t, drawn, published, u, hregion, hfuse, fun hapart => ?_⟩
  have hsunk := hapart x hx y hy hxw hyw (by rw [hxtrack, hytrack]; decide)
    (hxspeaker.trans hyspeaker.symm)
  rw [hsink] at hsunk
  cases hsunk

/-- Two voices that were long enough are two people. -/
theorem sourcesApart_two_voices :
    ∃ r t ops drawn published u, uncalibrated.separateAndLink (twoVoices 3000 3000) toString
        talkedOver talkedOver.region.interval voiceSeparator silentSession = (.ok r, t)
      ∧ fusing.fuseGroups toString r.1 [] true 1 none
        ⟨t.speakers.run ops, drawn⟩ = (.ok published, u)
      ∧ (SourcesApart (sliceGroups r.1 talkedOver.region.interval) published
          u.speakers.unattributedId
        ↔ EachStep SessionSpeakerState.step (fun st op => ¬ SessionSpeakerState.Unites
            ((sliceGroups r.1 talkedOver.region.interval).filterMap (fun g => g.sessionSpeakerId))
            st op) t.speakers ops
          ∧ FallsAlone (t.speakers.run ops) (sliceGroups r.1 talkedOver.region.interval)) := by
  have hseen : voicesPublished 3000 3000
      = some ([(talkedOver.region.interval, some 0, "sess_spk_0"),
        (talkedOver.region.interval, some 1, "sess_spk_1")], none) := by
    decide +kernel
  obtain ⟨r, t, drawn, published, u, hregion, hfuse, -, -⟩ := exists_published hseen
  obtain ⟨ops, hops, hrun⟩ := resolveSpeakers_run uncalibrated none t.speakers
  rw [hrun] at hfuse
  refine ⟨r, t, ops, drawn, published, u, hregion, hfuse, ?_⟩
  exact sourcesApart_iff uncalibrated firstColumns_oneToOne (twoVoices 3000 3000) toString
    talkedOver talkedOver.region.interval voiceSeparator silentSession_reachable rfl hregion
    talkedOver.region.interval ops hops drawn fusing [] [] [] true 1 none
    (by rwa [List.nil_append, List.append_nil])

end OfflinePipeline

end Sastt
