import Sastt.Application.Fusion
import Sastt.Application.SessionMethods

/-!
# What fusion does to a session

Fusion reads the speakers of a session and may add to them – an anonymous
speaker for a cluster it meets, the sink for words nobody claims – but
changes none (`Grows`). So the speakers are the same for every word of a
run: who an id stands for does not depend on when it is asked, and all
unattributed words go to one speaker (`FallsTo`).

`fuse_spec` says where a published segment comes from: it has the provenance
of the group of its utterance, and its speaker is the one the words of the
group were claimed for (`Claimed`).
-/

namespace Sastt

open Method

variable {R V : Type} [Field R] [LinearOrder R] [IsStrictOrderedRing R]

namespace SessionSpeakerState

variable {st st' st'' : SessionSpeakerState R V} {id : String} {s : SessionSpeaker R V}

/-! ## Growing -/

/-- **The records there were are unchanged**, and what was added is not
provisional. -/
structure Grows (st st' : SessionSpeakerState R V) : Prop where
  records : ∀ id s, st.speakers id = some s → st'.speakers id = some s
  order : ∃ more, st'.order = st.order ++ more
    ∧ ∀ id ∈ more, ∃ s, st'.speakers id = some s ∧ s.state ≠ .provisional
  /-- The sink stays once it is chosen. -/
  sink : ∀ id, st.unattributedId = some id → st'.unattributedId = some id

theorem Grows.refl (st : SessionSpeakerState R V) : Grows st st where
  records _ _ h := h
  order := ⟨[], (List.append_nil _).symm, by simp⟩
  sink _ h := h

theorem Grows.trans (h : Grows st st') (h' : Grows st' st'') : Grows st st'' where
  records id s hs := h'.records id s (h.records id s hs)
  order := by
    obtain ⟨more, ho, hmore⟩ := h.order
    obtain ⟨more', ho', hmore'⟩ := h'.order
    refine ⟨more ++ more', by rw [ho', ho, List.append_assoc], fun id hid => ?_⟩
    rcases List.mem_append.mp hid with hid | hid
    · obtain ⟨s, hs, hstate⟩ := hmore id hid
      exact ⟨s, h'.records id s hs, hstate⟩
    · exact hmore' id hid
  sink id hid := h'.sink id (h.sink id hid)

/-- What fusion keeps of a well-formed state. -/
def KeepsGrowing (st st' : SessionSpeakerState R V) : Prop :=
  st.WellFormed → st'.WellFormed ∧ Quiet st st' ∧ Grows st st'

instance : Std.Refl (KeepsGrowing (R := R) (V := V)) where
  refl st h := ⟨h, Quiet.refl st, Grows.refl st⟩

instance : IsTrans (SessionSpeakerState R V) KeepsGrowing where
  trans _ _ _ h h' hst :=
    have ⟨hst', hq, hg⟩ := h hst
    have ⟨hst'', hq', hg'⟩ := h' hst'
    ⟨hst'', hq.trans hq', hg.trans hg'⟩

/-- **Nobody becomes provisional while the speakers grow.** -/
theorem provisionalSpeakers_of_grows (h : st.WellFormed) (hg : Grows st st') :
    st'.provisionalSpeakers = st.provisionalSpeakers := by
  obtain ⟨more, ho, hmore⟩ := hg.order
  have hold : st.order.filterMap st'.speakers = st.order.filterMap st.speakers := by
    refine List.filterMap_congr (fun id hid => ?_)
    obtain ⟨s, hs⟩ := Option.isSome_iff_exists.mp ((h.mem_order id).mp hid)
    rw [hs, hg.records id s hs]
  have hnew : ((more.filterMap st'.speakers).filter (fun s => s.mergedInto.isNone)).filter
      (fun s => s.state == .provisional) = [] := by
    rw [List.filter_eq_nil_iff]
    intro s hs
    obtain ⟨id, hid, hsid⟩ := List.mem_filterMap.mp (List.mem_of_mem_filter hs)
    obtain ⟨s', hs', hstate⟩ := hmore id hid
    rw [hsid] at hs'
    cases hs'
    simpa using hstate
  unfold provisionalSpeakers active registered
  rw [ho, List.filterMap_append, List.filter_append, List.filter_append, hold, hnew,
    List.append_nil]

/-! ## The methods fusion calls -/

section Frames

/-- Labels and counters are no records. -/
theorem keepsGrowing_counters (st : SessionSpeakerState R V) (label : ℕ) :
    KeepsGrowing st { st with labelCounter := label } := fun h =>
  have ⟨h', hq⟩ := keeps_counters st st.pendingLabelChanges st.temporaryCounter label h
  ⟨h', hq, fun _ _ hs => hs, ⟨[], (List.append_nil _).symm, by simp⟩, fun _ hid => hid⟩

theorem grows_insertSpeaker (hfresh : st.speakers s.sessionSpeakerId = none)
    (hstate : s.state ≠ .provisional) : Grows st (st.insertSpeaker s) := by
  refine ⟨fun id t ht => speakers_insertSpeaker hfresh ht, ⟨[s.sessionSpeakerId], rfl,
    fun id hid => ?_⟩, fun _ hid => hid⟩
  rw [List.mem_singleton.mp hid]
  exact ⟨s, Function.update_self _ _ _, hstate⟩

theorem within_register_growing (hm : s.mergedInto = none) (hc : s.cannotLink = ∅)
    (hp : s.prototype = none) (hstate : s.state ≠ .provisional) :
    Within KeepsGrowing (register s) :=
  within_register_of (fun _ hfresh h =>
    have hkeeps := h.insertSpeaker (Option.not_isSome_iff_eq_none.mpr hfresh) hm hc hp
    ⟨hkeeps.1, hkeeps.2, grows_insertSpeaker hfresh hstate⟩)

theorem within_createSessionSpeaker_growing (ulid : String) (clusterId label : Option String) :
    Within KeepsGrowing (createSessionSpeaker (R := R) (V := V) ulid clusterId label) :=
  within_createSessionSpeaker_of label (fun st => keepsGrowing_counters st (st.labelCounter + 1))
    (fun _ => within_register_growing rfl rfl rfl (fun h => nomatch h))

theorem within_ensureClusterSpeaker_growing (ulid clusterId : String) :
    Within KeepsGrowing (ensureClusterSpeaker (R := R) (V := V) ulid clusterId) :=
  within_ensureClusterSpeaker_of (within_createSessionSpeaker_growing _ _ _)

/-- **The speaker returned is the sink.** -/
theorem unattributedSpeaker_eq_ok (h : st.WellFormed) {ulid : String}
    (hok : unattributedSpeaker ulid st = (.ok s, st')) :
    st'.unattributedId = some s.sessionSpeakerId := by
  rcases hu : st.unattributedId with _ | id
  · rcases unattributedSpeaker_new hu ulid with ⟨-, e, he⟩ | ⟨-, he⟩
    · rw [he] at hok
      cases hok
    · rw [he] at hok
      cases hok
      rfl
  · rw [unattributedSpeaker_again hu] at hok
    cases hs : st.speakers id with
    | some sink =>
      rw [hs] at hok
      cases hok
      rw [(h.speaker id s hs).keyed, hu]
    | none =>
      rw [hs] at hok
      cases hok

theorem within_unattributedSpeaker_growing (ulid : String) :
    Within KeepsGrowing (unattributedSpeaker (R := R) (V := V) ulid) := by
  refine within_unattributedSpeaker_of ulid (fun st hsink hfresh h => ?_)
  have hkeeps := keeps_sinkSpeaker hfresh h
  have hg := grows_insertSpeaker (s := sinkSpeaker ulid) hfresh nofun
  exact ⟨hkeeps.1, hkeeps.2, hg.records, hg.order, fun id hid => nomatch hsink.symm.trans hid⟩

end Frames

/-! ## Who words go to -/

/-- **Where unattributed words go**: to the first provisional speaker, and
to the sink if nobody is provisional. -/
def FallsTo (st : SessionSpeakerState R V) (id : String) : Prop :=
  match st.provisionalSpeakers.head? with
  | some speaker => id = speaker.sessionSpeakerId
  | none => st.unattributedId = some id

theorem FallsTo.of_grows (h : st.WellFormed) (hg : Grows st st') (hf : st.FallsTo id) :
    st'.FallsTo id := by
  unfold FallsTo at hf ⊢
  rw [provisionalSpeakers_of_grows h hg]
  cases hp : st.provisionalSpeakers.head? with
  | some speaker =>
    rw [hp] at hf
    exact hf
  | none =>
    rw [hp] at hf
    exact hg.sink id hf

/-- **The speaker the words of a group are claimed for**: one that exists,
and for an overlap group the one its source was linked to, or else the one
unattributed words go to. -/
def Claimed (st : SessionSpeakerState R V) (group : WordGroup R) (speakerId : String) : Prop :=
  ∃ id, st.Registered id ∧ speakerId = st.rootOf id
    ∧ (group.isOverlap = true → group.sessionSpeakerId = some id
      ∨ (group.sessionSpeakerId = none ∧ st.FallsTo id))

theorem Claimed.of_growing {group : WordGroup R} (h : st.WellFormed) (hk : KeepsGrowing st st')
    (hc : st.Claimed group id) : st'.Claimed group id := by
  obtain ⟨h', hq, hg⟩ := hk h
  obtain ⟨k, hreg, hroot, hgroup⟩ := hc
  refine ⟨k, hq.registered k hreg, ?_, fun ho => ?_⟩
  · rw [hroot, hq.rootOf h h']
  · exact (hgroup ho).imp_right (fun hf => ⟨hf.1, hf.2.of_grows h hg⟩)

end SessionSpeakerState

open SessionSpeakerState

/-! ## Frames of fusion -/

/-- What fusion keeps of a session at work. -/
structure Session.Fuses (s s' : Session R V) : Prop where
  drawn : s.drawn ≤ s'.drawn
  speakers : KeepsGrowing s.speakers s'.speakers

namespace FusionEngine

instance : Std.Refl (Session.Fuses (R := R) (V := V)) where
  refl _ := ⟨le_refl _, Std.Refl.refl _⟩

instance : IsTrans (Session R V) Session.Fuses where
  trans _ _ _ h h' := ⟨h.drawn.trans h'.drawn, IsTrans.trans _ _ _ h.speakers h'.speakers⟩

theorem within_newUlid (ulids : ℕ → String) :
    Within Session.Fuses (Session.newUlid (R := R) (V := V) ulids) :=
  fun _ => ⟨Nat.le_succ _, Std.Refl.refl _⟩

theorem within_onSpeakers {α : Type} {m : Method PyError (SessionSpeakerState R V) α}
    (hm : Within KeepsGrowing m) : Within Session.Fuses (Session.onSpeakers m) :=
  within_zoom hm (fun _ _ h => ⟨le_refl _, h⟩)

/-- **A frame of fusion**: what the steps of fusion that write to the session
stay inside. -/
structure Frame (ulids : ℕ → String) (F : Session R V → Session R V → Prop) : Prop where
  newUlid : Within F (Session.newUlid ulids)
  ensureClusterSpeaker : ∀ ulid cluster,
    Within F (Session.onSpeakers (SessionSpeakerState.ensureClusterSpeaker ulid cluster))
  unattributedSpeaker : ∀ ulid,
    Within F (Session.onSpeakers (SessionSpeakerState.unattributedSpeaker ulid))

section Frame

variable {F : Session R V → Session R V → Prop} [Std.Refl F] [IsTrans (Session R V) F]
  {ulids : ℕ → String} (hF : Frame ulids F) (engine : FusionEngine R) (group : WordGroup R)
  (turns : List (SpeakerTurn R))

include hF

theorem Frame.attributeWord (word : Word R) (previous : Option String) :
    Within F (FusionEngine.attributeWord ulids word turns previous) := by
  refine within_bind within_read (fun s => ?_)
  split
  · exact within_pure _
  · exact within_bind hF.newUlid (fun _ => within_bind
      (hF.ensureClusterSpeaker _ _) (fun _ => within_pure _))

theorem Frame.fallbackSpeakerId : Within F (FusionEngine.fallbackSpeakerId ulids) := by
  refine within_bind within_read (fun s => ?_)
  split
  · exact within_pure _
  · exact within_bind hF.newUlid (fun _ => within_bind
      (hF.unattributedSpeaker _) (fun _ => within_pure _))

/-- **The steps of fusion that write to the session** stay inside. -/
structure Steps (ulids : ℕ → String) (F : Session R V → Session R V → Prop) : Prop where
  newUlid : Within F (Session.newUlid ulids)
  attributeWord : ∀ word turns previous,
    Within F (FusionEngine.attributeWord ulids word turns previous)
  fallbackSpeakerId : Within F (FusionEngine.fallbackSpeakerId ulids)

theorem Frame.steps : Steps ulids F where
  newUlid := hF.newUlid
  attributeWord word turns previous := hF.attributeWord turns word previous
  fallbackSpeakerId := hF.fallbackSpeakerId

end Frame

section Steps

variable {F : Session R V → Session R V → Prop} [Std.Refl F] [IsTrans (Session R V) F]
  {ulids : ℕ → String} (hF : Steps ulids F) (engine : FusionEngine R) (group : WordGroup R)
  (turns : List (SpeakerTurn R))

include hF

theorem Steps.wordSpeaker (word : Word R) (previous : Option String) :
    Within F (FusionEngine.wordSpeaker ulids group turns word previous) := by
  refine within_bind ?_ (fun claimed => ?_)
  · unfold claimant
    split
    · exact within_pure _
    · exact hF.attributeWord word turns previous
  · split
    · exact within_pure _
    · exact hF.fallbackSpeakerId

theorem Steps.coalesceWords (words : List (Word R)) (previous : Option String)
    (current : Option (Utterance R)) :
    Within F (engine.coalesceWords ulids group turns previous current words) := by
  induction words generalizing previous current with
  | nil => exact within_pure _
  | cons word words ih =>
    refine within_bind (hF.wordSpeaker group turns word previous) (fun _ => within_bind within_read
      (fun _ => within_bind (within_ofExcept _) (fun _ => ?_)))
    split
    · exact ih _ _
    · exact within_bind (ih _ _) (fun _ => within_pure _)

theorem Steps.coalesce (groups : List (WordGroup R)) :
    Within F (engine.coalesce ulids groups turns) :=
  within_bind (within_mapEach (fun _ _ => hF.coalesceWords engine _ turns _ _ _))
    (fun _ => within_pure _)

theorem Steps.segmentOf (isFinal : Bool) (revision : ℕ) (supersedes : Option String)
    (u : Utterance R) : Within F (engine.segmentOf ulids isFinal revision supersedes u) :=
  within_bind within_read (fun _ => within_bind (within_ofExcept _) (fun _ =>
    within_bind hF.newUlid (fun _ => within_ofExcept _)))

theorem Steps.fuse (groups : List (WordGroup R)) (isFinal : Bool) (revision : ℕ)
    (supersedes : Option String) :
    Within F (engine.fuse ulids groups turns isFinal revision supersedes) :=
  within_bind (hF.coalesce engine turns groups) (fun _ => within_bind
    (within_mapEach (fun u _ => hF.segmentOf engine isFinal revision supersedes u)) (fun _ =>
      within_bind (within_ofExcept _) (fun _ => within_pure _)))

end Steps

/-- Fusion draws ids and lets the speakers grow. -/
theorem frame_fuses (ulids : ℕ → String) : Frame (R := R) (V := V) ulids Session.Fuses where
  newUlid := within_newUlid ulids
  ensureClusterSpeaker _ _ := within_onSpeakers (within_ensureClusterSpeaker_growing _ _)
  unattributedSpeaker _ := within_onSpeakers (within_unattributedSpeaker_growing _)

variable (engine : FusionEngine R) (ulids : ℕ → String) (group : WordGroup R)
  (turns : List (SpeakerTurn R))

/-- **Fusion lets the speakers grow only**, whether it returns or raises. -/
theorem within_fuse (groups : List (WordGroup R)) (isFinal : Bool) (revision : ℕ)
    (supersedes : Option String) :
    Within Session.Fuses
      (engine.fuse (V := V) ulids groups turns isFinal revision supersedes) :=
  (frame_fuses ulids).steps.fuse engine turns groups isFinal revision supersedes

/-! ## Where a segment comes from -/

variable {engine ulids group turns} {s s' : Session R V}

/-- A method of the speakers returns what it returns on them. -/
theorem onSpeakers_eq_ok {α : Type} {m : Method PyError (SessionSpeakerState R V) α} {a : α}
    (h : Session.onSpeakers m s = (.ok a, s')) :
    m s.speakers = (.ok a, s'.speakers) :=
  Prod.ext (congrArg (fun r => r.1) h) (congrArg (fun r => r.2.speakers) h)

/-- Unattributed words go where they fall. -/
theorem fallbackSpeakerId_eq_ok {id : String} (h : s.speakers.WellFormed)
    (hok : fallbackSpeakerId ulids s = (.ok id, s')) : s'.speakers.FallsTo id := by
  have hg := (((frame_fuses ulids).fallbackSpeakerId s).speakers h).2.2
  rw [hok] at hg
  unfold FallsTo
  rw [provisionalSpeakers_of_grows h hg]
  unfold fallbackSpeakerId at hok
  rw [read_bind] at hok
  cases hp : s.speakers.provisionalSpeakers.head? with
  | some speaker =>
    rw [hp] at hok
    cases hok
    rfl
  | none =>
    rw [hp] at hok
    obtain ⟨ulid, s₁, hulid, hok⟩ := bind_eq_ok.mp hok
    cases hulid
    obtain ⟨speaker, s₂, hsink, hok⟩ := bind_eq_ok.mp hok
    cases hok
    have hst := onSpeakers_eq_ok hsink
    exact unattributedSpeaker_eq_ok h hst

/-- Who a word of an overlap group goes to. -/
theorem wordSpeaker_eq_ok {word : Word R} {previous : Option String} {id : String}
    (h : s.speakers.WellFormed) (hok : wordSpeaker ulids group turns word previous s = (.ok id, s'))
    (ho : group.isOverlap = true) : group.sessionSpeakerId = some id
      ∨ (group.sessionSpeakerId = none ∧ s'.speakers.FallsTo id) := by
  obtain ⟨claimed, s₁, hclaim, hok⟩ := bind_eq_ok.mp hok
  have hpure : claimant (V := V) ulids group turns word previous = pure group.sessionSpeakerId := by
    unfold claimant
    rw [ho]
    rfl
  rw [hpure] at hclaim
  cases hclaim
  cases hg : group.sessionSpeakerId with
  | some k =>
    rw [hg] at hok
    cases hok
    exact Or.inl rfl
  | none =>
    rw [hg] at hok
    exact Or.inr ⟨rfl, fallbackSpeakerId_eq_ok h hok⟩

/-- The speaker a word goes to is one it is claimed for. -/
theorem claimed_of_wordSpeaker {word : Word R} {previous : Option String} {id : String}
    {speaker : SessionSpeaker R V} (h : s.speakers.WellFormed)
    (hok : wordSpeaker ulids group turns word previous s = (.ok id, s'))
    (hget : s'.speakers.get id = .ok speaker) :
    s'.speakers.Claimed group speaker.sessionSpeakerId := by
  have h' := (((frame_fuses ulids).steps.wordSpeaker group turns word previous s).speakers h).1
  rw [hok] at h'
  obtain ⟨hreg, -, hroot, -⟩ := h'.get_eq_ok hget
  exact ⟨id, hreg, hroot, wordSpeaker_eq_ok h hok⟩

/-- The utterances of a group have its provenance, and the speakers it is
claimed for. -/
theorem coalesceWords_eq_ok {words : List (Word R)} {previous : Option String}
    {current : Option (Utterance R)} {us : List (Utterance R)} (h : s.speakers.WellFormed)
    (hcurrent : ∀ u ∈ current, u.group = group ∧ s.speakers.Claimed group u.speakerId)
    (hok : engine.coalesceWords ulids group turns previous current words s = (.ok us, s')) :
    ∀ u ∈ us, u.group = group ∧ s'.speakers.Claimed group u.speakerId := by
  induction words generalizing s previous current us with
  | nil =>
    cases hok
    exact fun u hu => hcurrent u (Option.mem_toList.mp hu)
  | cons word words ih =>
    obtain ⟨id, s₁, hword, hok⟩ := bind_eq_ok.mp hok
    have hfuses := (frame_fuses ulids).steps.wordSpeaker group turns word previous s
    rw [hword] at hfuses
    have h₁ := (hfuses.speakers h).1
    rw [read_bind] at hok
    obtain ⟨speaker, s₂, hget, hok⟩ := bind_eq_ok.mp hok
    obtain ⟨hspeaker, rfl⟩ := ofExcept_eq_ok.mp hget
    have hclaim := claimed_of_wordSpeaker h hword hspeaker
    have hcurrent₁ : ∀ u ∈ current, u.group = group ∧ s₁.speakers.Claimed group u.speakerId :=
      fun u hu => ⟨(hcurrent u hu).1, (hcurrent u hu).2.of_growing h hfuses.speakers⟩
    cases hf : current.filter
        (fun u => u.continues speaker.sessionSpeakerId word engine.maxPauseMs) with
    | some u =>
      simp only [hf] at hok
      refine ih h₁ (fun u' hu' => ?_) hok
      cases hu'
      exact hcurrent₁ u (Option.filter_eq_some_iff.mp hf).1
    | none =>
      simp only [hf] at hok
      obtain ⟨rest, s₃, hrest, hok⟩ := bind_eq_ok.mp hok
      have hafter := (frame_fuses ulids).steps.coalesceWords engine group turns words
        (some speaker.sessionSpeakerId)
        (some (Utterance.single speaker.sessionSpeakerId word group)) s₁
      rw [hrest] at hafter
      cases hok
      intro u hu
      rcases List.mem_append.mp hu with hu | hu
      · have hold := hcurrent₁ u (Option.mem_toList.mp hu)
        exact ⟨hold.1, hold.2.of_growing h₁ hafter.speakers⟩
      · refine ih h₁ (fun u' hu' => ?_) hrest u hu
        cases hu'
        exact ⟨rfl, hclaim⟩

/-- The utterances of all groups, each with the group it came from. -/
theorem coalesce_eq_ok {groups : List (WordGroup R)} {us : List (Utterance R)}
    (h : s.speakers.WellFormed) (hok : engine.coalesce ulids groups turns s = (.ok us, s')) :
    ∀ u ∈ us, u.group ∈ groups ∧ s'.speakers.Claimed u.group u.speakerId := by
  obtain ⟨uss, s₁, hall, hok⟩ := bind_eq_ok.mp hok
  cases hok
  have hforall : List.Forall₂ (fun group us => ∀ u ∈ us, u.group = group
      ∧ s'.speakers.Claimed group u.speakerId) groups uss := by
    refine forall₂_of_mapEach (R := Session.Fuses) (P := fun s => s.speakers.WellFormed)
      (Q := fun group us s => ∀ u ∈ us, u.group = group ∧ s.speakers.Claimed group u.speakerId)
      (fun _ _ => (frame_fuses ulids).steps.coalesceWords engine _ turns _ _ _)
      (fun _ _ hf hw => (hf.speakers hw).1) ?_ ?_ h hall
    · intro _ _ _ _ hf hw hq u hu
      exact ⟨(hq u hu).1, (hq u hu).2.of_growing hw hf.speakers⟩
    · intro _ _ _ _ _ hw hone
      exact coalesceWords_eq_ok hw (by simp) hone
  intro u hu
  obtain ⟨us, hus, hu⟩ := List.mem_flatten.mp hu
  obtain ⟨group, hgroup, hq⟩ := exists_of_forall₂ hforall hus
  obtain ⟨rfl, hclaim⟩ := hq u hu
  exact ⟨hgroup, hclaim⟩

/-- What a published segment takes from its utterance: the provenance of its
group, and its speaker. -/
structure Published (st : SessionSpeakerState R V) (u : Utterance R) (seg : TranscriptSegment R) :
    Prop where
  track : seg.sourceTrack = u.group.sourceTrack
  registered : st.Registered seg.sessionSpeakerId
  speaker : seg.sessionSpeakerId = st.rootOf u.speakerId

theorem segmentOf_eq_ok {isFinal : Bool} {revision : ℕ} {supersedes : Option String}
    {u : Utterance R} {seg : TranscriptSegment R} (h : s.speakers.WellFormed)
    (hok : engine.segmentOf ulids isFinal revision supersedes u s = (.ok seg, s')) :
    Published s'.speakers u seg := by
  unfold segmentOf at hok
  rw [read_bind] at hok
  obtain ⟨speaker, s₁, hget, hok⟩ := bind_eq_ok.mp hok
  obtain ⟨hfound, rfl⟩ := ofExcept_eq_ok.mp hget
  obtain ⟨ulid, s₂, hulid, hok⟩ := bind_eq_ok.mp hok
  cases hulid
  obtain ⟨hnew, rfl⟩ := ofExcept_eq_ok.mp hok
  have hfields := TranscriptSegment.new_eq_ok hnew
  have hid : seg.sessionSpeakerId = speaker.sessionSpeakerId := by rw [hfields]
  obtain ⟨-, hspeaker, hroot, -⟩ := h.get_eq_ok hfound
  refine ⟨by rw [hfields], ?_, hid.trans hroot⟩
  rw [hid, hroot]
  exact Option.isSome_iff_exists.mpr ⟨speaker, hspeaker⟩

theorem Published.of_growing {st st' : SessionSpeakerState R V} {u : Utterance R}
    {seg : TranscriptSegment R} (h : st.WellFormed) (hk : KeepsGrowing st st')
    (hp : Published st u seg) : Published st' u seg := by
  obtain ⟨h', hq, -⟩ := hk h
  exact ⟨hp.track, hq.registered _ hp.registered, by rw [hq.rootOf h h', hp.speaker]⟩

/-- The speaker of an utterance is a root already. -/
theorem Published.claimed {st : SessionSpeakerState R V} {u : Utterance R}
    {seg : TranscriptSegment R} (h : st.WellFormed) (hp : Published st u seg)
    (hc : st.Claimed u.group u.speakerId) : st.Claimed u.group seg.sessionSpeakerId := by
  obtain ⟨k, hreg, hk, hgroup⟩ := hc
  refine ⟨k, hreg, ?_, hgroup⟩
  rw [hp.speaker, hk]
  exact h.rootOf_rootOf k

/-- **The two loops of fusion**: the words are coalesced, and a segment is
published for each utterance. -/
theorem fuse_eq_ok {groups : List (WordGroup R)} {isFinal : Bool} {revision : ℕ}
    {supersedes : Option String} {segments : List (TranscriptSegment R)}
    (h : s.speakers.WellFormed)
    (hok : engine.fuse ulids groups turns isFinal revision supersedes s = (.ok segments, s')) :
    ∃ us s₁, engine.coalesce ulids groups turns s = (.ok us, s₁) ∧ s₁.speakers.WellFormed
      ∧ mapEach us (engine.segmentOf ulids isFinal revision supersedes) s₁ = (.ok segments, s')
      ∧ Session.Fuses s₁ s'
      ∧ List.Forall₂ (fun u seg => Published s'.speakers u seg) us segments := by
  obtain ⟨us, s₁, hus, hok⟩ := bind_eq_ok.mp hok
  obtain ⟨segs, s₂, hsegs, hok⟩ := bind_eq_ok.mp hok
  obtain ⟨_, s₃, hassert, hok⟩ := bind_eq_ok.mp hok
  obtain ⟨-, rfl⟩ := ofExcept_eq_ok.mp hassert
  cases hok
  have hfuses := (frame_fuses ulids).steps.coalesce engine turns groups s
  rw [hus] at hfuses
  have h₁ := (hfuses.speakers h).1
  have hafter : Session.Fuses s₁ s' := by
    have := within_mapEach (R := Session.Fuses) (fun u (_ : u ∈ us) =>
      (frame_fuses ulids).steps.segmentOf engine isFinal revision supersedes u) s₁
    rwa [hsegs] at this
  refine ⟨us, s₁, hus, h₁, hsegs, hafter, ?_⟩
  refine forall₂_of_mapEach (R := Session.Fuses) (P := fun s => s.speakers.WellFormed)
    (Q := fun u seg s => Published s.speakers u seg)
    (fun _ _ => (frame_fuses ulids).steps.segmentOf engine isFinal revision supersedes _)
    (fun _ _ hf hw => (hf.speakers hw).1) ?_ ?_ h₁ hsegs
  · intro _ _ _ _ hf hw hp
    exact hp.of_growing hw hf.speakers
  · intro _ _ _ _ _ hw hone
    exact segmentOf_eq_ok hw hone

/-- **Where published segments come from**: there is an utterance for each,
of one of the groups, with the provenance of the group and the speaker it is
claimed for. -/
theorem fuse_spec {groups : List (WordGroup R)} {isFinal : Bool} {revision : ℕ}
    {supersedes : Option String} {segments : List (TranscriptSegment R)}
    (h : s.speakers.WellFormed)
    (hok : engine.fuse ulids groups turns isFinal revision supersedes s = (.ok segments, s')) :
    ∃ us s₁, engine.coalesce ulids groups turns s = (.ok us, s₁)
      ∧ List.Forall₂ (fun u seg => u.group ∈ groups ∧ seg.sourceTrack = u.group.sourceTrack
        ∧ s'.speakers.Registered seg.sessionSpeakerId
        ∧ s'.speakers.Claimed u.group seg.sessionSpeakerId) us segments := by
  obtain ⟨us, s₁, hus, h₁, -, hafter, hpublished⟩ := fuse_eq_ok h hok
  have h' := (hafter.speakers h₁).1
  refine ⟨us, s₁, hus, ((List.forall₂_and_left _ _).mpr ⟨fun u hu => hu, hpublished⟩).imp ?_⟩
  rintro u seg ⟨hu, hp⟩
  obtain ⟨hgroup, hclaim⟩ := coalesce_eq_ok h hus u hu
  exact ⟨hgroup, hp.track, hp.registered, hp.claimed h' (hclaim.of_growing h₁ hafter.speakers)⟩

end FusionEngine

end Sastt
