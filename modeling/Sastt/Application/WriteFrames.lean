import Sastt.Application.SpeakerRecords

/-!
# Frames of the writes of a session

The methods of the session state write to it in few ways: they keep books, write to the record
of a speaker what says nothing about its evidence (`SessionSpeaker.Aside`), register a speaker,
build its centroid, and merge two. A relation that holds over the first two
(`SessionSpeakerState.BookFrame`) holds over every call that neither learns nor merges, as far as
it holds over registering the speaker the call is for (`Admits`). If it holds over registering
whoever is new (`WriteFrame`), that is all of these calls (`WriteFrame.step`), and if it holds
over the building of a centroid as well (`LearnFrame`), all but the merges (`LearnFrame.step`).
A relation that does not look at the records at all (`RosterFrame`) holds over every call that
registers nobody (`RosterFrame.step`).

`Kin` is a frame of the third kind: the speakers there are stay registered in their order, each
with its cluster, and no centroid is another speaker's but one that its record had already.
`SameSink` is one of the last: only asking for the sink chooses it.
-/

namespace Sastt

open Method

variable {R V : Type} [Field R] [LinearOrder R] [IsStrictOrderedRing R] [AddCommGroup V]
  [Module R V] [EmbeddingSpace R V]

omit [Field R] [LinearOrder R] [IsStrictOrderedRing R] [AddCommGroup V] [Module R V]
  [EmbeddingSpace R V] in
/-- **A write aside**: it leaves alone whose the record is, what the speaker was learned from,
and where it forwards. -/
structure SessionSpeaker.Aside (f : SessionSpeaker R V → SessionSpeaker R V) : Prop where
  id : ∀ s, (f s).sessionSpeakerId = s.sessionSpeakerId
  cluster : ∀ s, (f s).clusterId = s.clusterId
  prototype : ∀ s, (f s).prototype = s.prototype
  history : ∀ s, (f s).prototypeHistory = s.prototypeHistory
  pointer : ∀ s, (f s).mergedInto = s.mergedInto

namespace SpeakerPrototype

variable {p p' : SpeakerPrototype R V} {key : String} {e : SpeakerEmbedding R V}

omit [IsStrictOrderedRing R] in
/-- The first centroid has the key it is built under, -/
theorem speakerKey_of_fromEmbedding (h : fromEmbedding key e = .ok p) : p.speakerKey = key := by
  obtain ⟨centroid, -, h⟩ := except_bind_eq_ok.mp h
  cases h
  rfl

omit [IsStrictOrderedRing R] in
/-- and an update keeps it. -/
theorem speakerKey_of_updatedWith (h : p.updatedWith e = .ok p') :
    p'.speakerKey = p.speakerKey := by
  unfold updatedWith at h
  split at h
  · cases h
  · obtain ⟨centroid, -, h⟩ := except_bind_eq_ok.mp h
    cases h
    rfl

end SpeakerPrototype

/-- The id a call would register a speaker under, if it may register one. -/
def Op.ulid : Op R V → Option String
  | .createSessionSpeaker ulid _ _ | .createTemporarySpeaker ulid | .ensureClusterSpeaker ulid _
  | .unattributedSpeaker ulid => some ulid
  | _ => none

/-- A call that speakers are learned in. -/
def Op.learns : Op R V → Bool
  | .updatePrototype _ _ _ _ | .bufferProvisionalEmbedding _ _ => true
  | _ => false

namespace SessionSpeakerState

/-- Registering somebody new under the id stays inside. -/
def Admits (F : SessionSpeakerState R V → SessionSpeakerState R V → Prop) (ulid : String) : Prop :=
  ∀ s : SessionSpeaker R V, s.sessionSpeakerId = "sess_spk_" ++ ulid → s.prototype = none →
    s.prototypeHistory = [] → s.mergedInto = none → Within F (register s)

/-- **A frame of the books**, and of the writes aside. -/
structure BookFrame (F : SessionSpeakerState R V → SessionSpeakerState R V → Prop) : Prop where
  books : ∀ st st', st'.speakers = st.speakers → st'.order = st.order →
    st'.unattributedId = st.unattributedId → F st st'
  aside : ∀ id f, SessionSpeaker.Aside f → Within F (updateSpeaker id f)

/-- **A frame of the writes**: a relation that each of them stays inside. -/
structure WriteFrame (F : SessionSpeakerState R V → SessionSpeakerState R V → Prop) : Prop where
  books : ∀ st st', st'.speakers = st.speakers → st'.order = st.order → F st st'
  aside : ∀ id f, SessionSpeaker.Aside f → Within F (updateSpeaker id f)
  register : ∀ s, s.prototype = none → s.prototypeHistory = [] → s.mergedInto = none →
    Within F (register s)

/-- A frame that speakers are learned in, besides. -/
structure LearnFrame (F : SessionSpeakerState R V → SessionSpeakerState R V → Prop) : Prop extends
    WriteFrame F where
  learn : ∀ id e, Within F (setPrototype id e)

/-- **A frame that does not look at the records.** -/
structure RosterFrame (F : SessionSpeakerState R V → SessionSpeakerState R V → Prop) : Prop where
  books : ∀ st st', st'.speakers = st.speakers → st'.order = st.order →
    st'.unattributedId = st.unattributedId → F st st'
  write : ∀ id f, Within F (updateSpeaker id f)

variable {F : SessionSpeakerState R V → SessionSpeakerState R V → Prop}

namespace BookFrame

variable [Std.Refl F] [IsTrans (SessionSpeakerState R V) F] {ulid : String}

section

omit [AddCommGroup V] [Module R V] [EmbeddingSpace R V]

theorem transition (h : BookFrame F) (id : String) (toState : IdentityState) (reason : String) :
    Within F (transition id toState reason) := by
  refine within_bind within_read (fun st => ?_)
  split
  · exact within_throw _
  · exact within_bind (within_ofExcept _) (fun _ => h.aside _ _
      ⟨fun _ => rfl, fun _ => rfl, fun _ => rfl, fun _ => rfl, fun _ => rfl⟩)

theorem relabel (h : BookFrame F) (speaker : SessionSpeaker R V) (newLabel reason : String) :
    Within F (relabel speaker newLabel reason) :=
  within_relabel_of (h.aside _ _
      ⟨fun _ => rfl, fun _ => rfl, fun _ => rfl, fun _ => rfl, fun _ => rfl⟩)
    (fun _ => within_modify (fun _ => h.books _ _ rfl rfl rfl))

theorem createSessionSpeaker (h : BookFrame F) (hu : Admits F ulid)
    (clusterId label : Option String) : Within F (createSessionSpeaker ulid clusterId label) :=
  within_createSessionSpeaker_of label (fun _ => h.books _ _ rfl rfl rfl)
    (fun _ => hu _ rfl rfl rfl rfl)

theorem createTemporarySpeaker (h : BookFrame F) (hu : Admits F ulid) :
    Within F (createTemporarySpeaker ulid) :=
  within_createTemporarySpeaker_of (fun _ => h.books _ _ rfl rfl rfl)
    (fun _ => hu _ rfl rfl rfl rfl)

/-- Asking for the sink stays inside, if choosing it does. -/
theorem unattributedSpeaker (hu : Admits F ulid)
    (hsink : ∀ st id, F st { st with unattributedId := some id }) :
    Within F (unattributedSpeaker ulid) := by
  refine within_bind within_read (fun st => ?_)
  split
  · split
    · exact within_pure _
    · exact within_throw _
  · exact within_bind (within_ofExcept _) (fun _ => within_bind (within_ofExcept _) (fun _ =>
      within_bind (hu _ rfl rfl rfl rfl) (fun _ =>
        within_bind (within_modify (fun _ => hsink _ _)) (fun _ => within_pure _))))

theorem ensureClusterSpeaker (h : BookFrame F) (hu : Admits F ulid) (clusterId : String) :
    Within F (ensureClusterSpeaker ulid clusterId) :=
  within_ensureClusterSpeaker_of (h.createSessionSpeaker hu _ _)

theorem addCannotLink (h : BookFrame F) (a b : String) : Within F (addCannotLink a b) :=
  within_addCannotLink_of (fun _ _ => h.aside _ _
    ⟨fun _ => rfl, fun _ => rfl, fun _ => rfl, fun _ => rfl, fun _ => rfl⟩) a b

theorem promoteProvisional (h : BookFrame F) (id reason : String) (label : Option String) :
    Within F (promoteProvisional id reason label) :=
  within_promoteProvisional_of (fun _ _ => h.transition _ _ _) (fun _ => h.books _ _ rfl rfl rfl)
    h.relabel id reason label

theorem applyVoiceId (h : BookFrame F) (id : String) (decision : VoiceIdDecision R) :
    Within F (applyVoiceId id decision) := by
  refine within_bind within_read (fun st => within_bind (within_ofExcept _) (fun speaker => ?_))
  split
  · split
    · exact within_throw _
    · refine within_bind ?_ (fun _ => within_bind (h.aside _ _
          ⟨fun _ => rfl, fun _ => rfl, fun _ => rfl, fun _ => rfl, fun _ => rfl⟩)
        (fun _ => within_bind (h.relabel _ _ _) (fun _ => within_pure _)))
      unfold acceptTransition
      split
      · exact h.transition _ _ _
      · split
        · exact h.transition _ _ _
        · exact within_pure _
  · split
    · exact within_bind (h.transition _ _ _) (fun _ => within_pure _)
    · exact within_pure _
  · exact within_pure _
  · exact within_pure _

theorem finalizeUnresolved (h : BookFrame F) : Within F finalizeUnresolved :=
  within_finalizeUnresolved_of (fun id => within_finalizeSpeaker_of (h.transition id _)
    (h.promoteProvisional id))

theorem drainLabelChanges (h : BookFrame F) : Within F drainLabelChanges :=
  within_drainLabelChanges_of (fun _ => h.books _ _ rfl rfl rfl)

end

/-- **Every call that neither merges nor learns stays inside**, as far as whom it may register
does. -/
theorem step (h : BookFrame F) (st : SessionSpeakerState R V) (op : Op R V)
    (hop : ∀ a b reason, op ≠ .merge a b reason) (hlearns : op.learns = false)
    (hu : ∀ ulid ∈ op.ulid, Admits F ulid)
    (hsink : ∀ ulid, op = .unattributedSpeaker ulid →
      ∀ st id, F st { st with unattributedId := some id }) : F st (st.step op) := by
  cases op with
  | createSessionSpeaker ulid clusterId label =>
    exact h.createSessionSpeaker (hu ulid rfl) clusterId label st
  | createTemporarySpeaker ulid => exact h.createTemporarySpeaker (hu ulid rfl) st
  | ensureClusterSpeaker ulid clusterId => exact h.ensureClusterSpeaker (hu ulid rfl) clusterId st
  | unattributedSpeaker ulid =>
    exact BookFrame.unattributedSpeaker (hu ulid rfl) (hsink ulid rfl) st
  | addCannotLink a b => exact h.addCannotLink a b st
  | merge a b reason => exact absurd rfl (hop a b reason)
  | promoteProvisional id reason label => exact h.promoteProvisional id reason label st
  | applyVoiceId id decision => exact h.applyVoiceId id decision st
  | updatePrototype id e margin passed => cases hlearns
  | bufferProvisionalEmbedding id e => cases hlearns
  | finalizeUnresolved => exact h.finalizeUnresolved st
  | drainLabelChanges => exact h.drainLabelChanges st

end BookFrame

omit [AddCommGroup V] [Module R V] [EmbeddingSpace R V] in
theorem WriteFrame.toBookFrame (h : WriteFrame F) : BookFrame F where
  books st st' hs ho _ := h.books st st' hs ho
  aside := h.aside

omit [AddCommGroup V] [Module R V] [EmbeddingSpace R V] in
theorem RosterFrame.toBookFrame (h : RosterFrame F) : BookFrame F where
  books := h.books
  aside id f _ := h.write id f

section Steps

variable [Std.Refl F] [IsTrans (SessionSpeakerState R V) F]

/-- Every call that neither merges nor learns stays inside. -/
theorem WriteFrame.step (h : WriteFrame F) (st : SessionSpeakerState R V) (op : Op R V)
    (hop : ∀ a b reason, op ≠ .merge a b reason) (hlearns : op.learns = false) :
    F st (st.step op) :=
  h.toBookFrame.step st op hop hlearns
    (fun _ _ s _ hprototype hhistory hroot => h.register s hprototype hhistory hroot)
    (fun _ _ _ _ => h.books _ _ rfl rfl)

/-- **Every call that does not merge stays inside.** -/
theorem LearnFrame.step (h : LearnFrame F) (st : SessionSpeakerState R V) (op : Op R V)
    (hop : ∀ a b reason, op ≠ .merge a b reason) : F st (st.step op) := by
  cases op with
  | updatePrototype id e margin passed => exact within_gatedUpdate_of (h.learn · e) st
  | bufferProvisionalEmbedding id e => exact within_gatedUpdate_of (h.learn · e) st
  | _ => exact h.toWriteFrame.step st _ hop rfl

namespace RosterFrame

omit [AddCommGroup V] [Module R V] [EmbeddingSpace R V] in
theorem merge (h : RosterFrame F) (a b reason : String) : Within F (merge a b reason) := by
  refine within_bind within_read (fun st => within_bind (within_ofExcept _) (fun source =>
    within_bind (within_ofExcept _) (fun target => within_bind (within_ofExcept _) (fun _ => ?_))))
  split
  · exact within_throw _
  · refine within_bind ?_ (fun _ => within_bind (h.write _ _) (fun _ =>
      within_bind (h.write _ _) (fun _ => within_bind (h.write _ _) (fun _ =>
        within_bind (h.write _ _) (fun _ =>
          within_bind (within_modify (fun _ => h.books _ _ rfl rfl rfl))
            (fun _ => within_pure _))))))
    exact within_mergeTransitions_of (fun _ _ => h.toBookFrame.transition _ _ _)

theorem setPrototype (h : RosterFrame F) (id : String) (e : SpeakerEmbedding R V) :
    Within F (setPrototype id e) :=
  within_setPrototype_of (fun _ => h.write _ _) (fun _ => h.write _ _) e

/-- **Every call stays inside**, as far as whom it may register does. -/
theorem step (h : RosterFrame F) (st : SessionSpeakerState R V) (op : Op R V)
    (hu : ∀ ulid ∈ op.ulid, Admits F ulid)
    (hsink : ∀ ulid, op = .unattributedSpeaker ulid →
      ∀ st id, F st { st with unattributedId := some id }) : F st (st.step op) := by
  cases op with
  | merge a b reason => exact h.merge a b reason st
  | updatePrototype id e margin passed => exact within_gatedUpdate_of (h.setPrototype · e) st
  | bufferProvisionalEmbedding id e => exact within_gatedUpdate_of (h.setPrototype · e) st
  | _ => exact h.toBookFrame.step st _ nofun rfl hu hsink

end RosterFrame

end Steps

/-! ## Kin -/

omit [Field R] [LinearOrder R] [IsStrictOrderedRing R] [AddCommGroup V] [Module R V]
  [EmbeddingSpace R V] in
/-- **A record of the same speaker**: it has the cluster it had, and a centroid that is the
speaker's own, or has the key that one had that was there. -/
structure Kindred (id : String) (s s' : SessionSpeaker R V) : Prop where
  cluster : s'.clusterId = s.clusterId
  key : ∀ p', s'.prototype = some p' →
    p'.speakerKey = id ∨ ∃ p, s.prototype = some p ∧ p'.speakerKey = p.speakerKey

/-- **The speakers there are stay**, in their order, and those that join them are new. -/
structure Kin (st st' : SessionSpeakerState R V) : Prop where
  order : st.order <+: st'.order
  kept : ∀ id s, st.speakers id = some s →
    ∃ s', st'.speakers id = some s' ∧ Kindred id s s'
  added : ∀ id s', st.speakers id = none → st'.speakers id = some s' →
    ∀ p, s'.prototype = some p → p.speakerKey = id

section Kin

variable {st st' st'' : SessionSpeakerState R V} {id : String} {s s' s'' : SessionSpeaker R V}

omit [AddCommGroup V] [Module R V] [EmbeddingSpace R V]

omit [Field R] [LinearOrder R] [IsStrictOrderedRing R] in
/-- A record with the cluster and the centroid it had. -/
theorem Kindred.of_eq (hcluster : s'.clusterId = s.clusterId)
    (hprototype : s'.prototype = s.prototype) : Kindred id s s' :=
  ⟨hcluster, fun p hp => Or.inr ⟨p, hprototype ▸ hp, rfl⟩⟩

omit [Field R] [LinearOrder R] [IsStrictOrderedRing R] in
theorem Kindred.trans (h : Kindred id s s') (h' : Kindred id s' s'') : Kindred id s s'' := by
  refine ⟨h'.cluster.trans h.cluster, fun p'' hp'' => ?_⟩
  rcases h'.key p'' hp'' with hown | ⟨p', hp', hkey⟩
  · exact Or.inl hown
  · rw [hkey]
    exact h.key p' hp'

instance : Std.Refl (Kin (R := R) (V := V)) where
  refl _ := ⟨List.prefix_refl _, fun _ s hs => ⟨s, hs, Kindred.of_eq rfl rfl⟩,
    fun _ _ hn hs => nomatch hn.symm.trans hs⟩

instance : IsTrans (SessionSpeakerState R V) Kin where
  trans _ st' _ h h' := by
    refine ⟨h.order.trans h'.order, fun id s hs => ?_, fun id s'' hn hs'' p hp => ?_⟩
    · obtain ⟨s', hs', hkin⟩ := h.kept id s hs
      obtain ⟨s'', hs'', hkin'⟩ := h'.kept id s' hs'
      exact ⟨s'', hs'', hkin.trans hkin'⟩
    · cases hmid : st'.speakers id with
      | none => exact h'.added id s'' hmid hs'' p hp
      | some s' =>
        obtain ⟨t, ht, hkin⟩ := h'.kept id s' hmid
        rw [hs''] at ht
        cases ht
        rcases hkin.key p hp with hown | ⟨q, hq, hkey⟩
        · exact hown
        · exact hkey.trans (h.added id s' hn hmid q hq)

theorem kin_assign {f : SessionSpeaker R V → SessionSpeaker R V}
    (hf : ∀ s, st.speakers id = some s → Kindred id s (f s)) : Kin st (st.assign id f) where
  order := List.prefix_refl _
  kept k s hs := by
    rw [speakers_assign, hs]
    by_cases hk : k = id
    · subst hk
      exact ⟨f s, by simp, hf s hs⟩
    · exact ⟨s, by simp [hk], Kindred.of_eq rfl rfl⟩
  added k s hn hs := by
    rw [speakers_assign, hn] at hs
    cases hs

theorem kin_register (hp : s.prototype = none) :
    Within Kin (register s) :=
  within_register_of (fun _ hfresh => ⟨List.prefix_append _ _,
    fun _ t ht => ⟨t, speakers_insertSpeaker hfresh ht, Kindred.of_eq rfl rfl⟩,
    fun _ _ hn ht _ ht' => by
      obtain rfl := eq_of_insertSpeaker hn ht
      exact nomatch hp.symm.trans ht'⟩)

end Kin

/-- **A centroid is built under the speaker's own id**, or from the one there is. -/
theorem kin_setPrototype (id : String) (e : SpeakerEmbedding R V) :
    Within Kin (setPrototype id e) := by
  intro st
  unfold setPrototype
  rw [read_bind]
  cases hs : st.speakers id with
  | none => exact Std.Refl.refl st
  | some s =>
    dsimp only
    cases hcurrent : s.prototype with
    | none =>
      dsimp only
      cases hp : SpeakerPrototype.fromEmbedding id e with
      | error err => exact Std.Refl.refl st
      | ok p =>
        refine kin_assign (fun r hr => ⟨rfl, fun q hq => Or.inl ?_⟩)
        rw [← Option.some.inj hq]
        exact SpeakerPrototype.speakerKey_of_fromEmbedding hp
    | some current =>
      dsimp only
      have hkept : Kin st (st.assign id fun s =>
          { s with prototypeHistory := s.prototypeHistory ++ [current] }) :=
        kin_assign (fun _ _ => Kindred.of_eq rfl rfl)
      cases hp : current.updatedWith e with
      | error err => exact hkept
      | ok p =>
        refine IsTrans.trans _ _ _ hkept (kin_assign (fun r hr => ⟨rfl, fun q hq => Or.inr ?_⟩))
        rw [speakers_assign_self hs] at hr
        cases hr
        refine ⟨current, hcurrent, ?_⟩
        rw [← Option.some.inj hq]
        exact SpeakerPrototype.speakerKey_of_updatedWith hp

theorem learnFrame_kin : LearnFrame (Kin (R := R) (V := V)) where
  books st st' hs ho := by
    refine ⟨ho ▸ List.prefix_refl _, fun id s h => ⟨s, by rw [hs, h], Kindred.of_eq rfl rfl⟩,
      fun id s hn h => ?_⟩
    rw [hs, hn] at h
    cases h
  aside _ f hf _ := kin_assign (fun s _ => Kindred.of_eq (hf.cluster s) (hf.prototype s))
  register s hp _ _ := kin_register hp
  learn := kin_setPrototype

/-- No call but a merge changes where an id points. -/
theorem WellFormed.parentOf_step {st : SessionSpeakerState R V} (h : st.WellFormed) (op : Op R V)
    (hop : ∀ a b reason, op ≠ .merge a b reason) : (st.step op).parentOf = st.parentOf := by
  cases (step_cases h op).2.2 with
  | quiet op hq => exact hq.parent
  | marked a b _ hp => exact hp
  | merged a b reason => exact absurd rfl (hop a b reason)

/-! ## The sink -/

/-- The sink is who it was, if there was one. -/
def SameSink (st st' : SessionSpeakerState R V) : Prop := st'.unattributedId = st.unattributedId

instance : Std.Refl (SameSink (R := R) (V := V)) := ⟨fun _ => rfl⟩

instance : IsTrans (SessionSpeakerState R V) SameSink := ⟨fun _ _ _ h h' => h'.trans h⟩

omit [AddCommGroup V] [Module R V] [EmbeddingSpace R V] in
theorem rosterFrame_sameSink : RosterFrame (SameSink (R := R) (V := V)) where
  books _ _ _ _ hsink := hsink
  write _ _ _ := rfl

omit [AddCommGroup V] [Module R V] [EmbeddingSpace R V] in
theorem admits_sameSink (ulid : String) : Admits (SameSink (R := R) (V := V)) ulid := by
  intro s _ _ _ _
  refine within_bind within_read (fun st => ?_)
  split
  · exact within_throw _
  · exact within_modify (fun _ => rfl)

/-- **Only asking for the sink chooses it.** -/
theorem sameSink_step (st : SessionSpeakerState R V) (op : Op R V)
    (hop : ∀ ulid, op ≠ .unattributedSpeaker ulid) : SameSink st (st.step op) :=
  rosterFrame_sameSink.step st op (fun ulid _ => admits_sameSink ulid)
    (fun ulid heq => absurd heq (hop ulid))

end SessionSpeakerState

end Sastt
