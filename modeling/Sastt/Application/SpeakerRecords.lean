import Sastt.Application.SessionRuns

/-!
# How the records of the speakers change

The record of a speaker is written to by most methods, and what a reader of
the session sees of it is little: whether it is enrolled, under which id and
name, and whether it was given up as unknown. `SameIdentity` says that a
record after some writes shows what it showed before, and `Steady` that all
records do, while new ones are anonymous.

Every method is steady but one. `apply_voice_id` is what names speakers and
puts names in doubt, and it writes to the one record its id stands for
(`applyVoiceId_cases`).
-/

namespace Sastt

open Method

variable {R V : Type} [Field R] [LinearOrder R] [IsStrictOrderedRing R]

namespace SessionSpeaker

variable {s s' s'' : SessionSpeaker R V}

/-- **The record shows the identity it showed before.** A speaker given up as
unknown stays so, and a merged one stays merged. -/
structure SameIdentity (s s' : SessionSpeaker R V) : Prop where
  id : s'.sessionSpeakerId = s.sessionSpeakerId
  registry : s'.registrySpeakerId = s.registrySpeakerId
  name : s'.speakerName = s.speakerName
  enrolled : s'.state = .enrolled ↔ s.state = .enrolled
  unknown : s.state = .unknown → s'.state = .unknown
  active : s'.mergedInto = none → s.mergedInto = none

omit [Field R] [LinearOrder R] [IsStrictOrderedRing R] in
theorem SameIdentity.refl (s : SessionSpeaker R V) : SameIdentity s s :=
  ⟨rfl, rfl, rfl, Iff.rfl, fun h => h, fun h => h⟩

omit [Field R] [LinearOrder R] [IsStrictOrderedRing R] in
theorem SameIdentity.trans (h : SameIdentity s s') (h' : SameIdentity s' s'') :
    SameIdentity s s'' where
  id := h'.id.trans h.id
  registry := h'.registry.trans h.registry
  name := h'.name.trans h.name
  enrolled := h'.enrolled.trans h.enrolled
  unknown hs := h'.unknown (h.unknown hs)
  active hs := h.active (h'.active hs)

/-- A speaker that was never named. -/
def Unnamed (s : SessionSpeaker R V) : Prop := s.registrySpeakerId = none ∧ s.state ≠ .enrolled

omit [Field R] [LinearOrder R] [IsStrictOrderedRing R] in
theorem Unnamed.of_same (h : s.Unnamed) (hs : SameIdentity s s') : s'.Unnamed :=
  ⟨hs.registry.trans h.1, fun he => h.2 (hs.enrolled.mp he)⟩

end SessionSpeaker

open SessionSpeaker

namespace SessionSpeakerState

variable {st st' st'' : SessionSpeakerState R V} {id : String} {s : SessionSpeaker R V}

/-- **Every record shows the identity it showed before**, new ones are of
nobody in particular, and the sink is the one there was, or a new one given
up as unknown. -/
structure Steady (st st' : SessionSpeakerState R V) : Prop where
  kept : ∀ id s, st.speakers id = some s →
    ∃ s', st'.speakers id = some s' ∧ SameIdentity s s'
  added : ∀ id s', st.speakers id = none → st'.speakers id = some s' → s'.Unnamed
  sink : ∀ id, st.unattributedId = some id → st'.unattributedId = some id
  chosen : ∀ id, st'.unattributedId = some id →
    st.unattributedId = some id ∨ ∃ s', st'.speakers id = some s' ∧ s'.state = .unknown

instance : Std.Refl (Steady (R := R) (V := V)) where
  refl st :=
    ⟨fun _ s hs => ⟨s, hs, SameIdentity.refl s⟩,
      fun id s hn hs => absurd (hn.symm.trans hs) (by simp), fun _ h => h, fun _ h => Or.inl h⟩

instance : IsTrans (SessionSpeakerState R V) Steady where
  trans st st' st'' h h' := by
    refine ⟨fun id s hs => ?_, fun id s'' hn hs => ?_, fun id hid => h'.sink id (h.sink id hid),
      fun id hid => ?_⟩
    · obtain ⟨s', hs', hsame⟩ := h.kept id s hs
      obtain ⟨s'', hs'', hsame'⟩ := h'.kept id s' hs'
      exact ⟨s'', hs'', hsame.trans hsame'⟩
    · cases hmid : st'.speakers id with
      | none => exact h'.added id s'' hmid hs
      | some s' =>
        obtain ⟨t, ht, hsame⟩ := h'.kept id s' hmid
        rw [hs] at ht
        cases ht
        exact (h.added id s' hn hmid).of_same hsame
    · rcases h'.chosen id hid with hid' | hnew
      · rcases h.chosen id hid' with hid'' | ⟨s', hs', hunknown⟩
        · exact Or.inl hid''
        · obtain ⟨s'', hs'', hsame⟩ := h'.kept id s' hs'
          exact Or.inr ⟨s'', hs'', hsame.unknown hunknown⟩
      · exact Or.inr hnew

/-! ## Steady writes -/

theorem steady_assign {f : SessionSpeaker R V → SessionSpeaker R V}
    (hf : ∀ s, st.speakers id = some s → SameIdentity s (f s)) : Steady st (st.assign id f) where
  kept k s hs := by
    rw [speakers_assign, hs]
    by_cases hk : k = id
    · exact ⟨f s, by simp [hk], hf s (hk ▸ hs)⟩
    · exact ⟨s, by simp [hk], SameIdentity.refl s⟩
  added k s hn hs := by
    rw [speakers_assign, hn] at hs
    cases hs
  sink _ h := h
  chosen _ h := Or.inl h

theorem within_updateSpeaker_steady {f : SessionSpeaker R V → SessionSpeaker R V}
    (hf : ∀ s, SameIdentity s (f s)) : Within Steady (updateSpeaker id f) :=
  fun _ => steady_assign (fun s _ => hf s)

/-- Only the records and the sink are looked at. -/
theorem Steady.of_eq (hs : st'.speakers = st.speakers)
    (hsink : st'.unattributedId = st.unattributedId) : Steady st st' where
  kept id s h := ⟨s, by rw [hs, h], SameIdentity.refl s⟩
  added id s hn h := by
    rw [hs, hn] at h
    cases h
  sink id h := hsink.trans h
  chosen id h := Or.inl (hsink.symm.trans h)

/-- **No transition but to be enrolled or doubted changes who a speaker is.**
Those states are left to each other only. -/
theorem within_transition_steady (id : String) (toState : IdentityState)
    (he : toState ≠ .enrolled) (ha : toState ≠ .ambiguous) (reason : String) :
    Within Steady (transition (R := R) (V := V) id toState reason) := by
  intro st
  unfold transition
  rw [read_bind]
  cases hs : st.speakers id with
  | none => exact Std.Refl.refl st
  | some s =>
    dsimp only
    cases hm : s.machine.transition toState reason with
    | error e => exact Std.Refl.refl st
    | ok machine =>
      obtain ⟨hedge, rfl⟩ := SpeakerIdentityStateMachine.transition_eq_ok hm
      refine steady_assign (fun r hr => ?_)
      rw [hs] at hr
      cases hr
      refine ⟨rfl, rfl, rfl, ⟨fun h => absurd h he, fun h => ?_⟩, fun h => ?_, fun h => h⟩
      · have hstate : s.machine.state = .enrolled := h
        rw [hstate] at hedge
        exact absurd (List.mem_singleton.mp hedge) ha
      · have hstate : s.machine.state = .unknown := h
        rw [hstate] at hedge
        exact absurd hedge List.not_mem_nil

theorem insertSpeaker_steady (hs : s.Unnamed) (hfresh : st.speakers s.sessionSpeakerId = none) :
    Steady st (st.insertSpeaker s) :=
  ⟨fun _ t ht => ⟨t, speakers_insertSpeaker hfresh ht, SameIdentity.refl t⟩,
    fun _ _ hn ht => eq_of_insertSpeaker hn ht ▸ hs, fun _ h => h, fun _ h => Or.inl h⟩

theorem within_register_steady (hs : s.Unnamed) : Within Steady (register s) :=
  within_register_of (fun _ => insertSpeaker_steady hs)

theorem within_recordLabelChange_steady (change : LabelChange) :
    Within Steady (recordLabelChange (R := R) (V := V) change) :=
  fun _ => Steady.of_eq rfl rfl

theorem within_relabel_steady (speaker : SessionSpeaker R V) (newLabel reason : String) :
    Within Steady (relabel speaker newLabel reason) :=
  within_relabel_of (within_updateSpeaker_steady (fun _ => ⟨rfl, rfl, rfl, Iff.rfl, id, id⟩))
    within_recordLabelChange_steady

/-! ## Steady methods -/

section Methods

theorem within_createSessionSpeaker_steady (ulid : String) (clusterId label : Option String) :
    Within Steady (createSessionSpeaker (R := R) (V := V) ulid clusterId label) :=
  within_createSessionSpeaker_of label (fun _ => Steady.of_eq rfl rfl)
    (fun _ => within_register_steady ⟨rfl, nofun⟩)

theorem within_createTemporarySpeaker_steady (ulid : String) :
    Within Steady (createTemporarySpeaker (R := R) (V := V) ulid) :=
  within_createTemporarySpeaker_of (fun _ => Steady.of_eq rfl rfl)
    (fun _ => within_register_steady ⟨rfl, nofun⟩)

theorem within_ensureClusterSpeaker_steady (ulid clusterId : String) :
    Within Steady (ensureClusterSpeaker (R := R) (V := V) ulid clusterId) :=
  within_ensureClusterSpeaker_of (within_createSessionSpeaker_steady _ _ _)

theorem within_addCannotLink_steady (a b : String) :
    Within Steady (addCannotLink (R := R) (V := V) a b) :=
  within_addCannotLink_of
    (fun _ _ => within_updateSpeaker_steady (fun _ => ⟨rfl, rfl, rfl, Iff.rfl, id, id⟩)) a b

theorem within_mergeTransitions_steady (source : SessionSpeaker R V) (reason : String) :
    Within Steady (mergeTransitions source reason) :=
  within_mergeTransitions_of (fun _ h => within_transition_steady _ _
    (fun he => by rw [he] at h; revert h; decide) (fun ha => by rw [ha] at h; revert h; decide) _)

theorem within_merge_steady (a b reason : String) :
    Within Steady (merge (R := R) (V := V) a b reason) := by
  refine within_bind within_read (fun st => within_bind (within_ofExcept _) (fun source =>
    within_bind (within_ofExcept _) (fun target => within_bind (within_ofExcept _) (fun _ => ?_))))
  split
  · exact within_throw _
  · refine within_bind (within_mergeTransitions_steady _ _) (fun _ => within_bind
      (within_updateSpeaker_steady (fun _ => ⟨rfl, rfl, rfl, Iff.rfl, id, id⟩)) (fun _ => ?_))
    refine within_bind
      (within_updateSpeaker_steady (fun _ => ⟨rfl, rfl, rfl, Iff.rfl, id, nofun⟩)) (fun _ =>
      within_bind (within_updateSpeaker_steady (fun _ => ⟨rfl, rfl, rfl, Iff.rfl, id, id⟩))
        (fun _ => ?_))
    exact within_bind (within_updateSpeaker_steady (fun _ => ⟨rfl, rfl, rfl, Iff.rfl, id, id⟩))
      (fun _ => within_bind (within_recordLabelChange_steady _) (fun _ => within_pure _))

theorem within_promoteProvisional_steady (id reason : String) (label : Option String) :
    Within Steady (promoteProvisional (R := R) (V := V) id reason label) :=
  within_promoteProvisional_of
    (fun _ _ => within_transition_steady _ .sessionAnonymous nofun nofun _)
    (fun _ => Steady.of_eq rfl rfl) within_relabel_steady id reason label

theorem within_finalizeUnresolved_steady :
    Within Steady (finalizeUnresolved (R := R) (V := V)) :=
  within_finalizeUnresolved_of (fun id => within_finalizeSpeaker_of
    (within_transition_steady id .unknown nofun nofun) (within_promoteProvisional_steady id))

theorem within_drainLabelChanges_steady :
    Within Steady (drainLabelChanges (R := R) (V := V)) :=
  within_drainLabelChanges_of (fun _ => Steady.of_eq rfl rfl)

theorem within_unattributedSpeaker_steady (ulid : String) :
    Within Steady (unattributedSpeaker (R := R) (V := V) ulid) := by
  refine within_unattributedSpeaker_of ulid (fun st hsink hfresh => ?_)
  have hsteady := insertSpeaker_steady (s := sinkSpeaker ulid) ⟨rfl, nofun⟩ hfresh
  refine ⟨hsteady.kept, hsteady.added, fun id hid => absurd (hsink.symm.trans hid) nofun,
    fun id hid => Or.inr ⟨sinkSpeaker ulid, ?_, rfl⟩⟩
  cases hid
  exact Function.update_self _ _ _

variable [AddCommGroup V] [Module R V] [EmbeddingSpace R V]

theorem within_setPrototype_steady (k : String) (e : SpeakerEmbedding R V) :
    Within Steady (setPrototype k e) :=
  within_setPrototype_of
    (fun _ => within_updateSpeaker_steady (fun _ => ⟨rfl, rfl, rfl, Iff.rfl, id, id⟩))
    (fun _ => within_updateSpeaker_steady (fun _ => ⟨rfl, rfl, rfl, Iff.rfl, id, id⟩)) e

/-- **Every call but one is steady.** -/
theorem steady_step (st : SessionSpeakerState R V) (op : Op R V)
    (hop : ∀ id decision, op ≠ .applyVoiceId id decision) : Steady st (st.step op) := by
  cases op with
  | createSessionSpeaker ulid clusterId label =>
    exact within_createSessionSpeaker_steady ulid clusterId label st
  | createTemporarySpeaker ulid => exact within_createTemporarySpeaker_steady ulid st
  | ensureClusterSpeaker ulid clusterId =>
      exact within_ensureClusterSpeaker_steady ulid clusterId st
  | unattributedSpeaker ulid => exact within_unattributedSpeaker_steady ulid st
  | addCannotLink a b => exact within_addCannotLink_steady a b st
  | merge a b reason => exact within_merge_steady a b reason st
  | promoteProvisional id reason label => exact within_promoteProvisional_steady id reason label st
  | applyVoiceId id decision => exact absurd rfl (hop id decision)
  | updatePrototype id e margin passed =>
    exact within_gatedUpdate_of (within_setPrototype_steady · e) st
  | bufferProvisionalEmbedding id e =>
    exact within_gatedUpdate_of (within_setPrototype_steady · e) st
  | finalizeUnresolved => exact within_finalizeUnresolved_steady st
  | drainLabelChanges => exact within_drainLabelChanges_steady st

end Methods

/-! ## Naming a speaker -/

section Naming

variable {decision : VoiceIdDecision R}

/-- A decision that names somebody. -/
def Names (decision : VoiceIdDecision R) : Prop :=
  decision.status = .enrolled ∧ truthy decision.registrySpeakerId = true
    ∧ truthy decision.speakerName = true

/-- What a speaker's state becomes when it is named. A speaker that was given
up as unknown, or merged, is named and stays what it was. -/
def namedState : IdentityState → IdentityState
  | .provisional | .sessionAnonymous | .ambiguous | .enrolled => .enrolled
  | .merged => .merged
  | .unknown => .unknown

/-- Looking a record up after writing to another. -/
theorem speakers_assign_other {f : SessionSpeaker R V → SessionSpeaker R V} {k : String}
    (hk : k ≠ id) : (st.assign id f).speakers k = st.speakers k := Function.update_of_ne hk _ _

/-- The transition of a speaker that is named. -/
theorem acceptTransition_spec (hs : st.speakers s.sessionSpeakerId = some s) :
    ∃ machine, machine.state = namedState s.state
      ∧ (acceptTransition s st).1 = .ok ()
      ∧ (acceptTransition s st).2.unattributedId = st.unattributedId
      ∧ (acceptTransition s st).2.speakers s.sessionSpeakerId = some (s.withMachine machine)
      ∧ ∀ k, k ≠ s.sessionSpeakerId →
        (acceptTransition s st).2.speakers k = st.speakers k := by
  have hmove : ∀ toState reason, toState ∈ s.state.allowedTransitions →
      toState = namedState s.state →
      ∃ machine, machine.state = namedState s.state
        ∧ (transition s.sessionSpeakerId toState reason st).1 = .ok ()
        ∧ (transition s.sessionSpeakerId toState reason st).2.unattributedId = st.unattributedId
        ∧ (transition s.sessionSpeakerId toState reason st).2.speakers s.sessionSpeakerId
          = some (s.withMachine machine)
        ∧ ∀ k, k ≠ s.sessionSpeakerId →
          (transition s.sessionSpeakerId toState reason st).2.speakers k = st.speakers k := by
    intro toState reason hedge hstate
    rw [transition_of_can hs hedge]
    exact ⟨s.machine.move toState reason, hstate, rfl, rfl, speakers_assign_self hs,
      fun k hk => speakers_assign_other hk⟩
  unfold acceptTransition
  by_cases hfirst : s.state = .provisional ∨ s.state = .sessionAnonymous
  · rw [if_pos hfirst]
    rcases hfirst with h | h
    · exact hmove _ _ (by rw [h]; decide) (by rw [h]; rfl)
    · exact hmove _ _ (by rw [h]; decide) (by rw [h]; rfl)
  · rw [if_neg hfirst]
    by_cases hdoubt : s.state = .ambiguous
    · rw [if_pos hdoubt]
      exact hmove _ _ (by rw [hdoubt]; decide) (by rw [hdoubt]; rfl)
    · rw [if_neg hdoubt]
      refine ⟨s.machine, ?_, rfl, rfl, hs, fun _ _ => rfl⟩
      show s.state = namedState s.state
      cases hstate : s.state with
      | provisional => exact absurd (Or.inl hstate) hfirst
      | sessionAnonymous => exact absurd (Or.inr hstate) hfirst
      | ambiguous => exact absurd hstate hdoubt
      | enrolled => rfl
      | merged => rfl
      | unknown => rfl

/-- What naming a speaker makes of the records. -/
theorem speakers_named {st₁ : SessionSpeakerState R V} {machine : SpeakerIdentityStateMachine}
    (hself : st₁.speakers s.sessionSpeakerId = some (s.withMachine machine))
    (hother : ∀ k, k ≠ s.sessionSpeakerId → st₁.speakers k = st.speakers k)
    (f g : SessionSpeaker R V → SessionSpeaker R V) :
    ((st₁.assign s.sessionSpeakerId f).assign s.sessionSpeakerId g).speakers
      = Function.update st.speakers s.sessionSpeakerId (some (g (f (s.withMachine machine)))) := by
  funext k
  by_cases hk : k = s.sessionSpeakerId
  · rw [hk, Function.update_self, speakers_assign_self (speakers_assign_self hself)]
  · rw [Function.update_of_ne hk, speakers_assign_other hk, speakers_assign_other hk, hother k hk]

/-- **What `apply_voice_id` does**: it names the speaker, or puts an enrolled
one in doubt, or changes nothing. -/
theorem applyVoiceId_cases (h : st.WellFormed) (id : String) (decision : VoiceIdDecision R) :
    ((applyVoiceId (V := V) id decision st).2 = st ∧ ∀ s, st.get id = .ok s →
        ¬ Names decision ∧ ¬ (decision.status = .ambiguous ∧ s.state = .enrolled))
      ∨ ∃ s s', st.get id = .ok s
      ∧ (applyVoiceId id decision st).2.speakers
        = Function.update st.speakers s.sessionSpeakerId (some s')
      ∧ (applyVoiceId id decision st).2.unattributedId = st.unattributedId
      ∧ s'.sessionSpeakerId = s.sessionSpeakerId ∧ s'.mergedInto = s.mergedInto
      ∧ ((Names decision ∧ s'.state = namedState s.state
          ∧ s'.registrySpeakerId = decision.registrySpeakerId
          ∧ s'.speakerName = decision.speakerName)
        ∨ (decision.status = .ambiguous ∧ s.state = .enrolled ∧ s'.state = .ambiguous
          ∧ s'.registrySpeakerId = s.registrySpeakerId ∧ s'.speakerName = s.speakerName)) := by
  unfold applyVoiceId
  rw [read_bind]
  cases hget : st.get id with
  | error e => exact Or.inl ⟨rfl, nofun⟩
  | ok s =>
    obtain ⟨-, hs, hsid, -⟩ := h.get_eq_ok hget
    rw [← hsid] at hs
    rw [ofExcept_ok_bind]
    have hnot : decision.status ≠ .enrolled → ¬ Names decision := fun hne hn => hne hn.1
    cases hstatus : decision.status with
    | unknown =>
      refine Or.inl ⟨rfl, fun _ _ => ⟨hnot ?_, fun hdoubt => nomatch hdoubt.1⟩⟩
      rw [hstatus]
      exact nofun
    | uncalibrated =>
      refine Or.inl ⟨rfl, fun _ _ => ⟨hnot ?_, fun hdoubt => nomatch hdoubt.1⟩⟩
      rw [hstatus]
      exact nofun
    | ambiguous =>
      dsimp only
      by_cases henrolled : s.state = .enrolled
      · have hedge : IdentityState.ambiguous ∈ s.state.allowedTransitions := by
          rw [henrolled]
          decide
        rw [if_pos henrolled, bind_of_ok (transition_of_can hs hedge _)]
        refine Or.inr ⟨s, s.withMachine (s.machine.move .ambiguous "voice_id_contradiction"), rfl,
          ?_, rfl, rfl, rfl, Or.inr ⟨rfl, henrolled, rfl, rfl, rfl⟩⟩
        funext k
        by_cases hk : k = s.sessionSpeakerId
        · rw [hk, Function.update_self]
          exact speakers_assign_self hs
        · rw [Function.update_of_ne hk]
          exact speakers_assign_other hk
      · rw [if_neg henrolled]
        refine Or.inl ⟨rfl, ?_⟩
        rintro _ ⟨⟩
        refine ⟨hnot ?_, fun hdoubt => henrolled hdoubt.2⟩
        rw [hstatus]
        exact nofun
    | enrolled =>
      dsimp only
      by_cases hnamed : (!truthy decision.registrySpeakerId || !truthy decision.speakerName) = true
      · rw [if_pos hnamed]
        refine Or.inl ⟨rfl, fun _ _ => ⟨fun hnames => ?_, fun hdoubt => nomatch hdoubt.1⟩⟩
        rw [hnames.2.1, hnames.2.2] at hnamed
        cases hnamed
      · have hnames : Names decision := by
          rw [Bool.or_eq_true, Bool.not_eq_true', Bool.not_eq_true', not_or] at hnamed
          exact ⟨hstatus, Bool.not_eq_false _ ▸ hnamed.1, Bool.not_eq_false _ ▸ hnamed.2⟩
        obtain ⟨machine, hstate, hreturned, hsink, hself, hother⟩ := acceptTransition_spec hs
        rw [if_neg hnamed, bind_of_ok (Prod.ext hreturned rfl)]
        exact Or.inr ⟨s, _, rfl, speakers_named hself hother _ _, hsink, rfl, rfl,
          Or.inl ⟨hnames, hstate, rfl, rfl⟩⟩

end Naming

end SessionSpeakerState

end Sastt
