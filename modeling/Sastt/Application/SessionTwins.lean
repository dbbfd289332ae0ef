import Mathlib.Data.Option.Basic
import Sastt.Application.SessionRuns
import Sastt.Lib.Pairs

/-!
# Two sessions that differ in evidence

Two sessions in which the same calls are made may still differ in what was
gathered of some speakers, because they were given different embeddings. `Alike`
says that they do not differ in anything else: they have the same speakers,
merged and marked alike, and all but the speakers of a set have the same state
and prototype.

A call is made for the speaker an id stands for. If it is one of the set, the
call may go differently in the two sessions, but it writes to the record of that
speaker only (`Touches`). If it is not, the two calls go alike, write by write.
-/

namespace Sastt

open Method

variable {R V : Type} [Field R] [LinearOrder R] [IsStrictOrderedRing R]

namespace SessionSpeaker

variable {s s' s₁ : SessionSpeaker R V}

/-- **Two records of a speaker**, which agree in state and prototype if they are to
be the same. A speaker of a cluster is not provisional. -/
structure Twins (same : Prop) (id : String) (s s' : SessionSpeaker R V) : Prop where
  keyed : s.sessionSpeakerId = id
  keyed' : s'.sessionSpeakerId = id
  pointer : s'.mergedInto = s.mergedInto
  marks : s'.cannotLink = s.cannotLink
  cluster : s'.clusterId = s.clusterId
  settled : s.clusterId.isSome → s.state ≠ .provisional ∧ s'.state ≠ .provisional
  evidence : same → s'.state = s.state ∧ s'.prototype = s.prototype

/-- The record was written to, but for the pointer and the marks. -/
structure Kept (s s₁ : SessionSpeaker R V) : Prop where
  id : s₁.sessionSpeakerId = s.sessionSpeakerId
  pointer : s₁.mergedInto = s.mergedInto
  marks : s₁.cannotLink = s.cannotLink
  cluster : s₁.clusterId = s.clusterId
  settled : s.state ≠ .provisional → s₁.state ≠ .provisional

section

omit [Field R] [LinearOrder R] [IsStrictOrderedRing R]

theorem Kept.refl (s : SessionSpeaker R V) : Kept s s := ⟨rfl, rfl, rfl, rfl, fun h => h⟩

theorem Kept.trans {s₂ : SessionSpeaker R V} (h : Kept s s₁) (h' : Kept s₁ s₂) : Kept s s₂ where
  id := h'.id.trans h.id
  pointer := h'.pointer.trans h.pointer
  marks := h'.marks.trans h.marks
  cluster := h'.cluster.trans h.cluster
  settled hs := h'.settled (h.settled hs)

theorem Twins.mono {same same' : Prop} {id : String} (h : Twins same id s s')
    (hsame : same' → same) : Twins same' id s s' :=
  { h with evidence := fun hs => h.evidence (hsame hs) }

/-- Twins that need not be the same stay twins when they are written to. -/
theorem Twins.kept {same : Prop} {id : String} {s₁' : SessionSpeaker R V}
    (h : Twins same id s s') (hs : Kept s s₁) (hs' : Kept s' s₁') (hnot : ¬ same) :
    Twins same id s₁ s₁' where
  keyed := hs.id.trans h.keyed
  keyed' := hs'.id.trans h.keyed'
  pointer := (hs'.pointer.trans h.pointer).trans hs.pointer.symm
  marks := (hs'.marks.trans h.marks).trans hs.marks.symm
  cluster := (hs'.cluster.trans h.cluster).trans hs.cluster.symm
  settled hc := by
    rw [hs.cluster] at hc
    exact ⟨hs.settled (h.settled hc).1, hs'.settled (h.settled hc).2⟩
  evidence hsame := absurd hsame hnot

end

end SessionSpeaker

open SessionSpeaker

namespace SessionSpeakerState

variable {st st' st₁ st₁' : SessionSpeakerState R V} {id : String} {s s' : SessionSpeaker R V}
  {apart more : Finset String}

/-- **The two sessions agree** in everything but the evidence on the speakers of
`apart`, who are of no cluster. -/
structure Alike (apart : Finset String) (st st' : SessionSpeakerState R V) : Prop where
  config : st'.config = st.config
  version : st'.embeddingModelVersion = st.embeddingModelVersion
  order : st'.order = st.order
  sink : st'.unattributedId = st.unattributedId
  speakers : ∀ id, Option.Rel (Twins (id ∉ apart) id) (st.speakers id) (st'.speakers id)
  apart : ∀ id ∈ apart, ∃ s, st.speakers id = some s ∧ s.clusterId = none

/-- **Only the record of one speaker was written to.** -/
structure Touches (id : String) (st st₁ : SessionSpeakerState R V) : Prop where
  config : st₁.config = st.config
  version : st₁.embeddingModelVersion = st.embeddingModelVersion
  order : st₁.order = st.order
  sink : st₁.unattributedId = st.unattributedId
  others : ∀ k, k ≠ id → st₁.speakers k = st.speakers k
  self : Option.Rel Kept (st.speakers id) (st₁.speakers id)

instance : Std.Refl (Touches (R := R) (V := V) id) where
  refl st := by
    refine ⟨rfl, rfl, rfl, rfl, fun _ _ => rfl, ?_⟩
    cases st.speakers id with
    | none => exact .none
    | some s => exact .some (Kept.refl s)

instance : IsTrans (SessionSpeakerState R V) (Touches id) where
  trans st st₁ st₂ h h' := by
    refine ⟨h'.config.trans h.config, h'.version.trans h.version, h'.order.trans h.order,
      h'.sink.trans h.sink, fun k hk => (h'.others k hk).trans (h.others k hk), ?_⟩
    rcases h.self.elim with ⟨hs, hs₁⟩ | ⟨s, s₁, hs, hs₁, hkept⟩
    · rw [hs, ← hs₁]
      exact h'.self
    · rcases h'.self.elim with ⟨hnone, -⟩ | ⟨t, s₂, ht, hs₂, hkept'⟩
      · rw [hs₁] at hnone
        cases hnone
      · rw [hs₁] at ht
        cases ht
        rw [hs, hs₂]
        exact .some (hkept.trans hkept')

/-- What is left of a record that was written to. -/
theorem Touches.exists_kept (h : Touches id st st₁) (hs : st.speakers id = some s) :
    ∃ s₁, st₁.speakers id = some s₁ ∧ Kept s s₁ := by
  rcases h.self.elim with ⟨hnone, -⟩ | ⟨t, s₁, ht, hs₁, hkept⟩
  · rw [hs] at hnone
    cases hnone
  · rw [hs] at ht
    cases ht
    exact ⟨s₁, hs₁, hkept⟩

theorem Touches.none (h : Touches id st st₁) (hs : st.speakers id = none) :
    st₁.speakers id = none := by
  rcases h.self.elim with ⟨-, hnone⟩ | ⟨t, _, ht, -⟩
  · exact hnone
  · rw [hs] at ht
    cases ht

/-! ## What is alike -/

/-- Sessions that agree agree outside a larger set. -/
theorem Alike.mono (h : Alike apart st st') (hsub : apart ⊆ more)
    (hmore : ∀ id ∈ more, ∃ s, st.speakers id = some s ∧ s.clusterId = none) :
    Alike more st st' :=
  { h with
    apart := hmore
    speakers := fun id => by
      rcases (h.speakers id).elim with ⟨hs, hs'⟩ | ⟨s, s', hs, hs', htwins⟩
      · rw [hs, hs']
        exact .none
      · rw [hs, hs']
        exact .some (htwins.mono (fun hid hin => hid (hsub hin))) }

/-- **Writing to the record of a speaker of the set** does no harm, whatever is
written in either session. -/
theorem Alike.touches (h : Alike apart st st') (hid : id ∈ apart) (hst : Touches id st st₁)
    (hst' : Touches id st' st₁') : Alike apart st₁ st₁' where
  config := by rw [hst.config, hst'.config, h.config]
  version := by rw [hst.version, hst'.version, h.version]
  order := by rw [hst.order, hst'.order, h.order]
  sink := by rw [hst.sink, hst'.sink, h.sink]
  speakers k := by
    by_cases hk : k = id
    · subst hk
      rcases (h.speakers k).elim with ⟨hs, hs'⟩ | ⟨s, s', hs, hs', htwins⟩
      · rw [hst.none hs, hst'.none hs']
        exact .none
      · obtain ⟨s₁, hs₁, hkept⟩ := hst.exists_kept hs
        obtain ⟨s₁', hs₁', hkept'⟩ := hst'.exists_kept hs'
        rw [hs₁, hs₁']
        exact .some (htwins.kept hkept hkept' (fun hnot => hnot hid))
    · rw [hst.others k hk, hst'.others k hk]
      exact h.speakers k
  apart k hk := by
    obtain ⟨s, hs, hcluster⟩ := h.apart k hk
    by_cases hid : k = id
    · subst hid
      obtain ⟨s₁, hs₁, hkept⟩ := hst.exists_kept hs
      exact ⟨s₁, hs₁, hkept.cluster.trans hcluster⟩
    · exact ⟨s, (hst.others k hid).trans hs, hcluster⟩

/-- **An id stands for the same speaker in both.** -/
theorem Alike.get (h : Alike apart st st') (id : String) :
    (∃ e, st.get id = .error e ∧ st'.get id = .error e)
      ∨ ∃ s s', st.get id = .ok s ∧ st'.get id = .ok s'
        ∧ st.speakers s.sessionSpeakerId = some s ∧ st'.speakers s.sessionSpeakerId = some s'
        ∧ s.mergedInto = none ∧ Twins (s.sessionSpeakerId ∉ apart) s.sessionSpeakerId s s' := by
  unfold SessionSpeakerState.get
  rw [h.order]
  generalize st.order.length + 1 = n
  induction n generalizing id with
  | zero => exact Or.inl ⟨_, rfl, rfl⟩
  | succ n ih =>
    rw [resolve, resolve]
    rcases (h.speakers id).elim with ⟨hs, hs'⟩ | ⟨s, s', hs, hs', htwins⟩
    · rw [hs, hs']
      exact Or.inl ⟨_, rfl, rfl⟩
    · rw [hs, hs']
      dsimp only
      rw [htwins.pointer]
      cases hroot : s.mergedInto with
      | some target => exact ih target
      | none =>
        have hid := htwins.keyed
        subst hid
        exact Or.inr ⟨s, s', rfl, rfl, hs, hs', hroot, htwins⟩

/-- **The active speakers correspond to each other.** -/
theorem Alike.active (h : Alike apart st st') :
    List.Forall₂ (fun s s' => Twins (s.sessionSpeakerId ∉ apart) s.sessionSpeakerId s s')
      st.active st'.active := by
  unfold SessionSpeakerState.active registered
  rw [h.order]
  induction st.order with
  | nil => exact .nil
  | cons id order ih =>
    rcases (h.speakers id).elim with ⟨hs, hs'⟩ | ⟨s, s', hs, hs', htwins⟩
    · rw [List.filterMap_cons_none hs, List.filterMap_cons_none hs']
      exact ih
    · rw [List.filterMap_cons_some hs, List.filterMap_cons_some hs', List.filter_cons,
        List.filter_cons, htwins.pointer]
      split
      · have hid := htwins.keyed
        subst hid
        exact .cons htwins ih
      · exact ih

theorem Alike.activeSpeakerCount (h : Alike apart st st') :
    st'.activeSpeakerCount = st.activeSpeakerCount := h.active.length_eq.symm

/-- A cluster has a speaker in both or in neither. -/
theorem Alike.byCluster (h : Alike apart st st') (clusterId : String) :
    (st'.byCluster clusterId).isSome = (st.byCluster clusterId).isSome := by
  have hactive := h.active
  unfold SessionSpeakerState.byCluster
  generalize st.active = xs at hactive ⊢
  generalize st'.active = ys at hactive ⊢
  induction hactive with
  | nil => rfl
  | cons htwins _ ih =>
    rw [List.find?_cons, List.find?_cons, htwins.cluster]
    split
    · rfl
    · exact ih

/-! ## Paired writes -/

/-- Writing to the records of a speaker alike. -/
theorem Alike.assign {f f' : SessionSpeaker R V → SessionSpeaker R V} (h : Alike apart st st')
    (hf : ∀ s s', st.speakers id = some s → Twins (id ∉ apart) id s s' →
      Twins (id ∉ apart) id (f s) (f' s')) (hcluster : ∀ s, (f s).clusterId = s.clusterId) :
    Alike apart (st.assign id f) (st'.assign id f') where
  config := h.config
  version := h.version
  order := h.order
  sink := h.sink
  speakers k := by
    rw [speakers_assign, speakers_assign]
    rcases (h.speakers k).elim with ⟨hs, hs'⟩ | ⟨s, s', hs, hs', htwins⟩
    · rw [hs, hs']
      exact .none
    · rw [hs, hs']
      refine .some ?_
      split
      · next hk =>
        subst hk
        exact hf s s' hs htwins
      · exact htwins
  apart k hk := by
    obtain ⟨s, hs, hnone⟩ := h.apart k hk
    refine ⟨if k = id then f s else s, by rw [speakers_assign, hs]; rfl, ?_⟩
    split
    · exact (hcluster s).trans hnone
    · exact hnone

theorem paired_updateSpeaker {f f' : SessionSpeaker R V → SessionSpeaker R V}
    (hf : ∀ s s', Twins (id ∉ apart) id s s' → Twins (id ∉ apart) id (f s) (f' s'))
    (hcluster : ∀ s, (f s).clusterId = s.clusterId) :
    Paired (Alike apart) (updateSpeaker id f) (updateSpeaker id f') :=
  paired_modify (fun _ _ h => h.assign (fun s s' _ => hf s s') hcluster)

/-- Labels and counters are not looked at. -/
theorem Alike.of_eq (h : Alike apart st st')
    (hst : st₁.config = st.config ∧ st₁.embeddingModelVersion = st.embeddingModelVersion
      ∧ st₁.order = st.order ∧ st₁.unattributedId = st.unattributedId ∧ st₁.speakers = st.speakers)
    (hst' : st₁'.config = st'.config ∧ st₁'.embeddingModelVersion = st'.embeddingModelVersion
      ∧ st₁'.order = st'.order ∧ st₁'.unattributedId = st'.unattributedId
      ∧ st₁'.speakers = st'.speakers) : Alike apart st₁ st₁' := by
  obtain ⟨hconfig, hversion, horder, hsink, hspeakers⟩ := hst
  obtain ⟨hconfig', hversion', horder', hsink', hspeakers'⟩ := hst'
  exact ⟨by rw [hconfig, hconfig', h.config], by rw [hversion, hversion', h.version],
    by rw [horder, horder', h.order], by rw [hsink, hsink', h.sink],
    by rw [hspeakers, hspeakers']; exact h.speakers, by rw [hspeakers]; exact h.apart⟩

theorem paired_recordLabelChange (change change' : LabelChange) :
    Paired (Alike (R := R) (V := V) apart) (recordLabelChange change) (recordLabelChange change') :=
  paired_modify (fun _ _ h => h.of_eq ⟨rfl, rfl, rfl, rfl, rfl⟩ ⟨rfl, rfl, rfl, rfl, rfl⟩)

theorem paired_relabel (hid : s'.sessionSpeakerId = s.sessionSpeakerId)
    (label label' reason : String) :
    Paired (Alike apart) (relabel s label reason) (relabel s' label' reason) := by
  unfold relabel
  rw [hid]
  refine paired_bind (paired_updateSpeaker ?_ (by intros; rfl))
    (fun _ _ => paired_bind (paired_recordLabelChange _ _) (fun _ _ => paired_pure _ _))
  exact fun _ _ h => ⟨h.keyed, h.keyed', h.pointer, h.marks, h.cluster, h.settled, h.evidence⟩

/-- **The same transition**, of a speaker that is the same in both. -/
theorem paired_transition (hid : id ∉ apart) {toState : IdentityState}
    (hstate : toState ≠ .provisional) (reason : String) :
    Paired (Alike (R := R) (V := V) apart) (transition id toState reason)
      (transition id toState reason) := by
  intro st st' h
  refine pairedAt_read_bind ?_
  rcases (h.speakers id).elim with ⟨hs, hs'⟩ | ⟨s, s', hs, hs', htwins⟩
  · rw [hs, hs']
    exact paired_throw _ _ st st' h
  · rw [hs, hs']
    dsimp only
    have hsame : s'.machine.state = s.machine.state := (htwins.evidence hid).1
    by_cases hedge : toState ∈ s.machine.state.allowedTransitions
    · rw [SpeakerIdentityStateMachine.transition_of_can hedge,
        SpeakerIdentityStateMachine.transition_of_can (hsame ▸ hedge)]
      refine paired_updateSpeaker (fun r r' hr => ?_) (by intros; rfl) st st' h
      exact ⟨hr.keyed, hr.keyed', hr.pointer, hr.marks, hr.cluster,
        fun _ => ⟨hstate, hstate⟩, fun hnot => ⟨rfl, (hr.evidence hnot).2⟩⟩
    · obtain ⟨e, he⟩ := SpeakerIdentityStateMachine.transition_of_not_can hedge reason
      obtain ⟨e', he'⟩ := SpeakerIdentityStateMachine.transition_of_not_can
        (hsame.symm ▸ hedge) reason
      rw [he, he']
      exact paired_throw _ _ st st' h

/-! ## Writes to one record -/

theorem touches_assign {f : SessionSpeaker R V → SessionSpeaker R V} (hf : ∀ s, Kept s (f s)) :
    Touches id st (st.assign id f) := by
  refine ⟨rfl, rfl, rfl, rfl, fun k hk => Function.update_of_ne hk _ _, ?_⟩
  cases hs : st.speakers id with
  | none =>
    rw [speakers_assign, hs]
    exact .none
  | some s =>
    rw [speakers_assign_self hs]
    exact .some (hf s)

theorem within_updateSpeaker_touches {f : SessionSpeaker R V → SessionSpeaker R V}
    (hf : ∀ s, Kept s (f s)) : Within (Touches id) (updateSpeaker id f) :=
  fun _ => touches_assign hf

theorem touches_of_eq (hst : st₁.config = st.config
    ∧ st₁.embeddingModelVersion = st.embeddingModelVersion ∧ st₁.order = st.order
    ∧ st₁.unattributedId = st.unattributedId ∧ st₁.speakers = st.speakers) : Touches id st st₁ := by
  obtain ⟨hconfig, hversion, horder, hsink, hspeakers⟩ := hst
  refine ⟨hconfig, hversion, horder, hsink, fun k _ => by rw [hspeakers], ?_⟩
  rw [hspeakers]
  exact (Std.Refl.refl (r := Touches id) st).self

theorem within_recordLabelChange_touches (change : LabelChange) :
    Within (Touches (R := R) (V := V) id) (recordLabelChange change) :=
  fun _ => touches_of_eq ⟨rfl, rfl, rfl, rfl, rfl⟩

theorem within_relabel_touches (s : SessionSpeaker R V) (label reason : String) :
    Within (Touches s.sessionSpeakerId) (relabel s label reason) :=
  within_relabel_of (within_updateSpeaker_touches (fun _ => ⟨rfl, rfl, rfl, rfl, fun h => h⟩))
    within_recordLabelChange_touches

theorem within_transition_touches {toState : IdentityState} (hstate : toState ≠ .provisional)
    (reason : String) : Within (Touches (R := R) (V := V) id) (transition id toState reason) := by
  intro st
  unfold transition
  rw [read_bind]
  cases hs : st.speakers id with
  | none => exact Std.Refl.refl st
  | some s =>
    dsimp only
    cases hm : s.machine.transition toState reason with
    | error e => exact Std.Refl.refl st
    | ok machine =>
      obtain ⟨-, rfl⟩ := SpeakerIdentityStateMachine.transition_eq_ok hm
      exact touches_assign (fun _ => ⟨rfl, rfl, rfl, rfl, fun _ => hstate⟩)

/-! ## Calls about one speaker -/

/-- **A call about whom an id stands for**: outside the set it goes alike in both
sessions, and inside it touches one record. -/
theorem Alike.onSpeaker {α : Type} {m m' : Method PyError (SessionSpeakerState R V) α}
    (h : Alike apart st st') (id : String)
    (herror : ∀ e, st.get id = .error e → st'.get id = .error e →
      (m st).2 = st ∧ (m' st').2 = st')
    (htouch : ∀ s, st.get id = .ok s → Touches s.sessionSpeakerId st (m st).2)
    (htouch' : ∀ s, st'.get id = .ok s → Touches s.sessionSpeakerId st' (m' st').2)
    (hpair : ∀ s s', st.get id = .ok s → st'.get id = .ok s' →
      Twins True s.sessionSpeakerId s s' → s.sessionSpeakerId ∉ apart →
        Alike apart (m st).2 (m' st').2) :
    Alike apart (m st).2 (m' st').2 := by
  rcases h.get id with ⟨e, hget, hget'⟩ | ⟨s, s', hget, hget', -, -, -, htwins⟩
  · obtain ⟨hst, hst'⟩ := herror e hget hget'
    rw [hst, hst']
    exact h
  · by_cases hid : s.sessionSpeakerId ∈ apart
    · exact h.touches hid (htouch s hget) (htwins.keyed' ▸ htouch' s' hget')
    · exact hpair s s' hget hget' (htwins.mono (fun _ => hid)) hid

theorem touches_promoteProvisional (hget : st.get id = .ok s) (reason : String)
    (label : Option String) :
    Touches s.sessionSpeakerId st (promoteProvisional id reason label st).2 := by
  unfold promoteProvisional
  rw [read_bind, hget, ofExcept_ok_bind]
  split
  · exact Std.Refl.refl st
  · refine within_bind (within_transition_touches (by decide) reason) (fun _ => ?_) st
    split
    · exact within_bind (within_relabel_touches _ _ _) (fun _ => within_pure _)
    · exact within_bind (fun _ => touches_of_eq ⟨rfl, rfl, rfl, rfl, rfl⟩)
        (fun _ => within_bind (within_relabel_touches _ _ _) (fun _ => within_pure _))

/-- Promoting a speaker that is the same in both sessions. -/
theorem pairedAt_promoteProvisional (h : Alike apart st st') (hget : st.get id = .ok s)
    (hget' : st'.get id = .ok s') (htwins : Twins True s.sessionSpeakerId s s')
    (hid : s.sessionSpeakerId ∉ apart) (reason : String) (label : Option String) :
    PairedAt (Alike apart) (promoteProvisional id reason label)
      (promoteProvisional id reason label) st st' := by
  refine pairedAt_read_bind (pairedAt_ofExcept_bind h (Or.inr ⟨s, s', hget, hget', ?_⟩))
  rw [(htwins.evidence True.intro).1, htwins.keyed']
  split
  · exact paired_pure _ _ st st' h
  · refine (paired_transition hid (by decide) reason st st' h).bind (fun _ _ => ?_)
    split
    · exact paired_bind (paired_relabel htwins.keyed' _ _ _) (fun _ _ => paired_pure _ _)
    · refine paired_bind (paired_modify (fun _ _ h => h.of_eq ⟨rfl, rfl, rfl, rfl, rfl⟩
        ⟨rfl, rfl, rfl, rfl, rfl⟩)) (fun _ _ => ?_)
      exact paired_bind (paired_relabel htwins.keyed' _ _ _) (fun _ _ => paired_pure _ _)

theorem Alike.promoteProvisional (h : Alike apart st st') (id reason : String)
    (label : Option String) :
    Alike apart (promoteProvisional id reason label st).2
      (promoteProvisional id reason label st').2 := by
  refine h.onSpeaker id (fun e hget hget' => ?_)
    (fun s hget => touches_promoteProvisional hget reason label)
    (fun s hget => touches_promoteProvisional hget reason label)
    (fun s s' hget hget' htwins hid =>
      (pairedAt_promoteProvisional h hget hget' htwins hid reason label).state)
  unfold SessionSpeakerState.promoteProvisional
  rw [read_bind, read_bind, hget, hget']
  exact ⟨rfl, rfl⟩

theorem within_acceptTransition_touches (s : SessionSpeaker R V) :
    Within (Touches s.sessionSpeakerId) (acceptTransition s) := by
  unfold acceptTransition
  split
  · exact within_transition_touches (by decide) _
  · split
    · exact within_transition_touches (by decide) _
    · exact within_pure _

theorem touches_applyVoiceId (hget : st.get id = .ok s) (decision : VoiceIdDecision R) :
    Touches s.sessionSpeakerId st (applyVoiceId id decision st).2 := by
  unfold applyVoiceId
  rw [read_bind, hget, ofExcept_ok_bind]
  cases decision.status with
  | enrolled =>
    dsimp only
    split
    · exact Std.Refl.refl st
    · refine within_bind (within_acceptTransition_touches s) (fun _ => within_bind ?_
        (fun _ => within_bind (within_relabel_touches _ _ _) (fun _ => within_pure _))) st
      exact within_updateSpeaker_touches (fun _ => ⟨rfl, rfl, rfl, rfl, fun h => h⟩)
  | ambiguous =>
    dsimp only
    split
    · exact within_bind (within_transition_touches (by decide) _) (fun _ => within_pure _) st
    · exact Std.Refl.refl st
  | unknown => exact Std.Refl.refl st
  | uncalibrated => exact Std.Refl.refl st

theorem paired_acceptTransition (htwins : Twins True s.sessionSpeakerId s s')
    (hid : s.sessionSpeakerId ∉ apart) :
    Paired (Alike apart) (acceptTransition s) (acceptTransition s') := by
  unfold acceptTransition
  rw [(htwins.evidence True.intro).1, htwins.keyed']
  split
  · exact paired_transition hid (by decide) _
  · split
    · exact paired_transition hid (by decide) _
    · exact paired_pure _ _

/-- **Naming whom an id stands for**, or doubting them. -/
theorem Alike.applyVoiceId (h : Alike apart st st') (id : String) (decision : VoiceIdDecision R) :
    Alike apart (applyVoiceId id decision st).2 (applyVoiceId id decision st').2 := by
  refine h.onSpeaker id (fun e hget hget' => ?_) (fun s hget => touches_applyVoiceId hget decision)
    (fun s hget => touches_applyVoiceId hget decision) (fun s s' hget hget' htwins hid => ?_)
  · unfold SessionSpeakerState.applyVoiceId
    rw [read_bind, read_bind, hget, hget']
    exact ⟨rfl, rfl⟩
  · unfold SessionSpeakerState.applyVoiceId
    rw [read_bind, read_bind, hget, hget', ofExcept_ok_bind, ofExcept_ok_bind]
    cases decision.status with
    | enrolled =>
      dsimp only
      split
      · exact h
      · refine ((paired_acceptTransition htwins hid st st' h).bind (fun _ _ => ?_)).state
        refine paired_bind ?_ (fun _ _ =>
          paired_bind (paired_relabel htwins.keyed' _ _ _) (fun _ _ => paired_pure _ _))
        rw [htwins.keyed']
        refine paired_updateSpeaker (fun _ _ h => ?_) (by intros; rfl)
        exact ⟨h.keyed, h.keyed', h.pointer, h.marks, h.cluster, h.settled, h.evidence⟩
    | ambiguous =>
      dsimp only
      rw [(htwins.evidence True.intro).1, htwins.keyed']
      split
      · exact ((paired_transition hid (by decide) _ st st' h).bind
          (fun _ _ => paired_pure _ _)).state
      · exact h
    | unknown => exact h
    | uncalibrated => exact h

/-! ### Evidence -/

section Evidence

variable [AddCommGroup V] [Module R V] [EmbeddingSpace R V]
  {gate gate' : SessionSpeakerState R V → SessionSpeaker R V → Option String}
  {e e' : SpeakerEmbedding R V}

theorem within_setPrototype_touches (e : SpeakerEmbedding R V) :
    Within (Touches id) (setPrototype id e) :=
  within_setPrototype_of
    (fun _ => within_updateSpeaker_touches (fun _ => ⟨rfl, rfl, rfl, rfl, fun h => h⟩))
    (fun _ => within_updateSpeaker_touches (fun _ => ⟨rfl, rfl, rfl, rfl, fun h => h⟩)) e

theorem touches_gatedUpdate (hget : st.get id = .ok s) :
    Touches s.sessionSpeakerId st (gatedUpdate gate id e st).2 := by
  unfold gatedUpdate
  rw [read_bind, hget, ofExcept_ok_bind]
  cases gate st s with
  | some reason => exact Std.Refl.refl st
  | none => exact within_setPrototype_touches e st

/-- **The same evidence on a speaker** that is the same in both. -/
theorem paired_setPrototype (hid : id ∉ apart) (e : SpeakerEmbedding R V) :
    Paired (Alike apart) (setPrototype id e) (setPrototype id e) := by
  intro st st' h
  refine pairedAt_read_bind ?_
  rcases (h.speakers id).elim with ⟨hs, hs'⟩ | ⟨s, s', hs, hs', htwins⟩
  · rw [hs, hs']
    exact paired_throw _ _ st st' h
  · rw [hs, hs']
    dsimp only
    rw [(htwins.evidence hid).2]
    have hwrite : ∀ p : SpeakerPrototype R V, Paired (Alike apart)
        (updateSpeaker id fun s => { s with prototype := some p })
        (updateSpeaker id fun s => { s with prototype := some p }) := fun p =>
      paired_updateSpeaker (fun _ _ h => ⟨h.keyed, h.keyed', h.pointer, h.marks, h.cluster,
        h.settled, fun hnot => ⟨(h.evidence hnot).1, rfl⟩⟩) (by intros; rfl)
    cases s.prototype with
    | none =>
      exact paired_ofExcept_bind _ (fun p _ => paired_bind (hwrite p) (fun _ _ => paired_pure _ _))
        st st' h
    | some current =>
      refine (paired_updateSpeaker (fun _ _ h => ?_) (by intros; rfl) st st' h).bind (fun _ _ => ?_)
      · exact ⟨h.keyed, h.keyed', h.pointer, h.marks, h.cluster, h.settled, h.evidence⟩
      · exact paired_ofExcept_bind _ (fun p _ =>
          paired_bind (hwrite p) (fun _ _ => paired_pure _ _))

/-- **The same update**, whose gate looks at what is alike. -/
theorem Alike.gatedUpdate (h : Alike apart st st') (id : String) (e : SpeakerEmbedding R V)
    (hgate : ∀ s s', Twins True s.sessionSpeakerId s s' → gate' st' s' = gate st s) :
    Alike apart (gatedUpdate gate id e st).2 (gatedUpdate gate' id e st').2 := by
  refine h.onSpeaker id (fun _ hget hget' => ?_) (fun s hget => touches_gatedUpdate hget)
    (fun s hget => touches_gatedUpdate hget) (fun s s' hget hget' htwins hid => ?_)
  · unfold SessionSpeakerState.gatedUpdate
    rw [read_bind, read_bind, hget, hget']
    exact ⟨rfl, rfl⟩
  · unfold SessionSpeakerState.gatedUpdate
    rw [read_bind, read_bind, hget, hget', ofExcept_ok_bind, ofExcept_ok_bind,
      hgate s s' htwins, htwins.keyed']
    cases gate st s with
    | some reason => exact h
    | none => exact (paired_setPrototype hid e st st' h).state

end Evidence

/-! ## The other calls -/

/-- **Registering a speaker in both sessions.** -/
theorem paired_register (htwins : Twins True s.sessionSpeakerId s s') :
    Paired (Alike apart) (register s) (register s') := by
  intro st st' h
  refine pairedAt_read_bind ?_
  have hregistered : (st'.speakers s.sessionSpeakerId).isSome
      = (st.speakers s.sessionSpeakerId).isSome := by
    rcases (h.speakers s.sessionSpeakerId).elim with ⟨hs, hs'⟩ | ⟨_, _, hs, hs', -⟩ <;> rw [hs, hs']
    rfl
  rw [htwins.keyed', hregistered]
  split
  · exact paired_throw _ _ st st' h
  · next hnew =>
    refine ⟨?_, rfl⟩
    refine ⟨h.config, h.version, ?_, h.sink, fun k => ?_, fun k hk => ?_⟩
    · show st'.order ++ [s'.sessionSpeakerId] = st.order ++ [s.sessionSpeakerId]
      rw [h.order, htwins.keyed']
    · show Option.Rel _ (Function.update st.speakers s.sessionSpeakerId (some s) k)
        (Function.update st'.speakers s'.sessionSpeakerId (some s') k)
      rw [htwins.keyed', Function.update_apply, Function.update_apply]
      split
      · next hk => exact .some (hk ▸ htwins.mono (fun _ => True.intro))
      · exact h.speakers k
    · obtain ⟨r, hr, hcluster⟩ := h.apart k hk
      have hne : k ≠ s.sessionSpeakerId := by
        rintro rfl
        rw [hr] at hnew
        exact hnew rfl
      exact ⟨r, (Function.update_of_ne hne _ _).trans hr, hcluster⟩

theorem paired_createSessionSpeaker (ulid : String) (clusterId label : Option String) :
    Paired (Alike (R := R) (V := V) apart) (createSessionSpeaker ulid clusterId label)
      (createSessionSpeaker ulid clusterId label) := by
  intro st st' h
  refine pairedAt_read_bind ?_
  rw [h.config, h.activeSpeakerCount]
  split
  · exact paired_throw _ _ st st' h
  · refine paired_bind (paired_modify (fun _ _ h => h.of_eq ⟨rfl, rfl, rfl, rfl, rfl⟩
      ⟨rfl, rfl, rfl, rfl, rfl⟩)) (fun _ _ =>
        paired_ofExcept_bind _ (fun machine hnew => ?_)) st st' h
    cases hnew
    refine paired_bind (paired_register ?_) (fun _ _ => paired_pure _ _)
    exact ⟨rfl, rfl, rfl, rfl, rfl, fun _ => ⟨nofun, nofun⟩, fun _ => ⟨rfl, rfl⟩⟩

theorem paired_createTemporarySpeaker (ulid : String) :
    Paired (Alike (R := R) (V := V) apart) (createTemporarySpeaker ulid)
      (createTemporarySpeaker ulid) := by
  intro st st' h
  refine pairedAt_read_bind ?_
  unfold canAdmitSpeaker
  rw [h.config, h.activeSpeakerCount]
  split
  · exact paired_throw _ _ st st' h
  · refine paired_bind (paired_modify (fun _ _ h => h.of_eq ⟨rfl, rfl, rfl, rfl, rfl⟩
      ⟨rfl, rfl, rfl, rfl, rfl⟩)) (fun _ _ => paired_ofExcept_bind _ (fun machine _ => ?_)) st st' h
    exact paired_bind (paired_register ⟨rfl, rfl, rfl, rfl, rfl, nofun, fun _ => ⟨rfl, rfl⟩⟩)
      (fun _ _ => paired_pure _ _)

theorem paired_ensureClusterSpeaker (ulid clusterId : String) :
    Paired (Alike (R := R) (V := V) apart) (ensureClusterSpeaker ulid clusterId)
      (ensureClusterSpeaker ulid clusterId) := by
  intro st st' h
  refine pairedAt_read_bind ?_
  have hfound := h.byCluster clusterId
  cases hs : st.byCluster clusterId with
  | some s =>
    rw [hs] at hfound
    obtain ⟨s', hs'⟩ := Option.isSome_iff_exists.mp hfound
    rw [hs']
    exact paired_pure _ _ st st' h
  | none =>
    rw [hs, Option.isSome_none, ← Bool.not_eq_true, Option.not_isSome_iff_eq_none] at hfound
    rw [hfound]
    exact paired_createSessionSpeaker _ _ _ st st' h

theorem paired_unattributedSpeaker (ulid : String) :
    Paired (Alike (R := R) (V := V) apart) (unattributedSpeaker ulid)
      (unattributedSpeaker ulid) := by
  intro st st' h
  refine pairedAt_read_bind ?_
  rw [h.sink]
  cases st.unattributedId with
  | some id =>
    dsimp only
    rcases (h.speakers id).elim with ⟨hs, hs'⟩ | ⟨_, _, hs, hs', -⟩
    · rw [hs, hs']
      exact paired_throw _ _ st st' h
    · rw [hs, hs']
      exact paired_pure _ _ st st' h
  | none =>
    refine paired_ofExcept_bind _ (fun _ _ => paired_ofExcept_bind _ (fun machine _ => ?_)) st st' h
    refine paired_bind (paired_register ⟨rfl, rfl, rfl, rfl, rfl, nofun, fun _ => ⟨rfl, rfl⟩⟩)
      (fun _ _ => paired_bind (paired_modify (fun _ _ h => ?_)) (fun _ _ => paired_pure _ _))
    exact ⟨h.config, h.version, h.order, rfl, h.speakers, h.apart⟩

theorem paired_drainLabelChanges :
    Paired (Alike (R := R) (V := V) apart) drainLabelChanges drainLabelChanges := by
  intro st st' h
  refine pairedAt_read_bind ?_
  exact paired_bind (paired_modify (fun _ _ h => h.of_eq ⟨rfl, rfl, rfl, rfl, rfl⟩
    ⟨rfl, rfl, rfl, rfl, rfl⟩)) (fun _ _ => paired_pure _ _) st st' h

/-- **Marking whom two ids stand for.** -/
theorem paired_addCannotLink (a b : String) :
    Paired (Alike (R := R) (V := V) apart) (addCannotLink a b) (addCannotLink a b) := by
  intro st st' h
  have hmark : ∀ id k : String, Paired (Alike (R := R) (V := V) apart)
      (updateSpeaker id fun s => { s with cannotLink := insert k s.cannotLink })
      (updateSpeaker id fun s => { s with cannotLink := insert k s.cannotLink }) := fun id k =>
    paired_updateSpeaker (fun _ _ h => ⟨h.keyed, h.keyed', h.pointer,
      congrArg (insert k) h.marks, h.cluster, h.settled, h.evidence⟩) (by intros; rfl)
  refine pairedAt_read_bind (pairedAt_ofExcept_bind h ?_)
  rcases h.get a with ⟨e, hget, hget'⟩ | ⟨s, s', hget, hget', -, -, -, htwins⟩
  · exact Or.inl ⟨e, e, hget, hget'⟩
  refine Or.inr ⟨s, s', hget, hget', pairedAt_ofExcept_bind h ?_⟩
  rcases h.get b with ⟨e, hget, hget'⟩ | ⟨r, r', hget, hget', -, -, -, hrtwins⟩
  · exact Or.inl ⟨e, e, hget, hget'⟩
  refine Or.inr ⟨r, r', hget, hget', ?_⟩
  rw [htwins.keyed', hrtwins.keyed']
  split
  · exact paired_pure _ _ st st' h
  · exact paired_bind (hmark _ _) (fun _ _ => hmark _ _) st st' h

/-! ### Giving up the unresolved -/

/-- A speaker that was not merged stands for itself. -/
theorem get_of_active (hs : st.speakers id = some s) (hroot : s.mergedInto = none) :
    st.get id = .ok s := by
  unfold SessionSpeakerState.get
  rw [resolve, hs]
  dsimp only
  rw [hroot]

/-- **What is made of a speaker at the end** touches its record, and nothing is
raised. -/
theorem touches_finalizeSpeaker (hs : st.speakers id = some s) (hid : s.sessionSpeakerId = id)
    (hroot : s.mergedInto = none) :
    Touches id st (finalizeSpeaker id st).2 ∧ (finalizeSpeaker id st).1.isOk = true := by
  have hget := get_of_active hs hroot
  subst hid
  unfold finalizeSpeaker
  rw [read_bind, hs]
  dsimp only
  split
  · exact ⟨Std.Refl.refl st, rfl⟩
  · next hstate =>
    rw [not_not] at hstate
    split
    · rw [bind_of_ok (transition_of_can hs (by rw [hstate]; decide) _)]
      exact ⟨touches_assign (fun _ => ⟨rfl, rfl, rfl, rfl, fun _ => nofun⟩), rfl⟩
    · split
      · have htouch := touches_promoteProvisional hget "separated_evidence_final" none
        have hok : ∃ change, (promoteProvisional s.sessionSpeakerId "separated_evidence_final" none
            st).1 = .ok change := by
          unfold promoteProvisional
          rw [read_bind, hget, ofExcept_ok_bind, if_neg (not_not.mpr hstate),
            bind_of_ok (transition_of_can hs (by rw [hstate]; decide) _)]
          exact ⟨_, rfl⟩
        obtain ⟨change, hchange⟩ := hok
        rw [bind_of_ok (Prod.ext hchange rfl)]
        exact ⟨htouch, rfl⟩
      · exact ⟨Std.Refl.refl st, rfl⟩

theorem pairedAt_finalizeSpeaker (h : Alike apart st st') (hroot : st.parentOf id = none) :
    PairedAt (Alike apart) (finalizeSpeaker id) (finalizeSpeaker id) st st' := by
  rcases (h.speakers id).elim with ⟨hs, hs'⟩ | ⟨s, s', hs, hs', htwins⟩
  · refine pairedAt_read_bind ?_
    rw [hs, hs']
    exact paired_throw _ _ st st' h
  · have hactive : s.mergedInto = none := (parentOf_of_speaker hs).symm.trans hroot
    have hactive' : s'.mergedInto = none := htwins.pointer.trans hactive
    by_cases hid : id ∈ apart
    · obtain ⟨htouch, hok⟩ := touches_finalizeSpeaker hs htwins.keyed hactive
      obtain ⟨htouch', hok'⟩ := touches_finalizeSpeaker hs' htwins.keyed' hactive'
      exact ⟨h.touches hid htouch htouch', hok'.trans hok.symm⟩
    · have hget := get_of_active hs hactive
      have hget' := get_of_active hs' hactive'
      have hkeyed := htwins.keyed
      subst hkeyed
      refine pairedAt_read_bind ?_
      rw [hs, hs']
      dsimp only
      rw [(htwins.evidence hid).1, (htwins.evidence hid).2, h.config]
      split
      · exact paired_pure _ _ st st' h
      · split
        · exact paired_bind (paired_transition hid (by decide) _) (fun _ _ => paired_pure _ _)
            st st' h
        · split
          · exact (pairedAt_promoteProvisional h hget hget' (htwins.mono (fun _ => hid)) hid _
              _).bind (fun _ _ => paired_pure _ _)
          · exact paired_pure _ _ st st' h

/-- **Giving up the unresolved** in both sessions. -/
theorem Alike.finalizeUnresolved (h : Alike apart st st') (hst : st.WellFormed) :
    Alike apart (finalizeUnresolved st).2 (finalizeUnresolved st').2 := by
  -- the pointers stay what they are while the speakers are gone through
  let Both : SessionSpeakerState R V → SessionSpeakerState R V → Prop := fun t t' =>
    Alike apart t t' ∧ t.WellFormed ∧ t.parentOf = st.parentOf
  have hids : st'.active.map SessionSpeaker.sessionSpeakerId
      = st.active.map SessionSpeaker.sessionSpeakerId := by
    have hactive := h.active
    generalize st.active = xs at hactive ⊢
    generalize st'.active = ys at hactive ⊢
    induction hactive with
    | nil => rfl
    | cons htwins _ ih => rw [List.map_cons, List.map_cons, htwins.keyed', ih]
  have hbody : ∀ id ∈ st.active.map SessionSpeaker.sessionSpeakerId,
      Paired Both (finalizeSpeaker id) (finalizeSpeaker id) := by
    rintro id hid t t' ⟨ht, hwf, hparent⟩
    obtain ⟨s, hs, rfl⟩ := List.mem_map.mp hid
    obtain ⟨hrecord, hroot⟩ := hst.mem_active.mp hs
    have hpair := pairedAt_finalizeSpeaker ht
      ((congrFun hparent s.sessionSpeakerId).trans ((parentOf_of_speaker hrecord).trans hroot))
    obtain ⟨hwf', hquiet⟩ := within_finalizeSpeaker s.sessionSpeakerId t hwf
    exact ⟨⟨hpair.state, hwf', hquiet.parent.trans hparent⟩, hpair.outcome⟩
  have hloop := paired_mapEach hbody st st' ⟨h, hst, rfl⟩
  unfold SessionSpeakerState.finalizeUnresolved
  rw [read_bind, read_bind, hids]
  exact (hloop.bind (fun _ _ => paired_pure _ _)).state.1

/-! ### Merging -/

theorem Alike.canMerge (h : Alike apart st st') (a b : String) :
    st'.canMerge a b = st.canMerge a b := by
  unfold SessionSpeakerState.canMerge
  rcases h.get a with ⟨e, hget, hget'⟩ | ⟨s, s', hget, hget', -, -, -, htwins⟩
  · rw [hget, hget']
    rfl
  · rcases h.get b with ⟨e, hgetb, hgetb'⟩ | ⟨r, r', hgetb, hgetb', -, -, -, hrtwins⟩
    · rw [hget, hget', hgetb, hgetb']
      rfl
    · rw [hget, hget', hgetb, hgetb']
      show (if s'.sessionSpeakerId = r'.sessionSpeakerId then _ else _) = _
      rw [htwins.keyed', hrtwins.keyed', htwins.marks]
      rfl

theorem within_mergeTransitions_touches (s : SessionSpeaker R V) (reason : String) :
    Within (Touches s.sessionSpeakerId) (mergeTransitions s reason) :=
  within_mergeTransitions_of (fun _ h => within_transition_touches
    (fun hstate => by rw [hstate] at h; revert h; decide) _)

theorem pairedAt_mergeTransitions (h : Alike apart st st')
    (hs : st.speakers s.sessionSpeakerId = some s) (hs' : st'.speakers s.sessionSpeakerId = some s')
    (htwins : Twins (s.sessionSpeakerId ∉ apart) s.sessionSpeakerId s s') (reason : String) :
    PairedAt (Alike apart) (mergeTransitions s reason) (mergeTransitions s' reason) st st' := by
  by_cases hid : s.sessionSpeakerId ∈ apart
  · rw [← htwins.keyed'] at hs'
    obtain ⟨_, hok, -⟩ := mergeTransitions_spec hs reason
    obtain ⟨_, hok', -⟩ := mergeTransitions_spec hs' reason
    refine ⟨h.touches hid (within_mergeTransitions_touches s reason st)
      (htwins.keyed' ▸ within_mergeTransitions_touches s' reason st'), ?_⟩
    rw [hok, hok']
  · unfold mergeTransitions
    rw [(htwins.evidence hid).1, htwins.keyed']
    split
    · exact paired_bind (paired_transition hid (by decide) _)
        (fun _ _ => paired_transition hid (by decide) _) st st' h
    · split
      · exact paired_transition hid (by decide) _ st st' h
      · exact paired_pure _ _ st st' h

/-- **Merging whom two ids stand for.** A target without a prototype takes over that
of its source, and so has to be in the set if its source is. -/
theorem Alike.merge (h : Alike apart st st') (a b reason : String)
    (htakes : ∀ source target, st.get a = .ok source → st.get b = .ok target →
      MergeAllowed source target → source.sessionSpeakerId ∈ apart → target.prototype = none →
        target.sessionSpeakerId ∈ apart) :
    Alike apart (merge a b reason st).2 (merge a b reason st').2 := by
  suffices hpair : PairedAt (Alike apart) (SessionSpeakerState.merge a b reason)
      (SessionSpeakerState.merge a b reason) st st' from hpair.state
  refine pairedAt_read_bind (pairedAt_ofExcept_bind h ?_)
  rcases h.get a with ⟨e, hget, hget'⟩ | ⟨s, s', hget, hget', hs, hs', hroot, htwins⟩
  · exact Or.inl ⟨e, e, hget, hget'⟩
  refine Or.inr ⟨s, s', hget, hget', pairedAt_ofExcept_bind h ?_⟩
  rcases h.get b with ⟨e, hgetb, hgetb'⟩ | ⟨r, r', hgetb, hgetb', hr, -, hrroot, hrtwins⟩
  · exact Or.inl ⟨e, e, hgetb, hgetb'⟩
  refine Or.inr ⟨r, r', hgetb, hgetb', ?_⟩
  rw [h.canMerge, htwins.keyed', hrtwins.keyed']
  refine pairedAt_ofExcept_bind h ?_
  cases hallow : st.canMerge s.sessionSpeakerId r.sessionSpeakerId with
  | error e => exact Or.inl ⟨e, e, rfl, rfl⟩
  | ok allowed =>
    refine Or.inr ⟨allowed, allowed, rfl, rfl, ?_⟩
    split
    · exact paired_throw _ _ st st' h
    · next hyes =>
      have hallowed : MergeAllowed s r := by
        rw [canMerge_of_get (get_of_active hs hroot) (get_of_active hr hrroot)] at hallow
        cases hallow
        rw [Bool.not_not_eq, decide_eq_true_eq] at hyes
        exact hyes
      have hne : r.sessionSpeakerId ≠ s.sessionSpeakerId := hallowed.1.symm
      have htransitions := pairedAt_mergeTransitions h hs hs' htwins reason
      have hkeep : PairedAt (fun u v => Alike apart u v ∧ u.speakers r.sessionSpeakerId = some r)
          (mergeTransitions s reason) (mergeTransitions s' reason) st st' :=
        ⟨⟨htransitions.state, ((within_mergeTransitions_touches s reason st).others _ hne).trans
          hr⟩,
          htransitions.outcome⟩
      refine hkeep.bind_of (fun _ _ u v huv => ?_) (fun _ _ huv => huv.1)
      have hproto : PairedAt (Alike apart)
          (updateSpeaker r.sessionSpeakerId fun t =>
            { t with prototype := t.prototype <|> s.prototype })
          (updateSpeaker r.sessionSpeakerId fun t =>
            { t with prototype := t.prototype <|> s'.prototype }) u v := by
        refine ⟨huv.1.assign (fun t t' ht h => ?_) (by intros; rfl), rfl⟩
        refine ⟨h.keyed, h.keyed', h.pointer, h.marks, h.cluster, h.settled, fun hnot => ?_⟩
        obtain ⟨hstate, hprototype⟩ := h.evidence hnot
        refine ⟨hstate, ?_⟩
        rw [huv.2] at ht
        cases ht
        show (t'.prototype <|> s'.prototype) = (r.prototype <|> s.prototype)
        rw [hprototype]
        cases hnone : r.prototype with
        | some p => rfl
        | none =>
          have hid : s.sessionSpeakerId ∉ apart := fun hin =>
            hnot (htakes s r hget hgetb hallowed hin hnone)
          exact (htwins.evidence hid).2
      refine hproto.bind (fun _ _ => ?_)
      refine paired_bind (paired_updateSpeaker (fun _ _ h => ?_) (by intros; rfl)) (fun _ _ => ?_)
      · exact ⟨h.keyed, h.keyed', rfl, h.marks, h.cluster, h.settled, h.evidence⟩
      refine paired_bind (paired_updateSpeaker (fun _ _ h => ?_) (by intros; rfl)) (fun _ _ => ?_)
      · refine ⟨h.keyed, h.keyed', h.pointer, ?_, h.cluster, h.settled, h.evidence⟩
        show _ ∪ _ = _ ∪ _
        rw [h.marks, htwins.marks]
      refine paired_bind (paired_updateSpeaker (fun _ _ h => ?_) (by intros; rfl)) (fun _ _ => ?_)
      · exact ⟨h.keyed, h.keyed', h.pointer, h.marks, h.cluster, h.settled, h.evidence⟩
      exact paired_bind (paired_recordLabelChange _ _) (fun _ _ => paired_pure _ _)

end SessionSpeakerState

end Sastt
