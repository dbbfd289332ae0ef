import Sastt.Application.SessionInvariants

/-!
# What each method of the session state does

One lemma for each method, so that nothing later unfolds one. The methods
that create, label, promote and identify speakers, and those that build
prototypes, stay inside the frame `Keeps` whether they return or raise.
Marking and merging are given by their effect on pointers and marks.

A merge that raises leaves the state as it found it: all its checks come
before its first assignment, and neither transition it makes can fail.
-/

namespace Sastt

variable {R V : Type} [Field R] [LinearOrder R] [IsStrictOrderedRing R]

namespace SessionSpeakerState

open Method

variable {st : SessionSpeakerState R V} {id : String} {s : SessionSpeaker R V}

/-! ## Registering a speaker -/

section Register

/-- A speaker with a fresh id is registered. -/
theorem register_of_fresh (hfresh : st.speakers s.sessionSpeakerId = none) :
    register s st = (.ok (), st.insertSpeaker s) := by
  unfold register
  rw [read_bind, hfresh]
  rfl

/-- An id that is in use is not registered again. -/
theorem register_of_used (hused : st.speakers s.sessionSpeakerId ≠ none) :
    register s st = (.error (.sastt .invalidStateTransition
      "session speaker IDs are never reused (spec 5.7)" []), st) := by
  unfold register
  rw [read_bind, if_pos (Option.ne_none_iff_isSome.mp hused)]
  rfl

/-- A record that is there stays, -/
theorem speakers_insertSpeaker {t : SessionSpeaker R V}
    (hfresh : st.speakers s.sessionSpeakerId = none) (ht : st.speakers id = some t) :
    (st.insertSpeaker s).speakers id = some t := by
  have hne : id ≠ s.sessionSpeakerId := by
    rintro rfl
    cases hfresh.symm.trans ht
  exact (Function.update_of_ne hne _ _).trans ht

/-- and one that was not there is the one that is registered. -/
theorem eq_of_insertSpeaker {t : SessionSpeaker R V} (hn : st.speakers id = none)
    (ht : (st.insertSpeaker s).speakers id = some t) : s = t := by
  replace ht : Function.update st.speakers s.sessionSpeakerId (some s) id = some t := ht
  rw [Function.update_apply] at ht
  split at ht
  · exact Option.some.inj ht
  · cases hn.symm.trans ht

theorem registered_insertSpeaker_self (st : SessionSpeakerState R V) (s : SessionSpeaker R V) :
    (st.insertSpeaker s).Registered s.sessionSpeakerId :=
  Option.isSome_iff_exists.mpr ⟨s, Function.update_self _ _ _⟩

variable {K : SessionSpeakerState R V → SessionSpeakerState R V → Prop} [Std.Refl K]

/-- **What registering keeps** is what one more record keeps. -/
theorem within_register_of (h : ∀ st : SessionSpeakerState R V,
    st.speakers s.sessionSpeakerId = none → K st (st.insertSpeaker s)) :
    Within K (register s) := by
  intro st
  by_cases hfresh : st.speakers s.sessionSpeakerId = none
  · rw [register_of_fresh hfresh]
    exact h st hfresh
  · rw [register_of_used hfresh]
    exact Std.Refl.refl st

/-- **What admitting a speaker keeps**: what counting one and registering it keep. -/
theorem within_createSessionSpeaker_of [IsTrans _ K] {ulid : String} {clusterId : Option String}
    (label : Option String)
    (hcount : ∀ st : SessionSpeakerState R V, K st { st with labelCounter := st.labelCounter + 1 })
    (hregister : ∀ displayLabel, Within K (register
      ⟨"sess_spk_" ++ ulid, ⟨.sessionAnonymous, []⟩, displayLabel, clusterId, none, none, none, [],
        none, ∅⟩)) :
    Within K (createSessionSpeaker ulid clusterId label) := by
  refine within_bind within_read (fun st => ?_)
  split
  · exact within_throw _
  · exact within_bind (within_modify hcount) (fun _ =>
      within_ofExcept_ok_bind (within_bind (hregister _) (fun _ => within_pure _)))

theorem within_createTemporarySpeaker_of [IsTrans _ K] {ulid : String}
    (hcount : ∀ st : SessionSpeakerState R V,
      K st { st with temporaryCounter := st.temporaryCounter + 1 })
    (hregister : ∀ n, Within K (register ⟨"sess_spk_" ++ ulid, ⟨.provisional, []⟩,
      temporaryLabel n, none, none, none, none, [], none, ∅⟩)) :
    Within K (createTemporarySpeaker ulid) := by
  refine within_bind within_read (fun st => ?_)
  split
  · exact within_throw _
  · exact within_bind (within_modify hcount) (fun _ =>
      within_ofExcept_ok_bind (within_bind (hregister _) (fun _ => within_pure _)))

/-- The sink: a speaker without evidence. -/
def sinkSpeaker (ulid : String) : SessionSpeaker R V where
  sessionSpeakerId := "sess_spk_" ++ ulid
  machine := SpeakerIdentityStateMachine.move ⟨.provisional, []⟩ .unknown "insufficient_evidence"
  displayLabel := UNATTRIBUTED_LABEL

/-- **Asking for the sink when there is none** registers one and records it,
unless its id was used before. -/
theorem unattributedSpeaker_new (hnone : st.unattributedId = none) (ulid : String) :
    (st.speakers ("sess_spk_" ++ ulid) ≠ none
        ∧ ∃ e, unattributedSpeaker ulid st = (.error e, st))
      ∨ (st.speakers ("sess_spk_" ++ ulid) = none
        ∧ unattributedSpeaker ulid st = (.ok (sinkSpeaker ulid),
          { (st.insertSpeaker (sinkSpeaker ulid)) with
            unattributedId := some ("sess_spk_" ++ ulid) })) := by
  unfold unattributedSpeaker
  rw [read_bind, hnone]
  dsimp only
  rw [SpeakerIdentityStateMachine.new, if_pos (by decide), ofExcept_ok_bind,
    SpeakerIdentityStateMachine.transition_of_can (by decide), ofExcept_ok_bind]
  by_cases hused : st.speakers ("sess_spk_" ++ ulid) = none
  · exact Or.inr ⟨hused, bind_of_ok (register_of_fresh (s := sinkSpeaker ulid) hused)⟩
  · exact Or.inl ⟨hused, _, bind_of_error (register_of_used (s := sinkSpeaker ulid) hused)⟩

/-- Asking for the sink when there is one changes nothing. -/
theorem unattributedSpeaker_again (hsink : st.unattributedId = some id) (ulid : String) :
    unattributedSpeaker ulid st = ((st.speakers id).elim (.error (.keyError id)) .ok, st) := by
  unfold unattributedSpeaker
  rw [read_bind, hsink]
  dsimp only
  cases st.speakers id with
  | some sink => rfl
  | none => rfl

/-- **What asking for the sink keeps** is what one keeps that is registered and
recorded as the sink. -/
theorem within_unattributedSpeaker_of (ulid : String) (h : ∀ st : SessionSpeakerState R V,
    st.unattributedId = none → st.speakers ("sess_spk_" ++ ulid) = none →
    K st { (st.insertSpeaker (sinkSpeaker ulid)) with
      unattributedId := some ("sess_spk_" ++ ulid) }) :
    Within K (unattributedSpeaker ulid) := by
  intro st
  cases hsink : st.unattributedId with
  | some id =>
    rw [unattributedSpeaker_again hsink]
    exact Std.Refl.refl st
  | none =>
    rcases unattributedSpeaker_new hsink ulid with ⟨-, e, he⟩ | ⟨hfresh, hok⟩
    · rw [he]
      exact Std.Refl.refl st
    · rw [hok]
      exact h st hsink hfresh

end Register

/-! ## What a method keeps -/

/-! Each method keeps what its writes keep. -/

section Rules

variable {K : SessionSpeakerState R V → SessionSpeakerState R V → Prop} [Std.Refl K] [IsTrans _ K]

theorem within_ensureClusterSpeaker_of {ulid clusterId : String}
    (h : Within K (createSessionSpeaker ulid (some clusterId) none)) :
    Within K (ensureClusterSpeaker ulid clusterId) := by
  refine within_bind within_read (fun st => ?_)
  split
  · exact within_pure _
  · exact h

theorem within_relabel_of {speaker : SessionSpeaker R V} {newLabel reason : String}
    (hlabel : Within K (updateSpeaker speaker.sessionSpeakerId
      fun s => { s with displayLabel := newLabel }))
    (hrecord : ∀ change, Within K (recordLabelChange change)) :
    Within K (relabel speaker newLabel reason) :=
  within_bind hlabel (fun _ => within_bind (hrecord _) (fun _ => within_pure _))

theorem within_addCannotLink_of (hmark : ∀ id other : String, Within K (updateSpeaker id
      fun s : SessionSpeaker R V => { s with cannotLink := insert other s.cannotLink }))
    (a b : String) : Within K (addCannotLink a b) := by
  refine within_bind within_read (fun st => within_bind (within_ofExcept _) (fun _ =>
    within_bind (within_ofExcept _) (fun _ => ?_)))
  split
  · exact within_pure _
  · exact within_bind (hmark _ _) (fun _ => hmark _ _)

theorem within_promoteProvisional_of
    (htransition : ∀ id reason, Within K (transition id .sessionAnonymous reason))
    (hcount : ∀ st : SessionSpeakerState R V, K st { st with labelCounter := st.labelCounter + 1 })
    (hrelabel : ∀ speaker newLabel reason, Within K (relabel speaker newLabel reason))
    (id reason : String) (label : Option String) :
    Within K (promoteProvisional id reason label) := by
  refine within_bind within_read (fun st => within_bind (within_ofExcept _) (fun speaker => ?_))
  split
  · exact within_pure _
  · refine within_bind (htransition _ _) (fun _ => ?_)
    split
    · exact within_bind (hrelabel _ _ _) (fun _ => within_pure _)
    · exact within_bind (within_modify hcount)
        (fun _ => within_bind (hrelabel _ _ _) (fun _ => within_pure _))

theorem within_finalizeSpeaker_of (htransition : ∀ reason, Within K (transition id .unknown reason))
    (hpromote : ∀ reason label, Within K (promoteProvisional id reason label)) :
    Within K (finalizeSpeaker id) := by
  refine within_bind within_read (fun st => ?_)
  split
  · exact within_throw _
  · split
    · exact within_pure _
    · split
      · exact within_bind (htransition _) (fun _ => within_pure _)
      · split
        · exact within_bind (hpromote _ _) (fun _ => within_pure _)
        · exact within_pure _

theorem within_finalizeUnresolved_of (h : ∀ id, Within K (finalizeSpeaker id)) :
    Within K finalizeUnresolved :=
  within_bind within_read (fun _ => within_bind (within_mapEach (fun id _ => h id))
    (fun _ => within_pure _))

theorem within_drainLabelChanges_of
    (h : ∀ st : SessionSpeakerState R V, K st { st with pendingLabelChanges := [] }) :
    Within K drainLabelChanges :=
  within_bind within_read (fun _ => within_bind (within_modify h) (fun _ => within_pure _))

theorem within_mergeTransitions_of {source : SessionSpeaker R V} {reason : String}
    (h : ∀ toState ∈ [IdentityState.sessionAnonymous, .merged],
      Within K (transition source.sessionSpeakerId toState reason)) :
    Within K (mergeTransitions source reason) := by
  have hmerged := h .merged (by decide)
  unfold mergeTransitions
  split
  · exact within_bind (h .sessionAnonymous (by decide)) (fun _ => hmerged)
  · split
    · exact hmerged
    · exact within_pure _

theorem within_setPrototype_of [AddCommGroup V] [Module R V] [EmbeddingSpace R V]
    (hprototype : ∀ p, Within K (updateSpeaker id fun s => { s with prototype := some p }))
    (hhistory : ∀ p, Within K (updateSpeaker id
      fun s => { s with prototypeHistory := s.prototypeHistory ++ [p] }))
    (e : SpeakerEmbedding R V) : Within K (setPrototype id e) := by
  refine within_bind within_read (fun st => ?_)
  split
  · exact within_throw _
  · split
    · exact within_bind (within_ofExcept _) (fun _ => within_bind (hprototype _)
        (fun _ => within_pure _))
    · exact within_bind (hhistory _) (fun _ => within_bind (within_ofExcept _)
        (fun _ => within_bind (hprototype _) (fun _ => within_pure _)))

end Rules

/-! ## The quiet methods -/

section Frames

/-- Labels and counters are read by nothing the invariant speaks of. -/
theorem keeps_counters (st : SessionSpeakerState R V) (changes : List LabelChange)
    (temporary label : ℕ) :
    Keeps st { st with
      pendingLabelChanges := changes
      temporaryCounter := temporary
      labelCounter := label } := by
  intro h
  refine ⟨⟨h.ends, h.mem_order, h.nodup, fun id s hs => ?_, h.sink⟩,
    ⟨⟨fun _ hid => hid, rfl, rfl⟩, rfl, rfl⟩⟩
  have hok := h.speaker id s hs
  exact ⟨hok.keyed, hok.target, hok.weight, hok.version, hok.key⟩

theorem within_updateSpeaker {f : SessionSpeaker R V → SessionSpeaker R V}
    (hid : ∀ s, (f s).sessionSpeakerId = s.sessionSpeakerId)
    (hm : ∀ s, (f s).mergedInto = s.mergedInto) (hc : ∀ s, (f s).cannotLink = s.cannotLink)
    (hp : ∀ s, (f s).prototype = s.prototype) : Within Keeps (updateSpeaker id f) :=
  fun _ h => h.assign hid hm hc
    (fun s hs _ hsp => h.prototype_ok hs ((hp s).symm.trans hsp))

theorem within_transition (id : String) (toState : IdentityState) (reason : String) :
    Within Keeps (transition (R := R) (V := V) id toState reason) := by
  refine within_bind within_read (fun st => ?_)
  split
  · exact within_throw _
  · exact within_bind (within_ofExcept _)
      (fun _ => within_updateSpeaker (fun _ => rfl) (fun _ => rfl) (fun _ => rfl) (fun _ => rfl))

theorem within_recordLabelChange (change : LabelChange) :
    Within Keeps (recordLabelChange (R := R) (V := V) change) :=
  fun st => keeps_counters st (st.pendingLabelChanges ++ [change]) st.temporaryCounter
    st.labelCounter

theorem within_register (hm : s.mergedInto = none) (hc : s.cannotLink = ∅)
    (hp : s.prototype = none) : Within Keeps (register s) :=
  within_register_of (fun _ hfresh h =>
    h.insertSpeaker (Option.not_isSome_iff_eq_none.mpr hfresh) hm hc hp)

theorem within_createSessionSpeaker (ulid : String) (clusterId label : Option String) :
    Within Keeps (createSessionSpeaker (R := R) (V := V) ulid clusterId label) :=
  within_createSessionSpeaker_of label
    (fun st => keeps_counters st st.pendingLabelChanges st.temporaryCounter (st.labelCounter + 1))
    (fun _ => within_register rfl rfl rfl)

theorem within_createTemporarySpeaker (ulid : String) :
    Within Keeps (createTemporarySpeaker (R := R) (V := V) ulid) :=
  within_createTemporarySpeaker_of
    (fun st => keeps_counters st st.pendingLabelChanges (st.temporaryCounter + 1) st.labelCounter)
    (fun _ => within_register rfl rfl rfl)

/-- Making a registered speaker the sink. -/
theorem keeps_sink (hid : st.Registered id) :
    Keeps st { st with unattributedId := some id } := by
  intro h
  refine ⟨⟨h.ends, h.mem_order, h.nodup, fun k s hs => ?_, ?_⟩,
    ⟨⟨fun _ hk => hk, rfl, rfl⟩, rfl, rfl⟩⟩
  · have hok := h.speaker k s hs
    exact ⟨hok.keyed, hok.target, hok.weight, hok.version, hok.key⟩
  · intro k hk
    cases hk
    exact hid

/-- The sink is registered by the time it is recorded as the sink. -/
theorem keeps_sinkSpeaker {ulid : String} (hfresh : st.speakers ("sess_spk_" ++ ulid) = none) :
    Keeps st { (st.insertSpeaker (sinkSpeaker ulid)) with
      unattributedId := some ("sess_spk_" ++ ulid) } := by
  intro h
  have hinsert := h.insertSpeaker (s := sinkSpeaker ulid)
    (Option.not_isSome_iff_eq_none.mpr hfresh) rfl rfl rfl
  have hsink := keeps_sink (registered_insertSpeaker_self st (sinkSpeaker ulid)) hinsert.1
  exact ⟨hsink.1, hinsert.2.trans hsink.2⟩

theorem within_unattributedSpeaker (ulid : String) :
    Within Keeps (unattributedSpeaker (R := R) (V := V) ulid) :=
  within_unattributedSpeaker_of ulid (fun _ _ hfresh => keeps_sinkSpeaker hfresh)

theorem within_ensureClusterSpeaker (ulid clusterId : String) :
    Within Keeps (ensureClusterSpeaker (R := R) (V := V) ulid clusterId) :=
  within_ensureClusterSpeaker_of (within_createSessionSpeaker _ _ _)

theorem within_relabel (speaker : SessionSpeaker R V) (newLabel reason : String) :
    Within Keeps (relabel speaker newLabel reason) :=
  within_relabel_of
    (within_updateSpeaker (fun _ => rfl) (fun _ => rfl) (fun _ => rfl) (fun _ => rfl))
    within_recordLabelChange

theorem within_promoteProvisional (id reason : String) (label : Option String) :
    Within Keeps (promoteProvisional (R := R) (V := V) id reason label) :=
  within_promoteProvisional_of (fun _ _ => within_transition _ _ _)
    (fun st => keeps_counters st st.pendingLabelChanges st.temporaryCounter (st.labelCounter + 1))
    within_relabel id reason label

theorem within_acceptTransition (speaker : SessionSpeaker R V) :
    Within Keeps (acceptTransition speaker) := by
  unfold acceptTransition
  split
  · exact within_transition _ _ _
  · split
    · exact within_transition _ _ _
    · exact within_pure _

theorem within_applyVoiceId (id : String) (decision : VoiceIdDecision R) :
    Within Keeps (applyVoiceId (R := R) (V := V) id decision) := by
  refine within_bind within_read (fun st => within_bind (within_ofExcept _) (fun speaker => ?_))
  split
  · split
    · exact within_throw _
    · refine within_bind (within_acceptTransition _) (fun _ => within_bind ?_ (fun _ => ?_))
      · exact within_updateSpeaker (fun _ => rfl) (fun _ => rfl) (fun _ => rfl) (fun _ => rfl)
      · exact within_bind (within_relabel _ _ _) (fun _ => within_pure _)
  · split
    · exact within_bind (within_transition _ _ _) (fun _ => within_pure _)
    · exact within_pure _
  · exact within_pure _
  · exact within_pure _

theorem within_finalizeSpeaker (id : String) :
    Within Keeps (finalizeSpeaker (R := R) (V := V) id) :=
  within_finalizeSpeaker_of (within_transition id _) (within_promoteProvisional id)

theorem within_finalizeUnresolved : Within Keeps (finalizeUnresolved (R := R) (V := V)) :=
  within_finalizeUnresolved_of within_finalizeSpeaker

theorem within_drainLabelChanges : Within Keeps (drainLabelChanges (R := R) (V := V)) :=
  within_drainLabelChanges_of (fun st => keeps_counters st [] st.temporaryCounter st.labelCounter)

end Frames

/-! ## Marking two speakers -/

section Marking

variable {a b : String} {A B : SessionSpeaker R V}

/-- Writing to the marks leaves everything else of a well-formed state
alone. -/
theorem WellFormed.assign_marks (h : st.WellFormed) (marks : Finset String → Finset String) :
    (st.assign id fun s => { s with cannotLink := marks s.cannotLink }).WellFormed := by
  have hparent : (st.assign id fun s => { s with cannotLink := marks s.cannotLink }).parentOf
      = st.parentOf := parentOf_assign (fun _ => rfl)
  have hends := h.ends.congr hparent (List.Subset.refl _)
  have hroot := rootOf_congr h.ends hends hparent
  refine ⟨hends, fun k => ?_, h.nodup, fun k s hs => ?_, fun k hk => ?_⟩
  · rw [registered_assign]
    exact h.mem_order k
  · rw [speakers_assign, Option.map_eq_some_iff] at hs
    obtain ⟨s₀, hs₀, rfl⟩ := hs
    have hok := h.speaker k s₀ hs₀
    have htarget : ∀ t, s₀.mergedInto = some t →
        (st.assign id fun s => { s with cannotLink := marks s.cannotLink }).Registered t :=
      fun t ht => registered_assign t |>.mpr (hok.target t ht)
    split <;> exact ⟨hok.keyed, htarget, hok.weight, hok.version, hroot ▸ hok.key⟩
  · exact registered_assign k |>.mpr (h.sink k hk)

theorem marksOf_assign_marks (hid : st.Registered id) (marks : Finset String → Finset String) :
    (st.assign id fun s => { s with cannotLink := marks s.cannotLink }).marksOf
      = Function.update st.marksOf id (marks (st.marksOf id)) := by
  obtain ⟨s, hs⟩ := Option.isSome_iff_exists.mp hid
  funext k
  by_cases hk : k = id
  · rw [hk, Function.update_self, marksOf_of_speaker hs]
    unfold marksOf
    rw [speakers_assign, hs]
    simp
  · rw [Function.update_of_ne hk]
    unfold marksOf
    rw [speakers_assign]
    simp only [hk, if_false, Option.map_id']

/-- **Marking two different speakers** marks each with the other's id and
leaves the pointers alone. -/
theorem addCannotLink_spec (h : st.WellFormed) (ha : st.get a = .ok A) (hb : st.get b = .ok B)
    (hne : st.rootOf a ≠ st.rootOf b) :
    ∃ st', addCannotLink a b st = (.ok (), st') ∧ st'.WellFormed
      ∧ st'.parentOf = st.parentOf
      ∧ st'.marksOf = markPair st.marksOf (st.rootOf a) (st.rootOf b)
      ∧ Extends st st' := by
  obtain ⟨hrega, hAs, hA, -⟩ := h.get_eq_ok ha
  obtain ⟨hregb, hBs, hB, -⟩ := h.get_eq_ok hb
  have hregA : st.Registered (st.rootOf a) := Option.isSome_iff_exists.mpr ⟨A, hAs⟩
  have hregB : st.Registered (st.rootOf b) := Option.isSome_iff_exists.mpr ⟨B, hBs⟩
  refine ⟨(st.assign (st.rootOf a) fun s =>
      { s with cannotLink := insert (st.rootOf b) s.cannotLink }).assign (st.rootOf b) fun s =>
      { s with cannotLink := insert (st.rootOf a) s.cannotLink }, ?_, ?_, ?_, ?_, ?_⟩
  · unfold addCannotLink
    rw [read_bind, ha, ofExcept_ok_bind, hb, ofExcept_ok_bind, hA, hB, if_neg hne]
    rfl
  · exact (h.assign_marks (insert (st.rootOf b))).assign_marks (insert (st.rootOf a))
  · refine Eq.trans (parentOf_assign ?_) (parentOf_assign ?_) <;> exact fun _ => rfl
  · rw [marksOf_assign_marks (registered_assign _ |>.mpr hregB) (insert (st.rootOf a)),
      marksOf_assign_marks hregA (insert (st.rootOf b)), Function.update_of_ne hne.symm]
    rfl
  · exact ⟨fun k hk => by rwa [registered_assign, registered_assign], rfl, rfl⟩

/-- Marking a speaker with itself, or an id that stands for nobody, changes
nothing. -/
theorem addCannotLink_same (h : st.WellFormed)
    (hsame : ∀ A B, st.get a = .ok A → st.get b = .ok B → st.rootOf a = st.rootOf b) :
    (addCannotLink a b st).2 = st := by
  unfold addCannotLink
  rw [read_bind]
  rcases ha : st.get a with e | A
  · rfl
  rcases hb : st.get b with e | B
  · rfl
  rw [ofExcept_ok_bind, ofExcept_ok_bind, if_pos]
  · rfl
  · rw [(h.get_eq_ok ha).2.2.1, (h.get_eq_ok hb).2.2.1, hsame A B ha hb]

end Marking

/-! ## Merging two speakers -/

section Merging

variable {source target : SessionSpeaker R V}

/-- The records after `source` has been folded into `target`. -/
def fold (st : SessionSpeakerState R V) (source target : SessionSpeaker R V) :
    SessionSpeakerState R V :=
  ((st.assign target.sessionSpeakerId fun t =>
      { t with prototype := t.prototype <|> source.prototype }).assign
    source.sessionSpeakerId fun s =>
      { s with mergedInto := some target.sessionSpeakerId }).assign
    target.sessionSpeakerId fun t =>
      { t with cannotLink := t.cannotLink ∪ (source.cannotLink \ {target.sessionSpeakerId}) }

theorem registered_fold {k : String} :
    (st.fold source target).Registered k ↔ st.Registered k := by
  unfold fold
  rw [registered_assign, registered_assign, registered_assign]

/-- What folding makes of the record registered under `k`. -/
def foldRecord (source target : SessionSpeaker R V) (k : String) (s : SessionSpeaker R V) :
    SessionSpeaker R V :=
  if k = source.sessionSpeakerId then
    { s with mergedInto := some target.sessionSpeakerId }
  else if k = target.sessionSpeakerId then
    { s with
      prototype := s.prototype <|> source.prototype
      cannotLink := s.cannotLink ∪ (source.cannotLink \ {target.sessionSpeakerId}) }
  else s

theorem speakers_fold (hne : source.sessionSpeakerId ≠ target.sessionSpeakerId) (k : String) :
    (st.fold source target).speakers k = (st.speakers k).map (foldRecord source target k) := by
  unfold fold
  rw [speakers_assign, speakers_assign, speakers_assign, Option.map_map, Option.map_map]
  congr 1
  funext s
  unfold foldRecord
  by_cases hs : k = source.sessionSpeakerId
  · have ht : k ≠ target.sessionSpeakerId := hs ▸ hne
    simp only [Function.comp_apply, if_pos hs, if_neg ht]
  · by_cases ht : k = target.sessionSpeakerId
    · simp only [Function.comp_apply, if_neg hs, if_pos ht]
    · simp only [Function.comp_apply, if_neg hs, if_neg ht]

variable (hs : st.speakers source.sessionSpeakerId = some source)
  (ht : st.speakers target.sessionSpeakerId = some target)
  (hne : source.sessionSpeakerId ≠ target.sessionSpeakerId)

include hs hne in
theorem parentOf_fold : (st.fold source target).parentOf
    = Function.update st.parentOf source.sessionSpeakerId (some target.sessionSpeakerId) := by
  funext k
  unfold parentOf
  rw [speakers_fold hne]
  by_cases hk : k = source.sessionSpeakerId
  · rw [hk, hs, Function.update_self]
    simp [foldRecord]
  · rw [Function.update_of_ne hk]
    rcases st.speakers k with _ | s
    · rfl
    · show (foldRecord source target k s).mergedInto = s.mergedInto
      unfold foldRecord
      rw [if_neg hk]
      split <;> rfl

include hs ht hne in
theorem marksOf_fold : (st.fold source target).marksOf
    = handMarks st.marksOf source.sessionSpeakerId target.sessionSpeakerId := by
  funext k
  unfold handMarks
  by_cases hk : k = target.sessionSpeakerId
  · have hfold : (st.fold source target).speakers target.sessionSpeakerId
        = some (foldRecord source target target.sessionSpeakerId target) := by
      rw [speakers_fold hne, ht]
      rfl
    rw [hk, Function.update_self, marksOf_of_speaker hfold, marksOf_of_speaker ht,
      marksOf_of_speaker hs]
    simp [foldRecord, hne.symm]
  · rw [Function.update_of_ne hk]
    unfold marksOf
    rw [speakers_fold hne]
    rcases st.speakers k with _ | s
    · rfl
    · show (foldRecord source target k s).cannotLink = s.cannotLink
      unfold foldRecord
      rw [if_neg hk]
      split <;> rfl

include hs ht hne in
/-- **Folding one root into another keeps the state well formed**: every
chain gains at most one pointer, and there is one more merged speaker. -/
theorem WellFormed.fold (h : st.WellFormed) (hsm : source.mergedInto = none)
    (htm : target.mergedInto = none) : (st.fold source target).WellFormed := by
  have hsp : st.parentOf source.sessionSpeakerId = none := (parentOf_of_speaker hs).trans hsm
  have htp : st.parentOf target.sessionSpeakerId = none := (parentOf_of_speaker ht).trans htm
  have hparent := parentOf_fold hs hne
  have hmerged : (st.fold source target).mergedIds.card = st.mergedIds.card + 1 := by
    have hmem : source.sessionSpeakerId ∉ st.mergedIds := by
      unfold mergedIds
      rw [Finset.mem_filter, hsp]
      exact fun hc => Bool.false_ne_true hc.2
    rw [← Finset.card_insert_of_notMem hmem]
    congr 1
    ext k
    unfold mergedIds
    rw [Finset.mem_filter, Finset.mem_insert, Finset.mem_filter, hparent,
      Function.update_apply, List.mem_toFinset]
    show k ∈ st.order ∧ _ ↔ _
    by_cases hk : k = source.sessionSpeakerId
    · have hord : k ∈ st.order := by
        rw [h.mem_order, hk]
        exact Option.isSome_iff_exists.mpr ⟨source, hs⟩
      simp [hk, hk ▸ hord]
    · simp [hk]
  let linked := (st.forest h.ends).link source.sessionSpeakerId target.sessionSpeakerId
    hsp htp hne
  have hends : (st.fold source target).Ends := by
    intro k
    rw [hmerged, hparent]
    exact linked.ends k
  have hroot := rootOf_of_linked h.ends hends hsp htp hne hparent
  have hreg : ∀ k, (st.fold source target).Registered k ↔ st.Registered k :=
    fun _ => registered_fold
  have hrs := h.rootOf_of_parent_none hsp
  have hrt := h.rootOf_of_parent_none htp
  refine ⟨hends, fun k => (h.mem_order k).trans (hreg k).symm, h.nodup, ?_,
    fun k hk => (hreg k).mpr (h.sink k hk)⟩
  intro k s' hs'
  rw [speakers_fold hne, Option.map_eq_some_iff] at hs'
  obtain ⟨s, hsk, rfl⟩ := hs'
  have hok := h.speaker k s hsk
  -- a prototype keeps to the tree of its owner, which the fold moves as a whole
  have hkey : ∀ p : SpeakerPrototype R V, st.rootOf p.speakerKey = st.rootOf k →
      (st.fold source target).rootOf p.speakerKey = (st.fold source target).rootOf k := by
    intro p hp
    rw [hroot, hroot, hp]
  unfold foldRecord
  split
  · refine ⟨hok.keyed, ?_, hok.weight, hok.version, fun p hp => hkey p (hok.key p hp)⟩
    rintro t ⟨⟩
    exact (hreg _).mpr (Option.isSome_iff_exists.mpr ⟨target, ht⟩)
  split
  · next hk =>
    have hproto : ∀ p : SpeakerPrototype R V, (s.prototype <|> source.prototype) = some p →
        s.prototype = some p ∨ source.prototype = some p := by
      intro p hp
      rcases hsp' : s.prototype with _ | q
      · rw [hsp'] at hp
        exact Or.inr hp
      · rw [hsp'] at hp
        exact Or.inl hp
    have hsok := h.speaker _ _ hs
    refine ⟨hok.keyed, fun t' ht' => (hreg t').mpr (hok.target t' ht'), ?_, ?_, ?_⟩
    · exact fun p hp => (hproto p hp).elim (hok.weight p) (hsok.weight p)
    · exact fun p hp => (hproto p hp).elim (hok.version p) (hsok.version p)
    · intro p hp
      rcases hproto p hp with hp | hp
      · exact hkey p (hok.key p hp)
      · rw [hroot, hroot, hsok.key p hp, hrs, if_pos rfl, hk, hrt, if_neg hne.symm]
  · exact ⟨hok.keyed, fun t ht => (hreg t).mpr (hok.target t ht), hok.weight, hok.version,
      fun p hp => hkey p (hok.key p hp)⟩

/-- A transition of the diagram succeeds. -/
theorem transition_of_can {toState : IdentityState} (hs : st.speakers id = some s)
    (hcan : toState ∈ s.state.allowedTransitions) (reason : String) :
    transition id toState reason st
      = (.ok (), st.assign id (fun r => r.withMachine (s.machine.move toState reason))) := by
  unfold transition
  rw [read_bind, hs]
  show (ofExcept (s.machine.transition toState reason) >>= _) st = _
  rw [SpeakerIdentityStateMachine.transition_of_can hcan, ofExcept_ok_bind]
  rfl

theorem speakers_assign_self {f : SessionSpeaker R V → SessionSpeaker R V}
    (hs : st.speakers id = some s) : (st.assign id f).speakers id = some (f s) := by
  rw [speakers_assign, hs]
  simp

/-- The machine of a speaker that is merged. Only two states lead on. -/
def mergedMachine (machine : SpeakerIdentityStateMachine) (reason : String) :
    SpeakerIdentityStateMachine :=
  if machine.state = .provisional then
    (machine.move .sessionAnonymous reason).move .merged reason
  else if machine.state = .sessionAnonymous then machine.move .merged reason
  else machine

theorem mergedMachine_provisional {machine : SpeakerIdentityStateMachine}
    (h : machine.state = .provisional) (reason : String) : mergedMachine machine reason
      = (machine.move .sessionAnonymous reason).move .merged reason := if_pos h

theorem mergedMachine_anonymous {machine : SpeakerIdentityStateMachine}
    (h : machine.state = .sessionAnonymous) (reason : String) :
    mergedMachine machine reason = machine.move .merged reason := by
  unfold mergedMachine
  rw [if_neg (by simp [h]), if_pos h]

theorem mergedMachine_other {machine : SpeakerIdentityStateMachine}
    (hp : machine.state ≠ .provisional) (ha : machine.state ≠ .sessionAnonymous)
    (reason : String) : mergedMachine machine reason = machine := by
  unfold mergedMachine
  rw [if_neg hp, if_neg ha]

/-- **The transitions of a merged speaker never fail**, and write to its
machine only. -/
theorem mergeTransitions_spec (hs : st.speakers source.sessionSpeakerId = some source)
    (reason : String) :
    ∃ st', mergeTransitions source reason st = (.ok (), st')
      ∧ (∀ k, k ≠ source.sessionSpeakerId → st'.speakers k = st.speakers k)
      ∧ st'.speakers source.sessionSpeakerId
        = some (source.withMachine (mergedMachine source.machine reason)) := by
  have hother : ∀ (st' : SessionSpeakerState R V) f k, k ≠ source.sessionSpeakerId →
      (st'.assign source.sessionSpeakerId f).speakers k = st'.speakers k :=
    fun st' f k hk => Function.update_of_ne hk _ _
  unfold mergeTransitions
  by_cases hp : source.state = .provisional
  · have hcan : IdentityState.sessionAnonymous ∈ source.state.allowedTransitions := by
      rw [hp]
      decide
    have hs' := speakers_assign_self (f := fun r : SessionSpeaker R V =>
      r.withMachine (source.machine.move .sessionAnonymous reason)) hs
    have hcan' : IdentityState.merged ∈ (source.withMachine
        (source.machine.move .sessionAnonymous reason)).state.allowedTransitions :=
      List.mem_cons_of_mem _ List.mem_cons_self
    rw [if_pos hp, mergedMachine_provisional hp, bind_of_ok (transition_of_can hs hcan reason),
      transition_of_can hs' hcan' reason]
    refine ⟨_, rfl, fun k hk => ?_, ?_⟩
    · rw [hother _ _ k hk, hother _ _ k hk]
    · rw [speakers_assign_self hs']
      rfl
  · rw [if_neg hp]
    by_cases ha : source.state = .sessionAnonymous
    · have hcan : IdentityState.merged ∈ source.state.allowedTransitions := by
        rw [ha]
        decide
      rw [if_pos ha, mergedMachine_anonymous ha, transition_of_can hs hcan reason]
      exact ⟨_, rfl, hother _ _, speakers_assign_self hs⟩
    · rw [if_neg ha, mergedMachine_other hp ha]
      exact ⟨st, rfl, fun _ _ => rfl, hs⟩

theorem within_mergeTransitions (source : SessionSpeaker R V) (reason : String) :
    Within Keeps (mergeTransitions source reason) :=
  within_mergeTransitions_of (fun _ _ => within_transition _ _ _)

variable {a b : String}

/-- A merge the constraints allow, as the marks of its source state them. -/
def MergeAllowed (source target : SessionSpeaker R V) : Prop :=
  source.sessionSpeakerId ≠ target.sessionSpeakerId
    ∧ target.sessionSpeakerId ∉ source.cannotLink

instance (source target : SessionSpeaker R V) : Decidable (MergeAllowed source target) :=
  inferInstanceAs (Decidable (_ ∧ _))

/-- `can_merge` compares the marks of the source with the target's id. -/
theorem canMerge_of_get (ha : st.get a = .ok source) (hb : st.get b = .ok target) :
    st.canMerge a b = .ok (decide (MergeAllowed source target)) := by
  unfold canMerge
  rw [ha, hb]
  show (if source.sessionSpeakerId = target.sessionSpeakerId then _ else _) = _
  by_cases hne : source.sessionSpeakerId = target.sessionSpeakerId
  · rw [if_pos hne, decide_eq_false (fun h => h.1 hne)]
    rfl
  · rw [if_neg hne]
    show Except.ok (decide (target.sessionSpeakerId ∉ source.cannotLink)) = _
    congr 1
    exact decide_eq_decide.mpr ⟨fun h => ⟨hne, h⟩, fun h => h.2⟩

/-- A merge that is not allowed raises, and changes nothing. -/
theorem merge_of_not_allowed (h : st.WellFormed) (ha : st.get a = .ok source)
    (hb : st.get b = .ok target) (hforbid : ¬ MergeAllowed source target) (reason : String) :
    merge a b reason st = (.error (mergeForbidden source target), st) := by
  obtain ⟨-, hs, hsid, hsm⟩ := h.get_eq_ok ha
  obtain ⟨-, ht, htid, htm⟩ := h.get_eq_ok hb
  have hcan := canMerge_of_get (h.get_of_root (h.keyed hs) hsm) (h.get_of_root (h.keyed ht) htm)
  unfold merge
  rw [read_bind, ha, ofExcept_ok_bind, hb, ofExcept_ok_bind, hcan, ofExcept_ok_bind,
    decide_eq_false hforbid]
  rfl

/-- What a merge makes of the record registered under `k`. -/
def mergedRecord (source target : SessionSpeaker R V) (reason k : String)
    (s : SessionSpeaker R V) : SessionSpeaker R V :=
  if k = source.sessionSpeakerId then
    { s with
      machine := mergedMachine s.machine reason
      mergedInto := some target.sessionSpeakerId
      displayLabel := target.displayLabel }
  else if k = target.sessionSpeakerId then
    { s with
      prototype := s.prototype <|> source.prototype
      cannotLink := s.cannotLink ∪ (source.cannotLink \ {target.sessionSpeakerId}) }
  else s

/-- **A merge that is allowed goes through**: the source's root points at
the target's, which is handed its marks. -/
theorem merge_of_allowed (h : st.WellFormed) (ha : st.get a = .ok source)
    (hb : st.get b = .ok target) (hallow : MergeAllowed source target) (reason : String) :
    ∃ change st', merge a b reason st = (.ok change, st') ∧ st'.WellFormed
      ∧ st'.parentOf = Function.update st.parentOf (st.rootOf a) (some (st.rootOf b))
      ∧ st'.marksOf = handMarks st.marksOf (st.rootOf a) (st.rootOf b)
      ∧ Extends st st'
      ∧ ∀ k, st'.speakers k = (st.speakers k).map (mergedRecord source target reason k) := by
  obtain ⟨-, hs, hsid, hsm⟩ := h.get_eq_ok ha
  obtain ⟨-, ht, htid, htm⟩ := h.get_eq_ok hb
  rw [← hsid] at hs ⊢
  rw [← htid] at ht ⊢
  have hcan := canMerge_of_get (h.get_of_root hs hsm) (h.get_of_root ht htm)
  obtain ⟨st₁, hok, hother, hs₁⟩ := mergeTransitions_spec hs reason
  set machine := mergedMachine source.machine reason
  have hkeeps := within_mergeTransitions source reason st h
  rw [hok] at hkeeps
  obtain ⟨h₁, hq⟩ := hkeeps
  have ht₁ : st₁.speakers target.sessionSpeakerId = some target := by
    rw [hother _ hallow.1.symm, ht]
  -- the transitions changed the source's machine, which folding does not read
  have hfold : (st₁.fold (source.withMachine machine) target).WellFormed :=
    WellFormed.fold hs₁ ht₁ hallow.1 h₁ hsm htm
  have hparent : (st₁.fold (source.withMachine machine) target).parentOf
      = Function.update st₁.parentOf source.sessionSpeakerId (some target.sessionSpeakerId) :=
    parentOf_fold hs₁ hallow.1
  have hmarks : (st₁.fold (source.withMachine machine) target).marksOf
      = handMarks st₁.marksOf source.sessionSpeakerId target.sessionSpeakerId :=
    marksOf_fold hs₁ ht₁ hallow.1
  have hlabel : Within Keeps (updateSpeaker source.sessionSpeakerId
      (fun s : SessionSpeaker R V => { s with displayLabel := target.displayLabel }) >>= fun _ =>
      recordLabelChange ⟨source.sessionSpeakerId, source.displayLabel, target.displayLabel,
        reason⟩) :=
    within_bind (within_updateSpeaker (fun _ => rfl) (fun _ => rfl) (fun _ => rfl) (fun _ => rfl))
      (fun _ => within_recordLabelChange _)
  obtain ⟨h₂, hq₂⟩ := hlabel _ hfold
  refine ⟨⟨source.sessionSpeakerId, source.displayLabel, target.displayLabel, reason⟩, _, ?_, h₂,
    ?_, ?_, ?_, fun k => ?_⟩
  · unfold merge
    rw [read_bind, ha, ofExcept_ok_bind, hb, ofExcept_ok_bind, hcan, ofExcept_ok_bind,
      decide_eq_true hallow]
    show (mergeTransitions source reason >>= _) st = _
    rw [bind_of_ok hok]
    rfl
  · rw [hq₂.parent, hparent, hq.parent]
  · rw [hq₂.marks, hmarks, hq.marks]
  · have hext : Extends st₁ (st₁.fold (source.withMachine machine) target) :=
      ⟨fun k hk => registered_fold.mpr hk, rfl, rfl⟩
    exact hq.toExtends.trans (hext.trans hq₂.toExtends)
  · have hrecord : (st₁.fold (source.withMachine machine) target).speakers k
        = (st₁.speakers k).map (foldRecord (source.withMachine machine) target k) :=
      speakers_fold hallow.1 k
    show (((st₁.fold (source.withMachine machine) target).assign source.sessionSpeakerId
      fun s => { s with displayLabel := target.displayLabel }).speakers k) = _
    rw [speakers_assign, hrecord, Option.map_map]
    by_cases hk : k = source.sessionSpeakerId
    · rw [hk, hs₁, hs]
      simp [mergedRecord, foldRecord, SessionSpeaker.withMachine, machine]
    · rw [hother k hk]
      congr 1
      funext s
      simp only [Function.comp_apply, if_neg hk, mergedRecord, foldRecord,
        SessionSpeaker.withMachine]

/-- A merge of an id that was never registered raises, and changes
nothing. -/
theorem merge_of_get_error {e : PyError} (h : st.get a = .error e ∨ st.get b = .error e)
    (reason : String) : (merge a b reason st).2 = st := by
  unfold merge
  rw [read_bind]
  rcases ha : st.get a with e₁ | A
  · rfl
  · rw [ofExcept_ok_bind]
    rcases hb : st.get b with e₂ | B
    · rfl
    · rw [ha, hb] at h
      rcases h with h | h <;> cases h

end Merging

/-! ## Updating a prototype -/

/-- Giving a speaker a prototype of its own is quiet. -/
theorem WellFormed.assign_prototype (h : st.WellFormed) (id : String) {p : SpeakerPrototype R V}
    (hweight : 0 < p.weightSum) (hversion : p.modelVersion = st.embeddingModelVersion)
    (hkey : st.rootOf p.speakerKey = st.rootOf id) :
    (st.assign id fun s => { s with prototype := some p }).WellFormed
      ∧ Quiet st (st.assign id fun s => { s with prototype := some p }) := by
  refine h.assign (fun _ => rfl) (fun _ => rfl) (fun _ => rfl) (fun s _ q hq => ?_)
  cases hq
  exact ⟨hweight, hversion, hkey⟩

section Prototypes

variable [AddCommGroup V] [Module R V] [EmbeddingSpace R V] {e : SpeakerEmbedding R V}

/-- The embeddings from which a speaker's next centroid cannot be computed:
one of quality zero when there is none yet, and one that cancels the
centroid there is. -/
def Degenerate (s : SessionSpeaker R V) (e : SpeakerEmbedding R V) : Prop :=
  match s.prototype with
  | none => e.quality = 0
  | some p => p.accumulated e = 0

/-- **What the end of both update methods does.** It raises on a degenerate
embedding and only on one; when it returns, the embedding was accepted. -/
theorem setPrototype_cases (h : st.WellFormed) (hs : st.speakers id = some s)
    (hv : e.modelVersion = st.embeddingModelVersion) :
    ∃ r st', setPrototype id e st = (r, st') ∧ st'.WellFormed ∧ Quiet st st'
      ∧ ((Degenerate s e ∧ ∃ err, r = .error err)
        ∨ (¬ Degenerate s e ∧ ∃ u, r = .ok u ∧ u.accepted = true)) := by
  unfold setPrototype Degenerate
  rw [read_bind, hs]
  dsimp only
  rcases hp : s.prototype with _ | current
  · dsimp only
    rcases SpeakerPrototype.fromEmbedding_cases id e with
      ⟨hq, err, herr⟩ | ⟨hq, p, hok, hkey, hweight, hversion⟩
    · rw [herr, ofExcept_error_bind]
      exact ⟨_, _, rfl, h, Quiet.refl st, Or.inl ⟨hq, err, rfl⟩⟩
    · rw [hok, ofExcept_ok_bind]
      obtain ⟨h', hq'⟩ := h.assign_prototype id (hweight ▸ hq) (hversion.trans hv)
        (by rw [hkey])
      exact ⟨_, _, rfl, h', hq', Or.inr ⟨hq.ne', _, rfl, rfl⟩⟩
  · dsimp only
    obtain ⟨hweight, hversion, hkey⟩ := h.prototype_ok hs hp
    -- the history is extended before the next centroid is computed
    have hhistory : Within Keeps (updateSpeaker id fun s : SessionSpeaker R V =>
        { s with prototypeHistory := s.prototypeHistory ++ [current] }) :=
      within_updateSpeaker (fun _ => rfl) (fun _ => rfl) (fun _ => rfl) (fun _ => rfl)
    obtain ⟨h₁, hq₁⟩ := hhistory st h
    rcases SpeakerPrototype.updatedWith_cases (hv.trans hversion.symm) hweight with
      ⟨hzero, err, herr⟩ | ⟨hne, p, hok, hkey', hweight', hversion'⟩
    · refine ⟨.error err, _, ?_, h₁, hq₁, Or.inl ⟨hzero, err, rfl⟩⟩
      rw [herr]
      rfl
    · have hpos : 0 < p.weightSum := by
        rw [hweight']
        exact add_pos_of_pos_of_nonneg hweight e.quality_nonneg
      have hroot := hq₁.rootOf h h₁
      obtain ⟨h₂, hq₂⟩ := h₁.assign_prototype id hpos
        ((hversion'.trans hversion).trans hq₁.version.symm) (by rw [hkey', hroot, hkey])
      refine ⟨.ok ⟨true, "updated", some id, some p.version⟩, _, ?_, h₂, hq₁.trans hq₂,
        Or.inr ⟨hne, _, rfl, rfl⟩⟩
      rw [hok]
      rfl

/-- A passed gate has checked the model version. -/
theorem version_of_updateGate {margin : Option R} {passed : Bool}
    (h : st.updateGate s e margin passed = none) : e.modelVersion = st.embeddingModelVersion := by
  unfold updateGate at h
  by_contra hne
  rw [if_pos hne] at h
  cases h

theorem version_of_bufferGate (h : st.bufferGate s e = none) :
    e.modelVersion = st.embeddingModelVersion := by
  unfold bufferGate at h
  by_contra hne
  by_cases hstate : s.state ≠ .provisional
  · rw [if_pos hstate] at h
    cases h
  · rw [if_neg hstate, if_pos hne] at h
    cases h

/-- Both update methods: look the speaker up, pass its gate, and update. -/
def gatedUpdate (gate : SessionSpeakerState R V → SessionSpeaker R V → Option String)
    (id : String) (e : SpeakerEmbedding R V) :
    Method PyError (SessionSpeakerState R V) PrototypeUpdate := do
  let st ← .read
  let speaker ← .ofExcept (st.get id)
  match gate st speaker with
  | some reason => return ⟨false, reason, some speaker.sessionSpeakerId, none⟩
  | none => setPrototype speaker.sessionSpeakerId e

theorem updatePrototype_eq (id : String) (e : SpeakerEmbedding R V) (margin : Option R)
    (passed : Bool) : updatePrototype id e margin passed
      = gatedUpdate (fun st s => st.updateGate s e margin passed) id e := rfl

theorem bufferProvisionalEmbedding_eq (id : String) (e : SpeakerEmbedding R V) :
    bufferProvisionalEmbedding id e = gatedUpdate (fun st s => st.bufferGate s e) id e := rfl

variable {gate : SessionSpeakerState R V → SessionSpeaker R V → Option String}

theorem within_gatedUpdate_of {K : SessionSpeakerState R V → SessionSpeakerState R V → Prop}
    [Std.Refl K] [IsTrans _ K] (h : ∀ id, Within K (setPrototype id e)) :
    Within K (gatedUpdate gate id e) := by
  refine within_bind within_read (fun st => within_bind (within_ofExcept _) (fun speaker => ?_))
  split
  · exact within_pure _
  · exact h _

/-- **What an update does to a registered speaker**: a gate refuses it and
nothing changes, or it raises because the embedding is degenerate, or it is
accepted. -/
theorem gatedUpdate_cases (h : st.WellFormed) (hget : st.get id = .ok s)
    (hgate : gate st s = none → e.modelVersion = st.embeddingModelVersion) :
    ∃ r st', gatedUpdate gate id e st = (r, st') ∧ st'.WellFormed ∧ Quiet st st'
      ∧ ((gate st s ≠ none ∧ st' = st ∧ ∃ u, r = .ok u ∧ u.accepted = false)
        ∨ (gate st s = none ∧ Degenerate s e ∧ ∃ err, r = .error err)
        ∨ (gate st s = none ∧ ¬ Degenerate s e ∧ ∃ u, r = .ok u ∧ u.accepted = true)) := by
  obtain ⟨-, hs, hid, -⟩ := h.get_eq_ok hget
  rw [← hid] at hs
  unfold gatedUpdate
  rw [read_bind, hget, ofExcept_ok_bind]
  rcases hg : gate st s with _ | reason
  · obtain ⟨r, st', hok, h', hq, hcases⟩ := setPrototype_cases h hs (hgate hg)
    refine ⟨r, st', hok, h', hq, Or.inr ?_⟩
    rcases hcases with ⟨hd, herr⟩ | ⟨hd, hacc⟩
    · exact Or.inl ⟨rfl, hd, herr⟩
    · exact Or.inr ⟨rfl, hd, hacc⟩
  · exact ⟨_, st, rfl, h, Quiet.refl st,
      Or.inl ⟨Option.some_ne_none reason, rfl, _, rfl, rfl⟩⟩

theorem within_gatedUpdate
    (hgate : ∀ st s, gate st s = none → e.modelVersion = st.embeddingModelVersion) :
    Within Keeps (gatedUpdate gate id e) := by
  intro st h
  rcases hget : st.get id with err | s
  · unfold gatedUpdate
    rw [read_bind, hget]
    exact ⟨h, Quiet.refl st⟩
  · obtain ⟨r, st', hok, h', hq, -⟩ := gatedUpdate_cases h hget (hgate st s)
    rw [hok]
    exact ⟨h', hq⟩

theorem within_updatePrototype (id : String) (e : SpeakerEmbedding R V) (margin : Option R)
    (passed : Bool) : Within Keeps (updatePrototype id e margin passed) :=
  within_gatedUpdate (fun _ _ h => version_of_updateGate h)

theorem within_bufferProvisionalEmbedding (id : String) (e : SpeakerEmbedding R V) :
    Within Keeps (bufferProvisionalEmbedding id e) :=
  within_gatedUpdate (fun _ _ h => version_of_bufferGate h)

end Prototypes

end SessionSpeakerState

end Sastt
