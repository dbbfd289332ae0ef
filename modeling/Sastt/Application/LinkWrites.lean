import Sastt.Application.SessionMethods

/-!
# What linking a source writes

Linking the sources of an overlap region creates temporary speakers, adds
evidence to speakers there are, and marks the speakers of one crop as
different people. All of this only ever adds to a session: the state before is
below the state after in an order (`Accrues`) in which no state is below a
smaller one (`Accrues.antisymm`). So what one write has changed, no later one
changes back, and a sequence of them leaves the session as it was exactly when
each of them does.

For each write, the lemmas below say when it changes nothing.
-/

namespace Sastt

variable {R V : Type}

/-- **The speaker has what it had**, and maybe more evidence and more
marks. -/
structure SessionSpeaker.Accrues (s s' : SessionSpeaker R V) : Prop where
  same : s' = { s with
    prototype := s'.prototype
    prototypeHistory := s'.prototypeHistory
    cannotLink := s'.cannotLink }
  history : s.prototypeHistory <+: s'.prototypeHistory
  evidence : s.prototype.isSome → s'.prototype.isSome
  /-- A prototype is replaced only when it goes into the history. -/
  replaced : s.prototypeHistory = s'.prototypeHistory → s.prototype.isSome →
    s'.prototype = s.prototype
  marks : s.cannotLink ⊆ s'.cannotLink

namespace SessionSpeaker.Accrues

variable {s s' s'' : SessionSpeaker R V}

theorem refl (s : SessionSpeaker R V) : Accrues s s :=
  ⟨rfl, List.prefix_refl _, id, fun _ _ => rfl, Finset.Subset.refl _⟩

theorem trans (h : Accrues s s') (h' : Accrues s' s'') : Accrues s s'' where
  same := by
    rw [h'.same, h.same]
  history := h.history.trans h'.history
  evidence hs := h'.evidence (h.evidence hs)
  replaced heq hs := by
    have hmid : s.prototypeHistory = s'.prototypeHistory :=
      h.history.eq_of_length_le (heq ▸ h'.history.length_le)
    rw [h'.replaced (hmid.symm.trans heq) (h.evidence hs), h.replaced hmid hs]
  marks := h.marks.trans h'.marks

/-- **What has been added is not taken away.** -/
theorem antisymm (h : Accrues s s') (h' : Accrues s' s) : s' = s := by
  have hhistory := h.history.eq_of_length_le h'.history.length_le
  have hprototype : s'.prototype = s.prototype := by
    cases hs : s.prototype with
    | some p => exact (h.replaced hhistory (by simp [hs])).trans hs
    | none =>
      have hnone : ¬ s'.prototype.isSome := fun hs' => by simpa [hs] using h'.evidence hs'
      exact Option.not_isSome_iff_eq_none.mp hnone
  rw [h.same, hprototype, ← hhistory, h'.marks.antisymm h.marks]

end SessionSpeaker.Accrues

variable [Field R] [LinearOrder R] [IsStrictOrderedRing R]

namespace SessionSpeakerState

open Method SessionSpeaker

/-- **The session has what it had**, and maybe more temporary speakers, more
evidence and more marks. -/
structure Accrues (st st' : SessionSpeakerState R V) : Prop where
  same : st' = { st with
    speakers := st'.speakers
    order := st'.order
    temporaryCounter := st'.temporaryCounter }
  order : st.order <+: st'.order
  counter : st.temporaryCounter ≤ st'.temporaryCounter
  speakers : ∀ id s, st.speakers id = some s →
    ∃ s', st'.speakers id = some s' ∧ SessionSpeaker.Accrues s s'

variable {st st' st'' : SessionSpeakerState R V} {id : String} {s : SessionSpeaker R V}

instance : Std.Refl (Accrues (R := R) (V := V)) where
  refl _ := ⟨rfl, List.prefix_refl _, le_rfl, fun _ s hs => ⟨s, hs, SessionSpeaker.Accrues.refl s⟩⟩

instance : IsTrans (SessionSpeakerState R V) Accrues where
  trans _ _ _ h h' := by
    refine ⟨?_, h.order.trans h'.order, h.counter.trans h'.counter, fun id s hs => ?_⟩
    · rw [h'.same, h.same]
    · obtain ⟨s', hs', hacc⟩ := h.speakers id s hs
      obtain ⟨s'', hs'', hacc'⟩ := h'.speakers id s' hs'
      exact ⟨s'', hs'', hacc.trans hacc'⟩

/-- **No state accrues to one it accrues from.** -/
theorem Accrues.antisymm (h : Accrues st st') (h' : Accrues st' st) : st' = st := by
  have hspeakers : st'.speakers = st.speakers := by
    funext id
    cases hs : st.speakers id with
    | some s =>
      obtain ⟨s', hs', hacc⟩ := h.speakers id s hs
      obtain ⟨t, ht, hacc'⟩ := h'.speakers id s' hs'
      rw [hs] at ht
      cases ht
      rw [hs', hacc.antisymm hacc']
    | none =>
      cases hs' : st'.speakers id with
      | none => rfl
      | some s' =>
        obtain ⟨t, ht, -⟩ := h'.speakers id s' hs'
        rw [hs] at ht
        cases ht
  have horder := h.order.eq_of_length_le h'.order.length_le
  rw [h.same, hspeakers, ← horder, h'.counter.antisymm h.counter]

/-- So a change stays a change. -/
theorem Accrues.ne_of_ne (h : Accrues st st') (h' : Accrues st' st'') (hne : st' ≠ st) :
    st'' ≠ st := by
  rintro rfl
  exact hne (h.antisymm h')

/-! ## Writes to the records -/

theorem accrues_assign {f : SessionSpeaker R V → SessionSpeaker R V}
    (hf : ∀ s, st.speakers id = some s → SessionSpeaker.Accrues s (f s)) :
    Accrues st (st.assign id f) where
  same := rfl
  order := List.prefix_refl _
  counter := le_rfl
  speakers k s hs := by
    rw [speakers_assign, hs]
    by_cases hk : k = id
    · exact ⟨f s, by simp [hk], hf s (hk ▸ hs)⟩
    · exact ⟨s, by simp [hk], SessionSpeaker.Accrues.refl s⟩

/-- Two writes to one record are one write. -/
theorem assign_assign (st : SessionSpeakerState R V) (id : String)
    (f g : SessionSpeaker R V → SessionSpeaker R V) :
    (st.assign id f).assign id g = st.assign id (fun s => g (f s)) := by
  have hspeakers : ((st.assign id f).assign id g).speakers
      = (st.assign id (fun s => g (f s))).speakers := by
    funext k
    simp only [speakers_assign, Option.map_map]
    congr 1
    funext s
    by_cases hk : k = id <;> simp [hk]
  show { st with speakers := ((st.assign id f).assign id g).speakers } = _
  rw [hspeakers]
  rfl

/-- Writing what is there changes nothing. -/
theorem assign_eq_self {f : SessionSpeaker R V → SessionSpeaker R V}
    (hf : ∀ s, st.speakers id = some s → f s = s) : st.assign id f = st := by
  have hspeakers : (st.assign id f).speakers = st.speakers := by
    funext k
    rw [speakers_assign]
    cases hs : st.speakers k with
    | none => rfl
    | some s =>
      by_cases hk : k = id
      · simp [hk, hf s (hk ▸ hs)]
      · simp [hk]
  show { st with speakers := (st.assign id f).speakers } = st
  rw [hspeakers]

theorem within_addCannotLink_accrues (a b : String) :
    Within Accrues (addCannotLink (R := R) (V := V) a b) :=
  within_addCannotLink_of (fun _ _ _ => accrues_assign (fun _ _ =>
    ⟨rfl, List.prefix_refl _, fun h => h, fun _ _ => rfl, Finset.subset_insert _ _⟩)) a b

/-- **Two ids are known to be different people**, or the same: marking them
says nothing new. -/
def knownApart (st : SessionSpeakerState R V) (a b : String) : Bool :=
  match st.get a, st.get b with
  | .ok A, .ok B =>
    A.sessionSpeakerId = B.sessionSpeakerId
      || (st.speakers A.sessionSpeakerId).all (B.sessionSpeakerId ∈ ·.cannotLink)
        && (st.speakers B.sessionSpeakerId).all (A.sessionSpeakerId ∈ ·.cannotLink)
  | _, _ => false

theorem knownApart_iff {a b : String} : st.knownApart a b = true ↔
    ∃ A B, st.get a = .ok A ∧ st.get b = .ok B ∧ (A.sessionSpeakerId = B.sessionSpeakerId
      ∨ (∀ s, st.speakers A.sessionSpeakerId = some s → B.sessionSpeakerId ∈ s.cannotLink)
        ∧ ∀ s, st.speakers B.sessionSpeakerId = some s → A.sessionSpeakerId ∈ s.cannotLink) := by
  unfold knownApart
  cases st.get a <;> cases st.get b <;> simp [Option.all_eq_true]

theorem addCannotLink_of_knownApart {a b : String} (hab : st.knownApart a b = true) :
    addCannotLink a b st = (.ok (), st) := by
  obtain ⟨A, B, hA, hB, hknown⟩ := knownApart_iff.mp hab
  unfold addCannotLink
  rw [read_bind, hA, ofExcept_ok_bind, hB, ofExcept_ok_bind]
  by_cases hsame : A.sessionSpeakerId = B.sessionSpeakerId
  · rw [if_pos hsame]
    rfl
  · obtain ⟨hAs, hBs⟩ := hknown.resolve_left hsame
    have hA' : st.assign A.sessionSpeakerId (fun s =>
        { s with cannotLink := insert B.sessionSpeakerId s.cannotLink }) = st :=
      assign_eq_self (fun s hs => by rw [Finset.insert_eq_self.mpr (hAs s hs)])
    have hB' : st.assign B.sessionSpeakerId (fun s =>
        { s with cannotLink := insert A.sessionSpeakerId s.cannotLink }) = st :=
      assign_eq_self (fun s hs => by rw [Finset.insert_eq_self.mpr (hBs s hs)])
    rw [if_neg hsame]
    show (Except.ok (), (st.assign _ _).assign _ _) = _
    rw [hA', hB']

/-- **Marking two ids changes something** unless they were known apart. -/
theorem addCannotLink_ne {a b : String} (hab : st.knownApart a b ≠ true)
    (hok : addCannotLink a b st = (.ok (), st')) : st' ≠ st := by
  unfold addCannotLink at hok
  rw [read_bind] at hok
  rcases hA : st.get a with err | A
  · rw [hA] at hok
    cases hok
  rcases hB : st.get b with err | B
  · rw [hA, hB] at hok
    cases hok
  rw [hA, ofExcept_ok_bind, hB, ofExcept_ok_bind] at hok
  by_cases hsame : A.sessionSpeakerId = B.sessionSpeakerId
  · exact absurd (knownApart_iff.mpr ⟨A, B, hA, hB, Or.inl hsame⟩) hab
  · rw [if_neg hsame] at hok
    rw [← show _ = st' from congrArg Prod.snd hok]
    intro heq
    have hmarked : ∀ id, ((st.assign A.sessionSpeakerId fun s =>
        { s with cannotLink := insert B.sessionSpeakerId s.cannotLink }).assign
        B.sessionSpeakerId fun s =>
        { s with cannotLink := insert A.sessionSpeakerId s.cannotLink }).speakers id
        = st.speakers id := fun id => congrFun (congrArg speakers heq) id
    refine hab (knownApart_iff.mpr ⟨A, B, hA, hB, Or.inr ⟨fun s hs => ?_, fun s hs => ?_⟩⟩)
    · have hself := (hmarked A.sessionSpeakerId).trans hs
      rw [speakers_assign, speakers_assign_self hs, Option.map_some, if_neg hsame] at hself
      rw [← Option.some.inj hself]
      exact Finset.mem_insert_self _ _
    · have hself := (hmarked B.sessionSpeakerId).trans hs
      rw [speakers_assign, speakers_assign, hs, Option.map_some, Option.map_some,
        if_neg (Ne.symm hsame), if_pos rfl] at hself
      rw [← Option.some.inj hself]
      exact Finset.mem_insert_self _ _

/-! ## Temporary speakers -/

theorem within_register_accrues (s : SessionSpeaker R V) : Within Accrues (register s) :=
  within_register_of (fun _ hfresh => {
    same := rfl
    order := List.prefix_append _ _
    counter := le_rfl
    speakers := fun _ t ht =>
      ⟨t, speakers_insertSpeaker hfresh ht, SessionSpeaker.Accrues.refl t⟩ })

theorem within_createTemporarySpeaker_accrues (ulid : String) :
    Within Accrues (createTemporarySpeaker (R := R) (V := V) ulid) :=
  within_createTemporarySpeaker_of (fun _ => ⟨rfl, List.prefix_refl _, Nat.le_succ _,
      fun _ s hs => ⟨s, hs, SessionSpeaker.Accrues.refl s⟩⟩)
    (fun _ => within_register_accrues _)

/-- **A temporary speaker is counted.** -/
theorem createTemporarySpeaker_ne {ulid : String}
    (hok : createTemporarySpeaker ulid st = (.ok s, st')) : st' ≠ st := by
  unfold createTemporarySpeaker at hok
  rw [read_bind] at hok
  split at hok
  · cases hok
  · rw [modify_bind, SpeakerIdentityStateMachine.new, if_pos (by decide), ofExcept_ok_bind] at hok
    obtain ⟨u, t, hregister, hok⟩ := bind_eq_ok.mp hok
    have hcounter : st.temporaryCounter + 1 ≤ t.temporaryCounter :=
      ((within_register_accrues _).rel hregister).counter
    cases hok
    rintro rfl
    exact absurd hcounter (Nat.not_succ_le_self _)

/-! ## Evidence -/

/-- A prototype has gone into the history, whatever has become of it. -/
theorem accrues_history {current : SpeakerPrototype R V} (next : Option (SpeakerPrototype R V))
    {f : SessionSpeaker R V → SessionSpeaker R V} (hs : st.speakers id = some s)
    (hf : f s = { s with
      prototypeHistory := s.prototypeHistory ++ [current]
      prototype := next }) (hnext : next.isSome) :
    Accrues st (st.assign id f) ∧ st.assign id f ≠ st := by
  constructor
  · refine accrues_assign (fun t ht => ?_)
    rw [hs] at ht
    cases ht
    rw [hf]
    exact ⟨rfl, List.prefix_append _ _, fun _ => hnext, fun h => by simp at h,
      Finset.Subset.refl _⟩
  · intro heq
    have hself : f s = s := by
      have hid := (congrFun (congrArg speakers heq) id).trans hs
      rw [speakers_assign_self hs] at hid
      exact Option.some.inj hid
    have hlength := congrArg (fun s => s.prototypeHistory.length) (hf.symm.trans hself)
    simp at hlength

section Evidence

variable [AddCommGroup V] [Module R V] [EmbeddingSpace R V] {e : SpeakerEmbedding R V}

/-- **The end of both update methods only adds evidence**, and adds some when
it returns. -/
theorem accrues_setPrototype (id : String) (e : SpeakerEmbedding R V)
    (st : SessionSpeakerState R V) :
    Accrues st (setPrototype id e st).2
      ∧ ∀ u, (setPrototype id e st).1 = .ok u → (setPrototype id e st).2 ≠ st := by
  unfold setPrototype
  rw [read_bind]
  cases hs : st.speakers id with
  | none => exact ⟨Std.Refl.refl st, nofun⟩
  | some s =>
    dsimp only
    cases hp : s.prototype with
    | none =>
      dsimp only
      cases hnew : SpeakerPrototype.fromEmbedding id e with
      | error err => exact ⟨Std.Refl.refl st, nofun⟩
      | ok p =>
        rw [ofExcept_ok_bind]
        refine ⟨accrues_assign (fun t ht => ?_), fun u _ heq => ?_⟩
        · rw [hs] at ht
          cases ht
          exact ⟨rfl, List.prefix_refl _, fun h => by simp [hp] at h,
            fun _ h => by simp [hp] at h, Finset.Subset.refl _⟩
        · have hself : (st.assign id fun s => { s with prototype := some p }).speakers id
              = some s := (congrFun (congrArg speakers heq) id).trans hs
          rw [speakers_assign_self hs] at hself
          have hsome := congrArg SessionSpeaker.prototype (Option.some.inj hself)
          rw [hp] at hsome
          cases hsome
    | some current =>
      dsimp only
      cases hnew : current.updatedWith e with
      | error err =>
        exact ⟨(accrues_history s.prototype hs rfl (by simp [hp])).1, nofun⟩
      | ok p =>
        let keep : SessionSpeaker R V → SessionSpeaker R V :=
          fun s => { s with prototypeHistory := s.prototypeHistory ++ [current] }
        let replace : SessionSpeaker R V → SessionSpeaker R V :=
          fun s => { s with prototype := some p }
        have hboth : Accrues st ((st.assign id keep).assign id replace)
            ∧ (st.assign id keep).assign id replace ≠ st := by
          rw [assign_assign]
          exact accrues_history (some p) hs rfl rfl
        exact ⟨hboth.1, fun _ _ => hboth.2⟩

variable {gate : SessionSpeakerState R V → SessionSpeaker R V → Option String}

theorem within_gatedUpdate_accrues : Within Accrues (gatedUpdate gate id e) :=
  within_gatedUpdate_of (fun _ st => (accrues_setPrototype _ e st).1)

/-- **A refused update changes nothing.** -/
theorem gatedUpdate_of_refused (hget : st.get id = .ok s) (hgate : gate st s ≠ none) :
    ∃ u, gatedUpdate gate id e st = (.ok u, st) := by
  obtain ⟨reason, hreason⟩ := Option.ne_none_iff_exists'.mp hgate
  unfold gatedUpdate
  rw [read_bind, hget, ofExcept_ok_bind, hreason]
  exact ⟨_, rfl⟩

/-- Any other update that returns changes something. -/
theorem gatedUpdate_ne {u : PrototypeUpdate} (hget : st.get id = .ok s) (hgate : gate st s = none)
    (hok : gatedUpdate gate id e st = (.ok u, st')) : st' ≠ st := by
  unfold gatedUpdate at hok
  rw [read_bind, hget, ofExcept_ok_bind, hgate] at hok
  have hset := (accrues_setPrototype s.sessionSpeakerId e st).2 u
  rw [show setPrototype s.sessionSpeakerId e st = _ from hok] at hset
  exact hset rfl

end Evidence

/-! ## What these methods raise -/

section Raising

/-- An exception that is none of the domain. -/
def NotSastt (e : PyError) : Prop := e.isSastt = false

/-- Any error but that of a separator. -/
def NotSeparation (e : PyError) : Prop := e.isClass .separationFailed = false

theorem NotSastt.notSeparation {e : PyError} (h : NotSastt e) : NotSeparation e :=
  PyError.isClass_of_not_sastt h _

theorem notSastt_get (st : SessionSpeakerState R V) (id : String) :
    ∀ e, st.get id = .error e → NotSastt e := fun _ h => isSastt_of_get_error h

theorem notSastt_addCannotLink (a b : String) :
    Raises NotSastt (addCannotLink (R := R) (V := V) a b) := by
  refine raises_bind raises_read (fun st => raises_bind (raises_ofExcept (notSastt_get st a))
    (fun A => raises_bind (raises_ofExcept (notSastt_get st b)) (fun B => ?_)))
  split
  · exact raises_pure ()
  · exact raises_bind (raises_modify _) (fun _ => raises_modify _)

theorem notSeparation_createTemporarySpeaker (ulid : String) :
    Raises NotSeparation (createTemporarySpeaker (R := R) (V := V) ulid) := by
  refine raises_bind raises_read (fun st => ?_)
  split
  · exact raises_throw rfl
  · refine raises_bind (raises_modify _) (fun _ => raises_bind
      (raises_ofExcept (fun e he => nomatch he)) (fun _ => raises_bind ?_ (fun _ => raises_pure _)))
    refine raises_bind raises_read (fun st => ?_)
    split
    · exact raises_throw rfl
    · exact raises_modify _

variable [AddCommGroup V] [Module R V] [EmbeddingSpace R V]

omit [IsStrictOrderedRing R] in
/-- A centroid is not computed when there is nothing to normalise, or when
the models differ. -/
theorem notSastt_centroid (e : SpeakerEmbedding R V) :
    (∀ key err, SpeakerPrototype.fromEmbedding key e = .error err → NotSastt err)
      ∧ ∀ (p : SpeakerPrototype R V) err, p.updatedWith e = .error err → NotSastt err := by
  have hnormalize : ∀ (v : V) (err : PyError), l2Normalize (R := R) v = .error err →
      NotSastt err := by
    intro v err h
    unfold l2Normalize at h
    split at h <;> cases h
    rfl
  constructor
  · intro key err h
    unfold SpeakerPrototype.fromEmbedding at h
    rcases hc : l2Normalize (R := R) (e.quality • e.vector) with err' | c
    · rw [hc] at h
      cases h
      exact hnormalize _ _ hc
    · rw [hc] at h
      cases h
  · intro p err h
    unfold SpeakerPrototype.updatedWith at h
    split at h
    · cases h
      rfl
    · dsimp only at h
      rcases hc : l2Normalize (R := R) ((p.weightSum + e.quality)⁻¹ • p.accumulated e)
        with err' | c
      · rw [hc] at h
        cases h
        exact hnormalize _ _ hc
      · rw [hc] at h
        cases h

theorem notSastt_gatedUpdate {e : SpeakerEmbedding R V}
    {gate : SessionSpeakerState R V → SessionSpeaker R V → Option String} :
    Raises NotSastt (gatedUpdate gate id e) := by
  refine raises_bind raises_read (fun st => raises_bind (raises_ofExcept (notSastt_get st id))
    (fun s => ?_))
  split
  · exact raises_pure _
  · refine raises_bind raises_read (fun st => ?_)
    split
    · exact raises_throw rfl
    · split
      · exact raises_bind (raises_ofExcept ((notSastt_centroid e).1 _))
          (fun _ => raises_bind (raises_modify _) (fun _ => raises_pure _))
      · next current _ =>
        refine raises_bind (raises_modify _) (fun _ => raises_bind
          (raises_ofExcept ((notSastt_centroid e).2 current)) (fun _ => ?_))
        exact raises_bind (raises_modify _) (fun _ => raises_pure _)

end Raising

end SessionSpeakerState

end Sastt
