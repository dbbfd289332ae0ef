import Sastt.Application.SpeakerRecords
import Sastt.Lib.Programs

/-!
# Cannot-link constraints and the voice registry

Two speakers marked with each other were heard at the same time, so they are
two people, and a registry id names one person. A merge looks at the marks.
`apply_voice_id` does not: it is given a decision about one speaker, and it
writes the id of the decision whatever the others hold. Nor does
`add_cannot_link` look at the ids the two speakers hold already, nor `merge`
at those held by the speakers whose marks it hands over.

So speakers held apart may come to share an enrolled id, and
`enrolledApart_iff` says when: the ids are told apart along a session exactly
when each call that names, marks or merges somebody finds the ids of the
speakers concerned to be different. It is the rule of badges under
constraints, at the pointers, the marks and the enrolments of the state.
-/

namespace Sastt

variable {R V : Type} [Field R] [LinearOrder R] [IsStrictOrderedRing R]

namespace SessionSpeaker

/-- Two speakers that are in each other's `cannot_link`. -/
def HeldApart (s t : SessionSpeaker R V) : Prop :=
  s.sessionSpeakerId ≠ t.sessionSpeakerId ∧ t.sessionSpeakerId ∈ s.cannotLink
    ∧ s.sessionSpeakerId ∈ t.cannotLink

/-- Two speakers that hold the same `registry_speaker_id`. -/
def SharesEnrolment (s t : SessionSpeaker R V) : Prop :=
  s.registrySpeakerId.isSome ∧ s.registrySpeakerId = t.registrySpeakerId

instance (s t : SessionSpeaker R V) : Decidable (s.HeldApart t) :=
  inferInstanceAs (Decidable (_ ∧ _ ∧ _))

instance (s t : SessionSpeaker R V) : Decidable (s.SharesEnrolment t) :=
  inferInstanceAs (Decidable (_ ∧ _))

omit [Field R] [LinearOrder R] [IsStrictOrderedRing R] in
theorem sharesEnrolment_of_eq {s t : SessionSpeaker R V} {i : String}
    (hs : s.registrySpeakerId = some i) (ht : t.registrySpeakerId = some i) :
    s.SharesEnrolment t := by
  refine ⟨?_, hs.trans ht.symm⟩
  rw [hs]
  rfl

omit [Field R] [LinearOrder R] [IsStrictOrderedRing R] in
theorem SharesEnrolment.exists_eq {s t : SessionSpeaker R V} (h : s.SharesEnrolment t) :
    ∃ i, s.registrySpeakerId = some i ∧ t.registrySpeakerId = some i := by
  obtain ⟨i, hi⟩ := Option.isSome_iff_exists.mp h.1
  exact ⟨i, hi, h.2.symm.trans hi⟩

end SessionSpeaker

open SessionSpeaker

namespace SessionSpeakerState

variable {st st' : SessionSpeakerState R V} {id : String} {s : SessionSpeaker R V}

/-! ## The enrolments of the speakers -/

/-- The id of the registry a speaker holds. -/
def enrolmentOf (st : SessionSpeakerState R V) (id : String) : Option String :=
  (st.speakers id).bind (fun s => s.registrySpeakerId)

theorem enrolmentOf_of_speaker (hs : st.speakers id = some s) :
    st.enrolmentOf id = s.registrySpeakerId := by
  unfold enrolmentOf
  rw [hs]
  rfl

/-- A root that is enrolled is an active speaker. -/
theorem WellFormed.exists_of_enrolmentOf (h : st.WellFormed) {i : String}
    (hp : st.parentOf id = none) (hi : st.enrolmentOf id = some i) :
    ∃ s ∈ st.active, s.sessionSpeakerId = id ∧ s.registrySpeakerId = some i := by
  obtain ⟨s, hs, hsi⟩ := Option.bind_eq_some_iff.mp hi
  have hid : s.sessionSpeakerId = id := (h.speaker id s hs).keyed
  exact ⟨s, h.mem_active.mpr ⟨h.keyed hs, (parentOf_of_speaker hs).symm.trans hp⟩, hid, hsi⟩

/-- The views of an active speaker. -/
theorem WellFormed.views_of_active (h : st.WellFormed) (hs : s ∈ st.active) :
    st.parentOf s.sessionSpeakerId = none ∧ st.marksOf s.sessionSpeakerId = s.cannotLink
      ∧ st.enrolmentOf s.sessionSpeakerId = s.registrySpeakerId := by
  obtain ⟨hrecord, hactive⟩ := h.mem_active.mp hs
  exact ⟨(parentOf_of_speaker hrecord).trans hactive, marksOf_of_speaker hrecord,
    enrolmentOf_of_speaker hrecord⟩

/-- The speaker an id stands for is active. -/
theorem WellFormed.active_of_get (h : st.WellFormed) (hget : st.get id = .ok s) :
    s ∈ st.active := by
  obtain ⟨-, hrecord, -, hactive⟩ := h.get_eq_ok hget
  exact h.mem_active.mpr ⟨h.keyed hrecord, hactive⟩

/-- Speakers are held apart when they are marked with each other. -/
theorem WellFormed.heldApart_iff (h : st.WellFormed) {t : SessionSpeaker R V}
    (hs : s ∈ st.active) (ht : t ∈ st.active) : s.HeldApart t
      ↔ s.sessionSpeakerId ≠ t.sessionSpeakerId
        ∧ Mutual st.marksOf s.sessionSpeakerId t.sessionSpeakerId := by
  unfold Mutual
  rw [(h.views_of_active hs).2.1, (h.views_of_active ht).2.1]
  rfl

/-- Steady calls leave the enrolments as they were. -/
theorem Steady.enrolmentOf (h : Steady st st') : st'.enrolmentOf = st.enrolmentOf := by
  funext id
  cases hs : st.speakers id with
  | none =>
    have hnone : st.enrolmentOf id = none := by
      unfold SessionSpeakerState.enrolmentOf
      rw [hs]
      rfl
    cases hs' : st'.speakers id with
    | none =>
      unfold SessionSpeakerState.enrolmentOf
      rw [hs, hs']
    | some s' => rw [enrolmentOf_of_speaker hs', hnone, (h.added id s' hs hs').1]
  | some s =>
    obtain ⟨s', hs', hsame⟩ := h.kept id s hs
    rw [enrolmentOf_of_speaker hs', enrolmentOf_of_speaker hs, hsame.registry]

theorem enrolmentOf_update (hs : st'.speakers = Function.update st.speakers id (some s)) :
    st'.enrolmentOf = Function.update st.enrolmentOf id s.registrySpeakerId := by
  funext k
  unfold enrolmentOf
  rw [hs]
  by_cases hk : k = id
  · rw [hk, Function.update_self, Function.update_self]
    rfl
  · rw [Function.update_of_ne hk, Function.update_of_ne hk]

/-- **What `apply_voice_id` does to the enrolments**: a decision that names
somebody gives the speaker its id, and any other leaves them alone. -/
theorem enrolmentOf_applyVoiceId (h : st.WellFormed) (id : String)
    (decision : VoiceIdDecision R) :
    ((applyVoiceId id decision st).2.enrolmentOf = st.enrolmentOf
        ∧ ∀ s, st.get id = .ok s → ¬ Names decision)
      ∨ (Names decision ∧ ∃ s, st.get id = .ok s
        ∧ (applyVoiceId id decision st).2.enrolmentOf
          = Function.update st.enrolmentOf s.sessionSpeakerId decision.registrySpeakerId) := by
  rcases applyVoiceId_cases h id decision with
    ⟨hsame, hnot⟩ | ⟨s, s', hget, hspeakers, -, -, -, hcase⟩
  · exact Or.inl ⟨by rw [hsame], fun s hs => (hnot s hs).1⟩
  · have henrolment := enrolmentOf_update hspeakers
    rcases hcase with ⟨hnames, -, hid, -⟩ | ⟨hdoubt, -, -, hid, -⟩
    · rw [hid] at henrolment
      exact Or.inr ⟨hnames, s, hget, henrolment⟩
    · refine Or.inl ⟨?_, fun _ _ hnames => ?_⟩
      · rw [henrolment, hid, ← ((h.views_of_active (h.active_of_get hget)).2.2)]
        exact Function.update_eq_self _ _
      · exact absurd (hnames.1.symm.trans hdoubt) nofun

/-! ## Ids of the registry are never empty -/

/-- No speaker is enrolled under an empty id. -/
def ProperlyEnrolled (st : SessionSpeakerState R V) : Prop := ∀ id, st.enrolmentOf id ≠ some ""

/-- What a well-formed state with proper enrolments keeps. -/
def EnrolmentsSound (st : SessionSpeakerState R V) : Prop := st.WellFormed ∧ st.ProperlyEnrolled

theorem enrolmentsSound_new (sessionId : String) (config : SasttConfig R) (version : String) :
    (new sessionId config version : SessionSpeakerState R V).EnrolmentsSound :=
  ⟨wellFormed_new sessionId config version, fun _ => nofun⟩

/-- An enrolled speaker is published under the id it is enrolled under. -/
theorem EnrolmentsSound.publicSpeakerId (h : st.EnrolmentsSound) (hs : s ∈ st.active)
    {i : String} (hi : s.registrySpeakerId = some i) : s.publicSpeakerId = i := by
  have hne : i ≠ "" := by
    rintro rfl
    exact h.2 s.sessionSpeakerId ((h.1.views_of_active hs).2.2.trans hi)
  unfold SessionSpeaker.publicSpeakerId
  rw [hi]
  exact if_neg hne

/-! ## The property -/

/-- **Voice ID respects the constraints**: active speakers held apart hold
different ids of the registry, and those enrolled are published under
different ids. -/
def EnrolledApart (st : SessionSpeakerState R V) : Prop :=
  ∀ s ∈ st.active, ∀ t ∈ st.active, s.HeldApart t → ¬ s.SharesEnrolment t
    ∧ (s.registrySpeakerId.isSome → t.registrySpeakerId.isSome →
      s.publicSpeakerId ≠ t.publicSpeakerId)

instance (st : SessionSpeakerState R V) : Decidable st.EnrolledApart :=
  inferInstanceAs (Decidable (∀ s ∈ st.active, ∀ t ∈ st.active, _))

/-- It is that marked roots wear no enrolment in common. -/
theorem enrolledApart_iff_toldApart (h : st.EnrolmentsSound) :
    st.EnrolledApart ↔ ToldApart st.parentOf st.marksOf st.enrolmentOf := by
  constructor
  · intro hapart a b ha hb hab hmutual i hia hib
    obtain ⟨s, hs, rfl, hsi⟩ := h.1.exists_of_enrolmentOf ha hia
    obtain ⟨t, ht, rfl, hti⟩ := h.1.exists_of_enrolmentOf hb hib
    exact (hapart s hs t ht ((h.1.heldApart_iff hs ht).mpr ⟨hab, hmutual⟩)).1
      (sharesEnrolment_of_eq hsi hti)
  · intro htold s hs t ht hheld
    obtain ⟨hne, hmutual⟩ := (h.1.heldApart_iff hs ht).mp hheld
    obtain ⟨hps, -, hes⟩ := h.1.views_of_active hs
    obtain ⟨hpt, -, het⟩ := h.1.views_of_active ht
    have hdiff : ∀ i, s.registrySpeakerId = some i → t.registrySpeakerId ≠ some i := by
      intro i hsi hti
      exact htold _ _ hps hpt hne hmutual i (hes.trans hsi) (het.trans hti)
    refine ⟨fun hshare => ?_, fun hsome hsome' hpublic => ?_⟩
    · obtain ⟨i, hsi, hti⟩ := hshare.exists_eq
      exact hdiff i hsi hti
    · obtain ⟨i, hi⟩ := Option.isSome_iff_exists.mp hsome
      obtain ⟨j, hj⟩ := Option.isSome_iff_exists.mp hsome'
      rw [h.publicSpeakerId hs hi, h.publicSpeakerId ht hj] at hpublic
      exact hdiff i hi (hpublic ▸ hj)

/-! ## One call -/

section Steps

variable [AddCommGroup V] [Module R V] [EmbeddingSpace R V]

/-- **When a call keeps the ids of speakers held apart different.** A
decision that names a speaker must not give it an id held by somebody it is
marked with, two speakers that are marked with each other must not hold one
id, and a merge must not hand the mark of a speaker that holds the id of the
target – and is marked with it – to the target. -/
def TellsApart (st : SessionSpeakerState R V) : Op R V → Prop
  | .applyVoiceId id decision => Names decision → ∀ s, st.get id = .ok s →
      ∀ t ∈ st.active, s.HeldApart t → t.registrySpeakerId ≠ decision.registrySpeakerId
  | .addCannotLink a b => ∀ s t, st.get a = .ok s → st.get b = .ok t →
      s.sessionSpeakerId ≠ t.sessionSpeakerId → ¬ s.SharesEnrolment t
  | .merge a b _ => ∀ s t, st.get a = .ok s → st.get b = .ok t → MergeAllowed s t →
      ∀ u ∈ st.active, u.sessionSpeakerId ≠ s.sessionSpeakerId →
        u.sessionSpeakerId ≠ t.sessionSpeakerId → u.sessionSpeakerId ∈ s.cannotLink →
        t.sessionSpeakerId ∈ u.cannotLink → ¬ t.SharesEnrolment u
  | _ => True

/-- Every call keeps the enrolments proper. -/
theorem EnrolmentsSound.step (h : st.EnrolmentsSound) (op : Op R V) :
    (st.step op).EnrolmentsSound := by
  refine ⟨(step_cases h.1 op).1, ?_⟩
  by_cases hop : ∀ id decision, op ≠ .applyVoiceId id decision
  · intro k
    rw [(steady_step st op hop).enrolmentOf]
    exact h.2 k
  · simp only [not_forall, not_not] at hop
    obtain ⟨id, decision, rfl⟩ := hop
    intro k
    show (applyVoiceId id decision st).2.enrolmentOf k ≠ some ""
    rcases enrolmentOf_applyVoiceId h.1 id decision with
      ⟨hsame, -⟩ | ⟨hnames, s, -, hupdate⟩
    · rw [hsame]
      exact h.2 k
    · rw [hupdate]
      by_cases hk : k = s.sessionSpeakerId
      · rw [hk, Function.update_self]
        intro hempty
        have htruthy := hnames.2.1
        rw [hempty] at htruthy
        cases htruthy
      · rw [Function.update_of_ne hk]
        exact h.2 k

/-- Naming a speaker. -/
theorem applyVoiceId_toldApart (h : st.EnrolmentsSound)
    (htold : ToldApart st.parentOf st.marksOf st.enrolmentOf) (id : String)
    (decision : VoiceIdDecision R) :
    ToldApart st.parentOf st.marksOf (applyVoiceId id decision st).2.enrolmentOf
      ↔ st.TellsApart (.applyVoiceId id decision) := by
  rcases enrolmentOf_applyVoiceId h.1 id decision with
    ⟨hsame, hnot⟩ | ⟨hnames, s, hget, hupdate⟩
  · rw [hsame]
    exact iff_of_true htold (fun hnames s hget => absurd hnames (hnot s hget))
  · have hs := h.1.active_of_get hget
    obtain ⟨i, hi⟩ : ∃ i, decision.registrySpeakerId = some i := by
      refine Option.isSome_iff_exists.mp ?_
      cases hid : decision.registrySpeakerId with
      | none =>
        have htruthy := hnames.2.1
        rw [hid] at htruthy
        cases htruthy
      | some i => rfl
    rw [hupdate, hi, htold.update_iff (h.1.views_of_active hs).1]
    constructor
    · intro hnone _ s' hget' t ht hheld hti
      rw [hget] at hget'
      cases hget'
      obtain ⟨hne, hmutual⟩ := (h.1.heldApart_iff hs ht).mp hheld
      obtain ⟨hpt, -, het⟩ := h.1.views_of_active ht
      exact hnone _ hpt hne.symm hmutual (het.trans (hti.trans hi))
    · intro htells b hb hbs hmutual hbi
      obtain ⟨t, ht, rfl, hti⟩ := h.1.exists_of_enrolmentOf hb hbi
      exact htells hnames s hget t ht ((h.1.heldApart_iff hs ht).mpr ⟨hbs.symm, hmutual⟩)
        (hti.trans hi.symm)

/-- Marking two speakers with each other. -/
theorem addCannotLink_toldApart (h : st.EnrolmentsSound)
    (htold : ToldApart st.parentOf st.marksOf st.enrolmentOf) {a b : String}
    (hd : st.Different a b) :
    ToldApart st.parentOf (markPair st.marksOf (st.rootOf a) (st.rootOf b)) st.enrolmentOf
      ↔ st.TellsApart (.addCannotLink a b) := by
  obtain ⟨s, t, hgets, hgett, hne⟩ := id hd
  have hs := (h.1.get_eq_ok hgets).2.2.1
  have ht := (h.1.get_eq_ok hgett).2.2.1
  obtain ⟨hps, -, hes⟩ := h.1.views_of_active (h.1.active_of_get hgets)
  obtain ⟨hpt, -, het⟩ := h.1.views_of_active (h.1.active_of_get hgett)
  rw [← hs, ← ht, htold.markPair_iff hps hpt hne, hes, het]
  constructor
  · intro hdiff s' t' hgets' hgett' _ hshare
    rw [hgets] at hgets'
    rw [hgett] at hgett'
    cases hgets'
    cases hgett'
    obtain ⟨i, hsi, hti⟩ := hshare.exists_eq
    exact hdiff i hsi hti
  · exact fun htells i hsi hti => htells s t hgets hgett hne (sharesEnrolment_of_eq hsi hti)

/-- Merging a speaker into another. -/
theorem merge_toldApart (h : st.EnrolmentsSound)
    (htold : ToldApart st.parentOf st.marksOf st.enrolmentOf) {a b : String}
    (hm : st.MergeSucceeds a b) (reason : String) :
    ToldApart (Function.update st.parentOf (st.rootOf a) (some (st.rootOf b)))
        (handMarks st.marksOf (st.rootOf a) (st.rootOf b)) st.enrolmentOf
      ↔ st.TellsApart (.merge a b reason) := by
  obtain ⟨s, t, hgets, hgett, hallow⟩ := id hm
  have hs := (h.1.get_eq_ok hgets).2.2.1
  have ht := (h.1.get_eq_ok hgett).2.2.1
  obtain ⟨-, hms, -⟩ := h.1.views_of_active (h.1.active_of_get hgets)
  obtain ⟨hpt, -, het⟩ := h.1.views_of_active (h.1.active_of_get hgett)
  rw [← hs, ← ht, htold.link_iff hpt hallow.1, hms, het]
  constructor
  · intro hnone s' t' hgets' hgett' _ u hu hus hut hmark hback hshare
    rw [hgets] at hgets'
    rw [hgett] at hgett'
    cases hgets'
    cases hgett'
    obtain ⟨i, hti, hui⟩ := hshare.exists_eq
    obtain ⟨hpu, hmu, heu⟩ := h.1.views_of_active hu
    exact hnone _ hpu hus hut hmark (hmu ▸ hback) i hti (heu.trans hui)
  · intro htells x hx hxs hxt hmark hback i hti hxi
    obtain ⟨u, hu, rfl, hui⟩ := h.1.exists_of_enrolmentOf hx hxi
    rw [(h.1.views_of_active hu).2.1] at hback
    exact htells s t hgets hgett hallow u hu hxs hxt hmark hback (sharesEnrolment_of_eq hti hui)

/-- A call that does nothing to the constraints and names nobody. -/
theorem tellsApart_of_quiet {op : Op R V} (hop : ∀ id decision, op ≠ .applyVoiceId id decision)
    (hmark : ∀ a b, op = .addCannotLink a b → ¬ st.Different a b)
    (hmerge : ∀ a b reason, op = .merge a b reason → ¬ st.MergeSucceeds a b) :
    st.TellsApart op := by
  cases op with
  | applyVoiceId id decision => exact absurd rfl (hop id decision)
  | addCannotLink a b => exact fun s t hs ht hne => absurd ⟨s, t, hs, ht, hne⟩ (hmark a b rfl)
  | merge a b reason =>
    exact fun s t hs ht hallow => absurd ⟨s, t, hs, ht, hallow⟩ (hmerge a b reason rfl)
  | _ => exact True.intro

/-- **One call keeps the ids of speakers held apart different exactly when it
tells them apart.** -/
theorem enrolledApart_step (h : st.EnrolmentsSound) (hapart : st.EnrolledApart) (op : Op R V) :
    (st.step op).EnrolledApart ↔ st.TellsApart op := by
  rw [enrolledApart_iff_toldApart (h.step op)]
  have htold := (enrolledApart_iff_toldApart h).mp hapart
  have heff := (step_cases h.1 op).2.2
  by_cases hop : ∀ id decision, op ≠ .applyVoiceId id decision
  · rw [(steady_step st op hop).enrolmentOf]
    cases heff with
    | quiet _ hq hmark hmerge =>
      rw [hq.parent, hq.marks]
      exact iff_of_true htold (tellsApart_of_quiet hop hmark hmerge)
    | marked a b hd hp hm =>
      rw [hp, hm]
      exact addCannotLink_toldApart h htold hd
    | merged a b reason hs hp hm =>
      rw [hp, hm]
      exact merge_toldApart h htold hs reason
  · simp only [not_forall, not_not] at hop
    obtain ⟨id, decision, rfl⟩ := hop
    cases heff with
    | quiet _ hq =>
      rw [hq.parent, hq.marks]
      exact applyVoiceId_toldApart h htold id decision

/-! ## Sessions -/

/-- **Speakers held apart keep different ids of the registry along a session
exactly when every call of it tells them apart.** -/
theorem enrolledApart_iff (sessionId : String) (config : SasttConfig R) (version : String)
    (ops : List (Op R V)) :
    Along step EnrolledApart (new sessionId config version) ops
      ↔ EachStep step TellsApart (new sessionId config version) ops :=
  along_iff (enrolmentsSound_new sessionId config version) (fun _ hs => nomatch hs)
    (fun _ op h => h.step op) (fun _ op h hapart => enrolledApart_step h hapart op)

end Steps

/-- Speakers that nobody identifies are told apart. -/
theorem enrolledApart_of_unnamed :
    Along (step (R := ℚ) (V := ℚ)) EnrolledApart (new "session" {} "model")
      [.createSessionSpeaker "a" none none, .createSessionSpeaker "b" none none] := by
  refine (enrolledApart_iff "session" {} "model" _).mpr (fun pre op hpre => ?_)
  have hop := hpre.subset (List.mem_append_right pre (List.mem_singleton_self op))
  simp only [List.mem_cons, List.not_mem_nil, or_false] at hop
  rcases hop with rfl | rfl
  · exact trivial
  · exact trivial

/-- **Two speakers heard at the same time are both enrolled as one person.**
Each is identified from its own voice, and both decisions are accepted. -/
theorem enrolledApart_lost :
    ¬ Along (step (R := ℚ) (V := ℚ)) EnrolledApart (new "session" {} "model")
      [.createSessionSpeaker "a" none none, .createSessionSpeaker "b" none none,
        .addCannotLink "sess_spk_a" "sess_spk_b",
        .applyVoiceId "sess_spk_a" ⟨.enrolled, some "emp_1", some "An", none, none, ""⟩,
        .applyVoiceId "sess_spk_b" ⟨.enrolled, some "emp_1", some "An", none, none, ""⟩] := by
  intro h
  have hlast := h _ (List.prefix_refl _)
  revert hlast
  decide +kernel

end SessionSpeakerState

end Sastt
