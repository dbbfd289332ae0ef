import Sastt.Application.SpeakerRecords
import Sastt.Lib.Programs

/-!
# Merged speakers

A speaker merged into another stays registered and forwards to it, and an id
stands for the speaker its pointers end at. `Resolves` says what a reader of
the session relies on: the loop that follows the pointers ends, merged ids
stand for whom the ids they forward to stand for, and the active speakers are
those some id stands for.

The pointer and the identity state of a merged speaker are written separately.
`merge` sets the pointer whatever state its source is in, and takes the machine
to `MERGED` from the two states only that the diagram leads there from. So a
record that forwards is either merged or in one of the three other states
(`Settled`), and it stays in that state: `GoesOn` is what any other call may do
to a record, and `Outlives` what any call may.
-/

namespace Sastt

open Method

variable {R V : Type} [Field R] [LinearOrder R] [IsStrictOrderedRing R]

namespace SessionSpeakerState

variable {st st' : SessionSpeakerState R V} {id : String} {s : SessionSpeaker R V}

/-! ## Whom an id stands for -/

/-- **A merged speaker stands for whom it forwards to.** -/
theorem WellFormed.get_mergedInto (h : st.WellFormed) {t : String} (hs : st.speakers id = some s)
    (ht : s.mergedInto = some t) : st.get t = st.get id := by
  have hparent : st.parentOf id = some t := (parentOf_of_speaker hs).trans ht
  have hroot : st.rootOf id = st.rootOf t := by
    rw [rootOf_eq h.ends, rootOf_eq h.ends]
    exact (st.forest h.ends).root_of_parent_some hparent
  obtain ⟨A, hA, hAs, -⟩ := h.get_of_registered (Option.isSome_iff_exists.mpr ⟨s, hs⟩)
  obtain ⟨B, hB, hBs, -⟩ := h.get_of_registered (h.parentOf_registered hparent)
  rw [hroot, hBs] at hAs
  rw [hA, hB, Option.some.inj hAs]

/-- The active speakers are those some id stands for. -/
theorem WellFormed.mem_active_iff_get (h : st.WellFormed) :
    s ∈ st.active ↔ ∃ id, st.get id = .ok s := by
  constructor
  · intro hs
    obtain ⟨hrecord, hroot⟩ := h.mem_active.mp hs
    exact ⟨s.sessionSpeakerId, h.get_of_root hrecord hroot⟩
  · rintro ⟨id, hget⟩
    obtain ⟨-, hrecord, hid, hroot⟩ := h.get_eq_ok hget
    rw [← hid] at hrecord
    exact h.mem_active.mpr ⟨hrecord, hroot⟩

/-- **Every registered id stands for a speaker that was not merged.** -/
structure Resolves (st : SessionSpeakerState R V) : Prop where
  /-- The pointers of a registered id end at such a speaker. -/
  get : ∀ id, st.Registered id →
    ∃ s, st.get id = .ok s ∧ st.speakers s.sessionSpeakerId = some s ∧ s.mergedInto = none
  /-- All ids of a chain stand for the same speaker. -/
  forward : ∀ id s t, st.speakers id = some s → s.mergedInto = some t → st.get t = st.get id
  nodup : st.order.Nodup
  mem_order : ∀ id, id ∈ st.order ↔ st.Registered id
  active : ∀ s, s ∈ st.active ↔ ∃ id, st.get id = .ok s

theorem WellFormed.resolves (h : st.WellFormed) : st.Resolves where
  get id hid := by
    obtain ⟨s, hget, hs, hroot, hm⟩ := h.get_of_registered hid
    exact ⟨s, hget, hroot ▸ hs, hm⟩
  forward _ _ _ hs ht := h.get_mergedInto hs ht
  nodup := h.nodup
  mem_order := h.mem_order
  active _ := h.mem_active_iff_get

end SessionSpeakerState

/-! ## Records that forward -/

namespace SessionSpeaker

variable {s s' s'' : SessionSpeaker R V}

/-- **A record whose pointer and machine do not contradict each other.** It
forwards if it is merged, and has left the states a merge leads on from if it
forwards; and its machine accounts for its state. -/
structure Settled (s : SessionSpeaker R V) : Prop where
  forwards : s.state = .merged → s.mergedInto ≠ none
  left : s.mergedInto ≠ none → s.state ≠ .provisional ∧ s.state ≠ .sessionAnonymous
  accounted : s.machine.Accounted

omit [Field R] [LinearOrder R] [IsStrictOrderedRing R] in
/-- A record that has just been registered. -/
theorem settled_of_active (hroot : s.mergedInto = none) (hstate : s.state ≠ .merged)
    (hpath : s.machine.Accounted) : s.Settled where
  forwards h := absurd h hstate
  left h := absurd hroot h
  accounted := hpath

/-- **The record went on** as any call but a merge lets it: its machine moved
along the diagram, and only if the record does not forward. -/
structure GoesOn (s s' : SessionSpeaker R V) : Prop where
  pointer : s'.mergedInto = s.mergedInto
  machine : s'.machine = s.machine
    ∨ s.mergedInto = none ∧ s'.state ≠ .merged ∧ s.machine.Reaches s'.machine

section

omit [Field R] [LinearOrder R] [IsStrictOrderedRing R]

theorem GoesOn.refl (s : SessionSpeaker R V) : GoesOn s s := ⟨rfl, Or.inl rfl⟩

theorem GoesOn.trans (h : GoesOn s s') (h' : GoesOn s' s'') : GoesOn s s'' := by
  refine ⟨h'.pointer.trans h.pointer, ?_⟩
  rcases h'.machine with hsame | ⟨hroot, hstate, hreaches⟩
  · rcases h.machine with hsame' | ⟨hroot, hstate, hreaches⟩
    · exact Or.inl (hsame.trans hsame')
    · refine Or.inr ⟨hroot, ?_, hsame ▸ hreaches⟩
      show s''.machine.state ≠ .merged
      rw [hsame]
      exact hstate
  · have hroot' : s.mergedInto = none := h.pointer.symm.trans hroot
    rcases h.machine with hsame' | ⟨-, -, hreaches'⟩
    · exact Or.inr ⟨hroot', hstate, hsame' ▸ hreaches⟩
    · exact Or.inr ⟨hroot', hstate, hreaches'.trans hreaches⟩

theorem Settled.of_goesOn (h : s.Settled) (hgo : GoesOn s s') : s'.Settled := by
  rcases hgo.machine with hsame | ⟨hroot, hstate, hreaches⟩
  · have hstate : s'.state = s.state := congrArg SpeakerIdentityStateMachine.state hsame
    refine ⟨?_, ?_, hsame ▸ h.accounted⟩
    · rw [hstate, hgo.pointer]
      exact h.forwards
    · rw [hstate, hgo.pointer]
      exact h.left
  · exact settled_of_active (hgo.pointer.trans hroot) hstate (h.accounted.of_reaches hreaches)

end

end SessionSpeaker

open SessionSpeaker

namespace SessionSpeakerState

variable {st st' st'' : SessionSpeakerState R V} {id : String} {s : SessionSpeaker R V}

/-- All records are settled. -/
def AllSettled (st : SessionSpeakerState R V) : Prop := ∀ id s, st.speakers id = some s → s.Settled

/-- **All records went on**, and new ones forward nowhere. -/
structure GoOn (st st' : SessionSpeakerState R V) : Prop where
  kept : ∀ id s, st.speakers id = some s → ∃ s', st'.speakers id = some s' ∧ GoesOn s s'
  added : ∀ id s', st.speakers id = none → st'.speakers id = some s' →
    s'.mergedInto = none ∧ s'.Settled

instance : Std.Refl (GoOn (R := R) (V := V)) where
  refl _ := ⟨fun _ s hs => ⟨s, hs, GoesOn.refl s⟩, fun _ _ hn hs => nomatch hn.symm.trans hs⟩

instance : IsTrans (SessionSpeakerState R V) GoOn where
  trans _ st' _ h h' := by
    refine ⟨fun id s hs => ?_, fun id s'' hn hs => ?_⟩
    · obtain ⟨s', hs', hgo⟩ := h.kept id s hs
      obtain ⟨s'', hs'', hgo'⟩ := h'.kept id s' hs'
      exact ⟨s'', hs'', hgo.trans hgo'⟩
    · cases hmid : st'.speakers id with
      | none => exact h'.added id s'' hmid hs
      | some s' =>
        obtain ⟨t, ht, hgo⟩ := h'.kept id s' hmid
        rw [hs] at ht
        cases ht
        obtain ⟨hroot, hsettled⟩ := h.added id s' hn hmid
        exact ⟨hgo.pointer.trans hroot, hsettled.of_goesOn hgo⟩

theorem AllSettled.of_goOn (h : st.AllSettled) (hgo : GoOn st st') : st'.AllSettled := by
  intro id s' hs'
  cases hs : st.speakers id with
  | none => exact (hgo.added id s' hs hs').2
  | some s =>
    obtain ⟨t, ht, hst⟩ := hgo.kept id s hs
    rw [hs'] at ht
    cases ht
    exact (h id s hs).of_goesOn hst

/-! ## Calls that go on -/

theorem goOn_assign {f : SessionSpeaker R V → SessionSpeaker R V}
    (hf : ∀ s, st.speakers id = some s → GoesOn s (f s)) : GoOn st (st.assign id f) where
  kept k s hs := by
    rw [speakers_assign, hs]
    by_cases hk : k = id
    · exact ⟨f s, by simp [hk], hf s (hk ▸ hs)⟩
    · exact ⟨s, by simp [hk], GoesOn.refl s⟩
  added k s hn hs := by
    rw [speakers_assign, hn] at hs
    cases hs

theorem within_updateSpeaker_goOn {f : SessionSpeaker R V → SessionSpeaker R V}
    (hm : ∀ s, (f s).mergedInto = s.mergedInto) (hmachine : ∀ s, (f s).machine = s.machine) :
    Within GoOn (updateSpeaker id f) :=
  fun _ => goOn_assign (fun s _ => ⟨hm s, Or.inl (hmachine s)⟩)

/-- Only the records are looked at. -/
theorem GoOn.of_eq (hs : st'.speakers = st.speakers) : GoOn st st' where
  kept _ s h := ⟨s, by rw [hs, h], GoesOn.refl s⟩
  added _ _ hn h := by
    rw [hs, hn] at h
    cases h

/-- **A transition of a record that does not forward**, to any state but the
merged one. -/
theorem goOn_transition (hs : st.speakers id = some s) (hroot : s.mergedInto = none)
    {toState : IdentityState} (hne : toState ≠ .merged) (reason : String) :
    GoOn st (transition id toState reason st).2 := by
  unfold transition
  rw [read_bind, hs]
  show GoOn st ((ofExcept (s.machine.transition toState reason) >>= _) st).2
  cases hm : s.machine.transition toState reason with
  | error e => exact Std.Refl.refl st
  | ok machine =>
    obtain ⟨hedge, rfl⟩ := SpeakerIdentityStateMachine.transition_eq_ok hm
    refine goOn_assign (fun r hr => ?_)
    rw [hs] at hr
    cases hr
    exact ⟨rfl, Or.inr ⟨hroot, hne, SpeakerIdentityStateMachine.reaches_move hedge reason⟩⟩

theorem within_recordLabelChange_goOn (change : LabelChange) :
    Within GoOn (recordLabelChange (R := R) (V := V) change) := fun _ => GoOn.of_eq rfl

theorem within_relabel_goOn (speaker : SessionSpeaker R V) (newLabel reason : String) :
    Within GoOn (relabel speaker newLabel reason) :=
  within_relabel_of (within_updateSpeaker_goOn (fun _ => rfl) (fun _ => rfl))
    within_recordLabelChange_goOn

theorem goOn_insertSpeaker (hroot : s.mergedInto = none) (hs : s.Settled)
    (hfresh : st.speakers s.sessionSpeakerId = none) : GoOn st (st.insertSpeaker s) :=
  ⟨fun _ t ht => ⟨t, speakers_insertSpeaker hfresh ht, GoesOn.refl t⟩,
    fun _ _ hn ht => eq_of_insertSpeaker hn ht ▸ ⟨hroot, hs⟩⟩

theorem within_register_goOn (hroot : s.mergedInto = none) (hs : s.Settled) :
    Within GoOn (register s) :=
  within_register_of (fun _ => goOn_insertSpeaker hroot hs)

theorem within_createSessionSpeaker_goOn (ulid : String) (clusterId label : Option String) :
    Within GoOn (createSessionSpeaker (R := R) (V := V) ulid clusterId label) :=
  within_createSessionSpeaker_of label (fun _ => GoOn.of_eq rfl) (fun _ =>
    within_register_goOn rfl (settled_of_active rfl nofun
      (SpeakerIdentityStateMachine.accounted_new (by decide))))

theorem within_createTemporarySpeaker_goOn (ulid : String) :
    Within GoOn (createTemporarySpeaker (R := R) (V := V) ulid) :=
  within_createTemporarySpeaker_of (fun _ => GoOn.of_eq rfl) (fun _ =>
    within_register_goOn rfl (settled_of_active rfl nofun
      (SpeakerIdentityStateMachine.accounted_new (by decide))))

theorem within_ensureClusterSpeaker_goOn (ulid clusterId : String) :
    Within GoOn (ensureClusterSpeaker (R := R) (V := V) ulid clusterId) :=
  within_ensureClusterSpeaker_of (within_createSessionSpeaker_goOn _ _ _)

omit [Field R] [LinearOrder R] [IsStrictOrderedRing R] in
/-- The sink enters as a provisional speaker and is given up at once. -/
theorem sinkSpeaker_settled (ulid : String) : (sinkSpeaker (R := R) (V := V) ulid).Settled :=
  settled_of_active rfl nofun
    ((SpeakerIdentityStateMachine.accounted_new (by decide)).of_reaches
      (SpeakerIdentityStateMachine.reaches_move (by decide) _))

theorem within_unattributedSpeaker_goOn (ulid : String) :
    Within GoOn (unattributedSpeaker (R := R) (V := V) ulid) :=
  within_unattributedSpeaker_of ulid (fun _ _ hfresh =>
    have hgo := goOn_insertSpeaker (s := sinkSpeaker ulid) rfl (sinkSpeaker_settled ulid) hfresh
    ⟨hgo.kept, hgo.added⟩)

theorem within_addCannotLink_goOn (a b : String) :
    Within GoOn (addCannotLink (R := R) (V := V) a b) :=
  within_addCannotLink_of
    (fun _ _ => within_updateSpeaker_goOn (fun _ => rfl) (fun _ => rfl)) a b

theorem within_drainLabelChanges_goOn : Within GoOn (drainLabelChanges (R := R) (V := V)) :=
  within_drainLabelChanges_of (fun _ => GoOn.of_eq rfl)

/-- Promoting whoever an id stands for. -/
theorem WellFormed.goOn_promoteProvisional (h : st.WellFormed) (id reason : String)
    (label : Option String) : GoOn st (promoteProvisional id reason label st).2 := by
  unfold promoteProvisional
  rw [read_bind]
  cases hget : st.get id with
  | error e => exact Std.Refl.refl st
  | ok s =>
    obtain ⟨-, hs, hid, hroot⟩ := h.get_eq_ok hget
    rw [← hid] at hs
    rw [ofExcept_ok_bind]
    split
    · exact Std.Refl.refl st
    · refine rel_bind (goOn_transition hs hroot (by decide) reason) (fun _ => ?_)
      split
      · exact within_bind (within_relabel_goOn _ _ _) (fun _ => within_pure _)
      · exact within_bind (within_modify (fun st => GoOn.of_eq rfl))
          (fun _ => within_bind (within_relabel_goOn _ _ _) (fun _ => within_pure _))

theorem goOn_acceptTransition (hs : st.speakers s.sessionSpeakerId = some s)
    (hroot : s.mergedInto = none) : GoOn st (acceptTransition s st).2 := by
  unfold acceptTransition
  split
  · exact goOn_transition hs hroot (by decide) _
  · split
    · exact goOn_transition hs hroot (by decide) _
    · exact Std.Refl.refl st

/-- Naming whoever an id stands for, or doubting them. -/
theorem WellFormed.goOn_applyVoiceId (h : st.WellFormed) (id : String)
    (decision : VoiceIdDecision R) : GoOn st (applyVoiceId id decision st).2 := by
  unfold applyVoiceId
  rw [read_bind]
  cases hget : st.get id with
  | error e => exact Std.Refl.refl st
  | ok s =>
    obtain ⟨-, hs, hid, hroot⟩ := h.get_eq_ok hget
    rw [← hid] at hs
    rw [ofExcept_ok_bind]
    cases decision.status with
    | enrolled =>
      dsimp only
      split
      · exact Std.Refl.refl st
      · refine rel_bind (goOn_acceptTransition hs hroot) (fun _ => ?_)
        exact within_bind (within_updateSpeaker_goOn (fun _ => rfl) (fun _ => rfl))
          (fun _ => within_bind (within_relabel_goOn _ _ _) (fun _ => within_pure _))
    | ambiguous =>
      dsimp only
      split
      · exact rel_bind (goOn_transition hs hroot (by decide) _) (fun _ => within_pure _)
      · exact Std.Refl.refl st
    | unknown => exact Std.Refl.refl st
    | uncalibrated => exact Std.Refl.refl st

/-- **What a call that merges nobody keeps** of a well-formed state with settled
records. -/
def Tracked (st st' : SessionSpeakerState R V) : Prop :=
  st.WellFormed → st.AllSettled → st'.WellFormed ∧ GoOn st st'

instance : Std.Refl (Tracked (R := R) (V := V)) where
  refl st h _ := ⟨h, Std.Refl.refl st⟩

instance : IsTrans (SessionSpeakerState R V) Tracked where
  trans st st' st'' h h' hst hs := by
    obtain ⟨hst', hgo⟩ := h hst hs
    obtain ⟨hst'', hgo'⟩ := h' hst' (hs.of_goOn hgo)
    exact ⟨hst'', IsTrans.trans st st' st'' hgo hgo'⟩

/-- A speaker that is still provisional forwards nowhere. -/
theorem within_finalizeSpeaker_tracked (id : String) :
    Within Tracked (finalizeSpeaker (R := R) (V := V) id) := by
  intro st h hsettled
  refine ⟨(within_finalizeSpeaker id st h).1, ?_⟩
  unfold finalizeSpeaker
  rw [read_bind]
  cases hs : st.speakers id with
  | none => exact Std.Refl.refl st
  | some s =>
    dsimp only
    split
    · exact Std.Refl.refl st
    · next hstate =>
      have hroot : s.mergedInto = none := by
        by_contra hm
        exact hstate ((hsettled id s hs).left hm).1
      split
      · exact rel_bind (goOn_transition hs hroot (by decide) _) (fun _ => within_pure _)
      · split
        · exact rel_bind (h.goOn_promoteProvisional id _ _) (fun _ => within_pure _)
        · exact Std.Refl.refl st

theorem within_finalizeUnresolved_tracked :
    Within Tracked (finalizeUnresolved (R := R) (V := V)) :=
  within_finalizeUnresolved_of within_finalizeSpeaker_tracked

/-! ## Merges -/

/-- **The pointer and the state of every speaker say the same.** -/
def PointersAgree (st : SessionSpeakerState R V) : Prop :=
  ∀ id s, st.speakers id = some s → (s.mergedInto.isSome ↔ s.state = .merged)

theorem PointersAgree.of_goOn (h : st.PointersAgree) (hgo : GoOn st st')
    (hsettled : st'.AllSettled) : st'.PointersAgree := by
  intro id s' hs'
  -- a record that forwards nowhere is not merged, because it is settled
  have hactive : s'.mergedInto = none → (s'.mergedInto.isSome ↔ s'.state = .merged) := by
    intro hnone
    rw [hnone]
    exact ⟨nofun, fun hstate => absurd hnone ((hsettled id s' hs').forwards hstate)⟩
  cases hs : st.speakers id with
  | none => exact hactive (hgo.added id s' hs hs').1
  | some s =>
    obtain ⟨r, hr, hst⟩ := hgo.kept id s hs
    rw [hs'] at hr
    cases hr
    rcases hst.machine with hsame | ⟨hroot, -⟩
    · have hstate : s'.state = s.state := congrArg SpeakerIdentityStateMachine.state hsame
      rw [hst.pointer, hstate]
      exact h id s hs
    · exact hactive (hst.pointer.trans hroot)

/-- **Every record that forwards stays as it is**, and one that begins to forward
is merged if the diagram leads there from its state, and else keeps its
state. -/
structure Outlives (st st' : SessionSpeakerState R V) : Prop where
  forwarded : ∀ id s t, st.speakers id = some s → s.mergedInto = some t →
    ∃ s', st'.speakers id = some s' ∧ s'.mergedInto = some t ∧ s'.machine = s.machine
  merged : ∀ id s s' t, st.speakers id = some s → s.mergedInto = none →
    st'.speakers id = some s' → s'.mergedInto = some t →
    (s.state = .provisional ∨ s.state = .sessionAnonymous → s'.state = .merged)
      ∧ (s.state ≠ .provisional → s.state ≠ .sessionAnonymous → s'.machine = s.machine)
  added : ∀ id s', st.speakers id = none → st'.speakers id = some s' → s'.mergedInto = none

theorem GoOn.outlives (h : GoOn st st') : Outlives st st' where
  forwarded id s t hs ht := by
    obtain ⟨s', hs', hgo⟩ := h.kept id s hs
    refine ⟨s', hs', hgo.pointer.trans ht, hgo.machine.resolve_right (fun hmoved => ?_)⟩
    exact nomatch hmoved.1.symm.trans ht
  merged id s s' t hs hroot hs' ht := by
    obtain ⟨r, hr, hgo⟩ := h.kept id s hs
    rw [hs'] at hr
    cases hr
    rw [hgo.pointer, hroot] at ht
    cases ht
  added id s' hn hs' := (h.added id s' hn hs').1

section Merging

variable {source target : SessionSpeaker R V} {reason : String}

/-- The machine of a merged speaker. -/
theorem mergedMachine_cases (machine : SpeakerIdentityStateMachine) (reason : String) :
    ((machine.state = .provisional ∨ machine.state = .sessionAnonymous)
        ∧ (mergedMachine machine reason).state = .merged
        ∧ machine.Reaches (mergedMachine machine reason))
      ∨ (machine.state ≠ .provisional ∧ machine.state ≠ .sessionAnonymous
        ∧ mergedMachine machine reason = machine) := by
  by_cases hp : machine.state = .provisional
  · refine Or.inl ⟨Or.inl hp, ?_, ?_⟩
    · rw [mergedMachine_provisional hp]
      rfl
    · have hfirst : IdentityState.sessionAnonymous ∈ machine.state.allowedTransitions := by
        rw [hp]
        decide
      have hsecond : IdentityState.merged
          ∈ (machine.move .sessionAnonymous reason).state.allowedTransitions := by
        rw [SpeakerIdentityStateMachine.move_state]
        decide
      rw [mergedMachine_provisional hp]
      exact (SpeakerIdentityStateMachine.reaches_move hfirst reason).trans
        (SpeakerIdentityStateMachine.reaches_move hsecond reason)
  · by_cases ha : machine.state = .sessionAnonymous
    · have hedge : IdentityState.merged ∈ machine.state.allowedTransitions := by
        rw [ha]
        decide
      rw [mergedMachine_anonymous ha]
      exact Or.inl ⟨Or.inr ha, rfl, SpeakerIdentityStateMachine.reaches_move hedge reason⟩
    · exact Or.inr ⟨hp, ha, mergedMachine_other hp ha reason⟩

omit [Field R] [LinearOrder R] [IsStrictOrderedRing R] in
theorem mergedRecord_source (source target s : SessionSpeaker R V) (reason : String) :
    (mergedRecord source target reason source.sessionSpeakerId s).machine
        = mergedMachine s.machine reason
      ∧ (mergedRecord source target reason source.sessionSpeakerId s).mergedInto
        = some target.sessionSpeakerId := by
  unfold mergedRecord
  rw [if_pos rfl]
  exact ⟨rfl, rfl⟩

omit [Field R] [LinearOrder R] [IsStrictOrderedRing R] in
/-- A merge writes to the machine and the pointer of its source only. -/
theorem mergedRecord_other (source target s : SessionSpeaker R V) (reason : String)
    (hid : id ≠ source.sessionSpeakerId) :
    (mergedRecord source target reason id s).machine = s.machine
      ∧ (mergedRecord source target reason id s).mergedInto = s.mergedInto := by
  unfold mergedRecord
  rw [if_neg hid]
  split <;> exact ⟨rfl, rfl⟩

/-- The records before and after a merge that goes through. -/
theorem exists_of_mergedRecord (hrecords : ∀ k, st'.speakers k
      = (st.speakers k).map (mergedRecord source target reason k))
    {s' : SessionSpeaker R V} (hs' : st'.speakers id = some s') :
    ∃ s, st.speakers id = some s ∧ mergedRecord source target reason id s = s' :=
  Option.map_eq_some_iff.mp (hrecords id ▸ hs')

variable (hs : st.speakers source.sessionSpeakerId = some source)
  (hroot : source.mergedInto = none)
  (hrecords : ∀ k, st'.speakers k = (st.speakers k).map (mergedRecord source target reason k))

include hs hroot hrecords

theorem outlives_merge : Outlives st st' where
  forwarded id s t hids ht := by
    have hne : id ≠ source.sessionSpeakerId := by
      rintro rfl
      rw [hs] at hids
      cases hids
      exact nomatch hroot.symm.trans ht
    obtain ⟨hmachine, hpointer⟩ := mergedRecord_other source target s reason hne
    exact ⟨_, by rw [hrecords, hids]; rfl, hpointer.trans ht, hmachine⟩
  merged id s s' t hids hnone hs' ht := by
    obtain ⟨r, hr, rfl⟩ := exists_of_mergedRecord hrecords hs'
    rw [hids] at hr
    cases hr
    by_cases hid : id = source.sessionSpeakerId
    · subst hid
      have hmachine := (mergedRecord_source source target s reason).1
      show (_ → (mergedRecord source target reason _ s).machine.state = _) ∧ _
      rw [hmachine]
      rcases mergedMachine_cases s.machine reason with ⟨hfrom, hto, -⟩ | ⟨hp, ha, hsame⟩
      · exact ⟨fun _ => hto, fun hp ha => absurd hfrom (not_or.mpr ⟨hp, ha⟩)⟩
      · exact ⟨fun hfrom => absurd hfrom (not_or.mpr ⟨hp, ha⟩), fun _ _ => hsame⟩
    · rw [(mergedRecord_other source target s reason hid).2, hnone] at ht
      cases ht
  added id s' hn hs' := by
    rw [hrecords, hn] at hs'
    cases hs'

omit hs hroot in
theorem AllSettled.merge (h : st.AllSettled) : st'.AllSettled := by
  intro id s' hs'
  obtain ⟨s, hids, rfl⟩ := exists_of_mergedRecord hrecords hs'
  by_cases hid : id = source.sessionSpeakerId
  · subst hid
    obtain ⟨hmachine, hpointer⟩ := mergedRecord_source source target s reason
    have hsettled := h _ s hids
    have hstate : (mergedRecord source target reason source.sessionSpeakerId s).state
        = (mergedMachine s.machine reason).state :=
      congrArg SpeakerIdentityStateMachine.state hmachine
    refine ⟨fun _ => by rw [hpointer]; exact nofun, fun _ => ?_, ?_⟩
    · rw [hstate]
      rcases mergedMachine_cases s.machine reason with ⟨-, hto, -⟩ | ⟨hp, ha, hsame⟩
      · rw [hto]
        exact ⟨nofun, nofun⟩
      · rw [hsame]
        exact ⟨hp, ha⟩
    · rw [hmachine]
      rcases mergedMachine_cases s.machine reason with ⟨-, -, hreaches⟩ | ⟨-, -, hsame⟩
      · exact hsettled.accounted.of_reaches hreaches
      · rw [hsame]
        exact hsettled.accounted
  · obtain ⟨hmachine, hpointer⟩ := mergedRecord_other source target s reason hid
    exact (h id s hids).of_goesOn ⟨hpointer, Or.inl hmachine⟩

/-- **After a merge, pointers and states agree exactly if** the diagram leads from
the state of the source to the merged one. -/
theorem pointersAgree_merge (hsettled : st.AllSettled) (h : st.PointersAgree) :
    st'.PointersAgree ↔ source.state = .provisional ∨ source.state = .sessionAnonymous := by
  obtain ⟨hmachine, hpointer⟩ := mergedRecord_source source target source reason
  have hsource : st'.speakers source.sessionSpeakerId
      = some (mergedRecord source target reason source.sessionSpeakerId source) := by
    rw [hrecords, hs]
    rfl
  have hstate : (mergedRecord source target reason source.sessionSpeakerId source).state
      = (mergedMachine source.machine reason).state :=
    congrArg SpeakerIdentityStateMachine.state hmachine
  constructor
  · intro hagree
    have hmerged := (hagree _ _ hsource).mp (by rw [hpointer]; rfl)
    rw [hstate] at hmerged
    rcases mergedMachine_cases source.machine reason with ⟨hfrom, -⟩ | ⟨-, -, hsame⟩
    · exact hfrom
    · rw [hsame] at hmerged
      exact absurd hroot ((hsettled _ source hs).forwards hmerged)
  · intro hfrom id s' hs'
    obtain ⟨s, hids, rfl⟩ := exists_of_mergedRecord hrecords hs'
    by_cases hid : id = source.sessionSpeakerId
    · subst hid
      rw [hs] at hids
      cases hids
      rw [hpointer, hstate]
      rcases mergedMachine_cases source.machine reason with ⟨-, hto, -⟩ | ⟨hp, ha, -⟩
      · exact iff_of_true rfl hto
      · exact absurd hfrom (not_or.mpr ⟨hp, ha⟩)
    · obtain ⟨hmachine', hpointer'⟩ := mergedRecord_other source target s reason hid
      rw [hpointer', show (mergedRecord source target reason id s).state = s.state from
        congrArg SpeakerIdentityStateMachine.state hmachine']
      exact h id s hids

end Merging

/-! ## Sessions -/

section Steps

variable [AddCommGroup V] [Module R V] [EmbeddingSpace R V]

theorem within_setPrototype_goOn (id : String) (e : SpeakerEmbedding R V) :
    Within GoOn (setPrototype id e) :=
  within_setPrototype_of (fun _ => within_updateSpeaker_goOn (fun _ => rfl) (fun _ => rfl))
    (fun _ => within_updateSpeaker_goOn (fun _ => rfl) (fun _ => rfl)) e

/-- **Every call but a merge that goes through lets the records go on.** -/
theorem goOn_step (h : st.WellFormed) (hsettled : st.AllSettled) (op : Op R V)
    (hop : ∀ a b reason, op = .merge a b reason → ¬ st.MergeSucceeds a b) :
    GoOn st (st.step op) := by
  cases op with
  | createSessionSpeaker ulid clusterId label =>
    exact within_createSessionSpeaker_goOn ulid clusterId label st
  | createTemporarySpeaker ulid => exact within_createTemporarySpeaker_goOn ulid st
  | ensureClusterSpeaker ulid clusterId => exact within_ensureClusterSpeaker_goOn ulid clusterId st
  | unattributedSpeaker ulid => exact within_unattributedSpeaker_goOn ulid st
  | addCannotLink a b => exact within_addCannotLink_goOn a b st
  | merge a b reason =>
    rw [step_merge_same h (hop a b reason rfl)]
    exact Std.Refl.refl st
  | promoteProvisional id reason label => exact h.goOn_promoteProvisional id reason label
  | applyVoiceId id decision => exact h.goOn_applyVoiceId id decision
  | updatePrototype id e margin passed =>
    exact within_gatedUpdate_of (within_setPrototype_goOn · e) st
  | bufferProvisionalEmbedding id e =>
    exact within_gatedUpdate_of (within_setPrototype_goOn · e) st
  | finalizeUnresolved => exact (within_finalizeUnresolved_tracked st h hsettled).2
  | drainLabelChanges => exact within_drainLabelChanges_goOn st

/-- The source of every merge that goes through is in one of the two states the
diagram leads to the merged one from. -/
def MergesAnonymous (st : SessionSpeakerState R V) : Op R V → Prop
  | .merge a b _ => ∀ source target, st.get a = .ok source → st.get b = .ok target →
      MergeAllowed source target →
      source.state = .provisional ∨ source.state = .sessionAnonymous
  | _ => True

theorem mergesAnonymous_of_quiet {op : Op R V}
    (hop : ∀ a b reason, op = .merge a b reason → ¬ st.MergeSucceeds a b) :
    st.MergesAnonymous op := by
  cases op with
  | merge a b reason =>
    exact fun s t ha hb hallow => absurd ⟨s, t, ha, hb, hallow⟩ (hop a b reason rfl)
  | _ => exact True.intro

/-- **What one call does to the pointers and the machines**: forwarding records stay
as they are, all records stay settled, and pointers and states go on agreeing
exactly if the call merges no other speaker than an anonymous one. -/
theorem merged_step (h : st.WellFormed) (hsettled : st.AllSettled) (op : Op R V) :
    Outlives st (st.step op) ∧ (st.step op).AllSettled
      ∧ (st.PointersAgree → ((st.step op).PointersAgree ↔ st.MergesAnonymous op)) := by
  by_cases hop : ∀ a b reason, op = .merge a b reason → ¬ st.MergeSucceeds a b
  · have hgo := goOn_step h hsettled op hop
    have hafter := hsettled.of_goOn hgo
    exact ⟨hgo.outlives, hafter, fun hagree =>
      iff_of_true (hagree.of_goOn hgo hafter) (mergesAnonymous_of_quiet hop)⟩
  · simp only [not_forall, not_not] at hop
    obtain ⟨a, b, reason, rfl, source, target, ha, hb, hallow⟩ := hop
    obtain ⟨-, hs, hid, hroot⟩ := h.get_eq_ok ha
    rw [← hid] at hs
    have hrecords := speakers_step_merge h ha hb hallow reason
    refine ⟨outlives_merge hs hroot hrecords, hsettled.merge hrecords, fun hagree => ?_⟩
    rw [pointersAgree_merge hs hroot hrecords hsettled hagree]
    refine ⟨fun hfrom s t hgets hgett _ => ?_, fun hc => hc source target ha hb hallow⟩
    rw [ha] at hgets
    cases hgets
    exact hfrom

/-- **Merged speakers always resolve**: in every state of a session, whatever calls
led there, every id that was ever registered stands for a speaker that was not
merged. -/
theorem resolves_run (sessionId : String) (config : SasttConfig R) (version : String)
    (ops more : List (Op R V)) :
    ((new sessionId config version).run (ops ++ more)).Resolves
      ∧ ∀ id, ((new sessionId config version).run ops).Registered id →
        ((new sessionId config version).run (ops ++ more)).Registered id := by
  have h := (wellFormed_new (R := R) (V := V) sessionId config version).run ops
  rw [run_append]
  exact ⟨(h.run more).resolves, (Extends.run h more).registered⟩

/-- **The pointers and the states of merged speakers along a session.** All records
are settled throughout, and each call leaves the forwarding ones as they are;
pointers and states agree throughout exactly if no speaker is merged that the
diagram does not lead to the merged state. -/
theorem merged_run (sessionId : String) (config : SasttConfig R) (version : String)
    (ops : List (Op R V)) :
    Along step AllSettled (new sessionId config version) ops
      ∧ EachStep step (fun st op => Outlives st (st.step op)) (new sessionId config version) ops
      ∧ (Along step PointersAgree (new sessionId config version) ops
        ↔ EachStep step MergesAnonymous (new sessionId config version) ops) := by
  have hnew : (new sessionId config version : SessionSpeakerState R V).WellFormed
      ∧ (new sessionId config version : SessionSpeakerState R V).AllSettled :=
    ⟨wellFormed_new sessionId config version, fun _ _ hs => nomatch hs⟩
  have hkeep : ∀ (st : SessionSpeakerState R V) op, st.WellFormed ∧ st.AllSettled →
      (st.step op).WellFormed ∧ (st.step op).AllSettled :=
    fun st op hst => ⟨(step_cases hst.1 op).1, (merged_step hst.1 hst.2 op).2.1⟩
  have hinv : ∀ pre : List (Op R V), (pre.foldl step (new sessionId config version)).WellFormed
      ∧ (pre.foldl step (new sessionId config version)).AllSettled := fun pre =>
    invariant_foldl (I := fun st : SessionSpeakerState R V => st.WellFormed ∧ st.AllSettled)
      hnew hkeep
  refine ⟨fun pre _ => (hinv pre).2, fun pre op _ => ?_, ?_⟩
  · exact (merged_step (hinv pre).1 (hinv pre).2 op).1
  · exact along_iff hnew (fun _ _ hs => nomatch hs) hkeep
      (fun st op hst hagree => (merged_step hst.1 hst.2 op).2.2 hagree)

end Steps

/-- A temporary speaker that is merged into a cluster's. -/
theorem resolves_after_merge :
    ((new "session" {} "model" : SessionSpeakerState ℚ ℚ).run
      ([.createSessionSpeaker "a" none none, .createTemporarySpeaker "b"] ++
        [.merge "sess_spk_b" "sess_spk_a" "reconciled"])).Resolves :=
  (resolves_run "session" {} "model" _ _).1

/-- Its pointer and its state agree. -/
theorem merged_run_of_temporary :
    Along (step (R := ℚ) (V := ℚ)) AllSettled (new "session" {} "model")
      [.createSessionSpeaker "a" none none, .createTemporarySpeaker "b",
        .merge "sess_spk_b" "sess_spk_a" "reconciled"] :=
  (merged_run "session" {} "model" _).1

/-- **A speaker that was enrolled is merged, and stays enrolled.** -/
theorem enrolled_merged_stays :
    ¬ Along (step (R := ℚ) (V := ℚ)) PointersAgree (new "session" {} "model")
      [.createSessionSpeaker "a" none none, .createSessionSpeaker "b" none none,
        .applyVoiceId "sess_spk_b" ⟨.enrolled, some "emp_1", some "An", none, none, ""⟩,
        .merge "sess_spk_b" "sess_spk_a" "reconciled"] := by
  intro h
  have hlast := h _ (List.prefix_refl _)
  have hagree := hlast "sess_spk_b" _ rfl
  revert hagree
  decide +kernel

end SessionSpeakerState

end Sastt
