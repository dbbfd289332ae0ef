import Sastt.Application.SpeakerRecords

/-!
# How many speakers a session holds

A session holds a bounded number of speakers, and the sink for words nobody
claims is not meant to be one of them. The bound is compared with the number
of active speakers, among which the sink is once it has been asked for. So
from then on a session holds one speaker less than it should, and this is
noticed exactly where the place of the sink is the last one
(`sinkExempt_iff`).

The rest of what is promised of the sink holds in every session: there is one
at most, and it stays unknown, which is a state without a way out.
-/

namespace Sastt

open Method

namespace SessionSpeakerState

section Counting

variable {R V : Type} [Field R] [LinearOrder R] [IsStrictOrderedRing R]
  {st : SessionSpeakerState R V}

/-- The active speakers other than the sink. -/
def persons (st : SessionSpeakerState R V) : List (SessionSpeaker R V) :=
  st.active.filter (fun s => st.unattributedId ≠ some s.sessionSpeakerId)

/-- **The sink is among the active speakers.** -/
def SinkActive (st : SessionSpeakerState R V) : Prop :=
  ∃ s ∈ st.active, st.unattributedId = some s.sessionSpeakerId

/-- The bound on the speakers of the session. -/
def capacity (st : SessionSpeakerState R V) : ℕ := st.config.product.maxSessionSpeakers

theorem WellFormed.map_registered (h : st.WellFormed) :
    st.registered.map SessionSpeaker.sessionSpeakerId = st.order := by
  unfold registered
  rw [List.map_filterMap]
  conv_rhs => rw [← List.filterMap_some (l := st.order)]
  refine List.filterMap_congr (fun id hid => ?_)
  obtain ⟨s, hs⟩ := Option.isSome_iff_exists.mp ((h.mem_order id).mp hid)
  rw [hs]
  exact congrArg some (h.speaker id s hs).keyed

/-- No two active speakers have one id. -/
theorem WellFormed.nodup_active (h : st.WellFormed) :
    (st.active.map SessionSpeaker.sessionSpeakerId).Nodup := by
  refine List.Nodup.sublist ?_ h.nodup
  rw [← h.map_registered]
  exact List.filter_sublist.map _

/-- **The sink takes one of the places that are counted.** -/
theorem WellFormed.activeSpeakerCount_eq (h : st.WellFormed) [Decidable st.SinkActive] :
    st.activeSpeakerCount = st.persons.length + if st.SinkActive then 1 else 0 := by
  have hsplit := st.active.length_eq_length_filter_add
    (fun s => decide (st.unattributedId ≠ some s.sessionSpeakerId))
  have hsinks : (st.active.filter
      (fun s => !decide (st.unattributedId ≠ some s.sessionSpeakerId))).length
      = if st.SinkActive then 1 else 0 := by
    cases hsink : st.unattributedId with
    | none =>
      have hno : ¬ st.SinkActive := by
        rintro ⟨s, -, hs⟩
        rw [hsink] at hs
        cases hs
      rw [if_neg hno]
      simp
    | some id =>
      have hmem : st.SinkActive ↔ id ∈ st.active.map SessionSpeaker.sessionSpeakerId := by
        unfold SinkActive
        rw [hsink, List.mem_map]
        simp only [Option.some.injEq, eq_comm]
      have hcount := h.nodup_active.count (a := id)
      rw [List.count_eq_countP, List.countP_map, List.countP_eq_length_filter] at hcount
      simp only [hmem, ← hcount]
      congr 2
      funext s
      rw [Bool.eq_iff_iff, Function.comp_apply, beq_iff_eq, Bool.not_eq_true',
        decide_eq_false_iff_not, not_not, Option.some.injEq]
      exact eq_comm
  rw [hsinks] at hsplit
  exact hsplit

/-- **A clean cluster is let in just when the count is below the bound.** -/
theorem createSessionSpeaker_returns_iff {ulid : String}
    (hfresh : st.speakers ("sess_spk_" ++ ulid) = none) (clusterId label : Option String) :
    (∃ s, (createSessionSpeaker ulid clusterId label st).1 = .ok s)
      ↔ st.activeSpeakerCount < st.capacity := by
  unfold createSessionSpeaker capacity
  rw [read_bind]
  by_cases hfull : st.config.product.maxSessionSpeakers ≤ st.activeSpeakerCount
  · rw [if_pos hfull]
    exact iff_of_false nofun (Nat.not_lt.mpr hfull)
  · rw [if_neg hfull]
    refine iff_of_true ?_ (Nat.not_le.mp hfull)
    rw [modify_bind, SpeakerIdentityStateMachine.new, if_pos (by decide), ofExcept_ok_bind,
      bind_of_ok (register_of_fresh hfresh)]
    exact ⟨_, rfl⟩

/-- **So is a temporary speaker.** -/
theorem createTemporarySpeaker_returns_iff {ulid : String}
    (hfresh : st.speakers ("sess_spk_" ++ ulid) = none) :
    (∃ s, (createTemporarySpeaker ulid st).1 = .ok s) ↔ st.activeSpeakerCount < st.capacity := by
  unfold createTemporarySpeaker canAdmitSpeaker capacity
  rw [read_bind]
  by_cases hroom : st.activeSpeakerCount < st.config.product.maxSessionSpeakers
  · refine iff_of_true ?_ hroom
    rw [if_neg (by simp [hroom]), modify_bind, SpeakerIdentityStateMachine.new,
      if_pos (by decide), ofExcept_ok_bind, bind_of_ok (register_of_fresh hfresh)]
    exact ⟨_, rfl⟩
  · refine iff_of_false ?_ hroom
    rw [if_pos (by simp [hroom])]
    rintro ⟨s, hs⟩
    cases hs

end Counting

/-! ## The sink along a run -/

section Sink

variable {R V : Type} [Field R] [LinearOrder R] [IsStrictOrderedRing R] [AddCommGroup V]
  [Module R V] [EmbeddingSpace R V] {st : SessionSpeakerState R V}

/-- **The sink, once there is one, is a speaker given up as unknown.** -/
def SinkUnknown (st : SessionSpeakerState R V) : Prop :=
  ∀ id, st.unattributedId = some id → ∃ s, st.speakers id = some s ∧ s.state = .unknown

omit [AddCommGroup V] [Module R V] [EmbeddingSpace R V] in
theorem SinkUnknown.of_steady {st' : SessionSpeakerState R V} (h : st.SinkUnknown)
    (hs : Steady st st') : st'.SinkUnknown := by
  intro id hid
  rcases hs.chosen id hid with hold | hnew
  · obtain ⟨s, hs₁, hunknown⟩ := h id hold
    obtain ⟨s', hs', hsame⟩ := hs.kept id s hs₁
    exact ⟨s', hs', hsame.unknown hunknown⟩
  · exact hnew

/-- **No call chooses another sink or finds out who the sink is.** -/
theorem sink_step (h : st.WellFormed) (hs : st.SinkUnknown) (op : Op R V) :
    (st.step op).SinkUnknown
      ∧ ∀ id, st.unattributedId = some id → (st.step op).unattributedId = some id := by
  by_cases hop : ∃ id decision, op = .applyVoiceId id decision
  · obtain ⟨id, decision, rfl⟩ := hop
    rcases applyVoiceId_cases h id decision with
      ⟨heq, -⟩ | ⟨s, s', hget, hspeakers, hsink, hid, -, hcases⟩
    · have hstep : st.step (.applyVoiceId id decision) = st := heq
      rw [hstep]
      exact ⟨hs, fun _ hk => hk⟩
    · have hspeakers' : (st.step (.applyVoiceId id decision)).speakers
          = Function.update st.speakers s.sessionSpeakerId (some s') := hspeakers
      have hsink' : (st.step (.applyVoiceId id decision)).unattributedId = st.unattributedId :=
        hsink
      refine ⟨fun k hk => ?_, fun k hk => hsink'.trans hk⟩
      obtain ⟨t, ht, hunknown⟩ := hs k (hsink'.symm.trans hk)
      rw [hspeakers']
      by_cases hself : k = s.sessionSpeakerId
      · obtain ⟨-, hs₁, hs₂, -⟩ := h.get_eq_ok hget
        rw [hself, hs₂, hs₁] at ht
        cases ht
        refine ⟨s', by rw [hself, Function.update_self], ?_⟩
        rcases hcases with ⟨-, hstate, -⟩ | ⟨-, henrolled, -⟩
        · rw [hstate, hunknown]
          rfl
        · rw [henrolled] at hunknown
          cases hunknown
      · exact ⟨t, by rw [Function.update_of_ne hself, ht], hunknown⟩
  · have hsteady := steady_step st op (fun id decision he => hop ⟨id, decision, he⟩)
    exact ⟨hs.of_steady hsteady, hsteady.sink⟩

theorem SinkUnknown.run (h : st.WellFormed) (hs : st.SinkUnknown) (ops : List (Op R V)) :
    (st.run ops).SinkUnknown := by
  induction ops generalizing st with
  | nil => exact hs
  | cons op ops ih => exact ih (step_cases h op).1 (sink_step h hs op).1

theorem Reachable.sinkUnknown (h : st.Reachable) : st.SinkUnknown := by
  obtain ⟨sessionId, config, version, ops, rfl⟩ := h
  exact SinkUnknown.run (wellFormed_new sessionId config version) (fun _ hid => nomatch hid) ops

/-! ## The place of the sink -/

/-- **The sink takes nobody's place**: a speaker is let in just when fewer
persons than the bound are active, and the session says so; and the sink is
asked for as often as one likes, but made once, and stays unknown. -/
structure SinkExempt (st : SessionSpeakerState R V) : Prop where
  admits : st.canAdmitSpeaker = true ↔ st.persons.length < st.capacity
  session : ∀ ulid clusterId label, st.speakers ("sess_spk_" ++ ulid) = none →
    ((∃ s, (createSessionSpeaker ulid clusterId label st).1 = .ok s)
      ↔ st.persons.length < st.capacity)
  temporary : ∀ ulid, st.speakers ("sess_spk_" ++ ulid) = none →
    ((∃ s, (createTemporarySpeaker ulid st).1 = .ok s) ↔ st.persons.length < st.capacity)
  once : ∀ id, st.unattributedId = some id → ∃ s, st.speakers id = some s ∧ s.state = .unknown
    ∧ ∀ ulid, unattributedSpeaker ulid st = (.ok s, st)
  stays : ∀ id, st.unattributedId = some id → ∀ op : Op R V,
    (st.step op).unattributedId = some id
      ∧ ∃ s, (st.step op).speakers id = some s ∧ s.state = .unknown

/-- **When the sink takes nobody's place**: when it is not active, or its
place is not the last one. -/
theorem sinkExempt_iff (st : SessionSpeakerState R V) (h : st.Reachable) :
    st.SinkExempt ↔ ¬ (st.SinkActive ∧ st.persons.length + 1 = st.capacity) := by
  classical
  have hcount := h.wellFormed.activeSpeakerCount_eq
  have hadmits : st.canAdmitSpeaker = true ↔ st.activeSpeakerCount < st.capacity :=
    decide_eq_true_iff
  have hiff : (st.activeSpeakerCount < st.capacity ↔ st.persons.length < st.capacity)
      ↔ ¬ (st.SinkActive ∧ st.persons.length + 1 = st.capacity) := by
    rw [hcount]
    split_ifs with hsink
    · simp only [hsink, true_and]
      omega
    · simp [hsink]
  constructor
  · intro hexempt
    exact hiff.mp (hadmits.symm.trans hexempt.admits)
  · intro hplace
    have hroom := hiff.mpr hplace
    refine ⟨hadmits.trans hroom, fun ulid clusterId label hfresh => ?_, fun ulid hfresh => ?_,
      fun id hid => ?_, fun id hid op => ?_⟩
    · exact (createSessionSpeaker_returns_iff hfresh clusterId label).trans hroom
    · exact (createTemporarySpeaker_returns_iff hfresh).trans hroom
    · obtain ⟨s, hs, hunknown⟩ := h.sinkUnknown id hid
      refine ⟨s, hs, hunknown, fun ulid => ?_⟩
      rw [unattributedSpeaker_again hid, hs]
      rfl
    · obtain ⟨hunknown, hkept⟩ := sink_step h.wellFormed h.sinkUnknown op
      exact ⟨hkept id hid, hunknown id (hkept id hid)⟩

end Sink

/-! ### Four persons and the sink -/

section Full

/-- A session that has heard four clusters, and words nobody claims. -/
def fourAndSink : SessionSpeakerState ℚ ℚ :=
  (new "session" {} "campplus").run
    [.createSessionSpeaker "1" (some "a") none, .createSessionSpeaker "2" (some "b") none,
      .createSessionSpeaker "3" (some "c") none, .createSessionSpeaker "4" (some "d") none,
      .unattributedSpeaker "5"]

theorem fourAndSink_reachable : fourAndSink.Reachable := ⟨"session", {}, "campplus", _, rfl⟩

/-- **The fifth person of a session is turned away**, because words nobody
claims were heard before. -/
theorem fifth_person_refused :
    fourAndSink.Reachable ∧ fourAndSink.persons.length < fourAndSink.capacity
      ∧ fourAndSink.canAdmitSpeaker = false ∧ ¬ fourAndSink.SinkExempt := by
  have hroom : fourAndSink.persons.length < fourAndSink.capacity := by decide +kernel
  have hfull : fourAndSink.canAdmitSpeaker = false := by decide +kernel
  refine ⟨fourAndSink_reachable, hroom, hfull, fun hexempt => ?_⟩
  have hadmits := hexempt.admits.mpr hroom
  rw [hfull] at hadmits
  cases hadmits

/-- A session that has heard three of them. -/
def threeAndSink : SessionSpeakerState ℚ ℚ :=
  (new "session" {} "campplus").run
    [.createSessionSpeaker "1" (some "a") none, .createSessionSpeaker "2" (some "b") none,
      .createSessionSpeaker "3" (some "c") none, .unattributedSpeaker "5"]

/-- There, the sink takes nobody's place. -/
theorem sinkExempt_of_three :
    threeAndSink.persons.length = 3 ∧ threeAndSink.unattributedId.isSome = true
      ∧ threeAndSink.SinkExempt :=
  ⟨by decide +kernel, by decide +kernel, (sinkExempt_iff _ ⟨"session", {}, "campplus", _, rfl⟩).mpr
    (fun h => absurd h.2 (by decide +kernel))⟩

end Full

end SessionSpeakerState

end Sastt
