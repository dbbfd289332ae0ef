import Sastt.Application.SessionMethods

/-!
# Runs of the session state

A session is driven by calling the methods of its state one after another.
`Op` has one constructor for each of them, with its arguments; `step` makes
the call, whether it returns or raises, and `run` makes a sequence of calls.

`step_cases` says once what a call can do to a well-formed state: leave it
as it was up to `Quiet`, mark two different speakers with each other, or
merge one speaker into another. What holds along runs is derived from it.
-/

namespace Sastt

variable {R V : Type} [Field R] [LinearOrder R] [IsStrictOrderedRing R] [AddCommGroup V]
  [Module R V] [EmbeddingSpace R V]

/-- A call of a method of the session state, with its arguments. A method
that may mint a speaker comes with the unique id it would draw. -/
inductive Op (R V : Type) [Field R] [LinearOrder R] [IsStrictOrderedRing R] [AddCommGroup V]
    [Module R V] [EmbeddingSpace R V]
  | createSessionSpeaker (ulid : String) (clusterId label : Option String)
  | createTemporarySpeaker (ulid : String)
  | ensureClusterSpeaker (ulid clusterId : String)
  | unattributedSpeaker (ulid : String)
  | addCannotLink (firstId secondId : String)
  | merge (sourceId targetId reason : String)
  | promoteProvisional (id reason : String) (label : Option String)
  | applyVoiceId (id : String) (decision : VoiceIdDecision R)
  | updatePrototype (id : String) (embedding : SpeakerEmbedding R V) (linkMargin : Option R)
      (sourceQualityPassed : Bool)
  | bufferProvisionalEmbedding (id : String) (embedding : SpeakerEmbedding R V)
  | finalizeUnresolved
  | drainLabelChanges

namespace SessionSpeakerState

/-- The state a call leaves behind, whether it returned or raised. -/
def step (st : SessionSpeakerState R V) : Op R V → SessionSpeakerState R V
  | .createSessionSpeaker ulid clusterId label => (createSessionSpeaker ulid clusterId label st).2
  | .createTemporarySpeaker ulid => (createTemporarySpeaker ulid st).2
  | .ensureClusterSpeaker ulid clusterId => (ensureClusterSpeaker ulid clusterId st).2
  | .unattributedSpeaker ulid => (unattributedSpeaker ulid st).2
  | .addCannotLink firstId secondId => (addCannotLink firstId secondId st).2
  | .merge sourceId targetId reason => (merge sourceId targetId reason st).2
  | .promoteProvisional id reason label => (promoteProvisional id reason label st).2
  | .applyVoiceId id decision => (applyVoiceId id decision st).2
  | .updatePrototype id embedding margin passed => (updatePrototype id embedding margin passed st).2
  | .bufferProvisionalEmbedding id embedding => (bufferProvisionalEmbedding id embedding st).2
  | .finalizeUnresolved => (finalizeUnresolved st).2
  | .drainLabelChanges => (drainLabelChanges st).2

/-- A sequence of calls. -/
def run (st : SessionSpeakerState R V) (ops : List (Op R V)) : SessionSpeakerState R V :=
  ops.foldl step st

@[simp] theorem run_nil (st : SessionSpeakerState R V) : st.run [] = st := rfl

@[simp] theorem run_append (st : SessionSpeakerState R V) (ops more : List (Op R V)) :
    st.run (ops ++ more) = (st.run ops).run more := List.foldl_append

@[simp] theorem run_singleton (st : SessionSpeakerState R V) (op : Op R V) :
    st.run [op] = st.step op := rfl

/-- The states of a session: those some sequence of calls leads to from a
state without speakers. -/
def Reachable (st : SessionSpeakerState R V) : Prop :=
  ∃ sessionId config version ops, st = (new sessionId config version).run ops

/-- Two ids stand for different speakers. -/
def Different (st : SessionSpeakerState R V) (a b : String) : Prop :=
  ∃ A B, st.get a = .ok A ∧ st.get b = .ok B ∧ A.sessionSpeakerId ≠ B.sessionSpeakerId

instance (st : SessionSpeakerState R V) (a b : String) : Decidable (st.Different a b) :=
  match ha : st.get a, hb : st.get b with
  | .ok A, .ok B =>
    decidable_of_iff (A.sessionSpeakerId ≠ B.sessionSpeakerId) <| by
      unfold Different
      rw [ha, hb]
      simp
  | .error _, _ => .isFalse fun ⟨_, _, h, _⟩ => by rw [ha] at h; cases h
  | _, .error _ => .isFalse fun ⟨_, _, _, h, _⟩ => by rw [hb] at h; cases h

variable {st : SessionSpeakerState R V}

omit [AddCommGroup V] [Module R V] [EmbeddingSpace R V] in
theorem WellFormed.different_iff (h : st.WellFormed) {a b : String} :
    st.Different a b ↔ st.Registered a ∧ st.Registered b ∧ st.rootOf a ≠ st.rootOf b := by
  constructor
  · rintro ⟨A, B, ha, hb, hne⟩
    obtain ⟨hra, -, hA, -⟩ := h.get_eq_ok ha
    obtain ⟨hrb, -, hB, -⟩ := h.get_eq_ok hb
    exact ⟨hra, hrb, by rwa [← hA, ← hB]⟩
  · rintro ⟨hra, hrb, hne⟩
    obtain ⟨A, ha, -, hA, -⟩ := h.get_of_registered hra
    obtain ⟨B, hb, -, hB, -⟩ := h.get_of_registered hrb
    exact ⟨A, B, ha, hb, by rwa [hA, hB]⟩

/-- The merge of two ids goes through: both stand for somebody, and the
marks allow it. -/
def MergeSucceeds (st : SessionSpeakerState R V) (a b : String) : Prop :=
  ∃ A B, st.get a = .ok A ∧ st.get b = .ok B ∧ MergeAllowed A B

/-- What a merge that goes through makes of the records. -/
theorem speakers_step_merge (h : st.WellFormed) {a b : String} {A B : SessionSpeaker R V}
    (ha : st.get a = .ok A) (hb : st.get b = .ok B) (hallow : MergeAllowed A B)
    (reason k : String) : (st.step (.merge a b reason)).speakers k
      = (st.speakers k).map (mergedRecord A B reason k) := by
  obtain ⟨_, st', hok, -, -, -, -, hrecords⟩ := merge_of_allowed h ha hb hallow reason
  have hstep : st.step (.merge a b reason) = st' := congrArg Prod.snd hok
  rw [hstep]
  exact hrecords k

/-- A merge that does not go through changes nothing. -/
theorem step_merge_same (h : st.WellFormed) {a b : String} (hnot : ¬ st.MergeSucceeds a b)
    (reason : String) : st.step (.merge a b reason) = st := by
  rcases ha : st.get a with e | A
  · exact merge_of_get_error (Or.inl ha) reason
  rcases hb : st.get b with e | B
  · exact merge_of_get_error (Or.inr hb) reason
  exact congrArg Prod.snd
    (merge_of_not_allowed h ha hb (fun hallow => hnot ⟨A, B, ha, hb, hallow⟩) reason)

/-- What a call does to the pointers and the marks of the speakers. -/
inductive Effect (st st' : SessionSpeakerState R V) : Op R V → Prop
  /-- A call that neither marks nor merges changes neither. -/
  | quiet (op : Op R V) (hq : Quiet st st')
      (hmark : ∀ a b, op = .addCannotLink a b → ¬ st.Different a b)
      (hmerge : ∀ a b reason, op = .merge a b reason → ¬ st.MergeSucceeds a b) :
      Effect st st' op
  | marked (a b : String) (hd : st.Different a b) (hp : st'.parentOf = st.parentOf)
      (hm : st'.marksOf = markPair st.marksOf (st.rootOf a) (st.rootOf b)) :
      Effect st st' (.addCannotLink a b)
  | merged (a b reason : String) (hs : st.MergeSucceeds a b)
      (hp : st'.parentOf = Function.update st.parentOf (st.rootOf a) (some (st.rootOf b)))
      (hm : st'.marksOf = handMarks st.marksOf (st.rootOf a) (st.rootOf b)) :
      Effect st st' (.merge a b reason)

/-- Calls that stay inside the frame are quiet. -/
theorem effect_of_keeps {op : Op R V} (h : st.WellFormed) (hk : Keeps st (st.step op))
    (hmark : ∀ a b, op ≠ .addCannotLink a b) (hmerge : ∀ a b reason, op ≠ .merge a b reason) :
    (st.step op).WellFormed ∧ Extends st (st.step op) ∧ Effect st (st.step op) op :=
  ⟨(hk h).1, (hk h).2.toExtends, .quiet op (hk h).2 (fun a b he => absurd he (hmark a b))
    (fun a b reason he => absurd he (hmerge a b reason))⟩

/-- **What one call can do to a well-formed state.** -/
theorem step_cases (h : st.WellFormed) (op : Op R V) :
    (st.step op).WellFormed ∧ Extends st (st.step op) ∧ Effect st (st.step op) op := by
  cases op with
  | addCannotLink a b =>
    by_cases hd : st.Different a b
    · have ⟨A, B, ha, hb, _⟩ := hd
      obtain ⟨st', hok, h', hp, hm, hext⟩ :=
        addCannotLink_spec h ha hb (h.different_iff.mp hd).2.2
      have hstep : st.step (.addCannotLink a b) = st' := congrArg Prod.snd hok
      rw [hstep]
      exact ⟨h', hext, .marked a b hd hp hm⟩
    · have hstep : st.step (.addCannotLink a b) = st := by
        refine addCannotLink_same h (fun A B ha hb => ?_)
        by_contra hne
        exact hd ⟨A, B, ha, hb, by
          rwa [(h.get_eq_ok ha).2.2.1, (h.get_eq_ok hb).2.2.1]⟩
      rw [hstep]
      refine ⟨h, Extends.refl st, .quiet _ (Quiet.refl st) ?_ (fun _ _ _ he => nomatch he)⟩
      rintro a' b' ⟨⟩
      exact hd
  | merge a b reason =>
    by_cases hs : st.MergeSucceeds a b
    · have ⟨A, B, ha, hb, hallow⟩ := hs
      obtain ⟨_, st', hok, h', hp, hm, hext, -⟩ := merge_of_allowed h ha hb hallow reason
      have hstep : st.step (.merge a b reason) = st' := congrArg Prod.snd hok
      rw [hstep]
      exact ⟨h', hext, .merged a b reason hs hp hm⟩
    · rw [step_merge_same h hs reason]
      refine ⟨h, Extends.refl st, .quiet _ (Quiet.refl st) (fun _ _ he => nomatch he) ?_⟩
      rintro a' b' reason' ⟨⟩
      exact hs
  | createSessionSpeaker ulid clusterId label =>
    exact effect_of_keeps h (within_createSessionSpeaker ulid clusterId label st) nofun nofun
  | createTemporarySpeaker ulid =>
    exact effect_of_keeps h (within_createTemporarySpeaker ulid st) nofun nofun
  | ensureClusterSpeaker ulid clusterId =>
    exact effect_of_keeps h (within_ensureClusterSpeaker ulid clusterId st) nofun nofun
  | unattributedSpeaker ulid =>
    exact effect_of_keeps h (within_unattributedSpeaker ulid st) nofun nofun
  | promoteProvisional id reason label =>
    exact effect_of_keeps h (within_promoteProvisional id reason label st) nofun nofun
  | applyVoiceId id decision =>
    exact effect_of_keeps h (within_applyVoiceId id decision st) nofun nofun
  | updatePrototype id embedding margin passed =>
    exact effect_of_keeps h (within_updatePrototype id embedding margin passed st) nofun nofun
  | bufferProvisionalEmbedding id embedding =>
    exact effect_of_keeps h (within_bufferProvisionalEmbedding id embedding st) nofun nofun
  | finalizeUnresolved => exact effect_of_keeps h (within_finalizeUnresolved st) nofun nofun
  | drainLabelChanges => exact effect_of_keeps h (within_drainLabelChanges st) nofun nofun

/-- **Every call keeps the state well formed**, and so does every run. -/
theorem WellFormed.run (h : st.WellFormed) (ops : List (Op R V)) : (st.run ops).WellFormed := by
  induction ops generalizing st with
  | nil => exact h
  | cons op ops ih => exact ih (step_cases h op).1

theorem Extends.run (h : st.WellFormed) (ops : List (Op R V)) : Extends st (st.run ops) := by
  induction ops generalizing st with
  | nil => exact Extends.refl st
  | cons op ops ih => exact (step_cases h op).2.1.trans (ih (step_cases h op).1)

theorem Reachable.wellFormed (h : st.Reachable) : st.WellFormed := by
  obtain ⟨sessionId, config, version, ops, rfl⟩ := h
  exact (wellFormed_new sessionId config version).run ops

end SessionSpeakerState

end Sastt
