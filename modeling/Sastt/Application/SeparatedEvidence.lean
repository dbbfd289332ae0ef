import Sastt.Application.PrototypeUpdates
import Sastt.Application.SessionTwins
import Sastt.Lib.Programs

/-!
# Where separated speech goes

Separated speech is not to shape the prototype of a speaker of a cluster, unless the
configuration allows it. `update_prototype` asks for that. What is buffered on a
temporary speaker is not asked for anything, and `merge` hands the prototype of its
source over to a target that has none, whoever it is.

`shaped` says along a session whose prototypes separated speech has gone into. As
long as no such prototype is handed to a speaker of a cluster, two sessions that were
given other separated speech have the same prototypes for the speakers of clusters
(`clusterPrototype_run`).
-/

namespace Sastt

open Method SessionSpeaker

variable {R V : Type} [Field R] [LinearOrder R] [IsStrictOrderedRing R] [AddCommGroup V]
  [Module R V] [EmbeddingSpace R V]

/-- **Other separated speech**, of another direction and another quality. -/
structure SpeakerEmbedding.Redrawn (e e' : SpeakerEmbedding R V) : Prop where
  origin : e.origin = .separated
  same : e'.modelVersion = e.modelVersion ∧ e'.speechDurationMs = e.speechDurationMs
    ∧ e'.origin = e.origin ∧ e'.interval = e.interval ∧ e'.sourceTrack = e.sourceTrack

/-- **The same call**, but for what was heard in separated speech. -/
inductive Op.Redrawn : Op R V → Op R V → Prop
  | same (op : Op R V) : Redrawn op op
  | update (id : String) {e e' : SpeakerEmbedding R V} (linkMargin : Option R)
      (sourceQualityPassed : Bool) (h : e.Redrawn e') :
      Redrawn (.updatePrototype id e linkMargin sourceQualityPassed)
        (.updatePrototype id e' linkMargin sourceQualityPassed)
  | buffer (id : String) {e e' : SpeakerEmbedding R V} (h : e.Redrawn e') :
      Redrawn (.bufferProvisionalEmbedding id e) (.bufferProvisionalEmbedding id e')

namespace SessionSpeakerState

variable {st st' : SessionSpeakerState R V} {id : String} {s s' : SessionSpeaker R V}
  {e e' : SpeakerEmbedding R V} {apart before : Finset String}

/-! ## Whose prototypes are shaped -/

/-- The embedding went into a prototype. -/
def takenIn : Except PyError PrototypeUpdate → Bool
  | .ok u => u.accepted
  | .error _ => false

/-- The merge hands the prototype of a speaker of `before` to its target. -/
def handsOver (st : SessionSpeakerState R V) (before : Finset String) (a b : String) : Bool :=
  match st.get a, st.get b with
  | .ok source, .ok target =>
    decide (MergeAllowed source target) && decide (source.sessionSpeakerId ∈ before)
      && target.prototype.isNone
  | _, _ => false

/-- **Whose prototypes separated speech has gone into** after a call. -/
def shaped (st : SessionSpeakerState R V) (before : Finset String) : Op R V → Finset String
  | .updatePrototype id e margin passed =>
    if e.origin = .separated ∧ takenIn (updatePrototype id e margin passed st).1 = true then
      insert (st.rootOf id) before
    else before
  | .bufferProvisionalEmbedding id e =>
    if e.origin = .separated ∧ takenIn (bufferProvisionalEmbedding id e st).1 = true then
      insert (st.rootOf id) before
    else before
  | .merge a b _ => if st.handsOver before a b then insert (st.rootOf b) before else before
  | _ => before

/-- One call, and whose prototypes are shaped after it. -/
def watch (w : SessionSpeakerState R V × Finset String) (op : Op R V) :
    SessionSpeakerState R V × Finset String := (w.1.step op, w.1.shaped w.2 op)

/-- **No prototype that separated speech has gone into is handed to a speaker of a
cluster.** -/
def KeepsOut (w : SessionSpeakerState R V × Finset String) : Op R V → Prop
  | .merge a b _ => w.1.handsOver w.2 a b = true →
      match w.1.get b with
      | .ok target => target.clusterId = none
      | .error _ => True
  | _ => True

instance (w : SessionSpeakerState R V × Finset String) : DecidablePred (KeepsOut w) := fun op => by
  unfold KeepsOut
  split
  · split <;> infer_instance
  · infer_instance

/-- The prototype of a speaker of a cluster. -/
def clusterPrototype (st : SessionSpeakerState R V) (id : String) :
    Option (Option (SpeakerPrototype R V)) :=
  ((st.speakers id).filter (fun s => s.clusterId.isSome)).map SessionSpeaker.prototype

omit [AddCommGroup V] [Module R V] [EmbeddingSpace R V] in
theorem handsOver_iff {a b : String} : st.handsOver before a b = true
    ↔ ∃ source target, st.get a = .ok source ∧ st.get b = .ok target
      ∧ MergeAllowed source target ∧ source.sessionSpeakerId ∈ before
      ∧ target.prototype = none := by
  unfold handsOver
  constructor
  · intro h
    split at h
    · next source target hget hget' =>
      rw [Bool.and_eq_true, Bool.and_eq_true, decide_eq_true_eq, decide_eq_true_eq,
        Option.isNone_iff_eq_none] at h
      exact ⟨source, target, hget, hget', h.1.1, h.1.2, h.2⟩
    · cases h
  · rintro ⟨source, target, hget, hget', hallowed, hbefore, hnone⟩
    rw [hget, hget']
    dsimp only
    rw [hnone, decide_eq_true hallowed, decide_eq_true hbefore]
    rfl

theorem watch_fst (w : SessionSpeakerState R V × Finset String) (ops : List (Op R V)) :
    (ops.foldl watch w).1 = w.1.run ops := by
  induction ops generalizing w with
  | nil => rfl
  | cons op ops ih => exact ih (watch w op)

/-! ## Gates -/

/-- The gates look at what is the same of both embeddings. -/
theorem bufferGate_alike (h : Alike apart st st') (hs : s'.state = s.state)
    (hversion : e'.modelVersion = e.modelVersion)
    (hspeech : e'.speechDurationMs = e.speechDurationMs) :
    st'.bufferGate s' e' = st.bufferGate s e := by
  unfold bufferGate minimumSpeechMs
  rw [hs, hversion, hspeech, h.version, h.config]

theorem updateGate_alike (h : Alike apart st st') (hs : s'.state = s.state)
    (e : SpeakerEmbedding R V)
    (margin : Option R) (passed : Bool) :
    st'.updateGate s' e margin passed = st.updateGate s e margin passed := by
  unfold updateGate minimumSpeechMs
  rw [hs, h.version, h.config]

/-- **Separated speech does not pass the gate**, unless that is allowed. -/
theorem updateGate_separated
    (hconfig : st.config.speakerEmbedding.updateFromSeparatedSources = false)
    (horigin : e.origin = .separated) (s : SessionSpeaker R V) (margin : Option R) (passed : Bool) :
    ∃ reason, st.updateGate s e margin passed = some reason := by
  unfold updateGate
  rw [hconfig, if_pos horigin]
  split
  · exact ⟨_, rfl⟩
  · split
    · exact ⟨_, rfl⟩
    · split
      · exact ⟨_, rfl⟩
      · exact ⟨_, rfl⟩

/-- A speaker that evidence can be buffered on is provisional. -/
theorem provisional_of_bufferGate (h : st.bufferGate s e = none) : s.state = .provisional := by
  unfold bufferGate at h
  by_contra hstate
  rw [if_pos hstate] at h
  cases h

/-! ## Two sessions -/

/-- What both update methods end with returns that the embedding was accepted. -/
theorem returns_setPrototype (id : String) (e : SpeakerEmbedding R V) :
    Returns (fun u : PrototypeUpdate => u.accepted = true) (setPrototype id e) := by
  refine returns_bind (returns_of_true _) (fun st _ => ?_)
  cases st.speakers id with
  | none => exact fun _ _ _ h => nomatch h
  | some s =>
    dsimp only
    cases s.prototype with
    | none =>
      exact returns_bind (returns_of_true _) (fun _ _ =>
        returns_bind (returns_of_true _) (fun _ _ => returns_pure rfl))
    | some current =>
      exact returns_bind (returns_of_true _) (fun _ _ => returns_bind (returns_of_true _)
        (fun _ _ => returns_bind (returns_of_true _) (fun _ _ => returns_pure rfl)))

/-- What was not taken in raised. -/
theorem raises_of_not_takenIn (hnot : takenIn (setPrototype id e st).1 = false) :
    (setPrototype id e st).1.isOk = false := by
  rcases hset : setPrototype id e st with ⟨err | u, t⟩
  · rfl
  · rw [hset] at hnot
    have haccepted := returns_setPrototype id e st u t hset
    exact absurd (haccepted.symm.trans hnot) nofun

/-- Evidence that raises in both sessions leaves them alike. -/
theorem Alike.setPrototype_raises (h : Alike apart st st') (hid : id ∉ apart)
    (hraises : (setPrototype id e st).1.isOk = false)
    (hraises' : (setPrototype id e' st').1.isOk = false) :
    Alike apart (setPrototype id e st).2 (setPrototype id e' st').2 := by
  unfold setPrototype at hraises hraises' ⊢
  rw [read_bind] at hraises hraises' ⊢
  rw [read_bind]
  rcases (h.speakers id).elim with ⟨hs, hs'⟩ | ⟨s, s', hs, hs', htwins⟩
  · rw [hs, hs']
    exact h
  · rw [hs] at hraises ⊢
    rw [hs'] at hraises' ⊢
    dsimp only at hraises hraises' ⊢
    rw [(htwins.evidence hid).2] at hraises' ⊢
    cases hp : s.prototype with
    | none =>
      rw [hp] at hraises hraises'
      dsimp only at hraises hraises' ⊢
      cases hnew : SpeakerPrototype.fromEmbedding id e with
      | ok p =>
        rw [hnew] at hraises
        cases hraises
      | error err =>
        cases hnew' : SpeakerPrototype.fromEmbedding id e' with
        | ok p =>
          rw [hnew'] at hraises'
          cases hraises'
        | error err' => exact h
    | some current =>
      rw [hp] at hraises hraises'
      dsimp only at hraises hraises' ⊢
      cases hnew : current.updatedWith e with
      | ok p =>
        rw [hnew] at hraises
        cases hraises
      | error err =>
        cases hnew' : current.updatedWith e' with
        | ok p =>
          rw [hnew'] at hraises'
          cases hraises'
        | error err' =>
          exact h.assign (fun _ _ _ h => ⟨h.keyed, h.keyed', h.pointer, h.marks, h.cluster,
            h.settled, h.evidence⟩) (by intros; rfl)

/-- **Other separated speech in the two sessions**: whom it went into in one of them
joins the set. -/
theorem alike_gatedUpdate_separated {gate gate' : SessionSpeakerState R V →
      SessionSpeaker R V → Option String} {more : Finset String} (h : Alike apart st st')
    (hgate : ∀ s s', Twins True s.sessionSpeakerId s s' → gate' st' s' = gate st s)
    (hsub : apart ⊆ more)
    (hmore : ∀ k ∈ more, ∃ s, st.speakers k = some s ∧ s.clusterId = none)
    (hin : ∀ s, st.get id = .ok s → s.sessionSpeakerId ∉ more →
      takenIn (gatedUpdate gate id e st).1 = false
        ∧ takenIn (gatedUpdate gate' id e' st').1 = false) :
    Alike more (gatedUpdate gate id e st).2 (gatedUpdate gate' id e' st').2 := by
  have hwide := h.mono hsub hmore
  refine hwide.onSpeaker id (fun _ hget hget' => ?_) (fun s hget => touches_gatedUpdate hget)
    (fun s hget => touches_gatedUpdate hget) (fun s s' hget hget' htwins hid => ?_)
  · unfold SessionSpeakerState.gatedUpdate
    rw [read_bind, read_bind, hget, hget']
    exact ⟨rfl, rfl⟩
  · obtain ⟨hnot, hnot'⟩ := hin s hget hid
    unfold SessionSpeakerState.gatedUpdate at hnot hnot' ⊢
    rw [read_bind, hget, ofExcept_ok_bind] at hnot
    rw [read_bind, hget', ofExcept_ok_bind, hgate s s' htwins, htwins.keyed'] at hnot'
    rw [read_bind, read_bind, hget, hget', ofExcept_ok_bind, ofExcept_ok_bind,
      hgate s s' htwins, htwins.keyed']
    cases hg : gate st s with
    | some reason => exact hwide
    | none =>
      rw [hg] at hnot hnot'
      exact hwide.setPrototype_raises hid (raises_of_not_takenIn hnot)
        (raises_of_not_takenIn hnot')

/-- **The two sessions are alike** but for those that separated speech has gone into
in one of them. -/
structure Shielded (w w' : SessionSpeakerState R V × Finset String) : Prop where
  wellFormed : w.1.WellFormed
  wellFormed' : w'.1.WellFormed
  disabled : w.1.config.speakerEmbedding.updateFromSeparatedSources = false
  alike : Alike (w.2 ∪ w'.2) w.1 w'.1

variable {w w' : SessionSpeakerState R V × Finset String}

/-- Separated speech is refused by `update_prototype`. -/
theorem updatePrototype_separated
    (hconfig : st.config.speakerEmbedding.updateFromSeparatedSources = false)
    (horigin : e.origin = .separated) (id : String) (margin : Option R) (passed : Bool) :
    (updatePrototype id e margin passed st).2 = st
      ∧ takenIn (updatePrototype id e margin passed st).1 = false := by
  unfold updatePrototype
  rw [read_bind]
  cases hget : st.get id with
  | error err => exact ⟨rfl, rfl⟩
  | ok s =>
    obtain ⟨reason, hreason⟩ := updateGate_separated hconfig horigin s margin passed
    rw [ofExcept_ok_bind, hreason]
    exact ⟨rfl, rfl⟩

/-- Who separated speech is buffered on is of no cluster. -/
theorem Alike.cluster_of_buffered (h : Alike apart st st') (e e' : SpeakerEmbedding R V)
    (htaken : takenIn (bufferProvisionalEmbedding id e st).1 = true
      ∨ takenIn (bufferProvisionalEmbedding id e' st').1 = true) :
    ∃ s, st.get id = .ok s ∧ st.speakers s.sessionSpeakerId = some s ∧ s.clusterId = none := by
  rcases h.get id with ⟨err, hget, hget'⟩ | ⟨s, s', hget, hget', hs, -, -, htwins⟩
  · unfold bufferProvisionalEmbedding at htaken
    rw [read_bind, read_bind, hget, hget'] at htaken
    rcases htaken with htaken | htaken <;> cases htaken
  · refine ⟨s, hget, hs, ?_⟩
    by_contra hcluster
    obtain ⟨hstate, hstate'⟩ := htwins.settled (Option.isSome_iff_ne_none.mpr hcluster)
    unfold bufferProvisionalEmbedding at htaken
    rw [read_bind, read_bind, hget, hget', ofExcept_ok_bind, ofExcept_ok_bind] at htaken
    rcases htaken with htaken | htaken
    · cases hgate : st.bufferGate s e with
      | none => exact hstate (provisional_of_bufferGate hgate)
      | some reason =>
        rw [hgate] at htaken
        cases htaken
    · cases hgate : st'.bufferGate s' e' with
      | none => exact hstate' (provisional_of_bufferGate hgate)
      | some reason =>
        rw [hgate] at htaken
        cases htaken

omit [AddCommGroup V] [Module R V] [EmbeddingSpace R V] in
/-- Whom an id stands for has the same id in both. -/
theorem Alike.rootOf (h : Alike apart st st') (hst' : st'.WellFormed)
    (hget : st.get id = .ok s) : st'.rootOf id = s.sessionSpeakerId := by
  rcases h.get id with ⟨err, herr, -⟩ | ⟨r, r', hr, hr', -, -, -, htwins⟩
  · rw [herr] at hget
    cases hget
  · rw [hr] at hget
    cases hget
    exact (hst'.get_eq_ok hr').2.2.1.symm.trans htwins.keyed'

/-- Whose prototypes are shaped after separated speech was buffered. -/
theorem mem_shaped_buffer (horigin : e.origin = .separated) {k : String} :
    k ∈ st.shaped before (.bufferProvisionalEmbedding id e)
      ↔ k ∈ before
        ∨ takenIn (bufferProvisionalEmbedding id e st).1 = true ∧ k = st.rootOf id := by
  show k ∈ (if _ then _ else _) ↔ _
  split
  · next htaken =>
    rw [Finset.mem_insert, or_comm, and_iff_right htaken.2]
  · next hnot =>
    exact (or_iff_left (fun htaken => hnot ⟨horigin, htaken.1⟩)).symm

/-- Nobody joins when nothing separated was taken in. -/
theorem shaped_update {margin : Option R} {passed : Bool}
    (hnot : ¬ (e.origin = .separated
      ∧ takenIn (updatePrototype id e margin passed st).1 = true)) :
    st.shaped before (.updatePrototype id e margin passed) = before := if_neg hnot

theorem shaped_buffer (horigin : e.origin ≠ .separated) :
    st.shaped before (.bufferProvisionalEmbedding id e) = before :=
  if_neg (fun hboth => horigin hboth.1)

/-- Whose prototypes are shaped after a merge. -/
theorem mem_shaped_merge {a b reason k : String} :
    k ∈ st.shaped before (.merge a b reason)
      ↔ k ∈ before ∨ st.handsOver before a b = true ∧ k = st.rootOf b := by
  show k ∈ (if _ then _ else _) ↔ _
  split
  · next hover => rw [Finset.mem_insert, or_comm, and_iff_right hover]
  · next hnot => exact (or_iff_left (fun hover => hnot hover.1)).symm

/-- **Other separated speech is buffered.** -/
theorem Shielded.buffer (h : Shielded w w') (id : String) (he : e.Redrawn e') :
    Alike (w.1.shaped w.2 (.bufferProvisionalEmbedding id e)
        ∪ w'.1.shaped w'.2 (.bufferProvisionalEmbedding id e'))
      (bufferProvisionalEmbedding id e w.1).2 (bufferProvisionalEmbedding id e' w'.1).2 := by
  obtain ⟨hversion, hspeech, horigin, -⟩ := he.same
  have hseparated' : e'.origin = .separated := horigin.trans he.origin
  refine alike_gatedUpdate_separated h.alike
    (fun s s' htwins => bufferGate_alike h.alike (htwins.evidence True.intro).1 hversion hspeech)
    (Finset.union_subset_union (fun k hk => (mem_shaped_buffer he.origin).mpr (Or.inl hk))
      (fun k hk => (mem_shaped_buffer hseparated').mpr (Or.inl hk)))
    (fun k hk => ?_) (fun s hget hout => ⟨?_, ?_⟩)
  · -- whoever joins the set is the one the id stands for
    rcases Finset.mem_union.mp hk with hk | hk
    · rcases (mem_shaped_buffer he.origin).mp hk with hk | ⟨htaken, rfl⟩
      · exact h.alike.apart k (Finset.mem_union_left _ hk)
      · obtain ⟨s, hget, hs, hcluster⟩ := h.alike.cluster_of_buffered e e' (Or.inl htaken)
        exact ⟨s, (h.wellFormed.get_eq_ok hget).2.1, hcluster⟩
    · rcases (mem_shaped_buffer hseparated').mp hk with hk | ⟨htaken, rfl⟩
      · exact h.alike.apart k (Finset.mem_union_right _ hk)
      · obtain ⟨s, hget, hs, hcluster⟩ := h.alike.cluster_of_buffered e e' (Or.inr htaken)
        exact ⟨s, by rw [h.alike.rootOf h.wellFormed' hget]; exact hs, hcluster⟩
  · by_contra htaken
    refine hout (Finset.mem_union_left _ ((mem_shaped_buffer he.origin).mpr (Or.inr ⟨?_, ?_⟩)))
    · exact Bool.not_eq_false _ ▸ htaken
    · exact (h.wellFormed.get_eq_ok hget).2.2.1
  · by_contra htaken
    refine hout (Finset.mem_union_right _ ((mem_shaped_buffer hseparated').mpr (Or.inr ⟨?_, ?_⟩)))
    · exact Bool.not_eq_false _ ▸ htaken
    · exact (h.alike.rootOf h.wellFormed' hget).symm

/-- **Separated speech for `update_prototype`** changes neither session. -/
theorem Shielded.update (h : Shielded w w') (id : String) (margin : Option R) (passed : Bool)
    (horigin : e.origin = .separated) (horigin' : e'.origin = .separated) :
    Alike (w.1.shaped w.2 (.updatePrototype id e margin passed)
        ∪ w'.1.shaped w'.2 (.updatePrototype id e' margin passed))
      (updatePrototype id e margin passed w.1).2 (updatePrototype id e' margin passed w'.1).2 := by
  have hdisabled' : w'.1.config.speakerEmbedding.updateFromSeparatedSources = false := by
    rw [h.alike.config]
    exact h.disabled
  obtain ⟨hsame, hnot⟩ := updatePrototype_separated h.disabled horigin id margin passed
  obtain ⟨hsame', hnot'⟩ := updatePrototype_separated hdisabled' horigin' id margin passed
  rw [hsame, hsame', shaped_update (fun hboth => nomatch hnot.symm.trans hboth.2),
    shaped_update (fun hboth => nomatch hnot'.symm.trans hboth.2)]
  exact h.alike

/-- **Two speakers are merged**, and what is handed over stays out of clusters. -/
theorem Shielded.merge (h : Shielded w w') {a b reason : String}
    (hout : KeepsOut w (.merge a b reason)) (hout' : KeepsOut w' (.merge a b reason)) :
    Alike (w.1.shaped w.2 (.merge a b reason) ∪ w'.1.shaped w'.2 (.merge a b reason))
      (merge a b reason w.1).2 (merge a b reason w'.1).2 := by
  refine (h.alike.mono (Finset.union_subset_union (fun k hk => mem_shaped_merge.mpr (Or.inl hk))
      (fun k hk => mem_shaped_merge.mpr (Or.inl hk))) (fun k hk => ?_)).merge a b reason
    (fun s t hget hgetb hallowed hs hnone => ?_)
  · -- whoever joins the set is the target of a merge that hands over
    rcases Finset.mem_union.mp hk with hk | hk
    · rcases mem_shaped_merge.mp hk with hk | ⟨hover, rfl⟩
      · exact h.alike.apart k (Finset.mem_union_left _ hk)
      · obtain ⟨s, t, hget, hgetb, -⟩ := handsOver_iff.mp hover
        have hcluster := hout hover
        rw [hgetb] at hcluster
        exact ⟨t, (h.wellFormed.get_eq_ok hgetb).2.1, hcluster⟩
    · rcases mem_shaped_merge.mp hk with hk | ⟨hover, rfl⟩
      · exact h.alike.apart k (Finset.mem_union_right _ hk)
      · obtain ⟨s, t', hget, hgetb', -⟩ := handsOver_iff.mp hover
        have hcluster := hout' hover
        rw [hgetb'] at hcluster
        rcases h.alike.get b with ⟨err, -, herr⟩ | ⟨t, t'', hgetb, hgetb'', ht, -, -, htwins⟩
        · rw [herr] at hgetb'
          cases hgetb'
        · rw [hgetb''] at hgetb'
          cases hgetb'
          refine ⟨t, ?_, htwins.cluster.symm.trans hcluster⟩
          rw [h.alike.rootOf h.wellFormed' hgetb]
          exact ht
  · -- the source is in the set, so the merge hands over in one of the two sessions
    obtain ⟨-, -, htid, -⟩ := h.wellFormed.get_eq_ok hgetb
    have htid' := h.alike.rootOf h.wellFormed' hgetb
    by_cases htin : t.sessionSpeakerId ∈ w.2 ∪ w'.2
    · rcases Finset.mem_union.mp htin with htin | htin
      · exact Finset.mem_union_left _ (mem_shaped_merge.mpr (Or.inl htin))
      · exact Finset.mem_union_right _ (mem_shaped_merge.mpr (Or.inl htin))
    rcases Finset.mem_union.mp hs with hs | hs
    · rcases mem_shaped_merge.mp hs with hs | ⟨-, heq⟩
      · refine Finset.mem_union_left _ (mem_shaped_merge.mpr (Or.inr ⟨?_, htid⟩))
        exact handsOver_iff.mpr ⟨s, t, hget, hgetb, hallowed, hs, hnone⟩
      · exact absurd (heq.trans htid.symm) hallowed.1
    · rcases mem_shaped_merge.mp hs with hs | ⟨-, heq⟩
      · refine Finset.mem_union_right _ (mem_shaped_merge.mpr (Or.inr ⟨?_, htid'.symm⟩))
        rcases h.alike.get a with ⟨err, herr, -⟩ | ⟨s₁, s', hget₁, hget', -, -, -, hstwins⟩
        · rw [herr] at hget
          cases hget
        rw [hget] at hget₁
        cases hget₁
        rcases h.alike.get b with ⟨err, herr, -⟩ | ⟨t₁, t', hgetb₁, hgetb', -, -, -, htwins⟩
        · rw [herr] at hgetb
          cases hgetb
        rw [hgetb] at hgetb₁
        cases hgetb₁
        refine handsOver_iff.mpr ⟨s', t', hget', hgetb', ⟨?_, ?_⟩, hstwins.keyed' ▸ hs,
          (htwins.evidence htin).2.trans hnone⟩
        · rw [hstwins.keyed', htwins.keyed']
          exact hallowed.1
        · rw [hstwins.marks, htwins.keyed']
          exact hallowed.2
      · exact absurd (heq.trans htid') hallowed.1

/-- **One call**, but for what was heard in separated speech. -/
theorem Shielded.step (h : Shielded w w') {op op' : Op R V} (hop : op.Redrawn op')
    (hout : KeepsOut w op) (hout' : KeepsOut w' op') : Shielded (watch w op) (watch w' op') := by
  have hstep := step_cases h.wellFormed op
  refine ⟨hstep.1, (step_cases h.wellFormed' op').1, ?_, ?_⟩
  · rw [show (watch w op).1.config = w.1.config from hstep.2.1.config]
    exact h.disabled
  · cases hop with
    | update id margin passed he =>
      exact h.update id margin passed he.origin (he.same.2.2.1.trans he.origin)
    | buffer id he => exact h.buffer id he
    | same =>
      cases op with
      | createSessionSpeaker ulid clusterId label =>
        exact (paired_createSessionSpeaker ulid clusterId label _ _ h.alike).state
      | createTemporarySpeaker ulid => exact (paired_createTemporarySpeaker ulid _ _ h.alike).state
      | ensureClusterSpeaker ulid clusterId =>
        exact (paired_ensureClusterSpeaker ulid clusterId _ _ h.alike).state
      | unattributedSpeaker ulid => exact (paired_unattributedSpeaker ulid _ _ h.alike).state
      | addCannotLink a b => exact (paired_addCannotLink a b _ _ h.alike).state
      | merge a b reason => exact h.merge hout hout'
      | promoteProvisional id reason label => exact h.alike.promoteProvisional id reason label
      | applyVoiceId id decision => exact h.alike.applyVoiceId id decision
      | finalizeUnresolved => exact h.alike.finalizeUnresolved h.wellFormed
      | drainLabelChanges => exact (paired_drainLabelChanges _ _ h.alike).state
      | updatePrototype id e margin passed =>
        by_cases horigin : e.origin = .separated
        · exact h.update id margin passed horigin horigin
        · show Alike (w.1.shaped w.2 _ ∪ w'.1.shaped w'.2 _)
            (updatePrototype id e margin passed w.1).2 (updatePrototype id e margin passed w'.1).2
          rw [shaped_update (fun hboth => horigin hboth.1),
            shaped_update (fun hboth => horigin hboth.1), updatePrototype_eq]
          exact h.alike.gatedUpdate id e (fun s s' htwins =>
            updateGate_alike h.alike (htwins.evidence True.intro).1 e margin passed)
      | bufferProvisionalEmbedding id e =>
        by_cases horigin : e.origin = .separated
        · exact h.buffer id ⟨horigin, rfl, rfl, rfl, rfl, rfl⟩
        · show Alike (w.1.shaped w.2 _ ∪ w'.1.shaped w'.2 _)
            (bufferProvisionalEmbedding id e w.1).2 (bufferProvisionalEmbedding id e w'.1).2
          rw [shaped_buffer horigin, shaped_buffer horigin, bufferProvisionalEmbedding_eq]
          exact h.alike.gatedUpdate id e (fun s s' htwins =>
            bufferGate_alike h.alike (htwins.evidence True.intro).1 rfl rfl)

/-- **The calls of a session**, but for what was heard in separated speech. -/
theorem Shielded.run (h : Shielded w w') {ops ops' : List (Op R V)}
    (hops : List.Forall₂ Op.Redrawn ops ops') (hout : EachStep watch KeepsOut w ops)
    (hout' : EachStep watch KeepsOut w' ops') :
    Shielded (ops.foldl watch w) (ops'.foldl watch w') := by
  induction hops generalizing w w' with
  | nil => exact h
  | cons hop _ ih =>
    obtain ⟨hfirst, hrest⟩ := eachStep_cons.mp hout
    obtain ⟨hfirst', hrest'⟩ := eachStep_cons.mp hout'
    exact ih (h.step hop hfirst hfirst') hrest hrest'

omit [AddCommGroup V] [Module R V] [EmbeddingSpace R V] in
theorem shielded_new (sessionId : String) {config : SasttConfig R} (version : String)
    (hconfig : config.speakerEmbedding.updateFromSeparatedSources = false) :
    Shielded ((new sessionId config version : SessionSpeakerState R V), ∅)
      (new sessionId config version, ∅) where
  wellFormed := wellFormed_new sessionId config version
  wellFormed' := wellFormed_new sessionId config version
  disabled := hconfig
  alike := ⟨rfl, rfl, rfl, rfl, fun _ => .none, fun _ hid => absurd hid (Finset.notMem_empty _)⟩

omit [AddCommGroup V] [Module R V] [EmbeddingSpace R V] in
/-- **Speakers of clusters have the same prototypes.** -/
theorem Shielded.clusterPrototype (h : Shielded w w') :
    w'.1.clusterPrototype = w.1.clusterPrototype := by
  funext id
  unfold SessionSpeakerState.clusterPrototype
  rcases (h.alike.speakers id).elim with ⟨hs, hs'⟩ | ⟨s, s', hs, hs', htwins⟩
  · rw [hs, hs']
  · rw [hs, hs', Option.filter_some, Option.filter_some, htwins.cluster]
    split
    · next hcluster =>
      have hid : id ∉ w.2 ∪ w'.2 := by
        intro hin
        obtain ⟨t, ht, hnone⟩ := h.alike.apart id hin
        rw [hs] at ht
        cases ht
        rw [hnone] at hcluster
        cases hcluster
      rw [Option.map_some, Option.map_some, (htwins.evidence hid).2]
    · rfl

/-- **Separated speech stays out of the prototypes of clusters**: in two sessions in
which the same calls are made but for what was heard in separated speech, the
speakers of clusters have the same prototypes at every point, as long as no prototype
that such speech has gone into is handed to one of them. -/
theorem clusterPrototype_run (sessionId : String) {config : SasttConfig R} (version : String)
    (hconfig : config.speakerEmbedding.updateFromSeparatedSources = false)
    {ops ops' : List (Op R V)} (hops : List.Forall₂ Op.Redrawn ops ops')
    (hout : EachStep watch KeepsOut (new sessionId config version, ∅) ops)
    (hout' : EachStep watch KeepsOut (new sessionId config version, ∅) ops') (n : ℕ) :
    ((new sessionId config version).run (ops'.take n)).clusterPrototype
      = ((new sessionId config version).run (ops.take n)).clusterPrototype := by
  have hend := (shielded_new sessionId version hconfig).run (List.forall₂_take n hops)
    (hout.of_prefix (List.take_prefix n ops)) (hout'.of_prefix (List.take_prefix n ops'))
  have hsame := hend.clusterPrototype
  rwa [watch_fst, watch_fst] at hsame

/-- A temporary speaker is heard in an overlap and merged into the speaker of a
cluster. -/
def heardApart (forward : Bool) : List (Op ℚ ℚ) :=
  [.createTemporarySpeaker "b",
    .bufferProvisionalEmbedding "sess_spk_b" { cleanVoice forward with origin := .separated },
    .merge "sess_spk_b" "sess_spk_a" "reconciled"]

theorem heardApart_redrawn :
    List.Forall₂ Op.Redrawn (heardApart true) (heardApart false) :=
  .cons (.same _) (.cons (.buffer _ ⟨rfl, rfl, rfl, rfl, rfl, rfl⟩) (.cons (.same _) .nil))

/-- The speaker of a cluster, with two seconds of clean speech. -/
def cleanCluster : List (Op ℚ ℚ) :=
  [.ensureClusterSpeaker "a" "A",
    .updatePrototype "sess_spk_a" (cleanVoice true) none true]

/-- A cluster with a prototype of its own. -/
theorem clusterPrototype_run_of_clean :
    ((new "session" {} "model").run ((cleanCluster ++ heardApart false).take 5)).clusterPrototype
      = ((new "session" {} "model").run
          ((cleanCluster ++ heardApart true).take 5)).clusterPrototype :=
  clusterPrototype_run "session" "model" rfl
    (.cons (.same _) (.cons (.same _) heardApart_redrawn)) (by decide +kernel) (by decide +kernel) 5

/-- **The prototype of a cluster without one is what was heard in the overlap.** -/
theorem separated_becomes_prototype :
    ¬ ∀ ops ops' : List (Op ℚ ℚ), List.Forall₂ Op.Redrawn ops ops' → ∀ n,
      ((new "session" {} "model").run (ops'.take n)).clusterPrototype
        = ((new "session" {} "model").run (ops.take n)).clusterPrototype := by
  intro h
  have hsame := h _ _ (.cons (.same (.ensureClusterSpeaker "a" "A")) heardApart_redrawn) 4
  have hcentroid := congrArg (fun f : String → Option (Option (SpeakerPrototype ℚ ℚ)) =>
    (f "sess_spk_a").map (Option.map SpeakerPrototype.centroid)) hsame
  revert hcentroid
  decide +kernel

end SessionSpeakerState

end Sastt
