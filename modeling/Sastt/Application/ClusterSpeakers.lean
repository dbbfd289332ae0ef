import Mathlib.Data.List.Find
import Sastt.Application.SpeakerSlots
import Sastt.Application.WordAttribution
import Sastt.Application.WriteFrames

/-!
# The speaker of a cluster

A cluster is looked up by the id that its speaker was registered with, among the speakers that
were not merged (`byCluster`). So a cluster keeps its speaker as long as that one stays: who
joins the session comes after it, and no call but a merge takes anybody away.

A merge takes the speaker of a cluster away together with the cluster's id, which is not handed
on. After it the cluster is looked up in vain, although the id of its speaker stands for the
target. A session in which that does not happen to a cluster that was asked for has one person
for each of them, and only such a session (`onePerson_iff`).
-/

namespace Sastt

open Method

variable {R V : Type} [Field R] [LinearOrder R] [IsStrictOrderedRing R] [AddCommGroup V]
  [Module R V] [EmbeddingSpace R V]

namespace SessionSpeakerState

/-! ## Looking a cluster up -/

/-- The speaker under an id has the cluster, and was not merged. -/
def leads (st : SessionSpeakerState R V) (cluster id : String) : Bool :=
  (st.speakers id).any (fun s => s.mergedInto.isNone && s.clusterId == some cluster)

/-- **The id of the speaker a cluster is looked up to.** -/
def clusterLeader (st : SessionSpeakerState R V) (cluster : String) : Option String :=
  st.order.find? (st.leads cluster)

/-- The speaker of a cluster, if another one were not there. -/
def byClusterWithout (st : SessionSpeakerState R V) (id cluster : String) :
    Option (SessionSpeaker R V) :=
  (st.active.filter (fun s => s.sessionSpeakerId ≠ id)).find?
    (fun s => s.clusterId == some cluster)

variable {st st' : SessionSpeakerState R V} {id cluster ulid : String} {s A B : SessionSpeaker R V}

section

omit [AddCommGroup V] [Module R V] [EmbeddingSpace R V]

theorem byCluster_eq (st : SessionSpeakerState R V) (cluster : String) :
    st.byCluster cluster = (st.clusterLeader cluster).bind st.speakers := by
  unfold byCluster active registered clusterLeader leads
  rw [List.find?_filter, List.find?_filterMap]
  simp only [Bool.decide_and, Bool.decide_eq_true]

theorem WellFormed.byClusterWithout_eq (h : st.WellFormed) (id cluster : String) :
    st.byClusterWithout id cluster
      = (st.order.find? (fun k => decide (k ≠ id) && st.leads cluster k)).bind st.speakers := by
  unfold byClusterWithout active registered leads
  rw [List.find?_filter, List.find?_filter, List.find?_filterMap]
  congr 2
  funext k
  cases hs : st.speakers k with
  | none => simp
  | some s =>
    simp only [Option.any_some, (h.speaker k s hs).keyed, Bool.decide_and, Bool.decide_eq_true,
      Bool.and_left_comm]

/-- What is found in the order of the ids is found among the speakers. -/
theorem WellFormed.find_bind_eq_some_iff (h : st.WellFormed) {p : String → Bool} :
    (st.order.find? p).bind st.speakers = some s
      ↔ st.order.find? p = some s.sessionSpeakerId
        ∧ st.speakers s.sessionSpeakerId = some s := by
  constructor
  · intro hfound
    obtain ⟨k, hk, hs⟩ := Option.bind_eq_some_iff.mp hfound
    rw [(h.speaker k s hs).keyed]
    exact ⟨hk, hs⟩
  · rintro ⟨hk, hs⟩
    rw [hk]
    exact hs

end

/-! ## One person for a cluster -/

/-- The cluster a call asks for, with the id of the speaker it is answered with. -/
def ensured (st : SessionSpeakerState R V) : Op R V → List (String × String)
  | .ensureClusterSpeaker ulid cluster =>
    match (ensureClusterSpeaker ulid cluster st).1 with
    | .ok speaker => [(cluster, speaker.sessionSpeakerId)]
    | .error _ => []
  | _ => []

/-- A call, and what is remembered of it. -/
def remember (w : SessionSpeakerState R V × List (String × String)) (op : Op R V) :
    SessionSpeakerState R V × List (String × String) :=
  (w.1.step op, w.2 ++ w.1.ensured op)

/-- **A cluster means one person**: to ask for it again is answered with whoever the first
answer stands for, and creates nobody. -/
def OnePerson (w : SessionSpeakerState R V × List (String × String)) : Prop :=
  ∀ cluster id, (cluster, id) ∈ w.2 → ∀ ulid, ∃ speaker, w.1.get id = .ok speaker
    ∧ ensureClusterSpeaker ulid cluster w.1 = (.ok speaker, w.1)

/-- **A merge that takes nobody from a cluster**: if it takes away the speaker of one that was
asked for, the target is next in the same cluster. -/
def LeavesClusters (w : SessionSpeakerState R V × List (String × String)) : Op R V → Prop
  | .merge a b _ => ∀ A B, w.1.get a = .ok A → w.1.get b = .ok B → MergeAllowed A B →
      ∀ cluster id, (cluster, id) ∈ w.2 → w.1.get id = .ok A →
        w.1.byClusterWithout A.sessionSpeakerId cluster = some B
  | _ => True

/-- What is known of a session all along. -/
structure Remembered (w : SessionSpeakerState R V × List (String × String)) : Prop where
  wellFormed : w.1.WellFormed
  registered : ∀ cluster id, (cluster, id) ∈ w.2 → w.1.Registered id

variable {w : SessionSpeakerState R V × List (String × String)}

section

omit [AddCommGroup V] [Module R V] [EmbeddingSpace R V]

/-- **Asking for a cluster**: it is found, or somebody is created who comes last, or an error is
raised. -/
theorem WellFormed.ensureClusterSpeaker_cases (h : st.WellFormed) (ulid cluster : String) :
    (∃ s, st.byCluster cluster = some s ∧ ensureClusterSpeaker ulid cluster st = (.ok s, st))
      ∨ (∃ e st', ensureClusterSpeaker ulid cluster st = (.error e, st'))
      ∨ ∃ s st', st.byCluster cluster = none
        ∧ ensureClusterSpeaker ulid cluster st = (.ok s, st') ∧ st'.WellFormed
        ∧ st'.active = st.active ++ [s] ∧ s.clusterId = some cluster := by
  cases hfound : st.byCluster cluster with
  | some s => exact Or.inl ⟨s, rfl, FusionEngine.ensureClusterSpeaker_of_some hfound⟩
  | none =>
    refine Or.inr ?_
    have hunnamed : ¬ st.Named cluster := fun hnamed => by
      rw [Named, hfound] at hnamed
      cases hnamed
    cases hused : st.speakers ("sess_spk_" ++ ulid) with
    | none =>
      have hkeeps := within_ensureClusterSpeaker ulid cluster st h
      rcases ensureClusterSpeaker_of_unnamed h hunnamed hused with
        ⟨-, herror⟩ | ⟨-, s, st', hok, hactive, hcluster⟩
      · exact Or.inl ⟨_, _, herror⟩
      · rw [hok] at hkeeps
        exact Or.inr ⟨s, st', rfl, hok, hkeeps.1, hactive, hcluster⟩
    | some used =>
      refine Or.inl ?_
      unfold ensureClusterSpeaker createSessionSpeaker
      rw [read_bind, hfound]
      dsimp only
      rw [read_bind]
      split
      · exact ⟨_, _, rfl⟩
      · rw [modify_bind, SpeakerIdentityStateMachine.new, if_pos (by decide), ofExcept_ok_bind]
        exact ⟨_, _, bind_of_error (register_of_used (by
          show st.speakers ("sess_spk_" ++ ulid) ≠ none
          rw [hused]
          exact Option.some_ne_none used))⟩

/-- A cluster is answered, and nobody is created, exactly if it is found. -/
theorem WellFormed.ensureClusterSpeaker_same_iff (h : st.WellFormed) :
    ensureClusterSpeaker ulid cluster st = (.ok s, st) ↔ st.byCluster cluster = some s := by
  refine ⟨fun hsame => ?_, FusionEngine.ensureClusterSpeaker_of_some⟩
  rcases h.ensureClusterSpeaker_cases ulid cluster with
    ⟨s', hfound, hok⟩ | ⟨e, st', herror⟩ | ⟨s', st', -, hok, -, hactive, -⟩
  · rw [hok] at hsame
    cases hsame
    exact hfound
  · rw [herror] at hsame
    cases hsame
  · rw [hok] at hsame
    cases hsame
    exact absurd (congrArg List.length hactive) (by simp)

/-- Whoever a cluster is answered with is found from then on. -/
theorem WellFormed.byCluster_of_ensured (h : st.WellFormed)
    (hok : ensureClusterSpeaker ulid cluster st = (.ok s, st')) :
    st'.WellFormed ∧ st'.byCluster cluster = some s := by
  rcases h.ensureClusterSpeaker_cases ulid cluster with
    ⟨s', hfound, hok'⟩ | ⟨e, st'', herror⟩ | ⟨s', st'', hnone, hok', h', hactive, hcluster⟩
  · rw [hok'] at hok
    cases hok
    exact ⟨h, hfound⟩
  · rw [herror] at hok
    cases hok
  · rw [hok'] at hok
    cases hok
    refine ⟨h', ?_⟩
    unfold byCluster at hnone ⊢
    rw [hactive, List.find?_append, hnone]
    simp [hcluster]

/-- **One person, said of the ids.** -/
theorem Remembered.onePerson_iff (h : Remembered w) : OnePerson w
    ↔ ∀ cluster id, (cluster, id) ∈ w.2 →
      w.1.clusterLeader cluster = some (w.1.rootOf id) := by
  refine forall_congr' (fun cluster => forall_congr' (fun id => forall_congr' (fun hmem => ?_)))
  obtain ⟨A, hget, hA, hAid, -⟩ := h.wellFormed.get_of_registered (h.registered cluster id hmem)
  have hiff : w.1.byCluster cluster = some A
      ↔ w.1.clusterLeader cluster = some (w.1.rootOf id) := by
    rw [byCluster_eq, clusterLeader, h.wellFormed.find_bind_eq_some_iff, hAid]
    exact and_iff_left hA
  constructor
  · intro hone
    obtain ⟨B, hgetB, hsame⟩ := hone ""
    rw [hget] at hgetB
    cases hgetB
    exact hiff.mp (h.wellFormed.ensureClusterSpeaker_same_iff.mp hsame)
  · intro hleader ulid
    exact ⟨A, hget, h.wellFormed.ensureClusterSpeaker_same_iff.mpr (hiff.mpr hleader)⟩

end

/-! ## One call -/

/-- The first of those that are left, if the first of all is left. -/
theorem find?_and {α : Type} {l : List α} {p q : α → Bool} {x : α} (h : l.find? p = some x)
    (hx : q x = true) : l.find? (fun y => q y && p y) = some x := by
  obtain ⟨hpx, front, rest, rfl, hfront⟩ := List.find?_eq_some_iff_append.mp h
  refine List.find?_eq_some_iff_append.mpr ⟨by simp [hx, hpx], front, rest, rfl, fun y hy => ?_⟩
  have hy : p y = false := by simpa using hfront y hy
  simp [hy]

omit [AddCommGroup V] [Module R V] [EmbeddingSpace R V] in
/-- **Who joins the session comes after whoever a cluster is looked up to.** -/
theorem WellFormed.clusterLeader_of_kin (h : st.WellFormed) (hkin : Kin st st')
    (hp : st'.parentOf = st.parentOf) (hleader : st.clusterLeader cluster = some id) :
    st'.clusterLeader cluster = some id := by
  obtain ⟨more, horder⟩ := hkin.order
  have hleads : ∀ k ∈ st.order, st'.leads cluster k = st.leads cluster k := by
    intro k hk
    obtain ⟨s, hs⟩ := Option.isSome_iff_exists.mp ((h.mem_order k).mp hk)
    obtain ⟨s', hs', hkindred⟩ := hkin.kept k s hs
    have hpointer : s'.mergedInto = s.mergedInto := by
      rw [← parentOf_of_speaker hs', hp, parentOf_of_speaker hs]
    unfold leads
    rw [hs, hs', Option.any_some, Option.any_some, hkindred.cluster, hpointer]
  unfold clusterLeader at hleader ⊢
  rw [← horder, List.find?_append, List.find?_congr hleads, hleader, Option.some_or]

/-- A merge registers nobody. -/
theorem order_merge (a b reason : String) (st : SessionSpeakerState R V) :
    (st.step (.merge a b reason)).order = st.order := by
  have hwithin : Within (InvImage Eq SessionSpeakerState.order) (merge (R := R) (V := V) a b
      reason) := by
    have htransition : ∀ id toState reason, Within (InvImage Eq SessionSpeakerState.order)
        (transition (R := R) (V := V) id toState reason) := by
      intro id toState reason
      refine within_bind within_read (fun st => ?_)
      split
      · exact within_throw _
      · exact within_bind (within_ofExcept _) (fun _ => within_modify (fun _ => rfl))
    refine within_bind within_read (fun st => within_bind (within_ofExcept _) (fun source =>
      within_bind (within_ofExcept _) (fun target =>
        within_bind (within_ofExcept _) (fun _ => ?_))))
    split
    · exact within_throw _
    · refine within_bind ?_ (fun _ => within_bind (within_modify (fun _ => rfl)) (fun _ =>
        within_bind (within_modify (fun _ => rfl)) (fun _ => within_bind
          (within_modify (fun _ => rfl)) (fun _ => within_bind (within_modify (fun _ => rfl))
            (fun _ => within_bind (within_modify (fun _ => rfl)) (fun _ => within_pure _))))))
      unfold mergeTransitions
      split
      · exact within_bind (htransition _ _ _) (fun _ => htransition _ _ _)
      · split
        · exact htransition _ _ _
        · exact within_pure _
  exact (hwithin st).symm

/-- **After a merge** the cluster is looked up among the others. -/
theorem WellFormed.clusterLeader_merge (h : st.WellFormed) {a b : String}
    (ha : st.get a = .ok A) (hb : st.get b = .ok B) (hallow : MergeAllowed A B)
    (reason cluster : String) : (st.step (.merge a b reason)).clusterLeader cluster
      = st.order.find? (fun k => decide (k ≠ A.sessionSpeakerId) && st.leads cluster k) := by
  unfold clusterLeader
  rw [order_merge]
  congr 1
  funext k
  unfold leads
  rw [speakers_step_merge h ha hb hallow]
  cases st.speakers k with
  | none => simp
  | some s =>
    simp only [Option.map_some, Option.any_some]
    unfold mergedRecord
    split_ifs with hA hB
    · simp [hA]
    · simp [hA]
    · simp [hA]

/-- Whoever a call is answered with leads the cluster it asked for. -/
theorem WellFormed.ensured_spec (h : st.WellFormed) {op : Op R V}
    (hmem : (cluster, id) ∈ st.ensured op) : (st.step op).Registered id
      ∧ (st.step op).clusterLeader cluster = some ((st.step op).rootOf id) := by
  cases op with
  | ensureClusterSpeaker ulid asked =>
    rcases hok : ensureClusterSpeaker ulid asked st with ⟨e | s, st'⟩
    · simp only [ensured, hok, List.not_mem_nil] at hmem
    · simp only [ensured, hok, List.mem_singleton, Prod.mk.injEq] at hmem
      obtain ⟨rfl, rfl⟩ := hmem
      have hstep : st.step (.ensureClusterSpeaker ulid cluster) = st' := congrArg Prod.snd hok
      obtain ⟨h', hfound⟩ := h.byCluster_of_ensured hok
      obtain ⟨hs, hm⟩ := h'.mem_active.mp (List.mem_of_find?_eq_some hfound)
      rw [byCluster_eq, clusterLeader, h'.find_bind_eq_some_iff] at hfound
      rw [hstep, h'.rootOf_of_parent_none ((parentOf_of_speaker hs).trans hm)]
      exact ⟨Option.isSome_iff_exists.mpr ⟨s, hs⟩, hfound.1⟩
  | _ => cases hmem

theorem Remembered.remember (h : Remembered w) (op : Op R V) : Remembered (remember w op) where
  wellFormed := (step_cases h.wellFormed op).1
  registered cluster id hmem := by
    rcases List.mem_append.mp hmem with hold | hnew
    · exact (step_cases h.wellFormed op).2.1.registered id (h.registered cluster id hold)
    · exact (h.wellFormed.ensured_spec hnew).1

/-- A call that does not merge leaves a cluster its person. -/
theorem Remembered.onePerson_of_ne_merge (h : Remembered w) (hone : OnePerson w) {op : Op R V}
    (hop : ∀ a b reason, op ≠ .merge a b reason) :
    OnePerson (SessionSpeakerState.remember w op) := by
  rw [(h.remember op).onePerson_iff]
  intro cluster id hmem
  rcases List.mem_append.mp hmem with hold | hnew
  · have hp := h.wellFormed.parentOf_step op hop
    show (w.1.step op).clusterLeader cluster = some ((w.1.step op).rootOf id)
    rw [rootOf_congr h.wellFormed.ends (step_cases h.wellFormed op).1.ends hp]
    exact h.wellFormed.clusterLeader_of_kin (learnFrame_kin.step w.1 op hop) hp
      (h.onePerson_iff.mp hone cluster id hold)
  · exact (h.wellFormed.ensured_spec hnew).2

/-- **A merge leaves a cluster its person** exactly if it takes nobody from it but into who is
next there. -/
theorem Remembered.onePerson_merge_iff (h : Remembered w) (hone : OnePerson w)
    (a b reason : String) :
    OnePerson (SessionSpeakerState.remember w (.merge a b reason))
      ↔ LeavesClusters w (.merge a b reason) := by
  by_cases hs : w.1.MergeSucceeds a b
  swap
  · have hsame : SessionSpeakerState.remember w (.merge a b reason) = w := by
      unfold SessionSpeakerState.remember
      rw [step_merge_same h.wellFormed hs]
      exact Prod.ext rfl (List.append_nil _)
    rw [hsame]
    exact iff_of_true hone (fun A B ha hb hallow => absurd ⟨A, B, ha, hb, hallow⟩ hs)
  obtain ⟨A, B, ha, hb, hallow⟩ := hs
  obtain ⟨-, hA, hAid, hAm⟩ := h.wellFormed.get_eq_ok ha
  obtain ⟨-, hB, hBid, hBm⟩ := h.wellFormed.get_eq_ok hb
  have hcond : LeavesClusters w (.merge a b reason) ↔ ∀ cluster id, (cluster, id) ∈ w.2 →
      w.1.rootOf id = A.sessionSpeakerId →
        w.1.byClusterWithout A.sessionSpeakerId cluster = some B := by
    constructor
    · intro hleaves cluster id hmem hroot
      obtain ⟨A', hget, hA', -⟩ := h.wellFormed.get_of_registered (h.registered cluster id hmem)
      rw [hroot, hAid, hA] at hA'
      cases hA'
      exact hleaves A B ha hb hallow cluster id hmem hget
    · intro hleaves A' B' ha' hb' _ cluster id hmem hget
      cases ha.symm.trans ha'
      cases hb.symm.trans hb'
      exact hleaves cluster id hmem (h.wellFormed.get_eq_ok hget).2.2.1.symm
  have hparent : (w.1.step (.merge a b reason)).parentOf
      = Function.update w.1.parentOf A.sessionSpeakerId (some B.sessionSpeakerId) := by
    cases (step_cases h.wellFormed (.merge a b reason)).2.2 with
    | quiet _ _ _ hmerge => exact absurd ⟨A, B, ha, hb, hallow⟩ (hmerge a b reason rfl)
    | merged _ _ _ _ hp _ => rw [hp, hAid, hBid]
  rw [(h.remember _).onePerson_iff, hcond]
  refine forall_congr' (fun cluster => forall_congr' (fun id => ?_))
  show (_ ∈ w.2 ++ [] → (w.1.step (.merge a b reason)).clusterLeader cluster
    = some ((w.1.step (.merge a b reason)).rootOf id)) ↔ _
  rw [List.append_nil]
  refine forall_congr' (fun hmem => ?_)
  have hleader := h.onePerson_iff.mp hone cluster id hmem
  rw [h.wellFormed.clusterLeader_merge ha hb hallow,
    rootOf_of_linked h.wellFormed.ends (step_cases h.wellFormed (.merge a b reason)).1.ends
      ((parentOf_of_speaker (h.wellFormed.keyed hA)).trans hAm)
      ((parentOf_of_speaker (h.wellFormed.keyed hB)).trans hBm) hallow.1 hparent]
  by_cases hroot : w.1.rootOf id = A.sessionSpeakerId
  · rw [if_pos hroot, h.wellFormed.byClusterWithout_eq, h.wellFormed.find_bind_eq_some_iff]
    exact ⟨fun hfound _ => ⟨hfound, h.wellFormed.keyed hB⟩, fun hfound => (hfound hroot).1⟩
  · rw [if_neg hroot]
    exact iff_of_true (find?_and hleader (decide_eq_true hroot)) (fun hroot' => absurd hroot' hroot)

theorem Remembered.onePerson_step_iff (h : Remembered w) (hone : OnePerson w) (op : Op R V) :
    OnePerson (SessionSpeakerState.remember w op) ↔ LeavesClusters w op := by
  cases op with
  | merge a b reason => exact h.onePerson_merge_iff hone a b reason
  | _ => exact iff_of_true (h.onePerson_of_ne_merge hone nofun) trivial

/-- **A cluster means one person for the whole session** exactly in the sessions in which every
merge leaves the clusters their people: after a cluster was asked for, to ask again is answered
with whoever stands for the first answer, and creates nobody. -/
theorem onePerson_along_iff (sessionId : String) (config : SasttConfig R) (version : String)
    (ops : List (Op R V)) :
    Along remember OnePerson (new sessionId config version, []) ops
      ↔ EachStep remember LeavesClusters (new sessionId config version, []) ops :=
  along_iff (I := Remembered)
    ⟨wellFormed_new sessionId config version, fun _ _ hmem => nomatch hmem⟩
    (fun _ _ hmem => nomatch hmem) (fun _ op h => h.remember op)
    (fun _ op h hone => h.onePerson_step_iff hone op)

/-- Clusters that are asked for again and again, and nobody is merged. -/
theorem onePerson_of_unmerged : Along remember OnePerson
    ((new "session" {} "model" : SessionSpeakerState ℚ ℚ), [])
    [.ensureClusterSpeaker "a" "A", .ensureClusterSpeaker "b" "B", .ensureClusterSpeaker "c" "A"] :=
  (onePerson_along_iff "session" {} "model" _).mpr (eachStep_cons.mpr
    ⟨trivial, eachStep_cons.mpr ⟨trivial, eachStep_cons.mpr ⟨trivial, eachStep_nil⟩⟩⟩)

/-- A session in which the speaker of one cluster is merged into that of another. -/
def oneIntoOther : List (Op ℚ ℚ) :=
  [.ensureClusterSpeaker "a" "A", .ensureClusterSpeaker "b" "B",
    .merge "sess_spk_a" "sess_spk_b" "reconciled"]

/-- **The cluster gets a second speaker**: its first one stands for the other cluster's, and the
next word of it is given to somebody new. -/
theorem cluster_gets_second_speaker :
    ((oneIntoOther.foldl remember (new "session" {} "model", [])).1.get "sess_spk_a").map
        (fun s => s.sessionSpeakerId) = .ok "sess_spk_b"
      ∧ (ensureClusterSpeaker "c" "A"
          (oneIntoOther.foldl remember (new "session" {} "model", [])).1).1.map
        (fun s => s.sessionSpeakerId) = .ok "sess_spk_c"
      ∧ ¬ Along remember OnePerson (new "session" {} "model", []) oneIntoOther := by
  have hget : ((oneIntoOther.foldl remember (new "session" {} "model", [])).1.get "sess_spk_a").map
      (fun s => s.sessionSpeakerId) = .ok "sess_spk_b" := by decide +kernel
  have hnew : (ensureClusterSpeaker "c" "A"
      (oneIntoOther.foldl remember (new "session" {} "model", [])).1).1.map
        (fun s => s.sessionSpeakerId) = .ok "sess_spk_c" := by decide +kernel
  refine ⟨hget, hnew, fun h => ?_⟩
  obtain ⟨speaker, hfound, hsame⟩ :=
    h _ (List.prefix_refl _) "A" "sess_spk_a" (by decide +kernel) "c"
  rw [hfound] at hget
  rw [hsame] at hnew
  exact nomatch hget.symm.trans hnew

end SessionSpeakerState

end Sastt
