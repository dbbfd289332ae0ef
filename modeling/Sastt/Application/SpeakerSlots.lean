import Sastt.Application.AdapterErrors
import Sastt.Application.LinkWrites
import Sastt.Application.SessionEvents
import Sastt.Application.SpeakerCap
import Sastt.Lib.Programs

/-!
# Who finds a place in a rolling session

A session holds a bounded number of speakers. A source that nobody is
recognised in takes a place only if there is one, but a cluster of the diarizer
takes one in any case, and raises if there is none. The places may be taken by
then, and not by clusters: by temporary speakers, of whom every overlap region
may bring new ones, and by the sink.

So whether a rolling step raises is settled when it begins, by the places that
are left and the clusters that it names for the first time (`process_of_room`,
`process_of_full`), and a session is never starved exactly when every step of
it has room (`neverStarved_iff`).
-/

namespace Sastt

open Method

variable {R V S : Type} [Field R] [LinearOrder R] [IsStrictOrderedRing R]

namespace SessionSpeakerState

variable {st st' : SessionSpeakerState R V}

/-! ## Speakers of clusters -/

/-- **A speaker of the cluster is active.** -/
def Named (st : SessionSpeakerState R V) (cluster : String) : Prop :=
  (st.byCluster cluster).isSome = true

instance (st : SessionSpeakerState R V) : DecidablePred st.Named :=
  fun _ => inferInstanceAs (Decidable (_ = true))

/-- The clusters that have no speaker yet. -/
def unnamed (st : SessionSpeakerState R V) (clusters : List String) : List String :=
  clusters.filter (fun cluster => ¬ st.Named cluster)

/-- **There is room for the clusters**: all have a speaker, or there is a place
for each that has none. -/
def Room (st : SessionSpeakerState R V) (clusters : List String) : Prop :=
  st.unnamed clusters = []
    ∨ st.activeSpeakerCount + (st.unnamed clusters).length ≤ st.config.product.maxSessionSpeakers

instance (st : SessionSpeakerState R V) (clusters : List String) : Decidable (st.Room clusters) :=
  inferInstanceAs (Decidable (_ ∨ _))

theorem named_iff {cluster : String} :
    st.Named cluster ↔ ∃ s ∈ st.active, s.clusterId = some cluster := by
  unfold Named byCluster
  simp [List.find?_isSome]

/-- The speakers of clusters stay what they are. -/
def KeepsClusters (st st' : SessionSpeakerState R V) : Prop :=
  ∀ id s, st.speakers id = some s → ∃ s', st'.speakers id = some s'
    ∧ s'.sessionSpeakerId = s.sessionSpeakerId ∧ s'.clusterId = s.clusterId
    ∧ s'.mergedInto = s.mergedInto

theorem KeepsClusters.trans {st'' : SessionSpeakerState R V} (h : KeepsClusters st st')
    (h' : KeepsClusters st' st'') : KeepsClusters st st'' := by
  intro id s hs
  obtain ⟨s', hs', hid, hcluster, hmerged⟩ := h id s hs
  obtain ⟨s'', hs'', hid', hcluster', hmerged'⟩ := h' id s' hs'
  exact ⟨s'', hs'', hid'.trans hid, hcluster'.trans hcluster, hmerged'.trans hmerged⟩

theorem Accrues.keepsClusters (h : Accrues st st') : KeepsClusters st st' := by
  intro id s hs
  obtain ⟨s', hs', hsame⟩ := h.speakers id s hs
  refine ⟨s', hs', ?_, ?_, ?_⟩ <;> rw [hsame.same]

theorem Grows.keepsClusters (h : Grows st st') : KeepsClusters st st' :=
  fun id s hs => ⟨s, h.records id s hs, rfl, rfl, rfl⟩

/-- A cluster that has a speaker keeps it. -/
theorem Named.mono {cluster : String} (h : st.Named cluster) (hst : st.WellFormed)
    (hst' : st'.WellFormed) (hkeeps : KeepsClusters st st') : st'.Named cluster := by
  obtain ⟨s, hs, hcluster⟩ := named_iff.mp h
  obtain ⟨hrecord, hactive⟩ := hst.mem_active.mp hs
  obtain ⟨s', hs', hid, hcluster', hmerged⟩ := hkeeps _ s hrecord
  refine named_iff.mpr ⟨s', hst'.mem_active.mpr ⟨?_, hmerged.trans hactive⟩,
    hcluster'.trans hcluster⟩
  rwa [hid]

/-! ## One more speaker -/

/-- A speaker that is registered is the last of the active ones. -/
theorem active_insertSpeaker (h : st.WellFormed) {s : SessionSpeaker R V}
    (hfresh : st.speakers s.sessionSpeakerId = none) (hactive : s.mergedInto = none) :
    (st.insertSpeaker s).active = st.active ++ [s] := by
  have hold : st.order.filterMap (st.insertSpeaker s).speakers = st.registered := by
    refine List.filterMap_congr (fun id hid => Function.update_of_ne ?_ _ _)
    rintro rfl
    have hreg := (h.mem_order _).mp hid
    rw [Registered, hfresh] at hreg
    cases hreg
  show ((st.order ++ [s.sessionSpeakerId]).filterMap (st.insertSpeaker s).speakers).filter _ = _
  rw [List.filterMap_append, hold, List.filter_append]
  refine congrArg (st.active ++ ·) ?_
  have hself : (st.insertSpeaker s).speakers s.sessionSpeakerId = some s := Function.update_self ..
  simp [hself, hactive]

theorem named_of_active_append {s : SessionSpeaker R V} {cluster : String}
    (h : st'.active = st.active ++ [s]) :
    st'.Named cluster ↔ st.Named cluster ∨ s.clusterId = some cluster := by
  simp only [named_iff, h, List.mem_append, List.mem_singleton, or_and_right, exists_or,
    exists_eq_left]

/-- **A cluster that has no speaker gets one if there is a place.** -/
theorem ensureClusterSpeaker_of_unnamed (h : st.WellFormed) {cluster ulid : String}
    (hnew : ¬ st.Named cluster) (hfresh : st.speakers ("sess_spk_" ++ ulid) = none) :
    (st.config.product.maxSessionSpeakers ≤ st.activeSpeakerCount
        ∧ ensureClusterSpeaker ulid cluster st = (.error st.sessionFull, st))
      ∨ st.activeSpeakerCount < st.config.product.maxSessionSpeakers
        ∧ ∃ s st', ensureClusterSpeaker ulid cluster st = (.ok s, st')
          ∧ st'.active = st.active ++ [s] ∧ s.clusterId = some cluster := by
  have hnone : st.byCluster cluster = none := Option.not_isSome_iff_eq_none.mp hnew
  unfold ensureClusterSpeaker createSessionSpeaker
  rw [read_bind, hnone]
  dsimp only
  rw [read_bind]
  by_cases hfull : st.config.product.maxSessionSpeakers ≤ st.activeSpeakerCount
  · rw [if_pos hfull]
    exact Or.inl ⟨hfull, rfl⟩
  · rw [if_neg hfull]
    refine Or.inr ⟨Nat.lt_of_not_le hfull, ?_⟩
    rw [modify_bind, SpeakerIdentityStateMachine.new, if_pos (by decide), ofExcept_ok_bind,
      bind_of_ok (register_of_fresh hfresh)]
    exact ⟨_, _, rfl, active_insertSpeaker (keeps_counters st st.pendingLabelChanges
      st.temporaryCounter (st.labelCounter + 1) h).1 hfresh rfl, rfl⟩

/-- A cluster that has a speaker keeps it. -/
theorem ensureClusterSpeaker_of_named {cluster : String} (h : st.Named cluster) (ulid : String) :
    ∃ s, ensureClusterSpeaker ulid cluster st = (.ok s, st) := by
  obtain ⟨s, hs⟩ := Option.isSome_iff_exists.mp h
  unfold ensureClusterSpeaker
  rw [read_bind, hs]
  exact ⟨s, rfl⟩

end SessionSpeakerState

/-! ## Methods that find their places -/

open SessionSpeakerState

namespace Session

variable {ulids : ℕ → String} {clusters : List String} {s : Session R V}

/-- **A session in which some clusters have their speakers.** -/
structure Ready (ulids : ℕ → String) (clusters : List String) (s : Session R V) : Prop where
  speakers : s.speakers.WellFormed
  minted : s.Minted ulids
  named : ∀ cluster ∈ clusters, s.speakers.Named cluster

/-- The next id is nobody's. -/
theorem Ready.fresh (h : s.Ready ulids clusters) (hu : Function.Injective ulids) :
    s.speakers.speakers ("sess_spk_" ++ ulids s.drawn) = none := by
  by_contra hused
  obtain ⟨i, hi, heq⟩ := h.minted _
    ((h.speakers.mem_order _).mpr (Option.isSome_iff_ne_none.mpr hused))
  exact hi.ne' (hu ((String.append_right_inj "sess_spk_").mp heq))

/-- A temporary speaker, if there is a place for one. -/
theorem createTemporary_ok (hu : Function.Injective ulids) (hs : s.Ready ulids clusters)
    (hroom : s.speakers.canAdmitSpeaker = true) :
    ∃ speaker, (createTemporarySpeaker (ulids s.drawn) s.speakers).1 = .ok speaker :=
  (createTemporarySpeaker_returns_iff (hs.fresh hu)).mpr (decide_eq_true_iff.mp hroom)

/-- The turn of the loop that gives a cluster its speaker. -/
def ensureCluster (ulids : ℕ → String) (cluster : String) : Method PyError (Session R V) Unit := do
  let ulid ← newUlid ulids
  let _ ← onSpeakers (ensureClusterSpeaker ulid cluster)

theorem ensureCluster_eq (cluster : String) (s : Session R V)
    {x : Except PyError (SessionSpeaker R V)}
    {st : SessionSpeakerState R V}
    (h : ensureClusterSpeaker (ulids s.drawn) cluster s.speakers = (x, st)) :
    ensureCluster ulids cluster s = (x.map (fun _ => ()), ⟨st, s.drawn + 1⟩) := by
  have hcall : onSpeakers (ensureClusterSpeaker (ulids s.drawn) cluster)
      ({ s with drawn := s.drawn + 1 } : Session R V) = (x, ⟨st, s.drawn + 1⟩) := by
    unfold onSpeakers zoom
    rw [h]
  have hdrawn : newUlid ulids s = (.ok (ulids s.drawn), { s with drawn := s.drawn + 1 }) := rfl
  refine (bind_of_ok hdrawn).trans ?_
  cases x with
  | ok speaker => exact bind_of_ok hcall
  | error e => exact bind_of_error hcall

/-- **A method that raises no error of a state machine** in a session in which
the clusters have their speakers, and leaves such a session behind. -/
def Safe (ulids : ℕ → String) (clusters : List String) {α : Type}
    (m : Method PyError (Session R V) α) : Prop :=
  Triple (Ready ulids clusters) m (fun _ => Ready ulids clusters)
    (fun e s => NotInvalid e ∧ s.Ready ulids clusters)

section Safe

variable {α β : Type} {m : Method PyError (Session R V) α}

theorem safe_pure (a : α) : Safe (R := R) (V := V) ulids clusters (pure a) :=
  triple_pure (fun _ hs => hs)

theorem safe_ofExcept {x : Except PyError α} (hx : Fails NotInvalid x) :
    Safe (R := R) (V := V) ulids clusters (ofExcept x) :=
  triple_ofExcept (fun _ _ _ hs => hs) (fun e he _ hs => ⟨hx e he, hs⟩)

theorem safe_bind {k : α → Method PyError (Session R V) β} (hm : Safe ulids clusters m)
    (hk : ∀ a, Safe ulids clusters (k a)) : Safe ulids clusters (m >>= k) := triple_bind hm hk

theorem safe_read {k : Session R V → Method PyError (Session R V) β}
    (hk : ∀ s, Safe ulids clusters (k s)) : Safe ulids clusters (read >>= k) :=
  triple_read (fun s _ => (hk s).weaken (fun _ ht => ht.2) (fun _ _ h => h) (fun _ _ h => h))

theorem safe_forEach {xs : List β} {body : β → Method PyError (Session R V) Unit}
    (h : ∀ x ∈ xs, Safe ulids clusters (body x)) : Safe ulids clusters (forEach xs body) :=
  triple_forEach h

theorem safe_mapEach {xs : List β} {body : β → Method PyError (Session R V) α}
    (h : ∀ x ∈ xs, Safe ulids clusters (body x)) : Safe ulids clusters (mapEach xs body) :=
  triple_mapEach (I := fun _ => Ready ulids clusters) (fun x hx _ => h x hx)

end Safe

end Session

variable [AddCommGroup V] [Module R V] [EmbeddingSpace R V]

/-! ## What plain calls keep -/

namespace SessionSpeakerState

/-- A plain call lets the speakers of clusters be. -/
theorem keepsClusters_step {st : SessionSpeakerState R V} (h : st.WellFormed) {op : Op R V}
    (hplain : op.Plain) : KeepsClusters st (st.step op) := by
  cases op with
  | createTemporarySpeaker ulid => exact (within_createTemporarySpeaker_accrues ulid
      st).keepsClusters
  | ensureClusterSpeaker ulid cluster =>
    exact (within_ensureClusterSpeaker_growing ulid cluster st h).2.2.keepsClusters
  | unattributedSpeaker ulid =>
    exact (within_unattributedSpeaker_growing ulid st h).2.2.keepsClusters
  | addCannotLink a b => exact (within_addCannotLink_accrues a b st).keepsClusters
  | updatePrototype id embedding margin passed =>
    exact Accrues.keepsClusters (within_gatedUpdate_accrues st)
  | bufferProvisionalEmbedding id embedding =>
    exact Accrues.keepsClusters (within_gatedUpdate_accrues st)
  | _ => exact hplain.elim

end SessionSpeakerState

namespace Session

variable {ulids : ℕ → String} {clusters : List String} {s t : Session R V}

theorem Calls.keepsClusters (h : Calls ulids Op.Plain s t) (hs : s.speakers.WellFormed) :
    KeepsClusters s.speakers t.speakers := by
  induction h with
  | refl => exact fun _ speaker hspeaker => ⟨speaker, hspeaker, rfl, rfl, rfl⟩
  | tail hcalls hcall ih =>
    refine ih.trans ?_
    cases hcall with
    | draw => exact fun _ speaker hspeaker => ⟨speaker, hspeaker, rfl, rfl, rfl⟩
    | mint op hplain hulid => exact keepsClusters_step (Calls.keeps hcalls hs).1 hplain
    | move op hplain hulid => exact keepsClusters_step (Calls.keeps hcalls hs).1 hplain

theorem Ready.calls (h : s.Ready ulids clusters) (hcalls : Calls ulids Op.Plain s t) :
    t.Ready ulids clusters where
  speakers := (hcalls.keeps h.speakers).1
  minted := hcalls.minted h.minted
  named cluster hcluster := (h.named cluster hcluster).mono h.speakers (hcalls.keeps h.speakers).1
    (hcalls.keepsClusters h.speakers)

/-! ## Giving clusters their speakers -/

theorem calls_ensureCluster (cluster : String) :
    Within (Calls ulids Op.Plain) (ensureCluster (R := R) (V := V) ulids cluster) :=
  within_bind_two (within_ensureCluster cluster) (fun _ => within_pure _)

/-- **The clusters of a step get their speakers exactly if there is room.** -/
theorem ensureClusters (hu : Function.Injective ulids) (hs : s.Ready ulids [])
    (hnodup : clusters.Nodup) :
    (s.speakers.Room clusters →
        ∃ t, forEach clusters (ensureCluster ulids) s = (.ok (), t) ∧ t.Ready ulids clusters)
      ∧ (¬ s.speakers.Room clusters →
        ∃ e t, forEach clusters (ensureCluster ulids) s = (.error e, t) ∧ ¬ NotInvalid e) := by
  induction clusters generalizing s with
  | nil => exact ⟨fun _ => ⟨s, rfl, hs⟩, fun hfull => absurd (Or.inl rfl) hfull⟩
  | cons cluster clusters ih =>
    obtain ⟨hnotMem, hnodup⟩ := List.nodup_cons.mp hnodup
    -- once the first cluster has its speaker, the others go on from there
    have hrest : ∀ {t : Session R V}, ensureCluster ulids cluster s = (.ok (), t) →
        t.speakers.Named cluster → (t.speakers.Room clusters
          ↔ s.speakers.Room (cluster :: clusters)) →
        (s.speakers.Room (cluster :: clusters) → ∃ t,
            forEach (cluster :: clusters) (ensureCluster ulids) s = (.ok (), t)
              ∧ t.Ready ulids (cluster :: clusters))
          ∧ (¬ s.speakers.Room (cluster :: clusters) → ∃ e t,
            forEach (cluster :: clusters) (ensureCluster ulids) s = (.error e, t)
              ∧ ¬ NotInvalid e) := by
      intro t hfirst hnamed hiff
      have hrun : forEach (cluster :: clusters) (ensureCluster ulids) s
          = forEach clusters (ensureCluster ulids) t := bind_of_ok hfirst
      have ht : t.Ready ulids [] := hs.calls ((calls_ensureCluster cluster).rel hfirst)
      obtain ⟨hroom, hfull⟩ := ih ht hnodup
      rw [hrun, ← hiff]
      refine ⟨fun h => ?_, hfull⟩
      obtain ⟨u, hok, hready⟩ := hroom h
      have hcalls : Calls ulids Op.Plain t u :=
        (within_forEach (fun cluster _ => calls_ensureCluster cluster)).rel hok
      refine ⟨u, hok, hready.speakers, hready.minted, List.forall_mem_cons.mpr ⟨?_, hready.named⟩⟩
      exact hnamed.mono ht.speakers hready.speakers (hcalls.keepsClusters ht.speakers)
    by_cases hnamed : s.speakers.Named cluster
    · obtain ⟨speaker, hok⟩ := ensureClusterSpeaker_of_named hnamed (ulids s.drawn)
      have hsame : s.speakers.unnamed (cluster :: clusters) = s.speakers.unnamed clusters :=
        List.filter_cons_of_neg (by simpa using hnamed)
      refine hrest (ensureCluster_eq cluster s hok) hnamed ?_
      unfold Room
      rw [hsame]
    · have hone : s.speakers.unnamed (cluster :: clusters)
          = cluster :: s.speakers.unnamed clusters :=
            List.filter_cons_of_pos (by simpa using hnamed)
      rcases ensureClusterSpeaker_of_unnamed hs.speakers hnamed (hs.fresh hu) with
        ⟨hfull, hraises⟩ | ⟨hplace, speaker, st, hok, hactive, hcluster⟩
      · refine ⟨fun hroom => absurd hroom ?_, fun _ => ⟨s.speakers.sessionFull, _,
          bind_of_error (ensureCluster_eq cluster s hraises), fun h => nomatch h⟩⟩
        · unfold Room
          rw [hone, List.length_cons]
          rintro (hnone | hroom)
          · cases hnone
          · omega
      · have hnamed' : st.Named cluster := (named_of_active_append hactive).mpr (Or.inr hcluster)
        refine hrest (ensureCluster_eq cluster s hok) hnamed' ?_
        have hothers : st.unnamed clusters = s.speakers.unnamed clusters := by
          refine List.filter_congr (fun other hother => ?_)
          have hne : cluster ≠ other := fun h => hnotMem (h ▸ hother)
          simp [named_of_active_append hactive, hcluster, hne]
        have hconfig : st.config = s.speakers.config :=
          ((within_ensureClusterSpeaker_growing _ cluster).rel hok hs.speakers).2.1.config
        unfold Room
        rw [show (Session.mk st (s.drawn + 1)).speakers = st from rfl, hothers, hone, hconfig,
          List.length_cons]
        have hcount : st.activeSpeakerCount = s.speakers.activeSpeakerCount + 1 := by
          unfold activeSpeakerCount
          rw [hactive, List.length_append, List.length_singleton]
        rw [hcount]
        constructor
        · rintro (hnone | hroom)
          · rw [hnone]
            exact Or.inr (Nat.succ_le_of_lt hplace)
          · exact Or.inr (by omega)
        · rintro (hnone | hroom)
          · cases hnone
          · exact Or.inr (by omega)

/-! ## Calls that find their places -/

/-- For a method that makes plain calls, only what it raises is in question. -/
theorem safe_of_calls {α : Type} {m : Method PyError (Session R V) α}
    (hcalls : Within (Calls ulids Op.Plain) m)
    (hraises : ∀ s, s.Ready ulids clusters → ∀ e, (m s).1 = .error e → NotInvalid e) :
    Safe ulids clusters m := by
  intro s hs
  constructor
  · intro a t hok
    exact hs.calls (hcalls.rel hok)
  · intro e t herror
    exact ⟨hraises s hs e (congrArg Prod.fst herror), hs.calls (hcalls.rel herror)⟩

/-- Marking two speakers as different. -/
theorem safe_markDifferent (a b : String) :
    Safe (R := R) (V := V) ulids clusters (onSpeakers (addCannotLink a b)) :=
  safe_of_calls (within_markDifferent a b) (fun s _ e he =>
    notInvalid_of_not_sastt (notSastt_addCannotLink a b s.speakers e he))

/-- Learning a voice, -/
theorem safe_learn (id : String) (embedding : SpeakerEmbedding R V) (margin : Option R)
    (passed : Bool) :
    Safe ulids clusters (onSpeakers (updatePrototype id embedding margin passed)) :=
  have hraises : Raises NotSastt (updatePrototype id embedding margin passed) :=
    notSastt_gatedUpdate
  safe_of_calls (within_learn id embedding margin passed) (fun s _ e he =>
    notInvalid_of_not_sastt (hraises s.speakers e he))

/-- also that of a temporary speaker. -/
theorem safe_buffer (id : String) (embedding : SpeakerEmbedding R V) :
    Safe ulids clusters (onSpeakers (bufferProvisionalEmbedding id embedding)) :=
  have hraises : Raises NotSastt (bufferProvisionalEmbedding id embedding) :=
    notSastt_gatedUpdate
  safe_of_calls (within_buffer id embedding) (fun s _ e he =>
    notInvalid_of_not_sastt (hraises s.speakers e he))

/-- Asking for the speaker of a cluster that has one. -/
theorem safe_ensureCluster {cluster : String} (hmem : cluster ∈ clusters) :
    Safe (R := R) (V := V) ulids clusters
      (newUlid ulids >>= fun ulid => onSpeakers (ensureClusterSpeaker ulid cluster)) := by
  refine safe_of_calls (within_ensureCluster cluster) (fun s hs e he => ?_)
  obtain ⟨speaker, hok⟩ := ensureClusterSpeaker_of_named (hs.named cluster hmem) (ulids s.drawn)
  have hraised : (ensureClusterSpeaker (ulids s.drawn) cluster s.speakers).1 = .error e := he
  rw [hok] at hraised
  cases hraised

/-- Asking for the sink. -/
theorem safe_sink (hu : Function.Injective ulids) :
    Safe (R := R) (V := V) ulids clusters
      (newUlid ulids >>= fun ulid => onSpeakers (unattributedSpeaker ulid)) := by
  refine safe_of_calls (within_mint (.unattributedSpeaker ·) (fun _ => trivial) (fun _ => rfl)
    (fun _ _ => rfl)) (fun s hs e he => ?_)
  have hraised : (unattributedSpeaker (ulids s.drawn) s.speakers).1 = .error e := he
  cases hsink : s.speakers.unattributedId with
  | some id =>
    rw [unattributedSpeaker_again hsink] at hraised
    cases hid : s.speakers.speakers id with
    | some speaker =>
      rw [hid] at hraised
      cases hraised
    | none =>
      rw [hid] at hraised
      cases hraised
      rfl
  | none =>
    rcases unattributedSpeaker_new hsink (ulids s.drawn) with ⟨hused, -⟩ | ⟨-, hok⟩
    · exact absurd (hs.fresh hu) hused
    · rw [hok] at hraised
      cases hraised

end Session

/-! ## The stages of a step -/

open Session

namespace OfflinePipeline

variable {p : OfflinePipeline R} {adapters : PipelineAdapters R V S} {ulids : ℕ → String}
  {clusters : List String}

theorem safe_identifySource (hu : Function.Injective ulids) (source : SeparatedSource R V S)
    (link : LinkingDecision R) : Safe ulids clusters (identifySource ulids source link) := by
  refine triple_read (fun s hs => ?_)
  split
  · next embedding _ _ =>
    split
    · next hroom =>
      -- the place that was seen is there when the speaker is made
      refine triple_bind_two (K := fun _ => Ready ulids clusters) (fun t ht => ?_)
        (fun temporary => safe_bind (safe_buffer _ _) (fun _ => safe_pure _))
      obtain ⟨rfl, ht⟩ := ht
      have hcalls : Within (Calls ulids Op.Plain) (newUlid (R := R) (V := V) ulids >>= fun ulid =>
          onSpeakers (createTemporarySpeaker ulid)) :=
        within_mint (.createTemporarySpeaker ·) (fun _ => trivial) (fun _ => rfl) (fun _ _ => rfl)
      refine ⟨fun _ _ hok => ht.calls (hcalls.rel hok), fun e u herror => ?_⟩
      obtain ⟨speaker, hok⟩ := createTemporary_ok hu ht hroom.2
      have hraised : (createTemporarySpeaker (ulids t.drawn) t.speakers).1 = .error e :=
        congrArg Prod.fst herror
      rw [hok] at hraised
      cases hraised
    · exact triple_pure (fun t ht => ht.2)
  · refine triple_bind (Q := fun _ => Ready ulids clusters) (triple_ofExcept (fun _ _ t ht => ht.2)
      (fun e he t ht => ⟨notInvalid_of_not_sastt (isSastt_of_get_error he), ht.2⟩))
      (fun speaker => ?_)
    split
    · exact safe_bind (safe_buffer _ _) (fun _ => safe_pure _)
    · exact safe_bind (safe_learn _ _ _ _) (fun _ => safe_pure _)
  · exact triple_pure (fun t ht => ht.2)

theorem safe_constrainSource (assignedInCrop : List String) (speakerId : Option String) :
    Safe ulids clusters (constrainSource (R := R) (V := V) assignedInCrop speakerId) := by
  unfold constrainSource
  split
  · exact safe_pure _
  · exact safe_forEach (fun otherId _ => safe_markDifferent _ _)

theorem safe_emitSources (hu : Function.Injective ulids) (h : adapters.NotInvalid)
    (window : WindowContext R) (sources : List (SeparatedSource R V S × LinkingDecision R))
    (assignedInCrop : List String) (result : CropResult R) :
    Safe ulids clusters (p.emitSources adapters ulids window sources assignedInCrop result) := by
  induction sources generalizing assignedInCrop result with
  | nil => exact safe_pure _
  | cons linked rest ih =>
    refine safe_bind (safe_ofExcept (h.transcribe _ _ _ _)) (fun asr => ?_)
    dsimp only
    split
    · exact ih _ _
    · split
      · exact safe_pure _
      · exact safe_bind (safe_identifySource hu _ _) (fun speakerId =>
          safe_bind (safe_constrainSource _ _) (fun _ => ih _ _))

theorem safe_separateWindows (hu : Function.Injective ulids) (h : adapters.NotInvalid)
    (c : RegionContext R S) {separator : SpeechSeparator R S}
    (hseparator : ∀ place buffer n, Fails NotInvalid (separator.separate place buffer n)) (n : ℕ)
    (windows : List (TimeInterval × TimeInterval)) (previousMapping : PreviousMapping)
    (result : CropResult R) :
    Safe ulids clusters
      (p.separateWindows adapters ulids c separator n windows previousMapping result) := by
  induction windows generalizing n previousMapping result with
  | nil => exact safe_pure _
  | cons window rest ih =>
    refine safe_bind (safe_ofExcept (fails_listenWindow h c hseparator _ _ _)) (fun listened =>
      safe_read (fun s => safe_bind (safe_ofExcept (fails_linkWindow _ _ _ _ _)) (fun linked =>
        safe_bind (safe_emitSources hu (h.at n) _ _ _ _) (fun emitted => ?_))))
    dsimp only
    split
    · exact ih _ _ _
    · exact safe_pure _

theorem safe_attempt (hu : Function.Injective ulids) (h : adapters.NotInvalid)
    (c : RegionContext R S) {separator : SpeechSeparator R S}
    (hseparator : ∀ place buffer n, Fails NotInvalid (separator.separate place buffer n)) (n : ℕ)
    (crop : TimeInterval) :
    Safe ulids clusters (p.attempt adapters ulids c separator n crop) := by
  refine safe_bind (safe_bind (safe_ofExcept (fails_splitCrop _ _ _ _)) (fun windows =>
    safe_bind (safe_separateWindows hu (h.at n) c (fun place => hseparator (n :: place)) _ _ _ _)
      (fun separated => ?_))) (fun _ => safe_pure _)
  dsimp only
  split
  · exact safe_pure _
  · exact safe_bind (safe_ofExcept (fails_mixtureFallback (h.at n) _ _ _ _)) (fun _ => safe_pure _)

/-- **Handling an overlap region** takes no place that is not there. -/
theorem safe_handleOverlapRegion (hu : Function.Injective ulids) (h : adapters.NotInvalid)
    (c : RegionContext R S) : Safe ulids clusters (p.handleOverlapRegion adapters ulids c) := by
  have hmixture : ∀ (warnings : List String) (degraded : Bool), Safe ulids clusters
      (Method.ofExcept (p.mixtureFallback adapters c.mono c.region c.decision warnings)
        >>= fun found : List (WordGroup R) × List String =>
          (return (found.1, found.2, degraded) : Method PyError (Session R V) _)) :=
    fun warnings degraded => safe_bind (safe_ofExcept (fails_mixtureFallback h _ _ _ _))
      (fun _ => safe_pure _)
  unfold handleOverlapRegion
  dsimp only
  split
  · exact hmixture _ _
  · split
    · exact hmixture _ _
    · next separator hfor =>
      have hseparator : ∀ place buffer n,
          Fails NotInvalid (separator.separate place buffer n) := by
        unfold separatorFor at hfor
        split at hfor
        · exact h.threeSourceSeparator separator hfor
        · exact h.separator separator hfor
      have hattempt : ∀ n crop, Safe ulids clusters (p.attempt adapters ulids c separator n crop) :=
        safe_attempt hu h c hseparator
      refine safe_bind (triple_catchIf (hattempt _ _) (fun _ => (triple_catchIf (hattempt _ _)
        (fun _ => triple_pure (fun _ hs => hs.2))).weaken (fun _ hs => hs.2) (fun _ _ hs => hs)
        (fun _ _ hs => hs))) (fun r => ?_)
      split
      · exact safe_pure _
      · exact hmixture _ _

end OfflinePipeline

namespace Session

variable {ulids : ℕ → String} {clusters : List String}

omit [AddCommGroup V] [Module R V] [EmbeddingSpace R V] in
/-- Drawing an id. -/
theorem safe_newUlid : Safe (R := R) (V := V) ulids clusters (newUlid ulids) := by
  refine triple_of_ok (fun s hs => ⟨_, _, rfl, hs.speakers, fun id hid => ?_, hs.named⟩)
  obtain ⟨i, hi, heq⟩ := hs.minted id hid
  exact ⟨i, Nat.lt_succ_of_lt hi, heq⟩

theorem safe_constrainClusters (pair : String × String) :
    Safe (R := R) (V := V) ulids clusters (constrainClusters pair) := by
  refine safe_read (fun s => ?_)
  split
  · exact safe_markDifferent _ _
  · exact safe_pure _

theorem safe_learnCluster {adapters : PipelineAdapters R V S} (h : adapters.NotInvalid)
    (overlapRegions : List (OverlapRegion R)) (mono : AudioBuffer S)
    (cluster : String × List TimeInterval) :
    Safe ulids clusters (learnCluster adapters overlapRegions mono cluster) := by
  refine safe_read (fun s => ?_)
  split
  · exact safe_pure _
  · refine safe_forEach (fun (interval, n) _ => safe_read (fun s => ?_))
    split
    · exact safe_pure _
    · refine safe_bind (safe_ofExcept (fails_embedBuffer (h.at n) _ _ _ _ _ _)) (fun embedding =>
        ?_)
      split
      · exact safe_pure _
      · exact safe_bind (safe_learn _ _ _ _) (fun _ => safe_pure _)

omit [Field R] [LinearOrder R] [IsStrictOrderedRing R] in
/-- The clusters of a list of turns, each once. -/
theorem clusters_spec (turns : List (SpeakerTurn R)) (seen : List String) (hseen : seen.Nodup) :
    let found := turns.foldl
      (fun seen t => if t.clusterId ∈ seen then seen else seen ++ [t.clusterId]) seen
    found.Nodup ∧ seen ⊆ found ∧ ∀ t ∈ turns, t.clusterId ∈ found := by
  induction turns generalizing seen with
  | nil => exact ⟨hseen, List.Subset.refl _, fun _ ht => absurd ht List.not_mem_nil⟩
  | cons turn turns ih =>
    rw [List.foldl_cons]
    by_cases hmem : turn.clusterId ∈ seen
    · rw [if_pos hmem]
      obtain ⟨hnodup, hsub, hall⟩ := ih seen hseen
      exact ⟨hnodup, hsub, List.forall_mem_cons.mpr ⟨hsub hmem, hall⟩⟩
    · rw [if_neg hmem]
      have hmore : (seen ++ [turn.clusterId]).Nodup :=
        List.nodup_append.mpr ⟨hseen, List.nodup_singleton _, fun a ha b hb hab => by
          rw [List.mem_singleton.mp hb] at hab
          exact hmem (hab ▸ ha)⟩
      obtain ⟨hnodup, hsub, hall⟩ := ih _ hmore
      exact ⟨hnodup, fun _ h => hsub (List.mem_append_left _ h),
        List.forall_mem_cons.mpr ⟨hsub (List.mem_append_right _ (List.mem_singleton_self _)), hall⟩⟩

/-- **Registering the speakers of the clusters** raises no error of a state
machine if there is room, -/
theorem triple_buildGlobalSpeakers (hu : Function.Injective ulids)
    {adapters : PipelineAdapters R V S} (h : adapters.NotInvalid)
    (diarization : DiarizationResult R)
    (regions : List (OverlapRegion R)) (mono : AudioBuffer S) :
    Triple (fun s => s.Ready ulids [] ∧ s.speakers.Room diarization.clusterIds)
      (buildGlobalSpeakers adapters ulids diarization regions mono)
      (fun _ => Ready ulids diarization.clusterIds) (fun e _ => NotInvalid e) := by
  have hnodup : diarization.clusterIds.Nodup := (clusters_spec _ [] List.nodup_nil).1
  refine triple_bind (Q := fun _ => Ready ulids diarization.clusterIds)
    (triple_of_ok (fun s hs => ?_)) (fun _ => ?_)
  · obtain ⟨t, hok, ht⟩ := (ensureClusters hu hs.1 hnodup).1 hs.2
    exact ⟨(), t, hok, ht⟩
  · exact (safe_bind (safe_forEach (fun pair _ => safe_constrainClusters pair)) (fun _ =>
      safe_forEach (fun (cluster, n) _ => safe_learnCluster (h.at n) _ _ _))).weaken
      (fun _ hs => hs) (fun _ _ hs => hs) (fun _ _ he => he.1)

/-- and one if there is none. -/
theorem buildGlobalSpeakers_of_full (hu : Function.Injective ulids) {s : Session R V}
    (hs : s.Ready ulids []) (adapters : PipelineAdapters R V S) (diarization : DiarizationResult R)
    (regions : List (OverlapRegion R)) (mono : AudioBuffer S)
    (hfull : ¬ s.speakers.Room diarization.clusterIds) :
    ∃ e t, buildGlobalSpeakers adapters ulids diarization regions mono s = (.error e, t)
      ∧ ¬ NotInvalid e := by
  have hnodup : diarization.clusterIds.Nodup := (clusters_spec _ [] List.nodup_nil).1
  obtain ⟨e, t, herror, hinvalid⟩ := (ensureClusters hu hs hnodup).2 hfull
  exact ⟨e, t, bind_of_error herror, hinvalid⟩

end Session

/-! ## Fusion -/

namespace FusionEngine

variable {engine : FusionEngine R} {ulids : ℕ → String} {clusters : List String}
  {turns : List (SpeakerTurn R)}

omit [AddCommGroup V] [Module R V] [EmbeddingSpace R V] in
/-- The turn that a word is attributed to is one of the turns. -/
theorem mem_of_betterTurn {st : SessionSpeakerState R V} {word : Word R} {previous : Option String}
    {cluster : String}
    (h : (turns.foldl (betterTurn st word previous) (none, 0)).1 = some cluster) :
    ∃ turn ∈ turns, turn.clusterId = cluster := by
  suffices hall : ∀ (turns : List (SpeakerTurn R)) (best : Option String × ℕ),
      (turns.foldl (betterTurn st word previous) best).1 = some cluster →
        best.1 = some cluster ∨ ∃ turn ∈ turns, turn.clusterId = cluster from
    (hall turns _ h).resolve_left nofun
  intro turns
  induction turns with
  | nil => exact fun best h => Or.inl h
  | cons turn turns ih =>
    intro best h
    rcases ih _ h with hbest | ⟨turn', hmem, hcluster⟩
    · unfold betterTurn at hbest
      dsimp only at hbest
      split_ifs at hbest
      · exact Or.inl hbest
      · exact Or.inr ⟨turn, List.mem_cons_self, Option.some.inj hbest⟩
      · exact Or.inr ⟨turn, List.mem_cons_self, Option.some.inj hbest⟩
      · exact Or.inl hbest
    · exact Or.inr ⟨turn', List.mem_cons_of_mem _ hmem, hcluster⟩

theorem safe_wordSpeaker (hu : Function.Injective ulids)
    (hturns : ∀ turn ∈ turns, turn.clusterId ∈ clusters) (group : WordGroup R) (word : Word R)
    (previous : Option String) :
    Safe (V := V) ulids clusters (wordSpeaker ulids group turns word previous) := by
  refine safe_bind ?_ (fun claimed => ?_)
  · unfold claimant
    split
    · exact safe_pure _
    · refine safe_read (fun s => ?_)
      split
      · exact safe_pure _
      · next cluster hcluster =>
        obtain ⟨turn, hturn, rfl⟩ := mem_of_betterTurn hcluster
        exact triple_bind_two (safe_ensureCluster (hturns turn hturn)) (fun _ => safe_pure _)
  · split
    · exact safe_pure _
    · refine safe_read (fun s => ?_)
      split
      · exact safe_pure _
      · exact triple_bind_two (safe_sink hu) (fun _ => safe_pure _)

theorem safe_coalesce (hu : Function.Injective ulids)
    (hturns : ∀ turn ∈ turns, turn.clusterId ∈ clusters) (groups : List (WordGroup R)) :
    Safe (V := V) ulids clusters (engine.coalesce ulids groups turns) := by
  refine safe_bind (safe_mapEach (fun group _ => ?_)) (fun _ => safe_pure _)
  generalize group.words.insertionSort Word.le = words
  generalize (none : Option String) = previous
  generalize (none : Option (Utterance R)) = current
  induction words generalizing previous current with
  | nil => exact safe_pure _
  | cons word words ih =>
    refine safe_bind (safe_wordSpeaker hu hturns _ _ _) (fun id => safe_read (fun s =>
      safe_bind (safe_ofExcept (fun e he => notInvalid_of_not_sastt (isSastt_of_get_error he)))
        (fun speaker => ?_)))
    split
    · exact ih _ _
    · exact safe_bind (ih _ _) (fun _ => safe_pure _)

omit [IsStrictOrderedRing R] in
theorem fails_new (f : SegmentFields R) : Fails NotInvalid (TranscriptSegment.new f) := by
  unfold TranscriptSegment.new
  repeat' split
  all_goals first | exact fails_ok _ | exact fails_error rfl

/-- **Fusing takes no place.** -/
theorem safe_fuse (hu : Function.Injective ulids)
    (hturns : ∀ turn ∈ turns, turn.clusterId ∈ clusters) (groups : List (WordGroup R))
    (isFinal : Bool) (revision : ℕ) (supersedes : Option String) :
    Safe (V := V) ulids clusters (engine.fuse ulids groups turns isFinal revision supersedes) := by
  refine safe_bind (safe_coalesce hu hturns groups) (fun us => safe_bind
    (safe_mapEach (fun u _ => safe_read (fun s => safe_bind
      (safe_ofExcept (fun e he => notInvalid_of_not_sastt (isSastt_of_get_error he)))
        (fun speaker =>
        safe_bind safe_newUlid (fun ulid => safe_ofExcept (fails_new _)))))) (fun segments =>
    safe_bind (safe_ofExcept ?_) (fun _ => safe_pure _)))
  unfold assertConcurrencyPreserved
  dsimp only
  split
  · exact fails_error rfl
  · exact fails_ok _

end FusionEngine

end Sastt
