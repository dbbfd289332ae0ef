import Mathlib.Data.Finset.Card
import Mathlib.Data.List.Nodup
import Sastt.Application.SessionState
import Sastt.Lib.Apartness

/-!
# What the speakers of a session always satisfy

The forwarding pointers of merged speakers form a pointer forest, and an id
stands for the root of its tree. `SessionSpeakerState.WellFormed` says so,
together with what else holds of the records in every state: each is
registered under its own id, forwards to a registered speaker, and carries a
prototype of positive weight that belongs to the speaker it stands for.

Methods are read through two views of the state, the pointers (`parentOf`)
and the marks (`marksOf`, the cannot-link sets). Only two methods change
either. Everything else stays inside the frame `Keeps`: a well-formed state
is left well formed, with the pointers and the marks it had. The two that do
are given by their effect on the views – `addCannotLink_spec` marks two
roots with each other, `merge_of_allowed` points one root at another and hands
its marks over.
-/

namespace Sastt

variable {R V : Type} [Field R] [LinearOrder R] [IsStrictOrderedRing R]

namespace SessionSpeakerState

/-! ## Two views of a state -/

section Views

variable (st : SessionSpeakerState R V)

/-- Whether an id has been registered. -/
def Registered (id : String) : Prop := (st.speakers id).isSome

/-- Where a merged speaker forwards to. -/
def parentOf (id : String) : Option String := (st.speakers id).bind (fun s => s.mergedInto)

/-- The ids a speaker is marked with. -/
def marksOf (id : String) : Finset String := (st.speakers id).elim ∅ (fun s => s.cannotLink)

/-- The ids of the merged speakers. -/
def mergedIds : Finset String := st.order.toFinset.filter (fun id => (st.parentOf id).isSome)

/-- The id of the speaker an id stands for. -/
def rootOf (id : String) : String := (chase st.parentOf (st.order.length + 1) id).getD id

/-- Following pointers ends, after no more of them than speakers were
merged. -/
def Ends : Prop := ∀ id, (chase st.parentOf (st.mergedIds.card + 1) id).isSome = true

end Views

variable {st st' : SessionSpeakerState R V} {id : String} {s : SessionSpeaker R V}

/-- The pointers of the merged speakers as a forest. -/
def forest (st : SessionSpeakerState R V) (h : st.Ends) : PointerForest String :=
  ⟨st.parentOf, st.mergedIds.card, h⟩

theorem card_mergedIds_le (st : SessionSpeakerState R V) :
    st.mergedIds.card ≤ st.order.length :=
  le_trans (Finset.card_filter_le _ _) (List.toFinset_card_le st.order)

/-- The root found with the fuel of `get` is the root of the forest. -/
theorem chase_eq_forest_root (h : st.Ends) (id : String) :
    chase st.parentOf (st.order.length + 1) id = some ((st.forest h).root id) :=
  (st.forest h).chase_eq_root (Nat.lt_succ_of_le st.card_mergedIds_le) id

theorem rootOf_eq (h : st.Ends) (id : String) : st.rootOf id = (st.forest h).root id := by
  unfold rootOf
  rw [chase_eq_forest_root h]
  rfl

/-- States with the same pointers have the same roots. -/
theorem rootOf_congr (h : st.Ends) (h' : st'.Ends) (hp : st'.parentOf = st.parentOf) :
    st'.rootOf = st.rootOf := by
  funext id
  rw [rootOf_eq h, rootOf_eq h']
  exact PointerForest.root_congr (g := st.forest h) hp id

/-- **A root that is made to point at another** takes its tree with it. -/
theorem rootOf_of_linked (h : st.Ends) (h' : st'.Ends) {a b : String} (ha : st.parentOf a = none)
    (hb : st.parentOf b = none) (hne : a ≠ b)
    (hp : st'.parentOf = Function.update st.parentOf a (some b)) (k : String) :
    st'.rootOf k = if st.rootOf k = a then b else st.rootOf k := by
  rw [rootOf_eq h', rootOf_eq h]
  exact (PointerForest.root_congr (g := (st.forest h).link a b ha hb hne) hp k).trans
    ((st.forest h).root_link ha hb hne k)

theorem parentOf_eq_some {target : String} :
    st.parentOf id = some target ↔ ∃ s, st.speakers id = some s ∧ s.mergedInto = some target :=
  Option.bind_eq_some_iff

theorem parentOf_of_speaker (hs : st.speakers id = some s) : st.parentOf id = s.mergedInto := by
  unfold parentOf
  rw [hs]
  rfl

theorem marksOf_of_speaker (hs : st.speakers id = some s) : st.marksOf id = s.cannotLink := by
  unfold marksOf
  rw [hs]
  rfl

/-! ## Well-formed states -/

/-- What holds of the record registered under `id`. -/
structure SpeakerOk (st : SessionSpeakerState R V) (id : String) (s : SessionSpeaker R V) :
    Prop where
  /-- It is registered under its own id. -/
  keyed : s.sessionSpeakerId = id
  /-- It forwards to a registered speaker. -/
  target : ∀ t, s.mergedInto = some t → st.Registered t
  /-- Its prototype has positive weight. -/
  weight : ∀ p, s.prototype = some p → 0 < p.weightSum
  /-- Its prototype is of the session's model. -/
  version : ∀ p, s.prototype = some p → p.modelVersion = st.embeddingModelVersion
  /-- Its prototype belongs to the speaker it stands for. -/
  key : ∀ p, s.prototype = some p → st.rootOf p.speakerKey = st.rootOf id

/-- **A well-formed state.** -/
structure WellFormed (st : SessionSpeakerState R V) : Prop where
  ends : st.Ends
  mem_order : ∀ id, id ∈ st.order ↔ st.Registered id
  nodup : st.order.Nodup
  speaker : ∀ id s, st.speakers id = some s → st.SpeakerOk id s
  sink : ∀ id, st.unattributedId = some id → st.Registered id

/-- A state without speakers is well formed. -/
theorem wellFormed_new (sessionId : String) (config : SasttConfig R) (version : String) :
    (new sessionId config version : SessionSpeakerState R V).WellFormed where
  ends _ := rfl
  mem_order id := by
    constructor
    · intro h
      cases h
    · intro h
      cases h
  nodup := List.nodup_nil
  speaker id s hs := by cases hs
  sink id hid := by cases hid

section Lookup

/-- A speaker is found under its own id. -/
theorem WellFormed.keyed (h : st.WellFormed) (hs : st.speakers id = some s) :
    st.speakers s.sessionSpeakerId = some s := by
  rw [(h.speaker id s hs).keyed, hs]

theorem WellFormed.parentOf_registered (h : st.WellFormed) {t : String}
    (ht : st.parentOf id = some t) : st.Registered t := by
  obtain ⟨s, hs, hst⟩ := parentOf_eq_some.mp ht
  exact (h.speaker id s hs).target t hst

theorem WellFormed.parentOf_rootOf (h : st.WellFormed) (id : String) :
    st.parentOf (st.rootOf id) = none := by
  rw [rootOf_eq h.ends]
  exact (st.forest h.ends).parent_root id

theorem WellFormed.rootOf_of_parent_none (h : st.WellFormed) (hp : st.parentOf id = none) :
    st.rootOf id = id := by
  rw [rootOf_eq h.ends]
  exact (st.forest h.ends).root_of_parent_none hp

@[simp] theorem WellFormed.rootOf_rootOf (h : st.WellFormed) (id : String) :
    st.rootOf (st.rootOf id) = st.rootOf id :=
  h.rootOf_of_parent_none (h.parentOf_rootOf id)

/-- An id that was never registered stands for itself. -/
theorem rootOf_of_not_registered (hid : ¬ st.Registered id) : st.rootOf id = id := by
  have hp : st.parentOf id = none := by
    unfold parentOf
    rw [Option.not_isSome_iff_eq_none.mp hid]
    rfl
  unfold rootOf
  rw [chase_of_none hp]
  rfl

/-- The loop of `get` finds the record at the end of the chain. -/
theorem WellFormed.resolve_of_chase (h : st.WellFormed) {n : ℕ} {r : String}
    (hid : st.Registered id) (hr : chase st.parentOf n id = some r) :
    ∃ s, st.resolve n id = .ok s ∧ st.speakers r = some s ∧ s.mergedInto = none := by
  induction n generalizing id with
  | zero => cases hr
  | succ n ih =>
    obtain ⟨s, hs⟩ := Option.isSome_iff_exists.mp hid
    rw [resolve, hs]
    rcases hm : s.mergedInto with _ | t
    · rw [chase_of_none ((parentOf_of_speaker hs).trans hm)] at hr
      cases hr
      exact ⟨s, by simp only [hm], hs, hm⟩
    · rw [chase_of_some ((parentOf_of_speaker hs).trans hm)] at hr
      obtain ⟨s', hget, hs', hm'⟩ := ih ((h.speaker id s hs).target t hm) hr
      exact ⟨s', by simpa only [hm] using hget, hs', hm'⟩

/-- **`get` finds the speaker a registered id stands for.** -/
theorem WellFormed.get_of_registered (h : st.WellFormed) (hid : st.Registered id) :
    ∃ s, st.get id = .ok s ∧ st.speakers (st.rootOf id) = some s
      ∧ s.sessionSpeakerId = st.rootOf id ∧ s.mergedInto = none := by
  obtain ⟨s, hget, hs, hm⟩ := h.resolve_of_chase hid (chase_eq_forest_root h.ends id)
  rw [← rootOf_eq h.ends] at hs
  exact ⟨s, hget, hs, (h.speaker _ _ hs).keyed, hm⟩

/-- `get` raises on an id that was never registered. -/
theorem get_of_not_registered (hid : ¬ st.Registered id) : st.get id = .error (.keyError id) := by
  unfold get
  rw [resolve, Option.not_isSome_iff_eq_none.mp hid]

/-- `get` raises no error of the domain. -/
theorem isSastt_of_get_error {e : PyError} (h : st.get id = .error e) : e.isSastt = false := by
  unfold get at h
  generalize st.order.length + 1 = n at h
  induction n generalizing id with
  | zero =>
    cases h
    rfl
  | succ n ih =>
    rw [resolve] at h
    split at h
    · cases h
      rfl
    · split at h
      · cases h
      · exact ih h

/-- What `get` returning says. -/
theorem WellFormed.get_eq_ok (h : st.WellFormed) (hget : st.get id = .ok s) :
    st.Registered id ∧ st.speakers (st.rootOf id) = some s
      ∧ s.sessionSpeakerId = st.rootOf id ∧ s.mergedInto = none := by
  by_cases hid : st.Registered id
  · obtain ⟨s', hget', hs', hkey, hm⟩ := h.get_of_registered hid
    rw [hget'] at hget
    cases hget
    exact ⟨hid, hs', hkey, hm⟩
  · rw [get_of_not_registered hid] at hget
    cases hget

/-- `get` at a root is that root's record. -/
theorem WellFormed.get_of_root (h : st.WellFormed) (hs : st.speakers id = some s)
    (hm : s.mergedInto = none) : st.get id = .ok s := by
  have hroot := h.rootOf_of_parent_none ((parentOf_of_speaker hs).trans hm)
  obtain ⟨s', hget, hs', -⟩ := h.get_of_registered (Option.isSome_iff_exists.mpr ⟨s, hs⟩)
  rw [hroot, hs] at hs'
  cases hs'
  exact hget

/-- The active speakers are the registered ones that forward nowhere. -/
theorem WellFormed.mem_active (h : st.WellFormed) :
    s ∈ st.active ↔ st.speakers s.sessionSpeakerId = some s ∧ s.mergedInto = none := by
  unfold active registered
  rw [List.mem_filter, List.mem_filterMap, Option.isNone_iff_eq_none]
  constructor
  · rintro ⟨⟨id, -, hs⟩, hm⟩
    exact ⟨h.keyed hs, hm⟩
  · rintro ⟨hs, hm⟩
    exact ⟨⟨_, (h.mem_order _).mpr (Option.isSome_iff_exists.mpr ⟨s, hs⟩), hs⟩, hm⟩

end Lookup

/-! ## The frame of the quiet methods -/

/-- Two states with the same settings; the second may have more
speakers. -/
structure Extends (st st' : SessionSpeakerState R V) : Prop where
  registered : ∀ id, st.Registered id → st'.Registered id
  config : st'.config = st.config
  version : st'.embeddingModelVersion = st.embeddingModelVersion

/-- Two states with the same pointers and the same marks, besides. -/
structure Quiet (st st' : SessionSpeakerState R V) : Prop extends Extends st st' where
  parent : st'.parentOf = st.parentOf
  marks : st'.marksOf = st.marksOf

/-- **What every method but marking and merging keeps.** -/
def Keeps (st st' : SessionSpeakerState R V) : Prop :=
  st.WellFormed → st'.WellFormed ∧ Quiet st st'

theorem Extends.refl (st : SessionSpeakerState R V) : Extends st st :=
  ⟨fun _ h => h, rfl, rfl⟩

theorem Extends.trans {st st' st'' : SessionSpeakerState R V} (h : Extends st st')
    (h' : Extends st' st'') : Extends st st'' where
  registered id hid := h'.registered id (h.registered id hid)
  config := h'.config.trans h.config
  version := h'.version.trans h.version

theorem Quiet.refl (st : SessionSpeakerState R V) : Quiet st st :=
  ⟨Extends.refl st, rfl, rfl⟩

theorem Quiet.trans {st st' st'' : SessionSpeakerState R V} (h : Quiet st st')
    (h' : Quiet st' st'') : Quiet st st'' where
  toExtends := h.toExtends.trans h'.toExtends
  parent := h'.parent.trans h.parent
  marks := h'.marks.trans h.marks

instance : Std.Refl (Keeps (R := R) (V := V)) where
  refl st h := ⟨h, Quiet.refl st⟩

instance : IsTrans (SessionSpeakerState R V) Keeps where
  trans _ _ _ hst hst' h :=
    ⟨(hst' (hst h).1).1, (hst h).2.trans (hst' (hst h).1).2⟩

/-- Quiet steps between well-formed states keep the roots. -/
theorem Quiet.rootOf (hq : Quiet st st') (h : st.WellFormed) (h' : st'.WellFormed) :
    st'.rootOf = st.rootOf :=
  rootOf_congr h.ends h'.ends hq.parent

/-! ## Writing to the records -/

section Records

variable {f : SessionSpeaker R V → SessionSpeaker R V}

theorem speakers_assign (st : SessionSpeakerState R V) (id k : String) :
    (st.assign id f).speakers k = (st.speakers k).map (fun s => if k = id then f s else s) := by
  show Function.update st.speakers id ((st.speakers id).map f) k = _
  by_cases hk : k = id
  · rw [hk, Function.update_self]
    simp only [if_true]
  · rw [Function.update_of_ne hk]
    simp only [hk, if_false, Option.map_id']

theorem registered_assign (k : String) : (st.assign id f).Registered k ↔ st.Registered k := by
  unfold Registered
  rw [speakers_assign, Option.isSome_map]

/-- An assignment that leaves the forwarding alone leaves all pointers
alone. -/
theorem parentOf_assign (hf : ∀ s, (f s).mergedInto = s.mergedInto) :
    (st.assign id f).parentOf = st.parentOf := by
  funext k
  unfold parentOf
  rw [speakers_assign]
  rcases st.speakers k with _ | s
  · rfl
  · show (if k = id then f s else s).mergedInto = s.mergedInto
    split
    · exact hf s
    · rfl

theorem marksOf_assign (hf : ∀ s, (f s).cannotLink = s.cannotLink) :
    (st.assign id f).marksOf = st.marksOf := by
  funext k
  unfold marksOf
  rw [speakers_assign]
  rcases st.speakers k with _ | s
  · rfl
  · show (if k = id then f s else s).cannotLink = s.cannotLink
    split
    · exact hf s
    · rfl

/-- The chains of pointers end as long as the pointers are the same. -/
theorem Ends.congr (h : st.Ends) (hp : st'.parentOf = st.parentOf)
    (ho : st.order ⊆ st'.order) : st'.Ends := by
  have hsub : st.mergedIds ⊆ st'.mergedIds := by
    intro k hk
    unfold mergedIds at hk ⊢
    rw [Finset.mem_filter, List.mem_toFinset] at hk ⊢
    rw [hp]
    exact ⟨ho hk.1, hk.2⟩
  intro k
  obtain ⟨r, hr⟩ := Option.isSome_iff_exists.mp (h k)
  rw [hp, chase_mono (Nat.succ_le_succ (Finset.card_le_card hsub)) hr]
  rfl

/-- **An assignment that touches neither the id, the pointer nor the marks
of a record, and gives it a prototype of its own at most, is quiet.** -/
theorem WellFormed.assign (h : st.WellFormed)
    (hid : ∀ s, (f s).sessionSpeakerId = s.sessionSpeakerId)
    (hm : ∀ s, (f s).mergedInto = s.mergedInto) (hc : ∀ s, (f s).cannotLink = s.cannotLink)
    (hp : ∀ s, st.speakers id = some s → ∀ p, (f s).prototype = some p →
      0 < p.weightSum ∧ p.modelVersion = st.embeddingModelVersion
        ∧ st.rootOf p.speakerKey = st.rootOf id) :
    (st.assign id f).WellFormed ∧ Quiet st (st.assign id f) := by
  have hparent : (st.assign id f).parentOf = st.parentOf := parentOf_assign hm
  have hends : (st.assign id f).Ends := h.ends.congr hparent (List.Subset.refl _)
  have hroot : (st.assign id f).rootOf = st.rootOf := rootOf_congr h.ends hends hparent
  refine ⟨⟨hends, ?_, h.nodup, ?_, ?_⟩, ⟨⟨?_, rfl, rfl⟩, hparent, marksOf_assign hc⟩⟩
  · intro k
    rw [registered_assign]
    exact h.mem_order k
  · intro k s hs
    rw [speakers_assign, Option.map_eq_some_iff] at hs
    obtain ⟨s₀, hs₀, rfl⟩ := hs
    have hok := h.speaker k s₀ hs₀
    split
    · next hk =>
      rw [hk] at hs₀ hok ⊢
      refine ⟨(hid s₀).trans hok.keyed, ?_, ?_, ?_, ?_⟩
      · intro t ht
        rw [registered_assign]
        exact hok.target t ((hm s₀).symm.trans ht)
      · exact fun p hp' => (hp s₀ hs₀ p hp').1
      · exact fun p hp' => (hp s₀ hs₀ p hp').2.1
      · intro p hp'
        rw [hroot]
        exact (hp s₀ hs₀ p hp').2.2
    · refine ⟨hok.keyed, ?_, hok.weight, hok.version, ?_⟩
      · intro t ht
        rw [registered_assign]
        exact hok.target t ht
      · rw [hroot]
        exact hok.key
  · intro k hk
    rw [registered_assign]
    exact h.sink k hk
  · intro k hk
    rwa [registered_assign]

/-- What a record's own prototype satisfies. -/
theorem WellFormed.prototype_ok (h : st.WellFormed) (hs : st.speakers id = some s)
    {p : SpeakerPrototype R V} (hp : s.prototype = some p) :
    0 < p.weightSum ∧ p.modelVersion = st.embeddingModelVersion
      ∧ st.rootOf p.speakerKey = st.rootOf id :=
  ⟨(h.speaker id s hs).weight p hp, (h.speaker id s hs).version p hp,
    (h.speaker id s hs).key p hp⟩

/-- **Registering a new speaker is quiet**, as long as it comes without a
pointer, marks and a prototype. -/
theorem WellFormed.insertSpeaker (h : st.WellFormed) (hnew : ¬ st.Registered s.sessionSpeakerId)
    (hm : s.mergedInto = none) (hc : s.cannotLink = ∅) (hp : s.prototype = none) :
    (st.insertSpeaker s).WellFormed ∧ Quiet st (st.insertSpeaker s) := by
  have hnone : st.speakers s.sessionSpeakerId = none := Option.not_isSome_iff_eq_none.mp hnew
  have hspeakers : ∀ k, (st.insertSpeaker s).speakers k
      = if k = s.sessionSpeakerId then some s else st.speakers k := by
    intro k
    show Function.update st.speakers s.sessionSpeakerId (some s) k = _
    rw [Function.update_apply]
  have hparent : (st.insertSpeaker s).parentOf = st.parentOf := by
    funext k
    unfold parentOf
    rw [hspeakers]
    split
    · next hk => rw [hk, hnone]; exact hm
    · rfl
  have hmarks : (st.insertSpeaker s).marksOf = st.marksOf := by
    funext k
    unfold marksOf
    rw [hspeakers]
    split
    · next hk => rw [hk, hnone]; exact hc
    · rfl
  have hreg : ∀ k, (st.insertSpeaker s).Registered k
      ↔ k = s.sessionSpeakerId ∨ st.Registered k := by
    intro k
    unfold Registered
    rw [hspeakers]
    split
    · next hk => exact ⟨fun _ => Or.inl hk, fun _ => rfl⟩
    · next hk => exact ⟨Or.inr, fun h => h.resolve_left hk⟩
  have hends : (st.insertSpeaker s).Ends :=
    h.ends.congr hparent (List.subset_append_left _ _)
  have hroot : (st.insertSpeaker s).rootOf = st.rootOf := rootOf_congr h.ends hends hparent
  refine ⟨⟨hends, ?_, ?_, ?_, ?_⟩, ⟨⟨fun k hk => (hreg k).mpr (Or.inr hk), rfl, rfl⟩,
    hparent, hmarks⟩⟩
  · intro k
    rw [hreg, ← h.mem_order k]
    show k ∈ st.order ++ [s.sessionSpeakerId] ↔ _
    rw [List.mem_append, List.mem_singleton, or_comm]
  · refine h.nodup.append (List.nodup_singleton _) ?_
    rw [List.disjoint_singleton, h.mem_order]
    exact hnew
  · intro k s' hs'
    rw [hspeakers] at hs'
    split at hs'
    · next hk =>
      cases hs'
      refine ⟨hk.symm, ?_, ?_, ?_, ?_⟩
      · intro t ht
        rw [hm] at ht
        cases ht
      all_goals
        intro p hp'
        rw [hp] at hp'
        cases hp'
    · have hok := h.speaker k s' hs'
      refine ⟨hok.keyed, fun t ht => (hreg t).mpr (Or.inr (hok.target t ht)), hok.weight,
        hok.version, ?_⟩
      rw [hroot]
      exact hok.key
  · exact fun k hk => (hreg k).mpr (Or.inr (h.sink k hk))

end Records

end SessionSpeakerState

end Sastt
