import Sastt.Application.ConstrainedLinks
import Sastt.Application.WriteFrames
import Sastt.Lib.Programs

/-!
# The keys of prototypes

A prototype is built under the id of the speaker it is built for, and its updates keep that key.
So the key of a column of the scores is the id of the speaker whose prototype it is, and to
restrict the scores to some speakers keeps the columns of those (`carriesOwner_iff`).

The one other write to a prototype is a merge into a speaker who has none: it hands over the
source's, under the source's key. Without such a merge every prototype has its owner's id, and
with the first one it no longer does (`carriesOwner_along_iff`).
-/

namespace Sastt

/-! ## Restricted scores -/

section Scores

variable {R : Type} [Field R] [LinearOrder R] {n m : ℕ}

omit [Field R] in
/-- **What restricting does**: if a candidate has a score, the columns of the others are blanked,
and otherwise nothing is. -/
theorem restrictToCandidates_spec (matrix : ScoreMatrix R n m) (prototypeKeys : Fin m → String)
    (keys : List String) :
    ((∃ i j, prototypeKeys j ∈ keys ∧ matrix i j ≠ ⊥) → ∀ i j,
      (prototypeKeys j ∈ keys →
        restrictToCandidates matrix prototypeKeys (some keys) i j = matrix i j)
      ∧ (prototypeKeys j ∉ keys →
        restrictToCandidates matrix prototypeKeys (some keys) i j = ⊥))
    ∧ ((¬ ∃ i j, prototypeKeys j ∈ keys ∧ matrix i j ≠ ⊥) →
      restrictToCandidates matrix prototypeKeys (some keys) = matrix) := by
  cases keys with
  | nil => exact ⟨fun ⟨_, _, hmem, _⟩ => absurd hmem List.not_mem_nil, fun _ => rfl⟩
  | cons key keys =>
    have hiff : (∀ (i : Fin n) j, (if prototypeKeys j ∈ key :: keys then matrix i j else ⊥) = ⊥)
        ↔ ¬ ∃ i j, prototypeKeys j ∈ key :: keys ∧ matrix i j ≠ ⊥ := by
      push Not
      exact forall_congr' (fun i => forall_congr' (fun j => ite_eq_right_iff))
    unfold restrictToCandidates
    dsimp only
    constructor
    · intro hscored i j
      rw [if_neg (fun hblank => hiff.mp hblank hscored)]
      exact ⟨fun hmem => if_pos hmem, fun hmem => if_neg hmem⟩
    · intro hnone
      rw [if_pos (hiff.mpr hnone)]

end Scores

variable {R V : Type} [Field R] [LinearOrder R] [IsStrictOrderedRing R] [AddCommGroup V]
  [Module R V] [EmbeddingSpace R V]

namespace SessionSpeakerState

variable {st : SessionSpeakerState R V} {s A B : SessionSpeaker R V}

/-! ## Whose key a prototype has -/

/-- Every active speaker's prototype has the speaker's id for a key. -/
def OwnKeys (st : SessionSpeakerState R V) : Prop :=
  ∀ s ∈ st.active, ∀ p, s.prototype = some p → p.speakerKey = s.sessionSpeakerId

/-- A column of the scores is of one of some speakers. -/
def ColumnOf (st : SessionSpeakerState R V) (ids : List String)
    (j : Fin st.linkingPrototypes.length) : Prop :=
  ∃ s ∈ st.active, s.prototype = some st.linkingPrototypes[j] ∧ s.sessionSpeakerId ∈ ids

/-- **A prototype carries its owner's id**, the keys that sources are linked by are different
ids of active speakers, and to restrict scores to active speakers, if one of them has a score,
keeps exactly the columns of those speakers. -/
structure CarriesOwner (st : SessionSpeakerState R V) : Prop where
  own : st.OwnKeys
  distinct : (st.linkingPrototypes.map SpeakerPrototype.speakerKey).Nodup
  active : ∀ p ∈ st.linkingPrototypes, ∃ s ∈ st.active, s.sessionSpeakerId = p.speakerKey
  restricted : ∀ {n : ℕ} (matrix : ScoreMatrix R n st.linkingPrototypes.length)
    (ids : List String), (∀ id ∈ ids, ∃ s ∈ st.active, s.sessionSpeakerId = id) →
    ((∃ i j, st.ColumnOf ids j ∧ matrix i j ≠ ⊥) → ∀ i j,
      (st.ColumnOf ids j → restrictToCandidates matrix
        (fun j => st.linkingPrototypes[j].speakerKey) (some ids) i j = matrix i j)
      ∧ (¬ st.ColumnOf ids j → restrictToCandidates matrix
        (fun j => st.linkingPrototypes[j].speakerKey) (some ids) i j = ⊥))
    ∧ ((¬ ∃ i j, st.ColumnOf ids j ∧ matrix i j ≠ ⊥) → restrictToCandidates matrix
        (fun j => st.linkingPrototypes[j].speakerKey) (some ids) = matrix)

/-- **A merge that hands no prototype over.** -/
def HandsNothingOver (st : SessionSpeakerState R V) : Op R V → Prop
  | .merge a b _ => ∀ A B, st.get a = .ok A → st.get b = .ok B → MergeAllowed A B →
      B.prototype = none → A.prototype = none
  | _ => True

section

omit [AddCommGroup V] [Module R V] [EmbeddingSpace R V]

theorem mem_linkingPrototypes {p : SpeakerPrototype R V} :
    p ∈ st.linkingPrototypes ↔ ∃ s ∈ st.active, s.prototype = some p := by
  unfold linkingPrototypes
  exact List.mem_filterMap

/-- With the owners' ids for keys a column is of whoever its key names. -/
theorem OwnKeys.columnOf_iff (h : st.OwnKeys) (ids : List String)
    (j : Fin st.linkingPrototypes.length) :
    st.ColumnOf ids j ↔ st.linkingPrototypes[j].speakerKey ∈ ids := by
  constructor
  · rintro ⟨s, hs, hp, hid⟩
    rw [h s hs _ hp]
    exact hid
  · intro hid
    obtain ⟨s, hs, hp⟩ := mem_linkingPrototypes.mp (List.getElem_mem j.isLt)
    exact ⟨s, hs, hp, h s hs _ hp ▸ hid⟩

/-- **It is all said of the keys.** -/
theorem WellFormed.carriesOwner_iff (h : st.WellFormed) : st.CarriesOwner ↔ st.OwnKeys := by
  refine ⟨fun hcarries => hcarries.own, fun hown => ⟨hown, ?_, fun p hp => ?_, ?_⟩⟩
  · have hroots : st.linkingPrototypes.map SpeakerPrototype.speakerKey
        = st.linkingPrototypes.map (fun p => st.rootOf p.speakerKey) := by
      refine List.map_congr_left (fun p hp => ?_)
      obtain ⟨s, hs, hp⟩ := mem_linkingPrototypes.mp hp
      rw [h.rootOf_speakerKey hs hp, hown s hs p hp]
    rw [hroots]
    exact h.nodup_owners (List.Sublist.refl _)
  · obtain ⟨s, hs, hp⟩ := mem_linkingPrototypes.mp hp
    exact ⟨s, hs, (hown s hs p hp).symm⟩
  · intro n matrix ids _
    simp only [hown.columnOf_iff]
    exact restrictToCandidates_spec matrix _ ids

end

/-! ## One call -/

/-- A call that does not merge leaves every prototype its owner's id. -/
theorem WellFormed.ownKeys_of_ne_merge (h : st.WellFormed) (hown : st.OwnKeys) {op : Op R V}
    (hop : ∀ a b reason, op ≠ .merge a b reason) : (st.step op).OwnKeys := by
  intro s' hs' p hp
  obtain ⟨hkey, hm⟩ := (step_cases h op).1.mem_active.mp hs'
  have hkin := learnFrame_kin.step st op hop
  cases hs : st.speakers s'.sessionSpeakerId with
  | none => exact hkin.added _ _ hs hkey p hp
  | some s =>
    obtain ⟨t, ht, hkindred⟩ := hkin.kept _ s hs
    rw [hkey] at ht
    cases ht
    rcases hkindred.key p hp with hnew | ⟨q, hq, hold⟩
    · exact hnew
    · have hpointer : s.mergedInto = none := by
        rw [← parentOf_of_speaker hs, ← h.parentOf_step op hop, parentOf_of_speaker hkey, hm]
      have hactive : s ∈ st.active := h.mem_active.mpr ⟨h.keyed hs, hpointer⟩
      rw [hold, hown s hactive q hq, (h.speaker _ s hs).keyed]

/-- **A merge leaves every prototype its owner's id** exactly if it hands none over. -/
theorem WellFormed.ownKeys_merge_iff (h : st.WellFormed) (hown : st.OwnKeys)
    (a b reason : String) :
    (st.step (.merge a b reason)).OwnKeys ↔ st.HandsNothingOver (.merge a b reason) := by
  by_cases hs : st.MergeSucceeds a b
  swap
  · rw [step_merge_same h hs]
    exact iff_of_true hown (fun A B ha hb hallow => absurd ⟨A, B, ha, hb, hallow⟩ hs)
  obtain ⟨A, B, ha, hb, hallow⟩ := hs
  obtain ⟨-, hA, -, hAm⟩ := h.get_eq_ok ha
  obtain ⟨-, hB, -, hBm⟩ := h.get_eq_ok hb
  have hAkey := hown A (h.mem_active.mpr ⟨h.keyed hA, hAm⟩)
  have hBkey := hown B (h.mem_active.mpr ⟨h.keyed hB, hBm⟩)
  have hrecord := speakers_step_merge h ha hb hallow reason
  have h' := (step_cases h (.merge a b reason)).1
  constructor
  · intro hown' A' B' ha' hb' _ hnone
    cases ha.symm.trans ha'
    cases hb.symm.trans hb'
    by_contra hsome
    obtain ⟨p, hp⟩ := Option.ne_none_iff_exists'.mp hsome
    -- the target of the merge has the source's prototype
    have hrec : mergedRecord A B reason B.sessionSpeakerId B = { B with
        prototype := B.prototype <|> A.prototype
        cannotLink := B.cannotLink ∪ (A.cannotLink \ {B.sessionSpeakerId}) } := by
      unfold mergedRecord
      rw [if_neg hallow.1.symm, if_pos rfl]
    have hactive : mergedRecord A B reason B.sessionSpeakerId B
        ∈ (st.step (.merge a b reason)).active := by
      rw [h'.mem_active, hrecord, hrec]
      exact ⟨by rw [h.keyed hB, Option.map_some, hrec], hBm⟩
    have hkey := hown' _ hactive p (by rw [hrec, hnone, hp]; rfl)
    rw [hrec] at hkey
    exact hallow.1 ((hAkey p hp).symm.trans hkey)
  · intro hnothing s' hs' p hp
    obtain ⟨hkey, hm⟩ := h'.mem_active.mp hs'
    rw [hrecord] at hkey
    obtain ⟨s, hs, hrec⟩ := Option.map_eq_some_iff.mp hkey
    unfold mergedRecord at hrec
    split_ifs at hrec with hsource htarget
    · rw [← hrec] at hm
      cases hm
    · rw [htarget, h.keyed hB] at hs
      cases hs
      rw [← hrec] at hp
      replace hp : (B.prototype <|> A.prototype) = some p := hp
      cases hq : B.prototype with
      | none =>
        rw [hq, hnothing A B ha hb hallow hq] at hp
        cases hp
      | some q =>
        rw [hq] at hp
        cases hp
        exact (hBkey _ hq).trans htarget.symm
    · subst hrec
      exact hown s (h.mem_active.mpr ⟨hs, hm⟩) p hp

theorem WellFormed.ownKeys_step_iff (h : st.WellFormed) (hown : st.OwnKeys) (op : Op R V) :
    (st.step op).OwnKeys ↔ st.HandsNothingOver op := by
  cases op with
  | merge a b reason => exact h.ownKeys_merge_iff hown a b reason
  | _ => exact iff_of_true (h.ownKeys_of_ne_merge hown nofun) trivial

/-- **Every prototype carries its owner's id** exactly in the sessions in which no merge hands
one over. -/
theorem carriesOwner_along_iff (sessionId : String) (config : SasttConfig R) (version : String)
    (ops : List (Op R V)) :
    Along step CarriesOwner (new sessionId config version) ops
      ↔ EachStep step HandsNothingOver (new sessionId config version) ops := by
  have hnew : (new sessionId config version : SessionSpeakerState R V).OwnKeys :=
    fun _ hs => absurd hs List.not_mem_nil
  have hwf := wellFormed_new (R := R) (V := V) sessionId config version
  refine along_iff hwf (hwf.carriesOwner_iff.mpr hnew) (fun _ op h => (step_cases h op).1)
    (fun st op h hcarries => ?_)
  rw [(step_cases h op).1.carriesOwner_iff]
  exact h.ownKeys_step_iff hcarries.own op

/-- A speaker who is heard, and nobody is merged. -/
theorem carriesOwner_of_unmerged : Along step CarriesOwner
    (new "session" {} "model" : SessionSpeakerState ℚ ℚ)
    [.createTemporarySpeaker "t", .bufferProvisionalEmbedding "sess_spk_t" (cleanVoice true)] :=
  (carriesOwner_along_iff "session" {} "model" _).mpr (eachStep_cons.mpr
    ⟨trivial, eachStep_cons.mpr ⟨trivial, eachStep_nil⟩⟩)

/-- A temporary speaker is heard, and is merged into the speaker of a cluster who was not. -/
def heardIntoUnheard : List (Op ℚ ℚ) :=
  [.createTemporarySpeaker "t",
    .bufferProvisionalEmbedding "sess_spk_t" (cleanVoice true),
    .ensureClusterSpeaker "a" "A", .merge "sess_spk_t" "sess_spk_a" "reconciled"]

/-- **The cluster's speaker is linked under an id of somebody else**: the one prototype there is
to link by is of `sess_spk_a`, and has the key of the speaker who was merged. -/
theorem handed_over_keeps_key :
    ((new "session" {} "model").run heardIntoUnheard).active.map (fun s => s.sessionSpeakerId)
        = ["sess_spk_a"]
      ∧ ((new "session" {} "model").run heardIntoUnheard).linkingPrototypes.map
        (fun p => p.speakerKey) = ["sess_spk_t"]
      ∧ ¬ Along step CarriesOwner (new "session" {} "model") heardIntoUnheard := by
  have hactive : ((new "session" {} "model").run heardIntoUnheard).active.map
      (fun s => s.sessionSpeakerId) = ["sess_spk_a"] := by decide +kernel
  have hkeys : ((new "session" {} "model").run heardIntoUnheard).linkingPrototypes.map
      (fun p => p.speakerKey) = ["sess_spk_t"] := by decide +kernel
  refine ⟨hactive, hkeys, fun h => ?_⟩
  have hlast := h _ (List.prefix_refl _)
  obtain ⟨p, hp, hkey⟩ := List.mem_map.mp (hkeys ▸ List.mem_singleton_self "sess_spk_t")
  obtain ⟨s, hs, hid⟩ := hlast.active p hp
  have hmem : s.sessionSpeakerId ∈ ["sess_spk_a"] := hactive ▸ List.mem_map_of_mem hs
  rw [hid, hkey] at hmem
  revert hmem
  decide

end SessionSpeakerState

end Sastt
