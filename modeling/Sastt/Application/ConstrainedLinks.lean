import Sastt.Application.LinkSafety
import Sastt.Application.OverlapRegions
import Sastt.Application.PrototypeUpdates
import Sastt.Application.SpeakerCap
import Sastt.Lib.FlooredAssignments

/-!
# Constrained permutations

With as many sources as there are active speakers, linking is meant to be a
permutation: every source is linked, and the speakers they are linked to are
those the diarizer has active. `linkWindow` says so to `link_sources` on the
strength of a count of clusters, and the scores do not know of it. What has a
score is a prototype; an active speaker need not have one, and a temporary
speaker, whom no cluster stands for, may.

The prototypes that are offered are those of the candidates, or all of them
where no candidate has one (`offered`). The assignment gives one of them to
every source, if there are enough, and makes the total as large as it can. So
the sources are linked to the active speakers, for every rule of assignment,
exactly when each of these is on offer, and nobody else makes up for being
chosen (`constrained_permutes_iff`).
-/

namespace Sastt

/-! ## Scores -/

section Scores

variable {R : Type} [Field R] [LinearOrder R] {n m : ℕ}

/-- The prototypes on offer: those of the candidates, or all if there are
none. -/
def offered (prototypeKeys : Fin m → String) (keys : List String) : Finset (Fin m) :=
  if ∀ j, prototypeKeys j ∉ keys then Finset.univ
  else Finset.univ.filter (fun j => prototypeKeys j ∈ keys)

omit [Field R] in
/-- **Scored are the rows that have scores at all, against what is on
offer.** -/
theorem restrictToCandidates_ne_bot_iff {matrix : ScoreMatrix R n m}
    {prototypeKeys : Fin m → String}
    {keys : List String} (hkeys : keys ≠ []) {embedded : Fin n → Prop}
    (hmatrix : ∀ i j, matrix i j ≠ ⊥ ↔ embedded i) {i : Fin n} {j : Fin m} :
    restrictToCandidates matrix prototypeKeys (some keys) i j ≠ ⊥
      ↔ embedded i ∧ j ∈ offered prototypeKeys keys := by
  unfold restrictToCandidates offered
  match keys, hkeys with
  | key :: keys, _ =>
    dsimp only
    by_cases hnone : ∀ j, prototypeKeys j ∉ key :: keys
    · have hbot : ∀ (i : Fin n) j, (if prototypeKeys j ∈ key :: keys then matrix i j else ⊥) = ⊥ :=
        fun i j => if_neg (hnone j)
      rw [if_pos hnone, if_pos hbot, hmatrix]
      simp
    · rw [if_neg hnone, Finset.mem_filter, and_iff_right (Finset.mem_univ j)]
      by_cases hbot : ∀ (i : Fin n) j,
          (if prototypeKeys j ∈ key :: keys then matrix i j else ⊥) = ⊥
      · obtain ⟨j', hj'⟩ := not_forall.mp hnone
        have hrow : ¬ embedded i := by
          rw [← hmatrix i j', not_not]
          simpa only [if_pos (not_not.mp hj')] using hbot i j'
        rw [if_pos hbot, hmatrix]
        exact iff_of_false hrow (fun h => hrow h.1)
      · rw [if_neg hbot]
        by_cases hj : prototypeKeys j ∈ key :: keys
        · rw [if_pos hj, hmatrix]
          exact (and_iff_left hj).symm
        · rw [if_neg hj]
          exact iff_of_false (fun h => h rfl) (fun h => hj h.2)

/-- The bonus is for what has a score. -/
theorem applyContinuityBonus_ne_bot_iff (base : ScoreMatrix R n m) (prototypeKeys : Fin m → String)
    (previousMapping : PreviousMapping) (bonus : R) (i : Fin n) (j : Fin m) :
    applyContinuityBonus base prototypeKeys previousMapping bonus i j ≠ ⊥ ↔ base i j ≠ ⊥ := by
  unfold applyContinuityBonus
  split_ifs with hbonus
  · exact Iff.rfl
  · induction previousMapping generalizing base with
    | nil => exact Iff.rfl
    | cons link rest ih =>
      rw [List.foldl_cons, ih]
      unfold boost
      cases keyIndex prototypeKeys link.2 with
      | none => exact Iff.rfl
      | some j' =>
        dsimp only
        split_ifs with hlink
        · cases base i j with
          | bot => simp
          | coe s => simp
        · exact Iff.rfl

omit [Field R] in
theorem foldl_min_le {l : List R} {a s : R} (hs : s ∈ l) : l.foldl min a ≤ s := by
  have hmin : (a :: l).min? = some (l.foldl min a) := List.min?_cons'
  exact (List.min?_eq_some_iff.mp hmin).2 s (List.mem_cons_of_mem a hs)

variable [IsStrictOrderedRing R]

/-- **With the dummies priced out, what has no score is at the floor.** -/
theorem floored_solvableScores {scored : ScoreMatrix R n m} {rows : Finset (Fin n)}
    {cols : Finset (Fin m)} (hscored : ∀ i j, scored i j ≠ ⊥ ↔ i ∈ rows ∧ j ∈ cols) :
    ∃ floor, Floored (solvableScores scored ⊥) rows (cols.map (Fin.castAddEmb n)) floor := by
  refine ⟨((List.finRange n).flatMap (fun i => finiteScores (Fin.append (scored i)
    (fun l => if l = i then (⊥ : WithBot R) else ⊥)))).foldl min 0 - 1, fun i hi c hc => ?_,
    fun i c hout => ?_⟩
  · obtain ⟨j, hj, rfl⟩ := Finset.mem_map.mp hc
    obtain ⟨s, hs⟩ := WithBot.ne_bot_iff_exists.mp ((hscored i j).mpr ⟨hi, hj⟩)
    have hmem : s ∈ (List.finRange n).flatMap (fun i => finiteScores (Fin.append (scored i)
        (fun l => if l = i then (⊥ : WithBot R) else ⊥))) := by
      refine List.mem_flatMap.mpr ⟨i, List.mem_finRange i, mem_finiteScores.mpr
        ⟨Fin.castAdd n j, ?_⟩⟩
      rw [Fin.append_left, hs]
    show _ < (Fin.append (scored i) _ (Fin.castAdd n j)).unbotD _
    rw [Fin.append_left, ← hs, WithBot.unbotD_coe]
    linarith [foldl_min_le (a := 0) hmem]
  · show (Fin.append (scored i) _ c).unbotD _ = _
    induction c using Fin.addCases with
    | left j =>
      have hbot : scored i j = ⊥ := by
        by_contra hne
        obtain ⟨hi, hj⟩ := (hscored i j).mp hne
        exact hout.elim (fun h => h hi)
          (fun h => h (Finset.mem_map_of_mem (Fin.castAddEmb n) hj))
      rw [Fin.append_left, hbot]
      rfl
    | right l =>
      rw [Fin.append_right, ite_self]
      rfl

omit [IsStrictOrderedRing R] in
/-- A score above the floor is the score. -/
theorem solvableScores_castAdd {scored : ScoreMatrix R n m} {i : Fin n} {j : Fin m}
    (h : scored i j ≠ ⊥) (dummyValue : WithBot R) :
    solvableScores scored dummyValue i (Fin.castAdd n j) = (scored i j).unbotD 0 := by
  show (Fin.append (scored i) _ (Fin.castAdd n j)).unbotD _ = _
  obtain ⟨s, hs⟩ := WithBot.ne_bot_iff_exists.mp h
  rw [Fin.append_left, ← hs]
  rfl

end Scores

/-! ## Links -/

section Links

variable {R V : Type} [Field R] [LinearOrder R] [IsStrictOrderedRing R] [AddCommGroup V]
  [Module R V] [EmbeddingSpace R V]

/-- The sources with an embedding. -/
def embeddedRows (embeddings : List (Option (SpeakerEmbedding R V))) :
    Finset (Fin embeddings.length) :=
  Finset.univ.filter (fun i => (embeddings.get i).isSome)

/-- **Every source with an embedding is linked, and the speakers they are
linked to are the active ones**, none more and none less. -/
structure PermutesSpeakers (embeddings : List (Option (SpeakerEmbedding R V)))
    (stands : String → String → Prop) (active : List String)
    (decisions : List (LinkingDecision R)) : Prop where
  linked : ∀ i ∈ embeddedRows embeddings, ∃ d ∈ decisions, d.sourceTrack = i ∧ d.status = .linked
  speakers : ∀ id, (∃ d ∈ decisions, d.status = .linked ∧
    ∃ key ∈ d.sessionSpeakerId, stands key id) ↔ id ∈ active

/-- A score with its bonus. -/
def boostedScore {n m : ℕ} (base : ScoreMatrix R n m) (prototypeKeys : Fin m → String)
    (config : SourceLinkingConfig R) (previousMapping : PreviousMapping) (i : Fin n) (j : Fin m) :
    R :=
  (applyContinuityBonus base prototypeKeys previousMapping config.continuityBonus i j).unbotD 0

/-- **A constrained decision links**, to the prototype of the column. -/
theorem decideSource_constrained {n m : ℕ} {config : SourceLinkingConfig R}
    {hasEmbedding : Fin n → Bool} {base : ScoreMatrix R n m} {prototypeKeys : Fin m → String}
    {assignment : Fin n → Fin (m + n)} {i : Fin n} {j : Fin m}
    (hcalibrated : config.isCalibrated = true) (hembedding : hasEmbedding i = true)
    (hj : assignment i = Fin.castAdd n j) (hscore : base i j ≠ ⊥) :
    (decideSource hasEmbedding base prototypeKeys config true assignment i).status = .linked
      ∧ (decideSource hasEmbedding base prototypeKeys config true assignment i).sessionSpeakerId
        = some (prototypeKeys j) := by
  unfold SourceLinkingConfig.isCalibrated at hcalibrated
  rw [Bool.and_eq_true, Option.isSome_iff_exists, Option.isSome_iff_exists] at hcalibrated
  obtain ⟨⟨accept, haccept⟩, ambiguous, hambiguous⟩ := hcalibrated
  unfold decideSource
  simp [hembedding, haccept, hambiguous, hj, hscore]

variable {embeddings : List (Option (SpeakerEmbedding R V))}
  {prototypes : List (SpeakerPrototype R V)} {keys : List String}

omit [IsStrictOrderedRing R] in
theorem baseScores_ne_bot_iff {base : ScoreMatrix R embeddings.length prototypes.length}
    (hkeys : keys ≠ []) (hbase : baseScores embeddings prototypes (some keys) = .ok base)
    (i : Fin embeddings.length) (j : Fin prototypes.length) : base i j ≠ ⊥
      ↔ i ∈ embeddedRows embeddings
        ∧ j ∈ offered (fun j => (prototypes.get j).speakerKey) keys := by
  obtain ⟨matrix, hmatrix, rfl⟩ := baseScores_eq_ok hbase
  refine restrictToCandidates_ne_bot_iff hkeys (fun i j => ?_)
  rw [embeddedRows, Finset.mem_filter, and_iff_right (Finset.mem_univ i)]
  refine ⟨fun hscore => ?_, fun hsome => buildScoreMatrix_ne_bot hmatrix hsome j⟩
  cases hnone : embeddings.get i with
  | some e => rfl
  | none =>
    have hrow := scoreOf_eq_matrix hmatrix i j
    rw [hnone] at hrow
    exact absurd (Except.ok.inj hrow).symm hscore

section Owners

variable {stands : String → String → Prop} {owner : Fin prototypes.length → String}
  {active : List String} {config : SourceLinkingConfig R} {previousMapping : PreviousMapping}
  {linearSumAssignment : AssignmentRule R}

/-- The prototypes on offer that are an active speaker's. -/
def activeColumns (prototypes : List (SpeakerPrototype R V))
    (owner : Fin prototypes.length → String) (keys active : List String) :
    Finset (Fin prototypes.length) :=
  (offered (fun j => (prototypes.get j).speakerKey) keys).filter (fun j => owner j ∈ active)

omit [IsStrictOrderedRing R] in
/-- There are enough of them when there is one for each active speaker. -/
theorem card_le_activeColumns_iff {rows : Finset (Fin embeddings.length)}
    (hstands : ∀ j id, stands (prototypes.get j).speakerKey id ↔ owner j = id)
    (howner : Function.Injective owner) (hnodup : active.Nodup)
    (hcard : active.length = rows.card) :
    rows.card ≤ (activeColumns prototypes owner keys active).card
      ↔ ∀ id ∈ active, ∃ j ∈ offered (fun j => (prototypes.get j).speakerKey) keys,
        stands (prototypes.get j).speakerKey id := by
  have hsub : (activeColumns prototypes owner keys active).image owner ⊆ active.toFinset := by
    intro id hid
    obtain ⟨j, hj, rfl⟩ := Finset.mem_image.mp hid
    exact List.mem_toFinset.mpr (Finset.mem_filter.mp hj).2
  have hspeakers : active.toFinset.card = rows.card :=
    (List.toFinset_card_of_nodup hnodup).trans hcard
  rw [← hspeakers, ← Finset.card_image_of_injective _ howner]
  constructor
  · intro hle id hid
    have heq := Finset.eq_of_subset_of_card_le hsub hle
    obtain ⟨j, hj, hid⟩ := Finset.mem_image.mp (heq ▸ List.mem_toFinset.mpr hid)
    exact ⟨j, (Finset.mem_filter.mp hj).1, (hstands j id).mpr hid⟩
  · intro hall
    refine Finset.card_le_card (fun id hid => ?_)
    have hid := List.mem_toFinset.mp hid
    obtain ⟨j, hj, hstand⟩ := hall id hid
    have hj' := (hstands j id).mp hstand
    exact Finset.mem_image.mpr ⟨j, Finset.mem_filter.mpr ⟨hj, hj' ▸ hid⟩, hj'⟩

/-- **The links are a permutation of the active speakers exactly when the
assignment keeps to their prototypes.** -/
theorem permutesSpeakers_iff_isChoice
    {base : ScoreMatrix R embeddings.length prototypes.length} (hkeys : keys ≠ [])
    (hbase : baseScores embeddings prototypes (some keys) = .ok base)
    (hcalibrated : config.isCalibrated = true) (hone : OneToOne linearSumAssignment)
    (hstands : ∀ j id, stands (prototypes.get j).speakerKey id ↔ owner j = id)
    (howner : Function.Injective owner) (hnodup : active.Nodup)
    (hcard : active.length = (embeddedRows embeddings).card)
    (hrows : (embeddedRows embeddings).Nonempty) :
    PermutesSpeakers embeddings stands active (linkScores linearSumAssignment embeddings prototypes
        config previousMapping true base).decisions
      ↔ IsChoice (embeddedRows embeddings) ((activeColumns prototypes owner keys active).map
          (Fin.castAddEmb embeddings.length))
        (assignColumns linearSumAssignment base (fun j => (prototypes.get j).speakerKey) config
          previousMapping true) := by
  have hscored := baseScores_ne_bot_iff hkeys hbase
  unfold linkScores
  dsimp only
  set assignment := assignColumns linearSumAssignment base (fun j => (prototypes.get j).speakerKey)
    config previousMapping true
  have hinjective : Function.Injective assignment := hone _ _
  by_cases hnone : prototypes = []
  · rw [if_pos hnone]
    obtain ⟨i, hi⟩ := hrows
    refine iff_of_false (fun h => ?_) (fun h => ?_)
    · obtain ⟨d, hd, -, hlinked⟩ := h.linked i hi
      obtain ⟨i', -, rfl⟩ := List.mem_map.mp hd
      cases hlinked
    · obtain ⟨j, -, -⟩ := Finset.mem_map.mp (h.mem i hi)
      exact absurd hnone (List.ne_nil_of_length_pos j.pos)
  · rw [if_neg hnone]
    set decide' := decideSource (fun i => (embeddings.get i).isSome) base
      (fun j => (prototypes.get j).speakerKey) config true assignment
    have hembedded : ∀ i, i ∈ embeddedRows embeddings ↔ (embeddings.get i).isSome = true :=
      fun i => (Finset.mem_filter.trans (and_iff_right (Finset.mem_univ i)))
    -- a link is to the column, and the column is on offer
    have hlink : ∀ i, (decide' i).status = .linked → i ∈ embeddedRows embeddings ∧
        ∃ j ∈ offered (fun j => (prototypes.get j).speakerKey) keys,
          assignment i = Fin.castAdd embeddings.length j
            ∧ (decide' i).sessionSpeakerId = some (prototypes.get j).speakerKey := by
      intro i hi
      obtain ⟨hembedding, j, _, _, s, hto⟩ := decideSource_linked hi
      have hne : base i j ≠ ⊥ := by
        rw [hto.scored]
        exact WithBot.coe_ne_bot
      exact ⟨(hembedded i).mpr hembedding, j, ((hscored i j).mp hne).2, hto.column, hto.speaker⟩
    constructor
    · intro h
      refine ⟨hinjective.injOn, fun i hi => ?_⟩
      obtain ⟨d, hd, htrack, hlinked⟩ := h.linked i hi
      obtain ⟨i', -, rfl⟩ := List.mem_map.mp hd
      rw [sourceTrack_decideSource] at htrack
      rw [Fin.ext htrack] at hlinked
      obtain ⟨-, j, hj, hcolumn, hspeaker⟩ := hlink i hlinked
      have hactive := (h.speakers (owner j)).mp ⟨_, List.mem_map_of_mem (List.mem_finRange i),
        hlinked, _, hspeaker, (hstands j _).mpr rfl⟩
      rw [hcolumn]
      exact Finset.mem_map_of_mem (Fin.castAddEmb embeddings.length)
        (Finset.mem_filter.mpr ⟨hj, hactive⟩)
    · intro h
      have hcolumns : ∀ i ∈ embeddedRows embeddings, ∃ j, owner j ∈ active
          ∧ assignment i = Fin.castAdd embeddings.length j ∧ (decide' i).status = .linked
          ∧ (decide' i).sessionSpeakerId = some (prototypes.get j).speakerKey := by
        intro i hi
        obtain ⟨j, hj, hcolumn⟩ := Finset.mem_map.mp (h.mem i hi)
        obtain ⟨hoffered, hactive⟩ := Finset.mem_filter.mp hj
        exact ⟨j, hactive, hcolumn.symm, decideSource_constrained hcalibrated
          ((hembedded i).mp hi) hcolumn.symm ((hscored i j).mpr ⟨hi, hoffered⟩)⟩
      refine ⟨fun i hi => ?_, fun id => ⟨?_, fun hid => ?_⟩⟩
      · obtain ⟨j, -, -, hlinked, -⟩ := hcolumns i hi
        exact ⟨_, List.mem_map_of_mem (List.mem_finRange i), sourceTrack_decideSource, hlinked⟩
      · rintro ⟨d, hd, hlinked, key, hkey, hstand⟩
        obtain ⟨i, -, rfl⟩ := List.mem_map.mp hd
        obtain ⟨j, hactive, -, -, hspeaker⟩ := hcolumns i (hlink i hlinked).1
        obtain rfl := Option.some.inj (hspeaker.symm.trans hkey)
        rwa [← (hstands j id).mp hstand]
      · -- as many speakers as sources, so each is reached
        obtain ⟨j₀, -⟩ := hcolumns _ hrows.choose_spec
        have : Nonempty (Fin prototypes.length) := ⟨j₀⟩
        choose! column hactive hcolumn hlinked hspeaker using hcolumns
        have hdistinct : Set.InjOn (owner ∘ column) (embeddedRows embeddings) := by
          intro i hi i' hi' heq
          exact hinjective ((hcolumn i hi).trans (howner heq ▸ (hcolumn i' hi').symm))
        have hsub : (embeddedRows embeddings).image (owner ∘ column) ⊆ active.toFinset := by
          intro id hid
          obtain ⟨i, hi, rfl⟩ := Finset.mem_image.mp hid
          exact List.mem_toFinset.mpr (hactive i hi)
        have heq := Finset.eq_of_subset_of_card_le hsub
          (by rw [Finset.card_image_of_injOn hdistinct, List.toFinset_card_of_nodup hnodup, hcard])
        obtain ⟨i, hi, hid⟩ := Finset.mem_image.mp (heq ▸ List.mem_toFinset.mpr hid)
        exact ⟨_, List.mem_map_of_mem (List.mem_finRange i), hlinked i hi, _, hspeaker i hi,
          (hstands _ id).mpr hid⟩

/-- **The permutation is forced**: vectors of one model are compared, a
prototype of every active speaker is on offer, and a choice that takes somebody
else's is beaten by one that does not. -/
structure PermutationForced (embeddings : List (Option (SpeakerEmbedding R V)))
    (prototypes : List (SpeakerPrototype R V)) (config : SourceLinkingConfig R)
    (previousMapping : PreviousMapping) (keys : List String) (stands : String → String → Prop)
    (active : List String) : Prop where
  one_model : OneModel embeddings prototypes
  on_offer : ∀ id ∈ active, ∃ j ∈ offered (fun j => (prototypes.get j).speakerKey) keys,
    stands (prototypes.get j).speakerKey id
  others_beaten : ∀ base, baseScores embeddings prototypes (some keys) = .ok base →
    ∀ f, IsChoice (embeddedRows embeddings)
        (offered (fun j => (prototypes.get j).speakerKey) keys) f →
      (∃ i ∈ embeddedRows embeddings, ∀ id ∈ active,
        ¬ stands (prototypes.get (f i)).speakerKey id) →
      ∃ g, IsChoice (embeddedRows embeddings)
          (offered (fun j => (prototypes.get j).speakerKey) keys) g
        ∧ (∀ i ∈ embeddedRows embeddings, ∃ id ∈ active,
          stands (prototypes.get (g i)).speakerKey id)
        ∧ ∑ i ∈ embeddedRows embeddings, boostedScore base (fun j => (prototypes.get j).speakerKey)
            config previousMapping i (f i)
          < ∑ i ∈ embeddedRows embeddings,
            boostedScore base (fun j => (prototypes.get j).speakerKey) config previousMapping i
              (g i)

/-- **When linking permutes the active speakers**, whatever rule assigns. -/
theorem permutationForced_iff (hkeys : keys ≠ []) (hcalibrated : config.isCalibrated = true)
    (hstands : ∀ j id, stands (prototypes.get j).speakerKey id ↔ owner j = id)
    (howner : Function.Injective owner) (hnodup : active.Nodup)
    (hcard : active.length = (embeddedRows embeddings).card)
    (hrows : (embeddedRows embeddings).Nonempty) :
    (∀ rule : AssignmentRule R, OneToOne rule → MaximumTotal rule →
        ∃ result, linkSources rule embeddings prototypes config previousMapping (some keys) true
            = .ok result ∧ PermutesSpeakers embeddings stands active result.decisions)
      ↔ PermutationForced embeddings prototypes config previousMapping keys stands active := by
  cases hbase : baseScores embeddings prototypes (some keys) with
  | error e =>
    have hrefused : ∀ (rule : AssignmentRule R) result, linkSources rule embeddings prototypes
        config previousMapping (some keys) true ≠ .ok result := by
      intro rule result h
      unfold linkSources at h
      rw [hbase] at h
      cases h
    obtain ⟨rule, hone, hmax⟩ := exists_assignmentRule (R := R)
    refine iff_of_false (fun h => ?_) (fun h => ?_)
    · obtain ⟨result, hresult, -⟩ := h rule hone hmax
      exact hrefused rule result hresult
    · obtain ⟨result, hresult⟩ := linkSources_returns_iff.mpr h.one_model
      exact hrefused rule result hresult
  | ok base =>
    set rows := embeddedRows embeddings
    set cols := offered (fun j => (prototypes.get j).speakerKey) keys
    set kept := activeColumns prototypes owner keys active
    set scored := applyContinuityBonus base (fun j => (prototypes.get j).speakerKey) previousMapping
      config.continuityBonus with hdef
    have hscored : ∀ i j, scored i j ≠ ⊥ ↔ i ∈ rows ∧ j ∈ cols := fun i j =>
      (applyContinuityBonus_ne_bot_iff base _ previousMapping _ i j).trans
        (baseScores_ne_bot_iff hkeys hbase i j)
    obtain ⟨floor, hfloor⟩ := floored_solvableScores hscored
    have hsum : ∀ {f : Fin embeddings.length → Fin prototypes.length}
        {F : Fin embeddings.length → Fin (prototypes.length + embeddings.length)},
        IsChoice rows cols f → (∀ i ∈ rows, F i = Fin.castAdd embeddings.length (f i)) →
          ∑ i ∈ rows, solvableScores scored ⊥ i (F i) = ∑ i ∈ rows, boostedScore base
            (fun j => (prototypes.get j).speakerKey) config previousMapping i (f i) := by
      refine fun hf hF => Finset.sum_congr rfl (fun i hi => ?_)
      rw [hF i hi]
      exact solvableScores_castAdd ((hscored i _).mpr ⟨hi, hf.mem i hi⟩) ⊥
    have hsub : kept ⊆ cols := Finset.filter_subset _ _
    -- who keeps to the active speakers
    have hkept : ∀ {j}, j ∈ cols →
        (j ∈ kept ↔ ∃ id ∈ active, stands (prototypes.get j).speakerKey id) := by
      intro j hj
      refine Finset.mem_filter.trans ((and_iff_right hj).trans ⟨fun h => ⟨_, h, ?_⟩, ?_⟩)
      · exact (hstands j _).mpr rfl
      · rintro ⟨id, hid, hstand⟩
        rwa [(hstands j id).mp hstand]
    have hrule : ∀ rule : AssignmentRule R, OneToOne rule →
        ((∃ result, linkSources rule embeddings prototypes config previousMapping (some keys) true
            = .ok result ∧ PermutesSpeakers embeddings stands active result.decisions)
          ↔ IsChoice rows (kept.map (Fin.castAddEmb embeddings.length))
            (rule (Nat.le_add_left _ _) (solvableScores scored ⊥))) := by
      intro rule hone
      unfold linkSources
      rw [hbase]
      refine Iff.trans ⟨?_, fun h => ⟨_, rfl, h⟩⟩ (permutesSpeakers_iff_isChoice hkeys hbase
        hcalibrated hone hstands howner hnodup hcard hrows)
      rintro ⟨_, ⟨⟩, h⟩
      exact h
    have hforced := forall_rule_isChoice_iff (Nat.le_add_left _ _) hfloor
      (Finset.map_subset_map.mpr hsub)
    rw [Finset.card_map, card_le_activeColumns_iff hstands howner hnodup hcard] at hforced
    rw [← show _ ↔ _ from forall_congr' (fun rule => imp_congr_right (fun hone =>
      imp_congr_right (fun _ => (hrule rule hone).symm)))]
    refine hforced.trans ⟨fun ⟨hoffer, hbeaten⟩ => ⟨?_, hoffer, ?_⟩, fun h => ⟨h.on_offer, ?_⟩⟩
    · obtain ⟨matrix, hmatrix, -⟩ := baseScores_eq_ok hbase
      exact buildScoreMatrix_returns_iff.mp ⟨matrix, hmatrix⟩
    · intro base' hbase' f hf ⟨i, hi, hother⟩
      rw [hbase] at hbase'
      obtain rfl := Except.ok.inj hbase'
      have hout : (Fin.castAddEmb embeddings.length ∘ f) i
          ∉ kept.map (Fin.castAddEmb embeddings.length) := by
        intro hmem
        obtain ⟨id, hid, hstand⟩ := (hkept (hf.mem i hi)).mp
          ((Finset.mem_map' (Fin.castAddEmb embeddings.length)).mp hmem)
        exact hother id hid hstand
      obtain ⟨G, hG, hlt⟩ := hbeaten _ (hf.map (Fin.castAddEmb _)) ⟨i, hi, hout⟩
      obtain ⟨g, hg, hGg⟩ := hG.exists_of_map hrows
      refine ⟨g, hg.mono hsub, fun i hi => (hkept (hsub (hg.mem i hi))).mp (hg.mem i hi), ?_⟩
      have hfsum := hsum (F := Fin.castAddEmb _ ∘ f) hf (fun _ _ => rfl)
      rwa [hfsum, hsum (hg.mono hsub) hGg] at hlt
    · rintro F hF ⟨i, hi, hout⟩
      obtain ⟨f, hf, hFf⟩ := hF.exists_of_map hrows
      have hother : ∀ id ∈ active, ¬ stands (prototypes.get (f i)).speakerKey id := by
        intro id hid hstand
        refine hout ?_
        rw [hFf i hi]
        exact Finset.mem_map_of_mem _ ((hkept (hf.mem i hi)).mpr ⟨id, hid, hstand⟩)
      obtain ⟨g, hg, hall, hlt⟩ := h.others_beaten base hbase f hf ⟨i, hi, hother⟩
      have hgkept : IsChoice rows kept g :=
        ⟨hg.injOn, fun i hi => (hkept (hg.mem i hi)).mpr (hall i hi)⟩
      refine ⟨_, hgkept.map (Fin.castAddEmb _), ?_⟩
      have hgsum := hsum (F := Fin.castAddEmb _ ∘ g) hg (fun _ _ => rfl)
      rwa [hsum hf hFf, hgsum]

end Owners

end Links

/-! ## The sources of a window -/

section Owners

variable {R V : Type} [Field R] [LinearOrder R] [IsStrictOrderedRing R] [AddCommGroup V]
  [Module R V] [EmbeddingSpace R V]

namespace SessionSpeakerState

variable {st : SessionSpeakerState R V} {s : SessionSpeaker R V}

/-- One id stands for the speaker of another, after all merges. -/
def StandsFor (st : SessionSpeakerState R V) (key id : String) : Prop :=
  ∃ s, st.get key = .ok s ∧ s.sessionSpeakerId = id

section

omit [AddCommGroup V] [Module R V] [EmbeddingSpace R V]

/-- A prototype is of the speaker who has it, though its key may be the id of
one who was merged into them. -/
theorem WellFormed.rootOf_speakerKey (h : st.WellFormed) (hs : s ∈ st.active)
    {p : SpeakerPrototype R V} (hp : s.prototype = some p) :
    st.rootOf p.speakerKey = s.sessionSpeakerId := by
  obtain ⟨hid, hm⟩ := h.mem_active.mp hs
  rw [(h.prototype_ok hid hp).2.2]
  exact h.rootOf_of_parent_none ((parentOf_of_speaker hid).trans hm)

theorem WellFormed.standsFor_iff (h : st.WellFormed) (hs : s ∈ st.active)
    {p : SpeakerPrototype R V} (hp : s.prototype = some p) (id : String) :
    st.StandsFor p.speakerKey id ↔ st.rootOf p.speakerKey = id := by
  have hregistered : st.Registered p.speakerKey := by
    by_contra hnot
    have hkey := (rootOf_of_not_registered hnot).symm.trans (h.rootOf_speakerKey hs hp)
    exact hnot (hkey ▸ Option.isSome_iff_exists.mpr ⟨s, (h.mem_active.mp hs).1⟩)
  obtain ⟨s', hget, -, hroot, -⟩ := h.get_of_registered hregistered
  unfold StandsFor
  rw [hget, ← hroot]
  exact ⟨fun ⟨_, heq, hid⟩ => Except.ok.inj heq ▸ hid, fun hid => ⟨s', rfl, hid⟩⟩

/-- **No two prototypes are of one speaker.** -/
theorem WellFormed.nodup_owners (h : st.WellFormed) {speakers : List (SessionSpeaker R V)}
    (hsub : speakers.Sublist st.active) :
    ((speakers.filterMap (fun s => s.prototype)).map (fun p => st.rootOf p.speakerKey)).Nodup := by
  refine List.Nodup.sublist ?_ ((hsub.map SessionSpeaker.sessionSpeakerId).nodup h.nodup_active)
  have hactive : ∀ s ∈ speakers, s ∈ st.active := fun s hs => hsub.subset hs
  clear hsub
  induction speakers with
  | nil => exact List.Sublist.slnil
  | cons s rest ih =>
    have hrest := ih (fun s hs => hactive s (List.mem_cons_of_mem _ hs))
    cases hp : s.prototype with
    | none =>
      rw [List.filterMap_cons_none hp, List.map_cons]
      exact hrest.cons _
    | some p =>
      rw [List.filterMap_cons_some hp, List.map_cons, List.map_cons,
        h.rootOf_speakerKey (hactive s List.mem_cons_self) hp]
      exact hrest.cons_cons _

end

end SessionSpeakerState

end Owners

namespace OfflinePipeline

section

variable {R V S : Type} [Field R] [LinearOrder R] [IsStrictOrderedRing R] [AddCommGroup V]
  [Module R V] [EmbeddingSpace R V] (p : OfflinePipeline R)

/-- The prototypes the sources of a window are compared with. -/
def windowPrototypes (state : SessionSpeakerState R V) : List (SpeakerPrototype R V) :=
  if p.allowProvisionalContinuity then state.linkingPrototypes else state.prototypes

/-- The speakers of the clusters that are active over a window. -/
def clusterBacked (diarization : Option (DiarizationResult R)) (state : SessionSpeakerState R V)
    (window : TimeInterval) : List String :=
  diarization.elim [] (fun d => (((activeClusters d window).filterMap state.byCluster).map
    SessionSpeaker.sessionSpeakerId).dedup)

/-- Whether the sources of a window are linked under a constrained
permutation. -/
def constrains (diarization : Option (DiarizationResult R)) (state : SessionSpeakerState R V)
    (window : TimeInterval) (sources : List (SeparatedSource R V S)) : Bool :=
  p.config.sourceLinking.shortSourcePolicy = .diarizationConstrained
    && 1 < (p.activeSpeakers diarization state window).2
    && (p.activeSpeakers diarization state window).2
      = (sources.map SeparatedSource.embedding).countP Option.isSome

theorem linkWindow_eq (c : RegionContext R S) (state : SessionSpeakerState R V)
    (window : TimeInterval) (sources : List (SeparatedSource R V S))
    (previousMapping : PreviousMapping) :
    p.linkWindow c state window sources previousMapping
      = (linkSources p.linearSumAssignment (sources.map SeparatedSource.embedding)
          (p.windowPrototypes state) p.config.sourceLinking previousMapping
          (p.activeSpeakers c.diarization state window).1
          (p.constrains c.diarization state window sources)).map
        (fun result => (result.decisions, result.mapping)) := by
  unfold linkWindow constrains windowPrototypes
  rcases p.activeSpeakers c.diarization state window with ⟨keys, active⟩
  rfl

omit [IsStrictOrderedRing R] in
theorem card_embeddedRows (embeddings : List (Option (SpeakerEmbedding R V))) :
    (embeddedRows embeddings).card = embeddings.countP Option.isSome := by
  unfold embeddedRows
  rw [← List.toFinset_finRange, (List.nodup_finRange _).card_eq_countP]
  conv_rhs => rw [← List.map_getElem_finRange embeddings, List.countP_map]
  simp only [Bool.decide_eq_true]
  rfl

/-- **Who is active under a constrained permutation**: more than one speaker
with a cluster, as many as there are sources with an embedding. -/
theorem constrains_spec {diarization : Option (DiarizationResult R)}
    {state : SessionSpeakerState R V} {window : TimeInterval}
    {sources : List (SeparatedSource R V S)}
    (h : p.constrains diarization state window sources = true) :
    (∃ keys ≠ [], (p.activeSpeakers diarization state window).1 = some keys)
      ∧ 1 < (clusterBacked diarization state window).length
      ∧ (clusterBacked diarization state window).length
        = (embeddedRows (sources.map SeparatedSource.embedding)).card := by
  unfold constrains at h
  rw [Bool.and_eq_true, Bool.and_eq_true, decide_eq_true_iff, decide_eq_true_iff,
    decide_eq_true_iff, ← card_embeddedRows] at h
  obtain ⟨⟨-, hmany⟩, hcount⟩ := h
  generalize (embeddedRows (sources.map SeparatedSource.embedding)).card = embedded at hcount ⊢
  revert hmany hcount
  unfold activeSpeakers
  cases diarization with
  | none => exact fun hmany => absurd hmany (by simp)
  | some d =>
    cases hrestrict : p.config.sourceLinking.restrictToActiveClusters with
    | false => exact fun hmany => absurd hmany (by simp [Option.filter])
    | true =>
      simp only [Option.filter, if_true]
      split_ifs with hnone
      · exact fun hmany => absurd hmany (by simp)
      · exact fun hmany hcount =>
          ⟨⟨_, List.append_ne_nil_of_left_ne_nil hnone _, rfl⟩, hmany, hcount⟩

omit [AddCommGroup V] [Module R V] [EmbeddingSpace R V] in
/-- The prototypes that are compared are of distinct active speakers. -/
theorem exists_windowSpeakers (state : SessionSpeakerState R V) :
    ∃ speakers : List (SessionSpeaker R V), speakers.Sublist state.active
      ∧ p.windowPrototypes state = speakers.filterMap (fun s => s.prototype) := by
  unfold windowPrototypes
  split_ifs
  · exact ⟨_, List.Sublist.refl _, rfl⟩
  · exact ⟨_, List.filter_sublist, rfl⟩

/-- **When a constrained permutation is a permutation of the active
speakers**, whatever rule of assignment the pipeline has. -/
theorem constrained_permutes_iff (c : RegionContext R S) (state : SessionSpeakerState R V)
    (hreach : state.Reachable) (window : TimeInterval) (sources : List (SeparatedSource R V S))
    (previousMapping : PreviousMapping)
    (hconstrains : p.constrains c.diarization state window sources = true)
    (hcalibrated : p.config.sourceLinking.isCalibrated = true) :
    (∀ rule : AssignmentRule R, OneToOne rule → MaximumTotal rule →
        ∃ links, { p with linearSumAssignment := rule }.linkWindow c state window sources
            previousMapping = .ok links
          ∧ PermutesSpeakers (sources.map SeparatedSource.embedding) state.StandsFor
            (clusterBacked c.diarization state window) links.1)
      ↔ PermutationForced (sources.map SeparatedSource.embedding) (p.windowPrototypes state)
          p.config.sourceLinking previousMapping
          ((p.activeSpeakers c.diarization state window).1.getD []) state.StandsFor
          (clusterBacked c.diarization state window) := by
  obtain ⟨⟨keys, hkeys, hactive⟩, hmany, hcard⟩ := p.constrains_spec hconstrains
  obtain ⟨speakers, hsub, hprototypes⟩ := p.exists_windowSpeakers state
  have hstate := hreach.wellFormed
  have hlink : ∀ rule : AssignmentRule R,
      { p with linearSumAssignment := rule }.linkWindow c state window sources previousMapping
        = (linkSources rule (sources.map SeparatedSource.embedding) (p.windowPrototypes state)
            p.config.sourceLinking previousMapping (some keys) true).map
          (fun result => (result.decisions, result.mapping)) := by
    intro rule
    rw [← hactive, ← hconstrains]
    exact linkWindow_eq _ c state window sources previousMapping
  rw [hactive, Option.getD_some]
  have hnodup := hstate.nodup_owners hsub
  rw [← hprototypes] at hnodup
  have howner : Function.Injective
      (fun j : Fin (p.windowPrototypes state).length =>
        state.rootOf (p.windowPrototypes state)[j].speakerKey) := by
    intro j j' heq
    have hget : ((p.windowPrototypes state).map (fun p => state.rootOf p.speakerKey)).get
        ⟨j, by simp⟩ = ((p.windowPrototypes state).map (fun p => state.rootOf p.speakerKey)).get
        ⟨j', by simp⟩ := by simpa using heq
    exact Fin.ext (Fin.mk.inj (hnodup.injective_get hget))
  have hstands : ∀ (j : Fin (p.windowPrototypes state).length) id,
      state.StandsFor (p.windowPrototypes state)[j].speakerKey id
        ↔ state.rootOf (p.windowPrototypes state)[j].speakerKey = id := by
    intro j id
    have hmem : (p.windowPrototypes state)[j] ∈ speakers.filterMap (fun s => s.prototype) :=
      hprototypes ▸ List.getElem_mem j.isLt
    obtain ⟨s, hs, hp⟩ := List.mem_filterMap.mp hmem
    exact hstate.standsFor_iff (hsub.subset hs) hp id
  have hrows : (embeddedRows (sources.map SeparatedSource.embedding)).Nonempty :=
    Finset.card_pos.mp (by omega)
  have hnodupActive : (clusterBacked c.diarization state window).Nodup := by
    unfold clusterBacked
    cases c.diarization with
    | none => exact List.nodup_nil
    | some d => exact List.nodup_dedup _
  rw [← permutationForced_iff hkeys hcalibrated hstands howner hnodupActive hcard hrows]
  refine forall_congr' (fun rule => imp_congr_right (fun _ => imp_congr_right (fun _ => ?_)))
  rw [hlink]
  cases linkSources rule (sources.map SeparatedSource.embedding) (p.windowPrototypes state)
      p.config.sourceLinking previousMapping (some keys) true with
  | error e => exact iff_of_false (fun ⟨_, h, _⟩ => nomatch h) (fun ⟨_, h, _⟩ => nomatch h)
  | ok result =>
    refine ⟨fun ⟨links, h, hlinks⟩ => ⟨result, rfl, ?_⟩, fun ⟨result', h, hlinks⟩ => ⟨_, rfl, ?_⟩⟩
    · obtain rfl := Except.ok.inj h
      exact hlinks
    · obtain rfl := Except.ok.inj h
      exact hlinks

end

/-! ### Two clusters, and two sources -/

/-- A session that has heard two clusters, of which some have been learned. -/
def twoClusters (learned : List (Op ℚ ℚ)) : SessionSpeakerState ℚ ℚ :=
  (SessionSpeakerState.new "session" {} "model").run
    ([.createSessionSpeaker "a" (some "a") none, .createSessionSpeaker "b" (some "b") none]
      ++ learned)

theorem twoClusters_reachable (learned : List (Op ℚ ℚ)) : (twoClusters learned).Reachable :=
  ⟨"session", {}, "model", _, rfl⟩

/-- A voice on either side of the line. -/
def voiceA : SpeakerEmbedding ℚ ℚ := SessionSpeakerState.cleanVoice true

def voiceB : SpeakerEmbedding ℚ ℚ := SessionSpeakerState.cleanVoice false

/-- Only the first speaker has been learned. -/
def halfLearned : SessionSpeakerState ℚ ℚ :=
  twoClusters [.updatePrototype "sess_spk_a" voiceA none true]

/-- Both have. -/
def bothLearned : SessionSpeakerState ℚ ℚ :=
  twoClusters [.updatePrototype "sess_spk_a" voiceA none true,
    .updatePrototype "sess_spk_b" voiceB none true]

/-- Two seconds in which both clusters are active. -/
def bothActive : RegionContext ℚ Unit where
  mono := fortySamples
  region := { interval := firstMs 2000 }
  decision := routeOverlap (estimateSourceCount {} {}) {} {} true
  diarization := some {
    turns := []
    regularTracks := [⟨"a", firstMs 2000, none⟩, ⟨"b", firstMs 2000, none⟩]
    overlapRegions := []
    estimatedSessionSpeakers := 2
    modelVersion := "diarizer" }

/-- Two sources, one with each voice. -/
def twoSources : List (SeparatedSource ℚ ℚ Unit) :=
  [⟨0, bothActive.mono, [], some voiceA, { speechDurationMs := 2000 }⟩,
    ⟨1, bothActive.mono, [], some voiceB, { speechDurationMs := 2000 }⟩]

/-- A pipeline that trusts the diarizer about short sources. -/
def trusting : OfflinePipeline ℚ where
  config := { sourceLinking :=
    { thresholds with shortSourcePolicy := .diarizationConstrained } }
  linearSumAssignment := firstColumns

/-- Two speakers who have been learned. -/
theorem constrained_permutes_of_bothLearned :
    (∀ rule : AssignmentRule ℚ, OneToOne rule → MaximumTotal rule →
        ∃ links, { trusting with linearSumAssignment := rule }.linkWindow bothActive bothLearned
            bothActive.region.interval twoSources [] = .ok links
          ∧ PermutesSpeakers (twoSources.map SeparatedSource.embedding) bothLearned.StandsFor
            (clusterBacked bothActive.diarization bothLearned bothActive.region.interval) links.1)
      ↔ PermutationForced (twoSources.map SeparatedSource.embedding)
          (trusting.windowPrototypes bothLearned) trusting.config.sourceLinking []
          ((trusting.activeSpeakers bothActive.diarization bothLearned
            bothActive.region.interval).1.getD []) bothLearned.StandsFor
          (clusterBacked bothActive.diarization bothLearned bothActive.region.interval) :=
  trusting.constrained_permutes_iff bothActive bothLearned (twoClusters_reachable _) _ twoSources []
    (by decide +kernel) rfl

/-- **An active speaker who has not been learned is left out**, whatever rule
assigns. -/
theorem constrained_leaves_out :
    halfLearned.Reachable
      ∧ trusting.constrains bothActive.diarization halfLearned bothActive.region.interval twoSources
        = true
      ∧ trusting.config.sourceLinking.isCalibrated = true
      ∧ ∀ rule : AssignmentRule ℚ, OneToOne rule →
        ¬ ∃ links, { trusting with linearSumAssignment := rule }.linkWindow bothActive halfLearned
            bothActive.region.interval twoSources [] = .ok links
          ∧ PermutesSpeakers (twoSources.map SeparatedSource.embedding) halfLearned.StandsFor
            (clusterBacked bothActive.diarization halfLearned bothActive.region.interval)
            links.1 := by
  refine ⟨twoClusters_reachable _, by decide +kernel, rfl, ?_⟩
  rintro rule hone ⟨links, hlinks, hpermutes⟩
  have hkeys : (trusting.windowPrototypes halfLearned).map SpeakerPrototype.speakerKey
      = ["sess_spk_a"] := by decide +kernel
  obtain ⟨d, hd, hlinked, key, hkey, s, hget, hid⟩ := (hpermutes.speakers "sess_spk_b").mpr
    (by decide +kernel)
  rw [linkWindow_eq] at hlinks
  cases hresult : linkSources rule (twoSources.map SeparatedSource.embedding)
      (trusting.windowPrototypes halfLearned) trusting.config.sourceLinking []
      (trusting.activeSpeakers bothActive.diarization halfLearned bothActive.region.interval).1
      (trusting.constrains bothActive.diarization halfLearned bothActive.region.interval
        twoSources) with
  | error e => exact nomatch (congrArg (Except.map _) hresult).symm.trans hlinks
  | ok result =>
    obtain rfl := Except.ok.inj ((congrArg (Except.map _) hresult).symm.trans hlinks)
    have hsafe := safeLinks_linkSources hone (by rw [hkeys]; exact List.nodup_singleton _) hresult
    obtain ⟨p, hp, hspeaker⟩ := (hsafe.named d hd).1 hlinked
    have hmem : p.speakerKey ∈ ["sess_spk_a"] := hkeys ▸ List.mem_map_of_mem hp
    rw [List.mem_singleton.mp hmem] at hspeaker
    obtain rfl := Option.some.inj (hspeaker.symm.trans hkey)
    have hsame : (halfLearned.get "sess_spk_a").toOption.map SessionSpeaker.sessionSpeakerId
        = some "sess_spk_a" := by decide +kernel
    rw [hget] at hsame
    have hne := hid.symm.trans (Option.some.inj hsame)
    exact absurd hne (by decide)

end OfflinePipeline

end Sastt
