import Sastt.Application.LinkMargins

/-!
# Linking fails closed

What a caller of `link_sources` can rely on, whatever the scores are: there
is one decision for each source, a speaker is linked to one source at most,
and everything that is missing – an embedding, a threshold, a score against a
candidate – leads to no link. The thresholds hold of every link, except of
those made under a constrained permutation, which is the caller's word that
they are not needed (`linkSources_safe`).

The one thing the function refuses to do is to compare vectors of two model
versions. It raises then, and it raises on nothing else
(`linkSources_returns_iff`).

Of the assignment nothing is used but that it gives different columns to
different rows.
-/

namespace Sastt

section Decisions

variable {R : Type} [Field R] [LinearOrder R] [IsStrictOrderedRing R] {n m : ℕ}
  {config : SourceLinkingConfig R} {hasEmbedding : Fin n → Bool} {base : ScoreMatrix R n m}
  {prototypeKeys : Fin m → String} {constrained : Bool} {assignment : Fin n → Fin (m + n)}
  {i : Fin n}

/-- What a link says: the speaker is the one in the assigned column, the score
is the one found there, and the thresholds were met or waived. -/
structure LinkedTo (config : SourceLinkingConfig R) (base : ScoreMatrix R n m)
    (prototypeKeys : Fin m → String) (constrained : Bool) (assignment : Fin n → Fin (m + n))
    (i : Fin n) (j : Fin m) (accept ambiguous s : R) (d : LinkingDecision R) : Prop where
  accept_eq : config.acceptThreshold = some accept
  ambiguous_eq : config.ambiguousMargin = some ambiguous
  column : assignment i = Fin.castAdd n j
  scored : base i j = s
  speaker : d.sessionSpeakerId = some (prototypeKeys j)
  score : d.score = some ↑s
  margin : d.margin = rowMargin (base i)
  thresholds : constrained = false → accept ≤ s ∧ ∀ lead ∈ rowMargin (base i), ambiguous ≤ lead

omit [Field R] [LinearOrder R] [IsStrictOrderedRing R] in
/-- A column is a prototype's or a dummy. -/
theorem column_cases (assignment : Fin n → Fin (m + n)) (i : Fin n) :
    (∃ j, assignment i = Fin.castAdd n j) ∨ ∃ l, assignment i = Fin.natAdd m l := by
  generalize assignment i = column
  induction column using Fin.addCases with
  | left j => exact Or.inl ⟨j, rfl⟩
  | right l => exact Or.inr ⟨l, rfl⟩

/-- The decision on a source that was assigned a prototype's column. -/
theorem decideSource_of_column {accept ambiguous : R} {j : Fin m}
    (hembedding : hasEmbedding i = true) (haccept : config.acceptThreshold = some accept)
    (hambiguous : config.ambiguousMargin = some ambiguous) (hj : assignment i = Fin.castAdd n j)
    (h : (decideSource hasEmbedding base prototypeKeys config constrained assignment i).status
      = .linked) :
    ∃ s, LinkedTo config base prototypeKeys constrained assignment i j accept ambiguous s
      (decideSource hasEmbedding base prototypeKeys config constrained assignment i) := by
  unfold decideSource at h ⊢
  simp only [hembedding, Bool.true_eq_false, if_false, haccept, hambiguous, hj,
    Fin.addCases_left] at h ⊢
  by_cases hconstrained : constrained = true ∧ base i j ≠ ⊥
  · obtain ⟨s, hs⟩ := WithBot.ne_bot_iff_exists.mp hconstrained.2
    rw [if_pos hconstrained]
    refine ⟨s, haccept, hambiguous, hj, hs.symm, rfl, ?_, rfl, fun hopen => ?_⟩
    · rw [← hs]
    · rw [hconstrained.1] at hopen
      cases hopen
  · rw [if_neg hconstrained] at h ⊢
    by_cases hscore : base i j < accept
    · rw [if_pos hscore] at h
      cases h
    · rw [if_neg hscore] at h ⊢
      by_cases hmargin : ∃ d ∈ rowMargin (base i), d < ambiguous
      · rw [if_pos hmargin] at h
        cases h
      · rw [if_neg hmargin] at h ⊢
        by_cases hcontested : contested hasEmbedding base i j = true
        · rw [if_pos hcontested] at h
          cases h
        · rw [if_neg hcontested]
          obtain ⟨s, hs, hle⟩ := WithBot.coe_le_iff.mp (not_lt.mp hscore)
          refine ⟨s, haccept, hambiguous, hj, hs, rfl, ?_, rfl, fun _ => ⟨hle, ?_⟩⟩
          · rw [hs]
          · exact fun lead hlead => not_lt.mp (fun hlt => hmargin ⟨lead, hlead, hlt⟩)

/-- **Only a source with an embedding is linked**, under thresholds, to the
prototype in its column. -/
theorem decideSource_linked
    (h : (decideSource hasEmbedding base prototypeKeys config constrained assignment i).status
      = .linked) :
    hasEmbedding i = true ∧ ∃ j accept ambiguous s, LinkedTo config base prototypeKeys constrained
      assignment i j accept ambiguous s
      (decideSource hasEmbedding base prototypeKeys config constrained assignment i) := by
  cases hembedding : hasEmbedding i with
  | false => simp [decideSource, hembedding] at h
  | true =>
    refine ⟨rfl, ?_⟩
    cases haccept : config.acceptThreshold with
    | none => simp [decideSource, hembedding, haccept] at h
    | some accept =>
      cases hambiguous : config.ambiguousMargin with
      | none => simp [decideSource, hembedding, haccept, hambiguous] at h
      | some ambiguous =>
        rcases column_cases assignment i with ⟨j, hj⟩ | ⟨l, hl⟩
        · obtain ⟨s, hs⟩ := decideSource_of_column hembedding haccept hambiguous hj h
          exact ⟨j, accept, ambiguous, s, hs⟩
        · simp [decideSource, hembedding, haccept, hambiguous, hl] at h

/-- A decision that is not a link names nobody. -/
theorem decideSource_unlinked
    (h : (decideSource hasEmbedding base prototypeKeys config constrained assignment i).status
      ≠ .linked) :
    (decideSource hasEmbedding base prototypeKeys config constrained assignment i).sessionSpeakerId
      = none := by
  revert h
  unfold decideSource
  dsimp only
  split_ifs
  · exact fun _ => rfl
  · split
    · rcases column_cases assignment i with ⟨j, hj⟩ | ⟨l, hl⟩
      · rw [hj, Fin.addCases_left]
        split_ifs <;> simp
      · rw [hl, Fin.addCases_right]
        exact fun _ => rfl
    · exact fun _ => rfl

end Decisions

/-! ## Scores -/

section Scores

variable {R : Type} [Field R] [LinearOrder R] {n m : ℕ}

omit [Field R] in
/-- **Speakers who are not candidates are not scored**, if anything is scored
against a candidate. -/
theorem restrictToCandidates_eq_bot {matrix : ScoreMatrix R n m} {prototypeKeys : Fin m → String}
    {keys : List String} {i i' : Fin n} {j j' : Fin m} (hj : prototypeKeys j ∈ keys)
    (hs : matrix i j ≠ ⊥) (hj' : prototypeKeys j' ∉ keys) :
    restrictToCandidates matrix prototypeKeys (some keys) i' j' = ⊥ := by
  unfold restrictToCandidates
  match keys, hj with
  | key :: keys, hj =>
    have hsome : ¬ ∀ i j, (if prototypeKeys j ∈ key :: keys then matrix i j else ⊥) = ⊥ := by
      intro hall
      have hij := hall i j
      rw [if_pos hj] at hij
      exact hs hij
    dsimp only
    rw [if_neg hsome, if_neg hj']

end Scores

section

variable {R V : Type} [Field R] [LinearOrder R] [IsStrictOrderedRing R] [AddCommGroup V]
  [Module R V] [EmbeddingSpace R V] {embeddings : List (Option (SpeakerEmbedding R V))}
  {prototypes : List (SpeakerPrototype R V)}

/-- Every embedding was made by the model that made the centroids. -/
def OneModel (embeddings : List (Option (SpeakerEmbedding R V)))
    (prototypes : List (SpeakerPrototype R V)) : Prop :=
  ∀ e, some e ∈ embeddings → ∀ p ∈ prototypes, e.modelVersion = p.modelVersion

section

omit [IsStrictOrderedRing R]

/-- Comparing is refused across model versions only. -/
theorem refusal_scoreOf (e : Option (SpeakerEmbedding R V)) (p : SpeakerPrototype R V) :
    refusal (scoreOf e p) = none ↔ ∀ e' ∈ e, e'.modelVersion = p.modelVersion := by
  cases e with
  | none => simp [scoreOf, refusal]
  | some e =>
    unfold scoreOf SpeakerPrototype.similarity
    by_cases h : e.modelVersion = p.modelVersion
    · simp [h, refusal, Except.map]
    · simp [h, refusal, Except.map]

/-- **There is a matrix of scores exactly for embeddings of one model.** -/
theorem buildScoreMatrix_returns_iff :
    (∃ matrix, buildScoreMatrix embeddings prototypes = .ok matrix)
      ↔ OneModel embeddings prototypes := by
  have hrefused : (embeddings.flatMap (fun e => prototypes.map (scoreOf e))).findSome? refusal
      = none ↔ OneModel embeddings prototypes := by
    simp only [List.findSome?_eq_none_iff, List.mem_flatMap, List.mem_map, OneModel]
    constructor
    · intro h e he p hp
      exact (refusal_scoreOf (some e) p).mp (h _ ⟨some e, he, p, hp, rfl⟩) e rfl
    · rintro h _ ⟨e, he, p, hp, rfl⟩
      refine (refusal_scoreOf e p).mpr (fun e' he' => h e' ?_ p hp)
      rwa [← Option.mem_def.mp he']
  rw [← hrefused]
  unfold buildScoreMatrix
  cases (embeddings.flatMap (fun e => prototypes.map (scoreOf e))).findSome? refusal with
  | none => exact iff_of_true ⟨_, rfl⟩ rfl
  | some e => exact iff_of_false nofun nofun

/-- The matrix holds the scores. -/
theorem scoreOf_eq_matrix {matrix : ScoreMatrix R embeddings.length prototypes.length}
    (h : buildScoreMatrix embeddings prototypes = .ok matrix) (i : Fin embeddings.length)
    (j : Fin prototypes.length) :
    scoreOf (embeddings.get i) (prototypes.get j) = .ok (matrix i j) := by
  unfold buildScoreMatrix at h
  split at h
  · cases h
  · next hnone =>
    obtain rfl := Except.ok.inj h
    have hrefusal := List.findSome?_eq_none_iff.mp hnone
      (scoreOf (embeddings.get i) (prototypes.get j))
      (List.mem_flatMap.mpr ⟨_, List.getElem_mem i.isLt,
        List.mem_map_of_mem (List.getElem_mem j.isLt)⟩)
    cases hscore : scoreOf (embeddings.get i) (prototypes.get j) with
    | error e =>
      rw [hscore] at hrefusal
      cases hrefusal
    | ok s =>
      dsimp only
      rw [hscore]
      rfl

/-- A source with an embedding has a score against every prototype. -/
theorem buildScoreMatrix_ne_bot {matrix : ScoreMatrix R embeddings.length prototypes.length}
    (h : buildScoreMatrix embeddings prototypes = .ok matrix) {i : Fin embeddings.length}
    (hi : (embeddings.get i).isSome = true) (j : Fin prototypes.length) : matrix i j ≠ ⊥ := by
  obtain ⟨e, he⟩ := Option.isSome_iff_exists.mp hi
  have hmodel := buildScoreMatrix_returns_iff.mp ⟨matrix, h⟩ e
    (he ▸ List.getElem_mem i.isLt) _ (List.getElem_mem j.isLt)
  unfold buildScoreMatrix at h
  split at h
  · cases h
  · obtain rfl := Except.ok.inj h
    show ((scoreOf (embeddings.get i) (prototypes.get j)).toOption).getD ⊥ ≠ ⊥
    rw [he]
    unfold scoreOf SpeakerPrototype.similarity
    simp [hmodel, Except.map, Except.toOption]

end

/-! ## Links -/

/-- **What linking promises** about its decisions. -/
structure SafeLinks (embeddings : List (Option (SpeakerEmbedding R V)))
    (prototypes : List (SpeakerPrototype R V)) (config : SourceLinkingConfig R)
    (candidateKeys : Option (List String)) (constrained : Bool)
    (decisions : List (LinkingDecision R)) : Prop where
  one_each : decisions.map LinkingDecision.sourceTrack = List.range embeddings.length
  named : ∀ d ∈ decisions,
    (d.status = .linked → ∃ p ∈ prototypes, d.sessionSpeakerId = some p.speakerKey)
      ∧ (d.status ≠ .linked → d.sessionSpeakerId = none)
  one_to_one : decisions.Pairwise (fun d d' => d.status = .linked → d'.status = .linked →
    d.sessionSpeakerId ≠ d'.sessionSpeakerId)
  calibrated : config.acceptThreshold = none ∨ config.ambiguousMargin = none →
    ∀ d ∈ decisions, d.status ≠ .linked
  embedded : ∀ d ∈ decisions, d.status = .linked → ∃ e, embeddings[d.sourceTrack]? = some (some e)
  thresholds : constrained = false → ∀ d ∈ decisions, d.status = .linked →
    ∃ accept ∈ config.acceptThreshold, ∃ ambiguous ∈ config.ambiguousMargin, ∃ s : R,
      d.score = some ↑s ∧ accept ≤ s ∧ ∀ lead ∈ d.margin, ambiguous ≤ lead
  candidates : ∀ keys ∈ candidateKeys, (∃ e, some e ∈ embeddings) →
    (∃ p ∈ prototypes, p.speakerKey ∈ keys) → ∀ d ∈ decisions, d.status = .linked →
      ∃ key ∈ d.sessionSpeakerId, key ∈ keys

variable {linearSumAssignment : AssignmentRule R} {config : SourceLinkingConfig R}
  {previousMapping : PreviousMapping} {candidateKeys : Option (List String)} {constrained : Bool}

/-- Without prototypes there are no links. -/
theorem safeLinks_noPrototype :
    SafeLinks embeddings prototypes config candidateKeys constrained
      ((List.finRange embeddings.length).map (noPrototype embeddings)) := by
  have hunlinked : ∀ d ∈ (List.finRange embeddings.length).map (noPrototype embeddings),
      d.status ≠ .linked ∧ d.sessionSpeakerId = none := by
    intro d hd
    obtain ⟨i, -, rfl⟩ := List.mem_map.mp hd
    exact ⟨nofun, rfl⟩
  constructor
  · rw [List.map_map]
    exact List.map_coe_finRange_eq_range
  · exact fun d hd => ⟨fun h => absurd h (hunlinked d hd).1, fun _ => (hunlinked d hd).2⟩
  · exact List.Pairwise.imp_of_mem (fun hd _ _ h => absurd h (hunlinked _ hd).1)
      (List.pairwise_of_forall (R := fun _ _ => True) (fun _ _ => trivial))
  · exact fun _ d hd => (hunlinked d hd).1
  · exact fun d hd h => absurd h (hunlinked d hd).1
  · exact fun _ d hd h => absurd h (hunlinked d hd).1
  · exact fun _ _ _ _ d hd h => absurd h (hunlinked d hd).1

omit [IsStrictOrderedRing R] in
/-- The scores that decide, and the matrix they are restricted from. -/
theorem baseScores_eq_ok {base : ScoreMatrix R embeddings.length prototypes.length}
    (h : baseScores embeddings prototypes candidateKeys = .ok base) :
    ∃ matrix, buildScoreMatrix embeddings prototypes = .ok matrix
      ∧ base = restrictToCandidates matrix (fun j => (prototypes.get j).speakerKey)
        candidateKeys := by
  unfold baseScores at h
  cases hmatrix : buildScoreMatrix embeddings prototypes with
  | error e =>
    rw [hmatrix] at h
    cases h
  | ok matrix =>
    rw [hmatrix] at h
    exact ⟨matrix, rfl, (Except.ok.inj h).symm⟩

/-- **Linking promises what it should**, where there are prototypes. -/
theorem safeLinks_decideSource (hone : OneToOne linearSumAssignment)
    (hkeys : (prototypes.map SpeakerPrototype.speakerKey).Nodup)
    {base : ScoreMatrix R embeddings.length prototypes.length}
    (hbase : baseScores embeddings prototypes candidateKeys = .ok base) :
    SafeLinks embeddings prototypes config candidateKeys constrained
      ((List.finRange embeddings.length).map
        (decideSource (fun i => (embeddings.get i).isSome) base
          (fun j => (prototypes.get j).speakerKey) config constrained
          (assignColumns linearSumAssignment base (fun j => (prototypes.get j).speakerKey) config
            previousMapping constrained))) := by
  set assignment := assignColumns linearSumAssignment base (fun j => (prototypes.get j).speakerKey)
    config previousMapping constrained with hassignment
  have hinjective : Function.Injective assignment := hone _ _
  set decide' := decideSource (fun i => (embeddings.get i).isSome) base
    (fun j => (prototypes.get j).speakerKey) config constrained assignment
  have htrack : ∀ i, (decide' i).sourceTrack = i := fun i => sourceTrack_decideSource
  have hlinked : ∀ i, (decide' i).status = .linked → (embeddings.get i).isSome = true
      ∧ ∃ j accept ambiguous s, LinkedTo config base (fun j => (prototypes.get j).speakerKey)
        constrained assignment i j accept ambiguous s (decide' i) :=
    fun i hi => decideSource_linked hi
  constructor
  · rw [List.map_map, ← List.map_coe_finRange_eq_range]
    exact List.map_congr_left (fun i _ => htrack i)
  · rintro d hd
    obtain ⟨i, -, rfl⟩ := List.mem_map.mp hd
    refine ⟨fun h => ?_, fun h => decideSource_unlinked h⟩
    obtain ⟨-, j, _, _, _, hto⟩ := hlinked i h
    exact ⟨prototypes.get j, List.getElem_mem j.isLt, hto.speaker⟩
  · refine List.pairwise_map.mpr ((List.nodup_finRange _).imp (fun {i i'} hne h h' heq => hne ?_))
    obtain ⟨-, j, _, _, _, hto⟩ := hlinked i h
    obtain ⟨-, j', _, _, _, hto'⟩ := hlinked i' h'
    rw [hto.speaker, hto'.speaker, Option.some.injEq] at heq
    -- distinct keys, so it is one column, and a column has one row
    have hj : j = j' := by
      have hnth := List.inj_on_of_nodup_map hkeys (List.getElem_mem j.isLt)
        (List.getElem_mem j'.isLt) heq
      exact Fin.ext ((List.Nodup.getElem_inj_iff (List.Nodup.of_map _ hkeys)).mp hnth)
    refine hinjective ?_
    rw [hto.column, hto'.column, hj]
  · rintro hnull d hd h
    obtain ⟨i, -, rfl⟩ := List.mem_map.mp hd
    obtain ⟨-, _, _, _, _, hto⟩ := hlinked i h
    rcases hnull with hnull | hnull
    · have := hto.accept_eq
      rw [hnull] at this
      cases this
    · have := hto.ambiguous_eq
      rw [hnull] at this
      cases this
  · intro d hd h
    obtain ⟨i, -, rfl⟩ := List.mem_map.mp hd
    obtain ⟨e, he⟩ := Option.isSome_iff_exists.mp (hlinked i h).1
    refine ⟨e, ?_⟩
    rw [htrack, List.getElem?_eq_getElem i.isLt]
    exact congrArg some he
  · intro hopen d hd h
    obtain ⟨i, -, rfl⟩ := List.mem_map.mp hd
    obtain ⟨-, j, accept, ambiguous, s, hto⟩ := hlinked i h
    refine ⟨accept, hto.accept_eq, ambiguous, hto.ambiguous_eq, s, hto.score,
      (hto.thresholds hopen).1, ?_⟩
    rw [hto.margin]
    exact (hto.thresholds hopen).2
  · rintro keys rfl ⟨e, he⟩ ⟨p, hp, hpkey⟩ d hd h
    obtain ⟨i, -, rfl⟩ := List.mem_map.mp hd
    obtain ⟨-, j, _, _, s, hto⟩ := hlinked i h
    refine ⟨_, hto.speaker, ?_⟩
    obtain ⟨matrix, hmatrix, rfl⟩ := baseScores_eq_ok hbase
    obtain ⟨a, ha, hae⟩ := List.mem_iff_getElem.mp he
    obtain ⟨b, hb, rfl⟩ := List.mem_iff_getElem.mp hp
    by_contra hnot
    have hscored := buildScoreMatrix_ne_bot hmatrix (i := ⟨a, ha⟩)
      (show embeddings[a].isSome = true by rw [hae]; rfl) ⟨b, hb⟩
    have hbot : restrictToCandidates matrix (fun j => (prototypes.get j).speakerKey) (some keys) i j
        = ⊥ := restrictToCandidates_eq_bot (j := ⟨b, hb⟩) hpkey hscored hnot
    have hs := hto.scored
    rw [hbot] at hs
    cases hs

/-- **When linking returns.** -/
theorem linkSources_returns_iff :
    (∃ result, linkSources linearSumAssignment embeddings prototypes config previousMapping
      candidateKeys constrained = .ok result) ↔ OneModel embeddings prototypes := by
  rw [← buildScoreMatrix_returns_iff]
  unfold linkSources baseScores
  cases buildScoreMatrix embeddings prototypes with
  | error e => exact iff_of_false nofun nofun
  | ok matrix => exact iff_of_true ⟨_, rfl⟩ ⟨_, rfl⟩

/-- **What a result of linking promises**, if the assignment gives different
columns to different rows. -/
theorem safeLinks_linkSources (hone : OneToOne linearSumAssignment)
    (hkeys : (prototypes.map SpeakerPrototype.speakerKey).Nodup)
    {result : LinkingResult R embeddings.length prototypes.length}
    (hresult : linkSources linearSumAssignment embeddings prototypes config previousMapping
      candidateKeys constrained = .ok result) :
    SafeLinks embeddings prototypes config candidateKeys constrained result.decisions := by
  unfold linkSources at hresult
  cases hbase : baseScores embeddings prototypes candidateKeys with
  | error e =>
    rw [hbase] at hresult
    cases hresult
  | ok base =>
    rw [hbase] at hresult
    obtain rfl := Except.ok.inj hresult
    unfold linkScores
    dsimp only
    split_ifs with hnone
    · exact safeLinks_noPrototype
    · exact safeLinks_decideSource hone hkeys hbase

/-- **Linking is one-to-one and fails closed**, for every list of embeddings
and of prototypes with distinct keys, every configuration, every previous
mapping and every set of candidates; and it returns unless it would have to
compare vectors of two models. -/
theorem linkSources_safe (linearSumAssignment : AssignmentRule R)
    (hone : OneToOne linearSumAssignment) (embeddings : List (Option (SpeakerEmbedding R V)))
    (prototypes : List (SpeakerPrototype R V))
    (hkeys : (prototypes.map SpeakerPrototype.speakerKey).Nodup) (config : SourceLinkingConfig R)
    (previousMapping : PreviousMapping) (candidateKeys : Option (List String))
    (constrained : Bool) :
    ((∃ result, linkSources linearSumAssignment embeddings prototypes config previousMapping
        candidateKeys constrained = .ok result) ↔ OneModel embeddings prototypes)
      ∧ ∀ result, linkSources linearSumAssignment embeddings prototypes config previousMapping
          candidateKeys constrained = .ok result →
        SafeLinks embeddings prototypes config candidateKeys constrained result.decisions :=
  ⟨linkSources_returns_iff, fun _ hresult => safeLinks_linkSources hone hkeys hresult⟩

end

/-! ### Three sources -/

theorem firstColumns_oneToOne : OneToOne firstColumns := fun h _ => Fin.castLE_injective h

/-- Three sources against the three speakers, one of whom is no candidate. -/
theorem linkSources_safe_three :
    OneModel threeEmbeddings threePrototypes
      ∧ ((∃ result, linkSources firstColumns threeEmbeddings threePrototypes thresholds []
          (some ["spk_1", "spk_3"]) false = .ok result) ↔ OneModel threeEmbeddings threePrototypes)
      ∧ ∀ result, linkSources firstColumns threeEmbeddings threePrototypes thresholds []
          (some ["spk_1", "spk_3"]) false = .ok result →
        SafeLinks threeEmbeddings threePrototypes thresholds (some ["spk_1", "spk_3"]) false
          result.decisions := by
  refine ⟨fun e he p hp => ?_, linkSources_safe firstColumns firstColumns_oneToOne threeEmbeddings
    threePrototypes (by decide) thresholds [] (some ["spk_1", "spk_3"]) false⟩
  simp only [threeEmbeddings, threePrototypes, List.mem_cons, Option.some.injEq, List.not_mem_nil,
    or_false] at he hp
  rcases he with rfl | rfl | rfl <;> rcases hp with rfl | rfl | rfl <;> rfl

/-- A centroid of another model. -/
def otherPrototype : SpeakerPrototype ℚ (Fin 7 → ℚ) :=
  { unitPrototype "spk_1" ![1, 0, 0, 0, 0, 0, 0] with modelVersion := "ecapa" }

/-- **There is no decision for a source that was embedded by another model**
than the prototypes. -/
theorem link_refused_across_models :
    OneToOne firstColumns ∧ ([otherPrototype].map SpeakerPrototype.speakerKey).Nodup
      ∧ ¬ ∃ result, linkSources firstColumns oneEmbedding [otherPrototype] thresholds [] none false
        = .ok result := by
  refine ⟨firstColumns_oneToOne, List.nodup_singleton _, fun hreturns => ?_⟩
  have hmodel := linkSources_returns_iff.mp hreturns _ List.mem_cons_self otherPrototype
    List.mem_cons_self
  exact absurd hmodel (by decide)

end Sastt
