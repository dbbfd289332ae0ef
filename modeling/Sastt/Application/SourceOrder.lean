import Mathlib.Logic.Equiv.Fin.Rotate
import Sastt.Application.LinkSafety

/-!
# The order of the sources

A separator returns its sources in any order, and linking is meant not to
depend on it: the sources in another order get the same decisions, each its
own (`linkSources_inOrder`).

The matrix the assignment is given does not only have its rows in another
order. The dummy columns stand on a diagonal, so they change places with the
rows (`sourceColumns`), and the floor under the scores has to be the same
number (`solvableScores_comp`). With several optima the assignment may choose
another one for the other order; with one it cannot (`rule_rename`). The rest
of a decision reads the row of the source, and, to tell whether an identity is
contested, how many sources are drawn to it.

A constrained permutation and a continuity bonus are left out. The bonus goes
to a source by its number.
-/

namespace Sastt

/-! ## Matrices -/

section Matrices

variable {R : Type} {n n' m : ℕ} (σ : Fin n' ≃ Fin n)

theorem map_finRange_perm : ((List.finRange n').map σ).Perm (List.finRange n) := by
  refine (List.perm_ext_iff_of_nodup ((List.nodup_finRange n').map σ.injective)
    (List.nodup_finRange n)).mpr (fun i => ?_)
  exact iff_of_true (List.mem_map.mpr ⟨σ.symm i, List.mem_finRange _, σ.apply_symm_apply i⟩)
    (List.mem_finRange i)

/-- The columns of the extended matrix: a dummy moves with its source. -/
def sourceColumns (m : ℕ) (σ : Fin n' ≃ Fin n) : Fin (m + n') ≃ Fin (m + n) :=
  finSumFinEquiv.symm.trans (((Equiv.refl (Fin m)).sumCongr σ).trans finSumFinEquiv)

@[simp] theorem sourceColumns_castAdd (j : Fin m) :
    sourceColumns m σ (Fin.castAdd n' j) = Fin.castAdd n j := by
  simp [sourceColumns]

@[simp] theorem sourceColumns_natAdd (l : Fin n') :
    sourceColumns m σ (Fin.natAdd m l) = Fin.natAdd m (σ l) := by
  simp [sourceColumns]

/-- A row with its columns in another order has the same finite scores. -/
theorem finiteScores_comp {k k' : ℕ} (τ : Fin k' ≃ Fin k) (row : ScoreRow R k) :
    (finiteScores (fun c => row (τ c))).Perm (finiteScores row) := by
  unfold finiteScores
  have hmap : (List.finRange k').filterMap (fun c => ((row (τ c)).recBotCoe none some : Option R))
      = ((List.finRange k').map τ).filterMap (fun c => (row c).recBotCoe none some) := by
    rw [List.filterMap_map]
    rfl
  rw [hmap]
  exact (map_finRange_perm τ).filterMap _

variable [LinearOrder R]

/-- **Blanking does not depend on the order of the sources.** -/
theorem restrictToCandidates_comp (matrix : ScoreMatrix R n m) (prototypeKeys : Fin m → String)
    (candidateKeys : Option (List String)) :
    restrictToCandidates (fun i => matrix (σ i)) prototypeKeys candidateKeys
      = fun i => restrictToCandidates matrix prototypeKeys candidateKeys (σ i) := by
  unfold restrictToCandidates
  match candidateKeys with
  | none => rfl
  | some [] => rfl
  | some (key :: keys) =>
    dsimp only
    have hall : (∀ i j, (if prototypeKeys j ∈ key :: keys then matrix (σ i) j else ⊥) = ⊥)
        ↔ ∀ i j, (if prototypeKeys j ∈ key :: keys then matrix i j else ⊥) = ⊥ :=
      σ.forall_congr_left.trans (by simp only [σ.apply_symm_apply])
    by_cases hbot : ∀ i j, (if prototypeKeys j ∈ key :: keys then matrix i j else ⊥) = ⊥
    · rw [if_pos hbot, if_pos (hall.mpr hbot)]
    · rw [if_neg hbot, if_neg (fun h => hbot (hall.mp h))]

/-- **As many sources are drawn to a prototype.** -/
theorem length_argmaxOwners_comp (hasEmbedding : Fin n → Bool) (base : ScoreMatrix R n m)
    (j : Fin m) : (argmaxOwners (fun i => hasEmbedding (σ i)) (fun i => base (σ i)) j).length
      = (argmaxOwners hasEmbedding base j).length := by
  unfold argmaxOwners
  rw [← List.countP_eq_length_filter, ← List.countP_eq_length_filter,
    ← (map_finRange_perm σ).countP_eq, List.countP_map]
  rfl

theorem contested_comp (hasEmbedding : Fin n → Bool) (base : ScoreMatrix R n m) (i : Fin n')
    (j : Fin m) : contested (fun i => hasEmbedding (σ i)) (fun i => base (σ i)) i j
      = contested hasEmbedding base (σ i) j := by
  unfold contested
  cases argmax (base (σ i)) with
  | none => rfl
  | some preferred =>
    dsimp only
    rw [length_argmaxOwners_comp]

end Matrices

section Decisions

variable {R : Type} [Field R] [LinearOrder R] {n n' m : ℕ} (σ : Fin n' ≃ Fin n)

/-- **The assignment is given the same scores**, in other rows and columns. -/
theorem solvableScores_comp (scored : ScoreMatrix R n m) (dummyValue : WithBot R) :
    solvableScores (fun i => scored (σ i)) dummyValue
      = fun i c => solvableScores scored dummyValue (σ i) (sourceColumns m σ c) := by
  let extended : ScoreMatrix R n (m + n) := fun i =>
    Fin.append (scored i) (fun l => if l = i then dummyValue else ⊥)
  have hextended : ∀ i, Fin.append (scored (σ i)) (fun l => if l = i then dummyValue else ⊥)
      = fun c => extended (σ i) (sourceColumns m σ c) := by
    refine fun i => funext (fun c => ?_)
    induction c using Fin.addCases with
    | left j => simp [extended]
    | right l => simp [extended]
  have hfloor : ((List.finRange n').flatMap (fun i => finiteScores
        (fun c => extended (σ i) (sourceColumns m σ c)))).Perm
      ((List.finRange n).flatMap (fun i => finiteScores (extended i))) := by
    refine (List.Perm.flatMap_left _
      (fun i _ => finiteScores_comp (sourceColumns m σ) (extended (σ i)))).trans ?_
    rw [← List.flatMap_map σ (fun i => finiteScores (extended i))]
    exact (map_finRange_perm σ).flatMap_right _
  unfold solvableScores
  simp only [hextended]
  rw [hfloor.foldl_eq]

variable [IsStrictOrderedRing R]

/-- **A decision moves with its source**, which has a new number. -/
theorem decideSource_comp (hasEmbedding : Fin n → Bool) (base : ScoreMatrix R n m)
    (prototypeKeys : Fin m → String) (config : SourceLinkingConfig R)
    {assignment : Fin n → Fin (m + n)} {assignment' : Fin n' → Fin (m + n')} (i : Fin n')
    (hcolumn : sourceColumns m σ (assignment' i) = assignment (σ i)) :
    decideSource (fun i => hasEmbedding (σ i)) (fun i => base (σ i)) prototypeKeys config false
        assignment' i
      = { decideSource hasEmbedding base prototypeKeys config false assignment (σ i) with
          sourceTrack := i } := by
  unfold decideSource
  dsimp only
  by_cases hembedding : hasEmbedding (σ i) = false
  · rw [if_pos hembedding, if_pos hembedding]
  · rw [if_neg hembedding, if_neg hembedding]
    cases config.acceptThreshold with
    | none => rfl
    | some accept =>
      cases config.ambiguousMargin with
      | none => rfl
      | some ambiguous =>
        rw [← hcolumn]
        generalize assignment' i = column
        induction column using Fin.addCases with
        | left j =>
          simp only [sourceColumns_castAdd, Fin.addCases_left, contested_comp]
          split_ifs <;> rfl
        | right l => simp only [sourceColumns_natAdd, Fin.addCases_right]

end Decisions

/-! ## Linking -/

section

variable {R V : Type} [Field R] [LinearOrder R] [IsStrictOrderedRing R] [AddCommGroup V]
  [Module R V] [EmbeddingSpace R V]

/-- A list in the order of a permutation of its positions. -/
def inOrder {α : Type} {n : ℕ} (σ : Equiv.Perm (Fin n)) (xs : List α) : List α :=
  (List.finRange n).filterMap (fun i => xs[(σ i).val]?)

/-- Decisions that are numbered by their places. -/
def renumbered (decisions : List (LinkingDecision R)) : List (LinkingDecision R) :=
  decisions.mapIdx (fun i d => { d with sourceTrack := i })

/-- **The assignment has one optimum**, where there is something to assign. -/
def UniquelyAssigned (embeddings : List (Option (SpeakerEmbedding R V)))
    (prototypes : List (SpeakerPrototype R V)) (config : SourceLinkingConfig R)
    (candidateKeys : Option (List String)) : Prop :=
  ∀ base, baseScores embeddings prototypes candidateKeys = .ok base →
    UniqueOptimum (solvableScores base (config.acceptThreshold.getD 0 : R))

omit [Field R] [LinearOrder R] [IsStrictOrderedRing R] in
theorem inOrder_eq_map {α : Type} {n : ℕ} (σ : Equiv.Perm (Fin n)) {xs : List α}
    (h : xs.length = n) :
    inOrder σ xs = (List.finRange n).map (fun i => xs.get ⟨σ i, h ▸ (σ i).isLt⟩) := by
  unfold inOrder
  rw [← List.filterMap_eq_map]
  refine List.filterMap_congr (fun i _ => ?_)
  exact List.getElem?_eq_getElem (h ▸ (σ i).isLt)

variable {embeddings embeddings' : List (Option (SpeakerEmbedding R V))}
  {prototypes : List (SpeakerPrototype R V)} {candidateKeys : Option (List String)}

omit [IsStrictOrderedRing R] in
/-- The scores of the sources in another order. -/
theorem baseScores_comp (σ : Fin embeddings'.length ≃ Fin embeddings.length)
    (hσ : ∀ i, embeddings'.get i = embeddings.get (σ i))
    {base : ScoreMatrix R embeddings.length prototypes.length}
    (h : baseScores embeddings prototypes candidateKeys = .ok base) :
    baseScores embeddings' prototypes candidateKeys = .ok (fun i => base (σ i)) := by
  obtain ⟨matrix, hmatrix, rfl⟩ := baseScores_eq_ok h
  have hmatrix' : buildScoreMatrix embeddings' prototypes = .ok (fun i => matrix (σ i)) := by
    refine buildScoreMatrix_eq_ok (fun i j => ?_)
    rw [hσ]
    exact scoreOf_eq_matrix hmatrix (σ i) j
  unfold baseScores
  rw [hmatrix']
  exact congrArg Except.ok (restrictToCandidates_comp σ matrix _ candidateKeys)

/-- **The decisions on the sources in another order.** -/
theorem linkSources_comp {linearSumAssignment : AssignmentRule R}
    (hone : OneToOne linearSumAssignment) (hmax : MaximumTotal linearSumAssignment)
    {config : SourceLinkingConfig R}
    (hunique : UniquelyAssigned embeddings prototypes config candidateKeys)
    (σ : Fin embeddings'.length ≃ Fin embeddings.length)
    (hσ : ∀ i, embeddings'.get i = embeddings.get (σ i))
    {result : LinkingResult R embeddings.length prototypes.length}
    (h : linkSources linearSumAssignment embeddings prototypes config [] candidateKeys false
      = .ok result) :
    ∃ (d : Fin embeddings.length → LinkingDecision R)
      (result' : LinkingResult R embeddings'.length prototypes.length),
      result.decisions = (List.finRange embeddings.length).map d
        ∧ linkSources linearSumAssignment embeddings' prototypes config [] candidateKeys false
          = .ok result'
        ∧ result'.decisions = (List.finRange embeddings'.length).map
          (fun i => { d (σ i) with sourceTrack := i }) := by
  unfold linkSources at h ⊢
  cases hbase : baseScores embeddings prototypes candidateKeys with
  | error e =>
    rw [hbase] at h
    cases h
  | ok base =>
    rw [hbase] at h
    obtain rfl := Except.ok.inj h
    rw [baseScores_comp σ hσ hbase]
    unfold linkScores
    dsimp only
    split_ifs with hnone
    · refine ⟨_, _, rfl, rfl, List.map_congr_left (fun i _ => ?_)⟩
      show noPrototype embeddings' i = { noPrototype embeddings (σ i) with sourceTrack := i }
      unfold noPrototype
      rw [hσ]
    · refine ⟨_, _, rfl, rfl, List.map_congr_left (fun i _ => ?_)⟩
      have hembedding : (fun i : Fin embeddings'.length => (embeddings'.get i).isSome)
          = fun i => (embeddings.get (σ i)).isSome := funext (fun i => by rw [hσ])
      have hplain : ∀ {n : ℕ} (scores : ScoreMatrix R n prototypes.length),
          applyContinuityBonus scores (fun j => (prototypes.get j).speakerKey) []
            config.continuityBonus = scores := by
        intro n scores
        unfold applyContinuityBonus
        split_ifs <;> rfl
      rw [hembedding]
      refine decideSource_comp σ (fun i => (embeddings.get i).isSome) base _ config i ?_
      unfold assignColumns
      dsimp only
      rw [hplain, hplain, solvableScores_comp]
      exact rule_rename hone hmax _ _ (hunique base hbase) σ
        (sourceColumns prototypes.length σ) i

/-- **The order of the sources carries no identity.** The sources in another
order get the same decisions, each its own and numbered by its place; and they
are refused when they were. -/
theorem linkSources_inOrder (linearSumAssignment : AssignmentRule R)
    (hone : OneToOne linearSumAssignment) (hmax : MaximumTotal linearSumAssignment)
    (embeddings : List (Option (SpeakerEmbedding R V))) (prototypes : List (SpeakerPrototype R V))
    (config : SourceLinkingConfig R) (candidateKeys : Option (List String))
    (hunique : UniquelyAssigned embeddings prototypes config candidateKeys)
    (σ : Equiv.Perm (Fin embeddings.length)) :
    (linkSources linearSumAssignment (inOrder σ embeddings) prototypes config [] candidateKeys
        false).toOption.map LinkingResult.decisions
      = (linkSources linearSumAssignment embeddings prototypes config [] candidateKeys
          false).toOption.map (fun result => renumbered (inOrder σ result.decisions)) := by
  have hlength : (inOrder σ embeddings).length = embeddings.length := by
    rw [inOrder_eq_map σ rfl, List.length_map, List.length_finRange]
  -- the positions in the new list, as positions in the old one
  set place : Fin (inOrder σ embeddings).length ≃ Fin embeddings.length :=
    (finCongr hlength).trans σ with hplace
  have hat : ∀ i, (inOrder σ embeddings)[i] = embeddings.get (place i) := by
    intro i
    simp only [inOrder_eq_map σ rfl, Fin.getElem_fin, List.getElem_map, List.getElem_finRange]
    rfl
  cases hresult : linkSources linearSumAssignment embeddings prototypes config [] candidateKeys
      false with
  | error e =>
    cases hresult' : linkSources linearSumAssignment (inOrder σ embeddings) prototypes config []
        candidateKeys false with
    | error e' => rfl
    | ok result' =>
      have hmodel := linkSources_returns_iff.mp ⟨result', hresult'⟩
      have hreturns : OneModel embeddings prototypes := by
        intro e he
        obtain ⟨i, hi, hie⟩ := List.mem_iff_getElem.mp he
        refine hmodel e (List.mem_iff_getElem.mpr ⟨_, (place.symm ⟨i, hi⟩).isLt, ?_⟩)
        rw [← hie]
        exact (hat _).trans (congrArg (fun l : Fin embeddings.length => embeddings.get l)
          (place.apply_symm_apply ⟨i, hi⟩))
      obtain ⟨result, h⟩ := linkSources_returns_iff.mpr hreturns
      rw [hresult] at h
      cases h
  | ok result =>
    obtain ⟨d, result', hd, hresult', hd'⟩ :=
      linkSources_comp hone hmax hunique place hat hresult
    rw [hresult']
    refine congrArg some ?_
    have hmoved : inOrder σ ((List.finRange embeddings.length).map d)
        = (List.finRange embeddings.length).map (fun i => d (σ i)) := by
      rw [inOrder_eq_map σ (by simp)]
      simp
    dsimp only
    rw [hd, hd', hmoved]
    refine List.ext_getElem (by simp [renumbered, hlength]) (fun k hk hk' => ?_)
    simp only [renumbered, List.getElem_map, List.getElem_mapIdx, List.getElem_finRange]
    rfl

end

/-! ### Three sources, one of them too short -/

/-- The voices of two speakers, and a source without an embedding between
them. -/
def voicesApart : List (Option (SpeakerEmbedding ℚ (Fin 7 → ℚ))) :=
  [some (sourceEmbedding ![1, 0, 0, 0, 0, 0, 0] norm_firstAxis_close), none,
    some (sourceEmbedding ![0, 1, 0, 0, 0, 0, 0] (by decide +kernel))]

def twoPrototypes : List (SpeakerPrototype ℚ (Fin 7 → ℚ)) :=
  [unitPrototype "spk_1" ![1, 0, 0, 0, 0, 0, 0], unitPrototype "spk_2" ![0, 1, 0, 0, 0, 0, 0]]

/-- Their scores. -/
def scoresApart (i j : ℕ) : WithBot ℚ :=
  ([[1, 0], [⊥, ⊥], [0, 1]].getD i []).getD j ⊥

/-- What the assignment is asked for. -/
def solvableApart (i c : ℕ) : ℚ :=
  ([[1, 0, 55 / 100, -1, -1], [-1, -1, -1, 55 / 100, -1], [0, 1, -1, -1, 55 / 100]].getD i
    []).getD c 0

theorem solvableApart_best : ∀ a b c : Fin 5, ¬ (a = 0 ∧ b = 3 ∧ c = 1) → a ≠ b → a ≠ c → b ≠ c →
    solvableApart 0 a + solvableApart 1 b + solvableApart 2 c
      < solvableApart 0 0 + solvableApart 1 3 + solvableApart 2 1 := by
  decide +kernel

theorem uniqueOptimum_apart :
    UniqueOptimum (fun (i : Fin 3) (c : Fin 5) => solvableApart i c) := by
  refine ⟨![0, 3, 1], by decide, fun g hg hne => ?_⟩
  rw [Fin.sum_univ_three, Fin.sum_univ_three]
  refine solvableApart_best _ _ _ (fun hall => hne ?_) (hg.ne (by decide)) (hg.ne (by decide))
    (hg.ne (by decide))
  exact funext (fun
    | 0 => hall.1
    | 1 => hall.2.1
    | 2 => hall.2.2)

theorem uniquelyAssigned_apart : UniquelyAssigned voicesApart twoPrototypes thresholds none := by
  have hmatrix : buildScoreMatrix voicesApart twoPrototypes
      = .ok (fun i j => scoresApart i j) := buildScoreMatrix_eq_ok (by decide +kernel)
  have hscores : baseScores voicesApart twoPrototypes none = .ok (fun i j => scoresApart i j) := by
    unfold baseScores
    rw [hmatrix]
    rfl
  have hsolvable : ∀ (i : Fin 3) (c : Fin 5),
      solvableScores (fun (i : Fin 3) (j : Fin 2) => scoresApart i j) ((55 / 100 : ℚ) : WithBot ℚ)
        i c = solvableApart i c := by
    decide +kernel
  intro base hbase
  rw [hscores] at hbase
  obtain rfl := Except.ok.inj hbase
  have hunique := uniqueOptimum_apart
  simp only [← hsolvable] at hunique
  exact hunique

/-- **Each has the decision it had**, whoever comes first. -/
theorem linkSources_inOrder_apart : ∃ rule : AssignmentRule ℚ, OneToOne rule ∧ MaximumTotal rule ∧
    (linkSources rule (inOrder (finRotate 3) voicesApart) twoPrototypes thresholds [] none
        false).toOption.map LinkingResult.decisions
      = (linkSources rule voicesApart twoPrototypes thresholds [] none false).toOption.map
        (fun result => renumbered (inOrder (finRotate 3) result.decisions)) := by
  obtain ⟨rule, hone, hmax⟩ := exists_assignmentRule (R := ℚ)
  exact ⟨rule, hone, hmax, linkSources_inOrder rule hone hmax voicesApart twoPrototypes thresholds
    none uniquelyAssigned_apart (finRotate 3)⟩

end Sastt
