import Sastt.Application.ConstrainedLinks
import Sastt.Lib.RejectingAssignments

/-!
# The floor that stands for minus infinity

A source without an embedding has no score, a speaker who is masked has none
against anybody, and a source has none in the dummy column of another one. The
solver cannot take minus infinity, so `link_sources` gives it a floor, one below
the smallest score there is.

What one source loses at the floor others may make up for. But all the sources
at the floor can go to their own dummy columns at once, and meet nobody there.
So when the threshold prices these columns, no assignment of maximum total uses
the floor, and it is of maximum total with the scores alone
(`solvableScores_avoids`). Under a constrained permutation the dummy columns are
at the floor themselves, and nothing of this holds.
-/

namespace Sastt

section Matrices

variable {R : Type} {n m : ℕ}

/-- `extended`: the scores, and a dummy column for each source. -/
def extendedScores (scored : ScoreMatrix R n m) (dummyValue : WithBot R) :
    ScoreMatrix R n (m + n) :=
  fun i => Fin.append (scored i) (fun l => if l = i then dummyValue else ⊥)

@[simp] theorem extendedScores_castAdd (scored : ScoreMatrix R n m) (dummyValue : WithBot R)
    (i : Fin n) (j : Fin m) :
    extendedScores scored dummyValue i (Fin.castAdd n j) = scored i j := Fin.append_left _ _ j

@[simp] theorem extendedScores_natAdd (scored : ScoreMatrix R n m) (dummyValue : WithBot R)
    (i l : Fin n) :
    extendedScores scored dummyValue i (Fin.natAdd m l) = if l = i then dummyValue else ⊥ :=
  Fin.append_right _ _ l

/-- **A dummy column belongs to its source.** -/
theorem ownColumns_extendedScores (scored : ScoreMatrix R n m) (dummyValue : R) :
    OwnColumns (extendedScores scored dummyValue) (Fin.natAdd m) where
  injective := Fin.natAdd_injective n m
  ne_bot i := by
    rw [extendedScores_natAdd, if_pos rfl]
    exact WithBot.coe_ne_bot
  eq := by
    intro i l hne
    rw [extendedScores_natAdd] at hne
    by_contra hil
    exact hne (if_neg (fun h => hil h.symm))

/-- Who is offered while others are masked: nobody is masked when there are no
candidates, or when none of them has a score. -/
def Unmasked (matrix : ScoreMatrix R n m) (prototypeKeys : Fin m → String)
    (candidateKeys : Option (List String)) (j : Fin m) : Prop :=
  ∀ keys, candidateKeys = some keys →
    (∃ i' j', prototypeKeys j' ∈ keys ∧ matrix i' j' ≠ ⊥) → prototypeKeys j ∈ keys

/-- **Where a source may be placed**: in its own dummy column, or at a speaker
it has a score against and who is not masked. -/
inductive Placed (matrix : ScoreMatrix R n m) (prototypeKeys : Fin m → String)
    (candidateKeys : Option (List String)) (i : Fin n) : Fin (m + n) → Prop
  | dummy : Placed matrix prototypeKeys candidateKeys i (Fin.natAdd m i)
  | speaker (j : Fin m) (hscore : matrix i j ≠ ⊥)
      (hunmasked : Unmasked matrix prototypeKeys candidateKeys j) :
      Placed matrix prototypeKeys candidateKeys i (Fin.castAdd n j)

variable [Field R] [LinearOrder R]

omit [Field R] in
/-- What is left of the scores is not masked. -/
theorem restrictToCandidates_ne_bot {matrix : ScoreMatrix R n m} {prototypeKeys : Fin m → String}
    {candidateKeys : Option (List String)} {i : Fin n} {j : Fin m}
    (h : restrictToCandidates matrix prototypeKeys candidateKeys i j ≠ ⊥) :
    matrix i j ≠ ⊥ ∧ Unmasked matrix prototypeKeys candidateKeys j := by
  unfold restrictToCandidates at h
  cases candidateKeys with
  | none => exact ⟨h, fun keys hkeys => by cases hkeys⟩
  | some keys =>
    cases keys with
    | nil =>
      refine ⟨h, fun keys hkeys hsome => ?_⟩
      obtain rfl := Option.some.inj hkeys
      obtain ⟨_, _, hmem, _⟩ := hsome
      exact absurd hmem List.not_mem_nil
    | cons key keys =>
      dsimp only at h
      by_cases hnone : ∀ (i : Fin n) j,
          (if prototypeKeys j ∈ key :: keys then matrix i j else ⊥) = ⊥
      · rw [if_pos hnone] at h
        refine ⟨h, fun keys' hkeys hsome => ?_⟩
        obtain rfl := Option.some.inj hkeys
        obtain ⟨i', j', hmem, hne⟩ := hsome
        exact absurd ((if_pos hmem).symm.trans (hnone i' j')) hne
      · rw [if_neg hnone] at h
        have hmem : prototypeKeys j ∈ key :: keys := by
          by_contra hout
          exact h (if_neg hout)
        rw [if_pos hmem] at h
        refine ⟨h, fun keys' hkeys _ => ?_⟩
        obtain rfl := Option.some.inj hkeys
        exact hmem

variable [IsStrictOrderedRing R]

/-- `scored`, of any scores the sources may have. -/
def scoredMatrix (matrix : ScoreMatrix R n m) (prototypeKeys : Fin m → String)
    (candidateKeys : Option (List String)) (config : SourceLinkingConfig R)
    (previousMapping : PreviousMapping) : ScoreMatrix R n m :=
  applyContinuityBonus (restrictToCandidates matrix prototypeKeys candidateKeys) prototypeKeys
    previousMapping config.continuityBonus

/-- `dummy_value`, without a constrained permutation. -/
def SourceLinkingConfig.dummyValue (config : SourceLinkingConfig R) : WithBot R :=
  (config.acceptThreshold.getD 0 : R)

/-- **The floor is below every score.** -/
theorem exists_floor (scored : ScoreMatrix R n m) (dummyValue : WithBot R) :
    ∃ floor, solvableScores scored dummyValue
        = (fun i c => (extendedScores scored dummyValue i c).unbotD floor)
      ∧ ∀ i c, ∀ s : R, extendedScores scored dummyValue i c = s → floor < s := by
  refine ⟨((List.finRange n).flatMap (fun i =>
    finiteScores (extendedScores scored dummyValue i))).foldl min 0 - 1, rfl, fun i c s hs => ?_⟩
  have hmem : s ∈ (List.finRange n).flatMap (fun i =>
      finiteScores (extendedScores scored dummyValue i)) :=
    List.mem_flatMap.mpr ⟨i, List.mem_finRange i, mem_finiteScores.mpr ⟨c, hs⟩⟩
  linarith [foldl_min_le (a := 0) hmem]

variable {matrix : ScoreMatrix R n m} {prototypeKeys : Fin m → String}
  {candidateKeys : Option (List String)} {config : SourceLinkingConfig R}
  {previousMapping : PreviousMapping} {f : Fin n → Fin (m + n)}

/-- A column that has a score is one to be placed in. -/
theorem placed_of_extendedScores {i : Fin n} {c : Fin (m + n)}
    (h : extendedScores (scoredMatrix matrix prototypeKeys candidateKeys config previousMapping)
      config.dummyValue i c ≠ ⊥) : Placed matrix prototypeKeys candidateKeys i c := by
  induction c using Fin.addCases with
  | left j =>
    rw [extendedScores_castAdd] at h
    obtain ⟨hscore, hunmasked⟩ := restrictToCandidates_ne_bot
      ((applyContinuityBonus_ne_bot_iff _ prototypeKeys previousMapping _ i j).mp h)
    exact .speaker j hscore hunmasked
  | right l =>
    obtain rfl := (ownColumns_extendedScores _ _).eq h
    exact .dummy

/-- No source is at the floor, and the assignment is one of maximum total with
the scores alone. -/
theorem isOptimum_extendedScores {scored : ScoreMatrix R n m} {dummyValue : R}
    (h : IsOptimum (solvableScores scored dummyValue) f) :
    (∀ i, extendedScores scored dummyValue i (f i) ≠ ⊥)
      ∧ IsOptimum (extendedScores scored dummyValue) f := by
  obtain ⟨floor, hsolvable, hfloor⟩ := exists_floor scored (dummyValue : WithBot R)
  have hown := ownColumns_extendedScores scored dummyValue
  rw [hsolvable] at h
  exact ⟨h.ne_bot hown (fun i => hfloor i _), h.of_floor hown (fun i => hfloor i _)⟩

/-- **The floor is low enough**: an assignment of maximum total for the solver
avoids what is minus infinity, is of maximum total with the scores alone, and
places every source in its own dummy column or at a speaker it may be linked
to. -/
theorem solvableScores_avoids (matrix : ScoreMatrix R n m) (prototypeKeys : Fin m → String)
    (candidateKeys : Option (List String)) (config : SourceLinkingConfig R)
    (previousMapping : PreviousMapping) (f : Fin n → Fin (m + n))
    (h : IsOptimum (solvableScores
      (scoredMatrix matrix prototypeKeys candidateKeys config previousMapping)
      config.dummyValue) f) :
    (∀ i, extendedScores (scoredMatrix matrix prototypeKeys candidateKeys config previousMapping)
        config.dummyValue i (f i) ≠ ⊥)
      ∧ IsOptimum (extendedScores
        (scoredMatrix matrix prototypeKeys candidateKeys config previousMapping)
        config.dummyValue) f
      ∧ ∀ i, Placed matrix prototypeKeys candidateKeys i (f i) := by
  obtain ⟨hscored, hbest⟩ := isOptimum_extendedScores h
  exact ⟨hscored, hbest, fun i => placed_of_extendedScores (hscored i)⟩

/-- A source without an embedding, and one that sounds like the only speaker. -/
def silentAndHeard : ScoreMatrix ℚ 2 1 := fun i _ => if i.val = 0 then ⊥ else (9 / 10 : ℚ)

theorem isOptimum_silentAndHeard : IsOptimum (solvableScores
    (scoredMatrix silentAndHeard (fun _ => "anh") (some ["anh"]) thresholds [(1, "anh")])
    thresholds.dummyValue) (![1, 0] : Fin 2 → Fin 3) where
  injective := by decide
  sum_le := by decide +kernel

/-- The one without an embedding keeps to its dummy column. -/
theorem solvableScores_avoids_silentAndHeard : IsOptimum (extendedScores
    (scoredMatrix silentAndHeard (fun _ => "anh") (some ["anh"]) thresholds [(1, "anh")])
    thresholds.dummyValue) (![1, 0] : Fin 2 → Fin 3) :=
  (solvableScores_avoids silentAndHeard (fun _ => "anh") (some ["anh"]) thresholds [(1, "anh")]
    ![1, 0] isOptimum_silentAndHeard).2.1

end Matrices

section Links

variable {R V : Type} [Field R] [LinearOrder R] [IsStrictOrderedRing R] [AddCommGroup V]
  [Module R V] [EmbeddingSpace R V] {embeddings : List (Option (SpeakerEmbedding R V))}
  {prototypes : List (SpeakerPrototype R V)} {config : SourceLinkingConfig R}
  {previousMapping : PreviousMapping} {candidateKeys : Option (List String)}
  {linearSumAssignment : AssignmentRule R}

/-- **Linking places every source** in its own dummy column, or at a speaker it
may be linked to. -/
theorem linkSources_placed (hone : OneToOne linearSumAssignment)
    (hmax : MaximumTotal linearSumAssignment)
    {matrix : ScoreMatrix R embeddings.length prototypes.length}
    (hmatrix : buildScoreMatrix embeddings prototypes = .ok matrix)
    {result : LinkingResult R embeddings.length prototypes.length}
    (h : linkSources linearSumAssignment embeddings prototypes config previousMapping candidateKeys
      false = .ok result) (i : Fin embeddings.length) :
    Placed matrix (fun j => (prototypes.get j).speakerKey) candidateKeys i
      (result.assignment i) := by
  unfold linkSources baseScores at h
  rw [hmatrix] at h
  obtain rfl := Except.ok.inj h
  have hbest : IsOptimum (solvableScores (scoredMatrix matrix
      (fun j => (prototypes.get j).speakerKey) candidateKeys config previousMapping)
      config.dummyValue) (linearSumAssignment (Nat.le_add_left _ _) (solvableScores (scoredMatrix
        matrix (fun j => (prototypes.get j).speakerKey) candidateKeys config previousMapping)
        config.dummyValue)) :=
    ⟨hone _ _, fun g hg => hmax _ _ g hg⟩
  exact placed_of_extendedScores ((isOptimum_extendedScores hbest).1 i)

end Links

end Sastt
