import Mathlib.Algebra.Module.Pi
import Mathlib.Data.Rat.Sqrt
import Sastt.Application.SourceLinking
import Sastt.Lib.FlooredAssignments
import Sastt.Lib.RejectingAssignments

/-!
# Which prototype a source is linked to

A link is meant to be to the clear best match of the source: accepted, and
ahead of every other prototype by the margin. The margin is tested between
the two best scores of the row, whichever column the row was assigned, and
the column is compared with the best one only where several sources are drawn
to it. A source whose best column nobody else is drawn to, and which is
assigned another one all the same, passes both tests (`Displaced`), and these
are the only links that are not clear (`clearBest_iff`). So the links are clear,
whichever assignment of maximum total is taken, just when no such assignment of
the scores displaces a source (`links_clear_iff`).
-/

namespace Sastt

/-! ## Rows -/

section Rows

variable {R : Type} {m : ℕ} {row : ScoreRow R m}

/-- The finite scores are those of one column and those of the others. -/
theorem finiteScores_perm {p : Fin m} {s : R} (hp : row p = s) :
    (finiteScores row).Perm
      (s :: ((List.finRange m).erase p).filterMap (fun j => (row j).recBotCoe none some)) := by
  unfold finiteScores
  have hperm := (List.perm_cons_erase (List.mem_finRange p)).filterMap
    (fun j => ((row j).recBotCoe none some : Option R))
  rwa [List.filterMap_cons_some (by rw [hp]; rfl)] at hperm

theorem mem_others {p j : Fin m} {s : R} (hj : j ≠ p) (hs : row j = s) :
    s ∈ ((List.finRange m).erase p).filterMap
      (fun j => ((row j).recBotCoe none some : Option R)) :=
  List.mem_filterMap.mpr ⟨j, (List.mem_erase_of_ne hj).mpr (List.mem_finRange j), by rw [hs]; rfl⟩

theorem mem_finiteScores {s : R} : s ∈ finiteScores row ↔ ∃ j, row j = s := by
  unfold finiteScores
  rw [List.mem_filterMap]
  constructor
  · rintro ⟨j, -, hj⟩
    refine ⟨j, ?_⟩
    cases hrow : row j with
    | bot =>
      rw [hrow] at hj
      cases hj
    | coe s' =>
      rw [hrow] at hj
      cases hj
      rfl
  · rintro ⟨j, hj⟩
    exact ⟨j, List.mem_finRange j, by rw [hj]; rfl⟩

variable [Field R] [LinearOrder R] [IsStrictOrderedRing R]

/-- **The margin is by how much the best score leads.** -/
theorem rowMargin_le {p : Fin m} {best : R} (hp : row p = best) (hbest : ∀ j, row j ≤ row p)
    {j : Fin m} {s : R} (hj : j ≠ p) (hs : row j = s) :
    ∃ d, rowMargin row = some d ∧ d ≤ best - s := by
  set others := ((List.finRange m).erase p).filterMap
    (fun j => ((row j).recBotCoe none some : Option R))
  have hother : s ∈ others := mem_others hj hs
  have hperm : ((finiteScores row).insertionSort (· ≥ ·)).Perm (best :: others) :=
    (List.perm_insertionSort _ _).trans (finiteScores_perm hp)
  have hsorted := List.pairwise_insertionSort (· ≥ ·) (finiteScores row)
  unfold rowMargin topTwo
  match hlist : (finiteScores row).insertionSort (· ≥ ·) with
  | [] =>
    rw [hlist] at hperm
    exact absurd hperm.symm.eq_nil (List.cons_ne_nil _ _)
  | [a] =>
    rw [hlist] at hperm
    have hlength := hperm.length_eq
    rw [List.length_singleton, List.length_cons] at hlength
    have hpos := List.length_pos_of_mem hother
    omega
  | a :: b :: rest =>
    rw [hlist] at hperm hsorted
    obtain ⟨hhead, htail⟩ := List.pairwise_cons.mp hsorted
    have ha : a = best := by
      refine le_antisymm ?_ ?_
      · obtain ⟨j', hj'⟩ := mem_finiteScores.mp ((List.mem_insertionSort (· ≥ ·)).mp
          (hlist ▸ List.mem_cons_self : a ∈ (finiteScores row).insertionSort (· ≥ ·)))
        have := hbest j'
        rwa [hj', hp, WithBot.coe_le_coe] at this
      · rcases List.mem_cons.mp (hperm.mem_iff.mpr List.mem_cons_self) with h | h
        · exact h.le
        · exact hhead _ h
    have hb : s ≤ b := by
      rw [ha] at hperm
      rcases List.mem_cons.mp (hperm.cons_inv.mem_iff.mpr hother) with h | h
      · exact h.le
      · exact (List.pairwise_cons.mp htail).1 _ h
    refine ⟨a - b, rfl, ?_⟩
    rw [ha]
    exact sub_le_sub_left hb best

omit [Field R] [IsStrictOrderedRing R] in
theorem le_of_argmax {p : Fin m} (h : argmax row = some p) (j : Fin m) : row j ≤ row p :=
  List.le_of_mem_argmax (List.mem_finRange j) h

omit [Field R] [IsStrictOrderedRing R] in
/-- A row with a column has a best one. -/
theorem exists_argmax (row : ScoreRow R m) (j : Fin m) : ∃ p, argmax row = some p := by
  refine Option.ne_none_iff_exists'.mp (fun hnone => ?_)
  have hnil := List.argmax_eq_none.mp hnone
  exact absurd (hnil ▸ List.mem_finRange j) List.not_mem_nil

end Rows

/-! ## Links -/

section Links

variable {R : Type} [Field R] [LinearOrder R] [IsStrictOrderedRing R] {n m : ℕ}

/-- **The source is reported as linked to the prototype in the column.** -/
def LinkingResult.Links (r : LinkingResult R n m) (i : Fin n) (j : Fin m) : Prop :=
  (∃ d ∈ r.decisions, d.sourceTrack = i ∧ d.status = .linked) ∧ r.assignment i = Fin.castAdd n j

/-- **The column is the clear best match of the row**: accepted, and ahead of
every other finite score by the margin. -/
def ClearBest (config : SourceLinkingConfig R) (base : ScoreMatrix R n m) (i : Fin n)
    (j : Fin m) : Prop :=
  ∀ accept ∈ config.acceptThreshold, ∀ margin ∈ config.ambiguousMargin,
    ∃ s : R, base i j = s ∧ accept ≤ s ∧
      ∀ j' (s' : R), j' ≠ j → base i j' = s' → margin ≤ s - s'

/-- **The source passes every test in a column that is not its best**: it was
assigned another one, whose score is accepted but not the margin above its
best, and no other source is drawn to its best column. -/
def Displaced (config : SourceLinkingConfig R) (hasEmbedding : Fin n → Bool)
    (base : ScoreMatrix R n m) (assignment : Fin n → Fin (m + n)) (i : Fin n) : Prop :=
  ∃ accept ∈ config.acceptThreshold, ∃ margin ∈ config.ambiguousMargin,
    ∃ (j preferred : Fin m) (s best : R), hasEmbedding i = true
      ∧ assignment i = Fin.castAdd n j ∧ argmax (base i) = some preferred ∧ j ≠ preferred
      ∧ base i j = s ∧ base i preferred = best ∧ accept ≤ s ∧ s < best + margin
      ∧ (∀ d ∈ rowMargin (base i), margin ≤ d)
      ∧ (argmaxOwners hasEmbedding base preferred).length ≤ 1

variable {config : SourceLinkingConfig R} {hasEmbedding : Fin n → Bool}
  {base : ScoreMatrix R n m} {assignment : Fin n → Fin (m + n)} {i : Fin n}

/-- **When a source is linked.** -/
theorem decideSource_linked_iff (prototypeKeys : Fin m → String) :
    (decideSource hasEmbedding base prototypeKeys config false assignment i).status = .linked
      ↔ hasEmbedding i = true ∧ ∃ accept ∈ config.acceptThreshold,
        ∃ margin ∈ config.ambiguousMargin, ∃ j, assignment i = Fin.castAdd n j
          ∧ (accept : WithBot R) ≤ base i j ∧ (∀ d ∈ rowMargin (base i), margin ≤ d)
          ∧ contested hasEmbedding base i j = false := by
  unfold decideSource
  dsimp only
  cases hembedding : hasEmbedding i with
  | false => simp
  | true =>
    rw [if_neg (by simp)]
    cases config.acceptThreshold with
    | none => simp
    | some accept =>
      cases config.ambiguousMargin with
      | none => simp
      | some margin =>
        dsimp only
        generalize assignment i = column
        refine Fin.addCases (fun j => ?_) (fun l => ?_) column
        · rw [Fin.addCases_left, if_neg (by simp)]
          by_cases hscore : base i j < accept
          · rw [if_pos hscore]
            simp [hscore]
          · rw [if_neg hscore]
            by_cases hmargin : ∃ d ∈ rowMargin (base i), d < margin
            · rw [if_pos hmargin]
              obtain ⟨d, hd, hlt⟩ := hmargin
              have hno : ¬ ∀ d ∈ rowMargin (base i), margin ≤ d :=
                fun hall => absurd (hall d hd) (not_le.mpr hlt)
              simp only [Option.mem_def] at hno
              simp [hno]
            · rw [if_neg hmargin]
              have hclear : ∀ d ∈ rowMargin (base i), margin ≤ d :=
                fun d hd => not_lt.mp (fun hlt => hmargin ⟨d, hd, hlt⟩)
              simp only [Option.mem_def] at hclear
              cases hcontested : contested hasEmbedding base i j with
              | false => simpa [not_lt.mp hscore, hcontested] using hclear
              | true => simp [hcontested]
        · rw [Fin.addCases_right]
          have hdummy : ∀ j : Fin m, Fin.natAdd m l ≠ Fin.castAdd n j := by
            intro j hj
            have hval := congrArg Fin.val hj
            rw [Fin.val_natAdd, Fin.val_castAdd] at hval
            omega
          simp [hdummy]

theorem sourceTrack_decideSource {prototypeKeys : Fin m → String} {constrained : Bool} :
    (decideSource hasEmbedding base prototypeKeys config constrained assignment i).sourceTrack
      = i := by
  unfold decideSource
  dsimp only
  split
  · rfl
  · split
    · generalize assignment i = column
      refine Fin.addCases (fun j => ?_) (fun l => ?_) column
      · rw [Fin.addCases_left]
        split_ifs <;> rfl
      · rw [Fin.addCases_right]
    · rfl

omit [Field R] [IsStrictOrderedRing R] in
/-- A row is contested unless its best column is the only one it can be
assigned, or nobody else is drawn to it. -/
theorem contested_eq_false_iff {j preferred : Fin m} (h : argmax (base i) = some preferred) :
    contested hasEmbedding base i j = false
      ↔ j = preferred ∨ (argmaxOwners hasEmbedding base preferred).length ≤ 1 := by
  unfold contested
  rw [h]
  dsimp only
  by_cases hj : j = preferred
  · simp [hj]
  · simp [hj]

/-- **A source that is linked is linked to its clear best match, unless it is
displaced.** -/
theorem clearBest_iff {prototypeKeys : Fin m → String}
    (h : (decideSource hasEmbedding base prototypeKeys config false assignment i).status = .linked)
    {j : Fin m} (hj : assignment i = Fin.castAdd n j) :
    ClearBest config base i j ↔ ¬ Displaced config hasEmbedding base assignment i := by
  obtain ⟨hembedding, accept, haccept, margin, hmargin, j', hj', hscore, hclear, hcontested⟩ :=
    (decideSource_linked_iff prototypeKeys).mp h
  obtain rfl : j' = j := Fin.castAdd_injective m n (hj'.symm.trans hj)
  obtain ⟨s, hs, hle⟩ := WithBot.coe_le_iff.mp hscore
  obtain ⟨preferred, hpreferred⟩ := exists_argmax (base i) j'
  have hmax := le_of_argmax hpreferred
  obtain ⟨best, hbest, hsbest⟩ := WithBot.coe_le_iff.mp (hs ▸ hmax j')
  constructor
  · rintro hbestmatch ⟨_, hac, μ, hμ, j, p, s₂, b, -, hcolumn, hp, hne, hs₂, hb, -, hlt, -, -⟩
    obtain rfl : j' = j := Fin.castAdd_injective m n (hj.symm.trans hcolumn)
    obtain rfl : preferred = p := Option.some.inj (hpreferred.symm.trans hp)
    obtain ⟨s₃, hs₃, -, hlead⟩ := hbestmatch _ hac μ hμ
    obtain rfl : s₂ = s₃ := WithBot.coe_inj.mp (hs₂.symm.trans hs₃)
    have := hlead preferred b hne.symm hb
    linarith
  · intro hnot accept' haccept' margin' hmargin'
    obtain rfl : accept = accept' := Option.mem_unique haccept haccept'
    obtain rfl : margin = margin' := Option.mem_unique hmargin hmargin'
    refine ⟨s, hs, hle, fun j s' hne hs' => ?_⟩
    by_cases hj'p : j' = preferred
    · -- the margin of the row is the lead of its best column
      subst hj'p
      obtain ⟨d, hd, hdle⟩ := rowMargin_le hs hmax hne hs'
      exact (hclear d hd).trans hdle
    · have howners := ((contested_eq_false_iff hpreferred).mp hcontested).resolve_left hj'p
      have hlead : best + margin ≤ s := by
        by_contra hlt
        exact hnot ⟨accept, haccept, margin, hmargin, j', preferred, s, best, hembedding, hj',
          hpreferred, hj'p, hs, hbest, hle, not_le.mp hlt, hclear, howners⟩
      have hs'best := hmax j
      rw [hs', hbest, WithBot.coe_le_coe] at hs'best
      linarith

end Links

section

variable {R V : Type} [Field R] [LinearOrder R] [IsStrictOrderedRing R] [AddCommGroup V]
  [Module R V] [EmbeddingSpace R V]

/-- A link is to the clear best match of its source, exactly for the sources that
the assignment does not displace. -/
theorem links_clear_of_rule_iff (linearSumAssignment : AssignmentRule R)
    (embeddings : List (Option (SpeakerEmbedding R V))) (prototypes : List (SpeakerPrototype R V))
    (config : SourceLinkingConfig R) (previousMapping : PreviousMapping)
    (candidateKeys : Option (List String)) :
    (∀ result, linkSources linearSumAssignment embeddings prototypes config previousMapping
        candidateKeys false = .ok result → ∀ i j, result.Links i j →
          ClearBest config result.scoreMatrix i j)
      ↔ ∀ base, baseScores embeddings prototypes candidateKeys = .ok base →
        ∀ i, ¬ Displaced config (fun i => embeddings[i].isSome) base
          (assignColumns linearSumAssignment base (fun j => prototypes[j].speakerKey) config
            previousMapping false) i := by
  unfold linkSources
  cases hbase : baseScores embeddings prototypes candidateKeys with
  | error e => exact iff_of_true nofun nofun
  | ok base =>
    set assignment := assignColumns linearSumAssignment base (fun j => prototypes[j].speakerKey)
      config previousMapping false
    -- the decision on a source is the one in the list
    have hlinks : ∀ i j, (linkScores linearSumAssignment embeddings prototypes config
          previousMapping false base).Links i j
        ↔ (decideSource (fun i => embeddings[i].isSome) base (fun j => prototypes[j].speakerKey)
            config false assignment i).status = .linked ∧ assignment i = Fin.castAdd _ j := by
      intro i j
      have hsome : prototypes ≠ [] := by
        rintro rfl
        exact j.elim0
      unfold LinkingResult.Links linkScores
      dsimp only
      rw [if_neg hsome]
      refine and_congr_left (fun _ => ⟨?_, fun h => ⟨_, List.mem_map_of_mem (List.mem_finRange i),
        sourceTrack_decideSource, h⟩⟩)
      rintro ⟨d, hd, htrack, hstatus⟩
      obtain ⟨i', -, rfl⟩ := List.mem_map.mp hd
      rw [sourceTrack_decideSource] at htrack
      rwa [Fin.ext htrack] at hstatus
    constructor
    · rintro h _ ⟨⟩ i hdisplaced
      obtain ⟨accept, haccept, margin, hmargin, j, preferred, s, best, hembedding, hj, hpreferred,
        hne, hs, hbest, hle, hlt, hclear, howners⟩ := hdisplaced
      have hlinked := (decideSource_linked_iff (fun j => prototypes[j].speakerKey)).mpr
        ⟨hembedding, accept, haccept, margin, hmargin, j, hj, hs ▸ WithBot.coe_le_coe.mpr hle,
          hclear, (contested_eq_false_iff hpreferred).mpr (Or.inr howners)⟩
      exact (clearBest_iff hlinked hj).mp (h _ rfl i j ((hlinks i j).mpr ⟨hlinked, hj⟩))
        ⟨accept, haccept, margin, hmargin, j, preferred, s, best, hembedding, hj, hpreferred, hne,
          hs, hbest, hle, hlt, hclear, howners⟩
    · rintro h _ ⟨⟩ i j hlink
      obtain ⟨hlinked, hj⟩ := (hlinks i j).mp hlink
      exact (clearBest_iff hlinked hj).mpr (h base rfl i)

/-- **Every link is to the clear best match of its source, exactly if no
assignment of maximum total of the scores displaces a source.** -/
theorem links_clear_iff (embeddings : List (Option (SpeakerEmbedding R V)))
    (prototypes : List (SpeakerPrototype R V)) (config : SourceLinkingConfig R)
    (previousMapping : PreviousMapping) (candidateKeys : Option (List String)) :
    (∀ linearSumAssignment : AssignmentRule R, OneToOne linearSumAssignment →
        MaximumTotal linearSumAssignment → ∀ result, linkSources linearSumAssignment embeddings
          prototypes config previousMapping candidateKeys false = .ok result →
        ∀ i j, result.Links i j → ClearBest config result.scoreMatrix i j)
      ↔ ∀ base, baseScores embeddings prototypes candidateKeys = .ok base →
        ∀ assignment, IsOptimum (solvableScores
            (applyContinuityBonus base (fun j => prototypes[j].speakerKey) previousMapping
              config.continuityBonus) (config.acceptThreshold.getD 0 : R)) assignment →
          ∀ i, ¬ Displaced config (fun i => embeddings[i].isSome) base assignment i := by
  constructor
  · intro h base hbase assignment hbest
    -- scipy may take this assignment as well as any other of the same total
    obtain ⟨rule, hone, hmax, rfl⟩ := exists_rule_of_optimum (Nat.le_add_left _ _) _
      hbest.injective hbest.sum_le
    exact (links_clear_of_rule_iff rule embeddings prototypes config previousMapping
      candidateKeys).mp (h rule hone hmax) base hbase
  · intro h rule hone hmax
    exact (links_clear_of_rule_iff rule embeddings prototypes config previousMapping
      candidateKeys).mpr (fun base hbase => h base hbase _ ⟨hone _ _, hmax _ _⟩)

end

/-! ## A displaced source -/

/-- The rational square root vanishes on what is not positive only. -/
theorem sqrt_eq_zero_iff {q : ℚ} (hq : 0 ≤ q) : Rat.sqrt q = 0 ↔ q = 0 := by
  constructor
  · intro h
    unfold Rat.sqrt at h
    rw [Rat.mkRat_eq_zero (Nat.sqrt_pos.mpr q.den_pos).ne', Int.sqrt, Int.natCast_eq_zero,
      Nat.sqrt_eq_zero, Int.toNat_eq_zero] at h
    exact Rat.num_eq_zero.mp (le_antisymm h (Rat.num_nonneg.mpr hq))
  · rintro rfl
    rfl

/-- Vectors of rational numbers. The norm is the Euclidean one, wherever that
is rational. -/
instance {d : ℕ} : EmbeddingSpace ℚ (Fin d → ℚ) where
  norm v := Rat.sqrt (∑ i, v i * v i)
  dot v w := ∑ i, v i * w i
  norm_nonneg v := Rat.mkRat_nonneg (Int.natCast_nonneg _) _
  norm_eq_zero v := by
    have hsquares : ∀ i ∈ Finset.univ, 0 ≤ v i * v i := fun i _ => mul_self_nonneg (v i)
    rw [sqrt_eq_zero_iff (Finset.sum_nonneg hsquares), Finset.sum_eq_zero_iff_of_nonneg hsquares]
    constructor
    · exact fun h => funext (fun i => mul_self_eq_zero.mp (h i (Finset.mem_univ i)))
    · rintro rfl i -
      exact mul_zero 0

/-- A prototype with a centroid. -/
def unitPrototype (speakerKey : String) (centroid : Fin 7 → ℚ) :
    SpeakerPrototype ℚ (Fin 7 → ℚ) where
  speakerKey
  centroid
  weightSum := 1
  modelVersion := "campplus"

/-- Calibrated thresholds. -/
def thresholds : SourceLinkingConfig ℚ where
  acceptThreshold := some (55 / 100)
  ambiguousMargin := some (1 / 10)
  embedding_ge := embedding_ge_none

/-- The rule that gives the first row the first column, and so on: with one
source and one prototype that it matches, the assignment of the largest
total. -/
def firstColumns : AssignmentRule ℚ := fun h _ => Fin.castLE h

theorem norm_firstAxis_close :
    |EmbeddingSpace.norm (R := ℚ) (![1, 0, 0, 0, 0, 0, 0] : Fin 7 → ℚ) - 1| ≤ 1 / 1000 := by
  decide +kernel

/-- One source, with the voice of one prototype. -/
def oneEmbedding : List (Option (SpeakerEmbedding ℚ (Fin 7 → ℚ))) :=
  [some (sourceEmbedding ![1, 0, 0, 0, 0, 0, 0] norm_firstAxis_close)]

def onePrototype : List (SpeakerPrototype ℚ (Fin 7 → ℚ)) :=
  [unitPrototype "spk_1" ![1, 0, 0, 0, 0, 0, 0]]

/-- The source of a session with one speaker is linked to its clear best
match. -/
theorem links_clear_of_one :
    oneEmbedding.length = onePrototype.length ∧ ∀ rule : AssignmentRule ℚ, OneToOne rule →
      MaximumTotal rule → ∀ result,
        linkSources rule oneEmbedding onePrototype thresholds [] none false = .ok result →
          ∀ i j, result.Links i j → ClearBest thresholds result.scoreMatrix i j := by
  refine ⟨rfl, (links_clear_iff oneEmbedding onePrototype thresholds [] none).mpr ?_⟩
  rintro base - assignment - i ⟨_, -, _, -, j, preferred, _, _, -, -, -, hne, -⟩
  exact hne (Subsingleton.elim (α := Fin 1) j preferred)

/-- Three speakers whose centroids are orthogonal. -/
def threePrototypes : List (SpeakerPrototype ℚ (Fin 7 → ℚ)) :=
  [unitPrototype "spk_1" ![1, 0, 0, 0, 0, 0, 0], unitPrototype "spk_2" ![0, 1, 0, 0, 0, 0, 0],
    unitPrototype "spk_3" ![0, 0, 1, 0, 0, 0, 0]]

/-- Three sources: the first is closest to the first speaker, and the others to
the third. -/
def threeEmbeddings : List (Option (SpeakerEmbedding ℚ (Fin 7 → ℚ))) :=
  [some (sourceEmbedding ![70 / 100, 58 / 100, 0, 40 / 100, 10 / 100, 6 / 100, 0]
      (by decide +kernel)),
    some (sourceEmbedding ![68 / 100, 0, 70 / 100, 21 / 100, 5 / 100, 3 / 100, 1 / 100]
      (by decide +kernel)),
    some (sourceEmbedding ![0, 0, 1, 0, 0, 0, 0] (by decide +kernel))]

/-- Their scores. -/
def threeScores (i j : ℕ) : ℚ :=
  ([[70 / 100, 58 / 100, 0], [68 / 100, 0, 70 / 100], [0, 0, 1]].getD i []).getD j 0

theorem baseScores_three : baseScores threeEmbeddings threePrototypes none
    = .ok (fun i j => (threeScores i j : WithBot ℚ)) := by
  have hscores : buildScoreMatrix threeEmbeddings threePrototypes
      = .ok (fun i j => (threeScores i j : WithBot ℚ)) :=
    buildScoreMatrix_eq_ok (by decide +kernel)
  unfold baseScores
  rw [hscores]
  rfl

/-- What the assignment is asked for: the scores, the floor, and the
threshold in the dummy columns. -/
def threeSolvable (i c : ℕ) : ℚ :=
  ([[70 / 100, 58 / 100, 0, 55 / 100, -1, -1], [68 / 100, 0, 70 / 100, -1, 55 / 100, -1],
    [0, 0, 1, -1, -1, 55 / 100]].getD i []).getD c 0

/-- **The best total gives the first source its second best speaker.** -/
theorem three_assigned : ∀ a b c : Fin 6, a ≠ b → a ≠ c → b ≠ c →
    threeSolvable 0 1 + threeSolvable 1 0 + threeSolvable 2 2
      ≤ threeSolvable 0 a + threeSolvable 1 b + threeSolvable 2 c → a = 1 := by
  decide +kernel

theorem assignColumns_three {rule : AssignmentRule ℚ} (hone : OneToOne rule)
    (hmax : MaximumTotal rule) :
    assignColumns rule (fun (i : Fin 3) (j : Fin 3) => (threeScores i j : WithBot ℚ))
      (fun j => threePrototypes[j].speakerKey) thresholds [] false 0 = 1 := by
  set scores : Fin 3 → Fin 6 → ℚ := solvableScores (applyContinuityBonus
    (fun i j => (threeScores i j : WithBot ℚ)) (fun j : Fin 3 => threePrototypes[j].speakerKey) []
    thresholds.continuityBonus) (thresholds.acceptThreshold.getD 0 : ℚ) with hdef
  have hscores : ∀ i c, scores i c = threeSolvable i c := by
    rw [hdef]
    decide +kernel
  have hbest := hmax (Nat.le_add_left 3 3) scores ![1, 0, 2] (by decide)
  have hinjective := hone (Nat.le_add_left 3 3) scores
  rw [Fin.sum_univ_three, Fin.sum_univ_three] at hbest
  simp only [hscores] at hbest
  show rule (Nat.le_add_left 3 3) scores 0 = 1
  exact three_assigned _ _ _ (hinjective.ne (by decide)) (hinjective.ne (by decide))
    (hinjective.ne (by decide)) hbest

/-- **A source can be linked to its second best match**: its best one was
assigned to a source that is drawn to a third speaker. -/
theorem link_to_second_best : ∃ rule : AssignmentRule ℚ, OneToOne rule ∧ MaximumTotal rule ∧
    ¬ ∀ result, linkSources rule threeEmbeddings threePrototypes thresholds [] none false
        = .ok result → ∀ i j, result.Links i j → ClearBest thresholds result.scoreMatrix i j := by
  obtain ⟨rule, hone, hmax⟩ := exists_assignmentRule (R := ℚ)
  refine ⟨rule, hone, hmax, fun h => ?_⟩
  set base : ScoreMatrix ℚ 3 3 := fun i j => (threeScores i j : WithBot ℚ) with hbase
  have hcolumn := assignColumns_three hone hmax
  set assignment := assignColumns rule base (fun j : Fin 3 => threePrototypes[j].speakerKey)
    thresholds [] false
  have hlinked : (decideSource (fun i : Fin 3 => threeEmbeddings[i].isSome) base
      (fun j : Fin 3 => threePrototypes[j].speakerKey) thresholds false assignment 0).status
        = .linked := by
    refine (decideSource_linked_iff _).mpr ⟨rfl, 55 / 100, rfl, 1 / 10, rfl, 1, hcolumn, ?_, ?_, ?_⟩
    · decide +kernel
    · decide +kernel
    · decide +kernel
  have hresult : linkSources rule threeEmbeddings threePrototypes thresholds [] none false
      = .ok (linkScores rule threeEmbeddings threePrototypes thresholds [] false base) := by
    unfold linkSources
    rw [baseScores_three]
    rfl
  have hclear := h _ hresult (0 : Fin 3) (1 : Fin 3)
    ⟨⟨_, List.mem_map_of_mem (List.mem_finRange (0 : Fin 3)), sourceTrack_decideSource, hlinked⟩,
      hcolumn⟩
  obtain ⟨s, hs, -, hlead⟩ := hclear (55 / 100) rfl (1 / 10) rfl
  have hsecond : s = 58 / 100 := (WithBot.coe_inj.mp hs).symm
  have hmargin := hlead (0 : Fin 3) (70 / 100) (show (0 : Fin 3) ≠ 1 by decide) rfl
  rw [hsecond] at hmargin
  norm_num at hmargin

end Sastt
