import Mathlib.Algebra.BigOperators.Group.List.Basic
import Mathlib.Analysis.InnerProductSpace.PiL2
import Sastt.Domain.Speakers
import Sastt.Lib.Directions

/-!
# The centroid in exact arithmetic

The centroid of a speaker is meant to be the quality-weighted mean of the
embeddings it was heard with, normalised: `direction (∑ qᵢ eᵢ)`. What is
stored is the direction only, with the sum of the qualities beside it, and the
next embedding is added to the direction at that weight. The length of the sum
is smaller than the sum of the qualities unless all embeddings agree, so from
the third embedding on the earlier ones count for too much.

`isMean_concat` says exactly when one more embedding keeps the centroid the
mean, and `centroid_isMean_iff` follows for sequences of any length, in a real
inner product space of any dimension. The vectors of the program are those of
`EuclideanSpace ℝ (Fin d)`.
-/

namespace Sastt

namespace SpeakerPrototype

section Sequence

variable {R V : Type} [Field R] [LinearOrder R] [IsStrictOrderedRing R] [AddCommGroup V]
  [Module R V] [EmbeddingSpace R V]

/-- The prototype built from a first embedding and updated with others, one
after the other. -/
def ofEmbeddings (speakerKey : String) (first : SpeakerEmbedding R V)
    (rest : List (SpeakerEmbedding R V)) : Except PyError (SpeakerPrototype R V) := do
  let p ← fromEmbedding speakerKey first
  rest.foldlM (fun p e => p.updatedWith e) p

variable {key : String} {first : SpeakerEmbedding R V} {pre : List (SpeakerEmbedding R V)}
  {p : SpeakerPrototype R V}

omit [IsStrictOrderedRing R] in
/-- One more embedding is one more update. -/
theorem ofEmbeddings_concat (key : String) (first : SpeakerEmbedding R V)
    (pre : List (SpeakerEmbedding R V)) (e : SpeakerEmbedding R V) :
    ofEmbeddings key first (pre ++ [e])
      = ofEmbeddings key first pre >>= fun p => p.updatedWith e := by
  simp only [ofEmbeddings, List.foldlM_append, List.foldlM_cons, List.foldlM_nil, bind_assoc,
    bind_pure]

omit [IsStrictOrderedRing R] in
/-- All prototypes of a sequence are of the version of the first embedding. -/
theorem modelVersion_ofEmbeddings (h : ofEmbeddings key first pre = .ok p) :
    p.modelVersion = first.modelVersion := by
  induction pre using List.reverseRecOn generalizing p with
  | nil =>
    unfold ofEmbeddings fromEmbedding at h
    cases hn : l2Normalize (R := R) (first.quality • first.vector) with
    | error err =>
      rw [hn] at h
      cases h
    | ok centroid =>
      rw [hn] at h
      cases h
      rfl
  | append_singleton pre e ih =>
    rw [ofEmbeddings_concat] at h
    cases hp : ofEmbeddings key first pre with
    | error err =>
      rw [hp] at h
      cases h
    | ok q =>
      rw [hp] at h
      replace h : q.updatedWith e = .ok p := h
      rw [← ih hp]
      unfold updatedWith at h
      split_ifs at h
      cases hn : l2Normalize (R := R) ((q.weightSum + e.quality)⁻¹ • q.accumulated e) with
      | error err =>
        simp only [hn] at h
        cases h
      | ok centroid =>
        simp only [hn] at h
        cases h
        rfl

/-- The sum of the embeddings, each at its quality. -/
def weightedSum (es : List (SpeakerEmbedding R V)) : V :=
  (es.map (fun e => e.quality • e.vector)).sum

/-- The sum of the qualities. -/
def totalQuality (es : List (SpeakerEmbedding R V)) : R := (es.map (fun e => e.quality)).sum

omit [IsStrictOrderedRing R] in
@[simp] theorem weightedSum_concat (es : List (SpeakerEmbedding R V)) (e : SpeakerEmbedding R V) :
    weightedSum (es ++ [e]) = weightedSum es + e.quality • e.vector := by
  simp [weightedSum]

omit [IsStrictOrderedRing R] in
@[simp] theorem totalQuality_concat (es : List (SpeakerEmbedding R V))
    (e : SpeakerEmbedding R V) : totalQuality (es ++ [e]) = totalQuality es + e.quality := by
  simp [totalQuality]

end Sequence

section Exact

variable {V : Type} [NormedAddCommGroup V] [InnerProductSpace ℝ V]

/-- Exact arithmetic: the norm and the scalar product of a real inner product
space. -/
noncomputable instance exactSpace : EmbeddingSpace ℝ V where
  norm v := ‖v‖
  dot v w := inner ℝ v w
  norm_nonneg := norm_nonneg
  norm_eq_zero _ := norm_eq_zero

/-- Normalising gives the direction. -/
theorem l2Normalize_eq (v : V) (hv : v ≠ 0) : l2Normalize (R := ℝ) v = .ok (direction v) :=
  l2Normalize_of_ne_zero hv

/-- **What an update makes**, in exact arithmetic. -/
theorem updatedWith_iff {p : SpeakerPrototype ℝ V} {e : SpeakerEmbedding ℝ V}
    (hversion : e.modelVersion = p.modelVersion) (hweight : 0 < p.weightSum) (w : ℝ) (c : V) :
    (∃ p', p.updatedWith e = .ok p' ∧ p'.weightSum = w ∧ p'.centroid = c)
      ↔ p.weightSum + e.quality = w ∧ p.accumulated e ≠ 0 ∧ direction (p.accumulated e) = c := by
  have hsum : 0 < p.weightSum + e.quality := add_pos_of_pos_of_nonneg hweight e.quality_nonneg
  unfold updatedWith
  rw [if_neg (not_not.mpr hversion)]
  dsimp only
  by_cases h : p.accumulated e = 0
  · rw [h, smul_zero, l2Normalize_of_zero]
    constructor
    · rintro ⟨p', hp', -⟩
      cases hp'
    · exact fun hc => absurd rfl hc.2.1
  · rw [l2Normalize_eq _ (smul_ne_zero (inv_ne_zero hsum.ne') h),
      direction_smul_of_pos (inv_pos.mpr hsum)]
    constructor
    · rintro ⟨p', hp', rfl, rfl⟩
      cases hp'
      exact ⟨rfl, h, rfl⟩
    · rintro ⟨rfl, -, rfl⟩
      exact ⟨_, rfl, rfl, rfl⟩

/-- **A sequence of embeddings that are accepted**: unit vectors of one model
version with positive qualities, no partial sum of which vanishes. -/
structure Accepted (es : List (SpeakerEmbedding ℝ V)) : Prop where
  unit : ∀ e ∈ es, ‖e.vector‖ = 1
  version : ∀ e ∈ es, ∀ e' ∈ es, e.modelVersion = e'.modelVersion
  quality : ∀ e ∈ es, 0 < e.quality
  sums : ∀ pre, pre <+: es → pre ≠ [] → weightedSum pre ≠ 0

/-- **The centroid is the quality-weighted mean.** -/
def IsMean (key : String) (first : SpeakerEmbedding ℝ V) (pre : List (SpeakerEmbedding ℝ V)) :
    Prop :=
  ∃ p, ofEmbeddings key first pre = .ok p ∧ p.weightSum = totalQuality (first :: pre)
    ∧ p.centroid = direction (weightedSum (first :: pre))

/-- **The embedding keeps the centroid the mean** of all embeddings: those
before agree with each other, or it agrees with their mean, or it is opposite
to the mean and outweighs neither the length of their sum nor their weight, or
both. -/
def KeepsMean (es : List (SpeakerEmbedding ℝ V)) (e : SpeakerEmbedding ℝ V) : Prop :=
  ‖weightedSum es‖ = totalQuality es ∨ e.vector = direction (weightedSum es)
    ∨ (e.vector = -direction (weightedSum es)
      ∧ ¬ (‖weightedSum es‖ < e.quality ∧ e.quality ≤ totalQuality es))

variable {key : String} {first e : SpeakerEmbedding ℝ V}
  {pre rest es : List (SpeakerEmbedding ℝ V)}

theorem Accepted.of_prefix (h : Accepted es) (hle : pre <+: es) : Accepted pre where
  unit e he := h.unit e (hle.subset he)
  version e he e' he' := h.version e (hle.subset he) e' (hle.subset he')
  quality e he := h.quality e (hle.subset he)
  sums p hp := h.sums p (hp.trans hle)

/-- **The sum is no longer than the qualities say.** -/
theorem Accepted.norm_weightedSum_le (h : Accepted es) : ‖weightedSum es‖ ≤ totalQuality es := by
  induction es using List.reverseRecOn with
  | nil => simp [weightedSum, totalQuality]
  | append_singleton es e ih =>
    have he := List.mem_append_right es (List.mem_singleton_self e)
    rw [weightedSum_concat, totalQuality_concat]
    calc ‖weightedSum es + e.quality • e.vector‖
        ≤ ‖weightedSum es‖ + ‖e.quality • e.vector‖ := norm_add_le _ _
      _ = ‖weightedSum es‖ + e.quality := by
        rw [norm_smul, h.unit e he, mul_one, Real.norm_of_nonneg e.quality_nonneg]
      _ ≤ totalQuality es + e.quality :=
        add_le_add_left (ih (h.of_prefix (List.prefix_append es [e]))) _

/-- The first centroid is the mean of one. -/
theorem isMean_first (h : Accepted [first]) : IsMean key first [] := by
  have hsum : weightedSum [first] = first.quality • first.vector := by simp [weightedSum]
  have hne := h.sums [first] List.prefix_rfl (List.cons_ne_nil _ _)
  rw [hsum] at hne
  unfold IsMean ofEmbeddings fromEmbedding
  rw [l2Normalize_eq _ hne, hsum]
  refine ⟨_, rfl, ?_, rfl⟩
  simp [totalQuality]

/-- **When one more embedding keeps the centroid the mean.** -/
theorem isMean_concat (h : Accepted (first :: (pre ++ [e]))) (hmean : IsMean key first pre) :
    IsMean key first (pre ++ [e]) ↔ KeepsMean (first :: pre) e := by
  have hpre : first :: pre <+: first :: (pre ++ [e]) :=
    List.cons_prefix_cons.mpr ⟨rfl, List.prefix_append pre [e]⟩
  have he : e ∈ first :: (pre ++ [e]) := by simp
  have hne : weightedSum (first :: pre) ≠ 0 := h.sums _ hpre (List.cons_ne_nil _ _)
  have hlength := (h.of_prefix hpre).norm_weightedSum_le
  have hpos : 0 < ‖weightedSum (first :: pre)‖ := norm_pos_iff.mpr hne
  obtain ⟨p, hp, hweight, hcentroid⟩ := hmean
  have hversion : e.modelVersion = p.modelVersion := by
    rw [modelVersion_ofEmbeddings hp]
    exact h.version e he first List.mem_cons_self
  have hnext : weightedSum (first :: (pre ++ [e]))
      = ‖weightedSum (first :: pre)‖ • direction (weightedSum (first :: pre))
        + e.quality • e.vector := by
    rw [norm_smul_direction, ← List.cons_append, weightedSum_concat]
  have hnext_ne := h.sums _ List.prefix_rfl (List.cons_ne_nil _ _)
  have hacc : p.accumulated e
      = totalQuality (first :: pre) • direction (weightedSum (first :: pre))
        + e.quality • e.vector := by
    unfold accumulated
    rw [hweight, hcentroid]
  unfold IsMean KeepsMean
  rw [ofEmbeddings_concat, hp]
  show (∃ p', p.updatedWith e = .ok p' ∧ _) ↔ _
  rw [updatedWith_iff hversion (hweight ▸ hpos.trans_le hlength), hacc, hnext, hweight,
    ← List.cons_append, totalQuality_concat]
  rw [hnext] at hnext_ne
  rw [← direction_add_eq_iff (norm_direction hne) (h.unit e he) hpos hlength (h.quality e he)
    hnext_ne]
  exact and_iff_right rfl

/-- **Every later embedding keeps the centroid the mean.** -/
def MeanKept (first : SpeakerEmbedding ℝ V) (rest : List (SpeakerEmbedding ℝ V)) : Prop :=
  ∀ pre e, pre ++ [e] <+: rest → KeepsMean (first :: pre) e

/-- **Along which sequences the centroid is the mean throughout.** -/
theorem forall_isMean_iff (h : Accepted (first :: rest)) :
    (∀ pre, pre <+: rest → IsMean key first pre) ↔ MeanKept first rest := by
  have haccepted : ∀ pre, pre <+: rest → Accepted (first :: pre) := fun pre hpre =>
    h.of_prefix (List.cons_prefix_cons.mpr ⟨rfl, hpre⟩)
  constructor
  · intro hmean pre e hpre
    have hbefore := hmean pre ((List.prefix_append pre [e]).trans hpre)
    exact (isMean_concat (haccepted _ hpre) hbefore).mp (hmean _ hpre)
  · intro hkeep pre hpre
    induction pre using List.reverseRecOn with
    | nil => exact isMean_first (haccepted [] List.nil_prefix)
    | append_singleton pre e ih =>
      have hbefore := ih ((List.prefix_append pre [e]).trans hpre)
      exact (isMean_concat (haccepted _ hpre) hbefore).mpr (hkeep pre e hpre)

/-- Two orders of one collection of embeddings, both of which give the mean,
give the same centroid. -/
theorem centroid_eq_of_perm {first' : SpeakerEmbedding ℝ V} {rest' : List (SpeakerEmbedding ℝ V)}
    (hperm : (first' :: rest').Perm (first :: rest)) (h : IsMean key first rest)
    (h' : IsMean key first' rest') :
    ∃ p p', ofEmbeddings key first rest = .ok p ∧ ofEmbeddings key first' rest' = .ok p'
      ∧ p'.centroid = p.centroid ∧ p'.weightSum = p.weightSum := by
  obtain ⟨p, hp, hweight, hcentroid⟩ := h
  obtain ⟨p', hp', hweight', hcentroid'⟩ := h'
  have hsum : weightedSum (first' :: rest') = weightedSum (first :: rest) :=
    (hperm.map _).sum_eq
  have htotal : totalQuality (first' :: rest') = totalQuality (first :: rest) :=
    (hperm.map _).sum_eq
  exact ⟨p, p', hp, hp', by rw [hcentroid, hcentroid', hsum], by rw [hweight, hweight', htotal]⟩

/-- **Exactly the sequences have the mean for their centroid, from the first
embedding to the last, in which every later embedding keeps it**; and two such
orders of the same embeddings lead to the same centroid. -/
theorem centroid_isMean_iff (key : String) (first : SpeakerEmbedding ℝ V)
    (rest : List (SpeakerEmbedding ℝ V)) (h : Accepted (first :: rest)) :
    ((∀ pre, pre <+: rest → IsMean key first pre) ↔ MeanKept first rest)
      ∧ ∀ first' rest', (first' :: rest').Perm (first :: rest) → Accepted (first' :: rest') →
        MeanKept first rest → MeanKept first' rest' →
        ∃ p p', ofEmbeddings key first rest = .ok p ∧ ofEmbeddings key first' rest' = .ok p'
          ∧ p'.centroid = p.centroid ∧ p'.weightSum = p.weightSum := by
  refine ⟨forall_isMean_iff h, fun first' rest' hperm h' hkept hkept' => ?_⟩
  exact centroid_eq_of_perm hperm ((forall_isMean_iff h).mpr hkept rest List.prefix_rfl)
    ((forall_isMean_iff h').mpr hkept' rest' List.prefix_rfl)

end Exact

/-! ### Three embeddings in the plane -/

section Plane

/-- The plane. -/
abbrev Plane := EuclideanSpace ℝ (Fin 2)

/-- An embedding along one of the axes. -/
noncomputable def alongAxis (i : Fin 2) (quality : ℝ) (h0 : 0 ≤ quality) (h1 : quality ≤ 1) :
    SpeakerEmbedding ℝ Plane where
  vector := EuclideanSpace.single i 1
  modelVersion := "campplus"
  quality
  speechDurationMs := 3000
  origin := .clean
  norm_close := by
    show |‖(EuclideanSpace.single i 1 : Plane)‖ - 1| ≤ 1 / 1000
    simp
  quality_nonneg := h0
  quality_le_one := h1

/-- Three embeddings, the second across the others. -/
noncomputable def firstEmbedding : SpeakerEmbedding ℝ Plane :=
  alongAxis 0 (3 / 5) (by norm_num) (by norm_num)

noncomputable def acrossEmbedding : SpeakerEmbedding ℝ Plane :=
  alongAxis 1 (4 / 5) (by norm_num) (by norm_num)

noncomputable def againEmbedding : SpeakerEmbedding ℝ Plane :=
  alongAxis 0 (24 / 25) (by norm_num) (by norm_num)

theorem norm_alongAxis (i : Fin 2) (quality : ℝ) (h0 : 0 ≤ quality) (h1 : quality ≤ 1) :
    ‖(alongAxis i quality h0 h1).vector‖ = 1 := by
  show ‖(EuclideanSpace.single i 1 : Plane)‖ = 1
  simp

/-- Its length. -/
theorem norm_plane (v : Plane) : ‖v‖ = Real.sqrt (v 0 ^ 2 + v 1 ^ 2) := by
  rw [EuclideanSpace.norm_eq, Fin.sum_univ_two]
  simp

/-- Embeddings that do not point backwards have a sum that does not. -/
theorem weightedSum_nonneg {es : List (SpeakerEmbedding ℝ Plane)} (h : ∀ e ∈ es, 0 ≤ e.vector 0) :
    0 ≤ weightedSum es 0 := by
  induction es with
  | nil => simp [weightedSum]
  | cons e es ih =>
    have hcons : weightedSum (e :: es) 0 = e.quality * e.vector 0 + weightedSum es 0 := by
      simp [weightedSum]
    rw [hcons]
    exact add_nonneg (mul_nonneg e.quality_nonneg (h e List.mem_cons_self))
      (ih (fun e' he' => h e' (List.mem_cons_of_mem e he')))

/-- Sequences of the three embeddings that begin with the first are accepted. -/
theorem accepted_first {rest : List (SpeakerEmbedding ℝ Plane)}
    (h : ∀ e ∈ rest, e = acrossEmbedding ∨ e = againEmbedding) :
    Accepted (firstEmbedding :: rest) := by
  have hall : ∀ e ∈ firstEmbedding :: rest,
      e = firstEmbedding ∨ e = acrossEmbedding ∨ e = againEmbedding := by
    intro e he
    rcases List.mem_cons.mp he with rfl | he
    · exact Or.inl rfl
    · exact Or.inr (h e he)
  have hversion : ∀ e ∈ firstEmbedding :: rest, e.modelVersion = "campplus" := by
    intro e he
    rcases hall e he with rfl | rfl | rfl <;> rfl
  refine ⟨fun e he => ?_, fun e he e' he' => ?_, fun e he => ?_, fun pre hpre hne => ?_⟩
  · rcases hall e he with rfl | rfl | rfl <;> exact norm_alongAxis _ _ _ _
  · rw [hversion e he, hversion e' he']
  · rcases hall e he with rfl | rfl | rfl
    · show (0 : ℝ) < 3 / 5
      norm_num
    · show (0 : ℝ) < 4 / 5
      norm_num
    · show (0 : ℝ) < 24 / 25
      norm_num
  · obtain ⟨e, tail, rfl⟩ := List.exists_cons_of_ne_nil hne
    obtain ⟨rfl, htail⟩ := List.cons_prefix_cons.mp hpre
    have hcons : weightedSum (firstEmbedding :: tail) 0 = 3 / 5 + weightedSum tail 0 := by
      simp [weightedSum, firstEmbedding, alongAxis]
    have hrest : 0 ≤ weightedSum tail 0 := by
      refine weightedSum_nonneg (fun e he => ?_)
      rcases h e (htail.subset he) with rfl | rfl <;>
        simp [acrossEmbedding, againEmbedding, alongAxis]
    intro hzero
    rw [hzero] at hcons
    replace hcons : (0 : ℝ) = 3 / 5 + weightedSum tail 0 := hcons
    linarith

/-- One embedding agrees with itself. -/
theorem keepsMean_first (e : SpeakerEmbedding ℝ Plane) : KeepsMean [firstEmbedding] e := by
  refine Or.inl ?_
  have hone : ‖firstEmbedding.vector‖ = 1 := norm_alongAxis _ _ _ _
  simp [weightedSum, totalQuality, norm_smul, hone, abs_of_nonneg firstEmbedding.quality_nonneg]

/-- The sum of two that agree is as long as the qualities say. -/
theorem keepsMean_again (e : SpeakerEmbedding ℝ Plane) :
    KeepsMean [firstEmbedding, againEmbedding] e := by
  have hsum : weightedSum [firstEmbedding, againEmbedding] 0 = 39 / 25
      ∧ weightedSum [firstEmbedding, againEmbedding] 1 = 0 := by
    constructor <;> norm_num [weightedSum, firstEmbedding, againEmbedding, alongAxis]
  have htotal : totalQuality [firstEmbedding, againEmbedding] = 39 / 25 := by
    norm_num [totalQuality, firstEmbedding, againEmbedding, alongAxis]
  refine Or.inl ?_
  rw [norm_plane, hsum.1, hsum.2, htotal, zero_pow two_ne_zero, add_zero,
    Real.sqrt_sq (by norm_num)]

/-- **The third embedding does not keep the centroid the mean**: the sum of the
first two has length one, and weight seven fifths. -/
theorem not_keepsMean_across : ¬ KeepsMean [firstEmbedding, acrossEmbedding] againEmbedding := by
  have hsum : weightedSum [firstEmbedding, acrossEmbedding] 0 = 3 / 5
      ∧ weightedSum [firstEmbedding, acrossEmbedding] 1 = 4 / 5 := by
    simp [weightedSum, firstEmbedding, acrossEmbedding, alongAxis]
  have htotal : totalQuality [firstEmbedding, acrossEmbedding] = 7 / 5 := by
    norm_num [totalQuality, firstEmbedding, acrossEmbedding, alongAxis]
  have hnorm : ‖weightedSum [firstEmbedding, acrossEmbedding]‖ = 1 := by
    rw [norm_plane, hsum.1, hsum.2]
    norm_num
  have hagain : againEmbedding.vector 1 = 0 := by simp [againEmbedding, alongAxis]
  unfold KeepsMean
  rw [direction_of_norm_one hnorm, hnorm, htotal]
  rintro (h | h | ⟨h, -⟩)
  · norm_num at h
  · rw [h, hsum.2] at hagain
    norm_num at hagain
  · rw [h] at hagain
    replace hagain : -(weightedSum [firstEmbedding, acrossEmbedding] 1) = 0 := hagain
    rw [hsum.2] at hagain
    norm_num at hagain

theorem accepted_across : Accepted [firstEmbedding, acrossEmbedding, againEmbedding] :=
  accepted_first (by simp)

theorem accepted_again : Accepted [firstEmbedding, againEmbedding, acrossEmbedding] :=
  accepted_first (by simp)

/-- If the two that agree come first, every embedding keeps the mean. -/
theorem meanKept_again : MeanKept firstEmbedding [againEmbedding, acrossEmbedding] := by
  intro pre e hpre
  match pre, hpre with
  | [], _ => exact keepsMean_first e
  | [_], hpre =>
    obtain ⟨rfl, -⟩ := List.cons_prefix_cons.mp hpre
    exact keepsMean_again e
  | _ :: _ :: pre, hpre =>
    have hlength := hpre.length_le
    simp at hlength

/-- The centroid of three embeddings is not their mean. -/
theorem not_isMean_across (key : String) :
    ¬ IsMean key firstEmbedding [acrossEmbedding, againEmbedding] := by
  have htwo : IsMean key firstEmbedding [acrossEmbedding] := by
    have haccepted := accepted_across.of_prefix
      (List.prefix_append [firstEmbedding, acrossEmbedding] [againEmbedding])
    have hone : IsMean key firstEmbedding [] := isMean_first
      (haccepted.of_prefix (List.prefix_append [firstEmbedding] [acrossEmbedding]))
    have hstep : IsMean key firstEmbedding ([] ++ [acrossEmbedding])
        ↔ KeepsMean [firstEmbedding] acrossEmbedding := isMean_concat haccepted hone
    exact hstep.mpr (keepsMean_first _)
  have hstep : IsMean key firstEmbedding ([acrossEmbedding] ++ [againEmbedding])
      ↔ KeepsMean [firstEmbedding, acrossEmbedding] againEmbedding :=
    isMean_concat accepted_across htwo
  exact fun hthree => not_keepsMean_across (hstep.mp hthree)

/-- **The centroid depends on the order**: where the embedding across comes
second, the centroid is not the mean, and it is not what the other order
gives. -/
theorem centroid_depends_on_order :
    Accepted [firstEmbedding, acrossEmbedding, againEmbedding]
      ∧ Accepted [firstEmbedding, againEmbedding, acrossEmbedding]
      ∧ ¬ IsMean "speaker" firstEmbedding [acrossEmbedding, againEmbedding]
      ∧ ¬ ∃ p p', ofEmbeddings "speaker" firstEmbedding [acrossEmbedding, againEmbedding] = .ok p
        ∧ ofEmbeddings "speaker" firstEmbedding [againEmbedding, acrossEmbedding] = .ok p'
        ∧ p'.centroid = p.centroid ∧ p'.weightSum = p.weightSum := by
  refine ⟨accepted_across, accepted_again, not_isMean_across _, ?_⟩
  rintro ⟨p, p', hp, hp', hcentroid, hweight⟩
  have hmean : IsMean "speaker" firstEmbedding [againEmbedding, acrossEmbedding] :=
    (forall_isMean_iff accepted_again).mpr meanKept_again _ List.prefix_rfl
  obtain ⟨q, hq, hweight', hcentroid'⟩ := hmean
  rw [hp'] at hq
  cases hq
  have hperm : [firstEmbedding, againEmbedding, acrossEmbedding].Perm
      [firstEmbedding, acrossEmbedding, againEmbedding] := (List.Perm.swap _ _ []).cons _
  refine not_isMean_across "speaker" ⟨p, hp, ?_, ?_⟩
  · rw [← hweight, hweight']
    exact (hperm.map _).sum_eq
  · rw [← hcentroid, hcentroid']
    exact congrArg direction (hperm.map _).sum_eq

/-- In the other order it is. -/
theorem centroid_isMean_again :
    IsMean "speaker" firstEmbedding [againEmbedding, acrossEmbedding] :=
  (centroid_isMean_iff "speaker" firstEmbedding [againEmbedding, acrossEmbedding]
    accepted_again).1.mpr meanKept_again _ List.prefix_rfl

end Plane

end SpeakerPrototype

end Sastt
