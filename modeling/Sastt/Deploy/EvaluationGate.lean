import Sastt.Deploy.OverlapEval

/-!
# The gate between two runs

An improvement is meant to name more of the labels correctly and not more of them
wrongly, out of the labels there are. The gate compares rates, and those of a run
are out of the labels that its own segments happen to match. So a run is improved
by not matching what it would have named wrongly or not at all.

Nothing can be wrong where both runs match equally many labels, each by one
segment, unless there are so many that four decimals do not tell their rates
apart. Where the second run matches exactly one label more, a wrong name more can
only hide in the rounding. In all other cases there are runs that the gate
approves although the second one is worse (`gateIsRight_iff`).
-/

namespace Sastt.OverlapEval

variable {labels : Labels} {segments : List RunSegment} {mapping : List (String × String)}

/-! ## What is meant -/

/-- The names a run gives the segment of a label. -/
def namesOf (mapping : List (String × String)) (segments : List RunSegment) (key : LabelKey) :
    List (Option String) :=
  ((overlapOnly segments).filter (fun s => s.key = key)).map (prediction mapping)

/-- **The labels that are named in a way.** -/
def labelsNamed (outcome : Outcome) (mapping : List (String × String)) (labels : Labels)
    (segments : List RunSegment) : ℕ :=
  labels.entries.countP (fun e : LabelKey × String =>
    IsDecidable e.2 ∧ ∃ name ∈ namesOf mapping segments e.1, outcomeOf e.2 name = outcome)

/-- **The gate is right about two runs**: if it approves of the second one, more
labels are named correctly by it, and not more are named wrongly. -/
def GateIsRight (assign : LinearSumAssignment) (labels : Labels)
    (before after : List RunSegment) : Prop :=
  compareRuns assign labels before after = 0 →
    labelsNamed .accuracy [] labels before
        < labelsNamed .accuracy (alignToReference assign before after) labels after
      ∧ labelsNamed .confusion (alignToReference assign before after) labels after
        ≤ labelsNamed .confusion [] labels before

instance (assign : LinearSumAssignment) (labels : Labels) (before after : List RunSegment) :
    Decidable (GateIsRight assign labels before after) := inferInstanceAs (Decidable (_ → _))

/-- The labels that say who spoke and that a run has a segment for. -/
def matchCount (labels : Labels) (segments : List RunSegment) : ℕ :=
  labels.entries.countP (fun e => IsDecidable e.2 ∧ ∃ s ∈ overlapOnly segments, s.key = e.1)

/-- A run has one segment at most for each of these labels. -/
def MatchesOnce (labels : Labels) (segments : List RunSegment) : Prop :=
  ((decidableItems segments labels).map (fun item => item.1.key)).Nodup

instance : Decidable (MatchesOnce labels segments) := inferInstanceAs (Decidable (List.Nodup _))

/-! ## Counting labels -/

/-- The labels of the segments. -/
theorem mem_decidableItems {item : RunSegment × String} :
    item ∈ decidableItems segments labels
      ↔ item.1 ∈ overlapOnly segments ∧ (item.1.key, item.2) ∈ labels.entries
        ∧ IsDecidable item.2 := by
  unfold decidableItems matched
  rw [List.mem_filter, List.mem_filterMap, decide_eq_true_iff, ← and_assoc]
  refine and_congr_left (fun _ => ?_)
  constructor
  · rintro ⟨s, hs, hitem⟩
    obtain ⟨truth, htruth, rfl⟩ := Option.map_eq_some_iff.mp hitem
    exact ⟨hs, (lookup_eq_some_iff_mem labels.nodup).mp htruth⟩
  · rintro ⟨hs, htruth⟩
    exact ⟨item.1, hs, Option.map_eq_some_iff.mpr
      ⟨item.2, (lookup_eq_some_iff_mem labels.nodup).mpr htruth, rfl⟩⟩

/-- **Counting segments is counting labels**, where each label has one. -/
theorem countP_decidableItems (h : MatchesOnce labels segments)
    (p : RunSegment → String → Bool) :
    (decidableItems segments labels).countP (fun item => p item.1 item.2)
      = labels.entries.countP (fun e => IsDecidable e.2
        ∧ ∃ s ∈ overlapOnly segments, s.key = e.1 ∧ p s e.2 = true) := by
  have hperm : (((decidableItems segments labels).filter (fun item => p item.1 item.2)).map
      (fun item => (item.1.key, item.2))).Perm
      (labels.entries.filter (fun e => IsDecidable e.2
        ∧ ∃ s ∈ overlapOnly segments, s.key = e.1 ∧ p s e.2 = true)) := by
    refine (List.perm_ext_iff_of_nodup ?_ ?_).mpr (fun e => ?_)
    · refine List.Nodup.of_map Prod.fst ?_
      rw [List.map_map]
      exact h.sublist (List.filter_sublist.map _)
    · exact (labels.nodup.of_map _).filter _
    · simp only [List.mem_map, List.mem_filter, mem_decidableItems, decide_eq_true_iff]
      constructor
      · rintro ⟨item, ⟨⟨hs, hentry, hdecidable⟩, hp⟩, rfl⟩
        exact ⟨hentry, hdecidable, item.1, hs, rfl, hp⟩
      · rintro ⟨hentry, hdecidable, s, hs, hkey, hp⟩
        exact ⟨(s, e.2), ⟨⟨hs, hkey ▸ hentry, hdecidable⟩, hp⟩, Prod.ext hkey rfl⟩
  rw [List.countP_eq_length_filter, List.countP_eq_length_filter, ← hperm.length_eq,
    List.length_map]

/-- The rows of the report are these segments. -/
theorem countP_rows (outcome : Outcome) :
    ((decidableItems segments labels).map (scoreRow mapping)).countP (fun r => r.outcome = outcome)
      = (decidableItems segments labels).countP
        (fun item => decide (outcomeOf item.2 (prediction mapping item.1) = outcome)) :=
  List.countP_map

/-- **What is reported of a run** that matches labels once: its counts are those
of the labels. -/
theorem countP_rows_eq_labelsNamed (h : MatchesOnce labels segments) (outcome : Outcome) :
    ((decidableItems segments labels).map (scoreRow mapping)).countP (fun r => r.outcome = outcome)
      = labelsNamed outcome mapping labels segments := by
  rw [countP_rows, countP_decidableItems h
    (fun s truth => decide (outcomeOf truth (prediction mapping s) = outcome))]
  refine List.countP_congr (fun e _ => ?_)
  rw [decide_eq_true_iff, decide_eq_true_iff]
  refine and_congr_right (fun _ => ?_)
  unfold namesOf
  constructor
  · rintro ⟨s, hs, hkey, hp⟩
    exact ⟨_, List.mem_map_of_mem (List.mem_filter.mpr ⟨hs, decide_eq_true hkey⟩),
      of_decide_eq_true hp⟩
  · rintro ⟨name, hname, hp⟩
    obtain ⟨s, hs, rfl⟩ := List.mem_map.mp hname
    obtain ⟨hs, hkey⟩ := List.mem_filter.mp hs
    exact ⟨s, hs, of_decide_eq_true hkey, decide_eq_true hp⟩

theorem length_decidableItems (h : MatchesOnce labels segments) :
    (decidableItems segments labels).length = matchCount labels segments := by
  rw [← List.countP_true, countP_decidableItems h (fun _ _ => true)]
  refine List.countP_congr (fun e _ => ?_)
  simp

/-- The outcomes are apart. -/
theorem labelsNamed_add_le (h : MatchesOnce labels segments) :
    labelsNamed .accuracy mapping labels segments + labelsNamed .confusion mapping labels segments
      ≤ matchCount labels segments := by
  rw [← countP_rows_eq_labelsNamed h, ← countP_rows_eq_labelsNamed h, ← length_decidableItems h,
    ← List.length_map (scoreRow mapping)]
  generalize (decidableItems segments labels).map (scoreRow mapping) = rows
  induction rows with
  | nil => exact Nat.le_refl 0
  | cons r rows ih =>
    rw [List.countP_cons, List.countP_cons, List.length_cons]
    cases r.outcome <;> simp <;> omega

/-! ## Rates -/

/-- A rate in units of its last decimal. -/
def rateUnits (count total : ℕ) : ℤ := roundHalfEven ((10000 * count : ℚ) / total)

theorem nearestEven_rateUnits (c n : ℕ) :
    NearestEven ((10000 * c : ℚ) / n) (rateUnits c n) := nearestEven_roundHalfEven _

theorem rate_lt_iff {c n c' n' : ℕ} : rate c n < rate c' n' ↔ rateUnits c n < rateUnits c' n' := by
  unfold rate
  rw [div_lt_div_iff_of_pos_right (by norm_num), Int.cast_lt]
  rfl

theorem rate_le_iff {c n c' n' : ℕ} : rate c n ≤ rate c' n' ↔ rateUnits c n ≤ rateUnits c' n' := by
  unfold rate
  rw [div_le_div_iff_of_pos_right (by norm_num), Int.cast_le]
  rfl

/-- What the gate approves of, in terms of matches, right names and wrong
names. -/
def Approves (nb cb wb na ca wa : ℕ) : Prop :=
  nb ≠ 0 ∧ na ≠ 0 ∧ rate cb nb < rate ca na ∧ rate wa na ≤ rate wb nb

/-- **The gate sees the labels by their counts.** -/
theorem compareRuns_eq_zero_iff {assign : LinearSumAssignment} {before after : List RunSegment}
    (hbefore : MatchesOnce labels before) (hafter : MatchesOnce labels after) :
    compareRuns assign labels before after = 0
      ↔ Approves (matchCount labels before) (labelsNamed .accuracy [] labels before)
        (labelsNamed .confusion [] labels before) (matchCount labels after)
        (labelsNamed .accuracy (alignToReference assign before after) labels after)
        (labelsNamed .confusion (alignToReference assign before after) labels after) := by
  have hscore : ∀ {segments : List RunSegment} (mapping : List (String × String)),
      MatchesOnce labels segments →
      (score segments labels mapping).overall.n = matchCount labels segments
        ∧ ∀ outcome, (score segments labels mapping).overall.rates outcome
          = if matchCount labels segments = 0 then none
            else some (rate (labelsNamed outcome mapping labels segments)
              (matchCount labels segments)) := by
    intro segments mapping h
    have hlength : ((decidableItems segments labels).map (scoreRow mapping)).length
        = matchCount labels segments := by
      rw [List.length_map, length_decidableItems h]
    refine ⟨hlength, fun outcome => ?_⟩
    rw [← countP_rows_eq_labelsNamed h, ← hlength]
    rfl
  obtain ⟨hn, hrates⟩ := hscore [] hbefore
  obtain ⟨hn', hrates'⟩ := hscore (alignToReference assign before after) hafter
  unfold compareRuns OverlapEval.compare Approves
  simp only [hn, hn', hrates, hrates']
  by_cases hb : matchCount labels before = 0
  · simp [hb]
  · by_cases ha : matchCount labels after = 0
    · simp [ha]
    · simp only [hb, ha, or_self, if_false, Option.getD_some, ne_eq, not_false_eq_true, true_and,
        sub_pos, sub_nonpos]
      split <;> simp_all

/-! ## What rates tell -/

/-- More of fewer is the higher rate. -/
theorem rateUnits_mono {c n c' n' : ℕ} (hn : 0 < n) (hn' : 0 < n') (h : c * n' ≤ c' * n) :
    rateUnits c n ≤ rateUnits c' n' := by
  refine (nearestEven_rateUnits c n).mono (nearestEven_rateUnits c' n') ?_
  have hq : (0 : ℚ) < n := by exact_mod_cast hn
  have hq' : (0 : ℚ) < n' := by exact_mod_cast hn'
  have hcast : (c : ℚ) * n' ≤ c' * n := by exact_mod_cast h
  rw [div_le_div_iff₀ hq hq']
  linarith

/-- More is the higher rate. -/
theorem rateUnits_mono_left {c c' : ℕ} (n : ℕ) (h : c ≤ c') : rateUnits c n ≤ rateUnits c' n := by
  rcases Nat.eq_zero_or_pos n with rfl | hn
  · unfold rateUnits
    simp
  · exact rateUnits_mono hn hn (Nat.mul_le_mul_right n h)

@[simp] theorem rateUnits_zero (n : ℕ) : rateUnits 0 n = 0 := by
  have hzero := nearestEven_rateUnits 0 n
  rw [show (10000 * (0 : ℕ) : ℚ) / n = ((0 : ℤ) : ℚ) by simp] at hzero
  exact hzero.unique (.intCast 0)

theorem rateUnits_self {n : ℕ} (hn : 0 < n) : rateUnits n n = 10000 := by
  have hq : (n : ℚ) ≠ 0 := by exact_mod_cast hn.ne'
  have hall := nearestEven_rateUnits n n
  rw [mul_div_assoc, div_self hq, show (10000 * 1 : ℚ) = ((10000 : ℤ) : ℚ) by norm_num] at hall
  exact hall.unique (.intCast 10000)

/-- One of fewer than twenty thousand is seen. -/
theorem rateUnits_one_pos {n : ℕ} (hn : 0 < n) (h : n < 20000) : 0 < rateUnits 1 n := by
  have hq : (0 : ℚ) < n := by exact_mod_cast hn
  have hlt : (n : ℚ) < 20000 := by exact_mod_cast h
  refine (nearestEven_rateUnits 1 n).pos ?_
  rw [mul_div_assoc', lt_div_iff₀ hq]
  push_cast
  linarith

/-- One of more is not. -/
theorem rateUnits_one_of_le {n : ℕ} (h : 20000 ≤ n) : rateUnits 1 n ≤ 0 := by
  have htie : rateUnits 1 20000 = 0 := by decide +kernel
  rw [← htie]
  exact rateUnits_mono (by omega) (by omega) (by omega)

/-- All but one of fewer than twenty thousand are not all. -/
theorem rateUnits_pred_lt {c n : ℕ} (hc : c < n) (h : n < 20000) : rateUnits c n < 10000 := by
  have hq : (0 : ℚ) < n := by exact_mod_cast (Nat.zero_lt_of_lt hc)
  have hlt : (n : ℚ) < 20000 := by exact_mod_cast h
  have hc' : (c : ℚ) + 1 ≤ n := by exact_mod_cast hc
  have hround := (nearestEven_rateUnits c n).le
  have hless : 2 * ((10000 * c : ℚ) / n) + 1 < 2 * 10000 := by
    have : (10000 * c : ℚ) / n ≤ 10000 - 10000 / n := by
      rw [le_sub_iff_add_le, ← add_div, div_le_iff₀ hq]
      linarith
    have : 1 < 2 * ((10000 : ℚ) / n) := by
      rw [mul_div_assoc', lt_div_iff₀ hq]
      linarith
    linarith
  have hcast : ((rateUnits c n : ℤ) : ℚ) < 10000 := by linarith
  exact_mod_cast hcast

/-- **Up to ten thousand labels, every one is seen.** -/
theorem rateUnits_lt {c c' n : ℕ} (hn : n ≤ 10000) (hpos : 0 < n) (h : c < c') :
    rateUnits c n < rateUnits c' n := by
  have hq : (0 : ℚ) < n := by exact_mod_cast hpos
  have hc : (c : ℚ) + 1 ≤ c' := by exact_mod_cast h
  rcases hn.lt_or_eq with hlt | rfl
  · have hn' : (n : ℚ) < 10000 := by exact_mod_cast hlt
    refine (nearestEven_rateUnits c n).lt (nearestEven_rateUnits c' n) ?_
    rw [div_add_one hq.ne', div_lt_div_iff_of_pos_right hq]
    linarith
  · have hexact : ∀ k : ℕ, rateUnits k 10000 = k := by
      intro k
      have hk := nearestEven_rateUnits k 10000
      rw [show (10000 * k : ℚ) / (10000 : ℕ) = ((k : ℤ) : ℚ) by push_cast; ring] at hk
      exact hk.unique (.intCast k)
    rw [hexact, hexact]
    exact_mod_cast h

/-- **Of more, two neighbours are not told apart**, and neither of them is
all. -/
theorem exists_rateUnits_le {n : ℕ} (h : 10000 < n) (hlt : n < 20000) :
    ∃ w, w + 2 ≤ n ∧ rateUnits (w + 1) n ≤ rateUnits w n := by
  by_contra hnone
  -- otherwise the rates of `0`, …, `n - 1` would be different
  have hlower : ∀ w, w + 1 ≤ n → (w : ℤ) ≤ rateUnits w n := by
    intro w
    induction w with
    | zero =>
      intro _
      simp
    | succ w ih =>
      intro hw
      have hstep : ¬ rateUnits (w + 1) n ≤ rateUnits w n := fun hle => hnone ⟨w, hw, hle⟩
      have hw' := ih (by omega)
      push_cast
      omega
  have hlast := hlower (n - 1) (by omega)
  have hsmall := rateUnits_pred_lt (c := n - 1) (by omega) hlt
  omega

/-! ## Numbers of matches -/

/-- **The numbers of matches can be compared.** -/
def Comparable (nb na : ℕ) : Prop :=
  nb = 0 ∨ na = 0 ∨ (na = nb ∧ na ≤ 10000)
    ∨ (na = nb + 1 ∧ ∀ w < nb, rate w nb < rate (w + 1) na)

/-- Where they can, the gate is right. -/
theorem Comparable.right {nb cb wb na ca wa : ℕ} (h : Comparable nb na) (ha : ca + wa ≤ na)
    (happroves : Approves nb cb wb na ca wa) : cb < ca ∧ wa ≤ wb := by
  obtain ⟨hnb, hna, hright, hwrong⟩ := happroves
  rw [rate_lt_iff] at hright
  rw [rate_le_iff] at hwrong
  rcases h with hzero | hzero | ⟨rfl, hmany⟩ | ⟨rfl, hseen⟩
  · exact absurd hzero hnb
  · exact absurd hzero hna
  · constructor
    · by_contra hnot
      exact absurd (rateUnits_mono_left na (not_lt.mp hnot)) (not_le.mpr hright)
    · by_contra hnot
      exact absurd (rateUnits_lt hmany (Nat.pos_of_ne_zero hna) (not_le.mp hnot))
        (not_lt.mpr hwrong)
  · have hcorrect : cb < ca := by
      by_contra hnot
      refine absurd (rateUnits_mono (by omega) (by omega) ?_) (not_le.mpr hright)
      exact Nat.mul_le_mul (not_lt.mp hnot) (Nat.le_succ nb)
    refine ⟨hcorrect, ?_⟩
    -- one of the matches is named correctly, so not all are wrong
    by_contra hnot
    have hstep := rate_lt_iff.mp (hseen wb (by omega))
    have hmore := rateUnits_mono_left (nb + 1) (show wb + 1 ≤ wa by omega)
    omega

/-- **Where they cannot, the gate can be wrong.** -/
theorem exists_wrong_of_not_comparable {nb na : ℕ} (h : ¬ Comparable nb na) :
    ∃ cb wb ca wa, cb + wb ≤ nb ∧ ca + wa ≤ na ∧ Approves nb cb wb na ca wa
      ∧ ¬ (cb < ca ∧ wa ≤ wb) := by
  unfold Comparable at h
  push Not at h
  obtain ⟨hnb, hna, hequal, hnext⟩ := h
  unfold Approves
  simp only [rate_lt_iff, rate_le_iff]
  have hpos : 0 < na := Nat.pos_of_ne_zero hna
  have hpos' : 0 < nb := Nat.pos_of_ne_zero hnb
  rcases Nat.lt_or_ge na 20000 with hfew | hmany
  · have hone := rateUnits_one_pos hpos hfew
    rcases lt_trichotomy na nb with hless | rfl | hmore
    · rcases Nat.lt_or_ge nb 20000 with hfew' | hmany'
      · refine ⟨na, 0, na, 0, by omega, by omega, ⟨hnb, hna, ?_, by simp⟩, by omega⟩
        rw [rateUnits_self hpos]
        exact rateUnits_pred_lt hless hfew'
      · exact ⟨1, 0, 1, 0, by omega, by omega,
          ⟨hnb, hna, (rateUnits_one_of_le hmany').trans_lt hone, by simp⟩, by omega⟩
    · obtain ⟨w, hw, hsame⟩ := exists_rateUnits_le (hequal rfl) hfew
      exact ⟨0, w, 1, w + 1, by omega, by omega,
        ⟨hnb, hna, by rwa [rateUnits_zero], hsame⟩, by omega⟩
    · rcases Nat.lt_or_ge (nb + 1) na with htwo | hsucc
      · refine ⟨0, nb, 1, na - 1, by omega, by omega, ⟨hnb, hna, by rwa [rateUnits_zero], ?_⟩,
          by omega⟩
        rw [rateUnits_self hpos', ← rateUnits_self hpos]
        exact rateUnits_mono_left na (Nat.sub_le na 1)
      · obtain ⟨w, hw, hsame⟩ := hnext (by omega)
        refine ⟨0, w, na - (w + 1), w + 1, by omega, by omega,
          ⟨hnb, hna, ?_, rate_le_iff.mp hsame⟩, by omega⟩
        rw [rateUnits_zero]
        exact hone.trans_le (rateUnits_mono_left na (by omega))
  · refine ⟨0, 0, na - 1, 1, by omega, by omega, ⟨hnb, hna, ?_, ?_⟩, by omega⟩
    · rw [rateUnits_zero]
      have hhalf : 0 < rateUnits 1 2 := rateUnits_one_pos (by omega) (by omega)
      exact hhalf.trans_le (rateUnits_mono (by omega) hpos (by omega))
    · rw [rateUnits_zero]
      exact rateUnits_one_of_le hmany

/-! ## Runs with given counts -/

section Realised

/-- A segment of nine tenths of each second. -/
def segmentAt (i : ℕ) (speakerLabel : String) : RunSegment where
  startMs := 1000 * i
  endMs := 1000 * i + 900
  sourceTrack := some 0
  isOverlap := true
  speakerLabel := some speakerLabel

/-- A label for the segment of each of the first `n` seconds, where the first
speaker spoke. -/
def labelsOf (n : ℕ) : Labels where
  entries := (List.range n).map (fun i => ((segmentAt i "").key, "Speaker 1"))
  nodup := by
    rw [List.map_map]
    refine List.nodup_range.map (fun i j h => ?_)
    have hstart : (1000 * i : ℤ) = 1000 * j := congrArg Prod.fst h
    omega

/-- What is displayed for an outcome. -/
def displayed : Outcome → String
  | .accuracy => "Speaker 1"
  | .confusion => "Speaker 2"
  | .unknown => "Unknown"

/-- The first `c` are right, and the next `w` wrong. -/
def outcomeAt (c w i : ℕ) : Outcome :=
  if i < c then .accuracy else if i < c + w then .confusion else .unknown

/-- A run that names the first `c` of its segments correctly, the next `w`
wrongly, and the last `u` not at all. -/
def runOf (c w u : ℕ) : List RunSegment :=
  (List.range (c + w + u)).map fun i => segmentAt i (displayed (outcomeAt c w i))

variable {c w u n : ℕ}

theorem overlapOnly_runOf : overlapOnly (runOf c w u) = runOf c w u := by
  refine List.filter_eq_self.mpr (fun s hs => ?_)
  obtain ⟨i, -, rfl⟩ := List.mem_map.mp hs
  rfl

/-- All of its segments have a label. -/
theorem decidableItems_runOf (h : c + w + u ≤ n) :
    decidableItems (runOf c w u) (labelsOf n)
      = (runOf c w u).map (fun s => (s, "Speaker 1")) := by
  have hmatched : matched (runOf c w u) (labelsOf n)
      = (runOf c w u).map (fun s => (s, "Speaker 1")) := by
    unfold matched
    rw [overlapOnly_runOf, ← List.filterMap_eq_map]
    refine List.filterMap_congr (fun s hs => ?_)
    obtain ⟨i, hi, rfl⟩ := List.mem_map.mp hs
    have hentry : ((segmentAt i "").key, "Speaker 1") ∈ (labelsOf n).entries :=
      List.mem_map_of_mem (List.mem_range.mpr ((List.mem_range.mp hi).trans_le h))
    show ((labelsOf n).entries.lookup (segmentAt i "").key).map _ = _
    rw [(lookup_eq_some_iff_mem (labelsOf n).nodup).mpr hentry]
    rfl
  unfold decidableItems
  rw [hmatched]
  refine List.filter_eq_self.mpr (fun item hitem => ?_)
  obtain ⟨s, -, rfl⟩ := List.mem_map.mp hitem
  exact decide_eq_true (show IsDecidable "Speaker 1" by decide)

theorem matchesOnce_runOf (h : c + w + u ≤ n) : MatchesOnce (labelsOf n) (runOf c w u) := by
  unfold MatchesOnce
  rw [decidableItems_runOf h, List.map_map, runOf, List.map_map]
  refine List.nodup_range.map (fun i j h => ?_)
  have hstart : (1000 * i : ℤ) = 1000 * j := congrArg Prod.fst h
  omega

theorem matchCount_runOf (h : c + w + u ≤ n) :
    matchCount (labelsOf n) (runOf c w u) = c + w + u := by
  rw [← length_decidableItems (matchesOnce_runOf h), decidableItems_runOf h, List.length_map, runOf,
    List.length_map, List.length_range]

theorem outcomeOf_displayed (i : ℕ) (outcome : Outcome) :
    outcomeOf "Speaker 1" (prediction [] (segmentAt i (displayed outcome))) = outcome := by
  show outcomeOf "Speaker 1" (prediction [] (segmentAt 0 (displayed outcome))) = outcome
  cases outcome <;> decide +kernel

/-- The labels have the outcomes of its segments. -/
theorem labelsNamed_runOf (h : c + w + u ≤ n) (outcome : Outcome) :
    labelsNamed outcome [] (labelsOf n) (runOf c w u)
      = (List.range (c + w + u)).countP (fun i => outcomeAt c w i = outcome) := by
  rw [← countP_rows_eq_labelsNamed (matchesOnce_runOf h), countP_rows, decidableItems_runOf h,
    List.countP_map, runOf, List.countP_map]
  refine List.countP_congr (fun i _ => ?_)
  simp only [Function.comp_apply, outcomeOf_displayed]

/-- The numbers below `c`, and those of the next `w`, are as many. -/
theorem countP_outcomeAt :
    (List.range (c + w + u)).countP (fun i => outcomeAt c w i = .accuracy) = c
      ∧ (List.range (c + w + u)).countP (fun i => outcomeAt c w i = .confusion) = w := by
  have hright : ∀ i < c, outcomeAt c w i = .accuracy := fun i hi => if_pos hi
  have hwrong : ∀ i < w, outcomeAt c w (c + i) = .confusion := fun i hi =>
    (if_neg (by omega)).trans (if_pos (by omega))
  have hnone : ∀ i, outcomeAt c w (c + w + i) = .unknown := fun i =>
    (if_neg (by omega)).trans (if_neg (by omega))
  have hcount : ∀ outcome, (List.range (c + w + u)).countP (fun i => outcomeAt c w i = outcome)
      = (List.range c).countP (fun _ => Outcome.accuracy = outcome)
        + (List.range w).countP (fun _ => Outcome.confusion = outcome)
        + (List.range u).countP (fun _ => Outcome.unknown = outcome) := by
    intro outcome
    rw [List.range_add, List.range_add, List.countP_append, List.countP_append, List.countP_map,
      List.countP_map]
    congr 1
    · congr 1
      · refine List.countP_congr (fun i hi => ?_)
        rw [hright i (List.mem_range.mp hi)]
      · refine List.countP_congr (fun i hi => ?_)
        rw [Function.comp_apply, hwrong i (List.mem_range.mp hi)]
    · refine List.countP_congr (fun i _ => ?_)
      rw [Function.comp_apply, hnone i]
  rw [hcount, hcount]
  simp

/-- Runs without clean speech are not aligned. -/
theorem alignToReference_of_roster {assign : LinearSumAssignment} {before after : List RunSegment}
    (h : roster before = []) : alignToReference assign before after = [] := if_pos (Or.inl h)

theorem roster_runOf : roster (runOf c w u) = [] := by
  have hnone : (runOf c w u).filter (fun s => ¬ s.isOverlap) = [] := by
    refine List.filter_eq_nil_iff.mpr (fun s hs => ?_)
    obtain ⟨i, -, rfl⟩ := List.mem_map.mp hs
    simp [segmentAt]
  unfold roster
  rw [hnone]
  rfl

end Realised

/-! ## The gate -/

/-- **The gate is right about all runs with so many matches exactly when their
numbers can be compared**, if a run matches a label once. If it may do so twice,
the gate is not always right about runs that match the same one label. -/
theorem gateIsRight_iff (assign : LinearSumAssignment) :
    (∀ nb na, (∀ labels before after, MatchesOnce labels before → MatchesOnce labels after →
        matchCount labels before = nb → matchCount labels after = na →
          GateIsRight assign labels before after)
      ↔ Comparable nb na)
    ∧ ∃ labels before after, matchCount labels before = 1 ∧ matchCount labels after = 1
      ∧ ¬ GateIsRight assign labels before after := by
  constructor
  · intro nb na
    constructor
    · intro hright
      by_contra hnot
      obtain ⟨cb, wb, ca, wa, hb, ha, happroves, hwrong⟩ := exists_wrong_of_not_comparable hnot
      obtain ⟨ub, rfl⟩ := Nat.exists_eq_add_of_le hb
      obtain ⟨ua, rfl⟩ := Nat.exists_eq_add_of_le ha
      have hleft := Nat.le_max_left (cb + wb + ub) (ca + wa + ua)
      have hle := Nat.le_max_right (cb + wb + ub) (ca + wa + ua)
      set n := max (cb + wb + ub) (ca + wa + ua)
      have hgate := hright (labelsOf n) (runOf cb wb ub) (runOf ca wa ua) (matchesOnce_runOf hleft)
        (matchesOnce_runOf hle) (matchCount_runOf hleft) (matchCount_runOf hle)
      unfold GateIsRight at hgate
      rw [compareRuns_eq_zero_iff (matchesOnce_runOf hleft) (matchesOnce_runOf hle),
        alignToReference_of_roster roster_runOf, matchCount_runOf hleft, matchCount_runOf hle,
        labelsNamed_runOf hleft, labelsNamed_runOf hleft, labelsNamed_runOf hle,
        labelsNamed_runOf hle, countP_outcomeAt.1, countP_outcomeAt.2, countP_outcomeAt.1,
        countP_outcomeAt.2] at hgate
      exact hwrong (hgate happroves)
    · rintro hcomparable labels before after hbefore hafter rfl rfl happroved
      rw [compareRuns_eq_zero_iff hbefore hafter] at happroved
      exact hcomparable.right (labelsNamed_add_le hafter) happroved
  · -- the label is matched twice before, and only one segment of it is named
    refine ⟨labelsOf 1, [segmentAt 0 "Speaker 1", segmentAt 0 "Unknown"],
      [segmentAt 0 "Speaker 1"], by decide +kernel, by decide +kernel, fun hgate => ?_⟩
    unfold GateIsRight compareRuns at hgate
    rw [alignToReference_of_roster (by decide +kernel)] at hgate
    revert hgate
    decide +kernel

/-- **The gate approves of a run that names nothing more**: it does not match the
label that it would have been silent about. -/
theorem gate_approves_of_a_lost_match :
    ¬ GateIsRight (fun _ => []) (loadLabels [
        { startMs := 1000, endMs := 3000, sourceTrack := some 0, speaker := "Speaker 1" },
        { startMs := 5000, endMs := 6000, sourceTrack := some 0, speaker := "Speaker 2" }])
      [{ startMs := 1000, endMs := 3000, sourceTrack := some 0, isOverlap := true,
          speakerLabel := some "Speaker 1" },
        { startMs := 5000, endMs := 6000, sourceTrack := some 0, isOverlap := true,
          speakerLabel := some "Unknown" }]
      [{ startMs := 1000, endMs := 3000, sourceTrack := some 0, isOverlap := true,
          speakerLabel := some "Speaker 1" },
        { startMs := 5000, endMs := 5900, sourceTrack := some 0, isOverlap := true,
          speakerLabel := some "Unknown" }] := by
  decide +kernel

end Sastt.OverlapEval
