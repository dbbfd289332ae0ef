import Sastt.Deploy.EvaluationGate
import Sastt.Lib.Classes
import Sastt.Lib.Numerals

/-!
# The triple and the labels

A report says of an overlap how many of the labels are named as they say, named
otherwise and not named. The three are meant to add up to the labels that say who
spoke, and the blocks by length and by number of speakers to split them.

The rows of a report are the segments that have a label. A label that no segment
matches has no row and is in none of the three, so a report of fewer labels looks
like one of all. A row whose length is in no bucket is in the triple, and in none
of the blocks by length. The blocks by number of speakers always split the rows.
-/

namespace Sastt.OverlapEval

variable {labels : Labels} {segments : List RunSegment} {mapping : List (String × String)}

/-! ## What is meant -/

/-- What a block has of an outcome. -/
def OutcomeTriple.count (t : OutcomeTriple) : Outcome → ℕ
  | .accuracy => t.accuracy
  | .confusion => t.confusion
  | .unknown => t.unknown

/-- The number of labels that say who spoke. -/
def decidableCount (labels : Labels) : ℕ := labels.entries.countP (fun e => IsDecidable e.2)

/-- **Blocks that split a triple**: each has a name of its own, and what they have
of an outcome adds up to what the triple has. -/
structure Splits (blocks : List (String × OutcomeTriple)) (whole : OutcomeTriple) : Prop where
  nodup : (blocks.map Prod.fst).Nodup
  sum : ∀ outcome, (blocks.map (fun b => b.2.count outcome)).sum = whole.count outcome

/-- **A report covers the labels.** -/
structure Covers (result : ScoreResult) (labels : Labels) : Prop where
  overall : result.overall.accuracy + result.overall.confusion + result.overall.unknown
    = decidableCount labels
  byLength : Splits result.byRegionLengthMs result.overall
  byConcurrency : Splits result.byEstimatedConcurrentSpeakers result.overall

/-! ## Triples -/

theorem count_outcomeTriple (rows : List ScoreRow) (outcome : Outcome) :
    (outcomeTriple rows).count outcome = rows.countP (fun r => r.outcome = outcome) := by
  cases outcome <;> rfl

/-- **A triple adds up to its rows.** -/
theorem outcomeTriple_sum (rows : List ScoreRow) :
    (outcomeTriple rows).accuracy + (outcomeTriple rows).confusion + (outcomeTriple rows).unknown
      = rows.length := by
  have hsum := sum_countP_class_of_forall_mem ScoreRow.outcome
    (show [Outcome.accuracy, .confusion, .unknown].Nodup by decide)
    (fun outcome => by cases outcome <;> simp) rows
  simpa [outcomeTriple, Nat.add_assoc] using hsum

/-- **Blocks of the rows split them exactly when every row has a block.** -/
theorem splits_iff {β : Type} [DecidableEq β] (classOf : ScoreRow → β) {classes : List β}
    (nameOf : β → String) (h : classes.Nodup) (hname : (classes.map nameOf).Nodup)
    (rows : List ScoreRow) :
    Splits (classes.map (fun c => (nameOf c, outcomeTriple (rows.filter (fun r => classOf r = c)))))
        (outcomeTriple rows)
      ↔ ∀ r ∈ rows, classOf r ∈ classes := by
  rw [← sum_classCount_eq_iff classOf ScoreRow.outcome h rows]
  have hcount : ∀ outcome,
      ((classes.map (fun c =>
          (nameOf c, outcomeTriple (rows.filter (fun r => classOf r = c))))).map
        (fun b => b.2.count outcome)).sum
        = (classes.map (fun c => classCount classOf ScoreRow.outcome rows c outcome)).sum := by
    intro outcome
    rw [List.map_map]
    exact congrArg List.sum
      (List.map_congr_left (fun c _ => count_outcomeTriple _ outcome))
  constructor
  · intro hsplits outcome
    rw [← hcount, hsplits.sum, count_outcomeTriple]
  · intro hsum
    refine ⟨?_, fun outcome => ?_⟩
    · rw [List.map_map]
      exact hname
    · rw [hcount, hsum, count_outcomeTriple]

/-! ## The blocks of a report -/

theorem nodup_bucketNames : (BUCKETS.map bucketName).Nodup := by decide +kernel

/-- **A length has a bucket** from zero on, up to twelve days. -/
theorem bucketOf_mem_iff {durationMs : ℤ} :
    bucketOf durationMs ∈ BUCKETS.map bucketName ↔ 0 ≤ durationMs ∧ durationMs < 2 ^ 30 := by
  have hbuckets : (∃ b ∈ BUCKETS, b.1 ≤ durationMs ∧ durationMs < b.2)
      ↔ 0 ≤ durationMs ∧ durationMs < 2 ^ 30 := by
    simp only [BUCKETS, List.mem_cons, List.not_mem_nil, or_false, exists_eq_or_imp,
      exists_eq_left]
    omega
  rw [← hbuckets]
  unfold bucketOf
  constructor
  · intro hmem
    by_contra hnone
    have hfind : BUCKETS.find? (fun b => b.1 ≤ durationMs ∧ durationMs < b.2) = none := by
      simpa using hnone
    rw [hfind] at hmem
    exact absurd hmem (by decide +kernel)
  · rintro ⟨b, hb, hrange⟩
    have hsome : (BUCKETS.find? (fun b => b.1 ≤ durationMs ∧ durationMs < b.2)).isSome :=
      List.find?_isSome.mpr ⟨b, hb, by simpa using hrange⟩
    obtain ⟨found, hfound⟩ := Option.isSome_iff_exists.mp hsome
    rw [hfound]
    exact List.mem_map_of_mem (List.mem_of_find?_eq_some hfound)

/-- `str(value)` tells the value. -/
theorem concurrentName_inj :
    Function.Injective (fun value : Option ℤ => value.elim "None" toString) := by
  have hnone : ∀ n : ℤ, toString n ≠ "None" := by
    intro n h
    have hmem : 'N' ∈ (toString n).toList := by
      rw [h]
      decide
    exact absurd (isDigit_or_sign_of_mem_toString hmem) (by decide)
  intro a b h
  cases a with
  | none =>
    cases b with
    | none => rfl
    | some n => exact absurd h.symm (hnone n)
  | some m =>
    cases b with
    | none => exact absurd h (hnone m)
    | some n => exact congrArg some (toString_int_inj h)

/-- **The blocks by length** split the rows if every row has a bucket. -/
theorem splits_byLength_iff :
    Splits (score segments labels mapping).byRegionLengthMs
        (score segments labels mapping).overall
      ↔ ∀ item ∈ decidableItems segments labels,
        0 ≤ item.1.endMs - item.1.startMs ∧ item.1.endMs - item.1.startMs < 2 ^ 30 := by
  have hsplits := splits_iff ScoreRow.bucket id nodup_bucketNames
    (by rw [List.map_id]; exact nodup_bucketNames)
    ((decidableItems segments labels).map (scoreRow mapping))
  rw [List.map_map] at hsplits
  refine hsplits.trans ?_
  rw [List.forall_mem_map]
  exact forall₂_congr (fun _ _ => bucketOf_mem_iff)

/-- **The blocks by number of speakers** always do. -/
theorem splits_byConcurrency :
    Splits (score segments labels mapping).byEstimatedConcurrentSpeakers
      (score segments labels mapping).overall := by
  have hnodup : (((((decidableItems segments labels).map (scoreRow mapping)).map
      ScoreRow.concurrent).dedup).insertionSort (fun a b => concurrentLe a b)).Nodup :=
    ((List.perm_insertionSort _ _).nodup_iff).mpr (List.nodup_dedup _)
  refine (splits_iff ScoreRow.concurrent (fun value => value.elim "None" toString) hnodup
    (hnodup.map concurrentName_inj) _).mpr (fun r hr => ?_)
  rw [List.mem_insertionSort, List.mem_dedup]
  exact List.mem_map_of_mem hr

/-! ## The labels of a report -/

/-- **Different segments match different labels.** -/
theorem matchesOnce_of_nodup (h : ((overlapOnly segments).map RunSegment.key).Nodup) :
    MatchesOnce labels segments := by
  have hsub : ∀ overlaps : List RunSegment,
      ((overlaps.filterMap fun s =>
        (labels.entries.lookup s.key).map (fun truth => (s, truth))).map
          (fun item => item.1.key)).Sublist (overlaps.map RunSegment.key) := by
    intro overlaps
    induction overlaps with
    | nil => exact List.Sublist.slnil
    | cons s overlaps ih =>
      cases hlookup : labels.entries.lookup s.key with
      | none =>
        rw [List.filterMap_cons_none (by rw [hlookup]; rfl)]
        exact ih.cons _
      | some truth =>
        rw [List.filterMap_cons_some (by rw [hlookup]; rfl)]
        exact ih.cons_cons _
  exact h.sublist ((List.filter_sublist.map _).trans (hsub (overlapOnly segments)))

/-- **A report counts as many labels as it matches.** -/
theorem overall_sum (mapping : List (String × String))
    (h : ((overlapOnly segments).map RunSegment.key).Nodup) :
    (score segments labels mapping).overall.accuracy
        + (score segments labels mapping).overall.confusion
        + (score segments labels mapping).overall.unknown
      = matchCount labels segments := by
  refine (outcomeTriple_sum _).trans ?_
  rw [List.length_map, length_decidableItems (matchesOnce_of_nodup h)]

/-- All labels are matched if each is. -/
theorem matchCount_eq_iff :
    matchCount labels segments = decidableCount labels
      ↔ ∀ e ∈ labels.entries, IsDecidable e.2 → ∃ s ∈ overlapOnly segments, s.key = e.1 := by
  have hmatch : matchCount labels segments
      = (labels.entries.filter (fun e => IsDecidable e.2)).countP
        (fun e => ∃ s ∈ overlapOnly segments, s.key = e.1) := by
    simp [matchCount, List.countP_filter, Bool.and_comm]
  have hcount : decidableCount labels
      = (labels.entries.filter (fun e => IsDecidable e.2)).length := List.countP_eq_length_filter
  rw [hmatch, hcount, List.countP_eq_length]
  simp only [List.mem_filter, decide_eq_true_iff, and_imp]

/-- **A report covers the labels exactly when every label that says who spoke has
a segment, and a span with a bucket.** -/
theorem score_covers_iff (h : ((overlapOnly segments).map RunSegment.key).Nodup) :
    Covers (score segments labels mapping) labels
      ↔ ∀ e ∈ labels.entries, IsDecidable e.2 →
        (∃ s ∈ overlapOnly segments, s.key = e.1)
          ∧ 0 ≤ e.1.2.1 - e.1.1 ∧ e.1.2.1 - e.1.1 < 2 ^ 30 := by
  have hcovers : Covers (score segments labels mapping) labels
      ↔ matchCount labels segments = decidableCount labels
        ∧ Splits (score segments labels mapping).byRegionLengthMs
          (score segments labels mapping).overall := by
    rw [← overall_sum mapping h]
    exact ⟨fun hc => ⟨hc.overall, hc.byLength⟩, fun hc => ⟨hc.1, hc.2, splits_byConcurrency⟩⟩
  rw [hcovers, matchCount_eq_iff, splits_byLength_iff]
  constructor
  · rintro ⟨hmatched, hlength⟩ e he hdecidable
    obtain ⟨s, hs, hkey⟩ := hmatched e he hdecidable
    have hitem : (s, e.2) ∈ decidableItems segments labels :=
      mem_decidableItems.mpr ⟨hs, hkey ▸ he, hdecidable⟩
    refine ⟨⟨s, hs, hkey⟩, ?_⟩
    rw [← hkey]
    exact hlength _ hitem
  · intro hall
    refine ⟨fun e he hdecidable => (hall e he hdecidable).1, fun item hitem => ?_⟩
    obtain ⟨-, hentry, hdecidable⟩ := mem_decidableItems.mp hitem
    exact (hall _ hentry hdecidable).2

/-- A region on no track, and the same one on the first. -/
def twoTracks : List RunSegment :=
  [{ startMs := 1000, endMs := 3000, isOverlap := true, speakerLabel := some "Speaker 1" },
    { startMs := 1000, endMs := 3000, sourceTrack := some 0, isOverlap := true,
      speakerLabel := some "Unknown" }]

/-- Their labels. -/
def twoTrackLabels : Labels := loadLabels [
  { startMs := 1000, endMs := 3000, speaker := "Speaker 1" },
  { startMs := 1000, endMs := 3000, sourceTrack := some 0, speaker := "Speaker 2" }]

theorem twoTracks_covers : Covers (score twoTracks twoTrackLabels []) twoTrackLabels :=
  (score_covers_iff (by decide)).mpr (by decide +kernel)

/-- A run whose second region ends a tenth of a second before that of a label. -/
def shorterRegion : List RunSegment :=
  [{ startMs := 1000, endMs := 3000, sourceTrack := some 0, isOverlap := true,
      speakerLabel := some "Speaker 1" },
    { startMs := 5000, endMs := 5900, sourceTrack := some 0, isOverlap := true,
      speakerLabel := some "Speaker 1" }]

/-- The label of the longer one. -/
def longerRegionLabels : Labels := loadLabels [
  { startMs := 1000, endMs := 3000, sourceTrack := some 0, speaker := "Speaker 1" },
  { startMs := 5000, endMs := 6000, sourceTrack := some 0, speaker := "Speaker 2" }]

/-- **A label without a segment is in none of the three.** -/
theorem shorterRegion_not_covers :
    ((overlapOnly shorterRegion).map RunSegment.key).Nodup
      ∧ ¬ Covers (score shorterRegion longerRegionLabels []) longerRegionLabels :=
  ⟨by decide, fun hcovers => absurd hcovers.overall (by decide +kernel)⟩

end Sastt.OverlapEval
