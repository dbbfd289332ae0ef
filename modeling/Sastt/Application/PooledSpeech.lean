import Mathlib.Data.Finset.Sort
import Mathlib.Order.Interval.Finset.Nat
import Sastt.Application.PipelineStages
import Sastt.Application.Stretches
import Sastt.Domain.Cropping

/-!
# The speech a language is heard in

The language of a session is identified from speech that is pooled: pieces of it are joined,
without what lies between them, until there is as much as is wanted. The pieces are cut to the
buffer and merged first, so what is pooled are the first milliseconds of the set of those in
which there is speech, and of each its samples, once (`poolSpeech_exact`).

Where the buffer lasts a millisecond, every piece has a sample, and nothing is raised.
-/

namespace Sastt

open TimeInterval

variable {S : Type}

namespace AudioBuffer

/-- The samples with an absolute index from `start` to `stop`. -/
def between (b : AudioBuffer S) (start stop : ℕ) : List S :=
  (b.samples.take (stop - b.startSample)).drop (start - b.startSample)

/-- **The samples of a millisecond.** -/
def samplesOfMs (b : AudioBuffer S) (ms : ℕ) : List S :=
  b.between (msToSamples ms b.sampleRate) (msToSamples (ms + 1) b.sampleRate)

variable {b : AudioBuffer S} {i : TimeInterval} {m n k : ℕ}

/-- What lies between two indices is cut in two at one in the middle. -/
theorem between_append (hmn : m ≤ n) (hnk : n ≤ k) :
    b.between m n ++ b.between n k = b.between m k := by
  unfold between
  generalize hx : b.samples.take (k - b.startSample) = x
  have htake : b.samples.take (n - b.startSample) = x.take (n - b.startSample) := by
    rw [← hx, List.take_take, min_eq_left (by omega)]
  rw [htake]
  have hdrop : x.drop (n - b.startSample)
      = (x.drop (m - b.startSample)).drop ((n - b.startSample) - (m - b.startSample)) := by
    rw [List.drop_drop]
    congr 1
    omega
  rw [List.drop_take, hdrop, List.take_append_drop]

theorem between_self (b : AudioBuffer S) (m : ℕ) : b.between m m = [] := by
  unfold between
  rw [List.drop_eq_nil_iff, List.length_take]
  exact min_le_left _ _

/-- The samples of successive milliseconds lie between the first and the last. -/
theorem flatMap_samplesOfMs (b : AudioBuffer S) (ms count : ℕ) :
    (List.range' ms count).flatMap b.samplesOfMs
      = b.between (msToSamples ms b.sampleRate) (msToSamples (ms + count) b.sampleRate) := by
  induction count generalizing ms with
  | zero => exact (b.between_self _).symm
  | succ count ih =>
    rw [List.range'_succ, List.flatMap_cons, ih, samplesOfMs, between_append
      (msToSamples_mono _ (Nat.le_succ ms)) (msToSamples_mono _ (by omega)),
      Nat.add_right_comm, Nat.add_assoc]

/-- **A crop holds the samples of its milliseconds.** -/
theorem cropMs_samples (hrate : 1000 ≤ b.sampleRate) (hstart : b.startMs ≤ i.startMs)
    (hend : i.endMs ≤ b.endMs) : ∃ c, b.cropMs i = .ok c ∧ c.sampleRate = b.sampleRate
      ∧ c.samples = (List.range' i.startMs i.durationMs).flatMap b.samplesOfMs := by
  obtain ⟨-, -, hlt⟩ := crop_bounds hrate hstart hend
  obtain ⟨c, hcrop, hrate', -, hsamples⟩ := cropMs_of_lt hlt
  refine ⟨c, hcrop, hrate', ?_⟩
  have hstop : i.startMs + i.durationMs = i.endMs := Nat.add_sub_cancel' i.start_lt_end.le
  rw [flatMap_samplesOfMs, hstop, hsamples, between, List.drop_take]
  have hfrom : b.cropStart i - b.startSample
      = msToSamples i.startMs b.sampleRate - b.startSample := by
    unfold cropStart
    omega
  rw [hfrom, List.take_eq_take_iff, List.length_drop]
  unfold cropStart cropStop endSample numSamples at hlt ⊢
  omega

/-- A buffer that lasts a millisecond contains one. -/
theorem startMs_lt_endMs (h : b.sampleRate ≤ MS_PER_SECOND * b.numSamples) :
    b.startMs < b.endMs := by
  unfold startMs endMs samplesToMs endSample
  rw [Nat.lt_iff_add_one_le, ← Nat.add_div_right _ b.rate_pos]
  refine Nat.div_le_div_right ?_
  rw [Nat.add_mul, Nat.mul_comm b.numSamples]
  omega

end AudioBuffer

open AudioBuffer

/-! ## The milliseconds of speech -/

/-- The milliseconds of an interval that are in the buffer. -/
def msInside (b : AudioBuffer S) (i : TimeInterval) : List ℕ :=
  match i.clamp b.interval with
  | none => []
  | some clipped => List.range' clipped.startMs clipped.durationMs

/-- **The milliseconds in the buffer in which there is speech.** -/
def speechMs (b : AudioBuffer S) (speech : List TimeInterval) : Finset ℕ :=
  (Finset.Ico b.interval.startMs b.interval.endMs).filter
    (fun m => speech.any (fun i => i.contains m))

variable {b mono : AudioBuffer S} {i : TimeInterval} {speech l : List TimeInterval}
  {m targetMs pooledMs : ℕ}

@[simp] theorem mem_msInside : m ∈ msInside b i ↔ b.interval.contains m = true
    ∧ i.contains m = true := by
  unfold msInside
  rw [contains_iff, contains_iff]
  split
  · next hnone =>
    have hsep := clamp_eq_none_iff.mp hnone
    unfold Separate at hsep
    simp only [List.not_mem_nil, false_iff]
    omega
  · next clipped hsome =>
    obtain ⟨hstart, hend⟩ := clamp_eq_some_iff.mp hsome
    rw [List.mem_range'_1]
    unfold TimeInterval.durationMs
    omega

theorem msInside_pairwise (b : AudioBuffer S) (i : TimeInterval) :
    (msInside b i).Pairwise (· < ·) := by
  unfold msInside
  split
  · exact List.Pairwise.nil
  · exact List.pairwise_lt_range'

/-- **The milliseconds of merged intervals are those of the speech**, in order. -/
theorem sort_speechMs (b : AudioBuffer S) (speech : List TimeInterval) :
    (speechMs b speech).sort (· ≤ ·) = (mergeIntervals speech 0).flatMap (msInside b) := by
  have hsorted : ((mergeIntervals speech 0).flatMap (msInside b)).Pairwise (· < ·) := by
    refine List.pairwise_flatMap.mpr ⟨fun i _ => msInside_pairwise b i,
      (mergeIntervals_pairwise speech 0).imp (fun hlt m hm n hn => ?_)⟩
    rw [mem_msInside, contains_iff, contains_iff] at hm hn
    omega
  have hset : speechMs b speech
      = ((mergeIntervals speech 0).flatMap (msInside b)).toFinset := by
    ext m
    have hmerged : (∃ i ∈ mergeIntervals speech 0, i.contains m = true)
        ↔ ∃ i ∈ speech, i.contains m = true := covered_mergeIntervals_iff
    simp only [speechMs, Finset.mem_filter, Finset.mem_Ico, List.any_eq_true, List.mem_toFinset,
      List.mem_flatMap, mem_msInside, ← contains_iff, ← hmerged]
    constructor
    · rintro ⟨hin, i, hi, hm⟩
      exact ⟨i, hi, hin, hm⟩
    · rintro ⟨i, hi, hin, hm⟩
      exact ⟨hin, i, hi, hm⟩
  rw [hset]
  exact (List.toFinset_sort (r := (· ≤ ·)) (hsorted.imp (fun h => h.ne))).mpr
    (hsorted.imp le_of_lt)

/-! ## The loop -/

/-- The first milliseconds of what is in the buffer are cropped. -/
theorem exists_crop {clipped : TimeInterval} {take : ℕ} (hrate : 1000 ≤ mono.sampleRate)
    (hlength : mono.sampleRate ≤ MS_PER_SECOND * mono.numSamples)
    (hclip : i.clamp mono.interval = some clipped) (hpos : 0 < take)
    (hle : take ≤ clipped.durationMs) :
    ∃ window crop, TimeInterval.new clipped.startMs (clipped.startMs + take) = .ok window
      ∧ mono.cropMs window = .ok crop
      ∧ crop.samples = (List.range' clipped.startMs take).flatMap mono.samplesOfMs := by
  obtain ⟨hstart, hend⟩ := clamp_eq_some_iff.mp hclip
  have hwindow : clipped.startMs < clipped.startMs + take := Nat.lt_add_of_pos_right hpos
  have hfrom : mono.startMs ≤ clipped.startMs := hstart ▸ le_max_right _ _
  have hto : clipped.startMs + take ≤ mono.endMs := by
    have hbuffer := startMs_lt_endMs hlength
    have hbound : mono.interval.endMs = max mono.endMs (mono.startMs + 1) := rfl
    have hlong : clipped.durationMs = clipped.endMs - clipped.startMs := rfl
    omega
  obtain ⟨crop, hcrop, -, hsamples⟩ :=
    cropMs_samples (i := ⟨clipped.startMs, clipped.startMs + take, hwindow⟩) hrate hfrom hto
  rw [show TimeInterval.durationMs ⟨clipped.startMs, clipped.startMs + take, hwindow⟩ = take
    from Nat.add_sub_cancel_left _ _] at hsamples
  exact ⟨_, crop, new_of_lt hwindow, hcrop, hsamples⟩

/-- **The pieces hold the first milliseconds, up to the target.** -/
theorem poolPieces_spec (hrate : 1000 ≤ mono.sampleRate)
    (hlength : mono.sampleRate ≤ MS_PER_SECOND * mono.numSamples) (hmore : pooledMs < targetMs) :
    ∃ crops totalMs, poolPieces mono targetMs l pooledMs = .ok (crops, totalMs)
      ∧ crops.flatMap AudioBuffer.samples = ((l.flatMap (msInside mono)).take
          (targetMs - pooledMs)).flatMap mono.samplesOfMs
      ∧ totalMs = pooledMs + min (targetMs - pooledMs) (l.flatMap (msInside mono)).length
      ∧ (crops = [] ↔ l.flatMap (msInside mono) = []) := by
  induction l generalizing pooledMs with
  | nil => exact ⟨[], pooledMs, rfl, by simp, by simp, by simp⟩
  | cons i rest ih =>
    unfold poolPieces
    rw [List.flatMap_cons]
    cases hclip : i.clamp mono.interval with
    | none =>
      rw [show msInside mono i = [] by rw [msInside, hclip], List.nil_append]
      exact ih hmore
    | some clipped =>
      rw [show msInside mono i = List.range' clipped.startMs clipped.durationMs by
        rw [msInside, hclip]]
      dsimp only
      have hlong : 0 < clipped.durationMs := Nat.sub_pos_of_lt clipped.start_lt_end
      have hne : List.range' clipped.startMs clipped.durationMs
          ++ rest.flatMap (msInside mono) ≠ [] := by
        simp [List.range'_eq_nil_iff, hlong.ne']
      generalize htake : min clipped.durationMs (targetMs - pooledMs) = take
      have hpositive : 0 < take := by omega
      obtain ⟨window, crop, hwindow, hcrop, hsamples⟩ :=
        exists_crop hrate hlength hclip hpositive (htake ▸ min_le_left _ _)
      rw [if_neg hpositive.ne', hwindow]
      show ∃ crops totalMs, (mono.cropMs window >>= fun crop => _) = _ ∧ _
      rw [hcrop]
      by_cases hfull : targetMs ≤ pooledMs + take
      · have hrest : take = targetMs - pooledMs := by omega
        refine ⟨[crop], pooledMs + take, if_pos hfull, ?_, ?_, by simp [hne]⟩
        · rw [List.flatMap_singleton, hsamples, ← hrest, List.take_append_of_le_length,
            List.take_range'_of_length_ge (htake ▸ min_le_left _ _)]
          rw [List.length_range']
          exact htake ▸ min_le_left _ _
        · rw [List.length_append, List.length_range']
          omega
      · obtain ⟨crops, totalMs, hrest, hcrops, htotal, -⟩ := ih (not_le.mp hfull)
        have hwhole : take = clipped.durationMs := by omega
        refine ⟨crop :: crops, totalMs, ?_, ?_, ?_, by simp [hne]⟩
        · show (if targetMs ≤ pooledMs + take then _ else poolPieces mono targetMs rest
            (pooledMs + take) >>= fun r => pure (crop :: r.1, r.2)) = _
          rw [if_neg hfull, hrest]
          rfl
        · rw [List.flatMap_cons, hsamples, hcrops, List.take_append, List.flatMap_append, hwhole,
            List.take_range'_of_length_le (by omega), List.length_range', Nat.sub_sub]
        · rw [htotal, List.length_append, List.length_range', hwhole]
          omega

/-- **Language pooling takes the first speech, each piece once.** Unless it is less than half of
what is wanted, what is pooled are the samples of the first milliseconds of speech. -/
theorem poolSpeech_exact (mono : AudioBuffer S) (speech : List TimeInterval) (targetMs : ℕ)
    (hrate : 1000 ≤ mono.sampleRate)
    (hlength : mono.sampleRate ≤ MS_PER_SECOND * mono.numSamples) (htarget : 1 ≤ targetMs) :
    ∃ r, poolSpeech mono speech targetMs = .ok r
      ∧ (r = none ↔ min targetMs (speechMs mono speech).card = 0
        ∨ min targetMs (speechMs mono speech).card < targetMs / 2)
      ∧ ∀ pooled, r = some pooled → pooled.sampleRate = mono.sampleRate
        ∧ pooled.samples = (((speechMs mono speech).sort (· ≤ ·)).take
            (min targetMs (speechMs mono speech).card)).flatMap mono.samplesOfMs := by
  obtain ⟨crops, totalMs, hpieces, hsamples, htotal, hnone⟩ :=
    poolPieces_spec (l := mergeIntervals speech 0) hrate hlength htarget
  rw [← sort_speechMs, Finset.length_sort, Nat.sub_zero, Nat.zero_add] at htotal
  rw [← sort_speechMs, Nat.sub_zero] at hsamples
  rw [← sort_speechMs] at hnone
  have htake : ((speechMs mono speech).sort (· ≤ ·)).take
      (min targetMs (speechMs mono speech).card)
        = ((speechMs mono speech).sort (· ≤ ·)).take targetMs := by
    rw [List.take_eq_take_iff, Finset.length_sort, min_assoc, min_self]
  unfold poolSpeech
  rw [hpieces]
  cases crops with
  | nil =>
    refine ⟨none, rfl, iff_of_true rfl (Or.inl ?_), nofun⟩
    rw [← Finset.length_sort (· ≤ ·), hnone.mp rfl, List.length_nil, Nat.min_zero]
  | cons first rest =>
    have hsome : (speechMs mono speech).card ≠ 0 := fun hzero => by
      rw [← Finset.length_sort (· ≤ ·), List.length_eq_zero_iff] at hzero
      exact List.cons_ne_nil _ _ (hnone.mpr hzero)
    by_cases hlittle : totalMs < targetMs / 2
    · exact ⟨none, if_pos hlittle, iff_of_true rfl (Or.inr (htotal ▸ hlittle)), nofun⟩
    · have hne : (first :: rest).flatMap AudioBuffer.samples ≠ [] := by
        rw [List.flatMap_cons]
        exact List.append_ne_nil_of_left_ne_nil first.samples_ne_nil _
      refine ⟨some ⟨_, mono.sampleRate, first.startSample, hne, mono.rate_pos⟩, ?_,
        iff_of_false nofun ?_, ?_⟩
      · show (if totalMs < targetMs / 2 then _ else
          AudioBuffer.new ((first :: rest).flatMap AudioBuffer.samples) mono.sampleRate
            first.startSample >>= fun b => pure (some b)) = _
        rw [if_neg hlittle, AudioBuffer.new, dif_pos hne, dif_pos mono.rate_pos]
        rfl
      · rw [← htotal]
        omega
      · rintro pooled ⟨⟩
        exact ⟨rfl, hsamples.trans (by rw [htake])⟩

/-- Ten samples, one in each millisecond from the fifth on. -/
def tenSamples : AudioBuffer ℕ := ⟨List.range 10, 1000, 5, by decide, MS_PER_SECOND_pos⟩

/-- Of speech that begins before the buffer and ends after it, the first four milliseconds are
pooled, though it is given in the wrong order. -/
theorem poolSpeech_exact_tenSamples : ∃ pooled,
    poolSpeech tenSamples [⟨8, 20, by decide⟩, ⟨2, 7, by decide⟩] 4 = .ok (some pooled)
      ∧ pooled.samples = [0, 1, 3, 4] := by
  obtain ⟨r, hr, hnone, hpooled⟩ := poolSpeech_exact tenSamples
    [⟨8, 20, by decide⟩, ⟨2, 7, by decide⟩] 4 (by decide) (by decide) (by decide)
  have hcard : (speechMs tenSamples [⟨8, 20, by decide⟩, ⟨2, 7, by decide⟩]).card = 9 := by
    decide +kernel
  rw [hcard] at hnone hpooled
  cases r with
  | none => exact absurd (hnone.mp rfl) (by decide)
  | some pooled =>
    refine ⟨pooled, hr, (hpooled pooled rfl).2.trans ?_⟩
    rw [sort_speechMs]
    decide +kernel

end Sastt
