import Mathlib.Order.Monotone.Defs
import Sastt.Domain.Audio

/-!
# Cropping by absolute time

Milliseconds are turned into sample indices and back with a rounding in either
direction. From a thousand samples a second on a millisecond survives the round
trip (`samplesToMs_msToSamples`), so an interval inside a buffer is cropped to
exactly that interval, also where the buffer starts between two milliseconds
and the crop is clipped to it. A crop knows where it is, so a crop of a crop is
a crop of the buffer (`AudioBuffer.cropMs_exact`).

A sample may be a frame of several channels: cropping takes whole frames.
-/

namespace Sastt

/-! ## Rounding -/

section Rounding

variable {rate : ℕ}

theorem msToSamples_mono (rate : ℕ) : Monotone (fun ms => msToSamples ms rate) := fun _ _ h =>
  Nat.div_le_div_right (Nat.add_le_add_right (Nat.mul_le_mul_right rate h) _)

theorem samplesToMs_mono (rate : ℕ) : Monotone (fun index => samplesToMs index rate) := fun _ _ h =>
  Nat.div_le_div_right (Nat.add_le_add_right (Nat.mul_le_mul_right MS_PER_SECOND h) _)

/-- **A millisecond survives the round trip** at a thousand samples a second
or more. -/
theorem samplesToMs_msToSamples (hrate : 1000 ≤ rate) (ms : ℕ) :
    samplesToMs (msToSamples ms rate) rate = ms := by
  unfold samplesToMs msToSamples MS_PER_SECOND
  rcases hrate.eq_or_lt with rfl | hrate
  · omega
  · generalize hx : ms * rate = x
    refine Nat.div_eq_of_lt_le ?_ ?_
    · rw [hx]
      omega
    · rw [Nat.succ_mul, hx]
      omega

end Rounding

namespace AudioBuffer

variable {S : Type} {b : AudioBuffer S} {i j : TimeInterval}

/-- The sample with that absolute index. -/
def sampleAt (b : AudioBuffer S) (index : ℕ) : Option S :=
  if b.startSample ≤ index then b.samples[index - b.startSample]? else none

/-- Where a crop starts. -/
def cropStart (b : AudioBuffer S) (i : TimeInterval) : ℕ :=
  max (msToSamples i.startMs b.sampleRate) b.startSample

/-- Where it ends. -/
def cropStop (b : AudioBuffer S) (i : TimeInterval) : ℕ :=
  min (msToSamples i.endMs b.sampleRate) b.endSample

theorem cropStop_le (b : AudioBuffer S) (i : TimeInterval) : b.cropStop i ≤ b.endSample :=
  min_le_right _ _

theorem le_cropStart (b : AudioBuffer S) (i : TimeInterval) : b.startSample ≤ b.cropStart i :=
  le_max_right _ _

/-- **A crop that is not empty.** -/
theorem cropMs_of_lt (h : b.cropStart i < b.cropStop i) :
    ∃ c, b.cropMs i = .ok c ∧ c.sampleRate = b.sampleRate ∧ c.startSample = b.cropStart i
      ∧ c.samples = (b.samples.drop (b.cropStart i - b.startSample)).take
          (b.cropStop i - b.cropStart i) := by
  have hstart := b.le_cropStart i
  have hstop := b.cropStop_le i
  have hne : (b.samples.drop (b.cropStart i - b.startSample)).take
      (b.cropStop i - b.cropStart i) ≠ [] := by
    rw [← List.length_pos_iff_ne_nil, List.length_take, List.length_drop]
    unfold endSample numSamples at hstop
    omega
  refine ⟨⟨_, b.sampleRate, b.cropStart i, hne, b.rate_pos⟩, ?_, rfl, rfl, rfl⟩
  unfold cropMs
  show (if b.cropStop i ≤ b.cropStart i then _ else new _ _ _) = _
  rw [if_neg (not_le.mpr h)]
  unfold new
  exact (dif_pos hne).trans (dif_pos b.rate_pos)

/-- Its end. -/
theorem endSample_of_crop {c : AudioBuffer S} (h : b.cropStart i < b.cropStop i)
    (hstart : c.startSample = b.cropStart i)
    (hsamples : c.samples = (b.samples.drop (b.cropStart i - b.startSample)).take
      (b.cropStop i - b.cropStart i)) : c.endSample = b.cropStop i := by
  have hle := b.le_cropStart i
  have hstop := b.cropStop_le i
  unfold endSample numSamples at hstop ⊢
  rw [hstart, hsamples, List.length_take, List.length_drop]
  omega

/-- **The samples of a crop** are those of the buffer with an index in
between. -/
theorem sampleAt_of_crop {c : AudioBuffer S} (hstart : c.startSample = b.cropStart i)
    (hsamples : c.samples = (b.samples.drop (b.cropStart i - b.startSample)).take
      (b.cropStop i - b.cropStart i)) (index : ℕ) :
    c.sampleAt index = if b.cropStart i ≤ index ∧ index < b.cropStop i then b.sampleAt index
      else none := by
  have hle := b.le_cropStart i
  unfold sampleAt
  rw [hstart, hsamples]
  by_cases hfrom : b.cropStart i ≤ index
  · rw [if_pos hfrom, if_pos (hle.trans hfrom), List.getElem?_take, List.getElem?_drop,
      show b.cropStart i - b.startSample + (index - b.cropStart i) = index - b.startSample by omega]
    by_cases hto : index < b.cropStop i
    · rw [if_pos (by omega), if_pos ⟨hfrom, hto⟩]
    · rw [if_neg (by omega), if_neg (fun h => hto h.2)]
  · rw [if_neg hfrom, if_neg (fun h => hfrom h.1)]

/-- Outside the buffer there is no sample, so clipping to it changes
nothing. -/
theorem ite_cropStart (b : AudioBuffer S) (i : TimeInterval) (index : ℕ) :
    (if b.cropStart i ≤ index ∧ index < b.cropStop i then b.sampleAt index else none)
      = if msToSamples i.startMs b.sampleRate ≤ index ∧ index < msToSamples i.endMs b.sampleRate
        then b.sampleAt index else none := by
  by_cases hin : b.startSample ≤ index ∧ index < b.endSample
  · unfold cropStart cropStop
    simp only [max_le_iff, lt_min_iff, hin.1, hin.2, and_true]
  · have hnone : b.sampleAt index = none := by
      unfold sampleAt
      split
      · next hfrom =>
        refine List.getElem?_eq_none ?_
        have hafter : b.endSample ≤ index := not_lt.mp (fun h => hin ⟨hfrom, h⟩)
        unfold endSample numSamples at hafter
        omega
      · rfl
    rw [hnone, ite_self, ite_self]

/-- **An interval inside a buffer** is cropped to exactly that interval. -/
theorem crop_bounds (hrate : 1000 ≤ b.sampleRate) (hstart : b.startMs ≤ i.startMs)
    (hend : i.endMs ≤ b.endMs) :
    samplesToMs (b.cropStart i) b.sampleRate = i.startMs
      ∧ samplesToMs (b.cropStop i) b.sampleRate = i.endMs ∧ b.cropStart i < b.cropStop i := by
  have hfirst : samplesToMs (b.cropStart i) b.sampleRate = i.startMs := by
    unfold cropStart
    rw [(samplesToMs_mono b.sampleRate).map_max, samplesToMs_msToSamples hrate]
    exact max_eq_left hstart
  have hlast : samplesToMs (b.cropStop i) b.sampleRate = i.endMs := by
    unfold cropStop
    rw [(samplesToMs_mono b.sampleRate).map_min, samplesToMs_msToSamples hrate]
    exact min_eq_left hend
  refine ⟨hfirst, hlast, ?_⟩
  by_contra hle
  have hback := samplesToMs_mono b.sampleRate (not_lt.mp hle)
  dsimp only at hback
  rw [hfirst, hlast] at hback
  exact absurd i.start_lt_end (not_lt.mpr hback)

/-- **A crop of a crop is a crop of the buffer.** -/
theorem cropMs_of_inside {c : AudioBuffer S} (hrate : c.sampleRate = b.sampleRate)
    (hstart : c.startSample = b.cropStart i) (hend : c.endSample = b.cropStop i)
    (hsamples : c.samples = (b.samples.drop (b.cropStart i - b.startSample)).take
      (b.cropStop i - b.cropStart i))
    (hfrom : i.startMs ≤ j.startMs) (hto : j.endMs ≤ i.endMs) : c.cropMs j = b.cropMs j := by
  have hmono := msToSamples_mono b.sampleRate hfrom
  have hmono' := msToSamples_mono b.sampleRate hto
  dsimp only at hmono hmono'
  have hcropStart : c.cropStart j = b.cropStart j := by
    unfold cropStart at hstart ⊢
    rw [hrate, hstart, ← max_assoc, max_eq_left hmono]
  have hcropStop : c.cropStop j = b.cropStop j := by
    unfold cropStop at hend ⊢
    rw [hrate, hend, ← min_assoc, min_eq_left hmono']
  unfold cropMs
  show (if c.cropStop j ≤ c.cropStart j then _ else new ((c.samples.drop (c.cropStart j
      - c.startSample)).take (c.cropStop j - c.cropStart j)) c.sampleRate (c.cropStart j))
    = if b.cropStop j ≤ b.cropStart j then _ else new ((b.samples.drop (b.cropStart j
      - b.startSample)).take (b.cropStop j - b.cropStart j)) b.sampleRate (b.cropStart j)
  have hslice : (c.samples.drop (b.cropStart j - c.startSample)).take (b.cropStop j - b.cropStart j)
      = (b.samples.drop (b.cropStart j - b.startSample)).take
          (b.cropStop j - b.cropStart j) := by
    have hle := b.le_cropStart i
    have hij : b.cropStart i ≤ b.cropStart j := max_le_max_right _ hmono
    have hji : b.cropStop j ≤ b.cropStop i := min_le_min_right _ hmono'
    rw [hsamples, hstart, List.drop_take, List.drop_drop, List.take_take]
    congr 1
    · omega
    · congr 1
      omega
  rw [hcropStart, hcropStop, hrate, hslice]

/-- **Cropping in milliseconds is exact, and composes**, from a thousand samples
a second on. -/
theorem cropMs_exact {rate : ℕ} (hrate : 1000 ≤ rate) :
    (∀ ms, samplesToMs (msToSamples ms rate) rate = ms)
    ∧ Monotone (fun ms => msToSamples ms rate) ∧ Monotone (fun index => samplesToMs index rate)
    ∧ ∀ b : AudioBuffer S, b.sampleRate = rate → ∀ i : TimeInterval, b.startMs ≤ i.startMs →
      i.endMs ≤ b.endMs → ∃ c, b.cropMs i = .ok c ∧ c.startMs = i.startMs ∧ c.endMs = i.endMs
        ∧ (∀ index, c.sampleAt index
          = if msToSamples i.startMs rate ≤ index ∧ index < msToSamples i.endMs rate
            then b.sampleAt index else none)
        ∧ ∀ j : TimeInterval, i.startMs ≤ j.startMs → j.endMs ≤ i.endMs →
          c.cropMs j = b.cropMs j := by
  refine ⟨samplesToMs_msToSamples hrate, msToSamples_mono rate, samplesToMs_mono rate, ?_⟩
  rintro b rfl i hstart hend
  obtain ⟨hfirst, hlast, hlt⟩ := crop_bounds hrate hstart hend
  obtain ⟨c, hcrop, hrate', hfrom, hsamples⟩ := cropMs_of_lt hlt
  have hstop := endSample_of_crop hlt hfrom hsamples
  refine ⟨c, hcrop, ?_, ?_, fun index => ?_, fun j hij hji =>
    cropMs_of_inside hrate' hfrom hstop hsamples hij hji⟩
  · unfold startMs
    rw [hrate', hfrom, hfirst]
  · unfold endMs
    rw [hrate', hstop, hlast]
  · rw [sampleAt_of_crop hfrom hsamples, ite_cropStart]

/-- At the lowest of these rates. -/
theorem cropMs_exact_thousand :
    (∀ ms, samplesToMs (msToSamples ms 1000) 1000 = ms)
    ∧ Monotone (fun ms => msToSamples ms 1000) ∧ Monotone (fun index => samplesToMs index 1000)
    ∧ ∀ b : AudioBuffer ℕ, b.sampleRate = 1000 → ∀ i : TimeInterval, b.startMs ≤ i.startMs →
      i.endMs ≤ b.endMs → ∃ c, b.cropMs i = .ok c ∧ c.startMs = i.startMs ∧ c.endMs = i.endMs
        ∧ (∀ index, c.sampleAt index
          = if msToSamples i.startMs 1000 ≤ index ∧ index < msToSamples i.endMs 1000
            then b.sampleAt index else none)
        ∧ ∀ j : TimeInterval, i.startMs ≤ j.startMs → j.endMs ≤ i.endMs →
          c.cropMs j = b.cropMs j := cropMs_exact le_rfl

end AudioBuffer

end Sastt
