import Sastt.Application.IntervalSets
import Sastt.Application.SplitCrop
import Sastt.Domain.Cropping

/-!
# Windows and what they own

The sources of a window are cut to the slice the window owns before they are
recognised, so the slice has to lie in the window. The windows start where the
padded crop does and the slices where the region does, and both move on by the
same step: a slice reaches as far beyond its window's start as the context in
front of the region and the step together.

That is within the window exactly when the context is not longer than the
stitch, or when the region ends in the first window anyway
(`slicesHeard_iff`). The two lengths are configured in different places and
nothing compares them. With a longer context the end of each slice is not in
its window and is not recognised (`context_longer_than_stitch`).
-/

namespace Sastt

open TimeInterval

section Loop

variable {padded region : TimeInterval} {maxCropMs stitchMs start ownedStart : ℕ}
  {windows : List (TimeInterval × TimeInterval)}

/-- What one turn emits lies in its window. -/
theorem cropWindow_inside {step : ℕ} (hmax : 0 < maxCropMs) (hstep : 0 < step)
    (hend : region.endMs ≤ padded.endMs) (hstart : start < padded.endMs)
    (hfollows : start ≤ ownedStart ∨ region.endMs ≤ ownedStart)
    (hreach : ownedStart + step ≤ start + maxCropMs ∨ region.endMs ≤ start + maxCropMs) :
    ∃ here, cropWindow padded region maxCropMs step start ownedStart = .ok here
      ∧ ∀ w ∈ here, w.2.Inside w.1 := by
  rcases Nat.lt_or_ge ownedStart region.endMs with h | h
  · obtain ⟨w, hw, hws, hwe, hos, hoe⟩ := cropWindow_of_lt hmax hstep hstart h
    refine ⟨[w], hw, fun w' hw' => ?_⟩
    obtain rfl := List.mem_singleton.mp hw'
    unfold Inside
    omega
  · exact ⟨[], cropWindow_of_le h, nofun⟩

/-- **The loop emits slices that lie in their windows**, if the first does or
would. -/
theorem splitCropLoop_inside (hmax : 0 < maxCropMs) (hend : region.endMs ≤ padded.endMs)
    (hstart : start < padded.endMs) (howned : ownedStart ≤ region.endMs)
    (hfollows : start ≤ ownedStart ∨ region.endMs ≤ ownedStart)
    (hreach : ownedStart + max (maxCropMs - stitchMs) 1 ≤ start + maxCropMs
      ∨ region.endMs ≤ start + maxCropMs) :
    ∃ windows, splitCropLoop padded region maxCropMs stitchMs start ownedStart = .ok windows
      ∧ ∀ w ∈ windows, w.2.Inside w.1 := by
  -- the induction is on what is left of the crop beyond the window's start
  induction hn : padded.endMs - start using Nat.strong_induction_on
    generalizing start ownedStart with
  | _ n ih =>
    have hstep : 0 < max (maxCropMs - stitchMs) 1 := by omega
    obtain ⟨here, hhere, hin⟩ := cropWindow_inside hmax hstep hend hstart hfollows hreach
    rcases Nat.lt_or_ge (start + maxCropMs) padded.endMs with hnext | hlast
    · have hrest : ∃ rest, splitCropLoop padded region maxCropMs stitchMs
          (start + max (maxCropMs - stitchMs) 1)
          (min (ownedStart + max (maxCropMs - stitchMs) 1) region.endMs) = .ok rest
            ∧ ∀ w ∈ rest, w.2.Inside w.1 :=
        ih _ (by omega) (by omega) (by omega) (by omega) (by omega) rfl
      obtain ⟨rest, hrest, hin'⟩ := hrest
      refine ⟨here ++ rest, splitCropLoop_next hnext hhere hrest, fun w hw => ?_⟩
      exact (List.mem_append.mp hw).elim (hin w) (hin' w)
    · exact ⟨here, splitCropLoop_last hstart hlast hhere, hin⟩

/-- **A loop that returns** emits the window it starts with. -/
theorem first_of_splitCropLoop (hstart : start < padded.endMs) (howned : ownedStart < region.endMs)
    (h : splitCropLoop padded region maxCropMs stitchMs start ownedStart = .ok windows) :
    ∃ w ∈ windows, w.1.endMs = min (start + maxCropMs) padded.endMs
      ∧ w.2.endMs = min (ownedStart + max (maxCropMs - stitchMs) 1) region.endMs := by
  obtain ⟨here, rest, rfl, hhere, -⟩ := splitCropLoop_eq_ok hstart h
  unfold cropWindow at hhere
  dsimp only at hhere
  rw [if_pos (by omega), TimeInterval.new, TimeInterval.new] at hhere
  split at hhere
  · split at hhere
    · cases hhere
      exact ⟨_, List.mem_cons_self, rfl, rfl⟩
    · cases hhere
  · cases hhere

end Loop

/-! ## The windows of a region -/

/-- **What a window owns is heard in it**: each owned slice lies in its window,
so that cutting a source of the window to the slice neither fails nor shortens
it, and between the windows no moment of the region is left out. -/
structure SlicesHeard (S : Type) (region : TimeInterval)
    (windows : List (TimeInterval × TimeInterval)) : Prop where
  inside : ∀ w ∈ windows, w.2.Inside w.1
  cut : ∀ w ∈ windows, ∀ source : AudioBuffer S, 1000 ≤ source.sampleRate →
    source.startMs = w.1.startMs → source.endMs = w.1.endMs →
    ∃ crop, source.cropMs w.2 = .ok crop ∧ crop.startMs = w.2.startMs ∧ crop.endMs = w.2.endMs
  unbroken : ∀ m, region.contains m = true → (∃ w ∈ windows, m < w.2.endMs) →
    ∃ w ∈ windows, w.2.contains m = true ∧ w.1.contains m = true

section Windows

variable {S : Type} {padded region : TimeInterval} {maxCropMs stitchMs : ℕ}
  {windows : List (TimeInterval × TimeInterval)}

/-- That each slice lies in its window is all it takes. -/
theorem slicesHeard_of_inside
    (h : splitCrop padded region maxCropMs stitchMs = .ok windows)
    (hin : ∀ w ∈ windows, w.2.Inside w.1) : SlicesHeard S region windows where
  inside := hin
  cut w hw source hrate hstart hend := by
    obtain ⟨-, -, -, hcrop⟩ := AudioBuffer.cropMs_exact (S := S) hrate
    obtain ⟨crop, hok, hfrom, hto, -⟩ := hcrop source rfl w.2 (hstart ▸ (hin w hw).1)
      (hend ▸ (hin w hw).2)
    exact ⟨crop, hok, hfrom, hto⟩
  unbroken m hm hbefore := by
    obtain ⟨stop, -, htiles⟩ := tiles_of_splitCrop h
    obtain ⟨last, hlast, hlt⟩ := hbefore
    have hstop := (htiles.bounds_of_mem (List.mem_map_of_mem hlast)).2
    obtain ⟨x, hx, hxm, hmx⟩ := htiles.exists_mem (contains_iff.mp hm).1 (hlt.trans_le hstop)
    obtain ⟨w, hw, rfl⟩ := List.mem_map.mp hx
    exact ⟨w, hw, contains_iff.mpr ⟨hxm, hmx⟩,
      contains_iff.mpr ⟨(hin w hw).1.trans hxm, hmx.trans_le (hin w hw).2⟩⟩

/-- **Every slice is heard exactly when** the part of the crop in front of the
region and one step fit in a window, or that part and the region do. -/
theorem exists_slicesHeard_iff (hregion : region.Inside padded) :
    (∃ windows, splitCrop padded region maxCropMs stitchMs = .ok windows
        ∧ SlicesHeard S region windows)
      ↔ region.startMs - padded.startMs + max (maxCropMs - stitchMs) 1 ≤ maxCropMs
        ∨ region.startMs - padded.startMs + region.durationMs ≤ maxCropMs := by
  have hpos := region.start_lt_end
  have ⟨hfrom, hto⟩ := hregion
  have hpadded := padded.start_lt_end
  by_cases hshort : padded.durationMs ≤ maxCropMs
  · have hone : splitCrop padded region maxCropMs stitchMs = .ok [(padded, region)] :=
      if_pos hshort
    refine iff_of_true ⟨_, hone, slicesHeard_of_inside hone (fun w hw => ?_)⟩ (Or.inr ?_)
    · obtain rfl := List.mem_singleton.mp hw
      exact hregion
    · unfold durationMs at hshort ⊢
      omega
  · have hloop : splitCrop padded region maxCropMs stitchMs
        = splitCropLoop padded region maxCropMs stitchMs padded.startMs region.startMs :=
      if_neg hshort
    constructor
    · rintro ⟨windows, hok, hheard⟩
      rw [hloop] at hok
      obtain ⟨w, hw, hwindow, howned⟩ := first_of_splitCropLoop hpadded hpos hok
      have hin := (hheard.inside w hw).2
      rw [hwindow, howned] at hin
      unfold durationMs
      omega
    · intro hfits
      unfold durationMs at hfits
      have hmax : 0 < maxCropMs := by omega
      have hreach : region.startMs + max (maxCropMs - stitchMs) 1 ≤ padded.startMs + maxCropMs
          ∨ region.endMs ≤ padded.startMs + maxCropMs := by omega
      obtain ⟨windows, hok, hin⟩ :=
        splitCropLoop_inside hmax hto hpadded hpos.le (Or.inl hfrom) hreach
      exact ⟨windows, hloop.trans hok, slicesHeard_of_inside (hloop.trans hok) hin⟩

/-- Padding a region of a recording: what is in front of it, and that it stays
in. -/
theorem pad_of_inside (contextMs : ℕ) {lower upper : ℕ} (hlower : lower ≤ region.startMs)
    (hupper : region.endMs ≤ upper) :
    region.startMs - (region.pad contextMs lower (some upper)).startMs
        = min contextMs (region.startMs - lower)
      ∧ region.Inside (region.pad contextMs lower (some upper)) := by
  have hpos := region.start_lt_end
  unfold Inside pad
  dsimp only
  omega

end Windows

variable {R : Type} [Field R] [LinearOrder R] [IsStrictOrderedRing R]

/-- **Every owned slice is heard exactly when** the context that there is in
front of the region leaves room for a step in a window – it is not longer than
the stitch – or the region ends in the first window. -/
theorem slicesHeard_iff {S : Type} (c : SasttConfig R) (mono : AudioBuffer S)
    (region : TimeInterval) (hstart : mono.startMs ≤ region.startMs)
    (hend : region.endMs ≤ mono.endMs) :
    (∃ windows, splitCrop
        (region.pad (secondsToMs c.audio.overlapContextSeconds) mono.startMs (some mono.endMs))
        region (secondsToMs c.separation.maxCropSeconds)
        (secondsToMs c.separation.stitchOverlapSeconds) = .ok windows
        ∧ SlicesHeard S region windows)
      ↔ min (secondsToMs c.audio.overlapContextSeconds) (region.startMs - mono.startMs)
          + max (secondsToMs c.separation.maxCropSeconds
            - secondsToMs c.separation.stitchOverlapSeconds) 1
          ≤ secondsToMs c.separation.maxCropSeconds
        ∨ min (secondsToMs c.audio.overlapContextSeconds) (region.startMs - mono.startMs)
          + region.durationMs ≤ secondsToMs c.separation.maxCropSeconds := by
  have hpad := pad_of_inside (secondsToMs c.audio.overlapContextSeconds) hstart hend
  rw [exists_slicesHeard_iff hpad.2, hpad.1]

/-! ## Half a minute -/

/-- A recording of half a minute, a sample a millisecond. -/
def halfMinute : AudioBuffer Unit where
  samples := List.replicate 30000 ()
  sampleRate := 1000
  startSample := 0
  samples_ne_nil := List.cons_ne_nil _ _
  rate_pos := MS_PER_SECOND_pos

theorem halfMinute_endMs : halfMinute.endMs = 30000 := by
  unfold AudioBuffer.endMs AudioBuffer.endSample AudioBuffer.numSamples halfMinute
  rw [List.length_replicate]
  rfl

/-- Two seconds of context. -/
def longContext : SasttConfig ℚ where
  audio := { AudioConfig.default with
    overlapContextSeconds := 2
    context_nonneg := by norm_num }

/-- A long overlap. -/
def longOverlap : TimeInterval := ⟨2000, 21000, by decide⟩

/-- As configured by default, nothing is lost. -/
theorem slicesHeard_iff_default :
    (∃ windows, splitCrop (longOverlap.pad
        (secondsToMs ({} : SasttConfig ℚ).audio.overlapContextSeconds)
        halfMinute.startMs (some halfMinute.endMs)) longOverlap
        (secondsToMs ({} : SasttConfig ℚ).separation.maxCropSeconds)
        (secondsToMs ({} : SasttConfig ℚ).separation.stitchOverlapSeconds) = .ok windows
        ∧ SlicesHeard Unit longOverlap windows)
      ↔ min (secondsToMs ({} : SasttConfig ℚ).audio.overlapContextSeconds)
            (longOverlap.startMs - halfMinute.startMs)
          + max (secondsToMs ({} : SasttConfig ℚ).separation.maxCropSeconds
            - secondsToMs ({} : SasttConfig ℚ).separation.stitchOverlapSeconds) 1
          ≤ secondsToMs ({} : SasttConfig ℚ).separation.maxCropSeconds
        ∨ min (secondsToMs ({} : SasttConfig ℚ).audio.overlapContextSeconds)
            (longOverlap.startMs - halfMinute.startMs)
          + longOverlap.durationMs ≤ secondsToMs ({} : SasttConfig ℚ).separation.maxCropSeconds :=
  slicesHeard_iff {} halfMinute longOverlap (by decide) (by rw [halfMinute_endMs]; decide)

/-- **Context that is longer than the stitch** pushes the end of a slice out of
its window: the first window ends after ten seconds and owns the region up to
its eleventh. -/
theorem context_longer_than_stitch :
    ¬ ∃ windows, splitCrop (longOverlap.pad (secondsToMs longContext.audio.overlapContextSeconds)
        halfMinute.startMs (some halfMinute.endMs)) longOverlap
        (secondsToMs longContext.separation.maxCropSeconds)
        (secondsToMs longContext.separation.stitchOverlapSeconds) = .ok windows
        ∧ SlicesHeard Unit longOverlap windows := by
  have hcontext : secondsToMs longContext.audio.overlapContextSeconds = 2000 := by decide +kernel
  have hmax : secondsToMs longContext.separation.maxCropSeconds = 10000 := by decide +kernel
  have hstitch : secondsToMs longContext.separation.stitchOverlapSeconds = 1000 := by
    decide +kernel
  have hstart : halfMinute.startMs = 0 := rfl
  rintro ⟨windows, hok, hheard⟩
  rw [hcontext, hmax, hstitch, hstart, halfMinute_endMs] at hok
  have hwindows : splitCrop (longOverlap.pad 2000 0 (some 30000)) longOverlap 10000 1000
      = .ok [(⟨0, 10000, by decide⟩, ⟨2000, 11000, by decide⟩),
          (⟨9000, 19000, by decide⟩, ⟨11000, 20000, by decide⟩),
          (⟨18000, 23000, by decide⟩, ⟨20000, 21000, by decide⟩)] := by decide +kernel
  rw [hwindows] at hok
  cases hok
  have hin := (hheard.inside _ List.mem_cons_self).2
  revert hin
  decide

end Sastt
