import Sastt.Domain.Audio
import Sastt.Lib.Method
import Sastt.Lib.Slices

/-!
# Splitting a long crop into windows

A separator takes crops of a bounded length, so a long overlap region is
separated window by window. Each window comes with the slice of the region
it *owns*, and only the words of that slice are kept: two windows share
their stitch, and a word heard in both must be published once.

The loop moves the window and the owned slice by the same step from two
different origins – the start of the padded crop and the start of the
region – and it stops when the *window* reaches the end of the crop. The
owned slices always tile the region from its start
(`splitCropLoop_spec`); how far they get is a matter of counting turns, so
whether they reach the end of the region is a relation between the two
lengths (`splitCrop_splitsRegion_iff`). With context of at least the stitch, on
either side or on both together, they do; the retry has no context, and may
lose the end of the region (`splitCrop_retry_loses_end`).
-/

namespace Sastt

/-- The window of one turn of the loop with the slice it owns, or nothing
when no part of the region is left to own. -/
def cropWindow (padded region : TimeInterval) (maxCropMs step start ownedStart : ℕ) :
    Except PyError (List (TimeInterval × TimeInterval)) :=
  let ownedEnd := min (ownedStart + step) region.endMs
  if ownedStart < ownedEnd then do
    let window ← TimeInterval.new start (min (start + maxCropMs) padded.endMs)
    let owned ← TimeInterval.new ownedStart ownedEnd
    return [(window, owned)]
  else return []

/-- The `while` loop of `_split_crop`. The step is at least one, which is
what makes the window's start a measure. -/
def splitCropLoop (padded region : TimeInterval) (maxCropMs stitchMs start ownedStart : ℕ) :
    Except PyError (List (TimeInterval × TimeInterval)) :=
  let step := max (maxCropMs - stitchMs) 1
  if start < padded.endMs then do
    let here ← cropWindow padded region maxCropMs step start ownedStart
    if padded.endMs ≤ min (start + maxCropMs) padded.endMs then return here
    let rest ← splitCropLoop padded region maxCropMs stitchMs (start + step)
      (min (ownedStart + step) region.endMs)
    return here ++ rest
  else return []
termination_by padded.endMs - start

/-- `_split_crop`: the windows of a crop, each with the slice of the region
it is responsible for. -/
def splitCrop (padded region : TimeInterval) (maxCropMs stitchMs : ℕ) :
    Except PyError (List (TimeInterval × TimeInterval)) :=
  if padded.durationMs ≤ maxCropMs then .ok [(padded, region)]
  else splitCropLoop padded region maxCropMs stitchMs padded.startMs region.startMs

/-- The ends of the slices a list of windows owns. -/
def ownedSlices (windows : List (TimeInterval × TimeInterval)) : List (ℕ × ℕ) :=
  windows.map (fun w => (w.2.startMs, w.2.endMs))

/-- A window the separator can be given: inside the crop, and no longer
than the longest crop. -/
def FitsCrop (padded : TimeInterval) (maxCropMs : ℕ) (window : TimeInterval) : Prop :=
  padded.startMs ≤ window.startMs ∧ window.endMs ≤ padded.endMs
    ∧ window.durationMs ≤ maxCropMs

/-- **The windows split the region**: the slices they own partition it, and
each can be given to the separator. -/
structure SplitsRegion (padded region : TimeInterval) (maxCropMs : ℕ)
    (windows : List (TimeInterval × TimeInterval)) : Prop where
  slices : Partitions (ownedSlices windows) region.startMs region.endMs
  fits : ∀ w ∈ windows, FitsCrop padded maxCropMs w.1

/-- The turns the loop takes after its first one, for a crop of which
`remaining` milliseconds lie beyond the first window. -/
def furtherTurns (remaining step : ℕ) : ℕ := (remaining + step - 1) / step

theorem furtherTurns_zero {step : ℕ} (hstep : 0 < step) : furtherTurns 0 step = 0 :=
  Nat.div_eq_of_lt (by omega)

/-- One turn uses up one step of what remains. -/
theorem furtherTurns_of_pos {remaining step : ℕ} (hstep : 0 < step) (hr : 0 < remaining) :
    furtherTurns remaining step = furtherTurns (remaining - step) step + 1 := by
  unfold furtherTurns
  rcases le_or_gt step remaining with h | h
  · rw [show remaining + step - 1 = (remaining - step + step - 1) + step by omega,
      Nat.add_div_right _ hstep]
  · rw [show remaining + step - 1 = (remaining - 1) + step by omega,
      Nat.add_div_right _ hstep, Nat.div_eq_of_lt (show remaining - 1 < step by omega),
      Nat.div_eq_of_lt (show remaining - step + step - 1 < step by omega)]

/-! ## What one turn does -/

section Loop

variable {padded region : TimeInterval} {maxCropMs stitchMs start ownedStart : ℕ}

/-- A turn that finds part of the region unowned emits its window. -/
theorem cropWindow_of_lt {step : ℕ} (hmax : 0 < maxCropMs) (hstep : 0 < step)
    (hstart : start < padded.endMs) (howned : ownedStart < region.endMs) :
    ∃ w, cropWindow padded region maxCropMs step start ownedStart = .ok [w]
      ∧ w.1.startMs = start ∧ w.1.endMs = min (start + maxCropMs) padded.endMs
      ∧ w.2.startMs = ownedStart ∧ w.2.endMs = min (ownedStart + step) region.endMs := by
  have hw : start < min (start + maxCropMs) padded.endMs := by omega
  have ho : ownedStart < min (ownedStart + step) region.endMs := by omega
  refine ⟨(⟨_, _, hw⟩, ⟨_, _, ho⟩), ?_, rfl, rfl, rfl, rfl⟩
  unfold cropWindow
  rw [if_pos ho, TimeInterval.new_of_lt hw, TimeInterval.new_of_lt ho]
  rfl

/-- A turn that finds the region owned emits nothing. -/
theorem cropWindow_of_le {step : ℕ} (howned : region.endMs ≤ ownedStart) :
    cropWindow padded region maxCropMs step start ownedStart = .ok [] := by
  unfold cropWindow
  rw [if_neg (by omega)]
  rfl

/-- The last turn is the one whose window reaches the end of the crop. -/
theorem splitCropLoop_last {here : List (TimeInterval × TimeInterval)}
    (hstart : start < padded.endMs) (hlast : padded.endMs ≤ start + maxCropMs)
    (hhere : cropWindow padded region maxCropMs (max (maxCropMs - stitchMs) 1) start ownedStart
      = .ok here) :
    splitCropLoop padded region maxCropMs stitchMs start ownedStart = .ok here := by
  rw [splitCropLoop, if_pos hstart, hhere]
  show (if padded.endMs ≤ min (start + maxCropMs) padded.endMs then _ else _) = _
  rw [if_pos (by omega)]
  rfl

/-- Any other turn is followed by the loop from the next window. -/
theorem splitCropLoop_next {here rest : List (TimeInterval × TimeInterval)}
    (hlast : start + maxCropMs < padded.endMs)
    (hhere : cropWindow padded region maxCropMs (max (maxCropMs - stitchMs) 1) start ownedStart
      = .ok here)
    (hrest : splitCropLoop padded region maxCropMs stitchMs
        (start + max (maxCropMs - stitchMs) 1)
        (min (ownedStart + max (maxCropMs - stitchMs) 1) region.endMs) = .ok rest) :
    splitCropLoop padded region maxCropMs stitchMs start ownedStart = .ok (here ++ rest) := by
  rw [splitCropLoop, if_pos (by omega), hhere]
  show (if padded.endMs ≤ min (start + maxCropMs) padded.endMs then _ else _) = _
  rw [if_neg (by omega)]
  show (do
    let rest ← splitCropLoop padded region maxCropMs stitchMs
      (start + max (maxCropMs - stitchMs) 1)
      (min (ownedStart + max (maxCropMs - stitchMs) 1) region.endMs)
    return here ++ rest) = _
  rw [hrest]
  rfl

/-- What a turn emits tiles the region from where the turn found it to
where it leaves it. -/
theorem exists_cropWindow (region : TimeInterval) {step : ℕ} (hmax : 0 < maxCropMs)
    (hstep : 0 < step)
    (hpadded : padded.startMs ≤ start) (hstart : start < padded.endMs)
    (howned : ownedStart ≤ region.endMs) :
    ∃ here, cropWindow padded region maxCropMs step start ownedStart = .ok here
      ∧ (∀ w ∈ here, FitsCrop padded maxCropMs w.1)
      ∧ ∀ (rest : List (TimeInterval × TimeInterval)) (stop : ℕ),
          Tiles (min (ownedStart + step) region.endMs) (ownedSlices rest) stop →
          Tiles ownedStart (ownedSlices (here ++ rest)) stop := by
  rcases Nat.lt_or_ge ownedStart region.endMs with h | h
  · obtain ⟨w, hw, hws, hwe, hos, hoe⟩ := cropWindow_of_lt hmax hstep hstart h
    refine ⟨[w], hw, ?_, fun rest stop htiles => ⟨hos, w.2.start_lt_end, ?_⟩⟩
    · intro w' hw'
      obtain rfl := List.mem_singleton.mp hw'
      refine ⟨by omega, by omega, ?_⟩
      unfold TimeInterval.durationMs
      omega
    · rw [hoe]
      exact htiles
  · refine ⟨[], cropWindow_of_le h, fun w hw => absurd hw List.not_mem_nil, ?_⟩
    intro rest stop htiles
    rwa [show min (ownedStart + step) region.endMs = ownedStart by omega] at htiles

/-- **The loop tiles the region**, from the slice it starts at up to as many
steps as it takes turns, and every window can be given to the separator. -/
theorem splitCropLoop_spec (hmax : stitchMs < maxCropMs) (hpadded : padded.startMs ≤ start)
    (hstart : start < padded.endMs) (howned : ownedStart ≤ region.endMs) :
    ∃ windows, splitCropLoop padded region maxCropMs stitchMs start ownedStart = .ok windows
      ∧ (∀ w ∈ windows, FitsCrop padded maxCropMs w.1)
      ∧ Tiles ownedStart (ownedSlices windows)
          (min region.endMs (ownedStart
            + (furtherTurns (padded.endMs - start - maxCropMs) (maxCropMs - stitchMs) + 1)
              * (maxCropMs - stitchMs))) := by
  have hmax1 : max (maxCropMs - stitchMs) 1 = maxCropMs - stitchMs := by omega
  have hstep : 0 < maxCropMs - stitchMs := by omega
  -- the induction is on what is left of the crop beyond the window's start
  induction hn : padded.endMs - start using Nat.strong_induction_on
    generalizing start ownedStart with
  | _ n ih =>
    obtain ⟨here, hhere, hfits, htile⟩ :=
      exists_cropWindow region (Nat.zero_lt_of_lt hmax) hstep hpadded hstart howned
    rw [← hmax1] at hhere
    rcases Nat.lt_or_ge (start + maxCropMs) padded.endMs with hnext | hlast
    · have hpadded' : padded.startMs ≤ start + (maxCropMs - stitchMs) := by omega
      have howned' : min (ownedStart + (maxCropMs - stitchMs)) region.endMs ≤ region.endMs :=
        min_le_right _ _
      obtain ⟨rest, hrest, hfits', htiles⟩ :=
        ih _ (by omega) hpadded' (by omega) howned' rfl
      refine ⟨here ++ rest, ?_, ?_, ?_⟩
      · exact splitCropLoop_next hnext hhere (by rw [hmax1]; exact hrest)
      · intro w hw
        rcases List.mem_append.mp hw with hw | hw
        · exact hfits w hw
        · exact hfits' w hw
      · have hturns : furtherTurns (n - maxCropMs) (maxCropMs - stitchMs)
            = furtherTurns (padded.endMs - (start + (maxCropMs - stitchMs)) - maxCropMs)
                (maxCropMs - stitchMs) + 1 := by
          rw [furtherTurns_of_pos hstep (by omega)]
          congr 2
          omega
        have hstop : ∀ k step : ℕ,
            min region.endMs (min (ownedStart + step) region.endMs + (k + 1) * step)
              = min region.endMs (ownedStart + (k + 1 + 1) * step) := by
          intro k step
          rw [show (k + 1 + 1) * step = step + (k + 1) * step by ring]
          omega
        rw [hturns, ← hstop]
        exact htile _ _ htiles
    · refine ⟨here, splitCropLoop_last hstart hlast hhere, hfits, ?_⟩
      rw [show n - maxCropMs = 0 by omega, furtherTurns_zero hstep, Nat.zero_add,
        Nat.one_mul, ← List.append_nil here, min_comm]
      exact htile [] _ rfl

/-- Whatever the lengths, a turn that returns tiles its step. -/
theorem tiles_of_cropWindow {step : ℕ} {here : List (TimeInterval × TimeInterval)}
    (howned : ownedStart ≤ region.endMs)
    (h : cropWindow padded region maxCropMs step start ownedStart = .ok here) :
    Tiles ownedStart (ownedSlices here) (min (ownedStart + step) region.endMs) := by
  unfold cropWindow TimeInterval.new at h
  dsimp only at h
  split at h
  · next howned' =>
    split at h
    · cases h
      exact ⟨rfl, howned', rfl⟩
    · cases h
  · next howned' =>
    cases h
    show ownedStart = min (ownedStart + step) region.endMs
    omega

/-- A loop that returns emits the windows of its first turn, and then those of the rest. -/
theorem splitCropLoop_eq_ok {windows : List (TimeInterval × TimeInterval)}
    (hstart : start < padded.endMs)
    (h : splitCropLoop padded region maxCropMs stitchMs start ownedStart = .ok windows) :
    ∃ here rest, windows = here ++ rest
      ∧ cropWindow padded region maxCropMs (max (maxCropMs - stitchMs) 1) start ownedStart
        = .ok here
      ∧ (rest = [] ∨ splitCropLoop padded region maxCropMs stitchMs
          (start + max (maxCropMs - stitchMs) 1)
          (min (ownedStart + max (maxCropMs - stitchMs) 1) region.endMs) = .ok rest) := by
  rw [splitCropLoop, if_pos hstart] at h
  obtain ⟨here, hhere, h⟩ := Method.except_bind_eq_ok.mp h
  split at h
  · cases h
    exact ⟨_, [], (List.append_nil _).symm, hhere, Or.inl rfl⟩
  · obtain ⟨rest, hrest, h⟩ := Method.except_bind_eq_ok.mp h
    cases h
    exact ⟨here, rest, rfl, hhere, Or.inr hrest⟩

/-- **So does a loop that returns**, up to some point of the region. -/
theorem tiles_of_splitCropLoop {windows : List (TimeInterval × TimeInterval)}
    (howned : ownedStart ≤ region.endMs)
    (h : splitCropLoop padded region maxCropMs stitchMs start ownedStart = .ok windows) :
    ∃ stop ≤ region.endMs, Tiles ownedStart (ownedSlices windows) stop := by
  induction hn : padded.endMs - start using Nat.strong_induction_on
    generalizing start ownedStart windows with
  | _ n ih =>
    rcases Nat.lt_or_ge start padded.endMs with hstart | hend
    · obtain ⟨here, rest, rfl, hhere, hrest⟩ := splitCropLoop_eq_ok hstart h
      have htiles := tiles_of_cropWindow howned hhere
      rcases hrest with rfl | hrest
      · rw [List.append_nil]
        exact ⟨_, min_le_right _ _, htiles⟩
      · obtain ⟨stop, hstop, hmore⟩ := ih _ (by omega) (min_le_right _ _) hrest rfl
        refine ⟨stop, hstop, ?_⟩
        rw [ownedSlices, List.map_append]
        exact htiles.append hmore
    · rw [splitCropLoop, if_neg (by omega)] at h
      cases h
      exact ⟨ownedStart, howned, rfl⟩

end Loop

/-! ## The whole crop -/

section Split

variable {padded region : TimeInterval} {maxCropMs stitchMs : ℕ}

/-- **The owned slices tile the region from its start**, and stop at its end
or after as many steps as the loop takes turns. -/
theorem splitCrop_spec (padded region : TimeInterval) (hmax : stitchMs < maxCropMs) :
    ∃ windows, splitCrop padded region maxCropMs stitchMs = .ok windows
      ∧ (∀ w ∈ windows, FitsCrop padded maxCropMs w.1)
      ∧ Tiles region.startMs (ownedSlices windows)
          (if padded.durationMs ≤ maxCropMs then region.endMs
            else min region.endMs (region.startMs
              + (furtherTurns (padded.durationMs - maxCropMs) (maxCropMs - stitchMs) + 1)
                * (maxCropMs - stitchMs))) := by
  unfold splitCrop
  by_cases h : padded.durationMs ≤ maxCropMs
  · rw [if_pos h, if_pos h]
    refine ⟨_, rfl, ?_, rfl, region.start_lt_end, rfl⟩
    intro w hw
    obtain rfl := List.mem_singleton.mp hw
    exact ⟨le_rfl, le_rfl, h⟩
  · rw [if_neg h, if_neg h]
    exact splitCropLoop_spec hmax le_rfl padded.start_lt_end (le_of_lt region.start_lt_end)

/-- **Whatever the lengths, the owned slices tile an initial part of the
region**, also where the stitch leaves no room for a step. -/
theorem tiles_of_splitCrop {windows : List (TimeInterval × TimeInterval)}
    (h : splitCrop padded region maxCropMs stitchMs = .ok windows) :
    ∃ stop ≤ region.endMs, Tiles region.startMs (ownedSlices windows) stop := by
  unfold splitCrop at h
  split at h
  · cases h
    exact ⟨region.endMs, le_rfl, rfl, region.start_lt_end, rfl⟩
  · exact tiles_of_splitCropLoop region.start_lt_end.le h

/-- The condition under which the slices reach the end of the region: the
crop fits in one window, or the turns of the loop cover the region. -/
def TurnsCover (padded region : TimeInterval) (maxCropMs stitchMs : ℕ) : Prop :=
  padded.durationMs ≤ maxCropMs
    ∨ region.durationMs
        ≤ (furtherTurns (padded.durationMs - maxCropMs) (maxCropMs - stitchMs) + 1)
          * (maxCropMs - stitchMs)

/-- **A long region is split without loss exactly when the turns of the
loop cover it.** Nothing is asked of where the region lies in the crop: only
the two lengths matter. -/
theorem splitCrop_splitsRegion_iff (padded region : TimeInterval) (maxCropMs stitchMs : ℕ)
    (hmax : stitchMs < maxCropMs) :
    (∃ windows, splitCrop padded region maxCropMs stitchMs = .ok windows
        ∧ SplitsRegion padded region maxCropMs windows)
      ↔ TurnsCover padded region maxCropMs stitchMs := by
  obtain ⟨windows, hok, hfits, htiles⟩ := splitCrop_spec padded region hmax
  have hiff : (∃ windows, splitCrop padded region maxCropMs stitchMs = .ok windows
      ∧ SplitsRegion padded region maxCropMs windows)
        ↔ Partitions (ownedSlices windows) region.startMs region.endMs := by
    constructor
    · rintro ⟨ws, hws, hsplit⟩
      rw [hok] at hws
      cases hws
      exact hsplit.slices
    · exact fun hp => ⟨windows, hok, hp, hfits⟩
  rw [hiff, htiles.partitions_iff (by split; exacts [le_rfl, min_le_left _ _])]
  unfold TurnsCover
  have hregion := region.start_lt_end
  by_cases h : padded.durationMs ≤ maxCropMs
  · rw [if_pos h]
    exact ⟨fun _ => Or.inl h, fun _ => rfl⟩
  · rw [if_neg h]
    unfold TimeInterval.durationMs at h ⊢
    omega

/-- Nineteen seconds of overlap with half a second of context on each side. -/
theorem splitCrop_splitsRegion_iff_of_context :
    1000 < 10000 ∧ ((∃ windows,
        splitCrop ⟨1000, 21000, by decide⟩ ⟨1500, 20500, by decide⟩ 10000 1000 = .ok windows
          ∧ SplitsRegion ⟨1000, 21000, by decide⟩ ⟨1500, 20500, by decide⟩ 10000 windows)
      ↔ TurnsCover ⟨1000, 21000, by decide⟩ ⟨1500, 20500, by decide⟩ 10000 1000) :=
  ⟨by decide, splitCrop_splitsRegion_iff _ _ _ _ (by decide)⟩

/-- **The retry loses the end of the region.** Nineteen seconds without
context, windows of ten with one of stitch: the second window reaches the
end of the crop, and owns the region only up to its eighteenth second. -/
theorem splitCrop_retry_loses_end :
    ¬ ∃ windows,
      splitCrop ⟨0, 19000, by decide⟩ ⟨0, 19000, by decide⟩ 10000 1000 = .ok windows
        ∧ SplitsRegion ⟨0, 19000, by decide⟩ ⟨0, 19000, by decide⟩ 10000 windows := by
  rintro ⟨windows, hok, hsplit⟩
  have hwindows : splitCrop ⟨0, 19000, by decide⟩ ⟨0, 19000, by decide⟩ 10000 1000
      = .ok [(⟨0, 10000, by decide⟩, ⟨0, 9000, by decide⟩),
          (⟨9000, 19000, by decide⟩, ⟨9000, 18000, by decide⟩)] := by decide +kernel
  rw [hwindows] at hok
  cases hok
  obtain ⟨x, hx, -, hend⟩ := (hsplit.slices.covers 18000).mpr (by decide)
  simp only [ownedSlices, List.map_cons, List.map_nil, List.mem_cons, List.not_mem_nil,
    or_false] at hx
  rcases hx with rfl | rfl <;> omega

end Split

end Sastt
