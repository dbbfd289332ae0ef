import Mathlib.Data.List.Sort
import Mathlib.Data.Rat.Floor
import Sastt.Domain.Errors
import Sastt.Lib.Rounding

/-!
# Time intervals and audio buffers

Internal time is an integer number of milliseconds or a sample index, never
an accumulated float, so both are natural numbers here. A `TimeInterval`
carries the proof that it is not empty; building one from bounds that may
be the wrong way round is `TimeInterval.new`, which raises as the
constructor of the source does.

`mergeIntervals` and `AudioBuffer.cropMs` are transcribed as the source
computes them: sort and fold for the first, clip to the buffer and slice for
the second. A buffer's samples are a list over an arbitrary type of sample,
since nothing here looks inside one.
-/

namespace Sastt

/-- Milliseconds in a second. -/
def MS_PER_SECOND : ℕ := 1000

/-- `samples_to_ms`: a sample index in milliseconds, rounding half up. -/
def samplesToMs (sampleIndex sampleRate : ℕ) : ℕ :=
  (sampleIndex * MS_PER_SECOND + sampleRate / 2) / sampleRate

/-- `ms_to_samples`: milliseconds as a sample index, rounding half up. -/
def msToSamples (ms sampleRate : ℕ) : ℕ :=
  (ms * sampleRate + MS_PER_SECOND / 2) / MS_PER_SECOND

/-- `round`: to the nearest integer, and to the even one of two that are
equally near. -/
def roundHalfEven (x : ℚ) : ℤ :=
  if x - ⌊x⌋ < 1 / 2 then ⌊x⌋
  else if 1 / 2 < x - ⌊x⌋ then ⌊x⌋ + 1
  else if ⌊x⌋ % 2 = 0 then ⌊x⌋ else ⌊x⌋ + 1

theorem nearestEven_roundHalfEven (x : ℚ) : NearestEven x (roundHalfEven x) := by
  have hfloor := Int.floor_le x
  have hlt := Int.lt_floor_add_one x
  have hnext : ((⌊x⌋ + 1 : ℤ) : ℚ) = ⌊x⌋ + 1 := by push_cast; rfl
  unfold roundHalfEven
  split_ifs with hdown hup heven
  · exact ⟨by linarith, by linarith, fun h => by rcases h with h | h <;> linarith⟩
  · exact ⟨by linarith, by linarith, fun h => by rcases h with h | h <;> linarith⟩
  · exact ⟨by linarith, by linarith, fun _ => Int.even_iff.mpr heven⟩
  · exact ⟨by linarith, by linarith,
      fun _ => Int.even_add_one.mpr (fun h => heven (Int.even_iff.mp h))⟩

/-- `seconds_to_ms`: a configured number of seconds, none of which is
negative, in milliseconds. -/
def secondsToMs (seconds : ℚ) : ℕ := (roundHalfEven (seconds * MS_PER_SECOND)).toNat

/-- **A half-open interval** `[startMs, endMs)` in absolute session time. -/
structure TimeInterval where
  startMs : ℕ
  endMs : ℕ
  /-- The interval is not empty. -/
  start_lt_end : startMs < endMs
deriving DecidableEq, Repr

namespace TimeInterval

/-- The constructor: bounds the wrong way round raise. -/
def new (startMs endMs : ℕ) : Except PyError TimeInterval :=
  if h : startMs < endMs then .ok ⟨startMs, endMs, h⟩
  else .error (.valueError
    ("end_ms must be > start_ms, got " ++ toString startMs ++ ".." ++ toString endMs))

theorem new_of_lt {s e : ℕ} (h : s < e) : new s e = .ok ⟨s, e, h⟩ := by
  rw [new, dif_pos h]

def durationMs (i : TimeInterval) : ℕ := i.endMs - i.startMs

def intersects (i j : TimeInterval) : Bool :=
  i.startMs < j.endMs && j.startMs < i.endMs

/-- Overlap length; zero when the intervals are disjoint. -/
def intersectionMs (i j : TimeInterval) : ℕ :=
  min i.endMs j.endMs - max i.startMs j.startMs

def contains (i : TimeInterval) (ms : ℕ) : Bool := i.startMs ≤ ms && ms < i.endMs

/-- Grow the interval by `contextMs` on both sides, clamped to the
bounds. -/
def pad (i : TimeInterval) (contextMs lowerBoundMs : ℕ) (upperBoundMs : Option ℕ) :
    TimeInterval :=
  let start := max lowerBoundMs (i.startMs - contextMs)
  let stop := match upperBoundMs with
    | none => i.endMs + contextMs
    | some upper => min upper (i.endMs + contextMs)
  ⟨start, max stop (start + 1), lt_of_lt_of_le (Nat.lt_succ_self _) (le_max_right _ _)⟩

/-- The part of the interval inside the bounds, if there is one. -/
def clamp (i bounds : TimeInterval) : Option TimeInterval :=
  if h : max i.startMs bounds.startMs < min i.endMs bounds.endMs then
    some ⟨max i.startMs bounds.startMs, min i.endMs bounds.endMs, h⟩
  else none

/-- `sorted` on intervals: by start, then by end. -/
def le (i j : TimeInterval) : Prop :=
  i.startMs < j.startMs ∨ (i.startMs = j.startMs ∧ i.endMs ≤ j.endMs)

instance : DecidableRel le := fun _ _ => inferInstanceAs (Decidable (_ ∨ _))

end TimeInterval

/-- The fold of `merge_intervals`: `last` is the interval still open. -/
def mergeLoop (mergeGapMs : ℕ) (last : TimeInterval) : List TimeInterval → List TimeInterval
  | [] => [last]
  | i :: rest =>
    if (i.startMs : ℤ) - last.endMs ≤ mergeGapMs then
      mergeLoop mergeGapMs ⟨last.startMs, max last.endMs i.endMs,
        lt_of_lt_of_le last.start_lt_end (le_max_left _ _)⟩ rest
    else last :: mergeLoop mergeGapMs i rest

/-- `merge_intervals`: sort, and merge what is at most `mergeGapMs`
apart. -/
def mergeIntervals (intervals : List TimeInterval) (mergeGapMs : ℕ) : List TimeInterval :=
  match intervals.insertionSort TimeInterval.le with
  | [] => []
  | first :: rest => mergeLoop mergeGapMs first rest

/-- `total_duration_ms`: the time that is covered, overlaps counted once. -/
def totalDurationMs (intervals : List TimeInterval) : ℕ :=
  ((mergeIntervals intervals 0).map TimeInterval.durationMs).sum

/-- **A mono audio buffer**: samples anchored in absolute session time by
the index of the first one. -/
structure AudioBuffer (S : Type) where
  samples : List S
  sampleRate : ℕ
  startSample : ℕ
  /-- The buffer is not empty. -/
  samples_ne_nil : samples ≠ []
  /-- The sample rate is positive. -/
  rate_pos : 0 < sampleRate

namespace AudioBuffer

variable {S : Type}

/-- The checks of the constructor that a list of samples can fail. -/
def new (samples : List S) (sampleRate startSample : ℕ) : Except PyError (AudioBuffer S) :=
  if hs : samples ≠ [] then
    if hr : 0 < sampleRate then .ok ⟨samples, sampleRate, startSample, hs, hr⟩
    else .error (.sastt .unsupportedAudioFormat
      ("invalid sample rate " ++ toString sampleRate) [])
  else .error (.sastt .unsupportedAudioFormat "audio buffer is empty" [])

def numSamples (b : AudioBuffer S) : ℕ := b.samples.length

def endSample (b : AudioBuffer S) : ℕ := b.startSample + b.numSamples

def startMs (b : AudioBuffer S) : ℕ := samplesToMs b.startSample b.sampleRate

def endMs (b : AudioBuffer S) : ℕ := samplesToMs b.endSample b.sampleRate

def durationMs (b : AudioBuffer S) : ℕ := samplesToMs b.numSamples b.sampleRate

def interval (b : AudioBuffer S) : TimeInterval :=
  ⟨b.startMs, max b.endMs (b.startMs + 1),
    lt_of_lt_of_le (Nat.lt_succ_self _) (le_max_right _ _)⟩

/-- `crop_ms`: crop by absolute time, keeping the absolute start. -/
def cropMs (b : AudioBuffer S) (i : TimeInterval) : Except PyError (AudioBuffer S) :=
  let start := max (msToSamples i.startMs b.sampleRate) b.startSample
  let stop := min (msToSamples i.endMs b.sampleRate) b.endSample
  if stop ≤ start then
    .error (.sastt .unsupportedAudioFormat "crop interval does not intersect the buffer" [])
  else
    new ((b.samples.drop (start - b.startSample)).take (stop - start)) b.sampleRate start

end AudioBuffer

/-! ## What examples are about -/

/-- The first milliseconds, one at least. -/
def firstMs (n : ℕ) : TimeInterval := ⟨0, max n 1, lt_max_of_lt_right Nat.one_pos⟩

/-- Two seconds of silence. -/
def fortySamples : AudioBuffer Unit := ⟨List.replicate 40 (), 20, 0, by decide, by decide⟩

/-- As many samples of it after the first as are wanted. -/
def silentSamples (n : ℕ) : AudioBuffer Unit :=
  ⟨() :: List.replicate n (), 20, 0, by simp, by decide⟩

/-- The same at 16 kHz. -/
def recordedSilence (n : ℕ) : AudioBuffer Unit :=
  ⟨() :: List.replicate n (), 16000, 0, List.cons_ne_nil _ _, by decide⟩

/-- A sample a millisecond is a sample rate. -/
theorem MS_PER_SECOND_pos : 0 < MS_PER_SECOND := by decide

theorem tenth_pos : (0 : ℚ) < 1 / 10 := by norm_num

instance atLeastTwo_three : Nat.AtLeastTwo 3 := inferInstance

instance atLeastTwo_four : Nat.AtLeastTwo 4 := inferInstance

instance atLeastTwo_five : Nat.AtLeastTwo 5 := inferInstance

instance atLeastTwo_twenty : Nat.AtLeastTwo 20 := inferInstance

instance atLeastTwo_fifty : Nat.AtLeastTwo 50 := inferInstance

instance atLeastTwo_thousand : Nat.AtLeastTwo 1000 := inferInstance

end Sastt
