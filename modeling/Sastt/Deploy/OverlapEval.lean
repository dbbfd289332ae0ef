import Mathlib.Data.List.Sort
import Mathlib.Data.Rat.Floor
import Sastt.Domain.Transcript
import Sastt.Lib.Dictionaries

/-!
# The scorer of overlaps

A labeller says of the separated sources of a run who is speaking. The scorer
counts the segments of a run that are named as the label says, named otherwise,
or not named, each as a rate of the segments it found a label for, and two runs
are compared by these rates. A second run numbers its speakers anew, so its names
are translated first, by the speaking time the two rosters share outside of
overlaps.

Rates are computed exactly and then rounded; the source divides floating point
numbers. `linear_sum_assignment` is a parameter, and what is printed is left out.
-/

namespace Sastt.OverlapEval

/-- A segment of a run, as the scorer reads it. -/
structure RunSegment where
  startMs : ℤ
  endMs : ℤ
  sourceTrack : Option ℤ := none
  isOverlap : Bool := false
  estimatedConcurrentSpeakers : Option ℤ := none
  speakerLabel : Option String := none
  identityStatus : Option String := none

/-- A row of a label file. -/
structure LabelRow where
  startMs : ℤ
  endMs : ℤ
  sourceTrack : Option ℤ := none
  speaker : String

/-- What labels and segments are matched by. -/
abbrev LabelKey : Type := ℤ × ℤ × Option ℤ

/-- `_key`, of a segment. -/
def RunSegment.key (s : RunSegment) : LabelKey := (s.startMs, s.endMs, s.sourceTrack)

/-- `_key`, of a row of labels. -/
def LabelRow.key (row : LabelRow) : LabelKey := (row.startMs, row.endMs, row.sourceTrack)

/-- **The labels**, one for a key. -/
structure Labels where
  entries : List (LabelKey × String)
  /-- A dictionary has a key once. -/
  nodup : (entries.map Prod.fst).Nodup

/-- `labels[key] = speaker`. -/
def Labels.set (labels : Labels) (key : LabelKey) (speaker : String) : Labels where
  entries := labels.entries.filter (·.1 ≠ key) ++ [(key, speaker)]
  nodup := nodup_set labels.nodup key speaker

/-- `load_labels`. -/
def loadLabels (rows : List LabelRow) : Labels :=
  rows.foldl (fun labels row => labels.set row.key row.speaker) ⟨[], List.nodup_nil⟩

/-- `UNDECIDABLE`. -/
def UNDECIDABLE : String := "undecidable"

/-- `SINGLE_SPEAKER`. -/
def SINGLE_SPEAKER : String := "single_speaker"

/-- `MIXED_SOURCES`. -/
def MIXED_SOURCES : String := "mixed_sources"

/-- A label that says who spoke. -/
def IsDecidable (truth : String) : Prop := truth ∉ [UNDECIDABLE, SINGLE_SPEAKER, MIXED_SOURCES]

instance (truth : String) : Decidable (IsDecidable truth) := inferInstanceAs (Decidable (_ ∉ _))

/-- `BUCKETS`. -/
def BUCKETS : List (ℤ × ℤ) := [(0, 500), (500, 1000), (1000, 1500), (1500, 2 ^ 30)]

/-- The name of a bucket. -/
def bucketName (bucket : ℤ × ℤ) : String :=
  if bucket.2 < 2 ^ 30 then toString bucket.1 ++ "-" ++ toString bucket.2
  else toString bucket.1 ++ "+"

/-- `bucket_of`. -/
def bucketOf (durationMs : ℤ) : String :=
  ((BUCKETS.find? (fun b => b.1 ≤ durationMs ∧ durationMs < b.2)).map bucketName).getD "?"

/-- `str.lower`, for a comparison with a text of small letters: the kelvin sign
is the only other character whose small letter is one of `a` to `z`. -/
def lowerChar (c : Char) : Char := if c.toNat = 0x212a then 'k' else c.toLower

/-- `overlap_only`. -/
def overlapOnly (segments : List RunSegment) : List RunSegment :=
  segments.filter RunSegment.isOverlap

/-- `predicted_speaker`. -/
def predictedSpeaker (segment : RunSegment) : Option String :=
  if segment.identityStatus = some "unknown" then none
  else
    match segment.speakerLabel with
    | none => none
    | some label =>
      if (strip label).toList.map lowerChar = "unknown".toList then none else some label

/-! ## Aligning two runs -/

/-- `_speaking_time`: the spans of a label outside of overlaps. -/
def speakingTime (segments : List RunSegment) (label : String) : List (ℤ × ℤ) :=
  (segments.filter (fun s => ¬ s.isOverlap ∧ predictedSpeaker s = some label)).map
    (fun s => (s.startMs, s.endMs))

/-- The labels that have speaking time, sorted. -/
def roster (segments : List RunSegment) : List String :=
  ((segments.filter (fun s => ¬ s.isOverlap)).filterMap predictedSpeaker).dedup.insertionSort
    (· ≤ ·)

/-- The time two lists of spans share. -/
def sharedTime (a b : List (ℤ × ℤ)) : ℤ :=
  (a.flatMap (fun x => b.map (fun y => max 0 (min x.2 y.2 - max x.1 y.1)))).sum

/-- `linear_sum_assignment`, maximising. -/
abbrev LinearSumAssignment : Type := List (List ℤ) → List (ℕ × ℕ)

/-- `align_to_reference`. -/
def alignToReference (assign : LinearSumAssignment) (reference candidate : List RunSegment) :
    List (String × String) :=
  let refLabels := roster reference
  let candLabels := roster candidate
  if refLabels = [] ∨ candLabels = [] then []
  else
    let matrix := candLabels.map fun cand => refLabels.map fun ref =>
      sharedTime (speakingTime reference ref) (speakingTime candidate cand)
    (assign matrix).filterMap fun (row, column) => do
      let cand ← candLabels[row]?
      let ref ← refLabels[column]?
      let shared ← matrix[row]?.bind (fun r => r[column]?)
      if 0 < shared then some (cand, ref) else none

/-! ## Scoring -/

/-- What became of a label. -/
inductive Outcome
  | accuracy
  | confusion
  | unknown
deriving DecidableEq, Repr

/-- A row of the report. -/
structure ScoreRow where
  startMs : ℤ
  endMs : ℤ
  sourceTrack : Option ℤ
  durationMs : ℤ
  bucket : String
  concurrent : Option ℤ
  truth : String
  predicted : Option String
  outcome : Outcome

/-- Counts of the outcomes and their rates, which are none of no rows. -/
structure OutcomeTriple where
  n : ℕ
  accuracy : ℕ
  confusion : ℕ
  unknown : ℕ
  rates : Outcome → Option ℚ

/-- What `score` returns. -/
structure ScoreResult where
  labelledOverlapSegments : ℕ
  undecidableByLabeller : ℕ
  notReallyOverlap : ℕ
  leakedSeparation : ℕ
  unlabelledOverlapSegments : ℕ
  overall : OutcomeTriple
  byRegionLengthMs : List (String × OutcomeTriple)
  byEstimatedConcurrentSpeakers : List (String × OutcomeTriple)
  rosterAlignment : List (String × String)
  rows : List ScoreRow

/-- The name a run gives a segment, in the words of the labels. -/
def prediction (mapping : List (String × String)) (segment : RunSegment) : Option String :=
  (predictedSpeaker segment).map (fun raw => (mapping.lookup raw).getD raw)

/-- The outcome of a name. -/
def outcomeOf (truth : String) : Option String → Outcome
  | none => .unknown
  | some name => if name = truth then .accuracy else .confusion

/-- The row of a segment with its label. -/
def scoreRow (mapping : List (String × String)) (item : RunSegment × String) : ScoreRow where
  startMs := item.1.startMs
  endMs := item.1.endMs
  sourceTrack := item.1.sourceTrack
  durationMs := item.1.endMs - item.1.startMs
  bucket := bucketOf (item.1.endMs - item.1.startMs)
  concurrent := item.1.estimatedConcurrentSpeakers
  truth := item.2
  predicted := prediction mapping item.1
  outcome := outcomeOf item.2 (prediction mapping item.1)

/-- `round(count / total, 4)`. -/
def rate (count total : ℕ) : ℚ := roundHalfEven ((10000 * count : ℚ) / total) / 10000

/-- `triple`. -/
def outcomeTriple (rows : List ScoreRow) : OutcomeTriple :=
  let count := fun name => rows.countP (fun r => r.outcome = name)
  { n := rows.length
    accuracy := count .accuracy
    confusion := count .confusion
    unknown := count .unknown
    rates := fun name => if rows.length = 0 then none else some (rate (count name) rows.length) }

/-- The overlap segments that have a label, with it. -/
def matched (segments : List RunSegment) (labels : Labels) : List (RunSegment × String) :=
  (overlapOnly segments).filterMap fun segment =>
    (labels.entries.lookup segment.key).map (fun truth => (segment, truth))

/-- Those whose label says who spoke. -/
def decidableItems (segments : List RunSegment) (labels : Labels) : List (RunSegment × String) :=
  (matched segments labels).filter (fun item => IsDecidable item.2)

/-- The order of numbers of speakers, with none at the end. -/
def concurrentLe : Option ℤ → Option ℤ → Bool
  | _, none => true
  | none, some _ => false
  | some a, some b => a ≤ b

/-- **`score`.** -/
def score (segments : List RunSegment) (labels : Labels) (mapping : List (String × String)) :
    ScoreResult :=
  let overlaps := overlapOnly segments
  let found := matched segments labels
  let labelled := fun name => (found.filter (fun item => item.2 = name)).length
  let rows := (decidableItems segments labels).map (scoreRow mapping)
  let values := ((rows.map ScoreRow.concurrent).dedup).insertionSort (fun a b => concurrentLe a b)
  { labelledOverlapSegments := found.length
    undecidableByLabeller := labelled UNDECIDABLE
    notReallyOverlap := labelled SINGLE_SPEAKER
    leakedSeparation := labelled MIXED_SOURCES
    unlabelledOverlapSegments := overlaps.length - found.length
    overall := outcomeTriple rows
    byRegionLengthMs := BUCKETS.map fun bucket =>
      (bucketName bucket, outcomeTriple (rows.filter (fun r => r.bucket = bucketName bucket)))
    byEstimatedConcurrentSpeakers := values.map fun value =>
      (value.elim "None" toString, outcomeTriple (rows.filter (fun r => r.concurrent = value)))
    rosterAlignment := mapping
    rows }

/-! ## Comparing -/

/-- **`compare`**: the exit code, which is zero for an improvement. -/
def compare (before after : ScoreResult) : ℕ :=
  if before.overall.n = 0 ∨ after.overall.n = 0 then 1
  else
    let change := fun name =>
      (after.overall.rates name).getD 0 - (before.overall.rates name).getD 0
    if 0 < change .accuracy ∧ change .confusion ≤ 0 then 0 else 2

/-- The comparison of two runs by `main`. -/
def compareRuns (assign : LinearSumAssignment) (labels : Labels) (before after : List RunSegment) :
    ℕ :=
  compare (score before labels []) (score after labels (alignToReference assign before after))

end Sastt.OverlapEval
