import Mathlib.Data.List.MinMax
import Mathlib.Data.List.Sort
import Mathlib.Order.WithBot
import Sastt.Domain.Config
import Sastt.Domain.Speakers
import Sastt.Lib.Assignments

/-!
# Linking separated sources to speakers

`link_sources` assigns each source of a separated crop to at most one
prototype, by the similarity of its embedding to the centroids. The matrix
of the scores has a row for each source and a column for each prototype,
with `⊥` for what cannot be compared; it is extended by one dummy column for
each row, so that a row may reject, and assigned. What the assignment awards
is then accepted, or not, by the thresholds of the configuration.

The assignment is `linear_sum_assignment` of the numeric library, a
parameter here. `LinkingResult.assignment` is bookkeeping: the source keeps
the columns to itself and reports keys.
-/

namespace Sastt

/-- A row of scores; `⊥` is minus infinity. -/
abbrev ScoreRow (R : Type) (m : ℕ) : Type := Fin m → WithBot R

/-- A matrix of scores. -/
abbrev ScoreMatrix (R : Type) (n m : ℕ) : Type := Fin n → ScoreRow R m

/-- The finite scores of a row, by their columns. -/
def finiteScores {R : Type} {m : ℕ} (row : ScoreRow R m) : List R :=
  (List.finRange m).filterMap (fun j => (row j).recBotCoe none some)

section Rows

variable {R : Type} [AddCommGroup R] [LinearOrder R] {m : ℕ}

/-- `np.argmax`: the first column of the largest score. -/
def argmax (row : ScoreRow R m) : Option (Fin m) := (List.finRange m).argmax row

/-- `_top_two`: the largest finite scores of a row. -/
def topTwo (row : ScoreRow R m) : WithBot R × Option R :=
  match (finiteScores row).insertionSort (· ≥ ·) with
  | [] => (⊥, none)
  | [a] => (a, none)
  | a :: b :: _ => (a, some b)

/-- The margin of a row: by how much its largest score leads, if there is a
second one. -/
def rowMargin (row : ScoreRow R m) : Option R :=
  match topTwo row with
  | ((a : R), some b) => some (a - b)
  | _ => none

end Rows

/-- A dictionary of earlier links, in the order of its keys: from source to
speaker. -/
abbrev PreviousMapping : Type := List (ℕ × String)

/-- What `link_sources` returns. -/
structure LinkingResult (R : Type) (n m : ℕ) where
  decisions : List (LinkingDecision R)
  scoreMatrix : ScoreMatrix R n m
  prototypeKeys : Fin m → String
  calibrated : Bool
  assignment : Fin n → Fin (m + n)

/-- `mapping`. -/
def LinkingResult.mapping {R : Type} {n m : ℕ} (r : LinkingResult R n m) : List (ℕ × String) :=
  r.decisions.filterMap (fun d =>
    if d.status = .linked then d.sessionSpeakerId.map (d.sourceTrack, ·) else none)

section

variable {R V : Type} [Field R] [LinearOrder R] [IsStrictOrderedRing R] [AddCommGroup V]
  [Module R V] [EmbeddingSpace R V]

/-- The score of one source against one prototype. -/
def scoreOf (embedding : Option (SpeakerEmbedding R V)) (prototype : SpeakerPrototype R V) :
    Except PyError (WithBot R) :=
  match embedding with
  | none => .ok ⊥
  | some e => (prototype.similarity e).map WithBot.some

/-- What a score was refused with. -/
def refusal {α : Type} : Except PyError α → Option PyError
  | .error e => some e
  | .ok _ => none

/-- `build_score_matrix`: every score, or the first refusal to compare. -/
def buildScoreMatrix (embeddings : List (Option (SpeakerEmbedding R V)))
    (prototypes : List (SpeakerPrototype R V)) :
    Except PyError (ScoreMatrix R embeddings.length prototypes.length) :=
  match (embeddings.flatMap (fun e => prototypes.map (scoreOf e))).findSome? refusal with
  | some e => .error e
  | none => .ok (fun i j => ((scoreOf (embeddings.get i) (prototypes.get j)).toOption).getD ⊥)

omit [IsStrictOrderedRing R] in
/-- Scores that can all be computed make up the matrix. -/
theorem buildScoreMatrix_eq_ok {embeddings : List (Option (SpeakerEmbedding R V))}
    {prototypes : List (SpeakerPrototype R V)}
    {matrix : ScoreMatrix R embeddings.length prototypes.length}
    (h : ∀ (i : Fin embeddings.length) (j : Fin prototypes.length),
      scoreOf (embeddings.get i) (prototypes.get j) = .ok (matrix i j)) :
    buildScoreMatrix embeddings prototypes = .ok matrix := by
  unfold buildScoreMatrix
  have hnone : (embeddings.flatMap (fun e => prototypes.map (scoreOf e))).findSome? refusal
      = none := by
    refine List.findSome?_eq_none_iff.mpr (fun entry hentry => ?_)
    obtain ⟨e, he, hentry⟩ := List.mem_flatMap.mp hentry
    obtain ⟨p, hp, rfl⟩ := List.mem_map.mp hentry
    obtain ⟨i, rfl⟩ := List.mem_iff_get.mp he
    obtain ⟨j, rfl⟩ := List.mem_iff_get.mp hp
    rw [h i j]
    rfl
  rw [hnone]
  refine congrArg Except.ok (funext (fun i => funext (fun j => ?_)))
  rw [h i j]
  rfl

variable {n m : ℕ}

/-- `restrict_to_candidates`. -/
def restrictToCandidates (matrix : ScoreMatrix R n m) (prototypeKeys : Fin m → String)
    (candidateKeys : Option (List String)) : ScoreMatrix R n m :=
  match candidateKeys with
  | none | some [] => matrix
  | some keys =>
    let restricted : ScoreMatrix R n m := fun i j =>
      if prototypeKeys j ∈ keys then matrix i j else ⊥
    if ∀ i j, restricted i j = ⊥ then matrix else restricted

/-- `key_index`: of two columns with one key, the later. -/
def keyIndex (prototypeKeys : Fin m → String) (key : String) : Option (Fin m) :=
  (List.finRange m).reverse.find? (fun j => prototypeKeys j = key)

/-- One step of `_apply_continuity_bonus`. -/
def boost (prototypeKeys : Fin m → String) (bonus : R) (boosted : ScoreMatrix R n m)
    (link : ℕ × String) : ScoreMatrix R n m :=
  match keyIndex prototypeKeys link.2 with
  | none => boosted
  | some j => fun i j' =>
    if i = link.1 ∧ j' = j then (boosted i j').map (· + bonus) else boosted i j'

/-- `_apply_continuity_bonus`. -/
def applyContinuityBonus (matrix : ScoreMatrix R n m) (prototypeKeys : Fin m → String)
    (previousMapping : PreviousMapping) (bonus : R) : ScoreMatrix R n m :=
  if bonus ≤ 0 then matrix else previousMapping.foldl (boost prototypeKeys bonus) matrix

/-- The matrix with a dummy column for each row, as `linear_sum_assignment`
gets it: a finite floor stands for minus infinity. -/
def solvableScores (scored : ScoreMatrix R n m) (dummyValue : WithBot R) :
    Fin n → Fin (m + n) → R :=
  let extended : ScoreMatrix R n (m + n) := fun i =>
    Fin.append (scored i) (fun l => if l = i then dummyValue else ⊥)
  let finite := ((List.finRange n).flatMap (fun i => finiteScores (extended i))).foldl min 0 - 1
  fun i c => (extended i c).unbotD finite

/-- The columns that are assigned to the sources. -/
def assignColumns (linearSumAssignment : AssignmentRule R) (base : ScoreMatrix R n m)
    (prototypeKeys : Fin m → String) (config : SourceLinkingConfig R)
    (previousMapping : PreviousMapping) (constrainedPermutation : Bool) : Fin n → Fin (m + n) :=
  let scored := applyContinuityBonus base prototypeKeys previousMapping config.continuityBonus
  let dummyValue : WithBot R :=
    if constrainedPermutation then ⊥ else (config.acceptThreshold.getD 0 : R)
  linearSumAssignment (Nat.le_add_left n m) (solvableScores scored dummyValue)

/-- `argmax_owner`: the sources with an embedding whose best column it is. -/
def argmaxOwners (hasEmbedding : Fin n → Bool) (base : ScoreMatrix R n m) (j : Fin m) :
    List (Fin n) :=
  (List.finRange n).filter (fun i => hasEmbedding i && argmax (base i) = some j && base i j ≠ ⊥)

/-- Whether another source is drawn to the best column of the source, and the
source was assigned another one. -/
def contested (hasEmbedding : Fin n → Bool) (base : ScoreMatrix R n m) (i : Fin n) (j : Fin m) :
    Bool :=
  match argmax (base i) with
  | none => false
  | some preferred => 1 < (argmaxOwners hasEmbedding base preferred).length && j ≠ preferred

/-- The decision on one source, from the column it was assigned. -/
def decideSource (hasEmbedding : Fin n → Bool) (base : ScoreMatrix R n m)
    (prototypeKeys : Fin m → String) (config : SourceLinkingConfig R)
    (constrainedPermutation : Bool) (assignment : Fin n → Fin (m + n)) (i : Fin n) :
    LinkingDecision R :=
  let top1 : Option (WithBot R) := (topTwo (base i)).1.recBotCoe none (fun s => some s)
  let margin := rowMargin (base i)
  let rejected (status : LinkStatus) (score : Option (WithBot R)) (margin : Option R)
      (reason : String) : LinkingDecision R :=
    { sourceTrack := i, sessionSpeakerId := none, status, score, margin, reason }
  if hasEmbedding i = false then rejected .unknown none none "no_embedding"
  else
    match config.acceptThreshold, config.ambiguousMargin with
    | some acceptThreshold, some ambiguousMargin =>
      Fin.addCases
        (fun j =>
          -- a pair that is masked has the score minus infinity, not none
          let score := some (base i j)
          let linked (reason : String) : LinkingDecision R :=
            { sourceTrack := i, sessionSpeakerId := some (prototypeKeys j), status := .linked,
              score, margin, reason }
          if constrainedPermutation = true ∧ base i j ≠ ⊥ then
            linked "linked_diarization_constrained"
          else if base i j < acceptThreshold then
            rejected .unknown score margin "below_accept_threshold"
          else if ∃ d ∈ margin, d < ambiguousMargin then
            rejected .ambiguous score margin "low_margin"
          else if contested hasEmbedding base i j then
            rejected .ambiguous score margin "contested_identity"
          else linked "linked")
        (fun _ => rejected .unknown top1 margin "assigned_to_unknown")
        (assignment i)
    | _, _ => rejected .uncalibrated top1 margin "uncalibrated_threshold"

/-- The decisions when there is nobody to link to. -/
def noPrototype (embeddings : List (Option (SpeakerEmbedding R V)))
    (i : Fin embeddings.length) : LinkingDecision R where
  sourceTrack := i
  sessionSpeakerId := none
  status := .unknown
  reason := if (embeddings.get i).isSome then "no_prototype" else "no_embedding"

/-- The scores of the sources against the candidates. -/
def baseScores (embeddings : List (Option (SpeakerEmbedding R V)))
    (prototypes : List (SpeakerPrototype R V)) (candidateKeys : Option (List String)) :
    Except PyError (ScoreMatrix R embeddings.length prototypes.length) := do
  let matrix ← buildScoreMatrix embeddings prototypes
  return restrictToCandidates matrix (fun j => (prototypes.get j).speakerKey) candidateKeys

/-- The assignment and the decisions, from the scores. -/
def linkScores (linearSumAssignment : AssignmentRule R)
    (embeddings : List (Option (SpeakerEmbedding R V))) (prototypes : List (SpeakerPrototype R V))
    (config : SourceLinkingConfig R) (previousMapping : PreviousMapping)
    (constrainedPermutation : Bool)
    (base : ScoreMatrix R embeddings.length prototypes.length) :
    LinkingResult R embeddings.length prototypes.length :=
  let prototypeKeys : Fin prototypes.length → String := fun j => (prototypes.get j).speakerKey
  let assignment := assignColumns linearSumAssignment base prototypeKeys config previousMapping
    constrainedPermutation
  { decisions :=
      if prototypes = [] then (List.finRange embeddings.length).map (noPrototype embeddings)
      else (List.finRange embeddings.length).map
        (decideSource (fun i => (embeddings.get i).isSome) base prototypeKeys config
          constrainedPermutation assignment)
    scoreMatrix := base
    prototypeKeys
    calibrated := config.isCalibrated
    assignment }

/-- **`link_sources`.** -/
def linkSources (linearSumAssignment : AssignmentRule R)
    (embeddings : List (Option (SpeakerEmbedding R V))) (prototypes : List (SpeakerPrototype R V))
    (config : SourceLinkingConfig R) (previousMapping : PreviousMapping)
    (candidateKeys : Option (List String)) (constrainedPermutation : Bool) :
    Except PyError (LinkingResult R embeddings.length prototypes.length) := do
  let base ← baseScores embeddings prototypes candidateKeys
  return linkScores linearSumAssignment embeddings prototypes config previousMapping
    constrainedPermutation base

end

end Sastt
