import Mathlib.Data.Rat.Defs
import Sastt.Domain.Transcript
import Sastt.Lib.EditDistance

/-!
# The word error rate of a report

`word_error_rate` fills a table row by row: one row for each token of the
reference, and in it one entry for each beginning of the hypothesis. Only the
last row is kept. It reads the row before and the entry it has just appended,
so what has to be right are the indices; an index past the end raises.

The rows are those of the table of edit distances (`nextRow_distanceRow`), and
the rate is the edit distance of the two texts for each token of the reference
(`wordErrorRate_eq`). The quotient is taken exactly; the source divides
floating point numbers.
-/

namespace Sastt.BenchmarkReport

/-- `str.split`: what stands between spaces. -/
def split (s : String) : List String :=
  ((s.toList.splitOnP isSpace).filter (· ≠ [])).map String.ofList

/-- `row[index]`. -/
def entryAt (row : List ℕ) (index : ℕ) : Except PyError ℕ :=
  match row[index]? with
  | some entry => .ok entry
  | none => .error (.other "list index out of range")

/-- What the inner loop appends to the row for one token of the hypothesis. -/
def appendEntry (token : String) (row nextRow : List ℕ) (actual : String × ℕ) :
    Except PyError (List ℕ) := do
  let above ← entryAt row actual.2
  let before ← entryAt nextRow (actual.2 - 1)
  let diagonal ← entryAt row (actual.2 - 1)
  return nextRow ++
    [min (min (above + 1) (before + 1)) (diagonal + if token ≠ actual.1 then 1 else 0)]

/-- The row for one token of the reference. -/
def nextRow (actual : List String) (row : List ℕ) (expected : String × ℕ) :
    Except PyError (List ℕ) :=
  (actual.zipIdx 1).foldlM (appendEntry expected.1 row) [expected.2]

/-- **`word_error_rate`.** -/
def wordErrorRate (reference hypothesis : String) : Except PyError ℚ :=
  let expected := split reference
  let actual := split hypothesis
  if expected = [] then .ok (if actual = [] then 0 else 1)
  else do
    let row ← (expected.zipIdx 1).foldlM (nextRow actual) (List.range (actual.length + 1))
    let last ← entryAt row (row.length - 1)
    return (last : ℚ) / expected.length

/-! ## The table -/

theorem entryAt_eq_ok {row : List ℕ} {index entry : ℕ} (h : row[index]? = some entry) :
    entryAt row index = .ok entry := by
  unfold entryAt
  rw [h]

/-- An enumerated loop that keeps what it is to have at every beginning. -/
theorem foldlM_zipIdx_eq_ok {α β : Type} {f : β → α × ℕ → Except PyError β} {K : List α → β}
    {xs : List α} (hstep : ∀ before a after, xs = before ++ a :: after →
      f (K before) (a, before.length + 1) = .ok (K (before ++ [a]))) :
    (xs.zipIdx 1).foldlM f (K []) = .ok (K xs) := by
  have hloop : ∀ after before, xs = before ++ after →
      (after.zipIdx (before.length + 1)).foldlM f (K before) = .ok (K xs) := by
    intro after
    induction after with
    | nil =>
      intro before hxs
      rw [hxs, List.append_nil]
      rfl
    | cons a after ih =>
      intro before hxs
      have hrest := ih (before ++ [a]) (by rw [hxs, List.append_cons])
      rw [List.zipIdx_cons, List.foldlM_cons, hstep before a after hxs]
      rwa [List.length_append, List.length_singleton] at hrest
  exact hloop xs [] rfl

/-- **One entry.** -/
theorem appendEntry_distanceRow (token actualToken : String) (expected before after : List String) :
    appendEntry token (distanceRow expected (before ++ actualToken :: after))
        (distanceRow (expected ++ [token]) before) (actualToken, before.length + 1)
      = .ok (distanceRow (expected ++ [token]) (before ++ [actualToken])) := by
  have hlt : before.length < (before ++ actualToken :: after).length := by simp
  have habove := getElem?_distanceRow expected (Nat.succ_le_of_lt hlt)
  have hdiagonal := getElem?_distanceRow expected hlt.le
  have hbefore := getElem?_distanceRow (expected ++ [token]) (le_refl before.length)
  rw [List.take_left] at hdiagonal
  rw [List.take_length] at hbefore
  rw [List.append_cons, List.take_left' (by simp)] at habove
  unfold appendEntry
  dsimp only
  rw [Nat.add_sub_cancel, List.append_cons, entryAt_eq_ok habove, ← List.append_cons,
    entryAt_eq_ok hdiagonal, entryAt_eq_ok hbefore, distanceRow_concat,
    editDistance_concat_concat]
  rfl

/-- **One row.** -/
theorem nextRow_distanceRow (token : String) (expected actual : List String) :
    nextRow actual (distanceRow expected actual) (token, expected.length + 1)
      = .ok (distanceRow (expected ++ [token]) actual) := by
  have hfirst : distanceRow (expected ++ [token]) [] = [expected.length + 1] := by
    simp [distanceRow]
  unfold nextRow
  rw [← hfirst]
  refine foldlM_zipIdx_eq_ok (fun before actualToken after hactual => ?_)
  rw [hactual]
  exact appendEntry_distanceRow token actualToken expected before after

/-- **The rows are those of the table.** -/
theorem foldlM_nextRow (expected actual : List String) :
    (expected.zipIdx 1).foldlM (nextRow actual) (List.range (actual.length + 1))
      = .ok (distanceRow expected actual) := by
  rw [← distanceRow_nil_left]
  exact foldlM_zipIdx_eq_ok (K := fun before => distanceRow before actual)
    (fun before token _ _ => nextRow_distanceRow token before actual)

/-- **The rate is the edit distance for each token of the reference.** -/
theorem wordErrorRate_eq (reference hypothesis : String) :
    (split reference ≠ [] →
      ∃ edits, IsLeast {n | EditsIn n (split reference) (split hypothesis)} edits
        ∧ wordErrorRate reference hypothesis = .ok ((edits : ℚ) / (split reference).length))
    ∧ (split reference = [] →
      wordErrorRate reference hypothesis = .ok (if split hypothesis = [] then 0 else 1)) := by
  unfold wordErrorRate
  dsimp only
  refine ⟨fun hsome => ?_, fun hnone => if_pos hnone⟩
  have hlast := getElem?_distanceRow (split reference) (le_refl (split hypothesis).length)
  rw [List.take_length] at hlast
  refine ⟨_, isLeast_editDistance _ _, ?_⟩
  rw [if_neg hsome, foldlM_nextRow]
  show (do
    let last ← entryAt (distanceRow (split reference) (split hypothesis))
      ((distanceRow (split reference) (split hypothesis)).length - 1)
    return (last : ℚ) / (split reference).length) = _
  rw [length_distanceRow, Nat.add_sub_cancel, entryAt_eq_ok hlast]
  rfl

/-- Two words are inserted between and after two. -/
theorem wordErrorRate_greeting :
    ∃ edits, IsLeast {n | EditsIn n (split "xin chào") (split "xin kính chào bạn")} edits
      ∧ wordErrorRate "xin chào" "xin kính chào bạn" = .ok ((edits : ℚ) / 2) :=
  (wordErrorRate_eq "xin chào" "xin kính chào bạn").1 (by decide)

end Sastt.BenchmarkReport
