import Mathlib.Data.List.Basic
import Mathlib.Order.Bounds.Basic
import Mathlib.Order.MinMax

/-!
# The edit distance of two lists

One edit inserts an entry somewhere, deletes one, or puts another in its
place. `EditsIn n xs ys` says that `n` edits turn `xs` into `ys`.

`editDistance` is computed from the front: the first entries agree, or one of
them is inserted, deleted or replaced. One edit changes it by at most one
(`Edit.editDistance_le`), and that many edits are enough
(`editsIn_editDistance`), so it is the least number of edits
(`isLeast_editDistance`). From the back the number is the same
(`editDistance_reverse`): a table over the beginnings of two lists holds the
distances of the beginnings (`distanceRow`).
-/

variable {α : Type}

/-- **One edit** of a list. -/
inductive Edit : List α → List α → Prop
  | insertion (l r : List α) (a : α) : Edit (l ++ r) (l ++ a :: r)
  | deletion (l r : List α) (a : α) : Edit (l ++ a :: r) (l ++ r)
  | substitution (l r : List α) (a b : α) : Edit (l ++ a :: r) (l ++ b :: r)

/-- **So many edits** turn the one list into the other. -/
inductive EditsIn : ℕ → List α → List α → Prop
  | refl (xs : List α) : EditsIn 0 xs xs
  | head {n : ℕ} {xs ys zs : List α} (first : Edit xs ys) (rest : EditsIn n ys zs) :
      EditsIn (n + 1) xs zs

variable {n : ℕ} {xs ys zs : List α}

theorem Edit.cons (x : α) (h : Edit xs ys) : Edit (x :: xs) (x :: ys) := by
  cases h with
  | insertion l r a => exact .insertion (x :: l) r a
  | deletion l r a => exact .deletion (x :: l) r a
  | substitution l r a b => exact .substitution (x :: l) r a b

theorem Edit.reverse (h : Edit xs ys) : Edit xs.reverse ys.reverse := by
  cases h with
  | insertion l r a => simpa using Edit.insertion r.reverse l.reverse a
  | deletion l r a => simpa using Edit.deletion r.reverse l.reverse a
  | substitution l r a b => simpa using Edit.substitution r.reverse l.reverse a b

theorem EditsIn.cons (x : α) (h : EditsIn n xs ys) : EditsIn n (x :: xs) (x :: ys) := by
  induction h with
  | refl xs => exact .refl (x :: xs)
  | head first _ ih => exact .head (first.cons x) ih

theorem EditsIn.reverse (h : EditsIn n xs ys) : EditsIn n xs.reverse ys.reverse := by
  induction h with
  | refl xs => exact .refl xs.reverse
  | head first _ ih => exact .head first.reverse ih

theorem editsIn_reverse_iff : EditsIn n xs.reverse ys.reverse ↔ EditsIn n xs ys := by
  refine ⟨fun h => ?_, EditsIn.reverse⟩
  simpa only [List.reverse_reverse] using h.reverse

/-! ## The distance -/

section Distance

variable [DecidableEq α]

/-- The distance from `x :: xs`, where `distance` is the one from `xs`. -/
def distanceCons (x : α) (distance : List α → ℕ) : List α → ℕ
  | [] => distance [] + 1
  | y :: ys => min (min (distance (y :: ys) + 1) (distanceCons x distance ys + 1))
      (distance ys + if x ≠ y then 1 else 0)

/-- **The edit distance.** -/
def editDistance : List α → List α → ℕ
  | [] => List.length
  | x :: xs => distanceCons x (editDistance xs)

@[simp] theorem editDistance_nil_left (ys : List α) : editDistance [] ys = ys.length := rfl

@[simp] theorem editDistance_nil_right (xs : List α) : editDistance xs [] = xs.length := by
  induction xs with
  | nil => rfl
  | cons x xs ih => exact congrArg (· + 1) ih

theorem editDistance_cons_cons (x y : α) (xs ys : List α) :
    editDistance (x :: xs) (y :: ys)
      = min (min (editDistance xs (y :: ys) + 1) (editDistance (x :: xs) ys + 1))
        (editDistance xs ys + if x ≠ y then 1 else 0) := rfl

@[simp] theorem editDistance_self (xs : List α) : editDistance xs xs = 0 := by
  induction xs with
  | nil => rfl
  | cons x xs ih => rw [editDistance_cons_cons, ih]; simp

/-- A list is at most one edit further away with one more entry in front. -/
theorem editDistance_cons_left_le (x : α) (xs ys : List α) :
    editDistance (x :: xs) ys ≤ editDistance xs ys + 1 := by
  cases ys with
  | nil => simp
  | cons y ys => rw [editDistance_cons_cons]; omega

theorem editDistance_cons_right_le (y : α) (xs ys : List α) :
    editDistance xs (y :: ys) ≤ editDistance xs ys + 1 := by
  cases xs with
  | nil => simp
  | cons x xs => rw [editDistance_cons_cons]; omega

theorem editDistance_cons_cons_le (x y : α) (xs ys : List α) :
    editDistance (x :: xs) (y :: ys) ≤ editDistance xs ys + if x ≠ y then 1 else 0 :=
  min_le_right _ _

/-! ### One edit -/

/-- What is within one of the distance from `x :: xs`, along the three ways
through the first entries. -/
theorem editDistance_le_cons {x : α} (hdelete : ∀ zs, editDistance ys zs ≤ editDistance xs zs + 2)
    (hreplace : ∀ z zs, editDistance ys (z :: zs)
      ≤ editDistance xs zs + (if x ≠ z then 1 else 0) + 1) (zs : List α) :
    editDistance ys zs ≤ editDistance (x :: xs) zs + 1 := by
  induction zs with
  | nil => simpa using hdelete []
  | cons z zs ih =>
    have hinsert := editDistance_cons_right_le z ys zs
    have hdelete := hdelete (z :: zs)
    have hreplace := hreplace z zs
    rw [editDistance_cons_cons]
    omega

/-- **One edit changes the distance by at most one.** -/
theorem Edit.editDistance_le (h : Edit xs ys) (zs : List α) :
    editDistance xs zs ≤ editDistance ys zs + 1 := by
  have hcons : ∀ (l : List α) {xs ys : List α},
      (∀ zs, editDistance xs zs ≤ editDistance ys zs + 1) →
      ∀ zs, editDistance (l ++ xs) zs ≤ editDistance (l ++ ys) zs + 1 := by
    intro l xs ys h
    induction l with
    | nil => exact h
    | cons x l ih =>
      rw [List.cons_append, List.cons_append]
      refine editDistance_le_cons (fun zs => ?_) (fun z zs => ?_)
      · exact (editDistance_cons_left_le x _ zs).trans (Nat.succ_le_succ (ih zs))
      · have hreplace := editDistance_cons_cons_le x z (l ++ xs) zs
        have hrest := ih zs
        omega
  cases h with
  | insertion l r a =>
    refine hcons l (editDistance_le_cons (fun zs => Nat.le_add_right _ 2) (fun z zs => ?_)) zs
    have hinsert := editDistance_cons_right_le z r zs
    omega
  | deletion l r a => exact hcons l (editDistance_cons_left_le a r) zs
  | substitution l r a b =>
    refine hcons l (editDistance_le_cons (fun zs => ?_) (fun z zs => ?_)) zs
    · exact (editDistance_cons_left_le a r zs).trans (Nat.le_succ _)
    · have hreplace := editDistance_cons_cons_le a z r zs
      split_ifs at hreplace ⊢ <;> omega

/-- So many edits are at least the distance. -/
theorem EditsIn.editDistance_le (h : EditsIn n xs ys) : editDistance xs ys ≤ n := by
  induction h with
  | refl xs => exact (editDistance_self xs).le
  | head first _ ih => exact (first.editDistance_le _).trans (Nat.succ_le_succ ih)

/-! ### The least number of edits -/

/-- **The distance is a number of edits** that is enough. -/
theorem editsIn_editDistance (xs ys : List α) : EditsIn (editDistance xs ys) xs ys := by
  induction xs generalizing ys with
  | nil =>
    induction ys with
    | nil => exact .refl []
    | cons y ys ih => exact .head (.insertion [] [] y) (ih.cons y)
  | cons x xs ih =>
    induction ys with
    | nil =>
      rw [editDistance_nil_right, List.length_cons, ← editDistance_nil_right]
      exact .head (.deletion [] xs x) (ih [])
    | cons y ys ihys =>
      rw [editDistance_cons_cons]
      rcases min_choice (min (editDistance xs (y :: ys) + 1) (editDistance (x :: xs) ys + 1))
        (editDistance xs ys + if x ≠ y then 1 else 0) with hmin | hmin
      · rw [hmin]
        rcases min_choice (editDistance xs (y :: ys) + 1) (editDistance (x :: xs) ys + 1)
          with hmin | hmin
        · rw [hmin]
          exact .head (.deletion [] xs x) (ih (y :: ys))
        · rw [hmin]
          exact .head (.insertion [] (x :: xs) y) (ihys.cons y)
      · rw [hmin]
        by_cases hxy : x = y
        · subst hxy
          simpa using (ih ys).cons x
        · rw [if_pos hxy]
          exact .head (.substitution [] xs x y) ((ih ys).cons y)

/-- **The distance is the least number of edits.** -/
theorem isLeast_editDistance (xs ys : List α) :
    IsLeast {n | EditsIn n xs ys} (editDistance xs ys) :=
  ⟨editsIn_editDistance xs ys, fun _ h => h.editDistance_le⟩

/-- **From the back it is the same.** -/
theorem editDistance_reverse (xs ys : List α) :
    editDistance xs.reverse ys.reverse = editDistance xs ys := by
  refine (isLeast_editDistance _ _).unique ?_
  simpa only [editsIn_reverse_iff] using isLeast_editDistance xs ys

/-! ## Tables -/

theorem editDistance_concat_concat (x y : α) (xs ys : List α) :
    editDistance (xs ++ [x]) (ys ++ [y])
      = min (min (editDistance xs (ys ++ [y]) + 1) (editDistance (xs ++ [x]) ys + 1))
        (editDistance xs ys + if x ≠ y then 1 else 0) := by
  have hcons := editDistance_cons_cons x y xs.reverse ys.reverse
  rwa [← List.reverse_concat, ← List.reverse_concat, editDistance_reverse, editDistance_reverse,
    editDistance_reverse, editDistance_reverse] at hcons

/-- **A row of the table**: the distances of `xs` from the beginnings of
`ys`. -/
def distanceRow (xs ys : List α) : List ℕ :=
  (List.range (ys.length + 1)).map (fun j => editDistance xs (ys.take j))

@[simp] theorem length_distanceRow (xs ys : List α) :
    (distanceRow xs ys).length = ys.length + 1 := by
  simp [distanceRow]

theorem getElem?_distanceRow {j : ℕ} (xs : List α) (hj : j ≤ ys.length) :
    (distanceRow xs ys)[j]? = some (editDistance xs (ys.take j)) := by
  simp [distanceRow, List.getElem?_range (Nat.lt_succ_of_le hj)]

@[simp] theorem distanceRow_nil_left (ys : List α) :
    distanceRow [] ys = List.range (ys.length + 1) := by
  refine (List.map_congr_left (fun j hj => ?_)).trans (List.map_id _)
  rw [editDistance_nil_left, List.length_take]
  exact min_eq_left (Nat.le_of_lt_succ (List.mem_range.mp hj))

/-- One more entry of `ys` is one more distance. -/
theorem distanceRow_concat (xs ys : List α) (y : α) :
    distanceRow xs (ys ++ [y]) = distanceRow xs ys ++ [editDistance xs (ys ++ [y])] := by
  unfold distanceRow
  rw [List.length_append, List.length_singleton, List.range_succ, List.map_append,
    List.map_singleton, List.take_of_length_le (by simp)]
  refine congrArg (· ++ _) (List.map_congr_left (fun j hj => ?_))
  rw [List.take_append_of_le_length (Nat.le_of_lt_succ (List.mem_range.mp hj))]

end Distance
