import Mathlib.Algebra.BigOperators.Group.List.Basic
import Mathlib.Algebra.Ring.Nat
import Mathlib.Data.List.Nodup

/-!
# Counting by classes

The entries of a list fall into classes, and a report has a block for each of
some classes, which counts the entries of every kind in it. The blocks add up to
the list, kind by kind, exactly when no entry falls into a class without a block.
-/

variable {α β κ : Type} [DecidableEq β] [DecidableEq κ]

/-- What a class holds of a kind. -/
def classCount (classOf : α → β) (kindOf : α → κ) (xs : List α) (c : β) (k : κ) : ℕ :=
  (xs.filter (fun x => classOf x = c)).countP (fun x => kindOf x = k)

/-- **Counts of different classes add up** to the count of what falls into one of
them. -/
theorem sum_countP_class (classOf : α → β) (p : α → Bool) {classes : List β}
    (h : classes.Nodup) (xs : List α) :
    (classes.map (fun c => xs.countP (fun x => classOf x = c ∧ p x))).sum
      = xs.countP (fun x => classOf x ∈ classes ∧ p x) := by
  induction classes with
  | nil => simp
  | cons c classes ih =>
    obtain ⟨hc, hrest⟩ := List.nodup_cons.mp h
    rw [List.map_cons, List.sum_cons, ih hrest]
    clear ih
    induction xs with
    | nil => rfl
    | cons x xs ih =>
      -- an entry of this class is in none of the others
      have hhead : (if classOf x ∈ c :: classes ∧ p x then 1 else 0)
          = (if classOf x = c ∧ p x then 1 else 0)
            + if classOf x ∈ classes ∧ p x then 1 else 0 := by
        by_cases hx : classOf x = c
        · simp [hx, hc]
        · simp [hx]
      simp only [List.countP_cons, decide_eq_true_iff] at ih ⊢
      omega

/-- Every entry is in its class. -/
theorem sum_countP_class_of_forall_mem (classOf : α → β) {classes : List β} (h : classes.Nodup)
    (hall : ∀ c, c ∈ classes) (xs : List α) :
    (classes.map (fun c => xs.countP (fun x => classOf x = c))).sum = xs.length := by
  simpa [hall] using sum_countP_class classOf (fun _ => true) h xs

/-- **The blocks add up to the list, kind by kind, exactly when every entry has a
block.** -/
theorem sum_classCount_eq_iff (classOf : α → β) (kindOf : α → κ) {classes : List β}
    (h : classes.Nodup) (xs : List α) :
    (∀ k, (classes.map (fun c => classCount classOf kindOf xs c k)).sum
        = xs.countP (fun x => kindOf x = k))
      ↔ ∀ x ∈ xs, classOf x ∈ classes := by
  have hsum : ∀ k, (classes.map (fun c => classCount classOf kindOf xs c k)).sum
      = (xs.filter (fun x => kindOf x = k)).countP (fun x => classOf x ∈ classes) := by
    intro k
    simpa [classCount, List.countP_filter, Bool.and_comm]
      using sum_countP_class classOf (fun x => decide (kindOf x = k)) h xs
  simp only [hsum, List.countP_eq_length_filter (p := fun x => decide (kindOf x = _)),
    List.countP_eq_length, List.mem_filter, decide_eq_true_iff]
  exact ⟨fun hall x hx => hall (kindOf x) x ⟨hx, rfl⟩, fun hall _ x hx => hall x hx.1⟩
