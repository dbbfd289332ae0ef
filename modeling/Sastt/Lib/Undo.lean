import Mathlib.Data.List.Basic
import Mathlib.Logic.Function.Iterate

/-!
# Values that can be undone

A value that keeps those it had before, the latest last. To set it keeps the value there is, and
to undo takes the latest one back. The first value of all is kept nowhere: to undo it does
nothing, and takes an older one back if one was left behind.

So any number of settings are undone by as many undos, if there was a value before the first,
and never otherwise (`undo_iterate_foldl_set_iff`).
-/

variable {α : Type}

/-- A value with those it had before. -/
@[ext] structure Undoable (α : Type) where
  current : Option α
  history : List α

namespace Undoable

variable {u : Undoable α} {a : α} {l : List α}

/-- The value is set, and the one there is is kept. -/
def set (u : Undoable α) (a : α) : Undoable α where
  current := some a
  history := u.history ++ u.current.toList

/-- The latest value that was kept is taken back. -/
def undo (u : Undoable α) : Undoable α :=
  match u.history.getLast? with
  | none => u
  | some a => ⟨some a, u.history.dropLast⟩

@[simp] theorem isSome_current_set (u : Undoable α) (a : α) : (u.set a).current.isSome = true := rfl

/-- To undo gives nothing that was not there. -/
theorem history_undo_subset (u : Undoable α) : u.undo.history ⊆ u.history := by
  unfold undo
  split
  · exact List.Subset.refl _
  · exact List.dropLast_subset _

theorem current_undo (h : u.undo.current = some a) : a ∈ u.history ∨ u.current = some a := by
  unfold undo at h
  split at h
  · exact Or.inr h
  · next b hlast =>
    cases h
    exact Or.inl (List.mem_of_getLast? hlast)

/-- A value that is there stays there. -/
theorem isSome_current_undo (h : u.current.isSome = true) : u.undo.current.isSome = true := by
  unfold undo
  split
  · exact h
  · rfl

theorem isSome_current_undo_iterate (h : u.current.isSome = true) (n : ℕ) :
    (undo^[n] u).current.isSome = true := by
  induction n with
  | zero => exact h
  | succ n ih =>
    rw [Function.iterate_succ_apply']
    exact isSome_current_undo ih

theorem isSome_current_foldl_set (h : u.current.isSome = true) (l : List α) :
    (l.foldl set u).current.isSome = true := by
  induction l generalizing u with
  | nil => exact h
  | cons a l ih => exact ih (isSome_current_set u a)

theorem isSome_current_foldl_set_of_ne_nil (u : Undoable α) (hl : l ≠ []) :
    (l.foldl set u).current.isSome = true := by
  obtain ⟨a, l, rfl⟩ := List.exists_cons_of_ne_nil hl
  exact isSome_current_foldl_set (isSome_current_set u a) l

/-- A setting is undone, if there was a value. -/
theorem undo_set (h : u.current.isSome = true) (a : α) : (u.set a).undo = u := by
  obtain ⟨b, hb⟩ := Option.isSome_iff_exists.mp h
  have hhistory : (u.set a).history = u.history ++ [b] := by
    show u.history ++ u.current.toList = u.history ++ [b]
    rw [hb]
    rfl
  unfold undo
  rw [hhistory, List.getLast?_concat, List.dropLast_concat]
  exact Undoable.ext hb.symm rfl

/-- **Settings are undone one by one**, if there was a value before them. -/
theorem undo_iterate_foldl_set (h : u.current.isSome = true) (l : List α) :
    undo^[l.length] (l.foldl set u) = u := by
  induction l generalizing u with
  | nil => rfl
  | cons a l ih =>
    rw [List.length_cons, Function.iterate_succ_apply', List.foldl_cons,
      ih (isSome_current_set u a), undo_set h]

/-- **Settings are undone exactly if there was a value before them.** -/
theorem undo_iterate_foldl_set_iff (hl : l ≠ []) :
    undo^[l.length] (l.foldl set u) = u ↔ u.current.isSome = true := by
  refine ⟨fun hundone => ?_, fun h => undo_iterate_foldl_set h l⟩
  rw [← hundone]
  exact isSome_current_undo_iterate (isSome_current_foldl_set_of_ne_nil u hl) _

end Undoable
