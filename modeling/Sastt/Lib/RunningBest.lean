import Mathlib.Order.BoundedOrder.Basic
import Mathlib.Order.Lattice
import Mathlib.Data.List.Induction

/-!
# The best so far

A loop keeps the best element it has met, by a key: a greater key wins, and an equal one
only for an element that is preferred. Elements whose key is the least are passed over.

What it ends up with does not say which of several equals it is, but it says all the
rest (`RunningBest`): an element of greatest key, and a preferred one if some element of
greatest key is preferred. So what is read off the element does not depend on the order
of the elements, if the equals agree in it (`RunningBest.map_eq`).
-/

variable {α β κ : Type} [LinearOrder κ] [OrderBot κ] {key : α → κ} {prefer : α → Prop}
  {xs ys : List α} {best best' : Option α × κ} {a : α}

/-- One turn of the loop. -/
def keepBest (key : α → κ) (prefer : α → Prop) [DecidablePred prefer] (best : Option α × κ)
    (a : α) : Option α × κ :=
  if key a = ⊥ then best
  else if best.2 < key a then (some a, key a)
  else if key a = best.2 ∧ prefer a then (some a, best.2)
  else best

/-- **An element of greatest key**, that is not passed over. -/
structure IsLargest (key : α → κ) (xs : List α) (a : α) : Prop where
  mem : a ∈ xs
  counts : key a ≠ ⊥
  bound : ∀ x ∈ xs, key x ≤ key a

/-- **What the loop has found** after some elements. -/
structure RunningBest (key : α → κ) (prefer : α → Prop) (xs : List α) (best : Option α × κ) :
    Prop where
  bound : ∀ x ∈ xs, key x ≤ best.2
  none_iff : best.1 = none ↔ best.2 = ⊥
  found : ∀ a ∈ best.1, a ∈ xs ∧ key a = best.2
  preferred : ∀ a ∈ best.1, (∃ x ∈ xs, key x = best.2 ∧ prefer x) → prefer a

namespace RunningBest

theorem nil : RunningBest key prefer [] (none, ⊥) :=
  ⟨fun _ hx => absurd hx List.not_mem_nil, iff_of_true rfl rfl, nofun, nofun⟩

/-- **One turn.** -/
theorem step [DecidablePred prefer] (h : RunningBest key prefer xs best) (a : α) :
    RunningBest key prefer (xs ++ [a]) (keepBest key prefer best a) := by
  have hkeep : key a ≤ best.2 → (key a = best.2 → best.1 ≠ none → prefer a → False) →
      RunningBest key prefer (xs ++ [a]) best := by
    intro hle hequal
    refine ⟨fun x hx => ?_, h.none_iff, fun b hb => ?_, fun b hb hsome => ?_⟩
    · rcases List.mem_append.mp hx with hx | hx
      · exact h.bound x hx
      · rwa [List.mem_singleton.mp hx]
    · exact ⟨List.mem_append_left _ (h.found b hb).1, (h.found b hb).2⟩
    · obtain ⟨x, hx, hkey, hprefer⟩ := hsome
      rcases List.mem_append.mp hx with hx | hx
      · exact h.preferred b hb ⟨x, hx, hkey, hprefer⟩
      · rw [List.mem_singleton.mp hx] at hkey hprefer
        exact (hequal hkey (fun hnone => nomatch hnone.symm.trans hb) hprefer).elim
  unfold keepBest
  split
  · next hbot =>
    refine hkeep (hbot ▸ bot_le) (fun hkey hsome _ => hsome (h.none_iff.mpr ?_))
    rw [← hkey, hbot]
  · next hbot =>
    split
    · next hlt =>
      refine ⟨fun x hx => ?_, iff_of_false nofun hbot, ?_, ?_⟩
      · rcases List.mem_append.mp hx with hx | hx
        · exact (h.bound x hx).trans hlt.le
        · exact (List.mem_singleton.mp hx).symm ▸ le_refl _
      · rintro b ⟨⟩
        exact ⟨List.mem_append_right _ (List.mem_singleton_self _), rfl⟩
      · rintro b ⟨⟩ ⟨x, hx, hkey, hprefer⟩
        rcases List.mem_append.mp hx with hx | hx
        · exact absurd hkey ((h.bound x hx).trans_lt hlt).ne
        · rwa [← List.mem_singleton.mp hx]
    · next hlt =>
      split
      · next heq =>
        refine ⟨fun x hx => ?_, iff_of_false nofun (heq.1 ▸ hbot), ?_, ?_⟩
        · rcases List.mem_append.mp hx with hx | hx
          · exact h.bound x hx
          · exact (List.mem_singleton.mp hx).symm ▸ heq.1.le
        · rintro b ⟨⟩
          exact ⟨List.mem_append_right _ (List.mem_singleton_self _), heq.1⟩
        · rintro b ⟨⟩ -
          exact heq.2
      · next hother =>
        exact hkeep (not_lt.mp hlt) (fun hkey _ hprefer => hother ⟨hkey, hprefer⟩)

/-- **The whole loop.** -/
theorem foldl [DecidablePred prefer] (xs : List α) :
    RunningBest key prefer xs (xs.foldl (keepBest key prefer) (none, ⊥)) := by
  induction xs using List.reverseRecOn with
  | nil => exact nil
  | append_singleton xs a ih =>
    rw [List.foldl_append]
    exact ih.step a

/-- Nothing is found exactly if all elements are passed over. -/
theorem eq_none_iff (h : RunningBest key prefer xs best) :
    best.1 = none ↔ ∀ x ∈ xs, key x = ⊥ := by
  constructor
  · intro hnone x hx
    exact le_bot_iff.mp ((h.bound x hx).trans_eq (h.none_iff.mp hnone))
  · intro hall
    cases hbest : best.1 with
    | none => rfl
    | some a =>
      obtain ⟨ha, hkey⟩ := h.found a hbest
      exact hbest ▸ h.none_iff.mpr (hkey ▸ hall a ha)

/-- What is found is of greatest key. -/
theorem isLargest (h : RunningBest key prefer xs best) (ha : a ∈ best.1) :
    IsLargest key xs a := by
  obtain ⟨hmem, hkey⟩ := h.found a ha
  refine ⟨hmem, fun hbot => ?_, fun x hx => (h.bound x hx).trans_eq hkey.symm⟩
  exact nomatch (h.none_iff.mpr (hkey ▸ hbot)).symm.trans ha

/-- An element of greatest key has the key that was found. -/
theorem key_eq (h : RunningBest key prefer xs best) (ha : IsLargest key xs a) :
    key a = best.2 := by
  refine le_antisymm (h.bound a ha.mem) ?_
  cases hbest : best.1 with
  | none => exact (h.none_iff.mp hbest).symm ▸ bot_le
  | some b => exact (h.found b hbest).2 ▸ ha.bound b (h.found b hbest).1

/-- **What is read off the best** is the same for all orders of the elements, if it is
the same for all of greatest key, or one of them is preferred. -/
theorem map_eq {f : α → β} (h : RunningBest key prefer xs best)
    (h' : RunningBest key prefer ys best') (hsame : ∀ x, x ∈ xs ↔ x ∈ ys)
    (hprefer : ∀ x y, prefer x → prefer y → f x = f y)
    (hone : (∀ x y, IsLargest key xs x → IsLargest key xs y → f x = f y)
      ∨ ∃ x, IsLargest key xs x ∧ prefer x) :
    best.1.map f = best'.1.map f := by
  have hlargest : ∀ {x}, IsLargest key ys x → IsLargest key xs x := fun hx =>
    ⟨(hsame _).mpr hx.mem, hx.counts, fun y hy => hx.bound y ((hsame y).mp hy)⟩
  cases hbest : best.1 with
  | none =>
    have hnone : best'.1 = none :=
      h'.eq_none_iff.mpr (fun x hx => h.eq_none_iff.mp hbest x ((hsame x).mpr hx))
    rw [hnone]
  | some a =>
    cases hbest' : best'.1 with
    | none =>
      have hnone := h.eq_none_iff.mpr
        (fun x hx => h'.eq_none_iff.mp hbest' x ((hsame x).mp hx))
      exact nomatch hnone.symm.trans hbest
    | some b =>
      have ha := h.isLargest hbest
      have hb := hlargest (h'.isLargest hbest')
      refine congrArg some ?_
      rcases hone with hagree | ⟨x, hx, hpreferred⟩
      · exact hagree a b ha hb
      · have hx' : IsLargest key ys x :=
          ⟨(hsame x).mp hx.mem, hx.counts, fun y hy => hx.bound y ((hsame y).mpr hy)⟩
        exact hprefer a b (h.preferred a hbest ⟨x, hx.mem, h.key_eq hx, hpreferred⟩)
          (h'.preferred b hbest' ⟨x, hx'.mem, h'.key_eq hx', hpreferred⟩)

end RunningBest
