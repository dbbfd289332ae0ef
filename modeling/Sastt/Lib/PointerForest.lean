import Mathlib.Data.Nat.Notation
import Mathlib.Order.Lattice

/-!
# Pointer forests

A family of nodes in which each points at most at one other, and following
the pointers always ends: the shape left by merging records into one
another by setting a forwarding pointer. `PointerForest.root` is where the
pointers of a node end, `PointerForest.link` points one root at another,
and `PointerForest.root_link` says what linking does to every root at
once.

Following pointers is a loop, and its bound is data: `height` bounds the
number of pointers on any chain, so `root` is computed and a program that
chases pointers with enough fuel computes it too
(`PointerForest.chase_eq_root`). Linking two roots raises the bound by at
most one (`PointerForest.link`), which is why counting the links bounds
the chains.
-/

variable {α : Type}

/-- Follow pointers from `x`, at most `n` nodes: the node whose pointer is
empty, or nothing when the fuel ran out first. -/
def chase (parent : α → Option α) : ℕ → α → Option α
  | 0, _ => none
  | n + 1, x =>
    match parent x with
    | none => some x
    | some y => chase parent n y

section Chase

variable {parent : α → Option α}

/-- A node without a pointer is its own end. -/
theorem chase_of_none {x : α} (h : parent x = none) (n : ℕ) :
    chase parent (n + 1) x = some x := by
  rw [chase, h]

/-- A pointer followed costs one unit of fuel. -/
theorem chase_of_some {x y : α} (h : parent x = some y) (n : ℕ) :
    chase parent (n + 1) x = chase parent n y := by
  rw [chase, h]

/-- More fuel finds the same end. -/
theorem chase_mono {n m : ℕ} (hnm : n ≤ m) {x r : α}
    (h : chase parent n x = some r) : chase parent m x = some r := by
  induction n generalizing m x with
  | zero => cases h
  | succ n ih =>
    obtain ⟨m, rfl⟩ : ∃ k, m = k + 1 := ⟨m - 1, by omega⟩
    rcases hx : parent x with _ | y
    · rw [chase_of_none hx] at h ⊢
      exact h
    · rw [chase_of_some hx] at h ⊢
      exact ih (by omega) h

/-- The end of a chain has no pointer. -/
theorem parent_of_chase {n : ℕ} {x r : α} (h : chase parent n x = some r) :
    parent r = none := by
  induction n generalizing x with
  | zero => cases h
  | succ n ih =>
    rcases hx : parent x with _ | y
    · rw [chase_of_none hx] at h
      cases h
      exact hx
    · rw [chase_of_some hx] at h
      exact ih h

end Chase

/-- **A pointer forest**: every chain of pointers ends, after at most
`height` of them. -/
structure PointerForest (α : Type) where
  /-- Where a node points, if it points anywhere. -/
  parent : α → Option α
  /-- A bound on the pointers of a chain. -/
  height : ℕ
  /-- Every chain ends within the bound. -/
  ends : ∀ x, (chase parent (height + 1) x).isSome = true

namespace PointerForest

/-- **The root of a node**: where its pointers end. -/
def root (f : PointerForest α) (x : α) : α :=
  (chase f.parent (f.height + 1) x).get (f.ends x)

/-- Any fuel above the height finds the root. -/
theorem chase_eq_root (f : PointerForest α) {n : ℕ} (hn : f.height < n) (x : α) :
    chase f.parent n x = some (f.root x) :=
  chase_mono hn (Option.some_get (f.ends x)).symm

/-- Whatever end a chase finds is the root. -/
theorem eq_root_of_chase (f : PointerForest α) {n : ℕ} {x r : α}
    (h : chase f.parent n x = some r) : r = f.root x := by
  have h₁ := chase_mono (le_max_left n (f.height + 1)) h
  rw [f.chase_eq_root (lt_of_lt_of_le (Nat.lt_succ_self _) (le_max_right n _))] at h₁
  exact (Option.some.inj h₁).symm

/-- A root has no pointer. -/
@[simp] theorem parent_root (f : PointerForest α) (x : α) :
    f.parent (f.root x) = none :=
  parent_of_chase (f.chase_eq_root (Nat.lt_succ_self _) x)

/-- A node without a pointer is its own root. -/
theorem root_of_parent_none (f : PointerForest α) {x : α} (h : f.parent x = none) :
    f.root x = x :=
  (f.eq_root_of_chase (chase_of_none h 0)).symm

/-- A node has the root of the node it points at. -/
theorem root_of_parent_some (f : PointerForest α) {x y : α} (h : f.parent x = some y) :
    f.root x = f.root y := by
  refine (f.eq_root_of_chase (n := f.height + 2) ?_).symm
  rw [chase_of_some h]
  exact f.chase_eq_root (Nat.lt_succ_self _) y

@[simp] theorem root_root (f : PointerForest α) (x : α) : f.root (f.root x) = f.root x :=
  f.root_of_parent_none (f.parent_root x)

/-- Two forests with the same pointers have the same roots, whatever
bounds they carry. -/
theorem root_congr {f g : PointerForest α} (h : f.parent = g.parent) (x : α) :
    f.root x = g.root x :=
  g.eq_root_of_chase (h ▸ f.chase_eq_root (Nat.lt_succ_self _) x)

/-! ## Linking -/

section Link

variable [DecidableEq α]

/-- A chase in the linked forest runs as before until it reaches the linked
root, and then takes the new pointer. -/
theorem chase_update {parent : α → Option α} {s t : α} (hs : parent s = none)
    (ht : parent t = none) (hst : s ≠ t) {n : ℕ} {x r : α}
    (h : chase parent n x = some r) :
    chase (Function.update parent s (some t)) (n + 1) x
      = some (if r = s then t else r) := by
  have htt : Function.update parent s (some t) t = none := by
    rw [Function.update_of_ne (Ne.symm hst), ht]
  induction n generalizing x with
  | zero => cases h
  | succ n ih =>
    by_cases hxs : x = s
    · rw [hxs, chase_of_none hs] at h
      rw [hxs, chase_of_some (Function.update_self s (some t) parent),
        if_pos (Option.some.inj h).symm, chase_of_none htt]
    · have hup : Function.update parent s (some t) x = parent x :=
        Function.update_of_ne hxs _ _
      rcases hx : parent x with _ | y
      · rw [chase_of_none hx] at h
        cases h
        rw [if_neg hxs]
        exact chase_of_none (hup.trans hx) _
      · rw [chase_of_some hx] at h
        rw [chase_of_some (hup.trans hx)]
        exact ih h

/-- **Point the root `s` at the root `t`.** Every chain gains at most the
one new pointer. -/
def link (f : PointerForest α) (s t : α) (hs : f.parent s = none)
    (ht : f.parent t = none) (hst : s ≠ t) : PointerForest α where
  parent := Function.update f.parent s (some t)
  height := f.height + 1
  ends x := by
    rw [chase_update hs ht hst (f.chase_eq_root (Nat.lt_succ_self _) x)]
    rfl

variable (f : PointerForest α) {s t : α} (hs : f.parent s = none)
  (ht : f.parent t = none) (hst : s ≠ t)

theorem parent_link : (f.link s t hs ht hst).parent = Function.update f.parent s (some t) :=
  rfl

@[simp] theorem parent_link_self : (f.link s t hs ht hst).parent s = some t := by
  rw [parent_link, Function.update_self]

theorem parent_link_of_ne {x : α} (hx : x ≠ s) :
    (f.link s t hs ht hst).parent x = f.parent x := by
  rw [parent_link, Function.update_of_ne hx]

/-- **Linking moves the tree of `s` under `t` and nothing else.** -/
theorem root_link (x : α) :
    (f.link s t hs ht hst).root x = if f.root x = s then t else f.root x :=
  ((f.link s t hs ht hst).eq_root_of_chase
    (chase_update hs ht hst (f.chase_eq_root (Nat.lt_succ_self _) x))).symm

/-- Nodes of one tree stay in one tree. -/
theorem root_link_eq_of_root_eq {x y : α} (h : f.root x = f.root y) :
    (f.link s t hs ht hst).root x = (f.link s t hs ht hst).root y := by
  rw [root_link, root_link, h]

/-- **Two trees become one exactly when they are the two linked.** -/
theorem root_link_eq_iff {x y : α} (h : f.root x ≠ f.root y) :
    (f.link s t hs ht hst).root x = (f.link s t hs ht hst).root y
      ↔ (f.root x = s ∧ f.root y = t) ∨ (f.root x = t ∧ f.root y = s) := by
  rw [root_link, root_link]
  by_cases hx : f.root x = s <;> by_cases hy : f.root y = s
  · exact absurd (hx.trans hy.symm) h
  · rw [if_pos hx, if_neg hy]
    refine ⟨fun he => Or.inl ⟨hx, he.symm⟩, ?_⟩
    rintro (⟨-, he⟩ | ⟨-, he⟩)
    · exact he.symm
    · exact absurd he hy
  · rw [if_neg hx, if_pos hy]
    refine ⟨fun he => Or.inr ⟨he, hy⟩, ?_⟩
    rintro (⟨he, -⟩ | ⟨he, -⟩)
    · exact absurd he hx
    · exact he
  · rw [if_neg hx, if_neg hy]
    refine ⟨fun he => absurd he h, ?_⟩
    rintro (⟨he, -⟩ | ⟨-, he⟩)
    · exact absurd he hx
    · exact absurd he hy

end Link

end PointerForest
