import Mathlib.Data.List.Forall2
import Mathlib.Order.Lattice

/-!
# Slices of a line

Half-open slices `[s, e)` of a linear order, given by their two ends. A list
of slices `Partitions` a segment when the slices come in order, none is
empty, no two meet, and a point lies in one of them exactly when it lies in
the segment. `Tiles` is the same thing read off the list: each slice starts
where the one before it ended. A loop that hands out slices one after
another produces tiles, and whether they partition what they were meant to
is then a question about one point, the end of the last one
(`Tiles.partitions_iff`).
-/

variable {α : Type} [LinearOrder α]

/-- **The slices partition `[a, b)`.** -/
structure Partitions (l : List (α × α)) (a b : α) : Prop where
  /-- In order, and pairwise disjoint. -/
  ordered : l.Pairwise (fun x y => x.2 ≤ y.1)
  /-- None is empty. -/
  nonempty : ∀ x ∈ l, x.1 < x.2
  /-- Their union is the segment. -/
  covers : ∀ t, (∃ x ∈ l, x.1 ≤ t ∧ t < x.2) ↔ a ≤ t ∧ t < b

/-- The slices tile the way from `a` to `b`: each starts where the one
before it ended. -/
def Tiles (a : α) : List (α × α) → α → Prop
  | [], b => a = b
  | (s, e) :: l, b => s = a ∧ s < e ∧ Tiles e l b

namespace Tiles

theorem le {a b : α} {l : List (α × α)} (h : Tiles a l b) : a ≤ b := by
  induction l generalizing a with
  | nil => exact le_of_eq h
  | cons x l ih =>
    obtain ⟨rfl, hlt, h⟩ := h
    exact le_trans (le_of_lt hlt) (ih h)

theorem lt_of_mem {a b : α} {l : List (α × α)} (h : Tiles a l b) {x : α × α} (hx : x ∈ l) :
    x.1 < x.2 := by
  induction l generalizing a with
  | nil => cases hx
  | cons y l ih =>
    obtain ⟨rfl, hlt, h⟩ := h
    rcases List.mem_cons.mp hx with rfl | hx
    · exact hlt
    · exact ih h hx

/-- A tile lies between the ends. -/
theorem bounds_of_mem {a b : α} {l : List (α × α)} (h : Tiles a l b) {x : α × α}
    (hx : x ∈ l) : a ≤ x.1 ∧ x.2 ≤ b := by
  induction l generalizing a with
  | nil => cases hx
  | cons y l ih =>
    obtain ⟨rfl, hlt, h⟩ := h
    rcases List.mem_cons.mp hx with rfl | hx
    · exact ⟨le_rfl, h.le⟩
    · exact ⟨le_trans (le_of_lt hlt) (ih h hx).1, (ih h hx).2⟩

theorem ordered {a b : α} {l : List (α × α)} (h : Tiles a l b) :
    l.Pairwise (fun x y => x.2 ≤ y.1) := by
  induction l generalizing a with
  | nil => exact List.Pairwise.nil
  | cons x l ih =>
    obtain ⟨rfl, -, h⟩ := h
    exact List.Pairwise.cons (fun y hy => (h.bounds_of_mem hy).1) (ih h)

/-- Tiles that go on where others stopped. -/
theorem append {a b c : α} {l l' : List (α × α)} (h : Tiles a l b) (h' : Tiles b l' c) :
    Tiles a (l ++ l') c := by
  induction l generalizing a with
  | nil => exact (show a = b from h) ▸ h'
  | cons x l ih =>
    obtain ⟨hs, hlt, h⟩ := h
    exact ⟨hs, hlt, ih h⟩

/-- A point between the ends lies in a tile. -/
theorem exists_mem {a b : α} {l : List (α × α)} (h : Tiles a l b) {t : α}
    (hat : a ≤ t) (htb : t < b) : ∃ x ∈ l, x.1 ≤ t ∧ t < x.2 := by
  induction l generalizing a with
  | nil => exact absurd (lt_of_le_of_lt hat htb) (lt_irrefl a ∘ (h ▸ ·))
  | cons x l ih =>
    obtain ⟨rfl, -, h⟩ := h
    rcases lt_or_ge t x.2 with ht | ht
    · exact ⟨x, List.mem_cons_self, hat, ht⟩
    · obtain ⟨y, hy, hyt⟩ := ih h ht
      exact ⟨y, List.mem_cons_of_mem x hy, hyt⟩

/-- **Tiles partition the way they tile.** -/
theorem partitions {a b : α} {l : List (α × α)} (h : Tiles a l b) : Partitions l a b where
  ordered := h.ordered
  nonempty _ hx := h.lt_of_mem hx
  covers t := by
    constructor
    · rintro ⟨x, hx, hxt, htx⟩
      obtain ⟨hax, hxb⟩ := h.bounds_of_mem hx
      exact ⟨le_trans hax hxt, lt_of_lt_of_le htx hxb⟩
    · rintro ⟨hat, htb⟩
      exact h.exists_mem hat htb

/-- **Tiles that stop at `c` partition `[a, b)` exactly when `c` is its
end**: a point between `c` and `b` is in no tile. -/
theorem partitions_iff {a b c : α} {l : List (α × α)} (h : Tiles a l c) (hcb : c ≤ b) :
    Partitions l a b ↔ c = b := by
  constructor
  · intro hp
    refine le_antisymm hcb (not_lt.mp (fun hlt => ?_))
    obtain ⟨x, hx, -, hcx⟩ := (hp.covers c).mpr ⟨h.le, hlt⟩
    exact absurd (h.bounds_of_mem hx).2 (not_le.mpr hcx)
  · rintro rfl
    exact h.partitions

end Tiles

/-! ## Families of slices -/

/-- **Slices that come in families are pairwise in a relation** when those of one
family are, and the families are kept apart by what they belong to. -/
theorem pairwise_flatten_of_forall₂ {ι β : Type} {P : ι → List β → Prop} {D : ι → ι → Prop}
    {R : β → β → Prop} {xs : List ι} {families : List (List β)}
    (h : List.Forall₂ P xs families) (hxs : xs.Pairwise D)
    (hfamily : ∀ x family, P x family → family.Pairwise R)
    (hapart : ∀ x x' family family', D x x' → P x family → P x' family' →
      ∀ y ∈ family, ∀ y' ∈ family', R y y') : families.flatten.Pairwise R := by
  induction h with
  | nil => exact List.Pairwise.nil
  | @cons x family xs families hfirst hrest ih =>
    obtain ⟨hx, hxs⟩ := List.pairwise_cons.mp hxs
    rw [List.flatten_cons]
    refine List.pairwise_append.mpr ⟨hfamily x family hfirst, ih hxs, fun y hy y' hy' => ?_⟩
    obtain ⟨family', hfamily', hy'⟩ := List.mem_flatten.mp hy'
    obtain ⟨i, hi, rfl⟩ := List.getElem_of_mem hfamily'
    have hlength := hrest.length_eq
    have hx' : xs[i] ∈ xs := List.getElem_mem (hlength ▸ hi)
    exact hapart x _ family _ (hx _ hx') hfirst (hrest.get (hlength ▸ hi) hi) y hy y' hy'
