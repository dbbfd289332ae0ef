import Mathlib.Data.List.Zip
import Mathlib.Order.Lattice

/-!
# The slots between neighbours of a list

The elements of a strictly increasing list cut the stretch from its first to its last into
slots, each between an element and the next. No element lies inside a slot
(`le_or_le_of_mem_slots`), and everything between two elements lies in one
(`exists_mem_slots`). So what can change at the elements only is the same all over a slot.
-/

variable {α : Type} {l : List α} {a b : α} {p : α × α}

/-- **The slots of a list**: each element with the next. -/
def slots (l : List α) : List (α × α) := l.zip l.tail

theorem mem_of_mem_slots (hp : p ∈ slots l) : p.1 ∈ l ∧ p.2 ∈ l :=
  (List.of_mem_zip hp).imp_right List.mem_of_mem_tail

variable [LinearOrder α] {x y m : α}

/-- **A slot is not empty, and no element lies inside it.** -/
theorem le_or_le_of_mem_slots (hl : l.Pairwise (· < ·)) (hp : p ∈ slots l) :
    p.1 < p.2 ∧ ∀ x ∈ l, x ≤ p.1 ∨ p.2 ≤ x := by
  induction l with
  | nil => cases hp
  | cons a l ih =>
    obtain ⟨ha, hl⟩ := List.pairwise_cons.mp hl
    cases l with
    | nil => cases hp
    | cons b l =>
      rcases List.mem_cons.mp hp with rfl | hrest
      · refine ⟨ha b List.mem_cons_self, fun x hx => ?_⟩
        rcases List.mem_cons.mp hx with rfl | hx
        · exact Or.inl (le_refl x)
        · rcases List.mem_cons.mp hx with rfl | hx
          · exact Or.inr (le_refl x)
          · exact Or.inr (le_of_lt ((List.pairwise_cons.mp hl).1 x hx))
      · obtain ⟨hlt, hnone⟩ := ih hl hrest
        refine ⟨hlt, fun x hx => ?_⟩
        rcases List.mem_cons.mp hx with rfl | hx
        · exact Or.inl (le_of_lt (ha p.1 (mem_of_mem_slots hrest).1))
        · exact hnone x hx

/-- What lies after the head and before an element lies in a slot. -/
theorem exists_mem_slots_cons (ha : a ≤ m) (hy : y ∈ l) (hm : m < y) :
    ∃ p ∈ slots (a :: l), p.1 ≤ m ∧ m < p.2 := by
  induction l generalizing a with
  | nil => cases hy
  | cons b l ih =>
    rcases lt_or_ge m b with hlt | hle
    · exact ⟨(a, b), List.mem_cons_self, ha, hlt⟩
    · have hy : y ∈ l := by
        refine (List.mem_cons.mp hy).resolve_left (fun h => ?_)
        exact absurd hm (not_lt.mpr (h ▸ hle))
      obtain ⟨p, hp, hslot⟩ := ih hle hy
      exact ⟨p, List.mem_cons_of_mem _ hp, hslot⟩

/-- **What lies between two elements lies in a slot.** -/
theorem exists_mem_slots (hl : l.Pairwise (· < ·)) (hx : x ∈ l) (hxm : x ≤ m) (hy : y ∈ l)
    (hm : m < y) : ∃ p ∈ slots l, p.1 ≤ m ∧ m < p.2 := by
  cases l with
  | nil => cases hx
  | cons a l =>
    have ha : a ≤ m := by
      rcases List.mem_cons.mp hx with rfl | hx
      · exact hxm
      · exact le_trans (le_of_lt ((List.pairwise_cons.mp hl).1 x hx)) hxm
    refine exists_mem_slots_cons ha ((List.mem_cons.mp hy).resolve_left (fun h => ?_)) hm
    exact absurd hm (not_lt.mpr (h ▸ ha))
