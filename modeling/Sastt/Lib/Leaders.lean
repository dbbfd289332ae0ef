import Mathlib.Algebra.Order.Group.Defs
import Mathlib.Algebra.Order.Group.Unbundled.Basic
import Mathlib.Data.List.Sort

/-!
# The leader of a ranking

Somebody leads if no other comes within a margin of his score. To find the leader it is
enough to rank all by their scores and to compare the first two: with a positive margin
nobody but the first can lead, and he leads all if he leads the second (`leads_cons_iff`).
The scores do not depend on how ties are ranked, and a leader is not in a tie
(`Leads.head?_eq`).
-/

section Leaders

variable {α R : Type} [LinearOrder R] {score : α → R} {l l' : List α} {a b : α}

/-- **A ranking**: no score is below a later one. -/
def Ranked (score : α → R) (l : List α) : Prop := l.Pairwise (fun a b => score b ≤ score a)

theorem ranked_insertionSort (score : α → R) (l : List α) :
    Ranked score (l.insertionSort (fun a b => score b ≤ score a)) := by
  have htotal : Std.Total (fun a b => score b ≤ score a) := ⟨fun a b => le_total _ _⟩
  have htrans : IsTrans α (fun a b => score b ≤ score a) := ⟨fun _ _ _ h h' => h'.trans h⟩
  exact List.pairwise_insertionSort _ l

/-- Nobody is above the first. -/
theorem Ranked.le_head (h : Ranked score (a :: l)) (hb : b ∈ a :: l) : score b ≤ score a := by
  rcases List.mem_cons.mp hb with rfl | hb
  · exact le_refl _
  · exact (List.pairwise_cons.mp h).1 b hb

/-- Two rankings of the same have the same scores. -/
theorem Ranked.scores_eq (h : Ranked score l) (h' : Ranked score l') (hperm : l.Perm l') :
    l.map score = l'.map score :=
  (hperm.map score).eq_of_pairwise (fun _ _ _ _ hle hle' => le_antisymm hle' hle)
    (List.pairwise_map.mpr h) (List.pairwise_map.mpr h')

variable [AddCommGroup R] [IsOrderedAddMonoid R] {margin : R}

/-- **One leads all others** by a margin. -/
def Leads (score : α → R) (margin : R) (l : List α) (a : α) : Prop :=
  a ∈ l ∧ ∀ b ∈ l, b ≠ a → margin ≤ score a - score b

/-- It is the same to lead the second. -/
theorem Ranked.leads_head_iff (h : Ranked score (a :: l)) (hnodup : (a :: l).Nodup) :
    Leads score margin (a :: l) a ↔ ∀ b ∈ l.head?, margin ≤ score a - score b := by
  have hother : ∀ b ∈ l, b ≠ a := fun b hb hba => (List.nodup_cons.mp hnodup).1 (hba ▸ hb)
  constructor
  · intro hleads b hb
    have hmem := List.mem_of_mem_head? hb
    exact hleads.2 b (List.mem_cons_of_mem a hmem) (hother b hmem)
  · intro hsecond
    refine ⟨List.mem_cons_self, fun b hb hba => ?_⟩
    have hmem : b ∈ l := (List.mem_cons.mp hb).resolve_left hba
    cases l with
    | nil => cases hmem
    | cons second l =>
      have hle : score b ≤ score second := Ranked.le_head (List.pairwise_cons.mp h).2 hmem
      exact (hsecond second rfl).trans (sub_le_sub_left hle (score a))

/-- Nobody leads whoever is above him. -/
theorem Leads.eq_of_le (hmargin : 0 < margin) (h : Leads score margin l b) (ha : a ∈ l)
    (hle : score b ≤ score a) : b = a := by
  by_contra hne
  have hlead := h.2 a ha (Ne.symm hne)
  exact absurd (hmargin.trans_le hlead) (not_lt.mpr (sub_nonpos.mpr hle))

/-- **The leader is the first of the ranking, if he leads the second.** -/
theorem leads_cons_iff (hmargin : 0 < margin) (h : Ranked score (a :: l))
    (hnodup : (a :: l).Nodup) : Leads score margin (a :: l) b
      ↔ b = a ∧ ∀ second ∈ l.head?, margin ≤ score a - score second := by
  rw [← h.leads_head_iff hnodup]
  constructor
  · intro hleads
    have hba := hleads.eq_of_le hmargin List.mem_cons_self (h.le_head hleads.1)
    exact ⟨hba, hba ▸ hleads⟩
  · rintro ⟨rfl, hleads⟩
    exact hleads

/-- **A leader is the first of every ranking.** -/
theorem Leads.head?_eq (hmargin : 0 < margin) (hleads : Leads score margin l a)
    (h : Ranked score l) : l.head? = some a := by
  cases l with
  | nil => cases hleads.1
  | cons first l =>
    rw [hleads.eq_of_le hmargin List.mem_cons_self (h.le_head hleads.1)]
    rfl

omit [IsOrderedAddMonoid R] in
/-- Who leads depends on who is there only. -/
theorem Leads.of_perm (hleads : Leads score margin l a) (hperm : l.Perm l') :
    Leads score margin l' a :=
  ⟨hperm.mem_iff.mp hleads.1, fun b hb hne => hleads.2 b (hperm.mem_iff.mpr hb) hne⟩

end Leaders
