import Mathlib.Data.Finset.Card
import Mathlib.Data.List.Sort

/-!
# The leading entries of a list

To take the `n` entries with the largest keys, a program sorts a list by the key and takes the
first `n`. A stable sort leaves entries with one key in the order they had, so of two entries
the one with the larger key is ahead, or of one key the earlier (`Ahead`).

An entry is taken exactly if no `n` others are ahead of it
(`mem_take_insertionSort_iff`).
-/

section Leading

variable {α : Type} {before : α → α → Prop} {key : α → ℕ} {l : List α} {x y : α} {n : ℕ}

/-- **One entry is ahead of another**: its key is larger, or it is the same and the entry
comes before. -/
def Ahead (before : α → α → Prop) (key : α → ℕ) (x y : α) : Prop :=
  key y < key x ∨ key y = key x ∧ before x y

theorem not_ahead_self [Std.Irrefl before] (x : α) : ¬ Ahead before key x x := by
  rintro (hlt | ⟨-, hbefore⟩)
  · exact lt_irrefl _ hlt
  · exact Std.Irrefl.irrefl x hbefore

theorem Ahead.not_ahead [Std.Asymm before] (h : Ahead before key x y) :
    ¬ Ahead before key y x := by
  rcases h with hlt | ⟨heq, hbefore⟩
  · rintro (hlt' | ⟨heq', -⟩)
    · exact lt_asymm hlt hlt'
    · exact hlt.ne heq'.symm
  · rintro (hlt' | ⟨-, hbefore'⟩)
    · exact hlt'.ne heq.symm
    · exact Std.Asymm.asymm _ _ hbefore hbefore'

/-- An entry that comes before all is put where it is ahead of what follows. -/
theorem orderedInsert_pairwise_ahead (hl : l.Pairwise (Ahead before key))
    (hx : ∀ y ∈ l, before x y) :
    (l.orderedInsert (fun a b => key b ≤ key a) x).Pairwise (Ahead before key) := by
  induction l with
  | nil => exact List.pairwise_singleton _ _
  | cons y l ih =>
    obtain ⟨hy, hl'⟩ := List.pairwise_cons.mp hl
    have hfollow : ∀ z ∈ y :: l, key z ≤ key y := by
      intro z hz
      rcases List.mem_cons.mp hz with rfl | hz
      · exact le_rfl
      · exact (hy z hz).elim le_of_lt (fun h => h.1.le)
    rw [List.orderedInsert_cons]
    split_ifs with hle
    · refine List.pairwise_cons.mpr ⟨fun z hz => ?_, hl⟩
      rcases ((hfollow z hz).trans hle).lt_or_eq with hlt | heq
      · exact Or.inl hlt
      · exact Or.inr ⟨heq, hx z hz⟩
    · refine List.pairwise_cons.mpr
        ⟨fun z hz => ?_, ih hl' (fun z hz => hx z (List.mem_cons_of_mem y hz))⟩
      rcases List.mem_cons.mp ((List.perm_orderedInsert _ x l).mem_iff.mp hz) with rfl | hz
      · exact Or.inl (not_le.mp hle)
      · exact hy z hz

/-- **A stable sort puts each entry ahead of what follows it.** -/
theorem insertionSort_pairwise_ahead (hl : l.Pairwise before) :
    (l.insertionSort (fun a b => key b ≤ key a)).Pairwise (Ahead before key) := by
  induction l with
  | nil => exact List.Pairwise.nil
  | cons x l ih =>
    obtain ⟨hx, hl⟩ := List.pairwise_cons.mp hl
    exact orderedInsert_pairwise_ahead (ih hl)
      (fun y hy => hx y ((List.perm_insertionSort _ l).mem_iff.mp hy))

/-- **The entries that are taken** are those that no `n` others are ahead of. -/
theorem mem_take_insertionSort_iff [DecidableEq α] [Std.Irrefl before] [Std.Asymm before]
    (hl : l.Pairwise before) :
    x ∈ (l.insertionSort (fun a b => key b ≤ key a)).take n
      ↔ x ∈ l ∧ ∀ s : Finset α, (∀ y ∈ s, y ∈ l ∧ Ahead before key y x) → s.card < n := by
  have hmem : ∀ {y}, y ∈ l.insertionSort (fun a b => key b ≤ key a) ↔ y ∈ l :=
    (List.perm_insertionSort _ l).mem_iff
  by_cases hx : x ∈ l
  swap
  · exact ⟨fun h => absurd (hmem.mp (List.mem_of_mem_take h)) hx, fun h => absurd h.1 hx⟩
  have hsorted : (l.insertionSort (fun a b => key b ≤ key a)).Pairwise (Ahead before key) :=
    insertionSort_pairwise_ahead hl
  obtain ⟨front, rest, hsplit⟩ := List.append_of_mem (hmem.mpr hx)
  rw [hsplit] at hsorted
  obtain ⟨hfront, hback, hahead⟩ := List.pairwise_append.mp hsorted
  have hnodup : front.Nodup := hfront.imp (fun {y z} h heq => by
    subst heq
    exact not_ahead_self y h)
  have hiff : ∀ y, y ∈ front ↔ y ∈ l ∧ Ahead before key y x := by
    intro y
    constructor
    · intro hy
      exact ⟨hmem.mp (hsplit ▸ List.mem_append_left _ hy), hahead y hy x List.mem_cons_self⟩
    · rintro ⟨hy, hyx⟩
      rw [← hmem, hsplit, List.mem_append, List.mem_cons] at hy
      rcases hy with hy | rfl | hy
      · exact hy
      · exact absurd hyx (not_ahead_self _)
      · exact absurd hyx ((List.pairwise_cons.mp hback).1 y hy).not_ahead
  rw [hsplit]
  constructor
  · intro htake
    refine ⟨hx, fun s hs => ?_⟩
    have hle : s.card ≤ front.length :=
      (Finset.card_le_card (fun y hy => List.mem_toFinset.mpr ((hiff y).mpr (hs y hy)))).trans
        (List.toFinset_card_le front)
    refine hle.trans_lt (not_le.mp (fun hlong => ?_))
    rw [List.take_append_of_le_length hlong] at htake
    exact not_ahead_self x ((hiff x).mp (List.mem_of_mem_take htake)).2
  · rintro ⟨-, hfew⟩
    have hshort : front.length < n := by
      rw [← List.toFinset_card_of_nodup hnodup]
      exact hfew _ (fun y hy => (hiff y).mp (List.mem_toFinset.mp hy))
    obtain ⟨k, rfl⟩ := Nat.exists_eq_add_of_lt hshort
    rw [List.take_append, Nat.add_assoc, Nat.add_sub_cancel_left]
    exact List.mem_append_right _ List.mem_cons_self

end Leading
