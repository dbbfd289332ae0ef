import Mathlib.Data.List.Chain

/-!
# Cutting a list into runs

A loop goes through a list and collects its elements into runs: the next
element goes on with the run that is open, or a new run begins with it. Whether
it goes on may depend on all that is in the run. What comes out is described
without the loop (`IsCut`): the runs make up the list, none is empty, and two
neighbours are in different runs exactly when there is a break between what the
run had until then and the next element.
-/

variable {α : Type}

/-- **The runs of a list**: those that are cut at the breaks and nowhere
else. -/
structure IsCut (breaks : List α → α → Bool) (l : List α) (runs : List (List α)) : Prop where
  flatten : runs.flatten = l
  nonempty : ∀ run ∈ runs, run ≠ []
  between : runs.IsChain (fun run next => ∀ x ∈ next.head?, breaks run x = true)
  within : ∀ run ∈ runs, ∀ before x after, before ≠ [] → run = before ++ x :: after →
    breaks before x = false

namespace Runs

/-- The loop, with the run that is open. -/
def cut (breaks : List α → α → Bool) : List α → List α → List (List α)
  | run, [] => [run]
  | run, x :: xs =>
    if breaks run x then run :: cut breaks [x] xs else cut breaks (run ++ [x]) xs

/-- The runs of a list. -/
def of (breaks : List α → α → Bool) : List α → List (List α)
  | [] => []
  | x :: xs => cut breaks [x] xs

variable {breaks : List α → α → Bool}

/-- There is no break in a run. -/
def Unbroken (breaks : List α → α → Bool) (run : List α) : Prop :=
  ∀ before x after, before ≠ [] → run = before ++ x :: after → breaks before x = false

theorem unbroken_singleton (x : α) : Unbroken breaks [x] := by
  intro before y after hne heq
  cases before with
  | nil => exact absurd rfl hne
  | cons z before =>
    have hlength := congrArg List.length heq
    simp at hlength

/-- A run that goes on. -/
theorem Unbroken.concat {run : List α} (h : Unbroken breaks run) {x : α}
    (hx : breaks run x = false) : Unbroken breaks (run ++ [x]) := by
  intro before y after hne heq
  rcases List.eq_nil_or_concat after with rfl | ⟨after, z, rfl⟩
  · obtain ⟨rfl, hlast⟩ := List.append_inj' heq rfl
    cases hlast
    exact hx
  · rw [List.concat_eq_append, ← List.cons_append, ← List.append_assoc] at heq
    exact h before y after hne (List.append_inj' heq rfl).1

/-- The first run begins as the one that is open does. -/
theorem exists_cut {run : List α} (hne : run ≠ []) (xs : List α) :
    ∃ first rest, cut breaks run xs = first :: rest ∧ first.head? = run.head? := by
  induction xs generalizing run with
  | nil => exact ⟨run, [], rfl, rfl⟩
  | cons x xs ih =>
    unfold cut
    split
    · exact ⟨run, _, rfl, rfl⟩
    · obtain ⟨first, rest, hcut, hhead⟩ := ih (List.append_ne_nil_of_left_ne_nil hne [x])
      exact ⟨first, rest, hcut, hhead.trans (List.head?_append_of_ne_nil run hne)⟩

/-- **The loop cuts at the breaks.** -/
theorem isCut_cut {run : List α} (hne : run ≠ []) (h : Unbroken breaks run) (xs : List α) :
    IsCut breaks (run ++ xs) (cut breaks run xs) := by
  induction xs generalizing run with
  | nil =>
    refine ⟨?_, fun r hr => ?_, List.isChain_singleton _, fun r hr => ?_⟩
    · rw [cut, List.flatten_singleton, List.append_nil]
    · exact List.mem_singleton.mp hr ▸ hne
    · exact List.mem_singleton.mp hr ▸ h
  | cons x xs ih =>
    unfold cut
    split
    · next hbreak =>
      have hrest := ih (List.cons_ne_nil x []) (unbroken_singleton x)
      have hbegins : ∃ first rest, cut breaks [x] xs = first :: rest ∧ first.head? = some x :=
        exists_cut (List.cons_ne_nil x []) xs
      obtain ⟨first, rest, hcut, hhead⟩ := hbegins
      refine ⟨?_, ?_, ?_, ?_⟩
      · rw [List.flatten_cons, hrest.flatten]
        rfl
      · exact List.forall_mem_cons.mpr ⟨hne, hrest.nonempty⟩
      · have hchain := hrest.between
        rw [hcut] at hchain ⊢
        refine List.isChain_cons_cons.mpr ⟨fun y hy => ?_, hchain⟩
        rw [hhead] at hy
        cases hy
        exact hbreak
      · exact List.forall_mem_cons.mpr ⟨h, hrest.within⟩
    · next hgoes =>
      have hrest := ih (List.append_ne_nil_of_left_ne_nil hne [x])
        (h.concat (Bool.eq_false_iff.mpr hgoes))
      rwa [List.append_assoc] at hrest

/-- **The runs of a list are cut at the breaks.** -/
theorem isCut_of (breaks : List α → α → Bool) (l : List α) : IsCut breaks l (of breaks l) := by
  cases l with
  | nil => exact ⟨rfl, nofun, List.isChain_nil, nofun⟩
  | cons x xs => exact isCut_cut (List.cons_ne_nil x []) (unbroken_singleton x) xs

end Runs
