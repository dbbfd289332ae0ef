import Mathlib.Algebra.BigOperators.Group.List.Basic
import Mathlib.Data.List.Permutation
import Mathlib.Data.List.Sublists
import Mathlib.Data.Set.Finite.Lemmas

/-!
# Best assignments of two lists

The entries of one list, the rows, are assigned entries of another one, the
columns: as many as there can be, and neither a row nor a column twice. An
assignment is best if none has a larger total.

What a best assignment is does not depend on what the rows and columns are called:
renaming them renames the best assignments (`BestAssigns.map`), and gives no other
ones (`BestAssigns.exists_of_map`). So a solver that knows numbers of rows and
columns can be read as one of names.
-/

variable {α β γ δ R : Type} {rows : List α} {columns : List β} {pairs : List (α × β)}
  {f : α → γ} {g : β → δ}

/-- **An assignment of columns to rows.** -/
structure Assigns (rows : List α) (columns : List β) (pairs : List (α × β)) : Prop where
  nodup_rows : (pairs.map Prod.fst).Nodup
  nodup_columns : (pairs.map Prod.snd).Nodup
  mem : ∀ p ∈ pairs, p.1 ∈ rows ∧ p.2 ∈ columns
  full : pairs.length = min rows.length columns.length

/-- Lists without repetitions have one. -/
theorem assigns_zip (hrows : rows.Nodup) (hcolumns : columns.Nodup) :
    Assigns rows columns (rows.zip columns) where
  nodup_rows := by
    rw [List.zip_eq_zip_take_min, List.map_fst_zip (by simp)]
    exact hrows.sublist (List.take_sublist _ _)
  nodup_columns := by
    rw [List.zip_eq_zip_take_min, List.map_snd_zip (by simp)]
    exact hcolumns.sublist (List.take_sublist _ _)
  mem p hp := List.of_mem_zip hp
  full := List.length_zip

/-- Nothing is assigned to or from nobody. -/
theorem Assigns.eq_nil (h : Assigns rows columns pairs) (hempty : rows = [] ∨ columns = []) :
    pairs = [] := by
  refine List.eq_nil_of_length_eq_zero (h.full.trans ?_)
  rcases hempty with rfl | rfl
  · exact Nat.zero_min _
  · exact Nat.min_zero _

/-- One is assigned to one. -/
theorem Assigns.eq_singleton {a : α} {b : β} (h : Assigns [a] [b] pairs) : pairs = [(a, b)] := by
  obtain ⟨p, rfl⟩ := List.length_eq_one_iff.mp h.full
  obtain ⟨hrow, hcolumn⟩ := h.mem p List.mem_cons_self
  exact congrArg (fun q => [q]) (Prod.ext (List.mem_singleton.mp hrow)
    (List.mem_singleton.mp hcolumn))

/-- There are finitely many. -/
theorem finite_assigns (rows : List α) (columns : List β) :
    {pairs | Assigns rows columns pairs}.Finite := by
  refine ((List.finite_toSet ((rows ×ˢ columns).sublists.flatMap List.permutations))).subset ?_
  intro pairs h
  have hsubset : pairs ⊆ rows ×ˢ columns := fun p hp => List.mem_product.mpr (h.mem p hp)
  obtain ⟨l, hperm, hsub⟩ := (h.nodup_rows.of_map _).subperm hsubset
  exact List.mem_flatMap.mpr
    ⟨l, List.mem_sublists.mpr hsub, List.mem_permutations.mpr hperm.symm⟩

/-! ## Renaming -/

/-- Renaming the rows and the columns renames an assignment. -/
theorem Assigns.map (h : Assigns rows columns pairs) (hrows : (rows.map f).Nodup)
    (hcolumns : (columns.map g).Nodup) :
    Assigns (rows.map f) (columns.map g) (pairs.map (Prod.map f g)) where
  nodup_rows := by
    have hinj : ∀ p ∈ pairs, ∀ q ∈ pairs, f p.1 = f q.1 → p.1 = q.1 := fun p hp q hq =>
      fun heq => List.inj_on_of_nodup_map hrows (h.mem p hp).1 (h.mem q hq).1 heq
    rw [List.map_map, show Prod.fst ∘ Prod.map f g = f ∘ Prod.fst from rfl, ← List.map_map]
    refine h.nodup_rows.map_on ?_
    simpa using fun a b hab a' b' hab' => hinj (a, b) hab (a', b') hab'
  nodup_columns := by
    have hinj : ∀ p ∈ pairs, ∀ q ∈ pairs, g p.2 = g q.2 → p.2 = q.2 := fun p hp q hq =>
      fun heq => List.inj_on_of_nodup_map hcolumns (h.mem p hp).2 (h.mem q hq).2 heq
    rw [List.map_map, show Prod.snd ∘ Prod.map f g = g ∘ Prod.snd from rfl, ← List.map_map]
    refine h.nodup_columns.map_on ?_
    simpa using fun b a hab b' a' hab' => hinj (a, b) hab (a', b') hab'
  mem := by
    rw [List.forall_mem_map]
    exact fun p hp =>
      ⟨List.mem_map_of_mem (h.mem p hp).1, List.mem_map_of_mem (h.mem p hp).2⟩
  full := by rw [List.length_map, List.length_map, List.length_map, h.full]

/-- **There are no others** with the new names. -/
theorem Assigns.exists_of_map {pairs : List (γ × δ)}
    (h : Assigns (rows.map f) (columns.map g) pairs) :
    ∃ pairs', Assigns rows columns pairs' ∧ pairs'.map (Prod.map f g) = pairs := by
  have hback : ∀ l : List (γ × δ), (∀ p ∈ l, p.1 ∈ rows.map f ∧ p.2 ∈ columns.map g) →
      ∃ l' : List (α × β), (∀ p ∈ l', p.1 ∈ rows ∧ p.2 ∈ columns) ∧ l'.map (Prod.map f g) = l := by
    intro l
    induction l with
    | nil => exact fun _ => ⟨[], by simp, rfl⟩
    | cons p l ih =>
      intro hmem
      obtain ⟨l', hl', hmap⟩ := ih (fun q hq => hmem q (List.mem_cons_of_mem p hq))
      obtain ⟨hrow, hcolumn⟩ := hmem p List.mem_cons_self
      obtain ⟨a, ha, hfa⟩ := List.mem_map.mp hrow
      obtain ⟨b, hb, hgb⟩ := List.mem_map.mp hcolumn
      refine ⟨(a, b) :: l', List.forall_mem_cons.mpr ⟨⟨ha, hb⟩, hl'⟩, ?_⟩
      rw [List.map_cons, hmap, Prod.map_apply, hfa, hgb]
  obtain ⟨pairs', hmem, rfl⟩ := hback pairs h.mem
  have hnodup := h.nodup_rows
  have hnodup' := h.nodup_columns
  rw [List.map_map, show Prod.fst ∘ Prod.map f g = f ∘ Prod.fst from rfl, ← List.map_map] at hnodup
  rw [List.map_map, show Prod.snd ∘ Prod.map f g = g ∘ Prod.snd from rfl, ← List.map_map] at hnodup'
  refine ⟨pairs', ⟨hnodup.of_map f, hnodup'.of_map g, hmem, ?_⟩, rfl⟩
  simpa using h.full

/-! ## The largest total -/

/-- The total of an assignment. -/
def assignedTotal [AddCommMonoid R] (score : α → β → R) (pairs : List (α × β)) : R :=
  (pairs.map (fun p => score p.1 p.2)).sum

/-- **An assignment of maximum total.** -/
structure BestAssigns [AddCommMonoid R] [LE R] (score : α → β → R) (rows : List α)
    (columns : List β) (pairs : List (α × β)) : Prop extends Assigns rows columns pairs where
  le_total : ∀ other, Assigns rows columns other →
    assignedTotal score other ≤ assignedTotal score pairs

variable [AddCommMonoid R] {score : α → β → R} {score' : γ → δ → R}

/-- **There is one.** -/
theorem exists_bestAssigns [LinearOrder R] (score : α → β → R) (hrows : rows.Nodup)
    (hcolumns : columns.Nodup) : ∃ pairs, BestAssigns score rows columns pairs := by
  obtain ⟨pairs, h, hmax⟩ := Set.exists_max_image _ (assignedTotal score)
    (finite_assigns rows columns) ⟨_, assigns_zip hrows hcolumns⟩
  exact ⟨pairs, h, hmax⟩

/-- Renaming keeps the total. -/
theorem assignedTotal_map (hscore : ∀ a ∈ rows, ∀ b ∈ columns, score' (f a) (g b) = score a b)
    (h : Assigns rows columns pairs) :
    assignedTotal score' (pairs.map (Prod.map f g)) = assignedTotal score pairs := by
  unfold assignedTotal
  rw [List.map_map]
  exact congrArg List.sum
    (List.map_congr_left (fun p hp => hscore p.1 (h.mem p hp).1 p.2 (h.mem p hp).2))

variable [LE R]

/-- **Renaming the rows and the columns renames a best assignment.** -/
theorem BestAssigns.map (hscore : ∀ a ∈ rows, ∀ b ∈ columns, score' (f a) (g b) = score a b)
    (h : BestAssigns score rows columns pairs) (hrows : (rows.map f).Nodup)
    (hcolumns : (columns.map g).Nodup) :
    BestAssigns score' (rows.map f) (columns.map g) (pairs.map (Prod.map f g)) where
  toAssigns := h.toAssigns.map hrows hcolumns
  le_total := by
    intro other hother
    obtain ⟨other', hother', rfl⟩ := hother.exists_of_map
    rw [assignedTotal_map hscore hother', assignedTotal_map hscore h.toAssigns]
    exact h.le_total other' hother'

/-- **There are no other best ones** with the new names. -/
theorem BestAssigns.exists_of_map {pairs : List (γ × δ)}
    (hscore : ∀ a ∈ rows, ∀ b ∈ columns, score' (f a) (g b) = score a b)
    (h : BestAssigns score' (rows.map f) (columns.map g) pairs) (hrows : (rows.map f).Nodup)
    (hcolumns : (columns.map g).Nodup) :
    ∃ pairs', BestAssigns score rows columns pairs' ∧ pairs'.map (Prod.map f g) = pairs := by
  obtain ⟨pairs', hpairs', rfl⟩ := h.toAssigns.exists_of_map
  refine ⟨pairs', ⟨hpairs', fun other hother => ?_⟩, rfl⟩
  have hle := h.le_total _ (hother.map hrows hcolumns)
  rwa [assignedTotal_map hscore hother, assignedTotal_map hscore hpairs'] at hle
