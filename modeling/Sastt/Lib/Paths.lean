import Mathlib.Data.List.DropRight

/-!
# Paths

A path is a list with separators in it. To keep what is stored under a path in
its place, one strips the separators from the ends of the path, and refuses it
if nothing is left or if one of the segments between the separators is the one
that leads upwards. What passes is a `SafePath`.

That is about a single path. A path that is put together from two of them does
not tell where the first one ends, since there may be separators inside both:
the first parts of two such paths can be different and the paths be the same,
and this is the case exactly where one first part lies above the other
(`exists_join_iff`).
-/

variable {α : Type} [DecidableEq α] (sep : α) (up : List α)

/-- A path without the separators at its ends. -/
def stripEnds (path : List α) : List α := (path.dropWhile (· == sep)).rdropWhile (· == sep)

/-- **A safe path**: it is not empty, neither starts nor ends with a separator,
and none of its segments leads upwards. -/
structure SafePath (path : List α) : Prop where
  ne_nil : path ≠ []
  head : path.head? ≠ some sep
  last : path.getLast? ≠ some sep
  segments : up ∉ path.splitOn sep

/-- **A path lies above another one** that goes on behind it with one
separator. -/
def Above (a b : List α) : Prop := a ++ [sep] <+: b ∧ ¬ a ++ [sep, sep] <+: b

instance (a b : List α) : Decidable (Above sep a b) := inferInstanceAs (Decidable (_ ∧ _))

variable {sep up} {path a b c k : List α}

/-! ## Stripping -/

theorem head?_stripEnds (path : List α) : (stripEnds sep path).head? ≠ some sep := by
  intro h
  obtain ⟨dropped, hdropped⟩ := List.rdropWhile_prefix (· == sep) (path.dropWhile (· == sep))
  have hhead : (path.dropWhile (· == sep)).head? = some sep := by
    rw [← hdropped, List.head?_append]
    exact Option.or_eq_some_iff.mpr (Or.inl h)
  have hnot := List.head?_dropWhile_not (· == sep) path
  rw [hhead] at hnot
  simp at hnot

theorem getLast?_stripEnds (path : List α) : (stripEnds sep path).getLast? ≠ some sep := by
  intro h
  obtain ⟨hne, hlast⟩ := List.mem_getLast?_eq_getLast h
  have hnot := List.rdropWhile_last_not (· == sep) (path.dropWhile (· == sep)) hne
  exact hnot (beq_iff_eq.mpr hlast.symm)

/-- What is left after stripping is safe. -/
theorem safePath_stripEnds (hne : stripEnds sep path ≠ [])
    (hsegments : up ∉ (stripEnds sep path).splitOn sep) : SafePath sep up (stripEnds sep path) where
  ne_nil := hne
  head := head?_stripEnds path
  last := getLast?_stripEnds path
  segments := hsegments

namespace SafePath

/-- A safe path is not changed by stripping. -/
theorem stripEnds_eq (h : SafePath sep up path) : stripEnds sep path = path := by
  unfold stripEnds
  rw [List.dropWhile_beq_eq_self_of_head?_ne h.head, List.rdropWhile_eq_self_iff]
  intro hne hsep
  exact h.last ((List.getLast?_eq_some_getLast hne).trans (congrArg some (beq_iff_eq.mp hsep)))

/-! ## Joining -/

/-- Joined safe paths are safe. -/
theorem join (ha : SafePath sep up a) (hk : SafePath sep up k) :
    SafePath sep up (a ++ sep :: k) where
  ne_nil := List.append_ne_nil_of_left_ne_nil ha.ne_nil _
  head := by
    rw [List.head?_append_of_ne_nil _ ha.ne_nil]
    exact ha.head
  last := by
    rw [List.getLast?_append_cons, List.getLast?_cons_of_ne_nil hk.ne_nil]
    exact hk.last
  segments := by
    rw [List.splitOn_append_cons_self, List.mem_append]
    exact not_or.mpr ⟨ha.segments, hk.segments⟩

/-- What follows in a safe path behind a separator is safe, unless another
separator follows. -/
theorem of_join (h : SafePath sep up (a ++ sep :: c)) (hc : c.head? ≠ some sep) :
    SafePath sep up c := by
  have hne : c ≠ [] := by
    rintro rfl
    exact h.last List.getLast?_concat
  refine ⟨hne, hc, ?_, ?_⟩
  · have hlast := h.last
    rwa [List.getLast?_append_cons, List.getLast?_cons_of_ne_nil hne] at hlast
  · have hsegments := h.segments
    rw [List.splitOn_append_cons_self, List.mem_append] at hsegments
    exact (not_or.mp hsegments).2

end SafePath

omit [DecidableEq α] in
/-- What lies below a path continues it. -/
theorem above_iff : Above sep a b ↔ ∃ c, b = a ++ sep :: c ∧ c.head? ≠ some sep := by
  unfold Above
  constructor
  · rintro ⟨⟨c, rfl⟩, hnot⟩
    refine ⟨c, by simp, fun hhead => hnot ?_⟩
    obtain ⟨rest, rfl⟩ := List.head?_eq_some_iff.mp hhead
    exact ⟨rest, by simp⟩
  · rintro ⟨c, rfl, hc⟩
    refine ⟨⟨c, by simp⟩, ?_⟩
    rintro ⟨rest, hrest⟩
    have hcons : sep :: rest = c := by simpa using hrest
    exact hc (hcons ▸ rfl)

/-- Two paths can be continued to the same path where the first one lies above
the second. -/
theorem exists_join_of_above (hb : SafePath sep up b) (hk : SafePath sep up k)
    (h : Above sep a b) :
    ∃ k', SafePath sep up k' ∧ a ++ sep :: k' = b ++ sep :: k := by
  obtain ⟨c, rfl, hc⟩ := above_iff.mp h
  exact ⟨c ++ sep :: k, (hb.of_join hc).join hk, by simp⟩

/-- **Two first parts can make the same path** exactly when they are equal, or
one lies above the other. -/
theorem exists_join_iff (ha : SafePath sep up a) (hb : SafePath sep up b) :
    (∃ k k', SafePath sep up k ∧ SafePath sep up k' ∧ a ++ sep :: k = b ++ sep :: k')
      ↔ a = b ∨ Above sep a b ∨ Above sep b a := by
  -- the longer of the first parts ends inside the other path
  have hcut : ∀ {a b k k' c : List α}, SafePath sep up k → b = a ++ c →
      sep :: k = c ++ sep :: k' → a = b ∨ Above sep a b := by
    intro a b k k' c hk hb hc
    cases c with
    | nil => exact Or.inl (by rw [hb, List.append_nil])
    | cons x c =>
      rw [List.cons_append] at hc
      obtain ⟨rfl, rfl⟩ := List.cons.inj hc
      refine Or.inr (above_iff.mpr ⟨c, hb, fun hhead => hk.head ?_⟩)
      rw [List.head?_append, hhead]
      rfl
  constructor
  · rintro ⟨k, k', hk, hk', h⟩
    obtain ⟨c, hb, hc⟩ | ⟨c, ha, hc⟩ := List.append_eq_append_iff.mp h
    · exact (hcut hk hb hc).imp id Or.inl
    · exact (hcut hk' ha hc).imp Eq.symm Or.inr
  · rintro (rfl | habove | habove)
    · exact ⟨a, a, ha, ha, rfl⟩
    · obtain ⟨k, hk, hjoin⟩ := exists_join_of_above hb ha habove
      exact ⟨k, a, hk, ha, hjoin⟩
    · obtain ⟨k, hk, hjoin⟩ := exists_join_of_above ha ha habove
      exact ⟨a, k, ha, hk, hjoin.symm⟩
